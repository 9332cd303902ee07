import ArtifactTrust.Der.Length

/-!
# A reading position in a buffer

A cursor stands in a fixed buffer, never behind its end (`Cursor.inside`). Reading gives the octets at the position and
advances by their number; what would leave the buffer is refused and, a length broken off in the middle apart, leaves the
position where it was.
-/

namespace ArtifactTrust.Der

/-- A position in a buffer. -/
structure Cursor where
  buffer : Bytes
  position : Nat
  inside : position ≤ buffer.length

namespace Cursor

/-- The cursor at the front of a buffer. -/
def start (buffer : Bytes) : Cursor := ⟨buffer, 0, Nat.zero_le _⟩

/-- The octets from the position on. -/
def rest (c : Cursor) : Bytes := c.buffer.drop c.position

/-- The number of octets from the position on. -/
def remaining (c : Cursor) : Nat := c.buffer.length - c.position

/-- The cursor `n` octets further on, or at the end where fewer are left. -/
def advance (c : Cursor) (n : Nat) : Cursor :=
  ⟨c.buffer, min (c.position + n) c.buffer.length, Nat.min_le_right _ _⟩

/-- Moves to a position. -/
def seek (c : Cursor) (position : Nat) : Except Malformed Unit × Cursor :=
  if h : position ≤ c.buffer.length then (.ok (), ⟨c.buffer, position, h⟩)
  else (.error (.seekOutOfBuffer position c.buffer.length), c)

/-- The octets of a range of the buffer, which does not move the cursor. -/
def slice (c : Cursor) (offset size : Nat) : Except Malformed Bytes :=
  if offset + size ≤ c.buffer.length then .ok ((c.buffer.drop offset).take size)
  else .error (.outOfBuffer size offset c.buffer.length)

/-- Reads a number of octets. -/
def get (c : Cursor) (size : Nat) : Except Malformed Bytes × Cursor :=
  match c.slice c.position size with
  | .ok octets => (.ok octets, c.advance size)
  | .error fault => (.error fault, c)

/-- Reads one octet. -/
def octet (c : Cursor) : Except Malformed UInt8 × Cursor :=
  match c.rest with
  | [] => (.error .endOfBuffer, c)
  | octet :: _ => (.ok octet, c.advance 1)

/-- Reads a big-endian number of a given width. -/
def number (c : Cursor) (width : Nat) : Except Malformed Nat × Cursor :=
  match c.get width with
  | (.ok octets, c) => (.ok (Bytes.toNat octets), c)
  | (.error fault, c) => (.error fault, c)

/-- Reads a length. -/
def length (c : Cursor) : Except Malformed Nat × Cursor :=
  let (result, taken) := Length.read c.rest
  (result, c.advance taken)

end Cursor

end ArtifactTrust.Der
