import ArtifactTrust.Proofs.Der.Cursor

/-!
# Cursors in words of 64 bits

A position can also be held in a word of 64 bits, with nothing that keeps it inside of the buffer (`WordCursor`). Every sum, every
difference and every access to the buffer is then one that may not exist, and traps (`none`). The operations of a cursor are
written out here in such words. In a buffer whose size is a word none of them traps: on the words of a cursor (`Cursor.word`) each
gives what it gives on the cursor (`word_remaining`, `word_seek`, `word_slice`, `word_get`, `word_octet`, `word_number`,
`word_length`).
-/

namespace ArtifactTrust.Der

/-- A buffer and a position in a word, which nothing keeps inside of it. -/
structure WordCursor where
  buffer : Bytes
  position : UInt64

namespace WordCursor

/-- The sum of two words, if it is a word. -/
def plus (a b : UInt64) : Option UInt64 := if a.toNat + b.toNat < 2 ^ 64 then some (a + b) else none

/-- The difference of two words, if it is a word. -/
def minus (a b : UInt64) : Option UInt64 := if b ≤ a then some (a - b) else none

/-- The octets from one place up to another, if these places are in order and not behind the end. -/
def between (b : Bytes) (first last : UInt64) : Option Bytes :=
  if first ≤ last ∧ last.toNat ≤ b.length then some (b.extract first.toNat last.toNat) else none

/-- The front of a buffer. -/
def start (buffer : Bytes) : WordCursor := ⟨buffer, 0⟩

/-- The size of the buffer. -/
def size (c : WordCursor) : UInt64 := UInt64.ofNat c.buffer.length

/-- The number of octets from the position on. -/
def remaining (c : WordCursor) : Option UInt64 := minus c.size c.position

/-- Moves to a position. -/
def seek (c : WordCursor) (position : UInt64) : Except Malformed Unit × WordCursor :=
  if c.size < position then (.error (.seekOutOfBuffer position.toNat c.size.toNat), c)
  else (.ok (), { c with position := position })

/-- The octets of a range of the buffer. An end that is no word does not trap: it is refused, like any other behind the end of
the buffer. -/
def slice (c : WordCursor) (offset size : UInt64) : Option (Except Malformed Bytes) :=
  match (plus offset size).filter (· ≤ c.size) with
  | some last => (between c.buffer offset last).map .ok
  | none => some (.error (.outOfBuffer size.toNat offset.toNat c.size.toNat))

/-- Reads a number of octets. -/
def get (c : WordCursor) (size : UInt64) : Option (Except Malformed Bytes × WordCursor) := do
  match ← c.slice c.position size with
  | .ok octets => return (.ok octets, { c with position := ← plus c.position size })
  | .error fault => return (.error fault, c)

/-- Reads one octet. -/
def octet (c : WordCursor) : Option (Except Malformed UInt8 × WordCursor) :=
  match c.buffer[c.position.toNat]? with
  | some octet => do return (.ok octet, { c with position := ← plus c.position 1 })
  | none => some (.error .endOfBuffer, c)

/-- Reads a big-endian number of a given width. The word that the octets are shifted into takes exactly as many of them. -/
def number (c : WordCursor) (width : UInt64) : Option (Except Malformed Nat × WordCursor) := do
  match ← c.get width with
  | (.ok octets, c) => if octets.length = width.toNat then return (.ok (Bytes.shiftInto 0 octets).toNat, c) else none
  | (.error fault, c) => return (.error fault, c)

/-- Reads octets one after the other and shifts them into a word. -/
def shiftOctets (c : WordCursor) (word : UInt64) : Nat → Option (Except Malformed Nat × WordCursor)
  | 0 => some (.ok word.toNat, c)
  | count + 1 => do
    match ← c.octet with
    | (.ok octet, c) => c.shiftOctets (word <<< 8 ||| octet.toUInt64) count
    | (.error fault, c) => return (.error fault, c)

/-- Reads a length. -/
def length (c : WordCursor) : Option (Except Malformed Nat × WordCursor) := do
  match ← c.octet with
  | (.ok first, c) =>
    let count := (first &&& 0x7f).toNat
    if first &&& 0x80 = 0 then return (.ok first.toNat, c)
    else if count = 0 then return (.error .indefiniteLength, c)
    else if maxLengthOctets < count then return (.error .longLength, c)
    else c.shiftOctets 0 count
  | (.error fault, c) => return (.error fault, c)

/-- The top bit of an octet, and the others. -/
theorem octet_bits (octet : UInt8) :
    (octet &&& 0x80 = 0 ↔ octet < 0x80) ∧ (¬ octet < 0x80 → (octet &&& 0x7f).toNat = octet.toNat - 128) := by
  revert octet
  exact Bytes.forall_octet (by decide +kernel)

end WordCursor

namespace Cursor

open WordCursor

/-- A cursor in words. -/
def word (c : Cursor) : WordCursor := ⟨c.buffer, UInt64.ofNat c.position⟩

variable {c : Cursor}

/-! ## Positions -/

section Words

variable (h : c.buffer.length < 2 ^ 64)

include h

theorem toNat_size_word : c.word.size.toNat = c.buffer.length := UInt64.toNat_ofNat_of_lt' h

theorem toNat_position_word : c.word.position.toNat = c.position :=
  UInt64.toNat_ofNat_of_lt' (Nat.lt_of_le_of_lt c.inside h)

/-- What is inside of the buffer can be passed. -/
theorem plus_position {n : UInt64} (hn : c.position + n.toNat ≤ c.buffer.length) :
    plus c.word.position n = some (c.advance n.toNat).word.position := by
  have hposition := toNat_position_word h
  rw [plus, if_pos (by omega), advance_of_le hn, Option.some_inj, ← UInt64.toNat_inj, UInt64.toNat_add, hposition]
  exact UInt64.toNat_ofNat'.symm

/-! ## Operations -/

theorem word_remaining : ∃ left, c.word.remaining = some left ∧ c.position + left.toNat = c.buffer.length := by
  have hposition := toNat_position_word h
  have hsize := toNat_size_word h
  have hinside := c.inside
  have hle : c.word.position ≤ c.word.size := by
    rw [UInt64.le_iff_toNat_le]
    omega
  refine ⟨_, if_pos hle, ?_⟩
  rw [UInt64.toNat_sub_of_le _ _ hle]
  omega

theorem word_seek (position : UInt64) : c.word.seek position = (c.seek position.toNat).map id word := by
  have hsize := toNat_size_word h
  rw [WordCursor.seek, Cursor.seek]
  by_cases hinside : position.toNat ≤ c.buffer.length
  · have hle : ¬ c.word.size < position := by
      rw [UInt64.lt_iff_toNat_lt]
      omega
    rw [if_neg hle, dif_pos hinside]
    simp [word]
  · have hlt : c.word.size < position := by
      rw [UInt64.lt_iff_toNat_lt]
      omega
    rw [if_pos hlt, dif_neg hinside, hsize]
    rfl

/-- The end of a range is a word inside of the buffer exactly if it is inside of the buffer. -/
theorem word_slice (offset size : UInt64) : c.word.slice offset size = some (c.slice offset.toNat size.toNat) := by
  have hsize := toNat_size_word h
  rw [WordCursor.slice, Cursor.slice]
  by_cases hinside : offset.toNat + size.toNat ≤ c.buffer.length
  · have hlast : (offset + size).toNat = offset.toNat + size.toNat := by
      rw [UInt64.toNat_add]
      omega
    have hplus : (plus offset size).filter (· ≤ c.word.size) = some (offset + size) := by
      rw [plus, if_pos (by omega), Option.filter_some, if_pos]
      rw [decide_eq_true_eq, UInt64.le_iff_toNat_le]
      omega
    have hbetween : offset ≤ offset + size ∧ (offset + size).toNat ≤ c.word.buffer.length := by
      rw [UInt64.le_iff_toNat_le, hlast]
      exact ⟨Nat.le_add_right _ _, hinside⟩
    rw [hplus, if_pos hinside]
    dsimp only
    rw [between, if_pos hbetween, hlast, List.extract_eq_take_drop, Nat.add_sub_cancel_left]
    rfl
  · have hplus : (plus offset size).filter (· ≤ c.word.size) = none := by
      rw [Option.filter_eq_none_iff]
      intro last hlast
      rw [plus] at hlast
      split at hlast
      · cases hlast
        rw [decide_eq_true_eq, UInt64.le_iff_toNat_le, UInt64.toNat_add]
        omega
      · cases hlast
    rw [hplus, if_neg hinside, hsize]

theorem word_get (size : UInt64) : c.word.get size = some ((c.get size.toNat).map id word) := by
  rw [WordCursor.get, word_slice h, toNat_position_word h, Cursor.get]
  cases hslice : c.slice c.position size.toNat with
  | error fault => rfl
  | ok octets =>
    have hplus := plus_position h (slice_eq_ok_iff.mp hslice).1
    show (plus c.word.position size).bind (fun position => some (Except.ok octets, { c.word with position := position })) = _
    rw [hplus]
    rfl

theorem word_octet : c.word.octet = some (c.octet.map id word) := by
  have hhead : c.word.buffer[c.word.position.toNat]? = c.rest.head? := by
    rw [toNat_position_word h]
    exact List.head?_drop.symm
  rw [WordCursor.octet, hhead, Cursor.octet]
  cases hrest : c.rest with
  | nil => rfl
  | cons octet rest =>
    have hlength := length_rest c
    rw [hrest, List.length_cons] at hlength
    have hinside : c.position + (1 : UInt64).toNat ≤ c.buffer.length := by
      show c.position + 1 ≤ c.buffer.length
      omega
    have hplus := plus_position h hinside
    show (plus c.word.position 1).bind (fun position => some (Except.ok octet, { c.word with position := position })) = _
    rw [hplus]
    rfl

/-- A word has room for eight octets. -/
theorem word_number {width : UInt64} (hwidth : width.toNat ≤ 8) :
    c.word.number width = some ((c.number width.toNat).map id word) := by
  rw [WordCursor.number, word_get h, Cursor.number]
  rcases hget : c.get width.toNat with ⟨fault | taken, c'⟩
  · rfl
  · obtain ⟨hlength, -⟩ := get_eq_ok_iff.mp hget
    show (if taken.length = width.toNat then some (Except.ok (Bytes.shiftInto 0 taken).toNat, c'.word) else none) = _
    rw [if_pos hlength, Bytes.toNat_shiftInto_zero (by omega)]
    rfl

/-- Octets that are read one after the other are those that are left, and where these are too few the end is reached. -/
theorem word_shiftOctets (value : UInt64) (count : Nat) :
    c.word.shiftOctets value count =
      some (if c.rest.length < count then .error .endOfBuffer else .ok (Bytes.shiftInto value (c.rest.take count)).toNat,
        (c.advance count).word) := by
  induction count generalizing c value with
  | zero => simp [shiftOctets, Bytes.shiftInto]
  | succ count ih =>
    rw [shiftOctets, word_octet h, Cursor.octet]
    cases hrest : c.rest with
    | nil =>
      have hend : c.advance (count + 1) = c.advance 0 := advance_eq_advance (by simp [hrest]) (by simp [hrest])
      simp [hend]
    | cons octet rest =>
      have hstep := @ih (c.advance 1) h (value <<< 8 ||| octet.toUInt64)
      rw [rest_advance_one hrest, advance_advance, Nat.add_comm 1] at hstep
      refine hstep.trans ?_
      simp [Bytes.shiftInto]

theorem word_length : c.word.length = some (c.length.map id word) := by
  rw [WordCursor.length, word_octet h, Cursor.octet, Cursor.length]
  cases hrest : c.rest with
  | nil =>
    show some (Except.error Malformed.endOfBuffer, c.word) = some (Except.error .endOfBuffer, (c.advance 0).word)
    rw [advance_zero]
  | cons first rest =>
    obtain ⟨htop, hothers⟩ := octet_bits first
    have hlater := fun count => word_shiftOctets (c := c.advance 1) h 0 count
    rw [rest_advance_one hrest] at hlater
    show (if first &&& 0x80 = 0 then some (Except.ok first.toNat, (c.advance 1).word)
        else if (first &&& 0x7f).toNat = 0 then some (.error .indefiniteLength, (c.advance 1).word)
        else if maxLengthOctets < (first &&& 0x7f).toNat then some (.error .longLength, (c.advance 1).word)
        else (c.advance 1).word.shiftOctets 0 (first &&& 0x7f).toNat) =
      some ((Length.read (first :: rest)).1, (c.advance (Length.read (first :: rest)).2).word)
    rw [Length.read]
    by_cases hfirst : first < 0x80
    · rw [if_pos (htop.mpr hfirst), if_pos hfirst]
    · rw [if_neg (htop.not.mpr hfirst), if_neg hfirst, hothers hfirst]
      generalize first.toNat - 128 = count
      by_cases hzero : count = 0
      · rw [if_pos hzero, if_pos hzero]
      by_cases hmany : maxLengthOctets < count
      · rw [if_neg hzero, if_neg hzero, if_pos hmany, if_pos hmany]
      rw [if_neg hzero, if_neg hzero, if_neg hmany, if_neg hmany, hlater, advance_advance]
      by_cases hfew : rest.length < count
      · rw [if_pos hfew, if_pos hfew]
        have hend : c.advance (1 + count) = c.advance (1 + rest.length) := by
          apply advance_eq_advance <;> rw [hrest, List.length_cons] <;> omega
        rw [hend]
      · rw [if_neg hfew, if_neg hfew, Bytes.toNat_shiftInto_zero]
        unfold maxLengthOctets at hmany
        rw [List.length_take]
        omega

end Words

end Cursor

end ArtifactTrust.Der
