import ArtifactTrust.Bytes

/-!
# Vectors with a length in front

In TLS encodings a vector is preceded by the number of its octets, in a fixed number of octets. What is read has the size that its
encoding has room for, and says so in its type; a longer vector cannot be written (`Tls.write?`).
-/

namespace ArtifactTrust.Tls

/-- The first octets of a buffer and the rest, if there are so many. -/
def split? (size : Nat) (b : Bytes) : Option ({ front : Bytes // front.length = size } × Bytes) :=
  if short : b.length < size then none
  else some (⟨b.take size, List.length_take_of_le (Nat.le_of_not_lt short)⟩, b.drop size)

/-- A number of a fixed number of octets and the rest. -/
def number? (width : Nat) (b : Bytes) : Option (Fin (1 <<< (8 * width)) × Bytes) :=
  (split? width b).map fun (front, rest) =>
    (⟨Bytes.toNat front, by simpa only [front.2] using Bytes.toNat_lt_shift front⟩, rest)

/-- A vector and the rest. -/
def vector? (width : Nat) (b : Bytes) : Option ({ content : Bytes // content.length < 1 <<< (8 * width) } × Bytes) := do
  let (size, rest) ← number? width b
  let (content, rest) ← split? size rest
  return (⟨content, Nat.lt_of_le_of_lt (Nat.le_of_eq content.2) size.2⟩, rest)

/-- A vector with its length in front. -/
def vector (width : Nat) (b : Bytes) : Bytes := Bytes.ofNat width b.length ++ b

/-- A vector with its length in front, if there is room for the length. -/
def write? (width : Nat) (b : Bytes) : Option Bytes := if b.length < 1 <<< (8 * width) then some (vector width b) else none

end ArtifactTrust.Tls
