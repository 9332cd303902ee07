import ArtifactTrust.Der.Error

/-!
# Lengths

A length below 128 is one octet. A longer one is announced by an octet above 128 that counts the big-endian octets after it,
at most six of them. Writing uses the shortest form (`Length.encode`), reading takes leading zeros too (`Length.read`).
-/

namespace ArtifactTrust.Der.Length

/-- The big-endian octets of a number without zeros in front. -/
def significant (n : Nat) : Bytes :=
  if n = 0 then [] else significant (n / 256) ++ [UInt8.ofNat n]
termination_by n

/-- The shortest encoding of a length. -/
def encode (n : Nat) : Bytes :=
  if n < 128 then [UInt8.ofNat n]
  else
    let octets := significant n
    UInt8.ofNat (128 + octets.length) :: octets

/-- Reads a length at the front of the octets. Beside the length or the fault stands the number of octets taken, which
a fault leaves where it was noticed. -/
def read : Bytes → Except Malformed Nat × Nat
  | [] => (.error .endOfBuffer, 0)
  | first :: rest =>
    if first < 0x80 then (.ok first.toNat, 1)
    else
      let count := first.toNat - 128
      if count = 0 then (.error .indefiniteLength, 1)
      else if maxLengthOctets < count then (.error .longLength, 1)
      else if rest.length < count then (.error .endOfBuffer, 1 + rest.length)
      else (.ok (Bytes.toNat (rest.take count)), 1 + count)

end ArtifactTrust.Der.Length
