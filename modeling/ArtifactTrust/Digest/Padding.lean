import ArtifactTrust.Bytes

/-!
# Padding of the SHA-2 digests

A message is closed by a one bit, zeros up to the end of a block, and its length in bits. All SHA-2
digests share this; they differ in the size of a block and of the length.
-/

namespace ArtifactTrust.Digest

/-- The message with its padding, a whole number of blocks. -/
def pad (blockSize lengthSize : Nat) (message : Bytes) : Bytes :=
  let used := message.length + 1 + lengthSize
  let zeros := (blockSize - used % blockSize) % blockSize
  message ++ 0x80 :: (List.replicate zeros 0 ++ Bytes.ofNat lengthSize (8 * message.length))

/-- The first `count` pieces of a given size. -/
def pieces (size : Nat) : (count : Nat) → Bytes → List Bytes
  | 0, _ => []
  | count + 1, b => b.take size :: pieces size count (b.drop size)

/-- The blocks of a padded message. -/
def blocks (blockSize lengthSize : Nat) (message : Bytes) : List Bytes :=
  let padded := pad blockSize lengthSize message
  pieces blockSize (padded.length / blockSize) padded

end ArtifactTrust.Digest
