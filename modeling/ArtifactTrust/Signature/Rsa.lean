import ArtifactTrust.Der.Canonical
import ArtifactTrust.Digest.Hash
import ArtifactTrust.Number.Modular

/-!
# RSA

A signature is a number below the modulus, in as many octets as the modulus has; raised to the public exponent it
gives an encoded message. Two encodings are read: PKCS#1, which is compared as a whole, and PSS, which hides a salt as
long as the digest.
-/

namespace ArtifactTrust.Rsa

/-- A modulus and an exponent. -/
structure Key where
  modulus : Nat
  exponent : Nat
  deriving DecidableEq, Repr

namespace Key

/-- The number of bits of the modulus. -/
def bits (k : Key) : Nat := k.modulus.log2 + 1

/-- The number of octets of the modulus. -/
def size (k : Key) : Nat := (k.bits + 7) / 8

/-- Whether a key is used: a modulus of 2048 to 8192 bits and an odd exponent of 2 to 33 bits. -/
def isUsable (k : Key) : Bool :=
  2048 ≤ k.bits && k.bits ≤ 8192 && k.modulus % 2 == 1 && k.exponent % 2 == 1 && 1 < k.exponent && k.exponent < 0x200000000

/-- The key that octets denote, a canonical SEQUENCE of the modulus and the exponent. -/
def ofOctets? (b : Bytes) : Option Key :=
  match Der.Canonical.naturals? b with
  | some [modulus, exponent] => if isUsable ⟨modulus, exponent⟩ then some ⟨modulus, exponent⟩ else none
  | _ => none

/-- The number that a signature encodes. -/
def open? (k : Key) (signature : Bytes) : Option Nat :=
  let s := Bytes.toNat signature
  if signature.length = k.size ∧ s < k.modulus then some (Modular.pow k.modulus s k.exponent) else none

end Key

/-- The octet that names a digest algorithm at the end of its object identifier. -/
def algorithmOctet : DigestAlgorithm → UInt8
  | .sha256 => 1
  | .sha384 => 2
  | .sha512 => 3

/-- A digest with the name of its algorithm: a SEQUENCE of the algorithm, with NULL for parameters, and an OCTET STRING. -/
def digestInfo (a : DigestAlgorithm) (digest : Bytes) : Bytes :=
  let size := UInt8.ofNat digest.length
  [0x30, 0x11 + size, 0x30, 0x0d, 0x06, 0x09, 0x60, 0x86, 0x48, 0x01, 0x65, 0x03, 0x04, 0x02, algorithmOctet a, 0x05, 0x00,
    0x04, size] ++ digest

/-- The PKCS#1 encoding of a digest in a number of octets. -/
def pkcs1Encoding (a : DigestAlgorithm) (digest : Bytes) (size : Nat) : Bytes :=
  let info := digestInfo a digest
  [0x00, 0x01] ++ List.replicate (size - 3 - info.length) 0xff ++ [0x00] ++ info

/-- Whether octets are a PKCS#1 signature of a digest. -/
def verifyPkcs1 (a : DigestAlgorithm) (key digest signature : Bytes) : Bool :=
  match Key.ofOctets? key with
  | some k => match k.open? signature with
    | some m => Bytes.ofNat k.size m == pkcs1Encoding a digest k.size
    | none => false
  | none => false

/-- A mask of octets made from a seed, by hashing it with a counter. -/
def mask (a : DigestAlgorithm) (seed : Bytes) (size : Nat) : Bytes :=
  ((List.range ((size + a.size - 1) / a.size)).flatMap fun i => a.digest (seed ++ Bytes.ofNat 4 i)).take size

/-- Whether an encoded message is a PSS encoding of a digest: a masked block, a digest and the octet `bc`. Under the mask, of
which `spare` bits in front are not used and zero in the encoding, there are zeros, a one and the salt; the digest is that of
eight zeros, the digest of the message and the salt. -/
def pssAccepts (a : DigestAlgorithm) (digest encoded : Bytes) (spare : Nat) : Bool :=
  let size := encoded.length - a.size - 1
  let masked := encoded.take size
  let inner := (encoded.drop size).take a.size
  let block := Bytes.xor masked (mask a inner size)
  let block := Bytes.ofNat size (Bytes.toNat block % (1 <<< (8 * size - spare)))
  let salt := block.drop (size - a.size)
  2 * a.size + 2 ≤ encoded.length && encoded.getLast? == some 0xbc && Bytes.toNat masked < (1 <<< (8 * size - spare)) &&
    block.take (size - a.size) == List.replicate (size - a.size - 1) 0x00 ++ [0x01] &&
    inner == a.digest (List.replicate 8 0x00 ++ digest ++ salt)

/-- Whether octets are a PSS signature of a digest. The encoded message has one bit less than the modulus. -/
def verifyPss (a : DigestAlgorithm) (key digest signature : Bytes) : Bool :=
  match Key.ofOctets? key with
  | some k => match k.open? signature with
    | some m =>
      let size := (k.bits + 6) / 8
      m < 1 <<< (8 * size) && pssAccepts a digest (Bytes.ofNat size m) (8 * size - (k.bits - 1))
    | none => false
  | none => false

end ArtifactTrust.Rsa
