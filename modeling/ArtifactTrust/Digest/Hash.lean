import ArtifactTrust.Digest.Sha256
import ArtifactTrust.Digest.Sha512
import ArtifactTrust.Text.Base64
import ArtifactTrust.Text.Hex

/-!
# Digest values

The digest of an artifact is a SHA-256 value, 32 octets (`Sha256Value`), and documents name the algorithm of a digest
(`DigestAlgorithm`).
-/

namespace ArtifactTrust

/-- The octets of a SHA-256 digest. -/
structure Sha256Value where
  octets : Bytes
  size : octets.length = 32
  deriving DecidableEq

/-- The digest algorithms that documents name and signatures use. Digests of artifacts are of the first kind. -/
inductive DigestAlgorithm where
  | sha256 | sha384 | sha512
  deriving DecidableEq, Repr

/-- The name of a digest algorithm in documents. -/
def DigestAlgorithm.name : DigestAlgorithm → String
  | .sha256 => "SHA2_256"
  | .sha384 => "SHA2_384"
  | .sha512 => "SHA2_512"

/-- The digest of octets. -/
def DigestAlgorithm.digest : DigestAlgorithm → Bytes → Bytes
  | .sha256 => Digest.sha256
  | .sha384 => Digest.sha384
  | .sha512 => Digest.sha512

/-- The number of octets of a digest. -/
def DigestAlgorithm.size : DigestAlgorithm → Nat
  | .sha256 => 32
  | .sha384 => 48
  | .sha512 => 64

/-- Why a text or octets are no digest. -/
inductive EncodingFault where
  | base64
  | hex
  | digestSize (size : Nat)
  deriving DecidableEq, Repr

/-- The words for what is wrong with an encoding. -/
def EncodingFault.message : EncodingFault → String
  | .base64 => "invalid base64: not the standard alphabet with padding"
  | .hex => "invalid hex: not pairs of hexadecimal digits"
  | .digestSize size => s!"SHA-256 hash must be 32 bytes, got {size}"

namespace Sha256Value

/-- The digest value of 32 octets. -/
def ofOctets (b : Bytes) : Except EncodingFault Sha256Value :=
  if size : b.length = 32 then .ok ⟨b, size⟩ else .error (.digestSize b.length)

/-- The digest value of a hexadecimal text. -/
def ofHex (s : String) : Except EncodingFault Sha256Value :=
  match Hex.decode? s with
  | some b => ofOctets b
  | none => .error .hex

/-- The digest value of a base64 text. -/
def ofBase64 (s : String) : Except EncodingFault Sha256Value :=
  match Base64.decode? s with
  | some b => ofOctets b
  | none => .error .base64

/-- A digest in hexadecimal. -/
def hex (v : Sha256Value) : String := Hex.encode v.octets

/-- A digest in base64. -/
def base64 (v : Sha256Value) : String := Base64.encode v.octets

end Sha256Value

namespace Digest

/-- A SHA-256 digest has 32 octets. -/
theorem length_sha256 (message : Bytes) : (sha256 message).length = 32 := by
  simp [sha256, Sha256.State.words]

/-- The SHA-256 digest as a digest value. -/
def sha256Value (message : Bytes) : Sha256Value := ⟨sha256 message, length_sha256 message⟩

end Digest

end ArtifactTrust
