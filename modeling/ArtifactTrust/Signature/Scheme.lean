import ArtifactTrust.Signature.Ecdsa
import ArtifactTrust.Signature.Ed25519
import ArtifactTrust.Signature.KeyForm
import ArtifactTrust.Signature.Rsa

/-!
# Signature schemes

The schemes that keys, certificates and logs sign with. All but Ed25519 sign a digest, so a signature can be checked
against the digest alone (`Scheme.verifyDigest`), with the same verdict as against the message
(`Scheme.verify_eq_verifyDigest`).
-/

namespace ArtifactTrust

/-- The curve of a name. -/
def CurveName.curve : CurveName → Curve
  | p256 => .p256
  | p384 => .p384

/-- A signature scheme. -/
inductive Scheme where
  | ecdsa (curve : CurveName) (digest : DigestAlgorithm)
  | ed25519
  | rsaPss (digest : DigestAlgorithm)
  | rsaPkcs1 (digest : DigestAlgorithm)
  deriving DecidableEq, Repr

namespace Scheme

/-- The name of a digest algorithm in the name of a scheme. -/
def digestName : DigestAlgorithm → String
  | .sha256 => "SHA256"
  | .sha384 => "SHA384"
  | .sha512 => "SHA512"

/-- The name of a scheme. -/
def name : Scheme → String
  | ecdsa .p256 d => "ECDSA_P256_" ++ digestName d
  | ecdsa .p384 d => "ECDSA_P384_" ++ digestName d
  | ed25519 => "ED25519"
  | rsaPss d => "RSA_PSS_" ++ digestName d
  | rsaPkcs1 d => "RSA_PKCS1_" ++ digestName d

/-- The digest algorithms from the shortest to the longest. -/
def digests : List DigestAlgorithm := [.sha256, .sha384, .sha512]

/-- All schemes. -/
def all : List Scheme :=
  digests.map (ecdsa .p256) ++ digests.map (ecdsa .p384) ++ [ed25519] ++ digests.map rsaPss ++ digests.map rsaPkcs1

/-- The scheme of a name. -/
def ofName? (text : String) : Option Scheme := all.find? (·.name == text)

/-- The algorithm of the digest that is signed, if the scheme signs one. -/
def digest? : Scheme → Option DigestAlgorithm
  | ecdsa _ d => some d
  | ed25519 => none
  | rsaPss d => some d
  | rsaPkcs1 d => some d

/-- Whether the scheme signs SHA-256 digests. -/
def usesSha256 (s : Scheme) : Bool := s.digest? == some .sha256

/-- The kind of key that the scheme uses. -/
def keyKind : Scheme → KeyKind
  | ecdsa c _ => .ec c
  | ed25519 => .ed25519
  | rsaPss _ => .rsa
  | rsaPkcs1 _ => .rsa

/-- Whether octets are a signature of a digest under a key. Ed25519 signs no digest. -/
def verifyDigest (s : Scheme) (key digest signature : Bytes) : Bool :=
  let key := s.keyKind.unwrap key
  match s with
  | ecdsa c _ => Ecdsa.verify c.curve key digest signature
  | ed25519 => false
  | rsaPss d => Rsa.verifyPss d key digest signature
  | rsaPkcs1 d => Rsa.verifyPkcs1 d key digest signature

/-- Whether octets are a signature of a message under a key. -/
def verify (s : Scheme) (key message signature : Bytes) : Bool :=
  match s.digest? with
  | some d => s.verifyDigest key (d.digest message) signature
  | none => Ed25519.verify (s.keyKind.unwrap key) message signature

/-- Of a scheme that signs digests, a message and its digest give the same verdict. -/
theorem verify_eq_verifyDigest {s : Scheme} {d : DigestAlgorithm} (h : s.digest? = some d) (key message signature : Bytes) :
    s.verify key message signature = s.verifyDigest key (d.digest message) signature := by
  simp [verify, h]

end Scheme

end ArtifactTrust
