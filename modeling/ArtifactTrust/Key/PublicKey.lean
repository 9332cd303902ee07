import ArtifactTrust.Digest.Hash
import ArtifactTrust.Key.Error

/-!
# Public keys

A key comes as a SubjectPublicKeyInfo: an algorithm, for an elliptic curve also the curve, and the key itself in a bit
string. `PublicKey.ofElement`, `PublicKey.ofDer` and `PublicKey.ofPem` read one; `PublicKey.check` and
`PublicKey.checkDigest` check a signature with the scheme that goes with the kind of key.
-/

namespace ArtifactTrust

namespace Oid

/-- Keys on elliptic curves. -/
def ecPublicKey : Oid := "1.2.840.10045.2.1"
/-- The curve P-256. -/
def p256 : Oid := "1.2.840.10045.3.1.7"
/-- The curve P-384. -/
def p384 : Oid := "1.3.132.0.34"
/-- RSA keys. -/
def rsaKey : Oid := "1.2.840.113549.1.1.1"
/-- PSS, as the algorithm of an RSA key or of a signature. -/
def rsaPss : Oid := "1.2.840.113549.1.1.10"
/-- Ed25519, as the algorithm of a key or of a signature. -/
def ed25519 : Oid := "1.3.101.112"

end Oid

/-- A public key: the SubjectPublicKeyInfo it came in, the octets of the key, and its kind. -/
structure PublicKey where
  info : Bytes
  octets : Bytes
  kind : KeyKind
  deriving DecidableEq, Repr

namespace PublicKey

/-- Reads a part of an element, whose faults are those of DER. -/
def reading {α : Type} (r : Except Der.Error α) : Except CryptoError α := r.mapError .der

/-- The kind of key that an algorithm and its parameters name. -/
def kindOf (algorithm : Oid) (parameters : Option Der.Element) : Except CryptoError KeyKind :=
  if algorithm = Oid.ecPublicKey then
    match parameters with
    | none => .error (.key .missingCurve)
    | some e => do
      let curve ← reading e.oid
      if curve = Oid.p256 then return .ec .p256
      else if curve = Oid.p384 then return .ec .p384
      else .error (.unsupported (.curve curve))
  else if algorithm = Oid.rsaKey ∨ algorithm = Oid.rsaPss then .ok .rsa
  else if algorithm = Oid.ed25519 then .ok .ed25519
  else .error (.unsupported (.keyAlgorithm algorithm))

/-- The key in a SubjectPublicKeyInfo. -/
def ofElement (e : Der.Element) : Except CryptoError PublicKey :=
  match e.children with
  | [algorithm, key] =>
    match algorithm.children with
    | [] => .error (.key .missingAlgorithm)
    | oid :: parameters => do
      let kind ← kindOf (← reading oid.oid) parameters.head?
      return ⟨e.octets, ← reading key.wholeOctets, kind⟩
  | _ => .error (.key .elements)

/-- The key in the DER of a SubjectPublicKeyInfo. -/
def ofDer (der : Bytes) : Except CryptoError PublicKey := do ofElement (← reading (Der.Element.parse der))

/-- The key in a PEM block. -/
def ofPem (text : String) : Except CryptoError PublicKey := do
  ofDer (← (Pem.contentOf "PUBLIC KEY" text).mapError .pem)

/-- The id of a key: the digest of its SubjectPublicKeyInfo. -/
def id (k : PublicKey) : Bytes := Digest.sha256 k.info

/-- The scheme that a kind of key signs with where none is named. -/
def defaultScheme (k : PublicKey) : Scheme :=
  match k.kind with
  | .ec .p256 => .ecdsa .p256 .sha256
  | .ec .p384 => .ecdsa .p384 .sha384
  | .rsa => .rsaPkcs1 .sha256
  | .ed25519 => .ed25519

/-- The scheme that a kind of key signs SHA-256 digests with. -/
def digestScheme? (k : PublicKey) : Option Scheme :=
  match k.kind with
  | .ec c => some (.ecdsa c .sha256)
  | .rsa => some (.rsaPkcs1 .sha256)
  | .ed25519 => none

end PublicKey

namespace Scheme

/-- Succeeds if a signature of a message verifies under the octets of a key. -/
def check (s : Scheme) (key message signature : Bytes) : Except CryptoError Unit :=
  if s.verify key message signature then .ok () else .error (.signature (.invalid s))

/-- Succeeds if a signature of a SHA-256 digest verifies under the octets of a key. -/
def checkDigest (s : Scheme) (key digest signature : Bytes) : Except CryptoError Unit :=
  if !s.usesSha256 then .error (.unsupported (.overDigest s))
  else if digest.length ≠ 32 then .error (.signature (.digestSize digest.length))
  else if s.verifyDigest key digest signature then .ok ()
  else .error (.signature (.invalid s))

end Scheme

namespace PublicKey

/-- Succeeds if a signature of a message verifies. -/
def check (k : PublicKey) (message signature : Bytes) : Except CryptoError Unit :=
  k.defaultScheme.check k.octets message signature

/-- Succeeds if a signature of a SHA-256 digest verifies. -/
def checkDigest (k : PublicKey) (digest signature : Bytes) : Except CryptoError Unit :=
  match k.digestScheme? with
  | some s => s.checkDigest k.octets digest signature
  | none => .error (.unsupported .ed25519OverDigest)

end PublicKey

end ArtifactTrust
