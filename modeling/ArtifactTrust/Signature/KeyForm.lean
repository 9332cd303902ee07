import ArtifactTrust.Der.Canonical

/-!
# Forms of keys

The octets of a key are a point, the numbers of an RSA key, or 32 octets of Ed25519. The same octets may also come
wrapped in a canonical SubjectPublicKeyInfo that names their kind; `KeyKind.unwrap` takes the wrapping off.
-/

namespace ArtifactTrust

/-- The curves of ECDSA keys. -/
inductive CurveName where
  | p256 | p384
  deriving DecidableEq, Repr

/-- The kinds of keys that schemes use. -/
inductive KeyKind where
  | ec (curve : CurveName)
  | rsa
  | ed25519
  deriving DecidableEq, Repr

namespace KeyKind

/-- The name of a kind of key in messages. -/
def name : KeyKind → String
  | ec .p256 => "EcP256"
  | ec .p384 => "EcP384"
  | rsa => "Rsa"
  | ed25519 => "Ed25519"

/-- The element that names a kind of key: an object identifier, and the curve or NULL for parameters where the kind
has any. -/
def identifier : KeyKind → Bytes
  | ec .p256 =>
    [0x30, 0x13, 0x06, 0x07, 0x2a, 0x86, 0x48, 0xce, 0x3d, 0x02, 0x01, 0x06, 0x08, 0x2a, 0x86, 0x48, 0xce, 0x3d, 0x03,
     0x01, 0x07]
  | ec .p384 => [0x30, 0x10, 0x06, 0x07, 0x2a, 0x86, 0x48, 0xce, 0x3d, 0x02, 0x01, 0x06, 0x05, 0x2b, 0x81, 0x04, 0x00, 0x22]
  | rsa => [0x30, 0x0d, 0x06, 0x09, 0x2a, 0x86, 0x48, 0x86, 0xf7, 0x0d, 0x01, 0x01, 0x01, 0x05, 0x00]
  | ed25519 => [0x30, 0x05, 0x06, 0x03, 0x2b, 0x65, 0x70]

/-- The octets of a key that is wrapped in a SubjectPublicKeyInfo of its kind. -/
def wrapped? (k : KeyKind) (b : Bytes) : Option Bytes := do
  let e ← Der.Canonical.parse? b
  match e.children with
  | [kind, key] =>
    if e.tag.octet = 0x30 ∧ kind.octets = k.identifier ∧ key.tag.octet = 0x03 then key.wholeOctets.toOption else none
  | _ => none

/-- The octets of a key without a wrapping. -/
def unwrap (k : KeyKind) (b : Bytes) : Bytes := (k.wrapped? b).getD b

end KeyKind

end ArtifactTrust
