import ArtifactTrust.Curve.Edwards
import ArtifactTrust.Digest.Sha512

/-!
# Ed25519

A signature is a point R and a number S below the order of the base point. It is made over the message itself, which
is hashed together with R and the key.
-/

namespace ArtifactTrust.Ed25519

/-- Whether octets are a signature of a message under a key: with h the digest of R, key and message, S B - h A is R,
compared as octets. -/
def verify (key message signature : Bytes) : Bool :=
  let r := signature.take 32
  let s := Bytes.toNatLittle (signature.drop 32)
  if signature.length = 64 ∧ s < Edwards.order then
    match Edwards.point? key with
    | some a =>
      let h := Bytes.toNatLittle (Digest.sha512 (r ++ key ++ message)) % Edwards.order
      Edwards.encode (Edwards.add (Edwards.multiple s Edwards.base) (Edwards.multiple h (Edwards.negate a))) == r
    | none => false
  else false

end ArtifactTrust.Ed25519
