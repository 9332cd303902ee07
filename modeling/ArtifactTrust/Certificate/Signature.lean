import ArtifactTrust.Certificate.Basic

/-!
# Signatures of certificates

The scheme of a certificate's signature follows from the algorithm that the certificate names and from the kind of the
signer's key. PSS names the digest algorithm in its parameters.
-/

namespace ArtifactTrust

namespace Oid

/-- ECDSA over a digest. -/
def ecdsaWith : DigestAlgorithm → Oid
  | .sha256 => "1.2.840.10045.4.3.2"
  | .sha384 => "1.2.840.10045.4.3.3"
  | .sha512 => "1.2.840.10045.4.3.4"

/-- PKCS#1 RSA over a digest. -/
def rsaWith : DigestAlgorithm → Oid
  | .sha256 => "1.2.840.113549.1.1.11"
  | .sha384 => "1.2.840.113549.1.1.12"
  | .sha512 => "1.2.840.113549.1.1.13"

/-- A digest algorithm. -/
def digest : DigestAlgorithm → Oid
  | .sha256 => "2.16.840.1.101.3.4.2.1"
  | .sha384 => "2.16.840.1.101.3.4.2.2"
  | .sha512 => "2.16.840.1.101.3.4.2.3"

/-- SHA-1, which PSS means when no digest algorithm is named. -/
def sha1 : Oid := "1.3.14.3.2.26"

end Oid

namespace Certificate

/-- The digest algorithm that the parameters of PSS name: in the element of number 0, its first element, the first element of
that. -/
def pssDigest (c : Certificate) : Except CryptoError Oid :=
  let named : Option Der.Element := do
    let parameters ← c.algorithm.children[1]?
    let wrapping ← parameters.children.find? fun (e : Der.Element) => e.tag.isContext 0
    let algorithm ← wrapping.children.head?
    algorithm.children.head?
  match named with
  | some e => PublicKey.reading e.oid
  | none => .ok Oid.sha1

/-- The digest algorithm with an object identifier. -/
def digestWith? (name : DigestAlgorithm → Oid) (oid : Oid) : Option DigestAlgorithm :=
  Scheme.digests.find? fun d => name d = oid

/-- The scheme of the signature under a key. -/
def scheme (c : Certificate) (signer : PublicKey) : Except CryptoError Scheme :=
  let unsupported : Except CryptoError Scheme := .error (.unsupported (.certificateSignature c.signatureOid signer.kind))
  match signer.kind with
  | .ec curve => match digestWith? Oid.ecdsaWith c.signatureOid with
    | some d => .ok (.ecdsa curve d)
    | none => unsupported
  | .rsa =>
    if c.signatureOid = Oid.rsaPss then do
      match digestWith? Oid.digest (← c.pssDigest) with
      | some d => return .rsaPss d
      | none => unsupported
    else match digestWith? Oid.rsaWith c.signatureOid with
      | some d => .ok (.rsaPkcs1 d)
      | none => unsupported
  | .ed25519 => if c.signatureOid = Oid.ed25519 then .ok .ed25519 else unsupported

/-- Whether the signature verifies under a key. -/
def isSignedBy (c : Certificate) (signer : PublicKey) : Bool :=
  match c.scheme signer with
  | .ok s => s.verify signer.octets c.signedBytes c.signature
  | .error _ => false

/-- Whether the certificate is self-issued and verifies under its own key. -/
def isSelfSigned (c : Certificate) : Bool := c.isSelfIssued && c.isSignedBy c.key

end Certificate

end ArtifactTrust
