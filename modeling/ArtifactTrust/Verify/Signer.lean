import ArtifactTrust.Bundle.Basic
import ArtifactTrust.Certificate.Basic

/-!
# Signers

Who has signed a bundle, decoded: a certificate with the others that came with it, or a key that the verifier holds.
-/

namespace ArtifactTrust

/-- A signer. -/
inductive Signer where
  /-- The signing certificate, and the rest of the chain that came with it. -/
  | certificate (leaf : Certificate) (chain : List Certificate)
  | key (k : PublicKey)

namespace Signer

/-- The key that signatures have to verify under. -/
def publicKey : Signer → PublicKey
  | certificate leaf _ => leaf.key
  | key k => k

/-- The signing certificate, if there is one. -/
def leaf? : Signer → Option Certificate
  | certificate leaf _ => some leaf
  | key _ => none

/-- Whether a PEM text, as a log records it, names the signer: by its certificate if it has one, or by its key. -/
def isNamedBy (s : Signer) (pem : Bytes) : Bool :=
  match Pem.read? pem with
  | none => false
  | some block =>
    if block.label = "CERTIFICATE" then s.leaf?.any fun leaf => block.content == leaf.der
    else if block.label = "PUBLIC KEY" then block.content == s.publicKey.info
    else false

end Signer

/-- An artifact, itself or by its digest. -/
inductive Artifact where
  | octets (b : Bytes)
  | digest (d : Sha256Value)

/-- The digest of an artifact. -/
def Artifact.sha256 : Artifact → Sha256Value
  | octets b => Digest.sha256Value b
  | digest d => d

end ArtifactTrust
