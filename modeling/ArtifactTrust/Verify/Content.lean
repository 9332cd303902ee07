import ArtifactTrust.Bundle.Statement
import ArtifactTrust.Verify.EntryBody

/-!
# Signatures over artifacts

What a bundle signs has to verify under the signer's key and to be about the artifact: a signature over the artifact
itself, or an envelope with a statement whose subjects include the artifact.
-/

namespace ArtifactTrust

/-- A signature over the artifact verifies under a key; an artifact that is known by its digest only is checked by
that. A recorded digest has to be that of the artifact. -/
def MessageSignature.verify (s : MessageSignature) (key : PublicKey) (artifact : Artifact) : Except Rejection Unit := do
  require (s.digest.all fun d => d.digest == artifact.sha256) .messageDigest
  match artifact with
  | .octets b => (key.check b s.signature).mapError .signature
  | .digest d => (key.checkDigest d.octets s.signature).mapError .signature

/-- The payload of an envelope, if it is a statement, is about an artifact. -/
def Envelope.verifySubject (e : Envelope) (artifact : Sha256Value) : Except Rejection Unit := do
  if e.holdsStatement then
    let s ← (Statement.parse e.payload).mapError .statement
    require (s.covers artifact) .subject

/-- The only signature of an envelope verifies under a key, and its payload is about the artifact if it is a statement. -/
def Envelope.verify (e : Envelope) (key : PublicKey) (artifact : Sha256Value) : Except VerifyError Unit :=
  match e.signatures with
  | [s] => do
    (key.check e.signedBytes s.signature).mapError fun cause => .rejected (.envelopeSignature cause)
    (e.verifySubject artifact).mapError .rejected
  | signatures => .error (.bundle (.signatureCount signatures.length))

/-- What was signed verifies under a key and is about the artifact. -/
def SignedContent.verify (content : SignedContent) (key : PublicKey) (artifact : Artifact) : Except VerifyError Unit :=
  match content with
  | .message s => (s.verify key artifact).mapError .rejected
  | .envelope e => e.verify key artifact.sha256

end ArtifactTrust
