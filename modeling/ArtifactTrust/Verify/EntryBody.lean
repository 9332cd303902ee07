import ArtifactTrust.Verify.Error
import ArtifactTrust.Verify.Signer

/-!
# Bodies of log entries and bundles

What a log recorded has to be what the bundle carries: the same artifact, the same signature and the same signer. Each
kind of record is compared with the content of the bundle in its own way (`EntryRecord.verify`), after the body and
the entry agree on what kind it is (`LogEntry.verifyBody`).
-/

namespace ArtifactTrust

/-- Succeeds if a condition holds. -/
def require {ε : Type} (condition : Bool) (otherwise : ε) : Except ε Unit :=
  if condition then .ok () else .error otherwise

namespace RecordedPart

/-- The octets of a part of a body. -/
def decode (part : RecordedPart) (text : String) : Except BodyFault Bytes :=
  (Base64.decode? text).elim (.error (.base64 part)) .ok

end RecordedPart

/-- Whether a recorded digest is the digest of an artifact. Case does not matter, neither in the name of the algorithm
nor in the digits. -/
def RecordedDigest.isOf (recorded : RecordedDigest) (digest : Sha256Value) : Bool :=
  Ascii.sameIgnoringCase recorded.algorithm "sha256" && Ascii.sameIgnoringCase recorded.value digest.hex

/-- The record of an artifact has the artifact's digest, the signature, and a verifier that names the signer. -/
def ArtifactRecord.verify (r : ArtifactRecord) (signature : Bytes) (signer : Signer) (artifact : Sha256Value) :
    Except BodyFault Unit := do
  require (r.digest.isOf artifact) (.digest r.digest artifact)
  let recorded ← RecordedPart.signature.decode r.signature.signature
  require (recorded == signature) .signature
  let verifier ← RecordedPart.publicKey.decode r.signature.verifier
  require (signer.isNamedBy verifier) .signer

namespace EnvelopeRecord

/-- Whether one of the recorded signatures is a given one, with a verifier that names the signer. They are decoded in
turn up to the one that is. -/
def hasSignature (signature : Bytes) (signer : Signer) : List RecordedSignature → Except BodyFault Bool
  | [] => .ok false
  | r :: rest => do
    let recorded ← RecordedPart.signature.decode r.signature
    let verifier ← RecordedPart.verifier.decode r.verifier
    if recorded == signature && signer.isNamedBy verifier then return true else hasSignature signature signer rest

/-- The record of an envelope by its digests has the digest of the payload and as many signatures as the envelope,
among them every one of the envelope's. The digest of the whole envelope is that of a text that is not kept, so it is
not compared. -/
def verify (r : EnvelopeRecord) (e : Envelope) (signer : Signer) : Except BodyFault Unit := do
  let computed := Digest.sha256Value e.payload
  require (r.payloadDigest.isOf computed) (.payloadDigest computed r.payloadDigest.value)
  require (e.signatures.length == r.signatures.length) (.signatureCount e.signatures.length r.signatures.length)
  e.signatures.forM fun s => do
    require (← hasSignature s.signature signer r.signatures) .envelopeSignature

end EnvelopeRecord

namespace StatementRecord

/-- Whether one of the recorded signatures is a given one. They are decoded in turn up to the one that is. -/
def hasSignature (signature : Bytes) : List RecordedSignature → Except BodyFault Bool
  | [] => .ok false
  | r :: rest => do
    let recorded ← r.octets.mapError .signatureText
    if recorded == signature then return true else hasSignature signature rest

/-- Whether any of an envelope's signatures is recorded. -/
def hasAnySignature (recorded : List RecordedSignature) : List EnvelopeSignature → Except BodyFault Bool
  | [] => .ok false
  | s :: rest => do
    if ← hasSignature s.signature recorded then return true else hasAnySignature recorded rest

/-- The record of an envelope in full has the payload, and one of the signatures. -/
def verify (r : StatementRecord) (e : Envelope) : Except BodyFault Unit := do
  let payload ← r.octets.mapError .payloadText
  require (payload == e.payload) .payload
  require (← hasAnySignature r.signatures e.signatures) .statementSignature

end StatementRecord

/-- The record describes the content, the signer and the artifact. A record of an artifact goes with a signature over
the artifact, the others go with an envelope. `kind` is what the body calls itself. -/
def EntryRecord.verify (kind : String) (r : EntryRecord) (content : SignedContent) (signer : Signer)
    (artifact : Sha256Value) : Except BodyFault Unit :=
  match r, content with
  | .artifact r, .message s => r.verify s.signature signer artifact
  | .envelope r, .envelope e => r.verify e signer
  | .statement r, .envelope e => r.verify e
  | _, _ => .error (.content kind)

/-- The kind and version that a body claims for itself. -/
def EntryBody.kindVersion (b : EntryBody) : KindVersion := ⟨b.kind, b.apiVersion⟩

/-- The body describes the content, the signer and the artifact, and is of the kind that the entry claims. -/
def EntryBody.verify (b : EntryBody) (claimed : KindVersion) (content : SignedContent) (signer : Signer)
    (artifact : Sha256Value) : Except BodyFault Unit := do
  require (b.kindVersion == claimed) (.kind b.kindVersion claimed)
  b.record.verify b.kind content signer artifact

/-- The body of an entry describes the content, the signer and the artifact. -/
def LogEntry.verifyBody (e : LogEntry) (content : SignedContent) (signer : Signer) (artifact : Sha256Value) :
    Except VerifyError Unit := do
  let claimed ← e.kindVersion.elim (.error (.bundle .noKindVersion)) .ok
  let verdict : Except BodyFault Unit := do
    (← (EntryBody.parse claimed e.body).mapError .unreadable).verify claimed content signer artifact
  verdict.mapError fun fault => .rejected (.body fault)

end ArtifactTrust
