import ArtifactTrust.Bundle.Validation
import ArtifactTrust.Log.Body
import ArtifactTrust.Log.CertificateTimestamp
import ArtifactTrust.Log.Promise
import ArtifactTrust.Path.Rules
import ArtifactTrust.Policy.Identity
import ArtifactTrust.Text.Quoted

/-!
# Why a bundle does not verify

A bundle may be unusable as it is (`BundleFault`), or something in it may fail a check (`Rejection`); beside these
there are the errors of certificate paths, of certificates and keys, and of the trusted root (`VerifyError`).
-/

namespace ArtifactTrust

/-- Why a bundle is unusable. -/
inductive BundleFault where
  | rules (broken : List BrokenRule)
  | noContent
  | noCertificates
  | unknownHint (hint : String)
  | time (seconds : Int64)
  | promise (fault : PromiseFault)
  | noKindVersion
  | signatureCount (found : Nat)
  | noIdentity
  deriving DecidableEq

/-- The parts of a log entry's body that are base64. -/
inductive RecordedPart where
  | signature | publicKey | verifier
  deriving DecidableEq, Repr

/-- Why the body of a log entry does not describe the bundle. -/
inductive BodyFault where
  | unreadable (cause : BodyError)
  | kind (found claimed : KindVersion)
  | content (kind : String)
  | digest (recorded : RecordedDigest) (artifact : Sha256Value)
  | base64 (part : RecordedPart)
  | signature
  | signer
  | payloadDigest (computed : Sha256Value) (recorded : String)
  | signatureCount (bundle recorded : Nat)
  | envelopeSignature
  | payloadText (cause : BodyError)
  | payload
  | signatureText (cause : BodyError)
  | statementSignature
  deriving DecidableEq

/-- Which check a bundle has failed. -/
inductive Rejection where
  | identity (fault : IdentityFault)
  | identityOfKey
  | timestamps (fault : TimestampFault)
  | promise
  | body (fault : BodyFault)
  | outsideValidity (time notBefore notAfter : Instant)
  | entryCount (found needed : Nat)
  | messageDigest
  | signature (cause : CryptoError)
  | envelopeSignature (cause : CryptoError)
  | statement (cause : Json.Cause)
  | subject
  deriving DecidableEq

/-- Why a bundle does not verify. -/
inductive VerifyError where
  | bundle (fault : BundleFault)
  | rejected (fault : Rejection)
  | path (cause : PathError)
  | crypto (cause : CryptoError)
  | trust (cause : TrustError)
  deriving DecidableEq

/-! ## From the errors of single checks -/

namespace VerifyError

/-- A promise that no trusted log has made is rejected; what else may be wrong with one makes the bundle unusable. -/
def ofPromise : PromiseFault → VerifyError
  | .rejected => rejected .promise
  | fault => bundle (.promise fault)

/-- Timestamps are rejected, unless the certificate that holds them cannot be read. -/
def ofTimestamps : TimestampError → VerifyError
  | .certificate cause => crypto cause
  | .timestamps fault => rejected (.timestamps fault)

/-- An identity is rejected; a certificate without a name makes the bundle unusable. -/
def ofIdentity : IdentityFault → VerifyError
  | .noName => bundle .noIdentity
  | fault => rejected (.identity fault)

end VerifyError

/-! ## Words -/

/-- The words for an unusable bundle. -/
def BundleFault.message : BundleFault → String
  | .rules broken => BrokenRule.message broken
  | .noContent => "missing signature content"
  | .noCertificates => "no certificates in chain"
  | .unknownHint hint => "no public key registered for hint " ++ Quoted.quote hint
  | .time seconds => s!"invalid integrated time {seconds.toInt}"
  | .promise fault => fault.message
  | .noKindVersion => "missing kindVersion"
  | .signatureCount found => s!"DSSE envelope must carry exactly one signature, found {found}"
  | .noIdentity => IdentityFault.noName.message

/-- The name of a part of a body. -/
def RecordedPart.name : RecordedPart → String
  | .signature => "signature"
  | .publicKey => "public key"
  | .verifier => "verifier"

/-- The words for a body that does not describe the bundle. -/
def BodyFault.message : BodyFault → String
  | .unreadable cause => "failed to parse Rekor body: " ++ cause.message
  | .kind found claimed =>
    s!"Rekor body is {found.kind} v{found.version} but the entry claims {claimed.kind} v{claimed.version}"
  | .content recorded => recorded ++ " entry does not match the bundle content"
  | .digest recorded artifact =>
    s!"hashedrekord digest {recorded.algorithm}:{recorded.value} does not match artifact digest " ++ artifact.hex
  | .base64 part => "invalid base64 " ++ part.name ++ " in Rekor body: not base64"
  | .signature => "signature in bundle does not match hashedrekord entry"
  | .signer => "hashedrekord entry was signed by a different key"
  | .payloadDigest computed recorded => "DSSE payload hash mismatch: computed " ++ computed.hex ++ ", expected " ++ recorded
  | .signatureCount bundle recorded =>
    s!"DSSE signature count mismatch: bundle has {bundle}, Rekor entry has {recorded}"
  | .envelopeSignature => "DSSE signature in bundle does not match any signature in Rekor entry"
  | .payloadText cause => "failed to decode Rekor payload: " ++ cause.message
  | .payload => "DSSE payload in bundle does not match intoto Rekor entry"
  | .signatureText cause => "failed to decode Rekor signature: " ++ cause.message
  | .statementSignature => "DSSE signature in bundle does not match intoto Rekor entry"

/-- The words for a failed check. -/
def Rejection.message : Rejection → String
  | .identity fault => fault.message
  | .identityOfKey => "identity policy requires certificate verification material"
  | .timestamps fault => fault.message
  | .promise => PromiseFault.rejected.message
  | .body fault => fault.message
  | .outsideValidity time notBefore notAfter =>
    "integrated time " ++ time.text ++ " is outside certificate validity (" ++ notBefore.text ++ " to " ++
      notAfter.text ++ ")"
  | .entryCount found needed => s!"not enough transparency log entries verified (found {found}, need {needed})"
  | .messageDigest => "message digest in bundle does not match artifact hash"
  | .signature cause => "signature verification failed: " ++ cause.message
  | .envelopeSignature cause => "DSSE signature verification failed: " ++ cause.message
  | .statement cause => "failed to parse in-toto statement: " ++ cause.message
  | .subject => "artifact hash does not match any subject in attestation"

/-- The words for why a bundle does not verify. -/
def VerifyError.message : VerifyError → String
  | .bundle fault => "Invalid bundle: " ++ fault.message
  | .rejected fault => "Verification failed: " ++ fault.message
  | .path cause => "Certificate chain verification failed: " ++ cause.message
  | .crypto cause => "Crypto error: " ++ cause.message
  | .trust cause => "Trust root error: " ++ cause.message

end ArtifactTrust
