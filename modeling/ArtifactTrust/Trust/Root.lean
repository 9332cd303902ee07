import ArtifactTrust.Bundle.Basic
import ArtifactTrust.Time.Rfc3339
import ArtifactTrust.Time.Window

/-!
# Trusted roots

The document that tells whom to trust: certificate authorities with their chains, the logs that certificates are recorded in
and the logs that signatures are recorded in, each with the period it was in use. `TrustedRoot.parse` reads it from JSON and
asks for its media type.
-/

namespace ArtifactTrust

/-- A log: its name, its digest algorithm, its key as a SubjectPublicKeyInfo, the period of the key, and the log's id. -/
structure LogRecord where
  baseUrl : String
  digestAlgorithm : DigestAlgorithm
  key : Bytes
  validFor : TimeWindow
  logId : Bytes
  deriving DecidableEq

/-- A certificate authority: its name, its certificates with the root last, and the period in which it issued. -/
structure AuthorityRecord where
  uri : String
  certificates : List Bytes
  validFor : TimeWindow
  deriving DecidableEq

/-- The trusted root. -/
structure TrustedRoot where
  mediaType : String
  logs : List LogRecord
  authorities : List AuthorityRecord
  certificateLogs : List LogRecord
  deriving DecidableEq

open Json

/-- An instant as RFC 3339 text. -/
def Json.Codec.instant : Codec Instant := .ofText Rfc3339.parse? Rfc3339.render

/-- Either bound may be missing. -/
def TimeWindow.codec : Codec TimeWindow :=
  ((Fields.optional "start" .instant (·.start)).and (Fields.optional "end" .instant (·.finish))).codec
    fun (start, finish) => ⟨start, finish⟩

/-- A key with the period in which it was used. -/
def LogRecord.keyCodec : Codec (Bytes × TimeWindow) :=
  ((Fields.required "rawBytes" .octets (·.1)).and
    (Fields.withDefault "validFor" TimeWindow.codec .always (·.2))).codec id

/-- Only the period of a log may be missing. -/
def LogRecord.codec : Codec LogRecord :=
  ((Fields.required "baseUrl" .text (·.baseUrl)).and
    ((Fields.required "hashAlgorithm" .digestAlgorithm (·.digestAlgorithm)).and
      ((Fields.required "publicKey" keyCodec fun r => (r.key, r.validFor)).and
        (Fields.required "logId" (.wrapped "keyId" .octets) (·.logId))))).codec
    fun (baseUrl, digestAlgorithm, (key, validFor), logId) => { baseUrl, digestAlgorithm, key, validFor, logId }

/-- The chain is required. -/
def AuthorityRecord.codec : Codec AuthorityRecord :=
  ((Fields.withDefault "uri" .text "" (·.uri)).and
    ((Fields.required "certChain" (.wrapped "certificates" (.list certificateCodec)) (·.certificates)).and
      (Fields.withDefault "validFor" TimeWindow.codec .always (·.validFor)))).codec
    fun (uri, certificates, validFor) => { uri, certificates, validFor }

/-- Only the media type is required. -/
def TrustedRoot.codec : Codec TrustedRoot :=
  ((Fields.required "mediaType" .text (·.mediaType)).and
    ((Fields.withDefault "tlogs" (.list LogRecord.codec) [] (·.logs)).and
      ((Fields.withDefault "certificateAuthorities" (.list AuthorityRecord.codec) [] (·.authorities)).and
        (Fields.withDefault "ctlogs" (.list LogRecord.codec) [] (·.certificateLogs))))).codec
    fun (mediaType, logs, authorities, certificateLogs) => { mediaType, logs, authorities, certificateLogs }

/-- Why a text is no trusted root. -/
inductive TrustedRootFault where
  | json (cause : Cause)
  | mediaType (text : String)
  deriving DecidableEq, Repr

/-- The words for why a text is no trusted root. -/
def TrustedRootFault.message : TrustedRootFault → String
  | .json cause => "failed to parse JSON: " ++ cause.message
  | .mediaType text => "unsupported media type: " ++ text

/-- What the media types of trusted roots begin with, whatever their version. -/
def TrustedRoot.mediaTypeStart : String := "application/vnd.dev.sigstore.trustedroot"

/-- The trusted root of a text. -/
def TrustedRoot.parse (text : String) : Except TrustedRootFault TrustedRoot := do
  let root ← (codec.parse text).mapError .json
  if mediaTypeStart.toList.isPrefixOf root.mediaType.toList then return root else .error (.mediaType root.mediaType)

end ArtifactTrust
