import ArtifactTrust.Certificate.Basic
import ArtifactTrust.Trust.Root

/-!
# Trust material

The certificates and keys of a trusted root, decoded (`TrustMaterial.ofRoot`). A single one that cannot be read spoils
the whole root.
-/

namespace ArtifactTrust

/-- A log with its key. -/
structure TrustedLog where
  id : Bytes
  baseUrl : String
  key : PublicKey
  validFor : TimeWindow
  deriving DecidableEq

/-- Whether a log has an id and its key was in use at an instant. -/
def TrustedLog.accepts (l : TrustedLog) (id : Bytes) (t : Instant) : Bool := l.id == id && l.validFor.contains t

/-- A certificate authority with its certificates, the root last. -/
structure Authority where
  uri : String
  certificates : List Certificate
  validFor : TimeWindow

/-- All that is trusted: authorities in the order of the root, the logs that record certificates, and those that record
signatures. -/
structure TrustMaterial where
  authorities : List Authority
  certificateLogs : List TrustedLog
  logs : List TrustedLog

/-- Why there is no trust material: the text is no trusted root, or something in it cannot be read. -/
inductive TrustError where
  | root (fault : TrustedRootFault)
  | certificate (uri : String) (cause : CryptoError)
  | key (baseUrl : String) (cause : CryptoError)
  deriving DecidableEq

/-- The words for why there is no trust material. -/
def TrustError.message : TrustError → String
  | .root fault => fault.message
  | .certificate uri cause => "failed to parse certificate: certificate authority " ++ uri ++ ": " ++ cause.message
  | .key baseUrl cause => "invalid key format: log " ++ baseUrl ++ ": " ++ cause.message

/-- The log of a record. -/
def TrustedLog.ofRecord (r : LogRecord) : Except TrustError TrustedLog := do
  return ⟨r.logId, r.baseUrl, ← (PublicKey.ofDer r.key).mapError (.key r.baseUrl), r.validFor⟩

/-- The authority of a record. -/
def Authority.ofRecord (r : AuthorityRecord) : Except TrustError Authority := do
  return ⟨r.uri, ← r.certificates.mapM fun der => (Certificate.parse der).mapError (.certificate r.uri), r.validFor⟩

namespace TrustMaterial

/-- The trust material of a trusted root: first the authorities are decoded, then the logs that record certificates,
then those that record signatures. -/
def ofRoot (r : TrustedRoot) : Except TrustError TrustMaterial := do
  let authorities ← r.authorities.mapM Authority.ofRecord
  let certificateLogs ← r.certificateLogs.mapM TrustedLog.ofRecord
  let logs ← r.logs.mapM TrustedLog.ofRecord
  return ⟨authorities, certificateLogs, logs⟩

/-- The authorities whose period contains an instant. -/
def authoritiesAt (m : TrustMaterial) (t : Instant) : List Authority := m.authorities.filter fun a => a.validFor.contains t

end TrustMaterial

end ArtifactTrust
