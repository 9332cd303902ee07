import ArtifactTrust.Certificate.Precertificate
import ArtifactTrust.Tls.Vector
import ArtifactTrust.Trust.Material

/-!
# Signed certificate timestamps

Before a certificate is issued, logs promise to publish it. Each promise is a signed timestamp, and a list of them is
embedded in the certificate. `CertificateTimestamp.readList` reads such a list, and `Certificate.countVerified` counts the
timestamps that trusted logs have signed over the pre-certificate and the issuer's key (RFC 6962).
-/

namespace ArtifactTrust

/-- A signed timestamp: the version, the log by the SHA-256 digest of its key, the milliseconds since 1970, the extensions, the
codes of the digest and signature algorithms, and the signature. No part is longer than its encoding has room for. -/
structure CertificateTimestamp where
  version : UInt8
  logId : Bytes
  millis : Nat
  extensions : Bytes
  digestCode : UInt8
  signatureCode : UInt8
  signature : Bytes
  length_logId : logId.length = DigestAlgorithm.sha256.size
  millis_lt : millis < 0x10000000000000000
  length_extensions_lt : extensions.length < 0x10000
  length_signature_lt : signature.length < 0x10000
  deriving DecidableEq, Repr

/-- Why a list of timestamps cannot be used. -/
inductive TimestampFault where
  | list
  | listTrailing
  | entry
  | timestamp
  | timestampTrailing
  | size
  | threshold (found needed : Nat)
  deriving DecidableEq, Repr

/-- The words for a list of timestamps that cannot be used. -/
def TimestampFault.message : TimestampFault → String
  | .list => "malformed SCT list: too short"
  | .listTrailing => "trailing data after SCT list"
  | .entry => "malformed SCT entry: too short"
  | .timestamp => "malformed SCT: too short"
  | .timestampTrailing => "trailing data after SCT"
  | .size => "failed to serialize SCT data: InvalidVectorLength"
  | .threshold found needed => s!"not enough SCTs verified (found {found}, need {needed})"

namespace CertificateTimestamp

/-! ## Reading and writing -/

/-- A timestamp and the octets after it. -/
def read? (b : Bytes) : Option (CertificateTimestamp × Bytes) := do
  let (version, b) ← Tls.number? 1 b
  let (logId, b) ← Tls.split? 32 b
  let (millis, b) ← Tls.number? 8 b
  let (extensions, b) ← Tls.vector? 2 b
  let (digestCode, b) ← Tls.number? 1 b
  let (signatureCode, b) ← Tls.number? 1 b
  let (signature, b) ← Tls.vector? 2 b
  return (⟨UInt8.ofNat version, logId, millis, extensions, UInt8.ofNat digestCode, UInt8.ofNat signatureCode, signature,
    logId.2, millis.2, extensions.2, signature.2⟩, b)

/-- A timestamp as octets. -/
def encode (t : CertificateTimestamp) : Bytes :=
  [t.version] ++ t.logId ++ Bytes.ofNat 8 t.millis ++ Tls.vector 2 t.extensions ++ [t.digestCode, t.signatureCode] ++
    Tls.vector 2 t.signature

/-- The timestamps of vectors one after the other. Each takes at least two octets, so `fuel`, the number of octets, is
never used up. -/
def readEntries : (fuel : Nat) → Bytes → Except TimestampFault (List CertificateTimestamp)
  | _, [] => .ok []
  | 0, _ => .error .entry
  | fuel + 1, b => do
    let (entry, rest) ← (Tls.vector? 2 b).elim (.error .entry) .ok
    let (t, trailing) ← (read? entry).elim (.error .timestamp) .ok
    if trailing.isEmpty then return t :: (← readEntries fuel rest) else .error .timestampTrailing

/-- The timestamps of a list. -/
def readList (b : Bytes) : Except TimestampFault (List CertificateTimestamp) := do
  let (entries, trailing) ← (Tls.vector? 2 b).elim (.error .list) .ok
  if trailing.isEmpty then readEntries entries.val.length entries else .error .listTrailing

/-- A list of timestamps as octets. -/
def encodeList (ts : List CertificateTimestamp) : Bytes := Tls.vector 2 (ts.flatMap fun t => Tls.vector 2 t.encode)

/-! ## Verifying -/

/-- The instant of a timestamp, if it is representable. -/
def time? (t : CertificateTimestamp) : Option Instant :=
  if t.millis < 0x8000000000000000 then Instant.ofMillis? t.millis else none

/-- The digest algorithm with a code of TLS (RFC 5246). -/
def digestOfCode? (code : UInt8) : Option DigestAlgorithm :=
  if code = 4 then some .sha256 else if code = 5 then some .sha384 else if code = 6 then some .sha512 else none

/-- The scheme that the codes name for a kind of key. SHA-512 is used with RSA only. -/
def scheme? (t : CertificateTimestamp) (key : PublicKey) : Option Scheme :=
  match digestOfCode? t.digestCode, key.kind with
  | some d, .ec curve => if t.signatureCode = 3 ∧ d ≠ .sha512 then some (.ecdsa curve d) else none
  | some d, .rsa => if t.signatureCode = 1 then some (.rsaPkcs1 d) else none
  | _, _ => none

/-- What a timestamp is signed over: that it is a timestamp of a pre-certificate, its time, the digest of the issuer's
key, the pre-certificate and the extensions, if there is room for the lengths of both. -/
def signedBytes (t : CertificateTimestamp) (precertificate issuerKeyId : Bytes) : Except TimestampFault Bytes := do
  let entry ← (Tls.write? 3 precertificate).elim (.error .size) .ok
  let extensions ← (Tls.write? 2 t.extensions).elim (.error .size) .ok
  return [t.version, 0] ++ Bytes.ofNat 8 t.millis ++ [0, 1] ++ issuerKeyId ++ entry ++ extensions

/-- Whether a log has signed a timestamp over octets. -/
def isSignedBy (t : CertificateTimestamp) (log : TrustedLog) (signed : Bytes) : Bool :=
  match t.scheme? log.key with
  | some s => s.verify log.key.octets signed t.signature
  | none => false

/-- Whether a trusted log, its key in use at the time, has signed a timestamp. Other versions and times that are not
representable do not count. -/
def isVerified (logs : List TrustedLog) (precertificate issuerKeyId : Bytes) (t : CertificateTimestamp) :
    Except TimestampFault Bool :=
  if t.version ≠ 0 then .ok false
  else match t.time? with
    | none => .ok false
    | some time => do
      let signed ← t.signedBytes precertificate issuerKeyId
      return logs.any fun log => log.accepts t.logId time && t.isSignedBy log signed

end CertificateTimestamp

/-- Why the timestamps of a certificate do not suffice: the certificate has no list that can be read, or the list does
not. -/
inductive TimestampError where
  | certificate (cause : CryptoError)
  | timestamps (fault : TimestampFault)
  deriving DecidableEq

namespace Certificate

/-- The timestamps of a certificate; without a list there are none. -/
def timestamps (c : Certificate) : Except TimestampError (List CertificateTimestamp) := do
  match ← c.timestampList.mapError .certificate with
  | some list => (CertificateTimestamp.readList list).mapError .timestamps
  | none => return []

/-- The number of timestamps of a certificate that trusted logs have signed. -/
def countVerified (c issuer : Certificate) (logs : List TrustedLog) : Except TimestampError Nat := do
  match ← c.timestamps with
  | [] => return 0
  | ts => do
    let precertificate ← c.precertificate.mapError .certificate
    let verdicts ← (ts.mapM (CertificateTimestamp.isVerified logs precertificate issuer.key.id)).mapError .timestamps
    return verdicts.count true

/-- Asks for a number of timestamps that trusted logs have signed. -/
def verifyTimestamps (c issuer : Certificate) (logs : List TrustedLog) (threshold : Nat) : Except TimestampError Nat := do
  let found ← c.countVerified issuer logs
  if found < threshold then .error (.timestamps (.threshold found threshold)) else return found

end Certificate

end ArtifactTrust
