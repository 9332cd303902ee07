import ArtifactTrust.Log.Entry
import ArtifactTrust.Number.Double
import ArtifactTrust.Trust.Material

/-!
# Promises of a log

A log that takes an entry in signs what it took and when. The signature is over canonical JSON (RFC 8785) of the
entry's body, time, log and index (`LogEntry.signedText`); `LogEntry.verifyPromise` looks for a trusted log that has
made it.
-/

namespace ArtifactTrust

/-- Why a promise is not accepted. -/
inductive PromiseFault where
  | missing
  | missingLogId
  | time
  | unknownLog (id : Bytes)
  | rejected
  deriving DecidableEq, Repr

/-- The words for a promise that is not accepted. -/
def PromiseFault.message : PromiseFault → String
  | .missing => "missing inclusion promise"
  | .missingLogId => "missing log ID"
  | .time => "invalid integrated time"
  | .unknownLog id => "no key found for logID " ++ Hex.encode id
  | .rejected => "transparency log SET verification failed"

namespace LogEntry

/-- The instant at which the log took the entry in, if it is representable. -/
def time? (e : LogEntry) : Option Instant := Instant.ofSeconds? e.integratedTime.toInt

/-- What a log signs: the body in base64, the time, the id of the log in hexadecimal, and the index. The members are
in the order of their names, and numbers are written as doubles. -/
def signedValue (e : LogEntry) (logId : Bytes) : Json.Value :=
  .object [("body", .text (Base64.encode e.body)), ("integratedTime", .number (Double.written e.integratedTime.toInt)),
    ("logID", .text (Hex.encode logId)), ("logIndex", .number (Double.written e.logIndex.toInt))]

/-- The octets that a log signs. -/
def signedBytes (e : LogEntry) (logId : Bytes) : Bytes := Bytes.ofText (e.signedValue logId).render

/-- Succeeds if a trusted log with the entry's id, its key in use at the entry's time, has made the promise of the entry. -/
def verifyPromise (e : LogEntry) (logs : List TrustedLog) : Except PromiseFault Unit := do
  let promise ← e.promise.elim (.error .missing) .ok
  let logId ← e.logId.elim (.error .missingLogId) .ok
  let time ← e.time?.elim (.error .time) .ok
  match logs.filter fun log => log.accepts logId time with
  | [] => .error (.unknownLog logId)
  | candidates =>
    let signed := e.signedBytes logId
    if candidates.any fun log => log.key.defaultScheme.verify log.key.octets signed promise then return ()
    else .error .rejected

end LogEntry

end ArtifactTrust
