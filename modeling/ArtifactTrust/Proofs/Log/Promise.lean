import ArtifactTrust.Log.Promise
import ArtifactTrust.Proofs.Number.Double

/-!
# The time in a promise

A log signs the time of an entry as canonical JSON writes it, which is as a double. Instants are few enough for this to change
nothing (`Double.written_of_lt`): the promise of an entry that has an instant is over this very second
(`LogEntry.signedBytes_tellsTime`).
-/

namespace ArtifactTrust

/-- The instant at a full second is that second. -/
theorem Instant.ofSeconds?_eq_some_iff {seconds : Int} {t : Instant} :
    ofSeconds? seconds = some t ↔ inRange seconds = true ∧ t = ⟨seconds, 0⟩ := by
  unfold ofSeconds?
  cases inRange seconds <;> simp [eq_comm]

/-- The seconds of instants are few enough to be doubles. -/
theorem Instant.natAbs_lt_of_inRange {seconds : Int} (h : inRange seconds = true) : seconds.natAbs < 2 ^ 53 := by
  unfold inRange firstSecond lastSecond at h
  rw [Bool.and_eq_true, decide_eq_true_eq, decide_eq_true_eq] at h
  omega

/-- Every second of an instant is written as it is. -/
theorem Instant.written_of_inRange {seconds : Int} (h : inRange seconds = true) : Double.written seconds = seconds :=
  Double.written_of_lt (natAbs_lt_of_inRange h)

namespace LogEntry

/-- Octets are a JSON object with the second of an instant as the time of an entry. -/
def TellsTime (signed : Bytes) (t : Instant) : Prop :=
  ∃ members, signed = Bytes.ofText (Json.Value.object members).render ∧ ("integratedTime", .number t.seconds) ∈ members

/-- A promise is over the time of the entry. -/
theorem signedBytes_tellsTime {e : LogEntry} {t : Instant} (h : e.time? = some t) (logId : Bytes) :
    TellsTime (e.signedBytes logId) t := by
  obtain ⟨hrange, rfl⟩ := Instant.ofSeconds?_eq_some_iff.mp h
  refine ⟨_, rfl, ?_⟩
  rw [Instant.written_of_inRange hrange]
  simp

end LogEntry

end ArtifactTrust
