import ArtifactTrust.Proofs.Json.ReadBack
import ArtifactTrust.Proofs.Log.Promise
import ArtifactTrust.Proofs.Text.Base64

/-!
# What the promise of a log binds

What a log signs determines the body, the time and the log of an entry, and the index as a double
(`LogEntry.signedBytes_eq_iff`). Indexes from 2⁵³ on share a double with others, so one promise can cover entries that differ in
their index (`LogEntry.verifyPromise_of_sameDouble`).
-/

namespace ArtifactTrust.LogEntry

theorem signedBytes_eq_iff_signedValue {e d : LogEntry} {a b : Bytes} :
    e.signedBytes a = d.signedBytes b ↔ e.signedValue a = d.signedValue b := by
  constructor
  · intro h
    exact Json.Value.render_injective (Bytes.ofText_injective h)
  · intro h
    rw [signedBytes, signedBytes, h]

/-- Part by part: the texts are told apart by the octets they stand for, the numbers by their doubles. -/
theorem signedValue_eq_iff {e d : LogEntry} {a b : Bytes} : e.signedValue a = d.signedValue b ↔
    e.body = d.body ∧ Double.SameDouble e.integratedTime.toInt d.integratedTime.toInt ∧ a = b ∧
      Double.SameDouble e.logIndex.toInt d.logIndex.toInt := by
  have hbody : Base64.encode e.body = Base64.encode d.body ↔ e.body = d.body :=
    ⟨Base64.encode_injective, congrArg _⟩
  have hid : Hex.encode a = Hex.encode b ↔ a = b := ⟨Hex.encode_injective, congrArg _⟩
  simp [signedValue, hbody, hid, Double.written_eq_iff]

theorem natAbs_integratedTime_lt {e : LogEntry} (h : e.time?.isSome) : e.integratedTime.toInt.natAbs < 2 ^ 53 := by
  obtain ⟨t, ht⟩ := Option.isSome_iff_exists.mp h
  exact Instant.natAbs_lt_of_inRange (Instant.ofSeconds?_eq_some_iff.mp ht).1

/-- What is signed of an entry that has an instant determines the entry up to the rounding of its index, and there is none
below 2⁵³. -/
theorem signedBytes_eq_iff {e d : LogEntry} {a b : Bytes} (ha : e.logId = some a) (hb : d.logId = some b)
    (he : e.time?.isSome) :
    (e.signedBytes a = d.signedBytes b ↔ e.body = d.body ∧ e.integratedTime = d.integratedTime ∧ e.logId = d.logId ∧
      Double.SameDouble e.logIndex.toInt d.logIndex.toInt) ∧
    (e.signedBytes a = d.signedBytes b → e.logIndex.toInt.natAbs < 2 ^ 53 → e.logIndex = d.logIndex) := by
  rw [signedBytes_eq_iff_signedValue, signedValue_eq_iff]
  have htime : Double.SameDouble e.integratedTime.toInt d.integratedTime.toInt ↔ e.integratedTime = d.integratedTime :=
    ⟨fun h => Int64.toInt_inj.mp (h.eq_of_lt (natAbs_integratedTime_lt he)), fun h => h ▸ .refl _⟩
  have hid : e.logId = d.logId ↔ a = b := by rw [ha, hb, Option.some.injEq]
  rw [htime, hid]
  exact ⟨Iff.rfl, fun h hindex => Int64.toInt_inj.mp (h.2.2.2.eq_of_lt hindex)⟩

/-- An entry at an index. -/
def atIndex (index : Int64) : LogEntry :=
  { logIndex := index, logId := some [0xc0, 0xd2], kindVersion := none, integratedTime := 1700000000, promise := some [0x30],
    proof := none, body := [0x7b, 0x7d] }

theorem signedBytes_atIndex_ne : (atIndex 7).logId = some [0xc0, 0xd2] ∧ (atIndex 8).logId = some [0xc0, 0xd2] ∧
    (atIndex 7).time?.isSome ∧ (atIndex 7).signedBytes [0xc0, 0xd2] ≠ (atIndex 8).signedBytes [0xc0, 0xd2] := by
  refine ⟨rfl, rfl, by decide, fun h => ?_⟩
  have hindex := (signedBytes_eq_iff rfl rfl (by decide)).2 h (by decide)
  exact absurd hindex (by decide)

/-- A promise for one entry is one for every entry that differs in its index only, if the index is the same as a double. -/
theorem verifyPromise_of_sameDouble {e : LogEntry} {index : Int64}
    (h : Double.SameDouble e.logIndex.toInt index.toInt) (logs : List TrustedLog) :
    { e with logIndex := index }.verifyPromise logs = e.verifyPromise logs := by
  have hsigned : ∀ logId, { e with logIndex := index }.signedBytes logId = e.signedBytes logId := fun logId =>
    signedBytes_eq_iff_signedValue.mpr (signedValue_eq_iff.mpr ⟨rfl, .refl _, rfl, h.symm⟩)
  simp only [verifyPromise, hsigned]
  rfl

/-- The first two indexes that share a double. One promise covers the entries at both, whichever logs are trusted. -/
theorem signedBytes_eq_of_next_index :
    ((atIndex 9007199254740992).logId = some [0xc0, 0xd2] ∧ (atIndex 9007199254740993).logId = some [0xc0, 0xd2]) ∧
    ((atIndex 9007199254740992).time?.isSome ∧ (atIndex 9007199254740993).time?.isSome) ∧
    (atIndex 9007199254740992).signedBytes [0xc0, 0xd2] = (atIndex 9007199254740993).signedBytes [0xc0, 0xd2] ∧
    (atIndex 9007199254740992).logIndex ≠ (atIndex 9007199254740993).logIndex ∧
    ∀ logs, (atIndex 9007199254740993).verifyPromise logs = (atIndex 9007199254740992).verifyPromise logs := by
  have hsame : Double.SameDouble (9007199254740992 : Int64).toInt (9007199254740993 : Int64).toInt := by decide
  have hpromise : ∀ {i j : Int64}, Double.SameDouble i.toInt j.toInt → ∀ logs,
      (atIndex j).verifyPromise logs = (atIndex i).verifyPromise logs :=
    fun {i _} h => verifyPromise_of_sameDouble (e := atIndex i) h
  refine ⟨⟨rfl, rfl⟩, ⟨by decide, by decide⟩, ?_, by decide, hpromise hsame⟩
  exact signedBytes_eq_iff_signedValue.mpr (signedValue_eq_iff.mpr ⟨rfl, .refl _, rfl, hsame⟩)

end ArtifactTrust.LogEntry
