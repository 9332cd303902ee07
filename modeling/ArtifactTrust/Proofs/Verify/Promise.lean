import ArtifactTrust.Log.Promise
import ArtifactTrust.Proofs.Verify.Content

/-!
# What becomes of a promise

A promise is judged by the keys of the logs that have the entry's id and are in use at the entry's time, in no particular order.
`LogEntry.Judged` has one case for each answer and says what it takes; the check gives the answer that is right by it
(`LogEntry.judged_iff`), and passes the entries that are promised (`LogEntry.Promised`). Main statement: a promise passes if one of
these keys has signed it, it is rejected if there are such keys and none has, and everything else makes the bundle unusable
(`LogEntry.verifyPromise_verdict`).
-/

namespace ArtifactTrust

open Success

/-! ## Logs in use -/

/-- An instant lies in a window: not before its start, if it has one, and not after its end, if it has one. -/
structure TimeWindow.Includes (w : TimeWindow) (t : Instant) : Prop where
  start : ∀ start, w.start = some start → start ≤ t
  finish : ∀ finish, w.finish = some finish → t ≤ finish

theorem TimeWindow.contains_iff {w : TimeWindow} {t : Instant} : w.contains t = true ↔ w.Includes t := by
  rw [contains, Bool.and_eq_true, Option.all_eq_true, Option.all_eq_true]
  simp only [decide_eq_true_eq]
  constructor
  · intro h
    exact ⟨h.1, h.2⟩
  · intro h
    exact ⟨h.start, h.finish⟩

/-- A log has an id, and its key is in use at an instant. -/
structure TrustedLog.Covers (l : TrustedLog) (id : Bytes) (t : Instant) : Prop where
  id : l.id = id
  window : l.validFor.Includes t

theorem TrustedLog.accepts_iff {l : TrustedLog} {id : Bytes} {t : Instant} :
    l.accepts id t = true ↔ l.id = id ∧ l.validFor.contains t = true := by
  rw [accepts, Bool.and_eq_true, beq_iff_eq]

theorem TrustedLog.accepts_iff_covers {l : TrustedLog} {id : Bytes} {t : Instant} : l.accepts id t = true ↔ l.Covers id t := by
  rw [accepts_iff, TimeWindow.contains_iff]
  constructor
  · intro h
    exact ⟨h.1, h.2⟩
  · intro h
    exact ⟨h.id, h.window⟩

namespace LogEntry

variable {e : LogEntry} {logs : List TrustedLog}

/-- A promise is looked at when some log has its id, the key in use at its time; it is accepted when such a log has made it. -/
theorem verifyPromise_eq_any (e : LogEntry) (logs : List TrustedLog) : e.verifyPromise logs = (do
    let promise ← e.promise.elim (.error .missing) .ok
    let logId ← e.logId.elim (.error .missingLogId) .ok
    let time ← e.time?.elim (.error .time) .ok
    if logs.any fun log => log.accepts logId time then
      if logs.any fun log => log.accepts logId time &&
          log.key.defaultScheme.verify log.key.octets (e.signedBytes logId) promise then return ()
      else .error .rejected
    else .error (.unknownLog logId)) := by
  refine bind_congr_ok fun promise _ => bind_congr_ok fun logId _ => bind_congr_ok fun time _ => ?_
  rw [← List.any_filter]
  cases hcandidates : logs.filter fun log => log.accepts logId time with
  | nil =>
    have hnone : ¬ (logs.any fun log => log.accepts logId time) = true := by
      simpa only [List.any_eq_true, not_exists, not_and] using List.filter_eq_nil_iff.mp hcandidates
    rw [if_neg hnone]
  | cons log candidates =>
    have hlog := List.mem_filter.mp (hcandidates ▸ List.mem_cons_self : log ∈ logs.filter fun log => log.accepts logId time)
    rw [if_pos (List.any_eq_true.mpr ⟨log, hlog⟩)]

/-! ## Answers -/

/-- An entry tells what its promise is judged by: the promise, the log that has made it, and when. -/
structure Tells (e : LogEntry) (promise logId : Bytes) (time : Instant) : Prop where
  promise : e.promise = some promise
  logId : e.logId = some logId
  time : e.time? = some time

/-- An entry lacks what a promise is judged by, or every log that could have made it. -/
def Unjudgeable (e : LogEntry) (logs : List TrustedLog) : Prop :=
  e.promise = none ∨ e.logId = none ∨ e.time? = none ∨
    ∃ logId time, e.logId = some logId ∧ e.time? = some time ∧ ∀ log ∈ logs, ¬log.Covers logId time

/-- The answers to an entry, each with what it takes. -/
inductive Judged (e : LogEntry) (logs : List TrustedLog) : Except PromiseFault Unit → Prop where
  | noPromise (hnone : e.promise = none) : e.Judged logs (.error .missing)
  | noLogId {promise : Bytes} (hpromise : e.promise = some promise) (hnone : e.logId = none) :
      e.Judged logs (.error .missingLogId)
  | noTime {promise logId : Bytes} (hpromise : e.promise = some promise) (hlogId : e.logId = some logId)
      (hnone : e.time? = none) : e.Judged logs (.error .time)
  | unknownLog {promise logId : Bytes} {time : Instant} (htells : e.Tells promise logId time)
      (hnone : ∀ log ∈ logs, ¬log.Covers logId time) : e.Judged logs (.error (.unknownLog logId))
  | rejected {promise logId : Bytes} {time : Instant} (htells : e.Tells promise logId time)
      (hsome : ∃ log ∈ logs, log.Covers logId time)
      (hnone : ∀ log ∈ logs, log.Covers logId time → ¬log.key.Signs (e.signedBytes logId) promise) :
      e.Judged logs (.error .rejected)
  | accepted {promise logId : Bytes} {time : Instant} (htells : e.Tells promise logId time)
      (hsome : ∃ log ∈ logs, log.Covers logId time ∧ log.key.Signs (e.signedBytes logId) promise) : e.Judged logs (.ok ())

/-- A trusted log with the id that the entry names, its key in use at the entry's time, has signed the entry. -/
def Promised (e : LogEntry) (logs : List TrustedLog) : Prop :=
  ∃ promise logId time, e.promise = some promise ∧ e.logId = some logId ∧ e.time? = some time ∧
    ∃ log ∈ logs, log.id = logId ∧ log.validFor.contains time = true ∧ log.key.Signs (e.signedBytes logId) promise

theorem promised_iff : e.Promised logs ↔ ∃ promise logId time, e.Tells promise logId time ∧
    ∃ log ∈ logs, log.Covers logId time ∧ log.key.Signs (e.signedBytes logId) promise := by
  constructor
  · rintro ⟨promise, logId, time, hp, hl, ht, log, hlog, hid, hwindow, hsigns⟩
    exact ⟨promise, logId, time, ⟨hp, hl, ht⟩, log, hlog, ⟨hid, TimeWindow.contains_iff.mp hwindow⟩, hsigns⟩
  · rintro ⟨promise, logId, time, htells, log, hlog, hcovers, hsigns⟩
    exact ⟨promise, logId, time, htells.promise, htells.logId, htells.time, log, hlog, hcovers.id,
      TimeWindow.contains_iff.mpr hcovers.window, hsigns⟩

/-- A promised entry has a promise. -/
theorem Promised.isSome (h : e.Promised logs) : e.promise.isSome = true := by
  obtain ⟨promise, -, -, hp, -⟩ := h
  rw [hp]
  rfl

theorem any_accepts_iff {logId : Bytes} {time : Instant} :
    (logs.any fun log => log.accepts logId time) = true ↔ ∃ log ∈ logs, log.Covers logId time := by
  simp only [List.any_eq_true, TrustedLog.accepts_iff_covers]

theorem any_signs_iff {promise logId : Bytes} {time : Instant} :
    (logs.any fun log => log.accepts logId time &&
      log.key.defaultScheme.verify log.key.octets (e.signedBytes logId) promise) = true ↔
      ∃ log ∈ logs, log.Covers logId time ∧ log.key.Signs (e.signedBytes logId) promise := by
  simp only [List.any_eq_true, Bool.and_eq_true, TrustedLog.accepts_iff_covers, PublicKey.Signs]

/-- With everything there, the logs decide. -/
theorem Tells.verifyPromise_eq {promise logId : Bytes} {time : Instant} (h : e.Tells promise logId time) :
    e.verifyPromise logs =
      if logs.any fun log => log.accepts logId time then
        if logs.any fun log => log.accepts logId time &&
            log.key.defaultScheme.verify log.key.octets (e.signedBytes logId) promise then .ok ()
        else .error .rejected
      else .error (.unknownLog logId) := by
  rw [verifyPromise_eq_any, h.promise, h.logId, h.time]
  rfl

/-- There is an answer to every entry. -/
theorem exists_judged (e : LogEntry) (logs : List TrustedLog) : ∃ r, e.Judged logs r := by
  cases hpromise : e.promise with
  | none => exact ⟨_, .noPromise hpromise⟩
  | some promise =>
    cases hlogId : e.logId with
    | none => exact ⟨_, .noLogId hpromise hlogId⟩
    | some logId =>
      cases htime : e.time? with
      | none => exact ⟨_, .noTime hpromise hlogId htime⟩
      | some time =>
        have htells : e.Tells promise logId time := ⟨hpromise, hlogId, htime⟩
        by_cases hknown : ∃ log ∈ logs, log.Covers logId time
        · by_cases hsigned : ∃ log ∈ logs, log.Covers logId time ∧ log.key.Signs (e.signedBytes logId) promise
          · exact ⟨_, .accepted htells hsigned⟩
          · exact ⟨_, .rejected htells hknown fun log hlog hcovers hsigns => hsigned ⟨log, hlog, hcovers, hsigns⟩⟩
        · exact ⟨_, .unknownLog htells fun log hlog hcovers => hknown ⟨log, hlog, hcovers⟩⟩

/-- An answer is given where it is right. -/
theorem Judged.verifyPromise_eq {r : Except PromiseFault Unit} (h : e.Judged logs r) : e.verifyPromise logs = r := by
  cases h with
  | noPromise hnone =>
    rw [verifyPromise_eq_any, hnone]
    rfl
  | noLogId hpromise hnone =>
    rw [verifyPromise_eq_any, hpromise, hnone]
    rfl
  | noTime hpromise hlogId hnone =>
    rw [verifyPromise_eq_any, hpromise, hlogId, hnone]
    rfl
  | unknownLog htells hnone =>
    rw [htells.verifyPromise_eq, if_neg]
    rw [any_accepts_iff]
    rintro ⟨log, hlog, hcovers⟩
    exact hnone log hlog hcovers
  | rejected htells hsome hnone =>
    rw [htells.verifyPromise_eq, if_pos (any_accepts_iff.mpr hsome), if_neg]
    rw [any_signs_iff]
    rintro ⟨log, hlog, hcovers, hsigns⟩
    exact hnone log hlog hcovers hsigns
  | accepted htells hsome =>
    have hknown : ∃ log ∈ logs, log.Covers _ _ := hsome.imp fun log ⟨hlog, hcovers, _⟩ => ⟨hlog, hcovers⟩
    rw [htells.verifyPromise_eq, if_pos (any_accepts_iff.mpr hknown), if_pos (any_signs_iff.mpr hsome)]

theorem judged_iff {r : Except PromiseFault Unit} : e.Judged logs r ↔ e.verifyPromise logs = r := by
  constructor
  · exact Judged.verifyPromise_eq
  · rintro rfl
    obtain ⟨r, hr⟩ := exists_judged e logs
    rwa [hr.verifyPromise_eq]

/-- The entries that pass are the promised ones. -/
theorem verifyPromise_eq_ok_iff {u : Unit} : e.verifyPromise logs = .ok u ↔ e.Promised logs := by
  rw [promised_iff]
  constructor
  · intro h
    have hjudged : e.Judged logs (.ok u) := judged_iff.mpr h
    cases hjudged with
    | accepted htells hsome => exact ⟨_, _, _, htells, hsome⟩
  · rintro ⟨promise, logId, time, htells, hsome⟩
    exact (Judged.accepted htells hsome).verifyPromise_eq

/-- The keys of logs decide about everything else. -/
theorem Tells.not_unjudgeable {promise logId : Bytes} {time : Instant} (h : e.Tells promise logId time)
    (hsome : ∃ log ∈ logs, log.Covers logId time) : ¬e.Unjudgeable logs := by
  rintro (hnone | hnone | hnone | ⟨logId', time', hlogId, htime, hnone⟩)
  · exact Option.some_ne_none _ (h.promise.symm.trans hnone)
  · exact Option.some_ne_none _ (h.logId.symm.trans hnone)
  · exact Option.some_ne_none _ (h.time.symm.trans hnone)
  · obtain ⟨log, hlog, hcovers⟩ := hsome
    obtain rfl : logId = logId' := Option.some.inj (h.logId.symm.trans hlogId)
    obtain rfl : time = time' := Option.some.inj (h.time.symm.trans htime)
    exact hnone log hlog hcovers

/-- A promise passes if the key of a log with the entry's id, in use at the entry's time, has signed the entry. Where there are such
logs and none of their keys has, it is rejected. Without a promise, an id, a time or such a log the bundle is unusable. -/
theorem verifyPromise_verdict (e : LogEntry) (logs : List TrustedLog) :
    ((e.verifyPromise logs).mapError VerifyError.ofPromise = .ok () ↔
      ∃ promise logId time, e.Tells promise logId time ∧
        ∃ log ∈ logs, log.Covers logId time ∧ log.key.Signs (e.signedBytes logId) promise) ∧
    ((∃ fault, (e.verifyPromise logs).mapError VerifyError.ofPromise = .error (.bundle fault)) ↔ e.Unjudgeable logs) ∧
    ((∃ reason, (e.verifyPromise logs).mapError VerifyError.ofPromise = .error (.rejected reason)) ↔
      ∃ promise logId time, e.Tells promise logId time ∧ (∃ log ∈ logs, log.Covers logId time) ∧
        ∀ log ∈ logs, log.Covers logId time → ¬log.key.Signs (e.signedBytes logId) promise) := by
  have hjudged : e.Judged logs (e.verifyPromise logs) := judged_iff.mpr rfl
  refine ⟨?_, ⟨?_, ?_⟩, ⟨?_, ?_⟩⟩
  · rw [mapError_eq_ok, verifyPromise_eq_ok_iff, promised_iff]
  · rintro ⟨fault, h⟩
    generalize e.verifyPromise logs = r at h hjudged
    cases hjudged with
    | noPromise hnone => exact Or.inl hnone
    | noLogId _ hnone => exact Or.inr (Or.inl hnone)
    | noTime _ _ hnone => exact Or.inr (Or.inr (Or.inl hnone))
    | unknownLog htells hnone => exact Or.inr (Or.inr (Or.inr ⟨_, _, htells.logId, htells.time, hnone⟩))
    | rejected => cases h
    | accepted => cases h
  · intro hunusable
    generalize e.verifyPromise logs = r at hjudged
    cases hjudged with
    | rejected htells hsome _ => exact absurd hunusable (htells.not_unjudgeable hsome)
    | accepted htells hsome =>
      obtain ⟨log, hlog, hcovers, -⟩ := hsome
      exact absurd hunusable (htells.not_unjudgeable ⟨log, hlog, hcovers⟩)
    | _ => exact ⟨_, rfl⟩
  · rintro ⟨reason, h⟩
    generalize e.verifyPromise logs = r at h hjudged
    cases hjudged with
    | rejected htells hsome hnone => exact ⟨_, _, _, htells, hsome, hnone⟩
    | _ => cases h
  · rintro ⟨promise, logId, time, htells, hsome, hnone⟩
    rw [(Judged.rejected htells hsome hnone).verifyPromise_eq]
    exact ⟨_, rfl⟩

end LogEntry

end ArtifactTrust
