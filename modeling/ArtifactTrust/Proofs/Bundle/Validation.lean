import ArtifactTrust.Bundle.Validation
import Mathlib.Tactic.MkIffOfInductiveProp

/-!
# Bundles that break no rule

The rules of a bundle are kept one by one: a bundle breaks none of them exactly when its parts break none, and an entry breaks
none exactly when it is well-formed (`LogEntry.WellFormed`), wherever in the bundle it stands (`Bundle.brokenRules_eq_nil_iff`).
What keeps the rules therefore keeps them when less is required, and so does a bundle that repeats its entries.
-/

namespace ArtifactTrust

theorem BrokenRule.when_eq_nil_iff {broken : Bool} {rule : BrokenRule} : when broken rule = [] ↔ broken = false := by
  cases broken <;> simp [when]

/-! ## Entries -/

namespace LogEntry

/-- A log gives an entry what the version of a bundle has for it: a promise in version 0.1, where promises are required, and
later a proof, where proofs are required. A proof always comes with a checkpoint. -/
def IsVouchedFor (version : Option BundleVersion) (options : ValidationOptions) (e : LogEntry) : Prop :=
  match version with
  | none => True
  | some .v01 => options.promiseRequired = true → e.promise.isSome = true
  | some _ => (options.proofRequired = true → e.proof.isSome = true) ∧
      ∀ proof, e.proof = some proof → proof.checkpoint.isEmpty = false

/-- An entry names its log and its kind, has a body, and has what the log gives for it. -/
@[mk_iff] structure WellFormed (version : Option BundleVersion) (options : ValidationOptions) (e : LogEntry) : Prop where
  logId : e.logId.isSome = true
  kindVersion : e.kindVersion.isSome = true
  body : e.body.isEmpty = false
  vouched : e.IsVouchedFor version options

variable {version : Option BundleVersion} {options relaxed : ValidationOptions} {e : LogEntry}

/-- Where an entry stands only shows in the report. -/
theorem brokenRules_eq_nil_iff {place : Nat} :
    e.brokenRules version options place = [] ↔ e.WellFormed version options := by
  have hpromise : (options.promiseRequired && e.promise.isNone) = false ↔
      (options.promiseRequired = true → e.promise.isSome = true) := by
    cases e.promise <;> simp
  unfold brokenRules
  rw [wellFormed_iff, List.append_eq_nil_iff, List.append_eq_nil_iff, List.append_eq_nil_iff, and_assoc, and_assoc]
  simp only [BrokenRule.when_eq_nil_iff, Option.isNone_eq_false_iff]
  refine and_congr_right' (and_congr_right' (and_congr_right' ?_))
  rcases version with _ | _ | _ | _
  · simp [IsVouchedFor]
  · exact BrokenRule.when_eq_nil_iff.trans hpromise
  -- Later versions have the same rules.
  all_goals
    simp only [IsVouchedFor]
    cases e.proof <;> simp [BrokenRule.when_eq_nil_iff]

theorem WellFormed.mono (h : e.WellFormed version options)
    (hpromise : relaxed.promiseRequired = true → options.promiseRequired = true)
    (hproof : relaxed.proofRequired = true → options.proofRequired = true) : e.WellFormed version relaxed := by
  obtain ⟨hid, hkind, hbody, hvouched⟩ := h
  refine ⟨hid, hkind, hbody, ?_⟩
  match version, hvouched with
  | none, _ => trivial
  | some .v01, hvouched => exact fun hr => hvouched (hpromise hr)
  | some .v02, hvouched => exact ⟨fun hr => hvouched.1 (hproof hr), hvouched.2⟩
  | some .v03, hvouched => exact ⟨fun hr => hvouched.1 (hproof hr), hvouched.2⟩

end LogEntry

/-! ## Bundles -/

namespace Bundle

variable {b : Bundle} {options relaxed : ValidationOptions}

theorem brokenRules_eq_nil_iff : b.brokenRules options = [] ↔
    b.version?.isSome = true ∧ SignedContent.brokenRules b.content = [] ∧
      b.material.signer.brokenRules b.version? = [] ∧ ∀ e ∈ b.entries, e.WellFormed b.version? options := by
  rw [brokenRules, List.append_eq_nil_iff, List.append_eq_nil_iff, List.append_eq_nil_iff,
    BrokenRule.when_eq_nil_iff, Option.isNone_eq_false_iff, and_assoc, and_assoc]
  refine and_congr_right' (and_congr_right' (and_congr_right' ?_))
  simp only [List.flatMap_eq_nil_iff, Prod.forall, LogEntry.brokenRules_eq_nil_iff]
  constructor
  · intro h e he
    obtain ⟨place, hplace⟩ := List.mem_iff_getElem?.mp he
    exact h e place (List.mem_zipIdx_iff_getElem?.mpr hplace)
  · intro h e place hplace
    exact h e (List.fst_mem_of_mem_zipIdx hplace)

/-- What keeps the rules keeps them where less is required. -/
theorem brokenRules_eq_nil_of_relaxed (h : b.brokenRules options = [])
    (hpromise : relaxed.promiseRequired = true → options.promiseRequired = true)
    (hproof : relaxed.proofRequired = true → options.proofRequired = true) : b.brokenRules relaxed = [] := by
  obtain ⟨hversion, hcontent, hsigner, hentries⟩ := brokenRules_eq_nil_iff.mp h
  exact brokenRules_eq_nil_iff.mpr ⟨hversion, hcontent, hsigner, fun e he => (hentries e he).mono hpromise hproof⟩

/-- A bundle with other log entries. -/
def withEntries (b : Bundle) (entries : List LogEntry) : Bundle := { b with material := { b.material with entries } }

@[simp] theorem entries_withEntries (entries : List LogEntry) : (b.withEntries entries).entries = entries := rfl

/-- The rules do not ask how often an entry stands in a bundle. -/
theorem brokenRules_withEntries_eq_nil {entries : List LogEntry} (h : b.brokenRules options = [])
    (hsub : ∀ e ∈ entries, e ∈ b.entries) : (b.withEntries entries).brokenRules options = [] := by
  obtain ⟨hversion, hcontent, hsigner, hentries⟩ := brokenRules_eq_nil_iff.mp h
  exact brokenRules_eq_nil_iff.mpr ⟨hversion, hcontent, hsigner, fun e he => hentries e (hsub e he)⟩

end Bundle

end ArtifactTrust
