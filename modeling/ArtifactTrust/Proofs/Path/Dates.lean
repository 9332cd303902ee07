import ArtifactTrust.Proofs.Path.Soundness
import ArtifactTrust.Proofs.Time.Instant
import Mathlib.Data.Set.Finite.Lemmas

/-!
# The dates of a path

The instant at which certificates have to be valid comes last: the path is selected and its other rules are checked without
it. So there is one path for all instants, or one error for all of them (`Path.verify_dates`), and a path that has expired
never makes room for another. The instants at which the path is accepted reach from the latest `notBefore` of its certificates
to the earliest `notAfter`, both included.
-/

namespace ArtifactTrust.Path

variable {leaf : Certificate} {trusted untrusted path : List Certificate} {t : Instant}

/-! ## Validity along a path -/

/-- Whether all certificates of a path are valid at an instant, the ends of their periods included. -/
def IsValidAt (path : List Certificate) (t : Instant) : Prop := ∀ c ∈ path, c.notBefore ≤ t ∧ t ≤ c.notAfter

/-- The certificate at a place is the first one of a path that is not valid at an instant. -/
structure IsFirstInvalid (path : List Certificate) (t : Instant) (place : Nat) : Prop where
  invalid : ∃ c, path[place]? = some c ∧ ¬(c.notBefore ≤ t ∧ t ≤ c.notAfter)
  valid : ∀ i < place, ∀ c, path[i]? = some c → c.notBefore ≤ t ∧ t ≤ c.notAfter

/-- The instants at which all certificates are valid are those from the latest beginning to the earliest end. -/
theorem exists_isValidAt_iff (h : path ≠ []) :
    ∃ first ∈ path.map (·.notBefore), ∃ last ∈ path.map (·.notAfter), ∀ t, IsValidAt path t ↔ first ≤ t ∧ t ≤ last := by
  have hne : {c | c ∈ path}.Nonempty := List.exists_mem_of_ne_nil path h
  obtain ⟨latest, hlatest, hfirst⟩ := Set.exists_max_image {c | c ∈ path} (·.notBefore) (List.finite_toSet path) hne
  obtain ⟨earliest, hearliest, hlast⟩ := Set.exists_min_image {c | c ∈ path} (·.notAfter) (List.finite_toSet path) hne
  refine ⟨latest.notBefore, List.mem_map_of_mem hlatest, earliest.notAfter, List.mem_map_of_mem hearliest, fun t => ?_⟩
  constructor
  · intro hvalid
    exact ⟨(hvalid latest hlatest).1, (hvalid earliest hearliest).2⟩
  · rintro ⟨hbegun, hended⟩ c hc
    exact ⟨(hfirst c hc).trans hbegun, hended.trans (hlast c hc)⟩

/-- No certificate is listed as invalid exactly when all of them are valid. -/
theorem validityFaults_eq_nil_iff : validityFaults t path = [] ↔ IsValidAt path t := by
  rw [List.eq_nil_iff_forall_not_mem]
  constructor
  · intro h c hc
    obtain ⟨i, hi⟩ := List.mem_iff_getElem?.mp hc
    by_contra hinvalid
    exact h _ (mem_validityFaults.mpr ⟨i, c, hi, hinvalid, rfl⟩)
  · intro h e he
    obtain ⟨i, c, hi, hinvalid, -⟩ := mem_validityFaults.mp he
    exact hinvalid (h c (List.mem_of_getElem? hi))

/-- The first certificate that is listed as invalid is the first one that is. -/
theorem isFirstInvalid_of_head {e : PathError} (h : (validityFaults t path).head? = some e) :
    ∃ place, IsFirstInvalid path t place ∧ e = .notValid place t := by
  obtain ⟨rest, hrest⟩ := List.head?_eq_some_iff.mp h
  have hsorted := validityFaults_sorted t path
  rw [hrest] at hsorted
  obtain ⟨place, c, hc, hinvalid, rfl⟩ := mem_validityFaults.mp (hrest ▸ List.mem_cons_self)
  refine ⟨place, ⟨⟨c, hc, hinvalid⟩, fun i hi d hd => ?_⟩, rfl⟩
  by_contra hn
  have hmem : PathError.notValid i t ∈ validityFaults t path := mem_validityFaults.mpr ⟨i, d, hd, hn, rfl⟩
  rw [hrest] at hmem
  rcases List.mem_cons.mp hmem with heq | hmem
  · cases heq
    exact Nat.lt_irrefl _ hi
  · have hlt := List.rel_of_pairwise_cons hsorted hmem
    simp [PathError.order, PathError.stage, PathError.within, List.cons_lt_cons_iff] at hlt
    omega

/-! ## One path for all instants -/

/-- The path that is judged breaks no rule, unless a certificate of it is not valid: at the instants at which all are valid the
answer is the path, at the others it is the first certificate that is not. -/
structure IsJudgedByDate (leaf : Certificate) (trusted untrusted path : List Certificate) : Prop where
  judged : Judged leaf trusted untrusted path
  accepted : ∀ t, IsValidAt path t → verify leaf trusted untrusted t = .ok path
  refused : ∀ t, ¬IsValidAt path t →
    ∃ place, IsFirstInvalid path t place ∧ verify leaf trusted untrusted t = .error (.notValid place t)

/-- Selecting the path and checking the rules on it, which is all that comes before the instant, gives an error or a path. -/
theorem error_or_isJudgedByDate (leaf : Certificate) (trusted untrusted : List Certificate) :
    (∃ e, ∀ t, verify leaf trusted untrusted t = .error e) ∨ ∃ path, IsJudgedByDate leaf trusted untrusted path := by
  cases hs : select leaf trusted untrusted with
  | error e => exact Or.inl ⟨e, fun t => verify_of_select_error hs⟩
  | ok path =>
    cases hr : brokenRules path with
    | cons e rest =>
      refine Or.inl ⟨e, fun t => ?_⟩
      rw [verify_of_select_ok hs, faults, hr]
      rfl
    | nil =>
      have hanswer : ∀ t, verify leaf trusted untrusted t = (validityFaults t path).head?.elim (.ok path) .error := by
        intro t
        rw [verify_of_select_ok hs, faults, hr, List.nil_append]
      refine Or.inr ⟨path, select_eq_ok_iff.mp hs, fun t hvalid => ?_, fun t hinvalid => ?_⟩
      · rw [hanswer, validityFaults_eq_nil_iff.mpr hvalid]
        rfl
      · cases hhead : (validityFaults t path).head? with
        | none => exact absurd (validityFaults_eq_nil_iff.mp (List.head?_eq_none_iff.mp hhead)) hinvalid
        | some e =>
          obtain ⟨place, hplace, rfl⟩ := isFirstInvalid_of_head hhead
          exact ⟨place, hplace, by rw [hanswer, hhead]; rfl⟩

/-- A path is the answer exactly when it is the one that is judged by the date, and all its certificates are valid. -/
theorem IsJudgedByDate.ok_iff {other : List Certificate} (h : IsJudgedByDate leaf trusted untrusted path) :
    verify leaf trusted untrusted t = .ok other ↔ other = path ∧ IsValidAt path t := by
  by_cases hvalid : IsValidAt path t
  · rw [h.accepted t hvalid, Except.ok.injEq]
    exact ⟨fun heq => ⟨heq.symm, hvalid⟩, fun heq => heq.1.symm⟩
  · obtain ⟨place, -, herror⟩ := h.refused t hvalid
    rw [herror]
    simp [hvalid]

/-- The path does not depend on the instant, nor does any error but that a certificate of it is not valid. Either one and the
same error is the answer at every instant, or the path that is judged is the answer at the instants at which all its
certificates are valid, which are those from one instant to another, and at every other instant the answer is the first of its
certificates that is not valid. So what is accepted at two instants is accepted, with the same path, at all between them. -/
theorem verify_dates (leaf : Certificate) (trusted untrusted : List Certificate) :
    ((∃ e, ∀ t, verify leaf trusted untrusted t = .error e) ∨
      ∃ path, Judged leaf trusted untrusted path ∧
        (∀ t, IsValidAt path t → verify leaf trusted untrusted t = .ok path) ∧
        (∀ t, ¬IsValidAt path t →
          ∃ place, IsFirstInvalid path t place ∧ verify leaf trusted untrusted t = .error (.notValid place t)) ∧
        ∃ first ∈ path.map (·.notBefore), ∃ last ∈ path.map (·.notAfter),
          ∀ t, verify leaf trusted untrusted t = .ok path ↔ first ≤ t ∧ t ≤ last) ∧
    ∀ t₁ t₂ path₁ path₂, verify leaf trusted untrusted t₁ = .ok path₁ → verify leaf trusted untrusted t₂ = .ok path₂ →
      path₂ = path₁ ∧ ∀ t, t₁ ≤ t → t ≤ t₂ → verify leaf trusted untrusted t = .ok path₁ := by
  rcases error_or_isJudgedByDate leaf trusted untrusted with ⟨e, herror⟩ | ⟨path, hpath⟩
  · refine ⟨Or.inl ⟨e, herror⟩, fun t₁ t₂ path₁ path₂ h₁ _ => ?_⟩
    rw [herror] at h₁
    cases h₁
  · have hne : path ≠ [] := by
      rw [hpath.judged.complete.eq_cons]
      exact List.cons_ne_nil _ _
    obtain ⟨first, hfirst, last, hlast, hwindow⟩ := exists_isValidAt_iff hne
    refine ⟨Or.inr ⟨path, hpath.judged, hpath.accepted, hpath.refused, first, hfirst, last, hlast, fun t => ?_⟩,
      fun t₁ t₂ path₁ path₂ h₁ h₂ => ?_⟩
    · rw [hpath.ok_iff, hwindow]
      exact and_iff_right rfl
    · obtain ⟨rfl, hvalid₁⟩ := hpath.ok_iff.mp h₁
      obtain ⟨rfl, hvalid₂⟩ := hpath.ok_iff.mp h₂
      refine ⟨rfl, fun t h ht => hpath.ok_iff.mpr ⟨rfl, (hwindow t).mpr ⟨?_, ?_⟩⟩⟩
      · exact ((hwindow t₁).mp hvalid₁).1.trans h
      · exact ht.trans ((hwindow t₂).mp hvalid₂).2

theorem sample_dates : sampleLeaf.notBefore = ⟨1717200000, 0⟩ ∧ sampleLeaf.notAfter = ⟨1717200600, 0⟩ ∧
    sampleRoot.notBefore ≤ ⟨1717200000, 0⟩ ∧ ⟨1717200600, 0⟩ ≤ sampleRoot.notAfter := by decide +kernel

/-- The leaf is valid for ten minutes. In the first and in the last second of them its path is verified, and a nanosecond later
the leaf is what is not valid any more. -/
theorem verify_dates_sample :
    verify sampleLeaf [sampleRoot] [] ⟨1717200000, 0⟩ = .ok [sampleLeaf, sampleRoot] ∧
    verify sampleLeaf [sampleRoot] [] ⟨1717200600, 0⟩ = .ok [sampleLeaf, sampleRoot] ∧
    verify sampleLeaf [sampleRoot] [] ⟨1717200600, 1⟩ = .error (.notValid 0 ⟨1717200600, 1⟩) := by
  obtain ⟨hbegin, hend, hroot, hroot'⟩ := sample_dates
  obtain ⟨⟨e, herror⟩ | ⟨path, hjudged, haccepted, hrefused, -⟩, -⟩ := verify_dates sampleLeaf [sampleRoot] []
  · have hverify := verify_sample
    rw [herror] at hverify
    cases hverify
  · have hpath : path = [sampleLeaf, sampleRoot] := (verify_eq_ok_iff.mp verify_sample).1.unique hjudged
    subst hpath
    have hvalid : ∀ t, (⟨1717200000, 0⟩ : Instant) ≤ t → t ≤ ⟨1717200600, 0⟩ → IsValidAt [sampleLeaf, sampleRoot] t := by
      intro t hbegun hended
      refine List.forall_mem_cons.mpr ⟨⟨?_, ?_⟩, List.forall_mem_singleton.mpr ⟨hroot.trans hbegun, hended.trans hroot'⟩⟩
      · rwa [hbegin]
      · rwa [hend]
    have hexpired : ¬(sampleLeaf.notBefore ≤ ⟨1717200600, 1⟩ ∧ (⟨1717200600, 1⟩ : Instant) ≤ sampleLeaf.notAfter) := by
      rw [hbegin, hend]
      decide
    refine ⟨haccepted _ (hvalid _ (by decide) (by decide)), haccepted _ (hvalid _ (by decide) (by decide)), ?_⟩
    obtain ⟨place, hplace, herror⟩ := hrefused ⟨1717200600, 1⟩ fun h => hexpired (h sampleLeaf List.mem_cons_self)
    cases place with
    | zero => exact herror
    | succ place => exact absurd (hplace.valid 0 (Nat.succ_pos _) sampleLeaf rfl) hexpired

end ArtifactTrust.Path
