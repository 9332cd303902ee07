import ArtifactTrust.Path.Rules
import ArtifactTrust.Proofs.Failure

/-!
# The first broken rule

`Breaks` says of each rule, by the places in the path and without any walk over it, when a path breaks the rule at an instant,
and `PathError.order` says which of two broken rules counts. Main statement: the first fault that the judge of a path lists is
the broken rule that counts (`firstFault_of_head`), and it lists none exactly when no rule is broken (`faults_eq_nil_iff`).
-/

namespace ArtifactTrust

/-- Two elements are equal when their octets are. -/
theorem Der.Element.beq_iff {a b : Der.Element} : (a == b) = true ↔ a.octets = b.octets := by
  show (a.octets == b.octets) = true ↔ _
  exact beq_iff_eq

/-- Two elements differ when their octets do. -/
theorem Der.Element.bne_iff {a b : Der.Element} : (a != b) = true ↔ a.octets ≠ b.octets := by
  rw [bne, Bool.not_eq_true', ← Bool.not_eq_true, Der.Element.beq_iff]

namespace PathError

/-- What a fault is about, numbered in the order in which it counts: whether there is a path, its length, the leaf, the
authorities, the chain of names, and the validity of the certificates. -/
def stage : PathError → Nat
  | noAnchors => 0
  | noPath => 1
  | noTrustedPath => 2
  | tooShort _ => 3
  | leafIsAuthority => 4
  | noDigitalSignature => 5
  | noIdentity => 6
  | notAuthority _ => 7
  | lengthExceeded _ => 7
  | brokenNames _ => 8
  | notValid _ _ => 9

/-- The order of faults of one stage: from the leaf upwards, and at one authority first whether it is one. -/
def within : PathError → List Nat
  | notAuthority place => [place, 0]
  | lengthExceeded place => [place, 1]
  | brokenNames place => [place]
  | notValid place _ => [place]
  | _ => []

/-- The order in which faults count, compared lexicographically. -/
def order (e : PathError) : List Nat := e.stage :: e.within

theorem order_lt_of_stage {e f : PathError} (h : e.stage < f.stage) : e.order < f.order :=
  List.cons_lt_cons_iff.mpr (Or.inl h)

theorem mem_when {present : Bool} {e f : PathError} : f ∈ when present e ↔ present = true ∧ f = e := by
  cases present <;> simp [when]

end PathError

namespace Path

open PathError (when mem_when order order_lt_of_stage)

/-! ## What it is to break a rule -/

/-- The number of certificates between the leaf and a place that are not self-issued. -/
def countBetween (path : List Certificate) (place : Nat) : Nat :=
  (path.take place).tail.countP fun c => !c.isSelfIssued

/-- When a path breaks a rule at an instant. Place 0 is the leaf. -/
def Breaks (t : Instant) (path : List Certificate) : PathError → Prop
  | .tooShort length => path.length = length ∧ length < 2
  | .leafIsAuthority => ∃ leaf, path[0]? = some leaf ∧ leaf.isAuthority = true
  | .noDigitalSignature => ∃ leaf, path[0]? = some leaf ∧ ¬∃ usage, leaf.usage = some usage ∧ usage.digitalSignature = true
  | .noIdentity => ∃ leaf, path[0]? = some leaf ∧ leaf.identity = none
  | .notAuthority place => 1 ≤ place ∧ ∃ c, path[place]? = some c ∧ c.isAuthority = false
  | .lengthExceeded place => 1 ≤ place ∧ ∃ c most, path[place]? = some c ∧ c.constraints.bind (·.pathLength) = some most ∧
      most < (countBetween path place : Int)
  | .brokenNames place => ∃ child parent, path[place]? = some child ∧ path[place + 1]? = some parent ∧
      child.issuer.octets ≠ parent.subject.octets
  | .notValid place time => time = t ∧ ∃ c, path[place]? = some c ∧ ¬(c.notBefore ≤ t ∧ t ≤ c.notAfter)
  | _ => False

/-- A broken rule such that every other broken rule counts after it. -/
def FirstFault (t : Instant) (path : List Certificate) (e : PathError) : Prop :=
  Breaks t path e ∧ ∀ f, Breaks t path f → f = e ∨ e.order < f.order

/-- All that the judge of a path has against it, in the order in which it is found. -/
def faults (t : Instant) (path : List Certificate) : List PathError := brokenRules path ++ validityFaults t path

/-! ## The faults of each kind -/

theorem isValidAt_iff {c : Certificate} {t : Instant} : c.isValidAt t = true ↔ c.notBefore ≤ t ∧ t ≤ c.notAfter := by
  simp [Certificate.isValidAt, Certificate.validity, TimeWindow.contains]

theorem exceedsLength_iff {below : List Certificate} {c : Certificate} :
    exceedsLength below c = true ↔ ∃ most, c.constraints.bind (·.pathLength) = some most ∧
      most < ((below.countP fun d => !d.isSelfIssued : Nat) : Int) := by
  simp only [exceedsLength, Option.any_eq_true, decide_eq_true_eq, List.countP_eq_length_filter]

theorem mem_leafFaults {leaf : Certificate} {e : PathError} :
    e ∈ leafFaults leaf ↔ (leaf.isAuthority = true ∧ e = .leafIsAuthority) ∨
      ((¬∃ usage, leaf.usage = some usage ∧ usage.digitalSignature = true) ∧ e = .noDigitalSignature) ∨
      (leaf.identity = none ∧ e = .noIdentity) := by
  simp only [leafFaults, List.mem_append, mem_when, or_assoc, Bool.not_eq_true', ← Bool.not_eq_true, Option.any_eq_true,
    Option.isNone_iff_eq_none]

/-- The faults of authorities by their places: an authority is looked at with those below it in mind. -/
theorem mem_authorityFaults {below above : List Certificate} {e : PathError} :
    e ∈ authorityFaults below above ↔ ∃ i c, above[i]? = some c ∧
      ((c.isAuthority = false ∧ e = .notAuthority (below.length + 1 + i)) ∨
        (exceedsLength (below ++ above.take i) c = true ∧ e = .lengthExceeded (below.length + 1 + i))) := by
  induction above generalizing below with
  | nil => simp [authorityFaults]
  | cons d above ih =>
    simp only [authorityFaults, List.mem_append, mem_when, Bool.not_eq_true', ih, or_assoc]
    constructor
    · rintro (h | h | ⟨i, c, hc, h⟩)
      · exact ⟨0, d, rfl, Or.inl h⟩
      · exact ⟨0, d, rfl, Or.inr (by simpa using h)⟩
      · refine ⟨i + 1, c, hc, ?_⟩
        simpa [Nat.add_assoc, Nat.add_comm, Nat.add_left_comm] using h
    · rintro ⟨i, c, hc, h⟩
      cases i with
      | zero =>
        rw [List.getElem?_cons_zero, Option.some.injEq] at hc
        subst hc
        rcases h with h | h
        · exact Or.inl h
        · exact Or.inr (Or.inl (by simpa using h))
      | succ i =>
        refine Or.inr (Or.inr ⟨i, c, hc, ?_⟩)
        simpa [Nat.add_assoc, Nat.add_comm, Nat.add_left_comm] using h

theorem mem_nameFaults {first : Nat} {path : List Certificate} {e : PathError} :
    e ∈ nameFaults first path ↔ ∃ i child parent, path[i]? = some child ∧ path[i + 1]? = some parent ∧
      child.issuer.octets ≠ parent.subject.octets ∧ e = .brokenNames (first + i) := by
  induction path generalizing first with
  | nil => simp [nameFaults]
  | cons c path ih =>
    cases path with
    | nil => simp [nameFaults]
    | cons d path =>
      rw [nameFaults, List.mem_append, mem_when, Der.Element.bne_iff, ih]
      constructor
      · rintro (⟨h, he⟩ | ⟨i, child, parent, hc, hp, h, he⟩)
        · exact ⟨0, c, d, rfl, rfl, h, he⟩
        · exact ⟨i + 1, child, parent, hc, hp, h, by rw [he]; congr 1; omega⟩
      · rintro ⟨i, child, parent, hc, hp, h, he⟩
        cases i with
        | zero =>
          rw [List.getElem?_cons_zero, Option.some.injEq] at hc
          rw [List.getElem?_cons_succ, List.getElem?_cons_zero, Option.some.injEq] at hp
          subst hc hp
          exact Or.inl ⟨h, he⟩
        | succ i => exact Or.inr ⟨i, child, parent, hc, hp, h, by rw [he]; congr 1; omega⟩

theorem mem_validityFaults {t : Instant} {path : List Certificate} {e : PathError} :
    e ∈ validityFaults t path ↔ ∃ i c, path[i]? = some c ∧ ¬(c.notBefore ≤ t ∧ t ≤ c.notAfter) ∧ e = .notValid i t := by
  simp only [validityFaults, List.mem_flatMap, mem_when, Prod.exists, List.mem_zipIdx_iff_getElem?, Bool.not_eq_true',
    ← Bool.not_eq_true, isValidAt_iff]
  exact exists_comm

/-! ## Listed and broken -/

/-- Of a path of two certificates and more, the broken rules are listed, and nothing else. -/
theorem mem_faults_iff {t : Instant} {path : List Certificate} (h : 2 ≤ path.length) (e : PathError) :
    e ∈ faults t path ↔ Breaks t path e := by
  obtain ⟨leaf, c, above, rfl⟩ : ∃ leaf c above, path = leaf :: c :: above := by
    match path, h with
    | leaf :: c :: above, _ => exact ⟨leaf, c, above, rfl⟩
  have hrules : brokenRules (leaf :: c :: above) =
      leafFaults leaf ++ authorityFaults [] (c :: above) ++ nameFaults 0 (leaf :: c :: above) := rfl
  simp only [faults, hrules, List.mem_append, mem_leafFaults, mem_authorityFaults, mem_nameFaults, mem_validityFaults,
    List.length_nil, List.nil_append, Nat.zero_add]
  cases e with
  | noAnchors | noPath | noTrustedPath => simp [Breaks]
  | tooShort n =>
    simp only [Breaks, List.length_cons, reduceCtorEq, and_false, or_false, exists_false, false_iff, not_and]
    omega
  | leafIsAuthority | noDigitalSignature | noIdentity => simp [Breaks]
  | notAuthority place =>
    simp only [Breaks, reduceCtorEq, and_false, or_false, false_or, exists_false, PathError.notAuthority.injEq]
    constructor
    · rintro ⟨i, d, hd, hn, rfl⟩
      exact ⟨by omega, d, by rw [Nat.add_comm]; exact hd, hn⟩
    · rintro ⟨hp, d, hd, hn⟩
      obtain ⟨i, rfl⟩ := Nat.exists_eq_add_of_le hp
      exact ⟨i, d, by rw [Nat.add_comm] at hd; exact hd, hn, rfl⟩
  | lengthExceeded place =>
    simp only [Breaks, reduceCtorEq, and_false, or_false, false_or, exists_false, PathError.lengthExceeded.injEq,
      exceedsLength_iff]
    constructor
    · rintro ⟨i, d, hd, ⟨most, hm, hlt⟩, rfl⟩
      refine ⟨by omega, d, most, by rw [Nat.add_comm]; exact hd, hm, ?_⟩
      rw [countBetween, Nat.add_comm, List.take_succ_cons, List.tail_cons]
      exact hlt
    · rintro ⟨hp, d, most, hd, hm, hlt⟩
      obtain ⟨i, rfl⟩ := Nat.exists_eq_add_of_le hp
      rw [countBetween, Nat.add_comm, List.take_succ_cons, List.tail_cons] at hlt
      exact ⟨i, d, by rw [Nat.add_comm] at hd; exact hd, ⟨most, hm, hlt⟩, rfl⟩
  | brokenNames place => simp [Breaks]
  | notValid place time =>
    simp only [Breaks, reduceCtorEq, and_false, or_false, false_or, exists_false, PathError.notValid.injEq]
    constructor
    · rintro ⟨i, d, hd, hn, rfl, rfl⟩
      exact ⟨rfl, d, hd, hn⟩
    · rintro ⟨rfl, d, hd, hn⟩
      exact ⟨place, d, hd, hn, rfl, rfl⟩

/-! ## The order of the list -/

theorem when_sorted (present : Bool) (e : PathError) : (when present e).Pairwise fun e f => e.order < f.order := by
  cases present <;> simp [when]

theorem leafFaults_sorted (leaf : Certificate) : (leafFaults leaf).Pairwise fun e f => e.order < f.order := by
  refine List.pairwise_append.mpr ⟨List.pairwise_append.mpr ⟨when_sorted _ _, when_sorted _ _, ?_⟩, when_sorted _ _, ?_⟩
  · intro e he f hf
    rw [(mem_when.mp he).2, (mem_when.mp hf).2]
    decide
  · intro e he f hf
    rw [(mem_when.mp hf).2]
    rcases List.mem_append.mp he with he | he <;> rw [(mem_when.mp he).2] <;> decide

theorem stage_of_mem_leafFaults {leaf : Certificate} {e : PathError} (h : e ∈ leafFaults leaf) : e.stage < 7 := by
  rcases mem_leafFaults.mp h with ⟨-, rfl⟩ | ⟨-, rfl⟩ | ⟨-, rfl⟩ <;> decide

theorem stage_of_mem_authorityFaults {below above : List Certificate} {e : PathError} (h : e ∈ authorityFaults below above) :
    e.stage = 7 := by
  obtain ⟨i, c, -, ⟨-, rfl⟩ | ⟨-, rfl⟩⟩ := mem_authorityFaults.mp h <;> rfl

/-- The faults of authorities are about places above those passed. -/
theorem within_of_mem_authorityFaults {below above : List Certificate} {e : PathError} (h : e ∈ authorityFaults below above) :
    ∃ place sort, below.length < place ∧ e.within = [place, sort] := by
  obtain ⟨i, c, -, ⟨-, rfl⟩ | ⟨-, rfl⟩⟩ := mem_authorityFaults.mp h
  · exact ⟨_, 0, by omega, rfl⟩
  · exact ⟨_, 1, by omega, rfl⟩

theorem authorityFaults_sorted (below above : List Certificate) :
    (authorityFaults below above).Pairwise fun e f => e.order < f.order := by
  induction above generalizing below with
  | nil => exact List.Pairwise.nil
  | cons c above ih =>
    refine List.pairwise_append.mpr ⟨List.pairwise_append.mpr ⟨when_sorted _ _, when_sorted _ _, ?_⟩, ih _, ?_⟩
    · intro e he f hf
      rw [(mem_when.mp he).2, (mem_when.mp hf).2]
      simp [order, PathError.stage, PathError.within, List.cons_lt_cons_iff]
    · intro e he f hf
      obtain ⟨place, sort, hlt, hw⟩ := within_of_mem_authorityFaults hf
      rw [List.length_append, List.length_singleton] at hlt
      rw [order, order, stage_of_mem_authorityFaults hf, hw]
      rcases List.mem_append.mp he with he | he <;> rw [(mem_when.mp he).2] <;>
        simp [PathError.stage, PathError.within, List.cons_lt_cons_iff, hlt]

theorem nameFaults_sorted (first : Nat) (path : List Certificate) :
    (nameFaults first path).Pairwise fun e f => e.order < f.order := by
  induction path generalizing first with
  | nil => exact List.Pairwise.nil
  | cons c path ih =>
    cases path with
    | nil => exact List.Pairwise.nil
    | cons d path =>
      refine List.pairwise_append.mpr ⟨when_sorted _ _, ih _, ?_⟩
      intro e he f hf
      obtain ⟨i, -, -, -, -, -, rfl⟩ := mem_nameFaults.mp hf
      rw [(mem_when.mp he).2]
      simp [order, PathError.stage, PathError.within, List.cons_lt_cons_iff]
      omega

theorem validityFaults_sorted (t : Instant) (path : List Certificate) :
    (validityFaults t path).Pairwise fun e f => e.order < f.order := by
  refine Failure.flatMap_sorted (fun _ => when_sorted _ _) fun a b hab e he f hf => ?_
  rw [(mem_when.mp he).2, (mem_when.mp hf).2]
  simp [order, PathError.stage, PathError.within, List.cons_lt_cons_iff, hab]

theorem brokenRules_sorted (path : List Certificate) : (brokenRules path).Pairwise fun e f => e.order < f.order := by
  match path with
  | [] | [_] => exact List.pairwise_singleton _ _
  | leaf :: c :: above =>
    refine List.pairwise_append.mpr
      ⟨List.pairwise_append.mpr ⟨leafFaults_sorted leaf, authorityFaults_sorted _ _, ?_⟩, nameFaults_sorted _ _, ?_⟩
    · intro e he f hf
      apply order_lt_of_stage
      rw [stage_of_mem_authorityFaults hf]
      exact stage_of_mem_leafFaults he
    · intro e he f hf
      obtain ⟨i, -, -, -, -, -, rfl⟩ := mem_nameFaults.mp hf
      have : e.stage < 8 := by
        rcases List.mem_append.mp he with he | he
        · exact Nat.lt_succ_of_lt (stage_of_mem_leafFaults he)
        · exact Nat.lt_succ_of_le (Nat.le_of_eq (stage_of_mem_authorityFaults he))
      exact order_lt_of_stage this

theorem stage_of_mem_brokenRules {path : List Certificate} {e : PathError} (h : e ∈ brokenRules path) : e.stage < 9 := by
  match path, h with
  | [], h | [_], h =>
    rw [List.mem_singleton.mp h]
    exact (by decide : 3 < 9)
  | leaf :: c :: above, h =>
    rcases List.mem_append.mp h with h | h
    · rcases List.mem_append.mp h with h | h
      · exact Nat.lt_trans (stage_of_mem_leafFaults h) (by decide)
      · exact stage_of_mem_authorityFaults h ▸ (by decide : 7 < 9)
    · obtain ⟨i, -, -, -, -, -, rfl⟩ := mem_nameFaults.mp h
      exact Nat.lt_succ_self 8

/-- The faults are listed in the order in which they count. -/
theorem faults_sorted (t : Instant) (path : List Certificate) : (faults t path).Pairwise fun e f => e.order < f.order := by
  refine List.pairwise_append.mpr ⟨brokenRules_sorted path, validityFaults_sorted t path, ?_⟩
  intro e he f hf
  obtain ⟨i, -, -, -, rfl⟩ := mem_validityFaults.mp hf
  exact order_lt_of_stage (stage_of_mem_brokenRules he)

/-! ## The first one -/

/-- Nothing counts before the length of a path. -/
theorem order_of_breaks {t : Instant} {path : List Certificate} {f : PathError} (h : Breaks t path f) :
    f = .tooShort path.length ∨ (PathError.tooShort path.length).order < f.order := by
  cases f with
  | noAnchors | noPath | noTrustedPath => exact h.elim
  | tooShort n => exact Or.inl (by rw [h.1])
  | _ => exact Or.inr (order_lt_of_stage (by simp only [PathError.stage]; omega))

/-- A path of less than two certificates is too short, whatever else is wrong with it. -/
theorem firstFault_of_short {t : Instant} {path : List Certificate} (h : path.length < 2) :
    FirstFault t path (.tooShort path.length) :=
  ⟨⟨rfl, h⟩, fun _ hf => order_of_breaks hf⟩

/-- There is at most one broken rule that counts. -/
theorem FirstFault.unique {t : Instant} {path : List Certificate} {e f : PathError} (he : FirstFault t path e)
    (hf : FirstFault t path f) : e = f := by
  rcases he.2 f hf.1 with h | h
  · exact h.symm
  · rcases hf.2 e he.1 with h' | h'
    · exact h'
    · exact absurd h' (List.lt_asymm h)

/-- The first fault in the list is the broken rule that counts. -/
theorem firstFault_of_head {t : Instant} {path : List Certificate} {e : PathError} (h : (faults t path).head? = some e) :
    FirstFault t path e := by
  by_cases hlen : 2 ≤ path.length
  · obtain ⟨rest, hrest⟩ := List.head?_eq_some_iff.mp h
    have hsorted := faults_sorted t path
    rw [hrest] at hsorted
    refine ⟨(mem_faults_iff hlen e).mp (by rw [hrest]; exact List.mem_cons_self), fun f hf => ?_⟩
    have hmem := (mem_faults_iff hlen f).mpr hf
    rw [hrest] at hmem
    exact (List.mem_cons.mp hmem).imp_right (List.rel_of_pairwise_cons hsorted)
  · have hhead : (faults t path).head? = some (.tooShort path.length) := by
      match path, hlen with
      | [], _ | [_], _ => rfl
      | _ :: _ :: _, hlen => exact absurd (by simp) hlen
    rw [hhead, Option.some.injEq] at h
    exact h ▸ firstFault_of_short (Nat.lt_of_not_le hlen)

/-- Nothing is listed exactly when no rule is broken. -/
theorem faults_eq_nil_iff (t : Instant) (path : List Certificate) : faults t path = [] ↔ ∀ e, ¬Breaks t path e := by
  constructor
  · intro h e he
    by_cases hlen : 2 ≤ path.length
    · simpa [h] using (mem_faults_iff hlen e).mpr he
    · match path, hlen, h with
      | [], _, h | [_], _, h => cases h
      | _ :: _ :: _, hlen, _ => exact absurd (by simp) hlen
  · intro h
    cases hl : faults t path with
    | nil => rfl
    | cons e rest => exact absurd (firstFault_of_head (by rw [hl, List.head?_cons])).1 (h e)

end Path

end ArtifactTrust
