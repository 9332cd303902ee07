import ArtifactTrust.Proofs.Path.Rules
import ArtifactTrust.Proofs.Path.Search

/-!
# The path that is judged

Statements about `Path.select` and `Path.verify`. `Judged` says which path is judged: of the shortest complete paths through a
trusted certificate, the one that comes first in the order of the pool. `Path.select` takes exactly this one
(`select_eq_ok_iff`), and `Path.verify` answers with it or with the first rule that it breaks. Main statement: `search_exact`,
what the search finds and what comes of it.
-/

namespace ArtifactTrust.Path

/-! ## The shortest path -/

/-- Only of no lists is there no shortest one. -/
theorem shortest?_eq_none {ps : List (List Certificate)} (h : shortest? ps = none) : ps = [] := by
  cases ps with
  | nil => rfl
  | cons p ps =>
    rw [shortest?] at h
    split at h
    · cases h
    · split at h <;> cases h

/-- The first of the shortest lists: those before it are longer, those after it no shorter. -/
theorem shortest?_eq_some {ps : List (List Certificate)} {p : List Certificate} (h : shortest? ps = some p) :
    ∃ before after, ps = before ++ p :: after ∧ (∀ q ∈ before, p.length < q.length) ∧ ∀ q ∈ after, p.length ≤ q.length := by
  induction ps generalizing p with
  | nil => cases h
  | cons q ps ih =>
    cases hs : shortest? ps with
    | none =>
      rw [shortest?, hs, Option.some.injEq] at h
      exact ⟨[], [], by rw [h, shortest?_eq_none hs, List.nil_append], by simp, by simp⟩
    | some r =>
      obtain ⟨before, after, rfl, hb, ha⟩ := ih hs
      have hall : ∀ s ∈ before ++ r :: after, r.length ≤ s.length := by
        intro s hm
        rcases List.mem_append.mp hm with hm | hm
        · exact Nat.le_of_lt (hb s hm)
        · rcases List.mem_cons.mp hm with rfl | hm
          · exact Nat.le_refl _
          · exact ha s hm
      rw [shortest?, hs] at h
      simp only [] at h
      split at h
      · rename_i hle
        rw [Option.some.injEq] at h
        subst h
        exact ⟨[], _, rfl, by simp, fun s hm => Nat.le_trans hle (hall s hm)⟩
      · rename_i hlt
        rw [Option.some.injEq] at h
        subst h
        refine ⟨q :: before, after, rfl, fun s hm => ?_, ha⟩
        rcases List.mem_cons.mp hm with rfl | hm
        · exact Nat.lt_of_not_le hlt
        · exact hb s hm

/-! ## Which path is judged -/

/-- Whether a path passes through a certificate that certifies the same as a trusted one. -/
def Anchored (trusted path : List Certificate) : Prop := ∃ c ∈ path, ∃ a ∈ trusted, c.signedBytes = a.signedBytes

/-- The path that is judged. -/
structure Judged (leaf : Certificate) (trusted untrusted path : List Certificate) : Prop where
  complete : Complete (pool leaf trusted untrusted) leaf path
  anchored : Anchored trusted path
  /-- No other path through a trusted certificate is shorter. -/
  shortest : ∀ other, Complete (pool leaf trusted untrusted) leaf other → Anchored trusted other →
    path.length ≤ other.length
  /-- Those of the same length come later: where they part from it, they go on to a certificate given later. -/
  first : ∀ other, Complete (pool leaf trusted untrusted) leaf other → Anchored trusted other →
    other.length = path.length → other = path ∨
      ranks (rank leaf trusted untrusted) path < ranks (rank leaf trusted untrusted) other

variable {leaf : Certificate} {trusted untrusted path : List Certificate} {t : Instant}

theorem isTrusted_iff : isTrusted trusted path = true ↔ Anchored trusted path := by
  simp only [isTrusted, Anchored, List.any_eq_true, Certificate.isIn, Certificate.same_iff]

theorem mem_all_iff : path ∈ all leaf trusted untrusted ↔ Complete (pool leaf trusted untrusted) leaf path := by
  rw [all, mem_search_iff]
  exact ⟨And.left, fun h => ⟨h, by simp [Avoids]⟩⟩

theorem all_sorted : (all leaf trusted untrusted).Pairwise fun p q =>
    ranks (rank leaf trusted untrusted) p < ranks (rank leaf trusted untrusted) q :=
  search_sorted pool_sorted _ _

/-- No path is found twice. -/
theorem all_nodup : (all leaf trusted untrusted).Nodup := by
  refine List.Pairwise.imp (fun {p q} h heq => ?_) all_sorted
  rw [heq] at h
  exact List.lt_irrefl _ h

/-- There is only one path that is judged. -/
theorem Judged.unique {other : List Certificate} (h : Judged leaf trusted untrusted path)
    (h' : Judged leaf trusted untrusted other) : other = path := by
  have hlen : other.length = path.length :=
    Nat.le_antisymm (h'.shortest _ h.complete h.anchored) (h.shortest _ h'.complete h'.anchored)
  rcases h.first _ h'.complete h'.anchored hlen with heq | hlt
  · exact heq
  · rcases h'.first _ h.complete h.anchored hlen.symm with heq | hlt'
    · exact heq.symm
    · exact absurd hlt' (List.lt_asymm hlt)

/-- The shortest path that is found is the one that is judged. -/
theorem judged_of_shortest (h : shortest? ((all leaf trusted untrusted).filter (isTrusted trusted)) = some path) :
    Judged leaf trusted untrusted path := by
  obtain ⟨before, after, hps, hb, ha⟩ := shortest?_eq_some h
  have hmem : ∀ p, p ∈ before ++ path :: after ↔ Complete (pool leaf trusted untrusted) leaf p ∧ Anchored trusted p := by
    intro p
    rw [← hps, List.mem_filter, mem_all_iff, isTrusted_iff]
  obtain ⟨hc, hanchored⟩ := (hmem path).mp (by simp)
  refine ⟨hc, hanchored, fun other ho hoa => ?_, fun other ho hoa hlen => ?_⟩
  · rcases List.mem_append.mp ((hmem other).mpr ⟨ho, hoa⟩) with hm | hm
    · exact Nat.le_of_lt (hb other hm)
    · rcases List.mem_cons.mp hm with rfl | hm
      · exact Nat.le_refl _
      · exact ha other hm
  · have hsorted : (before ++ path :: after).Pairwise _ := hps ▸ (all_sorted.filter _)
    rcases List.mem_append.mp ((hmem other).mpr ⟨ho, hoa⟩) with hm | hm
    · exact absurd hlen (Nat.ne_of_gt (hb other hm))
    · exact (List.mem_cons.mp hm).imp_right (List.rel_of_pairwise_cons (List.pairwise_append.mp hsorted).2.1)

/-- All that can come of selecting a path. -/
theorem select_cases (leaf : Certificate) (trusted untrusted : List Certificate) :
    (trusted = [] ∧ select leaf trusted untrusted = .error .noAnchors) ∨
    (trusted ≠ [] ∧ (¬∃ path, Complete (pool leaf trusted untrusted) leaf path) ∧
      select leaf trusted untrusted = .error .noPath) ∨
    (trusted ≠ [] ∧ (∃ path, Complete (pool leaf trusted untrusted) leaf path) ∧
      (¬∃ path, Complete (pool leaf trusted untrusted) leaf path ∧ Anchored trusted path) ∧
      select leaf trusted untrusted = .error .noTrustedPath) ∨
    ∃ path, Judged leaf trusted untrusted path ∧ select leaf trusted untrusted = .ok path := by
  unfold select
  split
  · rename_i h
    exact Or.inl ⟨List.isEmpty_iff.mp h, rfl⟩
  · rename_i h
    have hne : trusted ≠ [] := by simpa using h
    split
    · rename_i hall
      refine Or.inr (Or.inl ⟨hne, ?_, rfl⟩)
      rintro ⟨path, hp⟩
      rw [← mem_all_iff, hall] at hp
      cases hp
    · rename_i hall
      obtain ⟨p, hp⟩ := List.exists_mem_of_ne_nil _ hall
      refine Or.inr (Or.inr ?_)
      split
      · rename_i hs
        refine Or.inl ⟨hne, ⟨p, mem_all_iff.mp hp⟩, ?_, rfl⟩
        rintro ⟨path, hc, ha⟩
        have hm := List.mem_filter.mpr ⟨mem_all_iff.mpr hc, isTrusted_iff.mpr ha⟩
        rw [shortest?_eq_none hs] at hm
        cases hm
      · rename_i path hs
        exact Or.inr ⟨path, judged_of_shortest hs, rfl⟩

/-- A path is judged whenever one passes through a trusted certificate. -/
theorem exists_judged_iff : (∃ path, Judged leaf trusted untrusted path) ↔
    ∃ path, Complete (pool leaf trusted untrusted) leaf path ∧ Anchored trusted path := by
  constructor
  · rintro ⟨path, h⟩
    exact ⟨path, h.complete, h.anchored⟩
  · intro h
    rcases select_cases leaf trusted untrusted with ⟨ht, -⟩ | ⟨-, hn, -⟩ | ⟨-, -, hn, -⟩ | ⟨path, hj, -⟩
    · obtain ⟨path, -, c, -, a, ha, -⟩ := h
      rw [ht] at ha
      cases ha
    · obtain ⟨path, hc, -⟩ := h
      exact absurd ⟨path, hc⟩ hn
    · exact absurd h hn
    · exact ⟨path, hj⟩

/-- The selected path is the one that is judged. -/
theorem select_eq_ok_iff : select leaf trusted untrusted = .ok path ↔ Judged leaf trusted untrusted path := by
  constructor
  · intro h
    rcases select_cases leaf trusted untrusted with ⟨-, hs⟩ | ⟨-, -, hs⟩ | ⟨-, -, -, hs⟩ | ⟨p, hj, hs⟩ <;> rw [hs] at h
    · cases h
    · cases h
    · cases h
    · cases h
      exact hj
  · intro h
    rcases select_cases leaf trusted untrusted with ⟨ht, -⟩ | ⟨-, hn, -⟩ | ⟨-, -, hn, -⟩ | ⟨p, hj, hs⟩
    · obtain ⟨c, -, a, ha, -⟩ := h.anchored
      rw [ht] at ha
      cases ha
    · exact absurd ⟨path, h.complete⟩ hn
    · exact absurd ⟨path, h.complete, h.anchored⟩ hn
    · rw [hs, hj.unique h]

/-- From a leaf that the only trusted certificate has issued, a self-signed one, the judged path goes to that one. -/
theorem judged_of_root {root : Certificate} (hl : leaf.isSelfSigned = false) (hr : root.isSelfSigned = true)
    (hi : leaf.isIssuedBy root = true) (hne : leaf.signedBytes ≠ root.signedBytes) :
    Judged leaf [root] [] [leaf, root] := by
  have hroot : root ∈ pool leaf [root] [] := by
    have : distinct [root] = [root] := rfl
    rw [pool, List.append_nil, distinct_concat, this]
    split <;> simp
  have hc : Complete (pool leaf [root] []) leaf [leaf, root] :=
    (Complete.cons_iff hl [root]).mpr ⟨root, hroot, hi, (Complete.iff_of_root hr [root]).mpr rfl, by simpa using hne⟩
  have honly : ∀ other, Complete (pool leaf [root] []) leaf other → other = [leaf, root] := by
    intro other ho
    obtain ⟨above, rfl⟩ : ∃ above, other = leaf :: above := ⟨_, ho.eq_cons⟩
    obtain ⟨i, hp, -, ha, hn⟩ := (Complete.cons_iff hl above).mp ho
    rcases mem_pool hp with hm | hm | rfl
    · rw [List.mem_singleton] at hm
      subst hm
      rw [(Complete.iff_of_root hr above).mp ha]
    · cases hm
    · -- A path does not come back to the leaf.
      rw [ha.eq_cons] at hn
      exact absurd List.mem_cons_self hn
  refine ⟨hc, ⟨root, by simp, root, by simp, rfl⟩, fun other ho _ => ?_, fun other ho _ _ => Or.inl (honly other ho)⟩
  exact Nat.le_of_eq (congrArg List.length (honly other ho).symm)

/-! ## The verdict -/

/-- Without a path the answer is why there is none. -/
theorem verify_of_select_error {e : PathError} (h : select leaf trusted untrusted = .error e) :
    verify leaf trusted untrusted t = .error e := by
  rw [verify, h]
  rfl

/-- Of the selected path the answer is its first fault, or the path itself where it has none. -/
theorem verify_of_select_ok (h : select leaf trusted untrusted = .ok path) :
    verify leaf trusted untrusted t = (faults t path).head?.elim (.ok path) .error := by
  rw [verify, h, faults]
  simp only [bind, Except.bind]
  cases brokenRules path ++ validityFaults t path <;> rfl

/-- A path is verified when it is the one that is judged and nothing is found against it. -/
theorem verify_eq_ok_iff : verify leaf trusted untrusted t = .ok path ↔
    Judged leaf trusted untrusted path ∧ ∀ e, ¬Breaks t path e := by
  rw [← select_eq_ok_iff, ← faults_eq_nil_iff]
  cases hs : select leaf trusted untrusted with
  | error e => simp [verify_of_select_error hs]
  | ok p =>
    rw [verify_of_select_ok hs, Except.ok.injEq]
    cases hf : faults t p with
    | nil =>
      simp only [List.head?_nil, Option.elim_none, Except.ok.injEq]
      exact ⟨fun h => ⟨h, h ▸ hf⟩, And.left⟩
    | cons e rest =>
      simp only [List.head?_cons, Option.elim_some, reduceCtorEq, false_iff, not_and]
      rintro rfl
      rw [hf]
      exact List.cons_ne_nil _ _

/-- On a verified path there is a certificate above the leaf. -/
theorem eq_cons_cons_of_verify (h : verify leaf trusted untrusted t = .ok path) :
    ∃ issuer above, path = leaf :: issuer :: above := by
  obtain ⟨hj, hno⟩ := verify_eq_ok_iff.mp h
  have hpath := hj.complete.eq_cons
  cases htail : path.tail with
  | nil =>
    rw [htail] at hpath
    exact absurd ⟨rfl, by rw [hpath]; exact Nat.lt_succ_self 1⟩ (hno (.tooShort path.length))
  | cons issuer above => exact ⟨issuer, above, by rw [hpath, htail]⟩

/-- A fault is the answer when no path is selected for it, or when it is the first of the path that is judged. -/
theorem verify_eq_error_iff {e : PathError} : verify leaf trusted untrusted t = .error e ↔
    select leaf trusted untrusted = .error e ∨ ∃ path, Judged leaf trusted untrusted path ∧ FirstFault t path e := by
  simp only [← select_eq_ok_iff]
  cases hs : select leaf trusted untrusted with
  | error f => simp [verify_of_select_error hs]
  | ok p =>
    simp only [verify_of_select_ok hs, reduceCtorEq, false_or, Except.ok.injEq, exists_eq_left']
    cases hf : faults t p with
    | nil =>
      simp only [List.head?_nil, Option.elim_none, reduceCtorEq, false_iff]
      exact fun h => (faults_eq_nil_iff t p).mp hf e h.1
    | cons f rest =>
      have hfirst : FirstFault t p f := firstFault_of_head (by rw [hf, List.head?_cons])
      simp only [List.head?_cons, Option.elim_some, Except.error.injEq]
      exact ⟨fun h => h ▸ hfirst, fun h => hfirst.unique h⟩

/-- Where no path is judged the answer is that of the selection, and nothing that a path can be at fault for. -/
theorem verify_eq_error_iff_select {e : PathError} (h : ∀ path, ¬Breaks t path e) :
    verify leaf trusted untrusted t = .error e ↔ select leaf trusted untrusted = .error e := by
  rw [verify_eq_error_iff, or_iff_left]
  rintro ⟨path, -, hf⟩
  exact h path hf.1

/-- There is no path when none is complete. -/
theorem select_eq_noPath_iff : select leaf trusted untrusted = .error .noPath ↔
    trusted ≠ [] ∧ ¬∃ path, Complete (pool leaf trusted untrusted) leaf path := by
  rcases select_cases leaf trusted untrusted with ⟨ht, hs⟩ | ⟨ht, hn, hs⟩ | ⟨ht, hc, -, hs⟩ | ⟨path, hj, hs⟩ <;> rw [hs]
  · simp [ht]
  · exact ⟨fun _ => ⟨ht, hn⟩, fun _ => rfl⟩
  · exact ⟨fun h => by simp at h, fun h => absurd hc h.2⟩
  · exact ⟨fun h => by simp at h, fun h => absurd ⟨path, hj.complete⟩ h.2⟩

/-- There is no trusted path when some are complete, but none of them is anchored. -/
theorem select_eq_noTrustedPath_iff : select leaf trusted untrusted = .error .noTrustedPath ↔
    trusted ≠ [] ∧ (∃ path, Complete (pool leaf trusted untrusted) leaf path) ∧
      ¬∃ path, Complete (pool leaf trusted untrusted) leaf path ∧ Anchored trusted path := by
  rcases select_cases leaf trusted untrusted with ⟨ht, hs⟩ | ⟨ht, hn, hs⟩ | ⟨ht, hc, hn, hs⟩ | ⟨path, hj, hs⟩ <;> rw [hs]
  · simp [ht]
  · exact ⟨fun h => by simp at h, fun h => absurd h.2.1 hn⟩
  · exact ⟨fun _ => ⟨ht, hc, hn⟩, fun _ => rfl⟩
  · exact ⟨fun h => by simp at h, fun h => absurd ⟨path, hj.complete, hj.anchored⟩ h.2.2⟩

/-- The search is exact. From the leaf it finds the complete paths, each once and in the order of the pool. There is no path
when none is complete, and no trusted path when none of them is anchored; otherwise exactly one is judged, and the answer is
this path or the first rule that it breaks. -/
theorem search_exact (leaf : Certificate) (trusted untrusted : List Certificate) (t : Instant) :
    (∀ path, path ∈ (search (pool leaf trusted untrusted) [] leaf).paths ↔
      Complete (pool leaf trusted untrusted) leaf path) ∧
    (search (pool leaf trusted untrusted) [] leaf).paths.Nodup ∧
    ((search (pool leaf trusted untrusted) [] leaf).paths.Pairwise fun p q =>
      ranks (rank leaf trusted untrusted) p < ranks (rank leaf trusted untrusted) q) ∧
    (verify leaf trusted untrusted t = .error .noPath ↔
      trusted ≠ [] ∧ ¬∃ path, Complete (pool leaf trusted untrusted) leaf path) ∧
    (verify leaf trusted untrusted t = .error .noTrustedPath ↔
      trusted ≠ [] ∧ (∃ path, Complete (pool leaf trusted untrusted) leaf path) ∧
        ¬∃ path, Complete (pool leaf trusted untrusted) leaf path ∧ Anchored trusted path) ∧
    ((∃ path, Complete (pool leaf trusted untrusted) leaf path ∧ Anchored trusted path) ↔
      ∃! path, Judged leaf trusted untrusted path) ∧
    (∀ path, Judged leaf trusted untrusted path →
      (∀ found, verify leaf trusted untrusted t = .ok found ↔ found = path ∧ ∀ e, ¬Breaks t path e) ∧
      ∀ e, verify leaf trusted untrusted t = .error e ↔ FirstFault t path e) := by
  refine ⟨fun path => mem_all_iff, all_nodup, all_sorted, ?_, ?_, ?_, fun path hj => ⟨fun found => ?_, fun e => ?_⟩⟩
  · rw [verify_eq_error_iff_select fun _ => id, select_eq_noPath_iff]
  · rw [verify_eq_error_iff_select fun _ => id, select_eq_noTrustedPath_iff]
  · rw [← exists_judged_iff]
    refine ⟨?_, ExistsUnique.exists⟩
    rintro ⟨path, hj⟩
    exact ⟨path, hj, fun other ho => hj.unique ho⟩
  · rw [verify_eq_ok_iff]
    constructor
    · rintro ⟨hf, hno⟩
      obtain rfl := hj.unique hf
      exact ⟨rfl, hno⟩
    · rintro ⟨rfl, hno⟩
      exact ⟨hj, hno⟩
  · rw [verify_eq_error_iff, select_eq_ok_iff.mpr hj]
    constructor
    · rintro (hs | ⟨other, ho, hf⟩)
      · cases hs
      · exact hj.unique ho ▸ hf
    · exact fun hf => Or.inr ⟨path, hj, hf⟩

end ArtifactTrust.Path
