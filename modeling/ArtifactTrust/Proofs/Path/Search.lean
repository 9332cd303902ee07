import ArtifactTrust.Proofs.Path.Pool

/-!
# What the search finds

Statements about `Path.search`. `Complete` says what a path is without saying how it is found: it starts at the leaf, goes on
in the pool from each certificate to an issuer of it, ends at the first self-signed certificate and never has two certificates
that certify the same. The search finds these and nothing else (`mem_search_iff`), each once and in the order in which their
certificates stand in the pool (`search_sorted`).

The loop over the issuers goes through `freshIssuers`; after `search_paths` nothing looks into it any more.
-/

namespace ArtifactTrust.Path

/-! ## One call -/

/-- The issuers of a certificate that the search goes on to: those that are neither visited nor certify the same as the
certificate itself. -/
def freshIssuers (pool : List Certificate) (visited : List Bytes) (c : Certificate) : List Certificate :=
  (issuers pool c).filter fun i => !(c.signedBytes :: visited).contains i.signedBytes

variable {pool : List Certificate} {visited : List Bytes} {c : Certificate}

theorem mem_freshIssuers {i : Certificate} :
    i ∈ freshIssuers pool visited c ↔ i ∈ pool ∧ c.isIssuedBy i = true ∧ i.signedBytes ∉ c.signedBytes :: visited := by
  simp only [freshIssuers, issuers, List.mem_filter, Bool.not_eq_true', List.contains_eq_mem, decide_eq_false_iff_not,
    and_assoc]

/-- A self-signed certificate ends a path. -/
theorem search_paths_root (h : c.isSelfSigned = true) : (search pool visited c).paths = [[c]] := by
  rw [search, if_pos h]

/-- Any other certificate stands in front of the paths from its fresh issuers, which are searched one after the other with the
certificate visited. -/
theorem search_paths (h : c.isSelfSigned = false) :
    (search pool visited c).paths =
      (freshIssuers pool visited c).flatMap fun i => (search pool (c.signedBytes :: visited) i).paths.map (c :: ·) := by
  -- The loop has found something already when it comes to an issuer; what is visited then is known all the same.
  have loop : ∀ (is : List { i // i ∈ issuers pool c }) (found : Found (c.signedBytes :: visited)),
      (is.foldl (fun (found : Found (c.signedBytes :: visited)) i =>
        if i.1.signedBytes ∈ found.visited then found
        else
          let above := search pool found.visited i.1
          ⟨found.paths ++ above.paths.map (c :: ·), above.visited, above.restored.trans found.restored⟩) found).paths =
      found.paths ++ ((is.map (·.1)).filter fun i => !(c.signedBytes :: visited).contains i.signedBytes).flatMap fun i =>
        (search pool (c.signedBytes :: visited) i).paths.map (c :: ·) := by
    intro is
    induction is with
    | nil => simp
    | cons i is ih =>
      obtain ⟨i, hi⟩ := i
      intro found
      obtain ⟨paths, v, rfl⟩ := found
      rw [List.foldl_cons, ih, List.map_cons, List.filter_cons]
      by_cases hv : i.signedBytes ∈ c.signedBytes :: visited
      · simp [hv]
      · simp [hv]
  rw [search, if_neg (by simp [h])]
  simpa [freshIssuers] using loop (issuers pool c).attach ⟨[], c.signedBytes :: visited, rfl⟩

/-- What holds of a call if it holds of the calls it makes holds of every call. -/
theorem search_induction (pool : List Certificate) {motive : List Bytes → Certificate → Prop}
    (step : ∀ visited c, (∀ i ∈ freshIssuers pool visited c, motive (c.signedBytes :: visited) i) → motive visited c)
    (visited : List Bytes) (c : Certificate) : motive visited c := by
  induction h : remaining pool visited c using Nat.strongRecOn generalizing visited c with
  | _ n ih =>
    refine step visited c fun i hi => ?_
    obtain ⟨hp, -, hv⟩ := mem_freshIssuers.mp hi
    exact ih _ (h ▸ remaining_lt hp hv) _ _ rfl

/-! ## Complete paths -/

/-- A path from a certificate through a pool, up to a self-signed one. -/
structure Complete (pool : List Certificate) (leaf : Certificate) (path : List Certificate) : Prop where
  starts : path.head? = some leaf
  /-- All but the first are certificates of the pool. -/
  pooled : ∀ c ∈ path.tail, c ∈ pool
  /-- Each certificate is issued by the next one. -/
  issued : path.IsChain fun c issuer => c.isIssuedBy issuer = true
  /-- The last certificate is self-signed. -/
  ends : ∃ root, path.getLast? = some root ∧ root.isSelfSigned = true
  /-- No earlier one is. -/
  climbs : ∀ c ∈ path.dropLast, c.isSelfSigned = false
  /-- No two certificates certify the same. -/
  distinct : (path.map (·.signedBytes)).Nodup

namespace Complete

/-- A complete path is its first certificate and those above. -/
theorem eq_cons {path : List Certificate} (h : Complete pool c path) : path = c :: path.tail := by
  obtain ⟨above, rfl⟩ := List.head?_eq_some_iff.mp h.starts
  rfl

/-- From a self-signed certificate there is only the path that ends there. -/
theorem iff_of_root (hr : c.isSelfSigned = true) (path : List Certificate) : Complete pool c path ↔ path = [c] := by
  constructor
  · intro h
    obtain ⟨above, rfl⟩ : ∃ above, path = c :: above := ⟨_, h.eq_cons⟩
    cases above with
    | nil => rfl
    | cons d above => simpa [hr] using h.climbs c (by simp)
  · rintro rfl
    exact ⟨rfl, by simp, by simp, ⟨c, rfl, hr⟩, by simp, by simp⟩

/-- From any other certificate a path goes on to an issuer, and never comes back. -/
theorem cons_iff (hr : c.isSelfSigned = false) (path : List Certificate) :
    Complete pool c (c :: path) ↔
      ∃ i, i ∈ pool ∧ c.isIssuedBy i = true ∧ Complete pool i path ∧ c.signedBytes ∉ path.map (·.signedBytes) := by
  constructor
  · intro h
    cases path with
    | nil =>
      obtain ⟨root, hroot, hs⟩ := h.ends
      rw [List.getLast?_singleton, Option.some.injEq] at hroot
      rw [hroot, hs] at hr
      cases hr
    | cons i above =>
      have hi := List.isChain_cons_cons.mp h.issued
      have hd := List.nodup_cons.mp h.distinct
      refine ⟨i, h.pooled i (by simp), hi.1, ⟨rfl, fun d hd => h.pooled d (by simp [List.mem_of_mem_tail hd]), hi.2, ?_, ?_,
        hd.2⟩, hd.1⟩
      · simpa using h.ends
      · exact fun d hd => h.climbs d (by simp [List.dropLast_cons_cons, hd])
  · rintro ⟨i, hp, hi, h, hc⟩
    obtain ⟨above, rfl⟩ : ∃ above, path = i :: above := ⟨_, h.eq_cons⟩
    refine ⟨rfl, ?_, List.isChain_cons_cons.mpr ⟨hi, h.issued⟩, by simpa using h.ends, ?_, List.nodup_cons.mpr ⟨hc, h.distinct⟩⟩
    · intro d hd
      rcases List.mem_cons.mp hd with rfl | hd
      · exact hp
      · exact h.pooled d hd
    · intro d hd
      rw [List.dropLast_cons_cons] at hd
      rcases List.mem_cons.mp hd with rfl | hd
      · exact hr
      · exact h.climbs d hd

end Complete

/-! ## What is found -/

/-- A list has no certificate that is visited. -/
def Avoids (visited : List Bytes) (path : List Certificate) : Prop := ∀ d ∈ path, d.signedBytes ∉ visited

/-- To avoid one more is not to have it. -/
theorem avoids_cons_iff {octets : Bytes} {path : List Certificate} :
    Avoids (octets :: visited) path ↔ octets ∉ path.map (·.signedBytes) ∧ Avoids visited path := by
  simp only [Avoids, List.mem_cons, not_or, List.mem_map, not_exists, not_and]
  exact ⟨fun h => ⟨fun d hd => (h d hd).1, fun d hd => (h d hd).2⟩, fun h d hd => ⟨h.1 d hd, h.2 d hd⟩⟩

/-- A complete path avoids what its first certificate and those above avoid. -/
theorem Complete.avoids_iff {path : List Certificate} (h : Complete pool c path) :
    Avoids visited path ↔ c.signedBytes ∉ visited ∧ Avoids visited path.tail := by
  rw [h.eq_cons, List.tail_cons]
  exact List.forall_mem_cons

/-- The search finds the complete paths that go over nothing visited, and nothing else. -/
theorem mem_search_iff (pool : List Certificate) (visited : List Bytes) (c : Certificate) (path : List Certificate) :
    path ∈ (search pool visited c).paths ↔ Complete pool c path ∧ Avoids visited path.tail := by
  induction visited, c using search_induction pool generalizing path with
  | step visited c ih =>
    cases hr : c.isSelfSigned with
    | true =>
      rw [search_paths_root hr, List.mem_singleton, Complete.iff_of_root hr]
      exact ⟨fun h => ⟨h, by simp [h, Avoids]⟩, And.left⟩
    | false =>
      -- A path from an issuer avoids all that is visited, with the certificate itself, when the issuer is fresh.
      have habove : ∀ above i, (i ∈ freshIssuers pool visited c ∧
            above ∈ (search pool (c.signedBytes :: visited) i).paths) ↔
          (i ∈ pool ∧ c.isIssuedBy i = true ∧ Complete pool i above ∧ c.signedBytes ∉ above.map (·.signedBytes)) ∧
            Avoids visited above := by
        intro above i
        constructor
        · rintro ⟨hi, ha⟩
          obtain ⟨hp, hc, hv⟩ := mem_freshIssuers.mp hi
          obtain ⟨h, hav⟩ := (ih i hi above).mp ha
          obtain ⟨hn, hv⟩ := avoids_cons_iff.mp (h.avoids_iff.mpr ⟨hv, hav⟩)
          exact ⟨⟨hp, hc, h, hn⟩, hv⟩
        · rintro ⟨⟨hp, hc, h, hn⟩, hv⟩
          obtain ⟨hv, hav⟩ := h.avoids_iff.mp (avoids_cons_iff.mpr ⟨hn, hv⟩)
          have hi := mem_freshIssuers.mpr ⟨hp, hc, hv⟩
          exact ⟨hi, (ih i hi above).mpr ⟨h, hav⟩⟩
      rw [search_paths hr]
      simp only [List.mem_flatMap, List.mem_map]
      constructor
      · rintro ⟨i, hi, above, ha, rfl⟩
        obtain ⟨h, hv⟩ := (habove above i).mp ⟨hi, ha⟩
        exact ⟨(Complete.cons_iff hr above).mpr ⟨i, h⟩, hv⟩
      · rintro ⟨h, hv⟩
        obtain ⟨above, rfl⟩ : ∃ above, path = c :: above := ⟨_, h.eq_cons⟩
        obtain ⟨i, h⟩ := (Complete.cons_iff hr above).mp h
        obtain ⟨hi, ha⟩ := (habove above i).mpr ⟨h, hv⟩
        exact ⟨i, hi, above, ha, rfl⟩

/-! ## The order of the search -/

/-- The ranks of the certificates of a path, from the one above its first. -/
def ranks (rank : Certificate → Nat) (path : List Certificate) : List Nat := path.tail.map rank

/-- Where the pool is in the order of a rank, the paths are found in the lexicographic order of the ranks of their
certificates: where two paths part, the one over the certificate of lower rank comes first. -/
theorem search_sorted {rank : Certificate → Nat} (hpool : pool.Pairwise fun a b => rank a < rank b)
    (visited : List Bytes) (c : Certificate) :
    (search pool visited c).paths.Pairwise fun p q => ranks rank p < ranks rank q := by
  induction visited, c using search_induction pool with
  | step visited c ih =>
    cases hr : c.isSelfSigned with
    | true => rw [search_paths_root hr]; exact List.pairwise_singleton _ _
    | false =>
      have hstart : ∀ i, ∀ p ∈ (search pool (c.signedBytes :: visited) i).paths, p.map rank = rank i :: ranks rank p := by
        intro i p hp
        have := ((mem_search_iff _ _ _ _).mp hp).1.eq_cons
        rw [this, ranks, List.tail_cons, List.map_cons]
      rw [search_paths hr, List.pairwise_flatMap]
      constructor
      · intro i hi
        rw [List.pairwise_map]
        refine (ih i hi).imp_of_mem fun {p q} hp hq hpq => ?_
        simp only [ranks, List.tail_cons, hstart i p hp, hstart i q hq] at hpq ⊢
        exact List.cons_lt_cons_iff.mpr (Or.inr ⟨rfl, hpq⟩)
      · have hfresh : (freshIssuers pool visited c).Pairwise fun a b => rank a < rank b :=
          (hpool.filter _).filter _
        refine hfresh.imp fun {i j} hij p hp q hq => ?_
        obtain ⟨p', hp', rfl⟩ := List.mem_map.mp hp
        obtain ⟨q', hq', rfl⟩ := List.mem_map.mp hq
        simp only [ranks, List.tail_cons, hstart i p' hp', hstart j q' hq']
        exact List.cons_lt_cons_iff.mpr (Or.inl hij)

end ArtifactTrust.Path
