import ArtifactTrust.Proofs.Certificate.Body
import ArtifactTrust.Proofs.Path.Soundness

/-!
# Certificates that do not matter

Whoever asks for a path may hand in any number of untrusted certificates. A further one can take the place in the pool of one
that certifies the same, and move those behind it. Neither has an effect as long as the search finds the same issuers in both
pools, for it looks at nothing else of a pool (`Path.Agree.search_paths`). Main statement: a certificate that certifies the
same as a trusted one, or that has issued none of the others, changes no answer, wherever it is put in (`Path.verify_insert`).

That certificates were read from an encoding matters where the further one takes another's place: it has the other's body
then, with the other's key and name, so that what it has not issued the other has not issued either.
-/

namespace ArtifactTrust.Path

open Certificate (isIn_iff isIssuedBy_congr)
open Success (toOption_eq_some)

variable {leaf x : Certificate} {trusted untrusted before after : List Certificate} {t : Instant}

/-! ## Two pools -/

/-- A certificate that stands in front already is passed over. -/
theorem distinct_insert (h : x.isIn before = true) (after : List Certificate) :
    distinct (before ++ x :: after) = distinct (before ++ after) := by
  have hx : x.isIn (before.foldl (fun pool c => if c.isIn pool then pool else pool ++ [c]) []) = true := isIn_distinct.mpr h
  rw [distinct, distinct, List.foldl_append, List.foldl_append, List.foldl_cons, if_pos hx]

/-- Repetitions can be taken out before or after others are left out, if those that certify the same are left out together. -/
theorem filter_distinct {keep : Certificate → Bool} {cs : List Certificate}
    (h : ∀ a ∈ cs, ∀ b ∈ cs, a.signedBytes = b.signedBytes → keep a = keep b) :
    (distinct cs).filter keep = distinct (cs.filter keep) := by
  induction cs using List.reverseRecOn with
  | nil => rfl
  | append_singleton cs d ih =>
    have ih' : (distinct cs).filter keep = distinct (cs.filter keep) :=
      ih fun a ha b hb => h a (List.mem_append_left _ ha) b (List.mem_append_left _ hb)
    rw [List.filter_append, distinct_concat]
    cases hd : keep d with
    | false =>
      have hleft : [d].filter keep = [] := by simp [hd]
      rw [hleft, List.append_nil, ← ih']
      split
      · rfl
      · rw [List.filter_append, hleft, List.append_nil]
    | true =>
      have hkept : [d].filter keep = [d] := by simp [hd]
      have hin : d.isIn (distinct (cs.filter keep)) = true ↔ d.isIn (distinct cs) = true := by
        rw [isIn_distinct, isIn_distinct, isIn_iff, isIn_iff, List.mem_map, List.mem_map]
        constructor
        · rintro ⟨a, ha, heq⟩
          exact ⟨a, (List.mem_filter.mp ha).1, heq⟩
        · -- Where the last one is kept, so is all that certifies the same.
          rintro ⟨a, ha, heq⟩
          have hkeep : keep a = true := (h a (List.mem_append_left _ ha) d (by simp) heq).trans hd
          exact ⟨a, List.mem_filter.mpr ⟨ha, hkeep⟩, heq⟩
      rw [hkept, distinct_concat]
      by_cases hn : d.isIn (distinct cs) = true
      · rw [if_pos hn, if_pos (hin.mpr hn), ih']
      · rw [if_neg hn, if_neg (fun hf => hn (hin.mp hf)), List.filter_append, hkept, ih']

/-- Two pools hold the same issuers for the certificates of a list, and the list has these issuers as well. -/
structure Agree (pool other cs : List Certificate) : Prop where
  issuers_eq : ∀ c ∈ cs, issuers pool c = issuers other c
  closed : ∀ c ∈ cs, ∀ i ∈ issuers pool c, i ∈ cs

/-- In pools that agree the search finds the same paths. The induction is on its calls, none of which leaves the list. -/
theorem Agree.search_paths {pool other cs : List Certificate} {c : Certificate} (h : Agree pool other cs) (visited : List Bytes)
    (hc : c ∈ cs) : (search pool visited c).paths = (search other visited c).paths := by
  induction visited, c using search_induction pool with
  | step visited c ih =>
    cases hr : c.isSelfSigned with
    | true => rw [search_paths_root hr, search_paths_root hr]
    | false =>
      have hfresh : freshIssuers pool visited c = freshIssuers other visited c := by
        rw [freshIssuers, freshIssuers, h.issuers_eq c hc]
      rw [Path.search_paths hr, Path.search_paths hr, ← hfresh]
      refine List.flatMap_congr fun i hi => ?_
      rw [ih i hi (h.closed c hc i (List.mem_filter.mp hi).1)]

/-- The answer depends on the untrusted certificates only by the paths that are found. -/
theorem verify_congr {others : List Certificate} (h : all leaf trusted untrusted = all leaf trusted others) (t : Instant) :
    verify leaf trusted untrusted t = verify leaf trusted others t := by
  rw [verify, verify, select, select, h]

/-! ## A further certificate -/

/-- A further certificate that has issued nothing is nobody's issuer in the pool, and one whose place it takes was not
either. -/
theorem agree_insert (hread : ∀ c ∈ x :: leaf :: (trusted ++ (before ++ after)), c.IsRead)
    (hx : ∀ c ∈ leaf :: (trusted ++ (before ++ after)), c.isIssuedBy x = false) :
    Agree (pool leaf trusted (before ++ x :: after)) (pool leaf trusted (before ++ after))
      (leaf :: (trusted ++ (before ++ after))) := by
  have hread' : ∀ c ∈ trusted ++ (before ++ x :: after) ++ [leaf], c.IsRead := by
    intro c hc
    apply hread c
    simp only [List.mem_append, List.mem_cons, List.not_mem_nil, or_false] at hc ⊢
    tauto
  have hsub : trusted ++ (before ++ after) ++ [leaf] ⊆ trusted ++ (before ++ x :: after) ++ [leaf] :=
    ((((List.sublist_cons_self x after).append_left before).append_left trusted).append_right [leaf]).subset
  have hissuers : ∀ c ∈ leaf :: (trusted ++ (before ++ after)),
      issuers (pool leaf trusted (before ++ x :: after)) c = issuers (pool leaf trusted (before ++ after)) c := by
    intro c hc
    have hsame : ∀ a ∈ trusted ++ (before ++ x :: after) ++ [leaf], ∀ b ∈ trusted ++ (before ++ x :: after) ++ [leaf],
        a.signedBytes = b.signedBytes → c.isIssuedBy a = c.isIssuedBy b :=
      fun a ha b hb heq => isIssuedBy_congr (hread' a ha) (hread' b hb) heq c
    have hkept : (before ++ x :: after).filter c.isIssuedBy = (before ++ after).filter c.isIssuedBy := by
      rw [List.filter_append, List.filter_append, List.filter_cons_of_neg (by simp [hx c hc])]
    rw [issuers, issuers, pool, pool, filter_distinct hsame, filter_distinct fun a ha b hb => hsame a (hsub ha) b (hsub hb)]
    rw [List.filter_append, List.filter_append, hkept, ← List.filter_append, ← List.filter_append]
  refine ⟨hissuers, fun c hc i hi => ?_⟩
  rw [hissuers c hc] at hi
  rcases mem_pool (List.mem_filter.mp hi).1 with ht | hu | rfl
  · exact List.mem_cons_of_mem _ (List.mem_append_left _ ht)
  · exact List.mem_cons_of_mem _ (List.mem_append_right _ hu)
  · exact List.mem_cons_self

/-- A further untrusted certificate changes no answer, wherever it stands among the others, if it certifies the same as a
trusted one, under whatever signature, or if it has issued none of the certificates that are given. -/
theorem verify_insert (leaf : Certificate) (trusted before after : List Certificate) (x : Certificate) (t : Instant)
    (hread : ∀ c ∈ x :: leaf :: (trusted ++ (before ++ after)), c.IsRead)
    (hx : (∃ a ∈ trusted, x.signedBytes = a.signedBytes) ∨
      ∀ c ∈ leaf :: (trusted ++ (before ++ after)), c.isIssuedBy x = false) :
    verify leaf trusted (before ++ x :: after) t = verify leaf trusted (before ++ after) t := by
  apply verify_congr
  rcases hx with ⟨a, ha, heq⟩ | hx
  · have hin : x.isIn (trusted ++ before) = true := by
      rw [isIn_iff, heq]
      exact List.mem_map_of_mem (List.mem_append_left _ ha)
    have hpool : pool leaf trusted (before ++ x :: after) = pool leaf trusted (before ++ after) := by
      have hinsert := distinct_insert hin (after ++ [leaf])
      simpa [pool, List.append_assoc] using hinsert
    rw [all, all, hpool]
  · exact (agree_insert hread hx).search_paths [] List.mem_cons_self

/-- An encoding with another last octet, which belongs to the signature. -/
def forge (der : Bytes) : Bytes := der.dropLast ++ [0x00]

theorem forgedRoot_reads : (Certificate.parse (forge sampleRootDer)).toOption.isSome = true := by decide +kernel

theorem forgedLeaf_reads : (Certificate.parse (forge sampleLeafDer)).toOption.isSome = true := by decide +kernel

/-- A certificate that certifies the same as the root, under a signature that nobody made. -/
def forgedRoot : Certificate := (Certificate.parse (forge sampleRootDer)).toOption.get forgedRoot_reads

/-- A certificate that certifies the same as the leaf, under a signature that nobody made. -/
def forgedLeaf : Certificate := (Certificate.parse (forge sampleLeafDer)).toOption.get forgedLeaf_reads

theorem isRead_get {der : Bytes} (h : (Certificate.parse der).toOption.isSome = true) :
    ((Certificate.parse der).toOption.get h).IsRead :=
  ⟨_, der, toOption_eq_some.mp (Option.some_get h).symm⟩

theorem isRead_samples : sampleLeaf.IsRead ∧ sampleRoot.IsRead ∧ forgedLeaf.IsRead ∧ forgedRoot.IsRead :=
  ⟨isRead_get sampleLeafDer_reads, isRead_get sampleRootDer_reads, isRead_get forgedLeaf_reads, isRead_get forgedRoot_reads⟩

theorem forged_facts : forgedRoot.signedBytes = sampleRoot.signedBytes ∧ forgedRoot.signature ≠ sampleRoot.signature ∧
    forgedLeaf.signedBytes = sampleLeaf.signedBytes ∧ forgedLeaf.signature ≠ sampleLeaf.signature ∧
    ∀ c ∈ [sampleLeaf, sampleRoot, forgedRoot], c.isIssuedBy forgedLeaf = false := by decide +kernel

/-- The forged leaf has issued nothing and takes the leaf's place in the pool, and the forged root finds its own taken by the
root. Neither keeps the leaf from the path to its root. -/
theorem verify_insert_forged :
    (∀ c ∈ [forgedLeaf, sampleLeaf, sampleRoot, forgedRoot], c.IsRead) ∧
    (∀ c ∈ [sampleLeaf, sampleRoot, forgedRoot], c.isIssuedBy forgedLeaf = false) ∧
    verify sampleLeaf [sampleRoot] ([] ++ forgedLeaf :: [forgedRoot]) sampleTime =
      verify sampleLeaf [sampleRoot] ([] ++ forgedRoot :: []) sampleTime ∧
    forgedRoot.signedBytes = sampleRoot.signedBytes ∧
    verify sampleLeaf [sampleRoot] ([] ++ forgedRoot :: []) sampleTime = verify sampleLeaf [sampleRoot] ([] ++ []) sampleTime ∧
    verify sampleLeaf [sampleRoot] ([] ++ []) sampleTime = .ok [sampleLeaf, sampleRoot] := by
  obtain ⟨hroot, -, -, -, hnone⟩ := forged_facts
  obtain ⟨hl, hr, hfl, hfr⟩ := isRead_samples
  have hread : ∀ c ∈ [forgedLeaf, sampleLeaf, sampleRoot, forgedRoot], c.IsRead := by simp [hl, hr, hfl, hfr]
  have hread' : ∀ c ∈ [forgedRoot, sampleLeaf, sampleRoot], c.IsRead := by simp [hl, hr, hfr]
  have hleaf := verify_insert sampleLeaf [sampleRoot] [] [forgedRoot] forgedLeaf sampleTime hread (Or.inr hnone)
  have hforged := verify_insert sampleLeaf [sampleRoot] [] [] forgedRoot sampleTime hread'
    (Or.inl ⟨sampleRoot, List.mem_singleton_self _, hroot⟩)
  exact ⟨hread, hnone, hleaf, hroot, hforged, verify_sample⟩

end ArtifactTrust.Path
