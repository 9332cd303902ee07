import ArtifactTrust.Path.Search
import Mathlib.Data.List.Induction

/-!
# Pools

Statements about `Path.distinct` and `Path.pool`: the pool of a search holds, of the certificates that certify the same, the
one that stands first (`mem_pool`, `isIn_pool`), and keeps them in the order in which they were given (`pool_sorted`), the
trusted ones before the others.
-/

namespace ArtifactTrust

namespace Certificate

/-- Two certificates are the same when they certify the same octets. -/
theorem same_iff {a b : Certificate} : a.same b = true ↔ a.signedBytes = b.signedBytes := beq_iff_eq

/-- A list has a certificate when it has one that certifies the same octets. -/
theorem isIn_iff {c : Certificate} {cs : List Certificate} :
    c.isIn cs = true ↔ c.signedBytes ∈ cs.map (·.signedBytes) := by
  simp only [isIn, List.any_eq_true, same_iff, List.mem_map]
  exact exists_congr fun d => and_congr_right fun _ => eq_comm

/-- A list has the certificates that are in it. -/
theorem isIn_of_mem {c : Certificate} {cs : List Certificate} (h : c ∈ cs) : c.isIn cs = true :=
  isIn_iff.mpr (List.mem_map_of_mem h)

end Certificate

namespace Path

open Certificate (same_iff isIn_iff isIn_of_mem)

/-! ## Distinct certificates -/

/-- The last certificate of a list is one of the distinct ones unless it stands before. -/
theorem distinct_concat (cs : List Certificate) (c : Certificate) :
    distinct (cs ++ [c]) = if c.isIn (distinct cs) then distinct cs else distinct cs ++ [c] := by
  rw [distinct, List.foldl_append]
  rfl

/-- The distinct certificates are certificates of the list. -/
theorem mem_of_mem_distinct {cs : List Certificate} {c : Certificate} (h : c ∈ distinct cs) : c ∈ cs := by
  induction cs using List.reverseRecOn with
  | nil => exact h
  | append_singleton cs d ih =>
    rw [distinct_concat] at h
    split at h
    · exact List.mem_append_left _ (ih h)
    · rcases List.mem_append.mp h with h | h
      · exact List.mem_append_left _ (ih h)
      · exact List.mem_append_right _ h

/-- Nothing that is certified gets lost. -/
theorem isIn_distinct {cs : List Certificate} {c : Certificate} : c.isIn (distinct cs) = true ↔ c.isIn cs = true := by
  simp only [isIn_iff]
  induction cs using List.reverseRecOn with
  | nil => simp [distinct]
  | append_singleton cs d ih =>
    rw [distinct_concat]
    split
    · rename_i hd
      rw [isIn_iff] at hd
      simp only [List.map_append, List.mem_append, List.map_cons, List.map_nil, List.mem_singleton, ← ih]
      refine ⟨Or.inl, ?_⟩
      rintro (h | h)
      · exact h
      · exact h ▸ hd
    · simp only [List.map_append, List.mem_append, ih]

/-- The place at which a list first has a certificate. -/
def place (cs : List Certificate) (c : Certificate) : Nat := cs.findIdx c.same

/-- The place of a certificate that a list has does not change when another follows. -/
theorem place_concat {cs : List Certificate} {c : Certificate} (h : c.isIn cs = true) (d : Certificate) :
    place (cs ++ [d]) c = place cs c := by
  rw [place, List.findIdx_append, if_pos (List.findIdx_lt_length.mpr (List.any_eq_true.mp h)), place]

/-- The place of a certificate that a list has is in the list. -/
theorem place_lt {cs : List Certificate} {c : Certificate} (h : c.isIn cs = true) : place cs c < cs.length :=
  List.findIdx_lt_length.mpr (List.any_eq_true.mp h)

/-- The place of a new last certificate is the last one. -/
theorem place_last {cs : List Certificate} {c : Certificate} (h : c.isIn cs = false) : place (cs ++ [c]) c = cs.length := by
  have hn : cs.findIdx c.same = cs.length := List.findIdx_eq_length.mpr fun d hd => by
    simpa using List.any_eq_false.mp h d hd
  rw [place, List.findIdx_append, hn, if_neg (Nat.lt_irrefl _), List.findIdx_cons, same_self]
  simp

/-- The distinct certificates stand in the order in which the list first has them. -/
theorem distinct_sorted (cs : List Certificate) : (distinct cs).Pairwise fun a b => place cs a < place cs b := by
  induction cs using List.reverseRecOn with
  | nil => exact List.Pairwise.nil
  | append_singleton cs d ih =>
    have hin : ∀ a ∈ distinct cs, a.isIn cs = true := fun a ha => isIn_of_mem (mem_of_mem_distinct ha)
    have ih' : (distinct cs).Pairwise fun a b => place (cs ++ [d]) a < place (cs ++ [d]) b :=
      ih.imp_of_mem fun ha hb hab => by rw [place_concat (hin _ ha), place_concat (hin _ hb)]; exact hab
    rw [distinct_concat]
    split
    · exact ih'
    · rename_i hd
      have hd' : d.isIn cs = false := by
        rw [isIn_distinct] at hd
        simpa using hd
      refine List.pairwise_append.mpr ⟨ih', List.pairwise_singleton _ _, ?_⟩
      intro a ha b hb
      rw [List.mem_singleton] at hb
      subst hb
      rw [place_concat (hin a ha), place_last hd']
      exact place_lt (hin a ha)

/-- No two of the distinct certificates certify the same. -/
theorem distinct_nodup (cs : List Certificate) : ((distinct cs).map (·.signedBytes)).Nodup := by
  rw [List.Nodup, List.pairwise_map]
  refine (distinct_sorted cs).imp fun {a b} hab heq => ?_
  have : place cs a = place cs b := by
    unfold place
    congr 1
    funext d
    rw [Bool.eq_iff_iff, same_iff, same_iff, heq]
  omega

/-! ## The pool of a search -/

variable {leaf : Certificate} {trusted untrusted : List Certificate}

/-- The pool is made of the certificates that were given. -/
theorem mem_pool {c : Certificate} (h : c ∈ pool leaf trusted untrusted) : c ∈ trusted ∨ c ∈ untrusted ∨ c = leaf := by
  have := mem_of_mem_distinct h
  simpa [or_assoc] using this

/-- The pool has every certificate that was given. -/
theorem isIn_pool {c : Certificate} :
    c.isIn (pool leaf trusted untrusted) = true ↔ c.isIn (trusted ++ untrusted ++ [leaf]) = true := isIn_distinct

/-- The pool has the leaf. -/
theorem leaf_isIn_pool : leaf.isIn (pool leaf trusted untrusted) = true :=
  isIn_pool.mpr (isIn_of_mem (by simp))

/-- The place of a certificate among those that were given: the trusted ones first, then the others, the leaf last. -/
def rank (leaf : Certificate) (trusted untrusted : List Certificate) (c : Certificate) : Nat :=
  place (trusted ++ untrusted ++ [leaf]) c

/-- The pool keeps the order in which the certificates were given. -/
theorem pool_sorted :
    (pool leaf trusted untrusted).Pairwise fun a b => rank leaf trusted untrusted a < rank leaf trusted untrusted b :=
  distinct_sorted _

end Path

end ArtifactTrust
