import ArtifactTrust.Proofs.Path.Verify
import Mathlib.Data.List.Perm.Subperm
import Mathlib.Data.List.Nodup

/-!
# The search ends

Statements about the calls of `Path.search`. A call makes further calls (`Call.next`), and what it finds is put together from
what these find (`Call.paths_eq`). The call of the leaf starts from a certificate of the pool that is not visited, and so does
every call made by such a call (`Call.Fresh`); hence each of them leaves fewer certificates unvisited, and as many calls can
be open at once as there are certificates in the pool (`search_terminates`).
-/

namespace ArtifactTrust.Path

/-- A call of the search: the certificate it starts from, and what is visited when it starts. -/
structure Call where
  certificate : Certificate
  visited : List Bytes

namespace Call

/-- The paths that a call finds. -/
def paths (pool : List Certificate) (a : Call) : List (List Certificate) := (search pool a.visited a.certificate).paths

/-- The calls that a call makes, one after the other. -/
def next (pool : List Certificate) (a : Call) : List Call :=
  if a.certificate.isSelfSigned then []
  else (freshIssuers pool a.visited a.certificate).map fun i => ⟨i, a.certificate.signedBytes :: a.visited⟩

/-- The number of certificates of the pool that are not visited when a call starts. -/
def unvisitedCount (pool : List Certificate) (a : Call) : Nat := (unvisited pool a.visited).length

/-- Whether a call starts from a certificate that the pool has and that is not visited. -/
def Fresh (pool : List Certificate) (a : Call) : Prop := a.certificate.isIn (unvisited pool a.visited) = true

variable {pool : List Certificate} {a b : Call}

theorem mem_next : b ∈ a.next pool ↔ a.certificate.isSelfSigned = false ∧
    b.certificate ∈ freshIssuers pool a.visited a.certificate ∧ b.visited = a.certificate.signedBytes :: a.visited := by
  unfold next
  cases a.certificate.isSelfSigned with
  | true => simp
  | false =>
    simp only [Bool.false_eq_true, if_false, List.mem_map, true_and]
    constructor
    · rintro ⟨i, hi, rfl⟩
      exact ⟨hi, rfl⟩
    · rintro ⟨hi, hv⟩
      exact ⟨b.certificate, hi, by rw [← hv]⟩

/-- What a call finds is made of what the calls it makes find, and of nothing else. -/
theorem paths_eq (pool : List Certificate) (a : Call) :
    a.paths pool =
      if a.certificate.isSelfSigned then [[a.certificate]]
      else (a.next pool).flatMap fun b => (b.paths pool).map (a.certificate :: ·) := by
  cases h : a.certificate.isSelfSigned with
  | true => rw [paths, search_paths_root h, if_pos rfl]
  | false =>
    rw [paths, search_paths h, next, h]
    simp only [Bool.false_eq_true, if_false, List.flatMap_map]
    rfl

/-- The call of the leaf is fresh, for the leaf is in its pool. -/
theorem fresh_first (leaf : Certificate) (trusted untrusted : List Certificate) :
    Fresh (Path.pool leaf trusted untrusted) ⟨leaf, []⟩ := by
  have : unvisited (Path.pool leaf trusted untrusted) [] = Path.pool leaf trusted untrusted := by simp [unvisited]
  rw [Fresh, this]
  exact leaf_isIn_pool

/-- Every call that is made is fresh. -/
theorem fresh_of_mem_next (h : b ∈ a.next pool) : b.Fresh pool := by
  obtain ⟨-, hi, hv⟩ := mem_next.mp h
  obtain ⟨hp, -, hn⟩ := mem_freshIssuers.mp hi
  rw [Fresh, hv]
  exact isIn_unvisited hp hn

/-- A fresh call visits its certificate, so what it calls finds fewer unvisited. -/
theorem unvisitedCount_lt (ha : a.Fresh pool) (h : b ∈ a.next pool) : b.unvisitedCount pool < a.unvisitedCount pool := by
  rw [unvisitedCount, (mem_next.mp h).2.2]
  exact length_unvisited_lt ha

/-- A fresh call has something to visit. -/
theorem Fresh.pos (h : a.Fresh pool) : 0 < a.unvisitedCount pool := by
  obtain ⟨c, hc, -⟩ := List.any_eq_true.mp h
  exact List.length_pos_of_mem hc

/-- Calls, fresh or not, end. -/
theorem wellFounded_next (pool : List Certificate) : WellFounded fun b a : Call => b ∈ a.next pool := by
  refine Subrelation.wf ?_ (measure fun a : Call => remaining pool a.visited a.certificate).wf
  intro b a h
  obtain ⟨-, hi, hv⟩ := mem_next.mp h
  obtain ⟨hp, -, hn⟩ := mem_freshIssuers.mp hi
  show remaining pool b.visited b.certificate < _
  rw [hv]
  exact remaining_lt hp hn

end Call

/-! ## Call stacks -/

/-- Calls that are open at once: the call of a leaf with nothing visited, and on each call one that it makes. -/
structure IsStack (pool : List Certificate) (leaf : Certificate) (stack : List Call) : Prop where
  starts : stack.head? = some ⟨leaf, []⟩
  nested : stack.IsChain fun a b => b ∈ a.next pool

/-- On a stack that starts with a fresh call the unvisited certificates get fewer from call to call. -/
theorem isChain_unvisitedCount {pool : List Certificate} {a : Call} {stack : List Call} (ha : a.Fresh pool)
    (h : (a :: stack).IsChain fun a b => b ∈ a.next pool) :
    (a :: stack).IsChain fun a b => b.unvisitedCount pool < a.unvisitedCount pool := by
  induction stack generalizing a with
  | nil => exact List.IsChain.singleton _
  | cons b stack ih =>
    obtain ⟨hb, hrest⟩ := List.isChain_cons_cons.mp h
    exact List.isChain_cons_cons.mpr ⟨Call.unvisitedCount_lt ha hb, ih (Call.fresh_of_mem_next hb) hrest⟩

/-- A stack that starts with a fresh call is no higher than the number of unvisited certificates. -/
theorem length_stack_le {pool : List Certificate} {a : Call} {stack : List Call} (ha : a.Fresh pool)
    (h : (a :: stack).IsChain fun a b => b ∈ a.next pool) : (a :: stack).length ≤ a.unvisitedCount pool := by
  induction stack generalizing a with
  | nil => exact ha.pos
  | cons b stack ih =>
    obtain ⟨hb, hrest⟩ := List.isChain_cons_cons.mp h
    have := ih (Call.fresh_of_mem_next hb) hrest
    have := Call.unvisitedCount_lt ha hb
    rw [List.length_cons]
    omega

/-- A complete path is no longer than its pool, which has each of its certificates. -/
theorem Complete.length_le {leaf : Certificate} {trusted untrusted path : List Certificate}
    (h : Complete (pool leaf trusted untrusted) leaf path) : path.length ≤ (pool leaf trusted untrusted).length := by
  have hsub : path.map (·.signedBytes) ⊆ (pool leaf trusted untrusted).map (·.signedBytes) := by
    intro octets hm
    obtain ⟨c, hc, rfl⟩ := List.mem_map.mp hm
    rw [h.eq_cons] at hc
    rcases List.mem_cons.mp hc with rfl | hc
    · exact Certificate.isIn_iff.mp leaf_isIn_pool
    · exact List.mem_map_of_mem (h.pooled c hc)
  simpa using (h.distinct.subperm hsub).length_le

/-! ## The search ends -/

/-- The search of a pool ends, whatever certifies what in it. What a call finds is what the calls it makes find, and no call
makes calls for ever. From the call of the leaf on, every call leaves fewer certificates of the pool unvisited than the one
that makes it; no more calls are open at once than the pool has certificates, no path is longer than that, and every call
leaves visited what it found visited. -/
theorem search_terminates (leaf : Certificate) (trusted untrusted : List Certificate) :
    (∀ a : Call, a.paths (pool leaf trusted untrusted) =
      if a.certificate.isSelfSigned then [[a.certificate]]
      else (a.next (pool leaf trusted untrusted)).flatMap fun b =>
        (b.paths (pool leaf trusted untrusted)).map (a.certificate :: ·)) ∧
    (WellFounded fun b a : Call => b ∈ a.next (pool leaf trusted untrusted)) ∧
    (∀ stack, IsStack (pool leaf trusted untrusted) leaf stack →
      (stack.IsChain fun a b =>
        b.unvisitedCount (pool leaf trusted untrusted) < a.unvisitedCount (pool leaf trusted untrusted)) ∧
      stack.length ≤ (pool leaf trusted untrusted).length) ∧
    (∀ path ∈ all leaf trusted untrusted, path.length ≤ (pool leaf trusted untrusted).length) ∧
    (∀ visited c, (search (pool leaf trusted untrusted) visited c).visited = visited) := by
  refine ⟨Call.paths_eq _, Call.wellFounded_next _, fun stack h => ?_, fun path h => (mem_all_iff.mp h).length_le,
    fun visited c => (search _ visited c).restored⟩
  obtain ⟨rest, rfl⟩ := List.head?_eq_some_iff.mp h.starts
  have hfirst := Call.fresh_first leaf trusted untrusted
  refine ⟨isChain_unvisitedCount hfirst h.nested, Nat.le_trans (length_stack_le hfirst h.nested) ?_⟩
  exact List.length_filter_le _ _

end ArtifactTrust.Path
