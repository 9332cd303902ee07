import ArtifactTrust.Proofs.Success

/-!
# Where failures come from

Statements about `Except`: which step of a check that is put together from others has failed. They tell the steps apart by their
errors, so an error that no step gives is not given at all. Where parts of a list are gone over together with their places, the
faults that are found stand in this order (`Failure.flatMap_sorted`). When checks succeed is said in `ArtifactTrust.Success`.
-/

namespace ArtifactTrust.Failure

variable {ε ε' α β : Type}

/-- A step fails, or what follows it. -/
theorem bind_eq_error {x : Except ε α} {f : α → Except ε β} {e : ε} :
    (x >>= f) = .error e ↔ x = .error e ∨ ∃ a, x = .ok a ∧ f a = .error e := by
  cases x <;> simp [bind, Except.bind]

/-- An error in other words was one before. -/
theorem mapError_eq_error {x : Except ε α} {f : ε → ε'} {e : ε'} :
    x.mapError f = .error e ↔ ∃ cause, x = .error cause ∧ f cause = e := by
  cases x <;> simp [Except.mapError]

/-- In other words an error is only what these words can say. -/
theorem mapError_ne_error {x : Except ε α} {f : ε → ε'} {e : ε'} (h : ∀ cause, f cause ≠ e) : x.mapError f ≠ .error e := by
  intro hx
  obtain ⟨cause, -, hcause⟩ := mapError_eq_error.mp hx
  exact h cause hcause

theorem map_eq_error {x : Except ε α} {f : α → β} {e : ε} : x.map f = .error e ↔ x = .error e := by
  cases x <;> simp [Except.map]

/-- What may be missing is, or what is done with it fails. -/
theorem elim_eq_error {o : Option α} {missing e : ε} {f : α → Except ε β} :
    o.elim (.error missing) f = .error e ↔ (o = none ∧ missing = e) ∨ ∃ a, o = some a ∧ f a = .error e := by
  cases o <;> simp

theorem require_eq_error {condition : Bool} {otherwise e : ε} :
    require condition otherwise = .error e ↔ condition = false ∧ otherwise = e := by
  cases condition <;> simp [require]

/-- Some element of a list does not pass the check that fails. -/
theorem exists_of_forM_eq_error {xs : List α} {f : α → Except ε Unit} {e : ε} (h : xs.forM f = .error e) :
    ∃ x ∈ xs, f x = .error e := by
  induction xs with
  | nil => cases h
  | cons x xs ih =>
    rw [List.forM, bind_eq_error] at h
    rcases h with hx | ⟨_, -, hxs⟩
    · exact ⟨x, List.mem_cons_self, hx⟩
    · obtain ⟨y, hy, hye⟩ := ih hxs
      exact ⟨y, List.mem_cons_of_mem x hy, hye⟩

/-- Some element of a list gives the error that all of them together give. -/
theorem exists_of_mapM_eq_error {xs : List α} {f : α → Except ε β} {e : ε} (h : xs.mapM f = .error e) :
    ∃ x ∈ xs, f x = .error e := by
  induction xs with
  | nil => cases h
  | cons x xs ih =>
    rw [List.mapM_cons, bind_eq_error] at h
    rcases h with hx | ⟨_, -, hxs⟩
    · exact ⟨x, List.mem_cons_self, hx⟩
    · rcases bind_eq_error.mp hxs with hxs | ⟨_, -, hpure⟩
      · obtain ⟨y, hy, hye⟩ := ih hxs
        exact ⟨y, List.mem_cons_of_mem x hy, hye⟩
      · cases hpure

/-! ## Faults in their order -/

/-- What is listed place by place is in order if the list of each place is, and stands before those of later places. -/
theorem flatMap_sorted {precedes : β → β → Prop} {xs : List α} {f : α × Nat → List β}
    (hsorted : ∀ x, (f x).Pairwise precedes)
    (hplaces : ∀ x y, x.2 < y.2 → ∀ a ∈ f x, ∀ b ∈ f y, precedes a b) : (xs.zipIdx.flatMap f).Pairwise precedes := by
  have hincreasing : xs.zipIdx.Pairwise fun x y => x.2 < y.2 := by
    rw [← List.pairwise_map (f := Prod.snd) (R := (· < ·)), List.zipIdx_map_snd]
    exact List.pairwise_lt_range'
  exact List.pairwise_flatMap.mpr ⟨fun x _ => hsorted x, hincreasing.imp fun {x y} hlt => hplaces x y hlt⟩

end ArtifactTrust.Failure
