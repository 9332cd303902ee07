import ArtifactTrust.Number.Double
import Mathlib.Data.Nat.Log
import Mathlib.Tactic.Ring

/-!
# What is written of an integer as a double

The decimal that is written for a double reads back as this double (`Double.nearest_shortest`). So two integers are written alike
exactly if they have the same sign and the same nearest double (`Double.written_eq_iff`). Below 2⁵³ in magnitude every integer
is its own (`Double.written_of_lt`).

A number from 2⁵² on is taken apart as `q * 2 ^ k + r`, where `q` has 53 bits and `r` is what rounding is about.
-/

namespace ArtifactTrust.Double

/-- Below 2⁵³ the doubles are as dense as the integers. -/
theorem spacing_of_lt {n : Nat} (h : n < 0x20000000000000) : spacing n = 0 := by
  rcases Nat.eq_zero_or_pos n with rfl | hn
  · rfl
  · have hlog : n.log2 < 53 := (Nat.log2_lt (Nat.pos_iff_ne_zero.mp hn)).mpr h
    unfold spacing
    omega

theorem nearest_of_lt {n : Nat} (h : n < 0x20000000000000) : nearest n = n := by
  have hunit : 1 <<< spacing n = 1 := by rw [spacing_of_lt h, Nat.shiftLeft_zero]
  unfold nearest
  simp only [hunit, Nat.div_one, Nat.mod_one, Nat.mul_one]
  rw [if_neg (by omega)]

theorem shortest_of_lt {n : Nat} (h : n < 0x20000000000000) : shortest n = n := if_pos h

/-- Integers below 2⁵³ in magnitude are written as they are. -/
theorem written_of_lt {n : Int} (h : n.natAbs < 0x20000000000000) : written n = n := by
  unfold written
  rw [nearest_of_lt h, shortest_of_lt h]
  show (if n < 0 then -(n.natAbs : Int) else n.natAbs) = n
  split <;> omega

section Rounding

variable {k q r : Nat}

theorem log2_mul_add (hlow : 2 ^ 52 ≤ q) (hhigh : q < 2 ^ 53) (hr : r < 2 ^ k) : (q * 2 ^ k + r).log2 = k + 52 := by
  have hpos : 0 < 2 ^ k := Nat.two_pow_pos k
  have hlower : 2 ^ 52 * 2 ^ k ≤ q * 2 ^ k := Nat.mul_le_mul_right _ hlow
  have hupper : (q + 1) * 2 ^ k ≤ 2 ^ 53 * 2 ^ k := Nat.mul_le_mul_right _ hhigh
  rw [Nat.log2_eq_iff (by omega)]
  have h52 : 2 ^ (k + 52) = 2 ^ 52 * 2 ^ k := by rw [Nat.pow_add, Nat.mul_comm]
  have h53 : 2 ^ (k + 52 + 1) = 2 ^ 53 * 2 ^ k := by rw [Nat.add_assoc, Nat.pow_add, Nat.mul_comm]
  rw [h52, h53]
  rw [Nat.add_mul, Nat.one_mul] at hupper
  omega

theorem spacing_mul_add (hlow : 2 ^ 52 ≤ q) (hhigh : q < 2 ^ 53) (hr : r < 2 ^ k) : spacing (q * 2 ^ k + r) = k := by
  rw [spacing, log2_mul_add hlow hhigh hr, Nat.add_sub_cancel]

/-- Rounding to the nearest multiple, of two to the even one. -/
theorem nearest_mul_add (hlow : 2 ^ 52 ≤ q) (hhigh : q < 2 ^ 53) (hr : r < 2 ^ k) : nearest (q * 2 ^ k + r) =
    if 2 ^ k < 2 * r ∨ (2 * r = 2 ^ k ∧ q % 2 = 1) then (q + 1) * 2 ^ k else q * 2 ^ k := by
  have hdiv : (q * 2 ^ k + r) / 2 ^ k = q := by
    rw [Nat.mul_comm, Nat.mul_add_div (Nat.two_pow_pos k), Nat.div_eq_of_lt hr, Nat.add_zero]
  have hmod : (q * 2 ^ k + r) % 2 ^ k = r := by
    rw [Nat.mul_comm, Nat.mul_add_mod, Nat.mod_eq_of_lt hr]
  unfold nearest
  simp only [spacing_mul_add hlow hhigh hr, Nat.one_shiftLeft, hdiv, hmod]

/-- The parts of a number. -/
theorem exists_eq_mul_add {n : Nat} (h : 2 ^ 52 ≤ n) :
    ∃ k q r, n = q * 2 ^ k + r ∧ 2 ^ 52 ≤ q ∧ q < 2 ^ 53 ∧ r < 2 ^ k := by
  obtain ⟨k, hk⟩ : ∃ k, n.log2 = k + 52 := Nat.exists_eq_add_of_le' ((Nat.le_log2 (by omega)).mpr h)
  have hpos : 0 < 2 ^ k := Nat.two_pow_pos k
  obtain ⟨hlower, hupper⟩ := (Nat.log2_eq_iff (by omega)).mp hk
  refine ⟨k, n / 2 ^ k, n % 2 ^ k, (Nat.div_add_mod' n (2 ^ k)).symm, ?_, ?_, Nat.mod_lt n hpos⟩
  · rw [Nat.le_div_iff_mul_le hpos, Nat.mul_comm, ← Nat.pow_add]
    exact hlower
  · rw [Nat.div_lt_iff_lt_mul hpos, Nat.mul_comm, ← Nat.pow_add]
    exact hupper

/-- How near to a double a number is that reads back as it. Half of the spacing is near enough for an even multiple; below a
power of two half of it is a quarter. -/
theorem near_of_readsAs {x : Nat} (hlow : 2 ^ 52 ≤ q) (hhigh : q < 2 ^ 53) (h : readsAs (q * 2 ^ k) x = true) :
    (4 * (q * 2 ^ k) ≤ 4 * x + (if q = 2 ^ 52 then 2 ^ k else 2 * 2 ^ k) ∧ 4 * x ≤ 4 * (q * 2 ^ k) + 2 * 2 ^ k) ∧
      (q % 2 = 1 → 4 * (q * 2 ^ k) < 4 * x + 2 * 2 ^ k ∧ 4 * x < 4 * (q * 2 ^ k) + 2 * 2 ^ k) := by
  have hpos : 0 < 2 ^ k := Nat.two_pow_pos k
  have hspacing := spacing_mul_add hlow hhigh hpos
  have hlog := log2_mul_add hlow hhigh hpos
  rw [Nat.add_zero] at hspacing hlog
  have hpower : (q * 2 ^ k = 2 ^ (k + 52)) = (q = 2 ^ 52) := by
    rw [Nat.pow_add, Nat.mul_comm (2 ^ k)]
    exact propext (Nat.mul_left_inj hpos.ne')
  unfold readsAs at h
  simp only [hspacing, hlog, Nat.one_shiftLeft, Nat.mul_div_cancel _ hpos, beq_iff_eq, hpower] at h
  rcases Nat.mod_two_eq_zero_or_one q with hq | hq
  · rw [if_pos hq, Bool.and_eq_true, decide_eq_true_eq, decide_eq_true_eq] at h
    exact ⟨h, fun hodd => by omega⟩
  · have hne : q ≠ 2 ^ 52 := by
      rintro rfl
      exact absurd hq (by decide)
    rw [if_neg (by omega), Bool.and_eq_true, decide_eq_true_eq, decide_eq_true_eq, if_neg hne] at h
    rw [if_neg hne]
    exact ⟨⟨Nat.le_of_lt h.1, Nat.le_of_lt h.2⟩, fun _ => h⟩

/-- Rounding up to a multiple from less than half of the spacing below it, or from half if the multiple is even. -/
theorem nearest_of_below {x : Nat} (hlow : 2 ^ 52 ≤ q) (hhigh : q < 2 ^ 53) (hx : x < (q + 1) * 2 ^ k)
    (hnear : 2 * ((q + 1) * 2 ^ k) ≤ 2 * x + 2 ^ k) (htie : 2 * ((q + 1) * 2 ^ k) = 2 * x + 2 ^ k → q % 2 = 1) :
    nearest x = (q + 1) * 2 ^ k := by
  have hnext : (q + 1) * 2 ^ k = q * 2 ^ k + 2 ^ k := by rw [Nat.add_mul, Nat.one_mul]
  obtain ⟨r, rfl⟩ : ∃ r, x = q * 2 ^ k + r := Nat.exists_eq_add_of_le (by omega)
  rw [nearest_mul_add hlow hhigh (by omega), if_pos]
  rcases Nat.lt_or_ge (2 ^ k) (2 * r) with hr | hr
  · exact .inl hr
  · exact .inr ⟨by omega, htie (by omega)⟩

/-- What reads back as a double from 2⁵³ on rounds to it: above it, below it, and below it where the doubles are twice as
dense. -/
theorem nearest_of_readsAs {x : Nat} (hk : 0 < k) (hlow : 2 ^ 52 ≤ q) (hhigh : q < 2 ^ 53)
    (h : readsAs (q * 2 ^ k) x = true) : nearest x = q * 2 ^ k := by
  obtain ⟨⟨hbelow, habove⟩, hodd⟩ := near_of_readsAs hlow hhigh h
  rcases Nat.lt_or_ge x (q * 2 ^ k) with hx | hx
  · by_cases hpower : q = 2 ^ 52
    · obtain ⟨j, rfl⟩ := Nat.exists_eq_add_of_lt hk
      have hdense : q * 2 ^ (0 + j + 1) = (2 ^ 53 - 1 + 1) * 2 ^ j := by
        rw [hpower, Nat.zero_add, Nat.pow_succ']
        ring
      have hhalf : 2 ^ (0 + j + 1) = 2 * 2 ^ j := by rw [Nat.zero_add, Nat.pow_succ']
      rw [if_pos hpower] at hbelow
      rw [hdense] at hx ⊢
      exact nearest_of_below (by decide) (by decide) hx (by omega) (fun _ => by decide)
    · obtain ⟨p, rfl⟩ : ∃ p, q = p + 1 := Nat.exists_eq_add_of_le' (by omega)
      rw [if_neg hpower] at hbelow
      refine nearest_of_below (by omega) (by omega) hx (by omega) fun htie => ?_
      by_contra heven
      have hstrict := (hodd (by omega)).1
      omega
  · obtain ⟨r, rfl⟩ := Nat.exists_eq_add_of_le hx
    rw [nearest_mul_add hlow hhigh, if_neg]
    · rintro (hfar | ⟨htie, hq⟩)
      · omega
      · have hstrict := (hodd hq).2
        omega
    · have hpos : 0 < 2 ^ k := Nat.two_pow_pos k
      omega

end Rounding

/-- The doubles from 2⁵³ on are the even multiples of a number of 53 bits. -/
theorem exists_nearest_eq {n : Nat} (h : 2 ^ 53 ≤ n) :
    ∃ k q, nearest n = q * 2 ^ k ∧ 0 < k ∧ 2 ^ 52 ≤ q ∧ q < 2 ^ 53 := by
  obtain ⟨k, q, r, rfl, hlow, hhigh, hr⟩ := exists_eq_mul_add (n := n) (by omega)
  have hk : 0 < k := by
    rcases Nat.eq_zero_or_pos k with rfl | hk
    · omega
    · exact hk
  rw [nearest_mul_add hlow hhigh hr]
  split
  · by_cases hcarry : q + 1 = 2 ^ 53
    · refine ⟨k + 1, 2 ^ 52, ?_, by omega, by decide, by decide⟩
      rw [hcarry, Nat.pow_succ' (n := k)]
      ring
    · exact ⟨k, q + 1, rfl, hk, by omega, by omega⟩
  · exact ⟨k, q, rfl, hk, hlow, hhigh⟩

theorem le_nearest {n : Nat} (h : 2 ^ 53 ≤ n) : 2 ^ 53 ≤ nearest n := by
  obtain ⟨k, q, hnearest, hk, hlow, -⟩ := exists_nearest_eq h
  have hpower : 2 ^ 1 ≤ 2 ^ k := Nat.pow_le_pow_right (by decide) hk
  rw [hnearest]
  exact Nat.mul_le_mul hlow hpower

theorem readsAs_self (m : Nat) : readsAs m m = true := by
  have hpos : 0 < 1 <<< spacing m := by
    rw [Nat.one_shiftLeft]
    exact Nat.two_pow_pos _
  unfold readsAs
  dsimp only
  split <;> split <;> simp [hpos]

theorem readsAs_of_rounded? {m places x : Nat} (h : rounded? m places = some x) : readsAs m x = true := by
  unfold rounded? at h
  dsimp only at h
  split at h
  case h_1 hlow hhigh =>
    rw [Option.some.injEq] at h
    split at h
    · exact h ▸ hlow
    · exact h ▸ hhigh
  case h_2 hlow _ => exact Option.some.inj h ▸ hlow
  case h_3 _ hhigh => exact Option.some.inj h ▸ hhigh
  case h_4 => cases h

theorem readsAs_shortest {m : Nat} (h : 2 ^ 53 ≤ m) : readsAs m (shortest m) = true := by
  rw [shortest, if_neg (show ¬m < 0x20000000000000 from Nat.not_lt.mpr h)]
  cases hsearch : (List.range (Nat.toDigits 10 m).length).reverse.findSome? (rounded? m) with
  | none => exact readsAs_self m
  | some x =>
    obtain ⟨places, -, hplaces⟩ := List.exists_of_findSome?_eq_some hsearch
    exact readsAs_of_rounded? hplaces

/-- What is written for a double reads back as it. -/
theorem nearest_shortest (n : Nat) : nearest (shortest (nearest n)) = nearest n := by
  rcases Nat.lt_or_ge n (2 ^ 53) with h | h
  · rw [nearest_of_lt h, shortest_of_lt h, nearest_of_lt h]
  · have hreads := readsAs_shortest (le_nearest h)
    obtain ⟨k, q, hnearest, hk, hlow, hhigh⟩ := exists_nearest_eq h
    rw [hnearest] at hreads ⊢
    exact nearest_of_readsAs hk hlow hhigh hreads

theorem shortest_nearest_pos {n : Nat} (h : 0 < n) : 0 < shortest (nearest n) := by
  rcases Nat.lt_or_ge n (2 ^ 53) with hn | hn
  · rwa [nearest_of_lt hn, shortest_of_lt hn]
  · have hback := nearest_shortest n
    have hlarge := le_nearest hn
    rw [Nat.pos_iff_ne_zero]
    intro hzero
    rw [hzero, nearest_of_lt (by decide)] at hback
    omega

/-- Two integers that are the same as doubles. -/
def SameDouble (i j : Int) : Prop := (i < 0 ↔ j < 0) ∧ nearest i.natAbs = nearest j.natAbs

instance (i j : Int) : Decidable (SameDouble i j) := inferInstanceAs (Decidable (_ ∧ _))

theorem SameDouble.refl (i : Int) : SameDouble i i := ⟨Iff.rfl, rfl⟩

theorem SameDouble.symm {i j : Int} (h : SameDouble i j) : SameDouble j i := ⟨h.1.symm, h.2.symm⟩

theorem SameDouble.eq_of_lt {i j : Int} (h : SameDouble i j) (hi : i.natAbs < 2 ^ 53) : i = j := by
  obtain ⟨hsign, hnearest⟩ := h
  rw [nearest_of_lt hi] at hnearest
  rcases Nat.lt_or_ge j.natAbs (2 ^ 53) with hj | hj
  · rw [nearest_of_lt hj] at hnearest
    omega
  · have hlarge := le_nearest hj
    omega

theorem written_eq_iff {i j : Int} : written i = written j ↔ SameDouble i j := by
  constructor
  · intro h
    have hi := fun hi : 0 < i.natAbs => shortest_nearest_pos hi
    have hj := fun hj : 0 < j.natAbs => shortest_nearest_pos hj
    unfold written at h
    dsimp only at h
    have hparts : (i < 0 ↔ j < 0) ∧ shortest (nearest i.natAbs) = shortest (nearest j.natAbs) := by
      split at h <;> split at h <;> omega
    exact ⟨hparts.1, by rw [← nearest_shortest i.natAbs, hparts.2, nearest_shortest]⟩
  · rintro ⟨hsign, hnearest⟩
    unfold written
    simp only [hsign, hnearest]

end ArtifactTrust.Double
