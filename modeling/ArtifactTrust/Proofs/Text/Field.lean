import ArtifactTrust.Proofs.Text.Decimal
import Mathlib.Tactic.Ring

/-!
# Decimal fields

A field is a run of digits of a fixed width. It denotes a number (`Ascii.value`), and the number with zeros in front is the field
again (`Ascii.padded_value`, `Ascii.value_padded`), so fields of one width stand for the numbers below a power of ten. Their octets
are in the order of the numbers (`Ascii.octets_lt_iff`).
-/

namespace ArtifactTrust.Ascii

/-- The number that digits denote. -/
def value (cs : List Char) : Nat := Nat.ofDigitChars 10 cs 0

variable {cs ds : List Char} {width n : Nat}

theorem ofDigitChars_eq (cs : List Char) (n : Nat) : Nat.ofDigitChars 10 cs n = n * 10 ^ cs.length + value cs := by
  induction cs generalizing n with
  | nil => simp [value]
  | cons c cs ih =>
    rw [value, Nat.ofDigitChars_cons, Nat.ofDigitChars_cons, ih, ih (10 * 0 + _), List.length_cons, Nat.pow_succ]
    ring

theorem value_append (cs ds : List Char) : value (cs ++ ds) = value cs * 10 ^ ds.length + value ds := by
  rw [value, Nat.ofDigitChars_append, ofDigitChars_eq]
  rfl

/-- The first digit is the most significant one. -/
theorem value_cons (c : Char) (cs : List Char) : value (c :: cs) = (c.toNat - '0'.toNat) * 10 ^ cs.length + value cs := by
  rw [value, Nat.ofDigitChars_cons, ofDigitChars_eq, Nat.mul_zero, Nat.zero_add]

theorem value_lt (h : ∀ c ∈ cs, isDigit c = true) : value cs < 10 ^ cs.length := by
  induction cs with
  | nil => exact Nat.one_pos
  | cons c cs ih =>
    obtain ⟨hc, hcs⟩ := List.forall_mem_cons.mp h
    have hdigit := toNat_of_isDigit hc
    have hrest := ih hcs
    have hle : (c.toNat - '0'.toNat) * 10 ^ cs.length ≤ 9 * 10 ^ cs.length := by
      refine Nat.mul_le_mul_right _ ?_
      show c.toNat - 48 ≤ 9
      omega
    rw [value_cons, List.length_cons, Nat.pow_succ]
    omega

/-- Numbers in parts are compared part by part. -/
theorem mul_add_lt_iff {x y unit r s : Nat} (hr : r < unit) (hs : s < unit) :
    x * unit + r < y * unit + s ↔ x < y ∨ x = y ∧ r < s := by
  rcases Nat.lt_trichotomy x y with hlt | rfl | hgt
  · have hle : (x + 1) * unit ≤ y * unit := Nat.mul_le_mul_right unit hlt
    rw [Nat.add_mul] at hle
    omega
  · omega
  · have hle : (y + 1) * unit ≤ x * unit := Nat.mul_le_mul_right unit hgt
    rw [Nat.add_mul] at hle
    omega

/-- Of two fields of one width the first digits that differ tell the smaller number. -/
theorem value_cons_lt_iff {c d : Char} (hcs : ∀ e ∈ c :: cs, isDigit e = true) (hds : ∀ e ∈ d :: ds, isDigit e = true)
    (hlen : cs.length = ds.length) :
    value (c :: cs) < value (d :: ds) ↔ c.toNat < d.toNat ∨ c.toNat = d.toNat ∧ value cs < value ds := by
  obtain ⟨hc, hcs⟩ := List.forall_mem_cons.mp hcs
  obtain ⟨hd, hds⟩ := List.forall_mem_cons.mp hds
  have hcdigit := toNat_of_isDigit hc
  have hddigit := toNat_of_isDigit hd
  have hzero : '0'.toNat = 48 := rfl
  rw [value_cons, value_cons, hlen, hzero, mul_add_lt_iff (hlen ▸ value_lt hcs) (value_lt hds)]
  omega

theorem toNat_octet {c : Char} (h : isDigit c = true) : c.val.toUInt8.toNat = c.toNat := by
  have hdigit := toNat_of_isDigit h
  show c.toNat % 256 = c.toNat
  omega

/-- The octets of digits of one length, in front of the same octets, are in the order of the numbers. -/
theorem octets_lt_iff (hcs : ∀ c ∈ cs, isDigit c = true) (hds : ∀ d ∈ ds, isDigit d = true) (hlen : cs.length = ds.length)
    (rest : Bytes) :
    cs.map (fun c => c.val.toUInt8) ++ rest < ds.map (fun d => d.val.toUInt8) ++ rest ↔ value cs < value ds := by
  induction cs generalizing ds with
  | nil =>
    obtain rfl := List.length_eq_zero_iff.mp hlen.symm
    simp
  | cons c cs ih =>
    cases ds with
    | nil => simp at hlen
    | cons d ds =>
      have hlen := Nat.succ.inj hlen
      rw [value_cons_lt_iff hcs hds hlen]
      obtain ⟨hc, hcs⟩ := List.forall_mem_cons.mp hcs
      obtain ⟨hd, hds⟩ := List.forall_mem_cons.mp hds
      rw [List.map_cons, List.map_cons, List.cons_append, List.cons_append, List.cons_lt_cons_iff, ih hcs hds hlen,
        UInt8.lt_iff_toNat_lt, ← UInt8.toNat_inj, toNat_octet hc, toNat_octet hd]

/-- Digits of one length that denote the same number are the same. -/
theorem eq_of_value_eq (hcs : ∀ c ∈ cs, isDigit c = true) (hds : ∀ d ∈ ds, isDigit d = true) (hlen : cs.length = ds.length)
    (h : value cs = value ds) : cs = ds := by
  induction cs generalizing ds with
  | nil => exact (List.length_eq_zero_iff.mp hlen.symm).symm
  | cons c cs ih =>
    cases ds with
    | nil => simp at hlen
    | cons d ds =>
      have hlen := Nat.succ.inj hlen
      have hless := (value_cons_lt_iff hcs hds hlen).not.mp h.not_lt
      have hmore := (value_cons_lt_iff hds hcs hlen.symm).not.mp h.not_gt
      have hfirst : c = d := Char.toNat_inj.mp (by omega)
      rw [hfirst, ih (List.forall_mem_of_forall_mem_cons hcs) (List.forall_mem_of_forall_mem_cons hds) hlen (by omega)]

/-! ## Zeros in front -/

theorem length_padded (hwidth : 0 < width) (h : n < 10 ^ width) : (padded width n).length = width := by
  have hle := (Nat.length_toDigits_le_iff (b := 10) (by decide) hwidth).mpr h
  rw [padded, List.length_append, List.length_replicate]
  omega

theorem isDigit_of_mem_padded (width n : Nat) : ∀ c ∈ padded width n, isDigit c = true := by
  intro c hc
  rcases List.mem_append.mp hc with hzero | hdigit
  · rw [List.eq_of_mem_replicate hzero]
    rfl
  · exact isDigit_of_mem_toDigits hdigit

@[simp] theorem value_padded (width n : Nat) : value (padded width n) = n := by
  have hzeros : ∀ k, value (List.replicate k '0') = 0 := by
    intro k
    induction k with
    | zero => rfl
    | succ k ih =>
      rw [List.replicate_succ, value_cons, ih, Nat.sub_self, Nat.zero_mul]
  rw [padded, value_append, hzeros, Nat.zero_mul, Nat.zero_add]
  exact Nat.ofDigitChars_ten_toDigits

/-- A field is its number with zeros in front. -/
theorem padded_value (h : ∀ c ∈ cs, isDigit c = true) (hne : cs ≠ []) : padded cs.length (value cs) = cs := by
  refine eq_of_value_eq (isDigit_of_mem_padded _ _) h ?_ (value_padded _ _)
  exact length_padded (List.length_pos_iff.mpr hne) (value_lt h)

end ArtifactTrust.Ascii
