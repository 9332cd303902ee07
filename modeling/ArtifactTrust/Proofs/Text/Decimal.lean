import ArtifactTrust.Proofs.Bytes
import ArtifactTrust.Text.Ascii
import Mathlib.Data.List.Basic
import Mathlib.Tactic.IntervalCases

/-!
# Decimal text

The decimal text of a number is made of digits (`Ascii.isDigit_of_mem_toDigits`) and begins with a zero for zero only
(`Ascii.eq_zero_of_head?_toDigits`). So it ends where something else begins: a number in front of a space is told apart from what
comes after it (`Bytes.ofText_toString_append_inj`). An integer of 64 bits reads back from its text (`Int64Text.parse?_render`).
-/

namespace ArtifactTrust

namespace Ascii

/-- The digits of a number in decimal are digits. -/
theorem isDigit_of_mem_toDigits {n : Nat} {c : Char} (h : c ∈ Nat.toDigits 10 n) : isDigit c = true := by
  have hc := Nat.isDigit_of_mem_toDigits (by decide) (by decide) h
  rw [Char.isDigit, Bool.and_eq_true, decide_eq_true_eq, decide_eq_true_eq] at hc
  exact decide_eq_true hc

theorem toNat_of_isDigit {c : Char} (h : isDigit c = true) : 48 ≤ c.toNat ∧ c.toNat ≤ 57 := of_decide_eq_true h

/-- Only zero begins with the digit zero. The induction takes the last digit off. -/
theorem eq_zero_of_head?_toDigits {n : Nat} (h : (Nat.toDigits 10 n).head? = some '0') : n = 0 := by
  induction n using Nat.strongRecOn with
  | ind n ih =>
    by_cases hn : n < 10
    · rw [Nat.toDigits_of_lt_base hn, List.head?_cons, Option.some.injEq] at h
      interval_cases n <;> first | rfl | exact absurd h (by decide)
    · rw [Nat.toDigits_of_base_le (by decide) (by omega), List.head?_append_of_ne_nil _ Nat.toDigits_ne_nil] at h
      have hzero := ih (n / 10) (by omega) h
      omega

theorem toString_injective {n m : Nat} (h : toString n = toString m) : n = m := by
  rw [Nat.toString_eq_ofList_toDigits, Nat.toString_eq_ofList_toDigits, String.ofList_inj] at h
  have hvalue := congrArg (Nat.ofDigitChars 10 · 0) h
  simpa only [Nat.ofDigitChars_ten_toDigits] using hvalue

/-- An integer in decimal: a sign below zero, and the digits of its magnitude. -/
theorem toList_toString_int (n : Int) :
    (toString n).toList = (if n < 0 then ['-'] else []) ++ Nat.toDigits 10 n.natAbs := by
  cases n with
  | ofNat n =>
    show (toString n).toList = Nat.toDigits 10 n
    rw [Nat.toString_eq_ofList_toDigits, String.toList_ofList]
  | negSucc n =>
    rw [if_pos (Int.negSucc_lt_zero n)]
    show ("-" ++ toString (n + 1)).toList = '-' :: Nat.toDigits 10 (n + 1)
    rw [Nat.toString_eq_ofList_toDigits, String.toList_append, String.toList_ofList, String.toList_ofList]
    rfl

/-- The decimal text of a number begins with a digit. -/
theorem exists_toDigits_eq_cons (n : Nat) : ∃ c cs, Nat.toDigits 10 n = c :: cs ∧ isDigit c = true := by
  obtain ⟨c, cs, hcs⟩ := List.exists_cons_of_ne_nil (Nat.toDigits_ne_nil (b := 10) (n := n))
  exact ⟨c, cs, hcs, isDigit_of_mem_toDigits (hcs ▸ List.mem_cons_self)⟩

theorem digit?_of_isDigit {c : Char} (h : isDigit c = true) : digit? c = some (c.toNat - '0'.toNat) :=
  if_pos (of_decide_eq_true h)

/-- Digits after a number go on with it. -/
theorem foldl_digit? {cs : List Char} (h : ∀ c ∈ cs, isDigit c = true) (n : Nat) :
    cs.foldl (fun n c => n.bind fun n => (digit? c).map fun d => n * 10 + d) (some n) =
      some (Nat.ofDigitChars 10 cs n) := by
  induction cs generalizing n with
  | nil => rfl
  | cons c cs ih =>
    obtain ⟨hc, hcs⟩ := List.forall_mem_cons.mp h
    rw [List.foldl_cons, digit?_of_isDigit hc, Nat.ofDigitChars_cons, Nat.mul_comm 10 n]
    exact ih hcs _

/-- The decimal text of a number denotes it. -/
theorem number?_toDigits (n : Nat) : number? (Nat.toDigits 10 n) = some n := by
  have hne : (Nat.toDigits 10 n).isEmpty ≠ true := by simp [Nat.toDigits_ne_nil]
  rw [number?, if_neg hne, foldl_digit? fun c => isDigit_of_mem_toDigits, Nat.ofDigitChars_ten_toDigits]

end Ascii

/-- An integer of 64 bits in decimal reads back. -/
theorem Int64Text.parse?_render (n : Int64) : parse? (render n) = some n := by
  have hlower : -0x8000000000000000 ≤ n.toInt := n.le_toInt
  have hupper : n.toInt < 0x8000000000000000 := n.toInt_lt
  unfold parse? render
  rw [Ascii.toList_toString_int]
  split
  rename_i negative digits hsplit
  -- The digits of an integer that is not negative begin with no sign.
  have hdigits : negative = decide (n.toInt < 0) ∧ digits = Nat.toDigits 10 n.toInt.natAbs := by
    by_cases hneg : n.toInt < 0
    · rw [if_pos hneg] at hsplit
      rw [decide_eq_true hneg]
      exact ⟨(Prod.mk.inj hsplit).1.symm, (Prod.mk.inj hsplit).2.symm⟩
    · obtain ⟨c, cs, hcs, hc⟩ := Ascii.exists_toDigits_eq_cons n.toInt.natAbs
      rw [if_neg hneg, List.nil_append, hcs] at hsplit
      rw [decide_eq_false hneg, hcs]
      split at hsplit
      case h_1 hminus =>
        obtain ⟨rfl, -⟩ := List.cons.inj hminus
        exact absurd hc (by decide)
      case h_2 hplus =>
        obtain ⟨rfl, -⟩ := List.cons.inj hplus
        exact absurd hc (by decide)
      case h_3 => exact ⟨(Prod.mk.inj hsplit).1.symm, (Prod.mk.inj hsplit).2.symm⟩
  obtain ⟨rfl, rfl⟩ := hdigits
  have hvalue : (if decide (n.toInt < 0) then -(n.toInt.natAbs : Int) else n.toInt.natAbs) = n.toInt := by
    simp only [decide_eq_true_eq]
    split <;> omega
  simp only [Ascii.number?_toDigits, bind, Option.bind, hvalue, Int64.ofInt_toInt]
  rw [if_pos ⟨hlower, hupper⟩]

/-- There is no space in the decimal text of a number. -/
theorem Bytes.space_notMem_ofText_toString (n : Nat) : 0x20 ∉ ofText (toString n) := by
  have hdigits : ∀ c ∈ Nat.toDigits 10 n, 48 ≤ c.toNat ∧ c.toNat ≤ 57 := fun c hc =>
    Ascii.toNat_of_isDigit (Ascii.isDigit_of_mem_toDigits hc)
  rw [Nat.toString_eq_ofList_toDigits, ofText_ofAscii fun c hc => Nat.lt_of_le_of_lt (hdigits c hc).2 (by decide)]
  rintro hspace
  obtain ⟨c, hc, hoctet⟩ := List.mem_map.mp hspace
  have hnat : c.toNat % 256 = 0x20 := congrArg UInt8.toNat hoctet
  have hbounds := hdigits c hc
  omega

/-- A number and a space in front of octets: both the number and the octets can be told. -/
theorem Bytes.ofText_toString_append_inj {n m : Nat} {a b : Bytes} :
    ofText (toString n) ++ 0x20 :: a = ofText (toString m) ++ 0x20 :: b ↔ n = m ∧ a = b := by
  constructor
  · intro h
    -- The first space is in the same place on both sides.
    have hplace : (ofText (toString n)).length = (ofText (toString m)).length := by
      have hindex := congrArg (List.idxOf 0x20) h
      rwa [List.idxOf_append_of_notMem (space_notMem_ofText_toString n),
        List.idxOf_append_of_notMem (space_notMem_ofText_toString m), List.idxOf_cons_self, List.idxOf_cons_self] at hindex
    obtain ⟨hn, hrest⟩ := List.append_inj h hplace
    exact ⟨Ascii.toString_injective (ofText_injective hn), (List.cons.inj hrest).2⟩
  · rintro ⟨rfl, rfl⟩
    rfl

end ArtifactTrust
