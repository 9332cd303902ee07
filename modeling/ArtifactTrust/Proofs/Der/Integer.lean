import ArtifactTrust.Der.Content
import ArtifactTrust.Proofs.Bytes
import Mathlib.Tactic.Linarith
import Mathlib.Tactic.Ring

/-!
# Integers

The octets of an integer are one word in two's complement (`Content.signed`). Main statement: one to eight octets are read, as the
number of this word, and no others; the same comes out in words of 64 bits that begin as all ones or zeros and have the octets
shifted in (`Content.wordInteger`), where no shift loses a bit of the number; an octet that only repeats the sign changes nothing,
and every integer of 64 bits is read from some octets (`Content.integer_exact`).
-/

namespace ArtifactTrust.Der.Content

/-- The number that octets denote in two's complement: all their bits as one word, read with a sign. -/
def signed (b : Bytes) : Int := (BitVec.ofNat (8 * b.length) (Bytes.toNat b)).toInt

/-- An octet of nothing but the sign of the octets that begin with this one. -/
def signOctet (first : UInt8) : UInt8 := if first < 0x80 then 0x00 else 0xff

variable {first octet : UInt8} {rest b : Bytes} {n : Int}

/-! ## The value -/

theorem toNat_lt_two_pow (b : Bytes) : Bytes.toNat b < 2 ^ (8 * b.length) := by
  rw [Nat.pow_mul]
  exact Bytes.toNat_lt b

theorem le_signed (b : Bytes) : -2 ^ (8 * b.length - 1) ≤ signed b := BitVec.le_toInt _

theorem signed_lt (b : Bytes) : signed b < 2 ^ (8 * b.length - 1) := BitVec.toInt_lt

/-- The top bit of the first octet counts negative. -/
theorem signed_cons (first : UInt8) (rest : Bytes) :
    signed (first :: rest) =
      (Bytes.toNat (first :: rest) : Int) - (if first < 0x80 then 0 else 256 ^ (first :: rest).length : Nat) := by
  have hrest := Bytes.toNat_lt rest
  have hvalue := Bytes.toNat_cons first rest
  have hpow : 256 ^ (first :: rest).length = 256 * 256 ^ rest.length := by
    rw [List.length_cons, Nat.pow_succ, Nat.mul_comm]
  have hword : 2 ^ (8 * (first :: rest).length) = 256 ^ (first :: rest).length := Nat.pow_mul 2 8 _
  have hlt : first < 0x80 ↔ first.toNat < 128 := UInt8.lt_iff_toNat_lt
  rw [signed, BitVec.toInt_eq_toNat_cond, BitVec.toNat_ofNat, Nat.mod_eq_of_lt (toNat_lt_two_pow _), hword, hpow]
  -- The top bit is set exactly if the number is in the upper half.
  generalize 256 ^ rest.length = unit at *
  by_cases hfirst : first < 0x80
  · have hsmall : (first.toNat + 1) * unit ≤ 128 * unit := Nat.mul_le_mul_right unit (hlt.mp hfirst)
    rw [if_pos hfirst, if_pos (by rw [hvalue]; linarith)]
    simp
  · have hlarge : 128 * unit ≤ first.toNat * unit := Nat.mul_le_mul_right unit (Nat.not_lt.mp (hlt.not.mp hfirst))
    rw [if_neg hfirst, if_neg (by rw [hvalue]; linarith)]

/-- Every further octet is one more digit to the base 256. -/
theorem signed_concat (h : b ≠ []) (octet : UInt8) : signed (b ++ [octet]) = signed b * 256 + octet.toNat := by
  obtain ⟨first, rest, rfl⟩ := List.exists_cons_of_ne_nil h
  rw [List.cons_append, signed_cons, signed_cons, ← List.cons_append, Bytes.toNat_concat, List.length_append,
    List.length_singleton, Nat.pow_succ]
  split <;> push_cast <;> ring

/-- An octet of nothing but the sign in front of the octets does not change the number. -/
theorem signed_signOctet (first : UInt8) (rest : Bytes) : signed (signOctet first :: first :: rest) = signed (first :: rest) := by
  rw [signed_cons, signed_cons, Bytes.toNat_cons (signOctet first), signOctet]
  by_cases hfirst : first < 0x80
  · simp [hfirst]
  · have hpow : 256 ^ (0xff :: first :: rest : Bytes).length = 256 * 256 ^ (first :: rest).length := by
      rw [List.length_cons, Nat.pow_succ, Nat.mul_comm]
    rw [if_neg hfirst, if_neg (by decide), if_neg hfirst, hpow]
    simp
    ring

/-! ## Reading -/

theorem integer_eq_ok_iff : integer b = .ok n ↔ 1 ≤ b.length ∧ b.length ≤ 8 ∧ n = signed b := by
  cases b with
  | nil => simp [integer]
  | cons first rest =>
    have hpow : (1 <<< (8 * (first :: rest).length) : Nat) = 256 ^ (first :: rest).length := by
      rw [Nat.one_shiftLeft, Nat.pow_mul]
    rw [integer, signed_cons, hpow]
    by_cases hlen : 8 < (first :: rest).length
    · rw [if_pos hlen]
      simp only [reduceCtorEq, false_iff]
      omega
    · have hfits : 1 ≤ (first :: rest).length ∧ (first :: rest).length ≤ 8 := ⟨by simp, Nat.not_lt.mp hlen⟩
      rw [if_neg hlen, ← and_assoc, and_iff_right hfits]
      split <;> simp [eq_comm]

/-! ## Words of 64 bits -/

/-- Octets shifted into a word with a sign, one after the other. -/
def shiftSigned (word : Int64) (b : Bytes) : Int64 := b.foldl (fun word octet => word <<< 8 ||| octet.toUInt64.toInt64) word

/-- The octets in a word that begins as all ones or all zeros, as the top bit says. -/
def signedWord : Bytes → Int64
  | [] => 0
  | first :: rest => shiftSigned (if first &&& 0x80 != 0 then -1 else 0) (first :: rest)

/-- An integer of at most eight octets, in words of 64 bits. -/
def wordInteger (b : Bytes) : Except Malformed Int64 :=
  if b.isEmpty then .error .emptyInteger
  else if 8 < b.length then .error (.wideInteger b.length)
  else .ok (signedWord b)

/-- Shifting does not look at the sign. -/
theorem toUInt64_shiftSigned (word : Int64) (b : Bytes) :
    (shiftSigned word b).toUInt64 = Bytes.shiftInto word.toUInt64 b := by
  induction b generalizing word with
  | nil => rfl
  | cons octet b ih => exact ih _

theorem signedWord_concat (h : b ≠ []) (octet : UInt8) :
    signedWord (b ++ [octet]) = signedWord b <<< 8 ||| octet.toUInt64.toInt64 := by
  obtain ⟨first, rest, rfl⟩ := List.exists_cons_of_ne_nil h
  rw [List.cons_append, signedWord, signedWord, ← List.cons_append, shiftSigned, List.foldl_append]
  rfl

theorem topBit_iff (first : UInt8) : (first &&& 0x80 != 0) = true ↔ ¬ first < 0x80 := by
  revert first
  exact Bytes.forall_octet (by decide +kernel)

/-- What is shifted out at the top are copies of the sign, so the word and the number agree modulo 2 to the 64, however many
octets there are. -/
theorem toInt_signedWord_eq_bmod (h : b ≠ []) : (signedWord b).toInt = (signed b).bmod (2 ^ 64) := by
  obtain ⟨first, rest, rfl⟩ := List.exists_cons_of_ne_nil h
  have hword : (signedWord (first :: rest)).toInt = ((signedWord (first :: rest)).toUInt64.toNat : Int).bmod (2 ^ 64) :=
    BitVec.toInt_eq_toNat_bmod _
  rw [hword, signedWord, toUInt64_shiftSigned, Bytes.toNat_shiftInto, signed_cons,
    Int.natCast_emod, Int.emod_bmod]
  by_cases hfirst : first < 0x80
  · have hseed : (first &&& 0x80 != 0) = false := by simpa [hfirst] using topBit_iff first
    have hzeros : (0 : Int64).toUInt64.toNat = 0 := rfl
    rw [if_neg (Bool.not_eq_true _ ▸ hseed), if_pos hfirst, hzeros]
    simp
  · have hseed : (first &&& 0x80 != 0) = true := (topBit_iff first).mpr hfirst
    have hones : (-1 : Int64).toUInt64.toNat = 2 ^ 64 - 1 := rfl
    have hsplit : (((2 ^ 64 - 1) * 256 ^ (first :: rest).length + Bytes.toNat (first :: rest) : Nat) : Int) =
        (Bytes.toNat (first :: rest) - (256 ^ (first :: rest).length : Nat)) +
          (2 ^ 64 : Nat) * (256 ^ (first :: rest).length : Nat) := by
      push_cast
      ring
    rw [if_pos hseed, if_neg hfirst, hones, hsplit, Int.add_mul_bmod_self_left]

/-- Of at most eight octets the word holds the number: it has room. -/
theorem toInt_signedWord (h : b ≠ []) (hlen : b.length ≤ 8) : (signedWord b).toInt = signed b := by
  have hlower := le_signed b
  have hupper := signed_lt b
  have hroom : (2 : Int) ^ (8 * b.length - 1) ≤ 2 ^ 63 := pow_le_pow_right₀ (by norm_num) (by omega)
  rw [toInt_signedWord_eq_bmod h]
  exact Int.bmod_eq_of_le (by norm_num; linarith) (by norm_num; linarith)

theorem map_toInt_wordInteger (b : Bytes) : (wordInteger b).map Int64.toInt = integer b := by
  cases b with
  | nil => rfl
  | cons first rest =>
    rw [wordInteger, List.isEmpty_cons, if_neg Bool.false_ne_true]
    by_cases hlen : 8 < (first :: rest).length
    · rw [if_pos hlen, integer, if_pos hlen]
      rfl
    · have hfits := Nat.not_lt.mp hlen
      rw [if_neg hlen, integer_eq_ok_iff.mpr ⟨by simp, hfits, rfl⟩, ← toInt_signedWord (List.cons_ne_nil _ _) hfits]
      rfl

/-- The eight octets of a word are read as this word. -/
theorem integer_ofNat_word (n : Int64) : integer (Bytes.ofNat 8 n.toUInt64.toNat) = .ok n.toInt := by
  have hlen : (Bytes.ofNat 8 n.toUInt64.toNat).length = 8 := by simp [Bytes.ofNat]
  have hvalue : Bytes.toNat (Bytes.ofNat 8 n.toUInt64.toNat) = n.toUInt64.toNat := Bytes.toNat_ofNat n.toUInt64.toNat_lt
  refine integer_eq_ok_iff.mpr ⟨by omega, by omega, ?_⟩
  rw [signed, hvalue, hlen]
  show n.toBitVec.toInt = (BitVec.ofNat 64 n.toBitVec.toNat).toInt
  rw [BitVec.ofNat_toNat, BitVec.setWidth_eq]

/-- What octets are an integer, and which one. One to eight octets are read, as the number that they denote in two's complement,
and no others are. The same comes out of words of 64 bits: whenever an octet is shifted in the word is the number so far, so no
bit of it is lost, at the eighth octet as little as at the first. An octet that only repeats the sign changes nothing where there
is room for it, and every integer of 64 bits is the number of some octets. -/
theorem integer_exact :
    (∀ b n, integer b = .ok n ↔ 1 ≤ b.length ∧ b.length ≤ 8 ∧ n = signed b) ∧
    (∀ b, (wordInteger b).map Int64.toInt = integer b) ∧
    (∀ front octet, front ≠ [] → front.length < 8 →
      signedWord (front ++ [octet]) = signedWord front <<< 8 ||| octet.toUInt64.toInt64 ∧
      (signedWord (front ++ [octet])).toInt = (signedWord front).toInt * 256 + octet.toNat) ∧
    (∀ first rest, (first :: rest).length < 8 →
      integer (signOctet first :: first :: rest) = integer (first :: rest)) ∧
    ∀ n : Int64, ∃ b, integer b = .ok n.toInt := by
  refine ⟨fun b n => integer_eq_ok_iff, map_toInt_wordInteger, ?shift, ?sign, fun n => ⟨_, integer_ofNat_word n⟩⟩
  case shift =>
    intro front octet hne hlen
    refine ⟨signedWord_concat hne octet, ?_⟩
    have hfits : (front ++ [octet]).length ≤ 8 := by
      rw [List.length_append, List.length_singleton]
      omega
    rw [toInt_signedWord (by simp) hfits, toInt_signedWord hne hlen.le, signed_concat hne]
  case sign =>
    intro first rest hlen
    have hshort : integer (first :: rest) = .ok (signed (first :: rest)) :=
      integer_eq_ok_iff.mpr ⟨by simp, hlen.le, rfl⟩
    have hlong : integer (signOctet first :: first :: rest) = .ok (signed (signOctet first :: first :: rest)) :=
      integer_eq_ok_iff.mpr ⟨by simp, hlen, rfl⟩
    rw [hlong, hshort, signed_signOctet]

/-- The least integer of 64 bits. -/
def leastOctets : Bytes := [0x80, 0x00, 0x00, 0x00, 0x00, 0x00, 0x00, 0x00]

theorem integer_exact_samples :
    integer [0xff, 0x7f] = .ok (-129) ∧ integer [0xff, 0xff, 0x7f] = integer [0xff, 0x7f] ∧
      integer leastOctets = .ok (-2 ^ 63) ∧
      (signedWord leastOctets).toInt = (signedWord (leastOctets.take 7)).toInt * 256 + (0x00 : UInt8).toNat ∧
      ¬ ∃ n, integer (0x00 :: leastOctets) = .ok n := by
  refine ⟨by decide +kernel, ?_, by decide +kernel, ?_, ?_⟩
  · exact integer_exact.2.2.2.1 0xff [0x7f] (by decide)
  · exact (integer_exact.2.2.1 (leastOctets.take 7) 0x00 (by decide) (by decide)).2
  · simp [integer_exact.1, leastOctets]

end ArtifactTrust.Der.Content
