import ArtifactTrust.Der.Length
import ArtifactTrust.Proofs.Bytes

/-!
# Length octets

`Length.Denotes` says which octets denote a length: one octet below 128, or an octet that counts the one to six big-endian
octets after it. Reading accepts exactly these (`Length.read_append`, `Length.denotes_of_read`); of all that denote a length,
those that `Length.encode` writes are the fewest, and no others are as few (`Length.Denotes.length_encode_le`,
`Length.Denotes.eq_encode`). More than six octets are written for a length from 2 to the 48 on, and these are refused
(`Length.read_encode_of_ge`).
-/

namespace ArtifactTrust.Der.Length

/-- Octets that denote a length. -/
inductive Denotes : Bytes → Nat → Prop where
  /-- An octet below 128 is the length itself. -/
  | short {octet : UInt8} (below : octet.toNat < 0x80) : Denotes [octet] octet.toNat
  /-- Above 128, an octet counts the octets of the length, of which there are at most six. -/
  | long {first : UInt8} {octets : Bytes} (counted : first.toNat = 0x80 + octets.length) (some : 1 ≤ octets.length)
      (atMost : octets.length ≤ 6) : Denotes (first :: octets) (Bytes.toNat octets)

/-- How many octets the first octet of a length announces. -/
def announced (first : UInt8) : Nat := if first < 0x80 then 0 else first.toNat - 0x80

variable {len b : Bytes} {n m taken : Nat}

/-! ## Reading -/

/-- A length is read off the front, whatever comes after it. -/
theorem read_append (h : Denotes len n) (rest : Bytes) : read (len ++ rest) = (.ok n, len.length) := by
  cases h with
  | @short octet below =>
    have hlt : octet < 0x80 := UInt8.lt_iff_toNat_lt.mpr below
    rw [List.singleton_append, read, if_pos hlt]
    rfl
  | @long first octets counted some atMost =>
    have hge : ¬ first < 0x80 := by
      rw [UInt8.lt_iff_toNat_lt]
      show ¬ first.toNat < 128
      omega
    have hcount : first.toNat - 128 = octets.length := by omega
    rw [List.cons_append, read, if_neg hge, hcount, if_neg (by omega), if_neg (by unfold maxLengthOctets; omega),
      if_neg (by simp), List.take_left', List.length_cons, Nat.add_comm]
    rfl

/-- What is read as a length stands at the front and denotes it. -/
theorem denotes_of_read (h : read b = (.ok n, taken)) : taken ≤ b.length ∧ Denotes (b.take taken) n := by
  unfold read at h
  split at h
  · cases h
  · rename_i first rest
    split at h
    · rename_i hlt
      cases h
      exact ⟨by simp, .short (UInt8.lt_iff_toNat_lt.mp hlt)⟩
    · rename_i hge
      have hfirst : 128 ≤ first.toNat := by
        rw [UInt8.lt_iff_toNat_lt] at hge
        exact Nat.not_lt.mp hge
      dsimp only at h
      split at h
      · cases h
      split at h
      · cases h
      split at h
      · cases h
      rename_i hzero hmost hrest
      unfold maxLengthOctets at hmost
      have hlen : (rest.take (first.toNat - 128)).length = first.toNat - 128 := by
        rw [List.length_take]
        omega
      rw [Prod.mk.injEq, Except.ok.injEq] at h
      obtain ⟨rfl, rfl⟩ := h
      refine ⟨by rw [List.length_cons]; omega, ?_⟩
      rw [Nat.add_comm 1, List.take_succ_cons]
      exact .long (by omega) (by omega) (by omega)

/-! ## Writing -/

theorem toNat_significant (n : Nat) : Bytes.toNat (significant n) = n := by
  induction n using significant.induct with
  | case1 => rw [significant, if_pos rfl, Bytes.toNat_nil]
  | case2 n hn ih =>
    rw [significant, if_neg hn, Bytes.toNat_concat, ih, UInt8.toNat_ofNat']
    omega

/-- A number has as many octets as it takes for its size. -/
theorem length_significant_le_iff {k : Nat} : (significant n).length ≤ k ↔ n < 256 ^ k := by
  induction n using significant.induct generalizing k with
  | case1 =>
    rw [significant, if_pos rfl]
    exact iff_of_true (Nat.zero_le k) (Nat.pow_pos (by decide))
  | case2 n hn ih =>
    rw [significant, if_neg hn, List.length_append, List.length_singleton]
    cases k with
    | zero => simp [hn]
    | succ k => rw [Nat.add_le_add_iff_right, ih, Nat.div_lt_iff_lt_mul (by decide), Nat.pow_succ]

theorem length_significant_pos (h : n ≠ 0) : 1 ≤ (significant n).length := by
  rw [significant, if_neg h, List.length_append, List.length_singleton]
  omega

/-- The octets of a number are those of a wide enough word without the zeros in front. -/
theorem significant_eq_dropWhile {width : Nat} (h : n < 256 ^ width) :
    significant n = (Bytes.ofNat width n).dropWhile (· == 0) := by
  induction width generalizing n with
  | zero =>
    have hn : n = 0 := by simpa using h
    rw [hn, significant, if_pos rfl]
    rfl
  | succ width ih =>
    rw [Nat.pow_succ] at h
    have hrest : n / 256 < 256 ^ width := Nat.div_lt_of_lt_mul (by rwa [Nat.mul_comm])
    rw [Bytes.ofNat, List.dropWhile_append, ← ih hrest]
    by_cases hfront : n / 256 = 0
    · -- The octet is the only one, or zero itself.
      have hlast : (UInt8.ofNat n).toNat = n := by
        rw [UInt8.toNat_ofNat']
        omega
      have hzero : UInt8.ofNat n = 0 ↔ n = 0 := by rw [← UInt8.toNat_inj, hlast]; rfl
      have hnil : significant 0 = [] := by rw [significant, if_pos rfl]
      rw [significant, hfront, hnil]
      by_cases hn : n = 0 <;> simp [hn, hzero]
    · have hne : significant (n / 256) ≠ [] := List.length_pos_iff.mp (length_significant_pos hfront)
      rw [significant, if_neg (by omega), if_neg (by simpa using hne)]

theorem encode_of_lt (h : n < 128) : encode n = [UInt8.ofNat n] := if_pos h

theorem encode_of_ge (h : 128 ≤ n) : encode n = UInt8.ofNat (128 + (significant n).length) :: significant n :=
  if_neg (Nat.not_lt.mpr h)

theorem length_encode_of_lt (h : n < 128) : (encode n).length = 1 := by
  rw [encode_of_lt h, List.length_singleton]

theorem length_encode_of_ge (h : 128 ≤ n) : (encode n).length = (significant n).length + 1 := by
  rw [encode_of_ge h, List.length_cons]

theorem length_encode_pos (n : Nat) : 1 ≤ (encode n).length := by
  unfold encode
  split <;> simp

/-- A length is written in octets that denote it. -/
theorem denotes_encode (h : n < 256 ^ 6) : Denotes (encode n) n := by
  by_cases hn : n < 128
  · have ho : (UInt8.ofNat n).toNat = n := by rw [UInt8.toNat_ofNat']; omega
    have hd : Denotes [UInt8.ofNat n] (UInt8.ofNat n).toNat := .short (by omega)
    rwa [ho, ← encode_of_lt hn] at hd
  · have hmost := length_significant_le_iff.mpr h
    have hcount : (UInt8.ofNat (128 + (significant n).length)).toNat = 128 + (significant n).length := by
      rw [UInt8.toNat_ofNat']
      omega
    have hd := Denotes.long hcount (length_significant_pos (by omega)) hmost
    rwa [toNat_significant, ← encode_of_ge (by omega)] at hd

/-- More than six octets are announced for a length from 2 to the 48 on, and refused. -/
theorem read_encode_of_ge (h : 256 ^ 6 ≤ n) (hword : n < 256 ^ 8) (rest : Bytes) :
    read (encode n ++ rest) = (.error .longLength, 1) := by
  have hmany : 6 < (significant n).length := by
    rw [← Nat.not_le, length_significant_le_iff]
    exact Nat.not_lt.mpr h
  have hmost : (significant n).length ≤ 8 := length_significant_le_iff.mpr hword
  have hcount : (UInt8.ofNat (128 + (significant n).length)).toNat = 128 + (significant n).length := by
    rw [UInt8.toNat_ofNat']
    omega
  have hlong : ¬ UInt8.ofNat (128 + (significant n).length) < 0x80 := by
    rw [UInt8.lt_iff_toNat_lt, hcount]
    show ¬ 128 + (significant n).length < 128
    omega
  rw [encode_of_ge (Nat.le_trans (by decide) h), List.cons_append, read, if_neg hlong, hcount, Nat.add_sub_cancel_left,
    if_neg (by omega), if_pos (by unfold maxLengthOctets; omega)]

/-- A smaller length takes no more octets. -/
theorem length_encode_mono (h : n ≤ m) : (encode n).length ≤ (encode m).length := by
  by_cases hn : n < 128
  · rw [length_encode_of_lt hn]
    exact length_encode_pos m
  · rw [length_encode_of_ge (by omega), length_encode_of_ge (by omega), Nat.add_le_add_iff_right, length_significant_le_iff]
    exact Nat.lt_of_le_of_lt h (length_significant_le_iff.mp (Nat.le_refl _))

namespace Denotes

/-- Six octets denote lengths below 2 to the 48. -/
theorem lt (h : Denotes len n) : n < 256 ^ 6 := by
  cases h with
  | short below => exact Nat.lt_trans below (by decide)
  | long counted some atMost => exact Nat.lt_of_lt_of_le (Bytes.toNat_lt _) (Nat.pow_le_pow_right (by decide) atMost)

theorem length_le (h : Denotes len n) : len.length ≤ 7 := by
  cases h with
  | short below => rw [List.length_singleton]; omega
  | long counted some atMost => rw [List.length_cons]; omega

/-- The first octet of a length announces all the others. -/
theorem exists_eq_cons (h : Denotes len n) : ∃ first octets, len = first :: octets ∧ octets.length = announced first := by
  cases h with
  | @short octet below =>
    exact ⟨octet, [], rfl, (if_pos (UInt8.lt_iff_toNat_lt.mpr below)).symm⟩
  | @long first octets counted some atMost =>
    have hlong : ¬ first < 0x80 := by
      rw [UInt8.lt_iff_toNat_lt]
      show ¬ first.toNat < 128
      omega
    exact ⟨first, octets, rfl, by rw [announced, if_neg hlong]; omega⟩

/-- No octets that denote a length are fewer than those that are written. -/
theorem length_encode_le (h : Denotes len n) : (encode n).length ≤ len.length := by
  cases h with
  | short below => exact Nat.le_of_eq (length_encode_of_lt below)
  | @long first octets counted some atMost =>
    rw [List.length_cons]
    by_cases hn : Bytes.toNat octets < 128
    · rw [length_encode_of_lt hn]
      omega
    · rw [length_encode_of_ge (by omega), Nat.add_le_add_iff_right, length_significant_le_iff]
      exact Bytes.toNat_lt octets

/-- No others are as few. -/
theorem eq_encode (h : Denotes len n) (hfew : len.length ≤ (encode n).length) : len = encode n := by
  have hlen := Nat.le_antisymm hfew h.length_encode_le
  cases h with
  | short below => rw [encode_of_lt below, UInt8.ofNat_toNat]
  | @long first octets counted some atMost =>
    by_cases hn : Bytes.toNat octets < 128
    · -- Long octets are at least two, one would do.
      rw [length_encode_of_lt hn, List.length_cons] at hlen
      omega
    · rw [length_encode_of_ge (by omega), List.length_cons, Nat.add_right_cancel_iff] at hlen
      have hsame : octets = significant (Bytes.toNat octets) := Bytes.toNat_injective hlen (toNat_significant _).symm
      rw [encode_of_ge (by omega), ← hsame, ← counted, UInt8.ofNat_toNat]

end Denotes

end ArtifactTrust.Der.Length
