import ArtifactTrust.Bytes
import Mathlib.Algebra.Group.Nat.Defs
import Mathlib.Data.List.Induction

/-!
# Octets as numbers and as text

What is checked of the 256 octets holds of every octet (`Bytes.forall_octet`). Octets of one length denote different numbers
(`Bytes.toNat_injective`), all of them below the power of 256 that the length gives (`Bytes.toNat_lt`), and every number below it
is the number of its own octets (`Bytes.toNat_ofNat`). Octets that are shifted into a word of 64 bits, one after the other, give their number as far as there is
room (`Bytes.toNat_shiftInto`). The octets of a text read back as this text (`Bytes.text?_ofText`), so texts with the same octets
are the same (`Bytes.ofText_injective`).
-/

namespace ArtifactTrust.Bytes

theorem forall_octet {p : UInt8 → Prop} (h : ∀ n < 256, p (UInt8.ofNat n)) (octet : UInt8) : p octet := by
  have hoctet := h octet.toNat octet.toNat_lt
  rwa [UInt8.ofNat_toNat] at hoctet

@[simp] theorem toNat_nil : toNat [] = 0 := rfl

/-- The last octet is the least significant one. -/
@[simp] theorem toNat_concat (b : Bytes) (octet : UInt8) : toNat (b ++ [octet]) = toNat b * 256 + octet.toNat := by
  rw [toNat, List.foldl_append]
  rfl

/-- The first octet is the most significant one. -/
theorem toNat_cons (octet : UInt8) (b : Bytes) : toNat (octet :: b) = octet.toNat * 256 ^ b.length + toNat b := by
  induction b using List.reverseRecOn with
  | nil => simp [toNat]
  | append_singleton b last ih =>
    rw [← List.cons_append, toNat_concat, toNat_concat, ih, List.length_append, List.length_singleton, Nat.pow_succ,
      Nat.add_mul, Nat.mul_assoc, Nat.add_assoc]

/-- Octets have room for a power of 256. -/
theorem one_shiftLeft_octets (width : Nat) : 1 <<< (8 * width) = 256 ^ width := by
  rw [Nat.one_shiftLeft, Nat.pow_mul]

theorem toNat_lt (b : Bytes) : toNat b < 256 ^ b.length := by
  rw [← one_shiftLeft_octets]
  exact toNat_lt_shift b

/-- Octets of one length that denote the same number are the same. -/
theorem toNat_injective {a b : Bytes} (hlen : a.length = b.length) (h : toNat a = toNat b) : a = b := by
  induction a using List.reverseRecOn generalizing b with
  | nil => exact (List.length_eq_zero_iff.mp hlen.symm).symm
  | append_singleton a x ih =>
    cases b using List.reverseRecOn with
    | nil => simp at hlen
    | append_singleton b y =>
      rw [List.length_append, List.length_append, List.length_singleton, List.length_singleton] at hlen
      rw [toNat_concat, toNat_concat] at h
      have hx := x.toNat_lt
      have hy := y.toNat_lt
      have hlast : x = y := UInt8.toNat_inj.mp (by omega)
      have hinit : a = b := ih (by omega) (by omega)
      rw [hinit, hlast]

/-- The octets of a number that has room in them denote it. -/
theorem toNat_ofNat {width n : Nat} (h : n < 256 ^ width) : toNat (ofNat width n) = n := by
  induction width generalizing n with
  | zero =>
    have hn : n = 0 := by simpa using h
    rw [hn]
    rfl
  | succ width ih =>
    rw [Nat.pow_succ] at h
    have hrest : n / 256 < 256 ^ width := Nat.div_lt_of_lt_mul (by rwa [Nat.mul_comm])
    have hlast : (UInt8.ofNat n).toNat = n % 256 := UInt8.toNat_ofNat'
    rw [ofNat, toNat_concat, ih hrest, hlast]
    omega

/-- Octets shifted into a word of 64 bits, one after the other. -/
def shiftInto (word : UInt64) (b : Bytes) : UInt64 := b.foldl (fun word octet => word <<< 8 ||| octet.toUInt64) word

@[simp] theorem shiftInto_concat (word : UInt64) (b : Bytes) (octet : UInt8) :
    shiftInto word (b ++ [octet]) = shiftInto word b <<< 8 ||| octet.toUInt64 := by
  rw [shiftInto, List.foldl_append]
  rfl

/-- A shift by an octet leaves room for one. -/
theorem toNat_shift_or (word : UInt64) (octet : UInt8) :
    (word <<< 8 ||| octet.toUInt64).toNat = (word.toNat * 256 + octet.toNat) % 2 ^ 64 := by
  have ho : octet.toNat < 2 ^ 8 := octet.toNat_lt
  have hshift : word.toNat <<< 8 % 2 ^ 64 = 2 ^ 8 * (word.toNat % 2 ^ 56) := by
    rw [Nat.shiftLeft_eq]
    omega
  rw [UInt64.toNat_or, UInt64.toNat_shiftLeft, UInt8.toNat_toUInt64]
  show word.toNat <<< 8 % 2 ^ 64 ||| octet.toNat = _
  rw [hshift, ← Nat.two_pow_add_eq_or_of_lt ho]
  omega

/-- What is shifted into a word is the number of the octets, as far as there is room. -/
theorem toNat_shiftInto (word : UInt64) (b : Bytes) :
    (shiftInto word b).toNat = (word.toNat * 256 ^ b.length + toNat b) % 2 ^ 64 := by
  induction b using List.reverseRecOn with
  | nil =>
    simp [shiftInto]
  | append_singleton b octet ih =>
    have hpow : word.toNat * 256 ^ (b.length + 1) = word.toNat * 256 ^ b.length * 256 := by
      rw [Nat.pow_succ, Nat.mul_assoc]
    rw [shiftInto_concat, toNat_shift_or, ih, toNat_concat, List.length_append, List.length_singleton, hpow]
    omega

/-- A word has room for eight octets. -/
theorem toNat_shiftInto_zero {b : Bytes} (h : b.length ≤ 8) : (shiftInto 0 b).toNat = toNat b := by
  have hlt : toNat b < 256 ^ 8 := Nat.lt_of_lt_of_le (toNat_lt b) (Nat.pow_le_pow_right (by decide) h)
  rw [toNat_shiftInto]
  simp
  omega

/-- A text is encoded character by character. -/
theorem ofText_ofList (cs : List Char) : ofText (String.ofList cs) = cs.flatMap String.utf8EncodeChar := by
  rw [ofText, String.toByteArray_ofList, List.utf8Encode, List.data_toByteArray]

/-- The encoding of a text is well-formed. -/
theorem text?_ofText (s : String) : text? (ofText s) = some s := by
  have hsame : s.toByteArray.data.toList.toByteArray = s.toByteArray := by
    ext1
    rw [List.data_toByteArray]
  rw [text?, ofText, hsame, String.fromUTF8?, dif_pos s.isValidUTF8]
  rfl

/-- Octets are read as a text exactly if they are its encoding. -/
theorem text?_eq_some_iff {b : Bytes} {s : String} : text? b = some s ↔ b = ofText s := by
  constructor
  · intro h
    rw [text?, String.fromUTF8?] at h
    split at h
    case isTrue =>
      cases h
      exact (congrArg Array.toList List.data_toByteArray).symm
    case isFalse => cases h
  · rintro rfl
    exact text?_ofText s

theorem ofText_injective {s t : String} (h : ofText s = ofText t) : s = t := by
  have hs := text?_ofText s
  rw [h, text?_ofText] at hs
  exact (Option.some.inj hs).symm

theorem length_ofText (s : String) : (ofText s).length = s.utf8ByteSize := rfl

theorem ofText_append (s t : String) : ofText (s ++ t) = ofText s ++ ofText t := by
  rw [ofText, String.toByteArray_append, ByteArray.data_append, Array.toList_append]
  rfl

/-- An ASCII character is one octet. -/
theorem ofText_ofAscii {cs : List Char} (h : ∀ c ∈ cs, c.toNat < 128) :
    ofText (String.ofList cs) = cs.map fun c => c.val.toUInt8 := by
  rw [ofText_ofList]
  induction cs with
  | nil => rfl
  | cons c cs ih =>
    have hc : c.utf8Size = 1 := Char.utf8Size_eq_one_iff.mpr (Nat.le_of_lt_succ (h c List.mem_cons_self))
    rw [List.flatMap_cons, ih fun d hd => h d (List.mem_cons_of_mem _ hd), String.utf8EncodeChar_eq_singleton hc]
    rfl

end ArtifactTrust.Bytes
