import ArtifactTrust.Digest.Hash

/-!
# Hexadecimal text reads back

What is written in hexadecimal reads back (`Hex.decode?_encode`), so different octets have different texts. They differ in more
than case as well: a text agrees up to case with the hexadecimal of one digest only (`Sha256Value.eq_of_sameIgnoringCase`).
-/

namespace ArtifactTrust

namespace Ascii

theorem hexDigit?_hexDigit : ∀ n < 16, hexDigit? (hexDigit n) = some n := by decide

/-- The digits that are written are small letters already. -/
theorem lower_hexDigit : ∀ n < 16, lower (hexDigit n) = hexDigit n := by decide

end Ascii

namespace Hex

theorem ofDigits?_digits (b : Bytes) : ofDigits? (digits b) = some b := by
  induction b with
  | nil => rfl
  | cons x b ih =>
    have hx := x.toNat_lt
    have hoctet : UInt8.ofNat (16 * (x.toNat / 16) + x.toNat % 16) = x := by
      rw [Nat.div_add_mod, UInt8.ofNat_toNat]
    have hdigits : digits (x :: b) = Ascii.hexDigit (x.toNat / 16) :: Ascii.hexDigit (x.toNat % 16) :: digits b := rfl
    rw [hdigits, ofDigits?, Ascii.hexDigit?_hexDigit _ (by omega), Ascii.hexDigit?_hexDigit _ (by omega), ih]
    simp only [bind, Option.bind, hoctet]
    rfl

/-- Octets in hexadecimal read back. -/
theorem decode?_encode (b : Bytes) : decode? (encode b) = some b := by
  rw [decode?, encode, String.toList_ofList, ofDigits?_digits]

theorem encode_injective {a b : Bytes} (h : encode a = encode b) : a = b := by
  have ha := decode?_encode a
  rw [h, decode?_encode] at ha
  exact (Option.some.inj ha).symm

theorem map_lower_digits (b : Bytes) : (digits b).map Ascii.lower = digits b := by
  induction b with
  | nil => rfl
  | cons x b ih =>
    have hx := x.toNat_lt
    have hoctet : (octet x).map Ascii.lower = octet x := by
      rw [octet, List.map_cons, List.map_cons, List.map_nil, Ascii.lower_hexDigit _ (by omega),
        Ascii.lower_hexDigit _ (by omega)]
    rw [digits, List.flatMap_cons, List.map_append, hoctet]
    exact congrArg _ ih

/-- A text agrees with octets in hexadecimal when its small letters are theirs. -/
theorem sameIgnoringCase_encode {text : String} {b : Bytes} :
    Ascii.sameIgnoringCase text (encode b) = true ↔ text.toList.map Ascii.lower = digits b := by
  rw [Ascii.sameIgnoringCase, beq_iff_eq, encode, String.toList_ofList, map_lower_digits]

end Hex

/-- Case does not make one text the hexadecimal of two digests. -/
theorem Sha256Value.eq_of_sameIgnoringCase {text : String} {x y : Sha256Value}
    (hx : Ascii.sameIgnoringCase text x.hex = true) (hy : Ascii.sameIgnoringCase text y.hex = true) : x = y := by
  rw [hex, Hex.sameIgnoringCase_encode] at hx hy
  have hencode : Hex.encode x.octets = Hex.encode y.octets := congrArg String.ofList (hx.symm.trans hy)
  cases x
  cases y
  congr 1
  exact Hex.encode_injective hencode

end ArtifactTrust
