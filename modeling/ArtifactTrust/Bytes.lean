/-!
# Octet strings

Every wire format read here (DER, TLS vectors, PEM, base64) is a list of octets. This module fixes the type and the two
readings that several formats share: big-endian numbers (`Bytes.toNat`, `Bytes.ofNat`) and UTF-8 text (`Bytes.ofText`,
`Bytes.text?`). Octets denote a number that has room in eight bits for each of them (`Bytes.toNat_lt_shift`), and a number is
written with as many octets as are asked for (`Bytes.length_ofNat`).
-/

namespace ArtifactTrust

/-- An octet string. -/
abbrev Bytes : Type := List UInt8

namespace Bytes

/-- The number that the octets denote, the most significant first. -/
def toNat (b : Bytes) : Nat := b.foldl (fun n octet => n * 256 + octet.toNat) 0

theorem toNat_lt_shift (b : Bytes) : toNat b < 1 <<< (8 * b.length) := by
  -- What has been read before leaves room for one more in each place.
  have hfold : ∀ n, b.foldl (fun n octet => n * 256 + octet.toNat) n < (n + 1) <<< (8 * b.length) := by
    induction b with
    | nil => intro n; simp
    | cons octet b ih =>
      intro n
      have hoctet := octet.toNat_lt
      have hroom : (n * 256 + octet.toNat + 1) <<< (8 * b.length) ≤ ((n + 1) <<< 8) <<< (8 * b.length) := by
        rw [Nat.shiftLeft_eq _ (8 * b.length), Nat.shiftLeft_eq _ (8 * b.length)]
        exact Nat.mul_le_mul_right _ (by omega)
      rw [← Nat.shiftLeft_add] at hroom
      rw [List.foldl_cons, List.length_cons, Nat.mul_add, Nat.add_comm (8 * b.length)]
      exact Nat.lt_of_lt_of_le (ih _) hroom
  simpa [toNat] using hfold 0

/-- The last `width` octets of a number, the most significant first. -/
def ofNat : (width : Nat) → Nat → Bytes
  | 0, _ => []
  | width + 1, n => ofNat width (n / 256) ++ [UInt8.ofNat n]

@[simp] theorem length_ofNat (width n : Nat) : (ofNat width n).length = width := by
  induction width generalizing n with
  | zero => rfl
  | succ width ih => rw [ofNat, List.length_append, ih, List.length_singleton]

/-- The UTF-8 encoding of a text. -/
def ofText (s : String) : Bytes := s.toByteArray.data.toList

/-- The text that the octets encode, if they are well-formed UTF-8. -/
def text? (b : Bytes) : Option String := String.fromUTF8? b.toByteArray

/-- Octet by octet exclusive or, as long as the shorter of the two. -/
def xor (a b : Bytes) : Bytes := List.zipWith (fun x y => x ^^^ y) a b

end Bytes

end ArtifactTrust
