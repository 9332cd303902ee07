import ArtifactTrust.Proofs.Bytes
import ArtifactTrust.Tls.Vector

/-!
# Numbers and vectors of TLS

`Tls.IsNumber` and `Tls.IsVector` say which octets are a number or a vector. What is written is the only form that there is
(`Tls.isNumber_iff`, `Tls.isVector_iff`), a vector is written if there is room for its length (`Tls.write?_eq_some_iff`), and
reading takes exactly these octets off the front (`Tls.number?_eq_some_iff`, `Tls.vector?_eq_some_iff`).
-/

namespace ArtifactTrust.Tls

/-- Octets that are a number in a fixed number of octets, the most significant one first. -/
structure IsNumber (width n : Nat) (b : Bytes) : Prop where
  length : b.length = width
  value : Bytes.toNat b = n

/-- Octets that are a vector: the number of its octets, in a fixed number of octets, and these octets. -/
def IsVector (width : Nat) (content b : Bytes) : Prop :=
  ∃ size, IsNumber width content.length size ∧ b = size ++ content

variable {width n : Nat} {b content content' front front' rest rest' : Bytes}

/-! ## Writing -/

/-- A number is written in only one way, if there is room for it. -/
theorem isNumber_iff : IsNumber width n b ↔ n < 256 ^ width ∧ b = Bytes.ofNat width n := by
  constructor
  · rintro ⟨rfl, rfl⟩
    have hlt := Bytes.toNat_lt b
    refine ⟨hlt, Bytes.toNat_injective ?_ ?_⟩
    · rw [Bytes.length_ofNat]
    · rw [Bytes.toNat_ofNat hlt]
  · rintro ⟨hlt, rfl⟩
    exact ⟨Bytes.length_ofNat width n, Bytes.toNat_ofNat hlt⟩

/-- A vector is written in only one way, if there is room for its length. -/
theorem isVector_iff : IsVector width content b ↔ content.length < 256 ^ width ∧ b = vector width content := by
  unfold IsVector vector
  simp only [isNumber_iff, and_assoc, exists_and_left, exists_eq_left]

theorem IsVector.lt (h : IsVector width content b) : content.length < 1 <<< (8 * width) := by
  rw [Bytes.one_shiftLeft_octets]
  exact (isVector_iff.mp h).1

theorem write?_eq_some_iff : write? width content = some b ↔ IsVector width content b := by
  rw [write?, Bytes.one_shiftLeft_octets, isVector_iff, Option.ite_none_right_eq_some, Option.some.injEq, eq_comm (a := b)]

/-! ## Reading -/

theorem split?_eq_some_iff {size : Nat} {front : { front : Bytes // front.length = size }} :
    split? size b = some (front, rest) ↔ b = front ++ rest := by
  unfold split?
  constructor
  · intro h
    split at h
    · cases h
    · cases h
      exact (List.take_append_drop size b).symm
  · rintro rfl
    obtain ⟨front, rfl⟩ := front
    have hsize : ¬(front ++ rest).length < front.length := by simp
    simp only [dif_neg hsize, List.take_left, List.drop_left]

theorem number?_eq_some_iff {n : Fin (1 <<< (8 * width))} :
    number? width b = some (n, rest) ↔ ∃ front, IsNumber width n front ∧ b = front ++ rest := by
  unfold number?
  simp only [Option.map_eq_some_iff, Prod.exists, Prod.mk.injEq, split?_eq_some_iff, Subtype.exists, Fin.ext_iff]
  constructor
  · rintro ⟨front, hlength, rest, rfl, hvalue, rfl⟩
    exact ⟨front, ⟨hlength, hvalue⟩, rfl⟩
  · rintro ⟨front, ⟨hlength, hvalue⟩, rfl⟩
    exact ⟨front, hlength, rest, rfl, hvalue, rfl⟩

/-- A number of one octet is the number of this octet. -/
theorem number?_one_eq_some_iff {n : Fin (1 <<< (8 * 1))} :
    number? 1 b = some (n, rest) ↔ ∃ octet : UInt8, n.val = octet.toNat ∧ b = octet :: rest := by
  rw [number?_eq_some_iff]
  constructor
  · rintro ⟨front, ⟨hlength, hvalue⟩, rfl⟩
    obtain ⟨octet, rfl⟩ := List.length_eq_one_iff.mp hlength
    exact ⟨octet, by simpa [hvalue] using Bytes.toNat_concat [] octet, rfl⟩
  · rintro ⟨octet, hvalue, rfl⟩
    exact ⟨[octet], ⟨rfl, by simpa [hvalue] using Bytes.toNat_concat [] octet⟩, rfl⟩

theorem vector?_eq_some_iff {content : { content : Bytes // content.length < 1 <<< (8 * width) }} :
    vector? width b = some (content, rest) ↔ ∃ front, IsVector width content front ∧ b = front ++ rest := by
  unfold vector?
  simp only [Option.bind_eq_bind, Option.bind_eq_some_iff, Option.pure_def, Option.some.injEq, Prod.exists, Prod.mk.injEq,
    number?_eq_some_iff, split?_eq_some_iff, Subtype.exists, Subtype.ext_iff]
  constructor
  · rintro ⟨count, _, ⟨size, hsize, rfl⟩, _, hlength, _, rfl, rfl, rfl⟩
    exact ⟨size ++ content, ⟨size, hlength ▸ hsize, rfl⟩, by rw [List.append_assoc]⟩
  · rintro ⟨_, ⟨size, hsize, rfl⟩, rfl⟩
    exact ⟨⟨_, content.2⟩, content ++ rest, ⟨size, hsize, by rw [List.append_assoc]⟩, content, rfl, rest, rfl, rfl, rfl⟩

theorem IsVector.length_eq (h : IsVector width content b) : b.length = width + content.length := by
  obtain ⟨size, hsize, rfl⟩ := h
  rw [List.length_append, hsize.length]

/-- A vector says itself where it ends. -/
theorem IsVector.append_inj (h : IsVector width content front) (h' : IsVector width content' front')
    (heq : front ++ rest = front' ++ rest') : content = content' ∧ rest = rest' := by
  have hread : vector? width (front ++ rest) = some (⟨content, h.lt⟩, rest) := vector?_eq_some_iff.mpr ⟨front, h, rfl⟩
  have hread' : vector? width (front' ++ rest') = some (⟨content', h'.lt⟩, rest') :=
    vector?_eq_some_iff.mpr ⟨front', h', rfl⟩
  rw [heq, hread', Option.some.injEq, Prod.mk.injEq, Subtype.mk.injEq] at hread
  exact ⟨hread.1.symm, hread.2.symm⟩

end ArtifactTrust.Tls
