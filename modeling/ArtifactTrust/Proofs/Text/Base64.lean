import ArtifactTrust.Text.Base64

/-!
# Base64 reads back

What is written in base64 reads back (`Base64.decode?_encode`), so different octets have different texts. Three octets are four
letters; what is left over at the end is a padded group whose unused bits are zero.
-/

namespace ArtifactTrust.Base64

theorem value?_letter : ∀ n < 64, value? (letter n) = some n := by decide

/-- Padding is no letter. -/
theorem letter_ne_padding : ∀ n < 64, letter n ≠ '=' := by decide

theorem triple_of_octets (a b c : UInt8) : triple (a.toNat / 4) (a.toNat % 4 * 16 + b.toNat / 16)
    (b.toNat % 16 * 4 + c.toNat / 64) (c.toNat % 64) = [a, b, c] := by
  have hb := b.toNat_lt
  have hc := c.toNat_lt
  have h1 : a.toNat / 4 * 4 + (a.toNat % 4 * 16 + b.toNat / 16) / 16 = a.toNat := by omega
  have h2 : (a.toNat % 4 * 16 + b.toNat / 16) % 16 * 16 + (b.toNat % 16 * 4 + c.toNat / 64) / 4 = b.toNat := by omega
  have h3 : (b.toNat % 16 * 4 + c.toNat / 64) % 4 * 64 + c.toNat % 64 = c.toNat := by omega
  rw [triple, h1, h2, h3, UInt8.ofNat_toNat, UInt8.ofNat_toNat, UInt8.ofNat_toNat]

/-- A last group without padding is read as the other groups are. -/
theorem ofLetters?_group {p q r s : Nat} (hp : p < 64) (hq : q < 64) (hr : r < 64) (hs : s < 64) (rest : List Char) :
    ofLetters? (letter p :: letter q :: letter r :: letter s :: rest) =
      (ofLetters? rest).map (triple p q r s ++ ·) := by
  cases rest with
  | nil =>
    rw [ofLetters?]
    simp [lastGroup?, value?_letter, letter_ne_padding, hp, hq, hr, hs, ofLetters?]
  | cons c rest =>
    rw [ofLetters?, value?_letter p hp, value?_letter q hq, value?_letter r hr, value?_letter s hs]
    · cases ofLetters? (c :: rest) <;> rfl
    · simp

/-- The cases are those of `letters`: nothing, one or two octets left over, and a group. -/
theorem ofLetters?_letters (b : Bytes) : ofLetters? (letters b) = some b := by
  induction b using letters.induct with
  | case1 => rfl
  | case2 a =>
    have ha := a.toNat_lt
    have hoctet : a.toNat / 4 * 4 + a.toNat % 4 * 16 / 16 = a.toNat := by omega
    rw [letters, ofLetters?, lastGroup?, value?_letter _ (by omega), value?_letter _ (by omega)]
    simp only [bind, Option.bind, hoctet, UInt8.ofNat_toNat, if_true]
    rw [if_pos ⟨trivial, by omega⟩]
  | case3 a b =>
    have ha := a.toNat_lt
    have hb := b.toNat_lt
    have hfirst : a.toNat / 4 * 4 + (a.toNat % 4 * 16 + b.toNat / 16) / 16 = a.toNat := by omega
    have hsecond : (a.toNat % 4 * 16 + b.toNat / 16) % 16 * 16 + b.toNat % 16 * 4 / 4 = b.toNat := by omega
    rw [letters, ofLetters?, lastGroup?, value?_letter _ (by omega), value?_letter _ (by omega),
      value?_letter _ (by omega)]
    simp only [bind, Option.bind, letter_ne_padding (b.toNat % 16 * 4) (by omega), hfirst, hsecond, UInt8.ofNat_toNat,
      if_false, if_true]
    rw [if_pos (by omega)]
  | case4 a b c rest ih =>
    have ha := a.toNat_lt
    have hb := b.toNat_lt
    have hc := c.toNat_lt
    rw [letters, ofLetters?_group (by omega) (by omega) (by omega) (by omega), ih, triple_of_octets]
    rfl

/-- Octets in base64 read back. -/
theorem decode?_encode (b : Bytes) : decode? (encode b) = some b := by
  rw [decode?, encode, String.toList_ofList, ofLetters?_letters]

theorem encode_injective {a b : Bytes} (h : encode a = encode b) : a = b := by
  have ha := decode?_encode a
  rw [h, decode?_encode] at ha
  exact (Option.some.inj ha).symm

end ArtifactTrust.Base64
