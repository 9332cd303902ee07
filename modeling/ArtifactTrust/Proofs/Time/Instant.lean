import ArtifactTrust.Proofs.Time.Calendar
import ArtifactTrust.Time.Instant
import Mathlib.Order.Defs.LinearOrder

/-!
# Instants

Instants are ordered by the second and then by the nanosecond. This is a linear order, in which a leap second has its place
behind the second that it extends. Outside leap seconds an instant is the one of its own date and time of day
(`Instant.ofDateTime_toDateTime`).
-/

namespace ArtifactTrust

namespace Instant

theorem le_iff {a b : Instant} : a ≤ b ↔ a.seconds < b.seconds ∨ (a.seconds = b.seconds ∧ a.nanos ≤ b.nanos) := Iff.rfl

instance : LinearOrder Instant where
  le := (· ≤ ·)
  le_refl a := le_iff.mpr (Or.inr ⟨rfl, Nat.le_refl _⟩)
  le_trans a b c hab hbc := by
    rw [le_iff] at *
    omega
  le_antisymm a b hab hba := by
    obtain ⟨seconds, nanos⟩ := a
    obtain ⟨seconds', nanos'⟩ := b
    simp only [le_iff] at hab hba
    obtain rfl : seconds = seconds' := by omega
    obtain rfl : nanos = nanos' := by omega
    rfl
  le_total a b := by
    simp only [le_iff]
    omega
  toDecidableLE := inferInstance
  toDecidableEq := inferInstance

theorem ofDateTime_of_ne {t : DateTime} (h : t.second ≠ 60) :
    ofDateTime t = ⟨t.date.dayNumber * 86400 + (t.hour * 3600 + t.minute * 60 + t.second : Nat), t.nanos⟩ := if_neg h

variable {t : Instant}

theorem toDateTime_of_lt (h : t.nanos < 1000000000) : t.toDateTime =
    ⟨Date.ofDayNumber (t.seconds / 86400), (t.seconds % 86400).toNat / 3600, (t.seconds % 86400).toNat / 60 % 60,
      (t.seconds % 86400).toNat % 60, t.nanos⟩ := by
  have hleap : ¬ 1000000000 ≤ t.nanos := Nat.not_le.mpr h
  simp only [toDateTime, if_neg hleap]

/-- The date and time of day of an instant outside leap seconds are those that it is the instant of. -/
theorem ofDateTime_toDateTime (h : t.nanos < 1000000000) : ofDateTime t.toDateTime = t := by
  have hday := (Date.ofDayNumber_spec (t.seconds / 86400)).2
  obtain ⟨seconds, nanos⟩ := t
  rw [toDateTime_of_lt h, ofDateTime_of_ne (by dsimp only; omega)]
  dsimp only at hday ⊢
  rw [hday, Instant.mk.injEq]
  omega

end Instant

end ArtifactTrust
