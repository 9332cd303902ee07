import ArtifactTrust.Time.Calendar
import Mathlib.Order.Basic
import Mathlib.Tactic.Linarith

/-!
# The numbering of days

The days that the calendar has are numbered one after the other, without a gap, from 0 on 1970-01-01. This fixes the
numbering (`Date.CountsDays`): it is the one order-preserving numbering of all days with that origin. `Date.dayNumber` is this
numbering (`Date.countsDays_dayNumber`), and `Date.ofDayNumber` gives the day that has a number (`Date.ofDayNumber_spec`).
-/

namespace ArtifactTrust.Date

/-- Earlier in the calendar: by the year, then by the month, then by the day. -/
def Precedes (d d' : Date) : Prop :=
  d.year < d'.year ∨ d.year = d'.year ∧ (d.month < d'.month ∨ d.month = d'.month ∧ d.day < d'.day)

/-- A numbering of the days that exist, by integers in the order of the calendar, from 0 on 1970-01-01. -/
structure CountsDays (number : Date → Int) : Prop where
  epoch : number ⟨1970, 1, 1⟩ = 0
  lt_iff : ∀ d d', d.exists? → d'.exists? → (number d < number d' ↔ d.Precedes d')
  surjective : ∀ n, ∃ d, d.exists? ∧ number d = n

/-- The number of days of a year. -/
def daysInYear (year : Int) : Nat := if isLeap year then 366 else 365

variable {year year' : Int} {month month' place : Nat} {d d' : Date}

/-! ## Years -/

theorem isLeap_iff : isLeap year = true ↔ year % 4 = 0 ∧ (year % 100 ≠ 0 ∨ year % 400 = 0) := by
  simp [isLeap]

theorem daysBeforeYear_succ (year : Int) : daysBeforeYear (year + 1) = daysBeforeYear year + daysInYear year := by
  unfold daysBeforeYear daysInYear
  by_cases h : isLeap year = true
  · rw [if_pos h]
    rw [isLeap_iff] at h
    omega
  · rw [if_neg h]
    rw [isLeap_iff] at h
    omega

theorem daysBeforeYear_succ_le (h : year < year') : daysBeforeYear (year + 1) ≤ daysBeforeYear year' := by
  unfold daysBeforeYear
  omega

/-- A day lies in the year that is found for it. -/
theorem yearOfDay_spec (days : Int) :
    daysBeforeYear (yearOfDay days) ≤ days ∧ days < daysBeforeYear (yearOfDay days + 1) := by
  unfold yearOfDay
  dsimp only
  split <;> unfold daysBeforeYear at * <;> omega

/-! ## Months -/

theorem daysBeforeMonth_succ (year : Int) (h : 1 ≤ month) :
    daysBeforeMonth year (month + 1) = daysBeforeMonth year month + daysInMonth year month := by
  obtain ⟨k, rfl⟩ : ∃ k, month = k + 1 := ⟨month - 1, by omega⟩
  unfold daysBeforeMonth
  rw [Nat.add_sub_cancel, Nat.add_sub_cancel, List.range_succ, List.foldl_append]
  rfl

theorem daysBeforeMonth_le (year : Int) (h : 1 ≤ month) (hle : month ≤ month') :
    daysBeforeMonth year month ≤ daysBeforeMonth year month' := by
  induction month', hle using Nat.le_induction with
  | base => exact Nat.le_refl _
  | succ m hm ih =>
    rw [daysBeforeMonth_succ year (by omega)]
    omega

/-- A year is its twelve months. -/
theorem daysBeforeMonth_thirteen (year : Int) : daysBeforeMonth year 13 = daysInYear year := by
  unfold daysInYear
  cases h : isLeap year <;> simp [daysBeforeMonth, List.range_succ, daysInMonth, h]

theorem daysInMonth_le (year : Int) (month : Nat) : daysInMonth year month ≤ 31 := by
  unfold daysInMonth
  split <;> first | decide | (split <;> decide)

theorem month_of_le_daysInMonth {day : Nat} (h : 1 ≤ day) (hle : day ≤ daysInMonth year month) : 1 ≤ month ∧ month ≤ 12 := by
  by_contra hmonth
  have hnone : daysInMonth year month = 0 := by
    unfold daysInMonth
    split <;> first | rfl | omega
  omega

theorem exists?_iff : d.exists? = true ↔ (1 ≤ d.month ∧ d.month ≤ 12) ∧ 1 ≤ d.day ∧ d.day ≤ daysInMonth d.year d.month := by
  rw [exists?, Bool.and_eq_true, decide_eq_true_eq, decide_eq_true_eq]
  constructor
  · rintro ⟨hone, hle⟩
    exact ⟨month_of_le_daysInMonth hone hle, hone, hle⟩
  · exact And.right

/-- The place of a day in its year. -/
theorem daysBeforeMonth_add_le (h : d.exists?) : daysBeforeMonth d.year d.month + d.day ≤ daysInYear d.year := by
  obtain ⟨⟨hone, htwelve⟩, -, hday⟩ := exists?_iff.mp h
  have hsucc := daysBeforeMonth_succ d.year hone
  have hle := daysBeforeMonth_le d.year (Nat.le_add_left 1 d.month) (Nat.succ_le_succ htwelve)
  rw [daysBeforeMonth_thirteen] at hle
  omega

/-! ## The order of the days -/

theorem dayNumber_lt_of_precedes (h : d.exists?) (h' : d'.exists?) (hlt : d.Precedes d') : d.dayNumber < d'.dayNumber := by
  obtain ⟨⟨hone, -⟩, -, hday⟩ := exists?_iff.mp h
  obtain ⟨-, hone', -⟩ := exists?_iff.mp h'
  unfold dayNumber
  rcases hlt with hyear | ⟨hyear, hmonth | ⟨hmonth, hlt⟩⟩
  · have hplace := daysBeforeMonth_add_le h
    have hsucc := daysBeforeYear_succ d.year
    have hle := daysBeforeYear_succ_le hyear
    omega
  · have hsucc := daysBeforeMonth_succ d.year hone
    have hle := daysBeforeMonth_le d.year (Nat.le_add_left 1 d.month) hmonth
    rw [← hyear]
    omega
  · rw [← hyear, ← hmonth]
    omega

/-- Of two days one precedes the other if they are not the same. -/
theorem precedes_trichotomy (d d' : Date) : d.Precedes d' ∨ d = d' ∨ d'.Precedes d := by
  obtain ⟨year, month, day⟩ := d
  obtain ⟨year', month', day'⟩ := d'
  simp only [Precedes, Date.mk.injEq]
  omega

theorem dayNumber_lt_iff (h : d.exists?) (h' : d'.exists?) : d.dayNumber < d'.dayNumber ↔ d.Precedes d' := by
  constructor
  · intro hlt
    rcases precedes_trichotomy d d' with hpre | rfl | hpre
    · exact hpre
    · exact absurd hlt (lt_irrefl _)
    · exact absurd (dayNumber_lt_of_precedes h' h hpre) (lt_asymm hlt)
  · exact dayNumber_lt_of_precedes h h'

theorem dayNumber_injective (h : d.exists?) (h' : d'.exists?) (heq : d.dayNumber = d'.dayNumber) : d = d' := by
  rcases precedes_trichotomy d d' with hpre | hsame | hpre
  · exact absurd heq (dayNumber_lt_of_precedes h h' hpre).ne
  · exact hsame
  · exact absurd heq (dayNumber_lt_of_precedes h' h hpre).ne'

/-- A day is in a year or after it exactly if it is not before the first day of the year. -/
theorem firstOfYear_le_iff (h : d.exists?) (year : Int) : (Date.mk year 1 1).dayNumber ≤ d.dayNumber ↔ year ≤ d.year := by
  have hfirst : (Date.mk year 1 1).exists? := rfl
  obtain ⟨⟨hmonth, -⟩, hday, -⟩ := exists?_iff.mp h
  rw [← not_lt, dayNumber_lt_iff h hfirst]
  simp only [Precedes]
  omega

/-! ## The day that has a number -/

/-- Month by month, the days passed and those left make the place in the year. The induction is on the number of months left. -/
theorem monthAndDay_go_spec (year : Int) (left month place : Nat) (h : 1 ≤ month)
    (hplace : daysBeforeMonth year month + place < daysBeforeMonth year (month + left + 1)) :
    (1 ≤ (monthAndDay.go year left month place).2 ∧
      (monthAndDay.go year left month place).2 ≤ daysInMonth year (monthAndDay.go year left month place).1) ∧
    daysBeforeMonth year (monthAndDay.go year left month place).1 + (monthAndDay.go year left month place).2 =
      daysBeforeMonth year month + place + 1 := by
  have hsucc := daysBeforeMonth_succ year h
  induction left generalizing month place with
  | zero =>
    rw [Nat.add_zero] at hplace
    rw [monthAndDay.go]
    dsimp only
    omega
  | succ left ih =>
    rw [monthAndDay.go]
    by_cases hlt : place < daysInMonth year month
    · rw [if_pos hlt]
      dsimp only
      omega
    · have hrest : daysBeforeMonth year (month + 1) + (place - daysInMonth year month) =
          daysBeforeMonth year month + place := by omega
      rw [if_neg hlt, ← hrest]
      refine ih (month + 1) (place - daysInMonth year month) (by omega) ?_ (daysBeforeMonth_succ year (by omega))
      rwa [hrest, Nat.add_right_comm month 1 left]

/-- The day that has a number exists and has this number. -/
theorem ofDayNumber_spec (n : Int) : (ofDayNumber n).exists? ∧ (ofDayNumber n).dayNumber = n := by
  have hyear := yearOfDay_spec (n + epochOffset)
  have hdate : ofDayNumber n = ⟨yearOfDay (n + epochOffset),
      (monthAndDay (yearOfDay (n + epochOffset)) (n + epochOffset - daysBeforeYear (yearOfDay (n + epochOffset))).toNat).1,
      (monthAndDay (yearOfDay (n + epochOffset)) (n + epochOffset - daysBeforeYear (yearOfDay (n + epochOffset))).toNat).2⟩ := rfl
  rw [hdate]
  generalize yearOfDay (n + epochOffset) = year at hyear ⊢
  have hsucc := daysBeforeYear_succ year
  have hfirst : daysBeforeMonth year 1 = 0 := rfl
  obtain ⟨⟨hone, hle⟩, hcount⟩ := monthAndDay_go_spec year 11 1 (n + epochOffset - daysBeforeYear year).toNat (Nat.le_refl 1)
    (by rw [daysBeforeMonth_thirteen]; omega)
  rw [monthAndDay]
  refine ⟨exists?_iff.mpr ⟨month_of_le_daysInMonth hone hle, hone, hle⟩, ?_⟩
  unfold dayNumber
  dsimp only
  omega

theorem countsDays_dayNumber : CountsDays dayNumber where
  epoch := by decide
  lt_iff := fun _ _ => dayNumber_lt_iff
  surjective := fun n => ⟨ofDayNumber n, ofDayNumber_spec n⟩

end ArtifactTrust.Date
