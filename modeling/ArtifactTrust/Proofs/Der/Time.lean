import ArtifactTrust.Proofs.Der.TimeText
import Mathlib.Data.Option.Basic

/-!
# Times

A point in time is written in one way but for a fraction of zeros, and the times that can be written are those of whole thousandths
of a second in the years of the form (`Content.IsWritable`, `Content.writeTime`). Main statement: what content is a time and which
one, which times there are content for, and when two contents are the same time or are in the order of time (`Content.time_exact`).
-/

namespace ArtifactTrust.Der.Content

variable {form : YearForm}

/-! ## The point in time that is written -/

theorem YearForm.year_injective {n m : Nat} (hn : n < 10 ^ form.digits) (hm : m < 10 ^ form.digits)
    (h : form.year n = form.year m) : n = m := by
  cases form with
  | two =>
    simp only [digits, year] at hn hm h
    split at h <;> split at h <;> omega
  | four => exact h

namespace WrittenTime

variable (w w' : WrittenTime form)

theorem clock_lt : w.clock < 86400 := by
  have hhour := w.hour_lt
  have hminute := w.minute_lt
  have hsecond := w.second_lt
  rw [clock]
  omega

theorem clock_injective (h : w.clock = w'.clock) : w.hour = w'.hour ∧ w.minute = w'.minute ∧ w.second = w'.second := by
  have hminute := w.minute_lt
  have hminute' := w'.minute_lt
  have hsecond := w.second_lt
  have hsecond' := w'.second_lt
  rw [clock, clock] at h
  omega

/-- A point in time is written in one way, but for the fraction. -/
theorem instant_eq_iff : w.instant = w'.instant ↔ w.digits = w'.digits ∧ w.millis.getD 0 = w'.millis.getD 0 := by
  constructor
  · intro h
    obtain ⟨hseconds, hnanos⟩ := Instant.mk.inj h
    have hclock := w.clock_lt
    have hclock' := w'.clock_lt
    have hday : w.date.dayNumber = w'.date.dayNumber := by omega
    obtain ⟨hyear, hmonth, hdayOf⟩ := Date.mk.inj (Date.dayNumber_injective w.exists? w'.exists? hday)
    have hyear := YearForm.year_injective w.year_lt w'.year_lt (Int.ofNat.inj hyear)
    obtain ⟨hhour, hminute, hsecond⟩ := clock_injective w w' (by omega)
    refine ⟨?_, by omega⟩
    rw [digits, digits, hyear, hmonth, hdayOf, hhour, hminute, hsecond]
  · rintro ⟨hdigits, hmillis⟩
    have hfields := w.dateTime_digits
    have hfields' := w'.dateTime_digits
    simp only [dateTime, DateTime.mk.injEq] at hfields hfields'
    rw [hdigits] at hfields
    obtain ⟨hdate, hhour, hminute, hsecond, -⟩ := hfields
    obtain ⟨hdate', hhour', hminute', hsecond', -⟩ := hfields'
    rw [instant, instant, clock, clock, ← hdate, ← hdate', ← hhour, ← hhour', ← hminute, ← hminute', ← hsecond, ← hsecond', hmillis]

end WrittenTime

/-! ## Fractions of zeros -/

/-- Octets that differ by a fraction of zeros. -/
def DifferByZeros (b b' : Bytes) : Prop :=
  ∃ front : String, b = Bytes.ofText (front ++ "Z") ∧ b' = Bytes.ofText (front ++ ".000Z")

theorem differByZeros_timeOctets (digits : List Char) :
    DifferByZeros (timeOctets digits none) (timeOctets digits (some ['0', '0', '0'])) := by
  refine ⟨String.ofList digits, congrArg Bytes.ofText ?_, congrArg Bytes.ofText ?_⟩ <;>
    exact String.toList_inj.mp (by simp)

namespace WrittenTime

variable (w w' : WrittenTime form)

theorem length_padded_millis {n : Nat} (h : w.millis = some n) : (Ascii.padded 3 n).length = 3 :=
  Ascii.length_padded (by decide) (w.millis_lt n h)

/-- A fraction that has another one in front of a dot and zeros: that other one is none, for otherwise it is too long. -/
theorem millis_of_fraction_append
    (h : w'.fraction.elim [] ('.' :: ·) = w.fraction.elim [] ('.' :: ·) ++ ['.', '0', '0', '0']) :
    w.millis = none ∧ w'.millis = some 0 := by
  have hlength := congrArg List.length h
  rw [fraction, fraction] at h hlength
  cases hm : w.millis with
  | none =>
    cases hm' : w'.millis with
    | none => simp [hm, hm'] at hlength
    | some n =>
      rw [hm, hm'] at h
      have hvalue := congrArg Ascii.value (List.cons.inj h).2
      rw [Ascii.value_padded] at hvalue
      exact ⟨rfl, congrArg some hvalue⟩
  | some n =>
    cases hm' : w'.millis with
    | none => simp [hm, hm'] at hlength
    | some n' => simp [hm, hm', w.length_padded_millis hm, w'.length_padded_millis hm'] at hlength

theorem differByZeros_iff :
    DifferByZeros w.octets w'.octets ↔ w.digits = w'.digits ∧ w.millis = none ∧ w'.millis = some 0 := by
  constructor
  · rintro ⟨front, h, h'⟩
    have htext := congrArg String.toList (Bytes.ofText_injective h)
    have htext' := congrArg String.toList (Bytes.ofText_injective h')
    have hzeros : ".000Z".toList = ['.', '0', '0', '0'] ++ ['Z'] := rfl
    rw [String.toList_ofList, String.toList_append] at htext htext'
    rw [hzeros, ← List.append_assoc, ← List.append_cancel_right htext] at htext'
    have hfront := List.append_cancel_right htext'
    rw [List.append_assoc] at hfront
    obtain ⟨hdigits, hfraction⟩ := List.append_inj hfront (w'.hasForm.length.trans w.hasForm.length.symm)
    exact ⟨hdigits.symm, millis_of_fraction_append w w' hfraction⟩
  · rintro ⟨hdigits, hnone, hzero⟩
    rw [octets, octets, fraction, fraction, hdigits, hnone, hzero]
    exact differByZeros_timeOctets w'.digits

/-- Two texts say the same exactly if they are the same or differ by a fraction of zeros. -/
theorem instant_eq_iff_octets : w.instant = w'.instant ↔
    w.octets = w'.octets ∨ DifferByZeros w.octets w'.octets ∨ DifferByZeros w'.octets w.octets := by
  rw [instant_eq_iff, differByZeros_iff, differByZeros_iff]
  constructor
  · rintro ⟨hdigits, hmillis⟩
    have hsame : w.millis = w'.millis → w.octets = w'.octets := by
      intro h
      rw [octets, octets, fraction, fraction, hdigits, h]
    cases hm : w.millis with
    | none =>
      cases hm' : w'.millis with
      | none => exact .inl (hsame (hm.trans hm'.symm))
      | some n =>
        rw [hm, hm'] at hmillis
        exact .inr (.inl ⟨hdigits, rfl, congrArg some hmillis.symm⟩)
    | some n =>
      rw [hm] at hmillis
      cases hm' : w'.millis with
      | none =>
        rw [hm'] at hmillis
        exact .inr (.inr ⟨hdigits.symm, rfl, congrArg some hmillis⟩)
      | some n' =>
        rw [hm'] at hmillis
        exact .inl (hsame (by rw [hm, hm']; exact congrArg some hmillis))
  · rintro (hsame | ⟨hdigits, hnone, hzero⟩ | ⟨hdigits, hnone, hzero⟩)
    · have hinstant := w.time_octets
      rw [hsame, w'.time_octets] at hinstant
      exact (instant_eq_iff w w').mp (Except.ok.inj hinstant).symm
    · exact ⟨hdigits, by rw [hnone, hzero]; rfl⟩
    · exact ⟨hdigits.symm, by rw [hnone, hzero]; rfl⟩

/-! ## The order of times -/

/-- The digits of the date as one number. -/
def dateDigits : Nat := (w.year * 100 + w.month) * 100 + w.day

/-- The digits of the time of day as one number. -/
def clockDigits : Nat := (w.hour * 100 + w.minute) * 100 + w.second

theorem value_digits : Ascii.value w.digits = w.dateDigits * 1000000 + w.clockDigits := by
  obtain ⟨-, hmonth, hday, hhour, hminute, hsecond⟩ := w.length_fields
  simp only [digits, Ascii.value_append, Ascii.value_padded, hmonth, hday, hhour, hminute, hsecond, dateDigits, clockDigits]
  omega

theorem clockDigits_lt : w.clockDigits < 1000000 := by
  have hhour := w.hour_lt
  have hminute := w.minute_lt
  have hsecond := w.second_lt
  rw [clockDigits]
  omega

theorem clockDigits_lt_iff : w.clockDigits < w'.clockDigits ↔ w.clock < w'.clock := by
  have hminute := w.minute_lt
  have hminute' := w'.minute_lt
  have hsecond := w.second_lt
  have hsecond' := w'.second_lt
  rw [clockDigits, clockDigits, clock, clock]
  omega

/-- With all digits of the year the digits of the date are in the order of the calendar. -/
theorem dateDigits_lt_iff (w w' : WrittenTime .four) : w.dateDigits < w'.dateDigits ↔ w.date.Precedes w'.date := by
  have hmonth := w.month_lt
  have hmonth' := w'.month_lt
  rw [dateDigits, dateDigits, Ascii.mul_add_lt_iff w.day_lt w'.day_lt]
  simp only [Date.Precedes, date, YearForm.year]
  omega

theorem octets_eq_map : w.octets =
    w.digits.map (fun c => c.val.toUInt8) ++ (w.fraction.elim [] ('.' :: ·) ++ ['Z']).map fun c => c.val.toUInt8 := by
  have hdigit : ∀ c, Ascii.isDigit c = true → c.toNat < 128 := fun c hc =>
    Nat.lt_of_le_of_lt (Ascii.toNat_of_isDigit hc).2 (by decide)
  rw [octets, timeOctets, Bytes.ofText_ofAscii, List.append_assoc, List.map_append]
  intro c hc
  rw [List.mem_append, List.mem_append, List.mem_singleton] at hc
  rcases hc with (hc | hc) | rfl
  · exact hdigit c (w.hasForm.isDigit c hc)
  · cases hf : w.fraction with
    | none => simp [hf] at hc
    | some f =>
      rw [hf] at hc
      rcases List.mem_cons.mp hc with rfl | hc
      · decide
      · exact hdigit c ((w.hasForm.fraction f hf).2 c hc)
  · decide

theorem millis_eq_none (h : 0x2e ∉ w.octets) : w.millis = none := by
  cases hm : w.millis with
  | none => rfl
  | some n =>
    refine absurd ?_ h
    rw [octets_eq_map, fraction, hm, List.mem_append]
    exact .inr List.mem_cons_self

/-- Without a fraction and with all digits of the year, the digits are in the order of the points in time. -/
theorem instant_lt_iff (w w' : WrittenTime .four) (h : w.millis = none) (h' : w'.millis = none) :
    w.instant < w'.instant ↔ Ascii.value w.digits < Ascii.value w'.digits := by
  have hseconds : w.instant < w'.instant ↔ w.instant.seconds < w'.instant.seconds := by
    rw [lt_iff_le_not_ge, Instant.le_iff, Instant.le_iff]
    simp only [instant, h, h']
    omega
  have hbefore : w.dateDigits < w'.dateDigits ↔ w.date.dayNumber < w'.date.dayNumber :=
    (dateDigits_lt_iff w w').trans (Date.dayNumber_lt_iff w.exists? w'.exists?).symm
  have hafter : w'.dateDigits < w.dateDigits ↔ w'.date.dayNumber < w.date.dayNumber :=
    (dateDigits_lt_iff w' w).trans (Date.dayNumber_lt_iff w'.exists? w.exists?).symm
  have hclock := clockDigits_lt_iff w w'
  have hmost := w.clock_lt
  have hmost' := w'.clock_lt
  rw [hseconds, w.value_digits, w'.value_digits, Ascii.mul_add_lt_iff w.clockDigits_lt w'.clockDigits_lt, hclock]
  simp only [instant]
  omega

theorem octets_lt_iff (w w' : WrittenTime .four) (h : w.millis = none) (h' : w'.millis = none) :
    w.octets < w'.octets ↔ w.instant < w'.instant := by
  rw [instant_lt_iff w w' h h', octets_eq_map, octets_eq_map, fraction, fraction, h, h']
  exact Ascii.octets_lt_iff w.hasForm.isDigit w'.hasForm.isDigit (w.hasForm.length.trans w'.hasForm.length.symm) _

end WrittenTime

/-! ## The times that can be written -/

/-- The first year that a form can write. -/
def YearForm.firstYear : YearForm → Int
  | .two => 1950
  | .four => 0

/-- The first year that is too late for a form. -/
def YearForm.endYear : YearForm → Int
  | .two => 2050
  | .four => 10000

/-- A point in time that a form can write: in its years, outside leap seconds, and of whole thousandths of a second. -/
structure IsWritable (form : YearForm) (t : Instant) : Prop where
  first_le : (Date.mk form.firstYear 1 1).dayNumber * 86400 ≤ t.seconds
  lt_end : t.seconds < (Date.mk form.endYear 1 1).dayNumber * 86400
  nanos_lt : t.nanos < 1000000000
  whole : t.nanos % 1000000 = 0

/-- A point in time as it is written, with a fraction if it is not a full second. -/
def writeTime (form : YearForm) (t : Instant) : Bytes :=
  let d := t.toDateTime
  timeOctets
    (Ascii.padded form.digits (d.date.year.toNat % 10 ^ form.digits) ++ Ascii.padded 2 d.date.month ++ Ascii.padded 2 d.date.day ++
      Ascii.padded 2 d.hour ++ Ascii.padded 2 d.minute ++ Ascii.padded 2 d.second)
    (if d.nanos = 0 then none else some (Ascii.padded 3 (d.nanos / 1000000)))

variable {t : Instant}

/-- The digits of a year of the form mean this year. -/
theorem year_of_form {year : Int} (h : form.firstYear ≤ year) (h' : year < form.endYear) :
    (form.year (year.toNat % 10 ^ form.digits) : Int) = year := by
  cases form with
  | two =>
    simp only [YearForm.firstYear, YearForm.endYear] at h h'
    show (YearForm.year .two (year.toNat % 100) : Int) = year
    rw [YearForm.year]
    split <;> omega
  | four =>
    simp only [YearForm.firstYear, YearForm.endYear] at h h'
    show ((year.toNat % 10000 : Nat) : Int) = year
    omega

theorem year_mem_form {n : Nat} (h : n < 10 ^ form.digits) :
    form.firstYear ≤ form.year n ∧ (form.year n : Int) < form.endYear := by
  cases form with
  | two =>
    simp only [YearForm.firstYear, YearForm.endYear, YearForm.digits, YearForm.year] at *
    split <;> omega
  | four =>
    simp only [YearForm.firstYear, YearForm.endYear, YearForm.digits, YearForm.year] at *
    omega

/-- A point in time is in the years of a form if its day is. -/
theorem isWritable_iff : IsWritable form t ↔
    (form.firstYear ≤ t.toDateTime.date.year ∧ t.toDateTime.date.year < form.endYear) ∧
      t.nanos < 1000000000 ∧ t.nanos % 1000000 = 0 := by
  obtain ⟨hdate, hday⟩ := Date.ofDayNumber_spec (t.seconds / 86400)
  have hfirst : (Date.mk form.firstYear 1 1).dayNumber * 86400 ≤ t.seconds ↔ form.firstYear ≤ t.toDateTime.date.year := by
    rw [← Int.le_ediv_iff_mul_le (by decide), ← hday, Date.firstOfYear_le_iff hdate]
    rfl
  have hend : t.seconds < (Date.mk form.endYear 1 1).dayNumber * 86400 ↔ t.toDateTime.date.year < form.endYear := by
    rw [← Int.ediv_lt_iff_lt_mul (by decide), ← not_le, ← hday, Date.firstOfYear_le_iff hdate, not_le]
    rfl
  constructor
  · rintro ⟨h, h', hnanos, hwhole⟩
    exact ⟨⟨hfirst.mp h, hend.mp h'⟩, hnanos, hwhole⟩
  · rintro ⟨⟨h, h'⟩, hnanos, hwhole⟩
    exact ⟨hfirst.mpr h, hend.mpr h', hnanos, hwhole⟩

/-- The digits of the year mean the year of the day. -/
theorem IsWritable.year_eq (h : IsWritable form t) :
    (form.year ((Date.ofDayNumber (t.seconds / 86400)).year.toNat % 10 ^ form.digits) : Int) =
      (Date.ofDayNumber (t.seconds / 86400)).year := by
  obtain ⟨⟨hfirst, hend⟩, -⟩ := isWritable_iff.mp h
  rw [Instant.toDateTime_of_lt h.nanos_lt] at hfirst hend
  exact year_of_form hfirst hend

namespace WrittenTime

variable (w : WrittenTime form)

theorem date_instant : w.instant.toDateTime.date = w.date := by
  have hclock := w.clock_lt
  obtain ⟨hdate, hday⟩ := Date.ofDayNumber_spec (w.instant.seconds / 86400)
  refine Date.dayNumber_injective hdate w.exists? (hday.trans ?_)
  simp only [instant, date]
  omega

/-- What is written can be. -/
theorem isWritable : IsWritable form w.instant := by
  have hmillis : w.millis.getD 0 < 1000 := by
    cases hm : w.millis with
    | none => decide
    | some n => exact w.millis_lt n hm
  refine isWritable_iff.mpr ⟨?_, ?_, ?_⟩
  · rw [w.date_instant]
    exact year_mem_form w.year_lt
  · show w.millis.getD 0 * 1000000 < 1000000000
    omega
  · exact Nat.mul_mod_left _ _

/-- The numbers in the fields of a point in time. -/
def ofInstant (t : Instant) (h : IsWritable form t) : WrittenTime form where
  year := (Date.ofDayNumber (t.seconds / 86400)).year.toNat % 10 ^ form.digits
  month := (Date.ofDayNumber (t.seconds / 86400)).month
  day := (Date.ofDayNumber (t.seconds / 86400)).day
  hour := (t.seconds % 86400).toNat / 3600
  minute := (t.seconds % 86400).toNat / 60 % 60
  second := (t.seconds % 86400).toNat % 60
  millis := if t.nanos = 0 then none else some (t.nanos / 1000000)
  year_lt := Nat.mod_lt _ (Nat.pow_pos (by decide))
  exists? := by
    rw [h.year_eq]
    exact (Date.ofDayNumber_spec (t.seconds / 86400)).1
  hour_lt := by omega
  minute_lt := Nat.mod_lt _ (by decide)
  second_lt := Nat.mod_lt _ (by decide)
  millis_lt n hn := by
    have hnanos := h.nanos_lt
    split at hn
    · cases hn
    · cases hn
      omega

theorem octets_ofInstant (h : IsWritable form t) : (ofInstant t h).octets = writeTime form t := by
  rw [writeTime, Instant.toDateTime_of_lt h.nanos_lt, octets, fraction, ofInstant]
  dsimp only
  split <;> rfl

/-- A point in time that can be written is the one that its text says. -/
theorem instant_ofInstant (h : IsWritable form t) : (ofInstant t h).instant = t := by
  have hwhole := h.whole
  have hinstant := Instant.ofDateTime_toDateTime h.nanos_lt
  rw [Instant.toDateTime_of_lt h.nanos_lt, Instant.ofDateTime_of_ne (by dsimp only; omega)] at hinstant
  refine Eq.trans ?_ hinstant
  rw [instant, date, clock, Instant.mk.injEq]
  simp only [ofInstant, h.year_eq, true_and]
  split
  · next hzero => rw [hzero]; rfl
  · rw [Option.getD_some]
    omega

end WrittenTime

/-- What octets are a time, and which one. They are read exactly if they are the text of a day that the calendar has and of a time
of that day, in fields of digits, with a fraction of three digits or none, and `Z`; then they are this point in time. Days are
numbered in the order of the calendar without a gap. The points in time that are read are those of whole thousandths of a second in
the years of the form, and each is read from its own text. Two texts of one form are the same point in time exactly if they are the
same or differ by a fraction of zeros. With four digits of the year, texts without a fraction are in the order of time. -/
theorem time_exact :
    (∀ form b t, time form b = .ok t ↔ ∃ w : WrittenTime form, w.octets = b ∧ w.instant = t) ∧
    Date.CountsDays Date.dayNumber ∧
    (∀ form t, (∃ b, time form b = .ok t) ↔ IsWritable form t) ∧
    (∀ form t, IsWritable form t → time form (writeTime form t) = .ok t) ∧
    (∀ form b b' t t', time form b = .ok t → time form b' = .ok t' →
      (t = t' ↔ b = b' ∨ DifferByZeros b b' ∨ DifferByZeros b' b)) ∧
    ∀ b b' t t', time .four b = .ok t → time .four b' = .ok t' → 0x2e ∉ b → 0x2e ∉ b' → (b < b' ↔ t < t') := by
  refine ⟨fun form b t => time_eq_ok_iff, Date.countsDays_dayNumber, ?writable, ?written, ?same, ?order⟩
  case writable =>
    intro form t
    constructor
    · rintro ⟨b, h⟩
      obtain ⟨w, -, rfl⟩ := time_eq_ok_iff.mp h
      exact w.isWritable
    · intro h
      exact ⟨_, time_eq_ok_iff.mpr ⟨_, rfl, WrittenTime.instant_ofInstant h⟩⟩
  case written =>
    intro form t h
    exact time_eq_ok_iff.mpr ⟨_, WrittenTime.octets_ofInstant h, WrittenTime.instant_ofInstant h⟩
  case same =>
    intro form b b' t t' h h'
    obtain ⟨w, rfl, rfl⟩ := time_eq_ok_iff.mp h
    obtain ⟨w', rfl, rfl⟩ := time_eq_ok_iff.mp h'
    exact w.instant_eq_iff_octets w'
  case order =>
    intro b b' t t' h h' hdot hdot'
    obtain ⟨w, rfl, rfl⟩ := time_eq_ok_iff.mp h
    obtain ⟨w', rfl, rfl⟩ := time_eq_ok_iff.mp h'
    exact WrittenTime.octets_lt_iff w w' (w.millis_eq_none hdot) (w'.millis_eq_none hdot')

/-- The last second but a quarter of a leap day. -/
def leapInstant : Instant := ⟨1709251199, 250000000⟩

theorem time_exact_samples :
    IsWritable .two leapInstant ∧ time .two (Bytes.ofText "240229235959.250Z") = .ok leapInstant ∧
      time .four (Bytes.ofText "20000101000000Z") = .ok ⟨946684800, 0⟩ ∧
      time .four (Bytes.ofText "20000101000000.000Z") = .ok ⟨946684800, 0⟩ ∧
      (Bytes.ofText "20000101000000Z" = Bytes.ofText "20000101000000.000Z" ∨
        DifferByZeros (Bytes.ofText "20000101000000Z") (Bytes.ofText "20000101000000.000Z") ∨
        DifferByZeros (Bytes.ofText "20000101000000.000Z") (Bytes.ofText "20000101000000Z")) ∧
      time .four (Bytes.ofText "19991231235959Z") = .ok ⟨946684799, 0⟩ ∧
      Bytes.ofText "19991231235959Z" < Bytes.ofText "20000101000000Z" := by
  have hwritable : IsWritable .two leapInstant := ⟨by decide, by decide, by decide, by decide⟩
  have hwritten : writeTime .two leapInstant = Bytes.ofText "240229235959.250Z" := by decide +kernel
  have hplain : time .four (Bytes.ofText "20000101000000Z") = .ok ⟨946684800, 0⟩ := by decide +kernel
  have hzeros : time .four (Bytes.ofText "20000101000000.000Z") = .ok ⟨946684800, 0⟩ := by decide +kernel
  have hbefore : time .four (Bytes.ofText "19991231235959Z") = .ok ⟨946684799, 0⟩ := by decide +kernel
  refine ⟨hwritable, hwritten ▸ time_exact.2.2.2.1 .two leapInstant hwritable, hplain, hzeros, ?_, hbefore, ?_⟩
  · exact (time_exact.2.2.2.2.1 .four _ _ _ _ hplain hzeros).mp rfl
  · exact (time_exact.2.2.2.2.2 _ _ _ _ hbefore hplain (by decide +kernel) (by decide +kernel)).mpr (by decide)

end ArtifactTrust.Der.Content
