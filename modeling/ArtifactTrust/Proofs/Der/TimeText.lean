import ArtifactTrust.Der.Content
import ArtifactTrust.Proofs.Bytes
import ArtifactTrust.Proofs.Text.Field
import ArtifactTrust.Proofs.Time.Instant
import Mathlib.Data.List.TakeDrop

/-!
# The text of a time

A time is written in fields of digits, with a fraction of three digits or none, and `Z`. The fields hold a day that the calendar
has and a time of that day (`Content.WrittenTime`). Main statement: what is written is read, as the point in time that was written,
and nothing else is read (`Content.time_eq_ok_iff`).
-/

namespace ArtifactTrust.Der.Content

variable {form : YearForm}

/-! ## Fields -/

section Reading

variable {cs digits : List Char} {fraction : Option (List Char)} {start width n : Nat}

theorem YearForm.digits_pos (form : YearForm) : 0 < form.digits := by cases form <;> decide

theorem field_eq_value (cs : List Char) (start width : Nat) :
    field cs start width = Ascii.value ((cs.drop start).take width) := by
  rw [field, Ascii.value, Nat.ofDigitChars]
  congr
  funext n c
  rw [Nat.mul_comm]

/-- The number of digits that stand between others. -/
theorem field_append (front middle back : List Char) :
    field (front ++ (middle ++ back)) front.length middle.length = Ascii.value middle := by
  rw [field_eq_value, List.drop_left, List.take_left]

/-- The numbers of fields that stand one after the other. -/
theorem field_fields {y m d h n s : List Char} (hy : y.length = width) (hm : m.length = 2) (hd : d.length = 2)
    (hh : h.length = 2) (hn : n.length = 2) (hs : s.length = 2) :
    field (y ++ m ++ d ++ h ++ n ++ s) 0 width = Ascii.value y ∧
    field (y ++ m ++ d ++ h ++ n ++ s) width 2 = Ascii.value m ∧
    field (y ++ m ++ d ++ h ++ n ++ s) (width + 2) 2 = Ascii.value d ∧
    field (y ++ m ++ d ++ h ++ n ++ s) (width + 4) 2 = Ascii.value h ∧
    field (y ++ m ++ d ++ h ++ n ++ s) (width + 6) 2 = Ascii.value n ∧
    field (y ++ m ++ d ++ h ++ n ++ s) (width + 8) 2 = Ascii.value s := by
  have hyear := field_append [] y (m ++ d ++ h ++ n ++ s)
  have hmonth := field_append y m (d ++ h ++ n ++ s)
  have hday := field_append (y ++ m) d (h ++ n ++ s)
  have hhour := field_append (y ++ m ++ d) h (n ++ s)
  have hminute := field_append (y ++ m ++ d ++ h) n s
  have hsecond := field_append (y ++ m ++ d ++ h ++ n) s []
  simp only [List.length_append, List.length_nil, hy, hm, hd, hh, hn, hs, List.append_assoc, List.nil_append, List.append_nil,
    Nat.reduceAdd] at hyear hmonth hday hhour hminute hsecond ⊢
  exact ⟨hyear, hmonth, hday, hhour, hminute, hsecond⟩

/-- The field at a place, with zeros in front of its number. -/
theorem padded_field (h : ∀ c ∈ cs, Ascii.isDigit c = true) (hwidth : 0 < width) (hlen : start + width ≤ cs.length) :
    Ascii.padded width (field cs start width) = (cs.drop start).take width := by
  have hfield : ((cs.drop start).take width).length = width := by
    rw [List.length_take, List.length_drop]
    omega
  have hdigits : ∀ c ∈ (cs.drop start).take width, Ascii.isDigit c = true :=
    fun c hc => h c (List.mem_of_mem_drop (List.mem_of_mem_take hc))
  have hpadded := Ascii.padded_value hdigits (List.length_pos_iff.mp (by omega))
  rwa [hfield, ← field_eq_value] at hpadded

theorem field_lt (h : ∀ c ∈ cs, Ascii.isDigit c = true) (hlen : start + width ≤ cs.length) :
    field cs start width < 10 ^ width := by
  have hvalue : Ascii.value ((cs.drop start).take width) < 10 ^ ((cs.drop start).take width).length :=
    Ascii.value_lt fun c hc => h c (List.mem_of_mem_drop (List.mem_of_mem_take hc))
  rwa [List.length_take, List.length_drop, Nat.min_eq_left (by omega), ← field_eq_value] at hvalue

/-- Digits are the fields that they are cut into, one after the other. -/
theorem padded_fields (h : ∀ c ∈ cs, Ascii.isDigit c = true) (hwidth : 0 < width) (hlen : cs.length = width + 10) :
    Ascii.padded width (field cs 0 width) ++ Ascii.padded 2 (field cs width 2) ++ Ascii.padded 2 (field cs (width + 2) 2) ++
      Ascii.padded 2 (field cs (width + 4) 2) ++ Ascii.padded 2 (field cs (width + 6) 2) ++
      Ascii.padded 2 (field cs (width + 8) 2) = cs := by
  have hcut : ∀ start size, (cs.drop start).take size ++ cs.drop (start + size) = cs.drop start := by
    intro start size
    rw [← List.drop_drop, List.take_append_drop]
  have hlast : (cs.drop (width + 8)).take 2 = cs.drop (width + 8) := List.take_of_length_le (by rw [List.length_drop]; omega)
  have hyear := hcut 0 width
  rw [Nat.zero_add] at hyear
  rw [padded_field h hwidth (by omega), padded_field h (by decide) (by omega), padded_field h (by decide) (by omega),
    padded_field h (by decide) (by omega), padded_field h (by decide) (by omega), padded_field h (by decide) (by omega), hlast]
  simp only [List.append_assoc]
  rw [hcut (width + 6) 2, hcut (width + 4) 2, hcut (width + 2) 2, hcut width 2, hyear]
  rfl

/-! ## The fraction -/

theorem splitAtDot_append (h : '.' ∉ digits) (fraction : Option (List Char)) :
    splitAtDot (digits ++ fraction.elim [] ('.' :: ·)) = (digits, fraction) := by
  have hall : ∀ c ∈ digits, (c != '.') = true := by
    intro c hc
    rw [bne_iff_ne]
    rintro rfl
    exact h hc
  rw [splitAtDot, List.span_eq_takeWhile_dropWhile, List.takeWhile_append_of_pos hall, List.dropWhile_append_of_pos hall]
  cases fraction <;> simp

theorem eq_append_of_splitAtDot (h : splitAtDot cs = (digits, fraction)) : cs = digits ++ fraction.elim [] ('.' :: ·) := by
  have hcs := List.takeWhile_append_dropWhile (p := (· != '.')) (l := cs)
  rw [splitAtDot, List.span_eq_takeWhile_dropWhile] at h
  split at h
  case h_1 before hspan =>
    obtain ⟨rfl, hafter⟩ := Prod.mk.inj hspan
    obtain ⟨rfl, rfl⟩ := Prod.mk.inj h
    rw [hafter] at hcs
    exact hcs.symm
  case h_2 before dot after hspan =>
    obtain ⟨rfl, hafter⟩ := Prod.mk.inj hspan
    obtain ⟨rfl, rfl⟩ := Prod.mk.inj h
    have hdot : dot = '.' := by
      have hhead := List.head?_dropWhile_not (· != '.') cs
      rw [hafter] at hhead
      simpa using hhead
    rw [hafter, hdot] at hcs
    exact hcs.symm

/-! ## Reading -/

/-- The digits and the fraction of a time: as many digits as the fields have, and three digits of a fraction if there is one. -/
structure HasForm (form : YearForm) (digits : List Char) (fraction : Option (List Char)) : Prop where
  length : digits.length = form.digits + 10
  isDigit : ∀ c ∈ digits, Ascii.isDigit c = true
  fraction : ∀ f ∈ fraction, f.length = 3 ∧ ∀ c ∈ f, Ascii.isDigit c = true

/-- The octets of digits, of a fraction behind a dot, and of `Z`. -/
def timeOctets (digits : List Char) (fraction : Option (List Char)) : Bytes :=
  Bytes.ofText (String.ofList (digits ++ fraction.elim [] ('.' :: ·) ++ ['Z']))

/-- The date and time of day in the fields. -/
def dateTime (form : YearForm) (digits : List Char) (fraction : Option (List Char)) : DateTime where
  date := ⟨form.year (field digits 0 form.digits), field digits form.digits 2, field digits (form.digits + 2) 2⟩
  hour := field digits (form.digits + 4) 2
  minute := field digits (form.digits + 6) 2
  second := field digits (form.digits + 8) 2
  nanos := (fraction.elim 0 fun f => field f 0 3) * 1000000

/-- A day that the calendar has and a time of that day, none of them a leap second. -/
def IsClockTime (t : DateTime) : Prop := t.date.exists? ∧ t.hour < 24 ∧ t.minute < 60 ∧ t.second < 60

theorem time_timeOctets (h : HasForm form digits fraction) (hclock : IsClockTime (dateTime form digits fraction)) :
    time form (timeOctets digits fraction) = .ok (Instant.ofDateTime (dateTime form digits fraction)) := by
  have hdot : '.' ∉ digits := by
    intro hmem
    exact absurd (h.isDigit '.' hmem) (by decide)
  have hformat : ¬ ((digits ++ fraction.elim [] ('.' :: ·) ++ ['Z']).getLast? ≠ some 'Z' ∨ digits.length ≠ form.digits + 10 ∨
      (!digits.all Ascii.isDigit) = true ∨ (!fraction.all fun f => f.length == 3 && f.all Ascii.isDigit) = true) := by
    have hfraction : (fraction.all fun f => f.length == 3 && f.all Ascii.isDigit) = true := by
      rw [Option.all_eq_true]
      intro f hf
      simpa using h.fraction f hf
    simp [h.length, List.all_eq_true.mpr h.isDigit, hfraction]
  rw [time, timeOctets, Bytes.text?_ofText]
  dsimp only
  rw [String.toList_ofList, List.dropLast_concat, splitAtDot_append hdot]
  dsimp only
  rw [if_neg hformat]
  exact if_pos hclock

/-- Nothing but digits, a fraction if there is one, and `Z` is read as a time. -/
theorem exists_timeOctets {b : Bytes} {t : Instant} (h : time form b = .ok t) :
    ∃ digits fraction, timeOctets digits fraction = b ∧ HasForm form digits fraction ∧
      IsClockTime (dateTime form digits fraction) ∧ Instant.ofDateTime (dateTime form digits fraction) = t := by
  unfold time at h
  cases htext : Bytes.text? b with
  | none =>
    rw [htext] at h
    cases h
  | some text =>
    obtain rfl := Bytes.text?_eq_some_iff.mp htext
    rw [htext] at h
    cases hsplit : splitAtDot text.toList.dropLast with
    | mk digits fraction =>
      simp only [hsplit] at h
      split at h
      case isTrue => cases h
      case isFalse hformat =>
        split at h
        case isFalse => cases h
        case isTrue hclock =>
          simp only [not_or, not_not, Bool.not_eq_true', Bool.not_eq_false] at hformat
          obtain ⟨hlast, hlength, hdigits, hfraction⟩ := hformat
          have hlist : digits ++ fraction.elim [] ('.' :: ·) ++ ['Z'] = text.toList := by
            rw [← eq_append_of_splitAtDot hsplit]
            exact List.dropLast_append_getLast? 'Z' hlast
          refine ⟨digits, fraction, ?_, ⟨hlength, List.all_eq_true.mp hdigits, ?_⟩, hclock, Except.ok.inj h⟩
          · rw [timeOctets, hlist, String.ofList_toList]
          · rintro f rfl
            simpa using hfraction

end Reading

/-! ## Writing -/

/-- A time as it is written: the numbers in its fields, which are a day that the calendar has and a time of that day. -/
structure WrittenTime (form : YearForm) where
  year : Nat
  month : Nat
  day : Nat
  hour : Nat
  minute : Nat
  second : Nat
  /-- The thousandths of a second, if there is a fraction. -/
  millis : Option Nat
  year_lt : year < 10 ^ form.digits
  exists? : (Date.mk (form.year year) month day).exists? = true
  hour_lt : hour < 24
  minute_lt : minute < 60
  second_lt : second < 60
  millis_lt : ∀ n ∈ millis, n < 1000

namespace WrittenTime

variable (w : WrittenTime form)

/-- The day. -/
def date : Date := ⟨form.year w.year, w.month, w.day⟩

/-- The digits of the fields in front of the fraction. -/
def digits : List Char :=
  Ascii.padded form.digits w.year ++ Ascii.padded 2 w.month ++ Ascii.padded 2 w.day ++ Ascii.padded 2 w.hour ++
    Ascii.padded 2 w.minute ++ Ascii.padded 2 w.second

/-- The digits of the fraction. -/
def fraction : Option (List Char) := w.millis.map (Ascii.padded 3)

/-- The octets of the text. -/
def octets : Bytes := timeOctets w.digits w.fraction

/-- The seconds of the day that have passed. -/
def clock : Nat := w.hour * 3600 + w.minute * 60 + w.second

/-- The point in time, in UTC. -/
def instant : Instant where
  seconds := w.date.dayNumber * 86400 + w.clock
  nanos := w.millis.getD 0 * 1000000

theorem month_lt : w.month < 100 := by
  have hmonth := (Date.exists?_iff.mp w.exists?).1.2
  dsimp only at hmonth
  omega

theorem day_lt : w.day < 100 := by
  have hday := (Date.exists?_iff.mp w.exists?).2.2
  have hmost := Date.daysInMonth_le (form.year w.year) w.month
  dsimp only at hday
  omega

/-- The digits of each field are as many as it is wide. -/
theorem length_fields : (Ascii.padded form.digits w.year).length = form.digits ∧ (Ascii.padded 2 w.month).length = 2 ∧
    (Ascii.padded 2 w.day).length = 2 ∧ (Ascii.padded 2 w.hour).length = 2 ∧ (Ascii.padded 2 w.minute).length = 2 ∧
    (Ascii.padded 2 w.second).length = 2 := by
  refine ⟨Ascii.length_padded form.digits_pos w.year_lt, Ascii.length_padded (by decide) w.month_lt,
    Ascii.length_padded (by decide) w.day_lt, Ascii.length_padded (by decide) (Nat.lt_trans w.hour_lt (by decide)),
    Ascii.length_padded (by decide) (Nat.lt_trans w.minute_lt (by decide)),
    Ascii.length_padded (by decide) (Nat.lt_trans w.second_lt (by decide))⟩

theorem hasForm : HasForm form w.digits w.fraction := by
  obtain ⟨hyear, hmonth, hday, hhour, hminute, hsecond⟩ := w.length_fields
  refine ⟨?length, ?digits, ?fraction⟩
  case length => simp only [digits, List.length_append, hyear, hmonth, hday, hhour, hminute, hsecond]
  case digits =>
    intro c hc
    simp only [digits, List.mem_append] at hc
    rcases hc with ((((hc | hc) | hc) | hc) | hc) | hc <;> exact Ascii.isDigit_of_mem_padded _ _ c hc
  case fraction =>
    intro f hf
    obtain ⟨n, hn, rfl⟩ := Option.map_eq_some_iff.mp hf
    exact ⟨Ascii.length_padded (by decide) (w.millis_lt n hn), Ascii.isDigit_of_mem_padded 3 n⟩

/-- The fields hold the numbers that were written. -/
theorem dateTime_digits : dateTime form w.digits w.fraction =
    ⟨w.date, w.hour, w.minute, w.second, w.millis.getD 0 * 1000000⟩ := by
  obtain ⟨hyear, hmonth, hday, hhour, hminute, hsecond⟩ := w.length_fields
  obtain ⟨fyear, fmonth, fday, fhour, fminute, fsecond⟩ := field_fields hyear hmonth hday hhour hminute hsecond
  have hmillis : (w.fraction.elim 0 fun f => field f 0 3) = w.millis.getD 0 := by
    rw [fraction]
    cases hm : w.millis with
    | none => rfl
    | some n =>
      have hthree := field_append [] (Ascii.padded 3 n) []
      rw [Ascii.length_padded (by decide) (w.millis_lt n hm)] at hthree
      simpa using hthree
  rw [dateTime, digits, fyear, fmonth, fday, fhour, fminute, fsecond, hmillis]
  simp only [Ascii.value_padded]
  rfl

theorem isClockTime : IsClockTime ⟨w.date, w.hour, w.minute, w.second, w.millis.getD 0 * 1000000⟩ :=
  ⟨w.exists?, w.hour_lt, w.minute_lt, w.second_lt⟩

/-- What is written is read, as the point in time that was written. -/
theorem time_octets : time form w.octets = .ok w.instant := by
  have hread := time_timeOctets w.hasForm (w.dateTime_digits ▸ w.isClockTime)
  have hsecond := w.second_lt
  rw [w.dateTime_digits, Instant.ofDateTime_of_ne (by dsimp only; omega)] at hread
  exact hread

end WrittenTime

/-- Digits in the form of a time, which say a time that exists, are a time as it is written. -/
theorem exists_writtenTime {digits : List Char} {fraction : Option (List Char)} (h : HasForm form digits fraction)
    (hclock : IsClockTime (dateTime form digits fraction)) :
    ∃ w : WrittenTime form, w.digits = digits ∧ w.fraction = fraction := by
  have hlength := h.length
  have hpadded : ∀ f ∈ fraction, Ascii.padded 3 (field f 0 3) = f := by
    intro f hf
    obtain ⟨hthree, hdigits⟩ := h.fraction f hf
    rw [padded_field hdigits (by decide) (by omega), List.drop_zero, List.take_of_length_le (by omega)]
  have hmillis : ∀ n ∈ fraction.map fun f => field f 0 3, n < 1000 := by
    intro n hn
    obtain ⟨f, hf, rfl⟩ := Option.map_eq_some_iff.mp hn
    obtain ⟨hthree, hdigits⟩ := h.fraction f hf
    exact field_lt hdigits (by omega)
  obtain ⟨hdate, hhour, hminute, hsecond⟩ := hclock
  refine ⟨⟨_, _, _, _, _, _, fraction.map fun f => field f 0 3, field_lt h.isDigit (by omega), hdate, hhour, hminute, hsecond,
    hmillis⟩, padded_fields h.isDigit form.digits_pos hlength, ?_⟩
  cases fraction with
  | none => rfl
  | some f => exact congrArg some (hpadded f rfl)

/-- What is read as a time is one as it is written. -/
theorem time_eq_ok_iff {b : Bytes} {t : Instant} :
    time form b = .ok t ↔ ∃ w : WrittenTime form, w.octets = b ∧ w.instant = t := by
  constructor
  · intro h
    obtain ⟨digits, fraction, rfl, hform, hclock, -⟩ := exists_timeOctets h
    obtain ⟨w, rfl, rfl⟩ := exists_writtenTime hform hclock
    exact ⟨w, rfl, Except.ok.inj (w.time_octets.symm.trans h)⟩
  · rintro ⟨w, rfl, rfl⟩
    exact w.time_octets

end ArtifactTrust.Der.Content
