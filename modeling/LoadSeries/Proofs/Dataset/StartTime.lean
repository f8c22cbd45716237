import LoadSeries.Dataset.StartTime
import LoadSeries.Proofs.Dataset.Calendar
import LoadSeries.Proofs.Dataset.Interval
import LoadSeries.Proofs.Text.Pointed

/-!
When a start time that is written in figures is. A date is read as the midnight with which it
begins, by the calendar and without an offset, and a time of day with an offset is read as the same
time of day without one, earlier by the offset.
-/
namespace LoadSeries
open Text Calendar

namespace StartTime

variable {width n : Nat} {text rest : List Char}

theorem digitsValue_lt (digit : ∀ c ∈ text, isDigit c = true) :
    digitsValue text < 10 ^ text.length := by
  induction text using List.reverseRecOn with
  | nil => decide
  | append_singleton front c ih =>
    have higher := ih fun d member => digit d (List.mem_append_left _ member)
    have last : digitsValue [c] ≤ 9 := by
      have range := digit c (by simp)
      simp only [isDigit, Bool.and_eq_true, decide_eq_true_eq] at range
      simp only [digitsValue, List.foldl_cons, List.foldl_nil, digitValue]
      omega
    rw [digitsValue_append, List.length_append, List.length_singleton, pow_one, pow_succ]
    omega

/-- Of the digits of a fraction those of the milliseconds count, and the others are cut off. -/
theorem fractionMillis_eq (digit : ∀ c ∈ text, isDigit c = true) :
    fractionMillis text = digitsValue text * 1000 / 10 ^ text.length := by
  rcases Nat.le_total text.length 3 with short | long
  · have whole : 1000 = 10 ^ (3 - text.length) * 10 ^ text.length := by
      rw [← pow_add, Nat.sub_add_cancel short]
      rfl
    rw [fractionMillis, List.take_of_length_le short, digitsValue_append_zeros, whole,
      ← Nat.mul_assoc, Nat.mul_div_cancel _ (Nat.pow_pos (by decide))]
  · have rest : digitsValue (text.drop 3) < 10 ^ (text.length - 3) := by
      rw [← List.length_drop]
      exact digitsValue_lt fun c member => digit c (List.mem_of_mem_drop member)
    have value : digitsValue text =
        digitsValue (text.take 3) * 10 ^ (text.length - 3) + digitsValue (text.drop 3) := by
      rw [← List.length_drop, ← digitsValue_append, List.take_append_drop]
    have power : 10 ^ text.length = 1000 * 10 ^ (text.length - 3) := by
      have parts : text.length = 3 + (text.length - 3) := (Nat.add_sub_cancel' long).symm
      rw [parts, pow_add, Nat.add_sub_cancel_left]
      rfl
    rw [fractionMillis, Nat.sub_eq_zero_of_le long, List.replicate_zero, List.append_nil, power,
      Nat.mul_comm (digitsValue text), Nat.mul_div_mul_left _ _ (by decide), value, Nat.mul_comm,
      Nat.mul_add_div (Nat.pow_pos (by decide)), Nat.div_eq_of_lt rest, Nat.add_zero]

theorem takeDigits?_padded (positive : 0 < width) (small : n < 10 ^ width) (rest : List Char) :
    takeDigits? width (paddedDigits width n ++ rest) = some (n, rest) := by
  have length := length_paddedDigits positive small
  have digit : (paddedDigits width n).all isDigit = true :=
    List.all_eq_true.mpr fun c => isDigit_of_mem_paddedDigits
  simp [takeDigits?, length, digit, digitsValue_paddedDigits]

theorem takeNumber?_padded (positive : 0 < width) (small : n < 10 ^ width) (rest : List Char) :
    takeNumber? width (paddedDigits width n ++ rest) = some (n, rest) := by
  have length := length_paddedDigits positive small
  have digits : (paddedDigits width n).takeWhile isDigit = paddedDigits width n :=
    List.takeWhile_eq_self_iff.mpr fun c => isDigit_of_mem_paddedDigits
  have some : paddedDigits width n ≠ [] := by simp [paddedDigits, digits_ne_nil]
  simp [takeNumber?, length, digits, some, digitsValue_paddedDigits]

theorem exists_first_padded (width n : Nat) :
    ∃ c more, paddedDigits width n = c :: more ∧ isDigit c = true := by
  have some : paddedDigits width n ≠ [] := by simp [paddedDigits, digits_ne_nil]
  obtain ⟨c, more, same⟩ := List.exists_cons_of_ne_nil some
  exact ⟨c, more, same, isDigit_of_mem_paddedDigits (same ▸ List.mem_cons_self)⟩

theorem trimStart_padded (width n : Nat) (rest : List Char) :
    trimStart (paddedDigits width n ++ rest) = paddedDigits width n ++ rest := by
  obtain ⟨c, more, same, digit⟩ := exists_first_padded width n
  apply trimStart_of_first
  rw [same]
  rintro _ ⟨⟩
  exact isBlank_of_isDigit digit

theorem takeYear?_padded (small : n < 10000) (rest : List Char) :
    takeYear? (paddedDigits 4 n ++ rest) = some ((n : Int), rest) := by
  have four : n < 10 ^ 4 := small
  have number := takeNumber?_padded (by decide) four rest
  obtain ⟨c, more, same, digit⟩ := exists_first_padded 4 n
  unfold takeYear?
  rw [trimStart_padded]
  rw [same] at number ⊢
  -- A digit is no sign.
  split
  · rename_i sign
    cases sign
    cases digit
  · rename_i sign
    cases sign
    cases digit
  · rw [number]
    rfl

theorem takeChar?_cons (c : Char) (rest : List Char) : takeChar? c (c :: rest) = some rest :=
  if_pos rfl

end StartTime

namespace Date

variable {x : Date}

/-- The date can be written in so many figures as its text has. -/
structure Fits (x : Date) : Prop where
  year : 0 ≤ x.year ∧ x.year ≤ 9999
  month : x.month ≤ 99
  day : x.day ≤ 99

/-- Four figures for the year, two for the month and two for the day. -/
def figures (x : Date) : List Char :=
  paddedDigits 4 x.year.toNat ++ '-' :: (paddedDigits 2 x.month ++ '-' :: paddedDigits 2 x.day)

def text (x : Date) : String := String.ofList x.figures

namespace Fits

variable (fits : x.Fits)
include fits

theorem takeDate?_eq (rest : List Char) : StartTime.takeDate? (x.figures ++ rest) =
    some ((x.year.toNat, x.month, x.day), rest) := by
  obtain ⟨⟨nonneg, year⟩, month, day⟩ := fits
  simp only [figures, List.append_assoc, List.cons_append, StartTime.takeDate?]
  rw [StartTime.takeDigits?_padded (by decide) (by omega)]
  simp only [Option.bind_eq_bind, Option.bind_some, StartTime.takeChar?_cons]
  rw [StartTime.takeDigits?_padded (by decide) (by omega)]
  simp only [Option.bind_some, StartTime.takeChar?_cons]
  rw [StartTime.takeDigits?_padded (by decide) (by omega)]
  rfl

theorem date?_eq : StartTime.date? x.figures = some (x.year, x.month, x.day) := by
  obtain ⟨⟨nonneg, year⟩, month, day⟩ := fits
  have two : x.day < 10 ^ 2 := by omega
  have last := StartTime.takeNumber?_padded (by decide) two []
  rw [List.append_nil] at last
  have blank : trimStart (paddedDigits 2 x.day) = paddedDigits 2 x.day := by
    simpa using StartTime.trimStart_padded 2 x.day []
  simp only [figures, StartTime.date?]
  rw [StartTime.takeYear?_padded (by omega)]
  simp only [Option.bind_eq_bind, Option.bind_some, StartTime.takeChar?_cons]
  rw [StartTime.trimStart_padded, StartTime.takeNumber?_padded (by decide) (by omega)]
  simp only [Option.bind_some, StartTime.takeChar?_cons]
  rw [blank, last, Int.toNat_of_nonneg nonneg]
  rfl

/-- There is no time behind the date. -/
theorem stampMillis?_eq : StartTime.stampMillis? x.figures = none := by
  have date := fits.takeDate?_eq []
  rw [List.append_nil] at date
  simp only [StartTime.stampMillis?, StartTime.stamp?, date]
  rfl

theorem yearInRange : yearInRange x.year = true := by
  obtain ⟨⟨nonneg, year⟩, -, -⟩ := fits
  simp only [Calendar.yearInRange, Bool.and_eq_true, decide_eq_true_eq]
  omega

end Fits

end Date

/-- A time of day on a date, without an offset. -/
structure LocalTime where
  date : Date
  separator : Char
  hour : Nat
  minute : Nat
  second : Nat
  /-- The digits of the fraction of a second; none if it is not written. -/
  fraction : List Char
deriving DecidableEq, Repr

namespace LocalTime

/-- A minute may have a leap second at its end. -/
structure Valid (x : LocalTime) : Prop where
  fits : x.date.Fits
  date : x.date.Exists
  separator : x.separator ∈ ['T', 't', ' ']
  hour : x.hour ≤ 23
  minute : x.minute ≤ 59
  second : x.second ≤ 60
  fraction : ∀ c ∈ x.fraction, isDigit c = true

def fractionFigures (x : LocalTime) : List Char :=
  if x.fraction.isEmpty then [] else '.' :: x.fraction

def clockFigures (x : LocalTime) : List Char :=
  paddedDigits 2 x.hour ++ ':' :: (paddedDigits 2 x.minute ++ ':' :: paddedDigits 2 x.second)

def figures (x : LocalTime) : List Char :=
  x.date.figures ++ x.separator :: (x.clockFigures ++ x.fractionFigures)

def text (x : LocalTime) : String := String.ofList x.figures

/-- Milliseconds from midnight on. -/
def millis (x : LocalTime) : Nat :=
  ((x.hour * 60 + x.minute) * 60 + x.second) * 1000 +
    digitsValue x.fraction * 1000 / 10 ^ x.fraction.length

end LocalTime

/-- How far a local time is from that of the prime meridian, in hours and minutes. -/
structure NumericOffset where
  behind : Bool
  hours : Nat
  minutes : Nat
deriving DecidableEq, Repr

namespace NumericOffset

structure Valid (x : NumericOffset) : Prop where
  hours : x.hours ≤ 23
  minutes : x.minutes ≤ 59

def figures (x : NumericOffset) : List Char :=
  (if x.behind then '-' else '+') :: (paddedDigits 2 x.hours ++ ':' :: paddedDigits 2 x.minutes)

def text (x : NumericOffset) : String := String.ofList x.figures

def inMinutes (x : NumericOffset) : Int :=
  if x.behind then -(x.hours * 60 + x.minutes) else x.hours * 60 + x.minutes

variable {x : NumericOffset}

theorem Valid.offset?_eq (valid : x.Valid) : StartTime.offset? x.figures = some x.inMinutes := by
  obtain ⟨hours, minutes⟩ := valid
  have small : x.hours < 10 ^ 2 ∧ x.minutes < 10 ^ 2 := ⟨by omega, by omega⟩
  have last := StartTime.takeDigits?_padded (by decide) small.2 []
  rw [List.append_nil] at last
  have hour := StartTime.takeDigits?_padded (by decide) small.1 (':' :: paddedDigits 2 x.minutes)
  cases sign : x.behind <;>
    simp [figures, StartTime.offset?, StartTime.signFactor?, hour, last, StartTime.takeChar?_cons,
      sign, hours, minutes, inMinutes]

end NumericOffset

namespace LocalTime

variable {x : LocalTime} {behind : List Char} {offset : Int}

theorem Valid.takeClock?_eq (valid : x.Valid) (rest : List Char) :
    StartTime.takeClock? (x.clockFigures ++ rest) = some ((x.hour, x.minute, x.second), rest) := by
  have hour := valid.hour
  have minute := valid.minute
  have second := valid.second
  simp only [clockFigures, List.append_assoc, List.cons_append, StartTime.takeClock?]
  rw [StartTime.takeDigits?_padded (by decide) (by omega)]
  simp only [Option.bind_eq_bind, Option.bind_some, StartTime.takeChar?_cons]
  rw [StartTime.takeDigits?_padded (by decide) (by omega)]
  simp only [Option.bind_some, StartTime.takeChar?_cons]
  rw [StartTime.takeDigits?_padded (by decide) (by omega)]
  rfl

/-- An offset shows where the fraction in front of it ends. -/
theorem first_of_offset? (read : StartTime.offset? behind = some offset) :
    ∀ c ∈ behind.head?, isDigit c = false ∧ c ≠ '.' := by
  cases behind with
  | nil => simp
  | cons c rest =>
    rintro _ ⟨⟩
    have known : (c = 'Z' ∨ c = 'z') ∨ c = '+' ∨ c = '-' ∨ c = Char.ofNat 0x2212 := by
      by_contra other
      obtain ⟨letter, other⟩ := not_or.mp other
      obtain ⟨plus, minus⟩ := not_or.mp other
      simp [StartTime.offset?, StartTime.signFactor?, letter, plus, minus] at read
    rcases known with (rfl | rfl) | rfl | rfl | rfl <;> decide

theorem Valid.takeFraction?_eq (valid : x.Valid)
    (ends : ∀ c ∈ behind.head?, isDigit c = false ∧ c ≠ '.') :
    StartTime.takeFraction? (x.fractionFigures ++ behind) =
      some (digitsValue x.fraction * 1000 / 10 ^ x.fraction.length, behind) := by
  have value := StartTime.fractionMillis_eq valid.fraction
  have none : behind.takeWhile isDigit = [] := by
    cases behind with
    | nil => rfl
    | cons c rest => exact List.takeWhile_cons_of_neg (by simp [(ends c rfl).1])
  have digits : (x.fraction ++ behind).takeWhile isDigit = x.fraction := by
    rw [List.takeWhile_append_of_pos valid.fraction, none, List.append_nil]
  unfold fractionFigures
  cases absent : x.fraction.isEmpty with
  | true =>
    rw [List.isEmpty_iff.mp absent, if_pos rfl]
    unfold StartTime.takeFraction?
    split
    · rename_i rest same
      have point : behind.head? = some '.' := congrArg List.head? same
      exact absurd rfl (ends '.' point).2
    · rfl
  | false => simp [StartTime.takeFraction?, digits, value, absent]

theorem Valid.stamp?_eq (valid : x.Valid) (read : StartTime.offset? behind = some offset) :
    StartTime.stamp? (x.figures ++ behind) = some ⟨x.date.year, x.date.month, x.date.day, x.hour,
      x.minute, x.second, digitsValue x.fraction * 1000 / 10 ^ x.fraction.length, offset⟩ := by
  have separator (rest : List Char) :
      StartTime.takeSeparator? (x.separator :: rest) = some rest := by
    apply if_pos
    simpa using valid.separator
  simp only [figures, List.append_assoc, List.cons_append, StartTime.stamp?,
    valid.fits.takeDate?_eq, Option.bind_eq_bind, Option.bind_some, separator,
    valid.takeClock?_eq, valid.takeFraction?_eq (first_of_offset? read), read, Option.pure_def,
    Int.toNat_of_nonneg valid.fits.year.1]

/-- The time that is read, with or without an offset in the text. -/
theorem Valid.stampMillis?_eq (valid : x.Valid) (read : StartTime.offset? behind = some offset) :
    StartTime.stampMillis? (x.figures ++ behind) =
      some (x.date.number * 86400000 + x.millis - offset * 60000) := by
  have date := (Date.isDate_iff valid.fits.yearInRange).mpr valid.date
  simp only [StartTime.stampMillis?, valid.stamp?_eq read, StartTime.Stamp.isValid, date,
    valid.hour, valid.minute, valid.second, decide_true, Bool.and_true, if_true,
    StartTime.Stamp.millis, Option.some.injEq, millis, millisPerDay, Date.number]
  push_cast
  ring

end LocalTime

theorem Date.Fits.number_bounds {x : Date} (fits : x.Fits) (present : x.Exists) :
    -1000000 ≤ x.number ∧ x.number ≤ 3000000 := by
  obtain ⟨⟨nonneg, year⟩, -, -⟩ := fits
  obtain ⟨low, high⟩ := Date.number_within present
  unfold daysBeforeYear at low high
  omega

theorem LocalTime.Valid.millis_le {x : LocalTime} (valid : x.Valid) : x.millis ≤ 90000000 := by
  have part : digitsValue x.fraction * 1000 / 10 ^ x.fraction.length < 1000 := by
    rw [Nat.div_lt_iff_lt_mul (Nat.pow_pos (by decide)), Nat.mul_comm 1000]
    exact Nat.mul_lt_mul_of_pos_right (StartTime.digitsValue_lt valid.fraction) (by decide)
  have hour := valid.hour
  have minute := valid.minute
  have second := valid.second
  unfold millis
  omega

theorem NumericOffset.Valid.inMinutes_bounds {x : NumericOffset} (valid : x.Valid) :
    -1440 < x.inMinutes ∧ x.inMinutes < 1440 := by
  obtain ⟨hours, minutes⟩ := valid
  unfold inMinutes
  split <;> omega

namespace StartTime

variable {x : Date} {v : Int64}

theorem toMillis_of_stampMillis? {s : String} {value : Int}
    (read : stampMillis? s.toList = some value) (fits : Cadence.IsInt64 value) :
    ∃ v, (text s).toMillis = .ok v ∧ v.toInt = value := by
  refine ⟨Int64.ofInt value, ?_, Int64.toInt_ofInt_of_le fits.1 fits.2⟩
  simp only [toMillis, textMillis, read]

theorem toMillis_of_exists (fits : x.Fits) (present : x.Exists) :
    ∃ v, (text x.text).toMillis = .ok v ∧ v.toInt = x.number * 86400000 := by
  have date := (Date.isDate_iff fits.yearInRange).mpr present
  have bounds := fits.number_bounds present
  refine ⟨Int64.ofInt (x.number * 86400000), ?_, Int64.toInt_ofInt_of_le (by omega) (by omega)⟩
  simp only [toMillis, textMillis, Date.text, String.toList_ofList, fits.stampMillis?_eq,
    dateMillis?, fits.date?_eq, date, if_true]
  rfl

theorem toMillis_of_not_exists (fits : x.Fits) (absent : ¬ x.Exists) :
    (text x.text).toMillis = .error (.invalidStartTime x.text) := by
  have none : isDate x.year x.month x.day = false :=
    Bool.eq_false_iff.mpr fun date => absent ((Date.isDate_iff fits.yearInRange).mp date)
  simp only [toMillis, textMillis, Date.text, String.toList_ofList, fits.stampMillis?_eq,
    dateMillis?, fits.date?_eq, none, Bool.false_eq_true, if_false]

/-- The time with which a date begins. -/
def midnight (x : Date) : LocalTime := ⟨x, 'T', 0, 0, 0, []⟩

theorem figures_midnight (x : Date) :
    (x.text ++ "T00:00:00Z").toList = (midnight x).figures ++ ['Z'] := by
  have zeros : paddedDigits 2 0 = ['0', '0'] := by
    rw [paddedDigits, digits_zero]
    rfl
  simp [Date.text, midnight, LocalTime.figures, LocalTime.clockFigures,
    LocalTime.fractionFigures, zeros]

theorem stampMillis?_midnight (fits : x.Fits) (present : x.Exists) :
    stampMillis? (x.text ++ "T00:00:00Z").toList = some (x.number * 86400000) := by
  have valid : (midnight x).Valid := by
    refine ⟨fits, present, ?_, ?_, ?_, ?_, ?_⟩ <;> simp [midnight]
  rw [figures_midnight, valid.stampMillis?_eq rfl]
  simp [midnight, LocalTime.millis, digitsValue]

/-- A date in figures is read as a start time if and only if it is on the calendar, and then as the
milliseconds of the days since the first of January 1970, one day behind the date before; so is the
midnight of the date as a time stamp. A time stamp with an offset in figures is that of the same
local time without an offset, less the offset. -/
theorem follows_calendar :
    (∀ x : Date, x.Fits →
      ((∃ v, (text x.text).toMillis = .ok v) ↔ x.Exists) ∧
      ∀ v, (text x.text).toMillis = .ok v →
        (∃ days, (∀ n, Date.Apart .epoch x n ↔ n = days) ∧ v.toInt = 86400000 * days) ∧
        stampMillis? (x.text ++ "T00:00:00Z").toList = some v.toInt ∧
        (text (x.text ++ "T00:00:00Z")).toMillis = .ok v ∧
        (x.next.Fits → ∃ w, (text x.next.text).toMillis = .ok w ∧
          w.toInt = v.toInt + 86400000)) ∧
    ∀ (x : LocalTime) (offset : NumericOffset), x.Valid → offset.Valid → ∃ v w,
      (text (x.text ++ "Z")).toMillis = .ok v ∧ (text (x.text ++ offset.text)).toMillis = .ok w ∧
        w.toInt = v.toInt - 60000 * offset.inMinutes ∧
        ∃ days, Date.Apart .epoch x.date days ∧ v.toInt = 86400000 * days + x.millis := by
  refine ⟨fun x fits => ⟨⟨?_, ?_⟩, fun v read => ?_⟩, fun x offset valid within => ?_⟩
  · rintro ⟨v, read⟩
    by_contra absent
    rw [toMillis_of_not_exists fits absent] at read
    cases read
  · intro present
    obtain ⟨v, read, -⟩ := toMillis_of_exists fits present
    exact ⟨v, read⟩
  · have present : x.Exists := by
      by_contra absent
      rw [toMillis_of_not_exists fits absent] at read
      cases read
    obtain ⟨v', again, value⟩ := toMillis_of_exists fits present
    obtain rfl : v' = v := Except.ok.inj (again.symm.trans read)
    have stamp := stampMillis?_midnight fits present
    rw [← value] at stamp
    refine ⟨⟨x.number, Date.apart_epoch_iff present, by omega⟩, stamp, ?_, fun fits' => ?_⟩
    · simp only [toMillis, textMillis, stamp, Int64.ofInt_toInt]
    · obtain ⟨w, later, value'⟩ := toMillis_of_exists fits' present.next
      have step := present.number_next
      exact ⟨w, later, by omega⟩
  · have bounds := valid.fits.number_bounds valid.date
    have small := valid.millis_le
    have shift := within.inMinutes_bounds
    have utc : offset? ['Z'] = some 0 := rfl
    obtain ⟨v, read, value⟩ := toMillis_of_stampMillis? (s := x.text ++ "Z")
      (by simpa [LocalTime.text] using valid.stampMillis?_eq utc) ⟨by omega, by omega⟩
    obtain ⟨w, read', value'⟩ := toMillis_of_stampMillis? (s := x.text ++ offset.text)
      (by simpa [LocalTime.text, NumericOffset.text] using valid.stampMillis?_eq within.offset?_eq)
      ⟨by omega, by omega⟩
    refine ⟨v, w, read, read', by omega, x.date.number, ?_, by omega⟩
    rw [Date.apart_epoch_iff valid.date]

def leapDay : Date := ⟨2000, 2, 29⟩

def leapSecond : LocalTime := ⟨⟨2016, 12, 31⟩, 'T', 23, 59, 60, ['5']⟩

theorem valid_leapSecond : leapSecond.Valid where
  fits := ⟨by decide, by decide, by decide⟩
  date := ⟨by decide, by decide⟩
  separator := by simp [leapSecond]
  hour := by decide
  minute := by decide
  second := by decide
  fraction := by simp [leapSecond, isDigit]

/-- A leap day, one that the end of a century has not, and a leap second in another time zone. -/
theorem follows_calendar_leap :
    (∃ v, (text "2000-02-29").toMillis = .ok v ∧ v.toInt = 86400000 * 11016 ∧
      (text "2000-02-29T00:00:00Z").toMillis = .ok v ∧
      ∃ w, (text "2000-03-01").toMillis = .ok w ∧ w.toInt = v.toInt + 86400000) ∧
    (∀ v, (text "1900-02-29").toMillis ≠ .ok v) ∧
    ∃ v w, (text "2016-12-31T23:59:60.5Z").toMillis = .ok v ∧
      (text "2016-12-31T23:59:60.5+05:30").toMillis = .ok w ∧ w.toInt = v.toInt - 60000 * 330 := by
  obtain ⟨dates, stamps⟩ := follows_calendar
  refine ⟨?_, fun v read => ?_, ?_⟩
  · have written : leapDay.text = "2000-02-29" ∧ leapDay.next.text = "2000-03-01" := by
      decide +kernel
    have present : leapDay.Exists := ⟨by decide, by decide⟩
    obtain ⟨accepts, exactly⟩ := dates leapDay ⟨by decide, by decide, by decide⟩
    obtain ⟨v, read⟩ := accepts.mpr present
    obtain ⟨⟨days, count, value⟩, -, midnight, onward⟩ := exactly v read
    obtain rfl : 11016 = days := (count 11016).mp ((Date.apart_epoch_iff present _).mpr rfl)
    rw [written.1] at read midnight
    obtain ⟨w, later, step⟩ := onward ⟨by decide, by decide, by decide⟩
    rw [written.2] at later
    exact ⟨v, read, value, midnight, w, later, step⟩
  · have written : (⟨1900, 2, 29⟩ : Date).text = "1900-02-29" := by decide +kernel
    obtain ⟨accepts, -⟩ := dates ⟨1900, 2, 29⟩ ⟨by decide, by decide, by decide⟩
    rw [written] at accepts
    exact absurd (accepts.mp ⟨v, read⟩).day.2 (by decide)
  · have written : leapSecond.text ++ "Z" = "2016-12-31T23:59:60.5Z" ∧
        leapSecond.text ++ NumericOffset.text ⟨false, 5, 30⟩ = "2016-12-31T23:59:60.5+05:30" := by
      decide +kernel
    obtain ⟨v, w, read, read', shift, -⟩ :=
      stamps leapSecond ⟨false, 5, 30⟩ valid_leapSecond ⟨by decide, by decide⟩
    rw [written.1] at read
    rw [written.2] at read'
    exact ⟨v, w, read, read', shift⟩

end StartTime

end LoadSeries
