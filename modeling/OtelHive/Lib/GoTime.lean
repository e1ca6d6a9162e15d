import Mathlib.Algebra.Group.Nat.Defs
import Mathlib.Data.List.Basic
import Mathlib.Order.Basic
import Mathlib.Tactic.SplitIfs

/-!
# `OtelHive.Lib.GoTime`: instants, dates and their texts

Go's `time` package on instants in UTC. An `Instant` counts nanoseconds from the zero time,
the start of year 1. `dateOfDay` and `dayOfDate` convert between days and dates of the
proleptic Gregorian calendar; years are counted from March, so that the leap day is the last
day of its year.

`formatDateTime` and `formatRFC3339Nano` are `Format` with the layouts
`"2006-01-02 15:04:05"` and `time.RFC3339Nano`. `parseDateTime` is `Parse` with the first
layout. Main results:

- `dayOfDate_dateOfDay`: the two conversions are inverse;
- `parseDateTime_formatDateTime`: a text of the layout parses to the whole second it was
  written from, for the years 0 to 9999;
- `parseDateTime_formatRFC3339Nano`: no RFC 3339 text parses under the layout.
-/

set_option autoImplicit false

namespace OtelHive.Lib.GoTime

/-! ### Dates -/

/-- A date. The month and the day count from 1. -/
structure Date where
  year : Int
  month : Nat
  day : Nat
deriving DecidableEq

/-- A day, counted in years from March. An era has 400 years, and a century, a quad and a
year are numbered within the next larger one. -/
structure YearDay where
  era : Int
  century : Int
  quad : Int
  year : Int
  day : Int

/-- The parts of the day `n`, where day 0 is the first of January of year 1. The last century
of an era and the last year of a quad have one more day, so both numbers are cut to 3. -/
def yearDay (n : Int) : YearDay :=
  let z := n + 306
  let doe := z % 146097
  let century := min (doe / 36524) 3
  let doc := doe - century * 36524
  let quad := doc / 1461
  let doq := doc % 1461
  let year := min (doq / 365) 3
  { era := z / 146097, century, quad, year, day := doq - year * 365 }

/-- The days of the year before the month `mp`, where March is month 0. -/
def daysBefore (mp : Int) : Int := (153 * mp + 2) / 5

/-- The date of a day. -/
def dateOfDay (n : Int) : Date :=
  let d := yearDay n
  let mp := (5 * d.day + 2) / 153
  { year := d.era * 400 + d.century * 100 + d.quad * 4 + d.year + (if mp < 10 then 0 else 1)
    month := (if mp < 10 then mp + 3 else mp - 9).toNat
    day := (d.day - daysBefore mp + 1).toNat }

/-- The day of a date. -/
def dayOfDate (d : Date) : Int :=
  let year := if d.month ≤ 2 then d.year - 1 else d.year
  let mp : Int := if d.month ≤ 2 then d.month + 9 else d.month - 3
  365 * year + year / 4 - year / 100 + year / 400 + daysBefore mp + (d.day - 1) - 306

/-- The parts of a day are in range, and they add up to it. Day 365 is a leap day. -/
theorem yearDay_spec (n : Int) :
    let d := yearDay n
    (0 ≤ d.century ∧ d.century ≤ 3) ∧ (0 ≤ d.quad ∧ d.quad ≤ 24) ∧ (0 ≤ d.year ∧ d.year ≤ 3) ∧
      (0 ≤ d.day ∧ d.day ≤ 365) ∧
      (d.day = 365 → d.year = 3 ∧ (d.quad = 24 → d.century = 3)) ∧
      n + 306 = d.era * 146097 + d.century * 36524 + d.quad * 1461 + d.year * 365 + d.day := by
  dsimp only [yearDay]
  omega

/-- The month of a day of the year, and the days of the year up to that day. -/
theorem month_spec {day : Int} (h : 0 ≤ day ∧ day ≤ 365) :
    let mp := (5 * day + 2) / 153
    (0 ≤ mp ∧ mp ≤ 11) ∧ 0 ≤ day - daysBefore mp ∧ day - daysBefore mp ≤ 30 := by
  dsimp only [daysBefore]
  omega

/-- The year has a 29th of February. -/
def isLeap (year : Int) : Bool :=
  year % 4 == 0 && (year % 100 != 0 || year % 400 == 0)

/-- The days of a month. -/
def daysIn (month : Nat) (year : Int) : Nat :=
  if month = 2 then (if isLeap year then 29 else 28)
  else if month = 4 ∨ month = 6 ∨ month = 9 ∨ month = 11 then 30
  else 31

theorem isLeap_iff (year : Int) :
    isLeap year = true ↔ year % 4 = 0 ∧ (year % 100 ≠ 0 ∨ year % 400 = 0) := by
  simp [isLeap]

/-- The day of a date is a day of its month. -/
theorem day_le_daysIn (n : Int) :
    (dateOfDay n).day ≤ daysIn (dateOfDay n).month (dateOfDay n).year := by
  obtain ⟨hcentury, hquad, hyear, hday, hleap, _⟩ := yearDay_spec n
  obtain ⟨hmonth, hdays⟩ := month_spec hday
  dsimp only [dateOfDay, daysIn]
  generalize yearDay n = d at *
  simp only [isLeap_iff]
  have hmp : (5 * d.day + 2) / 153 * 153 ≤ 5 * d.day + 2 ∧
      5 * d.day + 2 < (5 * d.day + 2) / 153 * 153 + 153 := by omega
  generalize (5 * d.day + 2) / 153 = mp at *
  unfold daysBefore at *
  split_ifs <;> omega

/-- The months and the days of a date have at most two digits. -/
theorem dateOfDay_bounds (n : Int) :
    (1 ≤ (dateOfDay n).month ∧ (dateOfDay n).month ≤ 12) ∧
      1 ≤ (dateOfDay n).day ∧ (dateOfDay n).day ≤ 31 := by
  obtain ⟨_, _, _, hday, _, _⟩ := yearDay_spec n
  obtain ⟨hmonth, hdays⟩ := month_spec hday
  dsimp only [dateOfDay]
  split <;> omega

/-- The day of the date of a day. -/
theorem dayOfDate_dateOfDay (n : Int) : dayOfDate (dateOfDay n) = n := by
  obtain ⟨hcentury, hquad, hyear, hday, _, hsum⟩ := yearDay_spec n
  obtain ⟨hmonth, hdays⟩ := month_spec hday
  dsimp only [dayOfDate, dateOfDay]
  generalize yearDay n = d at *
  generalize (5 * d.day + 2) / 153 = mp at *
  -- March to December belong to the year that began in March, January and February to the next.
  by_cases hmp : mp < 10
  · have hnat : ((mp + 3).toNat : Int) = mp + 3 := Int.toNat_of_nonneg (by omega)
    have hdnat : ((d.day - daysBefore mp + 1).toNat : Int) = d.day - daysBefore mp + 1 :=
      Int.toNat_of_nonneg (by omega)
    rw [if_pos hmp, if_pos hmp, if_neg (by omega), if_neg (by omega), hnat, hdnat]
    have hback : mp + 3 - 3 = mp := by omega
    rw [hback]
    omega
  · have hnat : ((mp - 9).toNat : Int) = mp - 9 := Int.toNat_of_nonneg (by omega)
    have hdnat : ((d.day - daysBefore mp + 1).toNat : Int) = d.day - daysBefore mp + 1 :=
      Int.toNat_of_nonneg (by omega)
    rw [if_neg hmp, if_neg hmp, if_pos (by omega), if_pos (by omega), hnat, hdnat]
    have hback : mp - 9 + 9 = mp := by omega
    rw [hback]
    omega

/-! ### Instants -/

/-- Nanoseconds from `time.Time{}`, the start of year 1. -/
abbrev Instant : Type := Int

def second : Int := 1000000000

/-- The day of an instant. -/
def Instant.dayNumber (t : Instant) : Int := t / (86400 * second)

/-- The second of the day of an instant. -/
def Instant.secondOfDay (t : Instant) : Nat := (t / second % 86400).toNat

/-- The nanosecond of the second of an instant. -/
def Instant.nanosecond (t : Instant) : Nat := (t % second).toNat

/-- `time.Date` in UTC. -/
def instantOf (date : Date) (hour minute sec nsec : Nat) : Instant :=
  (dayOfDate date * 86400 + hour * 3600 + minute * 60 + sec) * second + nsec

/-! ### Texts -/

/-- A number in decimal, with zeros up to the width. -/
def padded (width n : Nat) : List Char := (Nat.toDigits 10 n).leftpad width '0'

/-- `appendInt`: the sign stands before the zeros. -/
def appendInt (x : Int) (width : Nat) : List Char :=
  if x < 0 then '-' :: padded width x.natAbs else padded width x.toNat

/-- The layout `"2006-01-02"`, with a rest. -/
def formatDate (date : Date) (rest : List Char) : List Char :=
  appendInt date.year 4 ++ '-' :: padded 2 date.month ++ '-' :: padded 2 date.day ++ rest

/-- The layout `"15:04:05"`, with a rest. -/
def formatClock (secondOfDay : Nat) (rest : List Char) : List Char :=
  padded 2 (secondOfDay / 3600) ++ ':' :: padded 2 (secondOfDay / 60 % 60)
    ++ ':' :: padded 2 (secondOfDay % 60) ++ rest

/-- `t.UTC().Format("2006-01-02 15:04:05")`. -/
def formatDateTime (t : Instant) : String :=
  String.ofList (formatDate (dateOfDay t.dayNumber) (' ' :: formatClock t.secondOfDay []))

/-- The fraction of RFC 3339 with nanoseconds, without zeros at the end. -/
def formatFraction (nsec : Nat) : List Char :=
  if nsec = 0 then [] else '.' :: ((padded 9 nsec).reverse.dropWhile (· == '0')).reverse

/-- `t.UTC().Format(time.RFC3339Nano)`. -/
def formatRFC3339Nano (t : Instant) : String :=
  String.ofList (formatDate (dateOfDay t.dayNumber)
    ('T' :: formatClock t.secondOfDay (formatFraction t.nanosecond ++ ['Z'])))

/-! ### Parsing -/

/-- A number of exactly `width` digits. -/
def getFixed (width : Nat) (value : List Char) : Option (Nat × List Char) :=
  if width ≤ value.length ∧ (value.take width).all Char.isDigit then
    some (Nat.ofDigitChars 10 (value.take width) 0, value.drop width)
  else none

/-- `getnum` for a field that may have one digit. -/
def getNum (value : List Char) : Option (Nat × List Char) :=
  (getFixed 2 value).or (getFixed 1 value)

/-- `skip` of a character of the layout. -/
def skipChar (c : Char) : List Char → Option (List Char)
  | [] => none
  | d :: rest => if d = c then some rest else none

/-- `skip` of a space of the layout, which matches any number of spaces, and the end. -/
def skipSpace : List Char → Option (List Char)
  | [] => some []
  | d :: rest => if d = ' ' then some (rest.dropWhile (· == ' ')) else none

/-- The fraction that may follow the seconds although the layout has none. -/
def getFraction (value : List Char) : Nat × List Char :=
  match value with
  | sep :: digit :: rest =>
    if (sep = '.' ∨ sep = ',') ∧ digit.isDigit then
      let digits := (digit :: rest).takeWhile Char.isDigit
      (Nat.ofDigitChars 10 ((digits.take 9).rightpad 9 '0') 0,
        (digit :: rest).dropWhile Char.isDigit)
    else (0, value)
  | _ => (0, value)

/-- A field in its range. -/
def inRange (lo hi : Nat) (field : Nat × List Char) : Option (Nat × List Char) :=
  if lo ≤ field.1 ∧ field.1 ≤ hi then some field else none

/-- `time.Parse("2006-01-02 15:04:05", text)`. -/
def parseDateTime (text : String) : Option Instant := do
  let (year, value) ← getFixed 4 text.toList
  let value ← skipChar '-' value
  let (month, value) ← (getFixed 2 value).bind (inRange 1 12)
  let value ← skipChar '-' value
  let (day, value) ← getFixed 2 value
  let value ← skipSpace value
  let (hour, value) ← (getNum value).bind (inRange 0 23)
  let value ← skipChar ':' value
  let (minute, value) ← (getFixed 2 value).bind (inRange 0 59)
  let value ← skipChar ':' value
  let (sec, value) ← (getFixed 2 value).bind (inRange 0 59)
  let (nsec, value) := getFraction value
  if value ≠ [] then none
  else if day < 1 ∨ daysIn month year < day then none
  else some (instantOf ⟨year, month, day⟩ hour minute sec nsec)

/-! ### Numbers in a text -/

theorem isDigit_of_mem_padded {width n : Nat} {c : Char} (h : c ∈ padded width n) :
    c.isDigit = true := by
  rcases List.mem_append.mp h with hzero | hdigit
  · rw [(List.mem_replicate.mp hzero).2]
    rfl
  · exact Nat.isDigit_of_mem_toDigits (by decide) (by decide) hdigit

theorem length_padded {width n : Nat} (hpos : 0 < width) (h : n < 10 ^ width) :
    (padded width n).length = width := by
  have hle := (Nat.length_toDigits_le_iff (by decide) hpos).mpr h
  simp only [padded, List.leftpad, List.length_append, List.length_replicate]
  omega

/-- A number that fits the width is read back, with the rest of the text. -/
theorem getFixed_padded {width n : Nat} (hpos : 0 < width) (h : n < 10 ^ width)
    (rest : List Char) : getFixed width (padded width n ++ rest) = some (n, rest) := by
  have hlength := length_padded hpos h
  have htake : (padded width n ++ rest).take width = padded width n := by
    rw [List.take_append_of_le_length (Nat.le_of_eq hlength.symm),
      List.take_of_length_le (Nat.le_of_eq hlength)]
  have hdrop : (padded width n ++ rest).drop width = rest := by
    rw [List.drop_append_of_le_length (Nat.le_of_eq hlength.symm),
      List.drop_of_length_le (Nat.le_of_eq hlength)]
    rfl
  have hdigits : (padded width n).all Char.isDigit = true :=
    List.all_eq_true.mpr fun c hc => isDigit_of_mem_padded hc
  have hvalue : Nat.ofDigitChars 10 (padded width n) 0 = n := by
    simp [padded, List.leftpad, Nat.ofDigitChars_append]
  have hfits : width ≤ (padded width n ++ rest).length := by
    rw [List.length_append]
    omega
  unfold getFixed
  rw [htake, hdrop, if_pos ⟨hfits, hdigits⟩, hvalue]

/-- A number with more digits than the width leaves a digit. -/
theorem getFixed_long {width n : Nat} (h : width < (padded width n).length) (rest : List Char) :
    ∃ m c value, getFixed width (padded width n ++ rest) = some (m, c :: value) ∧
      c.isDigit = true := by
  have htake : (padded width n ++ rest).take width = (padded width n).take width :=
    List.take_append_of_le_length (Nat.le_of_lt h)
  have hdigits : ((padded width n).take width).all Char.isDigit = true :=
    List.all_eq_true.mpr fun c hc => isDigit_of_mem_padded (List.mem_of_mem_take hc)
  have hfits : width ≤ (padded width n ++ rest).length := by
    rw [List.length_append]
    omega
  have hdrop : (padded width n ++ rest).drop width = (padded width n).drop width ++ rest :=
    List.drop_append_of_le_length (Nat.le_of_lt h)
  obtain ⟨c, value, hvalue⟩ : ∃ c value, (padded width n).drop width = c :: value :=
    List.exists_cons_of_length_pos (by rw [List.length_drop]; omega)
  refine ⟨Nat.ofDigitChars 10 ((padded width n).take width) 0, c, value ++ rest, ?_, ?_⟩
  · unfold getFixed
    rw [htake, hdrop, if_pos ⟨hfits, hdigits⟩, hvalue]
    rfl
  · have hmem : c ∈ (padded width n).drop width := by
      rw [hvalue]
      exact List.mem_cons_self
    exact isDigit_of_mem_padded (List.mem_of_mem_drop hmem)

/-! ### The layout -/

/-- A year of four digits is read back. -/
theorem getFixed_year {year : Int} (h : 0 ≤ year ∧ year < 10000) (rest : List Char) :
    getFixed 4 (appendInt year 4 ++ rest) = some (year.toNat, rest) := by
  unfold appendInt
  rw [if_neg (by omega)]
  exact getFixed_padded (by decide) (by omega) rest

/-- Any other year does not leave the separator. -/
theorem skipChar_of_year {year : Int} (h : ¬ (0 ≤ year ∧ year < 10000)) {rest : List Char}
    {m : Nat} {value : List Char}
    (hvalue : getFixed 4 (appendInt year 4 ++ rest) = some (m, value)) :
    skipChar '-' value = none := by
  unfold appendInt at hvalue
  by_cases hneg : year < 0
  · rw [if_pos hneg, getFixed] at hvalue
    split at hvalue
    · rename_i hall
      have hsign := List.all_eq_true.mp hall.2 '-' (by simp)
      exact absurd hsign (by decide)
    · cases hvalue
  · have hlong : 4 < (padded 4 year.toNat).length := by
      have hdigits : ¬ (Nat.toDigits 10 year.toNat).length ≤ 4 := by
        rw [Nat.length_toDigits_le_iff (by decide) (by decide)]
        omega
      simp only [padded, List.leftpad, List.length_append, List.length_replicate]
      omega
    obtain ⟨m', c, value', hlongValue, hdigit⟩ := getFixed_long hlong rest
    rw [if_neg hneg, hlongValue] at hvalue
    cases hvalue
    have hne : c ≠ '-' := by
      rintro rfl
      exact absurd hdigit (by decide)
    simp [skipChar, hne]

/-- A parse after the date of a text. -/
def parseAfterDate (date : Date) (rest : List Char) : Option Instant := do
  let value ← skipSpace rest
  let (hour, value) ← (getNum value).bind (inRange 0 23)
  let value ← skipChar ':' value
  let (minute, value) ← (getFixed 2 value).bind (inRange 0 59)
  let value ← skipChar ':' value
  let (sec, value) ← (getFixed 2 value).bind (inRange 0 59)
  let (nsec, value) := getFraction value
  if value ≠ [] then none
  else some (instantOf date hour minute sec nsec)

/-- The start of a parse: a date with a year of four digits. -/
theorem parseDateTime_of_year {n : Int}
    (hyear : 0 ≤ (dateOfDay n).year ∧ (dateOfDay n).year < 10000) (rest : List Char) :
    parseDateTime (String.ofList (formatDate (dateOfDay n) rest))
      = parseAfterDate (dateOfDay n) rest := by
  obtain ⟨hmonth, hday⟩ := dateOfDay_bounds n
  have hdays := day_le_daysIn n
  have hmonthField : ∀ rest, (getFixed 2 (padded 2 (dateOfDay n).month ++ rest)).bind
      (inRange 1 12) = some ((dateOfDay n).month, rest) := by
    intro rest
    rw [getFixed_padded (by decide) (by omega)]
    exact if_pos hmonth
  have hdayField : ∀ rest, getFixed 2 (padded 2 (dateOfDay n).day ++ rest)
      = some ((dateOfDay n).day, rest) :=
    fun rest => getFixed_padded (by decide) (by omega) rest
  have hyearCast : ((dateOfDay n).year.toNat : Int) = (dateOfDay n).year :=
    Int.toNat_of_nonneg hyear.1
  have hvalid : ¬ ((dateOfDay n).day < 1 ∨
      daysIn (dateOfDay n).month (dateOfDay n).year < (dateOfDay n).day) := by omega
  unfold parseDateTime formatDate parseAfterDate
  simp only [String.toList_ofList, List.append_assoc, List.cons_append, getFixed_year hyear,
    skipChar, if_pos, hmonthField, hdayField, hyearCast, if_neg hvalid, Option.bind_eq_bind,
    Option.bind_some]

/-- A date with any other year does not parse. -/
theorem parseDateTime_of_not_year {n : Int}
    (hyear : ¬ (0 ≤ (dateOfDay n).year ∧ (dateOfDay n).year < 10000)) (rest : List Char) :
    parseDateTime (String.ofList (formatDate (dateOfDay n) rest)) = none := by
  unfold parseDateTime formatDate
  simp only [String.toList_ofList, List.append_assoc, List.cons_append]
  cases hfield : getFixed 4 (appendInt (dateOfDay n).year 4 ++ '-' ::
      (padded 2 (dateOfDay n).month ++ '-' :: (padded 2 (dateOfDay n).day ++ rest))) with
  | none => rfl
  | some field =>
    obtain ⟨m, value⟩ := field
    simp only [Option.bind_eq_bind, Option.bind_some, skipChar_of_year hyear hfield,
      Option.bind_none]

/-- No RFC 3339 text is a text of the layout `"2006-01-02 15:04:05"`: where the layout has a
space, it has a `T`. -/
theorem parseDateTime_formatRFC3339Nano (t : Instant) :
    parseDateTime (formatRFC3339Nano t) = none := by
  unfold formatRFC3339Nano
  by_cases hyear : 0 ≤ (dateOfDay t.dayNumber).year ∧ (dateOfDay t.dayNumber).year < 10000
  · rw [parseDateTime_of_year hyear]
    rfl
  · exact parseDateTime_of_not_year hyear _

/-- The clock of a text is read back. -/
theorem getClock (secondOfDay : Nat) (h : secondOfDay < 86400) (rest : List Char) :
    (getNum (formatClock secondOfDay rest)).bind (inRange 0 23)
      = some (secondOfDay / 3600, ':' :: padded 2 (secondOfDay / 60 % 60)
          ++ ':' :: padded 2 (secondOfDay % 60) ++ rest) := by
  have hhour : secondOfDay / 3600 < 10 ^ 2 := by omega
  unfold formatClock getNum
  simp only [List.append_assoc, List.cons_append]
  rw [getFixed_padded (by decide) hhour]
  exact if_pos ⟨Nat.zero_le _, by omega⟩

/-- The days, hours, minutes and seconds of a number of seconds. -/
theorem clock_parts (q : Int) (s : Nat) (h : (s : Int) = q % 86400) :
    q / 86400 * 86400 + ((s / 3600 : Nat) : Int) * 3600 + ((s / 60 % 60 : Nat) : Int) * 60
      + ((s % 60 : Nat) : Int) = q := by
  omega

/-- The space of the layout, before a clock. -/
theorem skipSpace_formatClock (secondOfDay : Nat) (rest : List Char) :
    skipSpace (' ' :: formatClock secondOfDay rest) = some (formatClock secondOfDay rest) := by
  have hdrop : (formatClock secondOfDay rest).dropWhile (· == ' ')
      = formatClock secondOfDay rest := by
    unfold formatClock
    cases hhour : padded 2 (secondOfDay / 3600) with
    | nil => simp
    | cons c cs =>
      have hdigit : c.isDigit = true := by
        refine @isDigit_of_mem_padded 2 (secondOfDay / 3600) c ?_
        rw [hhour]
        exact List.mem_cons_self
      have hne : (c == ' ') = false := by
        rw [beq_eq_false_iff_ne]
        rintro rfl
        exact absurd hdigit (by decide)
      simp [hne]
  simp only [skipSpace, if_pos, hdrop]

/-- A text of the layout is parsed to the second it was written from. -/
theorem parseDateTime_formatDateTime {t : Instant}
    (hyear : 0 ≤ (dateOfDay t.dayNumber).year ∧ (dateOfDay t.dayNumber).year < 10000) :
    parseDateTime (formatDateTime t) = some (t / second * second) := by
  have hclock : t.secondOfDay < 86400 := by
    unfold Instant.secondOfDay
    omega
  have hhour := getClock t.secondOfDay hclock []
  have hminute : ∀ rest, (getFixed 2 (padded 2 (t.secondOfDay / 60 % 60) ++ rest)).bind
      (inRange 0 59) = some (t.secondOfDay / 60 % 60, rest) := by
    intro rest
    rw [getFixed_padded (by decide) (by omega)]
    exact if_pos ⟨Nat.zero_le _, by omega⟩
  have hsec : (getFixed 2 (padded 2 (t.secondOfDay % 60) ++ [])).bind (inRange 0 59)
      = some (t.secondOfDay % 60, []) := by
    rw [getFixed_padded (by decide) (by omega)]
    exact if_pos ⟨Nat.zero_le _, by omega⟩
  -- The fields name the second again. What is below a second was not written.
  have hinstant : instantOf (dateOfDay t.dayNumber) (t.secondOfDay / 3600)
      (t.secondOfDay / 60 % 60) (t.secondOfDay % 60) 0 = t / second * second := by
    have hsecondOfDay : (t.secondOfDay : Int) = t / second % 86400 :=
      Int.toNat_of_nonneg (by omega)
    have hdayNumber : t.dayNumber = t / second / 86400 := by
      unfold Instant.dayNumber second
      omega
    unfold instantOf
    rw [dayOfDate_dateOfDay, hdayNumber]
    rw [clock_parts _ _ hsecondOfDay, Int.natCast_zero, Int.add_zero]
  have hspace := skipSpace_formatClock t.secondOfDay []
  unfold formatDateTime
  rw [parseDateTime_of_year hyear]
  unfold parseAfterDate
  simp only [hspace, hhour, skipChar, if_pos, List.cons_append, List.append_assoc, hminute, hsec,
    getFraction, hinstant, Option.bind_eq_bind, Option.bind_some, ne_eq, not_true_eq_false,
    if_false]

end OtelHive.Lib.GoTime
