import Mathlib.Tactic.Ring
import Orchestra.Core.Text
import Orchestra.Core.Time

/-!
# Reading timestamps

`parse_utc_iso` reads the texts that `utc_now_iso` writes. The main theorem
(`parseUtcIso_utcNowIso`) is the round trip, for every clock reading up to the end of the year 9999:
the calendar conversion is undone, and so are the decimal digits.
-/

namespace Orchestra

/-! ## The calendar -/

/-- The year of an era that a day of the era is in. Years start in March. -/
def yearOfEra (doe : ℕ) : ℕ := (doe - doe / 1460 + doe / 36524 - doe / 146096) / 365

/-- The first day of a year of an era. -/
def yearStart (yoe : ℕ) : ℕ := 365 * yoe + yoe / 4 - yoe / 100

theorem yearStart_mono {a b : ℕ} (h : a ≤ b) : yearStart a ≤ yearStart b := by
  have hleap : a / 4 ≤ b / 4 := Nat.div_le_div_right h
  have hcentury : b / 100 ≤ a / 100 + (b - a) := by omega
  rw [yearStart, yearStart]
  omega

private theorem yearOfEra_ends : ∀ yoe < 399,
    yearOfEra (yearStart yoe) = yoe ∧ yearOfEra (yearStart (yoe + 1) - 1) = yoe := by
  decide +kernel

private theorem yearOfEra_last : yearOfEra (yearStart 399) = 399 ∧ yearOfEra 146096 = 399 := by
  decide

theorem yearOfEra_mono {a b : ℕ} (h : a ≤ b) (hb : b < 146097) : yearOfEra a ≤ yearOfEra b := by
  have hcentury : a / 36524 ≤ b / 36524 := Nat.div_le_div_right h
  have hera : a / 36524 - a / 146096 ≤ b / 36524 - b / 146096 := by omega
  exact Nat.div_le_div_right (by omega)

/-- A day before the start of a year is in one of the years before. -/
private theorem exists_year (doe n : ℕ) (h : doe < yearStart n) :
    ∃ yoe < n, yearStart yoe ≤ doe ∧ doe < yearStart (yoe + 1) := by
  induction n with
  | zero => exact absurd h (Nat.not_lt_zero _)
  | succ n ih =>
    by_cases hn : doe < yearStart n
    · obtain ⟨yoe, hlt, hspan⟩ := ih hn
      exact ⟨yoe, Nat.lt_succ_of_lt hlt, hspan⟩
    · exact ⟨n, Nat.lt_succ_self n, not_lt.mp hn, h⟩

/-- **A day is in its year**: not before its start, and before the start of the next one. The last
year of the era has a leap day. -/
theorem yearOfEra_spec {doe : ℕ} (h : doe < 146097) : yearOfEra doe ≤ 399 ∧
    yearStart (yearOfEra doe) ≤ doe ∧
      (yearOfEra doe < 399 → doe < yearStart (yearOfEra doe + 1)) := by
  by_cases hlast : yearStart 399 ≤ doe
  · have hlo := yearOfEra_mono hlast h
    have hhi := yearOfEra_mono (show doe ≤ 146096 by omega) (by omega)
    rw [yearOfEra_last.1] at hlo
    rw [yearOfEra_last.2] at hhi
    have heq : yearOfEra doe = 399 := le_antisymm hhi hlo
    exact ⟨hhi, by rw [heq]; exact hlast, by omega⟩
  · obtain ⟨yoe, hyoe, hstart, hnext⟩ := exists_year doe 399 (not_le.mp hlast)
    have hlo := yearOfEra_mono hstart h
    have hhi := yearOfEra_mono (show doe ≤ yearStart (yoe + 1) - 1 by omega) (by
      have := yearStart_mono (show yoe + 1 ≤ 399 by omega)
      have hend : yearStart 399 = 145731 := rfl
      omega)
    rw [(yearOfEra_ends yoe hyoe).1] at hlo
    rw [(yearOfEra_ends yoe hyoe).2] at hhi
    have heq : yearOfEra doe = yoe := le_antisymm hhi hlo
    rw [heq]
    exact ⟨hyoe.le, hstart, fun _ ↦ hnext⟩

/-- A leap year of the calendar. -/
def isLeap (year : ℕ) : Bool :=
  decide (year % 4 = 0) && (decide (year % 100 ≠ 0) || decide (year % 400 = 0))

/-- The days of a month, in a leap year or not. -/
def daysInMonth (leap : Bool) (month : ℕ) : ℕ :=
  if month = 2 then (if leap then 29 else 28)
  else if month ∈ [4, 6, 9, 11] then 30
  else 31

/-- The day number of a date, counted from 1970-01-01. -/
def daysFromCivil (year month day : ℕ) : ℤ :=
  let y := if month ≤ 2 then year - 1 else year
  let mp := if month ≤ 2 then month + 9 else month - 3
  let doe := yearStart (y % 400) + (153 * mp + 2) / 5 + (day - 1)
  (y / 400 * 146097 + doe : ℕ) - 719468

/-- A date of the calendar with a year of four digits. -/
structure CivilDate (year month day : ℕ) : Prop where
  yearBounds : 1 ≤ year ∧ year ≤ 9999
  monthBounds : 1 ≤ month ∧ month ≤ 12
  dayBounds : 1 ≤ day ∧ day ≤ daysInMonth (isLeap year) month

instance (year month day : ℕ) : Decidable (CivilDate year month day) :=
  decidable_of_iff ((1 ≤ year ∧ year ≤ 9999) ∧ (1 ≤ month ∧ month ≤ 12) ∧
      1 ≤ day ∧ day ≤ daysInMonth (isLeap year) month)
    ⟨fun h ↦ ⟨h.1, h.2.1, h.2.2⟩, fun h ↦ ⟨h.yearBounds, h.monthBounds, h.dayBounds⟩⟩

/-- The day number of the first day of the year 10000. -/
def daysEnd : ℕ := 2932897

/-- Month and day of a day of the year. Only a leap year has a day 365. -/
private theorem month_spec : ∀ leap, ∀ doy < 366, (doy = 365 → leap = true) →
    let mp := (5 * doy + 2) / 153
    let month := if mp < 10 then mp + 3 else mp - 9
    let day := doy - (153 * mp + 2) / 5 + 1
    (if month ≤ 2 then month + 9 else month - 3) = mp ∧ (153 * mp + 2) / 5 ≤ doy ∧
      (1 ≤ month ∧ month ≤ 12) ∧ (1 ≤ day ∧ day ≤ daysInMonth leap month) ∧
      (month ≤ 2 ↔ 306 ≤ doy) := by
  decide +kernel

theorem daysInMonth_of_ne {month : ℕ} (h : month ≠ 2) (leap leap' : Bool) :
    daysInMonth leap month = daysInMonth leap' month := by
  rw [daysInMonth, daysInMonth, if_neg h, if_neg h]

/-- A day of the year is counted from its start; day 365 is that of a leap year. -/
theorem dayOfYear_spec {doe : ℕ} (h : doe < 146097) (era : ℕ) :
    doe - yearStart (yearOfEra doe) < 366 ∧
      (doe - yearStart (yearOfEra doe) = 365 →
        isLeap (yearOfEra doe + era * 400 + 1) = true) := by
  obtain ⟨hyoe, hstart, hnext⟩ := yearOfEra_spec h
  set yoe := yearOfEra doe
  rw [isLeap, Bool.and_eq_true, Bool.or_eq_true, decide_eq_true_iff, decide_eq_true_iff,
    decide_eq_true_iff]
  by_cases hlast : yoe = 399
  · have hend : yearStart yoe = 145731 := by
      rw [hlast]
      rfl
    exact ⟨by omega, fun _ ↦ ⟨by omega, Or.inr (by omega)⟩⟩
  · have hlt := hnext (by omega)
    rw [yearStart] at hstart hlt ⊢
    refine ⟨by omega, fun hday ↦ ?_⟩
    -- the next year has one day more, which is the leap day of a year divisible by four
    have hcentury : yoe / 100 ≤ (yoe + 1) / 100 := Nat.div_le_div_right (Nat.le_succ _)
    have hfour : (yoe + 1) / 4 = yoe / 4 + 1 := by omega
    have hhundred : (yoe + 1) / 100 = yoe / 100 := by omega
    exact ⟨by omega, Or.inl (by omega)⟩

/-- **The calendar conversion is undone.** -/
theorem civilFromDays_spec {days : ℕ} (h : days < daysEnd) :
    CivilDate (civilFromDays days).1 (civilFromDays days).2.1 (civilFromDays days).2.2 ∧
      daysFromCivil (civilFromDays days).1 (civilFromDays days).2.1 (civilFromDays days).2.2 =
        days := by
  obtain ⟨doe, hdoe⟩ : ∃ doe, (days + 719468) % 146097 = doe := ⟨_, rfl⟩
  obtain ⟨era, hera⟩ : ∃ era, (days + 719468) / 146097 = era := ⟨_, rfl⟩
  have hlt : doe < 146097 := hdoe ▸ Nat.mod_lt _ (by decide)
  obtain ⟨hyoe, hstart, -⟩ := yearOfEra_spec hlt
  obtain ⟨hday, hleap⟩ := dayOfYear_spec hlt era
  obtain ⟨yoe, hyoe_def⟩ : ∃ yoe, yearOfEra doe = yoe := ⟨_, rfl⟩
  obtain ⟨doy, hdoy⟩ : ∃ doy, doe - yearStart yoe = doy := ⟨_, rfl⟩
  rw [hyoe_def] at hyoe hstart hday hleap
  rw [hdoy] at hday hleap
  have hparts : civilFromDays days =
      (let mp := (5 * doy + 2) / 153
      let month := if mp < 10 then mp + 3 else mp - 9
      (yoe + era * 400 + (if month ≤ 2 then 1 else 0), month, doy - (153 * mp + 2) / 5 + 1)) := by
    rw [← hdoy, ← hyoe_def, ← hera, ← hdoe]
    rfl
  rw [hparts]
  obtain ⟨hmp, hle, hmonth, hdays, hmarch⟩ :=
    month_spec (isLeap (yoe + era * 400 + 1)) doy hday hleap
  dsimp only at hmp hle hmonth hdays hmarch ⊢
  obtain ⟨mp, hmp_def⟩ : ∃ mp, (5 * doy + 2) / 153 = mp := ⟨_, rfl⟩
  rw [hmp_def] at hmp hle hmonth hdays hmarch ⊢
  obtain ⟨month, hmonth_def⟩ : ∃ month, (if mp < 10 then mp + 3 else mp - 9) = month := ⟨_, rfl⟩
  rw [hmonth_def] at hmp hmonth hdays hmarch ⊢
  have hlast : yoe = 399 → yearStart yoe = 145731 := by
    rintro rfl
    rfl
  have hend : days < 2932897 := h
  constructor
  · constructor
    case yearBounds => split_ifs <;> omega
    case monthBounds => exact hmonth
    case dayBounds =>
      refine ⟨hdays.1, hdays.2.trans_eq ?_⟩
      by_cases hfeb : month = 2
      · rw [if_pos (by omega)]
      · exact daysInMonth_of_ne hfeb _ _
  · have hyear : (if month ≤ 2 then yoe + era * 400 + (if month ≤ 2 then 1 else 0) - 1
        else yoe + era * 400 + (if month ≤ 2 then 1 else 0)) = yoe + era * 400 := by
      split_ifs <;> omega
    have hmod : (yoe + era * 400) % 400 = yoe := by omega
    have hquot : (yoe + era * 400) / 400 = era := by omega
    rw [daysFromCivil, hyear, hmp, hmod, hquot]
    omega

/-! ## Numbers -/

theorem digitsValue_eq (l : List Char) : digitsValue l = Nat.ofDigitChars 10 l 0 := by
  rw [digitsValue, Nat.ofDigitChars]
  congr
  funext n c
  rw [Nat.mul_comm]

/-- A padded number has its width, consists of digits, and is read back. -/
theorem zeroPad_spec {width n : ℕ} (hwidth : 0 < width) (h : n < 10 ^ width) :
    (zeroPad width n).toList.length = width ∧
      (∀ c ∈ (zeroPad width n).toList, c.isDigit = true) ∧
      digitsValue (zeroPad width n).toList = n := by
  have hlen : (Nat.toDigits 10 n).length ≤ width :=
    (Nat.length_toDigits_le_iff (by decide) hwidth).mpr h
  have htext : (zeroPad width n).toList =
      List.replicate (width - (Nat.toDigits 10 n).length) '0' ++ Nat.toDigits 10 n := by
    rw [zeroPad, String.toList_append, String.toList_ofList, Nat.toString_eq_ofList_toDigits,
      String.toList_ofList, String.length_ofList]
  rw [htext]
  refine ⟨?_, fun c hc ↦ ?_, ?_⟩
  · rw [List.length_append, List.length_replicate, Nat.sub_add_cancel hlen]
  · rcases List.mem_append.mp hc with hc | hc
    · rw [List.eq_of_mem_replicate hc]
      rfl
    · exact Nat.isDigit_of_mem_toDigits (by decide) (by decide) hc
  · rw [digitsValue_eq, Nat.ofDigitChars_append, Nat.ofDigitChars_replicate_zero, Nat.mul_zero,
      Nat.ofDigitChars_ten_toDigits]

/-! ## Timestamps -/

/-- The date and the time of day in the fields of a timestamp. -/
structure TimeFields where
  year : ℕ
  month : ℕ
  day : ℕ
  hour : ℕ
  minute : ℕ
  second : ℕ
  millis : ℕ

/-- The fields of a text of the form that `utc_now_iso` writes. -/
def timeFields (s : String) : Option TimeFields :=
  match s.toList with
  | [y₁, y₂, y₃, y₄, '-', m₁, m₂, '-', d₁, d₂, 'T', h₁, h₂, ':', n₁, n₂, ':', s₁, s₂, '.',
      f₁, f₂, f₃, 'Z'] =>
    if [y₁, y₂, y₃, y₄, m₁, m₂, d₁, d₂, h₁, h₂, n₁, n₂, s₁, s₂, f₁, f₂, f₃].all Char.isDigit then
      some ⟨digitsValue [y₁, y₂, y₃, y₄], digitsValue [m₁, m₂], digitsValue [d₁, d₂],
        digitsValue [h₁, h₂], digitsValue [n₁, n₂], digitsValue [s₁, s₂], digitsValue [f₁, f₂, f₃]⟩
    else none
  | _ => none

/-- The milliseconds since 1970 of fields that are a date and a time of day. -/
def TimeFields.toMillis (t : TimeFields) : Option ℤ :=
  if CivilDate t.year t.month t.day ∧ t.hour < 24 ∧ t.minute < 60 ∧ t.second < 60 then
    some (daysFromCivil t.year t.month t.day * 86400000 +
      (t.hour * 3600000 + t.minute * 60000 + t.second * 1000 + t.millis : ℕ))
  else none

/-- `parse_utc_iso` on the texts that `utc_now_iso` writes, as milliseconds since 1970; `none` for a
`ValueError`. The other forms of ISO-8601 that Python reads do not occur. -/
def parseUtcIso (s : String) : Option ℤ := (timeFields s).bind TimeFields.toMillis

/-- The end of the clock: the year 10000. -/
def clockEnd : ℕ := 253402300800000

/-- A text of padded numbers is taken apart. -/
theorem timeFields_eq {year month day hour minute second millis : ℕ} (hyear : year < 10000)
    (hmonth : month < 100) (hday : day < 100) (hhour : hour < 100) (hminute : minute < 100)
    (hsecond : second < 100) (hmillis : millis < 1000) :
    timeFields (zeroPad 4 year ++ "-" ++ zeroPad 2 month ++ "-" ++ zeroPad 2 day ++ "T" ++
      zeroPad 2 hour ++ ":" ++ zeroPad 2 minute ++ ":" ++ zeroPad 2 second ++ "." ++
      zeroPad 3 millis ++ "Z") = some ⟨year, month, day, hour, minute, second, millis⟩ := by
  have htwo {n : ℕ} (h : n < 100) : ∃ a b, (zeroPad 2 n).toList = [a, b] ∧
      a.isDigit = true ∧ b.isDigit = true ∧ digitsValue [a, b] = n := by
    have hpow : n < 10 ^ 2 := h
    obtain ⟨hlen, hdigit, hvalue⟩ := zeroPad_spec (by decide) hpow
    obtain ⟨a, b, hab⟩ := List.length_eq_two.mp hlen
    rw [hab] at hdigit hvalue
    exact ⟨a, b, hab, hdigit a (by simp), hdigit b (by simp), hvalue⟩
  have hthree : ∃ a b c, (zeroPad 3 millis).toList = [a, b, c] ∧
      a.isDigit = true ∧ b.isDigit = true ∧ c.isDigit = true ∧ digitsValue [a, b, c] = millis := by
    have hpow : millis < 10 ^ 3 := hmillis
    obtain ⟨hlen, hdigit, hvalue⟩ := zeroPad_spec (by decide) hpow
    obtain ⟨a, b, c, habc⟩ := List.length_eq_three.mp hlen
    rw [habc] at hdigit hvalue
    exact ⟨a, b, c, habc, hdigit a (by simp), hdigit b (by simp), hdigit c (by simp), hvalue⟩
  have hfour : ∃ a b c d, (zeroPad 4 year).toList = [a, b, c, d] ∧ a.isDigit = true ∧
      b.isDigit = true ∧ c.isDigit = true ∧ d.isDigit = true ∧
      digitsValue [a, b, c, d] = year := by
    have hpow : year < 10 ^ 4 := hyear
    obtain ⟨hlen, hdigit, hvalue⟩ := zeroPad_spec (by decide) hpow
    obtain ⟨a, b, c, d, habcd⟩ := List.length_eq_four.mp hlen
    rw [habcd] at hdigit hvalue
    exact ⟨a, b, c, d, habcd, hdigit a (by simp), hdigit b (by simp), hdigit c (by simp),
      hdigit d (by simp), hvalue⟩
  obtain ⟨y₁, y₂, y₃, y₄, hy, hy₁, hy₂, hy₃, hy₄, hyv⟩ := hfour
  obtain ⟨m₁, m₂, hm, hm₁, hm₂, hmv⟩ := htwo hmonth
  obtain ⟨d₁, d₂, hd, hd₁, hd₂, hdv⟩ := htwo hday
  obtain ⟨h₁, h₂, hh, hh₁, hh₂, hhv⟩ := htwo hhour
  obtain ⟨n₁, n₂, hn, hn₁, hn₂, hnv⟩ := htwo hminute
  obtain ⟨s₁, s₂, hs, hs₁, hs₂, hsv⟩ := htwo hsecond
  obtain ⟨f₁, f₂, f₃, hf, hf₁, hf₂, hf₃, hfv⟩ := hthree
  have htext : (zeroPad 4 year ++ "-" ++ zeroPad 2 month ++ "-" ++ zeroPad 2 day ++ "T" ++
      zeroPad 2 hour ++ ":" ++ zeroPad 2 minute ++ ":" ++ zeroPad 2 second ++ "." ++
      zeroPad 3 millis ++ "Z").toList = [y₁, y₂, y₃, y₄, '-', m₁, m₂, '-', d₁, d₂, 'T', h₁, h₂, ':',
        n₁, n₂, ':', s₁, s₂, '.', f₁, f₂, f₃, 'Z'] := by
    simp only [String.toList_append, hy, hm, hd, hh, hn, hs, hf]
    rfl
  have hdigits : [y₁, y₂, y₃, y₄, m₁, m₂, d₁, d₂, h₁, h₂, n₁, n₂, s₁, s₂, f₁, f₂, f₃].all
      Char.isDigit = true := by
    simp [hy₁, hy₂, hy₃, hy₄, hm₁, hm₂, hd₁, hd₂, hh₁, hh₂, hn₁, hn₂, hs₁, hs₂, hf₁, hf₂, hf₃]
  rw [timeFields, htext]
  change (if [y₁, y₂, y₃, y₄, m₁, m₂, d₁, d₂, h₁, h₂, n₁, n₂, s₁, s₂, f₁, f₂, f₃].all
    Char.isDigit = true then _ else none) = _
  rw [if_pos hdigits, hyv, hmv, hdv, hhv, hnv, hsv, hfv]

/-- **A timestamp is read back**, up to the end of the year 9999. -/
theorem parseUtcIso_utcNowIso {ms : ℕ} (h : ms < clockEnd) :
    parseUtcIso (utcNowIso ms) = some (ms : ℤ) := by
  have hclock : ms < 253402300800000 := h
  have hdays : ms / 86400000 < daysEnd := by
    rw [daysEnd]
    omega
  obtain ⟨year, month, day, hparts, hdate, hcivil⟩ : ∃ year month day,
      civilFromDays (ms / 86400000) = (year, month, day) ∧ CivilDate year month day ∧
        daysFromCivil year month day = (ms / 86400000 : ℕ) :=
    ⟨_, _, _, rfl, civilFromDays_spec hdays⟩
  have hmonth : month < 100 := lt_of_le_of_lt hdate.monthBounds.2 (by decide)
  have hday : day < 100 := by
    have hlength : daysInMonth (isLeap year) month ≤ 31 := by
      rw [daysInMonth]
      split_ifs <;> decide
    exact lt_of_le_of_lt (hdate.dayBounds.2.trans hlength) (by decide)
  have hhour : ms / 3600000 % 24 < 24 := Nat.mod_lt _ (by decide)
  have hminute : ms / 60000 % 60 < 60 := Nat.mod_lt _ (by decide)
  have hsecond : ms / 1000 % 60 < 60 := Nat.mod_lt _ (by decide)
  have htext : utcNowIso ms = zeroPad 4 year ++ "-" ++ zeroPad 2 month ++ "-" ++ zeroPad 2 day ++
      "T" ++ zeroPad 2 (ms / 3600000 % 24) ++ ":" ++ zeroPad 2 (ms / 60000 % 60) ++ ":" ++
      zeroPad 2 (ms / 1000 % 60) ++ "." ++ zeroPad 3 (ms % 1000) ++ "Z" := by
    rw [utcNowIso, isoSeconds, hparts]
  have hfields := timeFields_eq (Nat.lt_succ_of_le hdate.yearBounds.2) hmonth hday
    (hhour.trans (by decide)) (hminute.trans (by decide)) (hsecond.trans (by decide))
    (Nat.mod_lt ms (by decide))
  rw [parseUtcIso, htext, hfields, Option.bind_some, TimeFields.toMillis,
    if_pos ⟨hdate, hhour, hminute, hsecond⟩, hcivil]
  refine congrArg some ?_
  dsimp only
  omega

example : parseUtcIso "2000-02-29T23:59:59.999Z" = some 951868799999 := by decide +kernel

example : parseUtcIso "2001-02-29T00:00:00.000Z" = none := by decide +kernel

end Orchestra
