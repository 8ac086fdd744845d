import Mathlib.Data.String.Basic

/-!
# Timestamps

The program writes UTC times as ISO-8601 text with millisecond resolution and a `Z` suffix. A time
is kept here as the number of milliseconds since 1970; the text is produced by the calendar
conversion for the proleptic Gregorian calendar, whose eras are periods of 400 years.
-/

namespace Orchestra

/-- Year, month and day of the day number `days`, counted from 1970-01-01. Years start in March, so
that the leap day is the last one; the final step moves January and February to the next year. -/
def civilFromDays (days : ℕ) : ℕ × ℕ × ℕ :=
  let z := days + 719468
  let era := z / 146097
  let doe := z % 146097
  let yoe := (doe - doe / 1460 + doe / 36524 - doe / 146096) / 365
  let doy := doe - (365 * yoe + yoe / 4 - yoe / 100)
  let mp := (5 * doy + 2) / 153
  let day := doy - (153 * mp + 2) / 5 + 1
  let month := if mp < 10 then mp + 3 else mp - 9
  (yoe + era * 400 + (if month ≤ 2 then 1 else 0), month, day)

/-- A number in decimal, padded with zeros on the left. -/
def zeroPad (width n : ℕ) : String :=
  let digits := toString n
  String.ofList (List.replicate (width - digits.length) '0') ++ digits

/-- `strftime("%Y-%m-%dT%H:%M:%S.")`. -/
def isoSeconds (ms : ℕ) : String :=
  let (year, month, day) := civilFromDays (ms / 86400000)
  zeroPad 4 year ++ "-" ++ zeroPad 2 month ++ "-" ++ zeroPad 2 day ++ "T" ++
    zeroPad 2 (ms / 3600000 % 24) ++ ":" ++ zeroPad 2 (ms / 60000 % 60) ++ ":" ++
    zeroPad 2 (ms / 1000 % 60) ++ "."

/-- `utc_now_iso` when the clock shows `ms`. -/
def utcNowIso (ms : ℕ) : String := isoSeconds ms ++ zeroPad 3 (ms % 1000) ++ "Z"

example : utcNowIso 951782399999 = "2000-02-28T23:59:59.999Z" := by decide

end Orchestra
