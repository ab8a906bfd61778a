import Mathlib.Data.Int.Notation

/-!
# Points in time

A point in time is a number of microseconds since the epoch, in UTC, as every
`datetime.now(timezone.utc)` is. `isoformat` writes it in the proleptic
Gregorian calendar.
-/

abbrev Datetime := Int

namespace PyTime

/-- Year, month and day of a day counted from 1970-01-01. The year is shifted
to start in March, so that the leap day comes last. -/
def civil (day : Int) : Int × Int × Int :=
  let z := day + 719468
  let era := z / 146097
  let doe := z % 146097
  let yoe := (doe - doe / 1460 + doe / 36524 - doe / 146096) / 365
  let doy := doe - (365 * yoe + yoe / 4 - yoe / 100)
  let mp := (5 * doy + 2) / 153
  let month := if mp < 10 then mp + 3 else mp - 9
  (yoe + era * 400 + (if month ≤ 2 then 1 else 0), month, doy - (153 * mp + 2) / 5 + 1)

/-- Zero-padded to a width. -/
def pad (width : Nat) (n : Int) : String :=
  let digits := toString n.toNat
  String.ofList (List.replicate (width - digits.length) '0') ++ digits

def microsPerDay : Int := 86400000000

def date (t : Datetime) : String :=
  let (y, m, d) := civil (t / microsPerDay)
  pad 4 y ++ "-" ++ pad 2 m ++ "-" ++ pad 2 d

def clock (t : Datetime) : String :=
  let s := t % microsPerDay / 1000000
  pad 2 (s / 3600) ++ ":" ++ pad 2 (s / 60 % 60) ++ ":" ++ pad 2 (s % 60)

def millis (t : Datetime) : String := pad 3 (t % 1000000 / 1000)

/-- `value.isoformat(timespec="milliseconds")`. -/
def isoMillis (t : Datetime) : String := date t ++ "T" ++ clock t ++ "." ++ millis t ++ "+00:00"

/-- `value.isoformat()`. -/
def iso (t : Datetime) : String :=
  date t ++ "T" ++ clock t ++
    (if t % 1000000 = 0 then "" else "." ++ pad 6 (t % 1000000)) ++ "+00:00"

example : isoMillis 1778889600123456 = "2026-05-16T00:00:00.123+00:00" := by decide +kernel

end PyTime
