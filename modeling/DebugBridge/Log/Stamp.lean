/-!
# Time stamps

The moment of a log record in universal time: date, time of day and microseconds.  Days are
counted from the first of March, so that a leap day comes last in its year.
-/

namespace DebugBridge.Stamp

/-- At least so many digits. -/
def padded (width : Nat) (value : Nat) : String :=
  let digits := toString value
  String.ofList (List.replicate (width - digits.length) '0') ++ digits

/-- Year, month and day of a day counted from the first of January 1970. -/
def dateOfDay (day : Nat) : Nat × Nat × Nat :=
  let shifted := day + 719468
  let era := shifted / 146097
  let dayOfEra := shifted % 146097
  let yearOfEra := (dayOfEra - dayOfEra / 1460 + dayOfEra / 36524 - dayOfEra / 146096) / 365
  let dayOfYear := dayOfEra - (365 * yearOfEra + yearOfEra / 4 - yearOfEra / 100)
  let shiftedMonth := (5 * dayOfYear + 2) / 153
  let month := if shiftedMonth < 10 then shiftedMonth + 3 else shiftedMonth - 9
  let year := 400 * era + yearOfEra + (if month ≤ 2 then 1 else 0)
  (year, month, dayOfYear - (153 * shiftedMonth + 2) / 5 + 1)

/-- The stamp of a moment, given in microseconds since the start of 1970. -/
def ofMicroseconds (moment : Nat) : String :=
  let second := moment / 1000000
  let (year, month, day) := dateOfDay (second / 86400)
  padded 4 year ++ "-" ++ padded 2 month ++ "-" ++ padded 2 day
    ++ "T" ++ padded 2 (second / 3600 % 24) ++ ":" ++ padded 2 (second / 60 % 60)
    ++ ":" ++ padded 2 (second % 60) ++ "." ++ padded 6 (moment % 1000000) ++ "Z"

end DebugBridge.Stamp
