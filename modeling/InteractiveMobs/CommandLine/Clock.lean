/-!
# Times

A moment in universal time as log lines and reports write it.
-/

namespace InteractiveMobs.CommandLine
set_option autoImplicit false

/-- A moment, counted from the start of the year 1970. -/
structure Moment where
  seconds : Nat
  nanoseconds : Nat
deriving DecidableEq, Repr

/-- A number with zeros in front, up to a number of digits. -/
def padded (digits n : Nat) : String :=
  let text := toString n
  String.ofList (List.replicate (digits - text.length) '0') ++ text

namespace Moment

/-- The year, month and day of a day counted from the start of 1970. Years are taken to start
with March, so that a leap day is the last of its year, and four hundred of them, an era, have
146097 days. -/
def date (days : Nat) : Nat × Nat × Nat :=
  let shifted := days + 719468
  let era := shifted / 146097
  let ofEra := shifted % 146097
  let yearOfEra := (ofEra - ofEra / 1460 + ofEra / 36524 - ofEra / 146096) / 365
  let ofYear := ofEra - (365 * yearOfEra + yearOfEra / 4 - yearOfEra / 100)
  let fromMarch := (5 * ofYear + 2) / 153
  let day := ofYear - (153 * fromMarch + 2) / 5 + 1
  let month := if fromMarch < 10 then fromMarch + 3 else fromMarch - 9
  (yearOfEra + 400 * era + (if month ≤ 2 then 1 else 0), month, day)

/-- The date and the time of day, to the second. -/
def toSeconds (moment : Moment) : String :=
  let (year, month, day) := date (moment.seconds / 86400)
  let second := moment.seconds % 86400
  s!"{padded 4 year}-{padded 2 month}-{padded 2 day}T" ++
    s!"{padded 2 (second / 3600)}:{padded 2 (second / 60 % 60)}:{padded 2 (second % 60)}"

/-- The moment at the start of a log line, to the microsecond. -/
def logText (moment : Moment) : String :=
  moment.toSeconds ++ "." ++ padded 6 (moment.nanoseconds / 1000) ++ "Z"

/-- The moment in a report, with as many groups of three decimals as it needs. -/
def reportText (moment : Moment) : String :=
  let n := moment.nanoseconds
  let fraction :=
    if n = 0 then "" else if n % 1000000 = 0 then "." ++ padded 3 (n / 1000000)
    else if n % 1000 = 0 then "." ++ padded 6 (n / 1000) else "." ++ padded 9 n
  moment.toSeconds ++ fraction ++ "+00:00"

end Moment
end InteractiveMobs.CommandLine
