/-!
Points in time, in nanoseconds since the beginning of 1970, and the texts for them.
-/

namespace Harvest.Clock

/-- The year, month and day of the Gregorian calendar that is some days after 1970-01-01. -/
def civilOfDays (days : Nat) : Nat × Nat × Nat :=
  let shifted := days + 719468
  let era := shifted / 146097
  let dayOfEra := shifted % 146097
  let yearOfEra := (dayOfEra - dayOfEra / 1460 + dayOfEra / 36524 - dayOfEra / 146096) / 365
  let dayOfYear := dayOfEra - (365 * yearOfEra + yearOfEra / 4 - yearOfEra / 100)
  let marchMonth := (5 * dayOfYear + 2) / 153
  let month := if marchMonth < 10 then marchMonth + 3 else marchMonth - 9
  (era * 400 + yearOfEra + if month ≤ 2 then 1 else 0, month, dayOfYear - (153 * marchMonth + 2) / 5 + 1)

def padded (width n : Nat) : String :=
  let digits := toString n
  String.ofList (List.replicate (width - digits.length) '0') ++ digits

def timeText (seconds : Nat) : String :=
  let ofDay := seconds % 86400
  s!"{padded 2 (ofDay / 3600)}:{padded 2 (ofDay / 60 % 60)}:{padded 2 (ofDay % 60)}"

/-- The time of the day, to the millisecond. -/
def timeOfDay (nanoseconds : Nat) : String :=
  s!"{timeText (nanoseconds / 1000000000)}.{padded 3 (nanoseconds / 1000000 % 1000)}"

/-- Date and time; the fraction of a second has as many groups of three digits as it takes. -/
def dateTime (nanoseconds : Nat) : String :=
  let seconds := nanoseconds / 1000000000
  let rest := nanoseconds % 1000000000
  let (year, month, day) := civilOfDays (seconds / 86400)
  let fraction :=
    if rest = 0 then ""
    else if rest % 1000000 = 0 then "." ++ padded 3 (rest / 1000000)
    else if rest % 1000 = 0 then "." ++ padded 6 (rest / 1000)
    else "." ++ padded 9 rest
  s!"{padded 4 year}-{padded 2 month}-{padded 2 day}T{timeText seconds}{fraction}+00:00"

end Harvest.Clock
