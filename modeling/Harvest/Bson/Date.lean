/-!
Dates with a time and an offset, as in `2024-01-31T12:00:00.5+01:00`. Any ASCII character may stand between
the date and the time.
-/

namespace Harvest.Bson

/-- Days from 1970-01-01 to a day of the Gregorian calendar; years start in March. -/
def daysFromCivil (year month day : Int) : Int :=
  let y := if month ≤ 2 then year - 1 else year
  let era := y / 400
  let yearOfEra := y - era * 400
  let shifted := if month > 2 then month - 3 else month + 9
  let dayOfYear := (153 * shifted + 2) / 5 + day - 1
  era * 146097 + yearOfEra * 365 + yearOfEra / 4 - yearOfEra / 100 + dayOfYear - 719468

def isLeapYear (year : Nat) : Bool := year % 4 = 0 && (year % 100 ≠ 0 || year % 400 = 0)

def daysInMonth (year month : Nat) : Nat :=
  if month = 2 then if isLeapYear year then 29 else 28
  else if month ∈ [4, 6, 9, 11] then 30
  else 31

/-- Takes a number of exactly `width` digits off the front. -/
def takeNumber (width : Nat) (cs : List Char) : Option (Nat × List Char) :=
  let digits := cs.take width
  if digits.length = width ∧ digits.all Char.isDigit then
    some (digits.foldl (fun n c => n * 10 + (c.toNat - 48)) 0, cs.drop width)
  else none

def takeChar (allowed : List Char) : List Char → Option (List Char)
  | c :: cs => if c ∈ allowed then some cs else none
  | [] => none

/-- Takes a fraction of a second off the front, in nanoseconds. -/
def takeFraction : List Char → Option (Nat × List Char)
  | '.' :: cs =>
    let digits := cs.takeWhile Char.isDigit
    if digits.isEmpty then none
    else
      let nine := (digits ++ List.replicate 9 '0').take 9
      some (nine.foldl (fun n c => n * 10 + (c.toNat - 48)) 0, cs.dropWhile Char.isDigit)
  | cs => some (0, cs)

/-- Takes an offset off the front, in seconds. -/
def takeOffset : List Char → Option (Int × List Char)
  | c :: cs =>
    if c = 'Z' ∨ c = 'z' then some (0, cs)
    else if c = '+' ∨ c = '-' then do
      let (hours, cs) ← takeNumber 2 cs
      let cs ← takeChar [':'] cs
      let (minutes, cs) ← takeNumber 2 cs
      if 23 < hours ∨ 59 < minutes then none
      else
        let seconds : Int := 3600 * hours + 60 * minutes
        pure (if c = '-' then -seconds else seconds, cs)
    else none
  | [] => none

def takeAny : List Char → Option (List Char)
  | c :: cs => if c.toNat < 128 then some cs else none
  | [] => none

/-- Whether a day, by its distance from 1970, is the last one of a month, given a month that is the same or
whose first or last day is next to it. -/
def isMonthEnd (year month : Nat) (days : Int) : Bool :=
  days + 1 = daysFromCivil year month 1 || days + 1 = daysFromCivil year (month + 1) 1

/-- A point in time: the seconds from 1970 to the second it lies in, and what has passed of that one. -/
structure Instant where
  seconds : Int
  nanoseconds : Nat

def Instant.milliseconds (t : Instant) : Int := (t.seconds * 1000000000 + t.nanoseconds).tdiv 1000000

/-- The instant of a second and its fraction. A sixtieth second is the very end of the one before, and
stands only at the end of a month, by the time without offset. -/
def instant? (year month second nanoseconds : Nat) (minuteStart : Int) : Option Instant :=
  if second < 60 then some ⟨minuteStart + second, nanoseconds⟩
  else if second = 60 ∧ minuteStart % 86400 = 86340 ∧ isMonthEnd year month (minuteStart / 86400) then
    some ⟨minuteStart + 59, 999999999⟩
  else none

def millisecondsOf? (s : String) : Option Int := do
  let (year, cs) ← takeNumber 4 s.toList
  let (month, cs) ← takeNumber 2 (← takeChar ['-'] cs)
  let (day, cs) ← takeNumber 2 (← takeChar ['-'] cs)
  let (hour, cs) ← takeNumber 2 (← takeAny cs)
  let (minute, cs) ← takeNumber 2 (← takeChar [':'] cs)
  let (second, cs) ← takeNumber 2 (← takeChar [':'] cs)
  let (nanoseconds, cs) ← takeFraction cs
  let (offset, cs) ← takeOffset cs
  if cs ≠ [] ∨ month = 0 ∨ 12 < month ∨ day = 0 ∨ daysInMonth year month < day ∨ 23 < hour ∨
      59 < minute then none
  else
    let minuteStart : Int := daysFromCivil year month day * 86400 + hour * 3600 + minute * 60 - offset
    (instant? year month second nanoseconds minuteStart).map Instant.milliseconds

end Harvest.Bson
