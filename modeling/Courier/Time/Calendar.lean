/-!
The proleptic Gregorian calendar. Days are counted from 1970-01-01. Internally a year starts in
March, so that a leap day is the last day of its year and every length is a division.
-/

namespace Courier.Time

structure Date where
  year : Int
  month : Nat
  day : Nat
deriving DecidableEq, Repr

namespace Date

def firstYear : Int := -262143

def lastYear : Int := 262142

def isLeap (year : Int) : Bool :=
  year % 4 == 0 && (year % 100 != 0 || year % 400 == 0)

def daysInMonth (year : Int) (month : Nat) : Nat :=
  if month = 2 then (if isLeap year then 29 else 28)
  else if month = 4 ∨ month = 6 ∨ month = 9 ∨ month = 11 then 30
  else 31

/-- Whether the date exists and its year is within the calendar's range. -/
def isValid (d : Date) : Bool :=
  firstYear ≤ d.year && d.year ≤ lastYear && 1 ≤ d.month && d.month ≤ 12 && 1 ≤ d.day &&
    d.day ≤ daysInMonth d.year d.month

def toDays (d : Date) : Int :=
  let y := if d.month ≤ 2 then d.year - 1 else d.year
  let m := if d.month ≤ 2 then d.month + 9 else d.month - 3
  let ofCycle := y % 400
  y / 400 * 146097 + ofCycle * 365 + ofCycle / 4 - ofCycle / 100 + (153 * m + 2) / 5 + d.day - 1
    - 719468

/-- The date so many days after 1970-01-01. A cycle of 400 years is divided into centuries, these
into groups of four years, these into years; the last century and the last year of a division may
be a day longer than the others. -/
def ofDays (days : Int) : Date :=
  let shifted := days + 719468
  let inCycle := (shifted % 146097).toNat
  let century := min (inCycle / 36524) 3
  let inCentury := inCycle - century * 36524
  let group := inCentury / 1461
  let inGroup := inCentury - group * 1461
  let year := min (inGroup / 365) 3
  let inYear := inGroup - year * 365
  let month := (5 * inYear + 2) / 153
  let day := inYear - (153 * month + 2) / 5 + 1
  let y := shifted / 146097 * 400 + century * 100 + group * 4 + year
  if month < 10 then ⟨y, month + 3, day⟩ else ⟨y + 1, month - 9, day⟩

end Date
end Courier.Time
