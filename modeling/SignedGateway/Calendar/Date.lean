namespace SignedGateway
namespace Calendar

/-!
# The Gregorian calendar

Days are numbered from the first of January 1970, and dates run over all years
of the calendar carried on in both directions.
-/

structure Date where
  year : Int
  month : Nat
  day : Nat
  deriving DecidableEq, Repr

def isLeap (year : Int) : Bool :=
  year % 4 == 0 && (year % 100 != 0 || year % 400 == 0)

def monthLengths (leap : Bool) : List Nat :=
  [31, if leap then 29 else 28, 31, 30, 31, 30, 31, 31, 30, 31, 30, 31]

/-- The number of the year's first day. -/
def yearStart (year : Int) : Int :=
  365 * (year - 1970) + (year - 1) / 4 - (year - 1) / 100 + (year - 1) / 400 - 477

/-- The days of a year before a month. -/
def monthStart (leap : Bool) (month : Nat) : Nat :=
  ((monthLengths leap).take (month - 1)).foldr (· + ·) 0

def monthLength (leap : Bool) (month : Nat) : Nat :=
  (monthLengths leap).getD (month - 1) 0

namespace Date

/-- Whether the date stands in the calendar. -/
def isReal (date : Date) : Bool :=
  1 ≤ date.month && date.month ≤ 12 && 1 ≤ date.day &&
    date.day ≤ monthLength (isLeap date.year) date.month

def dayNumber (date : Date) : Int :=
  yearStart date.year + monthStart (isLeap date.year) date.month + date.day - 1

/-- The month and the day that lie so many days into a year. -/
def monthAndDay : (month : Nat) → (lengths : List Nat) → (days : Nat) → Nat × Nat
  | month, [], days => (month, days + 1)
  | month, length :: rest, days =>
      if days < length then (month, days + 1) else monthAndDay (month + 1) rest (days - length)

/-- The year of a day.  The mean length of a year gives it up to one. -/
def yearOf (dayNumber : Int) : Int :=
  let near := 1970 + dayNumber * 400 / 146097
  if dayNumber < yearStart near then near - 1
  else if yearStart (near + 1) ≤ dayNumber then near + 1
  else near

def ofDayNumber (dayNumber : Int) : Date :=
  let year := yearOf dayNumber
  let (month, day) := monthAndDay 1 (monthLengths (isLeap year)) (dayNumber - yearStart year).toNat
  ⟨year, month, day⟩

end Date
end Calendar
end SignedGateway
