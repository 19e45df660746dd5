import SignedGateway.Calendar.Date

namespace SignedGateway
namespace Calendar

/-!
# Moments

A moment is a day, a second of that day and a fraction in nanoseconds.  A leap
second is the second before it with a fraction of a full second or more.
-/

structure Moment where
  day : Int
  second : Nat
  nano : Nat
  deriving DecidableEq, Repr, Inhabited

def nanosPerSecond : Nat := 1000000000

/-- The last day for which the calendar holds: the end of the year 262142. -/
def lastDay : Int := yearStart 262143 - 1

namespace Moment

/-- The moment so many milliseconds after the epoch. -/
def ofMillis (millis : Int) : Moment :=
  let seconds := millis / 1000
  ⟨seconds / 86400, (seconds % 86400).toNat, (millis % 1000).toNat * 1000000⟩

/-- Seconds since the epoch, without the fraction. -/
def unixSeconds (moment : Moment) : Int :=
  moment.day * 86400 + moment.second

/-- Milliseconds since the epoch. -/
def unixMillis (moment : Moment) : Int :=
  moment.unixSeconds * 1000 + moment.nano / 1000000

/-- Order by day, second and fraction. -/
def before (left right : Moment) : Bool :=
  left.day < right.day ||
    (left.day == right.day &&
      (left.second < right.second || (left.second == right.second && left.nano < right.nano)))

/-- Whether a leap second of `right` lies between the two times of day, or one of
`left` does, as seen from `right`. -/
def leapBetween (left right : Moment) : Int :=
  if right.second < left.second ∧ nanosPerSecond ≤ right.nano then 1
  else if left.second < right.second ∧ nanosPerSecond ≤ left.nano then -1
  else 0

/-- The nanoseconds from `right` to `left`. -/
def nanosSince (left right : Moment) : Int :=
  ((left.day - right.day) * 86400 + (left.second : Int) - right.second + leapBetween left right) *
    1000000000 + ((left.nano : Int) - right.nano)

/-- The whole seconds from `right` to `left`, cut towards zero. -/
def secondsSince (left right : Moment) : Int :=
  (left.nanosSince right).tdiv 1000000000

/-- The moment so many seconds later, unless it lies after the last day.  A leap
second counts as the second before it once time moves on. -/
def plusSeconds? (moment : Moment) (seconds : Nat) : Option Moment :=
  if seconds = 0 then some moment
  else
    let total := moment.second + seconds
    let day := moment.day + total / 86400
    if lastDay < day then none
    else
      some ⟨day, total % 86400,
        if nanosPerSecond ≤ moment.nano then moment.nano - nanosPerSecond else moment.nano⟩

end Moment
end Calendar
end SignedGateway
