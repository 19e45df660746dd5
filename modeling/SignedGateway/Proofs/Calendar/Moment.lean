import Mathlib.Data.Prod.Lex
import SignedGateway.Calendar.Stamp
import SignedGateway.Proofs.Calendar.Date

namespace SignedGateway
namespace Calendar

/-!
# Time over all integers

The calendar has a last day, and what would come after it cannot be said.  Seconds since
the epoch have no such end, so they say what a sum of a moment and a number of seconds
should be, and where the calendar has no room for it.

Moments are ordered by their second and then by their fraction.  A leap second has the
number of the second before it and a fraction beyond a full second, so it comes after that
second and before the next, and time that goes on from it goes on from the second before.
-/

/-- The first second of the calendar. -/
def startOfCalendar : Int :=
  yearStart (-262143) * 86400

/-- The first second that no day of the calendar has. -/
def endOfCalendar : Int :=
  (lastDay + 1) * 86400

namespace Moment

/-- A moment of a day, and of a day that the calendar has. -/
structure Proper (moment : Moment) : Prop where
  inDay : moment.second < 86400
  fromStart : startOfCalendar ≤ moment.unixSeconds
  beforeEnd : moment.unixSeconds < endOfCalendar

/-- The place of a moment in time. -/
def instant (moment : Moment) : ℤ ×ₗ ℕ :=
  toLex (moment.unixSeconds, moment.nano)

/-- The fraction that is left when time has moved on by some seconds. -/
def fractionAfter (moment : Moment) (seconds : Nat) : Nat :=
  if seconds = 0 then moment.nano
  else if nanosPerSecond ≤ moment.nano then moment.nano - nanosPerSecond
  else moment.nano

/-- The place in time so many seconds after a moment, whether or not it has a day in the
calendar. -/
def instantAfter (moment : Moment) (seconds : Nat) : ℤ ×ₗ ℕ :=
  toLex (moment.unixSeconds + seconds, moment.fractionAfter seconds)

/-- Days, seconds and fractions one after the other give the order in time. -/
theorem before_iff {left right : Moment} (leftInDay : left.second < 86400)
    (rightInDay : right.second < 86400) :
    left.before right = true ↔ left.instant < right.instant := by
  unfold before instant
  rw [Prod.Lex.toLex_lt_toLex]
  unfold unixSeconds
  simp only [Bool.or_eq_true, Bool.and_eq_true, decide_eq_true_eq, beq_iff_eq]
  omega

/-- Seconds can be added if the sum comes before the end of the calendar, and then they are. -/
theorem plusSeconds?_cases {moment : Moment} (proper : moment.Proper) (seconds : Nat) :
    (endOfCalendar ≤ moment.unixSeconds + seconds ∧ moment.plusSeconds? seconds = none) ∨
      ∃ later, moment.plusSeconds? seconds = some later ∧
        moment.unixSeconds + seconds < endOfCalendar ∧ later.second < 86400 ∧
        later.instant = moment.instantAfter seconds := by
  rcases proper with ⟨inDay, _, beforeEnd⟩
  unfold endOfCalendar unixSeconds at *
  unfold plusSeconds? instant instantAfter fractionAfter unixSeconds
  by_cases zero : seconds = 0
  · rw [if_pos zero, zero]
    refine Or.inr ⟨moment, rfl, by omega, inDay, ?_⟩
    simp only [Int.natCast_zero, Int.add_zero, if_true]
  · rw [if_neg zero, if_neg zero]
    by_cases outside : lastDay < moment.day + ((moment.second + seconds) / 86400 : Nat)
    · exact Or.inl ⟨by omega, if_pos outside⟩
    · refine Or.inr ⟨⟨_, _, _⟩, if_neg outside, by omega, Nat.mod_lt _ (by decide), ?_⟩
      refine congrArg (fun second => toLex (second, _)) ?_
      dsimp only
      omega

/-- The nanoseconds since the epoch of a moment that is in no leap second. -/
def unixNanos (moment : Moment) : Int :=
  moment.unixSeconds * nanosPerSecond + moment.nano

end Moment

/-! ## What a date and a time name -/

/-- The moment that a date of the calendar and a time of day name.  The second sixty is a leap
second. -/
structure Names (date : Date) (hour minute second : Nat) (moment : Moment) : Prop where
  real : date.isReal = true
  late : -262143 ≤ date.year
  early : date.year ≤ 262142
  inDay : hour ≤ 23
  inHour : minute ≤ 59
  inMinute : second ≤ 60
  onDay : moment.day = date.dayNumber
  atHour : moment.second / 3600 = hour
  atMinute : moment.second / 60 % 60 = minute
  atSecond : moment.secondOfMinute = second
  fraction : moment.nano = if second = 60 then nanosPerSecond else 0

theorem momentOf?_eq_some_iff {date : Date} {hour minute second : Nat} {moment : Moment} :
    momentOf? date hour minute second = some moment ↔ Names date hour minute second moment := by
  constructor
  · intro named
    unfold momentOf? at named
    split_ifs at named with inRange leap
    all_goals
      simp only [Bool.and_eq_true, decide_eq_true_eq] at inRange
      rcases inRange with ⟨⟨⟨⟨⟨real, late⟩, early⟩, inDay⟩, inHour⟩, inMinute⟩
      cases named
    · refine ⟨real, late, early, inDay, inHour, inMinute, rfl, ?_, ?_, ?_, (if_pos leap).symm⟩
      all_goals
        simp only [Moment.secondOfMinute, nanosPerSecond]
        omega
    · refine ⟨real, late, early, inDay, inHour, inMinute, rfl, ?_, ?_, ?_, (if_neg leap).symm⟩
      all_goals
        simp only [Moment.secondOfMinute, nanosPerSecond]
        omega
  · intro names
    rcases moment with ⟨day, instant, nano⟩
    rcases names with
      ⟨real, late, early, inDay, inHour, inMinute, rfl, hours, minutes, seconds, fraction⟩
    dsimp only [Moment.secondOfMinute] at hours minutes seconds fraction
    have inRange : (date.isReal && -262143 ≤ date.year && date.year ≤ 262142 && hour ≤ 23 &&
        minute ≤ 59 && second ≤ 60) = true := by
      simp only [Bool.and_eq_true, decide_eq_true_eq]
      exact ⟨⟨⟨⟨⟨real, late⟩, early⟩, inDay⟩, inHour⟩, inMinute⟩
    unfold momentOf?
    rw [if_pos inRange]
    unfold nanosPerSecond at *
    split_ifs at fraction ⊢ with leap
    all_goals
      rw [fraction] at seconds ⊢
      rw [Option.some.injEq, Moment.mk.injEq]
      refine ⟨rfl, ?_, rfl⟩
      omega

/-- A date of the calendar's years has a day of the calendar. -/
theorem Date.dayNumber_inCalendar {date : Date} (real : date.isReal = true)
    (late : -262143 ≤ date.year) (early : date.year ≤ 262142) :
    yearStart (-262143) ≤ date.dayNumber ∧ date.dayNumber ≤ lastDay := by
  rcases dayNumber_inYear real with ⟨started, unfinished⟩
  have last : lastDay + 1 = yearStart (262142 + 1) := Int.sub_add_cancel _ 1
  have begun := yearStart_mono late
  have ended := yearStart_mono (Int.add_le_add_right early 1)
  omega

/-- What a date of the calendar and a time of day name is a moment of the calendar. -/
theorem Names.proper {date : Date} {hour minute second : Nat} {moment : Moment}
    (names : Names date hour minute second moment) : moment.Proper := by
  have inDay : moment.second < 86400 := by
    have hours := names.atHour
    have last := names.inDay
    omega
  rcases Date.dayNumber_inCalendar names.real names.late names.early with ⟨fromStart, beforeEnd⟩
  rw [← names.onDay] at fromStart beforeEnd
  constructor
  · exact inDay
  · unfold startOfCalendar Moment.unixSeconds
    omega
  · unfold endOfCalendar Moment.unixSeconds
    omega

/-! ## Moments that are read -/

/-- What is read of a stamp is what some date and time name. -/
theorem exists_names_of_parseStamp? {text : String} {moment : Moment}
    (read : parseStamp? text = some moment) :
    ∃ date hour minute second, Names date hour minute second moment := by
  simp only [parseStamp?, Option.bind_eq_bind, Option.bind_eq_some_iff] at read
  rcases read with ⟨⟨year, _⟩, _, ⟨month, _⟩, _, ⟨day, _⟩, _, _, _, ⟨hour, _⟩, _, ⟨minute, _⟩, _,
    ⟨second, _⟩, _, _, _, whole⟩
  split_ifs at whole
  exact ⟨⟨year, month, day⟩, hour, minute, second, momentOf?_eq_some_iff.mp whole⟩

theorem proper_of_parseStamp? {text : String} {moment : Moment}
    (read : parseStamp? text = some moment) : moment.Proper := by
  rcases exists_names_of_parseStamp? read with ⟨_, _, _, _, names⟩
  exact names.proper

end Calendar
end SignedGateway
