import SignedGateway.Calendar.Moment
import SignedGateway.Text.Blank
import SignedGateway.Text.Decimal

namespace SignedGateway
namespace Calendar

/-!
# Time stamps

A moment is written `20240101T120000Z` in signatures and `2024-01-01T12:00:00Z`
in documents.  The reader of the first form is lenient: blanks may precede a
number, numbers may be short, and a year with a sign takes every digit that
follows.
-/

/-- The year in at least four digits, with a sign when it has not exactly four. -/
def renderYear (year : Int) : String :=
  if 0 ≤ year ∧ year ≤ 9999 then Text.padded 4 year.toNat
  else if year < 0 then "-" ++ Text.padded 4 (-year).toNat
  else "+" ++ Text.padded 4 year.toNat

namespace Moment

def date (moment : Moment) : Date :=
  Date.ofDayNumber moment.day

/-- The second within the minute; a leap second is the sixtieth. -/
def secondOfMinute (moment : Moment) : Nat :=
  moment.second % 60 + moment.nano / nanosPerSecond

/-- `20240101T120000Z` -/
def stamp (moment : Moment) : String :=
  renderYear moment.date.year ++ Text.padded 2 moment.date.month ++ Text.padded 2 moment.date.day ++
    "T" ++ Text.padded 2 (moment.second / 3600) ++ Text.padded 2 (moment.second / 60 % 60) ++
    Text.padded 2 moment.secondOfMinute ++ "Z"

/-- `2024-01-01T12:00:00Z` -/
def iso (moment : Moment) : String :=
  renderYear moment.date.year ++ "-" ++ Text.padded 2 moment.date.month ++ "-" ++
    Text.padded 2 moment.date.day ++ "T" ++ Text.padded 2 (moment.second / 3600) ++ ":" ++
    Text.padded 2 (moment.second / 60 % 60) ++ ":" ++ Text.padded 2 moment.secondOfMinute ++ "Z"

end Moment

/-- The value of a run of decimal digits. -/
def valueOf (digits : List Char) : Nat :=
  digits.foldl (fun value c => value * 10 + (c.toNat - '0'.toNat)) 0

/-- A number of at least one digit and at most `width`, and the rest. -/
def takeNumber (width : Nat) (text : List Char) : Option (Nat × List Char) :=
  let digits := (text.take width).takeWhile Char.isDigit
  if digits.isEmpty then none else some (valueOf digits, text.drop digits.length)

/-- A number after blanks. -/
def takeField (width : Nat) (text : List Char) : Option (Nat × List Char) :=
  takeNumber width (text.dropWhile Text.isBlank)

/-- A year after blanks: four digits at most, or a sign and all the digits. -/
def takeYear (text : List Char) : Option (Int × List Char) :=
  match text.dropWhile Text.isBlank with
  | '-' :: rest => (takeNumber rest.length rest).map fun read => (-(read.1 : Int), read.2)
  | '+' :: rest => (takeNumber rest.length rest).map fun read => ((read.1 : Int), read.2)
  | rest => (takeNumber 4 rest).map fun read => ((read.1 : Int), read.2)

/-- The rest after a given character. -/
def takeMark (mark : Char) : List Char → Option (List Char)
  | [] => none
  | c :: rest => if c = mark then some rest else none

/-- The moment of a date and a time of day, if both are real; second sixty is a
leap second. -/
def momentOf? (date : Date) (hour minute second : Nat) : Option Moment :=
  if date.isReal && -262143 ≤ date.year && date.year ≤ 262142 && hour ≤ 23 && minute ≤ 59 &&
      second ≤ 60 then
    if second = 60 then some ⟨date.dayNumber, hour * 3600 + minute * 60 + 59, nanosPerSecond⟩
    else some ⟨date.dayNumber, hour * 3600 + minute * 60 + second, 0⟩
  else none

/-- The moment that a stamp names. -/
def parseStamp? (text : String) : Option Moment := do
  let (year, afterYear) ← takeYear text.toList
  let (month, afterMonth) ← takeField 2 afterYear
  let (day, afterDay) ← takeField 2 afterMonth
  let time ← takeMark 'T' afterDay
  let (hour, afterHour) ← takeField 2 time
  let (minute, afterMinute) ← takeField 2 afterHour
  let (second, afterSecond) ← takeField 2 afterMinute
  let rest ← takeMark 'Z' afterSecond
  if rest.isEmpty then momentOf? ⟨year, month, day⟩ hour minute second else none

end Calendar
end SignedGateway
