import SignedGateway.Calendar.Stamp
import SignedGateway.Error

namespace SignedGateway

/-!
# Checks against the clock

A request that is signed in its header must be dated within a limit of the
present, to either side and in whole seconds.  A presigned request must not be
older than its lifetime.
-/

/-- The present and the greatest distance in seconds that a date may have from it. -/
structure Clock where
  now : Calendar.Moment
  maxDrift : Nat
  deriving DecidableEq, Repr

namespace Clock

def readDate (text : String) : Except AuthError Calendar.Moment :=
  match Calendar.parseStamp? text with
  | some moment => .ok moment
  | none => .error (.invalidDate text)

/-- The distance of a moment from the present in whole seconds. -/
def drift (clock : Clock) (moment : Calendar.Moment) : Nat :=
  (clock.now.secondsSince moment).natAbs

def checkDrift (clock : Clock) (date : String) : Except AuthError Unit := do
  let moment ← readDate date
  if clock.maxDrift < clock.drift moment then
    throw (.clockDrift (clock.drift moment : Int) clock.maxDrift)

/-- The greatest lifetime in seconds that is added to a date. -/
def maxLifetime : Nat := (UInt64.size / 2 - 1) / 1000

/-- Refuse a presigned request after its lifetime.  A lifetime that ends after the
last day of the calendar has no answer; one of sixty-four bits counts as over. -/
def checkLifetime (clock : Clock) (date : String) (lifetime : Nat) :
    Except (Halt AuthError) Unit :=
  match readDate date with
  | .error fault => .error (.failed fault)
  | .ok moment =>
      if UInt64.size / 2 ≤ lifetime then .error (.failed .requestExpired)
      else if maxLifetime < lifetime then .error .outOfCalendar
      else
        match moment.plusSeconds? lifetime with
        | none => .error .outOfCalendar
        | some expiry =>
            if expiry.before clock.now then .error (.failed .requestExpired) else .ok ()

end Clock
end SignedGateway
