import SignedGateway.Proofs.Calendar.Moment
import SignedGateway.Proofs.Signature.Verifier

namespace SignedGateway

/-!
# How long a presigned request lives

A presigned request carries its date and a lifetime of up to sixty-four bits, and both come
from the client.  Their sum over all integers says when the request ends.  The verifier adds
them within the calendar, and it refuses a lifetime of sixty-four bits before it adds anything.
So nothing is let through that has ended, a request that ends within the calendar is let
through as long as it has not, and one of the longest lifetimes is refused as if it had.

That refusal leaves a gap below it.  A lifetime which is shorter, and which still reaches over
the end of the calendar, has no sum to compare with, and verifying the request has no result.
-/

open Calendar

namespace Clock

/-- The present is not after a date and a lifetime together, taken over all integers. -/
def InTime (clock : Clock) (date : Moment) (lifetime : Nat) : Prop :=
  clock.now.instant ≤ date.instantAfter lifetime

instance (clock : Clock) (date : Moment) (lifetime : Nat) :
    Decidable (clock.InTime date lifetime) :=
  inferInstanceAs (Decidable (clock.now.instant ≤ date.instantAfter lifetime))

theorem proper_of_readDate {text : String} {date : Moment} (read : readDate text = .ok date) :
    date.Proper := by
  unfold readDate at read
  split at read <;> cases read
  exact proper_of_parseStamp? ‹_›

/-- A lifetime that is too long to be added reaches over the whole calendar. -/
theorem endOfCalendar_le_of_long {date : Moment} (proper : date.Proper) {lifetime : Nat}
    (long : maxLifetime < lifetime) : endOfCalendar ≤ date.unixSeconds + lifetime := by
  have fromStart := proper.fromStart
  unfold maxLifetime UInt64.size at long
  unfold startOfCalendar yearStart at fromStart
  unfold endOfCalendar lastDay yearStart
  omega

theorem maxLifetime_lt_of_wide {lifetime : Nat} (wide : UInt64.size / 2 ≤ lifetime) :
    maxLifetime < lifetime := by
  unfold maxLifetime
  unfold UInt64.size at *
  omega

/-- What the check of a lifetime does, said by the sum over all integers. -/
theorem checkLifetime_eq {clock : Clock} {text : String} {date : Moment}
    (read : readDate text = .ok date) (inDay : clock.now.second < 86400) (lifetime : Nat) :
    clock.checkLifetime text lifetime =
      if UInt64.size / 2 ≤ lifetime then .error (.failed .requestExpired)
      else if endOfCalendar ≤ date.unixSeconds + lifetime then .error .outOfCalendar
      else if clock.InTime date lifetime then .ok ()
      else .error (.failed .requestExpired) := by
  have proper := proper_of_readDate read
  unfold checkLifetime
  rw [read]
  dsimp only
  by_cases wide : UInt64.size / 2 ≤ lifetime
  · rw [if_pos wide, if_pos wide]
  rw [if_neg wide, if_neg wide]
  by_cases long : maxLifetime < lifetime
  · rw [if_pos long, if_pos (endOfCalendar_le_of_long proper long)]
  rw [if_neg long]
  rcases Moment.plusSeconds?_cases proper lifetime with
    ⟨outside, none⟩ | ⟨expiry, added, inside, expiryInDay, reached⟩
  · rw [none, if_pos outside]
  · rw [added, if_neg (not_le_of_gt inside)]
    dsimp only
    have ended := Moment.before_iff expiryInDay inDay
    rw [reached] at ended
    by_cases inTime : clock.InTime date lifetime
    · rw [if_pos inTime, if_neg (mt ended.mp (not_lt_of_ge inTime))]
    · rw [if_neg inTime, if_pos (ended.mpr (lt_of_not_ge inTime))]

end Clock

namespace Signature

variable {suite : Digest.Suite} {clock : Clock} {record : CredentialRecord}
  {request : StoreRequest}

/-! ## What refuses a request after its date -/

theorem missing_of_checkSignedHeaders {signed : List String} {headers : MultiMap}
    {fault : AuthError} (refused : checkSignedHeaders signed headers = .error fault) :
    ∃ name, fault = .missingHeader name := by
  unfold checkSignedHeaders at refused
  split_ifs at refused
  · cases refused
    exact ⟨_, rfl⟩
  · split at refused <;> cases refused
    exact ⟨_, rfl⟩

theorem missing_of_signedPairs {headers : MultiMap} {names : List String} {fault : AuthError}
    (refused : signedPairs headers names = .error fault) : ∃ name, fault = .missingHeader name := by
  induction names generalizing fault with
  | nil => cases refused
  | cons name rest inductionHypothesis =>
      rw [signedPairs] at refused
      split at refused
      · cases refused
        exact ⟨name, rfl⟩
      · cases later : signedPairs headers rest with
        | ok pairs =>
            rw [later] at refused
            cases refused
        | error first =>
            rw [later] at refused
            cases refused
            exact inductionHypothesis later

/-- The headers that a signature should cover are refused only because one is missing. -/
theorem missing_of_coveredHeaders {fault : AuthError}
    (refused : coveredHeaders request = .error fault) : ∃ name, fault = .missingHeader name := by
  rw [coveredHeaders] at refused
  cases checked : checkSignedHeaders request.authorization.signedHeaders request.headers with
  | ok =>
      rw [checked] at refused
      exact missing_of_signedPairs refused
  | error first =>
      rw [checked] at refused
      cases refused
      exact missing_of_checkSignedHeaders checked

/-- A request whose date has been checked is refused only for a header that is missing or for
its signature. -/
theorem verify_of_parts {parts : List (String × String) × String}
    (found : coveredParts suite clock request = .ok parts) :
    verify suite clock record request = .ok () ∨
      (∃ name, verify suite clock record request = .error (.failed (.missingHeader name))) ∨
      verify suite clock record request = .error (.failed .signatureDoesNotMatch) := by
  unfold verify
  rw [found]
  cases covered : coveredHeaders request with
  | error fault =>
      rcases missing_of_coveredHeaders covered with ⟨name, rfl⟩
      exact Or.inr (Or.inl ⟨name, rfl⟩)
  | ok pairs =>
      dsimp only [Except.mapError, bind, Except.bind]
      split_ifs
      · exact Or.inl rfl
      · exact Or.inr (Or.inr rfl)

theorem verify_of_halt {halt : Halt AuthError}
    (halted : coveredParts suite clock request = .error halt) :
    verify suite clock record request = .error halt := by
  rw [verify, halted]
  rfl

/-! ## Presigned requests -/

section Presigned

variable {lifetime : Nat} (presigned : request.authorization.expires = some lifetime)

include presigned

theorem coveredParts_of_lifetime (passed : clock.checkLifetime request.date lifetime = .ok ()) :
    coveredParts suite clock request =
      .ok (request.query.pairs.filter (fun pair => pair.1 != Authorization.signatureParameter),
        unsignedPayload) := by
  rw [coveredParts, presigned]
  dsimp only
  rw [passed]

theorem coveredParts_of_expired {halt : Halt AuthError}
    (halted : clock.checkLifetime request.date lifetime = .error halt) :
    coveredParts suite clock request = .error halt := by
  rw [coveredParts, presigned]
  dsimp only
  rw [halted]

theorem exists_coveredParts_iff :
    (∃ parts, coveredParts suite clock request = .ok parts) ↔
      clock.checkLifetime request.date lifetime = .ok () := by
  constructor
  · rintro ⟨parts, found⟩
    cases checked : clock.checkLifetime request.date lifetime with
    | ok => rfl
    | error halt =>
        rw [coveredParts_of_expired presigned checked] at found
        cases found
  · exact fun passed => ⟨_, coveredParts_of_lifetime presigned passed⟩

theorem verify_of_expired {halt : Halt AuthError}
    (halted : clock.checkLifetime request.date lifetime = .error halt) :
    verify suite clock record request = .error halt :=
  verify_of_halt (coveredParts_of_expired presigned halted)

/-- No presigned request passes the check of its lifetime when it is over.  One that ends
within the calendar passes exactly if it is in time, it always has an answer, and this is that
it has expired exactly if it is over.  One with a lifetime of sixty-four bits is refused as
expired. -/
theorem presigned_lifetime {date : Moment} (read : Clock.readDate request.date = .ok date)
    (inDay : clock.now.second < 86400) :
    ((∃ parts, coveredParts suite clock request = .ok parts) → clock.InTime date lifetime) ∧
    (date.unixSeconds + lifetime < endOfCalendar →
      (clock.InTime date lifetime → ∃ parts, coveredParts suite clock request = .ok parts) ∧
      (verify suite clock record request = .ok () ∨
        ∃ fault, verify suite clock record request = .error (.failed fault)) ∧
      (verify suite clock record request = .error (.failed .requestExpired) ↔
        ¬clock.InTime date lifetime)) ∧
    (UInt64.size / 2 ≤ lifetime →
      verify suite clock record request = .error (.failed .requestExpired)) := by
  have checked := Clock.checkLifetime_eq read inDay lifetime
  rw [exists_coveredParts_iff presigned]
  refine ⟨?_, ?_, ?_⟩
  · intro passed
    rw [checked] at passed
    split_ifs at passed with wide outside inTime
    exact inTime
  · intro inside
    have narrow : ¬UInt64.size / 2 ≤ lifetime := fun wide =>
      not_le_of_gt inside (Clock.endOfCalendar_le_of_long (Clock.proper_of_readDate read)
        (Clock.maxLifetime_lt_of_wide wide))
    rw [if_neg narrow, if_neg (not_le_of_gt inside)] at checked
    by_cases inTime : clock.InTime date lifetime
    · rw [if_pos inTime] at checked
      refine ⟨fun _ => checked, ?_⟩
      have parts : coveredParts suite clock request = _ :=
        coveredParts_of_lifetime presigned checked
      -- What may refuse the request after its date has nothing to do with its lifetime.
      rcases verify_of_parts parts with done | ⟨name, done⟩ | done
      · exact ⟨.inl done, by simp [done, inTime]⟩
      · exact ⟨.inr ⟨_, done⟩, by simp [done, inTime]⟩
      · exact ⟨.inr ⟨_, done⟩, by simp [done, inTime]⟩
    · rw [if_neg inTime] at checked
      have expired : verify suite clock record request = .error (.failed .requestExpired) :=
        verify_of_expired presigned checked
      exact ⟨fun passing => absurd passing inTime, .inr ⟨_, expired⟩, fun _ => inTime,
        fun _ => expired⟩
  · intro wide
    rw [if_pos wide] at checked
    exact verify_of_expired presigned checked

/-- Exactly a lifetime of less than sixty-four bits that reaches over the end of the calendar
leaves a presigned request without an answer.  That is so whatever it was signed with, and
whatever the time is. -/
theorem verify_eq_outOfCalendar_iff {date : Moment}
    (read : Clock.readDate request.date = .ok date) (inDay : clock.now.second < 86400) :
    verify suite clock record request = .error .outOfCalendar ↔
      endOfCalendar ≤ date.unixSeconds + lifetime ∧ lifetime < UInt64.size / 2 := by
  have checked := Clock.checkLifetime_eq read inDay lifetime
  constructor
  · intro halted
    have outside : clock.checkLifetime request.date lifetime = .error .outOfCalendar := by
      cases lasting : clock.checkLifetime request.date lifetime with
      | ok =>
          have parts : coveredParts suite clock request = _ :=
            coveredParts_of_lifetime presigned lasting
          rcases verify_of_parts parts with done | ⟨name, done⟩ | done <;>
            exact absurd (halted.symm.trans done) (by simp)
      | error halt =>
          rw [verify_of_expired presigned lasting] at halted
          exact halted
    rw [checked] at outside
    split_ifs at outside with wide beyond inTime
    · cases outside
    · exact ⟨beyond, Nat.not_le.mp wide⟩
    · cases outside
  · rintro ⟨beyond, narrow⟩
    rw [if_neg (Nat.not_le.mpr narrow), if_pos beyond] at checked
    exact verify_of_expired presigned checked

end Presigned

/-- A link to an object, dated at noon of the first of January 2024. -/
def link (lifetime : Nat) : StoreRequest :=
  { requestId := "id"
    authorization :=
      ⟨"client", "20240101", "r", "s3", ["host"], "", none, some lifetime⟩
    date := "20240101T120000Z"
    bucket := "b"
    key := "k"
    headers := ⟨false, [("host", ["gateway"])]⟩
    query := .empty true
    method := "GET"
    rawPath := "/b/k"
    rawQuery := none
    body := [] }

-- A link for ten trillion seconds is in time when it is made, and it has no answer.
example : Clock.InTime ⟨⟨19723, 43200, 0⟩, 900⟩ ⟨19723, 43200, 0⟩ 10000000000000 ∧
    verify .sha256 ⟨⟨19723, 43200, 0⟩, 900⟩ ⟨⟨"client", "shown", none⟩, none, none, none⟩
      (link 10000000000000) = .error .outOfCalendar :=
  ⟨by decide, rfl⟩

theorem readDate_link (lifetime : Nat) :
    Clock.readDate (link lifetime).date = .ok ⟨19723, 43200, 0⟩ := by
  have read : Clock.readDate "20240101T120000Z" = .ok ⟨19723, 43200, 0⟩ := by
    decide +kernel
  exact read

/-- A link for an hour passes the check at the very end of the hour, and a nanosecond later it
is refused as expired. -/
theorem link_for_an_hour :
    (link 3600).authorization.expires = some 3600 ∧
      (∃ parts, coveredParts .sha256 ⟨⟨19723, 46800, 0⟩, 900⟩ (link 3600) = .ok parts) ∧
      verify .sha256 ⟨⟨19723, 46800, 1⟩, 900⟩ ⟨⟨"client", "shown", none⟩, none, none, none⟩
        (link 3600) = .error (.failed .requestExpired) := by
  have exactly (nano : Nat) := (@presigned_lifetime .sha256 ⟨⟨19723, 46800, nano⟩, 900⟩
    ⟨⟨"client", "shown", none⟩, none, none, none⟩ (link 3600) 3600 rfl ⟨19723, 43200, 0⟩
    (readDate_link 3600) (by dsimp only; decide)).2.1 (by decide)
  exact ⟨rfl, (exactly 0).1 (by decide), (exactly 1).2.2.mpr (by decide)⟩

/-- A link with a lifetime of sixty-four bits is in time when it is made, and it is refused as
expired. -/
theorem link_without_end :
    Clock.InTime ⟨⟨19723, 43200, 0⟩, 900⟩ ⟨19723, 43200, 0⟩ (UInt64.size / 2) ∧
      verify .sha256 ⟨⟨19723, 43200, 0⟩, 900⟩ ⟨⟨"client", "shown", none⟩, none, none, none⟩
        (link (UInt64.size / 2)) = .error (.failed .requestExpired) :=
  ⟨by decide, rfl⟩

end Signature
end SignedGateway
