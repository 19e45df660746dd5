import SignedGateway.Proofs.Calendar.Moment
import SignedGateway.Signature.Clock

namespace SignedGateway

/-!
# How far a date may be from the present

Time is counted in nanoseconds, and so are the distances between moments.  The check of a date
compares whole seconds: it cuts the distance before it looks at the limit.  A date is therefore
let through for up to a second beyond the limit.  Dates are of whole seconds themselves, so
nothing is cut where the present is as well, and there the limit holds exactly.
-/

open Calendar

/-! ## Distances -/

namespace Calendar.Moment

/-- The nanoseconds between two moments, whichever comes first. -/
def distance (left right : Moment) : Nat :=
  (left.nanosSince right).natAbs

/-- Apart from leap seconds, distances are those of the counts since the epoch. -/
theorem nanosSince_eq {left right : Moment} (plainLeft : left.nano < nanosPerSecond)
    (plainRight : right.nano < nanosPerSecond) :
    left.nanosSince right = left.unixNanos - right.unixNanos := by
  have noLeap : leapBetween left right = 0 := by
    unfold leapBetween
    rw [if_neg fun leap => Nat.not_le_of_lt plainRight leap.2,
      if_neg fun leap => Nat.not_le_of_lt plainLeft leap.2]
  unfold nanosSince unixNanos unixSeconds nanosPerSecond
  rw [noLeap]
  omega

theorem nano_ofMillis (millis : Int) : (ofMillis millis).nano = (millis % 1000).toNat * 1000000 :=
  rfl

theorem nano_ofMillis_lt (millis : Int) : (ofMillis millis).nano < nanosPerSecond := by
  rw [nano_ofMillis]
  unfold nanosPerSecond
  omega

theorem unixNanos_ofMillis (millis : Int) : (ofMillis millis).unixNanos = millis * 1000000 := by
  unfold unixNanos unixSeconds ofMillis nanosPerSecond
  dsimp only
  omega

/-- Between moments whose fractions are full seconds, so is the distance. -/
theorem distance_of_whole {left right : Moment} (wholeLeft : nanosPerSecond ∣ left.nano)
    (wholeRight : nanosPerSecond ∣ right.nano) : nanosPerSecond ∣ left.distance right := by
  unfold distance nanosSince nanosPerSecond at *
  omega

end Calendar.Moment

/-- A date that is read has no fraction, or a full second of it in a leap second. -/
theorem Calendar.nano_of_parseStamp? {text : String} {moment : Moment}
    (read : parseStamp? text = some moment) : nanosPerSecond ∣ moment.nano := by
  rcases exists_names_of_parseStamp? read with ⟨_, _, _, _, names⟩
  rw [names.fraction]
  split_ifs
  · exact Nat.dvd_refl _
  · exact Nat.dvd_zero _

/-! ## The check -/

namespace Clock

/-- The date is no further from the present than the limit allows, to the nanosecond. -/
def Near (clock : Clock) (date : Moment) : Prop :=
  clock.now.distance date ≤ clock.maxDrift * nanosPerSecond

instance (clock : Clock) (date : Moment) : Decidable (clock.Near date) :=
  inferInstanceAs (Decidable (clock.now.distance date ≤ clock.maxDrift * nanosPerSecond))

theorem drift_eq (clock : Clock) (date : Moment) :
    clock.drift date = clock.now.distance date / nanosPerSecond := by
  unfold drift Moment.secondsSince Moment.distance nanosPerSecond
  rw [Int.natAbs_tdiv]
  rfl

theorem nano_of_readDate {text : String} {date : Moment} (read : readDate text = .ok date) :
    nanosPerSecond ∣ date.nano := by
  unfold readDate at read
  split at read <;> cases read
  exact nano_of_parseStamp? ‹_›

/-- What the check does with a date that is read: the distance is cut to whole seconds, and the
error tells what is left of it. -/
theorem checkDrift_eq {clock : Clock} {text : String} {date : Moment}
    (read : readDate text = .ok date) :
    clock.checkDrift text =
      if clock.now.distance date < (clock.maxDrift + 1) * nanosPerSecond then .ok ()
      else .error (.clockDrift (clock.now.distance date / nanosPerSecond : Nat)
        clock.maxDrift) := by
  have second : 0 < nanosPerSecond := by
    decide
  have limit : clock.maxDrift < clock.drift date ↔
      ¬clock.now.distance date < (clock.maxDrift + 1) * nanosPerSecond := by
    rw [drift_eq, ← Nat.div_lt_iff_lt_mul second]
    omega
  have checked : clock.checkDrift text =
      if clock.maxDrift < clock.drift date
      then .error (.clockDrift (clock.drift date : Int) clock.maxDrift) else .ok () := by
    unfold checkDrift
    rw [read]
    rfl
  rw [checked, ← drift_eq]
  by_cases far : clock.maxDrift < clock.drift date
  · rw [if_pos far, if_neg (limit.mp far)]
  · rw [if_neg far, if_pos (not_not.mp (mt limit.mpr far))]

theorem checkDrift_eq_ok_iff {clock : Clock} {text : String} {date : Moment}
    (read : readDate text = .ok date) :
    clock.checkDrift text = .ok () ↔
      clock.now.distance date < (clock.maxDrift + 1) * nanosPerSecond := by
  rw [checkDrift_eq read]
  split_ifs with near
  · exact ⟨fun _ => near, fun _ => rfl⟩
  · exact ⟨nofun, fun inside => absurd inside near⟩

/-- A date is let through if it is nearer than a second beyond the limit.  So all dates within
the limit are, and the check is exact but for those of the last second: the ones between the
limit and a second more.  There are none where the present is of whole seconds.  For a date in
no leap second, the distance is that of the counts since the epoch. -/
theorem drift_limit {millis : Int} {limit : Nat} {text : String} {date : Moment}
    (read : readDate text = .ok date) :
    let clock : Clock := ⟨.ofMillis millis, limit⟩
    (clock.checkDrift text = .ok () ↔
      clock.now.distance date < (limit + 1) * nanosPerSecond) ∧
    ((clock.checkDrift text = .ok () ↔ clock.Near date) ↔
      ¬(limit * nanosPerSecond < clock.now.distance date ∧
        clock.now.distance date < (limit + 1) * nanosPerSecond)) ∧
    (millis % 1000 = 0 → (clock.checkDrift text = .ok () ↔ clock.Near date)) ∧
    (date.nano < nanosPerSecond →
      clock.now.distance date = (millis * 1000000 - date.unixNanos).natAbs) := by
  intro clock
  have accepted : clock.checkDrift text = .ok () ↔
      clock.now.distance date < (limit + 1) * nanosPerSecond := checkDrift_eq_ok_iff read
  have near : clock.Near date ↔ clock.now.distance date ≤ limit * nanosPerSecond := Iff.rfl
  have exactly : (clock.checkDrift text = .ok () ↔ clock.Near date) ↔
      ¬(limit * nanosPerSecond < clock.now.distance date ∧
        clock.now.distance date < (limit + 1) * nanosPerSecond) := by
    rw [accepted, near]
    unfold nanosPerSecond
    omega
  refine ⟨accepted, exactly, ?_, ?_⟩
  · intro whole
    -- Neither the present nor the date has a fraction, so the last second holds no distance.
    have present : nanosPerSecond ∣ clock.now.nano := by
      rw [Moment.nano_ofMillis, whole]
      exact Nat.dvd_zero _
    have counted := Moment.distance_of_whole present (nano_of_readDate read)
    rw [exactly]
    unfold nanosPerSecond at *
    omega
  · intro plain
    unfold Moment.distance
    rw [Moment.nanosSince_eq (Moment.nano_ofMillis_lt millis) plain, Moment.unixNanos_ofMillis]

/-- A minute after noon, a date of noon is just near enough, and a second later it is refused. -/
theorem drift_limit_of_noon :
    readDate "20240101T120000Z" = .ok ⟨19723, 43200, 0⟩ ∧
      checkDrift ⟨.ofMillis 1704110460000, 60⟩ "20240101T120000Z" = .ok () ∧
      checkDrift ⟨.ofMillis 1704110461000, 60⟩ "20240101T120000Z" ≠ .ok () := by
  have read : readDate "20240101T120000Z" = .ok ⟨19723, 43200, 0⟩ := by
    decide +kernel
  refine ⟨read, (drift_limit read).1.mpr (by decide +kernel), ?_⟩
  exact fun passed => absurd ((drift_limit read).1.mp passed) (by decide +kernel)

/-- Half a second beyond the minute that it may be away, the same date is let through. -/
theorem drift_beyond_limit :
    readDate "20240101T120000Z" = .ok ⟨19723, 43200, 0⟩ ∧
      ¬Near ⟨.ofMillis 1704110460500, 60⟩ ⟨19723, 43200, 0⟩ ∧
      checkDrift ⟨.ofMillis 1704110460500, 60⟩ "20240101T120000Z" = .ok () :=
  ⟨by decide +kernel, by decide +kernel, by decide +kernel⟩

end Clock
end SignedGateway
