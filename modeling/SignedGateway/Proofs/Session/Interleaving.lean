import SignedGateway.Proofs.Session.Store

namespace SignedGateway
namespace SessionStore

/-!
# Many callers of one store

Callers store and look up sessions at the same time.  An operation of two steps may be
overtaken by any number of others between them, and its reading of the clock may be out of
date by then: readings are not ordered, neither among callers nor along a run.  All the same
no session is shown to whom it does not belong, none comes back, and none is lost before its
end, as long as no two sessions get one access key.
-/

/-- What a caller has yet to do. -/
inductive Task where
  | store (session : Session) (now : Calendar.Moment)
  | evict (accessKey : String) (token : Option String) (now : Calendar.Moment)

/-- A store between the steps of its callers. -/
structure Shared (Caller : Type) where
  store : SessionStore
  task : Caller → Option Task

/-- What one step does, as the caller sees it. -/
inductive Event (Caller : Type) where
  | swept (caller : Caller) (session : Session) (now : Calendar.Moment)
  | stored (caller : Caller) (session : Session) (now : Calendar.Moment)
  | foundExpired (caller : Caller) (accessKey : String) (token : Option String)
      (now : Calendar.Moment)
  | returned (caller : Caller) (accessKey : String) (token : Option String)
      (now : Calendar.Moment) (result : Option CredentialRecord)

/-- The reading of the clock that a step uses. -/
def Event.reading {Caller : Type} : Event Caller → Calendar.Moment
  | .swept _ _ now => now
  | .stored _ _ now => now
  | .foundExpired _ _ _ now => now
  | .returned _ _ _ now _ => now

/-- The access key of the session that a step stores. -/
def Event.storedKey? {Caller : Type} : Event Caller → Option String
  | .stored _ session _ => some session.record.emulated.accessKey
  | _ => none

namespace Shared

variable {Caller : Type}

/-- An empty store of which nobody wants anything. -/
def start : Shared Caller :=
  ⟨SessionStore.empty, fun _ => none⟩

variable [DecidableEq Caller]

/-- The next steps: a caller who has nothing to do begins an operation, and another one ends
what it has begun. -/
inductive Step : Shared Caller → Event Caller → Shared Caller → Prop where
  | sweep {state caller session now} (idle : state.task caller = none) :
      Step state (.swept caller session now)
        ⟨state.store.sweep now, Function.update state.task caller (some (.store session now))⟩
  | store {state caller session now} (begun : state.task caller = some (.store session now)) :
      Step state (.stored caller session now)
        ⟨state.store.put session, Function.update state.task caller none⟩
  | absent {state caller accessKey token now} (idle : state.task caller = none)
      (reading : state.store.read accessKey token now = .absent) :
      Step state (.returned caller accessKey token now none) state
  | live {state caller accessKey token now result} (idle : state.task caller = none)
      (reading : state.store.read accessKey token now = .live result) :
      Step state (.returned caller accessKey token now result) state
  | expired {state caller accessKey token now} (idle : state.task caller = none)
      (reading : state.store.read accessKey token now = .expired) :
      Step state (.foundExpired caller accessKey token now)
        ⟨state.store,
          Function.update state.task caller (some (.evict accessKey token now))⟩
  | evict {state caller accessKey token now}
      (begun : state.task caller = some (.evict accessKey token now)) :
      Step state (.returned caller accessKey token now none)
        ⟨state.store.evict accessKey now, Function.update state.task caller none⟩

/-- A run from the empty store.  The latest step stands first. -/
inductive Run : List (Event Caller) → Shared Caller → Prop where
  | start : Run [] start
  | next {history state event state'} (run : Run history state) (step : Step state event state') :
      Run (event :: history) state'

/-! ## Operations that nothing overtakes -/

section Whole

variable {history : List (Event Caller)} {state : Shared Caller} {caller : Caller}

/-- A caller who has begun something and ended it has nothing to do, as before. -/
theorem update_update_idle (idle : state.task caller = none) (task : Task) :
    Function.update (Function.update state.task caller (some task)) caller none = state.task := by
  rw [Function.update_idem, ← idle, Function.update_eq_self]

/-- The two steps of storing a session, one after the other, store it as a whole. -/
theorem Run.insert (run : Run history state) (idle : state.task caller = none) (session : Session)
    (now : Calendar.Moment) :
    Run (.stored caller session now :: .swept caller session now :: history)
      ⟨state.store.insert session now, state.task⟩ := by
  have begun : Run (.swept caller session now :: history) _ := run.next (.sweep idle)
  have stored := begun.next (.store (Function.update_self caller _ state.task))
  dsimp only at stored
  rwa [update_update_idle idle] at stored

/-- A lookup that nothing overtakes returns and leaves what it does as a whole. -/
theorem Run.lookup (run : Run history state) (idle : state.task caller = none)
    (accessKey : String) (token : Option String) (now : Calendar.Moment) :
    ∃ begun, (∀ event ∈ begun, event.storedKey? = none) ∧ Run
      (.returned caller accessKey token now (state.store.lookup accessKey token now).1 ::
        (begun ++ history))
      ⟨(state.store.lookup accessKey token now).2, state.task⟩ := by
  have nothing (event : Event Caller) (none : event ∈ []) : event.storedKey? = Option.none :=
    absurd none List.not_mem_nil
  rw [SessionStore.lookup]
  cases reading : state.store.read accessKey token now with
  | absent => exact ⟨[], nothing, run.next (.absent idle reading)⟩
  | live result => exact ⟨[], nothing, run.next (.live idle reading)⟩
  | expired =>
      have begun := run.next (.expired idle reading)
      have evicted := begun.next (.evict (Function.update_self caller _ state.task))
      dsimp only at evicted
      rw [update_update_idle idle] at evicted
      refine ⟨[.foundExpired caller accessKey token now], fun event member => ?_, evicted⟩
      rw [List.mem_singleton.mp member]
      rfl

end Whole

/-! ## What a step leaves -/

section Steps

variable {history : List (Event Caller)} {state next : Shared Caller} {event : Event Caller}

theorem Step.tidy (step : Step state event next) (tidy : state.store.Tidy) : next.store.Tidy := by
  cases step with
  | sweep => exact tidy.sweep _
  | store => exact tidy.put _
  | absent => exact tidy
  | live => exact tidy
  | expired => exact tidy
  | evict => exact tidy.evict _ _

/-- A session that is live at the reading of a step outlasts it, unless the step puts another
in its place. -/
theorem Step.kept (step : Step state event next) {entry : String × Session}
    (stored : entry ∈ state.store.sessions) (live : entry.2.isLive event.reading = true)
    (other : event.storedKey? ≠ some entry.1) : entry ∈ next.store.sessions := by
  cases step with
  | sweep => exact mem_sweep.mpr ⟨stored, live⟩
  | store => exact mem_put.mpr (Or.inr ⟨stored, fun same => other (congrArg some same.symm)⟩)
  | absent => exact stored
  | live => exact stored
  | expired => exact stored
  | evict => exact mem_evict.mpr ⟨stored, Or.inr live⟩

/-- Only by being stored does a session get into the store. -/
theorem Step.mem_or_stored (step : Step state event next) {entry : String × Session}
    (found : entry ∈ next.store.sessions) :
    entry ∈ state.store.sessions ∨ ∃ caller now, event = .stored caller entry.2 now := by
  cases step with
  | sweep => exact Or.inl (mem_sweep.mp found).1
  | store =>
      rcases mem_put.mp found with rfl | ⟨old, _⟩
      · exact Or.inr ⟨_, _, rfl⟩
      · exact Or.inl old
  | absent => exact Or.inl found
  | live => exact Or.inl found
  | expired => exact Or.inl found
  | evict => exact Or.inl (mem_evict.mp found).1

/-- Only a lookup that has found an expired session has one to evict. -/
theorem Step.evict_or_expired (step : Step state event next) {caller : Caller}
    {accessKey : String} {token : Option String} {now : Calendar.Moment}
    (begun : next.task caller = some (.evict accessKey token now)) :
    state.task caller = some (.evict accessKey token now) ∨
      state.store.read accessKey token now = .expired := by
  have others {actor : Caller} {task : Option Task}
      (updated : Function.update state.task actor task caller = some (.evict accessKey token now)) :
      state.task caller = some (.evict accessKey token now) ∨
        task = some (.evict accessKey token now) := by
    rw [Function.update_apply] at updated
    split_ifs at updated with same
    · exact Or.inr updated
    · exact Or.inl updated
  cases step with
  | sweep => exact (others begun).imp_right fun other => by cases other
  | store => exact (others begun).imp_right fun other => by cases other
  | absent => exact Or.inl begun
  | live => exact Or.inl begun
  | expired _ reading =>
      rcases others begun with old | fresh
      · exact Or.inl old
      · cases fresh
        exact Or.inr reading
  | evict => exact (others begun).imp_right fun other => by cases other

/-! ## What holds along a run -/

/-- Whatever the store or a caller has got, it has got from a session that was stored. -/
structure Consistent (history : List (Event Caller)) (state : Shared Caller) : Prop where
  tidy : state.store.Tidy
  stored : ∀ entry ∈ state.store.sessions, ∃ storer reading,
    Event.stored storer entry.2 reading ∈ history
  evicting : ∀ caller accessKey token now,
    state.task caller = some (.evict accessKey token now) →
      ∃ storer session reading, Event.stored storer session reading ∈ history ∧
        session.record.emulated.accessKey = accessKey ∧ session.isLive now = false

theorem Consistent.step (consistent : Consistent history state) (step : Step state event next) :
    Consistent (event :: history) next := by
  refine ⟨step.tidy consistent.tidy, ?_, ?_⟩
  · intro entry found
    rcases step.mem_or_stored found with old | ⟨storer, reading, rfl⟩
    · rcases consistent.stored entry old with ⟨storer, reading, earlier⟩
      exact ⟨storer, reading, List.mem_cons_of_mem event earlier⟩
    · exact ⟨storer, reading, List.mem_cons_self⟩
  · intro caller accessKey token now begun
    rcases step.evict_or_expired begun with old | reading
    · rcases consistent.evicting caller accessKey token now old with
        ⟨storer, session, reading, earlier, key, ended⟩
      exact ⟨storer, session, reading, List.mem_cons_of_mem event earlier, key, ended⟩
    · rcases exists_of_read_expired reading with ⟨session, found, ended⟩
      rcases consistent.stored _ found with ⟨storer, reading, earlier⟩
      exact ⟨storer, session, reading, List.mem_cons_of_mem event earlier,
        (consistent.tidy.keyed _ found).symm, ended⟩

theorem Run.consistent (run : Run history state) : Consistent history state := by
  induction run with
  | start =>
      refine ⟨tidy_empty, fun _ member => absurd member List.not_mem_nil, ?_⟩
      intro caller accessKey token now begun
      cases begun
  | next _ step inductionHypothesis => exact inductionHypothesis.step step

omit [DecidableEq Caller] in
/-- The keys of the stored sessions are distinct if the latest is new among distinct ones. -/
theorem nodup_storedKeys_cons :
    ((event :: history).filterMap Event.storedKey?).Nodup ↔
      (∀ earlier ∈ history, ∀ key, event.storedKey? = some key →
        earlier.storedKey? ≠ some key) ∧ (history.filterMap Event.storedKey?).Nodup := by
  rw [List.filterMap_cons]
  cases event.storedKey? with
  | none => simp
  | some key => simp [List.nodup_cons]

omit [DecidableEq Caller] in
/-- Under one access key one session is stored, if no key is given out twice. -/
theorem eq_of_stored (distinct : (history.filterMap Event.storedKey?).Nodup)
    {first second : Session} {firstStorer secondStorer : Caller}
    {firstReading secondReading : Calendar.Moment}
    (firstStored : Event.stored firstStorer first firstReading ∈ history)
    (secondStored : Event.stored secondStorer second secondReading ∈ history)
    (same : first.record.emulated.accessKey = second.record.emulated.accessKey) :
    first = second := by
  induction history with
  | nil => cases firstStored
  | cons latest earlier inductionHypothesis =>
      rcases nodup_storedKeys_cons.mp distinct with ⟨new, distinctEarlier⟩
      rcases List.mem_cons.mp firstStored with rfl | firstEarlier
      · rcases List.mem_cons.mp secondStored with equal | secondEarlier
        · cases equal
          rfl
        · exact absurd (congrArg some same.symm) (new _ secondEarlier _ rfl)
      · rcases List.mem_cons.mp secondStored with rfl | secondEarlier
        · exact absurd (congrArg some same) (new _ firstEarlier _ rfl)
        · exact inductionHypothesis distinctEarlier firstEarlier secondEarlier

/-- A session that is stored stays in the store while no later step reads a clock that is past
its end. -/
theorem Run.kept (run : Run history state)
    (distinct : (history.filterMap Event.storedKey?).Nodup)
    {since old : List (Event Caller)} {storer : Caller} {session : Session}
    {reading : Calendar.Moment} (split : history = since ++ .stored storer session reading :: old)
    (live : ∀ later ∈ since, session.isLive later.reading = true) :
    (session.record.emulated.accessKey, session) ∈ state.store.sessions := by
  induction run generalizing since with
  | start => cases since <;> cases split
  | @next history state event next run step inductionHypothesis =>
      cases since with
      | nil =>
          cases split
          cases step
          exact mem_put.mpr (Or.inl rfl)
      | cons latest since =>
          cases split
          rcases nodup_storedKeys_cons.mp distinct with ⟨new, earlier⟩
          have storedBefore : Event.stored storer session reading ∈
              since ++ .stored storer session reading :: old :=
            List.mem_append_right since List.mem_cons_self
          have other : event.storedKey? ≠ some session.record.emulated.accessKey :=
            fun same => new _ storedBefore _ same rfl
          have found := inductionHypothesis earlier rfl fun later member =>
            live later (List.mem_cons_of_mem event member)
          exact step.kept found (live event List.mem_cons_self) other

end Steps

/-! ## What callers may rely on -/

section Safety

variable {history : List (Event Caller)} {state : Shared Caller}

/-- At this reading, whoever looks a session up with its token is given its record: at once if
the lookup begins now, and never otherwise if it ends now. -/
structure Answered (state : Shared Caller) (session : Session) (now : Calendar.Moment) : Prop where
  begins : ∀ caller, state.task caller = none →
    Step state (.returned caller session.record.emulated.accessKey
      session.record.emulated.session now (some session.record)) state
  ends : ∀ caller result next,
    Step state (.returned caller session.record.emulated.accessKey
      session.record.emulated.session now result) next → result = some session.record
  unexpired : ∀ caller next,
    ¬ Step state (.foundExpired caller session.record.emulated.accessKey
      session.record.emulated.session now) next

/-- What the steps that are next can do after a history.  Lookups return only what was stored
for them and has not ended.  A session whose end no later step has read is still shown.  No
step takes away a session that is live at its own reading, except to put another in its place.
After its end and to others than its holder a session is not shown. -/
structure Safe (history : List (Event Caller)) (state : Shared Caller) : Prop where
  owned : ∀ caller accessKey token now record next,
    Step state (.returned caller accessKey token now (some record)) next →
      ∃ storer session reading, Event.stored storer session reading ∈ history ∧
        session.record = record ∧ record.emulated.accessKey = accessKey ∧
        record.emulated.session = token ∧ session.isLive now = true
  shown : ∀ since old storer session reading,
    history = since ++ .stored storer session reading :: old →
      (∀ later ∈ since, session.isLive later.reading = true) →
        ∀ now, session.isLive now = true → Answered state session now
  kept : ∀ event next entry, Step state event next → entry ∈ state.store.sessions →
    entry.2.isLive event.reading = true → event.storedKey? ≠ some entry.1 →
      entry ∈ next.store.sessions
  refused : ∀ storer session reading, Event.stored storer session reading ∈ history →
    ∀ caller token now result next,
      Step state (.returned caller session.record.emulated.accessKey token now result) next →
        session.isLive now = false ∨ session.record.emulated.session ≠ token → result = none

/-- A lookup returns what it has read in this step, or nothing if it has evicted. -/
theorem Step.read_or_evict {next : Shared Caller} {caller : Caller} {accessKey : String}
    {token : Option String} {now : Calendar.Moment} {result : Option CredentialRecord}
    (step : Step state (.returned caller accessKey token now result) next) :
    (state.store.read accessKey token now = .absent ∧ result = none) ∨
      state.store.read accessKey token now = .live result ∨
      (state.task caller = some (.evict accessKey token now) ∧ result = none) := by
  cases step with
  | absent _ reading => exact Or.inl ⟨reading, rfl⟩
  | live _ reading => exact Or.inr (Or.inl reading)
  | evict begun => exact Or.inr (Or.inr ⟨begun, rfl⟩)

theorem Consistent.owned (consistent : Consistent history state) {next : Shared Caller}
    {caller : Caller} {accessKey : String} {token : Option String} {now : Calendar.Moment}
    {record : CredentialRecord}
    (step : Step state (.returned caller accessKey token now (some record)) next) :
    ∃ storer session reading, Event.stored storer session reading ∈ history ∧
      session.record = record ∧ record.emulated.accessKey = accessKey ∧
      record.emulated.session = token ∧ session.isLive now = true := by
  have shown : state.store.read accessKey token now = .live (some record) := by
    rcases step.read_or_evict with ⟨_, nothing⟩ | reading | ⟨_, nothing⟩
    · cases nothing
    · exact reading
    · cases nothing
  rcases exists_of_read_live shown with ⟨session, found, rfl, held, live⟩
  rcases consistent.stored _ found with ⟨storer, reading, earlier⟩
  exact ⟨storer, session, reading, earlier, rfl, (consistent.tidy.keyed _ found).symm, held, live⟩

theorem Consistent.answered (consistent : Consistent history state)
    (distinct : (history.filterMap Event.storedKey?).Nodup) {storer : Caller} {session : Session}
    {reading now : Calendar.Moment} (stored : Event.stored storer session reading ∈ history)
    (found : (session.record.emulated.accessKey, session) ∈ state.store.sessions)
    (live : session.isLive now = true) : Answered state session now := by
  have read : state.store.read session.record.emulated.accessKey session.record.emulated.session
      now = .live (some session.record) := by
    rw [read_of_mem consistent.tidy found, if_pos live, if_pos rfl]
  refine ⟨fun caller idle => .live idle read, ?_, ?_⟩
  · intro caller result next step
    rcases step.read_or_evict with ⟨absent, _⟩ | shown | ⟨begun, _⟩
    · rw [read] at absent
      cases absent
    · rw [read] at shown
      cases shown
      rfl
    · -- The lookup that evicts has found this session expired at the same reading.
      rcases consistent.evicting _ _ _ _ begun with ⟨_, other, _, otherStored, key, ended⟩
      rw [eq_of_stored distinct otherStored stored key, live] at ended
      cases ended
  · intro caller next step
    cases step with
    | expired _ expired =>
        rw [read] at expired
        cases expired

/-- Sessions with distinct keys are safe however the steps of their callers alternate and
whatever clocks they read. -/
theorem Run.safe (run : Run history state)
    (distinct : (history.filterMap Event.storedKey?).Nodup) : Safe history state := by
  have consistent := run.consistent
  refine ⟨fun _ _ _ _ _ _ step => consistent.owned step, ?_,
    fun _ _ _ step found live other => step.kept found live other, ?_⟩
  · intro since old storer session reading split live now unexpired
    have stored : Event.stored storer session reading ∈ history :=
      split ▸ List.mem_append_right since List.mem_cons_self
    exact consistent.answered distinct stored (run.kept distinct split live) unexpired
  · intro storer session reading stored caller token now result next step other
    cases result with
    | none => rfl
    | some record =>
        rcases consistent.owned step with ⟨_, owner, _, ownerStored, rfl, key, held, live⟩
        rw [eq_of_stored distinct ownerStored stored key] at held live
        rcases other with ended | foreign
        · rw [ended] at live
          cases live
        · exact absurd held foreign

end Safety

/-! ## A run with readings out of order -/

def early : Session :=
  ⟨⟨⟨"ASIA1", "first", some "one"⟩, none, none, none⟩, ⟨0, 1000, 0⟩⟩

def late : Session :=
  ⟨⟨⟨"ASIA2", "second", some "two"⟩, none, none, none⟩, ⟨0, 3000, 0⟩⟩

/-- A lookup with a clock that is ahead finds a session expired.  Before it removes the session,
another caller sweeps and stores with a clock that is behind. -/
def overtaken : List (Event Bool) :=
  [.returned true "ASIA1" (some "one") ⟨0, 2000, 0⟩ none, .stored false late ⟨0, 500, 0⟩,
   .swept false late ⟨0, 500, 0⟩, .foundExpired true "ASIA1" (some "one") ⟨0, 2000, 0⟩,
   .stored false early ⟨0, 0, 0⟩, .swept false early ⟨0, 0, 0⟩]

/-- The later session is still given to its holder, up to its end. -/
theorem overtaken_safe :
    ∃ state, Run overtaken state ∧ (overtaken.filterMap Event.storedKey?).Nodup ∧
      Safe overtaken state ∧ state.store.size = 1 ∧
      Step state (.returned true "ASIA2" (some "two") ⟨0, 2999, 0⟩ (some late.record)) state := by
  have begun : Run [.swept false early ⟨0, 0, 0⟩] _ := Run.start.next (.sweep rfl)
  have first : Run (.stored false early ⟨0, 0, 0⟩ :: _) _ := begun.next (.store rfl)
  have ahead : Run (.foundExpired true "ASIA1" (some "one") ⟨0, 2000, 0⟩ :: _) _ :=
    first.next (.expired rfl rfl)
  have behind : Run (.swept false late ⟨0, 500, 0⟩ :: _) _ := ahead.next (.sweep rfl)
  have second : Run (.stored false late ⟨0, 500, 0⟩ :: _) _ := behind.next (.store rfl)
  have run : Run overtaken _ := second.next (.evict rfl)
  have distinct : (overtaken.filterMap Event.storedKey?).Nodup := by
    decide
  have safe := run.safe distinct
  have unpassed : ∀ later ∈ overtaken.take 1, late.isLive later.reading = true := by
    intro later member
    rw [List.mem_singleton.mp member]
    decide
  have answered := safe.shown (overtaken.take 1) (overtaken.drop 2) false late ⟨0, 500, 0⟩ rfl
    unpassed ⟨0, 2999, 0⟩ (by decide)
  exact ⟨_, run, distinct, safe, rfl, answered.begins true rfl⟩

end Shared
end SessionStore
end SignedGateway
