import Mathlib.Data.Set.Finite.Lemmas
import SignedGateway.Proofs.Session.Assume
import SignedGateway.Proofs.Session.Interleaving

namespace SignedGateway

/-!
# The stores of a gateway

Callers of a gateway store sessions only for records of its directory.  The stores that they
can leave between any two of their steps are reachable.  Those that whole lookups and whole
requests for roles leave are among them, as long as somebody is there to make the next one.
-/

/-- A session as a gateway makes them: for a record of its directory, under a temporary key. -/
def Session.Minted (records : List CredentialRecord) (session : Session) : Prop :=
  ∃ base asked now, base ∈ records ∧ GrantedBy base asked now session ∧
    Temporary session.record.emulated.accessKey

namespace SessionStore

variable {Caller : Type} [DecidableEq Caller] {records : List CredentialRecord}
  {store : SessionStore}

/-- The store after some steps of some callers, if they stored only what a gateway makes. -/
def Reachable (Caller : Type) [DecidableEq Caller] (records : List CredentialRecord)
    (store : SessionStore) : Prop :=
  ∃ (history : List (Event Caller)) (state : Shared Caller), Shared.Run history state ∧
    (∀ storer session reading, Event.stored storer session reading ∈ history →
      session.Minted records) ∧
    state.store = store

theorem reachable_empty : Reachable Caller records empty :=
  ⟨[], Shared.start, .start, fun _ _ _ none => absurd none List.not_mem_nil, rfl⟩

/-- A session of a reachable store was made by the gateway and stands under its own key. -/
theorem Reachable.of_mem (reachable : Reachable Caller records store) {accessKey : String}
    {session : Session} (stored : (accessKey, session) ∈ store.sessions) :
    session.Minted records ∧ session.record.emulated.accessKey = accessKey := by
  rcases reachable with ⟨history, state, run, minted, rfl⟩
  have consistent := run.consistent
  rcases consistent.stored _ stored with ⟨storer, reading, earlier⟩
  exact ⟨minted storer session reading earlier, (consistent.tidy.keyed _ stored).symm⟩

/-! ## Whole operations -/

/-- Only finitely many callers are in the middle of something. -/
theorem Shared.Run.finite_busy {history : List (Event Caller)} {state : Shared Caller}
    (run : Shared.Run history state) : {caller | state.task caller ≠ none}.Finite := by
  -- A step gives something to do to no one but the caller who takes it.
  have others {before : Shared Caller} (caller : Caller) (task : Option Task) :
      {other | Function.update before.task caller task other ≠ none} ⊆
        Insert.insert caller {other | before.task other ≠ none} := by
    intro other busy
    by_cases same : other = caller
    · exact Set.mem_insert_iff.mpr (Or.inl same)
    · refine Set.mem_insert_iff.mpr (Or.inr ?_)
      rwa [Set.mem_ofPred_eq, Function.update_of_ne same] at busy
  induction run with
  | start => exact Set.finite_empty.subset fun caller busy => absurd rfl busy
  | next _ step finite =>
      cases step with
      | sweep => exact (finite.insert _).subset (others _ _)
      | store => exact (finite.insert _).subset (others _ _)
      | absent => exact finite
      | live => exact finite
      | expired => exact (finite.insert _).subset (others _ _)
      | evict => exact (finite.insert _).subset (others _ _)

theorem Shared.Run.exists_idle [Infinite Caller] {history : List (Event Caller)}
    {state : Shared Caller} (run : Shared.Run history state) :
    ∃ caller, state.task caller = none := by
  rcases run.finite_busy.exists_notMem with ⟨caller, idle⟩
  exact ⟨caller, not_not.mp idle⟩

/-- A whole lookup leads from reachable stores to reachable ones. -/
theorem Reachable.lookup [Infinite Caller] (reachable : Reachable Caller records store)
    (accessKey : String) (token : Option String) (now : Calendar.Moment) :
    Reachable Caller records (store.lookup accessKey token now).2 := by
  rcases reachable with ⟨history, state, run, minted, rfl⟩
  rcases run.exists_idle with ⟨caller, idle⟩
  rcases run.lookup idle accessKey token now with ⟨begun, unstored, later⟩
  refine ⟨_, _, later, ?_, rfl⟩
  intro storer session reading stored
  rcases List.mem_cons.mp stored with returned | earlier
  · cases returned
  · rcases List.mem_append.mp earlier with own | old
    · cases unstored _ own
    · exact minted storer session reading old

/-- To store a session that the gateway has made leads from reachable stores to reachable ones. -/
theorem Reachable.insert [Infinite Caller] (reachable : Reachable Caller records store)
    {session : Session} (made : session.Minted records) (now : Calendar.Moment) :
    Reachable Caller records (store.insert session now) := by
  rcases reachable with ⟨history, state, run, minted, rfl⟩
  rcases run.exists_idle with ⟨caller, idle⟩
  refine ⟨_, _, run.insert idle session now, ?_, rfl⟩
  intro storer other reading stored
  rcases List.mem_cons.mp stored with same | earlier
  · cases same
    exact made
  · rcases List.mem_cons.mp earlier with swept | old
    · cases swept
    · exact minted storer other reading old

end SessionStore

/-! ## What a source does -/

namespace Session

open SessionStore (Reachable)

variable {Outside Caller : Type} [DecidableEq Caller] [Infinite Caller]
  {records : List CredentialRecord} {world : World Outside}

/-- To ask a source for a record leaves reachable sessions. -/
theorem reachable_lookup (reachable : Reachable Caller records world.sessions)
    (accessKey : String) (token : Option String) :
    Reachable Caller records
      (((source (Directory.ofRecords records).lookup).lookup accessKey token).perform
        world).2.sessions := by
  rw [perform_lookup]
  exact reachable.lookup accessKey token world.now

/-- To ask a source for a role leaves reachable sessions, whether it gives one or not. -/
theorem reachable_assumeRole (reachable : Reachable Caller records world.sessions)
    (asked : RoleRequest) :
    Reachable Caller records
      (((source (Directory.ofRecords records).lookup).assumeRole asked).perform
        world).2.sessions := by
  have answers := answers_assume records asked world
  change Reachable Caller records
    ((assume (Directory.ofRecords records).lookup asked).perform world).2.sessions
  rcases asking : (assume (Directory.ofRecords records).lookup asked).perform world with
    ⟨outcome, after⟩
  rw [asking] at answers
  cases answers with
  | halted halt => exact reachable
  | refused => exact reachable
  | begun found granted handed temporary stored =>
      have among := (Directory.mem_of_find? found).1
      rw [← handed] at temporary
      dsimp only
      rw [stored]
      exact reachable.insert ⟨_, asked, world.now, among, granted, temporary⟩ world.now

end Session
end SignedGateway
