import Mathlib.Tactic.SplitIfs
import SignedGateway.Proofs.Credential.LookupUrl
import SignedGateway.Proofs.Gateway.Attempt

namespace SignedGateway

/-!
# Answers of the credentials service that are kept

A service that keeps answers is compared with one that asks each time.  What it should answer is
said by a log of the fetches alone: a lookup is answered by the first fetch of just that access
key and token that did not fail, and asks if there is none.  The cache never appears in that
account.  Between two lookups anything else may happen that leaves the cache alone.
-/

variable {Outside : Type}

/-- An action neither reads the kept answers nor changes them. -/
def Act.SparesCache {α : Type} (action : Act Outside α) : Prop :=
  ∀ (world : World Outside) (cache : LookupCache),
    action.run { world with cache := cache } =
      ((action.run world).1, { (action.run world).2 with cache := cache })

/-- An access key, with a token if there is one.  An empty token is a token. -/
abbrev AskedKey : Type :=
  String × Option String

/-- What a lookup ends with. -/
abbrev LookupOutcome : Type :=
  Except (Halt GatewayError) (Option CredentialRecord)

/-- Whether an access key is looked up or something else happens. -/
inductive Happening (Outside : Type) where
  | asked (key : AskedKey)
  | passed (action : Act Outside Unit)

/-- Nothing but lookups touches the cache. -/
def Happening.SparesCache : Happening Outside → Prop
  | .asked _ => True
  | .passed action => action.SparesCache

namespace RecordLookup

/-- What lookups end with one after the other, and the world afterwards. -/
def inTurn (lookup : RecordLookup Outside) :
    List (Happening Outside) → World Outside → List LookupOutcome × World Outside
  | [], world => ([], world)
  | .asked key :: later, world =>
      let first := (lookup key.1 key.2).perform world
      let rest := inTurn lookup later first.2
      (first.1 :: rest.1, rest.2)
  | .passed action :: later, world => inTurn lookup later (action.run world).2

/-! ## What should be answered -/

/-- The answer of the first fetch of a key that did not fail. -/
def remembered (fetches : List (AskedKey × LookupOutcome)) (key : AskedKey) :
    Option (Option CredentialRecord) :=
  fetches.findSome? fun fetch => if fetch.1 = key then fetch.2.toOption else none

/-- A world, with all fetches up to now in the order in which they were made. -/
structure Recollection (Outside : Type) where
  world : World Outside
  fetches : List (AskedKey × LookupOutcome)

/-- Answer what is remembered without touching the world; ask otherwise. -/
def recollect (lookup : RecordLookup Outside) (key : AskedKey) (before : Recollection Outside) :
    LookupOutcome × Recollection Outside :=
  match remembered before.fetches key with
  | some answer => (.ok answer, before)
  | none =>
      let asked := (lookup key.1 key.2).perform before.world
      (asked.1, ⟨asked.2, before.fetches ++ [(key, asked.1)]⟩)

theorem recollect_of_remembered {lookup : RecordLookup Outside} {key : AskedKey}
    {before : Recollection Outside} {answer : Option CredentialRecord}
    (known : remembered before.fetches key = some answer) :
    recollect lookup key before = (.ok answer, before) := by
  rw [recollect, known]

theorem recollect_of_unknown {lookup : RecordLookup Outside} {key : AskedKey}
    {before : Recollection Outside} (unknown : remembered before.fetches key = none) :
    recollect lookup key before =
      let asked := (lookup key.1 key.2).perform before.world
      (asked.1, ⟨asked.2, before.fetches ++ [(key, asked.1)]⟩) := by
  rw [recollect, unknown]

/-- What lookups should end with one after the other. -/
def recollectInTurn (lookup : RecordLookup Outside) :
    List (Happening Outside) → Recollection Outside → List LookupOutcome × Recollection Outside
  | [], before => ([], before)
  | .asked key :: later, before =>
      let first := recollect lookup key before
      let rest := recollectInTurn lookup later first.2
      (first.1 :: rest.1, rest.2)
  | .passed action :: later, before =>
      recollectInTurn lookup later { before with world := (action.run before.world).2 }

/-- An answer that is remembered was fetched for that very key, and all earlier fetches of the
key failed. -/
theorem remembered_eq_some_iff {fetches : List (AskedKey × LookupOutcome)} {key : AskedKey}
    {answer : Option CredentialRecord} :
    remembered fetches key = some answer ↔
      ∃ earlier later, fetches = earlier ++ (key, .ok answer) :: later ∧
        ∀ fetch ∈ earlier, fetch.1 = key → ∃ halt, fetch.2 = .error halt := by
  rw [remembered, List.findSome?_eq_some_iff]
  constructor
  · rintro ⟨earlier, ⟨fetched, outcome⟩, later, split, found, none⟩
    dsimp only at found
    split_ifs at found with same
    cases outcome with
    | error halt => cases found
    | ok fetched =>
        cases found
        subst same
        refine ⟨earlier, later, split, fun fetch member same => ?_⟩
        have failed := none fetch member
        rw [if_pos same] at failed
        rcases fetch with ⟨_, halt | _⟩
        · exact ⟨halt, rfl⟩
        · cases failed
  · rintro ⟨earlier, later, split, failed⟩
    refine ⟨earlier, (key, .ok answer), later, split, if_pos rfl, fun fetch member => ?_⟩
    split_ifs with same
    · rcases failed fetch member same with ⟨halt, ended⟩
      rw [ended]
      rfl
    · rfl

/-- A fetch that is made when nothing is remembered counts from then on, for its own key and
unless it fails. -/
theorem remembered_concat {fetches : List (AskedKey × LookupOutcome)} {key : AskedKey}
    (unknown : remembered fetches key = none) (outcome : LookupOutcome) (other : AskedKey) :
    remembered (fetches ++ [(key, outcome)]) other =
      if key = other then outcome.toOption else remembered fetches other := by
  rw [remembered, List.findSome?_append, ← remembered, List.findSome?_singleton]
  split_ifs with same
  · rw [← same, unknown, Option.none_or]
  · rw [Option.or_none]

end RecordLookup

namespace CredentialService

open RecordLookup

/-- The service, asked each time. -/
def plain (service : CredentialService) : CredentialService :=
  { service with keepsAnswers := false }

/-- The service, with its answers kept. -/
def cached (service : CredentialService) : CredentialService :=
  { service with keepsAnswers := true }

/-- What a cache holds after a lookup that was not answered from it. -/
def keep (key : AskedKey) (outcome : LookupOutcome) (cache : LookupCache) : LookupCache :=
  match outcome with
  | .ok answer => (key, answer) :: cache
  | .error _ => cache

theorem lookup_keep (key : AskedKey) (outcome : LookupOutcome) (cache : LookupCache)
    (unknown : cache.lookup key = none) (other : AskedKey) :
    (keep key outcome cache).lookup other =
      if key = other then outcome.toOption else cache.lookup other := by
  cases outcome with
  | error halt =>
      rw [keep]
      split_ifs with same
      · rw [← same, unknown]
        rfl
      · rfl
  | ok answer =>
      rw [keep, List.lookup_cons]
      split_ifs with same
      · rw [beq_iff_eq.mpr same.symm]
        rfl
      · rw [beq_eq_false_iff_ne.mpr (Ne.symm same)]

variable {transport : Http.Transport Outside}

theorem sparesCache_send (spares : ∀ sent, (transport sent).SparesCache) (method url : String)
    (headers : List (String × List UInt8)) (body : List UInt8) :
    (transport.send method url headers body).SparesCache := by
  unfold Http.Transport.send
  split
  · exact spares _
  · exact fun _ _ => rfl

theorem perform_fetch (service : CredentialService) (key : AskedKey) (world : World Outside) :
    (service.fetch transport key.1 key.2).perform world =
      let exchange :=
        (transport.send "GET" (service.lookupUrl key.1 key.2) service.headers []).run world
      ((interpret exchange.1).mapError .failed, exchange.2) := by
  rw [fetch, Attempt.perform_bind_of_ok (Attempt.perform_act _ _), Attempt.perform_ofExcept]

theorem lookup_plain (service : CredentialService) :
    service.plain.lookup transport = service.fetch transport := rfl

theorem lookup_cached (service : CredentialService) :
    service.cached.lookup transport = service.fetchOnce transport := rfl

/-- A service that is asked each time neither reads the cache nor changes it. -/
theorem perform_plain_with_cache (spares : ∀ sent, (transport sent).SparesCache)
    (service : CredentialService) (key : AskedKey) (world : World Outside) (cache : LookupCache) :
    (service.plain.lookup transport key.1 key.2).perform { world with cache := cache } =
      let asked := (service.plain.lookup transport key.1 key.2).perform world
      (asked.1, { asked.2 with cache := cache }) := by
  rw [lookup_plain, perform_fetch, perform_fetch, sparesCache_send spares]

/-- A kept answer is given in the world as it is. -/
theorem perform_cached_of_kept {service : CredentialService} {key : AskedKey}
    {world : World Outside} {answer : Option CredentialRecord}
    (kept : world.cache.lookup key = some answer) :
    (service.cached.lookup transport key.1 key.2).perform world = (.ok answer, world) := by
  have present : (get : Attempt Outside (World Outside)).perform world = (.ok world, world) := rfl
  rw [lookup_cached, fetchOnce, Attempt.perform_bind_of_ok present, kept]
  rfl

/-- An answer that is not kept is fetched, and kept unless it is a failure. -/
theorem perform_cached_of_unknown (spares : ∀ sent, (transport sent).SparesCache)
    {service : CredentialService} {key : AskedKey} {world : World Outside}
    (unknown : world.cache.lookup key = none) :
    (service.cached.lookup transport key.1 key.2).perform world =
      let asked := (service.plain.lookup transport key.1 key.2).perform world
      (asked.1, { asked.2 with cache := keep key asked.1 world.cache }) := by
  have present : (get : Attempt Outside (World Outside)).perform world = (.ok world, world) := rfl
  have spared := perform_plain_with_cache spares service key world world.cache
  rw [lookup_cached, fetchOnce, Attempt.perform_bind_of_ok present, unknown]
  rw [lookup_plain] at spared ⊢
  dsimp only
  rcases fetched : (service.fetch transport key.1 key.2).perform world with ⟨outcome, after⟩
  rw [fetched] at spared
  have untouched : after.cache = world.cache := congrArg (fun ended => ended.2.cache) spared
  cases outcome with
  | error halt =>
      rw [Attempt.perform_bind_of_error fetched, keep, ← untouched]
  | ok answer =>
      rw [Attempt.perform_bind_of_ok fetched, keep, ← untouched]
      rfl

/-! ## One lookup, and a run of lookups -/

/-- A world is as it should be: like the one of the recollection, except that its cache has what
is remembered. -/
structure Recalls (world : World Outside) (recollection : Recollection Outside) : Prop where
  agrees : world = { recollection.world with cache := world.cache }
  keeps : ∀ key, world.cache.lookup key = remembered recollection.fetches key

/-- A lookup of a service that keeps answers ends as one that recalls, and a world that is as it
should be stays so. -/
theorem Recalls.lookup (spares : ∀ sent, (transport sent).SparesCache)
    (service : CredentialService) {world : World Outside} {recollection : Recollection Outside}
    (recalls : Recalls world recollection) (key : AskedKey) :
    let done := (service.cached.lookup transport key.1 key.2).perform world
    let due := recollect (service.plain.lookup transport) key recollection
    done.1 = due.1 ∧ Recalls done.2 due.2 := by
  have keeps := recalls.keeps key
  cases known : remembered recollection.fetches key with
  | some answer =>
      rw [perform_cached_of_kept (keeps.trans known), recollect_of_remembered known]
      exact ⟨rfl, recalls⟩
  | none =>
      have unknown := keeps.trans known
      have spared := perform_plain_with_cache spares service key recollection.world world.cache
      rw [← recalls.agrees] at spared
      rw [perform_cached_of_unknown spares unknown, recollect_of_unknown known, spared]
      rcases (service.plain.lookup transport key.1 key.2).perform recollection.world with
        ⟨outcome, after⟩
      refine ⟨rfl, rfl, fun other => ?_⟩
      dsimp only
      rw [lookup_keep key _ _ unknown, remembered_concat known, recalls.keeps other]

/-- What happens besides leaves a world as it should be. -/
theorem Recalls.pass {world : World Outside} {recollection : Recollection Outside}
    (recalls : Recalls world recollection) {action : Act Outside Unit}
    (spares : action.SparesCache) :
    Recalls (action.run world).2
      { recollection with world := (action.run recollection.world).2 } := by
  have passed := congrArg Prod.snd (spares recollection.world world.cache)
  rw [← recalls.agrees] at passed
  dsimp only at passed
  refine ⟨?_, fun key => ?_⟩
  · rw [passed]
  · rw [passed]
    exact recalls.keeps key

/-- A run of lookups ends as one that recalls. -/
theorem Recalls.inTurn (spares : ∀ sent, (transport sent).SparesCache)
    (service : CredentialService) {happenings : List (Happening Outside)}
    (others : ∀ happening ∈ happenings, happening.SparesCache) {world : World Outside}
    {recollection : Recollection Outside} (recalls : Recalls world recollection) :
    let done := RecordLookup.inTurn (service.cached.lookup transport) happenings world
    let due := recollectInTurn (service.plain.lookup transport) happenings recollection
    done.1 = due.1 ∧ Recalls done.2 due.2 := by
  induction happenings generalizing world recollection with
  | nil => exact ⟨rfl, recalls⟩
  | cons happening later inductionHypothesis =>
      have othersLater := fun happening member => others happening (List.mem_cons_of_mem _ member)
      cases happening with
      | asked key =>
          rcases Recalls.lookup spares service recalls key with ⟨first, recallsNext⟩
          rcases inductionHypothesis othersLater recallsNext with ⟨rest, recallsLast⟩
          exact ⟨List.cons_eq_cons.mpr ⟨first, rest⟩, recallsLast⟩
      | passed action =>
          exact inductionHypothesis othersLater
            (recalls.pass (others (.passed action) List.mem_cons_self))

/-- A lookup of one key does not touch what is kept for another. -/
theorem lookup_cache_of_ne (spares : ∀ sent, (transport sent).SparesCache)
    (service : CredentialService) (world : World Outside) {key other : AskedKey}
    (different : key ≠ other) :
    ((service.cached.lookup transport key.1 key.2).perform world).2.cache.lookup other =
      world.cache.lookup other := by
  cases kept : world.cache.lookup key with
  | some answer => rw [perform_cached_of_kept kept]
  | none =>
      rw [perform_cached_of_unknown spares kept]
      dsimp only
      rw [lookup_keep key _ _ kept, if_neg different]

/-- From an empty cache, a service that keeps answers answers any run of lookups as is due: with
what is remembered of the fetches for that key, or else as the service that is asked each time.
After the run, the world differs from the one that is due in nothing but the cache, which has just
the answers that are remembered.  Whichever key is looked up next, an answer that is remembered is
that of the first fetch for the key that did not fail, and is given in the world as it is; if none
is remembered, the lookup ends as that of the service that is asked each time in that same world,
and its answer is kept unless it is a failure.  What is kept for other keys stays. -/
theorem cached_recalls (service : CredentialService) (transport : Http.Transport Outside)
    (spares : ∀ sent, (transport sent).SparesCache) (happenings : List (Happening Outside))
    (others : ∀ happening ∈ happenings, happening.SparesCache) (world : World Outside)
    (fresh : world.cache = []) :
    let done := RecordLookup.inTurn (service.cached.lookup transport) happenings world
    let due := recollectInTurn (service.plain.lookup transport) happenings ⟨world, []⟩
    done.1 = due.1 ∧ done.2 = { due.2.world with cache := done.2.cache } ∧
      (∀ key, done.2.cache.lookup key = remembered due.2.fetches key) ∧
      ∀ key : AskedKey,
        (∀ answer, remembered due.2.fetches key = some answer →
          (∃ earlier later, due.2.fetches = earlier ++ (key, .ok answer) :: later ∧
            ∀ fetch ∈ earlier, fetch.1 = key → ∃ halt, fetch.2 = .error halt) ∧
          (service.cached.lookup transport key.1 key.2).perform done.2 = (.ok answer, done.2)) ∧
        (remembered due.2.fetches key = none →
          let asked := (service.plain.lookup transport key.1 key.2).perform done.2
          (service.cached.lookup transport key.1 key.2).perform done.2 =
            (asked.1, { asked.2 with cache := keep key asked.1 done.2.cache })) ∧
        ∀ other : AskedKey, key ≠ other →
          ((service.cached.lookup transport key.1 key.2).perform done.2).2.cache.lookup other =
            done.2.cache.lookup other := by
  intro done due
  have start : Recalls world ⟨world, []⟩ := ⟨rfl, fun key => by rw [fresh]; rfl⟩
  rcases Recalls.inTurn spares service others start with ⟨answers, recalls⟩
  refine ⟨answers, recalls.agrees, recalls.keeps, fun key => ⟨fun answer known => ?_,
    fun unknown => ?_, fun other different => lookup_cache_of_ne spares service _ different⟩⟩
  · exact ⟨remembered_eq_some_iff.mp known,
      perform_cached_of_kept ((recalls.keeps key).trans known)⟩
  · exact perform_cached_of_unknown spares ((recalls.keeps key).trans unknown)

/-- A client that counts its requests; the first one fails, the second finds nothing and all others
fail. -/
def unsteady : Http.Transport Nat := fun _ =>
  modifyGet fun world =>
    (.answered ⟨if world.outside = 1 then 404 else 503, [], []⟩ true,
      { world with outside := world.outside + 1 })

theorem perform_unsteady (accessKey : String) (token : Option String) (world : World Nat) :
    (recordService.plain.lookup unsteady accessKey token).perform world =
      (if world.outside = 1 then .ok none
        else .error (.failed (.provider (some 503)
          "credentials service returned 503 Service Unavailable")),
        { world with outside := world.outside + 1 }) := by
  rcases exists_lookup_address below_recordService with ⟨_, _, parsed⟩
  rw [lookup_plain, fetch_eq unsteady (parsed accessKey token) rfl,
    Attempt.perform_bind_of_ok (Attempt.perform_act _ _), Attempt.perform_ofExcept]
  change (Except.mapError Halt.failed
    (interpret (.answered ⟨if world.outside = 1 then 404 else 503, [], []⟩ true)), _) = _
  split_ifs
  · rfl
  · rfl

def firstWorld : World Nat :=
  World.start ⟨738886, 43200, 0⟩ Supply.repeatable "id" 0

/-- Four lookups, and an entry in the log. -/
def fourLookups : List (Happening Nat) :=
  [.asked ("k", none), .asked ("k", none), .passed (Act.note (.property "method" "GET")),
    .asked ("k", none), .asked ("k", some "")]

/-- A failure is asked for again, the answer that a key is unknown is kept, and an empty token is
not the same as none: four lookups make three requests. -/
theorem cached_recalls_unknown_key :
    (∀ sent, (unsteady sent).SparesCache) ∧
      (∀ happening ∈ fourLookups, happening.SparesCache) ∧ firstWorld.cache = [] ∧
      let done := RecordLookup.inTurn (recordService.cached.lookup unsteady) fourLookups firstWorld
      let failure : LookupOutcome := .error (.failed (.provider (some 503)
        "credentials service returned 503 Service Unavailable"))
      done.1 = [failure, .ok none, .ok none, failure] ∧ done.2.outside = 3 := by
  have spares : ∀ sent, (unsteady sent).SparesCache := fun _ _ _ => rfl
  have others : ∀ happening ∈ fourLookups, happening.SparesCache := by
    simp only [fourLookups, List.forall_mem_cons]
    exact ⟨trivial, trivial, fun _ _ => rfl, trivial, trivial, nofun⟩
  refine ⟨spares, others, rfl, ?_⟩
  have noted : ∀ world : World Nat, (Act.note (.property "method" "GET")).run world =
      ((), { world with log := world.log.note (.property "method" "GET") }) := fun _ => rfl
  intro done failure
  rcases cached_recalls recordService unsteady spares fourLookups others firstWorld rfl with
    ⟨answers, agrees, _⟩
  rw [answers, agrees]
  simp [fourLookups, recollectInTurn, recollect, remembered, perform_unsteady, firstWorld,
    World.start, noted, Except.toOption, failure]

end CredentialService
end SignedGateway
