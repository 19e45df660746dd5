import Mathlib.Data.List.Nodup
import SignedGateway.Proofs.MultiMap
import SignedGateway.Session.Store

namespace SignedGateway
namespace SessionStore

/-!
# What the steps of the store do

Every step but storing only takes sessions away, and none of them one that is live at the
reading of the clock that the step uses.  A store that is changed by these steps holds one
session for each access key, under that key.
-/

/-- Each session stands under its own access key, and no key twice. -/
structure Tidy (store : SessionStore) : Prop where
  distinct : (store.sessions.map Prod.fst).Nodup
  keyed : ∀ entry ∈ store.sessions, entry.1 = entry.2.record.emulated.accessKey

theorem tidy_empty : Tidy empty :=
  ⟨List.nodup_nil, fun _ member => absurd member List.not_mem_nil⟩

/-! ## Membership -/

theorem mem_sweep {store : SessionStore} {now : Calendar.Moment} {entry : String × Session} :
    entry ∈ (store.sweep now).sessions ↔ entry ∈ store.sessions ∧ entry.2.isLive now = true :=
  List.mem_filter

theorem mem_put {store : SessionStore} {session : Session} {entry : String × Session} :
    entry ∈ (store.put session).sessions ↔
      entry = (session.record.emulated.accessKey, session) ∨
        entry ∈ store.sessions ∧ entry.1 ≠ session.record.emulated.accessKey := by
  rw [put, List.mem_cons, List.mem_filter, bne_iff_ne]

theorem mem_evict {store : SessionStore} {accessKey : String} {now : Calendar.Moment}
    {entry : String × Session} :
    entry ∈ (store.evict accessKey now).sessions ↔
      entry ∈ store.sessions ∧ (entry.1 ≠ accessKey ∨ entry.2.isLive now = true) := by
  rw [evict, List.mem_filter, Bool.or_eq_true, bne_iff_ne]

theorem mem_insert {store : SessionStore} {session : Session} {now : Calendar.Moment}
    {entry : String × Session} :
    entry ∈ (store.insert session now).sessions ↔
      entry = (session.record.emulated.accessKey, session) ∨
        (entry ∈ store.sessions ∧ entry.2.isLive now = true) ∧
          entry.1 ≠ session.record.emulated.accessKey := by
  rw [insert, mem_put, mem_sweep]

/-! ## Tidiness -/

namespace Tidy

variable {store : SessionStore} (tidy : store.Tidy)

include tidy

theorem filter (keep : String × Session → Bool) : Tidy ⟨store.sessions.filter keep⟩ := by
  constructor
  · exact tidy.distinct.sublist (List.filter_sublist.map Prod.fst)
  · exact fun entry member => tidy.keyed entry (List.mem_of_mem_filter member)

theorem sweep (now : Calendar.Moment) : (store.sweep now).Tidy :=
  tidy.filter _

theorem evict (accessKey : String) (now : Calendar.Moment) : (store.evict accessKey now).Tidy :=
  tidy.filter _

theorem put (session : Session) : (store.put session).Tidy := by
  have others := tidy.filter fun entry => entry.1 != session.record.emulated.accessKey
  constructor
  · rw [SessionStore.put, List.map_cons, List.nodup_cons]
    refine ⟨fun again => ?_, others.distinct⟩
    rcases List.mem_map.mp again with ⟨entry, member, same⟩
    exact bne_iff_ne.mp (List.mem_filter.mp member).2 same
  · intro entry member
    rcases List.mem_cons.mp member with rfl | old
    · rfl
    · exact others.keyed entry old

theorem insert (session : Session) (now : Calendar.Moment) : (store.insert session now).Tidy :=
  (tidy.sweep now).put session

/-- A tidy store finds whatever is stored under a key. -/
theorem find?_of_mem {accessKey : String} {session : Session}
    (stored : (accessKey, session) ∈ store.sessions) : store.find? accessKey = some session :=
  MultiMap.lookup_of_mem tidy.distinct stored

end Tidy

/-! ## Readings -/

theorem mem_of_find? {store : SessionStore} {accessKey : String} {session : Session}
    (found : store.find? accessKey = some session) : (accessKey, session) ∈ store.sessions := by
  rcases List.lookup_eq_some_iff.mp found with ⟨before, after, split, _⟩
  exact split ▸ List.mem_append_right before List.mem_cons_self

/-- What a reading of a stored session tells. -/
theorem read_of_mem {store : SessionStore} (tidy : store.Tidy) {accessKey : String}
    {session : Session} (stored : (accessKey, session) ∈ store.sessions) (token : Option String)
    (now : Calendar.Moment) :
    store.read accessKey token now =
      if session.isLive now then
        .live (if session.record.emulated.session = token then some session.record else none)
      else .expired := by
  rw [read, tidy.find?_of_mem stored]

/-- A record is shown only of a live session under the key to the holder of its token. -/
theorem exists_of_read_live {store : SessionStore} {accessKey : String} {token : Option String}
    {now : Calendar.Moment} {record : CredentialRecord}
    (shown : store.read accessKey token now = .live (some record)) :
    ∃ session, (accessKey, session) ∈ store.sessions ∧ session.record = record ∧
      session.record.emulated.session = token ∧ session.isLive now = true := by
  rw [read] at shown
  split at shown
  · cases shown
  · next session found =>
      split_ifs at shown with live held
      · cases shown
        exact ⟨session, mem_of_find? found, rfl, held, live⟩
      · cases shown

theorem exists_of_read_expired {store : SessionStore} {accessKey : String}
    {token : Option String} {now : Calendar.Moment}
    (passed : store.read accessKey token now = .expired) :
    ∃ session, (accessKey, session) ∈ store.sessions ∧ session.isLive now = false := by
  rw [read] at passed
  split at passed
  · cases passed
  · next session found =>
      split_ifs at passed with live
      exact ⟨session, mem_of_find? found, eq_false_of_ne_true live⟩

/-! ## Lookups -/

/-- Nothing is added, and nothing that is live is taken away. -/
structure Sheds (before after : SessionStore) (now : Calendar.Moment) : Prop where
  old : ∀ entry ∈ after.sessions, entry ∈ before.sessions
  kept : ∀ entry ∈ before.sessions, entry.2.isLive now = true → entry ∈ after.sessions

theorem Sheds.refl (store : SessionStore) (now : Calendar.Moment) : store.Sheds store now :=
  ⟨fun _ member => member, fun _ member _ => member⟩

theorem sheds_lookup (store : SessionStore) (accessKey : String) (token : Option String)
    (now : Calendar.Moment) : store.Sheds (store.lookup accessKey token now).2 now := by
  rw [lookup]
  cases store.read accessKey token now with
  | absent => exact .refl store now
  | live result => exact .refl store now
  | expired =>
      exact ⟨fun _ member => (mem_evict.mp member).1,
        fun _ member live => mem_evict.mpr ⟨member, Or.inr live⟩⟩

/-- Sweeping takes away whatever a lookup has. -/
theorem insert_lookup (store : SessionStore) (accessKey : String) (token : Option String)
    (session : Session) (now : Calendar.Moment) :
    (store.lookup accessKey token now).2.insert session now = store.insert session now := by
  have swept : (store.lookup accessKey token now).2.sweep now = store.sweep now := by
    rw [lookup]
    cases store.read accessKey token now with
    | absent => rfl
    | live result => rfl
    | expired =>
        rw [evict, sweep, sweep, List.filter_filter]
        congr 1
        apply List.filter_congr
        intro entry _
        cases entry.2.isLive now <;> simp
  rw [insert, swept, insert]

/-- A lookup finds what a live session shows to the holder of its token. -/
theorem exists_of_lookup {store : SessionStore} {accessKey : String} {token : Option String}
    {now : Calendar.Moment} {record : CredentialRecord}
    (found : (store.lookup accessKey token now).1 = some record) :
    ∃ session, (accessKey, session) ∈ store.sessions ∧ session.record = record ∧
      session.record.emulated.session = token ∧ session.isLive now = true := by
  rw [lookup] at found
  cases reading : store.read accessKey token now with
  | absent =>
      rw [reading] at found
      cases found
  | live result =>
      rw [reading] at found
      cases found
      exact exists_of_read_live reading
  | expired =>
      rw [reading] at found
      cases found

end SessionStore
end SignedGateway
