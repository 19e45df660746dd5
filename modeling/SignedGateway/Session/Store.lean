import SignedGateway.Calendar.Moment
import SignedGateway.Credential

namespace SignedGateway

/-!
# Temporary sessions

A session gives a minted credential the record of the caller who asked for it,
until it expires.  The store holds one session per access key and changes in
atomic steps: sweeping out what has expired, storing, reading, and removing one
session that has expired.  Storing a session is a sweep followed by a store, a
lookup is a reading followed, when the session has expired, by its removal; each
uses one reading of the clock throughout.
-/

structure Session where
  record : CredentialRecord
  expiration : Calendar.Moment
  deriving Repr

/-- Whether the session has not expired yet. -/
def Session.isLive (session : Session) (now : Calendar.Moment) : Bool :=
  now.before session.expiration

structure SessionStore where
  sessions : List (String × Session)
  deriving Repr

namespace SessionStore

def empty : SessionStore := ⟨[]⟩

instance : Inhabited SessionStore := ⟨empty⟩

def size (store : SessionStore) : Nat :=
  store.sessions.length

/-- Remove every session that has expired. -/
def sweep (store : SessionStore) (now : Calendar.Moment) : SessionStore :=
  ⟨store.sessions.filter fun entry => entry.2.isLive now⟩

/-- Store a session under its access key in place of any other. -/
def put (store : SessionStore) (session : Session) : SessionStore :=
  let accessKey := session.record.emulated.accessKey
  ⟨(accessKey, session) :: store.sessions.filter fun entry => entry.1 != accessKey⟩

def find? (store : SessionStore) (accessKey : String) : Option Session :=
  store.sessions.lookup accessKey

/-- Remove the session of an access key if it has expired. -/
def evict (store : SessionStore) (accessKey : String) (now : Calendar.Moment) : SessionStore :=
  ⟨store.sessions.filter fun entry => entry.1 != accessKey || entry.2.isLive now⟩

/-- What a reading of the store tells a lookup. -/
inductive Reading where
  | absent
  | expired
  | live (record : Option CredentialRecord)
  deriving Repr

/-- Read the session of an access key.  A live session is shown only to the holder
of its token. -/
def read (store : SessionStore) (accessKey : String) (token : Option String)
    (now : Calendar.Moment) : Reading :=
  match store.find? accessKey with
  | none => .absent
  | some session =>
      if session.isLive now then
        .live (if session.record.emulated.session = token then some session.record else none)
      else .expired

def insert (store : SessionStore) (session : Session) (now : Calendar.Moment) : SessionStore :=
  (store.sweep now).put session

/-- The record of a session, and the store after the lookup. -/
def lookup (store : SessionStore) (accessKey : String) (token : Option String)
    (now : Calendar.Moment) : Option CredentialRecord × SessionStore :=
  match store.read accessKey token now with
  | .absent => (none, store)
  | .expired => (none, store.evict accessKey now)
  | .live record => (record, store)

end SessionStore
end SignedGateway
