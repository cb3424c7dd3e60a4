import Accounts.RoleCache.Basic

/-!
# Lookups under way

The cache together with a store of roles, a clock and any number of lookups that wait for their
loader. A lookup's loader reads the store when the lookup starts, and may be told then that it is
going to fail; the lookup finishes, or is cancelled, at some later event.
-/

namespace Accounts.RoleCache

/-- A lookup that was started under a name. -/
inductive Lookup where
  /-- It waits for the loader, which read these roles, or is going to fail. -/
  | waiting (ticket : Ticket) (loaded : Option (List Role))
  | done (roles : List Role)
  | cancelled
  deriving DecidableEq, Repr

/-- The cache in its surroundings. Lookups are known by names. -/
structure Machine (τ : Type) where
  cache : RoleCache τ
  now : τ
  store : Table Int (List Role)
  /-- The loader fails from now on. -/
  failing : Bool
  /-- How often the loader was asked. -/
  calls : Nat
  lookups : Table String Lookup

inductive Event (τ : Type) where
  | setRoles (userId : Int) (roles : List Role)
  | setFailing (failing : Bool)
  | advance (time : τ)
  | get (userId : Int)
  | start (name : String) (userId : Int)
  | finish (name : String) (failing : Bool)
  | cancel (name : String)
  | invalidate (userId : Int)
  | clear
  | contains (userId : Int)

inductive Reply where
  | nothing
  | roles (roles : List Role)
  | pending
  | done
  | cancelled
  | flag (value : Bool)
  deriving DecidableEq, Repr

namespace Machine

variable {τ : Type} [Add τ] [LT τ] [DecidableLT τ]

/-- What the loader reads for a user at present. -/
def load (m : Machine τ) (userId : Int) : Option (List Role) :=
  if m.failing then none else some ((m.store.get? userId).getD [])

/-- Starts a lookup; the loader is asked if the cache has no answer. -/
def startLookup (m : Machine τ) (userId : Int) : Lookup × Machine τ :=
  match m.cache.begin m.now userId with
  | (.cached roles, cache) => (.done roles, { m with cache })
  | (.loading ticket, cache) =>
    (.waiting ticket (m.load userId), { m with cache, calls := m.calls + 1 })

/-- Ends the wait of a lookup with what the loader returned. -/
def endLookup (m : Machine τ) (ticket : Ticket) (loaded : Option (List Role)) : Machine τ :=
  { m with cache := m.cache.finish m.now ticket loaded }

/-- One event. -/
def step (m : Machine τ) : Event τ → Reply × Machine τ
  | .setRoles userId roles => (.nothing, { m with store := m.store.put userId roles })
  | .setFailing failing => (.nothing, { m with failing })
  | .advance time => (.nothing, { m with now := m.now + time })
  | .get userId =>
    match m.startLookup userId with
    | (.waiting ticket loaded, m) => (.roles (answer loaded), m.endLookup ticket loaded)
    | (.done roles, m) => (.roles roles, m)
    | (.cancelled, m) => (.nothing, m)
  | .start name userId =>
    let (lookup, m) := m.startLookup userId
    let m := { m with lookups := m.lookups.put name lookup }
    match lookup with
    | .waiting .. => (.pending, m)
    | _ => (.done, m)
  | .finish name failing =>
    match m.lookups.get? name with
    | some (.waiting ticket loaded) =>
      let loaded := if failing then none else loaded
      let roles := answer loaded
      (.roles roles,
        { m.endLookup ticket loaded with lookups := m.lookups.put name (.done roles) })
    | some (.done roles) => (.roles roles, m)
    | _ => (.nothing, m)
  | .cancel name =>
    match m.lookups.get? name with
    | some (.waiting ticket _) =>
      (.cancelled, { m.endLookup ticket none with lookups := m.lookups.put name .cancelled })
    | some (.done roles) => (.roles roles, m)
    | _ => (.cancelled, m)
  | .invalidate userId => (.nothing, { m with cache := m.cache.invalidate userId })
  | .clear => (.nothing, { m with cache := m.cache.clear })
  | .contains userId => (.flag (m.cache.contains userId), m)

def init (lifetime start : τ) : Machine τ :=
  ⟨RoleCache.empty lifetime start, start, [], false, 0, []⟩

end Machine

end Accounts.RoleCache
