import Accounts.Access.Authority
import Accounts.RoleCache.Basic
import Accounts.Store

/-!
# The world of an operation

What operations work on: the clock, the store, the cache of roles, the slots through which the store
is reached, the supply of generated values, and the requests that were made to other providers.

An operation is a function of the world that gives an answer or fails, and a new world either way:
what was done before a failure stays done.
-/

namespace Accounts

/-- Where generated values come from. There is a series of each kind, of which nothing is known, and
the number that was used last of each. -/
structure Supply where
  sagaId : Nat → String
  token : Nat → String
  random : Nat → Nat
  sagaIds : Nat
  tokens : Nat
  randoms : Nat

open Timestamp (padded) in
/-- A supply of which nothing is used yet, with values that show their numbers. The first random
numbers may be given. -/
def Supply.start (randoms : List Nat) : Supply where
  sagaId n := "00000000-0000-4000-8000-" ++ String.ofList (padded 12 n)
  token n := "reset-token-" ++ String.ofList (padded 4 n)
  random n := (randoms[n - 1]?).getD (12345678900000000000 + n)
  sagaIds := 0
  tokens := 0
  randoms := 0

/-- The slots through which the store is reached. Without patience nobody gets one. -/
structure Slots where
  size : Nat
  inUse : Nat
  patient : Bool
  deriving DecidableEq, Repr

/-- A slot can be had at once. -/
def Slots.isFree (slots : Slots) : Bool := slots.patient && slots.inUse < slots.size

/-- A request to another provider. -/
structure ProviderRequest where
  method : String
  url : String
  params : List (String × String)
  authorization : Option String
  deriving DecidableEq, Repr

/-- What comes back from another provider. -/
inductive ProviderReply where
  | response (status : Int) (body : List UInt8)
  | timedOut
  | failed (message : String)
  deriving DecidableEq, Repr

structure World where
  /-- Microseconds since the start of 1970. -/
  now : Int
  store : Store
  cache : RoleCache Int
  slots : Slots
  supply : Supply
  requests : List ProviderRequest

abbrev Op (α : Type) : Type := ExceptT Failure (StateM World) α

namespace Op

def exec (op : Op α) (w : World) : Except Failure α × World := op.run.run w

def fail (error : ServiceError) : Op α := throw (.service error)

def crash (crash : Crash) : Op α := throw (.crash crash)

def ofResult : Except Failure α → Op α
  | .ok value => pure value
  | .error failure => throw failure

def now : Op Timestamp := do return .utc (← get).now

def read (f : Store → α) : Op α := do return f (← get).store

/-- Writes to the store; a write that is refused changes nothing. -/
def write (f : Store → Except ServiceError (α × Store)) : Op α := do
  match f (← get).store with
  | .ok (value, store) =>
    modify fun w => { w with store }
    return value
  | .error error => fail error

/-- Writes to the store in a way that is never refused. -/
def put (f : Store → α × Store) : Op α := write fun store => .ok (f store)

def freshSagaId : Op JsonString := do
  let supply := (← get).supply
  let n := supply.sagaIds + 1
  modify fun w => { w with supply := { w.supply with sagaIds := n } }
  return .text (supply.sagaId n)

def freshToken : Op String := do
  let supply := (← get).supply
  let n := supply.tokens + 1
  modify fun w => { w with supply := { w.supply with tokens := n } }
  return supply.token n

def freshRandom : Op Nat := do
  let supply := (← get).supply
  let n := supply.randoms + 1
  modify fun w => { w with supply := { w.supply with randoms := n } }
  return supply.random n

/-- The saga id that was sent, or a fresh one. -/
def sagaIdOr (sent : Option JsonString) : Op JsonString :=
  match sent with
  | some sagaId => pure sagaId
  | none => freshSagaId

/-- What a fault says when it is reported as one of the store. -/
def crashText : Crash → String
  | .payload complaints => ", ".intercalate (complaints.map (·.complaint.text))
  | .value message => message
  | .tooDeep => "maximum recursion depth exceeded"
  | .overflow => "date value out of range"
  | .key => "invalid key"
  | .headerEncoding => "invalid header"
  | .surrogate => "surrogates not allowed"
  | .address => "invalid address"

/-- A failure while a slot is held: what is no error of the service is one of the store. -/
def insideSlot : Failure → Failure
  | .service error => .service error
  | .crash crash => .service (.store (.broken (crashText crash)))

/-- Holds a slot for the time of an operation. The slot is given back however the operation ends. -/
def withSlot (op : Op α) : Op α := fun w =>
  if w.slots.isFree then
    let (result, w) := op.exec { w with slots := { w.slots with inUse := w.slots.inUse + 1 } }
    (result.mapError insideSlot,
      { w with slots := { w.slots with inUse := w.slots.inUse - 1 } })
  else (.error (.service (.store .noSlot)), w)

/-- The roles of a user as the store has them; without a slot they cannot be read. -/
def loadRoles (w : World) (userId : Int) : Option (List Role) :=
  if w.slots.isFree then some ((w.store.rolesOf userId).map (·.role)) else none

/-- The roles of a user, from the cache or through it. A store that cannot be reached leaves the
user without roles for this once. -/
def rolesOf (userId : Int) : Op (List Role) := fun w =>
  match w.cache.begin w.now userId with
  | (.cached roles, cache) => (.ok roles, { w with cache })
  | (.loading ticket, cache) =>
    let loaded := loadRoles w userId
    (.ok (RoleCache.answer loaded), { w with cache := cache.finish w.now ticket loaded })

/-- Forgets the cached roles of a user. -/
def invalidateRoles (userId : Int) : Op Unit :=
  modify fun w => { w with cache := w.cache.invalidate userId }

/-- Whether a caller may do an action on all the targets. -/
def can (caller : Caller) (resource : Resource) (action : Action) (targets : List Target) :
    Op Bool := do
  match caller.authority with
  | .system => return true
  | .nobody => return false
  | .user id =>
    let roles ← rolesOf id
    return PermissionTable.application.permits roles id resource action targets

/-- Refuses a caller who may not. -/
def require (caller : Caller) (resource : Resource) (action : Action) (targets : List Target) :
    Op Unit := do
  if !(← can caller resource action targets) then fail (.denied action resource)

/-- The caller whom an e-mail address stands for. Without a user there is no authority, but the
address is remembered. -/
def resolveCaller (email : Option JsonString) : Op Caller := do
  match email with
  | none => return .anonymous
  | some email =>
    if email = .text "" then return .anonymous
    else
      match ← withSlot (read (·.findUserByAddress email)) with
      | none => return ⟨none, some email, .nobody⟩
      | some user => return ⟨some user.id, some (.text user.email), .user user.id⟩

end Op

end Accounts
