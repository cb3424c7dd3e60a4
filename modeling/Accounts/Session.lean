import Accounts.Api.Server
import Accounts.Settings

/-!
# Sessions

A server from its start on: the world it starts in, and what happens between and around operations.
Time passes, slots may be held from outside, and an operation that fails gives back the generated
values that it used.
-/

namespace Accounts.Session

/-- The start of every session: the first moment of 2024. -/
def epoch : Int := Timestamp.daysOfDate 2024 1 1 * Timestamp.microsPerDay

/-- The fault of a pool without slots. -/
def noSlots : Crash := .value "Pool size must be at least 1"

/-- Whether anybody waits at all; with nothing to wait for, the wait is over before it begins. -/
def isPatient (seconds : Decimal.Binary64) : Bool := !(seconds < 0 || seconds == 0)

/-- The world that a server starts in. There has to be a slot at least. -/
def start (s : Settings) (randoms : List Nat) : Except Crash World :=
  if s.dbPoolSize < 1 then .error noSlots
  else .ok
    { now := epoch
      store := .empty
      cache := .empty (s.rolesCacheTtlSeconds * 1000000) epoch
      slots := ⟨s.dbPoolSize.toNat, 0, isPatient s.dbAcquireTimeoutSeconds⟩
      supply := .start randoms
      requests := [] }

/-- Lets time pass, in microseconds, before an operation. Requests to other providers are noted anew
for every operation. -/
def tick (micros : Int) (w : World) : World := { w with now := w.now + micros, requests := [] }

/-- Gives back the generated values that were used since `before`. -/
def giveBack (before after : World) : World :=
  { after with supply := before.supply }

def attempt (op : Op α) (w : World) : Except Failure α × World :=
  match op.exec w with
  | (.ok value, w') => (.ok value, w')
  | (.error failure, w') => (.error failure, giveBack w w')

def exchange (setup : Api.Setup) (request : Http.Request) (w : World) : Http.Response × World :=
  let (response, w') := Api.answer setup request w
  (response, if response.status < 400 then w' else giveBack w w')

/-- Holds a number of slots until they are released. Slots that were had stay held if another one is
not to be had. -/
def hold : Nat → Op Unit
  | 0 => pure ()
  | n + 1 => do
    if (← get).slots.isFree then
      modify fun w => { w with slots := { w.slots with inUse := w.slots.inUse + 1 } }
      hold n
    else Op.fail (.store .noSlot)

def release (n : Nat) : Op Unit :=
  modify fun w => { w with slots := { w.slots with inUse := w.slots.inUse - n } }

/-- Everything that is stored or held, in the order of its keys. -/
def dump (w : World) : Json :=
  let cached := w.cache.entries.mergeSort fun a b => a.1 ≤ b.1
  let users := w.store.users.values.mergeSort fun a b => a.id ≤ b.id
  let identities := w.store.identities.values.mergeSort fun a b =>
    a.email < b.email || (a.email == b.email && a.provider.name ≤ b.provider.name)
  let userRoles := w.store.userRoles.values.mergeSort fun a b => a.id ≤ b.id
  let resetTokens := w.store.resetTokens.values.mergeSort fun a b =>
    a.email < b.email || (a.email == b.email && a.tokenType.name ≤ b.tokenType.name)
  .record
    [("users", .arr (users.map User.toJson)), ("identities", .arr (identities.map Identity.toJson)),
      ("user_roles", .arr (userRoles.map UserRole.toJson)),
      ("reset_tokens", .arr (resetTokens.map ResetToken.toJson)),
      ("cached", .arr (cached.map fun (id, entry) =>
        .arr [.int id, .arr (entry.roles.map fun role => .text role.name)])),
      ("in_use", .int w.slots.inUse)]

end Accounts.Session
