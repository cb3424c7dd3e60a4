import Accounts.Error
import Accounts.Table

/-!
# Slots

A pool has a fixed number of slots. Whoever arrives takes a slot if one is free and nobody is
waiting, else waits in line; a slot that is given back goes to whoever has waited longest. Holders
leave their slot in the ordinary way, by an error, or because they are cancelled, and give it back
in every case. Those who wait may give up, when the time limit for waiting runs out or when they are
cancelled.

The free slots and the number in use are counted apart, as the pool keeps them: that the two always
add up to the size is nothing the definitions say.
-/

namespace Accounts.Pool

/-- How a holder leaves the block it holds a slot for. -/
inductive Leaving (ε : Type) where
  | done
  /-- A failure that belongs to the service passes as it is. -/
  | failed (error : ε)
  /-- A failure of any other kind. -/
  | broken (message : String)
  deriving DecidableEq, Repr

/-- What has become of someone who wanted a slot. -/
inductive Status (ε : Type) where
  | waiting
  | held
  | released
  | cancelled
  | failed (error : ε)
  /-- The failure was not one of the service, and is reported as one of the store. -/
  | storeFailed (message : String)
  | timedOut
  deriving DecidableEq, Repr

/-- The error that reaches whoever wanted a slot, if one does. -/
def Status.error? : Status ServiceError → Option ServiceError
  | .failed error => some error
  | .storeFailed message => some (.store (.broken message))
  | .timedOut => some (.store .noSlot)
  | .waiting | .held | .released | .cancelled => none

/-- A pool: the slots nobody has, the count of those in use, who waits in which order, and what
became of everybody. -/
structure Machine (ε : Type) where
  size : Nat
  /-- Without patience nobody gets a slot: the wait is over before it begins. -/
  patient : Bool
  free : Nat
  /-- A count that only ever goes up and down by one; nothing keeps it from going below zero. -/
  inUse : Int
  waiting : List String
  status : Table String (Status ε)

inductive Event (ε : Type) where
  | acquire (name : String)
  | release (name : String) (leaving : Leaving ε)
  | cancel (name : String)
  /-- The time limit for waiting runs out for one who waits. -/
  | expire (name : String)
  /-- The time limit for waiting runs out for all who wait. -/
  | timeout

namespace Machine

variable {ε : Type}

def init (size : Nat) (patient : Bool) : Machine ε := ⟨size, patient, size, 0, [], []⟩

/-- Comes into the block with a slot that is no longer free. -/
def enter (m : Machine ε) (name : String) : Machine ε :=
  { m with inUse := m.inUse + 1, status := m.status.put name .held }

/-- Gives a slot back: whoever has waited longest gets it at once. -/
def giveBack (m : Machine ε) : Machine ε :=
  match m.waiting with
  | [] => { m with free := m.free + 1 }
  | next :: rest => { m with waiting := rest }.enter next

/-- A holder gives its slot back. -/
def leave (m : Machine ε) (name : String) (status : Status ε) : Machine ε :=
  { m with inUse := m.inUse - 1, status := m.status.put name status }.giveBack

/-- One who waits goes without a slot. -/
def giveUp (m : Machine ε) (name : String) (status : Status ε) : Machine ε :=
  { m with waiting := m.waiting.erase name, status := m.status.put name status }

/-- What a way of leaving makes of the holder. -/
def statusOf : Leaving ε → Status ε
  | .done => .released
  | .failed error => .failed error
  | .broken message => .storeFailed message

def acquire (m : Machine ε) (name : String) : Machine ε :=
  if !m.patient then { m with status := m.status.put name .timedOut }
  else if 0 < m.free && m.waiting.isEmpty then { m with free := m.free - 1 }.enter name
  else { m with waiting := m.waiting ++ [name], status := m.status.put name .waiting }

/-- The time limit of one who waits runs out; for anybody else nothing happens. -/
def expire (m : Machine ε) (name : String) : Machine ε :=
  match m.status.get? name with
  | some .waiting => m.giveUp name .timedOut
  | _ => m

/-- One event. Releases by those who hold no slot do nothing. -/
def step (m : Machine ε) : Event ε → Machine ε
  | .acquire name => m.acquire name
  | .release name leaving =>
    match m.status.get? name with
    | some .held => m.leave name (statusOf leaving)
    | _ => m
  | .cancel name =>
    match m.status.get? name with
    | some .held => m.leave name .cancelled
    | some .waiting => m.giveUp name .cancelled
    | _ => m
  | .expire name => m.expire name
  | .timeout => m.waiting.foldl expire m

end Machine

end Accounts.Pool
