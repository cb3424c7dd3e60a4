import Accounts.Access.Permission
import Accounts.Table

/-!
# The roles cache

The cache stands in front of the store of role grants. A lookup that is not answered from the cache
runs in two critical sections: `begin` counts it as pending and hands out a ticket, and `finish`
takes the ticket back with what the loader returned. Between the two, anything may happen.

An invalidation while a lookup of the same user is pending raises that user's generation, and
clearing the cache raises the epoch; a ticket that no longer carries the present epoch and
generation is not allowed to store its result. So a slow lookup can never put back roles that an
invalidation was meant to remove. Generations are kept only while lookups are pending.

Time is any type with an order and an addition, so that the same cache runs on a clock of whole
microseconds and on one of floating-point seconds.
-/

namespace Accounts

/-- The roles of a user, until a point in time. -/
structure CachedRoles (τ : Type) where
  roles : List Role
  expiresAt : τ
  deriving Repr

structure RoleCache (τ : Type) where
  /-- How long an entry lives. -/
  lifetime : τ
  entries : Table Int (CachedRoles τ)
  /-- How often each user with a pending lookup was invalidated since lookups of that user were last
  all finished. -/
  generations : Table Int Nat
  /-- How many lookups of each user are pending. -/
  pending : Table Int Nat
  /-- How often the cache was cleared. -/
  epoch : Nat
  /-- Expired entries are swept out no earlier than this. -/
  nextSweep : τ
  deriving Repr

namespace RoleCache

/-- What a lookup remembers from its first critical section. -/
structure Ticket where
  userId : Int
  epoch : Nat
  generation : Nat
  deriving DecidableEq, Repr

/-- What the first critical section of a lookup comes to. -/
inductive Begun where
  /-- The cache had the answer. -/
  | cached (roles : List Role)
  /-- The loader has to be asked. -/
  | loading (ticket : Ticket)
  deriving DecidableEq, Repr

variable {τ : Type}

def empty (lifetime start : τ) : RoleCache τ := ⟨lifetime, [], [], [], 0, start⟩

def generation (cache : RoleCache τ) (userId : Int) : Nat := (cache.generations.get? userId).getD 0

def pendingCount (cache : RoleCache τ) (userId : Int) : Nat := (cache.pending.get? userId).getD 0

/-- Counts a lookup as pending. -/
def enter (cache : RoleCache τ) (userId : Int) : Ticket × RoleCache τ :=
  (⟨userId, cache.epoch, cache.generation userId⟩,
    { cache with pending := cache.pending.put userId (cache.pendingCount userId + 1) })

section Clock

variable [Add τ] [LT τ] [DecidableLT τ]

/-- The first critical section of a lookup. An entry that has expired is dropped. -/
def begin (cache : RoleCache τ) (now : τ) (userId : Int) : Begun × RoleCache τ :=
  match cache.entries.get? userId with
  | some entry =>
    if now < entry.expiresAt then (.cached entry.roles, cache)
    else
      let (ticket, cache) := { cache with entries := cache.entries.erase userId }.enter userId
      (.loading ticket, cache)
  | none =>
    let (ticket, cache) := cache.enter userId
    (.loading ticket, cache)

/-- A ticket is current while nothing invalidated its user since it was handed out. -/
def isCurrent (cache : RoleCache τ) (ticket : Ticket) : Bool :=
  ticket.epoch == cache.epoch && ticket.generation == cache.generation ticket.userId

/-- Stores what was loaded for a current ticket; nothing was loaded if the loader failed. -/
def record (cache : RoleCache τ) (now : τ) (ticket : Ticket) (loaded : Option (List Role)) :
    RoleCache τ :=
  match loaded with
  | some roles =>
    if cache.isCurrent ticket then
      { cache with
        entries := cache.entries.put ticket.userId ⟨roles.eraseDups, now + cache.lifetime⟩ }
    else cache
  | none => cache

/-- Counts a pending lookup as finished; the last one takes the user's generation with it. -/
def release (cache : RoleCache τ) (userId : Int) : RoleCache τ :=
  let remaining := cache.pendingCount userId - 1
  if remaining = 0 then
    { cache with
      pending := cache.pending.erase userId, generations := cache.generations.erase userId }
  else { cache with pending := cache.pending.put userId remaining }

/-- Drops the expired entries, at most once in a lifetime. -/
def sweep (cache : RoleCache τ) (now : τ) : RoleCache τ :=
  if now < cache.nextSweep then cache
  else
    { cache with
      entries := cache.entries.filter fun (_, entry) => now < entry.expiresAt
      nextSweep := now + cache.lifetime }

/-- The second critical section of a lookup, however it ended. -/
def finish (cache : RoleCache τ) (now : τ) (ticket : Ticket) (loaded : Option (List Role)) :
    RoleCache τ :=
  ((cache.record now ticket loaded).release ticket.userId).sweep now

end Clock

/-- What a lookup answers: a loader that failed leaves the user without roles. -/
def answer (loaded : Option (List Role)) : List Role := (loaded.getD []).eraseDups

/-- Forgets the roles of a user; lookups that are pending may not store theirs. -/
def invalidate (cache : RoleCache τ) (userId : Int) : RoleCache τ :=
  { cache with
    entries := cache.entries.erase userId
    generations :=
      if cache.pending.has userId then
        cache.generations.put userId (cache.generation userId + 1)
      else cache.generations }

/-- Forgets everything; no pending lookup may store its result. -/
def clear (cache : RoleCache τ) : RoleCache τ :=
  { cache with epoch := cache.epoch + 1, entries := [] }

def contains (cache : RoleCache τ) (userId : Int) : Bool := cache.entries.has userId

def size (cache : RoleCache τ) : Nat := cache.entries.length

end RoleCache

end Accounts
