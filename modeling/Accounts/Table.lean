/-!
# Tables

A table maps keys to values and keeps the order in which keys came. Putting a value under a key that
is there leaves the key in its place; a key that was erased and put again stands at the end.
-/

namespace Accounts

/-- Keys with their values, in the order in which the keys came. -/
abbrev Table (κ β : Type) := List (κ × β)

namespace Table

variable {κ β : Type} [DecidableEq κ]

def get? : Table κ β → κ → Option β
  | [], _ => none
  | (k, value) :: rest, key => if k = key then some value else get? rest key

def put : Table κ β → κ → β → Table κ β
  | [], key, value => [(key, value)]
  | (k, old) :: rest, key, value =>
    if k = key then (k, value) :: rest else (k, old) :: put rest key value

def erase (table : Table κ β) (key : κ) : Table κ β := table.filter (·.1 ≠ key)

def has (table : Table κ β) (key : κ) : Bool := (table.get? key).isSome

def keys (table : Table κ β) : List κ := table.map (·.1)

def values (table : Table κ β) : List β := table.map (·.2)

theorem get?_put_self (table : Table κ β) (key : κ) (value : β) :
    (table.put key value).get? key = some value := by
  induction table with
  | nil => simp [put, get?]
  | cons entry rest ih =>
    by_cases h : entry.1 = key
    · simp [put, get?, h]
    · simp [put, get?, h, ih]

theorem get?_put_of_ne (table : Table κ β) {key other : κ} (value : β) (h : key ≠ other) :
    (table.put key value).get? other = table.get? other := by
  induction table with
  | nil => simp [put, get?, h]
  | cons entry rest ih =>
    by_cases hk : entry.1 = key
    · have : entry.1 ≠ other := fun e => h (hk.symm.trans e)
      simp [put, get?, hk, h]
    · simp only [put, hk, if_false, get?]
      rw [ih]

theorem get?_erase_self (table : Table κ β) (key : κ) : (table.erase key).get? key = none := by
  induction table with
  | nil => rfl
  | cons entry rest ih =>
    by_cases h : entry.1 = key
    · simpa [erase, h] using ih
    · simpa [erase, h, get?] using ih

theorem get?_erase_of_ne (table : Table κ β) {key other : κ} (h : key ≠ other) :
    (table.erase key).get? other = table.get? other := by
  induction table with
  | nil => rfl
  | cons entry rest ih =>
    by_cases hk : entry.1 = key
    · have : entry.1 ≠ other := fun e => h (hk.symm.trans e)
      have skip : Table.erase (entry :: rest) key = Table.erase rest key := by simp [erase, hk]
      rw [skip, ih]
      simp [get?, this]
    · have keep : Table.erase (entry :: rest) key = entry :: Table.erase rest key := by
        simp [erase, hk]
      rw [keep]
      simp only [get?]
      rw [ih]

end Table

end Accounts
