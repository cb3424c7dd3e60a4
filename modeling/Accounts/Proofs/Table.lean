import Mathlib.Data.List.Nodup
import Accounts.Table

/-!
# Laws of tables

A table is looked up by its first entry for a key, so the laws come in two layers: lookups
after a write (`get?_put`, `get?_erase`), which hold of every table, and the agreement of
lookups with membership (`Unique.get?_iff`), which needs every key to stand once. Writes keep
keys unique, and everything a filter or an erasure leaves was there before.
-/

namespace Accounts

theorem nodup_eraseDups {α : Type} [DecidableEq α] : ∀ l : List α, l.eraseDups.Nodup
  | [] => List.nodup_nil
  | a :: l => by
      rw [List.eraseDups_cons]
      refine List.nodup_cons.mpr ⟨fun hmem => ?_, nodup_eraseDups _⟩
      have hne := (List.mem_filter.mp (List.mem_eraseDups.mp hmem)).2
      rw [beq_self_eq_true] at hne
      cases hne
termination_by l => l.length
decreasing_by exact Nat.lt_succ_of_le (List.length_filter_le _ l)

theorem eraseDups_concat {α : Type} [DecidableEq α] (l : List α) (a : α) :
    (l ++ [a]).eraseDups = if a ∈ l then l.eraseDups else l.eraseDups ++ [a] := by
  rw [List.eraseDups_append]
  split
  · rename_i hmem
    have hall : [a].removeAll l = [] := by simp [List.removeAll, hmem]
    rw [hall, List.eraseDups_nil, List.append_nil]
  · rename_i hmem
    have hnone : [a].removeAll l = [a] := by simp [List.removeAll, hmem]
    rw [hnone]
    rfl

namespace Table

variable {κ β : Type} [DecidableEq κ]

/-! ## Lookups after a write -/

theorem get?_put (t : Table κ β) (key other : κ) (value : β) :
    (t.put key value).get? other = if key = other then some value else t.get? other := by
  split
  case isTrue h => rw [← h, get?_put_self]
  case isFalse h => exact get?_put_of_ne t value h

/-- What is found after a write was written or was found before. -/
theorem get?_put_cases {t : Table κ β} {key other : κ} {value found : β}
    (h : (t.put key value).get? other = some found) :
    other = key ∧ found = value ∨ other ≠ key ∧ t.get? other = some found := by
  rw [get?_put] at h
  split at h
  · rename_i hkey
    exact Or.inl ⟨hkey.symm, (Option.some.inj h).symm⟩
  · rename_i hkey
    exact Or.inr ⟨fun e => hkey e.symm, h⟩

theorem get?_erase (t : Table κ β) (key other : κ) :
    (t.erase key).get? other = if key = other then none else t.get? other := by
  split
  case isTrue h => rw [← h, get?_erase_self]
  case isFalse h => exact get?_erase_of_ne t h

theorem get?_of_get?_erase {t : Table κ β} {key other : κ} {found : β}
    (h : (t.erase key).get? other = some found) : other ≠ key ∧ t.get? other = some found := by
  rw [get?_erase] at h
  split at h
  · cases h
  · rename_i hkey
    exact ⟨fun e => hkey e.symm, h⟩

theorem has_eq_false {t : Table κ β} {key : κ} : t.has key = false ↔ t.get? key = none := by
  simp [has]

theorem has_eq_true {t : Table κ β} {key : κ} :
    t.has key = true ↔ ∃ value, t.get? key = some value := by
  simp [has, Option.isSome_iff_exists]

theorem eq_nil_of_get? {t : Table κ β} (h : ∀ key, t.get? key = none) : t = [] := by
  cases t with
  | nil => rfl
  | cons entry rest =>
      have hfirst := h entry.1
      rw [get?, if_pos rfl] at hfirst
      cases hfirst

/-! ## Members -/

theorem mem_of_get? {t : Table κ β} {key : κ} {value : β} (h : t.get? key = some value) :
    (key, value) ∈ t := by
  induction t with
  | nil => cases h
  | cons entry rest ih =>
      obtain ⟨k, v⟩ := entry
      rw [get?] at h
      split at h
      · rename_i hk
        subst hk
        cases h
        exact List.mem_cons_self ..
      · exact List.mem_cons_of_mem _ (ih h)

theorem mem_erase {t : Table κ β} {key : κ} {entry : κ × β} :
    entry ∈ t.erase key ↔ entry ∈ t ∧ entry.1 ≠ key := by
  simp [erase, List.mem_filter]

theorem mem_put {t : Table κ β} {key : κ} {value : β} {entry : κ × β}
    (h : entry ∈ t.put key value) : entry = (key, value) ∨ entry ∈ t := by
  induction t with
  | nil => exact Or.inl (List.mem_singleton.mp h)
  | cons first rest ih =>
      obtain ⟨k, old⟩ := first
      rw [put] at h
      split at h
      · rename_i hk
        subst hk
        rcases List.mem_cons.mp h with heq | hmem
        · exact Or.inl heq
        · exact Or.inr (List.mem_cons_of_mem _ hmem)
      · rcases List.mem_cons.mp h with heq | hmem
        · exact Or.inr (heq ▸ List.mem_cons_self ..)
        · exact (ih hmem).imp_right (List.mem_cons_of_mem _)

/-- A key that is not there is put at the end. -/
theorem put_of_get?_none {t : Table κ β} {key : κ} (h : t.get? key = none) (value : β) :
    t.put key value = t ++ [(key, value)] := by
  induction t with
  | nil => rfl
  | cons entry rest ih =>
      obtain ⟨k, old⟩ := entry
      rw [get?] at h
      split at h
      · cases h
      · rename_i hk
        rw [put, if_neg hk, ih h, List.cons_append]

/-- A value that is replaced by one that looks the same leaves the look of the table. -/
theorem map_put_of_get? {γ : Type} {t : Table κ β} {key : κ} {old value : β} (f : κ × β → γ)
    (h : t.get? key = some old) (hf : f (key, value) = f (key, old)) :
    List.map f (t.put key value) = List.map f t := by
  induction t with
  | nil => cases h
  | cons entry rest ih =>
      obtain ⟨k, v⟩ := entry
      rw [get?] at h
      rw [put]
      split at h
      · rename_i hk
        subst hk
        obtain rfl := Option.some.inj h
        rw [if_pos rfl, List.map_cons, List.map_cons, hf]
      · rename_i hk
        rw [if_neg hk, List.map_cons, List.map_cons, ih h]

/-- A filter leaves the entry for a key that passes it. -/
theorem get?_filter_of_pos {t : Table κ β} {key : κ} {value : β} (h : t.get? key = some value)
    {p : κ × β → Bool} (hp : p (key, value) = true) :
    Table.get? (List.filter p t) key = some value := by
  induction t with
  | nil => cases h
  | cons entry rest ih =>
      obtain ⟨k, v⟩ := entry
      rw [get?] at h
      rw [List.filter_cons]
      split at h
      · rename_i hk
        subst hk
        obtain rfl := Option.some.inj h
        rw [if_pos hp, get?, if_pos rfl]
      · rename_i hk
        split
        · rw [get?, if_neg hk]
          exact ih h
        · exact ih h

/-! ## Unique keys -/

omit [DecidableEq κ] in
theorem mem_keys_of_mem {t : Table κ β} {key : κ} {value : β} (h : (key, value) ∈ t) :
    key ∈ t.keys :=
  List.mem_map.mpr ⟨_, h, rfl⟩

/-- Every key stands once. -/
def Unique (t : Table κ β) : Prop := t.keys.Nodup

omit [DecidableEq κ] in
theorem unique_nil : Unique ([] : Table κ β) := List.nodup_nil

theorem keys_put (t : Table κ β) (key : κ) (value : β) :
    (t.put key value).keys = if key ∈ t.keys then t.keys else t.keys ++ [key] := by
  induction t with
  | nil => simp [put, keys]
  | cons entry rest ih =>
      obtain ⟨k, old⟩ := entry
      rw [put]
      split
      · rename_i hk
        simp [keys, hk]
      · rename_i hk
        have hkey : key ∈ keys ((k, old) :: rest) ↔ key ∈ keys rest := by
          rw [keys, List.map_cons, List.mem_cons, or_iff_right fun h => hk h.symm, keys]
        have hcons : keys ((k, old) :: put rest key value) = k :: keys (put rest key value) := rfl
        rw [hcons, ih, if_congr hkey rfl rfl]
        split <;> rfl

theorem Unique.put {t : Table κ β} (h : t.Unique) (key : κ) (value : β) :
    (t.put key value).Unique := by
  unfold Unique
  rw [keys_put]
  split
  · exact h
  · rename_i hkey
    exact List.nodup_append.mpr ⟨h, List.nodup_singleton _, fun a ha b hb =>
      fun heq => hkey (List.mem_singleton.mp hb ▸ heq ▸ ha)⟩

omit [DecidableEq κ] in
theorem Unique.filter {t : Table κ β} (h : t.Unique) (p : κ × β → Bool) :
    Unique (List.filter p t) :=
  (List.filter_sublist.map Prod.fst).nodup h

theorem Unique.erase {t : Table κ β} (h : t.Unique) (key : κ) : (t.erase key).Unique :=
  h.filter _

/-- With unique keys, looking up is membership. -/
theorem Unique.get?_iff {t : Table κ β} (h : t.Unique) {key : κ} {value : β} :
    t.get? key = some value ↔ (key, value) ∈ t := by
  refine ⟨mem_of_get?, fun hmem => ?_⟩
  induction t with
  | nil => cases hmem
  | cons entry rest ih =>
      obtain ⟨k, v⟩ := entry
      obtain ⟨hk, hrest⟩ := List.nodup_cons.mp h
      rw [get?]
      rcases List.mem_cons.mp hmem with heq | hin
      · cases heq
        rw [if_pos rfl]
      · rw [if_neg, ih hrest hin]
        rintro rfl
        exact hk (mem_keys_of_mem hin)

theorem mem_values_iff {t : Table κ β} (h : t.Unique) {value : β} :
    value ∈ t.values ↔ ∃ key, t.get? key = some value := by
  simp only [values, List.mem_map, h.get?_iff]
  constructor
  · rintro ⟨entry, hmem, rfl⟩
    exact ⟨entry.1, hmem⟩
  · rintro ⟨key, hmem⟩
    exact ⟨_, hmem, rfl⟩

theorem Unique.get?_filter {t : Table κ β} (h : t.Unique) (p : κ × β → Bool) (key : κ) :
    get? (List.filter p t) key = (t.get? key).filter fun value => p (key, value) := by
  refine Option.ext fun value => ?_
  rw [(h.filter p).get?_iff, Option.filter_eq_some_iff, h.get?_iff, List.mem_filter]

/-- Erasing a key takes its one entry from every count. -/
theorem Unique.countP_erase {t : Table κ β} (h : t.Unique) {key : κ} {value : β}
    (hget : t.get? key = some value) (p : κ × β → Bool) :
    t.countP p = (t.erase key).countP p + if p (key, value) then 1 else 0 := by
  induction t with
  | nil => cases hget
  | cons entry rest ih =>
      obtain ⟨k, v⟩ := entry
      obtain ⟨hk, hrest⟩ := List.nodup_cons.mp h
      rw [get?] at hget
      split at hget
      · rename_i heq
        subst heq
        obtain rfl := Option.some.inj hget
        have hskip : Table.erase ((k, v) :: rest) k = rest := by
          simp only [Table.erase, ne_eq, decide_not, List.filter_cons, decide_true, Bool.not_true,
            Bool.false_eq_true, if_false]
          exact List.filter_eq_self.mpr fun a ha => by
            have : a.1 ≠ k := fun e => hk (e ▸ mem_keys_of_mem (show (a.1, a.2) ∈ rest from ha))
            simpa using this
        rw [hskip, List.countP_cons]
      · rename_i hne
        have hkeep : Table.erase ((k, v) :: rest) key = (k, v) :: Table.erase rest key := by
          simp [Table.erase, hne]
        rw [hkeep, List.countP_cons, List.countP_cons, ih hrest hget]
        omega

/-! ## The keys of some values -/

omit [DecidableEq κ] in
/-- The keys whose values pass a test, in the order in which they came. -/
def keysWhere (t : Table κ β) (p : β → Bool) : List κ := keys (List.filter (fun e => p e.2) t)

theorem Unique.mem_keysWhere {t : Table κ β} (h : t.Unique) {p : β → Bool} {key : κ} :
    key ∈ t.keysWhere p ↔ ∃ value, t.get? key = some value ∧ p value = true := by
  simp only [keysWhere, keys, List.mem_map, List.mem_filter, h.get?_iff]
  constructor
  · rintro ⟨entry, ⟨hmem, hp⟩, rfl⟩
    exact ⟨entry.2, hmem, hp⟩
  · rintro ⟨value, hmem, hp⟩
    exact ⟨(key, value), ⟨hmem, hp⟩, rfl⟩

omit [DecidableEq κ] in
theorem Unique.nodup_keysWhere {t : Table κ β} (h : t.Unique) (p : β → Bool) :
    (t.keysWhere p).Nodup :=
  h.filter _

/-- A value that fails the test takes its key out. -/
theorem keysWhere_put {t : Table κ β} (h : t.Unique) {p : β → Bool} (key : κ) {value : β}
    (hp : p value = false) : (t.put key value).keysWhere p = (t.keysWhere p).erase key := by
  induction t with
  | nil => simp [put, keysWhere, keys, hp]
  | cons entry rest ih =>
      obtain ⟨k, old⟩ := entry
      obtain ⟨hk, hrest⟩ := List.nodup_cons.mp h
      simp only [keysWhere, keys] at ih hk ⊢
      by_cases heq : k = key
      · subst heq
        have hout : k ∉ (List.filter (fun e => p e.2) rest).map Prod.fst :=
          fun hmem => hk ((List.filter_sublist.map Prod.fst).subset hmem)
        by_cases hold : p old = true
        · simp [put, hp, hold]
        · simp only [put, if_true, List.filter_cons, hp, hold, Bool.false_eq_true, if_false]
          rw [List.erase_of_not_mem hout]
      · by_cases hold : p old = true
        · simp [put, heq, hold, ih hrest]
        · simp [put, heq, hold, ih hrest]

/-- A key that is new comes last. -/
theorem keysWhere_put_new {t : Table κ β} {key : κ} (h : t.get? key = none) (p : β → Bool)
    (value : β) :
    (t.put key value).keysWhere p = t.keysWhere p ++ if p value then [key] else [] := by
  rw [put_of_get?_none h, keysWhere, List.filter_append, keys, List.map_append]
  by_cases hp : p value = true <;> simp [keysWhere, keys, hp]

theorem mem_keys_iff {t : Table κ β} {key : κ} :
    key ∈ t.keys ↔ ∃ value, t.get? key = some value := by
  induction t with
  | nil => simp [keys, get?]
  | cons entry rest ih =>
      obtain ⟨k, old⟩ := entry
      simp only [keys, List.map_cons, List.mem_cons, get?] at ih ⊢
      by_cases hk : k = key
      · simp [hk]
      · rw [if_neg hk, ← ih, or_iff_right fun h => hk h.symm]

end Table

end Accounts
