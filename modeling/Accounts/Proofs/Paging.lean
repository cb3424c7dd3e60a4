import Mathlib.Data.List.Sort
import Accounts.Proofs.History
import Accounts.Proofs.TwoRuns

/-!
# Reading through all users

Users are listed in pages. Whoever asks for the first page from id 1 on, and for every other one
from behind the last user of the page before, until a page comes that is not full, has read through
all users once, in the order of their ids, however long the pages are
(`users_read_through_pages`). In between anything may happen, as long as nobody is made a user.

A page is described by what is on it (`Store.IsPage`), not by how it is cut out of the table. So
the argument about the whole run needs to know of one page only that it goes without a gap from the
id that was asked for to its last user, or to the end (`Continues`).
-/

namespace Accounts

open Op

/-! ## One page -/

namespace Store

/-- The users with the smallest ids from an id on, up to so many. -/
structure IsPage (s : Store) (fromId count : Int) (page : List User) : Prop where
  stored : ∀ user ∈ page, s.users.get? user.id = some user
  reached : ∀ user ∈ page, fromId ≤ user.id
  increasing : page.Pairwise (·.id < ·.id)
  length : page.length ≤ count
  /-- Whoever is left out has a greater id than all on the page, and found no room. -/
  smallest : ∀ id ∈ s.users.keys, fromId ≤ id →
    (∃ user ∈ page, user.id = id) ∨ page.length = count ∧ ∀ user ∈ page, user.id < id

variable {s : Store}

/-- The ids from one on, in order. -/
def idsFrom (s : Store) (fromId : Int) : List Int := (s.users.keys.filter (fromId ≤ ·)).mergeSort

theorem mem_idsFrom {fromId id : Int} :
    id ∈ s.idsFrom fromId ↔ id ∈ s.users.keys ∧ fromId ≤ id := by
  rw [idsFrom, List.mem_mergeSort, List.mem_filter, decide_eq_true_iff]

theorem Sound.idsFrom_increasing (hs : s.Sound) (fromId : Int) :
    (s.idsFrom fromId).Pairwise (· < ·) := by
  have hsorted : (s.idsFrom fromId).Pairwise (· ≤ ·) := List.pairwise_mergeSort' (· ≤ ·) _
  have hnodup : (s.idsFrom fromId).Nodup :=
    (List.mergeSort_perm ..).nodup_iff.mpr (hs.users_unique.sublist List.filter_sublist)
  exact (hsorted.and hnodup).imp fun h => lt_of_le_of_ne h.1 h.2

/-- What is listed is a page. -/
theorem Sound.listUsers_isPage (hs : s.Sound) (fromId : Int) {count : Int} (hcount : 0 ≤ count) :
    s.IsPage fromId count (s.listUsers fromId count) := by
  obtain ⟨n, rfl⟩ := Int.eq_ofNat_of_zero_le hcount
  let ids := s.idsFrom fromId
  have hlist : s.listUsers fromId n = (ids.take n).filterMap s.users.get? := rfl
  have hfound : ∀ id ∈ ids, ∃ user, s.users.get? id = some user ∧ user.id = id := by
    intro id hid
    obtain ⟨user, huser⟩ := Table.mem_keys_iff.mp (mem_idsFrom.mp hid).1
    exact ⟨user, huser, (hs.user_id huser).1⟩
  have hmap : (s.listUsers fromId n).map (·.id) = ids.take n := by
    rw [hlist, List.map_filterMap]
    refine (List.filterMap_congr fun id hid => ?_).trans List.filterMap_some
    obtain ⟨user, huser, hsame⟩ := hfound id (List.mem_of_mem_take hid)
    rw [huser, Option.map_some, hsame]
  have hlength : (s.listUsers fromId n).length = (ids.take n).length := by
    rw [← hmap, List.length_map]
  have hsorted : (ids.take n ++ ids.drop n).Pairwise (· < ·) := by
    rw [List.take_append_drop]
    exact hs.idsFrom_increasing fromId
  obtain ⟨htaken, -, hbehind⟩ := List.pairwise_append.mp hsorted
  have hmem : ∀ user ∈ s.listUsers fromId n,
      s.users.get? user.id = some user ∧ user.id ∈ ids.take n := by
    intro user huser
    obtain ⟨id, hid, hget⟩ := List.mem_filterMap.mp (hlist ▸ huser)
    obtain rfl := (hs.user_id hget).1
    exact ⟨hget, hid⟩
  refine ⟨fun user huser => (hmem user huser).1, fun user huser => ?_, ?_, ?_, ?_⟩
  · exact (mem_idsFrom.mp (List.mem_of_mem_take (hmem user huser).2)).2
  · rw [← hmap, List.pairwise_map] at htaken
    exact htaken
  · rw [hlength, List.length_take]
    omega
  · intro id hkey hfrom
    have hid : id ∈ ids.take n ++ ids.drop n := by
      rw [List.take_append_drop]
      exact mem_idsFrom.mpr ⟨hkey, hfrom⟩
    rcases List.mem_append.mp hid with htake | hdrop
    · exact Or.inl (List.mem_map.mp (hmap ▸ htake))
    · refine Or.inr ⟨?_, fun other hother => hbehind _ (hmem other hother).2 id hdrop⟩
      have hleft : 0 < ids.length - n := List.length_drop ▸ List.length_pos_of_mem hdrop
      rw [hlength, List.length_take]
      omega

end Store

namespace Users

variable {w : World} {s : Store} {caller : Caller} {fromId count : Int}

/-- A caller who may gets the page, as long as a slot can be had. -/
theorem list_exec (hw : w.At w.now s) (hpermits : s.Permits caller .users .read [])
    (hfree : w.slots.isFree = true) (hfrom : 1 ≤ fromId) (hcount : 1 ≤ count)
    (hmax : count ≤ maxCount) :
    ∃ cache, (list caller fromId count).exec w
      = (.ok (s.listUsers fromId count), { w with cache }) := by
  have hbounds : (pageComplaints fromId count).isEmpty = true := by
    rw [pageComplaints, if_neg (by omega), if_pos ⟨by omega, hmax⟩]
    rfl
  obtain ⟨cache, ⟨hrequire, -⟩ | ⟨-, hdenied⟩, hagrees, -⟩ :=
    require_exec hw (fun _ _ => Or.inl hfree) .users .read []
  · have hw' : World.At { w with cache } w.now s := ⟨rfl, hw.store, hagrees⟩
    unfold list
    dsimp only
    rw [hbounds, if_neg (by decide), exec_bind, hrequire]
    exact ⟨cache, readBack_exec hw' hfree _⟩
  · exact absurd hpermits hdenied

/-- The fields that are complained of are those that are out of bounds. -/
theorem mem_pageComplaints {field : String} :
    field ∈ (pageComplaints fromId count).keys ↔
      field = "from" ∧ fromId < 1 ∨ field = "count" ∧ ¬(0 < count ∧ count ≤ maxCount) := by
  unfold pageComplaints Table.keys
  split <;> split <;> simp [*]

/-- Bounds that are wrong are complained of before anything else, each once. -/
theorem list_out_of_bounds (w : World) (caller : Caller)
    (h : fromId < 1 ∨ ¬(0 < count ∧ count ≤ maxCount)) :
    (list caller fromId count).exec w
        = (.error (.service (.invalid (pageComplaints fromId count))), w)
      ∧ (pageComplaints fromId count).Unique := by
  refine ⟨?_, ?_⟩
  · have hsome : (pageComplaints fromId count).isEmpty = false := by
      refine List.isEmpty_eq_false_iff.mpr fun hnone => ?_
      have hfields : ∀ field, field ∉ (pageComplaints fromId count).keys := by
        rw [hnone]
        exact fun _ => List.not_mem_nil
      rcases h with hfrom | hcount
      · exact hfields "from" (mem_pageComplaints.mpr (Or.inl ⟨rfl, hfrom⟩))
      · exact hfields "count" (mem_pageComplaints.mpr (Or.inr ⟨rfl, hcount⟩))
    unfold list
    dsimp only
    rw [hsome]
    rfl
  · unfold pageComplaints Table.Unique Table.keys
    split <;> split <;> simp

end Users

/-! ## Page after page -/

/-- A page that somebody wants, behind whatever goes on before. -/
structure Turn where
  before : List Event
  count : Int

/-- A page that was asked for, and the answer. -/
structure PageRead where
  world : World
  fromId : Int
  count : Int
  answer : Except Failure (List User)

namespace PageRead

def users (page : PageRead) : List User := page.answer.toOption.getD []

/-- A page that is not full is the last one. -/
def IsLast (page : PageRead) : Prop := page.users.length < page.count

instance (page : PageRead) : Decidable page.IsLast := inferInstanceAs (Decidable (_ < _))

/-- Where the next page begins. -/
def next (page : PageRead) : Int := (page.users.getLast?.map (·.id + 1)).getD page.fromId

/-- The page has the users that it should have. -/
def Answered (page : PageRead) : Prop :=
  page.answer = .ok page.users
    ∧ page.world.store.IsPage page.fromId page.count page.users

end PageRead

namespace World

/-- The page that a caller asks for. -/
def page (w : World) (caller : Caller) (fromId count : Int) : PageRead :=
  ⟨w, fromId, count, ((Users.list caller fromId count).exec w).1⟩

/-- Asks for page after page until one is not full. -/
def readThrough (caller : Caller) (w : World) (fromId : Int) : List Turn → List PageRead
  | [] => []
  | turn :: rest =>
    let w := w.run turn.before
    let page := w.page caller fromId turn.count
    page :: if page.IsLast then []
      else (w.step (.call (.listUsers caller fromId turn.count))).readThrough caller page.next rest

end World

/-- Pages that follow one another without a gap: each has the users that it should have, and none
but the last is not full. -/
inductive Continues : Int → List PageRead → Prop
  | stop {fromId : Int} : Continues fromId []
  | last {page : PageRead} : page.Answered → page.IsLast → Continues page.fromId [page]
  | more {page : PageRead} {rest : List PageRead} : page.Answered → 1 ≤ page.count →
      ¬page.IsLast → Continues page.next rest → Continues page.fromId (page :: rest)

section Pages

variable {page : PageRead} {pages : List PageRead} {fromId : Int}

/-- A page that is full ends with the user in front of the next one. -/
theorem PageRead.Answered.of_full (h : page.Answered) (hcount : 1 ≤ page.count)
    (hfull : ¬page.IsLast) :
    (∀ user ∈ page.users, user.id < page.next) ∧ ∃ user ∈ page.users, page.next = user.id + 1 := by
  obtain ⟨-, hpage⟩ := h
  have hsome : page.users ≠ [] := by
    intro hnone
    rw [PageRead.IsLast, hnone, List.length_nil] at hfull
    omega
  obtain ⟨front, last, hlast⟩ := List.eq_nil_or_concat' page.users |>.resolve_left hsome
  have hnext : page.next = last.id + 1 := by
    rw [PageRead.next, hlast, List.getLast?_concat]
    rfl
  have hincreasing := hpage.increasing
  rw [hlast] at hincreasing
  obtain ⟨-, -, hbelow⟩ := List.pairwise_append.mp hincreasing
  rw [hnext, hlast]
  refine ⟨fun user huser => ?_, last, List.mem_append_right _ (List.mem_singleton_self _), rfl⟩
  rcases List.mem_append.mp huser with hfront | hend
  · have := hbelow user hfront last (List.mem_singleton_self _)
    omega
  · rw [List.mem_singleton.mp hend]
    omega

theorem PageRead.Answered.fromId_le_next (h : page.Answered) (hcount : 1 ≤ page.count)
    (hfull : ¬page.IsLast) : page.fromId ≤ page.next := by
  obtain ⟨-, last, hlast, hnext⟩ := h.of_full hcount hfull
  have := h.2.reached last hlast
  omega

theorem Continues.answered (h : Continues fromId pages) : ∀ page ∈ pages, page.Answered := by
  induction h with
  | stop => exact fun _ h => nomatch h
  | last hpage _ => exact List.forall_mem_singleton.mpr hpage
  | more hpage _ _ _ ih => exact List.forall_mem_cons.mpr ⟨hpage, ih⟩

/-- Nobody is on two pages, and the pages are in order. -/
theorem Continues.increasing (h : Continues fromId pages) :
    (pages.flatMap (·.users)).Pairwise (·.id < ·.id)
      ∧ ∀ user ∈ pages.flatMap (·.users), fromId ≤ user.id := by
  induction h with
  | stop => exact ⟨List.Pairwise.nil, fun _ h => nomatch h⟩
  | last hpage _ =>
      rw [List.flatMap_singleton]
      exact ⟨hpage.2.increasing, hpage.2.reached⟩
  | @more page rest hpage hcount hfull _ ih =>
      obtain ⟨hbelow, -⟩ := hpage.of_full hcount hfull
      rw [List.flatMap_cons]
      refine ⟨List.pairwise_append.mpr
        ⟨hpage.2.increasing, ih.1, fun user huser other hother => ?_⟩, fun user huser => ?_⟩
      · exact (hbelow user huser).trans_le (ih.2 other hother)
      · rcases List.mem_append.mp huser with hhere | hrest
        · exact hpage.2.reached user hhere
        · exact (hpage.fromId_le_next hcount hfull).trans (ih.2 user hrest)

/-- Once a page was not full, nobody from the first id on is left out. -/
theorem Continues.complete (h : Continues fromId pages) {ids : List Int}
    (hids : ∀ page ∈ pages, ids ⊆ page.world.store.users.keys)
    (hlast : ∃ page ∈ pages, page.IsLast) {id : Int} (hid : id ∈ ids) (hfrom : fromId ≤ id) :
    ∃ user ∈ pages.flatMap (·.users), user.id = id := by
  induction h with
  | stop =>
      obtain ⟨page, hmem, -⟩ := hlast
      cases hmem
  | @last page hpage hshort =>
      rw [List.flatMap_singleton]
      have hkey := hids page (List.mem_singleton_self _) hid
      refine (hpage.2.smallest id hkey hfrom).resolve_right fun hroom => ?_
      exact absurd hroom.1 hshort.ne
  | @more page rest hpage hcount hfull _ ih =>
      obtain ⟨-, ender, hender, hnext⟩ := hpage.of_full hcount hfull
      have hkey := hids page List.mem_cons_self hid
      rw [List.flatMap_cons]
      rcases hpage.2.smallest id hkey hfrom with ⟨user, huser, hsame⟩ | ⟨-, hbehind⟩
      · exact ⟨user, List.mem_append_left _ huser, hsame⟩
      · have hlater : page.next ≤ id := by
          have := hbehind ender hender
          omega
        have hlastRest : ∃ page ∈ rest, page.IsLast := by
          obtain ⟨last, hmem, hshort⟩ := hlast
          rcases List.mem_cons.mp hmem with rfl | hrest
          · exact absurd hshort hfull
          · exact ⟨last, hrest, hshort⟩
        obtain ⟨user, huser, hsame⟩ :=
          ih (fun page hmem => hids page (List.mem_cons_of_mem _ hmem)) hlastRest hlater
        exact ⟨user, List.mem_append_right _ huser, hsame⟩

/-- As long as no page was the last one, every page has somebody on it. -/
theorem Continues.length_le (h : Continues fromId pages) (hnone : ¬∃ page ∈ pages, page.IsLast) :
    pages.length ≤ (pages.flatMap (·.users)).length := by
  induction h with
  | stop => exact Nat.le_refl 0
  | last _ hshort => exact absurd ⟨_, List.mem_singleton_self _, hshort⟩ hnone
  | more hpage hcount hfull _ ih =>
      obtain ⟨-, ender, hender, -⟩ := hpage.of_full hcount hfull
      have hhere := List.length_pos_of_mem hender
      have hrest := ih fun ⟨page, hmem, hshort⟩ => hnone ⟨page, List.mem_cons_of_mem _ hmem, hshort⟩
      rw [List.flatMap_cons, List.length_append, List.length_cons]
      omega

end Pages

/-! ## Everybody -/

namespace World

variable {w : World} {caller : Caller}

/-- Whoever may gets the page that was asked for. -/
theorem Settled.page_answered (h : w.Settled) {fromId count : Int}
    (hpermits : w.store.Permits caller .users .read []) (hfree : w.slots.isFree = true)
    (hfrom : 1 ≤ fromId) (hcount : 1 ≤ count) (hmax : count ≤ Users.maxCount) :
    (w.page caller fromId count).Answered := by
  have hanswer : (w.page caller fromId count).answer = .ok (w.store.listUsers fromId count) := by
    obtain ⟨cache, hexec⟩ := Users.list_exec h.at_store hpermits hfree hfrom hcount hmax
    exact congrArg Prod.fst hexec
  have husers : (w.page caller fromId count).users = w.store.listUsers fromId count := by
    rw [PageRead.users, hanswer]
    rfl
  unfold PageRead.Answered
  rw [hanswer, husers]
  exact ⟨rfl, h.sound.listUsers_isPage fromId (Int.le_trans Int.one_nonneg hcount)⟩

/-- Pages that somebody reads who may follow one another without a gap. -/
theorem Settled.readThrough_continues (h : w.Settled) {turns : List Turn} {fromId : Int}
    (hfrom : 1 ≤ fromId) (hturns : ∀ turn ∈ turns, 1 ≤ turn.count ∧ turn.count ≤ 50)
    (hmay : ∀ page ∈ w.readThrough caller fromId turns,
      page.world.store.Permits caller .users .read [] ∧ page.world.slots.isFree = true) :
    Continues fromId (w.readThrough caller fromId turns) := by
  induction turns generalizing w fromId with
  | nil => exact .stop
  | cons turn rest ih =>
      have hrun := h.run turn.before
      obtain ⟨hcount, hmax⟩ := hturns turn List.mem_cons_self
      obtain ⟨hpermits, hfree⟩ := hmay _ List.mem_cons_self
      have hpage := hrun.page_answered hpermits hfree hfrom hcount hmax
      rw [readThrough] at hmay ⊢
      split
      · exact .last hpage ‹_›
      · rename_i hfull
        rw [if_neg hfull] at hmay
        refine .more hpage hcount hfull (ih (hrun.step _) ?_ ?_ ?_)
        · exact hfrom.trans (hpage.fromId_le_next hcount hfull)
        · exact fun turn hmem => hturns turn (List.mem_cons_of_mem _ hmem)
        · exact fun page hmem => hmay page (List.mem_cons_of_mem _ hmem)

/-- Nobody is taken away between the pages. -/
theorem Settled.keys_readThrough (h : w.Settled) {turns : List Turn} {fromId : Int} :
    ∀ page ∈ w.readThrough caller fromId turns,
      w.store.users.keys ⊆ page.world.store.users.keys := by
  have hrun : ∀ {w : World}, w.Settled → ∀ events,
      w.store.users.keys ⊆ (w.run events).store.users.keys := by
    intro w h events id hid
    obtain ⟨user, huser⟩ := Table.mem_keys_iff.mp hid
    obtain ⟨later, hlater, -⟩ := h.user_run huser events
    exact Table.mem_keys_iff.mpr ⟨later, hlater⟩
  induction turns generalizing w fromId with
  | nil => exact fun _ h => nomatch h
  | cons turn rest ih =>
      rw [readThrough]
      refine List.forall_mem_cons.mpr ⟨hrun h turn.before, fun page hpage => ?_⟩
      split at hpage
      · cases hpage
      · have hnext := h.run (turn.before ++ [.call (.listUsers caller fromId turn.count)])
        have hkept := hrun h (turn.before ++ [.call (.listUsers caller fromId turn.count)])
        rw [run_concat] at hnext hkept
        exact fun id hid => ih hnext page hpage (hkept hid)

/-- As long as nothing else goes on, every page is read from the same store. -/
theorem Settled.readThrough_undisturbed (h : w.Settled) {turns : List Turn} {fromId : Int}
    (hpermits : w.store.Permits caller .users .read []) (hfree : w.slots.isFree = true)
    (hfrom : 1 ≤ fromId) (hturns : ∀ turn ∈ turns, 1 ≤ turn.count ∧ turn.count ≤ 50)
    (hquiet : ∀ turn ∈ turns, turn.before = []) :
    ∀ page ∈ w.readThrough caller fromId turns,
      page.world.store = w.store ∧ page.world.slots = w.slots := by
  induction turns generalizing w fromId with
  | nil => exact fun _ h => nomatch h
  | cons turn rest ih =>
      obtain ⟨hcount, hmax⟩ := hturns turn List.mem_cons_self
      rw [readThrough, hquiet turn List.mem_cons_self]
      refine List.forall_mem_cons.mpr ⟨⟨rfl, rfl⟩, ?_⟩
      split
      · exact fun _ h => nomatch h
      · rename_i hfull
        obtain ⟨cache, hexec⟩ := Users.list_exec h.at_store hpermits hfree hfrom hcount hmax
        have hstep : w.step (.call (.listUsers caller fromId turn.count)) = { w with cache } :=
          congrArg Prod.snd hexec
        have hnext := (h.page_answered hpermits hfree hfrom hcount hmax).fromId_le_next hcount hfull
        have hsettled : Settled { w with cache } := hstep ▸ h.step _
        rw [World.run, List.foldl_nil, hstep]
        exact ih hsettled hpermits hfree (hfrom.trans hnext)
          (fun turn hmem => hturns turn (List.mem_cons_of_mem _ hmem))
          fun turn hmem => hquiet turn (List.mem_cons_of_mem _ hmem)

/-- Every turn is taken, unless a page is the last one. -/
theorem readThrough_length {fromId : Int} {turns : List Turn}
    (h : ¬∃ page ∈ w.readThrough caller fromId turns, page.IsLast) :
    (w.readThrough caller fromId turns).length = turns.length := by
  induction turns generalizing w fromId with
  | nil => rfl
  | cons turn rest ih =>
      rw [readThrough] at h ⊢
      split at h
      · exact absurd ⟨_, List.mem_cons_self, ‹_›⟩ h
      · rename_i hfull
        rw [if_neg hfull, List.length_cons, List.length_cons, ih]
        exact fun ⟨page, hmem, hshort⟩ => h ⟨page, List.mem_cons_of_mem _ hmem, hshort⟩

end World

/-- **Paging visits everybody once.** Somebody asks for a page from id 1 on, then for one from
behind the last user of the page before, and so on, for 1 to 50 users each time, until a page is
not full;
whatever goes on in between, nobody is made a user, and at every page the caller may list users and
a slot can be had. Then every page is answered: it has the users with the smallest ids from the one
that was asked for on, up to the count. Nobody stands on the pages twice, and the users are in order
of their ids; sooner or later a page is not full, and then everybody was on one of them, as
the user's row was at that time. Bounds that are wrong are refused, by the names of those that are,
before anything else is looked at. -/
theorem users_read_through_pages {w : World} (hw : w.Reachable) (caller : Caller)
    (turns : List Turn) (hturns : ∀ turn ∈ turns, 1 ≤ turn.count ∧ turn.count ≤ 50)
    (hmay : ∀ page ∈ w.readThrough caller 1 turns,
      page.world.store.Permits caller .users .read [] ∧ page.world.slots.isFree = true)
    (hnobody : ∀ page ∈ w.readThrough caller 1 turns,
      page.world.store.users.keys ⊆ w.store.users.keys) :
    let pages := w.readThrough caller 1 turns
    let read := pages.flatMap (·.users)
    (∀ page ∈ pages, page.answer = .ok page.users
        ∧ page.world.store.IsPage page.fromId page.count page.users)
      ∧ read.Pairwise (·.id < ·.id)
      ∧ (w.store.users.length < turns.length → ∃ page ∈ pages, page.IsLast)
      ∧ ((∃ page ∈ pages, page.IsLast) →
        (∀ id, (∃ user ∈ read, user.id = id) ↔ id ∈ w.store.users.keys)
          ∧ ((∀ page ∈ pages, page.world.store.users = w.store.users) →
            ∀ user, user ∈ read ↔ user ∈ w.store.users.values))
      ∧ ∀ (w : World) (caller : Caller) (fromId count : Int),
        (fromId < 1 ∨ ¬(0 < count ∧ count ≤ 50)) →
        ∃ complaints : Table String (List String),
          (Users.list caller fromId count).exec w = (.error (.service (.invalid complaints)), w)
            ∧ complaints.keys.Nodup
            ∧ ∀ field, field ∈ complaints.keys ↔
              field = "from" ∧ fromId < 1 ∨ field = "count" ∧ ¬(0 < count ∧ count ≤ 50) := by
  intro pages read
  have hreads : Continues 1 pages := hw.settled.readThrough_continues (le_refl 1) hturns hmay
  obtain ⟨hincreasing, -⟩ := hreads.increasing
  have hstored : ∀ user ∈ read, ∃ page ∈ pages,
      page.world.store.users.get? user.id = some user := by
    intro user huser
    obtain ⟨page, hpage, hon⟩ := List.mem_flatMap.mp huser
    exact ⟨page, hpage, (hreads.answered page hpage).2.stored user hon⟩
  have hkeys : ∀ user ∈ read, user.id ∈ w.store.users.keys := by
    intro user huser
    obtain ⟨page, hpage, hget⟩ := hstored user huser
    exact hnobody page hpage (Table.mem_keys_iff.mpr ⟨user, hget⟩)
  refine ⟨hreads.answered, hincreasing, fun hlong => ?_, fun hlast => ?_,
    fun w caller fromId count hbounds => ?_⟩
  · by_contra hnone
    have hids : (read.map (·.id)).Nodup :=
      (List.pairwise_map.mpr hincreasing).imp fun h => h.ne
    have hsubset : read.map (·.id) ⊆ w.store.users.keys := by
      intro id hid
      obtain ⟨user, huser, rfl⟩ := List.mem_map.mp hid
      exact hkeys user huser
    have hle := (List.subperm_of_subset hids hsubset).length_le
    have hpages : turns.length ≤ read.length :=
      World.readThrough_length hnone ▸ hreads.length_le hnone
    rw [List.length_map, Table.keys, List.length_map] at hle
    omega
  · have hall : ∀ id, (∃ user ∈ read, user.id = id) ↔ id ∈ w.store.users.keys := by
      intro id
      constructor
      · rintro ⟨user, huser, rfl⟩
        exact hkeys user huser
      · intro hid
        obtain ⟨user, huser⟩ := Table.mem_keys_iff.mp hid
        have hpositive := (hw.settled.sound.user_id huser).2.1
        exact hreads.complete hw.settled.keys_readThrough hlast hid hpositive
    refine ⟨hall, fun hsame user => ?_⟩
    rw [Table.mem_values_iff hw.settled.sound.users_unique]
    constructor
    · intro huser
      obtain ⟨page, hpage, hget⟩ := hstored user huser
      exact ⟨user.id, hsame page hpage ▸ hget⟩
    · rintro ⟨id, hget⟩
      obtain ⟨other, hother, hid⟩ := (hall id).mpr (Table.mem_keys_iff.mpr ⟨user, hget⟩)
      obtain ⟨page, hpage, hfound⟩ := hstored other hother
      rw [hsame page hpage, hid, hget] at hfound
      exact Option.some.inj hfound ▸ hother
  · obtain ⟨hrefused, hunique⟩ := Users.list_out_of_bounds w caller hbounds
    exact ⟨_, hrefused, hunique, fun _ => Users.mem_pageComplaints⟩

/-- Three users are read in pages of two and of one, by one of them. -/
theorem users_read_through_pages_of_three :
    let start : World := ⟨0, .empty, .empty 600 0, ⟨1, 0, true⟩, .start [], []⟩
    let enrolled (id email : String) (address : Email.IsAddress email) : Event :=
      .call (.createOrLink (.google (.text id) email none none none none true) address)
    let w := start.run
      [enrolled "7" "ann@example.com" Email.isAddress_plain,
        enrolled "8" "bob@example.com" ⟨"bob@example.com", by decide +kernel⟩,
        enrolled "9" "eve@example.com" ⟨"eve@example.com", by decide +kernel⟩]
    let ann : Caller := ⟨some 1, some (.text "ann@example.com"), .user 1⟩
    let turns : List Turn := [⟨[], 2⟩, ⟨[], 1⟩, ⟨[], 1⟩, ⟨[], 50⟩]
    let read := (w.readThrough ann 1 turns).flatMap (·.users)
    w.store.users.keys = [1, 2, 3] ∧ read.Pairwise (·.id < ·.id)
      ∧ ∀ user, user ∈ read ↔ user ∈ w.store.users.values := by
  intro start enrolled w ann turns read
  have hw : w.Reachable := ⟨start, _, ⟨rfl, rfl⟩, rfl⟩
  have hturns : ∀ turn ∈ turns, 1 ≤ turn.count ∧ turn.count ≤ 50 := by decide
  have hpermits : w.store.Permits ann .users .read [] := by
    unfold Store.Permits
    decide +kernel
  obtain ⟨hfree, hkeys⟩ : w.slots.isFree = true ∧ w.store.users.keys = [1, 2, 3] := by
    decide +kernel
  have hsame := hw.settled.readThrough_undisturbed hpermits hfree (le_refl 1) hturns (by decide)
  obtain ⟨-, hincreasing, hends, hall, -⟩ := users_read_through_pages hw ann turns hturns
    (fun page hpage => by rw [(hsame page hpage).1, (hsame page hpage).2]; exact ⟨hpermits, hfree⟩)
    fun page hpage => by rw [(hsame page hpage).1]; exact List.Subset.refl _
  have hfew : w.store.users.length < turns.length := by
    have hlength : w.store.users.keys.length = w.store.users.length := List.length_map Prod.fst
    rw [← hlength, hkeys]
    decide
  exact ⟨hkeys, hincreasing, (hall (hends hfew)).2 fun page hpage => by rw [(hsame page hpage).1]⟩

end Accounts
