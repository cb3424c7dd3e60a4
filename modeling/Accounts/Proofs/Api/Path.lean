import Accounts.Api.Server
import Accounts.Proofs.Route.Grammar
import Mathlib.Data.List.Basic

/-!
# The path that routes are looked up by

Before routes are looked up, tabs and line breaks are dropped from a path and the characters that
separate the parts of an address are escaped. No text of a route has an escape in it. So a path
without tabs and carriage returns that is routed at all is taken for a kind of route only if it is a
path of this kind itself (`denotes_of_routedPath`); other paths are taken for what is left of them
(`routedPath_unbroken`). What is left is looked up as it is but for a name, which may have escapes
in it (`ofPath?_routedPath`).
-/

namespace Accounts.Api

open Pattern (IsLine)

/-- What becomes of a character of a path. -/
def escape (c : Char) : List Char :=
  if c = '\t' || c = '\r' || c = '\n' then []
  else if c = '?' then "%3F".toList
  else if c = '#' then "%23".toList
  else if c = '\\' then "%5C".toList
  else [c]

/-- Tabs and line breaks are dropped from paths. -/
def isBreak (c : Char) : Bool := c = '\t' || c = '\r' || c = '\n'

/-- A path without tabs and line breaks. -/
def unbroken (path : List Char) : List Char := path.filter (!isBreak ·)

/-- The characters that are dropped or escaped. -/
def altered : List Char := ['\t', '\r', '\n', '?', '#', '\\']

variable {path line front text : List Char} {c d : Char}

theorem routedPath_eq_flatMap (path : List Char) : routedPath path = path.flatMap escape := rfl

theorem routedPath_cons (c : Char) (path : List Char) :
    routedPath (c :: path) = escape c ++ routedPath path := rfl

theorem routedPath_append (front back : List Char) :
    routedPath (front ++ back) = routedPath front ++ routedPath back :=
  List.flatMap_append

theorem escape_of_isBreak (h : isBreak c = true) : escape c = [] := if_pos h

/-- A character that stays is left as it is or escaped. -/
theorem escape_cases (h : isBreak c = false) : escape c = [c] ∨ ∃ code, escape c = '%' :: code := by
  have hstays : ¬(c = '\t' || c = '\r' || c = '\n') = true := by
    change ¬isBreak c = true
    rw [h]
    exact Bool.false_ne_true
  unfold escape
  rw [if_neg hstays]
  split
  · exact Or.inr ⟨_, rfl⟩
  · split
    · exact Or.inr ⟨_, rfl⟩
    · split
      · exact Or.inr ⟨_, rfl⟩
      · exact Or.inl rfl

/-- The path that is left of a path is what it is taken for. -/
theorem routedPath_unbroken (path : List Char) : routedPath (unbroken path) = routedPath path := by
  induction path with
  | nil => rfl
  | cons c path ih =>
      cases hc : isBreak c with
      | true =>
          rw [routedPath_cons, escape_of_isBreak hc, List.nil_append, ← ih, unbroken,
            List.filter_cons_of_neg (by rw [hc]; exact Bool.false_ne_true)]
          rfl
      | false =>
          rw [routedPath_cons, ← ih, unbroken, List.filter_cons_of_pos (by rw [hc]; rfl)]
          rfl

theorem isBreak_of_not_mem_altered (h : c ∉ altered) : isBreak c = false := by
  cases hc : isBreak c with
  | false => rfl
  | true =>
      simp only [isBreak, Bool.or_eq_true, decide_eq_true_eq] at hc
      refine absurd ?_ h
      rcases hc with (rfl | rfl) | rfl
      all_goals decide

theorem escape_of_not_mem_altered (h : c ∉ altered) : escape c = [c] := by
  simp only [altered, List.mem_cons, List.not_mem_nil, or_false, not_or] at h
  obtain ⟨htab, hreturn, hfeed, hmark, hnumber, hback⟩ := h
  simp [escape, htab, hreturn, hfeed, hmark, hnumber, hback]

/-- Neither what is dropped nor what is escaped is brought in by an escape. -/
theorem not_mem_altered_of_mem_escape (h : d ∈ escape c) : d ∉ altered := by
  by_cases hc : c ∈ altered
  · have hcodes : altered.Forall fun c => (escape c).Forall (· ∉ altered) := by decide
    exact List.forall_iff_forall_mem.mp (List.forall_iff_forall_mem.mp hcodes c hc) d h
  · rw [escape_of_not_mem_altered hc, List.mem_singleton] at h
    exact h ▸ hc

theorem not_mem_routedPath (hc : c ∈ altered) (path : List Char) : c ∉ routedPath path := by
  rw [routedPath_eq_flatMap, List.mem_flatMap]
  rintro ⟨d, -, hmem⟩
  exact not_mem_altered_of_mem_escape hmem hc

/-- A text comes to the routes as it is if nothing in it is dropped or escaped, and only then. -/
theorem routedPath_eq_self_iff : routedPath text = text ↔ ∀ c ∈ text, c ∉ altered := by
  constructor
  · intro h c hmem hc
    exact not_mem_routedPath hc text (h.symm ▸ hmem)
  · intro h
    induction text with
    | nil => rfl
    | cons c text ih =>
        obtain ⟨hc, htext⟩ := List.forall_mem_cons.mp h
        rw [routedPath_cons, escape_of_not_mem_altered hc, ih htext]
        rfl

theorem routedPath_of_isLine (h : IsLine text line) : routedPath line = routedPath text := by
  rcases h with rfl | rfl
  · rfl
  · rw [routedPath_append]
    exact List.append_nil _

/-- What begins with a text without escapes does so before it is escaped. -/
theorem exists_of_routedPath (hpath : ∀ c ∈ path, isBreak c = false) (hfront : '%' ∉ front)
    (h : routedPath path = front ++ text) :
    ∃ rest, path = front ++ rest ∧ routedPath rest = text := by
  induction front generalizing path with
  | nil => exact ⟨path, rfl, h⟩
  | cons c front ih =>
      cases path with
      | nil => cases h
      | cons d path =>
          obtain ⟨hd, hpath⟩ := List.forall_mem_cons.mp hpath
          rw [routedPath_cons] at h
          rcases escape_cases hd with heq | ⟨code, heq⟩
          · rw [heq] at h
            obtain ⟨rfl, htail⟩ := List.cons.inj h
            obtain ⟨rest, rfl, hrest⟩ :=
              ih hpath (fun hmem => hfront (List.mem_cons_of_mem d hmem)) htail
            exact ⟨rest, rfl, hrest⟩
          · rw [heq] at h
            obtain ⟨rfl, -⟩ := List.cons.inj h
            exact absurd List.mem_cons_self hfront

theorem eq_nil_of_routedPath (hpath : ∀ c ∈ path, isBreak c = false) (h : routedPath path = []) :
    path = [] := by
  cases path with
  | nil => rfl
  | cons c path =>
      rw [routedPath_cons] at h
      rcases escape_cases (hpath c List.mem_cons_self) with heq | ⟨code, heq⟩
      · rw [heq] at h
        cases h
      · rw [heq] at h
        cases h

/-- A text without escapes is only come to from itself. -/
theorem eq_of_routedPath (hpath : ∀ c ∈ path, isBreak c = false) (htext : '%' ∉ text)
    (h : IsLine text (routedPath path)) : path = text := by
  rcases h with h | h
  · obtain ⟨rest, rfl, hrest⟩ := exists_of_routedPath hpath htext (h.trans (List.append_nil _).symm)
    obtain rfl : rest = [] :=
      eq_nil_of_routedPath (fun c hc => hpath c (List.mem_append_right text hc)) hrest
    exact List.append_nil text
  · exact absurd (h ▸ List.mem_append_right text List.mem_cons_self)
      (not_mem_routedPath (by decide) path)

/-! ## Paths that are routed -/

/-- Paths that are routed are a slash and a line. -/
theorem isRoutable_iff :
    isRoutable line = true ↔ ∃ path, '\n' ∉ path ∧ IsLine ('/' :: path) line := by
  constructor
  · intro h
    unfold isRoutable at h
    split at h
    · rename_i rest
      simp only [Bool.or_eq_true, Bool.not_eq_true', ← Bool.not_eq_true, Bool.and_eq_true,
        beq_iff_eq, List.contains_iff_mem] at h
      rcases h with hfree | ⟨hlast, hfree⟩
      · exact ⟨rest, hfree, Or.inl rfl⟩
      · refine ⟨rest.dropLast, hfree, Or.inr ?_⟩
        rw [List.cons_append, List.dropLast_append_getLast? '\n' hlast]
    · cases h
  · rintro ⟨path, hfree, rfl | rfl⟩
    · simp [isRoutable, hfree]
    · simp [isRoutable, hfree]

theorem isRoutable_of_isLine (hstart : text.head? = some '/') (hfree : '\n' ∉ text)
    (h : IsLine text line) : isRoutable line = true := by
  obtain ⟨path, rfl⟩ : ∃ path, text = '/' :: path :=
    (List.head?_eq_some_iff.mp hstart).imp fun _ => id
  exact isRoutable_iff.mpr ⟨path, fun hmem => hfree (List.mem_cons_of_mem _ hmem), h⟩

/-! ## What a routed path stands for -/

/-- The texts of a shape. -/
def texts : Shape → List Char
  | .fixed text => text.toList
  | .numbered front back => front.toList ++ back.toList
  | .named front => front.toList

/-- What holds of the texts and of the digits holds of all of a path with a number. -/
theorem forall_mem_numbered {p : Char → Prop} {front back : String} {digits : List Char}
    (htexts : ∀ c ∈ texts (.numbered front back), p c) (hdigits : ∀ c ∈ digits, p c) :
    ∀ c ∈ front.toList ++ (digits ++ back.toList), p c := by
  obtain ⟨hfront, hback⟩ := List.forall_mem_append.mp htexts
  exact List.forall_mem_append.mpr ⟨hfront, List.forall_mem_append.mpr ⟨hdigits, hback⟩⟩

theorem percent_not_mem_texts (kind : RouteKind) : '%' ∉ texts kind.shape := by
  cases kind <;> decide

/-- What becomes of a parameter: names are escaped as they stand in a path. -/
def escapedParam : RouteParam → RouteParam
  | .text name => .text (routedPath name)
  | param => param

/-- A route with its name as it stands in a path. -/
def escapedRoute (route : Route) : Route := ⟨route.kind, escapedParam route.param⟩

/-- What is escaped in a name was part of a name before. -/
theorem name_of_routedPath {name : List Char} (hpath : ∀ c ∈ path, isBreak c = false)
    (h : routedPath path = name) (hne : name ≠ []) (hname : '/' ∉ name) :
    path ≠ [] ∧ '/' ∉ path := by
  constructor
  · rintro rfl
    exact hne h.symm
  · intro hslash
    refine hname ?_
    rw [← h, routedPath_eq_flatMap, List.mem_flatMap]
    exact ⟨'/', hslash, List.mem_cons_self⟩

/-- A path of a shape was one before it was escaped, with the name that was escaped if there is one.
-/
theorem reads_of_routedPath {shape : Shape} {param : RouteParam} (htexts : '%' ∉ texts shape)
    (hpath : ∀ c ∈ path, isBreak c = false) (hline : IsLine path line)
    (h : shape.Reads (routedPath path) param) :
    ∃ param', shape.Reads line param' ∧ escapedParam param' = param := by
  cases shape with
  | fixed text =>
      obtain ⟨hroute⟩ := h
      obtain rfl := eq_of_routedPath hpath htexts hroute
      exact ⟨.absent, .fixed hline, rfl⟩
  | numbered front back =>
      cases h with
      | @numbered _ _ digits _ hne hdigits hlength hvalue hroute =>
          have hplain : ∀ c ∈ front.toList ++ (digits ++ back.toList), c ≠ '%' := by
            refine forall_mem_numbered (fun c hc heq => htexts (heq ▸ hc)) ?_
            rintro _ hdigit rfl
            exact absurd (hdigits '%' hdigit) (by decide)
          obtain rfl := eq_of_routedPath hpath (fun hmem => hplain '%' hmem rfl) hroute
          exact ⟨_, .numbered hne hdigits hlength hvalue hline, rfl⟩
  | named front =>
      generalize hroute : routedPath path = route at h
      cases h with
      | @named _ name hne hname =>
          obtain ⟨rest, rfl, hrest⟩ := exists_of_routedPath hpath htexts hroute
          have hbreaks : ∀ c ∈ rest, isBreak c = false :=
            fun c hc => hpath c (List.mem_append_right _ hc)
          obtain ⟨hne', hname'⟩ := name_of_routedPath hbreaks hrest hne hname
          rcases hline with rfl | rfl
          · exact ⟨_, .named hne' hname', congrArg RouteParam.text hrest⟩
          · have hescaped : routedPath (rest ++ ['\n']) = name :=
              (routedPath_of_isLine (Or.inr rfl)).trans hrest
            rw [List.append_assoc]
            refine ⟨_, .named (List.append_ne_nil_of_left_ne_nil hne' _) fun hmem => ?_,
              congrArg RouteParam.text hescaped⟩
            rcases List.mem_append.mp hmem with hmem | hmem
            · exact hname' hmem
            · exact absurd hmem (by decide)

/-- The route that a path is taken for has the kind of the route that it stands for, if tabs and
carriage returns do not stand in it. -/
theorem denotes_of_routedPath {route : Route} (hroutable : isRoutable line = true)
    (htab : '\t' ∉ line) (hreturn : '\r' ∉ line) (h : Route.Denotes (routedPath line) route) :
    ∃ route', Route.Denotes line route' ∧ route'.kind = route.kind := by
  obtain ⟨path, hfree, hline⟩ := isRoutable_iff.mp hroutable
  have hbreaks : ∀ c ∈ '/' :: path, isBreak c = false := by
    intro c hc
    have hmem : c ∈ line := hline.starts.mem hc
    simp only [isBreak, Bool.or_eq_false_iff, decide_eq_false_iff_not]
    refine ⟨⟨?_, ?_⟩, ?_⟩
    · rintro rfl
      exact htab hmem
    · rintro rfl
      exact hreturn hmem
    · rintro rfl
      exact hfree ((List.mem_cons.mp hc).resolve_left (by decide))
  rw [routedPath_of_isLine hline] at h
  obtain ⟨param, hreads, -⟩ :=
    reads_of_routedPath (percent_not_mem_texts route.kind) hbreaks hline h
  exact ⟨⟨route.kind, param⟩, hreads, rfl⟩

/-! ## Paths that are looked up as they are -/

/-- The text that the paths of a shape begin with. -/
def opening : Shape → List Char
  | .fixed text | .numbered text _ | .named text => text.toList

theorem head_opening (kind : RouteKind) : (opening kind.shape).head? = some '/' := by
  cases kind <;> decide

theorem not_mem_altered_of_mem_texts (kind : RouteKind) :
    ∀ c ∈ texts kind.shape, c ∉ altered := by
  refine List.forall_iff_forall_mem.mp ?_
  cases kind <;> decide

theorem not_mem_altered_of_isDigit (h : Text.isDigit c = true) : c ∉ altered := by
  have hdigits : altered.Forall (Text.isDigit · = false) := by decide
  intro hc
  rw [List.forall_iff_forall_mem.mp hdigits c hc] at h
  exact Bool.false_ne_true h

/-- A path whose name, if it has one, comes to the routes as it is, is a line that does so
itself. -/
theorem exists_line_of_reads {shape : Shape} {param : RouteParam}
    (hopening : (opening shape).head? = some '/') (htexts : ∀ c ∈ texts shape, c ∉ altered)
    (hname : ∀ name, param = .text name → ∀ c ∈ name, c ∉ altered) (h : shape.Reads line param) :
    ∃ text, IsLine text line ∧ text.head? = some '/' ∧ (∀ c ∈ text, c ∉ altered)
      ∧ shape.Reads text param := by
  have hstart : ∀ rest, (opening shape ++ rest).head? = some '/' := by
    intro rest
    rw [List.head?_append, hopening]
    rfl
  cases h with
  | @fixed text _ hline =>
      exact ⟨text.toList, hline, hopening, htexts, .fixed (Or.inl rfl)⟩
  | @numbered front back digits _ hne hdigits hlength hvalue hline =>
      have hplain := forall_mem_numbered htexts
        fun c hc => not_mem_altered_of_isDigit (hdigits c hc)
      exact ⟨_, hline, hstart _, hplain, .numbered hne hdigits hlength hvalue (Or.inl rfl)⟩
  | @named front name hne hslash =>
      have hplain := List.forall_mem_append.mpr ⟨htexts, hname name rfl⟩
      exact ⟨_, Or.inl rfl, hstart name, hplain, .named hne hslash⟩

/-- A name has something left to it unless it is all breaks, and gets no slashes. -/
theorem named_routedPath {name : List Char} (hbreaks : ∀ c ∈ name, isBreak c = false)
    (hne : name ≠ []) (hslash : '/' ∉ name) : routedPath name ≠ [] ∧ '/' ∉ routedPath name := by
  refine ⟨fun hnil => hne (eq_nil_of_routedPath hbreaks hnil), ?_⟩
  rw [routedPath_eq_flatMap, List.mem_flatMap]
  rintro ⟨c, hc, hmem⟩
  by_cases haltered : c ∈ altered
  · have hcodes : altered.Forall ('/' ∉ escape ·) := by decide
    exact List.forall_iff_forall_mem.mp hcodes c haltered hmem
  · rw [escape_of_not_mem_altered haltered, List.mem_singleton] at hmem
    exact hslash (hmem ▸ hc)

/-- A path without tabs and line breaks is of the same shape once it is escaped. -/
theorem reads_routedPath {kind : RouteKind} {param : RouteParam}
    (hpath : ∀ c ∈ path, isBreak c = false) (h : kind.shape.Reads path param) :
    kind.shape.Reads (routedPath path) (escapedParam param) := by
  have hplain : (∀ name, param = .text name → ∀ c ∈ name, c ∉ altered) →
      kind.shape.Reads (routedPath path) param := by
    intro hname
    obtain ⟨text, hline, -, htext, hreads⟩ :=
      exists_line_of_reads (head_opening kind) (not_mem_altered_of_mem_texts kind) hname h
    rwa [routedPath_of_isLine hline, routedPath_eq_self_iff.mpr htext]
  cases param with
  | absent => exact hplain nofun
  | id n => exact hplain nofun
  | text name =>
      have hfront := not_mem_altered_of_mem_texts kind
      generalize kind.shape = shape at h hfront
      cases h with
      | @named front name hne hslash =>
          have hbreaks : ∀ c ∈ name, isBreak c = false :=
            fun c hc => hpath c (List.mem_append_right _ hc)
          obtain ⟨hne', hslash'⟩ := named_routedPath hbreaks hne hslash
          have hfront' : routedPath front.toList = front.toList :=
            routedPath_eq_self_iff.mpr hfront
          rw [routedPath_append, hfront']
          exact .named hne' hslash'

/-- The route that a path is taken for is the one of the path without tabs and line breaks, with its
name escaped. -/
theorem ofPath?_routedPath (path : List Char) :
    Route.ofPath? (routedPath path) = (Route.ofPath? (unbroken path)).map escapedRoute := by
  have hbreaks : ∀ c ∈ unbroken path, isBreak c = false := by
    intro c hc
    have hstays := (List.mem_filter.mp hc).2
    rwa [Bool.not_eq_true'] at hstays
  rw [← routedPath_unbroken]
  refine Option.ext fun route => ?_
  rw [Route.ofPath?_eq_some_iff, Option.map_eq_some_iff]
  constructor
  · intro h
    obtain ⟨param, hreads, hparam⟩ :=
      reads_of_routedPath (percent_not_mem_texts route.kind) hbreaks (Or.inl rfl) h
    refine ⟨⟨route.kind, param⟩, Route.ofPath?_eq_some_iff.mpr hreads, ?_⟩
    rw [escapedRoute, hparam]
  · rintro ⟨route', hroute, rfl⟩
    exact reads_routedPath hbreaks (Route.ofPath?_eq_some_iff.mp hroute)

end Accounts.Api
