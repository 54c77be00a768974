/-
The paths that a router is given, and which of them are well formed.

A segment is literal text, or a colon with a name behind it; neither has
an asterisk (`Segment`). So a path is well formed just if it has no
asterisk and no segment that is a colon by itself (`formed_iff`).

Route paths are checked for both, base paths for the asterisk only. What
a router is given are the two put together, and its segments are those of
both (`formed_append`), so the gap in the one check is all there is: the
paths of a controller are well formed exactly if its base path has no
colon by itself. Where it has one, every path of the controller has it.
No router takes such a path (`ofPath?_eq_none_of_nameless`), so the
controller cannot be planned; but the fault is not reported, the program
stops.
-/
import Mathlib.Data.List.TakeWhile
import TableApi.Proofs.Routing.MountRecord

namespace TableApi

namespace Routing

namespace Path

-- ============================================================== segments

/-- What a segment can be: literal text, or a colon with a name. -/
inductive Segment : List Char → Prop
  | literal {s : List Char} (hcolon : s.head? ≠ some ':') (hstar : '*' ∉ s) : Segment s
  | parameter {name : List Char} (hname : name ≠ []) (hstar : '*' ∉ name) : Segment (':' :: name)

/-- Every segment of the path is one. -/
def Formed (path : String) : Prop := ∀ s ∈ segments path, Segment s

/-- A colon without a name stands between two slashes or at an end. -/
def Nameless (path : String) : Prop := [':'] ∈ segments path

instance decidableNameless (path : String) : Decidable (Nameless path) :=
  inferInstanceAs (Decidable ([':'] ∈ segments path))

/-- A segment has no asterisk and is no colon by itself. -/
theorem segment_iff {s : List Char} : Segment s ↔ '*' ∉ s ∧ s ≠ [':'] := by
  constructor
  · intro h
    cases h with
    | literal hcolon hstar =>
        refine ⟨hstar, ?_⟩
        rintro rfl
        exact hcolon rfl
    | parameter hname hstar => simp [hname, hstar]
  · intro ⟨hstar, hname⟩
    cases s with
    | nil => exact .literal nofun hstar
    | cons c name =>
        by_cases hc : c = ':'
        · subst hc
          exact .parameter (fun hnil => hname (hnil ▸ rfl))
            (fun hmem => hstar (List.mem_cons_of_mem _ hmem))
        · exact .literal (fun hhead => hc (Option.some.inj hhead)) hstar

/-- What is asked of the segments of a route path. -/
theorem isSegment_iff {s : List Char} : isSegment s = true ↔ Segment s := by
  have hname : parameter? s = some [] ↔ s = [':'] := by
    unfold parameter?
    split <;> simp_all
  rw [segment_iff, isSegment, Bool.and_eq_true, Bool.not_eq_true', bne_iff_ne, ne_eq, hname]
  simp

/-- A route path that passes is well formed. -/
theorem formed_of_isRoutePath {path : String} (h : isRoutePath path = true) : Formed path := by
  rw [isRoutePath, Bool.and_eq_true, List.all_eq_true] at h
  exact fun s hs => isSegment_iff.1 (h.2 s hs)

/-- A path is well formed if it has no asterisk and no colon without a name.
-/
theorem formed_iff {path : String} : Formed path ↔ '*' ∉ path.toList ∧ ¬ Nameless path := by
  have hstar : (∃ s ∈ segments path, '*' ∈ s) ↔ '*' ∈ path.toList :=
    Text.exists_mem_splitOn_iff (by decide)
  rw [← hstar]
  simp only [Formed, segment_iff, forall₂_and, Nameless]
  apply and_congr
  · simp
  · exact ⟨fun h hmem => h _ hmem rfl, fun h s hs heq => h (heq ▸ hs)⟩

/-- The segments of a path below another one are those of both. -/
theorem formed_append {base path : String} (hpath : IsRooted path) :
    Formed (base ++ path) ↔ Formed base ∧ Formed path := by
  obtain ⟨ss, hss, hbelow⟩ := hpath.segments
  have hempty : Segment [] := .literal nofun nofun
  unfold Formed
  rw [hbelow, hss, List.forall_mem_append, List.forall_mem_cons, and_iff_right hempty]

/-- A colon without a name is in a path put together if it is in either
part. -/
theorem nameless_append {base path : String} (hpath : IsRooted path) :
    Nameless (base ++ path) ↔ Nameless base ∨ Nameless path := by
  obtain ⟨ss, hss, hbelow⟩ := hpath.segments
  unfold Nameless
  rw [hbelow, hss, List.mem_append, List.mem_cons]
  simp

/-- From a base path slashes are taken at the end, but for the one that is
all there is. -/
theorem normalized_cases (path : String) :
    ∃ slashes : List Char, (∀ c ∈ slashes, c = '/')
      ∧ ((normalized path = "/" ∧ path.toList = slashes)
        ∨ path.toList = (normalized path).toList ++ slashes) := by
  let kept := (path.toList.reverse.dropWhile (· = '/')).reverse
  let slashes := (path.toList.reverse.takeWhile (· = '/')).reverse
  have hparts : path.toList = kept ++ slashes := by
    calc path.toList
        = (path.toList.reverse.takeWhile (· = '/')
            ++ path.toList.reverse.dropWhile (· = '/')).reverse := by
          rw [List.takeWhile_append_dropWhile, List.reverse_reverse]
      _ = kept ++ slashes := List.reverse_append
  refine ⟨slashes, fun c hc => ?_, ?_⟩
  · simpa using List.mem_takeWhile_imp (List.mem_reverse.1 hc)
  · unfold normalized
    by_cases hempty : kept = []
    · rw [if_pos (List.isEmpty_iff.2 hempty)]
      exact .inl ⟨rfl, by rw [hparts, hempty, List.nil_append]⟩
    · rw [if_neg fun h => hempty (List.isEmpty_iff.1 h), String.toList_ofList]
      exact .inr hparts

/-- Taking slashes off the end of a path takes away no colon without a name.
-/
theorem nameless_normalized (path : String) : Nameless (normalized path) ↔ Nameless path := by
  obtain ⟨slashes, hslashes, ⟨hroot, hpath⟩ | hpath⟩ := normalized_cases path
  · rw [hroot]
    apply iff_of_false (by decide)
    intro hname
    unfold Nameless segments at hname
    rw [hpath] at hname
    exact absurd (Text.eq_nil_of_mem_splitOn hslashes _ hname) (List.cons_ne_nil _ _)
  · unfold Nameless segments
    rw [hpath]
    exact (Text.mem_splitOn_append (List.cons_ne_nil _ _) hslashes).symm

/-- Taking slashes off the end of a path puts in no asterisk. -/
theorem star_normalized {path : String} (h : '*' ∉ path.toList) :
    '*' ∉ (normalized path).toList := by
  obtain ⟨slashes, -, ⟨hroot, -⟩ | hpath⟩ := normalized_cases path
  · rw [hroot]
    decide
  · rw [hpath] at h
    exact fun hmem => h (List.mem_append_left _ hmem)

/-- A base path that passes has no asterisk. -/
theorem star_of_isBasePath {path : String} (h : isBasePath path = true) : '*' ∉ path.toList := by
  unfold isBasePath at h
  simp only [Bool.and_eq_true, Bool.not_eq_true', List.contains_eq_mem,
    decide_eq_false_iff_not] at h
  exact h.1.1.2

end Path

-- ============================================================== patterns

namespace Pattern

open Text

/-- One character is refused, or the reading goes on behind it; behind a
slash it is in no parameter. -/
theorem parse?_cons (state : Option (List Char)) (c : Char) (cs : List Char) :
    parse? state (c :: cs) = none
      ∨ ∃ next f, (c = '/' → next = none) ∧ parse? state (c :: cs) = (parse? next cs).map f := by
  cases state with
  | none =>
      by_cases hcolon : c = ':'
      · subst hcolon
        exact .inr ⟨some [], id, nofun, by rw [parse?, Option.map_id]; rfl⟩
      · by_cases hstar : c = '*'
        · exact .inl (by simp [parse?, hstar])
        · exact .inr ⟨none, (.char c :: ·), fun _ => rfl, by simp [parse?, hstar]⟩
  | some name =>
      by_cases hslash : c = '/'
      · subst hslash
        by_cases hname : name.isEmpty = true
        · exact .inl (by simp [parse?, hname])
        · exact .inr ⟨none, (.parameter name.reverse :: .char '/' :: ·), fun _ => rfl,
            by simp [parse?, hname]⟩
      · by_cases hother : c = ':' ∨ c = '*'
        · exact .inl (by simp [parse?, hother])
        · exact .inr ⟨some (c :: name), id, fun h => absurd h hslash, by simp [parse?, hother]⟩

/-- Where a colon has nothing up to the next slash behind it, the reading
ends. -/
theorem parse?_colon {cs : List Char} (h : (cs.splitOn '/').head? = some []) :
    parse? none (':' :: cs) = none := by
  cases cs with
  | nil => rfl
  | cons c cs =>
      by_cases hslash : c = '/'
      · subst hslash
        rfl
      · obtain ⟨piece, pieces, -, hcons⟩ := exists_splitOn_cons hslash cs
        rw [hcons] at h
        cases h

/-- The reading ends where it comes to a colon without a name: at once, or
behind a slash, whatever it has read before. -/
theorem parse?_eq_none (cs : List Char) :
    ((cs.splitOn '/').head? = some [':'] → parse? none cs = none)
      ∧ ∀ state, [':'] ∈ (cs.splitOn '/').tail → parse? state cs = none := by
  induction cs with
  | nil => exact ⟨(fun h => by cases h), fun _ h => by cases h⟩
  | cons c cs ih =>
      by_cases hslash : c = '/'
      · rw [hslash, splitOn_cons_self]
        refine ⟨(fun hhead => by cases hhead), fun state hmem => ?_⟩
        have hrest : parse? none cs = none := by
          obtain ⟨piece, pieces, hpieces⟩ :=
            List.exists_cons_of_ne_nil (List.splitOn_ne_nil '/' cs)
          rw [hpieces] at ih
          rcases List.mem_cons.1 (hpieces ▸ hmem) with rfl | hmem
          · exact ih.1 rfl
          · exact ih.2 none hmem
        rcases parse?_cons state '/' cs with h | ⟨next, f, hnext, h⟩
        · exact h
        · rw [h, hnext rfl, hrest, Option.map_none]
      · obtain ⟨piece, pieces, hpieces, hcons⟩ := exists_splitOn_cons hslash cs
        rw [hcons]
        rw [hpieces] at ih
        constructor
        · intro hhead
          obtain ⟨rfl, hpiece⟩ := List.cons.inj (Option.some.inj hhead)
          exact parse?_colon (hpieces ▸ congrArg some hpiece)
        · intro state hmem
          rcases parse?_cons state c cs with h | ⟨next, f, -, h⟩
          · exact h
          · rw [h, ih.2 next hmem, Option.map_none]

/-- No router takes a path with a colon without a name. -/
theorem ofPath?_eq_none_of_nameless {path : String} (h : Path.Nameless path) :
    ofPath? path = none := by
  unfold Path.Nameless Path.segments at h
  obtain ⟨hhead, htail⟩ := parse?_eq_none path.toList
  obtain ⟨piece, pieces, hpieces⟩ :=
    List.exists_cons_of_ne_nil (List.splitOn_ne_nil '/' path.toList)
  rw [hpieces] at h hhead htail
  rcases List.mem_cons.1 h with rfl | hmem
  · exact hhead rfl
  · exact htail none hmem

end Pattern

-- ========================================================= what is given

/-- The paths that the router of a controller is given, or what is wrong
with the declarations of the controller. -/
def givenPaths (m : Metadata) (container : Container) (name : String) :
    Except Misconfiguration (List String) := do
  let some controller := Keyed.get? name container
    | throw .unresolved
  let base ← checkBasePath (m.basePath? name)
  if (m.routes name).isEmpty then throw .noRoutes
  let checked ← checkRoutes controller [] (m.routes name)
  return checked.flatMap fun x => servedForms base x.1.path

section Given

variable {m : Metadata} {container : Container} {name : String} {paths : List String}

/-- The controller has nothing wrong with its declarations. -/
structure InOrder (m : Metadata) (container : Container) (name : String)
    (controller : Controller) (base : String) (checked : List (RouteEntry × Handler)) : Prop where
  resolved : Keyed.get? name container = some controller
  base : checkBasePath (m.basePath? name) = .ok base
  nonempty : m.routes name ≠ []
  routes : checkRoutes controller [] (m.routes name) = .ok checked

/-- Planning reports what is wrong with the declarations, or else goes on
to the router. -/
theorem plan_cases (m : Metadata) (container : Container) (name : String) :
    (∃ cause, givenPaths m container name = .error cause
        ∧ plan m container name = .error (.misconfigured name cause))
      ∨ ∃ controller base checked, InOrder m container name controller base checked
        ∧ givenPaths m container name
          = .ok (checked.flatMap fun x => servedForms base x.1.path)
        ∧ ((∃ p, plan m container name = .ok p)
          ∨ plan m container name = .error (.unroutable name)) := by
  unfold givenPaths plan
  cases hcontroller : Keyed.get? name container with
  | none => exact .inl ⟨.unresolved, rfl, rfl⟩
  | some controller =>
      cases hbase : checkBasePath (m.basePath? name) with
      | error cause => exact .inl ⟨cause, rfl, rfl⟩
      | ok base =>
          simp only [Except.mapError, bind, Except.bind, List.isEmpty_iff]
          by_cases hempty : m.routes name = []
          · simp only [if_pos hempty]
            exact .inl ⟨.noRoutes, rfl, rfl⟩
          · simp only [if_neg hempty]
            cases hchecked : checkRoutes controller [] (m.routes name) with
            | error cause => exact .inl ⟨cause, rfl, rfl⟩
            | ok checked =>
                have hinOrder : InOrder m container name controller base checked :=
                  ⟨hcontroller, hbase, hempty, hchecked⟩
                refine .inr ⟨controller, base, checked, hinOrder, rfl, ?_⟩
                dsimp only
                cases subRouter? m name controller base checked with
                | none => exact .inr rfl
                | some router => exact .inl ⟨_, rfl⟩

/-- The base path that a controller is mounted at. -/
theorem InOrder.exists_basePath {controller : Controller} {base : String}
    {checked : List (RouteEntry × Handler)} (h : InOrder m container name controller base checked) :
    ∃ raw, m.basePath? name = some raw ∧ Path.isBasePath raw = true
      ∧ base = Path.normalized raw := by
  have hbase := h.base
  cases hraw : m.basePath? name with
  | none => rw [hraw] at hbase; cases hbase
  | some raw =>
      rw [hraw, checkBasePath] at hbase
      split at hbase
      case isTrue hok => exact ⟨raw, rfl, hok, (Except.ok.inj hbase).symm⟩
      case isFalse => cases hbase

/-- What is put together of a base path and a route path is well formed if
the base path is, and has a colon without a name if the base path has. -/
theorem formed_of_mem_servedForms {base path form : String}
    (hpath : Path.isRoutePath path = true) (hform : form ∈ servedForms base path) :
    (Path.Formed form ↔ Path.Formed base) ∧ (Path.Nameless form ↔ Path.Nameless base) := by
  have hrooted := Path.isRooted_of_isRoutePath hpath
  have hformed := Path.formed_of_isRoutePath hpath
  have hname : ¬ Path.Nameless path := (Path.formed_iff.1 hformed).2
  rcases Path.mem_servedForms.1 hform with ⟨rfl, rfl⟩ | ⟨-, rfl⟩ | ⟨-, -, rfl⟩
  · have hroot : ¬ Path.Nameless "/" := by decide
    have hroot' : Path.Formed "/" := Path.formed_iff.2 ⟨by decide, hroot⟩
    exact ⟨iff_of_true hformed hroot', iff_of_false hname hroot⟩
  · exact ⟨(Path.formed_append hrooted).trans (and_iff_left hformed),
      (Path.nameless_append hrooted).trans (or_iff_left hname)⟩
  · exact ⟨Iff.rfl, Iff.rfl⟩

section InOrder

variable {controller : Controller} {base : String} {checked : List (RouteEntry × Handler)}

/-- The routes of such a controller have paths that pass. -/
theorem InOrder.isRoutePath (h : InOrder m container name controller base checked) :
    ∀ x ∈ checked, Path.isRoutePath x.1.path = true := by
  have hchecked := checkRoutes_eq_ok h.routes
  exact fun x hx => hchecked.paths x.1 (hchecked.entries_eq ▸ List.mem_map_of_mem hx)

/-- The base path of a controller has no asterisk; so only a colon without
a name can be wrong with it. -/
theorem InOrder.formed_base (h : InOrder m container name controller base checked) {raw : String}
    (hraw : m.basePath? name = some raw) : Path.Formed base ↔ ¬ Path.Nameless raw := by
  obtain ⟨raw', hraw', hok, rfl⟩ := h.exists_basePath
  obtain rfl : raw = raw' := Option.some.inj (hraw.symm.trans hraw')
  rw [Path.formed_iff, Path.nameless_normalized]
  exact and_iff_right (Path.star_normalized (Path.star_of_isBasePath hok))

/-- At least one path is given. -/
theorem InOrder.exists_given (h : InOrder m container name controller base checked) :
    ∃ x ∈ checked, Path.join base x.1.path ∈ servedForms base x.1.path := by
  have hne : checked ≠ [] := by
    intro hnil
    apply h.nonempty
    rw [← (checkRoutes_eq_ok h.routes).entries_eq, hnil, List.map_nil]
  obtain ⟨x, hx⟩ := List.exists_mem_of_ne_nil checked hne
  exact ⟨x, hx, mem_servedForms_iff.2 (.inl rfl)⟩

/-- The paths that are given are well formed just if the base path has no
colon without a name. -/
theorem InOrder.formed_given (h : InOrder m container name controller base checked) {raw : String}
    (hraw : m.basePath? name = some raw) :
    (∀ path ∈ checked.flatMap fun x => servedForms base x.1.path, Path.Formed path)
      ↔ ¬ Path.Nameless raw := by
  rw [← h.formed_base hraw]
  constructor
  · intro hall
    obtain ⟨x, hx, hform⟩ := h.exists_given
    have hfull := hall _ (List.mem_flatMap.2 ⟨x, hx, hform⟩)
    exact (formed_of_mem_servedForms (h.isRoutePath x hx) hform).1.1 hfull
  · intro hbase path hpath
    obtain ⟨x, hx, hform⟩ := List.mem_flatMap.1 hpath
    exact (formed_of_mem_servedForms (h.isRoutePath x hx) hform).1.2 hbase

/-- A router has every path that it was given. -/
theorem InOrder.mem_paths (h : InOrder m container name controller base checked) {p : Plan}
    (hp : plan m container name = .ok p) {x : RouteEntry × Handler} (hx : x ∈ checked)
    {form : String} (hform : form ∈ servedForms base x.1.path) :
    form ∈ p.router.routes.map Route.path := by
  have hrecorded := routesAsRecorded_of_plan hp
  rw [hrecorded.paths.mem_iff, Mount.mem_servedPaths (sound_of_plan hp)]
  obtain ⟨_, base', _, -, hbase, -, -, -, hmount⟩ := plan_eq_ok hp
  obtain rfl : base = base' := Except.ok.inj (h.base.symm.trans hbase)
  have hmem : x.1 ∈ m.routes name :=
    (checkRoutes_eq_ok h.routes).entries_eq ▸ List.mem_map_of_mem hx
  rw [hmount]
  exact ⟨_, List.mem_map_of_mem hmem, hform⟩

/-- What a router has could be read, and a colon without a name cannot. -/
theorem InOrder.not_nameless (h : InOrder m container name controller base checked) {raw : String}
    (hraw : m.basePath? name = some raw) {p : Plan} (hp : plan m container name = .ok p) :
    ¬ Path.Nameless raw := by
  obtain ⟨raw', hraw', -, hnormal⟩ := h.exists_basePath
  obtain rfl : raw = raw' := Option.some.inj (hraw.symm.trans hraw')
  intro hname
  obtain ⟨x, hx, hform⟩ := h.exists_given
  have hfull : Path.Nameless (Path.join base x.1.path) := by
    apply (formed_of_mem_servedForms (h.isRoutePath x hx) hform).2.2
    rw [hnormal]
    exact (Path.nameless_normalized raw).2 hname
  obtain ⟨r, hr, hpath⟩ := List.mem_map.1 (h.mem_paths hp hx hform)
  have hread := read_of_plan hp r hr
  rw [hpath, Pattern.ofPath?_eq_none_of_nameless hfull] at hread
  cases hread

end InOrder

end Given

-- ============================================================== registering

namespace RegisterCall

/-- The turn of a controller comes: those before it are planned. -/
def Comes (call : RegisterCall) (t : RouteTable) (name : String) : Prop :=
  ∃ before rest plans, call.controllers = before ++ name :: rest
    ∧ planAll call.metadata call.container t.mounts before = .ok plans

/-- A controller that cannot be planned ends the planning. -/
theorem planAll_eq_error {m : Metadata} {container : Container} {name : String}
    {rest : List String} {e : RegistrationError} (he : plan m container name = .error e) :
    ∀ {before : List String} {mounts : List Mount} {plans : List Plan},
      planAll m container mounts before = .ok plans →
        planAll m container mounts (before ++ name :: rest) = .error e
  | [], mounts, plans, _ => by
      rw [List.nil_append, planAll, he]
      rfl
  | other :: before, mounts, plans, h => by
      obtain ⟨p, more, hp, hcheck, hmore, -⟩ := planAll_cons_eq_ok h
      rw [List.cons_append, planAll, hp]
      simp only [hcheck, planAll_eq_error he hmore, Except.mapError, bind, Except.bind]

/-- When its turn comes, what is wrong with a controller is returned and the
table left as it was. -/
theorem Comes.on_eq {call : RegisterCall} {t : RouteTable} {name : String}
    {e : RegistrationError} (h : call.Comes t name)
    (he : plan call.metadata call.container name = .error e) : call.on t = (.error e, t) := by
  obtain ⟨before, rest, plans, hnames, hplans⟩ := h
  rw [on, register_on, hnames, planAll_eq_error he hplans]

end RegisterCall

/-- When the turn of a controller comes, something is wrong with its
declarations and is reported, or its router is given paths. These are
well formed, of whatever base path and route paths they are put together,
if and only if no segment of the base path is a colon by itself. If one
is, nothing is reported: no router takes the paths, and the program
stops. -/
theorem paths_given_formed_iff {call : RegisterCall} {t : RouteTable} {name : String}
    (h : call.Comes t name) :
    (∃ cause, givenPaths call.metadata call.container name = .error cause
        ∧ call.on t = (.error (.misconfigured name cause), t))
      ∨ ∃ base paths, call.metadata.basePath? name = some base
        ∧ givenPaths call.metadata call.container name = .ok paths
        ∧ '*' ∉ base.toList ∧ (∀ e ∈ call.metadata.routes name, Path.Formed e.path)
        ∧ ((∀ path ∈ paths, Path.Formed path) ↔ ¬ Path.Nameless base)
        ∧ (Path.Nameless base → call.on t = (.error (.unroutable name), t)) := by
  rcases plan_cases call.metadata call.container name with
    ⟨cause, hgiven, hplan⟩ | ⟨controller, base, checked, hinOrder, hgiven, hplan⟩
  · exact .inl ⟨cause, hgiven, h.on_eq hplan⟩
  · obtain ⟨raw, hraw, hok, -⟩ := hinOrder.exists_basePath
    refine .inr ⟨raw, _, hraw, hgiven, Path.star_of_isBasePath hok, ?_,
      hinOrder.formed_given hraw, ?_⟩
    · intro e he
      exact Path.formed_of_isRoutePath ((checkRoutes_eq_ok hinOrder.routes).paths e he)
    · intro hname
      rcases hplan with ⟨p, hp⟩ | hstops
      · exact absurd hname (hinOrder.not_nameless hraw hp)
      · exact h.on_eq hstops

/-- A parameter without a name at the end of a base path, and a collection
route. -/
theorem paths_given_below_nameless_base :
    let metadata := (Metadata.empty.declareBasePath "users" "/api/:/").declareRoute
      "users" .get "/" "list" []
    let call : RegisterCall :=
      ⟨metadata, [("users", ⟨0, fun _ => some fun _ => .done (.bare 204)⟩)], ["users"]⟩
    call.Comes .empty "users"
      ∧ ((∃ cause, givenPaths metadata call.container "users" = .error cause
            ∧ call.on .empty = (.error (.misconfigured "users" cause), .empty))
        ∨ ∃ base paths, metadata.basePath? "users" = some base
          ∧ givenPaths metadata call.container "users" = .ok paths
          ∧ '*' ∉ base.toList ∧ (∀ e ∈ metadata.routes "users", Path.Formed e.path)
          ∧ ((∀ path ∈ paths, Path.Formed path) ↔ ¬ Path.Nameless base)
          ∧ (Path.Nameless base → call.on .empty = (.error (.unroutable "users"), .empty))) := by
  intro metadata call
  have hcomes : call.Comes .empty "users" := ⟨[], [], [], rfl, rfl⟩
  exact ⟨hcomes, paths_given_formed_iff hcomes⟩

/-- Nothing is reported of it, though its paths have a segment that is
neither literal text nor a named parameter. -/
theorem nameless_base_is_not_reported :
    let metadata := (Metadata.empty.declareBasePath "users" "/api/:/").declareRoute
      "users" .get "/" "list" []
    let call : RegisterCall :=
      ⟨metadata, [("users", ⟨0, fun _ => some fun _ => .done (.bare 204)⟩)], ["users"]⟩
    givenPaths metadata call.container "users" = .ok ["/api/:/", "/api/:"]
      ∧ ¬ Path.Formed "/api/:"
      ∧ (call.on .empty).1 = .error (.unroutable "users")
      ∧ ¬ ∃ controller cause, (call.on .empty).1 = .error (.misconfigured controller cause) := by
  intro metadata call
  have hstops : (call.on .empty).1 = .error (.unroutable "users") := by decide +kernel
  refine ⟨by decide +kernel, ?_, hstops, ?_⟩
  · intro hformed
    exact (Path.formed_iff.1 hformed).2 (by decide +kernel)
  · intro hreported
    obtain ⟨controller, cause, heq⟩ := hreported
    rw [hstops] at heq
    cases heq

end Routing

end TableApi
