/-
The mounts that are recorded and the routers that are mounted.

Which paths a controller takes is worked out twice. Its router is given
the forms of each path below the base path (`servedForms`); the record of
the mount lists the forms of each full path (`Mount.forms`), without the
paths below it. Conflicts between controllers are looked for in the record
only, so it has to name just the paths that the router was given.

Both lists are without repetition, so it is enough that they have the same
members. That the router is given no path twice has two reasons: the verbs
of a path come together before it is mounted (`map_fst_addMethods?`), and
different paths have no form in common, whatever the base path and
however many slashes they have (`disjoint_servedForms`).
-/
import Mathlib.Data.List.Nodup
import Mathlib.Data.List.Perm.Basic
import TableApi.Proofs.Routing.Dispatch
import TableApi.Proofs.Routing.Order

namespace TableApi.Routing

open Registering

-- ================================================================= forms

section Forms

variable {base path other form : String}

/-- The forms of a path are its full path and, if it is the collection
route below a base path of its own, the base path with a slash. -/
theorem mem_servedForms_iff :
    form ∈ servedForms base path
      ↔ form = Path.join base path ∨ (base ≠ "/" ∧ path = "/" ∧ form = base ++ "/") := by
  unfold servedForms Path.join
  by_cases hbase : base = "/"
  · simp [hbase]
  · by_cases hpath : path = "/"
    · simp [hbase, hpath, or_comm]
    · simp [hbase, hpath]

theorem append_ne_self (base : String) (hpath : Path.IsRooted path) : base ++ path ≠ base := by
  intro h
  apply Path.ne_empty_of_isRooted hpath
  simpa using congrArg String.toList h

theorem nodup_servedForms (base path : String) : (servedForms base path).Nodup := by
  unfold servedForms
  split
  · have hne : base ++ "/" ≠ base := append_ne_self base rfl
    simp [hne]
  · exact List.nodup_singleton _

/-- Different paths below one base path have no form in common. -/
theorem disjoint_servedForms (hpath : Path.IsRooted path) (hother : Path.IsRooted other)
    (hne : path ≠ other) : (servedForms base path).Disjoint (servedForms base other) := by
  intro form hform hform'
  rcases Path.mem_servedForms.1 hform with ⟨hroot, rfl⟩ | ⟨hbase, rfl⟩ | ⟨hbase, rfl, rfl⟩
  · rcases Path.mem_servedForms.1 hform' with ⟨-, rfl⟩ | ⟨hbase, -⟩ | ⟨hbase, -⟩
    · exact hne rfl
    · exact hbase hroot
    · exact hbase hroot
  · rcases Path.mem_servedForms.1 hform' with ⟨hroot, -⟩ | ⟨-, heq⟩ | ⟨-, -, heq⟩
    · exact hbase hroot
    · exact hne (String.toList_inj.1 (by simpa using congrArg String.toList heq))
    · exact append_ne_self base hpath heq
  · rcases Path.mem_servedForms.1 hform' with ⟨hroot, -⟩ | ⟨-, heq⟩ | ⟨-, hslash, -⟩
    · exact hbase hroot
    · exact append_ne_self form hother heq.symm
    · exact hne hslash.symm

end Forms

-- ======================================================= routes in a router

/-- A list that takes a new member at its end has it, and what it had
before. -/
theorem mem_ite_append {a x : String} {xs : List String} :
    x ∈ (if a ∈ xs then xs else xs ++ [a]) ↔ x ∈ xs ∨ a = x := by
  by_cases hmem : a ∈ xs
  · rw [if_pos hmem]
    exact (or_iff_left_of_imp fun heq => heq ▸ hmem).symm
  · rw [if_neg hmem, List.mem_append, List.mem_singleton, eq_comm]

theorem nodup_ite_append {a : String} {xs : List String} (h : xs.Nodup) :
    (if a ∈ xs then xs else xs ++ [a]).Nodup := by
  by_cases hmem : a ∈ xs
  · rw [if_pos hmem]
    exact h
  · rw [if_neg hmem, ← List.concat_eq_append]
    exact h.concat hmem

/-- Verbs that come to a path bring the path along, unless it is there. -/
theorem map_fst_addMethods? {path : String} {new : MethodRouter} :
    ∀ {paths more : List (String × MethodRouter)}, addMethods? path new paths = some more →
      more.map Prod.fst
        = if path ∈ paths.map Prod.fst then paths.map Prod.fst
          else paths.map Prod.fst ++ [path]
  | [], more, h => by
      obtain rfl := Option.some.inj h
      rfl
  | (p, r) :: rest, more, h => by
      unfold addMethods? at h
      by_cases hp : p = path
      · rw [if_pos hp] at h
        obtain ⟨both, -, rfl⟩ := Option.map_eq_some_iff.1 h
        simp [hp]
      · rw [if_neg hp] at h
        obtain ⟨more, hmore, rfl⟩ := Option.map_eq_some_iff.1 h
        have hcons : path ∈ p :: rest.map Prod.fst ↔ path ∈ rest.map Prod.fst := by
          rw [List.mem_cons]
          exact or_iff_right fun heq => hp heq.symm
        rw [List.map_cons, List.map_cons, map_fst_addMethods? hmore]
        by_cases hmem : path ∈ rest.map Prod.fst
        · rw [if_pos hmem, if_pos (hcons.2 hmem)]
        · rw [if_neg hmem, if_neg fun h => hmem (hcons.1 h), List.cons_append]

namespace Router

variable {router next : Router}

theorem mem_route? {path form : String} {methods : MethodRouter}
    (h : router.route? path methods = some next) :
    form ∈ next.routes.map Route.path ↔ form ∈ router.routes.map Route.path ∨ path = form := by
  obtain ⟨pattern, -, h⟩ := Option.bind_eq_some_iff.1 h
  have hinsert := router.routes_add? ⟨path, pattern, methods⟩
  rw [h] at hinsert
  rw [Route.map_path_insert? hinsert.symm]
  exact mem_ite_append

theorem map_path_layers (ms : List Middleware) (router : Router) :
    (ms.foldl layer router).routes.map Route.path = router.routes.map Route.path := by
  induction ms generalizing router with
  | nil => rfl
  | cons m ms ih =>
      rw [List.foldl_cons, ih]
      simp [layer, Function.comp_def]

/-- The router was given these routes, one after another, and then put
behind the middlewares. -/
def MadeOf (router : Router) (given : List (String × MethodRouter)) (ms : List Middleware) :
    Prop :=
  ∃ bare, given.foldlM (fun router (form, methods) => router.route? form methods) empty = some bare
    ∧ router = ms.reverse.foldl layer bare

/-- A router has the paths that it was given, and no others. -/
theorem MadeOf.mem_paths {given : List (String × MethodRouter)} {ms : List Middleware}
    (h : router.MadeOf given ms) {form : String} :
    form ∈ router.routes.map Route.path ↔ form ∈ given.map Prod.fst := by
  obtain ⟨bare, hbare, rfl⟩ := h
  rw [map_path_layers, foldlM_or hbare fun _ _ _ => mem_route?]
  show form ∈ [] ∨ _ ↔ _
  simp

end Router

-- ========================================================== a controller

section Controller

variable {m : Metadata} {name base : String} {controller : Controller}
  {checked : List (RouteEntry × Handler)} {router : Router}

/-- Verbs that come together are at the paths that they are declared for,
each path once. -/
theorem paths_of_collected {methods : RouteEntry × Handler → MethodRouter}
    {paths : List (String × MethodRouter)}
    (h : checked.foldlM (fun paths x => addMethods? x.1.path (methods x) paths) [] = some paths) :
    (∀ path, path ∈ paths.map Prod.fst ↔ ∃ x ∈ checked, x.1.path = path)
      ∧ (paths.map Prod.fst).Nodup := by
  constructor
  · intro path
    rw [foldlM_or (P := fun paths => path ∈ paths.map Prod.fst) (Q := fun x => x.1.path = path) h]
    · simp
    · intro old new x hnew
      rw [map_fst_addMethods? hnew]
      exact mem_ite_append
  · apply foldlM_keeps (P := fun paths => (paths.map Prod.fst).Nodup) _ h List.nodup_nil
    intro old new x hnew hold
    rw [map_fst_addMethods? hnew]
    exact nodup_ite_append hold

/-- The routes of a router are the forms of the paths. -/
theorem map_fst_forms (base : String) (paths : List (String × MethodRouter)) :
    ((paths.flatMap fun (path, methods) =>
        (servedForms base path).map fun form => (form, methods)).map Prod.fst)
      = (paths.map Prod.fst).flatMap (servedForms base) := by
  rw [List.map_flatMap, List.flatMap_map]
  refine List.flatMap_congr fun p _ => ?_
  rw [List.map_map]
  exact List.map_id _

/-- The router of a controller is given every form of every path that is
declared, each once. -/
theorem madeOf_subRouter? (h : subRouter? m name controller base checked = some router)
    (hrooted : ∀ x ∈ checked, Path.IsRooted x.1.path) :
    ∃ given, router.MadeOf given (m.middlewares name none) ∧ (given.map Prod.fst).Nodup
      ∧ ∀ form, form ∈ given.map Prod.fst ↔ ∃ x ∈ checked, form ∈ servedForms base x.1.path := by
  obtain ⟨paths, hpaths, h⟩ := Option.bind_eq_some_iff.1 h
  obtain ⟨bare, hbare, h⟩ := Option.bind_eq_some_iff.1 h
  obtain ⟨hmem, hnodup⟩ := paths_of_collected hpaths
  refine ⟨_, ⟨bare, hbare, (Option.some.inj h).symm⟩, ?_, fun form => ?_⟩
  · rw [map_fst_forms, List.nodup_flatMap]
    refine ⟨fun path _ => nodup_servedForms base path, ?_⟩
    refine hnodup.imp_of_mem fun {path other} hpath hother hne => ?_
    obtain ⟨x, hx, rfl⟩ := (hmem path).1 hpath
    obtain ⟨y, hy, rfl⟩ := (hmem other).1 hother
    exact disjoint_servedForms (hrooted x hx) (hrooted y hy) hne
  · rw [map_fst_forms, List.mem_flatMap]
    constructor
    · intro hform
      obtain ⟨path, hpath, hform⟩ := hform
      obtain ⟨x, hx, rfl⟩ := (hmem path).1 hpath
      exact ⟨x, hx, hform⟩
    · intro hform
      obtain ⟨x, hx, hform⟩ := hform
      exact ⟨x.1.path, (hmem _).2 ⟨x, hx, rfl⟩, hform⟩

theorem Mount.nodup_dedup :
    ∀ {paths acc : List String}, acc.Nodup →
      (paths.foldl (fun acc p => if acc.contains p then acc else acc ++ [p]) acc).Nodup
  | [], acc, hacc => hacc
  | p :: paths, acc, hacc => by
      rw [List.foldl_cons]
      apply nodup_dedup
      simp only [List.contains_iff_mem]
      exact nodup_ite_append hacc

theorem Mount.nodup_servedPaths (m : Mount) : m.servedPaths.Nodup := nodup_dedup List.nodup_nil

/-- What the record of a mount says of its router. -/
structure Plan.RoutesAsRecorded (p : Plan) (m : Metadata) : Prop where
  /-- The router was given a route on each of the served paths, each once,
  and on no others. -/
  given : ∃ given, p.router.MadeOf given (m.middlewares p.mount.controller none)
    ∧ (given.map Prod.fst).Perm p.mount.servedPaths
  paths : (p.router.routes.map Route.path).Perm p.mount.servedPaths
  once : p.mount.servedPaths.Nodup
  /-- A verb has a handler on its full paths and, where it is declared for
  the collection route below a base path of its own, on the base path with
  a slash. -/
  handled : ∀ verb path, (∃ target, p.router.Serves path verb target)
    ↔ (verb, path) ∈ p.mount.fullPaths
      ∨ (p.mount.basePath ≠ "/" ∧ path = p.mount.basePath ++ "/"
        ∧ ∃ e ∈ m.routes p.mount.controller, e.verb = verb ∧ e.path = "/")

/-- A verb has a handler on the forms of the paths that it is declared
for. -/
theorem exists_serves_subRouter? (h : subRouter? m name controller base checked = some router)
    {verb : Verb} {path : String} :
    (∃ target, router.Serves path verb target)
      ↔ ∃ e ∈ checked.map Prod.fst, e.verb = verb ∧ path ∈ servedForms base e.path := by
  constructor
  · intro ⟨target, htarget⟩
    obtain ⟨x, hx, hform, rfl, -⟩ := (serves_subRouter? h).1 htarget
    exact ⟨x.1, List.mem_map_of_mem hx, rfl, hform⟩
  · intro ⟨e, he, hverb, hform⟩
    obtain ⟨x, hx, rfl⟩ := List.mem_map.1 he
    exact ⟨_, (serves_subRouter? h).2 ⟨x, hx, hform, hverb.symm, rfl⟩⟩

/-- The forms of a path that a verb is declared for are recorded for the
verb, but for the base path with a slash. -/
theorem exists_form_iff {entries : List RouteEntry} {verb : Verb} {path : String} :
    (∃ e ∈ entries, e.verb = verb ∧ path ∈ servedForms base e.path)
      ↔ (verb, path) ∈ Mount.fullPaths ⟨name, base, entries.map fun e => (e.verb, e.path)⟩
        ∨ (base ≠ "/" ∧ path = base ++ "/" ∧ ∃ e ∈ entries, e.verb = verb ∧ e.path = "/") := by
  constructor
  · intro hform
    obtain ⟨e, he, hverb, hform⟩ := hform
    rcases mem_servedForms_iff.1 hform with hfull | ⟨hbase, hslash, hform⟩
    · apply Or.inl
      rw [Mount.fullPaths, hfull, ← hverb]
      exact List.mem_map_of_mem (List.mem_map_of_mem he)
    · exact .inr ⟨hbase, hform, e, he, hverb, hslash⟩
  · intro hrecorded
    rcases hrecorded with hfull | ⟨hbase, hform, e, he, hverb, hslash⟩
    · obtain ⟨r, hr, heq⟩ := List.mem_map.1 hfull
      obtain ⟨e, he, rfl⟩ := List.mem_map.1 hr
      obtain ⟨hverb, hpath⟩ := Prod.mk.inj heq
      exact ⟨e, he, hverb, mem_servedForms_iff.2 (.inl hpath.symm)⟩
    · exact ⟨e, he, hverb, mem_servedForms_iff.2 (.inr ⟨hbase, hslash, hform⟩)⟩

theorem routesAsRecorded_of_plan {container : Container} {p : Plan}
    (h : plan m container name = .ok p) : p.RoutesAsRecorded m := by
  have hsound := sound_of_plan h
  obtain ⟨mount, router⟩ := p
  obtain ⟨controller, base, checked, -, -, -, hchecked, hrouter, hmount⟩ := plan_eq_ok h
  obtain rfl : mount = _ := hmount
  have hrooted : ∀ x ∈ checked, Path.IsRooted x.1.path := by
    intro x hx
    apply Path.isRooted_of_isRoutePath
    exact hchecked.paths x.1 (hchecked.entries_eq ▸ List.mem_map_of_mem hx)
  obtain ⟨given, hgiven, hnodup, hmem⟩ := madeOf_subRouter? hrouter hrooted
  have hserved : ∀ form, form ∈ given.map Prod.fst ↔ form ∈ Mount.servedPaths
      ⟨name, base, (m.routes name).map fun e => (e.verb, e.path)⟩ := by
    intro form
    rw [Mount.mem_servedPaths hsound, hmem, ← hchecked.entries_eq]
    simp
  constructor
  case given =>
    exact ⟨given, hgiven,
      (List.perm_ext_iff_of_nodup hnodup (Mount.nodup_servedPaths _)).2 hserved⟩
  case paths =>
    refine (List.perm_ext_iff_of_nodup router.paths_nodup (Mount.nodup_servedPaths _)).2 ?_
    intro form
    exact hgiven.mem_paths.trans (hserved form)
  case once => exact Mount.nodup_servedPaths _
  case handled =>
    intro verb path
    rw [exists_serves_subRouter? hrouter, hchecked.entries_eq]
    exact exists_form_iff

end Controller

-- ============================================================ registering

theorem plans_of_planAll {m : Metadata} {container : Container} :
    ∀ {names : List String} {mounts : List Mount} {plans : List Plan},
      planAll m container mounts names = .ok plans →
        plans.map (fun p => p.mount.controller) = names
          ∧ ∀ p ∈ plans, plan m container p.mount.controller = .ok p
  | [], mounts, plans, h => by
      obtain rfl := Except.ok.inj h
      exact ⟨rfl, List.forall_mem_nil _⟩
  | name :: rest, mounts, plans, h => by
      obtain ⟨p, more, hp, -, hmore, rfl⟩ := planAll_cons_eq_ok h
      obtain ⟨hnames, hplans⟩ := plans_of_planAll hmore
      have hname : p.mount.controller = name := by
        obtain ⟨_, _, _, -, -, -, -, -, hmount⟩ := plan_eq_ok hp
        rw [hmount]
      refine ⟨by rw [List.map_cons, hname, hnames], List.forall_mem_cons.2 ⟨?_, hplans⟩⟩
      rw [hname]
      exact hp

/-- Whatever a call mounts, the record of each mount names just the paths
that its router was given and the verbs that it has handlers for. If the
call succeeds it mounts every controller in order, and its router serves
just the recorded verbs and paths beside those that it served before. -/
theorem mounts_record_their_routers (call : RegisterCall) (t : RouteTable) :
    ∃ mounted : List Plan,
      (call.on t).2.mounts = t.mounts ++ mounted.map Plan.mount
        ∧ (∀ p ∈ mounted, plan call.metadata call.container p.mount.controller = .ok p
          ∧ p.RoutesAsRecorded call.metadata)
        ∧ ((call.on t).1 = .ok () →
          mounted.map (fun p => p.mount.controller) = call.controllers
            ∧ ∀ path verb target, (call.on t).2.router.Serves path verb target
              ↔ t.router.Serves path verb target
                ∨ ∃ p ∈ mounted, p.router.Serves path verb target) := by
  unfold RegisterCall.on
  rw [register_on]
  cases hplans : planAll call.metadata call.container t.mounts call.controllers with
  | error e => exact ⟨[], by simp, by simp, fun h => by cases h⟩
  | ok plans =>
      obtain ⟨hnames, hplanned⟩ := plans_of_planAll hplans
      have hrecorded : ∀ p ∈ plans, plan call.metadata call.container p.mount.controller = .ok p
          ∧ p.RoutesAsRecorded call.metadata := by
        intro p hp
        exact ⟨hplanned p hp, routesAsRecorded_of_plan (hplanned p hp)⟩
      cases hresult : (on (plans.forM mount) t).1 with
      | error e =>
          -- what is mounted before a router cannot hold the routes
          obtain ⟨mounted, rest, rfl, hmounts⟩ := mounts_of_mountAll plans t
          refine ⟨mounted, hmounts, fun p hp => hrecorded p (List.mem_append_left rest hp), ?_⟩
          intro hok
          cases hok
      | ok _ =>
          obtain ⟨router, -, htable⟩ := mountAll_eq_ok.1 (Prod.ext hresult rfl)
          refine ⟨plans, congrArg RouteTable.mounts htable, hrecorded, fun _ => ⟨hnames, ?_⟩⟩
          intro path verb target
          exact serves_of_mountAll hresult

/-- A base path with a slash at its end, and a path of two slashes below
it. -/
example :
    let metadata := (((Metadata.empty.declareBasePath "users" "/api/").declareRoute
        "users" .get "/" "list" []).declareRoute "users" .get "//" "twice" []).declareRoute
        "users" .post "/" "create" []
    let call : RegisterCall :=
      ⟨metadata, [("users", ⟨0, fun _ => some fun _ => .done (.bare 204)⟩)], ["users"]⟩
    let t := (call.on .empty).2
    t.mounts.map Mount.servedPaths = [["/api", "/api/", "/api//"]]
      ∧ t.router.routes.map Route.path = ["/api/", "/api", "/api//"] := by
  decide +kernel

end TableApi.Routing
