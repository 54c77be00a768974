/-
What routers serve.

A router serves a target under a path and a verb. Adding to a router,
merging two and putting middlewares before one do to that what they say,
and since a path has one route and a verb one target, a path and a verb
have one target. So the router that is made of the routes of a
controller serves exactly these: every route in all its forms, behind
the middlewares of the controller, its own and those of its handler, and
behind no others.
-/
import Mathlib.Data.List.Nodup
import TableApi.Proofs.Routing.Registration

namespace TableApi.Routing

-- =============================================================== targets

/-- The target behind middlewares, the outermost first. -/
def Target.behindAll (ms : List Middleware) (t : Target) : Target :=
  { t with middlewares := ms ++ t.middlewares }

namespace MethodRouter

/-- Middlewares put in front in reverse stand in their order. -/
theorem targets_routeLayers (r : MethodRouter) :
    ∀ ms : List Middleware, (ms.reverse.foldl routeLayer r).targets
      = r.targets.map fun (verb, t) => (verb, t.behindAll ms)
  | [] => (List.map_id _).symm
  | m :: ms => by
      have ih := targets_routeLayers r ms
      rw [List.reverse_cons, List.foldl_append]
      refine (congrArg (behindAll m) ih).trans ?_
      rw [behindAll, List.map_map]
      rfl

/-- A verb has one target. -/
theorem target_unique {r : MethodRouter} {verb : Verb} {t u : Target}
    (ht : (verb, t) ∈ r.targets) (hu : (verb, u) ∈ r.targets) : t = u :=
  congrArg Prod.snd (List.inj_on_of_nodup_map r.verbs_nodup ht hu rfl)

/-- Merged method routers have the targets of both. -/
theorem targets_merge? {a b both : MethodRouter} (h : a.merge? b = some both) :
    both.targets = a.targets ++ b.targets := by
  unfold merge? at h
  split at h
  · cases h
  · obtain rfl := Option.some.inj h
    rfl

end MethodRouter

-- ================================================================ serving

/-- Of methods under paths, those of the path have the target for the
verb. -/
def Serve (paths : List (String × MethodRouter)) (path : String) (verb : Verb) (t : Target) :
    Prop :=
  ∃ p ∈ paths, p.1 = path ∧ (verb, t) ∈ p.2.targets

section Serve

variable {paths more : List (String × MethodRouter)} {path form : String} {verb : Verb}
  {t : Target} {a b both : MethodRouter}

theorem serve_nil : ¬ Serve [] path verb t := by
  rintro ⟨p, hp, -⟩
  cases hp

/-- A target is served under the first path or under the others. -/
theorem serve_cons {p : String × MethodRouter} :
    Serve (p :: paths) path verb t
      ↔ (p.1 = path ∧ (verb, t) ∈ p.2.targets) ∨ Serve paths path verb t := by
  simp [Serve]

/-- Methods that come to a path serve beside those that are there. -/
theorem serve_merge? (h : a.merge? b = some both) :
    Serve ((form, both) :: paths) path verb t
      ↔ Serve ((form, a) :: paths) path verb t ∨ (form = path ∧ (verb, t) ∈ b.targets) := by
  rw [serve_cons, serve_cons, MethodRouter.targets_merge? h, List.mem_append]
  tauto

/-- Methods that are added under a path are served there, and the others as
before. -/
theorem serve_addMethods? :
    ∀ {paths more : List (String × MethodRouter)}, addMethods? form b paths = some more →
      (Serve more path verb t
        ↔ Serve paths path verb t ∨ (form = path ∧ (verb, t) ∈ b.targets))
  | [], more, h => by
      obtain rfl := Option.some.inj h
      rw [serve_cons, or_comm]
  | (p, r) :: rest, more, h => by
      unfold addMethods? at h
      split at h
      case isTrue hp =>
        obtain ⟨both, hboth, rfl⟩ := Option.map_eq_some_iff.1 h
        rw [serve_merge? hboth, hp]
      case isFalse =>
        obtain ⟨more, hmore, rfl⟩ := Option.map_eq_some_iff.1 h
        rw [serve_cons, serve_cons, serve_addMethods? hmore, or_assoc]

/-- The path and the methods of a route. -/
def Route.entry (r : Route) : String × MethodRouter := (r.path, r.methods)

/-- The methods of a route that is put in are served there, and the others
as before. -/
theorem serve_insert? {new : Route} :
    ∀ {old routes : List Route}, new.insert? old = some routes →
      (Serve (routes.map Route.entry) path verb t
        ↔ Serve (old.map Route.entry) path verb t
          ∨ (new.path = path ∧ (verb, t) ∈ new.methods.targets))
  | [], routes, h => by
      obtain rfl := Option.some.inj h
      exact serve_cons.trans or_comm
  | r :: rest, routes, h => by
      unfold Route.insert? at h
      split at h
      case isTrue hpath =>
        obtain ⟨both, hboth, rfl⟩ := Option.map_eq_some_iff.1 h
        exact hpath ▸ serve_merge? hboth
      case isFalse =>
        split at h
        case isTrue => cases h
        case isFalse =>
          obtain ⟨more, hmore, rfl⟩ := Option.map_eq_some_iff.1 h
          rw [List.map_cons, List.map_cons, serve_cons, serve_cons, serve_insert? hmore, or_assoc]

/-- What each step adds, a run of steps adds. -/
theorem foldlM_or {σ α : Type} {step : σ → α → Option σ} {P : σ → Prop} {Q : α → Prop} :
    ∀ {as : List α} {s s' : σ}, as.foldlM step s = some s' →
      (∀ (s s' : σ) (a : α), step s a = some s' → (P s' ↔ P s ∨ Q a)) →
      (P s' ↔ P s ∨ ∃ a ∈ as, Q a)
  | [], s, s', h, _ => by
      obtain rfl := Option.some.inj h
      simp
  | a :: as, s, s', h, hstep => by
      obtain ⟨next, hnext, h⟩ := Option.bind_eq_some_iff.1 h
      rw [foldlM_or h hstep, hstep s next a hnext, or_assoc, List.exists_mem_cons_iff]

end Serve

-- =============================================================== routers

namespace Router

/-- The router serves the target. -/
def Serves (router : Router) : String → Verb → Target → Prop :=
  Serve (router.routes.map Route.entry)

variable {router other merged : Router} {path form : String} {verb : Verb} {t u : Target}

/-- A router serves what its routes have. -/
theorem serves_iff :
    router.Serves path verb t
      ↔ ∃ r ∈ router.routes, r.path = path ∧ (verb, t) ∈ r.methods.targets := by
  simp [Serves, Serve, Route.entry]

/-- A path has one route. -/
theorem route_unique {a b : Route} (ha : a ∈ router.routes) (hb : b ∈ router.routes)
    (h : a.path = b.path) : a = b :=
  List.inj_on_of_nodup_map router.paths_nodup ha hb h

/-- What is served on the path of a route is among its targets. -/
theorem Serves.mem_targets {r : Route} (h : router.Serves r.path verb t) (hr : r ∈ router.routes) :
    (verb, t) ∈ r.methods.targets := by
  obtain ⟨r', hr', hpath, ht⟩ := serves_iff.1 h
  exact route_unique hr' hr hpath ▸ ht

/-- Adding a route adds its targets and no others. -/
theorem serves_add? {new : Route} (h : router.add? new = some merged) :
    merged.Serves path verb t
      ↔ router.Serves path verb t ∨ (new.path = path ∧ (verb, t) ∈ new.methods.targets) := by
  unfold add? at h
  split at h
  case h_2 => cases h
  case h_1 routes hroutes =>
    obtain rfl := Option.some.inj h
    exact serve_insert? hroutes

/-- Merging adds those of the other router. -/
theorem serves_merge? (h : router.merge? other = some merged) :
    merged.Serves path verb t ↔ router.Serves path verb t ∨ other.Serves path verb t :=
  (foldlM_or h fun _ _ _ => serves_add?).trans (or_congr_right serves_iff.symm)

/-- Methods that are routed are served under their path. -/
theorem serves_route? {methods : MethodRouter} (h : router.route? form methods = some merged) :
    merged.Serves path verb t
      ↔ router.Serves path verb t ∨ (form = path ∧ (verb, t) ∈ methods.targets) := by
  obtain ⟨pattern, -, h⟩ := Option.bind_eq_some_iff.1 h
  exact serves_add? h

/-- Middleware stands in front of all that is served. -/
theorem serves_layer {m : Middleware} :
    (router.layer m).Serves path verb t
      ↔ ∃ u, router.Serves path verb u ∧ t = u.behind m := by
  simp only [serves_iff]
  constructor
  · rintro ⟨r, hr, rfl, ht⟩
    obtain ⟨r₀, hr₀, rfl⟩ := List.mem_map.1 hr
    obtain ⟨⟨verb, u⟩, hu, heq⟩ := List.mem_map.1 ht
    obtain ⟨rfl, rfl⟩ := Prod.mk.inj heq
    exact ⟨u, ⟨r₀, hr₀, rfl, hu⟩, rfl⟩
  · rintro ⟨u, ⟨r, hr, rfl, hu⟩, rfl⟩
    exact ⟨_, List.mem_map_of_mem hr, rfl, List.mem_map.2 ⟨_, hu, rfl⟩⟩

/-- Middlewares put before a router in reverse stand in their order before
each of its targets. -/
theorem serves_layers (ms : List Middleware) :
    (ms.reverse.foldl layer router).Serves path verb t
      ↔ ∃ u, router.Serves path verb u ∧ t = u.behindAll ms := by
  induction ms generalizing t with
  | nil =>
      refine ⟨fun h => ⟨t, h, rfl⟩, ?_⟩
      rintro ⟨u, hu, rfl⟩
      exact hu
  | cons m ms ih =>
      rw [List.reverse_cons, List.foldl_append, List.foldl_cons, List.foldl_nil, serves_layer]
      constructor
      · rintro ⟨u, hu, rfl⟩
        obtain ⟨v, hv, rfl⟩ := ih.1 hu
        exact ⟨v, hv, rfl⟩
      · rintro ⟨v, hv, rfl⟩
        exact ⟨_, ih.2 ⟨v, hv, rfl⟩, rfl⟩

end Router

-- ========================================================== a controller

section Controller

variable {m : Metadata} {name : String} {controller : Controller} {path : String} {verb : Verb}
  {t : Target}

/-- The target of a route: its handler behind the middlewares of the
controller, its own and those of the handler. -/
def targetOf (m : Metadata) (name : String) (controller : Controller) (e : RouteEntry)
    (handler : Handler) : Target :=
  ⟨name, e.handler, controller.store, handler,
    m.middlewares name none ++ e.middlewares ++ m.middlewares name (some e.handler)⟩

/-- A declared route has one target, under its verb. -/
theorem mem_targets_methodRouter {e : RouteEntry} {handler : Handler} :
    (verb, t) ∈ (methodRouter m name controller e handler).targets
      ↔ verb = e.verb ∧ t = ⟨name, e.handler, controller.store, handler,
          e.middlewares ++ m.middlewares name (some e.handler)⟩ := by
  unfold methodRouter
  rw [MethodRouter.targets_routeLayers]
  simp [MethodRouter.on, Target.behindAll]

/-- The router of a controller serves the checked routes, each in all its
forms, and nothing else. -/
theorem serves_subRouter? {base : String} {checked : List (RouteEntry × Handler)}
    {router : Router} (h : subRouter? m name controller base checked = some router) :
    router.Serves path verb t
      ↔ ∃ x ∈ checked, path ∈ servedForms base x.1.path ∧ verb = x.1.verb
          ∧ t = targetOf m name controller x.1 x.2 := by
  obtain ⟨paths, hpaths, h⟩ := Option.bind_eq_some_iff.1 h
  obtain ⟨bare, hbare, h⟩ := Option.bind_eq_some_iff.1 h
  obtain rfl := Option.some.inj h
  have hserve : ∀ {form : String} {u : Target}, Serve paths form verb u
      ↔ ∃ x ∈ checked, x.1.path = form
          ∧ (verb, u) ∈ (methodRouter m name controller x.1 x.2).targets := by
    intro form u
    rw [foldlM_or hpaths fun _ _ _ => serve_addMethods?]
    simp [serve_nil]
  have hforms : ∀ {u : Target}, bare.Serves path verb u
      ↔ ∃ form, path ∈ servedForms base form ∧ Serve paths form verb u := by
    intro u
    rw [foldlM_or hbare fun _ _ _ => Router.serves_route?]
    constructor
    · rintro (hempty | ⟨f, hf, rfl, hu⟩)
      · exact absurd hempty serve_nil
      · obtain ⟨⟨form, methods⟩, hp, hmap⟩ := List.mem_flatMap.1 hf
        obtain ⟨path, hpath, rfl⟩ := List.mem_map.1 hmap
        exact ⟨form, hpath, _, hp, rfl, hu⟩
    · rintro ⟨form, hform, ⟨form, methods⟩, hp, rfl, hu⟩
      exact .inr ⟨(path, methods),
        List.mem_flatMap.2 ⟨_, hp, List.mem_map.2 ⟨path, hform, rfl⟩⟩, rfl, hu⟩
  have hchain : ∀ x : RouteEntry × Handler, targetOf m name controller x.1 x.2
      = (Target.mk name x.1.handler controller.store x.2
          (x.1.middlewares ++ m.middlewares name (some x.1.handler))).behindAll
            (m.middlewares name none) := by
    intro x
    rw [targetOf, List.append_assoc]
    rfl
  rw [Router.serves_layers]
  constructor
  · rintro ⟨u, hu, rfl⟩
    obtain ⟨form, hform, hserves⟩ := hforms.1 hu
    obtain ⟨x, hx, rfl, htarget⟩ := hserve.1 hserves
    obtain ⟨rfl, rfl⟩ := mem_targets_methodRouter.1 htarget
    exact ⟨x, hx, hform, rfl, (hchain x).symm⟩
  · rintro ⟨x, hx, hform, hverb, rfl⟩
    exact ⟨_, hforms.2 ⟨_, hform, hserve.2 ⟨x, hx, rfl, mem_targets_methodRouter.2 ⟨hverb, rfl⟩⟩⟩,
      hchain x⟩

end Controller

end TableApi.Routing
