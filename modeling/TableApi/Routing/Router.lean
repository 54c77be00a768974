/-
Routers: what answers which path under which verb.

A router holds each path once, and under a path a target for every verb
that is served. Middlewares are put before what is there already, so the
one put last runs first. A middleware before the routes of one path does
not run when a method is refused there; one before a whole router does.
-/
import TableApi.Routing.Metadata
import TableApi.Routing.Search

namespace TableApi.Routing

/-- Where a request with a verb on a path ends up. -/
structure Target where
  controller : String
  handlerName : String
  /-- The number of the store that the handler uses. -/
  store : Nat
  handler : Handler
  /-- What runs before the handler, outermost first. -/
  middlewares : List Middleware

namespace Target

/-- The target behind one more middleware. -/
def behind (m : Middleware) (t : Target) : Target :=
  { t with middlewares := m :: t.middlewares }

end Target

-- ================================================= the verbs of one path

/-- What answers on one path. -/
structure MethodRouter where
  targets : List (Verb × Target)
  /-- What runs before a method is refused, outermost first. -/
  guards : List Middleware
  /-- A verb has one target. -/
  verbs_nodup : (targets.map Prod.fst).Nodup

namespace MethodRouter

/-- Serves one verb. -/
def on (verb : Verb) (target : Target) : MethodRouter :=
  ⟨[(verb, target)], [], List.pairwise_singleton _ verb⟩

/-- The targets behind one more middleware. -/
def behindAll (m : Middleware) (targets : List (Verb × Target)) : List (Verb × Target) :=
  targets.map fun (verb, target) => (verb, target.behind m)

theorem map_fst_behindAll (m : Middleware) (targets : List (Verb × Target)) :
    (behindAll m targets).map Prod.fst = targets.map Prod.fst := by
  simp [behindAll, Function.comp_def]

/-- Puts a middleware before the targets. -/
def routeLayer (r : MethodRouter) (m : Middleware) : MethodRouter where
  targets := behindAll m r.targets
  guards := r.guards
  verbs_nodup := by rw [map_fst_behindAll]; exact r.verbs_nodup

/-- Puts a middleware before the targets and before the refusal. -/
def layer (r : MethodRouter) (m : Middleware) : MethodRouter where
  targets := behindAll m r.targets
  guards := m :: r.guards
  verbs_nodup := by rw [map_fst_behindAll]; exact r.verbs_nodup

/-- Whether two lists of targets serve a verb both. -/
def overlap (a b : List (Verb × Target)) : Bool :=
  a.any fun (verb, _) => b.any fun (other, _) => verb = other

theorem nodup_append {a b : List (Verb × Target)} (ha : (a.map Prod.fst).Nodup)
    (hb : (b.map Prod.fst).Nodup) (h : ¬ overlap a b = true) :
    ((a ++ b).map Prod.fst).Nodup := by
  rw [List.map_append, List.nodup_append]
  refine ⟨ha, hb, fun verb hverb other hother heq => h ?_⟩
  obtain ⟨x, hx, rfl⟩ := List.mem_map.1 hverb
  obtain ⟨y, hy, rfl⟩ := List.mem_map.1 hother
  exact List.any_eq_true.2 ⟨x, hx, List.any_eq_true.2 ⟨y, hy, decide_eq_true heq⟩⟩

/-- Serves the verbs of both, and refuses other methods as the second one
does. `none` if a verb is served by both. -/
def merge? (a b : MethodRouter) : Option MethodRouter :=
  if h : overlap a.targets b.targets then none
  else some ⟨a.targets ++ b.targets, b.guards, nodup_append a.verbs_nodup b.verbs_nodup h⟩

end MethodRouter

-- =============================================================== routers

structure Route where
  path : String
  pattern : Pattern
  methods : MethodRouter

/-- Adds a route to those there are: a new path beside the others, or
more verbs to a path that is there. `none` if no router can hold it. -/
def Route.insert? (new : Route) : List Route → Option (List Route)
  | [] => some [new]
  | r :: rest =>
      if r.path = new.path then
        (r.methods.merge? new.methods).map fun methods => { r with methods } :: rest
      else if r.pattern.sameShape new.pattern then none
      else (insert? new rest).map (r :: ·)

/-- A route that is added brings its path along, unless it is there. -/
theorem Route.map_path_insert? {new : Route} {routes : List Route} :
    ∀ {old : List Route}, insert? new old = some routes →
      routes.map Route.path
        = if new.path ∈ old.map Route.path then old.map Route.path
          else old.map Route.path ++ [new.path]
  | [], h => by
      obtain rfl := Option.some.inj h
      rfl
  | r :: rest, h => by
      unfold insert? at h
      split at h
      case isTrue hpath =>
        obtain ⟨methods, -, rfl⟩ := Option.map_eq_some_iff.1 h
        rw [if_pos (by simp [hpath])]
        rfl
      case isFalse hpath =>
        split at h
        case isTrue => cases h
        case isFalse =>
          obtain ⟨more, hmore, rfl⟩ := Option.map_eq_some_iff.1 h
          rw [List.map_cons, map_path_insert? hmore]
          by_cases hmem : new.path ∈ rest.map Route.path
          · rw [if_pos hmem, if_pos (by simp [hmem])]
            rfl
          · have hcons : new.path ∉ (r :: rest).map Route.path := by
              rw [List.map_cons, List.mem_cons]
              exact fun h => h.elim (fun h => hpath h.symm) hmem
            rw [if_neg hmem, if_neg hcons]
            rfl

theorem Route.nodup_insert? {new : Route} {old routes : List Route}
    (hold : (old.map Route.path).Nodup) (h : insert? new old = some routes) :
    (routes.map Route.path).Nodup := by
  rw [map_path_insert? h]
  split
  case isTrue => exact hold
  case isFalse hnew =>
    rw [List.nodup_append]
    refine ⟨hold, List.pairwise_singleton _ _, fun path hpath other hother heq => hnew ?_⟩
    obtain rfl := List.mem_singleton.1 hother
    exact heq ▸ hpath

structure Router where
  routes : List Route
  /-- A path has one route. -/
  paths_nodup : (routes.map Route.path).Nodup

namespace Router

def empty : Router := ⟨[], List.nodup_nil⟩

/-- The router with one more route. -/
def add? (router : Router) (new : Route) : Option Router :=
  match h : new.insert? router.routes with
  | some routes => some ⟨routes, Route.nodup_insert? router.paths_nodup h⟩
  | none => none

/-- The router with one more path. -/
def route? (router : Router) (path : String) (methods : MethodRouter) : Option Router := do
  let pattern ← Pattern.ofPath? path
  router.add? ⟨path, pattern, methods⟩

/-- The router with the routes of another one. -/
def merge? (router other : Router) : Option Router :=
  other.routes.foldlM add? router

/-- Puts a middleware before everything on the paths of the router. -/
def layer (router : Router) (m : Middleware) : Router where
  routes := router.routes.map fun r => { r with methods := r.methods.layer m }
  paths_nodup := by simpa [Function.comp_def] using router.paths_nodup

/-- The route for a path, with the values of its parameters. -/
def find? (router : Router) (path : String) : Option (Route × List (List Char)) :=
  Search.find? (router.routes.map fun r => (r.pattern, r)) path.toList

end Router

end TableApi.Routing
