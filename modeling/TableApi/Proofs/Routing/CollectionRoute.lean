/-
The collection route, with a slash behind it and without.

A controller below a base path of its own has its collection route on two
paths. Both are given the same methods before the middlewares of the
controller come (`servedForms`), these come to both alike
(`guarded_of_plan`), and what is mounted later leaves both alone
(`Grown.planned`). So each of the two is answered by what was planned for
the collection, whatever is declared in which order
(`answersCollection_of_plan`): the path holds no parameter, and so the search
finds the route that stands on it (`Router.find?_of_mem`).

What a route answers by is the call, and the path is part of that. So two
requests that differ in the path only are told apart only by handlers and
middlewares that look at it. `PathBlind` says that one does not, and from
there on the answers are equal (`AnswersCollection.alike`).
-/
import TableApi.Proofs.Api.ResourceServer
import TableApi.Proofs.Routing.Growth
import TableApi.Proofs.Routing.LiteralPath

namespace TableApi.Routing

open Http

-- ================================================================ guards

/-- What runs before a method is refused. -/
def Router.Guarded (router : Router) (guards : List Middleware) : Prop :=
  ∀ r ∈ router.routes, r.methods.guards = guards

section Guards

variable {guards : List Middleware}

theorem MethodRouter.guards_merge? {a b both : MethodRouter} (h : a.merge? b = some both) :
    both.guards = b.guards := by
  unfold merge? at h
  split at h
  · cases h
  · obtain rfl := Option.some.inj h
    rfl

/-- A middleware before a route is not one before its refusal. -/
theorem guards_methodRouter (m : Metadata) (name : String) (controller : Controller)
    (e : RouteEntry) (handler : Handler) :
    (methodRouter m name controller e handler).guards = [] := by
  have hlayers : ∀ (ms : List Middleware) (r : MethodRouter),
      (ms.foldl MethodRouter.routeLayer r).guards = r.guards := by
    intro ms
    induction ms with
    | nil => exact fun r => rfl
    | cons m ms ih => exact fun r => ih (r.routeLayer m)
  exact hlayers _ _

theorem guards_addMethods? {path : String} {new : MethodRouter} (hnew : new.guards = guards) :
    ∀ {paths more : List (String × MethodRouter)}, addMethods? path new paths = some more →
      (∀ x ∈ paths, x.2.guards = guards) → ∀ x ∈ more, x.2.guards = guards
  | [], more, h, _ => by
      obtain rfl := Option.some.inj h
      exact List.forall_mem_singleton.2 hnew
  | (p, r) :: rest, more, h, hpaths => by
      obtain ⟨hfirst, hrest⟩ := List.forall_mem_cons.1 hpaths
      unfold addMethods? at h
      split at h
      case isTrue =>
        obtain ⟨both, hboth, rfl⟩ := Option.map_eq_some_iff.1 h
        exact List.forall_mem_cons.2 ⟨(MethodRouter.guards_merge? hboth).trans hnew, hrest⟩
      case isFalse =>
        obtain ⟨more, hmore, rfl⟩ := Option.map_eq_some_iff.1 h
        exact List.forall_mem_cons.2 ⟨hfirst, guards_addMethods? hnew hmore hrest⟩

theorem Route.guards_insert? {new : Route} (hnew : new.methods.guards = guards) :
    ∀ {old next : List Route}, new.insert? old = some next →
      (∀ r ∈ old, r.methods.guards = guards) → ∀ r ∈ next, r.methods.guards = guards
  | [], next, h, _ => by
      obtain rfl := Option.some.inj h
      exact List.forall_mem_singleton.2 hnew
  | r :: old, next, h, hold => by
      obtain ⟨hfirst, hrest⟩ := List.forall_mem_cons.1 hold
      rcases insert?_cons h with ⟨-, both, hboth, rfl⟩ | ⟨-, -, more, hmore, rfl⟩
      · exact List.forall_mem_cons.2 ⟨(MethodRouter.guards_merge? hboth).trans hnew, hrest⟩
      · exact List.forall_mem_cons.2 ⟨hfirst, guards_insert? hnew hmore hrest⟩

theorem Router.guarded_routes? :
    ∀ {given : List (String × MethodRouter)} {router next : Router},
      given.foldlM (fun router (form, methods) => router.route? form methods) router = some next →
      (∀ x ∈ given, x.2.guards = guards) → router.Guarded guards → next.Guarded guards
  | [], router, next, h, _, hrouter => by
      obtain rfl := Option.some.inj h
      exact hrouter
  | (form, methods) :: given, router, next, h, hgiven, hrouter => by
      obtain ⟨hfirst, hrest⟩ := List.forall_mem_cons.1 hgiven
      obtain ⟨mid, hmid, h⟩ := Option.bind_eq_some_iff.1 h
      obtain ⟨pattern, -, hadd⟩ := Option.bind_eq_some_iff.1 hmid
      have hinsert := router.routes_add? ⟨form, pattern, methods⟩
      rw [hadd] at hinsert
      exact guarded_routes? h hrest (Route.guards_insert? hfirst hinsert.symm hrouter)

theorem Router.guarded_layers {router : Router} (h : router.Guarded guards) :
    ∀ ms : List Middleware, (ms.reverse.foldl layer router).Guarded (ms ++ guards)
  | [] => h
  | m :: ms => by
      rw [List.reverse_cons, List.foldl_append]
      exact List.forall_mem_map.2 fun r hr => congrArg (m :: ·) (guarded_layers h ms r hr)

/-- The middlewares of a controller run before a method is refused, and no
others. -/
theorem guarded_of_plan {m : Metadata} {container : Container} {name : String} {p : Plan}
    (h : plan m container name = .ok p) : p.router.Guarded (m.middlewares name none) := by
  obtain ⟨controller, base, checked, -, -, -, -, hrouter, -⟩ := plan_eq_ok h
  obtain ⟨paths, hpaths, hrouter⟩ := Option.bind_eq_some_iff.1 hrouter
  obtain ⟨bare, hbare, hrouter⟩ := Option.bind_eq_some_iff.1 hrouter
  have hcollected : ∀ x ∈ paths, x.2.guards = [] :=
    foldlM_keeps (P := fun paths : List (String × MethodRouter) => ∀ x ∈ paths, x.2.guards = [])
      (fun _ _ x hadd => guards_addMethods? (guards_methodRouter _ _ _ _ _) hadd) hpaths
      (List.forall_mem_nil _)
  have hforms : ∀ x ∈ paths.flatMap fun (path, methods) =>
      (servedForms base path).map fun form => (form, methods), x.2.guards = [] := by
    intro x hx
    obtain ⟨y, hy, hx⟩ := List.mem_flatMap.1 hx
    obtain ⟨form, -, rfl⟩ := List.mem_map.1 hx
    exact hcollected y hy
  have hguarded := Router.guarded_layers
    (Router.guarded_routes? hbare hforms (List.forall_mem_nil _)) (m.middlewares name none)
  rw [List.append_nil] at hguarded
  exact Option.some.inj hrouter ▸ hguarded

end Guards

-- ============================================================== answering

/-- How requests on a path are answered by the collection route of a
controller. -/
structure AnswersCollection (s : Server) (m : Metadata) (name : String) (controller : Controller)
    (path : String) : Prop where
  /-- A verb that is declared runs into the middlewares and the handler. -/
  served : ∀ e ∈ m.routes name, e.path = "/" →
    ∃ handler, controller.handler? e.handler = some handler
      ∧ ∀ r : Request, r.path = path → s.declaresTooLong r = false → e.verb.Answers r.method →
        s.answer r = if r.method = "HEAD"
          then (Server.serve (targetOf m name controller e handler) (s.call r [])).withoutBody
          else Server.serve (targetOf m name controller e handler) (s.call r [])
  /-- Another method is refused, behind the middlewares of the
  controller. -/
  refused : ∀ r : Request, r.path = path → s.declaresTooLong r = false →
    (∀ e ∈ m.routes name, e.path = "/" → ¬ e.verb.Answers r.method) →
    s.answer r = Dispatch.behindAll (m.middlewares name none)
      (fun _ => .immediate (.bare 405)) (s.call r [])
  tooLong : ∀ r : Request, r.path = path → s.declaresTooLong r = true →
    s.answer r = .immediate Server.tooLong

section Answering

variable {m : Metadata} {name base path : String} {controller : Controller}

/-- The collection route has the base path and the base path with a
slash; no other route has one of these. -/
theorem mem_servedForms_slash (hbase : base ≠ "/") (hpath : path ∈ [base, base ++ "/"])
    {other : String} (hother : Path.IsRooted other) :
    path ∈ servedForms base other ↔ other = "/" := by
  constructor
  · intro hform
    have hslash : path ∈ servedForms base "/" := by
      simpa [servedForms, hbase, or_comm] using hpath
    have hroot : Path.IsRooted "/" := rfl
    by_contra hne
    exact disjoint_servedForms hother hroot hne hform hslash
  · intro heq
    subst heq
    simpa [servedForms, hbase, or_comm] using hpath

/-- What a router has on a path serves there. -/
theorem Router.At.serves_iff {router : Router} {methods : MethodRouter}
    (h : router.At path methods) {verb : Verb} {target : Target} :
    router.Serves path verb target ↔ (verb, target) ∈ methods.targets := by
  obtain ⟨r, hr, heq⟩ := List.mem_map.1 h
  obtain ⟨rfl, rfl⟩ := Prod.mk.inj heq
  exact ⟨fun hserves => hserves.mem_targets hr, fun ht => Router.serves_iff.2 ⟨r, hr, rfl, ht⟩⟩

/-- On a path of the collection route the router of a controller has what is
declared on the slash, and nothing else. -/
theorem mem_targets_collection {checked : List (RouteEntry × Handler)} {router : Router}
    (hrouter : subRouter? m name controller base checked = some router)
    (hrooted : ∀ x ∈ checked, Path.IsRooted x.1.path) (hbase : base ≠ "/")
    (hpath : path ∈ [base, base ++ "/"]) {methods : MethodRouter} (hat : router.At path methods)
    {verb : Verb} {target : Target} :
    (verb, target) ∈ methods.targets
      ↔ ∃ x ∈ checked, x.1.path = "/" ∧ x.1.verb = verb
        ∧ target = targetOf m name controller x.1 x.2 := by
  rw [← hat.serves_iff, serves_subRouter? hrouter]
  constructor
  · intro hserves
    obtain ⟨x, hx, hform, hverb, htarget⟩ := hserves
    have hslash := (mem_servedForms_slash hbase hpath (hrooted x hx)).1 hform
    exact ⟨x, hx, hslash, hverb.symm, htarget⟩
  · intro hserves
    obtain ⟨x, hx, hslash, hverb, htarget⟩ := hserves
    have hform := (mem_servedForms_slash hbase hpath (hrooted x hx)).2 hslash
    exact ⟨x, hx, hform, hverb.symm, htarget⟩

/-- A path of the collection route is answered by its route, if the server
has there what was planned. -/
theorem answersCollection_of_plan {container : Container} {p : Plan} {s : Server}
    (hplan : plan m container name = .ok p)
    (hcontroller : Keyed.get? name container = some controller)
    (hbase : p.mount.basePath ≠ "/") (hpath : path ∈ [p.mount.basePath, p.mount.basePath ++ "/"])
    (hcolon : ':' ∉ path.toList) (hserved : path ∈ p.mount.servedPaths)
    (hread : Route.Read s.router.routes)
    (hthere : ∀ methods, s.router.At path methods ↔ p.router.At path methods) :
    AnswersCollection s m name controller path := by
  have hguarded := guarded_of_plan hplan
  have hrecorded := routesAsRecorded_of_plan hplan
  obtain ⟨controller', base, checked, hcontroller', -, -, hchecked, hrouter, hmount⟩ :=
    plan_eq_ok hplan
  obtain rfl : controller = controller' := Option.some.inj (hcontroller.symm.trans hcontroller')
  rw [hmount] at hbase hpath
  have hrooted : ∀ x ∈ checked, Path.IsRooted x.1.path := fun x hx =>
    Path.isRooted_of_isRoutePath
      (hchecked.paths x.1 (hchecked.entries_eq ▸ List.mem_map_of_mem hx))
  -- the one route on the path, in the server as in the plan
  obtain ⟨planned, hplanned, rfl⟩ := List.mem_map.1 (hrecorded.paths.mem_iff.2 hserved)
  have hat : p.router.At planned.path planned.methods := List.mem_map_of_mem hplanned
  obtain ⟨route, hroute, heq⟩ := List.mem_map.1 ((hthere planned.methods).2 hat)
  obtain ⟨hroutePath, hmethods⟩ : route.path = planned.path ∧ route.methods = planned.methods :=
    Prod.mk.inj heq
  have hfind : s.router.find? planned.path = some (route, []) := by
    rw [← hroutePath]
    exact Router.find?_of_mem hread hroute (hroutePath ▸ hcolon)
  have htargets : ∀ verb target, (verb, target) ∈ route.methods.targets
      ↔ ∃ x ∈ checked, x.1.path = "/" ∧ x.1.verb = verb
        ∧ target = targetOf m name controller x.1 x.2 := by
    intro verb target
    rw [hmethods]
    exact mem_targets_collection hrouter hrooted hbase hpath hat
  constructor
  case served =>
    intro e he hslash
    obtain ⟨x, hx, rfl⟩ := List.mem_map.1 (hchecked.entries_eq.symm ▸ he)
    refine ⟨x.2, hchecked.handlers x hx, fun r hr hlength hmethod => ?_⟩
    have htarget := Server.target?_of_answers ((htargets _ _).2 ⟨x, hx, hslash, rfl, rfl⟩) hmethod
    unfold Server.answer
    rw [hlength, hr, hfind]
    dsimp only
    rw [htarget]
    by_cases hhead : r.method = "HEAD" <;> simp [hhead]
  case refused =>
    intro r hr hlength hnone
    have htarget : Server.target? route r.method = none := by
      cases hsome : Server.target? route r.method with
      | none => rfl
      | some found =>
          obtain ⟨verb, hmem, hanswers⟩ := Api.target?_eq_some hsome
          obtain ⟨x, hx, hslash, rfl, -⟩ := (htargets _ _).1 hmem
          exact absurd hanswers
            (hnone x.1 (hchecked.entries_eq ▸ List.mem_map_of_mem hx) hslash)
    unfold Server.answer
    rw [hlength, hr, hfind]
    dsimp only
    rw [htarget]
    show Dispatch.behindAll route.methods.guards _ _ = _
    rw [hmethods, hguarded planned hplanned]
  case tooLong =>
    intro r _ hlength
    unfold Server.answer
    rw [if_pos hlength]

end Answering

-- ============================================================= blindness

/-- The call for another path. -/
def Call.withPath (call : Call) (path : String) : Call :=
  { call with request := { call.request with path } }

/-- The handler does not look at the path of the request. -/
def Handler.PathBlind (handler : Handler) : Prop :=
  ∀ call path, handler (call.withPath path) = handler call

/-- Passages that differ in the path of what they pass on at most. -/
inductive Passage.Alike : Passage → Passage → Prop
  | answered (response : Response) : Alike (.answered response) (.answered response)
  | passed (call : Call) (path : String) (finish : Response → Response) :
      Alike (.passed call finish) (.passed (call.withPath path) finish)

/-- The middleware does not look at the path of the request. -/
def Middleware.PathBlind (m : Middleware) : Prop :=
  ∀ call path, (m.passage call).Alike (m.passage (call.withPath path))

/-- Neither the middlewares nor the handlers of the collection route of a
controller look at the path of the request. -/
structure CollectionPathBlind (m : Metadata) (name : String) (controller : Controller) : Prop where
  handlers : ∀ e ∈ m.routes name, e.path = "/" → ∀ handler,
    controller.handler? e.handler = some handler → Handler.PathBlind handler
  middlewares : ∀ e ∈ m.routes name, e.path = "/" →
    ∀ mw ∈ m.middlewares name none ++ e.middlewares ++ m.middlewares name (some e.handler),
      mw.PathBlind
  guards : ∀ mw ∈ m.middlewares name none, mw.PathBlind

section Blindness

variable {m : Metadata} {name path other : String} {controller : Controller} {s : Server}

/-- Behind middlewares that do not look at the path, what does not look at
it either is told nothing of it. -/
theorem behindAll_withPath {inner : Call → Dispatch}
    (hinner : ∀ call path, inner (call.withPath path) = inner call) :
    ∀ {ms : List Middleware}, (∀ mw ∈ ms, mw.PathBlind) → ∀ call path,
      Dispatch.behindAll ms inner (call.withPath path) = Dispatch.behindAll ms inner call
  | [], _, call, path => hinner call path
  | mw :: ms, h, call, path => by
      obtain ⟨hfirst, hrest⟩ := List.forall_mem_cons.1 h
      have halike := hfirst call path
      have ih := behindAll_withPath hinner hrest
      unfold Dispatch.behindAll at ih ⊢
      rw [List.foldr_cons, Dispatch.behind, Dispatch.behind]
      generalize mw.passage call = here at halike
      generalize mw.passage (call.withPath path) = there at halike
      cases halike with
      | answered response => rfl
      | passed passed path finish =>
          dsimp only
          rw [ih passed path]

theorem serve_withPath {t : Target} (h : ∀ mw ∈ t.middlewares, mw.PathBlind)
    (hhandler : Handler.PathBlind t.handler) (call : Call) (path : String) :
    Server.serve t (call.withPath path) = Server.serve t call := by
  apply behindAll_withPath _ h
  intro call path
  rw [hhandler call path]

/-- Requests that differ in the path only are answered alike on paths that
the collection route has, if it does not look at the path. -/
theorem AnswersCollection.alike (h : AnswersCollection s m name controller path)
    (hother : AnswersCollection s m name controller other)
    (hblind : CollectionPathBlind m name controller) (r : Request) :
    s.answer { r with path } = s.answer { r with path := other } := by
  by_cases hlength : s.declaresTooLong r = true
  · rw [h.tooLong { r with path } rfl hlength,
      hother.tooLong { r with path := other } rfl hlength]
  · have hlength : s.declaresTooLong r = false := Bool.eq_false_iff.2 hlength
    by_cases hdeclared : ∃ e ∈ m.routes name, e.path = "/" ∧ e.verb.Answers r.method
    · obtain ⟨e, he, hslash, hanswers⟩ := hdeclared
      obtain ⟨handler, hhandler, hserved⟩ := h.served e he hslash
      obtain ⟨handler', hhandler', hserved'⟩ := hother.served e he hslash
      obtain rfl : handler = handler' := Option.some.inj (hhandler.symm.trans hhandler')
      have hserve := serve_withPath (t := targetOf m name controller e handler)
        (hblind.middlewares e he hslash) (hblind.handlers e he hslash handler hhandler)
        (s.call { r with path } []) other
      rw [hserved { r with path } rfl hlength hanswers,
        hserved' { r with path := other } rfl hlength hanswers]
      by_cases hhead : r.method = "HEAD"
      · rw [if_pos hhead, if_pos hhead]
        exact congrArg Dispatch.withoutBody hserve.symm
      · rw [if_neg hhead, if_neg hhead]
        exact hserve.symm
    · have hnone : ∀ e ∈ m.routes name, e.path = "/" → ¬ e.verb.Answers r.method :=
        fun e he hslash hanswers => hdeclared ⟨e, he, hslash, hanswers⟩
      rw [h.refused { r with path } rfl hlength hnone,
        hother.refused { r with path := other } rfl hlength hnone]
      exact (behindAll_withPath (fun _ _ => rfl) hblind.guards _ other).symm

/-- The handlers of the standard controller look at the key, the query and
the body. -/
theorem pathBlind_of_resourceController {r : Resource} {store : Nat} {fields : List String}
    {handler : Handler} {handlerName : String}
    (h : (Api.resourceController r store fields).handler? handlerName = some handler) :
    Handler.PathBlind handler := by
  simp only [Api.resourceController] at h
  split_ifs at h <;> cases h <;> exact fun _ _ => rfl

end Blindness

-- ================================================================ tables

/-- Whatever calls build a table, with an error or without: a controller
in it that has a base path of its own, without parameters, answers its
collection route on the base path and on the base path with a slash by
the same middlewares and handler, and refuses other methods on both
behind its own middlewares. If none of these looks at the path, requests
that differ in nothing else are answered alike. The router that the table
was started from has to leave both paths free. -/
theorem collection_answers_on_both_paths {ground : Router} {bodyLimit : Option Nat}
    {calls : List RegisterCall} (hread : Route.Read ground.routes)
    (hreturn : (RouteTable.mk ground [] bodyLimit).AllReturn calls) {a : Mount}
    (ha : a ∈ ((RouteTable.mk ground [] bodyLimit).afterCalls calls).mounts)
    (hbase : a.basePath ≠ "/") (hcolon : ':' ∉ a.basePath.toList)
    (hdeclared : ∃ verb, (verb, "/") ∈ a.routes)
    (hground : ∀ path ∈ [a.basePath, a.basePath ++ "/"], path ∉ ground.routes.map Route.path) :
    let s := ((RouteTable.mk ground [] bodyLimit).afterCalls calls).server
    ∃ call ∈ calls, ∃ controller,
      Keyed.get? a.controller call.container = some controller
        ∧ a.routes = (call.metadata.routes a.controller).map (fun e => (e.verb, e.path))
        ∧ AnswersCollection s call.metadata a.controller controller a.basePath
        ∧ AnswersCollection s call.metadata a.controller controller (a.basePath ++ "/")
        ∧ (CollectionPathBlind call.metadata a.controller controller → ∀ r : Request,
          s.answer { r with path := a.basePath }
            = s.answer { r with path := a.basePath ++ "/" }) := by
  intro s
  have hgrown := (grown_start ground bodyLimit).afterCalls hreturn
  obtain ⟨call, hcall, p, hplan, hmount, hthere⟩ := hgrown.planned a ha
  obtain ⟨controller, base, checked, hcontroller, -, -, -, -, heq⟩ := plan_eq_ok hplan
  have hroutes : a.routes = (call.metadata.routes a.controller).map fun e => (e.verb, e.path) := by
    rw [← hmount, heq]
  have hanswers : ∀ path ∈ [a.basePath, a.basePath ++ "/"],
      AnswersCollection s call.metadata a.controller controller path := by
    intro path hpath
    obtain ⟨verb, hverb⟩ := hdeclared
    have hserved : path ∈ a.servedPaths := by
      rw [← hmount, Mount.mem_servedPaths (sound_of_plan hplan), hmount]
      exact ⟨_, hverb, by simpa [servedForms, hbase, or_comm] using hpath⟩
    have hpathColon : ':' ∉ path.toList := by
      rcases List.mem_pair.1 hpath with rfl | rfl
      · exact hcolon
      · simpa using hcolon
    subst hmount
    exact answersCollection_of_plan hplan hcontroller hbase hpath hpathColon hserved
      (hgrown.read hread) (hthere path hserved (hground path hpath))
  have hwithout := hanswers a.basePath List.mem_cons_self
  have hwith := hanswers (a.basePath ++ "/") (List.mem_cons_of_mem _ List.mem_cons_self)
  rw [List.nil_append] at hcall
  exact ⟨call, hcall, controller, hcontroller, hroutes, hwithout, hwith,
    fun hblind r => hwithout.alike hwith hblind r⟩

/-- A router with a health route, a controller with a parameter in the
place of the base path, and a standard controller with a middleware. -/
theorem notes_answered_on_both_paths :
    let health : Target := ⟨"health", "report", 0, fun _ => .done (.bare 200), []⟩
    let ground : Router :=
      ⟨[⟨"/health", "/health".toList.map .char, .on .get health⟩], List.nodup_singleton _⟩
    let notes : Resource := ⟨⟨none, "notes", "id", [⟨"id", "int8", true⟩]⟩, .any, .any, .any⟩
    let metadata := (((Api.declareResource .empty "notes" "/notes/" true).guard
        "notes" ⟨"log", fun call => .passed call id⟩).declareBasePath "tags" "/").declareRoute
        "tags" .get "/:tag" "show" []
    let call (name : String) : RegisterCall :=
      ⟨metadata, [("notes", Api.resourceController notes 0 ["text"]),
        ("tags", ⟨1, fun _ => some fun _ => .done (.bare 204)⟩)], [name]⟩
    let calls := [call "tags", call "notes"]
    let t := (RouteTable.mk ground [] none).afterCalls calls
    let a : Mount := ⟨"notes", "/notes", [(.get, "/"), (.get, "/:id"), (.post, "/"),
      (.put, "/:id"), (.patch, "/:id"), (.delete, "/:id"), (.get, "/search")]⟩
    Route.Read ground.routes ∧ (RouteTable.mk ground [] none).AllReturn calls ∧ a ∈ t.mounts
      ∧ (∃ call ∈ calls, ∃ controller,
        Keyed.get? a.controller call.container = some controller
          ∧ a.routes = (call.metadata.routes a.controller).map (fun e => (e.verb, e.path))
          ∧ AnswersCollection t.server call.metadata a.controller controller a.basePath
          ∧ AnswersCollection t.server call.metadata a.controller controller (a.basePath ++ "/")
          ∧ (CollectionPathBlind call.metadata a.controller controller → ∀ r : Request,
            t.server.answer { r with path := a.basePath }
              = t.server.answer { r with path := a.basePath ++ "/" }))
      ∧ ∀ r : Request, t.server.answer { r with path := "/notes" }
          = t.server.answer { r with path := "/notes/" } := by
  intro health ground notes metadata call calls t a
  have hread : Route.Read ground.routes := List.forall_mem_singleton.2 (by decide +kernel)
  have hfirst : ((call "tags").on ⟨ground, [], none⟩).1 = .ok () := by decide +kernel
  have hsecond : ((call "notes").on ((call "tags").on ⟨ground, [], none⟩).2).1 = .ok () := by
    decide +kernel
  have hreturn : (RouteTable.mk ground [] none).AllReturn calls := by
    refine ⟨fun _ => ?_, fun _ => ?_, trivial⟩
    · rw [hfirst]
      nofun
    · rw [hsecond]
      nofun
  have ha : a ∈ t.mounts := by decide +kernel
  have hanswers := collection_answers_on_both_paths hread hreturn ha (by decide) (by decide)
    ⟨.get, by decide⟩ (by decide +kernel)
  refine ⟨hread, hreturn, ha, hanswers, ?_⟩
  obtain ⟨other, hcall, controller, hcontroller, -, -, -, halike⟩ := hanswers
  apply halike
  have hother : other.metadata = metadata
      ∧ other.container = (call "notes").container := by
    rcases List.mem_pair.1 hcall with rfl | rfl <;> exact ⟨rfl, rfl⟩
  rw [hother.2] at hcontroller
  obtain rfl : Api.resourceController notes 0 ["text"] = controller := Option.some.inj hcontroller
  rw [hother.1]
  have hguards : ∀ mw ∈ metadata.middlewares "notes" none, mw.PathBlind :=
    List.forall_mem_singleton.2 fun call path => .passed call path id
  have hroutes : ∀ e ∈ metadata.routes "notes", e.middlewares = [] := by
    have hall : metadata.routes "notes" = Api.resourceRoutes.map
        fun x => ⟨x.1, x.2.1, x.2.2, []⟩ := rfl
    rw [hall]
    exact List.forall_mem_map.2 fun _ _ => rfl
  constructor
  case handlers => exact fun _ _ _ _ hhandler => pathBlind_of_resourceController hhandler
  case middlewares =>
    intro e he _ mw hmw
    have hnone : metadata.middlewares "notes" (some e.handler) = [] := rfl
    rw [hroutes e he, hnone, List.append_nil, List.append_nil] at hmw
    exact hguards mw hmw
  case guards => exact hguards

/-- The two paths are told apart by a handler that writes the path, by a
middleware that does, and by a router that had one of them before. -/
theorem collection_told_apart :
    let health : Target := ⟨"health", "report", 0, fun _ => .done ⟨200, .text "healthy"⟩, []⟩
    let ground : Router :=
      ⟨[⟨"/health", "/health".toList.map .char, .on .get health⟩], List.nodup_singleton _⟩
    let written (call : Call) : Response := ⟨200, .text call.request.path⟩
    let metadata := ((((Metadata.empty.declareBasePath "pages" "/pages").declareRoute
        "pages" .get "/" "show" []).declareRoute
        "pages" .post "/" "show" [⟨"tell", fun call => .answered (written call)⟩]).declareBasePath
        "checks" "/health").declareRoute "checks" .post "/" "check" []
    let controller : Controller := ⟨0, fun _ => some fun call => .done (written call)⟩
    let call : RegisterCall :=
      ⟨metadata, [("pages", controller), ("checks", controller)], ["pages", "checks"]⟩
    let t := (call.on (RouteTable.withRouter ground)).2
    let dispatch (method path : String) : Dispatch :=
      t.server.answer ⟨method, path, "", none, "", none⟩
    let said (method path : String) : Nat × Option String :=
      match ((dispatch method path).run (fun _ => Supply.constant) []).1 with
      | ⟨status, .text s⟩ => (status, some s)
      | ⟨status, _⟩ => (status, none)
    (call.on (RouteTable.withRouter ground)).1 = .ok ()
      ∧ t.mounts.map (fun a => (a.basePath, a.routes))
        = [("/pages", [(.get, "/"), (.post, "/")]), ("/health", [(.post, "/")])]
      ∧ said "GET" "/pages" = (200, some "/pages") ∧ said "GET" "/pages/" = (200, some "/pages/")
      ∧ said "POST" "/pages" = (200, some "/pages") ∧ said "POST" "/pages/" = (200, some "/pages/")
      ∧ said "GET" "/health" = (200, some "healthy") ∧ said "GET" "/health/" = (405, none) := by
  decide +kernel

end TableApi.Routing
