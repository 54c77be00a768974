/-
Servers of resources.

A server that is made by registering standard controllers, in any number of
calls that may fail, serves nothing but standard handlers, each under a
verb of its own, and puts no middleware before them. So what holds of every
standard handler holds of every request: the router answers what it cannot
route without a store, and hands the rest to one handler.

The registration decides what is mounted, not the handlers; nothing is
assumed of it here. A call that fails half-way, or that stops the program
and leaves an empty router, serves no more than standard handlers either.
-/
import TableApi.Proofs.Api.Restraint
import TableApi.Proofs.Routing.Dispatch
import TableApi.Proofs.Routing.Metadata

namespace TableApi.Api

open Http Routing Session

-- ==================================================== standard controllers

/-- The standard handlers under the verbs that they are declared with. -/
inductive Standard : Verb → Handler → Prop
  | findAll (r : Resource) : Standard .get (findAll r)
  | findById (r : Resource) : Standard .get (findById r)
  | search (r : Resource) (fields : List String) : Standard .get (search r fields)
  | create (r : Resource) : Standard .post (create r)
  | replace (r : Resource) : Standard .put (update r)
  | update (r : Resource) : Standard .patch (update r)
  | delete (r : Resource) : Standard .delete (delete r)

/-- Every standard handler is restrained. -/
theorem Standard.restrained {verb : Verb} {handler : Handler} (h : Standard verb handler)
    (supply : Supply) (s : Store) (call : Call) : Restrained supply s (handler call) := by
  cases h with
  | findAll r => exact restrained_of_readsOnly (readsOnly_findAll call)
  | findById r => exact restrained_of_readsOnly (readsOnly_findById call)
  | search r fields => exact restrained_of_readsOnly (readsOnly_search fields call)
  | create r => exact restrained_create call
  | replace r => exact restrained_update call
  | update r => exact restrained_update call
  | delete r => exact restrained_delete call

/-- Under GET it reads only. -/
theorem Standard.readsOnly {handler : Handler} (h : Standard .get handler) (call : Call) :
    ReadsOnly (handler call) := by
  cases h with
  | findAll r => exact readsOnly_findAll call
  | findById r => exact readsOnly_findById call
  | search r fields => exact readsOnly_search fields call

/-- The standard routes, with that of a search. -/
def resourceRoutes : List (Verb × String × String) := standardRoutes ++ [searchRoute]

/-- A standard route leads to a standard handler. -/
theorem standard_of_route {verb : Verb} {path name : String} {r : Resource} {store : Nat}
    {fields : List String} {handler : Handler} (hroute : (verb, path, name) ∈ resourceRoutes)
    (h : (resourceController r store fields).handler? name = some handler) :
    Standard verb handler := by
  simp only [resourceRoutes, standardRoutes, searchRoute, List.cons_append, List.nil_append,
    List.mem_cons, List.not_mem_nil, or_false, Prod.mk.injEq] at hroute
  rcases hroute with ⟨rfl, rfl, rfl⟩ | ⟨rfl, rfl, rfl⟩ | ⟨rfl, rfl, rfl⟩ | ⟨rfl, rfl, rfl⟩ |
    ⟨rfl, rfl, rfl⟩ | ⟨rfl, rfl, rfl⟩ | ⟨rfl, rfl, rfl⟩
  · obtain rfl := Option.some.inj h
    exact .findAll r
  · obtain rfl := Option.some.inj h
    exact .findById r
  · obtain rfl := Option.some.inj h
    exact .create r
  · obtain rfl := Option.some.inj h
    exact .replace r
  · obtain rfl := Option.some.inj h
    exact .update r
  · obtain rfl := Option.some.inj h
    exact .delete r
  · by_cases hfields : fields = []
    · subst hfields
      cases h
    · have hsearch : (resourceController r store fields).handler? "search"
          = if "search" = "search" ∧ fields ≠ [] then some (search r fields) else none := rfl
      rw [hsearch, if_pos ⟨rfl, hfields⟩] at h
      obtain rfl := Option.some.inj h
      exact .search r fields

-- ============================================================ registration

/-- A standard controller under a base path, with or without a search. -/
structure DeclaredResource where
  name : String
  basePath : String
  withSearch : Bool

/-- A standard controller by its name, with the number of the store that it
uses. -/
structure ProvidedResource where
  name : String
  resource : Resource
  store : Nat
  searchFields : List String

/-- A call to register standard controllers: those that are declared, those
that are ready, and the names of those that are wanted. -/
structure ResourceCall where
  declared : List DeclaredResource
  provided : List ProvidedResource
  controllers : List String

namespace DeclaredResource

/-- The declarations of a standard controller one by one. -/
def declarations (d : DeclaredResource) : List Declared :=
  (d.name, .basePath d.basePath)
    :: (standardRoutes ++ if d.withSearch then [searchRoute] else []).map
        fun (verb, path, handler) => (d.name, .route ⟨verb, path, handler, []⟩)

/-- A standard controller is declared step by step. -/
theorem declareResource_eq (m : Metadata) (d : DeclaredResource) :
    declareResource m d.name d.basePath d.withSearch = d.declarations.foldl Metadata.declare m := by
  obtain ⟨name, basePath, withSearch⟩ := d
  cases withSearch <;> rfl

end DeclaredResource

namespace ResourceCall

def metadata (call : ResourceCall) : Metadata :=
  call.declared.foldl (fun m d => declareResource m d.name d.basePath d.withSearch) .empty

def container (call : ResourceCall) : Container :=
  call.provided.map fun p => (p.name, resourceController p.resource p.store p.searchFields)

def toRegisterCall (call : ResourceCall) : RegisterCall :=
  ⟨call.metadata, call.container, call.controllers⟩

/-- All that a call declares is declared step by step. -/
theorem metadata_eq (call : ResourceCall) :
    call.metadata = .ofDeclarations (call.declared.flatMap DeclaredResource.declarations) := by
  have hfold : ∀ (ds : List DeclaredResource) (m : Metadata),
      ds.foldl (fun m d => declareResource m d.name d.basePath d.withSearch) m
        = (ds.flatMap DeclaredResource.declarations).foldl Metadata.declare m := by
    intro ds
    induction ds with
    | nil => exact fun m => rfl
    | cons d ds ih =>
        intro m
        rw [List.foldl_cons, ih, DeclaredResource.declareResource_eq, List.flatMap_cons,
          List.foldl_append]
  exact hfold call.declared .empty

/-- A declaration of a standard controller is its base path or a standard
route without middlewares. -/
theorem mem_declarations {call : ResourceCall} {d : Declared}
    (h : d ∈ call.declared.flatMap DeclaredResource.declarations) :
    (∃ path, d.2 = .basePath path)
      ∨ ∃ x ∈ resourceRoutes, d.2 = .route ⟨x.1, x.2.1, x.2.2, []⟩ := by
  obtain ⟨declared, -, hd⟩ := List.mem_flatMap.1 h
  rcases List.mem_cons.1 hd with rfl | hd
  · exact .inl ⟨_, rfl⟩
  · obtain ⟨x, hx, rfl⟩ := List.mem_map.1 hd
    refine .inr ⟨x, ?_, rfl⟩
    rcases List.mem_append.1 hx with hx | hx
    · exact List.mem_append_left _ hx
    · split at hx
      · exact List.mem_append_right _ hx
      · cases hx

/-- A route that is declared is one of the standard ones, with no
middleware. -/
theorem mem_routes {call : ResourceCall} {name : String} {e : RouteEntry}
    (h : e ∈ call.metadata.routes name) :
    (e.verb, e.path, e.handler) ∈ resourceRoutes ∧ e.middlewares = [] := by
  rw [metadata_eq, Metadata.routes_ofDeclarations] at h
  obtain ⟨d, hd, hroute⟩ := List.mem_filterMap.1 h
  split at hroute
  · rcases mem_declarations hd with ⟨path, hpath⟩ | ⟨x, hx, hdeclared⟩
    · rw [hpath] at hroute
      cases hroute
    · rw [hdeclared] at hroute
      obtain rfl := Option.some.inj hroute
      exact ⟨hx, rfl⟩
  · cases hroute

/-- No handler has middleware declared for it. -/
theorem middlewares_metadata (call : ResourceCall) (name : String) (handler : Option String) :
    call.metadata.middlewares name handler = [] := by
  rw [metadata_eq, Metadata.middlewares_ofDeclarations]
  refine List.filterMap_eq_nil_iff.2 fun d hd => ?_
  split
  · rcases mem_declarations hd with ⟨path, hpath⟩ | ⟨x, hx, hdeclared⟩
    · rw [hpath]
      rfl
    · rw [hdeclared]
      rfl
  · rfl

/-- What is ready under a name is a standard controller. -/
theorem get?_container {name : String} {controller : Controller} :
    ∀ {provided : List ProvidedResource},
      Keyed.get? name (provided.map fun p =>
          (p.name, resourceController p.resource p.store p.searchFields)) = some controller →
        ∃ p ∈ provided, controller = resourceController p.resource p.store p.searchFields
  | [], h => by cases h
  | p :: provided, h => by
      rw [List.map_cons, Keyed.get?] at h
      split at h
      · exact ⟨p, List.mem_cons_self, (Option.some.inj h).symm⟩
      · obtain ⟨q, hq, heq⟩ := get?_container h
        exact ⟨q, List.mem_cons_of_mem _ hq, heq⟩

end ResourceCall

/-- The server that calls to register standard controllers come to, from
an empty table with a limit for bodies or without. -/
def resourceServer (bodyLimit : Option Nat) (calls : List ResourceCall) : Server :=
  ((RouteTable.mk .empty [] bodyLimit).afterCalls (calls.map ResourceCall.toRegisterCall)).server

-- ======================================================== what is served

/-- Everything that the router serves is a standard handler, behind no
middleware. -/
def ServesStandard (router : Router) : Prop :=
  ∀ path verb target, router.Serves path verb target →
    Standard verb target.handler ∧ target.middlewares = []

/-- A router without routes serves nothing else. -/
theorem servesStandard_empty : ServesStandard .empty := fun _ _ _ h => absurd h serve_nil

/-- Two routers that serve nothing else do so together. -/
theorem ServesStandard.merge? {router other merged : Router} (h : ServesStandard router)
    (hother : ServesStandard other) (hmerge : router.merge? other = some merged) :
    ServesStandard merged := by
  intro path verb target hserves
  rcases (Router.serves_merge? hmerge).1 hserves with hserves | hserves
  · exact h path verb target hserves
  · exact hother path verb target hserves

/-- The router that is planned for a controller serves standard handlers. -/
theorem servesStandard_of_plan {call : ResourceCall} {name : String} {p : Plan}
    (h : plan call.metadata call.container name = .ok p) : ServesStandard p.router := by
  obtain ⟨controller, base, checked, hcontroller, -, -, hchecked, hrouter, -⟩ := plan_eq_ok h
  intro path verb target hserves
  obtain ⟨x, hx, -, rfl, rfl⟩ := (serves_subRouter? hrouter).1 hserves
  obtain ⟨hroute, hmiddlewares⟩ := ResourceCall.mem_routes
    (hchecked.entries_eq ▸ List.mem_map_of_mem hx)
  obtain ⟨provided, -, rfl⟩ := ResourceCall.get?_container hcontroller
  refine ⟨standard_of_route hroute (hchecked.handlers x hx), ?_⟩
  rw [targetOf, hmiddlewares, ResourceCall.middlewares_metadata, ResourceCall.middlewares_metadata]
  rfl

/-- The routers that are planned for a whole call serve standard handlers.
-/
theorem servesStandard_of_planAll {call : ResourceCall} :
    ∀ {names : List String} {mounts : List Mount} {plans : List Plan},
      planAll call.metadata call.container mounts names = .ok plans →
        ∀ p ∈ plans, ServesStandard p.router
  | [], _, _, h => by
      obtain rfl := Except.ok.inj h
      exact List.forall_mem_nil _
  | name :: rest, mounts, plans, h => by
      obtain ⟨p, more, hp, -, hmore, rfl⟩ := planAll_cons_eq_ok h
      exact List.forall_mem_cons.2 ⟨servesStandard_of_plan hp, servesStandard_of_planAll hmore⟩

/-- Mounting them keeps it so. -/
theorem servesStandard_of_mountAll :
    ∀ {plans : List Plan} {t : RouteTable}, ServesStandard t.router →
      (∀ p ∈ plans, ServesStandard p.router) →
        ServesStandard (Registering.on (plans.forM mount) t).2.router
  | [], _, h, _ => h
  | p :: plans, t, h, hplans => by
      obtain ⟨hp, hrest⟩ := List.forall_mem_cons.1 hplans
      rw [mountAll_on]
      cases hmerge : t.router.merge? p.router with
      | none => exact servesStandard_empty
      | some router => exact servesStandard_of_mountAll (h.merge? hp hmerge) hrest

/-- A call to register keeps it so, even one that fails. -/
theorem servesStandard_call {t : RouteTable} (h : ServesStandard t.router) (call : ResourceCall) :
    ServesStandard (call.toRegisterCall.on t).2.router := by
  unfold RegisterCall.on
  rw [register_on]
  cases hplans : planAll call.toRegisterCall.metadata call.toRegisterCall.container t.mounts
      call.toRegisterCall.controllers with
  | error e => exact h
  | ok plans => exact servesStandard_of_mountAll h (servesStandard_of_planAll hplans)

/-- By induction any calls do. -/
theorem servesStandard_calls :
    ∀ (calls : List ResourceCall) {t : RouteTable}, ServesStandard t.router →
      ServesStandard (t.afterCalls (calls.map ResourceCall.toRegisterCall)).router
  | [], _, h => h
  | call :: calls, _, h => servesStandard_calls calls (servesStandard_call h call)

/-- The server that they come to serves standard handlers only. -/
theorem servesStandard_resourceServer (bodyLimit : Option Nat) (calls : List ResourceCall) :
    ServesStandard (resourceServer bodyLimit calls).router :=
  servesStandard_calls calls servesStandard_empty

-- =============================================================== requests

/-- Middlewares before a response that is there already send nothing. -/
theorem readsOnly_behindAll {inner : Call → Dispatch}
    (hinner : ∀ call, ReadsOnly (inner call).session) (ms : List Middleware) (call : Call) :
    ReadsOnly (Dispatch.behindAll ms inner call).session := by
  induction ms generalizing call with
  | nil => exact hinner call
  | cons m ms ih =>
      rw [Dispatch.behindAll, List.foldr_cons, Dispatch.behind]
      cases m.passage call with
      | answered response => exact .done response
      | passed passed finish => exact (ih passed).bind fun response => .done _

/-- What answers a method is declared under a verb of that name. -/
theorem mem_of_find?_method {targets : List (Verb × Target)} {name : String} {t : Target}
    (h : (targets.find? fun (verb, _) => verb.method == name).map (·.2) = some t) :
    ∃ verb, (verb, t) ∈ targets ∧ verb.method = name := by
  obtain ⟨⟨verb, u⟩, hfind, rfl⟩ := Option.map_eq_some_iff.1 h
  exact ⟨verb, List.mem_of_find?_eq_some hfind, by simpa using List.find?_some hfind⟩

/-- The target of a method is among those of the path, under a verb that
serves the method. -/
theorem target?_eq_some {route : Route} {method : String} {t : Target} {wantsBody : Bool}
    (h : Server.target? route method = some (t, wantsBody)) :
    ∃ verb, (verb, t) ∈ route.methods.targets ∧ verb.Answers method := by
  unfold Server.target? at h
  dsimp only at h
  split at h
  · next hhead =>
    obtain ⟨u, hu, heq⟩ := Option.map_eq_some_iff.1 h
    obtain ⟨verb, hmem, hverb⟩ := mem_of_find?_method hu
    exact ⟨verb, (Prod.mk.inj heq).1 ▸ hmem, .inr ⟨Verb.method_injective hverb, hhead⟩⟩
  · obtain ⟨u, hu, heq⟩ := Option.map_eq_some_iff.1 h
    obtain ⟨verb, hmem, hverb⟩ := mem_of_find?_method hu
    exact ⟨verb, (Prod.mk.inj heq).1 ▸ hmem, .inl hverb.symm⟩

/-- A request is answered without a statement, or by a standard handler
under a verb that serves its method, whose response keeps its status. -/
inductive Routed (request : Request) : Dispatch → Prop
  | unrouted {d : Dispatch} : ReadsOnly d.session → Routed request d
  | handled {d : Dispatch} {verb : Verb} {handler : Handler} {call : Call}
      {finish : Response → Response} :
      Standard verb handler → verb.Answers request.method →
        (∀ response, (finish response).status = response.status) →
          d.session = (handler call).bind (fun response => .done (finish response)) →
            Routed request d

/-- Without middleware a target is served by its handler. -/
theorem session_serve {t : Target} (h : t.middlewares = []) (call : Call) :
    (Server.serve t call).session = t.handler call := by
  rw [Server.serve, h]
  rfl

/-- Every request is routed: there is nothing to serve it, or a standard
handler. -/
theorem routed_answer {server : Server} (h : ServesStandard server.router) (request : Request) :
    Routed request (server.answer request) := by
  unfold Server.answer
  split
  · exact .unrouted (.done _)
  · split
    · exact .unrouted (.done _)
    · next route values hfind =>
      have hserved : ∀ {t : Target} {wantsBody : Bool},
          Server.target? route request.method = some (t, wantsBody) →
            ∃ verb, verb.Answers request.method ∧ Standard verb t.handler ∧ t.middlewares = [] := by
        intro t wantsBody htarget
        obtain ⟨verb, hmem, hverb⟩ := target?_eq_some htarget
        exact ⟨verb, hverb, h route.path verb t
          (Router.serves_iff.2 ⟨route, Router.mem_of_find? hfind, rfl, hmem⟩)⟩
      split
      · next t htarget =>
        obtain ⟨verb, hverb, hstandard, hbare⟩ := hserved htarget
        have hsession : (Server.serve t (server.call request values)).session
            = (t.handler (server.call request values)).bind fun response => .done (id response) :=
          (session_serve hbare _).trans (Session.bind_to_done _).symm
        exact .handled hstandard hverb (fun _ => rfl) hsession
      · next t htarget =>
        obtain ⟨verb, hverb, hstandard, hbare⟩ := hserved htarget
        have hsession : (Server.serve t (server.call request values)).withoutBody.session
            = (t.handler (server.call request values)).bind fun response =>
                .done response.withoutBody :=
          congrArg (Session.bind · _) (session_serve hbare _)
        have hstatus : ∀ response : Response, response.withoutBody.status = response.status :=
          fun _ => rfl
        exact .handled hstandard hverb hstatus hsession
      · exact .unrouted (readsOnly_behindAll (fun _ => .done _) _ _)

/-- Rewriting the response leaves the statements as they are. -/
theorem run_finish {supply : Supply} {s : Store} {finish : Response → Response}
    (a : Session Response) :
    run (Store.execute supply) s (a.bind fun response => .done (finish response))
      = (finish (run (Store.execute supply) s a).1, (run (Store.execute supply) s a).2) := by
  rw [Session.run_bind]
  simp only [run_done, List.append_nil]

/-- A response that keeps its status is as restrained as before. -/
theorem Restrained.finish {supply : Supply} {s : Store} {a : Session Response}
    {finish : Response → Response} (h : Restrained supply s a)
    (hfinish : ∀ response, (finish response).status = response.status) :
    Restrained supply s (a.bind fun response => .done (finish response)) := by
  constructor
  · rw [run_finish]
    exact h.atMostOne
  · rw [run_finish, BlamesRequest, hfinish]
    exact h.spared

/-- However a request is routed, its answer is restrained. -/
theorem Routed.restrained {request : Request} {d : Dispatch} (h : Routed request d)
    (supply : Supply) (s : Store) : Restrained supply s d.session := by
  cases h with
  | unrouted hreads => exact restrained_of_readsOnly hreads
  | handled hstandard _ hfinish hsession =>
      rw [hsession]
      exact (hstandard.restrained supply s _).finish hfinish

/-- A request that asks to read is answered by reading. -/
theorem Routed.readsOnly {request : Request} {d : Dispatch} (h : Routed request d)
    (hmethod : request.method = "GET" ∨ request.method = "HEAD") : ReadsOnly d.session := by
  cases h with
  | unrouted hreads => exact hreads
  | @handled verb handler call finish hstandard hverb _ hsession =>
      obtain rfl : verb = .get := by
        rcases hverb with hverb | ⟨hget, -⟩
        · rcases hmethod with hmethod | hmethod
          · exact Verb.method_injective (hverb.symm.trans hmethod)
          · exact absurd (hverb.symm.trans hmethod) verb.method_ne_head
        · exact hget
      rw [hsession]
      exact (hstandard.readsOnly call).bind fun response => .done _

/-- Where a request sends no write, the rows of all stores are as they
were. -/
theorem rows_run_dispatch {supply : Nat → Supply} {stores : List Store} {d : Dispatch}
    (h : writes (d.run supply stores).2.1 = []) (t : Table) :
    (d.run supply stores).2.2.map (·.rows t) = stores.map (·.rows t) := by
  have hrows := rows_run_of_writes_eq_nil t d.session ((stores[d.store]?).getD .empty) h
  have hstores : (d.run supply stores).2.2 = stores.set d.store
      (run (Store.execute (supply d.store)) ((stores[d.store]?).getD .empty) d.session).2.2 := rfl
  rw [hstores, List.map_set, hrows]
  cases hstore : stores[d.store]? with
  | none =>
      rw [List.set_eq_of_length_le]
      rw [List.length_map]
      exact List.getElem?_eq_none_iff.1 hstore
  | some s =>
      obtain ⟨hnumber, rfl⟩ := List.getElem?_eq_some_iff.1 hstore
      rw [Option.getD_some, ← List.map_set, List.set_getElem_self]

/-- Whatever standard controllers are registered by whatever calls, and
whatever their stores hold: a request whose response blames it has sent no
write and changed no rows, a request to read sends no write, and no request
sends more than one. -/
theorem refused_requests_write_nothing (bodyLimit : Option Nat) (calls : List ResourceCall)
    (supply : Nat → Supply) (stores : List Store) (request : Request) :
    let dispatch := (resourceServer bodyLimit calls).answer request
    let (response, exchanges, left) := dispatch.run supply stores
    (BlamesRequest response →
        writes exchanges = [] ∧ ∀ t, left.map (·.rows t) = stores.map (·.rows t))
      ∧ (request.method = "GET" ∨ request.method = "HEAD" → writes exchanges = [])
      ∧ (writes exchanges).length ≤ 1 := by
  intro dispatch
  have hrouted := routed_answer (servesStandard_resourceServer bodyLimit calls) request
  have hrestrained := hrouted.restrained (supply dispatch.store)
    ((stores[dispatch.store]?).getD .empty)
  refine ⟨fun hblames => ?_, fun hmethod => ?_, hrestrained.atMostOne⟩
  · have hnone := hrestrained.spared hblames
    exact ⟨hnone, rows_run_dispatch hnone⟩
  · exact (hrouted.readsOnly hmethod).writes_run _ _

/-- A change of a note that there is not is refused behind the count; that
of one that there is goes on to write. -/
example :
    let notes : Resource := ⟨⟨none, "notes", "id", [⟨"id", "int8", true⟩]⟩, .any, .any, .any⟩
    let server := resourceServer none
      [⟨[⟨"notes", "/notes", true⟩], [⟨"notes", notes, 0, ["text"]⟩], ["notes"]⟩]
    let stores := [Store.empty.setRows notes.table [Row.empty.set "id" (.int 1)]]
    let statements (path : String) : Nat × List StatementKind :=
      let request : Request := ⟨"PATCH", path, "", some "application/json", "\x7b\x7d", none⟩
      let answer := (server.answer request).run (fun _ => Supply.constant) stores
      (answer.1.status, answer.2.1.map (·.statement.kind))
    statements "/notes/7" = (404, [.count]) ∧ statements "/notes/1" = (200, [.count, .update]) := by
  decide +kernel

end TableApi.Api
