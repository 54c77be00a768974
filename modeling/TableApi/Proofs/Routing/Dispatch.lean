/-
Which middlewares run, and in which order.

A request runs into the middlewares of the controller in the order in
which they were declared, then into those of the route, then into those
of its handler, and comes to the handler; the first middleware that
answers it itself ends the way. Other routes have no part in it, not even
those on the same path under other verbs.

# The way to it

`course_behindAll` says what becomes of a call that runs into
middlewares, by induction on them. The rest is about which they are. A
search finds a route of the router (`mem_of_find?`); a call that succeeds
serves every route that was declared (`serves_of_register`), and it goes
on to be served whatever is registered later (`Serves.later`); and since
a path and a verb have one target, that is the one that answers
(`answer_of_reaches`).
-/
import Mathlib.Logic.Relation
import TableApi.Proofs.Routing.Metadata
import TableApi.Proofs.Routing.Router
import TableApi.Routing.Dispatch

namespace TableApi.Routing

open Http

-- =============================================================== finding

namespace Search

variable {α : Type} {ks : List (Candidate α)} {k : Candidate α}

/-- One of the candidates stands for what `k` stands for. -/
def Offers (ks : List (Candidate α)) (k : Candidate α) : Prop := ∃ j ∈ ks, j.item = k.item

/-- What is offered behind a character was offered in front of it. -/
theorem Offers.behindChar {c : Char} (h : Offers (behindChar c ks) k) : Offers ks k := by
  obtain ⟨i, hi, hitem⟩ := h
  obtain ⟨j, hj, hstep⟩ := List.mem_filterMap.1 hi
  refine ⟨j, hj, .trans ?_ hitem⟩
  unfold Candidate.afterChar? at hstep
  split at hstep
  · split at hstep
    · obtain rfl := Option.some.inj hstep
      rfl
    · cases hstep
  · cases hstep

/-- What is offered behind a parameter was offered in front of it. -/
theorem Offers.behindParameter {value : List Char} (h : Offers (behindParameter value ks) k) :
    Offers ks k := by
  obtain ⟨i, hi, hitem⟩ := h
  obtain ⟨j, hj, hstep⟩ := List.mem_filterMap.1 hi
  refine ⟨j, hj, .trans ?_ hitem⟩
  unfold Candidate.afterParameter? at hstep
  split at hstep
  · obtain rfl := Option.some.inj hstep
    rfl
  · cases hstep

/-- What is found at the end was offered. -/
theorem offers_of_atEnd (h : atEnd ks = .found k) : Offers ks k := by
  unfold atEnd at h
  split at h
  case h_1 j hj =>
    obtain rfl := Outcome.found.inj h
    exact ⟨j, List.mem_of_find?_eq_some hj, rfl⟩
  case h_2 => split at h <;> cases h

/-- What is found at a last slash was offered. -/
theorem offers_of_atLastSlash (h : atLastSlash ks = .found k) : Offers ks k := by
  unfold atLastSlash at h
  dsimp only at h
  split at h
  case h_1 j hj =>
    obtain rfl := Outcome.found.inj h
    have hmem := List.mem_of_find?_eq_some hj
    split at hmem
    · exact (Offers.behindChar ⟨j, hmem, rfl⟩).behindParameter
    · exact Offers.behindChar ⟨j, hmem, rfl⟩
  case h_2 => split at h <;> cases h

/-- What is found is one of the candidates. -/
theorem offers_of_follow {path : List Char} (h : follow ks path = .found k) : Offers ks k := by
  fun_induction follow ks path with
  | case1 => cases h
  | case2 => exact offers_of_atEnd h
  | case3 => exact offers_of_atLastSlash h
  | case4 => exact (offers_of_atEnd h).behindParameter
  | case5 => exact (offers_of_atLastSlash h).behindParameter
  | case6 _ _ _ _ _ _ _ _ _ _ _ ih => exact (ih h).behindChar.behindParameter
  | case7 _ _ _ _ _ _ ih => exact (ih h).behindChar

/-- Only an outcome that is found has a value. -/
theorem eq_found_of_toOption {o : Outcome α} (h : o.toOption = some k) : o = .found k := by
  cases o with
  | found j => exact congrArg _ (Option.some.inj h)
  | nothing => cases h
  | givenUp => cases h

/-- What is found in a list of items is one of them. -/
theorem mem_of_find? {items : List (Pattern × α)} {path : List Char} {item : α}
    {values : List (List Char)} (h : find? items path = some (item, values)) :
    ∃ pattern, (pattern, item) ∈ items := by
  obtain ⟨k, hk, heq⟩ := Option.map_eq_some_iff.1 h
  obtain ⟨rfl, rfl⟩ := Prod.mk.inj heq
  obtain ⟨j, hj, hitem⟩ := offers_of_follow (eq_found_of_toOption hk)
  obtain ⟨⟨pattern, item⟩, hmem, rfl⟩ := List.mem_map.1 hj
  exact ⟨pattern, hitem ▸ hmem⟩

end Search

/-- The route that is found is one of the router. -/
theorem Router.mem_of_find? {router : Router} {path : String} {route : Route}
    {values : List (List Char)} (h : router.find? path = some (route, values)) :
    route ∈ router.routes := by
  obtain ⟨pattern, hmem⟩ := Search.mem_of_find? h
  obtain ⟨r, hr, heq⟩ := List.mem_map.1 hmem
  exact (Prod.mk.inj heq).2 ▸ hr

-- ========================================================== serving later

section Later

variable {t : RouteTable} {path : String} {verb : Verb} {target : Target}

open Registering

/-- Mounting serves what is planned beside what there is. -/
theorem serves_of_mountAll :
    ∀ {plans : List Plan} {t : RouteTable}, (on (plans.forM mount) t).1 = .ok () →
      ((on (plans.forM mount) t).2.router.Serves path verb target
        ↔ t.router.Serves path verb target ∨ ∃ p ∈ plans, p.router.Serves path verb target)
  | [], t, _ => by
      refine ⟨.inl, ?_⟩
      rintro (h | ⟨p, hp, -⟩)
      · exact h
      · cases hp
  | p :: plans, t, h => by
      rw [mountAll_on] at h ⊢
      cases hmerge : t.router.merge? p.router with
      | none => rw [hmerge] at h; cases h
      | some router =>
          rw [hmerge] at h
          exact (serves_of_mountAll h).trans <| by
            rw [Router.serves_merge? hmerge, or_assoc, List.exists_mem_cons_iff]

/-- Every controller has been planned. -/
theorem plan_of_planAll {m : Metadata} {container : Container} {name : String} :
    ∀ {names : List String} {mounts : List Mount} {plans : List Plan},
      planAll m container mounts names = .ok plans → name ∈ names →
      ∃ p ∈ plans, plan m container name = .ok p
  | [], _, _, _, hname => by cases hname
  | other :: rest, mounts, plans, h, hname => by
      obtain ⟨p, more, hp, -, hmore, rfl⟩ := planAll_cons_eq_ok h
      rcases List.mem_cons.1 hname with rfl | hname
      · exact ⟨p, List.mem_cons_self, hp⟩
      · obtain ⟨q, hq, hplan⟩ := plan_of_planAll hmore hname
        exact ⟨q, List.mem_cons_of_mem _ hq, hplan⟩

/-- A call that succeeds serves every route of every controller. -/
theorem serves_of_register {call : RegisterCall} (h : (call.on t).1 = .ok ()) {name : String}
    (hname : name ∈ call.controllers) {e : RouteEntry} (he : e ∈ call.metadata.routes name) :
    ∃ controller handler base,
      Keyed.get? name call.container = some controller
        ∧ controller.handler? e.handler = some handler
        ∧ checkBasePath (call.metadata.basePath? name) = .ok base
        ∧ ∀ form ∈ servedForms base e.path, (call.on t).2.router.Serves form e.verb
            (targetOf call.metadata name controller e handler) := by
  unfold RegisterCall.on at h ⊢
  rw [register_on] at h ⊢
  cases hplans : planAll call.metadata call.container t.mounts call.controllers with
  | error cause => rw [hplans] at h; cases h
  | ok plans =>
      rw [hplans] at h
      obtain ⟨p, hp, hplan⟩ := plan_of_planAll hplans hname
      obtain ⟨controller, base, checked, hcontroller, hbase, -, hchecked, hrouter, -⟩ :=
        plan_eq_ok hplan
      obtain ⟨x, hx, rfl⟩ := List.mem_map.1 (hchecked.entries_eq.symm ▸ he)
      exact ⟨controller, x.2, base, hcontroller, hchecked.handlers x hx, hbase, fun form hform =>
        (serves_of_mountAll h).2
          (.inr ⟨p, hp, (serves_subRouter? hrouter).2 ⟨x, hx, hform, rfl, rfl⟩⟩)⟩

/-- A call that returns, with an error or without, turns the first table
into the second one. -/
def RouteTable.Next (t t' : RouteTable) : Prop :=
  ∃ call : RegisterCall, (∀ controller, (call.on t).1 ≠ .error (.unroutable controller))
    ∧ (call.on t).2 = t'

/-- The second table is the first one after any number of calls that
return. -/
def RouteTable.Later : RouteTable → RouteTable → Prop := Relation.ReflTransGen RouteTable.Next

/-- What is served goes on to be served. -/
theorem Router.Serves.next {t t' : RouteTable} (h : t.router.Serves path verb target)
    (hnext : t.Next t') : t'.router.Serves path verb target := by
  obtain ⟨call, hreturns, rfl⟩ := hnext
  unfold RegisterCall.on at hreturns ⊢
  rw [register_on] at hreturns ⊢
  cases hplans : planAll call.metadata call.container t.mounts call.controllers with
  | error cause => exact h
  | ok plans =>
      rw [hplans] at hreturns
      dsimp only at hreturns ⊢
      cases hresult : (on (plans.forM mount) t).1 with
      | ok => exact (serves_of_mountAll hresult).2 (.inl h)
      | error cause =>
          obtain ⟨controller, rfl⟩ := unroutable_of_mountAll hresult
          exact absurd hresult (hreturns controller)

/-- What a router serves it serves in every later table. -/
theorem Router.Serves.later {t t' : RouteTable} (h : t.router.Serves path verb target)
    (hlater : t.Later t') : t'.router.Serves path verb target := by
  induction hlater with
  | refl => exact h
  | tail _ hnext ih => exact ih.next hnext

end Later

-- ================================================================ passing

/-- The middlewares let the call `call` pass as `last`, and make of a
response what `finish` makes of it. -/
inductive Passes : List Middleware → Call → Call → (Response → Response) → Prop
  | nil (call : Call) : Passes [] call call id
  | cons {m : Middleware} {ms : List Middleware} {call passed last : Call}
      {outer finish : Response → Response} (hpassage : m.passage call = .passed passed outer) :
      Passes ms passed last finish → Passes (m :: ms) call last (outer ∘ finish)

def entries (ms : List Middleware) : List Event := ms.map fun m => .entered m.name

def exits (ms : List Middleware) : List Event := ms.reverse.map fun m => .left m.name

/-- What becomes of a call that runs into a chain of middlewares before a
handler: all let it pass, or the first of them that does not answers
it. -/
inductive Course (chain : List Middleware) (handled : Event) (store : Nat) (handler : Handler)
    (call : Call) : Dispatch → Prop
  | handled {last : Call} {finish : Response → Response} (hpasses : Passes chain call last finish) :
      Course chain handled store handler call
        ⟨entries chain ++ handled :: exits chain, store,
          (handler last).bind fun r => .done (finish r)⟩
  | answered {before after : List Middleware} {m : Middleware} {last : Call}
      {finish : Response → Response} {response : Response}
      (hchain : chain = before ++ m :: after) (hpasses : Passes before call last finish)
      (hpassage : m.passage last = .answered response) :
      Course chain handled store handler call
        ⟨entries before ++ .entered m.name :: exits before, 0, .done (finish response)⟩

/-- Around what runs behind it, a middleware is entered and left. -/
theorem events_within (m : Middleware) (ms : List Middleware) (inner : Event) :
    .entered m.name :: (entries ms ++ inner :: exits ms) ++ [.left m.name]
      = entries (m :: ms) ++ inner :: exits (m :: ms) := by
  simp [entries, exits]

variable {chain : List Middleware} {handled : Event} {store : Nat} {handler : Handler}
  {call : Call}

/-- A middleware that lets a call pass comes in front of the course of the
rest. -/
theorem Course.behind {m : Middleware} {passed : Call} {outer : Response → Response}
    {d : Dispatch} (hpassage : m.passage call = .passed passed outer)
    (h : Course chain handled store handler passed d) :
    Course (m :: chain) handled store handler call
      { d with
        events := .entered m.name :: d.events ++ [.left m.name]
        session := d.session.bind fun r => .done (outer r) } := by
  cases h with
  | handled hpasses =>
      dsimp only
      rw [events_within, Session.bind_assoc]
      exact .handled (.cons hpassage hpasses)
  | @answered before after m' last finish response hchain hpasses hanswered =>
      have hcourse : Course (m :: chain) handled store handler call
          ⟨entries (m :: before) ++ .entered m'.name :: exits (m :: before), 0,
            .done ((outer ∘ finish) response)⟩ :=
        .answered (congrArg (m :: ·) hchain) (.cons hpassage hpasses) hanswered
      rwa [← events_within] at hcourse

/-- Running into middlewares takes one of these courses. -/
theorem course_behindAll (handled : Event) (store : Nat) (handler : Handler) :
    ∀ (ms : List Middleware) (call : Call), Course ms handled store handler call
      (Dispatch.behindAll ms (fun call => ⟨[handled], store, handler call⟩) call)
  | [], call => by
      have hsession : ((handler call).bind fun r => .done (id r)) = handler call :=
        Session.bind_to_done _
      have hcourse : Course [] handled store handler call
          ⟨[handled], store, (handler call).bind fun r => .done (id r)⟩ := .handled (.nil call)
      rwa [hsession] at hcourse
  | m :: ms, call => by
      have ih := course_behindAll handled store handler ms
      unfold Dispatch.behindAll at ih ⊢
      rw [List.foldr_cons, Dispatch.behind]
      cases hpassage : m.passage call with
      | answered response => exact .answered (List.nil_append _).symm (.nil call) hpassage
      | passed passed outer => exact (ih passed).behind hpassage

-- =============================================================== requests

namespace Verb

/-- The verb serves requests with the method. -/
def Answers (verb : Verb) (method : String) : Prop :=
  method = verb.method ∨ (verb = .get ∧ method = "HEAD")

/-- Every verb has a method of its own. -/
theorem method_injective {verb other : Verb} (h : verb.method = other.method) : verb = other := by
  cases verb <;> cases other <;> first | rfl | exact absurd h (by decide)

/-- None of them is HEAD. -/
theorem method_ne_head (verb : Verb) : verb.method ≠ "HEAD" := by
  cases verb <;> decide

end Verb

namespace Server

/-- A request comes to a route of a controller with the base path: it is
not refused for its length, and the path that is found for it and its
method are those of the route. -/
def Reaches (s : Server) (r : Request) (base : String) (e : RouteEntry)
    (values : List (List Char)) : Prop :=
  s.declaresTooLong r = false
    ∧ (∃ route, s.router.find? r.path = some (route, values)
        ∧ route.path ∈ servedForms base e.path)
    ∧ e.verb.Answers r.method

/-- The target of a verb is the one that its method has. -/
theorem find?_target {route : Route} {verb : Verb} {t : Target}
    (h : (verb, t) ∈ route.methods.targets) :
    route.methods.targets.find? (fun (v, _) => v.method == verb.method) = some (verb, t) := by
  cases hfind : route.methods.targets.find? (fun (v, _) => v.method == verb.method) with
  | none => exact absurd (List.find?_eq_none.1 hfind _ h) (by simp)
  | some x =>
      obtain ⟨other, u⟩ := x
      have hmethod : other.method = verb.method := by simpa using List.find?_some hfind
      obtain rfl := Verb.method_injective hmethod
      rw [MethodRouter.target_unique h (List.mem_of_find?_eq_some hfind)]

/-- A route has a target for each verb that answers a method, and HEAD is
answered without a body. -/
theorem target?_of_answers {route : Route} {verb : Verb} {t : Target} {method : String}
    (h : (verb, t) ∈ route.methods.targets) (hmethod : verb.Answers method) :
    target? route method = some (t, decide (method ≠ "HEAD")) := by
  have hfind := find?_target h
  unfold target?
  dsimp only
  rcases hmethod with rfl | ⟨rfl, rfl⟩
  · rw [if_neg verb.method_ne_head, hfind, decide_eq_true verb.method_ne_head]
    rfl
  · have hhead : decide (("HEAD" : String) ≠ "HEAD") = false := decide_eq_false fun h => h rfl
    rw [if_pos rfl, hhead]
    exact congrArg (fun x => (x.map Prod.snd).map fun u => (u, false)) hfind

/-- What serves a request that reaches a route is the target of the
route. -/
theorem answer_of_reaches {s : Server} {r : Request} {base : String} {e : RouteEntry}
    {values : List (List Char)} {t : Target} (h : s.Reaches r base e values)
    (ht : ∀ form ∈ servedForms base e.path, s.router.Serves form e.verb t) :
    s.answer r = if r.method = "HEAD" then (serve t (s.call r values)).withoutBody
      else serve t (s.call r values) := by
  obtain ⟨hlength, ⟨route, hfind, hform⟩, hverb⟩ := h
  -- Of the routes found for the path, and of the targets for the verb, there is one.
  have hmem := (ht route.path hform).mem_targets (Router.mem_of_find? hfind)
  have htarget := target?_of_answers hmem hverb
  unfold answer
  rw [if_neg (by simp [hlength]), hfind]
  dsimp only
  rw [htarget]
  by_cases hhead : r.method = "HEAD" <;> simp [hhead]

end Server

/-- A base path that passes is normalized. -/
theorem normalized_of_checkBasePath {path base : String}
    (h : checkBasePath (some path) = .ok base) : base = Path.normalized path := by
  unfold checkBasePath at h
  dsimp only at h
  split at h
  · exact (Except.ok.inj h).symm
  · cases h

/-- Whatever is declared in whatever order: once a controller has been
registered, a request that reaches one of its routes runs into the
middlewares of the controller, then those of the route, then those of its
handler, each as they were declared, and then into the handler, unless
one of them answers before; and so it stays after later calls. -/
theorem middlewares_run_in_order {ds : List Declared} {container : Container}
    {names : List String} {t t' : RouteTable}
    (hregister : (RegisterCall.on ⟨.ofDeclarations ds, container, names⟩ t).1 = .ok ())
    (hlater : (RegisterCall.on ⟨.ofDeclarations ds, container, names⟩ t).2.Later t')
    {name path : String} (hname : name ∈ names) (hpath : basePathOf? name ds = some path)
    {e : RouteEntry} (he : e ∈ routesOf name ds) {r : Request} {values : List (List Char)}
    (hreaches : t'.server.Reaches r (Path.normalized path) e values) :
    ∃ controller handler d,
      Keyed.get? name container = some controller
        ∧ controller.handler? e.handler = some handler
        ∧ Course (guardsOf none name ds ++ e.middlewares ++ guardsOf (some e.handler) name ds)
            (.handled name e.handler) controller.store handler (t'.server.call r values) d
        ∧ t'.server.answer r = if r.method = "HEAD" then d.withoutBody else d := by
  obtain ⟨controller, handler, base, hcontroller, hhandler, hbase, hserves⟩ :=
    serves_of_register hregister hname (Metadata.routes_ofDeclarations name ds ▸ he)
  dsimp only at hbase hserves
  rw [Metadata.basePath?_ofDeclarations, hpath] at hbase
  obtain rfl := normalized_of_checkBasePath hbase
  have hanswer := Server.answer_of_reaches hreaches fun form hform =>
    (hserves form hform).later hlater
  have hcourse := course_behindAll (.handled name e.handler) controller.store handler
    (guardsOf none name ds ++ e.middlewares ++ guardsOf (some e.handler) name ds)
    (t'.server.call r values)
  refine ⟨controller, handler, _, hcontroller, hhandler, hcourse, ?_⟩
  rw [hanswer, Server.serve, targetOf, Metadata.middlewares_ofDeclarations,
    Metadata.middlewares_ofDeclarations]

/-- Declarations between one another, two verbs on one path, a request for
it with a slash behind it, and a middleware of the handler that answers. -/
theorem middlewares_run_until_denied :
    let pass (name : String) : Middleware := ⟨name, fun call => .passed call id⟩
    let deny : Middleware := ⟨"deny", fun _ => .answered (.bare 401)⟩
    let hello : RouteEntry := ⟨.get, "/", "hello", [pass "route-1", pass "route-2"]⟩
    let ds : List Declared :=
      [("greet", .guardMethod "hello" (pass "method")), ("greet", .route hello),
        ("greet", .guard (pass "class-1")), ("other", .guard (pass "other")),
        ("greet", .basePath "/greet/"), ("greet", .route ⟨.post, "/", "bye", [pass "bye"]⟩),
        ("greet", .guardMethod "hello" deny), ("greet", .guard (pass "class-2"))]
    let container : Container := [("greet", ⟨0, fun _ => some fun _ => .done (.bare 204)⟩)]
    let t := RegisterCall.on ⟨.ofDeclarations ds, container, ["greet"]⟩ .empty
    let r : Request := ⟨"GET", "/greet/", "", none, "", none⟩
    t.1 = .ok () ∧ basePathOf? "greet" ds = some "/greet/" ∧ hello ∈ routesOf "greet" ds
      ∧ t.2.server.Reaches r (Path.normalized "/greet/") hello []
      ∧ (∃ controller handler d,
          Keyed.get? "greet" container = some controller
            ∧ controller.handler? "hello" = some handler
            ∧ Course (guardsOf none "greet" ds ++ hello.middlewares
                ++ guardsOf (some "hello") "greet" ds) (.handled "greet" "hello") controller.store
              handler (t.2.server.call r []) d
            ∧ t.2.server.answer r = if r.method = "HEAD" then d.withoutBody else d)
      ∧ (t.2.server.answer r).events
        = [.entered "class-1", .entered "class-2", .entered "route-1", .entered "route-2",
          .entered "method", .entered "deny", .left "method", .left "route-2", .left "route-1",
          .left "class-2", .left "class-1"] := by
  intro pass deny hello ds container t r
  have hregister : t.1 = .ok () := by decide +kernel
  have hpath : basePathOf? "greet" ds = some "/greet/" := by decide +kernel
  have hhello : hello ∈ routesOf "greet" ds :=
    List.mem_filterMap.2 ⟨("greet", .route hello), by simp [ds], rfl⟩
  have hreaches : t.2.server.Reaches r (Path.normalized "/greet/") hello [] := by
    have hfind : (t.2.server.router.find? r.path).map (fun x => (x.1.path, x.2))
        = some ("/greet/", []) := by decide +kernel
    obtain ⟨⟨route, values⟩, hfind, heq⟩ := Option.map_eq_some_iff.1 hfind
    obtain ⟨hform, rfl⟩ := Prod.mk.inj heq
    have hforms : "/greet/" ∈ servedForms (Path.normalized "/greet/") hello.path := by
      decide +kernel
    exact ⟨by decide +kernel, ⟨route, hfind, hform ▸ hforms⟩, .inl rfl⟩
  exact ⟨hregister, hpath, hhello, hreaches,
    middlewares_run_in_order hregister .refl (List.mem_singleton.2 rfl) hpath hhello hreaches,
    by decide +kernel⟩

end TableApi.Routing
