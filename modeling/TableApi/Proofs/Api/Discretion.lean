/-
What responses tell of a failure.

The handlers of a resource make a response of what its service comes to,
and an error of the service is all that they know of a failure. So what
holds of the operations of the service holds of the responses
(`HandlerOperation.careful`): neither status nor body depends on what a
store says in its errors, and a failure in the store is the response to
the failure of one operation.

# Requests

A request comes to a handler past middlewares, each of which may answer
by itself, let another call through, and change the response on the way
back. What they do is settled before the session begins (`through`), and
what they make of the response they make of the response to a failure
(`Reaches.session`). A request that comes to no handler asks no store
(`run_of_not_reaches`).
-/
import TableApi.Proofs.Api.Restraint
import TableApi.Proofs.Service.Discretion
import TableApi.Routing.Dispatch

namespace TableApi.Api

open Json Http Routing

-- ================================================================ handlers

section Handlers

variable {α : Type} {r : Resource}

/-- The handlers of a resource on a call, each with who is to blame for
what. -/
inductive HandlerOperation (r : Resource) : Handler → Call → Blame → Prop
  | findAll (call : Call) : HandlerOperation r (findAll r) call (.counting .findAll [])
  | findById (call : Call) : HandlerOperation r (findById r) call (.only .findById [])
  | search (fields : List String) (call : Call) :
      HandlerOperation r (search r fields) call (.only .findAll [])
  | create (call : Call) :
      HandlerOperation r (create r) call
        (.only .create (bodyRecord r.insert call).toOption.toList)
  | update (call : Call) :
      HandlerOperation r (update r) call
        (.counting .update
          ((pathKey r.table call).bind fun _ => bodyRecord r.patch call).toOption.toList)
  | delete (call : Call) : HandlerOperation r (delete r) call (.counting .delete [])

/-- These are all handlers of the controller of a resource. -/
theorem exists_handlerOperation {store : Nat} {fields : List String} {name : String}
    {handler : Handler} (h : (resourceController r store fields).handler? name = some handler)
    (call : Call) : ∃ b, HandlerOperation r handler call b := by
  simp only [resourceController] at h
  split at h
  · obtain rfl := Option.some.inj h
    exact ⟨_, .findAll call⟩
  split at h
  · obtain rfl := Option.some.inj h
    exact ⟨_, .findById call⟩
  split at h
  · obtain rfl := Option.some.inj h
    exact ⟨_, .search fields call⟩
  split at h
  · obtain rfl := Option.some.inj h
    exact ⟨_, .create call⟩
  split at h
  · obtain rfl := Option.some.inj h
    exact ⟨_, .update call⟩
  split at h
  · obtain rfl := Option.some.inj h
    exact ⟨_, .delete call⟩
  · cases h

/-- The response to an attempt that has failed is that to its failure. -/
theorem careful_respond {b : Blame} {a : Attempt ApiError α}
    (h : Careful r b (fun operation => .error (.query ⟨operation⟩)) (ExceptT.run a))
    (present : α → Response) :
    Careful r b (fun operation => error (.query ⟨operation⟩))
      (respond do return present (← a)) := by
  rw [respond_eq]
  exact h.finish (answered present)

/-- The response to an attempt tells what the attempt does. -/
theorem surfaces_respond {b : StatementKind → Operation} {a : Attempt ApiError Response}
    (h : Service.Tells r b a) :
    Surfaces r b (fun operation => error (.query ⟨operation⟩)) (respond a) := by
  have hrespond : respond a
      = Session.bind (ExceptT.run a) fun result => .done (answered id result) :=
    congrArg _ (funext fun result => by cases result <;> rfl)
  rw [hrespond]
  exact h.finish (answered id)

/-- Taking the input of a request has nothing to tell of the store. -/
theorem tells_taken {b : StatementKind → Operation} (input : Except BadRequest α) :
    Service.Tells r b (taken input) := by
  cases input <;> exact .done _

/-- Choosing the options of a request has nothing to tell of the store. -/
theorem tells_chosen {b : StatementKind → Operation} (options : Except ApiError α) :
    Service.Tells r b (chosen options) := by
  cases options <;> exact .done _

/-- A creation refuses a body that is no object, and tells of its own
failure. -/
theorem careful_create (r : Resource) (call : Call) :
    Careful r (.only .create (bodyRecord r.insert call).toOption.toList)
      (fun operation => error (.query ⟨operation⟩)) (create r call) := by
  have hcreate : create r call = respond (taken (bodyRecord r.insert call) >>= fun payload => do
    return one (← Service.create r payload)) := rfl
  rw [hcreate]
  cases bodyRecord r.insert call with
  | error cause => exact Surfaces.careful (.done _) rfl
  | ok payload => exact careful_respond (ServiceOperation.create payload).careful one

/-- An update does, behind its count. -/
theorem careful_update (r : Resource) (call : Call) :
    Careful r (.counting .update
        ((pathKey r.table call).bind fun _ => bodyRecord r.patch call).toOption.toList)
      (fun operation => error (.query ⟨operation⟩)) (update r call) := by
  have hupdate : update r call = respond (taken (pathKey r.table call) >>= fun key =>
    taken (bodyRecord r.patch call) >>= fun patch => do
      return one (← Service.update r key patch)) := rfl
  rw [hupdate]
  cases pathKey r.table call with
  | error cause => exact Surfaces.careful (.done _) rfl
  | ok key =>
      cases hbody : bodyRecord r.patch call with
      | error cause => exact Surfaces.careful (.done _) rfl
      | ok patch => exact careful_respond (ServiceOperation.update key patch).careful one

/-- A deletion takes no body, and tells of its own failure or of its count.
-/
theorem careful_delete (r : Resource) (call : Call) :
    Careful r (.counting .delete []) (fun operation => error (.query ⟨operation⟩))
      (delete r call) := by
  have hdelete : delete r call = respond (taken (pathKey r.table call) >>= fun key => do
    Service.delete r key
    return noContent) := rfl
  rw [hdelete]
  cases pathKey r.table call with
  | error cause => exact Surfaces.careful (.done _) rfl
  | ok key => exact careful_respond (ServiceOperation.delete key).careful fun _ => noContent

/-- Every standard handler ends where it cannot use an answer, and refuses
payloads that are no objects. -/
theorem HandlerOperation.careful {handler : Handler} {call : Call} {b : Blame}
    (h : HandlerOperation r handler call b) :
    Careful r b (fun operation => error (.query ⟨operation⟩)) (handler call) := by
  cases h with
  | findAll =>
      refine Surfaces.careful (surfaces_respond ((tells_chosen _).attempt fun o => ?_)) rfl
      exact (ServiceOperation.findAndCount o).careful.surfaces.attempt fun _ => .done _
  | findById =>
      refine Surfaces.careful (surfaces_respond ((tells_taken _).attempt fun key => ?_)) rfl
      exact (ServiceOperation.findById key).careful.surfaces.attempt fun _ => .done _
  | search fields =>
      refine Surfaces.careful (surfaces_respond ((tells_chosen _).attempt fun o => ?_)) rfl
      exact (ServiceOperation.findAll _).careful.surfaces.attempt fun _ => .done _
  | create => exact careful_create r call
  | update => exact careful_update r call
  | delete => exact careful_delete r call

end Handlers

-- ================================================================ requests

/-- The call that comes through middlewares, and what they make of the
response to it; `none` if one of them answers by itself. -/
def through : List Middleware → Call → Option (Call × (Response → Response))
  | [], call => some (call, id)
  | m :: ms, call =>
      match m.passage call with
      | .answered _ => none
      | .passed passed finish =>
          (through ms passed).map fun (reached, inner) =>
            (reached, fun response => finish (inner response))

/-- Behind middleware that lets a call pass stands the session of what it
reaches. -/
theorem session_of_through (inner : Call → Dispatch) :
    ∀ {ms : List Middleware} {call reached : Call} {finish : Response → Response},
      through ms call = some (reached, finish) →
        (Dispatch.behindAll ms inner call).session
          = (inner reached).session.bind fun response => .done (finish response)
  | [], call, reached, finish, h => by
      obtain ⟨rfl, rfl⟩ := Prod.mk.inj (Option.some.inj h)
      exact (Session.bind_to_done _).symm
  | m :: ms, call, reached, finish, h => by
      rw [through] at h
      rw [Dispatch.behindAll, List.foldr_cons, Dispatch.behind]
      cases hpassage : m.passage call with
      | answered response =>
          rw [hpassage] at h
          cases h
      | passed passed outer =>
          rw [hpassage] at h
          obtain ⟨⟨reached', inner'⟩, hrest, heq⟩ := Option.map_eq_some_iff.1 h
          obtain ⟨rfl, rfl⟩ := Prod.mk.inj heq
          have hsession := session_of_through inner hrest
          rw [Dispatch.behindAll] at hsession
          dsimp only
          rw [hsession, Session.bind_assoc]
          rfl

/-- Middleware that stops a call answers it without a statement. -/
theorem done_of_through (inner : Call → Dispatch) :
    ∀ {ms : List Middleware} {call : Call}, through ms call = none →
      ∃ response, (Dispatch.behindAll ms inner call).session = .done response
  | m :: ms, call, h => by
      rw [through] at h
      rw [Dispatch.behindAll, List.foldr_cons, Dispatch.behind]
      cases hpassage : m.passage call with
      | answered response => exact ⟨response, rfl⟩
      | passed passed outer =>
          rw [hpassage] at h
          obtain ⟨response, hresponse⟩ :=
            done_of_through inner (Option.map_eq_none_iff.1 h)
          rw [Dispatch.behindAll] at hresponse
          dsimp only
          exact ⟨outer response, by rw [hresponse]; rfl⟩

/-- A request comes to a handler as a call, and its response is finished
before it is sent. -/
inductive Reaches (server : Server) (request : Request) :
    Handler → Call → (Response → Response) → Prop
  | whole {route : Route} {values : List (List Char)} {t : Target} {call : Call}
      {finish : Response → Response} :
      server.declaresTooLong request = false →
      server.router.find? request.path = some (route, values) →
      Server.target? route request.method = some (t, true) →
      through t.middlewares (server.call request values) = some (call, finish) →
        Reaches server request t.handler call finish
  /-- Only the head of the response is wanted. -/
  | head {route : Route} {values : List (List Char)} {t : Target} {call : Call}
      {finish : Response → Response} :
      server.declaresTooLong request = false →
      server.router.find? request.path = some (route, values) →
      Server.target? route request.method = some (t, false) →
      through t.middlewares (server.call request values) = some (call, finish) →
        Reaches server request t.handler call fun response => (finish response).withoutBody

/-- A request that reaches a handler is answered by it. -/
theorem Reaches.session {server : Server} {request : Request} {handler : Handler} {call : Call}
    {finish : Response → Response} (h : Reaches server request handler call finish) :
    (server.answer request).session
      = (handler call).bind fun response => .done (finish response) := by
  cases h with
  | whole hlength hfind htarget hthrough =>
      simp only [Server.answer, hlength, hfind, htarget, Server.serve]
      exact session_of_through _ hthrough
  | head hlength hfind htarget hthrough =>
      simp only [Server.answer, hlength, hfind, htarget, Server.serve, Dispatch.withoutBody]
      exact (congrArg (Session.bind · _) (session_of_through _ hthrough)).trans
        (Session.bind_assoc _ _ _)

/-- What stands behind middlewares and asks no store asks none behind
them. -/
theorem done_behindAll {inner : Call → Dispatch} {response : Response}
    (hinner : ∀ call, (inner call).session = .done response) (ms : List Middleware)
    (call : Call) : ∃ response, (Dispatch.behindAll ms inner call).session = .done response := by
  cases hthrough : through ms call with
  | none => exact done_of_through _ hthrough
  | some passage =>
      obtain ⟨reached, finish⟩ := passage
      exact ⟨finish response, by rw [session_of_through _ hthrough, hinner]; rfl⟩

/-- A target is reached, or a middleware before it answers. -/
theorem reached_or_done (t : Target) (call : Call) :
    (∃ reached finish, through t.middlewares call = some (reached, finish))
      ∨ ∃ response, (Server.serve t call).session = .done response := by
  cases hthrough : through t.middlewares call with
  | none => exact .inr (done_of_through _ hthrough)
  | some passage => exact .inl ⟨passage.1, passage.2, rfl⟩

/-- A request comes to a handler, or is answered without a store. -/
theorem reaches_or_done (server : Server) (request : Request) :
    (∃ handler call finish, Reaches server request handler call finish)
      ∨ ∃ response, (server.answer request).session = .done response := by
  cases hlength : server.declaresTooLong request with
  | true =>
      simp only [Server.answer, hlength]
      exact .inr ⟨_, rfl⟩
  | false =>
  cases hfind : server.router.find? request.path with
  | none =>
      simp only [Server.answer, hlength, hfind]
      exact .inr ⟨_, rfl⟩
  | some found =>
  obtain ⟨route, values⟩ := found
  cases htarget : Server.target? route request.method with
  | none =>
      simp only [Server.answer, hlength, hfind, htarget]
      exact .inr (done_behindAll (fun _ => rfl) _ _)
  | some served =>
  obtain ⟨t, wantsBody⟩ := served
  rcases reached_or_done t (server.call request values) with
    ⟨call, finish, hthrough⟩ | ⟨response, hresponse⟩
  · cases wantsBody with
    | true => exact .inl ⟨_, _, _, .whole hlength hfind htarget hthrough⟩
    | false => exact .inl ⟨_, _, _, .head hlength hfind htarget hthrough⟩
  · cases wantsBody with
    | true =>
        simp only [Server.answer, hlength, hfind, htarget]
        exact .inr ⟨response, hresponse⟩
    | false =>
        simp only [Server.answer, hlength, hfind, htarget]
        exact .inr ⟨response.withoutBody, congrArg (Session.bind · _) hresponse⟩

/-- A request that comes to no handler is answered alike by all stores, and
no statement is sent. -/
theorem run_of_not_reaches {server : Server} {request : Request}
    (h : ∀ handler call finish, ¬ Reaches server request handler call finish) :
    ∃ response, ∀ {σ : Type} (respond : σ → Statement → Answer × σ) (s : σ),
      Session.run respond s (server.answer request).session = (response, [], s) := by
  rcases reaches_or_done server request with ⟨handler, call, finish, hreaches⟩ | ⟨response, hdone⟩
  · exact absurd hreaches (h handler call finish)
  · refine ⟨response, fun respond s => ?_⟩
    rw [hdone]
    rfl

/-- Whatever answers the statements: the operations of a repository and of
a service, and requests that come to a handler of a resource behind any
middlewares, tell of a failure only which operation it was. A request that
comes to no handler tells of none: its response does not depend on the
store. -/
theorem failures_tell_only_the_operation (r : Resource) :
    (∀ {α : Type} {a : Attempt QueryError α} {b : Blame}, RepositoryOperation r a b →
        Discreet r b (fun operation => .error ⟨operation⟩) (ExceptT.run a))
      ∧ (∀ {α : Type} {a : Attempt ApiError α} {b : Blame}, ServiceOperation r a b →
        Discreet r b (fun operation => .error (.query ⟨operation⟩)) (ExceptT.run a))
      ∧ (∀ {server : Server} {request : Request} {handler : Handler} {call : Call}
          {finish : Response → Response} {store : Nat} {fields : List String} {name : String},
        (resourceController r store fields).handler? name = some handler →
          Reaches server request handler call finish →
            ∃ b, HandlerOperation r handler call b
              ∧ Discreet r b (fun operation => finish (error (.query ⟨operation⟩)))
                (server.answer request).session)
      ∧ ∀ (server : Server) (request : Request),
        (∀ handler call finish, ¬ Reaches server request handler call finish) →
          ∃ response, ∀ {σ : Type} (respond : σ → Statement → Answer × σ) (s : σ),
            Session.run respond s (server.answer request).session = (response, [], s) := by
  refine ⟨fun h => h.careful.discreet, fun h => h.careful.discreet, ?_,
    fun server request h => run_of_not_reaches h⟩
  intro server request handler call finish store fields name hhandler hreaches
  obtain ⟨b, hb⟩ := exists_handlerOperation hhandler call
  refine ⟨b, hb, ?_⟩
  rw [hreaches.session]
  exact (hb.careful.finish finish).discreet

/-- A page whose count fails, with one message or another; and a request for a
method that the path is not served for. -/
theorem failed_counts_look_alike :
    let notes : Resource := ⟨⟨none, "notes", "id", [⟨"id", "int8", true⟩]⟩, .any, .any, .any⟩
    let failing (message : String) : Nat → Statement → Answer × Nat := fun n _ =>
      (if n = 0 then .ok [] else .error (.refused message), n + 1)
    let target : Target := ⟨"notes", "find_all", 0, findAll notes, []⟩
    let server : Server := ⟨⟨[⟨"/", [.char '/'], .on .get target⟩], by simp⟩, none⟩
    let request : Request := ⟨"GET", "/", "", none, "", none⟩
    let astray : Request := { request with method := "POST" }
    let page := Repository.findAndCount notes .all
    AnswersAlike (failing "no space left") (failing "no such relation") Eq
      ∧ (Session.run (failing "no space left") 0 (ExceptT.run page)).1 = .error ⟨.count⟩
      ∧ (Session.run (failing "no such relation") 0 (ExceptT.run page)).1 = .error ⟨.count⟩
      ∧ (Session.run (failing "no space left") 0 (server.answer request).session).1
        = (Session.run (failing "no such relation") 0 (server.answer request).session).1
      ∧ (Session.run (failing "no space left") 0 (server.answer request).session).1.status
        = 500
      ∧ (∀ handler call finish, ¬ Reaches server astray handler call finish)
      ∧ ∃ response, ∀ message,
        Session.run (failing message) 0 (server.answer astray).session = (response, [], 0) := by
  intro notes failing target server request astray page
  have halike : AnswersAlike (failing "no space left") (failing "no such relation") Eq := by
    rintro n _ statement rfl
    refine ⟨?_, rfl⟩
    by_cases hn : n = 0
    · simp only [failing, hn]
      exact .rows []
    · simp only [failing, hn]
      exact .errors _ _
  obtain ⟨hrepository, -, hrequests, hothers⟩ := failures_tell_only_the_operation notes
  have hpage := hrepository (.findAndCount .all)
  have hhandler : (resourceController notes 0 []).handler? "find_all" = some (findAll notes) := rfl
  have hfind : server.router.find? request.path
      = some (⟨"/", [.char '/'], .on .get target⟩, []) := by
    simp [server, request, Router.find?, Search.find?, Search.follow, Search.isFork,
      Search.behindChar, Search.atEnd, Candidate.expects, Candidate.afterChar?,
      Candidate.isComplete, Outcome.toOption]
  obtain ⟨b, -, hrequest⟩ := hrequests hhandler (.whole rfl hfind rfl rfl)
  have hsent : (Session.run (failing "no space left") 0 (ExceptT.run page)).2.1
      = [⟨.select notes.table .all, .ok []⟩,
        ⟨.count notes.table none, .error (.refused "no space left")⟩] := rfl
  have hlast : (⟨.count notes.table none, .error (.refused "no space left")⟩ : Session.Exchange)
      ∈ (Session.run (failing "no space left") 0 (ExceptT.run page)).2.1 :=
    hsent ▸ List.mem_cons_of_mem _ List.mem_cons_self
  have hcount : (Session.run (failing "no space left") 0 (ExceptT.run page)).1
      = .error ⟨.count⟩ :=
    hpage.unusable (failing "no space left") 0 _ hlast trivial
  have hastray : ∀ handler call finish, ¬ Reaches server astray handler call finish := by
    intro handler call finish h
    cases h with
    | whole _ hfound htarget _ | head _ hfound htarget _ =>
        obtain ⟨rfl, -⟩ := Prod.mk.inj (Option.some.inj (hfind.symm.trans hfound))
        cases htarget
  obtain ⟨response, hresponse⟩ := hothers server astray hastray
  refine ⟨halike, hcount, ?_, (hrequest.alike halike rfl).1, ?_, hastray,
    response, fun message => hresponse _ 0⟩
  · rw [← (hpage.alike halike rfl).1]
    exact hcount
  · decide +kernel

end TableApi.Api
