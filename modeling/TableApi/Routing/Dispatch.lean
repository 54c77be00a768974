/-
Answering requests.

The middlewares before a handler are entered from the outermost inwards
and left in reverse; one that answers itself ends the way in. Which of
them run and what becomes of the request is settled before the session
with the store begins.
-/
import TableApi.Encoding.Percent
import TableApi.Routing.Registration
import TableApi.Store.Execute

namespace TableApi.Routing

open Http

/-- What happens on the way of a request. -/
inductive Event where
  | entered (middleware : String)
  | left (middleware : String)
  | handled (controller handler : String)
deriving DecidableEq

/-- How a request is answered: what happens on the way, and the session
that comes to the response, with the number of its store. -/
structure Dispatch where
  events : List Event
  store : Nat
  session : Session Response

namespace Dispatch

/-- A response that needs no store. -/
def immediate (r : Response) : Dispatch := ⟨[], 0, .done r⟩

/-- Runs into a middleware first. -/
def behind (m : Middleware) (inner : Call → Dispatch) (call : Call) : Dispatch :=
  match m.passage call with
  | .answered response => { immediate response with events := [.entered m.name] }
  | .passed passed finish =>
      let d := inner passed
      { d with
        events := .entered m.name :: d.events ++ [.left m.name]
        session := d.session.bind fun r => .done (finish r) }

/-- Runs into middlewares first, the outermost at the head. -/
def behindAll (ms : List Middleware) (inner : Call → Dispatch) : Call → Dispatch :=
  ms.foldr behind inner

/-- The answer without its body. -/
def withoutBody (d : Dispatch) : Dispatch :=
  { d with session := d.session.bind fun r => .done r.withoutBody }

/-- Runs the session on its store among numbered ones, each with a supply
of its own: the response, the exchanges with the store, and the stores
that are left. -/
def run (supply : Nat → Supply) (stores : List Store) (d : Dispatch) :
    Response × List Session.Exchange × List Store :=
  let (response, exchanges, store) :=
    d.session.run (Store.execute (supply d.store)) ((stores[d.store]?).getD .empty)
  (response, exchanges, stores.set d.store store)

end Dispatch

/-- A router ready for requests. -/
structure Server where
  router : Router
  bodyLimit : Option Nat

def RouteTable.server (t : RouteTable) : Server := ⟨t.router, t.bodyLimit⟩

namespace Server

/-- No body is read beyond this length, whatever the limit of the
server. -/
def readLimit : Nat := 2097152

/-- The body as far as handlers may read it. -/
def readableBody (s : Server) (r : Request) : Option String :=
  let within := s.bodyLimit.all (r.bodyLength ≤ ·) && r.bodyLength ≤ readLimit
  if within then some r.body else none

/-- The parameters of a path, decoded; `none` if one is not text. -/
def decodeAll (values : List (List Char)) : Option (List String) :=
  values.mapM fun v => (Percent.decodeText? v).map String.ofList

/-- The target of a method, and whether it wants a body. A request for
the head only is served where `GET` is. -/
def target? (route : Route) (method : String) : Option (Target × Bool) :=
  let named (name : String) : Option Target :=
    (route.methods.targets.find? fun (verb, _) => verb.method == name).map (·.2)
  if method = "HEAD" then (named "GET").map (·, false)
  else (named method).map (·, true)

/-- A request with the parameters in its path as the call that is made of
it. -/
def call (s : Server) (r : Request) (values : List (List Char)) : Call :=
  ⟨r, decodeAll values, s.readableBody r⟩

/-- Answers a call that a target serves. -/
def serve (t : Target) : Call → Dispatch :=
  Dispatch.behindAll t.middlewares fun call =>
    ⟨[.handled t.controller t.handlerName], t.store, t.handler call⟩

/-- Refuses the method of a call. -/
def refuse (route : Route) : Call → Dispatch :=
  Dispatch.behindAll route.methods.guards fun _ => .immediate (.bare 405)

/-- The answer to a request that declares too long a body. -/
def tooLong : Response := ⟨413, .text "length limit exceeded"⟩

/-- Whether a request declares a body beyond the limit. -/
def declaresTooLong (s : Server) (r : Request) : Bool :=
  match s.bodyLimit, r.declaredLength with
  | some limit, some length => limit < length
  | _, _ => false

/-- Answers a request: 404 on an unknown path, 405 for an unknown method
of a path. -/
def answer (s : Server) (r : Request) : Dispatch :=
  if s.declaresTooLong r then .immediate tooLong
  else match s.router.find? r.path with
    | none => .immediate (.bare 404)
    | some (route, values) =>
        match target? route r.method with
        | some (t, true) => serve t (s.call r values)
        | some (t, false) => (serve t (s.call r values)).withoutBody
        | none => refuse route (s.call r values)

end Server

end TableApi.Routing
