/-
Registering controllers.

The routes of a controller are checked in the order in which they were
declared, and the first fault is reported. Controllers do not share a
path, nor a base path other than `/`. Controllers are mounted when the
last one has been checked, so a fault leaves the table as it was.
-/
import TableApi.Routing.Path
import TableApi.Routing.Router

namespace TableApi.Routing

-- ================================================================ faults

/-- What is wrong with the declarations of a controller. -/
inductive Misconfiguration where
  | unresolved
  | missingBasePath
  | invalidBasePath (path : String)
  | duplicateBasePath (path : String)
  | noRoutes
  | missingHandler (handler : String)
  | invalidRoutePath (handler path : String)
  | conflictingRoute (path existing : String)
  | duplicateRoute (verb : Verb) (path : String)
deriving DecidableEq

namespace Misconfiguration

def message : Misconfiguration → String
  | unresolved => "could not be resolved from the container"
  | missingBasePath => "base path is not defined"
  | invalidBasePath path => "invalid base path '" ++ path ++ "'"
  | duplicateBasePath path => "base path '" ++ path ++ "' is already mounted"
  | noRoutes => "no routes defined"
  | missingHandler handler => "method " ++ handler ++ " is not defined"
  | invalidRoutePath handler path =>
      "invalid route path '" ++ path ++ "' for " ++ handler
  | conflictingRoute path existing =>
      "route '" ++ path ++ "' conflicts with '" ++ existing ++ "'"
  | duplicateRoute verb path => "duplicate route " ++ verb.method ++ " " ++ path

end Misconfiguration

inductive RegistrationError where
  | misconfigured (controller : String) (cause : Misconfiguration)
  /-- The router cannot hold the routes of a controller. No error is
  returned then: the program stops. -/
  | unroutable (controller : String)
deriving DecidableEq

namespace RegistrationError

def message : RegistrationError → String
  | misconfigured controller cause => "controller " ++ controller ++ ": " ++ cause.message
  | unroutable controller => "controller " ++ controller ++ ": no router holds its routes"

end RegistrationError

-- ================================================================ mounts

/-- A controller that has been mounted. -/
structure Mount where
  controller : String
  basePath : String
  /-- Verbs and paths below the base path, in the order declared. -/
  routes : List (Verb × String)
deriving DecidableEq

namespace Mount

/-- Verbs and full paths. -/
def fullPaths (m : Mount) : List (Verb × String) :=
  m.routes.map fun (verb, path) => (verb, Path.join m.basePath path)

/-- The paths that a full path is served on: the collection route has
one more. -/
def forms (m : Mount) (full : String) : List String :=
  if full = m.basePath ∧ m.basePath ≠ "/" then [full, full ++ "/"] else [full]

/-- The paths served, each once. -/
def servedPaths (m : Mount) : List String :=
  (m.fullPaths.flatMap fun (_, full) => m.forms full).foldl
    (fun paths p => if paths.contains p then paths else paths ++ [p]) []

end Mount

/-- The router with a record of what is mounted on it. -/
structure RouteTable where
  router : Router
  mounts : List Mount
  /-- The largest body in bytes, if there is a limit. -/
  bodyLimit : Option Nat

namespace RouteTable

def empty : RouteTable := ⟨.empty, [], none⟩

/-- Starts from a router that serves some paths already. -/
def withRouter (router : Router) : RouteTable := ⟨router, [], none⟩

def withBodyLimit (t : RouteTable) (bytes : Nat) : RouteTable :=
  { t with bodyLimit := some bytes }

def isEmpty (t : RouteTable) : Bool := t.mounts.isEmpty

end RouteTable

-- ============================================================= planning

/-- Checks a base path and normalizes it. -/
def checkBasePath : Option String → Except Misconfiguration String
  | none => .error .missingBasePath
  | some path =>
      if Path.isBasePath path then .ok (Path.normalized path)
      else .error (.invalidBasePath path)

/-- Checks a route beside those declared before it, and finds its
handler. -/
def checkRoute (controller : Controller) (earlier : List RouteEntry) (e : RouteEntry) :
    Except Misconfiguration (RouteEntry × Handler) :=
  match controller.handler? e.handler with
  | none => .error (.missingHandler e.handler)
  | some handler =>
      if !Path.isRoutePath e.path then .error (.invalidRoutePath e.handler e.path)
      else if earlier.any fun o => o.verb = e.verb && o.path == e.path then
        .error (.duplicateRoute e.verb e.path)
      else match earlier.find? fun o => Path.conflict o.path e.path with
        | some o => .error (.conflictingRoute e.path o.path)
        | none => .ok (e, handler)

/-- Checks the routes of a controller in turn. -/
def checkRoutes (controller : Controller) (earlier : List RouteEntry) :
    List RouteEntry → Except Misconfiguration (List (RouteEntry × Handler))
  | [] => .ok []
  | e :: rest => do
      let checked ← checkRoute controller earlier e
      let more ← checkRoutes controller (earlier ++ [e]) rest
      return checked :: more

/-- The forms of a path below a base path: the collection route is served
with a slash behind the base path too. -/
def servedForms (base path : String) : List String :=
  if path = "/" ∧ base ≠ "/" then [base ++ "/", base] else [Path.join base path]

/-- The method router of one checked route. The middlewares of the route
stand before those of its handler: the last one put in front runs
first. -/
def methodRouter (m : Metadata) (name : String) (controller : Controller) (e : RouteEntry)
    (handler : Handler) : MethodRouter :=
  let chain := e.middlewares ++ m.middlewares name (some e.handler)
  chain.reverse.foldl MethodRouter.routeLayer
    (.on e.verb ⟨name, e.handler, controller.store, handler, []⟩)

/-- Adds verbs to a path among those below a base path. -/
def addMethods? (path : String) (new : MethodRouter) :
    List (String × MethodRouter) → Option (List (String × MethodRouter))
  | [] => some [(path, new)]
  | (p, r) :: rest =>
      if p = path then (r.merge? new).map fun both => (p, both) :: rest
      else (addMethods? path new rest).map ((p, r) :: ·)

/-- The router of a controller's checked routes: the verbs of a path come
together first, then every path is mounted in all its forms, and the
middlewares of the controller stand before them all. -/
def subRouter? (m : Metadata) (name : String) (controller : Controller) (base : String)
    (checked : List (RouteEntry × Handler)) : Option Router := do
  let paths ← checked.foldlM (fun paths (e, handler) =>
    addMethods? e.path (methodRouter m name controller e handler) paths) []
  let forms := paths.flatMap fun (path, methods) =>
    (servedForms base path).map fun form => (form, methods)
  let router ← forms.foldlM (fun router (form, methods) => router.route? form methods) .empty
  return (m.middlewares name none).reverse.foldl Router.layer router

/-- A controller ready to be mounted. -/
structure Plan where
  mount : Mount
  router : Router

/-- Checks the declarations of a controller and builds its router. -/
def plan (m : Metadata) (container : Container) (name : String) :
    Except RegistrationError Plan := do
  let wrap {α : Type} (x : Except Misconfiguration α) : Except RegistrationError α :=
    x.mapError (.misconfigured name)
  let some controller := Keyed.get? name container
    | throw (.misconfigured name .unresolved)
  let base ← wrap (checkBasePath (m.basePath? name))
  let entries := m.routes name
  if entries.isEmpty then throw (.misconfigured name .noRoutes)
  let checked ← wrap (checkRoutes controller [] entries)
  let some router := subRouter? m name controller base checked
    | throw (.unroutable name)
  return ⟨⟨name, base, entries.map fun e => (e.verb, e.path)⟩, router⟩

-- ========================================================== registering

/-- A path that is there already and leaves no room for another. -/
def clash? (served : List String) (path : String) : Option String :=
  served.find? fun s => s == path || Path.conflict s path

/-- Checks the paths of a mount against those served. -/
def checkPaths (served : List String) : List String → Except Misconfiguration Unit
  | [] => .ok ()
  | path :: rest =>
      match clash? served path with
      | some existing => .error (.conflictingRoute path existing)
      | none => checkPaths served rest

/-- Checks a mount against those there are. -/
def checkMount (mounts : List Mount) (new : Mount) : Except Misconfiguration Unit :=
  if new.basePath ≠ "/" ∧ mounts.any (·.basePath == new.basePath) then
    .error (.duplicateBasePath new.basePath)
  else checkPaths (mounts.flatMap Mount.servedPaths) new.servedPaths

/-- Plans controllers in turn, each checked against the mounts there are
and the plans before it. -/
def planAll (m : Metadata) (container : Container) (mounts : List Mount) :
    List String → Except RegistrationError (List Plan)
  | [] => .ok []
  | name :: rest => do
      let p ← plan m container name
      (checkMount mounts p.mount).mapError (.misconfigured name)
      let more ← planAll m container (mounts ++ [p.mount]) rest
      return p :: more

/-- A computation on a table. What it has changed stays changed if it
ends in an error. -/
abbrev Registering := ExceptT RegistrationError (StateM RouteTable)

/-- Mounts a planned controller. If no router holds its routes, the table
is left with none. -/
def mount (p : Plan) : Registering Unit := do
  let t ← get
  match t.router.merge? p.router with
  | some router => set { t with router, mounts := t.mounts ++ [p.mount] }
  | none =>
      set { t with router := .empty }
      throw (.unroutable p.mount.controller)

/-- Plans all controllers, and then mounts them in turn. -/
def register (m : Metadata) (container : Container) (names : List String) :
    Registering Unit := do
  let t ← get
  match planAll m container t.mounts names with
  | .ok plans => plans.forM mount
  | .error e => throw e

end TableApi.Routing
