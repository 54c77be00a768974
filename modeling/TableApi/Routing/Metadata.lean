/-
What is declared of controllers: base paths, routes and middlewares.

An entry belongs to a controller, to one of its members or to none, and
has a kind. Attaching a base path replaces the one before; routes and
middlewares are appended in the order in which they are declared.
-/
import TableApi.Keyed
import TableApi.Routing.Handler

namespace TableApi.Routing

inductive Verb where
  | get
  | post
  | put
  | patch
  | delete
deriving DecidableEq

namespace Verb

def all : List Verb := [get, post, put, patch, delete]

/-- The verb as a request method. -/
def method : Verb → String
  | get => "GET"
  | post => "POST"
  | put => "PUT"
  | patch => "PATCH"
  | delete => "DELETE"

end Verb

structure RouteEntry where
  verb : Verb
  /-- The path below the base path. -/
  path : String
  /-- The name of the handler. -/
  handler : String
  middlewares : List Middleware

namespace Metadata

inductive Kind where
  | basePath
  | routes
  | middlewares
deriving DecidableEq

/-- A value to attach. -/
inductive Attachment where
  | basePath (path : String)
  | route (entry : RouteEntry)
  | middlewares (list : List Middleware)

namespace Attachment

def kind : Attachment → Kind
  | basePath _ => .basePath
  | route _ => .routes
  | middlewares _ => .middlewares

end Attachment

/-- What is attached in one place. -/
inductive Entry where
  | basePath (path : String)
  | routes (entries : List RouteEntry)
  | middlewares (list : List Middleware)

/-- The place of an entry; without a member it belongs to the controller
itself. -/
structure Place where
  controller : String
  member : Option String
  kind : Kind
deriving DecidableEq

namespace Entry

/-- The entry that a first attachment makes. -/
def ofAttachment : Attachment → Entry
  | .basePath path => basePath path
  | .route entry => routes [entry]
  | .middlewares list => middlewares list

/-- The entry after one more attachment. Routes and middlewares are ignored
where the entry is of another kind. -/
def extend : Entry → Attachment → Entry
  | _, .basePath path => basePath path
  | routes entries, .route entry => routes (entries ++ [entry])
  | middlewares list, .middlewares more => middlewares (list ++ more)
  | entry, _ => entry

end Entry

end Metadata

open Metadata

/-- Everything declared. -/
structure Metadata where
  entries : List (Place × Entry)

namespace Metadata

def empty : Metadata := ⟨[]⟩

def read (m : Metadata) (kind : Kind) (controller : String) (member : Option String) :
    Option Entry :=
  Keyed.get? ⟨controller, member, kind⟩ m.entries

/-- Attaches a value to a controller or to one of its members. -/
def attach (m : Metadata) (controller : String) (member : Option String)
    (value : Attachment) : Metadata :=
  let entry := match m.read value.kind controller member with
    | some entry => entry.extend value
    | none => .ofAttachment value
  ⟨Keyed.put ⟨controller, member, value.kind⟩ entry m.entries⟩

/-- The base path of a controller. -/
def basePath? (m : Metadata) (controller : String) : Option String :=
  match m.read .basePath controller none with
  | some (.basePath path) => some path
  | _ => none

/-- The routes of a controller. -/
def routes (m : Metadata) (controller : String) : List RouteEntry :=
  match m.read .routes controller none with
  | some (.routes entries) => entries
  | _ => []

/-- The middlewares of a controller, or of one of its members. -/
def middlewares (m : Metadata) (controller : String) (member : Option String) :
    List Middleware :=
  match m.read .middlewares controller member with
  | some (.middlewares list) => list
  | _ => []

-- ========================================================= declarations

variable (m : Metadata) (controller : String)

def declareBasePath (path : String) : Metadata :=
  m.attach controller none (.basePath path)

def declareRoute (verb : Verb) (path handler : String) (list : List Middleware) :
    Metadata :=
  m.attach controller none (.route ⟨verb, path, handler, list⟩)

/-- Puts a middleware before all routes of a controller. -/
def guard (middleware : Middleware) : Metadata :=
  m.attach controller none (.middlewares [middleware])

/-- Puts a middleware before the routes that lead to a handler. -/
def guardMethod (handler : String) (middleware : Middleware) : Metadata :=
  m.attach controller (some handler) (.middlewares [middleware])

end Metadata

end TableApi.Routing
