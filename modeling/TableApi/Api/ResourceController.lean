/-
The standard controller of a resource.

It lists, reads, creates, changes and deletes records, and searches them
if it has fields to search.
-/
import TableApi.Api.Envelope
import TableApi.Api.Input
import TableApi.Routing.Metadata
import TableApi.Service

namespace TableApi.Api

open Json Http Routing TableApi.Filter

variable (r : Resource)

-- ============================================================== handlers

/-- Goes on with what was read from a call. -/
def taken {α : Type} (input : Except BadRequest α) : Attempt ApiError α :=
  match input with
  | .ok a => pure a
  | .error cause => throw (.badRequest cause)

/-- Goes on with options. -/
def chosen {α : Type} (options : Except ApiError α) : Attempt ApiError α :=
  match options with
  | .ok a => pure a
  | .error e => throw e

/-- The response that an attempt comes to. -/
def respond (a : Attempt ApiError Response) : Session Response :=
  Session.bind a.run fun
    | .ok response => .done response
    | .error e => .done (error e)

def findAll : Handler := fun call => respond do
  let options ← chosen (FindOptions.ofParams (queryParams call))
  let (records, total) ← Service.findAndCount r options
  return many records (some total)

def findById : Handler := fun call => respond do
  let key ← taken (pathKey r.table call)
  return one (← Service.findById r key)

def create : Handler := fun call => respond do
  let record ← taken (bodyRecord r.insert call)
  return one (← Service.create r record)

def update : Handler := fun call => respond do
  let key ← taken (pathKey r.table call)
  let patch ← taken (bodyRecord r.patch call)
  return one (← Service.update r key patch)

def delete : Handler := fun call => respond do
  let key ← taken (pathKey r.table call)
  Service.delete r key
  return noContent

/-- The filter of a search: a field contains the term, or the term is the
primary key. -/
def searchFilter (fields : List String) (term : String) : Group :=
  let contains (field : String) : Node := .rule ⟨field, .contains, some (.string term)⟩
  let isKey : List Node := match Key.parseFor r.table.keyColumn? term with
    | .ok key => [.rule ⟨r.table.primaryKey, .equals, some key.toValue⟩]
    | .error _ => []
  .anyOf (fields.map contains ++ isKey)

/-- Searches for the term in the parameter `query`; the other parameters
are those of a list, except that a filter in them is not used. -/
def search (fields : List String) : Handler := fun call => respond do
  let params := queryParams call
  let term := (params "query").getD ""
  let options ← chosen (FindOptions.ofParams params)
  let records ← Service.findAll r { options with filter := some (searchFilter r fields term) }
  return many records none

/-- The controller of a resource. -/
def resourceController (store : Nat) (searchFields : List String) : Controller where
  store
  handler? name :=
    if name = "find_all" then some (findAll r)
    else if name = "find_by_id" then some (findById r)
    else if name = "search" ∧ searchFields ≠ [] then some (search r searchFields)
    else if name = "create" then some (create r)
    else if name = "update" then some (update r)
    else if name = "delete" then some (delete r)
    else none

-- ================================================================ routes

/-- The standard routes, with the names of their handlers. -/
def standardRoutes : List (Verb × String × String) :=
  [(.get, "/", "find_all"), (.get, "/:id", "find_by_id"), (.post, "/", "create"),
    (.put, "/:id", "update"), (.patch, "/:id", "update"), (.delete, "/:id", "delete")]

/-- The route of a search. -/
def searchRoute : Verb × String × String := (.get, "/search", "search")

/-- Declares the standard controller at a base path, with the search if it
is wanted. -/
def declareResource (m : Metadata) (name basePath : String) (withSearch : Bool) :
    Metadata :=
  let routes := standardRoutes ++ if withSearch then [searchRoute] else []
  routes.foldl (fun m (verb, path, handler) => m.declareRoute name verb path handler [])
    (m.declareBasePath name basePath)

end TableApi.Api
