/-
Requests and responses.
-/
import TableApi.Json.Value
import TableApi.Url.Scheme

namespace TableApi.Http

open Json

structure Request where
  method : String
  /-- The path as it was sent, percent-encoded. -/
  path : String
  /-- What follows the question mark. -/
  query : String
  contentType : Option String
  body : String
  /-- The length of the body, if the request declares it. -/
  declaredLength : Option Nat

namespace Request

/-- The path of a target that has neither query nor fragment. A target in
absolute form has the path `/` if nothing follows the host; one that is
nothing but a host has no path. -/
def pathOfTarget (target : List Char) : List Char :=
  if target.head? = some '/' ∨ target = ['*'] then target
  else match Url.afterSlashes? target with
    | some rest => '/' :: (rest.dropWhile (· ≠ '/')).drop 1
    | none => []

/-- Path and query of a request target. A fragment is dropped. -/
def splitTarget (target : String) : String × String :=
  let whole := target.toList.takeWhile (· ≠ '#')
  let (main, query) := (Text.splitOnce? '?' whole).getD (whole, [])
  (String.ofList (pathOfTarget main), String.ofList query)

/-- The length of the body in bytes. -/
def bodyLength (r : Request) : Nat := r.body.utf8ByteSize

end Request

inductive Body where
  | empty
  | text (s : String)
  | json (v : Value)

structure Response where
  status : Nat
  body : Body

namespace Response

/-- A response without a body. -/
def bare (status : Nat) : Response := ⟨status, .empty⟩

/-- The response to a request that wants no body. -/
def withoutBody (r : Response) : Response := bare r.status

end Response

end TableApi.Http
