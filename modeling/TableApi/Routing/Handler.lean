/-
Handlers, middlewares and controllers.

A handler answers a call by a session with the store of its controller; a
middleware stands before handlers and either answers a call itself or
lets one pass, not always the one that it got, and has the last word on
the response.
-/
import TableApi.Http.Message
import TableApi.Session

namespace TableApi.Routing

open Http

/-- A request as a handler sees it. -/
structure Call where
  request : Request
  /-- The parameters in the path, decoded; `none` if one is not text. -/
  parameters : Option (List String)
  /-- The body; `none` if it goes on beyond the limit. -/
  body : Option String

abbrev Handler := Call → Session Response

/-- What a middleware does with a call. -/
inductive Passage where
  /-- It answers the call, and nothing behind it runs. -/
  | answered (response : Response)
  /-- It runs what is behind it on a call, and answers with what it makes
  of the response. -/
  | passed (call : Call) (finish : Response → Response)

structure Middleware where
  name : String
  passage : Call → Passage

/-- A controller: its handlers by name, and the number of the store that
they use. -/
structure Controller where
  store : Nat
  handler? : String → Option Handler

/-- The controllers that are ready, by name. -/
abbrev Container := List (String × Controller)

end TableApi.Routing
