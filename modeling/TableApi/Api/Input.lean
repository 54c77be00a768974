/-
What handlers take from a call: the key in the path, the parameters of
the query, the record in the body.
-/
import TableApi.Encoding.Form
import TableApi.Find.Params
import TableApi.Http.MediaType
import TableApi.Json.Shape
import TableApi.Repository.Basic
import TableApi.Routing.Handler

namespace TableApi.Api

open Json Routing

/-- The one parameter of the path. -/
def pathText (call : Call) : Except BadRequest String :=
  match call.parameters with
  | none => .error .pathNotText
  | some [raw] => .ok raw
  | some values => .error (.pathParameters values.length)

/-- The key in the path, read for the key column of a table. -/
def pathKey (t : Table) (call : Call) : Except BadRequest Key := do
  let raw ← pathText call
  (Key.parseFor t.keyColumn? raw).mapError .key

/-- The parameters of the query. -/
def queryParams (call : Call) : FindOptions.Params :=
  Form.value? (Form.parameters call.request.query.toList)

/-- The record in the body. The request has to name JSON as its content;
what follows the first JSON value is ignored. -/
def bodyRecord (shape : Shape) (call : Call) : Except BadRequest Value :=
  if !call.request.contentType.any Http.MediaType.isJson then .error .contentType
  else match call.body with
    | none => .error .bodyTooLong
    | some text => (shape.read (Document.readFirst text)).mapError .body

end TableApi.Api
