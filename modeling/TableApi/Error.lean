/-
Errors of the API, each with its cause.

What a store answered is never among them: a statement that fails, or
whose answer cannot be read, is reported by the operation that sent it.
-/
import TableApi.Filter.Compile
import TableApi.Json.Record
import TableApi.Key

namespace TableApi

open TableApi.Filter

/-- The operations on a table. -/
inductive Operation where
  | findAll
  | findById
  | findOne
  | count
  | create
  | createMany
  | update
  | updateMany
  | delete
  | deleteMany
deriving DecidableEq

namespace Operation

def label : Operation → String
  | findAll => "FindAll"
  | findById => "FindById"
  | findOne => "FindOne"
  | count => "Count"
  | create => "Create"
  | createMany => "CreateMany"
  | update => "Update"
  | updateMany => "UpdateMany"
  | delete => "Delete"
  | deleteMany => "DeleteMany"

end Operation

/-- An operation failed in the store. -/
structure QueryError where
  operation : Operation
deriving DecidableEq

namespace QueryError

def message (e : QueryError) : String :=
  "[" ++ e.operation.label ++ "] database query failed"

end QueryError

/-- Why a request cannot be understood. -/
inductive BadRequest where
  | key (error : KeyError)
  /-- A limit or an offset that is no number in range. -/
  | pageNumber (name raw : String)
  /-- Text that begins like a JSON list and is no list of fields. -/
  | orderList
  | orderDirection (direction field : String)
  /-- A path parameter whose bytes are not text. -/
  | pathNotText
  /-- A path with other than one parameter. -/
  | pathParameters (found : Nat)
  | contentType
  /-- A body that goes on beyond the limit. -/
  | bodyTooLong
  | body (fault : Json.Fault)
deriving DecidableEq

namespace BadRequest

def message : BadRequest → String
  | key error => error.message
  | pageNumber name raw =>
      name ++ " must be an integer between 0 and "
        ++ String.ofList (Json.intText int64Max) ++ ", got '" ++ raw ++ "'"
  | orderList => "invalid orderBy: not a list of fields"
  | orderDirection direction field =>
      "invalid order direction '" ++ direction ++ "' for " ++ field
  | pathNotText => "Invalid URL: a path parameter is not UTF-8"
  | pathParameters found =>
      "Wrong number of path arguments for `Path`. Expected 1 but got "
        ++ String.ofList (Decimal.digits found)
        ++ ". Note that multiple parameters must be extracted with a tuple "
        ++ "`Path<(_, _)>` or a struct `Path<YourParams>`"
  | contentType => "Expected request with `Content-Type: application/json`"
  | bodyTooLong => "Failed to buffer the request body: it exceeds the limit"
  | body .shape =>
      "Failed to deserialize the JSON body into the target type: it does not fit"
  | body .syntactic => "Failed to parse the request body as JSON: it is not JSON"

end BadRequest

inductive ApiError where
  | filter (error : FilterError)
  /-- No row of the table has the key. -/
  | notFound (table : String) (key : Key)
  | query (error : QueryError)
  | badRequest (cause : BadRequest)
deriving DecidableEq

namespace ApiError

def message : ApiError → String
  | filter error => error.message
  | notFound table key => "not found: " ++ table ++ " " ++ key.display
  | query error => error.message
  | badRequest cause => "bad request: " ++ cause.message

/-- The HTTP status. -/
def status : ApiError → Nat
  | filter _ => 400
  | notFound _ _ => 404
  | query _ => 500
  | badRequest _ => 400

/-- The word for the kind of error in a response. -/
def code : ApiError → String
  | filter _ => "invalid_filter"
  | notFound _ _ => "not_found"
  | query _ => "database_error"
  | badRequest _ => "bad_request"

end ApiError

end TableApi
