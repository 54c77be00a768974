/-
The bodies of responses.

A record stands under `data`, a list of records too, with its length
under `meta` and, where it is a page, the number of records on all pages;
an error stands under `error` with its code and its message.
-/
import TableApi.Error
import TableApi.Http.Message

namespace TableApi.Api

open Json Http

def one (record : Value) : Response :=
  ⟨200, .json (Value.ofFields [("data", record)])⟩

def many (records : List Value) (total : Option Nat) : Response :=
  let count := [("count", Value.nat records.length)]
  let totals := match total with
    | some n => [("total", Value.nat n)]
    | none => []
  ⟨200, .json (Value.ofFields
    [("data", .array records), ("meta", Value.ofFields (count ++ totals))])⟩

def noContent : Response := .bare 204

def error (e : ApiError) : Response :=
  ⟨e.status, .json (Value.ofFields
    [("error", Value.ofFields [("code", .string e.code), ("message", .string e.message)])])⟩

end TableApi.Api
