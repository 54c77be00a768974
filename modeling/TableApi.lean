import TableApi.Api.Envelope
import TableApi.Api.Input
import TableApi.Api.ResourceController
import TableApi.Condition.Basic
import TableApi.Condition.Eval
import TableApi.Condition.Order
import TableApi.Database.Url
import TableApi.Encoding.Form
import TableApi.Encoding.Percent
import TableApi.Encoding.Utf8
import TableApi.Error
import TableApi.Filter.Basic
import TableApi.Filter.Compile
import TableApi.Filter.Wire
import TableApi.Find.Options
import TableApi.Find.Params
import TableApi.Find.Wire
import TableApi.Http.MediaType
import TableApi.Http.Message
import TableApi.Json.Document
import TableApi.Json.Lexeme
import TableApi.Json.Literal
import TableApi.Json.Printer
import TableApi.Json.Record
import TableApi.Json.Shape
import TableApi.Json.Value
import TableApi.Key
import TableApi.Keyed
import TableApi.Like
import TableApi.Numeric.Decimal
import TableApi.Numeric.Double
import TableApi.Numeric.Range
import TableApi.Numeric.Reading
import TableApi.Numeric.Shortest
import TableApi.Proofs.Api.Discretion
import TableApi.Proofs.Api.ResourceServer
import TableApi.Proofs.Api.Restraint
import TableApi.Proofs.Condition.Comparison
import TableApi.Proofs.Filter.Equivalence
import TableApi.Proofs.Filter.Forms
import TableApi.Proofs.Filter.Meaning
import TableApi.Proofs.Filter.Membership
import TableApi.Proofs.Filter.ReadBack
import TableApi.Proofs.Filter.Refusal
import TableApi.Proofs.Filter.Search
import TableApi.Proofs.Find.Identifiers
import TableApi.Proofs.Find.OrderText
import TableApi.Proofs.Find.ReadBack
import TableApi.Proofs.Find.WireForms
import TableApi.Proofs.Json.NumberText
import TableApi.Proofs.Json.ReadBack
import TableApi.Proofs.Json.Record
import TableApi.Proofs.Json.Text
import TableApi.Proofs.Key
import TableApi.Proofs.Like.Literal
import TableApi.Proofs.Like.Matching
import TableApi.Proofs.Numeric.Decimal
import TableApi.Proofs.Numeric.Integer
import TableApi.Proofs.Numeric.Reading
import TableApi.Proofs.Numeric.Rounding
import TableApi.Proofs.Repository.Batch
import TableApi.Proofs.Repository.ByKey
import TableApi.Proofs.Repository.ChangesInTurn
import TableApi.Proofs.Repository.Deletion
import TableApi.Proofs.Repository.ReadAfterCreate
import TableApi.Proofs.Repository.Run
import TableApi.Proofs.Result
import TableApi.Proofs.Routing.Attachment
import TableApi.Proofs.Routing.CollectionRoute
import TableApi.Proofs.Routing.Dispatch
import TableApi.Proofs.Routing.ExistingRoutes
import TableApi.Proofs.Routing.Growth
import TableApi.Proofs.Routing.Insertion
import TableApi.Proofs.Routing.LiteralPath
import TableApi.Proofs.Routing.Metadata
import TableApi.Proofs.Routing.MountRecord
import TableApi.Proofs.Routing.Order
import TableApi.Proofs.Routing.Path
import TableApi.Proofs.Routing.PathForm
import TableApi.Proofs.Routing.Registration
import TableApi.Proofs.Routing.Router
import TableApi.Proofs.Service.Discretion
import TableApi.Proofs.Service.ExistenceCheck
import TableApi.Proofs.Service.FailedUpdate
import TableApi.Proofs.Service.Interleaving
import TableApi.Proofs.Service.Paging
import TableApi.Proofs.Service.Presence
import TableApi.Proofs.Settings
import TableApi.Proofs.Sql.Grammar
import TableApi.Proofs.Sql.Identifiers
import TableApi.Proofs.Sql.InsertedRows
import TableApi.Proofs.Sql.Placeholder
import TableApi.Proofs.Sql.Reading
import TableApi.Proofs.Sql.Rendering
import TableApi.Proofs.Sql.Shape
import TableApi.Proofs.Sql.Token
import TableApi.Proofs.Store.Call
import TableApi.Proofs.Store.Comparator
import TableApi.Proofs.Store.Frame
import TableApi.Proofs.Store.GeneratedKeys
import TableApi.Proofs.Store.Insert
import TableApi.Proofs.Store.Isolation
import TableApi.Proofs.Store.Keys
import TableApi.Proofs.Store.NewRow
import TableApi.Proofs.Store.Returned
import TableApi.Proofs.Store.RowOrder
import TableApi.Proofs.Store.Sorted
import TableApi.Proofs.Store.Update
import TableApi.Proofs.Text.Blank
import TableApi.Proofs.Text.LowerCase
import TableApi.Proofs.Text.Split
import TableApi.Proofs.Truth
import TableApi.Repository.Basic
import TableApi.Repository.Read
import TableApi.Repository.Write
import TableApi.Routing.Dispatch
import TableApi.Routing.Handler
import TableApi.Routing.Metadata
import TableApi.Routing.Path
import TableApi.Routing.Pattern
import TableApi.Routing.Registration
import TableApi.Routing.Router
import TableApi.Routing.Search
import TableApi.Service
import TableApi.Session
import TableApi.Settings
import TableApi.Sql.Condition
import TableApi.Sql.Fragment
import TableApi.Sql.Render
import TableApi.Sql.Statement
import TableApi.Statement
import TableApi.Store.Basic
import TableApi.Store.Execute
import TableApi.Store.Order
import TableApi.Store.Shared
import TableApi.Table
import TableApi.Text.Ascii
import TableApi.Text.Blank
import TableApi.Text.CaseTables
import TableApi.Text.LowerCase
import TableApi.Text.Search
import TableApi.Text.Split
import TableApi.Text.Uuid
import TableApi.Truth
import TableApi.Url.Address
import TableApi.Url.Authority
import TableApi.Url.Basic
import TableApi.Url.Domain
import TableApi.Url.DomainTables
import TableApi.Url.Path
import TableApi.Url.Punycode
import TableApi.Url.Scheme
import TableApi.Proofs.Store.LastKey
import TableApi.Proofs.Store.Shared
import TableApi.Proofs.Sql.ReadBack
import TableApi.Proofs.Store.Settled
