import DataAccess.Binary64
import DataAccess.Bulk.Basic
import DataAccess.Bulk.Export
import DataAccess.Bulk.Frame
import DataAccess.Bulk.Word
import DataAccess.Catalog.Entities
import DataAccess.Catalog.Payloads
import DataAccess.Catalog.Records
import DataAccess.Catalog.Symbols
import DataAccess.Catalog.Tokens
import DataAccess.Config
import DataAccess.Decimal.Layout
import DataAccess.Decimal.Shortest
import DataAccess.Driver.Call
import DataAccess.Driver.Error
import DataAccess.Driver.Scripted
import DataAccess.Entity.Basic
import DataAccess.Entity.Binding
import DataAccess.Error.Basic
import DataAccess.Error.Fault
import DataAccess.Exchange.Entity
import DataAccess.Exchange.Error
import DataAccess.Exchange.Record
import DataAccess.Exchange.Script
import DataAccess.Exchange.Value
import DataAccess.Identity.Cache
import DataAccess.Identity.Key
import DataAccess.Json.Access
import DataAccess.Json.Basic
import DataAccess.Json.Document
import DataAccess.Json.Parser
import DataAccess.Json.Printer
import DataAccess.Record.Component
import DataAccess.Record.Mapper
import DataAccess.Record.Reflector
import DataAccess.Record.Shape
import DataAccess.Row
import DataAccess.Session.Basic
import DataAccess.Session.BulkExport
import DataAccess.Session.EntityStore
import DataAccess.Session.Event
import DataAccess.Session.Loading
import DataAccess.Session.Query
import DataAccess.Session.Relation
import DataAccess.Session.Sequence
import DataAccess.Session.Stream
import DataAccess.Session.Transaction
import DataAccess.Statement.Params
import DataAccess.Statement.Rewriting
import DataAccess.Text.Ascii
import DataAccess.Text.Blank
import DataAccess.Text.Hex
import DataAccess.Text.Place
import DataAccess.Text.Printable
import DataAccess.Text.Quoted
import DataAccess.Timestamp
import DataAccess.Value.Basic
import DataAccess.Value.Scalar
import DataAccess.Proofs.Bulk.RoundTrip
import DataAccess.Proofs.Bulk.Word
import DataAccess.Proofs.Statement.Scanning
import DataAccess.Proofs.Statement.Segments
import DataAccess.Proofs.Driver.Recording
import DataAccess.Proofs.Error.Telling
import DataAccess.Proofs.Session.Operation
import DataAccess.Proofs.Session.Ledger
import DataAccess.Proofs.Session.Working
import DataAccess.Proofs.Session.Statements
import DataAccess.Proofs.Session.Step
import DataAccess.Proofs.Session.Stepping
import DataAccess.Proofs.Session.Consistency
import DataAccess.Proofs.Driver.Server
import DataAccess.Proofs.Session.History
import DataAccess.Proofs.Session.SavepointOrder
import DataAccess.Proofs.Session.UnitOfWork
import DataAccess.Proofs.Session.Survival
import DataAccess.Proofs.Session.Steady
import DataAccess.Proofs.Session.Commitment
import DataAccess.Proofs.Driver.Handles
import DataAccess.Proofs.Stream.Mappers
import DataAccess.Proofs.Stream.Steps
import DataAccess.Proofs.Stream.Life
import DataAccess.Proofs.Session.Conduct
import DataAccess.Proofs.Stream.Tenancy
import DataAccess.Proofs.Stream.Desk
import DataAccess.Proofs.Stream.Clearing
import DataAccess.Proofs.Statement.Resolution
import DataAccess.Proofs.Identity.History
import DataAccess.Proofs.Session.Holdings
import DataAccess.Proofs.Session.Insertion
import DataAccess.Proofs.Session.Browsing
import DataAccess.Proofs.Session.Outdating
import DataAccess.Proofs.Session.Sightings
import DataAccess.Proofs.Stream.Sightings
import DataAccess.Proofs.Stream.Account
import DataAccess.Proofs.Stream.Accounted
import DataAccess.Proofs.Identity.Freshness
import DataAccess.Proofs.Identity.Sharing
import DataAccess.Proofs.Identity.Columns
import DataAccess.Proofs.Identity.Agreement
import DataAccess.Proofs.Session.Refusal
import DataAccess.Proofs.Session.Finished
import DataAccess.Proofs.Stream.Objection
import DataAccess.Proofs.Stream.Blind
import DataAccess.Proofs.Stream.Draining
import DataAccess.Proofs.Record.Leaves
import DataAccess.Proofs.Record.Mapping
import DataAccess.Proofs.Record.Stored
import DataAccess.Proofs.Driver.Calls
import DataAccess.Proofs.Stream.Calling
import DataAccess.Proofs.Record.Alignment
import DataAccess.Proofs.Error.Flattening
import DataAccess.Proofs.Error.Wrapping
import DataAccess.Proofs.Error.Placeless
import DataAccess.Proofs.Bulk.Withholding
import DataAccess.Proofs.Session.Upshot
import DataAccess.Proofs.Session.Asking
import DataAccess.Proofs.Session.Vouching
import DataAccess.Proofs.Stream.Vouching
import DataAccess.Proofs.Stream.Disclosure
import DataAccess.Proofs.Stream.Whereabouts
import DataAccess.Proofs.Row.Lookup
import DataAccess.Proofs.Entity.Reading
import DataAccess.Proofs.Entity.Injection
import DataAccess.Proofs.Bulk.Bounds
import DataAccess.Proofs.Bulk.Canonical
import DataAccess.Proofs.Statement.Rewritten
import DataAccess.Proofs.Statement.Placeholders
import DataAccess.Proofs.Bulk.Course
import DataAccess.Proofs.Entity.Misconfiguration
import DataAccess.Proofs.Entity.Statements
import DataAccess.Proofs.Entity.Unhooked
import DataAccess.Proofs.Row.Naming
import DataAccess.Proofs.Record.ByName
import DataAccess.Proofs.Record.Holes
import DataAccess.Proofs.Row.Meaning
import DataAccess.Proofs.Entity.Joined
import DataAccess.Proofs.Entity.Stubs
import DataAccess.Proofs.Stream.Savepoints
import DataAccess.Proofs.Entity.Inert
import DataAccess.Proofs.Session.FirstRow
import DataAccess.Proofs.Driver.Failures
import DataAccess.Proofs.Entity.Identifying
import DataAccess.Proofs.Statement.Appending
import DataAccess.Proofs.Session.Selecting
