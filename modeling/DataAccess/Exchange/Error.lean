/-
Errors written out as JSON expressions: a leaf names a kind of error and
gives its texts, an inner node names an operation that builds an error from
others. The types and chunks of bulk exports, which may be errors too, and
the events of a session are here as well.
-/
import DataAccess.Bulk.Export
import DataAccess.Exchange.Script
import DataAccess.Session.Event

namespace DataAccess

-- ================================================================ errors

/-- Reads the place of a failure. -/
def StatementContext.ofJson? (j : Json) : Option StatementContext := do
  let transaction ← j.textAt? "tx"
  match j.textAt? "sql" with
  | none => return { transaction, statement := none }
  | some sql =>
    let params ← (j.field "params").texts?
    return { transaction, statement := some { sql, params } }

/-- Reads an error expression. -/
def Error.ofJson? : Json → Option Error
  | .object [("mapping", .string s)] => some (.mapping (.other s))
  | .object [("config", .string s)] => some (.config (.other s))
  | .object [("serialization", .string s)] => some (.serialization (.other s))
  | .object [("io", .string s)] => some (.io s)
  | .object [("decode", .array [.string s, .string bytes])] =>
    (Text.unhex? bytes).map (.decode (.other s))
  | .object [("column", .array [.string c, .string reason])] =>
    some (.column c (.conversion reason))
  | .object [("mismatch", .array [.string expected, .string actual])] =>
    some (.typeMismatch expected actual)
  | .object [("database", .array [.string s, context])] =>
    (StatementContext.ofJson? context).map (.database (.reported s))
  | .object [("driver", .array [e, context])] => do
    return ofDriver (← DriverError.ofJson? e) (← StatementContext.ofJson? context)
  | .object [("with_suppressed", .array [e, other])] => do
    return (← ofJson? e).withSuppressed (← ofJson? other)
  | .object [("with_all", .object [("error", e)])] => ofJson? e
  | .object [("with_all", .object [("error", e), ("rest", .null)])] => ofJson? e
  | .object [("with_all", .object [("error", e), ("rest", .array rest)])] => do
    return (← ofJson? e).withAllSuppressed (← listOfJson? rest)
  | .object [("with_context", .array [e, context])] => do
    return (← ofJson? e).withContext (← StatementContext.ofJson? context)
  | .object [("new_suppressed", .array [e, other])] => do
    return .suppressed (← ofJson? e) [← ofJson? other]
  | _ => none
where
  /-- Reads several error expressions. -/
  listOfJson? : List Json → Option (List Error)
    | [] => some []
    | j :: js => do
      let e ← ofJson? j
      let es ← listOfJson? js
      return e :: es

/-- A failure of the driver. -/
def DriverError.toJson (e : DriverError) : Json :=
  .object
    [("error", .string "Driver"), ("message", .string e.message),
     ("sqlstate", .orNull .string e.sqlstate)]

-- ========================================================== bulk exports

/-- The exported type of a name. -/
def BulkType.ofName? (name : String) : Option BulkType :=
  [.int64, .int32, .bytes].find? fun type => type.name == name

/-- Reads the names of exported types. -/
def BulkType.listOfJson? (names : List Json) : Option (List BulkType) :=
  names.mapM fun j => j.text?.bind ofName?

/-- Reads a chunk of an export: its bytes in hexadecimal, or a refusal. -/
def Bulk.Chunk.ofJson? : Json → Option Chunk
  | .object [("err", .string s)] => some (.error (.config (.other s)))
  | j => (j.text?.bind Text.unhex?).map .ok

/-- A row of exported fields. -/
def BulkRow.toJson (row : BulkRow) : Json :=
  .array (row.map BulkValue.toJson)

-- ================================================================ events

/-- An event: its level, its message and its fields. -/
def Event.toJson (e : Event) : Json :=
  .array
    [.string e.level.name, .string e.message,
     .array (e.fields.map fun (name, text) =>
       .array [.string name, .string text])]

end DataAccess
