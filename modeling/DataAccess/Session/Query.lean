/-
Statements of a transaction. Parameters are resolved before anything else
is looked at; then the transaction must be open, and writable for a
statement that changes data. The rows of a result are mapped one after the
other, and the first failure ends it, tagged with the statement.
-/
import DataAccess.Record.Mapper
import DataAccess.Session.Transaction
import DataAccess.Statement.Params
import DataAccess.Text.Blank

namespace DataAccess.Action

variable {α : Type}

-- ============================================================ statements

/-- The statement to send, or the failure of its parameters. -/
def resolve (t : TransactionId) (sql : String) (params : Params) :
    Action BoundStatement := do
  match params.resolve sql with
  | .ok statement => return statement
  | .error fault =>
    throw (.database (.parameters fault) ((← get).context t sql []))

/-- Runs a statement that changes data; returns how many rows it
affects. -/
def execute (t : TransactionId) (sql : String) (params : Params) :
    Action Nat := do
  let statement ← resolve t sql params
  ensureWritable t statement.sql
  onConnection t statement.sql statement.params fun c =>
    Driver.execute c statement.sql statement.params

/-- Runs a query. -/
def runQuery (t : TransactionId) (statement : BoundStatement) :
    Action ResultSet := do
  ensureOpen t
  onConnection t statement.sql statement.params fun c =>
    Driver.query c statement.sql statement.params

-- =============================================================== results

/-- Maps rows, given as values, one after the other. -/
def mapRows (resolver : ColumnResolver) (f : Row → Action α) :
    List (List Value) → Action (List α)
  | [] => pure []
  | values :: rest => do
    let row ← ofExcept (Row.ofValues values resolver)
    let x ← f row
    let xs ← mapRows resolver f rest
    return x :: xs

/-- Every row of a query, mapped. -/
def fetchMap (t : TransactionId) (sql : String) (params : Params)
    (f : Row → Action α) : Action (List α) := do
  let statement ← resolve t sql params
  let result ← runQuery t statement
  let context := (← get).context t statement.sql statement.params
  mapError (Error.withContext context)
    (mapRows (ColumnResolver.ofColumns result.columns) f result.rows)

/-- Every row of a query. -/
def fetchRows (t : TransactionId) (sql : String) (params : Params) :
    Action (List Row) :=
  fetchMap t sql params pure

/-- The only row of a query; no row and several rows are failures. -/
def fetchOne (t : TransactionId) (sql : String) (params : Params) :
    Action Row := do
  match ← fetchRows t sql params with
  | [row] => return row
  | rows =>
    throw (.database (.rowCount rows.length) ((← get).context t sql []))

/-- The first row of a query, if there is one. -/
def fetchOptional (t : TransactionId) (sql : String) (params : Params) :
    Action (Option Row) := do
  return (← fetchRows t sql params).head?

/-- The first column of the only row of a query. -/
def fetchScalar (t : TransactionId) (sql : String) (params : Params)
    (type : FieldType) : Action Datum := do
  let row ← fetchOne t sql params
  let context := (← get).context t sql []
  mapError (Error.withContext context) (ofExcept (row.getAt 0 type))

/-- Every row of a query as a record. -/
def fetchRecords (t : TransactionId) (sql : String) (params : Params)
    (mapper : RecordMapper α) : Action (List α) :=
  fetchMap t sql params fun row => ofExcept (mapper.map row)

/-- A statement followed by the rest of its text; blank space around the
rest is dropped, and nothing follows when nothing else is left. -/
def withSuffix (statement suffix : String) : String :=
  if Text.isBlankText suffix then statement
  else statement ++ " " ++ Text.trimBlank suffix

end DataAccess.Action
