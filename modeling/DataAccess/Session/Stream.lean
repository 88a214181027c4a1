/-
Streams. A stream gives the rows of a query one at a time, from a cursor of
its own on a read-only root transaction of its own. It acquires a
transaction, a statement and a cursor, and releases what it acquired all
together and in reverse order: when its rows are used up, when something
fails, or when it is dropped. Afterwards it gives nothing more.

A failure carries the failures of the release along. When only the release
fails, that is given once, in the place of the end.
-/
import DataAccess.Session.EntityStore

namespace DataAccess

/-- A single pass over the rows of a query. -/
structure QueryStream (σ α : Type) where
  sql : String
  /-- The transaction, until it is released. -/
  tx : Option TransactionId
  statement : Option Nat
  cursor : Option Nat
  resolver : Option ColumnResolver
  /-- What is made of a row; a mapper may remember what it saw before. -/
  mapper : TransactionId → Row → σ → Action (α × σ)
  memory : σ
  /-- Whether nothing more is given. -/
  done : Bool

namespace QueryStream

variable {σ α : Type}

/-- Whether everything has been released. -/
def isReleased (q : QueryStream σ α) : Bool :=
  q.tx.isNone

/-- Where a stream is that has no transaction. -/
def closedContext (sql : String) : StatementContext :=
  { transaction := "<stream>", statement := some { sql, params := [] } }

/-- A stream as it is shown; its transaction by display identity. -/
def render (q : QueryStream σ α) (s : Session) : String :=
  let tx := match q.tx with
    | some t => "Some(" ++ Text.quoted (s.transaction t).display ++ ")"
    | none => "None"
  "QueryStream \x7b sql: " ++ Text.quoted q.sql ++ ", tx: " ++ tx
    ++ ", done: " ++ Event.flag q.done ++ " \x7d"

-- ============================================================== releasing

/-- The failure of an action, if it fails. -/
def failureOf (a : Action Unit) : Action (List Error) := do
  match ← Action.attempt a with
  | .ok () => return []
  | .error e => return [e]

/-- Closes the cursor of a stream, if it is open. -/
def releaseCursor (q : QueryStream σ α) (t : TransactionId) :
    Action (List Error) :=
  match q.cursor with
  | none => pure []
  | some cursor => failureOf
    (Action.onConnection t q.sql [] fun c => Driver.closeCursor c cursor)

/-- Closes the statement of a stream, if it is open. -/
def releaseStatement (q : QueryStream σ α) (t : TransactionId) :
    Action (List Error) :=
  match q.statement with
  | none => pure []
  | some statement => failureOf
    (Action.onConnection t q.sql [] fun c =>
      Driver.closeStatement c statement)

/-- The stream with nothing left to release. -/
def released (q : QueryStream σ α) : QueryStream σ α :=
  { q with tx := none, cursor := none, statement := none }

/-- Releases what is held; gives the failures, in the order they came. -/
def release (q : QueryStream σ α) : Action (List Error × QueryStream σ α) := do
  match q.tx with
  | none => return ([], q)
  | some t =>
    let ofCursor ← q.releaseCursor t
    let ofStatement ← q.releaseStatement t
    let ofTransaction ← failureOf (Action.close t)
    let errors := ofCursor ++ ofStatement ++ ofTransaction
    let display := ((← get).transaction t).display
    Action.report (.streamReleased display errors.length)
    return (errors, q.released)

-- ================================================================ opening

/-- Prepares the statement and opens the cursor. What was acquired before a
failure is in the stream that is given back. -/
def acquire (q : QueryStream σ α) (t : TransactionId) (params : List Value) :
    Action (Except Error Unit × QueryStream σ α) := do
  let prepared ← Action.attempt do
    Action.ensureOpen t
    Action.onConnection t q.sql [] fun c => Driver.prepare c q.sql
  match prepared with
  | .error e => return (.error e, q)
  | .ok statement =>
    let q := { q with statement := some statement }
    let fetchSize := (← get).config.streamFetchSize
    let opened ← Action.attempt do
      Action.ensureOpen t
      Action.onConnection t q.sql params fun c =>
        Driver.openCursor c statement params fetchSize
    match opened with
    | .error e => return (.error e, q)
    | .ok (cursor, columns) =>
      let q := { q with
        cursor := some cursor
        resolver := some (ColumnResolver.ofColumns columns) }
      Action.report
        (.streamOpened ((← get).transaction t).display q.sql)
      return (.ok (), q)

/-- Opens a stream on a statement whose parameters are resolved. -/
def openBound (statement : BoundStatement)
    (mapper : TransactionId → Row → σ → Action (α × σ)) (memory : σ) :
    Action (QueryStream σ α) := do
  let t ← Action.begin true
  let q : QueryStream σ α :=
    { sql := statement.sql, tx := some t, statement := none, cursor := none
      resolver := none, mapper, memory, done := false }
  match ← q.acquire t statement.params with
  | (.ok (), q) => return q
  | (.error e, q) =>
    let (errors, _) ← q.release
    throw (e.withAllSuppressed errors)

/-- Opens a stream. Parameters that do not resolve are found before a
connection is opened. -/
def openMapped (sql : String) (params : Params)
    (mapper : TransactionId → Row → σ → Action (α × σ)) (memory : σ) :
    Action (QueryStream σ α) := do
  match params.resolve sql with
  | .ok statement => openBound statement mapper memory
  | .error fault =>
    throw (.database (.parameters fault) (closedContext sql))

/-- Opens a stream that maps rows by themselves. -/
def openRows (sql : String) (params : Params)
    (f : Row → σ → Except Error (α × σ)) (memory : σ) :
    Action (QueryStream σ α) :=
  openMapped sql params (fun _ row memory => Action.ofExcept (f row memory))
    memory

/-- Opens a stream of records. -/
def openRecords (sql : String) (params : Params) (mapper : RecordMapper α) :
    Action (QueryStream Unit α) :=
  openRows sql params (fun row _ => (mapper.map row).map (·, ())) ()

/-- What an entity stream makes of a row. -/
def entityMapper (schema : Schema) (b : EntityBinding) (t : TransactionId)
    (row : Row) (_ : Unit) : Action (Entity × Unit) := do
  return (← Action.load schema t b row, ())

/-- Opens a stream of entities. -/
def openEntities (schema : Schema) (typeName sql : String)
    (params : Params) : Action (QueryStream Unit Entity) := do
  let b ← Action.ofExcept (EntityBinding.ofType schema typeName)
  openMapped sql params (entityMapper schema b) ()

-- ================================================================ reading

/-- The next row of the cursor, mapped, with what the mapper remembers then;
none after the last row. -/
def advance (q : QueryStream σ α) : Action (Option (α × σ)) := do
  match q.tx, q.cursor, q.resolver with
  | some t, some cursor, some resolver =>
    Action.ensureOpen t
    let fetched ← Action.onConnectionQuietly t q.sql [] fun c =>
      Driver.fetch c cursor
    match fetched with
    | none => return none
    | some values =>
      let context := (← get).context t q.sql []
      let x ← Action.mapError (Error.withContext context) do
        let row ← Action.ofExcept (Row.ofValues values resolver)
        q.mapper t row q.memory
      return some x
  | _, _, _ => throw (.database .streamClosed (closedContext q.sql))

/-- The next item of a stream: a mapped row, or a failure, or the end. -/
def next (q : QueryStream σ α) :
    Action (Option (Except Error α) × QueryStream σ α) := do
  if q.done then return (none, q)
  else
    match ← Action.attempt q.advance with
    | .ok (some (x, memory)) => return (some (.ok x), { q with memory })
    | .ok none =>
      let (errors, q) ← { q with done := true }.release
      match errors with
      | [] => return (none, q)
      | first :: rest =>
        return (some (.error (first.withAllSuppressed rest)), q)
    | .error e =>
      let (errors, q) ← { q with done := true }.release
      return (some (.error (e.withAllSuppressed errors)), q)

/-- Reports failures of a release that nobody else hears of. -/
def reportFailures (sql : String) : List Error → Action Unit
  | [] => pure ()
  | e :: errors => do
    Action.report (.streamReleaseFailed sql e.message)
    reportFailures sql errors

/-- Gives a stream up. -/
def drop (q : QueryStream σ α) : Action Unit := do
  let (errors, _) ← q.release
  reportFailures q.sql errors

end QueryStream

end DataAccess
