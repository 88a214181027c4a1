/-
A scripted driver: it answers from queues filled beforehand, fails where it
was told to, and records every call.

A failure is registered for a kind of call, to happen after so many calls of
that kind that succeed. Only the first registered failure of a kind is
pending; once it has happened, the next one of its kind is.

A call is recorded whether it fails or not, together with the connection it
was made on and with how it failed.
-/
import DataAccess.Bulk.Frame
import DataAccess.Driver.Call

namespace DataAccess

/-- A failure to come: of the call of the kind that follows `skip` others. -/
structure ScriptedFailure where
  kind : CallKind
  skip : Nat
  error : DriverError
  deriving DecidableEq

/-- A call that was made: on which connection, and how it failed if it
did. -/
structure CallRecord where
  connection : Option Nat
  call : Call
  failure : Option DriverError
  deriving DecidableEq

/-- A chunk of a scripted export, or the failure in its place. -/
abbrev ScriptedChunk := Except DriverError Bulk.Bytes

/-- The driver: its script, its log, and what is open. -/
structure Driver where
  /-- Answers to queries and cursors to come. -/
  results : List ResultSet
  /-- Keys that inserts to come generate. -/
  generated : List (List Value)
  /-- Counts of rows that statements to come affect. -/
  affected : List Nat
  /-- Exports to come. -/
  copies : List (List ScriptedChunk)
  failures : List ScriptedFailure
  log : List CallRecord
  /-- Open cursors, with the rows they still have. -/
  cursors : List (Nat × List (List Value))
  /-- Open statements, with their text. -/
  statements : List (Nat × String)
  lastHandle : Nat
  /-- The connections that were opened, by whether they still are. -/
  connections : List Bool

namespace Driver

/-- A driver without a script. -/
def empty : Driver :=
  { results := [], generated := [], affected := [], copies := []
    failures := [], log := [], cursors := [], statements := []
    lastHandle := 0, connections := [] }

-- ================================================================ script

/-- Appends an answer to a query or a cursor. -/
def pushResult (d : Driver) (r : ResultSet) : Driver :=
  { d with results := d.results ++ [r] }

/-- Appends the keys that an insert generates. -/
def pushGenerated (d : Driver) (keys : List Value) : Driver :=
  { d with generated := d.generated ++ [keys] }

/-- Appends a count of affected rows. -/
def pushAffected (d : Driver) (count : Nat) : Driver :=
  { d with affected := d.affected ++ [count] }

/-- Appends an export. -/
def pushCopy (d : Driver) (chunks : List ScriptedChunk) : Driver :=
  { d with copies := d.copies ++ [chunks] }

/-- Registers a failure. -/
def fail (d : Driver) (failure : ScriptedFailure) : Driver :=
  { d with failures := d.failures ++ [failure] }

/-- What the registered failures say about a call of a kind: the failure of
this call, if it is to fail, and the failures still to come. -/
def trigger (kind : CallKind) :
    List ScriptedFailure → Option DriverError × List ScriptedFailure
  | [] => (none, [])
  | f :: rest =>
    if f.kind = kind then
      if 0 < f.skip then (none, { f with skip := f.skip - 1 } :: rest)
      else (some f.error, rest)
    else
      let (error, rest) := trigger kind rest
      (error, f :: rest)

-- ================================================================= calls

/-- A step of the driver, which may fail. -/
abbrev Step (α : Type) := EStateM DriverError Driver α

variable {α : Type}

/-- Records a call. -/
def record (d : Driver) (entry : CallRecord) : Driver :=
  { d with log := d.log ++ [entry] }

/-- Makes a call: it fails if the script says so, and otherwise comes to
what `answer` says. -/
def perform (connection : Option Nat) (call : Call) (answer : Step α) :
    Step α := fun d =>
  match trigger call.kind d.failures with
  | (some e, failures) =>
    .error e ({ d with failures }.record ⟨connection, call, some e⟩)
  | (none, failures) =>
    match answer { d with failures } with
    | .ok x d => .ok x (d.record ⟨connection, call, none⟩)
    | .error e d => .error e (d.record ⟨connection, call, some e⟩)

/-- Opens a connection; connections are numbered from zero. -/
def connect : Step Nat :=
  perform none .connect fun d =>
    .ok d.connections.length { d with connections := d.connections ++ [true] }

/-- Starts a transaction. -/
def begin (c : Nat) (readOnly : Bool) : Step Unit :=
  perform (some c) (.begin readOnly) (pure ())

/-- Commits. -/
def commit (c : Nat) : Step Unit :=
  perform (some c) .commit (pure ())

/-- Rolls back. -/
def rollback (c : Nat) : Step Unit :=
  perform (some c) .rollback (pure ())

/-- Sets a savepoint. -/
def savepoint (c : Nat) (name : String) : Step Unit :=
  perform (some c) (.savepoint name) (pure ())

/-- Gives a savepoint up. -/
def releaseSavepoint (c : Nat) (name : String) : Step Unit :=
  perform (some c) (.releaseSavepoint name) (pure ())

/-- Goes back to a savepoint. -/
def rollbackToSavepoint (c : Nat) (name : String) : Step Unit :=
  perform (some c) (.rollbackToSavepoint name) (pure ())

/-- Takes the first of a queue. -/
def next {β : Type} (queue : List β) (fallback : β) : β × List β :=
  match queue with
  | [] => (fallback, [])
  | x :: rest => (x, rest)

/-- Runs a statement; returns how many rows it affects, one unless the
script says otherwise. -/
def execute (c : Nat) (sql : String) (params : List Value) : Step Nat :=
  perform (some c) (.execute sql params) fun d =>
    let (count, affected) := next d.affected 1
    .ok count { d with affected }

/-- Runs an insert and returns the keys it generates. -/
def insertReturning (c : Nat) (sql : String) (params : List Value)
    (keys : List String) : Step (List Value) :=
  perform (some c) (.insertReturning sql params keys) fun d =>
    match d.generated with
    | values :: generated => .ok values { d with generated }
    | [] => .error ⟨"no generated keys scripted", none⟩ d

/-- A result without columns and rows. -/
def noResult : ResultSet := { columns := [], rows := [] }

/-- Runs a query. -/
def query (c : Nat) (sql : String) (params : List Value) : Step ResultSet :=
  perform (some c) (.query sql params) fun d =>
    let (result, results) := next d.results noResult
    .ok result { d with results }

/-- Prepares a statement. Statements and cursors are numbered together. -/
def prepare (c : Nat) (sql : String) : Step Nat :=
  perform (some c) (.prepare sql) fun d =>
    let handle := d.lastHandle + 1
    .ok handle
      { d with
        lastHandle := handle
        statements := d.statements ++ [(handle, sql)] }

/-- Opens a cursor on a prepared statement; returns its columns, too. -/
def openCursor (c statement : Nat) (params : List Value) (fetchSize : Nat) :
    Step (Nat × List ColumnMeta) :=
  perform (some c) (.openCursor statement params fetchSize) fun d =>
    if (d.statements.lookup statement).isSome then
      let (result, results) := next d.results noResult
      let handle := d.lastHandle + 1
      .ok (handle, result.columns)
        { d with
          results
          lastHandle := handle
          cursors := d.cursors ++ [(handle, result.rows)] }
    else .error ⟨"unknown statement " ++ toString statement, none⟩ d

/-- The entry of a handle replaced. -/
def replaceEntry {β : Type} (handle : Nat) (x : β) (entries : List (Nat × β)) :
    List (Nat × β) :=
  entries.map fun (h, y) => if h = handle then (h, x) else (h, y)

/-- The entries of the other handles. -/
def removeEntry {β : Type} (handle : Nat) (entries : List (Nat × β)) :
    List (Nat × β) :=
  entries.filter fun (h, _) => h ≠ handle

/-- Takes the next row of a cursor; none when there is none left. -/
def fetch (c cursor : Nat) : Step (Option (List Value)) :=
  perform (some c) (.fetch cursor) fun d =>
    match d.cursors.lookup cursor with
    | none => .error ⟨"unknown cursor " ++ toString cursor, none⟩ d
    | some [] => .ok none d
    | some (row :: rows) =>
      .ok (some row) { d with cursors := replaceEntry cursor rows d.cursors }

/-- Closes a cursor. -/
def closeCursor (c cursor : Nat) : Step Unit :=
  perform (some c) (.closeCursor cursor) fun d =>
    .ok () { d with cursors := removeEntry cursor d.cursors }

/-- Closes a statement. -/
def closeStatement (c statement : Nat) : Step Unit :=
  perform (some c) (.closeStatement statement) fun d =>
    .ok () { d with statements := removeEntry statement d.statements }

/-- Starts an export. -/
def copyOut (c : Nat) (sql : String) : Step (List ScriptedChunk) :=
  perform (some c) (.copyOut sql) fun d =>
    let (chunks, copies) := next d.copies []
    .ok chunks { d with copies }

/-- Gives a connection back. It counts as closed even if the call fails. -/
def close (c : Nat) : Step Unit := fun d =>
  perform (some c) .close (pure ())
    { d with connections := d.connections.set c false }

-- ================================================================== view

/-- The calls that were made, in order. -/
def calls (d : Driver) : List Call :=
  d.log.map (·.call)

/-- The calls in one line each, without those that only open or close a
connection. -/
def statementLog (d : Driver) : List String :=
  (d.calls.filter fun c => !c.isBookkeeping).map Call.render

/-- How often a kind of call was made. -/
def count (d : Driver) (kind : CallKind) : Nat :=
  (d.calls.filter fun c => c.kind = kind).length

/-- Forgets the calls that were made. -/
def clearLog (d : Driver) : Driver :=
  { d with log := [] }

/-- How many connections are open. -/
def openConnections (d : Driver) : Nat :=
  d.connections.count true

/-- How many cursors are open. -/
def openCursors (d : Driver) : Nat :=
  d.cursors.length

/-- How many statements are open. -/
def openStatements (d : Driver) : Nat :=
  d.statements.length

end Driver

end DataAccess
