/-
Driver calls: everything that is asked of the database, as data. A call is
made on a connection, except the one that opens a connection.
-/
import DataAccess.Row

namespace DataAccess

/-- A call of the driver. -/
inductive Call where
  | connect
  | begin (readOnly : Bool)
  | commit
  | rollback
  | savepoint (name : String)
  | releaseSavepoint (name : String)
  | rollbackToSavepoint (name : String)
  | execute (sql : String) (params : List Value)
  | insertReturning (sql : String) (params : List Value) (keys : List String)
  | query (sql : String) (params : List Value)
  | prepare (sql : String)
  | openCursor (statement : Nat) (params : List Value) (fetchSize : Nat)
  | fetch (cursor : Nat)
  | closeCursor (cursor : Nat)
  | closeStatement (statement : Nat)
  | copyOut (sql : String)
  | close
  deriving DecidableEq

/-- The kinds of calls. -/
inductive CallKind where
  | connect
  | begin
  | commit
  | rollback
  | savepoint
  | releaseSavepoint
  | rollbackToSavepoint
  | execute
  | insertReturning
  | query
  | prepare
  | openCursor
  | fetch
  | closeCursor
  | closeStatement
  | copyOut
  | close
  deriving DecidableEq, Repr

/-- All kinds of calls. -/
def CallKind.all : List CallKind :=
  [.connect, .begin, .commit, .rollback, .savepoint, .releaseSavepoint,
   .rollbackToSavepoint, .execute, .insertReturning, .query, .prepare,
   .openCursor, .fetch, .closeCursor, .closeStatement, .copyOut, .close]

/-- The name of a kind of call. -/
def CallKind.name : CallKind → String
  | .connect => "Connect"
  | .begin => "Begin"
  | .commit => "Commit"
  | .rollback => "Rollback"
  | .savepoint => "Savepoint"
  | .releaseSavepoint => "ReleaseSavepoint"
  | .rollbackToSavepoint => "RollbackToSavepoint"
  | .execute => "Execute"
  | .insertReturning => "InsertReturning"
  | .query => "Query"
  | .prepare => "Prepare"
  | .openCursor => "OpenCursor"
  | .fetch => "Fetch"
  | .closeCursor => "CloseCursor"
  | .closeStatement => "CloseStatement"
  | .copyOut => "CopyOut"
  | .close => "Close"

/-- The kind of call that a name stands for. -/
def CallKind.ofName? (name : String) : Option CallKind :=
  CallKind.all.find? fun kind => kind.name == name

/-- The statement that starts a transaction. -/
def beginStatement (readOnly : Bool) : String :=
  if readOnly then "BEGIN READ ONLY" else "BEGIN"

/-- The statement that sets a savepoint. -/
def savepointStatement (name : String) : String :=
  "SAVEPOINT " ++ name

/-- The statement that gives a savepoint up. -/
def releaseStatement (name : String) : String :=
  "RELEASE SAVEPOINT " ++ name

/-- The statement that goes back to a savepoint. -/
def rollbackToStatement (name : String) : String :=
  "ROLLBACK TO SAVEPOINT " ++ name

namespace Call

/-- The kind of a call. -/
def kind : Call → CallKind
  | .connect => .connect
  | .begin _ => .begin
  | .commit => .commit
  | .rollback => .rollback
  | .savepoint _ => .savepoint
  | .releaseSavepoint _ => .releaseSavepoint
  | .rollbackToSavepoint _ => .rollbackToSavepoint
  | .execute .. => .execute
  | .insertReturning .. => .insertReturning
  | .query .. => .query
  | .prepare _ => .prepare
  | .openCursor .. => .openCursor
  | .fetch _ => .fetch
  | .closeCursor _ => .closeCursor
  | .closeStatement _ => .closeStatement
  | .copyOut _ => .copyOut
  | .close => .close

/-- A call in one line, much like SQL. -/
def render : Call → String
  | .connect => "CONNECT"
  | .begin readOnly => beginStatement readOnly
  | .commit => "COMMIT"
  | .rollback => "ROLLBACK"
  | .savepoint name => savepointStatement name
  | .releaseSavepoint name => releaseStatement name
  | .rollbackToSavepoint name => rollbackToStatement name
  | .execute sql _ => sql
  | .insertReturning sql _ _ => sql
  | .query sql _ => sql
  | .prepare sql => "PREPARE " ++ sql
  | .openCursor .. => "OPEN CURSOR"
  | .fetch _ => "FETCH"
  | .closeCursor _ => "CLOSE CURSOR"
  | .closeStatement _ => "CLOSE STATEMENT"
  | .copyOut sql => sql
  | .close => "CLOSE"

/-- Whether a call only opens or closes a connection. -/
def isBookkeeping : Call → Bool
  | .connect => true
  | .close => true
  | _ => false

end Call

end DataAccess
