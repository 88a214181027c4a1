/-
What a session reports as it goes on: one event for everything that begins,
ends, is sent or is given up. An event has a level, a message, and named
fields.
-/
import DataAccess.Value.Basic

namespace DataAccess

/-- How a transaction ends. -/
inductive Outcome where
  | commit
  | rollback
  deriving DecidableEq, Repr

/-- The name of an outcome. -/
def Outcome.name : Outcome → String
  | .commit => "Commit"
  | .rollback => "Rollback"

/-- The statement that ends a root transaction. -/
def Outcome.statement : Outcome → String
  | .commit => "COMMIT"
  | .rollback => "ROLLBACK"

/-- How much an event matters. -/
inductive Level where
  | debug
  | info
  | warn
  deriving DecidableEq, Repr

/-- The name of a level. -/
def Level.name : Level → String
  | .debug => "DEBUG"
  | .info => "INFO"
  | .warn => "WARN"

/-- An event of a session. Transactions are given by their display
identity. -/
inductive Event where
  | acquiringConnection (readOnly : Bool)
  | started (tx : String) (readOnly : Bool)
  | nestedStarted (tx savepoint : String)
  /-- A statement is sent; its parameters are shown, or only counted. -/
  | statement (tx sql : String) (params : List Value) (shown : Bool)
  | ending (tx : String) (outcome : Outcome)
  | ended (tx : String) (outcome : Outcome)
  | nestedEnded (tx savepoint : String) (outcome : Outcome)
  | implicitEndFailed (tx error : String)
  | exporting (tx sql : String) (columns : Nat)
  | streamOpened (tx sql : String)
  | streamReleased (tx : String) (failures : Nat)
  | streamReleaseFailed (sql error : String)
  deriving DecidableEq

namespace Event

/-- The level of an event. -/
def level : Event → Level
  | .started .. => .info
  | .ended .. => .info
  | .implicitEndFailed .. => .warn
  | .streamReleaseFailed .. => .warn
  | _ => .debug

/-- The message of an event. -/
def message : Event → String
  | .acquiringConnection _ => "acquiring connection"
  | .started .. => "transaction started"
  | .nestedStarted .. => "nested transaction started"
  | .statement .. => "statement"
  | .ending .. => "ending transaction"
  | .ended .. => "transaction ended"
  | .nestedEnded .. => "nested transaction ended"
  | .implicitEndFailed .. => "implicit transaction end failed"
  | .exporting .. => "bulk export"
  | .streamOpened .. => "stream opened"
  | .streamReleased .. => "stream released"
  | .streamReleaseFailed .. => "stream release failed"

/-- A truth value as a field shows it. -/
def flag (b : Bool) : String :=
  if b then "true" else "false"

/-- The fields of an event, in order. -/
def fields : Event → List (String × String)
  | .acquiringConnection readOnly => [("read_only", flag readOnly)]
  | .started tx readOnly => [("tx", tx), ("read_only", flag readOnly)]
  | .nestedStarted tx savepoint => [("tx", tx), ("savepoint", savepoint)]
  | .statement tx sql params shown =>
    [("tx", tx), ("sql", sql),
     ("params",
       if shown then Text.commaSeparated (params.map Value.render)
       else toString params.length)]
  | .ending tx outcome => [("tx", tx), ("sql", outcome.statement)]
  | .ended tx outcome => [("tx", tx), ("outcome", outcome.statement)]
  | .nestedEnded tx savepoint outcome =>
    [("tx", tx), ("savepoint", savepoint), ("outcome", outcome.name)]
  | .implicitEndFailed tx error => [("tx", tx), ("error", error)]
  | .exporting tx sql columns =>
    [("tx", tx), ("sql", sql), ("columns", toString columns)]
  | .streamOpened tx sql => [("tx", tx), ("sql", sql)]
  | .streamReleased tx failures =>
    [("tx", tx), ("failures", toString failures)]
  | .streamReleaseFailed sql error => [("sql", sql), ("error", error)]

end Event

end DataAccess
