/-
The state of a session, and the actions on it.

A session holds every transaction that was begun, in the order of their
beginning; a transaction is known by its place in that order. A root
transaction and all that are nested in it, to any depth, make a chain: they
share one connection and one identity cache. The connection is there until
the root ends.

An action changes the session and may fail; what it did before it failed
stays done.
-/
import DataAccess.Config
import DataAccess.Driver.Scripted
import DataAccess.Entity.Basic
import DataAccess.Identity.Cache
import DataAccess.Session.Event
import DataAccess.Session.Sequence

namespace DataAccess

/-- The place of a transaction among all of its session. -/
abbrev TransactionId := Nat

/-- The place of a chain among all of its session. -/
abbrev ChainId := Nat

/-- What the transactions of a chain share. -/
structure Chain where
  /-- The connection, until the root ends. -/
  connection : Option Nat
  cache : IdentityCache InstanceId

/-- A unit of work. -/
structure Transaction where
  /-- Its number in messages and savepoint names. -/
  number : Nat
  /-- `tx#` and the number; a nested one has its parent's in parentheses. -/
  display : String
  readOnly : Bool
  /-- The savepoint of a nested transaction. -/
  savepoint : Option String
  parent : Option TransactionId
  chain : ChainId
  finished : Bool
  /-- How many transactions nested in it have not ended. -/
  openChildren : Nat
  deriving DecidableEq

namespace Transaction

/-- What stands for a transaction that was never begun: one that has
ended. -/
def absent : Transaction :=
  { number := 0, display := "", readOnly := true, savepoint := none
    parent := none, chain := 0, finished := true, openChildren := 0 }

/-- Whether it is not nested. -/
def isRoot (t : Transaction) : Bool :=
  t.parent.isNone

/-- A transaction as it is shown. -/
def render (t : Transaction) : String :=
  let savepoint := match t.savepoint with
    | some name => "Some(" ++ Text.quoted name ++ ")"
    | none => "None"
  "Transaction \x7b id: " ++ Text.quoted t.display
    ++ ", read_only: " ++ Event.flag t.readOnly
    ++ ", savepoint: " ++ savepoint
    ++ ", finished: " ++ Event.flag t.finished
    ++ ", open_children: " ++ toString t.openChildren ++ " \x7d"

end Transaction

/-- The state of a session. -/
structure Session where
  config : Config
  driver : Driver
  numbers : NumberSequence
  chains : List Chain
  transactions : List Transaction
  /-- The shared instances; an instance is known by its place. -/
  instances : List Entity
  /-- What was reported, in order. -/
  events : List Event

/-- An action on a session. -/
abbrev Action (α : Type) := EStateM Error Session α

namespace Session

/-- A session in which nothing has happened, if its configuration can be
used. -/
def start (config : Config) (driver : Driver) : Except Error Session := do
  let config ← config.validate
  return {
    config, driver
    numbers := NumberSequence.startingAfter 0
    chains := [], transactions := [], instances := [], events := [] }

/-- The database handle as it is shown. -/
def renderDatabase (s : Session) : String :=
  "Database \x7b config: " ++ s.config.render ++ ", .. \x7d"

/-- A transaction of the session. -/
def transaction (s : Session) (t : TransactionId) : Transaction :=
  s.transactions[t]?.getD Transaction.absent

/-- The chain of a transaction. -/
def chainOf? (s : Session) (t : TransactionId) : Option Chain :=
  s.transactions[t]?.bind fun tx => s.chains[tx.chain]?

/-- The connection of a transaction, until the root of its chain ends. -/
def connectionOf? (s : Session) (t : TransactionId) : Option Nat :=
  (s.chainOf? t).bind (·.connection)

/-- The identity cache of a transaction. -/
def cacheOf (s : Session) (t : TransactionId) : IdentityCache InstanceId :=
  match s.chainOf? t with
  | some chain => chain.cache
  | none => IdentityCache.empty 0

/-- The session with one transaction changed. -/
def modifyTransaction (s : Session) (t : TransactionId)
    (f : Transaction → Transaction) : Session :=
  { s with transactions := s.transactions.modify t f }

/-- The session with the chain of a transaction changed. -/
def modifyChain (s : Session) (t : TransactionId) (f : Chain → Chain) :
    Session :=
  match s.transactions[t]? with
  | some tx => { s with chains := s.chains.modify tx.chain f }
  | none => s

/-- The session with the identity cache of a transaction changed. -/
def modifyCache (s : Session) (t : TransactionId)
    (f : IdentityCache InstanceId → IdentityCache InstanceId) : Session :=
  s.modifyChain t fun c => { c with cache := f c.cache }

/-- The session with one more event. -/
def report (s : Session) (e : Event) : Session :=
  { s with events := s.events ++ [e] }

/-- Where a statement of a transaction is, for its errors. -/
def context (s : Session) (t : TransactionId) (sql : String)
    (params : List Value) : StatementContext :=
  { transaction := (s.transaction t).display
    statement := some { sql, params := params.map Value.render } }

/-- A failure of a transaction that no statement takes part in. -/
def fault (s : Session) (t : TransactionId) (f : StatementFault) : Error :=
  .database f { transaction := (s.transaction t).display, statement := none }

end Session

-- =============================================================== actions

namespace Action

variable {α : Type}

/-- An action that cannot fail, because its failure is its result. -/
def attempt (a : Action α) : Action (Except Error α) := fun s =>
  match a s with
  | .ok x s => .ok (.ok x) s
  | .error e s => .ok (.error e) s

/-- A result as an action. -/
def ofExcept : Except Error α → Action α
  | .ok x => pure x
  | .error e => throw e

/-- An action whose failure is changed. -/
def mapError (f : Error → Error) (a : Action α) : Action α := fun s =>
  match a s with
  | .ok x s => .ok x s
  | .error e s => .error (f e) s

/-- Reports an event. -/
def report (e : Event) : Action Unit :=
  modify fun s => s.report e

/-- A step of the driver; its failure is classified and placed. -/
def drive (context : StatementContext) (step : Driver.Step α) : Action α :=
  fun s =>
    match step s.driver with
    | .ok x driver => .ok x { s with driver }
    | .error e driver => .error (Error.ofDriver e context) { s with driver }

/-- Takes the next transaction number. -/
def nextNumber : Action Nat :=
  modifyGet fun s =>
    let (n, numbers) := s.numbers.next
    (n, { s with numbers })

/-- Makes an entity a shared instance. -/
def share (e : Entity) : Action InstanceId :=
  modifyGet fun s =>
    (s.instances.length, { s with instances := s.instances ++ [e] })

/-- The failure of the first result that failed; a second one is suppressed
by it. -/
def firstFailure (first second : Except Error Unit) : Except Error Unit :=
  match first, second with
  | .ok (), second => second
  | .error e, .ok () => .error e
  | .error e, .error other => .error (e.withSuppressed other)

end Action

end DataAccess
