/-
Units of work. A root transaction opens a connection and begins on it; a
nested one sets a savepoint on the connection of its chain.

    root    BEGIN ───────────────────────────────────── COMMIT | ROLLBACK
    nested        SAVEPOINT s ──── RELEASE SAVEPOINT s
                                   | ROLLBACK TO SAVEPOINT s, then RELEASE

A transaction ends once, and not while one nested in it is open. Ending it
makes its calls, whether they fail or not, and after them it has ended. A
transaction that is dropped instead ends by itself: with a commit when it is
read-only, else with a rollback.
-/
import DataAccess.Session.Basic

namespace DataAccess.Action

variable {α : Type}

-- ========================================================= on a connection

/-- Makes a call on the connection of a transaction, without reporting
it. -/
def onConnectionQuietly (t : TransactionId) (sql : String)
    (params : List Value) (step : Nat → Driver.Step α) : Action α := do
  let s ← get
  match s.connectionOf? t with
  | none => throw (.database .connectionReleased (s.context t sql []))
  | some c => drive (s.context t sql params) (step c)

/-- Makes a call on the connection of a transaction. -/
def onConnection (t : TransactionId) (sql : String) (params : List Value)
    (step : Nat → Driver.Step α) : Action α := do
  let s ← get
  report (.statement (s.transaction t).display sql params
    s.config.logParameters)
  onConnectionQuietly t sql params step

/-- Fails unless the transaction is open. -/
def ensureOpen (t : TransactionId) : Action Unit := do
  let s ← get
  if (s.transaction t).finished then throw (s.fault t .finished)

/-- Fails unless the transaction is open and may change data. -/
def ensureWritable (t : TransactionId) (sql : String) : Action Unit := do
  ensureOpen t
  let s ← get
  if (s.transaction t).readOnly then
    throw (.database .readOnly (s.context t sql []))

-- ============================================================= beginning

/-- Where a failure to connect happens. -/
def connectContext : StatementContext :=
  { transaction := "<connect>", statement := none }

/-- Adds a root transaction on an open connection. -/
def addRoot (connection number : Nat) (display : String) (readOnly : Bool) :
    Action TransactionId :=
  modifyGet fun s =>
    (s.transactions.length,
      { s with
        chains := s.chains ++
          [{ connection := some connection
             cache := IdentityCache.empty s.config.identityCacheCapacity }]
        transactions := s.transactions ++
          [{ number, display, readOnly, savepoint := none, parent := none
             chain := s.chains.length, finished := false
             openChildren := 0 }] })

/-- Begins a root transaction on a fresh connection. If it does not begin,
the connection is closed again. -/
def begin (readOnly : Bool) : Action TransactionId := do
  report (.acquiringConnection readOnly)
  let connection ← drive connectContext Driver.connect
  let number ← nextNumber
  let display := "tx#" ++ toString number
  let context : StatementContext :=
    { transaction := display
      statement := some { sql := beginStatement readOnly, params := [] } }
  match ← attempt (drive context (Driver.begin connection readOnly)) with
  | .error e =>
    match ← attempt (drive context (Driver.close connection)) with
    | .ok () => throw e
    | .error other => throw (e.withSuppressed other)
  | .ok () =>
    report (.started display readOnly)
    addRoot connection number display readOnly

/-- Adds a transaction nested in another one. -/
def addNested (parent : TransactionId) (number : Nat)
    (display savepoint : String) : Action TransactionId :=
  modifyGet fun s =>
    let p := s.transaction parent
    (s.transactions.length,
      { s with
        transactions := s.transactions ++
          [{ number, display, readOnly := p.readOnly
             savepoint := some savepoint, parent := some parent
             chain := p.chain, finished := false, openChildren := 0 }] })

/-- Counts one more open transaction nested in another one. -/
def openChild (parent : TransactionId) : Action Unit :=
  modify fun s =>
    s.modifyTransaction parent fun p =>
      { p with openChildren := p.openChildren + 1 }

/-- Begins a transaction nested in another one, behind a fresh savepoint. It
is read-only if the other one is. -/
def beginNested (parent : TransactionId) : Action TransactionId := do
  let s ← get
  let p := s.transaction parent
  if p.finished then throw (s.fault parent .nestedOnFinished)
  else
    let number ← nextNumber
    let savepoint := s.config.savepointPrefix ++ "_" ++ toString number
    onConnection parent (savepointStatement savepoint) [] fun c =>
      Driver.savepoint c savepoint
    openChild parent
    let display := "tx#" ++ toString number ++ "(" ++ p.display ++ ")"
    report (.nestedStarted display savepoint)
    addNested parent number display savepoint

-- ================================================================ ending

/-- Takes the connection from a chain. -/
def takeConnection (t : TransactionId) : Action (Option Nat) :=
  modifyGet fun s =>
    (s.connectionOf? t, s.modifyChain t fun c => { c with connection := none })

/-- Empties the identity cache of a chain. -/
def clearCache (t : TransactionId) : Action Unit :=
  modify fun s => s.modifyCache t IdentityCache.clear

/-- The call that ends a root transaction. -/
def endCall (outcome : Outcome) (c : Nat) : Driver.Step Unit :=
  match outcome with
  | .commit => Driver.commit c
  | .rollback => Driver.rollback c

/-- The calls that end a root transaction: the end itself, then the close of
the connection. The cache is emptied. -/
def endRoot (t : TransactionId) (outcome : Outcome) : Action Unit := do
  match ← takeConnection t with
  | none => throw ((← get).fault t .connectionReleased)
  | some c =>
    let s ← get
    let display := (s.transaction t).display
    report (.ending display outcome)
    let ended ← attempt
      (drive (s.context t outcome.statement []) (endCall outcome c))
    let closed ← attempt
      (drive (s.context t "<close connection>" []) (Driver.close c))
    clearCache t
    report (.ended display outcome)
    ofExcept (firstFailure ended closed)

/-- Goes back to a savepoint. What was cached since may be reverted, so the
cache is emptied first. -/
def revert (t : TransactionId) (savepoint : String) : Action Unit := do
  clearCache t
  onConnection t (rollbackToStatement savepoint) [] fun c =>
    Driver.rollbackToSavepoint c savepoint

/-- The calls that end a nested transaction. The savepoint is given up in
any case. -/
def endNested (t : TransactionId) (savepoint : String) (outcome : Outcome) :
    Action Unit := do
  let reverted ← match outcome with
    | .commit => pure (.ok ())
    | .rollback => attempt (revert t savepoint)
  let released ← attempt
    (onConnection t (releaseStatement savepoint) [] fun c =>
      Driver.releaseSavepoint c savepoint)
  report (.nestedEnded ((← get).transaction t).display savepoint outcome)
  ofExcept (firstFailure reverted released)

/-- Notes that a transaction has ended: its parent has one open child
less. -/
def markFinished (t : TransactionId) : Action Unit :=
  modify fun s =>
    let ended := s.modifyTransaction t fun tx => { tx with finished := true }
    match (s.transaction t).parent with
    | none => ended
    | some parent =>
      ended.modifyTransaction parent fun p =>
        { p with openChildren := p.openChildren - 1 }

/-- Ends a transaction. -/
def finish (t : TransactionId) (outcome : Outcome) : Action Unit := do
  let s ← get
  let tx := s.transaction t
  if tx.finished then throw (s.fault t .alreadyFinished)
  else if 0 < tx.openChildren then
    throw (s.fault t (.openChildren tx.openChildren))
  else
    let ended ← attempt (match tx.savepoint with
      | none => endRoot t outcome
      | some savepoint => endNested t savepoint outcome)
    markFinished t
    ofExcept ended

/-- Commits a transaction. -/
def commit (t : TransactionId) : Action Unit :=
  finish t .commit

/-- Rolls a transaction back. -/
def rollback (t : TransactionId) : Action Unit :=
  finish t .rollback

/-- How a transaction ends that is not told how. -/
def impliedOutcome (readOnly : Bool) : Outcome :=
  if readOnly then .commit else .rollback

/-- Ends a transaction unless it has ended. -/
def close (t : TransactionId) : Action Unit := do
  let tx := (← get).transaction t
  if tx.finished then pure ()
  else finish t (impliedOutcome tx.readOnly)

/-- Gives a transaction up. A failure is only reported. -/
def drop (t : TransactionId) : Action Unit := do
  match ← attempt (close t) with
  | .ok () => pure ()
  | .error e =>
    report (.implicitEndFailed ((← get).transaction t).display e.message)

end DataAccess.Action
