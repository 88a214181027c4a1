/-
The ledger of a session: what is left of it when everything is forgotten
that has no part in how units of work begin and end. That is the
transactions, which connection each chain has, the last number handed out,
which connections are open, and the log of the driver. The instances,
the caches, the events and the script of the driver are gone.

A session is seen through its ledger wherever units of work are reasoned
about: two sessions with the same ledger cannot be told apart there. The
lemmas of this file say which changes of a session a ledger does not see, and
that a call of the driver is one more record in it.
-/
import DataAccess.Proofs.Driver.Recording

namespace DataAccess

-- ========================================================== the ledger

/-- What a session keeps about its units of work. -/
structure Ledger where
  savepointPrefix : String
  /-- The last transaction number that was handed out. -/
  last : Nat
  /-- The connection of each chain, until its root ends. -/
  connections : List (Option Nat)
  transactions : List Transaction
  /-- The connections that were opened, by whether they still are. -/
  held : List Bool
  log : List CallRecord

namespace Ledger

/-- A transaction of the ledger. -/
def transaction (l : Ledger) (t : TransactionId) : Transaction :=
  l.transactions[t]?.getD Transaction.absent

/-- How many connections were opened. -/
def opened (l : Ledger) : Nat :=
  l.held.length

/-- The connection of a transaction, until the root of its chain ends. -/
def connectionOf? (l : Ledger) (t : TransactionId) : Option Nat :=
  l.transactions[t]?.bind fun tx => l.connections[tx.chain]?.join

/-- The name of the savepoint of a number. -/
def savepointName (l : Ledger) (number : Nat) : String :=
  l.savepointPrefix ++ "_" ++ toString number

/-- The ledger with more calls recorded. -/
def record (l : Ledger) (entries : List CallRecord) : Ledger :=
  { l with log := l.log ++ entries }

/-- The ledger with a connection given back. -/
def givenBack (l : Ledger) (c : Nat) : Ledger :=
  { l with held := l.held.set c false }

/-- A transaction that has not ended. -/
def IsOpen (l : Ledger) (t : TransactionId) : Prop :=
  (l.transaction t).finished = false

instance (l : Ledger) (t : TransactionId) : Decidable (l.IsOpen t) :=
  inferInstanceAs (Decidable (_ = _))

/-- A transaction that has not ended has a connection. -/
def Connected (l : Ledger) (t : TransactionId) : Prop :=
  l.IsOpen t → (l.connectionOf? t).isSome

/-- A record that a statement of a transaction may leave behind: a call of
a statement, on the connection of the transaction, while it is open, and
while it is writable if the call changes data. -/
structure Admits (l : Ledger) (t : TransactionId) (entry : CallRecord) :
    Prop where
  isOpen : l.IsOpen t
  connection : entry.connection.isSome
  connection_eq : entry.connection = l.connectionOf? t
  isWork : entry.call.isWork
  writable : entry.call.isWrite = true → (l.transaction t).readOnly = false

section

variable (l : Ledger) (t : TransactionId) (entries more : List CallRecord)

@[simp] theorem record_nil : l.record [] = l := by
  unfold record
  rw [List.append_nil]

@[simp] theorem record_record :
    (l.record entries).record more = l.record (entries ++ more) := by
  unfold record
  rw [List.append_assoc]

@[simp] theorem connectionOf?_record :
    (l.record entries).connectionOf? t = l.connectionOf? t := rfl

@[simp] theorem log_record : (l.record entries).log = l.log ++ entries := rfl

/-- Records do not end a transaction. -/
@[simp] theorem isOpen_record : (l.record entries).IsOpen t ↔ l.IsOpen t :=
  Iff.rfl

@[simp] theorem connected_record :
    (l.record entries).Connected t ↔ l.Connected t := Iff.rfl

/-- What may be recorded does not depend on what was. -/
@[simp] theorem admits_record (entry : CallRecord) :
    (l.record entries).Admits t entry ↔ l.Admits t entry :=
  ⟨fun h => ⟨h.isOpen, h.connection, h.connection_eq, h.isWork, h.writable⟩,
   fun h => ⟨h.isOpen, h.connection, h.connection_eq, h.isWork, h.writable⟩⟩

end

/-- A transaction is open or has ended. -/
theorem not_isOpen_iff {l : Ledger} {t : TransactionId} :
    ¬ l.IsOpen t ↔ (l.transaction t).finished = true := by
  unfold IsOpen
  cases (l.transaction t).finished <;> simp

/-- A transaction that is open was begun. -/
theorem lt_of_isOpen {l : Ledger} {t : TransactionId} (h : l.IsOpen t) :
    t < l.transactions.length := by
  rcases Nat.lt_or_ge t l.transactions.length with hlt | hge
  · exact hlt
  · unfold IsOpen transaction at h
    rw [List.getElem?_eq_none hge] at h
    cases h

/-- A transaction that was begun is the entry at its place. -/
theorem transaction_eq_of_getElem? {l : Ledger} {t : TransactionId}
    {tx : Transaction} (h : l.transactions[t]? = some tx) :
    l.transaction t = tx := by
  unfold transaction
  rw [h]
  rfl

/-- The entry of a transaction that is open. -/
theorem getElem?_of_isOpen {l : Ledger} {t : TransactionId}
    (h : l.IsOpen t) : l.transactions[t]? = some (l.transaction t) := by
  obtain ⟨tx, htx⟩ : ∃ tx, l.transactions[t]? = some tx :=
    ⟨_, List.getElem?_eq_getElem (lt_of_isOpen h)⟩
  rw [transaction_eq_of_getElem? htx, htx]

end Ledger

-- =========================================================== the view

namespace Session

variable (s : Session) (t : TransactionId)

/-- The ledger of a session. -/
def ledger : Ledger :=
  { savepointPrefix := s.config.savepointPrefix
    last := s.numbers.last
    connections := s.connections
    transactions := s.transactions
    held := s.driver.connections
    log := s.driver.log }

@[simp] theorem transaction_ledger :
    s.ledger.transaction t = s.transaction t := rfl

@[simp] theorem transactions_ledger :
    s.ledger.transactions = s.transactions := rfl

@[simp] theorem log_ledger : s.ledger.log = s.driver.log := rfl

@[simp] theorem connectionOf?_ledger :
    s.ledger.connectionOf? t = s.connectionOf? t :=
  (s.connectionOf?_eq t).symm

/-- An event is not in the ledger. -/
@[simp] theorem ledger_report (e : Event) : (s.report e).ledger = s.ledger := rfl

/-- A cache is not in the ledger. -/
@[simp] theorem ledger_modifyCache
    (f : IdentityCache InstanceId → IdentityCache InstanceId) :
    (s.modifyCache t f).ledger = s.ledger := by
  unfold ledger
  simp

/-- A call that the driver records is a record of the ledger. -/
theorem ledger_drive {α : Type} {connection : Option Nat} {call : Call}
    {step : Driver.Step α} (h : Driver.Records connection call step)
    (context : StatementContext) :
    ((Action.drive context step).after s).ledger
      = s.ledger.record
          [⟨connection, call, Driver.failureOf (step.answer s.driver)⟩] := by
  rw [Action.after_drive]
  unfold ledger Ledger.record
  simp only [h.log, h.connections]
  rfl

/-- Closing a connection is a record as well, and gives it back. -/
theorem ledger_close (c : Nat) (context : StatementContext) :
    ((Action.drive context (Driver.close c)).after s).ledger
      = (s.ledger.record [⟨some c, .close,
          Driver.failureOf ((Driver.close c).answer s.driver)⟩]).givenBack
          c := by
  rw [Action.after_drive]
  unfold ledger Ledger.record Ledger.givenBack
  simp only [Driver.log_close, Driver.connections_close]
  rfl

/-- Records do not touch the connections. -/
theorem connectionOf?_of_record {s s' : Session} {entries : List CallRecord}
    (h : s'.ledger = s.ledger.record entries) (t : TransactionId) :
    s'.connectionOf? t = s.connectionOf? t := by
  rw [← connectionOf?_ledger, h, Ledger.connectionOf?_record,
    connectionOf?_ledger]

/-- A number that is taken is the last one handed out. -/
theorem ledger_nextNumber :
    (Action.nextNumber.after s).ledger
      = { s.ledger with last := s.ledger.last + 1 } := rfl

end Session

-- ======================================================== watched actions

/-- What came of a call of the caller: its result, and what the driver
recorded meanwhile. -/
structure Reply (α : Type) where
  result : Except Error α
  records : List CallRecord

/-- An action that cannot fail, with what came of it. -/
def Action.watch {α : Type} (a : Action α) : Action (Reply α) := do
  let before := (← get).driver.log.length
  let result ← attempt a
  return ⟨result, (← get).driver.log.drop before⟩

/-- An action is watched: what it records is what the log has more
afterwards. -/
theorem Action.watch_eq {α : Type} {s : Session} (a : Action α)
    {entries : List CallRecord}
    (h : (a.after s).ledger.log = s.ledger.log ++ entries) :
    watch a s = .ok ⟨a.answer s, entries⟩ (a.after s) := by
  have hlog : (a.after s).driver.log = s.driver.log ++ entries := h
  have hdrop : (a.after s).driver.log.drop s.driver.log.length = entries := by
    rw [hlog]
    exact List.drop_left
  unfold watch
  rw [EStateM.get_bind, EStateM.bind_of_eq_ok (attempt_eq s a),
    EStateM.get_bind, hdrop]
  rfl

/-- Watching shows what an action answered with, and its calls. -/
theorem Action.watch_of_ok {α : Type} {a : Action α} {x : α}
    {s s' : Session} {entries : List CallRecord} (h : a s = .ok x s')
    (hlog : s'.ledger.log = s.ledger.log ++ entries) :
    watch a s = .ok ⟨.ok x, entries⟩ s' := by
  have hafter := EStateM.after_of_eq_ok h
  rw [← EStateM.answer_of_eq_ok h, ← hafter]
  exact watch_eq a (by rw [hafter, hlog])

/-- It answers where the action fails, too. -/
theorem Action.watch_of_error {α : Type} {a : Action α} {e : Error}
    {s s' : Session} {entries : List CallRecord} (h : a s = .error e s')
    (hlog : s'.ledger.log = s.ledger.log ++ entries) :
    watch a s = .ok ⟨.error e, entries⟩ s' := by
  have hafter := EStateM.after_of_eq_error h
  rw [← EStateM.answer_of_eq_error h, ← hafter]
  exact watch_eq a (by rw [hafter, hlog])

end DataAccess
