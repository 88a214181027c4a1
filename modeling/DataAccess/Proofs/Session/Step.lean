/-
What one operation can do to the ledger. `Ledger.Step` says it, operation by
operation, with the calls that each makes and with every way in which they
can fail. `Proofs/Session/Stepping` proves that a session does nothing else.

# The cases

- Beginning a root connects and begins. Three things can happen: no
  connection, a connection on which nothing began (it is closed again), a
  root on a chain of its own.
- Beginning a nested transaction takes a number and sets a savepoint. If
  that fails the number is lost, and nothing else has changed.
- Ending makes its calls, and whatever becomes of them the transaction has
  ended and its parent has one open child less. The connection goes with
  the root.
- A statement only adds records (`Proofs/Session/Statements`).
- What is refused changes nothing.
-/
import DataAccess.Proofs.Session.Statements

namespace DataAccess

/-- The call that ends a root transaction. -/
def Outcome.call : Outcome → Call
  | .commit => .commit
  | .rollback => .rollback

namespace Ledger

-- ============================================================ the changes

section

variable (l : Ledger)

/-- A root transaction as it is begun. -/
def newRoot (readOnly : Bool) : Transaction :=
  { number := l.last + 1
    display := "tx#" ++ toString (l.last + 1)
    readOnly
    savepoint := none
    parent := none
    chain := l.connections.length
    finished := false
    openChildren := 0 }

/-- A transaction nested in another one as it is begun. -/
def newNested (parent : TransactionId) : Transaction :=
  { number := l.last + 1
    display := "tx#" ++ toString (l.last + 1) ++ "("
      ++ (l.transaction parent).display ++ ")"
    readOnly := (l.transaction parent).readOnly
    savepoint := some (l.savepointName (l.last + 1))
    parent := some parent
    chain := (l.transaction parent).chain
    finished := false
    openChildren := 0 }

/-- The ledger after a connection was opened on which nothing began. -/
def abandoned (readOnly : Bool) (failure : DriverError)
    (closing : Option DriverError) : Ledger :=
  { l with
    last := l.last + 1
    held := l.held ++ [false]
    log := l.log ++
      [⟨none, .connect, none⟩, ⟨some l.opened, .begin readOnly, some failure⟩,
       ⟨some l.opened, .close, closing⟩] }

/-- The ledger after a root transaction was begun. -/
def begun (readOnly : Bool) : Ledger :=
  { l with
    last := l.last + 1
    held := l.held ++ [true]
    connections := l.connections ++ [some l.opened]
    transactions := l.transactions ++ [l.newRoot readOnly]
    log := l.log ++
      [⟨none, .connect, none⟩, ⟨some l.opened, .begin readOnly, none⟩] }

/-- The ledger after a savepoint could not be set. -/
def unmarked (c : Nat) (failure : DriverError) : Ledger :=
  { l with
    last := l.last + 1
    log := l.log ++
      [⟨some c, .savepoint (l.savepointName (l.last + 1)), some failure⟩] }

/-- The transactions with one more open child of one of them. -/
def withOpenChild (parent : TransactionId) : List Transaction :=
  l.transactions.modify parent fun p =>
    { p with openChildren := p.openChildren + 1 }

/-- The ledger after a nested transaction was begun. -/
def nested (parent : TransactionId) (c : Nat) : Ledger :=
  { l with
    last := l.last + 1
    transactions := l.withOpenChild parent ++ [l.newNested parent]
    log := l.log ++
      [⟨some c, .savepoint (l.savepointName (l.last + 1)), none⟩] }

/-- The transactions after one of them ended. -/
def withEnded (t : TransactionId) : List Transaction :=
  let ended := l.transactions.modify t fun tx => { tx with finished := true }
  match (l.transaction t).parent with
  | none => ended
  | some parent => ended.modify parent fun p =>
      { p with openChildren := p.openChildren - 1 }

/-- The ledger after a root transaction ended: its connection is gone. -/
def rootEnded (t : TransactionId) (entries : List CallRecord) : Ledger :=
  { l with
    held := match l.connectionOf? t with
      | some c => l.held.set c false
      | none => l.held
    connections := l.connections.modify (l.transaction t).chain fun _ => none
    transactions := l.withEnded t
    log := l.log ++ entries }

/-- The ledger after a nested transaction ended. -/
def nestedEnded (t : TransactionId) (entries : List CallRecord) : Ledger :=
  { l with
    transactions := l.withEnded t
    log := l.log ++ entries }

@[simp] theorem opened_abandoned (readOnly : Bool) (failure : DriverError)
    (closing : Option DriverError) :
    (l.abandoned readOnly failure closing).opened = l.opened + 1 :=
  List.length_append

@[simp] theorem opened_begun (readOnly : Bool) :
    (l.begun readOnly).opened = l.opened + 1 :=
  List.length_append

@[simp] theorem opened_unmarked (c : Nat) (failure : DriverError) :
    (l.unmarked c failure).opened = l.opened := rfl

@[simp] theorem opened_nested (parent : TransactionId) (c : Nat) :
    (l.nested parent c).opened = l.opened := rfl

@[simp] theorem opened_nestedEnded (t : TransactionId)
    (entries : List CallRecord) :
    (l.nestedEnded t entries).opened = l.opened := rfl

@[simp] theorem opened_rootEnded (t : TransactionId)
    (entries : List CallRecord) :
    (l.rootEnded t entries).opened = l.opened := by
  unfold rootEnded opened
  cases l.connectionOf? t with
  | none => rfl
  | some c => exact List.length_set

end

-- =============================================================== the step

/-- An operation that is refused without a call. -/
def Refuses (l : Ledger) : Operation → Prop
  | .begin _ => False
  | .beginNested parent => ¬ l.IsOpen parent
  | .ending t _ => ¬ l.IsOpen t ∨ 0 < (l.transaction t).openChildren
  | .statement _ _ => False

/-- A transaction that can be ended: it is open, nothing nested in it is,
and it has its connection. -/
structure Ends (l : Ledger) (t : TransactionId) (c : Nat) : Prop where
  isOpen : l.IsOpen t
  childless : (l.transaction t).openChildren = 0
  connection : l.connectionOf? t = some c

/-- What an operation can do. -/
inductive Step (l : Ledger) : Operation → Ledger → Prop where
  | refused {op : Operation} (h : l.Refuses op) : Step l op l
  | unconnected (readOnly : Bool) (failure : DriverError) :
      Step l (.begin readOnly)
        (l.record [⟨none, .connect, some failure⟩])
  | abandoned (readOnly : Bool) (failure : DriverError)
      (closing : Option DriverError) :
      Step l (.begin readOnly) (l.abandoned readOnly failure closing)
  | begun (readOnly : Bool) : Step l (.begin readOnly) (l.begun readOnly)
  | unmarked {parent : TransactionId} {c : Nat} (hopen : l.IsOpen parent)
      (hc : l.connectionOf? parent = some c) (failure : DriverError) :
      Step l (.beginNested parent) (l.unmarked c failure)
  | nested {parent : TransactionId} {c : Nat} (hopen : l.IsOpen parent)
      (hc : l.connectionOf? parent = some c) :
      Step l (.beginNested parent) (l.nested parent c)
  | rootEnded {t : TransactionId} {c : Nat} (how : Ending)
      (hends : l.Ends t c) (hroot : (l.transaction t).savepoint = none)
      (ended closed : Option DriverError) :
      Step l (.ending t how)
        (l.rootEnded t
          [⟨some c, (how.outcome (l.transaction t).readOnly).call, ended⟩,
           ⟨some c, .close, closed⟩])
  | released {t : TransactionId} {c : Nat} {name : String} (how : Ending)
      (hends : l.Ends t c) (hnested : (l.transaction t).savepoint = some name)
      (hcommit : how.outcome (l.transaction t).readOnly = .commit)
      (released : Option DriverError) :
      Step l (.ending t how)
        (l.nestedEnded t [⟨some c, .releaseSavepoint name, released⟩])
  | reverted {t : TransactionId} {c : Nat} {name : String} (how : Ending)
      (hends : l.Ends t c) (hnested : (l.transaction t).savepoint = some name)
      (hrollback : how.outcome (l.transaction t).readOnly = .rollback)
      (reverted released : Option DriverError) :
      Step l (.ending t how)
        (l.nestedEnded t
          [⟨some c, .rollbackToSavepoint name, reverted⟩,
           ⟨some c, .releaseSavepoint name, released⟩])
  | worked {t : TransactionId} {st : Statement} {entries : List CallRecord}
      (h : ∀ entry ∈ entries, l.Admits t entry) :
      Step l (.statement t st) (l.record entries)

end Ledger

end DataAccess
