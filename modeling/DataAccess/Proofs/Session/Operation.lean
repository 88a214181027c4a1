/-
What a caller can ask of a session, as data: to begin a transaction, to end
one in one of four ways, or to run a statement on one. A list of operations
is a run; an operation that fails leaves the session as it is by then, and
the run goes on. So a statement about all lists of operations is a statement
about every order in which a caller may use the handles it has, the ones
that have ended included.

What a caller makes of rows is a function of the rows alone.
-/
import DataAccess.Proofs.Session.Running
import DataAccess.Session.BulkExport

namespace DataAccess

/-- What is made of the rows of a query. -/
inductive Fetch where
  | rows
  | one
  | optional
  | scalar (type : FieldType)
  | mapped (f : Row → Except Error Unit)
  | records (mapper : RecordMapper RecordValue)
  | entities (typeName : String)

/-- Anything that is run on a transaction and does not end it. -/
inductive Statement where
  | execute (sql : String) (params : Params)
  | query (sql : String) (params : Params) (fetch : Fetch)
  | select (typeName suffix : String) (params : Params)
  | selectOptional (typeName suffix : String) (params : Params)
  | find (typeName : String) (id : List Value)
  | findShared (typeName : String) (id : List Value)
  | resolve (target : String) (reference : Reference)
  | insert (e : Entity)
  | update (e : Entity)
  | delete (e : Entity)
  | load (b : EntityBinding) (row : Row)
  | inject (e : Entity) (b : EntityBinding) (row : Row)
  | copyOut (sql : String) (types : List BulkType)
      (mapper : BulkRow → EStateM Error (List BulkRow) Unit)

/-- How a transaction is ended. -/
inductive Ending where
  | commit
  | rollback
  | close
  | drop
  deriving DecidableEq, Repr

/-- What a caller can ask of a session. -/
inductive Operation where
  | begin (readOnly : Bool)
  | beginNested (parent : TransactionId)
  | ending (t : TransactionId) (how : Ending)
  | statement (t : TransactionId) (st : Statement)

-- =============================================================== meaning

namespace Action

variable {α : Type}

/-- An action whose result is of no interest. -/
def ignoring (a : Action α) : Action Unit := do
  let _ ← a

@[simp] theorem after_ignoring (a : Action α) (s : Session) :
    (ignoring a).after s = a.after s := by
  unfold ignoring
  rw [EStateM.after_bind]
  cases a.answer s <;> rfl

@[simp] theorem answer_ignoring (a : Action α) (s : Session) :
    (ignoring a).answer s = (a.answer s).map fun _ => () := by
  unfold ignoring
  rw [EStateM.answer_bind]
  cases a.answer s <;> rfl

end Action

section

variable (schema : Schema) (t : TransactionId)

/-- Runs a query and makes of its rows what is wanted. -/
def Fetch.run (sql : String) (params : Params) : Fetch → Action Unit
  | .rows => .ignoring (Action.fetchRows t sql params)
  | .one => .ignoring (Action.fetchOne t sql params)
  | .optional => .ignoring (Action.fetchOptional t sql params)
  | .scalar type => .ignoring (Action.fetchScalar t sql params type)
  | .mapped f =>
    .ignoring (Action.fetchMap t sql params fun row => Action.ofExcept (f row))
  | .records mapper => .ignoring (Action.fetchRecords t sql params mapper)
  | .entities typeName =>
    .ignoring (Action.fetchEntities schema t typeName sql params)

/-- Works on an entity; a failure is the failure of the statement. -/
def Statement.onEntity {α : Type} (a : EntityAction α) (e : Entity) :
    Action Unit := do
  let (result, _) ← a.run e
  .ignoring (Action.ofExcept result)

/-- Runs a statement on a transaction. -/
def Statement.run : Statement → Action Unit
  | .execute sql params => .ignoring (Action.execute t sql params)
  | .query sql params fetch => fetch.run schema t sql params
  | .select typeName suffix params =>
    .ignoring (Action.select schema t typeName suffix params)
  | .selectOptional typeName suffix params =>
    .ignoring (Action.selectOptional schema t typeName suffix params)
  | .find typeName id => .ignoring (Action.find schema t typeName id)
  | .findShared typeName id =>
    .ignoring (Action.findShared schema t typeName id)
  | .resolve target reference =>
    .ignoring (Action.resolveReference schema t target reference)
  | .insert e => onEntity (EntityAction.insert schema t) e
  | .update e => onEntity (EntityAction.update schema t) e
  | .delete e => onEntity (EntityAction.delete schema t) e
  | .load b row => .ignoring (Action.load schema t b row)
  | .inject e b row => onEntity (EntityAction.inject schema t b row) e
  | .copyOut sql types mapper => do
    let (result, _) ← Action.copyBinary t sql types mapper []
    .ignoring (Action.ofExcept result)

end

/-- Ends a transaction. -/
def Ending.run (t : TransactionId) : Ending → Action Unit
  | .commit => Action.commit t
  | .rollback => Action.rollback t
  | .close => Action.close t
  | .drop => Action.drop t

/-- Whether a transaction that is ended like this commits or rolls back. -/
def Ending.outcome (readOnly : Bool) : Ending → Outcome
  | .commit => .commit
  | .rollback => .rollback
  | .close => Action.impliedOutcome readOnly
  | .drop => Action.impliedOutcome readOnly

namespace Operation

/-- Does what is asked. -/
def run (schema : Schema) : Operation → Action Unit
  | .begin readOnly => .ignoring (Action.begin readOnly)
  | .beginNested parent => .ignoring (Action.beginNested parent)
  | .ending t how => how.run t
  | .statement t st => st.run schema t

end Operation

namespace Session

/-- The session after an operation. -/
def perform (schema : Schema) (s : Session) (op : Operation) : Session :=
  (op.run schema).after s

/-- The session after operations, one after the other. -/
def performAll (schema : Schema) : Session → List Operation → Session
  | s, [] => s
  | s, op :: ops => performAll schema (s.perform schema op) ops

end Session

end DataAccess
