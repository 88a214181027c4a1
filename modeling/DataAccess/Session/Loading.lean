/-
Entities from rows. A row is injected column by column, in the order of the
binding: each column is looked up under its table first and then by its bare
name; plain columns are decoded, relations become references. The first
column that fails ends it, and what was set before stays set.

`EntityAction` is an action that also changes one entity; like any action it
keeps what it did when it fails, so that the state of the entity after a
failure can be told.
-/
import DataAccess.Session.Relation

namespace DataAccess

/-- A session together with the entity that is worked on. -/
structure Workbench where
  entity : Entity
  session : Session

/-- An action that changes an entity as well. -/
abbrev EntityAction (α : Type) := EStateM Error Workbench α

namespace EntityAction

variable {α : Type}

/-- An action that leaves the entity alone. -/
def ofAction (a : Action α) : EntityAction α := fun w =>
  match a w.session with
  | .ok x session => .ok x { w with session }
  | .error e session => .error e { w with session }

/-- An edit of the entity that leaves the session alone. -/
def ofEdit (edit : Edit α) : EntityAction α := fun w =>
  match edit w.entity with
  | .ok x entity => .ok x { w with entity }
  | .error e entity => .error e { w with entity }

/-- A result as an action. -/
def ofExcept : Except Error α → EntityAction α
  | .ok x => pure x
  | .error e => throw e

/-- The entity as it is now. -/
def entity : EntityAction Entity := do
  return (← get).entity

/-- Works on an entity; gives the result, or how it failed, and the entity
as it is then. -/
def run (a : EntityAction α) (e : Entity) :
    Action (Except Error α × Entity) := fun s =>
  match a { entity := e, session := s } with
  | .ok x w => .ok (.ok x, w.entity) w.session
  | .error err w => .ok (.error err, w.entity) w.session

/-- Works on a fresh entity and gives it back. -/
def build (a : EntityAction Unit) (e : Entity) : Action Entity := fun s =>
  match a { entity := e, session := s } with
  | .ok () w => .ok w.entity w.session
  | .error err w => .error err w.session

end EntityAction

namespace EntityAction

variable (schema : Schema)

/-- Sets a relation from a row. -/
def injectRelation (t : TransactionId) (b : EntityBinding)
    (c : ColumnBinding) (index : Nat) (target columnPrefix : String)
    (key : Value) (row : Row) : EntityAction Unit := do
  let reference ← ofAction
    (Action.mapError (b.columnError c.name)
      (Action.loadReference schema t target key columnPrefix row))
  ofEdit (modify (·.setField index (.relation reference)))

/-- Sets one column from a row. -/
def injectColumn (t : TransactionId) (b : EntityBinding) (row : Row)
    (c : ColumnBinding) (index : Nat) : EntityAction Unit := do
  let v ← ofExcept (b.lookup row c.name)
  match c.access with
  | .plain _ => ofEdit (b.setColumn c index v)
  | .relation target columnPrefix =>
    injectRelation schema t b c index target columnPrefix v row

/-- Sets columns from a row, one after the other. -/
def injectColumns (t : TransactionId) (b : EntityBinding) (row : Row) :
    List (ColumnBinding × Nat) → EntityAction Unit
  | [] => pure ()
  | (c, index) :: columns => do
    injectColumn schema t b row c index
    injectColumns t b row columns

/-- Sets every column from a row. -/
def inject (t : TransactionId) (b : EntityBinding) (row : Row) :
    EntityAction Unit :=
  injectColumns schema t b row b.columns.zipIdx

end EntityAction

namespace Action

variable (schema : Schema)

/-- A fresh entity from a row, after its hook. -/
def load (t : TransactionId) (b : EntityBinding) (row : Row) :
    Action Entity :=
  EntityAction.build
    (do
      EntityAction.inject schema t b row
      EntityAction.ofEdit b.runPostLoad)
    b.initial

end Action

end DataAccess
