/-
Entities and how they are declared. An entity type is described by data: its
table, its columns with the field each is bound to, and hooks that run after
an entity is loaded or stored. An entity itself is the list of its fields, in
the order of the columns.

A relation is a column that holds the identity of another entity. In the
entity it is a reference: the identity as it was stored, and the shared
instance it stands for. Shared instances never change; they are known by
number, so that two references stand for one instance exactly when the
numbers are equal.
-/
import DataAccess.Error.Basic
import DataAccess.Value.Scalar

namespace DataAccess

-- ============================================================== entities

/-- The number of a shared instance. -/
abbrev InstanceId := Nat

/-- A reference to another entity. -/
structure Reference where
  /-- The identity as it is stored in the column. -/
  id : Value
  target : InstanceId
  deriving DecidableEq

/-- A field bound to a column. -/
inductive Field where
  | plain (datum : Datum)
  | relation (reference : Option Reference)
  deriving DecidableEq

/-- An entity: its bound fields in column order, and counters that no column
is bound to. -/
structure Entity where
  /-- The name of its type. -/
  type : String
  fields : List Field
  counters : List (String × Nat)
  deriving DecidableEq

namespace Entity

/-- The entity with one field set. -/
def setField (e : Entity) (index : Nat) (f : Field) : Entity :=
  { e with fields := e.fields.set index f }

/-- The reference in a relation field. -/
def referenceAt? (e : Entity) (index : Nat) : Option Reference :=
  match e.fields[index]? with
  | some (.relation reference) => reference
  | _ => none

/-- The entity with one counter increased. -/
def count (e : Entity) (name : String) : Entity :=
  { e with
    counters := e.counters.map fun (n, k) => (n, if n = name then k + 1 else k) }

end Entity

-- =========================================================== declarations

/-- How a column is bound to its field. -/
inductive Access where
  /-- The field holds the value of the column. -/
  | plain (type : FieldType)
  /-- The field refers to an entity of the target type. Row columns that
  start with `columnPrefix` describe that entity. -/
  | relation (target columnPrefix : String)

/-- A column of an entity. -/
structure ColumnBinding where
  name : String
  field : String
  /-- Whether it is part of the identity. -/
  identity : Bool
  /-- Whether the database generates it. -/
  generated : Bool
  access : Access

namespace ColumnBinding

/-- A plain column bound to the field of the same name. -/
def plain (name : String) (type : FieldType) : ColumnBinding :=
  { name, field := name, identity := false, generated := false
    access := .plain type }

/-- A relation. -/
def relation (name field target columnPrefix : String) : ColumnBinding :=
  { name, field, identity := false, generated := false
    access := .relation target columnPrefix }

/-- The column as part of the identity. -/
def asIdentity (c : ColumnBinding) : ColumnBinding :=
  { c with identity := true }

/-- The column as a generated identity. -/
def asGenerated (c : ColumnBinding) : ColumnBinding :=
  { c with identity := true, generated := true }

/-- The column bound to a field of another name. -/
def boundTo (c : ColumnBinding) (field : String) : ColumnBinding :=
  { c with field }

/-- Whether the column is a relation. -/
def isRelation (c : ColumnBinding) : Bool :=
  match c.access with
  | .relation .. => true
  | .plain _ => false

/-- The field of a fresh entity: the default of its type, or no reference. -/
def initialField (c : ColumnBinding) : Field :=
  match c.access with
  | .plain type => .plain type.initial
  | .relation .. => .relation none

end ColumnBinding

/-- A step that changes an entity and may fail; what it changed before it
failed stays changed. -/
abbrev Edit (α : Type) := EStateM Error Entity α

/-- The declaration of an entity type. -/
structure EntityDescriptor where
  /-- The name of the type in messages. -/
  typeName : String
  table : Option String
  columns : List ColumnBinding
  /-- The names of its counters. -/
  counters : List String
  /-- Runs after an entity was filled from a row. It sees the entities that the
  references stand for only by their numbers. An entity that is shared never
  changes, so what it reads of one is a function of the number. -/
  postLoad : Option (Edit Unit)
  /-- Runs after an entity was written. -/
  postStore : Option (Edit Unit)

namespace EntityDescriptor

/-- An empty declaration. -/
def empty (typeName : String) : EntityDescriptor :=
  { typeName, table := none, columns := [], counters := []
    postLoad := none, postStore := none }

/-- A declaration of a table and its columns. -/
def ofColumns (typeName table : String) (columns : List ColumnBinding) :
    EntityDescriptor :=
  { empty typeName with table := some table, columns }

/-- The number of identity columns. -/
def identityCount (d : EntityDescriptor) : Nat :=
  (d.columns.filter (·.identity)).length

/-- The relation that is bound to a field: its position among the columns,
and its target. -/
def relation? (d : EntityDescriptor) (field : String) :
    Option (Nat × String) :=
  d.columns.zipIdx.findSome? fun (c, index) =>
    match c.access with
    | .relation target _ => if c.field = field then some (index, target) else none
    | .plain _ => none

/-- A fresh entity of the type, its default. A type derives it from its
columns: plain fields are the defaults of their types, there are no
references, and nothing was counted. -/
def initial (d : EntityDescriptor) : Entity :=
  { type := d.typeName
    fields := d.columns.map (·.initialField)
    counters := d.counters.map (·, 0) }

end EntityDescriptor

/-- The entity types that a program knows. -/
abbrev Schema := List EntityDescriptor

/-- The declaration of a type. -/
def Schema.find? (schema : Schema) (typeName : String) :
    Option EntityDescriptor :=
  List.find? (fun d => d.typeName == typeName) schema

end DataAccess
