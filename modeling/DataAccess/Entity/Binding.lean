/-
Bindings of entity types. A declaration is checked once, when it is first
used; a binding is a declaration that passed. It reads the columns of an
entity, writes its statements, and fills it from rows, all in the order of
declaration.
-/
import DataAccess.Entity.Basic
import DataAccess.Identity.Key
import DataAccess.Row
import DataAccess.Text.Blank

namespace DataAccess

/-- A declaration that was found to be sound, and its table. -/
structure EntityBinding where
  descriptor : EntityDescriptor
  table : String

namespace EntityBinding

-- ============================================================ validation

/-- What is wrong with the names of the columns, if anything. -/
def nameFault? : List String → List ColumnBinding → Option BindingFault
  | _, [] => none
  | seen, c :: cs =>
    if c.name.isEmpty then some .emptyColumn
    else if seen.contains (Text.fold c.name) then some (.boundTwice c.name)
    else nameFault? (Text.fold c.name :: seen) cs

/-- The number of identity columns that a type declares. -/
def identityCountOf (schema : Schema) (typeName : String) : Nat :=
  match schema.find? typeName with
  | some d => d.identityCount
  | none => 0

/-- What is wrong with the relations, if anything. The target of a relation
has one identity column; nothing else about it is checked here. -/
def relationFault? (schema : Schema) : List ColumnBinding → Option BindingFault
  | [] => none
  | c :: cs =>
    match c.access with
    | .plain _ => relationFault? schema cs
    | .relation target _ =>
      if c.identity then some (.relationIdentity c.name)
      else
        let count := identityCountOf schema target
        if count = 1 then relationFault? schema cs
        else some (.relationTarget c.name target count)

/-- What is wrong with a declaration of a table, if anything. -/
def columnsFault? (schema : Schema) (table : String) (d : EntityDescriptor) :
    Option BindingFault :=
  if d.columns.isEmpty then some (.noColumns table)
  else
    match nameFault? [] d.columns with
    | some fault => some fault
    | none =>
      if d.identityCount = 0 then some .noIdentity
      else if d.columns.any (·.generated) && d.identityCount > 1 then
        some .compositeGenerated
      else relationFault? schema d.columns

/-- The binding of a declaration, if it is sound. -/
def ofDescriptor (schema : Schema) (d : EntityDescriptor) :
    Except Error EntityBinding :=
  let fail (fault : BindingFault) : Except Error EntityBinding :=
    .error (.mapping (.binding d.typeName fault))
  match d.table with
  | none => fail .noTable
  | some table =>
    if Text.isBlankText table then fail .noTable
    else
      match columnsFault? schema table d with
      | some fault => fail fault
      | none => .ok { descriptor := d, table }

/-- The binding of a type of the schema. -/
def ofType (schema : Schema) (typeName : String) :
    Except Error EntityBinding :=
  match schema.find? typeName with
  | some d => ofDescriptor schema d
  | none => .error (.mapping (.binding typeName .noTable))

-- =============================================================== columns

/-- The columns in declaration order. -/
def columns (b : EntityBinding) : List ColumnBinding :=
  b.descriptor.columns

/-- The name of the type. -/
def typeName (b : EntityBinding) : String :=
  b.descriptor.typeName

/-- The names of the columns. -/
def columnNames (b : EntityBinding) : List String :=
  b.columns.map (·.name)

/-- The columns of the identity, with their positions. -/
def identityPositions (b : EntityBinding) : List (ColumnBinding × Nat) :=
  b.columns.zipIdx.filter fun (c, _) => c.identity

/-- The names of the identity columns. -/
def identityColumns (b : EntityBinding) : List String :=
  (b.columns.filter (·.identity)).map (·.name)

/-- Whether the database generates the identity. -/
def isGenerated (b : EntityBinding) : Bool :=
  b.columns.any (·.generated)

/-- A fresh entity. -/
def initial (b : EntityBinding) : Entity :=
  b.descriptor.initial

/-- A failure of a column: a column error as it is, anything else under the
name of the column and its table. -/
def columnError (b : EntityBinding) (column : String) (e : Error) : Error :=
  match e with
  | .column name fault => .column name fault
  | other =>
    .column (b.table ++ "." ++ column) (.conversion other.message)

-- =============================================================== reading

/-- The value of a column: of a relation the identity it holds. -/
def read (b : EntityBinding) (c : ColumnBinding) (f : Field) :
    Except Error Value :=
  match f with
  | .plain datum => datum.encode.mapError (b.columnError c.name)
  | .relation none => .ok .null
  | .relation (some reference) => .ok reference.id

/-- The values of columns with their fields. -/
def readAll (b : EntityBinding) :
    List (ColumnBinding × Field) → Except Error (List Value)
  | [] => .ok []
  | (c, f) :: rest => do
    let v ← b.read c f
    let vs ← b.readAll rest
    return v :: vs

/-- The columns with the fields of an entity. -/
def bound (b : EntityBinding) (e : Entity) : List (ColumnBinding × Field) :=
  b.columns.zip e.fields

/-- The values of all columns, by name. -/
def values (b : EntityBinding) (e : Entity) :
    Except Error (List (String × Value)) :=
  (b.readAll (b.bound e)).map b.columnNames.zip

/-- The identity values of an entity. -/
def identityValues (b : EntityBinding) (e : Entity) :
    Except Error (List Value) :=
  b.readAll ((b.bound e).filter fun (c, _) => c.identity)

/-- The identity of an entity, none while it is transient. -/
def identity (b : EntityBinding) (e : Entity) :
    Except Error (Option IdentityKey) :=
  (b.identityValues e).map IdentityKey.ofValues?

/-- Whether a part of the identity is null. -/
def isTransient (b : EntityBinding) (e : Entity) : Except Error Bool :=
  (b.identityValues e).map fun vs => vs.any Value.isNull

-- =============================================================== writing

/-- Sets a plain column to a stored value. -/
def setColumn (b : EntityBinding) (c : ColumnBinding) (index : Nat)
    (v : Value) : Edit Unit :=
  match c.access with
  | .relation .. => pure ()
  | .plain type =>
    match type.decode v with
    | .ok d => modify (·.setField index (.plain d))
    | .error e => throw (b.columnError c.name e)

/-- Sets columns to values, one after the other. -/
def setColumns (b : EntityBinding) :
    List (ColumnBinding × Nat) → List Value → Edit Unit
  | (c, index) :: columns, v :: vs => do
    b.setColumn c index v
    b.setColumns columns vs
  | _, _ => pure ()

/-- Sets the identity; there must be a value for each column of it. -/
def setIdentity (b : EntityBinding) (vs : List Value) : Edit Unit :=
  let columns := b.identityPositions
  if vs.length ≠ columns.length then
    throw (.mapping (.identityWidth b.table vs.length columns.length))
  else b.setColumns columns vs

/-- Sets the columns that a row has under their name with a prefix. -/
def populateColumns (b : EntityBinding) (columnPrefix : String) (row : Row) :
    List (ColumnBinding × Nat) → Edit Unit
  | [] => pure ()
  | (c, index) :: columns => do
    match row.value? (columnPrefix ++ c.name) with
    | some v => b.setColumn c index v
    | none => pure ()
    b.populateColumns columnPrefix row columns

/-- Fills plain columns outside the identity from the columns of a row that
carry a prefix. Columns that the row does not have stay as they are. -/
def populatePrefixed (b : EntityBinding) (columnPrefix : String) (row : Row) :
    Edit Unit :=
  b.populateColumns columnPrefix row
    (b.columns.zipIdx.filter fun (c, _) => !c.identity)

/-- The identity with some of its values replaced by those of named cells. -/
def replacedIdentity (b : EntityBinding) (e : Entity)
    (cells : List (String × Value)) : Except Error (List Value) :=
  (b.identityValues e).map fun current =>
    (b.identityColumns.zip current).map fun (name, v) =>
      (cells.lookup name).getD v

/-- Sets columns by name. If an identity column is among them, the identity
is set as a whole; the other plain columns are filled as from a row of the
cells. -/
def assign (b : EntityBinding) (cells : List (String × Value)) :
    Edit Unit := do
  if cells.any fun (name, _) => b.identityColumns.contains name then
    match b.replacedIdentity (← get) cells with
    | .ok id => b.setIdentity id
    | .error e => throw e
  let columns := cells.map fun (name, _) => { table := none, name }
  match Row.ofValues (cells.map (·.2)) (ColumnResolver.ofColumns columns) with
  | .ok row => b.populatePrefixed "" row
  | .error e => throw e

/-- The value of a column in a row: under its table if the row has it there,
else by its bare name. -/
def lookup (b : EntityBinding) (row : Row) (column : String) :
    Except Error Value :=
  match row.value? (ColumnResolver.qualifiedName b.table column) with
  | some v => .ok v
  | none => row.value column

/-- Runs the hook for loaded entities. -/
def runPostLoad (b : EntityBinding) : Edit Unit :=
  b.descriptor.postLoad.getD (pure ())

/-- Runs the hook for stored entities. -/
def runPostStore (b : EntityBinding) : Edit Unit :=
  b.descriptor.postStore.getD (pure ())

-- ============================================================ statements

/-- An insert: its statement, and the columns the database generates. -/
structure InsertStatement where
  sql : String
  params : List Value
  keys : List String
  deriving DecidableEq

/-- A statement that changes rows. -/
structure ChangeStatement where
  sql : String
  params : List Value
  deriving DecidableEq

/-- A column compared with, or set to, a parameter. -/
def placed (column : String) : String :=
  column ++ " = ?"

/-- The condition that singles an entity out. -/
def identityPredicate (b : EntityBinding) : String :=
  Text.join " AND " (b.identityColumns.map placed)

/-- The statement that selects all rows. -/
def selectStatement (b : EntityBinding) : String :=
  "SELECT " ++ Text.commaSeparated b.columnNames ++ " FROM " ++ b.table

/-- The statement that selects one row. -/
def findStatement (b : EntityBinding) : String :=
  b.selectStatement ++ " WHERE " ++ b.identityPredicate

/-- The statement that inserts an entity. A generated identity is left
out. -/
def insertStatement (b : EntityBinding) (e : Entity) :
    Except Error InsertStatement := do
  let written := (b.bound e).filter fun (c, _) => !c.generated
  let params ← b.readAll written
  let names := (b.columns.filter fun c => !c.generated).map (·.name)
  return {
    sql := "INSERT INTO " ++ b.table ++ " (" ++ Text.commaSeparated names
      ++ ") VALUES (" ++ Text.commaSeparated (names.map fun _ => "?") ++ ")"
    params
    keys := (b.columns.filter (·.generated)).map (·.name) }

/-- The statement that updates an entity by its identity. -/
def updateStatement (b : EntityBinding) (e : Entity) :
    Except Error ChangeStatement := do
  let names := (b.columns.filter fun c => !c.identity).map (·.name)
  if names.isEmpty then .error (.mapping (.nothingToUpdate b.table))
  else
    let written ← b.readAll ((b.bound e).filter fun (c, _) => !c.identity)
    let key ← b.identityValues e
    return {
      sql := "UPDATE " ++ b.table ++ " SET "
        ++ Text.commaSeparated (names.map placed)
        ++ " WHERE " ++ b.identityPredicate
      params := written ++ key }

/-- The statement that deletes an entity by its identity. -/
def deleteStatement (b : EntityBinding) (e : Entity) :
    Except Error ChangeStatement := do
  let key ← b.identityValues e
  return {
    sql := "DELETE FROM " ++ b.table ++ " WHERE " ++ b.identityPredicate
    params := key }

end EntityBinding

end DataAccess
