/-
Components of records, and how they are read. A component declares its
shape and reads itself from the values of a row: a scalar takes one value,
a record reads its components one after the other.

`RecordType` are the record types made of scalars and records only. Their
components keep the contract between shape and reading: one value is read
for each leaf. A component put together by hand may break it, and the
mapper that uses it finds out.
-/
import DataAccess.Record.Shape
import DataAccess.Value.Scalar

namespace DataAccess

-- =============================================================== reading

/-- A position in the values of a row. -/
structure ValueReader where
  values : List Value
  position : Nat
  deriving DecidableEq

/-- A step that reads from the values of a row. A failed step may have read
some of them. -/
abbrev Reading (α : Type) := EStateM Error ValueReader α

namespace ValueReader

/-- The start of a row. -/
def ofValues (values : List Value) : ValueReader :=
  { values, position := 0 }

/-- How many values are left. -/
def remaining (r : ValueReader) : Nat :=
  r.values.length - r.position

/-- The next value. -/
def next : Reading Value := fun r =>
  match r.values[r.position]? with
  | some v => .ok v { r with position := r.position + 1 }
  | none => .error (.decode (.exhausted r.values.length) []) r

/-- The next value, decoded. A value that cannot be decoded is passed all
the same. -/
def read (type : FieldType) : Reading Datum := do
  let position := (← get).position
  let v ← next
  match type.decode v with
  | .ok d => return d
  | .error e =>
    throw (.column ("#" ++ toString position) (.conversion e.message))

end ValueReader

-- ============================================================ components

/-- A record as it is read: its scalars, nested as its components are. -/
inductive RecordValue where
  | scalar (datum : Datum)
  | record (components : List RecordValue)

/-- Anything that can stand in a record: a shape, and a way to read it. -/
structure Component (α : Type) where
  shape : Shape
  read : Reading α

namespace Component

/-- A scalar component, which may be absent when it is nullable. -/
def scalar (type : ScalarType) (nullable : Bool) : Component RecordValue :=
  { shape := .leaf { valueType := type.valueType, nullable }
    read := do
      let datum ← ValueReader.read
        (if nullable then .optional type else .required type)
      return .scalar datum }

/-- Reads components one after the other. -/
def readAll : List (Component RecordValue) → Reading (List RecordValue)
  | [] => pure []
  | c :: cs => do
    let value ← c.read
    let values ← readAll cs
    return value :: values

/-- A record of components. -/
def record (name : String) (components : List (Component RecordValue)) :
    Component RecordValue :=
  { shape := .record name (components.map (·.shape))
    read := do
      let values ← readAll components
      return .record values }

end Component

-- ========================================================== record types

/-- A record type: scalars, nested in records to any depth. -/
inductive RecordType where
  | scalar (type : ScalarType) (nullable : Bool)
  | record (name : String) (components : List RecordType)

/-- The component of a record type. -/
def RecordType.component : RecordType → Component RecordValue
  | .scalar type nullable => .scalar type nullable
  | .record name components => .record name (componentsOf components)
where
  /-- The components of several record types. -/
  componentsOf : List RecordType → List (Component RecordValue)
    | [] => []
    | t :: ts => t.component :: componentsOf ts

/-- The shape of a record type. -/
def RecordType.shape (t : RecordType) : Shape :=
  t.component.shape

end DataAccess
