/-
Stored values: what a column holds and what a parameter carries, as it is
exchanged with the database. `ValueType` is the storage type of a value
that is not null, `LeafType` the type of a column that may or may not admit
null.
-/
import DataAccess.Json.Printer
import DataAccess.Text.Ascii
import DataAccess.Timestamp

namespace DataAccess

-- ========================================================= storage types

/-- The storage type of a value that is not null. -/
inductive ValueType where
  | bool
  | int32
  | int64
  | float64
  | text
  | bytes
  | timestamp
  | json
  deriving DecidableEq, Repr

/-- The name of a storage type in messages. -/
def ValueType.name : ValueType → String
  | .bool => "Bool"
  | .int32 => "Int32"
  | .int64 => "Int64"
  | .float64 => "Float64"
  | .text => "Text"
  | .bytes => "Bytes"
  | .timestamp => "Timestamp"
  | .json => "Json"

/-- The type of one column position: a storage type, and whether null is
admitted. -/
structure LeafType where
  valueType : ValueType
  nullable : Bool
  deriving DecidableEq, Repr

/-- A nullable type is marked by a question mark. -/
def LeafType.name (t : LeafType) : String :=
  if t.nullable then t.valueType.name ++ "?" else t.valueType.name

-- ================================================================ values

/-- One value of a column or a parameter. -/
inductive Value where
  | null
  | bool (value : Bool)
  | int32 (value : Int32)
  | int64 (value : Int64)
  | float64 (value : Binary64)
  | text (value : String)
  | bytes (value : List UInt8)
  | timestamp (value : Timestamp)
  | json (value : Json)
  deriving DecidableEq

namespace Value

instance : Inhabited Value := ⟨.null⟩

/-- The storage type; null has none. -/
def type? : Value → Option ValueType
  | .null => none
  | .bool _ => some .bool
  | .int32 _ => some .int32
  | .int64 _ => some .int64
  | .float64 _ => some .float64
  | .text _ => some .text
  | .bytes _ => some .bytes
  | .timestamp _ => some .timestamp
  | .json _ => some .json

/-- Whether a value is null. -/
def isNull : Value → Bool
  | .null => true
  | _ => false

@[simp] theorem isNull_iff {v : Value} : v.isNull = true ↔ v = .null := by
  cases v <;> simp [isNull]

/-- The storage type by name, null by its own. -/
def typeName (v : Value) : String :=
  match v.type? with
  | some t => t.name
  | none => "Null"

/-- Numbers in running text: the upper one of two equally short decimals,
never an exponent, and no fraction on whole numbers. -/
def floatLayout : FloatLayout :=
  { tie := .up, positional := none, pointZero := false }

/-- Doubles every single quote. -/
def doubleQuotes (cs : List Char) : List Char :=
  cs.flatMap fun c => if c = '\'' then [c, c] else [c]

/-- A text between single quotes, as it is. -/
def inQuotes (s : String) : String :=
  "'" ++ s ++ "'"

/-- How many bytes there are, instead of the bytes. -/
def bytesText (bytes : List UInt8) : String :=
  "<" ++ toString bytes.length ++ " bytes>"

/-- A value as it is shown in logs and error contexts. -/
def render : Value → String
  | .null => "NULL"
  | .bool b => if b then "true" else "false"
  | .int32 n => toString n.toInt
  | .int64 n => toString n.toInt
  | .float64 x => floatLayout.render x
  | .text s => inQuotes (String.ofList (doubleQuotes s.toList))
  | .bytes b => bytesText b
  | .timestamp t => inQuotes t.render
  | .json j => j.render

end Value

/-- Whether a value may stand in a column position of this type. -/
def LeafType.admits (t : LeafType) (v : Value) : Bool :=
  match v.type? with
  | none => t.nullable
  | some actual => actual == t.valueType

end DataAccess
