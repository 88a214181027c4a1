/-
Scalar types: what a program makes of a stored value. A scalar type says
which stored values it accepts and what they mean; `decode` gives the datum
that a program then has. Nearly every datum is its own stored form: a day is
stored as its midnight, a symbol as its name.

Structured data is stored as JSON, and how it becomes JSON is up to its type.
A `JsonType` brings its own code for this, of which nothing is known here: a
payload may have no JSON form (a map with other keys than strings), two
payloads may have the same one (a float that is no number, and what is
absent), and what was written need not be read back.
-/
import DataAccess.Error.Basic
import DataAccess.Json.Parser

namespace DataAccess

-- ======================================================= structured data

/-- What a program has for structured data, put down as a tree. What the tree
stands for is up to the type: a float may be no number in it, and a map may
stand as the list of its entries. -/
abbrev Payload := Json

/-- A type of structured data, with the code that it brings for writing its
payloads as JSON and reading them from it. -/
structure JsonType where
  /-- The JSON form of a payload. -/
  encode : Payload → Except SerializationFault Json
  /-- The payload that a JSON value stands for. -/
  decode : Json → Except SerializationFault Payload
  /-- The payload that a JSON text stands for. -/
  read : String → Except SerializationFault Payload
  /-- The payload before it is set. -/
  initial : Payload

/-- Reads a JSON text as what a document is taken for. The first fault of the
text counts: a bad key is reported where it stands if what is before it has
none. -/
def Json.readAs (ofDocument? : Json.Document → Option Payload)
    (text : String) : Except SerializationFault Payload :=
  match Json.Document.read text with
  | .done document _ =>
    match ofDocument? document with
    | some payload => .ok payload
    | none => .error .malformed
  | .badKey before rest =>
    match ofDocument? before with
    | some _ =>
      let read := text.toList.take (text.length - rest.length)
      .error (.keyNotStringAt (Text.Place.behind read))
    | none => .error .malformed
  | .broken => .error .malformed

/-- Any JSON value, which is its own form. -/
def JsonType.any : JsonType where
  encode j := .ok j
  decode j := .ok j
  read := Json.readAs (·.toJson? Json.maxDepth)
  initial := .null

-- ================================================================== data

/-- What a program stores or binds. -/
inductive Datum where
  | stored (value : Value)
  /-- A payload, and the JSON that its type makes of it. -/
  | structured (payload : Payload) (form : Json)
  /-- A payload of which its type makes no JSON. -/
  | formless (payload : Payload) (fault : SerializationFault)
  deriving DecidableEq

/-- A payload of a type. -/
def JsonType.datum (type : JsonType) (payload : Payload) : Datum :=
  match type.encode payload with
  | .ok form => .structured payload form
  | .error fault => .formless payload fault

/-- The stored form of a datum. -/
def Datum.encode : Datum → Except Error Value
  | .stored v => .ok v
  | .structured _ form => .ok (.json form)
  | .formless _ fault => .error (.serialization fault)

/-- A datum has a value as its stored form. -/
def Datum.StoredAs (d : Datum) (v : Value) : Prop :=
  d.encode = .ok v

-- =============================================================== symbols

/-- A type of named constants, stored under their names. -/
structure SymbolType where
  /-- The name of the type in messages. -/
  typeName : String
  /-- The names of its constants. -/
  symbols : List String
  /-- The constant before one is set. -/
  initial : String
  deriving DecidableEq, Repr

/-- The constant of a name, given as its name. -/
def SymbolType.find? (t : SymbolType) (name : String) : Option String :=
  t.symbols.find? (· == name)

-- ========================================================== scalar types

/-- The scalar types. -/
inductive ScalarType where
  | bool
  | int32
  | int64
  | float64
  | text
  | bytes
  | timestamp
  /-- A day, stored as its midnight. -/
  | date
  | json (type : JsonType)
  | symbol (type : SymbolType)

/-- The storage type of a scalar type. -/
def ScalarType.valueType : ScalarType → ValueType
  | .bool => .bool
  | .int32 => .int32
  | .int64 => .int64
  | .float64 => .float64
  | .text => .text
  | .bytes => .bytes
  | .timestamp => .timestamp
  | .date => .timestamp
  | .json _ => .json
  | .symbol _ => .text

/-- A value of a type that is not accepted. -/
def mismatch (expected : ValueType) (actual : Value) : Error :=
  .typeMismatch expected.name actual.typeName

/-- A payload as it was read, if it was. -/
def JsonType.taken (type : JsonType) :
    Except SerializationFault Payload → Except Error Datum
  | .ok payload => .ok (type.datum payload)
  | .error fault => .error (.serialization fault)

/-- Decodes a symbol from a text that holds its name. -/
def SymbolType.decode (t : SymbolType) : Value → Except Error Datum
  | .text name =>
    match t.find? name with
    | some symbol => .ok (.stored (.text symbol))
    | none => .error (.typeMismatch t.typeName (Value.inQuotes name))
  | v => .error (mismatch .text v)

/-- Decodes a stored value. Integers convert between their two widths as
long as they fit, text is read as JSON where structured data is wanted, and
nothing else converts. -/
def ScalarType.decode : ScalarType → Value → Except Error Datum
  | .bool, .bool b => .ok (.stored (.bool b))
  | .int32, .int32 n => .ok (.stored (.int32 n))
  | .int32, .int64 n =>
    if Int32.minValue.toInt ≤ n.toInt ∧ n.toInt ≤ Int32.maxValue.toInt then
      .ok (.stored (.int32 n.toInt32))
    else .error (mismatch .int32 (.int64 n))
  | .int64, .int64 n => .ok (.stored (.int64 n))
  | .int64, .int32 n => .ok (.stored (.int64 n.toInt64))
  | .float64, .float64 x => .ok (.stored (.float64 x))
  | .text, .text s => .ok (.stored (.text s))
  | .bytes, .bytes b => .ok (.stored (.bytes b))
  | .timestamp, .timestamp t => .ok (.stored (.timestamp t))
  | .date, .timestamp t => .ok (.stored (.timestamp t.midnight))
  | .json type, .json j => type.taken (type.decode j)
  | .json type, .text s => type.taken (type.read s)
  | .symbol type, v => type.decode v
  | t, v => .error (mismatch t.valueType v)

/-- The type of a field of a record or an entity: any stored value as it
is, or a scalar, which may be absent when it is optional. -/
inductive FieldType where
  | any
  | required (type : ScalarType)
  | optional (type : ScalarType)

/-- Decodes a stored value; null is the absent value of an optional type. -/
def FieldType.decode : FieldType → Value → Except Error Datum
  | .any, v => .ok (.stored v)
  | .required t, v => t.decode v
  | .optional _, .null => .ok (.stored .null)
  | .optional t, v => t.decode v

-- =============================================================== defaults

/-- The first day that timestamps count from. -/
def epoch : Timestamp :=
  { year := 1970, month := 1, day := 1
    hour := 0, minute := 0, second := 0, nanosecond := 0 }

/-- The datum of a scalar before it is set. -/
def ScalarType.initial : ScalarType → Datum
  | .bool => .stored (.bool false)
  | .int32 => .stored (.int32 0)
  | .int64 => .stored (.int64 0)
  | .float64 => .stored (.float64 Binary64.zero)
  | .text => .stored (.text "")
  | .bytes => .stored (.bytes [])
  | .timestamp => .stored (.timestamp epoch)
  | .date => .stored (.timestamp epoch)
  | .json type => type.datum type.initial
  | .symbol type => .stored (.text type.initial)

/-- The datum of a field before it is set. -/
def FieldType.initial : FieldType → Datum
  | .any => .stored .null
  | .required t => t.initial
  | .optional _ => .stored .null

end DataAccess
