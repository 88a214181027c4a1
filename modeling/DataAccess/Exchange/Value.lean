/-
Values as they are exchanged with other programs: as JSON values, tagged by
their storage type so that nothing is lost. An integer of sixty-four bits is
a string of digits, a binary64 number its bits in hexadecimal, bytes are
hexadecimal text, and a point in time is the list of its parts.

    {"i": 5}   {"l": "5"}   {"d": "3ff8000000000000"}   {"s": "x"}
    {"x": "00ff"}   {"t": [2024, 5, 6, 7, 8, 9, 10]}   {"j": {}}

Columns are pairs of table and name; rows and results have a list of them
beside their values.
-/
import DataAccess.Bulk.Basic
import DataAccess.Json.Access
import DataAccess.Row

namespace DataAccess

-- ================================================================= parts

/-- A point in time as the list of its parts. -/
def Timestamp.toJson (t : Timestamp) : Json :=
  .array
    [.int t.year, .ofNat t.month, .ofNat t.day, .ofNat t.hour,
     .ofNat t.minute, .ofNat t.second, .ofNat t.nanosecond]

/-- Reads the parts of a point in time. -/
def Timestamp.ofJson? : Json → Option Timestamp
  | .array [.int year, mo, d, h, mi, s, ns] => do
    return {
      year, month := ← mo.nat?, day := ← d.nat?, hour := ← h.nat?
      minute := ← mi.nat?, second := ← s.nat?, nanosecond := ← ns.nat? }
  | _ => none

/-- The bytes of a binary64 number, most significant first. -/
def Binary64.bytes (x : Binary64) : List UInt8 :=
  (List.range 8).map fun i => (x.bits >>> (56 - 8 * i).toUInt64).toUInt8

-- ================================================================ values

namespace Value

/-- A value, tagged by its storage type. -/
def toJson : Value → Json
  | .null => .null
  | .bool b => .object [("b", .bool b)]
  | .int32 n => .object [("i", .int n.toInt)]
  | .int64 n => .object [("l", .digits n.toInt)]
  | .float64 x => .object [("d", .string (Text.hex x.bytes))]
  | .text s => .object [("s", .string s)]
  | .bytes b => .object [("x", .string (Text.hex b))]
  | .timestamp t => .object [("t", t.toJson)]
  | .json j => .object [("j", j)]

/-- Reads a tagged value. -/
def ofJson? : Json → Option Value
  | .null => some .null
  | .object [("b", .bool b)] => some (.bool b)
  | .object [("i", n)] => n.int?.map fun n => .int32 (Int32.ofInt n)
  | .object [("l", n)] => n.int?.map fun n => .int64 (Int64.ofInt n)
  | .object [("d", .string s)] =>
    (Text.hexNumber? s).map fun n => .float64 ⟨UInt64.ofNat n⟩
  | .object [("s", .string s)] => some (.text s)
  | .object [("x", .string s)] => (Text.unhex? s).map .bytes
  | .object [("t", t)] => (Timestamp.ofJson? t).map .timestamp
  | .object [("j", j)] => some (.json j)
  | _ => none

/-- Values as an array. -/
def listToJson (vs : List Value) : Json :=
  .array (vs.map toJson)

/-- Reads an array of values. -/
def listOfJson? (j : Json) : Option (List Value) :=
  j.items.mapM ofJson?

end Value

/-- A datum by its stored form, or by why it has none. -/
def Datum.toJson (d : Datum) : Json :=
  match d.encode with
  | .ok v => v.toJson
  | .error e => .string e.message

/-- An exported field, tagged like a value. -/
def BulkValue.toJson : BulkValue → Json
  | .null => .null
  | .int64 n => (Value.int64 n).toJson
  | .int32 n => (Value.int32 n).toJson
  | .bytes b => (Value.bytes b).toJson

-- ================================================================== rows

/-- A column as the pair of its table and its name. -/
def ColumnMeta.toJson (c : ColumnMeta) : Json :=
  .array [.orNull .string c.table, .string c.name]

/-- Reads a pair of table and name. -/
def ColumnMeta.ofJson? : Json → Option ColumnMeta
  | .array [table, .string name] => some { table := table.text?, name }
  | _ => none

/-- Reads the `columns` of an object. -/
def ColumnMeta.listAt? (j : Json) : Option (List ColumnMeta) :=
  (j.itemsAt "columns").mapM ofJson?

/-- Columns as an array. -/
def ColumnMeta.listToJson (columns : List ColumnMeta) : Json :=
  .array (columns.map toJson)

/-- Reads the `columns` and `values` of an object, which make a row if there
are as many of these as of those. -/
def Row.ofJson? (j : Json) : Option (Except Error Row) := do
  let columns ← ColumnMeta.listAt? j
  let values ← Value.listOfJson? (j.field "values")
  return Row.ofValues values (ColumnResolver.ofColumns columns)

/-- Reads the `columns` and `rows` of an object. -/
def ResultSet.ofJson? (j : Json) : Option ResultSet := do
  return {
    columns := ← ColumnMeta.listAt? j
    rows := ← (j.itemsAt "rows").mapM Value.listOfJson? }

/-- The columns and rows of a result. -/
def ResultSet.toJson (r : ResultSet) : Json :=
  .object
    [("columns", ColumnMeta.listToJson r.columns),
     ("rows", .array (r.rows.map Value.listToJson))]

end DataAccess
