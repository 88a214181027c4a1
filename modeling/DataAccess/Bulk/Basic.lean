/-
The columns and fields of a bulk export. Only three column types can be
exported: integers of sixty-four and thirty-two bits, and opaque bytes.
-/

namespace DataAccess

/-- The type of an exported column. -/
inductive BulkType where
  | int64
  | int32
  | bytes
  deriving DecidableEq, Repr

/-- The name of an exported type in messages. -/
def BulkType.name : BulkType → String
  | .int64 => "Int64"
  | .int32 => "Int32"
  | .bytes => "Bytes"

/-- The length every payload of the type has; bytes may have any. -/
def BulkType.width? : BulkType → Option Nat
  | .int64 => some 8
  | .int32 => some 4
  | .bytes => none

/-- One exported field. -/
inductive BulkValue where
  | null
  | int64 (value : Int64)
  | int32 (value : Int32)
  | bytes (value : List UInt8)
  deriving DecidableEq

/-- A row of exported fields. -/
abbrev BulkRow := List BulkValue

namespace BulkValue

/-- The integer of a field; the narrower type widens. -/
def asInt64? : BulkValue → Option Int64
  | .int64 n => some n
  | .int32 n => some n.toInt64
  | _ => none

/-- The integer of a thirty-two bit field. -/
def asInt32? : BulkValue → Option Int32
  | .int32 n => some n
  | _ => none

/-- The bytes of a field. -/
def asBytes? : BulkValue → Option (List UInt8)
  | .bytes b => some b
  | _ => none

/-- Whether the field is null. -/
def isNull : BulkValue → Bool
  | .null => true
  | _ => false

end BulkValue

end DataAccess
