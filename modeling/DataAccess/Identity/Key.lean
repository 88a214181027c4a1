/-
Identities. The identity of a row is the list of its identity values, each
made comparable: both integer widths count as one, binary64 numbers compare
by their bits, and structured values by their text. A list with a null in
it identifies nothing.
-/
import DataAccess.Value.Basic

namespace DataAccess

/-- One component of an identity. -/
inductive KeyPart where
  | bool (value : Bool)
  | int (value : Int)
  | float (value : Binary64)
  | text (value : String)
  | bytes (value : List UInt8)
  | timestamp (value : Timestamp)
  | json (text : String)
  deriving DecidableEq

namespace KeyPart

/-- The component that a value makes; null makes none. -/
def ofValue? : Value → Option KeyPart
  | .null => none
  | .bool b => some (.bool b)
  | .int32 n => some (.int n.toInt)
  | .int64 n => some (.int n.toInt)
  | .float64 x => some (.float x)
  | .text s => some (.text s)
  | .bytes b => some (.bytes b)
  | .timestamp t => some (.timestamp t)
  | .json j => some (.json j.render)

/-- The name of the sort of component. -/
def sortName : KeyPart → String
  | .bool _ => "Bool"
  | .int _ => "Int"
  | .float _ => "Float"
  | .text _ => "Text"
  | .bytes _ => "Bytes"
  | .timestamp _ => "Timestamp"
  | .json _ => "Json"

/-- A component as it is shown; texts stand in quotes as they are. -/
def render : KeyPart → String
  | .bool b => if b then "true" else "false"
  | .int n => toString n
  | .float x => Value.floatLayout.render x
  | .text s => Value.inQuotes s
  | .bytes b => Value.bytesText b
  | .timestamp t => Value.inQuotes t.render
  | .json s => s

end KeyPart

/-- The identity of a row, perhaps of several components. -/
structure IdentityKey where
  parts : List KeyPart
  deriving DecidableEq

namespace IdentityKey

/-- The components of a list of values, none if one of them is null. -/
def partsOf? : List Value → Option (List KeyPart)
  | [] => some []
  | v :: vs => do
    let part ← KeyPart.ofValue? v
    let parts ← partsOf? vs
    return part :: parts

/-- The identity that a list of values makes. -/
def ofValues? (values : List Value) : Option IdentityKey :=
  (partsOf? values).map IdentityKey.mk

/-- An identity as it is shown: its components in parentheses. -/
def render (k : IdentityKey) : String :=
  "(" ++ Text.commaSeparated (k.parts.map KeyPart.render) ++ ")"

end IdentityKey

end DataAccess
