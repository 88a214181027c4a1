/-
Records, shapes and reflectors as JSON. Records are arrays of what they are
made of, nested as they are; a shape shows its leaves by name.
-/
import DataAccess.Exchange.Value
import DataAccess.Record.Mapper

namespace DataAccess

/-- A record as the array of its components. -/
def RecordValue.toJson : RecordValue → Json
  | .scalar d => d.toJson
  | .record components => .array (componentsToJson components)
where
  /-- The components of a record. -/
  componentsToJson : List RecordValue → List Json
    | [] => []
    | r :: rs => r.toJson :: componentsToJson rs

/-- The shape of a record: the name of a leaf, or the name and the
components of a record. -/
def Shape.toJson : Shape → Json
  | .leaf type => .string type.name
  | .record name components =>
    .object
      [("name", .string name), ("of", .array (componentsToJson components))]
where
  /-- The shapes of the components. -/
  componentsToJson : List Shape → List Json
    | [] => []
    | s :: ss => s.toJson :: componentsToJson ss

/-- A reflector: its names, its bound columns, and its two texts. -/
def Reflector.toJson (r : Reflector) : Json :=
  .object
    [("base", .string r.base.name), ("columns", .ofTexts r.columns),
     ("display", .string r.render), ("names", .ofTexts r.names),
     ("select", .string r.selectList)]

end DataAccess
