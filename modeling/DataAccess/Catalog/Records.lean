/-
The record types of the sample catalogue: tuples of several widths, nested
ones, and named records. At the end stand two components that do not keep
the contract of a component, to see a mapper find out.
-/
import DataAccess.Catalog.Payloads
import DataAccess.Catalog.Symbols
import DataAccess.Record.Component

namespace DataAccess.Catalog

/-- A column that is never null. -/
def required (type : ScalarType) : RecordType := .scalar type false

/-- A column that may be null. -/
def optional (type : ScalarType) : RecordType := .scalar type true

/-- A record without a name of its own. -/
def tuple (components : List RecordType) : RecordType :=
  .record "tuple" components

/-- A point in the plane. -/
def point : RecordType :=
  .record "Point" [required .float64, required .float64]

/-- Two points. -/
def segment : RecordType :=
  .record "Segment" [point, point]

/-- A segment with a unit and perhaps a note. -/
def measured (path : String) : RecordType :=
  .record "Measured"
    [segment, required (.symbol (lengthUnit path)), optional .text]

/-- A column of every scalar type, all of them optional. -/
def wide (path : String) : RecordType :=
  .record "Wide"
    [optional .bool, optional .int32, optional .int64, optional .float64,
     optional .text, optional .bytes, optional .timestamp, optional .date,
     optional .timestamp, optional (.json .any), optional tags,
     optional (.symbol (lengthUnit path))]

/-- The record types by name. -/
def records (path : String) : List (String × RecordType) :=
  [("T1", tuple [required .int64]),
   ("T2", tuple [required .int32, optional .text]),
   ("T3", tuple [required .int64, required .text, required .int64]),
   ("T4", tuple [required .int32, required .float64, required .float64,
      required .float64]),
   ("T5", tuple [required .int32, required .float64, required .float64,
      required .float64, required .float64]),
   ("T6", tuple [required .bool, required .int32, required .int64,
      required .float64, required .text, required .bytes]),
   ("T7", tuple [required .timestamp, required .date, required .timestamp,
      required tags, required (.json .any), optional (.symbol (tier path)),
      required (.symbol (tier path))]),
   ("T8", tuple (List.replicate 8 (required .int32))),
   ("Nested", tuple [required .int32,
      tuple [required .float64, required .float64, required .float64],
      optional .text]),
   ("Point", point),
   ("Segment", segment),
   ("Measured", measured path),
   ("Wide", wide path)]

/-- A component that declares a leaf and reads nothing. -/
def idleComponent (type : ScalarType) (nullable : Bool) :
    Component RecordValue :=
  { Component.scalar type nullable with read := pure (.scalar (.stored .null)) }

/-- A component that declares one leaf and reads two values. -/
def greedyComponent (type : ScalarType) (nullable : Bool) :
    Component RecordValue :=
  let one := Component.scalar type nullable
  { one with
    read := do
      let first ← one.read
      let second ← one.read
      return .record [first, second] }

end DataAccess.Catalog
