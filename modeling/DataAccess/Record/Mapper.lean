/-
Record mappers: rows to records. A reflector compiles a mapper for a target
when its bound leaves are the leaves of the target, type by type and in
order; holes take no place. From then on a row is mapped in one flat pass:
the values of the columns, a check of the nulls, and the reading of the
target.
-/
import DataAccess.Record.Component
import DataAccess.Record.Reflector
import DataAccess.Row
import DataAccess.Text.Quoted

namespace DataAccess

/-- One column of a mapper. -/
structure MapperStep where
  column : String
  leaf : LeafType
  deriving DecidableEq

/-- A compiled mapping of rows to `α`. -/
structure RecordMapper (α : Type) where
  target : Component α
  steps : List MapperStep

namespace Reflector

/-- Lines the bound slots up with the leaves that the target still wants.
`position` counts all slots and `bound` the bound ones; `total` is the
number of leaves of the target. -/
def align (target : String) (total : Nat) : Nat → Nat → List ReflectorSlot →
    List LeafType → Except ReflectFault (List MapperStep)
  | _, _, [], [] => .ok []
  | _, bound, [], want :: _ =>
    .error (.positionUnbound target bound want bound total)
  | position, bound, slot :: slots, wanted =>
    if slot.bound then
      match wanted with
      | [] => .error (.stillBound target total slot.column position)
      | want :: wanted =>
        if want = slot.leaf then
          (align target total (position + 1) (bound + 1) slots wanted).map
            (⟨slot.column, slot.leaf⟩ :: ·)
        else
          .error
            (.leafMismatch slot.column position slot.leaf target bound want)
    else align target total (position + 1) bound slots wanted

/-- Compiles a mapper for a target. -/
def mapper {α : Type} (r : Reflector) (target : Component α) :
    Except Error (RecordMapper α) :=
  let wanted := target.shape.leaves
  match align target.shape.name wanted.length 0 0 r.slots wanted with
  | .ok steps => .ok { target, steps }
  | .error fault => fail fault

end Reflector

namespace RecordMapper

variable {α : Type}

/-- The number of values a row has for this mapper. -/
def width (m : RecordMapper α) : Nat :=
  m.steps.length

/-- The columns in the order of the values. -/
def columns (m : RecordMapper α) : List String :=
  m.steps.map (·.column)

/-- The name of the target. -/
def targetName (m : RecordMapper α) : String :=
  m.target.shape.name

/-- The target and the columns, as a mapper is shown. -/
def render (m : RecordMapper α) : String :=
  "RecordMapper \x7b target: " ++ Text.quoted m.targetName ++ ", columns: "
    ++ Text.quotedList m.columns ++ " \x7d"

/-- A record that could not be made, with the values it was to be made
of. -/
def failure (fault : RecordFault) (values : List Value) : Error :=
  .decode (.record fault (values.map Value.render)) []

/-- The first step whose column may not be null although its value is. -/
def nullStep? : List MapperStep → List Value → Option MapperStep
  | step :: steps, v :: values =>
    if v.isNull && !step.leaf.nullable then some step
    else nullStep? steps values
  | _, _ => none

/-- Maps values given in the order of the columns. -/
def mapValues (m : RecordMapper α) (values : List Value) : Except Error α :=
  if values.length ≠ m.width then
    .error (failure (.width values.length m.targetName m.width) values)
  else
    match nullStep? m.steps values with
    | some step =>
      .error
        (failure (.nullComponent step.column m.targetName step.leaf) values)
    | none =>
      match m.target.read (ValueReader.ofValues values) with
      | .error e _ =>
        .error (failure (.constructing m.targetName e.message) values)
      | .ok record reader =>
        if reader.remaining = 0 then .ok record
        else
          .error (failure (.unread m.targetName reader.remaining) values)

/-- The values of the columns of a row, by name. -/
def valuesOf (row : Row) : List String → Except Error (List Value)
  | [] => .ok []
  | column :: columns => do
    let v ← row.value column
    let vs ← valuesOf row columns
    return v :: vs

/-- Maps a row. Its columns may be in any order, and there may be more of
them. -/
def map (m : RecordMapper α) (row : Row) : Except Error α :=
  match valuesOf row m.columns with
  | .ok values => m.mapValues values
  | .error e =>
    .error (failure (.reading m.targetName e.message) row.values)

end RecordMapper

end DataAccess
