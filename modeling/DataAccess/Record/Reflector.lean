/-
Reflectors: column names bound to the leaves of a shape, one name for each
leaf. A leaf can be switched off; it is a hole then, is not selected, and
takes no place when a mapper is compiled. Which names there are never
changes, only which are bound, so every derived reflector knows all the
names of the first one.
-/
import DataAccess.Record.Shape
import DataAccess.Error.Basic

namespace DataAccess

/-- One leaf of the base shape: its column, its type, and whether it is
bound. -/
structure ReflectorSlot where
  column : String
  leaf : LeafType
  bound : Bool
  deriving DecidableEq

/-- The names of the columns of a shape. -/
structure Reflector where
  base : Shape
  slots : List ReflectorSlot
  deriving DecidableEq

namespace Reflector

/-- A failure to line names up. -/
def fail {α : Type} (fault : ReflectFault) : Except Error α :=
  .error (.mapping (.reflect fault))

/-- The position of the first name that repeats an earlier one. -/
def repeated? : List String → Nat → List String → Option (String × Nat)
  | _, _, [] => none
  | seen, position, name :: names =>
    if seen.contains (Text.fold name) then some (name, position)
    else repeated? (Text.fold name :: seen) (position + 1) names

/-- Binds names to the leaves of a shape. Empty names are passed over; there
must be one name for each leaf, and no two alike. -/
def ofNames (base : Shape) (names : List String) : Except Error Reflector :=
  let leaves := base.leaves
  let names := names.filter fun name => !name.isEmpty
  let n := names.length
  match leaves[n]?, names[leaves.length]? with
  | some leaf, _ =>
    fail (.componentUnnamed base.name n leaf n leaves.length)
  | none, some name =>
    fail (.nameSpare base.name name leaves.length n leaves.length)
  | none, none =>
    match repeated? [] 0 names with
    | some (name, position) => fail (.boundTwice base.name name position)
    | none =>
      .ok { base
            slots := (names.zip leaves).map fun (column, leaf) =>
              { column, leaf, bound := true } }

/-- All names in order, the empty name for a hole. -/
def names (r : Reflector) : List String :=
  r.slots.map fun s => if s.bound then s.column else ""

/-- The names of the bound columns in order. -/
def columns (r : Reflector) : List String :=
  (r.slots.filter (·.bound)).map (·.column)

/-- All names, holes or not. -/
def template (r : Reflector) : List String :=
  r.slots.map (·.column)

/-- The bound columns as a select list. -/
def selectList (r : Reflector) : String :=
  Text.commaSeparated r.columns

/-- The base and the names, as a reflector is shown. -/
def render (r : Reflector) : String :=
  r.base.name ++ "[" ++ Text.commaSeparated r.names ++ "]"

/-- The position of a column, hole or not. -/
def positionOf (r : Reflector) (name : String) : Except Error Nat :=
  match r.template.findIdx? (Text.sameName name) with
  | some position => .ok position
  | none => fail (.noSuchColumn r.base.name name r.template)

/-- The positions of several columns. -/
def positionsOf (r : Reflector) : List String → Except Error (List Nat)
  | [] => .ok []
  | name :: names => do
    let position ← r.positionOf name
    let positions ← r.positionsOf names
    return position :: positions

/-- The reflector with its slots bound as a rule says, which is given the
position of a slot and whether it is bound so far. -/
def rebind (r : Reflector) (rule : Nat → Bool → Bool) : Reflector :=
  { r with
    slots := r.slots.mapIdx fun i s => { s with bound := rule i s.bound } }

/-- The reflector with some columns made holes. -/
def excluding (r : Reflector) (names : List String) :
    Except Error Reflector := do
  let positions ← r.positionsOf names
  return r.rebind fun i bound => bound && !positions.contains i

/-- The reflector with just some columns bound. -/
def only (r : Reflector) (names : List String) : Except Error Reflector := do
  let positions ← r.positionsOf names
  return r.rebind fun i _ => positions.contains i

end Reflector

end DataAccess
