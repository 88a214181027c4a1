/-
Rows and column names. A result has a list of columns; a row is a list of
as many values. Columns are found by name in two ways: `table/column`
finds the first column of that table with that name, and `column` alone
finds a column only if no other column has that name. Looking up a name
that several columns share is an error, having such columns is not.

The names of a result are put into an index once (`ColumnResolver.ofColumns`)
and every row of the result shares it.
-/
import DataAccess.Error.Basic
import DataAccess.Value.Scalar

namespace DataAccess

/-- A column of a result: its name, and its table when it is known. -/
structure ColumnMeta where
  table : Option String
  name : String
  deriving DecidableEq, Repr

/-- The result of a query, all rows at hand. -/
structure ResultSet where
  columns : List ColumnMeta
  rows : List (List Value)
  deriving DecidableEq

/-- Where a column is said to come from. -/
def ColumnMeta.source (c : ColumnMeta) : String :=
  c.table.getD "<expression>"

-- ============================================================== resolver

/-- What a bare name stands for: one column, or several, given by their
sources in column order. -/
inductive NameSlot where
  | unique (index : Nat)
  | ambiguous (sources : List String)
  deriving DecidableEq, Repr

/-- What a bare name stands for once one more column has it. -/
def NameSlot.add (columns : List ColumnMeta) (source : String) :
    NameSlot → NameSlot
  | .unique index =>
    .ambiguous [(columns[index]?.map ColumnMeta.source).getD source, source]
  | .ambiguous sources => .ambiguous (sources ++ [source])

/-- The index of the names of a result. -/
structure ColumnResolver where
  columns : List ColumnMeta
  /-- Folded bare names. -/
  bare : List (String × NameSlot)
  /-- Folded `table/column` names. -/
  qualified : List (String × Nat)
  deriving DecidableEq

/-- What a look-up comes to. -/
inductive Lookup where
  | found (index : Nat)
  | missing
  | ambiguous (sources : List String)
  deriving DecidableEq, Repr

namespace ColumnResolver

/-- The name of a column of a table. -/
def qualifiedName (table name : String) : String :=
  table ++ "/" ++ name

/-- Enters a bare name. -/
def addBare (columns : List ColumnMeta) (index : Nat) (name source : String) :
    List (String × NameSlot) → List (String × NameSlot)
  | [] => [(name, .unique index)]
  | (n, slot) :: rest =>
    if n = name then (n, NameSlot.add columns source slot) :: rest
    else (n, slot) :: addBare columns index name source rest

/-- Enters a qualified name, unless it is there already. -/
def addQualified (index : Nat) (name : String)
    (names : List (String × Nat)) : List (String × Nat) :=
  if (names.lookup name).isSome then names else names ++ [(name, index)]

/-- Enters the column at an index under its names. -/
def addColumn (r : ColumnResolver) (index : Nat) (column : ColumnMeta) :
    ColumnResolver :=
  let name := Text.fold column.name
  let table := Text.fold (column.table.getD "")
  { r with
    bare := addBare r.columns index name column.source r.bare
    qualified :=
      if table.isEmpty then r.qualified
      else addQualified index (qualifiedName table name) r.qualified }

/-- Enters columns from an index on. -/
def addColumns : Nat → List ColumnMeta → ColumnResolver → ColumnResolver
  | _, [], r => r
  | index, c :: cs, r => addColumns (index + 1) cs (r.addColumn index c)

/-- The index of the names of some columns. -/
def ofColumns (columns : List ColumnMeta) : ColumnResolver :=
  addColumns 0 columns { columns, bare := [], qualified := [] }

/-- The number of columns. -/
def width (r : ColumnResolver) : Nat :=
  r.columns.length

/-- Looks a name up. A name with a slash is a qualified one. -/
def lookup (r : ColumnResolver) (name : String) : Lookup :=
  let key := Text.fold name
  if key.toList.contains '/' then
    match r.qualified.lookup key with
    | some index => .found index
    | none => .missing
  else
    match r.bare.lookup key with
    | some (.unique index) => .found index
    | some (.ambiguous sources) => .ambiguous sources
    | none => .missing

/-- The index of the column of a name. -/
def resolve (r : ColumnResolver) (name : String) : Except Error Nat :=
  match r.lookup name with
  | .found index => .ok index
  | .missing => .error (.column name .missing)
  | .ambiguous sources => .error (.column name (.ambiguous sources))

/-- The index of the column of a name, if there is exactly one. -/
def find? (r : ColumnResolver) (name : String) : Option Nat :=
  match r.lookup name with
  | .found index => some index
  | _ => none

/-- The bare names that several columns share, in order. -/
def ambiguousNames (r : ColumnResolver) : List String :=
  let names := r.bare.filterMap fun (name, slot) =>
    match slot with
    | .ambiguous _ => some name
    | .unique _ => none
  names.mergeSort fun a b => decide (a ≤ b)

end ColumnResolver

-- ================================================================== rows

/-- A row of a result: as many values as the result has columns. -/
structure Row where
  values : List Value
  resolver : ColumnResolver
  width_eq : values.length = resolver.width

namespace Row

/-- A row of these values, if there is one for each column. -/
def ofValues (values : List Value) (resolver : ColumnResolver) :
    Except Error Row :=
  if h : values.length = resolver.width then .ok ⟨values, resolver, h⟩
  else .error (.decode (.rowWidth values.length resolver.width) [])

/-- The value at an index. -/
def at? (r : Row) (index : Nat) : Option Value :=
  r.values[index]?

/-- The value at an index that the resolver gave. -/
def valueAt (r : Row) (index : Nat) : Value :=
  (r.at? index).getD .null

/-- The value of a column. -/
def value (r : Row) (name : String) : Except Error Value :=
  (r.resolver.resolve name).map r.valueAt

/-- The value of a column, if exactly one has the name. -/
def value? (r : Row) (name : String) : Option Value :=
  (r.resolver.find? name).map r.valueAt

/-- The value of a column, decoded. -/
def get (r : Row) (name : String) (type : FieldType) : Except Error Datum := do
  let v ← r.value name
  match type.decode v with
  | .ok d => .ok d
  | .error e => .error (.column name (.conversion e.message))

/-- The value at an index, decoded. -/
def getAt (r : Row) (index : Nat) (type : FieldType) : Except Error Datum :=
  match r.at? index with
  | some v => type.decode v
  | none =>
    .error (.column ("#" ++ toString index) (.outOfRange r.values.length))

end Row

end DataAccess
