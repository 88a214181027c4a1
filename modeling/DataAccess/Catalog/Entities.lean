/-
The entity types of the sample catalogue: a small shop, some types that
stress the binding (composite identities, every scalar type, data without a
stored form, self-references), and a few that can never be bound.
-/
import DataAccess.Catalog.Payloads
import DataAccess.Catalog.Symbols
import DataAccess.Entity.Basic
import DataAccess.Text.Blank

namespace DataAccess.Catalog

-- ============================================================= customers

/-- The position of the name among the fields of a customer. -/
def customerNameIndex : Nat := 1

/-- The name of a customer. -/
def customerName (e : Entity) : String :=
  match e.fields[customerNameIndex]? with
  | some (.plain (.stored (.text name))) => name
  | _ => ""

/-- A loaded customer: one name is refused, any other loses the spaces
around it, and the loads are counted. -/
def afterCustomerLoad : Edit Unit := do
  let name := customerName (← get)
  if name == "!load" then throw (.mapping (.other "post_load refused"))
  else
    modify fun e =>
      (e.setField customerNameIndex
        (.plain (.stored (.text (Text.trimSpaces name))))).count "loads"

/-- A stored customer: one name is refused, and the stores are counted. -/
def afterCustomerStore : Edit Unit := do
  if customerName (← get) == "!store" then
    throw (.config (.other "post_store refused"))
  else modify fun e => e.count "stores"

variable (path : String)

/-- A customer. -/
def customer : EntityDescriptor :=
  { EntityDescriptor.ofColumns (path ++ "Customer") "customers"
      [(ColumnBinding.plain "id" (.optional .int64)).asGenerated,
       .plain "full_name" (.required .text),
       .plain "tier" (.required (.symbol (tier path)))] with
    counters := ["loads", "stores"]
    postLoad := some afterCustomerLoad
    postStore := some afterCustomerStore }

-- ================================================================ orders

/-- An order of a customer. -/
def order : EntityDescriptor :=
  .ofColumns (path ++ "Order") "orders"
    [(ColumnBinding.plain "id" (.required .int64)).asIdentity,
     .relation "customer_id" "customer" (path ++ "Customer") "customer_",
     .plain "total" (.required .int64)]

/-- A line of an order, with an identity of two columns. -/
def orderLine : EntityDescriptor :=
  .ofColumns (path ++ "OrderLine") "order_lines"
    [(ColumnBinding.plain "order_id" (.required .int64)).asIdentity,
     .plain "sku" (.required .text),
     (ColumnBinding.plain "line" (.required .int32)).asIdentity,
     .plain "qty" (.optional .int32)]

-- ================================================================ others

/-- A board, whose cells have no stored form unless there are none. -/
def board : EntityDescriptor :=
  .ofColumns (path ++ "Board") "boards"
    [(ColumnBinding.plain "id" (.required .int64)).asIdentity,
     .plain "tags" (.required tags),
     .plain "cells" (.required cells)]

/-- The position of the cells among the fields of a board. -/
def boardCellsIndex : Nat := 2

/-- The board with a cell in it. -/
def withCell (e : Entity) : Entity :=
  e.setField boardCellsIndex (.plain oneCell)

/-- A tag, known by its code. -/
def tag : EntityDescriptor :=
  .ofColumns (path ++ "Tag") "tags"
    [(ColumnBinding.plain "code" (.optional .text)).asIdentity,
     .plain "label" (.required .text)]

/-- A column of every scalar type; any value at all is its identity. -/
def allTypes : EntityDescriptor :=
  .ofColumns (path ++ "AllTypes") "all_types"
    [(ColumnBinding.plain "id" .any).asIdentity,
     .plain "b" (.optional .bool),
     .plain "i" (.optional .int32),
     .plain "l" (.optional .int64),
     .plain "d" (.optional .float64),
     .plain "s" (.optional .text),
     .plain "x" (.optional .bytes),
     .plain "t" (.optional .timestamp),
     .plain "day" (.optional .date),
     .plain "at" (.optional .timestamp),
     .plain "j" (.optional (.json .any)),
     .plain "tier" (.optional (.symbol (tier path)))]

/-- Nothing but identity, in three columns. -/
def marker : EntityDescriptor :=
  .ofColumns (path ++ "Marker") "markers"
    [(ColumnBinding.plain "a" (.required .int32)).asIdentity,
     (ColumnBinding.plain "b" (.optional .text)).asIdentity,
     (ColumnBinding.plain "c" (.optional .bool)).asIdentity]

/-- An employee, who may have another one as manager. -/
def employee : EntityDescriptor :=
  .ofColumns (path ++ "Employee") "Employees"
    [((ColumnBinding.plain "Emp_ID" (.optional .int32)).asGenerated).boundTo
        "id",
     .plain "name" (.required .text),
     .relation "boss" "manager" (path ++ "Employee") "mgr_",
     .relation "tag_id" "tag" (path ++ "Tag") "tag_"]

-- ============================================================ not bound

/-- A relation to a type with an identity of two columns; never bound. -/
def badRelation : EntityDescriptor :=
  .ofColumns (path ++ "BadRel") "bad_rels"
    [(ColumnBinding.plain "id" (.required .int64)).asIdentity,
     .relation "line_id" "line" (path ++ "OrderLine") "line_"]

/-- A table without a name; never bound. -/
def blank : EntityDescriptor :=
  .ofColumns (path ++ "Blank") "  "
    [(ColumnBinding.plain "id" (.required .int64)).asIdentity]

/-- A relation to a type that is never bound. -/
def haunted : EntityDescriptor :=
  .ofColumns (path ++ "Haunted") "haunted"
    [(ColumnBinding.plain "id" (.required .int64)).asIdentity,
     .relation "ghost_id" "ghost" (path ++ "Blank") "ghost_"]

/-- No identity; never bound. -/
def anonymous : EntityDescriptor :=
  .ofColumns (path ++ "Anon") "anons" [.plain "note" (.required .text)]

/-- All entity types of the catalogue. -/
def schema : Schema :=
  [customer path, order path, orderLine path, board path, tag path,
   allTypes path, marker path, employee path, badRelation path, blank path,
   haunted path, anonymous path]

end DataAccess.Catalog
