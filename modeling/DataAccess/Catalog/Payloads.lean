/-
The structured data of the sample catalogue. Words and counts are trees that
follow a schema, and their payloads are the JSON that they are stored as.
Cells are a map whose keys are pairs; JSON has no such keys, so only the
empty map has a form.
-/
import DataAccess.Value.Scalar

namespace DataAccess.Catalog

-- =============================================================== schemas

/-- What a tree of texts and integers is made of. -/
inductive JsonSchema where
  | string
  /-- An integer of sixty-four bits. -/
  | integer
  | listOf (item : JsonSchema)
  /-- An object with string keys. -/
  | mapOf (item : JsonSchema)

namespace JsonSchema

/-- Whether a JSON value follows a schema. -/
def accepts : JsonSchema → Json → Bool
  | .string, .string _ => true
  | .integer, .int n => -(2 ^ 63) ≤ n && n < 2 ^ 63
  | .listOf item, .array items => items.all item.accepts
  | .mapOf item, .object members => members.all fun (_, j) => item.accepts j
  | _, _ => false

/-- Whether a JSON text, taken apart, follows a schema. In a map every member
counts, also one whose key comes again. -/
def acceptsDocument : JsonSchema → Json.Document → Bool
  | .listOf item, .array items => items.all item.acceptsDocument
  | .mapOf item, .object members =>
    members.all fun (_, d) => item.acceptsDocument d
  | schema, d =>
    match d.toJson? Json.maxDepth with
    | some j => schema.accepts j
    | none => false

/-- The value of a document that follows a schema. -/
def ofDocument? (schema : JsonSchema) (d : Json.Document) : Option Json :=
  if schema.acceptsDocument d then d.toJson? Json.maxDepth else none

/-- What there is of a schema before it is set. -/
def initial : JsonSchema → Json
  | .string => .string ""
  | .integer => .int 0
  | .listOf _ => .array []
  | .mapOf _ => .object []

/-- The type of the trees that follow a schema. -/
def type (schema : JsonSchema) : JsonType where
  encode j := .ok j
  decode j := if schema.accepts j then .ok j else .error .malformed
  read := Json.readAs schema.ofDocument?
  initial := schema.initial

end JsonSchema

/-- A list of words. -/
def tags : ScalarType := .json (JsonSchema.listOf .string).type

/-- Counts by word. -/
def counts : ScalarType := .json (JsonSchema.mapOf .integer).type

-- ================================================================= cells

/-- The cells in a JSON value: none. -/
def cellsOf? : Json → Option Payload
  | .object [] => some (.array [])
  | _ => none

/-- A map from pairs of integers to integers, as the list of its entries. -/
def cellMap : JsonType where
  encode
    | .array [] => .ok (.object [])
    | _ => .error .keyNotString
  decode j :=
    match cellsOf? j with
    | some cells => .ok cells
    | none => .error .malformed
  read := Json.readAs fun d => (d.toJson? Json.maxDepth).bind cellsOf?
  initial := .array []

/-- A map from pairs of integers to integers. -/
def cells : ScalarType := .json cellMap

/-- The map with one cell in it. -/
def oneCell : Datum :=
  cellMap.datum
    (.array [.array [.array [.int 0, .int 0], .int 0]])

end DataAccess.Catalog
