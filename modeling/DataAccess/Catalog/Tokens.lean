/-
The types of the catalogue by token. A scalar type is a word, with `opt:` in
front when it may be absent. A record type is its name, or is written out as
an object with a name and a list of components, which may be left out when
it is empty.
-/
import DataAccess.Catalog.Records
import DataAccess.Json.Access

namespace DataAccess.Catalog

variable (path : String)

/-- The scalar type of a word. -/
def scalarType? (word : String) : Option ScalarType :=
  List.lookup word
    [("bool", .bool), ("i32", .int32), ("i64", .int64), ("f64", .float64),
     ("string", .text), ("bytes", .bytes), ("timestamp", .timestamp),
     ("date", .date), ("utc", .timestamp), ("json", .json .any),
     ("tier", .symbol (tier path)), ("unit", .symbol (lengthUnit path)),
     ("json_tags", tags), ("json_counts", counts)]

/-- A scalar token, cut at its colons: the type, and whether it is
optional. -/
def leaf? : List String → Option (ScalarType × Bool)
  | [word] => (scalarType? path word).map (·, false)
  | ["opt", word] => (scalarType? path word).map (·, true)
  | _ => none

/-- The field type of a token. -/
def fieldType? (token : String) : Option FieldType :=
  match token.splitOn ":" with
  | ["value"] => some .any
  | parts => (leaf? path parts).map fun (type, optional) =>
    if optional then .optional type else .required type

/-- The component of a token. -/
def componentOfToken? (token : String) : Option (Component RecordValue) :=
  match (records path).lookup token with
  | some type => some type.component
  | none =>
    match token.splitOn ":" with
    | "lazy" :: parts =>
      (leaf? path parts).map fun (t, n) => idleComponent t n
    | "greedy" :: parts =>
      (leaf? path parts).map fun (t, n) => greedyComponent t n
    | parts => (leaf? path parts).map fun (t, n) => .scalar t n

/-- The component that a JSON value writes. -/
def component? : Json → Option (Component RecordValue)
  | .string token => componentOfToken? path token
  | .object [("name", .string name)] => some (.record name [])
  | .object [("name", .string name), ("of", .null)] => some (.record name [])
  | .object [("name", .string name), ("of", .array parts)] =>
    (components? parts).map (.record name)
  | _ => none
where
  /-- The components of a list. -/
  components? : List Json → Option (List (Component RecordValue))
    | [] => some []
    | j :: js => do
      let c ← component? j
      let cs ← components? js
      return c :: cs

end DataAccess.Catalog
