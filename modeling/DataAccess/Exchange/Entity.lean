/-
What concerns entities as JSON: their identities, the statements that write
them, and the counts of an identity cache.
-/
import DataAccess.Entity.Binding
import DataAccess.Exchange.Value
import DataAccess.Identity.Cache

namespace DataAccess

/-- A component of an identity: its sort and its text. -/
def KeyPart.toJson (p : KeyPart) : Json :=
  .array [.string p.sortName, .string p.render]

/-- An identity: its text, and its components. -/
def IdentityKey.toJson (k : IdentityKey) : Json :=
  .object
    [("display", .string k.render), ("empty", .bool k.parts.isEmpty),
     ("len", .ofNat k.parts.length),
     ("parts", .array (k.parts.map KeyPart.toJson))]

/-- A statement that changes rows, with its parameters. -/
def EntityBinding.ChangeStatement.toJson (s : ChangeStatement) : Json :=
  .object
    [("params", Value.listToJson s.params), ("sql", .string s.sql)]

/-- An insert, with its parameters and the columns that are generated. -/
def EntityBinding.InsertStatement.toJson (s : InsertStatement) : Json :=
  .object
    [("keys", .ofTexts s.keys), ("params", Value.listToJson s.params),
     ("sql", .string s.sql)]

/-- The size of a cache, its capacity, and its hits and misses. -/
def IdentityCache.countsToJson {α : Type} (c : IdentityCache α) : Json :=
  .array [.ofNat c.size, .ofNat c.capacity, .ofNat c.hits, .ofNat c.misses]

end DataAccess
