/-
Scripts, parameters and calls as JSON. A script holds the answers of a
scripted driver and its failures to come; the calls that were made are
written one JSON value each, in a form that shows what they carry.
-/
import DataAccess.Driver.Scripted
import DataAccess.Exchange.Value
import DataAccess.Statement.Params

namespace DataAccess

-- =============================================================== scripts

/-- Reads a failure of the driver. -/
def DriverError.ofJson? (j : Json) : Option DriverError := do
  return { message := ← j.textAt? "message", sqlstate := j.textAt? "sqlstate" }

/-- Reads a chunk of an export: its bytes in hexadecimal, or a failure. -/
def ScriptedChunk.ofJson? : Json → Option ScriptedChunk
  | .string s => (Text.unhex? s).map .ok
  | j => (DriverError.ofJson? j).map .error

/-- Reads a failure to come. -/
def ScriptedFailure.ofJson? (j : Json) : Option ScriptedFailure := do
  return {
    kind := ← (j.textAt? "kind").bind CallKind.ofName?
    skip := j.natAt "skip" 0
    error := ← DriverError.ofJson? j }

/-- Appends a script to what a driver is to do. -/
def Driver.withScript? (d : Driver) (j : Json) : Option Driver := do
  let results ← (j.itemsAt "results").mapM ResultSet.ofJson?
  let generated ← (j.itemsAt "generated").mapM Value.listOfJson?
  let affected ← (j.itemsAt "affected").mapM Json.nat?
  let copies ← (j.itemsAt "copies").mapM fun c =>
    c.items.mapM ScriptedChunk.ofJson?
  let failures ← (j.itemsAt "failures").mapM ScriptedFailure.ofJson?
  let d := results.foldl pushResult d
  let d := generated.foldl pushGenerated d
  let d := affected.foldl pushAffected d
  let d := copies.foldl pushCopy d
  return failures.foldl fail d

-- ============================================================ parameters

/-- A datum that has no stored form. -/
def Datum.unencodable : Datum := .formless (.array []) .keyNotString

/-- Binds one parameter: `bind` by position, `param` by name, and the same
two with a datum that has no stored form. -/
def Params.bindJson? (p : Params) : Json → Option Params
  | .object [("bind", v)] => (Value.ofJson? v).map fun v => p.bind (.stored v)
  | .object [("param", .array [.string name, v])] =>
    (Value.ofJson? v).map fun v => p.param name (.stored v)
  | .object [("bind_bad", _)] => some (p.bind .unencodable)
  | .object [("param_bad", .string name)] => some (p.param name .unencodable)
  | _ => none

/-- Binds parameters one after the other. -/
def Params.ofJson? (steps : List Json) : Option Params :=
  steps.foldlM bindJson? empty

-- ================================================================= calls

/-- A call that was made. -/
def Call.toJson (c : Call) : Json :=
  match c with
  | .execute sql params =>
    .object [("execute", .string sql), ("params", Value.listToJson params)]
  | .insertReturning sql params keys =>
    .object
      [("insert", .string sql), ("keys", .ofTexts keys),
       ("params", Value.listToJson params)]
  | .query sql params =>
    .object [("params", Value.listToJson params), ("query", .string sql)]
  | .openCursor statement params fetchSize =>
    .object
      [("fetch_size", .ofNat fetchSize), ("open_cursor", .string c.render),
       ("params", Value.listToJson params), ("statement", .ofNat statement)]
  | .fetch handle => .array [.string c.render, .ofNat handle]
  | .closeCursor handle => .array [.string c.render, .ofNat handle]
  | .closeStatement handle => .array [.string c.render, .ofNat handle]
  | .copyOut sql => .object [("copy_out", .string sql)]
  | _ => .string c.render

/-- What is open, and how often each kind of call was made. -/
def Driver.countsToJson (d : Driver) : Json :=
  let calls := CallKind.all.filterMap fun kind =>
    let n := d.count kind
    if n = 0 then none else some (kind.name, Json.ofNat n)
  .object
    [("calls", .ofMembers calls), ("connections", .ofNat d.openConnections),
     ("cursors", .ofNat d.openCursors),
     ("statements", .ofNat d.openStatements)]

end DataAccess
