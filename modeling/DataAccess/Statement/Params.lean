/-
Parameters of a statement. There are two ways to bind them, never used
together: by position, for the question marks of the statement, and by name,
for its tokens. A named value serves every token of its name.

Binding cannot fail, but a datum without a stored form leaves a fault
behind: the first one is reported when the statement is resolved, so that
nothing is sent in place of what could not be encoded.
-/
import DataAccess.Statement.Rewriting
import DataAccess.Value.Scalar

namespace DataAccess

/-- The bound parameters of one statement. -/
structure Params where
  /-- In binding order. -/
  positional : List Value
  /-- In the order in which the names were first bound. -/
  named : List (String × Value)
  /-- The first datum that could not be encoded. -/
  failure : Option ParamFault
  deriving DecidableEq

/-- A statement as it is sent: its text and its parameters by position. -/
structure BoundStatement where
  sql : String
  params : List Value
  deriving DecidableEq

namespace Params

/-- No parameters. -/
def empty : Params :=
  { positional := [], named := [], failure := none }

/-- Whether nothing is bound. -/
def isEmpty (p : Params) : Bool :=
  p.positional.isEmpty && p.named.isEmpty

/-- Notes that the datum called `label` has no stored form, unless one was
noted before. -/
def noteFailure (p : Params) (label : String) (e : Error) : Params :=
  { p with
    failure := p.failure <|> some (.unencodable label e.message) }

/-- Binds the next question mark. -/
def bind (p : Params) (d : Datum) : Params :=
  match d.encode with
  | .ok v => { p with positional := p.positional ++ [v] }
  | .error e =>
    let label := "?" ++ toString (p.positional.length + 1)
    { p.noteFailure label e with positional := p.positional ++ [.null] }

/-- Binds question marks to stored values, one after the other. -/
def bindAll (p : Params) (values : List Value) : Params :=
  values.foldl (fun p v => p.bind (.stored v)) p

/-- The named values with one more, in the place of an older one of the
same name. -/
def setNamed (name : String) (v : Value) :
    List (String × Value) → List (String × Value)
  | [] => [(name, v)]
  | (n, w) :: rest =>
    if n = name then (n, v) :: rest else (n, w) :: setNamed name v rest

/-- A parameter name without the colons in front of it. -/
def bareName (name : String) : String :=
  String.ofList (name.toList.dropWhile (· == ':'))

/-- Binds a name; binding it again replaces the value. -/
def param (p : Params) (name : String) (d : Datum) : Params :=
  let name := bareName name
  match d.encode with
  | .ok v => { p with named := setNamed name v p.named }
  | .error e =>
    { p.noteFailure (":" ++ name) e with named := setNamed name .null p.named }

/-- The values of the tokens, one for each. -/
def valuesOf (named : List (String × Value)) :
    List String → Except ParamFault (List Value)
  | [] => .ok []
  | name :: names =>
    match named.lookup name with
    | none => .error (.unbound name)
    | some v => (valuesOf named names).map (v :: ·)

/-- The statement to send. -/
def resolve (p : Params) (sql : String) : Except ParamFault BoundStatement :=
  match p.failure with
  | some fault => .error fault
  | none =>
    if !p.positional.isEmpty && !p.named.isEmpty then .error .mixed
    else
      let (rewritten, names) := rewriteTokens sql
      match p.named.find? fun (name, _) => !names.contains name with
      | some (unused, _) => .error (.unused unused)
      | none =>
        if names.isEmpty then .ok ⟨sql, p.positional⟩
        else if !p.positional.isEmpty then .error .mixed
        else (valuesOf p.named names).map (⟨rewritten, ·⟩)

end Params

end DataAccess
