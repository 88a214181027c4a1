/-
Errors. An error says what failed (one of the fault families), and the
ones that concern a statement say where: in which transaction, under which
SQL text, with which parameters.

Two constructors build errors from errors. `statement` tags a failure that
arose while the rows of a statement were consumed with that statement.
`suppressed` keeps a failure together with the failures of the clean-up it
caused: the first stays the primary one, the others are carried along in
the order they came.

`withContext` and `withSuppressed` are the only ways the library builds the
two, and they keep a normal form: a context is attached at most once, and
suppressed errors never nest in the primary position.
-/
import DataAccess.Driver.Error
import DataAccess.Error.Fault
import DataAccess.Text.Hex

namespace DataAccess

/-- A statement as errors show it: its text and its parameters, rendered. -/
structure StatementText where
  sql : String
  params : List String
  deriving DecidableEq, Repr

/-- Where a failure happened: the transaction by its display identity, and
the statement if there was one. -/
structure StatementContext where
  transaction : String
  statement : Option StatementText
  deriving DecidableEq, Repr

/-- The transaction in brackets, then the statement; parameters only when
there are some. -/
def StatementContext.render (c : StatementContext) : String :=
  let origin := "[" ++ c.transaction ++ "]"
  match c.statement with
  | none => origin
  | some s =>
    let text := origin ++ " SQL: " ++ s.sql
    if s.params.isEmpty then text
    else text ++ " params: [" ++ Text.commaSeparated s.params ++ "]"

/-- An error of the library. -/
inductive Error where
  /-- The driver reported a violated integrity constraint. -/
  | constraintViolation (message : String) (sqlstate : Option String)
      (context : StatementContext)
  /-- Any other failure of a statement, a transaction or a stream. -/
  | database (fault : StatementFault) (context : StatementContext)
  | mapping (fault : MappingFault)
  /-- Bytes or values that cannot be decoded; the bytes are kept. -/
  | decode (fault : DecodeFault) (bytes : List UInt8)
  | column (name : String) (fault : ColumnFault)
  | typeMismatch (expected actual : String)
  | config (fault : ConfigFault)
  | serialization (fault : SerializationFault)
  | io (text : String)
  | statement (source : Error) (context : StatementContext)
  | suppressed (primary : Error) (rest : List Error)

/-- The kinds of error. -/
inductive ErrorKind where
  | constraintViolation
  | database
  | mapping
  | decode
  | column
  | typeMismatch
  | config
  | serialization
  | io
  | statement
  | suppressed
  deriving DecidableEq, Repr

/-- The name of a kind of error. -/
def ErrorKind.name : ErrorKind → String
  | .constraintViolation => "ConstraintViolation"
  | .database => "Database"
  | .mapping => "Mapping"
  | .decode => "Decode"
  | .column => "Column"
  | .typeMismatch => "TypeMismatch"
  | .config => "Config"
  | .serialization => "Serialization"
  | .io => "Io"
  | .statement => "Statement"
  | .suppressed => "Suppressed"

namespace Error

/-- The kind of an error. -/
def kind : Error → ErrorKind
  | .constraintViolation .. => .constraintViolation
  | .database .. => .database
  | .mapping .. => .mapping
  | .decode .. => .decode
  | .column .. => .column
  | .typeMismatch .. => .typeMismatch
  | .config .. => .config
  | .serialization .. => .serialization
  | .io .. => .io
  | .statement .. => .statement
  | .suppressed .. => .suppressed

-- =============================================================== wording

/-- How many bytes of undecodable input a message shows. -/
def shownBytes : Nat := 64

/-- Bytes as a message shows them: in hexadecimal, cut after `shownBytes`
with a note on how many are left out. -/
def bytesText (bytes : List UInt8) : String :=
  let shown := Text.hex (bytes.take shownBytes)
  if bytes.length ≤ shownBytes then shown
  else
    shown ++ "…(+" ++ toString (bytes.length - shownBytes) ++ " bytes)"

/-- The text of an error. -/
def message : Error → String
  | .constraintViolation text _ context =>
    "constraint violation: " ++ text ++ " " ++ context.render
  | .database fault context =>
    "database error: " ++ fault.message ++ " " ++ context.render
  | .mapping fault => "mapping error: " ++ fault.message
  | .decode fault bytes =>
    "decode error: " ++ fault.message ++ " (raw: " ++ bytesText bytes ++ ")"
  | .column name fault => "column '" ++ name ++ "': " ++ fault.message
  | .typeMismatch expected actual =>
    "type mismatch: expected " ++ expected ++ ", got " ++ actual
  | .config fault => "config error: " ++ fault.message
  | .serialization fault => "serialization error: " ++ fault.message
  | .io text => "io error: " ++ text
  | .statement source context => source.message ++ " " ++ context.render
  | .suppressed primary rest =>
    primary.message ++ " (suppressed: " ++ Text.join "; " (messages rest)
      ++ ")"
where
  /-- The texts of several errors. -/
  messages : List Error → List String
    | [] => []
    | e :: es => e.message :: messages es

-- ============================================================== building

/-- A driver's failure, classified: constraint violations are told apart by
their SQLSTATE. -/
def ofDriver (e : DriverError) (context : StatementContext) : Error :=
  if e.isIntegrityViolation then
    .constraintViolation e.message e.sqlstate context
  else .database (.reported e.message) context

/-- Carries another error along; this one stays the primary one. -/
def withSuppressed (e other : Error) : Error :=
  match e with
  | .suppressed primary rest => .suppressed primary (rest ++ [other])
  | primary => .suppressed primary [other]

/-- Carries several errors along, in their order. -/
def withAllSuppressed (e : Error) (others : List Error) : Error :=
  others.foldl withSuppressed e

/-- Tags a failure with the statement it happened under. An error that says
already where it happened stays as it is; of a failure with suppressed ones
the primary is tagged. -/
def withContext (context : StatementContext) : Error → Error
  | .suppressed primary rest => .suppressed (primary.withContext context) rest
  | .constraintViolation text sqlstate own =>
    .constraintViolation text sqlstate own
  | .database fault own => .database fault own
  | .statement source own => .statement source own
  | e => .statement e context

-- =============================================================== viewing

/-- The error that caused the failure: suppressed errors and statement tags
are looked through. -/
def primary : Error → Error
  | .suppressed e _ => e.primary
  | .statement e _ => e.primary
  | e => e

/-- The errors carried along. -/
def suppressedErrors : Error → List Error
  | .suppressed _ rest => rest
  | _ => []

/-- Whether the cause is a violated constraint. -/
def isConstraintViolation (e : Error) : Bool :=
  e.primary.kind == .constraintViolation

/-- Whether the cause is undecodable input. -/
def isDecode (e : Error) : Bool :=
  e.primary.kind == .decode

/-- Whether the cause is a mapping that does not line up. -/
def isMapping (e : Error) : Bool :=
  e.primary.kind == .mapping

end Error

end DataAccess
