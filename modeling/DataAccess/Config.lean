/-
Configuration: the size of the identity cache, the prefix of savepoint
names, how many rows a cursor is asked for at once, and whether parameter
values are logged. The defaults can be overridden field by field, by
environment variables, or by a JSON document.
-/
import DataAccess.Error.Basic
import DataAccess.Json.Parser
import DataAccess.Text.Blank
import DataAccess.Text.Quoted

namespace DataAccess

/-- The settings of a database handle. -/
structure Config where
  identityCacheCapacity : Nat
  savepointPrefix : String
  streamFetchSize : Nat
  logParameters : Bool
  deriving DecidableEq, Repr

namespace Config

/-- The settings when nothing else is said. -/
def default : Config :=
  { identityCacheCapacity := 1024
    savepointPrefix := "tabula_sp"
    streamFetchSize := 256
    logParameters := false }

/-- Sizes are below this bound. -/
def sizeBound : Nat := UInt64.size

/-- Whether a text can start a savepoint name: letters, digits and
underscores, at least one. -/
def isSavepointPrefix (text : String) : Bool :=
  !text.isEmpty && text.toList.all Text.isWordChar

/-- A configuration that can be used, or why it cannot. -/
def validate (c : Config) : Except Error Config :=
  if c.identityCacheCapacity = 0 then .error (.config .zeroCapacity)
  else if c.streamFetchSize = 0 then .error (.config .zeroFetchSize)
  else if isSavepointPrefix c.savepointPrefix then .ok c
  else .error (.config (.savepointPrefix c.savepointPrefix))

-- ================================================= environment variables

/-- The environment variables that override settings. -/
inductive Setting where
  | identityCacheCapacity
  | savepointPrefix
  | streamFetchSize
  | logParameters
  deriving DecidableEq, Repr

/-- The name of a variable. -/
def Setting.variableName : Setting → String
  | .identityCacheCapacity => "TABULA_IDENTITY_CACHE_CAPACITY"
  | .savepointPrefix => "TABULA_SAVEPOINT_PREFIX"
  | .streamFetchSize => "TABULA_STREAM_FETCH_SIZE"
  | .logParameters => "TABULA_LOG_PARAMETERS"

/-- The number that decimal digits write, if it is a size. -/
def sizeOfDigits? (digits : List Char) : Option Nat :=
  if digits.isEmpty || !digits.all Text.isDigit then none
  else
    let n := Json.digitsValue digits
    if n < sizeBound then some n else none

/-- A size as a variable holds it: digits, perhaps with a plus sign, and
blank space around them. -/
def parseSize? (text : String) : Option Nat :=
  match (Text.trimBlank text).toList with
  | '+' :: digits => sizeOfDigits? digits
  | digits => sizeOfDigits? digits

/-- The size in a variable. -/
def parseSize (setting : Setting) (text : String) : Except Error Nat :=
  match parseSize? text with
  | some n => .ok n
  | none => .error (.config (.notANumber setting.variableName text))

/-- Whether a variable switches logging on. -/
def parseSwitch (text : String) : Bool :=
  Text.fold text == "true" || text == "1"

/-- The settings overridden by the variables that are set, validated. -/
def overriddenBy (c : Config) (environment : Setting → Option String) :
    Except Error Config := do
  let capacity ← match environment .identityCacheCapacity with
    | some text => parseSize .identityCacheCapacity text
    | none => pure c.identityCacheCapacity
  let fetchSize ← match environment .streamFetchSize with
    | some text => parseSize .streamFetchSize text
    | none => pure c.streamFetchSize
  let log := match environment .logParameters with
    | some text => parseSwitch text
    | none => c.logParameters
  validate
    { identityCacheCapacity := capacity
      savepointPrefix := (environment .savepointPrefix).getD c.savepointPrefix
      streamFetchSize := fetchSize
      logParameters := log }

-- ============================================================= documents

/-- The size that a JSON number writes. -/
def sizeOfDocument? : Json.Document → Option Nat
  | .number text =>
    if text.negative || text.fraction.isSome || text.exponent.isSome then none
    else sizeOfDigits? text.integer
  | _ => none

/-- The text that a JSON string writes. -/
def textOfDocument? : Json.Document → Option String
  | .string text => Json.decodeString text
  | _ => none

/-- The truth value of a JSON document. -/
def switchOfDocument? : Json.Document → Option Bool
  | .bool b => some b
  | _ => none

/-- The settings with one of them taken from a document. -/
def withDocument (c : Config) (setting : Setting) (d : Json.Document) :
    Option Config :=
  match setting with
  | .identityCacheCapacity =>
    (sizeOfDocument? d).map ({ c with identityCacheCapacity := · })
  | .savepointPrefix =>
    (textOfDocument? d).map ({ c with savepointPrefix := · })
  | .streamFetchSize =>
    (sizeOfDocument? d).map ({ c with streamFetchSize := · })
  | .logParameters =>
    (switchOfDocument? d).map ({ c with logParameters := · })

/-- The settings in the order in which a document lists them. -/
def settings : List Setting :=
  [.identityCacheCapacity, .savepointPrefix, .streamFetchSize, .logParameters]

/-- The name of a setting in a document. -/
def Setting.fieldName : Setting → String
  | .identityCacheCapacity => "identity_cache_capacity"
  | .savepointPrefix => "savepoint_prefix"
  | .streamFetchSize => "stream_fetch_size"
  | .logParameters => "log_parameters"

/-- Takes settings from the members of an object. Members of other names
are passed over; no setting may be given twice. -/
def withMembers (c : Config) : List Setting →
    List (Json.StringText × Json.Document) → Option Config
  | _, [] => some c
  | given, (key, d) :: members => do
    let name ← Json.decodeString key
    match settings.find? fun s => s.fieldName == name with
    | none => withMembers c given members
    | some setting =>
      if given.contains setting then none
      else
        let c ← c.withDocument setting d
        withMembers c (setting :: given) members

/-- Takes settings from the items of an array, in their order. Settings past
the end keep their value; there may be no more items than settings. -/
def withItems (c : Config) : List Setting → List Json.Document → Option Config
  | _, [] => some c
  | [], _ :: _ => none
  | setting :: settings, d :: items => do
    let c ← c.withDocument setting d
    withItems c settings items

/-- The settings that a document holds, the rest by default. -/
def ofDocument? : Json.Document → Option Config
  | .object members => withMembers default [] members
  | .array items => withItems default settings items
  | _ => none

/-- The settings that a JSON text holds, validated. -/
def ofText (text : String) : Except Error Config :=
  match (Json.Document.read? text).bind ofDocument? with
  | some c => c.validate
  | none => .error (.config .malformedFile)

/-- Reads the settings of a file, given its text if it is there. -/
def load (file : Option String) : Except Error Config :=
  match file with
  | some text => ofText text
  | none => .error (.io "no such file")

/-- A setting as its JSON value. -/
def toJson (c : Config) : Setting → Json
  | .identityCacheCapacity => .int c.identityCacheCapacity
  | .savepointPrefix => .string c.savepointPrefix
  | .streamFetchSize => .int c.streamFetchSize
  | .logParameters => .bool c.logParameters

/-- The settings as a JSON document, one to a line. -/
def toText (c : Config) : String :=
  let lines := settings.map fun s =>
    "  " ++ Json.quote s.fieldName ++ ": " ++ (c.toJson s).render
  "\x7b\n" ++ ",\n".intercalate lines ++ "\n\x7d"

/-- The settings as they are shown. -/
def render (c : Config) : String :=
  "TabulaConfig \x7b identity_cache_capacity: "
    ++ toString c.identityCacheCapacity
    ++ ", savepoint_prefix: " ++ Text.quoted c.savepointPrefix
    ++ ", stream_fetch_size: " ++ toString c.streamFetchSize
    ++ ", log_parameters: " ++ (if c.logParameters then "true" else "false")
    ++ " \x7d"

end Config

end DataAccess
