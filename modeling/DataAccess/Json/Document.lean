/-
JSON text as it is written. A document keeps what a value forgets: the
digits of its numbers, the escapes of its strings, and members that repeat
a key, in their order. Reading a document decides only whether a text
follows the grammar; what its numbers and strings stand for is decided when
it is turned into a value.

Of the ways to break the grammar one is told from the rest: an object that
has something else than a string where a key belongs. Its outcome holds what
was read before, as a document whose open brackets are taken as closed, so
that whether anything before is at fault can still be asked.
-/
import DataAccess.Json.Basic
import DataAccess.Text.Ascii
import DataAccess.Text.Hex

namespace DataAccess.Json

/-- A number as written: an integer part, and perhaps a fraction and an
exponent. All digits are decimal ones. -/
structure NumberText where
  negative : Bool
  integer : List Char
  fraction : Option (List Char)
  /-- Whether the exponent is negative, and its digits. -/
  exponent : Option (Bool × List Char)
  deriving DecidableEq

/-- One piece of a string: a character as it stands (or behind a short
escape), or a UTF-16 unit given by its number. -/
inductive Piece where
  | char (c : Char)
  | unit (n : Nat)
  deriving DecidableEq

/-- A string as written. -/
abbrev StringText := List Piece

/-- A JSON text, taken apart. -/
inductive Document where
  | null
  | bool (value : Bool)
  | number (text : NumberText)
  | string (text : StringText)
  | array (items : List Document)
  | object (members : List (StringText × Document))

-- =============================================================== strings

/-- Puts surrogate pairs together; half a pair alone is no text. -/
def decodePieces : StringText → Option (List Char)
  | [] => some []
  | .char c :: rest => (decodePieces rest).map (c :: ·)
  | .unit hi :: rest =>
    if 0xD800 ≤ hi ∧ hi < 0xDC00 then
      match rest with
      | .unit lo :: rest =>
        if 0xDC00 ≤ lo ∧ lo < 0xE000 then
          let code := 0x10000 + (hi - 0xD800) * 0x400 + (lo - 0xDC00)
          (decodePieces rest).map (Char.ofNat code :: ·)
        else none
      | _ => none
    else if 0xDC00 ≤ hi ∧ hi < 0xE000 then none
    else (decodePieces rest).map (Char.ofNat hi :: ·)

/-- The text of a string. -/
def decodeString (text : StringText) : Option String :=
  (decodePieces text).map String.ofList

/-- What a short escape stands for. -/
def shortEscape? (c : Char) : Option Char :=
  if c = '"' ∨ c = '\\' ∨ c = '/' then some c
  else if c = 'b' then some (Char.ofNat 0x8)
  else if c = 'f' then some (Char.ofNat 0xC)
  else if c = 'n' then some '\n'
  else if c = 'r' then some '\r'
  else if c = 't' then some '\t'
  else none

/-- Reads a string whose opening quote has been read, up to and with its
closing quote. -/
def readPieces : List Char → Option (StringText × List Char)
  | [] => none
  | '"' :: rest => some ([], rest)
  | '\\' :: 'u' :: a :: b :: c :: d :: rest => do
    let n ← Text.hexNumber? (String.ofList [a, b, c, d])
    let (pieces, rest) ← readPieces rest
    return (.unit n :: pieces, rest)
  | '\\' :: e :: rest => do
    let c ← shortEscape? e
    let (pieces, rest) ← readPieces rest
    return (.char c :: pieces, rest)
  | c :: rest =>
    if c = '\\' ∨ c.toNat < 0x20 then none
    else do
      let (pieces, rest) ← readPieces rest
      return (.char c :: pieces, rest)

-- =============================================================== numbers

/-- Digits from the front of a text; there must be one. -/
def readDigits (cs : List Char) : Option (List Char × List Char) :=
  match cs.takeWhile Text.isDigit with
  | [] => none
  | digits => some (digits, cs.dropWhile Text.isDigit)

/-- A fraction, if a point follows. -/
def readFraction : List Char → Option (Option (List Char) × List Char)
  | '.' :: rest => do
    let (digits, rest) ← readDigits rest
    return (some digits, rest)
  | cs => some (none, cs)

/-- The sign of an exponent, if one is written. -/
def readSign : List Char → Bool × List Char
  | '+' :: rest => (false, rest)
  | '-' :: rest => (true, rest)
  | cs => (false, cs)

/-- An exponent, if its letter follows. -/
def readExponent (cs : List Char) :
    Option (Option (Bool × List Char) × List Char) :=
  match cs with
  | c :: rest =>
    if c = 'e' ∨ c = 'E' then do
      let (negative, rest) := readSign rest
      let (digits, rest) ← readDigits rest
      return (some (negative, digits), rest)
    else some (none, cs)
  | [] => some (none, [])

/-- A number without its sign. The integer part has no leading zero. -/
def readMagnitude (negative : Bool) (cs : List Char) :
    Option (NumberText × List Char) := do
  let (integer, rest) ← readDigits cs
  if integer.head? = some '0' ∧ integer.length ≠ 1 then none
  else
    let (fraction, rest) ← readFraction rest
    let (exponent, rest) ← readExponent rest
    return ({ negative, integer, fraction, exponent }, rest)

-- ============================================================= documents

/-- The four blanks of the grammar. -/
def isGap (c : Char) : Bool :=
  c == ' ' || c == '\n' || c == '\r' || c == '\t'

/-- The text after its leading blanks. -/
def skipGap (cs : List Char) : List Char :=
  cs.dropWhile isGap

/-- The rest of a text that starts with the given word. -/
def afterWord? (word : List Char) (cs : List Char) : Option (List Char) :=
  if word.isPrefixOf cs then some (cs.drop word.length) else none

/-- What reading from the front of a text gives. -/
inductive Parsed (α : Type) where
  /-- A result, and the rest of the text. -/
  | done (result : α) (rest : List Char)
  /-- What was read before a key that is no string, and the text from there
  on. -/
  | badKey (before : α) (rest : List Char)
  /-- The text breaks the grammar in another way. -/
  | broken

namespace Parsed

variable {α β : Type}

/-- The outcome of a reader that knows no keys. -/
def ofOption : Option (α × List Char) → Parsed α
  | some (result, rest) => .done result rest
  | none => .broken

/-- Changes what has been read. -/
def map (f : α → β) : Parsed α → Parsed β
  | .done result rest => .done (f result) rest
  | .badKey before rest => .badKey (f before) rest
  | .broken => .broken

/-- Goes on behind a result; when its text has a bad key, `f` says what has
been read. -/
def andThen (f : α → β) (next : α → List Char → Parsed β) :
    Parsed α → Parsed β
  | .done result rest => next result rest
  | .badKey before rest => .badKey (f before) rest
  | .broken => .broken

end Parsed

/-- What a word stands for, when the rest of it follows. -/
def readWord (d : Document) (ending : String) (cs : List Char) :
    Parsed Document :=
  .ofOption ((afterWord? ending.toList cs).map (d, ·))

mutual

/-- Reads one value; the first argument bounds the depth of the descent. -/
def readValue : Nat → List Char → Parsed Document
  | 0, _ => .broken
  | fuel + 1, cs =>
    match skipGap cs with
    | '"' :: rest => (Parsed.ofOption (readPieces rest)).map .string
    | '[' :: rest =>
      match skipGap rest with
      | ']' :: rest => .done (.array []) rest
      | rest => (readItems fuel rest).map .array
    | '{' :: rest =>
      match skipGap rest with
      | '}' :: rest => .done (.object []) rest
      | rest => (readMembers fuel rest).map .object
    | '-' :: rest => (Parsed.ofOption (readMagnitude true rest)).map .number
    | 'n' :: rest => readWord .null "ull" rest
    | 't' :: rest => readWord (.bool true) "rue" rest
    | 'f' :: rest => readWord (.bool false) "alse" rest
    | rest => (Parsed.ofOption (readMagnitude false rest)).map .number

/-- Reads the items of an array and its closing bracket. -/
def readItems : Nat → List Char → Parsed (List Document)
  | 0, _ => .broken
  | fuel + 1, cs =>
    (readValue fuel cs).andThen ([·]) fun item rest =>
      match skipGap rest with
      | ']' :: rest => .done [item] rest
      | ',' :: rest => (readItems fuel rest).map (item :: ·)
      | _ => .broken

/-- Reads the members of an object and its closing brace. -/
def readMembers : Nat → List Char → Parsed (List (StringText × Document))
  | 0, _ => .broken
  | fuel + 1, cs =>
    match skipGap cs with
    | '"' :: rest =>
      match readPieces rest with
      | none => .broken
      | some (key, rest) =>
        match skipGap rest with
        | ':' :: rest =>
          (readValue fuel rest).andThen (fun d => [(key, d)]) fun value rest =>
            match skipGap rest with
            | '}' :: rest => .done [(key, value)] rest
            | ',' :: rest => (readMembers fuel rest).map ((key, value) :: ·)
            | _ => .broken
        | _ => .broken
    | '}' :: _ => .broken
    | [] => .broken
    | rest => .badKey [] rest

end

/-- Reads a whole text: one value with blanks around it. Every step of the
descent takes at least one character, so the length bounds it. -/
def Document.read (text : String) : Parsed Document :=
  let cs := text.toList
  (readValue (2 * cs.length + 2) cs).andThen id fun doc rest =>
    if (skipGap rest).isEmpty then .done doc [] else .broken

/-- The document of a text that follows the grammar. -/
def Document.read? (text : String) : Option Document :=
  match Document.read text with
  | .done doc _ => some doc
  | _ => none

end DataAccess.Json
