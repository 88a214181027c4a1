/-
The text of a JSON value: no blanks, members in key order, and in strings
only the quote, the backslash and the control characters are escaped.
-/
import DataAccess.Json.Basic
import DataAccess.Text.Hex
import DataAccess.Decimal.Layout

namespace DataAccess.Json

/-- Numbers with a fraction: the even one of two equally short texts, a
signed exponent outside 10⁻⁵ … 10¹⁶, and `.0` on whole numbers. -/
def floatLayout : FloatLayout :=
  { tie := .even, positional := some (-4, 16), pointZero := true }

/-- How one character is written inside a string. -/
def escapeChar (c : Char) : List Char :=
  if c = '"' then ['\\', '"']
  else if c = '\\' then ['\\', '\\']
  else if c.toNat = 0x8 then ['\\', 'b']
  else if c.toNat = 0xC then ['\\', 'f']
  else if c = '\n' then ['\\', 'n']
  else if c = '\r' then ['\\', 'r']
  else if c = '\t' then ['\\', 't']
  else if c.toNat < 0x20 then
    ['\\', 'u', '0', '0', Text.hexDigit (c.toNat / 16),
      Text.hexDigit (c.toNat % 16)]
  else [c]

/-- A string in quotes. -/
def quote (s : String) : String :=
  String.ofList ('"' :: (s.toList.flatMap escapeChar ++ ['"']))

/-- The compact text of a value. -/
def render : Json → String
  | .null => "null"
  | .bool b => if b then "true" else "false"
  | .int n => toString n
  | .float x => if x.isFinite then floatLayout.render x else "null"
  | .string s => quote s
  | .array items => "[" ++ ",".intercalate (renderItems items) ++ "]"
  | .object members =>
    "\x7b" ++ ",".intercalate (renderMembers members) ++ "\x7d"
where
  /-- The texts of the items. -/
  renderItems : List Json → List String
    | [] => []
    | x :: xs => x.render :: renderItems xs
  /-- The texts of the members, key first. -/
  renderMembers : List (String × Json) → List String
    | [] => []
    | (k, x) :: xs => (quote k ++ ":" ++ x.render) :: renderMembers xs

end DataAccess.Json
