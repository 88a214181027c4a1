/-
Texts in double quotes, as they stand in descriptions of handles. Quotes,
backslashes and the common control characters have short escapes; every
other character that cannot be seen by itself is written by its code.
-/
import DataAccess.Text.Printable

namespace DataAccess.Text

/-- A number in lower-case hexadecimal. -/
def hexText (n : Nat) : List Char :=
  Nat.toDigits 16 n

/-- A character by its code. -/
def codeEscape (c : Char) : List Char :=
  '\\' :: 'u' :: '\x7b' :: (hexText c.toNat ++ ['\x7d'])

/-- One character between quotes. -/
def quotedChar (c : Char) : List Char :=
  if c = '"' then ['\\', '"']
  else if c = '\\' then ['\\', '\\']
  else if c = '\n' then ['\\', 'n']
  else if c = '\r' then ['\\', 'r']
  else if c = '\t' then ['\\', 't']
  else if c.toNat = 0 then ['\\', '0']
  else if isVisible c then [c]
  else codeEscape c

/-- A text between double quotes. -/
def quoted (s : String) : String :=
  String.ofList ('"' :: (s.toList.flatMap quotedChar ++ ['"']))

/-- Texts between double quotes, in brackets. -/
def quotedList (texts : List String) : String :=
  "[" ++ ", ".intercalate (texts.map quoted) ++ "]"

end DataAccess.Text
