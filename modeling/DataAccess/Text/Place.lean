/-
Places in a text. Lines are counted from one, and so are the bytes of a line
in UTF-8: the place of a character is the one of its first byte.
-/

namespace DataAccess.Text

/-- A place in a text. -/
structure Place where
  line : Nat
  column : Nat
  deriving DecidableEq, Repr

namespace Place

/-- Where a text starts. -/
def start : Place := { line := 1, column := 1 }

/-- The place behind a character at the given one. -/
def after (p : Place) (c : Char) : Place :=
  if c = '\n' then { line := p.line + 1, column := 1 }
  else { p with column := p.column + c.utf8Size }

/-- The place behind the characters that a text starts with. -/
def behind (before : List Char) : Place :=
  before.foldl after start

/-- The place in words. -/
def render (p : Place) : String :=
  "line " ++ toString p.line ++ " column " ++ toString p.column

end Place

end DataAccess.Text
