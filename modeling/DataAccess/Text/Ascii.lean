/-
Names and ASCII: database names are compared without regard to the case
of A–Z, and to nothing else. `fold` is the normal form of a name;
`sameName` compares two names through it.

The word characters of a SQL identifier (a letter or an underscore, then
letters, digits and underscores) are here as well: parameter tokens and
savepoint names are both made of them.
-/

namespace DataAccess.Text

-- ========================================================= name folding

/-- Lower-cases A–Z and leaves every other character alone. -/
def fold (s : String) : String :=
  String.ofList (s.toList.map Char.toLower)

/-- Two names are the same when they fold to the same text. -/
def sameName (a b : String) : Bool :=
  fold a == fold b

@[simp] theorem toList_fold (s : String) :
    (fold s).toList = s.toList.map Char.toLower := by
  simp [fold]

theorem sameName_iff {a b : String} :
    sameName a b = true ↔ fold a = fold b := by
  simp [sameName]

-- ====================================================== word characters

/-- A letter A–Z in either case. -/
def isLetter (c : Char) : Bool :=
  ('a' ≤ c && c ≤ 'z') || ('A' ≤ c && c ≤ 'Z')

/-- A decimal digit 0–9. -/
def isDigit (c : Char) : Bool :=
  '0' ≤ c && c ≤ '9'

/-- A word starts with a letter or an underscore. -/
def isWordStart (c : Char) : Bool :=
  isLetter c || c == '_'

/-- A word goes on with letters, digits and underscores. -/
def isWordChar (c : Char) : Bool :=
  isLetter c || isDigit c || c == '_'

theorem isWordChar_of_isWordStart {c : Char} (h : isWordStart c = true) :
    isWordChar c = true := by
  simp only [isWordStart, isWordChar, Bool.or_eq_true] at *
  rcases h with h | h
  · exact Or.inl (Or.inl h)
  · exact Or.inr h

/-- The value of a decimal digit. -/
def digitValue (c : Char) : Nat :=
  c.toNat - '0'.toNat

-- =============================================================== joining

/-- The parts with a separator between each two of them. -/
def join (separator : String) (parts : List String) : String :=
  separator.intercalate parts

/-- A list of parts as it is shown in running text: comma and space between
each two. -/
def commaSeparated (parts : List String) : String :=
  join ", " parts

end DataAccess.Text
