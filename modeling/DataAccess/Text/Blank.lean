/-
Blank space, and cutting it off the ends of a text. The class is the
White_Space property: the ASCII blanks, the two Latin-1 ones, and the
spaces and separators beyond.
-/

namespace DataAccess.Text

/-- The code points with the White_Space property, as closed ranges in
increasing order. -/
def blankRanges : List (Nat × Nat) :=
  [(0x9, 0xD), (0x20, 0x20), (0x85, 0x85), (0xA0, 0xA0), (0x1680, 0x1680),
   (0x2000, 0x200A), (0x2028, 0x2029), (0x202F, 0x202F), (0x205F, 0x205F),
   (0x3000, 0x3000)]

/-- Whether a character is blank space. -/
def isBlank (c : Char) : Bool :=
  blankRanges.any fun (lo, hi) => lo ≤ c.toNat && c.toNat ≤ hi

/-- The text without the characters at either end that `drop` accepts. -/
def trimBy (drop : Char → Bool) (cs : List Char) : List Char :=
  ((cs.dropWhile drop).reverse.dropWhile drop).reverse

/-- The text without blank space at either end. -/
def trimBlank (s : String) : String :=
  String.ofList (trimBy isBlank s.toList)

/-- Whether a text holds nothing but blank space. -/
def isBlankText (s : String) : Bool :=
  s.toList.all isBlank

/-- The text without plain spaces at either end; other blanks stay. -/
def trimSpaces (s : String) : String :=
  String.ofList (trimBy (· == ' ') s.toList)

end DataAccess.Text
