/-
From a JSON text to its value: a document read by the grammar, its strings
decoded, its numbers given their values, and its depth bounded.

A number without fraction and exponent is an integer when it fits in
sixty-four bits. Any other number is a binary64 number, computed from a
significand of sixty-four bits: digits are taken while they fit, the rest
of the integer part counts as a power of ten and the rest of the fraction
is dropped; then the significand is rounded, and scaled by a power of ten
with one more rounding. Each of the roundings is to nearest, but two of
them do not always give the nearest number to what was written.
-/
import DataAccess.Json.Document

namespace DataAccess.Json

-- =============================================================== numbers

/-- Appends digits to a significand while it stays below `2 ^ 64`; returns
the digits that are left over, too. -/
def takeDigits (significand : Nat) : List Char → Nat × List Char
  | [] => (significand, [])
  | c :: rest =>
    let next := significand * 10 + Text.digitValue c
    if next < 2 ^ 64 then takeDigits next rest else (significand, c :: rest)

/-- The greatest power of ten that a binary64 number can hold. -/
def greatestTen : Nat := 308

/-- `f · 10 ^ exponent`, in steps of at most the greatest power of ten;
absent when it grows beyond every finite number. -/
def scaleByTen (f : Binary64) (exponent : Int) : Option Binary64 :=
  if exponent.natAbs ≤ greatestTen then
    let ten := Binary64.ofNat (Nat.pow 10 exponent.natAbs)
    if 0 ≤ exponent then
      let r := f.mul ten
      if r.isFinite then some r else none
    else some (f.div ten)
  else if f.isZero then some f
  else if 0 ≤ exponent then none
  else
    scaleByTen (f.div (Binary64.ofNat (Nat.pow 10 greatestTen)))
      (exponent + greatestTen)
termination_by (-exponent).toNat
decreasing_by simp only [greatestTen] at *; omega

/-- The number that decimal digits write. -/
def digitsValue (digits : List Char) : Nat :=
  digits.foldl (fun n c => n * 10 + Text.digitValue c) 0

namespace NumberText

/-- The value of a number that is not an integer. An exponent of more than
thirty-one bits makes it zero or too great at once. -/
def toFloat? (text : NumberText) : Option Binary64 := do
  let (whole, spare) := takeDigits 0 text.integer
  let fraction := text.fraction.getD []
  let (significand, dropped) := takeDigits whole fraction
  let point : Int := spare.length - (fraction.length - dropped.length : Nat)
  let magnitude ← match text.exponent with
    | none => scaleByTen (Binary64.ofNat significand) point
    | some (negative, digits) =>
      let e := digitsValue digits
      if 1 <<< 31 ≤ e then
        if significand ≠ 0 ∧ !negative then none else some Binary64.zero
      else
        scaleByTen (Binary64.ofNat significand)
          (if negative then point - e else point + e)
  return magnitude.withSign text.negative

/-- The value of a number; absent when it is too great. -/
def toJson? (text : NumberText) : Option Json :=
  let n := digitsValue text.integer
  if text.fraction.isSome ∨ text.exponent.isSome then text.toFloat?.map .float
  else if text.negative then
    if 0 < n ∧ n ≤ 1 <<< 63 then some (.int (-n)) else text.toFloat?.map .float
  else if n < UInt64.size then some (.int n)
  else text.toFloat?.map .float

end NumberText

-- ============================================================= documents

/-- The deepest nesting of arrays and objects that has a value. -/
def maxDepth : Nat := 127

/-- The value of a document nested no deeper than `room`. -/
def Document.toJson? (room : Nat) : Document → Option Json
  | .null => some .null
  | .bool b => some (.bool b)
  | .number text => text.toJson?
  | .string text => (decodeString text).map .string
  | .array items =>
    if room = 0 then none
    else (itemsToJson? (room - 1) items).map .array
  | .object members =>
    if room = 0 then none
    else (membersToJson? (room - 1) members).map ofMembers
where
  /-- The values of the items of an array. -/
  itemsToJson? (room : Nat) : List Document → Option (List Json)
    | [] => some []
    | d :: rest => do
      let value ← d.toJson? room
      let values ← itemsToJson? room rest
      return value :: values
  /-- The members of an object, in the order they are written. -/
  membersToJson? (room : Nat) :
      List (StringText × Document) → Option (List (String × Json))
    | [] => some []
    | (key, d) :: rest => do
      let name ← decodeString key
      let value ← d.toJson? room
      let members ← membersToJson? room rest
      return (name, value) :: members

/-- The value of a JSON text. -/
def parse? (text : String) : Option Json := do
  let document ← Document.read? text
  document.toJson? maxDepth

end DataAccess.Json
