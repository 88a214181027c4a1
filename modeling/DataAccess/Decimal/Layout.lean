/-
The text of a binary64 number. The digits are the shortest ones that read
back; a layout says where the point goes, when an exponent is written
instead, and what the numbers without digits are called.

The point of a number is counted from its first digit: 0.01 has its point
at −1, 1 at 1, 250 at 3.
-/
import DataAccess.Decimal.Shortest

namespace DataAccess

/-- How a binary64 number is laid out as text. -/
structure FloatLayout where
  /-- Which of two equally near shortest decimals is written. -/
  tie : Tie
  /-- The least and the greatest point of the numbers written without an
  exponent; all of them when absent. -/
  positional : Option (Int × Int)
  /-- Whether a whole number carries a fraction `.0`. -/
  pointZero : Bool

namespace FloatLayout

/-- Zeros to pad with. -/
def zeros (n : Int) : List Char :=
  List.replicate n.toNat '0'

/-- The digits with a point in them, padded with zeros on either side. -/
def positionalText (pointZero : Bool) (digits : List Char) (point : Int) :
    List Char :=
  if point ≤ 0 then
    '0' :: '.' :: (zeros (-point) ++ digits)
  else if digits.length ≤ point.toNat then
    digits ++ zeros (point - digits.length)
      ++ (if pointZero then ['.', '0'] else [])
  else
    digits.take point.toNat ++ '.' :: digits.drop point.toNat

/-- An exponent with its sign. -/
def exponentText (e : Int) : List Char :=
  (if 0 ≤ e then '+' else '-') :: Nat.toDigits 10 e.natAbs

/-- One digit, the rest after a point, and the exponent of ten. -/
def scientificText (digits : List Char) (point : Int) : List Char :=
  let rest := match digits.drop 1 with
    | [] => []
    | tail => '.' :: tail
  digits.take 1 ++ rest ++ 'e' :: exponentText (point - 1)

/-- The text of a positive finite number. -/
def magnitudeText (l : FloatLayout) (x : Binary64) : List Char :=
  let d := Decimal.shortest l.tie x
  let digits := Nat.toDigits 10 d.digits
  let point := (digits.length : Int) + d.exponent
  let isPositional := match l.positional with
    | none => true
    | some (least, greatest) => least ≤ point && point ≤ greatest
  if isPositional then positionalText l.pointZero digits point
  else scientificText digits point

/-- The text of a number. -/
def render (l : FloatLayout) (x : Binary64) : String :=
  if x.isNaN then "NaN"
  else
    let magnitude :=
      if x.isInfinite then "inf".toList
      else if x.isZero then
        (if l.pointZero then ['0', '.', '0'] else ['0'])
      else l.magnitudeText x
    String.ofList (if x.isNegative then '-' :: magnitude else magnitude)

end FloatLayout

end DataAccess
