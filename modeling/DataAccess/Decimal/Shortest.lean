/-
The shortest decimal that reads back. A binary64 number is the nearest one
to every real of an interval around it; among the decimals of that interval
the ones with the fewest digits are the short ways to write the number, and
of those the one nearest to the number itself is its text.

On the grid of decimals with a given number of digits only the two
neighbours of the number matter: when any point of the grid lies in the
interval, so does one of these two. So the search goes from one digit
upwards, looks at the two neighbours each time, and stops at the first grid
that has a hit. All comparisons are between natural numbers.
-/
import DataAccess.Binary64

namespace DataAccess

/-- The decimal number `digits · 10 ^ exponent`. -/
structure Decimal where
  digits : Nat
  exponent : Int
  deriving DecidableEq, Repr

/-- Which neighbour is taken when both are equally near. -/
inductive Tie where
  | up
  | even
  deriving DecidableEq, Repr

namespace Decimal

/-- The power of ten of a non-negative exponent, one for a negative one. -/
def tenTo (e : Int) : Nat := Nat.pow 10 e.toNat

/-- The number of decimal digits. -/
def digitCount (n : Nat) : Nat := (Nat.toDigits 10 n).length

/-- The exponent of the leading digit of `num / den`. -/
def leadingExponent (num den : Nat) : Int :=
  let guess : Int := (digitCount num : Int) - (digitCount den : Int)
  if den * tenTo guess ≤ num * tenTo (-guess) then guess else guess - 1

/-- The same number without trailing zeros in its digits. -/
def stripZeros (d : Decimal) : Decimal :=
  if d.digits ≠ 0 ∧ d.digits % 10 = 0 then
    stripZeros ⟨d.digits / 10, d.exponent + 1⟩
  else d
termination_by d.digits
decreasing_by all_goals omega

/-- The reals that read back as one number: `value / den` is the number
itself, `low / den` and `high / den` are the ends of the interval, which
belong to it when `closed` holds. -/
structure Interval where
  low : Nat
  value : Nat
  high : Nat
  den : Nat
  closed : Bool

/-- The interval of a positive finite number. The gap below is half as wide
when the significand is the least of its exponent. -/
def Interval.of (x : Binary64) : Interval :=
  let m := x.significand
  let below := if x.fraction = 0 ∧ 1 < x.biasedExponent then 1 else 2
  let unit := Binary64.scaleUp x.exponent
  { low := (4 * m - below) * unit
    value := 4 * m * unit
    high := (4 * m + 2) * unit
    den := 4 * Binary64.scaleUp (-x.exponent)
    closed := m % 2 == 0 }

/-- Whether a decimal lies in the interval. -/
def Interval.contains (i : Interval) (d : Decimal) : Bool :=
  let point := d.digits * tenTo d.exponent * i.den
  let scale := tenTo (-d.exponent)
  if i.closed then i.low * scale ≤ point && point ≤ i.high * scale
  else i.low * scale < point && point < i.high * scale

/-- The hit on the grid of step `10 ^ k`, if one of the two neighbours of
the value lies in the interval: the nearer one when both do. -/
def Interval.hit? (i : Interval) (tie : Tie) (k : Int) : Option Decimal :=
  let num := i.value * tenTo (-k)
  let step := i.den * tenTo k
  let floor := num / step
  let twice := 2 * (num % step)
  let lower : Decimal := ⟨floor, k⟩
  let upper : Decimal := ⟨floor + 1, k⟩
  let nearer :=
    if twice < step then lower
    else if step < twice then upper
    else match tie with
      | .up => upper
      | .even => if floor % 2 = 0 then lower else upper
  match i.contains lower, i.contains upper with
  | true, true => some nearer
  | true, false => some lower
  | false, true => some upper
  | false, false => none

/-- The shortest decimal of a positive finite number. Seventeen digits
always suffice. -/
def shortest (tie : Tie) (x : Binary64) : Decimal :=
  let i := Interval.of x
  let lead := leadingExponent i.value i.den
  let hit := (List.range 17).findSome? fun (n : Nat) => i.hit? tie (lead - n)
  stripZeros (hit.getD ⟨i.value / i.den, 0⟩)

end Decimal

end DataAccess
