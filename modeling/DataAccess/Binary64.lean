/-
Binary64 numbers as bit patterns. A number is its 64 bits, so two of them
are equal exactly when they cannot be told apart; a finite one stands for
`significand · 2 ^ exponent` with the sign in front.

Arithmetic is done on exact ratios of natural numbers and rounded once,
to the nearest number and on a tie to the even one (`ofRatio`). Products
and quotients of two numbers are such ratios, so `mul` and `div` are
correctly rounded by construction.
-/

namespace DataAccess

/-- A binary64 number: one sign bit, eleven bits of biased exponent,
fifty-two of fraction. -/
structure Binary64 where
  bits : UInt64
  deriving DecidableEq, Repr

namespace Binary64

-- ================================================================ fields

/-- Whether the sign bit is set (also for zero and for no number). -/
def isNegative (x : Binary64) : Bool :=
  x.bits.toNat >>> 63 == 1

/-- The biased exponent. -/
def biasedExponent (x : Binary64) : Nat :=
  (x.bits.toNat >>> 52) % (1 <<< 11)

/-- The stored part of the significand. -/
def fraction (x : Binary64) : Nat :=
  x.bits.toNat % (1 <<< 52)

/-- Neither an infinity nor no number. -/
def isFinite (x : Binary64) : Bool :=
  x.biasedExponent != 2047

/-- All exponent bits set over a fraction: no number at all. -/
def isNaN (x : Binary64) : Bool :=
  x.biasedExponent == 2047 && x.fraction != 0

/-- All exponent bits set over an empty fraction. -/
def isInfinite (x : Binary64) : Bool :=
  x.biasedExponent == 2047 && x.fraction == 0

/-- Either zero. -/
def isZero (x : Binary64) : Bool :=
  x.biasedExponent == 0 && x.fraction == 0

/-- The whole significand: the leading bit is implied unless the biased
exponent is zero. -/
def significand (x : Binary64) : Nat :=
  if x.biasedExponent = 0 then x.fraction else x.fraction + (1 <<< 52)

/-- The exponent of two that goes with `significand`. -/
def exponent (x : Binary64) : Int :=
  if x.biasedExponent = 0 then -1074 else (x.biasedExponent : Int) - 1075

/-- Positive zero. -/
def zero : Binary64 := ⟨0⟩

/-- The number with its sign turned. -/
def neg (x : Binary64) : Binary64 :=
  ⟨x.bits ^^^ 0x8000000000000000⟩

/-- The number with the given sign in front. -/
def withSign (negative : Bool) (x : Binary64) : Binary64 :=
  if negative then x.neg else x

-- ============================================================== rounding

/-- The ratio of two powers of two that an exponent stands for. -/
def scaleUp (e : Int) : Nat := 1 <<< e.toNat

/-- The quotient rounded to the nearest natural number, a tie to the even
one. -/
def roundQuotient (num den : Nat) : Nat :=
  let q := num / den
  let twice := 2 * (num % den)
  if twice < den then q
  else if den < twice then q + 1
  else q + q % 2

/-- The exponent of the grid that `num / den` is rounded on: fifty-three
significant bits, but never finer than the subnormal grid. -/
def gridExponent (num den : Nat) : Int :=
  let guess : Int := (num.log2 : Int) - (den.log2 : Int)
  let reaches : Bool :=
    den * scaleUp guess ≤ num * scaleUp (-guess)
  max (-1074) (if reaches then guess - 52 else guess - 53)

/-- The number nearest to `num / den`, ties to even; beyond the largest
finite number it is infinite. The bits of a positive number count the
numbers below it, so a carry out of the significand needs no care. -/
def ofRatio (num den : Nat) : Binary64 :=
  if num = 0 ∨ den = 0 then zero
  else
    let e := gridExponent num den
    let q := roundQuotient (num * scaleUp (-e)) (den * scaleUp e)
    let pattern := (e + 1074).toNat * (1 <<< 52) + q
    ⟨UInt64.ofNat (min pattern (2047 * (1 <<< 52)))⟩

/-- The number nearest to a natural number. -/
def ofNat (n : Nat) : Binary64 :=
  ofRatio n 1

/-- The magnitude of a finite number as a ratio. -/
def ratio (x : Binary64) : Nat × Nat :=
  (x.significand * scaleUp x.exponent, scaleUp (-x.exponent))

/-- The product of two positive finite numbers, rounded once. -/
def mul (x y : Binary64) : Binary64 :=
  let (a, b) := x.ratio
  let (c, d) := y.ratio
  ofRatio (a * c) (b * d)

/-- The quotient of two positive finite numbers, rounded once. -/
def div (x y : Binary64) : Binary64 :=
  let (a, b) := x.ratio
  let (c, d) := y.ratio
  ofRatio (a * d) (b * c)

end Binary64

end DataAccess
