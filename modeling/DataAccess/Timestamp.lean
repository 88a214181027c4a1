/-
Points in time as the database knows them: a calendar date and a time of
day to the nanosecond, without a zone. A second with a billion nanoseconds
or more is a leap second; it is shown as second sixty.
-/

namespace DataAccess

/-- A date and a time of day. -/
structure Timestamp where
  year : Int
  month : Nat
  day : Nat
  hour : Nat
  minute : Nat
  second : Nat
  nanosecond : Nat
  deriving DecidableEq, Repr

namespace Timestamp

/-- Midnight of the same day. -/
def midnight (t : Timestamp) : Timestamp :=
  { t with hour := 0, minute := 0, second := 0, nanosecond := 0 }

/-- A number with leading zeros up to a width. -/
def padded (width n : Nat) : List Char :=
  let digits := Nat.toDigits 10 n
  List.replicate (width - digits.length) '0' ++ digits

/-- The year: four digits, with a sign in front when it is outside
0 … 9999. -/
def yearText (year : Int) : List Char :=
  if year < 0 then '-' :: padded 4 year.natAbs
  else if 9999 < year then '+' :: padded 4 year.natAbs
  else padded 4 year.natAbs

/-- The fraction of a second: absent when zero, else three, six or nine
digits, the fewest that are exact. -/
def fractionText (nanosecond : Nat) : List Char :=
  if nanosecond = 0 then []
  else if nanosecond % 1000000 = 0 then '.' :: padded 3 (nanosecond / 1000000)
  else if nanosecond % 1000 = 0 then '.' :: padded 6 (nanosecond / 1000)
  else '.' :: padded 9 nanosecond

/-- `YYYY-MM-DD HH:MM:SS`, and the fraction of the second if there is one. -/
def render (t : Timestamp) : String :=
  let leap := 1000000000 ≤ t.nanosecond
  let second := if leap then t.second + 1 else t.second
  let nanosecond := if leap then t.nanosecond - 1000000000 else t.nanosecond
  String.ofList <|
    yearText t.year ++ '-' :: padded 2 t.month ++ '-' :: padded 2 t.day
      ++ ' ' :: padded 2 t.hour ++ ':' :: padded 2 t.minute
      ++ ':' :: padded 2 second ++ fractionText nanosecond

end Timestamp

end DataAccess
