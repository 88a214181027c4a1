/-
Transaction numbers. They only tell transactions apart in messages and make
savepoint names; they are handed out in order, from one more than the start,
and are taken not to come round again.
-/

namespace DataAccess

/-- A source of numbers: the last one that was handed out. A counter of
sixty-four bits would begin anew behind `2 ^ 64` numbers, which no run hands
out; here there is always a next one. -/
structure NumberSequence where
  last : Nat
  deriving DecidableEq, Repr

namespace NumberSequence

/-- The sequence whose first number is `start + 1`. -/
def startingAfter (start : Nat) : NumberSequence :=
  { last := start }

/-- The next number. -/
def next (s : NumberSequence) : Nat × NumberSequence :=
  (s.last + 1, { last := s.last + 1 })

/-- The number that was handed out last. -/
def current (s : NumberSequence) : Nat :=
  s.last

end NumberSequence

end DataAccess
