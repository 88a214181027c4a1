/-
Fixed-width integers as bytes, most significant byte first; negative ones
in two's complement.
-/

namespace DataAccess.Bulk

/-- The number that bytes write. -/
def natOfBytes (bytes : List UInt8) : Nat :=
  bytes.foldl (fun n b => n * 256 + b.toNat) 0

/-- The lowest `width` bytes of a number. -/
def bytesOfNat : Nat → Nat → List UInt8
  | 0, _ => []
  | width + 1, n => UInt8.ofNat (n / 256 ^ width) :: bytesOfNat width n

/-- The integer that bytes write in two's complement. -/
def intOfBytes (bytes : List UInt8) : Int :=
  let n := natOfBytes bytes
  let modulus := Nat.pow 256 bytes.length
  if 2 * n < modulus then n else (n : Int) - modulus

/-- The integer of sixty-four bits that eight bytes write. -/
def int64OfBytes (bytes : List UInt8) : Int64 :=
  (UInt64.ofNat (natOfBytes bytes)).toInt64

/-- The integer of thirty-two bits that four bytes write. -/
def int32OfBytes (bytes : List UInt8) : Int32 :=
  (UInt32.ofNat (natOfBytes bytes)).toInt32

/-- The eight bytes of an integer. -/
def bytesOfInt64 (n : Int64) : List UInt8 :=
  bytesOfNat 8 n.toUInt64.toNat

/-- The four bytes of an integer. -/
def bytesOfInt32 (n : Int32) : List UInt8 :=
  bytesOfNat 4 n.toUInt32.toNat

end DataAccess.Bulk
