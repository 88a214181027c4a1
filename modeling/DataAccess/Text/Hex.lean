/-
Bytes written as hexadecimal text: two lower-case digits a byte.
-/

namespace DataAccess.Text

/-- The lower-case hexadecimal digit of a number below sixteen. -/
def hexDigit (n : Nat) : Char :=
  if n < 10 then Char.ofNat ('0'.toNat + n) else Char.ofNat ('a'.toNat + (n - 10))

/-- The value of a hexadecimal digit in either case. -/
def hexValue? (c : Char) : Option Nat :=
  if '0' ≤ c && c ≤ '9' then some (c.toNat - '0'.toNat)
  else if 'a' ≤ c && c ≤ 'f' then some (c.toNat - 'a'.toNat + 10)
  else if 'A' ≤ c && c ≤ 'F' then some (c.toNat - 'A'.toNat + 10)
  else none

/-- The two digits of a byte, high half first. -/
def hexByte (b : UInt8) : List Char :=
  [hexDigit (b.toNat / 16), hexDigit (b.toNat % 16)]

/-- Bytes as hexadecimal text. -/
def hex (bytes : List UInt8) : String :=
  String.ofList (bytes.flatMap hexByte)

/-- Reads hexadecimal text back; odd lengths and other characters are
refused. -/
def unhexChars? : List Char → Option (List UInt8)
  | [] => some []
  | hi :: lo :: rest => do
    let h ← hexValue? hi
    let l ← hexValue? lo
    let bytes ← unhexChars? rest
    return UInt8.ofNat (h * 16 + l) :: bytes
  | [_] => none

/-- Reads hexadecimal text back into bytes. -/
def unhex? (s : String) : Option (List UInt8) :=
  unhexChars? s.toList

/-- The number written by hexadecimal digits, most significant first. -/
def hexNumber? (s : String) : Option Nat :=
  s.toList.foldlM (fun n c => (hexValue? c).map (n * 16 + ·)) 0

end DataAccess.Text
