/-
The parameter tokens of a statement, and the text that is sent in their
place. The statement is scanned byte by byte. What stands between quotes is
skipped, and so is the double colon of a cast; a colon in front of a word is
a token. The text between two tokens is copied as it stands, each token
becomes a question mark.

Bytes are not characters. Text is cut at two indices, and a cut inside of a
character gives nothing (`slice?`), so that the whole scan may give nothing
(`rewriteTokens?`).
-/
import DataAccess.Text.Ascii

namespace DataAccess

/-- A text from one byte up to another. -/
def slice? (text : String) (start stop : Nat) : Option String :=
  if h : start ≤ stop ∧ String.Pos.Raw.IsValid text ⟨start⟩
      ∧ String.Pos.Raw.IsValid text ⟨stop⟩ then
    some (text.extract ⟨⟨start⟩, h.2.1⟩ ⟨⟨stop⟩, h.2.2⟩)
  else none

/-- The first index, from `i` on, that is past the end or has a byte which
is not of the class. -/
def skipWhile (p : UInt8 → Bool) (bytes : ByteArray) (i : Nat) : Nat :=
  if h : i < bytes.size then
    if p bytes[i] then skipWhile p bytes (i + 1) else i
  else i
termination_by bytes.size - i

theorem le_skipWhile (p : UInt8 → Bool) (bytes : ByteArray) (i : Nat) :
    i ≤ skipWhile p bytes i := by
  fun_induction skipWhile p bytes i <;> omega

/-- Whether there is a byte of the class at an index. -/
def byteIs (p : UInt8 → Bool) (bytes : ByteArray) (i : Nat) : Bool :=
  if h : i < bytes.size then p bytes[i] else false

/-- Whether a byte opens quoted text. -/
def isQuoteByte (b : UInt8) : Bool :=
  b == 0x27 || b == 0x22

/-- Whether a byte is a colon. -/
def isColonByte (b : UInt8) : Bool :=
  b == 0x3A

/-- Whether a byte can start a name. -/
def isWordStartByte (b : UInt8) : Bool :=
  Text.isWordStart (Char.ofUInt8 b)

/-- Whether a byte can be in a name. -/
def isWordByte (b : UInt8) : Bool :=
  Text.isWordChar (Char.ofUInt8 b)

/-- What a scan has found so far. -/
structure TokenScan where
  /-- The rewritten text, as far as it is written. -/
  out : String
  names : List String
  /-- The first byte that is not in it yet. -/
  last : Nat

namespace TokenScan

/-- Nothing found. -/
def start : TokenScan :=
  { out := "", names := [], last := 0 }

/-- Notes the token whose colon is at `i` and whose name ends at `stop`. -/
def token? (sql : String) (s : TokenScan) (i stop : Nat) :
    Option TokenScan := do
  let before ← slice? sql s.last i
  let name ← slice? sql (i + 1) stop
  return { out := s.out ++ before ++ "?", names := s.names ++ [name]
           last := stop }

/-- Scans a statement from the byte at `i` on. -/
def run (sql : String) (bytes : ByteArray) (i : Nat) (s : TokenScan) :
    Option TokenScan :=
  if h : i < bytes.size then
    if isQuoteByte bytes[i] then
      run sql bytes (skipWhile (· != bytes[i]) bytes (i + 1) + 1) s
    else if isColonByte bytes[i] && byteIs isColonByte bytes (i + 1) then
      run sql bytes (i + 2) s
    else if isColonByte bytes[i] && byteIs isWordStartByte bytes (i + 1) then
      match s.token? sql i (skipWhile isWordByte bytes (i + 1)) with
      | some s => run sql bytes (skipWhile isWordByte bytes (i + 1)) s
      | none => none
    else run sql bytes (i + 1) s
  else some s
termination_by bytes.size - i
decreasing_by
  · have := le_skipWhile (· != bytes[i]) bytes (i + 1)
    omega
  · omega
  · have := le_skipWhile isWordByte bytes (i + 1)
    omega
  · omega

/-- The rewritten text and the names, once everything is scanned. -/
def finish? (sql : String) (s : TokenScan) :
    Option (String × List String) := do
  let rest ← slice? sql s.last sql.utf8ByteSize
  return (s.out ++ rest, s.names)

end TokenScan

/-- A statement with a question mark in the place of every token, and the
names of the tokens in the order of the text. -/
def rewriteTokens? (sql : String) : Option (String × List String) := do
  let s ← TokenScan.start.run sql sql.toUTF8 0
  s.finish? sql

/-- The same; no text is ever cut inside of a character. -/
def rewriteTokens (sql : String) : String × List String :=
  (rewriteTokens? sql).getD (sql, [])

end DataAccess
