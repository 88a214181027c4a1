/-
The frames of a binary export.

    first chunk   signature and flags (15 bytes), length of the header
                  extension (4 bytes), the extension, perhaps a row frame
    row frame     number of fields (2 bytes), then for each field its
                  length (4 bytes) and as many bytes of payload
    trailer       −1 in the place of the number of fields

A field of length −1 is null and has no payload. `Frame.encode`, `header`
and `trailer` write frames, `Frame.decode` and `bodyOf` read them.
-/
import DataAccess.Bulk.Word
import DataAccess.Error.Fault

namespace DataAccess.Bulk

/-- A chunk of an export. -/
abbrev Bytes := List UInt8

-- =============================================================== reading

/-- A position in a chunk. -/
structure ByteReader where
  buffer : Bytes
  offset : Nat

namespace ByteReader

/-- The start of a chunk. -/
def ofBytes (buffer : Bytes) : ByteReader :=
  { buffer, offset := 0 }

/-- What has not been read. -/
def rest (r : ByteReader) : Bytes :=
  r.buffer.drop r.offset

/-- The next bytes, if the chunk has as many. -/
def take (r : ByteReader) (n : Nat) : Except FrameFault (Bytes × ByteReader) :=
  let rest := r.rest
  if n ≤ rest.length then .ok (rest.take n, { r with offset := r.offset + n })
  else .error (.truncated n r.offset rest.length)

/-- The next `n` bytes as an integer. -/
def int (r : ByteReader) (n : Nat) : Except FrameFault (Int × ByteReader) := do
  let (bytes, r) ← r.take n
  return (intOfBytes bytes, r)

end ByteReader

/-- The bytes of signature and flags, in front of the length of the header
extension. -/
def headerPrefixLength : Nat := 15

/-- What the first chunk holds after its header. -/
def bodyOf (chunk : Bytes) : Except FrameFault Bytes := do
  let (_, r) ← (ByteReader.ofBytes chunk).take headerPrefixLength
  let (length, r) ← r.int 4
  if length < 0 then .error (.extensionLength length)
  else
    let (_, r) ← r.take length.toNat
    return r.rest

/-- A payload of a column type, once its length is known to fit. -/
def fieldOfPayload (type : BulkType) (payload : Bytes) : BulkValue :=
  match type with
  | .int64 => .int64 (int64OfBytes payload)
  | .int32 => .int32 (int32OfBytes payload)
  | .bytes => .bytes payload

/-- Whether a payload of this length can be of the type. -/
def fits (type : BulkType) (length : Nat) : Bool :=
  match type.width? with
  | some width => width == length
  | none => true

/-- One field: its length, and its payload unless it is null. -/
def decodeField (index : Nat) (type : BulkType) (r : ByteReader) :
    Except FrameFault (BulkValue × ByteReader) := do
  let (length, r) ← r.int 4
  if length = -1 then return (.null, r)
  else if length < 0 then .error (.fieldLength index length)
  else if fits type length.toNat then
    let (payload, r) ← r.take length.toNat
    return (fieldOfPayload type payload, r)
  else
    .error (.fieldWidth index type length.toNat (type.width?.getD 0))

/-- The fields of the given types, in their order; `index` counts them. -/
def decodeFields : Nat → List BulkType → ByteReader →
    Except FrameFault (BulkRow × ByteReader)
  | _, [], r => .ok ([], r)
  | index, type :: types, r => do
    let (field, r) ← decodeField index type r
    let (fields, r) ← decodeFields (index + 1) types r
    return (field :: fields, r)

/-- The row of a frame; the trailer has none. -/
def decodeFrame (types : List BulkType) (frame : Bytes) :
    Except FrameFault (Option BulkRow) := do
  let (count, r) ← (ByteReader.ofBytes frame).int 2
  if count = -1 then return none
  else if count ≠ types.length then
    .error (.fieldCount count types.length)
  else
    let (row, r) ← decodeFields 0 types r
    if r.rest.isEmpty then return some row
    else .error (.trailing r.rest.length types.length)

-- =============================================================== writing

/-- The eleven bytes every export starts with. -/
def signature : Bytes :=
  [0x50, 0x47, 0x43, 0x4F, 0x50, 0x59, 0x0A, 0xFF, 0x0D, 0x0A, 0x00]

/-- A header without extension: the signature, no flags, length zero. -/
def header : Bytes :=
  signature ++ bytesOfNat 4 0 ++ bytesOfNat 4 0

/-- One field of a frame; without payload it is null. -/
def encodeField : Option Bytes → Bytes
  | some payload => bytesOfNat 4 payload.length ++ payload
  | none => List.replicate 4 0xFF

/-- A row frame. -/
def encodeFrame (fields : List (Option Bytes)) : Bytes :=
  bytesOfNat 2 fields.length ++ fields.flatMap encodeField

/-- The end of an export. -/
def trailer : Bytes := [0xFF, 0xFF]

/-- The payload of a field; null has none. -/
def payloadOf : BulkValue → Option Bytes
  | .null => none
  | .int64 n => some (bytesOfInt64 n)
  | .int32 n => some (bytesOfInt32 n)
  | .bytes b => some b

end DataAccess.Bulk
