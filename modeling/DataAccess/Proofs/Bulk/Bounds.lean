/-
Reading inside of the bounds. A total function on lists cannot read outside
of one, so that it does not is no statement about it. Here the reader of
frames is guarded: cutting a chunk where it has no bytes, taking a greater
number from a smaller one, and copying a payload into a place of another
width are undefined, and so is every reading that does one of them. The
guarded reading is defined on every frame and gives what the plain one
gives (`decodeFrame?_eq`).

# The invariant

A position is inside of its chunk, the end included (`ByteReader.Inside`).
Taking bytes keeps it there, as more than what is left is refused before
anything is cut; so the reader is inside after every field, whether the
bytes make sense or not. A payload is as long as it was asked for, and one
that does not have the width of its type is refused before it is taken.
-/
import DataAccess.Bulk.Frame

namespace DataAccess.Bulk

-- ========================================================= guarded reading

/-- A reading that may fail, and may be undefined. -/
abbrev Guarded (α : Type) := ExceptT FrameFault Option α

/-- The bytes from one index up to another, if both are in the chunk. -/
def between? (buffer : Bytes) (start stop : Nat) : Option Bytes :=
  if start ≤ stop ∧ stop ≤ buffer.length then
    some ((buffer.drop start).take (stop - start))
  else none

/-- What is left of a number, if as much can be taken from it. -/
def difference? (total taken : Nat) : Option Nat :=
  if taken ≤ total then some (total - taken) else none

/-- A payload in a place that has its width. -/
def placed? (width : Nat) (payload : Bytes) : Option Bytes :=
  if payload.length = width then some payload else none

namespace ByteReader

/-- What has not been read. -/
def rest? (r : ByteReader) : Option Bytes :=
  between? r.buffer r.offset r.buffer.length

/-- The next bytes, if the chunk has as many. -/
def take? (r : ByteReader) (n : Nat) : Guarded (Bytes × ByteReader) :=
  let stop := r.offset + n
  if stop ≤ r.buffer.length then do
    let bytes ← between? r.buffer r.offset stop
    return (bytes, { r with offset := stop })
  else do
    let available ← difference? r.buffer.length r.offset
    throw (.truncated n r.offset available)

/-- The next `n` bytes as an integer of that width. -/
def int? (r : ByteReader) (n : Nat) : Guarded (Int × ByteReader) := do
  let (bytes, r) ← r.take? n
  let bytes ← placed? n bytes
  return (intOfBytes bytes, r)

end ByteReader

/-- A payload of a column type, in a place of the width of the type. -/
def fieldOfPayload? (type : BulkType) (payload : Bytes) : Option BulkValue :=
  match type with
  | .int64 => (placed? 8 payload).map fun bytes => .int64 (int64OfBytes bytes)
  | .int32 => (placed? 4 payload).map fun bytes => .int32 (int32OfBytes bytes)
  | .bytes => some (.bytes payload)

/-- One field. -/
def decodeField? (index : Nat) (type : BulkType) (r : ByteReader) :
    Guarded (BulkValue × ByteReader) := do
  let (length, r) ← r.int? 4
  if length = -1 then return (.null, r)
  else if length < 0 then throw (.fieldLength index length)
  else if fits type length.toNat then
    let (payload, r) ← r.take? length.toNat
    let field ← fieldOfPayload? type payload
    return (field, r)
  else
    throw (.fieldWidth index type length.toNat (type.width?.getD 0))

/-- The fields of the given types. -/
def decodeFields? : Nat → List BulkType → ByteReader →
    Guarded (BulkRow × ByteReader)
  | _, [], r => return ([], r)
  | index, type :: types, r => do
    let (field, r) ← decodeField? index type r
    let (fields, r) ← decodeFields? (index + 1) types r
    return (field :: fields, r)

/-- The row of a frame; the trailer has none. -/
def decodeFrame? (types : List BulkType) (frame : Bytes) :
    Guarded (Option BulkRow) := do
  let (count, r) ← (ByteReader.ofBytes frame).int? 2
  if count = -1 then return none
  else if count ≠ types.length then
    throw (.fieldCount count types.length)
  else
    let (row, r) ← decodeFields? 0 types r
    let rest ← r.rest?
    if rest.isEmpty then return some row
    else throw (.trailing rest.length types.length)

-- =============================================================== agreement

section

variable {α β : Type}

/-- A guarded reading is defined and gives what the plain one gives, which
has a property if it is a result. -/
def Sure (P : α → Prop) (x? : Guarded α) (x : Except FrameFault α) : Prop :=
  x?.run = some x ∧ ∀ a, x = .ok a → P a

theorem sure_pure {P : α → Prop} {a : α} (h : P a) :
    Sure P (pure a) (.ok a) :=
  ⟨rfl, fun _ ha => Except.ok.inj ha ▸ h⟩

/-- A fault that both readings report is sure, whatever has to hold of
results. -/
theorem sure_throw {P : α → Prop} (fault : FrameFault) :
    Sure P (throw fault) (.error fault) :=
  ⟨rfl, fun _ ha => nomatch ha⟩

/-- What was read in bounds is read on from there. -/
theorem Sure.bind {P : α → Prop} {Q : β → Prop} {x? : Guarded α}
    {x : Except FrameFault α} {f? : α → Guarded β}
    {f : α → Except FrameFault β} (hx : Sure P x? x)
    (hf : ∀ a, P a → Sure Q (f? a) (f a)) : Sure Q (x? >>= f?) (x >>= f) := by
  obtain ⟨hrun, hresult⟩ := hx
  obtain rfl : x? = ExceptT.mk (some x) := hrun
  cases x with
  | ok a => exact hf a (hresult a rfl)
  | error fault => exact sure_throw (P := Q) fault

/-- A partial operation that is defined is passed through. -/
theorem sure_bind_some {Q : β → Prop} {o : Option α} {a : α}
    {f? : α → Guarded β} {y : Except FrameFault β} (ho : o = some a)
    (hf : Sure Q (f? a) y) :
    Sure Q ((liftM o : Guarded α) >>= f?) y := by
  subst ho
  exact hf

end

-- ============================================================== the reader

/-- A payload of the right length fills its place. -/
theorem placed?_eq {width : Nat} {payload : Bytes}
    (h : payload.length = width) : placed? width payload = some payload :=
  if_pos h

namespace ByteReader

variable {r : ByteReader}

/-- A position is not beyond the end of its chunk. -/
def Inside (r : ByteReader) : Prop :=
  r.offset ≤ r.buffer.length

theorem inside_ofBytes (buffer : Bytes) : (ofBytes buffer).Inside :=
  Nat.zero_le _

/-- Within its buffer a reader has the rest. -/
theorem rest?_eq (h : r.Inside) : r.rest? = some r.rest := by
  have hlength : (r.buffer.drop r.offset).length
      = r.buffer.length - r.offset := List.length_drop
  unfold rest? between?
  rw [if_pos ⟨h, Nat.le_refl _⟩, ← hlength, List.take_length]
  rfl

/-- Bytes are taken from the chunk, or refused: never from behind its
end. -/
theorem sure_take (h : r.Inside) (n : Nat) :
    Sure (fun (bytes, r') => bytes.length = n ∧ r'.Inside) (r.take? n)
      (r.take n) := by
  have hlength : r.rest.length = r.buffer.length - r.offset :=
    List.length_drop
  have hinside : r.offset ≤ r.buffer.length := h
  unfold take? take
  dsimp only
  by_cases hfits : r.offset + n ≤ r.buffer.length
  · have hrest : n ≤ r.rest.length := by omega
    have hcut : between? r.buffer r.offset (r.offset + n)
        = some (r.rest.take n) := by
      unfold between?
      rw [if_pos ⟨by omega, hfits⟩, Nat.add_sub_cancel_left]
      rfl
    rw [if_pos hfits, if_pos hrest]
    exact sure_bind_some hcut
      (sure_pure ⟨List.length_take_of_le hrest, hfits⟩)
  · have hleft : difference? r.buffer.length r.offset
        = some r.rest.length := by
      unfold difference?
      rw [if_pos hinside, hlength]
    rw [if_neg hfits, if_neg (by omega)]
    exact sure_bind_some hleft (sure_throw _)

/-- An integer is read within the buffer or is a fault. -/
theorem sure_int (h : r.Inside) (n : Nat) :
    Sure (fun (_, r') => r'.Inside) (r.int? n) (r.int n) :=
  (sure_take h n).bind fun _ ⟨hlength, hinside⟩ =>
    sure_bind_some (placed?_eq hlength) (sure_pure hinside)

end ByteReader

-- ================================================================== frames

section

variable {r : ByteReader}

/-- A payload that fits its type has the width that it is copied with. -/
theorem fieldOfPayload?_eq {type : BulkType} {payload : Bytes}
    (h : fits type payload.length = true) :
    fieldOfPayload? type payload = some (fieldOfPayload type payload) := by
  cases type with
  | int64 =>
      have hwidth : payload.length = 8 := (beq_iff_eq.mp h).symm
      unfold fieldOfPayload?
      rw [placed?_eq hwidth]
      rfl
  | int32 =>
      have hwidth : payload.length = 4 := (beq_iff_eq.mp h).symm
      unfold fieldOfPayload?
      rw [placed?_eq hwidth]
      rfl
  | bytes => rfl

/-- So is a field. -/
theorem sure_decodeField (index : Nat) (type : BulkType) (h : r.Inside) :
    Sure (fun (_, r') => r'.Inside) (decodeField? index type r)
      (decodeField index type r) := by
  refine (ByteReader.sure_int h 4).bind fun (length, r₁) hinside => ?_
  dsimp only
  split
  · exact sure_pure hinside
  split
  · exact sure_throw _
  split
  · next hfits =>
    refine (ByteReader.sure_take hinside _).bind
      fun (payload, r₂) ⟨hlength, hinside⟩ => ?_
    rw [← hlength] at hfits
    exact sure_bind_some (fieldOfPayload?_eq hfits) (sure_pure hinside)
  · exact sure_throw _

/-- By induction on the types: each field leaves the reader inside. -/
theorem sure_decodeFields (index : Nat) (types : List BulkType)
    (h : r.Inside) :
    Sure (fun (_, r') => r'.Inside) (decodeFields? index types r)
      (decodeFields index types r) := by
  induction types generalizing index r with
  | nil => exact sure_pure h
  | cons type types ih =>
      refine (sure_decodeField index type h).bind fun _ hfield => ?_
      refine (ih (index + 1) hfield).bind fun _ hfields => ?_
      exact sure_pure hfields

/-- A frame is always decoded, or a fault. -/
theorem sure_decodeFrame (types : List BulkType) (frame : Bytes) :
    Sure (fun _ => True) (decodeFrame? types frame)
      (decodeFrame types frame) := by
  have hstart := ByteReader.inside_ofBytes frame
  refine (ByteReader.sure_int hstart 2).bind fun (count, r₁) hinside => ?_
  dsimp only
  split
  · exact sure_pure trivial
  split
  · exact sure_throw _
  refine (sure_decodeFields 0 types hinside).bind fun (row, r₂) hinside => ?_
  refine sure_bind_some (ByteReader.rest?_eq hinside) ?_
  dsimp only
  split
  · exact sure_pure trivial
  · exact sure_throw _

/-- Whatever the bytes, reading a frame never leaves the chunk, never takes
too much from a number, and never copies a payload of another width. -/
theorem decodeFrame?_eq (types : List BulkType) (frame : Bytes) :
    (decodeFrame? types frame).run = some (decodeFrame types frame) :=
  (sure_decodeFrame types frame).1

end

end DataAccess.Bulk
