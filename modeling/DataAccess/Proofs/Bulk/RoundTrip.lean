/-
Exports, written and read back. An export is laid out in chunks: the header,
a frame for each row, perhaps trailers; the first frame may share its chunk
with the header. Whatever the layout, decoding gives back the rows that were
written, each once and in order (`Layout.decode_chunks`).

# The argument

A reader is known by what it has not read, its `rest`. Each piece of the
format has one lemma of the same shape: where the rest begins with the
written form of something, reading gives that thing back and leaves what
came after. Fields, then the fields of a row, then a frame are put together
in that way. A frame is never empty, so the first chunk has a frame after its
header exactly if something is there.
-/
import DataAccess.Bulk.Export
import DataAccess.Proofs.Bulk.Word
import Mathlib.Data.List.Forall2

namespace DataAccess.Bulk

-- ============================================================ what is written

/-- A field that a column of the type can hold: null or a value of the type,
whose length can be written in four bytes. -/
def Matches : BulkType → BulkValue → Prop
  | _, .null => True
  | .int64, .int64 _ => True
  | .int32, .int32 _ => True
  | .bytes, .bytes b => b.length < 2 ^ 31
  | _, _ => False

/-- The frame of a row. -/
def rowFrame (row : BulkRow) : Bytes :=
  encodeFrame (row.map payloadOf)

/-- How an export is laid out around its rows. -/
structure Layout where
  /-- Signature and flags. -/
  lead : Bytes
  /-- The extension of the header. -/
  extension : Bytes
  /-- Whether the first frame is in the chunk of the header. -/
  joined : Bool
  /-- How many trailers there are. -/
  trailers : Nat
  length_lead : lead.length = headerPrefixLength
  length_extension : extension.length < 2 ^ 31

namespace Layout

/-- The header. -/
def header (l : Layout) : Bytes :=
  l.lead ++ bytesOfNat 4 l.extension.length ++ l.extension

/-- The header and the frames, as chunks. -/
def framed (l : Layout) : List Bytes → List Bytes
  | [] => [l.header]
  | frame :: frames =>
    if l.joined then (l.header ++ frame) :: frames
    else l.header :: frame :: frames

/-- The chunks of an export. -/
def chunks (l : Layout) (rows : List BulkRow) : List Bytes :=
  l.framed (rows.map rowFrame) ++ List.replicate l.trailers trailer

/-- The layout with the plain header. -/
def plain (joined : Bool) (trailers : Nat) : Layout :=
  { lead := signature ++ bytesOfNat 4 0, extension := [], joined, trailers
    length_lead := rfl, length_extension := by decide }

end Layout

-- =================================================================== reading

/-- A step of a reader that succeeds hands on what it read. -/
theorem ok_bind {ε α β : Type} (x : α) (f : α → Except ε β) :
    (Except.ok x >>= f) = f x := rfl

namespace ByteReader

/-- What is left after some bytes were taken. -/
theorem rest_advance (r : ByteReader) (n : Nat) :
    { r with offset := r.offset + n : ByteReader }.rest = r.rest.drop n :=
  List.drop_drop.symm

/-- Taking as many bytes as something is long takes that. -/
theorem take_append {r : ByteReader} {bytes more : Bytes} {n : Nat}
    (hrest : r.rest = bytes ++ more) (hn : bytes.length = n) :
    ∃ r', r.take n = .ok (bytes, r') ∧ r'.rest = more := by
  subst hn
  have hfits : bytes.length ≤ r.rest.length := by
    rw [hrest, List.length_append]
    omega
  refine ⟨{ r with offset := r.offset + bytes.length }, ?_, ?_⟩
  · unfold take
    dsimp only
    rw [if_pos hfits, hrest, List.take_left]
  · rw [rest_advance, hrest, List.drop_left]

/-- Bytes in front are read as the integer that they write. -/
theorem int_of_rest {r : ByteReader} {bytes more : Bytes} {n : Nat} {k : Int}
    (hrest : r.rest = bytes ++ more) (hn : bytes.length = n)
    (hk : intOfBytes bytes = k) :
    ∃ r', r.int n = .ok (k, r') ∧ r'.rest = more := by
  obtain ⟨r', htake, hrest'⟩ := take_append hrest hn
  refine ⟨r', ?_, hrest'⟩
  unfold int
  rw [htake, ok_bind, ← hk]
  rfl

/-- A number that was written is read. -/
theorem int_append {r : ByteReader} {more : Bytes} {width n : Nat}
    (hrest : r.rest = bytesOfNat width n ++ more)
    (hn : 2 * n < 256 ^ width) :
    ∃ r', r.int width = .ok (n, r') ∧ r'.rest = more :=
  int_of_rest hrest (length_bytesOfNat width n) (intOfBytes_bytesOfNat hn)

end ByteReader

/-- A payload has a length that its type allows, and is read as the value
that it was made of. -/
theorem fieldOfPayload_payloadOf {type : BulkType} {v : BulkValue}
    {payload : Bytes} (hmatches : Matches type v)
    (hpayload : payloadOf v = some payload) :
    fits type payload.length = true ∧ payload.length < 2 ^ 31
      ∧ fieldOfPayload type payload = v := by
  cases v with
  | null => cases hpayload
  | int64 n =>
      cases type with
      | int64 =>
          cases hpayload
          exact ⟨rfl, Nat.lt_of_sub_eq_succ rfl,
            congrArg _ (int64OfBytes_bytesOfInt64 n)⟩
      | int32 => cases hmatches
      | bytes => cases hmatches
  | int32 n =>
      cases type with
      | int32 =>
          cases hpayload
          exact ⟨rfl, Nat.lt_of_sub_eq_succ rfl,
            congrArg _ (int32OfBytes_bytesOfInt32 n)⟩
      | int64 => cases hmatches
      | bytes => cases hmatches
  | bytes b =>
      cases type with
      | bytes =>
          cases hpayload
          exact ⟨rfl, hmatches, rfl⟩
      | int64 => cases hmatches
      | int32 => cases hmatches

/-- A field that was written is read. -/
theorem decodeField_append {type : BulkType} {v : BulkValue}
    (hmatches : Matches type v) (index : Nat) {r : ByteReader} {more : Bytes}
    (hrest : r.rest = encodeField (payloadOf v) ++ more) :
    ∃ r', decodeField index type r = .ok (v, r') ∧ r'.rest = more := by
  unfold decodeField
  cases hpayload : payloadOf v with
  | none =>
      -- only null has no payload; its length reads as minus one
      have hnull : v = .null := by cases v <;> first | rfl | cases hpayload
      rw [hpayload] at hrest
      obtain ⟨r', hint, hrest'⟩ :=
        ByteReader.int_of_rest (n := 4) (k := -1) hrest rfl (by decide)
      refine ⟨r', ?_, hrest'⟩
      rw [hint, hnull, ok_bind]
      rfl
  | some payload =>
      obtain ⟨hfits, hlength, hfield⟩ :=
        fieldOfPayload_payloadOf hmatches hpayload
      rw [hpayload] at hrest
      have hrest₀ : r.rest
          = bytesOfNat 4 payload.length ++ (payload ++ more) := by
        rw [hrest]
        exact List.append_assoc ..
      obtain ⟨r₁, hint, hrest₁⟩ :=
        ByteReader.int_append hrest₀ (by omega)
      obtain ⟨r', htake, hrest'⟩ := ByteReader.take_append hrest₁ rfl
      refine ⟨r', ?_, hrest'⟩
      rw [hint, ok_bind]
      dsimp only
      rw [if_neg (by omega), if_neg (by omega), Int.toNat_natCast,
        if_pos hfits, htake, ok_bind, ← hfield]
      rfl

/-- The fields of a row are read one after the other. -/
theorem decodeFields_append {types : List BulkType} {row : BulkRow}
    (hmatches : List.Forall₂ Matches types row) :
    ∀ (index : Nat) {r : ByteReader} {more : Bytes},
      r.rest = (row.map payloadOf).flatMap encodeField ++ more →
      ∃ r', decodeFields index types r = .ok (row, r') ∧ r'.rest = more := by
  induction hmatches with
  | nil =>
      intro index r more hrest
      exact ⟨r, rfl, hrest⟩
  | @cons type v types row hfield _ ih =>
      intro index r more hrest
      have hrest₀ : r.rest = encodeField (payloadOf v)
          ++ ((row.map payloadOf).flatMap encodeField ++ more) := by
        rw [hrest]
        simp only [List.map_cons, List.flatMap_cons, List.append_assoc]
      obtain ⟨r₁, hdecode, hrest₁⟩ := decodeField_append hfield index hrest₀
      obtain ⟨r', hdecode', hrest'⟩ := ih (index + 1) hrest₁
      refine ⟨r', ?_, hrest'⟩
      unfold decodeFields
      rw [hdecode, ok_bind]
      dsimp only
      rw [hdecode', ok_bind]
      rfl

/-- A frame is read as the row that it was written for. -/
theorem decodeFrame_rowFrame {types : List BulkType} {row : BulkRow}
    (htypes : types.length < 2 ^ 15)
    (hmatches : List.Forall₂ Matches types row) :
    decodeFrame types (rowFrame row) = .ok (some row) := by
  have hcount : (row.map payloadOf).length = types.length := by
    rw [List.length_map, hmatches.length_eq]
  have hrest : (ByteReader.ofBytes (rowFrame row)).rest
      = bytesOfNat 2 types.length
        ++ ((row.map payloadOf).flatMap encodeField ++ []) := by
    rw [List.append_nil, ← hcount]
    rfl
  obtain ⟨r₁, hint, hrest₁⟩ := ByteReader.int_append hrest (by omega)
  obtain ⟨r', hdecode, hrest'⟩ := decodeFields_append hmatches 0 hrest₁
  unfold decodeFrame
  rw [hint, ok_bind]
  dsimp only
  rw [if_neg (by omega), if_neg (fun h => h rfl), hdecode, ok_bind]
  dsimp only
  rw [hrest']
  rfl

/-- Whatever follows its mark, the trailer has no row. -/
theorem decodeFrame_trailer (types : List BulkType) (more : Bytes) :
    decodeFrame types (trailer ++ more) = .ok none := by
  have hrest : (ByteReader.ofBytes (trailer ++ more)).rest
      = trailer ++ more := rfl
  obtain ⟨r', hint, -⟩ :=
    ByteReader.int_of_rest (n := 2) (k := -1) hrest rfl (by decide)
  unfold decodeFrame
  rw [hint, ok_bind]
  exact if_pos rfl

/-- A chunk that starts with the header goes on with what comes after it. -/
theorem Layout.bodyOf_header (l : Layout) (body : Bytes) :
    bodyOf (l.header ++ body) = .ok body := by
  have hrest : (ByteReader.ofBytes (l.header ++ body)).rest
      = l.lead ++ (bytesOfNat 4 l.extension.length
        ++ (l.extension ++ body)) := by
    show l.header ++ body = _
    unfold header
    simp only [List.append_assoc]
  have hlength := l.length_extension
  obtain ⟨r₁, htake, hrest₁⟩ := ByteReader.take_append hrest l.length_lead
  obtain ⟨r₂, hint, hrest₂⟩ := ByteReader.int_append hrest₁ (by omega)
  obtain ⟨r₃, htake', hrest₃⟩ := ByteReader.take_append hrest₂ rfl
  unfold bodyOf
  rw [htake, ok_bind]
  dsimp only
  rw [hint, ok_bind]
  dsimp only
  rw [if_neg (by omega), Int.toNat_natCast, htake', ok_bind, ← hrest₃]
  rfl

-- ================================================================== visiting

section

variable {σ : Type} {types : List BulkType}
  {visit : BulkRow → EStateM Error σ Unit}

/-- A frame with a row is visited with that row. -/
theorem visitFrame_row {frame : Bytes} {row : BulkRow} {s s' : σ}
    (hframe : decodeFrame types frame = .ok (some row))
    (hvisit : visit row s = .ok () s') :
    visitFrame types visit frame s = .ok 1 s' := by
  unfold visitFrame
  simp only [hframe, hvisit]

/-- A frame without a row is not visited. -/
theorem visitFrame_none {frame : Bytes} (s : σ)
    (hframe : decodeFrame types frame = .ok none) :
    visitFrame types visit frame s = .ok 0 s := by
  unfold visitFrame
  simp only [hframe]

/-- Frames are visited one after the other. -/
theorem visitFrames_cons {frame : Bytes} {rest : List Chunk} {n m : Nat}
    {s s₁ s₂ : σ} (hframe : visitFrame types visit frame s = .ok n s₁)
    (hrest : visitFrames types visit rest s₁ = .ok m s₂) :
    visitFrames types visit (.ok frame :: rest) s = .ok (n + m) s₂ := by
  show EStateM.bind _ _ s = _
  unfold EStateM.bind
  rw [hframe]
  show EStateM.bind _ _ s₁ = _
  unfold EStateM.bind
  rw [hrest]
  rfl

/-- Trailers are no rows. -/
theorem visitFrames_trailers (n : Nat) (s : σ) :
    visitFrames types visit ((List.replicate n trailer).map .ok) s
      = .ok 0 s := by
  induction n with
  | zero => rfl
  | succ n ih =>
      exact visitFrames_cons
        (visitFrame_none s (decodeFrame_trailer types [])) ih

/-- Every row is visited, in order, and counted. -/
theorem visitFrames_rows (htypes : types.length < 2 ^ 15)
    (n : Nat) {rows : List BulkRow}
    (hrows : ∀ row ∈ rows, List.Forall₂ Matches types row) {s s' : σ}
    (hvisit : rows.forM visit s = .ok () s') :
    visitFrames types visit
        ((rows.map rowFrame ++ List.replicate n trailer).map .ok) s
      = .ok rows.length s' := by
  induction rows generalizing s with
  | nil =>
      cases hvisit
      exact visitFrames_trailers n s'
  | cons row rows ih =>
      obtain ⟨s₁, hrow, hrest⟩ : ∃ s₁, visit row s = .ok () s₁
          ∧ rows.forM visit s₁ = .ok () s' := by
        change EStateM.bind (visit row) _ s = _ at hvisit
        unfold EStateM.bind at hvisit
        cases hx : visit row s with
        | ok x s₁ =>
            rw [hx] at hvisit
            exact ⟨s₁, rfl, hvisit⟩
        | error e s₁ =>
            rw [hx] at hvisit
            cases hvisit
      have hframe := decodeFrame_rowFrame htypes
        (hrows row (List.mem_cons_self ..))
      have hlater := ih (fun r hr => hrows r (List.mem_cons_of_mem _ hr)) hrest
      rw [List.length_cons, Nat.add_comm]
      exact visitFrames_cons (visitFrame_row hframe hrow) hlater

/-- A frame of a row is not empty. -/
theorem rowFrame_ne_nil (row : BulkRow) : rowFrame row ≠ [] := by
  intro h
  have hlength := congrArg List.length h
  unfold rowFrame encodeFrame at hlength
  rw [List.length_append, length_bytesOfNat] at hlength
  simp at hlength

/-- What follows the header in its chunk is visited like a frame. -/
theorem forEach_joined (l : Layout) {frame : Bytes} (hframe : frame ≠ [])
    (rest : List Chunk) :
    forEach types visit (.ok (l.header ++ frame) :: rest)
      = visitFrames types visit (.ok frame :: rest) := by
  obtain ⟨b, bytes, rfl⟩ := List.exists_cons_of_ne_nil hframe
  simp only [forEach, l.bodyOf_header]

/-- If nothing follows it, the frames are in the other chunks. -/
theorem forEach_header (l : Layout) (rest : List Chunk) :
    forEach types visit (.ok l.header :: rest)
      = visitFrames types visit rest := by
  have hbody : bodyOf l.header = .ok [] := by
    rw [← l.bodyOf_header [], List.append_nil]
  simp only [forEach, hbody]

/-- However an export is laid out, its frames are visited one after the
other. -/
theorem Layout.forEach_chunks (l : Layout) (rows : List BulkRow) :
    forEach types visit ((l.chunks rows).map .ok)
      = visitFrames types visit
          ((rows.map rowFrame ++ List.replicate l.trailers trailer).map
            .ok) := by
  unfold chunks
  cases rows with
  | nil => exact forEach_header l _
  | cons row rows =>
      cases hjoined : l.joined with
      | true =>
          simp only [List.map_cons, framed, hjoined, if_true,
            List.cons_append]
          exact forEach_joined l (rowFrame_ne_nil row) _
      | false =>
          simp only [List.map_cons, framed, hjoined, Bool.false_eq_true,
            if_false, List.cons_append]
          exact forEach_header l _

/-- Collecting rows one after the other collects them all. -/
theorem forM_collecting_pure (rows sofar : List BulkRow) (s : σ) :
    rows.forM (collecting fun row => pure row) (s, sofar)
      = .ok () (s, sofar ++ rows) := by
  induction rows generalizing sofar with
  | nil =>
      rw [List.append_nil]
      rfl
  | cons row rows ih =>
      rw [List.append_cons]
      exact ih (sofar ++ [row])

end

-- ============================================================== the round trip

/-- Decoding an export gives back the rows that it was written for, each
once and in order, however it is laid out; and a visitor that takes every row
is told how many there were. -/
theorem Layout.decode_chunks (l : Layout) {types : List BulkType}
    (htypes : types.length ≤ 32767) {rows : List BulkRow}
    (hrows : ∀ row ∈ rows, List.Forall₂ Matches types row) {σ : Type}
    (s : σ) :
    decode types (fun row => pure row) ((l.chunks rows).map .ok) s
        = .ok rows s
      ∧ ∀ (visit : BulkRow → EStateM Error σ Unit) (s' : σ),
        rows.forM visit s = .ok () s' →
        forEach types visit ((l.chunks rows).map .ok) s
          = .ok rows.length s' := by
  have hfits : types.length < 2 ^ 15 := by omega
  constructor
  · have hcollect : forEach types (collecting fun row => pure row)
        ((l.chunks rows).map .ok) (s, []) = .ok rows.length (s, rows) := by
      rw [l.forEach_chunks]
      exact visitFrames_rows hfits l.trailers hrows
        (forM_collecting_pure rows [] s)
    unfold decode
    rw [hcollect]
  · intro visit s' hvisit
    rw [l.forEach_chunks]
    exact visitFrames_rows hfits l.trailers hrows hvisit

/-- A layout with an extension, its first frame in the chunk of the header,
and two trailers. -/
def crowded : Layout :=
  { lead := signature ++ bytesOfNat 4 1, extension := [7, 0, 255]
    joined := true, trailers := 2
    length_lead := rfl, length_extension := by decide }

/-- The least and the greatest integers, bytes that are there but empty, and
nulls in the place of each type. -/
def extremes : List BulkRow :=
  [[.int64 Int64.minValue, .int32 (-1), .bytes []],
   [.int64 Int64.maxValue, .int32 Int32.minValue, .bytes [255, 255]],
   [.null, .null, .null]]

/-- The columns of `extremes`. -/
def extremeTypes : List BulkType := [.int64, .int32, .bytes]

/-- The rows of `extremes` can be written. -/
theorem extremes_match :
    ∀ row ∈ extremes, List.Forall₂ Matches extremeTypes row := by
  simp [extremes, extremeTypes, Matches]

/-- Those rows come back from that layout, and a visitor that adds up the
widths of the rows sees three of them. -/
theorem decode_crowded_extremes :
    decode extremeTypes (fun row => pure row)
        ((crowded.chunks extremes).map .ok) 0 = .ok extremes 0
      ∧ forEach extremeTypes (fun row n => .ok () (n + row.length))
          ((crowded.chunks extremes).map .ok) 0 = .ok 3 9 := by
  have h := crowded.decode_chunks (by decide) extremes_match 0
  exact ⟨h.1, h.2 _ _ rfl⟩

end DataAccess.Bulk
