/-
Frames that are accepted. The frame of a row is its canonical encoding, and
no other bytes are read as that row; the trailer is known by its first two
bytes; everything else is refused, and the error has the bytes
(`readFrame_canonical`).

# The argument

`RoundTrip` says that what was written is read. Here each piece has the
converse: if reading gives something, then the rest began with the written
form of it, and what is left is what came after. An integer has one written
form of a given width (`intOfBytes_inj`), and a payload is what its value
writes; so field by field nothing else could have stood there. As a whole
frame has to be used up, it is the frame of its row.
-/
import DataAccess.Bulk.Export
import DataAccess.Proofs.Bulk.Bounds
import DataAccess.Proofs.Bulk.RoundTrip
import DataAccess.Proofs.Session.Running

namespace DataAccess.Bulk

/-- Bytes are the canonical encoding of a row for columns of the types: the
number of fields, then for each field its length and its payload, or minus
one for null, and nothing after. -/
structure Canonical (types : List BulkType) (row : BulkRow) (frame : Bytes) :
    Prop where
  /-- There are as many columns as two bytes with a sign can count. -/
  countable : types.length < 2 ^ 15
  matching : List.Forall₂ Matches types row
  written : frame = rowFrame row

-- ============================================================ what was read

namespace ByteReader

variable {r r' : ByteReader}

/-- Bytes that were taken stood in front of what is left. -/
theorem rest_of_take {bytes : Bytes} {n : Nat}
    (h : r.take n = .ok (bytes, r')) :
    r.rest = bytes ++ r'.rest ∧ bytes.length = n := by
  unfold take at h
  dsimp only at h
  split at h
  · next hfits =>
    cases h
    refine ⟨?_, List.length_take_of_le hfits⟩
    rw [rest_advance, List.take_append_drop]
  · cases h

/-- An integer that was read stood there in as many bytes. -/
theorem rest_of_int {n : Nat} {k : Int} (h : r.int n = .ok (k, r')) :
    ∃ bytes : Bytes, r.rest = bytes ++ r'.rest ∧ bytes.length = n
      ∧ intOfBytes bytes = k := by
  unfold int at h
  obtain ⟨⟨bytes, r₁⟩, htake, hpure⟩ := Except.bind_eq_ok_iff.mp h
  cases hpure
  obtain ⟨hrest, hlength⟩ := rest_of_take htake
  exact ⟨bytes, hrest, hlength, rfl⟩

end ByteReader

/-- Minus one is written with ones only. -/
theorem eq_replicate_of_intOfBytes {bytes : Bytes} {n : Nat}
    (hlength : bytes.length = n) (h : intOfBytes bytes = -1)
    (hones : intOfBytes (List.replicate n 0xFF) = -1) :
    bytes = List.replicate n 0xFF := by
  refine intOfBytes_inj ?_ (h.trans hones.symm)
  rw [hlength, List.length_replicate]

/-- A payload whose length its type allows is the payload of its value. -/
theorem payloadOf_fieldOfPayload {type : BulkType} {payload : Bytes}
    (hfits : fits type payload.length = true)
    (hlength : payload.length < 2 ^ 31) :
    Matches type (fieldOfPayload type payload)
      ∧ payloadOf (fieldOfPayload type payload) = some payload := by
  cases type with
  | int64 =>
      have hwidth : payload.length = 8 := (beq_iff_eq.mp hfits).symm
      exact ⟨trivial, congrArg some (bytesOfInt64_int64OfBytes hwidth)⟩
  | int32 =>
      have hwidth : payload.length = 4 := (beq_iff_eq.mp hfits).symm
      exact ⟨trivial, congrArg some (bytesOfInt32_int32OfBytes hwidth)⟩
  | bytes => exact ⟨hlength, rfl⟩

section

variable {types : List BulkType} {r r' : ByteReader}

/-- A field that was read is of the type of its column, and stood there as
it is written. -/
theorem rest_of_decodeField {index : Nat} {type : BulkType} {v : BulkValue}
    (h : decodeField index type r = .ok (v, r')) :
    Matches type v ∧ r.rest = encodeField (payloadOf v) ++ r'.rest := by
  unfold decodeField at h
  obtain ⟨⟨length, r₁⟩, hint, hpayload⟩ := Except.bind_eq_ok_iff.mp h
  obtain ⟨bytes, hrest, hwidth, hlength⟩ := ByteReader.rest_of_int hint
  dsimp only at hpayload
  split at hpayload
  · next hnull =>
    cases hpayload
    rw [hnull] at hlength
    have hones : bytes = encodeField none :=
      eq_replicate_of_intOfBytes hwidth hlength (by decide)
    refine ⟨?_, hones ▸ hrest⟩
    cases type <;> exact trivial
  next hnull =>
  split at hpayload
  · cases hpayload
  next hsign =>
  split at hpayload
  · next hfits =>
    obtain ⟨⟨payload, r₂⟩, htake, hpure⟩ := Except.bind_eq_ok_iff.mp hpayload
    cases hpure
    obtain ⟨hrest₁, hcount⟩ := ByteReader.rest_of_take htake
    rw [← hcount] at hfits
    have hnat : intOfBytes bytes = (payload.length : Int) := by omega
    obtain ⟨hbytes, hhalf⟩ := eq_bytesOfNat_of_intOfBytes hnat
    rw [hwidth] at hbytes hhalf
    obtain ⟨hmatches, hvalue⟩ := payloadOf_fieldOfPayload hfits (by omega)
    refine ⟨hmatches, ?_⟩
    rw [hvalue, hrest, hbytes, hrest₁]
    exact (List.append_assoc ..).symm
  · cases hpayload

/-- So are the fields of a row, one after the other. -/
theorem rest_of_decodeFields {index : Nat} {row : BulkRow}
    (h : decodeFields index types r = .ok (row, r')) :
    List.Forall₂ Matches types row
      ∧ r.rest = (row.map payloadOf).flatMap encodeField ++ r'.rest := by
  induction types generalizing index r row with
  | nil =>
      cases h
      exact ⟨.nil, rfl⟩
  | cons type types ih =>
      unfold decodeFields at h
      obtain ⟨⟨v, r₁⟩, hfield, hmore⟩ := Except.bind_eq_ok_iff.mp h
      obtain ⟨⟨row', r₂⟩, hfields, hpure⟩ := Except.bind_eq_ok_iff.mp hmore
      cases hpure
      obtain ⟨hmatches, hrest⟩ := rest_of_decodeField hfield
      obtain ⟨hmatching, hrest₁⟩ := ih hfields
      refine ⟨.cons hmatches hmatching, ?_⟩
      rw [hrest, hrest₁, List.map_cons, List.flatMap_cons, List.append_assoc]

-- ================================================================== frames

/-- What a frame was read as, if it was read. -/
theorem decodeFrame_eq_ok {frame : Bytes} {found : Option BulkRow}
    (h : decodeFrame types frame = .ok found) :
    (found = none ∧ ∃ more, frame = trailer ++ more)
      ∨ ∃ row, found = some row ∧ Canonical types row frame := by
  unfold decodeFrame at h
  obtain ⟨⟨count, r₁⟩, hint, hrow⟩ := Except.bind_eq_ok_iff.mp h
  obtain ⟨bytes, hrest, hwidth, hcount⟩ := ByteReader.rest_of_int hint
  have hframe : frame = bytes ++ r₁.rest := hrest
  dsimp only at hrow
  split at hrow
  · next hend =>
    cases hrow
    rw [hend] at hcount
    have hones : bytes = trailer :=
      eq_replicate_of_intOfBytes hwidth hcount (by decide)
    exact .inl ⟨rfl, r₁.rest, hones ▸ hframe⟩
  split at hrow
  · cases hrow
  next hmany =>
  obtain ⟨⟨row, r₂⟩, hfields, hlast⟩ := Except.bind_eq_ok_iff.mp hrow
  dsimp only at hlast
  split at hlast
  · next hempty =>
    cases hlast
    obtain ⟨hmatching, hrest₁⟩ := rest_of_decodeFields hfields
    have hnat : intOfBytes bytes = (types.length : Int) := by omega
    obtain ⟨hbytes, hhalf⟩ := eq_bytesOfNat_of_intOfBytes hnat
    rw [hwidth] at hbytes hhalf
    refine .inr ⟨row, rfl, by omega, hmatching, ?_⟩
    rw [hframe, hbytes, hrest₁, List.isEmpty_iff.mp hempty, List.append_nil,
      hmatching.length_eq]
    unfold rowFrame encodeFrame
    rw [List.length_map]
  · cases hlast

theorem readFrame_eq_ok_iff {frame : Bytes} {found : Option BulkRow} :
    readFrame types frame = .ok found
      ↔ decodeFrame types frame = .ok found :=
  Except.mapError_eq_ok_iff

/-- A frame that is refused is shown by the error. -/
theorem readFrame_eq_error {frame : Bytes} {e : Error}
    (h : readFrame types frame = .error e) :
    ∃ fault, decodeFrame types frame = .error fault
      ∧ e = .decode (.frame fault) frame := by
  unfold readFrame at h
  cases hframe : decodeFrame types frame with
  | ok found =>
      rw [hframe] at h
      cases h
  | error fault =>
      rw [hframe] at h
      cases h
      exact ⟨fault, rfl, rfl⟩

/-- A row is read exactly from its canonical encoding, no row exactly from
what begins with the mark of the trailer, and in every other case there is a
decode error with the bytes of the frame. Reading never leaves the frame,
never takes too much from a number, and never copies a payload of another
width. -/
theorem readFrame_canonical (types : List BulkType) (frame : Bytes) :
    (∀ row, readFrame types frame = .ok (some row)
        ↔ Canonical types row frame)
      ∧ (readFrame types frame = .ok none
        ↔ ∃ more, frame = 0xFF :: 0xFF :: more)
      ∧ ((∀ row, ¬Canonical types row frame) →
        (¬∃ more, frame = 0xFF :: 0xFF :: more) →
        ∃ fault, readFrame types frame = .error (.decode (.frame fault) frame))
      ∧ (decodeFrame? types frame).run = some (decodeFrame types frame) := by
  have hrow : ∀ row, readFrame types frame = .ok (some row)
      ↔ Canonical types row frame := by
    intro row
    rw [readFrame_eq_ok_iff]
    constructor
    · intro h
      rcases decodeFrame_eq_ok h with ⟨hnone, -⟩ | ⟨row', hsome, hcanonical⟩
      · cases hnone
      · cases hsome
        exact hcanonical
    · rintro ⟨hcountable, hmatching, rfl⟩
      exact decodeFrame_rowFrame hcountable hmatching
  have hnone : readFrame types frame = .ok none
      ↔ ∃ more, frame = 0xFF :: 0xFF :: more := by
    rw [readFrame_eq_ok_iff]
    constructor
    · intro h
      rcases decodeFrame_eq_ok h with ⟨-, hmark⟩ | ⟨row, hsome, -⟩
      · exact hmark
      · cases hsome
    · rintro ⟨more, rfl⟩
      exact decodeFrame_trailer types more
  -- what is neither a row nor the trailer cannot have been read
  refine ⟨hrow, hnone, fun hnorow hnomark => ?_, decodeFrame?_eq types frame⟩
  cases hread : readFrame types frame with
  | ok found =>
      cases found with
      | none => exact absurd (hnone.mp hread) hnomark
      | some row => exact absurd ((hrow row).mp hread) (hnorow row)
  | error e =>
      obtain ⟨fault, -, rfl⟩ := readFrame_eq_error hread
      exact ⟨fault, rfl⟩

end

end DataAccess.Bulk
