/-
Fixed-width integers, written as bytes and read back. `bytesOfNat` keeps the
lowest bytes of a number and `natOfBytes` adds up what bytes write, so that
reading what was written gives the number back modulo the width
(`natOfBytes_bytesOfNat`). Everything that frames say about integers comes
down to this: a length that fits is read as it was written, and so is an
integer of sixty-four or thirty-two bits in two's complement.

The other way round, bytes are what is written for the number that they
write (`bytesOfNat_natOfBytes`). So as many bytes that are read as the same
integer are the same bytes (`intOfBytes_inj`): no integer has two written
forms.
-/
import DataAccess.Bulk.Word
import Mathlib.Tactic.Ring

namespace DataAccess.Bulk

-- ============================================================= the bytes

@[simp] theorem length_bytesOfNat (width n : Nat) :
    (bytesOfNat width n).length = width := by
  induction width with
  | zero => rfl
  | succ width ih =>
      show (bytesOfNat width n).length + 1 = width + 1
      rw [ih]

/-- What the bytes so far write counts as much as the bytes to come are
wide. -/
theorem foldl_bytes (bytes : List UInt8) (n : Nat) :
    bytes.foldl (fun n b => n * 256 + b.toNat) n
      = n * 256 ^ bytes.length + natOfBytes bytes := by
  unfold natOfBytes
  induction bytes generalizing n with
  | nil => simp
  | cons b bytes ih =>
      simp only [List.foldl_cons, List.length_cons]
      rw [ih, ih (0 * 256 + b.toNat)]
      ring

/-- The first byte is the most significant one. -/
theorem natOfBytes_cons (b : UInt8) (bytes : List UInt8) :
    natOfBytes (b :: bytes)
      = b.toNat * 256 ^ bytes.length + natOfBytes bytes := by
  show bytes.foldl (fun n b => n * 256 + b.toNat) (0 * 256 + b.toNat) = _
  rw [foldl_bytes]
  ring

-- ======================================================== writing, reading

/-- What is read is the number that was written, as far as it fits. -/
theorem natOfBytes_bytesOfNat (width n : Nat) :
    natOfBytes (bytesOfNat width n) = n % 256 ^ width := by
  induction width with
  | zero =>
      rw [Nat.pow_zero, Nat.mod_one]
      rfl
  | succ width ih =>
      show natOfBytes (UInt8.ofNat (n / 256 ^ width) :: bytesOfNat width n) = _
      have hsplit : n % 256 ^ (width + 1)
          = n % 256 ^ width + 256 ^ width * (n / 256 ^ width % 256) := by
        rw [Nat.pow_succ]
        exact Nat.mod_mul
      rw [natOfBytes_cons, length_bytesOfNat, ih, UInt8.toNat_ofNat', hsplit]
      ring

/-- A number below half of what fits is read as it was written. -/
theorem intOfBytes_bytesOfNat {width n : Nat} (h : 2 * n < 256 ^ width) :
    intOfBytes (bytesOfNat width n) = n := by
  have hn : n % 256 ^ width = n := Nat.mod_eq_of_lt (by omega)
  unfold intOfBytes
  rw [natOfBytes_bytesOfNat, hn, length_bytesOfNat]
  exact if_pos h

/-- A long integer is read as it was written, its sign included. -/
theorem int64OfBytes_bytesOfInt64 (n : Int64) :
    int64OfBytes (bytesOfInt64 n) = n := by
  have hfits : n.toUInt64.toNat % 256 ^ 8 = n.toUInt64.toNat :=
    Nat.mod_eq_of_lt n.toUInt64.toNat_lt
  unfold int64OfBytes bytesOfInt64
  rw [natOfBytes_bytesOfNat, hfits, UInt64.ofNat_toNat,
    Int64.toInt64_toUInt64]

/-- So is a short one. -/
theorem int32OfBytes_bytesOfInt32 (n : Int32) :
    int32OfBytes (bytesOfInt32 n) = n := by
  have hfits : n.toUInt32.toNat % 256 ^ 4 = n.toUInt32.toNat :=
    Nat.mod_eq_of_lt n.toUInt32.toNat_lt
  unfold int32OfBytes bytesOfInt32
  rw [natOfBytes_bytesOfNat, hfits, UInt32.ofNat_toNat,
    Int32.toInt32_toUInt32]

-- ======================================================== reading, writing

/-- Bytes write less than what does not fit any more. -/
theorem natOfBytes_lt (bytes : List UInt8) :
    natOfBytes bytes < 256 ^ bytes.length := by
  induction bytes with
  | nil => decide
  | cons b bytes ih =>
      have hb : b.toNat + 1 ≤ 256 := b.toNat_lt
      calc natOfBytes (b :: bytes)
          = b.toNat * 256 ^ bytes.length + natOfBytes bytes :=
            natOfBytes_cons b bytes
        _ < b.toNat * 256 ^ bytes.length + 256 ^ bytes.length := by omega
        _ = (b.toNat + 1) * 256 ^ bytes.length := by ring
        _ ≤ 256 * 256 ^ bytes.length := Nat.mul_le_mul_right _ hb
        _ = 256 ^ (b :: bytes).length := by
            rw [List.length_cons, Nat.pow_succ, Nat.mul_comm]

/-- What is beyond the width is not written. -/
theorem bytesOfNat_add_mul (width n k : Nat) :
    bytesOfNat width (k * 256 ^ width + n) = bytesOfNat width n := by
  induction width generalizing k with
  | zero => rfl
  | succ width ih =>
      have hpos : 0 < 256 ^ width := Nat.pow_pos (by decide)
      have hsplit : k * 256 ^ (width + 1) + n
          = (k * 256) * 256 ^ width + n := by ring
      have hdiv : ((k * 256) * 256 ^ width + n) / 256 ^ width
          = k * 256 + n / 256 ^ width := by
        rw [Nat.add_comm, Nat.add_mul_div_right _ _ hpos, Nat.add_comm]
      have hbyte : UInt8.ofNat (k * 256 + n / 256 ^ width)
          = UInt8.ofNat (n / 256 ^ width) := by
        rw [← UInt8.toNat_inj, UInt8.toNat_ofNat', UInt8.toNat_ofNat']
        omega
      show UInt8.ofNat ((k * 256 ^ (width + 1) + n) / 256 ^ width)
          :: bytesOfNat width (k * 256 ^ (width + 1) + n)
        = UInt8.ofNat (n / 256 ^ width) :: bytesOfNat width n
      rw [hsplit, hdiv, hbyte, ih]

/-- Bytes are what is written for their number. -/
theorem bytesOfNat_natOfBytes (bytes : List UInt8) :
    bytesOfNat bytes.length (natOfBytes bytes) = bytes := by
  induction bytes with
  | nil => rfl
  | cons b bytes ih =>
      have hpos : 0 < 256 ^ bytes.length := Nat.pow_pos (by decide)
      have hfirst : (b.toNat * 256 ^ bytes.length + natOfBytes bytes)
          / 256 ^ bytes.length = b.toNat := by
        rw [Nat.add_comm, Nat.add_mul_div_right _ _ hpos,
          Nat.div_eq_of_lt (natOfBytes_lt bytes), Nat.zero_add]
      rw [natOfBytes_cons]
      show UInt8.ofNat _ :: bytesOfNat bytes.length _ = _
      rw [hfirst, bytesOfNat_add_mul, ih, UInt8.ofNat_toNat]

/-- No number is written in two ways. -/
theorem natOfBytes_inj {bytes others : List UInt8}
    (hlength : bytes.length = others.length)
    (h : natOfBytes bytes = natOfBytes others) : bytes = others := by
  rw [← bytesOfNat_natOfBytes bytes, hlength, h, bytesOfNat_natOfBytes]

/-- Nor is an integer: the sign is told by the bytes as well. -/
theorem intOfBytes_inj {bytes others : List UInt8}
    (hlength : bytes.length = others.length)
    (h : intOfBytes bytes = intOfBytes others) : bytes = others := by
  have hfits := natOfBytes_lt bytes
  have hfits' := natOfBytes_lt others
  refine natOfBytes_inj hlength ?_
  unfold intOfBytes at h
  simp only [Nat.pow_eq, hlength] at h hfits
  split at h <;> split at h <;> omega

/-- Bytes that are read as a number are what is written for it, and it is
below half of what fits. -/
theorem eq_bytesOfNat_of_intOfBytes {bytes : List UInt8} {n : Nat}
    (h : intOfBytes bytes = n) :
    bytes = bytesOfNat bytes.length n ∧ 2 * n < 256 ^ bytes.length := by
  have hfits := natOfBytes_lt bytes
  have hhalf : 2 * n < 256 ^ bytes.length := by
    unfold intOfBytes at h
    simp only [Nat.pow_eq] at h
    split at h <;> omega
  refine ⟨intOfBytes_inj (length_bytesOfNat _ _).symm ?_, hhalf⟩
  rw [h, intOfBytes_bytesOfNat hhalf]

/-- Eight bytes are the bytes of the long integer that they write. -/
theorem bytesOfInt64_int64OfBytes {bytes : List UInt8}
    (h : bytes.length = 8) : bytesOfInt64 (int64OfBytes bytes) = bytes := by
  have hfits : natOfBytes bytes < 2 ^ 64 := by
    have := natOfBytes_lt bytes
    rw [h] at this
    omega
  unfold bytesOfInt64 int64OfBytes
  rw [UInt64.toUInt64_toInt64, UInt64.toNat_ofNat', Nat.mod_eq_of_lt hfits,
    ← h, bytesOfNat_natOfBytes]

/-- Four bytes are those of the short one. -/
theorem bytesOfInt32_int32OfBytes {bytes : List UInt8}
    (h : bytes.length = 4) : bytesOfInt32 (int32OfBytes bytes) = bytes := by
  have hfits : natOfBytes bytes < 2 ^ 32 := by
    have := natOfBytes_lt bytes
    rw [h] at this
    omega
  unfold bytesOfInt32 int32OfBytes
  rw [UInt32.toUInt32_toInt32, UInt32.toNat_ofNat', Nat.mod_eq_of_lt hfits,
    ← h, bytesOfNat_natOfBytes]

end DataAccess.Bulk
