/-
A scan over bytes finds the segments of the characters. The bytes of a
character outside of ASCII are all above ASCII, so no class of bytes that
the scan asks for tells two of them apart (`Reads`): where a class of bytes
reads a class of characters, a run of such bytes is the bytes of a run of
such characters (`takeWhile_bytesOf`).

# The argument

What a scan does at an index depends on the bytes from there on; `run_cons`
says what it does, and `run_ascii` says the same of characters. A scan that
stands before the bytes of some characters goes on to the end of their first
segment. By induction on the segments (`run_segmented`) it leaves behind
what they leave there, and never cuts inside of a character, since a segment
ends between two.
-/
import DataAccess.Statement.Rewriting
import DataAccess.Proofs.Statement.Segments

namespace DataAccess

-- ========================================================= characters as bytes

/-- The bytes of some characters. -/
def bytesOf (cs : List Char) : List UInt8 :=
  cs.flatMap String.utf8EncodeChar

@[simp]
theorem bytesOf_nil : bytesOf [] = [] := rfl

@[simp]
theorem bytesOf_cons (c : Char) (cs : List Char) :
    bytesOf (c :: cs) = String.utf8EncodeChar c ++ bytesOf cs :=
  List.flatMap_cons

@[simp]
theorem bytesOf_append (cs ds : List Char) :
    bytesOf (cs ++ ds) = bytesOf cs ++ bytesOf ds :=
  List.flatMap_append

/-- How many bytes some characters have. -/
def width (cs : List Char) : Nat :=
  (bytesOf cs).length

theorem width_nil : width [] = 0 := rfl

theorem width_append (cs ds : List Char) :
    width (cs ++ ds) = width cs + width ds := by
  simp [width]

/-- The width of characters is what a text of them takes. -/
theorem utf8ByteSize_ofList (cs : List Char) :
    (String.ofList cs).utf8ByteSize = width cs := by
  simp [← String.size_toByteArray, width, bytesOf, List.utf8Encode]

/-- The bytes of a text are those of its characters. -/
theorem toList_data_toUTF8 (sql : String) :
    sql.toUTF8.data.toList = bytesOf sql.toList := by
  obtain ⟨cs, rfl⟩ := sql.exists_eq_ofList
  simp [bytesOf, List.utf8Encode]

/-- A character of ASCII is one byte. -/
theorem utf8EncodeChar_ascii {c : Char} (h : c.toNat < 128) :
    String.utf8EncodeChar c = [UInt8.ofNat c.toNat] :=
  if_pos (Nat.le_of_lt_succ h)

theorem width_cons_ascii {c : Char} (h : c.toNat < 128) (cs : List Char) :
    width (c :: cs) = width cs + 1 := by
  simp [width, utf8EncodeChar_ascii h]

/-- Any other character has bytes above ASCII only. -/
theorem le_of_mem_utf8EncodeChar {c : Char} (h : ¬c.toNat < 128) {b : UInt8}
    (hb : b ∈ String.utf8EncodeChar c) : 128 ≤ b.toNat := by
  have hgt : ¬c.val.toNat ≤ 127 := fun hle => h (Nat.lt_succ_of_le hle)
  unfold String.utf8EncodeChar at hb
  dsimp only at hb
  rw [if_neg hgt] at hb
  split at hb <;> try split at hb
  all_goals
    simp only [List.mem_cons, List.not_mem_nil, or_false] at hb
    rcases hb with rfl | rfl | rfl | rfl <;>
      simp only [UInt8.toNat_ofNat'] <;> omega

-- ========================================================== classes of bytes

/-- Every byte of a character is in the class of bytes exactly if the
character is in the class of characters. -/
def Reads (P : UInt8 → Bool) (p : Char → Bool) : Prop :=
  ∀ c, ∀ b ∈ String.utf8EncodeChar c, P b = p c

section

variable {P : UInt8 → Bool} {p : Char → Bool}

/-- What is above ASCII has to be in one class altogether. -/
theorem Reads.of_ascii (outside : Bool)
    (hascii : ∀ c : Char, c.toNat < 128 → P (UInt8.ofNat c.toNat) = p c)
    (hbyte : ∀ b : UInt8, 128 ≤ b.toNat → P b = outside)
    (hchar : ∀ c : Char, ¬c.toNat < 128 → p c = outside) : Reads P p := by
  intro c b hb
  by_cases hc : c.toNat < 128
  · rw [utf8EncodeChar_ascii hc, List.mem_singleton] at hb
    rw [hb, hascii c hc]
  · rw [hbyte b (le_of_mem_utf8EncodeChar hc hb), hchar c hc]

/-- What reads alike reads alike when it is negated. -/
theorem Reads.not (h : Reads P p) : Reads (fun b => !P b) (fun c => !p c) :=
  fun c b hb => congrArg (!·) (h c b hb)

theorem Reads.or {Q : UInt8 → Bool} {q : Char → Bool} (h : Reads P p)
    (h' : Reads Q q) : Reads (fun b => P b || Q b) (fun c => p c || q c) :=
  fun c b hb => congrArg₂ (· || ·) (h c b hb) (h' c b hb)

/-- An ASCII character is its own byte. -/
theorem toNat_ofNat_ascii {c : Char} (h : c.toNat < 128) :
    (UInt8.ofNat c.toNat).toNat = c.toNat := by
  rw [UInt8.toNat_ofNat']
  omega

/-- One character of ASCII. -/
theorem reads_beq {d : Char} (hd : d.toNat < 128) :
    Reads (· == UInt8.ofNat d.toNat) (· == d) := by
  refine .of_ascii false (fun c hc => ?_) (fun b hb => ?_) (fun c hc => ?_)
  · rw [Bool.eq_iff_iff, beq_iff_eq, beq_iff_eq, ← UInt8.toNat_inj,
      toNat_ofNat_ascii hc, toNat_ofNat_ascii hd, Char.toNat_inj]
  · rw [beq_eq_false_iff_ne]
    rintro rfl
    rw [toNat_ofNat_ascii hd] at hb
    omega
  · rw [beq_eq_false_iff_ne]
    rintro rfl
    exact hc hd

/-- A class of ASCII, if every byte is read as a character. -/
theorem reads_ofUInt8 (hp : ∀ c : Char, ¬c.toNat < 128 → p c = false) :
    Reads (fun b => p (Char.ofUInt8 b)) p := by
  refine .of_ascii false (fun c hc => ?_) (fun b hb => hp _ ?_) hp
  · have hc' : Char.ofUInt8 (UInt8.ofNat c.toNat) = c := by
      rw [← Char.toNat_inj]
      exact toNat_ofNat_ascii hc
    rw [hc']
  · exact Nat.not_lt.mpr hb

/-- A byte is taken for a quote where the character is one. -/
theorem reads_isQuote : Reads isQuoteByte isQuote :=
  (reads_beq (d := '\'') (by decide)).or (reads_beq (d := '"') (by decide))

/-- Quotes are ASCII. -/
theorem ascii_of_isQuote {c : Char} (h : isQuote c = true) :
    c.toNat < 128 := by
  rcases (Bool.or_eq_true ..).mp h with h | h <;>
    rw [beq_iff_eq.mp h] <;> decide

theorem reads_isColon : Reads isColonByte (· == ':') :=
  reads_beq (d := ':') (by decide)

/-- Beyond ASCII nothing is taken for part of a name. -/
theorem not_isWordChar_of_not_ascii {c : Char} (h : ¬c.toNat < 128) :
    Text.isWordChar c = false := by
  have hletters : ∀ d : Char, d.toNat < 128 → ¬c ≤ d :=
    fun d hd hle => h (Nat.lt_of_le_of_lt hle hd)
  have hline : c ≠ '_' := by
    rintro rfl
    exact h (by decide)
  simp [Text.isWordChar, Text.isLetter, Text.isDigit, hline,
    hletters 'z' (by decide), hletters 'Z' (by decide),
    hletters '9' (by decide)]

theorem reads_isWordChar : Reads isWordByte Text.isWordChar :=
  reads_ofUInt8 fun _ => not_isWordChar_of_not_ascii

/-- The first character of a name is no digit, as a byte either. -/
theorem reads_isWordStart : Reads isWordStartByte Text.isWordStart := by
  refine reads_ofUInt8 fun c hc => ?_
  cases hstart : Text.isWordStart c with
  | false => rfl
  | true =>
      rw [← Text.isWordChar_of_isWordStart hstart]
      exact not_isWordChar_of_not_ascii hc

/-- A run of bytes of a class is the bytes of a run of characters. -/
theorem takeWhile_bytesOf (h : Reads P p) (cs : List Char) :
    (bytesOf cs).takeWhile P = bytesOf (cs.takeWhile p) := by
  induction cs with
  | nil => rfl
  | cons c cs ih =>
      rw [bytesOf_cons]
      cases hc : p c with
      | true =>
          have hall : ∀ b ∈ String.utf8EncodeChar c, P b = true :=
            fun b hb => (h c b hb).trans hc
          rw [List.takeWhile_append_of_pos hall, ih,
            List.takeWhile_cons_of_pos hc, bytesOf_cons]
      | false =>
          obtain ⟨b, bs, hbs⟩ :=
            List.exists_cons_of_ne_nil (String.utf8EncodeChar_ne_nil (c := c))
          have hb : P b = false := by
            rw [← hc]
            exact h c b (hbs ▸ List.mem_cons_self ..)
          rw [hbs, List.cons_append, List.takeWhile_cons_of_neg (by simp [hb]),
            List.takeWhile_cons_of_neg (by simp [hc]), bytesOf_nil]

/-- The first byte is read as the first character is. -/
theorem any_head?_bytesOf (h : Reads P p) (cs : List Char) :
    (bytesOf cs).head?.any P = cs.head?.any p := by
  cases cs with
  | nil => rfl
  | cons c cs =>
      obtain ⟨b, bs, hbs⟩ :=
        List.exists_cons_of_ne_nil (String.utf8EncodeChar_ne_nil (c := c))
      rw [bytesOf_cons, hbs]
      exact h c b (hbs ▸ List.mem_cons_self ..)

end

-- ============================================================== at an index

/-- The bytes from an index on. -/
def bytesFrom (bytes : ByteArray) (i : Nat) : List UInt8 :=
  bytes.data.toList.drop i

section

variable {bytes : ByteArray} {i : Nat}

theorem bytesFrom_add (n : Nat) :
    bytesFrom bytes (i + n) = (bytesFrom bytes i).drop n :=
  List.drop_drop.symm

/-- Before the end there is a byte, and the bytes after it. -/
theorem bytesFrom_of_lt (h : i < bytes.size) :
    bytesFrom bytes i = bytes[i] :: bytesFrom bytes (i + 1) :=
  List.drop_eq_getElem_cons (by exact h)

theorem bytesFrom_of_not_lt (h : ¬i < bytes.size) :
    bytesFrom bytes i = [] :=
  List.drop_eq_nil_of_le (Nat.le_of_not_lt h)

/-- Looking at a place looks at the first of the bytes that are left. -/
theorem byteIs_eq (p : UInt8 → Bool) :
    byteIs p bytes i = (bytesFrom bytes i).head?.any p := by
  unfold byteIs
  split
  case isTrue h => rw [bytesFrom_of_lt h]; rfl
  case isFalse h => rw [bytesFrom_of_not_lt h]; rfl

/-- What is skipped is the run of such bytes from the index on. -/
theorem skipWhile_eq (p : UInt8 → Bool) :
    skipWhile p bytes i
      = i + ((bytesFrom bytes i).takeWhile p).length := by
  fun_induction skipWhile p bytes i with
  | case1 i h hp ih =>
      rw [ih, bytesFrom_of_lt h, List.takeWhile_cons_of_pos hp,
        List.length_cons]
      omega
  | case2 i h hp =>
      rw [bytesFrom_of_lt h, List.takeWhile_cons_of_neg hp]
      rfl
  | case3 i h =>
      rw [bytesFrom_of_not_lt h]
      rfl

end

namespace TokenScan

variable {sql : String} {bytes : ByteArray} {i : Nat} {s : TokenScan}

/-- At the end a scan is over. -/
theorem run_nil (h : bytesFrom bytes i = []) : run sql bytes i s = some s := by
  have hend : ¬i < bytes.size := by
    intro hlt
    rw [bytesFrom_of_lt hlt] at h
    cases h
  rw [run, dif_neg hend]

/-- Where a scan goes on depends on the byte it is at, and on the bytes
after that. -/
theorem run_cons {b : UInt8} {more : List UInt8}
    (h : bytesFrom bytes i = b :: more) :
    run sql bytes i s =
      if isQuoteByte b then
        run sql bytes (i + 1 + (more.takeWhile (· != b)).length + 1) s
      else if isColonByte b && more.head?.any isColonByte then
        run sql bytes (i + 2) s
      else if isColonByte b && more.head?.any isWordStartByte then
        (s.token? sql i (i + 1 + (more.takeWhile isWordByte).length)).bind
          (run sql bytes (i + 1 + (more.takeWhile isWordByte).length))
      else run sql bytes (i + 1) s := by
  have hlt : i < bytes.size := by
    by_contra hend
    rw [bytesFrom_of_not_lt hend] at h
    cases h
  rw [bytesFrom_of_lt hlt] at h
  obtain ⟨rfl, rfl⟩ := List.cons.inj h
  rw [run, dif_pos hlt]
  simp only [byteIs_eq, skipWhile_eq]
  cases s.token? sql i
    (i + 1 + ((bytesFrom bytes (i + 1)).takeWhile isWordByte).length) <;> rfl

theorem any_beq_iff {o : Option Char} {c : Char} :
    o.any (· == c) = true ↔ o = some c := by
  cases o <;> simp

/-- A character of ASCII is one byte, so the same holds of characters. -/
theorem run_ascii {c : Char} {rest : List Char} (hc : c.toNat < 128)
    (h : bytesFrom bytes i = bytesOf (c :: rest)) :
    run sql bytes i s =
      if isQuote c then
        run sql bytes (i + 1 + width (rest.takeWhile (· != c)) + 1) s
      else if c = ':' ∧ rest.head? = some ':' then
        run sql bytes (i + 2) s
      else if c = ':' ∧ rest.head?.any Text.isWordStart then
        (s.token? sql i
            (i + 1 + width (rest.takeWhile Text.isWordChar))).bind
          (run sql bytes (i + 1 + width (rest.takeWhile Text.isWordChar)))
      else run sql bytes (i + 1) s := by
  have hmem : UInt8.ofNat c.toNat ∈ String.utf8EncodeChar c := by
    rw [utf8EncodeChar_ascii hc]
    exact List.mem_singleton_self _
  rw [bytesOf_cons, utf8EncodeChar_ascii hc, List.singleton_append] at h
  rw [run_cons h, reads_isQuote c _ hmem, reads_isColon c _ hmem,
    any_head?_bytesOf reads_isColon, any_head?_bytesOf reads_isWordStart,
    takeWhile_bytesOf reads_isWordChar]
  have hquoted := takeWhile_bytesOf (reads_beq hc).not rest
  simp only [bne, hquoted, width, Bool.and_eq_true, beq_iff_eq, any_beq_iff]

/-- Bytes that start nothing are passed over. -/
theorem run_append {bs more : List UInt8}
    (hplain : ∀ b ∈ bs, isQuoteByte b = false ∧ isColonByte b = false)
    (h : bytesFrom bytes i = bs ++ more) :
    run sql bytes i s = run sql bytes (i + bs.length) s := by
  induction bs generalizing i with
  | nil => rfl
  | cons b bs ih =>
      obtain ⟨hquote, hcolon⟩ := hplain b (List.mem_cons_self ..)
      have hnext : bytesFrom bytes (i + 1) = bs ++ more := by
        rw [bytesFrom_add, h]
        rfl
      rw [run_cons h, hquote, hcolon, Bool.false_and, Bool.false_and]
      simp only [Bool.false_eq_true, if_false]
      rw [ih (fun b' hb' => hplain b' (List.mem_cons_of_mem _ hb')) hnext,
        List.length_cons, Nat.add_assoc, Nat.add_comm 1]

/-- So is a character that starts nothing, whatever its bytes. -/
theorem run_other {c : Char} {rest : List Char} (hquote : isQuote c = false)
    (hcolon : c = ':' →
      ∀ d ∈ rest.head?, d ≠ ':' ∧ Text.isWordStart d = false)
    (h : bytesFrom bytes i = bytesOf (c :: rest)) :
    run sql bytes i s = run sql bytes (i + width [c]) s := by
  by_cases hc : c = ':'
  · have hascii : c.toNat < 128 := by rw [hc]; decide
    have hcast : ¬(c = ':' ∧ rest.head? = some ':') :=
      fun h => (hcolon hc _ h.2).1 rfl
    have hstart : ¬(c = ':' ∧ rest.head?.any Text.isWordStart = true) := by
      rintro ⟨-, hany⟩
      obtain ⟨d, hd, hstart⟩ := (Option.any_eq_true _ _).mp hany
      rw [(hcolon hc d hd).2] at hstart
      cases hstart
    rw [run_ascii hascii h, if_neg (by simp [hquote]), if_neg hcast,
      if_neg hstart, width_cons_ascii hascii, width_nil]
  · have hwidth : width [c] = (String.utf8EncodeChar c).length := by
      simp [width]
    rw [bytesOf_cons] at h
    rw [hwidth]
    refine run_append (fun b hb => ⟨?_, ?_⟩) h
    · rw [reads_isQuote c b hb, hquote]
    · rw [reads_isColon c b hb]
      exact beq_eq_false_iff_ne.mpr hc

end TokenScan

-- ===================================================================== cutting

/-- The width of what stands before it is a place between characters. -/
theorem isValid_width {text : String} {cs ds : List Char}
    (h : text.toList = cs ++ ds) :
    String.Pos.Raw.IsValid text ⟨width cs⟩ := by
  rw [String.Pos.Raw.isValid_iff_exists_append]
  refine ⟨.ofList cs, .ofList ds, ?_, ?_⟩
  · rw [← String.toList_inj, h]
    simp
  · rw [String.Pos.Raw.ext_iff]
    exact (utf8ByteSize_ofList cs).symm

/-- A cut between characters gives the characters in between. -/
theorem slice?_width {text : String} {before cs after : List Char}
    (h : text.toList = before ++ (cs ++ after)) :
    slice? text (width before) (width (before ++ cs))
      = some (.ofList cs) := by
  have hle : width before ≤ width (before ++ cs) := by
    rw [width_append]
    omega
  have hstop := isValid_width (h.trans (List.append_assoc ..).symm)
  unfold slice?
  rw [dif_pos ⟨hle, isValid_width h, hstop⟩]
  congr 1
  obtain rfl : text = .ofList (before ++ (cs ++ after)) := by
    rw [← String.toList_inj, h, String.toList_ofList]
  have hsize : ∀ cs : List Char, cs.utf8Encode.size = width cs := by
    simp [width, bytesOf, List.utf8Encode]
  rw [← String.toByteArray_inj, String.toByteArray_extract]
  simp only [String.toByteArray_ofList, List.utf8Encode_append]
  have hcut := ByteArray.extract_append_size_add (a := before.utf8Encode)
    (b := cs.utf8Encode ++ after.utf8Encode) (i := 0) (j := width cs)
  rw [Nat.add_zero, hsize] at hcut
  rw [width_append, hcut]
  exact ByteArray.extract_append_eq_left (hsize cs).symm

-- ====================================================== the segments of a scan

namespace TokenScan

variable {sql : String}

/-- What is before an index in characters leaves the rest in bytes. -/
theorem bytesFrom_width {done rest : List Char}
    (h : sql.toList = done ++ rest) :
    bytesFrom sql.toUTF8 (width done) = bytesOf rest := by
  unfold bytesFrom
  rw [toList_data_toUTF8, h, bytesOf_append]
  exact List.drop_left

/-- At the end, what is pending is taken over as it stands. -/
theorem finish?_eq {done pending : List Char} {s : TokenScan}
    (hsql : sql.toList = done ++ pending) (hlast : s.last = width done) :
    finish? sql s = some (s.out ++ .ofList pending, s.names) := by
  have hsize : sql.utf8ByteSize = width (done ++ pending) := by
    rw [← hsql, ← utf8ByteSize_ofList, String.ofList_toList]
  have hrest : sql.toList = done ++ (pending ++ []) := by
    rw [hsql, List.append_nil]
  unfold finish?
  rw [hlast, hsize, slice?_width hrest]
  rfl

/-- A name is taken out, and what is pending before it is taken over. -/
theorem token?_eq {done pending name rest : List Char} {s : TokenScan}
    (hsql : sql.toList = done ++ (pending ++ ':' :: (name ++ rest)))
    (hlast : s.last = width done) :
    s.token? sql (width (done ++ pending))
        (width (done ++ pending) + 1 + width name)
      = some
        { out := s.out ++ .ofList pending ++ "?"
          names := s.names ++ [.ofList name]
          last := width (done ++ pending) + 1 + width name } := by
  have hcolon : width (done ++ pending) + 1
      = width (done ++ (pending ++ [':'])) := by
    simp [width_append, width_cons_ascii (c := ':') (by decide), width_nil,
      Nat.add_assoc]
  have hname : sql.toList = (done ++ (pending ++ [':'])) ++ (name ++ rest) := by
    simp [hsql]
  unfold token?
  rw [hlast, slice?_width hsql, hcolon, ← width_append, slice?_width hname]
  rfl

/-- A scan that stands before some characters, with all before them noted
except for the `pending` ones, leaves what their segments leave. -/
theorem run_segmented {rest : List Char} {segments : List Segment}
    (h : Segmented rest segments) :
    ∀ {done pending : List Char} {s : TokenScan},
      sql.toList = done ++ (pending ++ rest) → s.last = width done →
      (run sql sql.toUTF8 (width (done ++ pending)) s).bind (finish? sql)
        = some (s.out ++ .ofList (pending ++ segments.flatMap Segment.placed),
            s.names ++ (segments.filterMap Segment.name?).map .ofList) := by
  induction h with
  | nil =>
      intro done pending s hsql hlast
      have hfrom := bytesFrom_width (hsql.trans (List.append_assoc ..).symm)
      rw [List.append_nil] at hsql
      rw [run_nil hfrom, Option.bind_some, finish?_eq hsql hlast]
      simp
  | @quoted quote inside rest segments hopens hinside _ ih =>
      intro done pending s hsql hlast
      have hfrom := bytesFrom_width (hsql.trans (List.append_assoc ..).symm)
      have hascii := ascii_of_isQuote hopens
      -- the scan goes on behind the closing quote, and the run is pending
      have hnext : width (done ++ pending) + 1 + width inside + 1
          = width (done ++ (pending ++ quote :: (inside ++ [quote]))) := by
        simp only [width_append, width_cons_ascii hascii, width_nil]
        omega
      have hsql' : sql.toList
          = done ++ ((pending ++ quote :: (inside ++ [quote])) ++ rest) := by
        simp [hsql]
      rw [run_ascii hascii hfrom, if_pos hopens, takeWhile_bne_append hinside,
        hnext, ih hsql' hlast, List.filterMap_cons_none rfl]
      simp [Segment.placed, Segment.text]
  | @unclosed quote inside hopens hinside =>
      intro done pending s hsql hlast
      have hfrom := bytesFrom_width (hsql.trans (List.append_assoc ..).symm)
      have hascii := ascii_of_isQuote hopens
      have htake := List.takeWhile_eq_self_iff.mpr (bne_of_not_mem hinside)
      -- no quote closes the run: the scan ends one place behind the text
      have hend : bytesFrom sql.toUTF8
          (width (done ++ pending) + 1 + width inside + 1) = [] := by
        rw [Nat.add_assoc, Nat.add_assoc, bytesFrom_add, hfrom]
        apply List.drop_eq_nil_of_le
        show width (quote :: inside) ≤ _
        rw [width_cons_ascii hascii]
        omega
      rw [run_ascii hascii hfrom, if_pos hopens, htake, run_nil hend,
        Option.bind_some, finish?_eq hsql hlast, List.filterMap_cons_none rfl]
      simp [Segment.placed, Segment.text]
  | @cast rest segments _ ih =>
      intro done pending s hsql hlast
      have hfrom := bytesFrom_width (hsql.trans (List.append_assoc ..).symm)
      -- both colons are passed over at once
      have hnext : width (done ++ pending) + 2
          = width (done ++ (pending ++ [':', ':'])) := by
        simp [width_append, width_cons_ascii (c := ':') (by decide), width_nil,
          Nat.add_assoc]
      have hsql' : sql.toList = done ++ ((pending ++ [':', ':']) ++ rest) := by
        simp [hsql]
      rw [run_ascii (by decide) hfrom, if_neg (by decide), if_pos ⟨rfl, rfl⟩,
        hnext,
        ih hsql' hlast, List.filterMap_cons_none rfl]
      simp [Segment.placed, Segment.text]
  | @token name rest segments hname hlongest _ ih =>
      intro done pending s hsql hlast
      have hfrom := bytesFrom_width (hsql.trans (List.append_assoc ..).symm)
      obtain ⟨hcast, hstart⟩ := head?_name hname rest
      -- what is pending is noted before the placeholder, and nothing is
      -- pending then
      have hnext : width (done ++ pending) + 1 + width name
          = width ((done ++ (pending ++ ':' :: name)) ++ []) := by
        simp only [width_append, width_cons_ascii (c := ':') (by decide),
          width_nil]
        omega
      have hsql' : sql.toList
          = (done ++ (pending ++ ':' :: name)) ++ ([] ++ rest) := by
        simp [hsql]
      rw [run_ascii (by decide) hfrom, if_neg (by decide),
        if_neg (fun h => hcast h.2), if_pos ⟨rfl, hstart⟩,
        (span_name hname hlongest).1, token?_eq hsql hlast, Option.bind_some,
        hnext, ih hsql' (by simp)]
      simp [Segment.placed, Segment.name?, ← String.toList_inj]
  | @other c rest segments hquote hcolon _ ih =>
      intro done pending s hsql hlast
      have hfrom := bytesFrom_width (hsql.trans (List.append_assoc ..).symm)
      -- one more character is pending
      have hnext : width (done ++ pending) + width [c]
          = width (done ++ (pending ++ [c])) := by
        simp only [width_append]
        omega
      have hsql' : sql.toList = done ++ ((pending ++ [c]) ++ rest) := by
        simp [hsql]
      rw [run_other hquote hcolon hfrom, hnext, ih hsql' hlast,
        List.filterMap_cons_none rfl]
      simp [Segment.placed, Segment.text]

end TokenScan

-- ===================================================== the rewritten statement

/-- A scan from the start leaves what the segments of the statement leave. -/
theorem rewriteTokens?_eq (sql : String) :
    rewriteTokens? sql = some
      (.ofList ((segmentsOf sql.toList).flatMap Segment.placed),
        ((segmentsOf sql.toList).filterMap Segment.name?).map .ofList) := by
  have hsql : sql.toList = [] ++ ([] ++ sql.toList) := rfl
  have hlast : TokenScan.start.last = width [] := rfl
  have h := TokenScan.run_segmented (segmented_segmentsOf sql.toList) hsql hlast
  simpa [TokenScan.start, width_nil, rewriteTokens?] using h

/-- A statement falls into segments in one way. Its rewritten form has their
texts, with a question mark for each token, and no text is cut inside of a
character on the way there. With the names put back between the same gaps
it is the statement again. -/
theorem rewriteTokens_segmented (sql : String) :
    rewriteTokens? sql = some (rewriteTokens sql)
      ∧ ∃ segments : List Segment,
        (∀ other, Segmented sql.toList other ↔ other = segments)
        ∧ sql = .ofList (segments.flatMap Segment.text)
        ∧ (rewriteTokens sql).1 = .ofList (segments.flatMap Segment.placed)
        ∧ (rewriteTokens sql).2
          = (segments.filterMap Segment.name?).map .ofList
        ∧ (gaps segments).length = (rewriteTokens sql).2.length + 1
        ∧ (rewriteTokens sql).1
          = .ofList (weave (gaps segments)
              ((rewriteTokens sql).2.map fun _ => ['?']))
        ∧ sql
          = .ofList (weave (gaps segments)
              ((rewriteTokens sql).2.map fun name => ':' :: name.toList)) := by
  have hscan := rewriteTokens?_eq sql
  have hrewritten : rewriteTokens? sql = some (rewriteTokens sql) := by
    unfold rewriteTokens
    rw [hscan, Option.getD_some]
  have hpair := Option.some.inj (hrewritten.symm.trans hscan)
  have htexts := (segmented_segmentsOf sql.toList).texts
  obtain ⟨hnames, hmarks⟩ := weave_gaps (segmentsOf sql.toList)
  -- a colon in front of each name makes the token again
  have hback : ((segmentsOf sql.toList).filterMap Segment.name?).map
        ((fun name : String => ':' :: name.toList) ∘ String.ofList)
      = ((segmentsOf sql.toList).filterMap Segment.name?).map (':' :: ·) := by
    simp
  refine ⟨hrewritten, ?_⟩
  rw [hpair]
  refine ⟨segmentsOf sql.toList, fun _ => segmented_iff, ?_, rfl, rfl, ?_,
    ?_, ?_⟩
  · rw [htexts, String.ofList_toList]
  · rw [length_gaps, List.length_map]
  · rw [List.map_map]
    exact congrArg String.ofList hmarks.symm
  · rw [List.map_map, hback, hnames, htexts, String.ofList_toList]

/-- Casts and quoted text have no tokens, closed or not. -/
example : rewriteTokens "SELECT :a::int, ':b', ::c:d_1é:2 \":e"
    = ("SELECT ?::int, ':b', ::c?é:2 \":e", ["a", "d_1"]) := by
  decide +kernel

end DataAccess
