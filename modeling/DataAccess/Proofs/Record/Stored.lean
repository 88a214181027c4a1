/-
What a program puts into records, and whether it comes back. A value of a
record type is what a program has: a day rather than its midnight, a constant
rather than its name, an absent value rather than null, a payload rather than
its JSON. In its record (`value`) everything is a datum, and no two values have
the same record (`value_inj`). It is stored leaf by leaf, and mapping the
stored leaves gives its record back exactly if the payloads in it are read back
(`For.mapValues_eq_iff`).

# Structured data

How a payload is written as JSON and read from it is up to its type, so
whether it comes back is, too. Of the type no more is asked than this, for the
payloads that are there: what was written of one is read as it
(`JsonType.ReadsBack`). All other scalars come back whatever they are
(`ScalarType.decode_eq_iff`). Not every payload is like that: a map may have no
JSON form, and a float that is no number has one that is no float's
(`not_returned`).
-/
import DataAccess.Catalog.Payloads
import DataAccess.Proofs.Record.Mapping
import Mathlib.Data.List.Forall2

namespace List

/-- What is related to two lists, one after the other, is two lists. -/
theorem exists_append_of_forall₂ {α β : Type} {R : α → β → Prop}
    {xs xs' : List α} {zs : List β} (h : Forall₂ R (xs ++ xs') zs) :
    ∃ ys ys', zs = ys ++ ys' ∧ Forall₂ R xs ys ∧ Forall₂ R xs' ys' := by
  induction xs generalizing zs with
  | nil => exact ⟨[], zs, rfl, .nil, h⟩
  | cons x xs ih =>
      obtain ⟨z, zs, hz, hzs, rfl⟩ := forall₂_cons_left_iff.mp h
      obtain ⟨ys, ys', rfl, hys, hys'⟩ := ih hzs
      exact ⟨z :: ys, ys', rfl, .cons hz hys, hys'⟩

end List

namespace DataAccess

-- ======================================================= structured data

namespace JsonType

variable {type : JsonType} {payload payload' : Payload}

/-- A payload is read back: what its type writes of it, if anything, it reads
as this payload. -/
def ReadsBack (type : JsonType) (payload : Payload) : Prop :=
  ∀ form, type.encode payload = .ok form → type.decode form = .ok payload

/-- What is stored of a payload is the payload. -/
theorem datum_inj (h : type.datum payload = type.datum payload') :
    payload = payload' := by
  unfold datum at h
  cases hform : type.encode payload <;>
    cases hform' : type.encode payload' <;> rw [hform, hform'] at h <;>
    cases h <;> rfl

/-- A payload is stored as JSON, in the form that it is encoded in. -/
theorem storedAs_iff {v : Value} :
    (type.datum payload).StoredAs v
      ↔ ∃ form, type.encode payload = .ok form ∧ v = .json form := by
  unfold datum Datum.StoredAs
  cases type.encode payload <;> simp [Datum.encode, eq_comm]

/-- The stored form of a payload is decoded as it exactly if it is read
back. -/
theorem taken_eq_iff {form : Json} (h : type.encode payload = .ok form) :
    type.taken (type.decode form) = .ok (type.datum payload)
      ↔ type.ReadsBack payload := by
  unfold ReadsBack
  rw [h]
  simp only [Except.ok.injEq, forall_eq']
  cases type.decode form with
  | error fault => exact ⟨nofun, nofun⟩
  | ok payload' =>
      constructor
      · intro htaken
        rw [datum_inj (Except.ok.inj htaken)]
      · intro hread
        rw [Except.ok.inj hread]
        rfl

end JsonType

/-- A float that is no number. -/
def Binary64.noNumber : Binary64 :=
  ⟨0x7ff8000000000000⟩

/-- The float that a JSON value stands for. -/
def Json.toFloat? : Json → Option Binary64
  | .float x => some x
  | .int n => some ((Binary64.ofNat n.natAbs).withSign (n < 0))
  | _ => none

/-- A float as structured data. JSON can write finite numbers only, and
anything else is written as null. -/
def JsonType.float : JsonType where
  encode
    | .float x => .ok (if x.isFinite then .float x else .null)
    | _ => .error .malformed
  decode j :=
    match j.toFloat? with
    | some x => .ok (.float x)
    | none => .error .malformed
  read := Json.readAs fun d =>
    ((d.toJson? Json.maxDepth).bind Json.toFloat?).map .float
  initial := .float Binary64.zero

-- ================================================================ scalars

/-- A day. -/
structure Day where
  year : Int
  month : Nat
  day : Nat
  deriving DecidableEq, Repr

/-- Its midnight. -/
def Day.midnight (d : Day) : Timestamp :=
  { year := d.year, month := d.month, day := d.day
    hour := 0, minute := 0, second := 0, nanosecond := 0 }

namespace ScalarType

/-- What a program has for a scalar. A point in time without a zone is one in
UTC. -/
def Host : ScalarType → Type
  | .bool => Bool
  | .int32 => Int32
  | .int64 => Int64
  | .float64 => Binary64
  | .text => String
  | .bytes => List UInt8
  | .timestamp => Timestamp
  | .date => Day
  | .json _ => Payload
  | .symbol type => { name : String // name ∈ type.symbols }

/-- The datum that it is. -/
def datum : (type : ScalarType) → type.Host → Datum
  | .bool, b => .stored (.bool b)
  | .int32, n => .stored (.int32 n)
  | .int64, n => .stored (.int64 n)
  | .float64, x => .stored (.float64 x)
  | .text, s => .stored (.text s)
  | .bytes, b => .stored (.bytes b)
  | .timestamp, t => .stored (.timestamp t)
  | .date, d => .stored (.timestamp d.midnight)
  | .json type, payload => type.datum payload
  | .symbol _, name => .stored (.text name.val)

/-- It is read back, if it is a payload. -/
def ReadsBack : (type : ScalarType) → type.Host → Prop
  | .json type, payload => type.ReadsBack payload
  | _, _ => True

/-- A symbol of a type is found by its name. -/
theorem find?_symbol {type : SymbolType} {name : String}
    (h : name ∈ type.symbols) : type.find? name = some name := by
  unfold SymbolType.find?
  cases hfound : type.symbols.find? (· == name) with
  | none =>
      have hnone := List.find?_eq_none.mp hfound name h
      simp at hnone
  | some found =>
      have hsame := List.find?_some hfound
      rw [eq_of_beq hsame]

variable {type : ScalarType} {x x' : type.Host} {v : Value}

/-- No two things are the same datum. -/
theorem datum_inj (h : type.datum x = type.datum x') : x = x' := by
  cases type with
  | json type => exact JsonType.datum_inj h
  | symbol type => exact Subtype.ext (Value.text.inj (Datum.stored.inj h))
  | date =>
      have hday := Value.timestamp.inj (Datum.stored.inj h)
      obtain ⟨year, month, day⟩ := x
      obtain ⟨year', month', day'⟩ := x'
      cases hday
      rfl
  | _ =>
      cases h
      rfl

/-- What is there is not absent. -/
theorem datum_ne_null (x : type.Host) : type.datum x ≠ .stored .null := by
  intro h
  cases type with
  | json type =>
      change type.datum x = _ at h
      unfold JsonType.datum at h
      split at h <;> cases h
  | _ => cases h

/-- The stored form of a thing is decoded as it, if that is read back, which
is only ever asked of payloads. -/
theorem decode_eq_iff (h : (type.datum x).StoredAs v) :
    type.decode v = .ok (type.datum x) ↔ type.ReadsBack x := by
  cases type with
  | json type =>
      obtain ⟨form, hform, rfl⟩ := JsonType.storedAs_iff.mp h
      exact JsonType.taken_eq_iff hform
  | symbol type =>
      obtain ⟨name, hname⟩ := x
      cases h
      refine iff_of_true ?_ trivial
      show type.decode (.text name) = _
      simp only [SymbolType.decode, find?_symbol hname]
      rfl
  | _ =>
      cases h
      exact iff_of_true rfl trivial

/-- No datum that is there is stored as null. -/
theorem ne_null_of_storedAs (h : (type.datum x).StoredAs v) : v ≠ .null := by
  rintro rfl
  cases type with
  | json type =>
      obtain ⟨form, -, hnull⟩ := JsonType.storedAs_iff.mp h
      cases hnull
  | _ => cases h

end ScalarType

-- ================================================================ records

namespace RecordType

/-- What a program has for a record type. -/
def Host : RecordType → Type
  | .scalar type false => type.Host
  | .scalar type true => Option type.Host
  | .record _ components => hosts components
where
  /-- What it has for several record types. -/
  hosts : List RecordType → Type
    | [] => Unit
    | t :: ts => t.Host × hosts ts

/-- The record of a value. -/
def value : (t : RecordType) → t.Host → RecordValue
  | .scalar type false, x => .scalar (type.datum x)
  | .scalar _ true, none => .scalar (.stored .null)
  | .scalar type true, some x => .scalar (type.datum x)
  | .record _ components, xs => .record (values components xs)
where
  /-- The records of several values. -/
  values : (ts : List RecordType) → Host.hosts ts → List RecordValue
    | [], _ => []
    | t :: ts, (x, xs) => t.value x :: values ts xs

/-- The payloads in a value are read back. -/
def ReadsBack : (t : RecordType) → t.Host → Prop
  | .scalar type false, x => type.ReadsBack x
  | .scalar _ true, none => True
  | .scalar type true, some x => type.ReadsBack x
  | .record _ components, xs => allReadBack components xs
where
  /-- Those in several values are. -/
  allReadBack : (ts : List RecordType) → Host.hosts ts → Prop
    | [], _ => True
    | t :: ts, (x, xs) => t.ReadsBack x ∧ allReadBack ts xs

mutual

/-- No two values have the same record. -/
theorem value_inj : (t : RecordType) → {x x' : t.Host} →
    t.value x = t.value x' → x = x'
  | .scalar _ false, _, _, h => ScalarType.datum_inj (RecordValue.scalar.inj h)
  | .scalar _ true, none, none, _ => rfl
  | .scalar _ true, none, some x', h =>
      absurd (RecordValue.scalar.inj h).symm (ScalarType.datum_ne_null x')
  | .scalar _ true, some x, none, h =>
      absurd (RecordValue.scalar.inj h) (ScalarType.datum_ne_null x)
  | .scalar _ true, some _, some _, h =>
      congrArg some (ScalarType.datum_inj (RecordValue.scalar.inj h))
  | .record _ components, _, _, h =>
      values_inj components (RecordValue.record.inj h)

theorem values_inj : (ts : List RecordType) → {xs xs' : Host.hosts ts} →
    value.values ts xs = value.values ts xs' → xs = xs'
  | [], (), (), _ => rfl
  | t :: ts, (_, _), (_, _), h => by
      obtain ⟨hfirst, hrest⟩ := List.cons.inj h
      rw [t.value_inj hfirst, values_inj ts hrest]

end

-- =============================================================== read back

/-- A scalar is read as a datum exactly if the next value is decoded as it. -/
theorem read_scalar_iff {type : ScalarType} {nullable : Bool} {v : Value}
    {d : Datum} {r : ValueReader} {rest : List Value}
    (h : r.values.drop r.position = v :: rest) :
    (scalar type nullable).component.read r = .ok (.scalar d) (r.passed 1)
      ↔ (Leaf.mk type nullable).field.decode v = .ok d := by
  have hnext : r.values[r.position]? = some v := by
    rw [← List.head?_drop, h]
    rfl
  rcases (Leaf.mk type nullable).read_cases r with
    ⟨v', d', hv', hd', hread⟩ | ⟨e, n, hstuck, hread⟩
  · cases hnext.symm.trans hv'
    have hscalar : (scalar type nullable).component.read r
        = .ok (.scalar d') (r.passed 1) := EStateM.bind_of_eq_ok hread _
    rw [hscalar, hd']
    simp
  · have hscalar : (scalar type nullable).component.read r
        = .error e (r.passed n) := EStateM.bind_of_eq_error hread _
    cases hstuck with
    | exhausted hnone => cases hnext.symm.trans hnone
    | refused hv' he =>
        cases hnext.symm.trans hv'
        rw [hscalar, he]
        exact ⟨nofun, nofun⟩

/-- What is behind values that are passed. -/
theorem drop_passed {r : ValueReader} {vs rest : List Value}
    (h : r.values.drop r.position = vs ++ rest) :
    (r.passed vs.length).values.drop (r.passed vs.length).position = rest := by
  show r.values.drop (r.position + vs.length) = rest
  rw [← List.drop_drop, h, List.drop_left]

/-- A record that was read passed a value for each of its scalars. -/
theorem eq_passed_of_read {t : RecordType} {r r' : ValueReader}
    {x : RecordValue} (h : t.component.read r = .ok x r') :
    r' = r.passed x.scalars.length := by
  rcases t.read_cases r with
    ⟨x', hread, hdecodes⟩ | ⟨i, l, e, n, ds, -, -, -, hread⟩
  · rw [hread] at h
    cases h
    rw [hdecodes.length]
  · rw [hread] at h
    cases h

mutual

/-- Where the stored scalars of a value come next, they are read as its record
exactly if its payloads are read back. The induction is on the type; each
component passes the values of its own scalars. -/
theorem read_value_iff : (t : RecordType) → {x : t.Host} →
    {vs rest : List Value} →
    List.Forall₂ Datum.StoredAs (t.value x).scalars vs → {r : ValueReader} →
    r.values.drop r.position = vs ++ rest →
    (t.component.read r = .ok (t.value x) (r.passed vs.length)
      ↔ t.ReadsBack x)
  | .scalar type false, x, _, _, .cons hv .nil, _, hnext => by
      refine (read_scalar_iff hnext).trans ?_
      rw [Leaf.decode_required]
      exact ScalarType.decode_eq_iff hv
  | .scalar type true, none, _, _, .cons hv .nil, _, hnext => by
      refine (read_scalar_iff hnext).trans ?_
      cases hv
      exact iff_of_true rfl trivial
  | .scalar type true, some x, _, _, .cons hv .nil, _, hnext => by
      refine (read_scalar_iff hnext).trans ?_
      rw [Leaf.decode_optional type (ScalarType.ne_null_of_storedAs hv)]
      exact ScalarType.decode_eq_iff hv
  | .record _ components, xs, vs, _, hvs, r, hnext => by
      refine Iff.trans ?_ (readAll_values_iff components hvs hnext)
      constructor
      · intro hread
        obtain ⟨stored, r', hall, hrecord⟩ := EStateM.bind_eq_ok_iff.mp hread
        cases hrecord
        exact hall
      · intro hall
        exact EStateM.bind_of_eq_ok hall _

theorem readAll_values_iff : (ts : List RecordType) → {xs : Host.hosts ts} →
    {vs rest : List Value} →
    List.Forall₂ Datum.StoredAs
      (RecordValue.scalars.scalarsOf (value.values ts xs)) vs →
    {r : ValueReader} → r.values.drop r.position = vs ++ rest →
    (Component.readAll (component.componentsOf ts) r
        = .ok (value.values ts xs) (r.passed vs.length)
      ↔ ReadsBack.allReadBack ts xs)
  | [], (), _, _, .nil, _, _ => iff_of_true rfl trivial
  | t :: ts, (x, xs), vs, rest, hvs, r, hnext => by
      rw [value.values, RecordValue.scalars.scalarsOf] at hvs
      obtain ⟨us, ws, rfl, hus, hws⟩ := List.exists_append_of_forall₂ hvs
      rw [List.append_assoc] at hnext
      have hfirst := t.read_value_iff hus hnext
      have hrest := readAll_values_iff ts hws (drop_passed hnext)
      rw [ValueReader.passed_passed] at hrest
      rw [ReadsBack.allReadBack, ← hfirst, ← hrest, List.length_append]
      rw [component.componentsOf, Component.readAll]
      constructor
      · intro hread
        obtain ⟨y, r₁, hy, hread⟩ := EStateM.bind_eq_ok_iff.mp hread
        obtain ⟨ys, r₂, hys, hread⟩ := EStateM.bind_eq_ok_iff.mp hread
        cases hread
        obtain rfl := eq_passed_of_read hy
        rw [← hus.length_eq] at hys ⊢
        exact ⟨hy, hys⟩
      · rintro ⟨hy, hys⟩
        rw [EStateM.bind_of_eq_ok hy, EStateM.bind_of_eq_ok hys]
        rfl

end

end RecordType

/-- What is stored of a value is mapped to its record exactly if its payloads
are read back. -/
theorem RecordMapper.For.mapValues_eq_iff {m : RecordMapper RecordValue}
    {t : RecordType} (h : m.For t) {x : t.Host} {values : List Value}
    (hvalues : List.Forall₂ Datum.StoredAs (t.value x).scalars values) :
    m.mapValues values = .ok (t.value x) ↔ t.ReadsBack x := by
  have hstart : (ValueReader.ofValues values).values.drop
      (ValueReader.ofValues values).position = values ++ [] :=
    (List.append_nil _).symm
  have hlength := hvalues.length_eq
  rw [← t.read_value_iff hvalues hstart, mapValues_eq_ok_iff, h.target]
  constructor
  · rintro ⟨-, -, r, hread, -⟩
    rw [hread, RecordType.eq_passed_of_read hread, hlength]
  · intro hread
    rcases t.read_cases (ValueReader.ofValues values) with
      ⟨y, hcases, hdecodes⟩ | ⟨i, l, e, n, ds, -, -, -, hcases⟩
    · obtain ⟨rfl, -⟩ := EStateM.Result.ok.inj (hread.symm.trans hcases)
      have hwidth : values.length = m.width := by
        rw [h.width_eq, ← hdecodes.length, hlength]
      refine ⟨hwidth, h.nullStep?_eq_none hdecodes, _, hread, ?_⟩
      show values.length - (0 + values.length) = 0
      omega
    · cases hread.symm.trans hcases

namespace RecordType

/-- Reading a record type passes one value for each leaf of its shape, depth
first and from left to right, up to the first that cannot be read. -/
structure Consumes (t : RecordType) (r : ValueReader) : Prop where
  read : ∀ {x r'}, t.component.read r = .ok x r' →
    r' = r.passed t.shape.leafCount ∧ r.Decodes t.leaves x.scalars
  failed : ∀ {e r'}, t.component.read r = .error e r' →
    ∃ i l n vs, t.leaves[i]? = some l ∧ r.Decodes (t.leaves.take i) vs
      ∧ (r.passed i).Stuck l e n ∧ r' = r.passed (i + n)
  /-- Nothing is read past the end. -/
  inside : r.position ≤ r.values.length →
    (t.component.read.after r).position ≤ r.values.length

/-- Every type passes one value for each leaf, and none past the end. -/
theorem consumes (t : RecordType) (r : ValueReader) : t.Consumes r := by
  rcases t.read_cases r with
    ⟨x, hread, hdecodes⟩ | ⟨i, l, e, n, vs, hl, hdecodes, hstuck, hread⟩
  · refine ⟨fun h => ?_, fun h => ?_, fun hr => ?_⟩
    · rw [hread] at h
      cases h
      rw [t.leafCount_shape]
      exact ⟨rfl, hdecodes⟩
    · rw [hread] at h
      cases h
    · rw [EStateM.after_of_eq_ok hread]
      exact hdecodes.le hr
  · refine ⟨fun h => ?_, fun h => ?_, fun hr => ?_⟩
    · rw [hread] at h
      cases h
    · rw [hread] at h
      cases h
      exact ⟨i, l, n, vs, hl, hdecodes, hstuck, rfl⟩
    · have hi : (t.leaves.take i).length = i := by
        rw [List.length_take]
        have hlt := (List.getElem?_eq_some_iff.mp hl).1
        omega
      have hle := hdecodes.le hr
      rw [hi] at hle
      have hend := hstuck.le hle
      rw [EStateM.after_of_eq_error hread, ← ValueReader.passed_passed]
      exact hend

/-- A record type is read leaf by leaf, however its leaves are nested, and
what is stored of a value is mapped to its record, which is that of no other
value, exactly if the payloads in it are read back by their types. -/
theorem leafwise (t : RecordType) :
    t.shape.leaves = t.leaves.map Leaf.leafType
    ∧ (∀ r, t.Consumes r)
    ∧ (∀ t' : RecordType, t.leaves = t'.leaves →
      (do return (← t.component.read).scalars : Reading (List Datum))
        = (do return (← t'.component.read).scalars))
    ∧ ∀ (f : Reflector) (m : RecordMapper RecordValue),
      f.mapper t.component = .ok m →
      (∀ values e n, values.length = m.width → m.mapValues values = .error e →
        e ≠ RecordMapper.failure (.unread m.targetName n) values
        ∧ e ≠ RecordMapper.failure (.constructing m.targetName
            (Error.decode (.exhausted n) []).message) values)
      ∧ ∀ (x : t.Host) (values : List Value),
        List.Forall₂ Datum.StoredAs (t.value x).scalars values →
        (m.mapValues values = .ok (t.value x) ↔ t.ReadsBack x)
          ∧ ∀ y : t.Host, t.value y = t.value x → y = x := by
  refine ⟨t.leaves_shape, t.consumes, fun t' => flat_read_eq,
    fun f m hm => ?_⟩
  have hfor := RecordMapper.for_of_mapper hm
  exact ⟨fun values e n hwidth he => hfor.mapValues_error hwidth he n,
    fun x values hvalues => ⟨hfor.mapValues_eq_iff hvalues,
      fun y hy => t.value_inj hy⟩⟩

/-- A record with a leaf of many a kind. -/
def survey : RecordType :=
  .record "Survey"
    [.record "Point" [.scalar .float64 false, .scalar .float64 false],
     .scalar (.symbol ⟨"Unit", ["CM", "M"], "M"⟩) false, .scalar .date true,
     .scalar Catalog.tags false, .scalar (.json .any) true,
     .scalar .text true]

/-- What is stored of a survey. A day is its midnight, JSON null is not null,
and what is absent is. -/
theorem leafwise_survey :
    let x : survey.Host :=
      ((⟨0⟩, ⟨1⟩, ()), ⟨"M", by decide⟩, some ⟨2024, 2, 29⟩,
        .array [.string "a", .string "b"], some .null, none, ())
    let values : List Value :=
      [.float64 ⟨0⟩, .float64 ⟨1⟩, .text "M",
        .timestamp ⟨2024, 2, 29, 0, 0, 0, 0⟩,
        .json (.array [.string "a", .string "b"]), .json .null, .null]
    ∃ f m,
      Reflector.ofNames survey.shape ["x", "y", "unit", "day", "tags", "data",
        "note"] = .ok f
      ∧ f.mapper survey.component = .ok m
      ∧ List.Forall₂ Datum.StoredAs (survey.value x).scalars values
      ∧ survey.ReadsBack x
      ∧ m.mapValues values = .ok (survey.value x) := by
  intro x values
  have hcompiles : (Reflector.ofNames survey.shape ["x", "y", "unit", "day",
      "tags", "data", "note"] >>= fun f => f.mapper survey.component).isOk
      = true := by
    decide +kernel
  obtain ⟨m, hm⟩ := Except.exists_of_isOk hcompiles
  obtain ⟨f, hf, hm⟩ := Except.bind_eq_ok_iff.mp hm
  have hvalues : List.Forall₂ Datum.StoredAs (survey.value x).scalars values :=
    .cons rfl (.cons rfl (.cons rfl (.cons rfl (.cons rfl (.cons rfl
      (.cons rfl .nil))))))
  -- the words and the JSON are all there is to read back
  have hback : survey.ReadsBack x := by
    refine ⟨⟨trivial, trivial, trivial⟩, trivial, trivial, ?_, ?_, trivial,
      trivial⟩
    · intro form hform
      cases hform
      rfl
    · intro form hform
      cases hform
      rfl
  exact ⟨f, m, hf, hm, hvalues, hback,
    (((leafwise survey).2.2.2 f m hm).2 x values hvalues).1.mpr hback⟩

/-- A record of structured data only. -/
def sample : RecordType :=
  .record "Sample" [.scalar (.json .float) false, .scalar Catalog.cells false]

/-- The map with one cell in it, as a tree. -/
def oneCell : Payload :=
  .array [.array [.array [.int 0, .int 0], .int 0]]

/-- Nothing is stored of a map that has no JSON form, and what is stored of a
float that is no number is mapped to no record. So there are values that do not
come back. -/
theorem not_returned :
    ∃ f m, Reflector.ofNames sample.shape ["reading", "cells"] = .ok f
      ∧ f.mapper sample.component = .ok m
      ∧ (List.Forall₂ Datum.StoredAs
          (sample.value (.float .noNumber, .array [], ())).scalars
          [.json .null, .json (.object [])]
        ∧ ∃ e, m.mapValues [.json .null, .json (.object [])] = .error e)
      ∧ (∀ values, ¬ List.Forall₂ Datum.StoredAs
          (sample.value (.float .zero, oneCell, ())).scalars values)
      ∧ ¬ ∀ x : sample.Host, ∃ values,
          List.Forall₂ Datum.StoredAs (sample.value x).scalars values
            ∧ m.mapValues values = .ok (sample.value x) := by
  have hcompiles : (Reflector.ofNames sample.shape ["reading", "cells"] >>=
      fun f => f.mapper sample.component).isOk = true := by
    decide +kernel
  have hfails : (Reflector.ofNames sample.shape ["reading", "cells"] >>=
      fun f => f.mapper sample.component >>= fun m =>
        m.mapValues [.json .null, .json (.object [])]).isOk = false := by
    decide +kernel
  obtain ⟨m, hm⟩ := Except.exists_of_isOk hcompiles
  obtain ⟨f, hf, hm⟩ := Except.bind_eq_ok_iff.mp hm
  -- a key that is no text has no JSON form
  have hnone : ∀ values, ¬ List.Forall₂ Datum.StoredAs
      (sample.value (.float .zero, oneCell, ())).scalars values := by
    rintro _ (_ | ⟨-, hrest⟩)
    rcases hrest with _ | ⟨hcells, -⟩
    cases hcells
  refine ⟨f, m, hf, hm, ⟨.cons rfl (.cons rfl .nil), ?_⟩, hnone, fun h => ?_⟩
  · rw [hf] at hfails
    change (f.mapper sample.component >>= fun m =>
      m.mapValues [.json .null, .json (.object [])]).isOk = false at hfails
    rw [hm] at hfails
    change (m.mapValues [.json .null, .json (.object [])]).isOk = false
      at hfails
    cases hmapped : m.mapValues [.json .null, .json (.object [])] with
    | error e => exact ⟨e, rfl⟩
    | ok y =>
        rw [hmapped] at hfails
        cases hfails
  · obtain ⟨values, hvalues, -⟩ := h (.float .zero, oneCell, ())
    exact hnone values hvalues

end RecordType

end DataAccess
