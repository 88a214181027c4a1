/-
Rows mapped by name. A row is mapped by the values that it has under the names
of the columns, in the order of the mapper (`map_eq_mapValues`). Nothing else
of the row is looked at: two rows that have the same values under these names
give the same, however their columns are arranged and whatever else is among
them.

# Nulls

The nulls are looked at before anything is read. A null where none may be
fails the record, and there is no such failure without one
(`mapValues_of_null`, `mapValues_ne_null`). For a record type that settles all
there is to say about nulls: it is made exactly if every leaf accepts its
value, and a leaf that may be null accepts null, whatever its type
(`For.mapValues_ok_iff`).
-/
import DataAccess.Proofs.Record.Mapping
import DataAccess.Proofs.Row.Naming

namespace DataAccess

namespace RecordMapper

variable {α : Type} {m : RecordMapper α} {row row' : Row}
  {columns : List String} {values : List Value}

-- ==================================================================== values

/-- Values are found by name if each of them is. -/
theorem valuesOf_eq_ok_iff :
    valuesOf row columns = .ok values
      ↔ List.Forall₂ (fun column v => row.value column = .ok v) columns
        values := by
  induction columns generalizing values with
  | nil =>
      rw [List.forall₂_nil_left_iff]
      exact ⟨fun h => (Except.ok.inj h).symm, fun h => congrArg _ h.symm⟩
  | cons column columns ih =>
      rw [List.forall₂_cons_left_iff]
      constructor
      · intro h
        obtain ⟨v, hv, h⟩ := Except.bind_eq_ok_iff.mp h
        obtain ⟨vs, hvs, h⟩ := Except.bind_eq_ok_iff.mp h
        cases h
        exact ⟨v, vs, hv, ih.mp hvs, rfl⟩
      · rintro ⟨v, vs, hv, hvs, rfl⟩
        unfold valuesOf
        rw [hv, ih.mpr hvs]
        rfl

/-- The values of a row, or the failure of one of the names. -/
theorem valuesOf_cases (row : Row) (columns : List String) :
    (∃ values, valuesOf row columns = .ok values)
      ∨ ∃ column ∈ columns, ∃ e, row.value column = .error e
        ∧ valuesOf row columns = .error e := by
  induction columns with
  | nil => exact Or.inl ⟨[], rfl⟩
  | cons column columns ih =>
      unfold valuesOf
      cases hv : row.value column with
      | error e =>
          exact Or.inr ⟨column, List.mem_cons_self, e, hv, rfl⟩
      | ok v =>
          rcases ih with ⟨values, hvalues⟩ | ⟨column', hmem, e, he, herror⟩
          · rw [hvalues]
            exact Or.inl ⟨v :: values, rfl⟩
          · rw [herror]
            exact Or.inr ⟨column', List.mem_cons_of_mem _ hmem, e, he, rfl⟩

/-- Rows with the same values under some names. -/
theorem valuesOf_congr
    (h : ∀ column ∈ columns, row.value column = row'.value column) :
    valuesOf row columns = valuesOf row' columns := by
  induction columns with
  | nil => rfl
  | cons column columns ih =>
      obtain ⟨hcolumn, hcolumns⟩ := List.forall_mem_cons.mp h
      unfold valuesOf
      rw [hcolumn, ih hcolumns]

/-- A row is mapped by its values under the names of the columns. -/
theorem map_eq_mapValues
    (h : List.Forall₂ (fun column v => row.value column = .ok v) m.columns
      values) : m.map row = m.mapValues values := by
  unfold map
  rw [valuesOf_eq_ok_iff.mpr h]

/-- Rows with the same values under the names of the columns are mapped
alike. -/
theorem map_congr
    (h : ∀ column ∈ m.columns, ∃ v, row.value column = .ok v
      ∧ row'.value column = .ok v) : m.map row = m.map row' := by
  have hsame : valuesOf row m.columns = valuesOf row' m.columns := by
    refine valuesOf_congr fun column hmem => ?_
    obtain ⟨v, hv, hv'⟩ := h column hmem
    rw [hv, hv']
  rcases valuesOf_cases row m.columns with
    ⟨values, hvalues⟩ | ⟨column, hmem, e, he, -⟩
  · unfold map
    rw [← hsame, hvalues]
  · obtain ⟨v, hv, -⟩ := h column hmem
    cases hv.symm.trans he

/-- A row that has no value under the name of a column is not mapped; what is
told is the failure of such a name. -/
theorem map_of_unfound
    (h : ∃ column ∈ m.columns, ∀ v, row.value column ≠ .ok v) :
    ∃ column ∈ m.columns, ∃ e, row.value column = .error e
      ∧ m.map row
        = .error (failure (.reading m.targetName e.message) row.values) := by
  obtain ⟨unfound, hunfound, hnone⟩ := h
  rcases valuesOf_cases row m.columns with
    ⟨values, hvalues⟩ | ⟨column, hmem, e, he, herror⟩
  · obtain ⟨i, hi⟩ := List.getElem?_of_mem hunfound
    obtain ⟨v, -, hv⟩ := exists_of_forall₂ (valuesOf_eq_ok_iff.mp hvalues) hi
    exact absurd hv (hnone v)
  · refine ⟨column, hmem, e, he, ?_⟩
    unfold map
    rw [herror]

-- ===================================================================== nulls

/-- A null where none may be is noticed, there or before. -/
theorem nullStep?_isSome {steps : List MapperStep} {step : MapperStep}
    {i : Nat} (hstep : steps[i]? = some step)
    (hnull : values[i]? = some .null) (hrequired : step.leaf.nullable = false) :
    (nullStep? steps values).isSome = true := by
  induction steps generalizing values i with
  | nil => cases hstep
  | cons first steps ih =>
      cases values with
      | nil => cases hnull
      | cons v values =>
          unfold nullStep?
          split
          · rfl
          · next hfirst =>
            cases i with
            | zero =>
                cases hstep
                cases hnull
                rw [hrequired] at hfirst
                exact absurd rfl hfirst
            | succ i => exact ih hstep hnull

/-- A null where none may be fails the record. -/
theorem mapValues_of_null {step : MapperStep} {i : Nat}
    (hstep : m.steps[i]? = some step) (hnull : values[i]? = some .null)
    (hrequired : step.leaf.nullable = false) :
    ∃ fault, m.mapValues values = .error (failure fault values)
      ∧ (values.length = m.width → ∃ (j : Nat) (told : MapperStep),
        m.steps[j]? = some told ∧ values[j]? = some Value.null
        ∧ told.leaf.nullable = false
        ∧ fault = .nullComponent told.column m.targetName told.leaf) := by
  unfold mapValues
  by_cases hwidth : values.length = m.width
  · obtain ⟨told, htold⟩ := Option.isSome_iff_exists.mp
      (nullStep?_isSome hstep hnull hrequired)
    obtain ⟨j, hj, hvalue, htoldrequired⟩ := nullStep?_eq_some htold
    rw [if_neg (not_not_intro hwidth), htold]
    exact ⟨_, rfl, fun _ => ⟨j, told, hj, hvalue, htoldrequired, rfl⟩⟩
  · rw [if_pos hwidth]
    exact ⟨_, rfl, fun h => absurd h hwidth⟩

/-- A row with such a null, under the name of the column, is not mapped. -/
theorem map_of_null {step : MapperStep} (hstep : step ∈ m.steps)
    (hnull : row.value step.column = .ok .null)
    (hrequired : step.leaf.nullable = false) :
    ∃ fault values, m.map row = .error (failure fault values) := by
  unfold map
  rcases valuesOf_cases row m.columns with
    ⟨values, hvalues⟩ | ⟨_, _, e, _, herror⟩
  · obtain ⟨i, hi⟩ := List.getElem?_of_mem hstep
    have hcolumn : m.columns[i]? = some step.column := by
      rw [columns, List.getElem?_map, hi]
      rfl
    obtain ⟨v, hv, hvalue⟩ :=
      exists_of_forall₂ (valuesOf_eq_ok_iff.mp hvalues) hcolumn
    cases hnull.symm.trans hvalue
    obtain ⟨fault, hfault, -⟩ := mapValues_of_null hi hv hrequired
    rw [hvalues]
    exact ⟨fault, values, hfault⟩
  · rw [herror]
    exact ⟨_, _, rfl⟩

/-- Without one there is no such failure. -/
theorem mapValues_ne_null
    (h : ∀ (i : Nat) (step : MapperStep), m.steps[i]? = some step →
      values[i]? = some .null → step.leaf.nullable = true)
    (column target : String) (leaf : LeafType) :
    m.mapValues values
      ≠ .error (failure (.nullComponent column target leaf) values) := by
  intro herror
  by_cases hwidth : values.length = m.width
  · rw [mapValues_eq hwidth (nullStep?_eq_none h)] at herror
    split at herror
    · cases failure_inj (Except.error.inj herror)
    · split at herror
      · cases herror
      · cases failure_inj (Except.error.inj herror)
  · unfold mapValues at herror
    rw [if_pos hwidth] at herror
    cases failure_inj (Except.error.inj herror)

end RecordMapper

-- ============================================================== record types

namespace Leaf

/-- A leaf accepts null if it may be null, and any other value that it
decodes. -/
def Accepts (l : Leaf) (v : Value) : Prop :=
  if v = .null then l.nullable = true else ∃ d, l.type.decode v = .ok d

/-- A leaf accepts what it can decode. -/
theorem accepts_iff {l : Leaf} {v : Value} :
    l.Accepts v ↔ ∃ d, l.field.decode v = .ok d := by
  obtain ⟨type, nullable⟩ := l
  unfold Accepts
  by_cases hv : v = .null
  · subst hv
    rw [if_pos rfl]
    cases nullable with
    | true => exact ⟨fun _ => ⟨.stored .null, rfl⟩, fun _ => rfl⟩
    | false =>
        obtain ⟨e, he⟩ := type.decode_null
        rw [decode_required, he]
        exact ⟨nofun, nofun⟩
  · rw [if_neg hv]
    cases nullable with
    | true => rw [decode_optional type hv]
    | false => rw [decode_required]

end Leaf

/-- A record type is read where every leaf accepts its value. -/
theorem RecordType.read_of_accepts {t : RecordType} {values : List Value}
    (h : List.Forall₂ Leaf.Accepts t.leaves values) :
    ∃ x, t.component.read (ValueReader.ofValues values)
        = .ok x ((ValueReader.ofValues values).passed t.leaves.length)
      ∧ (ValueReader.ofValues values).Decodes t.leaves x.scalars := by
  rcases t.read_cases (ValueReader.ofValues values) with
    hread | ⟨i, l, e, n, ds, hl, -, hstuck, -⟩
  · exact hread
  · -- no leaf is stuck at a value that it accepts
    obtain ⟨v, hv, haccepts⟩ := exists_of_forall₂ h hl
    obtain ⟨d, hd⟩ := Leaf.accepts_iff.mp haccepts
    have hposition : ((ValueReader.ofValues values).passed i).position = i :=
      Nat.zero_add i
    cases hstuck with
    | exhausted hnone =>
        rw [hposition] at hnone
        cases hnone.symm.trans hv
    | refused hv' he =>
        rw [hposition] at hv'
        cases hv'.symm.trans hv
        cases he.symm.trans hd

namespace RecordMapper

variable {m : RecordMapper RecordValue} {t : RecordType} {values : List Value}

/-- A record is made of values exactly if every leaf accepts its value. -/
theorem For.mapValues_ok_iff (h : m.For t) :
    (∃ x, m.mapValues values = .ok x)
      ↔ List.Forall₂ Leaf.Accepts t.leaves values := by
  constructor
  · rintro ⟨x, hx⟩
    obtain ⟨hwidth, -⟩ := mapValues_eq_ok_iff.mp hx
    rcases h.mapValues_cases hwidth with
      ⟨y, -, hdecodes⟩ | ⟨_, _, herror⟩ | ⟨_, _, _, herror⟩
    · refine List.forall₂_iff_get.mpr
        ⟨(hwidth.trans h.width_eq).symm, fun i hi hi' => ?_⟩
      obtain ⟨v, d, hv, hd, -⟩ :=
        hdecodes.each (List.getElem?_eq_getElem hi)
      have hv : values[0 + i]? = some v := hv
      rw [Nat.zero_add, List.getElem?_eq_getElem hi'] at hv
      cases hv
      exact Leaf.accepts_iff.mpr ⟨d, hd⟩
    · cases hx.symm.trans herror
    · cases hx.symm.trans herror
  · intro haccepts
    have hlength := haccepts.length_eq
    have hwidth : values.length = m.width := h.width_eq ▸ hlength.symm
    obtain ⟨x, hread, hdecodes⟩ := RecordType.read_of_accepts haccepts
    have hremaining :
        ((ValueReader.ofValues values).passed t.leaves.length).remaining
          = 0 := by
      show values.length - (0 + t.leaves.length) = 0
      omega
    rw [mapValues_eq hwidth (h.nullStep?_eq_none hdecodes), h.target, hread]
    exact ⟨x, if_pos hremaining⟩

end RecordMapper

-- =================================================================== results

/-- A mapper makes of a row what it makes of the values that it finds under the
names of its columns: rows with the same values there give the same, in
whatever order and among whatever other columns, and a row without one of them
is not mapped. In a result a name finds the only column that answers to it, or
the first if it is a name with a table, and nothing else is missing or
ambiguous. A null fails the record where none may be, and nowhere else: a
record type is made of just the values that its leaves accept. -/
theorem RecordMapper.map_by_name {α : Type} (m : RecordMapper α) :
    (∀ (row : Row) (values : List Value),
      List.Forall₂ (fun column v => row.value column = .ok v) m.columns
        values → m.map row = m.mapValues values)
    ∧ (∀ row row' : Row, (∀ column ∈ m.columns, ∃ v,
        row.value column = .ok v ∧ row'.value column = .ok v) →
      m.map row = m.map row')
    ∧ (∀ row : Row, (∃ column ∈ m.columns, ∀ v, row.value column ≠ .ok v) →
      ∃ column ∈ m.columns, ∃ e, row.value column = .error e
        ∧ m.map row
          = .error (failure (.reading m.targetName e.message) row.values))
    ∧ (∀ (row : Row) (columns : List ColumnMeta),
      row.resolver = .ofColumns columns → ∀ name : String,
        (∀ v, row.value name = .ok v
          ↔ ∃ index, Finds columns name index ∧ row.values[index]? = some v)
        ∧ (row.value name = .error (.column name .missing)
          ↔ ∀ c ∈ columns, c.answers name = false)
        ∧ ((∃ sources,
            row.value name = .error (.column name (.ambiguous sources)))
          ↔ '/' ∉ name.toList ∧ ∃ (i j : Nat) (c c' : ColumnMeta), i ≠ j
            ∧ columns[i]? = some c ∧ columns[j]? = some c'
            ∧ c.answers name = true ∧ c'.answers name = true))
    ∧ (∀ (row : Row), ∀ step ∈ m.steps, row.value step.column = .ok .null →
      step.leaf.nullable = false →
      ∃ fault values, m.map row = .error (failure fault values))
    ∧ (∀ (values : List Value) (i : Nat) (step : MapperStep),
      m.steps[i]? = some step → values[i]? = some .null →
      step.leaf.nullable = false →
      ∃ fault, m.mapValues values = .error (failure fault values))
    ∧ (∀ values : List Value,
      (∀ (i : Nat) (step : MapperStep), m.steps[i]? = some step →
        values[i]? = some .null → step.leaf.nullable = true) →
      ∀ column target leaf, m.mapValues values
        ≠ .error (failure (.nullComponent column target leaf) values))
    ∧ ∀ (f : Reflector) (t : RecordType) (m : RecordMapper RecordValue),
      f.mapper t.component = .ok m → ∀ values,
        (∃ x, m.mapValues values = .ok x)
          ↔ List.Forall₂ Leaf.Accepts t.leaves values := by
  refine ⟨fun row values h => map_eq_mapValues h, fun row row' h => map_congr h,
    fun row h => map_of_unfound h, fun row columns hcolumns name =>
      ⟨fun v => Row.value_eq_ok_iff hcolumns, Row.value_eq_missing_iff hcolumns,
        Row.value_eq_ambiguous_iff hcolumns⟩,
    fun row step hstep hnull hrequired => map_of_null hstep hnull hrequired,
    fun values i step hstep hnull hrequired => ?_,
    fun values h => mapValues_ne_null h,
    fun f t m h values => (for_of_mapper h).mapValues_ok_iff⟩
  -- a null at a leaf that must have a value: its component is the fault
  obtain ⟨fault, hfault, -⟩ := mapValues_of_null hstep hnull hrequired
  exact ⟨fault, hfault⟩

/-- A number of a table and a label that may be missing. -/
def labelled : RecordMapper RecordValue where
  target := (RecordType.record "tuple"
    [.scalar .int32 false, .scalar .text true]).component
  steps := [⟨"t/id", ⟨.int32, false⟩⟩, ⟨"label", ⟨.text, true⟩⟩]

/-- A row of the table. -/
def tableRow : Row where
  values := [.int32 1, .null]
  resolver := .ofColumns [⟨some "t", "id"⟩, ⟨some "t", "label"⟩]
  width_eq := rfl

/-- The same next to a row of another table; the bare name of the number would
be ambiguous. -/
def joinedRow : Row where
  values := [.int32 2, .null, .int32 1]
  resolver := .ofColumns [⟨some "u", "id"⟩, ⟨none, "LABEL"⟩, ⟨some "T", "Id"⟩]
  width_eq := rfl

/-- A row without a label. -/
def bareRow : Row where
  values := [.int32 1]
  resolver := .ofColumns [⟨some "t", "id"⟩]
  width_eq := rfl

/-- The rows that have a label are mapped alike, and the other one is not. -/
theorem RecordMapper.map_by_name_labelled :
    labelled.map tableRow = labelled.map joinedRow
      ∧ (∃ x, labelled.map joinedRow = .ok x)
      ∧ ∃ column ∈ labelled.columns, ∃ e, bareRow.value column = .error e
        ∧ labelled.map bareRow = .error
          (failure (.reading "tuple" e.message) [.int32 1]) := by
  obtain ⟨-, hsame, hunfound, -⟩ := map_by_name labelled
  refine ⟨hsame _ _ fun column hmem => ?_, ⟨_, rfl⟩,
    hunfound bareRow ⟨"label", by decide, fun v hv => ?_⟩⟩
  · change column ∈ ["t/id", "label"] at hmem
    simp only [List.mem_cons, List.not_mem_nil, or_false] at hmem
    rcases hmem with rfl | rfl
    · exact ⟨.int32 1, rfl, rfl⟩
    · exact ⟨.null, rfl, rfl⟩
  · cases hv

end DataAccess
