/-
Stubs. A relation is loaded from its key alone: there is no reference for a
null, and where the cache has the target already the reference is to what it
has, whatever the row says. Only where nothing is cached is a stub built from
the row, shared and cached (`loadReference_outcome`).

What is in a stub is told column by column, and of the row by what its names
mean (`Stubs`): the key in the identity, in a plain column what the row has
under the prefix and the name of the column, or what a fresh entity has there if
that is no name of one column, and no relations.

# The shape of the proof

Columns are set one after the other, each in its own field. So a step sets one
field to what its column comes to (`populateColumns_cons_iff`), and a run sets
each of its fields to that (`populateColumns_iff`), as no field is set twice.
Both are equivalences, and so a stub is built exactly if every column can take
what the row says (`stub_eq_ok_iff`).
-/
import DataAccess.Proofs.Entity.Injection
import DataAccess.Proofs.Row.Meaning

namespace DataAccess

-- ================================================================== columns

/-- What the field of a column holds in the stub of a key, by what the names of
a row mean. -/
inductive ColumnBinding.Stubs (columns : List ColumnMeta)
    (values : List Value) (key : Value) (columnPrefix : String)
    (c : ColumnBinding) : Field → Prop where
  | key {type : FieldType} {d : Datum} (haccess : c.access = .plain type)
      (hidentity : c.identity = true) (hd : type.decode key = .ok d) :
      Stubs columns values key columnPrefix c (.plain d)
  | said {type : FieldType} {i : Nat} {v : Value} {d : Datum}
      (haccess : c.access = .plain type) (hidentity : c.identity = false)
      (hname : Means columns (columnPrefix ++ c.name) (.ok i))
      (hv : values[i]? = some v) (hd : type.decode v = .ok d) :
      Stubs columns values key columnPrefix c (.plain d)
  | unsaid {type : FieldType} {fault : Error}
      (haccess : c.access = .plain type) (hidentity : c.identity = false)
      (hname : Means columns (columnPrefix ++ c.name) (.error fault)) :
      Stubs columns values key columnPrefix c (.plain type.initial)
  | relation {target own : String} (haccess : c.access = .relation target own) :
      Stubs columns values key columnPrefix c (.relation none)

/-- An entity is the stub of a key. -/
structure EntityBinding.StubOf (b : EntityBinding)
    (columns : List ColumnMeta) (values : List Value) (key : Value)
    (columnPrefix : String) (e : Entity) : Prop where
  type : e.type = b.typeName
  counters : e.counters = b.initial.counters
  fields : List.Forall₂
    (ColumnBinding.Stubs columns values key columnPrefix) b.columns e.fields

/-- What filling by a prefix makes of the field of a column. -/
inductive ColumnBinding.Turns (row : Row) (columnPrefix : String)
    (c : ColumnBinding) : Field → Field → Prop where
  | said {type : FieldType} {v : Value} {d : Datum} (f : Field)
      (haccess : c.access = .plain type)
      (hv : row.value? (columnPrefix ++ c.name) = some v)
      (hd : type.decode v = .ok d) :
      Turns row columnPrefix c f (.plain d)
  | unsaid (f : Field) (hv : row.value? (columnPrefix ++ c.name) = none) :
      Turns row columnPrefix c f f
  | relation {target own : String} (f : Field)
      (haccess : c.access = .relation target own) :
      Turns row columnPrefix c f f

namespace EntityBinding

variable {b : EntityBinding} {e e' : Entity} {c : ColumnBinding} {index : Nat}
  {v : Value} {f f' : Field} {row : Row} {columnPrefix : String}
  {columns : List (ColumnBinding × Nat)}

-- ================================================================== setting

/-- A plain column is set to what its type makes of the value. -/
theorem setColumn_plain_iff {type : FieldType}
    (haccess : c.access = .plain type) :
    b.setColumn c index v e = .ok () e'
      ↔ ∃ d, type.decode v = .ok d
        ∧ e' = e.setField index (.plain d) := by
  unfold setColumn
  rw [haccess]
  dsimp only
  cases type.decode v with
  | error fault => exact ⟨nofun, nofun⟩
  | ok d =>
      constructor
      · rintro ⟨⟩
        exact ⟨d, rfl, rfl⟩
      · rintro ⟨_, ⟨⟩, rfl⟩
        rfl

/-- A relation is left as it is. -/
theorem setColumn_relation_iff {target own : String}
    (haccess : c.access = .relation target own) :
    b.setColumn c index v e = .ok () e' ↔ e' = e := by
  unfold setColumn
  rw [haccess]
  constructor
  · rintro ⟨⟩
    rfl
  · rintro rfl
    rfl

/-- Setting a field to what it holds changes nothing. -/
theorem setField_self (hf : e.fields[index]? = some f) :
    e.setField index f = e := by
  obtain ⟨hlt, rfl⟩ := List.getElem?_eq_some_iff.mp hf
  unfold Entity.setField
  rw [List.set_getElem_self]

/-- A step of filling sets the field of its column to what that comes to. -/
theorem populateColumns_cons_iff (hf : e.fields[index]? = some f) :
    b.populateColumns columnPrefix row ((c, index) :: columns) e = .ok () e'
      ↔ ∃ f', c.Turns row columnPrefix f f'
        ∧ b.populateColumns columnPrefix row columns (e.setField index f')
          = .ok () e' := by
  have hsame := setField_self hf
  rw [populateColumns]
  cases hv : row.value? (columnPrefix ++ c.name) with
  -- the row says nothing of the column: the field stays
  | none =>
      show b.populateColumns columnPrefix row columns e = .ok () e' ↔ _
      constructor
      · intro h
        exact ⟨f, .unsaid f hv, by rwa [hsame]⟩
      · rintro ⟨f', hturns, h⟩
        cases hturns with
        | said _ _ hv' _ => cases hv.symm.trans hv'
        | unsaid => rwa [hsame] at h
        | relation => rwa [hsame] at h
  | some v =>
      show (b.setColumn c index v >>= fun _ =>
        b.populateColumns columnPrefix row columns) e = .ok () e' ↔ _
      rw [EStateM.bind_eq_ok_iff]
      cases haccess : c.access with
      -- a plain column takes what the row says
      | plain type =>
          simp only [setColumn_plain_iff haccess]
          constructor
          · rintro ⟨_, _, ⟨d, hd, rfl⟩, h⟩
            exact ⟨_, .said f haccess hv hd, h⟩
          · rintro ⟨f', hturns, h⟩
            cases hturns with
            | said _ haccess' hv' hd =>
                cases hv.symm.trans hv'
                cases haccess.symm.trans haccess'
                exact ⟨(), _, ⟨_, hd, rfl⟩, h⟩
            | unsaid _ hv' => cases hv.symm.trans hv'
            | relation _ haccess' => cases haccess.symm.trans haccess'
      -- a relation is left alone, whatever the row says
      | relation target own =>
          simp only [setColumn_relation_iff haccess]
          constructor
          · rintro ⟨_, _, rfl, h⟩
            exact ⟨f, .relation f haccess, by rwa [hsame]⟩
          · rintro ⟨f', hturns, h⟩
            refine ⟨(), e, rfl, ?_⟩
            cases hturns with
            | said _ haccess' => cases haccess.symm.trans haccess'
            | unsaid => rwa [hsame] at h
            | relation => rwa [hsame] at h

/-- Filling by a prefix turned an entity into another one. -/
structure Turned (row : Row) (columnPrefix : String)
    (columns : List (ColumnBinding × Nat)) (e e' : Entity) : Prop where
  type : e'.type = e.type
  counters : e'.counters = e.counters
  sets : e.Sets e' (columns.map Prod.snd)
  turns : ∀ p ∈ columns, ∃ f f', e.fields[p.2]? = some f
    ∧ e'.fields[p.2]? = some f' ∧ p.1.Turns row columnPrefix f f'

/-- Without columns nothing turns. -/
theorem turned_nil : Turned row columnPrefix [] e e' ↔ e' = e := by
  constructor
  · intro h
    obtain ⟨type, fields, counters⟩ := e
    obtain ⟨type', fields', counters'⟩ := e'
    obtain ⟨rfl, rfl, hsets, -⟩ := h
    obtain rfl : fields' = fields :=
      List.ext_getElem? fun j => hsets.others j List.not_mem_nil
    rfl
  · rintro rfl
    exact ⟨rfl, rfl, Entity.sets_refl _ _, List.forall_mem_nil _⟩

/-- Columns turn one after the other, since they stand at different places. -/
theorem turned_cons (hindex : index ∉ columns.map Prod.snd)
    (hf : e.fields[index]? = some f) :
    Turned row columnPrefix ((c, index) :: columns) e e'
      ↔ ∃ f', c.Turns row columnPrefix f f'
        ∧ Turned row columnPrefix columns (e.setField index f') e' := by
  have hlt := (List.getElem?_eq_some_iff.mp hf).1
  -- no later column sets the field of the first one
  have hne : ∀ p ∈ columns, p.2 ∉ [index] := by
    intro p hp hmem
    rw [← List.mem_singleton.mp hmem] at hindex
    exact hindex (List.mem_map_of_mem hp)
  constructor
  · intro h
    obtain ⟨⟨f₀, f', hf₀, hf', hturns⟩, hmore⟩ :=
      List.forall_mem_cons.mp h.turns
    cases hf.symm.trans hf₀
    have hsets := e.sets_setField index f'
    refine ⟨f', hturns, h.type, h.counters,
      ⟨h.sets.length.trans hsets.length.symm, fun j hj => ?_⟩, fun p hp => ?_⟩
    · by_cases hji : j = index
      · subst hji
        rw [hf']
        exact (List.getElem?_set_self hlt).symm
      · rw [hsets.others j (by simpa using hji)]
        refine h.sets.others j ?_
        rw [List.map_cons, List.mem_cons, not_or]
        exact ⟨hji, hj⟩
    · obtain ⟨g, g', hg, hg', hturns⟩ := hmore p hp
      exact ⟨g, g', (hsets.others p.2 (hne p hp)).trans hg, hg', hturns⟩
  · rintro ⟨f', hturns, h⟩
    have hsets := e.sets_setField index f'
    refine ⟨h.type, h.counters, hsets.trans h.sets,
      List.forall_mem_cons.mpr ⟨⟨f, f', hf, ?_, hturns⟩, fun p hp => ?_⟩⟩
    · rw [h.sets.others index hindex]
      exact List.getElem?_set_self hlt
    · obtain ⟨g, g', hg, hg', hturns⟩ := h.turns p hp
      exact ⟨g, g', (hsets.others p.2 (hne p hp)).symm.trans hg, hg', hturns⟩

/-- A run of filling sets the field of each column to what that comes to. -/
theorem populateColumns_iff (hnodup : (columns.map Prod.snd).Nodup)
    (hlt : ∀ p ∈ columns, p.2 < e.fields.length) :
    b.populateColumns columnPrefix row columns e = .ok () e'
      ↔ Turned row columnPrefix columns e e' := by
  induction columns generalizing e with
  | nil =>
      rw [turned_nil]
      constructor
      · rintro ⟨⟩
        rfl
      · rintro rfl
        rfl
  | cons p columns ih =>
      obtain ⟨c, index⟩ := p
      obtain ⟨hindex, hmore⟩ := List.forall_mem_cons.mp hlt
      rw [List.map_cons, List.nodup_cons] at hnodup
      have hf := List.getElem?_eq_getElem hindex
      rw [populateColumns_cons_iff hf, turned_cons hnodup.1 hf]
      refine exists_congr fun f' => and_congr_right fun _ => ih hnodup.2 ?_
      intro q hq
      rw [(e.sets_setField index f').length]
      exact hmore q hq

-- =================================================================== a stub

/-- Two lists of one length are compared place by place. -/
theorem forall₂_iff_getElem? {α β : Type} {R : α → β → Prop} {xs : List α}
    {ys : List β} (hlength : ys.length = xs.length) :
    List.Forall₂ R xs ys
      ↔ ∀ (i : Nat) x y, xs[i]? = some x → ys[i]? = some y → R x y := by
  constructor
  · intro h i x y hx hy
    obtain ⟨y', hy', hR⟩ := exists_of_forall₂ h hx
    cases hy.symm.trans hy'
    exact hR
  · intro h
    refine List.forall₂_iff_get.mpr ⟨hlength.symm, fun i hi hi' => ?_⟩
    exact h i _ _ (List.getElem?_eq_getElem hi) (List.getElem?_eq_getElem hi')

/-- What a name means has a value in a row. -/
theorem value?_eq_some_iff {names : List ColumnMeta} {values : List Value}
    {name : String} (hrow : Row.ofValues values (.ofColumns names) = .ok row) :
    row.value? name = some v
      ↔ ∃ i, Means names name (.ok i) ∧ values[i]? = some v := by
  obtain ⟨hvalues, hresolver⟩ := Row.ofValues_eq_ok_iff.mp hrow
  constructor
  · intro h
    obtain ⟨i, hi, -⟩ := Option.map_eq_some_iff.mp h
    rw [hresolver, ColumnResolver.find?_eq_some_iff] at hi
    obtain ⟨v', hv', -, hvalue⟩ := ColumnResolver.value_of_resolve hrow hi
    cases h.symm.trans hvalue
    exact ⟨i, ColumnResolver.resolve_eq_iff.mp hi, hvalues ▸ hv'⟩
  · rintro ⟨i, hmeans, hv⟩
    obtain ⟨v', hv', -, hvalue⟩ := ColumnResolver.value_of_resolve hrow
      (ColumnResolver.resolve_of_means hmeans)
    rw [hvalues] at hv'
    cases hv.symm.trans hv'
    exact hvalue

/-- No value is found under a name that means none. -/
theorem value?_eq_none_iff {names : List ColumnMeta} {values : List Value}
    {name : String} (hrow : Row.ofValues values (.ofColumns names) = .ok row) :
    row.value? name = none ↔ ∃ fault, Means names name (.error fault) := by
  obtain ⟨outcome, hmeans⟩ := ColumnResolver.exists_means names name
  have hresolve := ColumnResolver.resolve_of_means hmeans
  cases outcome with
  | ok i =>
      obtain ⟨v, -, -, hvalue⟩ := ColumnResolver.value_of_resolve hrow hresolve
      rw [hvalue]
      refine ⟨nofun, fun ⟨fault, hfault⟩ => ?_⟩
      cases hresolve.symm.trans (ColumnResolver.resolve_of_means hfault)
  | error fault =>
      refine ⟨fun _ => ⟨fault, hmeans⟩, fun _ => ?_⟩
      rw [Option.eq_none_iff_forall_ne_some]
      intro v hvalue
      obtain ⟨i, hi, -⟩ := (value?_eq_some_iff hrow).mp hvalue
      cases hresolve.symm.trans (ColumnResolver.resolve_of_means hi)

/-- Setting an identity of one column sets the field of it. -/
theorem setIdentity_iff {type : FieldType} {key : Value}
    (hpositions : b.identityPositions = [(c, index)])
    (haccess : c.access = .plain type) :
    b.setIdentity [key] e = .ok () e'
      ↔ ∃ d, type.decode key = .ok d
        ∧ e' = e.setField index (.plain d) := by
  unfold setIdentity
  rw [hpositions, ← setColumn_plain_iff (b := b) haccess]
  show (b.setColumn c index key >>= fun _ => pure ()) e = .ok () e' ↔ _
  rw [EStateM.bind_eq_ok_iff]
  constructor
  · rintro ⟨_, _, h, ⟨⟩⟩
    exact h
  · intro h
    exact ⟨(), e', h, rfl⟩

/-- The columns that are filled by a prefix, with their positions. -/
def plainPositions (b : EntityBinding) : List (ColumnBinding × Nat) :=
  b.columns.zipIdx.filter fun (c, _) => !c.identity

/-- The columns beside the identity, at their places. -/
theorem mem_plainPositions {p : ColumnBinding × Nat} :
    p ∈ b.plainPositions
      ↔ b.columns[p.2]? = some p.1 ∧ p.1.identity = false := by
  unfold plainPositions
  rw [List.mem_filter, List.mem_zipIdx_iff_getElem?, Bool.not_eq_true']

/-- Whichever columns are taken, no two are at the same position. -/
theorem nodup_positions (b : EntityBinding)
    (taken : ColumnBinding × Nat → Bool) :
    ((b.columns.zipIdx.filter taken).map Prod.snd).Nodup :=
  b.nodup_places.sublist (List.filter_sublist.map Prod.snd)

/-- The fields of a fresh entity are those of its columns. -/
theorem initial_getElem? (b : EntityBinding) (j : Nat) :
    b.initial.fields[j]? = b.columns[j]?.map (·.initialField) :=
  List.getElem?_map

section

variable {schema : Schema} {target : String} {names : List ColumnMeta}
  {values : List Value} {key : Value} {d : Datum} {type : FieldType}

/-- The one column of an identity. -/
theorem exists_identityPositions (hb : ofType schema target = .ok b)
    (hone : identityCountOf schema target = 1) :
    ∃ c index type, b.identityPositions = [(c, index)]
      ∧ c.access = .plain type := by
  have hcount : (b.columns.filter (·.identity)).length = 1 := by
    unfold identityCountOf at hone
    rw [find?_of_ofType hb] at hone
    exact hone
  rw [← map_identityPositions, List.length_map] at hcount
  obtain ⟨⟨c, index⟩, hpositions⟩ := List.length_eq_one_iff.mp hcount
  obtain ⟨hc, hidentity⟩ := mem_identityPositions.mp
    (hpositions ▸ List.mem_singleton_self (c, index))
  obtain ⟨type, haccess⟩ :=
    access_of_identity hb (List.mem_of_getElem? hc) hidentity
  exact ⟨c, index, type, hpositions, haccess⟩

/-- What a plain column comes to in a fresh entity is what a stub has there. -/
theorem stubs_iff_turns
    (hrow : Row.ofValues values (.ofColumns names) = .ok row)
    (hidentity : c.identity = false) :
    c.Stubs names values key columnPrefix f
      ↔ c.Turns row columnPrefix c.initialField f := by
  constructor
  · intro h
    cases h with
    | key _ hidentity' _ => cases hidentity.symm.trans hidentity'
    | said haccess _ hname hv hd =>
        exact .said _ haccess ((value?_eq_some_iff hrow).mpr ⟨_, hname, hv⟩) hd
    | unsaid haccess _ hname =>
        have h := ColumnBinding.Turns.unsaid (c := c) c.initialField
          ((value?_eq_none_iff hrow).mpr ⟨_, hname⟩)
        unfold ColumnBinding.initialField at h ⊢
        rwa [haccess] at h ⊢
    | relation haccess =>
        have h : c.Turns row columnPrefix c.initialField c.initialField :=
          .relation c.initialField haccess
        unfold ColumnBinding.initialField at h ⊢
        rwa [haccess] at h ⊢
  · intro h
    cases h with
    | said _ haccess hv hd =>
        obtain ⟨i, hname, hv⟩ := (value?_eq_some_iff hrow).mp hv
        exact .said haccess hidentity hname hv hd
    | unsaid _ hv =>
        obtain ⟨fault, hname⟩ := (value?_eq_none_iff hrow).mp hv
        unfold ColumnBinding.initialField
        cases haccess : c.access with
        | plain type => exact .unsaid haccess hidentity hname
        | relation target own => exact .relation haccess
    | relation _ haccess =>
        unfold ColumnBinding.initialField
        rw [haccess]
        exact .relation haccess

/-- A fresh entity with a datum in the field of a column. -/
def keyed (b : EntityBinding) (index : Nat) (d : Datum) : Entity :=
  b.initial.setField index (.plain d)

theorem length_keyed : (b.keyed index d).fields.length = b.columns.length :=
  (b.initial.sets_setField index _).length.trans b.length_initial

/-- The key stands at the identity. -/
theorem keyed_self (hpositions : b.identityPositions = [(c, index)]) :
    (b.keyed index d).fields[index]? = some (.plain d) := by
  refine List.getElem?_set_self ?_
  obtain ⟨hc, -⟩ := mem_identityPositions.mp
    (hpositions ▸ List.mem_singleton_self (c, index))
  rw [b.length_initial]
  exact (List.getElem?_eq_some_iff.mp hc).1

/-- A column of the identity is the one column of it. -/
theorem eq_of_identityPositions
    (hpositions : b.identityPositions = [(c, index)])
    {j : Nat} {c' : ColumnBinding} (hc' : b.columns[j]? = some c')
    (hidentity : c'.identity = true) : c' = c ∧ j = index := by
  have hmem : (c', j) ∈ b.identityPositions :=
    mem_identityPositions.mpr ⟨hc', hidentity⟩
  rw [hpositions, List.mem_singleton, Prod.mk.injEq] at hmem
  exact hmem

/-- The identity is none of the columns beside it. -/
theorem not_mem_plainPositions
    (hpositions : b.identityPositions = [(c, index)]) :
    index ∉ b.plainPositions.map Prod.snd := by
  intro hmem
  obtain ⟨p, hp, rfl⟩ := List.mem_map.mp hmem
  obtain ⟨hp, hplain⟩ := mem_plainPositions.mp hp
  obtain ⟨hc, hidentity⟩ := mem_identityPositions.mp
    (hpositions ▸ List.mem_singleton_self (c, p.2))
  cases hp.symm.trans hc
  cases hplain.symm.trans hidentity

/-- What is filled has not been set before. -/
theorem keyed_plain (hpositions : b.identityPositions = [(c, index)])
    {j : Nat} {c' : ColumnBinding} (hc' : b.columns[j]? = some c')
    (hplain : c'.identity = false) :
    (b.keyed index d).fields[j]? = some c'.initialField := by
  have hj : j ∉ [index] := by
    intro hmem
    obtain rfl := List.mem_singleton.mp hmem
    exact not_mem_plainPositions hpositions (List.mem_map_of_mem
      (mem_plainPositions (p := (c', j)).mpr ⟨hc', hplain⟩))
  rw [keyed, (b.initial.sets_setField index _).others j hj, initial_getElem?,
    hc']
  rfl

/-- A stub is a fresh entity with the key in its identity, filled by the
prefix. -/
theorem StubOf.exists_turned
    (hrow : Row.ofValues values (.ofColumns names) = .ok row)
    (hpositions : b.identityPositions = [(c, index)])
    (haccess : c.access = .plain type)
    (h : b.StubOf names values key columnPrefix e) :
    ∃ d, type.decode key = .ok d
      ∧ Turned row columnPrefix b.plainPositions (b.keyed index d) e := by
  obtain ⟨hc, hidentity⟩ := mem_identityPositions.mp
    (hpositions ▸ List.mem_singleton_self (c, index))
  have hlength := h.fields.length_eq
  obtain ⟨f, hf, hstubs⟩ := exists_of_forall₂ h.fields hc
  obtain ⟨d, hd, rfl⟩ : ∃ d, type.decode key = .ok d
      ∧ f = .plain d := by
    cases hstubs with
    | key haccess' _ hd =>
        cases haccess.symm.trans haccess'
        exact ⟨_, hd, rfl⟩
    | said _ hplain => cases hidentity.symm.trans hplain
    | unsaid _ hplain => cases hidentity.symm.trans hplain
    | relation hrelation => cases haccess.symm.trans hrelation
  refine ⟨d, hd, h.type, h.counters,
    ⟨hlength.symm.trans length_keyed.symm, fun j hj => ?_⟩, ?_⟩
  · cases hc' : b.columns[j]? with
    | none =>
        have hge := List.getElem?_eq_none_iff.mp hc'
        rw [List.getElem?_eq_none (hlength ▸ hge),
          List.getElem?_eq_none (length_keyed (b := b) ▸ hge)]
    | some c' =>
        cases hplain : c'.identity with
        | false =>
            exact absurd (List.mem_map_of_mem
              (mem_plainPositions (p := (c', j)).mpr ⟨hc', hplain⟩)) hj
        | true =>
            obtain ⟨-, rfl⟩ := eq_of_identityPositions hpositions hc' hplain
            exact hf.trans (keyed_self hpositions).symm
  · rintro ⟨c', j⟩ hp
    obtain ⟨hc', hplain⟩ := mem_plainPositions.mp hp
    obtain ⟨f', hf', hstubs⟩ := exists_of_forall₂ h.fields hc'
    exact ⟨_, f', keyed_plain hpositions hc' hplain, hf',
      (stubs_iff_turns hrow hplain).mp hstubs⟩

/-- Columns that turned as the row says make a stub of the entity. -/
theorem Turned.stubOf (hrow : Row.ofValues values (.ofColumns names) = .ok row)
    (hpositions : b.identityPositions = [(c, index)])
    (haccess : c.access = .plain type) (hd : type.decode key = .ok d)
    (h : Turned row columnPrefix b.plainPositions (b.keyed index d) e) :
    b.StubOf names values key columnPrefix e := by
  obtain ⟨hc, hidentity⟩ := mem_identityPositions.mp
    (hpositions ▸ List.mem_singleton_self (c, index))
  refine ⟨h.type, h.counters,
    (forall₂_iff_getElem? (h.sets.length.trans length_keyed)).mpr ?_⟩
  intro j c' f hc' hf
  cases hplain : c'.identity with
  | false =>
      obtain ⟨f₀, f', hf₀, hf', hturns⟩ :=
        h.turns (c', j) (mem_plainPositions.mpr ⟨hc', hplain⟩)
      cases hf.symm.trans hf'
      cases hf₀.symm.trans (keyed_plain hpositions hc' hplain)
      exact (stubs_iff_turns hrow hplain).mpr hturns
  | true =>
      obtain ⟨rfl, rfl⟩ := eq_of_identityPositions hpositions hc' hplain
      have hkeyed := (h.sets.others j (not_mem_plainPositions hpositions)).trans
        (keyed_self hpositions)
      cases hf.symm.trans hkeyed
      exact .key haccess hidentity hd

/-- What is built is the stub of the key, and it is built if there is one. -/
theorem stub_eq_ok_iff (hb : ofType schema target = .ok b)
    (hone : identityCountOf schema target = 1)
    (hrow : Row.ofValues values (.ofColumns names) = .ok row) :
    Action.stub b key columnPrefix row = .ok e
      ↔ b.StubOf names values key columnPrefix e := by
  obtain ⟨c, index, type, hpositions, haccess⟩ :=
    exists_identityPositions hb hone
  have hrun : Action.stub b key columnPrefix row = .ok e
      ↔ (b.setIdentity [key] >>= fun _ =>
        b.populatePrefixed columnPrefix row) b.initial = .ok () e := by
    unfold Action.stub
    dsimp only
    split
    · next h => simp [h]
    · next h => simp [h]
  have hpopulate : ∀ d,
      b.populatePrefixed columnPrefix row (b.keyed index d) = .ok () e
        ↔ Turned row columnPrefix b.plainPositions (b.keyed index d) e := by
    intro d
    refine populateColumns_iff (b.nodup_positions _) fun p hp => ?_
    rw [length_keyed]
    exact (List.getElem?_eq_some_iff.mp (mem_plainPositions.mp hp).1).1
  rw [hrun, EStateM.bind_eq_ok_iff]
  simp only [setIdentity_iff hpositions haccess]
  constructor
  · rintro ⟨_, _, ⟨d, hd, rfl⟩, h⟩
    exact ((hpopulate d).mp h).stubOf hrow hpositions haccess hd
  · intro h
    obtain ⟨d, hd, hturned⟩ := h.exists_turned hrow hpositions haccess
    exact ⟨(), _, ⟨d, hd, rfl⟩, (hpopulate d).mpr hturned⟩

end

end EntityBinding

-- ================================================================ the cache

/-- The identity cache of a transaction, changed. -/
theorem Session.cacheOf_modifyCache {s : Session} {t : TransactionId}
    {chain : ChainId} (ht : s.holdings.OnChain t chain)
    (f : IdentityCache InstanceId → IdentityCache InstanceId) :
    (s.modifyCache t f).cacheOf t = f (s.cacheOf t) := by
  have hchanged := holdings_modifyCache ht f
  have ht' : (s.modifyCache t f).holdings.OnChain t chain :=
    hchanged ▸ ht.changed
  rw [cacheOf_eq ht', hchanged, Holdings.cache_changed_self ht.lt,
    cacheOf_eq ht]

@[simp] theorem Session.instances_modifyCache (s : Session) (t : TransactionId)
    (f : IdentityCache InstanceId → IdentityCache InstanceId) :
    (s.modifyCache t f).instances = s.instances := by
  unfold modifyCache modifyChain
  split <;> rfl

theorem IdentityCache.capacity_lookUp {α : Type} (c : IdentityCache α)
    (key : CacheKey) : (c.lookUp key).2.capacity = c.capacity := by
  unfold lookUp
  split <;> rfl

namespace Action

variable {schema : Schema} {t : TransactionId} {chain : ChainId}
  {target columnPrefix : String} {b : EntityBinding} {names : List ColumnMeta}
  {values : List Value} {row : Row} {s : Session} {key : Value}
  {identity : IdentityKey}

/-- The session after a key was looked up. -/
def lookedUp (s : Session) (t : TransactionId) (key : CacheKey) : Session :=
  s.modifyCache t fun _ => ((s.cacheOf t).lookUp key).2

/-- A look-up that found something or not, and the session after it. -/
theorem cached_eq (t : TransactionId) (key : CacheKey) (s : Session) :
    cached t key s
      = .ok (((s.cacheOf t).find? key).map (·.item)) (lookedUp s t key) := by
  refine EStateM.apply_eq_ok_iff.mpr ⟨answer_cached t key s, ?_⟩
  show (s.modifyCache t fun _ => ((s.cacheOf t).get key).2) = _
  rw [IdentityCache.get_eq]
  rfl

/-- The cache after a look-up. -/
theorem cacheOf_lookedUp (ht : s.holdings.OnChain t chain) (key : CacheKey) :
    (lookedUp s t key).cacheOf t = ((s.cacheOf t).lookUp key).2 :=
  Session.cacheOf_modifyCache ht _

/-- Looking a key up makes no difference to what is found. -/
theorem find?_lookedUp (ht : s.holdings.OnChain t chain) (key k : CacheKey) :
    ((lookedUp s t key).cacheOf t).find? k = (s.cacheOf t).find? k := by
  rw [cacheOf_lookedUp ht, IdentityCache.find?_lookUp]

/-- A look-up moves no transaction to another chain. -/
theorem onChain_lookedUp (ht : s.holdings.OnChain t chain) (key : CacheKey) :
    (lookedUp s t key).holdings.OnChain t chain := by
  unfold lookedUp
  rw [Session.holdings_modifyCache ht]
  exact ht.changed

theorem instances_lookedUp (s : Session) (t : TransactionId) (key : CacheKey) :
    (lookedUp s t key).instances = s.instances :=
  Session.instances_modifyCache s t _

/-- A reference to what the cache has. -/
theorem loadReference_cached
    (hkey : IdentityKey.ofValues? [key] = some identity)
    {entry : CacheEntry InstanceId}
    (hfound : (s.cacheOf t).find? ⟨target, identity⟩ = some entry) :
    loadReference schema t target key columnPrefix row s
      = .ok (some ⟨key, entry.item⟩) (lookedUp s t ⟨target, identity⟩) := by
  unfold loadReference
  rw [hkey]
  dsimp only
  rw [EStateM.bind_of_eq_ok (cached_eq t ⟨target, identity⟩ s), hfound]
  rfl

/-- The session after a stub was shared and cached. -/
def stubbed (s : Session) (t : TransactionId) (key : CacheKey) (e : Entity) :
    Session :=
  { lookedUp s t key with instances := s.instances ++ [e] }.modifyCache t
    (·.put key s.instances.length false)

/-- Where nothing is cached, a stub is built, shared and cached. -/
theorem loadReference_uncached
    (hkey : IdentityKey.ofValues? [key] = some identity)
    (hfound : (s.cacheOf t).find? ⟨target, identity⟩ = none)
    (hb : EntityBinding.ofType schema target = .ok b) :
    loadReference schema t target key columnPrefix row s
      = match stub b key columnPrefix row with
        | .ok e => .ok (some ⟨key, s.instances.length⟩)
            (stubbed s t ⟨target, identity⟩ e)
        | .error fault => .error fault (lookedUp s t ⟨target, identity⟩) := by
  have hinstances := instances_lookedUp s t ⟨target, identity⟩
  unfold loadReference
  rw [hkey]
  dsimp only
  rw [EStateM.bind_of_eq_ok (cached_eq t ⟨target, identity⟩ s), hfound]
  dsimp only [Option.map_none]
  rw [EStateM.bind_of_eq_ok (ofExcept_of_eq_ok hb _)]
  cases hstub : stub b key columnPrefix row with
  | error fault => rfl
  | ok e =>
      rw [EStateM.bind_of_eq_ok (ofExcept_of_eq_ok rfl _)]
      unfold stubbed
      rw [← hinstances]
      rfl

/-- A stub that is put is one more shared instance. -/
theorem instances_stubbed (s : Session) (t : TransactionId) (key : CacheKey)
    (e : Entity) : (stubbed s t key e).instances = s.instances ++ [e] :=
  Session.instances_modifyCache _ t _

/-- A stub is found afterwards. -/
theorem find?_stubbed (ht : s.holdings.OnChain t chain)
    (hroom : 0 < (s.cacheOf t).capacity) (key : CacheKey) (e : Entity) :
    ((stubbed s t key e).cacheOf t).find? key
      = some ⟨s.instances.length, false⟩ := by
  have ht' := onChain_lookedUp ht key
  have ht'' : { lookedUp s t key with
      instances := s.instances ++ [e] }.holdings.OnChain t chain :=
    ⟨ht'.place, ht'.lt⟩
  rw [stubbed, Session.cacheOf_modifyCache ht'']
  refine IdentityCache.find?_put_self ?_
  show 0 < ((lookedUp s t key).cacheOf t).capacity
  rwa [cacheOf_lookedUp ht, IdentityCache.capacity_lookUp]

/-- Only a key that is null has no reference. -/
theorem eq_null_of_loadReference
    (hb : EntityBinding.ofType schema target = .ok b)
    (h : (loadReference schema t target key columnPrefix row).answer s
      = .ok none) : key = .null := by
  cases hkey : IdentityKey.ofValues? [key] with
  | none => exact IdentityKey.eq_null_of_ofValues? hkey
  | some identity =>
      exfalso
      cases hfound : (s.cacheOf t).find? ⟨target, identity⟩ with
      | some entry =>
          rw [EStateM.answer_of_eq_ok (loadReference_cached hkey hfound)] at h
          cases h
      | none =>
          have hload : loadReference schema t target key columnPrefix row s
            = _ := loadReference_uncached hkey hfound hb
          cases hstub : stub b key columnPrefix row with
          | error fault =>
              rw [hstub] at hload
              rw [EStateM.answer_of_eq_error hload] at h
              cases h
          | ok e =>
              rw [hstub] at hload
              rw [EStateM.answer_of_eq_ok hload] at h
              cases h

/-- Loading a relation comes to no reference exactly if its key is null. Where
the cache has an instance of the target under the key, the reference is to that
one, and it stays cached as it is. Else the reference is to a new instance, the
stub of the key, which is cached from then on and counts as not loaded; and if
there is no stub of the key, because some column cannot take what the row says,
then nothing is shared and nothing is cached under the key. -/
theorem loadReference_outcome
    (hb : EntityBinding.ofType schema target = .ok b)
    (hone : EntityBinding.identityCountOf schema target = 1)
    (hrow : Row.ofValues values (.ofColumns names) = .ok row)
    (ht : s.holdings.OnChain t chain) (hroom : 0 < (s.cacheOf t).capacity)
    (key : Value) (columnPrefix : String) :
    let load := loadReference schema t target key columnPrefix row
    (load.answer s = .ok none ↔ key = .null)
    ∧ (key = .null → load.after s = s)
    ∧ (key ≠ .null → ∃ identity, IdentityKey.ofValues? [key] = some identity
      ∧ (∀ entry, (s.cacheOf t).find? ⟨target, identity⟩ = some entry →
          load.answer s = .ok (some ⟨key, entry.item⟩)
          ∧ (load.after s).instances = s.instances
          ∧ ((load.after s).cacheOf t).find? ⟨target, identity⟩ = some entry)
      ∧ ((s.cacheOf t).find? ⟨target, identity⟩ = none →
          (∀ e, b.StubOf names values key columnPrefix e →
            load.answer s = .ok (some ⟨key, s.instances.length⟩)
            ∧ (load.after s).instances = s.instances ++ [e]
            ∧ ((load.after s).cacheOf t).find? ⟨target, identity⟩
              = some ⟨s.instances.length, false⟩)
          ∧ ((∀ e, ¬ b.StubOf names values key columnPrefix e) →
            (∃ fault, load.answer s = .error fault)
            ∧ (load.after s).instances = s.instances
            ∧ ((load.after s).cacheOf t).find? ⟨target, identity⟩ = none))) := by
  intro load
  cases hkey : IdentityKey.ofValues? [key] with
  -- only a null makes no key
  | none =>
      obtain rfl := IdentityKey.eq_null_of_ofValues? hkey
      exact ⟨⟨fun _ => rfl, fun _ => rfl⟩, fun _ => rfl, fun h => absurd rfl h⟩
  | some identity =>
      have hne : key ≠ .null := by
        rintro rfl
        cases hkey
      have hinstances := instances_lookedUp s t ⟨target, identity⟩
      have hsame := find?_lookedUp ht ⟨target, identity⟩ ⟨target, identity⟩
      have hstubs : ∀ e, stub b key columnPrefix row = .ok e
          ↔ b.StubOf names values key columnPrefix e := fun _ =>
        EntityBinding.stub_eq_ok_iff hb hone hrow
      refine ⟨⟨eq_null_of_loadReference hb, fun h => absurd h hne⟩,
        fun h => absurd h hne, fun _ => ⟨identity, rfl, ?_, ?_⟩⟩
      · -- cached: looking it up leaves the entry as it is
        intro entry hfound
        have hload : load s = _ := loadReference_cached hkey hfound
        rw [EStateM.answer_of_eq_ok hload, EStateM.after_of_eq_ok hload]
        exact ⟨rfl, hinstances, hsame.trans hfound⟩
      · -- not cached: there is a stub of the key, or a column refuses it
        intro hfound
        have hload : load s = _ := loadReference_uncached hkey hfound hb
        refine ⟨fun e he => ?_, fun hnone => ?_⟩
        · rw [(hstubs e).mpr he] at hload
          rw [EStateM.answer_of_eq_ok hload, EStateM.after_of_eq_ok hload]
          exact ⟨rfl, instances_stubbed .., find?_stubbed ht hroom _ e⟩
        · cases hstub : stub b key columnPrefix row with
          | ok e => exact absurd ((hstubs e).mp hstub) (hnone e)
          | error fault =>
              rw [hstub] at hload
              rw [EStateM.answer_of_eq_error hload,
                EStateM.after_of_eq_error hload]
              exact ⟨⟨fault, rfl⟩, hinstances, hsame.trans hfound⟩

/-- A row that names the customer of an order. -/
def ordered : Row where
  values := [.int64 7, .text "Ada"]
  resolver := .ofColumns [⟨none, "customer_id"⟩, ⟨some "c", "Customer_Name"⟩]
  width_eq := rfl

/-- The customer of the order is not known yet. -/
theorem loadReference_outcome_ordered :
    let s := (begin true).after (.blank .empty)
    let load := loadReference EntityBinding.shop 0 "Customer" (.int64 7)
      "customer_" ordered
    load.answer s = .ok (some ⟨.int64 7, 0⟩)
      ∧ (load.after s).instances = [EntityBinding.buyer]
      ∧ ((load.after s).cacheOf 0).find? ⟨"Customer", ⟨[.int 7]⟩⟩
        = some ⟨0, false⟩ := by
  intro s load
  have hname : Means [⟨none, "customer_id"⟩, ⟨some "c", "Customer_Name"⟩]
      "customer_name" (.ok 1) :=
    ColumnResolver.resolve_eq_iff.mp rfl
  have hstub : EntityBinding.customers.StubOf
      [⟨none, "customer_id"⟩, ⟨some "c", "Customer_Name"⟩]
      [.int64 7, .text "Ada"] (.int64 7) "customer_" EntityBinding.buyer :=
    ⟨rfl, rfl, .cons (.key rfl rfl rfl)
      (.cons (.said rfl rfl hname rfl rfl) .nil)⟩
  have hrow : Row.ofValues ordered.values (.ofColumns
      [⟨none, "customer_id"⟩, ⟨some "c", "Customer_Name"⟩]) = .ok ordered :=
    rfl
  have ht : s.holdings.OnChain 0 0 := ⟨rfl, by decide⟩
  have hb : EntityBinding.ofType EntityBinding.shop "Customer"
      = .ok EntityBinding.customers := rfl
  obtain ⟨-, -, hkey⟩ := loadReference_outcome hb rfl hrow ht (by decide)
    (.int64 7) "customer_"
  obtain ⟨identity, hidentity, -, hstubbed⟩ := hkey nofun
  cases hidentity
  exact (hstubbed rfl).1 _ hstub

end Action

end DataAccess
