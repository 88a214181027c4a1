/-
What the identity columns of an entity hold. An entity that is filled from a
row holds what the cells of the row decode to (`identity_of_load`); a stub
holds what its key decodes to (`identity_of_stub`). Both come down to which
fields a step sets, and which it leaves as they are (`Sets`). The identity is
then what these data are stored as, and there is none where structured data
cannot be stored again.
-/
import DataAccess.Proofs.Entity.Reading
import DataAccess.Proofs.Session.Browsing

namespace DataAccess

-- ================================================================= reading

/-- A field of an entity holds a datum that has to do with a column. -/
def Entity.Holds (e : Entity) (P : ColumnBinding → Datum → Prop)
    (column : ColumnBinding) (index : Nat) : Prop :=
  ∃ d, e.fields[index]? = some (.plain d) ∧ P column d

namespace EntityBinding

variable {b : EntityBinding} {e : Entity} {P : ColumnBinding → Datum → Prop}

/-- A plain column reads as what its datum is stored as. -/
theorem read_plain_eq_ok_iff {c : ColumnBinding} {d : Datum} {v : Value} :
    b.read c (.plain d) = .ok v ↔ d.StoredAs v :=
  Except.mapError_eq_ok_iff

/-- The identity of an entity is read off its identity columns, each of which
holds one datum. -/
theorem readAll_filter (b : EntityBinding) {columns : List ColumnBinding}
    {fields : List Field} (hlength : fields.length = columns.length)
    (h : ∀ (i : Nat) column, columns[i]? = some column →
      column.identity = true → ∃ d,
        fields[i]? = some (Field.plain d) ∧ P column d) :
    ∃ ds, List.Forall₂ P (columns.filter (·.identity)) ds
      ∧ ∀ vs, b.readAll ((columns.zip fields).filter fun (c, _) => c.identity)
          = .ok vs
        ↔ List.Forall₂ Datum.StoredAs ds vs := by
  simp only [readAll_eq_ok_iff]
  induction columns generalizing fields with
  | nil => exact ⟨[], .nil, fun vs => by simp⟩
  | cons column columns ih =>
      cases fields with
      | nil => cases hlength
      | cons f fields =>
          obtain ⟨ds, hds, hread⟩ := ih (Nat.succ.inj hlength)
            fun i c hc => h (i + 1) c hc
          rw [List.zip_cons_cons]
          by_cases hidentity : column.identity = true
          · obtain ⟨d, hf, hd⟩ := h 0 column rfl hidentity
            cases hf
            simp only [List.filter_cons, hidentity, if_true]
            refine ⟨d :: ds, .cons hd hds, fun vs => ?_⟩
            simp only [List.forall₂_cons_left_iff, hread,
              read_plain_eq_ok_iff]
          · simp only [List.filter_cons, hidentity]
            exact ⟨ds, hds, hread⟩

/-- The identity of an entity is what its identity columns hold, as it is
stored. -/
theorem identity_of_holds (hlength : e.fields.length = b.columns.length)
    (h : ∀ (i : Nat) column, b.columns[i]? = some column →
      column.identity = true → e.Holds P column i) :
    ∃ ds, List.Forall₂ P (b.columns.filter (·.identity)) ds
      ∧ ∀ identity, b.identity e = .ok identity
        ↔ ∃ vs, List.Forall₂ Datum.StoredAs ds vs
          ∧ IdentityKey.ofValues? vs = identity := by
  obtain ⟨ds, hds, hread⟩ := b.readAll_filter hlength h
  refine ⟨ds, hds, fun identity => ?_⟩
  have hvalues : ∀ vs, b.identityValues e = .ok vs
      ↔ List.Forall₂ Datum.StoredAs ds vs := hread
  unfold EntityBinding.identity
  simp only [← hvalues]
  cases b.identityValues e <;> simp [Except.map]

end EntityBinding

-- ================================================================= setting

/-- A step sets fields of an entity, and leaves the others as they are. -/
structure Entity.Sets (e e' : Entity) (positions : List Nat) : Prop where
  length : e'.fields.length = e.fields.length
  others : ∀ j ∉ positions, e'.fields[j]? = e.fields[j]?

section

variable {e e' e'' : Entity} {ps qs : List Nat}

theorem Entity.sets_refl (e : Entity) (ps : List Nat) : e.Sets e ps :=
  ⟨rfl, fun _ _ => rfl⟩

/-- Fields that are set one after the other. -/
theorem Entity.Sets.trans (h : e.Sets e' ps) (h' : e'.Sets e'' qs) :
    e.Sets e'' (ps ++ qs) := by
  refine ⟨h'.length.trans h.length, fun j hj => ?_⟩
  rw [List.mem_append, not_or] at hj
  exact (h'.others j hj.2).trans (h.others j hj.1)

/-- A field is set, and no other. -/
theorem Entity.sets_setField (e : Entity) (index : Nat) (f : Field) :
    e.Sets (e.setField index f) [index] := by
  refine ⟨List.length_set, fun j hj => ?_⟩
  exact List.getElem?_set_ne fun h => hj (List.mem_singleton.mpr h.symm)

/-- What a column holds it holds, if it is not set. -/
theorem Entity.Sets.holds {P : ColumnBinding → Datum → Prop}
    {column : ColumnBinding} {index : Nat} (h : e.Sets e' ps)
    (hindex : index ∉ ps) (hholds : e.Holds P column index) :
    e'.Holds P column index := by
  obtain ⟨d, hd, hP⟩ := hholds
  exact ⟨d, (h.others index hindex).trans hd, hP⟩

end

namespace EntityBinding

variable {b : EntityBinding} {e e' : Entity} {column : ColumnBinding}
  {index : Nat} {v : Value}

/-- A column holds what a value decodes to. -/
def Decodes (v : Value) (column : ColumnBinding) (d : Datum) : Prop :=
  ∃ type, column.access = .plain type ∧ type.decode v = .ok d

/-- Setting a column sets its field, if it is a plain one. -/
theorem sets_setColumn (h : b.setColumn column index v e = .ok () e') :
    e.Sets e' [index]
      ∧ (index < e.fields.length → (∃ type, column.access = .plain type) →
        e'.Holds (Decodes v) column index) := by
  unfold setColumn at h
  cases haccess : column.access with
  | relation =>
      rw [haccess] at h
      cases h
      exact ⟨Entity.sets_refl _ _, fun _ ⟨_, h⟩ => nomatch h⟩
  | plain type =>
      rw [haccess] at h
      dsimp only at h
      cases hd : type.decode v with
      | error _ =>
          rw [hd] at h
          cases h
      | ok d =>
          rw [hd] at h
          obtain rfl : e.setField index (.plain d) = e' :=
            (EStateM.Result.ok.inj h).2
          refine ⟨e.sets_setField _ _, fun hlt _ => ⟨d, ?_, type, haccess, hd⟩⟩
          exact List.getElem?_set_self hlt

/-- Filling columns by a prefix sets at most these columns. -/
theorem sets_populateColumns {columnPrefix : String} {row : Row}
    {columns : List (ColumnBinding × Nat)}
    (h : b.populateColumns columnPrefix row columns e = .ok () e') :
    e.Sets e' (columns.map Prod.snd) := by
  induction columns generalizing e with
  | nil =>
      cases h
      exact Entity.sets_refl _ _
  | cons p columns ih =>
      obtain ⟨column, index⟩ := p
      unfold populateColumns at h
      cases hv : row.value? (columnPrefix ++ column.name) with
      | some v =>
          rw [hv] at h
          change (b.setColumn column index v >>= fun _ =>
            b.populateColumns columnPrefix row columns) e = .ok () e' at h
          obtain ⟨_, e₁, hfirst, hrest⟩ := EStateM.bind_eq_ok_iff.mp h
          exact (sets_setColumn hfirst).1.trans (ih hrest)
      | none =>
          rw [hv] at h
          change b.populateColumns columnPrefix row columns e = .ok () e' at h
          exact (Entity.sets_refl _ [index]).trans (ih h)

-- =================================================================== stubs

/-- The identity columns, at their places. -/
theorem mem_identityPositions {p : ColumnBinding × Nat} :
    p ∈ b.identityPositions
      ↔ b.columns[p.2]? = some p.1 ∧ p.1.identity = true := by
  unfold identityPositions
  rw [List.mem_filter, List.mem_zipIdx_iff_getElem?]

/-- Filling by a prefix leaves the identity alone. -/
theorem holds_populatePrefixed {P : ColumnBinding → Datum → Prop}
    {columnPrefix : String} {row : Row}
    (h : b.populatePrefixed columnPrefix row e = .ok () e')
    (hcolumn : b.columns[index]? = some column)
    (hidentity : column.identity = true) (hholds : e.Holds P column index) :
    e'.Holds P column index := by
  refine (sets_populateColumns h).holds (fun hmem => ?_) hholds
  obtain ⟨p, hp, rfl⟩ := List.mem_map.mp hmem
  obtain ⟨hp, hplain⟩ := List.mem_filter.mp hp
  rw [List.mem_zipIdx_iff_getElem?, hcolumn] at hp
  cases hp
  simp [hidentity] at hplain

theorem length_initial (b : EntityBinding) :
    b.initial.fields.length = b.columns.length :=
  List.length_map _

/-- Every column has a place of its own. -/
theorem nodup_places (b : EntityBinding) :
    (b.columns.zipIdx.map Prod.snd).Nodup := by
  rw [List.zipIdx_map_snd]
  exact List.nodup_range'

/-- It is a place of a new entity. -/
theorem lt_of_mem_zipIdx {p : ColumnBinding × Nat}
    (h : p ∈ b.columns.zipIdx) : p.2 < b.initial.fields.length := by
  rw [b.length_initial]
  exact (List.getElem?_eq_some_iff.mp (List.mem_zipIdx_iff_getElem?.mp h)).1

/-- Setting an identity of one value sets the one column of it. -/
theorem holds_setIdentity {schema : Schema} {typeName : String}
    (hb : EntityBinding.ofType schema typeName = .ok b)
    (hlength : e.fields.length = b.columns.length)
    (h : b.setIdentity [v] e = .ok () e') :
    ∃ p, b.identityPositions = [p]
      ∧ e'.fields.length = e.fields.length ∧ e'.Holds (Decodes v) p.1 p.2 := by
  unfold setIdentity at h
  split at h
  · cases h
  · next hwidth =>
    obtain ⟨p, hp⟩ := List.length_eq_one_iff.mp (not_not.mp hwidth).symm
    obtain ⟨column, index⟩ := p
    rw [hp] at h
    obtain ⟨_, e₁, hset, hrest⟩ := EStateM.bind_eq_ok_iff.mp h
    cases hrest
    obtain ⟨hcolumn, hidentity⟩ := mem_identityPositions.mp
      (hp ▸ List.mem_singleton_self _)
    obtain ⟨hsets, hholds⟩ := sets_setColumn hset
    refine ⟨_, hp, hsets.length, hholds ?_ ?_⟩
    · rw [hlength]
      exact (List.getElem?_eq_some_iff.mp hcolumn).1
    · exact access_of_identity hb (List.mem_of_getElem? hcolumn) hidentity

/-- They stand in the order of the declaration. -/
theorem map_identityPositions (b : EntityBinding) :
    b.identityPositions.map Prod.fst = b.columns.filter (·.identity) := by
  unfold identityPositions
  conv_rhs => rw [← List.zipIdx_map_fst 0 b.columns, List.filter_map]
  rfl

/-- The identity of a stub is what its key decodes to. -/
theorem identity_of_stub {schema : Schema} {typeName columnPrefix : String}
    {row : Row} (hb : EntityBinding.ofType schema typeName = .ok b)
    (he : Action.stub b v columnPrefix row = .ok e) :
    ∃ column type d, b.columns.filter (·.identity) = [column]
      ∧ column.access = .plain type ∧ type.decode v = .ok d
      ∧ ∀ identity, b.identity e = .ok identity
        ↔ ∃ w, d.StoredAs w ∧ IdentityKey.ofValues? [w] = identity := by
  have hrun : (b.setIdentity [v] >>= fun _ =>
      b.populatePrefixed columnPrefix row) b.initial = .ok () e := by
    unfold Action.stub at he
    dsimp only at he
    split at he
    · next hrun =>
      cases he
      exact hrun
    · cases he
  obtain ⟨_, e₁, hset, hpopulate⟩ := EStateM.bind_eq_ok_iff.mp hrun
  -- setting one value succeeds only where the identity is one column
  obtain ⟨p, hp, hlength, hholds⟩ :=
    holds_setIdentity hb b.length_initial hset
  have hcolumns : b.columns.filter (·.identity) = [p.1] := by
    rw [← map_identityPositions, hp]
    rfl
  -- the columns that the row fills are other ones
  have hall : ∀ i column, b.columns[i]? = some column →
      column.identity = true → e.Holds (Decodes v) column i := by
    intro i column hcolumn hidentity
    have hmem : (column, i) ∈ b.identityPositions :=
      mem_identityPositions.mpr ⟨hcolumn, hidentity⟩
    rw [hp] at hmem
    cases List.mem_singleton.mp hmem
    exact holds_populatePrefixed hpopulate hcolumn hidentity hholds
  obtain ⟨ds, hds, hidentity⟩ := identity_of_holds
    ((sets_populateColumns hpopulate).length.trans
      (hlength.trans b.length_initial)) hall
  rw [hcolumns] at hds
  cases hds with
  | cons hd hnil =>
      cases hnil
      obtain ⟨type, haccess, hdecode⟩ := hd
      refine ⟨p.1, type, _, hcolumns, haccess, hdecode, fun identity => ?_⟩
      rw [hidentity]
      simp only [List.forall₂_cons_left_iff, List.forall₂_nil_left_iff]
      constructor
      · rintro ⟨_, ⟨w, _, hw, rfl, rfl⟩, hkey⟩
        exact ⟨w, hw, hkey⟩
      · rintro ⟨w, hw, hkey⟩
        exact ⟨_, ⟨w, [], hw, rfl, rfl⟩, hkey⟩

-- ================================================================= loading

/-- A column holds what its cell in a row decodes to. -/
def Reads (b : EntityBinding) (row : Row) (column : ColumnBinding)
    (d : Datum) : Prop :=
  ∃ v, b.lookup row column.name = .ok v ∧ Decodes v column d

end EntityBinding

namespace EntityAction

open EntityBinding

variable {schema : Schema} {t : TransactionId} {b : EntityBinding} {row : Row}
  {w w' : Workbench} {column : ColumnBinding} {index : Nat}

/-- What an edit did beside the session it does by itself. -/
theorem eq_ok_of_ofEdit {edit : Edit Unit} (h : ofEdit edit w = .ok () w') :
    edit w.entity = .ok () w'.entity := by
  unfold ofEdit at h
  split at h
  · next hedit =>
    cases h
    exact hedit
  · cases h

/-- Setting a column from a row sets its field. -/
theorem sets_injectColumn
    (h : injectColumn schema t b row column index w = .ok () w') :
    w.entity.Sets w'.entity [index]
      ∧ (index < w.entity.fields.length →
        (∃ type, column.access = .plain type) →
        w'.entity.Holds (b.Reads row) column index) := by
  obtain ⟨v, w₁, hv, hrest⟩ := EStateM.bind_eq_ok_iff.mp h
  obtain ⟨hlookup, rfl⟩ := ofExcept_eq_ok_iff.mp hv
  cases haccess : column.access with
  | plain type =>
      rw [haccess] at hrest
      obtain ⟨hsets, hholds⟩ := sets_setColumn (eq_ok_of_ofEdit hrest)
      refine ⟨hsets, fun hlt _ => ?_⟩
      obtain ⟨d, hd, hdecodes⟩ := hholds hlt ⟨type, haccess⟩
      exact ⟨d, hd, v, hlookup, hdecodes⟩
  | relation target columnPrefix =>
      rw [haccess] at hrest
      obtain ⟨reference, w₂, hload, hset⟩ := EStateM.bind_eq_ok_iff.mp hrest
      have hentity : w₂.entity = w₁.entity := by
        rw [← EStateM.after_of_eq_ok hload, after_ofAction]
      have hrun := eq_ok_of_ofEdit hset
      have hset : w₂.entity.setField index (.relation reference)
        = w'.entity := (EStateM.Result.ok.inj hrun).2
      rw [← hset, hentity]
      exact ⟨w₁.entity.sets_setField _ _, fun _ ⟨_, h⟩ => nomatch h⟩

/-- Setting columns from a row sets their fields. -/
theorem sets_injectColumns {columns : List (ColumnBinding × Nat)}
    (hnodup : (columns.map Prod.snd).Nodup)
    (hlt : ∀ p ∈ columns, p.2 < w.entity.fields.length)
    (h : injectColumns schema t b row columns w = .ok () w') :
    w.entity.Sets w'.entity (columns.map Prod.snd)
      ∧ ∀ p ∈ columns, (∃ type, p.1.access = .plain type) →
        w'.entity.Holds (b.Reads row) p.1 p.2 := by
  induction columns generalizing w with
  | nil =>
      cases h
      exact ⟨Entity.sets_refl _ _, List.forall_mem_nil _⟩
  | cons p columns ih =>
      obtain ⟨_, w₁, hfirst, hrest⟩ := EStateM.bind_eq_ok_iff.mp h
      obtain ⟨hsets, hholds⟩ := sets_injectColumn hfirst
      obtain ⟨hp, hcolumns⟩ := List.forall_mem_cons.mp hlt
      rw [List.map_cons, List.nodup_cons] at hnodup
      obtain ⟨hsets', hholds'⟩ := ih hnodup.2
        (fun q hq => hsets.length ▸ hcolumns q hq) hrest
      refine ⟨hsets.trans hsets', List.forall_mem_cons.mpr
        ⟨fun hplain => ?_, hholds'⟩⟩
      -- no later column sets the field of the first one
      exact hsets'.holds hnodup.1 (hholds hp hplain)

end EntityAction

/-- A loaded entity was filled from its row, and then its hook ran. -/
theorem Action.exists_inject_of_load {schema : Schema} {t : TransactionId}
    {b : EntityBinding} {row : Row} {s : Session} {e : Entity}
    (he : (Action.load schema t b row).answer s = .ok e) :
    ∃ w, EntityAction.inject schema t b row ⟨b.initial, s⟩ = .ok () w
      ∧ b.runPostLoad w.entity = .ok () e := by
  unfold Action.load at he
  rw [EntityAction.answer_build] at he
  obtain ⟨w', hrun, rfl⟩ : ∃ w', (EntityAction.inject schema t b row >>=
      fun _ => EntityAction.ofEdit b.runPostLoad) ⟨b.initial, s⟩ = .ok () w'
      ∧ w'.entity = e := by
    generalize (EntityAction.inject schema t b row >>=
      fun _ => EntityAction.ofEdit b.runPostLoad) = run at he ⊢
    unfold EStateM.answer EStateM.after at he
    cases hrun : run ⟨b.initial, s⟩ with
    | ok _ w' =>
        rw [hrun] at he
        exact ⟨w', rfl, Except.ok.inj he⟩
    | error _ _ =>
        rw [hrun] at he
        cases he
  obtain ⟨_, w, hinject, hhook⟩ := EStateM.bind_eq_ok_iff.mp hrun
  exact ⟨w, hinject, EntityAction.eq_ok_of_ofEdit hhook⟩

/-- The identity of a loaded entity is, before its hook, what the identity
columns of its row decode to. -/
theorem EntityBinding.identity_of_load {schema : Schema} {typeName : String}
    {t : TransactionId} {b : EntityBinding} {row : Row} {s : Session}
    {e : Entity} (hb : EntityBinding.ofType schema typeName = .ok b)
    (he : (Action.load schema t b row).answer s = .ok e) :
    ∃ e₀ ds, e = b.runPostLoad.after e₀
      ∧ List.Forall₂ (b.Reads row) (b.columns.filter (·.identity)) ds
      ∧ ∀ identity, b.identity e₀ = .ok identity
        ↔ ∃ vs, List.Forall₂ Datum.StoredAs ds vs
          ∧ IdentityKey.ofValues? vs = identity := by
  obtain ⟨w, hinject, hhook⟩ := Action.exists_inject_of_load he
  obtain ⟨hsets, hholds⟩ := EntityAction.sets_injectColumns
    b.nodup_places (fun _ => lt_of_mem_zipIdx) hinject
  obtain ⟨ds, hds, hidentity⟩ := identity_of_holds
    (hsets.length.trans b.length_initial) fun i column hcolumn hidentity =>
      hholds (column, i) (List.mem_zipIdx_iff_getElem?.mpr hcolumn)
        (access_of_identity hb (List.mem_of_getElem? hcolumn) hidentity)
  exact ⟨w.entity, ds, (EStateM.after_of_eq_ok hhook).symm, hds, hidentity⟩

end DataAccess
