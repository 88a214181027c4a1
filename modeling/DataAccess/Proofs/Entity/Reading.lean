/-
Bindings, and what they read of an entity. A type is bound if its declaration
passes the checks (`ofType_eq_ok_iff`, `columnsFault?_eq_none_iff`): it is of a
table with a name, its columns have different names, case aside, and its
identity is of plain columns. Columns are read one by one
(`readAll_eq_ok_iff`), so that the values of an entity tell its identity
(`identity_of_readAll`).
-/
import DataAccess.Proofs.Session.Running
import Mathlib.Data.List.Forall2

namespace DataAccess

namespace EntityBinding

-- =============================================================== validation

section

variable {schema : Schema} {typeName : String} {b : EntityBinding}
  {column : ColumnBinding}

/-- A type is bound if it is declared with a table that has a name and nothing
is wrong with its columns. -/
theorem ofType_eq_ok_iff :
    ofType schema typeName = .ok b
      ↔ schema.find? typeName = some b.descriptor
        ∧ b.descriptor.table = some b.table
        ∧ Text.isBlankText b.table = false
        ∧ columnsFault? schema b.table b.descriptor = none := by
  unfold ofType
  constructor
  · intro h
    cases hd : schema.find? typeName with
    | none =>
        rw [hd] at h
        cases h
    | some d =>
        rw [hd] at h
        dsimp only at h
        unfold ofDescriptor at h
        split at h
        · cases h
        · next table htable =>
          split at h
          · cases h
          · next hblank =>
            split at h
            · cases h
            · next hfault =>
              cases h
              exact ⟨rfl, htable, Bool.eq_false_iff.mpr hblank, hfault⟩
  · rintro ⟨hfound, htable, hblank, hfault⟩
    rw [hfound]
    dsimp only
    unfold ofDescriptor
    rw [htable]
    dsimp only
    rw [if_neg (Bool.eq_false_iff.mp hblank), hfault]

/-- Nothing is wrong with columns exactly if there are some, with names and an
identity, no generated one is part of a wider identity, and the relations among
them are in order. -/
theorem columnsFault?_eq_none_iff {table : String} {d : EntityDescriptor} :
    columnsFault? schema table d = none
      ↔ d.columns ≠ [] ∧ nameFault? [] d.columns = none ∧ d.identityCount ≠ 0
        ∧ (d.columns.any (·.generated) = true → d.identityCount ≤ 1)
        ∧ relationFault? schema d.columns = none := by
  unfold columnsFault?
  by_cases hempty : d.columns = []
  · simp [hempty]
  rw [if_neg (mt List.isEmpty_iff.mp hempty)]
  cases hnames : nameFault? [] d.columns with
  | some fault => simp
  | none =>
      dsimp only
      by_cases hcount : d.identityCount = 0
      · simp [hcount]
      rw [if_neg hcount]
      by_cases hcomposite :
          (d.columns.any (·.generated) && decide (d.identityCount > 1)) = true
      · rw [if_pos hcomposite]
        obtain ⟨hgenerated, hwide⟩ := Bool.and_eq_true_iff.mp hcomposite
        have hlt := of_decide_eq_true hwide
        refine ⟨nofun, fun h => ?_⟩
        exact absurd (h.2.2.2.1 hgenerated) (Nat.not_le_of_lt hlt)
      · rw [if_neg hcomposite]
        refine ⟨fun h => ⟨hempty, rfl, hcount, fun hgenerated => ?_, h⟩,
          fun h => h.2.2.2.2⟩
        rw [hgenerated, Bool.true_and, decide_eq_true_eq] at hcomposite
        exact Nat.le_of_not_lt hcomposite

/-- The binding of a type is made of its declaration. -/
theorem find?_of_ofType (hb : ofType schema typeName = .ok b) :
    schema.find? typeName = some b.descriptor :=
  (ofType_eq_ok_iff.mp hb).1

/-- Its columns passed their check. -/
theorem columnsFault?_of_ofType (hb : ofType schema typeName = .ok b) :
    columnsFault? schema b.table b.descriptor = none :=
  (ofType_eq_ok_iff.mp hb).2.2.2

/-- Where no name is at fault, all are different. -/
theorem nodup_of_nameFault? {seen : List String}
    {columns : List ColumnBinding} (h : nameFault? seen columns = none) :
    (∀ c ∈ columns, Text.fold c.name ∉ seen)
      ∧ (columns.map fun c => Text.fold c.name).Nodup := by
  induction columns generalizing seen with
  | nil => exact ⟨List.forall_mem_nil _, List.nodup_nil⟩
  | cons c columns ih =>
      unfold nameFault? at h
      split at h
      · cases h
      · split at h
        · cases h
        · next hseen =>
          obtain ⟨hfresh, hnodup⟩ := ih h
          refine ⟨List.forall_mem_cons.mpr ⟨?_, ?_⟩, ?_⟩
          · exact fun hmem => hseen (List.contains_iff_mem.mpr hmem)
          · intro c' hc' hmem
            exact hfresh c' hc' (List.mem_cons_of_mem _ hmem)
          · refine List.nodup_cons.mpr ⟨fun hmem => ?_, hnodup⟩
            obtain ⟨c', hc', hsame⟩ := List.mem_map.mp hmem
            exact hfresh c' hc' (hsame ▸ List.mem_cons_self)

/-- No two columns of a binding have one name, case aside. -/
theorem nodup_of_ofType (hb : ofType schema typeName = .ok b) :
    (b.columns.map fun c => Text.fold c.name).Nodup := by
  obtain ⟨-, hnames, -⟩ :=
    columnsFault?_eq_none_iff.mp (columnsFault?_of_ofType hb)
  exact (nodup_of_nameFault? hnames).2

/-- A binding has an identity. -/
theorem identityCount_of_ofType (hb : ofType schema typeName = .ok b) :
    b.descriptor.identityCount ≠ 0 := by
  obtain ⟨-, -, hcount, -⟩ :=
    columnsFault?_eq_none_iff.mp (columnsFault?_of_ofType hb)
  exact hcount

/-- Relations are no identity columns, and their targets have one such column
each. -/
theorem relationFault?_eq_none_iff {columns : List ColumnBinding} :
    relationFault? schema columns = none
      ↔ ∀ c ∈ columns, ∀ target columnPrefix,
        c.access = .relation target columnPrefix →
        c.identity = false ∧ identityCountOf schema target = 1 := by
  induction columns with
  | nil => exact ⟨fun _ => List.forall_mem_nil _, fun _ => rfl⟩
  | cons c columns ih =>
      unfold relationFault?
      rw [List.forall_mem_cons, ← ih]
      cases haccess : c.access with
      | plain type => exact ⟨fun h => ⟨nofun, h⟩, And.right⟩
      | relation target columnPrefix =>
          dsimp only
          constructor
          · intro h
            split at h
            · cases h
            · next hidentity =>
              split at h
              · next hcount =>
                refine ⟨?_, h⟩
                rintro _ _ ⟨⟩
                exact ⟨Bool.eq_false_iff.mpr hidentity, hcount⟩
              · cases h
          · rintro ⟨hc, hcolumns⟩
            obtain ⟨hidentity, hcount⟩ := hc target columnPrefix rfl
            rw [hidentity, if_neg Bool.false_ne_true, if_pos hcount]
            exact hcolumns

/-- Nothing is wrong with the relations of a binding. -/
theorem relationFault?_of_ofType (hb : ofType schema typeName = .ok b) :
    relationFault? schema b.columns = none := by
  obtain ⟨-, -, -, -, hrelations⟩ :=
    columnsFault?_eq_none_iff.mp (columnsFault?_of_ofType hb)
  exact hrelations

/-- An identity column of a type of the schema is a plain one. -/
theorem access_of_identity (hb : ofType schema typeName = .ok b)
    (hmem : column ∈ b.columns) (hidentity : column.identity = true) :
    ∃ type, column.access = .plain type := by
  have hrelations :=
    relationFault?_eq_none_iff.mp (relationFault?_of_ofType hb)
  cases haccess : column.access with
  | plain type => exact ⟨type, rfl⟩
  | relation target columnPrefix =>
      have h := (hrelations column hmem target columnPrefix haccess).1
      cases hidentity.symm.trans h

/-- The target of a relation of a type of the schema has one identity
column. -/
theorem identityCountOf_of_relation (hb : ofType schema typeName = .ok b)
    (hmem : column ∈ b.columns) {target columnPrefix : String}
    (haccess : column.access = .relation target columnPrefix) :
    identityCountOf schema target = 1 :=
  (relationFault?_eq_none_iff.mp (relationFault?_of_ofType hb) column hmem
    target columnPrefix haccess).2

end

-- ================================================================== reading

variable {b : EntityBinding} {e : Entity} {columns : List ColumnBinding}
  {fields : List Field} {vs : List Value}

/-- Fields are read if each of them is. -/
theorem readAll_eq_ok_iff {bound : List (ColumnBinding × Field)} :
    b.readAll bound = .ok vs
      ↔ List.Forall₂ (fun p v => b.read p.1 p.2 = .ok v) bound vs := by
  induction bound generalizing vs with
  | nil =>
      rw [List.forall₂_nil_left_iff]
      exact ⟨fun h => (Except.ok.inj h).symm, fun h => congrArg _ h.symm⟩
  | cons p bound ih =>
      rw [List.forall₂_cons_left_iff]
      constructor
      · intro h
        obtain ⟨v, hv, h⟩ := Except.bind_eq_ok_iff.mp h
        obtain ⟨vs', hvs, h⟩ := Except.bind_eq_ok_iff.mp h
        cases h
        exact ⟨v, vs', hv, ih.mp hvs, rfl⟩
      · rintro ⟨v, vs', hv, hvs, rfl⟩
        unfold readAll
        rw [hv, ih.mpr hvs]
        rfl

/-- They can be read if each of them can. -/
theorem exists_readAll_iff {bound : List (ColumnBinding × Field)} :
    (∃ vs, b.readAll bound = .ok vs)
      ↔ ∀ p ∈ bound, ∃ v, b.read p.1 p.2 = .ok v := by
  simp only [readAll_eq_ok_iff]
  induction bound with
  | nil => exact ⟨fun _ => List.forall_mem_nil _, fun _ => ⟨[], .nil⟩⟩
  | cons p bound ih =>
      rw [List.forall_mem_cons, ← ih]
      constructor
      · rintro ⟨_, hread⟩
        cases hread with
        | cons hv hvs => exact ⟨⟨_, hv⟩, _, hvs⟩
      · rintro ⟨⟨v, hv⟩, vs, hvs⟩
        exact ⟨v :: vs, .cons hv hvs⟩

/-- If columns can be read, each of them can. -/
theorem read_of_readAll {bound : List (ColumnBinding × Field)}
    {c : ColumnBinding} {f : Field} (h : b.readAll bound = .ok vs)
    (hmem : (c, f) ∈ bound) : ∃ v, b.read c f = .ok v :=
  exists_readAll_iff.mp ⟨vs, h⟩ (c, f) hmem

/-- What is read of some columns is among what is read of all. -/
theorem readAll_filter_zip (p : ColumnBinding → Bool)
    (hlength : fields.length = columns.length)
    (h : b.readAll (columns.zip fields) = .ok vs) :
    b.readAll ((columns.zip fields).filter fun (c, _) => p c)
      = .ok (((columns.zip vs).filter fun (c, _) => p c).map
        Prod.snd) := by
  induction columns generalizing fields vs with
  | nil => rfl
  | cons c columns ih =>
      cases fields with
      | nil => cases hlength
      | cons f fields =>
          rw [List.zip_cons_cons] at h
          obtain ⟨v, vs', hv, hvs, rfl⟩ :=
            List.forall₂_cons_left_iff.mp (readAll_eq_ok_iff.mp h)
          have hrest := ih (Nat.succ.inj hlength) (readAll_eq_ok_iff.mpr hvs)
          rw [List.zip_cons_cons, List.zip_cons_cons]
          by_cases hp : p c = true
          · simp only [List.filter_cons, hp, if_true, List.map_cons]
            unfold readAll
            rw [hv, hrest]
            rfl
          · simp only [List.filter_cons, hp]
            exact hrest

/-- The values of an entity stand next to the names of its columns. -/
theorem exists_of_values {cells : List (String × Value)}
    (h : b.values e = .ok cells) :
    ∃ vs, b.readAll (b.bound e) = .ok vs ∧ b.columnNames.zip vs = cells :=
  Except.exists_of_map_eq_ok h

end EntityBinding

end DataAccess
