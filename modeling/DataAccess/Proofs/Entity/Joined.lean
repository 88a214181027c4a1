/-
Entities from joined rows. A row of a join has the columns of several tables,
often under the same bare names. An entity looks each of its columns up under
its own table first, and the first column that is called so is found whatever
else is in the row (`lookup_of_heads`). So two rows that have the same values
there fill two entities alike.

What a relation comes to is the exception: its key is a value of the row, but
the instance it stands for is out of the cache, or a stub with whatever the
row says under a prefix. Entities that were filled from the two rows agree up
to that (`Entity.Agrees`): what a column takes is told by its value alone, but
for the instance (`Puts`). Without relations there is no exception, and the two
loads are one and the same (`load_of_plain`).

A hook that runs after loading is given the whole entity. If it does not look
at what references stand for, it takes entities that agree to entities that
agree (`OverlooksTargets`). One that does look can make the two differ, and so
can columns that are called `table/column` by their bare names, since these are
not found under the table (`not_loaded_alike`).
-/
import DataAccess.Proofs.Entity.Injection
import DataAccess.Proofs.Row.Meaning

namespace DataAccess

-- ================================================================ agreement

/-- Fields that are alike but for the instance that a reference stands for. -/
inductive Field.Agrees : Field → Field → Prop where
  | plain (datum : Datum) : Agrees (.plain datum) (.plain datum)
  | relation {reference reference' : Option Reference}
    (hid : reference.map (·.id) = reference'.map (·.id)) :
    Agrees (.relation reference) (.relation reference')

/-- Entities that are alike but for the instances that their references stand
for. -/
structure Entity.Agrees (e e' : Entity) : Prop where
  type : e.type = e'.type
  fields : List.Forall₂ Field.Agrees e.fields e'.fields
  counters : e.counters = e'.counters

/-- A hook that does not look at what references stand for. -/
def OverlooksTargets (hook : Edit Unit) : Prop :=
  ∀ e e', e.Agrees e' → ∀ e₁ e₁', hook e = .ok () e₁ →
    hook e' = .ok () e₁' → e₁.Agrees e₁'

/-- Entities with the same values in their plain columns, the same foreign keys
and the same identity. -/
structure EntityBinding.SameColumns (b : EntityBinding) (e e' : Entity) :
    Prop where
  plain : ∀ (i : Nat) c type, b.columns[i]? = some c →
    c.access = .plain type → ∀ datum,
      e.fields[i]? = some (.plain datum) ↔ e'.fields[i]? = some (.plain datum)
  foreign : ∀ (i : Nat) c target columnPrefix, b.columns[i]? = some c →
    c.access = .relation target columnPrefix →
      (e.referenceAt? i).map (·.id) = (e'.referenceAt? i).map (·.id)
  identity : b.identity e = b.identity e'

theorem Field.agrees_refl (f : Field) : f.Agrees f := by
  cases f with
  | plain datum => exact .plain datum
  | relation reference => exact .relation rfl

theorem Entity.agrees_refl (e : Entity) : e.Agrees e :=
  ⟨rfl, List.forall₂_same.mpr fun f _ => f.agrees_refl, rfl⟩

section

variable {b : EntityBinding} {e e' : Entity} {f f' : Field} {i : Nat}

/-- Lists that agree do so after the same place of both is set alike. -/
theorem forall₂_set {α β : Type} {R : α → β → Prop} {xs : List α}
    {ys : List β} {x : α} {y : β} (h : List.Forall₂ R xs ys) (hxy : R x y)
    (i : Nat) : List.Forall₂ R (xs.set i x) (ys.set i y) := by
  induction h generalizing i with
  | nil => exact .nil
  | cons hfirst hrest ih =>
      cases i with
      | zero => exact .cons hxy hrest
      | succ i => exact .cons hfirst (ih i)

/-- So do entities after the same field of both is set alike. -/
theorem Entity.Agrees.setField (h : e.Agrees e') (hf : f.Agrees f')
    (i : Nat) : (e.setField i f).Agrees (e'.setField i f') :=
  ⟨h.type, forall₂_set h.fields hf i, h.counters⟩

/-- A column of an entity is read without looking at an instance. -/
theorem Field.Agrees.read (h : f.Agrees f') (c : ColumnBinding) :
    b.read c f = b.read c f' := by
  cases h with
  | plain datum => rfl
  | @relation reference reference' hid =>
      cases reference <;> cases reference' <;> simp at hid
      · rfl
      · simp [EntityBinding.read, hid]

/-- Fields that agree are read alike. -/
theorem readAll_agrees {columns : List ColumnBinding}
    {fields fields' : List Field}
    (h : List.Forall₂ Field.Agrees fields fields')
    (p : ColumnBinding → Bool) :
    b.readAll ((columns.zip fields).filter fun (c, _) => p c)
      = b.readAll ((columns.zip fields').filter fun (c, _) => p c) := by
  induction h generalizing columns with
  | nil => rfl
  | cons hf _ ih =>
      cases columns with
      | nil => rfl
      | cons c columns =>
          have hrest := @ih columns
          by_cases hp : p c = true
          · simp only [List.zip_cons_cons, List.filter_cons, hp, if_true]
            unfold EntityBinding.readAll
            rw [hf.read, hrest]
          · simp only [List.zip_cons_cons, List.filter_cons, hp]
            exact hrest

/-- Entities that agree have one identity. -/
theorem Entity.Agrees.identity (h : e.Agrees e') :
    b.identity e = b.identity e' := by
  unfold EntityBinding.identity EntityBinding.identityValues
    EntityBinding.bound
  rw [readAll_agrees h.fields]

/-- At each position there are fields that agree, or none. -/
theorem Entity.Agrees.fieldAt (h : e.Agrees e') (i : Nat) :
    e.fields[i]? = none ∧ e'.fields[i]? = none
      ∨ ∃ f f', e.fields[i]? = some f ∧ e'.fields[i]? = some f'
        ∧ f.Agrees f' := by
  have hlength := h.fields.length_eq
  by_cases hlt : i < e.fields.length
  · have hlt' : i < e'.fields.length := by omega
    exact Or.inr ⟨_, _, List.getElem?_eq_getElem hlt,
      List.getElem?_eq_getElem hlt', h.fields.get hlt hlt'⟩
  · refine Or.inl ⟨List.getElem?_eq_none (by omega),
      List.getElem?_eq_none (by omega)⟩

/-- Entities that agree have the same columns. -/
theorem Entity.Agrees.sameColumns (h : e.Agrees e') (b : EntityBinding) :
    b.SameColumns e e' := by
  refine ⟨fun i _ _ _ _ datum => ?_, fun i _ _ _ _ _ => ?_, h.identity⟩
  · rcases h.fieldAt i with ⟨hnone, hnone'⟩ | ⟨f, f', hf, hf', hagrees⟩
    · rw [hnone, hnone']
    · rw [hf, hf']
      cases hagrees with
      | plain datum' => rfl
      | relation hid => simp
  · unfold Entity.referenceAt?
    rcases h.fieldAt i with ⟨hnone, hnone'⟩ | ⟨f, f', hf, hf', hagrees⟩
    · rw [hnone, hnone']
    · rw [hf, hf']
      cases hagrees with
      | plain datum' => rfl
      | relation hid => exact hid

end

-- ==================================================================== looking

/-- A row has a value in the first of its columns that is called so in full. -/
def Row.Heads (row : Row) (name : String) (v : Value) : Prop :=
  ∃ (columns : List ColumnMeta) (i : Nat) (c : ColumnMeta),
    row.resolver = .ofColumns columns ∧ columns[i]? = some c
      ∧ c.isCalledInFull name = true
      ∧ (∀ j c', columns[j]? = some c' → c'.isCalledInFull name = true → i ≤ j)
      ∧ row.values[i]? = some v

/-- Two rows have the same values under the table of a type and its columns,
whatever else they have. -/
def EntityBinding.Shared (b : EntityBinding) (row row' : Row) : Prop :=
  ∀ c ∈ b.columns, ∃ v,
    row.Heads (ColumnResolver.qualifiedName b.table c.name) v
      ∧ row'.Heads (ColumnResolver.qualifiedName b.table c.name) v

/-- The value under the table is found, and no other column is looked at. -/
theorem EntityBinding.lookup_of_heads {b : EntityBinding} {row : Row}
    {column : String} {v : Value}
    (h : row.Heads (ColumnResolver.qualifiedName b.table column) v) :
    b.lookup row column = .ok v := by
  obtain ⟨columns, i, c, hresolver, hc, hcalled, hfirst, hv⟩ := h
  have hresolve := ColumnResolver.resolve_of_means (.first
    (Text.slash_mem_qualifiedName b.table column) hc hcalled hfirst)
  have hfound : row.value? (ColumnResolver.qualifiedName b.table column)
      = some v := by
    unfold Row.value? Row.valueAt Row.at?
    rw [hresolver, ColumnResolver.find?_eq_some_iff.mpr hresolve]
    simp [hv]
  unfold lookup
  rw [hfound]

-- ==================================================================== filling

/-- What a column takes from a value: what it decodes to, or a reference with
the value as its key unless that is null. -/
inductive ColumnBinding.Puts (c : ColumnBinding) (v : Value) : Field → Prop where
  | plain {type : FieldType} {d : Datum} (haccess : c.access = .plain type)
    (hd : type.decode v = .ok d) : Puts c v (.plain d)
  | relation {target columnPrefix : String} {reference : Option Reference}
    (haccess : c.access = .relation target columnPrefix)
    (hid : reference.map (·.id)
      = (IdentityKey.ofValues? [v]).map fun _ => v) :
    Puts c v (.relation reference)

/-- What a column takes from one value agrees. -/
theorem ColumnBinding.Puts.agrees {c : ColumnBinding} {v : Value}
    {f f' : Field} (h : c.Puts v f) (h' : c.Puts v f') : f.Agrees f' := by
  cases h with
  | plain haccess hd =>
      cases h' with
      | plain haccess' hd' =>
          cases haccess.symm.trans haccess'
          cases hd.symm.trans hd'
          exact .plain _
      | relation haccess' _ => cases haccess.symm.trans haccess'
  | relation haccess hid =>
      cases h' with
      | plain haccess' _ => cases haccess.symm.trans haccess'
      | relation _ hid' => exact .relation (hid.trans hid'.symm)

/-- The key of a reference that a row holds is the value it was made from. -/
theorem Action.id_of_loadReference {schema : Schema} {t : TransactionId}
    {target columnPrefix : String} {key : Value} {row : Row} {s s' : Session}
    {reference : Option Reference}
    (h : loadReference schema t target key columnPrefix row s
      = .ok reference s') :
    reference.map (·.id) = (IdentityKey.ofValues? [key]).map fun _ => key := by
  unfold loadReference at h
  cases hidentity : IdentityKey.ofValues? [key] with
  | none =>
      rw [hidentity] at h
      cases h
      rfl
  | some identity =>
      rw [hidentity] at h
      obtain ⟨found, s₁, -, h⟩ := EStateM.bind_eq_ok_iff.mp h
      cases found with
      | some found =>
          cases h
          rfl
      | none =>
          obtain ⟨b, _, -, h⟩ := EStateM.bind_eq_ok_iff.mp h
          obtain ⟨e, _, -, h⟩ := EStateM.bind_eq_ok_iff.mp h
          obtain ⟨shared, _, -, h⟩ := EStateM.bind_eq_ok_iff.mp h
          obtain ⟨_, _, -, h⟩ := EStateM.bind_eq_ok_iff.mp h
          cases h
          rfl

/-- What a step with other errors results in is what the step results in. -/
theorem Action.eq_ok_of_mapError {α : Type} {f : Error → Error}
    {a : Action α} {x : α} {s s' : Session}
    (h : mapError f a s = .ok x s') : a s = .ok x s' := by
  unfold mapError at h
  split at h
  · next hok =>
    cases h
    exact hok
  · cases h

namespace EntityAction

open EntityBinding

variable {schema : Schema} {t t' : TransactionId} {b : EntityBinding}
  {row row' : Row} {w w' w₁ w₁' : Workbench} {c : ColumnBinding} {index : Nat}
  {v : Value}

/-- A relation that is set has the value that it finds as its key. -/
theorem puts_injectRelation {target columnPrefix : String}
    (haccess : c.access = .relation target columnPrefix)
    (h : injectRelation schema t b c index target columnPrefix v row w
      = .ok () w₁) :
    ∃ f, c.Puts v f ∧ w₁.entity = w.entity.setField index f := by
  obtain ⟨reference, w₂, hload, hset⟩ := EStateM.bind_eq_ok_iff.mp h
  have hrun := eq_ok_of_ofEdit hset
  have hrun : w₂.entity.setField index (.relation reference) = w₁.entity :=
    (EStateM.Result.ok.inj hrun).2
  unfold ofAction at hload
  split at hload
  · next hloaded =>
    cases hload
    exact ⟨_, .relation haccess
      (Action.id_of_loadReference (Action.eq_ok_of_mapError hloaded)),
      hrun.symm⟩
  · cases hload

/-- A plain column is set to the value that it finds, and nothing else is
looked at. -/
theorem injectColumn_of_plain {type : FieldType}
    (haccess : c.access = .plain type)
    (hfound : b.lookup row c.name = .ok v) :
    injectColumn schema t b row c index = ofEdit (b.setColumn c index v) := by
  funext w
  unfold injectColumn
  rw [hfound, haccess]
  rfl

/-- A column that is set takes the value that it finds. -/
theorem puts_injectColumn (hfound : b.lookup row c.name = .ok v)
    (h : injectColumn schema t b row c index w = .ok () w₁) :
    ∃ f, c.Puts v f ∧ w₁.entity = w.entity.setField index f := by
  cases haccess : c.access with
  | plain type =>
      rw [injectColumn_of_plain haccess hfound] at h
      have hset := eq_ok_of_ofEdit h
      unfold setColumn at hset
      rw [haccess] at hset
      dsimp only at hset
      cases hd : type.decode v with
      | error e =>
          rw [hd] at hset
          cases hset
      | ok d =>
          rw [hd] at hset
          exact ⟨_, .plain haccess hd, (EStateM.Result.ok.inj hset).2.symm⟩
  | relation target columnPrefix =>
      obtain ⟨v', w₀, hv, h⟩ := EStateM.bind_eq_ok_iff.mp h
      rw [hfound] at hv
      cases hv
      rw [haccess] at h
      exact puts_injectRelation haccess h

/-- Columns that find the same values are set alike. -/
theorem injectColumns_agrees {columns : List (ColumnBinding × Nat)}
    (hshared : ∀ p ∈ columns, ∃ v, b.lookup row p.1.name = .ok v
      ∧ b.lookup row' p.1.name = .ok v)
    (hw : w.entity.Agrees w'.entity)
    (h : injectColumns schema t b row columns w = .ok () w₁)
    (h' : injectColumns schema t' b row' columns w' = .ok () w₁') :
    w₁.entity.Agrees w₁'.entity := by
  induction columns generalizing w w' with
  | nil =>
      cases h
      cases h'
      exact hw
  | cons p columns ih =>
      obtain ⟨⟨v, hfound, hfound'⟩, hshared⟩ := List.forall_mem_cons.mp hshared
      obtain ⟨_, w₂, hfirst, hrest⟩ := EStateM.bind_eq_ok_iff.mp h
      obtain ⟨_, w₂', hfirst', hrest'⟩ := EStateM.bind_eq_ok_iff.mp h'
      -- One value is found in both rows, so what the column takes agrees.
      obtain ⟨f, hf, hset⟩ := puts_injectColumn hfound hfirst
      obtain ⟨f', hf', hset'⟩ := puts_injectColumn hfound' hfirst'
      refine ih hshared ?_ hrest hrest'
      rw [hset, hset']
      exact hw.setField (hf.agrees hf') p.2

/-- Edits are made beside the session one after the other. -/
theorem ofEdit_bind {α β : Type} (edit : Edit α) (f : α → Edit β) :
    ofEdit (edit >>= f) = ofEdit edit >>= fun x => ofEdit (f x) := by
  funext w
  show ofEdit (EStateM.bind edit f) w = EStateM.bind (ofEdit edit) _ w
  unfold ofEdit EStateM.bind
  dsimp only
  cases edit w.entity <;> rfl

/-- Plain columns that find the same values are set by the same edit, whatever
the transactions. -/
theorem exists_edit_of_plain {columns : List (ColumnBinding × Nat)}
    (hplain : ∀ p ∈ columns, p.1.isRelation = false)
    (hshared : ∀ p ∈ columns, ∃ v, b.lookup row p.1.name = .ok v
      ∧ b.lookup row' p.1.name = .ok v) :
    ∃ edit, injectColumns schema t b row columns = ofEdit edit
      ∧ injectColumns schema t' b row' columns = ofEdit edit := by
  induction columns with
  | nil => exact ⟨pure (), rfl, rfl⟩
  | cons p columns ih =>
      obtain ⟨c, index⟩ := p
      obtain ⟨hc, hplain⟩ := List.forall_mem_cons.mp hplain
      obtain ⟨⟨v, hfound, hfound'⟩, hshared⟩ := List.forall_mem_cons.mp hshared
      obtain ⟨edit, hedit, hedit'⟩ := ih hplain hshared
      cases haccess : c.access with
      | relation target columnPrefix =>
          simp [ColumnBinding.isRelation, haccess] at hc
      | plain type =>
          refine ⟨b.setColumn c index v >>= fun _ => edit, ?_, ?_⟩
          · unfold injectColumns
            rw [injectColumn_of_plain haccess hfound, hedit, ofEdit_bind]
          · unfold injectColumns
            rw [injectColumn_of_plain haccess hfound', hedit', ofEdit_bind]

end EntityAction

-- ==================================================================== loading

section

open EntityAction

variable {schema : Schema} {t t' : TransactionId} {b : EntityBinding}
  {row row' : Row}

/-- What two rows share is found in both. -/
theorem EntityBinding.Shared.found (h : b.Shared row row') :
    ∀ p ∈ b.columns.zipIdx, ∃ v, b.lookup row p.1.name = .ok v
      ∧ b.lookup row' p.1.name = .ok v := by
  intro p hp
  obtain ⟨v, hv, hv'⟩ := h p.1 (List.fst_mem_of_mem_zipIdx hp)
  exact ⟨v, lookup_of_heads hv, lookup_of_heads hv'⟩

/-- Loaded entities are what the hook makes of entities that agree. -/
theorem Action.exists_agrees_of_load {s s' : Session} {e e' : Entity}
    (hshared : b.Shared row row')
    (h : (load schema t b row).answer s = .ok e)
    (h' : (load schema t' b row').answer s' = .ok e') :
    ∃ e₀ e₀', e₀.Agrees e₀' ∧ b.runPostLoad e₀ = .ok () e
      ∧ b.runPostLoad e₀' = .ok () e' := by
  obtain ⟨w, hinject, hrun⟩ := exists_inject_of_load h
  obtain ⟨w', hinject', hrun'⟩ := exists_inject_of_load h'
  exact ⟨_, _, injectColumns_agrees hshared.found b.initial.agrees_refl
    hinject hinject', hrun, hrun'⟩

/-- A hook that overlooks targets keeps what agrees, and so does none. -/
theorem EntityBinding.agrees_of_runPostLoad {e e' e₁ e₁' : Entity}
    (hhook : ∀ hook ∈ b.descriptor.postLoad, OverlooksTargets hook)
    (he : e.Agrees e') (h : b.runPostLoad e = .ok () e₁)
    (h' : b.runPostLoad e' = .ok () e₁') : e₁.Agrees e₁' := by
  unfold runPostLoad at h h'
  cases hload : b.descriptor.postLoad with
  | none =>
      rw [hload] at h h'
      cases h
      cases h'
      exact he
  | some hook =>
      rw [hload] at h h'
      exact hhook hook hload _ _ he _ _ h h'

/-- Without relations, the loads are one and the same. -/
theorem Action.load_of_plain (hshared : b.Shared row row')
    (hplain : ∀ c ∈ b.columns, c.isRelation = false) (s s' : Session) :
    (load schema t b row).answer s = (load schema t' b row').answer s' := by
  obtain ⟨edit, hedit, hedit'⟩ :
      ∃ edit, injectColumns schema t b row b.columns.zipIdx = ofEdit edit
        ∧ injectColumns schema t' b row' b.columns.zipIdx = ofEdit edit :=
    exists_edit_of_plain
      (fun p hp => hplain p.1 (List.fst_mem_of_mem_zipIdx hp)) hshared.found
  have hload : ∀ (t : TransactionId) (row : Row) (s : Session),
      injectColumns schema t b row b.columns.zipIdx = ofEdit edit →
      (load schema t b row).answer s
        = ((edit >>= fun _ => b.runPostLoad).answer b.initial).map
          fun _ => (edit >>= fun _ => b.runPostLoad).after b.initial := by
    intro t row s hinject
    unfold load inject
    rw [hinject, ← ofEdit_bind, EntityAction.answer_build, answer_ofEdit,
      after_ofEdit]
  rw [hload t row s hedit, hload t' row' s' hedit']

/-- Two rows that have the same values under the table of a type and its
columns, whatever else there is in them, are the same to the type. Loads from
them, in any two transactions, are what the hook makes of entities with the
same values in their plain columns, the same foreign keys and the same
identity; the loaded ones have the same, too, unless the hook looks at what
references stand for. If the type has no relations the loads come to the same,
whatever the hook, and also when they fail. -/
theorem EntityBinding.load_of_shared (hshared : b.Shared row row') :
    (∀ s s' e e', (Action.load schema t b row).answer s = .ok e →
      (Action.load schema t' b row').answer s' = .ok e' →
      (∃ e₀ e₀', b.SameColumns e₀ e₀' ∧ b.runPostLoad e₀ = .ok () e
        ∧ b.runPostLoad e₀' = .ok () e')
      ∧ ((∀ hook ∈ b.descriptor.postLoad, OverlooksTargets hook) →
        b.SameColumns e e'))
    ∧ ((∀ c ∈ b.columns, c.isRelation = false) → ∀ s s',
      (Action.load schema t b row).answer s
        = (Action.load schema t' b row').answer s') := by
  refine ⟨fun s s' e e' h h' => ?_,
    fun hplain s s' => Action.load_of_plain hshared hplain s s'⟩
  obtain ⟨e₀, e₀', hagrees, hrun, hrun'⟩ :=
    Action.exists_agrees_of_load hshared h h'
  exact ⟨⟨e₀, e₀', hagrees.sameColumns b, hrun, hrun'⟩, fun hhook =>
    (agrees_of_runPostLoad hhook hagrees hrun hrun').sameColumns b⟩

end

namespace EntityBinding

/-- Orders of customers that count how often they were loaded. -/
def countedOrders : EntityBinding where
  descriptor := { orders.descriptor with
    counters := ["loads"]
    postLoad := some (modify (·.count "loads")) }
  table := "orders"

/-- An order joined with its customer. -/
def orderedByAda : Row where
  values := [.int64 1, .int64 7, .json .null, .float64 negativeZero,
    .int64 7, .text "Ada"]
  resolver := .ofColumns [⟨some "orders", "id"⟩,
    ⟨some "orders", "customer_id"⟩, ⟨some "orders", "note"⟩,
    ⟨some "orders", "balance"⟩, ⟨some "customers", "id"⟩,
    ⟨some "customers", "name"⟩]
  width_eq := rfl

/-- The same order after columns of another table, with a name under the prefix
of its relation, and joined with another order. -/
def orderedByBob : Row where
  values := [.text "Bob", .int64 9, .float64 negativeZero, .json .null,
    .int64 7, .int64 1, .int64 2]
  resolver := .ofColumns [⟨none, "customer_name"⟩, ⟨some "customers", "id"⟩,
    ⟨some "Orders", "BALANCE"⟩, ⟨some "orders", "note"⟩,
    ⟨some "orders", "customer_id"⟩, ⟨some "ORDERS", "Id"⟩,
    ⟨some "orders", "id"⟩]
  width_eq := rfl

/-- A hook that counts does not look at what references stand for. -/
theorem overlooksTargets_count (name : String) :
    OverlooksTargets (modify (·.count name)) := by
  intro e e' he e₁ e₁' h h'
  cases h
  cases h'
  refine ⟨he.type, he.fields, ?_⟩
  simp [Entity.count, he.counters]

/-- The first column that is called so is found by a search. -/
theorem heads_of_findIdx? {row : Row} {columns : List ColumnMeta}
    {name : String} {v : Value} {i : Nat}
    (hresolver : row.resolver = .ofColumns columns)
    (hfind : columns.findIdx? (·.isCalledInFull name) = some i)
    (hv : row.values[i]? = some v) : row.Heads name v := by
  obtain ⟨hlt, hcalled, hbefore⟩ := List.findIdx?_eq_some_iff_getElem.mp hfind
  refine ⟨columns, i, columns[i], hresolver, List.getElem?_eq_getElem hlt,
    hcalled, fun j c hc hcalled' => ?_, hv⟩
  obtain ⟨hj, rfl⟩ := List.getElem?_eq_some_iff.mp hc
  exact Nat.le_of_not_lt fun hji => hbefore j hji hcalled'

/-- The two orders share the columns of an order. -/
theorem shared_orders : countedOrders.Shared orderedByAda orderedByBob := by
  refine List.forall_mem_cons.mpr ⟨?id, List.forall_mem_cons.mpr ⟨?customer,
    List.forall_mem_cons.mpr ⟨?note, List.forall_mem_singleton.mpr ?balance⟩⟩⟩
  case id =>
    exact ⟨_, heads_of_findIdx? (i := 0) rfl (by decide +kernel) rfl,
      heads_of_findIdx? (i := 5) rfl (by decide +kernel) rfl⟩
  case customer =>
    exact ⟨_, heads_of_findIdx? (i := 1) rfl (by decide +kernel) rfl,
      heads_of_findIdx? (i := 4) rfl (by decide +kernel) rfl⟩
  case note =>
    exact ⟨_, heads_of_findIdx? (i := 2) rfl (by decide +kernel) rfl,
      heads_of_findIdx? (i := 3) rfl (by decide +kernel) rfl⟩
  case balance =>
    exact ⟨_, heads_of_findIdx? (i := 3) rfl (by decide +kernel) rfl,
      heads_of_findIdx? (i := 2) rfl (by decide +kernel) rfl⟩

/-- The order as it is loaded, with the instance that its customer is. -/
def loadedOrder (customer : InstanceId) : Entity where
  type := "Order"
  fields := [.plain (.stored (.int64 1)), .relation (some ⟨.int64 7, customer⟩),
    .plain (.structured .null .null), .plain (.stored (.float64 negativeZero))]
  counters := [("loads", 1)]

/-- The order is loaded alike from both rows; where another customer is there
already, its own is another instance. -/
theorem load_of_shared_orders :
    (Action.load shop 0 countedOrders orderedByAda).answer (.blank .empty)
        = .ok (loadedOrder 0)
      ∧ (Action.load shop 0 countedOrders orderedByBob).answer
        ((Action.referToNew shop buyer).after (.blank .empty))
        = .ok (loadedOrder 1)
      ∧ countedOrders.SameColumns (loadedOrder 0) (loadedOrder 1) := by
  have h : (Action.load shop 0 countedOrders orderedByAda).answer
      (.blank .empty) = .ok (loadedOrder 0) := by rfl
  have h' : (Action.load shop 0 countedOrders orderedByBob).answer
      ((Action.referToNew shop buyer).after (.blank .empty))
      = .ok (loadedOrder 1) := by rfl
  obtain ⟨hload, -⟩ := load_of_shared shared_orders
  refine ⟨h, h', (hload _ _ _ _ h h').2 fun hook hhook => ?_⟩
  cases hhook
  exact overlooksTargets_count "loads"

/-- The names of the first two customers that become shared. -/
def nameOf : InstanceId → String
  | 0 => "Ada"
  | _ => "Bob"

/-- Writes the name of the customer that an order refers to into the order. -/
def copyName : Edit Unit :=
  modify fun e =>
    match e.referenceAt? 1 with
    | some reference =>
      e.setField 2 (.plain (.stored (.text (nameOf reference.target))))
    | none => e

/-- Orders that copy the name of their customer when they are loaded. -/
def namedOrders : EntityBinding where
  descriptor := { EntityDescriptor.ofColumns "Order" "orders"
      [(ColumnBinding.plain "id" (.required .int64)).asIdentity,
       .relation "customer_id" "customer" "Customer" "customer_",
       .plain "buyer" (.required .text)] with
    postLoad := some copyName }
  table := "orders"

/-- A row with an order, and with the name of its customer. -/
def orderedBy (name : String) : Row where
  values := [.int64 1, .int64 7, .text "", .text name]
  resolver := .ofColumns [⟨some "orders", "id"⟩,
    ⟨some "orders", "customer_id"⟩, ⟨some "orders", "buyer"⟩,
    ⟨none, "customer_name"⟩]
  width_eq := rfl

/-- A customer of a name. -/
def customerCalled (name : String) : Entity where
  type := "Customer"
  fields := [.plain (.stored (.int64 7)), .plain (.stored (.text name))]
  counters := []

/-- The order, with the instance that its customer is and with its name. -/
def orderOf (customer : InstanceId) : Entity where
  type := "Order"
  fields := [.plain (.stored (.int64 1)), .relation (some ⟨.int64 7, customer⟩),
    .plain (.stored (.text (nameOf customer)))]
  counters := []

/-- So do the orders of two customers. -/
theorem shared_orderedBy :
    namedOrders.Shared (orderedBy "Ada") (orderedBy "Bob") := by
  refine List.forall_mem_cons.mpr ⟨?id, List.forall_mem_cons.mpr ⟨?customer,
    List.forall_mem_singleton.mpr ?buyer⟩⟩
  case id =>
    exact ⟨_, heads_of_findIdx? (i := 0) rfl (by decide +kernel) rfl,
      heads_of_findIdx? (i := 0) rfl (by decide +kernel) rfl⟩
  case customer =>
    exact ⟨_, heads_of_findIdx? (i := 1) rfl (by decide +kernel) rfl,
      heads_of_findIdx? (i := 1) rfl (by decide +kernel) rfl⟩
  case buyer =>
    exact ⟨_, heads_of_findIdx? (i := 2) rfl (by decide +kernel) rfl,
      heads_of_findIdx? (i := 2) rfl (by decide +kernel) rfl⟩

/-- Tags, known by their codes. -/
def tags : EntityBinding where
  descriptor := .ofColumns "Tag" "tags"
    [(ColumnBinding.plain "code" (.optional .text)).asIdentity,
     .plain "label" (.required .text)]
  table := "tags"

/-- A row that has the names under the table as bare names, and the bare ones
with some values. -/
def tagged (code label : String) : Row where
  values := [.text "a", .text "first", .text code, .text label]
  resolver := .ofColumns [⟨none, "tags/code"⟩, ⟨none, "tags/label"⟩,
    ⟨none, "code"⟩, ⟨none, "label"⟩]
  width_eq := rfl

/-- A tag. -/
def tag (code label : String) : Entity where
  type := "Tag"
  fields := [.plain (.stored (.text code)), .plain (.stored (.text label))]
  counters := []

/-- Two loads that do not come to the same although the rows seem to agree.
From the first two rows, in two transactions, orders are loaded that refer to
two customers: the hook copies what these are called. In the other two rows
columns are called `tags/code` and `tags/label`, but by their bare names, and
so others are read. -/
theorem not_loaded_alike :
    let s := (Action.begin true).after
      ((Action.begin true).after (.blank .empty))
    let first := Action.load shop 0 namedOrders (orderedBy "Ada")
    let second := Action.load shop 1 namedOrders (orderedBy "Bob")
    (namedOrders.Shared (orderedBy "Ada") (orderedBy "Bob")
      ∧ first.answer s = .ok (orderOf 0)
      ∧ second.answer (first.after s) = .ok (orderOf 1)
      ∧ (second.after (first.after s)).instances
        = [customerCalled (nameOf 0), customerCalled (nameOf 1)]
      ∧ ¬ namedOrders.SameColumns (orderOf 0) (orderOf 1))
    ∧ (Action.load shop 0 tags (tagged "b" "x")).answer s = .ok (tag "b" "x")
    ∧ (Action.load shop 0 tags (tagged "c" "y")).answer s = .ok (tag "c" "y")
    ∧ ¬ tags.SameColumns (tag "b" "x") (tag "c" "y") := by
  intro s first second
  refine ⟨⟨shared_orderedBy, by rfl, by rfl, by rfl, fun h => ?_⟩, by rfl,
    by rfl, fun h => ?_⟩
  · have hbuyer := (h.plain 2 _ _ rfl rfl (.stored (.text "Ada"))).mp rfl
    exact absurd hbuyer (by decide +kernel)
  · have hlabel := (h.plain 1 _ _ rfl rfl (.stored (.text "x"))).mp rfl
    exact absurd hlabel (by decide +kernel)

end EntityBinding

end DataAccess
