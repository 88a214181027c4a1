/-
Targets without a binding. A type is checked when it is first used, but of the
target of a relation nothing is looked at then but how many identity columns it
declares. So a type may be bound whose relation is to one that never is, and
nothing shows it before a row has a key for it.

A load comes upon such a relation (`Stumbles`) if its key is neither null nor
cached and everything before it was set. It then ends with what is wrong with the
target, in the words of a column that could not be read. A load that comes upon
none is the same in every schema with the bindings that there are
(`Schema.Repairs`), whatever has become of the declarations that were rejected.
Both are proved column by column, along `injectColumns`.

# What is found early

A target of one identity column is not without columns, nor without an identity,
nor with one of several columns that is generated. Every other fault of a
declaration goes unnoticed in a target (`BindingFault.isHidden`).
-/
import DataAccess.Proofs.Entity.Injection
import DataAccess.Catalog.Entities

namespace DataAccess

-- =================================================================== faults

/-- Whether a declaration with one identity column can have the fault. -/
def BindingFault.isHidden : BindingFault → Bool
  | .noColumns _ | .noIdentity | .compositeGenerated => false
  | .noTable | .emptyColumn | .boundTwice _ | .relationIdentity _
  | .relationTarget .. => true

namespace EntityBinding

variable {schema schema' : Schema} {typeName : String} {b : EntityBinding}

/-- A fault in the names is hidden. -/
theorem isHidden_of_nameFault? {columns : List ColumnBinding}
    {seen : List String} {fault : BindingFault}
    (h : nameFault? seen columns = some fault) : fault.isHidden = true := by
  induction columns generalizing seen with
  | nil => cases h
  | cons c columns ih =>
      unfold nameFault? at h
      split at h
      · cases h
        rfl
      · split at h
        · cases h
          rfl
        · exact ih h

/-- So is a fault in a relation. -/
theorem isHidden_of_relationFault? {columns : List ColumnBinding}
    {fault : BindingFault} (h : relationFault? schema columns = some fault) :
    fault.isHidden = true := by
  induction columns with
  | nil => cases h
  | cons c columns ih =>
      unfold relationFault? at h
      split at h
      · exact ih h
      · dsimp only at h
        split at h
        · cases h
          rfl
        · split at h
          · exact ih h
          · cases h
            rfl

/-- With one identity column, every fault in the columns is hidden. -/
theorem isHidden_of_columnsFault? {table : String} {d : EntityDescriptor}
    {fault : BindingFault} (hcount : d.identityCount = 1)
    (h : columnsFault? schema table d = some fault) :
    fault.isHidden = true := by
  unfold columnsFault? at h
  split at h
  · next hempty =>
    unfold EntityDescriptor.identityCount at hcount
    rw [List.isEmpty_iff.mp hempty] at hcount
    cases hcount
  · split at h
    · next hname =>
      cases h
      exact isHidden_of_nameFault? hname
    · rw [hcount, if_neg Nat.one_ne_zero] at h
      split at h
      · next hgenerated =>
        rw [decide_eq_false (Nat.lt_irrefl 1), Bool.and_false] at hgenerated
        cases hgenerated
      · exact isHidden_of_relationFault? h

/-- A type is rejected with a fault of its declaration, and one of those that
a type with one identity column can have if it has one. -/
theorem exists_fault_of_ofType {e : Error}
    (h : ofType schema typeName = .error e) :
    ∃ fault : BindingFault, e = .mapping (.binding typeName fault)
      ∧ (identityCountOf schema typeName = 1 → fault.isHidden = true) := by
  unfold ofType identityCountOf at *
  cases hd : schema.find? typeName with
  | none =>
      rw [hd] at h
      cases h
      exact ⟨.noTable, rfl, fun _ => rfl⟩
  | some d =>
      rw [hd] at h
      have hname : d.typeName = typeName := by
        have hfound := List.find?_some hd
        exact eq_of_beq hfound
      dsimp only at h ⊢
      unfold ofDescriptor at h
      rw [hname] at h
      split at h
      · cases h
        exact ⟨.noTable, rfl, fun _ => rfl⟩
      · split at h
        · cases h
          exact ⟨.noTable, rfl, fun _ => rfl⟩
        · split at h
          · next hfault =>
            cases h
            exact ⟨_, rfl, fun hcount =>
              isHidden_of_columnsFault? hcount hfault⟩
          · cases h

end EntityBinding

/-- What is bound in a schema is bound in another one as it is there. -/
def Schema.Repairs (schema' schema : Schema) : Prop :=
  ∀ typeName b, EntityBinding.ofType schema typeName = .ok b →
    EntityBinding.ofType schema' typeName = .ok b

-- ================================================================ references

namespace Action

variable {schema schema' : Schema} {t : TransactionId} {target : String}
  {key : Value} {s : Session} {e : Error}

/-- A key needs the binding of the target, which there is not: it is not null,
and no instance is cached under it. -/
structure Misses (schema : Schema) (t : TransactionId) (target : String)
    (key : Value) (s : Session) (e : Error) : Prop where
  uncached : ∃ identity, IdentityKey.ofValues? [key] = some identity
    ∧ (s.cacheOf t).find? ⟨target, identity⟩ = none
  rejected : EntityBinding.ofType schema target = .error e

/-- Such a key fails for the binding of the target. -/
theorem loadReference_of_misses (h : Misses schema t target key s e)
    (columnPrefix : String) (row : Row) :
    (loadReference schema t target key columnPrefix row).answer s
      = .error e := by
  obtain ⟨⟨identity, hidentity, hfound⟩, hrejected⟩ := h
  unfold loadReference
  rw [hidentity]
  dsimp only
  rw [EStateM.answer_bind, answer_cached, hfound]
  dsimp only [Option.map_none]
  rw [hrejected]
  rfl

/-- Where no binding is missed the rejected ones do not matter. -/
theorem loadReference_of_repairs (hrepairs : schema'.Repairs schema)
    (h : ∀ e, ¬ Misses schema t target key s e) (columnPrefix : String)
    (row : Row) :
    loadReference schema' t target key columnPrefix row s
      = loadReference schema t target key columnPrefix row s := by
  unfold loadReference
  cases hidentity : IdentityKey.ofValues? [key] with
  | none => rfl
  | some identity =>
      dsimp only
      cases hfound : (s.cacheOf t).find? ⟨target, identity⟩ with
      | some entry =>
          have hanswer := answer_cached t ⟨target, identity⟩ s
          rw [hfound] at hanswer
          have hcached := EStateM.apply_eq_ok_iff.mpr ⟨hanswer, rfl⟩
          rw [EStateM.bind_of_eq_ok hcached, EStateM.bind_of_eq_ok hcached]
          rfl
      | none =>
          cases hb : EntityBinding.ofType schema target with
          | error e => exact absurd ⟨⟨identity, hidentity, hfound⟩, hb⟩ (h e)
          | ok b => rw [hrepairs target b hb]

end Action

-- ================================================================== injection

namespace EntityAction

variable {schema schema' : Schema} {t : TransactionId} {b : EntityBinding}
  {row : Row} {columns : List (ColumnBinding × Nat)} {w : Workbench}
  {c : ColumnBinding} {e : Error}

/-- A load comes to a relation whose binding is missed, after it set the
columns before it. -/
inductive Stumbles (schema : Schema) (t : TransactionId) (b : EntityBinding)
    (row : Row) : List (ColumnBinding × Nat) → Workbench → ColumnBinding →
      Error → Prop where
  | here {columns : List (ColumnBinding × Nat)} {w : Workbench}
      {c : ColumnBinding} {index : Nat} {target columnPrefix : String}
      {key : Value} {e : Error}
      (haccess : c.access = .relation target columnPrefix)
      (hkey : b.lookup row c.name = .ok key)
      (hmisses : Action.Misses schema t target key w.session e) :
      Stumbles schema t b row ((c, index) :: columns) w c e
  | later {columns : List (ColumnBinding × Nat)} {w w' : Workbench}
      {c c' : ColumnBinding} {index : Nat} {e : Error}
      (hset : injectColumn schema t b row c index w = .ok () w')
      (h : Stumbles schema t b row columns w' c' e) :
      Stumbles schema t b row ((c, index) :: columns) w c' e

/-- It comes to a relation of the type, to a target that is rejected. -/
theorem Stumbles.exists_target (h : Stumbles schema t b row columns w c e) :
    c ∈ columns.map Prod.fst
      ∧ ∃ target columnPrefix, c.access = .relation target columnPrefix
        ∧ EntityBinding.ofType schema target = .error e := by
  induction h with
  | here haccess _ hmisses =>
      exact ⟨List.mem_cons_self, _, _, haccess, hmisses.rejected⟩
  | later _ _ ih => exact ⟨List.mem_cons_of_mem _ ih.1, ih.2⟩

/-- So does its column, which names itself. -/
theorem injectColumn_of_misses {index : Nat} {target columnPrefix : String}
    {key : Value} (haccess : c.access = .relation target columnPrefix)
    (hkey : b.lookup row c.name = .ok key)
    (hmisses : Action.Misses schema t target key w.session e) :
    (injectColumn schema t b row c index).answer w
      = .error (b.columnError c.name e) := by
  have hload : (ofAction (Action.mapError (b.columnError c.name)
      (Action.loadReference schema t target key columnPrefix row))).answer w
      = .error (b.columnError c.name e) := by
    rw [answer_ofAction, Action.answer_mapError,
      Action.loadReference_of_misses hmisses]
    rfl
  unfold injectColumn
  rw [EStateM.answer_bind_ok ((answer_ofExcept _ w).trans hkey),
    after_ofExcept, haccess]
  exact EStateM.answer_bind_error hload _

/-- It ends there, with what is wrong with the target. -/
theorem injectColumns_of_stumbles (h : Stumbles schema t b row columns w c e) :
    (injectColumns schema t b row columns).answer w
      = .error (b.columnError c.name e) := by
  induction h with
  | here haccess hkey hmisses =>
      unfold injectColumns
      exact EStateM.answer_bind_error
        (injectColumn_of_misses haccess hkey hmisses) _
  | later hset _ ih =>
      unfold injectColumns
      rw [EStateM.answer_bind_ok (EStateM.answer_of_eq_ok hset),
        EStateM.after_of_eq_ok hset]
      exact ih

/-- A column that does not stumble is the same under a schema that is
repaired. -/
theorem injectColumn_of_repairs (hrepairs : schema'.Repairs schema)
    {index : Nat}
    (h : ∀ e, ¬ Stumbles schema t b row ((c, index) :: columns) w c e) :
    injectColumn schema' t b row c index w
      = injectColumn schema t b row c index w := by
  unfold injectColumn
  cases hkey : b.lookup row c.name with
  | error e => rfl
  | ok key =>
      cases haccess : c.access with
      | plain type => rfl
      | relation target columnPrefix =>
          have hload := Action.loadReference_of_repairs hrepairs
            (fun e hmisses => h e (.here haccess hkey hmisses))
            columnPrefix row
          show injectRelation schema' t b c index target columnPrefix key row w
            = injectRelation schema t b c index target columnPrefix key row w
          unfold injectRelation
          refine EStateM.bind_of_eq ?_ _
          unfold ofAction Action.mapError
          rw [hload]

/-- If it comes to none, the rejected bindings do not matter. -/
theorem injectColumns_of_repairs (hrepairs : schema'.Repairs schema)
    (h : ∀ c e, ¬ Stumbles schema t b row columns w c e) :
    injectColumns schema' t b row columns w
      = injectColumns schema t b row columns w := by
  induction columns generalizing w with
  | nil => rfl
  | cons p columns ih =>
      obtain ⟨c, index⟩ := p
      have hfirst := injectColumn_of_repairs hrepairs (h c)
      unfold injectColumns
      rw [EStateM.bind_of_eq hfirst]
      cases hset : injectColumn schema t b row c index w with
      | error e w' => rw [EStateM.bind_of_eq_error hset,
          EStateM.bind_of_eq_error hset]
      | ok u w' =>
          rw [EStateM.bind_of_eq_ok hset, EStateM.bind_of_eq_ok hset]
          exact ih fun c' e hlater => h c' e (.later hset hlater)

end EntityAction

-- ===================================================================== loads

section

variable {schema : Schema} {b : EntityBinding} {t : TransactionId} {row : Row}
  {s : Session} {c : ColumnBinding} {e : Error}

/-- A load fails with the column that it stumbles over. -/
theorem Action.load_of_stumbles
    (h : EntityAction.Stumbles schema t b row b.columns.zipIdx ⟨b.initial, s⟩
      c e) :
    (load schema t b row).answer s = .error (b.columnError c.name e) := by
  unfold load
  rw [EntityAction.answer_build,
    EStateM.answer_bind_error (e := b.columnError c.name e)]
  · rfl
  · exact EntityAction.injectColumns_of_stumbles h

/-- A load that does not stumble is the same under a schema that is
repaired. -/
theorem Action.load_of_repairs {schema' : Schema}
    (hrepairs : schema'.Repairs schema)
    (h : ∀ c e, ¬ EntityAction.Stumbles schema t b row b.columns.zipIdx
      ⟨b.initial, s⟩ c e) :
    load schema' t b row s = load schema t b row s := by
  have hinject : EntityAction.inject schema' t b row ⟨b.initial, s⟩
      = EntityAction.inject schema t b row ⟨b.initial, s⟩ :=
    EntityAction.injectColumns_of_repairs hrepairs h
  unfold load EntityAction.build
  rw [EStateM.bind_of_eq hinject]

end

namespace EntityBinding

/-- A load that comes to a relation whose target is rejected fails with what is
wrong with the target, which is a fault that its single identity column did not
show. Any other load is the same whatever becomes of the types that are
rejected. -/
theorem load_past_rejected {schema : Schema} {typeName : String}
    {b : EntityBinding} (hb : ofType schema typeName = .ok b)
    (t : TransactionId) (row : Row) (s : Session) :
    (∀ c e, EntityAction.Stumbles schema t b row b.columns.zipIdx
        ⟨b.initial, s⟩ c e →
      (∃ target columnPrefix fault, c ∈ b.columns
        ∧ c.access = .relation target columnPrefix
        ∧ ofType schema target = .error e
        ∧ e = .mapping (.binding target fault) ∧ fault.isHidden = true)
      ∧ (Action.load schema t b row).answer s
        = .error (.column (b.table ++ "." ++ c.name) (.conversion e.message)))
    ∧ ((∀ c e, ¬ EntityAction.Stumbles schema t b row b.columns.zipIdx
        ⟨b.initial, s⟩ c e) →
      ∀ schema' : Schema, schema'.Repairs schema →
        Action.load schema' t b row s = Action.load schema t b row s) := by
  refine ⟨fun c e h => ?_, fun h schema' hrepairs =>
    Action.load_of_repairs hrepairs h⟩
  obtain ⟨hmem, target, columnPrefix, haccess, hrejected⟩ := h.exists_target
  rw [List.zipIdx_map_fst] at hmem
  obtain ⟨fault, rfl, hhidden⟩ := exists_fault_of_ofType hrejected
  refine ⟨⟨target, columnPrefix, fault, hmem, haccess, hrejected, rfl,
    hhidden (identityCountOf_of_relation hb hmem haccess)⟩, ?_⟩
  exact Action.load_of_stumbles h

-- ============================================================== an instance

/-- No load of a bound type fails because the target of a relation is
rejected. -/
def LoadsBound (schema : Schema) : Prop :=
  ∀ typeName b, ofType schema typeName = .ok b →
    ∀ t row s, ∀ c ∈ b.columns, ∀ target columnPrefix e,
      c.access = .relation target columnPrefix →
      ofType schema target = .error e →
      (Action.load schema t b row).answer s
        ≠ .error (b.columnError c.name e)

/-- The binding of a type with a relation to a type whose table has no name. -/
def haunted : EntityBinding where
  descriptor := Catalog.haunted ""
  table := "haunted"

/-- A session with a transaction. -/
def begun : Session :=
  (Action.begin false).after (.blank .empty)

/-- A row with a ghost, or without one. -/
def ghostly (ghost : Value) : Row where
  values := [.int64 1, ghost]
  resolver := .ofColumns [⟨none, "id"⟩, ⟨none, "ghost_id"⟩]
  width_eq := rfl

/-- The ghost. -/
def ghost : ColumnBinding :=
  .relation "ghost_id" "ghost" "Blank" "ghost_"

theorem ofType_haunted :
    ofType (Catalog.schema "") "Haunted" = .ok haunted := rfl

/-- The ghost of a haunted row has no table. -/
theorem stumbles_haunted :
    EntityAction.Stumbles (Catalog.schema "") 0 haunted (ghostly (.int64 5))
      haunted.columns.zipIdx ⟨haunted.initial, begun⟩ ghost
      (.mapping (.binding "Blank" .noTable)) := by
  refine .later rfl (.here rfl rfl ⟨⟨_, rfl, ?_⟩, rfl⟩)
  rfl

/-- A row with a ghost fails to load for what is wrong with ghosts; a row
without one never asks for them. -/
theorem load_past_rejected_haunted :
    let schema := Catalog.schema ""
    ofType schema "Haunted" = .ok haunted
      ∧ (Action.load schema 0 haunted (ghostly (.int64 5))).answer begun
        = .error (.column "haunted.ghost_id"
          (.conversion "mapping error: Blank: no table name declared"))
      ∧ ∀ schema' : Schema, schema'.Repairs schema →
        Action.load schema' 0 haunted (ghostly .null) begun
          = Action.load schema 0 haunted (ghostly .null) begun := by
  intro schema
  refine ⟨ofType_haunted, ?_, ?_⟩
  · obtain ⟨hfails, -⟩ := load_past_rejected ofType_haunted 0
      (ghostly (.int64 5)) begun
    exact (hfails ghost _ stumbles_haunted).2
  · obtain ⟨-, hsame⟩ := load_past_rejected ofType_haunted 0
      (ghostly .null) begun
    refine hsame fun c e hstumbles => ?_
    -- the first column is plain, and the key of the second one is null
    cases hstumbles with
    | here haccess => cases haccess
    | later _ hstumbles =>
        cases hstumbles with
        | here haccess hkey hmisses =>
            cases hkey
            obtain ⟨identity, hidentity, -⟩ := hmisses.uncached
            cases hidentity
        | later _ hstumbles => cases hstumbles

/-- The relation of a bound type makes a load of it fail. -/
theorem not_loadsBound_haunted : ¬ ∀ schema, LoadsBound schema := by
  intro h
  exact h (Catalog.schema "") "Haunted" haunted ofType_haunted 0
    (ghostly (.int64 5)) begun ghost (List.mem_cons_of_mem _
      List.mem_cons_self) "Blank" "ghost_" _ rfl rfl
    (Action.load_of_stumbles stumbles_haunted)

end EntityBinding

end DataAccess
