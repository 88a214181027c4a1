/-
Entity types without their hooks for stored entities. Nothing that a binding
does looks at that hook but running it: a declaration is as sound without it
(`ofType_unhooked`), and an entity is read, written into a statement and given
its identity as before.
-/
import DataAccess.Proofs.Session.Browsing

namespace DataAccess

/-- The declaration without its hook for stored entities. -/
def EntityDescriptor.unhooked (d : EntityDescriptor) : EntityDescriptor :=
  { d with postStore := none }

namespace Schema

/-- The types without their hooks for stored entities. -/
def unhooked (schema : Schema) : Schema :=
  schema.map EntityDescriptor.unhooked

/-- The hook for stored entities of a type. -/
def postStore (schema : Schema) (typeName : String) : Edit Unit :=
  ((schema.find? typeName).bind (·.postStore)).getD (pure ())

/-- Types are found by their names, without their hooks too. -/
theorem find?_unhooked (schema : Schema) (typeName : String) :
    schema.unhooked.find? typeName
      = (schema.find? typeName).map EntityDescriptor.unhooked :=
  List.find?_map ..

end Schema

namespace EntityBinding

variable {schema : Schema} {typeName : String} {b : EntityBinding}

/-- The binding without its hook for stored entities. -/
def unhooked (b : EntityBinding) : EntityBinding :=
  { b with descriptor := b.descriptor.unhooked }

-- =============================================================== validation

/-- No hook is asked whether a relation is well configured. -/
theorem relationFault?_unhooked (schema : Schema)
    (columns : List ColumnBinding) :
    relationFault? schema.unhooked columns = relationFault? schema columns := by
  have hcount : ∀ target, identityCountOf schema.unhooked target
      = identityCountOf schema target := by
    intro target
    unfold identityCountOf
    rw [Schema.find?_unhooked]
    cases schema.find? target <;> rfl
  induction columns with
  | nil => rfl
  | cons c columns ih =>
      unfold relationFault?
      simp only [ih, hcount]

/-- The binding of a type without hooks is that of the type, without hooks. -/
theorem ofDescriptor_unhooked (schema : Schema) (d : EntityDescriptor) :
    ofDescriptor schema.unhooked d.unhooked
      = (ofDescriptor schema d).map unhooked := by
  have hfault : ∀ table, columnsFault? schema.unhooked table d.unhooked
      = columnsFault? schema table d := by
    intro table
    unfold columnsFault?
    rw [relationFault?_unhooked]
    rfl
  have htable : d.unhooked.table = d.table := rfl
  unfold ofDescriptor
  simp only [hfault, htable]
  cases d.table with
  | none => rfl
  | some table =>
      dsimp only
      split
      · rfl
      · cases columnsFault? schema table d <;> rfl

/-- Whether a declaration is sound has nothing to do with its hook. -/
theorem ofType_unhooked (schema : Schema) (typeName : String) :
    ofType schema.unhooked typeName
      = (ofType schema typeName).map unhooked := by
  unfold ofType
  rw [Schema.find?_unhooked]
  cases schema.find? typeName with
  | none => rfl
  | some d => exact ofDescriptor_unhooked schema d

/-- The hook that a binding runs is the one that was declared. -/
theorem runPostStore_of_ofType (hb : ofType schema typeName = .ok b) :
    b.runPostStore = schema.postStore typeName := by
  unfold Schema.postStore
  rw [find?_of_ofType hb]
  rfl

-- ====================================================== reading and writing

/-- No hook takes part in reading an entity. -/
theorem readAll_unhooked (b : EntityBinding)
    (bound : List (ColumnBinding × Field)) :
    b.unhooked.readAll bound = b.readAll bound := by
  induction bound with
  | nil => rfl
  | cons p bound ih =>
      unfold readAll
      rw [ih]
      rfl

/-- Nor does one in setting its columns. -/
theorem setColumns_unhooked (b : EntityBinding)
    (columns : List (ColumnBinding × Nat)) (vs : List Value) :
    b.unhooked.setColumns columns vs = b.setColumns columns vs := by
  induction columns generalizing vs with
  | nil => rfl
  | cons p columns ih =>
      cases vs with
      | nil => rfl
      | cons v vs =>
          unfold setColumns
          rw [ih]
          rfl

@[simp]
theorem insertStatement_unhooked (b : EntityBinding) :
    b.unhooked.insertStatement = b.insertStatement := by
  funext e
  unfold insertStatement
  dsimp only
  rw [readAll_unhooked]
  rfl

@[simp]
theorem identityValues_unhooked (b : EntityBinding) :
    b.unhooked.identityValues = b.identityValues :=
  funext fun _ => readAll_unhooked b _

@[simp]
theorem isTransient_unhooked (b : EntityBinding) :
    b.unhooked.isTransient = b.isTransient := by
  unfold isTransient
  rw [identityValues_unhooked]

@[simp]
theorem identity_unhooked (b : EntityBinding) :
    b.unhooked.identity = b.identity := by
  unfold identity
  rw [identityValues_unhooked]

@[simp]
theorem setIdentity_unhooked (b : EntityBinding) :
    b.unhooked.setIdentity = b.setIdentity := by
  funext vs
  unfold setIdentity
  dsimp only
  rw [setColumns_unhooked]
  rfl

end EntityBinding

end DataAccess
