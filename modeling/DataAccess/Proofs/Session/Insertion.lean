/-
Inserting an entity. An insert checks, makes its one call, takes the key if the
database generates it, and drops the key from the cache; then the hook for
stored entities runs. Whatever happens before the hook does not depend on it, so
an insert is an insert without hooks, followed by the hook if that succeeded
(`insert_eq_unhooked`).

# The argument

A check that does not pass leaves everything as it is (`refused_insert`). If all
of them pass, the statement is sent (`insertRow_of_insertable`), and of a
statement that is answered only the keys can make an insert fail. There is one
generated column, and it is the identity: this column takes a key, or the entity
is as it was (`setIdentity_cases`). There are two failures that change the
entity: it took a null and is transient all the same, or it took structured
data of which its type makes no JSON (`takeKeys_cases`). An entity that is not
transient has an identity, and its key leaves the cache
(`forget_of_isTransient`).

A failure comes with its reason (`NotInserted`), so an insert without one
succeeds.
-/
import DataAccess.Catalog.Entities
import DataAccess.Proofs.Driver.Recording
import DataAccess.Proofs.Entity.Injection
import DataAccess.Proofs.Entity.Unhooked
import DataAccess.Proofs.Identity.History
import DataAccess.Proofs.Session.Asking
import DataAccess.Proofs.Session.Outdating
import DataAccess.Proofs.Session.Refusal

namespace DataAccess

-- ================================================================ two parts

namespace EntityAction

variable {schema : Schema} {t : TransactionId} {b : EntityBinding}
  {e : Entity} {s : Session}

/-- Drops the key that the entity has, if it has one. -/
def forget (t : TransactionId) (b : EntityBinding) : EntityAction Unit := do
  match ← ofExcept (b.identity (← entity)) with
  | some identity => evict t b identity
  | none => pure ()

/-- An insert with the binding of its type, but for the hook. -/
def insertRow (t : TransactionId) (b : EntityBinding) (e : Entity) :
    EntityAction Unit := do
  let statement ← ofExcept (b.insertStatement e)
  ofAction (Action.ensureWritable t statement.sql)
  let transient ← ofExcept (b.isTransient e)
  if b.isGenerated && !transient then
    refuse t (.identityGiven b.table) statement.sql
      (← ofExcept (b.identityValues e))
  else if !b.isGenerated && transient then
    refuse t (.identityMissing b.table) statement.sql statement.params
  else
    store t b statement
    forget t b

/-- No hook takes part before the row is inserted. -/
theorem insertRow_unhooked (t : TransactionId) (b : EntityBinding)
    (e : Entity) : insertRow t b.unhooked e = insertRow t b e := by
  unfold insertRow store insertGenerated forget
  simp only [EntityBinding.insertStatement_unhooked,
    EntityBinding.isTransient_unhooked, EntityBinding.identityValues_unhooked,
    EntityBinding.setIdentity_unhooked, EntityBinding.identity_unhooked]
  rfl

theorem ofExcept_ok_bind {α β : Type} (x : α) (f : α → EntityAction β) :
    ofExcept (.ok x) >>= f = f x := rfl

/-- What follows the statement is dropping the key, and then the hook. -/
theorem afterStoring_eq (t : TransactionId) (b : EntityBinding) :
    afterStoring t b
      = forget t b >>= fun _ => ofEdit b.runPostStore := by
  unfold afterStoring forget
  simp only [bind_assoc]
  refine bind_congr fun e => bind_congr fun found => ?_
  cases found <;> rfl

/-- An insert is done with the binding of the type, and then the hook runs. -/
theorem insert_eq (schema : Schema) (t : TransactionId) :
    insert schema t = (do
      let e ← entity
      let b ← ofExcept (EntityBinding.ofType schema e.type)
      insertRow t b e
      ofEdit b.runPostStore) := by
  unfold insert insertRow
  simp only [bind_assoc]
  refine bind_congr fun e => bind_congr fun b => bind_congr fun statement =>
    bind_congr fun _ => bind_congr fun transient => ?_
  split
  · rw [bind_assoc]
    rfl
  · split
    · rfl
    · rw [bind_assoc, ← afterStoring_eq]
      unfold store
      split <;> rfl

/-- An insert of a type without a binding. -/
theorem insert_of_error {err : Error}
    (h : EntityBinding.ofType schema e.type = .error err) :
    insert schema t ⟨e, s⟩ = .error err ⟨e, s⟩ := by
  rw [insert_eq, EStateM.bind_of_eq_ok (a := entity) (x := e) rfl, h]
  rfl

/-- An insert of a type with a binding. -/
theorem insert_of_ofType (hb : EntityBinding.ofType schema e.type = .ok b) :
    insert schema t ⟨e, s⟩
      = (insertRow t b e >>= fun _ => ofEdit b.runPostStore) ⟨e, s⟩ := by
  rw [insert_eq, EStateM.bind_of_eq_ok (a := entity) (x := e) rfl, hb]
  rfl

/-- Without hooks nothing follows it. -/
theorem insert_unhooked (hb : EntityBinding.ofType schema e.type = .ok b) :
    insert schema.unhooked t ⟨e, s⟩ = insertRow t b e ⟨e, s⟩ := by
  have hb' : EntityBinding.ofType schema.unhooked e.type = .ok b.unhooked := by
    rw [EntityBinding.ofType_unhooked, hb]
    rfl
  have hhook : ofEdit b.unhooked.runPostStore = pure () := rfl
  rw [insert_of_ofType hb', insertRow_unhooked, hhook]
  exact congrFun (bind_pure _) _

/-- A type that is misconfigured fails without hooks, too. -/
theorem insert_unhooked_of_error {err : Error}
    (h : EntityBinding.ofType schema e.type = .error err) :
    insert schema.unhooked t ⟨e, s⟩ = .error err ⟨e, s⟩ := by
  refine insert_of_error ?_
  rw [EntityBinding.ofType_unhooked, h]
  rfl

variable (schema t) in
/-- An insert is one without hooks, and then the hook. -/
theorem insert_eq_unhooked (w : Workbench) :
    insert schema t w
      = (insert schema.unhooked t >>= fun _ =>
          ofEdit (schema.postStore w.entity.type)) w := by
  obtain ⟨e, s⟩ := w
  cases hb : EntityBinding.ofType schema e.type with
  | error err =>
      rw [insert_of_error hb,
        EStateM.bind_of_eq_error (insert_unhooked_of_error hb)]
  | ok b =>
      rw [insert_of_ofType hb, EntityBinding.runPostStore_of_ofType hb]
      exact EStateM.bind_of_eq (insert_unhooked hb).symm _

/-- When nothing speaks against an insert, the statement is sent and the key
dropped. -/
theorem insertRow_of_insertable
    {statement : EntityBinding.InsertStatement} (hfree : ¬ s.Barred t)
    (hwritten : b.insertStatement e = .ok statement)
    (htransient : b.isTransient e = .ok b.isGenerated) :
    insertRow t b e ⟨e, s⟩
      = (store t b statement >>= fun _ => forget t b) ⟨e, s⟩ := by
  have hwritable : ofAction (Action.ensureWritable t statement.sql) ⟨e, s⟩
      = .ok () ⟨e, s⟩ := by
    refine EStateM.apply_eq_ok_iff.mpr ⟨?_, ?_⟩
    · rw [answer_ofAction, Action.answer_ensureWritable]
      unfold Session.Barred at hfree
      rw [not_or] at hfree
      rw [if_neg hfree.1, if_neg hfree.2]
    · rw [after_ofAction, Action.after_ensureWritable]
  unfold insertRow
  rw [hwritten, ofExcept_ok_bind, EStateM.bind_of_eq_ok hwritable,
    htransient, ofExcept_ok_bind]
  cases b.isGenerated <;> rfl

end EntityAction

-- ================================================================ the call

/-- A call beside an entity is not made, since the connection is gone, or it is
made once, and fails or is answered. The entity is left alone. -/
theorem EntityAction.onConnection_cases {α : Type} {t : TransactionId}
    {call : Call} {step : Nat → Driver.Step α}
    (hrecords : ∀ c, Driver.Records (some c) call (step c)) (sql : String)
    (params : List Value) (e : Entity) (s : Session) :
    (s.connectionOf? t = none
      ∧ ∃ err s', ofAction (Action.onConnection t sql params step) ⟨e, s⟩
          = .error err ⟨e, s'⟩ ∧ s'.driver = s.driver)
    ∨ ∃ c, s.connectionOf? t = some c ∧
      ((∃ failure err s',
        ofAction (Action.onConnection t sql params step) ⟨e, s⟩
          = .error err ⟨e, s'⟩
        ∧ s'.driver.log = s.driver.log ++ [⟨some c, call, some failure⟩])
      ∨ ∃ x s', (step c).answer s.driver = .ok x
        ∧ ofAction (Action.onConnection t sql params step) ⟨e, s⟩
          = .ok x ⟨e, s'⟩
        ∧ s'.driver.log = s.driver.log ++ [⟨some c, call, none⟩]) := by
  unfold ofAction
  dsimp only
  cases hc : s.connectionOf? t with
  | none =>
      have hreleased := Action.onConnectionQuietly_released (s := s.report
        (.statement (s.transaction t).display sql params
          s.config.logParameters)) hc sql params step
      rw [Action.onConnection_eq, hreleased]
      exact Or.inl ⟨rfl, _, _, rfl, rfl⟩
  | some c =>
      refine Or.inr ⟨c, rfl, ?_⟩
      obtain ⟨event, heq⟩ := Action.onConnection_drives hc step sql params
      have hlog := (hrecords c).log s.driver
      cases hanswer : (step c).answer s.driver with
      | error failure =>
          rw [hanswer] at hlog
          rw [heq, Action.drive_of_error (s := s.report event) hanswer]
          refine Or.inl ⟨failure, _, _, rfl, ?_⟩
          rw [Action.after_drive]
          exact hlog
      | ok x =>
          rw [hanswer] at hlog
          rw [heq, Action.drive_of_ok (s := s.report event) hanswer]
          refine Or.inr ⟨x, _, rfl, rfl, ?_⟩
          rw [Action.after_drive]
          exact hlog

namespace Session

/-- What is dropped is not there. -/
theorem find?_evicted (s : Session) (t : TransactionId) (key : CacheKey) :
    ((s.modifyCache t (·.invalidate key)).cacheOf t).find? key = none := by
  unfold cacheOf chainOf? modifyCache
  rw [transactions_modifyChain, chains_modifyChain]
  cases s.transactions[t]? with
  | none => rfl
  | some tx =>
      simp only [Option.bind_some, List.getElem?_modify_eq]
      cases s.chains[tx.chain]? with
      | none => rfl
      | some chain =>
          exact (IdentityCache.find?_invalidate chain.cache key key).trans
            (if_pos rfl)

end Session

-- ================================================================= the key

/-- Values without a null make an identity. -/
theorem IdentityKey.exists_of_any_isNull {vs : List Value}
    (h : vs.any Value.isNull = false) :
    ∃ identity, ofValues? vs = some identity := by
  suffices hparts : ∃ parts, partsOf? vs = some parts by
    obtain ⟨parts, hparts⟩ := hparts
    refine ⟨⟨parts⟩, ?_⟩
    unfold ofValues?
    rw [hparts]
    rfl
  induction vs with
  | nil => exact ⟨[], rfl⟩
  | cons v vs ih =>
      rw [List.any_cons, Bool.or_eq_false_iff] at h
      obtain ⟨parts, hparts⟩ := ih h.2
      obtain ⟨part, hpart⟩ : ∃ part, KeyPart.ofValue? v = some part := by
        cases v with
        | null => cases h.1
        | _ => exact ⟨_, rfl⟩
      refine ⟨part :: parts, ?_⟩
      unfold partsOf?
      rw [hpart, hparts]
      rfl

namespace EntityBinding

variable {schema : Schema} {typeName : String} {b : EntityBinding}
  {e : Entity}

/-- An entity that is not transient has an identity. -/
theorem exists_identity_of_isTransient (h : b.isTransient e = .ok false) :
    ∃ identity, b.identity e = .ok (some identity) := by
  obtain ⟨vs, hvs, hnull⟩ := Except.exists_of_map_eq_ok h
  obtain ⟨identity, hidentity⟩ := IdentityKey.exists_of_any_isNull hnull
  refine ⟨identity, ?_⟩
  unfold EntityBinding.identity
  rw [hvs, ← hidentity]
  rfl

/-- An entity takes the key that was generated for it: there is one key, and
the identity column holds what it decodes to. -/
inductive Takes (b : EntityBinding) (e : Entity) :
    List Value → Entity → Prop where
  | key {column : ColumnBinding} {index : Nat} {type : FieldType}
      {key : Value} {d : Datum}
      (hcolumn : b.identityPositions = [(column, index)])
      (hindex : index < e.fields.length)
      (hgenerated : column.generated = true)
      (haccess : column.access = .plain type)
      (hdecode : type.decode key = .ok d) :
      Takes b e [key] (e.setField index (.plain d))

/-- A generated identity is not one of several columns. -/
theorem identityCount_of_isGenerated (hb : ofType schema typeName = .ok b)
    (h : b.isGenerated = true) : b.descriptor.identityCount = 1 := by
  obtain ⟨-, -, hcount, hcomposite, -⟩ :=
    columnsFault?_eq_none_iff.mp (columnsFault?_of_ofType hb)
  exact Nat.le_antisymm (hcomposite h) (Nat.pos_of_ne_zero hcount)

/-- If generated columns are identity columns, there is just one. -/
theorem exists_generated (hb : ofType schema typeName = .ok b)
    (hkeys : ∀ c ∈ b.columns, c.generated = true → c.identity = true)
    (h : b.isGenerated = true) :
    ∃ column index type, b.identityPositions = [(column, index)]
      ∧ column.generated = true ∧ column.access = .plain type := by
  have hlength : b.identityPositions.length = 1 := by
    have hcount := identityCount_of_isGenerated hb h
    unfold EntityDescriptor.identityCount at hcount
    rwa [← List.length_map (f := Prod.fst), map_identityPositions]
  obtain ⟨p, hp⟩ := List.length_eq_one_iff.mp hlength
  obtain ⟨column, hmem, hgenerated⟩ := List.any_eq_true.mp h
  have hidentity := hkeys column hmem hgenerated
  obtain ⟨index, hindex⟩ := List.getElem?_of_mem hmem
  have hposition : (column, index) ∈ b.identityPositions :=
    mem_identityPositions.mpr ⟨hindex, hidentity⟩
  rw [hp, List.mem_singleton] at hposition
  obtain ⟨type, haccess⟩ := access_of_identity hb hmem hidentity
  exact ⟨column, index, type, hposition ▸ hp, hgenerated, haccess⟩

/-- A transient entity has a field for its identity. -/
theorem lt_of_isTransient {column : ColumnBinding} {index : Nat}
    (hcolumn : b.identityPositions = [(column, index)])
    (h : b.isTransient e = .ok true) : index < e.fields.length := by
  obtain ⟨vs, hvs, hnull⟩ := Except.exists_of_map_eq_ok h
  unfold identityValues at hvs
  generalize hbound : List.filter _ (b.bound e) = bound at hvs
  cases bound with
  | nil =>
      cases hvs
      cases hnull
  | cons p rest =>
      have hp : p ∈ List.filter _ (b.bound e) := hbound ▸ List.mem_cons_self
      obtain ⟨hmem, hidentity⟩ := List.mem_filter.mp hp
      obtain ⟨k, hk⟩ := List.getElem?_of_mem hmem
      obtain ⟨hc, hf⟩ := List.getElem?_zip_eq_some.mp hk
      have hposition : (p.1, k) ∈ b.identityPositions :=
        mem_identityPositions.mpr ⟨hc, hidentity⟩
      rw [hcolumn, List.mem_singleton] at hposition
      rw [← (Prod.mk.inj hposition).2]
      exact (List.getElem?_eq_some_iff.mp hf).1

/-- An identity of one column is set by setting the column. -/
theorem setIdentity_singleton {column : ColumnBinding} {index : Nat}
    (hcolumn : b.identityPositions = [(column, index)]) (key : Value) :
    b.setIdentity [key]
      = b.setColumn column index key >>= fun _ => pure () := by
  unfold setIdentity
  rw [hcolumn]
  rfl

/-- What is taken is what setting the identity makes. -/
theorem Takes.setIdentity {e' : Entity} {keys : List Value}
    (h : b.Takes e keys e') : b.setIdentity keys e = .ok () e' := by
  cases h with
  | key hcolumn _ _ haccess hdecode =>
      rw [setIdentity_singleton hcolumn]
      exact EStateM.bind_of_eq_ok
        (setColumn_of_decode haccess hdecode _ _) _

/-- Setting a generated identity takes the key, or changes nothing. -/
theorem setIdentity_cases {column : ColumnBinding} {index : Nat}
    {type : FieldType} (hcolumn : b.identityPositions = [(column, index)])
    (hindex : index < e.fields.length) (hgenerated : column.generated = true)
    (haccess : column.access = .plain type) (keys : List Value) :
    (∃ err, b.setIdentity keys e = .error err e)
      ∨ ∃ e', b.Takes e keys e' := by
  by_cases hwidth : keys.length = 1
  · obtain ⟨key, rfl⟩ := List.length_eq_one_iff.mp hwidth
    cases hdecode : type.decode key with
    | ok d =>
        exact Or.inr ⟨_, .key hcolumn hindex hgenerated haccess hdecode⟩
    | error err =>
        refine Or.inl ⟨b.columnError column.name err, ?_⟩
        rw [setIdentity_singleton hcolumn]
        refine EStateM.bind_of_eq_error ?_ _
        unfold setColumn
        rw [haccess]
        dsimp only
        rw [hdecode]
        rfl
  · refine Or.inl ⟨.mapping (.identityWidth b.table keys.length 1), ?_⟩
    unfold EntityBinding.setIdentity
    rw [hcolumn]
    exact congrFun (if_pos hwidth) e

end EntityBinding

namespace EntityAction

variable {schema : Schema} {t : TransactionId} {b : EntityBinding}
  {e : Entity} {s : Session} {statement : EntityBinding.InsertStatement}

/-- What is made of the keys: the entity takes the one that gives it an
identity, or this fails and it is still transient, or the key it took is
structured data that cannot be stored again. -/
theorem takeKeys_cases (hb : EntityBinding.ofType schema e.type = .ok b)
    (hkeys : ∀ c ∈ b.columns, c.generated = true → c.identity = true)
    (hgenerated : b.isGenerated = true)
    (htransient : b.isTransient e = .ok true) (keys : List Value) :
    (∃ err e', takeKeys t b statement keys ⟨e, s⟩ = .error err ⟨e', s⟩
      ∧ (∀ e', b.Takes e keys e' → b.isTransient e' = .ok true)
      ∧ (e' = e ∨ b.Takes e keys e') ∧ b.isTransient e' = .ok true)
    ∨ (∃ err e', takeKeys t b statement keys ⟨e, s⟩ = .error err ⟨e', s⟩
      ∧ b.Takes e keys e' ∧ ¬ b.Readable e')
    ∨ ∃ e', takeKeys t b statement keys ⟨e, s⟩ = .ok () ⟨e', s⟩
      ∧ b.Takes e keys e' ∧ b.isTransient e' = .ok false := by
  obtain ⟨column, index, type, hcolumn, hcolumn', haccess⟩ :=
    EntityBinding.exists_generated hb hkeys hgenerated
  have hindex := EntityBinding.lt_of_isTransient hcolumn htransient
  rcases EntityBinding.setIdentity_cases hcolumn hindex hcolumn' haccess keys
    with ⟨err, hset⟩ | ⟨e', htakes⟩
  · -- the keys do not fit: the entity stays as it is
    refine Or.inl ⟨err, e, EStateM.bind_of_eq_error ?_ _, fun e' htakes => ?_,
      Or.inl rfl, htransient⟩
    · unfold ofEdit
      rw [hset]
    · cases hset.symm.trans htakes.setIdentity
  have hset := htakes.setIdentity
  have hedit : ofEdit (b.setIdentity keys) ⟨e, s⟩ = .ok () ⟨e', s⟩ := by
    unfold ofEdit
    rw [hset]
  have hrun : takeKeys t b statement keys ⟨e, s⟩
      = (ofExcept (b.isTransient e') >>= fun transient =>
        if transient then
          refuse t (.identityNotReturned b.table) statement.sql
            statement.params
        else pure ()) ⟨e', s⟩ := EStateM.bind_of_eq_ok hedit _
  rw [hrun]
  cases hasked : b.isTransient e' with
  -- the key was taken, and its stored form cannot be read
  | error err =>
      refine Or.inr (Or.inl ⟨err, e', rfl, htakes, fun hreadable => ?_⟩)
      obtain ⟨transient, htransient⟩ := hreadable.exists_isTransient
      cases hasked.symm.trans htransient
  -- the key was taken, and it is an identity or not
  | ok transient =>
      cases transient with
      | true =>
          refine Or.inl ⟨_, e', rfl, fun e'' htakes' => ?_, Or.inr htakes,
            hasked⟩
          cases hset.symm.trans htakes'.setIdentity
          exact hasked
      | false => exact Or.inr (Or.inr ⟨e', rfl, htakes, hasked⟩)

/-- An entity that has its identity loses its key in the cache. -/
theorem forget_of_isTransient (h : b.isTransient e = .ok false) :
    ∃ identity, b.identity e = .ok (some identity)
      ∧ forget t b ⟨e, s⟩ = .ok ()
        ⟨e, s.modifyCache t (·.invalidate ⟨b.typeName, identity⟩)⟩ := by
  obtain ⟨identity, hidentity⟩ :=
    EntityBinding.exists_identity_of_isTransient h
  refine ⟨identity, hidentity, ?_⟩
  unfold forget
  rw [EStateM.bind_of_eq_ok (a := entity) (x := e) rfl, hidentity]
  rfl

end EntityAction

-- ================================================================= outcomes

/-- The call that inserts an entity. -/
def EntityBinding.insertCall (b : EntityBinding)
    (statement : InsertStatement) : Call :=
  if b.isGenerated then
    .insertReturning statement.sql statement.params statement.keys
  else .execute statement.sql statement.params

namespace EntityAction

/-- An insert made its call and no other; `failure` is how that failed, if it
did. -/
structure Sent (t : TransactionId) (b : EntityBinding) (c : Nat)
    (statement : EntityBinding.InsertStatement)
    (failure : Option DriverError) (w w' : Workbench) : Prop where
  written : b.insertStatement w.entity = .ok statement
  connection : w.session.connectionOf? t = some c
  log : w'.session.driver.log = w.session.driver.log
    ++ [⟨some c, b.insertCall statement, failure⟩]

/-- The row of an entity was stored: its call was answered, and the entity
has its identity. It took it from the answer, or had it before. -/
structure Stored (t : TransactionId) (b : EntityBinding) (c : Nat)
    (statement : EntityBinding.InsertStatement) (w w' : Workbench) : Prop
    extends Sent t b c statement none w w' where
  entity : if b.isGenerated then
      ∃ keys, (Driver.insertReturning c statement.sql statement.params
          statement.keys).answer w.session.driver = .ok keys
        ∧ b.Takes w.entity keys w'.entity
    else w'.entity = w.entity
  persistent : b.isTransient w'.entity = .ok false

/-- An insert succeeded: besides, nothing is cached for the identity. -/
structure Inserted (t : TransactionId) (b : EntityBinding) (c : Nat)
    (statement : EntityBinding.InsertStatement) (w w' : Workbench) : Prop
    extends Stored t b c statement w w' where
  forgotten : ∃ identity, b.identity w'.entity = .ok (some identity)
    ∧ (w'.session.cacheOf t).find? ⟨b.typeName, identity⟩ = none

/-- An insert failed, and why: something spoke against it or there was no
connection, the call failed, or it was answered with keys that give the entity
no identity, or with structured data that cannot be stored again. -/
inductive NotInserted (schema : Schema) (t : TransactionId) (w : Workbench) :
    Workbench → Prop where
  | unsent {w' : Workbench}
      (hreason : ¬ Insertable schema w.session t w.entity
        ∨ w.session.connectionOf? t = none)
      (hentity : w'.entity = w.entity)
      (hdriver : w'.session.driver = w.session.driver) :
      NotInserted schema t w w'
  | failed {b : EntityBinding} {c : Nat}
      {statement : EntityBinding.InsertStatement} {failure : DriverError}
      {w' : Workbench}
      (hb : EntityBinding.ofType schema w.entity.type = .ok b)
      (hsent : Sent t b c statement (some failure) w w')
      (hentity : w'.entity = w.entity) : NotInserted schema t w w'
  | keyless {b : EntityBinding} {c : Nat}
      {statement : EntityBinding.InsertStatement} {keys : List Value}
      {w' : Workbench}
      (hb : EntityBinding.ofType schema w.entity.type = .ok b)
      (hgenerated : b.isGenerated = true)
      (hsent : Sent t b c statement none w w')
      (hkeys : (Driver.insertReturning c statement.sql statement.params
        statement.keys).answer w.session.driver = .ok keys)
      (hreason : ∀ e', b.Takes w.entity keys e' → b.isTransient e' = .ok true)
      (hentity : w'.entity = w.entity ∨ b.Takes w.entity keys w'.entity)
      (htransient : b.isTransient w'.entity = .ok true) :
      NotInserted schema t w w'
  | unreadable {b : EntityBinding} {c : Nat}
      {statement : EntityBinding.InsertStatement} {keys : List Value}
      {w' : Workbench}
      (hb : EntityBinding.ofType schema w.entity.type = .ok b)
      (hgenerated : b.isGenerated = true)
      (hsent : Sent t b c statement none w w')
      (hkeys : (Driver.insertReturning c statement.sql statement.params
        statement.keys).answer w.session.driver = .ok keys)
      (hentity : b.Takes w.entity keys w'.entity)
      (hreason : ¬ b.Readable w'.entity) : NotInserted schema t w w'

variable {schema : Schema} {t : TransactionId} {b : EntityBinding}
  {e : Entity} {s : Session} {statement : EntityBinding.InsertStatement}

/-- The call of an insert is answered, or the insert has failed. -/
theorem send_cases {α : Type} {step : Nat → Driver.Step α}
    (hb : EntityBinding.ofType schema e.type = .ok b)
    (hwritten : b.insertStatement e = .ok statement)
    (hrecords : ∀ c, Driver.Records (some c) (b.insertCall statement)
      (step c)) :
    (∃ err w', ofAction (Action.onConnection t statement.sql statement.params
        step) ⟨e, s⟩ = .error err w' ∧ NotInserted schema t ⟨e, s⟩ w')
    ∨ ∃ c x s', (step c).answer s.driver = .ok x
      ∧ ofAction (Action.onConnection t statement.sql statement.params step)
          ⟨e, s⟩ = .ok x ⟨e, s'⟩
      ∧ ∀ e', Sent t b c statement none ⟨e, s⟩ ⟨e', s'⟩ := by
  rcases onConnection_cases (t := t) hrecords statement.sql statement.params
      e s with
    ⟨hc, err, s', herr, hdriver⟩ | ⟨c, hc, ⟨failure, err, s', herr, hlog⟩
      | ⟨x, s', hanswer, hok, hlog⟩⟩
  · exact Or.inl ⟨err, _, herr, .unsent (Or.inr hc) rfl hdriver⟩
  · exact Or.inl ⟨err, _, herr, .failed hb ⟨hwritten, hc, hlog⟩ rfl⟩
  · exact Or.inr ⟨c, x, s', hanswer, hok, fun _ => ⟨hwritten, hc, hlog⟩⟩

/-- A statement with a generated identity is sent, and the key is taken; or the
insert has failed. -/
theorem insertGenerated_cases
    (hb : EntityBinding.ofType schema e.type = .ok b)
    (hkeys : ∀ c ∈ b.columns, c.generated = true → c.identity = true)
    (hgenerated : b.isGenerated = true)
    (hwritten : b.insertStatement e = .ok statement)
    (htransient : b.isTransient e = .ok true) :
    (∃ err w', insertGenerated t b statement ⟨e, s⟩ = .error err w'
      ∧ NotInserted schema t ⟨e, s⟩ w')
    ∨ ∃ c w', insertGenerated t b statement ⟨e, s⟩ = .ok () w'
      ∧ Stored t b c statement ⟨e, s⟩ w' := by
  have hrecords : ∀ c, Driver.Records (some c) (b.insertCall statement)
      (Driver.insertReturning c statement.sql statement.params
        statement.keys) := by
    intro c
    unfold EntityBinding.insertCall
    rw [if_pos hgenerated]
    exact Driver.records_insertReturning c _ _ _
  rcases send_cases (t := t) (s := s) hb hwritten hrecords with
    ⟨err, w', herr, hfailed⟩ | ⟨c, keys, s', hanswer, hok, hsent⟩
  · exact Or.inl ⟨err, w', EStateM.bind_of_eq_error herr _, hfailed⟩
  have hrun : insertGenerated t b statement ⟨e, s⟩
      = takeKeys t b statement keys ⟨e, s'⟩ := EStateM.bind_of_eq_ok hok _
  rw [hrun]
  rcases takeKeys_cases (t := t) (s := s') hb hkeys hgenerated htransient keys
    with ⟨err, e', herr, hreason, hentity, hstill⟩
      | ⟨err, e', herr, htakes, hreason⟩ | ⟨e', htaken, htakes, hnow⟩
  · exact Or.inl ⟨err, _, herr,
      .keyless hb hgenerated (hsent e') hanswer hreason hentity hstill⟩
  · exact Or.inl ⟨err, _, herr,
      .unreadable hb hgenerated (hsent e') hanswer htakes hreason⟩
  · refine Or.inr ⟨c, _, htaken, hsent e', ?_, hnow⟩
    rw [if_pos hgenerated]
    exact ⟨keys, hanswer, htakes⟩

/-- A statement with a given identity is sent, or the insert has failed. -/
theorem insertGiven_cases (hb : EntityBinding.ofType schema e.type = .ok b)
    (hgenerated : ¬ b.isGenerated = true)
    (hwritten : b.insertStatement e = .ok statement)
    (htransient : b.isTransient e = .ok false) :
    (∃ err w', insertGiven t statement ⟨e, s⟩ = .error err w'
      ∧ NotInserted schema t ⟨e, s⟩ w')
    ∨ ∃ c w', insertGiven t statement ⟨e, s⟩ = .ok () w'
      ∧ Stored t b c statement ⟨e, s⟩ w' := by
  have hrecords : ∀ c, Driver.Records (some c) (b.insertCall statement)
      (Driver.execute c statement.sql statement.params) := by
    intro c
    unfold EntityBinding.insertCall
    rw [if_neg hgenerated]
    exact Driver.records_execute c _ _
  rcases send_cases (t := t) (s := s) hb hwritten hrecords with
    ⟨err, w', herr, hfailed⟩ | ⟨c, count, s', -, hok, hsent⟩
  · exact Or.inl ⟨err, w', EStateM.bind_of_eq_error herr _, hfailed⟩
  · refine Or.inr ⟨c, _, EStateM.bind_of_eq_ok hok _, hsent e, ?_, htransient⟩
    rw [if_neg hgenerated]

/-- Sending the statement stores the row, or the insert has failed. -/
theorem store_cases (hb : EntityBinding.ofType schema e.type = .ok b)
    (hkeys : ∀ c ∈ b.columns, c.generated = true → c.identity = true)
    (hwritten : b.insertStatement e = .ok statement)
    (htransient : b.isTransient e = .ok b.isGenerated) :
    (∃ err w', store t b statement ⟨e, s⟩ = .error err w'
      ∧ NotInserted schema t ⟨e, s⟩ w')
    ∨ ∃ c w', store t b statement ⟨e, s⟩ = .ok () w'
      ∧ Stored t b c statement ⟨e, s⟩ w' := by
  unfold store
  by_cases hgenerated : b.isGenerated = true
  · rw [hgenerated] at htransient
    rw [if_pos hgenerated]
    exact insertGenerated_cases hb hkeys hgenerated hwritten htransient
  · rw [Bool.eq_false_iff.mpr hgenerated] at htransient
    rw [if_neg hgenerated]
    exact insertGiven_cases hb hgenerated hwritten htransient

/-- What could be inserted still can without hooks. -/
theorem insertable_unhooked (h : Insertable schema s t e) :
    Insertable schema.unhooked s t e := by
  obtain ⟨hfree, b, statement, hb, hwritten, htransient⟩ := h
  refine ⟨hfree, b.unhooked, statement, ?_, ?_, ?_⟩
  · rw [EntityBinding.ofType_unhooked, hb]
    rfl
  · rw [EntityBinding.insertStatement_unhooked]
    exact hwritten
  · rw [EntityBinding.isTransient_unhooked]
    exact htransient

/-- An insert has succeeded but for its hook, or it has failed. -/
theorem insertRow_cases (hb : EntityBinding.ofType schema e.type = .ok b)
    (hkeys : ∀ c ∈ b.columns, c.generated = true → c.identity = true) :
    (∃ err w', insertRow t b e ⟨e, s⟩ = .error err w'
      ∧ NotInserted schema t ⟨e, s⟩ w')
    ∨ ∃ c statement w', insertRow t b e ⟨e, s⟩ = .ok () w'
      ∧ Inserted t b c statement ⟨e, s⟩ w' := by
  by_cases h : Insertable schema.unhooked s t e
  · obtain ⟨hfree, b', statement, hb', hstatement, htransient⟩ := h
    rw [EntityBinding.ofType_unhooked, hb] at hb'
    cases hb'
    rw [EntityBinding.insertStatement_unhooked] at hstatement
    rw [EntityBinding.isTransient_unhooked] at htransient
    rw [insertRow_of_insertable hfree hstatement htransient]
    rcases store_cases (t := t) (s := s) hb hkeys hstatement htransient with
      ⟨err, w', herr, hfailed⟩ | ⟨c, w', hok, hstored⟩
    · exact Or.inl ⟨err, w', EStateM.bind_of_eq_error herr _, hfailed⟩
    · obtain ⟨identity, hidentity, hforget⟩ :=
        forget_of_isTransient (t := t) (s := w'.session) hstored.persistent
      refine Or.inr ⟨c, statement, _,
        (EStateM.bind_of_eq_ok hok _).trans hforget, ?_, identity, hidentity,
        Session.find?_evicted _ _ _⟩
      refine ⟨⟨hstored.written, hstored.connection, ?_⟩, hstored.entity,
        hstored.persistent⟩
      rw [Session.driver_modifyCache]
      exact hstored.log
  · obtain ⟨err, herr⟩ := refused_insert h
    rw [insert_unhooked hb] at herr
    exact Or.inl ⟨err, _, herr,
      .unsent (Or.inl fun h' => h (insertable_unhooked h')) rfl rfl⟩

/-- What becomes of an insert, in a schema whose generated columns are identity
columns. The hook runs once, after everything else, and only if that succeeded:
then the one call was answered, the entity has its identity, and nothing is
cached for it. What fails before the hook fails for a reason, and leaves the
entity as it was unless its call was answered. -/
theorem insert_outcome (schema : Schema) (t : TransactionId) (w : Workbench)
    (hkeys : ∀ d ∈ schema, ∀ c ∈ d.columns,
      c.generated = true → c.identity = true) :
    insert schema t w
        = (insert schema.unhooked t >>= fun _ =>
            ofEdit (schema.postStore w.entity.type)) w
      ∧ (∀ w', insert schema.unhooked t w = .ok () w' →
          ∃ b c statement, EntityBinding.ofType schema w.entity.type = .ok b
            ∧ Inserted t b c statement w w')
      ∧ ∀ err w', insert schema.unhooked t w = .error err w' →
          NotInserted schema t w w' := by
  refine ⟨insert_eq_unhooked schema t w, ?_⟩
  obtain ⟨e, s⟩ := w
  cases hb : EntityBinding.ofType schema e.type with
  -- a type that is not bound: nothing is sent
  | error err =>
      rw [insert_unhooked_of_error hb]
      refine ⟨nofun, ?_⟩
      rintro _ _ ⟨⟩
      refine .unsent (Or.inl ?_) rfl rfl
      rintro ⟨-, b, _, hb', -⟩
      cases hb.symm.trans hb'
  | ok b =>
      have hcolumns := hkeys b.descriptor (EntityBinding.of_ofType hb).2
      rw [insert_unhooked hb]
      rcases insertRow_cases (t := t) (s := s) hb hcolumns with
        ⟨err, w', herr, hfailed⟩ | ⟨c, statement, w', hok, hinserted⟩
      · -- it fails before the hook, for a reason
        rw [herr]
        refine ⟨nofun, ?_⟩
        rintro _ _ ⟨⟩
        exact hfailed
      · -- the one call was answered, and the keys were taken
        rw [hok]
        refine ⟨?_, nofun⟩
        rintro _ ⟨⟩
        exact ⟨b, c, statement, rfl, hinserted⟩

/-- A new customer, in a transaction of a driver that answers an insert with
some keys. -/
def newcomer (keys : List Value) : Workbench where
  entity := (Catalog.customer "").initial.setField Catalog.customerNameIndex
    (.plain (.stored (.text "Grace")))
  session := (Action.begin false).after
    (.blank (Driver.empty.pushGenerated keys))

/-- With a key the customer is stored and counted once; with a null the insert
fails after its call, and nothing is counted. -/
theorem insert_outcome_newcomer :
    let schema := Catalog.schema ""
    let counters (keys : List Value) : List (String × Nat) :=
      ((insert schema 0).after (newcomer keys)).entity.counters
    (∃ b c statement w', EntityBinding.ofType schema "Customer" = .ok b
        ∧ Inserted 0 b c statement (newcomer [.int64 42]) w')
      ∧ counters [.int64 42] = [("loads", 0), ("stores", 1)]
      ∧ NotInserted schema 0 (newcomer [.null])
        ((insert schema.unhooked 0).after (newcomer [.null]))
      ∧ counters [.null] = [("loads", 0), ("stores", 0)] := by
  intro schema counters
  have hkeys : ∀ d ∈ schema, ∀ c ∈ d.columns,
      c.generated = true → c.identity = true := by
    decide +kernel
  obtain ⟨-, hstores, -⟩ := insert_outcome schema 0 (newcomer [.int64 42]) hkeys
  obtain ⟨-, -, hfails⟩ := insert_outcome schema 0 (newcomer [.null]) hkeys
  have hstored : ((insert schema.unhooked 0).answer
      (newcomer [.int64 42])).isOk = true := by
    decide +kernel
  have hfailed : ((insert schema.unhooked 0).answer
      (newcomer [.null])).isOk = false := by
    decide +kernel
  refine ⟨?_, by decide +kernel, ?_, by decide +kernel⟩
  · obtain ⟨_, hanswer⟩ := Except.exists_of_isOk hstored
    obtain ⟨b, c, statement, hb, hinserted⟩ :=
      hstores _ (EStateM.apply_eq_ok_iff.mpr ⟨hanswer, rfl⟩)
    exact ⟨b, c, statement, _, hb, hinserted⟩
  · have hrun := EStateM.apply_eq (insert schema.unhooked 0) (newcomer [.null])
    cases hanswer : (insert schema.unhooked 0).answer (newcomer [.null]) with
    | ok x =>
        rw [hanswer] at hfailed
        cases hfailed
    | error err =>
        rw [hanswer] at hrun
        exact hfails err _ hrun

end EntityAction

end DataAccess
