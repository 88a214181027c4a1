/-
Every statement makes one call or none, and fails as `Upshot` says. There is
one lemma here for each action that statements are made of, up to
`Statement.asks_run`, which lists what is neither a failed call nor located
at the statement: `Slips` are the library's own failures of this kind, and
`Raised` is what a function of the caller failed with.

Of which parts an action is made is known (`Composed`), and that what surrounds
the call makes none is read off that. In which order the parts stand is not: a
failure before the call and one after it are told apart here.

An insert writes the generated keys back into the entity after its call, and
asks whether they are there. That is where it fails if they do not fit, or are
data that cannot be stored again (`Unset`). Once they are there the identity
of the entity can be read (`Readable`), and only the hook can make it fail.
-/
import DataAccess.Proofs.Entity.Reading
import DataAccess.Proofs.Session.Upshot

namespace DataAccess

variable {τ α β : Type} {t : TransactionId}

-- =============================================================== statements

namespace Action

variable {s : Session} {sql : String} {params : Params}
  {stray : Error → Prop} {schema : Schema}

theorem quiet_of_after {a : Action α} (h : ∀ s, a.after s = s) :
    Quiet id a := by
  constructor <;> intro s <;> rw [h s]

/-- A statement that changes data is sent with its tokens replaced. -/
theorem asks_execute : Asks id t stray (execute t sql params) s :=
  .before (quiet_of_after fun _ => after_resolve) fun statement _ =>
    .before (quiet_of_after fun s => after_ensureWritable s t _) fun _ _ =>
      ⟨statement.sql, sends_onConnection
        (fun c => Driver.records_execute c statement.sql statement.params)
        (fun _ => rfl) statement.params⟩

/-- So is a query. -/
theorem sends_runQuery (statement : BoundStatement) :
    Sends id t statement.sql stray (runQuery t statement) s :=
  .before (quiet_of_after fun s => after_ensureOpen s t) fun _ _ =>
    sends_onConnection
      (fun c => Driver.records_query c statement.sql statement.params)
      (fun _ => rfl) statement.params

theorem quiet_mapRows (resolver : ColumnResolver) {f : Row → Action α}
    (hf : ∀ row, Quiet id (f row)) (rows : List (List Value)) :
    Quiet id (mapRows resolver f rows) := by
  induction rows with
  | nil => exact quiet_pure []
  | cons values rest ih =>
      exact (quiet_ofExcept _).bind fun row => (hf row).bind fun x =>
        ih.bind fun xs => quiet_pure _

/-- What cannot be made of a row fails as the mapper does, or for the width of
the row. -/
theorem failsAs_mapRows (resolver : ColumnResolver) {f : Row → Action α}
    (hf : ∀ row s, FailsAs (fun e => Placeless e ∨ stray e) (f row) s)
    (rows : List (List Value)) (s : Session) :
    FailsAs (fun e => Placeless e ∨ stray e) (mapRows resolver f rows) s := by
  induction rows generalizing s with
  | nil => exact failsAs_of_answer rfl
  | cons values rest ih =>
      refine (failsAs_ofExcept fun e he =>
        Or.inl (Row.placeless_ofValues he)).bind fun row _ => ?_
      refine (hf row _).bind fun x _ => (ih _).bind fun xs _ => ?_
      exact failsAs_of_answer rfl

/-- A query whose rows are mapped. -/
theorem asks_fetchMap {f : Row → Action α} (hquiet : ∀ row, Quiet id (f row))
    (hf : ∀ row s, FailsAs (fun e => Placeless e ∨ stray e) (f row) s) :
    Asks id t stray (fetchMap t sql params f) s := by
  refine .before (quiet_of_after fun _ => after_resolve) fun statement _ =>
    ⟨statement.sql, (sends_runQuery statement).bind (fun result => ?_)
      fun result _ hdisplay => ?_⟩
  · exact Quiet.bind ⟨fun _ => rfl, fun _ => rfl⟩ fun _ =>
      (quiet_mapRows _ hquiet result.rows).mapError _
  · refine FailsAs.bind (failsAs_of_answer (EStateM.answer_get _))
      fun s' hs' => ?_
    cases hs'
    rw [← hdisplay]
    exact failsAs_tagged (failsAs_mapRows _ hf result.rows _)

theorem asks_fetchRows : Asks id t stray (fetchRows t sql params) s :=
  asks_fetchMap (fun row => quiet_pure row) fun _ _ => failsAs_of_answer rfl

/-- Other than one row is a failure that shows the statement as it was
given. -/
theorem asks_fetchOne :
    Asks id t (fun e => e.Located (s.transaction t).display sql)
      (fetchOne t sql params) s := by
  refine asks_fetchRows.bind (fun rows => ?_) fun rows _ hdisplay => ?_
  · split
    · exact quiet_pure _
    · exact Quiet.bind ⟨fun _ => rfl, fun _ => rfl⟩ fun _ =>
        ⟨fun _ => rfl, fun _ => rfl⟩
  · split
    · exact failsAs_of_answer rfl
    · refine FailsAs.bind (failsAs_of_answer (EStateM.answer_get _))
        fun s' hs' => failsAs_throw ?_
      cases hs'
      rw [← show _ = (s.transaction t).display from hdisplay]
      exact ⟨_, rfl⟩

theorem asks_fetchOptional : Asks id t stray (fetchOptional t sql params) s :=
  asks_fetchRows.bind (fun _ => quiet_pure _) fun _ _ _ =>
    failsAs_of_answer rfl

/-- What cannot be read off the row shows the statement as it was given. -/
theorem asks_fetchScalar (type : FieldType) :
    Asks id t (fun e => e.Located (s.transaction t).display sql)
      (fetchScalar t sql params type) s := by
  refine asks_fetchOne.bind (fun row => ?_) fun row _ hdisplay => ?_
  · exact Quiet.bind ⟨fun _ => rfl, fun _ => rfl⟩ fun _ =>
      (quiet_ofExcept _).mapError _
  · refine FailsAs.bind (failsAs_of_answer (EStateM.answer_get _))
      fun s' hs' => ?_
    cases hs'
    rw [← show _ = (s.transaction t).display from hdisplay]
    have hget : FailsAs (fun e => Placeless e ∨ False)
        (ofExcept (row.getAt 0 type)) ((fetchOne t sql params).after s) :=
      failsAs_ofExcept fun e he => Or.inl (Row.placeless_getAt he)
    exact (failsAs_tagged hget).imp fun e he => he.resolve_right id

theorem asks_fetchRecords (mapper : RecordMapper α) :
    Asks id t stray (fetchRecords t sql params mapper) s :=
  asks_fetchMap (fun _ => quiet_ofExcept _) fun _ _ =>
    failsAs_ofExcept fun _ he => Or.inl (RecordMapper.placeless_map he)

-- ================================================================= entities

variable {typeName suffix : String} {key : List Value}

/-- The hook for loaded entities of a type fails with an error. -/
def LoadRaises (schema : Schema) (typeName : String) (e : Error) : Prop :=
  ∃ b, EntityBinding.ofType schema typeName = .ok b ∧ b.LoadRaises e

theorem asks_fetchEntities :
    Asks id t (LoadRaises schema typeName)
      (fetchEntities schema t typeName sql params) s :=
  .before (quiet_ofExcept _) fun b hb =>
    asks_fetchMap (fun row => quiet_load schema t b row) fun row s =>
      (failsAs_load schema b row s).imp fun _ => Or.imp_right fun hraises =>
        ⟨b, (answer_ofExcept _ _).symm.trans hb, hraises⟩

theorem asks_select :
    Asks id t (LoadRaises schema typeName)
      (select schema t typeName suffix params) s :=
  .before (quiet_ofExcept _) fun _ _ => asks_fetchEntities

theorem asks_selectOptional :
    Asks id t (LoadRaises schema typeName)
      (selectOptional schema t typeName suffix params) s :=
  asks_select.bind (fun _ => quiet_pure _) fun _ _ _ => failsAs_of_answer rfl

/-- A find fails before its call, or as the query does. -/
theorem asks_find :
    Asks id t (LoadRaises schema typeName) (find schema t typeName key) s := by
  refine .before (quiet_ofExcept _) fun b _ => ?_
  dsimp only
  split
  · exact Quiet.asks ⟨fun _ => rfl, fun _ => rfl⟩
  · split
    · exact (quiet_pure none).asks
    · exact asks_fetchEntities.bind (fun _ => quiet_pure _) fun _ _ _ =>
        failsAs_of_answer rfl

/-- Sharing an entity and caching it makes no call and does not fail. -/
theorem quiet_sharing (cacheKey : CacheKey) (e : Entity) :
    Quiet id (do
      let shared ← share e
      cache t cacheKey shared true
      return some shared) :=
  Quiet.bind ⟨fun _ => rfl, fun _ => rfl⟩ fun shared =>
    (quiet_modifyCache (fun _ c => c.put cacheKey shared true)
      fun _ => rfl).bind fun _ => quiet_pure _

/-- An instance that is shared fails nowhere else. -/
theorem asks_findShared :
    Asks id t (LoadRaises schema typeName)
      (findShared schema t typeName key) s := by
  unfold findShared
  cases IdentityKey.ofValues? key with
  | none => exact (quiet_pure none).asks
  | some identity =>
      refine .before (quiet_modifyCache
        (fun s _ => ((s.cacheOf t).getLoaded _).2) fun _ => rfl)
        fun found _ => ?_
      cases found with
      | some found => exact (quiet_pure _).asks
      | none =>
          refine asks_find.bind (fun e => ?_) fun e _ _ => ?_
          · cases e with
            | none => exact quiet_pure none
            | some e => exact quiet_sharing _ e
          · cases e with
            | none => exact failsAs_of_answer rfl
            | some e => exact failsAs_of_answer rfl

/-- A reference to an entity that is not there: its error has the transaction
and no statement. -/
def danglingError (display target : String) (reference : Reference) : Error :=
  .database (.dangling target reference.id.render)
    { transaction := display, statement := none }

/-- A reference may have no row, which shows no statement. -/
theorem asks_resolveReference {target : String} {reference : Reference} :
    Asks id t (fun e => LoadRaises schema target e
        ∨ e = danglingError (s.transaction t).display target reference)
      (resolveReference schema t target reference) s := by
  refine (asks_findShared.imp fun _ => Or.inl).bind (fun found => ?_)
    fun found _ hdisplay => ?_
  · cases found with
    | some found => exact quiet_pure found
    | none => exact Quiet.bind ⟨fun _ => rfl, fun _ => rfl⟩ fun _ =>
        ⟨fun _ => rfl, fun _ => rfl⟩
  · cases found with
    | some found => exact failsAs_of_answer rfl
    | none =>
        refine FailsAs.bind (failsAs_of_answer (EStateM.answer_get _))
          fun s' hs' => failsAs_throw (Or.inr ?_)
        cases hs'
        rw [← show _ = (s.transaction t).display from hdisplay]
        rfl

end Action

-- ================================================================= writing

namespace EntityBinding

variable {b : EntityBinding} {e : Entity}

/-- Setting the identity of an entity to keys that were generated fails, or
what was set cannot be read. -/
def Unset (b : EntityBinding) (e : Entity) (err : Error) : Prop :=
  b.isGenerated = true ∧ ∃ keys, (b.setIdentity keys).answer e = .error err
    ∨ b.identityValues ((b.setIdentity keys).after e) = .error err

/-- An entity whose identity can be read. -/
def Readable (b : EntityBinding) (e : Entity) : Prop :=
  ∃ vs, b.identityValues e = .ok vs

theorem readable_of_isTransient {transient : Bool}
    (h : b.isTransient e = .ok transient) : b.Readable e := by
  obtain ⟨vs, hvs, -⟩ := Except.exists_of_map_eq_ok h
  exact ⟨vs, hvs⟩

/-- Of an identity that can be read it is known whether a part is null. -/
theorem Readable.exists_isTransient (h : b.Readable e) :
    ∃ transient, b.isTransient e = .ok transient := by
  obtain ⟨vs, hvs⟩ := h
  refine ⟨vs.any Value.isNull, ?_⟩
  unfold EntityBinding.isTransient
  rw [hvs]
  rfl

end EntityBinding

namespace EntityAction

variable {schema : Schema} {b : EntityBinding} {stray : Error → Prop}
  {w : Workbench}

theorem quiet_ofExcept (r : Except Error α) :
    Quiet Workbench.session (ofExcept r) := by
  constructor <;> intro w <;> rw [after_ofExcept]

theorem quiet_entity : Quiet Workbench.session entity :=
  ⟨fun _ => rfl, fun _ => rfl⟩

theorem quiet_refuse (fault : StatementFault) (sql : String)
    (params : List Value) :
    Quiet Workbench.session (refuse (α := α) t fault sql params) :=
  Quiet.bind ⟨fun _ => rfl, fun _ => rfl⟩ fun _ =>
    ⟨fun _ => rfl, fun _ => rfl⟩

theorem quiet_evict (identity : IdentityKey) :
    Quiet Workbench.session (evict t b identity) := by
  have h : Composed False False False True t .workbench .unchecked
      (evict t b identity) := composed_evict identity
  exact h.quiet

theorem quiet_requireIdentity (sql : String) :
    Quiet Workbench.session (requireIdentity t b sql) := by
  have h : Composed False True False False t .workbench .unchecked
      (requireIdentity t b sql) := composed_requireIdentity sql
  exact h.quiet

theorem quiet_ensureWritable (sql : String) :
    Quiet Workbench.session (ofAction (Action.ensureWritable t sql)) :=
  quiet_ofAction
    (Action.quiet_of_after fun s => Action.after_ensureWritable s t sql)

/-- A call that is made beside an entity. -/
theorem Sends.ofAction {sql : String} {a : Action α}
    (h : Sends id t sql stray a w.session) :
    Sends Workbench.session t sql stray (EntityAction.ofAction a) w := by
  unfold Sends
  rw [after_ofAction, answer_ofAction]
  exact h

/-- A call that changes a row, and what follows it. -/
theorem asks_execute (sql : String) (params : List Value)
    {f : Nat → EntityAction β}
    (hf : ∀ x, Quiet Workbench.session (f x))
    (herr : ∀ x s, FailsAs stray (f x) ⟨w.entity, s⟩) :
    Asks Workbench.session t stray (ofAction
      (Action.onConnection t sql params fun c =>
        Driver.execute c sql params) >>= f) w := by
  refine ⟨sql, Sends.bind (Sends.ofAction (Action.sends_onConnection
    (fun c => Driver.records_execute c sql params) (fun _ => rfl)
    params)) hf
    fun x _ _ => ?_⟩
  rw [after_ofAction]
  exact (herr x _).imp fun _ => Or.inr

-- ------------------------------------------------------------ after a write

theorem quiet_afterStoring :
    Quiet Workbench.session (afterStoring t b) := by
  have h : Composed False True False True t .workbench .unchecked
      (afterStoring t b) := composed_afterStoring False.elim
  exact h.quiet

/-- After a write only the hook can fail, since the identity can be read. -/
theorem failsAs_afterStoring (h : b.Readable w.entity) :
    FailsAs b.StoreRaises (afterStoring t b) w := by
  obtain ⟨vs, hvs⟩ := h
  have hidentity : b.identity w.entity = .ok (IdentityKey.ofValues? vs) := by
    unfold EntityBinding.identity
    rw [hvs]
    rfl
  have hhook : ∀ w, FailsAs b.StoreRaises (ofEdit b.runPostStore) w :=
    fun w => failsAs_ofEdit fun e he => ⟨_, he⟩
  refine FailsAs.bind (failsAs_of_answer rfl) fun e he => ?_
  cases he
  refine FailsAs.bind (failsAs_ofExcept fun e he => ?_) fun identity _ => ?_
  · cases hidentity.symm.trans he
  · cases identity with
    | some identity =>
        refine FailsAs.bind (failsAs_of_answer rfl) fun _ _ => ?_
        exact hhook _
    | none => exact hhook _

section

variable {statement : EntityBinding.InsertStatement} {keys : List Value}

theorem quiet_takeKeys :
    Quiet Workbench.session (takeKeys t b statement keys) := by
  have h : Composed False True False False t .workbench .unchecked
      (takeKeys t b statement keys) := composed_takeKeys statement keys
  exact h.quiet

/-- Keys that were taken can be read: that was asked. -/
theorem readable_takeKeys
    (h : (takeKeys t b statement keys).answer w = .ok ()) :
    b.Readable ((takeKeys t b statement keys).after w).entity := by
  obtain ⟨w', hrun⟩ : ∃ w', takeKeys t b statement keys w = .ok () w' :=
    ⟨_, EStateM.apply_eq_ok_iff.mpr ⟨h, rfl⟩⟩
  rw [EStateM.after_of_eq_ok hrun]
  obtain ⟨_, w₁, -, hrun⟩ := EStateM.bind_eq_ok_iff.mp hrun
  obtain ⟨_, w₂, he, hrun⟩ := EStateM.bind_eq_ok_iff.mp hrun
  cases he
  obtain ⟨transient, w₃, hasked, hrun⟩ := EStateM.bind_eq_ok_iff.mp hrun
  obtain ⟨htransient, rfl⟩ := ofExcept_eq_ok_iff.mp hasked
  cases transient with
  | true => cases hrun
  | false =>
      cases hrun
      exact EntityBinding.readable_of_isTransient htransient

/-- Keys that were not returned are reported with the statement; other failures
of setting them are not. -/
theorem failsAs_takeKeys (hgenerated : b.isGenerated = true) :
    FailsAs (fun e => e.Located (w.session.transaction t).display statement.sql
      ∨ b.Unset w.entity e) (takeKeys t b statement keys) w := by
  refine FailsAs.bind ?_ fun _ _ => ?_
  · exact failsAs_ofEdit fun e he => Or.inr ⟨hgenerated, keys, Or.inl he⟩
  rw [after_ofEdit]
  refine FailsAs.bind (failsAs_of_answer rfl) fun e he => ?_
  cases he
  refine FailsAs.bind (failsAs_ofExcept fun e he => ?_) fun transient _ => ?_
  · unfold EntityBinding.isTransient at he
    cases hvs : b.identityValues ((b.setIdentity keys).after w.entity) with
    | ok vs =>
        rw [hvs] at he
        cases he
    | error e' =>
        rw [hvs] at he
        cases he
        exact Or.inr ⟨hgenerated, keys, Or.inr hvs⟩
  · cases transient with
    | false => exact failsAs_of_answer rfl
    | true =>
        refine FailsAs.bind (failsAs_of_answer rfl)
          fun w' hw' => failsAs_throw (Or.inl ?_)
        cases hw'
        rw [after_ofExcept]
        exact ⟨_, rfl⟩

end

/-- An insert fails before its call, with the call, for the keys that came
back, or as the hook does. -/
theorem asks_insert :
    Asks Workbench.session t (fun err => ∃ b,
        EntityBinding.ofType schema w.entity.type = .ok b
          ∧ (b.Unset w.entity err ∨ b.StoreRaises err))
      (insert schema t) w := by
  refine .before quiet_entity fun e he => ?_
  cases he
  refine .before (quiet_ofExcept _) fun b hb => ?_
  rw [answer_ofExcept] at hb
  refine .before (quiet_ofExcept _) fun statement _ => ?_
  refine .before (quiet_ensureWritable statement.sql) fun _ _ => ?_
  refine .before (quiet_ofExcept _) fun transient htransient => ?_
  rw [answer_ofExcept] at htransient
  have hreadable := EntityBinding.readable_of_isTransient htransient
  simp only [after_ofExcept, after_ofAction, Action.after_ensureWritable]
  show Asks Workbench.session t _ _ w
  -- an identity that is given though it is generated, or missing though it
  -- is not, is refused before any call
  split
  · exact ((quiet_ofExcept _).bind fun _ => quiet_refuse _ _ _).asks
  · split
    · exact (quiet_refuse _ _ _).asks
    · split
      · -- the keys come back: they are taken before the hook is called
        next hgenerated =>
        suffices hsends : Sends Workbench.session t statement.sql
            (fun err => b.Unset w.entity err ∨ b.StoreRaises err)
            (insertGenerated t b statement >>= fun _ => afterStoring t b) w
          from Asks.imp ⟨_, hsends⟩ fun err herr => ⟨b, hb, herr⟩
        unfold insertGenerated
        rw [bind_assoc]
        refine (Sends.ofAction (Action.sends_onConnection
          (fun c => Driver.records_insertReturning c statement.sql
            statement.params statement.keys) (fun _ => rfl)
          statement.params)).bind
          (fun keys => quiet_takeKeys.bind fun _ => quiet_afterStoring)
          fun keys _ hdisplay => ?_
        rw [← hdisplay]
        refine FailsAs.bind ?_ fun _ htaken => ?_
        · rw [after_ofAction]
          have hkeys : ∀ s, FailsAs _ (takeKeys t b statement keys)
              ⟨w.entity, s⟩ := fun s => failsAs_takeKeys hgenerated
          exact (hkeys _).imp fun _ => Or.imp_right Or.inl
        · exact (failsAs_afterStoring (readable_takeKeys htaken)).imp
            fun _ he => Or.inr (Or.inr he)
      · -- the key was given: nothing comes back
        suffices hasks : Asks Workbench.session t b.StoreRaises
            (insertGiven t statement >>= fun _ => afterStoring t b) w from
          hasks.imp fun err herr => ⟨b, hb, Or.inr herr⟩
        unfold insertGiven
        rw [bind_assoc]
        refine asks_execute statement.sql statement.params
          (fun _ => quiet_afterStoring) fun _ s => ?_
        exact failsAs_afterStoring hreadable

/-- A change of a row by identity. -/
theorem asks_change (statement : EntityBinding.ChangeStatement) :
    Asks Workbench.session t stray (change t b statement) w := by
  refine .before (quiet_ensureWritable statement.sql) fun _ _ => ?_
  refine .before (quiet_requireIdentity _) fun identity _ => ?_
  exact asks_execute statement.sql statement.params
      (fun affected => (quiet_evict identity).bind
        fun _ => quiet_pure affected)
      fun affected s => failsAs_of_answer rfl

/-- After an update only the hook can fail. -/
theorem asks_update :
    Asks Workbench.session t (fun err => ∃ b,
        EntityBinding.ofType schema w.entity.type = .ok b ∧ b.StoreRaises err)
      (update schema t) w := by
  refine .before quiet_entity fun e he => ?_
  cases he
  refine .before (quiet_ofExcept _) fun b hb => ?_
  rw [answer_ofExcept] at hb
  refine .before (quiet_ofExcept _) fun statement _ => ?_
  refine (asks_change statement).bind (fun affected =>
    (quiet_ofEdit _).bind fun _ => quiet_pure _) fun affected _ _ => ?_
  refine FailsAs.bind (failsAs_ofEdit fun e he => ⟨b, hb, _, he⟩) fun _ _ => ?_
  exact failsAs_of_answer rfl

/-- After a deletion nothing can. -/
theorem asks_delete :
    Asks Workbench.session t stray (delete schema t) w :=
  .before quiet_entity fun _ _ => .before (quiet_ofExcept _) fun _ _ =>
    .before (quiet_ofExcept _) fun _ _ => asks_change _

end EntityAction

/-- What comes of work on an entity comes of the statement. -/
theorem Statement.asks_onEntity {stray : Error → Prop} {a : EntityAction α}
    {e : Entity} {s : Session}
    (h : Asks Workbench.session t stray a ⟨e, s⟩) :
    Asks id t stray (onEntity a e) s := by
  obtain ⟨sql, entries, hrecord, hupshot⟩ := h
  rw [onEntity_eq]
  refine ⟨sql, entries, ?_, ?_⟩
  · rw [EntityAction.after_within]
    exact hrecord
  · rw [EntityAction.answer_within]
    exact hupshot.map _

-- ================================================================= exports

namespace Action

variable {σ : Type} {s : Session} {query : String} {types : List BulkType}
  {mapper : BulkRow → EStateM Error σ α} {state : σ}

/-- An export that cannot be decoded fails with what the driver could not give,
or names no place. -/
theorem failsAs_decode (context : StatementContext)
    (chunks : List ScriptedChunk) (e : Error)
    (he : (Bulk.decode types mapper (chunksOf context chunks)).answer state
      = .error e) : Placeless e ∨ e.context? = some context := by
  cases hwithheld : Bulk.withheld types mapper state chunks with
  | nil => exact Or.inl (Bulk.decode_unwithheld hwithheld context e he)
  | cons failure failures =>
      have hanswer := (Bulk.decode_withheld hwithheld context).2
      cases hanswer.symm.trans he
      exact Or.inr (Error.context?_ofDriver failure context)

/-- Either way the failure of an export is shown with its statement. -/
theorem asks_exported {stray : Error → Prop} :
    Asks id t stray (exported t query types mapper state) s := by
  refine .before (quiet_of_after fun s => after_ensureOpen s t) fun _ _ => ?_
  rw [after_ensureOpen]
  refine .before ⟨fun _ => rfl, fun _ => rfl⟩ fun s' hs' => ?_
  cases hs'
  refine .before ⟨fun _ => rfl, fun _ => rfl⟩ fun _ _ => ?_
  refine ⟨_, (sends_onConnectionQuietly (fun c => Driver.records_copyOut c _)
    (fun _ => rfl) []).bind (fun chunks => (quiet_ofExcept _).mapError _)
    fun chunks _ _ => ?_⟩
  intro e he
  rw [answer_mapError, answer_ofExcept] at he
  generalize hdecoded : (Bulk.decode types mapper (chunksOf _ chunks)).answer
    state = decoded at he
  cases decoded with
  | ok rows => cases he
  | error e₀ =>
      cases he
      refine Or.inl ⟨[], ?_⟩
      rw [Error.context?_withContext]
      rcases failsAs_decode _ chunks e₀ hdecoded with hplaceless | hcontext
      · rw [show e₀.context? = none from hplaceless]
        rfl
      · rw [hcontext]
        rfl

end Action

-- ============================================================ statements

namespace Statement

/-- The type of the entities that a statement makes of rows. -/
def loads? : Statement → Option String
  | .query _ _ (.entities typeName) => some typeName
  | .select typeName _ _ => some typeName
  | .selectOptional typeName _ _ => some typeName
  | .find typeName _ => some typeName
  | .findShared typeName _ => some typeName
  | .resolve target _ => some target
  | _ => none

/-- The text of a query for one row, as it was given: before its parameters
were resolved. -/
def given? : Statement → Option String
  | .query sql _ .one => some sql
  | .query sql _ (.scalar _) => some sql
  | _ => none

variable (schema : Schema)

/-- What a statement fails with, after its call was answered, without being
located at it: an insert when the generated keys do not fit or cannot be read
back, and a reference whose target has no row. -/
inductive Slips (display : String) : Statement → Error → Prop where
  | unset {e : Entity} {b : EntityBinding} {err : Error}
      (hb : EntityBinding.ofType schema e.type = .ok b) (h : b.Unset e err) :
      Slips display (.insert e) err
  | dangling (target : String) (reference : Reference) :
      Slips display (.resolve target reference)
        (Action.danglingError display target reference)

/-- What a function of the caller fails with while a statement makes something
of its answer: the mapper of its rows, or a hook of its entity type. -/
inductive Raised : Statement → Error → Prop where
  | mapped {sql : String} {params : Params} {f : Row → Except Error Unit}
      {row : Row} {e : Error} (h : f row = .error e) :
      Raised (.query sql params (.mapped f)) e
  | loaded {st : Statement} {typeName : String} {e : Error}
      (hst : st.loads? = some typeName)
      (h : Action.LoadRaises schema typeName e) : Raised st e
  | inserted {entity : Entity} {b : EntityBinding} {e : Error}
      (hb : EntityBinding.ofType schema entity.type = .ok b)
      (h : b.StoreRaises e) : Raised (.insert entity) e
  | updated {entity : Entity} {b : EntityBinding} {e : Error}
      (hb : EntityBinding.ofType schema entity.type = .ok b)
      (h : b.StoreRaises e) : Raised (.update entity) e

/-- What a statement fails with, after its call was answered, unless it is
located at the text that was sent. -/
def Strays (display : String) (st : Statement) (e : Error) : Prop :=
  st.Slips schema display e ∨ st.Raised schema e
    ∨ ∃ sql, st.given? = some sql ∧ e.Located display sql

/-- Neither of the slips is located at a statement. -/
theorem Slips.not_located {schema : Schema} {display sql : String}
    {st : Statement} {e : Error} (h : st.Slips schema display e) :
    ¬ e.Located display sql := by
  rintro ⟨params, hcontext⟩
  cases h with
  | unset hb h =>
      obtain ⟨-, keys, hset | hread⟩ := h
      · have hplaceless := EntityBinding.placeless_setIdentity _ _ _ _ hset
        cases hcontext.symm.trans hplaceless
      · have hplaceless := EntityBinding.placeless_identityValues _ hread
        cases hcontext.symm.trans hplaceless
  | dangling target reference => cases hcontext

/-- Every statement makes one call at most, and what it fails with is said
above. -/
theorem asks_run (st : Statement) (s : Session) :
    Asks id t (st.Strays schema (s.transaction t).display)
      (st.run schema t) s := by
  have hloads : ∀ {st : Statement} {typeName : String},
      st.loads? = some typeName → ∀ e, Action.LoadRaises schema typeName e →
      st.Strays schema (s.transaction t).display e :=
    fun hst e he => Or.inr (Or.inl (.loaded hst he))
  have hgiven : ∀ {st : Statement} {sql : String}, st.given? = some sql →
      ∀ e : Error, e.Located (s.transaction t).display sql →
      st.Strays schema (s.transaction t).display e :=
    fun hst e he => Or.inr (Or.inr ⟨_, hst, he⟩)
  cases st with
  -- what some function fails with is said of each; here it is only given its
  -- name
  | execute sql params => exact Action.asks_execute.ignoring
  | query sql params fetch =>
      cases fetch with
      | rows => exact Action.asks_fetchRows.ignoring
      | one => exact (Action.asks_fetchOne.imp (hgiven rfl)).ignoring
      | optional => exact Action.asks_fetchOptional.ignoring
      | scalar type =>
          exact ((Action.asks_fetchScalar type).imp (hgiven rfl)).ignoring
      | mapped f =>
          refine (Action.asks_fetchMap (fun _ => quiet_ofExcept _) fun row s =>
            Action.failsAs_ofExcept fun e he => Or.inr ?_).ignoring
          exact Or.inr (Or.inl (.mapped he))
      | records mapper => exact (Action.asks_fetchRecords mapper).ignoring
      | entities typeName =>
          exact (Action.asks_fetchEntities.imp (hloads rfl)).ignoring
  | select typeName suffix params =>
      exact (Action.asks_select.imp (hloads rfl)).ignoring
  | selectOptional typeName suffix params =>
      exact (Action.asks_selectOptional.imp (hloads rfl)).ignoring
  | find typeName key => exact (Action.asks_find.imp (hloads rfl)).ignoring
  | findShared typeName key =>
      exact (Action.asks_findShared.imp (hloads rfl)).ignoring
  | resolve target reference =>
      refine (Action.asks_resolveReference.imp fun e he => ?_).ignoring
      rcases he with he | he
      · exact hloads rfl e he
      · rw [he]
        exact Or.inl (.dangling target reference)
  | insert entity =>
      refine asks_onEntity (EntityAction.asks_insert.imp fun e he => ?_)
      obtain ⟨b, hb, hunset | hraises⟩ := he
      · exact Or.inl (.unset hb hunset)
      · exact Or.inr (Or.inl (.inserted hb hraises))
  | update entity =>
      refine asks_onEntity (EntityAction.asks_update.imp fun e he => ?_)
      obtain ⟨b, hb, hraises⟩ := he
      exact Or.inr (Or.inl (.updated hb hraises))
  | delete entity => exact asks_onEntity EntityAction.asks_delete
  | load b row => exact (quiet_load schema t b row).asks.ignoring
  | inject entity b row =>
      exact asks_onEntity (quiet_inject schema t b row).asks
  | copyOut sql types mapper =>
      rw [run_copyOut]
      exact Action.asks_exported.ignoring

end Statement

end DataAccess
