/-
How every statement is put together. For each action that a statement is made
of, from the sending of a query up to the export of its rows, there is one lemma
here that says of which parts it is made; the last of them, `composed_run`, is
about statements as a caller can ask for them. What follows from that for all of
them alike is with `Composed`: `working_run` is one case.

What the caller hands in is trusted where the lemmas say so: the hooks of
the entity types, the mappers of rows. The mapper of an export need not be,
since its failures are kept as a text.
-/
import DataAccess.Proofs.Session.Composed

namespace DataAccess

-- ============================================================== queries

namespace Action

variable {α : Type} {trusted looks calls caches : Prop} {t : TransactionId}
  {footing : Footing}

/-- Parameters are resolved before anything is sent, and a fault in them is
reported with the transaction. -/
theorem composed_resolve (sql : String) (params : Params) :
    Composed trusted True calls caches t .session footing
      (resolve t sql params) := by
  unfold resolve
  cases params.resolve sql with
  | ok statement => exact .ok statement
  | error fault =>
      exact .bind (.look trivial) fun s _ =>
        .error fun _ => Error.sound_database (by simp)

/-- Only a writable transaction runs a statement that changes data. -/
theorem composed_execute (sql : String) (params : Params) :
    Composed trusted True True caches t .session .unchecked
      (execute t sql params) :=
  (composed_resolve sql params).bind fun statement _ =>
    composed_ensureWritable
      (composed_onConnection (.execute statement.sql statement.params)
        (allowed_writable rfl) _ _)

/-- A query needs an open transaction. -/
theorem composed_runQuery (statement : BoundStatement) :
    Composed trusted True True caches t .session .unchecked
      (runQuery t statement) :=
  composed_ensureOpen
    (composed_onConnection (.query statement.sql statement.params)
      (allowed_opened rfl rfl) _ _)

/-- What is made of rows one by one is put together as what is made of a
row. -/
theorem composed_mapRows (resolver : ColumnResolver) {f : Row → Action α}
    (hf : ∀ row,
      Composed trusted looks calls caches t .session footing (f row))
    (rows : List (List Value)) :
    Composed trusted looks calls caches t .session footing
      (mapRows resolver f rows) := by
  induction rows with
  | nil => exact .ok []
  | cons values rest ih =>
      exact (composed_ofExcept fun _ => Row.sound_ofValues values resolver).bind
        fun row _ => (hf row).bind fun x _ => ih.bind fun xs _ => .ok _

/-- A query whose rows are mapped. -/
theorem composed_fetchMap (sql : String) (params : Params)
    {f : Row → Action α}
    (hf : ∀ row,
      Composed trusted True True caches t .session .unchecked (f row)) :
    Composed trusted True True caches t .session .unchecked
      (fetchMap t sql params f) :=
  (composed_resolve sql params).bind fun statement _ =>
    (composed_runQuery statement).bind fun result _ =>
      .bind (.look trivial) fun _ _ =>
        composed_withContext (composed_mapRows _ hf result.rows) _

theorem composed_fetchRows (sql : String) (params : Params) :
    Composed trusted True True caches t .session .unchecked
      (fetchRows t sql params) :=
  composed_fetchMap sql params fun row => .ok row

/-- A query for exactly one row fails for any other number. -/
theorem composed_fetchOne (sql : String) (params : Params) :
    Composed trusted True True caches t .session .unchecked
      (fetchOne t sql params) := by
  refine (composed_fetchRows sql params).bind fun rows _ => ?_
  split
  · exact .ok _
  · exact .bind (.look trivial) fun s _ =>
      .error fun _ => Error.sound_database (by simp)

theorem composed_fetchOptional (sql : String) (params : Params) :
    Composed trusted True True caches t .session .unchecked
      (fetchOptional t sql params) :=
  (composed_fetchRows sql params).bind fun _ _ => .ok _

/-- What cannot be read off the row is reported with the statement. -/
theorem composed_fetchScalar (sql : String) (params : Params)
    (type : FieldType) :
    Composed trusted True True caches t .session .unchecked
      (fetchScalar t sql params type) :=
  (composed_fetchOne sql params).bind fun row _ =>
    .bind (.look trivial) fun _ _ =>
      composed_withContext
        (composed_ofExcept fun _ => row.sound_getAt 0 type) _

theorem composed_fetchRecords (sql : String) (params : Params)
    (mapper : RecordMapper α) :
    Composed trusted True True caches t .session .unchecked
      (fetchRecords t sql params mapper) :=
  composed_fetchMap sql params fun row =>
    composed_ofExcept fun _ => mapper.sound_map row

-- ======================================================= the identity cache

theorem composed_cached (key : CacheKey) :
    Composed trusted looks calls True t .session footing (cached t key) :=
  .cache trivial (fun c => (c.get key).1) (fun c _ => (c.get key).2)
    fun _ => rfl

theorem composed_cachedLoaded (key : CacheKey) :
    Composed trusted looks calls True t .session footing
      (cachedLoaded t key) :=
  .cache trivial (fun c => (c.getLoaded key).1) (fun c _ => (c.getLoaded key).2)
    fun _ => rfl

theorem composed_cache (key : CacheKey) (target : InstanceId)
    (loaded : Bool) :
    Composed trusted looks calls True t .session footing
      (cache t key target loaded) :=
  .cache trivial (fun _ => ()) (fun _ c => c.put key target loaded)
    fun _ => rfl

theorem composed_evict (key : CacheKey) :
    Composed trusted looks calls True t .session footing (evict t key) :=
  .cache trivial (fun _ => ()) (fun _ c => c.invalidate key) fun _ => rfl

/-- A reference is looked up in the cache, and a stub is put where nothing
is. -/
theorem composed_loadReference (schema : Schema) (target : String)
    (key : Value) (columnPrefix : String) (row : Row) :
    Composed trusted looks calls True t .session footing
      (loadReference schema t target key columnPrefix row) := by
  unfold loadReference
  cases IdentityKey.ofValues? [key] with
  | none => exact .ok none
  | some identity =>
      refine (composed_cached _).bind fun found _ => ?_
      cases found with
      | some found => exact .ok _
      | none =>
          exact (composed_ofExcept fun _ =>
              EntityBinding.sound_ofType schema target).bind fun b _ =>
            (composed_ofExcept fun _ => sound_stub b key columnPrefix row).bind
              fun e _ => .bind (.share trivial e) fun shared _ =>
                (composed_cache _ shared false).bind fun _ _ => .ok _

end Action

-- ================================================= actions on an entity

namespace EntityAction

variable {α : Type} {trusted looks calls caches : Prop} {t : TransactionId}
  {footing : Footing}

theorem composed_entity :
    Composed trusted True calls caches t .workbench footing entity :=
  .bind (.look trivial) fun _ _ => .ok _

-- ------------------------------------------------------------------ loading

variable {schema : Schema} {b : EntityBinding}

/-- A plain column edits the entity; a relation asks the cache first. -/
theorem composed_injectColumn (row : Row) (c : ColumnBinding) (index : Nat) :
    Composed trusted looks calls True t .workbench footing
      (injectColumn schema t b row c index) := by
  refine (composed_ofExcept fun _ => b.sound_lookup row c.name).bind
    fun v _ => ?_
  cases c.access with
  | plain type => exact .edit fun _ => b.safe_setColumn c index v
  | relation target columnPrefix =>
      have hloaded : Composed trusted looks calls True t .session footing
          (Action.loadReference schema t target v columnPrefix row) :=
        Action.composed_loadReference schema target v columnPrefix row
      exact (hloaded.mapError fun e _ => b.sound_columnError c.name e).beside.bind
        fun reference _ => .edit fun _ _ => sound_ok _

theorem composed_injectColumns (row : Row)
    (columns : List (ColumnBinding × Nat)) :
    Composed trusted looks calls True t .workbench footing
      (injectColumns schema t b row columns) := by
  induction columns with
  | nil => exact .ok ()
  | cons column columns ih =>
      exact (composed_injectColumn row column.1 column.2).bind fun _ _ => ih

theorem composed_inject (row : Row) :
    Composed trusted looks calls True t .workbench footing
      (inject schema t b row) :=
  composed_injectColumns row _

-- ------------------------------------------------------------------ writing

/-- A refusal looks at the session for what it reports. -/
theorem composed_refuse {fault : StatementFault}
    (h : fault ≠ .connectionReleased) (sql : String) (params : List Value) :
    Composed trusted True calls caches t .workbench footing
      (refuse (α := α) t fault sql params) :=
  .bind (.look trivial) fun _ _ => .error fun _ => Error.sound_database h

/-- A call on the connection of the transaction that changes data. -/
theorem composed_onConnection (call : Call) (hwork : call.isWork = true)
    (sql : String) (params : List Value) :
    Composed trusted True True caches t .workbench .writable
      (ofAction (Action.onConnection t sql params fun c =>
        Driver.ask c call)) :=
  (Action.composed_onConnection call (Action.allowed_writable hwork)
    sql params).beside

theorem composed_evict (identity : IdentityKey) :
    Composed trusted looks calls True t .workbench footing
      (evict t b identity) :=
  (Action.composed_evict _).beside

/-- An insert whose keys were given makes one call. -/
theorem composed_insertGiven (statement : EntityBinding.InsertStatement) :
    Composed trusted True True caches t .workbench .writable
      (insertGiven t statement) :=
  (composed_onConnection (.execute statement.sql statement.params) rfl _ _).bind
    fun _ _ => .ok _

variable (t b) in
/-- What is made of the keys that were generated. -/
def takeKeys (statement : EntityBinding.InsertStatement)
    (keys : List Value) : EntityAction Unit := do
  ofEdit (b.setIdentity keys)
  if ← ofExcept (b.isTransient (← entity)) then
    refuse t (.identityNotReturned b.table) statement.sql statement.params

/-- Generated keys are set, and asked for. -/
theorem composed_takeKeys (statement : EntityBinding.InsertStatement)
    (keys : List Value) :
    Composed trusted True calls caches t .workbench footing
      (takeKeys t b statement keys) := by
  refine .bind (.edit fun _ => b.safe_setIdentity keys) fun _ _ =>
    composed_entity.bind fun e _ =>
      (composed_ofExcept fun _ => b.sound_isTransient e).bind
        fun transient _ => ?_
  cases transient with
  | true => exact composed_refuse (by simp) _ _
  | false => exact .ok ()

/-- An insert whose keys are generated takes them from the answer. -/
theorem composed_insertGenerated
    (statement : EntityBinding.InsertStatement) :
    Composed trusted True True caches t .workbench .writable
      (insertGenerated t b statement) :=
  (composed_onConnection
    (.insertReturning statement.sql statement.params statement.keys) rfl _ _).bind
      fun keys _ => composed_takeKeys statement keys

/-- An entity without identity is refused. -/
theorem composed_requireIdentity (sql : String) :
    Composed trusted True calls caches t .workbench footing
      (requireIdentity t b sql) := by
  refine composed_entity.bind fun e _ =>
    (composed_ofExcept fun _ => b.sound_identity e).bind fun identity _ => ?_
  cases identity with
  | some identity => exact .ok identity
  | none => exact composed_refuse (by simp) _ _

/-- A row is changed by its identity, and the entity leaves the cache. -/
theorem composed_change (statement : EntityBinding.ChangeStatement) :
    Composed trusted True True True t .workbench .unchecked
      (change t b statement) :=
  composed_ensureWritable
    ((composed_requireIdentity statement.sql).bind fun _ _ =>
      (composed_onConnection (.execute statement.sql statement.params)
        rfl _ _).bind fun _ _ =>
          (composed_evict _).bind fun _ _ => .ok _)

variable (t b) in
/-- What follows when an entity is stored: its key leaves the cache, the hook
runs. -/
def afterStoring : EntityAction Unit := do
  match ← ofExcept (b.identity (← entity)) with
  | some identity => evict t b identity
  | none => pure ()
  ofEdit b.runPostStore

/-- The hook comes last. -/
theorem composed_afterStoring (htrusted : trusted → b.descriptor.SoundHooks) :
    Composed trusted True calls True t .workbench footing
      (afterStoring t b) := by
  refine composed_entity.bind fun e _ =>
    (composed_ofExcept fun _ => b.sound_identity e).bind fun identity _ => ?_
  have hhook : Composed trusted True calls True t .workbench footing
      (ofEdit b.runPostStore) :=
    .edit fun h => EntityBinding.safe_runPostStore (htrusted h)
  cases identity with
  | some identity => exact (composed_evict identity).bind fun _ _ => hhook
  | none => exact hhook

/-- Inserting: everything that speaks against it is found before the call. -/
theorem composed_insert (htrusted : trusted → schema.SoundHooks) :
    Composed trusted True True True t .workbench .unchecked
      (insert schema t) := by
  refine composed_entity.bind fun e _ =>
    (composed_ofExcept fun _ => EntityBinding.sound_ofType schema e.type).bind
      fun b hb => ?_
  have hstored : Composed trusted True True True t .workbench .writable
      (afterStoring t b) :=
    composed_afterStoring fun h =>
      EntityBinding.soundHooks_of_ofType (htrusted h) (ofExcept_answer hb)
  refine (composed_ofExcept fun _ => b.sound_insertStatement e).bind
    fun statement _ => composed_ensureWritable
      ((composed_ofExcept fun _ => b.sound_isTransient e).bind
        fun transient _ => ?_)
  split
  · exact (composed_ofExcept fun _ => b.sound_identityValues e).bind fun _ _ =>
      composed_refuse (by simp) _ _
  · split
    · exact composed_refuse (by simp) _ _
    · split
      · exact (composed_insertGenerated statement).bind fun _ _ => hstored
      · exact (composed_insertGiven statement).bind fun _ _ => hstored

/-- An update is a change; the hook runs after it. -/
theorem composed_update (htrusted : trusted → schema.SoundHooks) :
    Composed trusted True True True t .workbench .unchecked
      (update schema t) := by
  refine composed_entity.bind fun e _ =>
    (composed_ofExcept fun _ => EntityBinding.sound_ofType schema e.type).bind
      fun b hb => ?_
  have hhooks : trusted → b.descriptor.SoundHooks := fun h =>
    EntityBinding.soundHooks_of_ofType (htrusted h) (ofExcept_answer hb)
  exact (composed_ofExcept fun _ => b.sound_updateStatement e).bind
    fun statement _ => (composed_change statement).bind fun _ _ =>
      .bind (.edit fun h => EntityBinding.safe_runPostStore (hhooks h))
        fun _ _ => .ok _

/-- A deletion is a change without a hook. -/
theorem composed_delete :
    Composed trusted True True True t .workbench .unchecked
      (delete schema t) :=
  composed_entity.bind fun e _ =>
    (composed_ofExcept fun _ => EntityBinding.sound_ofType schema e.type).bind
      fun b _ => (composed_ofExcept fun _ => b.sound_deleteStatement e).bind
        fun statement _ => composed_change statement

end EntityAction

-- ============================================================= entities

namespace Action

variable {α : Type} {trusted looks calls caches : Prop} {t : TransactionId}
  {footing : Footing} {schema : Schema}

/-- Loading fills a fresh entity and runs the hook; it makes no calls. -/
theorem composed_load {b : EntityBinding}
    (htrusted : trusted → b.descriptor.SoundHooks) (row : Row) :
    Composed trusted looks calls True t .session footing
      (load schema t b row) := by
  have hfilled : Composed trusted looks calls True t .workbench footing (do
      EntityAction.inject schema t b row
      EntityAction.ofEdit b.runPostLoad) :=
    (EntityAction.composed_inject row).bind fun _ _ =>
      .edit fun h => EntityBinding.safe_runPostLoad (htrusted h)
  unfold load
  rw [EntityAction.build_eq]
  exact hfilled.within b.initial id

/-- A query for entities loads each row. -/
theorem composed_fetchEntities (htrusted : trusted → schema.SoundHooks)
    (typeName sql : String) (params : Params) :
    Composed trusted True True True t .session .unchecked
      (fetchEntities schema t typeName sql params) := by
  refine (composed_ofExcept fun _ =>
    EntityBinding.sound_ofType schema typeName).bind fun b hb => ?_
  obtain ⟨s, hb⟩ := hb
  rw [answer_ofExcept] at hb
  exact composed_fetchMap sql params fun row =>
    composed_load (fun h =>
      EntityBinding.soundHooks_of_ofType (htrusted h) hb) row

theorem composed_select (htrusted : trusted → schema.SoundHooks)
    (typeName suffix : String) (params : Params) :
    Composed trusted True True True t .session .unchecked
      (select schema t typeName suffix params) :=
  (composed_ofExcept fun _ => EntityBinding.sound_ofType schema typeName).bind
    fun _ _ => composed_fetchEntities htrusted typeName _ params

theorem composed_selectOptional (htrusted : trusted → schema.SoundHooks)
    (typeName suffix : String) (params : Params) :
    Composed trusted True True True t .session .unchecked
      (selectOptional schema t typeName suffix params) :=
  (composed_select htrusted typeName suffix params).bind fun _ _ => .ok _

/-- A find is not asked at all where a part of the key is null. -/
theorem composed_find (htrusted : trusted → schema.SoundHooks)
    (typeName : String) (key : List Value) :
    Composed trusted True True True t .session .unchecked
      (find schema t typeName key) := by
  refine (composed_ofExcept fun _ =>
    EntityBinding.sound_ofType schema typeName).bind fun b _ => ?_
  dsimp only
  split
  · exact .error fun _ => Error.sound_mapping _
  · split
    · exact .ok none
    · exact (composed_fetchEntities htrusted typeName _ _).bind fun _ _ => .ok _

/-- A shared find only asks where nothing loaded is cached. -/
theorem composed_findShared (htrusted : trusted → schema.SoundHooks)
    (typeName : String) (key : List Value) :
    Composed trusted True True True t .session .unchecked
      (findShared schema t typeName key) := by
  unfold findShared
  cases IdentityKey.ofValues? key with
  | none => exact .ok none
  | some identity =>
      refine (composed_cachedLoaded _).bind fun found _ => ?_
      cases found with
      | some found => exact .ok _
      | none =>
          refine (composed_find htrusted typeName key).bind fun e _ => ?_
          cases e with
          | none => exact .ok none
          | some e =>
              exact .bind (.share trivial e) fun shared _ =>
                (composed_cache _ shared true).bind fun _ _ => .ok _

/-- A reference to an entity that is not there is reported. -/
theorem composed_resolveReference (htrusted : trusted → schema.SoundHooks)
    (target : String) (r : Reference) :
    Composed trusted True True True t .session .unchecked
      (resolveReference schema t target r) := by
  refine (composed_findShared htrusted target [r.id]).bind fun found _ => ?_
  cases found with
  | some found => exact .ok found
  | none =>
      exact .bind (.look trivial) fun _ _ =>
        .error fun _ => Error.sound_database (by simp)

-- ============================================================== exports

/-- A failure that is kept and raised again is raised. -/
theorem attempt_bind_eq {a : Action α} {β : Type}
    {f : Except Error α → Action β}
    (h : ∀ e s, f (.error e) s = .error e s) :
    attempt a >>= f = a >>= fun x => f (.ok x) := by
  funext s
  show EStateM.bind (attempt a) f s = EStateM.bind a _ s
  unfold EStateM.bind attempt
  cases a s with
  | ok x s' => rfl
  | error e s' => exact h e s'

section

variable {σ : Type} {query : String} {types : List BulkType}
  {mapper : BulkRow → EStateM Error σ α} {state : σ}

/-- An export that is asked for and decoded; the state of the mapper is of no
interest. -/
def exported (t : TransactionId) (query : String) (types : List BulkType)
    (mapper : BulkRow → EStateM Error σ α) (state : σ) : Action (List α) := do
  ensureOpen t
  let s ← get
  let sql := Bulk.exportStatement query
  report (.exporting (s.transaction t).display sql types.length)
  let chunks ← onConnectionQuietly t sql [] fun c => Driver.copyOut c sql
  let context := s.context t sql []
  mapError (Error.withContext context) (ofExcept
    ((Bulk.decode types mapper (chunksOf context chunks)).answer state))

/-- To the caller an export and its result come to one action. -/
theorem copyBinary_eq :
    copyBinary t query types mapper state >>= (fun p => ofExcept p.1)
      = exported t query types mapper state := by
  unfold copyBinary exported
  rw [bind_assoc, attempt_bind_eq (fun _ _ => rfl)]
  refine congrArg (ensureOpen t >>= ·) (funext fun _ => ?_)
  simp only [bind_assoc]
  refine congrArg (get >>= ·) (funext fun s => ?_)
  refine congrArg (report _ >>= ·) (funext fun _ => ?_)
  rw [attempt_bind_eq (fun _ _ => rfl)]
  refine congrArg (onConnectionQuietly t _ _ _ >>= ·) (funext fun chunks => ?_)
  dsimp only
  unfold EStateM.answer
  cases Bulk.decode types mapper (chunksOf (s.context t
    (Bulk.exportStatement query) []) chunks) state <;> rfl

/-- The chunks that a driver could not give are failures that it reported. -/
theorem sound_chunksOf (context : StatementContext)
    (chunks : List ScriptedChunk) :
    ∀ chunk ∈ chunksOf context chunks, Sound chunk := by
  intro chunk hchunk
  obtain ⟨scripted, -, rfl⟩ := List.mem_map.mp hchunk
  exact sound_mapError fun e => Error.sound_ofDriver e context

/-- An export is decoded after its call, whatever its mapper does. -/
theorem composed_exported :
    Composed trusted True True caches t .session .unchecked
      (exported t query types mapper state) := by
  have hcall : Composed trusted True True caches t .session .opened
      (onConnectionQuietly t (Bulk.exportStatement query) [] fun c =>
        Driver.ask c (.copyOut (Bulk.exportStatement query))) :=
    .call trivial (allowed_opened rfl rfl) _ _
  exact composed_ensureOpen (.bind (.look trivial) fun s _ =>
    .bind (.report trivial _) fun _ _ => hcall.bind fun chunks _ =>
      composed_withContext (composed_ofExcept fun _ =>
        Bulk.safe_decode types mapper (sound_chunksOf _ chunks) state) _)

end

end Action

-- ============================================================ statements

/-- What a caller hands in to make of rows does not fail for a connection
that is gone. -/
def Fetch.Trusted (schema : Schema) : Fetch → Prop
  | .mapped f => ∀ row, Sound (f row)
  | .entities _ => schema.SoundHooks
  | _ => True

/-- What a caller hands in with a statement does not fail for a connection
that is gone: neither the function that maps the rows nor the hooks of the
entity types that take part. -/
def Statement.Trusted (schema : Schema) : Statement → Prop
  | .query _ _ fetch => fetch.Trusted schema
  | .load b _ => b.descriptor.SoundHooks
  | .select .. => schema.SoundHooks
  | .selectOptional .. => schema.SoundHooks
  | .find .. => schema.SoundHooks
  | .findShared .. => schema.SoundHooks
  | .resolve .. => schema.SoundHooks
  | .insert _ => schema.SoundHooks
  | .update _ => schema.SoundHooks
  | _ => True

section

variable {schema : Schema} {t : TransactionId} {caches : Prop}

/-- Only a query for entities needs the cache. -/
theorem Fetch.composed_run (sql : String) (params : Params) (fetch : Fetch)
    (hcaches : ∀ typeName, fetch = .entities typeName → caches) :
    Composed (fetch.Trusted schema) True True caches t .session .unchecked
      (fetch.run schema t sql params) := by
  cases fetch with
  | rows =>
      exact Action.composed_ignoring (Action.composed_fetchRows sql params)
  | one => exact Action.composed_ignoring (Action.composed_fetchOne sql params)
  | optional =>
      exact Action.composed_ignoring (Action.composed_fetchOptional sql params)
  | scalar type =>
      exact Action.composed_ignoring
        (Action.composed_fetchScalar sql params type)
  | mapped f =>
      exact Action.composed_ignoring
        (Action.composed_fetchMap sql params fun row =>
          Action.composed_ofExcept fun htrusted => htrusted row)
  | records mapper =>
      exact Action.composed_ignoring
        (Action.composed_fetchRecords sql params mapper)
  | entities typeName =>
      obtain rfl : caches = True := eq_true (hcaches typeName rfl)
      exact Action.composed_ignoring
        (Action.composed_fetchEntities (fun h => h) typeName sql params)

/-- Work on an entity, as a statement. -/
theorem Statement.composed_onEntity {α : Type} {trusted : Prop}
    {a : EntityAction α}
    (h : Composed trusted True True True t .workbench .unchecked a)
    (e : Entity) :
    Composed trusted True True True t .session .unchecked (onEntity a e) := by
  rw [onEntity_eq]
  exact h.within e _

/-- As a statement, an export is run for its failures. -/
theorem Statement.run_copyOut (sql : String) (types : List BulkType)
    (mapper : BulkRow → EStateM Error (List BulkRow) Unit) :
    (Statement.copyOut sql types mapper).run schema t
      = .ignoring (Action.exported t sql types mapper []) := by
  rw [← Action.copyBinary_eq]
  unfold Action.ignoring
  rw [bind_assoc]
  rfl

/-- Every statement is put together from the parts of statements. -/
theorem Statement.composed_run (st : Statement) :
    Composed (st.Trusted schema) True True True t .session .unchecked
      (st.run schema t) := by
  cases st with
  | execute sql params =>
      exact Action.composed_ignoring (Action.composed_execute sql params)
  | query sql params fetch =>
      exact fetch.composed_run sql params fun _ _ => trivial
  | select typeName suffix params =>
      exact Action.composed_ignoring
        (Action.composed_select (fun h => h) typeName suffix params)
  | selectOptional typeName suffix params =>
      exact Action.composed_ignoring
        (Action.composed_selectOptional (fun h => h) typeName suffix params)
  | find typeName key =>
      exact Action.composed_ignoring
        (Action.composed_find (fun h => h) typeName key)
  | findShared typeName key =>
      exact Action.composed_ignoring
        (Action.composed_findShared (fun h => h) typeName key)
  | resolve target reference =>
      exact Action.composed_ignoring
        (Action.composed_resolveReference (fun h => h) target reference)
  | insert e =>
      exact composed_onEntity (EntityAction.composed_insert fun h => h) e
  | update e =>
      exact composed_onEntity (EntityAction.composed_update fun h => h) e
  | delete e => exact composed_onEntity EntityAction.composed_delete e
  | load b row =>
      exact Action.composed_ignoring (Action.composed_load (fun h => h) row)
  | inject e b row =>
      exact composed_onEntity (EntityAction.composed_inject row) e
  | copyOut sql types mapper =>
      rw [run_copyOut]
      exact Action.composed_ignoring Action.composed_exported

/-- Every statement is work on its transaction. -/
theorem Statement.working_run (st : Statement) :
    Working (st.Trusted schema) id t .unchecked (st.run schema t) :=
  st.composed_run.working

end

end DataAccess
