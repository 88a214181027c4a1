/-
What an error tells. An error is a tree: a fault at the bottom, tags and
suppressed errors around it. `Error.Tells` says that a fault is somewhere in
the tree, in the primary position or among what was carried along.

The fault of interest is the one that stands for a broken promise of the
library itself, the connection that is gone although its transaction is
open. `Sound` is the absence of it, of an error, and of a result or an edit
that may fail. Everything that reads rows, binds entities or decodes an
export is sound, because what it fails with is about data; only what a
caller hands in (a mapper, a hook) has to be asked.
-/
import DataAccess.Proofs.Entity.Reading
import DataAccess.Session.BulkExport

namespace DataAccess

-- =============================================================== errors

namespace Error

/-- A fault of a statement is told by an error. -/
inductive Tells (fault : StatementFault) : Error → Prop where
  | database (context : StatementContext) : Tells fault (.database fault context)
  | tagged {e : Error} (context : StatementContext) (h : Tells fault e) :
      Tells fault (.statement e context)
  | primary {e : Error} (rest : List Error) (h : Tells fault e) :
      Tells fault (.suppressed e rest)
  | carried (primary : Error) {e : Error} {rest : List Error}
      (he : e ∈ rest) (h : Tells fault e) : Tells fault (.suppressed primary rest)

/-- An error that does not tell of a connection that is gone. -/
def Sound (e : Error) : Prop :=
  ¬ e.Tells .connectionReleased

/-- An error of another fault is sound. -/
theorem sound_database {fault : StatementFault} {context : StatementContext}
    (h : fault ≠ .connectionReleased) : (Error.database fault context).Sound := by
  intro htells
  cases htells
  exact h rfl

/-- No error in a mapping is about a connection. -/
theorem sound_mapping (fault : MappingFault) : (Error.mapping fault).Sound := by
  intro h
  cases h

theorem sound_decode (fault : DecodeFault) (bytes : List UInt8) :
    (Error.decode fault bytes).Sound := by
  intro h
  cases h

theorem sound_column (name : String) (fault : ColumnFault) :
    (Error.column name fault).Sound := by
  intro h
  cases h

theorem sound_typeMismatch (expected actual : String) :
    (Error.typeMismatch expected actual).Sound := by
  intro h
  cases h

theorem sound_serialization (fault : SerializationFault) :
    (Error.serialization fault).Sound := by
  intro h
  cases h

/-- What a driver reports is classified as a violated constraint or as
reported, and never as one of the library's own faults. -/
theorem sound_ofDriver (e : DriverError) (context : StatementContext) :
    (Error.ofDriver e context).Sound := by
  unfold Error.ofDriver
  split
  · intro h
    cases h
  · exact sound_database (by simp)

/-- A tag adds nothing to what an error tells. -/
theorem tells_of_withContext {fault : StatementFault}
    {context : StatementContext} {e : Error}
    (h : (e.withContext context).Tells fault) : e.Tells fault := by
  induction e using Error.withContext.induct with
  | case1 primary rest ih =>
      rw [withContext] at h
      cases h with
      | primary _ h => exact .primary _ (ih h)
      | carried _ hmem h => exact .carried _ hmem h
  | case2 => exact h
  | case3 => exact h
  | case4 => exact h
  | case5 e hsuppressed hconstraint hdatabase hstatement =>
      rw [withContext] at h
      · cases h with
        | tagged _ h => exact h
      all_goals assumption

/-- A context says nothing about the connection. -/
theorem Sound.withContext {e : Error} (h : e.Sound)
    (context : StatementContext) : (e.withContext context).Sound :=
  fun htells => h (tells_of_withContext htells)

/-- Two sound errors make a sound one when the second is carried along. -/
theorem Sound.withSuppressed {e other : Error} (h : e.Sound)
    (hother : other.Sound) : (e.withSuppressed other).Sound := by
  intro htells
  unfold Error.withSuppressed at htells
  split at htells
  · cases htells with
    | primary _ hp => exact h (.primary _ hp)
    | carried _ hmem hc =>
        rcases List.mem_append.mp hmem with hmem | hmem
        · exact h (.carried _ hmem hc)
        · rw [List.mem_singleton.mp hmem] at hc
          exact hother hc
  · cases htells with
    | primary _ hp => exact h hp
    | carried _ hmem hc =>
        rw [List.mem_singleton.mp hmem] at hc
        exact hother hc

end Error

-- ============================================================== results

/-- A result that does not fail for a connection that is gone. -/
def Sound {α : Type} (r : Except Error α) : Prop :=
  ∀ e, r = .error e → e.Sound

section

variable {α β : Type}

theorem sound_ok (x : α) : Sound (.ok x) := by
  intro e h
  cases h

theorem sound_error {e : Error} (h : e.Sound) :
    Sound (.error e : Except Error α) := by
  intro e' he
  cases he
  exact h

/-- What is made of a result does not make it fail. -/
theorem Sound.map {r : Except Error α} (h : Sound r) (f : α → β) :
    Sound (r.map f) := by
  cases r with
  | ok x => exact sound_ok _
  | error e => exact sound_error (h e rfl)

theorem Sound.bind {r : Except Error α} (h : Sound r)
    {f : α → Except Error β} (hf : ∀ x, Sound (f x)) : Sound (r >>= f) := by
  cases r with
  | ok x => exact hf x
  | error e => exact sound_error (h e rfl)

/-- A failure that is changed to a sound one. -/
theorem sound_mapError {ε : Type} {r : Except ε α} {f : ε → Error}
    (h : ∀ e, (f e).Sound) : Sound (r.mapError f) := by
  cases r with
  | ok x => exact sound_ok x
  | error e => exact sound_error (h e)

/-- The first failure of two sound results is sound. -/
theorem sound_firstFailure {first second : Except Error Unit}
    (h : Sound first) (h' : Sound second) :
    Sound (Action.firstFailure first second) := by
  cases first with
  | ok x => exact h'
  | error e =>
      cases second with
      | ok x => exact sound_error (h e rfl)
      | error other =>
          exact sound_error ((h e rfl).withSuppressed (h' other rfl))

end

-- ============================================================== actions

/-- An action that does not fail for a connection that is gone, whatever
state it is run from. -/
def Safe {σ α : Type} (a : EStateM Error σ α) : Prop :=
  ∀ w, Sound (a.answer w)

section

variable {σ α β : Type}

theorem safe_pure (x : α) : Safe (pure x : EStateM Error σ α) :=
  fun _ => sound_ok x

/-- A failure that is sound is safe. -/
theorem safe_throw {e : Error} (h : e.Sound) :
    Safe (throw e : EStateM Error σ α) :=
  fun _ => sound_error h

theorem Safe.bind {a : EStateM Error σ α} (h : Safe a)
    {f : α → EStateM Error σ β} (hf : ∀ x, Safe (f x)) : Safe (a >>= f) := by
  intro w
  rw [EStateM.answer_bind]
  have hanswer := h w
  cases hr : a.answer w with
  | ok x => exact hf x _
  | error e =>
      rw [hr] at hanswer
      exact sound_error (hanswer e rfl)

end

-- ================================================================= rows

/-- What is no symbol of the type is of another type. -/
theorem sound_symbol_decode (t : SymbolType) (v : Value) :
    Sound (t.decode v) := by
  unfold SymbolType.decode
  split
  · split
    · exact sound_ok _
    · exact sound_error (Error.sound_typeMismatch _ _)
  · exact sound_error (Error.sound_typeMismatch _ _)

/-- What is no scalar of the type is of another type, or cannot be read
back. -/
theorem sound_scalar_decode (t : ScalarType) (v : Value) :
    Sound (t.decode v) := by
  cases t with
  | symbol type => exact sound_symbol_decode type v
  | _ =>
      -- every other type takes the values of its own storage type
      cases v <;> simp only [ScalarType.decode, JsonType.taken] <;>
        repeat' split
      all_goals first
        | exact sound_ok _
        | exact sound_error (Error.sound_typeMismatch _ _)
        | exact sound_error (Error.sound_serialization _)

theorem sound_field_decode (type : FieldType) (v : Value) :
    Sound (type.decode v) := by
  unfold FieldType.decode
  split
  · exact sound_ok _
  · exact sound_scalar_decode _ _
  · exact sound_ok _
  · exact sound_scalar_decode _ _

namespace Row

/-- A row of the wrong width is a decode error. -/
theorem sound_ofValues (values : List Value) (resolver : ColumnResolver) :
    Sound (ofValues values resolver) := by
  unfold ofValues
  split
  · exact sound_ok _
  · exact sound_error (Error.sound_decode _ _)

/-- A name that is not there, or not unique, is a column error. -/
theorem sound_value (r : Row) (name : String) : Sound (r.value name) := by
  refine Sound.map ?_ _
  unfold ColumnResolver.resolve
  split
  · exact sound_ok _
  · exact sound_error (Error.sound_column _ _)
  · exact sound_error (Error.sound_column _ _)

theorem sound_getAt (r : Row) (index : Nat) (type : FieldType) :
    Sound (r.getAt index type) := by
  unfold getAt
  split
  · exact sound_field_decode _ _
  · exact sound_error (Error.sound_column _ _)

end Row

/-- A mapper of records gives its own name to every failure. -/
theorem RecordMapper.sound_map {α : Type} (m : RecordMapper α) (row : Row) :
    Sound (m.map row) := by
  have hfailure : ∀ fault values, (failure fault values).Sound :=
    fun _ _ => Error.sound_decode _ _
  unfold RecordMapper.map
  split
  · unfold mapValues
    split
    · exact sound_error (hfailure _ _)
    · split
      · exact sound_error (hfailure _ _)
      · split
        · exact sound_error (hfailure _ _)
        · split
          · exact sound_ok _
          · exact sound_error (hfailure _ _)
  · exact sound_error (hfailure _ _)

-- ============================================================== entities

/-- The hooks of a declaration are sound. -/
def EntityDescriptor.SoundHooks (d : EntityDescriptor) : Prop :=
  ∀ hook, d.postLoad = some hook ∨ d.postStore = some hook → Safe hook

/-- The hooks of all declarations are sound. -/
def Schema.SoundHooks (schema : Schema) : Prop :=
  ∀ d ∈ schema, d.SoundHooks

namespace EntityBinding

variable (b : EntityBinding)

/-- A type that is misconfigured is a mapping error. -/
theorem sound_ofType (schema : Schema) (typeName : String) :
    Sound (ofType schema typeName) := by
  unfold ofType
  split
  · unfold ofDescriptor
    split
    · exact sound_error (Error.sound_mapping _)
    · split
      · exact sound_error (Error.sound_mapping _)
      · split
        · exact sound_error (Error.sound_mapping _)
        · exact sound_ok _
  · exact sound_error (Error.sound_mapping _)

/-- A binding has the hooks of a declaration of the schema. -/
theorem soundHooks_of_ofType {schema : Schema} (h : schema.SoundHooks)
    {typeName : String} {b : EntityBinding}
    (hb : ofType schema typeName = .ok b) : b.descriptor.SoundHooks := by
  have hfound := find?_of_ofType hb
  exact h b.descriptor (List.mem_of_find?_eq_some hfound)

/-- Whatever is wrong with a column is an error about the column. -/
theorem sound_columnError (column : String) (e : Error) :
    (b.columnError column e).Sound := by
  unfold columnError
  split <;> exact Error.sound_column _ _

/-- What cannot be read is an error about its column. -/
theorem sound_readAll (columns : List (ColumnBinding × Field)) :
    Sound (b.readAll columns) := by
  induction columns with
  | nil => exact sound_ok _
  | cons column rest ih =>
      refine Sound.bind ?_ fun v => Sound.bind ih fun vs => sound_ok _
      unfold read
      split
      · exact sound_mapError fun e => b.sound_columnError _ e
      · exact sound_ok _
      · exact sound_ok _

theorem sound_identityValues (e : Entity) : Sound (b.identityValues e) :=
  b.sound_readAll _

theorem sound_identity (e : Entity) : Sound (b.identity e) :=
  (b.sound_identityValues e).map _

theorem sound_isTransient (e : Entity) : Sound (b.isTransient e) :=
  (b.sound_identityValues e).map _

theorem sound_insertStatement (e : Entity) : Sound (b.insertStatement e) :=
  (b.sound_readAll _).bind fun _ => sound_ok _

/-- An update with nothing to set is a mapping error. -/
theorem sound_updateStatement (e : Entity) : Sound (b.updateStatement e) := by
  unfold updateStatement
  dsimp only
  split
  · exact sound_error (Error.sound_mapping _)
  · exact (b.sound_readAll _).bind fun _ =>
      (b.sound_identityValues e).bind fun _ => sound_ok _

theorem sound_deleteStatement (e : Entity) : Sound (b.deleteStatement e) :=
  (b.sound_identityValues e).bind fun _ => sound_ok _

theorem sound_lookup (row : Row) (column : String) :
    Sound (b.lookup row column) := by
  unfold lookup
  split
  · exact sound_ok _
  · exact row.sound_value column

/-- A value that does not fit a column is an error about the column. -/
theorem safe_setColumn (c : ColumnBinding) (index : Nat) (v : Value) :
    Safe (b.setColumn c index v) := by
  unfold setColumn
  split
  · exact safe_pure _
  · split
    · exact fun _ => sound_ok _
    · exact safe_throw (b.sound_columnError _ _)

/-- So it is with several columns, up to the first that fails. -/
theorem safe_setColumns (columns : List (ColumnBinding × Nat)) :
    ∀ vs, Safe (b.setColumns columns vs) := by
  induction columns with
  | nil => exact fun _ => safe_pure _
  | cons column columns ih =>
      intro vs
      cases vs with
      | nil => exact safe_pure _
      | cons v vs =>
          exact (b.safe_setColumn _ _ v).bind fun _ => ih vs

theorem safe_setIdentity (vs : List Value) : Safe (b.setIdentity vs) := by
  unfold setIdentity
  dsimp only
  split
  · exact safe_throw (Error.sound_mapping _)
  · exact b.safe_setColumns _ vs

/-- A stub is filled with what is there, and only a value that does not fit
fails. -/
theorem safe_populatePrefixed (columnPrefix : String) (row : Row) :
    Safe (b.populatePrefixed columnPrefix row) := by
  unfold populatePrefixed
  generalize b.columns.zipIdx.filter _ = columns
  induction columns with
  | nil => exact safe_pure _
  | cons column columns ih =>
      rw [populateColumns]
      cases row.value? (columnPrefix ++ column.1.name) with
      | none => exact ih
      | some v => exact (b.safe_setColumn _ _ v).bind fun _ => ih

/-- The hook of a declaration whose hooks are sound is safe. -/
theorem safe_runPostLoad {b : EntityBinding} (h : b.descriptor.SoundHooks) :
    Safe b.runPostLoad := by
  unfold runPostLoad
  cases hhook : b.descriptor.postLoad with
  | none => exact safe_pure _
  | some hook => exact h hook (.inl hhook)

theorem safe_runPostStore {b : EntityBinding} (h : b.descriptor.SoundHooks) :
    Safe b.runPostStore := by
  unfold runPostStore
  cases hhook : b.descriptor.postStore with
  | none => exact safe_pure _
  | some hook => exact h hook (.inr hhook)

end EntityBinding

/-- A stub fails like the edits that fill it. -/
theorem Action.sound_stub (b : EntityBinding) (key : Value)
    (columnPrefix : String) (row : Row) :
    Sound (Action.stub b key columnPrefix row) := by
  have hedit : Safe (do
      b.setIdentity [key]
      b.populatePrefixed columnPrefix row) :=
    (b.safe_setIdentity [key]).bind fun _ =>
      b.safe_populatePrefixed columnPrefix row
  have hanswer := hedit b.initial
  unfold Action.stub
  unfold EStateM.answer at hanswer
  dsimp only
  split <;> rename_i hresult <;> rw [hresult] at hanswer
  · exact sound_ok _
  · exact sound_error (hanswer _ rfl)

-- =============================================================== exports

namespace Bulk

variable {σ α : Type}

/-- A frame that cannot be read is a decode error; what a visitor fails with is
kept as a text. -/
theorem safe_visitFrame (types : List BulkType)
    (visit : BulkRow → EStateM Error σ Unit) (frame : Bytes) :
    Safe (visitFrame types visit frame) := by
  have hframe : ∀ fault bytes, (frameError fault bytes).Sound :=
    fun _ _ => Error.sound_decode _ _
  intro w
  unfold visitFrame EStateM.answer
  cases decodeFrame types frame with
  | error fault => exact sound_error (hframe fault frame)
  | ok found =>
      cases found with
      | none => exact sound_ok 0
      | some row =>
          dsimp only
          cases visit row w with
          | ok x w' => exact sound_ok 1
          | error e w' => exact sound_error (hframe _ frame)

/-- Chunks that are sound are visited safely. -/
theorem safe_visitFrames (types : List BulkType)
    (visit : BulkRow → EStateM Error σ Unit) {chunks : List Chunk}
    (h : ∀ chunk ∈ chunks, Sound chunk) :
    Safe (visitFrames types visit chunks) := by
  induction chunks with
  | nil => exact safe_pure 0
  | cons chunk rest ih =>
      have hhead := h chunk (List.mem_cons_self ..)
      have htail := ih fun c hc => h c (List.mem_cons_of_mem _ hc)
      cases chunk with
      | error e => exact safe_throw (hhead e rfl)
      | ok frame =>
          exact (safe_visitFrame types visit frame).bind fun _ =>
            htail.bind fun _ => safe_pure _

theorem safe_forEach (types : List BulkType)
    (visit : BulkRow → EStateM Error σ Unit) {chunks : List Chunk}
    (h : ∀ chunk ∈ chunks, Sound chunk) : Safe (forEach types visit chunks) := by
  have hframe : ∀ fault bytes, (frameError fault bytes).Sound :=
    fun _ _ => Error.sound_decode _ _
  unfold forEach
  split
  case h_1 => exact safe_throw (hframe _ _)
  case h_2 e rest => exact safe_throw (h _ (List.mem_cons_self ..) e rfl)
  case h_3 chunk rest =>
    have hrest : ∀ c ∈ rest, Sound c :=
      fun c hc => h c (List.mem_cons_of_mem _ hc)
    split
    · exact safe_throw (hframe _ _)
    · exact safe_visitFrames types visit hrest
    · refine safe_visitFrames types visit fun c hc => ?_
      rcases List.mem_cons.mp hc with rfl | hc
      · exact sound_ok _
      · exact hrest c hc

/-- An export fails with the failure of a chunk or with a malformed frame;
a mapper's failure is kept as a text. -/
theorem safe_decode (types : List BulkType)
    (mapper : BulkRow → EStateM Error σ α) {chunks : List Chunk}
    (h : ∀ chunk ∈ chunks, Sound chunk) : Safe (decode types mapper chunks) := by
  intro state
  have hanswer := safe_forEach types (collecting mapper) h (state, [])
  simp only [EStateM.answer] at hanswer
  simp only [decode, EStateM.answer]
  cases hresult : forEach types (collecting mapper) chunks (state, []) with
  | ok n w => exact sound_ok _
  | error e w =>
      rw [hresult] at hanswer
      exact sound_error (hanswer e rfl)

end Bulk

end DataAccess
