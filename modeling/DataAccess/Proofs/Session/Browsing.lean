/-
What reading does to an identity cache. Loading a row looks up the key of
every relation in it, and puts a stub where nothing is; a shared find looks
its key up, and puts what it loads itself. Nothing that reads takes anything
away, and what a caller gets to see was shown by the cache: the instance that
a shared find answers with (`told_findShared`), and the instances that the
relations of a loaded entity stand for (`browses_load`).

The hook of an entity type can do as it likes with the fields of an entity
that was loaded. So what is said about the relations of loaded entities is
said where the hook of its type leaves them as they are
(`Schema.KeepsReferences`).
-/
import DataAccess.Proofs.Entity.Reading
import DataAccess.Proofs.Session.Holdings

namespace DataAccess

-- ================================================================= events

/-- Reading looks entries up, and puts stubs. -/
def CacheEvent.IsReading {α : Type} : CacheEvent α → Prop
  | .took .. => True
  | .passed _ => True
  | .missed _ => True
  | .put _ _ loaded => loaded = false
  | .dropped _ => False
  | .cleared => False

/-- Events that are all reading. -/
def ReadingOnly (events : List (CacheEvent InstanceId)) : Prop :=
  ∀ event ∈ events, event.IsReading

/-- An instance was shown under a key. -/
def Shows (events : List (CacheEvent InstanceId)) (key : CacheKey)
    (i : InstanceId) : Prop :=
  ∃ event ∈ events, ∃ loaded, event.shown? key = some ⟨i, loaded⟩

/-- The last event shows a loaded instance under a key; before it there was
reading. -/
def Found (events : List (CacheEvent InstanceId)) (key : CacheKey)
    (i : InstanceId) : Prop :=
  ∃ before event, events = before ++ [event] ∧ ReadingOnly before
    ∧ event.shown? key = some ⟨i, true⟩

section

variable {events events' : List (CacheEvent InstanceId)} {key : CacheKey}
  {i : InstanceId}

theorem readingOnly_nil : ReadingOnly [] :=
  List.forall_mem_nil _

/-- Reading may be continued. -/
theorem ReadingOnly.append (h : ReadingOnly events) (h' : ReadingOnly events') :
    ReadingOnly (events ++ events') :=
  List.forall_mem_append.mpr ⟨h, h'⟩

theorem readingOnly_singleton {event : CacheEvent InstanceId}
    (h : event.IsReading) : ReadingOnly [event] :=
  List.forall_mem_singleton.mpr h

/-- What was shown was shown, whatever else happened. -/
theorem Shows.mono (h : Shows events key i) (hsub : events ⊆ events') :
    Shows events' key i := by
  obtain ⟨event, hmem, hshown⟩ := h
  exact ⟨event, hsub hmem, hshown⟩

/-- What was found was shown. -/
theorem Found.shows (h : Found events key i) : Shows events key i := by
  obtain ⟨before, event, rfl, -, hshown⟩ := h
  exact ⟨event, List.mem_append_right _ List.mem_cons_self, true, hshown⟩

/-- An event that shows something takes nothing away. -/
theorem not_outdates_of_shown {event : CacheEvent InstanceId}
    {entry : CacheEntry InstanceId} (h : event.shown? key = some entry)
    (k : CacheKey) : ¬ event.Outdates k := by
  cases event with
  | took => exact id
  | put => exact id
  | passed => cases h
  | missed => cases h
  | dropped => cases h
  | cleared => cases h

/-- Reading takes nothing away. -/
theorem ReadingOnly.not_outdates (h : ReadingOnly events) (k : CacheKey) :
    ∀ event ∈ events, ¬ event.Outdates k := by
  intro event hevent
  have hreading := h event hevent
  cases event with
  | took => exact id
  | put => exact id
  | passed => exact id
  | missed => exact id
  | dropped => exact hreading.elim
  | cleared => exact hreading.elim

/-- Finding takes nothing away. -/
theorem Found.not_outdates (h : Found events key i) (k : CacheKey) :
    ∀ event ∈ events, ¬ event.Outdates k := by
  obtain ⟨before, event, rfl, hbefore, hshown⟩ := h
  refine List.forall_mem_append.mpr ⟨hbefore.not_outdates k, ?_⟩
  exact List.forall_mem_singleton.mpr (not_outdates_of_shown hshown k)

/-- Reading brings no loaded instance into the cache. -/
theorem ReadingOnly.stub_of_replay {cache : IdentityCache InstanceId}
    (h : ReadingOnly events)
    (hstub : ∀ entry, cache.find? key = some entry → entry.loaded = false)
    {entry : CacheEntry InstanceId}
    (hfound : (cache.replay events).find? key = some entry) :
    entry.loaded = false := by
  rcases IdentityCache.find?_replay hfound with hfound | hput
  · exact hstub entry hfound
  · exact h _ hput

end

-- ================================================================ browsing

section

variable {τ α β : Type} {schema : Schema} {view : τ → Session}
  {t : TransactionId} {c : ChainId} {a : EStateM Error τ α}
  {f : α → EStateM Error τ β}
  {Q Q₁ : α → List (CacheEvent InstanceId) → Prop}
  {Q' : β → List (CacheEvent InstanceId) → Prop}

/-- An action on a transaction that does nothing but read; `Q` says what its
result has to do with the events. -/
def Browses (schema : Schema) (view : τ → Session) (t : TransactionId)
    (c : ChainId) (Q : α → List (CacheEvent InstanceId) → Prop)
    (a : EStateM Error τ α) : Prop :=
  ∀ w, (view w).holdings.OnChain t c →
    Told schema view c a w fun r _ events =>
      ReadingOnly events ∧ ∀ x, r = .ok x → Q x events

/-- What is said of a result may be weakened. -/
theorem Browses.imp (h : Browses schema view t c Q₁ a)
    (himp : ∀ x events, Q₁ x events → Q x events) :
    Browses schema view t c Q a :=
  fun w hw => (h w hw).imp fun events hR =>
    ⟨hR.1, fun x hx => himp x events (hR.2 x hx)⟩

/-- A result was answered. -/
theorem Browses.with_answer (h : Browses schema view t c Q a) :
    Browses schema view t c
      (fun x events => Q x events ∧ ∃ w, a.answer w = .ok x) a :=
  fun w hw => (h w hw).imp fun _ hR =>
    ⟨hR.1, fun x hx => ⟨hR.2 x hx, w, hx⟩⟩

/-- What leaves the holdings alone reads nothing. -/
theorem Idle.browses (h : Idle view a)
    (hQ : ∀ w x, a.answer w = .ok x → Q x []) :
    Browses schema view t c Q a :=
  fun w _ => h.told ⟨readingOnly_nil, hQ w⟩

/-- Reading is continued, with what was said of the first result. -/
theorem Browses.bind (ha : Browses schema view t c Q₁ a)
    (hf : ∀ x, Browses schema view t c
      (fun y events' => ∀ events, Q₁ x events → Q' y (events ++ events'))
      (f x)) :
    Browses schema view t c Q' (a >>= f) := by
  intro w hw
  refine (ha w hw).bind ?_ ?_
  · rintro e events - ⟨hreading, -⟩
    exact ⟨hreading, fun x hx => nomatch hx⟩
  · rintro x events - hrecounts ⟨hreading, hx⟩
    refine (hf x _ (hrecounts.onChain hw)).imp fun events' h => ?_
    exact ⟨hreading.append h.1, fun y hy => h.2 y hy events (hx x rfl)⟩

/-- What follows on a step that leaves the holdings alone. -/
theorem Idle.bind_browses (ha : Idle view a)
    (hf : ∀ x, (∃ w, a.answer w = .ok x) →
      Browses schema view t c Q' (f x)) :
    Browses schema view t c Q' (a >>= f) := by
  intro w hw
  refine ha.bind_told (fun e _ => ⟨readingOnly_nil, fun _ h => nomatch h⟩) ?_
  intro x hx
  refine hf x ⟨w, hx⟩ (a.after w) ?_
  rw [ha w]
  exact hw

/-- A result that is changed. -/
theorem Browses.map (ha : Browses schema view t c Q₁ a) {g : α → β}
    (hg : ∀ x events, Q₁ x events → Q' (g x) events) :
    Browses schema view t c Q' (a >>= fun x => pure (g x)) := by
  refine ha.bind fun x => (idle_pure (g x)).browses ?_
  rintro w _ ⟨⟩ events hx
  rw [List.append_nil]
  exact hg x events hx

end

namespace Action

variable {α β : Type} {schema : Schema} {t : TransactionId} {c : ChainId}
  {a : Action α} {Q : α → List (CacheEvent InstanceId) → Prop}

/-- A failure that is changed does not change what was read. -/
theorem browses_mapError {f : Error → Error}
    (h : Browses schema id t c Q a) :
    Browses schema id t c Q (mapError f a) := by
  intro s hs
  obtain ⟨events, hevents, hreading, hQ⟩ := h s hs
  refine ⟨events, ?_, hreading, fun x hx => hQ x ?_⟩
  · rw [after_mapError]
    exact hevents
  · rw [answer_mapError] at hx
    cases hr : a.answer s with
    | ok y =>
        rw [hr] at hx
        exact hx
    | error e =>
        rw [hr] at hx
        cases hx

-- ================================================================= queries

/-- What is made of rows one by one. -/
theorem browses_mapRows (resolver : ColumnResolver) {f : Row → Action α}
    (hf : ∀ row, Browses schema id t c Q (f row))
    (hQ : ∀ x events events', events ⊆ events' → Q x events → Q x events')
    (rows : List (List Value)) :
    Browses schema id t c (fun xs events => ∀ x ∈ xs, Q x events)
      (mapRows resolver f rows) := by
  induction rows with
  | nil =>
      refine (idle_pure []).browses ?_
      rintro w _ ⟨⟩
      exact List.forall_mem_nil _
  | cons values rest ih =>
      refine (idle_ofExcept _).bind_browses fun row _ => ?_
      refine (hf row).bind fun x => ih.map fun xs events' hxs events hx => ?_
      refine List.forall_mem_cons.mpr ⟨?_, fun y hy => ?_⟩
      · exact hQ x _ _ (List.subset_append_left ..) hx
      · exact hQ y _ _ (List.subset_append_right ..) (hxs y hy)

/-- A query reads as what is made of its rows does. -/
theorem browses_fetchMap (sql : String) (params : Params)
    {f : Row → Action α} (hf : ∀ row, Browses schema id t c Q (f row))
    (hQ : ∀ x events events', events ⊆ events' → Q x events → Q x events') :
    Browses schema id t c (fun xs events => ∀ x ∈ xs, Q x events)
      (fetchMap t sql params f) := by
  have hresolve : Composed False True True False t .session .unchecked
      (resolve t sql params) := composed_resolve sql params
  have hrun : ∀ b, Composed False True True False t .session .unchecked
      (runQuery t b) := composed_runQuery
  exact hresolve.idle.bind_browses fun b _ =>
    (hrun b).idle.bind_browses fun result _ =>
      idle_get.bind_browses fun _ _ =>
        browses_mapError (browses_mapRows _ hf hQ result.rows)

-- ============================================================== references

/-- The reference that a row holds stands for what the cache shows under its
key. -/
theorem browses_loadReference (target : String) (key : Value)
    (columnPrefix : String) (row : Row) :
    Browses schema id t c
      (fun reference events => ∀ r, reference = some r →
        ∃ identity, IdentityKey.ofValues? [r.id] = some identity
          ∧ Shows events ⟨target, identity⟩ r.target)
      (loadReference schema t target key columnPrefix row) := by
  unfold loadReference
  cases hidentity : IdentityKey.ofValues? [key] with
  | none =>
      refine (idle_pure none).browses ?_
      rintro w _ ⟨⟩ r ⟨⟩
  | some identity =>
      intro s hs
      refine (told_cached hs _).bind ?_ ?_
      · rintro e events - (⟨i, loaded, h, -⟩ | ⟨h, -⟩) <;> cases h
      rintro found events - hrecounts
        (⟨i, loaded, ⟨⟩, rfl⟩ | ⟨⟨⟩, rfl, hnone⟩)
      · refine (idle_pure _).told
          ⟨readingOnly_singleton trivial, fun _ hr => ?_⟩
        rintro r ⟨⟩
        cases hr
        exact ⟨identity, hidentity, _, List.mem_cons_self, loaded,
          if_pos rfl⟩
      have hs₁ := hrecounts.onChain hs
      have hmissed : ReadingOnly [.missed ⟨target, identity⟩] :=
        readingOnly_singleton trivial
      -- nothing was there, so a stub is put
      refine (idle_ofExcept _).bind_told
        (fun e _ => ⟨hmissed, fun _ h => nomatch h⟩) fun b hb => ?_
      rw [answer_ofExcept] at hb
      rw [after_ofExcept]
      refine (idle_ofExcept _).bind_told
        (fun e _ => ⟨hmissed, fun _ h => nomatch h⟩) fun e he => ?_
      rw [answer_ofExcept] at he
      rw [after_ofExcept]
      refine (told_shared hs₁ (fun entry hentry => ?_)
        (.stub hb hidentity he)).imp ?_
      · cases hnone.symm.trans hentry
      rintro _ ⟨hr, rfl⟩
      refine ⟨hmissed.append (readingOnly_singleton rfl), fun _ hr' => ?_⟩
      rintro r ⟨⟩
      cases hr.symm.trans hr'
      refine ⟨identity, hidentity, .put ⟨target, identity⟩ _ false, ?_, _,
        if_pos rfl⟩
      simp

end Action

-- ================================================================= loading

/-- A relation field of an entity stands for an instance, under a key. -/
def Entity.Refers (schema : Schema) (e : Entity) (key : CacheKey)
    (i : InstanceId) : Prop :=
  ∃ b index column columnPrefix r,
    EntityBinding.ofType schema e.type = .ok b
      ∧ b.columns[index]? = some column
      ∧ column.access = .relation key.entity columnPrefix
      ∧ e.referenceAt? index = some r
      ∧ IdentityKey.ofValues? [r.id] = some key.identity ∧ r.target = i

/-- A hook that makes no other type of an entity. -/
def KeepsType (hook : Edit Unit) : Prop :=
  ∀ e, (hook.after e).type = e.type

/-- A hook that sets no relation. -/
def KeepsReferences (hook : Edit Unit) : Prop :=
  ∀ e index r, (hook.after e).referenceAt? index = some r →
    e.referenceAt? index = some r

/-- The hook that runs after an entity of the type was loaded sets no relation.
That no hook makes another type of an entity goes without saying in a program;
here the type is a name. -/
structure Schema.KeepsReferences (schema : Schema) (typeName : String) :
    Prop where
  types : ∀ d ∈ schema, ∀ hook ∈ d.postLoad, KeepsType hook
  references : ∀ d ∈ schema.find? typeName, ∀ hook ∈ d.postLoad,
    DataAccess.KeepsReferences hook

/-- What the relations of an entity stand for was shown. -/
def Sighted (schema : Schema) (e : Entity)
    (events : List (CacheEvent InstanceId)) : Prop :=
  schema.KeepsReferences e.type →
    ∀ key i, e.Refers schema key i → Shows events key i

/-- A reference in a column of a binding stands for what was shown. -/
def EntityBinding.Sights (b : EntityBinding) (index : Nat) (r : Reference)
    (events : List (CacheEvent InstanceId)) : Prop :=
  ∃ column target columnPrefix identity, b.columns[index]? = some column
    ∧ column.access = .relation target columnPrefix
    ∧ IdentityKey.ofValues? [r.id] = some identity
    ∧ Shows events ⟨target, identity⟩ r.target

/-- An entity after columns of it were set: its references were there before,
or stand for what was shown. -/
structure EntityBinding.Reloads (b : EntityBinding) (e e' : Entity)
    (events : List (CacheEvent InstanceId)) : Prop where
  type : e'.type = e.type
  references : ∀ index r, e'.referenceAt? index = some r →
    e.referenceAt? index = some r ∨ b.Sights index r events

section

variable {schema : Schema} {b : EntityBinding} {e e' e'' : Entity}
  {events events' : List (CacheEvent InstanceId)} {index : Nat}
  {r : Reference}

/-- More events show no less. -/
theorem Sighted.mono (h : Sighted schema e events)
    (hsub : events ⊆ events') : Sighted schema e events' :=
  fun hkeeps key i hrefers => (h hkeeps key i hrefers).mono hsub

theorem EntityBinding.Sights.mono (h : b.Sights index r events)
    (hsub : events ⊆ events') : b.Sights index r events' := by
  obtain ⟨column, target, columnPrefix, identity, hcolumn, haccess, hid,
    hshows⟩ := h
  exact ⟨column, target, columnPrefix, identity, hcolumn, haccess, hid,
    hshows.mono hsub⟩

theorem EntityBinding.reloads_refl (b : EntityBinding) (e : Entity) :
    b.Reloads e e events :=
  ⟨rfl, fun _ _ h => Or.inl h⟩

/-- Columns that are set one after the other. -/
theorem EntityBinding.Reloads.trans (h : b.Reloads e e' events)
    (h' : b.Reloads e' e'' events') :
    b.Reloads e e'' (events ++ events') := by
  refine ⟨h'.type.trans h.type, fun index r hr => ?_⟩
  rcases h'.references index r hr with hr | hsights
  · exact (h.references index r hr).imp_right fun hsights =>
      hsights.mono (List.subset_append_left ..)
  · exact Or.inr (hsights.mono (List.subset_append_right ..))

/-- A reference is what a relation field holds. -/
theorem Entity.referenceAt?_eq_some_iff :
    e.referenceAt? index = some r
      ↔ e.fields[index]? = some (.relation (some r)) := by
  unfold Entity.referenceAt?
  cases e.fields[index]? with
  | none => simp
  | some f => cases f <;> simp

/-- Setting a field sets at most the reference in it. -/
theorem Entity.referenceAt?_setField {f : Field} {j : Nat}
    (h : (e.setField index f).referenceAt? j = some r) :
    j = index ∧ f = .relation (some r)
      ∨ j ≠ index ∧ e.referenceAt? j = some r := by
  rw [Entity.referenceAt?_eq_some_iff] at h ⊢
  unfold Entity.setField at h
  rw [List.getElem?_set] at h
  split at h
  · next hj =>
    split at h
    · exact Or.inl ⟨hj.symm, Option.some.inj h⟩
    · cases h
  · next hj => exact Or.inr ⟨Ne.symm hj, h⟩

/-- A field is set to no reference, or to one that was shown. -/
theorem EntityBinding.reloads_setField {f : Field}
    (h : ∀ r, f = .relation (some r) → b.Sights index r events) :
    b.Reloads e (e.setField index f) events := by
  refine ⟨rfl, fun j r hr => ?_⟩
  rcases Entity.referenceAt?_setField hr with ⟨rfl, hf⟩ | ⟨-, hr⟩
  · exact Or.inr (h r hf)
  · exact Or.inl hr

/-- Setting a plain column sets no reference. -/
theorem EntityBinding.reloads_setColumn (b : EntityBinding)
    (column : ColumnBinding) (index : Nat) (v : Value) (e : Entity) :
    b.Reloads e ((b.setColumn column index v).after e) events := by
  unfold EntityBinding.setColumn
  cases column.access with
  | relation => exact b.reloads_refl e
  | plain type =>
      dsimp only
      cases type.decode v with
      | error _ => exact b.reloads_refl e
      | ok w => exact EntityBinding.reloads_setField fun _ h => nomatch h

/-- A plain column that was set holds no reference. -/
theorem EntityBinding.referenceAt?_setColumn {column : ColumnBinding}
    {type : FieldType} {v : Value} (haccess : column.access = .plain type)
    (hset : (b.setColumn column index v).answer e = .ok ()) :
    ((b.setColumn column index v).after e).referenceAt? index ≠ some r := by
  unfold EntityBinding.setColumn at hset ⊢
  rw [haccess] at hset ⊢
  dsimp only at hset ⊢
  cases hw : type.decode v with
  | error _ =>
      rw [hw] at hset
      cases hset
  | ok w =>
      intro hr
      rcases Entity.referenceAt?_setField hr with ⟨-, hf⟩ | ⟨hne, -⟩
      · cases hf
      · exact hne rfl

/-- The binding of a type goes by the name of the type, and is a declaration
of the schema. -/
theorem EntityBinding.of_ofType {typeName : String}
    (h : EntityBinding.ofType schema typeName = .ok b) :
    b.typeName = typeName ∧ b.descriptor ∈ schema := by
  have hd := EntityBinding.find?_of_ofType h
  unfold Schema.find? at hd
  have hname := List.find?_some hd
  exact ⟨beq_iff_eq.mp hname, List.mem_of_find?_eq_some hd⟩

/-- Where no hook makes another type of an entity, that of a binding does
not. -/
theorem EntityBinding.keepsType_runPostLoad {typeName : String}
    (h : ∀ d ∈ schema, ∀ hook ∈ d.postLoad, KeepsType hook)
    (hb : EntityBinding.ofType schema typeName = .ok b) :
    KeepsType b.runPostLoad := by
  have hhook := h b.descriptor (EntityBinding.of_ofType hb).2
  unfold EntityBinding.runPostLoad
  cases hd : b.descriptor.postLoad with
  | none => exact fun _ => rfl
  | some hook =>
      rw [hd] at hhook
      exact hhook hook rfl

/-- The hook of a type that sets no relation is that of its binding. -/
theorem Schema.KeepsReferences.runPostLoad {typeName : String}
    (h : schema.KeepsReferences typeName)
    (hb : EntityBinding.ofType schema typeName = .ok b) :
    DataAccess.KeepsReferences b.runPostLoad := by
  have hhook := h.references b.descriptor (EntityBinding.find?_of_ofType hb)
  unfold EntityBinding.runPostLoad
  cases hd : b.descriptor.postLoad with
  | none => exact fun _ _ _ hr => hr
  | some hook =>
      rw [hd] at hhook
      exact hhook hook rfl

/-- What all references of an entity stand for was shown, so it is sighted. -/
theorem EntityBinding.sighted
    (hb : EntityBinding.ofType schema e.type = .ok b)
    (h : ∀ index column r, b.columns[index]? = some column →
      e.referenceAt? index = some r → b.Sights index r events) :
    Sighted schema e events := by
  rintro - key i ⟨b', index, column, columnPrefix, r, hb', hcolumn, haccess,
    hr, hid, rfl⟩
  cases hb.symm.trans hb'
  obtain ⟨column', target, columnPrefix', identity, hcolumn', haccess', hid',
    hshows⟩ := h index column r hcolumn hr
  cases hcolumn.symm.trans hcolumn'
  cases haccess.symm.trans haccess'
  cases hid.symm.trans hid'
  exact hshows

end

namespace EntityAction

variable {schema : Schema} {t : TransactionId} {c : ChainId}
  {b : EntityBinding} {w : Workbench}

/-- Setting a column from a row reads; a relation stands for what was shown
then. -/
theorem told_injectColumn (row : Row) {column : ColumnBinding} {index : Nat}
    (hcolumn : b.columns[index]? = some column)
    (h : w.session.holdings.OnChain t c) :
    Told schema Workbench.session c
      (injectColumn schema t b row column index) w
      fun r w' events => ReadingOnly events
        ∧ b.Reloads w.entity w'.entity events
        ∧ (r = .ok () → ∀ reference,
          w'.entity.referenceAt? index = some reference →
            b.Sights index reference events) := by
  refine (idle_ofExcept _).bind_told (fun e _ => ?_) fun v _ => ?_
  · rw [after_ofExcept]
    exact ⟨readingOnly_nil, b.reloads_refl _, fun h => nomatch h⟩
  rw [after_ofExcept]
  cases haccess : column.access with
  | plain type =>
      refine (idle_ofEdit _).told ⟨readingOnly_nil, ?_, fun hr r' hr' => ?_⟩
      · rw [after_ofEdit]
        exact b.reloads_setColumn column index v w.entity
      · rw [answer_ofEdit] at hr
        rw [after_ofEdit] at hr'
        exact absurd hr' (EntityBinding.referenceAt?_setColumn haccess hr)
  | relation target columnPrefix =>
      refine (told_ofAction (Action.browses_mapError
        (Action.browses_loadReference target v columnPrefix row)
          w.session h)).bind ?_ ?_
      · rintro e events - ⟨⟨hreading, -⟩, hentity⟩
        rw [hentity]
        exact ⟨hreading, b.reloads_refl _, fun h => nomatch h⟩
      rintro reference events - - ⟨⟨hreading, hshows⟩, hentity⟩
      have hsights : ∀ r, Field.relation reference = .relation (some r) →
          b.Sights index r (events ++ []) := by
        rintro r ⟨⟩
        obtain ⟨identity, hid, hshows⟩ := hshows _ rfl r rfl
        rw [List.append_nil]
        exact ⟨column, target, columnPrefix, identity, hcolumn, haccess, hid,
          hshows⟩
      refine (idle_ofEdit _).told ⟨hreading.append readingOnly_nil, ?_,
        fun _ r' hr' => ?_⟩
      · rw [after_ofEdit, ← hentity]
        exact EntityBinding.reloads_setField hsights
      · rw [after_ofEdit] at hr'
        rcases Entity.referenceAt?_setField hr' with ⟨-, hf⟩ | ⟨hne, -⟩
        · exact hsights r' hf
        · exact absurd rfl hne

/-- Setting columns from a row reads, and the relations among them stand for
what was shown. -/
theorem told_injectColumns (row : Row) {columns : List (ColumnBinding × Nat)}
    (hcolumns : ∀ p ∈ columns, b.columns[p.2]? = some p.1)
    (h : w.session.holdings.OnChain t c) :
    Told schema Workbench.session c (injectColumns schema t b row columns) w
      fun r w' events => ReadingOnly events
        ∧ b.Reloads w.entity w'.entity events
        ∧ (r = .ok () → ∀ p ∈ columns, ∀ reference,
          w'.entity.referenceAt? p.2 = some reference →
            b.Sights p.2 reference events) := by
  induction columns generalizing w with
  | nil =>
      exact (idle_pure ()).told ⟨readingOnly_nil, b.reloads_refl _,
        fun _ => List.forall_mem_nil _⟩
  | cons p columns ih =>
      obtain ⟨hp, hcolumns⟩ := List.forall_mem_cons.mp hcolumns
      refine (told_injectColumn row hp h).bind ?_ ?_
      · rintro e events - ⟨hreading, hreloads, -⟩
        exact ⟨hreading, hreloads, fun h => nomatch h⟩
      rintro _ events - hrecounts ⟨hreading, hreloads, hsights⟩
      refine (ih hcolumns (hrecounts.onChain h)).imp ?_
      rintro events' ⟨hreading', hreloads', hsights'⟩
      refine ⟨hreading.append hreading', hreloads.trans hreloads',
        fun hr => List.forall_mem_cons.mpr ⟨fun reference href => ?_,
          fun q hq reference href => ?_⟩⟩
      -- the first column may be set by a later one, or not
      · rcases hreloads'.references p.2 reference href with href | hlater
        · exact (hsights rfl reference href).mono
            (List.subset_append_left ..)
        · exact hlater.mono (List.subset_append_right ..)
      · exact (hsights' hr q hq reference href).mono
          (List.subset_append_right ..)

/-- Injecting a row reads. If it succeeds, all relations of the entity stand
for what was shown. -/
theorem told_inject (row : Row) (h : w.session.holdings.OnChain t c) :
    Told schema Workbench.session c (inject schema t b row) w
      fun r w' events => ReadingOnly events ∧ w'.entity.type = w.entity.type
        ∧ (r = .ok () → ∀ index column reference,
          b.columns[index]? = some column →
          w'.entity.referenceAt? index = some reference →
            b.Sights index reference events) := by
  refine (told_injectColumns row (fun p hp => ?_) h).imp ?_
  · exact List.mem_zipIdx_iff_getElem?.mp hp
  · rintro events ⟨hreading, hreloads, hsights⟩
    refine ⟨hreading, hreloads.type, fun hr index column r hcolumn href => ?_⟩
    exact hsights hr (column, index)
      (List.mem_zipIdx_iff_getElem?.mpr hcolumn) r href

end EntityAction

namespace Action

variable {α : Type} {schema : Schema} {t : TransactionId} {c : ChainId}
  {s : Session}

/-- Work on an entity is told as it is told beside the entity. -/
theorem told_within {β : Type} {a : EntityAction α} {e : Entity}
    {g : Entity → β}
    {R : Except Error α → Workbench → List (CacheEvent InstanceId) → Prop}
    (h : Told schema Workbench.session c a ⟨e, s⟩ R) :
    Told schema id c (a.within e g) s fun r _ events =>
      r = (a.answer ⟨e, s⟩).map (fun _ => g (a.after ⟨e, s⟩).entity)
        ∧ R (a.answer ⟨e, s⟩) (a.after ⟨e, s⟩) events := by
  obtain ⟨events, hevents, hR⟩ := h
  refine ⟨events, ?_, EntityAction.answer_within .., hR⟩
  rw [EntityAction.after_within]
  exact hevents

/-- Loading an entity reads, and its relations stand for what was shown. -/
theorem browses_load {b : EntityBinding} (row : Row) :
    Browses schema id t c
      (fun e events => EntityBinding.ofType schema b.typeName = .ok b →
        Sighted schema e events) (load schema t b row) := by
  intro s hs
  have hfilled : Told schema Workbench.session c
      (EntityAction.inject schema t b row >>= fun _ =>
        EntityAction.ofEdit b.runPostLoad) ⟨b.initial, s⟩
      fun r w events => ReadingOnly events
        ∧ (r = .ok () → EntityBinding.ofType schema b.typeName = .ok b →
          Sighted schema w.entity events) := by
    refine (EntityAction.told_inject row hs).bind ?_ ?_
    · rintro e events - ⟨hreading, -, -⟩
      exact ⟨hreading, fun h => nomatch h⟩
    rintro _ events - - ⟨hreading, htype, hsights⟩
    refine (EntityAction.idle_ofEdit _).told ⟨hreading.append readingOnly_nil,
      fun _ hb hkeeps => ?_⟩
    rw [EntityAction.after_ofEdit] at hkeeps ⊢
    rw [List.append_nil]
    -- so the type of the entity is still that of the binding
    have hname := (EntityBinding.keepsType_runPostLoad hkeeps.types hb _).trans
      htype
    have hkept := (hname ▸ hkeeps).runPostLoad hb
    exact EntityBinding.sighted (hname.symm ▸ hb)
      (fun index column r hcolumn hr =>
        hsights rfl index column r hcolumn (hkept _ index r hr)) hkeeps
  unfold load
  rw [EntityAction.build_eq]
  refine (told_within hfilled).imp ?_
  rintro events ⟨hr, hreading, hsighted⟩
  refine ⟨hreading, fun e he hb => ?_⟩
  obtain ⟨_, hfilled, rfl⟩ := Except.exists_of_map_eq_ok (hr.symm.trans he)
  exact hsighted hfilled hb

-- ================================================================ entities

/-- An entity of a type that was loaded from a row. -/
def Loaded (schema : Schema) (t : TransactionId) (typeName : String)
    (e : Entity) : Prop :=
  ∃ b row s, EntityBinding.ofType schema typeName = .ok b
    ∧ (load schema t b row).answer s = .ok e

/-- Every entity of a query was loaded, and its relations stand for what was
shown. -/
theorem browses_fetchEntities (typeName sql : String) (params : Params) :
    Browses schema id t c
      (fun es events => ∀ e ∈ es,
        Sighted schema e events ∧ Loaded schema t typeName e)
      (fetchEntities schema t typeName sql params) := by
  refine (idle_ofExcept _).bind_browses ?_
  rintro b ⟨w, hb⟩
  rw [answer_ofExcept] at hb
  have hname := (EntityBinding.of_ofType hb).1
  refine browses_fetchMap sql params (fun row => ?_) ?_
  · refine (browses_load row).with_answer.imp ?_
    rintro e events ⟨hsighted, s, he⟩
    exact ⟨hsighted (hname ▸ hb), b, row, s, hb, he⟩
  · rintro e events events' hsub ⟨hsighted, hloaded⟩
    exact ⟨hsighted.mono hsub, hloaded⟩

/-- A selection is a query for entities. -/
theorem browses_select (typeName suffix : String) (params : Params) :
    Browses schema id t c
      (fun es events => ∀ e ∈ es,
        Sighted schema e events ∧ Loaded schema t typeName e)
      (select schema t typeName suffix params) :=
  (idle_ofExcept _).bind_browses fun _ _ => browses_fetchEntities _ _ _

/-- The first one of a list is one of it. -/
theorem browses_head? {α : Type} {a : Action (List α)}
    {Q : α → List (CacheEvent InstanceId) → Prop}
    (h : Browses schema id t c (fun xs events => ∀ x ∈ xs, Q x events) a) :
    Browses schema id t c (fun x events => ∀ y ∈ x, Q y events)
      (a >>= fun xs => pure xs.head?) :=
  h.map fun _ _ hxs y hy => hxs y (List.mem_of_mem_head? hy)

/-- The first of the entities of a selection. -/
theorem browses_selectOptional (typeName suffix : String) (params : Params) :
    Browses schema id t c
      (fun e events => ∀ e' ∈ e,
        Sighted schema e' events ∧ Loaded schema t typeName e')
      (selectOptional schema t typeName suffix params) :=
  browses_head? (browses_select typeName suffix params)

/-- A find answers with the first entity, or with none. -/
theorem browses_find (typeName : String) (key : List Value) :
    Browses schema id t c
      (fun e events => ∀ e' ∈ e,
        Sighted schema e' events ∧ Loaded schema t typeName e')
      (find schema t typeName key) := by
  refine (idle_ofExcept _).bind_browses fun b _ => ?_
  dsimp only
  split
  · exact (idle_throw _).browses fun _ _ h => nomatch h
  · split
    · refine (idle_pure none).browses ?_
      rintro w _ ⟨⟩ e' ⟨⟩
    · exact browses_head? (browses_fetchEntities typeName _ _)

/-- A shared find answers with what the cache shows last, and reads
otherwise. -/
theorem told_findShared (typeName : String) (key : List Value)
    (h : s.holdings.OnChain t c) :
    Told schema id c (findShared schema t typeName key) s fun r _ events =>
      (ReadingOnly events ∧ ∀ i, r ≠ .ok (some i))
      ∨ ∃ i identity, r = .ok (some i)
        ∧ IdentityKey.ofValues? key = some identity
        ∧ Found events ⟨typeName, identity⟩ i := by
  unfold findShared
  cases hidentity : IdentityKey.ofValues? key with
  | none =>
      exact (idle_pure none).told
        (Or.inl ⟨readingOnly_nil, fun _ h => nomatch h⟩)
  | some identity =>
      refine (told_cachedLoaded h _).bind ?_ ?_
      · rintro e events - (⟨i, h, -⟩ | ⟨h, -⟩) <;> cases h
      rintro found events - hrecounts
        (⟨i, ⟨⟩, rfl⟩ | ⟨⟨⟩, hevents, hstub⟩)
      · refine (idle_pure _).told (Or.inr ⟨i, identity, rfl, rfl, [], _, rfl,
          readingOnly_nil, if_pos rfl⟩)
      have hs := hrecounts.onChain h
      have hreading : ReadingOnly events := by
        rcases hevents with rfl | rfl <;> exact readingOnly_singleton trivial
      -- nothing loaded is there, nor is it after reading
      refine (browses_find typeName key _ hs).bind ?_ ?_
      · rintro e events' - ⟨hreading', -⟩
        exact Or.inl ⟨hreading.append hreading', fun _ h => nomatch h⟩
      rintro e events' hfind hrecounts' ⟨hreading', he⟩
      cases e with
      | none =>
          refine (idle_pure none).told (Or.inl ⟨?_, fun _ h => nomatch h⟩)
          exact hreading.append (hreading'.append readingOnly_nil)
      | some e =>
          obtain ⟨-, b, row, s', hb, hloaded⟩ := he _ rfl e rfl
          refine (told_shared (hrecounts'.onChain hs) (fun entry hentry => ?_)
            (.loaded hb hidentity hloaded hfind)).imp ?_
          · rw [hrecounts'.cache] at hentry
            exact ⟨hreading'.stub_of_replay hstub hentry, rfl⟩
          rintro _ ⟨hr, rfl⟩
          refine Or.inr ⟨_, identity, hr, rfl, events ++ events',
            .put ⟨typeName, identity⟩ _ true, ?_, hreading.append hreading',
            if_pos rfl⟩
          exact (List.append_assoc ..).symm

/-- Resolving a reference is a shared find that has to find something. -/
theorem told_resolveReference (target : String) (reference : Reference)
    (h : s.holdings.OnChain t c) :
    Told schema id c (resolveReference schema t target reference) s
      fun r _ events =>
        (ReadingOnly events ∧ ∀ i, r ≠ .ok i)
        ∨ ∃ i identity, r = .ok i
          ∧ IdentityKey.ofValues? [reference.id] = some identity
          ∧ Found events ⟨target, identity⟩ i := by
  refine (told_findShared target [reference.id] h).bind ?_ ?_
  · rintro e events - (⟨hreading, -⟩ | ⟨i, -, h, -⟩)
    · exact Or.inl ⟨hreading, fun _ h => nomatch h⟩
    · cases h
  rintro found events - -
    (⟨hreading, hnone⟩ | ⟨i, identity, ⟨⟩, hid, hfound⟩)
  · cases found with
    | some i => exact absurd rfl (hnone i)
    | none =>
        refine idle_get.bind_told (fun e h => nomatch h) fun _ _ => ?_
        refine (idle_throw _).told (Or.inl ⟨?_, fun _ h => nomatch h⟩)
        exact hreading.append readingOnly_nil
  · refine (idle_pure _).told (Or.inr ⟨i, identity, rfl, hid, ?_⟩)
    rw [List.append_nil]
    exact hfound

end Action

end DataAccess
