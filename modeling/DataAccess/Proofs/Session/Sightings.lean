/-
What a statement has to do with the identity cache, all in one place. A shared
find or a resolved reference hands out the instance that the cache shows last
(`Statement.Yields`); the entities that a statement answers with have
relations, which stand for what the cache shows (`Statement.Sees`); and a
statement that writes an entity drops the key of it, which is the only thing
that statements take out of a cache (`Statement.Account`).
-/
import DataAccess.Proofs.Session.Outdating

namespace DataAccess

namespace Statement

variable {schema : Schema} {t : TransactionId} {c : ChainId} {s : Session}
  {st : Statement} {key key' : CacheKey} {i : InstanceId}
  {events : List (CacheEvent InstanceId)} {r : Except Error Unit}

/-- The shared instance that a statement answers with, and its key. -/
inductive Yields (schema : Schema) (t : TransactionId) (s : Session) :
    Statement → CacheKey → InstanceId → Prop where
  | findShared {typeName : String} {id : List Value} {identity : IdentityKey}
      {i : InstanceId}
      (hid : IdentityKey.ofValues? id = some identity)
      (hfound : (Action.findShared schema t typeName id).answer s
        = .ok (some i)) :
      Yields schema t s (.findShared typeName id) ⟨typeName, identity⟩ i
  | resolve {target : String} {reference : Reference}
      {identity : IdentityKey} {i : InstanceId}
      (hid : IdentityKey.ofValues? [reference.id] = some identity)
      (hfound : (Action.resolveReference schema t target reference).answer s
        = .ok i) :
      Yields schema t s (.resolve target reference) ⟨target, identity⟩ i

/-- An entity whose relations a statement loads. -/
inductive Sees (schema : Schema) (t : TransactionId) (s : Session) :
    Statement → Entity → Prop where
  | query {sql : String} {params : Params} {typeName : String}
      {es : List Entity} {e : Entity}
      (hanswer : (Action.fetchEntities schema t typeName sql params).answer s
        = .ok es) (he : e ∈ es) :
      Sees schema t s (.query sql params (.entities typeName)) e
  | select {typeName suffix : String} {params : Params} {es : List Entity}
      {e : Entity}
      (hanswer : (Action.select schema t typeName suffix params).answer s
        = .ok es) (he : e ∈ es) :
      Sees schema t s (.select typeName suffix params) e
  | selectOptional {typeName suffix : String} {params : Params} {e : Entity}
      (hanswer : (Action.selectOptional schema t typeName suffix params).answer
        s = .ok (some e)) :
      Sees schema t s (.selectOptional typeName suffix params) e
  | find {typeName : String} {id : List Value} {e : Entity}
      (hanswer : (Action.find schema t typeName id).answer s
        = .ok (some e)) :
      Sees schema t s (.find typeName id) e
  | load {b : EntityBinding} {row : Row} {e : Entity}
      (hb : EntityBinding.ofType schema b.typeName = .ok b)
      (hanswer : (Action.load schema t b row).answer s = .ok e) :
      Sees schema t s (.load b row) e
  | inject {e e' : Entity} {b : EntityBinding} {row : Row} {s' : Session}
      (hb : EntityBinding.ofType schema e.type = .ok b)
      (hrun : EntityAction.inject schema t b row ⟨e, s⟩ = .ok () ⟨e', s'⟩) :
      Sees schema t s (.inject e b row) e'

/-- What events on the cache have to do with a statement that comes to
`r`. -/
structure Account (schema : Schema) (t : TransactionId) (s : Session)
    (st : Statement) (r : Except Error Unit)
    (events : List (CacheEvent InstanceId)) : Prop where
  yields : ∀ {key i}, st.Yields schema t s key i → Found events key i
  sees : ∀ {e}, st.Sees schema t s e → Sighted schema e events
  written : ∀ {key}, st.Writes schema t s key → r = .ok () →
    events = [.dropped key]
  outdates : ∀ {key event}, event ∈ events → event.Outdates key →
    event = .dropped key ∧ st.Writes schema t s key

theorem Writes.unique (h : st.Writes schema t s key)
    (h' : st.Writes schema t s key') : key = key' := by
  cases h with
  | insert hb hstatement hidentity =>
      cases h' with
      | insert hb' hstatement' hidentity' =>
          cases hb.symm.trans hb'
          cases hstatement.symm.trans hstatement'
          cases hidentity.symm.trans hidentity'
          rfl
  | update hb hidentity =>
      cases h' with
      | update hb' hidentity' =>
          cases hb.symm.trans hb'
          cases hidentity.symm.trans hidentity'
          rfl
  | delete hb hidentity =>
      cases h' with
      | delete hb' hidentity' =>
          cases hb.symm.trans hb'
          cases hidentity.symm.trans hidentity'
          rfl

-- ================================================================= writing

/-- Work on an entity, told as a statement. -/
theorem told_onEntity {α : Type} {a : EntityAction α} {e : Entity}
    {R : Except Error α → Workbench → List (CacheEvent InstanceId) → Prop}
    (h : Told schema Workbench.session c a ⟨e, s⟩ R) :
    Told schema id c (onEntity a e) s fun r _ events =>
      r = (a.answer ⟨e, s⟩).map (fun _ => ())
        ∧ R (a.answer ⟨e, s⟩) (a.after ⟨e, s⟩) events := by
  rw [onEntity_eq]
  exact Action.told_within h

/-- A statement that drops the key of what it writes. -/
theorem account_of_drops {α : Type} {a : EntityAction α} {e : Entity}
    (h : Told schema Workbench.session c a ⟨e, s⟩ fun r _ events =>
      Drops (st.Writes schema t s) r events)
    (hyields : ∀ key i, ¬ st.Yields schema t s key i)
    (hsees : ∀ e, ¬ st.Sees schema t s e) :
    Told schema id c (onEntity a e) s fun r _ events =>
      st.Account schema t s r events := by
  refine (told_onEntity h).imp ?_
  rintro events ⟨hr, hdrops⟩
  refine ⟨fun h => absurd h (hyields _ _), fun h => absurd h (hsees _),
    fun {key} hkey hok => ?_, fun {key event} hevent houtdates => ?_⟩
  · rcases hdrops with ⟨key', hkey', rfl⟩ | ⟨-, hnone⟩
    · rw [hkey.unique hkey']
    · rw [hr] at hok
      cases hanswer : a.answer ⟨e, s⟩ with
      | error err =>
          rw [hanswer] at hok
          cases hok
      | ok x => exact absurd hkey (hnone x hanswer key)
  · rcases hdrops with ⟨key', hkey', rfl⟩ | ⟨rfl, -⟩
    · cases List.mem_singleton.mp hevent
      cases houtdates
      exact ⟨rfl, hkey'⟩
    · cases hevent

-- ================================================================= reading

/-- A statement that takes nothing away. -/
theorem account_of_current {a : Action Unit}
    (hwrites : ∀ key, ¬ st.Writes schema t s key)
    (h : Told schema id c a s fun _ _ events =>
      (∀ key, ∀ event ∈ events, ¬ event.Outdates key)
        ∧ (∀ {key i}, st.Yields schema t s key i → Found events key i)
        ∧ ∀ {e}, st.Sees schema t s e → Sighted schema e events) :
    Told schema id c a s fun r _ events => st.Account schema t s r events := by
  refine h.imp ?_
  rintro events ⟨hcurrent, hyields, hsees⟩
  exact ⟨hyields, hsees, fun hkey => absurd hkey (hwrites _),
    fun hevent houtdates => absurd houtdates (hcurrent _ _ hevent)⟩

/-- A statement that does nothing to the caches. -/
theorem account_of_idle {a : Action Unit} (ha : Idle id a)
    (hwrites : ∀ key, ¬ st.Writes schema t s key)
    (hyields : ∀ key i, ¬ st.Yields schema t s key i)
    (hsees : ∀ e, ¬ st.Sees schema t s e) :
    Told schema id c a s fun r _ events => st.Account schema t s r events :=
  account_of_current hwrites (ha.told ⟨fun _ => List.forall_mem_nil _,
    fun h => absurd h (hyields _ _), fun h => absurd h (hsees _)⟩)

/-- A statement that answers with entities. -/
theorem account_of_browses {α : Type} {a : Action α}
    {Q : α → List (CacheEvent InstanceId) → Prop}
    (h : Browses schema id t c Q a) (hs : s.holdings.OnChain t c)
    (hwrites : ∀ key, ¬ st.Writes schema t s key)
    (hyields : ∀ key i, ¬ st.Yields schema t s key i)
    (hsees : ∀ e, st.Sees schema t s e →
      ∃ x, a.answer s = .ok x ∧ ∀ events, Q x events →
        Sighted schema e events) :
    Told schema id c (Action.ignoring a) s fun r _ events =>
      st.Account schema t s r events := by
  refine account_of_current hwrites ((Action.told_ignoring (h s hs)).imp ?_)
  rintro events ⟨-, hreading, hQ⟩
  refine ⟨hreading.not_outdates, fun h => absurd h (hyields _ _),
    fun h => ?_⟩
  obtain ⟨x, hx, hsighted⟩ := hsees _ h
  exact hsighted events (hQ x hx)

/-- A statement that answers with a shared instance, or reads and answers with
none. -/
theorem account_of_found {α : Type} {a : Action α} {g : InstanceId → α}
    (hg : Function.Injective g) {typeName : String} {vs : List Value}
    (h : Told schema id c a s fun r _ events =>
      (ReadingOnly events ∧ ∀ i, r ≠ .ok (g i))
      ∨ ∃ i identity, r = .ok (g i)
        ∧ IdentityKey.ofValues? vs = some identity
        ∧ Found events ⟨typeName, identity⟩ i)
    (hwrites : ∀ key, ¬ st.Writes schema t s key)
    (hyields : ∀ {key i}, st.Yields schema t s key i →
      key.entity = typeName ∧ IdentityKey.ofValues? vs = some key.identity
        ∧ a.answer s = .ok (g i))
    (hsees : ∀ e, ¬ st.Sees schema t s e) :
    Told schema id c (Action.ignoring a) s fun r _ events =>
      st.Account schema t s r events := by
  refine account_of_current hwrites ((Action.told_ignoring h).imp ?_)
  rintro events ⟨-, ⟨hreading, hnone⟩ | ⟨i, identity, hi, hid, hfound⟩⟩
  · refine ⟨hreading.not_outdates, fun hkey => ?_,
      fun h => absurd h (hsees _)⟩
    exact absurd (hyields hkey).2.2 (hnone _)
  · refine ⟨hfound.not_outdates, fun hkey => ?_, fun h => absurd h (hsees _)⟩
    obtain ⟨rfl, hid', hi'⟩ := hyields hkey
    cases hid.symm.trans hid'
    cases hg (Except.ok.inj (hi.symm.trans hi'))
    exact hfound

variable (schema) in
/-- Every statement is accounted for. -/
theorem told_run (st : Statement) (h : s.holdings.OnChain t c) :
    Told schema id c (st.run schema t) s fun r _ events =>
      st.Account schema t s r events := by
  cases st with
  | execute sql params =>
      have hexecute : Composed False True True False t .session .unchecked
          (Action.execute t sql params) := Action.composed_execute sql params
      exact account_of_idle (Action.idle_ignoring hexecute.idle)
        (fun _ h => nomatch h) (fun _ _ h => nomatch h) (fun _ h => nomatch h)
  | query sql params fetch =>
      by_cases hfetch : ∃ typeName, fetch = .entities typeName
      · obtain ⟨typeName, rfl⟩ := hfetch
        refine account_of_browses
          (Action.browses_fetchEntities typeName sql params) h
          (fun _ h => nomatch h) (fun _ _ h => nomatch h) fun e hsees => ?_
        cases hsees with
        | query hanswer he =>
            exact ⟨_, hanswer, fun events hQ => (hQ e he).1⟩
      · -- what is made of rows alone does not need the cache
        have hrun : Composed (fetch.Trusted schema) True True False t .session
            .unchecked (fetch.run schema t sql params) :=
          fetch.composed_run sql params fun typeName h => hfetch ⟨typeName, h⟩
        refine account_of_idle hrun.idle (fun _ h => nomatch h)
          (fun _ _ h => nomatch h) fun e hsees => ?_
        cases hsees with
        | query => exact hfetch ⟨_, rfl⟩
  | select typeName suffix params =>
      refine account_of_browses (Action.browses_select typeName suffix params)
        h (fun _ h => nomatch h) (fun _ _ h => nomatch h) fun e hsees => ?_
      cases hsees with
      | select hanswer he =>
          exact ⟨_, hanswer, fun events hQ => (hQ e he).1⟩
  | selectOptional typeName suffix params =>
      refine account_of_browses
        (Action.browses_selectOptional typeName suffix params) h
        (fun _ h => nomatch h) (fun _ _ h => nomatch h) fun e hsees => ?_
      cases hsees with
      | selectOptional hanswer =>
          exact ⟨_, hanswer, fun events hQ => (hQ e rfl).1⟩
  | find typeName key =>
      refine account_of_browses (Action.browses_find typeName key) h
        (fun _ h => nomatch h) (fun _ _ h => nomatch h) fun e hsees => ?_
      cases hsees with
      | find hanswer =>
          exact ⟨_, hanswer, fun events hQ => (hQ e rfl).1⟩
  | findShared typeName key =>
      refine account_of_found (fun _ _ => Option.some.inj)
        (Action.told_findShared typeName key h) (fun _ h => nomatch h)
        (fun hyields => ?_) (fun _ h => nomatch h)
      cases hyields with
      | findShared hid hfound => exact ⟨rfl, hid, hfound⟩
  | resolve target reference =>
      refine account_of_found Function.injective_id
        (Action.told_resolveReference target reference h)
        (fun _ h => nomatch h) (fun hyields => ?_) (fun _ h => nomatch h)
      cases hyields with
      | resolve hid hfound => exact ⟨rfl, hid, hfound⟩
  | insert e =>
      exact account_of_drops (EntityAction.told_insert h)
        (fun _ _ h => nomatch h) (fun _ h => nomatch h)
  | update e =>
      exact account_of_drops (EntityAction.told_update h)
        (fun _ _ h => nomatch h) (fun _ h => nomatch h)
  | delete e =>
      exact account_of_drops (EntityAction.told_delete h)
        (fun _ _ h => nomatch h) (fun _ h => nomatch h)
  | load b row =>
      refine account_of_browses (Action.browses_load row) h
        (fun _ h => nomatch h) (fun _ _ h => nomatch h) fun e hsees => ?_
      cases hsees with
      | load hb hanswer => exact ⟨_, hanswer, fun events hQ => hQ hb⟩
  | inject e b row =>
      have hinjected : Told schema Workbench.session c _ ⟨e, s⟩ _ :=
        EntityAction.told_inject (b := b) row h
      refine account_of_current (fun _ h => nomatch h)
        ((told_onEntity hinjected).imp ?_)
      rintro events ⟨-, hreading, htype, hsights⟩
      refine ⟨hreading.not_outdates, fun h => (nomatch h),
        fun {e'} hsees => ?_⟩
      cases hsees with
      | inject hb hrun =>
          rw [EStateM.after_of_eq_ok hrun] at htype hsights
          exact EntityBinding.sighted (htype.symm ▸ hb)
            (hsights (EStateM.answer_of_eq_ok hrun))
  | copyOut sql types mapper =>
      have hexported : Composed False True True False t .session .unchecked
          (Action.exported t sql types mapper []) := Action.composed_exported
      rw [run_copyOut]
      exact account_of_idle (Action.idle_ignoring hexported.idle)
        (fun _ h => nomatch h) (fun _ _ h => nomatch h) (fun _ h => nomatch h)

end Statement

end DataAccess
