/-
What takes entries out of an identity cache. Writing an entity drops its key;
going back to a savepoint and the end of a root empty the cache; nothing else
takes anything away.

# What is dropped

An entity that is updated or deleted has its identity before. One that is
inserted may get it from the database; then it has it when the statement was
run and the hook for stored entities was not (`Statement.Writes`).

# What is emptied

The cache is emptied when a transaction ends that is a root with its
connection, or nested and rolled back (`Session.Clears`); what the driver
answers plays no part in it.
-/
import DataAccess.Proofs.Session.Browsing

namespace DataAccess

-- ================================================================= writing

namespace EntityAction

variable {α : Type} {schema : Schema} {t : TransactionId} {c : ChainId}
  {b : EntityBinding} {w : Workbench}

/-- Runs the statement of an insert. -/
def store (t : TransactionId) (b : EntityBinding)
    (statement : EntityBinding.InsertStatement) : EntityAction Unit :=
  if b.isGenerated then insertGenerated t b statement
  else insertGiven t statement

/-- The statement of an insert does not look at what is held. -/
theorem idle_store (statement : EntityBinding.InsertStatement) :
    Idle Workbench.session (store t b statement) := by
  have h : Composed False True True False t .workbench .writable
      (store t b statement) := by
    unfold store
    split
    · exact composed_insertGenerated statement
    · exact composed_insertGiven statement
  exact h.idle

/-- Evicting an entity drops its key. -/
theorem told_evict (identity : IdentityKey)
    (h : w.session.holdings.OnChain t c) :
    Told schema Workbench.session c (evict t b identity) w
      fun r _ events => r = .ok ()
        ∧ events = [.dropped ⟨b.typeName, identity⟩] :=
  (told_ofAction (Action.told_evict h _)).imp fun _ hR => hR.1

/-- The end of an insert drops the key that the entity has by then. -/
theorem told_stored (h : w.session.holdings.OnChain t c) :
    Told schema Workbench.session c (afterStoring t b) w fun _ _ events =>
      (∃ identity, b.identity w.entity = .ok (some identity)
        ∧ events = [.dropped ⟨b.typeName, identity⟩])
      ∨ events = []
        ∧ ∀ identity, b.identity w.entity ≠ .ok (some identity) := by
  refine idle_entity.bind_told (fun e h => nomatch h) fun e he => ?_
  cases he
  show Told schema Workbench.session c _ w _
  refine (idle_ofExcept _).bind_told ?_ fun identity hidentity => ?_
  · intro err herr
    rw [answer_ofExcept] at herr
    exact Or.inr ⟨rfl, fun identity h => by rw [herr] at h; cases h⟩
  rw [answer_ofExcept] at hidentity
  rw [after_ofExcept]
  cases identity with
  | none =>
      refine (idle_ofEdit _).told (Or.inr ⟨rfl, fun identity h => ?_⟩)
      rw [hidentity] at h
      cases h
  | some identity =>
      refine (told_evict identity h).bind (fun _ _ _ h => nomatch h.1) ?_
      rintro _ events - - ⟨-, rfl⟩
      refine (idle_ofEdit _).told (Or.inl ⟨identity, hidentity, rfl⟩)

end EntityAction

/-- The key of the entity that a statement writes, as it is written. -/
inductive Statement.Writes (schema : Schema) (t : TransactionId)
    (s : Session) : Statement → CacheKey → Prop where
  | insert {e : Entity} {b : EntityBinding}
      {statement : EntityBinding.InsertStatement} {identity : IdentityKey}
      (hb : EntityBinding.ofType schema e.type = .ok b)
      (hstatement : b.insertStatement e = .ok statement)
      (hidentity : b.identity
          ((EntityAction.store t b statement).after ⟨e, s⟩).entity
        = .ok (some identity)) :
      Writes schema t s (.insert e) ⟨b.typeName, identity⟩
  | update {e : Entity} {b : EntityBinding} {identity : IdentityKey}
      (hb : EntityBinding.ofType schema e.type = .ok b)
      (hidentity : b.identity e = .ok (some identity)) :
      Writes schema t s (.update e) ⟨b.typeName, identity⟩
  | delete {e : Entity} {b : EntityBinding} {identity : IdentityKey}
      (hb : EntityBinding.ofType schema e.type = .ok b)
      (hidentity : b.identity e = .ok (some identity)) :
      Writes schema t s (.delete e) ⟨b.typeName, identity⟩

/-- Keys that are dropped: one of them is, or an action fails. -/
def Drops {α : Type} (keys : CacheKey → Prop) (r : Except Error α)
    (events : List (CacheEvent InstanceId)) : Prop :=
  (∃ key, keys key ∧ events = [.dropped key])
    ∨ events = [] ∧ ∀ x, r = .ok x → ∀ key, ¬ keys key

section

variable {α β : Type} {keys : CacheKey → Prop} {r : Except Error α}
  {events : List (CacheEvent InstanceId)}

/-- An action that fails may drop nothing. -/
theorem drops_error (e : Error) :
    Drops keys (.error e : Except Error α) [] :=
  Or.inr ⟨rfl, fun _ h => nomatch h⟩

/-- After a result it does not matter what follows. -/
theorem Drops.of_ok {x : α} (h : Drops keys (.ok x) events)
    (r' : Except Error β) : Drops keys r' events := by
  rcases h with hdropped | ⟨rfl, hnone⟩
  · exact Or.inl hdropped
  · exact Or.inr ⟨rfl, fun _ _ => hnone x rfl⟩

end

namespace EntityAction

variable {α : Type} {schema : Schema} {t : TransactionId} {c : ChainId}
  {b : EntityBinding} {e : Entity} {s : Session}

/-- What is left of an insert when its statement is run. -/
theorem told_storing {statement : EntityBinding.InsertStatement}
    {a : EntityAction Unit} (h : s.holdings.OnChain t c)
    (hb : EntityBinding.ofType schema e.type = .ok b)
    (hstatement : b.insertStatement e = .ok statement)
    (ha : store t b statement = a) :
    Told schema Workbench.session c (a >>= fun _ => afterStoring t b) ⟨e, s⟩
      fun r _ events =>
        Drops (Statement.Writes schema t s (.insert e)) r events := by
  subst ha
  have hidle : Idle Workbench.session (store t b statement) :=
    idle_store statement
  refine hidle.bind_told (fun _ _ => drops_error _) fun _ _ => ?_
  have hs := hidle ⟨e, s⟩
  refine (told_stored (c := c) (hs ▸ h)).imp ?_
  rintro events (⟨identity, hidentity, rfl⟩ | ⟨rfl, hnone⟩)
  · exact Or.inl ⟨_, .insert hb hstatement hidentity, rfl⟩
  · refine Or.inr ⟨rfl, ?_⟩
    rintro _ - key ⟨hb', hstatement', hidentity⟩
    cases hb.symm.trans hb'
    cases hstatement.symm.trans hstatement'
    exact hnone _ hidentity

/-- Inserting an entity drops its key. -/
theorem told_insert (h : s.holdings.OnChain t c) :
    Told schema Workbench.session c (insert schema t) ⟨e, s⟩
      fun r _ events =>
        Drops (Statement.Writes schema t s (.insert e)) r events := by
  refine idle_entity.bind_told (fun e h => nomatch h) fun _ he => ?_
  cases he
  show Told schema Workbench.session c _ ⟨e, s⟩ _
  refine (idle_ofExcept _).bind_told (fun _ _ => drops_error _) fun b hb => ?_
  rw [answer_ofExcept] at hb
  rw [after_ofExcept]
  refine (idle_ofExcept _).bind_told (fun _ _ => drops_error _)
    fun statement hstatement => ?_
  rw [answer_ofExcept] at hstatement
  rw [after_ofExcept]
  refine (idle_ofAction (Action.idle_ensureWritable t _)).bind_told
    (fun _ _ => drops_error _) fun _ _ => ?_
  rw [after_ofAction, Action.after_ensureWritable]
  refine (idle_ofExcept _).bind_told (fun _ _ => drops_error _)
    fun transient _ => ?_
  rw [after_ofExcept]
  split
  · exact (idle_ofExcept _).bind_told (fun _ _ => drops_error _) fun _ _ =>
      (idle_refuse _ _ _).told (drops_error _)
  · split
    · exact (idle_refuse _ _ _).told (drops_error _)
    · split
      · next hgenerated =>
        exact told_storing h hb hstatement (if_pos hgenerated)
      · next hgenerated =>
        exact told_storing h hb hstatement (if_neg hgenerated)

/-- Requiring an identity leaves the holdings alone. -/
theorem idle_requireIdentity (sql : String) :
    Idle Workbench.session (requireIdentity t b sql) := by
  have h : Composed False True False False t .workbench .unchecked
      (requireIdentity t b sql) := composed_requireIdentity sql
  exact h.idle

/-- The identity that is required is that of the entity. -/
theorem identity_of_requireIdentity {sql : String} {w : Workbench}
    {identity : IdentityKey}
    (h : (requireIdentity t b sql).answer w = .ok identity) :
    b.identity w.entity = .ok (some identity) := by
  unfold requireIdentity at h
  rw [EStateM.answer_bind_ok (a := entity) (x := w.entity) rfl] at h
  cases hidentity : b.identity w.entity with
  | error err =>
      rw [hidentity] at h
      cases h
  | ok found =>
      rw [hidentity] at h
      cases found with
      | none => cases h
      | some identity' =>
          cases h
          rfl

/-- The key that an entity has in the cache. -/
def HasKey (b : EntityBinding) (e : Entity) (key : CacheKey) : Prop :=
  ∃ identity, b.identity e = .ok (some identity)
    ∧ key = ⟨b.typeName, identity⟩

/-- Changing the row of an entity drops its key. -/
theorem told_change (statement : EntityBinding.ChangeStatement)
    (h : s.holdings.OnChain t c) :
    Told schema Workbench.session c (change t b statement) ⟨e, s⟩
      fun r _ events => Drops (HasKey b e) r events := by
  refine (idle_ofAction (Action.idle_ensureWritable t _)).bind_told
    (fun _ _ => drops_error _) fun _ _ => ?_
  rw [after_ofAction, Action.after_ensureWritable]
  refine (idle_requireIdentity _).bind_told (fun _ _ => drops_error _)
    fun identity hidentity => ?_
  have hcalled : Idle Workbench.session
      (ofAction (Action.onConnection t statement.sql statement.params fun c =>
        Driver.execute c statement.sql statement.params)) :=
    idle_ofAction (Action.idle_onConnection _ _ _)
  refine hcalled.bind_told (fun _ _ => drops_error _) fun affected _ => ?_
  refine (told_evict identity ?_).bind (fun _ _ _ h => nomatch h.1) ?_
  · rw [hcalled, idle_requireIdentity]
    exact h
  · rintro _ events - - ⟨-, rfl⟩
    refine (idle_pure affected).told (Or.inl ⟨_, ⟨identity, ?_, rfl⟩, rfl⟩)
    exact identity_of_requireIdentity hidentity

/-- An update writes the key that the entity has. -/
theorem writes_update (hb : EntityBinding.ofType schema e.type = .ok b) :
    Statement.Writes schema t s (.update e) = HasKey b e := by
  funext key
  refine propext ⟨?_, ?_⟩
  · intro h
    cases h with
    | update hb' hidentity =>
        cases hb.symm.trans hb'
        exact ⟨_, hidentity, rfl⟩
  · rintro ⟨identity, hidentity, rfl⟩
    exact .update hb hidentity

/-- So does a deletion. -/
theorem writes_delete (hb : EntityBinding.ofType schema e.type = .ok b) :
    Statement.Writes schema t s (.delete e) = HasKey b e := by
  funext key
  refine propext ⟨?_, ?_⟩
  · intro h
    cases h with
    | delete hb' hidentity =>
        cases hb.symm.trans hb'
        exact ⟨_, hidentity, rfl⟩
  · rintro ⟨identity, hidentity, rfl⟩
    exact .delete hb hidentity

/-- An update drops the key of the entity. -/
theorem told_update (h : s.holdings.OnChain t c) :
    Told schema Workbench.session c (update schema t) ⟨e, s⟩
      fun r _ events =>
        Drops (Statement.Writes schema t s (.update e)) r events := by
  refine idle_entity.bind_told (fun e h => nomatch h) fun _ he => ?_
  cases he
  show Told schema Workbench.session c _ ⟨e, s⟩ _
  refine (idle_ofExcept _).bind_told (fun _ _ => drops_error _) fun b hb => ?_
  rw [answer_ofExcept] at hb
  rw [after_ofExcept, writes_update hb]
  refine (idle_ofExcept _).bind_told (fun _ _ => drops_error _)
    fun statement _ => ?_
  rw [after_ofExcept]
  refine (told_change statement h).bind (fun _ _ _ hdrops => hdrops) ?_
  rintro n events - - hdrops
  refine ((idle_ofEdit _).bind fun _ => idle_pure n).told ?_
  rw [List.append_nil]
  exact hdrops.of_ok _

/-- So does a deletion. -/
theorem told_delete (h : s.holdings.OnChain t c) :
    Told schema Workbench.session c (delete schema t) ⟨e, s⟩
      fun r _ events =>
        Drops (Statement.Writes schema t s (.delete e)) r events := by
  refine idle_entity.bind_told (fun e h => nomatch h) fun _ he => ?_
  cases he
  show Told schema Workbench.session c _ ⟨e, s⟩ _
  refine (idle_ofExcept _).bind_told (fun _ _ => drops_error _) fun b hb => ?_
  rw [answer_ofExcept] at hb
  rw [after_ofExcept, writes_delete hb]
  refine (idle_ofExcept _).bind_told (fun _ _ => drops_error _)
    fun statement _ => ?_
  rw [after_ofExcept]
  exact told_change statement h

end EntityAction

-- ================================================================== ending

namespace Session

variable {s : Session} {t u : TransactionId}

/-- The end of a transaction empties the cache of its chain. -/
structure Clears (s : Session) (t : TransactionId) (outcome : Outcome) :
    Prop where
  isOpen : (s.transaction t).finished = false
  childless : (s.transaction t).openChildren = 0
  root : (s.transaction t).savepoint = none → s.connectionOf? t ≠ none
  nested : (s.transaction t).savepoint ≠ none → outcome = .rollback

/-- What is changed about a transaction, but for its chain. -/
theorem holdings_modifyTransaction {f : Transaction → Transaction}
    (hf : ∀ tx, (f tx).chain = tx.chain) :
    (s.modifyTransaction t f).holdings = s.holdings := by
  unfold modifyTransaction holdings
  simp only [Holdings.mk.injEq, true_and, and_true]
  refine List.ext_getElem? fun i => ?_
  simp only [List.getElem?_map, List.getElem?_modify]
  cases s.transactions[i]? with
  | none => rfl
  | some tx => by_cases hi : t = i <;> simp [hi, hf]

/-- What is changed about a chain, but for its cache. -/
theorem holdings_modifyChain {f : Chain → Chain}
    (hf : ∀ chain, (f chain).cache = chain.cache) :
    (s.modifyChain t f).holdings = s.holdings := by
  unfold modifyChain
  cases s.transactions[t]? with
  | none => rfl
  | some tx =>
      unfold holdings
      simp only [Holdings.mk.injEq, true_and, and_true]
      refine List.ext_getElem? fun i => ?_
      simp only [List.getElem?_map, List.getElem?_modify]
      cases s.chains[i]? with
      | none => rfl
      | some chain => by_cases hi : tx.chain = i <;> simp [hi, hf]

end Session

namespace Action

variable {schema : Schema} {t : TransactionId} {c : ChainId} {s : Session}
  {outcome : Outcome}

theorem idle_takeConnection (t : TransactionId) :
    Idle id (takeConnection t) := fun s =>
  s.holdings_modifyChain (t := t) fun _ => rfl

theorem idle_markFinished (t : TransactionId) : Idle id (markFinished t) := by
  intro s
  show (markFinished t |>.after s).holdings = s.holdings
  unfold markFinished
  rw [EStateM.after_modify]
  cases (s.transaction t).parent with
  | none => exact Session.holdings_modifyTransaction fun _ => rfl
  | some parent =>
      refine (Session.holdings_modifyTransaction ?_).trans
        (Session.holdings_modifyTransaction ?_) <;> exact fun _ => rfl

/-- Emptying the cache, and what follows on it. -/
theorem told_cleared {β : Type} {f : Unit → Action β}
    (h : s.holdings.OnChain t c) (hf : Idle id (f ())) :
    Told schema id c (clearCache t >>= f) s fun _ _ events =>
      events = [.cleared] := by
  refine (told_clearCache h).bind (fun _ _ _ h => nomatch h.1) ?_
  rintro _ events - - ⟨-, rfl⟩
  exact hf.told rfl

/-- The end of a root empties the cache, if there is a connection to end it
on. -/
theorem told_endRoot (h : s.holdings.OnChain t c) :
    Told schema id c (endRoot t outcome) s fun _ _ events =>
      s.connectionOf? t = none ∧ events = []
        ∨ s.connectionOf? t ≠ none ∧ events = [.cleared] := by
  refine (idle_takeConnection t).bind_told (fun _ h => nomatch h)
    fun connection hconnection => ?_
  cases hconnection
  have hs := idle_takeConnection t s
  generalize (takeConnection t).after s = s₁ at hs ⊢
  cases hc : s.connectionOf? t with
  | none =>
      exact (idle_get.bind fun _ => idle_throw _).told (Or.inl ⟨rfl, rfl⟩)
  | some connection =>
      suffices hcleared : Told schema id c _ s₁ fun _ _ events =>
          events = [.cleared] from
        hcleared.imp fun _ hevents => Or.inr ⟨(nomatch ·), hevents⟩
      refine idle_get.bind_told (fun _ h => nomatch h) fun s₂ _ => ?_
      refine (idle_report _).bind_told (fun _ h => nomatch h) fun _ _ => ?_
      refine attempt_bind_told (idle_drive _ _) fun _ s₃ hs₃ => ?_
      refine attempt_bind_told (idle_drive _ _) fun _ s₄ hs₄ => ?_
      refine told_cleared ?_ ((idle_report _).bind fun _ => idle_ofExcept _)
      rw [hs₄, hs₃]
      show s₁.holdings.OnChain t c
      exact hs ▸ h

/-- The end of a nested transaction empties the cache when it goes back to its
savepoint. -/
theorem told_endNested (h : s.holdings.OnChain t c) (savepoint : String) :
    Told schema id c (endNested t savepoint outcome) s fun _ _ events =>
      outcome = .commit ∧ events = []
        ∨ outcome = .rollback ∧ events = [.cleared] := by
  have hrest : ∀ reverted, Idle id (do
      let released ← attempt
        (onConnection t (releaseStatement savepoint) [] fun c =>
          Driver.releaseSavepoint c savepoint)
      report (.nestedEnded ((← get).transaction t).display savepoint outcome)
      ofExcept (firstFailure reverted released)) := fun reverted =>
    (idle_attempt (idle_onConnection _ _ _)).bind fun _ =>
      idle_get.bind fun _ => (idle_report _).bind fun _ => idle_ofExcept _
  cases outcome with
  | commit => exact (hrest _).told (Or.inl ⟨rfl, rfl⟩)
  | rollback =>
      refine (told_attempt (told_cleared h (idle_onConnection _ _ _))).bind
        (fun _ _ _ h => nomatch h.choose_spec.1) ?_
      rintro reverted _ - - ⟨r, ⟨⟩, rfl⟩
      exact (hrest _).told (Or.inr ⟨rfl, rfl⟩)

/-- What follows on the end of a transaction. -/
theorem told_ended {ended : Action Unit} {events : List (CacheEvent InstanceId)}
    (h : Told schema id c ended s fun _ _ events' => events' = events) :
    Told schema id c (do
      let ended ← attempt ended
      markFinished t
      ofExcept ended) s fun _ _ events' => events' = events := by
  refine (told_attempt h).bind (fun _ _ _ h => nomatch h.choose_spec.1) ?_
  rintro ended _ - - ⟨r, ⟨⟩, rfl⟩
  refine ((idle_markFinished t).bind fun _ => idle_ofExcept _).told ?_
  exact List.append_nil _

/-- The end of a transaction empties the cache, or it does nothing to it. -/
theorem told_finish (h : s.holdings.OnChain t c) :
    Told schema id c (finish t outcome) s fun _ _ events =>
      s.Clears t outcome ∧ events = [.cleared]
        ∨ ¬ s.Clears t outcome ∧ events = [] := by
  refine idle_get.bind_told (fun _ h => nomatch h) fun s' hs' => ?_
  cases hs'
  dsimp only
  split
  · -- finished already: nothing is emptied
    next hfinished =>
    refine (idle_throw _).told (Or.inr ⟨fun hclears => ?_, rfl⟩)
    exact Bool.false_ne_true (hclears.isOpen.symm.trans hfinished)
  · next hopen =>
    split
    · -- refused for the sake of its children
      next hchildren =>
      refine (idle_throw _).told (Or.inr ⟨fun hclears => ?_, rfl⟩)
      exact Nat.ne_of_gt hchildren hclears.childless
    · next hchildless =>
      have hfinished := Bool.eq_false_iff.mpr hopen
      have hchildren := Nat.eq_zero_of_not_pos hchildless
      cases hsavepoint : (s.transaction t).savepoint with
      -- a root empties the cache if it has a connection to end on
      | none =>
          have hclears : s.Clears t outcome ↔ s.connectionOf? t ≠ none :=
            ⟨fun hclears => hclears.root hsavepoint, fun hc =>
              ⟨hfinished, hchildren, fun _ => hc, absurd hsavepoint⟩⟩
          rw [hclears]
          obtain ⟨events, hevents, ⟨hc, rfl⟩ | ⟨hc, rfl⟩⟩ :
            Told schema id c (endRoot t outcome) s _ := told_endRoot h
          · exact (told_ended ⟨_, hevents, rfl⟩).imp fun _ he =>
              Or.inr ⟨fun hne => hne hc, he⟩
          · exact (told_ended ⟨_, hevents, rfl⟩).imp fun _ he =>
              Or.inl ⟨hc, he⟩
      -- a nested transaction empties it exactly if it is rolled back
      | some savepoint =>
          have hne : (s.transaction t).savepoint ≠ none := by
            rw [hsavepoint]
            exact nofun
          have hclears : s.Clears t outcome ↔ outcome = .rollback :=
            ⟨fun hclears => hclears.nested hne, fun ho =>
              ⟨hfinished, hchildren, (absurd · hne), fun _ => ho⟩⟩
          rw [hclears]
          obtain ⟨events, hevents, ⟨rfl, rfl⟩ | ⟨rfl, rfl⟩⟩ :
            Told schema id c (endNested t savepoint outcome) s _ :=
            told_endNested h savepoint
          · exact (told_ended ⟨_, hevents, rfl⟩).imp fun _ he =>
              Or.inr ⟨nofun, he⟩
          · exact (told_ended ⟨_, hevents, rfl⟩).imp fun _ he =>
              Or.inl ⟨rfl, he⟩

/-- Closing is ending as is implied. -/
theorem told_close (h : s.holdings.OnChain t c) :
    Told schema id c (close t) s fun _ _ events =>
      let outcome := impliedOutcome (s.transaction t).readOnly
      s.Clears t outcome ∧ events = [.cleared]
        ∨ ¬ s.Clears t outcome ∧ events = [] := by
  refine idle_get.bind_told (fun _ h => nomatch h) fun s' hs' => ?_
  cases hs'
  dsimp only
  split
  · next hfinished =>
    refine (idle_pure ()).told (Or.inr ⟨fun hclears => ?_, rfl⟩)
    exact Bool.false_ne_true (hclears.isOpen.symm.trans hfinished)
  · exact told_finish h

variable (schema) in
/-- However a transaction is ended, that is told by how it ends. -/
theorem told_endingRun (how : Ending) (h : s.holdings.OnChain t c) :
    Told schema id c (how.run t) s fun _ _ events =>
      let outcome := how.outcome (s.transaction t).readOnly
      s.Clears t outcome ∧ events = [.cleared]
        ∨ ¬ s.Clears t outcome ∧ events = [] := by
  cases how with
  | commit => exact told_finish h
  | rollback => exact told_finish h
  | close => exact told_close h
  | drop =>
      refine (told_attempt (told_close h)).bind ?_ ?_
      · rintro _ _ _ ⟨_, hanswer, -⟩
        cases hanswer
      · rintro r events - - ⟨r', ⟨⟩, hevents⟩
        rw [← List.append_nil events] at hevents
        cases r with
        | ok _ => exact (idle_pure ()).told hevents
        | error e =>
            exact (idle_get.bind fun _ => idle_report _).told hevents

end Action

-- =============================================================== beginning

namespace Holdings

variable (h : Holdings)

/-- The holdings with one more transaction on a chain. -/
def placed (c : ChainId) : Holdings :=
  { h with places := h.places ++ [c] }

/-- The holdings with a chain of its own for one more transaction. -/
def withRoot : Holdings :=
  { h.placed h.caches.length with
    caches := h.caches ++ [.empty h.capacity] }

variable {h} {t : TransactionId} {c : ChainId}

theorem OnChain.placed (ht : h.OnChain t c) (c' : ChainId) :
    (h.placed c').OnChain t c := by
  refine ⟨?_, ht.lt⟩
  exact (List.getElem?_append_left
    (List.getElem?_eq_some_iff.mp ht.place).1).trans ht.place

/-- A new root moves no transaction to another chain. -/
theorem OnChain.withRoot (ht : h.OnChain t c) : h.withRoot.OnChain t c := by
  refine ⟨(ht.placed _).place, ?_⟩
  show c < (h.caches ++ _).length
  rw [List.length_append]
  exact Nat.lt_add_right 1 ht.lt

/-- It is on a chain of its own. -/
theorem onChain_withRoot :
    h.withRoot.OnChain h.places.length h.caches.length := by
  refine ⟨List.getElem?_concat_length, ?_⟩
  show _ < (h.caches ++ [_]).length
  rw [List.length_append]
  exact Nat.lt_succ_self _

/-- A new chain has an empty cache, as it had before it was there. -/
theorem cache_withRoot (c : ChainId) : h.withRoot.cache c = h.cache c := by
  unfold cache
  show (h.caches ++ [IdentityCache.empty h.capacity])[c]?.getD
    (.empty h.capacity) = _
  rcases Nat.lt_trichotomy c h.caches.length with hlt | rfl | hgt
  · rw [List.getElem?_append_left hlt]
  · rw [List.getElem?_concat_length, List.getElem?_eq_none (Nat.le_refl _)]
    rfl
  · rw [List.getElem?_eq_none (Nat.le_of_lt hgt), List.getElem?_eq_none]
    rw [List.length_append]
    exact hgt

/-- A transaction that is begun within another is no event of a cache. -/
theorem recounts_placed (schema : Schema) (h : Holdings) (c c' : ChainId) :
    Recounts schema h c [] (h.placed c') :=
  ⟨⟨rfl, trivial, fun ht => ht.placed c', List.prefix_refl _, Nat.le_refl _,
    (nomatch ·)⟩, fun _ _ => rfl⟩

/-- Nor is a root. -/
theorem recounts_withRoot (schema : Schema) (h : Holdings) (c : ChainId) :
    Recounts schema h c [] h.withRoot :=
  ⟨⟨cache_withRoot c, trivial, OnChain.withRoot, List.prefix_refl _,
    Nat.le_refl _, (nomatch ·)⟩, fun c' _ => cache_withRoot c'⟩

end Holdings

namespace Action

variable {schema : Schema} {s : Session}

/-- A root comes with a chain of its own, and an empty cache. -/
theorem holdings_addRoot (connection number : Nat) (display : String)
    (readOnly : Bool) :
    ((addRoot connection number display readOnly).after s).holdings
      = s.holdings.withRoot := by
  unfold addRoot Session.holdings Holdings.withRoot Holdings.placed
  simp only [EStateM.after_modifyGet, List.map_append, List.map_cons,
    List.map_nil, List.length_map]

variable (schema s) in
/-- Beginning a root is no event; it is on a chain that is new. -/
theorem told_begin (readOnly : Bool) :
    Told schema id s.holdings.caches.length (begin readOnly) s
      fun r s' events => events = [] ∧ ∀ t, r = .ok t →
        s'.holdings.OnChain t s.holdings.caches.length := by
  have hfailed : ∀ (e : Error) (s' : Session),
      ([] : List (CacheEvent InstanceId)) = []
        ∧ ∀ t, (.error e : Except Error TransactionId) = .ok t →
          s'.holdings.OnChain t s.holdings.caches.length :=
    fun _ _ => ⟨rfl, fun _ h => nomatch h⟩
  refine (idle_report _).then_told hfailed fun _ s₁ h₁ => ?_
  refine (idle_drive _ _).then_told hfailed fun connection s₂ h₂ => ?_
  have hnumber : Idle id nextNumber := fun _ => rfl
  refine hnumber.then_told hfailed fun number s₃ h₃ => ?_
  refine attempt_bind_told (idle_drive _ _) fun r s₄ h₄ => ?_
  cases r with
  | error e =>
      refine attempt_bind_told (idle_drive _ _) fun r _ _ => ?_
      cases r <;> exact (idle_throw _).told (hfailed _ _)
  | ok _ =>
      refine (idle_report _).then_told hfailed fun _ s₅ h₅ => ?_
      have hs : s₅.holdings = s.holdings :=
        h₅.trans (h₄.trans (h₃.trans (h₂.trans h₁)))
      refine ⟨[], ?_, rfl, ?_⟩
      · show Recounts schema s₅.holdings _ [] (EStateM.after _ s₅).holdings
        rw [holdings_addRoot]
        exact Holdings.recounts_withRoot schema _ _
      · rintro t ⟨⟩
        rw [holdings_addRoot, ← hs]
        have hplaces : s₅.holdings.places.length = s₅.transactions.length :=
          List.length_map _
        rw [← hplaces]
        exact Holdings.onChain_withRoot

/-- A nested transaction is on the chain of its parent. -/
theorem holdings_addNested (parent : TransactionId) (number : Nat)
    (display savepoint : String) :
    ((addNested parent number display savepoint).after s).holdings
      = s.holdings.placed (s.transaction parent).chain := by
  unfold addNested Session.holdings Holdings.placed
  simp only [EStateM.after_modifyGet, List.map_append, List.map_cons,
    List.map_nil]

variable (schema s) in
/-- Beginning a nested transaction is no event. -/
theorem told_beginNested (parent : TransactionId) (c : ChainId) :
    Told schema id c (beginNested parent) s fun _ _ events => events = [] := by
  have hfailed : ∀ (e : Error) (s' : Session),
      ([] : List (CacheEvent InstanceId)) = [] := fun _ _ => rfl
  refine idle_get.then_told hfailed fun s₁ s₂ h₂ => ?_
  dsimp only
  split
  · exact (idle_throw _).told rfl
  · have hnumber : Idle id nextNumber := fun _ => rfl
    refine hnumber.then_told hfailed fun number s₃ h₃ => ?_
    refine (idle_onConnection _ _ _).then_told hfailed fun _ s₄ h₄ => ?_
    have hchild : Idle id (openChild parent) := fun _ =>
      Session.holdings_modifyTransaction fun _ => rfl
    refine hchild.then_told hfailed fun _ s₅ h₅ => ?_
    refine (idle_report _).then_told hfailed fun _ s₆ h₆ => ?_
    refine ⟨[], ?_, rfl⟩
    show Recounts schema s₆.holdings c [] (EStateM.after _ s₆).holdings
    rw [holdings_addNested]
    exact Holdings.recounts_placed schema _ _ _

end Action

end DataAccess
