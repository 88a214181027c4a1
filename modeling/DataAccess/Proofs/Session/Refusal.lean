/-
Refusals. What speaks against an operation and can be told without the
database is found before anything is sent: parameters that do not resolve, a
transaction that has ended or may only read, an identity that is missing or
is there already, a column that has no stored form.

# The shape of the proofs

An action is `Refused` in a state if it fails there and leaves the state as it
is. Every operation begins with checks, and a check leaves the state as it is
whatever it comes to; so a check refuses, or what follows it does
(`refused_of_check`). Each operation has one lemma, and it says that the
operation is refused unless all of its checks pass. The order of the checks
does not show in any of the statements.

A shared find is no such action, because it has looked into the cache by then.
A look-up changes the order of the entries and the counts of hits and misses,
and nothing else (`Session.Intact`).
-/
import DataAccess.Proofs.Session.Holdings
import DataAccess.Proofs.Session.Stepping

namespace DataAccess

variable {τ α β : Type} {w : τ}

-- ================================================================ refusals

/-- An action that fails in a state and leaves the state as it is. -/
def Refused (a : EStateM Error τ α) (w : τ) : Prop :=
  ∃ e, a w = .error e w

theorem refused_throw (e : Error) :
    Refused (throw e : EStateM Error τ α) w :=
  ⟨e, rfl⟩

/-- A refused step refuses what it is a step of. -/
theorem Refused.bind {a : EStateM Error τ α} (h : Refused a w)
    (f : α → EStateM Error τ β) : Refused (a >>= f) w := by
  obtain ⟨e, he⟩ := h
  exact ⟨e, EStateM.bind_of_eq_error he f⟩

/-- A check refuses, or what follows it does. -/
theorem refused_of_check {a : EStateM Error τ α} {f : α → EStateM Error τ β}
    (hafter : a.after w = w)
    (hf : ∀ x, a.answer w = .ok x → Refused (f x) w) :
    Refused (a >>= f) w := by
  have ha := EStateM.apply_eq a w
  rw [hafter] at ha
  cases hanswer : a.answer w with
  | ok x =>
      rw [hanswer] at ha
      obtain ⟨e, he⟩ := hf x hanswer
      exact ⟨e, (EStateM.bind_of_eq_ok ha f).trans he⟩
  | error e =>
      rw [hanswer] at ha
      exact ⟨e, EStateM.bind_of_eq_error ha f⟩

theorem Refused.after {a : EStateM Error τ α} (h : Refused a w) :
    a.after w = w := by
  obtain ⟨e, he⟩ := h
  exact EStateM.after_of_eq_error he

/-- What is refused fails. -/
theorem Refused.answer {a : EStateM Error τ α} (h : Refused a w) :
    ∃ e, a.answer w = .error e := by
  obtain ⟨e, he⟩ := h
  exact ⟨e, EStateM.answer_of_eq_error he⟩

theorem Refused.ignoring {a : Action α} {s : Session} (h : Refused a s) :
    Refused (Action.ignoring a) s :=
  h.bind _

namespace Session

variable (s : Session) (t : TransactionId)

/-- Whether a transaction must not change data: it has ended, or it may only
read. -/
def Barred : Prop :=
  (s.transaction t).finished = true ∨ (s.transaction t).readOnly = true

end Session

-- ============================================================== statements

namespace Action

variable {s : Session} {t : TransactionId} {sql : String} {params : Params}

/-- A failure that is found before is one, and so is what follows a result. -/
theorem refused_ofExcept {r : Except Error α} {f : α → Action β}
    (h : ∀ x, r = .ok x → Refused (f x) s) :
    Refused (ofExcept r >>= f) s :=
  refused_of_check (after_ofExcept s r) fun x hx =>
    h x ((answer_ofExcept s r).symm.trans hx)

/-- A transaction that is finished refuses everything. -/
theorem refused_ensureOpen (h : (s.transaction t).finished = true) :
    Refused (ensureOpen t) s := by
  rw [Refused, ensureOpen_eq, if_pos h]
  exact ⟨_, rfl⟩

/-- A transaction for reading refuses to write. -/
theorem refused_ensureWritable (h : s.Barred t) (sql : String) :
    Refused (ensureWritable t sql) s := by
  by_cases hfinished : (s.transaction t).finished = true
  · exact (refused_ensureOpen hfinished).bind _
  · refine refused_of_check (after_ensureOpen s t) fun _ _ => ?_
    refine refused_of_check rfl fun s' hs' => ?_
    cases hs'
    rw [if_pos (h.resolve_left hfinished)]
    exact refused_throw _

@[simp] theorem after_resolve : (resolve t sql params).after s = s := by
  unfold resolve
  cases params.resolve sql <;> rfl

/-- Parameters that do not fit are refused. -/
theorem refused_resolve {fault : ParamFault}
    (h : params.resolve sql = .error fault) :
    Refused (resolve t sql params) s := by
  unfold resolve
  rw [h]
  exact ⟨_, rfl⟩

/-- A statement that changes data is refused unless its parameters resolve
and its transaction may change data. -/
theorem refused_execute
    (h : (∃ fault, params.resolve sql = .error fault) ∨ s.Barred t) :
    Refused (execute t sql params) s := by
  rcases h with ⟨fault, hfault⟩ | hbarred
  · exact (refused_resolve hfault).bind _
  · exact refused_of_check after_resolve fun b _ =>
      (refused_ensureWritable hbarred b.sql).bind _

/-- A query is refused unless its parameters resolve and its transaction is
open. -/
theorem refused_fetchMap {f : Row → Action α}
    (h : (∃ fault, params.resolve sql = .error fault)
      ∨ (s.transaction t).finished = true) :
    Refused (fetchMap t sql params f) s := by
  rcases h with ⟨fault, hfault⟩ | hfinished
  · exact (refused_resolve hfault).bind _
  · exact refused_of_check after_resolve fun b _ =>
      ((refused_ensureOpen hfinished).bind _).bind _

variable {schema : Schema} {typeName suffix : String} {id : List Value}

/-- A query for entities is refused like any other. -/
theorem refused_fetchEntities
    (h : (∃ fault, params.resolve sql = .error fault)
      ∨ (s.transaction t).finished = true) :
    Refused (fetchEntities schema t typeName sql params) s :=
  refused_ofExcept fun _ _ => refused_fetchMap h

/-- A selection is refused for its suffix, or for the transaction. -/
theorem refused_select
    (h : (∀ b, EntityBinding.ofType schema typeName = .ok b →
        ∃ fault, params.resolve (withSuffix b.selectStatement suffix)
          = .error fault)
      ∨ (s.transaction t).finished = true) :
    Refused (select schema t typeName suffix params) s := by
  refine refused_ofExcept fun b hb => refused_fetchEntities ?_
  exact h.imp_left fun hparams => hparams b hb

/-- A find is refused unless there is a value for each column of the
identity, and the transaction is open or nothing can be found. -/
theorem refused_find
    (h : ∀ b, EntityBinding.ofType schema typeName = .ok b →
      id.length = b.identityColumns.length →
      (s.transaction t).finished = true ∧ id.any Value.isNull = false) :
    Refused (find schema t typeName id) s := by
  refine refused_ofExcept fun b hb => ?_
  dsimp only
  by_cases hwidth : id.length = b.identityColumns.length
  · obtain ⟨hfinished, hnull⟩ := h b hb hwidth
    rw [if_neg (not_not_intro hwidth), if_neg (Bool.eq_false_iff.mp hnull)]
    exact (refused_fetchEntities (Or.inr hfinished)).bind _
  · rw [if_pos hwidth]
    exact refused_throw _

-- ================================================================== ending

/-- Nothing is begun within a transaction that is finished. -/
theorem refused_beginNested (h : (s.transaction t).finished = true) :
    Refused (beginNested t) s :=
  ⟨_, beginNested_refused (Ledger.not_isOpen_iff.mpr h)⟩

/-- A transaction is not finished twice, nor before what is begun within it. -/
theorem refused_finish {outcome : Outcome}
    (h : (s.transaction t).finished = true
      ∨ 0 < (s.transaction t).openChildren) :
    Refused (finish t outcome) s := by
  obtain ⟨e, he, -⟩ :=
    finish_refused (h.imp_left Ledger.not_isOpen_iff.mpr) outcome
  exact ⟨e, he⟩

/-- Closing ends nothing that has ended already. -/
theorem refused_close (hopen : (s.transaction t).finished = false)
    (h : 0 < (s.transaction t).openChildren) : Refused (close t) s := by
  unfold close
  refine refused_of_check rfl fun s' hs' => ?_
  cases hs'
  dsimp only
  rw [if_neg (Bool.eq_false_iff.mp hopen)]
  exact refused_finish (Or.inr h)

end Action

/-- A query is refused whatever is made of its rows. -/
theorem Fetch.refused_run {schema : Schema} {s : Session} {t : TransactionId}
    {sql : String} {params : Params}
    (h : (∃ fault, params.resolve sql = .error fault)
      ∨ (s.transaction t).finished = true) (fetch : Fetch) :
    Refused (fetch.run schema t sql params) s := by
  have hmap : ∀ {α : Type} (f : Row → Action α),
      Refused (Action.fetchMap t sql params f) s :=
    fun f => Action.refused_fetchMap h
  cases fetch with
  | rows => exact (hmap _).ignoring
  | one => exact ((hmap _).bind _).ignoring
  | optional => exact ((hmap _).bind _).ignoring
  | scalar type => exact (((hmap _).bind _).bind _).ignoring
  | mapped f => exact (hmap _).ignoring
  | records mapper => exact (hmap _).ignoring
  | entities typeName => exact (Action.refused_fetchEntities h).ignoring

-- ================================================================ entities

namespace EntityAction

variable {schema : Schema} {t : TransactionId} {w : Workbench}

theorem refused_ofAction {a : Action α} (h : Refused a w.session) :
    Refused (ofAction a) w := by
  obtain ⟨e, he⟩ := h
  refine ⟨e, ?_⟩
  unfold ofAction
  rw [he]

theorem refused_ofExcept {r : Except Error α} {f : α → EntityAction β}
    (h : ∀ x, r = .ok x → Refused (f x) w) :
    Refused (ofExcept r >>= f) w :=
  refused_of_check (after_ofExcept r w) fun x hx =>
    h x ((answer_ofExcept r w).symm.trans hx)

theorem refused_entity {f : Entity → EntityAction β}
    (h : Refused (f w.entity) w) : Refused (entity >>= f) w :=
  refused_of_check rfl fun _ hx => by
    cases hx
    exact h

/-- A refusal leaves the entity and the session alone. -/
theorem refused_refuse (fault : StatementFault) (sql : String)
    (params : List Value) :
    Refused (refuse (α := α) t fault sql params) w :=
  ⟨_, rfl⟩

/-- What may follow the check for writing follows it in a transaction that
may change data. -/
theorem refused_ensureWritable {sql : String} {f : Unit → EntityAction β}
    (h : ¬ w.session.Barred t → Refused (f ()) w) :
    Refused (ofAction (Action.ensureWritable t sql) >>= f) w := by
  by_cases hbarred : w.session.Barred t
  · exact (refused_ofAction
      (Action.refused_ensureWritable hbarred sql)).bind f
  · refine refused_of_check ?_ fun _ _ => h hbarred
    rw [after_ofAction, Action.after_ensureWritable]

end EntityAction

section

variable (schema : Schema) (s : Session) (t : TransactionId) (e : Entity)

/-- An insert that nothing speaks against: every column has a stored form,
the transaction may change data, and the identity is missing just if it is
generated. -/
structure Insertable : Prop where
  free : ¬ s.Barred t
  stored : ∃ b statement, EntityBinding.ofType schema e.type = .ok b
    ∧ b.insertStatement e = .ok statement
    ∧ b.isTransient e = .ok b.isGenerated

/-- A change by identity that nothing speaks against; `write` is its
statement. -/
structure Changeable
    (write : EntityBinding → Except Error EntityBinding.ChangeStatement) :
    Prop where
  free : ¬ s.Barred t
  stored : ∃ b statement identity, EntityBinding.ofType schema e.type = .ok b
    ∧ write b = .ok statement ∧ b.identity e = .ok (some identity)

end

namespace EntityAction

variable {schema : Schema} {s : Session} {t : TransactionId} {e : Entity}

/-- An insert is refused unless nothing speaks against it. -/
theorem refused_insert (h : ¬ Insertable schema s t e) :
    Refused (insert schema t) ⟨e, s⟩ := by
  refine refused_entity (refused_ofExcept fun b hb => ?_)
  refine refused_ofExcept fun statement hstatement => ?_
  refine refused_ensureWritable fun hfree => ?_
  refine refused_ofExcept fun transient htransient => ?_
  by_cases hsame : transient = b.isGenerated
  · subst hsame
    exact absurd ⟨hfree, b, statement, hb, hstatement, htransient⟩ h
  · cases hgenerated : b.isGenerated with
    | true =>
        cases transient with
        | true => exact absurd hgenerated.symm hsame
        | false => exact refused_ofExcept fun _ _ => refused_refuse _ _ _
    | false =>
        cases transient with
        | true => exact refused_refuse _ _ _
        | false => exact absurd hgenerated.symm hsame

/-- A row is not changed without the right to write, or without an identity. -/
theorem refused_change {b : EntityBinding}
    {statement : EntityBinding.ChangeStatement}
    (h : ¬ s.Barred t → ∀ identity, b.identity e ≠ .ok (some identity)) :
    Refused (change t b statement) ⟨e, s⟩ := by
  refine refused_ensureWritable fun hfree => ?_
  refine Refused.bind (refused_entity (refused_ofExcept fun found hfound => ?_))
    _
  cases found with
  | none => exact refused_refuse _ _ _
  | some identity => exact absurd hfound (h hfree identity)

/-- An update is refused unless nothing speaks against it. -/
theorem refused_update
    (h : ¬ Changeable schema s t e fun b => b.updateStatement e) :
    Refused (update schema t) ⟨e, s⟩ := by
  refine refused_entity (refused_ofExcept fun b hb => ?_)
  refine refused_ofExcept fun statement hstatement => ?_
  exact (refused_change fun hfree identity hidentity =>
    h ⟨hfree, b, statement, identity, hb, hstatement, hidentity⟩).bind _

/-- A delete is refused unless nothing speaks against it. -/
theorem refused_delete
    (h : ¬ Changeable schema s t e fun b => b.deleteStatement e) :
    Refused (delete schema t) ⟨e, s⟩ := by
  refine refused_entity (refused_ofExcept fun b hb => ?_)
  refine refused_ofExcept fun statement hstatement => ?_
  exact refused_change fun hfree identity hidentity =>
    h ⟨hfree, b, statement, identity, hb, hstatement, hidentity⟩

end EntityAction

/-- What is refused on an entity is refused as a statement. -/
theorem Statement.refused_onEntity {s : Session} {e : Entity}
    {a : EntityAction α} (h : Refused a ⟨e, s⟩) :
    Refused (onEntity a e) s := by
  obtain ⟨err, herr⟩ := h
  have hrun : a.run e s = .ok (.error err, e) s := by
    unfold EntityAction.run
    rw [herr]
  refine ⟨err, ?_⟩
  unfold onEntity
  rw [EStateM.bind_of_eq_ok hrun]
  rfl

-- ============================================================ shared finds

namespace Session

variable {s s₁ s₂ : Session} {t : TransactionId}

/-- A session that lost and gained nothing: what is different is at most the
order of the entries in its caches, how often they were looked up, and what
was reported. -/
structure Intact (s s' : Session) : Prop where
  driver : s'.driver = s.driver
  transactions : s'.transactions = s.transactions
  connections : s'.connections = s.connections
  instances : s'.instances = s.instances
  entries : ∀ u key, (s'.cacheOf u).find? key = (s.cacheOf u).find? key

theorem Intact.refl (s : Session) : s.Intact s :=
  ⟨rfl, rfl, rfl, rfl, fun _ _ => rfl⟩

/-- A session that is intact has its transactions as they were. -/
theorem Intact.transaction (h : s.Intact s₁) (t : TransactionId) :
    s₁.transaction t = s.transaction t := by
  unfold Session.transaction
  rw [h.transactions]

/-- A cache that finds what was found before, in the place of the cache. -/
theorem intact_modifyCache
    {f : IdentityCache InstanceId → IdentityCache InstanceId}
    (hf : ∀ key, (f (s.cacheOf t)).find? key = (s.cacheOf t).find? key) :
    s.Intact (s.modifyCache t f) := by
  refine ⟨driver_modifyCache s t f, transactions_modifyCache s t f,
    connections_modifyCache s t f, ?_, fun u key => ?_⟩
  · unfold modifyCache modifyChain
    cases s.transactions[t]? <;> rfl
  · have hkey := hf key
    unfold cacheOf chainOf? at hkey ⊢
    unfold modifyCache
    rw [transactions_modifyChain, chains_modifyChain]
    cases s.transactions[u]? with
    | none => rfl
    | some ux =>
        cases htx : s.transactions[t]? with
        | none => rfl
        | some tx =>
            rw [htx] at hkey
            simp only [Option.bind_some, List.getElem?_modify] at hkey ⊢
            by_cases hchain : tx.chain = ux.chain
            · rw [hchain] at hkey ⊢
              cases hc : s.chains[ux.chain]? with
              | none => rfl
              | some c =>
                  rw [hc] at hkey
                  simpa using hkey
            · simp [hchain]

variable (s t) in
/-- The instance under a key that came from its own row. -/
def loaded? (key : CacheKey) : Option InstanceId :=
  ((s.cacheOf t).find? key).bind fun entry =>
    if entry.loaded then some entry.item else none

end Session

namespace Action

/-- A look-up for a loaded instance leaves everything in its place. -/
theorem intact_cachedLoaded (s : Session) (t : TransactionId)
    (key : CacheKey) : s.Intact ((cachedLoaded t key).after s) := by
  rw [after_cachedLoaded]
  exact Session.intact_modifyCache fun k =>
    IdentityCache.find?_lookUp (s.cacheOf t) key k

/-- The look-up of a shared find shows what is loaded. -/
theorem answer_cachedLoaded_eq (s : Session) (t : TransactionId)
    (key : CacheKey) :
    (cachedLoaded t key).answer s = .ok (s.loaded? t key) := by
  show Except.ok ((s.cacheOf t).getLoaded key).1 = _
  rw [IdentityCache.getLoaded_eq]
  rfl

end Action

end DataAccess
