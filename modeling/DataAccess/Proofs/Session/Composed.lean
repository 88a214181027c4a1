/-
How statements are put together. Every action that runs a statement is made of
a few kinds of parts: it looks at the session, checks what it may do, makes
calls, looks into the cache of its transaction and changes it, edits the entity
that it works on. `Composed` says that an action is made of such parts, and of
which kinds.

Much of what is said about statements holds of the whole since it holds of the
parts: that it is the work of a statement (`Composed.working`), that without
calls it leaves the driver alone (`Composed.quiet`), that without a look at the
session it does not see the driver either (`Composed.blind`), that without the
cache it leaves the caches alone (`Composed.idle`), that it does nothing to the
driver but calls (`Composed.calling`). Each of these is an induction with a case
for each part, and stands with the predicate that it is about. So for an action
of the library there is one lemma, which says how it is put together, and
nothing else has to be proved again when the action changes.
-/
import DataAccess.Proofs.Driver.Calls
import DataAccess.Proofs.Session.Working

namespace DataAccess

-- ================================================================== stages

/-- A state that actions run on, with the session that is in it. -/
structure Stage (τ : Type) where
  view : τ → Session
  put : τ → Session → τ
  view_put : ∀ w s, view (put w s) = s
  put_put : ∀ w s s', put (put w s) s' = put w s'

/-- A session by itself. -/
def Stage.session : Stage Session where
  view := id
  put _ s := s
  view_put _ _ := rfl
  put_put _ _ _ := rfl

/-- A session beside an entity. -/
def Stage.workbench : Stage Workbench where
  view := Workbench.session
  put w s := { w with session := s }
  view_put _ _ := rfl
  put_put _ _ _ := rfl

namespace EntityAction

variable {α β : Type}

/-- What an action leaves behind when it is run beside an entity. -/
theorem after_ofAction (a : Action α) (w : Workbench) :
    (ofAction a).after w = { w with session := a.after w.session } := by
  simp only [ofAction, EStateM.after]
  cases a w.session <;> rfl

theorem answer_ofAction (a : Action α) (w : Workbench) :
    (ofAction a).answer w = a.answer w.session := by
  simp only [ofAction, EStateM.answer]
  cases a w.session <;> rfl

/-- An edit does not touch the session. -/
theorem after_ofEdit (edit : Edit α) (w : Workbench) :
    (ofEdit edit).after w = { w with entity := edit.after w.entity } := by
  simp only [ofEdit, EStateM.after]
  cases edit w.entity <;> rfl

theorem answer_ofEdit (edit : Edit α) (w : Workbench) :
    (ofEdit edit).answer w = edit.answer w.entity := by
  simp only [ofEdit, EStateM.answer]
  cases edit w.entity <;> rfl

/-- Works on an entity, and answers with what `g` makes of it then. -/
def within (a : EntityAction α) (e : Entity) (g : Entity → β) : Action β :=
  fun s =>
    match a ⟨e, s⟩ with
    | .ok _ w => .ok (g w.entity) w.session
    | .error err w => .error err w.session

/-- What is left is the session. -/
theorem after_within (a : EntityAction α) (e : Entity) (g : Entity → β)
    (s : Session) : (a.within e g).after s = (a.after ⟨e, s⟩).session := by
  simp only [within, EStateM.after]
  cases a ⟨e, s⟩ <;> rfl

/-- The answer is read off the entity then. -/
theorem answer_within (a : EntityAction α) (e : Entity) (g : Entity → β)
    (s : Session) :
    (a.within e g).answer s
      = (a.answer ⟨e, s⟩).map fun _ => g (a.after ⟨e, s⟩).entity := by
  simp only [within, EStateM.answer, EStateM.after]
  cases a ⟨e, s⟩ <;> rfl

/-- An entity that is built is worked on, and given back. -/
theorem build_eq (a : EntityAction Unit) (e : Entity) :
    a.build e = a.within e id := by
  funext s
  unfold build within
  cases a ⟨e, s⟩ <;> rfl

/-- An entity that is built is what was made of it. -/
theorem answer_build (a : EntityAction Unit) (e : Entity) (s : Session) :
    (a.build e).answer s
      = (a.answer ⟨e, s⟩).map fun _ => (a.after ⟨e, s⟩).entity := by
  rw [build_eq, answer_within]
  rfl

end EntityAction

/-- As a statement, work on an entity is run for its failures. -/
theorem Statement.onEntity_eq {α : Type} (a : EntityAction α) (e : Entity) :
    Statement.onEntity a e = a.within e fun _ => () := by
  funext s
  show EStateM.bind (a.run e) _ s = _
  unfold EStateM.bind EntityAction.run EntityAction.within
  dsimp only
  cases a ⟨e, s⟩ <;> rfl

-- ============================================================ composition

/-- An action on a transaction is put together from parts. Where it `looks`, it
may look at the session, report, and check what the transaction may do; where it
`calls`, it may make calls that its footing allows; where it `caches`, it may
use the cache of the transaction and share entities. What a caller hands in is
`trusted` not to fail for a connection that is gone. -/
inductive Composed (trusted looks calls caches : Prop) (t : TransactionId) :
    {τ α : Type} → Stage τ → Footing → EStateM Error τ α → Prop
  | ok {τ α : Type} {stage : Stage τ} {footing : Footing} (x : α) :
      Composed trusted looks calls caches t stage footing (pure x)
  | error {τ α : Type} {stage : Stage τ} {footing : Footing} {e : Error}
      (h : trusted → e.Sound) :
      Composed trusted looks calls caches t stage footing
        (throw e : EStateM Error τ α)
  | look {τ : Type} {stage : Stage τ} {footing : Footing} (h : looks) :
      Composed trusted looks calls caches t stage footing get
  | report {footing : Footing} (h : looks) (e : Event) :
      Composed trusted looks calls caches t .session footing (Action.report e)
  /-- What follows a check rests on what the check makes sure of. -/
  | check {τ α : Type} {stage : Stage τ} {footing : Footing}
      {check : EStateM Error τ Unit} {f : Unit → EStateM Error τ α}
      (h : looks) (hafter : ∀ w, check.after w = w) (hsafe : Safe check)
      (hpasses : ∀ w, check.answer w = .ok () →
        footing.Holds (stage.view w).ledger t)
      (hf : Composed trusted looks calls caches t stage footing (f ())) :
      Composed trusted looks calls caches t stage .unchecked (check >>= f)
  | call {footing : Footing} {call : Call} (h : calls)
      (hcall : Action.Allowed footing call) (sql : String)
      (params : List Value) :
      Composed trusted looks calls caches t .session footing
        (Action.onConnectionQuietly t sql params fun c => Driver.ask c call)
  | cache {α : Type} {footing : Footing} {a : Action α} (h : caches)
      (f : IdentityCache InstanceId → α)
      (g : IdentityCache InstanceId →
        IdentityCache InstanceId → IdentityCache InstanceId)
      (ha : ∀ s, a s
        = .ok (f (s.cacheOf t)) (s.modifyCache t (g (s.cacheOf t)))) :
      Composed trusted looks calls caches t .session footing a
  | share {footing : Footing} (h : caches) (e : Entity) :
      Composed trusted looks calls caches t .session footing (Action.share e)
  | edit {α : Type} {footing : Footing} {edit : Edit α}
      (h : trusted → Safe edit) :
      Composed trusted looks calls caches t .workbench footing
        (EntityAction.ofEdit edit)
  /-- What follows on a part is asked for its results only. -/
  | bind {τ α β : Type} {stage : Stage τ} {footing : Footing}
      {a : EStateM Error τ α} {f : α → EStateM Error τ β}
      (ha : Composed trusted looks calls caches t stage footing a)
      (hf : ∀ x, (∃ w, a.answer w = .ok x) →
        Composed trusted looks calls caches t stage footing (f x)) :
      Composed trusted looks calls caches t stage footing (a >>= f)
  | mapError {α : Type} {footing : Footing} {a : Action α}
      {f : Error → Error} (hf : ∀ e : Error, e.Sound → (f e).Sound)
      (ha : Composed trusted looks calls caches t .session footing a) :
      Composed trusted looks calls caches t .session footing
        (Action.mapError f a)
  | beside {α : Type} {footing : Footing} {a : Action α}
      (ha : Composed trusted looks calls caches t .session footing a) :
      Composed trusted looks calls caches t .workbench footing
        (EntityAction.ofAction a)
  | within {α β : Type} {footing : Footing} {a : EntityAction α}
      (ha : Composed trusted looks calls caches t .workbench footing a)
      (e : Entity) (g : Entity → β) :
      Composed trusted looks calls caches t .session footing (a.within e g)

namespace Composed

variable {trusted looks calls caches : Prop} {t : TransactionId} {τ α : Type}
  {stage : Stage τ} {footing : Footing} {a : EStateM Error τ α}

/-- What is put together from the parts of statements is work. -/
theorem working (h : Composed trusted looks calls caches t stage footing a) :
    Working trusted stage.view t footing a := by
  induction h with
  | ok x => exact working_quiet (fun _ => rfl) fun _ => safe_pure x
  | error h =>
      exact working_quiet (fun _ => rfl) fun htrusted => safe_throw (h htrusted)
  | look => exact working_quiet (fun _ => rfl) fun _ w => sound_ok w
  | report => exact working_quiet (fun _ => rfl) fun _ _ => sound_ok ()
  | check _ hafter hsafe hpasses _ ih =>
      exact working_check hafter hsafe hpasses ih
  | call _ hcall =>
      exact Action.working_onConnectionQuietly
        (fun c => Driver.records_ask hcall.isWork c) hcall
  | cache _ f g ha =>
      refine working_quiet (fun s => ?_) fun _ s => ?_
      · rw [EStateM.after_of_eq_ok (ha s)]
        exact s.ledger_modifyCache t _
      · rw [EStateM.answer_of_eq_ok (ha s)]
        exact sound_ok _
  | share => exact working_quiet (fun _ => rfl) fun _ _ => sound_ok _
  | edit h =>
      refine working_quiet (fun w => ?_) fun htrusted w => ?_
      · rw [EntityAction.after_ofEdit]
        rfl
      · rw [EntityAction.answer_ofEdit]
        exact h htrusted w.entity
  | bind _ _ iha ihf => exact iha.bind_of_answer ihf
  | mapError hf _ ih => exact Action.working_mapError ih hf
  | beside _ ih =>
      constructor
      · intro w hw
        rw [EntityAction.after_ofAction]
        exact ih.ledger w.session hw
      · intro htrusted w hw hconnected
        rw [EntityAction.answer_ofAction]
        exact ih.sound htrusted w.session hw hconnected
  | within _ e g ih =>
      constructor
      · intro s hs
        show ∃ entries, (id ((EntityAction.within _ e g).after s)).ledger = _ ∧ _
        rw [EntityAction.after_within]
        exact ih.ledger ⟨e, s⟩ hs
      · intro htrusted s hs hconnected
        rw [EntityAction.answer_within]
        exact (ih.sound htrusted ⟨e, s⟩ hs hconnected).map _

end Composed

-- ============================================================ larger parts

section

variable {trusted looks calls caches : Prop} {t : TransactionId} {α : Type}
  {footing : Footing}

namespace Action

/-- A result that is handed in. -/
theorem composed_ofExcept {r : Except Error α} (h : trusted → Sound r) :
    Composed trusted looks calls caches t .session footing (ofExcept r) := by
  cases r with
  | ok x => exact .ok x
  | error e => exact .error fun htrusted => h htrusted e rfl

theorem composed_ignoring {a : Action α}
    (h : Composed trusted looks calls caches t .session footing a) :
    Composed trusted looks calls caches t .session footing (ignoring a) :=
  h.bind fun _ _ => .ok ()

/-- A tag on the failures of a part. -/
theorem composed_withContext {a : Action α}
    (h : Composed trusted looks calls caches t .session footing a)
    (context : StatementContext) :
    Composed trusted looks calls caches t .session footing
      (mapError (Error.withContext context) a) :=
  h.mapError fun _ he => he.withContext context

/-- What follows the check that a transaction is open. -/
theorem composed_ensureOpen {f : Unit → Action α}
    (h : Composed trusted True calls caches t .session .opened (f ())) :
    Composed trusted True calls caches t .session .unchecked
      (ensureOpen t >>= f) :=
  .check trivial (fun s => after_ensureOpen s t) safe_ensureOpen
    (fun _ => holds_of_ensureOpen) h

/-- What follows the check that it may write. -/
theorem composed_ensureWritable {sql : String} {f : Unit → Action α}
    (h : Composed trusted True calls caches t .session .writable (f ())) :
    Composed trusted True calls caches t .session .unchecked
      (ensureWritable t sql >>= f) :=
  .check trivial (fun s => after_ensureWritable s t sql)
    (safe_ensureWritable sql) (fun _ => holds_of_ensureWritable) h

/-- A call on the connection of the transaction, reported. -/
theorem composed_onConnection (call : Call) (hcall : Allowed footing call)
    (sql : String) (params : List Value) :
    Composed trusted True True caches t .session footing
      (onConnection t sql params fun c => Driver.ask c call) :=
  .bind (.look trivial) fun _ _ => .bind (.report trivial _) fun _ _ =>
    .call trivial hcall sql params

end Action

namespace EntityAction

theorem composed_ofExcept {r : Except Error α} (h : trusted → Sound r) :
    Composed trusted looks calls caches t .workbench footing (ofExcept r) := by
  cases r with
  | ok x => exact .ok x
  | error e => exact .error fun htrusted => h htrusted e rfl

/-- A result that was answered is the one that was given. -/
theorem ofExcept_answer {r : Except Error α} {x : α}
    (h : ∃ w, (ofExcept r).answer w = .ok x) : r = .ok x := by
  obtain ⟨w, hw⟩ := h
  cases r with
  | ok y => exact hw
  | error e => cases hw

/-- The check for writing, made beside an entity. -/
theorem composed_ensureWritable {sql : String} {f : Unit → EntityAction α}
    (h : Composed trusted True calls caches t .workbench .writable (f ())) :
    Composed trusted True calls caches t .workbench .unchecked
      (ofAction (Action.ensureWritable t sql) >>= f) := by
  refine .check trivial (fun w => ?_) (fun w => ?_) (fun w hw => ?_) h
  · rw [after_ofAction, Action.after_ensureWritable]
  · rw [answer_ofAction]
    exact Action.safe_ensureWritable sql w.session
  · rw [answer_ofAction] at hw
    exact Action.holds_of_ensureWritable hw

end EntityAction

end

end DataAccess
