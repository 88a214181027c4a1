/-
What a mapper sees. It may look at the units of work and their caches, and at
the shared instances; it sees neither the driver nor what was reported
(`Blind`). So it makes the same of a row whether the row was fetched by itself
or came with all the others: between the two sessions there is no difference
that it could see.

A call on the driver, on the other hand, changes nothing that a mapper can see
(`Keeps Session.undriven`). This holds of a query as of the calls that a
stream is opened with.
-/
import DataAccess.Proofs.Stream.Steps

namespace DataAccess

open DataAccess.Action

variable {τ σ α β : Type}

-- ============================================================ what is seen

/-- A session without its driver, and without what was reported. -/
def Session.undriven (s : Session) : Session :=
  { s with driver := Driver.empty, events := [] }

/-- The same of a session together with an entity. -/
def Workbench.undriven (w : Workbench) : Workbench :=
  { w with session := w.session.undriven }

/-- An action that comes to the same whatever its state is besides what
`view` shows of it. -/
structure Blind (view : τ → τ) (a : EStateM Error τ α) : Prop where
  answer : ∀ w, a.answer (view w) = a.answer w
  after : ∀ w, view (a.after (view w)) = view (a.after w)

-- ===================================================== through the monad

section

variable {view : τ → τ}

/-- What follows on a step is asked for its results only. -/
theorem Blind.bind_of_answer {a : EStateM Error τ α}
    {f : α → EStateM Error τ β} (ha : Blind view a)
    (hf : ∀ x, (∃ w, a.answer w = .ok x) → Blind view (f x)) :
    Blind view (a >>= f) := by
  constructor
  · intro w
    rw [EStateM.answer_bind, EStateM.answer_bind, ha.answer]
    cases hanswer : a.answer w with
    | error e => rfl
    | ok x =>
        have hx := hf x ⟨w, hanswer⟩
        show (f x).answer _ = (f x).answer _
        rw [← hx.answer, ha.after, hx.answer]
  · intro w
    rw [EStateM.after_bind, EStateM.after_bind, ha.answer]
    cases hanswer : a.answer w with
    | error e => exact ha.after w
    | ok x =>
        have hx := hf x ⟨w, hanswer⟩
        show view ((f x).after _) = view ((f x).after _)
        rw [← hx.after, ha.after, hx.after]

theorem Blind.bind {a : EStateM Error τ α} {f : α → EStateM Error τ β}
    (ha : Blind view a) (hf : ∀ x, Blind view (f x)) :
    Blind view (a >>= f) :=
  ha.bind_of_answer fun x _ => hf x

/-- Two states that look the same are the same to it. -/
theorem Blind.answer_eq {a : EStateM Error τ α} (h : Blind view a) {w w' : τ}
    (hview : view w = view w') : a.answer w = a.answer w' := by
  rw [← h.answer w, hview, h.answer]

/-- They are the same to it afterwards, too. -/
theorem Blind.after_eq {a : EStateM Error τ α} (h : Blind view a) {w w' : τ}
    (hview : view w = view w') : view (a.after w) = view (a.after w') := by
  rw [← h.after w, hview, h.after]

end

theorem blind_pure (x : α) : Blind Session.undriven (pure x : Action α) :=
  ⟨fun _ => rfl, fun _ => rfl⟩

theorem blind_ofExcept (r : Except Error α) :
    Blind Session.undriven (Action.ofExcept r) := by
  constructor <;> intro s <;> cases r <;> rfl

theorem Blind.mapError {a : Action α} (h : Blind Session.undriven a)
    (f : Error → Error) : Blind Session.undriven (Action.mapError f a) := by
  constructor <;> intro s
  · rw [answer_mapError, answer_mapError, h.answer]
  · rw [after_mapError, after_mapError, h.after]

-- ================================================================= caches

namespace Session

variable (s : Session) (t : TransactionId)

/-- A cache can be changed with the driver out of sight. -/
theorem undriven_modifyCache
    (f : IdentityCache InstanceId → IdentityCache InstanceId) :
    (s.modifyCache t f).undriven = s.undriven.modifyCache t f := by
  unfold modifyCache modifyChain undriven
  cases s.transactions[t]? <;> rfl

end Session

/-- A look-up in a cache, or a change of one, sees the cache only. -/
theorem blind_modifyCache {a : Action α} {t : TransactionId}
    (f : IdentityCache InstanceId → α)
    (g : IdentityCache InstanceId →
      IdentityCache InstanceId → IdentityCache InstanceId)
    (h : ∀ s, a s
      = .ok (f (s.cacheOf t)) (s.modifyCache t (g (s.cacheOf t)))) :
    Blind Session.undriven a := by
  constructor <;> intro s
  · rw [EStateM.answer_of_eq_ok (h s), EStateM.answer_of_eq_ok (h _)]
    rfl
  · rw [EStateM.after_of_eq_ok (h s), EStateM.after_of_eq_ok (h _),
      Session.undriven_modifyCache, Session.undriven_modifyCache]
    rfl

-- =============================================================== entities

/-- An edit sees the entity only. -/
theorem blind_ofEdit (edit : Edit α) :
    Blind Workbench.undriven (EntityAction.ofEdit edit) := by
  constructor <;> intro w <;>
    simp only [EntityAction.ofEdit, EStateM.answer, EStateM.after,
      Workbench.undriven] <;>
    cases edit w.entity <;> rfl

theorem blind_ofAction {a : Action α} (h : Blind Session.undriven a) :
    Blind Workbench.undriven (EntityAction.ofAction a) := by
  constructor <;> intro w
  · rw [EntityAction.answer_ofAction, EntityAction.answer_ofAction]
    exact h.answer w.session
  · rw [EntityAction.after_ofAction, EntityAction.after_ofAction]
    exact congrArg (Workbench.mk w.entity) (h.after w.session)

/-- What is made of an entity is made of it by work that sees nothing. -/
theorem blind_within {a : EntityAction α} (h : Blind Workbench.undriven a)
    (e : Entity) (g : Entity → β) : Blind Session.undriven (a.within e g) := by
  constructor <;> intro s
  · have hentity := congrArg Workbench.entity (h.after ⟨e, s⟩)
    rw [EntityAction.answer_within, EntityAction.answer_within]
    show (a.answer (Workbench.undriven ⟨e, s⟩)).map
      (fun _ => g (a.after (Workbench.undriven ⟨e, s⟩)).entity) = _
    rw [h.answer]
    exact congrArg (fun e => (a.answer _).map fun _ => g e) hentity
  · rw [EntityAction.after_within, EntityAction.after_within]
    exact congrArg Workbench.session (h.after ⟨e, s⟩)

-- ----------------------------------------------------------------- the whole

/-- A state of actions, without the driver of its session. -/
def Stage.undriven (stage : Stage τ) (w : τ) : τ :=
  stage.put w (stage.view w).undriven

/-- What is out of sight is out of sight. -/
theorem Stage.undriven_undriven (stage : Stage τ) (w : τ) :
    stage.undriven (stage.undriven w) = stage.undriven w := by
  unfold undriven
  rw [stage.view_put, stage.put_put]
  rfl

/-- What is put together without a look at the session, and without calls,
sees nothing of the driver. -/
theorem Composed.blind {trusted caches : Prop} {t : TransactionId}
    {stage : Stage τ} {footing : Footing} {a : EStateM Error τ α}
    (h : Composed trusted False False caches t stage footing a) :
    Blind stage.undriven a := by
  induction h with
  | ok => exact ⟨fun _ => rfl, fun w => Stage.undriven_undriven _ w⟩
  | error => exact ⟨fun _ => rfl, fun w => Stage.undriven_undriven _ w⟩
  | look h => exact h.elim
  | report h => exact h.elim
  | check h => exact h.elim
  | call h => exact h.elim
  | cache _ f g ha => exact blind_modifyCache f g ha
  | share => exact ⟨fun _ => rfl, fun _ => rfl⟩
  | edit => exact blind_ofEdit _
  | bind _ _ iha ihf => exact iha.bind_of_answer ihf
  | mapError _ _ ih => exact Blind.mapError ih _
  | beside _ ih => exact blind_ofAction ih
  | within _ e g ih => exact blind_within ih e g

/-- Loading sees the caches and the row. -/
theorem blind_load (schema : Schema) (t : TransactionId) (b : EntityBinding)
    (row : Row) : Blind Session.undriven (load schema t b row) := by
  have h : Composed False False False True t .session .unchecked
      (load schema t b row) := composed_load False.elim row
  exact h.blind

-- ================================================================= mappers

namespace QueryStream

/-- What is made of a row by a mapper that sees nothing of the driver. -/
theorem blind_makeRow {mapper : TransactionId → Row → σ → Action (α × σ)}
    {t : TransactionId} (h : ∀ row m, Blind Session.undriven (mapper t row m))
    (resolver : ColumnResolver) (values : List Value) (memory : σ) :
    Blind Session.undriven (makeRow mapper t resolver values memory) :=
  (blind_ofExcept _).bind fun row => h row memory

/-- So does the mapper of a stream of entities. -/
theorem blind_entityMapper (schema : Schema) (b : EntityBinding)
    (t : TransactionId) (row : Row) (memory : Unit) :
    Blind Session.undriven (entityMapper schema b t row memory) :=
  (blind_load schema t b row).bind fun _ => blind_pure _

end QueryStream

-- ================================================================== calls

/-- A call changes nothing that a mapper can see. -/
theorem undriven_drive (context : StatementContext) (step : Driver.Step α) :
    Keeps Session.undriven (drive context step) := by
  intro s
  rw [after_drive]
  rfl

theorem undriven_attempt {a : Action α} (h : Keeps Session.undriven a) :
    Keeps Session.undriven (attempt a) := by
  intro s
  rw [after_attempt]
  exact h s

theorem undriven_ensureOpen (t : TransactionId) :
    Keeps Session.undriven (ensureOpen t) := by
  intro s
  rw [after_ensureOpen]

/-- Reports are out of sight, and so is what the driver does. -/
theorem undriven_onConnection (t : TransactionId) (sql : String)
    (params : List Value) (step : Nat → Driver.Step α) :
    Keeps Session.undriven (onConnection t sql params step) := by
  have hquietly : Keeps Session.undriven
      (onConnectionQuietly t sql params step) := by
    intro s
    cases hc : s.connectionOf? t with
    | none =>
        rw [EStateM.after_of_eq_error (onConnectionQuietly_released hc ..)]
    | some c =>
        rw [after_onConnectionQuietly hc]
        exact undriven_drive _ _ s
  exact Keeps.bind (fun _ => rfl) fun _ =>
    Keeps.bind (fun _ => rfl) fun _ => hquietly

theorem undriven_runQuery (t : TransactionId) (b : BoundStatement) :
    Keeps Session.undriven (runQuery t b) :=
  (undriven_ensureOpen t).bind fun _ =>
    undriven_onConnection _ _ _ _

/-- All that opening a stream does is out of sight. -/
theorem QueryStream.undriven_acquire (q : QueryStream σ α)
    (t : TransactionId) (params : List Value) :
    Keeps Session.undriven (q.acquire t params) := by
  unfold acquire
  refine (undriven_attempt ((undriven_ensureOpen t).bind fun _ =>
    undriven_onConnection _ _ _ _)).bind fun prepared => ?_
  cases prepared with
  | error e => exact fun _ => rfl
  | ok statement =>
      refine Keeps.bind (fun _ => rfl) fun s => ?_
      refine (undriven_attempt ((undriven_ensureOpen t).bind fun _ =>
        undriven_onConnection _ _ _ _)).bind fun opened => ?_
      cases opened with
      | error e => exact fun _ => rfl
      | ok opened =>
          exact Keeps.bind (fun _ => rfl) fun _ =>
            Keeps.bind (fun _ => rfl) fun _ _ => rfl

end DataAccess
