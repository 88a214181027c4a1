/-
What the mapper of a stream may do. It is handed a row and the transaction of
the stream, and it may remember what it saw before; but it makes no calls
(`Passive`). This holds of every mapper that a stream is opened with: one
that is a function of the rows alone, and the one that makes entities, which
looks into the identity cache of the transaction and adds to it.
-/
import DataAccess.Proofs.Session.Statements
import DataAccess.Session.Stream

namespace DataAccess

variable {τ σ α β : Type} {view : τ → Session}

/-- An action that leaves the driver and the units of work alone. Its state
may hold more than the session, which `view` finds in it. -/
structure Quiet (view : τ → Session) (a : EStateM Error τ α) : Prop where
  driver : ∀ w, (view (a.after w)).driver = (view w).driver
  ledger : ∀ w, (view (a.after w)).ledger = (view w).ledger

/-- A mapper that makes no calls. -/
def Passive (mapper : TransactionId → Row → σ → Action (α × σ)) : Prop :=
  ∀ t row m, Quiet id (mapper t row m)

-- ========================================================= through the monad

theorem quiet_pure (x : α) : Quiet view (pure x : EStateM Error τ α) :=
  ⟨fun _ => rfl, fun _ => rfl⟩

/-- What follows on a step is asked for its results only. -/
theorem Quiet.bind_of_answer {a : EStateM Error τ α}
    {f : α → EStateM Error τ β} (ha : Quiet view a)
    (hf : ∀ x, (∃ w, a.answer w = .ok x) → Quiet view (f x)) :
    Quiet view (a >>= f) := by
  constructor <;> intro w <;> rw [EStateM.after_bind] <;>
    cases hanswer : a.answer w with
    | error e => first | exact ha.driver w | exact ha.ledger w
    | ok x =>
        have hx := hf x ⟨w, hanswer⟩
        first
        | exact (hx.driver _).trans (ha.driver w)
        | exact (hx.ledger _).trans (ha.ledger w)

theorem Quiet.bind {a : EStateM Error τ α} {f : α → EStateM Error τ β}
    (ha : Quiet view a) (hf : ∀ x, Quiet view (f x)) :
    Quiet view (a >>= f) :=
  ha.bind_of_answer fun x _ => hf x

theorem quiet_ofExcept (r : Except Error α) :
    Quiet id (Action.ofExcept r) := by
  constructor <;> intro s <;> rw [Action.after_ofExcept]

theorem Quiet.mapError {a : Action α} (ha : Quiet id a)
    (f : Error → Error) : Quiet id (Action.mapError f a) := by
  constructor <;> intro s <;> rw [Action.after_mapError]
  · exact ha.driver s
  · exact ha.ledger s

/-- The caches are no part of the units of work. -/
theorem quiet_modifyCache {a : Action α} {t : TransactionId}
    (f : Session → IdentityCache InstanceId → IdentityCache InstanceId)
    (h : ∀ s, a.after s = s.modifyCache t (f s)) : Quiet id a := by
  constructor <;> intro s <;> rw [h s]
  · exact s.driver_modifyCache t (f s)
  · exact s.ledger_modifyCache t (f s)

theorem quiet_ofEdit (edit : Edit α) :
    Quiet Workbench.session (EntityAction.ofEdit edit) := by
  constructor <;> intro w <;> rw [EntityAction.after_ofEdit]

theorem quiet_ofAction {a : Action α} (ha : Quiet id a) :
    Quiet Workbench.session (EntityAction.ofAction a) := by
  constructor <;> intro w <;> rw [EntityAction.after_ofAction]
  · exact ha.driver w.session
  · exact ha.ledger w.session

-- ----------------------------------------------------------------- the whole

/-- What is put together without calls leaves the driver and the units of work
alone. -/
theorem Composed.quiet {trusted looks caches : Prop} {t : TransactionId}
    {stage : Stage τ} {footing : Footing} {a : EStateM Error τ α}
    (h : Composed trusted looks False caches t stage footing a) :
    Quiet stage.view a := by
  induction h with
  | ok x => exact quiet_pure x
  | error => exact ⟨fun _ => rfl, fun _ => rfl⟩
  | look => exact ⟨fun _ => rfl, fun _ => rfl⟩
  | report => exact ⟨fun _ => rfl, fun _ => rfl⟩
  | check _ hafter _ _ _ ih =>
      refine Quiet.bind ⟨fun w => ?_, fun w => ?_⟩ fun _ => ih <;> rw [hafter]
  | call h => exact h.elim
  | cache _ f g ha =>
      exact quiet_modifyCache (fun s => g (s.cacheOf _)) fun s =>
        EStateM.after_of_eq_ok (ha s)
  | share => exact ⟨fun _ => rfl, fun _ => rfl⟩
  | edit => exact quiet_ofEdit _
  | bind _ _ iha ihf => exact iha.bind_of_answer ihf
  | mapError _ _ ih => exact ih.mapError _
  | beside _ ih => exact quiet_ofAction ih
  | within _ e g ih =>
      constructor <;> intro s
      · show ((EntityAction.within _ e g).after s).driver = s.driver
        rw [EntityAction.after_within]
        exact ih.driver ⟨e, s⟩
      · show ((EntityAction.within _ e g).after s).ledger = s.ledger
        rw [EntityAction.after_within]
        exact ih.ledger ⟨e, s⟩

-- =================================================================== mappers

/-- Filling an entity from a row makes no calls. -/
theorem quiet_inject (schema : Schema) (t : TransactionId) (b : EntityBinding)
    (row : Row) :
    Quiet Workbench.session (EntityAction.inject schema t b row) := by
  have h : Composed False False False True t .workbench .unchecked
      (EntityAction.inject schema t b row) := EntityAction.composed_inject row
  exact h.quiet

/-- Nor does loading one, whatever its hook does. -/
theorem quiet_load (schema : Schema) (t : TransactionId) (b : EntityBinding)
    (row : Row) : Quiet id (Action.load schema t b row) := by
  have h : Composed False False False True t .session .unchecked
      (Action.load schema t b row) := Action.composed_load False.elim row
  exact h.quiet

/-- What is made of rows by themselves. -/
theorem passive_rows (f : Row → σ → Except Error (α × σ)) :
    Passive fun _ row m => Action.ofExcept (f row m) :=
  fun _ row m => quiet_ofExcept (f row m)

theorem passive_entityMapper (schema : Schema) (b : EntityBinding) :
    Passive (QueryStream.entityMapper schema b) :=
  fun t row _ => (quiet_load schema t b row).bind fun _ => quiet_pure _

end DataAccess
