/-
Actions, run. An action that is run from a state leaves a state behind and
gives an answer, and what it left behind is there whether the answer is a
result or a failure. Everything that is proved about sessions is proved
about these two readings of an action, `after` and `answer`; this file says
how they go through the pieces that actions are put together from, so that
no later proof has to open the monad.

The pieces come in three layers: the monad itself, the actions of a session
that have no transaction of their own (`Session/Basic`), and the changes of a
session that those make. The simp set that is built here takes a do-block
down to a case distinction on the answers of its steps.
-/
import DataAccess.Session.EntityStore

-- ======================================================== the two readings

namespace EStateM

variable {ε σ α β : Type}

/-- The state that an action leaves behind. -/
def after (a : EStateM ε σ α) (s : σ) : σ :=
  match a s with
  | .ok _ s' => s'
  | .error _ s' => s'

/-- What an action comes to. -/
def answer (a : EStateM ε σ α) (s : σ) : Except ε α :=
  match a s with
  | .ok x _ => .ok x
  | .error e _ => .error e

/-- An action is its two readings. -/
theorem apply_eq (a : EStateM ε σ α) (s : σ) :
    a s = match a.answer s with
      | .ok x => .ok x (a.after s)
      | .error e => .error e (a.after s) := by
  unfold after answer
  cases a s <;> rfl

/-- Two readings put an action together again. -/
theorem apply_eq_ok_iff {a : EStateM ε σ α} {s s' : σ} {x : α} :
    a s = .ok x s' ↔ a.answer s = .ok x ∧ a.after s = s' := by
  unfold after answer
  cases a s <;> simp

@[simp] theorem after_get (s : σ) : (get : EStateM ε σ σ).after s = s := rfl

@[simp] theorem answer_get (s : σ) :
    (get : EStateM ε σ σ).answer s = .ok s := rfl

@[simp] theorem after_modify (f : σ → σ) (s : σ) :
    (modify f : EStateM ε σ PUnit).after s = f s := rfl

@[simp] theorem after_modifyGet (f : σ → α × σ) (s : σ) :
    (modifyGet f : EStateM ε σ α).after s = (f s).2 := rfl

/-- What follows on the state, run. -/
theorem get_bind (f : σ → EStateM ε σ β) (s : σ) : (get >>= f) s = f s s := rfl

/-- What follows on a change, run. -/
theorem modify_bind (g : σ → σ) (f : PUnit → EStateM ε σ β) (s : σ) :
    (modify g >>= f) s = f ⟨⟩ (g s) := rfl

/-- What is left behind by a first step and what follows on its result. -/
theorem after_bind (a : EStateM ε σ α) (f : α → EStateM ε σ β) (s : σ) :
    (a >>= f).after s = match a.answer s with
      | .ok x => (f x).after (a.after s)
      | .error _ => a.after s := by
  show (EStateM.bind a f).after s = _
  unfold after answer EStateM.bind
  cases a s <;> rfl

/-- The answer of a first step and what follows on its result. -/
theorem answer_bind (a : EStateM ε σ α) (f : α → EStateM ε σ β) (s : σ) :
    (a >>= f).answer s = match a.answer s with
      | .ok x => (f x).answer (a.after s)
      | .error e => .error e := by
  show (EStateM.bind a f).answer s = _
  unfold after answer EStateM.bind
  cases a s <;> rfl

/-- The readings of an action that is known to have a result. -/
theorem after_of_eq_ok {a : EStateM ε σ α} {x : α} {s s' : σ}
    (h : a s = .ok x s') : a.after s = s' := by
  unfold after
  rw [h]

theorem answer_of_eq_ok {a : EStateM ε σ α} {x : α} {s s' : σ}
    (h : a s = .ok x s') : a.answer s = .ok x := by
  unfold answer
  rw [h]

/-- The readings of an action that is known to fail. -/
theorem after_of_eq_error {a : EStateM ε σ α} {e : ε} {s s' : σ}
    (h : a s = .error e s') : a.after s = s' := by
  unfold after
  rw [h]

theorem answer_of_eq_error {a : EStateM ε σ α} {e : ε} {s s' : σ}
    (h : a s = .error e s') : a.answer s = .error e := by
  unfold answer
  rw [h]

/-- A first step with a result, run. -/
theorem bind_of_eq_ok {a : EStateM ε σ α} {x : α} {s s' : σ}
    (h : a s = .ok x s') (f : α → EStateM ε σ β) : (a >>= f) s = f x s' := by
  show EStateM.bind a f s = _
  unfold EStateM.bind
  rw [h]

/-- A first step that fails, run. -/
theorem bind_of_eq_error {a : EStateM ε σ α} {e : ε} {s s' : σ}
    (h : a s = .error e s') (f : α → EStateM ε σ β) :
    (a >>= f) s = .error e s' := by
  show EStateM.bind a f s = _
  unfold EStateM.bind
  rw [h]

/-- Steps that come to the same are followed by the same. -/
theorem bind_of_eq {a b : EStateM ε σ α} {s s' : σ} (h : a s = b s')
    (f : α → EStateM ε σ β) : (a >>= f) s = (b >>= f) s' := by
  show EStateM.bind a f s = EStateM.bind b f s'
  unfold EStateM.bind
  rw [h]

/-- A step that has a result hands it on. -/
theorem after_bind_ok {a : EStateM ε σ α} {x : α} {s : σ}
    (h : a.answer s = .ok x) (f : α → EStateM ε σ β) :
    (a >>= f).after s = (f x).after (a.after s) := by
  rw [after_bind, h]

/-- A step that fails ends it. -/
theorem after_bind_error {a : EStateM ε σ α} {e : ε} {s : σ}
    (h : a.answer s = .error e) (f : α → EStateM ε σ β) :
    (a >>= f).after s = a.after s := by
  rw [after_bind, h]

/-- What follows a step that answered. -/
theorem answer_bind_ok {a : EStateM ε σ α} {x : α} {s : σ}
    (h : a.answer s = .ok x) (f : α → EStateM ε σ β) :
    (a >>= f).answer s = (f x).answer (a.after s) := by
  rw [answer_bind, h]

theorem answer_bind_error {a : EStateM ε σ α} {e : ε} {s : σ}
    (h : a.answer s = .error e) (f : α → EStateM ε σ β) :
    (a >>= f).answer s = .error e := by
  rw [answer_bind, h]

/-- A run of two steps that succeeds is one of each. -/
theorem bind_eq_ok_iff {a : EStateM ε σ α} {f : α → EStateM ε σ β}
    {s s₂ : σ} {y : β} :
    (a >>= f) s = .ok y s₂ ↔ ∃ x s₁, a s = .ok x s₁ ∧ f x s₁ = .ok y s₂ := by
  show EStateM.bind a f s = _ ↔ _
  unfold EStateM.bind
  cases a s with
  | ok x s₁ =>
      refine ⟨fun h => ⟨x, s₁, rfl, h⟩, ?_⟩
      rintro ⟨_, _, ⟨⟩, h⟩
      exact h
  | error e s₁ =>
      exact ⟨(fun h => nomatch h), (fun ⟨_, _, h, _⟩ => nomatch h)⟩

end EStateM

/-- The same without a state. -/
theorem Except.bind_eq_ok_iff {ε α β : Type} {a : Except ε α}
    {f : α → Except ε β} {y : β} :
    (a >>= f) = .ok y ↔ ∃ x, a = .ok x ∧ f x = .ok y := by
  cases a with
  | ok x =>
      refine ⟨fun h => ⟨x, rfl, h⟩, ?_⟩
      rintro ⟨_, ⟨⟩, h⟩
      exact h
  | error e =>
      exact ⟨(fun h => nomatch h), (fun ⟨_, h, _⟩ => nomatch h)⟩

/-- A result that was mapped comes of a result. -/
theorem Except.exists_of_map_eq_ok {ε α β : Type} {a : Except ε α}
    {f : α → β} {y : β} (h : a.map f = .ok y) : ∃ x, a = .ok x ∧ f x = y := by
  cases a with
  | ok x => exact ⟨x, rfl, Except.ok.inj h⟩
  | error e => cases h

theorem Except.exists_of_isOk {ε α : Type} {a : Except ε α}
    (h : a.isOk = true) : ∃ x, a = .ok x := by
  cases a with
  | ok x => exact ⟨x, rfl⟩
  | error e => cases h

theorem Except.mapError_eq_ok_iff {ε ε' α : Type} {r : Except ε α}
    {f : ε → ε'} {x : α} : r.mapError f = .ok x ↔ r = .ok x := by
  cases r with
  | ok y =>
      constructor
      · rintro ⟨⟩
        rfl
      · rintro ⟨⟩
        rfl
  | error e => exact iff_of_false nofun nofun

namespace DataAccess

-- ================================================= the changes of a session

namespace Session

variable (s : Session) (t : TransactionId)

/-- A change of a chain is a change of one entry of the list of chains. -/
theorem chains_modifyChain (f : Chain → Chain) :
    (s.modifyChain t f).chains = match s.transactions[t]? with
      | some tx => s.chains.modify tx.chain f
      | none => s.chains := by
  unfold modifyChain
  cases s.transactions[t]? <;> rfl

@[simp] theorem config_modifyChain (f : Chain → Chain) :
    (s.modifyChain t f).config = s.config := by
  unfold modifyChain
  cases s.transactions[t]? <;> rfl

@[simp] theorem driver_modifyChain (f : Chain → Chain) :
    (s.modifyChain t f).driver = s.driver := by
  unfold modifyChain
  cases s.transactions[t]? <;> rfl

@[simp] theorem numbers_modifyChain (f : Chain → Chain) :
    (s.modifyChain t f).numbers = s.numbers := by
  unfold modifyChain
  cases s.transactions[t]? <;> rfl

@[simp] theorem transactions_modifyChain (f : Chain → Chain) :
    (s.modifyChain t f).transactions = s.transactions := by
  unfold modifyChain
  cases s.transactions[t]? <;> rfl

/-- The connections of the chains, in the order of the chains. -/
def connections : List (Option Nat) :=
  s.chains.map (·.connection)

/-- A transaction finds its connection under the number of its chain. -/
theorem connectionOf?_eq :
    s.connectionOf? t
      = s.transactions[t]?.bind fun tx => s.connections[tx.chain]?.join := by
  unfold connectionOf? chainOf? connections
  cases s.transactions[t]? with
  | none => rfl
  | some tx =>
      simp only [Option.bind_some, List.getElem?_map]
      cases s.chains[tx.chain]? <;> rfl

/-- A change of the cache leaves every connection where it is. -/
@[simp] theorem connections_modifyCache
    (f : IdentityCache InstanceId → IdentityCache InstanceId) :
    (s.modifyCache t f).connections = s.connections := by
  unfold connections modifyCache
  rw [chains_modifyChain]
  cases s.transactions[t]? with
  | none => rfl
  | some tx =>
      refine List.ext_getElem? fun i => ?_
      simp only [List.getElem?_map, List.getElem?_modify]
      cases s.chains[i]? with
      | none => rfl
      | some c => by_cases hi : tx.chain = i <;> simp [hi]

@[simp] theorem driver_modifyCache
    (f : IdentityCache InstanceId → IdentityCache InstanceId) :
    (s.modifyCache t f).driver = s.driver :=
  s.driver_modifyChain t _

@[simp] theorem config_modifyCache
    (f : IdentityCache InstanceId → IdentityCache InstanceId) :
    (s.modifyCache t f).config = s.config :=
  s.config_modifyChain t _

@[simp] theorem numbers_modifyCache
    (f : IdentityCache InstanceId → IdentityCache InstanceId) :
    (s.modifyCache t f).numbers = s.numbers :=
  s.numbers_modifyChain t _

@[simp] theorem transactions_modifyCache
    (f : IdentityCache InstanceId → IdentityCache InstanceId) :
    (s.modifyCache t f).transactions = s.transactions :=
  s.transactions_modifyChain t _

end Session

-- ================================================ the actions of a session

namespace Action

variable {α : Type} (s : Session) (t : TransactionId)

@[simp] theorem after_attempt (a : Action α) :
    (attempt a).after s = a.after s := by
  simp only [attempt, EStateM.after]
  cases a s <;> rfl

@[simp] theorem answer_attempt (a : Action α) :
    (attempt a).answer s = .ok (a.answer s) := by
  simp only [attempt, EStateM.answer]
  cases a s <;> rfl

@[simp] theorem after_ofExcept (r : Except Error α) :
    (ofExcept r).after s = s := by
  cases r <;> rfl

@[simp] theorem answer_ofExcept (r : Except Error α) :
    (ofExcept r).answer s = r := by
  cases r <;> rfl

@[simp] theorem after_mapError (f : Error → Error) (a : Action α) :
    (mapError f a).after s = a.after s := by
  simp only [mapError, EStateM.after]
  cases a s <;> rfl

@[simp] theorem answer_mapError (f : Error → Error) (a : Action α) :
    (mapError f a).answer s = (a.answer s).mapError f := by
  simp only [mapError, EStateM.answer]
  cases a s <;> rfl

/-- A report, run. -/
theorem report_eq (e : Event) : report e s = .ok () (s.report e) := rfl

/-- A step of the driver changes nothing but the driver. -/
@[simp] theorem after_drive (context : StatementContext)
    (step : Driver.Step α) :
    (drive context step).after s = { s with driver := step.after s.driver } := by
  simp only [drive, EStateM.after]
  cases step s.driver <;> rfl

@[simp] theorem answer_drive (context : StatementContext)
    (step : Driver.Step α) :
    (drive context step).answer s
      = (step.answer s.driver).mapError (Error.ofDriver · context) := by
  simp only [drive, EStateM.answer]
  cases step s.driver <;> rfl

/-- A step of the driver that is answered. -/
theorem drive_of_ok {s : Session} {step : Driver.Step α} {x : α}
    (h : step.answer s.driver = .ok x) (context : StatementContext) :
    drive context step s = .ok x ((drive context step).after s) := by
  refine EStateM.apply_eq_ok_iff.mpr ⟨?_, rfl⟩
  rw [answer_drive, h]
  rfl

/-- A step of the driver that fails. -/
theorem drive_of_error {s : Session} {step : Driver.Step α} {e : DriverError}
    (h : step.answer s.driver = .error e) (context : StatementContext) :
    drive context step s
      = .error (Error.ofDriver e context) ((drive context step).after s) := by
  rw [EStateM.apply_eq (drive context step) s, answer_drive, h]
  rfl

/-- An attempt comes to what the action comes to. -/
theorem attempt_eq (a : Action α) :
    attempt a s = .ok (a.answer s) (a.after s) :=
  EStateM.apply_eq_ok_iff.mpr ⟨answer_attempt s a, after_attempt s a⟩

/-- An attempt at an action that comes to a result, or to a failure, in a
state. -/
theorem attempt_of_ofExcept {s s' : Session} {a : Action α}
    {r : Except Error α} (h : a s = ofExcept r s') :
    attempt a s = .ok r s' := by
  unfold attempt
  rw [h]
  cases r <;> rfl

/-- Taking a number, run. -/
theorem nextNumber_eq :
    nextNumber s = .ok (s.numbers.last + 1) (nextNumber.after s) := rfl

/-- A call on a connection that is there goes to the driver. -/
theorem onConnectionQuietly_eq {s : Session} {t : TransactionId} {c : Nat}
    (hc : s.connectionOf? t = some c) (sql : String) (params : List Value)
    (step : Nat → Driver.Step α) :
    onConnectionQuietly t sql params step s
      = drive (s.context t sql params) (step c) s := by
  unfold onConnectionQuietly
  rw [EStateM.get_bind, hc]

/-- A call on a connection that is there is a call of the driver. -/
theorem after_onConnectionQuietly {s : Session} {t : TransactionId}
    {c : Nat} (hc : s.connectionOf? t = some c) (sql : String)
    (params : List Value) (step : Nat → Driver.Step α) :
    (onConnectionQuietly t sql params step).after s
      = (drive (s.context t sql params) (step c)).after s := by
  unfold EStateM.after
  rw [onConnectionQuietly_eq hc]

/-- It answers as the driver does, with the statement in its failure. -/
theorem answer_onConnectionQuietly {s : Session} {t : TransactionId}
    {c : Nat} (hc : s.connectionOf? t = some c) (sql : String)
    (params : List Value) (step : Nat → Driver.Step α) :
    (onConnectionQuietly t sql params step).answer s
      = ((step c).answer s.driver).mapError
          (Error.ofDriver · (s.context t sql params)) := by
  rw [← answer_drive]
  unfold EStateM.answer
  rw [onConnectionQuietly_eq hc]

/-- A call on a connection that is not there goes nowhere. -/
theorem onConnectionQuietly_released {s : Session} {t : TransactionId}
    (hc : s.connectionOf? t = none) (sql : String) (params : List Value)
    (step : Nat → Driver.Step α) :
    onConnectionQuietly t sql params step s
      = .error (.database .connectionReleased (s.context t sql [])) s := by
  unfold onConnectionQuietly
  rw [EStateM.get_bind, hc]
  rfl

/-- A reported call is a quiet one after its event. -/
theorem onConnection_eq (sql : String) (params : List Value)
    (step : Nat → Driver.Step α) :
    onConnection t sql params step s
      = onConnectionQuietly t sql params step
          (s.report (.statement (s.transaction t).display sql params
            s.config.logParameters)) := rfl

/-- A transaction that is open passes; one that has ended does not. -/
theorem ensureOpen_eq :
    ensureOpen t s = if (s.transaction t).finished
      then .error (s.fault t .finished) s else .ok () s := by
  show (if (s.transaction t).finished = true then throw (s.fault t .finished)
    else pure () : Action Unit) s = _
  split <;> rfl

@[simp] theorem after_ensureOpen : (ensureOpen t).after s = s := by
  simp only [EStateM.after, ensureOpen_eq]
  cases (s.transaction t).finished <;> rfl

/-- A transaction that is finished is refused. -/
theorem answer_ensureOpen :
    (ensureOpen t).answer s = if (s.transaction t).finished
      then .error (s.fault t .finished) else .ok () := by
  simp only [EStateM.answer, ensureOpen_eq]
  cases (s.transaction t).finished <;> rfl

/-- The check for writing is the check for being open and one more. -/
theorem answer_ensureWritable (sql : String) :
    (ensureWritable t sql).answer s = if (s.transaction t).finished
      then .error (s.fault t .finished)
      else if (s.transaction t).readOnly
        then .error (.database .readOnly (s.context t sql []))
        else .ok () := by
  unfold ensureWritable
  rw [EStateM.answer_bind, answer_ensureOpen, after_ensureOpen]
  cases (s.transaction t).finished with
  | true => rfl
  | false =>
      simp only [Bool.false_eq_true, if_false]
      rw [EStateM.answer_bind_ok (EStateM.answer_get s), EStateM.after_get]
      cases (s.transaction t).readOnly <;> rfl

@[simp] theorem after_ensureWritable (sql : String) :
    (ensureWritable t sql).after s = s := by
  unfold ensureWritable
  rw [EStateM.after_bind, after_ensureOpen]
  cases (ensureOpen t).answer s with
  | error e => rfl
  | ok x =>
      show EStateM.after (if (s.transaction t).readOnly = true then
        throw (.database .readOnly (s.context t sql [])) else pure () :
          Action Unit) s = s
      split <;> rfl

end Action

end DataAccess
