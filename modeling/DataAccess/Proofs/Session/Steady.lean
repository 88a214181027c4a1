/-
Sessions on a driver that does not fail. Where no failure is registered, none
comes to be, and a call is recorded as failed only if its answer fails. The
calls that begin and end transactions have no answers that could, and neither
has `execute`: so a unit of work of such statements is run without a failing
call.

`Steady` says this of an action. It goes through the monad step by step, as
`Working` does, but it asks nothing of the session: which calls are made, and
whether any is, is all the same. What the calls are is known from
`Proofs/Session/UnitOfWork`.
-/
import DataAccess.Proofs.Session.UnitOfWork

namespace DataAccess

-- ========================================================= the predicate

/-- An action whose calls do not fail on a driver that does not. -/
def Steady {α : Type} (a : Action α) : Prop :=
  ∀ s : Session, s.driver.Steadily (a.after s).driver

section

variable {α β : Type}

/-- An action that makes no call. -/
theorem steady_quiet {a : Action α}
    (h : ∀ s, (a.after s).driver = s.driver) : Steady a := by
  intro s
  rw [h s]
  exact .refl _

theorem steady_pure (x : α) : Steady (pure x) :=
  steady_quiet fun _ => rfl

theorem steady_throw (e : Error) : Steady (throw e : Action α) :=
  steady_quiet fun _ => rfl

theorem steady_get : Steady (get : Action Session) :=
  steady_quiet fun _ => rfl

/-- What is steady can be done one after the other. -/
theorem Steady.bind {a : Action α} {f : α → Action β} (ha : Steady a)
    (hf : ∀ x, Steady (f x)) : Steady (a >>= f) := by
  intro s
  rw [EStateM.after_bind]
  cases a.answer s with
  | ok x => exact (ha s).trans (hf x _)
  | error e => exact ha s

end

namespace Action

variable {α : Type} {t : TransactionId}

/-- A failure that is kept does not change what the driver went through. -/
theorem steady_attempt {a : Action α} (h : Steady a) :
    Steady (attempt a) := by
  intro s
  rw [after_attempt]
  exact h s

theorem steady_ofExcept (r : Except Error α) : Steady (ofExcept r) :=
  steady_quiet fun s => by rw [after_ofExcept]

theorem steady_ignoring {a : Action α} (h : Steady a) :
    Steady (ignoring a) :=
  h.bind fun _ => steady_pure ()

theorem steady_report (e : Event) : Steady (report e) :=
  steady_quiet fun _ => rfl

/-- Watching an action reads the log, and no more. -/
theorem steady_watch {a : Action α} (h : Steady a) : Steady (watch a) :=
  steady_get.bind fun _ => (steady_attempt h).bind fun _ =>
    steady_get.bind fun _ => steady_pure _

-- =============================================================== the calls

/-- A step of the driver is as steady as the driver. -/
theorem steady_drive {step : Driver.Step α}
    (h : ∀ d : Driver, d.Steadily (step.after d)) (context : StatementContext) :
    Steady (drive context step) := by
  intro s
  rw [after_drive]
  exact h s.driver

/-- The same for a step on the connection of a transaction, if it has one. -/
theorem steady_onConnection {step : Nat → Driver.Step α}
    (h : ∀ (c : Nat) (d : Driver), d.Steadily ((step c).after d))
    (sql : String) (params : List Value) :
    Steady (onConnection t sql params step) := by
  refine steady_get.bind fun s => (steady_report _).bind fun _ => ?_
  intro s
  cases hc : s.connectionOf? t with
  | none =>
      unfold EStateM.after
      rw [onConnectionQuietly_released hc]
      exact .refl _
  | some c =>
      rw [after_onConnectionQuietly hc]
      exact steady_drive (h c) _ s

end Action

namespace Driver

/-- A call without an answer. -/
theorem steadily_acknowledged (connection : Option Nat) (call : Call)
    (d : Driver) :
    d.Steadily ((perform connection call (pure ())).after d) :=
  steadily_perform (fun d => ⟨(), d, rfl, rfl, rfl⟩) connection call d

/-- A connection is opened without a record of a transaction. -/
theorem steadily_connect (d : Driver) : d.Steadily (connect.after d) := by
  refine steadily_perform ?_ none .connect d
  intro d
  exact ⟨_, _, rfl, rfl, rfl⟩

theorem steadily_close (c : Nat) (d : Driver) :
    d.Steadily ((close c).after d) :=
  (steadily_of_eq rfl rfl).trans
    (steadily_acknowledged (some c) .close
      { d with connections := d.connections.set c false })

theorem steadily_execute (c : Nat) (sql : String) (params : List Value)
    (d : Driver) : d.Steadily ((execute c sql params).after d) := by
  refine steadily_perform ?_ (some c) (.execute sql params) d
  intro d
  exact ⟨_, _, rfl, rfl, rfl⟩

end Driver

namespace Action

variable {t : TransactionId}

-- ============================================================= beginning

/-- A root that cannot be begun has its connection closed. -/
theorem steady_begin (readOnly : Bool) : Steady (begin readOnly) := by
  unfold begin
  refine (steady_report _).bind fun _ =>
    (steady_drive Driver.steadily_connect _).bind fun c =>
      (steady_quiet fun _ => rfl).bind fun number =>
        (steady_attempt (steady_drive
          (Driver.steadily_acknowledged (some c) (.begin readOnly)) _)).bind
          fun begun => ?_
  cases begun with
  | error e =>
      refine (steady_attempt (steady_drive (Driver.steadily_close c) _)).bind
        fun closed => ?_
      cases closed <;> exact steady_throw _
  | ok _ => exact (steady_report _).bind fun _ => steady_quiet fun _ => rfl

theorem steady_beginNested (parent : TransactionId) :
    Steady (beginNested parent) := by
  unfold beginNested
  refine steady_get.bind fun s => ?_
  dsimp only
  split
  · exact steady_throw _
  · refine (steady_quiet fun _ => rfl).bind fun number =>
      (steady_onConnection (fun c => Driver.steadily_acknowledged _ _) _ _).bind
        fun _ => (steady_quiet fun _ => rfl).bind fun _ =>
          (steady_report _).bind fun _ => steady_quiet fun _ => rfl

-- ================================================================ ending

theorem steady_clearCache : Steady (clearCache t) :=
  steady_quiet fun s => s.driver_modifyCache t _

theorem steady_endCall (outcome : Outcome) (c : Nat) (d : Driver) :
    d.Steadily ((endCall outcome c).after d) := by
  cases outcome <;> exact Driver.steadily_acknowledged _ _ d

/-- The end of a root is one call, and its connection is closed. -/
theorem steady_endRoot (outcome : Outcome) : Steady (endRoot t outcome) := by
  have htake : Steady (takeConnection t) :=
    steady_quiet fun s => s.driver_modifyChain t _
  unfold endRoot
  refine htake.bind fun taken => ?_
  cases taken with
  | none => exact steady_get.bind fun _ => steady_throw _
  | some c =>
      refine steady_get.bind fun _ => (steady_report _).bind fun _ =>
        (steady_attempt (steady_drive (steady_endCall outcome c) _)).bind
          fun _ =>
        (steady_attempt (steady_drive (Driver.steadily_close c) _)).bind
          fun _ =>
        steady_clearCache.bind fun _ => (steady_report _).bind fun _ =>
          steady_ofExcept _

/-- The end of a nested transaction releases its savepoint. -/
theorem steady_endNested (name : String) (outcome : Outcome) :
    Steady (endNested t name outcome) := by
  have hrevert : Steady (revert t name) :=
    steady_clearCache.bind fun _ =>
      steady_onConnection (fun c => Driver.steadily_acknowledged _ _) _ _
  have hrelease : Steady (onConnection t (releaseStatement name) []
      fun c => Driver.releaseSavepoint c name) :=
    steady_onConnection (fun c => Driver.steadily_acknowledged _ _) _ _
  unfold endNested
  cases outcome with
  | commit =>
      exact (steady_pure _).bind fun _ => (steady_attempt hrelease).bind
        fun _ => steady_get.bind fun _ => (steady_report _).bind fun _ =>
          steady_ofExcept _
  | rollback =>
      exact (steady_attempt hrevert).bind fun _ =>
        (steady_attempt hrelease).bind fun _ => steady_get.bind fun _ =>
          (steady_report _).bind fun _ => steady_ofExcept _

theorem steady_markFinished : Steady (markFinished t) := by
  refine steady_quiet fun s => ?_
  unfold markFinished
  rw [EStateM.after_modify]
  dsimp only
  split <;> rfl

/-- An ending that is refused makes no call. -/
theorem steady_finish (outcome : Outcome) : Steady (finish t outcome) := by
  unfold finish
  refine steady_get.bind fun s => ?_
  dsimp only
  split
  · exact steady_throw _
  · split
    · exact steady_throw _
    · refine (steady_attempt ?_).bind fun _ =>
        steady_markFinished.bind fun _ => steady_ofExcept _
      split
      · exact steady_endRoot outcome
      · exact steady_endNested _ outcome

theorem steady_close : Steady (close t) := by
  unfold close
  refine steady_get.bind fun s => ?_
  dsimp only
  split
  · exact steady_pure ()
  · exact steady_finish _

theorem steady_drop : Steady (drop t) := by
  unfold drop
  refine (steady_attempt steady_close).bind fun closed => ?_
  cases closed with
  | ok _ => exact steady_pure ()
  | error e => exact steady_get.bind fun _ => steady_report _

-- ============================================================== statements

/-- A statement that changes data is one call. -/
theorem steady_execute (sql : String) (params : Params) :
    Steady (execute t sql params) := by
  have hresolve : Steady (resolve t sql params) := by
    unfold resolve
    split
    · exact steady_pure _
    · exact steady_get.bind fun _ => steady_throw _
  unfold execute
  exact hresolve.bind fun bound =>
    (steady_quiet fun s => by rw [after_ensureWritable]).bind fun _ =>
      steady_onConnection
        (fun c => Driver.steadily_execute c bound.sql bound.params) _ _

end Action

theorem Ending.steady_run (t : TransactionId) (how : Ending) :
    Steady (how.run t) := by
  cases how with
  | commit => exact Action.steady_finish .commit
  | rollback => exact Action.steady_finish .rollback
  | close => exact Action.steady_close
  | drop => exact Action.steady_drop

end DataAccess
