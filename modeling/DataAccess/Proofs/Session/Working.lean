/-
What a statement may do to a session. Whatever is run on a transaction
leaves the units of work as they are and only adds records to the ledger:
calls of a statement, on the connection of the transaction, while it is open,
and calls that change data only while it is writable.

`Working` says this of an action. Its second half is about failures: where
an open transaction has its connection, none of them is for a connection
that is gone, provided that the functions the caller hands in (mappers and
hooks) do not fail like that by themselves.

# The shape of the proofs

`Working` goes through the monad step by step (`Working.bind_of_answer`). A
check at the beginning of a statement gives what the calls after it rest on,
its `Footing`; since nothing a statement does changes a transaction, a footing
that is gained is kept to the end. Here are the lemmas for the parts that
statements are put together from, one for each; that every statement is put
together from such parts is said in `Proofs/Session/Statements`.
-/
import DataAccess.Proofs.Error.Telling
import DataAccess.Proofs.Session.Ledger
import DataAccess.Proofs.Session.Operation

namespace DataAccess

-- ========================================================= the predicate

/-- What a statement has made sure of about its transaction. -/
inductive Footing where
  | unchecked
  | opened
  | writable

/-- What a footing says about a ledger. -/
def Footing.Holds (l : Ledger) (t : TransactionId) : Footing → Prop
  | .unchecked => True
  | .opened => l.IsOpen t
  | .writable => l.IsOpen t ∧ (l.transaction t).readOnly = false

/-- Records do not change what a footing says. -/
theorem Footing.holds_record {l : Ledger} {t : TransactionId}
    {footing : Footing} {entries : List CallRecord} :
    footing.Holds (l.record entries) t ↔ footing.Holds l t := by
  cases footing <;> exact Iff.rfl

/-- Each footing that calls are made on says that the transaction is open. -/
theorem Footing.Holds.isOpen {l : Ledger} {t : TransactionId}
    {footing : Footing} (h : footing.Holds l t)
    (hchecked : footing ≠ .unchecked) : l.IsOpen t := by
  cases footing with
  | unchecked => exact absurd rfl hchecked
  | opened => exact h
  | writable => exact h.1

/-- An action that does nothing but the work of a statement. Its state may
hold more than the session, which `view` finds in it. -/
structure Working {σ α : Type} (trusted : Prop) (view : σ → Session)
    (t : TransactionId) (footing : Footing) (a : EStateM Error σ α) :
    Prop where
  ledger : ∀ w, footing.Holds (view w).ledger t →
    ∃ entries, (view (a.after w)).ledger = (view w).ledger.record entries
      ∧ ∀ entry ∈ entries, (view w).ledger.Admits t entry
  sound : trusted → ∀ w, footing.Holds (view w).ledger t →
    (view w).ledger.Connected t → Sound (a.answer w)

-- ========================================================= through the monad

section

variable {σ α β : Type} {trusted : Prop} {view : σ → Session}
  {t : TransactionId} {footing : Footing}

/-- An action that the ledger does not notice. -/
theorem working_quiet {a : EStateM Error σ α}
    (hledger : ∀ w, (view (a.after w)).ledger = (view w).ledger)
    (hsafe : trusted → Safe a) : Working trusted view t footing a := by
  constructor
  · intro w _
    exact ⟨[], by rw [hledger w, Ledger.record_nil], fun _ h => by cases h⟩
  · intro htrusted w _ _
    exact hsafe htrusted w

/-- Work followed by work is work: what the first part recorded is no
obstacle to the second. The second part is asked for results of the first
only. -/
theorem Working.bind_of_answer {a : EStateM Error σ α}
    {f : α → EStateM Error σ β} (ha : Working trusted view t footing a)
    (hf : ∀ x, (∃ w, a.answer w = .ok x) →
      Working trusted view t footing (f x)) :
    Working trusted view t footing (a >>= f) := by
  constructor
  · intro w hw
    obtain ⟨entries, hledger, hadmits⟩ := ha.ledger w hw
    cases hx : a.answer w with
    | error e =>
        rw [EStateM.after_bind_error hx]
        exact ⟨entries, hledger, hadmits⟩
    | ok x =>
        rw [EStateM.after_bind_ok hx]
        have hw' : footing.Holds (view (a.after w)).ledger t := by
          rw [hledger]
          exact Footing.holds_record.mpr hw
        obtain ⟨more, hmore, hadmits'⟩ := (hf x ⟨w, hx⟩).ledger _ hw'
        refine ⟨entries ++ more, ?_, ?_⟩
        · rw [hmore, hledger, Ledger.record_record]
        · intro entry hentry
          rcases List.mem_append.mp hentry with h | h
          · exact hadmits entry h
          · have hentry' := hadmits' entry h
            rw [hledger] at hentry'
            exact (Ledger.admits_record _ _ _ _).mp hentry'
  · intro htrusted w hw hconnected
    obtain ⟨entries, hledger, -⟩ := ha.ledger w hw
    have hfirst := ha.sound htrusted w hw hconnected
    cases hx : a.answer w with
    | error e =>
        rw [EStateM.answer_bind_error hx]
        exact sound_error (hfirst e hx)
    | ok x =>
        rw [EStateM.answer_bind_ok hx]
        refine (hf x ⟨w, hx⟩).sound htrusted _ ?_ ?_
        · rw [hledger]
          exact Footing.holds_record.mpr hw
        · rw [hledger]
          exact (Ledger.connected_record _ _ _).mpr hconnected

/-- What follows a check can rest on what the check makes sure of. -/
theorem working_check {check : EStateM Error σ Unit}
    {f : Unit → EStateM Error σ α}
    (hafter : ∀ w, check.after w = w) (hsafe : Safe check)
    (hpasses : ∀ w, check.answer w = .ok () →
      footing.Holds (view w).ledger t)
    (h : Working trusted view t footing (f ())) :
    Working trusted view t .unchecked (check >>= f) := by
  constructor
  · intro w _
    cases hx : check.answer w with
    | error e =>
        rw [EStateM.after_bind_error hx, hafter]
        exact ⟨[], (Ledger.record_nil _).symm, fun _ h => by cases h⟩
    | ok x =>
        rw [EStateM.after_bind_ok hx, hafter]
        exact h.ledger w (hpasses w hx)
  · intro htrusted w _ hconnected
    cases hx : check.answer w with
    | error e =>
        rw [EStateM.answer_bind_error hx]
        exact sound_error (hsafe w e hx)
    | ok x =>
        rw [EStateM.answer_bind_ok hx, hafter]
        exact h.sound htrusted w (hpasses w hx) hconnected

end

-- ==================================================== actions of a session

namespace Action

variable {α : Type} {trusted : Prop} {t : TransactionId} {footing : Footing}

/-- A failure that is told otherwise leaves it work. -/
theorem working_mapError {a : Action α} (h : Working trusted id t footing a)
    {f : Error → Error} (hf : ∀ e : Error, e.Sound → (f e).Sound) :
    Working trusted id t footing (mapError f a) := by
  constructor
  · intro s hs
    rw [after_mapError]
    exact h.ledger s hs
  · intro htrusted s hs hconnected
    rw [answer_mapError]
    have hanswer := h.sound htrusted s hs hconnected
    cases hr : a.answer s with
    | ok x => exact sound_ok x
    | error e => exact sound_error (hf e (hanswer e hr))

-- ============================================================== the checks

/-- A transaction that is finished is refused for that. -/
theorem safe_ensureOpen : Safe (ensureOpen t) := by
  intro s
  rw [answer_ensureOpen]
  split
  · exact sound_error (Error.sound_database (by simp))
  · exact sound_ok ()

theorem safe_ensureWritable (sql : String) : Safe (ensureWritable t sql) := by
  intro s
  rw [answer_ensureWritable]
  split
  · exact sound_error (Error.sound_database (by simp))
  · split
    · exact sound_error (Error.sound_database (by simp))
    · exact sound_ok ()

/-- After the check that a transaction is open it is. -/
theorem holds_of_ensureOpen {s : Session}
    (h : (ensureOpen t).answer s = .ok ()) : Footing.opened.Holds s.ledger t := by
  rw [answer_ensureOpen] at h
  split at h
  · cases h
  · next hfinished => exact Bool.eq_false_iff.mpr hfinished

/-- After the check that a transaction may change data it may. -/
theorem holds_of_ensureWritable {s : Session} {sql : String}
    (h : (ensureWritable t sql).answer s = .ok ()) :
    Footing.writable.Holds s.ledger t := by
  rw [answer_ensureWritable] at h
  split at h
  · cases h
  · next hfinished =>
    split at h
    · cases h
    · next hreadOnly =>
      exact ⟨Bool.eq_false_iff.mpr hfinished, Bool.eq_false_iff.mpr hreadOnly⟩

-- =============================================================== the calls

/-- A call that a footing allows. -/
structure Allowed (footing : Footing) (call : Call) : Prop where
  checked : footing ≠ .unchecked
  isWork : call.isWork
  writable : call.isWrite = true → footing = .writable

/-- A call on the connection of the transaction is one record, or, without
a connection, none. -/
theorem working_onConnectionQuietly {sql : String} {params : List Value}
    {call : Call} {step : Nat → Driver.Step α}
    (hrecords : ∀ c, Driver.Records (some c) call (step c))
    (hcall : Allowed footing call) :
    Working trusted id t footing (onConnectionQuietly t sql params step) := by
  constructor
  · intro s hs
    cases hc : s.connectionOf? t with
    | none =>
        refine ⟨[], ?_, fun _ h => by cases h⟩
        simp only [EStateM.after, onConnectionQuietly_released hc]
        exact (Ledger.record_nil _).symm
    | some c =>
        refine ⟨[⟨some c, call,
          Driver.failureOf ((step c).answer s.driver)⟩], ?_, ?_⟩
        · rw [after_onConnectionQuietly hc]
          exact s.ledger_drive (hrecords c) (s.context t sql params)
        · intro entry hentry
          rw [List.mem_singleton.mp hentry]
          exact {
            isOpen := hs.isOpen hcall.checked
            connection := rfl
            connection_eq := by
              show some c = s.ledger.connectionOf? t
              rw [s.connectionOf?_ledger, hc]
            isWork := hcall.isWork
            writable := by
              intro hwrite
              have hfooting := hcall.writable hwrite
              subst hfooting
              exact hs.2 }
  · intro _ s hs hconnected
    have hsome := hconnected (hs.isOpen hcall.checked)
    obtain ⟨c, hc⟩ := Option.isSome_iff_exists.mp hsome
    rw [show (id s).ledger = s.ledger from rfl, s.connectionOf?_ledger] at hc
    rw [answer_onConnectionQuietly hc]
    exact sound_mapError fun e => Error.sound_ofDriver e _

/-- Calls that read need an open transaction. -/
theorem allowed_opened {call : Call} (hwork : call.isWork = true)
    (hread : call.isWrite = false) : Allowed .opened call :=
  ⟨by simp, hwork, fun hwrite => by rw [hread] at hwrite; cases hwrite⟩

/-- Calls that write need a writable one. -/
theorem allowed_writable {call : Call} (hwork : call.isWork = true) :
    Allowed .writable call :=
  ⟨by simp, hwork, fun _ => rfl⟩

end Action

end DataAccess
