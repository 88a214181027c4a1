/-
Errors that vouch for failed calls. What begins or ends a transaction makes
several calls and goes on after a failure: it closes a connection on which
nothing began, it closes one whose transaction did not end, it gives up a
savepoint that it could not go back to. Whatever fails then is carried along
(`Vouches`): each failed call is told once, in the order in which the calls
were made, and the first error says where the first of them failed.

`Vouches` is put together call by call (`vouches_reported`,
`Vouches.append`, `Vouches.firstFailure`), along the order of the calls in the
log. So the lemmas about a beginning or an ending only say which calls those
are.
-/
import DataAccess.Proofs.Session.Upshot

namespace DataAccess

open DataAccess.Action Ledger

-- ================================================================ the calls

/-- The failures among some records, in order. -/
def failures (entries : List CallRecord) : List DriverError :=
  entries.filterMap (·.failure)

/-- The record of the first call that failed. -/
def firstFailed? (entries : List CallRecord) : Option CallRecord :=
  entries.find? (·.failure.isSome)

theorem failures_append (entries more : List CallRecord) :
    failures (entries ++ more) = failures entries ++ failures more :=
  List.filterMap_append

/-- There are no failures where no call fails. -/
theorem failures_eq_nil_iff {entries : List CallRecord} :
    failures entries = [] ↔ Unfailing entries :=
  List.filterMap_eq_nil_iff

/-- Nor is there a first one. -/
theorem firstFailed?_eq_none_iff {entries : List CallRecord} :
    firstFailed? entries = none ↔ failures entries = [] := by
  unfold firstFailed? failures
  rw [List.find?_eq_none, List.filterMap_eq_nil_iff]
  simp

/-- The first that failed is among the first calls that failed. -/
theorem firstFailed?_append (entries more : List CallRecord) :
    firstFailed? (entries ++ more)
      = (firstFailed? entries).or (firstFailed? more) :=
  List.find?_append

-- ================================================================= vouching

/-- Errors vouch for the failed ones of some calls: each of these is told
once, in their order, and the first error is located where the first of them
failed, in the transaction that is shown as `display`. -/
structure Vouches (display handled : String) (entries : List CallRecord)
    (errors : List Error) : Prop where
  told : List.Forall₂ Error.Reports (failures entries)
    (Error.flatten.all errors)
  first : ∀ entry, firstFailed? entries = some entry →
    ∃ e, errors.head? = some e
      ∧ (entry.connection.isSome → e.Located display (entry.call.text handled))

section

variable {display handled : String} {entries more : List CallRecord}
  {errors others : List Error}

theorem vouches_nil : Vouches display handled [] [] :=
  ⟨.nil, (fun _ h => nomatch h)⟩

/-- A call that failed is reported by one error, and one that did not by
none. -/
theorem forall₂_reported (context : StatementContext)
    (connection : Option Nat) (call : Call) (f : Option DriverError) :
    List.Forall₂ Error.Reports (failures [⟨connection, call, f⟩])
      (Error.flatten.all (failuresIn (reported context f))) := by
  cases f with
  | none => exact .nil
  | some failure =>
      show List.Forall₂ Error.Reports [failure]
        ((Error.ofDriver failure context).flatten ++ [])
      rw [Error.flatten_ofDriver]
      exact .cons (Error.reports_ofDriver failure context) .nil

/-- A single call without a result. -/
theorem vouches_reported {connection : Option Nat} {call : Call}
    {context : StatementContext} (params : List String)
    (hcontext : connection.isSome → context
      = { transaction := display
          statement := some { sql := call.text handled, params } })
    (f : Option DriverError) :
    Vouches display handled [⟨connection, call, f⟩]
      (failuresIn (reported context f)) := by
  refine ⟨forall₂_reported context connection call f, fun entry hentry => ?_⟩
  cases f with
  | none => cases hentry
  | some failure =>
      cases hentry
      refine ⟨_, rfl, fun hconnection => ⟨params, ?_⟩⟩
      rw [Error.context?_ofDriver, hcontext hconnection]

/-- Errors of later calls come after. Where they are located counts only if
none of the calls before them failed. -/
theorem Vouches.append (h : Vouches display handled entries errors)
    (hmore : List.Forall₂ Error.Reports (failures more)
      (Error.flatten.all others))
    (hothers : failures entries = [] → Vouches display handled more others) :
    Vouches display handled (entries ++ more) (errors ++ others) := by
  constructor
  · rw [failures_append, Error.all_append]
    exact List.rel_append h.told hmore
  · intro entry hentry
    rw [firstFailed?_append] at hentry
    cases hfirst : firstFailed? entries with
    | some found =>
        rw [hfirst] at hentry
        cases hentry
        obtain ⟨e, he, hlocated⟩ := h.first _ hfirst
        exact ⟨e, by rw [List.head?_append, he]; rfl, hlocated⟩
    | none =>
        rw [hfirst] at hentry
        have hnone := firstFailed?_eq_none_iff.mp hfirst
        have hempty : errors = [] := by
          have htold := h.told
          rw [hnone] at htold
          cases errors with
          | nil => rfl
          | cons e errors =>
              exact absurd (List.append_eq_nil_iff.mp
                (List.forall₂_nil_left_iff.mp htold)).1 e.flatten_ne_nil
        rw [hempty, List.nil_append]
        exact (hothers hnone).first entry hentry

/-- Several errors, made one. -/
theorem Vouches.carried {e : Error}
    (h : Vouches display handled entries (e :: others)) :
    Vouches display handled entries [e.withAllSuppressed others] := by
  constructor
  · show List.Forall₂ _ _ ((e.withAllSuppressed others).flatten ++ [])
    rw [List.append_nil, Error.flatten_withAllSuppressed]
    exact h.told
  · intro entry hentry
    obtain ⟨_, ⟨⟩, hlocated⟩ := h.first entry hentry
    exact ⟨_, rfl, fun hconnection =>
      (hlocated hconnection).withAllSuppressed others⟩

/-- Of two results both failures are kept, the second carried along if need
be. -/
theorem failuresIn_firstFailure (r r' : Except Error Unit) :
    (failuresIn (firstFailure r r') = failuresIn r ++ failuresIn r')
      ∨ ∃ e other, r = .error e ∧ r' = .error other
        ∧ failuresIn (firstFailure r r') = [e.withAllSuppressed [other]] := by
  cases r with
  | ok x => exact Or.inl rfl
  | error e =>
      cases r' with
      | ok x => exact Or.inl rfl
      | error other => exact Or.inr ⟨e, other, rfl, rfl, rfl⟩

/-- The failures of two steps, made one. -/
theorem Vouches.firstFailure {r r' : Except Error Unit}
    (h : Vouches display handled entries (failuresIn r))
    (h' : Vouches display handled more (failuresIn r')) :
    Vouches display handled (entries ++ more)
      (failuresIn (Action.firstFailure r r')) := by
  have happend := h.append h'.told fun _ => h'
  rcases failuresIn_firstFailure r r' with heq | ⟨e, other, rfl, rfl, heq⟩
  · rw [heq]
    exact happend
  · rw [heq]
    exact happend.carried

end

-- ================================================================ accounts

/-- Calls that found a connection: whatever failed was made on one. -/
def Connecting (entries : List CallRecord) : Prop :=
  ∀ entry ∈ entries, entry.failure.isSome → entry.connection.isSome

theorem Connecting.append {entries more : List CallRecord}
    (h : Connecting entries) (hmore : Connecting more) :
    Connecting (entries ++ more) :=
  List.forall_mem_append.mpr ⟨h, hmore⟩

/-- Where no call fails there is nothing to ask. -/
theorem Unfailing.connecting {entries : List CallRecord}
    (h : Unfailing entries) : Connecting entries := by
  intro entry hentry hfailure
  rw [h entry hentry] at hfailure
  cases hfailure

/-- An action that makes no call, or whose failure vouches for its calls. If
no connection is found there is just the call that failed to find one. -/
def Accounts {α : Type} (display handled : String) (a : Action α)
    (s : Session) : Prop :=
  ∃ entries, (a.after s).ledger.log = s.ledger.log ++ entries
    ∧ (entries = []
      ∨ (Unfailing entries ∧ ∃ x, a.answer s = .ok x)
      ∨ ∃ e, a.answer s = .error e ∧ Vouches display handled entries [e]
        ∧ (Connecting entries
          ∨ ∃ call failure, entries = [⟨none, call, failure⟩]))

section

variable {α : Type} {display handled : String} {a : Action α}
  {s s' : Session} {entries : List CallRecord}

/-- Where no call is made there is nothing to account for. -/
theorem accounts_of_uncalled (h : (a.after s).ledger.log = s.ledger.log) :
    Accounts display handled a s :=
  ⟨[], by rw [h, List.append_nil], Or.inl rfl⟩

/-- An action that answers is accounted for if none of its calls failed. -/
theorem accounts_of_ok {x : α} (hrun : a s = .ok x s')
    (hlog : s'.ledger.log = s.ledger.log ++ entries)
    (hunfailing : Unfailing entries) : Accounts display handled a s := by
  refine ⟨entries, ?_, Or.inr (Or.inl ⟨hunfailing, x, ?_⟩)⟩
  · rw [EStateM.after_of_eq_ok hrun, hlog]
  · exact EStateM.answer_of_eq_ok hrun

/-- One that fails is, if its error vouches for the calls. -/
theorem accounts_of_error {e : Error} (hrun : a s = .error e s')
    (hlog : s'.ledger.log = s.ledger.log ++ entries)
    (hconnecting : Connecting entries)
    (hvouches : Vouches display handled entries [e]) :
    Accounts display handled a s := by
  refine ⟨entries, ?_, Or.inr (Or.inr ⟨e, ?_, hvouches, Or.inl hconnecting⟩)⟩
  · rw [EStateM.after_of_eq_error hrun, hlog]
  · exact EStateM.answer_of_eq_error hrun

/-- An action that comes to what another one does in a state with the same
log. -/
theorem Accounts.of_eq {b : Action α} (h : a s = b s')
    (hlog : s'.ledger.log = s.ledger.log)
    (hb : Accounts display handled b s') : Accounts display handled a s := by
  unfold Accounts EStateM.after EStateM.answer at hb ⊢
  rw [h, ← hlog]
  exact hb

/-- An action without a result whose answer vouches for its calls. -/
theorem accounts_of_ofExcept {a : Action Unit} {r : Except Error Unit}
    (hrun : a s = ofExcept r s')
    (hlog : s'.ledger.log = s.ledger.log ++ entries)
    (hconnecting : Connecting entries)
    (hvouches : Vouches display handled entries (failuresIn r)) :
    Accounts display handled a s := by
  cases r with
  | ok x =>
      refine accounts_of_ok hrun hlog (failures_eq_nil_iff.mp ?_)
      exact List.forall₂_nil_right_iff.mp hvouches.told
  | error e => exact accounts_of_error hrun hlog hconnecting hvouches

end

-- =============================================================== beginning

namespace Action

variable {handled : String} {s : Session} {t : TransactionId} {c : Nat}

/-- Beginning a root transaction: the connection is closed again if nothing
began on it. -/
theorem accounts_begin (readOnly : Bool) :
    Accounts (nextDisplay s) handled (begin readOnly) s := by
  rcases begin_cases s readOnly with
    ⟨failure, s', hrun, hledger⟩ | ⟨failure, closing, s', hrun, hledger⟩
    | ⟨s', hrun, hledger⟩
  · refine ⟨_, by rw [EStateM.after_of_eq_error hrun, hledger, log_record],
      Or.inr (Or.inr ⟨_, EStateM.answer_of_eq_error hrun, ?_,
        Or.inr ⟨.connect, some failure, rfl⟩⟩)⟩
    exact vouches_reported [] (by rintro ⟨⟩) (some failure)
  · refine accounts_of_error hrun (congrArg (·.log) hledger)
      (by simp [Connecting]) ?_
    refine Vouches.carried ?_
    have hconnect : Vouches (nextDisplay s) handled
        [⟨none, .connect, none⟩]
        (failuresIn (reported connectContext none)) :=
      vouches_reported [] (by rintro ⟨⟩) none
    have hbegin : Vouches (nextDisplay s) handled
        [⟨some s.ledger.opened, .begin readOnly, some failure⟩]
        (failuresIn (reported (placed (nextDisplay s)
          (beginStatement readOnly)) (some failure))) :=
      vouches_reported [] (fun _ => rfl) (some failure)
    exact (hconnect.append hbegin.told fun _ => hbegin).append
      (forall₂_reported _ _ .close closing) fun h => by cases h
  · refine accounts_of_ok hrun (congrArg (·.log) hledger) ?_
    simp [Unfailing]

/-- An action that was attempted, run. -/
theorem eq_of_attempt {α : Type} {a : Action α} {r : Except Error α}
    {s' : Session} (h : attempt a s = .ok r s') : a s = ofExcept r s' := by
  rw [attempt_eq] at h
  cases h
  rw [EStateM.apply_eq a s]
  cases a.answer s <;> rfl

/-- Setting a savepoint. -/
theorem accounts_beginNested {parent : TransactionId}
    (hconnected : s.ledger.Connected parent) :
    Accounts (s.transaction parent).display handled
      (beginNested parent) s := by
  by_cases hopen : s.ledger.IsOpen parent
  · obtain ⟨c, hc⟩ := Option.isSome_iff_exists.mp (hconnected hopen)
    rw [s.connectionOf?_ledger] at hc
    have hunfinished : ¬ (s.transaction parent).finished = true :=
      Bool.eq_false_iff.mp hopen
    generalize hname : s.config.savepointPrefix ++ "_"
      ++ toString (s.numbers.last + 1) = name
    have hbegun : beginNested parent s = (do
        onConnection parent (savepointStatement name) [] fun c =>
          Driver.savepoint c name
        openChild parent
        let display := "tx#" ++ toString (s.numbers.last + 1) ++ "("
          ++ (s.transaction parent).display ++ ")"
        report (.nestedStarted display name)
        addNested parent (s.numbers.last + 1) display name)
        (nextNumber.after s) := by
      unfold beginNested
      rw [EStateM.get_bind]
      dsimp only
      rw [if_neg hunfinished, EStateM.bind_of_eq_ok (nextNumber_eq s), ← hname]
    refine Accounts.of_eq hbegun rfl ?_
    have hc₁ : (nextNumber.after s).connectionOf? parent = some c := hc
    obtain ⟨f, s₂, hattempt, hledger⟩ := attempt_onConnection_unit hc₁
      (fun c => Driver.savepoint c name) (Driver.records_savepoint c name)
      (savepointStatement name) []
    have hcall := eq_of_attempt hattempt
    cases f with
    | none =>
        refine accounts_of_ok (EStateM.bind_of_eq_ok hcall _)
          (congrArg (·.log) hledger) (by simp [Unfailing])
    | some failure =>
        refine accounts_of_error (EStateM.bind_of_eq_error hcall _)
          (congrArg (·.log) hledger) (by simp [Connecting]) ?_
        exact vouches_reported [] (fun _ => rfl) (some failure)
  · refine accounts_of_uncalled ?_
    rw [EStateM.after_of_eq_error (beginNested_refused hopen)]

-- ================================================================== ending

/-- The calls that end a root transaction. -/
theorem vouches_rootAnswer (display handled : String) (outcome : Outcome)
    (ended closed : Option DriverError) :
    Vouches display handled
      [⟨some c, outcome.call, ended⟩, ⟨some c, .close, closed⟩]
      (failuresIn (rootAnswer display outcome ended closed)) := by
  have hend : outcome.call.text handled = outcome.statement := by
    cases outcome <;> rfl
  refine Vouches.firstFailure (vouches_reported [] (fun _ => ?_) ended)
    (vouches_reported [] (fun _ => rfl) closed)
  rw [hend]
  rfl

/-- Giving a savepoint up, or going back to it first. -/
theorem endNested_vouches (hc : s.connectionOf? t = some c) (name : String)
    (outcome : Outcome) :
    ∃ entries r s', endNested t name outcome s = ofExcept r s'
      ∧ s'.ledger = s.ledger.record entries ∧ Connecting entries
      ∧ Vouches (s.transaction t).display handled entries (failuresIn r) := by
  unfold endNested
  cases outcome with
  -- one call
  | commit =>
      obtain ⟨released, s₁, hrelease, hledger⟩ :=
        attempt_onConnection_unit hc (fun c => Driver.releaseSavepoint c name)
          (Driver.records_releaseSavepoint c name) (releaseStatement name) []
      dsimp only
      rw [pure_bind, EStateM.bind_of_eq_ok hrelease, EStateM.get_bind,
        EStateM.bind_of_eq_ok (report_eq ..)]
      refine ⟨_, _, _, rfl, hledger, by simp [Connecting], ?_⟩
      exact vouches_reported [] (fun _ => rfl) released
  -- two calls: the savepoint is released even if going back to it failed
  | rollback =>
      generalize hs₁ : s.modifyCache t IdentityCache.clear = s₁
      have hledger₁ : s₁.ledger = s.ledger.record [] := by
        rw [← hs₁, Session.ledger_modifyCache, record_nil]
      obtain ⟨reverted, s₂, hrevert, hledger₂⟩ :=
        attempt_onConnection_unit
          ((Session.connectionOf?_of_record hledger₁ t).trans hc)
          (fun c => Driver.rollbackToSavepoint c name)
          (Driver.records_rollbackToSavepoint c name)
          (rollbackToStatement name) []
      rw [hledger₁, record_record] at hledger₂
      obtain ⟨released, s₃, hrelease, hledger₃⟩ :=
        attempt_onConnection_unit
          ((Session.connectionOf?_of_record hledger₂ t).trans hc)
          (fun c => Driver.releaseSavepoint c name)
          (Driver.records_releaseSavepoint c name) (releaseStatement name) []
      rw [hledger₂, record_record] at hledger₃
      have hrun : attempt (revert t name) s = .ok (reported
          (s₁.context t (rollbackToStatement name) []) reverted) s₂ := by
        rw [← hrevert, ← hs₁]
        rfl
      dsimp only
      rw [EStateM.bind_of_eq_ok hrun, EStateM.bind_of_eq_ok hrelease,
        EStateM.get_bind, EStateM.bind_of_eq_ok (report_eq ..)]
      refine ⟨_, _, _, rfl, hledger₃, by simp [Connecting], ?_⟩
      refine Vouches.firstFailure (vouches_reported [] (fun _ => ?_) reverted)
        (vouches_reported [] (fun _ => ?_) released)
      · rw [← Session.display_of_record hledger₁]
        rfl
      · rw [← Session.display_of_record hledger₂]
        rfl

/-- However a transaction is finished, the failures are accounted for. -/
theorem accounts_finish (hconnected : s.ledger.Connected t)
    (outcome : Outcome) :
    Accounts (s.transaction t).display handled (finish t outcome) s := by
  rcases ends_or_refused hconnected with hrefused | ⟨c, hends⟩
  · obtain ⟨e, hfinish, -⟩ := finish_refused hrefused outcome
    refine accounts_of_uncalled ?_
    rw [EStateM.after_of_eq_error hfinish]
  cases hsavepoint : (s.transaction t).savepoint with
  | none =>
      obtain ⟨ended, closed, s', hrun, hledger⟩ :=
        finish_root_runs hends hsavepoint outcome
      exact accounts_of_ofExcept hrun (congrArg (·.log) hledger)
        (by simp [Connecting]) (vouches_rootAnswer _ _ outcome ended closed)
  | some name =>
      have hc : s.connectionOf? t = some c :=
        (s.connectionOf?_ledger t).symm.trans hends.connection
      obtain ⟨entries, r, s₁, hrun, hledger₁, hconnecting, hvouches⟩ :=
        endNested_vouches hc name outcome
      obtain ⟨s', hfinish, hledger⟩ := finish_eq hends.isOpen hends.childless
        (fun h => by rw [hsavepoint] at h; cases h)
        fun name' h => by
          rw [hsavepoint] at h
          cases h
          exact hrun
      refine accounts_of_ofExcept hfinish ?_ hconnecting hvouches
      rw [hledger, hledger₁]
      rfl

end Action

/-- However a transaction is ended, but for being dropped, the failure vouches
for its calls. -/
theorem Ending.accounts_run {s : Session} {t : TransactionId}
    {handled : String} (hconnected : s.ledger.Connected t) {how : Ending}
    (hhow : how ≠ .drop) :
    Accounts (s.transaction t).display handled (how.run t) s := by
  cases how with
  | commit => exact accounts_finish hconnected .commit
  | rollback => exact accounts_finish hconnected .rollback
  | close =>
      show Accounts _ _ (Action.close t) s
      cases hfinished : (s.transaction t).finished with
      | true =>
          refine accounts_of_uncalled ?_
          unfold Action.close
          rw [EStateM.after_bind_ok (EStateM.answer_get s), EStateM.after_get]
          simp only [hfinished, if_true]
          rfl
      | false =>
          refine (accounts_finish hconnected
            (impliedOutcome (s.transaction t).readOnly)).of_eq ?_ rfl
          unfold Action.close
          rw [EStateM.get_bind]
          simp only [hfinished, Bool.false_eq_true, if_false]
  | drop => exact absurd rfl hhow

end DataAccess
