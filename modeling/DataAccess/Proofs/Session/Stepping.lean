/-
A session goes on in steps of its ledger. For each operation that begins or
ends a transaction there is one lemma here that says what it answers and
what ledger it leaves behind; `step_perform` puts them together with the work
of statements.

An operation that has calls to make needs the connection of its transaction.
So the lemmas ask that the transaction is connected while it is open, which
`Proofs/Session/Consistency` shows of every session that is reached. Given
that, no operation fails for a connection that is gone (`sound_perform`).
-/
import DataAccess.Proofs.Session.Step

namespace DataAccess

open Ledger

-- =========================================================== single calls

/-- How a call failed, and what was answered for it. -/
inductive Tallies {α : Type} : Option DriverError → Except Error α → Prop where
  | answered (x : α) : Tallies none (.ok x)
  | failed (failure : DriverError) {e : Error} (h : e.Sound) :
      Tallies (some failure) (.error e)

/-- What tallies with a call is not about a connection that is gone. -/
theorem Tallies.sound {α : Type} {f : Option DriverError}
    {r : Except Error α} (h : Tallies f r) : Sound r := by
  cases h with
  | answered x => exact sound_ok x
  | failed failure he => exact sound_error he

/-- What is answered for a call without a result, by how it failed. -/
def reported (context : StatementContext) :
    Option DriverError → Except Error Unit
  | none => .ok ()
  | some e => .error (.ofDriver e context)

/-- A call without a result is reported as it failed. -/
theorem tallies_reported (context : StatementContext)
    (f : Option DriverError) : Tallies f (reported context f) := by
  cases f with
  | none => exact .answered ()
  | some e => exact .failed e (Error.sound_ofDriver e context)

/-- The failure in an answer without a result, if there is one. -/
def failuresIn : Except Error Unit → List Error
  | .ok () => []
  | .error e => [e]

namespace Action

variable {α : Type} (s : Session) (t : TransactionId)

/-- What the driver answers tallies with what it records. -/
theorem tallies_drive (step : Driver.Step α) (context : StatementContext) :
    Tallies (Driver.failureOf (step.answer s.driver))
      ((drive context step).answer s) := by
  rw [answer_drive]
  cases step.answer s.driver with
  | ok x => exact .answered x
  | error e => exact .failed e (Error.sound_ofDriver e context)

/-- A call without a result answers whether it failed. -/
theorem answer_drive_unit (step : Driver.Step Unit)
    (context : StatementContext) :
    (drive context step).answer s
      = reported context (Driver.failureOf (step.answer s.driver)) := by
  rw [answer_drive]
  cases step.answer s.driver <;> rfl

/-- An attempt at a call without a result. -/
theorem attempt_drive_unit {connection : Option Nat} {call : Call}
    {step : Driver.Step Unit}
    (hrecords : Driver.Records connection call step)
    (context : StatementContext) :
    ∃ f s', attempt (drive context step) s = .ok (reported context f) s'
      ∧ s'.ledger = s.ledger.record [⟨connection, call, f⟩] := by
  refine ⟨_, _, ?_, s.ledger_drive hrecords context⟩
  rw [attempt_eq, answer_drive_unit]

/-- An attempt to close a connection. -/
theorem attempt_close (c : Nat) (context : StatementContext) :
    ∃ f s', attempt (drive context (Driver.close c)) s
        = .ok (reported context f) s'
      ∧ s'.ledger = (s.ledger.record [⟨some c, .close, f⟩]).givenBack c := by
  refine ⟨_, _, ?_, s.ledger_close c context⟩
  rw [attempt_eq, answer_drive_unit]

/-- A call on the connection of a transaction goes to the driver, after its
event. -/
theorem onConnection_drives {s : Session} {t : TransactionId} {c : Nat}
    (hc : s.connectionOf? t = some c) (step : Nat → Driver.Step α)
    (sql : String) (params : List Value) :
    ∃ event, onConnection t sql params step s
      = drive (s.context t sql params) (step c) (s.report event) := by
  refine ⟨.statement (s.transaction t).display sql params
    s.config.logParameters, ?_⟩
  rw [onConnection_eq]
  exact onConnectionQuietly_eq (s := s.report _) (c := c) hc sql params step

/-- The call is recorded there. -/
theorem onConnection_cases {s : Session} {t : TransactionId} {c : Nat}
    (hc : s.connectionOf? t = some c) {call : Call}
    (step : Nat → Driver.Step α)
    (hrecords : Driver.Records (some c) call (step c))
    (sql : String) (params : List Value) :
    ∃ f, Tallies f ((onConnection t sql params step).answer s)
      ∧ ((onConnection t sql params step).after s).ledger
        = s.ledger.record [⟨some c, call, f⟩] := by
  obtain ⟨event, heq⟩ := onConnection_drives hc step sql params
  refine ⟨Driver.failureOf ((step c).answer s.driver), ?_, ?_⟩
  · unfold EStateM.answer
    rw [heq]
    exact tallies_drive (s.report event) (step c) _
  · unfold EStateM.after
    rw [heq]
    exact (s.report event).ledger_drive hrecords _

/-- The same call, run: it has a result or fails, as the record says. -/
theorem onConnection_runs {s : Session} {t : TransactionId} {c : Nat}
    (hc : s.connectionOf? t = some c) {call : Call}
    (step : Nat → Driver.Step α)
    (hrecords : Driver.Records (some c) call (step c))
    (sql : String) (params : List Value) :
    (∃ e failure s', onConnection t sql params step s = .error e s'
        ∧ e.Sound ∧ s'.ledger = s.ledger.record [⟨some c, call, some failure⟩])
    ∨ ∃ x s', onConnection t sql params step s = .ok x s'
        ∧ s'.ledger = s.ledger.record [⟨some c, call, none⟩] := by
  obtain ⟨f, htallies, hledger⟩ :=
    onConnection_cases hc step hrecords sql params
  have heq := EStateM.apply_eq (onConnection t sql params step) s
  generalize (onConnection t sql params step).answer s = r at htallies heq
  cases htallies with
  | answered x => exact Or.inr ⟨x, _, heq, hledger⟩
  | failed failure he => exact Or.inl ⟨_, failure, _, heq, he, hledger⟩

/-- A call that may fail, on a connection that is there. -/
theorem attempt_onConnection {s : Session} {t : TransactionId} {c : Nat}
    (hc : s.connectionOf? t = some c) {call : Call}
    (step : Nat → Driver.Step α)
    (hrecords : Driver.Records (some c) call (step c))
    (sql : String) (params : List Value) :
    ∃ f r s', attempt (onConnection t sql params step) s = .ok r s'
      ∧ Tallies f r ∧ s'.ledger = s.ledger.record [⟨some c, call, f⟩] := by
  obtain ⟨f, htallies, hledger⟩ :=
    onConnection_cases hc step hrecords sql params
  exact ⟨f, _, _, attempt_eq s _, htallies, hledger⟩

/-- An attempt at a call without a result. -/
theorem attempt_onConnection_unit {s : Session} {t : TransactionId} {c : Nat}
    (hc : s.connectionOf? t = some c) {call : Call}
    (step : Nat → Driver.Step Unit)
    (hrecords : Driver.Records (some c) call (step c))
    (sql : String) (params : List Value) :
    ∃ f s', attempt (onConnection t sql params step) s
        = .ok (reported (s.context t sql params) f) s'
      ∧ s'.ledger = s.ledger.record [⟨some c, call, f⟩] := by
  obtain ⟨event, heq⟩ := onConnection_drives hc step sql params
  obtain ⟨f, s', hrun, hledger⟩ :=
    attempt_drive_unit (s.report event) hrecords (s.context t sql params)
  refine ⟨f, s', ?_, hledger⟩
  rw [← hrun]
  unfold attempt
  rw [heq]

/-- Where a call without parameters is made. -/
def placed (display sql : String) : StatementContext :=
  { transaction := display, statement := some { sql, params := [] } }

-- ============================================================== beginning

/-- Opening a connection for a root transaction. -/
theorem connect_cases (context : StatementContext) :
    (∃ failure s', drive context Driver.connect s
          = .error (Error.ofDriver failure context) s'
        ∧ s'.ledger = s.ledger.record [⟨none, .connect, some failure⟩])
    ∨ ∃ s', drive context Driver.connect s = .ok s.ledger.opened s'
        ∧ s'.ledger = { s.ledger with
            held := s.ledger.held ++ [true]
            log := s.ledger.log ++ [⟨none, .connect, none⟩] } := by
  rcases Driver.connect_cases s.driver with
    ⟨failure, hanswer, hlog, hopened⟩ | ⟨hanswer, hlog, hopened⟩
  · refine Or.inl ⟨failure, _, drive_of_error hanswer context, ?_⟩
    rw [after_drive]
    unfold Session.ledger Ledger.record
    simp only [hlog, hopened]
    rfl
  · refine Or.inr ⟨_, drive_of_ok hanswer context, ?_⟩
    rw [after_drive]
    unfold Session.ledger
    simp only [hlog, hopened]
    rfl

/-- The ledger with a root transaction added. -/
theorem ledger_addRoot (c number : Nat) (display : String)
    (readOnly : Bool) :
    ((addRoot c number display readOnly).after s).ledger
      = { s.ledger with
          connections := s.ledger.connections ++ [some c]
          transactions := s.ledger.transactions ++
            [{ number, display, readOnly, savepoint := none, parent := none
               chain := s.ledger.connections.length, finished := false
               openChildren := 0 }] } := by
  unfold addRoot Session.ledger Session.connections
  rw [EStateM.after_modifyGet]
  simp only [List.map_append, List.length_map]
  rfl

/-- The display identity of the root transaction that is begun next. -/
def nextDisplay : String :=
  "tx#" ++ toString (s.numbers.last + 1)

/-- Beginning a root transaction: no connection, a connection on which
nothing began, or a root at the end of the list. -/
theorem begin_cases (readOnly : Bool) :
    (∃ failure s', begin readOnly s
        = .error (Error.ofDriver failure connectContext) s'
      ∧ s'.ledger = s.ledger.record [⟨none, .connect, some failure⟩])
    ∨ (∃ failure closing s', begin readOnly s = .error
          ((Error.ofDriver failure
              (placed (nextDisplay s)
                (beginStatement readOnly))).withAllSuppressed
            (failuresIn (reported
              (placed (nextDisplay s) (beginStatement readOnly)) closing))) s'
      ∧ s'.ledger = s.ledger.abandoned readOnly failure closing)
    ∨ (∃ s', begin readOnly s = .ok s.transactions.length s'
      ∧ s'.ledger = s.ledger.begun readOnly) := by
  unfold Action.begin
  rw [EStateM.bind_of_eq_ok (report_eq ..)]
  rcases connect_cases (s.report (.acquiringConnection readOnly))
      connectContext with
    ⟨failure, s₁, hconnect, hledger⟩ | ⟨s₁, hconnect, hledger⟩
  · -- no connection: nothing but the attempt is recorded
    rw [EStateM.bind_of_eq_error hconnect]
    exact Or.inl ⟨failure, s₁, rfl, hledger⟩
  · rw [Session.ledger_report] at hconnect hledger
    -- a connection: a number is drawn, and then the transaction begins or not
    have hnumber : s₁.numbers.last + 1 = s.numbers.last + 1 :=
      congrArg (·.last + 1) hledger
    rw [EStateM.bind_of_eq_ok hconnect,
      EStateM.bind_of_eq_ok (nextNumber_eq s₁), hnumber]
    generalize hs₂ : nextNumber.after s₁ = s₂
    have hledger₂ : s₂.ledger = { s.ledger with
        last := s.ledger.last + 1, held := s.ledger.held ++ [true]
        log := s.ledger.log ++ [⟨none, .connect, none⟩] } := by
      rw [← hs₂, Session.ledger_nextNumber, hledger]
    unfold placed nextDisplay
    generalize StatementContext.mk _ _ = context
    obtain ⟨f, s₃, hbegin, hledger₃⟩ := attempt_drive_unit s₂
      (Driver.records_begin s.ledger.opened readOnly) context
    rw [EStateM.bind_of_eq_ok hbegin]
    cases f with
    -- it begins: the new root stands at the end of the list
    | none =>
        have hledger₃' : s₃.ledger = { s.ledger with
            last := s.ledger.last + 1, held := s.ledger.held ++ [true]
            log := s.ledger.log ++ [⟨none, .connect, none⟩,
              ⟨some s.ledger.opened, .begin readOnly, none⟩] } := by
          rw [hledger₃, hledger₂]
          unfold Ledger.record
          simp
        refine Or.inr (Or.inr ?_)
        dsimp only [reported]
        rw [EStateM.bind_of_eq_ok (report_eq ..)]
        generalize hs₄ : s₃.report _ = s₄
        have hledger₄ : s₄.ledger = s₃.ledger := by
          rw [← hs₄, Session.ledger_report]
        have hlength : s₄.transactions.length = s.transactions.length := by
          rw [← Session.transactions_ledger, hledger₄, hledger₃']
          rfl
        refine ⟨(addRoot s.ledger.opened (s.ledger.last + 1)
          ("tx#" ++ toString (s.ledger.last + 1)) readOnly).after s₄, ?_, ?_⟩
        · rw [← hlength]
          rfl
        · rw [ledger_addRoot, hledger₄, hledger₃']
          rfl
    -- it does not: the connection is closed, and what comes of that is
    -- attached to the failure
    | some failure =>
        obtain ⟨closing, s₄, hclose, hledger₄⟩ :=
          attempt_close s₃ s.ledger.opened context
        refine Or.inr (Or.inl ⟨failure, closing, s₄, ?_, ?_⟩)
        · dsimp only [reported]
          rw [EStateM.bind_of_eq_ok hclose]
          cases closing <;> rfl
        · rw [hledger₄, hledger₃, hledger₂]
          unfold Ledger.record Ledger.givenBack Ledger.abandoned Ledger.opened
          simp

/-- A failure to begin is not for a connection that is gone. -/
theorem sound_begin (readOnly : Bool) : Sound ((begin readOnly).answer s) := by
  rcases begin_cases s readOnly with
    ⟨failure, s', hrun, -⟩ | ⟨failure, closing, s', hrun, -⟩ | ⟨s', hrun, -⟩
  · rw [EStateM.answer_of_eq_error hrun]
    exact sound_error (Error.sound_ofDriver _ _)
  · rw [EStateM.answer_of_eq_error hrun]
    refine sound_error ?_
    cases closing with
    | none => exact Error.sound_ofDriver _ _
    | some other =>
        exact (Error.sound_ofDriver _ _).withSuppressed
          (Error.sound_ofDriver other _)
  · rw [EStateM.answer_of_eq_ok hrun]
    exact sound_ok _

/-- A transaction that has ended begins nothing. -/
theorem beginNested_refused {s : Session} {parent : TransactionId}
    (h : ¬ s.ledger.IsOpen parent) :
    beginNested parent s
      = .error (s.fault parent .nestedOnFinished) s := by
  have hfinished : (s.transaction parent).finished = true :=
    not_isOpen_iff.mp h
  unfold beginNested
  rw [EStateM.get_bind]
  dsimp only
  rw [if_pos hfinished]
  rfl

/-- The ledger with a nested transaction added and counted. -/
theorem ledger_addNested (parent : TransactionId) (number : Nat)
    (display savepoint : String) :
    ((addNested parent number display savepoint).after s).ledger
      = { s.ledger with
          transactions := s.ledger.transactions ++
            [{ number, display
               readOnly := (s.transaction parent).readOnly
               savepoint := some savepoint, parent := some parent
               chain := (s.transaction parent).chain, finished := false
               openChildren := 0 }] } := rfl

/-- Beginning a nested transaction: the savepoint is not set, or the
transaction is at the end of the list. -/
theorem beginNested_cases {s : Session} {parent : TransactionId} {c : Nat}
    (hopen : s.ledger.IsOpen parent) (hc : s.connectionOf? parent = some c) :
    (∃ e s' failure, beginNested parent s = .error e s' ∧ e.Sound
        ∧ s'.ledger = s.ledger.unmarked c failure)
    ∨ (∃ s', beginNested parent s = .ok s.transactions.length s'
        ∧ s'.ledger = s.ledger.nested parent c) := by
  have hunfinished : ¬ (s.transaction parent).finished = true :=
    Bool.eq_false_iff.mp hopen
  unfold beginNested
  rw [EStateM.get_bind]
  dsimp only
  rw [if_neg hunfinished, EStateM.bind_of_eq_ok (nextNumber_eq s)]
  generalize hs₁ : nextNumber.after s = s₁
  have hc₁ : s₁.connectionOf? parent = some c := by
    rw [← hs₁]
    exact hc
  have hledger₁ : s₁.ledger = { s.ledger with last := s.ledger.last + 1 } := by
    rw [← hs₁, Session.ledger_nextNumber]
  generalize hname : s.config.savepointPrefix ++ "_"
    ++ toString (s.numbers.last + 1) = name
  rcases onConnection_runs hc₁ (fun c => Driver.savepoint c name)
      (Driver.records_savepoint c name) (savepointStatement name) [] with
    ⟨e, failure, s₂, hcall, he, hledger₂⟩ | ⟨x, s₂, hcall, hledger₂⟩
  · rw [EStateM.bind_of_eq_error hcall]
    refine Or.inl ⟨e, s₂, failure, rfl, he, ?_⟩
    rw [hledger₂, hledger₁, ← hname]
    rfl
  · rw [EStateM.bind_of_eq_ok hcall]
    unfold openChild
    rw [EStateM.modify_bind, EStateM.bind_of_eq_ok (report_eq ..)]
    generalize hs₃ : (s₂.modifyTransaction parent _).report _ = s₃
    have hledger₃ : s₃.ledger = { s.ledger with
        last := s.ledger.last + 1
        transactions := s.ledger.withOpenChild parent
        log := s.ledger.log ++ [⟨some c, .savepoint name, none⟩] } := by
      have hmodified : s₃.ledger = { s₂.ledger with
          transactions := s₂.ledger.withOpenChild parent } := by
        rw [← hs₃]
        rfl
      rw [hmodified, hledger₂, hledger₁]
      rfl
    have hlength : s₃.transactions.length = s.transactions.length := by
      rw [← Session.transactions_ledger, hledger₃]
      exact List.length_modify ..
    -- counting the child has not touched what the child takes over
    have hparent : s₃.transaction parent = { s.transaction parent with
        openChildren := (s.transaction parent).openChildren + 1 } := by
      rw [← Session.transaction_ledger, hledger₃]
      unfold transaction withOpenChild
      rw [List.getElem?_modify_eq, getElem?_of_isOpen hopen]
      rfl
    refine Or.inr ⟨(addNested parent (s.numbers.last + 1)
      ("tx#" ++ toString (s.numbers.last + 1) ++ "("
        ++ (s.transaction parent).display ++ ")") name).after s₃, ?_, ?_⟩
    · rw [← hlength]
      rfl
    · rw [ledger_addNested, hledger₃, hparent, ← hname]
      rfl

-- ================================================================= ending

/-- A root ends with the call of its outcome. -/
theorem records_endCall (outcome : Outcome) (c : Nat) :
    Driver.Records (some c) outcome.call (endCall outcome c) := by
  cases outcome with
  | commit => exact Driver.records_commit c
  | rollback => exact Driver.records_rollback c

/-- Of two calls the first failure counts, so there is none only if neither
failed. -/
theorem firstFailure_eq_ok_iff {f f' : Option DriverError}
    {r r' : Except Error Unit} (h : Tallies f r) (h' : Tallies f' r') :
    firstFailure r r' = .ok () ↔ f = none ∧ f' = none := by
  cases h with
  | answered x => cases h' <;> simp [firstFailure]
  | failed failure he => cases h' <;> simp [firstFailure]

/-- The ledger without the connection of a chain. -/
theorem ledger_takeConnection {s : Session} {t : TransactionId}
    (hopen : s.ledger.IsOpen t) :
    ((takeConnection t).after s).ledger = { s.ledger with
      connections := s.ledger.connections.modify
        (s.ledger.transaction t).chain fun _ => none } := by
  have hentry : s.transactions[t]? = some (s.transaction t) :=
    getElem?_of_isOpen hopen
  show (s.modifyChain t fun c => { c with connection := none }).ledger = _
  unfold Session.ledger Session.connections
  simp only [Session.chains_modifyChain, Session.config_modifyChain,
    Session.driver_modifyChain, Session.numbers_modifyChain,
    Session.transactions_modifyChain, hentry]
  have hmap : (s.chains.modify (s.transaction t).chain fun c =>
        { c with connection := none }).map (·.connection)
      = (s.chains.map (·.connection)).modify (s.transaction t).chain
        fun _ => none := by
    refine List.ext_getElem? fun i => ?_
    simp only [List.getElem?_map, List.getElem?_modify]
    cases s.chains[i]? with
    | none => rfl
    | some chain => by_cases hi : (s.transaction t).chain = i <;> simp [hi]
  rw [hmap]
  rfl

/-- What the end of a root transaction answers, by how its two calls
failed. -/
def rootAnswer (display : String) (outcome : Outcome)
    (ended closed : Option DriverError) : Except Error Unit :=
  firstFailure (reported (placed display outcome.statement) ended)
    (reported (placed display "<close connection>") closed)

theorem sound_rootAnswer (display : String) (outcome : Outcome)
    (ended closed : Option DriverError) :
    Sound (rootAnswer display outcome ended closed) :=
  sound_firstFailure (tallies_reported _ ended).sound
    (tallies_reported _ closed).sound

/-- A root is ended if both calls succeeded. -/
theorem rootAnswer_eq_ok_iff (display : String) (outcome : Outcome)
    (ended closed : Option DriverError) :
    rootAnswer display outcome ended closed = .ok ()
      ↔ ended = none ∧ closed = none :=
  firstFailure_eq_ok_iff (tallies_reported _ ended) (tallies_reported _ closed)

/-- The end of a root transaction: both calls are made, and the connection
is gone whatever becomes of them. -/
theorem endRoot_runs {s : Session} {t : TransactionId} {c : Nat}
    (hopen : s.ledger.IsOpen t) (hc : s.connectionOf? t = some c)
    (outcome : Outcome) :
    ∃ ended closed s', endRoot t outcome s
        = ofExcept
            (rootAnswer (s.transaction t).display outcome ended closed) s'
      ∧ s'.ledger = { s.ledger with
          held := s.ledger.held.set c false
          connections := s.ledger.connections.modify
            (s.ledger.transaction t).chain fun _ => none
          log := s.ledger.log ++
            [⟨some c, outcome.call, ended⟩, ⟨some c, .close, closed⟩] } := by
  -- the connection is taken away before either call is made
  have hledger₁ := ledger_takeConnection hopen
  have htake : takeConnection t s
      = .ok (some c) ((takeConnection t).after s) := by
    rw [← hc]
    rfl
  generalize (takeConnection t).after s = s₁ at htake hledger₁
  have hcontext : ∀ sql, s₁.context t sql [] = s.context t sql [] := by
    intro sql
    unfold Session.context
    rw [← Session.transaction_ledger, hledger₁]
    rfl
  unfold endRoot
  rw [EStateM.bind_of_eq_ok htake]
  dsimp only
  rw [EStateM.get_bind, EStateM.bind_of_eq_ok (report_eq ..)]
  generalize hs₂ : Session.report s₁ _ = s₂
  have hledger₂ : s₂.ledger = s₁.ledger := by
    rw [← hs₂, Session.ledger_report]
  obtain ⟨ended, s₃, hend, hledger₃⟩ := attempt_drive_unit s₂
    (records_endCall outcome c) (s₁.context t outcome.statement [])
  rw [EStateM.bind_of_eq_ok hend]
  obtain ⟨closed, s₄, hclose, hledger₄⟩ := attempt_close s₃ c
    (s₁.context t "<close connection>" [])
  rw [EStateM.bind_of_eq_ok hclose]
  unfold clearCache
  rw [EStateM.modify_bind, EStateM.bind_of_eq_ok (report_eq ..)]
  rw [hcontext, hcontext]
  refine ⟨ended, closed, _, rfl, ?_⟩
  rw [Session.ledger_report, Session.ledger_modifyCache, hledger₄, hledger₃,
    hledger₂, hledger₁, record_record]
  rfl

/-- The end of a nested transaction that commits is one call. -/
theorem endNested_commit_runs {s : Session} {t : TransactionId} {c : Nat}
    (hc : s.connectionOf? t = some c) (name : String) :
    ∃ released r s', endNested t name .commit s = ofExcept r s' ∧ Sound r
      ∧ (r = .ok () ↔ released = none)
      ∧ s'.ledger = s.ledger.record
          [⟨some c, .releaseSavepoint name, released⟩] := by
  unfold endNested
  obtain ⟨released, r, s₁, hrelease, htallies, hledger⟩ :=
    attempt_onConnection hc (fun c => Driver.releaseSavepoint c name)
      (Driver.records_releaseSavepoint c name) (releaseStatement name) []
  dsimp only
  rw [pure_bind, EStateM.bind_of_eq_ok hrelease,
    EStateM.get_bind, EStateM.bind_of_eq_ok (report_eq ..)]
  refine ⟨released, _, _, rfl, sound_firstFailure (sound_ok ()) htallies.sound,
    ?_, ?_⟩
  · rw [firstFailure_eq_ok_iff (.answered ()) htallies]
    exact ⟨fun h => h.2, fun h => ⟨rfl, h⟩⟩
  · rw [Session.ledger_report, hledger]

/-- Going back to a savepoint is one call; the cache is not in the
ledger. -/
theorem attempt_revert {s : Session} {t : TransactionId} {c : Nat}
    (hc : s.connectionOf? t = some c) (name : String) :
    ∃ f r s', attempt (revert t name) s = .ok r s' ∧ Tallies f r
      ∧ s'.ledger
        = s.ledger.record [⟨some c, .rollbackToSavepoint name, f⟩] := by
  generalize hs₁ : s.modifyCache t IdentityCache.clear = s₁
  have hledger₁ : s₁.ledger = s.ledger := by
    rw [← hs₁, Session.ledger_modifyCache]
  have hc₁ : s₁.connectionOf? t = some c := by
    rw [← Session.connectionOf?_ledger, hledger₁,
      Session.connectionOf?_ledger, hc]
  obtain ⟨f, r, s', hcall, htallies, hledger⟩ :=
    attempt_onConnection hc₁ (fun c => Driver.rollbackToSavepoint c name)
      (Driver.records_rollbackToSavepoint c name) (rollbackToStatement name) []
  refine ⟨f, r, s', ?_, htallies, by rw [hledger, hledger₁]⟩
  rw [← hcall, ← hs₁]
  rfl

/-- The end of a nested transaction that rolls back is two calls; the second
one is made whatever becomes of the first. -/
theorem endNested_rollback_runs {s : Session} {t : TransactionId} {c : Nat}
    (hc : s.connectionOf? t = some c) (name : String) :
    ∃ reverted released r s', endNested t name .rollback s = ofExcept r s'
      ∧ Sound r ∧ (r = .ok () ↔ reverted = none ∧ released = none)
      ∧ s'.ledger = s.ledger.record
          [⟨some c, .rollbackToSavepoint name, reverted⟩,
           ⟨some c, .releaseSavepoint name, released⟩] := by
  unfold endNested
  obtain ⟨reverted, r, s₁, hrevert, htallies, hledger⟩ :=
    attempt_revert hc name
  have hc₁ : s₁.connectionOf? t = some c := by
    rw [Session.connectionOf?_of_record hledger, hc]
  obtain ⟨released, r', s₂, hrelease, htallies', hledger'⟩ :=
    attempt_onConnection hc₁ (fun c => Driver.releaseSavepoint c name)
      (Driver.records_releaseSavepoint c name) (releaseStatement name) []
  dsimp only
  rw [EStateM.bind_of_eq_ok hrevert, EStateM.bind_of_eq_ok hrelease,
    EStateM.get_bind, EStateM.bind_of_eq_ok (report_eq ..)]
  refine ⟨reverted, released, _, _, rfl,
    sound_firstFailure htallies.sound htallies'.sound,
    firstFailure_eq_ok_iff htallies htallies', ?_⟩
  rw [Session.ledger_report, hledger', hledger, record_record]
  rfl

/-- A transaction that has ended is marked. -/
theorem ledger_markFinished :
    ((markFinished t).after s).ledger
      = { s.ledger with transactions := s.ledger.withEnded t } := by
  unfold markFinished withEnded
  rw [EStateM.after_modify, Session.transaction_ledger]
  cases (s.transaction t).parent <;> rfl

/-- A transaction that has ended, or that has open children, is not
ended. -/
theorem finish_refused {s : Session} {t : TransactionId}
    (h : ¬ s.ledger.IsOpen t ∨ 0 < (s.transaction t).openChildren)
    (outcome : Outcome) :
    ∃ e, finish t outcome s = .error e s ∧ e.Sound := by
  unfold finish
  rw [EStateM.get_bind]
  by_cases hfinished : (s.transaction t).finished = true
  · rw [if_pos hfinished]
    exact ⟨_, rfl, Error.sound_database (by simp)⟩
  · have hopen : s.ledger.IsOpen t := Bool.eq_false_iff.mpr hfinished
    have hchildren := h.resolve_left fun hclosed => hclosed hopen
    rw [if_neg hfinished, if_pos hchildren]
    exact ⟨_, rfl, Error.sound_database (by simp)⟩

/-- What follows the calls that end a transaction: it is marked. -/
theorem finish_eq {s s' : Session} {t : TransactionId} {outcome : Outcome}
    {r : Except Error Unit} (hopen : s.ledger.IsOpen t)
    (hchildless : (s.transaction t).openChildren = 0)
    (hroot : (s.transaction t).savepoint = none →
      endRoot t outcome s = ofExcept r s')
    (hnested : ∀ name, (s.transaction t).savepoint = some name →
      endNested t name outcome s = ofExcept r s') :
    ∃ s'', finish t outcome s = ofExcept r s''
      ∧ s''.ledger
        = { s'.ledger with transactions := s'.ledger.withEnded t } := by
  have hunfinished : ¬ (s.transaction t).finished = true :=
    Bool.eq_false_iff.mp hopen
  have hnone : ¬ 0 < (s.transaction t).openChildren := by omega
  unfold finish
  rw [EStateM.get_bind]
  dsimp only
  rw [if_neg hunfinished, if_neg hnone]
  refine ⟨(markFinished t).after s', ?_, ledger_markFinished s' t⟩
  cases hsavepoint : (s.transaction t).savepoint with
  | none =>
      exact EStateM.bind_of_eq_ok (attempt_of_ofExcept (hroot hsavepoint)) _
  | some name =>
      exact EStateM.bind_of_eq_ok
        (attempt_of_ofExcept (hnested name hsavepoint)) _

/-- Ending a root transaction. -/
theorem finish_root_runs {s : Session} {t : TransactionId} {c : Nat}
    (hends : s.ledger.Ends t c)
    (hroot : (s.transaction t).savepoint = none) (outcome : Outcome) :
    ∃ ended closed s', finish t outcome s
        = ofExcept
            (rootAnswer (s.transaction t).display outcome ended closed) s'
      ∧ s'.ledger = s.ledger.rootEnded t
          [⟨some c, outcome.call, ended⟩, ⟨some c, .close, closed⟩] := by
  have hc : s.connectionOf? t = some c :=
    (s.connectionOf?_ledger t).symm.trans hends.connection
  obtain ⟨ended, closed, s₁, hrun, hledger⟩ :=
    endRoot_runs hends.isOpen hc outcome
  obtain ⟨s', hfinish, hledger'⟩ := finish_eq hends.isOpen hends.childless
    (fun _ => hrun) fun _ h => by rw [hroot] at h; cases h
  refine ⟨ended, closed, s', hfinish, ?_⟩
  rw [hledger', hledger]
  unfold rootEnded
  rw [hends.connection]
  rfl

/-- What follows the calls that end a nested transaction. -/
theorem finish_nested_eq {s s' : Session} {t : TransactionId} {c : Nat}
    {name : String} {outcome : Outcome} {r : Except Error Unit}
    (hends : s.ledger.Ends t c)
    (hnested : (s.transaction t).savepoint = some name)
    (hrun : endNested t name outcome s = ofExcept r s') :
    ∃ s'', finish t outcome s = ofExcept r s''
      ∧ s''.ledger
        = { s'.ledger with transactions := s'.ledger.withEnded t } := by
  refine finish_eq hends.isOpen hends.childless (fun hroot => ?_)
    fun name' hname => ?_
  · cases hnested.symm.trans hroot
  · cases hnested.symm.trans hname
    exact hrun

/-- Ending a nested transaction with a commit. -/
theorem finish_commit_runs {s : Session} {t : TransactionId} {c : Nat}
    {name : String} (hends : s.ledger.Ends t c)
    (hnested : (s.transaction t).savepoint = some name) :
    ∃ released r s', finish t .commit s = ofExcept r s' ∧ Sound r
      ∧ (r = .ok () ↔ released = none)
      ∧ s'.ledger = s.ledger.nestedEnded t
          [⟨some c, .releaseSavepoint name, released⟩] := by
  have hc : s.connectionOf? t = some c :=
    (s.connectionOf?_ledger t).symm.trans hends.connection
  obtain ⟨released, r, s₁, hrun, hsound, hiff, hledger⟩ :=
    endNested_commit_runs hc name
  obtain ⟨s', hfinish, hledger'⟩ := finish_nested_eq hends hnested hrun
  refine ⟨released, r, s', hfinish, hsound, hiff, ?_⟩
  rw [hledger', hledger]
  rfl

/-- Ending a nested transaction with a rollback. -/
theorem finish_rollback_runs {s : Session} {t : TransactionId} {c : Nat}
    {name : String} (hends : s.ledger.Ends t c)
    (hnested : (s.transaction t).savepoint = some name) :
    ∃ reverted released r s', finish t .rollback s = ofExcept r s'
      ∧ Sound r ∧ (r = .ok () ↔ reverted = none ∧ released = none)
      ∧ s'.ledger = s.ledger.nestedEnded t
          [⟨some c, .rollbackToSavepoint name, reverted⟩,
           ⟨some c, .releaseSavepoint name, released⟩] := by
  have hc : s.connectionOf? t = some c :=
    (s.connectionOf?_ledger t).symm.trans hends.connection
  obtain ⟨reverted, released, r, s₁, hrun, hsound, hiff, hledger⟩ :=
    endNested_rollback_runs hc name
  obtain ⟨s', hfinish, hledger'⟩ := finish_nested_eq hends hnested hrun
  refine ⟨reverted, released, r, s', hfinish, hsound, hiff, ?_⟩
  rw [hledger', hledger]
  rfl

end Action

/-- A transaction can be ended or it is refused. -/
theorem ends_or_refused {l : Ledger} {t : TransactionId}
    (hconnected : l.Connected t) :
    (¬ l.IsOpen t ∨ 0 < (l.transaction t).openChildren)
      ∨ ∃ c, l.Ends t c := by
  by_cases hopen : l.IsOpen t
  · rcases Nat.eq_zero_or_pos (l.transaction t).openChildren with
      hchildless | hchildren
    · obtain ⟨c, hc⟩ := Option.isSome_iff_exists.mp (hconnected hopen)
      exact Or.inr ⟨c, hopen, hchildless, hc⟩
    · exact Or.inl (Or.inr hchildren)
  · exact Or.inl (Or.inl hopen)

/-- Ending a transaction does not fail for a connection that is gone. -/
theorem Action.sound_finish {s : Session} {t : TransactionId}
    (hconnected : s.ledger.Connected t) (outcome : Outcome) :
    Sound ((Action.finish t outcome).answer s) := by
  have hanswer : ∀ {r : Except Error Unit} {s' : Session},
      Action.finish t outcome s = Action.ofExcept r s' → Sound r →
      Sound ((Action.finish t outcome).answer s) := by
    intro r s' hrun hsound
    unfold EStateM.answer
    rw [hrun]
    show Sound ((Action.ofExcept r).answer s')
    rw [Action.answer_ofExcept]
    exact hsound
  rcases ends_or_refused hconnected with hrefused | ⟨c, hends⟩
  · obtain ⟨e, hfinish, hsound⟩ := Action.finish_refused hrefused outcome
    rw [EStateM.answer_of_eq_error hfinish]
    exact sound_error hsound
  · cases hsavepoint : (s.transaction t).savepoint with
    | none =>
        obtain ⟨ended, closed, s', hrun, -⟩ :=
          Action.finish_root_runs hends hsavepoint outcome
        exact hanswer hrun (Action.sound_rootAnswer _ outcome ended closed)
    | some name =>
        cases outcome with
        | commit =>
            obtain ⟨_, r, s', hrun, hsound, -⟩ :=
              Action.finish_commit_runs hends hsavepoint
            exact hanswer hrun hsound
        | rollback =>
            obtain ⟨_, _, r, s', hrun, hsound, -⟩ :=
              Action.finish_rollback_runs hends hsavepoint
            exact hanswer hrun hsound

-- ================================================================ the whole

namespace Ending

variable (s : Session) (t : TransactionId)

/-- However a transaction is ended, it is left as if it were ended with the
outcome that this implies. -/
theorem ledger_run (how : Ending) :
    ((how.run t).after s).ledger
      = ((Action.finish t
          (how.outcome (s.transaction t).readOnly)).after s).ledger := by
  have hclose : ((Action.close t).after s).ledger
      = ((Action.finish t
          (Action.impliedOutcome
            (s.transaction t).readOnly)).after s).ledger := by
    unfold Action.close
    rw [EStateM.after_bind_ok (EStateM.answer_get s), EStateM.after_get]
    dsimp only
    split
    · next hfinished =>
      obtain ⟨e, hrefused, -⟩ := Action.finish_refused (s := s) (t := t)
        (.inl (not_isOpen_iff.mpr hfinished)) _
      rw [EStateM.after_of_eq_error hrefused]
      rfl
    · rfl
  cases how with
  | commit => rfl
  | rollback => rfl
  | close => exact hclose
  | drop =>
      refine Eq.trans ?_ hclose
      show ((Action.drop t).after s).ledger = _
      unfold Action.drop
      rw [EStateM.after_bind_ok (Action.answer_attempt s _),
        Action.after_attempt]
      cases (Action.close t).answer s with
      | ok x => rfl
      | error e => rfl

/-- However a transaction is ended, it does not fail for a connection that
is gone. -/
theorem sound_run (hconnected : s.ledger.Connected t) (how : Ending) :
    Sound ((how.run t).answer s) := by
  cases how with
  | commit => exact Action.sound_finish hconnected .commit
  | rollback => exact Action.sound_finish hconnected .rollback
  | close =>
      show Sound ((Action.close t).answer s)
      unfold Action.close
      rw [EStateM.answer_bind_ok (EStateM.answer_get s), EStateM.after_get]
      dsimp only
      split
      · exact sound_ok ()
      · exact Action.sound_finish hconnected _
  | drop =>
      show Sound ((Action.drop t).answer s)
      unfold Action.drop
      rw [EStateM.answer_bind_ok (Action.answer_attempt s _)]
      cases (Action.close t).answer s with
      | ok x => exact sound_ok ()
      | error e => exact sound_ok ()

/-- Ending a transaction is a step. -/
theorem step_run (hconnected : s.ledger.Connected t) (how : Ending) :
    Step s.ledger (.ending t how) ((how.run t).after s).ledger := by
  rw [ledger_run]
  have hafter : ∀ {outcome : Outcome} {r : Except Error Unit} {s' : Session},
      Action.finish t outcome s = Action.ofExcept r s' →
      (Action.finish t outcome).after s = s' := by
    intro outcome r s' hrun
    unfold EStateM.after
    rw [hrun]
    exact Action.after_ofExcept s' r
  rcases ends_or_refused hconnected with hrefused | ⟨c, hends⟩
  · obtain ⟨e, hfinish, -⟩ := Action.finish_refused hrefused
      (how.outcome (s.transaction t).readOnly)
    rw [EStateM.after_of_eq_error hfinish]
    exact .refused hrefused
  · cases hsavepoint : (s.transaction t).savepoint with
    | none =>
        obtain ⟨ended, closed, s', hrun, hledger⟩ :=
          Action.finish_root_runs hends hsavepoint
            (how.outcome (s.transaction t).readOnly)
        rw [hafter hrun, hledger]
        exact .rootEnded how hends hsavepoint ended closed
    | some name =>
        cases houtcome : how.outcome (s.transaction t).readOnly with
        | commit =>
            obtain ⟨released, r, s', hrun, -, -, hledger⟩ :=
              Action.finish_commit_runs hends hsavepoint
            rw [hafter hrun, hledger]
            exact .released how hends hsavepoint houtcome released
        | rollback =>
            obtain ⟨reverted, released, r, s', hrun, -, -, hledger⟩ :=
              Action.finish_rollback_runs hends hsavepoint
            rw [hafter hrun, hledger]
            exact .reverted how hends hsavepoint houtcome reverted released

end Ending

/-- What is handed in with an operation does not fail for a connection that
is gone. -/
def Operation.Trusted (schema : Schema) : Operation → Prop
  | .statement _ st => st.Trusted schema
  | _ => True

namespace Session

variable (schema : Schema) (s : Session)

/-- Every operation is a step of the ledger, as long as what is open is
connected. -/
theorem step_perform (hconnected : ∀ t, s.ledger.Connected t)
    (op : Operation) : Step s.ledger op (s.perform schema op).ledger := by
  unfold perform
  cases op with
  -- three ways to begin a root, and three to begin within a transaction
  | begin readOnly =>
      show Step s.ledger _
        ((Action.ignoring (Action.begin readOnly)).after s).ledger
      rw [Action.after_ignoring]
      rcases Action.begin_cases s readOnly with
        ⟨failure, s', hrun, hledger⟩ | ⟨failure, closing, s', hrun, hledger⟩
        | ⟨s', hrun, hledger⟩
      · rw [EStateM.after_of_eq_error hrun, hledger]
        exact .unconnected readOnly failure
      · rw [EStateM.after_of_eq_error hrun, hledger]
        exact .abandoned readOnly failure closing
      · rw [EStateM.after_of_eq_ok hrun, hledger]
        exact .begun readOnly
  | beginNested parent =>
      show Step s.ledger _
        ((Action.ignoring (Action.beginNested parent)).after s).ledger
      rw [Action.after_ignoring]
      by_cases hopen : s.ledger.IsOpen parent
      · obtain ⟨c, hc⟩ := Option.isSome_iff_exists.mp (hconnected parent hopen)
        have hc' := hc
        rw [s.connectionOf?_ledger] at hc'
        rcases Action.beginNested_cases hopen hc' with
          ⟨e, s', failure, hrun, -, hledger⟩ | ⟨s', hrun, hledger⟩
        · rw [EStateM.after_of_eq_error hrun, hledger]
          exact .unmarked hopen hc failure
        · rw [EStateM.after_of_eq_ok hrun, hledger]
          exact .nested hopen hc
      · rw [EStateM.after_of_eq_error (Action.beginNested_refused hopen)]
        exact .refused hopen
  | ending t how => exact Ending.step_run s t (hconnected t) how
  -- a statement leaves the transactions alone, whatever it does
  | statement t st =>
      have hwork : Working (st.Trusted schema) id t .unchecked
        (st.run schema t) := st.working_run
      obtain ⟨entries, hledger, hadmits⟩ := hwork.ledger s trivial
      show Step s.ledger _ (id ((st.run schema t).after s)).ledger
      rw [hledger]
      exact .worked hadmits

/-- No operation fails for a connection that is gone, as long as what is
open is connected. -/
theorem sound_perform (hconnected : ∀ t, s.ledger.Connected t)
    {op : Operation} (htrusted : op.Trusted schema) :
    Sound ((op.run schema).answer s) := by
  cases op with
  | begin readOnly =>
      show Sound ((Action.ignoring (Action.begin readOnly)).answer s)
      rw [Action.answer_ignoring]
      exact (Action.sound_begin s readOnly).map _
  | beginNested parent =>
      show Sound ((Action.ignoring (Action.beginNested parent)).answer s)
      rw [Action.answer_ignoring]
      refine Sound.map ?_ _
      by_cases hopen : s.ledger.IsOpen parent
      · obtain ⟨c, hc⟩ := Option.isSome_iff_exists.mp (hconnected parent hopen)
        rw [s.connectionOf?_ledger] at hc
        rcases Action.beginNested_cases hopen hc with
          ⟨e, s', failure, hrun, hsound, -⟩ | ⟨s', hrun, -⟩
        · rw [EStateM.answer_of_eq_error hrun]
          exact sound_error hsound
        · rw [EStateM.answer_of_eq_ok hrun]
          exact sound_ok _
      · rw [EStateM.answer_of_eq_error (Action.beginNested_refused hopen)]
        exact sound_error (Error.sound_database (by simp))
  | ending t how => exact Ending.sound_run s t (hconnected t) how
  | statement t st =>
      have hwork : Working (st.Trusted schema) id t .unchecked
        (st.run schema t) := st.working_run
      exact hwork.sound htrusted s trivial (hconnected t)

end Session

end DataAccess
