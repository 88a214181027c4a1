/-
What a step of the driver records. Every step is one `perform`, and a
`perform` appends one entry to the log: the call, the connection it was made
on, and how it failed if it did. So the log is a history that is only ever
added to, and what a session does to it can be told call by call.

`Records` says this of a step, `records_perform` proves it of every step
whose answer keeps to its own queues, and each call of the driver is an
instance. `Reliable` is the driver without a script of failures: there a
call fails only if its answer does.
-/
import DataAccess.Proofs.Session.Running

namespace DataAccess

-- ================================================================ calls

namespace Call

/-- A call that changes data. -/
def isWrite : Call → Bool
  | .execute .. => true
  | .insertReturning .. => true
  | _ => false

/-- A call that a statement makes: neither one that begins or ends anything
nor one that opens or closes a connection. -/
def isWork : Call → Bool
  | .execute .. => true
  | .insertReturning .. => true
  | .query .. => true
  | .prepare _ => true
  | .openCursor .. => true
  | .fetch _ => true
  | .closeCursor _ => true
  | .closeStatement _ => true
  | .copyOut _ => true
  | _ => false

end Call

/-- Calls that did not fail. -/
def Unfailing (records : List CallRecord) : Prop :=
  ∀ entry ∈ records, entry.failure = none

/-- Records do not fail where neither of two parts does. -/
theorem unfailing_append {records more : List CallRecord} :
    Unfailing (records ++ more) ↔ Unfailing records ∧ Unfailing more :=
  List.forall_mem_append

namespace Driver

variable {α : Type}

-- ============================================================ recording

/-- How a step failed, if it did. -/
def failureOf : Except DriverError α → Option DriverError
  | .ok _ => none
  | .error e => some e

/-- The answer of a call touches neither the log nor the connections. -/
structure Silent (step : Step α) : Prop where
  log : ∀ d, (step.after d).log = d.log
  connections : ∀ d, (step.after d).connections = d.connections

/-- A step makes one call and records it, with how it failed. -/
structure Records (connection : Option Nat) (call : Call) (step : Step α) :
    Prop where
  log : ∀ d, (step.after d).log
    = d.log ++ [⟨connection, call, failureOf (step.answer d)⟩]
  connections : ∀ d, (step.after d).connections = d.connections

theorem silent_pure (x : α) : Silent (pure x) :=
  ⟨fun _ => rfl, fun _ => rfl⟩

/-- A `perform` either fails by the script, or is its answer; either way it
is recorded. -/
theorem perform_cases (connection : Option Nat) (call : Call)
    (answer : Step α) (d : Driver) :
    (∃ e failures, trigger call.kind d.failures = (some e, failures)
      ∧ (perform connection call answer).answer d = .error e
      ∧ (perform connection call answer).after d
        = { d with failures }.record ⟨connection, call, some e⟩)
    ∨ ∃ failures, trigger call.kind d.failures = (none, failures)
      ∧ (perform connection call answer).answer d
        = answer.answer { d with failures }
      ∧ (perform connection call answer).after d
        = (answer.after { d with failures }).record
            ⟨connection, call, failureOf (answer.answer { d with failures })⟩ := by
  rcases htrigger : trigger call.kind d.failures with ⟨found, failures⟩
  cases found with
  | some e =>
      refine Or.inl ⟨e, failures, rfl, ?_, ?_⟩ <;>
        simp only [perform, EStateM.answer, EStateM.after, htrigger]
  | none =>
      refine Or.inr ⟨failures, rfl, ?_, ?_⟩ <;>
        simp only [perform, EStateM.answer, EStateM.after, htrigger] <;>
        cases answer { d with failures } <;> rfl

/-- A call is recorded, whatever it is answered. -/
theorem records_perform {answer : Step α} (h : Silent answer)
    (connection : Option Nat) (call : Call) :
    Records connection call (perform connection call answer) := by
  constructor <;> intro d <;>
    rcases perform_cases connection call answer d with
      ⟨e, failures, -, hanswer, hafter⟩ | ⟨failures, -, hanswer, hafter⟩
  · rw [hafter, hanswer]
    rfl
  · rw [hafter, hanswer]
    unfold record
    rw [h.log]
  · rw [hafter]
    rfl
  · rw [hafter]
    exact h.connections _

-- ====================================================== the single calls

section

variable (c : Nat) (d : Driver)

theorem records_begin (readOnly : Bool) :
    Records (some c) (.begin readOnly) (begin c readOnly) :=
  records_perform (silent_pure ()) _ _

theorem records_commit : Records (some c) .commit (commit c) :=
  records_perform (silent_pure ()) _ _

theorem records_rollback : Records (some c) .rollback (rollback c) :=
  records_perform (silent_pure ()) _ _

theorem records_savepoint (name : String) :
    Records (some c) (.savepoint name) (savepoint c name) :=
  records_perform (silent_pure ()) _ _

theorem records_releaseSavepoint (name : String) :
    Records (some c) (.releaseSavepoint name) (releaseSavepoint c name) :=
  records_perform (silent_pure ()) _ _

theorem records_rollbackToSavepoint (name : String) :
    Records (some c) (.rollbackToSavepoint name)
      (rollbackToSavepoint c name) :=
  records_perform (silent_pure ()) _ _

theorem records_execute (sql : String) (params : List Value) :
    Records (some c) (.execute sql params) (execute c sql params) :=
  records_perform ⟨fun _ => rfl, fun _ => rfl⟩ _ _

/-- Taking the next keys records nothing else. -/
theorem records_insertReturning (sql : String) (params : List Value)
    (keys : List String) :
    Records (some c) (.insertReturning sql params keys)
      (insertReturning c sql params keys) := by
  refine records_perform ?_ _ _
  constructor <;> intro d <;> simp only [EStateM.after] <;>
    cases d.generated <;> rfl

theorem records_query (sql : String) (params : List Value) :
    Records (some c) (.query sql params) (query c sql params) :=
  records_perform ⟨fun _ => rfl, fun _ => rfl⟩ _ _

theorem records_copyOut (sql : String) :
    Records (some c) (.copyOut sql) (copyOut c sql) :=
  records_perform ⟨fun _ => rfl, fun _ => rfl⟩ _ _

theorem records_prepare (sql : String) :
    Records (some c) (.prepare sql) (prepare c sql) :=
  records_perform ⟨fun _ => rfl, fun _ => rfl⟩ _ _

/-- Nor does opening a cursor, or finding no statement to open it for. -/
theorem records_openCursor (statement : Nat) (params : List Value)
    (fetchSize : Nat) :
    Records (some c) (.openCursor statement params fetchSize)
      (openCursor c statement params fetchSize) := by
  refine records_perform ?_ _ _
  constructor <;> intro d <;> simp only [EStateM.after] <;>
    cases (d.statements.lookup statement).isSome <;> rfl

/-- Nor does taking the next row. -/
theorem records_fetch (cursor : Nat) :
    Records (some c) (.fetch cursor) (fetch c cursor) := by
  refine records_perform ?_ _ _
  constructor <;> intro d <;> simp only [EStateM.after] <;>
    rcases d.cursors.lookup cursor with _ | _ | _ <;> rfl

theorem records_closeCursor (cursor : Nat) :
    Records (some c) (.closeCursor cursor) (closeCursor c cursor) :=
  records_perform ⟨fun _ => rfl, fun _ => rfl⟩ _ _

theorem records_closeStatement (statement : Nat) :
    Records (some c) (.closeStatement statement)
      (closeStatement c statement) :=
  records_perform ⟨fun _ => rfl, fun _ => rfl⟩ _ _

/-- Opening a connection opens one exactly when it is answered. -/
theorem connect_cases :
    (∃ e, connect.answer d = .error e
      ∧ (connect.after d).log = d.log ++ [⟨none, .connect, some e⟩]
      ∧ (connect.after d).connections = d.connections)
    ∨ (connect.answer d = .ok d.connections.length
      ∧ (connect.after d).log = d.log ++ [⟨none, .connect, none⟩]
      ∧ (connect.after d).connections = d.connections ++ [true]) := by
  unfold connect
  rcases perform_cases none .connect (fun d =>
      .ok d.connections.length
        { d with connections := d.connections ++ [true] }) d with
    ⟨e, failures, -, hanswer, hafter⟩ | ⟨failures, -, hanswer, hafter⟩
  · exact Or.inl ⟨e, hanswer, by rw [hafter]; rfl, by rw [hafter]; rfl⟩
  · exact Or.inr ⟨hanswer, by rw [hafter]; rfl, by rw [hafter]; rfl⟩

/-- A connection that is closed is recorded and counts as closed, also if
the call fails. -/
theorem log_close :
    ((close c).after d).log
      = d.log ++ [⟨some c, .close, failureOf ((close c).answer d)⟩] :=
  (records_perform (silent_pure ()) (some c) .close).log
    { d with connections := d.connections.set c false }

/-- A connection that is closed is no longer there. -/
theorem connections_close :
    ((close c).after d).connections = d.connections.set c false :=
  (records_perform (silent_pure ()) (some c) .close).connections
    { d with connections := d.connections.set c false }

end

-- ============================================================ reliability

/-- A driver whose calls do not fail: no failure is registered. -/
def Reliable (d : Driver) : Prop :=
  d.failures = []

/-- A driver that does not fail still does not, and the calls that it
recorded meanwhile did not fail. -/
def Steadily (d d' : Driver) : Prop :=
  d.Reliable → d'.Reliable
    ∧ ∃ entries, d'.log = d.log ++ entries ∧ Unfailing entries

variable {d d' d'' : Driver}

theorem Steadily.refl (d : Driver) : d.Steadily d := by
  intro hd
  exact ⟨hd, [], (List.append_nil _).symm, fun _ h => nomatch h⟩

/-- Steps that are steady make steady steps. -/
theorem Steadily.trans (h : d.Steadily d') (h' : d'.Steadily d'') :
    d.Steadily d'' := by
  intro hd
  obtain ⟨hd', entries, hlog, hentries⟩ := h hd
  obtain ⟨hd'', more, hlog', hmore⟩ := h' hd'
  refine ⟨hd'', entries ++ more, ?_, ?_⟩
  · rw [hlog', hlog, List.append_assoc]
  · exact unfailing_append.mpr ⟨hentries, hmore⟩

/-- A driver that is changed without a call and without a failure to come. -/
theorem steadily_of_eq (hlog : d'.log = d.log)
    (hfailures : d'.failures = d.failures) : d.Steadily d' := by
  intro hd
  refine ⟨hfailures.trans hd, [], ?_, fun _ h => nomatch h⟩
  rw [hlog, List.append_nil]

/-- Where no failure is registered, a call fails only if its answer does. -/
theorem steadily_perform {answer : Step α}
    (hanswer : ∀ d, ∃ x d', answer d = .ok x d' ∧ d'.log = d.log
      ∧ d'.failures = d.failures)
    (connection : Option Nat) (call : Call) (d : Driver) :
    d.Steadily ((perform connection call answer).after d) := by
  intro hd
  obtain ⟨x, d', hok, hlog, hfailures⟩ := hanswer d
  have htrigger : trigger call.kind d.failures = (none, d.failures) := by
    rw [show d.failures = [] from hd]
    rfl
  have hafter : (perform connection call answer).after d
      = d'.record ⟨connection, call, none⟩ := by
    simp only [EStateM.after, perform, htrigger, hok]
  rw [hafter]
  refine ⟨hfailures.trans hd, [⟨connection, call, none⟩], ?_, ?_⟩
  · exact congrArg (· ++ _) hlog
  · intro entry hentry
    rw [List.mem_singleton.mp hentry]

end Driver

end DataAccess
