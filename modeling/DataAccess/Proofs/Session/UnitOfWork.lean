/-
Units of work as a caller writes them: a tree. In a transaction there are
statements and nested transactions, one after the other; in a nested one
there are again statements and nested ones; and each is ended when its work
is done. So each ends before its parent, and only the innermost is used.

A tree is run as it stands, whatever fails on the way: a caller that goes on
differently after a failure runs another tree. What is inside a transaction
that did not begin is not run at all.

A run leaves a `Trace`, the tree again with what came of each call. The calls
of the driver are its leaves, from left to right. `Follows` says how a trace
answers a tree, and `Work.exists_runs` proves that every run does so,
whatever the driver does. What a database makes of the calls is read off the
trace alone, in `Proofs/Session/Survival`.
-/
import DataAccess.Proofs.Session.History

namespace DataAccess

-- ================================================================= the tree

/-- What is done in a transaction, in order. -/
inductive Work where
  | done
  | statement (st : Statement) (next : Work)
  | nested (inner : Work) (how : Ending) (next : Work)

/-- A root transaction with what is done in it. -/
structure UnitOfWork where
  readOnly : Bool
  work : Work
  how : Ending

/-- What came of the work in a transaction. -/
inductive Trace where
  | done
  | statement (reply : Reply Unit) (next : Trace)
  /-- A nested transaction that did not begin. -/
  | unbegun (begun : Reply TransactionId) (next : Trace)
  /-- A nested transaction: how it began, what came of the work in it, what
  was asked for in the end, and how it ended. -/
  | nested (begun : Reply TransactionId) (inner : Trace) (asked : Outcome)
      (ended : Reply Unit) (next : Trace)

/-- What came of a unit of work. -/
inductive Course where
  | unbegun (begun : Reply TransactionId)
  | whole (begun : Reply TransactionId) (inner : Trace) (ended : Reply Unit)

/-- Does the work in a transaction. -/
def Work.run (schema : Schema) : Work → TransactionId → Action Trace
  | .done, _ => pure .done
  | .statement st next, t => do
    let reply ← Action.watch (st.run schema t)
    let rest ← next.run schema t
    return .statement reply rest
  | .nested inner how next, t => do
    let begun ← Action.watch (Action.beginNested t)
    match begun.result with
    | .error _ =>
      let rest ← next.run schema t
      return .unbegun begun rest
    | .ok child =>
      let inside ← inner.run schema child
      let asked := how.outcome ((← get).transaction child).readOnly
      let ended ← Action.watch (how.run child)
      let rest ← next.run schema t
      return .nested begun inside asked ended rest

/-- Begins a root transaction, does the work in it, and ends it. -/
def UnitOfWork.run (schema : Schema) (u : UnitOfWork) : Action Course := do
  let begun ← Action.watch (Action.begin u.readOnly)
  match begun.result with
  | .error _ => return .unbegun begun
  | .ok root =>
    let inside ← u.work.run schema root
    let ended ← Action.watch (u.how.run root)
    return .whole begun inside ended

/-- The calls of a trace, in order. -/
def Trace.records : Trace → List CallRecord
  | .done => []
  | .statement reply next => reply.records ++ next.records
  | .unbegun begun next => begun.records ++ next.records
  | .nested begun inner _ ended next =>
    begun.records ++ inner.records ++ ended.records ++ next.records

/-- The calls of a unit of work, in order. -/
def Course.records : Course → List CallRecord
  | .unbegun begun => begun.records
  | .whole begun inner ended =>
    begun.records ++ inner.records ++ ended.records

-- ============================================================== the answer

/-- A statement that changes data is one call, if it may be run and its
parameters fit; and if the call does not fail, the statement does not. -/
def Statement.Answers (c : Nat) (readOnly : Bool) (reply : Reply Unit) :
    Statement → Prop
  | .execute sql params =>
    readOnly = false → ∀ bound, params.resolve sql = .ok bound →
      ∃ failure, reply.records
          = [⟨some c, .execute bound.sql bound.params, failure⟩]
        ∧ (failure = none → reply.result = .ok ())
  | _ => True

/-- How a trace answers the work in a transaction on a connection, when the
numbers that are handed out meanwhile are those after one up to another. -/
inductive Follows (c : Nat) (nameOf : Nat → String) (readOnly : Bool) :
    Nat → Nat → Work → Trace → Prop where
  | done (n : Nat) : Follows c nameOf readOnly n n .done .done
  | statement {lo hi : Nat} {st : Statement} {reply : Reply Unit}
      {next : Work} {rest : Trace}
      (hwork : ∀ entry ∈ reply.records,
        entry.connection = some c ∧ entry.call.isWork = true)
      (hanswers : st.Answers c readOnly reply)
      (hrest : Follows c nameOf readOnly lo hi next rest) :
      Follows c nameOf readOnly lo hi (.statement st next)
        (.statement reply rest)
  | unbegun {lo hi : Nat} {inner next : Work} {how : Ending}
      {begun : Reply TransactionId} {rest : Trace} (failure : DriverError)
      (hbegun : begun.records
        = [⟨some c, .savepoint (nameOf (lo + 1)), some failure⟩])
      (hrest : Follows c nameOf readOnly (lo + 1) hi next rest) :
      Follows c nameOf readOnly lo hi (.nested inner how next)
        (.unbegun begun rest)
  | nested {lo mid hi : Nat} {inner next : Work} {how : Ending}
      {child : TransactionId} {ended : Reply Unit} {inside rest : Trace}
      {released : Option DriverError}
      (hinside : Follows c nameOf readOnly (lo + 1) mid inner inside)
      (hended : Server.Closing c (nameOf (lo + 1)) (how.outcome readOnly)
        released ended.records)
      (hanswers : Unfailing ended.records → ended.result = .ok ())
      (hrest : Follows c nameOf readOnly mid hi next rest) :
      Follows c nameOf readOnly lo hi (.nested inner how next)
        (.nested ⟨.ok child, [⟨some c, .savepoint (nameOf (lo + 1)), none⟩]⟩
          inside (how.outcome readOnly) ended rest)

/-- How a course answers a unit of work on the connection that is opened for
it, when the root takes a number. -/
inductive UnitOfWork.Answered (u : UnitOfWork) (c : Nat)
    (nameOf : Nat → String) (number : Nat) : Course → Prop where
  | unconnected {begun : Reply TransactionId} (failure : DriverError)
      (hbegun : begun.records = [⟨none, .connect, some failure⟩]) :
      Answered u c nameOf number (.unbegun begun)
  | abandoned {begun : Reply TransactionId} (failure : DriverError)
      (closing : Option DriverError)
      (hbegun : begun.records = [⟨none, .connect, none⟩,
        ⟨some c, .begin u.readOnly, some failure⟩,
        ⟨some c, .close, closing⟩]) :
      Answered u c nameOf number (.unbegun begun)
  | whole {last : Nat} {root : TransactionId} {inner : Trace}
      {reply : Reply Unit} (ended closed : Option DriverError)
      (hinner : Follows c nameOf u.readOnly number last u.work inner)
      (hended : reply.records
        = [⟨some c, (u.how.outcome u.readOnly).call, ended⟩,
          ⟨some c, .close, closed⟩])
      (hanswers : Unfailing reply.records → reply.result = .ok ()) :
      Answered u c nameOf number
        (.whole ⟨.ok root, [⟨none, .connect, none⟩,
          ⟨some c, .begin u.readOnly, none⟩]⟩ inner reply)

-- ============================================================ what stays

namespace Ledger

variable {l l' : Ledger}

/-- What the work in a transaction leaves as it was: the connections, and
the transactions that were there. -/
structure Leaves (l l' : Ledger) : Prop where
  savepointPrefix : l'.savepointPrefix = l.savepointPrefix
  connections : l'.connections = l.connections
  transactions : ∀ {t : Nat} {tx : Transaction},
    l.transactions[t]? = some tx → l'.transactions[t]? = some tx

theorem Leaves.refl (l : Ledger) : l.Leaves l :=
  ⟨rfl, rfl, fun h => h⟩

theorem Leaves.trans {l'' : Ledger} (h : l.Leaves l') (h' : l'.Leaves l'') :
    l.Leaves l'' :=
  ⟨h'.savepointPrefix.trans h.savepointPrefix,
    h'.connections.trans h.connections,
    fun htx => h'.transactions (h.transactions htx)⟩

/-- A transaction that was open is as it was. -/
theorem Leaves.transaction_eq (h : l.Leaves l') {t : TransactionId}
    (hopen : l.IsOpen t) : l'.transaction t = l.transaction t :=
  transaction_eq_of_getElem? (h.transactions (getElem?_of_isOpen hopen))

/-- What is left as it was stays open. -/
theorem Leaves.isOpen (h : l.Leaves l') {t : TransactionId}
    (hopen : l.IsOpen t) : l'.IsOpen t := by
  unfold IsOpen
  rw [h.transaction_eq hopen]
  exact hopen

/-- It keeps its connection. -/
theorem Leaves.connectionOf?_eq (h : l.Leaves l') {t : TransactionId}
    (hopen : l.IsOpen t) : l'.connectionOf? t = l.connectionOf? t := by
  have hentry := getElem?_of_isOpen hopen
  unfold connectionOf?
  rw [hentry, h.transactions hentry, h.connections]

theorem Leaves.savepointName_eq (h : l.Leaves l') :
    l'.savepointName = l.savepointName := by
  unfold savepointName
  rw [h.savepointPrefix]

/-- A transaction that is open, with nothing open in it. -/
structure Begins (l : Ledger) (t : TransactionId) (c : Nat)
    (savepoint : Option String) (readOnly : Bool) : Prop where
  ends : l.Ends t c
  savepoint : (l.transaction t).savepoint = savepoint
  readOnly : (l.transaction t).readOnly = readOnly

/-- A root transaction stands behind the others as it begins. -/
theorem begins_begun (h : l.Wiring) (readOnly : Bool) :
    (l.begun readOnly).Begins l.transactions.length l.opened none
      readOnly := by
  have hroot : (l.begun readOnly).transactions[l.transactions.length]?
      = some (l.newRoot readOnly) := List.getElem?_concat_length
  have htx := transaction_eq_of_getElem? hroot
  refine ⟨⟨?_, ?_, ?_⟩, ?_, ?_⟩
  · unfold IsOpen
    rw [htx]
    rfl
  · rw [htx]
    rfl
  · rw [connectionOf?_begun h, if_pos rfl]
  · rw [htx]
    rfl
  · rw [htx]
    rfl

/-- A nested transaction stands behind the others as it begins. -/
theorem begins_nested {p : TransactionId} {c : Nat} (hopen : l.IsOpen p)
    (hc : l.connectionOf? p = some c) :
    (l.nested p c).Begins l.transactions.length c
      (some (l.savepointName (l.last + 1))) (l.transaction p).readOnly := by
  have htx := transaction_eq_of_getElem? (l.getElem?_nested_length p c)
  refine ⟨⟨?_, ?_, ?_⟩, ?_, ?_⟩
  · unfold IsOpen
    rw [htx]
    rfl
  · rw [htx]
    rfl
  · rw [connectionOf?_nested hopen, if_pos rfl, hc]
  · rw [htx]
    rfl
  · rw [htx]
    rfl

/-- It is like that still after work that leaves it as it was. -/
theorem Begins.mono {t : TransactionId} {c : Nat} {savepoint : Option String}
    {readOnly : Bool} (h : l.Begins t c savepoint readOnly)
    (hleaves : l.Leaves l') : l'.Begins t c savepoint readOnly := by
  have htx := hleaves.transaction_eq h.ends.isOpen
  refine ⟨⟨hleaves.isOpen h.ends.isOpen, ?_, ?_⟩, ?_, ?_⟩
  · rw [htx]
    exact h.ends.childless
  · rw [hleaves.connectionOf?_eq h.ends.isOpen]
    exact h.ends.connection
  · rw [htx]
    exact h.savepoint
  · rw [htx]
    exact h.readOnly

/-- When a nested transaction has begun, worked and ended, the transactions
before it are as they were: its parent has counted it and counts it no
more. -/
theorem leaves_of_nested {p : TransactionId} {c : Nat}
    (hleaves : (l.nested p c).Leaves l') (entries : List CallRecord) :
    l.Leaves (l'.nestedEnded l.transactions.length entries) := by
  refine ⟨hleaves.savepointPrefix, hleaves.connections, ?_⟩
  intro t tx htx
  have hparent : (l'.transaction l.transactions.length).parent = some p := by
    rw [transaction_eq_of_getElem?
      (hleaves.transactions (l.getElem?_nested_length p c))]
    rfl
  have hended := getElem?_withEnded_of_some (t := l.transactions.length)
    (hleaves.transactions (getElem?_nested_of_some c htx))
  rw [hparent] at hended
  refine hended.trans ?_
  have hne : ¬ l.transactions.length = t :=
    Nat.ne_of_gt (List.getElem?_eq_some_iff.mp htx).1
  by_cases hpt : p = t <;> simp [hpt, hne]

end Ledger

-- =========================================================== single calls

namespace Action

/-- Running a statement that changes data in a writable transaction. -/
theorem execute_runs {s : Session} {t : TransactionId} {c : Nat}
    (hopen : s.ledger.IsOpen t)
    (hwritable : (s.transaction t).readOnly = false)
    (hc : s.connectionOf? t = some c) {sql : String} {params : Params}
    {bound : BoundStatement} (hbound : params.resolve sql = .ok bound) :
    ∃ failure, ((execute t sql params).after s).ledger
        = s.ledger.record
            [⟨some c, .execute bound.sql bound.params, failure⟩]
      ∧ (failure = none → ∃ n, (execute t sql params).answer s = .ok n) := by
  have hresolve : resolve t sql params = pure bound := by
    unfold resolve
    rw [hbound]
  have hunfinished : (s.transaction t).finished = false := hopen
  have hensured : ensureWritable t bound.sql s = .ok () s := by
    refine EStateM.apply_eq_ok_iff.mpr ⟨?_, after_ensureWritable s t _⟩
    rw [answer_ensureWritable, hunfinished, hwritable]
    rfl
  have hrun : execute t sql params s
      = onConnection t bound.sql bound.params
          (fun c => Driver.execute c bound.sql bound.params) s := by
    unfold execute
    rw [hresolve, pure_bind, EStateM.bind_of_eq_ok hensured]
  obtain ⟨failure, htallies, hledger⟩ := onConnection_cases hc
    (fun c => Driver.execute c bound.sql bound.params)
    (Driver.records_execute c bound.sql bound.params) bound.sql bound.params
  refine ⟨failure, ?_, ?_⟩
  · unfold EStateM.after
    rw [hrun]
    exact hledger
  · intro hnone
    subst hnone
    unfold EStateM.answer
    rw [hrun]
    generalize hanswer : (onConnection t bound.sql bound.params
      (fun c => Driver.execute c bound.sql bound.params)).answer s = r
      at htallies
    cases htallies with
    | answered n => exact ⟨n, hanswer⟩

end Action

/-- A statement adds to the log the calls that it made on the connection of
its transaction, and nothing else changes. -/
theorem Statement.run_cases (schema : Schema) (st : Statement) {s : Session}
    {t : TransactionId} {c : Nat} (hconnected : ∀ t, s.ledger.Connected t)
    (hopen : s.ledger.IsOpen t) (hc : s.ledger.connectionOf? t = some c) :
    ∃ entries, ((st.run schema t).after s).ledger = s.ledger.record entries
      ∧ (∀ entry ∈ entries,
        entry.connection = some c ∧ entry.call.isWork = true)
      ∧ st.Answers c (s.transaction t).readOnly
          ⟨(st.run schema t).answer s, entries⟩ := by
  have hstep := Session.step_perform schema s hconnected (.statement t st)
  obtain ⟨entries, hledger, hadmits⟩ : ∃ entries,
      ((st.run schema t).after s).ledger = s.ledger.record entries
        ∧ ∀ entry ∈ entries, s.ledger.Admits t entry := by
    generalize hl : (s.perform schema (.statement t st)).ledger = l at hstep
    cases hstep with
    | refused hrefuses => cases hrefuses
    | worked hadmits => exact ⟨_, hl, hadmits⟩
  refine ⟨entries, hledger, ?_, ?_⟩
  · intro entry hmem
    have hadmitted := hadmits entry hmem
    exact ⟨hadmitted.connection_eq.trans hc, hadmitted.isWork⟩
  · cases st with
    | execute sql params =>
        intro hwritable bound hbound
        rw [s.connectionOf?_ledger] at hc
        obtain ⟨failure, hexecuted, hanswer⟩ :=
          Action.execute_runs hopen hwritable hc hbound
        refine ⟨failure, ?_, ?_⟩
        · change ((Action.ignoring (Action.execute t sql params)).after
            s).ledger = _ at hledger
          rw [Action.after_ignoring, hexecuted] at hledger
          have hlogs := congrArg Ledger.log hledger
          exact (List.append_cancel_left hlogs).symm
        · intro hnone
          obtain ⟨n, hn⟩ := hanswer hnone
          show (Action.ignoring (Action.execute t sql params)).answer s = _
          rw [Action.answer_ignoring, hn]
          rfl
    | _ => trivial

namespace Ending

variable {s : Session} {t : TransactionId} {c : Nat}

/-- Ending a transaction does not fail if what it comes to does not. -/
theorem answer_run (hopen : s.ledger.IsOpen t) (how : Ending)
    (h : (Action.finish t (how.outcome (s.transaction t).readOnly)).answer s
      = .ok ()) :
    (how.run t).answer s = .ok () := by
  have hunfinished : ¬ (s.transaction t).finished = true :=
    Bool.eq_false_iff.mp hopen
  have hclose : (Action.close t).answer s = (Action.finish t
      (Action.impliedOutcome (s.transaction t).readOnly)).answer s := by
    unfold Action.close
    rw [EStateM.answer_bind_ok (EStateM.answer_get s), EStateM.after_get]
    dsimp only
    rw [if_neg hunfinished]
  cases how with
  | commit => exact h
  | rollback => exact h
  | close => exact hclose.trans h
  | drop =>
      show (Action.drop t).answer s = _
      unfold Action.drop
      rw [EStateM.answer_bind_ok (Action.answer_attempt s _),
        hclose.trans h]
      rfl

/-- The same, with what is left. -/
theorem run_of_finish (hopen : s.ledger.IsOpen t) (how : Ending)
    {r : Except Error Unit} {s' : Session}
    (hrun : Action.finish t (how.outcome (s.transaction t).readOnly) s
      = Action.ofExcept r s') :
    ((how.run t).after s).ledger = s'.ledger
      ∧ (r = .ok () → (how.run t).answer s = .ok ()) := by
  constructor
  · rw [ledger_run]
    unfold EStateM.after
    rw [hrun]
    cases r <;> rfl
  · rintro rfl
    refine answer_run hopen how ?_
    unfold EStateM.answer
    rw [hrun]
    rfl

/-- How a nested transaction ends. -/
theorem run_nested (how : Ending) (hends : s.ledger.Ends t c) {name : String}
    (hnested : (s.transaction t).savepoint = some name) :
    ∃ released entries,
      Server.Closing c name (how.outcome (s.transaction t).readOnly) released
        entries
      ∧ ((how.run t).after s).ledger = s.ledger.nestedEnded t entries
      ∧ (Unfailing entries → (how.run t).answer s = .ok ()) := by
  cases houtcome : how.outcome (s.transaction t).readOnly with
  | commit =>
      obtain ⟨released, r, s', hrun, -, hok, hledger⟩ :=
        Action.finish_commit_runs hends hnested
      rw [← houtcome] at hrun
      obtain ⟨hafter, hanswer⟩ := run_of_finish hends.isOpen how hrun
      refine ⟨released, _, .kept released, hafter.trans hledger, ?_⟩
      intro hunfailing
      exact hanswer (hok.mpr (hunfailing _ (List.mem_singleton_self _)))
  | rollback =>
      obtain ⟨reverted, released, r, s', hrun, -, hok, hledger⟩ :=
        Action.finish_rollback_runs hends hnested
      rw [← houtcome] at hrun
      obtain ⟨hafter, hanswer⟩ := run_of_finish hends.isOpen how hrun
      refine ⟨released, _, .reverted reverted released,
        hafter.trans hledger, ?_⟩
      intro hunfailing
      exact hanswer (hok.mpr ⟨hunfailing _ (List.mem_cons_self ..),
        hunfailing _ (List.mem_cons_of_mem _ (List.mem_singleton_self _))⟩)

/-- How a root transaction ends. -/
theorem run_root (how : Ending) (hends : s.ledger.Ends t c)
    (hroot : (s.transaction t).savepoint = none) :
    ∃ ended closed,
      ((how.run t).after s).ledger = s.ledger.rootEnded t
        [⟨some c, (how.outcome (s.transaction t).readOnly).call, ended⟩,
         ⟨some c, .close, closed⟩]
      ∧ (ended = none → closed = none → (how.run t).answer s = .ok ()) := by
  obtain ⟨ended, closed, s', hrun, hledger⟩ :=
    Action.finish_root_runs hends hroot
      (how.outcome (s.transaction t).readOnly)
  obtain ⟨hafter, hanswer⟩ := run_of_finish hends.isOpen how hrun
  exact ⟨ended, closed, hafter.trans hledger, fun hended hclosed =>
    hanswer ((Action.rootAnswer_eq_ok_iff ..).mpr ⟨hended, hclosed⟩)⟩

end Ending

-- =================================================================== a run

namespace Session

variable {s : Session}

/-- Sessions stay consistent as transactions begin. -/
theorem consistent_begin (h : s.ledger.Consistent) (readOnly : Bool) :
    ((Action.begin readOnly).after s).ledger.Consistent := by
  have hperformed := @consistent_perform [] s h (.begin readOnly)
  change ((Action.ignoring (Action.begin readOnly)).after
    s).ledger.Consistent at hperformed
  rw [Action.after_ignoring] at hperformed
  exact hperformed

/-- A transaction that is begun within another keeps the ledger consistent. -/
theorem consistent_beginNested (h : s.ledger.Consistent) (t : TransactionId) :
    ((Action.beginNested t).after s).ledger.Consistent := by
  have hperformed := @consistent_perform [] s h (.beginNested t)
  change ((Action.ignoring (Action.beginNested t)).after
    s).ledger.Consistent at hperformed
  rw [Action.after_ignoring] at hperformed
  exact hperformed

end Session

namespace Work

/-- What a run of the work in a transaction is: it has a trace, the calls of
the trace are what the log has more, what was there before is as it was, and
the trace answers the work. -/
structure Runs (schema : Schema) (w : Work) (s : Session) (t : TransactionId)
    (c : Nat) (trace : Trace) (s' : Session) : Prop where
  run_eq : w.run schema t s = .ok trace s'
  consistent : s'.ledger.Consistent
  leaves : s.ledger.Leaves s'.ledger
  log : s'.ledger.log = s.ledger.log ++ trace.records
  follows : Follows c s.ledger.savepointName (s.transaction t).readOnly
    s.ledger.last s'.ledger.last w trace

variable {schema : Schema} {s s' : Session} {t : TransactionId} {c : Nat}
  {next : Work} {rest : Trace}

/-- A statement, and then the rest. -/
theorem Runs.statement {st : Statement} (hopen : s.ledger.IsOpen t)
    {entries : List CallRecord}
    (hledger : ((st.run schema t).after s).ledger = s.ledger.record entries)
    (hwork : ∀ entry ∈ entries,
      entry.connection = some c ∧ entry.call.isWork = true)
    (hanswers : st.Answers c (s.transaction t).readOnly
      ⟨(st.run schema t).answer s, entries⟩)
    (h : next.Runs schema ((st.run schema t).after s) t c rest s') :
    (Work.statement st next).Runs schema s t c
      (.statement ⟨(st.run schema t).answer s, entries⟩ rest) s' := by
  have hlog : ((st.run schema t).after s).ledger.log
      = s.ledger.log ++ entries := by
    rw [hledger, Ledger.log_record]
  have hleaves : s.ledger.Leaves ((st.run schema t).after s).ledger := by
    rw [hledger]
    exact ⟨rfl, rfl, fun h => h⟩
  constructor
  · unfold run
    rw [EStateM.bind_of_eq_ok (Action.watch_eq _ hlog),
      EStateM.bind_of_eq_ok h.run_eq]
    rfl
  · exact h.consistent
  · exact hleaves.trans h.leaves
  · rw [h.log, hlog, List.append_assoc]
    rfl
  · have hrest := h.follows
    rw [hleaves.savepointName_eq, ← Session.transaction_ledger,
      hleaves.transaction_eq hopen, hledger] at hrest
    exact .statement hwork hanswers hrest

/-- A nested transaction that does not begin, and then the rest. -/
theorem Runs.unbegun {inner : Work} {how : Ending} {s₁ : Session} {e : Error}
    {failure : DriverError} (hopen : s.ledger.IsOpen t)
    (hbegun : Action.beginNested t s = .error e s₁)
    (hledger : s₁.ledger = s.ledger.unmarked c failure)
    (h : next.Runs schema s₁ t c rest s') :
    (Work.nested inner how next).Runs schema s t c
      (.unbegun ⟨.error e, [⟨some c,
        .savepoint (s.ledger.savepointName (s.ledger.last + 1)),
        some failure⟩]⟩ rest) s' := by
  have hwatch := Action.watch_of_error hbegun (congrArg Ledger.log hledger)
  have hleaves : s.ledger.Leaves s₁.ledger := by
    rw [hledger]
    exact ⟨rfl, rfl, fun h => h⟩
  constructor
  · unfold run
    rw [EStateM.bind_of_eq_ok hwatch]
    dsimp only
    rw [EStateM.bind_of_eq_ok h.run_eq]
    rfl
  · exact h.consistent
  · exact hleaves.trans h.leaves
  · rw [h.log, hledger]
    exact List.append_assoc ..
  · have hrest := h.follows
    rw [hleaves.savepointName_eq, ← Session.transaction_ledger,
      hleaves.transaction_eq hopen, hledger] at hrest
    exact .unbegun failure rfl hrest

/-- A nested transaction with the work in it, and then the rest. -/
theorem Runs.nested {inner : Work} {how : Ending} {s₁ s₂ : Session}
    {inside : Trace} (hopen : s.ledger.IsOpen t)
    (hc : s.ledger.connectionOf? t = some c)
    (hbegun : Action.beginNested t s = .ok s.transactions.length s₁)
    (hledger : s₁.ledger = s.ledger.nested t c)
    (hinside : inner.Runs schema s₁ s.transactions.length c inside s₂)
    {released : Option DriverError} {entries : List CallRecord}
    (hclosing : Server.Closing c
      (s.ledger.savepointName (s.ledger.last + 1))
      (how.outcome (s.transaction t).readOnly) released entries)
    (hended : ((how.run s.transactions.length).after s₂).ledger
      = s₂.ledger.nestedEnded s.transactions.length entries)
    (hanswers : Unfailing entries →
      (how.run s.transactions.length).answer s₂ = .ok ())
    (h : next.Runs schema ((how.run s.transactions.length).after s₂) t c rest
      s') :
    (Work.nested inner how next).Runs schema s t c
      (.nested ⟨.ok s.transactions.length, [⟨some c,
          .savepoint (s.ledger.savepointName (s.ledger.last + 1)), none⟩]⟩
        inside (how.outcome (s.transaction t).readOnly)
        ⟨(how.run s.transactions.length).answer s₂, entries⟩ rest) s' := by
  have hwatch := Action.watch_of_ok hbegun (congrArg Ledger.log hledger)
  generalize hs₃ : (how.run s.transactions.length).after s₂ = s₃ at *
  have hwatch' := Action.watch_eq (s := s₂) (how.run s.transactions.length)
    (by rw [hs₃, hended]; rfl)
  rw [hs₃] at hwatch'
  -- the child is as read-only as its parent, from its beginning to its end
  have hbegins : s₁.ledger.Begins s.transactions.length c
      (some (s.ledger.savepointName (s.ledger.last + 1)))
      (s.transaction t).readOnly := by
    rw [hledger]
    exact Ledger.begins_nested hopen hc
  have hreadOnly₁ : (s₁.transaction s.transactions.length).readOnly
      = (s.transaction t).readOnly := hbegins.readOnly
  have hreadOnly₂ : (s₂.transaction s.transactions.length).readOnly
      = (s.transaction t).readOnly := (hbegins.mono hinside.leaves).readOnly
  have hleaves : s.ledger.Leaves s₃.ledger := by
    have hinsideLeaves := hinside.leaves
    rw [hledger] at hinsideLeaves
    rw [hended]
    exact Ledger.leaves_of_nested hinsideLeaves entries
  constructor
  · unfold run
    rw [EStateM.bind_of_eq_ok hwatch]
    dsimp only
    rw [EStateM.bind_of_eq_ok hinside.run_eq, EStateM.get_bind, hreadOnly₂,
      EStateM.bind_of_eq_ok hwatch', EStateM.bind_of_eq_ok h.run_eq]
    rfl
  · exact h.consistent
  · exact hleaves.trans h.leaves
  · have hlog₃ : s₃.ledger.log = s₂.ledger.log ++ entries := by
      rw [hended]
      rfl
    have hlog₁ : s₁.ledger.log = s.ledger.log ++ [⟨some c,
        .savepoint (s.ledger.savepointName (s.ledger.last + 1)), none⟩] := by
      rw [hledger]
      rfl
    rw [h.log, hlog₃, hinside.log, hlog₁]
    simp only [Trace.records, List.append_assoc]
  · have hinsideFollows := hinside.follows
    have hrest := h.follows
    rw [hreadOnly₁, hledger] at hinsideFollows
    rw [hleaves.savepointName_eq, ← Session.transaction_ledger,
      hleaves.transaction_eq hopen, hended] at hrest
    exact .nested hinsideFollows hclosing hanswers hrest

/-- Work in an open transaction is done, whatever fails. -/
theorem exists_runs (schema : Schema) (w : Work) :
    ∀ {s : Session} {t : TransactionId} {c : Nat}, s.ledger.Consistent →
      s.ledger.IsOpen t → s.ledger.connectionOf? t = some c →
      ∃ trace s', w.Runs schema s t c trace s' := by
  -- each part leaves the transaction open, and on its connection, for the next
  induction w with
  | done =>
      intro s t c hconsistent _ _
      exact ⟨.done, s, rfl, hconsistent, .refl _, (List.append_nil _).symm,
        .done _⟩
  | statement st next ih =>
      intro s t c hconsistent hopen hc
      obtain ⟨entries, hledger, hwork, hanswers⟩ :=
        st.run_cases schema hconsistent.connected hopen hc
      have hleaves : s.ledger.Leaves ((st.run schema t).after s).ledger := by
        rw [hledger]
        exact ⟨rfl, rfl, fun h => h⟩
      obtain ⟨rest, s', h⟩ := ih
        (Session.consistent_perform hconsistent (.statement t st))
        (hleaves.isOpen hopen) ((hleaves.connectionOf?_eq hopen).trans hc)
      exact ⟨_, s', h.statement hopen hledger hwork hanswers⟩
  | nested inner how next ihInner ihNext =>
      intro s t c hconsistent hopen hc
      have hc' := hc
      rw [s.connectionOf?_ledger] at hc'
      have hperformed := Session.consistent_beginNested hconsistent t
      rcases Action.beginNested_cases hopen hc' with
        ⟨e, s₁, failure, hbegun, -, hledger⟩ | ⟨s₁, hbegun, hledger⟩
      · rw [EStateM.after_of_eq_error hbegun] at hperformed
        have hleaves : s.ledger.Leaves s₁.ledger := by
          rw [hledger]
          exact ⟨rfl, rfl, fun h => h⟩
        obtain ⟨rest, s', h⟩ := ihNext hperformed (hleaves.isOpen hopen)
          ((hleaves.connectionOf?_eq hopen).trans hc)
        exact ⟨_, s', h.unbegun hopen hbegun hledger⟩
      · rw [EStateM.after_of_eq_ok hbegun] at hperformed
        have hbegins : s₁.ledger.Begins s.transactions.length c
            (some (s.ledger.savepointName (s.ledger.last + 1)))
            (s.transaction t).readOnly := by
          rw [hledger]
          exact Ledger.begins_nested hopen hc
        obtain ⟨inside, s₂, hinside⟩ :=
          ihInner hperformed hbegins.ends.isOpen hbegins.ends.connection
        have hbegins₂ := hbegins.mono hinside.leaves
        have hreadOnly : (s₂.transaction s.transactions.length).readOnly
            = (s.transaction t).readOnly := hbegins₂.readOnly
        obtain ⟨released, entries, hclosing, hended, hanswers⟩ :=
          how.run_nested hbegins₂.ends hbegins₂.savepoint
        rw [hreadOnly] at hclosing
        have hleaves : s.ledger.Leaves
            ((how.run s.transactions.length).after s₂).ledger := by
          have hinsideLeaves := hinside.leaves
          rw [hledger] at hinsideLeaves
          rw [hended]
          exact Ledger.leaves_of_nested hinsideLeaves entries
        obtain ⟨rest, s', h⟩ := ihNext
          (@Session.consistent_perform schema s₂ hinside.consistent
            (.ending s.transactions.length how))
          (hleaves.isOpen hopen) ((hleaves.connectionOf?_eq hopen).trans hc)
        exact ⟨_, s', hinside.nested hopen hc hbegun hledger hclosing hended
          hanswers h⟩

end Work

namespace UnitOfWork

variable {schema : Schema} {u : UnitOfWork} {s s₁ s₂ : Session}

/-- A root that does not begin is all there is. -/
theorem run_unbegun {e : Error} {entries : List CallRecord}
    (hbegun : Action.begin u.readOnly s = .error e s₁)
    (hlog : s₁.ledger.log = s.ledger.log ++ entries) :
    u.run schema s = .ok (.unbegun ⟨.error e, entries⟩) s₁ := by
  unfold run
  rw [EStateM.bind_of_eq_ok (Action.watch_of_error hbegun hlog)]
  rfl

/-- A root that begins is followed by the work in it and by its end. -/
theorem run_whole {root : TransactionId} {inner : Trace}
    {begun ended : List CallRecord}
    (hbegun : Action.begin u.readOnly s = .ok root s₁)
    (hlog : s₁.ledger.log = s.ledger.log ++ begun)
    (hinner : u.work.run schema root s₁ = .ok inner s₂)
    (hended : ((u.how.run root).after s₂).ledger.log
      = s₂.ledger.log ++ ended) :
    u.run schema s
      = .ok (.whole ⟨.ok root, begun⟩ inner
          ⟨(u.how.run root).answer s₂, ended⟩) ((u.how.run root).after s₂) := by
  unfold run
  rw [EStateM.bind_of_eq_ok (Action.watch_of_ok hbegun hlog)]
  dsimp only
  rw [EStateM.bind_of_eq_ok hinner,
    EStateM.bind_of_eq_ok (Action.watch_eq _ hended)]
  rfl

/-- A unit of work is done, whatever fails: its course answers it, and its
calls are what the log has more. -/
theorem exists_course (schema : Schema) (u : UnitOfWork) {s : Session}
    (hconsistent : s.ledger.Consistent) :
    ∃ course s', u.run schema s = .ok course s'
      ∧ s'.ledger.Consistent
      ∧ s'.ledger.log = s.ledger.log ++ course.records
      ∧ u.Answered s.ledger.opened s.ledger.savepointName (s.ledger.last + 1)
          course := by
  have hperformed := Session.consistent_begin hconsistent u.readOnly
  rcases Action.begin_cases s u.readOnly with
    ⟨failure, s₁, hbegun, hledger⟩ | ⟨failure, closing, s₁, hbegun, hledger⟩
    | ⟨s₁, hbegun, hledger⟩
  · -- no connection
    rw [EStateM.after_of_eq_error hbegun] at hperformed
    exact ⟨_, s₁, run_unbegun hbegun (by rw [hledger]; rfl), hperformed,
      by rw [hledger]; rfl, .unconnected failure rfl⟩
  · -- a connection on which nothing began
    rw [EStateM.after_of_eq_error hbegun] at hperformed
    exact ⟨_, s₁, run_unbegun hbegun (by rw [hledger]; rfl), hperformed,
      by rw [hledger]; rfl, .abandoned failure closing rfl⟩
  · -- a root: the work is done on it, and then it is ended
    rw [EStateM.after_of_eq_ok hbegun] at hperformed
    have hbegins : s₁.ledger.Begins s.transactions.length s.ledger.opened none
        u.readOnly := by
      rw [hledger]
      exact Ledger.begins_begun hconsistent.wiring u.readOnly
    obtain ⟨inner, s₂, hinner⟩ := u.work.exists_runs schema hperformed
      hbegins.ends.isOpen hbegins.ends.connection
    have hbegins₂ := hbegins.mono hinner.leaves
    have hreadOnly₁ : (s₁.transaction s.transactions.length).readOnly
        = u.readOnly := hbegins.readOnly
    have hreadOnly₂ : (s₂.transaction s.transactions.length).readOnly
        = u.readOnly := hbegins₂.readOnly
    obtain ⟨ended, closed, hended, hanswer⟩ :=
      u.how.run_root hbegins₂.ends hbegins₂.savepoint
    rw [hreadOnly₂] at hended
    have hlog₁ : s₁.ledger.log = s.ledger.log
        ++ [⟨none, .connect, none⟩,
          ⟨some s.ledger.opened, .begin u.readOnly, none⟩] := by
      rw [hledger]
      rfl
    have hlog₂ := congrArg Ledger.log hended
    have hfollows := hinner.follows
    rw [hreadOnly₁, hledger] at hfollows
    refine ⟨_, _, run_whole hbegun hlog₁ hinner.run_eq hlog₂, ?_, ?_,
      .whole ended closed hfollows rfl ?_⟩
    · exact @Session.consistent_perform schema s₂ hinner.consistent
        (.ending s.transactions.length u.how)
    · refine hlog₂.trans ?_
      show s₂.ledger.log ++ _ = _
      rw [hinner.log, hlog₁]
      simp only [Course.records, List.append_assoc]
    · intro hunfailing
      exact hanswer (hunfailing _ (List.mem_cons_self ..))
        (hunfailing _ (List.mem_cons_of_mem _ (List.mem_singleton_self _)))

end UnitOfWork

end DataAccess
