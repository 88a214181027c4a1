/-
What survives where nothing fails. A unit of work of statements that may be
run says by itself which effects it means to have: those of the statements
whose own transaction commits, and every transaction around it
(`UnitOfWork.surviving`). Nothing of a driver or a database is in this.

A database is left with exactly these, in the order in which they were asked
for, if no call of the driver fails; and none does where no failure is
registered. So the savepoints, of which there may be many of one connection
at a time, do what the tree says.
-/
import DataAccess.Proofs.Session.Steady
import DataAccess.Proofs.Session.Survival

namespace DataAccess

open Server

-- ============================================================= the intent

/-- A statement that changes data and may be run: in a writable transaction,
with parameters that fit. -/
def Statement.Suits (readOnly : Bool) : Statement → Prop
  | .execute sql params =>
    readOnly = false ∧ ∃ bound, params.resolve sql = .ok bound
  | _ => False

/-- Work of such statements. -/
def Work.Suits (readOnly : Bool) : Work → Prop
  | .done => True
  | .statement st next => st.Suits readOnly ∧ next.Suits readOnly
  | .nested inner _ next => inner.Suits readOnly ∧ next.Suits readOnly

/-- What a statement that changes data asks of the database. -/
def Statement.demands : Statement → List Call
  | .execute sql params =>
    match params.resolve sql with
    | .ok bound => [.execute bound.sql bound.params]
    | .error _ => []
  | _ => []

/-- What the work in a transaction asks of the database, in order, each with
how the transactions around it end: its own first, the root last. -/
def Work.demands (readOnly : Bool) :
    List Outcome → Work → List (Call × List Outcome)
  | _, .done => []
  | around, .statement st next =>
    st.demands.map (·, around) ++ next.demands readOnly around
  | around, .nested inner how next =>
    inner.demands readOnly (how.outcome readOnly :: around)
      ++ next.demands readOnly around

/-- What is asked inside of nothing but transactions that commit. -/
def committed (demands : List (Call × List Outcome)) : List Call :=
  (demands.filter fun demand => demand.2.all (· = .commit)).map (·.1)

/-- The effects that a unit of work is to have: those whose own transaction
and every one around it commits. -/
def UnitOfWork.surviving (u : UnitOfWork) : List Call :=
  committed (u.work.demands u.readOnly [u.how.outcome u.readOnly])

/-- What is committed of two parts. -/
theorem committed_append (demands more : List (Call × List Outcome)) :
    committed (demands ++ more) = committed demands ++ committed more := by
  unfold committed
  rw [List.filter_append, List.map_append]

/-- Where every transaction around commits, nothing is lost. -/
theorem committed_map {around : List Outcome}
    (haround : ∀ outcome ∈ around, outcome = .commit) (calls : List Call) :
    committed (calls.map (·, around)) = calls := by
  have hall : around.all (· = .commit) = true := by
    rw [List.all_eq_true]
    intro outcome hmem
    exact decide_eq_true (haround outcome hmem)
  unfold committed
  rw [List.filter_eq_self.mpr, List.map_map]
  · exact List.map_id calls
  · intro demand hmem
    obtain ⟨call, -, rfl⟩ := List.mem_map.mp hmem
    exact hall

/-- Where one of them is rolled back, everything is. -/
theorem committed_map_of_rollback {around : List Outcome}
    (haround : .rollback ∈ around) (calls : List Call) :
    committed (calls.map (·, around)) = [] := by
  have hall : ¬ around.all (· = .commit) = true := by
    intro hall
    cases of_decide_eq_true (List.all_eq_true.mp hall _ haround)
  unfold committed
  rw [List.filter_eq_nil_iff.mpr, List.map_nil]
  intro demand hmem
  obtain ⟨call, -, rfl⟩ := List.mem_map.mp hmem
  exact hall

/-- So all work inside of a transaction that is rolled back is lost. -/
theorem committed_demands_of_rollback {around : List Outcome}
    (haround : .rollback ∈ around) (readOnly : Bool) (w : Work) :
    committed (w.demands readOnly around) = [] := by
  -- on the way down outcomes are added to those around, and none is lost
  induction w generalizing around with
  | done => rfl
  | statement st next ih =>
      rw [Work.demands, committed_append, committed_map_of_rollback haround,
        ih haround]
      rfl
  | nested inner how next ihInner ihNext =>
      rw [Work.demands, committed_append,
        ihInner (List.mem_cons_of_mem _ haround), ihNext haround]
      rfl

-- ============================================================ the success

/-- A call of the caller that was answered. -/
def Reply.Succeeds {α : Type} (reply : Reply α) : Prop :=
  ∃ x, reply.result = .ok x

/-- Work of which every call was answered. -/
def Trace.Succeeds : Trace → Prop
  | .done => True
  | .statement reply next => reply.Succeeds ∧ next.Succeeds
  | .unbegun _ _ => False
  | .nested begun inner _ ended next =>
    begun.Succeeds ∧ inner.Succeeds ∧ ended.Succeeds ∧ next.Succeeds

/-- A unit of work of which every call was answered. -/
def Course.Succeeds : Course → Prop
  | .unbegun _ => False
  | .whole begun inner ended =>
    begun.Succeeds ∧ inner.Succeeds ∧ ended.Succeeds

namespace Follows

variable {c lo hi : Nat} {nameOf : Nat → String} {readOnly : Bool} {w : Work}
  {trace : Trace}

/-- If no call of the driver fails, no call of the caller does. -/
theorem succeeds (h : Follows c nameOf readOnly lo hi w trace)
    (hsuits : w.Suits readOnly) (hcalls : Unfailing trace.records) :
    trace.Succeeds := by
  induction h with
  | done => trivial
  | @statement _ _ st reply _ _ hwork hanswers _ ih =>
      obtain ⟨hreply, hrest⟩ := unfailing_append.mp hcalls
      refine ⟨?_, ih hsuits.2 hrest⟩
      cases st with
      | execute sql params =>
          obtain ⟨⟨hwritable, bound, hbound⟩, -⟩ := hsuits
          obtain ⟨failure, hrecords, hanswer⟩ :=
            hanswers hwritable bound hbound
          rw [hrecords] at hreply
          exact ⟨(), hanswer (hreply _ (List.mem_singleton_self _))⟩
      | _ => exact hsuits.1.elim
  | unbegun failure hbegun =>
      rw [Trace.records, hbegun] at hcalls
      cases hcalls _ (List.mem_cons_self ..)
  | nested hinside hended hanswers hrest ihInside ihRest =>
      simp only [Trace.records, unfailing_append] at hcalls
      obtain ⟨⟨⟨-, hinsideCalls⟩, hendedCalls⟩, hrestCalls⟩ := hcalls
      exact ⟨⟨_, rfl⟩, ihInside hsuits.1 hinsideCalls,
        ⟨(), hanswers hendedCalls⟩, ihRest hsuits.2 hrestCalls⟩

/-- If no call of the driver fails, what did not go back to a savepoint is
what was asked inside of nothing but transactions that commit. -/
theorem outside_eq (h : Follows c nameOf readOnly lo hi w trace)
    (hsuits : w.Suits readOnly) (hcalls : Unfailing trace.records) (n : Nat)
    {around : List Outcome}
    (haround : ∀ outcome ∈ around, outcome = .commit) :
    (trace.outside Trace.undone c n).map (·.call)
      = committed (w.demands readOnly around) := by
  induction h generalizing n around with
  | done => rfl
  | @statement _ _ st reply _ _ hwork hanswers _ ih =>
      obtain ⟨hreply, hrest⟩ := unfailing_append.mp hcalls
      rw [Trace.outside, Work.demands, committed_append, List.map_append,
        committed_map haround, ih hsuits.2 hrest _ haround]
      refine congrArg (· ++ _) ?_
      cases st with
      | execute sql params =>
          obtain ⟨⟨hwritable, bound, hbound⟩, -⟩ := hsuits
          obtain ⟨failure, hrecords, -⟩ := hanswers hwritable bound hbound
          rw [hrecords] at hreply
          have hnone : failure = none := hreply _ (List.mem_singleton_self _)
          have hcounts : Counts c
              ⟨some c, .execute bound.sql bound.params, none⟩ := ⟨rfl, rfl⟩
          rw [hrecords, hnone, Server.effects, if_pos ⟨hcounts, rfl⟩]
          simp only [Statement.demands, hbound]
          rfl
      | _ => exact hsuits.1.elim
  | unbegun failure hbegun =>
      rw [Trace.records, hbegun] at hcalls
      cases hcalls _ (List.mem_cons_self ..)
  | @nested _ _ _ inner next how _ ended inside rest _ hinside hended _ hrest
      ihInside ihRest =>
      simp only [Trace.records, unfailing_append] at hcalls
      obtain ⟨⟨⟨-, hinsideCalls⟩, hendedCalls⟩, hrestCalls⟩ := hcalls
      rw [Trace.outside, Work.demands, committed_append, List.map_append,
        ihRest hsuits.2 hrestCalls _ haround]
      refine congrArg (· ++ _) ?_
      -- where no call fails, to go back is what it means to roll back
      rw [show Trace.undone (how.outcome readOnly) ended
        = decide (how.outcome readOnly = .rollback) from
        hended.succeeds_of_unfailing hendedCalls]
      cases houtcome : how.outcome readOnly with
      | commit =>
          refine ihInside hsuits.1 hinsideCalls _ ?_
          intro outcome hmem
          rcases List.mem_cons.mp hmem with rfl | hmem
          · rfl
          · exact haround outcome hmem
      | rollback =>
          exact (committed_demands_of_rollback (List.mem_cons_self ..)
            readOnly inner).symm

end Follows

-- ============================================================ the calls

/-- Work of statements that may be run makes no failing call on a driver that
does not fail. -/
theorem Work.steady_run (schema : Schema) {readOnly : Bool} {w : Work}
    (hsuits : w.Suits readOnly) (t : TransactionId) :
    Steady (w.run schema t) := by
  induction w generalizing t with
  | done => exact steady_pure _
  | statement st next ih =>
      have hst : Steady (st.run schema t) := by
        cases st with
        | execute sql params =>
            exact Action.steady_ignoring (Action.steady_execute sql params)
        | _ => exact hsuits.1.elim
      exact (Action.steady_watch hst).bind fun _ =>
        (ih hsuits.2 t).bind fun _ => steady_pure _
  | nested inner how next ihInner ihNext =>
      unfold run
      refine (Action.steady_watch (Action.steady_beginNested t)).bind
        fun begun => ?_
      split
      · exact (ihNext hsuits.2 t).bind fun _ => steady_pure _
      · next child _ =>
        exact (ihInner hsuits.1 child).bind fun _ => steady_get.bind fun _ =>
          (Action.steady_watch (how.steady_run child)).bind fun _ =>
            (ihNext hsuits.2 t).bind fun _ => steady_pure _

/-- A suitable unit of work is steady. -/
theorem UnitOfWork.steady_run (schema : Schema) {u : UnitOfWork}
    (hsuits : u.work.Suits u.readOnly) : Steady (u.run schema) := by
  unfold run
  refine (Action.steady_watch (Action.steady_begin u.readOnly)).bind
    fun begun => ?_
  split
  · exact steady_pure _
  · next root _ =>
    exact (Work.steady_run schema hsuits root).bind fun _ =>
      (Action.steady_watch (u.how.steady_run root)).bind fun _ =>
        steady_pure _

-- ======================================================= the unit of work

/-- If no call of the driver fails, every call of the caller is answered, and
a database that makes the calls publishes what is to survive. -/
theorem UnitOfWork.Answered.published_of_unfailing {u : UnitOfWork}
    {c number : Nat} {nameOf : Nat → String} {course : Course}
    (hnames : ∀ {m n : Nat}, nameOf m = nameOf n → m = n)
    (h : u.Answered c nameOf number course)
    (hsuits : u.work.Suits u.readOnly) (hcalls : Unfailing course.records) :
    course.Succeeds
      ∧ ∃ v, Server.replay c fresh course.records = some v
        ∧ v.published.map (·.call) = u.surviving := by
  obtain ⟨v, hreplay, hpublished⟩ := h.replay hnames
  cases h with
  | unconnected failure hbegun =>
      rw [Course.records, hbegun] at hcalls
      cases hcalls _ (List.mem_cons_self ..)
  | abandoned failure closing hbegun =>
      rw [Course.records, hbegun] at hcalls
      cases hcalls _ (List.mem_cons_of_mem _ (List.mem_cons_self ..))
  | whole ended closed hinner hended hanswers =>
      have hall := hcalls
      simp only [Course.records, unfailing_append] at hall
      obtain ⟨⟨-, hinnerCalls⟩, hendedCalls⟩ := hall
      refine ⟨⟨⟨_, rfl⟩, hinner.succeeds hsuits hinnerCalls,
        (), hanswers hendedCalls⟩, v, hreplay, ?_⟩
      rw [hended] at hendedCalls
      have hnone : ended = none := hendedCalls _ (List.mem_cons_self ..)
      subst hnone
      rw [hpublished, Course.committed, hended]
      unfold UnitOfWork.surviving
      cases u.how.outcome u.readOnly with
      | commit =>
          refine hinner.outside_eq hsuits hinnerCalls _ ?_
          intro outcome hmem
          exact List.mem_singleton.mp hmem
      | rollback =>
          exact (committed_demands_of_rollback (List.mem_singleton_self _)
            u.readOnly u.work).symm

/-- A unit of work of statements that may be run: on a driver that does not
fail no call fails, and if none fails, every call of the caller is answered,
and a database publishes exactly the effects whose own transaction and every
transaction around it committed, in order. -/
theorem UnitOfWork.published_eq_surviving {config : Config} {driver : Driver}
    {s : Session} (schema : Schema)
    (hstart : Session.start config driver = .ok s) (ops : List Operation)
    {u : UnitOfWork} (hsuits : u.work.Suits u.readOnly) :
    ∃ course s',
      u.run schema (s.performAll schema ops) = .ok course s'
      ∧ s'.driver.log
        = (s.performAll schema ops).driver.log ++ course.records
      ∧ ((s.performAll schema ops).driver.Reliable →
        Unfailing course.records)
      ∧ (Unfailing course.records →
        course.Succeeds
          ∧ ∃ v, Server.replay
              (s.performAll schema ops).driver.connections.length fresh
              course.records = some v
            ∧ v.published.map (·.call) = u.surviving) := by
  have hconsistent : (s.performAll schema ops).ledger.Consistent :=
    Session.consistent_performAll (Session.consistent_start hstart) ops
  obtain ⟨course, s', hrun, -, hlog, hanswered⟩ :=
    u.exists_course schema hconsistent
  refine ⟨course, s', hrun, hlog, ?_, ?_⟩
  · -- the log has grown by one list only, so the two accounts of it agree
    intro hreliable
    obtain ⟨-, entries, hentries, hunfailing⟩ :=
      u.steady_run schema hsuits (s.performAll schema ops) hreliable
    rw [EStateM.after_of_eq_ok hrun] at hentries
    have hlog' : (s.performAll schema ops).driver.log ++ course.records
        = (s.performAll schema ops).driver.log ++ entries :=
      hlog.symm.trans hentries
    rw [List.append_cancel_left hlog']
    exact hunfailing
  · exact hanswered.published_of_unfailing Ledger.savepointName_injective
      hsuits

/-- The statement that inserts a number. -/
def insertion (n : Int64) : Statement :=
  .execute "INSERT INTO t VALUES (?)"
    { positional := [.int64 n], named := [], failure := none }

theorem resolve_insertion (n : Int64) :
    Params.resolve { positional := [.int64 n], named := [], failure := none }
        "INSERT INTO t VALUES (?)"
      = .ok ⟨"INSERT INTO t VALUES (?)", [.int64 n]⟩ := by
  have hnames : (rewriteTokens "INSERT INTO t VALUES (?)").2 = [] := by
    decide +kernel
  unfold Params.resolve
  dsimp only
  rw [hnames]
  rfl

/-- Work at three depths: of 1 to 5, 2 and 3 are rolled back with the
transaction around them, although that of 3 commits, and 4 is committed to
the root. -/
def interleaved : UnitOfWork :=
  { readOnly := false
    work := .statement (insertion 1)
      (.nested
        (.statement (insertion 2)
          (.nested (.statement (insertion 3) .done) .commit .done))
        .drop
        (.nested (.statement (insertion 4) .done) .commit
          (.statement (insertion 5) .done)))
    how := .commit }

/-- The interleaved unit of work is suitable. -/
theorem suits_interleaved :
    interleaved.work.Suits interleaved.readOnly := by
  have hsuits : ∀ n, (insertion n).Suits false :=
    fun n => ⟨rfl, _, resolve_insertion n⟩
  exact ⟨hsuits 1, ⟨hsuits 2, ⟨hsuits 3, trivial⟩, trivial⟩,
    ⟨hsuits 4, trivial⟩, hsuits 5, trivial⟩

/-- What was not rolled back of it. -/
theorem surviving_interleaved :
    interleaved.surviving = [
      .execute "INSERT INTO t VALUES (?)" [.int64 1],
      .execute "INSERT INTO t VALUES (?)" [.int64 4],
      .execute "INSERT INTO t VALUES (?)" [.int64 5]] := by
  have hdemands : ∀ n, (insertion n).demands
      = [.execute "INSERT INTO t VALUES (?)" [.int64 n]] := by
    intro n
    simp only [insertion, Statement.demands, resolve_insertion]
  simp only [UnitOfWork.surviving, interleaved, Work.demands, hdemands]
  rfl

/-- On a driver without a script. -/
theorem published_interleaved :
    Session.start Config.default Driver.empty
        = .ok (Session.blank Driver.empty)
      ∧ interleaved.work.Suits interleaved.readOnly
      ∧ ∃ course s',
        interleaved.run [] (Session.blank Driver.empty) = .ok course s'
        ∧ s'.driver.log = course.records
        ∧ course.Succeeds
        ∧ ∃ v, Server.replay 0 fresh course.records = some v
          ∧ v.published.map (·.call) = [
            .execute "INSERT INTO t VALUES (?)" [.int64 1],
            .execute "INSERT INTO t VALUES (?)" [.int64 4],
            .execute "INSERT INTO t VALUES (?)" [.int64 5]] := by
  refine ⟨Session.start_default _, suits_interleaved, ?_⟩
  obtain ⟨course, s', hrun, hlog, hreliable, hcommits⟩ :=
    UnitOfWork.published_eq_surviving [] (Session.start_default Driver.empty)
      [] suits_interleaved
  obtain ⟨hsucceeds, v, hreplay, hpublished⟩ := hcommits (hreliable rfl)
  rw [surviving_interleaved] at hpublished
  exact ⟨course, s', hrun, hlog, hsucceeds, v, hreplay, hpublished⟩

end DataAccess
