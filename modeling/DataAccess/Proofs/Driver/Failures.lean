/-
The failures of a script. A failure is registered for a kind of call, to
happen after so many calls of the kind that succeed, counted from the failure
before it. So the script fixes beforehand which calls fail, by their numbers
among the calls of their kind (`due`), and that is what happens in every run
(`failures_scheduled`): the call with the number fails with the error that was
registered, and any other call is answered as if there were no script.

# The argument

A call only looks at the failures of its own kind, and leaves the others alone.
Of its own it looks at the first: it counts one call less to skip, or it is
gone (`passed`). So a run of calls comes to one pass for each call of the kind
(`registered_afterAll`), wherever the calls of other kinds stand. Which failure
comes first after so many passes, with nothing to skip, is told by the numbers
(`strike?_iterate_passed`): with each pass all that is due is due one call
earlier.
-/
import DataAccess.Proofs.Driver.Calls
import Mathlib.Algebra.GroupWithZero.Nat
import Mathlib.Algebra.Order.BigOperators.Group.List
import Mathlib.Algebra.Order.Group.Nat
import Mathlib.Logic.Function.Iterate

namespace DataAccess

namespace Driver

/-- The driver after some calls, each with the connection it is made on. -/
def afterAll (d : Driver) : List (Nat × Call) → Driver
  | [] => d
  | (c, call) :: calls => ((ask c call).after d).afterAll calls

/-- How many calls there are of a kind. -/
def callsOf (kind : CallKind) (calls : List (Nat × Call)) : Nat :=
  calls.countP fun p => p.2.kind = kind

variable {α : Type} {d d' : Driver} {kind : CallKind}
  {calls : List (Nat × Call)}

/-- Calls are made one after the other. -/
theorem afterAll_append (d : Driver) (calls more : List (Nat × Call)) :
    d.afterAll (calls ++ more) = (d.afterAll calls).afterAll more := by
  induction calls generalizing d with
  | nil => rfl
  | cons p calls ih => exact ih _

/-- The runs of a driver are lists of calls. -/
theorem reaches_iff : d.Reaches d' ↔ ∃ calls, d.afterAll calls = d' := by
  constructor
  · intro h
    induction h with
    | refl => exact ⟨[], rfl⟩
    | tail _ hcalled ih =>
        obtain ⟨calls, rfl⟩ := ih
        obtain ⟨c, call, hask⟩ := hcalled
        exact ⟨calls ++ [(c, call)], (afterAll_append ..).trans hask⟩
  · rintro ⟨calls, rfl⟩
    induction calls generalizing d with
    | nil => exact .refl
    | cons p calls ih => exact (reaches_ask p.1 p.2 d).trans ih

-- ================================================================= one call

/-- The driver without the failures to come. -/
def unscripted (d : Driver) : Driver :=
  { d with failures := [] }

/-- The failures to come for calls of a kind, in the order in which they were
registered. -/
def registered (d : Driver) (kind : CallKind) : List ScriptedFailure :=
  d.failures.filter (·.kind = kind)

/-- The error of the first of some failures, if it has no call to skip. -/
def strike? : List ScriptedFailure → Option DriverError
  | [] => none
  | f :: _ => if 0 < f.skip then none else some f.error

/-- What is left of the failures of a kind after a call of it. -/
def passed : List ScriptedFailure → List ScriptedFailure
  | [] => []
  | f :: rest =>
    if 0 < f.skip then { f with skip := f.skip - 1 } :: rest else rest

theorem strike?_cons (f : ScriptedFailure) (rest : List ScriptedFailure) :
    strike? (f :: rest) = if 0 < f.skip then none else some f.error := rfl

theorem passed_cons (f : ScriptedFailure) (rest : List ScriptedFailure) :
    passed (f :: rest)
      = if 0 < f.skip then { f with skip := f.skip - 1 } :: rest
        else rest := rfl

/-- A call looks at the failures of its kind, and lets the first one pass. -/
theorem trigger_own (kind : CallKind) (failures : List ScriptedFailure) :
    (trigger kind failures).1 = strike? (failures.filter (·.kind = kind))
    ∧ (trigger kind failures).2.filter (·.kind = kind)
      = passed (failures.filter (·.kind = kind)) := by
  fun_induction trigger kind failures with
  | case1 => exact ⟨rfl, rfl⟩
  | case2 f rest hkind hskip =>
      simp [hkind, hskip, strike?_cons, passed_cons]
  | case3 f rest hkind hskip =>
      simp [hkind, hskip, strike?_cons, passed_cons]
  | case4 f rest hkind error rest' htrigger ih =>
      rw [htrigger] at ih
      simpa [hkind] using ih

/-- The failures of other kinds are left as they are. -/
theorem trigger_other {other : CallKind} (hother : other ≠ kind)
    (failures : List ScriptedFailure) :
    (trigger kind failures).2.filter (·.kind = other)
      = failures.filter (·.kind = other) := by
  fun_induction trigger kind failures with
  | case1 => rfl
  | case2 f rest hkind hskip => simp [hkind, Ne.symm hother]
  | case3 f rest hkind hskip => simp [hkind, Ne.symm hother]
  | case4 f rest hkind error rest' htrigger ih =>
      rw [htrigger] at ih
      simp [List.filter_cons, ih]

/-- What a call is answered has nothing to do with the failures to come. -/
structure Impartial (step : Step α) : Prop where
  answer : ∀ (d : Driver) failures,
    step.answer { d with failures } = step.answer d
  failures : ∀ d, (step.after d).failures = d.failures

/-- A step goes by the script for a call: it fails with the error that is due,
or it is what it is without a script. -/
structure Obeys (call : Call) (step : Step α) : Prop where
  struck : ∀ d e, strike? (d.registered call.kind) = some e →
    step.answer d = .error e
  spared : ∀ d, strike? (d.registered call.kind) = none →
    step.answer d = step.answer d.unscripted
  failures : ∀ d, (step.after d).failures = (trigger call.kind d.failures).2

/-- A call obeys the script if its answer has no part in it. -/
theorem obeys_perform {answer : Step α} (h : Impartial answer)
    (connection : Option Nat) (call : Call) :
    Obeys call (perform connection call answer) := by
  have hcases := perform_cases connection call answer
  have hstrike : ∀ d : Driver, strike? (d.registered call.kind)
      = (trigger call.kind d.failures).1 :=
    fun d => (trigger_own call.kind d.failures).1.symm
  constructor
  · -- a due failure is the answer
    intro d e he
    rw [hstrike] at he
    rcases hcases d with ⟨e', _, htrigger, hanswer, -⟩ | ⟨_, htrigger, -, -⟩
    · rw [htrigger] at he
      exact hanswer.trans (congrArg _ (Option.some.inj he))
    · rw [htrigger] at he
      cases he
  · -- without one, the answer is that of the driver without a script
    intro d hd
    rw [hstrike] at hd
    rcases hcases d with ⟨e', _, htrigger, -, -⟩ | ⟨_, -, hanswer, -⟩
    · rw [htrigger] at hd
      cases hd
    · rcases hcases d.unscripted with ⟨_, _, htrigger', -, -⟩ |
        ⟨_, -, hanswer', -⟩
      · cases htrigger'
      · rw [hanswer, hanswer', h.answer, h.answer]
        exact (h.answer d _).symm
  · -- either way the script has moved on by one call
    intro d
    rcases hcases d with ⟨e', _, htrigger, -, hafter⟩ | ⟨_, htrigger, -, hafter⟩
    · rw [hafter, htrigger]
      rfl
    · rw [hafter, htrigger]
      exact h.failures _

/-- Every call goes by the script. -/
theorem obeys_ask (c : Nat) (call : Call) : Obeys call (ask c call) := by
  unfold ask
  cases call with
  | insertReturning sql params keys =>
      refine obeys_perform ⟨fun d _ => ?_, fun d => ?_⟩ _ _
      · simp only [EStateM.answer]
        cases d.generated <;> rfl
      · simp only [EStateM.after]
        cases d.generated <;> rfl
  | openCursor statement params fetchSize =>
      refine obeys_perform ⟨fun d _ => ?_, fun d => ?_⟩ _ _
      · simp only [EStateM.answer]
        cases (d.statements.lookup statement).isSome <;> rfl
      · simp only [EStateM.after]
        cases (d.statements.lookup statement).isSome <;> rfl
  | fetch cursor =>
      refine obeys_perform ⟨fun d _ => ?_, fun d => ?_⟩ _ _
      · simp only [EStateM.answer]
        rcases d.cursors.lookup cursor with _ | _ | _ <;> rfl
      · simp only [EStateM.after]
        rcases d.cursors.lookup cursor with _ | _ | _ <;> rfl
  | close =>
      have h : Obeys .close (perform (some c) .close (pure ())) :=
        obeys_perform ⟨fun _ _ => rfl, fun _ => rfl⟩ _ _
      let closed (d : Driver) : Driver :=
        { d with connections := d.connections.set c false }
      exact ⟨fun d => h.struck (closed d), fun d => h.spared (closed d),
        fun d => h.failures (closed d)⟩
  | _ => exact obeys_perform ⟨fun _ _ => rfl, fun _ => rfl⟩ _ _

/-- A call of a kind lets the first failure of the kind pass. -/
theorem registered_ask (d : Driver) (c : Nat) (call : Call)
    (kind : CallKind) :
    ((ask c call).after d).registered kind
      = if call.kind = kind then passed (d.registered kind)
        else d.registered kind := by
  unfold registered
  rw [(obeys_ask c call).failures]
  split
  · next hkind =>
    subst hkind
    exact (trigger_own call.kind d.failures).2
  · next hkind => exact trigger_other (Ne.symm hkind) d.failures

/-- A call is recorded, with how it failed if it did. -/
theorem log_ask (d : Driver) (c : Nat) (call : Call) :
    ∃ connection, ((ask c call).after d).log
      = d.log ++ [⟨connection, call, failureOf ((ask c call).answer d)⟩] := by
  cases call with
  | connect =>
      show ∃ connection, (connect.after d).log
        = d.log ++ [⟨connection, .connect, failureOf (connect.answer d)⟩]
      rcases connect_cases d with ⟨e, hanswer, hlog, -⟩ | ⟨hanswer, hlog, -⟩ <;>
        rw [hanswer] <;> exact ⟨_, hlog⟩
  | begin readOnly => exact ⟨_, (records_begin c readOnly).log d⟩
  | commit => exact ⟨_, (records_commit c).log d⟩
  | rollback => exact ⟨_, (records_rollback c).log d⟩
  | savepoint name => exact ⟨_, (records_savepoint c name).log d⟩
  | releaseSavepoint name =>
      exact ⟨_, (records_releaseSavepoint c name).log d⟩
  | rollbackToSavepoint name =>
      exact ⟨_, (records_rollbackToSavepoint c name).log d⟩
  | execute sql params => exact ⟨_, (records_execute c sql params).log d⟩
  | insertReturning sql params keys =>
      exact ⟨_, (records_insertReturning c sql params keys).log d⟩
  | query sql params => exact ⟨_, (records_query c sql params).log d⟩
  | prepare sql => exact ⟨_, (records_prepare c sql).log d⟩
  | openCursor statement params fetchSize =>
      exact ⟨_, (records_openCursor c statement params fetchSize).log d⟩
  | fetch cursor => exact ⟨_, (records_fetch c cursor).log d⟩
  | closeCursor cursor => exact ⟨_, (records_closeCursor c cursor).log d⟩
  | closeStatement statement =>
      exact ⟨_, (records_closeStatement c statement).log d⟩
  | copyOut sql => exact ⟨_, (records_copyOut c sql).log d⟩
  | close => exact ⟨_, log_close c d⟩

-- ================================================================== the runs

/-- What is recorded of a run: each call in its place, with how it failed where
it did. -/
theorem log_afterAll (d : Driver) (calls : List (Nat × Call)) :
    ∃ records, (d.afterAll calls).log = d.log ++ records
      ∧ records.map (·.call) = calls.map Prod.snd
      ∧ ∀ i c call, calls[i]? = some (c, call) →
        records[i]?.map (·.failure) = some (failureOf
          ((ask c call).answer (d.afterAll (calls.take i)))) := by
  induction calls generalizing d with
  | nil => exact ⟨[], (List.append_nil _).symm, rfl, fun _ _ _ h => nomatch h⟩
  | cons p calls ih =>
      obtain ⟨c, call⟩ := p
      obtain ⟨connection, hlog⟩ := log_ask d c call
      obtain ⟨records, hrecords, hcalls, hfailures⟩ :=
        ih ((ask c call).after d)
      refine ⟨⟨connection, call, failureOf ((ask c call).answer d)⟩ :: records,
        ?_, congrArg (call :: ·) hcalls, fun i c' call' hi => ?_⟩
      · rw [afterAll, hrecords, hlog, List.append_assoc]
        rfl
      · cases i with
        | zero =>
            cases hi
            rfl
        | succ i => exact hfailures i c' call' hi

/-- Calls are logged in the order in which they are made. -/
theorem calls_afterAll (d : Driver) (calls : List (Nat × Call)) :
    (d.afterAll calls).calls = d.calls ++ calls.map Prod.snd := by
  obtain ⟨records, hlog, hcalls, -⟩ := log_afterAll d calls
  unfold Driver.calls
  rw [hlog, List.map_append, hcalls]

/-- A run lets failures of a kind pass once for each call of the kind. -/
theorem registered_afterAll (d : Driver) (calls : List (Nat × Call))
    (kind : CallKind) :
    (d.afterAll calls).registered kind
      = passed^[callsOf kind calls] (d.registered kind) := by
  induction calls generalizing d with
  | nil => rfl
  | cons p calls ih =>
      obtain ⟨c, call⟩ := p
      rw [afterAll, ih, registered_ask]
      unfold callsOf
      by_cases hkind : call.kind = kind
      · rw [if_pos hkind, List.countP_cons_of_pos (by simpa using hkind),
          Function.iterate_succ_apply]
      · rw [if_neg hkind, List.countP_cons_of_neg (by simpa using hkind)]

-- =============================================================== the numbers

/-- The number of the call that fails for one of the failures of a kind, among
the calls of the kind, counted from one: all calls to skip up to this failure,
and a call for each failure up to it. -/
def due (entries : List ScriptedFailure) (j : Nat) : Nat :=
  ((entries.take (j + 1)).map (·.skip)).sum + (j + 1)

variable {entries : List ScriptedFailure} {e : DriverError} {j k n : Nat}

@[simp]
theorem due_zero (f : ScriptedFailure) (rest : List ScriptedFailure) :
    due (f :: rest) 0 = f.skip + 1 := by
  simp [due]

@[simp]
theorem due_succ (f : ScriptedFailure) (rest : List ScriptedFailure)
    (j : Nat) : due (f :: rest) (j + 1) = f.skip + 1 + due rest j := by
  simp only [due, List.take_succ_cons, List.map_cons, List.sum_cons]
  omega

/-- No failure is due before the first call. -/
theorem due_pos (entries : List ScriptedFailure) (j : Nat) :
    0 < due entries j :=
  Nat.succ_pos _

/-- Failures happen in the order in which they were registered. -/
theorem due_lt (h : j < k) : due entries j < due entries k := by
  have hsublist : (entries.take (j + 1)).Sublist (entries.take (k + 1)) :=
    List.take_sublist_take_left (by omega)
  have hsum := (hsublist.map (·.skip)).sum_le_sum fun _ _ => Nat.zero_le _
  unfold due
  omega

/-- No two failures are due at one call. -/
theorem due_inj (h : due entries j = due entries k) : j = k := by
  rcases Nat.lt_trichotomy j k with hlt | heq | hlt
  · have hdue : due entries j < due entries k := due_lt hlt
    omega
  · exact heq
  · have hdue : due entries k < due entries j := due_lt hlt
    omega

/-- One of the failures is due at a number, with an error. -/
def StruckAt (entries : List ScriptedFailure) (n : Nat) (e : DriverError) :
    Prop :=
  ∃ j f, entries[j]? = some f ∧ f.error = e ∧ n = due entries j

theorem not_struckAt_nil : ¬ StruckAt [] n e :=
  fun ⟨_, _, h, _⟩ => nomatch h

/-- It is the first of them, or one of the rest, which are counted from
there. -/
theorem struckAt_cons {f : ScriptedFailure} {rest : List ScriptedFailure} :
    StruckAt (f :: rest) n e
      ↔ (f.error = e ∧ n = f.skip + 1)
        ∨ (f.skip + 1 < n ∧ StruckAt rest (n - (f.skip + 1)) e) := by
  constructor
  · rintro ⟨j, g, hg, he, hdue⟩
    cases j with
    | zero =>
        cases hg
        exact Or.inl ⟨he, hdue.trans (due_zero f rest)⟩
    | succ j =>
        rw [due_succ] at hdue
        have hpos := due_pos rest j
        exact Or.inr ⟨by omega, j, g, hg, he, by omega⟩
  · rintro (⟨he, hn⟩ | ⟨hn, j, g, hg, he, hdue⟩)
    · exact ⟨0, f, rfl, he, hn.trans (due_zero f rest).symm⟩
    · refine ⟨j + 1, g, hg, he, ?_⟩
      rw [due_succ]
      omega

/-- With each call of the kind, what is due is due one call earlier. -/
theorem struckAt_passed (hn : 0 < n) :
    StruckAt (passed entries) n e ↔ StruckAt entries (n + 1) e := by
  cases entries with
  | nil => exact iff_of_false not_struckAt_nil not_struckAt_nil
  | cons f rest =>
      rw [passed_cons]
      split
      · next hskip =>
        have hrest : n + 1 - (f.skip + 1) = n - (f.skip - 1 + 1) := by omega
        rw [struckAt_cons, struckAt_cons, hrest]
        dsimp only
        refine or_congr (and_congr_right fun _ => ?_)
          (and_congr_left fun _ => ?_)
        · omega
        · omega
      · next hskip =>
        -- the failure that has nothing to skip was that of the first call
        have hrest : n + 1 - (f.skip + 1) = n := by omega
        rw [struckAt_cons, hrest]
        constructor
        · intro h
          exact Or.inr ⟨by omega, h⟩
        · rintro (⟨-, hfirst⟩ | ⟨-, h⟩)
          · omega
          · exact h

/-- A failure strikes with the first call that it is due at. -/
theorem strike?_eq_some_iff :
    strike? entries = some e ↔ StruckAt entries 1 e := by
  cases entries with
  | nil => exact iff_of_false nofun not_struckAt_nil
  | cons f rest =>
      rw [strike?_cons, struckAt_cons]
      split
      · -- the first failure is not due yet: none behind it is
        next hskip =>
        refine iff_of_false nofun ?_
        rintro (⟨-, hfirst⟩ | ⟨hlate, -⟩)
        · omega
        · omega
      · -- the first failure is due with this call
        next hskip =>
        constructor
        · intro h
          exact Or.inl ⟨Option.some.inj h, by omega⟩
        · rintro (⟨he, -⟩ | ⟨hlate, -⟩)
          · rw [he]
          · omega

/-- After so many calls of a kind a failure comes first, with nothing to skip,
exactly if it is due at the next. -/
theorem strike?_iterate_passed (n : Nat) :
    strike? (passed^[n] entries) = some e ↔ StruckAt entries (n + 1) e := by
  induction n generalizing entries with
  | zero => exact strike?_eq_some_iff
  | succ n ih =>
      rw [Function.iterate_succ_apply, ih, struckAt_passed (Nat.succ_pos n)]

-- ================================================================== the script

/-- The call at a place of a run is the one that a failure registered for its
kind is due at. -/
structure Strikes (d : Driver) (calls : List (Nat × Call)) (kind : CallKind)
    (j i : Nat) : Prop where
  call : ∃ c call, calls[i]? = some (c, call) ∧ call.kind = kind
  failure : j < (d.registered kind).length
  number : callsOf kind (calls.take (i + 1)) = due (d.registered kind) j

/-- The number of a call among those of its kind. -/
theorem callsOf_take_succ {i : Nat} {c : Nat} {call : Call}
    (hi : calls[i]? = some (c, call)) :
    callsOf call.kind (calls.take (i + 1))
      = callsOf call.kind (calls.take i) + 1 := by
  unfold callsOf
  rw [List.take_add_one, hi, List.countP_append]
  simp

/-- No two calls of a kind have one number. -/
theorem callsOf_take_lt {i i' : Nat} {c : Nat} {call : Call}
    (hi : calls[i']? = some (c, call)) (h : i < i') :
    callsOf call.kind (calls.take (i + 1))
      < callsOf call.kind (calls.take (i' + 1)) := by
  rw [callsOf_take_succ hi, Nat.lt_succ_iff]
  exact (List.take_sublist_take_left h).countP_le

/-- A failure strikes once. -/
theorem Strikes.place_eq {i i' : Nat} (h : d.Strikes calls kind j i)
    (h' : d.Strikes calls kind j i') : i = i' := by
  obtain ⟨c, call, hi, rfl⟩ := h.call
  obtain ⟨c', call', hi', hkind⟩ := h'.call
  have hnumber := h.number.trans h'.number.symm
  rcases Nat.lt_trichotomy i i' with hlt | heq | hlt
  · -- the later of two calls of a kind has a greater number
    have := callsOf_take_lt hi' hlt
    rw [hkind] at this
    omega
  · exact heq
  · have := callsOf_take_lt hi hlt
    omega

/-- A call fails for one of the failures of its kind exactly if this is due at
its number. -/
theorem strike?_afterAll {d : Driver} {i c : Nat} {call : Call}
    (hi : calls[i]? = some (c, call)) :
    strike? ((d.afterAll (calls.take i)).registered call.kind) = some e
      ↔ StruckAt (d.registered call.kind)
        (callsOf call.kind (calls.take (i + 1))) e := by
  rw [registered_afterAll, strike?_iterate_passed, callsOf_take_succ hi]

/-- In a run of whatever calls, the failures of a kind strike the calls of the
kind with the numbers that they are due at, and each of these fails with the
error that was registered. Any other call is answered as without a script.
Failures and calls of other kinds have no part in this. Each failure strikes
once at most, and each call is struck by one at most; and every call is
recorded once, in order, whether it fails or not. -/
theorem failures_scheduled (d : Driver) (calls : List (Nat × Call)) :
    (∀ i c call, calls[i]? = some (c, call) →
      let before := d.afterAll (calls.take i)
      (∀ j f, (d.registered call.kind)[j]? = some f →
        d.Strikes calls call.kind j i →
        (ask c call).answer before = .error f.error)
      ∧ ((∀ j, ¬ d.Strikes calls call.kind j i) →
        (ask c call).answer before = (ask c call).answer before.unscripted))
    ∧ (∀ kind j i i', d.Strikes calls kind j i → d.Strikes calls kind j i' →
      i = i')
    ∧ (∀ kind j j' i, d.Strikes calls kind j i → d.Strikes calls kind j' i →
      j = j')
    ∧ (d.afterAll calls).calls = d.calls ++ calls.map Prod.snd := by
  refine ⟨fun i c call hi => ?_, fun _ _ _ _ => Strikes.place_eq,
    fun _ _ _ _ h h' => due_inj (h.number.symm.trans h'.number),
    calls_afterAll d calls⟩
  intro before
  refine ⟨fun j f hf hj => ?_, fun hnone => ?_⟩
  · -- a failure that is due at the call strikes it
    exact (obeys_ask c call).struck before f.error
      ((strike?_afterAll hi).mpr ⟨j, f, hf, rfl, hj.number⟩)
  · -- if none is due at it, none strikes
    refine (obeys_ask c call).spared before ?_
    rw [Option.eq_none_iff_forall_ne_some]
    intro e he
    obtain ⟨j, f, hf, -, hnumber⟩ := (strike?_afterAll hi).mp he
    exact hnone j ⟨⟨c, call, hi, rfl⟩, (List.getElem?_eq_some_iff.mp hf).1,
      hnumber⟩

/-- Two statements are to fail, the second and the one after it, and so is a
commit. -/
def stumbling : Driver :=
  ((Driver.empty.fail ⟨.execute, 1, ⟨"boom", none⟩⟩).fail
    ⟨.commit, 0, ⟨"lost", none⟩⟩).fail ⟨.execute, 0, ⟨"again", none⟩⟩

/-- Four statements, with a commit in between. -/
def stumbled : List (Nat × Call) :=
  [(0, .execute "A" []), (0, .commit), (0, .execute "B" []),
   (0, .execute "C" []), (0, .execute "D" [])]

/-- The failures of the statements are due at the second and at the third of
them, whatever the commit does. -/
theorem failures_scheduled_stumbled :
    stumbling.Strikes stumbled .execute 0 2
      ∧ (execute 0 "B" []).answer (stumbling.afterAll (stumbled.take 2))
        = .error ⟨"boom", none⟩
      ∧ stumbling.Strikes stumbled .execute 1 3
      ∧ (execute 0 "C" []).answer (stumbling.afterAll (stumbled.take 3))
        = .error ⟨"again", none⟩
      ∧ (stumbling.afterAll stumbled).calls = stumbled.map Prod.snd := by
  obtain ⟨hstruck, -, -, hcalls⟩ := failures_scheduled stumbling stumbled
  have hfirst : stumbling.Strikes stumbled .execute 0 2 :=
    ⟨⟨0, .execute "B" [], rfl, rfl⟩, by decide, by decide⟩
  have hsecond : stumbling.Strikes stumbled .execute 1 3 :=
    ⟨⟨0, .execute "C" [], rfl, rfl⟩, by decide, by decide⟩
  exact ⟨hfirst, (hstruck 2 0 (.execute "B" []) rfl).1 0 _ rfl hfirst, hsecond,
    (hstruck 3 0 (.execute "C" []) rfl).1 1 _ rfl hsecond, hcalls⟩

-- ================================================================ any caller

/-- How many calls of a kind were recorded. -/
def recordsOf (kind : CallKind) (records : List CallRecord) : Nat :=
  records.countP fun record => record.call.kind = kind

/-- Calls of a kind are counted in the records as they were made. -/
theorem recordsOf_take {records : List CallRecord}
    (h : records.map (·.call) = calls.map Prod.snd) (kind : CallKind) (n : Nat) :
    recordsOf kind (records.take n) = callsOf kind (calls.take n) := by
  have hcounts : ((records.take n).map (·.call)).countP (·.kind = kind)
      = ((calls.take n).map Prod.snd).countP (·.kind = kind) := by
    rw [List.map_take, List.map_take, h]
  rw [List.countP_map, List.countP_map] at hcounts
  exact hcounts

/-- Whoever makes the calls, and whatever for: of what was recorded since, the
call with the number that a failure of its kind is due at failed with the error
that was registered. -/
theorem Reaches.exists_records_struck (h : d.Reaches d') :
    ∃ records, d'.log = d.log ++ records
      ∧ ∀ (i : Nat) record (j : Nat) f, records[i]? = some record →
        (d.registered record.call.kind)[j]? = some f →
        recordsOf record.call.kind (records.take (i + 1))
          = due (d.registered record.call.kind) j →
        record.failure = some f.error := by
  obtain ⟨calls, rfl⟩ := reaches_iff.mp h
  obtain ⟨records, hlog, hcalls, hfailures⟩ := log_afterAll d calls
  refine ⟨records, hlog, fun i record j f hi hf hnumber => ?_⟩
  -- the record at a place is the one of the call at that place
  have hcall : (calls.map Prod.snd)[i]? = some record.call := by
    rw [← hcalls, List.getElem?_map, hi]
    rfl
  rw [List.getElem?_map] at hcall
  obtain ⟨⟨c, call⟩, hi', rfl⟩ := Option.map_eq_some_iff.mp hcall
  rw [recordsOf_take hcalls] at hnumber
  have hstruck := (obeys_ask c record.call).struck _ f.error
    ((strike?_afterAll hi').mpr ⟨j, f, hf, rfl, hnumber⟩)
  have hfailure := hfailures i c record.call hi'
  rw [hi, hstruck] at hfailure
  exact Option.some.inj hfailure

end Driver

end DataAccess
