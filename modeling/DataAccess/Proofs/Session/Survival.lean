/-
What survives of a unit of work. A trace tells which effects there were, and
inside which nested transactions (`Trace.inside`): those that were asked to
be rolled back, and those that really were, because ROLLBACK TO succeeded.

`Follows.passes` says what a database makes of the calls of a trace: what is
pending afterwards is what was pending before and what was kept of the work,
that is every effect that is not inside a nested transaction that was rolled
back. Savepoints that could not be given up stay behind on top of the older
ones, where they do no harm, for their names are not taken again.

So what a rollback did not reach survives. When ROLLBACK TO fails, its
transaction ends all the same, and a later COMMIT of the root publishes what
was to be undone, unless a transaction around it is rolled back.
-/
import DataAccess.Proofs.Session.UnitOfWork

namespace DataAccess

open Server

namespace Trace

-- ============================================================ the effects

/-- The effects of the work in a transaction, when its calls start at a place
of the log. -/
def effects (c : Nat) : Trace → Nat → List Effect
  | .done, _ => []
  | .statement reply next, n =>
    Server.effects c n reply.records
      ++ next.effects c (n + reply.records.length)
  | .unbegun begun next, n => next.effects c (n + begun.records.length)
  | .nested begun inner _ ended next, n =>
    inner.effects c (n + begun.records.length)
      ++ next.effects c (n + begun.records.length + inner.records.length
        + ended.records.length)

/-- The effects inside the nested transactions that are picked by what was
asked for in their end and by how they ended. -/
def inside (pick : Outcome → Reply Unit → Bool) (c : Nat) :
    Trace → Nat → List Effect
  | .done, _ => []
  | .statement reply next, n => next.inside pick c (n + reply.records.length)
  | .unbegun begun next, n => next.inside pick c (n + begun.records.length)
  | .nested begun inner asked ended next, n =>
    (if pick asked ended then inner.effects c (n + begun.records.length)
      else inner.inside pick c (n + begun.records.length))
      ++ next.inside pick c (n + begun.records.length + inner.records.length
        + ended.records.length)

/-- The effects that are not inside the nested transactions that are
picked. -/
def outside (pick : Outcome → Reply Unit → Bool) (c : Nat) :
    Trace → Nat → List Effect
  | .done, _ => []
  | .statement reply next, n =>
    Server.effects c n reply.records
      ++ next.outside pick c (n + reply.records.length)
  | .unbegun begun next, n => next.outside pick c (n + begun.records.length)
  | .nested begun inner asked ended next, n =>
    (if pick asked ended then []
      else inner.outside pick c (n + begun.records.length))
      ++ next.outside pick c (n + begun.records.length + inner.records.length
        + ended.records.length)

/-- A nested transaction that its caller asked to be rolled back. -/
def disowned (asked : Outcome) (_ : Reply Unit) : Bool :=
  match asked with
  | .commit => false
  | .rollback => true

/-- A nested transaction that went back to its savepoint. -/
def undone (_ : Outcome) (ended : Reply Unit) : Bool :=
  succeeds .rollbackToSavepoint ended.records

-- ============================================================== positions

/-- The effects of records are where the records are. -/
theorem position_of_mem_records {c n : Nat} {log : List CallRecord}
    {e : Effect} (h : e ∈ Server.effects c n log) :
    n ≤ e.position ∧ e.position < n + log.length := by
  induction log generalizing n with
  | nil => cases h
  | cons entry log ih =>
      have hrest : e ∈ Server.effects c (n + 1) log →
          n ≤ e.position ∧ e.position < n + (log.length + 1) := by
        intro hmem
        have hbounds := ih hmem
        omega
      unfold Server.effects at h
      split at h
      · rcases List.mem_cons.mp h with rfl | hmem
        · exact ⟨Nat.le_refl _, Nat.lt_add_of_pos_right (Nat.succ_pos _)⟩
        · exact hrest hmem
      · exact hrest h

/-- The effects of a trace are where its calls are. -/
theorem position_of_mem_effects {c n : Nat} {trace : Trace} {e : Effect}
    (h : e ∈ trace.effects c n) :
    n ≤ e.position ∧ e.position < n + trace.records.length := by
  induction trace generalizing n with
  | done => cases h
  | statement reply next ih =>
      rw [records, List.length_append]
      rcases List.mem_append.mp h with hmem | hmem
      · have hbounds := position_of_mem_records hmem
        omega
      · have hbounds := ih hmem
        omega
  | unbegun begun next ih =>
      rw [records, List.length_append]
      have hbounds := ih h
      omega
  | nested begun inner asked ended next ihInner ihNext =>
      simp only [records, List.length_append]
      rcases List.mem_append.mp h with hmem | hmem
      · have hbounds := ihInner hmem
        omega
      · have hbounds := ihNext hmem
        omega

/-- What is inside the picked transactions is among the effects. -/
theorem mem_effects_of_inside {pick : Outcome → Reply Unit → Bool}
    {c n : Nat} {trace : Trace} {e : Effect}
    (h : e ∈ trace.inside pick c n) : e ∈ trace.effects c n := by
  induction trace generalizing n with
  | done => cases h
  | statement reply next ih => exact List.mem_append_right _ (ih h)
  | unbegun begun next ih => exact ih h
  | nested begun inner asked ended next ihInner ihNext =>
      rcases List.mem_append.mp h with hmem | hmem
      · refine List.mem_append_left _ ?_
        split at hmem
        · exact hmem
        · exact ihInner hmem
      · exact List.mem_append_right _ (ihNext hmem)

/-- What is split into inside and outside in two places that have nothing in
common is split in both together. -/
private theorem mem_outside_append {e : Effect}
    {here ins out later ins' out' : List Effect}
    (h : e ∈ out ↔ e ∈ here ∧ e ∉ ins)
    (h' : e ∈ out' ↔ e ∈ later ∧ e ∉ ins')
    (hins : e ∈ ins → e ∈ here) (hins' : e ∈ ins' → e ∈ later)
    (hdisjoint : e ∈ here → e ∉ later) :
    e ∈ out ++ out' ↔ e ∈ here ++ later ∧ e ∉ ins ++ ins' := by
  rw [List.mem_append, List.mem_append, List.mem_append, h, h']
  constructor
  · rintro (⟨hmem, hout⟩ | ⟨hmem, hout⟩)
    · refine ⟨Or.inl hmem, ?_⟩
      rintro (hin | hin)
      · exact hout hin
      · exact hdisjoint hmem (hins' hin)
    · refine ⟨Or.inr hmem, ?_⟩
      rintro (hin | hin)
      · exact hdisjoint (hins hin) hmem
      · exact hout hin
  · rintro ⟨hmem | hmem, hout⟩
    · exact Or.inl ⟨hmem, fun hin => hout (Or.inl hin)⟩
    · exact Or.inr ⟨hmem, fun hin => hout (Or.inr hin)⟩

/-- Every effect is either inside the picked transactions or outside of
them. -/
theorem mem_outside_iff (pick : Outcome → Reply Unit → Bool) (c n : Nat)
    (trace : Trace) (e : Effect) :
    e ∈ trace.outside pick c n
      ↔ e ∈ trace.effects c n ∧ e ∉ trace.inside pick c n := by
  induction trace generalizing n with
  | done =>
      refine iff_of_false ?_ ?_
      · intro h
        cases h
      · intro h
        cases h.1
  -- an effect of the statement stands before all that follows
  | statement reply next ih =>
      have hhere : e ∈ Server.effects c n reply.records
          ↔ e ∈ Server.effects c n reply.records ∧ e ∉ ([] : List Effect) :=
        (and_iff_left List.not_mem_nil).symm
      refine mem_outside_append hhere (ih _) ?_ mem_effects_of_inside ?_
      · intro hmem
        cases hmem
      · intro hmem hmem'
        have hearlier := position_of_mem_records hmem
        have hlater := position_of_mem_effects hmem'
        omega
  | unbegun begun next ih => exact ih _
  -- so do those of the nested transaction, which are inside if it is picked
  | nested begun inner asked ended next ihInner ihNext =>
      have hinner : (e ∈ if pick asked ended then []
            else inner.outside pick c (n + begun.records.length))
          ↔ e ∈ inner.effects c (n + begun.records.length)
            ∧ e ∉ (if pick asked ended
              then inner.effects c (n + begun.records.length)
              else inner.inside pick c (n + begun.records.length)) := by
        split
        · refine iff_of_false ?_ fun h => h.2 h.1
          intro h
          cases h
        · exact ihInner _
      refine mem_outside_append hinner (ihNext _) ?_ mem_effects_of_inside ?_
      · intro hmem
        split at hmem
        · exact hmem
        · exact mem_effects_of_inside hmem
      · intro hmem hmem'
        have hearlier := position_of_mem_effects hmem
        have hlater := position_of_mem_effects hmem'
        omega

end Trace

-- ============================================================== the replay

namespace Follows

variable {c lo hi : Nat} {nameOf : Nat → String} {readOnly : Bool} {w : Work}
  {trace : Trace}

/-- Numbers are handed out in order. -/
theorem le (h : Follows c nameOf readOnly lo hi w trace) : lo ≤ hi := by
  induction h with
  | done => exact Nat.le_refl _
  | statement _ _ _ ih => exact ih
  | unbegun _ _ _ ih => exact Nat.le_of_succ_le ih
  | nested _ _ _ _ ihInside ihRest => omega

/-- What a database makes of the calls of a trace. What was kept of the work
comes to what was pending; the marks that were there stay, under those of
savepoints that could not be given up. -/
theorem passes (hnames : ∀ {m n : Nat}, nameOf m = nameOf n → m = n)
    (h : Follows c nameOf readOnly lo hi w trace) (v : Server) :
    ∃ left : List (String × Nat),
      (∀ m ∈ left, ∃ k, lo < k ∧ k ≤ hi ∧ m.1 = nameOf k)
      ∧ Passes c v trace.records (trace.outside Trace.undone c v.clock)
          left := by
  induction h generalizing v with
  | done n => exact ⟨[], fun m hm => (nomatch hm), passes_nil⟩
  | statement hwork _ _ ih =>
      -- where the rest starts is told by what the statement comes to
      obtain ⟨left, hleft, hrest⟩ := ih (v.advance _ _ [])
      refine ⟨left ++ [], ?_, ?_⟩
      · rw [List.append_nil]
        exact hleft
      · exact (passes_work fun entry hmem => (hwork entry hmem).2).append hrest
  | @unbegun lo _ _ _ _ begun _ failure hbegun _ ih =>
      have hnothing : Passes c v begun.records [] [] := by
        refine passes_of_not_counts ?_
        rw [hbegun]
        intro entry hmem
        cases List.mem_singleton.mp hmem
        exact not_counts_of_failure _ _ _
      obtain ⟨left, hleft, hrest⟩ := ih (v.advance begun.records.length [] [])
      refine ⟨left ++ [], ?_, hnothing.append hrest⟩
      rw [List.append_nil]
      intro m hm
      obtain ⟨k, hlo, hhi, hname⟩ := hleft m hm
      exact ⟨k, Nat.lt_of_succ_lt hlo, hhi, hname⟩
  | @nested lo mid hi _ _ how _ ended inside rest _ hinside hended _ hrest
      ihInside ihRest =>
      have hmid := hinside.le
      have hlast := hrest.le
      obtain ⟨left₁, hleft₁, hwork⟩ :=
        ihInside (v.advance 1 [] [(nameOf (lo + 1), v.pending.length)])
      obtain ⟨left₂, hleft₂, hnested⟩ := hended.passes hwork (by
        -- the savepoints inside have later numbers
        intro m hm heq
        obtain ⟨k, hlo, -, hname⟩ := hleft₁ m hm
        have hk := hnames (hname.symm.trans heq)
        omega)
      obtain ⟨left₃, hleft₃, hafter⟩ := ihRest (v.advance _ _ left₂)
      refine ⟨left₃ ++ left₂, ?_, ?_⟩
      · intro m hm
        rcases List.mem_append.mp hm with hm | hm
        · obtain ⟨k, hlo, hhi, hname⟩ := hleft₃ m hm
          exact ⟨k, by omega, hhi, hname⟩
        · rcases hleft₂ m hm with hm | hname
          · obtain ⟨k, hlo, hhi, hname⟩ := hleft₁ m hm
            exact ⟨k, by omega, by omega, hname⟩
          · exact ⟨lo + 1, Nat.lt_succ_self _, by omega, hname⟩
      · have hall := hnested.append hafter
        simp only [advance, List.length_append, List.length_singleton,
          ← Nat.add_assoc] at hall
        exact hall

end Follows

namespace Course

-- ======================================================= the unit of work

/-- The effects of a unit of work that are inside the nested transactions
that are picked. -/
def inside (pick : Outcome → Reply Unit → Bool) (c : Nat) :
    Course → List Effect
  | .unbegun _ => []
  | .whole begun inner _ => inner.inside pick c begun.records.length

/-- The effects of a unit of work that are not. -/
def outside (pick : Outcome → Reply Unit → Bool) (c : Nat) :
    Course → List Effect
  | .unbegun _ => []
  | .whole begun inner _ => inner.outside pick c begun.records.length

/-- Whether the root committed. -/
def committed : Course → Bool
  | .unbegun _ => false
  | .whole _ _ ended => succeeds .commit ended.records

end Course

/-- What a database makes of the calls that end a root: it publishes what is
pending if it is told to commit and does. -/
theorem Server.replay_rootEnded (c : Nat) (v : Server) (outcome : Outcome)
    (ended closed : Option DriverError) :
    ∃ v', Server.replay c v
        [⟨some c, outcome.call, ended⟩, ⟨some c, .close, closed⟩] = some v'
      ∧ v'.published
        = if succeeds .commit
            [⟨some c, outcome.call, ended⟩, ⟨some c, .close, closed⟩]
          then v.published ++ v.pending else v.published := by
  have hclosed : ∀ {v' : Server},
      v.step c ⟨some c, outcome.call, ended⟩ = some v' →
      Server.replay c v
        [⟨some c, outcome.call, ended⟩, ⟨some c, .close, closed⟩]
        = some v'.tick := by
    intro v' hended
    rw [replay_cons, hended, Option.bind_some, replay_cons, step_close]
    rfl
  cases ended with
  | some failure =>
      refine ⟨_, hclosed (step_of_not_counts (not_counts_of_failure _ _ _)),
        ?_⟩
      cases outcome <;> rfl
  | none =>
      cases outcome with
      | commit => exact ⟨_, hclosed (step_of_counts _), rfl⟩
      | rollback => exact ⟨_, hclosed (step_of_counts _), rfl⟩

/-- What a database makes of the calls of a unit of work: if the root
committed it publishes what was not inside a transaction that went back to
its savepoint, else nothing. -/
theorem UnitOfWork.Answered.replay {u : UnitOfWork} {c number : Nat}
    {nameOf : Nat → String} {course : Course}
    (hnames : ∀ {m n : Nat}, nameOf m = nameOf n → m = n)
    (h : u.Answered c nameOf number course) :
    ∃ v, Server.replay c fresh course.records = some v
      ∧ v.published
        = if course.committed then course.outside Trace.undone c else [] := by
  cases h with
  | unconnected failure hbegun =>
      refine ⟨fresh.tick, ?_, rfl⟩
      rw [Course.records, hbegun, replay_cons,
        step_of_not_counts (not_counts_connect _)]
      rfl
  | abandoned failure closing hbegun =>
      refine ⟨fresh.tick.tick.tick, ?_, rfl⟩
      rw [Course.records, hbegun, replay_cons,
        step_of_not_counts (not_counts_connect _), Option.bind_some,
        replay_cons, step_of_not_counts (not_counts_of_failure _ _ _),
        Option.bind_some, replay_cons, step_close]
      rfl
  | @whole last root inner reply ended closed hinner hended hanswers =>
      have hbegun : Server.replay c fresh [⟨none, .connect, none⟩,
          ⟨some c, .begin u.readOnly, none⟩] = some { fresh with clock := 2 } := by
        rw [replay_cons, step_of_not_counts (not_counts_connect _),
          Option.bind_some, replay_cons, step_of_counts]
        rfl
      obtain ⟨left, -, hwork⟩ := hinner.passes hnames { fresh with clock := 2 }
      have hdone := replay_trans hbegun hwork
      generalize hv : Server.advance _ _ _ left = v at hdone
      -- what is pending when the root ends is what was kept of the work
      have hpending : v.published ++ v.pending
          = inner.outside Trace.undone c 2 := by
        rw [← hv]
        rfl
      have hpublished : v.published = [] := by
        rw [← hv]
        rfl
      obtain ⟨v', hend, hpublished'⟩ :=
        replay_rootEnded c v (u.how.outcome u.readOnly) ended closed
      rw [← hended] at hend hpublished'
      rw [hpending, hpublished] at hpublished'
      exact ⟨v', replay_trans hdone hend, hpublished'⟩

/-- An effect that is in the unit of work at all is outside the picked
transactions if it is not inside. -/
theorem Course.mem_outside_iff {pick pick' : Outcome → Reply Unit → Bool}
    {c : Nat} {course : Course} {e : Effect} (h : e ∈ course.inside pick c) :
    e ∈ course.outside pick' c ↔ e ∉ course.inside pick' c := by
  cases course with
  | unbegun => cases h
  | whole begun inner ended =>
      exact (Trace.mem_outside_iff pick' c _ inner e).trans
        (and_iff_right (Trace.mem_effects_of_inside h))

/-- Whatever the driver does in a session and in a unit of work, an effect
inside a nested transaction that was asked to be rolled back is published
exactly if the root commits and no transaction around the effect went back to
its savepoint. -/
theorem UnitOfWork.disowned_published_iff {config : Config} {driver : Driver}
    {s : Session} (schema : Schema)
    (hstart : Session.start config driver = .ok s) (ops : List Operation)
    (u : UnitOfWork) :
    ∃ course s',
      u.run schema (s.performAll schema ops) = .ok course s'
      ∧ s'.driver.log
        = (s.performAll schema ops).driver.log ++ course.records
      ∧ ∃ v, Server.replay (s.performAll schema ops).driver.connections.length
            fresh course.records = some v
        ∧ ∀ e ∈ course.inside Trace.disowned
            (s.performAll schema ops).driver.connections.length,
          (e ∈ v.published ↔ course.committed = true
            ∧ e ∉ course.inside Trace.undone
              (s.performAll schema ops).driver.connections.length) := by
  have hconsistent : (s.performAll schema ops).ledger.Consistent :=
    Session.consistent_performAll (Session.consistent_start hstart) ops
  obtain ⟨course, s', hrun, -, hlog, hanswered⟩ :=
    u.exists_course schema hconsistent
  obtain ⟨v, hreplay, hpublished⟩ :=
    hanswered.replay Ledger.savepointName_injective
  refine ⟨course, s', hrun, hlog, v, hreplay, ?_⟩
  intro e he
  rw [hpublished]
  cases course.committed with
  | true =>
      rw [if_pos rfl]
      exact (Course.mem_outside_iff he).trans (and_iff_right rfl).symm
  | false =>
      refine iff_of_false ?_ fun h => nomatch h.1
      intro hmem
      cases hmem

/-- A driver that fails to go back to the first savepoint. -/
def adrift : Driver :=
  Driver.empty.fail ⟨.rollbackToSavepoint, 0, ⟨"lost", none⟩⟩

/-- A nested transaction is rolled back, its root commits. -/
def regretted : UnitOfWork :=
  { readOnly := false
    work := .nested
      (.statement (.execute "INSERT INTO t VALUES (1)" Params.empty) .done)
      .rollback .done
    how := .commit }

/-- Whether a unit of work publishes an effect of a nested transaction that
was asked to be rolled back. -/
def UnitOfWork.leaks (schema : Schema) (u : UnitOfWork) (s : Session) : Bool :=
  match u.run schema s with
  | .error _ _ => false
  | .ok course _ =>
    match Server.replay s.driver.connections.length fresh course.records with
    | none => false
    | some v =>
      (course.inside Trace.disowned s.driver.connections.length).any
        v.published.contains

/-- What leaks is there. -/
theorem UnitOfWork.exists_of_leaks {schema : Schema} {u : UnitOfWork}
    {s : Session} (h : u.leaks schema s = true) :
    ∃ course s' v, u.run schema s = .ok course s'
      ∧ Server.replay s.driver.connections.length fresh course.records
        = some v
      ∧ ∃ e ∈ course.inside Trace.disowned s.driver.connections.length,
        e ∈ v.published := by
  unfold leaks at h
  split at h
  · cases h
  · next course s' hrun =>
    split at h
    · cases h
    · next v hreplay =>
      obtain ⟨e, he, hcontains⟩ := List.any_eq_true.mp h
      exact ⟨course, s', v, hrun, hreplay, e, he,
        List.contains_iff_mem.mp hcontains⟩

/-- The regretted insert leaks. -/
theorem leaks_regretted : regretted.leaks [] (Session.blank adrift) = true := by
  decide +kernel

/-- The root commits, and nothing around the effect went back. -/
theorem regretted_committed :
    Session.start Config.default adrift = .ok (Session.blank adrift)
      ∧ ∃ course s', regretted.run [] (Session.blank adrift) = .ok course s'
        ∧ ∃ e ∈ course.inside Trace.disowned 0,
          course.committed = true ∧ e ∉ course.inside Trace.undone 0 := by
  refine ⟨Session.start_default _, ?_⟩
  obtain ⟨course, s', hrun, -, v, hreplay, hiff⟩ :=
    UnitOfWork.disowned_published_iff [] (Session.start_default adrift) []
      regretted
  obtain ⟨course', s'', v', hrun', hreplay', e, he, hpublished⟩ :=
    UnitOfWork.exists_of_leaks leaks_regretted
  cases hrun.symm.trans hrun'
  cases hreplay.symm.trans hreplay'
  exact ⟨course, s', hrun, e, he, (hiff e he).mp hpublished⟩

/-- So what was asked to be rolled back can be published. -/
theorem not_disowned_unpublished :
    ¬ ∀ (driver : Driver) (s : Session) (u : UnitOfWork),
      Session.start Config.default driver = .ok s →
      ∀ (course : Course) (s' : Session) (v : Server),
        u.run [] s = .ok course s' →
        Server.replay s.driver.connections.length fresh course.records
          = some v →
        ∀ e ∈ course.inside Trace.disowned s.driver.connections.length,
          e ∉ v.published := by
  intro hall
  obtain ⟨course, s', v, hrun, hreplay, e, he, hpublished⟩ :=
    UnitOfWork.exists_of_leaks leaks_regretted
  exact hall adrift (Session.blank adrift) regretted
    (Session.start_default _) course s' v hrun hreplay e he hpublished

end DataAccess
