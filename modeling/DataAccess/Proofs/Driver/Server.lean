/-
What a database makes of the calls of one connection: the savepoint
semantics of SQL, on the log. A call that changes data adds an effect to
those that are pending. SAVEPOINT puts a mark after the last of them,
ROLLBACK TO takes away everything behind a mark and leaves the mark where it
is, RELEASE forgets a mark and those set after it, COMMIT publishes what is
pending and ROLLBACK discards it. A call that failed did nothing, and
neither did the calls of other connections.

A mark is known by its name, and the latest of that name counts. To name
a mark that is not there is an error, which stands as `none`. An effect is
known by the place of its record in the log, for two statements with the
same text are two effects.
-/
import DataAccess.Proofs.Driver.Recording

namespace DataAccess

/-- A change of data that a database has taken on. -/
structure Effect where
  /-- The place of its record in the log. -/
  position : Nat
  call : Call
  deriving DecidableEq

/-- What a database keeps for one connection. -/
structure Server where
  /-- How much of the log it has seen. -/
  clock : Nat
  pending : List Effect
  /-- The savepoints that are live, the latest first, each with the number
  of effects that were pending when it was set. -/
  marks : List (String × Nat)
  published : List Effect
  deriving DecidableEq

namespace Server

-- ============================================================== the calls

/-- A connection on which nothing has happened. -/
def fresh : Server :=
  { clock := 0, pending := [], marks := [], published := [] }

/-- The live savepoints from the latest of a name on, the older ones after
it. -/
def marksFrom (v : Server) (name : String) : List (String × Nat) :=
  v.marks.dropWhile fun m => m.1 != name

/-- What a call that succeeds does. -/
def take (v : Server) (call : Call) : Option Server :=
  match call with
  | .begin _ => some { v with pending := [], marks := [] }
  | .commit =>
    some { v with
      pending := [], marks := [], published := v.published ++ v.pending }
  | .rollback => some { v with pending := [], marks := [] }
  | .savepoint name =>
    some { v with marks := (name, v.pending.length) :: v.marks }
  | .releaseSavepoint name =>
    match v.marksFrom name with
    | [] => none
    | _ :: older => some { v with marks := older }
  | .rollbackToSavepoint name =>
    match v.marksFrom name with
    | [] => none
    | mark :: older =>
      some { v with
        pending := v.pending.take mark.2, marks := mark :: older }
  | _ =>
    if call.isWrite then
      some { v with pending := v.pending ++ [⟨v.clock, call⟩] }
    else some v

/-- One more record of the log has been seen. -/
def tick (v : Server) : Server :=
  { v with clock := v.clock + 1 }

/-- Whether a record is of a call that a connection succeeded with. -/
def Counts (c : Nat) (entry : CallRecord) : Prop :=
  entry.connection = some c ∧ entry.failure = none

instance (c : Nat) (entry : CallRecord) : Decidable (Counts c entry) :=
  inferInstanceAs (Decidable (_ ∧ _))

/-- What a record of the log does. -/
def step (c : Nat) (v : Server) (entry : CallRecord) : Option Server :=
  if Counts c entry then (v.take entry.call).map tick else some v.tick

/-- What a log does, record by record. -/
def replay (c : Nat) (v : Server) (log : List CallRecord) : Option Server :=
  log.foldlM (step c) v

/-- The savepoint of a connection that was set last among those that are
live after a log. -/
def latest (c : Nat) (log : List CallRecord) : Option String :=
  (replay c fresh log).bind fun v => v.marks.head?.map (·.1)

/-- The effects of the records of a log that starts at a place. -/
def effects (c : Nat) : Nat → List CallRecord → List Effect
  | _, [] => []
  | n, entry :: log =>
    if Counts c entry ∧ entry.call.isWrite = true then
      ⟨n, entry.call⟩ :: effects c (n + 1) log
    else effects c (n + 1) log

-- ============================================================= the replay

section

variable {c : Nat} {v : Server} {entry : CallRecord}

@[simp] theorem replay_nil : replay c v [] = some v := rfl

@[simp] theorem replay_cons (log : List CallRecord) :
    replay c v (entry :: log) = (v.step c entry).bind (replay c · log) :=
  List.foldlM_cons

/-- A log is replayed in parts. -/
theorem replay_append (log more : List CallRecord) :
    replay c v (log ++ more)
      = (replay c v log).bind (replay c · more) :=
  List.foldlM_append

/-- The parts of a replay, one after the other. -/
theorem replay_trans {v' v'' : Server} {log more : List CallRecord}
    (h : replay c v log = some v') (h' : replay c v' more = some v'') :
    replay c v (log ++ more) = some v'' := by
  rw [replay_append, h, Option.bind_some, h']

/-- A call that failed, or that another connection made, does nothing. -/
theorem step_of_not_counts (h : ¬ Counts c entry) :
    v.step c entry = some v.tick :=
  if_neg h

/-- A call that succeeds does what it says. -/
theorem step_of_counts (call : Call) :
    v.step c ⟨some c, call, none⟩ = (v.take call).map tick :=
  if_pos ⟨rfl, rfl⟩

/-- A call that failed does nothing. -/
theorem not_counts_of_failure (connection : Option Nat) (call : Call)
    (failure : DriverError) :
    ¬ Counts c ⟨connection, call, some failure⟩ := by
  intro h
  cases h.2

/-- Opening a connection is not a call on one. -/
theorem not_counts_connect (failure : Option DriverError) :
    ¬ Counts c ⟨none, .connect, failure⟩ := by
  intro h
  cases h.1

/-- Closing a connection is no effect, whether it fails or not. -/
theorem step_close (closed : Option DriverError) :
    v.step c ⟨some c, .close, closed⟩ = some v.tick := by
  cases closed with
  | none => exact step_of_counts _
  | some failure => exact step_of_not_counts (not_counts_of_failure _ _ _)

/-- Setting a savepoint puts a mark after what is pending. -/
theorem step_savepoint (name : String) :
    v.step c ⟨some c, .savepoint name, none⟩
      = some { v with
          clock := v.clock + 1
          marks := (name, v.pending.length) :: v.marks } :=
  step_of_counts _

/-- A name that is not among the newer marks is found behind them. -/
theorem marksFrom_eq {newer older : List (String × Nat)} {name : String}
    {k : Nat} (hmarks : v.marks = newer ++ (name, k) :: older)
    (hnewer : ∀ m ∈ newer, m.1 ≠ name) :
    v.marksFrom name = (name, k) :: older := by
  unfold marksFrom
  rw [hmarks, List.dropWhile_append_of_pos]
  · rw [List.dropWhile_cons_of_neg]
    simp
  · intro m hm
    simp [hnewer m hm]

/-- Giving a savepoint up forgets it and the newer ones. -/
theorem step_releaseSavepoint (newer : List (String × Nat))
    {older : List (String × Nat)} {name : String} {k : Nat}
    (hmarks : v.marks = newer ++ (name, k) :: older)
    (hnewer : ∀ m ∈ newer, m.1 ≠ name) :
    v.step c ⟨some c, .releaseSavepoint name, none⟩
      = some { v with clock := v.clock + 1, marks := older } := by
  rw [step_of_counts]
  unfold take
  simp only [marksFrom_eq hmarks hnewer]
  rfl

/-- Going back to a savepoint undoes what is behind it and forgets the newer
ones. -/
theorem step_rollbackToSavepoint (newer : List (String × Nat))
    {older : List (String × Nat)} {name : String} {k : Nat}
    (hmarks : v.marks = newer ++ (name, k) :: older)
    (hnewer : ∀ m ∈ newer, m.1 ≠ name) :
    v.step c ⟨some c, .rollbackToSavepoint name, none⟩
      = some { v with
          clock := v.clock + 1
          pending := v.pending.take k
          marks := (name, k) :: older } := by
  rw [step_of_counts]
  unfold take
  simp only [marksFrom_eq hmarks hnewer]
  rfl

/-- A call of a statement has its effect, if it changes data. -/
theorem take_work {call : Call} (hwork : call.isWork = true) :
    v.take call
      = if call.isWrite then
          some { v with pending := v.pending ++ [⟨v.clock, call⟩] }
        else some v := by
  cases call <;> first | rfl | cases hwork

/-- A record of a statement adds its effect, if it has one. -/
theorem step_work (hwork : entry.call.isWork = true) :
    v.step c entry
      = some { v with
          clock := v.clock + 1
          pending := v.pending ++ effects c v.clock [entry] } := by
  unfold step effects
  by_cases h : Counts c entry
  · rw [if_pos h, take_work hwork]
    cases hwrite : entry.call.isWrite with
    | true => simp [tick, effects, h]
    | false => simp [tick, effects]
  · rw [if_neg h, if_neg fun h' => h h'.1]
    simp [tick, effects]

/-- The effects of a log are those of its parts. -/
theorem effects_append (n : Nat) (log more : List CallRecord) :
    effects c n (log ++ more)
      = effects c n log ++ effects c (n + log.length) more := by
  induction log generalizing n with
  | nil => rfl
  | cons entry log ih =>
      have hstart : n + 1 + log.length = n + (log.length + 1) := by omega
      rw [List.cons_append, effects, effects, ih, List.length_cons, hstart]
      split <;> rfl

/-- The work of a statement adds its effects to what is pending, and changes
nothing else. -/
theorem replay_work {log : List CallRecord}
    (hwork : ∀ entry ∈ log, entry.call.isWork = true) :
    replay c v log
      = some { v with
          clock := v.clock + log.length
          pending := v.pending ++ effects c v.clock log } := by
  induction log generalizing v with
  | nil =>
      rw [replay_nil, effects, List.append_nil]
      rfl
  | cons entry log ih =>
      rw [replay_cons, step_work (hwork entry (List.mem_cons_self ..)),
        Option.bind_some,
        ih fun entry h => hwork entry (List.mem_cons_of_mem _ h)]
      have hclock : v.clock + 1 + log.length = v.clock + (log.length + 1) := by
        omega
      have heffects : effects c v.clock (entry :: log)
          = effects c v.clock [entry] ++ effects c (v.clock + 1) log :=
        effects_append v.clock [entry] log
      simp only [hclock, heffects, List.length_cons, List.append_assoc]

/-- Calls that failed, or that other connections made, do nothing. -/
theorem replay_of_not_counts {log : List CallRecord}
    (h : ∀ entry ∈ log, ¬ Counts c entry) :
    replay c v log = some { v with clock := v.clock + log.length } := by
  induction log generalizing v with
  | nil => rfl
  | cons entry log ih =>
      rw [replay_cons, step_of_not_counts (h entry (List.mem_cons_self ..)),
        Option.bind_some, ih fun entry h' => h entry (List.mem_cons_of_mem _ h')]
      have hclock : v.clock + 1 + log.length = v.clock + (log.length + 1) := by
        omega
      simp only [tick, hclock, List.length_cons]

/-- The calls that end a nested transaction: unless it commits it goes back
to its savepoint, and in any case the savepoint is given up. -/
inductive Closing (c : Nat) (name : String) :
    Outcome → Option DriverError → List CallRecord → Prop where
  | kept (released : Option DriverError) :
      Closing c name .commit released
        [⟨some c, .releaseSavepoint name, released⟩]
  | reverted (reverted released : Option DriverError) :
      Closing c name .rollback released
        [⟨some c, .rollbackToSavepoint name, reverted⟩,
         ⟨some c, .releaseSavepoint name, released⟩]

/-- Whether a call of a kind succeeded. -/
def succeeds (kind : CallKind) (log : List CallRecord) : Bool :=
  log.any fun entry => entry.call.kind == kind && entry.failure.isNone

/-- If none of them fails, the end goes back to the savepoint exactly if it
rolls back. -/
theorem Closing.succeeds_of_unfailing {name : String} {outcome : Outcome}
    {released : Option DriverError} {entries : List CallRecord}
    (h : Closing c name outcome released entries)
    (hcalls : Unfailing entries) :
    succeeds .rollbackToSavepoint entries = decide (outcome = .rollback) := by
  cases h with
  | kept => rfl
  | reverted reverted =>
      have hreverted : reverted = none := hcalls _ (List.mem_cons_self ..)
      rw [hreverted]
      rfl

/-- They are made on one connection. -/
theorem Closing.connection_eq {name : String} {outcome : Outcome}
    {released : Option DriverError} {entries : List CallRecord}
    (h : Closing c name outcome released entries) :
    ∀ entry ∈ entries, entry.connection = some c := by
  cases h <;> simp

/-- Going back to a savepoint that is live undoes what is behind it, unless
it fails; what is live below it stays. -/
theorem step_rollbackTo_below {name : String} {k : Nat}
    {newer older : List (String × Nat)}
    (hmarks : v.marks = newer ++ (name, k) :: older)
    (hnewer : ∀ m ∈ newer, m.1 ≠ name) (failure : Option DriverError) :
    ∃ newer', (∀ m ∈ newer', m ∈ newer)
      ∧ v.step c ⟨some c, .rollbackToSavepoint name, failure⟩
        = some { v with
            clock := v.clock + 1
            pending := if failure.isNone then v.pending.take k else v.pending
            marks := newer' ++ (name, k) :: older } := by
  cases failure with
  | none =>
      refine ⟨[], fun m hm => (nomatch hm), ?_⟩
      rw [step_rollbackToSavepoint newer hmarks hnewer]
      rfl
  | some failure =>
      refine ⟨newer, fun m hm => hm, ?_⟩
      rw [step_of_not_counts (not_counts_of_failure _ _ _), ← hmarks]
      rfl

/-- Giving up a savepoint that is live leaves what is live below it; if it
fails, the savepoint and the newer ones stay. -/
theorem step_release_below {name : String} {k : Nat}
    {newer older : List (String × Nat)}
    (hmarks : v.marks = newer ++ (name, k) :: older)
    (hnewer : ∀ m ∈ newer, m.1 ≠ name) (failure : Option DriverError) :
    v.step c ⟨some c, .releaseSavepoint name, failure⟩
      = some { v with
          clock := v.clock + 1
          marks := (if failure = none then [] else newer ++ [(name, k)])
            ++ older } := by
  cases failure with
  | none =>
      rw [step_releaseSavepoint newer hmarks hnewer]
      rfl
  | some failure =>
      rw [step_of_not_counts (not_counts_of_failure _ _ _),
        if_neg (Option.some_ne_none failure), List.append_assoc,
        List.singleton_append, ← hmarks]
      rfl

/-- The end of a nested transaction undoes what is behind its savepoint if
it went back to it; whatever fails, what is live below it stays. -/
theorem Closing.replay_below {name : String} {outcome : Outcome}
    {released : Option DriverError} {entries : List CallRecord}
    (h : Closing c name outcome released entries) {k : Nat}
    {newer older : List (String × Nat)}
    (hmarks : v.marks = newer ++ (name, k) :: older)
    (hnewer : ∀ m ∈ newer, m.1 ≠ name) :
    ∃ kept, (∀ m ∈ kept, m ∈ newer)
      ∧ replay c v entries
        = some { v with
            clock := v.clock + entries.length
            pending := if succeeds .rollbackToSavepoint entries
              then v.pending.take k else v.pending
            marks := (if released = none then [] else kept ++ [(name, k)])
              ++ older } := by
  cases h with
  | kept =>
      refine ⟨newer, fun m hm => hm, ?_⟩
      rw [replay_cons, step_release_below hmarks hnewer]
      rfl
  | reverted reverted =>
      obtain ⟨kept, hkept, hstep₁⟩ :=
        step_rollbackTo_below (c := c) hmarks hnewer reverted
      generalize hv₁ : ({ v with
        clock := v.clock + 1
        pending := if reverted.isNone then v.pending.take k else v.pending
        marks := kept ++ (name, k) :: older } : Server) = v₁ at hstep₁
      have hmarks₁ : v₁.marks = kept ++ (name, k) :: older := by
        rw [← hv₁]
      refine ⟨kept, hkept, ?_⟩
      rw [replay_cons, hstep₁, Option.bind_some, replay_cons,
        step_release_below hmarks₁ fun m hm => hnewer m (hkept m hm), ← hv₁]
      cases reverted <;> rfl

-- ================================================================ passing

/-- A connection further on: some records later, with more effects pending
and more marks on top. -/
def advance (v : Server) (n : Nat) (more : List Effect)
    (left : List (String × Nat)) : Server :=
  { v with
    clock := v.clock + n
    pending := v.pending ++ more
    marks := left ++ v.marks }

/-- A log takes a connection further on: what it adds comes to what is
pending, and the marks that it leaves stand on top. -/
def Passes (c : Nat) (v : Server) (log : List CallRecord)
    (more : List Effect) (left : List (String × Nat)) : Prop :=
  replay c v log = some (v.advance log.length more left)

theorem passes_nil : Passes c v [] [] [] := by
  unfold Passes advance
  rw [List.append_nil]
  rfl

/-- Two logs, one after the other. -/
theorem Passes.append {log log' : List CallRecord} {more more' : List Effect}
    {left left' : List (String × Nat)} (h : Passes c v log more left)
    (h' : Passes c (v.advance log.length more left) log' more' left') :
    Passes c v (log ++ log') (more ++ more') (left' ++ left) := by
  unfold Passes at h h' ⊢
  rw [replay_trans h h']
  simp only [advance, List.length_append, List.append_assoc, Nat.add_assoc]

/-- The work of a statement adds its effects. -/
theorem passes_work {log : List CallRecord}
    (hwork : ∀ entry ∈ log, entry.call.isWork = true) :
    Passes c v log (effects c v.clock log) [] :=
  replay_work hwork

/-- Calls that do not count add nothing. -/
theorem passes_of_not_counts {log : List CallRecord}
    (h : ∀ entry ∈ log, ¬ Counts c entry) : Passes c v log [] [] := by
  unfold Passes advance
  rw [replay_of_not_counts h, List.append_nil]
  rfl

/-- A nested transaction from its savepoint to its end: what was done inside
is added, unless it went back to its savepoint. Marks may be left of it, of
its own savepoint or of those inside. -/
theorem Closing.passes {name : String} {outcome : Outcome}
    {released : Option DriverError} {entries inside : List CallRecord}
    (h : Closing c name outcome released entries) {more : List Effect}
    {left : List (String × Nat)}
    (hinside : Passes c (v.advance 1 [] [(name, v.pending.length)]) inside
      more left)
    (hleft : ∀ m ∈ left, m.1 ≠ name) :
    ∃ left', (∀ m ∈ left', m ∈ left ∨ m.1 = name)
      ∧ Passes c v
          ([⟨some c, .savepoint name, none⟩] ++ inside ++ entries)
          (if succeeds .rollbackToSavepoint entries then [] else more)
          left' := by
  have hsaved : replay c v [⟨some c, .savepoint name, none⟩]
      = some (v.advance 1 [] [(name, v.pending.length)]) := by
    rw [replay_cons, step_savepoint]
    unfold advance
    rw [List.append_nil]
    rfl
  -- up to the end, all is in place above the mark of the savepoint
  have hopened := replay_trans hsaved hinside
  generalize hv₁ : (v.advance 1 [] [(name, v.pending.length)]).advance
    inside.length more left = v₁ at hopened
  have hmarks : v₁.marks = left ++ (name, v.pending.length) :: v.marks := by
    rw [← hv₁]
    rfl
  -- what marks the end leaves were left inside, or it is the savepoint's own
  obtain ⟨kept, hkept, hclosed⟩ := h.replay_below (c := c) hmarks hleft
  refine ⟨if released = none then [] else kept ++ [(name, v.pending.length)],
    ?_, ?_⟩
  · intro m hm
    split at hm
    · cases hm
    · rcases List.mem_append.mp hm with hm | hm
      · exact Or.inl (hkept m hm)
      · rw [List.mem_singleton.mp hm]
        exact Or.inr rfl
  unfold Passes
  rw [replay_trans hopened hclosed, ← hv₁]
  simp only [advance, List.length_append, List.length_singleton,
    List.append_nil, Nat.add_assoc]
  split
  · rw [List.take_left, List.append_nil]
  · rfl

end

end Server

end DataAccess
