/-
Two ways to read the same rows. A stream that is asked until it ends fetches
them one by one from a cursor; a query on a fresh read-only transaction gets
them all at once. As long as no call fails, both make the same of them
(`streamed_agrees`): either every row, or the rows before the first one that
fails, and that failure.

# The shape of the proof

Both begin the same transaction, and up to the first row neither changes
anything that a mapper could see (`Keeps Session.undriven`). From there on
`Yields` says what the stream gives, row by row, and the query goes through
the same rows; a mapper that is `Blind` and the sessions on both sides stay
alike (`Yields.drains`, by induction on the rows). What is said about the
calls is read off `Life`.
-/
import DataAccess.Proofs.Stream.Blind
import DataAccess.Proofs.Stream.Life

namespace DataAccess

open DataAccess.Action Ledger

variable {σ α : Type}

-- ============================================================== what is read

namespace Action

/-- What a mapper that remembers what it saw makes of rows, one after the
other. -/
def mapRowsFrom (resolver : ColumnResolver) (f : Row → σ → Action (α × σ)) :
    List (List Value) → σ → Action (List α)
  | [], _ => pure []
  | values :: rest, memory => do
    let row ← ofExcept (Row.ofValues values resolver)
    let (x, memory) ← f row memory
    let xs ← mapRowsFrom resolver f rest memory
    return x :: xs

/-- Every row of a query, mapped by a mapper that remembers what it saw. -/
def fetchMapFrom (t : TransactionId) (sql : String) (params : Params)
    (f : Row → σ → Action (α × σ)) (memory : σ) : Action (List α) := do
  let statement ← resolve t sql params
  let result ← runQuery t statement
  let context := (← get).context t statement.sql statement.params
  mapError (Error.withContext context)
    (mapRowsFrom (ColumnResolver.ofColumns result.columns) f result.rows
      memory)

/-- A mapper that has nothing to remember. -/
theorem mapRowsFrom_eq (resolver : ColumnResolver) (f : Row → Action α)
    (rows : List (List Value)) :
    mapRowsFrom resolver (fun row (_ : Unit) => do return (← f row, ()))
        rows ()
      = mapRows resolver f rows := by
  induction rows with
  | nil => rfl
  | cons values rest ih =>
      simp only [mapRowsFrom, mapRows, bind_assoc, pure_bind, ih]

/-- Does something on a fresh read-only transaction. -/
def onFresh (a : TransactionId → Action α) : Action α := do
  let t ← begin true
  a t

end Action

namespace QueryStream

/-- Opens a stream as it is told, asks it so many times, and drops it. -/
def reading (opening : Action (QueryStream σ α)) (n : Nat) :
    Action (Use α) := do
  let opening ← watch opening
  match opening.result with
  | .error e => return .refused e opening.records
  | .ok q =>
    let (pulls, dropping) ← readAndDrop n q
    return .opened opening.records pulls dropping

theorem use_eq (sql : String) (params : Params)
    (mapper : TransactionId → Row → σ → Action (α × σ)) (memory : σ)
    (n : Nat) :
    use sql params mapper memory n
      = reading (openMapped sql params mapper memory) n := rfl

end QueryStream

/-- The answers of a stream that was asked. -/
def Use.answers : Use α → List (Option (Except Error α))
  | .refused .. => []
  | .opened _ pulls _ => pulls.map Pull.item

/-- The answers of a stream are these items, and then the end, time and
again. -/
def Drained (answers : List (Option (Except Error α)))
    (items : List (Except Error α)) : Prop :=
  ∃ n, answers = items.map some ++ List.replicate (n + 1) none

/-- An item is drained before the rest. -/
theorem Drained.cons {answers : List (Option (Except Error α))}
    {items : List (Except Error α)} (h : Drained answers items)
    (item : Except Error α) :
    Drained (some item :: answers) (item :: items) := by
  obtain ⟨n, rfl⟩ := h
  exact ⟨n, rfl⟩

/-- What was given is read off the answers. -/
theorem Drained.items_eq {answers : List (Option (Except Error α))}
    {items : List (Except Error α)} (h : Drained answers items) :
    answers.filterMap id = items := by
  obtain ⟨n, rfl⟩ := h
  rw [List.filterMap_append, List.filterMap_map]
  simp

/-- What mapping the first rows comes to, by how many they are, when it stops
at a row: those before it are made, and it is not. -/
structure Stops (mapped : Nat → Except Error (List α)) (xs : List α)
    (e : Error) : Prop where
  before : mapped xs.length = .ok xs
  failing : mapped (xs.length + 1) = .error e

/-- The answers are what mapping so many rows comes to, one by one. -/
inductive Drains (mapped : Nat → Except Error (List α)) (rows : Nat)
    (context : StatementContext) (answers : List (Option (Except Error α))) :
    Prop where
  | made (xs : List α) (hmapped : mapped rows = .ok xs)
      (h : Drained answers (xs.map Except.ok))
  | stopped (xs : List α) (e : Error) (hmapped : mapped rows = .error e)
      (hstops : Stops mapped xs e)
      (h : Drained answers
        (xs.map Except.ok ++ [.error (e.withContext context)]))

/-- A row that is made goes before the others. -/
theorem Drains.row {mapped mapped' : Nat → Except Error (List α)} {rows : Nat}
    {context : StatementContext} {answers : List (Option (Except Error α))}
    {x : α} (hmapped : ∀ k, mapped (k + 1) = (mapped' k).map (x :: ·))
    (h : Drains mapped' rows context answers) :
    Drains mapped (rows + 1) context (some (.ok x) :: answers) := by
  cases h with
  | made xs hall h =>
      refine .made (x :: xs) ?_ (h.cons (.ok x))
      rw [hmapped, hall]
      rfl
  | stopped xs e hall hstops h =>
      refine .stopped (x :: xs) e ?_ ⟨?_, ?_⟩ (h.cons (.ok x))
      · rw [hmapped, hall]
        rfl
      · rw [List.length_cons, hmapped, hstops.before]
        rfl
      · rw [List.length_cons, hmapped, hstops.failing]
        rfl

-- ================================================================ failures

/-- What is given back without a failure leaves none behind. -/
theorem Lease.refusals_eq_nil {r : Lease} {f : Returning}
    (h : Unfailing (r.giveBack f)) : r.refusals f = [] := by
  obtain ⟨connection, display, sql, statement, cursor⟩ := r
  obtain ⟨ofCursor, ofStatement, ended, closed⟩ := f
  have hended : ended = none :=
    h ⟨some connection, .commit, ended⟩ (by simp [giveBack, endings])
  have hclosed : closed = none :=
    h ⟨some connection, .close, closed⟩ (by simp [giveBack, endings])
  subst hended hclosed
  have hstatement : statement.isSome → ofStatement = none := by
    intro hsome
    obtain ⟨k, rfl⟩ := Option.isSome_iff_exists.mp hsome
    exact h ⟨some connection, .closeStatement k, ofStatement⟩
      (by simp [giveBack, closings])
  have hcursor : cursor.isSome → ofCursor = none := by
    intro hsome
    obtain ⟨k, rfl⟩ := Option.isSome_iff_exists.mp hsome
    exact h ⟨some connection, .closeCursor k, ofCursor⟩
      (by simp [giveBack, closings])
  have hnone : ∀ {held : Bool} {failure : Option DriverError},
      (held = true → failure = none) → (if held then failuresIn
        (reported (placed display sql) failure) else []) = [] := by
    intro held failure h
    cases held with
    | false => rfl
    | true =>
        rw [h rfl]
        rfl
  show (if cursor.isSome then failuresIn
      (reported (placed display sql) ofCursor) else [])
    ++ (if statement.isSome then failuresIn
      (reported (placed display sql) ofStatement) else []) ++ [] = []
  rw [hnone hcursor, hnone hstatement]
  rfl

-- ================================================================= rows

namespace Action

variable {mapper : TransactionId → Row → σ → Action (α × σ)}
  {t : TransactionId} {resolver : ColumnResolver} {values : List Value}
  {rest : List (List Value)} {m m' : σ} {s s' : Session}

/-- The first row, and then the others. -/
theorem mapRowsFrom_cons :
    mapRowsFrom resolver (mapper t) (values :: rest) m
      = QueryStream.makeRow mapper t resolver values m >>= fun made => do
        let xs ← mapRowsFrom resolver (mapper t) rest made.2
        return made.1 :: xs := by
  simp only [mapRowsFrom, QueryStream.makeRow, bind_assoc]

/-- A row that is made comes before the rest. -/
theorem mapRowsFrom_made {x : α} (h : (QueryStream.makeRow mapper t resolver
      values m).answer s = .ok (x, m')) :
    (mapRowsFrom resolver (mapper t) (values :: rest) m).answer s
      = ((mapRowsFrom resolver (mapper t) rest m').answer
          ((QueryStream.makeRow mapper t resolver values m).after s)).map
            (x :: ·) := by
  rw [mapRowsFrom_cons, EStateM.answer_bind_ok h, EStateM.answer_bind]
  cases (mapRowsFrom resolver (mapper t) rest m').answer _ <;> rfl

/-- A row that cannot be made ends it. -/
theorem mapRowsFrom_unmade {e : Error} (h : (QueryStream.makeRow mapper t
      resolver values m).answer s = .error e) :
    (mapRowsFrom resolver (mapper t) (values :: rest) m).answer s
      = .error e := by
  rw [mapRowsFrom_cons, EStateM.answer_bind_error h]

/-- Rows are mapped without a call. -/
theorem quiet_mapRowsFrom (hpassive : Passive mapper)
    (resolver : ColumnResolver) (rows : List (List Value)) (m : σ) :
    Quiet id (mapRowsFrom resolver (mapper t) rows m) := by
  induction rows generalizing m with
  | nil => exact quiet_pure []
  | cons values rest ih =>
      exact (quiet_ofExcept _).bind fun row => (hpassive t row m).bind
        fun made => (ih made.2).bind fun xs => quiet_pure _

end Action

/-- What a query makes of the first rows, by how many they are. -/
def mappedFrom (mapper : TransactionId → Row → σ → Action (α × σ))
    (t : TransactionId) (resolver : ColumnResolver)
    (rows : List (List Value)) (m : σ) (s : Session) (k : Nat) :
    Except Error (List α) :=
  (mapRowsFrom resolver (mapper t) (rows.take k) m).answer s

/-- What the questions bring as long as no call fails: all rows, if all are
made, or those before the first that is not, and then its failure. The
session of a query differs from that of the stream in what no mapper sees.
The induction is on the rows, which both go through. -/
theorem Yields.drains
    {mapper : TransactionId → Row → σ → Action (α × σ)} {t : TransactionId}
    (hblind : ∀ row m, Blind Session.undriven (mapper t row m))
    {resolver : ColumnResolver} {r : Lease} {cursor : Nat} {s s₂ : Session}
    {m : σ} {rows : List (List Value)} {pulls : List (Pull α)}
    {dropping : List CallRecord}
    (h : Yields r cursor (QueryStream.makeRow mapper t resolver) s m rows pulls
      dropping)
    (hview : s.undriven = s₂.undriven)
    (hcalls : Unfailing (pulls.flatMap Pull.calls ++ dropping))
    (hlength : rows.length < pulls.length) :
    Drains (mappedFrom mapper t resolver rows m s₂) rows.length r.context
      (pulls.map Pull.item) := by
  have hrest : ∀ {item : Option (Except Error α)} {calls : List CallRecord}
      {n : Nat}, ((⟨item, calls⟩ : Pull α)
          :: List.replicate n ⟨none, []⟩).map Pull.item
        = item :: List.replicate n none := by
    intro item calls n
    rw [List.map_cons, List.map_replicate]
  have hblind' := QueryStream.blind_makeRow hblind resolver
  induction h generalizing s₂ with
  | dropped s m rows f => exact absurd hlength (Nat.not_lt_zero _)
  -- the fetch failed, which no call does
  | unfetched s m rows failure f n =>
      have hfailure := hcalls (r.fetching cursor (some failure)) (by simp)
      cases hfailure
  | exhausted s m f n =>
      have hgiven : Unfailing (r.giveBack f) := fun entry hentry =>
        hcalls entry (by simp [hentry])
      rw [hrest, Lease.refusals_eq_nil hgiven]
      exact .made [] rfl ⟨n, rfl⟩
  -- both stop at the row that is not made; the stream is asked once more,
  -- since it is asked more often than there are rows
  | @unmade s s' m values e rows hmade f n =>
      have hgiven : Unfailing (r.giveBack f) := fun entry hentry =>
        hcalls entry (by simp [hentry])
      have hview : (s.fetched r.connection cursor).undriven = s₂.undriven :=
        hview
      have hmade₂ := EStateM.answer_of_eq_error hmade
      rw [(hblind' values m).answer_eq hview] at hmade₂
      obtain ⟨k, rfl⟩ : ∃ k, n = k + 1 := by
        rw [List.length_cons, List.length_cons, List.length_replicate]
          at hlength
        exact Nat.exists_eq_succ_of_ne_zero (by omega)
      rw [hrest, Lease.refusals_eq_nil hgiven]
      exact .stopped [] e (mapRowsFrom_unmade hmade₂)
        ⟨rfl, mapRowsFrom_unmade hmade₂⟩ ⟨k, rfl⟩
  -- both make the row, for it is made of nothing that the sessions differ in
  | @row s s' m m' values x rows pulls dropping hmade rest ih =>
      have hview : (s.fetched r.connection cursor).undriven = s₂.undriven :=
        hview
      have hmade₂ := EStateM.answer_of_eq_ok hmade
      rw [(hblind' values m).answer_eq hview] at hmade₂
      have hview' := (hblind' values m).after_eq hview
      rw [EStateM.after_of_eq_ok hmade] at hview'
      refine Drains.row (fun k => mapRowsFrom_made hmade₂)
        (ih hview' (fun entry hentry => hcalls entry ?_)
          (Nat.lt_of_succ_lt_succ hlength))
      rw [List.flatMap_cons, List.append_assoc]
      exact List.mem_append_right _ hentry

-- =============================================================== the query

/-- A query on a transaction that is open: it fails, or it has the result
that comes next. -/
theorem Action.runQuery_cases {s : Session} {t : TransactionId} {c : Nat}
    {display : String} (h : s.ledger.Hosts t c display)
    (b : BoundStatement) :
    (∃ e failure s', runQuery t b s = .error e s'
      ∧ s'.ledger
        = s.ledger.record [⟨some c, .query b.sql b.params, some failure⟩])
    ∨ ∃ s', runQuery t b s = .ok s.nextResult s'
      ∧ s'.ledger
        = s.ledger.record [⟨some c, .query b.sql b.params, none⟩] := by
  obtain ⟨event, hdrives⟩ := onConnection_drives h.connectionOf
    (fun c => Driver.query c b.sql b.params) b.sql b.params
  have hrun : runQuery t b s = drive (s.context t b.sql b.params)
      (Driver.query c b.sql b.params) (s.report event) := by
    unfold runQuery
    rw [EStateM.bind_of_eq_ok h.ensureOpen_eq, hdrives]
  have hledger := (s.report event).ledger_drive
    (Driver.records_query c b.sql b.params) (s.context t b.sql b.params)
  rw [hrun]
  rcases Driver.query_cases c (s.report event).driver b.sql b.params with
    ⟨failure, hanswer⟩ | hanswer <;> rw [hanswer] at hledger
  · exact Or.inl ⟨_, failure, _, drive_of_error hanswer _, hledger⟩
  · exact Or.inr ⟨_, drive_of_ok hanswer _, hledger⟩

/-- The session of a query on a fresh transaction when its result is
there. -/
def Session.answered (s : Session) (b : BoundStatement) : Session :=
  (onFresh fun t => runQuery t b).after s

/-- What a query on a fresh transaction makes of the first rows of its
result. -/
def Session.mapped (s : Session) (b : BoundStatement)
    (mapper : TransactionId → Row → σ → Action (α × σ)) (memory : σ) :
    Nat → Except Error (List α) :=
  mappedFrom mapper s.transactions.length (.ofColumns s.nextResult.columns)
    s.nextResult.rows memory (s.answered b)

section

variable {s s₁ : Session} {sql : String} {params : Params}
  {b : BoundStatement} {mapper : TransactionId → Row → σ → Action (α × σ)}

/-- No mapper sees of a query that it was made. -/
theorem Session.undriven_answered
    (hbegun : Action.begin true s = .ok s.transactions.length s₁) :
    (s.answered b).undriven = s₁.undriven := by
  unfold answered onFresh EStateM.after
  rw [EStateM.bind_of_eq_ok hbegun]
  exact undriven_runQuery _ b s₁

/-- What follows on a fresh transaction. -/
theorem Action.onFresh_eq
    (hbegun : Action.begin true s = .ok s.transactions.length s₁)
    (a : TransactionId → Action α) :
    onFresh a s = a s.transactions.length s₁ :=
  EStateM.bind_of_eq_ok hbegun a

theorem Action.fetchMapFrom_resolved (hb : params.resolve sql = .ok b)
    (t : TransactionId) (f : Row → σ → Action (α × σ)) (memory : σ) :
    fetchMapFrom t sql params f memory = (do
      let result ← runQuery t b
      let context := (← get).context t b.sql b.params
      mapError (Error.withContext context)
        (mapRowsFrom (.ofColumns result.columns) f result.rows memory)) := by
  unfold fetchMapFrom resolve
  rw [hb]
  rfl

/-- To begin takes nothing of the next result. -/
theorem Session.nextResult_begun
    (hbegun : Action.begin true s = .ok s.transactions.length s₁) :
    s₁.nextResult = s.nextResult := by
  have hresults : s₁.driver.results = s.driver.results :=
    congrArg (·.2.results)
      (EStateM.after_of_eq_ok hbegun ▸ keeps_begin true s)
  unfold nextResult
  rw [hresults]

variable (mapper) in
/-- Once its result is there, a query maps the rows of it. -/
theorem Action.fetchMapFrom_answered {s₂ : Session}
    (hb : params.resolve sql = .ok b)
    (hbegun : Action.begin true s = .ok s.transactions.length s₁)
    (hquery : runQuery s.transactions.length b s₁ = .ok s.nextResult s₂)
    (memory : σ) :
    s.answered b = s₂
      ∧ (onFresh fun t => fetchMapFrom t sql params (mapper t) memory) s
        = mapError (Error.withContext
            (s₂.context s.transactions.length b.sql b.params))
          (mapRowsFrom (.ofColumns s.nextResult.columns)
            (mapper s.transactions.length) s.nextResult.rows memory) s₂ := by
  constructor
  · unfold Session.answered
    rw [EStateM.after, onFresh_eq hbegun, hquery]
  · rw [onFresh_eq hbegun, fetchMapFrom_resolved hb,
      EStateM.bind_of_eq_ok hquery]
    rfl

/-- A query whose calls do not fail maps the rows of its result. -/
theorem Action.fetchMapFrom_runs (hpassive : Passive mapper)
    (hb : params.resolve sql = .ok b)
    (hbegun : Action.begin true s = .ok s.transactions.length s₁)
    (hledger₁ : s₁.ledger = s.ledger.begun true) (memory : σ) :
    ∃ reply s', watch (onFresh fun t =>
        fetchMapFrom t sql params (mapper t) memory) s = .ok reply s'
      ∧ (Unfailing reply.records →
        (∃ context, reply.result
          = (s.mapped b mapper memory s.nextResult.rows.length).mapError
              (Error.withContext context))
        ∧ reply.records.map (·.call)
          = [.connect, .begin true, .query b.sql b.params]) := by
  have hhosts : s₁.ledger.Hosts s.transactions.length
      s.driver.connections.length (nextDisplay s) := by
    rw [hledger₁]
    exact Ledger.Hosts.begun s.ledger
  have hlog : ∀ {s₂ : Session} {entries : List CallRecord},
      s₂.ledger = s₁.ledger.record entries →
      s₂.ledger.log = s.ledger.log ++ (s.beginning ++ entries) := by
    intro s₂ entries h
    rw [h, hledger₁]
    exact List.append_assoc ..
  rcases runQuery_cases hhosts b with
    ⟨e, failure, s₂, hquery, hledger₂⟩ | ⟨s₂, hquery, hledger₂⟩
  · -- the query fails, and then not every call succeeds
    have hrun : (onFresh fun t =>
        fetchMapFrom t sql params (mapper t) memory) s = .error e s₂ := by
      rw [onFresh_eq hbegun, fetchMapFrom_resolved hb,
        EStateM.bind_of_eq_error hquery]
    refine ⟨_, s₂, watch_of_error hrun (hlog hledger₂), fun hcalls => ?_⟩
    cases hcalls ⟨_, _, some failure⟩ (List.mem_concat_self ..)
  · -- the query is answered, and the mapper adds no call of its own
    rw [Session.nextResult_begun hbegun] at hquery
    obtain ⟨hanswered, hrun⟩ :=
      fetchMapFrom_answered mapper hb hbegun hquery memory
    have hanswer : (onFresh fun t =>
        fetchMapFrom t sql params (mapper t) memory).answer s
        = (s.mapped b mapper memory s.nextResult.rows.length).mapError
            (Error.withContext
              (s₂.context s.transactions.length b.sql b.params)) := by
      unfold Session.mapped mappedFrom
      rw [hanswered, List.take_length, ← answer_mapError, EStateM.answer,
        hrun]
      rfl
    have hafter : ((onFresh fun t =>
        fetchMapFrom t sql params (mapper t) memory).after s).ledger
        = s₂.ledger := by
      rw [EStateM.after, hrun]
      exact ((quiet_mapRowsFrom hpassive _ _ memory).mapError _).ledger s₂
    exact ⟨_, _, watch_eq _ (hlog (hafter.trans hledger₂)),
      fun _ => ⟨⟨_, hanswer⟩, rfl⟩⟩

end

-- ============================================================= the agreement

/-- What a stream gave that was read until it ended, and what a query on a
fresh transaction came to. -/
structure Agree (b : BoundStatement)
    (mapped : Nat → Except Error (List α)) (u : Use α)
    (reply : Reply (List α)) : Prop where
  made : ∀ xs : List α, reply.result = .ok xs
    ↔ Drained u.answers (xs.map Except.ok)
  /-- The stream gives what is made of the rows before the first that fails,
  and then a failure with the same cause. -/
  stopped : ∀ e, reply.result = .error e → ∃ xs e₀ e', Stops mapped xs e₀
    ∧ Drained u.answers (xs.map Except.ok ++ [.error e'])
    ∧ e'.primary = e.primary
  failed : ∀ (xs : List α) e',
    Drained u.answers (xs.map Except.ok ++ [.error e']) →
      ∃ e, reply.result = .error e ∧ e.primary = e'.primary
  /-- Both hand over the same statement. -/
  streamed : ∃ handle size calls, u.records.map (·.call)
    = .connect :: .begin true :: .prepare b.sql
      :: .openCursor handle b.params size :: calls
  queried : reply.records.map (·.call)
    = [.connect, .begin true, .query b.sql b.params]

theorem map_ok_inj {xs ys : List α}
    (h : xs.map (Except.ok : α → Except Error α) = ys.map Except.ok) :
    xs = ys :=
  (List.map_inj_right fun _ _ => Except.ok.inj).mp h

/-- What ends with a failure is not made of rows alone. -/
theorem map_ok_ne (xs ys : List α) (e : Error) :
    xs.map Except.ok ≠ ys.map Except.ok ++ [Except.error e] := by
  intro h
  have hmem : Except.error e ∈ xs.map (Except.ok : α → Except Error α) := by
    rw [h]
    exact List.mem_concat_self ..
  simp at hmem

/-- Where the answers are those of the rows, one by one, a query that maps
the same rows agrees. -/
theorem Drains.agree {b : BoundStatement}
    {mapped : Nat → Except Error (List α)} {rows : Nat}
    {context context' : StatementContext} {u : Use α}
    {reply : Reply (List α)} (h : Drains mapped rows context u.answers)
    (hresult : reply.result
      = (mapped rows).mapError (Error.withContext context'))
    (hstreamed : ∃ handle size calls, u.records.map (·.call)
      = .connect :: .begin true :: .prepare b.sql
        :: .openCursor handle b.params size :: calls)
    (hqueried : reply.records.map (·.call)
      = [.connect, .begin true, .query b.sql b.params]) :
    Agree b mapped u reply := by
  cases h with
  -- all rows are made: neither side fails
  | made xs hmapped hdrained =>
      rw [hmapped] at hresult
      refine ⟨fun ys => ?_, fun e he => ?_, fun ys e' hfailed => ?_,
        hstreamed, hqueried⟩
      · rw [hresult]
        constructor
        · intro h
          cases h
          exact hdrained
        · intro h
          rw [map_ok_inj (h.items_eq.symm.trans hdrained.items_eq)]
          rfl
      · rw [hresult] at he
        cases he
      · exact absurd (hdrained.items_eq.symm.trans hfailed.items_eq)
          (map_ok_ne xs ys e')
  -- one row is not made: both sides fail with it, under contexts of their own
  | stopped xs e hmapped hstops hdrained =>
      rw [hmapped] at hresult
      refine ⟨fun ys => ?_, fun e' he => ?_, fun ys e' hfailed => ?_,
        hstreamed, hqueried⟩
      · constructor
        · intro h
          rw [hresult] at h
          cases h
        · intro h
          exact absurd (h.items_eq.symm.trans hdrained.items_eq)
            (map_ok_ne ys xs _)
      · rw [hresult] at he
        cases he
        refine ⟨xs, e, _, hstops, hdrained, ?_⟩
        rw [Error.primary_withContext, Error.primary_withContext]
      · have hitems := hdrained.items_eq.symm.trans hfailed.items_eq
        have hlast := (List.append_inj' hitems rfl).2
        cases hlast
        refine ⟨_, hresult, ?_⟩
        rw [Error.primary_withContext, Error.primary_withContext]

/-- A stream that is asked until it ends and a query on a fresh read-only
transaction, both run from this session, agree if no call fails. -/
def Session.Agrees (s : Session) (b : BoundStatement) (n : Nat)
    (opening : Action (QueryStream σ α))
    (fetching : TransactionId → Action (List α))
    (mapped : Nat → Except Error (List α)) : Prop :=
  ∃ u s₁ reply s₂, QueryStream.reading opening n s = .ok u s₁
    ∧ watch (onFresh fetching) s = .ok reply s₂
    ∧ (Unfailing u.records → Unfailing reply.records → Agree b mapped u reply)

/-- Whatever is watched has a reply. -/
theorem Action.exists_reply (a : Action α) (s : Session) :
    ∃ reply s', watch a s = .ok reply s' := by
  unfold watch
  rw [EStateM.get_bind, EStateM.bind_of_eq_ok (attempt_eq s a)]
  exact ⟨_, _, rfl⟩

namespace QueryStream

variable {s s' : Session} {q : QueryStream σ α} {sql : String}
  {params : Params} {b : BoundStatement}
  {mapper : TransactionId → Row → σ → Action (α × σ)} {memory : σ} {n : Nat}

/-- What follows the beginning of a stream that is opened is nothing that a
mapper can see. -/
theorem openBound_eq_ok (h : openBound b mapper memory s = .ok q s') :
    ∃ s₁, Action.begin true s = .ok s.transactions.length s₁
      ∧ s₁.ledger = s.ledger.begun true ∧ s'.undriven = s₁.undriven := by
  rcases begin_cases s true with
    ⟨failure, s₁, hbegun, -⟩ | ⟨failure, closed, s₁, hbegun, -⟩
    | ⟨s₁, hbegun, hledger⟩
  · rw [openBound_unbegun hbegun] at h
    cases h
  · rw [openBound_unbegun hbegun] at h
    cases h
  · refine ⟨s₁, hbegun, hledger, ?_⟩
    unfold openBound at h
    rw [EStateM.bind_of_eq_ok hbegun] at h
    obtain ⟨⟨acquired, q'⟩, s₂, hacquired, h⟩ := EStateM.bind_eq_ok_iff.mp h
    have hview : s₂.undriven = s₁.undriven := by
      rw [← EStateM.after_of_eq_ok hacquired]
      exact undriven_acquire _ _ _ s₁
    cases acquired with
    | ok _ =>
        cases h
        exact hview
    | error e =>
        obtain ⟨_, _, -, h⟩ := EStateM.bind_eq_ok_iff.mp h
        cases h

/-- A stream whose parameters resolve is opened unless a call fails. -/
theorem not_unfailing_of_refused {e : Error} {calls : List CallRecord}
    (hb : params.resolve sql = .ok b)
    (h : Life s sql params mapper memory n (.refused e calls)) :
    ¬ Unfailing calls := by
  intro hcalls
  cases h with
  | unresolved hfault =>
      rw [hb] at hfault
      cases hfault
  | unconnected _ failure =>
      cases hcalls ⟨none, .connect, some failure⟩ (by simp)
  | unbegun _ failure _ _ =>
      cases hcalls ⟨_, .begin true, some failure⟩
        (List.mem_cons_of_mem _ (List.mem_cons_self ..))
  | @unprepared b' _ _ _ failure _ =>
      cases hcalls (s.preparing b'.sql (some failure)) (by simp)
  | @unopened b' _ _ _ failure _ =>
      cases hcalls (s.opening b'.params (some failure)) (by simp)

/-- A mapper that makes no calls and sees none makes the same of the rows of a
stream and of a query. -/
theorem openMapped_agrees (hpassive : Passive mapper)
    (hblind : ∀ t row m, Blind Session.undriven (mapper t row m))
    (hnumbered : s.driver.Numbered) (hb : params.resolve sql = .ok b)
    (hn : s.nextResult.rows.length < n) :
    s.Agrees b n (openMapped sql params mapper memory)
      (fun t => fetchMapFrom t sql params (mapper t) memory)
      (s.mapped b mapper memory) := by
  obtain ⟨u, s₁, huse, -, hlife⟩ :=
    exists_life_resolved hpassive hnumbered hb memory n
  rw [use_eq] at huse
  cases u with
  -- a stream that does not open had a call that failed
  | refused e calls =>
      obtain ⟨reply, s₂, hreply⟩ := exists_reply
        (onFresh fun t => fetchMapFrom t sql params (mapper t) memory) s
      exact ⟨_, s₁, reply, s₂, huse, hreply, fun hcalls =>
        absurd hcalls (not_unfailing_of_refused hb hlife)⟩
  -- both begin alike, and then they go through the same rows
  | opened calls pulls dropping =>
      cases hlife with
      | @opened b' hb' r hr q s' hopen _ _ hlength hyields =>
          cases hb.symm.trans hb'
          rw [openMapped_resolved hb] at hopen
          obtain ⟨s₀, hbegun, hledger₀, hview⟩ := openBound_eq_ok hopen
          obtain ⟨reply, s₂, hreply, hfetched⟩ :=
            fetchMapFrom_runs hpassive hb hbegun hledger₀ memory
          refine ⟨_, s₁, reply, s₂, huse, hreply, fun hstream hquery => ?_⟩
          obtain ⟨⟨context, hresult⟩, hqueried⟩ := hfetched hquery
          have hcalls : Unfailing (pulls.flatMap Pull.calls ++ dropping) := by
            rw [Use.records, List.append_assoc] at hstream
            exact (unfailing_append.mp hstream).2
          have hdrains : Drains (s.mapped b mapper memory)
              s.nextResult.rows.length r.context (pulls.map Pull.item) :=
            hyields.drains (hblind _)
              (hview.trans (Session.undriven_answered hbegun).symm) hcalls
              (hlength ▸ hn)
          exact hdrains.agree hresult ⟨_, _, _, rfl⟩ hqueried

end QueryStream

-- ============================================================ what is read by

namespace Action

/-- A mapper of rows, as a mapper that has nothing to remember. -/
def memoryless (f : Row → Action α) (row : Row) (_ : Unit) :
    Action (α × Unit) := do
  return (← f row, ())

/-- Without memory a query is the one without. -/
theorem fetchMapFrom_memoryless (t : TransactionId) (sql : String)
    (params : Params) (f : Row → Action α) :
    fetchMapFrom t sql params (memoryless f) () = fetchMap t sql params f := by
  unfold fetchMapFrom fetchMap
  simp only [← mapRowsFrom_eq]
  rfl

end Action

/-- The record of a row, for a stream. -/
def RecordMapper.ofRow (mapper : RecordMapper α) (_ : TransactionId)
    (row : Row) : Unit → Action (α × Unit) :=
  memoryless (fun row => Action.ofExcept (mapper.map row)) row

namespace QueryStream

/-- A stream of records has a mapper that remembers nothing. -/
theorem openRecords_eq (sql : String) (params : Params)
    (mapper : RecordMapper α) :
    openRecords sql params mapper = openMapped sql params mapper.ofRow () := by
  have hmapped : ∀ r : Except Error α, Action.ofExcept (r.map (·, ()))
      = (do return (← Action.ofExcept r, ()) : Action (α × Unit)) := by
    intro r
    cases r <;> rfl
  unfold openRecords openRows
  simp only [hmapped]
  rfl

section

variable {s : Session} {sql : String} {params : Params} {b : BoundStatement}
  {n : Nat}

/-- With a closure that remembers what it saw. -/
theorem openRows_agrees (hnumbered : s.driver.Numbered)
    (hb : params.resolve sql = .ok b) (hn : s.nextResult.rows.length < n)
    (f : Row → σ → Except Error (α × σ)) (memory : σ) :
    s.Agrees b n (openRows sql params f memory)
      (fun t => fetchMapFrom t sql params
        (fun row m => Action.ofExcept (f row m)) memory)
      (s.mapped b (fun _ row m => Action.ofExcept (f row m)) memory) :=
  openMapped_agrees (passive_rows f) (fun _ row m => blind_ofExcept (f row m))
    hnumbered hb hn

/-- With a record mapper. -/
theorem openRecords_agrees (hnumbered : s.driver.Numbered)
    (hb : params.resolve sql = .ok b) (hn : s.nextResult.rows.length < n)
    (mapper : RecordMapper α) :
    s.Agrees b n (openRecords sql params mapper)
      (fun t => fetchRecords t sql params mapper)
      (s.mapped b mapper.ofRow ()) := by
  rw [openRecords_eq]
  simp only [fetchRecords, ← fetchMapFrom_memoryless]
  exact openMapped_agrees
    (fun _ row _ => (quiet_ofExcept _).bind fun _ => quiet_pure _)
    (fun _ row _ => (blind_ofExcept _).bind fun _ => blind_pure _)
    hnumbered hb hn

/-- With entities of a type, if there is a binding of it. -/
theorem openEntities_agrees (hnumbered : s.driver.Numbered)
    (hb : params.resolve sql = .ok b) (hn : s.nextResult.rows.length < n)
    (schema : Schema) (typeName : String) :
    match EntityBinding.ofType schema typeName with
    | .ok binding =>
      s.Agrees b n (openEntities schema typeName sql params)
        (fun t => fetchEntities schema t typeName sql params)
        (s.mapped b (entityMapper schema binding) ())
    | .error e =>
      (openEntities schema typeName sql params).answer s = .error e
        ∧ ∀ t, (fetchEntities schema t typeName sql params).answer s
          = .error e := by
  unfold openEntities fetchEntities
  cases EntityBinding.ofType schema typeName with
  | error e => exact ⟨rfl, fun _ => rfl⟩
  | ok binding =>
      simp only [← fetchMapFrom_memoryless]
      exact openMapped_agrees (passive_entityMapper schema binding)
        (blind_entityMapper schema binding) hnumbered hb hn

end

/-- Whatever a stream and a query read a result with, the two agree. That the
handles of the driver are in order holds at any time
(`Desk.Kept.agrees_serveAll`). -/
theorem streamed_agrees {s : Session} (hnumbered : s.driver.Numbered)
    {sql : String} {params : Params} {b : BoundStatement}
    (hb : params.resolve sql = .ok b) {n : Nat}
    (hn : s.nextResult.rows.length < n) :
    (∀ {σ α : Type} (f : Row → σ → Except Error (α × σ)) (memory : σ),
      s.Agrees b n (openRows sql params f memory)
        (fun t => fetchMapFrom t sql params
          (fun row m => Action.ofExcept (f row m)) memory)
        (s.mapped b (fun _ row m => Action.ofExcept (f row m)) memory))
    ∧ (∀ {α : Type} (mapper : RecordMapper α),
      s.Agrees b n (openRecords sql params mapper)
        (fun t => fetchRecords t sql params mapper)
        (s.mapped b mapper.ofRow ()))
    ∧ ∀ (schema : Schema) (typeName : String),
      match EntityBinding.ofType schema typeName with
      | .ok binding =>
        s.Agrees b n (openEntities schema typeName sql params)
          (fun t => fetchEntities schema t typeName sql params)
          (s.mapped b (entityMapper schema binding) ())
      | .error e =>
        (openEntities schema typeName sql params).answer s = .error e
          ∧ ∀ t, (fetchEntities schema t typeName sql params).answer s
            = .error e :=
  ⟨openRows_agrees hnumbered hb hn, openRecords_agrees hnumbered hb hn,
    openEntities_agrees hnumbered hb hn⟩

/-- A driver with two rows to give. -/
def paired : Driver :=
  Driver.empty.pushResult ⟨[⟨none, "n"⟩], [[.int32 1], [.int32 2]]⟩

/-- Of two rows the second is not taken, one by one as all at once. -/
theorem agree_paired :
    let s := Session.blank paired
    let take := fun (_ : TransactionId) row seen =>
      Action.ofExcept (onlyOne row seen)
    s.driver.Numbered ∧ s.nextResult.rows.length < 3
      ∧ ∃ b u s₁ reply s₂, Params.empty.resolve "SELECT n FROM t" = .ok b
        ∧ reading (openRows "SELECT n FROM t" Params.empty onlyOne 0) 3 s
          = .ok u s₁
        ∧ watch (onFresh fun t =>
            fetchMapFrom t "SELECT n FROM t" Params.empty (take t) 0) s
          = .ok reply s₂
        ∧ Unfailing u.records ∧ Unfailing reply.records
        ∧ Agree b (s.mapped b take 0) u reply ∧ u.answers.length = 3 := by
  intro s take
  have hnumbered : s.driver.Numbered := by decide
  have hn : s.nextResult.rows.length < 3 := by decide
  have hresolved : (Params.empty.resolve "SELECT n FROM t").isOk = true := by
    decide +kernel
  have hstream : (match reading (openRows "SELECT n FROM t" Params.empty
        onlyOne 0) 3 s with
      | .ok u _ => u.records.all (·.failure.isNone) && u.answers.length == 3
      | .error _ _ => false) = true := by
    decide +kernel
  have hquery : (match watch (onFresh fun t => fetchMapFrom t
        "SELECT n FROM t" Params.empty (take t) 0) s with
      | .ok reply _ => reply.records.all (·.failure.isNone)
      | .error _ _ => false) = true := by
    decide +kernel
  obtain ⟨b, hb⟩ := Except.exists_of_isOk hresolved
  obtain ⟨u, s₁, reply, s₂, huse, hreply, hagree⟩ :=
    (streamed_agrees hnumbered hb hn).1 onlyOne 0
  rw [huse] at hstream
  rw [hreply] at hquery
  obtain ⟨hstream, hlength⟩ := Bool.and_eq_true_iff.mp hstream
  have hstream : Unfailing u.records := by
    simpa [Unfailing] using hstream
  have hquery : Unfailing reply.records := by
    simpa [Unfailing] using hquery
  exact ⟨hnumbered, hn, b, u, s₁, reply, s₂, hb, huse, hreply, hstream,
    hquery, hagree hstream hquery, of_decide_eq_true hlength⟩

end QueryStream

end DataAccess
