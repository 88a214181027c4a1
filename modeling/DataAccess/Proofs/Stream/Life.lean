/-
The whole life of a stream: it is opened, asked for items some number of
times, and dropped. `Life` says what can come of it, call by call, whatever
the driver does; `exists_life` proves that nothing else does.

# The reading of a life

- Every life ends in `Lease.giveBack`, and only once: the calls that return
  what was acquired, the cursor first, then the statement, then the
  transaction, each tried whatever became of the others. A life that never
  acquired a transaction closes no more than its connection.
- Rows are fetched between the opening and the return, and each row that is
  made is an item.
- A failure to fetch a row or to make something of it is the last item. The
  failures of the return are carried along behind it, in their order. When
  the rows are used up these failures are the last item by themselves, the
  first in front of the others; if there are none, there is no such item.
- After that there are no items and no calls, also when it is dropped.

`Yields` follows the rows, and so does the proof: it goes through the
questions one by one, with the rows that are left at the cursor.
-/
import DataAccess.Proofs.Session.Consistency
import DataAccess.Proofs.Stream.Steps

namespace DataAccess

open DataAccess.Action Ledger

variable {σ α : Type}

-- ============================================================ what is done

/-- What one question brought: the item, and the calls it took. -/
structure Pull (α : Type) where
  item : Option (Except Error α)
  calls : List CallRecord

/-- What came of a stream: it was not opened, or it was opened, asked, and
dropped. -/
inductive Use (α : Type) where
  | refused (e : Error) (calls : List CallRecord)
  | opened (calls : List CallRecord) (pulls : List (Pull α))
      (dropping : List CallRecord)

/-- All calls, in order. -/
def Use.records : Use α → List CallRecord
  | .refused _ calls => calls
  | .opened calls pulls dropping =>
    calls ++ pulls.flatMap Pull.calls ++ dropping

namespace QueryStream

/-- Asks a stream so many times, and drops it. -/
def readAndDrop : Nat → QueryStream σ α →
    Action (List (Pull α) × List CallRecord)
  | 0, q => do
    let dropping ← watch q.drop
    Action.ofExcept dropping.result
    return ([], dropping.records)
  | n + 1, q => do
    let reply ← watch q.next
    let (item, q) ← Action.ofExcept reply.result
    let (pulls, dropping) ← readAndDrop n q
    return (⟨item, reply.records⟩ :: pulls, dropping)

/-- Opens a stream, asks it so many times, and drops it. -/
def use (sql : String) (params : Params)
    (mapper : TransactionId → Row → σ → Action (α × σ)) (memory : σ)
    (n : Nat) : Action (Use α) := do
  let opening ← watch (openMapped sql params mapper memory)
  match opening.result with
  | .error e => return .refused e opening.records
  | .ok q =>
    let (pulls, dropping) ← readAndDrop n q
    return .opened opening.records pulls dropping

end QueryStream

-- ========================================================== what comes of it

/-- The call that fetches a row. -/
def Lease.fetching (r : Lease) (cursor : Nat) (failure : Option DriverError) :
    CallRecord :=
  ⟨some r.connection, .fetch cursor, failure⟩

/-- What the questions bring, and what is left to the drop: from a session,
with what the mapper remembers and with the rows that are left. -/
inductive Yields (r : Lease) (cursor : Nat)
    (make : List Value → σ → Action (α × σ)) :
    Session → σ → List (List Value) → List (Pull α) → List CallRecord → Prop
  /-- Nothing more is asked: the drop gives everything back. -/
  | dropped (s : Session) (m : σ) (rows : List (List Value)) (f : Returning) :
      Yields r cursor make s m rows [] (r.giveBack f)
  | row {s s' : Session} {m m' : σ} {values : List Value} {x : α}
      {rows : List (List Value)} {pulls : List (Pull α)}
      {dropping : List CallRecord}
      (hmade : make values m (s.fetched r.connection cursor) = .ok (x, m') s')
      (rest : Yields r cursor make s' m' rows pulls dropping) :
      Yields r cursor make s m (values :: rows)
        (⟨some (.ok x), [r.fetching cursor none]⟩ :: pulls) dropping
  | unmade {s s' : Session} {m : σ} {values : List Value} {e : Error}
      (rows : List (List Value))
      (hmade : make values m (s.fetched r.connection cursor) = .error e s')
      (f : Returning) (n : Nat) :
      Yields r cursor make s m (values :: rows)
        (⟨some (.error ((e.withContext r.context).carrying (r.refusals f))),
            r.fetching cursor none :: r.giveBack f⟩
          :: List.replicate n ⟨none, []⟩) []
  | unfetched (s : Session) (m : σ) (rows : List (List Value))
      (failure : DriverError) (f : Returning) (n : Nat) :
      Yields r cursor make s m rows
        (⟨some (.error ((Error.ofDriver failure r.context).carrying
              (r.refusals f))),
            r.fetching cursor (some failure) :: r.giveBack f⟩
          :: List.replicate n ⟨none, []⟩) []
  | exhausted (s : Session) (m : σ) (f : Returning) (n : Nat) :
      Yields r cursor make s m []
        (⟨QueryStream.lastItem (r.refusals f),
            r.fetching cursor none :: r.giveBack f⟩
          :: List.replicate n ⟨none, []⟩) []

namespace Yields

variable {r : Lease} {cursor : Nat} {make : List Value → σ → Action (α × σ)}
  {s : Session} {m : σ} {rows : List (List Value)} {pulls : List (Pull α)}
  {dropping : List CallRecord}

/-- Pulls at the end make no calls. -/
theorem flatMap_silent (n : Nat) :
    (List.replicate n (⟨none, []⟩ : Pull α)).flatMap Pull.calls = [] := by
  induction n with
  | zero => rfl
  | succ n ih => exact ih

/-- Rows are fetched, and then everything is given back, once. -/
theorem calls_eq (h : Yields r cursor make s m rows pulls dropping) :
    ∃ (fetches : List (Option DriverError)) (f : Returning),
      pulls.flatMap Pull.calls ++ dropping
        = fetches.map (r.fetching cursor) ++ r.giveBack f := by
  have hlast : ∀ (item : Option (Except Error α)) (fetched f n),
      ((⟨item, fetched :: r.giveBack f⟩ : Pull α)
          :: List.replicate n ⟨none, []⟩).flatMap Pull.calls ++ []
        = fetched :: r.giveBack f := by
    intro item fetched f n
    rw [List.flatMap_cons, flatMap_silent, List.append_nil, List.append_nil]
  induction h with
  | dropped s m rows f => exact ⟨[], f, rfl⟩
  | row _ _ ih =>
      obtain ⟨fetches, f, heq⟩ := ih
      refine ⟨none :: fetches, f, ?_⟩
      rw [List.flatMap_cons, List.append_assoc, heq]
      rfl
  | unmade _ _ f n => exact ⟨[none], f, hlast _ _ f n⟩
  | unfetched _ _ _ failure f n => exact ⟨[some failure], f, hlast _ _ f n⟩
  | exhausted _ _ f n => exact ⟨[none], f, hlast _ _ f n⟩

/-- The items are rows, then at most one failure, then nothing. -/
theorem items_eq (h : Yields r cursor make s m rows pulls dropping) :
    ∃ (xs : List α) (failures : List Error) (n : Nat), pulls.map Pull.item
        = xs.map (some ∘ .ok) ++ failures.map (some ∘ .error)
          ++ List.replicate n none
      ∧ xs.length ≤ rows.length ∧ failures.length ≤ 1 := by
  have hlast : ∀ (item : Option (Except Error α)) (calls : List CallRecord)
      (n : Nat), ((⟨item, calls⟩ : Pull α)
          :: List.replicate n ⟨none, []⟩).map Pull.item
        = item :: List.replicate n none := by
    intro item calls n
    rw [List.map_cons, List.map_replicate]
  induction h with
  | dropped s m rows f => exact ⟨[], [], 0, rfl, Nat.zero_le _, Nat.zero_le _⟩
  | @row _ _ _ _ _ x _ _ _ _ _ ih =>
      obtain ⟨xs, failures, n, heq, hxs, hfailures⟩ := ih
      refine ⟨x :: xs, failures, n, ?_, Nat.succ_le_succ hxs, hfailures⟩
      rw [List.map_cons, heq]
      rfl
  | unmade _ _ f n =>
      exact ⟨[], [_], n, hlast (some (.error _)) _ n, Nat.zero_le _,
        Nat.le_refl _⟩
  | unfetched _ _ _ _ f n =>
      exact ⟨[], [_], n, hlast (some (.error _)) _ n, Nat.zero_le _,
        Nat.le_refl _⟩
  | exhausted _ _ f n =>
      cases r.refusals f with
      | nil =>
          exact ⟨[], [], n + 1, hlast none _ n, Nat.zero_le _, Nat.zero_le _⟩
      | cons e errors =>
          exact ⟨[], [_], n, hlast (some (.error _)) _ n, Nat.zero_le _,
            Nat.le_refl _⟩

end Yields

namespace Session

variable (s : Session)

/-- The lease of a stream that is opened next. -/
def nextLease (sql : String) (statement cursor : Option Nat) : Lease :=
  ⟨s.driver.connections.length, nextDisplay s, sql, statement, cursor⟩

/-- The calls that begin the transaction of a stream. -/
def beginning : List CallRecord :=
  [⟨none, .connect, none⟩,
   ⟨some s.driver.connections.length, .begin true, none⟩]

/-- The call that prepares the statement of a stream. -/
def preparing (sql : String) (failure : Option DriverError) : CallRecord :=
  ⟨some s.driver.connections.length, .prepare sql, failure⟩

/-- The call that opens the cursor of a stream. -/
def opening (params : List Value) (failure : Option DriverError) :
    CallRecord :=
  ⟨some s.driver.connections.length, .openCursor (s.driver.lastHandle + 1)
    params s.config.streamFetchSize, failure⟩

/-- The result that a stream is opened on. -/
def nextResult : ResultSet :=
  (Driver.next s.driver.results Driver.noResult).1

end Session

/-- What can come of a stream that is opened in a session, asked `n` times
and dropped. -/
inductive Life (s : Session) (sql : String) (params : Params)
    (mapper : TransactionId → Row → σ → Action (α × σ)) (memory : σ)
    (n : Nat) : Use α → Prop
  | unresolved {fault : ParamFault} (h : params.resolve sql = .error fault) :
      Life s sql params mapper memory n
        (.refused (.database (.parameters fault)
          (QueryStream.closedContext sql)) [])
  | unconnected {b : BoundStatement} (hb : params.resolve sql = .ok b)
      (failure : DriverError) :
      Life s sql params mapper memory n
        (.refused (.ofDriver failure connectContext)
          [⟨none, .connect, some failure⟩])
  | unbegun {b : BoundStatement} (hb : params.resolve sql = .ok b)
      (failure : DriverError) (closed : Option DriverError)
      {context : StatementContext}
      (hcontext : context = placed (nextDisplay s) (beginStatement true)) :
      Life s sql params mapper memory n
        (.refused ((Error.ofDriver failure context).carrying
            (failuresIn (reported context closed)))
          [⟨none, .connect, none⟩,
           ⟨some s.driver.connections.length, .begin true, some failure⟩,
           ⟨some s.driver.connections.length, .close, closed⟩])
  | unprepared {b : BoundStatement} (hb : params.resolve sql = .ok b)
      {r : Lease} (hr : r = s.nextLease b.sql none none)
      (failure : DriverError) (f : Returning) :
      Life s sql params mapper memory n
        (.refused ((Error.ofDriver failure r.context).carrying (r.refusals f))
          (s.beginning ++ [s.preparing b.sql (some failure)] ++ r.giveBack f))
  | unopened {b : BoundStatement} (hb : params.resolve sql = .ok b)
      {r : Lease}
      (hr : r = s.nextLease b.sql (some (s.driver.lastHandle + 1)) none)
      (failure : DriverError) (f : Returning) :
      Life s sql params mapper memory n
        (.refused ((Error.ofDriver failure (r.openingContext b.params)).carrying
            (r.refusals f))
          (s.beginning
            ++ [s.preparing b.sql none, s.opening b.params (some failure)]
            ++ r.giveBack f))
  | opened {b : BoundStatement} (hb : params.resolve sql = .ok b)
      {r : Lease}
      (hr : r = s.nextLease b.sql (some (s.driver.lastHandle + 1))
        (some (s.driver.lastHandle + 2)))
      {q : QueryStream σ α} {s' : Session}
      (hopen : QueryStream.openMapped sql params mapper memory s = .ok q s')
      {pulls : List (Pull α)} {dropping : List CallRecord}
      (hlength : pulls.length = n)
      (hyields : Yields r (s.driver.lastHandle + 2)
        (QueryStream.makeRow mapper s.transactions.length
          (.ofColumns s.nextResult.columns))
        s' memory s.nextResult.rows pulls dropping) :
      Life s sql params mapper memory n
        (.opened (s.beginning
            ++ [s.preparing b.sql none, s.opening b.params none])
          pulls dropping)

namespace QueryStream

-- ================================================================ the reading

variable {q q' : QueryStream σ α} {s s' : Session} {t : TransactionId}
  {c cursor : Nat} {display : String} {resolver : ColumnResolver}

/-- A stream that has something to give back, in a session. -/
structure Live (q : QueryStream σ α) (s : Session) (t : TransactionId)
    (c : Nat) (display : String) (handle : Nat) (resolver : ColumnResolver)
    (rows : List (List Value)) : Prop where
  tx : q.tx = some t
  cursor : q.cursor = some handle
  resolver : q.resolver = some resolver
  done : q.done = false
  hosts : s.ledger.Hosts t c display
  found : s.driver.cursors.lookup handle = some rows

/-- At the end nothing comes, and nothing is left to drop. -/
theorem readAndDrop_done (htx : q.tx = none) (hdone : q.done = true)
    (n : Nat) (s : Session) :
    readAndDrop n q s = .ok (List.replicate n ⟨none, []⟩, []) s := by
  have hsame : s.ledger.log = s.ledger.log ++ [] := (List.append_nil _).symm
  induction n with
  | zero =>
      unfold readAndDrop
      rw [EStateM.bind_of_eq_ok (watch_of_ok (drop_released htx) hsame)]
      rfl
  | succ n ih =>
      unfold readAndDrop
      rw [EStateM.bind_of_eq_ok (watch_of_ok (next_done hdone) hsame)]
      show EStateM.bind (readAndDrop n q) _ s = _
      unfold EStateM.bind
      rw [ih]
      rfl

/-- The last question that brings something: all is given back, and the rest
is silence. -/
theorem readAndDrop_last {item : Option (Except Error α)}
    {calls : List CallRecord} (hnext : q.next s = .ok (item, q') s')
    (hlog : s'.ledger.log = s.ledger.log ++ calls) (htx : q'.tx = none)
    (hdone : q'.done = true) (n : Nat) :
    readAndDrop (n + 1) q s
      = .ok (⟨item, calls⟩ :: List.replicate n ⟨none, []⟩, []) s' := by
  unfold readAndDrop
  rw [EStateM.bind_of_eq_ok (watch_of_ok hnext hlog)]
  show EStateM.bind (readAndDrop n q') _ s' = _
  unfold EStateM.bind
  rw [readAndDrop_done htx hdone]
  rfl

/-- A pull, and then the rest. -/
theorem readAndDrop_row {item : Option (Except Error α)}
    {calls dropping : List CallRecord} {pulls : List (Pull α)} {s'' : Session}
    (hnext : q.next s = .ok (item, q') s')
    (hlog : s'.ledger.log = s.ledger.log ++ calls) {n : Nat}
    (hrest : readAndDrop n q' s' = .ok (pulls, dropping) s'') :
    readAndDrop (n + 1) q s
      = .ok (⟨item, calls⟩ :: pulls, dropping) s'' := by
  unfold readAndDrop
  rw [EStateM.bind_of_eq_ok (watch_of_ok hnext hlog)]
  show EStateM.bind (readAndDrop n q') _ s' = _
  unfold EStateM.bind
  rw [hrest]
  rfl

/-- The pulls that end with an item and the return of everything. -/
def lastPulls (r : Lease) (item : Option (Except Error α))
    (fetched : CallRecord) (f : Returning) (n : Nat) : List (Pull α) :=
  ⟨item, fetched :: r.giveBack f⟩ :: List.replicate n ⟨none, []⟩

/-- The last pull fetches and gives back. -/
theorem flatMap_lastPulls (r : Lease) (item : Option (Except Error α))
    (fetched : CallRecord) (f : Returning) (n : Nat) :
    (lastPulls r item fetched f n).flatMap Pull.calls
      = fetched :: r.giveBack f := by
  unfold lastPulls
  rw [List.flatMap_cons, Yields.flatMap_silent, List.append_nil]

/-- What ends with a fetched row, or without one, and the return. -/
theorem readAndDrop_lastPulls {item : Option (Except Error α)}
    {r : Lease} {f : Returning} {fetched : CallRecord} {s₁ : Session}
    (hnext : q.next s = .ok (item, { q with done := true }.released) s')
    (hfetched : s₁.ledger = s.ledger.record [fetched])
    (hledger : s'.ledger = (s₁.ledger.record (r.closings f)).rootEnded t
      (r.endings f)) (n : Nat) :
    readAndDrop (n + 1) q s = .ok (lastPulls r item fetched f n, []) s'
      ∧ (lastPulls r item fetched f n).length = n + 1
      ∧ s'.ledger.log = s.ledger.log
        ++ (lastPulls r item fetched f n).flatMap Pull.calls ++ [] := by
  have hlog : s'.ledger.log = s.ledger.log ++ fetched :: r.giveBack f := by
    rw [log_of_release hledger, hfetched, Ledger.log_record,
      List.append_assoc, List.singleton_append]
  refine ⟨readAndDrop_last hnext hlog rfl rfl n, ?_, ?_⟩
  · unfold lastPulls
    rw [List.length_cons, List.length_replicate]
  · rw [flatMap_lastPulls, List.append_nil, hlog]

/-- A stream is read row by row, and what comes of it is what `Yields` says.
The induction is on the questions; the rows go along. -/
theorem exists_yields (hpassive : Passive q.mapper) (n : Nat)
    {rows : List (List Value)}
    (h : q.Live s t c display cursor resolver rows) :
    ∃ pulls dropping s', readAndDrop n q s = .ok (pulls, dropping) s'
      ∧ pulls.length = n
      ∧ s'.ledger.log
        = s.ledger.log ++ pulls.flatMap Pull.calls ++ dropping
      ∧ Yields (q.lease c display) cursor (makeRow q.mapper t resolver) s
          q.memory rows pulls dropping := by
  induction n generalizing q s rows with
  | zero =>
      obtain ⟨f, s', hdrop, hledger⟩ := drop_runs h.tx h.hosts
      have hlog := log_of_release hledger
      refine ⟨[], _, s', ?_, rfl, ?_, .dropped s q.memory rows f⟩
      · unfold readAndDrop
        rw [EStateM.bind_of_eq_ok (watch_of_ok hdrop hlog)]
        rfl
      · rw [hlog, List.flatMap_nil, List.append_nil]
  | succ n ih =>
      have hfetched := s.ledger_fetched c cursor
      rcases Driver.fetch_cases c s.driver h.found with
        ⟨failure, hanswer⟩ | ⟨hrows, hanswer⟩
        | ⟨values, rest, hrows, hanswer, hrest⟩ <;>
        rw [hanswer] at hfetched
      · obtain ⟨f, s', hnext, hledger⟩ :=
          next_unfetched h.tx h.cursor h.resolver h.done h.hosts hanswer
        obtain ⟨hrun, hlength, hlog⟩ :=
          readAndDrop_lastPulls hnext hfetched hledger n
        exact ⟨_, [], s', hrun, hlength, hlog,
          .unfetched s q.memory rows failure f n⟩
      · subst hrows
        obtain ⟨f, s', hnext, hledger⟩ :=
          next_exhausted h.tx h.cursor h.resolver h.done h.hosts hanswer
        obtain ⟨hrun, hlength, hlog⟩ :=
          readAndDrop_lastPulls hnext hfetched hledger n
        exact ⟨_, [], s', hrun, hlength, hlog, .exhausted s q.memory f n⟩
      · -- a row: the questions go on if something is made of it
        subst hrows
        cases hmade : makeRow q.mapper t resolver values q.memory
            (s.fetched c cursor) with
        | error e s₁ =>
            obtain ⟨f, s', hnext, hledger⟩ := next_unmade h.tx h.cursor
              h.resolver h.done h.hosts hpassive hanswer hmade
            obtain ⟨hrun, hlength, hlog⟩ :=
              readAndDrop_lastPulls hnext hfetched hledger n
            exact ⟨_, [], s', hrun, hlength, hlog, .unmade rest hmade f n⟩
        | ok x s₁ =>
            obtain ⟨x, m⟩ := x
            obtain ⟨hnext, hledger₁, hdriver₁⟩ := next_made h.tx h.cursor
              h.resolver h.done h.hosts hpassive hanswer hmade
            rw [hfetched] at hledger₁
            have hlive : ({ q with memory := m }).Live s₁ t c display cursor
                resolver rest :=
              ⟨h.tx, h.cursor, h.resolver, h.done, h.hosts.of_record hledger₁,
                (congrArg (·.cursors.lookup cursor) hdriver₁).trans hrest⟩
            obtain ⟨pulls, dropping, s', hrun, hlength, hlog, hyields⟩ :=
              ih (q := { q with memory := m }) hpassive hlive
            refine ⟨_, dropping, s', readAndDrop_row hnext
              (congrArg Ledger.log hledger₁) hrun, ?_, ?_, .row hmade hyields⟩
            · rw [List.length_cons, hlength]
            · rw [hlog, hledger₁, Ledger.log_record, List.flatMap_cons]
              simp only [List.append_assoc]

-- =============================================================== the whole

variable {sql : String} {params : Params} {b : BoundStatement}
  {mapper : TransactionId → Row → σ → Action (α × σ)} {memory : σ} {n : Nat}

/-- A stream that cannot be opened is not used. -/
theorem use_refused {e : Error} {calls : List CallRecord}
    (hopen : openMapped sql params mapper memory s = .error e s')
    (hlog : s'.ledger.log = s.ledger.log ++ calls) :
    use sql params mapper memory n s = .ok (.refused e calls) s' := by
  unfold use
  rw [EStateM.bind_of_eq_ok (watch_of_error hopen hlog)]
  rfl

theorem use_opened {calls dropping : List CallRecord} {pulls : List (Pull α)}
    {s'' : Session}
    (hopen : openMapped sql params mapper memory s = .ok q s')
    (hlog : s'.ledger.log = s.ledger.log ++ calls)
    (hrun : readAndDrop n q s' = .ok (pulls, dropping) s'') :
    use sql params mapper memory n s
      = .ok (.opened calls pulls dropping) s'' := by
  unfold use
  rw [EStateM.bind_of_eq_ok (watch_of_ok hopen hlog)]
  dsimp only
  rw [EStateM.bind_of_eq_ok hrun]
  rfl

/-- A stream that begins and is not opened makes the calls of the opening and
gives back what it holds. -/
theorem log_of_unopened {r : Lease} {f : Returning} {s₁ s₂ s₃ : Session}
    {entries : List CallRecord} (hbegun : s₁.ledger = s.ledger.begun true)
    (hacquired : s₂.ledger = s₁.ledger.record entries)
    (hreleased : s₃.ledger = (s₂.ledger.record (r.closings f)).rootEnded t
      (r.endings f)) :
    s₃.ledger.log
      = s.ledger.log ++ (s.beginning ++ entries ++ r.giveBack f) := by
  rw [log_of_release hreleased, hacquired, hbegun]
  simp only [Ledger.log_record, List.append_assoc]
  exact List.append_assoc ..

/-- Once its transaction has begun, a stream is opened and read, or gives
everything back. -/
theorem exists_life_begun (hpassive : Passive mapper)
    (hnumbered : s.driver.Numbered) (hb : params.resolve sql = .ok b)
    {s₁ : Session} (hbegun : begin true s = .ok s.transactions.length s₁)
    (hledger₁ : s₁.ledger = s.ledger.begun true) (n : Nat) :
    ∃ u s', use sql params mapper memory n s = .ok u s'
      ∧ s'.ledger.log = s.ledger.log ++ u.records
      ∧ Life s sql params mapper memory n u := by
  have hopens := openMapped_resolved hb mapper memory
  -- to begin touches nothing that the stream finds later
  have hsupply : s₁.supply = s.supply := by
    rw [← EStateM.after_of_eq_ok hbegun]
    exact keeps_begin true s
  have hconfig : s₁.config = s.config := congrArg Prod.fst hsupply
  have hresults : s₁.driver.results = s.driver.results :=
    congrArg (·.2.results) hsupply
  have hlast : s₁.driver.lastHandle = s.driver.lastHandle :=
    congrArg (·.2.lastHandle) hsupply
  have hcursors : s₁.driver.cursors = s.driver.cursors :=
    congrArg (·.2.cursors) hsupply
  have hnumbered₁ : s₁.driver.Numbered := by
    unfold Driver.Numbered
    rw [hcursors, hlast]
    exact hnumbered
  have hhosts : s₁.ledger.Hosts s.transactions.length
      s.driver.connections.length (nextDisplay s) := by
    rw [hledger₁]
    exact Ledger.Hosts.begun s.ledger
  rcases acquire_cases (q := started b mapper memory _) hhosts b.params with
    ⟨failure, s₂, hacquired, hledger₂⟩ | ⟨failure, s₂, hacquired, hledger₂⟩
    | ⟨s₂, hacquired, hledger₂, hfound⟩
  · obtain ⟨f, s₃, hreleased, hledger₃⟩ := release_runs
      (q := started b mapper memory _) rfl (hhosts.of_record hledger₂)
    have hlog := log_of_unopened hledger₁ hledger₂ hledger₃
    refine ⟨_, s₃, use_refused ?_ hlog, hlog, .unprepared hb rfl failure f⟩
    rw [hopens]
    exact openBound_unacquired hbegun hacquired hreleased
  · rw [hlast, hconfig] at hledger₂
    rw [hlast] at hacquired
    obtain ⟨f, s₃, hreleased, hledger₃⟩ := release_runs
      (q := { started b mapper memory s.transactions.length with
        statement := some (s.driver.lastHandle + 1) })
      rfl (hhosts.of_record hledger₂)
    have hlog := log_of_unopened hledger₁ hledger₂ hledger₃
    refine ⟨_, s₃, use_refused ?_ hlog, hlog, .unopened hb rfl failure f⟩
    rw [hopens]
    exact openBound_unacquired hbegun hacquired hreleased
  · rw [hlast, hconfig] at hledger₂
    rw [hlast, hresults] at hacquired hfound
    have hopen :=
      (congrFun hopens s).trans (openBound_acquired hbegun hacquired)
    have hlog : s₂.ledger.log = s.ledger.log ++ (s.beginning
        ++ [s.preparing b.sql none, s.opening b.params none]) := by
      rw [hledger₂, hledger₁]
      exact List.append_assoc ..
    have hlive : Live { started b mapper memory s.transactions.length with
          statement := some (s.driver.lastHandle + 1)
          cursor := some (s.driver.lastHandle + 2)
          resolver := some (.ofColumns s.nextResult.columns) }
        s₂ s.transactions.length s.driver.connections.length (nextDisplay s)
        (s.driver.lastHandle + 2) (.ofColumns s.nextResult.columns)
        s.nextResult.rows :=
      ⟨rfl, rfl, rfl, rfl, hhosts.of_record hledger₂, hfound hnumbered₁⟩
    obtain ⟨pulls, dropping, s₃, hrun, hlength, hlog₃, hyields⟩ :=
      exists_yields hpassive n hlive
    refine ⟨_, s₃, use_opened hopen hlog hrun, ?_,
      .opened hb rfl hopen hlength hyields⟩
    rw [hlog₃, hlog]
    simp only [Use.records, List.append_assoc]

/-- Where the parameters do not fit, there is no stream and no call. -/
theorem exists_life_unresolved {fault : ParamFault}
    (hb : params.resolve sql = .error fault) (s : Session)
    (mapper : TransactionId → Row → σ → Action (α × σ)) (memory : σ) (n : Nat) :
    ∃ u s', use sql params mapper memory n s = .ok u s'
      ∧ s'.driver.log = s.driver.log ++ u.records
      ∧ Life s sql params mapper memory n u := by
  have hopen : openMapped sql params mapper memory s
      = .error (.database (.parameters fault) (closedContext sql)) s := by
    unfold openMapped
    rw [hb]
    rfl
  have hlog : s.driver.log = s.driver.log ++ [] := (List.append_nil _).symm
  exact ⟨_, s, use_refused hopen hlog, hlog, .unresolved hb⟩

/-- Where they fit, a transaction begins for the stream, or there is none. -/
theorem exists_life_resolved (hpassive : Passive mapper)
    (hnumbered : s.driver.Numbered) (hb : params.resolve sql = .ok b)
    (memory : σ) (n : Nat) :
    ∃ u s', use sql params mapper memory n s = .ok u s'
      ∧ s'.driver.log = s.driver.log ++ u.records
      ∧ Life s sql params mapper memory n u := by
  have hopens := openMapped_resolved hb mapper memory
  rcases begin_cases s true with
    ⟨failure, s₁, hbegun, hledger⟩ | ⟨failure, closed, s₁, hbegun, hledger⟩
    | ⟨s₁, hbegun, hledger⟩
  · have hlog : s₁.ledger.log = s.ledger.log ++ _ := congrArg log hledger
    refine ⟨_, s₁, use_refused ?_ hlog, hlog, .unconnected hb failure⟩
    rw [hopens, openBound_unbegun hbegun]
  · have hlog : s₁.ledger.log = s.ledger.log ++ _ := congrArg log hledger
    rw [Error.withAllSuppressed_eq] at hbegun
    refine ⟨_, s₁, use_refused ?_ hlog, hlog, .unbegun hb failure closed rfl⟩
    rw [hopens, openBound_unbegun hbegun]
  · exact exists_life_begun hpassive hnumbered hb hbegun hledger n

/-- Whatever the driver does, what comes of a stream is one of its lives: it
is not lost, and no other call is made. That the handles of the driver are in
order holds at any time (`Desk.Kept.exists_life_serveAll`). -/
theorem exists_life (hpassive : Passive mapper)
    (hnumbered : s.driver.Numbered) (sql : String) (params : Params)
    (memory : σ) (n : Nat) :
    ∃ u s', use sql params mapper memory n s = .ok u s'
      ∧ s'.driver.log = s.driver.log ++ u.records
      ∧ Life s sql params mapper memory n u := by
  cases hb : params.resolve sql with
  | error fault => exact exists_life_unresolved hb s mapper memory n
  | ok b => exact exists_life_resolved hpassive hnumbered hb memory n

/-- A driver with two rows to give, which fails to close the first cursor and
to commit. -/
def crumbling : Driver :=
  ((Driver.empty.pushResult
      ⟨[⟨none, "n"⟩], [[.int32 1], [.int32 2]]⟩).fail
    ⟨.closeCursor, 0, ⟨"busy", none⟩⟩).fail ⟨.commit, 0, ⟨"lost", none⟩⟩

/-- What counts the rows, and takes no second one. -/
def onlyOne (_ : Row) (seen : Nat) : Except Error (Nat × Nat) :=
  if seen = 0 then .ok (seen, seen + 1)
  else .error (.typeMismatch "one row" "more")

/-- A row, a failure that two others follow, and nothing. -/
theorem life_crumbling :
    let mapper := fun (_ : TransactionId) row seen =>
      Action.ofExcept (onlyOne row seen)
    let s := Session.blank crumbling
    Passive mapper ∧ s.driver.Numbered
      ∧ ∃ u s', use "SELECT n FROM t" Params.empty mapper 0 3 s = .ok u s'
        ∧ Life s "SELECT n FROM t" Params.empty mapper 0 3 u
        ∧ u.records.map (·.call) = [.connect, .begin true,
          .prepare "SELECT n FROM t", .openCursor 1 [] 256, .fetch 2, .fetch 2,
          .closeCursor 2, .closeStatement 1, .commit, .close] := by
  intro mapper s
  have hpassive : Passive mapper := passive_rows onlyOne
  have hnumbered : s.driver.Numbered := by decide
  have hcalls : (match use "SELECT n FROM t" Params.empty mapper 0 3 s with
      | .ok u _ => u.records.map (·.call)
      | .error _ _ => []) = [.connect, .begin true,
          .prepare "SELECT n FROM t", .openCursor 1 [] 256, .fetch 2, .fetch 2,
          .closeCursor 2, .closeStatement 1, .commit, .close] := by
    decide +kernel
  obtain ⟨u, s', hrun, -, hlife⟩ := exists_life hpassive hnumbered
    "SELECT n FROM t" Params.empty 0 3
  rw [hrun] at hcalls
  exact ⟨hpassive, hnumbered, u, s', hrun, hlife, hcalls⟩

end QueryStream

end DataAccess
