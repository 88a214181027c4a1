/-
The steps of a stream, one by one. A stream has a root transaction of its
own; a `Lease` is what it holds there: the connection, and the statement and
the cursor as far as they were acquired. `Lease.giveBack` is the calls that
return all of this, in reverse order, and `Lease.refusals` the failures that
come of it, by how the calls failed.

`release_runs` says that a release makes exactly these calls; what `next`,
`drop` and a failing `open` do besides is told here too, for any session in
which the transaction of the stream is open.
-/
import DataAccess.Proofs.Driver.Handles
import DataAccess.Proofs.Error.Flattening
import DataAccess.Proofs.Session.Stepping
import DataAccess.Proofs.Stream.Mappers

namespace DataAccess

open DataAccess.Action Ledger

-- ================================================================== leases

/-- What a stream holds. -/
structure Lease where
  connection : Nat
  /-- Its transaction, by display identity. -/
  display : String
  sql : String
  statement : Option Nat
  cursor : Option Nat

/-- How the calls failed that give a lease back. -/
structure Returning where
  cursor : Option DriverError
  statement : Option DriverError
  ended : Option DriverError
  closed : Option DriverError
  deriving DecidableEq

namespace Lease

variable (r : Lease)

/-- Where the calls on the statement and the cursor are made. -/
def context : StatementContext :=
  placed r.display r.sql

/-- Where the cursor is opened, with these parameters. -/
def openingContext (params : List Value) : StatementContext :=
  { transaction := r.display
    statement := some { sql := r.sql, params := params.map Value.render } }

/-- The calls that close the cursor and the statement. -/
def closings (f : Returning) : List CallRecord :=
  (r.cursor.map fun k =>
    ⟨some r.connection, .closeCursor k, f.cursor⟩).toList
  ++ (r.statement.map fun h =>
    ⟨some r.connection, .closeStatement h, f.statement⟩).toList

/-- The calls that end the transaction. -/
def endings (f : Returning) : List CallRecord :=
  [⟨some r.connection, .commit, f.ended⟩,
   ⟨some r.connection, .close, f.closed⟩]

/-- The calls that give everything back. -/
def giveBack (f : Returning) : List CallRecord :=
  r.closings f ++ r.endings f

/-- The failures to give something back, in the order they came. -/
def refusals (f : Returning) : List Error :=
  (if r.cursor.isSome then failuresIn (reported r.context f.cursor) else [])
  ++ (if r.statement.isSome then
      failuresIn (reported r.context f.statement) else [])
  ++ failuresIn (rootAnswer r.display .commit f.ended f.closed)

end Lease

-- =================================================================== hosts

/-- An open read-only root transaction, on which a stream can run: with its
connection, and as it is shown. -/
structure Ledger.Hosts (l : Ledger) (t : TransactionId) (c : Nat)
    (display : String) : Prop where
  ends : l.Ends t c
  root : (l.transaction t).savepoint = none
  readOnly : (l.transaction t).readOnly = true
  display : (l.transaction t).display = display

namespace Ledger.Hosts

variable {l l' : Ledger} {s : Session} {t : TransactionId} {c : Nat}
  {display : String}

/-- Records leave a host as it was. -/
theorem of_record {entries : List CallRecord} (h : l.Hosts t c display)
    (hl : l' = l.record entries) : l'.Hosts t c display := by
  subst hl
  exact ⟨⟨h.ends.isOpen, h.ends.childless, h.ends.connection⟩, h.root,
    h.readOnly, h.display⟩

theorem connectionOf (h : s.ledger.Hosts t c display) :
    s.connectionOf? t = some c :=
  (s.connectionOf?_ledger t).symm.trans h.ends.connection

/-- A host is open. -/
theorem ensureOpen_eq (h : s.ledger.Hosts t c display) :
    ensureOpen t s = .ok () s := by
  have hopen : (s.transaction t).finished = false := h.ends.isOpen
  rw [Action.ensureOpen_eq, hopen]
  rfl

/-- The context of a statement names the host. -/
theorem context_eq (h : s.ledger.Hosts t c display) (sql : String)
    (params : List Value) :
    s.context t sql params
      = { transaction := display
          statement := some { sql, params := params.map Value.render } } := by
  have hdisplay : (s.transaction t).display = display := h.display
  unfold Session.context
  rw [hdisplay]

/-- A root transaction that begins read-only hosts a stream. -/
theorem begun (l : Ledger) :
    (l.begun true).Hosts l.transactions.length l.opened
      (l.newRoot true).display := by
  have hroot : (l.begun true).transactions[l.transactions.length]?
      = some (l.newRoot true) := List.getElem?_concat_length
  have htx := transaction_eq_of_getElem? hroot
  refine ⟨⟨?_, ?_, ?_⟩, ?_, ?_, ?_⟩
  · unfold IsOpen
    rw [htx]
    rfl
  · rw [htx]
    rfl
  · unfold connectionOf?
    rw [hroot]
    show (l.connections ++ [some l.opened])[l.connections.length]?.join = _
    rw [List.getElem?_concat_length]
    rfl
  · exact congrArg (·.savepoint) htx
  · exact congrArg (·.readOnly) htx
  · exact congrArg (·.display) htx

end Ledger.Hosts

namespace QueryStream

variable {σ α : Type} {q : QueryStream σ α} {s : Session}
  {t : TransactionId} {c : Nat} {display : String}

/-- The lease of a stream. -/
def lease (q : QueryStream σ α) (c : Nat) (display : String) : Lease :=
  ⟨c, display, q.sql, q.statement, q.cursor⟩

-- =============================================================== releasing

/-- The failure of an action that answers with a result is that of the
result. -/
theorem failureOf_of_ofExcept {a : Action Unit} {x : Except Error Unit}
    {s s' : Session} (h : a s = ofExcept x s') :
    failureOf a s = .ok (failuresIn x) s' := by
  unfold failureOf
  rw [EStateM.bind_of_eq_ok (attempt_of_ofExcept h)]
  cases x <;> rfl

/-- A call that may fail on a host, as it is given back. -/
theorem failureOf_onConnection (h : s.ledger.Hosts t c display)
    {call : Call} (step : Nat → Driver.Step Unit)
    (hrecords : Driver.Records (some c) call (step c)) :
    ∃ f s', failureOf (onConnection t q.sql [] step) s
        = .ok (failuresIn (reported (q.lease c display).context f)) s'
      ∧ s'.ledger = s.ledger.record [⟨some c, call, f⟩] := by
  obtain ⟨f, s', hrun, hledger⟩ :=
    attempt_onConnection_unit h.connectionOf step hrecords q.sql []
  refine ⟨f, s', ?_, hledger⟩
  unfold failureOf
  rw [EStateM.bind_of_eq_ok hrun, h.context_eq]
  cases f <;> rfl

/-- A cursor is closed if there is one. -/
theorem releaseCursor_runs (h : s.ledger.Hosts t c display) :
    ∃ f s', q.releaseCursor t s = .ok (if q.cursor.isSome then
          failuresIn (reported (q.lease c display).context f) else []) s'
      ∧ s'.ledger = s.ledger.record (q.cursor.map fun k =>
          ⟨some c, .closeCursor k, f⟩).toList := by
  unfold releaseCursor
  cases q.cursor with
  | none => exact ⟨none, s, rfl, s.ledger.record_nil.symm⟩
  | some k =>
      exact failureOf_onConnection h (fun c => Driver.closeCursor c k)
        (Driver.records_closeCursor c k)

/-- So is a statement. -/
theorem releaseStatement_runs (h : s.ledger.Hosts t c display) :
    ∃ f s', q.releaseStatement t s = .ok (if q.statement.isSome then
          failuresIn (reported (q.lease c display).context f) else []) s'
      ∧ s'.ledger = s.ledger.record (q.statement.map fun k =>
          ⟨some c, .closeStatement k, f⟩).toList := by
  unfold releaseStatement
  cases q.statement with
  | none => exact ⟨none, s, rfl, s.ledger.record_nil.symm⟩
  | some k =>
      exact failureOf_onConnection h (fun c => Driver.closeStatement c k)
        (Driver.records_closeStatement c k)

/-- The transaction commits, as it is read-only. -/
theorem close_runs (h : s.ledger.Hosts t c display) :
    ∃ ended closed s', close t s
        = ofExcept (rootAnswer display .commit ended closed) s'
      ∧ s'.ledger = s.ledger.rootEnded t
          [⟨some c, .commit, ended⟩, ⟨some c, .close, closed⟩] := by
  have hopen : (s.transaction t).finished = false := h.ends.isOpen
  have hreadOnly : (s.transaction t).readOnly = true := h.readOnly
  have hdisplay : (s.transaction t).display = display := h.display
  rw [← hdisplay]
  unfold Action.close
  rw [EStateM.get_bind]
  simp only [hopen, hreadOnly, Bool.false_eq_true, if_false]
  exact finish_root_runs h.ends h.root .commit

/-- Everything that is held is given back, whatever fails. -/
theorem release_runs (htx : q.tx = some t)
    (h : s.ledger.Hosts t c display) :
    ∃ f s', q.release s
        = .ok ((q.lease c display).refusals f, q.released) s'
      ∧ s'.ledger = (s.ledger.record ((q.lease c display).closings f)).rootEnded
          t ((q.lease c display).endings f) := by
  obtain ⟨ofCursor, s₁, hcursor, hledger₁⟩ := releaseCursor_runs h
  have h₁ := h.of_record hledger₁
  obtain ⟨ofStatement, s₂, hstatement, hledger₂⟩ := releaseStatement_runs h₁
  have h₂ := h₁.of_record hledger₂
  obtain ⟨ended, closed, s₃, hclose, hledger₃⟩ := close_runs h₂
  refine ⟨⟨ofCursor, ofStatement, ended, closed⟩, ?_⟩
  unfold release
  simp only [htx]
  rw [EStateM.bind_of_eq_ok hcursor, EStateM.bind_of_eq_ok hstatement,
    EStateM.bind_of_eq_ok (failureOf_of_ofExcept hclose), EStateM.get_bind,
    EStateM.bind_of_eq_ok (report_eq ..)]
  refine ⟨_, rfl, ?_⟩
  rw [Session.ledger_report, hledger₃, hledger₂, hledger₁, record_record]
  rfl

/-- What giving back adds to the log. -/
theorem log_of_release {f : Returning} {s' : Session} {r : Lease}
    (h : s'.ledger = (s.ledger.record (r.closings f)).rootEnded t
      (r.endings f)) :
    s'.ledger.log = s.ledger.log ++ r.giveBack f := by
  rw [h]
  exact List.append_assoc ..

/-- A stream that was given back does nothing more. -/
theorem release_released (htx : q.tx = none) :
    q.release s = .ok ([], q) s := by
  unfold release
  simp only [htx]
  rfl

/-- The failures of a release are reported, which no ledger sees. -/
theorem reportFailures_runs (sql : String) (errors : List Error)
    (s : Session) :
    ∃ s', reportFailures sql errors s = .ok () s' ∧ s'.ledger = s.ledger := by
  induction errors generalizing s with
  | nil => exact ⟨s, rfl, rfl⟩
  | cons e errors ih =>
      unfold reportFailures
      rw [EStateM.bind_of_eq_ok (report_eq ..)]
      exact ih _

/-- Dropping a stream gives it back, and its failures go nowhere else. -/
theorem drop_runs (htx : q.tx = some t)
    (h : s.ledger.Hosts t c display) :
    ∃ f s', q.drop s = .ok () s'
      ∧ s'.ledger = (s.ledger.record ((q.lease c display).closings f)).rootEnded
          t ((q.lease c display).endings f) := by
  obtain ⟨f, s₁, hrun, hledger₁⟩ := release_runs htx h
  obtain ⟨s₂, hreport, hledger₂⟩ :=
    reportFailures_runs q.sql ((q.lease c display).refusals f) s₁
  refine ⟨f, s₂, ?_, hledger₂.trans hledger₁⟩
  unfold drop
  rw [EStateM.bind_of_eq_ok hrun]
  exact hreport

theorem drop_released (htx : q.tx = none) : q.drop s = .ok () s := by
  unfold drop
  rw [EStateM.bind_of_eq_ok (release_released htx)]
  rfl

-- ================================================================= reading

/-- What is made of the values of a row. -/
def makeRow (mapper : TransactionId → Row → σ → Action (α × σ))
    (t : TransactionId) (resolver : ColumnResolver) (values : List Value)
    (memory : σ) : Action (α × σ) := do
  let row ← Action.ofExcept (Row.ofValues values resolver)
  mapper t row memory

theorem quiet_makeRow {mapper : TransactionId → Row → σ → Action (α × σ)}
    (hpassive : Passive mapper) (resolver : ColumnResolver)
    (values : List Value) (memory : σ) :
    Quiet id (makeRow mapper t resolver values memory) :=
  (quiet_ofExcept _).bind fun row => hpassive t row memory

end QueryStream

/-- The session after a row was asked for. -/
def Session.fetched (s : Session) (c cursor : Nat) : Session :=
  { s with driver := (Driver.fetch c cursor).after s.driver }

/-- What a fetch leaves of the units of work: one more record. -/
theorem Session.ledger_fetched (s : Session) (c cursor : Nat) :
    (s.fetched c cursor).ledger = s.ledger.record
      [⟨some c, .fetch cursor,
        Driver.failureOf ((Driver.fetch c cursor).answer s.driver)⟩] := by
  rw [← s.ledger_drive (Driver.records_fetch c cursor) connectContext,
    after_drive]
  rfl

namespace QueryStream

variable {σ α : Type} {q : QueryStream σ α} {s : Session}
  {t : TransactionId} {c cursor : Nat} {display : String}
  {resolver : ColumnResolver}

/-- A stream that is advanced asks for a row and makes something of it. -/
theorem advance_eq (htx : q.tx = some t) (hcursor : q.cursor = some cursor)
    (hresolver : q.resolver = some resolver)
    (h : s.ledger.Hosts t c display) :
    q.advance s = match (Driver.fetch c cursor).answer s.driver with
      | .error e =>
        .error (.ofDriver e (q.lease c display).context) (s.fetched c cursor)
      | .ok none => .ok none (s.fetched c cursor)
      | .ok (some values) =>
        match makeRow q.mapper t resolver values q.memory
            (s.fetched c cursor) with
        | .ok x s' => .ok (some x) s'
        | .error e s' =>
          .error (e.withContext (q.lease c display).context) s' := by
  have hfetch : onConnectionQuietly t q.sql []
        (fun c => Driver.fetch c cursor) s
      = drive (q.lease c display).context (Driver.fetch c cursor) s := by
    rw [onConnectionQuietly_eq h.connectionOf]
    exact congrArg (drive · _ s) (h.context_eq q.sql [])
  have hcontext : (s.fetched c cursor).context t q.sql []
      = (q.lease c display).context :=
    (h.of_record (s.ledger_fetched c cursor)).context_eq q.sql []
  unfold advance
  simp only [htx, hcursor, hresolver]
  rw [EStateM.bind_of_eq_ok h.ensureOpen_eq]
  cases hanswer : (Driver.fetch c cursor).answer s.driver with
  -- the fetch fails
  | error e =>
      rw [EStateM.bind_of_eq_error
        (hfetch.trans (drive_of_error hanswer _)), after_drive]
      rfl
  | ok values =>
      rw [EStateM.bind_of_eq_ok (hfetch.trans (drive_of_ok hanswer _)),
        after_drive]
      cases values with
      | none => rfl
      | some values =>
          dsimp only
          rw [EStateM.get_bind]
          show EStateM.bind (mapError (Error.withContext
              ((s.fetched c cursor).context t q.sql []))
            (makeRow q.mapper t resolver values q.memory)) _
            (s.fetched c cursor) = _
          rw [hcontext]
          unfold EStateM.bind mapError
          cases makeRow q.mapper t resolver values q.memory
            (s.fetched c cursor) <;> rfl

/-- The item in the place of the end: what failed when all was given back. -/
def lastItem : List Error → Option (Except Error α)
  | [] => none
  | e :: errors => some (.error (e.carrying errors))

variable {s₁ : Session}

/-- A stream that is done gives nothing and makes no call. -/
theorem next_done (hdone : q.done = true) : q.next s = .ok (none, q) s := by
  unfold next
  rw [hdone]
  rfl

/-- A row that was made is answered, and the stream goes on. -/
theorem next_row (hdone : q.done = false) {x : α} {m : σ}
    (hadvance : q.advance s = .ok (some (x, m)) s₁) :
    q.next s = .ok (some (.ok x), { q with memory := m }) s₁ := by
  unfold next
  rw [hdone]
  simp only [Bool.false_eq_true, if_false]
  rw [EStateM.bind_of_eq_ok (attempt_of_ofExcept (r := .ok (some (x, m)))
    hadvance)]
  rfl

/-- The end of the rows: everything is given back. -/
theorem next_end (htx : q.tx = some t) (hdone : q.done = false)
    (hadvance : q.advance s = .ok none s₁)
    (h : s₁.ledger.Hosts t c display) :
    ∃ f s', q.next s = .ok (lastItem ((q.lease c display).refusals f),
        { q with done := true }.released) s'
      ∧ s'.ledger
        = (s₁.ledger.record ((q.lease c display).closings f)).rootEnded t
          ((q.lease c display).endings f) := by
  obtain ⟨f, s', hrelease, hledger⟩ :=
    release_runs (q := { q with done := true }) (c := c) htx h
  refine ⟨f, s', ?_, hledger⟩
  unfold next
  rw [hdone]
  simp only [Bool.false_eq_true, if_false]
  rw [EStateM.bind_of_eq_ok (attempt_of_ofExcept (r := .ok none) hadvance)]
  dsimp only
  rw [EStateM.bind_of_eq_ok hrelease]
  show _ = EStateM.Result.ok (lastItem
    (({ q with done := true }.lease c display).refusals f), _) s'
  cases ({ q with done := true }.lease c display).refusals f with
  | nil => rfl
  | cons e errors =>
      dsimp only [lastItem]
      rw [← Error.withAllSuppressed_eq]
      rfl

/-- A failure: everything is given back, and what fails then is carried
along. -/
theorem next_failed (htx : q.tx = some t) (hdone : q.done = false) {e : Error}
    (hadvance : q.advance s = .error e s₁)
    (h : s₁.ledger.Hosts t c display) :
    ∃ f s', q.next s = .ok (some (.error
          (e.carrying ((q.lease c display).refusals f))),
        { q with done := true }.released) s'
      ∧ s'.ledger
        = (s₁.ledger.record ((q.lease c display).closings f)).rootEnded t
          ((q.lease c display).endings f) := by
  obtain ⟨f, s', hrelease, hledger⟩ :=
    release_runs (q := { q with done := true }) (c := c) htx h
  refine ⟨f, s', ?_, hledger⟩
  unfold next
  rw [hdone]
  simp only [Bool.false_eq_true, if_false]
  rw [EStateM.bind_of_eq_ok (attempt_of_ofExcept (r := .error e) hadvance)]
  dsimp only
  rw [EStateM.bind_of_eq_ok hrelease, ← Error.withAllSuppressed_eq]
  rfl

section

variable (htx : q.tx = some t) (hcursor : q.cursor = some cursor)
  (hresolver : q.resolver = some resolver) (hdone : q.done = false)
  (h : s.ledger.Hosts t c display)

include htx hcursor hresolver hdone h

/-- A row that is not fetched is the last thing a stream asks for. -/
theorem next_unfetched {failure : DriverError}
    (hanswer : (Driver.fetch c cursor).answer s.driver = .error failure) :
    ∃ f s', q.next s = .ok (some (.error
          ((Error.ofDriver failure (q.lease c display).context).carrying
            ((q.lease c display).refusals f))),
        { q with done := true }.released) s'
      ∧ s'.ledger = ((s.fetched c cursor).ledger.record
          ((q.lease c display).closings f)).rootEnded t
          ((q.lease c display).endings f) := by
  have hadvance := advance_eq htx hcursor hresolver h
  rw [hanswer] at hadvance
  exact next_failed htx hdone hadvance
    (h.of_record (s.ledger_fetched c cursor))

/-- After the last row the stream is given back; its failures are the last
item. -/
theorem next_exhausted
    (hanswer : (Driver.fetch c cursor).answer s.driver = .ok none) :
    ∃ f s', q.next s = .ok (lastItem ((q.lease c display).refusals f),
        { q with done := true }.released) s'
      ∧ s'.ledger = ((s.fetched c cursor).ledger.record
          ((q.lease c display).closings f)).rootEnded t
          ((q.lease c display).endings f) := by
  have hadvance := advance_eq htx hcursor hresolver h
  rw [hanswer] at hadvance
  exact next_end htx hdone hadvance (h.of_record (s.ledger_fetched c cursor))

variable (hpassive : Passive q.mapper) {values : List Value}
  (hanswer : (Driver.fetch c cursor).answer s.driver = .ok (some values))

include hpassive hanswer

/-- A row that could not be made ends the stream; what fails then is
suppressed. -/
theorem next_unmade {e : Error} (hmade : makeRow q.mapper t resolver values
      q.memory (s.fetched c cursor) = .error e s₁) :
    ∃ f s', q.next s = .ok (some (.error
          ((e.withContext (q.lease c display).context).carrying
            ((q.lease c display).refusals f))),
        { q with done := true }.released) s'
      ∧ s'.ledger = ((s.fetched c cursor).ledger.record
          ((q.lease c display).closings f)).rootEnded t
          ((q.lease c display).endings f) := by
  have hledger₁ : s₁.ledger = (s.fetched c cursor).ledger := by
    rw [← EStateM.after_of_eq_error hmade]
    exact (quiet_makeRow hpassive resolver values q.memory).ledger _
  have hadvance := advance_eq htx hcursor hresolver h
  rw [hanswer] at hadvance
  dsimp only at hadvance
  rw [hmade] at hadvance
  rw [← hledger₁]
  exact next_failed htx hdone hadvance
    (h.of_record (hledger₁.trans (s.ledger_fetched c cursor)))

/-- A row that was made leaves all else to the mapper. -/
theorem next_made {x : α} {m : σ} (hmade : makeRow q.mapper t resolver values
      q.memory (s.fetched c cursor) = .ok (x, m) s₁) :
    q.next s = .ok (some (.ok x), { q with memory := m }) s₁
      ∧ s₁.ledger = (s.fetched c cursor).ledger
      ∧ s₁.driver = (s.fetched c cursor).driver := by
  have hquiet := quiet_makeRow (t := t) hpassive resolver values q.memory
  have hadvance := advance_eq htx hcursor hresolver h
  rw [hanswer] at hadvance
  dsimp only at hadvance
  rw [hmade] at hadvance
  rw [← EStateM.after_of_eq_ok hmade]
  refine ⟨?_, hquiet.ledger _, hquiet.driver _⟩
  rw [EStateM.after_of_eq_ok hmade]
  exact next_row hdone hadvance

end

-- =============================================================== acquiring

/-- A call that acquires something: it is answered by the driver, and
nothing but the driver changes. -/
theorem attempt_acquiring {β : Type} (h : s.ledger.Hosts t c display)
    {call : Call} (step : Nat → Driver.Step β)
    (hrecords : Driver.Records (some c) call (step c)) (params : List Value) :
    ∃ s', attempt (do ensureOpen t; onConnection t q.sql params step) s
        = .ok (((step c).answer s.driver).mapError (Error.ofDriver ·
            ((q.lease c display).openingContext params))) s'
      ∧ s'.driver = (step c).after s.driver ∧ s'.config = s.config
      ∧ s'.ledger = s.ledger.record
          [⟨some c, call, Driver.failureOf ((step c).answer s.driver)⟩] := by
  generalize hcontext : (q.lease c display).openingContext params = context
  obtain ⟨event, hdrives⟩ :=
    onConnection_drives h.connectionOf step q.sql params
  have hrun : attempt (do ensureOpen t; onConnection t q.sql params step) s
      = attempt (drive context (step c)) (s.report event) := by
    unfold attempt
    rw [EStateM.bind_of_eq_ok h.ensureOpen_eq, hdrives, ← hcontext,
      h.context_eq]
    rfl
  refine ⟨(drive context (step c)).after (s.report event), ?_, ?_, ?_,
    (s.report event).ledger_drive hrecords context⟩
  · rw [hrun, attempt_eq, answer_drive]
    rfl
  · rw [after_drive]
    rfl
  · rw [after_drive]
    rfl

/-- A statement that cannot be prepared opens no cursor. -/
theorem acquire_unprepared (h : s.ledger.Hosts t c display)
    (params : List Value) {failure : DriverError}
    (hanswer : (Driver.prepare c q.sql).answer s.driver = .error failure) :
    ∃ s', q.acquire t params s
        = .ok (.error (.ofDriver failure (q.lease c display).context), q) s'
      ∧ s'.ledger = s.ledger.record
          [⟨some c, .prepare q.sql, some failure⟩] := by
  obtain ⟨s', hprepare, -, -, hledger⟩ := attempt_acquiring h
    (fun c => Driver.prepare c q.sql) (Driver.records_prepare c q.sql) []
  rw [hanswer] at hprepare hledger
  refine ⟨s', ?_, hledger⟩
  unfold acquire
  rw [EStateM.bind_of_eq_ok hprepare]
  rfl

/-- Opening the cursor comes second. -/
theorem acquire_prepared (h : s.ledger.Hosts t c display)
    (params : List Value) {handle : Nat}
    (hanswer : (Driver.prepare c q.sql).answer s.driver = .ok handle) :
    ∃ s₁ s' : Session, s₁.driver = (Driver.prepare c q.sql).after s.driver
      ∧ s'.driver = (Driver.openCursor c handle params
          s.config.streamFetchSize).after s₁.driver
      ∧ s'.ledger = s.ledger.record [⟨some c, .prepare q.sql, none⟩,
          ⟨some c, .openCursor handle params s.config.streamFetchSize,
            Driver.failureOf ((Driver.openCursor c handle params
              s.config.streamFetchSize).answer s₁.driver)⟩]
      ∧ q.acquire t params s
        = match (Driver.openCursor c handle params
              s.config.streamFetchSize).answer s₁.driver with
          | .error e => .ok (.error (.ofDriver e
              ((q.lease c display).openingContext params)),
              { q with statement := some handle }) s'
          | .ok (cursor, columns) => .ok (.ok (), { q with
              statement := some handle, cursor := some cursor
              resolver := some (.ofColumns columns) })
              (s'.report (.streamOpened (s'.transaction t).display q.sql)) := by
  obtain ⟨s₁, hprepare, hdriver₁, hconfig₁, hledger₁⟩ := attempt_acquiring h
    (fun c => Driver.prepare c q.sql) (Driver.records_prepare c q.sql) []
  rw [hanswer] at hprepare hledger₁
  obtain ⟨s', hopen, hdriver, -, hledger⟩ := attempt_acquiring
    (h.of_record hledger₁)
    (fun c => Driver.openCursor c handle params s.config.streamFetchSize)
    (Driver.records_openCursor c handle params s.config.streamFetchSize) params
  refine ⟨s₁, s', hdriver₁, hdriver, ?_, ?_⟩
  · rw [hledger, hledger₁, Ledger.record_record]
    rfl
  · unfold acquire
    rw [EStateM.bind_of_eq_ok hprepare]
    dsimp only [Except.mapError]
    rw [EStateM.get_bind, hconfig₁, EStateM.bind_of_eq_ok hopen]
    cases (Driver.openCursor c handle params
      s.config.streamFetchSize).answer s₁.driver <;> rfl

/-- Acquiring a statement and a cursor: the statement is not prepared, or the
cursor is not opened, or the stream has both, and its cursor has the rows of
the result that comes next. -/
theorem acquire_cases (h : s.ledger.Hosts t c display)
    (params : List Value) :
    (∃ failure s', q.acquire t params s
        = .ok (.error (.ofDriver failure (q.lease c display).context), q) s'
      ∧ s'.ledger = s.ledger.record
          [⟨some c, .prepare q.sql, some failure⟩])
    ∨ (∃ failure s', q.acquire t params s
        = .ok (.error (.ofDriver failure
            ((q.lease c display).openingContext params)),
          { q with statement := some (s.driver.lastHandle + 1) }) s'
      ∧ s'.ledger = s.ledger.record
          [⟨some c, .prepare q.sql, none⟩,
           ⟨some c, .openCursor (s.driver.lastHandle + 1) params
              s.config.streamFetchSize, some failure⟩])
    ∨ ∃ s', q.acquire t params s
        = .ok (.ok (), { q with
            statement := some (s.driver.lastHandle + 1)
            cursor := some (s.driver.lastHandle + 2)
            resolver := some (.ofColumns
              (Driver.next s.driver.results Driver.noResult).1.columns) }) s'
      ∧ s'.ledger = s.ledger.record
          [⟨some c, .prepare q.sql, none⟩,
           ⟨some c, .openCursor (s.driver.lastHandle + 1) params
              s.config.streamFetchSize, none⟩]
      ∧ (s.driver.Numbered →
          s'.driver.cursors.lookup (s.driver.lastHandle + 2)
            = some (Driver.next s.driver.results Driver.noResult).1.rows) := by
  rcases Driver.prepare_cases c s.driver q.sql with
    ⟨failure, hanswer, -⟩ | ⟨hanswer, hshelf⟩
  · exact Or.inl ⟨failure, acquire_unprepared h params hanswer⟩
  · obtain ⟨s₁, s', hdriver₁, hdriver, hledger, hrun⟩ :=
      acquire_prepared h params hanswer
    rw [← hdriver₁] at hshelf
    have hlast : s₁.driver.lastHandle = s.driver.lastHandle + 1 :=
      congrArg (·.lastHandle) hshelf
    have hresults : s₁.driver.results = s.driver.results :=
      congrArg (·.results) hshelf
    have hcursors : s₁.driver.cursors = s.driver.cursors :=
      congrArg (·.cursors) hshelf
    -- the driver knows the statement under the handle it just gave
    have hknown : (s₁.driver.statements.lookup
        (s.driver.lastHandle + 1)).isSome := by
      rw [show s₁.driver.statements = _ from congrArg (·.statements) hshelf,
        List.lookup_append, List.lookup_cons_self]
      simp
    refine Or.inr ?_
    rcases Driver.openCursor_cases c s₁.driver hknown params
        s.config.streamFetchSize with
      ⟨failure, hanswer₂, -⟩ | ⟨hanswer₂, hshelf₂⟩
    · rw [hanswer₂] at hledger hrun
      exact Or.inl ⟨failure, s', hrun, hledger⟩
    · rw [hanswer₂] at hledger hrun
      rw [hlast, hresults] at hrun
      refine Or.inr ⟨_, hrun, hledger, fun hnumbered => ?_⟩
      show s'.driver.cursors.lookup _ = _
      have hfound : s'.driver.cursors = s.driver.cursors
          ++ [(s.driver.lastHandle + 2,
            (Driver.next s.driver.results Driver.noResult).1.rows)] := by
        rw [hdriver]
        refine (congrArg (·.cursors) hshelf₂).trans ?_
        simp only [hcursors, hlast, hresults]
      rw [hfound]
      exact Driver.lookup_concat hnumbered (by omega)

-- ================================================================= opening

/-- A stream that has a transaction and nothing else yet. -/
def started (b : BoundStatement)
    (mapper : TransactionId → Row → σ → Action (α × σ)) (memory : σ)
    (t : TransactionId) : QueryStream σ α :=
  { sql := b.sql, tx := some t, statement := none, cursor := none
    resolver := none, mapper, memory, done := false }

variable {b : BoundStatement}
  {mapper : TransactionId → Row → σ → Action (α × σ)} {memory : σ}
  {s₁ s₂ s₃ : Session} {e : Error}

/-- Opening is opening with the parameters in place. -/
theorem openMapped_resolved {sql : String} {params : Params}
    (hb : params.resolve sql = .ok b)
    (mapper : TransactionId → Row → σ → Action (α × σ)) (memory : σ) :
    openMapped sql params mapper memory = openBound b mapper memory := by
  unfold openMapped
  rw [hb]

/-- Without a transaction there is no stream. -/
theorem openBound_unbegun (hbegun : Action.begin true s = .error e s₁) :
    openBound b mapper memory s = .error e s₁ := by
  unfold openBound
  rw [EStateM.bind_of_eq_error hbegun]

/-- A stream that cannot acquire what it needs gives back what it has. -/
theorem openBound_unacquired {q q' : QueryStream σ α} {errors : List Error}
    (hbegun : Action.begin true s = .ok t s₁)
    (hacquired : (started b mapper memory t).acquire t b.params s₁
      = .ok (.error e, q) s₂)
    (hreleased : q.release s₂ = .ok (errors, q') s₃) :
    openBound b mapper memory s = .error (e.carrying errors) s₃ := by
  unfold openBound
  rw [EStateM.bind_of_eq_ok hbegun]
  dsimp only
  unfold started at hacquired
  rw [EStateM.bind_of_eq_ok hacquired]
  dsimp only
  rw [EStateM.bind_of_eq_ok hreleased, ← Error.withAllSuppressed_eq]
  rfl

/-- A stream that has its cursor is handed out. -/
theorem openBound_acquired {q : QueryStream σ α}
    (hbegun : Action.begin true s = .ok t s₁)
    (hacquired : (started b mapper memory t).acquire t b.params s₁
      = .ok (.ok (), q) s₂) :
    openBound b mapper memory s = .ok q s₂ := by
  unfold openBound
  rw [EStateM.bind_of_eq_ok hbegun]
  dsimp only
  unfold started at hacquired
  rw [EStateM.bind_of_eq_ok hacquired]
  rfl

end QueryStream

-- ============================================================ what is kept

/-- An action that leaves alone what `f` finds in a session. -/
def Keeps {α β : Type} (f : Session → β) (a : Action α) : Prop :=
  ∀ s, f (a.after s) = f s

theorem Keeps.bind {α β γ : Type} {f : Session → γ} {a : Action α}
    {g : α → Action β} (ha : Keeps f a) (hg : ∀ x, Keeps f (g x)) :
    Keeps f (a >>= g) := by
  intro s
  rw [EStateM.after_bind]
  cases a.answer s with
  | ok x => exact (hg x _).trans (ha s)
  | error e => exact ha s

/-- What streams find in a session besides its units of work. -/
def Session.supply (s : Session) : Config × Shelf :=
  (s.config, s.driver.shelf)

/-- A call that leaves the shelf alone leaves the supply alone. -/
theorem keeps_drive {α : Type} {step : Driver.Step α}
    (h : ∀ d, (step.after d).shelf = d.shelf) (context : StatementContext) :
    Keeps Session.supply (drive context step) := by
  intro s
  rw [after_drive]
  exact congrArg (s.config, ·) (h s.driver)

theorem keeps_attempt {α : Type} {a : Action α}
    (h : Keeps Session.supply a) : Keeps Session.supply (attempt a) := by
  intro s
  rw [after_attempt]
  exact h s

/-- Beginning a transaction leaves the supply of rows alone. -/
theorem keeps_begin (readOnly : Bool) :
    Keeps Session.supply (Action.begin readOnly) := by
  unfold Action.begin
  refine Keeps.bind (fun _ => rfl) fun _ => ?_
  refine (keeps_drive Driver.shelf_connect _).bind fun c => ?_
  refine Keeps.bind (fun _ => rfl) fun number => ?_
  refine (keeps_attempt
    (keeps_drive (fun d => Driver.shelf_begin c d readOnly) _)).bind fun r => ?_
  cases r with
  | ok _ => exact Keeps.bind (fun _ => rfl) fun _ _ => rfl
  | error e =>
      refine (keeps_attempt
        (keeps_drive (fun d => Driver.shelf_close c d) _)).bind fun r => ?_
      cases r <;> exact fun _ => rfl

end DataAccess
