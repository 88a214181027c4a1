/-
What a stream answers vouches for its calls. A stream that cannot be opened
gives back what it has, and so does one that cannot give an item; whatever
fails then is carried along (`vouches_refusals`). Opening is two or three calls
and what gives them back; a read is a fetch, and, when it is the last one, what
gives everything back.

There is one failure that no call had: the row was fetched and could not be
made (`Unmade`). It comes before whatever fails when everything is given back.
-/
import DataAccess.Proofs.Session.Vouching
import DataAccess.Proofs.Stream.Desk

namespace DataAccess

open DataAccess.Action Ledger

variable {σ α β : Type}

-- ================================================================ giving back

/-- Where nothing fails no error has to vouch. -/
theorem vouches_unfailing {display handled : String}
    {entries : List CallRecord} (h : Unfailing entries) :
    Vouches display handled entries [] := by
  have hnone := failures_eq_nil_iff.mpr h
  refine ⟨?_, fun entry hentry => ?_⟩
  · rw [hnone]
    exact .nil
  · rw [firstFailed?_eq_none_iff.mpr hnone] at hentry
    cases hentry

/-- A single call that gives something back, if there is something. -/
theorem vouches_optional {display handled : String} {connection : Option Nat}
    (handle : Option Nat) (call : Nat → Call) {context : StatementContext}
    (hcontext : ∀ k, context
      = { transaction := display
          statement := some { sql := (call k).text handled, params := [] } })
    (f : Option DriverError) :
    Vouches display handled
      (handle.map fun k => (⟨connection, call k, f⟩ : CallRecord)).toList
      (if handle.isSome then failuresIn (reported context f) else []) := by
  cases handle with
  | none => exact vouches_nil
  | some k => exact vouches_reported [] (fun _ => hcontext k) f

/-- What failed when a stream gave everything back. -/
theorem Lease.vouches_refusals (r : Lease) (f : Returning) :
    Vouches r.display r.sql (r.giveBack f) (r.refusals f) := by
  have hcursor : Vouches r.display r.sql
      (r.cursor.map fun k =>
        (⟨some r.connection, .closeCursor k, f.cursor⟩ : CallRecord)).toList
      (if r.cursor.isSome then failuresIn (reported r.context f.cursor)
        else []) :=
    vouches_optional r.cursor .closeCursor (fun _ => rfl) f.cursor
  have hstatement : Vouches r.display r.sql
      (r.statement.map fun k =>
        (⟨some r.connection, .closeStatement k, f.statement⟩
          : CallRecord)).toList
      (if r.statement.isSome then failuresIn (reported r.context f.statement)
        else []) :=
    vouches_optional r.statement .closeStatement (fun _ => rfl) f.statement
  have hending : Vouches r.display r.sql (r.endings f)
      (failuresIn (rootAnswer r.display .commit f.ended f.closed)) :=
    vouches_rootAnswer _ _ .commit f.ended f.closed
  have hclosings := hcursor.append hstatement.told fun _ => hstatement
  exact hclosings.append hending.told fun _ => hending

/-- What a stream gives back, it gives back on its connection. -/
theorem Lease.connecting_giveBack (r : Lease) (f : Returning) :
    Connecting (r.giveBack f) := by
  obtain ⟨c, display, sql, statement, cursor⟩ := r
  cases statement <;> cases cursor <;>
    simp [Connecting, giveBack, closings, endings]

/-- So it does after a call that failed there. -/
theorem Lease.connecting_failed (r : Lease) {before : List CallRecord}
    (hbefore : Unfailing before) (call : Call) (failure : DriverError)
    (f : Returning) :
    Connecting
      (before ++ [⟨some r.connection, call, some failure⟩] ++ r.giveBack f) :=
  (hbefore.connecting.append (by simp [Connecting])).append
    (r.connecting_giveBack f)

/-- Calls, the last of which failed, and what gives back what there is. -/
theorem Lease.vouches_failed (r : Lease) {before : List CallRecord}
    (hbefore : Unfailing before) (call : Call) {context : StatementContext}
    {params : List String}
    (hcontext : context
      = { transaction := r.display
          statement := some { sql := call.text r.sql, params } })
    (failure : DriverError) (f : Returning) :
    Vouches r.display r.sql
      (before ++ [⟨some r.connection, call, some failure⟩] ++ r.giveBack f)
      [(Error.ofDriver failure context).carrying (r.refusals f)] := by
  have hcall : Vouches r.display r.sql
      [⟨some r.connection, call, some failure⟩]
      (failuresIn (reported context (some failure))) :=
    vouches_reported params (fun _ => hcontext) (some failure)
  have hrefusals := r.vouches_refusals f
  have hall := ((vouches_unfailing hbefore).append hcall.told
    fun _ => hcall).append hrefusals.told fun _ => hrefusals
  rw [← Error.withAllSuppressed_eq]
  exact hall.carried

namespace QueryStream

-- ================================================================== opening

section

variable {b : BoundStatement}
  {mapper : TransactionId → Row → σ → Action (α × σ)} {memory : σ}
  {s : Session}

/-- An opening that stops at a call gives back what there is by then. -/
theorem accounts_unacquired {q : QueryStream σ α} {t : TransactionId} {c : Nat}
    {s₁ s₂ : Session} {begun : List CallRecord} {call : Call}
    {failure : DriverError} {context : StatementContext}
    {params : List String} (sent : List CallRecord)
    (hbegun : Action.begin true s = .ok t s₁)
    (hlog : s₁.ledger.log = s.ledger.log ++ begun)
    (hhosts : s₁.ledger.Hosts t c (nextDisplay s))
    (hacquired : (started b mapper memory t).acquire t b.params s₁
      = .ok (.error (.ofDriver failure context), q) s₂)
    (hledger : s₂.ledger = s₁.ledger.record
      (sent ++ [⟨some c, call, some failure⟩]))
    (hunfailing : Unfailing (begun ++ sent)) (htx : q.tx = some t)
    (hsql : q.sql = b.sql)
    (hcontext : context
      = { transaction := nextDisplay s
          statement := some { sql := call.text b.sql, params } }) :
    Accounts (nextDisplay s) b.sql (openBound b mapper memory) s := by
  obtain ⟨f, s₃, hreleased, hreturned⟩ :=
    release_runs htx (hhosts.of_record hledger)
  rw [← hsql] at hcontext ⊢
  have hvouches := (q.lease c (nextDisplay s)).vouches_failed hunfailing call
    hcontext failure f
  refine accounts_of_error (openBound_unacquired hbegun hacquired hreleased)
    ?_ (Lease.connecting_failed _ hunfailing call failure f) hvouches
  rw [log_of_release hreturned, hledger, log_record, hlog]
  simp only [List.append_assoc]
  rfl

/-- A stream that cannot be opened accounts for all of its calls. -/
theorem accounts_openBound :
    Accounts (nextDisplay s) b.sql (openBound b mapper memory) s := by
  have hbegin : Accounts (nextDisplay s) b.sql (Action.begin true) s :=
    accounts_begin true
  cases hbegun : Action.begin true s with
  -- nothing begins: all is said about beginning already
  | error e s₁ =>
      unfold Accounts EStateM.after EStateM.answer at hbegin ⊢
      rw [hbegun] at hbegin
      rw [openBound_unbegun hbegun]
      obtain ⟨entries, hlog, hanswer⟩ := hbegin
      refine ⟨entries, hlog, hanswer.imp_right fun h => ?_⟩
      rcases h with ⟨-, x, hx⟩ | herror
      · cases hx
      · obtain ⟨e', he', haccount⟩ := herror
        exact Or.inr ⟨e', by cases he'; rfl, haccount⟩
  -- a transaction has begun: preparing fails, or opening the cursor does, or
  -- neither
  | ok t s₁ =>
      obtain ⟨ht, hledger₁⟩ : t = s.ledger.transactions.length
          ∧ s₁.ledger = s.ledger.begun true := by
        rcases begin_cases s true with ⟨_, _, h, -⟩ | ⟨_, _, _, h, -⟩
          | ⟨s', h, hledger⟩
        · cases hbegun.symm.trans h
        · cases hbegun.symm.trans h
        · cases hbegun.symm.trans h
          exact ⟨rfl, hledger⟩
      have hhosts : s₁.ledger.Hosts t s.ledger.opened (nextDisplay s) := by
        rw [ht, hledger₁]
        exact Hosts.begun s.ledger
      have hconnected : Unfailing [⟨none, .connect, none⟩,
          ⟨some s.ledger.opened, .begin true, none⟩] := by
        simp [Unfailing]
      have hlog₁ : s₁.ledger.log = s.ledger.log ++ [⟨none, .connect, none⟩,
          ⟨some s.ledger.opened, .begin true, none⟩] := by
        rw [hledger₁]
        rfl
      rcases acquire_cases (q := started b mapper memory t) hhosts b.params
        with ⟨failure, s₂, hacquired, hledger₂⟩
        | ⟨failure, s₂, hacquired, hledger₂⟩
        | ⟨s₂, hacquired, hledger₂, -⟩
      · exact accounts_unacquired [] hbegun hlog₁ hhosts hacquired hledger₂
          hconnected rfl rfl rfl
      · refine accounts_unacquired
          [⟨some s.ledger.opened, .prepare b.sql, none⟩] hbegun hlog₁ hhosts
          hacquired hledger₂ ?_ rfl rfl rfl
        simp [Unfailing]
      · have hlog₂ := congrArg (·.log) hledger₂
        rw [log_record, hlog₁, List.append_assoc] at hlog₂
        exact accounts_of_ok (openBound_acquired hbegun hacquired) hlog₂
          (by simp [Unfailing])

end

/-- The text that is sent for a statement; that of one whose parameters do not
resolve is not sent. -/
def sentText (sql : String) (params : Params) : String :=
  match params.resolve sql with
  | .ok b => b.sql
  | .error _ => sql

variable {s : Session}

/-- So it does if its parameters do not fit. -/
theorem accounts_openMapped (sql : String) (params : Params)
    (mapper : TransactionId → Row → σ → Action (α × σ)) (memory : σ) :
    Accounts (nextDisplay s) (sentText sql params)
      (openMapped sql params mapper memory) s := by
  unfold sentText
  cases hb : params.resolve sql with
  | ok b =>
      rw [openMapped_resolved hb]
      exact accounts_openBound
  | error fault =>
      refine accounts_of_uncalled ?_
      unfold openMapped
      rw [hb]
      rfl

/-- So does a stream of entities. -/
theorem accounts_openEntities (schema : Schema) (typeName sql : String)
    (params : Params) :
    Accounts (nextDisplay s) (sentText sql params)
      (openEntities schema typeName sql params) s := by
  unfold openEntities
  cases EntityBinding.ofType schema typeName with
  | error e => exact accounts_of_uncalled rfl
  | ok b => exact accounts_openMapped sql params (entityMapper schema b) ()

-- ================================================================== reading

/-- The next item of a stream. A failure that is given as an item is thrown. -/
def item (q : QueryStream σ α) : Action (Option α) := do
  match (← q.next).1 with
  | none => return none
  | some made => return some (← Action.ofExcept made)

/-- What a stream fails with over the row that it fetches next, before that
is tagged. -/
def unmade? (q : QueryStream σ α) (s : Session) : Option Error :=
  match q.tx, q.cursor, q.resolver with
  | some t, some cursor, some resolver =>
    match s.connectionOf? t with
    | none => none
    | some c =>
      match (Driver.fetch c cursor).answer s.driver with
      | .ok (some values) =>
        match makeRow q.mapper t resolver values q.memory
            (s.fetched c cursor) with
        | .ok _ _ => none
        | .error raised _ => some raised
      | _ => none
  | _, _, _ => none

section

variable {q : QueryStream σ α} {s s' : Session} {q' : QueryStream σ α}
  {t : TransactionId} {c : Nat} {display : String}

/-- A failure that is an item is a failure. -/
theorem item_of_error {e : Error}
    (h : q.next s = .ok (some (.error e), q') s') :
    q.item s = .error e s' := by
  unfold item
  rw [EStateM.bind_of_eq_ok h]
  rfl

theorem item_of_ok {x : α} (h : q.next s = .ok (some (.ok x), q') s') :
    q.item s = .ok (some x) s' := by
  unfold item
  rw [EStateM.bind_of_eq_ok h]
  rfl

theorem item_of_none (h : q.next s = .ok (none, q') s') :
    q.item s = .ok none s' := by
  unfold item
  rw [EStateM.bind_of_eq_ok h]
  rfl

/-- A stream that was given back has no more items. -/
theorem item_released (hq : q.WellFormed) (htx : q.tx = none) :
    q.item s = .ok none s :=
  item_of_none (next_done (hq.released htx))

variable (hq : q.WellFormed) (htx : q.tx = some t)
  (h : s.ledger.Hosts t c display)

include hq htx h

/-- The row could not be made: that comes first, and what failed when
everything was given back is behind it. -/
theorem vouches_unmade {raised : Error} (hunmade : q.unmade? s = some raised) :
    ∃ entries others, (q.item.after s).ledger.log = s.ledger.log ++ entries
      ∧ q.item.answer s = .error ((raised.withContext
          (placed display q.sql)).withAllSuppressed others)
      ∧ Vouches display q.sql entries others := by
  obtain ⟨hdone, ⟨cursor, hcursor⟩, resolver, hresolver⟩ := hq.reading t htx
  unfold unmade? at hunmade
  simp only [htx, hcursor, hresolver, h.connectionOf] at hunmade
  cases hanswer : (Driver.fetch c cursor).answer s.driver with
  | error failure =>
      rw [hanswer] at hunmade
      cases hunmade
  | ok values =>
      rw [hanswer] at hunmade
      cases values with
      | none => cases hunmade
      | some values =>
          dsimp only at hunmade
          cases hmade : makeRow q.mapper t resolver values q.memory
              (s.fetched c cursor) with
          | ok x s₁ =>
              rw [hmade] at hunmade
              cases hunmade
          -- of all that can happen, only this leaves a row that is not made
          | error e s₁ =>
              rw [hmade] at hunmade
              cases hunmade
              obtain ⟨f, s', hnext, hledger⟩ := next_unmade htx hcursor
                hresolver hdone h hq.passive hanswer hmade
              have hitem := item_of_error hnext
              refine ⟨[⟨some c, .fetch cursor, none⟩]
                ++ (q.lease c display).giveBack f,
                (q.lease c display).refusals f, ?_, ?_, ?_⟩
              · rw [EStateM.after_of_eq_error hitem, log_of_release hledger,
                  s.ledger_fetched, hanswer, log_record, List.append_assoc]
                rfl
              · rw [EStateM.answer_of_eq_error hitem,
                  Error.withAllSuppressed_eq]
                rfl
              · have hfetched : Vouches display q.sql
                    [⟨some c, .fetch cursor, none⟩] [] :=
                  vouches_unfailing (by simp [Unfailing])
                have hreturned := (q.lease c display).vouches_refusals f
                exact hfetched.append hreturned.told fun _ => hreturned

/-- Otherwise what fails is calls. -/
theorem accounts_item (hunmade : q.unmade? s = none) :
    Accounts display q.sql q.item s := by
  obtain ⟨hdone, ⟨cursor, hcursor⟩, resolver, hresolver⟩ := hq.reading t htx
  have hfetched := s.ledger_fetched c cursor
  unfold unmade? at hunmade
  simp only [htx, hcursor, hresolver, h.connectionOf] at hunmade
  cases hanswer : (Driver.fetch c cursor).answer s.driver with
  -- the fetch fails: its failure is the answer, with what giving back adds
  | error failure =>
      obtain ⟨f, s', hnext, hledger⟩ :=
        next_unfetched htx hcursor hresolver hdone h hanswer
      rw [hanswer] at hfetched
      refine accounts_of_error (item_of_error hnext) ?_
        (Lease.connecting_failed _ (List.forall_mem_nil _) _ failure f)
        ((q.lease c display).vouches_failed (List.forall_mem_nil _)
          (.fetch cursor) rfl failure f)
      rw [log_of_release hledger, hfetched, log_record, List.append_assoc]
      rfl
  | ok values =>
      rw [hanswer] at hfetched hunmade
      have hunfailing : Unfailing [⟨some c, .fetch cursor, none⟩] := by
        simp [Unfailing]
      cases values with
      -- no row is left: the answer is a failure only if giving back fails
      | none =>
          obtain ⟨f, s', hnext, hledger⟩ :=
            next_exhausted htx hcursor hresolver hdone h hanswer
          have hlog : s'.ledger.log = s.ledger.log
              ++ ([⟨some c, .fetch cursor, none⟩]
                ++ (q.lease c display).giveBack f) := by
            rw [log_of_release hledger, hfetched, log_record,
              List.append_assoc]
            rfl
          have hreturned := (q.lease c display).vouches_refusals f
          have hall := (vouches_unfailing hunfailing).append hreturned.told
            fun _ => hreturned
          cases hrefusals : (q.lease c display).refusals f with
          | nil =>
              rw [hrefusals] at hnext hall
              refine accounts_of_ok (item_of_none hnext) hlog ?_
              exact failures_eq_nil_iff.mp
                (List.forall₂_nil_right_iff.mp hall.told)
          | cons e others =>
              rw [hrefusals] at hnext hall
              refine accounts_of_error (item_of_error hnext) hlog
                (hunfailing.connecting.append
                  ((q.lease c display).connecting_giveBack f)) ?_
              rw [← Error.withAllSuppressed_eq]
              exact hall.carried
      | some values =>
          dsimp only at hunmade
          cases hmade : makeRow q.mapper t resolver values q.memory
              (s.fetched c cursor) with
          -- a row that is not made, which was excluded
          | error e s₁ =>
              rw [hmade] at hunmade
              cases hunmade
          | ok x s₁ =>
              obtain ⟨hnext, hledger, -⟩ := next_made htx hcursor hresolver
                hdone h hq.passive hanswer hmade
              refine accounts_of_ok (item_of_ok hnext) ?_ hunfailing
              rw [hledger, hfetched]
              rfl

end

end QueryStream

end DataAccess
