/-
What a stream does to the identity cache of its transaction. A stream of
entities reads (`told_next`), like anything that loads entities; a stream that
is released ends its root, so the cache is emptied, and nothing more is done
with it (`told_release`). A stream that cannot be opened gives back what it
has, or it has nothing yet (`told_openBound`).
-/
import DataAccess.Proofs.Session.Sightings
import DataAccess.Proofs.Stream.Desk

namespace DataAccess

open DataAccess.Action Ledger

/-- What hosts a stream empties the cache when it is closed. -/
theorem Ledger.Hosts.clears {s : Session} {t : TransactionId} {c : Nat}
    {display : String} (h : s.ledger.Hosts t c display) :
    s.Clears t (impliedOutcome (s.transaction t).readOnly) := by
  refine ⟨h.ends.isOpen, h.ends.childless, fun _ => ?_, fun hne => ?_⟩
  · rw [h.connectionOf]
    exact nofun
  · exact absurd h.root hne

namespace QueryStream

variable {σ α : Type} {schema : Schema} {q : QueryStream σ α} {s : Session}
  {t : TransactionId} {chain : ChainId} {c : Nat} {display : String}

-- =============================================================== releasing

/-- A failure that is kept has no part in what is held. -/
theorem idle_failureOf {a : Action Unit} (h : Idle id a) :
    Idle id (failureOf a) := by
  refine (idle_attempt h).bind fun r => ?_
  cases r <;> exact idle_pure _

/-- Closing a cursor leaves the holdings alone. -/
theorem idle_releaseCursor (t : TransactionId) :
    Idle id (q.releaseCursor t) := by
  unfold releaseCursor
  cases q.cursor with
  | none => exact idle_pure []
  | some cursor => exact idle_failureOf (idle_onConnection _ _ _)

/-- So does closing a statement. -/
theorem idle_releaseStatement (t : TransactionId) :
    Idle id (q.releaseStatement t) := by
  unfold releaseStatement
  cases q.statement with
  | none => exact idle_pure []
  | some statement => exact idle_failureOf (idle_onConnection _ _ _)

/-- A release empties the cache. -/
theorem told_release (htx : q.tx = some t) (hc : s.holdings.OnChain t chain)
    (h : s.ledger.Hosts t c display) :
    Told schema id chain q.release s fun r _ events =>
      (∃ errors, r = .ok (errors, q.released)) ∧ events = [.cleared] := by
  obtain ⟨f₁, s₁, hrun₁, hledger₁⟩ := releaseCursor_runs (q := q) h
  have h₁ := h.of_record hledger₁
  obtain ⟨f₂, s₂, hrun₂, hledger₂⟩ := releaseStatement_runs (q := q) h₁
  have h₂ := h₁.of_record hledger₂
  have hs₁ := idle_releaseCursor (q := q) t s
  have hs₂ := idle_releaseStatement (q := q) t s₁
  rw [EStateM.after_of_eq_ok hrun₁] at hs₁
  rw [EStateM.after_of_eq_ok hrun₂] at hs₂
  have hc₂ : s₂.holdings.OnChain t chain := by
    show (id s₂).holdings.OnChain t chain
    rw [hs₂, hs₁]
    exact hc
  unfold release
  simp only [htx]
  refine (idle_releaseCursor t).bind_told (fun e he => ?_) fun _ _ => ?_
  · rw [EStateM.answer_of_eq_ok hrun₁] at he
    cases he
  rw [EStateM.after_of_eq_ok hrun₁]
  refine (idle_releaseStatement t).bind_told (fun e he => ?_) fun _ _ => ?_
  · rw [EStateM.answer_of_eq_ok hrun₂] at he
    cases he
  rw [EStateM.after_of_eq_ok hrun₂]
  have hclosed : Told schema id chain (failureOf (close t)) s₂
      fun r _ events => (∃ errors, r = .ok errors) ∧ events = [.cleared] := by
    refine (told_attempt (told_close hc₂)).bind
      (fun _ _ _ h => nomatch h.choose_spec.1) ?_
    rintro r _ - - ⟨r', ⟨⟩, ⟨-, rfl⟩ | ⟨hnot, -⟩⟩
    · cases r <;> exact (idle_pure _).told ⟨⟨_, rfl⟩, rfl⟩
    · exact absurd h₂.clears hnot
  refine hclosed.bind (fun _ _ _ h => nomatch h.1.choose_spec) ?_
  rintro _ _ - - ⟨-, rfl⟩
  refine idle_get.bind_told (fun _ h => nomatch h) fun _ _ => ?_
  refine (idle_report _).bind_told (fun _ h => nomatch h) fun _ _ => ?_
  exact (idle_pure _).told ⟨⟨_, rfl⟩, rfl⟩

variable (schema) in
/-- Dropping a stream empties the cache. -/
theorem told_drop (htx : q.tx = some t) (hc : s.holdings.OnChain t chain)
    (h : s.ledger.Hosts t c display) :
    Told schema id chain q.drop s fun _ _ events => events = [.cleared] := by
  have hreports : ∀ errors, Idle id (reportFailures q.sql errors) := by
    intro errors
    induction errors with
    | nil => exact idle_pure ()
    | cons e errors ih => exact (idle_report _).bind fun _ => ih
  refine (told_release htx hc h).bind (fun _ _ _ h => nomatch h.1.choose_spec)
    ?_
  rintro _ _ - - ⟨⟨errors, ⟨⟩⟩, rfl⟩
  exact (hreports errors).told rfl

-- ================================================================= reading

/-- A stream whose mapper does nothing but read; `Q` says what an item has to
do with the events. -/
def Browses (schema : Schema) (Q : α → List (CacheEvent InstanceId) → Prop)
    (q : QueryStream σ α) : Prop :=
  ∀ t chain row m, DataAccess.Browses schema id t chain
    (fun x events => Q x.1 events) (q.mapper t row m)

variable {Q : α → List (CacheEvent InstanceId) → Prop}

/-- Making something of the next row reads. -/
theorem browses_advance (h : q.Browses schema Q) (htx : q.tx = some t) :
    DataAccess.Browses schema id t chain
      (fun x events => ∀ y ∈ x, Q y.1 events) q.advance := by
  unfold advance
  rw [htx]
  split
  · next t' cursor resolver ht hcursor hresolver =>
    cases ht
    refine (idle_ensureOpen t).bind_browses fun _ _ => ?_
    refine (idle_onConnectionQuietly _ _ _).bind_browses fun fetched _ => ?_
    cases fetched with
    | none =>
        refine (idle_pure none).browses ?_
        rintro w _ ⟨⟩ y ⟨⟩
    | some values =>
        refine idle_get.bind_browses fun s _ => ?_
        refine (browses_mapError ((idle_ofExcept _).bind_browses
          fun row _ => h t chain row q.memory)).map fun x events hx y hy => ?_
        cases hy
        exact hx
  · exact (idle_throw _).browses fun _ _ h => nomatch h

/-- A transaction hosts its stream after the next row as well. -/
theorem hosts_advance (hq : q.WellFormed) (htx : q.tx = some t)
    (h : s.ledger.Hosts t c display) :
    (q.advance.after s).ledger.Hosts t c display := by
  obtain ⟨-, ⟨cursor, hcursor⟩, resolver, hresolver⟩ := hq.reading t htx
  have hadvance := advance_eq htx hcursor hresolver h
  have hfetched := h.of_record (s.ledger_fetched c cursor)
  unfold EStateM.after
  rw [hadvance]
  cases (Driver.fetch c cursor).answer s.driver with
  | error e => exact hfetched
  | ok values =>
      cases values with
      | none => exact hfetched
      | some values =>
          have hmade := (quiet_makeRow (t := t) hq.passive resolver values
            q.memory).ledger (s.fetched c cursor)
          dsimp only
          cases hrun : makeRow q.mapper t resolver values q.memory
              (s.fetched c cursor) with
          | ok x s' =>
              rw [EStateM.after_of_eq_ok hrun] at hmade
              exact h.of_record (hmade.trans (s.ledger_fetched c cursor))
          | error e s' =>
              rw [EStateM.after_of_eq_error hrun] at hmade
              exact h.of_record (hmade.trans (s.ledger_fetched c cursor))

/-- A stream that is asked for an item reads, and empties the cache when
nothing more comes. -/
theorem told_next (hq : q.WellFormed) (h : q.Browses schema Q)
    (htx : q.tx = some t) (hc : s.holdings.OnChain t chain)
    (hhosts : s.ledger.Hosts t c display) :
    Told schema id chain q.next s fun r _ events =>
      ∃ item q', r = .ok (item, q') ∧ q'.mapper = q.mapper
        ∧ (∀ x, item = some (.ok x) → Q x events)
        ∧ ((q'.tx = q.tx ∧ ReadingOnly events)
          ∨ q'.tx = none ∧ ∃ before, ReadingOnly before
            ∧ events = before ++ [.cleared]) := by
  have hdone := (hq.reading t htx).1
  have hadvance := hosts_advance hq htx hhosts
  unfold next
  rw [hdone]
  simp only [Bool.false_eq_true, if_false]
  refine (told_attempt (browses_advance h htx s hc)).bind
    (fun _ _ _ h => nomatch h.choose_spec.1) ?_
  rintro r events - hrecounts ⟨r', ⟨⟩, hreading, hQ⟩
  rw [after_attempt] at hrecounts ⊢
  have hreleased : Told schema id chain { q with done := true }.release
      (q.advance.after s) fun r _ events =>
        (∃ errors, r = .ok (errors, { q with done := true }.released))
          ∧ events = [.cleared] :=
    told_release htx (hrecounts.onChain hc) hadvance
  cases r with
  | ok x =>
      cases x with
      | some x =>
          refine (idle_pure _).told
            ⟨_, _, rfl, rfl, fun y hy => ?_, Or.inl ⟨rfl, ?_⟩⟩
          · cases hy
            rw [List.append_nil]
            exact hQ _ rfl x rfl
          · exact hreading.append readingOnly_nil
      | none =>
          refine hreleased.bind (fun _ _ _ h => nomatch h.1.choose_spec) ?_
          rintro _ _ - - ⟨⟨errors, ⟨⟩⟩, rfl⟩
          cases errors <;> exact (idle_pure _).told ⟨_, _, rfl, rfl,
            (fun _ h => nomatch h), Or.inr ⟨rfl, events, hreading, rfl⟩⟩
  | error e =>
      refine hreleased.bind (fun _ _ _ h => nomatch h.1.choose_spec) ?_
      rintro _ _ - - ⟨⟨errors, ⟨⟩⟩, rfl⟩
      exact (idle_pure _).told ⟨_, _, rfl, rfl, (fun _ h => nomatch h),
        Or.inr ⟨rfl, events, hreading, rfl⟩⟩

-- ================================================================= opening

/-- So does opening either. -/
theorem idle_acquire (t : TransactionId) (params : List Value) :
    Idle id (q.acquire t params) := by
  refine (idle_attempt ((idle_ensureOpen t).bind fun _ =>
    idle_onConnection _ _ _)).bind fun prepared => ?_
  cases prepared with
  | error e => exact idle_pure _
  | ok statement =>
      refine idle_get.bind fun s => ?_
      refine (idle_attempt ((idle_ensureOpen t).bind fun _ =>
        idle_onConnection _ _ _)).bind fun opened => ?_
      cases opened with
      | error e => exact idle_pure _
      | ok opened =>
          exact idle_get.bind fun _ => (idle_report _).bind fun _ =>
            idle_pure _

variable {b : BoundStatement}
  {mapper : TransactionId → Row → σ → Action (α × σ)} {memory : σ}
  {s₁ : Session}

/-- A stream that acquired what it needs, or did not. -/
theorem acquire_hosted (b : BoundStatement)
    (mapper : TransactionId → Row → σ → Action (α × σ)) (memory : σ)
    (hhosts : s.ledger.Hosts t c display) (params : List Value) :
    ∃ r q' s', (started b mapper memory t).acquire t params s
        = .ok (r, q') s'
      ∧ q'.tx = some t ∧ q'.mapper = mapper
      ∧ s'.ledger.Hosts t c display := by
  rcases acquire_cases (q := started b mapper memory t) hhosts params with
    ⟨failure, s', hrun, hledger⟩ | ⟨failure, s', hrun, hledger⟩
    | ⟨s', hrun, hledger, -⟩ <;>
    exact ⟨_, _, s', hrun, rfl, rfl, hhosts.of_record hledger⟩

/-- A stream whose transaction begins is opened, or it empties the cache of
its chain at once. -/
theorem told_openBound (hbegun : Action.begin true s = .ok t s₁)
    (hhosts : s₁.ledger.Hosts t c display) :
    Told schema id s.holdings.caches.length (openBound b mapper memory) s
      fun r s' events => s'.holdings.OnChain t s.holdings.caches.length
        ∧ (events = [] ∧ (∃ q, r = .ok q ∧ q.mapper = mapper)
          ∨ events = [.cleared] ∧ ∃ e, r = .error e) := by
  refine (told_begin schema s true).bind (fun e _ he => ?_) ?_
  · rw [EStateM.answer_of_eq_ok hbegun] at he
    cases he
  rintro t' events ht' - ⟨rfl, hchain⟩
  rw [EStateM.answer_of_eq_ok hbegun] at ht'
  cases ht'
  rw [EStateM.after_of_eq_ok hbegun] at hchain ⊢
  obtain ⟨r, q', s₂, hrun, htx, hmapper, hhosts₂⟩ :=
    acquire_hosted b mapper memory hhosts b.params
  have hidle := idle_acquire (q := started b mapper memory t) t b.params
  have hs₂ := hidle s₁
  rw [EStateM.after_of_eq_ok hrun] at hs₂
  have hchain₂ : s₂.holdings.OnChain t s.holdings.caches.length := by
    show (id s₂).holdings.OnChain t _
    rw [hs₂]
    exact hchain t rfl
  refine hidle.bind_told (fun e he => ?_) fun x hx => ?_
  · rw [EStateM.answer_of_eq_ok hrun] at he
    cases he
  rw [EStateM.answer_of_eq_ok hrun] at hx
  cases hx
  rw [EStateM.after_of_eq_ok hrun]
  cases r with
  | ok _ =>
      exact (idle_pure q').told ⟨hchain₂, Or.inl ⟨rfl, q', rfl, hmapper⟩⟩
  | error e =>
      refine (told_release htx hchain₂ hhosts₂).bind
        (fun _ _ _ h => nomatch h.1.choose_spec) ?_
      rintro _ _ - hrecounts ⟨⟨errors, ⟨⟩⟩, rfl⟩
      exact (idle_throw _).told
        ⟨hrecounts.onChain hchain₂, Or.inr ⟨rfl, _, rfl⟩⟩

end QueryStream

end DataAccess
