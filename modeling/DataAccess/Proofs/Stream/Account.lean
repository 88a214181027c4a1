/-
The account of a run: for each request of a caller, the chain that it is on
and what is done with the cache of that chain meanwhile. `Desk.Accounts` says
when events give an account of a request. They tell how what the session holds
came about; what the caller gets to see is shown by them; and what takes
entries away is among them exactly if the request is one that does.

# What takes entries away

A request touches a key of a chain (`Desk.Touches`) if it writes an entity
with that key on it, goes back to a savepoint of it, or ends its root; the last
can also be the release of a stream. It outdates the key (`Desk.Outdates`)
unless it is a statement that fails.

# Every operation has an account

This is what `Kept.exists_accounts_operation` says. The events come from
`Proofs/Session/Sightings`, and which transaction ends is what the ledger says
(`endedSince_step`). Streams are in `Proofs/Stream/Accounted`.
-/
import DataAccess.Proofs.Stream.Clearing
import DataAccess.Proofs.Stream.Sightings

namespace DataAccess

open DataAccess.Action Ledger

-- ================================================================= endings

namespace Ledger

variable {l l' : Ledger} {t u : TransactionId} {op : Operation}

/-- A transaction ended meanwhile: it was open, or had not begun, and now it
has ended. -/
structure EndedSince (l l' : Ledger) (t : TransactionId) : Prop where
  before : ∀ tx, l.transactions[t]? = some tx → tx.finished = false
  after : ∃ tx, l'.transactions[t]? = some tx ∧ tx.finished = true

/-- A transaction that is finished and was not has ended. -/
theorem endedSince_of_finished
    (h : l.transactions[t]?.map (·.finished) = some false)
    (h' : l'.transactions[t]?.map (·.finished) = some true) :
    l.EndedSince l' t := by
  refine ⟨fun tx htx => ?_, Option.map_eq_some_iff.mp h'⟩
  rw [htx] at h
  exact Option.some.inj h

/-- Where the transactions stay nothing ends. -/
theorem not_endedSince (h : l'.transactions = l.transactions) :
    ¬ l.EndedSince l' t := by
  rintro ⟨hbefore, tx, htx, hfinished⟩
  rw [h] at htx
  rw [hbefore tx htx] at hfinished
  cases hfinished

/-- What is open has not ended. -/
theorem not_endedSince_of_open
    (h : ∀ tx ∈ l'.transactions, tx.finished = false) :
    ¬ l.EndedSince l' t := by
  rintro ⟨-, tx, htx, hfinished⟩
  rw [h tx (List.mem_of_getElem? htx)] at hfinished
  cases hfinished

/-- What begins has not ended. -/
theorem endedSince_concat {l₁ : Ledger} {tx : Transaction}
    (h : l₁.transactions = l.transactions ++ [tx])
    (hopen : tx.finished = false) :
    l₁.EndedSince l' t ↔ l.EndedSince l' t := by
  refine ⟨fun hended => ⟨fun tx₀ htx₀ => ?_, hended.after⟩,
    fun hended => ⟨fun tx₁ htx₁ => ?_, hended.after⟩⟩
  · refine hended.before tx₀ ?_
    rw [h, List.getElem?_append_left (List.getElem?_eq_some_iff.mp htx₀).1]
    exact htx₀
  · rw [h] at htx₁
    rcases getElem?_concat_cases htx₁ with hold | ⟨-, rfl⟩
    · exact hended.before tx₁ hold
    · exact hopen

/-- The end of one transaction is the end of no other one. -/
theorem endedSince_withEnded (hopen : l.IsOpen u)
    (h : l'.transactions = l.withEnded u) : l.EndedSince l' t ↔ t = u := by
  constructor
  · rintro ⟨hbefore, tx', htx', hfinished⟩
    rw [h] at htx'
    obtain ⟨tx, htx, rfl⟩ := getElem?_withEnded_cases htx'
    have hended : (tx.finished || decide (u = t)) = true := hfinished
    rw [hbefore tx htx, Bool.false_or] at hended
    exact (of_decide_eq_true hended).symm
  · rintro rfl
    have htx := getElem?_of_isOpen hopen
    refine ⟨fun tx htx' => ?_, _, h ▸ getElem?_withEnded_of_some htx, ?_⟩
    · cases htx.symm.trans htx'
      exact hopen
    · simp

/-- Only an operation that ends a transaction ends one. -/
theorem endedSince_step (hstep : Step l op l') (h : l.EndedSince l' t) :
    ∃ how c, op = .ending t how ∧ l.Ends t c
      ∧ l'.transactions = l.withEnded t := by
  have hended : ∀ {u c} {how : Ending}, op = .ending u how → l.Ends u c →
      l'.transactions = l.withEnded u → ∃ how c, op = .ending t how
        ∧ l.Ends t c ∧ l'.transactions = l.withEnded t := by
    intro u c how hop hends htransactions
    cases (endedSince_withEnded hends.isOpen htransactions).mp h
    exact ⟨how, c, hop, hends, htransactions⟩
  cases hstep with
  | refused => exact absurd h (not_endedSince rfl)
  | unconnected => exact absurd h (not_endedSince rfl)
  | abandoned => exact absurd h (not_endedSince rfl)
  | begun readOnly =>
      exact absurd ((endedSince_concat rfl rfl).mpr h) (not_endedSince rfl)
  | unmarked => exact absurd h (not_endedSince rfl)
  | @nested p c =>
      obtain ⟨hbefore, tx', htx', hfinished⟩ := h
      rcases getElem?_nested_cases htx' with ⟨tx, htx, rfl⟩ | ⟨-, rfl⟩
      · exact nomatch (hbefore tx htx).symm.trans hfinished
      · cases hfinished
  | rootEnded how hends => exact hended rfl hends rfl
  | released how hends => exact hended rfl hends rfl
  | reverted how hends => exact hended rfl hends rfl
  | worked => exact absurd h (not_endedSince rfl)

/-- A stream ends its transaction, and no other one, if it gives it back. -/
theorem Streamed.endedSince_iff {c : Nat} {x : Option TransactionId}
    (h : l.Streamed t c x l') (hopen : l.IsOpen t) :
    l.EndedSince l' u ↔ u = t ∧ x = none := by
  cases h with
  | going =>
      exact ⟨fun hended => absurd hended (not_endedSince rfl),
        fun hnone => nomatch hnone.2⟩
  | gone =>
      exact (endedSince_withEnded hopen rfl).trans (and_iff_left rfl).symm

end Ledger

namespace Session

variable {s : Session} {t : TransactionId} {how : Ending} {l' : Ledger}

/-- A transaction that ends, as a root or going back to its savepoint, empties
the cache. -/
theorem clears_of_endedSince (hconsistent : s.ledger.Consistent)
    (hstep : Step s.ledger (.ending t how) l')
    (hended : s.ledger.EndedSince l' t)
    (h : (s.transaction t).parent = none
      ∨ how.outcome (s.transaction t).readOnly = .rollback) :
    s.Clears t (how.outcome (s.transaction t).readOnly) := by
  obtain ⟨how', c, hop, hends, -⟩ := endedSince_step hstep hended
  refine ⟨hends.isOpen, hends.childless, fun _ => ?_, fun hne => ?_⟩
  · rw [← connectionOf?_ledger, hends.connection]
    exact nofun
  · rcases h with hparent | hrollback
    · exact absurd ((hconsistent.nesting.parent_eq_none_iff
        hends.isOpen).mp hparent) hne
    · exact hrollback

/-- Where the cache is emptied a root ends, or a transaction goes back to its
savepoint. -/
theorem endedSince_of_clears (hconsistent : s.ledger.Consistent)
    (hstep : Step s.ledger (.ending t how) l')
    (h : s.Clears t (how.outcome (s.transaction t).readOnly)) :
    s.ledger.EndedSince l' t ∧ l'.transactions = s.ledger.withEnded t
      ∧ ((s.transaction t).parent = none
        ∨ (s.transaction t).parent ≠ none
          ∧ how.outcome (s.transaction t).readOnly = .rollback) := by
  have hopen : s.ledger.IsOpen t := h.isOpen
  have hnested := hconsistent.nesting.parent_eq_none_iff hopen
  have hended : l'.transactions = s.ledger.withEnded t := by
    cases hstep with
    | refused hrefuses =>
        rcases hrefuses with hclosed | hchildren
        · exact absurd h.isOpen hclosed
        · exact absurd h.childless (Nat.ne_of_gt hchildren)
    | rootEnded => rfl
    | released => rfl
    | reverted => rfl
  refine ⟨(endedSince_withEnded hopen hended).mpr rfl, hended, ?_⟩
  by_cases hparent : (s.transaction t).parent = none
  · exact Or.inl hparent
  · exact Or.inr ⟨hparent, h.nested fun hnone => hparent (hnested.mpr hnone)⟩

end Session

-- ================================================================ requests

namespace Desk

/-- A request takes away what is under a key of a chain: it writes an entity
with that key, it goes back to a savepoint, or it ends a root. -/
inductive Touches (schema : Schema) (d : Desk) (c : ChainId)
    (key : CacheKey) : Request → Prop where
  | written {t : TransactionId} {st : Statement}
      (hhas : d.has (.statement t st) = true)
      (hchain : d.session.holdings.OnChain t c)
      (hwrites : st.Writes schema t d.session key) :
      Touches schema d c key (.operation (.statement t st))
  | reverted {t : TransactionId} {how : Ending}
      (hchain : d.session.holdings.OnChain t c)
      (hnested : (d.session.transaction t).parent ≠ none)
      (hrollback : how.outcome (d.session.transaction t).readOnly = .rollback)
      (hended : d.session.ledger.EndedSince
        (d.serve schema (.operation (.ending t how))).session.ledger t) :
      Touches schema d c key (.operation (.ending t how))
  | rootEnded {t : TransactionId} {request : Request}
      (hchain : (d.serve schema request).session.holdings.OnChain t c)
      (hroot : ((d.serve schema request).session.transaction t).parent = none)
      (hended : d.session.ledger.EndedSince
        (d.serve schema request).session.ledger t) :
      Touches schema d c key request

/-- So it does whether or not its calls succeed, but for a statement: one that
fails may have done nothing. -/
def Outdates (schema : Schema) (d : Desk) (c : ChainId) (key : CacheKey)
    (request : Request) : Prop :=
  d.Touches schema c key request
    ∧ ∀ t st, request = .operation (.statement t st) →
      (st.run schema t).answer d.session = .ok ()

/-- The shared instance that a request answers with, and its key. -/
inductive Yields (schema : Schema) (d : Desk) (c : ChainId)
    (key : CacheKey) (i : InstanceId) : Request → Prop where
  | statement {t : TransactionId} {st : Statement}
      (hhas : d.has (.statement t st) = true)
      (hchain : d.session.holdings.OnChain t c)
      (hyields : st.Yields schema t d.session key i) :
      Yields schema d c key i (.operation (.statement t st))

/-- An entity whose relations a request loads. -/
inductive Sees (schema : Schema) (d : Desk) (c : ChainId) (e : Entity) :
    Request → Prop where
  | statement {t : TransactionId} {st : Statement}
      (hhas : d.has (.statement t st) = true)
      (hchain : d.session.holdings.OnChain t c)
      (hsees : st.Sees schema t d.session e) :
      Sees schema d c e (.operation (.statement t st))
  | next {i : Nat} {t : TransactionId} {q q' : QueryStream Unit Entity}
      {b : EntityBinding} {s' : Session}
      (hstream : d.stream? i = some ⟨Unit, Entity, q⟩)
      (hchain : d.session.holdings.OnChain t c) (htx : q.tx = some t)
      (hb : EntityBinding.ofType schema b.typeName = .ok b)
      (hmapper : q.mapper = QueryStream.entityMapper schema b)
      (hnext : q.next d.session = .ok (some (.ok e), q') s') :
      Sees schema d c e (.next i)

/-- What a request gives the caller under a key: the shared instance that it
answers with, or the one that a relation of an entity stands for. -/
inductive Gives (schema : Schema) (d : Desk) (c : ChainId) (key : CacheKey)
    (i : InstanceId) (request : Request) : Prop where
  | yielded (hyields : d.Yields schema c key i request)
  | related {e : Entity} (hkeeps : schema.KeepsReferences e.type)
      (hsees : d.Sees schema c e request) (hrefers : e.Refers schema key i)

/-- Events on the cache of a chain give an account of a request. -/
structure Accounts (schema : Schema) (d : Desk) (request : Request)
    (c : ChainId) (events : List (CacheEvent InstanceId)) : Prop where
  recounts : Recounts schema d.session.holdings c events
    (d.serve schema request).session.holdings
  yields : ∀ {c' key i}, d.Yields schema c' key i request →
    c' = c ∧ Found events key i
  sees : ∀ {c' e}, d.Sees schema c' e request →
    c' = c ∧ Sighted schema e events
  /-- The last event takes away what the request outdates. -/
  outdated : ∀ {c' key}, d.Outdates schema c' key request →
    c' = c ∧ ∃ before event, events = before ++ [event] ∧ event.Outdates key
  /-- Nothing else is taken away. -/
  touched : ∀ {key event}, event ∈ events → event.Outdates key →
    d.Touches schema c key request

variable {schema : Schema} {d : Desk} {request : Request} {c : ChainId}
  {t : TransactionId} {op : Operation}
  {events : List (CacheEvent InstanceId)}

/-- What a request gives was shown. -/
theorem Accounts.shows (h : d.Accounts schema request c events)
    {c' : ChainId} {key : CacheKey} {i : InstanceId}
    (hgives : d.Gives schema c' key i request) :
    c' = c ∧ Shows events key i := by
  cases hgives with
  | yielded hyields => exact (h.yields hyields).imp_right Found.shows
  | related hkeeps hsees hrefers =>
      exact (h.sees hsees).imp_right fun h => h hkeeps key i hrefers

/-- A request that touches nothing. -/
theorem accounts_of_untouched
    (hrecounts : Recounts schema d.session.holdings c events
      (d.serve schema request).session.holdings)
    (htouches : ∀ c' key, ¬ d.Touches schema c' key request)
    (hcurrent : ∀ key, ∀ event ∈ events, ¬ event.Outdates key)
    (hyields : ∀ c' key i, ¬ d.Yields schema c' key i request)
    (hsees : ∀ c' e, d.Sees schema c' e request →
      c' = c ∧ Sighted schema e events) :
    d.Accounts schema request c events :=
  ⟨hrecounts, fun h => absurd h (hyields _ _ _), fun h => hsees _ _ h,
    fun h => absurd h.1 (htouches _ _),
    fun hmem h => absurd h (hcurrent _ _ hmem)⟩

-- ============================================================== operations

variable (schema) in
/-- An operation on a transaction at hand is performed. -/
theorem serve_operation (h : d.has op = true) :
    (d.serve schema (.operation op)).session = d.session.perform schema op := by
  rw [serve_of_has schema h]

/-- A transaction that has begun is on a chain. -/
theorem Kept.exists_onChain (h : d.Kept)
    (hlt : t < d.session.transactions.length) :
    ∃ c, d.session.holdings.OnChain t c := by
  have hentry : d.session.transactions[t]? = some _ :=
    List.getElem?_eq_getElem hlt
  refine ⟨d.session.transactions[t].chain, ?_, ?_⟩
  · show (d.session.transactions.map _)[t]? = _
    rw [List.getElem?_map, hentry]
    rfl
  · have hchain := h.tenancy.consistent.wiring.chain_lt hentry
    show _ < (d.session.chains.map _).length
    rw [List.length_map]
    exact Nat.lt_of_lt_of_eq hchain (List.length_map _)

/-- What the caller has no handle of is left alone. -/
theorem accounts_of_not_has (h : ¬ d.has op = true) :
    d.Accounts schema (.operation op) 0 [] := by
  have hserve := serve_of_not_has schema h
  have hended : ∀ u, ¬ d.session.ledger.EndedSince
      (d.serve schema (.operation op)).session.ledger u := by
    rw [hserve]
    exact fun _ => not_endedSince rfl
  have hrecounts : Recounts schema d.session.holdings 0 []
      (d.serve schema (.operation op)).session.holdings := by
    rw [hserve]
    exact recounts_refl _ _
  refine accounts_of_untouched hrecounts (fun c' key htouches => ?_)
    (fun _ => List.forall_mem_nil _) (fun c' key i hyields => ?_)
    fun c' e hsees => ?_
  · cases htouches with
    | written hhas => exact h hhas
    | reverted _ _ _ hended' => exact hended _ hended'
    | rootEnded _ _ hended' => exact hended _ hended'
  · cases hyields with
    | statement hhas => exact h hhas
  · cases hsees with
    | statement hhas => exact absurd hhas h

/-- An operation that ends nothing, and is no statement, touches nothing. -/
theorem Kept.not_touches_beginning (h : d.Kept) (hhas : d.has op = true)
    (hending : ∀ t how, op ≠ .ending t how)
    (hstatement : ∀ t st, op ≠ .statement t st) (c : ChainId)
    (key : CacheKey) : ¬ d.Touches schema c key (.operation op) := by
  intro htouches
  cases htouches with
  | written => exact hstatement _ _ rfl
  | reverted => exact hending _ _ rfl
  | rootEnded _ _ hended =>
      rw [serve_operation schema hhas] at hended
      obtain ⟨how, -, hop, -⟩ := endedSince_step (d.session.step_perform schema
        h.tenancy.consistent.connected op) hended
      exact hending _ how hop

/-- A statement is accounted for by what it does. -/
theorem Kept.exists_accounts_statement (h : d.Kept) {st : Statement}
    (hhas : d.has (.statement t st) = true) :
    ∃ c events, d.Accounts schema (.operation (.statement t st)) c events := by
  obtain ⟨c, hc⟩ := h.exists_onChain
    (h.tenancy.begun t (mem_of_has hhas rfl))
  obtain ⟨events, hrecounts, haccount⟩ :=
    Statement.told_run schema st hc
  have hserve := serve_operation schema hhas
  have hnot : ∀ u, ¬ d.session.ledger.EndedSince
      (d.serve schema (.operation (.statement t st))).session.ledger u := by
    intro u hended
    rw [hserve] at hended
    obtain ⟨_, _, hop, -⟩ := endedSince_step (d.session.step_perform schema
      h.tenancy.consistent.connected (.statement t st)) hended
    cases hop
  refine ⟨c, events, hserve ▸ hrecounts, fun hyields => ?_, fun hsees => ?_,
    fun houtdates => ?_, fun {key event} hmem houtdates => ?_⟩
  · cases hyields with
    | statement _ hchain hyields =>
        exact ⟨hchain.unique hc, haccount.yields hyields⟩
  · cases hsees with
    | statement _ hchain hsees =>
        exact ⟨hchain.unique hc, haccount.sees hsees⟩
  · obtain ⟨htouches, hok⟩ := houtdates
    cases htouches with
    | written _ hchain hwrites =>
        exact ⟨hchain.unique hc, [], _,
          haccount.written hwrites (hok _ _ rfl), rfl⟩
    | rootEnded _ _ hended => exact absurd hended (hnot _)
  · obtain ⟨rfl, hwrites⟩ := haccount.outdates hmem houtdates
    exact .written hhas hc hwrites

/-- An end is accounted for by what it empties. -/
theorem Kept.exists_accounts_ending (h : d.Kept) {how : Ending}
    (hhas : d.has (.ending t how) = true) :
    ∃ c events, d.Accounts schema (.operation (.ending t how)) c events := by
  obtain ⟨c, hc⟩ := h.exists_onChain
    (h.tenancy.begun t (mem_of_has hhas rfl))
  obtain ⟨events, hrecounts, hevents⟩ :=
    told_endingRun schema how hc
  have hserve := serve_operation schema hhas
  have hrecounts : Recounts schema d.session.holdings c events
      (d.serve schema (.operation (.ending t how))).session.holdings :=
    hserve ▸ hrecounts
  have hconsistent := h.tenancy.consistent
  have hstep := d.session.step_perform schema hconsistent.connected
    (.ending t how)
  have hparent := (later_ending hstep).parent t
  rw [← hserve] at hstep hparent
  -- whatever ends a root or rolls back has emptied the cache
  have hcleared : d.session.ledger.EndedSince
      (d.serve schema (.operation (.ending t how))).session.ledger t →
      (d.session.transaction t).parent = none
        ∨ how.outcome (d.session.transaction t).readOnly = .rollback →
      events = [.cleared] := by
    intro hended hwhy
    rcases hevents with ⟨-, hevents⟩ | ⟨hnot, -⟩
    · exact hevents
    · exact absurd
        (Session.clears_of_endedSince hconsistent hstep hended hwhy) hnot
  refine ⟨c, events, hrecounts, (fun h => nomatch h),
    (fun h => nomatch h), fun {c' key} houtdates => ?_,
    fun {key event} hmem houtdates => ?_⟩
  · obtain ⟨htouches, -⟩ := houtdates
    cases htouches with
    | reverted hchain hnested hrollback hended =>
        exact ⟨hchain.unique hc, [], _, hcleared hended (Or.inr hrollback),
          trivial⟩
    | rootEnded hchain hroot hended =>
        obtain ⟨_, _, hop, -⟩ := endedSince_step hstep hended
        cases hop
        exact ⟨hchain.unique (hrecounts.onChain hc), [], _,
          hcleared hended (Or.inl (hparent.symm.trans hroot)), trivial⟩
  · rcases hevents with ⟨hclears, rfl⟩ | ⟨-, rfl⟩
    · obtain ⟨hended, -, hroot | ⟨hnested, hrollback⟩⟩ :=
        Session.endedSince_of_clears hconsistent hstep hclears
      · exact .rootEnded (hrecounts.onChain hc) (hparent.trans hroot) hended
      · exact .reverted hc hnested hrollback hended
    · cases hmem

variable (schema) in
/-- Operations are accounted for. -/
theorem Kept.exists_accounts_operation (h : d.Kept) (op : Operation) :
    ∃ c events, d.Accounts schema (.operation op) c events := by
  by_cases hhas : d.has op = true
  · have hserve := serve_operation schema hhas
    -- what begins is no event
    have hbeginning : ∀ {c : ChainId}, (∀ t how, op ≠ .ending t how) →
        (∀ t st, op ≠ .statement t st) →
        Recounts schema d.session.holdings c []
          (d.session.perform schema op).holdings →
        ∃ c events, d.Accounts schema (.operation op) c events := by
      intro c hending hstatement hrecounts
      refine ⟨c, [], accounts_of_untouched (hserve ▸ hrecounts)
        (h.not_touches_beginning hhas hending hstatement)
        (fun _ => List.forall_mem_nil _) (fun c' key i hyields => ?_)
        fun c' e hsees => ?_⟩
      · cases hyields with
        | statement => exact hstatement _ _ rfl
      · cases hsees with
        | statement => exact absurd rfl (hstatement _ _)
    cases op with
    | begin readOnly =>
        obtain ⟨_, hrecounts, -, rfl, -⟩ := told_ignoring
          (told_begin schema d.session readOnly)
        exact hbeginning (fun _ _ => nofun) (fun _ _ => nofun) hrecounts
    | beginNested parent =>
        obtain ⟨_, hrecounts, -, rfl⟩ := told_ignoring
          (told_beginNested schema d.session parent 0)
        exact hbeginning (fun _ _ => nofun) (fun _ _ => nofun) hrecounts
    | ending t how => exact h.exists_accounts_ending hhas
    | statement t st => exact h.exists_accounts_statement hhas
  · exact ⟨0, [], accounts_of_not_has hhas⟩

end Desk

end DataAccess
