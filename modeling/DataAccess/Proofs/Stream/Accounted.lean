/-
Every run has an account. What a stream does is accounted for by what it reads
and by the end of its transaction (`accounts_of_streamed`), so there is an
account of whatever is asked for (`Kept.exists_accounts`); and the accounts of
requests, one after the other, are the history of each cache
(`Accounted.retraces`).
-/
import DataAccess.Proofs.Stream.Account

namespace DataAccess

open DataAccess.Action Ledger

namespace Desk

variable {σ α : Type} {schema : Schema} {d : Desk} {request : Request}
  {c : ChainId} {t : TransactionId} {i : Nat} {x : AnyStream}
  {y : Option AnyStream} {s : Session}
  {events : List (CacheEvent InstanceId)}

-- ================================================================= streams

/-- The mappers of the streams do nothing but read. -/
def Browsing (schema : Schema) (d : Desk) : Prop :=
  ∀ {i x}, d.stream? i = some x → x.stream.Browses schema fun _ _ => True

/-- A stream is replaced by one whose mapper reads, or by none. -/
theorem Browsing.replaced (h : d.Browsing schema) (hx : d.stream? i = some x)
    (hy : ∀ z ∈ y, z.stream.Browses schema fun _ _ => True) :
    (d.replaced i s y).Browsing schema := by
  intro j z hz
  by_cases hj : j = i
  · subst hj
    rw [stream?_replaced hx] at hz
    exact hy z hz
  · rw [stream?_replaced_ne hj] at hz
    exact h hz

/-- A stream whose mapper reads may be added. -/
theorem Browsing.added (h : d.Browsing schema)
    (hx : x.stream.Browses schema fun _ _ => True) :
    Browsing schema
      { d with session := s, streams := d.streams ++ [some x] } := by
  intro j z hz
  rw [d.stream?_added s x] at hz
  split at hz
  · cases hz
    exact hx
  · exact h hz

/-- Whatever is asked of a stream, it touches something only if it ends a
root. -/
theorem ended_of_touches {key : CacheKey}
    (hoperation : ∀ op, request ≠ .operation op)
    (h : d.Touches schema c key request) :
    ∃ u, (d.serve schema request).session.holdings.OnChain u c
      ∧ d.session.ledger.EndedSince
        (d.serve schema request).session.ledger u := by
  cases h with
  | written => exact absurd rfl (hoperation _)
  | reverted => exact absurd rfl (hoperation _)
  | rootEnded hchain _ hended => exact ⟨_, hchain, hended⟩

/-- Streams hand out no shared instances. -/
theorem not_yields_of_stream (hoperation : ∀ op, request ≠ .operation op)
    (c : ChainId) (key : CacheKey) (i : InstanceId) :
    ¬ d.Yields schema c key i request := by
  rintro ⟨⟩
  exact hoperation _ rfl

/-- A stream that is not there, or done, does nothing. -/
theorem accounts_of_idle (hoperation : ∀ op, request ≠ .operation op)
    (hsession : (d.serve schema request).session = s)
    (hrecounts : Recounts schema d.session.holdings c [] s.holdings)
    (hsame : s.ledger.transactions = d.session.ledger.transactions)
    (hsees : ∀ c' e, ¬ d.Sees schema c' e request) :
    d.Accounts schema request c [] := by
  subst hsession
  refine accounts_of_untouched hrecounts (fun c' key htouches => ?_)
    (fun _ => List.forall_mem_nil _) (not_yields_of_stream hoperation)
    fun c' e h => absurd h (hsees c' e)
  obtain ⟨u, -, hended⟩ := ended_of_touches hoperation htouches
  exact not_endedSince hsame hended

/-- A stream goes on, or gives everything back. Its transaction may have begun
meanwhile. -/
theorem accounts_of_streamed (hoperation : ∀ op, request ≠ .operation op)
    {l : Ledger} {n : Nat} {display : String} {x : Option TransactionId}
    (hsession : (d.serve schema request).session = s)
    (hhosts : l.Hosts t n display) (hconsistent : l.Consistent)
    (hstreamed : l.Streamed t n x s.ledger)
    (hsince : ∀ u, l.EndedSince s.ledger u
      ↔ d.session.ledger.EndedSince s.ledger u)
    (hrecounts : Recounts schema d.session.holdings c events s.holdings)
    (hchain : s.holdings.OnChain t c)
    (hends : x ≠ none ∧ ReadingOnly events
      ∨ x = none ∧ ∃ before, events = before ++ [.cleared])
    (hsees : ∀ c' e, d.Sees schema c' e request →
      c' = c ∧ Sighted schema e events) :
    d.Accounts schema request c events := by
  subst hsession
  have hopen := hhosts.ends.isOpen
  have hended : ∀ u, d.session.ledger.EndedSince
      (d.serve schema request).session.ledger u ↔ u = t ∧ x = none :=
    fun u => (hsince u).symm.trans (hstreamed.endedSince_iff hopen)
  rcases hends with ⟨hgoing, hreading⟩ | ⟨hgone, before, rfl⟩
  · refine accounts_of_untouched hrecounts (fun c' key htouches => ?_)
      hreading.not_outdates (not_yields_of_stream hoperation) hsees
    obtain ⟨u, -, hended'⟩ := ended_of_touches hoperation htouches
    exact hgoing ((hended u).mp hended').2
  · have hroot := (later_streamed hstreamed).parent t
    rw [(hconsistent.nesting.parent_eq_none_iff hopen).mpr hhosts.root]
      at hroot
    refine ⟨hrecounts,
      fun hyields => absurd hyields (not_yields_of_stream hoperation _ _ _),
      fun h => hsees _ _ h, fun houtdates => ?_,
      fun _ _ => .rootEnded hchain hroot ((hended t).mpr ⟨rfl, hgone⟩)⟩
    obtain ⟨u, hu, hended'⟩ := ended_of_touches hoperation houtdates.1
    cases ((hended u).mp hended').1
    exact ⟨hu.unique hchain, before, .cleared, rfl, trivial⟩

-- --------------------------------------------------------------- next items

/-- What a stream of entities makes of a row reads as loading does. -/
theorem browses_entityMapper (schema : Schema) (b : EntityBinding)
    (row : Row) (memory : Unit) :
    Browses schema id t c
      (fun x events => EntityBinding.ofType schema b.typeName = .ok b →
        Sighted schema x.1 events)
      (QueryStream.entityMapper schema b t row memory) :=
  (browses_load row).map fun _ _ h => h

/-- What is asked of a stream of entities loads their relations. -/
theorem told_next_sees (hreads : d.Browsing schema) (h : d.Kept)
    (hx : d.stream? i = some x) (htx : x.stream.tx = some t)
    (hc : d.session.holdings.OnChain t c) {n : Nat} {display : String}
    (hhosts : d.session.ledger.Hosts t n display) :
    Told schema id c x.stream.next d.session fun r _ events =>
      ∃ item q', r = .ok (item, q') ∧ q'.mapper = x.stream.mapper
        ∧ (∀ c' e, d.Sees schema c' e (.next i) →
          c' = c ∧ Sighted schema e events)
        ∧ ((q'.tx = x.stream.tx ∧ ReadingOnly events)
          ∨ q'.tx = none ∧ ∃ before, ReadingOnly before
            ∧ events = before ++ [.cleared]) := by
  have hq := h.wellFormed hx
  by_cases hentity : ∃ (q : QueryStream Unit Entity) (b : EntityBinding),
      x = ⟨Unit, Entity, q⟩
        ∧ EntityBinding.ofType schema b.typeName = .ok b
        ∧ q.mapper = QueryStream.entityMapper schema b
  · obtain ⟨q, b, rfl, hb, hmapper⟩ := hentity
    have hbrowses : q.Browses schema fun e events =>
        Sighted schema e events := by
      intro t chain row m
      rw [hmapper]
      exact (browses_entityMapper schema b row m).imp fun _ _ h => h hb
    have htold : Told schema id c q.next d.session _ :=
      QueryStream.told_next hq hbrowses htx hc hhosts
    obtain ⟨events, hrecounts, item, q', hanswer, hsame, hitem, hends⟩ := htold
    refine ⟨events, hrecounts, item, q', hanswer, hsame, fun c' e hsees => ?_,
      hends⟩
    cases hsees with
    | next hstream hchain htx' _ _ hnext =>
        cases hx.symm.trans hstream
        cases htx.symm.trans htx'
        cases hanswer.symm.trans (EStateM.answer_of_eq_ok hnext)
        exact ⟨hchain.unique hc, hitem e rfl⟩
  · have htold : Told schema id c x.stream.next d.session _ :=
      QueryStream.told_next hq (hreads hx) htx hc hhosts
    obtain ⟨events, hrecounts, item, q', hanswer, hsame, -, hends⟩ := htold
    refine ⟨events, hrecounts, item, q', hanswer, hsame, fun c' e hsees => ?_,
      hends⟩
    cases hsees with
    | next hstream _ _ hb hmapper _ =>
        cases hx.symm.trans hstream
        exact absurd ⟨_, _, rfl, hb, hmapper⟩ hentity

/-- Asking for a row is accounted for. -/
theorem Kept.exists_accounts_next (h : d.Kept) (hreads : d.Browsing schema)
    (i : Nat) :
    ∃ c events, d.Accounts schema (.next i) c events
      ∧ (d.serve schema (.next i)).Browsing schema := by
  have hoperation : ∀ op, Request.next i ≠ .operation op := fun _ => nofun
  cases hx : d.stream? i with
  -- there is no such stream
  | none =>
      have hserve := serve_next_none schema hx
      refine ⟨0, [], accounts_of_idle hoperation
        (congrArg Desk.session hserve) (recounts_refl _ _) rfl
        fun c' e hsees => ?_, hserve.symm ▸ hreads⟩
      cases hsees with
      | next hstream => exact nomatch hx.symm.trans hstream
  | some x =>
      cases htx : x.stream.tx with
      -- the stream has given its connection back
      | none =>
          have hserve := serve_next schema hx
            (QueryStream.next_done ((h.wellFormed hx).released htx))
          refine ⟨0, [], accounts_of_idle hoperation
            (congrArg Desk.session hserve) (recounts_refl _ _) rfl
            fun c' e hsees => ?_, ?_⟩
          · cases hsees with
            | next hstream _ htx' =>
                cases hx.symm.trans hstream
                exact nomatch htx.symm.trans htx'
          · rw [hserve]
            refine hreads.replaced hx ?_
            rintro z ⟨⟩
            exact hreads hx
      -- the stream goes on: the mapper reports what it sees, and the end of
      -- the stream what it empties
      | some t =>
          obtain ⟨n, display, hhosts⟩ := h.hosts hx htx
          obtain ⟨c, hc⟩ := h.exists_onChain
            (lt_of_isOpen hhosts.ends.isOpen)
          obtain ⟨item, q', s', hnext, -, hstreamed⟩ :=
            QueryStream.next_streamed (h.wellFormed hx) htx hhosts
          have hserve := serve_next schema hx hnext
          obtain ⟨events, hrecounts, _, _, hanswer, hmapper, hsees, hends⟩ :=
            told_next_sees hreads h hx htx hc hhosts
          cases (EStateM.answer_of_eq_ok hnext).symm.trans hanswer
          rw [EStateM.after_of_eq_ok hnext] at hrecounts
          refine ⟨c, events, accounts_of_streamed hoperation
            (congrArg Desk.session hserve) hhosts h.tenancy.consistent
            hstreamed (fun u => Iff.rfl) hrecounts (hrecounts.onChain hc) ?_
            hsees, ?_⟩
          · rw [htx] at hends
            rcases hends with ⟨hgoing, hreading⟩ | ⟨hgone, before, -, hevents⟩
            · exact Or.inl ⟨hgoing ▸ nofun, hreading⟩
            · exact Or.inr ⟨hgone, before, hevents⟩
          · rw [hserve]
            refine hreads.replaced hx ?_
            rintro z ⟨⟩ t chain row m
            exact hmapper ▸ hreads hx t chain row m

-- ------------------------------------------------------------------- drops

/-- So is dropping a stream. -/
theorem Kept.exists_accounts_dropStream (h : d.Kept)
    (hreads : d.Browsing schema) (i : Nat) :
    ∃ c events, d.Accounts schema (.dropStream i) c events
      ∧ (d.serve schema (.dropStream i)).Browsing schema := by
  have hoperation : ∀ op, Request.dropStream i ≠ .operation op :=
    fun _ => nofun
  cases hx : d.stream? i with
  | none =>
      have hserve := serve_dropStream_none schema hx
      exact ⟨0, [], accounts_of_idle hoperation (congrArg Desk.session hserve)
        (recounts_refl _ _) rfl (fun _ _ h => nomatch h),
        hserve.symm ▸ hreads⟩
  | some x =>
      have hserve := serve_dropStream schema hx
      have hbrowsing : (d.serve schema (.dropStream i)).Browsing schema := by
        rw [hserve]
        refine hreads.replaced hx ?_
        rintro z ⟨⟩
      cases htx : x.stream.tx with
      | none =>
          rw [EStateM.after_of_eq_ok (QueryStream.drop_released htx)] at hserve
          exact ⟨0, [], accounts_of_idle hoperation
            (congrArg Desk.session hserve) (recounts_refl _ _) rfl
            (fun _ _ h => nomatch h), hbrowsing⟩
      -- the stream goes on: its end empties the cache and nothing is put
      | some t =>
          obtain ⟨n, display, hhosts⟩ := h.hosts hx htx
          obtain ⟨c, hc⟩ := h.exists_onChain
            (lt_of_isOpen hhosts.ends.isOpen)
          obtain ⟨_, hrecounts, rfl⟩ :=
            QueryStream.told_drop schema htx hc hhosts
          exact ⟨c, _, accounts_of_streamed hoperation
            (congrArg Desk.session hserve) hhosts h.tenancy.consistent
            (QueryStream.drop_streamed htx hhosts) (fun u => Iff.rfl) hrecounts
            (hrecounts.onChain hc) (Or.inr ⟨rfl, [], rfl⟩)
            (fun _ _ h => nomatch h), hbrowsing⟩

-- ------------------------------------------------------------------ opening

/-- A request to open a stream. -/
structure Opening (schema : Schema) (d : Desk) (request : Request)
    (a : Action (QueryStream σ α)) : Prop where
  serve : d.serve schema request = d.opened a
  operation : ∀ op, request ≠ .operation op
  next : ∀ i, request ≠ .next i

section

variable {sql : String} {params : Params} {b : BoundStatement}
  {mapper : TransactionId → Row → σ → Action (α × σ)} {memory : σ}
  {a : Action (QueryStream σ α)} {s₁ : Session} {e : Error}

/-- Opening a stream shows no entity. -/
theorem Opening.not_sees (ho : Opening schema d request a) (c : ChainId)
    (e : Entity) : ¬ d.Sees schema c e request := by
  intro hsees
  cases hsees with
  | statement => exact ho.operation _ rfl
  | next => exact ho.next _ rfl

/-- A stream for which nothing begins is none. -/
theorem Opening.exists_accounts_failed (ho : Opening schema d request a)
    (hreads : d.Browsing schema) (hopen : a d.session = .error e s)
    (hrecounts : Recounts schema d.session.holdings c [] s.holdings)
    (hsame : s.ledger.transactions = d.session.ledger.transactions) :
    ∃ c events, d.Accounts schema request c events
      ∧ (d.serve schema request).Browsing schema := by
  have hserve : d.serve schema request = { d with session := s } := by
    rw [ho.serve]
    unfold opened
    rw [hopen]
  exact ⟨c, [], accounts_of_idle ho.operation (congrArg Desk.session hserve)
    hrecounts hsame ho.not_sees, hserve.symm ▸ hreads⟩

/-- A stream whose transaction begins has it for now, or ends it at once. -/
theorem Opening.exists_accounts_begun
    (ho : Opening schema d request (QueryStream.openBound b mapper memory))
    (h : d.Kept) (hreads : d.Browsing schema) (hpassive : Passive mapper)
    (hmapper : ∀ t chain row m,
      Browses schema id t chain (fun _ _ => True) (mapper t row m))
    (hbegun : Action.begin true d.session = .ok t s₁)
    (hledger₁ : s₁.ledger = d.session.ledger.begun true)
    (ht : t = d.session.ledger.transactions.length) :
    ∃ c events, d.Accounts schema request c events
      ∧ (d.serve schema request).Browsing schema := by
  subst ht
  have hhosts := Hosts.begun d.session.ledger
  have hconsistent : s₁.ledger.Consistent := by
    rw [hledger₁]
    exact consistent_step h.tenancy.consistent (.begun true)
  rw [← hledger₁] at hhosts
  obtain ⟨events, hrecounts, hchain, hanswer⟩ : Told schema id _
    (QueryStream.openBound b mapper memory) d.session _ :=
    QueryStream.told_openBound hbegun hhosts
  -- what ended since the transaction began ended since the request
  have hsince : ∀ (l : Ledger) u,
      s₁.ledger.EndedSince l u ↔ d.session.ledger.EndedSince l u := by
    intro l u
    rw [hledger₁]
    exact endedSince_concat rfl rfl
  rcases (QueryStream.openBound_streamed hpassive hbegun hhosts :
      (∃ e s', QueryStream.openBound b mapper memory d.session = .error e s'
        ∧ _) ∨ _) with
    ⟨e, s', hopen, hstreamed⟩ | ⟨q, s', hopen, htx, -, hstreamed⟩
  · rw [EStateM.answer_of_eq_error hopen] at hanswer
    rw [EStateM.after_of_eq_error hopen] at hrecounts hchain
    have hserve : d.serve schema request = { d with session := s' } := by
      rw [ho.serve]
      unfold opened
      rw [hopen]
    refine ⟨d.session.holdings.caches.length, events, accounts_of_streamed
      ho.operation (congrArg Desk.session hserve) hhosts hconsistent hstreamed
      (hsince _) hrecounts hchain ?_ fun c' e h => absurd h (ho.not_sees c' e),
      hserve.symm ▸ hreads⟩
    rcases hanswer with ⟨-, q, hq, -⟩ | ⟨hevents, -⟩
    · cases hq
    · exact Or.inr ⟨rfl, [], hevents⟩
  · rw [EStateM.answer_of_eq_ok hopen] at hanswer
    rw [EStateM.after_of_eq_ok hopen] at hrecounts hchain
    have hserve : d.serve schema request = { d with
        session := s', streams := d.streams ++ [some ⟨σ, α, q⟩] } := by
      rw [ho.serve]
      unfold opened
      rw [hopen]
    obtain ⟨rfl, hq⟩ : events = [] ∧ q.mapper = mapper := by
      rcases hanswer with ⟨hevents, q', ⟨⟩, hq⟩ | ⟨-, e, he⟩
      · exact ⟨hevents, hq⟩
      · cases he
    refine ⟨d.session.holdings.caches.length, [], accounts_of_streamed
      ho.operation (congrArg Desk.session hserve) hhosts hconsistent hstreamed
      (hsince _) hrecounts hchain (Or.inl ⟨(nomatch ·), readingOnly_nil⟩)
      fun c' e h => absurd h (ho.not_sees c' e), ?_⟩
    rw [hserve]
    refine hreads.added fun t chain row m => ?_
    show Browses schema id t chain _ (q.mapper t row m)
    rw [hq]
    exact hmapper t chain row m

/-- Whatever becomes of a stream that is opened is accounted for. -/
theorem Opening.exists_accounts
    (ho : Opening schema d request
      (QueryStream.openMapped sql params mapper memory))
    (h : d.Kept) (hreads : d.Browsing schema) (hpassive : Passive mapper)
    (hmapper : ∀ t chain row m,
      Browses schema id t chain (fun _ _ => True) (mapper t row m)) :
    ∃ c events, d.Accounts schema request c events
      ∧ (d.serve schema request).Browsing schema := by
  cases hb : params.resolve sql with
  | error fault =>
      have hopen : QueryStream.openMapped sql params mapper memory d.session
          = .error (.database (.parameters fault)
            (QueryStream.closedContext sql)) d.session := by
        unfold QueryStream.openMapped
        rw [hb]
        rfl
      exact ho.exists_accounts_failed hreads hopen (recounts_refl _ 0) rfl
  | ok b =>
      rw [QueryStream.openMapped_resolved hb] at ho
      obtain ⟨events, hrecounts, rfl, -⟩ : Told schema id _
        (Action.begin true) d.session _ := told_begin schema _ true
      have hfailed : ∀ {e s₁}, Action.begin true d.session = .error e s₁ →
          s₁.ledger.transactions = d.session.ledger.transactions →
          ∃ c events, d.Accounts schema request c events
            ∧ (d.serve schema request).Browsing schema := by
        intro e s₁ hbegun hsame
        rw [EStateM.after_of_eq_error hbegun] at hrecounts
        exact ho.exists_accounts_failed hreads
          (QueryStream.openBound_unbegun hbegun) hrecounts hsame
      rcases begin_cases d.session true with
        ⟨failure, s₁, hbegun, hledger₁⟩
        | ⟨failure, closing, s₁, hbegun, hledger₁⟩ | ⟨s₁, hbegun, hledger₁⟩
      · exact hfailed hbegun (by rw [hledger₁]; rfl)
      · exact hfailed hbegun (by rw [hledger₁]; rfl)
      · exact ho.exists_accounts_begun h hreads hpassive hmapper hbegun
          hledger₁ rfl

end

/-- Whatever is asked for, there is an account of it. -/
theorem Kept.exists_accounts (h : d.Kept) (hreads : d.Browsing schema)
    (request : Request) :
    ∃ c events, d.Accounts schema request c events
      ∧ (d.serve schema request).Browsing schema := by
  cases request with
  | operation op =>
      obtain ⟨c, events, haccounts⟩ :=
        h.exists_accounts_operation schema op
      refine ⟨c, events, haccounts, ?_⟩
      by_cases hhas : d.has op = true
      · rw [serve_of_has schema hhas]
        exact hreads
      · rw [serve_of_not_has schema hhas]
        exact hreads
  | openRows sql params f memory =>
      refine Opening.exists_accounts ⟨rfl, fun _ => nofun, fun _ => nofun⟩ h
        hreads (passive_rows f) fun t chain row m => ?_
      exact (idle_ofExcept _).browses fun _ _ _ => trivial
  | openEntities typeName sql params =>
      cases hb : EntityBinding.ofType schema typeName with
      | error e =>
          have ho : Opening schema d (.openEntities typeName sql params)
              (QueryStream.openEntities schema typeName sql params) :=
            ⟨rfl, fun _ => nofun, fun _ => nofun⟩
          refine ho.exists_accounts_failed (e := e) (s := d.session) hreads ?_
            (recounts_refl _ 0) rfl
          unfold QueryStream.openEntities
          rw [hb]
          rfl
      | ok b =>
          have ho : Opening schema d (.openEntities typeName sql params)
              (QueryStream.openMapped sql params
                (QueryStream.entityMapper schema b) ()) :=
            ⟨serve_openEntities hb sql params, fun _ => nofun, fun _ => nofun⟩
          refine ho.exists_accounts h hreads (passive_entityMapper schema b)
            fun t chain row m => ?_
          exact (browses_entityMapper schema b row m).imp fun _ _ _ => trivial
  | next i => exact h.exists_accounts_next hreads i
  | dropStream i => exact h.exists_accounts_dropStream hreads i

-- ==================================================================== runs

/-- Requests are served one after the other. -/
theorem serveAll_append (schema : Schema) (d : Desk)
    (requests requests' : List Request) :
    d.serveAll schema (requests ++ requests')
      = (d.serveAll schema requests).serveAll schema requests' := by
  induction requests generalizing d with
  | nil => rfl
  | cons request requests ih => exact ih (d.serve schema request)

end Desk

/-- A request of a run, the chain that it is on, and what is done with the
cache of that chain meanwhile. -/
structure Entry where
  request : Request
  chain : ChainId
  events : List (CacheEvent InstanceId)

namespace Entry

/-- What is done with the cache of a chain. -/
def on (c : ChainId) (x : Entry) : List (CacheEvent InstanceId) :=
  if x.chain = c then x.events else []

/-- What is done with the cache of a chain, from entry to entry. -/
def history (c : ChainId) (xs : List Entry) : List (CacheEvent InstanceId) :=
  xs.flatMap (on c)

@[simp] theorem history_append (c : ChainId) (xs ys : List Entry) :
    history c (xs ++ ys) = history c xs ++ history c ys :=
  List.flatMap_append

@[simp] theorem history_cons (c : ChainId) (x : Entry) (xs : List Entry) :
    history c (x :: xs) = x.on c ++ history c xs :=
  List.flatMap_cons

end Entry

namespace Desk

open Entry

variable {schema : Schema} {d : Desk} {c : ChainId} {xs ys : List Entry}
  {x : Entry}

/-- The desk after what entries tell of. -/
def after (schema : Schema) (d : Desk) (xs : List Entry) : Desk :=
  d.serveAll schema (xs.map (·.request))

/-- Entries give an account of what is asked for, one after the other. -/
def Accounted (schema : Schema) : Desk → List Entry → Prop
  | _, [] => True
  | d, x :: xs => d.Accounts schema x.request x.chain x.events
    ∧ Accounted schema (d.serve schema x.request) xs

/-- So are the entries of a history. -/
theorem after_append :
    d.after schema (xs ++ ys) = (d.after schema xs).after schema ys := by
  unfold after
  rw [List.map_append, serveAll_append]

/-- A history is accounted for part by part. -/
theorem accounted_append :
    d.Accounted schema (xs ++ ys)
      ↔ d.Accounted schema xs ∧ (d.after schema xs).Accounted schema ys := by
  induction xs generalizing d with
  | nil => exact (and_iff_right trivial).symm
  | cons x xs ih => exact (and_congr_right' ih).trans and_assoc.symm

/-- Whatever is asked for, one thing after the other, there is an account of
it. -/
theorem Kept.exists_accounted (h : d.Kept) (hreads : d.Browsing schema)
    (requests : List Request) :
    ∃ xs : List Entry, xs.map (·.request) = requests
      ∧ d.Accounted schema xs := by
  induction requests generalizing d with
  | nil => exact ⟨[], rfl, trivial⟩
  | cons request requests ih =>
      obtain ⟨c, events, haccounts, hreads'⟩ :=
        h.exists_accounts hreads request
      obtain ⟨xs, hxs, haccounted⟩ := ih (h.serve schema request) hreads'
      exact ⟨⟨request, c, events⟩ :: xs, congrArg (request :: ·) hxs,
        haccounts, haccounted⟩

/-- The history of a cache tells how it came about. -/
theorem Accounted.retraces (h : d.Accounted schema xs) (c : ChainId) :
    Retraces schema d.session.holdings c (history c xs)
      (d.after schema xs).session.holdings := by
  induction xs generalizing d with
  | nil => exact retraces_refl _ c
  | cons x xs ih =>
      obtain ⟨haccounts, haccounted⟩ := h
      have hx : Retraces schema d.session.holdings c (x.on c)
          (d.serve schema x.request).session.holdings := by
        unfold Entry.on
        split
        · next hc => exact hc ▸ haccounts.recounts.toRetraces
        · next hc => exact haccounts.recounts.retraces_elsewhere (Ne.symm hc)
      rw [history_cons]
      exact hx.trans (ih haccounted)

/-- What a caller has that has just begun. -/
theorem browsing_ofSession (schema : Schema) (s : Session) :
    (ofSession s).Browsing schema :=
  fun h => nomatch h

/-- In a fresh session all caches are empty. -/
theorem cache_of_fresh {s : Session} (h : s.Fresh) (c : ChainId) :
    s.holdings.cache c = .empty s.config.identityCacheCapacity := by
  unfold Session.holdings Holdings.cache
  simp only [h.chains, List.map_nil, List.getElem?_nil, Option.getD_none]

end Desk

end DataAccess
