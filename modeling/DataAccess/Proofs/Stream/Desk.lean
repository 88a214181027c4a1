/-
What a caller does with a session: it asks for operations on transactions that
it has handles of, and it opens streams, asks them for items, and drops them.
`Desk` is what it has, and `Desk.serve` what becomes of it.

What can come of a request is one of a few things (`Kept.served`), and what is
kept is proved of each of these. Whatever is asked, and whatever the driver
does, the tenancy is: a stream that is being read has a transaction of its own,
one that is done has none, and nothing is open that nobody has (`Kept.serve`).
What ends without an explicit request ends as it was begun (`Kept.onward`).

A stream does one of three things with its transaction. It calls and goes on;
it gives everything back, as `QueryStream.release` does; or, when it is done,
it does nothing. `Streamed` holds of the first two, and the proofs about
streams come down to it.
-/
import DataAccess.Proofs.Stream.Tenancy

namespace DataAccess

open DataAccess.Action Ledger

variable {σ α : Type}

-- ================================================================= streams

namespace QueryStream

variable {q : QueryStream σ α} {s s₁ s' : Session} {t : TransactionId} {c : Nat}
  {display : String}

/-- A stream as a caller can have it: it is being read, or it is done. -/
structure WellFormed (q : QueryStream σ α) : Prop where
  passive : Passive q.mapper
  reading : ∀ t, q.tx = some t → q.done = false
    ∧ (∃ cursor, q.cursor = some cursor)
    ∧ ∃ resolver, q.resolver = some resolver
  released : q.tx = none → q.done = true

/-- A stream that was given back holds nothing. -/
theorem wellFormed_released (h : Passive q.mapper) :
    ({ q with done := true } : QueryStream σ α).released.WellFormed :=
  ⟨h, (fun _ h => nomatch h), fun _ => rfl⟩

/-- What was called, and a release. -/
theorem streamed_of_release (h : s.ledger.Hosts t c display)
    {entries : List CallRecord}
    (hadmits : ∀ entry ∈ entries, s.ledger.Admits t entry)
    (hledger₁ : s₁.ledger = s.ledger.record entries) {f : Returning}
    (hledger : s'.ledger
      = (s₁.ledger.record ((q.lease c display).closings f)).rootEnded t
        ((q.lease c display).endings f)) :
    s.ledger.Streamed t c none s'.ledger := by
  have hclosings : ∀ entry ∈ (q.lease c display).closings f,
      s.ledger.Admits t entry := h.admits_closings f
  rw [hledger, hledger₁, record_record]
  refine .gone (fun entry hentry => ?_) f.ended f.closed
  rcases List.mem_append.mp hentry with hentry | hentry
  · exact hadmits entry hentry
  · exact hclosings entry hentry

/-- A stream that is asked for an item fetches a row, and goes on or gives
everything back. -/
theorem next_streamed (hq : q.WellFormed) (htx : q.tx = some t)
    (h : s.ledger.Hosts t c display) :
    ∃ item q' s', q.next s = .ok (item, q') s' ∧ q'.WellFormed
      ∧ s.ledger.Streamed t c q'.tx s'.ledger := by
  obtain ⟨hdone, ⟨cursor, hcursor⟩, resolver, hresolver⟩ := hq.reading t htx
  have hfetched := s.ledger_fetched c cursor
  have hadmits : ∀ entry ∈ [(⟨some c, .fetch cursor,
      Driver.failureOf ((Driver.fetch c cursor).answer s.driver)⟩
      : CallRecord)], s.ledger.Admits t entry :=
    h.admits (by simp [Call.isWork, Call.isWrite])
  have hreleased := wellFormed_released hq.passive
  cases hanswer : (Driver.fetch c cursor).answer s.driver with
  -- in three of the four cases the stream gives everything back
  | error failure =>
      obtain ⟨f, s', hnext, hledger⟩ :=
        next_unfetched htx hcursor hresolver hdone h hanswer
      exact ⟨_, _, s', hnext, hreleased,
        streamed_of_release h hadmits hfetched hledger⟩
  | ok values =>
      cases values with
      | none =>
          obtain ⟨f, s', hnext, hledger⟩ :=
            next_exhausted htx hcursor hresolver hdone h hanswer
          exact ⟨_, _, s', hnext, hreleased,
            streamed_of_release h hadmits hfetched hledger⟩
      | some values =>
          cases hmade : makeRow q.mapper t resolver values q.memory
              (s.fetched c cursor) with
          | error e s₁ =>
              obtain ⟨f, s', hnext, hledger⟩ := next_unmade htx hcursor
                hresolver hdone h hq.passive hanswer hmade
              exact ⟨_, _, s', hnext, hreleased,
                streamed_of_release h hadmits hfetched hledger⟩
          -- only a row that is made keeps it going
          | ok x s₁ =>
              obtain ⟨hnext, hledger₁, -⟩ := next_made htx hcursor hresolver
                hdone h hq.passive hanswer hmade
              refine ⟨_, _, s₁, hnext,
                ⟨hq.passive, hq.reading, hq.released⟩, ?_⟩
              rw [hledger₁, hfetched]
              show s.ledger.Streamed t c q.tx _
              rw [htx]
              exact .going hadmits

/-- Dropping a stream ends its transaction. -/
theorem drop_streamed (htx : q.tx = some t) (h : s.ledger.Hosts t c display) :
    s.ledger.Streamed t c none (q.drop.after s).ledger := by
  obtain ⟨f, s', hdrop, hledger⟩ := drop_runs htx h
  rw [EStateM.after_of_eq_ok hdrop]
  exact streamed_of_release h (List.forall_mem_nil _) s.ledger.record_nil.symm
    hledger

/-- A stream that has a transaction is opened, or it gives back what it
has. -/
theorem openBound_streamed {b : BoundStatement}
    {mapper : TransactionId → Row → σ → Action (α × σ)} {memory : σ}
    (hpassive : Passive mapper) (hbegun : Action.begin true s = .ok t s₁)
    (h : s₁.ledger.Hosts t c display) :
    (∃ e s', openBound b mapper memory s = .error e s'
      ∧ s₁.ledger.Streamed t c none s'.ledger)
    ∨ ∃ q s', openBound b mapper memory s = .ok q s' ∧ q.WellFormed
      ∧ q.tx = some t ∧ s₁.ledger.Streamed t c (some t) s'.ledger := by
  rcases acquire_cases (q := started b mapper memory t) h b.params with
    ⟨failure, s₂, hacquired, hledger₂⟩ | ⟨failure, s₂, hacquired, hledger₂⟩
    | ⟨s₂, hacquired, hledger₂, -⟩
  · obtain ⟨f, s₃, hreleased, hledger₃⟩ := release_runs
      (q := started b mapper memory t) rfl (h.of_record hledger₂)
    refine Or.inl ⟨_, s₃, openBound_unacquired hbegun hacquired hreleased,
      streamed_of_release h (h.admits ?_) hledger₂ hledger₃⟩
    simp [Call.isWork, Call.isWrite]
  · obtain ⟨f, s₃, hreleased, hledger₃⟩ := release_runs
      (q := { started b mapper memory t with
        statement := some (s₁.driver.lastHandle + 1) })
      rfl (h.of_record hledger₂)
    refine Or.inl ⟨_, s₃, openBound_unacquired hbegun hacquired hreleased,
      streamed_of_release h (h.admits ?_) hledger₂ hledger₃⟩
    simp [Call.isWork, Call.isWrite]
  · refine Or.inr ⟨_, s₂, openBound_acquired hbegun hacquired, ?_, rfl, ?_⟩
    · exact ⟨hpassive, fun _ _ => ⟨rfl, ⟨_, rfl⟩, _, rfl⟩, (fun h => nomatch h)⟩
    · rw [hledger₂]
      exact .going (h.admits (by simp [Call.isWork, Call.isWrite]))

end QueryStream

/-- A stream of items of any kind. -/
structure AnyStream where
  State : Type
  Item : Type
  stream : QueryStream State Item

-- ================================================================== desks

/-- What a caller has: a session, handles of the transactions it began, and the
streams it opened, until they are dropped. -/
structure Desk where
  session : Session
  handles : List TransactionId
  streams : List (Option AnyStream)

/-- What a caller can ask for. A stream of records is one of rows. -/
inductive Request where
  | operation (op : Operation)
  | openRows {σ α : Type} (sql : String) (params : Params)
      (f : Row → σ → Except Error (α × σ)) (memory : σ)
  | openEntities (typeName sql : String) (params : Params)
  | next (i : Nat)
  | dropStream (i : Nat)

/-- A request to commit or to roll back. -/
def Request.isExplicitEnd : Request → Bool
  | .operation op => op.isExplicitEnd
  | _ => false

namespace Desk

variable (d : Desk)

/-- A stream that was not dropped. -/
def stream? (i : Nat) : Option AnyStream :=
  d.streams[i]?.join

def tenant? (i : Nat) : Option TransactionId :=
  (d.stream? i).bind fun x => x.stream.tx

/-- Whether the caller has a handle of what an operation is on. -/
def has (op : Operation) : Bool :=
  op.target?.all fun t => d.handles.contains t

/-- The desk when something has become of a stream. -/
def replaced (i : Nat) (s : Session) (x : Option AnyStream) : Desk :=
  { d with session := s, streams := d.streams.set i x }

/-- The desk after a stream was opened, or was not. -/
def opened (a : Action (QueryStream σ α)) : Desk :=
  match a d.session with
  | .ok q s =>
    { d with session := s, streams := d.streams ++ [some ⟨σ, α, q⟩] }
  | .error _ s => { d with session := s }

/-- Does what is asked. The caller gets handles of what begins. -/
def serve (schema : Schema) : Request → Desk
  | .operation op =>
    if d.has op then
      let s := d.session.perform schema op
      { d with
        session := s
        handles := d.handles ++ d.session.ledger.begunSince s.ledger }
    else d
  | .openRows sql params f memory =>
    d.opened (QueryStream.openRows sql params f memory)
  | .openEntities typeName sql params =>
    d.opened (QueryStream.openEntities schema typeName sql params)
  | .next i =>
    match d.stream? i with
    | none => d
    | some x =>
      match x.stream.next d.session with
      | .ok (_, q) s => d.replaced i s (some ⟨_, _, q⟩)
      | .error _ s => { d with session := s }
  | .dropStream i =>
    match d.stream? i with
    | none => d
    | some x => d.replaced i (x.stream.drop.after d.session) none

/-- Does what is asked, one thing after the other. -/
def serveAll (schema : Schema) : Desk → List Request → Desk
  | d, [] => d
  | d, request :: requests => serveAll schema (d.serve schema request) requests

/-- The desk of a caller that has nothing but a session. -/
def ofSession (s : Session) : Desk :=
  ⟨s, [], []⟩

-- ============================================================ what is kept

/-- What holds of a desk at any time. -/
structure Kept (d : Desk) : Prop where
  tenancy : d.session.ledger.Tenancy d.handles d.tenant?
  wellFormed : ∀ {i : Nat} {x : AnyStream}, d.stream? i = some x →
    x.stream.WellFormed

/-- A desk later on: what holds still holds, and what ended since ended as it
was begun. -/
structure Onward (d d' : Desk) : Prop where
  kept : d'.Kept
  implied : d.session.ledger.Implied d'.session.ledger

variable {d} {d' : Desk} {i : Nat} {x : AnyStream} {y : Option AnyStream}
  {s : Session} {t : TransactionId}

/-- The stream that is put in place is there. -/
theorem stream?_replaced (hx : d.stream? i = some x) :
    (d.replaced i s y).stream? i = y := by
  have hlt : i < d.streams.length := by
    refine Nat.lt_of_not_le fun hle => ?_
    unfold stream? at hx
    rw [List.getElem?_eq_none hle] at hx
    cases hx
  unfold stream? replaced
  rw [List.getElem?_set_self hlt]
  rfl

/-- All others are where they were. -/
theorem stream?_replaced_ne {j : Nat} (hj : j ≠ i) :
    (d.replaced i s y).stream? j = d.stream? j := by
  unfold stream? replaced
  rw [List.getElem?_set_ne (Ne.symm hj)]

/-- So are their transactions. -/
theorem tenant?_replaced_ne {j : Nat} (hj : j ≠ i) :
    (d.replaced i s y).tenant? j = d.tenant? j := by
  unfold tenant?
  rw [stream?_replaced_ne hj]

/-- A stream that is added stands last. -/
theorem stream?_added (s : Session) (x : AnyStream) (j : Nat) :
    (Desk.mk s d.handles (d.streams ++ [some x])).stream? j
      = if j = d.streams.length then some x else d.stream? j := by
  show (d.streams ++ [some x])[j]?.join = _
  rw [getElem?_concat_eq]
  split <;> rfl

/-- All streams are well-formed after one is replaced by one that is. -/
theorem Kept.wellFormed_replaced (h : d.Kept) (hx : d.stream? i = some x)
    (hy : ∀ z ∈ y, z.stream.WellFormed) {j : Nat} {z : AnyStream}
    (hz : (d.replaced i s y).stream? j = some z) : z.stream.WellFormed := by
  by_cases hj : j = i
  · subst hj
    rw [stream?_replaced hx] at hz
    exact hy z hz
  · rw [stream?_replaced_ne hj] at hz
    exact h.wellFormed hz

/-- The transaction of a stream is a host to it. -/
theorem Kept.hosts (h : d.Kept) (hx : d.stream? i = some x)
    (htx : x.stream.tx = some t) :
    ∃ c display, d.session.ledger.Hosts t c display := by
  refine h.tenancy.hosts (i := i) ?_
  unfold tenant?
  rw [hx]
  exact htx

/-- A stream that has a transaction does something. -/
theorem Kept.replaced (h : d.Kept) (hx : d.stream? i = some x)
    (htx : x.stream.tx = some t) {c : Nat} {display : String}
    (hhosts : d.session.ledger.Hosts t c display)
    (hy : ∀ z ∈ y, z.stream.WellFormed)
    (hstreamed : d.session.ledger.Streamed t c
      (y.bind fun z => z.stream.tx) s.ledger) :
    d.Onward (d.replaced i s y) := by
  have hi : d.tenant? i = some t := by
    unfold tenant?
    rw [hx]
    exact htx
  have hnew : (d.replaced i s y).tenant? i = y.bind fun z => z.stream.tx := by
    unfold tenant?
    rw [stream?_replaced hx]
  obtain ⟨htenancy, himplied⟩ := h.tenancy.streamed hi hhosts hstreamed hnew
    fun j hj => tenant?_replaced_ne hj
  exact ⟨⟨htenancy, h.wellFormed_replaced hx hy⟩, himplied⟩

/-- A stream that was given back can stay or be taken away. -/
theorem Kept.replaced_released (h : d.Kept) (hx : d.stream? i = some x)
    (htx : x.stream.tx = none) (hy : ∀ z ∈ y, z = x) :
    d.Onward (d.replaced i d.session y) := by
  have htenant : (d.replaced i d.session y).tenant? = d.tenant? := by
    funext j
    by_cases hj : j = i
    · subst hj
      unfold tenant?
      rw [stream?_replaced hx, hx]
      cases y with
      | none => exact htx.symm
      | some z => rw [hy z rfl]
    · exact tenant?_replaced_ne hj
  refine ⟨⟨?_, h.wellFormed_replaced hx ?_⟩, .refl _⟩
  · rw [htenant]
    exact h.tenancy
  · intro z hz
    rw [hy z hz]
    exact h.wellFormed hx

variable {b : BoundStatement}
  {mapper : TransactionId → Row → σ → Action (α × σ)} {memory : σ}
  {s₁ : Session}

/-- A stream whose transaction does not begin is none. -/
theorem Kept.opened_unbegun (h : d.Kept) {e : Error}
    (hbegun : Action.begin true d.session = .error e s₁)
    (hstep : Step d.session.ledger (.begin true) s₁.ledger)
    (hlength : s₁.ledger.transactions.length
      = d.session.ledger.transactions.length) :
    d.Onward (d.opened (QueryStream.openBound b mapper memory)) := by
  have htenancy := h.tenancy.operation hstep (fun _ h => nomatch h)
  rw [begunSince_of_length_eq hlength, List.append_nil] at htenancy
  unfold Desk.opened
  rw [QueryStream.openBound_unbegun hbegun]
  exact ⟨⟨htenancy, h.wellFormed⟩, implied_step h.tenancy.conducted rfl hstep⟩

/-- A stream whose transaction begins has it for now, or ends it at once. -/
theorem Kept.opened_begun (h : d.Kept) (hpassive : Passive mapper)
    (hbegun : Action.begin true d.session
      = .ok d.session.ledger.transactions.length s₁)
    (hledger₁ : s₁.ledger = d.session.ledger.begun true) :
    d.Onward (d.opened (QueryStream.openBound b mapper memory)) := by
  have hnone : d.tenant? d.streams.length = none := by
    unfold tenant? stream?
    rw [List.getElem?_eq_none (Nat.le_refl _)]
    rfl
  have himplied : d.session.ledger.Implied s₁.ledger := by
    rw [hledger₁]
    exact implied_step h.tenancy.conducted rfl (.begun true)
  -- for now the transaction is that of the next place
  have hhosting := h.tenancy.hosting hnone (Function.update_self ..)
    fun j hj => Function.update_of_ne hj (some _) d.tenant?
  have hhosts := Hosts.begun d.session.ledger
  rw [← hledger₁] at hhosting hhosts
  unfold Desk.opened
  rcases QueryStream.openBound_streamed hpassive hbegun hhosts with
    ⟨e, s', hopen, hstreamed⟩ | ⟨q, s', hopen, hq, htx, hstreamed⟩ <;>
    rw [hopen]
  · obtain ⟨htenancy, hends⟩ := hhosting.streamed (Function.update_self ..)
      hhosts hstreamed hnone
      fun j hj => (Function.update_of_ne hj _ d.tenant?).symm
    exact ⟨⟨htenancy, h.wellFormed⟩, himplied.trans hends⟩
  · have hadded := d.stream?_added s' ⟨σ, α, q⟩
    have hnew : (Desk.mk s' d.handles
        (d.streams ++ [some ⟨σ, α, q⟩])).tenant? d.streams.length
          = some d.session.ledger.transactions.length := by
      unfold tenant?
      rw [hadded, if_pos rfl]
      exact htx
    obtain ⟨htenancy, hends⟩ := hhosting.streamed (Function.update_self ..)
      hhosts hstreamed hnew fun j hj => by
        unfold tenant?
        rw [hadded, if_neg hj, Function.update_of_ne hj]
    refine ⟨⟨htenancy, fun {j z} hz => ?_⟩, himplied.trans hends⟩
    rw [hadded] at hz
    split at hz
    · cases hz
      exact hq
    · exact h.wellFormed hz

/-- A stream is opened, or everything is given back. -/
theorem Kept.opened (h : d.Kept) (hpassive : Passive mapper) (sql : String)
    (params : Params) (memory : σ) :
    d.Onward (d.opened (QueryStream.openMapped sql params mapper memory)) := by
  cases hb : params.resolve sql with
  | error fault =>
      unfold Desk.opened QueryStream.openMapped
      rw [hb]
      exact ⟨h, .refl _⟩
  | ok b =>
      rw [QueryStream.openMapped_resolved hb]
      rcases begin_cases d.session true with
        ⟨failure, s₁, hbegun, hledger₁⟩
        | ⟨failure, closing, s₁, hbegun, hledger₁⟩ | ⟨s₁, hbegun, hledger₁⟩
      · refine h.opened_unbegun hbegun ?_ (by rw [hledger₁]; rfl)
        rw [hledger₁]
        exact .unconnected true failure
      · refine h.opened_unbegun hbegun ?_ (by rw [hledger₁]; rfl)
        rw [hledger₁]
        exact .abandoned true failure closing
      · exact h.opened_begun hpassive hbegun hledger₁

-- ================================================================ requests

/-- An operation has its transaction among the handles. -/
theorem mem_of_has {op : Operation} (h : d.has op = true)
    (ht : op.target? = some t) : t ∈ d.handles := by
  unfold has at h
  rw [ht] at h
  exact List.contains_iff_mem.mp h

/-- An operation on a transaction at hand is performed. -/
theorem serve_of_has (schema : Schema) {op : Operation} (h : d.has op = true) :
    d.serve schema (.operation op) = { d with
      session := d.session.perform schema op
      handles := d.handles ++ d.session.ledger.begunSince
        (d.session.perform schema op).ledger } := by
  unfold serve
  dsimp only
  rw [if_pos h]

/-- On any other it is not. -/
theorem serve_of_not_has (schema : Schema) {op : Operation}
    (h : ¬ d.has op = true) : d.serve schema (.operation op) = d := by
  unfold serve
  dsimp only
  rw [if_neg h]

/-- Entities of a type that is bound are streamed by a mapper of its own. -/
theorem serve_openEntities {schema : Schema} {typeName : String}
    {b : EntityBinding} (hb : EntityBinding.ofType schema typeName = .ok b)
    (sql : String) (params : Params) :
    d.serve schema (.openEntities typeName sql params)
      = d.opened (QueryStream.openMapped sql params
          (QueryStream.entityMapper schema b) ()) := by
  unfold serve QueryStream.openEntities
  dsimp only
  rw [hb]
  rfl

/-- Of any other type there are none. -/
theorem serve_openEntities_unbound {schema : Schema} {typeName : String}
    {e : Error} (hb : EntityBinding.ofType schema typeName = .error e)
    (sql : String) (params : Params) :
    d.serve schema (.openEntities typeName sql params) = d := by
  unfold serve QueryStream.openEntities
  dsimp only
  rw [hb]
  rfl

/-- Of a stream that is gone nothing is asked. -/
theorem serve_next_none (schema : Schema) (hx : d.stream? i = none) :
    d.serve schema (.next i) = d := by
  unfold serve
  dsimp only
  rw [hx]

/-- What is asked of a stream is asked of it in its place. -/
theorem serve_next (schema : Schema) {item : Option (Except Error x.Item)}
    {q' : QueryStream x.State x.Item} (hx : d.stream? i = some x)
    (hnext : x.stream.next d.session = .ok (item, q') s) :
    d.serve schema (.next i) = d.replaced i s (some ⟨_, _, q'⟩) := by
  unfold serve
  dsimp only
  rw [hx]
  dsimp only
  rw [hnext]

/-- Whether it answers or not, the session is what asking it leaves. -/
theorem session_serve_next (schema : Schema) (hx : d.stream? i = some x) :
    (d.serve schema (.next i)).session = x.stream.next.after d.session := by
  unfold serve EStateM.after
  dsimp only
  rw [hx]
  dsimp only
  cases x.stream.next d.session <;> rfl

/-- A stream that is gone is not dropped again. -/
theorem serve_dropStream_none (schema : Schema) (hx : d.stream? i = none) :
    d.serve schema (.dropStream i) = d := by
  unfold serve
  dsimp only
  rw [hx]

/-- The place of a stream that is dropped stays empty. -/
theorem serve_dropStream (schema : Schema) (hx : d.stream? i = some x) :
    d.serve schema (.dropStream i)
      = d.replaced i (x.stream.drop.after d.session) none := by
  unfold serve
  dsimp only
  rw [hx]

/-- What can come of a request: nothing, for want of a handle, of a stream or
of a type; an operation; a stream that is opened, or is not; a stream that was
given back, which stays or is taken away; or what a stream that is being read
does with its transaction. -/
inductive Served (schema : Schema) (d : Desk) : Request → Desk → Prop where
  | unserved (request : Request) : Served schema d request d
  | performed {op : Operation} (hhas : d.has op = true) :
    Served schema d (.operation op) { d with
      session := d.session.perform schema op
      handles := d.handles ++ d.session.ledger.begunSince
        (d.session.perform schema op).ledger }
  | opened {σ α : Type} {mapper : TransactionId → Row → σ → Action (α × σ)}
    (request : Request) (hpassive : Passive mapper) (sql : String)
    (params : Params) (memory : σ) :
    Served schema d request
      (d.opened (QueryStream.openMapped sql params mapper memory))
  | released {i : Nat} {x : AnyStream} {y : Option AnyStream}
    (request : Request) (hx : d.stream? i = some x)
    (htx : x.stream.tx = none) (hy : ∀ z ∈ y, z = x) :
    Served schema d request (d.replaced i d.session y)
  | streamed {i : Nat} {x : AnyStream} {y : Option AnyStream} {s : Session}
    {t : TransactionId} {c : Nat} {display : String} (request : Request)
    (hx : d.stream? i = some x) (htx : x.stream.tx = some t)
    (hhosts : d.session.ledger.Hosts t c display)
    (hy : ∀ z ∈ y, z.stream.WellFormed)
    (hstreamed : d.session.ledger.Streamed t c
      (y.bind fun z => z.stream.tx) s.ledger) :
    Served schema d request (d.replaced i s y)

/-- Asking a stream for an item. -/
theorem Kept.served_next (h : d.Kept) (schema : Schema) (i : Nat) :
    Served schema d (.next i) (d.serve schema (.next i)) := by
  cases hx : d.stream? i with
  | none =>
      rw [serve_next_none schema hx]
      exact .unserved _
  | some x =>
      cases htx : x.stream.tx with
      -- a stream that was given back has no item any more
      | none =>
          rw [serve_next schema hx
            (QueryStream.next_done ((h.wellFormed hx).released htx))]
          refine .released _ hx htx ?_
          rintro z ⟨⟩
          rfl
      | some t =>
          obtain ⟨c, display, hhosts⟩ := h.hosts hx htx
          obtain ⟨item, q', s', hnext, hq', hstreamed⟩ :=
            QueryStream.next_streamed (h.wellFormed hx) htx hhosts
          rw [serve_next schema hx hnext]
          refine .streamed _ hx htx hhosts ?_ hstreamed
          rintro z ⟨⟩
          exact hq'

/-- Dropping a stream. -/
theorem Kept.served_dropStream (h : d.Kept) (schema : Schema) (i : Nat) :
    Served schema d (.dropStream i) (d.serve schema (.dropStream i)) := by
  cases hx : d.stream? i with
  | none =>
      rw [serve_dropStream_none schema hx]
      exact .unserved _
  | some x =>
      rw [serve_dropStream schema hx]
      cases htx : x.stream.tx with
      | none =>
          rw [EStateM.after_of_eq_ok (QueryStream.drop_released htx)]
          exact .released _ hx htx fun z hz => nomatch hz
      | some t =>
          obtain ⟨c, display, hhosts⟩ := h.hosts hx htx
          exact .streamed _ hx htx hhosts (fun z hz => nomatch hz)
            (QueryStream.drop_streamed htx hhosts)

/-- Whatever is asked, one of these comes of it. -/
theorem Kept.served (h : d.Kept) (schema : Schema) (request : Request) :
    Served schema d request (d.serve schema request) := by
  cases request with
  | operation op =>
      by_cases hhas : d.has op = true
      · rw [serve_of_has schema hhas]
        exact .performed hhas
      · rw [serve_of_not_has schema hhas]
        exact .unserved _
  | openRows sql params f memory =>
      exact .opened _ (passive_rows f) sql params memory
  | openEntities typeName sql params =>
      cases hb : EntityBinding.ofType schema typeName with
      | error e =>
          rw [serve_openEntities_unbound hb]
          exact .unserved _
      | ok b =>
          rw [serve_openEntities hb]
          exact .opened _ (passive_entityMapper schema b) sql params ()
  | next i => exact h.served_next schema i
  | dropStream i => exact h.served_dropStream schema i

/-- An operation keeps a desk in order. -/
theorem Kept.performed (h : d.Kept) (schema : Schema) {op : Operation}
    (hhas : d.has op = true) :
    Kept { d with
      session := d.session.perform schema op
      handles := d.handles ++ d.session.ledger.begunSince
        (d.session.perform schema op).ledger } :=
  ⟨h.tenancy.operation
    (d.session.step_perform schema h.tenancy.consistent.connected op)
    fun _ ht => mem_of_has hhas ht, h.wellFormed⟩

/-- What holds of a desk holds of what it becomes. -/
theorem Served.kept {schema : Schema} {request : Request}
    (hserved : Served schema d request d') (h : d.Kept) : d'.Kept := by
  cases hserved with
  | unserved => exact h
  | performed hhas => exact h.performed schema hhas
  | opened _ hpassive sql params memory =>
      exact (h.opened hpassive sql params memory).kept
  | released _ hx htx hy => exact (h.replaced_released hx htx hy).kept
  | streamed _ hx htx hhosts hy hstreamed =>
      exact (h.replaced hx htx hhosts hy hstreamed).kept

/-- Whatever is asked, what holds of a desk holds afterwards. -/
theorem Kept.serve (h : d.Kept) (schema : Schema) (request : Request) :
    (d.serve schema request).Kept :=
  (h.served schema request).kept h

/-- What ends meanwhile, without being asked to, ends as it was begun. -/
theorem Served.implied {schema : Schema} {request : Request}
    (hserved : Served schema d request d') (h : d.Kept)
    (hrequest : request.isExplicitEnd = false) :
    d.session.ledger.Implied d'.session.ledger := by
  cases hserved with
  | unserved => exact .refl _
  | @performed op =>
      exact implied_step h.tenancy.conducted hrequest
        (d.session.step_perform schema h.tenancy.consistent.connected op)
  | opened _ hpassive sql params memory =>
      exact (h.opened hpassive sql params memory).implied
  | released => exact .refl _
  | streamed _ hx htx hhosts hy hstreamed =>
      exact (h.replaced hx htx hhosts hy hstreamed).implied

/-- Whatever is asked that is not an explicit end, the desk goes on. -/
theorem Kept.onward (h : d.Kept) (schema : Schema) {request : Request}
    (hrequest : request.isExplicitEnd = false) :
    d.Onward (d.serve schema request) :=
  ⟨h.serve schema request,
    (h.served schema request).implied h hrequest⟩

end Desk

end DataAccess
