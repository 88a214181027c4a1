/-
How a caller leaves. It asked for whatever it wanted, in whatever order, and
the driver failed wherever it did; then the caller drops all that it has,
children before their parents. `conducted_until_cleared` says what became of
the connections: at any time each one is used as it should be, and one is held
for each root that is open; in the end none is held, and the calls on each of
them are complete.

# The argument

- A drop ends what it drops. A transaction that is dropped has no open
  children: an open child has a handle, since the transactions of streams are
  roots, and that handle was dropped before (`Closes.childless`).
- Nothing begins meanwhile (`Later`). So what is open is always among what is
  still to be dropped (`Kept.closes_serve`), and in the end nothing is.
-/
import DataAccess.Proofs.Stream.Desk

namespace DataAccess

open Ledger

-- ============================================================ nothing begins

namespace Ledger

variable {l l' : Ledger} {t : TransactionId} {c : Nat}

/-- A ledger later on, when nothing has begun. -/
structure Later (l l' : Ledger) : Prop where
  length : l'.transactions.length = l.transactions.length
  parent : ∀ t, (l'.transaction t).parent = (l.transaction t).parent
  isOpen : ∀ {t}, l'.IsOpen t → l.IsOpen t

/-- The same transactions are no earlier. -/
theorem later_of_transactions_eq (h : l'.transactions = l.transactions) :
    l.Later l' := by
  have hsame : ∀ t, l'.transaction t = l.transaction t := by
    intro t
    unfold transaction
    rw [h]
  refine ⟨by rw [h], fun t => by rw [hsame t], fun {t} hopen => ?_⟩
  unfold IsOpen at hopen ⊢
  rw [← hsame t]
  exact hopen

/-- One that was ended is later. -/
theorem later_of_withEnded (h : l'.transactions = l.withEnded t) :
    l.Later l' := by
  refine ⟨by rw [h, length_withEnded], fun u => ?_,
    fun hopen => (isOpen_of_withEnded h hopen).1⟩
  have hparent := bind_withEnded (l := l) (f := fun tx => tx.parent)
    (fun _ _ _ => rfl) t u
  rw [← h] at hparent
  unfold transaction
  cases hux : l'.transactions[u]? <;> cases hux₀ : l.transactions[u]? <;>
    rw [hux, hux₀] at hparent <;> exact hparent

/-- An ending that is a step leads to a later ledger. -/
theorem later_ending {how : Ending} (hstep : Step l (.ending t how) l') :
    l.Later l' := by
  cases hstep with
  | refused => exact later_of_transactions_eq rfl
  | rootEnded => exact later_of_withEnded (t := t) rfl
  | released => exact later_of_withEnded (t := t) rfl
  | reverted => exact later_of_withEnded (t := t) rfl

/-- A transaction without open children ends. -/
theorem ended_of_childless {how : Ending} (hstep : Step l (.ending t how) l')
    (hchildless : l.IsOpen t → (l.transaction t).openChildren = 0) :
    ¬ l'.IsOpen t := by
  intro hopen'
  have hopen := (later_ending hstep).isOpen hopen'
  cases hstep with
  | refused hrefuses =>
      -- only children could be a reason
      rcases hrefuses with hclosed | hchildren
      · exact hclosed hopen
      · exact Nat.ne_of_gt hchildren (hchildless hopen)
  | rootEnded => exact (isOpen_of_withEnded rfl hopen').2.1 rfl
  | released => exact (isOpen_of_withEnded rfl hopen').2.1 rfl
  | reverted => exact (isOpen_of_withEnded rfl hopen').2.1 rfl

/-- So does what a stream does. -/
theorem later_streamed {x : Option TransactionId}
    (h : l.Streamed t c x l') : l.Later l' := by
  cases h with
  | going => exact later_of_transactions_eq rfl
  | gone => exact later_of_withEnded (t := t) rfl

end Ledger

/-- A session in which nothing has happened, whatever its configuration and
its next number. -/
structure Session.Fresh (s : Session) : Prop where
  transactions : s.transactions = []
  chains : s.chains = []
  log : s.driver.log = []
  connections : s.driver.connections = []

/-- So it is when it starts, on a driver that was not used yet. -/
theorem Session.fresh_start {config : Config} {driver : Driver} {s : Session}
    (hstart : start config driver = .ok s) (hlog : driver.log = [])
    (hconnections : driver.connections = []) : s.Fresh := by
  obtain ⟨accepted, -, rfl⟩ := eq_of_start hstart
  exact ⟨rfl, rfl, hlog, hconnections⟩

theorem Session.Fresh.consistent {s : Session} (h : s.Fresh) :
    s.ledger.Consistent := by
  refine ⟨nesting_nil h.transactions, ?_⟩
  have htransactions := h.transactions
  have hchains := h.chains
  constructor <;> intros <;> simp_all [Session.ledger, Session.connections]

-- ================================================================ the drops

/-- What a caller can drop. -/
inductive Handle where
  | transaction (t : TransactionId)
  | stream (i : Nat)
  deriving DecidableEq

def Handle.drop : Handle → Request
  | .transaction t => .operation (.ending t .drop)
  | .stream i => .dropStream i

namespace Desk

variable {d d' : Desk} {a : Handle} {rest drops : List Handle}
  {t : TransactionId} {schema : Schema}

/-- All that is open is dropped, children before their parents. -/
structure Closes (d : Desk) (drops : List Handle) : Prop where
  handles : ∀ t ∈ d.handles, (d.session.transaction t).finished = false →
    .transaction t ∈ drops
  streams : ∀ {i t}, d.tenant? i = some t → .stream i ∈ drops
  childrenFirst : drops.Pairwise fun a b => ∀ t u, a = .transaction t →
    b = .transaction u → (d.session.transaction u).parent ≠ some t

def dropAll (schema : Schema) (d : Desk) (drops : List Handle) : Desk :=
  d.serveAll schema (drops.map Handle.drop)

/-- What is dropped first has no open children. -/
theorem Closes.childless (hkept : d.Kept)
    (h : d.Closes (.transaction t :: rest))
    (hopen : d.session.ledger.IsOpen t) :
    (d.session.ledger.transaction t).openChildren = 0 := by
  have hnesting := hkept.tenancy.consistent.nesting
  rw [hnesting.openChildren (getElem?_of_isOpen hopen)]
  unfold Ledger.openChildrenOf
  rw [List.countP_eq_zero]
  intro ux hmem hchild
  obtain ⟨u, hux⟩ := List.getElem?_of_mem hmem
  simp only [Transaction.isOpenChildOf, Bool.and_eq_true, beq_iff_eq,
    Bool.not_eq_true'] at hchild
  obtain ⟨hparent, hunfinished⟩ := hchild
  have htx := transaction_eq_of_getElem? hux
  have hopenu : d.session.ledger.IsOpen u := by
    unfold Ledger.IsOpen
    rw [htx]
    exact hunfinished
  rcases hkept.tenancy.owned hopenu with hhandle | ⟨i, hi⟩
  · -- it has a handle, which was dropped before
    have hlt := (hnesting.parent hux hparent).1
    rcases List.mem_cons.mp (h.handles u hhandle hopenu) with heq | hrest
    · cases heq
      exact Nat.lt_irrefl _ hlt
    · refine (List.pairwise_cons.mp h.childrenFirst).1 _ hrest t u rfl rfl ?_
      exact (congrArg (·.parent) htx).trans hparent
  · -- it is the root of a stream
    obtain ⟨c, display, hhosts⟩ := hkept.tenancy.hosts hi
    have hnone := (hnesting.parent_eq_none_iff hopenu).mpr hhosts.root
    rw [htx, hparent] at hnone
    cases hnone

/-- When the first thing is dropped the others are left. -/
theorem Closes.tail (h : d.Closes (a :: rest))
    (hlater : d.session.ledger.Later d'.session.ledger)
    (hhandles : d'.handles = d.handles)
    (htenants : ∀ {i t}, d'.tenant? i = some t → d.tenant? i = some t)
    (htransaction : ∀ t ∈ d.handles, a = .transaction t →
      ¬ d'.session.ledger.IsOpen t)
    (hstream : ∀ i, a = .stream i → d'.tenant? i = none) :
    d'.Closes rest := by
  constructor
  · intro t ht hopen
    rw [hhandles] at ht
    rcases List.mem_cons.mp (h.handles t ht (hlater.isOpen hopen)) with
      heq | hrest
    · exact absurd hopen (htransaction t ht heq.symm)
    · exact hrest
  · intro i t hi
    rcases List.mem_cons.mp (h.streams (htenants hi)) with heq | hrest
    · rw [hstream i heq.symm] at hi
      cases hi
    · exact hrest
  · refine (List.pairwise_cons.mp h.childrenFirst).2.imp ?_
    intro b b' hpair t u hb hb'
    have hparent := hlater.parent u
    rw [Session.transaction_ledger, Session.transaction_ledger] at hparent
    rw [hparent]
    exact hpair t u hb hb'

/-- A drop ends what it drops. -/
theorem Kept.closes_serve (hkept : d.Kept) (h : d.Closes (a :: rest)) :
    (d.serve schema a.drop).Closes rest := by
  have hsame := later_of_transactions_eq (l := d.session.ledger) rfl
  -- what the caller does not have is not dropped, and not missed
  cases a with
  | transaction t =>
      show Closes (if d.has (.ending t .drop) then _ else d) rest
      split
      · have hstep := d.session.step_perform schema
          hkept.tenancy.consistent.connected (.ending t .drop)
        have hlater := later_ending hstep
        refine h.tail hlater ?_ (fun hi => hi) ?_ (fun i hi => nomatch hi)
        · dsimp only
          rw [begunSince_of_length_eq hlater.length, List.append_nil]
        · intro u hu heq
          cases heq
          exact ended_of_childless hstep (h.childless hkept)
      · next hhas =>
        refine h.tail hsame rfl (fun hi => hi) (fun u hu heq => ?_)
          (fun i hi => nomatch hi)
        cases heq
        exact absurd (List.contains_iff_mem.mpr hu) hhas
  | stream i =>
      unfold Handle.drop Desk.serve
      dsimp only
      cases hx : d.stream? i with
      | none =>
          refine h.tail hsame rfl (fun hi => hi) (fun u hu heq => nomatch heq)
            fun j heq => ?_
          cases heq
          unfold tenant?
          rw [hx]
          rfl
      | some x =>
          dsimp only
          have hlater : d.session.ledger.Later
              (x.stream.drop.after d.session).ledger := by
            cases htx : x.stream.tx with
            | none =>
                rw [EStateM.after_of_eq_ok (QueryStream.drop_released htx)]
                exact hsame
            | some t =>
                obtain ⟨c, display, hhosts⟩ := hkept.hosts hx htx
                exact later_streamed (QueryStream.drop_streamed htx hhosts)
          have hnone : (d.replaced i (x.stream.drop.after d.session)
              none).tenant? i = none := by
            unfold tenant?
            rw [stream?_replaced hx]
            rfl
          refine h.tail hlater rfl (fun {j t} hj => ?_)
            (fun u hu heq => nomatch heq) fun j heq => ?_
          · by_cases hji : j = i
            · rw [hji, hnone] at hj
              cases hj
            · rw [tenant?_replaced_ne hji] at hj
              exact hj
          · cases heq
            exact hnone

-- ================================================================= the whole

theorem Kept.serveAll (h : d.Kept) (requests : List Request) :
    (d.serveAll schema requests).Kept := by
  induction requests generalizing d with
  | nil => exact h
  | cons request requests ih => exact ih (h.serve schema request)

/-- When all was dropped nothing is open. -/
theorem Kept.not_isOpen_dropAll (hkept : d.Kept) (h : d.Closes drops)
    (t : TransactionId) :
    ¬ (d.dropAll schema drops).session.ledger.IsOpen t := by
  induction drops generalizing d with
  | nil =>
      intro hopen
      rcases hkept.tenancy.owned hopen with ht | ⟨i, hi⟩
      · cases h.handles t ht hopen
      · cases h.streams hi
  | cons a rest ih =>
      exact ih (hkept.serve schema a.drop) (hkept.closes_serve h)

/-- The desk of a caller that has nothing but a session in which nothing has
happened. -/
theorem kept_ofSession {s : Session} (h : s.Fresh) : (ofSession s).Kept := by
  refine ⟨?_, (fun h => nomatch h)⟩
  exact {
    consistent := h.consistent
    conducted := conducted_nil h.transactions h.log h.connections
    begun := fun _ h => nomatch h
    hosts := fun h => nomatch h
    apart := fun h => nomatch h
    alone := fun h => nomatch h
    owned := fun hopen => absurd hopen (not_isOpen_nil h.transactions _) }

/-- Nothing is held when nothing is open. -/
theorem Kept.cleared (h : d.Kept)
    (hclosed : ∀ t, ¬ d.session.ledger.IsOpen t) :
    d.session.driver.openConnections = 0
      ∧ ∀ c < d.session.driver.connections.length,
          Complete c (callsOn c d.session.driver.log) := by
  have hconducted := h.tenancy.conducted
  have hnone : d.session.ledger.openRoots = 0 := by
    unfold openRoots
    rw [List.countP_eq_zero]
    intro tx hmem hroot
    obtain ⟨t, htx⟩ := List.getElem?_of_mem hmem
    simp only [Transaction.isOpenRoot, Bool.and_eq_true,
      Bool.not_eq_true'] at hroot
    refine hclosed t ?_
    unfold Ledger.IsOpen
    rw [transaction_eq_of_getElem? htx]
    exact hroot.2
  have hcount : d.session.driver.connections.count true = 0 :=
    hconducted.counted.trans hnone
  refine ⟨hcount, fun c hc => hconducted.complete ?_⟩
  have hget : d.session.driver.connections[c]? = some _ :=
    List.getElem?_eq_getElem hc
  show d.session.driver.connections[c]? = some false
  cases hheld : d.session.driver.connections[c] with
  | false => rw [hget, hheld]
  | true =>
      have hmem : true ∈ d.session.driver.connections :=
        hheld ▸ List.getElem_mem hc
      exact absurd hmem (List.count_eq_zero.mp hcount)

/-- Whatever a caller asks for, in whatever order, and whatever the driver
does: the connections are used as they should be, what ends by itself ends as
it was begun, and a caller that drops all it has leaves nothing behind. -/
theorem conducted_until_cleared {s : Session} (hfresh : s.Fresh)
    (schema : Schema) (requests : List Request) :
    let d := (ofSession s).serveAll schema requests
    d.session.ledger.Conducted
      ∧ (∀ request : Request, request.isExplicitEnd = false →
          d.session.ledger.Implied (d.serve schema request).session.ledger)
      ∧ ∀ drops, d.Closes drops →
          let d' := d.dropAll schema drops
          d'.session.driver.openConnections = 0
            ∧ ∀ c < d'.session.driver.connections.length,
                Complete c (callsOn c d'.session.driver.log) := by
  intro d
  have hkept : d.Kept := (kept_ofSession hfresh).serveAll requests
  refine ⟨hkept.tenancy.conducted,
    fun request hrequest => (hkept.onward schema hrequest).implied,
    fun drops hcloses => ?_⟩
  exact (hkept.serveAll (drops.map Handle.drop)).cleared
    (hkept.not_isOpen_dropAll hcloses)

/-- A driver with two rows to give, which fails to commit. -/
def uncommitting : Driver :=
  (Driver.empty.pushResult
      ⟨[⟨none, "n"⟩], [[.int32 1], [.int32 2]]⟩).fail
    ⟨.commit, 0, ⟨"lost", none⟩⟩

/-- A root with a statement below a savepoint, and a stream that is being
read. -/
def halfway : List Request :=
  [.operation (.begin false),
   .openRows "SELECT n FROM t" Params.empty (fun _ seen => .ok (seen, seen + 1))
      0,
   .operation (.beginNested 0),
   .operation (.statement 2 (.execute "DELETE FROM t" Params.empty)),
   .next 0]

/-- All three are dropped, and both connections are given back. -/
theorem cleared_halfway :
    let s := Session.blank uncommitting
    let d := (ofSession s).serveAll [] halfway
    let drops := [.stream 0, .transaction 2, .transaction 0]
    s.Fresh ∧ d.session.driver.openConnections = 2 ∧ d.Closes drops
      ∧ (d.dropAll [] drops).session.driver.openConnections = 0
      ∧ ∀ c < 2,
        Complete c (callsOn c (d.dropAll [] drops).session.driver.log) := by
  intro s d drops
  have hfresh : s.Fresh :=
    Session.fresh_start (Session.start_default uncommitting) rfl rfl
  have hhandles : d.handles = [0, 2] := by decide +kernel
  have hstreams : d.streams.length = 1 := by decide +kernel
  have hroot : (d.session.transaction 0).parent = none := by decide +kernel
  -- two transactions and a stream are open, and what is dropped last is a root
  have hcloses : d.Closes drops := by
    constructor
    · intro t ht _
      rw [hhandles] at ht
      rcases List.mem_cons.mp ht with rfl | ht
      · decide
      · cases List.mem_singleton.mp ht
        decide
    · intro i t hi
      have hlt : i < 1 := by
        refine Nat.lt_of_not_le fun hle => ?_
        unfold tenant? stream? at hi
        rw [List.getElem?_eq_none (by omega)] at hi
        cases hi
      cases Nat.lt_one_iff.mp hlt
      decide
    · refine List.pairwise_cons.mpr ⟨(fun _ _ t u ha => nomatch ha),
        List.pairwise_cons.mpr ⟨?_, List.pairwise_singleton ..⟩⟩
      intro b hb t u ha hbu
      cases ha
      cases List.mem_singleton.mp hb
      cases hbu
      rw [hroot]
      exact fun h => nomatch h
  obtain ⟨-, -, hcleared⟩ := conducted_until_cleared hfresh [] halfway
  obtain ⟨hnone, hcomplete⟩ := hcleared drops hcloses
  have hopened :
      (d.dropAll [] drops).session.driver.connections.length = 2 := by
    decide +kernel
  refine ⟨hfresh, by decide +kernel, hcloses, hnone, fun c hc => ?_⟩
  exact hcomplete c (hopened ▸ hc)

end Desk

end DataAccess
