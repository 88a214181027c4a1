/-
Who has which transaction. A caller has handles of the transactions it began.
It has streams besides, and a stream that is not released has a root
transaction of its own, of which the caller has no handle. `Tenancy` says this
of a ledger, and that nothing is open that nobody has.

The rest is what keeps it. An operation of the caller is on a transaction it
has a handle of, so it leaves alone what the streams have (`Hosts.step`). A
stream begins its transaction, works on it, and ends it (`Tenancy.hosting`,
`Tenancy.worked`, `Tenancy.ended`), and nothing else comes of it. An end among
its calls is always an implied one.
-/
import DataAccess.Proofs.Session.Conduct
import DataAccess.Proofs.Stream.Steps
import Mathlib.Logic.Function.Basic

namespace DataAccess

/-- The transaction that an operation is on. -/
def Operation.target? : Operation → Option TransactionId
  | .begin _ => none
  | .beginNested parent => some parent
  | .ending t _ => some t
  | .statement t _ => some t

namespace Ledger

variable {l l' : Ledger} {t : TransactionId} {c : Nat} {display : String}
  {op : Operation}

-- ====================================================== what is left alone

/-- No transaction is forgotten. -/
theorem length_le_step (hstep : Step l op l') :
    l.transactions.length ≤ l'.transactions.length := by
  refine Nat.le_of_not_lt fun hlt => ?_
  obtain ⟨tx', htx', -⟩ := kept_step hstep (List.getElem?_eq_getElem hlt)
  exact Nat.lt_irrefl _ (List.getElem?_eq_some_iff.mp htx').1

/-- The transactions that were begun since then. -/
def begunSince (l l' : Ledger) : List TransactionId :=
  List.range' l.transactions.length
    (l'.transactions.length - l.transactions.length)

/-- What was begun since is what is there and was not. -/
theorem mem_begunSince (hstep : Step l op l') {t : Nat} :
    t ∈ l.begunSince l'
      ↔ l.transactions.length ≤ t ∧ t < l'.transactions.length := by
  unfold begunSince
  rw [List.mem_range'_1, Nat.add_sub_cancel' (length_le_step hstep)]

/-- Where there are as many transactions as before, none was begun. -/
theorem begunSince_of_length_eq
    (h : l'.transactions.length = l.transactions.length) :
    l.begunSince l' = [] := by
  unfold begunSince
  rw [h, Nat.sub_self]
  rfl

/-- A transaction that is open was not finished before. -/
theorem isOpen_of_step (hstep : Step l op l') (hopen : l'.IsOpen t)
    (hlt : t < l.transactions.length) : l.IsOpen t := by
  have hentry := List.getElem?_eq_getElem hlt
  obtain ⟨tx', htx', -, hended⟩ := kept_step hstep hentry
  unfold IsOpen at hopen ⊢
  rw [transaction_eq_of_getElem? htx'] at hopen
  rw [transaction_eq_of_getElem? hentry]
  cases hfinished : (l.transactions[t]).finished with
  | false => rfl
  | true => exact absurd (hended hfinished) (Bool.eq_false_iff.mp hopen)

/-- A transaction hosts a stream as long as it is open and has no children. -/
theorem Hosts.kept {f : Bool} {n : Nat} (h : l.Hosts t c display)
    (hentry : l'.transactions[t]?
      = some { l.transaction t with finished := f, openChildren := n })
    (hf : f = false) (hn : n = 0) (hc : l'.connectionOf? t = some c) :
    l'.Hosts t c display := by
  have htx := transaction_eq_of_getElem? hentry
  refine ⟨⟨?_, ?_, hc⟩, ?_, ?_, ?_⟩
  · unfold IsOpen
    rw [htx]
    exact hf
  · rw [htx]
    exact hn
  · rw [htx]
    exact h.root
  · rw [htx]
    exact h.readOnly
  · rw [htx]
    exact h.display

/-- A host stays one while the transactions and their connections stay. -/
theorem Hosts.of_transactions (h : l.Hosts t c display)
    (htransactions : l'.transactions = l.transactions)
    (hconnections : l'.connections = l.connections) :
    l'.Hosts t c display := by
  refine h.kept ?_ h.ends.isOpen h.ends.childless ?_
  · rw [htransactions]
    exact getElem?_of_isOpen h.ends.isOpen
  · unfold connectionOf?
    rw [htransactions, hconnections]
    exact h.ends.connection

/-- Two roots that are open do not share a connection. -/
theorem Consistent.root_unique (h : l.Consistent) {u : TransactionId}
    (ht : l.Ends t c) (htroot : (l.transaction t).savepoint = none)
    (hu : l.Ends u c) (huroot : (l.transaction u).savepoint = none) :
    t = u := by
  have htparent := (h.nesting.parent_eq_none_iff ht.isOpen).mpr htroot
  have huparent := (h.nesting.parent_eq_none_iff hu.isOpen).mpr huroot
  obtain ⟨tx, htx, htchain⟩ := exists_of_connectionOf? ht.connection
  obtain ⟨ux, hux, huchain⟩ := exists_of_connectionOf? hu.connection
  rw [transaction_eq_of_getElem? htx] at htparent
  rw [transaction_eq_of_getElem? hux] at huparent
  exact h.wiring.root_unique htx hux htparent huparent
    (h.wiring.distinct htchain huchain)

/-- A transaction goes on to host a stream, whatever is done on others. -/
theorem Hosts.step (h : l.Hosts t c display) (hconsistent : l.Consistent)
    (hstep : Step l op l') (hop : op.target? ≠ some t) :
    l'.Hosts t c display := by
  have hlt := lt_of_isOpen h.ends.isOpen
  have hentry := getElem?_of_isOpen h.ends.isOpen
  have hunfinished : (l.transaction t).finished = false := h.ends.isOpen
  -- the end of another one
  have hended : ∀ {u : TransactionId}, u ≠ t →
      l'.transactions = l.withEnded u → l'.connectionOf? t = some c →
      l'.Hosts t c display := by
    intro u hu htransactions hc
    refine h.kept (htransactions ▸ getElem?_withEnded_of_some hentry) ?_ ?_ hc
    · rw [hunfinished, decide_eq_false hu]
      rfl
    · rw [h.ends.childless, Nat.zero_sub]
  cases hstep with
  | refused => exact h
  | unconnected => exact h.of_record rfl
  | abandoned => exact h.of_transactions rfl rfl
  | begun =>
      refine h.kept ((List.getElem?_append_left hlt).trans hentry) hunfinished
        h.ends.childless ?_
      rw [connectionOf?_begun hconsistent.wiring, if_neg (Nat.ne_of_lt hlt)]
      exact h.ends.connection
  | unmarked => exact h.of_transactions rfl rfl
  | @nested p _ hopen hc =>
      have hp : p ≠ t := fun hp => hop (congrArg some hp)
      refine h.kept (getElem?_nested_of_some _ hentry) hunfinished ?_ ?_
      · rw [h.ends.childless, if_neg hp]
      · rw [connectionOf?_nested hopen, if_neg (Nat.ne_of_lt hlt)]
        exact h.ends.connection
  | @rootEnded u d how hends hroot ended closed =>
      have hu : u ≠ t := fun hu => hop (congrArg some hu)
      refine hended hu rfl ?_
      rw [connectionOf?_rootEnded hconsistent.wiring hends.connection]
      refine ⟨h.ends.connection, ?_⟩
      rintro rfl
      exact hu (hconsistent.root_unique hends hroot h.ends h.root)
  | @released u _ _ how hends =>
      have hu : u ≠ t := fun hu => hop (congrArg some hu)
      refine hended hu rfl ?_
      rw [connectionOf?_nestedEnded]
      exact h.ends.connection
  | @reverted u _ _ how hends =>
      have hu : u ≠ t := fun hu => hop (congrArg some hu)
      refine hended hu rfl ?_
      rw [connectionOf?_nestedEnded]
      exact h.ends.connection
  | worked => exact h.of_record rfl

-- ======================================================= what a stream does

/-- A stream may make calls on its connection that change no data. -/
theorem Hosts.admits (h : l.Hosts t c display) {entries : List CallRecord}
    (hentries : ∀ entry ∈ entries, entry.connection = some c
      ∧ entry.call.isWork = true ∧ entry.call.isWrite = false) :
    ∀ entry ∈ entries, l.Admits t entry := by
  intro entry hentry
  obtain ⟨hc, hwork, hwrite⟩ := hentries entry hentry
  refine ⟨h.ends.isOpen, ?_, hc.trans h.ends.connection.symm, hwork, ?_⟩
  · rw [hc]
    rfl
  · rw [hwrite]
    exact fun h => nomatch h

/-- Calls that a transaction admits are a step of it. -/
theorem step_admits {entries : List CallRecord}
    (hadmits : ∀ entry ∈ entries, l.Admits t entry) :
    Step l (.statement t (.query "" Params.empty .rows))
      (l.record entries) :=
  .worked hadmits

/-- A host admits that a stream is given back. -/
theorem Hosts.admits_closings {r : Lease}
    (h : l.Hosts t r.connection display) (f : Returning) :
    ∀ entry ∈ r.closings f, l.Admits t entry := by
  refine h.admits fun entry hentry => ?_
  rcases List.mem_append.mp hentry with hentry | hentry <;>
    obtain ⟨k, -, rfl⟩ :=
      Option.map_eq_some_iff.mp (Option.mem_toList.mp hentry) <;>
    exact ⟨rfl, rfl, rfl⟩

/-- Ending a host is a step. -/
theorem Hosts.step_ended (h : l.Hosts t c display)
    (ended closed : Option DriverError) :
    Step l (.ending t .close) (l.rootEnded t
      [⟨some c, .commit, ended⟩, ⟨some c, .close, closed⟩]) := by
  have hstep := Step.rootEnded .close h.ends h.root ended closed
  rw [h.readOnly] at hstep
  exact hstep

/-- What a stream can do that has a transaction: it makes calls, and it has
its transaction afterwards, or it has ended it. -/
inductive Streamed (l : Ledger) (t : TransactionId) (c : Nat) :
    Option TransactionId → Ledger → Prop
  | going {entries : List CallRecord}
      (hadmits : ∀ entry ∈ entries, l.Admits t entry) :
      Streamed l t c (some t) (l.record entries)
  | gone {entries : List CallRecord}
      (hadmits : ∀ entry ∈ entries, l.Admits t entry)
      (ended closed : Option DriverError) :
      Streamed l t c none ((l.record entries).rootEnded t
        [⟨some c, .commit, ended⟩, ⟨some c, .close, closed⟩])

-- =============================================================== tenancy

/-- Who has which transaction: the handles of the caller, and the transactions
of the streams. -/
structure Tenancy (l : Ledger) (handles : List TransactionId)
    (tenant : Nat → Option TransactionId) : Prop where
  consistent : l.Consistent
  conducted : l.Conducted
  begun : ∀ t ∈ handles, t < l.transactions.length
  hosts : ∀ {i : Nat} {t : TransactionId}, tenant i = some t →
    ∃ c display, l.Hosts t c display
  /-- The caller has no handle of the transaction of a stream. -/
  apart : ∀ {i : Nat} {t : TransactionId}, tenant i = some t → t ∉ handles
  /-- No two streams have the same transaction. -/
  alone : ∀ {i j : Nat} {t : TransactionId}, tenant i = some t →
    tenant j = some t → i = j
  /-- What is open somebody has. -/
  owned : ∀ {t : TransactionId}, l.IsOpen t →
    t ∈ handles ∨ ∃ i, tenant i = some t

namespace Tenancy

variable {handles : List TransactionId}
  {tenant tenant' : Nat → Option TransactionId} {i : Nat}

/-- An operation of the caller, who gets handles of what begins. -/
theorem operation (h : l.Tenancy handles tenant) (hstep : Step l op l')
    (hop : ∀ t, op.target? = some t → t ∈ handles) :
    l'.Tenancy (handles ++ l.begunSince l') tenant := by
  constructor
  · exact consistent_step h.consistent hstep
  · exact conducted_step h.consistent h.conducted hstep
  · intro t ht
    rcases List.mem_append.mp ht with ht | ht
    · exact Nat.lt_of_lt_of_le (h.begun t ht) (length_le_step hstep)
    · exact ((mem_begunSince hstep).mp ht).2
  · intro i t ht
    obtain ⟨c, display, hhosts⟩ := h.hosts ht
    exact ⟨c, display, hhosts.step h.consistent hstep
      fun htarget => h.apart ht (hop t htarget)⟩
  · intro i t ht hmem
    obtain ⟨c, display, hhosts⟩ := h.hosts ht
    rcases List.mem_append.mp hmem with hmem | hmem
    · exact h.apart ht hmem
    · exact Nat.not_lt_of_ge ((mem_begunSince hstep).mp hmem).1
        (lt_of_isOpen hhosts.ends.isOpen)
  · exact h.alone
  · intro t hopen
    by_cases hlt : t < l.transactions.length
    · exact (h.owned (isOpen_of_step hstep hopen hlt)).imp_left
        (List.mem_append_left _)
    · refine Or.inl (List.mem_append_right _ ((mem_begunSince hstep).mpr ?_))
      exact ⟨Nat.le_of_not_lt hlt, lt_of_isOpen hopen⟩

/-- A transaction begins for a stream. -/
theorem hosting (h : l.Tenancy handles tenant) (hi : tenant i = none)
    (hnew : tenant' i = some l.transactions.length)
    (hothers : ∀ j, j ≠ i → tenant' j = tenant j) :
    (l.begun true).Tenancy handles tenant' := by
  have hstep : Step l (.begin true) (l.begun true) := .begun true
  have hold : ∀ {j t}, j ≠ i → tenant' j = some t → tenant j = some t :=
    fun hj ht => (hothers _ hj).symm.trans ht
  have hlt : ∀ {j t}, j ≠ i → tenant' j = some t →
      t < l.transactions.length := by
    intro j t hj ht
    obtain ⟨c, display, hhosts⟩ := h.hosts (hold hj ht)
    exact lt_of_isOpen hhosts.ends.isOpen
  constructor
  · exact consistent_step h.consistent hstep
  · exact conducted_step h.consistent h.conducted hstep
  · intro t ht
    exact Nat.lt_of_lt_of_le (h.begun t ht) (length_le_step hstep)
  · intro j t ht
    by_cases hj : j = i
    · subst hj
      cases hnew.symm.trans ht
      exact ⟨_, _, Hosts.begun l⟩
    · obtain ⟨c, display, hhosts⟩ := h.hosts (hold hj ht)
      exact ⟨c, display, hhosts.step h.consistent hstep fun h => nomatch h⟩
  · intro j t ht hmem
    by_cases hj : j = i
    · subst hj
      cases hnew.symm.trans ht
      exact Nat.lt_irrefl _ (h.begun _ hmem)
    · exact h.apart (hold hj ht) hmem
  · intro j k t htj htk
    by_cases hj : j = i <;> by_cases hk : k = i
    · rw [hj, hk]
    · subst hj
      cases hnew.symm.trans htj
      exact absurd (hlt hk htk) (Nat.lt_irrefl _)
    · subst hk
      cases hnew.symm.trans htk
      exact absurd (hlt hj htj) (Nat.lt_irrefl _)
    · exact h.alone (hold hj htj) (hold hk htk)
  · -- the only new transaction is the one of the stream
    intro t hopen
    by_cases hbound : t < l.transactions.length
    · rcases h.owned (isOpen_of_step hstep hopen hbound) with hmem | ⟨j, hj⟩
      · exact Or.inl hmem
      · refine Or.inr ⟨j, (hothers j ?_).trans hj⟩
        rintro rfl
        rw [hi] at hj
        cases hj
    · have hlast := lt_of_isOpen hopen
      change t < (l.transactions ++ [_]).length at hlast
      rw [List.length_append, List.length_singleton] at hlast
      refine Or.inr ⟨i, ?_⟩
      rw [hnew]
      exact congrArg some
        (Nat.le_antisymm (Nat.le_of_not_lt hbound) (Nat.le_of_lt_succ hlast))

/-- Calls of a transaction change no tenancy. -/
theorem worked (h : l.Tenancy handles tenant) {entries : List CallRecord}
    (hadmits : ∀ entry ∈ entries, l.Admits t entry) :
    (l.record entries).Tenancy handles tenant := by
  have hstep := step_admits hadmits
  refine ⟨consistent_step h.consistent hstep,
    conducted_step h.consistent h.conducted hstep, h.begun, ?_, h.apart,
    h.alone, h.owned⟩
  intro i t ht
  obtain ⟨c, display, hhosts⟩ := h.hosts ht
  exact ⟨c, display, hhosts.of_record rfl⟩

/-- A tenant that leaves ends its transaction, and no other. -/
theorem ended (h : l.Tenancy handles tenant) (hi : tenant i = some t)
    (hhosts : l.Hosts t c display) (ended closed : Option DriverError)
    (hgone : tenant' i = none) (hothers : ∀ j, j ≠ i → tenant' j = tenant j) :
    (l.rootEnded t [⟨some c, .commit, ended⟩,
      ⟨some c, .close, closed⟩]).Tenancy handles tenant' := by
  have hstep := hhosts.step_ended ended closed
  -- the other streams stay where they are
  have hold : ∀ {j u}, tenant' j = some u → j ≠ i ∧ tenant j = some u := by
    intro j u hu
    have hj : j ≠ i := by
      rintro rfl
      rw [hgone] at hu
      cases hu
    exact ⟨hj, (hothers j hj).symm.trans hu⟩
  constructor
  · exact consistent_step h.consistent hstep
  · exact conducted_step h.consistent h.conducted hstep
  · intro u hu
    exact Nat.lt_of_lt_of_le (h.begun u hu) (length_le_step hstep)
  · intro j u hu
    obtain ⟨hj, hu⟩ := hold hu
    obtain ⟨d, display, hhosts'⟩ := h.hosts hu
    refine ⟨d, display, hhosts'.step h.consistent hstep fun htarget => ?_⟩
    cases htarget
    exact hj (h.alone hu hi)
  · intro j u hu
    exact h.apart (hold hu).2
  · intro j k u hj hk
    exact h.alone (hold hj).2 (hold hk).2
  · intro u hopen
    obtain ⟨hopen', hne, -⟩ := isOpen_of_withEnded (l := l) (t := t) rfl hopen
    rcases h.owned hopen' with hmem | ⟨j, hj⟩
    · exact Or.inl hmem
    · refine Or.inr ⟨j, (hothers j ?_).trans hj⟩
      rintro rfl
      rw [hi] at hj
      exact hne (Option.some.inj hj)

/-- Whatever a stream does, and whether or not it still has its transaction
then. -/
theorem streamed (h : l.Tenancy handles tenant) (hi : tenant i = some t)
    (hhosts : l.Hosts t c display) {x : Option TransactionId}
    (hstreamed : l.Streamed t c x l') (hnew : tenant' i = x)
    (hothers : ∀ j, j ≠ i → tenant' j = tenant j) :
    l'.Tenancy handles tenant' ∧ l.Implied l' := by
  cases hstreamed with
  | going hadmits =>
      -- it still has its transaction, so nobody's changes
      have hsame : tenant' = tenant := by
        funext j
        by_cases hj : j = i
        · rw [hj, hnew, hi]
        · exact hothers j hj
      rw [hsame]
      exact ⟨h.worked hadmits,
        implied_step h.conducted rfl (step_admits hadmits)⟩
  | @gone entries hadmits ended closed =>
      have hworked := h.worked hadmits
      have hhosts' : (l.record entries).Hosts t c display :=
        hhosts.of_record rfl
      refine ⟨hworked.ended hi hhosts' ended closed hnew hothers, ?_⟩
      exact (implied_step h.conducted rfl (step_admits hadmits)).trans
        (implied_step hworked.conducted rfl (hhosts'.step_ended ended closed))

end Tenancy

end Ledger

end DataAccess
