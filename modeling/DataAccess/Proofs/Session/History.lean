/-
What the log of a session remembers. Its calls are on connections that were
opened, and a savepoint that was given up is that of a transaction that has
ended (`Logged`). A savepoint belongs to one transaction only, for its name
is a number and numbers are handed out once; so a savepoint of an open
transaction has not been given up, and a name that is taken next was never
seen before.

How the operations change the savepoints and the connections of the
transactions is told here as well, look-up by look-up.
-/
import DataAccess.Proofs.Driver.Server
import DataAccess.Proofs.Session.Consistency

namespace DataAccess

namespace Ledger

variable {l : Ledger}

-- ================================================================== names

/-- Savepoints of different numbers have different names. -/
theorem savepointName_injective {m n : Nat}
    (h : l.savepointName m = l.savepointName n) : m = n := by
  unfold savepointName at h
  have hlists := congrArg String.toList h
  simp only [String.toList_append, List.append_assoc,
    List.append_cancel_left_eq] at hlists
  have hdigits : Nat.toDigits 10 m = Nat.toDigits 10 n := by
    rw [← Nat.toList_repr, ← Nat.toList_repr]
    exact hlists
  rw [← Nat.ofDigitChars_ten_toDigits (n := m), hdigits,
    Nat.ofDigitChars_ten_toDigits]

/-- The savepoint of a transaction, if it has one. -/
def savepointOf? (l : Ledger) (t : TransactionId) : Option String :=
  l.transactions[t]?.bind (·.savepoint)

/-- The savepoint of a transaction that is open. -/
theorem savepointOf?_of_isOpen {t : TransactionId} (h : l.IsOpen t) :
    l.savepointOf? t = (l.transaction t).savepoint := by
  unfold savepointOf?
  rw [getElem?_of_isOpen h]
  rfl

/-- The savepoint of a transaction is named by its number. -/
theorem Nesting.exists_of_savepointOf? (h : l.Nesting) {t : TransactionId}
    {name : String} (hname : l.savepointOf? t = some name) :
    ∃ tx, l.transactions[t]? = some tx ∧ tx.savepoint = some name
      ∧ name = l.savepointName tx.number := by
  obtain ⟨tx, htx, hsavepoint⟩ := Option.bind_eq_some_iff.mp hname
  refine ⟨tx, htx, hsavepoint, ?_⟩
  have hnumbered := h.savepoint htx
  rw [hsavepoint] at hnumbered
  cases hp : tx.parent with
  | none =>
      rw [hp] at hnumbered
      cases hnumbered
  | some p =>
      rw [hp] at hnumbered
      exact Option.some.inj hnumbered

/-- A savepoint belongs to one transaction. -/
theorem Nesting.savepointOf?_injective (h : l.Nesting) {t u : Nat}
    {name : String} (ht : l.savepointOf? t = some name)
    (hu : l.savepointOf? u = some name) : t = u := by
  obtain ⟨tx, htx, -, htn⟩ := h.exists_of_savepointOf? ht
  obtain ⟨ux, hux, -, hun⟩ := h.exists_of_savepointOf? hu
  have hnumber : tx.number = ux.number := savepointName_injective (htn ▸ hun)
  rcases Nat.lt_trichotomy t u with hlt | heq | hgt
  · have := h.number_lt htx hux hlt
    omega
  · exact heq
  · have := h.number_lt hux htx hgt
    omega

/-- A name that was not handed out is that of no transaction. -/
theorem Nesting.savepointOf?_ne_next (h : l.Nesting) (t : TransactionId) :
    l.savepointOf? t ≠ some (l.savepointName (l.last + 1)) := by
  intro hname
  obtain ⟨tx, htx, -, hnumbered⟩ := h.exists_of_savepointOf? hname
  have hnumber := savepointName_injective hnumbered
  have hle := h.number_le htx
  omega

-- =============================================================== look-ups

/-- What stands in a list with one more entry. -/
theorem getElem?_concat_eq {α : Type _} (xs : List α) (x : α) (i : Nat) :
    (xs ++ [x])[i]? = if i = xs.length then some x else xs[i]? := by
  rcases Nat.lt_trichotomy i xs.length with hlt | rfl | hgt
  · rw [List.getElem?_append_left hlt, if_neg (Nat.ne_of_lt hlt)]
  · rw [List.getElem?_concat_length, if_pos rfl]
  · rw [if_neg (Nat.ne_of_gt hgt), List.getElem?_eq_none (Nat.le_of_lt hgt),
      List.getElem?_eq_none]
    rw [List.length_append]
    exact hgt

/-- A new root has no savepoint. -/
theorem savepointOf?_begun (readOnly : Bool) (t : TransactionId) :
    (l.begun readOnly).savepointOf? t = l.savepointOf? t := by
  unfold savepointOf?
  show (l.transactions ++ [l.newRoot readOnly])[t]?.bind _ = _
  rw [getElem?_concat_eq]
  split
  · next ht =>
    rw [List.getElem?_eq_none (Nat.le_of_eq ht.symm)]
    rfl
  · rfl

/-- A new root has the connection that was opened for it. -/
theorem connectionOf?_begun (h : l.Wiring) (readOnly : Bool)
    (t : TransactionId) :
    (l.begun readOnly).connectionOf? t
      = if t = l.transactions.length then some l.opened
        else l.connectionOf? t := by
  unfold connectionOf?
  show (l.transactions ++ [l.newRoot readOnly])[t]?.bind (fun tx =>
    (l.connections ++ [some l.opened])[tx.chain]?.join) = _
  rw [getElem?_concat_eq]
  split
  · show (l.connections ++ [some l.opened])[l.connections.length]?.join = _
    rw [List.getElem?_concat_length]
    rfl
  · cases htx : l.transactions[t]? with
    | none => rfl
    | some tx =>
        show (l.connections ++ [some l.opened])[tx.chain]?.join = _
        rw [List.getElem?_append_left (h.chain_lt htx)]
        rfl

/-- A look-up that does not depend on how many children are open. -/
theorem bind_withOpenChild {α : Type} {f : Transaction → Option α}
    (hf : ∀ (tx : Transaction) (n : Nat), f { tx with openChildren := n } = f tx)
    (p t : Nat) :
    (l.withOpenChild p)[t]?.bind f = l.transactions[t]?.bind f := by
  cases htx : l.transactions[t]? with
  | none =>
      rw [List.getElem?_eq_none]
      unfold withOpenChild
      rw [List.length_modify]
      exact List.getElem?_eq_none_iff.mp htx
  | some tx =>
      rw [getElem?_withOpenChild_of_some htx]
      exact hf tx _

/-- A new nested transaction has a savepoint of its own. -/
theorem savepointOf?_nested (p : TransactionId) (c t : Nat) :
    (l.nested p c).savepointOf? t
      = if t = l.transactions.length
        then some (l.savepointName (l.last + 1)) else l.savepointOf? t := by
  unfold savepointOf?
  show (l.withOpenChild p ++ [l.newNested p])[t]?.bind _ = _
  rw [getElem?_concat_eq, length_withOpenChild]
  split
  · rfl
  · exact bind_withOpenChild (fun _ _ => rfl) p t

/-- A new nested transaction has the connection of its parent. -/
theorem connectionOf?_nested {p : TransactionId} (hopen : l.IsOpen p)
    (c t : Nat) :
    (l.nested p c).connectionOf? t
      = if t = l.transactions.length then l.connectionOf? p
        else l.connectionOf? t := by
  unfold connectionOf?
  show (l.withOpenChild p ++ [l.newNested p])[t]?.bind (fun tx =>
    l.connections[tx.chain]?.join) = _
  rw [getElem?_concat_eq, length_withOpenChild]
  split
  · rw [getElem?_of_isOpen hopen]
    rfl
  · exact bind_withOpenChild (fun _ _ => rfl) p t

/-- A look-up that depends neither on the children nor on the end. -/
theorem bind_withEnded {α : Type} {f : Transaction → Option α}
    (hf : ∀ (tx : Transaction) (b : Bool) (n : Nat),
      f { tx with finished := b, openChildren := n } = f tx)
    (t u : Nat) :
    (l.withEnded t)[u]?.bind f = l.transactions[u]?.bind f := by
  cases hux : l.transactions[u]? with
  | none =>
      rw [List.getElem?_eq_none]
      rw [length_withEnded]
      exact List.getElem?_eq_none_iff.mp hux
  | some ux =>
      rw [getElem?_withEnded_of_some hux]
      exact hf ux _ _

/-- The savepoint of a transaction stays known when it ends. -/
theorem savepointOf?_rootEnded (t : TransactionId) (entries : List CallRecord)
    (u : TransactionId) :
    (l.rootEnded t entries).savepointOf? u = l.savepointOf? u :=
  bind_withEnded (fun _ _ _ => rfl) t u

theorem savepointOf?_nestedEnded (t : TransactionId)
    (entries : List CallRecord) (u : TransactionId) :
    (l.nestedEnded t entries).savepointOf? u = l.savepointOf? u :=
  bind_withEnded (fun _ _ _ => rfl) t u

/-- The connection stays when a nested transaction ends. -/
theorem connectionOf?_nestedEnded (t : TransactionId)
    (entries : List CallRecord) (u : TransactionId) :
    (l.nestedEnded t entries).connectionOf? u = l.connectionOf? u :=
  bind_withEnded (fun _ _ _ => rfl) t u

/-- The chain of a transaction that has a connection. -/
theorem exists_of_connectionOf? {t : TransactionId} {c : Nat}
    (h : l.connectionOf? t = some c) :
    ∃ tx, l.transactions[t]? = some tx
      ∧ l.connections[tx.chain]? = some (some c) := by
  obtain ⟨tx, htx, hc⟩ := Option.bind_eq_some_iff.mp h
  refine ⟨tx, htx, ?_⟩
  cases hk : l.connections[tx.chain]? with
  | none =>
      rw [hk] at hc
      cases hc
  | some c' =>
      rw [hk] at hc
      exact congrArg some hc

/-- The connection of a root goes with it, and no other one does. -/
theorem connectionOf?_rootEnded (h : l.Wiring) {t : TransactionId} {c : Nat}
    (hc : l.connectionOf? t = some c) (entries : List CallRecord)
    (u : TransactionId) (c' : Nat) :
    (l.rootEnded t entries).connectionOf? u = some c'
      ↔ l.connectionOf? u = some c' ∧ c' ≠ c := by
  obtain ⟨tx, htx, hchain⟩ := exists_of_connectionOf? hc
  have hlookup : (l.rootEnded t entries).connectionOf? u
      = l.transactions[u]?.bind fun ux =>
          (l.connections.modify tx.chain fun _ => none)[ux.chain]?.join := by
    rw [← transaction_eq_of_getElem? htx]
    exact bind_withEnded (fun _ _ _ => rfl) t u
  rw [hlookup]
  unfold connectionOf?
  cases hux : l.transactions[u]? with
  | none => simp
  | some ux =>
      rw [Option.bind_some, Option.bind_some]
      -- in the chain of the root, or in one that has another connection
      by_cases hsame : tx.chain = ux.chain
      · rw [← hsame, List.getElem?_modify_eq, hchain]
        constructor
        · intro hnone
          cases hnone
        · rintro ⟨heq, hne⟩
          exact absurd (Option.some.inj heq).symm hne
      · rw [List.getElem?_modify_ne _ _ hsame]
        constructor
        · intro hc'
          refine ⟨hc', ?_⟩
          rintro rfl
          have hux' : l.connectionOf? u = some c' := by
            unfold connectionOf?
            rw [hux, Option.bind_some, hc']
          obtain ⟨ux', hux'', hchain'⟩ := exists_of_connectionOf? hux'
          rw [hux] at hux''
          cases hux''
          exact hsame (h.distinct hchain hchain')
        · exact fun hc' => hc'.1

-- ============================================================== the log

/-- Every transaction is still there after a step, with the savepoint it had;
one that has ended stays ended. -/
theorem kept_step {l' : Ledger} {op : Operation} (hstep : Step l op l')
    {t : Nat} {tx : Transaction} (htx : l.transactions[t]? = some tx) :
    ∃ tx', l'.transactions[t]? = some tx' ∧ tx'.savepoint = tx.savepoint
      ∧ (tx.finished = true → tx'.finished = true) := by
  have hlt := (List.getElem?_eq_some_iff.mp htx).1
  have hended : ∀ t', ∃ tx', (l.withEnded t')[t]? = some tx'
      ∧ tx'.savepoint = tx.savepoint
      ∧ (tx.finished = true → tx'.finished = true) := by
    intro t'
    refine ⟨_, getElem?_withEnded_of_some htx, rfl, ?_⟩
    intro hfinished
    rw [hfinished]
    rfl
  cases hstep with
  | refused => exact ⟨tx, htx, rfl, fun h => h⟩
  | unconnected => exact ⟨tx, htx, rfl, fun h => h⟩
  | abandoned => exact ⟨tx, htx, rfl, fun h => h⟩
  | begun =>
      refine ⟨tx, ?_, rfl, fun h => h⟩
      exact (List.getElem?_append_left hlt).trans htx
  | unmarked => exact ⟨tx, htx, rfl, fun h => h⟩
  | nested =>
      exact ⟨_, getElem?_nested_of_some _ htx, rfl, fun h => h⟩
  | rootEnded how hends => exact hended _
  | released how hends => exact hended _
  | reverted how hends => exact hended _
  | worked => exact ⟨tx, htx, rfl, fun h => h⟩

/-- The log is only ever added to. -/
theorem log_step {l' : Ledger} {op : Operation} (hstep : Step l op l') :
    ∃ entries, l'.log = l.log ++ entries := by
  cases hstep with
  | refused => exact ⟨[], (List.append_nil _).symm⟩
  | _ => exact ⟨_, rfl⟩

/-- What the log remembers of the connections and the savepoints. -/
structure Logged (l : Ledger) : Prop where
  /-- Calls were made on connections that were opened. -/
  opened : ∀ {entry : CallRecord} {c : Nat}, entry ∈ l.log →
    entry.connection = some c → c < l.opened
  /-- What was given up is the savepoint of a transaction that has ended. -/
  released : ∀ {entry : CallRecord} {name : String}, entry ∈ l.log →
    entry.call = .releaseSavepoint name →
    ∃ (t : Nat) (tx : Transaction), l.transactions[t]? = some tx
      ∧ tx.savepoint = some name ∧ tx.finished = true

/-- A log remembers more after a step. -/
theorem Logged.more {l' : Ledger} (h : l.Logged)
    (hkept : ∀ {t : Nat} {tx : Transaction}, l.transactions[t]? = some tx →
      ∃ tx', l'.transactions[t]? = some tx' ∧ tx'.savepoint = tx.savepoint
        ∧ (tx.finished = true → tx'.finished = true))
    (hopened : l.opened ≤ l'.opened)
    {entries : List CallRecord} (hlog : l'.log = l.log ++ entries)
    (hconnections : ∀ entry ∈ entries, ∀ c, entry.connection = some c →
      c < l'.opened)
    (hreleased : ∀ entry ∈ entries, ∀ name,
      entry.call = .releaseSavepoint name →
      ∃ (t : Nat) (tx : Transaction), l'.transactions[t]? = some tx
        ∧ tx.savepoint = some name ∧ tx.finished = true) : l'.Logged := by
  constructor
  · intro entry c hmem hc
    rw [hlog] at hmem
    rcases List.mem_append.mp hmem with hmem | hmem
    · exact Nat.lt_of_lt_of_le (h.opened hmem hc) hopened
    · exact hconnections entry hmem c hc
  · intro entry name hmem hcall
    rw [hlog] at hmem
    rcases List.mem_append.mp hmem with hmem | hmem
    · obtain ⟨t, tx, htx, hname, hfinished⟩ := h.released hmem hcall
      obtain ⟨tx', htx', hname', hfinished'⟩ := hkept htx
      exact ⟨t, tx', htx', hname'.trans hname, hfinished' hfinished⟩
    · exact hreleased entry hmem name hcall

/-- Connections that transactions have were opened. -/
theorem Wiring.lt_opened (h : l.Wiring) {t : TransactionId} {c : Nat}
    (hc : l.connectionOf? t = some c) : c < l.opened := by
  obtain ⟨tx, -, hchain⟩ := exists_of_connectionOf? hc
  exact h.opened hchain

/-- The savepoint of a transaction that ends is that of an ended one. -/
theorem ended_of_ends {t : TransactionId} {c : Nat} (hends : l.Ends t c)
    {name : String} (hname : (l.transaction t).savepoint = some name) :
    ∃ (u : Nat) (ux : Transaction), (l.withEnded t)[u]? = some ux
      ∧ ux.savepoint = some name ∧ ux.finished = true := by
  refine ⟨t, _, getElem?_withEnded_of_some (getElem?_of_isOpen hends.isOpen),
    hname, ?_⟩
  simp

/-- Every step is remembered. -/
theorem logged_step {l' : Ledger} {op : Operation} (hwiring : l.Wiring)
    (h : l.Logged) (hstep : Step l op l') : l'.Logged := by
  have hkept := @kept_step l l' op hstep
  cases hstep with
  | refused => exact h
  -- none of these ends a savepoint
  | unconnected readOnly failure =>
      refine h.more hkept (Nat.le_refl _) rfl ?_ ?_
      · simp
      · simp
  | abandoned readOnly failure closing =>
      refine h.more hkept (by simp) rfl ?_ ?_
      · simp
      · simp
  | begun readOnly =>
      refine h.more hkept (by simp) rfl ?_ ?_
      · simp
      · simp
  | unmarked hopen hc failure =>
      have hlt := hwiring.lt_opened hc
      refine h.more hkept (Nat.le_refl _) rfl ?_ ?_
      · simpa using hlt
      · simp
  | nested hopen hc =>
      have hlt := hwiring.lt_opened hc
      refine h.more hkept (Nat.le_refl _) rfl ?_ ?_
      · simpa using hlt
      · simp
  -- the end of a root is a commit or a rollback
  | rootEnded how hends hroot ended closed =>
      have hlt := hwiring.lt_opened hends.connection
      refine h.more hkept (by simp) rfl ?_ ?_
      · simpa using hlt
      · generalize how.outcome _ = outcome
        cases outcome <;> simp [Outcome.call]
  -- the calls that end a savepoint are those of a transaction that has ended
  -- then
  | released how hends hnested hcommit released =>
      have hlt := hwiring.lt_opened hends.connection
      refine h.more hkept (Nat.le_refl _) rfl ?_ ?_
      · simpa using hlt
      · intro entry hmem name hcall
        cases List.mem_singleton.mp hmem
        cases hcall
        exact ended_of_ends hends hnested
  | reverted how hends hnested hrollback reverted released =>
      have hlt := hwiring.lt_opened hends.connection
      refine h.more hkept (Nat.le_refl _) rfl ?_ ?_
      · simpa using hlt
      · intro entry hmem name hcall
        rcases List.mem_cons.mp hmem with rfl | hmem
        · cases hcall
        · cases List.mem_singleton.mp hmem
          cases hcall
          exact ended_of_ends hends hnested
  -- what work is never ends a savepoint
  | worked hadmits =>
      refine h.more hkept (Nat.le_refl _) rfl ?_ ?_
      · intro entry hmem c hc
        have hadmitted := hadmits entry hmem
        exact hwiring.lt_opened (hadmitted.connection_eq ▸ hc)
      · intro entry hmem name hcall
        have hwork := (hadmits entry hmem).isWork
        rw [hcall] at hwork
        cases hwork

/-- A savepoint of an open transaction was not given up. -/
theorem Logged.not_released (h : l.Logged) (hnesting : l.Nesting) {t : Nat}
    (hopen : l.IsOpen t) {name : String}
    (hname : (l.transaction t).savepoint = some name) {entry : CallRecord}
    (hmem : entry ∈ l.log) : entry.call ≠ .releaseSavepoint name := by
  intro hcall
  obtain ⟨u, ux, hux, huname, hfinished⟩ := h.released hmem hcall
  have ht : l.savepointOf? t = some name :=
    (savepointOf?_of_isOpen hopen).trans hname
  have hu : l.savepointOf? u = some name := by
    unfold savepointOf?
    rw [hux, Option.bind_some, huname]
  cases hnesting.savepointOf?_injective ht hu
  have hunfinished : (l.transaction t).finished = false := hopen
  rw [transaction_eq_of_getElem? hux, hfinished] at hunfinished
  cases hunfinished

/-- A name that was not handed out was not given up. -/
theorem Logged.not_released_next (h : l.Logged) (hnesting : l.Nesting)
    {entry : CallRecord} (hmem : entry ∈ l.log) :
    entry.call ≠ .releaseSavepoint (l.savepointName (l.last + 1)) := by
  intro hcall
  obtain ⟨u, ux, hux, huname, -⟩ := h.released hmem hcall
  refine hnesting.savepointOf?_ne_next u ?_
  unfold savepointOf?
  rw [hux, Option.bind_some, huname]

end Ledger

namespace Session

variable {config : Config} {driver : Driver} {schema : Schema} {s : Session}

/-- A session that starts has its driver, and nothing was begun. -/
theorem start_fresh (hstart : start config driver = .ok s) :
    s.driver = driver ∧ s.transactions = [] := by
  obtain ⟨accepted, -, rfl⟩ := eq_of_start hstart
  exact ⟨rfl, rfl⟩

/-- A driver that has recorded nothing remembers nothing. -/
theorem logged_start (hstart : start config driver = .ok s)
    (hlog : driver.log = []) : s.ledger.Logged := by
  have hempty : s.ledger.log = [] := by
    rw [log_ledger, (start_fresh hstart).1, hlog]
  constructor <;> intro entry _ hmem <;> rw [hempty] at hmem <;> cases hmem

/-- An operation is remembered. -/
theorem logged_perform (hconsistent : s.ledger.Consistent)
    (h : s.ledger.Logged) (op : Operation) :
    (s.perform schema op).ledger.Logged :=
  Ledger.logged_step hconsistent.wiring h
    (step_perform schema s hconsistent.connected op)

/-- The log of a session is only ever added to. -/
theorem log_performAll (h : s.ledger.Consistent) (ops : List Operation) :
    ∃ more, (s.performAll schema ops).driver.log = s.driver.log ++ more := by
  induction ops generalizing s with
  | nil => exact ⟨[], (List.append_nil _).symm⟩
  | cons op ops ih =>
      obtain ⟨more, hmore⟩ := ih (consistent_perform h op)
      obtain ⟨first, hfirst⟩ :=
        Ledger.log_step (step_perform schema s h.connected op)
      refine ⟨first ++ more, hmore.trans ?_⟩
      show (s.perform schema op).ledger.log ++ more = _
      rw [hfirst, List.append_assoc]
      rfl

end Session

end DataAccess
