/-
What holds of a session at any time. A session is reached from its start by
any operations, on any transactions, in any order, whatever the driver does;
`consistent_performAll` proves that its ledger is `Consistent` then: its
transactions are nested as `Proofs/Session/Nesting` says, and its chains have
their connections as `Wiring` says, each until its root ends, and each a
connection of its own.

Two things that the code takes for granted follow. A transaction that is open
has its connection, so that no operation fails for one that is gone. And when
a transaction ends its parent counts it, so that taking one from the count
never stops at zero.
-/
import DataAccess.Proofs.Session.Nesting

namespace DataAccess

namespace Ledger

variable {l : Ledger}

-- ============================================================== invariants

/-- The chains have their connections. -/
structure Wiring (l : Ledger) : Prop where
  chain_lt : ∀ {t : Nat} {tx : Transaction},
    l.transactions[t]? = some tx → tx.chain < l.connections.length
  /-- A connection is there exactly while the root is open. -/
  root : ∀ {t : Nat} {tx : Transaction},
    l.transactions[t]? = some tx → tx.parent = none →
    (l.connections[tx.chain]?.join.isSome ↔ tx.finished = false)
  /-- A chain has one root. -/
  root_unique : ∀ {t u : Nat} {tx ux : Transaction},
    l.transactions[t]? = some tx → l.transactions[u]? = some ux →
    tx.parent = none → ux.parent = none → tx.chain = ux.chain → t = u
  /-- Connections were opened. -/
  opened : ∀ {i c : Nat}, l.connections[i]? = some (some c) → c < l.opened
  /-- No two chains share a connection. -/
  distinct : ∀ {i j c : Nat}, l.connections[i]? = some (some c) →
    l.connections[j]? = some (some c) → i = j

/-- What holds of a ledger at any time. -/
structure Consistent (l : Ledger) : Prop where
  nesting : l.Nesting
  wiring : l.Wiring

/-- The wiring is about the transactions, the connections of the chains, and
how many connections were opened. -/
theorem Wiring.congr {l' : Ledger} (h : l.Wiring)
    (htransactions : l'.transactions = l.transactions)
    (hconnections : l'.connections = l.connections)
    (hopened : l.opened ≤ l'.opened) : l'.Wiring := by
  constructor
  · intro t tx htx
    rw [htransactions] at htx
    rw [hconnections]
    exact h.chain_lt htx
  · intro t tx htx
    rw [htransactions] at htx
    rw [hconnections]
    exact h.root htx
  · intro t u tx ux htx hux
    rw [htransactions] at htx hux
    exact h.root_unique htx hux
  · intro i c hc
    rw [hconnections] at hc
    exact Nat.lt_of_lt_of_le (h.opened hc) hopened
  · intro i j c hi hj
    rw [hconnections] at hi hj
    exact h.distinct hi hj

/-- A new root has a connection that no other chain has. -/
theorem Wiring.begun (h : l.Wiring) (readOnly : Bool) :
    (l.begun readOnly).Wiring := by
  have hold : ∀ {t : Nat} {tx : Transaction},
      l.transactions[t]? = some tx →
      (l.begun readOnly).connections[tx.chain]?
        = l.connections[tx.chain]? := by
    intro t tx htx
    exact List.getElem?_append_left (h.chain_lt htx)
  have hlast : (l.begun readOnly).connections[l.connections.length]?
      = some (some l.opened) := List.getElem?_concat_length
  constructor
  · -- every chain has a place for its connection
    intro t tx htx
    show tx.chain < (l.connections ++ [some l.opened]).length
    rw [List.length_append, List.length_singleton]
    rcases getElem?_concat_cases htx with htx | ⟨-, rfl⟩
    · exact Nat.lt_succ_of_lt (h.chain_lt htx)
    · exact Nat.lt_succ_self _
  · -- the new root is open, and it has a connection
    intro t tx htx hparent
    rcases getElem?_concat_cases htx with htx | ⟨-, rfl⟩
    · rw [hold htx]
      exact h.root htx hparent
    · show (l.begun readOnly).connections[l.connections.length]?.join.isSome
        ↔ false = false
      rw [hlast]
      exact ⟨fun _ => rfl, fun _ => rfl⟩
  · -- one root for each chain: the new one has a chain that no old one has
    intro t u tx ux htx hux htp hup hchain
    rcases getElem?_concat_cases htx with htx | ⟨ht, rfl⟩ <;>
      rcases getElem?_concat_cases hux with hux | ⟨hu, rfl⟩
    · exact h.root_unique htx hux htp hup hchain
    · exact absurd hchain (Nat.ne_of_lt (h.chain_lt htx))
    · exact absurd hchain.symm (Nat.ne_of_lt (h.chain_lt hux))
    · rw [ht, hu]
  · -- connections are numbered below the count of those opened
    intro i c hc
    rw [opened_begun]
    rcases getElem?_concat_cases hc with hc | ⟨-, hc⟩
    · exact Nat.lt_succ_of_lt (h.opened hc)
    · cases hc
      exact Nat.lt_succ_self _
  · -- no two chains have one connection: the new one has a number of its own
    intro i j c hi hj
    rcases getElem?_concat_cases hi with hi | ⟨hi, hci⟩ <;>
      rcases getElem?_concat_cases hj with hj | ⟨hj, hcj⟩
    · exact h.distinct hi hj
    · cases hcj
      exact absurd (h.opened hi) (Nat.lt_irrefl _)
    · cases hci
      exact absurd (h.opened hj) (Nat.lt_irrefl _)
    · rw [hi, hj]

/-- A nested transaction goes on the connection of its parent. -/
theorem Wiring.nested (h : l.Wiring) {p : TransactionId}
    (hopen : l.IsOpen p) (c : Nat) : (l.nested p c).Wiring := by
  have hcases : ∀ {t : Nat} {tx : Transaction},
      (l.nested p c).transactions[t]? = some tx → tx.parent = none →
      ∃ tx₀, l.transactions[t]? = some tx₀ ∧ tx₀.parent = none
        ∧ tx₀.chain = tx.chain ∧ tx₀.finished = tx.finished := by
    intro t tx htx hparent
    rcases getElem?_nested_cases htx with ⟨tx₀, htx₀, rfl⟩ | ⟨-, rfl⟩
    · exact ⟨tx₀, htx₀, hparent, rfl, rfl⟩
    · cases hparent
  constructor
  · intro t tx htx
    rcases getElem?_nested_cases htx with ⟨tx₀, htx₀, rfl⟩ | ⟨-, rfl⟩
    · have hold := h.chain_lt htx₀
      exact hold
    · have hparent := h.chain_lt (getElem?_of_isOpen hopen)
      exact hparent
  · intro t tx htx hparent
    obtain ⟨tx₀, htx₀, hparent₀, hchain, hfinished⟩ := hcases htx hparent
    rw [← hchain, ← hfinished]
    exact h.root htx₀ hparent₀
  · intro t u tx ux htx hux htp hup hchain
    obtain ⟨tx₀, htx₀, htp₀, htc, -⟩ := hcases htx htp
    obtain ⟨ux₀, hux₀, hup₀, huc, -⟩ := hcases hux hup
    exact h.root_unique htx₀ hux₀ htp₀ hup₀ (by rw [htc, huc, hchain])
  · exact h.opened
  · exact h.distinct

/-- What an ending leaves of a transaction is what wiring is about. -/
theorem withEnded_cases {t u : Nat} {ux : Transaction}
    (h : (l.withEnded t)[u]? = some ux) :
    ∃ ux₀, l.transactions[u]? = some ux₀ ∧ ux₀.parent = ux.parent
      ∧ ux₀.chain = ux.chain
      ∧ (t ≠ u → ux₀.finished = ux.finished)
      ∧ (t = u → ux.finished = true) := by
  obtain ⟨ux₀, hux₀, rfl⟩ := getElem?_withEnded_cases h
  refine ⟨ux₀, hux₀, rfl, rfl, ?_, ?_⟩
  · intro hne
    simp [hne]
  · intro heq
    simp [heq]

/-- The connection of a chain goes with its root. -/
theorem Wiring.rootEnded (h : l.Wiring) {t : TransactionId}
    (hopen : l.IsOpen t) (hroot : (l.transaction t).parent = none)
    (entries : List CallRecord) : (l.rootEnded t entries).Wiring := by
  have hentry := getElem?_of_isOpen hopen
  have hgone : ∀ {i c : Nat},
      (l.rootEnded t entries).connections[i]? = some (some c) →
      l.connections[i]? = some (some c) := by
    intro i c hc
    obtain ⟨old, hold, heq⟩ := getElem?_modify_cases hc
    by_cases hi : (l.transaction t).chain = i
    · rw [if_pos hi] at heq
      cases heq
    · rw [if_neg hi] at heq
      rw [hold, heq]
  constructor
  · intro u ux hux
    obtain ⟨ux₀, hux₀, -, hchain, -⟩ := withEnded_cases hux
    show ux.chain < (l.connections.modify _ _).length
    rw [List.length_modify, ← hchain]
    exact h.chain_lt hux₀
  · intro u ux hux hparent
    obtain ⟨ux₀, hux₀, hparent₀, hchain, hother, hself⟩ := withEnded_cases hux
    show (l.connections.modify (l.transaction t).chain
      fun _ => none)[ux.chain]?.join.isSome ↔ _
    rw [← hchain]
    -- the root itself has lost its connection, and no other root is of its
    -- chain
    by_cases htu : t = u
    · subst htu
      rw [hentry] at hux₀
      cases hux₀
      rw [hself rfl, List.getElem?_modify_eq]
      cases l.connections[(l.transaction t).chain]? <;> simp
    · have hne : (l.transaction t).chain ≠ ux₀.chain := fun heq =>
        htu (h.root_unique hentry hux₀ hroot (hparent₀.trans hparent) heq)
      rw [List.getElem?_modify_ne _ _ hne, ← hother htu]
      exact h.root hux₀ (hparent₀.trans hparent)
  · intro u v ux vx hux hvx hup hvp hchain
    obtain ⟨ux₀, hux₀, hup₀, huc, -⟩ := withEnded_cases hux
    obtain ⟨vx₀, hvx₀, hvp₀, hvc, -⟩ := withEnded_cases hvx
    exact h.root_unique hux₀ hvx₀ (hup₀.trans hup) (hvp₀.trans hvp)
      (by rw [huc, hvc, hchain])
  · intro i c hc
    rw [opened_rootEnded]
    exact h.opened (hgone hc)
  · intro i j c hi hj
    exact h.distinct (hgone hi) (hgone hj)

/-- The connection of a chain stays when a nested transaction ends. -/
theorem Wiring.nestedEnded (h : l.Wiring) {t : TransactionId}
    (hnested : (l.transaction t).parent ≠ none) (entries : List CallRecord) :
    (l.nestedEnded t entries).Wiring := by
  constructor
  · intro u ux hux
    obtain ⟨ux₀, hux₀, -, hchain, -⟩ := withEnded_cases hux
    rw [← hchain]
    exact h.chain_lt hux₀
  · intro u ux hux hparent
    obtain ⟨ux₀, hux₀, hparent₀, hchain, hother, -⟩ := withEnded_cases hux
    have htu : t ≠ u := by
      rintro rfl
      rw [transaction_eq_of_getElem? hux₀] at hnested
      exact hnested (hparent₀.trans hparent)
    rw [← hchain, ← hother htu]
    exact h.root hux₀ (hparent₀.trans hparent)
  · intro u v ux vx hux hvx hup hvp hchain
    obtain ⟨ux₀, hux₀, hup₀, huc, -⟩ := withEnded_cases hux
    obtain ⟨vx₀, hvx₀, hvp₀, hvc, -⟩ := withEnded_cases hvx
    exact h.root_unique hux₀ hvx₀ (hup₀.trans hup) (hvp₀.trans hvp)
      (by rw [huc, hvc, hchain])
  · exact h.opened
  · exact h.distinct

-- ================================================================ the steps

/-- A transaction without a savepoint is a root. -/
theorem Nesting.parent_eq_none_iff (h : l.Nesting) {t : TransactionId}
    (hopen : l.IsOpen t) :
    (l.transaction t).parent = none ↔ (l.transaction t).savepoint = none := by
  rw [h.savepoint (getElem?_of_isOpen hopen), Option.map_eq_none_iff]

/-- Every step keeps a ledger consistent. -/
theorem consistent_step {l' : Ledger} {op : Operation} (h : l.Consistent)
    (hstep : Step l op l') : l'.Consistent := by
  refine ⟨nesting_step h.nesting hstep, ?_⟩
  cases hstep with
  | refused => exact h.wiring
  | unconnected => exact h.wiring.congr rfl rfl (Nat.le_refl _)
  | abandoned =>
      refine h.wiring.congr rfl rfl ?_
      rw [opened_abandoned]
      exact Nat.le_succ _
  | begun readOnly => exact h.wiring.begun readOnly
  | unmarked => exact h.wiring.congr rfl rfl (Nat.le_refl _)
  | nested hopen => exact h.wiring.nested hopen _
  | rootEnded how hends hroot =>
      exact h.wiring.rootEnded hends.isOpen
        ((h.nesting.parent_eq_none_iff hends.isOpen).mpr hroot) _
  | released how hends hnested =>
      refine h.wiring.nestedEnded ?_ _
      rw [ne_eq, h.nesting.parent_eq_none_iff hends.isOpen, hnested]
      simp
  | reverted how hends hnested =>
      refine h.wiring.nestedEnded ?_ _
      rw [ne_eq, h.nesting.parent_eq_none_iff hends.isOpen, hnested]
      simp
  | worked => exact h.wiring.congr rfl rfl (Nat.le_refl _)

-- ================================================================ the roots

/-- Every transaction is under a root of its chain, which is as read-only as
it is, and open while it is. -/
theorem Nesting.exists_root (h : l.Nesting) {t : Nat} {tx : Transaction}
    (htx : l.transactions[t]? = some tx) :
    ∃ (r : Nat) (rtx : Transaction),
      l.transactions[r]? = some rtx ∧ rtx.parent = none
      ∧ rtx.chain = tx.chain ∧ rtx.readOnly = tx.readOnly
      ∧ (tx.finished = false → rtx.finished = false) := by
  induction t using Nat.strongRecOn generalizing tx with
  | ind t ih =>
      cases hp : tx.parent with
      | none => exact ⟨t, tx, htx, hp, rfl, rfl, fun h => h⟩
      | some p =>
          obtain ⟨hlt, ptx, hptx, hchain, hreadOnly, hopen⟩ := h.parent htx hp
          obtain ⟨r, rtx, hrtx, hroot, hchain', hreadOnly', hopen'⟩ :=
            ih p hlt hptx
          exact ⟨r, rtx, hrtx, hroot, hchain'.trans hchain,
            hreadOnly'.trans hreadOnly, fun h => hopen' (hopen h)⟩

/-- What is open is connected. -/
theorem Consistent.connected (h : l.Consistent) (t : TransactionId) :
    l.Connected t := by
  intro hopen
  have hentry := getElem?_of_isOpen hopen
  obtain ⟨r, rtx, hrtx, hroot, hchain, -, hopen'⟩ := h.nesting.exists_root hentry
  unfold connectionOf?
  rw [hentry, Option.bind_some, ← hchain]
  exact (h.wiring.root hrtx hroot).mpr (hopen' hopen)

end Ledger

namespace Session

variable {config : Config} {driver : Driver} {schema : Schema} {s : Session}

-- ================================================================= the runs

/-- What starts has the configuration, once it is accepted, and the driver,
and nothing else. -/
theorem eq_of_start (hstart : start config driver = .ok s) :
    ∃ accepted, config.validate = .ok accepted
      ∧ s = ⟨accepted, driver, .startingAfter 0, [], [], [], []⟩ := by
  obtain ⟨accepted, haccepted, heq⟩ := Except.bind_eq_ok_iff.mp hstart
  exact ⟨accepted, haccepted, (Except.ok.inj heq).symm⟩

/-- A session in which nothing has happened is consistent. -/
theorem consistent_start (hstart : start config driver = .ok s) :
    s.ledger.Consistent := by
  obtain ⟨accepted, -, rfl⟩ := eq_of_start hstart
  refine ⟨Ledger.nesting_nil rfl, ?_⟩
  constructor <;> intros <;> simp_all [ledger, connections]

/-- An operation keeps a session consistent. -/
theorem consistent_perform (h : s.ledger.Consistent) (op : Operation) :
    (s.perform schema op).ledger.Consistent :=
  Ledger.consistent_step h (step_perform schema s h.connected op)

/-- A run keeps a session consistent. -/
theorem consistent_performAll (h : s.ledger.Consistent)
    (ops : List Operation) : (s.performAll schema ops).ledger.Consistent := by
  induction ops generalizing s with
  | nil => exact h
  | cons op ops ih => exact ih (consistent_perform h op)

-- ======================================================= what a caller sees

/-- How many transactions are open and nested directly in another one. -/
def openChildrenOf (s : Session) (t : TransactionId) : Nat :=
  s.transactions.countP (·.isOpenChildOf t)

/-- A transaction is another one, or it is nested in it to some depth. -/
inductive Within (s : Session) (a : TransactionId) : TransactionId → Prop where
  | self : Within s a a
  | nested {t p : TransactionId} (hp : (s.transaction t).parent = some p)
      (h : Within s a p) : Within s a t

/-- The root of a transaction: the one it is nested in that is nested in
none. -/
structure RootOf (s : Session) (r t : TransactionId) : Prop where
  within : s.Within r t
  isRoot : (s.transaction r).isRoot = true

/-- How the transactions of a session belong together. -/
structure WellKept (s : Session) : Prop where
  openChildren : ∀ t, (s.transaction t).openChildren = s.openChildrenOf t
  childless : ∀ t, (s.transaction t).finished = true →
    (s.transaction t).openChildren = 0
  ancestors : ∀ a t, s.Within a t → (s.transaction t).finished = false →
    (s.transaction a).finished = false
  rooted : ∀ t, ∃ r, s.RootOf r t
  readOnly : ∀ r t, s.RootOf r t →
    (s.transaction t).readOnly = (s.transaction r).readOnly
  savepoint : ∀ t, (s.transaction t).savepoint.isSome
    ↔ (s.transaction t).isRoot = false
  connection : ∀ r t, s.RootOf r t →
    ((s.connectionOf? t).isSome ↔ (s.transaction r).finished = false)

/-- What stands for a transaction that was never begun. -/
theorem transaction_of_none {t : TransactionId}
    (h : s.transactions[t]? = none) : s.transaction t = Transaction.absent := by
  unfold transaction
  rw [h]
  rfl

theorem transaction_of_some {t : TransactionId} {tx : Transaction}
    (h : s.transactions[t]? = some tx) : s.transaction t = tx := by
  unfold transaction
  rw [h]
  rfl

/-- The parent of a transaction was begun before it. -/
theorem parent_of_consistent (h : s.ledger.Consistent)
    {t p : TransactionId} (hp : (s.transaction t).parent = some p) :
    (p : Nat) < t ∧ (s.transaction p).chain = (s.transaction t).chain
      ∧ (s.transaction p).readOnly = (s.transaction t).readOnly
      ∧ ((s.transaction t).finished = false →
        (s.transaction p).finished = false)
      ∧ p < s.transactions.length ∧ t < s.transactions.length := by
  cases htx : s.transactions[t]? with
  | none =>
      rw [transaction_of_none htx] at hp
      cases hp
  | some tx =>
      rw [transaction_of_some htx] at hp ⊢
      obtain ⟨hlt, ptx, hptx, hchain, hreadOnly, hopen⟩ :=
        h.nesting.parent htx hp
      rw [transaction_of_some hptx]
      exact ⟨hlt, hchain, hreadOnly, hopen,
        (List.getElem?_eq_some_iff.mp hptx).1,
        (List.getElem?_eq_some_iff.mp htx).1⟩

/-- What is handed down from a transaction to those nested in it. -/
theorem within_of_consistent (h : s.ledger.Consistent)
    {a t : TransactionId} (hwithin : s.Within a t) :
    (s.transaction a).chain = (s.transaction t).chain
      ∧ (s.transaction a).readOnly = (s.transaction t).readOnly
      ∧ ((s.transaction t).finished = false →
        (s.transaction a).finished = false)
      ∧ (t < s.transactions.length → a < s.transactions.length) := by
  induction hwithin with
  | self => exact ⟨rfl, rfl, fun h => h, fun h => h⟩
  | nested hp _ ih =>
      obtain ⟨-, hchain, hreadOnly, hopen, hlt, -⟩ := parent_of_consistent h hp
      exact ⟨ih.1.trans hchain, ih.2.1.trans hreadOnly,
        fun hunfinished => ih.2.2.1 (hopen hunfinished),
        fun _ => ih.2.2.2 hlt⟩

/-- Going up from a transaction ends at a root. -/
theorem exists_rootOf (h : s.ledger.Consistent) (t : TransactionId) :
    ∃ r, s.RootOf r t := by
  induction t using Nat.strongRecOn with
  | ind t ih =>
      cases hp : (s.transaction t).parent with
      | none =>
          exact ⟨t, .self, by rw [Transaction.isRoot, hp]; rfl⟩
      | some p =>
          obtain ⟨r, hwithin, hroot⟩ := ih p (parent_of_consistent h hp).1
          exact ⟨r, .nested hp hwithin, hroot⟩

/-- A transaction has the connection of its chain, which is there while the
root is open. -/
theorem connectionOf?_isSome_iff (h : s.ledger.Consistent)
    {r t : TransactionId} (hr : s.RootOf r t) :
    (s.connectionOf? t).isSome ↔ (s.transaction r).finished = false := by
  obtain ⟨hwithin, hroot⟩ := hr
  cases htx : s.transactions[t]? with
  | none =>
      -- nothing was begun here, so this is its own root and has ended
      have habsent := transaction_of_none htx
      have hself : r = t := by
        cases hwithin with
        | self => rfl
        | nested hp _ =>
            rw [habsent] at hp
            cases hp
      rw [hself, habsent, s.connectionOf?_eq, htx]
      simp [Transaction.absent]
  | some tx =>
      obtain ⟨hchain, -, -, hbegun⟩ := within_of_consistent h hwithin
      have hlt := hbegun (List.getElem?_eq_some_iff.mp htx).1
      have hparent : (s.transaction r).parent = none :=
        Option.isNone_iff_eq_none.mp hroot
      obtain ⟨rtx, hrtx⟩ : ∃ rtx, s.transactions[r]? = some rtx :=
        ⟨_, List.getElem?_eq_getElem hlt⟩
      rw [transaction_of_some hrtx] at hchain hparent ⊢
      rw [transaction_of_some htx] at hchain
      rw [s.connectionOf?_eq, htx, Option.bind_some, ← hchain]
      exact h.wiring.root hrtx hparent

/-- A consistent ledger is that of a session whose transactions belong
together. -/
theorem wellKept_of_consistent (h : s.ledger.Consistent) : s.WellKept := by
  have hcount : ∀ t, (s.transaction t).openChildren = s.openChildrenOf t := by
    intro t
    cases htx : s.transactions[t]? with
    | none =>
        rw [transaction_of_none htx]
        exact (h.nesting.openChildrenOf_eq_zero
          (List.getElem?_eq_none_iff.mp htx)).symm
    | some tx =>
        rw [transaction_of_some htx]
        exact h.nesting.openChildren htx
  constructor
  · exact hcount
  · -- a finished transaction has no open child, for what has one is open
    intro t hfinished
    rw [hcount]
    unfold openChildrenOf
    rw [List.countP_eq_zero]
    intro ux hmem hchild
    obtain ⟨u, hux⟩ := List.getElem?_of_mem hmem
    simp only [Transaction.isOpenChildOf, Bool.and_eq_true, beq_iff_eq,
      Bool.not_eq_true'] at hchild
    have hp : (s.transaction u).parent = some t := by
      rw [transaction_of_some hux]
      exact hchild.1
    obtain ⟨-, -, -, hopen, -⟩ := parent_of_consistent h hp
    rw [transaction_of_some hux, hfinished] at hopen
    cases hopen hchild.2
  · intro a t hwithin
    exact (within_of_consistent h hwithin).2.2.1
  · exact exists_rootOf h
  · intro r t hr
    exact (within_of_consistent h hr.within).2.1.symm
  · intro t
    cases htx : s.transactions[t]? with
    | none =>
        rw [transaction_of_none htx]
        simp [Transaction.absent, Transaction.isRoot]
    | some tx =>
        rw [transaction_of_some htx, h.nesting.savepoint htx]
        unfold Transaction.isRoot
        cases tx.parent <;> simp
  · intro r t hr
    exact connectionOf?_isSome_iff h hr

/-- In every session that is reached by any operations, whatever the driver
does, the transactions belong together; no operation fails for a connection
that is gone, unless a function of the caller makes up such a failure; and a
transaction that ends was counted by its parent, which counts one less from
then on. -/
theorem wellKept_performAll (hstart : start config driver = .ok s)
    (ops : List Operation) :
    (s.performAll schema ops).WellKept
      ∧ (∀ op : Operation, op.Trusted schema →
        Sound ((op.run schema).answer (s.performAll schema ops)))
      ∧ ∀ (op : Operation) (t p : TransactionId),
        ((s.performAll schema ops).transaction t).parent = some p →
        ((s.performAll schema ops).transaction t).finished = false →
        (((s.performAll schema ops).perform schema op).transaction t).finished
          = true →
        (((s.performAll schema ops).perform schema op).transaction p).openChildren
            + 1
          = ((s.performAll schema ops).transaction p).openChildren := by
  have h : (s.performAll schema ops).ledger.Consistent :=
    consistent_performAll (consistent_start hstart) ops
  refine ⟨wellKept_of_consistent h, ?_, ?_⟩
  · intro op htrusted
    exact sound_perform schema _ h.connected htrusted
  · intro op t p hp hopen hended
    exact h.nesting.openChildren_step
      (step_perform schema _ h.connected op) hopen
      (Ledger.not_isOpen_iff.mpr hended) hp

/-- A session under the default configuration in which nothing has
happened. -/
def blank (driver : Driver) : Session :=
  { config := Config.default, driver
    numbers := NumberSequence.startingAfter 0, chains := []
    transactions := [], instances := [], events := [] }

/-- With the default configuration a session starts blank. -/
theorem start_default (driver : Driver) :
    start Config.default driver = .ok (blank driver) := rfl

/-- A driver that fails to give up the first savepoint. -/
def holdingOn : Driver :=
  Driver.empty.fail ⟨.releaseSavepoint, 0, ⟨"lost", none⟩⟩

/-- The commit of the nested transaction fails, and its root counts it no
more. -/
theorem wellKept_holdingOn :
    let s := (blank holdingOn).performAll [] [.begin false, .beginNested 0]
    s.WellKept
      ∧ Sound (((Operation.statement 1 (.query "SELECT 1" Params.empty .rows)).run
          []).answer s)
      ∧ (s.transaction 1).parent = some 0
      ∧ (s.transaction 1).finished = false
      ∧ ((s.perform [] (.ending 1 .commit)).transaction 1).finished = true
      ∧ ((s.perform [] (.ending 1 .commit)).transaction 0).openChildren + 1
        = (s.transaction 0).openChildren := by
  obtain ⟨hkept, hsound, hcounted⟩ := @wellKept_performAll _ _ [] _
    (start_default holdingOn) [.begin false, .beginNested 0]
  exact ⟨hkept, hsound (.statement 1 _) trivial, rfl, rfl, rfl,
    hcounted (.ending 1 .commit) 1 0 rfl rfl rfl⟩

end Session

end DataAccess
