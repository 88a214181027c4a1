/-
How transactions are nested. The transactions of a ledger are a forest, told
by their parents, and most of what a transaction carries says something about
its place in it: its chain and whether it is read-only are those of its
parent, it has a savepoint if it has a parent, and it counts the transactions
nested directly in it that are open.

`Nesting` is all of this as an invariant, together with the one order that is
kept: a parent is open as long as anything in it is. `nesting_step` proves
that every step keeps it.

# The argument

Only two things about a transaction ever change, whether it has ended and
how many open children it counts, and they change in two ways.

- A nested transaction is added and its parent counts it. The parent is open
  then, so the new transaction is under open ones.
- A transaction ends and its parent counts one less. It counts no open child
  itself, and because the counts are right that means that it has none; so no
  open transaction is left under one that has ended. Its parent counts at
  least this one, so the subtraction takes away what was there.
-/
import DataAccess.Proofs.Session.Stepping

namespace DataAccess

-- ============================================================== counting

/-- Changing one entry of a list changes a count by that entry. -/
theorem countP_modify {α : Type} (p : α → Bool) (f : α → α) :
    ∀ {xs : List α} {i : Nat} {x : α}, xs[i]? = some x →
      (xs.modify i f).countP p + (if p x then 1 else 0)
        = xs.countP p + (if p (f x) then 1 else 0) := by
  intro xs
  induction xs with
  | nil =>
      intro i x h
      cases h
  | cons y ys ih =>
      intro i x h
      cases i with
      | zero =>
          cases h
          simp only [List.modify_zero_cons, List.countP_cons]
          omega
      | succ i =>
          have htail := ih (i := i) h
          simp only [List.modify_succ_cons, List.countP_cons]
          omega

/-- A change that a count does not see. -/
theorem countP_modify_same {α : Type} {p : α → Bool} {f : α → α}
    (h : ∀ x, p (f x) = p x) (xs : List α) (i : Nat) :
    (xs.modify i f).countP p = xs.countP p := by
  cases hx : xs[i]? with
  | none =>
      rw [List.modify_eq_self (List.getElem?_eq_none_iff.mp hx)]
  | some x =>
      have hcount := countP_modify p f hx
      rw [h x] at hcount
      omega

/-- The entries of a list of which one was changed. -/
theorem getElem?_modify_cases {α : Type} {f : α → α} {xs : List α}
    {i j : Nat} {y : α} (h : (xs.modify i f)[j]? = some y) :
    ∃ x, xs[j]? = some x ∧ y = if i = j then f x else x := by
  rw [List.getElem?_modify] at h
  cases hx : xs[j]? with
  | none =>
      rw [hx] at h
      cases h
  | some x =>
      rw [hx] at h
      refine ⟨x, rfl, ?_⟩
      by_cases hi : i = j
      · simp only [hi, if_true] at h ⊢
        exact (Option.some.inj h).symm
      · simp only [hi, if_false] at h ⊢
        exact (Option.some.inj h).symm

/-- The entries of a list with one more at its end. -/
theorem getElem?_concat_cases {α : Type} {xs : List α} {x y : α} {i : Nat}
    (h : (xs ++ [x])[i]? = some y) :
    xs[i]? = some y ∨ (i = xs.length ∧ y = x) := by
  rw [List.getElem?_append] at h
  split at h
  · exact Or.inl h
  · next hge =>
    rw [List.getElem?_singleton] at h
    split at h
    · next hzero =>
      cases h
      exact Or.inr ⟨by omega, rfl⟩
    · cases h

/-- Whether a transaction is open and nested directly in another one. -/
def Transaction.isOpenChildOf (tx : Transaction) (t : TransactionId) : Bool :=
  tx.parent == some t && !tx.finished

namespace Ledger

variable {l : Ledger} {t : Nat}

/-- How many transactions are open and nested directly in another one. -/
def openChildrenOf (l : Ledger) (t : TransactionId) : Nat :=
  l.transactions.countP (·.isOpenChildOf t)

-- ============================================================= invariant

/-- The transactions are a forest of open and ended ones, with the open ones
at the top. -/
structure Nesting (l : Ledger) : Prop where
  /-- A parent was begun before, on the same chain and as read-only as its
  child, and it is open while the child is. -/
  parent : ∀ {t p : Nat} {tx : Transaction},
    l.transactions[t]? = some tx → tx.parent = some p →
    p < t ∧ ∃ ptx, l.transactions[p]? = some ptx ∧ ptx.chain = tx.chain
      ∧ ptx.readOnly = tx.readOnly
      ∧ (tx.finished = false → ptx.finished = false)
  /-- Just the nested ones have a savepoint, which is named by their
  number. -/
  savepoint : ∀ {t : Nat} {tx : Transaction},
    l.transactions[t]? = some tx →
    tx.savepoint = tx.parent.map fun _ => l.savepointName tx.number
  /-- Numbers were handed out. -/
  number_le : ∀ {t : Nat} {tx : Transaction},
    l.transactions[t]? = some tx → tx.number ≤ l.last
  /-- Numbers grow with the places. -/
  number_lt : ∀ {t u : Nat} {tx ux : Transaction},
    l.transactions[t]? = some tx → l.transactions[u]? = some ux → t < u →
    tx.number < ux.number
  /-- The counts are right. -/
  openChildren : ∀ {t : Nat} {tx : Transaction},
    l.transactions[t]? = some tx → tx.openChildren = l.openChildrenOf t

/-- A ledger in which nothing was begun. -/
theorem nesting_nil (h : l.transactions = []) : l.Nesting := by
  constructor <;> intros <;> simp_all

/-- The invariant is about the transactions, the numbers and the prefix of
the savepoints only. -/
theorem Nesting.congr {l' : Ledger} (h : l.Nesting)
    (htransactions : l'.transactions = l.transactions)
    (hnames : l'.savepointPrefix = l.savepointPrefix)
    (hlast : l.last ≤ l'.last) : l'.Nesting := by
  constructor
  · intro t p tx htx hp
    rw [htransactions] at htx ⊢
    exact h.parent htx hp
  · intro t tx htx
    rw [htransactions] at htx
    rw [h.savepoint htx]
    unfold savepointName
    rw [hnames]
  · intro t tx htx
    rw [htransactions] at htx
    exact Nat.le_trans (h.number_le htx) hlast
  · intro t u tx ux htx hux
    rw [htransactions] at htx hux
    exact h.number_lt htx hux
  · intro t tx htx
    rw [htransactions] at htx
    rw [h.openChildren htx]
    unfold openChildrenOf
    rw [htransactions]

/-- No transaction under one that is not there yet. -/
theorem Nesting.openChildrenOf_eq_zero (h : l.Nesting)
    (ht : l.transactions.length ≤ t) : l.openChildrenOf t = 0 := by
  unfold openChildrenOf
  rw [List.countP_eq_zero]
  intro tx hmem hchild
  obtain ⟨i, hi⟩ := List.getElem?_of_mem hmem
  simp only [Transaction.isOpenChildOf, Bool.and_eq_true, beq_iff_eq] at hchild
  obtain ⟨hlt, -⟩ := h.parent hi hchild.1
  have hbound := (List.getElem?_eq_some_iff.mp hi).1
  omega

/-- A transaction without open children has none in the forest. -/
theorem Nesting.finished_of_childless (h : l.Nesting) {tx ux : Transaction}
    (htx : l.transactions[t]? = some tx) (hchildless : tx.openChildren = 0)
    {u : TransactionId} (hux : l.transactions[u]? = some ux)
    (hparent : ux.parent = some t) : ux.finished = true := by
  rw [h.openChildren htx] at hchildless
  unfold openChildrenOf at hchildless
  rw [List.countP_eq_zero] at hchildless
  have hnot := hchildless ux (List.mem_of_getElem? hux)
  cases hfinished : ux.finished with
  | true => rfl
  | false => simp [Transaction.isOpenChildOf, hparent, hfinished] at hnot

-- =========================================================== a new root

/-- A new root transaction is under nothing. -/
theorem Nesting.begun (h : l.Nesting) (readOnly : Bool) :
    (l.begun readOnly).Nesting := by
  have hcount : ∀ t, (l.begun readOnly).openChildrenOf t
      = l.openChildrenOf t := by
    intro t
    unfold openChildrenOf
    show (l.transactions ++ [l.newRoot readOnly]).countP _ = _
    rw [List.countP_append]
    rfl
  constructor
  · intro t p tx htx hp
    rcases getElem?_concat_cases htx with hold | ⟨-, rfl⟩
    · obtain ⟨hlt, ptx, hptx, hsame⟩ := h.parent hold hp
      refine ⟨hlt, ptx, ?_, hsame⟩
      exact List.getElem?_append_left (List.getElem?_eq_some_iff.mp hptx).1 ▸ hptx
    · cases hp
  · intro t tx htx
    rcases getElem?_concat_cases htx with hold | ⟨-, rfl⟩
    · exact h.savepoint hold
    · rfl
  · intro t tx htx
    rcases getElem?_concat_cases htx with hold | ⟨-, rfl⟩
    · exact Nat.le_succ_of_le (h.number_le hold)
    · exact Nat.le_refl _
  · intro t u tx ux htx hux hlt
    rcases getElem?_concat_cases htx with htx | ⟨ht, rfl⟩
    · rcases getElem?_concat_cases hux with hux | ⟨-, rfl⟩
      · exact h.number_lt htx hux hlt
      · exact Nat.lt_succ_of_le (h.number_le htx)
    · -- nothing stands behind the last one
      have hbound := (List.getElem?_eq_some_iff.mp hux).1
      change u < (l.transactions ++ [_]).length at hbound
      rw [List.length_append, List.length_singleton] at hbound
      omega
  · intro t tx htx
    rw [hcount]
    rcases getElem?_concat_cases htx with hold | ⟨rfl, rfl⟩
    · exact h.openChildren hold
    · exact (h.openChildrenOf_eq_zero (Nat.le_refl _)).symm

-- ================================================== a nested transaction

/-- What counting one more child makes of each transaction. -/
theorem getElem?_withOpenChild_cases {p i : Nat} {tx' : Transaction}
    (h : (l.withOpenChild p)[i]? = some tx') :
    ∃ tx, l.transactions[i]? = some tx ∧ tx' = { tx with
      openChildren := tx.openChildren + if p = i then 1 else 0 } := by
  obtain ⟨tx, htx, rfl⟩ := getElem?_modify_cases h
  refine ⟨tx, htx, ?_⟩
  by_cases hi : p = i <;> simp [hi]

/-- Each transaction is there after one more child was counted. -/
theorem getElem?_withOpenChild_of_some {p i : Nat} {tx : Transaction}
    (h : l.transactions[i]? = some tx) :
    (l.withOpenChild p)[i]? = some { tx with
      openChildren := tx.openChildren + if p = i then 1 else 0 } := by
  obtain ⟨tx', htx'⟩ : ∃ tx', (l.withOpenChild p)[i]? = some tx' := by
    have hlt := (List.getElem?_eq_some_iff.mp h).1
    refine ⟨_, List.getElem?_eq_getElem ?_⟩
    unfold withOpenChild
    rw [List.length_modify]
    exact hlt
  obtain ⟨tx₀, htx₀, rfl⟩ := getElem?_withOpenChild_cases htx'
  rw [h] at htx₀
  cases htx₀
  exact htx'

theorem length_withOpenChild (p : TransactionId) :
    (l.withOpenChild p).length = l.transactions.length :=
  List.length_modify ..

/-- What the beginning of a nested transaction makes of one that was
there. -/
theorem getElem?_nested_of_some {p i : Nat} {tx : Transaction} (c : Nat)
    (h : l.transactions[i]? = some tx) :
    (l.nested p c).transactions[i]? = some { tx with
      openChildren := tx.openChildren + if p = i then 1 else 0 } := by
  refine (List.getElem?_append_left ?_).trans
    (getElem?_withOpenChild_of_some h)
  rw [length_withOpenChild]
  exact (List.getElem?_eq_some_iff.mp h).1

/-- The new one stands behind them. -/
theorem getElem?_nested_length (p : TransactionId) (c : Nat) :
    (l.nested p c).transactions[l.transactions.length]?
      = some (l.newNested p) := by
  rw [← length_withOpenChild p]
  exact List.getElem?_concat_length

/-- There are no others. -/
theorem getElem?_nested_cases {p c i : Nat} {tx' : Transaction}
    (h : (l.nested p c).transactions[i]? = some tx') :
    (∃ tx, l.transactions[i]? = some tx ∧ tx' = { tx with
        openChildren := tx.openChildren + if p = i then 1 else 0 })
      ∨ (i = l.transactions.length ∧ tx' = l.newNested p) := by
  rcases getElem?_concat_cases h with hold | ⟨hi, rfl⟩
  · exact Or.inl (getElem?_withOpenChild_cases hold)
  · exact Or.inr ⟨hi.trans (length_withOpenChild p), rfl⟩

/-- The parent has one open child more. -/
theorem openChildrenOf_nested (p : TransactionId) (c : Nat)
    (t : TransactionId) :
    (l.nested p c).openChildrenOf t
      = l.openChildrenOf t + if p = t then 1 else 0 := by
  have hsame : (l.withOpenChild p).countP (·.isOpenChildOf t)
      = l.openChildrenOf t :=
    countP_modify_same (f := fun p : Transaction =>
      { p with openChildren := p.openChildren + 1 }) (fun _ => rfl)
      l.transactions p
  unfold openChildrenOf at hsame ⊢
  show (l.withOpenChild p ++ [l.newNested p]).countP _ = _
  rw [List.countP_append, hsame]
  by_cases ht : p = t <;>
    simp [Transaction.isOpenChildOf, newNested, ht]

/-- A nested transaction is counted by its parent, which is open. -/
theorem Nesting.nested (h : l.Nesting) {p : TransactionId}
    (hopen : l.IsOpen p) (c : Nat) : (l.nested p c).Nesting := by
  constructor
  · intro t q tx' htx' hq
    rcases getElem?_nested_cases htx' with ⟨tx, htx, rfl⟩ | ⟨rfl, rfl⟩
    · obtain ⟨hlt, qtx, hqtx, hsame⟩ := h.parent htx hq
      exact ⟨hlt, _, getElem?_nested_of_some c hqtx, hsame⟩
    · cases hq
      exact ⟨lt_of_isOpen hopen, _,
        getElem?_nested_of_some c (getElem?_of_isOpen hopen), rfl, rfl,
        fun _ => hopen⟩
  · intro t tx' htx'
    rcases getElem?_nested_cases htx' with ⟨tx, htx, rfl⟩ | ⟨-, rfl⟩
    · have hold := h.savepoint htx
      exact hold
    · rfl
  · intro t tx' htx'
    rcases getElem?_nested_cases htx' with ⟨tx, htx, rfl⟩ | ⟨-, rfl⟩
    · have hold := h.number_le htx
      exact Nat.le_succ_of_le hold
    · exact Nat.le_refl _
  · intro t u tx' ux' htx' hux' hlt
    rcases getElem?_nested_cases htx' with ⟨tx, htx, rfl⟩ | ⟨rfl, rfl⟩
    · rcases getElem?_nested_cases hux' with ⟨ux, hux, rfl⟩ | ⟨-, rfl⟩
      · have hold := h.number_lt htx hux hlt
        exact hold
      · have hold := h.number_le htx
        exact Nat.lt_succ_of_le hold
    · -- nothing stands behind the last one
      rcases getElem?_nested_cases hux' with ⟨ux, hux, -⟩ | ⟨rfl, -⟩
      · have hbound := (List.getElem?_eq_some_iff.mp hux).1
        omega
      · omega
  · intro t tx' htx'
    rw [openChildrenOf_nested]
    rcases getElem?_nested_cases htx' with ⟨tx, htx, rfl⟩ | ⟨rfl, rfl⟩
    · rw [← h.openChildren htx]
    · have hne : p ≠ l.transactions.length :=
        Nat.ne_of_lt (lt_of_isOpen hopen)
      rw [h.openChildrenOf_eq_zero (Nat.le_refl _), if_neg hne]
      rfl

-- =============================================================== an ending

/-- What the end of a transaction makes of each one. -/
theorem getElem?_withEnded_cases {t i : Nat} {tx' : Transaction}
    (h : (l.withEnded t)[i]? = some tx') :
    ∃ tx, l.transactions[i]? = some tx ∧ tx' = { tx with
      finished := tx.finished || decide (t = i)
      openChildren := tx.openChildren
        - if (l.transaction t).parent = some i then 1 else 0 } := by
  unfold withEnded at h
  cases hp : (l.transaction t).parent with
  | none =>
      simp only [hp] at h
      obtain ⟨tx, htx, rfl⟩ := getElem?_modify_cases h
      refine ⟨tx, htx, ?_⟩
      by_cases hi : t = i <;> simp [hi]
  | some p =>
      simp only [hp] at h
      obtain ⟨tx', htx', rfl⟩ := getElem?_modify_cases h
      obtain ⟨tx, htx, rfl⟩ := getElem?_modify_cases htx'
      refine ⟨tx, htx, ?_⟩
      by_cases hi : t = i <;> by_cases hpi : p = i <;> simp [hi, hpi]

theorem length_withEnded (l : Ledger) (t : TransactionId) :
    (l.withEnded t).length = l.transactions.length := by
  unfold withEnded
  cases (l.transaction t).parent with
  | none => exact List.length_modify ..
  | some p => exact (List.length_modify ..).trans (List.length_modify ..)

/-- Each transaction is there after one of them ended. -/
theorem getElem?_withEnded_of_some {t i : Nat} {tx : Transaction}
    (h : l.transactions[i]? = some tx) :
    (l.withEnded t)[i]? = some { tx with
      finished := tx.finished || decide (t = i)
      openChildren := tx.openChildren
        - if (l.transaction t).parent = some i then 1 else 0 } := by
  obtain ⟨tx', htx'⟩ : ∃ tx', (l.withEnded t)[i]? = some tx' := by
    have hlt := (List.getElem?_eq_some_iff.mp h).1
    refine ⟨_, List.getElem?_eq_getElem ?_⟩
    rw [length_withEnded]
    exact hlt
  obtain ⟨tx₀, htx₀, rfl⟩ := getElem?_withEnded_cases htx'
  rw [h] at htx₀
  cases htx₀
  exact htx'

/-- The end of an open transaction takes one from the children of its
parent. -/
theorem countP_withEnded {t : TransactionId} (hopen : l.IsOpen t)
    (u : TransactionId) :
    (l.withEnded t).countP (·.isOpenChildOf u)
        + (if (l.transaction t).parent = some u then 1 else 0)
      = l.openChildrenOf u := by
  have hended := countP_modify (·.isOpenChildOf u)
    (fun tx => { tx with finished := true }) (getElem?_of_isOpen hopen)
  have hunfinished : (l.transaction t).finished = false := hopen
  simp only [Transaction.isOpenChildOf, hunfinished, Bool.not_false,
    Bool.and_true, Bool.not_true, Bool.and_false, beq_iff_eq,
    Bool.false_eq_true, if_false, Nat.add_zero] at hended
  unfold withEnded openChildrenOf
  cases hp : (l.transaction t).parent with
  | none =>
      rw [hp] at hended
      exact hended
  | some p =>
      rw [hp] at hended
      dsimp only
      rw [countP_modify_same (f := fun p : Transaction =>
        { p with openChildren := p.openChildren - 1 }) (fun _ => rfl)]
      exact hended

/-- The parent of an open transaction counts it. -/
theorem Nesting.parent_openChildren_pos (h : l.Nesting) {t p : TransactionId}
    (hopen : l.IsOpen t) (hp : (l.transaction t).parent = some p) :
    0 < (l.transaction p).openChildren := by
  obtain ⟨-, ptx, hptx, -⟩ := h.parent (getElem?_of_isOpen hopen) hp
  rw [transaction_eq_of_getElem? hptx, h.openChildren hptx,
    ← countP_withEnded hopen p, if_pos hp]
  exact Nat.succ_pos _

/-- A transaction that has ended, without an open one in it. -/
theorem Nesting.ended (h : l.Nesting) {t : TransactionId}
    (hopen : l.IsOpen t) (hchildless : (l.transaction t).openChildren = 0)
    {l' : Ledger} (htransactions : l'.transactions = l.withEnded t)
    (hnames : l'.savepointPrefix = l.savepointPrefix)
    (hlast : l'.last = l.last) : l'.Nesting := by
  have hentry := getElem?_of_isOpen hopen
  have hname : ∀ n, l'.savepointName n = l.savepointName n := by
    intro n
    unfold savepointName
    rw [hnames]
  constructor
  · intro u p ux' hux' hp
    rw [htransactions] at hux' ⊢
    obtain ⟨ux, hux, rfl⟩ := getElem?_withEnded_cases hux'
    obtain ⟨hlt, ptx, hptx, hchain, hreadOnly, hfinished⟩ := h.parent hux hp
    refine ⟨hlt, _, getElem?_withEnded_of_some hptx, hchain, hreadOnly, ?_⟩
    intro hunfinished
    simp only [Bool.or_eq_false_iff, decide_eq_false_iff_not] at hunfinished ⊢
    refine ⟨hfinished hunfinished.1, ?_⟩
    -- the parent is not the one that ended, which has no open child
    rintro rfl
    have hended := h.finished_of_childless hentry hchildless hux hp
    rw [hunfinished.1] at hended
    cases hended
  · intro u ux' hux'
    rw [htransactions] at hux'
    obtain ⟨ux, hux, rfl⟩ := getElem?_withEnded_cases hux'
    rw [hname]
    have hold := h.savepoint hux
    exact hold
  · intro u ux' hux'
    rw [htransactions] at hux'
    obtain ⟨ux, hux, rfl⟩ := getElem?_withEnded_cases hux'
    rw [hlast]
    have hold := h.number_le hux
    exact hold
  · intro u v ux' vx' hux' hvx' hlt
    rw [htransactions] at hux' hvx'
    obtain ⟨ux, hux, rfl⟩ := getElem?_withEnded_cases hux'
    obtain ⟨vx, hvx, rfl⟩ := getElem?_withEnded_cases hvx'
    have hold := h.number_lt hux hvx hlt
    exact hold
  · intro u ux' hux'
    rw [htransactions] at hux'
    obtain ⟨ux, hux, rfl⟩ := getElem?_withEnded_cases hux'
    have hcount := countP_withEnded hopen u
    unfold openChildrenOf at hcount ⊢
    rw [htransactions, h.openChildren hux]
    unfold openChildrenOf
    dsimp only
    omega

/-- An ending takes away one open child that was counted, and no more. -/
theorem Nesting.openChildren_withEnded (h : l.Nesting) {t p : TransactionId}
    (hopen : l.IsOpen t) (hp : (l.transaction t).parent = some p)
    {l' : Ledger} (htransactions : l'.transactions = l.withEnded t) :
    (l'.transaction p).openChildren + 1 = (l.transaction p).openChildren := by
  obtain ⟨-, ptx, hptx, -⟩ := h.parent (getElem?_of_isOpen hopen) hp
  have hpos := h.parent_openChildren_pos hopen hp
  have hptx' := getElem?_withEnded_of_some (t := t) hptx
  rw [← htransactions] at hptx'
  rw [transaction_eq_of_getElem? hptx']
  rw [transaction_eq_of_getElem? hptx] at hpos ⊢
  rw [if_pos hp]
  dsimp only
  omega

-- ================================================================ the steps

/-- Every step keeps the transactions nested. -/
theorem nesting_step {l' : Ledger} {op : Operation} (h : l.Nesting)
    (hstep : Step l op l') : l'.Nesting := by
  cases hstep with
  | refused => exact h
  | unconnected => exact h.congr rfl rfl (Nat.le_refl _)
  | abandoned => exact h.congr rfl rfl (Nat.le_succ _)
  | begun readOnly => exact h.begun readOnly
  | unmarked => exact h.congr rfl rfl (Nat.le_succ _)
  | nested hopen => exact h.nested hopen _
  | rootEnded how hends => exact h.ended hends.isOpen hends.childless rfl rfl rfl
  | released how hends => exact h.ended hends.isOpen hends.childless rfl rfl rfl
  | reverted how hends => exact h.ended hends.isOpen hends.childless rfl rfl rfl
  | worked => exact h.congr rfl rfl (Nat.le_refl _)

/-- A transaction ends in one step only if that step is its own ending. -/
theorem Nesting.openChildren_step (h : l.Nesting) {l' : Ledger} {op : Operation}
    (hstep : Step l op l') {t p : TransactionId} (hopen : l.IsOpen t)
    (hended : ¬ l'.IsOpen t) (hp : (l.transaction t).parent = some p) :
    (l'.transaction p).openChildren + 1 = (l.transaction p).openChildren := by
  have hentry := getElem?_of_isOpen hopen
  -- no ending, no end
  have hstays : ∀ {tx : Transaction}, l'.transactions[t]? = some tx →
      tx.finished = (l.transaction t).finished → False := by
    intro tx htx hsame
    refine hended ?_
    unfold IsOpen
    rw [transaction_eq_of_getElem? htx, hsame]
    exact hopen
  -- an ending of another one is no end of this one
  have hother : ∀ {u : TransactionId}, l.IsOpen u →
      l'.transactions = l.withEnded u →
      (l'.transaction p).openChildren + 1
        = (l.transaction p).openChildren := by
    intro u hu htransactions
    by_cases hut : u = t
    · subst hut
      exact h.openChildren_withEnded hopen hp htransactions
    · have hkept := getElem?_withEnded_of_some (t := u) hentry
      rw [← htransactions] at hkept
      exact (hstays hkept (by simp [hut])).elim
  cases hstep with
  | refused => exact absurd hopen hended
  | unconnected => exact absurd hopen hended
  | abandoned => exact absurd hopen hended
  | begun readOnly =>
      have hkept : (l.begun readOnly).transactions[t]?
          = some (l.transaction t) :=
        (List.getElem?_append_left
          (List.getElem?_eq_some_iff.mp hentry).1).trans hentry
      exact (hstays hkept rfl).elim
  | unmarked => exact absurd hopen hended
  | @nested q c =>
      exact (hstays (getElem?_nested_of_some (p := q) c hentry) rfl).elim
  | rootEnded how hends => exact hother hends.isOpen rfl
  | released how hends => exact hother hends.isOpen rfl
  | reverted how hends => exact hother hends.isOpen rfl
  | worked => exact absurd hopen hended

end Ledger

end DataAccess
