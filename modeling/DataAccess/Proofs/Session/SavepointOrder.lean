/-
In which order savepoints are given up. A database keeps the savepoints of
a connection as a stack, so a log is last in, first out (`Server.Lifo`) if
every call that gives up a savepoint, or goes back to one, names the latest
that is live.

A session does not see to that. A transaction only knows how many are nested
in it, so two that are nested in the same one can end in any order, and a
savepoint that could not be given up stays on the stack. What it comes to
depends on the order in which the caller ends the transactions: the log is
last in, first out exactly if no transaction ends while one begun later on
its connection still holds its savepoint (`Session.EndsInReverse`).

The proof follows the stack. As long as the log is last in, first out, the
savepoints that are live on a connection are those that its transactions
hold, the newest transaction first (`Mirrors`).
-/
import DataAccess.Proofs.Session.History

namespace DataAccess

/-- The savepoint that a call gives up or goes back to. -/
def Call.target? : Call → Option String
  | .releaseSavepoint name => some name
  | .rollbackToSavepoint name => some name
  | _ => none

namespace Server

-- ============================================================ the stack

/-- Every call of a log that names a savepoint names the latest. -/
def Lifo (log : List CallRecord) : Prop :=
  ∀ (n : Nat) (entry : CallRecord) (c : Nat) (name : String),
    log[n]? = some entry → entry.connection = some c →
    entry.call.target? = some name →
    latest c (log.take n) = some name

theorem lifo_nil : Lifo [] := by
  intro n entry c name h
  cases h

/-- One more record has to name the latest savepoint, if any. -/
theorem lifo_concat (log : List CallRecord) (entry : CallRecord) :
    Lifo (log ++ [entry]) ↔ Lifo log
      ∧ ∀ c name, entry.connection = some c →
        entry.call.target? = some name → latest c log = some name := by
  constructor
  · intro h
    constructor
    · intro n entry' c name hentry hc hname
      have hlt := (List.getElem?_eq_some_iff.mp hentry).1
      have hlatest := h n entry' c name
        ((List.getElem?_append_left hlt).trans hentry) hc hname
      rw [List.take_append_of_le_length (Nat.le_of_lt hlt)] at hlatest
      exact hlatest
    · intro c name hc hname
      have hlatest := h log.length entry c name List.getElem?_concat_length
        hc hname
      rw [List.take_left] at hlatest
      exact hlatest
  · rintro ⟨h, hlast⟩ n entry' c name hentry hc hname
    have hlt := (List.getElem?_eq_some_iff.mp hentry).1
    rw [List.length_append, List.length_singleton] at hlt
    rw [List.take_append_of_le_length (Nat.le_of_lt_succ hlt)]
    rw [Ledger.getElem?_concat_eq] at hentry
    split at hentry
    · next hn =>
      cases hentry
      rw [hn, List.take_length]
      exact hlast c name hc hname
    · exact h n entry' c name hentry hc hname

/-- Records that name no savepoint are in order. -/
theorem lifo_append {log more : List CallRecord}
    (h : ∀ entry ∈ more, entry.call.target? = none) :
    Lifo (log ++ more) ↔ Lifo log := by
  induction more generalizing log with
  | nil => rw [List.append_nil]
  | cons entry more ih =>
      have hentry := h entry (List.mem_cons_self ..)
      rw [List.append_cons, ih fun e he => h e (List.mem_cons_of_mem _ he),
        lifo_concat]
      constructor
      · exact fun hlifo => hlifo.1
      · intro hlifo
        refine ⟨hlifo, ?_⟩
        intro c name _ hname
        rw [hentry] at hname
        cases hname

/-- A log that is in order was in order before. -/
theorem lifo_of_append {log more : List CallRecord}
    (h : Lifo (log ++ more)) : Lifo log := by
  intro n entry c name hentry hc hname
  have hlt := (List.getElem?_eq_some_iff.mp hentry).1
  have hlatest := h n entry c name
    ((List.getElem?_append_left hlt).trans hentry) hc hname
  rw [List.take_append_of_le_length (Nat.le_of_lt hlt)] at hlatest
  exact hlatest

-- ========================================================== quiet records

/-- A record that leaves the savepoints of a connection alone. -/
def Quiet (c : Nat) (entry : CallRecord) : Prop :=
  ¬ Counts c entry ∨ entry.call.isWork = true

/-- A record of another connection is quiet. -/
theorem quiet_of_ne {c : Nat} {entry : CallRecord}
    (h : entry.connection ≠ some c) : Quiet c entry :=
  Or.inl fun hcounts => h hcounts.1

/-- A record of a call that failed is quiet. -/
theorem quiet_of_failure (c : Nat) (connection : Option Nat) (call : Call)
    (failure : DriverError) : Quiet c ⟨connection, call, some failure⟩ :=
  Or.inl (not_counts_of_failure _ _ _)

/-- A quiet record leaves the marks as they are. -/
theorem replay_quiet {c : Nat} {v : Server} {log : List CallRecord}
    (h : ∀ entry ∈ log, Quiet c entry) :
    ∃ v', replay c v log = some v' ∧ v'.marks = v.marks := by
  induction log generalizing v with
  | nil => exact ⟨v, rfl, rfl⟩
  | cons entry log ih =>
      obtain ⟨v₁, hstep, hmarks₁⟩ : ∃ v₁, v.step c entry = some v₁
          ∧ v₁.marks = v.marks := by
        rcases h entry (List.mem_cons_self ..) with hnot | hwork
        · exact ⟨_, step_of_not_counts hnot, rfl⟩
        · exact ⟨_, step_work hwork, rfl⟩
      obtain ⟨v', hreplay, hmarks⟩ := ih (v := v₁)
        fun e he => h e (List.mem_cons_of_mem _ he)
      refine ⟨v', ?_, hmarks.trans hmarks₁⟩
      rw [replay_cons, hstep, Option.bind_some, hreplay]

/-- Going back to the latest savepoint leaves the marks as they are, whether
it fails or not. -/
theorem step_rollbackTo_latest {c : Nat} {v : Server} {name : String}
    {k : Nat} {older : List (String × Nat)} (hmarks : v.marks = (name, k) :: older)
    (failure : Option DriverError) :
    ∃ v', v.step c ⟨some c, .rollbackToSavepoint name, failure⟩ = some v'
      ∧ v'.marks = v.marks := by
  obtain ⟨kept, hkept, hstep⟩ := step_rollbackTo_below (c := c)
    (hmarks.trans (List.nil_append _).symm) (fun m hm => by cases hm) failure
  have hnil : kept = [] :=
    List.eq_nil_iff_forall_not_mem.mpr fun m hm => by cases hkept m hm
  refine ⟨_, hstep, ?_⟩
  rw [hnil, hmarks]
  rfl

/-- The end of the transaction with the latest savepoint forgets its mark,
if the savepoint is given up. -/
theorem Closing.replay {c : Nat} {v : Server} {name : String}
    {outcome : Outcome} {released : Option DriverError}
    {entries : List CallRecord}
    (h : Closing c name outcome released entries) {k : Nat}
    {older : List (String × Nat)} (hmarks : v.marks = (name, k) :: older) :
    ∃ v', replay c v entries = some v'
      ∧ v'.marks = if released = none then older else (name, k) :: older := by
  obtain ⟨kept, hkept, hreplay⟩ := h.replay_below (c := c)
    (hmarks.trans (List.nil_append _).symm) fun m hm => by cases hm
  have hnil : kept = [] :=
    List.eq_nil_iff_forall_not_mem.mpr fun m hm => by cases hkept m hm
  refine ⟨_, hreplay, ?_⟩
  rw [hnil]
  dsimp only
  split <;> rfl

/-- What it gives up is the savepoint of that name, unless it fails. -/
theorem Closing.mem_release_iff {c : Nat} {name name' : String}
    {outcome : Outcome} {released : Option DriverError}
    {entries : List CallRecord} (h : Closing c name outcome released entries) :
    (⟨some c, .releaseSavepoint name', none⟩ : CallRecord) ∈ entries
      ↔ released = none ∧ name' = name := by
  cases h with
  | kept =>
      simp only [List.mem_singleton, CallRecord.mk.injEq, true_and,
        Call.releaseSavepoint.injEq]
      exact ⟨fun h => ⟨h.2.symm, h.1⟩, fun h => ⟨h.2, h.1.symm⟩⟩
  | reverted reverted =>
      simp only [List.mem_cons, List.not_mem_nil, or_false,
        CallRecord.mk.injEq, true_and, Call.releaseSavepoint.injEq, reduceCtorEq,
        false_and, false_or]
      exact ⟨fun h => ⟨h.2.symm, h.1⟩, fun h => ⟨h.2, h.1.symm⟩⟩

/-- Going back to the latest savepoint leaves it the latest. -/
theorem latest_rollbackTo {c : Nat} {log : List CallRecord} {name : String}
    (h : latest c log = some name) (failure : Option DriverError) :
    latest c (log ++ [⟨some c, .rollbackToSavepoint name, failure⟩])
      = some name := by
  unfold latest at h ⊢
  obtain ⟨v, hreplay, hhead⟩ := Option.bind_eq_some_iff.mp h
  obtain ⟨m, hm, hname⟩ := Option.map_eq_some_iff.mp hhead
  obtain ⟨older, hmarks⟩ := List.head?_eq_some_iff.mp hm
  subst hname
  obtain ⟨v', hstep, hmarks'⟩ :=
    step_rollbackTo_latest (c := c) hmarks failure
  have hreplay' : replay c v [⟨some c, .rollbackToSavepoint m.1, failure⟩]
      = some v' := by
    rw [replay_cons, hstep]
    rfl
  rw [replay_trans hreplay hreplay', Option.bind_some, hmarks', hhead]

/-- The calls that end a nested transaction are in order if its savepoint
was the latest. -/
theorem Closing.lifo_iff {c : Nat} {name : String}
    {outcome : Outcome} {released : Option DriverError}
    {entries : List CallRecord}
    (h : Closing c name outcome released entries) (log : List CallRecord) :
    Lifo (log ++ entries) ↔ Lifo log ∧ latest c log = some name := by
  have hone : ∀ (log : List CallRecord) (entry : CallRecord),
      entry.connection = some c → entry.call.target? = some name →
      (Lifo (log ++ [entry]) ↔ Lifo log ∧ latest c log = some name) := by
    intro log entry hc hname
    rw [lifo_concat]
    constructor
    · exact fun h => ⟨h.1, h.2 c name hc hname⟩
    · rintro ⟨hlifo, hlatest⟩
      refine ⟨hlifo, ?_⟩
      intro c' name' hc' hname'
      rw [hc] at hc'
      rw [hname] at hname'
      cases hc'
      cases hname'
      exact hlatest
  cases h with
  | kept => exact hone log _ rfl rfl
  | reverted reverted =>
      rw [List.append_cons, hone _ _ rfl rfl, hone _ _ rfl rfl]
      constructor
      · exact fun h => h.1
      · exact fun h => ⟨h, latest_rollbackTo h.2 reverted⟩

end Server

namespace Ledger

variable {l : Ledger} {c : Nat}

-- ====================================================== held savepoints

/-- A transaction holds its savepoint on a connection: it has been set there
and not been given up. -/
def Holds (l : Ledger) (c : Nat) (t : TransactionId) : Prop :=
  l.connectionOf? t = some c ∧ ∃ name, l.savepointOf? t = some name
    ∧ (⟨some c, .releaseSavepoint name, none⟩ : CallRecord) ∉ l.log

/-- A transaction that an operation ends is the newest of its connection
that holds a savepoint. A root holds none. -/
def EndsNewest (l : Ledger) : Operation → Prop
  | .ending t _ =>
    l.IsOpen t → (l.transaction t).openChildren = 0 →
    ∀ c u, l.Holds c t → t < u → ¬ l.Holds c u
  | _ => True

/-- The savepoints that are live on a connection are those that are held
there, the newest first. -/
def Mirrors (l : Ledger) (c : Nat) : Prop :=
  ∃ (v : Server) (held : List Nat),
    Server.replay c Server.fresh l.log = some v
    ∧ held.Pairwise (· > ·)
    ∧ (∀ t, t ∈ held ↔ l.Holds c t)
    ∧ v.marks.map (fun m => some m.1) = held.map l.savepointOf?

/-- A transaction that has a connection was begun. -/
theorem lt_of_connectionOf? {t : TransactionId}
    (h : l.connectionOf? t = some c) : t < l.transactions.length := by
  obtain ⟨tx, htx, -⟩ := exists_of_connectionOf? h
  exact (List.getElem?_eq_some_iff.mp htx).1

/-- An open transaction that is nested holds its savepoint. -/
theorem Logged.holds (h : l.Logged) (hnesting : l.Nesting)
    {t : TransactionId} (hopen : l.IsOpen t) (hc : l.connectionOf? t = some c)
    {name : String} (hname : (l.transaction t).savepoint = some name) :
    l.Holds c t :=
  ⟨hc, name, (savepointOf?_of_isOpen hopen).trans hname,
    fun hmem => h.not_released hnesting hopen hname hmem rfl⟩

/-- The stack in detail, when a transaction is known to hold a savepoint:
it is not empty, and its top is the newest transaction. -/
theorem Mirrors.top (h : l.Mirrors c) {t : TransactionId} (ht : l.Holds c t) :
    ∃ (v : Server) (top : Nat) (rest : List Nat) (name : String) (k : Nat)
      (older : List (String × Nat)),
      Server.replay c Server.fresh l.log = some v
      ∧ (top :: rest).Pairwise (· > ·)
      ∧ (∀ u, u ∈ top :: rest ↔ l.Holds c u)
      ∧ v.marks = (name, k) :: older
      ∧ l.savepointOf? top = some name
      ∧ older.map (fun m => some m.1) = rest.map l.savepointOf? := by
  obtain ⟨v, held, hreplay, hsorted, hheld, hmarks⟩ := h
  cases held with
  | nil => cases (hheld t).mpr ht
  | cons top rest =>
      cases hv : v.marks with
      | nil =>
          rw [hv] at hmarks
          cases hmarks
      | cons m older =>
          rw [hv, List.map_cons, List.map_cons] at hmarks
          obtain ⟨htop, hrest⟩ := List.cons.inj hmarks
          exact ⟨v, top, rest, m.1, m.2, older, hreplay, hsorted, hheld, hv,
            htop.symm, hrest⟩

/-- The latest savepoint is that of the newest transaction that holds
one. -/
theorem Mirrors.latest_iff (h : l.Mirrors c) (hnesting : l.Nesting)
    {t : Nat} (ht : l.Holds c t) {name : String}
    (hname : l.savepointOf? t = some name) :
    Server.latest c l.log = some name ↔ ∀ u, t < u → ¬ l.Holds c u := by
  obtain ⟨v, top, rest, latest, k, older, hreplay, hsorted, hheld, hmarks,
    htop, -⟩ := h.top ht
  have hlatest : Server.latest c l.log = some latest := by
    unfold Server.latest
    rw [hreplay, Option.bind_some, hmarks]
    rfl
  have hbelow := (List.pairwise_cons.mp hsorted).1
  constructor
  · intro heq u hlt hu
    rw [hlatest] at heq
    cases heq
    cases hnesting.savepointOf?_injective htop hname
    rcases List.mem_cons.mp ((hheld u).mpr hu) with rfl | hmem
    · exact absurd hlt (Nat.lt_irrefl _)
    · exact absurd hlt (Nat.not_lt_of_gt (hbelow u hmem))
  · intro hnewest
    rcases List.mem_cons.mp ((hheld t).mpr ht) with rfl | hmem
    · rw [hlatest, ← htop, hname]
    · exact absurd ((hheld top).mp (List.mem_cons_self ..))
        (hnewest top (hbelow t hmem))

-- ======================================================= quiet operations

/-- What leaves the savepoints of a connection alone leaves it mirrored. -/
theorem Mirrors.framed {l' : Ledger} (h : l.Mirrors c)
    {entries : List CallRecord} (hlog : l'.log = l.log ++ entries)
    (hquiet : ∀ entry ∈ entries, Server.Quiet c entry)
    (hconnection : ∀ t, l'.connectionOf? t = some c
      ↔ l.connectionOf? t = some c)
    (hsavepoint : ∀ t, l.connectionOf? t = some c →
      l'.savepointOf? t = l.savepointOf? t) : l'.Mirrors c := by
  obtain ⟨v, held, hreplay, hsorted, hheld, hmarks⟩ := h
  obtain ⟨v', hreplay', hmarks'⟩ := Server.replay_quiet (v := v) hquiet
  refine ⟨v', held, ?_, hsorted, ?_, ?_⟩
  · rw [hlog]
    exact Server.replay_trans hreplay hreplay'
  · intro t
    rw [hheld]
    have hnew : ∀ name,
        (⟨some c, .releaseSavepoint name, none⟩ : CallRecord) ∉ entries := by
      intro name hmem
      rcases hquiet _ hmem with hnot | hwork
      · exact hnot ⟨rfl, rfl⟩
      · cases hwork
    unfold Holds
    rw [hconnection, hlog]
    constructor
    · rintro ⟨hc, name, hname, hout⟩
      refine ⟨hc, name, (hsavepoint t hc).trans hname, ?_⟩
      rw [List.mem_append]
      exact fun hmem => hmem.elim hout (hnew name)
    · rintro ⟨hc, name, hname, hout⟩
      refine ⟨hc, name, (hsavepoint t hc).symm.trans hname, ?_⟩
      exact fun hmem => hout (List.mem_append_left _ hmem)
  · rw [hmarks', hmarks]
    refine List.map_congr_left ?_
    intro t hmem
    exact (hsavepoint t ((hheld t).mp hmem).1).symm

-- ==================================================== the other operations

/-- On a connection that was just opened there is no savepoint, and nobody
holds one. -/
theorem mirrors_begun (hwiring : l.Wiring) (hlogged : l.Logged)
    (readOnly : Bool) : (l.begun readOnly).Mirrors l.opened := by
  -- the log does not know the connection yet
  have hold : ∃ v, Server.replay l.opened Server.fresh l.log = some v := by
    refine ⟨_, Server.replay_of_not_counts ?_⟩
    intro entry hmem hcounts
    exact absurd (hlogged.opened hmem hcounts.1) (Nat.lt_irrefl _)
  obtain ⟨v, hold⟩ := hold
  have hnew : ∃ v', Server.replay l.opened v
      [⟨none, .connect, none⟩, ⟨some l.opened, .begin readOnly, none⟩]
        = some v' ∧ v'.marks = [] := by
    refine ⟨{ v with clock := v.clock + 1 + 1, pending := [], marks := [] },
      ?_, rfl⟩
    rw [Server.replay_cons,
      Server.step_of_not_counts (Server.not_counts_connect _),
      Option.bind_some, Server.replay_cons, Server.step_of_counts]
    rfl
  obtain ⟨v', hnew, hmarks⟩ := hnew
  refine ⟨v', [], Server.replay_trans hold hnew, .nil, ?_, ?_⟩
  · intro t
    constructor
    · intro hmem
      cases hmem
    · rintro ⟨hc, name, hname, -⟩
      rw [savepointOf?_begun] at hname
      rw [connectionOf?_begun hwiring] at hc
      split at hc
      · next ht =>
        unfold savepointOf? at hname
        rw [List.getElem?_eq_none (Nat.le_of_eq ht.symm)] at hname
        cases hname
      · exact absurd (hwiring.lt_opened hc) (Nat.lt_irrefl _)
  · rw [hmarks]
    rfl

/-- A new nested transaction is the newest that holds a savepoint, and its
savepoint is the latest. -/
theorem Mirrors.nested (h : l.Mirrors c) (hnesting : l.Nesting)
    (hlogged : l.Logged) {p : TransactionId} (hopen : l.IsOpen p)
    (hc : l.connectionOf? p = some c) : (l.nested p c).Mirrors c := by
  obtain ⟨v, held, hreplay, hsorted, hheld, hmarks⟩ := h
  have hbound : ∀ t ∈ held, t < l.transactions.length := by
    intro t hmem
    exact lt_of_connectionOf? ((hheld t).mp hmem).1
  refine ⟨_, l.transactions.length :: held,
    Server.replay_trans hreplay
      (by rw [Server.replay_cons, Server.step_savepoint]; rfl), ?_, ?_, ?_⟩
  · exact List.pairwise_cons.mpr ⟨hbound, hsorted⟩
  · intro t
    unfold Holds
    rw [connectionOf?_nested hopen, savepointOf?_nested]
    have hrelease : ∀ name,
        (⟨some c, .releaseSavepoint name, none⟩ : CallRecord)
            ∉ (l.nested p c).log
          ↔ (⟨some c, .releaseSavepoint name, none⟩ : CallRecord) ∉ l.log := by
      intro name
      show _ ∉ l.log ++ _ ↔ _
      rw [List.mem_append]
      simp
    simp only [hrelease]
    by_cases ht : t = l.transactions.length
    · rw [if_pos ht, if_pos ht, ht]
      refine iff_of_true (List.mem_cons_self ..) ⟨hc, _, rfl, ?_⟩
      exact fun hmem => hlogged.not_released_next hnesting hmem rfl
    · rw [if_neg ht, if_neg ht, List.mem_cons, hheld]
      exact ⟨fun hmem => hmem.resolve_left ht, Or.inr⟩
  · show some _ :: v.marks.map (fun m => some m.1) = _ :: held.map _
    rw [hmarks, savepointOf?_nested, if_pos rfl]
    congr 1
    refine List.map_congr_left ?_
    intro t hmem
    rw [savepointOf?_nested, if_neg (Nat.ne_of_lt (hbound t hmem))]

/-- What is held after a nested transaction ended. -/
theorem holds_nestedEnded (hnesting : l.Nesting) {t : TransactionId}
    {name : String} (hname : l.savepointOf? t = some name)
    {outcome : Outcome} {released : Option DriverError}
    {entries : List CallRecord}
    (hclosing : Server.Closing c name outcome released entries) (u : TransactionId) :
    (l.nestedEnded t entries).Holds c u
      ↔ l.Holds c u ∧ (released = none → u ≠ t) := by
  unfold Holds
  rw [connectionOf?_nestedEnded, savepointOf?_nestedEnded]
  show _ ∧ (∃ name', _ ∧ _ ∉ l.log ++ entries) ↔ _
  simp only [List.mem_append, hclosing.mem_release_iff, not_or, not_and]
  constructor
  · rintro ⟨hc, name', hname', hnot, hother⟩
    refine ⟨⟨hc, name', hname', hnot⟩, ?_⟩
    rintro hreleased rfl
    rw [hname] at hname'
    exact hother hreleased (Option.some.inj hname').symm
  · rintro ⟨⟨hc, name', hname', hnot⟩, hother⟩
    refine ⟨hc, name', hname', hnot, ?_⟩
    rintro hreleased rfl
    exact hother hreleased (hnesting.savepointOf?_injective hname' hname)

/-- The end of the newest transaction that holds a savepoint: if the
savepoint is given up it is gone, else it stays. -/
theorem Mirrors.ended (h : l.Mirrors c) (hnesting : l.Nesting)
    {t : TransactionId} (ht : l.Holds c t) {name : String}
    (hname : l.savepointOf? t = some name)
    (hlatest : Server.latest c l.log = some name)
    {outcome : Outcome} {released : Option DriverError}
    {entries : List CallRecord}
    (hclosing : Server.Closing c name outcome released entries) :
    (l.nestedEnded t entries).Mirrors c := by
  have hnewest := (h.latest_iff hnesting ht hname).mp hlatest
  obtain ⟨v, top, rest, latest, k, older, hreplay, hsorted, hheld, hmarks,
    htop, hrest⟩ := h.top ht
  have hbelow := (List.pairwise_cons.mp hsorted).1
  -- the top of the stack is the savepoint of the transaction
  have htt : top = t := by
    rcases List.mem_cons.mp ((hheld t).mpr ht) with heq | hmem
    · exact heq.symm
    · exact absurd ((hheld top).mp (List.mem_cons_self ..))
        (hnewest top (hbelow t hmem))
  subst htt
  rw [hname] at htop
  cases htop
  obtain ⟨v', hreplay', hmarks'⟩ := hclosing.replay hmarks
  have hnames : ∀ us : List Nat, us.map l.savepointOf?
      = us.map (l.nestedEnded top entries).savepointOf? := by
    intro us
    exact List.map_congr_left fun u _ =>
      (savepointOf?_nestedEnded top entries u).symm
  cases released with
  | none =>
      refine ⟨v', rest, Server.replay_trans hreplay hreplay',
        (List.pairwise_cons.mp hsorted).2, ?_, ?_⟩
      · intro u
        rw [holds_nestedEnded hnesting hname hclosing, ← hheld, List.mem_cons]
        constructor
        · intro hmem
          exact ⟨Or.inr hmem, fun _ => Nat.ne_of_lt (hbelow u hmem)⟩
        · rintro ⟨hmem, hne⟩
          exact hmem.resolve_left (hne rfl)
      · rw [hmarks', if_pos rfl, hrest, hnames]
  | some failure =>
      refine ⟨v', top :: rest, Server.replay_trans hreplay hreplay', hsorted,
        ?_, ?_⟩
      · intro u
        rw [holds_nestedEnded hnesting hname hclosing, hheld]
        exact ⟨fun hu => ⟨hu, fun h => nomatch h⟩, fun hu => hu.1⟩
      · rw [hmarks', if_neg (fun h => nomatch h), ← hnames, List.map_cons,
          List.map_cons, hrest, hname]

-- ============================================================= the step

/-- The calls of the end of a nested transaction are in order exactly if it
is the newest that holds a savepoint. -/
theorem lifo_nestedEnded_iff (hnesting : l.Nesting) (hlogged : l.Logged)
    {t : TransactionId} (hends : l.Ends t c) (hmirrors : l.Mirrors c)
    {name : String} (hnested : (l.transaction t).savepoint = some name)
    {outcome : Outcome} {released : Option DriverError}
    {entries : List CallRecord}
    (hclosing : Server.Closing c name outcome released entries) (how : Ending) :
    Server.Lifo (l.log ++ entries)
      ↔ Server.Lifo l.log ∧ l.EndsNewest (.ending t how) := by
  have hname := (savepointOf?_of_isOpen hends.isOpen).trans hnested
  have hholds := hlogged.holds hnesting hends.isOpen hends.connection hnested
  rw [hclosing.lifo_iff, hmirrors.latest_iff hnesting hholds hname]
  refine and_congr_right fun _ => ?_
  constructor
  · intro hnewest _ _ c' u ht hlt
    have hc := ht.1
    rw [hends.connection] at hc
    cases hc
    exact hnewest u hlt
  · intro hnewest u hlt
    exact hnewest hends.isOpen hends.childless c u hholds hlt

/-- One step keeps the log in order exactly if it ends no transaction but the
newest that holds a savepoint. -/
theorem lifo_step_iff {l' : Ledger} {op : Operation} (h : l.Consistent)
    (hlogged : l.Logged)
    (hmirrors : ∀ t c, l.connectionOf? t = some c → l.Mirrors c)
    (hstep : Step l op l') :
    Server.Lifo l'.log ↔ Server.Lifo l.log ∧ l.EndsNewest op := by
  cases hstep with
  -- a refused end is none of an open transaction without children
  | refused hrefuses =>
      refine (and_iff_left ?_).symm
      cases op with
      | begin => trivial
      | beginNested => trivial
      | ending t how =>
          intro hopen hchildless
          rcases hrefuses with hnot | hpos
          · exact absurd hopen hnot
          · exact absurd hchildless (Nat.ne_of_gt hpos)
      | statement => trivial
  -- what has no target among the savepoints cannot be out of order
  | unconnected =>
      exact (Server.lifo_append (by simp [Call.target?])).trans
        (and_iff_left trivial).symm
  | abandoned =>
      exact (Server.lifo_append (by simp [Call.target?])).trans
        (and_iff_left trivial).symm
  | begun =>
      exact (Server.lifo_append (by simp [Call.target?])).trans
        (and_iff_left trivial).symm
  | unmarked =>
      exact (Server.lifo_append (by simp [Call.target?])).trans
        (and_iff_left trivial).symm
  | nested =>
      exact (Server.lifo_append (by simp [Call.target?])).trans
        (and_iff_left trivial).symm
  | @rootEnded t c how hends hroot =>
      refine (Server.lifo_append ?_).trans (and_iff_left ?_).symm
      · generalize how.outcome _ = outcome
        cases outcome <;> simp [Outcome.call, Call.target?]
      · rintro - - c' u ⟨-, name, hname, -⟩
        rw [savepointOf?_of_isOpen hends.isOpen, hroot] at hname
        cases hname
  -- the two ends that name a savepoint: it is the newest, or not
  | released how hends hnested =>
      exact lifo_nestedEnded_iff h.nesting hlogged hends
        (hmirrors _ _ hends.connection) hnested (.kept _) how
  | reverted how hends hnested hrollback reverted =>
      exact lifo_nestedEnded_iff h.nesting hlogged hends
        (hmirrors _ _ hends.connection) hnested (.reverted reverted _) how
  -- statements name no savepoint
  | worked hadmits =>
      refine (Server.lifo_append ?_).trans (and_iff_left trivial).symm
      intro entry hmem
      have hwork := (hadmits entry hmem).isWork
      cases hcall : entry.call <;> rw [hcall] at hwork <;>
        first | rfl | cases hwork

/-- The end of a nested transaction is nothing to other connections, and on
its own one it is that of the newest. -/
theorem mirrors_nestedEnded (hnesting : l.Nesting) (hlogged : l.Logged)
    (hmirrors : ∀ t c, l.connectionOf? t = some c → l.Mirrors c)
    {t : TransactionId} (hends : l.Ends t c) {name : String}
    (hnested : (l.transaction t).savepoint = some name)
    {outcome : Outcome} {released : Option DriverError}
    {entries : List CallRecord}
    (hclosing : Server.Closing c name outcome released entries)
    (hlifo : Server.Lifo (l.log ++ entries)) (u : TransactionId) (c' : Nat)
    (hu : (l.nestedEnded t entries).connectionOf? u = some c') :
    (l.nestedEnded t entries).Mirrors c' := by
  rw [connectionOf?_nestedEnded] at hu
  by_cases hcc : c = c'
  · subst hcc
    exact (hmirrors u c hu).ended hnesting
      (hlogged.holds hnesting hends.isOpen hends.connection hnested)
      ((savepointOf?_of_isOpen hends.isOpen).trans hnested)
      ((hclosing.lifo_iff l.log).mp hlifo).2 hclosing
  · refine (hmirrors u c' hu).framed rfl ?_ ?_ ?_
    · intro entry hmem
      refine Server.quiet_of_ne ?_
      rw [hclosing.connection_eq entry hmem]
      exact fun heq => hcc (Option.some.inj heq)
    · intro w
      rw [connectionOf?_nestedEnded]
    · intro w _
      exact savepointOf?_nestedEnded t entries w

/-- Nothing was begun at the next place yet. -/
theorem connectionOf?_next (c : Nat) :
    l.connectionOf? l.transactions.length ≠ some c :=
  fun hc => absurd (lt_of_connectionOf? hc) (Nat.lt_irrefl _)

/-- A connection on which nothing began is nothing to the others. -/
theorem Mirrors.abandoned (h : l.Mirrors c) (hlt : c < l.opened)
    (readOnly : Bool) (failure : DriverError) (closing : Option DriverError) :
    (l.abandoned readOnly failure closing).Mirrors c := by
  refine h.framed rfl ?_ (fun _ => Iff.rfl) fun _ _ => rfl
  intro entry hmem
  refine Server.quiet_of_ne ?_
  rintro heq
  simp only [List.mem_cons, List.not_mem_nil, or_false] at hmem
  rcases hmem with rfl | rfl | rfl
  · cases heq
  · cases heq
    exact Nat.lt_irrefl _ hlt
  · cases heq
    exact Nat.lt_irrefl _ hlt

/-- A new root transaction is nothing to the connections of the others. -/
theorem Mirrors.begun (h : l.Mirrors c) (hwiring : l.Wiring)
    (hlt : c < l.opened) (readOnly : Bool) :
    (l.begun readOnly).Mirrors c := by
  refine h.framed rfl ?_ ?_ ?_
  · intro entry hmem
    refine Server.quiet_of_ne ?_
    rintro heq
    simp only [List.mem_cons, List.not_mem_nil, or_false] at hmem
    rcases hmem with rfl | rfl
    · cases heq
    · cases heq
      exact Nat.lt_irrefl _ hlt
  · intro w
    rw [connectionOf?_begun hwiring]
    split
    · next hw =>
      subst hw
      refine iff_of_false ?_ (connectionOf?_next c)
      intro heq
      cases heq
      exact Nat.lt_irrefl _ hlt
    · exact Iff.rfl
  · intro w _
    exact savepointOf?_begun readOnly w

/-- Nor is a new nested transaction. -/
theorem Mirrors.nested_elsewhere {c' : Nat} (h : l.Mirrors c')
    {p : TransactionId} (hopen : l.IsOpen p)
    (hc : l.connectionOf? p = some c) (hne : c ≠ c') :
    (l.nested p c).Mirrors c' := by
  refine h.framed rfl ?_ ?_ ?_
  · intro entry hmem
    cases List.mem_singleton.mp hmem
    exact Server.quiet_of_ne fun heq => hne (Option.some.inj heq)
  · intro w
    rw [connectionOf?_nested hopen]
    split
    · next hw =>
      subst hw
      refine iff_of_false ?_ (connectionOf?_next c')
      rw [hc]
      exact fun heq => hne (Option.some.inj heq)
    · exact Iff.rfl
  · intro w hw
    rw [savepointOf?_nested, if_neg]
    rintro rfl
    exact connectionOf?_next c' hw

/-- Nor is the end of a root transaction. -/
theorem Mirrors.rootEnded {c' : Nat} (h : l.Mirrors c') (hwiring : l.Wiring)
    {t : TransactionId} (hc : l.connectionOf? t = some c) (hne : c' ≠ c)
    {entries : List CallRecord}
    (hentries : ∀ entry ∈ entries, entry.connection = some c) :
    (l.rootEnded t entries).Mirrors c' := by
  refine h.framed rfl ?_ ?_ ?_
  · intro entry hmem
    refine Server.quiet_of_ne ?_
    rw [hentries entry hmem]
    exact fun heq => hne (Option.some.inj heq).symm
  · intro w
    exact (connectionOf?_rootEnded hwiring hc entries w c').trans
      (and_iff_left hne)
  · intro w _
    exact savepointOf?_rootEnded t entries w

/-- As long as the log is in order, the stacks are what is held. -/
theorem mirrors_step {l' : Ledger} {op : Operation} (h : l.Consistent)
    (hlogged : l.Logged)
    (hmirrors : ∀ t c, l.connectionOf? t = some c → l.Mirrors c)
    (hstep : Step l op l') (hlifo : Server.Lifo l'.log) :
    ∀ t c, l'.connectionOf? t = some c → l'.Mirrors c := by
  intro u c' hu
  cases hstep with
  | refused => exact hmirrors u c' hu
  -- a failed call changes no savepoints
  | unconnected readOnly failure =>
      refine (hmirrors u c' hu).framed rfl ?_ (fun _ => Iff.rfl) fun _ _ => rfl
      intro entry hmem
      cases List.mem_singleton.mp hmem
      exact Server.quiet_of_failure ..
  | abandoned readOnly failure closing =>
      exact (hmirrors u c' hu).abandoned (h.wiring.lt_opened (t := u) hu) ..
  | begun readOnly =>
      rw [connectionOf?_begun h.wiring] at hu
      split at hu
      · cases hu
        exact mirrors_begun h.wiring hlogged readOnly
      · exact (hmirrors u c' hu).begun h.wiring (h.wiring.lt_opened hu) readOnly
  | unmarked hopen hc failure =>
      refine (hmirrors u c' hu).framed rfl ?_ (fun _ => Iff.rfl) fun _ _ => rfl
      intro entry hmem
      cases List.mem_singleton.mp hmem
      exact Server.quiet_of_failure ..
  | @nested p c hopen hc =>
      by_cases hcc : c = c'
      · subst hcc
        exact (hmirrors p c hc).nested h.nesting hlogged hopen hc
      · rw [connectionOf?_nested hopen] at hu
        split at hu
        · exact absurd (Option.some.inj (hc.symm.trans hu)) hcc
        · exact (hmirrors u c' hu).nested_elsewhere hopen hc hcc
  -- what is left open after the end of a root is on other connections
  | @rootEnded t c how hends hroot ended closed =>
      obtain ⟨hu, hne⟩ :=
        (connectionOf?_rootEnded h.wiring hends.connection _ u c').mp hu
      refine (hmirrors u c' hu).rootEnded h.wiring hends.connection hne ?_
      intro entry hmem
      simp only [List.mem_cons, List.not_mem_nil, or_false] at hmem
      rcases hmem with rfl | rfl <;> rfl
  | released how hends hnested =>
      exact mirrors_nestedEnded h.nesting hlogged hmirrors hends hnested
        (.kept _) hlifo u c' hu
  | reverted how hends hnested hrollback reverted =>
      exact mirrors_nestedEnded h.nesting hlogged hmirrors hends hnested
        (.reverted reverted _) hlifo u c' hu
  -- statements are not about savepoints
  | worked hadmits =>
      refine (hmirrors u c' hu).framed rfl ?_ (fun _ => Iff.rfl) fun _ _ => rfl
      intro entry hmem
      exact Or.inr (hadmits entry hmem).isWork

end Ledger

namespace Session

variable {config : Config} {driver : Driver} {schema : Schema} {s : Session}

-- ================================================================= the run

/-- A run in which no transaction ends while one begun later on its
connection still holds its savepoint. -/
def EndsInReverse (schema : Schema) : Session → List Operation → Prop
  | _, [] => True
  | s, op :: ops =>
    s.ledger.EndsNewest op ∧ EndsInReverse schema (s.perform schema op) ops

/-- What is known of a session while its log is in order. -/
structure InOrder (s : Session) : Prop where
  consistent : s.ledger.Consistent
  logged : s.ledger.Logged
  mirrors : ∀ t c, s.ledger.connectionOf? t = some c → s.ledger.Mirrors c

/-- From a session whose log is in order, it stays in order exactly if the
transactions end in reverse. -/
theorem lifo_iff_of_inOrder (h : s.InOrder) (hlifo : Server.Lifo s.driver.log)
    (ops : List Operation) :
    Server.Lifo (s.performAll schema ops).driver.log
      ↔ s.EndsInReverse schema ops := by
  induction ops generalizing s with
  | nil => exact iff_of_true hlifo trivial
  | cons op ops ih =>
      have hstep := step_perform schema s h.consistent.connected op
      have hiff := Ledger.lifo_step_iff h.consistent h.logged h.mirrors hstep
      have hconsistent : (s.perform schema op).ledger.Consistent :=
        consistent_perform h.consistent op
      by_cases hnext : Server.Lifo (s.perform schema op).driver.log
      · rw [EndsInReverse, and_iff_right (hiff.mp hnext).2]
        refine ih ⟨hconsistent, ?_, ?_⟩ hnext
        · exact logged_perform h.consistent h.logged op
        · exact Ledger.mirrors_step h.consistent h.logged h.mirrors hstep hnext
      · refine iff_of_false ?_ ?_
        · intro hall
          obtain ⟨more, hmore⟩ :=
            @log_performAll schema (s.perform schema op) hconsistent ops
          change Server.Lifo
            ((s.perform schema op).performAll schema ops).driver.log at hall
          rw [hmore] at hall
          exact hnext (Server.lifo_of_append hall)
        · exact fun hreverse => hnext (hiff.mpr ⟨hlifo, hreverse.1⟩)

/-- Whatever is asked of a session in whatever order, and whatever the
driver does: every RELEASE SAVEPOINT and every ROLLBACK TO SAVEPOINT names
the latest savepoint that is live on its connection exactly if no nested
transaction ends while one begun later on its connection still holds its
savepoint. -/
theorem lifo_performAll_iff (hstart : start config driver = .ok s)
    (hlog : driver.log = []) (ops : List Operation) :
    Server.Lifo (s.performAll schema ops).driver.log
      ↔ s.EndsInReverse schema ops := by
  obtain ⟨hdriver, hnone⟩ := start_fresh hstart
  refine lifo_iff_of_inOrder ⟨consistent_start hstart,
    logged_start hstart hlog, ?_⟩ ?_ ops
  · -- nothing was begun, so there are no connections
    intro t c hc
    have hlt := Ledger.lt_of_connectionOf? hc
    rw [transactions_ledger, hnone] at hlt
    exact absurd hlt (Nat.not_lt_zero _)
  · rw [hdriver, hlog]
    exact Server.lifo_nil

/-- Two transactions nested in one root, of which the older ends first. -/
def crossing : List Operation :=
  [.begin false, .beginNested 0, .beginNested 0, .ending 1 .commit]

/-- Before the older one ends, the savepoint of the newer is the latest. -/
theorem latest_before_crossing :
    Server.latest 0 (((blank .empty).performAll [] crossing).driver.log.take 4)
      = some "tabula_sp_3" := rfl

/-- The older one ends all the same. -/
theorem crossing_not_endsInReverse :
    start Config.default .empty = .ok (blank .empty)
      ∧ Driver.empty.log = []
      ∧ ¬ (blank .empty).EndsInReverse [] crossing := by
  refine ⟨start_default _, rfl, ?_⟩
  rw [← lifo_performAll_iff (start_default .empty) rfl]
  intro h
  have hlatest := h 4 ⟨some 0, .releaseSavepoint "tabula_sp_2", none⟩ 0
    "tabula_sp_2" rfl rfl rfl
  rw [latest_before_crossing] at hlatest
  revert hlatest
  decide

/-- What it gives up is not the latest savepoint, so a log need not be last
in, first out. -/
theorem not_lifo_crossing :
    ¬ ∀ (driver : Driver) (s : Session) (ops : List Operation),
      start Config.default driver = .ok s → driver.log = [] →
      Server.Lifo (s.performAll [] ops).driver.log := by
  intro hall
  have hlatest := hall .empty (blank .empty) crossing (start_default _) rfl 4
    ⟨some 0, .releaseSavepoint "tabula_sp_2", none⟩ 0 "tabula_sp_2" rfl rfl rfl
  rw [latest_before_crossing] at hlatest
  revert hlatest
  decide

end Session

end DataAccess
