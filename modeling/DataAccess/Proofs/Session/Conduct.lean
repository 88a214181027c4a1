/-
How a session conducts itself on a connection. The calls on a connection that
was opened are a begin; then, if that failed, a close; else the calls of the
transactions of one chain, the end of its root, and a close. `Used` says this
by whether the connection is still held. `Conducted` says that all connections
of a ledger are used like this; that what is lent to an open transaction is
held, and was begun as read-only as the transaction is; and that one connection
is held for each root that is open.

`conducted_step` proves that every step keeps this. It comes down to three
cases: a root begins on a connection of its own, a transaction that is open
does something on the connection that is lent to it, and a root ends on it.

An end that nobody asked for explicitly follows from how the connection was
begun (`implied_step`).
-/
import DataAccess.Proofs.Session.History

namespace DataAccess

-- ============================================================ the protocol

/-- The calls on a connection. -/
def callsOn (c : Nat) (log : List CallRecord) : List CallRecord :=
  log.filter (·.connection == some c)

/-- A call that belongs between the begin and the end: of a statement, or of a
savepoint. -/
def Call.isInner : Call → Bool
  | .savepoint _ => true
  | .releaseSavepoint _ => true
  | .rollbackToSavepoint _ => true
  | call => call.isWork

/-- A call that ends a root. -/
def Call.isEnd : Call → Bool
  | .commit => true
  | .rollback => true
  | _ => false

/-- The call tells how a root ended. -/
theorem Outcome.call_injective {o o' : Outcome} (h : o.call = o'.call) :
    o = o' := by
  cases o <;> cases o' <;> first | rfl | cases h

/-- A call that may be made while a root is open. -/
structure Inner (readOnly : Bool) (entry : CallRecord) : Prop where
  isInner : entry.call.isInner
  unwritten : readOnly = true → entry.call.isWrite = false

/-- The calls on a connection whose root is open. -/
inductive Running (c : Nat) (readOnly : Bool) : List CallRecord → Prop
  | intro {inside : List CallRecord}
      (h : ∀ entry ∈ inside, Inner readOnly entry) :
      Running c readOnly (⟨some c, .begin readOnly, none⟩ :: inside)

/-- The calls on a connection that was given back. -/
inductive Complete (c : Nat) : List CallRecord → Prop
  | abandoned (readOnly : Bool) (failure : DriverError)
      (closed : Option DriverError) :
      Complete c [⟨some c, .begin readOnly, some failure⟩,
        ⟨some c, .close, closed⟩]
  | ended {readOnly : Bool} {calls : List CallRecord}
      (h : Running c readOnly calls) (outcome : Outcome)
      (ended closed : Option DriverError) :
      Complete c (calls ++ [⟨some c, outcome.call, ended⟩,
        ⟨some c, .close, closed⟩])

/-- The calls on a connection: it was not opened, or it is held, or it was
given back. -/
inductive Used (c : Nat) : Option Bool → List CallRecord → Prop
  | unopened : Used c none []
  | held {readOnly : Bool} {calls : List CallRecord}
      (h : Running c readOnly calls) : Used c (some true) calls
  | givenBack {calls : List CallRecord} (h : Complete c calls) :
      Used c (some false) calls

/-- A connection was begun like this. -/
def BegunAs (c : Nat) (readOnly : Bool) (log : List CallRecord) : Prop :=
  (callsOn c log).head? = some ⟨some c, .begin readOnly, none⟩

/-- Every end among some calls is a commit if the connection was begun
read-only, and a rollback if not. -/
def ImpliedEnds (log entries : List CallRecord) : Prop :=
  ∀ entry ∈ entries, ∀ outcome : Outcome, entry.call = outcome.call →
    ∃ c readOnly, entry.connection = some c ∧ BegunAs c readOnly log
      ∧ outcome = if readOnly then .commit else .rollback

section

variable {c : Nat} {readOnly : Bool} {log more entries calls : List CallRecord}

theorem callsOn_append :
    callsOn c (log ++ more) = callsOn c log ++ callsOn c more :=
  List.filter_append ..

/-- Calls that are made on a connection come after those before. -/
theorem callsOn_here (h : ∀ entry ∈ entries, entry.connection = some c) :
    callsOn c (log ++ entries) = callsOn c log ++ entries := by
  rw [callsOn_append]
  refine congrArg (callsOn c log ++ ·) (List.filter_eq_self.mpr ?_)
  intro entry hentry
  rw [h entry hentry, beq_self_eq_true]

/-- They are none of another connection. -/
theorem callsOn_elsewhere {d : Nat} (hne : c ≠ d)
    (h : ∀ entry ∈ entries, entry.connection = some c) :
    callsOn d (log ++ entries) = callsOn d log := by
  have hnone : callsOn d entries = [] := by
    refine List.filter_eq_nil_iff.mpr fun entry hentry => ?_
    simp [h entry hentry, hne]
  rw [callsOn_append, hnone, List.append_nil]

/-- A connection that runs a transaction may make more calls of it. -/
theorem Running.append (h : Running c readOnly calls)
    (hentries : ∀ entry ∈ entries, Inner readOnly entry) :
    Running c readOnly (calls ++ entries) := by
  cases h with
  | intro hinside =>
      rw [List.cons_append]
      refine .intro fun entry hentry => ?_
      rcases List.mem_append.mp hentry with h | h
      · exact hinside entry h
      · exact hentries entry h

/-- The calls tell whether a transaction was begun for reading. -/
theorem Running.readOnly_eq {readOnly' : Bool} (h : Running c readOnly calls)
    (h' : Running c readOnly' calls) : readOnly = readOnly' := by
  cases h
  cases h'
  rfl

/-- A connection that runs was begun. -/
theorem Running.begunAs (h : Running c readOnly (callsOn c log)) :
    BegunAs c readOnly log := by
  unfold BegunAs
  generalize callsOn c log = calls at h
  cases h
  rfl

/-- What was begun was begun, whatever comes after. -/
theorem BegunAs.append (h : BegunAs c readOnly log) (more : List CallRecord) :
    BegunAs c readOnly (log ++ more) := by
  unfold BegunAs at h ⊢
  rw [callsOn_append, List.head?_append, h]
  rfl

/-- So ends that are implied stay so. -/
theorem ImpliedEnds.mono (h : ImpliedEnds log entries)
    (more : List CallRecord) : ImpliedEnds (log ++ more) entries := by
  intro entry hentry outcome hcall
  obtain ⟨c, readOnly, hc, hbegun, houtcome⟩ := h entry hentry outcome hcall
  exact ⟨c, readOnly, hc, hbegun.append more, houtcome⟩

theorem ImpliedEnds.append (h : ImpliedEnds log entries)
    (hmore : ImpliedEnds log more) : ImpliedEnds log (entries ++ more) := by
  intro entry hentry
  rcases List.mem_append.mp hentry with hentry | hentry
  · exact h entry hentry
  · exact hmore entry hentry

/-- Where nothing ends there is nothing to imply. -/
theorem impliedEnds_of_not_isEnd
    (h : ∀ entry ∈ entries, entry.call.isEnd = false) :
    ImpliedEnds log entries := by
  intro entry hentry outcome hcall
  have hnot := h entry hentry
  rw [hcall] at hnot
  cases outcome <;> cases hnot

/-- The calls inside of a transaction do not end it. -/
theorem Inner.not_isEnd {entry : CallRecord} (h : Inner readOnly entry) :
    entry.call.isEnd = false := by
  have hinner := h.isInner
  unfold Call.isEnd
  split
  · next hcall => rw [hcall] at hinner; cases hinner
  · next hcall => rw [hcall] at hinner; cases hinner
  · rfl

end

/-- A root transaction that has not ended. -/
def Transaction.isOpenRoot (tx : Transaction) : Bool :=
  tx.isRoot && !tx.finished

namespace Ledger

variable {l l' : Ledger}

/-- How many root transactions have not ended. -/
def openRoots (l : Ledger) : Nat :=
  l.transactions.countP (·.isOpenRoot)

/-- The connections of a ledger are used as they should be. -/
structure Conducted (l : Ledger) : Prop where
  used : ∀ c, Used c l.held[c]? (callsOn c l.log)
  /-- What a transaction works on is held, and as read-only as it is. -/
  lent : ∀ {t : TransactionId} {c : Nat}, l.IsOpen t →
    l.connectionOf? t = some c → l.held[c]? = some true
      ∧ Running c (l.transaction t).readOnly (callsOn c l.log)
  counted : l.held.count true = l.openRoots

theorem not_isOpen_nil (h : l.transactions = []) (t : TransactionId) :
    ¬ l.IsOpen t := by
  intro hopen
  have hlt := lt_of_isOpen hopen
  rw [h] at hlt
  cases hlt

/-- Before anything happened every connection is conducted. -/
theorem conducted_nil (htransactions : l.transactions = [])
    (hlog : l.log = []) (hheld : l.held = []) : l.Conducted := by
  constructor
  · intro c
    rw [hheld, hlog]
    exact .unopened
  · exact fun hopen => absurd hopen (not_isOpen_nil htransactions _)
  · unfold openRoots
    rw [hheld, htransactions]
    rfl

/-- On a connection that is yet to be opened no call was made. -/
theorem Conducted.callsOn_opened (h : l.Conducted) :
    callsOn l.opened l.log = [] := by
  have hused := h.used l.opened
  rw [show l.held[l.opened]? = none from
    List.getElem?_eq_none (Nat.le_refl _)] at hused
  generalize callsOn l.opened l.log = calls at hused
  cases hused
  rfl

/-- A connection that was closed had its transaction ended. -/
theorem Conducted.complete (h : l.Conducted) {c : Nat}
    (hc : l.held[c]? = some false) : Complete c (callsOn c l.log) := by
  have hused := h.used c
  rw [hc] at hused
  cases hused with
  | givenBack h => exact h

-- =============================================================== the roots

/-- A root that is begun is one more that is open. -/
theorem openRoots_begun (readOnly : Bool) :
    (l.begun readOnly).openRoots = l.openRoots + 1 := by
  unfold openRoots
  show (l.transactions ++ [l.newRoot readOnly]).countP _ = _
  rw [List.countP_append]
  rfl

theorem openRoots_nested (p : TransactionId) (c : Nat) :
    (l.nested p c).openRoots = l.openRoots := by
  unfold openRoots
  show (l.withOpenChild p ++ [l.newNested p]).countP _ = _
  rw [List.countP_append]
  exact countP_modify_same (f := fun p : Transaction =>
    { p with openChildren := p.openChildren + 1 }) (fun _ => rfl)
    l.transactions p

/-- The end of an open transaction is the end of a root if it is one. -/
theorem openRoots_withEnded {t : TransactionId} (hopen : l.IsOpen t) :
    (l.withEnded t).countP (·.isOpenRoot)
        + (if (l.transaction t).isRoot then 1 else 0) = l.openRoots := by
  have hended := countP_modify (·.isOpenRoot)
    (fun tx => { tx with finished := true }) (getElem?_of_isOpen hopen)
  have hunfinished : (l.transaction t).finished = false := hopen
  simp only [Transaction.isOpenRoot, hunfinished, Bool.not_false,
    Bool.and_true, Bool.not_true, Bool.and_false, Bool.false_eq_true, if_false,
    Nat.add_zero] at hended
  unfold withEnded openRoots
  cases hp : (l.transaction t).parent with
  | none => exact hended
  | some p =>
      dsimp only
      rw [countP_modify_same (f := fun p : Transaction =>
        { p with openChildren := p.openChildren - 1 }) (fun _ => rfl)]
      exact hended

-- =============================================================== the cases

/-- A transaction that is open does something on its connection. What is lent
afterwards was lent before. -/
theorem Conducted.inner (h : l.Conducted) {t : TransactionId} {c : Nat}
    (hopen : l.IsOpen t) (hc : l.connectionOf? t = some c)
    {entries : List CallRecord}
    (hhere : ∀ entry ∈ entries, entry.connection = some c)
    (hinner : ∀ entry ∈ entries, Inner (l.transaction t).readOnly entry)
    (hlog : l'.log = l.log ++ entries) (hheld : l'.held = l.held)
    (hlent : ∀ {u : TransactionId} {c' : Nat}, l'.IsOpen u →
      l'.connectionOf? u = some c' → ∃ v, l.IsOpen v
        ∧ l.connectionOf? v = some c'
        ∧ (l.transaction v).readOnly = (l'.transaction u).readOnly)
    (hroots : l'.openRoots = l.openRoots) : l'.Conducted := by
  obtain ⟨hc', hrunning⟩ := h.lent hopen hc
  have hothers : ∀ d, c ≠ d → callsOn d l'.log = callsOn d l.log := by
    intro d hd
    rw [hlog, callsOn_elsewhere hd hhere]
  -- what runs on a connection goes on, whoever it is lent to
  have hgoes : ∀ {d : Nat} {readOnly : Bool},
      Running d readOnly (callsOn d l.log) →
      Running d readOnly (callsOn d l'.log) := by
    intro d readOnly hd
    by_cases hcd : c = d
    · subst hcd
      rw [hlog, callsOn_here hhere]
      refine hd.append ?_
      rw [hd.readOnly_eq hrunning]
      exact hinner
    · rw [hothers d hcd]
      exact hd
  constructor
  · intro d
    rw [hheld]
    by_cases hcd : c = d
    · subst hcd
      rw [hc']
      exact .held (hgoes hrunning)
    · rw [hothers d hcd]
      exact h.used d
  · intro u d hu hd
    obtain ⟨v, hv, hvd, hreadOnly⟩ := hlent hu hd
    rw [hheld, ← hreadOnly]
    exact ⟨(h.lent hv hvd).1, hgoes (h.lent hv hvd).2⟩
  · rw [hheld, hroots]
    exact h.counted

/-- What is conducted is told by the calls on each connection and by the
transactions. -/
theorem Conducted.congr (h : l.Conducted)
    (hcalls : ∀ c, callsOn c l'.log = callsOn c l.log)
    (hheld : l'.held = l.held)
    (htransactions : l'.transactions = l.transactions)
    (hconnections : l'.connections = l.connections) : l'.Conducted := by
  constructor
  · intro c
    rw [hcalls, hheld]
    exact h.used c
  · intro t c hopen hc
    unfold IsOpen transaction connectionOf? at *
    rw [htransactions] at hopen
    rw [htransactions, hconnections] at hc
    rw [hcalls, hheld, htransactions]
    exact h.lent hopen hc
  · unfold openRoots
    rw [hheld, htransactions]
    exact h.counted

/-- A connection is opened. It is given back at once, or it is lent. -/
theorem Conducted.opening (h : l.Conducted) {held : Bool}
    {entries : List CallRecord}
    (hhere : ∀ entry ∈ entries, entry.connection = some l.opened)
    (hlog : l'.log = l.log ++ ⟨none, .connect, none⟩ :: entries)
    (hheld : l'.held = l.held ++ [held])
    (hused : Used l.opened (some held) entries)
    (hlent : ∀ {t : TransactionId} {d : Nat}, l'.IsOpen t →
      l'.connectionOf? t = some d →
      (l.IsOpen t ∧ l.connectionOf? t = some d
        ∧ (l.transaction t).readOnly = (l'.transaction t).readOnly)
      ∨ (d = l.opened ∧ held = true
        ∧ Running l.opened (l'.transaction t).readOnly entries))
    (hroots : l'.openRoots = l.openRoots + [held].count true) :
    l'.Conducted := by
  -- the call that opens the connection is not on it
  have hlog' : l'.log = (l.log ++ [⟨none, .connect, none⟩]) ++ entries := by
    rw [hlog, List.append_assoc]
    rfl
  have hconnect : ∀ d, callsOn d (l.log ++ [⟨none, .connect, none⟩])
      = callsOn d l.log :=
    fun d => callsOn_append.trans (List.append_nil _)
  have hold : ∀ d, l.opened ≠ d → callsOn d l'.log = callsOn d l.log := by
    intro d hd
    rw [hlog', callsOn_elsewhere hd hhere, hconnect]
  have hnew : callsOn l.opened l'.log = entries := by
    rw [hlog', callsOn_here hhere, hconnect, h.callsOn_opened, List.nil_append]
  constructor
  · intro d
    rw [hheld, getElem?_concat_eq]
    split
    · -- the new one
      next hd =>
      rw [hd, show callsOn l.held.length l'.log = entries from hnew]
      exact hused
    · next hd =>
      rw [hold d (Ne.symm hd)]
      exact h.used d
  · intro t d hopen hd
    rw [hheld]
    rcases hlent hopen hd with ⟨hopen', hd', hreadOnly⟩ | ⟨rfl, rfl, hruns⟩
    · obtain ⟨hheld', hruns⟩ := h.lent hopen' hd'
      have hlt := (List.getElem?_eq_some_iff.mp hheld').1
      rw [hold d (Nat.ne_of_gt hlt), ← hreadOnly]
      exact ⟨(List.getElem?_append_left hlt).trans hheld', hruns⟩
    · rw [hnew]
      exact ⟨List.getElem?_concat_length, hruns⟩
  · rw [hheld, List.count_append, h.counted, hroots]

/-- A connection on which no transaction could be begun is closed. -/
theorem Conducted.abandoned (h : l.Conducted) (readOnly : Bool)
    (failure : DriverError) (closed : Option DriverError) :
    (l.abandoned readOnly failure closed).Conducted :=
  h.opening (by simp) rfl rfl (.givenBack (.abandoned readOnly failure closed))
    (fun hopen hd => Or.inl ⟨hopen, hd, rfl⟩) rfl

/-- A connection with its first transaction runs it. -/
theorem Conducted.begun (h : l.Conducted) (hwiring : l.Wiring)
    (readOnly : Bool) : (l.begun readOnly).Conducted := by
  have hruns : Running l.opened readOnly
      [⟨some l.opened, .begin readOnly, none⟩] :=
    .intro fun _ h => nomatch h
  refine h.opening (by simp) rfl rfl (.held hruns) ?_ (openRoots_begun readOnly)
  intro t d hopen hd
  rw [connectionOf?_begun hwiring] at hd
  rcases getElem?_concat_cases (getElem?_of_isOpen hopen) with
    hentry | ⟨ht, hentry⟩
  · rw [if_neg (Nat.ne_of_lt (List.getElem?_eq_some_iff.mp hentry).1)] at hd
    have htransaction := transaction_eq_of_getElem? hentry
    refine Or.inl ⟨?_, hd, congrArg (·.readOnly) htransaction⟩
    unfold IsOpen at hopen ⊢
    rw [htransaction]
    exact hopen
  · rw [if_pos ht] at hd
    refine Or.inr ⟨(Option.some.inj hd).symm, rfl, ?_⟩
    rw [hentry]
    exact hruns

/-- What is open after an end was open before, and is another transaction. -/
theorem isOpen_of_withEnded {t u : TransactionId}
    (htransactions : l'.transactions = l.withEnded t) (hopen : l'.IsOpen u) :
    l.IsOpen u ∧ t ≠ u
      ∧ (l.transaction u).readOnly = (l'.transaction u).readOnly := by
  have hentry := getElem?_of_isOpen hopen
  rw [htransactions] at hentry
  obtain ⟨ux, hux, heq⟩ := getElem?_withEnded_cases hentry
  have hunfinished : (l'.transaction u).finished = false := hopen
  rw [heq] at hunfinished
  simp only [Bool.or_eq_false_iff, decide_eq_false_iff_not] at hunfinished
  unfold IsOpen
  rw [transaction_eq_of_getElem? hux]
  exact ⟨hunfinished.1, hunfinished.2, congrArg (·.readOnly) heq.symm⟩

/-- A root ends what runs on its connection, which is closed then. -/
theorem Conducted.rootEnded (h : l.Conducted) (hwiring : l.Wiring)
    {t : TransactionId} {c : Nat} (hends : l.Ends t c)
    (hroot : (l.transaction t).isRoot = true) (outcome : Outcome)
    (ended closed : Option DriverError) :
    (l.rootEnded t [⟨some c, outcome.call, ended⟩,
      ⟨some c, .close, closed⟩]).Conducted := by
  obtain ⟨hc, hruns⟩ := h.lent hends.isOpen hends.connection
  have hbound : c < l.held.length := (List.getElem?_eq_some_iff.mp hc).1
  generalize hl' : l.rootEnded t _ = l'
  have hheld : l'.held = l.held.set c false := by
    rw [← hl']
    unfold Ledger.rootEnded
    rw [hends.connection]
  have hlog : l'.log = l.log ++
      [⟨some c, outcome.call, ended⟩, ⟨some c, .close, closed⟩] := by
    rw [← hl']
    rfl
  have hhere : ∀ entry ∈ [(⟨some c, outcome.call, ended⟩ : CallRecord),
      ⟨some c, .close, closed⟩], entry.connection = some c := by simp
  have hold : ∀ d, c ≠ d → callsOn d l'.log = callsOn d l.log := by
    intro d hd
    rw [hlog, callsOn_elsewhere hd hhere]
  constructor
  · intro d
    rw [hheld, List.getElem?_set]
    by_cases hcd : c = d
    · subst hcd
      rw [if_pos rfl, if_pos hbound, hlog, callsOn_here hhere]
      exact .givenBack (.ended hruns outcome ended closed)
    · rw [if_neg hcd, hold d hcd]
      exact h.used d
  · intro u d hopen hd
    obtain ⟨hopen', -, hreadOnly⟩ :=
      isOpen_of_withEnded (l := l) (t := t) (by rw [← hl']; rfl) hopen
    rw [← hl', connectionOf?_rootEnded hwiring hends.connection] at hd
    obtain ⟨hheld', hruns'⟩ := h.lent hopen' hd.1
    rw [hold d (Ne.symm hd.2), ← hreadOnly, hheld,
      List.getElem?_set_ne (Ne.symm hd.2)]
    exact ⟨hheld', hruns'⟩
  · -- one root less is open, and one connection less is held
    have hroots : l'.openRoots + 1 = l.openRoots := by
      have hcount := openRoots_withEnded hends.isOpen
      rw [hroot, if_pos rfl] at hcount
      rw [← hl', ← hcount]
      rfl
    have hcount := h.counted
    have htrue : l.held[c] = true :=
      Option.some.inj ((List.getElem?_eq_getElem hbound).symm.trans hc)
    rw [hheld, List.count_set hbound, htrue]
    simp
    omega

-- ================================================================ the steps

/-- The calls for savepoints are allowed in every transaction. -/
theorem inner_savepoint {c : Option Nat} {call : Call}
    {failure : Option DriverError} (readOnly : Bool)
    (hcall : ∃ name, call = .savepoint name ∨ call = .releaseSavepoint name
      ∨ call = .rollbackToSavepoint name) :
    Inner readOnly ⟨c, call, failure⟩ := by
  obtain ⟨name, rfl | rfl | rfl⟩ := hcall <;> exact ⟨rfl, fun _ => rfl⟩

/-- So are the calls that a statement makes. -/
theorem Admits.inner {t : TransactionId} {entry : CallRecord}
    (h : l.Admits t entry) : Inner (l.transaction t).readOnly entry := by
  constructor
  · have hwork := h.isWork
    unfold Call.isInner
    split <;> first | rfl | exact hwork
  · intro hreadOnly
    cases hwrite : entry.call.isWrite with
    | false => rfl
    | true =>
        rw [h.writable hwrite] at hreadOnly
        cases hreadOnly

/-- The end of a nested transaction is calls about its savepoint. -/
theorem Conducted.nestedEnded (h : l.Conducted) (hnesting : l.Nesting)
    {t : TransactionId} {c : Nat} {name : String} (hends : l.Ends t c)
    (hnested : (l.transaction t).savepoint = some name)
    {entries : List CallRecord}
    (hentries : ∀ entry ∈ entries, ∃ call failure,
      entry = ⟨some c, call, failure⟩ ∧ (call = .releaseSavepoint name
        ∨ call = .rollbackToSavepoint name)) :
    (l.nestedEnded t entries).Conducted := by
  have hroot : (l.transaction t).isRoot = false := by
    rw [← Bool.not_eq_true]
    intro hroot
    have hnone := (hnesting.parent_eq_none_iff hends.isOpen).mp
      (Option.isNone_iff_eq_none.mp hroot)
    rw [hnested] at hnone
    cases hnone
  refine h.inner hends.isOpen hends.connection ?_ ?_ rfl rfl ?_ ?_
  · intro entry hentry
    obtain ⟨call, failure, rfl, -⟩ := hentries entry hentry
    rfl
  · intro entry hentry
    obtain ⟨call, failure, rfl, hcall⟩ := hentries entry hentry
    exact inner_savepoint _ ⟨name, Or.inr hcall⟩
  · intro u c' hopen hc'
    obtain ⟨hopen', -, hreadOnly⟩ :=
      isOpen_of_withEnded (l := l) (t := t) rfl hopen
    rw [connectionOf?_nestedEnded] at hc'
    exact ⟨u, hopen', hc', hreadOnly⟩
  · have hcount := openRoots_withEnded hends.isOpen
    rw [hroot] at hcount
    exact hcount

/-- A nested transaction takes over the connection as it is. -/
theorem Conducted.nested (h : l.Conducted) {p : TransactionId} {c : Nat}
    (hopen : l.IsOpen p) (hc : l.connectionOf? p = some c) :
    (l.nested p c).Conducted := by
  refine h.inner hopen hc (by simp) ?_ rfl rfl
    ?_ (openRoots_nested p c)
  · intro entry hentry
    cases List.mem_singleton.mp hentry
    exact inner_savepoint _ ⟨_, Or.inl rfl⟩
  · intro u c' hopen' hc'
    rw [connectionOf?_nested hopen] at hc'
    rcases getElem?_nested_cases (getElem?_of_isOpen hopen') with
      ⟨tx, htx, heq⟩ | ⟨hu, heq⟩
    · have hlt := (List.getElem?_eq_some_iff.mp htx).1
      rw [if_neg (Nat.ne_of_lt hlt)] at hc'
      unfold IsOpen at hopen' ⊢
      rw [heq] at hopen' ⊢
      refine ⟨u, ?_, hc', ?_⟩ <;> rw [transaction_eq_of_getElem? htx]
      exact hopen'
    · -- the new one works where its parent does
      rw [if_pos hu] at hc'
      rw [heq]
      exact ⟨p, hopen, hc', rfl⟩

/-- Work on an open transaction, or none at all. -/
theorem Conducted.worked (h : l.Conducted) {t : TransactionId}
    {entries : List CallRecord}
    (hadmits : ∀ entry ∈ entries, l.Admits t entry) :
    (l.record entries).Conducted := by
  cases hentries : entries with
  | nil =>
      rw [record_nil]
      exact h
  | cons entry rest =>
      rw [← hentries]
      -- what it is admitted for tells where the work is done
      have hfirst : l.Admits t entry :=
        hadmits entry (hentries ▸ List.mem_cons_self)
      obtain ⟨c, hc⟩ := Option.isSome_iff_exists.mp hfirst.connection
      have hc' : l.connectionOf? t = some c := hfirst.connection_eq ▸ hc
      exact h.inner hfirst.isOpen hc'
        (fun entry hentry => (hadmits entry hentry).connection_eq.trans hc')
        (fun entry hentry => (hadmits entry hentry).inner) rfl rfl
        (fun hopen hd => ⟨_, hopen, hd, rfl⟩) rfl

/-- Every step is conducted as it should be. -/
theorem conducted_step {op : Operation} (hconsistent : l.Consistent)
    (h : l.Conducted) (hstep : Step l op l') : l'.Conducted := by
  cases hstep with
  | refused => exact h
  | unconnected readOnly failure =>
      exact h.congr (fun c => callsOn_append.trans (List.append_nil _)) rfl rfl
        rfl
  | abandoned readOnly failure closing =>
      exact h.abandoned readOnly failure closing
  | begun readOnly => exact h.begun hconsistent.wiring readOnly
  | unmarked hopen hc failure =>
      refine h.inner hopen hc (by simp)
        ?_ rfl rfl (fun hopen' hc' => ⟨_, hopen', hc', rfl⟩) rfl
      intro entry hentry
      cases List.mem_singleton.mp hentry
      exact inner_savepoint _ ⟨_, Or.inl rfl⟩
  | nested hopen hc => exact h.nested hopen hc
  | rootEnded how hends hroot ended closed =>
      refine h.rootEnded hconsistent.wiring hends ?_ _ ended closed
      exact Option.isNone_iff_eq_none.mpr
        ((hconsistent.nesting.parent_eq_none_iff hends.isOpen).mpr hroot)
  | released how hends hnested hcommit released =>
      exact h.nestedEnded hconsistent.nesting hends hnested (by simp)
  | reverted how hends hnested hrollback reverted released =>
      exact h.nestedEnded hconsistent.nesting hends hnested (by simp)
  | worked hadmits => exact h.worked hadmits

-- ========================================================== implied endings

end Ledger

/-- An end that was asked for by its name. -/
def Operation.isExplicitEnd : Operation → Bool
  | .ending _ .commit => true
  | .ending _ .rollback => true
  | _ => false

namespace Ledger

variable {l l' : Ledger}

/-- The end of a transaction that nobody asked for is the one implied by how
its connection was begun. -/
theorem Conducted.impliedEnds (h : l.Conducted) {t : TransactionId} {c : Nat}
    (hends : l.Ends t c) {how : Ending}
    (hhow : (Operation.ending t how).isExplicitEnd = false)
    (ended closed : Option DriverError) :
    ImpliedEnds l.log
      [⟨some c, (how.outcome (l.transaction t).readOnly).call, ended⟩,
       ⟨some c, .close, closed⟩] := by
  have houtcome : how.outcome (l.transaction t).readOnly
      = if (l.transaction t).readOnly then .commit else .rollback := by
    cases how with
    | commit => cases hhow
    | rollback => cases hhow
    | close => rfl
    | drop => rfl
  intro entry hentry outcome hcall
  rcases List.mem_cons.mp hentry with rfl | hentry
  · refine ⟨c, _, rfl, (h.lent hends.isOpen hends.connection).2.begunAs, ?_⟩
    rw [← houtcome]
    exact (Outcome.call_injective hcall).symm
  · cases List.mem_singleton.mp hentry
    cases outcome <;> cases hcall

/-- What was called since then ended nothing otherwise than implied. -/
def Implied (l l' : Ledger) : Prop :=
  ∃ entries, l'.log = l.log ++ entries ∧ ImpliedEnds l'.log entries

theorem Implied.refl (l : Ledger) : l.Implied l :=
  ⟨[], (List.append_nil _).symm, fun _ h => nomatch h⟩

/-- What was implied stays so through the rest of a run. -/
theorem Implied.trans {l'' : Ledger} (h : l.Implied l')
    (h' : l'.Implied l'') : l.Implied l'' := by
  obtain ⟨entries, hlog, hends⟩ := h
  obtain ⟨entries', hlog', hends'⟩ := h'
  refine ⟨entries ++ entries', ?_, ?_⟩
  · rw [hlog', hlog, List.append_assoc]
  · refine ImpliedEnds.append ?_ hends'
    rw [hlog']
    exact hends.mono entries'

/-- A step that was not asked to end anything ends nothing otherwise than how
it was begun implies. -/
theorem implied_step {op : Operation} (h : l.Conducted)
    (hop : op.isExplicitEnd = false) (hstep : Step l op l') :
    l.Implied l' := by
  have hnone : ∀ entries : List CallRecord,
      (∀ entry ∈ entries, entry.call.isEnd = false) →
      l'.log = l.log ++ entries → l.Implied l' :=
    fun entries hends hlog => ⟨entries, hlog, impliedEnds_of_not_isEnd hends⟩
  cases hstep with
  | refused => exact hnone [] (by simp) (List.append_nil _).symm
  | unconnected => exact hnone _ (by simp [Call.isEnd]) rfl
  | abandoned => exact hnone _ (by simp [Call.isEnd]) rfl
  | begun => exact hnone _ (by simp [Call.isEnd]) rfl
  | unmarked => exact hnone _ (by simp [Call.isEnd]) rfl
  | nested => exact hnone _ (by simp [Call.isEnd]) rfl
  | rootEnded how hends hroot ended closed =>
      exact ⟨_, rfl, (h.impliedEnds hends hop ended closed).mono _⟩
  | released => exact hnone _ (by simp [Call.isEnd]) rfl
  | reverted => exact hnone _ (by simp [Call.isEnd]) rfl
  | worked hadmits =>
      exact hnone _ (fun entry h => (hadmits entry h).inner.not_isEnd) rfl

end Ledger

end DataAccess
