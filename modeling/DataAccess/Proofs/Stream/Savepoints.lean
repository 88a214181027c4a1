/-
The names of savepoints. A name is the prefix of the configuration, an
underscore and a number that was handed out for it. So no name is used for two
savepoints, as no number is handed out twice; and what is given up, or gone
back to, is a savepoint of a transaction, which is named like that as well
(`Marking`). Both hold of the log after any step of a ledger, and whatever a
caller asks for is some steps one after the other (`Desk.Kept.goes_serveAll`).

# Digits in front

A prefix that is accepted is made of letters, digits and underscores, and so is
every name then. But a prefix may begin with a digit, and then so do the names:
none of them is an identifier that can be written without quotes
(`not_savepoints_named_digit`).
-/
import DataAccess.Proofs.Session.SavepointOrder
import DataAccess.Proofs.Statement.Segments
import DataAccess.Proofs.Stream.Clearing
import Mathlib.Data.List.Nodup
import Mathlib.Logic.Relation

namespace DataAccess

/-- The savepoint that a call sets. -/
def Call.mark? : Call → Option String
  | .savepoint name => some name
  | _ => none

/-- The savepoint that a call is about. -/
def Call.savepoint? (call : Call) : Option String :=
  call.mark?.or call.target?

/-- The calls of a statement have nothing to do with savepoints. -/
theorem Call.savepoint?_of_isWork {call : Call} (h : call.isWork = true) :
    call.mark? = none ∧ call.savepoint? = none := by
  cases call <;> first | exact ⟨rfl, rfl⟩ | cases h

namespace Ledger

variable {l l' : Ledger} {op : Operation}

-- ==================================================================== marks

/-- What a log has to do with savepoints: those that were set are named by
numbers that were handed out, each greater than those before, and no call names
anything else. -/
structure Marking (l : Ledger) : Prop where
  consistent : l.Consistent
  marks : ∃ ns : List Nat, ns.Pairwise (· < ·) ∧ (∀ n ∈ ns, n ≤ l.last)
    ∧ l.log.filterMap (·.call.mark?) = ns.map l.savepointName
  named : ∀ entry ∈ l.log, ∀ name, entry.call.savepoint? = some name →
    ∃ n, name = l.savepointName n

theorem savepointName_congr (h : l'.savepointPrefix = l.savepointPrefix) :
    l'.savepointName = l.savepointName := by
  unfold savepointName
  rw [h]

/-- More calls of which none sets a savepoint. -/
theorem Marking.appended (h : l.Marking) (hconsistent : l'.Consistent)
    (hstart : l'.savepointPrefix = l.savepointPrefix)
    (hlast : l.last ≤ l'.last) {entries : List CallRecord}
    (hlog : l'.log = l.log ++ entries)
    (hmarks : ∀ entry ∈ entries, entry.call.mark? = none)
    (hnamed : ∀ entry ∈ entries, ∀ name,
      entry.call.savepoint? = some name → ∃ n, name = l.savepointName n) :
    l'.Marking := by
  obtain ⟨ns, hpairwise, hle, hns⟩ := h.marks
  have hnames := savepointName_congr hstart
  refine ⟨hconsistent,
    ⟨ns, hpairwise, fun n hn => Nat.le_trans (hle n hn) hlast, ?_⟩, ?_⟩
  · rw [hlog, hnames, List.filterMap_append, hns,
      List.filterMap_eq_nil_iff.mpr hmarks, List.append_nil]
  · rw [hlog, hnames]
    exact List.forall_mem_append.mpr ⟨h.named, hnamed⟩

/-- One more call, which sets the savepoint of the next number. -/
theorem Marking.marked (h : l.Marking) (hconsistent : l'.Consistent)
    (hstart : l'.savepointPrefix = l.savepointPrefix)
    (hlast : l'.last = l.last + 1) {c : Nat} {failure : Option DriverError}
    (hlog : l'.log
      = l.log ++ [⟨some c, .savepoint (l.savepointName (l.last + 1)), failure⟩]) :
    l'.Marking := by
  obtain ⟨ns, hpairwise, hle, hns⟩ := h.marks
  have hnames := savepointName_congr hstart
  refine ⟨hconsistent, ⟨ns ++ [l.last + 1], ?_, ?_, ?_⟩, ?_⟩
  · refine List.pairwise_append.mpr
      ⟨hpairwise, List.pairwise_singleton _ _, fun n hn m hm => ?_⟩
    rw [List.mem_singleton.mp hm]
    exact Nat.lt_succ_of_le (hle n hn)
  · rw [hlast]
    exact List.forall_mem_append.mpr
      ⟨fun n hn => Nat.le_succ_of_le (hle n hn),
        List.forall_mem_singleton.mpr (Nat.le_refl _)⟩
  · rw [hlog, hnames, List.filterMap_append, hns, List.map_append]
    rfl
  · rw [hlog, hnames]
    refine List.forall_mem_append.mpr
      ⟨h.named, List.forall_mem_singleton.mpr ?_⟩
    rintro _ ⟨⟩
    exact ⟨_, rfl⟩

/-- The savepoint of a transaction is named by its number. -/
theorem Consistent.exists_savepointName (h : l.Consistent)
    {t : TransactionId} {c : Nat} {name : String} (hends : l.Ends t c)
    (hname : (l.transaction t).savepoint = some name) :
    ∃ n, name = l.savepointName n := by
  rw [← savepointOf?_of_isOpen hends.isOpen] at hname
  obtain ⟨tx, -, -, hnumbered⟩ := h.nesting.exists_of_savepointOf? hname
  exact ⟨tx.number, hnumbered⟩

/-- Every step keeps to the names. -/
theorem Marking.step (h : l.Marking) (hstep : Step l op l') :
    l'.Marking ∧ l'.savepointPrefix = l.savepointPrefix := by
  have hconsistent := consistent_step h.consistent hstep
  cases hstep with
  | refused => exact ⟨h, rfl⟩
  -- none of these sets a savepoint or names one
  | unconnected readOnly failure =>
      exact ⟨h.appended hconsistent rfl (Nat.le_refl _) rfl
        (by simp [Call.mark?])
        (by simp [Call.savepoint?, Call.mark?, Call.target?]), rfl⟩
  | abandoned readOnly failure closing =>
      exact ⟨h.appended hconsistent rfl (Nat.le_succ _) rfl
        (by simp [Call.mark?])
        (by simp [Call.savepoint?, Call.mark?, Call.target?]), rfl⟩
  | begun readOnly =>
      exact ⟨h.appended hconsistent rfl (Nat.le_succ _) rfl
        (by simp [Call.mark?])
        (by simp [Call.savepoint?, Call.mark?, Call.target?]), rfl⟩
  -- setting one uses the next number, even if the call fails
  | unmarked => exact ⟨h.marked hconsistent rfl rfl rfl, rfl⟩
  | nested => exact ⟨h.marked hconsistent rfl rfl rfl, rfl⟩
  | @rootEnded t c how hends hroot ended closed =>
      refine ⟨h.appended hconsistent rfl (Nat.le_refl _) rfl ?_ ?_, rfl⟩ <;>
        cases how.outcome (l.transaction t).readOnly <;>
        simp [Outcome.call, Call.savepoint?, Call.mark?, Call.target?]
  -- the end names the savepoint that was set
  | released how hends hnested =>
      have hname := h.consistent.exists_savepointName hends hnested
      refine ⟨h.appended hconsistent rfl (Nat.le_refl _) rfl
        (by simp [Call.mark?]) ?_, rfl⟩
      refine List.forall_mem_singleton.mpr ?_
      rintro _ ⟨⟩
      exact hname
  | reverted how hends hnested =>
      have hname := h.consistent.exists_savepointName hends hnested
      refine ⟨h.appended hconsistent rfl (Nat.le_refl _) rfl
        (by simp [Call.mark?]) ?_, rfl⟩
      refine List.forall_mem_cons.mpr
        ⟨?_, List.forall_mem_singleton.mpr ?_⟩ <;>
        rintro _ ⟨⟩ <;> exact hname
  | worked hadmits =>
      have hwork : ∀ entry ∈ _, _ := fun entry hentry =>
        Call.savepoint?_of_isWork (hadmits entry hentry).isWork
      refine ⟨h.appended hconsistent rfl (Nat.le_refl _) rfl
        (fun entry hentry => (hwork entry hentry).1) ?_, rfl⟩
      intro entry hentry name hname
      cases (hwork entry hentry).2.symm.trans hname

-- ==================================================================== steps

/-- Some operations, one after the other. -/
def Goes : Ledger → Ledger → Prop :=
  Relation.ReflTransGen fun l l' => ∃ op, Step l op l'

/-- A step is some operations. -/
theorem Step.goes (h : Step l op l') : l.Goes l' :=
  .single ⟨op, h⟩

/-- All that was done keeps to the names. -/
theorem Marking.goes (h : l.Marking) (hgoes : l.Goes l') :
    l'.Marking ∧ l'.savepointPrefix = l.savepointPrefix := by
  induction hgoes with
  | refl => exact ⟨h, rfl⟩
  | tail _ hstep ih =>
      obtain ⟨op, hstep⟩ := hstep
      obtain ⟨hmarking, hstart⟩ := ih.1.step hstep
      exact ⟨hmarking, hstart.trans ih.2⟩

/-- What a stream does is a statement, and perhaps an end. -/
theorem Streamed.goes {t : TransactionId} {c : Nat} {display : String}
    {x : Option TransactionId} (h : l.Streamed t c x l')
    (hhosts : l.Hosts t c display) : l.Goes l' := by
  cases h with
  | going hadmits => exact (step_admits hadmits).goes
  | @gone entries hadmits ended closed =>
      have hhosts' : (l.record entries).Hosts t c display :=
        hhosts.of_record rfl
      exact (step_admits hadmits).goes.trans
        (hhosts'.step_ended ended closed).goes

end Ledger

namespace Desk

open Ledger

variable {d : Desk} {σ α : Type}
  {mapper : TransactionId → Row → σ → Action (α × σ)}

/-- Opening a stream begins a transaction, and goes on in it. -/
theorem goes_opened (hpassive : Passive mapper) (sql : String)
    (params : Params) (memory : σ) :
    d.session.ledger.Goes
      (d.opened (QueryStream.openMapped sql params mapper memory)).session.ledger := by
  unfold Desk.opened
  cases hb : params.resolve sql with
  | error fault =>
      unfold QueryStream.openMapped
      rw [hb]
      exact .refl
  | ok b =>
      rw [QueryStream.openMapped_resolved hb]
      rcases Action.begin_cases d.session true with
        ⟨failure, s₁, hbegun, hledger₁⟩
        | ⟨failure, closing, s₁, hbegun, hledger₁⟩ | ⟨s₁, hbegun, hledger₁⟩
      · rw [QueryStream.openBound_unbegun hbegun]
        show Goes _ s₁.ledger
        rw [hledger₁]
        exact (Step.unconnected true failure).goes
      · rw [QueryStream.openBound_unbegun hbegun]
        show Goes _ s₁.ledger
        rw [hledger₁]
        exact (Step.abandoned true failure closing).goes
      · have hhosts := Hosts.begun d.session.ledger
        have hbegin := (Step.begun (l := d.session.ledger) true).goes
        rw [← hledger₁] at hhosts hbegin
        rcases QueryStream.openBound_streamed hpassive hbegun hhosts with
          ⟨e, s', hopen, hstreamed⟩ | ⟨q, s', hopen, -, -, hstreamed⟩ <;>
          rw [hopen] <;> exact hbegin.trans (hstreamed.goes hhosts)

/-- Whatever a desk becomes, it comes to some operations. -/
theorem Served.goes {schema : Schema} {request : Request} {d' : Desk}
    (hserved : Served schema d request d') (h : d.Kept) :
    d.session.ledger.Goes d'.session.ledger := by
  cases hserved with
  | unserved => exact .refl
  | @performed op =>
      exact (d.session.step_perform schema
        h.tenancy.consistent.connected op).goes
  | opened _ hpassive sql params memory =>
      exact goes_opened hpassive sql params memory
  | released => exact .refl
  | streamed _ _ _ hhosts _ hstreamed => exact hstreamed.goes hhosts

/-- What is asked of a desk comes to some operations. -/
theorem Kept.goes_serveAll (h : d.Kept) (schema : Schema)
    (requests : List Request) :
    d.session.ledger.Goes (d.serveAll schema requests).session.ledger := by
  induction requests generalizing d with
  | nil => exact .refl
  | cons request requests ih =>
      exact ((h.served schema request).goes h).trans
        (ih (h.serve schema request))

end Desk

-- ==================================================================== names

/-- A prefix that is accepted is a word. -/
theorem Config.isSavepointPrefix_of_validate {config accepted : Config}
    (h : config.validate = .ok accepted) :
    isSavepointPrefix config.savepointPrefix = true := by
  unfold validate at h
  split at h
  · cases h
  · split at h
    · cases h
    · split at h
      · assumption
      · cases h

/-- A number is written with digits. -/
theorem Text.isDigit_of_mem_toString {n : Nat} {c : Char}
    (h : c ∈ (toString n).toList) : isDigit c = true := by
  have hdigit : c.isDigit = true := by
    rw [show toString n = n.repr from rfl, Nat.toList_repr] at h
    exact Nat.isDigit_of_mem_toDigits (by decide) (by decide) h
  simpa [Char.isDigit, isDigit, Char.le_def] using hdigit

/-- A name does not begin with one. -/
theorem Text.isDigit_of_isWordStart {c : Char} (h : isWordStart c = true) :
    isDigit c = false := by
  simp only [isWordStart, isLetter, isDigit, Bool.or_eq_true, Bool.and_eq_true,
    decide_eq_true_eq, beq_iff_eq, Bool.and_eq_false_iff,
    decide_eq_false_iff_not, Char.le_def, UInt32.le_iff_toNat_le] at *
  rcases h with h | rfl
  · have hlower : 'a'.val.toNat = 97 := rfl
    have hupper : 'A'.val.toNat = 65 := rfl
    have hnine : '9'.val.toNat = 57 := rfl
    omega
  · decide

/-- A word is a name unless it begins with a digit. -/
theorem isName_iff_of_word {cs : List Char} (hne : cs ≠ [])
    (hword : ∀ c ∈ cs, Text.isWordChar c = true) :
    IsName cs ↔ ∀ first, cs.head? = some first → Text.isDigit first = false := by
  cases cs with
  | nil => exact absurd rfl hne
  | cons c cs =>
      obtain ⟨hc, hcs⟩ := List.forall_mem_cons.mp hword
      constructor
      · rintro h _ ⟨⟩
        exact Text.isDigit_of_isWordStart h.1
      · intro h
        refine ⟨?_, hcs⟩
        simpa [Text.isWordChar, Text.isWordStart, h c rfl] using hc

/-- What follows in a word does not matter. -/
theorem isName_append_iff {cs ds : List Char} (hne : cs ≠ [])
    (hword : ∀ d ∈ ds, Text.isWordChar d = true) :
    IsName (cs ++ ds) ↔ IsName cs := by
  cases cs with
  | nil => exact absurd rfl hne
  | cons c cs =>
      show _ ∧ (∀ d ∈ cs ++ ds, _) ↔ _
      rw [List.forall_mem_append]
      exact ⟨fun h => ⟨h.1, h.2.1⟩, fun h => ⟨h.1, h.2, hword⟩⟩

/-- The name of a savepoint is the prefix, an underscore, the number. -/
theorem Ledger.toList_savepointName (l : Ledger) (n : Nat) :
    (l.savepointName n).toList
      = l.savepointPrefix.toList ++ '_' :: (toString n).toList := by
  simp [savepointName]

namespace Desk

open Ledger

/-- Whatever a caller asks for, no two savepoints are set under one name, and
every savepoint that a call is about has the prefix in front of its name and is
made of letters, digits and underscores. It is an identifier exactly if the
prefix is one, and the prefix is one exactly if it does not begin with a
digit. -/
theorem savepoints_named {s : Session} (hfresh : s.Fresh)
    (haccepted : s.config.validate = .ok s.config) (schema : Schema)
    (requests : List Request) :
    let log := ((ofSession s).serveAll schema requests).session.driver.log
    let start := s.config.savepointPrefix.toList
    (log.filterMap (·.call.mark?)).Nodup
    ∧ (∀ entry ∈ log, ∀ name, entry.call.savepoint? = some name →
        (∃ n : Nat, name.toList = start ++ '_' :: (toString n).toList)
        ∧ (∀ c ∈ name.toList, Text.isWordChar c = true)
        ∧ (IsName name.toList ↔ IsName start))
    ∧ (IsName start ↔ ∀ first, start.head? = some first →
        Text.isDigit first = false) := by
  intro log start
  have hword := Config.isSavepointPrefix_of_validate haccepted
  unfold Config.isSavepointPrefix at hword
  rw [Bool.and_eq_true, Bool.not_eq_true', List.all_eq_true] at hword
  have hne : start ≠ [] := by
    intro hnil
    rw [String.toList_eq_nil_iff] at hnil
    rw [hnil] at hword
    cases hword.1
  -- at first no name has been used
  have hfirst : s.ledger.Marking := by
    refine ⟨hfresh.consistent, ⟨[], .nil, List.forall_mem_nil _, ?_⟩, ?_⟩
    · show s.driver.log.filterMap _ = _
      rw [hfresh.log]
      rfl
    · show ∀ entry ∈ s.driver.log, _
      rw [hfresh.log]
      exact List.forall_mem_nil _
  obtain ⟨⟨-, ⟨ns, hpairwise, -, hns⟩, hnamed⟩, hsame⟩ := hfirst.goes
    ((kept_ofSession hfresh).goes_serveAll schema requests)
  refine ⟨?_, fun entry hentry name hname => ?_,
    isName_iff_of_word hne hword.2⟩
  · -- the numbers go up, and the name tells the number
    show (List.filterMap _ log).Nodup
    have hns : log.filterMap (·.call.mark?) = _ := hns
    rw [hns]
    exact List.Nodup.map (fun m n => savepointName_injective)
      (hpairwise.imp Nat.ne_of_lt)
  · -- behind the prefix there are an underscore and digits
    obtain ⟨n, rfl⟩ := hnamed entry hentry name hname
    have hdigits : ∀ c ∈ '_' :: (toString n).toList,
        Text.isWordChar c = true := by
      refine List.forall_mem_cons.mpr ⟨rfl, fun c hc => ?_⟩
      simp [Text.isWordChar, Text.isDigit_of_mem_toString hc]
    have htext := toList_savepointName
      ((ofSession s).serveAll schema requests).session.ledger n
    rw [hsame] at htext
    rw [htext]
    exact ⟨⟨n, rfl⟩, List.forall_mem_append.mpr ⟨hword.2, hdigits⟩,
      isName_append_iff hne hdigits⟩

/-- A transaction in a transaction, which commits. -/
def nestedOnce : List Request :=
  [.operation (.begin false), .operation (.beginNested 0),
    .operation (.ending 1 .commit)]

/-- The savepoint of a nested transaction goes by one name from its beginning
to its end, and the name is an identifier. -/
theorem savepoints_named_nestedOnce :
    let s := Session.blank .empty
    let log := ((ofSession s).serveAll [] nestedOnce).session.driver.log
    log.filterMap (·.call.savepoint?) = ["tabula_sp_2", "tabula_sp_2"]
      ∧ (log.filterMap (·.call.mark?)).Nodup
      ∧ IsName "tabula_sp".toList := by
  intro s log
  have hfresh : s.Fresh := ⟨rfl, rfl, rfl, rfl⟩
  have haccepted : Config.default.validate = .ok Config.default := by rfl
  have hfirst : "tabula_sp".toList.head? = some 't' := by decide +kernel
  obtain ⟨hnodup, -, hstart⟩ :=
    savepoints_named hfresh haccepted [] nestedOnce
  -- the prefix begins with a letter
  refine ⟨by decide +kernel, hnodup, hstart.mpr fun first h => ?_⟩
  cases hfirst.symm.trans h
  decide

/-- The same under a prefix that begins with a digit. -/
def digitFirst : Session :=
  { Session.blank .empty with
    config := { Config.default with savepointPrefix := "1a" } }

/-- A prefix may begin with a digit; then the name of a savepoint is no
identifier. -/
theorem not_savepoints_named_digit :
    ¬ ∀ (s : Session) (schema : Schema) (requests : List Request), s.Fresh →
      s.config.validate = .ok s.config →
      let log := ((ofSession s).serveAll schema requests).session.driver.log
      (log.filterMap (·.call.mark?)).Nodup
      ∧ ∀ entry ∈ log, ∀ name, entry.call.savepoint? = some name →
        IsName name.toList := by
  intro h
  obtain ⟨-, hnamed⟩ :=
    h digitFirst [] nestedOnce ⟨rfl, rfl, rfl, rfl⟩ (by rfl)
  have hmem : (⟨some 0, .savepoint "1a_2", none⟩ : CallRecord)
      ∈ ((ofSession digitFirst).serveAll [] nestedOnce).session.driver.log := by
    decide +kernel
  have hname := hnamed _ hmem "1a_2" rfl
  exact absurd hname.1 (by decide +kernel)

end Desk

end DataAccess
