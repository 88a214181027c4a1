/-
No failed call goes unmentioned. Whatever a caller asks for, if calls fail on
the way then the request fails, and its error lists each of them once, in the
order in which the calls were made (`Desk.failures_disclosed`). A transaction
that is dropped has nobody to tell and is the exception.

The first failure is the cause. It is a call, but for two cases. A stream
fails over a row that it did fetch, and only then gives everything back; the
row comes first (`Error.DisclosesAfter`). And an export whose call was
answered may be left without one of its chunks (`Statement.withheld`), which
is a failure of the driver that no record has.

# The shape of the proof

What begins or ends, and what a stream does, makes several calls and vouches
for them (`Accounts`); a statement makes one call at most (`Asks`). Both come
to `Disclosing`.
-/
import DataAccess.Proofs.Session.Asking
import DataAccess.Proofs.Stream.Clearing
import DataAccess.Proofs.Stream.Vouching

namespace DataAccess

open DataAccess.Action Ledger

-- ================================================================ disclosing

/-- An error that comes first, with the account of failed calls behind it. -/
structure Error.DisclosesAfter (e own : Error) (failed : List DriverError) :
    Prop where
  each : ∃ told, e.flatten = own.flatten ++ told
    ∧ List.Forall₂ Error.Reports failed told
  first : e.primary = own.primary

/-- An action that fails if a call of it fails, with an error that discloses
every failed call. What was `withheld` failed after the calls; what it failed
with by its own came before a call failed. -/
def Disclosing {α : Type} (own : Option Error) (withheld : List DriverError)
    (a : Action α) (s : Session) : Prop :=
  ∃ entries, (a.after s).driver.log = s.driver.log ++ entries
    ∧ match own with
      | none => failures entries ++ withheld = []
        ∨ ∃ e, a.answer s = .error e
          ∧ e.Discloses (failures entries ++ withheld)
      | some own => ∃ e, a.answer s = .error e
          ∧ e.DisclosesAfter own (failures entries ++ withheld)

section

variable {α : Type} {a : Action α} {s : Session} {t : TransactionId}

/-- What is accounted for is disclosed. -/
theorem Accounts.disclosing {display handled : String}
    (h : Accounts display handled a s) : Disclosing none [] a s := by
  obtain ⟨entries, hlog, hanswer⟩ := h
  refine ⟨entries, hlog, ?_⟩
  rw [List.append_nil]
  rcases hanswer with rfl | ⟨hunfailing, -⟩ | ⟨e, he, hvouches, -⟩
  · exact Or.inl rfl
  · exact Or.inl (failures_eq_nil_iff.mpr hunfailing)
  · refine Or.inr ⟨e, he, Error.discloses_of_each ?_⟩
    have htold : List.Forall₂ Error.Reports (failures entries)
        (e.flatten ++ []) := hvouches.told
    rwa [List.append_nil] at htold

/-- A statement discloses the call that failed. -/
theorem Asks.disclosing {stray : Error → Prop} (h : Asks id t stray a s) :
    Disclosing none [] a s := by
  obtain ⟨sql, entries, hledger, hupshot⟩ := h
  refine ⟨entries, congrArg (·.log) hledger, ?_⟩
  rw [List.append_nil]
  generalize a.answer s = r at hupshot ⊢
  cases hupshot with
  | uncalled => exact Or.inl rfl
  | failed c hcall failure params =>
      exact Or.inr ⟨_, rfl, Error.discloses_ofDriver failure _⟩
  | answered c hcall x => exact Or.inl rfl
  | unmade c hcall h => exact Or.inl rfl

end

-- =============================================================== statements

/-- The failure of the chunk that an export is left without. -/
def Statement.withheld (t : TransactionId) (s : Session) :
    Statement → List DriverError
  | .copyOut sql types mapper =>
    if (s.transaction t).finished then []
    else
      match s.connectionOf? t with
      | none => []
      | some c =>
        match (Driver.copyOut c (Bulk.exportStatement sql)).answer
            s.driver with
        | .ok chunks => Bulk.withheld types mapper [] chunks
        | .error _ => []
  | _ => []

/-- What an operation is left without after its calls were answered. -/
def Operation.withheld (s : Session) : Operation → List DriverError
  | .statement t st => st.withheld t s
  | _ => []

section

variable {σ α : Type} {s : Session} {t : TransactionId} {c : Nat}

/-- An export that is left without a chunk fails as the driver did. -/
theorem Action.disclosing_exported {query : String} {types : List BulkType}
    {mapper : BulkRow → EStateM Error σ α} {state : σ}
    (hopen : (s.transaction t).finished = false)
    (hc : s.connectionOf? t = some c) {chunks : List ScriptedChunk}
    (hanswer : (Driver.copyOut c (Bulk.exportStatement query)).answer s.driver
      = .ok chunks)
    {failure : DriverError} {failures : List DriverError}
    (hwithheld : Bulk.withheld types mapper state chunks
      = failure :: failures) :
    Disclosing none (failure :: failures)
      (exported t query types mapper state) s := by
  generalize hevent : Event.exporting (s.transaction t).display
    (Bulk.exportStatement query) types.length = event
  have hensured : ensureOpen t s = .ok () s := by
    rw [ensureOpen_eq, hopen]
    rfl
  -- the call itself does not fail: the driver hands out the chunks
  obtain ⟨s₁, hcall, hledger⟩ : ∃ s₁, onConnectionQuietly t
        (Bulk.exportStatement query) []
        (fun c => Driver.copyOut c (Bulk.exportStatement query))
        (s.report event) = .ok chunks s₁
      ∧ s₁.ledger = s.ledger.record
          [⟨some c, .copyOut (Bulk.exportStatement query), none⟩] := by
    have hchunks : (Driver.copyOut c (Bulk.exportStatement query)).answer
        (s.report event).driver = .ok chunks := hanswer
    refine ⟨_, (onConnectionQuietly_eq (s := s.report event) hc _ _ _).trans
      (drive_of_ok hchunks _), ?_⟩
    rw [(s.report event).ledger_drive (Driver.records_copyOut c _), hchunks]
    rfl
  generalize hcontext : s.context t (Bulk.exportStatement query) [] = context
  -- but the chunk that is withheld does, and the failure keeps its context
  obtain ⟨hfailures, hdecoded⟩ := Bulk.decode_withheld hwithheld context
  have hrun : exported t query types mapper state s
      = .error (.ofDriver failure context) s₁ := by
    unfold exported
    rw [EStateM.bind_of_eq_ok hensured, EStateM.get_bind]
    dsimp only
    rw [hevent, EStateM.bind_of_eq_ok (report_eq ..),
      EStateM.bind_of_eq_ok hcall, hcontext, hdecoded]
    show EStateM.Result.error _ s₁ = _
    rw [Error.withContext_of_context?
      (Error.context?_ofDriver failure context)]
  refine ⟨[⟨some c, .copyOut (Bulk.exportStatement query), none⟩], ?_,
    Or.inr ⟨_, EStateM.answer_of_eq_error hrun, ?_⟩⟩
  · rw [EStateM.after_of_eq_error hrun]
    exact congrArg (·.log) hledger
  · rw [hfailures]
    exact Error.discloses_ofDriver failure context

/-- What an action does besides giving a result is to fail. -/
theorem Disclosing.ignoring {a : Action α} {own : Option Error}
    {withheld : List DriverError} (h : Disclosing own withheld a s) :
    Disclosing own withheld (ignoring a) s := by
  have herror : ∀ e, a.answer s = .error e →
      (Action.ignoring a).answer s = .error e := fun e he => by
    rw [answer_ignoring, he]
    rfl
  obtain ⟨entries, hlog, hanswer⟩ := h
  refine ⟨entries, by rw [after_ignoring, hlog], ?_⟩
  cases own with
  | none => exact hanswer.imp_right fun ⟨e, he, h⟩ => ⟨e, herror e he, h⟩
  | some own =>
      obtain ⟨e, he, h⟩ := hanswer
      exact ⟨e, herror e he, h⟩

/-- A statement makes one call at most, and an export may be left without a
chunk after it. -/
theorem Statement.disclosing_run (schema : Schema) (st : Statement)
    (t : TransactionId) (s : Session) :
    Disclosing none (st.withheld t s) (st.run schema t) s := by
  cases hwithheld : st.withheld t s with
  | nil => exact (st.asks_run schema s).disclosing
  | cons failure failures =>
      cases st with
      | copyOut sql types mapper =>
          rw [run_copyOut]
          unfold Statement.withheld at hwithheld
          dsimp only at hwithheld
          split at hwithheld
          · cases hwithheld
          · next hopen =>
            split at hwithheld
            · cases hwithheld
            · next c hc =>
              split at hwithheld
              · next chunks hanswer =>
                exact (disclosing_exported (Bool.eq_false_iff.mpr hopen) hc
                  hanswer hwithheld).ignoring
              · cases hwithheld
      | _ => cases hwithheld

/-- Whatever is asked of a transaction but to drop it. -/
theorem Operation.disclosing_run (schema : Schema)
    (hconnected : ∀ t, s.ledger.Connected t) (op : Operation)
    (hop : ∀ t, op ≠ .ending t .drop) :
    Disclosing none (op.withheld s) (op.run schema) s := by
  cases op with
  | begin readOnly =>
      have haccounts : Accounts (nextDisplay s) "" (Action.begin readOnly) s :=
        accounts_begin readOnly
      exact haccounts.disclosing.ignoring
  | beginNested parent =>
      have haccounts : Accounts (s.transaction parent).display ""
          (Action.beginNested parent) s :=
        accounts_beginNested (hconnected parent)
      exact haccounts.disclosing.ignoring
  | ending t how =>
      have haccounts : Accounts (s.transaction t).display "" (how.run t) s :=
        Ending.accounts_run (hconnected t) fun h => hop t (by rw [h])
      exact haccounts.disclosing
  | statement t st => exact st.disclosing_run schema t s

end

-- ================================================================== streams

namespace QueryStream

variable {σ α : Type}

/-- What a stream fails with over the row that it fetches next. -/
def ownFailure? (q : QueryStream σ α) (s : Session) : Option Error :=
  match q.tx with
  | none => none
  | some t => (q.unmade? s).map
      (Error.withContext (s.context t q.sql []))

variable {q : QueryStream σ α} {s : Session}

/-- An item discloses what failed, after its own failure. -/
theorem disclosing_item (hq : q.WellFormed)
    (hhosts : ∀ t, q.tx = some t →
      ∃ c display, s.ledger.Hosts t c display) :
    Disclosing (q.ownFailure? s) [] q.item s := by
  unfold ownFailure?
  cases htx : q.tx with
  | none =>
      refine ⟨[], ?_, Or.inl rfl⟩
      rw [EStateM.after_of_eq_ok (item_released hq htx), List.append_nil]
  | some t =>
      obtain ⟨c, display, h⟩ := hhosts t htx
      cases hunmade : q.unmade? s with
      | none => exact (accounts_item hq htx h hunmade).disclosing
      | some raised =>
          obtain ⟨entries, others, hlog, hanswer, hvouches⟩ :=
            vouches_unmade hq htx h hunmade
          refine ⟨entries, hlog, _, hanswer, ?_, ?_⟩
          · refine ⟨Error.flatten.all others, ?_, ?_⟩
            · rw [Error.flatten_withAllSuppressed, h.context_eq]
              rfl
            · rw [List.append_nil]
              exact hvouches.told
          · rw [Error.primary_withAllSuppressed, h.context_eq]
            rfl

end QueryStream

-- ==================================================================== desks

/-- Each failed call of whatever a caller asks for, but for dropping a
transaction, is told once by the error that the caller gets, in the order of
the calls, and the first failure is the cause. -/
theorem Desk.failures_disclosed {s : Session} (hfresh : s.Fresh)
    (schema : Schema) (requests : List Request) :
    let d := (ofSession s).serveAll schema requests
    (∀ op : Operation, (∀ t, op ≠ .ending t .drop) →
      Disclosing none (op.withheld d.session) (op.run schema) d.session)
    ∧ (∀ {σ α : Type} (sql : String) (params : Params)
        (f : Row → σ → Except Error (α × σ)) (memory : σ),
      Disclosing none [] (QueryStream.openRows sql params f memory) d.session)
    ∧ (∀ (typeName sql : String) (params : Params),
      Disclosing none [] (QueryStream.openEntities schema typeName sql params)
        d.session)
    ∧ ∀ (i : Nat) (x : AnyStream), d.stream? i = some x →
      Disclosing (x.stream.ownFailure? d.session) [] x.stream.item
        d.session := by
  intro d
  have hkept : d.Kept := (kept_ofSession hfresh).serveAll requests
  refine ⟨fun op hop => ?_, fun sql params f memory => ?_,
    fun typeName sql params => ?_, fun i x hx => ?_⟩
  · exact op.disclosing_run schema hkept.tenancy.consistent.connected hop
  · exact (QueryStream.accounts_openMapped sql params _ memory).disclosing
  · exact (QueryStream.accounts_openEntities schema typeName sql
      params).disclosing
  · exact QueryStream.disclosing_item (hkept.wellFormed hx) fun t htx =>
      hkept.hosts hx htx

/-- A driver that gives a row, and that then fails to close the cursor and to
commit. -/
def clinging : Driver :=
  ((Driver.empty.pushResult ⟨[⟨none, "v"⟩], [[.int64 1]]⟩).fail
    ⟨.closeCursor, 0, ⟨"stuck", none⟩⟩).fail
      ⟨.commit, 0, ⟨"refused", some "23505"⟩⟩

/-- A caller that reads integers as if they were truth values. -/
def misreading : List Request :=
  [.openRows "SELECT v FROM t" .empty
    (fun row (_ : Unit) => (row.getAt 0 (.required .bool)).map (·, ())) ()]

/-- The row cannot be made, and the two failures of giving everything back are
behind it. -/
theorem Desk.disclosing_misreading :
    let s := Session.blank clinging
    let d := (ofSession s).serveAll [] misreading
    s.Fresh ∧ ∃ x e own, d.stream? 0 = some x
      ∧ x.stream.ownFailure? d.session = some own
      ∧ x.stream.item.answer d.session = .error e
      ∧ e.DisclosesAfter own
          [⟨"stuck", none⟩, ⟨"refused", some "23505"⟩] := by
  intro s d
  have hfresh : s.Fresh :=
    Session.fresh_start (Session.start_default clinging) rfl rfl
  have hstream : ∀ (i : Nat) (x : AnyStream), d.stream? i = some x →
      Disclosing (x.stream.ownFailure? d.session) [] x.stream.item d.session :=
    (Desk.failures_disclosed hfresh [] misreading).2.2.2
  obtain ⟨x, hx⟩ := Option.isSome_iff_exists.mp
    (show (d.stream? 0).isSome by decide +kernel)
  have hown : (d.stream? 0).map (fun x =>
      (x.stream.ownFailure? d.session).isSome) = some true := by
    decide +kernel
  have hfailures : (d.stream? 0).map (fun x => failures
      ((x.stream.item.after d.session).driver.log.drop
        d.session.driver.log.length))
      = some [⟨"stuck", none⟩, ⟨"refused", some "23505"⟩] := by
    decide +kernel
  rw [hx] at hown hfailures
  obtain ⟨own, hown⟩ := Option.isSome_iff_exists.mp (Option.some.inj hown)
  obtain ⟨entries, hlog, hanswer⟩ := hstream 0 x hx
  rw [hown] at hanswer
  obtain ⟨e, he, hdiscloses⟩ := hanswer
  have hentries : failures entries ++ []
      = [⟨"stuck", none⟩, ⟨"refused", some "23505"⟩] := by
    rw [List.append_nil, ← Option.some.inj hfailures]
    dsimp only
    rw [hlog, List.drop_left]
  exact ⟨hfresh, x, e, own, hx, hown, he, hentries ▸ hdiscloses⟩

end DataAccess
