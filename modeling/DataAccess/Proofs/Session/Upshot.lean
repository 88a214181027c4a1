/-
What comes of a statement. A statement makes one call or none. If the call
fails, that is the answer, with the call's text and the transaction it was
made on; if it is answered, making something of the answer may still fail
(`Upshot`). `Sends` says this of an action whose call has a certain text, and
`Asks` of one whose text is found on the way.

A failure to make something of an answer is tagged with the statement, unless
it names a place already. What the library fails with while it reads rows
names none, so it is located by the tag. The rest is listed: `Slips` are the
failures that go out without being tagged, and `Raised` is what the functions
of the caller fail with.

# The shape of the proofs

Whatever comes before the call leaves the ledger as it is (`Quiet`), and so
does whatever comes after it. So there is one rule for each side of the call
(`Sends.before`, `Sends.bind`), and `FailsAs` goes through what comes after it.
-/
import DataAccess.Proofs.Bulk.Withholding
import DataAccess.Proofs.Session.Refusal
import DataAccess.Proofs.Stream.Mappers

namespace DataAccess

variable {τ α β : Type} {view : τ → Session} {t : TransactionId} {w : τ}

-- ================================================================ upshots

/-- The text that errors show for a call; `handled` is that of the statement
whose handles are used. -/
def Call.text (handled : String) : Call → String
  | .close => "<close connection>"
  | .prepare sql => sql
  | .openCursor .. => handled
  | .fetch _ => handled
  | .closeCursor _ => handled
  | .closeStatement _ => handled
  | call => call.render

/-- What comes of making a call of a certain text, or none, in a transaction
that is shown as `display`. An answer of which nothing can be made is followed
by an error that is located there or `stray`. -/
inductive Upshot (display sql : String) (stray : Error → Prop) :
    List CallRecord → Except Error α → Prop where
  | uncalled (r : Except Error α) : Upshot display sql stray [] r
  | failed (c : Nat) {call : Call}
      (hcall : ∀ handled, call.text handled = sql)
      (failure : DriverError) (params : List String) :
      Upshot display sql stray [⟨some c, call, some failure⟩]
        (.error (.ofDriver failure { transaction := display
                                     statement := some { sql, params } }))
  | answered (c : Nat) {call : Call}
      (hcall : ∀ handled, call.text handled = sql) (x : α) :
      Upshot display sql stray [⟨some c, call, none⟩] (.ok x)
  | unmade (c : Nat) {call : Call}
      (hcall : ∀ handled, call.text handled = sql) {e : Error}
      (h : e.Located display sql ∨ stray e) :
      Upshot display sql stray [⟨some c, call, none⟩] (.error e)

/-- An action that makes a call of a certain text, or none. -/
def Sends (view : τ → Session) (t : TransactionId) (sql : String)
    (stray : Error → Prop) (a : EStateM Error τ α) (w : τ) : Prop :=
  ∃ entries, (view (a.after w)).ledger = (view w).ledger.record entries
    ∧ Upshot ((view w).transaction t).display sql stray entries (a.answer w)

/-- An action that makes one call or none. -/
def Asks (view : τ → Session) (t : TransactionId) (stray : Error → Prop)
    (a : EStateM Error τ α) (w : τ) : Prop :=
  ∃ sql, Sends view t sql stray a w

section

variable {sql display : String} {stray : Error → Prop}
  {a : EStateM Error τ α} {f : α → EStateM Error τ β}

/-- A failure is the upshot whatever was to be answered. -/
theorem Upshot.of_error {entries : List CallRecord} {e : Error}
    (h : Upshot display sql stray entries (.error e : Except Error α)) :
    Upshot display sql stray entries (.error e : Except Error β) := by
  cases h with
  | uncalled => exact .uncalled _
  | failed c hcall failure params => exact .failed c hcall failure params
  | unmade c hcall h => exact .unmade c hcall h

/-- What is made of the result of a call changes nothing about the call. -/
theorem Upshot.map {entries : List CallRecord} {r : Except Error α}
    (h : Upshot display sql stray entries r) (g : α → β) :
    Upshot display sql stray entries (r.map g) := by
  cases h with
  | uncalled => exact .uncalled _
  | failed c hcall failure params => exact .failed c hcall failure params
  | answered c hcall x => exact .answered c hcall (g x)
  | unmade c hcall h => exact .unmade c hcall h

/-- Records say nothing about a transaction. -/
theorem Session.display_of_record {s s' : Session} {entries : List CallRecord}
    (h : s'.ledger = s.ledger.record entries) (t : TransactionId) :
    (s'.transaction t).display = (s.transaction t).display := by
  rw [← s'.transaction_ledger, h]
  rfl

/-- What makes no call sends nothing else. -/
theorem Quiet.sends (h : Quiet view a) : Sends view t sql stray a w :=
  ⟨[], by rw [h.ledger, Ledger.record_nil], .uncalled _⟩

theorem Quiet.asks (h : Quiet view a) : Asks view t stray a w :=
  ⟨"", h.sends⟩

/-- What comes before the call makes none. -/
theorem Sends.before (ha : Quiet view a)
    (hf : ∀ x, a.answer w = .ok x → Sends view t sql stray (f x) (a.after w)) :
    Sends view t sql stray (a >>= f) w := by
  have hledger := ha.ledger w
  cases hx : a.answer w with
  | error e =>
      refine ⟨[], ?_, .uncalled _⟩
      rw [EStateM.after_bind_error hx, hledger, Ledger.record_nil]
  | ok x =>
      obtain ⟨entries, hrecord, hupshot⟩ := hf x hx
      rw [hledger] at hrecord
      rw [← Session.transaction_ledger, hledger,
        Session.transaction_ledger] at hupshot
      refine ⟨entries, ?_, ?_⟩
      · rw [EStateM.after_bind_ok hx]
        exact hrecord
      · rw [EStateM.answer_bind_ok hx]
        exact hupshot

theorem Asks.before (ha : Quiet view a)
    (hf : ∀ x, a.answer w = .ok x → Asks view t stray (f x) (a.after w)) :
    Asks view t stray (a >>= f) w := by
  cases hx : a.answer w with
  | error e =>
      exact ⟨"", Sends.before ha fun x hx' => by cases hx.symm.trans hx'⟩
  | ok x =>
      obtain ⟨sql, h⟩ := hf x hx
      exact ⟨sql, Sends.before ha fun y hy => by
        cases hx.symm.trans hy
        exact h⟩

/-- What comes after the call makes none, and its failures are located there
or stray. -/
theorem Sends.bind (ha : Sends view t sql stray a w)
    (hf : ∀ x, Quiet view (f x))
    (herr : ∀ x, a.answer w = .ok x →
      ((view (a.after w)).transaction t).display
        = ((view w).transaction t).display →
      FailsAs (fun e => e.Located ((view w).transaction t).display sql
        ∨ stray e) (f x) (a.after w)) :
    Sends view t sql stray (a >>= f) w := by
  obtain ⟨entries, hrecord, hupshot⟩ := ha
  cases hx : a.answer w with
  | error e =>
      rw [hx] at hupshot
      refine ⟨entries, ?_, ?_⟩
      · rw [EStateM.after_bind_error hx]
        exact hrecord
      · rw [EStateM.answer_bind_error hx]
        exact hupshot.of_error
  | ok x =>
      rw [hx] at hupshot
      have hfails := herr x hx (Session.display_of_record hrecord t)
      refine ⟨entries, ?_, ?_⟩
      · rw [EStateM.after_bind_ok hx, (hf x).ledger]
        exact hrecord
      · rw [EStateM.answer_bind_ok hx]
        cases hupshot with
        | uncalled => exact .uncalled _
        | answered c hcall =>
            cases hy : (f x).answer (a.after w) with
            | ok y => exact .answered c hcall y
            | error e => exact .unmade c hcall (hfails e hy)

/-- What comes after the call makes none. -/
theorem Asks.bind (ha : Asks view t stray a w) (hf : ∀ x, Quiet view (f x))
    (herr : ∀ x, a.answer w = .ok x →
      ((view (a.after w)).transaction t).display
        = ((view w).transaction t).display →
      FailsAs stray (f x) (a.after w)) :
    Asks view t stray (a >>= f) w := by
  obtain ⟨sql, hsends⟩ := ha
  exact ⟨sql, hsends.bind hf fun x hx hdisplay =>
    (herr x hx hdisplay).imp fun _ => Or.inr⟩

/-- Which errors stray may be described more loosely. -/
theorem Sends.imp {stray' : Error → Prop} (h : Sends view t sql stray a w)
    (himp : ∀ e, stray e → stray' e) : Sends view t sql stray' a w := by
  obtain ⟨entries, hrecord, hupshot⟩ := h
  refine ⟨entries, hrecord, ?_⟩
  generalize a.answer w = r at hupshot
  cases hupshot with
  | uncalled => exact .uncalled _
  | failed c hcall failure params => exact .failed c hcall failure params
  | answered c hcall x => exact .answered c hcall x
  | unmade c hcall h => exact .unmade c hcall (h.imp_right (himp _))

theorem Asks.imp {stray' : Error → Prop} (h : Asks view t stray a w)
    (himp : ∀ e, stray e → stray' e) : Asks view t stray' a w := by
  obtain ⟨sql, hsends⟩ := h
  exact ⟨sql, hsends.imp himp⟩

theorem Asks.ignoring {a : Action α} {s : Session}
    (h : Asks id t stray a s) : Asks id t stray (Action.ignoring a) s :=
  h.bind (fun _ => quiet_pure ()) fun _ _ _ => failsAs_of_answer rfl

end

-- =============================================================== the call

namespace Action

variable {s : Session} {sql : String} {stray : Error → Prop}

/-- A call is made if there is a connection. -/
theorem sends_onConnectionQuietly {call : Call} {step : Nat → Driver.Step α}
    (hrecords : ∀ c, Driver.Records (some c) call (step c))
    (hcall : ∀ handled, call.text handled = sql) (params : List Value) :
    Sends id t sql stray (onConnectionQuietly t sql params step) s := by
  cases hc : s.connectionOf? t with
  | none =>
      refine ⟨[], ?_, .uncalled _⟩
      rw [EStateM.after_of_eq_error (onConnectionQuietly_released hc ..)]
      exact (Ledger.record_nil _).symm
  | some c =>
      refine ⟨[⟨some c, call, Driver.failureOf ((step c).answer s.driver)⟩],
        ?_, ?_⟩
      · rw [after_onConnectionQuietly hc]
        exact s.ledger_drive (hrecords c) _
      · rw [answer_onConnectionQuietly hc]
        cases (step c).answer s.driver with
        | ok x => exact .answered c hcall x
        | error failure => exact .failed c hcall failure _

theorem sends_onConnection {call : Call} {step : Nat → Driver.Step α}
    (hrecords : ∀ c, Driver.Records (some c) call (step c))
    (hcall : ∀ handled, call.text handled = sql) (params : List Value) :
    Sends id t sql stray (onConnection t sql params step) s :=
  sends_onConnectionQuietly (s := s.report _) hrecords hcall params

/-- A failure to make something of an answer is tagged with the statement. -/
theorem failsAs_tagged {a : Action α} {display : String}
    {params : List String}
    (h : FailsAs (fun e => Placeless e ∨ stray e) a s) :
    FailsAs (fun e => e.Located display sql ∨ stray e)
      (mapError (Error.withContext { transaction := display
                                     statement := some { sql, params } }) a)
      s := by
  intro e he
  rw [answer_mapError] at he
  cases ha : a.answer s with
  | ok x =>
      rw [ha] at he
      cases he
  | error e₀ =>
      rw [ha] at he
      cases he
      cases hcontext : e₀.context? with
      | none => exact Or.inl (Error.located_withContext hcontext)
      | some own =>
          rw [Error.withContext_of_context? hcontext]
          refine Or.inr ((h e₀ ha).resolve_left fun hplaceless => ?_)
          cases hcontext.symm.trans hplaceless

end Action

end DataAccess
