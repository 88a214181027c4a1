/-
Errors say where they happened. Once something was called in a transaction,
an error names that transaction and the text of the statement that it is
about (`Placing`): the first call that failed (`culprit?`), or, when all
were answered, the statement of whose answer nothing could be made.

What functions of the caller fail with is theirs; it is tagged unless it names
a place already. The library's own failures are all placed but for the two
that `Statement.Slips` lists: generated keys that do not fit into the entity
that was inserted, and a reference whose target has no row. For those the
statement is missing, so `Desk.failures_located` says of every operation
exactly when its error is placed.

# The shape of the proof

What makes several calls vouches for them (`Accounts`), and the first error is
that of the first call that failed. A statement makes one call (`Asks`). A
stream that fails over a row tags it with its own text.
-/
import DataAccess.Proofs.Session.Asking
import DataAccess.Proofs.Stream.Clearing
import DataAccess.Proofs.Stream.Vouching

namespace DataAccess

open DataAccess.Action Ledger

variable {σ α : Type}

-- =================================================================== placing

/-- The call that an error is about: the first that failed, or else the first
of all. -/
def culprit? (entries : List CallRecord) : Option CallRecord :=
  (firstFailed? entries).or entries.head?

/-- An error is located at the call that it is about. A query for one row that
was answered is shown as it was given. -/
def Error.Pinpoints (e : Error) (display handled : String)
    (given : Option String) (entries : List CallRecord) : Prop :=
  ∃ entry, culprit? entries = some entry
    ∧ (e.Located display (entry.call.text handled)
      ∨ entry.failure = none ∧ ∃ sql, given = some sql ∧ e.Located display sql)

/-- Whatever an action fails with, after it called something on a connection,
is located there unless it slips; what it was given to raise is left aside. -/
def Placing (display handled : String) (given : Option String)
    (slips raised : Error → Prop) (a : Action α) (s : Session) : Prop :=
  ∀ entries e, (a.after s).driver.log = s.driver.log ++ entries →
    a.answer s = .error e → (∃ entry ∈ entries, entry.connection.isSome) →
    ¬ raised e → (e.Pinpoints display handled given entries ↔ ¬ slips e)

section

variable {display handled : String} {given : Option String}
  {slips raised : Error → Prop} {a : Action α} {s : Session}

/-- The first that failed is one of the calls, and failed. -/
theorem firstFailed?_mem {entries : List CallRecord} {entry : CallRecord}
    (h : firstFailed? entries = some entry) :
    entry ∈ entries ∧ entry.failure.isSome :=
  ⟨List.mem_of_find?_eq_some h,
    List.find?_some (p := fun entry : CallRecord => entry.failure.isSome) h⟩

/-- What vouches for calls on a connection is located at the first that
failed. -/
theorem Vouches.pinpoints {entries : List CallRecord} {e : Error}
    (h : Vouches display handled entries [e])
    (hconnecting : Connecting entries) :
    e.Pinpoints display handled given entries := by
  obtain ⟨entry, hentry⟩ : ∃ entry, firstFailed? entries = some entry := by
    refine Option.ne_none_iff_exists'.mp fun hnone => ?_
    have htold := h.told
    rw [firstFailed?_eq_none_iff.mp hnone] at htold
    exact e.flatten_ne_nil (List.append_eq_nil_iff.mp
      (List.forall₂_nil_left_iff.mp htold)).1
  obtain ⟨hmem, hfailure⟩ := firstFailed?_mem hentry
  obtain ⟨_, ⟨⟩, hlocated⟩ := h.first entry hentry
  refine ⟨entry, ?_, Or.inl (hlocated (hconnecting entry hmem hfailure))⟩
  unfold culprit?
  rw [hentry]
  rfl

/-- What is accounted for is placed with the call that failed. -/
theorem Accounts.placing (h : Accounts display handled a s) :
    Placing display handled given (fun _ => False) raised a s := by
  intro entries e hlog he hconnected _
  obtain ⟨entries', hlog', haccount⟩ := h
  cases List.append_cancel_left (hlog.symm.trans hlog')
  refine iff_of_true ?_ id
  obtain ⟨entry, hentry, hconnection⟩ := hconnected
  rcases haccount with rfl | ⟨-, x, hx⟩ | ⟨e', he', hvouches, hcalls⟩
  · cases hentry
  · cases hx.symm.trans he
  · cases he'.symm.trans he
    rcases hcalls with hconnecting | ⟨call, failure, rfl⟩
    · exact hvouches.pinpoints hconnecting
    · rw [List.mem_singleton.mp hentry] at hconnection
      cases hconnection

theorem Placing.ignoring (h : Placing display handled given slips raised a s) :
    Placing display handled given slips raised (ignoring a) s := by
  intro entries e hlog he
  rw [after_ignoring] at hlog
  refine h entries e hlog ?_
  rw [answer_ignoring] at he
  cases ha : a.answer s with
  | ok x =>
      rw [ha] at he
      cases he
  | error e' =>
      rw [ha] at he
      cases he
      rfl

end

-- =============================================================== operations

namespace Statement

/-- A slip is located nowhere. -/
theorem Slips.not_pinpoints {schema : Schema} {display handled : String}
    {given : Option String} {entries : List CallRecord} {st : Statement}
    {e : Error} (h : st.Slips schema display e) :
    ¬ e.Pinpoints display handled given entries := by
  rintro ⟨entry, -, hlocated | ⟨-, sql, -, hlocated⟩⟩
  · exact h.not_located hlocated
  · exact h.not_located hlocated

/-- A statement places its failure, but for the slips. -/
theorem placing_run (schema : Schema) (st : Statement) (t : TransactionId)
    (s : Session) (handled : String) :
    Placing (s.transaction t).display handled st.given?
      (st.Slips schema (s.transaction t).display) (st.Raised schema)
      (st.run schema t) s := by
  intro entries e hlog he hconnected hraised
  obtain ⟨sql, entries', hledger, hupshot⟩ := st.asks_run schema s
  have hlog' : ((st.run schema t).after s).driver.log
      = s.driver.log ++ entries' := congrArg (·.log) hledger
  cases List.append_cancel_left (hlog.symm.trans hlog')
  rw [he] at hupshot
  refine ⟨fun hpinpoints hslips => hslips.not_pinpoints hpinpoints,
    fun hslips => ?_⟩
  cases hupshot with
  | uncalled =>
      obtain ⟨entry, hentry, -⟩ := hconnected
      cases hentry
  | failed c hcall failure params =>
      refine ⟨_, rfl, Or.inl ⟨params, ?_⟩⟩
      rw [Error.context?_ofDriver, hcall handled]
      rfl
  | unmade c hcall h =>
      refine ⟨_, rfl, ?_⟩
      rcases h with hlocated | hslip | hraise | ⟨given, hgiven, hlocated⟩
      · rw [← hcall handled] at hlocated
        exact Or.inl hlocated
      · exact absurd hslip hslips
      · exact absurd hraise hraised
      · exact Or.inr ⟨rfl, given, hgiven, hlocated⟩

end Statement

namespace Operation

/-- The transaction that an operation makes its calls in, as it is shown. -/
def display (s : Session) : Operation → String
  | .begin _ => nextDisplay s
  | .beginNested parent => (s.transaction parent).display
  | .ending t _ => (s.transaction t).display
  | .statement t _ => (s.transaction t).display

/-- The text of a query for one row, as it was given. -/
def given? : Operation → Option String
  | .statement _ st => st.given?
  | _ => none

/-- What an operation fails with that is located nowhere. -/
def Slips (schema : Schema) (s : Session) : Operation → Error → Prop
  | .statement t st => st.Slips schema (s.transaction t).display
  | _ => fun _ => False

/-- What a function of the caller fails with. -/
def Raised (schema : Schema) : Operation → Error → Prop
  | .statement _ st => st.Raised schema
  | _ => fun _ => False

/-- A transaction that is dropped fails with nothing. -/
theorem answer_drop (s : Session) (t : TransactionId) :
    (Action.drop t).answer s = .ok () := by
  unfold Action.drop
  rw [EStateM.answer_bind_ok (answer_attempt s _)]
  cases (Action.close t).answer s with
  | ok x => rfl
  | error e => rfl

/-- So does any operation, while open transactions have their connections. -/
theorem placing_run (schema : Schema) {s : Session}
    (hconnected : ∀ t, s.ledger.Connected t) (op : Operation)
    (handled : String) :
    Placing (op.display s) handled op.given? (op.Slips schema s)
      (op.Raised schema) (op.run schema) s := by
  cases op with
  | begin readOnly => exact (accounts_begin readOnly).placing.ignoring
  | beginNested parent =>
      exact (accounts_beginNested (hconnected parent)).placing.ignoring
  | ending t how =>
      by_cases hhow : how = .drop
      · subst hhow
        intro entries e hlog he
        cases (answer_drop s t).symm.trans he
      · exact (Ending.accounts_run (hconnected t) hhow).placing
  | statement t st => exact st.placing_run schema t s handled

end Operation

-- ================================================================== streams

namespace QueryStream

/-- The mapper of a stream fails with an error that names a place of its
own. -/
def Raises (q : QueryStream σ α) (e : Error) : Prop :=
  ¬ Placeless e ∧ ∃ t row s, (q.mapper t row q.memory).answer s = .error e

/-- Whatever a stream gives in the place of an item is located: at itself if a
row could not be made, else at the first call that failed. -/
def PlacesItem (q : QueryStream σ α) (s : Session) : Prop :=
  ∀ entries e, (q.item.after s).driver.log = s.driver.log ++ entries →
    q.item.answer s = .error e → (∃ entry ∈ entries, entry.connection.isSome) →
    ∃ t, q.tx = some t
      ∧ match q.unmade? s with
        | none => e.Pinpoints (s.transaction t).display q.sql none entries
        | some raised => ¬ q.Raises raised →
            e.Located (s.transaction t).display q.sql

variable {q : QueryStream σ α} {s : Session}

/-- A row that is not made fails with an error that names no place, or as the
mapper does. -/
theorem failsAs_makeRow (t : TransactionId) (resolver : ColumnResolver)
    (values : List Value) :
    FailsAs (fun e => Placeless e ∨ q.Raises e)
      (makeRow q.mapper t resolver values q.memory) s := by
  refine FailsAs.bind (failsAs_ofExcept fun e he =>
    Or.inl (Row.placeless_ofValues he)) fun row _ e he => ?_
  by_cases hplaceless : Placeless e
  · exact Or.inl hplaceless
  · exact Or.inr ⟨hplaceless, t, row, _, he⟩

/-- A row that could not be made names no place, if the mapper did not. -/
theorem placeless_of_unmade {raised : Error}
    (h : q.unmade? s = some raised) (hraises : ¬ q.Raises raised) :
    Placeless raised := by
  unfold unmade? at h
  split at h
  · next t cursor resolver _ _ _ =>
    split at h
    · cases h
    · next c _ =>
      split at h
      · next values _ =>
        split at h
        · cases h
        · next e s₁ hmade =>
          cases h
          exact (failsAs_makeRow t resolver values _
            (EStateM.answer_of_eq_error hmade)).resolve_right hraises
      · cases h
  · cases h

/-- An item that fails is placed with the query. -/
theorem placesItem (hq : q.WellFormed)
    (hhosts : ∀ t, q.tx = some t →
      ∃ c display, s.ledger.Hosts t c display) :
    q.PlacesItem s := by
  intro entries e hlog he hconnected
  cases htx : q.tx with
  | none =>
      cases (EStateM.answer_of_eq_ok (item_released hq htx)).symm.trans he
  | some t =>
      obtain ⟨c, display, h⟩ := hhosts t htx
      have hdisplay : (s.transaction t).display = display := h.display
      refine ⟨t, rfl, ?_⟩
      rw [hdisplay]
      cases hunmade : q.unmade? s with
      | none =>
          have hplacing : Placing display q.sql none (fun _ => False)
              (fun _ => False) q.item s :=
            (accounts_item hq htx h hunmade).placing
          exact (hplacing entries e hlog he hconnected id).mpr id
      | some raised =>
          intro hraises
          obtain ⟨-, others, -, hanswer, -⟩ := vouches_unmade hq htx h hunmade
          cases hanswer.symm.trans he
          exact (Error.located_withContext
            (placeless_of_unmade hunmade hraises)).withAllSuppressed others

/-- Rows are mapped by a function of the caller. -/
theorem Raises.mapped {f : Row → σ → Except Error (α × σ)} {e : Error}
    (hmapper : q.mapper = fun _ row memory => Action.ofExcept (f row memory))
    (h : q.Raises e) : ∃ row, f row q.memory = .error e := by
  obtain ⟨-, t, row, s, he⟩ := h
  rw [hmapper, answer_ofExcept] at he
  exact ⟨row, he⟩

/-- Records are mapped by the library, which names no place. -/
theorem not_raises_record {q : QueryStream Unit α} {m : RecordMapper α}
    (hmapper : q.mapper = fun _ row _ => Action.ofExcept
      ((m.map row).map (·, ())))
    (e : Error) : ¬ q.Raises e := by
  rintro ⟨hplaced, t, row, s, he⟩
  rw [hmapper, answer_ofExcept] at he
  cases hmap : m.map row with
  | ok x =>
      rw [hmap] at he
      cases he
  | error e' =>
      rw [hmap] at he
      cases he
      exact hplaced (RecordMapper.placeless_map hmap)

/-- Entities are loaded, and nothing but the hook fails with a place of its
own. -/
theorem Raises.loaded {q : QueryStream Unit Entity} {schema : Schema}
    {b : EntityBinding} {e : Error}
    (hmapper : q.mapper = entityMapper schema b) (h : q.Raises e) : b.LoadRaises e := by
  obtain ⟨hplaced, t, row, s, he⟩ := h
  rw [hmapper] at he
  have hfails : FailsAs (fun e => Placeless e ∨ b.LoadRaises e)
      (entityMapper schema b t row ()) s :=
    (failsAs_load schema b row s).bind fun _ _ => failsAs_of_answer rfl
  exact (hfails e he).resolve_left hplaced

end QueryStream

-- ==================================================================== desks

namespace Desk

/-- Once something was called in a transaction, an error of whatever a caller
asked for is located there, in the statement that it is about, exactly if it
is not one of the two slips of a statement. -/
theorem failures_located {s : Session} (hfresh : s.Fresh) (schema : Schema)
    (requests : List Request) :
    let d := (ofSession s).serveAll schema requests
    (∀ (op : Operation) (handled : String),
      Placing (op.display d.session) handled op.given?
        (op.Slips schema d.session) (op.Raised schema) (op.run schema)
        d.session)
    ∧ (∀ {σ α : Type} (sql : String) (params : Params)
        (f : Row → σ → Except Error (α × σ)) (memory : σ),
      Placing (nextDisplay d.session) (QueryStream.sentText sql params) none
        (fun _ => False) (fun _ => False)
        (QueryStream.openRows sql params f memory) d.session)
    ∧ (∀ (typeName sql : String) (params : Params),
      Placing (nextDisplay d.session) (QueryStream.sentText sql params) none
        (fun _ => False) (fun _ => False)
        (QueryStream.openEntities schema typeName sql params) d.session)
    ∧ ∀ (i : Nat) (x : AnyStream), d.stream? i = some x →
      x.stream.PlacesItem d.session := by
  intro d
  have hkept : d.Kept := (kept_ofSession hfresh).serveAll requests
  refine ⟨fun op handled => ?_, fun sql params f memory => ?_,
    fun typeName sql params => ?_, fun i x hx => ?_⟩
  · exact op.placing_run schema hkept.tenancy.consistent.connected handled
  · exact (QueryStream.accounts_openMapped sql params _ memory).placing
  · exact (QueryStream.accounts_openEntities schema typeName sql
      params).placing
  · exact QueryStream.placesItem (hkept.wellFormed hx) fun t htx =>
      hkept.hosts hx htx

/-- A type of entities whose identity the database generates. -/
def notes : Schema :=
  [.ofColumns "Note" "notes"
    [(ColumnBinding.plain "id" (.optional .int64)).asGenerated,
     .plain "body" (.required .text)]]

/-- A note that is not stored yet. -/
def note : Entity :=
  { type := "Note"
    fields := [.plain (.stored .null), .plain (.stored (.text "new"))]
    counters := [] }

/-- A driver that generates no key first, and then a text. -/
def mistaking : Driver :=
  (Driver.empty.pushGenerated [.null]).pushGenerated [.text "x"]

/-- A note was inserted once. -/
def inserting : List Request :=
  [.operation (.begin false), .operation (.statement 0 (.insert note))]

/-- The insert of a note. -/
def insertion : Operation := .statement 0 (.insert note)

/-- The call of an insert of a note. -/
def insertCall : CallRecord :=
  ⟨some 0, .insertReturning "INSERT INTO notes (body) VALUES (?)"
    [.text "new"] ["id"], none⟩

/-- Where an operation fails: the transaction and the text that its error
names, if it names them. -/
def placeOf? (schema : Schema) (d : Desk) (op : Operation) :
    Option (Option StatementContext) :=
  match (op.run schema).answer d.session with
  | .ok _ => none
  | .error e => some e.context?

theorem exists_of_placeOf? {schema : Schema} {d : Desk} {op : Operation}
    {place : Option StatementContext}
    (h : placeOf? schema d op = some place) :
    ∃ e, (op.run schema).answer d.session = .error e ∧ e.context? = place := by
  unfold placeOf? at h
  split at h
  · cases h
  · next e he => exact ⟨e, he, Option.some.inj h⟩

/-- Notes have no hook. -/
theorem not_raised_insertion (e : Error) : ¬ insertion.Raised notes e := by
  obtain ⟨b₀, hb₀, hhook⟩ : ∃ b, EntityBinding.ofType notes "Note" = .ok b
      ∧ b.runPostStore = pure () := ⟨_, rfl, rfl⟩
  intro h
  change Statement.Raised notes (.insert note) e at h
  cases h with
  | loaded hst => cases hst
  | inserted hb h =>
      cases hb₀.symm.trans hb
      obtain ⟨entity, he⟩ := h
      rw [hhook] at he
      cases he

/-- The insert of a note that gets no key is an error of that statement. The
insert of a note that gets a text as its key slips. -/
theorem failures_located_inserting :
    let s := Session.blank mistaking
    let d := (ofSession s).serveAll notes (inserting.take 1)
    let d' := (ofSession s).serveAll notes inserting
    s.Fresh
      ∧ (∃ e, (insertion.run notes).answer d.session = .error e
        ∧ e.Pinpoints "tx#1" "" none [insertCall]
        ∧ ¬ insertion.Slips notes d.session e)
      ∧ ∃ e, (insertion.run notes).answer d'.session = .error e
        ∧ ¬ e.Pinpoints "tx#1" "" none [insertCall]
        ∧ insertion.Slips notes d'.session e := by
  intro s d d'
  have hfresh : s.Fresh :=
    Session.fresh_start (Session.start_default mistaking) rfl rfl
  have hcalled : ∃ entry ∈ [insertCall], entry.connection.isSome :=
    ⟨insertCall, by simp, rfl⟩
  refine ⟨hfresh, ?_, ?_⟩
  · -- no key comes back: the error has the statement
    obtain ⟨e, he, hcontext⟩ := exists_of_placeOf?
      (show placeOf? notes d insertion = some (some ⟨"tx#1",
        some ⟨"INSERT INTO notes (body) VALUES (?)",
          [(Value.text "new").render]⟩⟩) by decide +kernel)
    have hpinpoints : e.Pinpoints "tx#1" "" none [insertCall] :=
      ⟨insertCall, rfl, Or.inl ⟨_, hcontext⟩⟩
    have hiff := (failures_located hfresh notes (inserting.take 1)).1
      insertion "" [insertCall] e (by decide +kernel) he hcalled (not_raised_insertion e)
    rw [show insertion.display _ = "tx#1" by decide +kernel] at hiff
    exact ⟨e, he, hpinpoints, hiff.mp hpinpoints⟩
  · -- a text comes back for a number: the error does not
    obtain ⟨e, he, hcontext⟩ := exists_of_placeOf?
      (show placeOf? notes d' insertion = some none by decide +kernel)
    have hpinpoints : ¬ e.Pinpoints "tx#1" "" none [insertCall] := by
      rintro ⟨entry, -, ⟨params, hlocated⟩ | ⟨-, sql, ⟨⟩, -⟩⟩
      cases hcontext.symm.trans hlocated
    have hiff := (failures_located hfresh notes inserting).1 insertion ""
      [insertCall] e (by decide +kernel) he hcalled (not_raised_insertion e)
    rw [show insertion.display _ = "tx#1" by decide +kernel] at hiff
    exact ⟨e, he, hpinpoints, not_not.mp (mt hiff.mpr hpinpoints)⟩

/-- Not every error is located, even after a call that was answered. -/
theorem not_failures_located :
    ¬ ∀ (schema : Schema) (driver : Driver) (requests : List Request)
      (op : Operation) (entries : List CallRecord) (e : Error),
      let d := (ofSession (Session.blank driver)).serveAll schema requests
      ((op.run schema).after d.session).driver.log
        = d.session.driver.log ++ entries →
      (op.run schema).answer d.session = .error e →
      (∃ entry ∈ entries, entry.connection.isSome) →
      ¬ op.Raised schema e →
        ∃ sql, e.Located (op.display d.session) sql := by
  intro hall
  obtain ⟨e, he, hcontext⟩ := exists_of_placeOf?
    (show placeOf? notes ((ofSession (Session.blank mistaking)).serveAll notes
      inserting) insertion = some none by decide +kernel)
  obtain ⟨sql, params, hlocated⟩ := hall notes mistaking inserting insertion
    [insertCall] e (by decide +kernel) he ⟨insertCall, by simp, rfl⟩
    (not_raised_insertion e)
  cases hcontext.symm.trans hlocated

end Desk

end DataAccess
