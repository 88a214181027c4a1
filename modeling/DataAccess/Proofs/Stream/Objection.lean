/-
What speaks against a request. `Objection` lists it: parameters, a transaction
that has ended or may only read, open transactions nested in it, an identity
that contradicts what a statement is about, a column that has no stored form.
However many of these hold at once, and in whatever order an operation looks
for them, it fails, and it has changed nothing by then
(`rejected_of_objection`). A stream that is not opened does not even connect.

Most of the operations come down to the lemmas of `Proofs/Session/Refusal`. It
takes a state that a caller can reach for one of the objections: there the
count of open transactions nested in one is how many there are.
-/
import DataAccess.Proofs.Entity.Reading
import DataAccess.Proofs.Session.Finished
import DataAccess.Proofs.Stream.Clearing

namespace DataAccess

open Desk

variable {schema : Schema} {s : Session} {t : TransactionId} {e : Entity}

-- ================================================================= writing

/-- A statement that writes one entity. -/
inductive Writing where
  | insert
  | update
  | delete

namespace Writing

/-- The statement. -/
def statement : Writing → Entity → Statement
  | .insert => .insert
  | .update => .update
  | .delete => .delete

variable (schema t) in
/-- What it does with the entity. -/
def run : Writing → EntityAction Unit
  | .insert => EntityAction.insert schema t
  | .update => do let _ ← EntityAction.update schema t
  | .delete => do let _ ← EntityAction.delete schema t

variable (schema s t e) in
/-- Nothing speaks against it. -/
def InOrder : Writing → Prop
  | .insert => Insertable schema s t e
  | .update => Changeable schema s t e fun b => b.updateStatement e
  | .delete => Changeable schema s t e fun b => b.deleteStatement e

/-- Writing that is not in order is refused. -/
theorem refused {how : Writing} (h : ¬ how.InOrder schema s t e) :
    Refused (how.run schema t) ⟨e, s⟩ := by
  cases how with
  | insert => exact EntityAction.refused_insert h
  | update => exact (EntityAction.refused_update h).bind _
  | delete => exact (EntityAction.refused_delete h).bind _

/-- So is the statement for it. -/
theorem refused_run {how : Writing} (h : ¬ how.InOrder schema s t e) :
    Refused ((how.statement e).run schema t) s := by
  cases how with
  | insert => exact Statement.refused_onEntity (EntityAction.refused_insert h)
  | update => exact Statement.refused_onEntity (EntityAction.refused_update h)
  | delete => exact Statement.refused_onEntity (EntityAction.refused_delete h)

/-- Writing that is in order is allowed. -/
theorem InOrder.free {how : Writing} (h : how.InOrder schema s t e) :
    ¬ s.Barred t := by
  cases how with
  | insert => exact Insertable.free h
  | update => exact Changeable.free h
  | delete => exact Changeable.free h

end Writing

-- ================================================================== columns

namespace EntityBinding

variable {b : EntityBinding} {c : ColumnBinding} {f : Field}

/-- An entity whose identity is told can read its identity columns. -/
theorem read_of_isTransient {transient : Bool}
    (h : b.isTransient e = .ok transient) (hmem : (c, f) ∈ b.bound e)
    (hidentity : c.identity = true) : ∃ v, b.read c f = .ok v := by
  obtain ⟨vs, hvs, -⟩ := Except.exists_of_map_eq_ok h
  exact read_of_readAll hvs (List.mem_filter.mpr ⟨hmem, hidentity⟩)

/-- An entity that has an identity is not transient. -/
theorem isTransient_of_identity {identity : IdentityKey}
    (h : b.identity e = .ok (some identity)) : b.isTransient e = .ok false := by
  obtain ⟨vs, hvs, hidentity⟩ := Except.exists_of_map_eq_ok h
  unfold isTransient
  rw [hvs]
  exact congrArg Except.ok (IdentityKey.any_isNull_of_ofValues? hidentity)

/-- What can be inserted has a stored form. -/
theorem read_of_insertStatement {statement : InsertStatement}
    (h : b.insertStatement e = .ok statement) (hmem : (c, f) ∈ b.bound e)
    (hgenerated : c.generated = false) : ∃ v, b.read c f = .ok v := by
  obtain ⟨vs, hvs, -⟩ := Except.bind_eq_ok_iff.mp h
  exact read_of_readAll hvs (List.mem_filter.mpr
    ⟨hmem, congrArg not hgenerated⟩)

/-- What can be updated has a stored form, and a column outside the
identity. -/
theorem read_of_updateStatement {statement : ChangeStatement}
    (h : b.updateStatement e = .ok statement) :
    (∃ c ∈ b.columns, c.identity = false)
      ∧ ∀ {c f}, (c, f) ∈ b.bound e → ∃ v, b.read c f = .ok v := by
  unfold updateStatement at h
  dsimp only at h
  split at h
  · cases h
  · next hnames =>
    obtain ⟨written, hwritten, hrest⟩ := Except.bind_eq_ok_iff.mp h
    obtain ⟨key, hkey, -⟩ := Except.bind_eq_ok_iff.mp hrest
    refine ⟨?_, fun {c f} hmem => ?_⟩
    · rw [List.isEmpty_iff, List.map_eq_nil_iff, List.filter_eq_nil_iff]
        at hnames
      simpa using hnames
    · cases hidentity : c.identity with
      | true => exact read_of_readAll hkey (List.mem_filter.mpr
          ⟨hmem, hidentity⟩)
      | false => exact read_of_readAll hwritten (List.mem_filter.mpr
          ⟨hmem, congrArg not hidentity⟩)

/-- What can be deleted has an identity with a stored form. -/
theorem read_of_deleteStatement {statement : ChangeStatement}
    (h : b.deleteStatement e = .ok statement) (hmem : (c, f) ∈ b.bound e)
    (hidentity : c.identity = true) : ∃ v, b.read c f = .ok v := by
  obtain ⟨key, hkey, -⟩ := Except.bind_eq_ok_iff.mp h
  exact read_of_readAll hkey (List.mem_filter.mpr ⟨hmem, hidentity⟩)

end EntityBinding

-- ================================================================ in order

variable {b : EntityBinding}

/-- What can be inserted has an identity if the database makes none, and a
statement. -/
theorem Insertable.of_binding (h : Insertable schema s t e)
    (hb : EntityBinding.ofType schema e.type = .ok b) :
    b.isTransient e = .ok b.isGenerated
      ∧ ∃ statement, b.insertStatement e = .ok statement := by
  obtain ⟨-, b', statement, hb', hstatement, htransient⟩ := h
  cases hb.symm.trans hb'
  exact ⟨htransient, statement, hstatement⟩

/-- What can be changed has an identity, and a statement. -/
theorem Changeable.of_binding
    {write : EntityBinding → Except Error EntityBinding.ChangeStatement}
    (h : Changeable schema s t e write)
    (hb : EntityBinding.ofType schema e.type = .ok b) :
    b.isTransient e = .ok false ∧ ∃ statement, write b = .ok statement := by
  obtain ⟨-, b', statement, identity, hb', hstatement, hidentity⟩ := h
  cases hb.symm.trans hb'
  exact ⟨EntityBinding.isTransient_of_identity hidentity, statement, hstatement⟩

-- ============================================================== objections

/-- What speaks against an operation. -/
inductive Objection (schema : Schema) (s : Session) : Operation → Prop where
  /-- Parameters that have no stored form, or do not fit the statement. -/
  | execute {t : TransactionId} {sql : String} {params : Params}
    {fault : ParamFault} (h : params.resolve sql = .error fault) :
    Objection schema s (.statement t (.execute sql params))
  | query {t : TransactionId} {sql : String} {params : Params}
    {fault : ParamFault} (fetch : Fetch)
    (h : params.resolve sql = .error fault) :
    Objection schema s (.statement t (.query sql params fetch))
  | select {t : TransactionId} {typeName suffix : String} {params : Params}
    (h : ∀ b, EntityBinding.ofType schema typeName = .ok b →
      ∃ fault, params.resolve (Action.withSuffix b.selectStatement suffix)
        = .error fault) :
    Objection schema s (.statement t (.select typeName suffix params))
  | selectOptional {t : TransactionId} {typeName suffix : String}
    {params : Params}
    (h : ∀ b, EntityBinding.ofType schema typeName = .ok b →
      ∃ fault, params.resolve (Action.withSuffix b.selectStatement suffix)
        = .error fault) :
    Objection schema s (.statement t (.selectOptional typeName suffix params))
  /-- A transaction that has ended, or may only read. -/
  | barredExecute {t : TransactionId} (h : s.Barred t) (sql : String)
    (params : Params) :
    Objection schema s (.statement t (.execute sql params))
  | barredWriting {t : TransactionId} (h : s.Barred t) (how : Writing)
    (e : Entity) :
    Objection schema s (.statement t (how.statement e))
  /-- A transaction that has ended, unless it need not be asked. -/
  | finished {t : TransactionId} {st : Statement}
    (hfinished : (s.transaction t).finished = true)
    (hrequest : st.isRequest = true) (hasked : ¬ st.Foregone schema s t) :
    Objection schema s (.statement t st)
  | nestedOnFinished {t : TransactionId}
    (hfinished : (s.transaction t).finished = true) :
    Objection schema s (.beginNested t)
  | committedTwice {t : TransactionId}
    (hfinished : (s.transaction t).finished = true) :
    Objection schema s (.ending t .commit)
  | rolledBackTwice {t : TransactionId}
    (hfinished : (s.transaction t).finished = true) :
    Objection schema s (.ending t .rollback)
  /-- A transaction with another one nested in it that is open. -/
  | openChild {t : TransactionId} {how : Ending}
    (h : 0 < s.ledger.openChildrenOf t) (hhow : how ≠ .drop) :
    Objection schema s (.ending t how)
  /-- An entity with an identity that would be generated, or without one that
  would not. -/
  | identity {t : TransactionId} {e : Entity} {b : EntityBinding}
    {transient : Bool} (hb : EntityBinding.ofType schema e.type = .ok b)
    (htransient : b.isTransient e = .ok transient)
    (hcontradicts : transient ≠ b.isGenerated) :
    Objection schema s (.statement t (.insert e))
  /-- An entity without an identity. -/
  | transientUpdate {t : TransactionId} {e : Entity} {b : EntityBinding}
    (hb : EntityBinding.ofType schema e.type = .ok b)
    (htransient : b.isTransient e = .ok true) :
    Objection schema s (.statement t (.update e))
  | transientDelete {t : TransactionId} {e : Entity} {b : EntityBinding}
    (hb : EntityBinding.ofType schema e.type = .ok b)
    (htransient : b.isTransient e = .ok true) :
    Objection schema s (.statement t (.delete e))
  /-- A column that has no stored form, of those that the statement is about:
  a delete is about the identity only. -/
  | unstoredInsert {t : TransactionId} {e : Entity} {b : EntityBinding}
    {c : ColumnBinding} {f : Field} {err : Error}
    (hb : EntityBinding.ofType schema e.type = .ok b)
    (hmem : (c, f) ∈ b.bound e) (hread : b.read c f = .error err)
    (hgenerated : c.generated = true → c.identity = true) :
    Objection schema s (.statement t (.insert e))
  | unstoredUpdate {t : TransactionId} {e : Entity} {b : EntityBinding}
    {c : ColumnBinding} {f : Field} {err : Error}
    (hb : EntityBinding.ofType schema e.type = .ok b)
    (hmem : (c, f) ∈ b.bound e) (hread : b.read c f = .error err) :
    Objection schema s (.statement t (.update e))
  | unstoredDelete {t : TransactionId} {e : Entity} {b : EntityBinding}
    {c : ColumnBinding} {f : Field} {err : Error}
    (hb : EntityBinding.ofType schema e.type = .ok b)
    (hmem : (c, f) ∈ b.bound e) (hread : b.read c f = .error err)
    (hidentity : c.identity = true) :
    Objection schema s (.statement t (.delete e))
  /-- Nothing but an identity. -/
  | nothingToUpdate {t : TransactionId} {e : Entity} {b : EntityBinding}
    (hb : EntityBinding.ofType schema e.type = .ok b)
    (hidentity : ∀ c ∈ b.columns, c.identity = true) :
    Objection schema s (.statement t (.update e))
  /-- More values than identity columns, or fewer. -/
  | findWidth {t : TransactionId} {typeName : String} {id : List Value}
    {b : EntityBinding}
    (hb : EntityBinding.ofType schema typeName = .ok b)
    (hwidth : id.length ≠ b.identityColumns.length) :
    Objection schema s (.statement t (.find typeName id))

variable (schema s) in
/-- What comes of an operation that something speaks against. -/
structure Rejected (op : Operation) : Prop where
  fails : ∃ e, (op.run schema).answer s = .error e
  intact : s.Intact ((op.run schema).after s)
  /-- The entity, too, is as it was. -/
  entity : ∀ t e how, op = .statement t (Writing.statement how e) →
    Refused (how.run schema t) ⟨e, s⟩

/-- What is refused is rejected, if nothing else is asked of the entity. -/
theorem rejected_of_refused {op : Operation} (h : Refused (op.run schema) s)
    (hentity : ∀ t e how, op = .statement t (Writing.statement how e) →
      ¬ how.InOrder schema s t e) : Rejected schema s op := by
  refine ⟨h.answer, ?_, fun t e how hop => ?_⟩
  · rw [h.after]
    exact .refl s
  · exact Writing.refused (hentity t e how hop)

/-- Writing that is not in order is rejected. -/
theorem rejected_of_writing {how : Writing}
    (h : ¬ how.InOrder schema s t e) :
    Rejected schema s (.statement t (how.statement e)) := by
  refine rejected_of_refused (Writing.refused_run h) fun t' e' how' hop => ?_
  cases how <;> cases how' <;> cases hop <;> exact h

/-- A statement that does not write an entity. -/
theorem rejected_of_reading {st : Statement} (h : Refused (st.run schema t) s)
    (hst : ∀ e how, st ≠ Writing.statement how e) :
    Rejected schema s (.statement t st) := by
  refine rejected_of_refused h fun t' e' how' hop => ?_
  cases hop
  exact absurd rfl (hst e' how')

/-- A request that is not a statement. -/
theorem rejected_of_ending {op : Operation} (h : Refused (op.run schema) s)
    (hop : ∀ t st, op ≠ .statement t st) : Rejected schema s op :=
  rejected_of_refused h fun t _ _ heq => absurd heq (hop t _)

/-- On a transaction that is finished statements are rejected, but for those
that are answered without one. -/
theorem rejected_of_finished (hfinished : (s.transaction t).finished = true)
    {st : Statement} (hrequest : st.isRequest = true)
    (hasked : ¬ st.Foregone schema s t) :
    Rejected schema s (.statement t st) := by
  have hfails : FailsIff (st.run schema t) s (¬ st.Foregone schema s t) :=
    Statement.run_failsIff hfinished hrequest
  refine ⟨hfails.iff.mpr hasked, hfails.intact, fun t' e' how hop => ?_⟩
  cases hop
  exact Writing.refused fun h => h.free (Or.inl hfinished)

/-- A transaction with an open one nested in it is open, and counts it. -/
theorem Ledger.Nesting.of_openChildrenOf {l : Ledger} (h : l.Nesting)
    (hpos : 0 < l.openChildrenOf t) :
    (l.transaction t).finished = false
      ∧ 0 < (l.transaction t).openChildren := by
  obtain ⟨child, hmem, hchild⟩ := List.countP_pos_iff.mp hpos
  simp only [Transaction.isOpenChildOf, Bool.and_eq_true, beq_iff_eq,
    Bool.not_eq_true'] at hchild
  obtain ⟨i, hi⟩ := List.getElem?_of_mem hmem
  obtain ⟨-, parent, hparent, -, -, hopen⟩ := h.parent hi hchild.1
  have htransaction : l.transaction t = parent :=
    transaction_eq_of_getElem? hparent
  rw [htransaction]
  refine ⟨hopen hchild.2, ?_⟩
  rw [h.openChildren hparent]
  exact hpos

/-- What something speaks against is rejected. -/
theorem Objection.rejected (hnesting : s.ledger.Nesting) {op : Operation}
    (h : Objection schema s op) : Rejected schema s op := by
  cases h with
  -- the parameters do not fit the text: whatever reads, refuses them
  | execute h =>
      refine rejected_of_reading (Action.refused_execute
        (Or.inl ⟨_, h⟩)).ignoring ?_
      rintro e (_ | _ | _) ⟨⟩
  | query fetch h =>
      refine rejected_of_reading (fetch.refused_run (Or.inl ⟨_, h⟩)) ?_
      rintro e (_ | _ | _) ⟨⟩
  | select h =>
      refine rejected_of_reading (Action.refused_select
        (Or.inl h)).ignoring ?_
      rintro e (_ | _ | _) ⟨⟩
  | selectOptional h =>
      refine rejected_of_reading ((Action.refused_select
        (Or.inl h)).bind _).ignoring ?_
      rintro e (_ | _ | _) ⟨⟩
  -- a transaction that may not write
  | barredExecute h sql params =>
      refine rejected_of_reading (Action.refused_execute
        (Or.inr h)).ignoring ?_
      rintro e (_ | _ | _) ⟨⟩
  | barredWriting h how e =>
      exact rejected_of_writing fun horder => horder.free h
  -- a transaction that is finished, or one with something begun within it that
  -- is not
  | finished hfinished hrequest hasked =>
      exact rejected_of_finished hfinished hrequest hasked
  | nestedOnFinished hfinished =>
      refine rejected_of_ending
        (Action.refused_beginNested hfinished).ignoring ?_
      rintro t st ⟨⟩
  | committedTwice hfinished =>
      refine rejected_of_ending (Action.refused_finish (Or.inl hfinished)) ?_
      rintro t st ⟨⟩
  | rolledBackTwice hfinished =>
      refine rejected_of_ending (Action.refused_finish (Or.inl hfinished)) ?_
      rintro t st ⟨⟩
  | @openChild t how h hhow =>
      obtain ⟨hopen, hpos⟩ := hnesting.of_openChildrenOf h
      refine rejected_of_ending ?_ (by rintro t st ⟨⟩)
      cases how with
      | commit => exact Action.refused_finish (Or.inr hpos)
      | rollback => exact Action.refused_finish (Or.inr hpos)
      | close => exact Action.refused_close hopen hpos
      | drop => exact absurd rfl hhow
  -- an entity that is not in order: each time, what writing it needs
  -- contradicts what is wrong with it
  | identity hb htransient hcontradicts =>
      refine @rejected_of_writing _ _ _ _ .insert fun horder => ?_
      cases htransient.symm.trans (Insertable.of_binding horder hb).1
      exact hcontradicts rfl
  | transientUpdate hb htransient =>
      refine @rejected_of_writing _ _ _ _ .update fun horder => ?_
      cases htransient.symm.trans (Changeable.of_binding horder hb).1
  | transientDelete hb htransient =>
      refine @rejected_of_writing _ _ _ _ .delete fun horder => ?_
      cases htransient.symm.trans (Changeable.of_binding horder hb).1
  | @unstoredInsert _ _ b c f _ hb hmem hread hgenerated =>
      refine @rejected_of_writing _ _ _ _ .insert fun horder => ?_
      obtain ⟨htransient, statement, hstatement⟩ :=
        Insertable.of_binding horder hb
      have hstored : ∃ v, b.read c f = .ok v := by
        cases hc : c.generated with
        | true =>
            exact EntityBinding.read_of_isTransient htransient hmem
              (hgenerated hc)
        | false =>
            exact EntityBinding.read_of_insertStatement hstatement hmem hc
      obtain ⟨v, hv⟩ := hstored
      cases hread.symm.trans hv
  | unstoredUpdate hb hmem hread =>
      refine @rejected_of_writing _ _ _ _ .update fun horder => ?_
      obtain ⟨-, statement, hstatement⟩ := Changeable.of_binding horder hb
      obtain ⟨v, hv⟩ :=
        (EntityBinding.read_of_updateStatement hstatement).2 hmem
      cases hread.symm.trans hv
  | unstoredDelete hb hmem hread hidentity =>
      refine @rejected_of_writing _ _ _ _ .delete fun horder => ?_
      obtain ⟨-, statement, hstatement⟩ := Changeable.of_binding horder hb
      obtain ⟨v, hv⟩ :=
        EntityBinding.read_of_deleteStatement hstatement hmem hidentity
      cases hread.symm.trans hv
  | nothingToUpdate hb hidentity =>
      refine @rejected_of_writing _ _ _ _ .update fun horder => ?_
      obtain ⟨-, statement, hstatement⟩ := Changeable.of_binding horder hb
      obtain ⟨c, hc, hplain⟩ :=
        (EntityBinding.read_of_updateStatement hstatement).1
      cases (hidentity c hc).symm.trans hplain
  -- a key of another width than the identity
  | findWidth hb hwidth =>
      refine rejected_of_reading (Refused.ignoring
        (Action.refused_find fun b' hb' hsame => ?_)) ?_
      · cases hb.symm.trans hb'
        exact absurd hsame hwidth
      · rintro e (_ | _ | _) ⟨⟩

-- ================================================================= streams

namespace QueryStream

variable {σ α : Type} {sql : String} {params : Params} {fault : ParamFault}

/-- No stream is opened with parameters that do not fit. -/
theorem refused_openMapped
    (h : params.resolve sql = .error fault)
    (mapper : TransactionId → Row → σ → Action (α × σ)) (memory : σ) :
    Refused (openMapped sql params mapper memory) s := by
  unfold openMapped
  rw [h]
  exact refused_throw _

/-- A stream of entities is one of a type that is known. -/
theorem refused_openEntities (h : params.resolve sql = .error fault)
    (typeName : String) :
    Refused (openEntities schema typeName sql params) s :=
  Action.refused_ofExcept fun _ _ => refused_openMapped h _ _

end QueryStream

-- ============================================================== any session

/-- At any time, what something speaks against fails and changes nothing: no
call is made, no transaction begins or ends, no connection or instance comes
or goes, the caches have the entries they had, and the entity is as it was.
A stream whose parameters do not resolve leaves the whole session as it is. -/
theorem rejected_of_objection {s₀ : Session} (hfresh : s₀.Fresh)
    (schema : Schema) (requests : List Request) :
    let s := ((ofSession s₀).serveAll schema requests).session
    (∀ op, Objection schema s op → Rejected schema s op)
      ∧ ∀ sql params fault, Params.resolve params sql = .error fault →
        (∀ (σ α : Type) (f : Row → σ → Except Error (α × σ)) (memory : σ),
          Refused (QueryStream.openRows sql params f memory) s)
        ∧ (∀ (α : Type) (mapper : RecordMapper α),
          Refused (QueryStream.openRecords sql params mapper) s)
        ∧ ∀ typeName,
          Refused (QueryStream.openEntities schema typeName sql params) s := by
  intro s
  have hkept : ((ofSession s₀).serveAll schema requests).Kept :=
    (kept_ofSession hfresh).serveAll requests
  refine ⟨fun op h => h.rejected hkept.tenancy.consistent.nesting,
    fun sql params fault h => ⟨fun σ α f memory => ?_, fun α mapper => ?_,
      fun typeName => ?_⟩⟩
  · exact QueryStream.refused_openMapped h _ memory
  · exact QueryStream.refused_openMapped h _ ()
  · exact QueryStream.refused_openEntities h typeName

-- ============================================================== in between

/-- A tag without a code. -/
def untold : Entity :=
  { type := "Tag"
    fields := [.plain (.stored .null), .plain (.stored (.text "new"))]
    counters := [] }

/-- A nested transaction is open, and so is a stream. -/
def amidst : List Request :=
  [.operation (.begin false),
   .operation (.statement 0 (.findShared "Tag" [.text "5"])),
   .operation (.beginNested 0),
   .openRows "SELECT 1" Params.empty (fun row _ => .ok (row, ())) ()]

/-- Amidst of it a root is not closed, an entity without a key is not updated,
a find asks for one value and not for two, and no stream is opened with a
parameter that cannot be encoded. -/
theorem rejected_amidst :
    let s₀ := Session.blank relabeling
    let s := ((ofSession s₀).serveAll tags amidst).session
    s₀.Fresh
      ∧ Rejected tags s (.ending 0 .close)
      ∧ Rejected tags s (.statement 1 (.update untold))
      ∧ Rejected tags s (.statement 1 (.find "Tag" [.text "5", .text "6"]))
      ∧ Refused (QueryStream.openEntities tags "Tag" "SELECT ?"
        (Params.empty.bind (.formless .null .keyNotString))) s := by
  intro s₀ s
  have hfresh : s₀.Fresh :=
    Session.fresh_start (Session.start_default relabeling) rfl rfl
  obtain ⟨hrejected, hrefused⟩ := rejected_of_objection hfresh tags amidst
  have htag : ∃ b, EntityBinding.ofType tags "Tag" = .ok b
      ∧ b.isTransient untold = .ok true ∧ b.identityColumns.length = 1 :=
    ⟨_, rfl, rfl, rfl⟩
  obtain ⟨b, hb, htransient, hwidth⟩ := htag
  refine ⟨hfresh, hrejected _ (.openChild ?_ (by decide)),
    hrejected _ (.transientUpdate hb htransient),
    hrejected _ (.findWidth hb ?_), (hrefused _ _ _ rfl).2.2 _⟩
  · -- the root has begun another transaction
    decide +kernel
  · -- one column, and not two
    rw [hwidth]
    decide

end DataAccess
