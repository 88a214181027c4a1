/-
A transaction that has ended. Whatever is asked of it makes no call and
changes nothing, and as a rule it fails (`fails_on_finished_iff`). The
exceptions are the statements that are answered before anybody looks whether
the transaction is open: a find for an identity with a null in it, and a
shared find that finds its instance in the cache. The cache belongs to the
chain, so it is still there when a nested transaction has ended and its root
has not (`not_fails_on_finished`).
-/
import DataAccess.Proofs.Identity.Freshness
import DataAccess.Proofs.Session.Refusal

namespace DataAccess

variable {schema : Schema} {s : Session} {t : TransactionId}

-- ============================================================ what is asked

/-- Whether a statement asks the database for anything. Making an entity of a
row that is there already does not. -/
def Statement.isRequest : Statement → Bool
  | .load .. => false
  | .inject .. => false
  | _ => true

/-- What a transaction has to be open for. It may be closed and dropped at any
time. -/
inductive Operation.Work (t : TransactionId) : Operation → Prop where
  | beginNested : Work t (.beginNested t)
  | commit : Work t (.ending t .commit)
  | rollback : Work t (.ending t .rollback)
  | statement {st : Statement} (h : st.isRequest = true) :
    Work t (.statement t st)

variable (schema s t) in
/-- A statement that is answered without the database: nothing has an identity
with a null in it, and an instance that was loaded is shared from the
cache. -/
def Statement.Foregone : Statement → Prop
  | .find typeName id => ∃ b, EntityBinding.ofType schema typeName = .ok b
    ∧ id.length = b.identityColumns.length ∧ id.any Value.isNull = true
  | .findShared typeName id => ∀ identity,
    IdentityKey.ofValues? id = some identity →
    (s.loaded? t ⟨typeName, identity⟩).isSome = true
  | .resolve target reference => ∃ identity,
    IdentityKey.ofValues? [reference.id] = some identity
    ∧ (s.loaded? t ⟨target, identity⟩).isSome = true
  | _ => False

variable (schema s) in
/-- The same of an operation. -/
def Operation.Foregone : Operation → Prop
  | .statement t st => st.Foregone schema s t
  | _ => False

-- ================================================================= answers

/-- An identity without a null in it. -/
theorem IdentityKey.any_isNull_of_ofValues? {id : List Value}
    {identity : IdentityKey} (h : ofValues? id = some identity) :
    id.any Value.isNull = false := by
  unfold ofValues? at h
  obtain ⟨parts, hparts, -⟩ := Option.map_eq_some_iff.mp h
  clear h
  induction id generalizing parts with
  | nil => rfl
  | cons v vs ih =>
      rw [partsOf?] at hparts
      obtain ⟨part, hpart, hrest⟩ := Option.bind_eq_some_iff.mp hparts
      obtain ⟨parts', hparts', -⟩ := Option.bind_eq_some_iff.mp hrest
      rw [List.any_cons, ih _ hparts', Bool.or_false]
      cases v with
      | null => cases hpart
      | _ => rfl

/-- An action that leaves everything in its place, and fails under just one
condition. -/
structure FailsIff {α : Type} (a : Action α) (s : Session) (P : Prop) :
    Prop where
  iff : (∃ e, a.answer s = .error e) ↔ P
  intact : s.Intact (a.after s)

/-- What is refused fails. -/
theorem Refused.failsIff {α : Type} {a : Action α} {P : Prop}
    (h : Refused a s) (hP : P) : FailsIff a s P := by
  refine ⟨iff_of_true h.answer hP, ?_⟩
  rw [h.after]
  exact .refl s

/-- An action that has a result. -/
theorem failsIff_of_answer {α : Type} {a : Action α} {x : α} {P : Prop}
    (hanswer : a.answer s = .ok x) (hintact : s.Intact (a.after s))
    (hP : ¬ P) : FailsIff a s P := by
  refine ⟨iff_of_false ?_ hP, hintact⟩
  rintro ⟨e, he⟩
  cases hanswer.symm.trans he

theorem FailsIff.ignoring {α : Type} {a : Action α} {P : Prop}
    (h : FailsIff a s P) : FailsIff (Action.ignoring a) s P := by
  refine ⟨Iff.trans ?_ h.iff, ?_⟩
  · rw [Action.answer_ignoring]
    cases a.answer s with
    | ok x => simp [Except.map]
    | error e => exact iff_of_true ⟨e, rfl⟩ ⟨e, rfl⟩
  · rw [Action.after_ignoring]
    exact h.intact

namespace Action

variable {typeName target : String} {id : List Value} {reference : Reference}

/-- A find fails unless it is for an identity with a null in it. -/
theorem find_failsIff (hfinished : (s.transaction t).finished = true) :
    FailsIff (find schema t typeName id) s
      (¬ (Statement.find typeName id).Foregone schema s t) := by
  by_cases hforegone : (Statement.find typeName id).Foregone schema s t
  · obtain ⟨b, hb, hwidth, hnull⟩ := hforegone
    have hfind : find schema t typeName id s = .ok none s := by
      unfold find
      rw [hb]
      show (if id.length ≠ b.identityColumns.length then _ else _ :
        Action (Option Entity)) s = _
      rw [if_neg (not_not_intro hwidth), if_pos hnull]
      rfl
    refine failsIff_of_answer (EStateM.answer_of_eq_ok hfind) ?_
      (not_not_intro ⟨b, hb, hwidth, hnull⟩)
    rw [EStateM.after_of_eq_ok hfind]
    exact .refl s
  · refine (refused_find fun b hb hwidth => ?_).failsIff hforegone
    exact ⟨hfinished, Bool.eq_false_iff.mpr fun hnull =>
      hforegone ⟨b, hb, hwidth, hnull⟩⟩

/-- A shared find in a transaction that has ended fails, or it answers from
the cache. -/
theorem findShared_on_finished (hfinished : (s.transaction t).finished = true) :
    s.Intact ((findShared schema t typeName id).after s)
      ∧ ((∃ e, (findShared schema t typeName id).answer s = .error e)
          ∧ ¬ (Statement.findShared typeName id).Foregone schema s t
        ∨ ∃ found, (findShared schema t typeName id).answer s = .ok found
          ∧ (Statement.findShared typeName id).Foregone schema s t
          ∧ (found = none ↔ IdentityKey.ofValues? id = none)) := by
  unfold findShared Statement.Foregone
  cases hid : IdentityKey.ofValues? id with
  -- a null in the key: there is no such row
  | none =>
      refine ⟨.refl s, Or.inr ⟨none, rfl, fun identity h => ?_, by simp⟩⟩
      cases hid.symm.trans h
  | some identity =>
      have hlooked := answer_cachedLoaded_eq s t ⟨typeName, identity⟩
      have hintact := intact_cachedLoaded s t ⟨typeName, identity⟩
      dsimp only
      cases hloaded : s.loaded? t ⟨typeName, identity⟩ with
      -- cached and loaded: that is the answer
      | some i =>
          rw [hloaded] at hlooked
          rw [EStateM.answer_bind_ok hlooked, EStateM.after_bind_ok hlooked]
          refine ⟨hintact, Or.inr ⟨some i, rfl, fun identity' h => ?_, by simp⟩⟩
          cases hid.symm.trans h
          rw [hloaded]
          rfl
      -- anything else needs a find, and it is refused
      | none =>
          rw [hloaded] at hlooked
          rw [EStateM.answer_bind_ok hlooked, EStateM.after_bind_ok hlooked]
          have hrefused : Refused (find schema t typeName id)
              ((cachedLoaded t ⟨typeName, identity⟩).after s) := by
            refine refused_find fun _ _ _ => ?_
            rw [hintact.transaction]
            exact ⟨hfinished, IdentityKey.any_isNull_of_ofValues? hid⟩
          rw [(hrefused.bind _).after]
          refine ⟨hintact, Or.inl ⟨(hrefused.bind _).answer, fun hall => ?_⟩⟩
          have hsome := hall identity hid
          rw [hloaded] at hsome
          cases hsome

/-- A shared find fails unless the cache has the instance, or a part of the key
is null. -/
theorem findShared_failsIff (hfinished : (s.transaction t).finished = true) :
    FailsIff (findShared schema t typeName id) s
      (¬ (Statement.findShared typeName id).Foregone schema s t) := by
  obtain ⟨hintact, ⟨hfails, hasked⟩ | ⟨found, hanswer, hforegone, -⟩⟩ :=
    @findShared_on_finished schema s t typeName id hfinished
  · exact ⟨iff_of_true hfails hasked, hintact⟩
  · exact failsIff_of_answer hanswer hintact (not_not_intro hforegone)

/-- A reference is resolved by a shared find, which has to find something. -/
theorem resolve_failsIff (hfinished : (s.transaction t).finished = true) :
    FailsIff (resolveReference schema t target reference) s
      (¬ (Statement.resolve target reference).Foregone schema s t) := by
  unfold resolveReference
  obtain ⟨hintact, ⟨⟨e, he⟩, hasked⟩ | ⟨found, hfound, hforegone, hnone⟩⟩ :=
    @findShared_on_finished schema s t target [reference.id] hfinished
  · refine ⟨iff_of_true ⟨e, EStateM.answer_bind_error he _⟩ ?_, ?_⟩
    · rintro ⟨identity, hid, hloaded⟩
      refine hasked fun identity' hid' => ?_
      cases hid.symm.trans hid'
      exact hloaded
    · rw [EStateM.after_bind_error he]
      exact hintact
  · cases found with
    | none =>
        refine ⟨iff_of_true ?_ ?_, ?_⟩
        · rw [EStateM.answer_bind_ok hfound]
          exact ⟨_, rfl⟩
        · rintro ⟨identity, hid, -⟩
          cases (hnone.mp rfl).symm.trans hid
        · rw [EStateM.after_bind_ok hfound]
          exact hintact
    | some i =>
        cases hid : IdentityKey.ofValues? [reference.id] with
        | none => cases hnone.mpr hid
        | some identity =>
            refine failsIff_of_answer (EStateM.answer_bind_ok hfound _) ?_
              (not_not_intro ⟨identity, hid, hforegone identity hid⟩)
            rw [EStateM.after_bind_ok hfound]
            exact hintact

/-- No export is asked for on a transaction that is finished. -/
theorem refused_copyBinary (hfinished : (s.transaction t).finished = true)
    {sql : String} {types : List BulkType} {σ α : Type}
    (mapper : BulkRow → EStateM Error σ α) (state : σ) :
    Refused (do
      let (result, _) ← copyBinary t sql types mapper state
      ignoring (ofExcept result)) s := by
  obtain ⟨e, he⟩ := refused_ensureOpen hfinished
  have hattempt : attempt (ensureOpen t) s = .ok (.error e) s := by
    unfold attempt
    rw [he]
  have hcopy : copyBinary t sql types mapper state s
      = .ok (.error e, state) s := by
    unfold copyBinary
    rw [EStateM.bind_of_eq_ok hattempt]
    rfl
  rw [Refused, EStateM.bind_of_eq_ok hcopy]
  exact ⟨e, rfl⟩

end Action

-- ============================================================== operations

/-- In a transaction that has ended a statement fails unless it is answered
without the database. -/
theorem Statement.run_failsIff (hfinished : (s.transaction t).finished = true)
    {st : Statement} (hrequest : st.isRequest = true) :
    FailsIff (st.run schema t) s (¬ st.Foregone schema s t) := by
  have hbarred : s.Barred t := Or.inl hfinished
  cases st with
  | execute sql params =>
      exact (Action.refused_execute (Or.inr hbarred)).ignoring.failsIff id
  | query sql params fetch =>
      exact (fetch.refused_run (Or.inr hfinished)).failsIff id
  | select typeName suffix params =>
      exact (Action.refused_select (Or.inr hfinished)).ignoring.failsIff id
  | selectOptional typeName suffix params =>
      exact ((Action.refused_select (Or.inr hfinished)).bind
        _).ignoring.failsIff id
  | find typeName id => exact (Action.find_failsIff hfinished).ignoring
  | findShared typeName id =>
      exact (Action.findShared_failsIff hfinished).ignoring
  | resolve target reference =>
      exact (Action.resolve_failsIff hfinished).ignoring
  | insert e =>
      exact (refused_onEntity (EntityAction.refused_insert fun h =>
        h.free hbarred)).failsIff id
  | update e =>
      exact (refused_onEntity (EntityAction.refused_update fun h =>
        h.free hbarred)).failsIff id
  | delete e =>
      exact (refused_onEntity (EntityAction.refused_delete fun h =>
        h.free hbarred)).failsIff id
  | load b row => cases hrequest
  | inject e b row => cases hrequest
  | copyOut sql types mapper =>
      exact (Action.refused_copyBinary hfinished mapper []).failsIff id

/-- Whatever is asked of a transaction that is finished fails, unless it is
answered without it. -/
theorem Operation.run_failsIff (hfinished : (s.transaction t).finished = true)
    {op : Operation} (h : op.Work t) :
    FailsIff (op.run schema) s (¬ op.Foregone schema s) := by
  cases h with
  | beginNested =>
      exact (Action.refused_beginNested hfinished).ignoring.failsIff id
  | commit => exact (Action.refused_finish (Or.inl hfinished)).failsIff id
  | rollback => exact (Action.refused_finish (Or.inl hfinished)).failsIff id
  | statement h => exact Statement.run_failsIff hfinished h

/-- Whatever is asked of a transaction that has ended makes no call, and it
fails unless it is answered without the database. -/
theorem Operation.fails_on_finished_iff (schema : Schema) (s : Session)
    (t : TransactionId) (hfinished : (s.transaction t).finished = true)
    {op : Operation} (h : op.Work t) :
    ((op.run schema).after s).driver = s.driver
      ∧ ((∃ e, (op.run schema).answer s = .error e)
        ↔ ¬ op.Foregone schema s) := by
  have hfails : FailsIff (op.run schema) s (¬ op.Foregone schema s) :=
    Operation.run_failsIff hfinished h
  exact ⟨hfails.intact.driver, hfails.iff⟩

-- ============================================================= still shared

namespace Session

/-- A nested transaction shares a tag and ends; its root goes on. -/
def sharing : List Operation :=
  [.begin false, .beginNested 0,
   .statement 1 (.findShared "Tag" [.text "5"]), .ending 1 .commit]

/-- A shared find in the nested transaction fails for another tag, and does
not for the one that is cached. -/
theorem fails_after_sharing :
    let s := (blank Desk.relabeling).performAll Desk.tags sharing
    let find (id : Value) : Operation :=
      .statement 1 (.findShared "Tag" [id])
    (s.transaction 1).finished = true ∧ (s.transaction 0).finished = false
      ∧ (∃ e, ((find (.text "6")).run Desk.tags).answer s = .error e)
      ∧ ¬ ∃ e, ((find (.text "5")).run Desk.tags).answer s = .error e := by
  intro s find
  have hfinished : (s.transaction 1).finished = true := by decide +kernel
  have hfails : ∀ id, (∃ e, ((find id).run Desk.tags).answer s = .error e)
      ↔ ¬ (find id).Foregone Desk.tags s := fun id =>
    (Operation.fails_on_finished_iff Desk.tags s 1 hfinished
      (.statement rfl)).2
  refine ⟨hfinished, by decide +kernel, (hfails _).mpr ?_,
    fun h => (hfails _).mp h ?_⟩
  · intro hforegone
    have hloaded := hforegone ⟨[.text "6"]⟩ rfl
    revert hloaded
    decide +kernel
  · rintro identity ⟨⟩
    decide +kernel

/-- Not everything fails in a transaction that has ended. -/
theorem not_fails_on_finished :
    ¬ ∀ (schema : Schema) (driver : Driver) (ops : List Operation)
      (t : TransactionId) (op : Operation),
      let s := (blank driver).performAll schema ops
      (s.transaction t).finished = true → op.Work t →
        (∃ e, (op.run schema).answer s = .error e)
          ∧ ((op.run schema).after s).driver = s.driver := by
  intro hall
  obtain ⟨⟨e, he⟩, -⟩ := hall Desk.tags Desk.relabeling sharing 1
    (.statement 1 (.findShared "Tag" [.text "5"])) (by decide +kernel)
    (.statement rfl)
  have hanswer : (((Operation.statement 1 (.findShared "Tag"
      [.text "5"])).run Desk.tags).answer ((blank Desk.relabeling).performAll
        Desk.tags sharing)).toOption = some () := by decide +kernel
  rw [he] at hanswer
  cases hanswer

end Session

end DataAccess
