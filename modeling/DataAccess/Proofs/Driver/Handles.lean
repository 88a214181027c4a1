/-
What a stream finds at the driver: the results to come, the cursors and
statements that are open, and the handle that was given last. Statements and
cursors are numbered together, so a handle that is given is new. A cursor is
found under it, as long as no cursor has a handle that was not given yet
(`Numbered`); it gives the rows of the result it was opened on, one by one.

A call that fails by the script leaves all of this alone.
-/
import DataAccess.Proofs.Driver.Recording

namespace DataAccess

/-- What is open at a driver, and what is opened next. -/
structure Shelf where
  results : List ResultSet
  cursors : List (Nat × List (List Value))
  statements : List (Nat × String)
  lastHandle : Nat

namespace Driver

def shelf (d : Driver) : Shelf :=
  ⟨d.results, d.cursors, d.statements, d.lastHandle⟩

/-- No cursor is open under a handle that was not given yet. -/
def Numbered (d : Driver) : Prop :=
  ∀ cursor ∈ d.cursors, cursor.1 ≤ d.lastHandle

instance (d : Driver) : Decidable d.Numbered :=
  inferInstanceAs (Decidable (∀ cursor ∈ d.cursors, _))

-- ============================================================== look-ups

/-- An entry under a new handle is found. -/
theorem lookup_concat {β : Type} {handle last : Nat} {x : β}
    {entries : List (Nat × β)} (h : ∀ entry ∈ entries, entry.1 ≤ last)
    (hlast : last < handle) :
    (entries ++ [(handle, x)]).lookup handle = some x := by
  have hnone : entries.lookup handle = none := by
    rw [List.lookup_eq_none_iff]
    intro entry hentry
    have hle := h entry hentry
    simp only [bne_iff_ne, ne_eq]
    omega
  rw [List.lookup_append, hnone, Option.none_or, List.lookup_cons_self]

/-- An entry that is replaced is found. -/
theorem lookup_replaceEntry {β : Type} {handle : Nat} {x : β}
    {entries : List (Nat × β)} (h : (entries.lookup handle).isSome) :
    (replaceEntry handle x entries).lookup handle = some x := by
  induction entries with
  | nil => cases h
  | cons entry entries ih =>
      obtain ⟨k, y⟩ := entry
      unfold replaceEntry
      rw [List.map_cons]
      by_cases hk : k = handle
      · subst hk
        simp only [if_true, List.lookup_cons_self]
      · have hne : (handle == k) = false := beq_false_of_ne (Ne.symm hk)
        rw [List.lookup_cons, hne] at h
        simp only [if_neg hk, List.lookup_cons, hne]
        exact ih h

-- ================================================================= calls

variable {α : Type} (c : Nat) (d : Driver)

/-- A call fails by the script, and then nothing is touched, or it is its
answer. -/
theorem perform_shelf (connection : Option Nat) (call : Call)
    (answer : Step α) :
    (∃ e, (perform connection call answer).answer d = .error e
      ∧ ((perform connection call answer).after d).shelf = d.shelf)
    ∨ ∃ d', d'.shelf = d.shelf
      ∧ (perform connection call answer).answer d = answer.answer d'
      ∧ ((perform connection call answer).after d).shelf
        = (answer.after d').shelf := by
  rcases perform_cases connection call answer d with
    ⟨e, failures, -, hanswer, hafter⟩ | ⟨failures, -, hanswer, hafter⟩
  · exact Or.inl ⟨e, hanswer, by rw [hafter]; rfl⟩
  · exact Or.inr ⟨{ d with failures }, rfl, hanswer, by rw [hafter]; rfl⟩

/-- A call leaves the shelf as its answer does. -/
theorem shelf_perform {answer : Step α}
    (h : ∀ d, (answer.after d).shelf = d.shelf) (connection : Option Nat)
    (call : Call) :
    ((perform connection call answer).after d).shelf = d.shelf := by
  rcases perform_shelf d connection call answer with
    ⟨e, -, hafter⟩ | ⟨d', hd', -, hafter⟩
  · exact hafter
  · rw [hafter, h, hd']

theorem shelf_connect : (connect.after d).shelf = d.shelf :=
  shelf_perform d (fun _ => rfl) _ _

theorem shelf_begin (readOnly : Bool) :
    ((begin c readOnly).after d).shelf = d.shelf :=
  shelf_perform d (fun _ => rfl) _ _

theorem shelf_close : ((close c).after d).shelf = d.shelf :=
  shelf_perform { d with connections := d.connections.set c false }
    (fun _ => rfl) (some c) .close

/-- A statement that is prepared has a new handle. -/
theorem prepare_cases (sql : String) :
    (∃ e, (prepare c sql).answer d = .error e
      ∧ ((prepare c sql).after d).shelf = d.shelf)
    ∨ ((prepare c sql).answer d = .ok (d.lastHandle + 1)
      ∧ ((prepare c sql).after d).shelf = { d.shelf with
          lastHandle := d.lastHandle + 1
          statements := d.statements ++ [(d.lastHandle + 1, sql)] }) := by
  rcases perform_shelf d (some c) (.prepare sql) _ with
    h | ⟨d', hd', hanswer, hafter⟩
  · exact Or.inl h
  · have hlast : d'.lastHandle = d.lastHandle := congrArg (·.lastHandle) hd'
    refine Or.inr ⟨hanswer.trans ?_, hafter.trans ?_⟩
    · show Except.ok (d'.lastHandle + 1) = _
      rw [hlast]
    · show { d'.shelf with
        lastHandle := d'.lastHandle + 1
        statements := d'.shelf.statements ++ [(d'.lastHandle + 1, sql)] } = _
      rw [hd', hlast]
      rfl

/-- A cursor on a prepared statement has a new handle, and the rows of the
result that comes next. -/
theorem openCursor_cases {statement : Nat}
    (h : (d.statements.lookup statement).isSome) (params : List Value)
    (fetchSize : Nat) :
    (∃ e, (openCursor c statement params fetchSize).answer d = .error e
      ∧ ((openCursor c statement params fetchSize).after d).shelf = d.shelf)
    ∨ ((openCursor c statement params fetchSize).answer d
        = .ok (d.lastHandle + 1, (next d.results noResult).1.columns)
      ∧ ((openCursor c statement params fetchSize).after d).shelf
        = { d.shelf with
            results := (next d.results noResult).2
            lastHandle := d.lastHandle + 1
            cursors := d.cursors
              ++ [(d.lastHandle + 1, (next d.results noResult).1.rows)] }) := by
  rcases perform_shelf d (some c) (.openCursor statement params fetchSize)
      _ with
    hfailed | ⟨d', hd', hanswer, hafter⟩
  · exact Or.inl hfailed
  · have hstatements : d'.statements = d.statements :=
      congrArg (·.statements) hd'
    have hlast : d'.lastHandle = d.lastHandle := congrArg (·.lastHandle) hd'
    have hresults : d'.results = d.results := congrArg (·.results) hd'
    have hcursors : d'.cursors = d.cursors := congrArg (·.cursors) hd'
    refine Or.inr ⟨hanswer.trans ?_, hafter.trans ?_⟩ <;>
      simp only [EStateM.answer, EStateM.after, hstatements, h, if_true,
        hlast, hresults, hcursors, shelf]

/-- A query that does not fail has the result that comes next. -/
theorem query_cases (sql : String) (params : List Value) :
    (∃ e, (query c sql params).answer d = .error e)
    ∨ (query c sql params).answer d = .ok (next d.results noResult).1 := by
  rcases perform_shelf d (some c) (.query sql params) _ with
    ⟨e, hanswer, -⟩ | ⟨d', hd', hanswer, -⟩
  · exact Or.inl ⟨e, hanswer⟩
  · have hresults : d'.results = d.results := congrArg (·.results) hd'
    refine Or.inr (hanswer.trans ?_)
    show Except.ok (next d'.results noResult).1 = _
    rw [hresults]

/-- A fetch fails, or finds the end, or takes the next row. -/
theorem fetch_cases {cursor : Nat} {rows : List (List Value)}
    (h : d.cursors.lookup cursor = some rows) :
    (∃ e, (fetch c cursor).answer d = .error e)
    ∨ (rows = [] ∧ (fetch c cursor).answer d = .ok none)
    ∨ ∃ row rest, rows = row :: rest
      ∧ (fetch c cursor).answer d = .ok (some row)
      ∧ ((fetch c cursor).after d).cursors.lookup cursor = some rest := by
  rcases perform_cases (some c) (.fetch cursor) _ d with
    ⟨e, failures, -, hanswer, -⟩ | ⟨failures, -, hanswer, hafter⟩
  · exact Or.inl ⟨e, hanswer⟩
  · refine Or.inr ?_
    cases rows with
    | nil =>
        refine Or.inl ⟨rfl, hanswer.trans ?_⟩
        simp only [EStateM.answer, h]
    | cons row rest =>
        refine Or.inr ⟨row, rest, rfl, hanswer.trans ?_, ?_⟩
        · simp only [EStateM.answer, h]
        · refine (congrArg (·.cursors.lookup cursor) hafter).trans ?_
          simp only [EStateM.after, h]
          exact lookup_replaceEntry (by rw [h]; rfl)

end Driver

end DataAccess
