/-
How a record type is read. A record type is a tree, and so is what is read of
it; its shape and its reading are two walks over that tree. Both go through
the same leaves, depth first and from left to right, so reading is a flat pass
over the values after all: `flat_component` says that the scalars of what is
read, and the failure if there is one, are those of the leaves alone, however
they are nested.

The rest is said of leaves: as many values are passed as there are leaves, each
decoded by its own, and a failure stands at the first leaf whose value is
missing or cannot be decoded (`Stuck`). Nothing is read past the end.
-/
import DataAccess.Proofs.Session.Running
import DataAccess.Record.Component

namespace DataAccess

/-- Null stands for nothing. -/
theorem ScalarType.decode_null (type : ScalarType) :
    ∃ e, type.decode .null = .error e := by
  cases type <;> exact ⟨_, rfl⟩

-- =============================================================== the leaves

/-- A leaf of a record type. -/
structure Leaf where
  type : ScalarType
  nullable : Bool

namespace Leaf

/-- What a value at the leaf is decoded as. -/
def field (l : Leaf) : FieldType :=
  if l.nullable then .optional l.type else .required l.type

theorem decode_required (type : ScalarType) (v : Value) :
    (Leaf.mk type false).field.decode v = type.decode v := rfl

/-- A value that is there is decoded alike, whether it must be or not. -/
theorem decode_optional (type : ScalarType) {v : Value} (h : v ≠ .null) :
    (Leaf.mk type true).field.decode v = type.decode v := by
  cases v with
  | null => exact absurd rfl h
  | _ => rfl

/-- The type of its column. -/
def leafType (l : Leaf) : LeafType :=
  { valueType := l.type.valueType, nullable := l.nullable }

end Leaf

/-- The leaves of a record type, depth first and from left to right. -/
def RecordType.leaves : RecordType → List Leaf
  | .scalar type nullable => [⟨type, nullable⟩]
  | .record _ components => leavesOf components
where
  /-- The leaves of several record types, one after the other. -/
  leavesOf : List RecordType → List Leaf
    | [] => []
    | t :: ts => t.leaves ++ leavesOf ts

/-- The scalars of a record, depth first and from left to right. -/
def RecordValue.scalars : RecordValue → List Datum
  | .scalar datum => [datum]
  | .record components => scalarsOf components
where
  /-- The scalars of several records, one after the other. -/
  scalarsOf : List RecordValue → List Datum
    | [] => []
    | x :: xs => x.scalars ++ scalarsOf xs

/-- Reads leaves one after the other. -/
def Leaf.readAll : List Leaf → Reading (List Datum)
  | [] => pure []
  | l :: ls => do
    let d ← ValueReader.read l.field
    let ds ← readAll ls
    return d :: ds

namespace RecordType

mutual

/-- The shape has the same leaves. -/
theorem leaves_shape :
    (t : RecordType) → t.shape.leaves = t.leaves.map Leaf.leafType
  | .scalar _ _ => rfl
  | .record _ components => leavesOf_shapes components

theorem leavesOf_shapes : (ts : List RecordType) →
    Shape.leaves.leavesOf ((component.componentsOf ts).map (·.shape))
      = (leaves.leavesOf ts).map Leaf.leafType
  | [] => rfl
  | t :: ts => by
      show t.shape.leaves ++ _ = _
      rw [leaves_shape t, leavesOf_shapes ts]
      exact List.map_append.symm

end

/-- A shape has as many leaves as its type. -/
theorem leafCount_shape (t : RecordType) :
    t.shape.leafCount = t.leaves.length := by
  unfold Shape.leafCount
  rw [leaves_shape, List.length_map]

end RecordType

-- ========================================================= one after another

namespace Leaf

/-- Leaves are read one after the other. -/
theorem readAll_append (ls ls' : List Leaf) :
    readAll (ls ++ ls') = (do
      let ds ← readAll ls
      let ds' ← readAll ls'
      return ds ++ ds') := by
  induction ls with
  | nil =>
      show readAll ls' = _
      simp only [readAll, pure_bind, List.nil_append, bind_pure]
  | cons l ls ih =>
      simp only [List.cons_append, readAll, ih, bind_assoc, pure_bind]

end Leaf

namespace RecordType

mutual

/-- Of a record type the leaves are read, whatever is made of them. -/
theorem flat_component : (t : RecordType) →
    (do return (← t.component.read).scalars) = Leaf.readAll t.leaves
  | .scalar type nullable => by
      simp only [component, Component.scalar, leaves, Leaf.readAll,
        bind_assoc, pure_bind, RecordValue.scalars]
      rfl
  | .record name components => by
      have h := flat_components components
      simp only [component, Component.record, leaves, bind_assoc, pure_bind,
        RecordValue.scalars]
      exact h

theorem flat_components : (ts : List RecordType) →
    (do
      let xs ← Component.readAll (component.componentsOf ts)
      return RecordValue.scalars.scalarsOf xs)
      = Leaf.readAll (leaves.leavesOf ts)
  | [] => rfl
  | t :: ts => by
      rw [leaves.leavesOf, Leaf.readAll_append, ← flat_component t,
        ← flat_components ts]
      simp only [component.componentsOf, Component.readAll, bind_assoc,
        pure_bind, RecordValue.scalars.scalarsOf]

end

end RecordType

-- ========================================================== what is passed

namespace ValueReader

/-- The reader with some more values passed. -/
def passed (r : ValueReader) (n : Nat) : ValueReader :=
  { r with position := r.position + n }

@[simp] theorem passed_passed (r : ValueReader) (m n : Nat) :
    (r.passed m).passed n = r.passed (m + n) := by
  unfold passed
  rw [Nat.add_assoc]

/-- Why a leaf is not read, and how many values are passed at it. -/
inductive Stuck (r : ValueReader) (l : Leaf) : Error → Nat → Prop
  | exhausted (h : r.values[r.position]? = none) :
      Stuck r l (.decode (.exhausted r.values.length) []) 0
  | refused {v : Value} {e : Error} (hv : r.values[r.position]? = some v)
      (he : l.field.decode v = .error e) :
      Stuck r l (.column ("#" ++ toString r.position) (.conversion e.message))
        1

/-- The scalars are what the values to come are decoded as, one for each
leaf. -/
structure Decodes (r : ValueReader) (ls : List Leaf) (ds : List Datum) :
    Prop where
  length : ds.length = ls.length
  each : ∀ {i l}, ls[i]? = some l → ∃ v d,
    r.values[r.position + i]? = some v ∧ l.field.decode v = .ok d
      ∧ ds[i]? = some d

variable {r : ValueReader} {l : Leaf} {ls : List Leaf} {v : Value}
  {d : Datum} {ds : List Datum}

theorem decodes_nil (r : ValueReader) : r.Decodes [] [] :=
  ⟨rfl, fun h => by cases h⟩

/-- A leaf is decoded, and then the rest. -/
theorem Decodes.cons (hv : r.values[r.position]? = some v)
    (hd : l.field.decode v = .ok d) (h : (r.passed 1).Decodes ls ds) :
    r.Decodes (l :: ls) (d :: ds) := by
  refine ⟨congrArg (· + 1) h.length, fun {i l'} hl => ?_⟩
  cases i with
  | zero =>
      cases hl
      exact ⟨v, d, hv, hd, rfl⟩
  | succ i =>
      obtain ⟨v', d', hv', hd', hds⟩ := h.each hl
      refine ⟨v', d', ?_, hd', hds⟩
      rw [← hv', passed, Nat.add_assoc, Nat.add_comm 1 i]

/-- Scalars stand for values that are there. -/
theorem Decodes.le (h : r.Decodes ls ds) (hr : r.position ≤ r.values.length) :
    r.position + ls.length ≤ r.values.length := by
  cases hn : ls.length with
  | zero => exact hr
  | succ n =>
      have hl : ls[n]? = some (ls[n]) := List.getElem?_eq_getElem (by omega)
      obtain ⟨v, d, hv, -, -⟩ := h.each hl
      have hlt := (List.getElem?_eq_some_iff.mp hv).1
      omega

/-- A leaf that is stuck passes nothing past the end. -/
theorem Stuck.le {e : Error} {n : Nat} (h : r.Stuck l e n)
    (hr : r.position ≤ r.values.length) :
    r.position + n ≤ r.values.length := by
  cases h with
  | exhausted => exact hr
  | refused hv => exact (List.getElem?_eq_some_iff.mp hv).1

end ValueReader

open ValueReader

/-- One value is passed for a leaf that is read. -/
theorem Leaf.read_cases (l : Leaf) (r : ValueReader) :
    (∃ v d, r.values[r.position]? = some v ∧ l.field.decode v = .ok d
      ∧ ValueReader.read l.field r = .ok d (r.passed 1))
    ∨ ∃ e n, r.Stuck l e n
      ∧ ValueReader.read l.field r = .error e (r.passed n) := by
  unfold ValueReader.read
  rw [EStateM.get_bind]
  cases hv : r.values[r.position]? with
  | none =>
      have hnext : next r
          = .error (.decode (.exhausted r.values.length) []) r := by
        unfold next
        rw [hv]
      exact Or.inr ⟨_, 0, .exhausted hv, EStateM.bind_of_eq_error hnext _⟩
  | some v =>
      have hnext : next r = .ok v (r.passed 1) := by
        unfold next
        rw [hv]
        rfl
      rw [EStateM.bind_of_eq_ok hnext]
      cases hd : l.field.decode v with
      | ok d => exact Or.inl ⟨v, d, rfl, hd, rfl⟩
      | error e => exact Or.inr ⟨_, 1, .refused hv hd, rfl⟩

/-- Leaves are read up to the end, or up to the first that is stuck. The
induction is on the leaves; the reader goes along. -/
theorem Leaf.readAll_cases (ls : List Leaf) (r : ValueReader) :
    (∃ ds, r.Decodes ls ds ∧ readAll ls r = .ok ds (r.passed ls.length))
    ∨ ∃ i l e n ds, ls[i]? = some l ∧ r.Decodes (ls.take i) ds
      ∧ (r.passed i).Stuck l e n
      ∧ readAll ls r = .error e (r.passed (i + n)) := by
  induction ls generalizing r with
  | nil => exact Or.inl ⟨[], decodes_nil r, rfl⟩
  | cons l ls ih =>
      rcases l.read_cases r with
        ⟨v, d, hv, hd, hread⟩ | ⟨e, n, hstuck, hread⟩
      · rcases ih (r.passed 1) with
          ⟨ds, hdecodes, hrest⟩ | ⟨i, l', e, n, ds, hl, hdecodes, hstuck, hrest⟩
        · refine Or.inl ⟨d :: ds, hdecodes.cons hv hd, ?_⟩
          unfold readAll
          rw [EStateM.bind_of_eq_ok hread, EStateM.bind_of_eq_ok hrest,
            passed_passed, List.length_cons, Nat.add_comm]
          rfl
        · rw [passed_passed, Nat.add_comm 1 i] at hstuck
          refine Or.inr ⟨i + 1, l', e, n, d :: ds, hl, hdecodes.cons hv hd,
            hstuck, ?_⟩
          unfold readAll
          rw [EStateM.bind_of_eq_ok hread, EStateM.bind_of_eq_error hrest,
            passed_passed, Nat.add_right_comm i 1 n, Nat.add_comm 1]
      · refine Or.inr ⟨0, l, e, n, [], rfl, decodes_nil r, hstuck, ?_⟩
        unfold readAll
        rw [EStateM.bind_of_eq_error hread, Nat.zero_add]

namespace RecordType

variable {t t' : RecordType} {r : ValueReader}

/-- A record type is read leaf by leaf: its record has one scalar for each, or
the first leaf that is stuck fails it. -/
theorem read_cases (t : RecordType) (r : ValueReader) :
    (∃ x, t.component.read r = .ok x (r.passed t.leaves.length)
      ∧ r.Decodes t.leaves x.scalars)
    ∨ ∃ i l e n ds, t.leaves[i]? = some l ∧ r.Decodes (t.leaves.take i) ds
      ∧ (r.passed i).Stuck l e n
      ∧ t.component.read r = .error e (r.passed (i + n)) := by
  have hflat := congrFun (flat_component t) r
  rcases Leaf.readAll_cases t.leaves r with
    ⟨ds, hdecodes, hread⟩ | ⟨i, l, e, n, ds, hl, hdecodes, hstuck, hread⟩
  · rw [hread] at hflat
    obtain ⟨x, r', hx, hscalars⟩ := EStateM.bind_eq_ok_iff.mp hflat
    cases hscalars
    exact Or.inl ⟨x, hx, hdecodes⟩
  · refine Or.inr ⟨i, l, e, n, ds, hl, hdecodes, hstuck, ?_⟩
    rw [hread] at hflat
    cases hx : t.component.read r with
    | ok x r' =>
        rw [EStateM.bind_of_eq_ok hx] at hflat
        cases hflat
    | error e' r' =>
        rw [EStateM.bind_of_eq_error hx] at hflat
        cases hflat
        rfl

/-- Record types with the same leaves read the same scalars, or fail alike,
and leave the reader in the same place. -/
theorem flat_read_eq (h : t.leaves = t'.leaves) :
    (do return (← t.component.read).scalars : Reading (List Datum))
      = (do return (← t'.component.read).scalars) := by
  rw [flat_component, flat_component, h]

end RecordType

end DataAccess
