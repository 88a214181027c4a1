/-
Mappers of record types. A reflector compiles a mapper for a target only when
its bound leaves are the leaves of the target (`align_leaves`). So on a row of
the width of the mapper there is a value for every leaf and a leaf for every
value: a record type never runs out of values, and it leaves none. What can
still fail is a null where none may be, or a value that cannot be decoded
(`mapValues_cases`).
-/
import DataAccess.Proofs.Record.Leaves
import DataAccess.Record.Mapper

namespace DataAccess

-- ============================================================== compiling

namespace Reflector

/-- What is lined up has the leaves that were wanted. -/
theorem align_leaves {target : String} {total position bound : Nat}
    {slots : List ReflectorSlot} {wanted : List LeafType}
    {steps : List MapperStep}
    (h : align target total position bound slots wanted = .ok steps) :
    steps.map (·.leaf) = wanted := by
  induction slots generalizing position bound wanted steps with
  | nil =>
      cases wanted with
      | nil =>
          cases h
          rfl
      | cons => cases h
  | cons slot slots ih =>
      unfold align at h
      by_cases hbound : slot.bound = true
      · rw [if_pos hbound] at h
        cases wanted with
        | nil => cases h
        | cons want wanted =>
            dsimp only at h
            by_cases hwant : want = slot.leaf
            · rw [if_pos hwant] at h
              cases hrest : align target total (position + 1) (bound + 1)
                  slots wanted with
              | error fault =>
                  rw [hrest] at h
                  cases h
              | ok rest =>
                  rw [hrest] at h
                  cases h
                  rw [List.map_cons, ih hrest, hwant]
            · rw [if_neg hwant] at h
              cases h
      · rw [if_neg hbound] at h
        exact ih h

/-- A mapper that is compiled reads its target, and has its leaves. -/
theorem mapper_eq_ok {α : Type} {f : Reflector} {target : Component α}
    {m : RecordMapper α} (h : f.mapper target = .ok m) :
    m.target = target ∧ m.steps.map (·.leaf) = target.shape.leaves := by
  unfold mapper at h
  dsimp only at h
  split at h
  · rename_i steps hsteps
    cases h
    exact ⟨rfl, align_leaves hsteps⟩
  · cases h

end Reflector

-- ================================================================ mapping

namespace RecordMapper

variable {m : RecordMapper RecordValue} {values : List Value}

/-- The step that is told has a null where none may be. -/
theorem nullStep?_eq_some {steps : List MapperStep} {values : List Value}
    {step : MapperStep} (h : nullStep? steps values = some step) :
    ∃ i : Nat, steps[i]? = some step ∧ values[i]? = some .null
      ∧ step.leaf.nullable = false := by
  induction steps generalizing values with
  | nil => cases h
  | cons first steps ih =>
      cases values with
      | nil => cases h
      | cons v values =>
          unfold nullStep? at h
          split at h
          · next hnull =>
            cases h
            obtain ⟨hv, hrequired⟩ := Bool.and_eq_true_iff.mp hnull
            rw [Value.isNull_iff] at hv
            exact ⟨0, rfl, congrArg some hv, by simpa using hrequired⟩
          · obtain ⟨i, hi⟩ := ih h
            exact ⟨i + 1, hi⟩

/-- None is told where no value is null that must not be. -/
theorem nullStep?_eq_none {steps : List MapperStep} {values : List Value}
    (h : ∀ (i : Nat) (step : MapperStep), steps[i]? = some step →
      values[i]? = some Value.null → step.leaf.nullable = true) :
    nullStep? steps values = none := by
  induction steps generalizing values with
  | nil => rfl
  | cons step steps ih =>
      cases values with
      | nil => rfl
      | cons v values =>
          unfold nullStep?
          rw [if_neg]
          · exact ih fun i step hstep hvalue => h (i + 1) step hstep hvalue
          · intro hnull
            obtain ⟨hnull, hrequired⟩ := Bool.and_eq_true_iff.mp hnull
            rw [Value.isNull_iff] at hnull
            rw [h 0 step rfl (congrArg some hnull)] at hrequired
            cases hrequired

/-- A mapper for a record type. -/
structure For (m : RecordMapper RecordValue) (t : RecordType) : Prop where
  target : m.target = t.component
  leaves : m.steps.map (·.leaf) = t.leaves.map Leaf.leafType

/-- A mapper of a component is for its type. -/
theorem for_of_mapper {f : Reflector} {t : RecordType}
    (h : f.mapper t.component = .ok m) : m.For t := by
  obtain ⟨htarget, hleaves⟩ := Reflector.mapper_eq_ok h
  exact ⟨htarget, hleaves.trans t.leaves_shape⟩

/-- A mapper is as wide as its type has leaves. -/
theorem For.width_eq {t : RecordType} (h : m.For t) :
    m.width = t.leaves.length := by
  have hlength := congrArg List.length h.leaves
  rw [List.length_map, List.length_map] at hlength
  exact hlength

/-- Where every value can be decoded, there is no null that may not be. -/
theorem For.nullStep?_eq_none {t : RecordType} (h : m.For t) {ds : List Datum}
    (hdecodes : (ValueReader.ofValues values).Decodes t.leaves ds) :
    nullStep? m.steps values = none := by
  refine RecordMapper.nullStep?_eq_none fun i step hstep hnull => ?_
  have hleaf : (t.leaves.map Leaf.leafType)[i]? = some step.leaf := by
    rw [← h.leaves, List.getElem?_map, hstep]
    rfl
  rw [List.getElem?_map] at hleaf
  obtain ⟨⟨type, nullable⟩, hl, hleaf⟩ := Option.map_eq_some_iff.mp hleaf
  obtain ⟨v, d, hv, hd, -⟩ := hdecodes.each hl
  cases nullable with
  | true =>
      rw [← hleaf]
      rfl
  | false =>
      have hv : values[0 + i]? = some v := hv
      rw [Nat.zero_add, hnull] at hv
      cases hv
      obtain ⟨e, he⟩ := type.decode_null
      rw [Leaf.decode_required, he] at hd
      cases hd

/-- A row without a value that may not be null is read from its start. -/
theorem mapValues_eq {α : Type} {m : RecordMapper α}
    (hwidth : values.length = m.width)
    (hnull : nullStep? m.steps values = none) :
    m.mapValues values
      = match m.target.read (ValueReader.ofValues values) with
        | .error e _ =>
          .error (failure (.constructing m.targetName e.message) values)
        | .ok record reader =>
          if reader.remaining = 0 then .ok record
          else
            .error
              (failure (.unread m.targetName reader.remaining) values) := by
  unfold mapValues
  refine (if_neg fun hne => hne hwidth).trans ?_
  cases hstep : nullStep? m.steps values with
  | some step =>
      rw [hnull] at hstep
      cases hstep
  | none => cases m.target.read (ValueReader.ofValues values) <;> rfl

/-- A row makes a record if it is of the right width, has no null where none
may be, and is read to its end. -/
theorem mapValues_eq_ok_iff {α : Type} {m : RecordMapper α} {x : α} :
    m.mapValues values = .ok x
      ↔ values.length = m.width ∧ nullStep? m.steps values = none
        ∧ ∃ r, m.target.read (ValueReader.ofValues values) = .ok x r
          ∧ r.remaining = 0 := by
  by_cases hwidth : values.length = m.width
  · cases hnull : nullStep? m.steps values with
    | some step =>
        unfold mapValues
        rw [if_neg (fun hne => hne hwidth), hnull]
        simp
    | none =>
        rw [mapValues_eq hwidth hnull]
        cases m.target.read (ValueReader.ofValues values) with
        | error e r => simp
        | ok y r =>
            simp only [hwidth, true_and, EStateM.Result.ok.injEq]
            constructor
            · intro hread
              split at hread
              · next hremaining =>
                exact ⟨r, ⟨Except.ok.inj hread, rfl⟩, hremaining⟩
              · cases hread
            · rintro ⟨_, ⟨rfl, rfl⟩, hremaining⟩
              exact if_pos hremaining
  · unfold mapValues
    rw [if_pos hwidth]
    simp [hwidth]

/-- What comes of a row of the width of a mapper: a record with a scalar for
each leaf, or a null where none may be, or a value that is not decoded. -/
theorem For.mapValues_cases {t : RecordType} (h : m.For t)
    (hwidth : values.length = m.width) :
    (∃ x, m.mapValues values = .ok x
      ∧ (ValueReader.ofValues values).Decodes t.leaves x.scalars)
    ∨ (∃ step ∈ m.steps, m.mapValues values = .error
        (failure (.nullComponent step.column m.targetName step.leaf) values))
    ∨ ∃ position reason, position < m.width ∧ m.mapValues values = .error
        (failure (.constructing m.targetName
          (Error.column ("#" ++ toString position)
            (.conversion reason)).message) values) := by
  cases hnull : nullStep? m.steps values with
  | some step =>
      obtain ⟨i, hstep, -⟩ := nullStep?_eq_some hnull
      refine Or.inr (Or.inl ⟨step, List.mem_of_getElem? hstep, ?_⟩)
      unfold mapValues
      rw [if_neg (fun hne => hne hwidth), hnull]
  | none =>
      rw [mapValues_eq hwidth hnull, h.target]
      rw [h.width_eq] at hwidth ⊢
      rcases t.read_cases (ValueReader.ofValues values) with
        ⟨x, hread, hdecodes⟩ | ⟨i, l, e, n, ds, hl, -, hstuck, hread⟩
      · refine Or.inl ⟨x, ?_, hdecodes⟩
        have hremaining :
            ((ValueReader.ofValues values).passed t.leaves.length).remaining
              = 0 := by
          show values.length - (0 + t.leaves.length) = 0
          omega
        rw [hread]
        exact if_pos hremaining
      · have hi : i < t.leaves.length := (List.getElem?_eq_some_iff.mp hl).1
        refine Or.inr (Or.inr ?_)
        rw [hread]
        cases hstuck with
        | exhausted hnone =>
            -- there is a value for every leaf
            have hle : values.length ≤ 0 + i :=
              List.getElem?_eq_none_iff.mp hnone
            omega
        | @refused v e hv he =>
            have hposition :
                ((ValueReader.ofValues values).passed i).position = i :=
              Nat.zero_add i
            rw [hposition]
            exact ⟨i, e.message, hi, rfl⟩

/-- The text of a failure at a column is never that of a row without more
values. -/
theorem column_message_ne (name : String) (fault : ColumnFault) (n : Nat) :
    (Error.column name fault).message
      ≠ (Error.decode (.exhausted n) []).message := by
  have hcolumn : (Error.column name fault).message
      = "column '" ++ name ++ "': " ++ fault.message := by
    with_unfolding_all rfl
  have hdecode : (Error.decode (.exhausted n) []).message = "decode error: "
      ++ DecodeFault.message (.exhausted n) ++ " (raw: "
      ++ Error.bytesText [] ++ ")" := by
    with_unfolding_all rfl
  rw [hcolumn, hdecode]
  intro h
  have hhead := congrArg (·.toList.head?) h
  simp at hhead

/-- The failure tells its fault. -/
theorem failure_inj {fault fault' : RecordFault}
    (h : failure fault values = failure fault' values) : fault = fault' := by
  injection h with h
  injection h

/-- A record type that is mapped from a row of the right width never runs out
of values, and leaves none. -/
theorem For.mapValues_error {t : RecordType} (h : m.For t)
    (hwidth : values.length = m.width) {e : Error}
    (he : m.mapValues values = .error e) (n : Nat) :
    e ≠ failure (.unread m.targetName n) values
      ∧ e ≠ failure (.constructing m.targetName
          (Error.decode (.exhausted n) []).message) values := by
  rcases h.mapValues_cases hwidth with
    ⟨x, hok, -⟩ | ⟨step, -, herror⟩ | ⟨position, reason, -, herror⟩
  · rw [hok] at he
    cases he
  · rw [herror] at he
    cases he
    constructor <;> intro h <;> cases failure_inj h
  · rw [herror] at he
    cases he
    constructor <;> intro h
    · cases failure_inj h
    · have hfault := failure_inj h
      injection hfault with _ hmessage
      exact column_message_ne _ _ n hmessage

end RecordMapper

end DataAccess
