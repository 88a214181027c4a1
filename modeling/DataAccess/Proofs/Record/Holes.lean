/-
Holes by name. The columns of a reflector all have different names, so a name
picks one of them, bound or not (`contains_positionsOf`), and a step is a rule
about names: excluding leaves a column bound if it was and is not among the
names (`excluding_eq`), choosing binds it if it is among them (`only_eq`).
Whatever the steps before, only what is bound has changed (`replay_eq`).

So holes add up in any order, and choosing forgets them: what is bound after it
has nothing to do with what was bound before. A step fails by a name that no
column has, and a hole still has its name.
-/
import DataAccess.Proofs.Record.Alignment
import Mathlib.Data.List.Nodup

namespace DataAccess

/-- A column goes by one of some names; case does not count. -/
def ReflectorSlot.isAmong (slot : ReflectorSlot) (names : List String) : Bool :=
  names.any fun name => Text.sameName name slot.column

namespace Reflector

-- ===================================================================== steps

/-- A step from one reflector to another over the same base. -/
inductive Step where
  | excluding (names : List String)
  | only (names : List String)

/-- The names that a step is about. -/
def Step.names : Step → List String
  | .excluding names => names
  | .only names => names

/-- The reflector after a step. -/
def Step.apply (r : Reflector) : Step → Except Error Reflector
  | .excluding names => r.excluding names
  | .only names => r.only names

/-- The reflector after some steps, one after the other. -/
def replay (r : Reflector) : List Step → Except Error Reflector
  | [] => .ok r
  | step :: steps => do
    let r' ← step.apply r
    r'.replay steps

/-- Each of some names is that of a column of a template. -/
def Known (template names : List String) : Prop :=
  ∀ name ∈ names, ∃ column ∈ template, Text.sameName name column = true

instance (template names : List String) : Decidable (Known template names) :=
  inferInstanceAs (Decidable (∀ _ ∈ _, ∃ _ ∈ _, _))

/-- The reflector with just those columns bound that a rule says. -/
def bindWhere (r : Reflector) (P : ReflectorSlot → Bool) : Reflector :=
  { r with slots := r.slots.map fun s => { s with bound := P s } }

variable {base : Shape} {r r' : Reflector} {names a b c : List String}
  {P Q : ReflectorSlot → Bool}

@[simp]
theorem template_bindWhere : (r.bindWhere P).template = r.template := by
  simp [template, bindWhere]

/-- The last rule counts. -/
theorem bindWhere_bindWhere :
    (r.bindWhere P).bindWhere Q
      = r.bindWhere fun s => Q { s with bound := P s } := by
  simp [bindWhere]

/-- Which slots are bound is all that matters. -/
theorem bindWhere_congr (h : ∀ slot ∈ r.slots, P slot = Q slot) :
    r.bindWhere P = r.bindWhere Q := by
  unfold bindWhere
  rw [List.map_congr_left fun slot hslot => by rw [h slot hslot]]

/-- The rule that changes nothing. -/
theorem bindWhere_bound (h : ∀ slot ∈ r.slots, P slot = slot.bound) :
    r.bindWhere P = r := by
  rw [bindWhere_congr h]
  simp [bindWhere]

/-- Binding slots does not change the names. -/
theorem Names.bindWhere (h : r.Names base) (P : ReflectorSlot → Bool) :
    (r.bindWhere P).Names base := by
  refine ⟨?_, ?_, ?_⟩
  · rw [← h.leaves]
    simp [Reflector.bindWhere]
  · intro slot hslot
    obtain ⟨slot', hslot', rfl⟩ := List.mem_map.mp hslot
    exact h.nonempty slot' hslot'
  · rw [template_bindWhere]
    exact h.distinct

-- ================================================================= positions

/-- A name stands for the first column of the template that has it. -/
theorem positionOf_eq_ok_iff {name : String} {i : Nat} :
    r.positionOf name = .ok i
      ↔ r.template.findIdx? (Text.sameName name) = some i := by
  unfold positionOf
  cases r.template.findIdx? (Text.sameName name) with
  | none => simp [fail]
  | some j => simp

/-- A name stands for something if the template has it. -/
theorem exists_positionOf_iff {name : String} :
    (∃ i, r.positionOf name = .ok i)
      ↔ ∃ column ∈ r.template, Text.sameName name column = true := by
  simp only [positionOf_eq_ok_iff]
  rw [← Option.isSome_iff_exists, List.findIdx?_isSome, List.any_eq_true]

/-- There are positions for just the names that are known. -/
theorem exists_positionsOf_iff :
    (∃ positions, r.positionsOf names = .ok positions)
      ↔ Known r.template names := by
  induction names with
  | nil => simp [positionsOf, Known]
  | cons name names ih =>
      unfold Known at ih ⊢
      rw [List.forall_mem_cons, ← ih, ← exists_positionOf_iff]
      simp only [positionsOf, Except.bind_eq_ok_iff]
      constructor
      · intro ⟨_, i, hi, positions, hpositions, _⟩
        exact ⟨⟨i, hi⟩, positions, hpositions⟩
      · intro ⟨⟨i, hi⟩, positions, hpositions⟩
        exact ⟨_, i, hi, positions, hpositions, rfl⟩

/-- Where a name is found tells whose name it is, as no other column has it. -/
theorem Names.positionOf_iff (h : r.Names base) {name : String} {i j : Nat}
    {slot : ReflectorSlot} (hi : r.positionOf name = .ok i)
    (hslot : r.slots[j]? = some slot) :
    j = i ↔ Text.sameName name slot.column = true := by
  rw [positionOf_eq_ok_iff, List.findIdx?_eq_some_iff_getElem] at hi
  obtain ⟨hlt, hsame, -⟩ := hi
  have hcolumn : r.template[j]? = some slot.column := by
    simp [template, hslot]
  obtain ⟨hlt', hcolumn⟩ := List.getElem?_eq_some_iff.mp hcolumn
  rw [Text.sameName_iff] at hsame ⊢
  constructor
  · intro hji
    subst hji
    rw [hsame, hcolumn]
  · intro hname
    -- Folded, the names of the columns are distinct, so they tell positions.
    have hfold : (r.template.map Text.fold)[j]?
        = (r.template.map Text.fold)[i]? := by
      rw [List.getElem?_map, List.getElem?_map,
        List.getElem?_eq_getElem hlt', List.getElem?_eq_getElem hlt, hcolumn]
      simp [← hname, hsame]
    exact (List.getElem?_inj (by simpa using hlt') h.distinct).mp hfold

/-- The positions of some names are those of the columns among them. -/
theorem Names.contains_positionsOf (h : r.Names base) {positions : List Nat}
    (hpositions : r.positionsOf names = .ok positions) {i : Nat}
    {slot : ReflectorSlot} (hslot : r.slots[i]? = some slot) :
    positions.contains i = slot.isAmong names := by
  induction names generalizing positions with
  | nil =>
      cases hpositions
      rfl
  | cons name names ih =>
      obtain ⟨position, hposition, hpositions⟩ :=
        Except.bind_eq_ok_iff.mp hpositions
      obtain ⟨rest, hrest, hpositions⟩ := Except.bind_eq_ok_iff.mp hpositions
      cases hpositions
      have hfirst : (i == position) = Text.sameName name slot.column := by
        rw [Bool.eq_iff_iff, beq_iff_eq]
        exact h.positionOf_iff hposition hslot
      have hlater : rest.contains i = slot.isAmong names := ih hrest
      rw [List.contains_cons, hfirst, hlater]
      rfl

-- ================================================================ what it does

/-- Slots that are bound by their place, said of the slots. -/
theorem rebind_eq {rule : Nat → Bool → Bool}
    (h : ∀ (i : Nat) slot, r.slots[i]? = some slot →
      rule i slot.bound = P slot) : r.rebind rule = r.bindWhere P := by
  unfold rebind bindWhere
  congr 1
  refine List.ext_getElem? fun i => ?_
  rw [List.getElem?_mapIdx, List.getElem?_map]
  cases hslot : r.slots[i]? with
  | none => rfl
  | some slot => simp [h i slot hslot]

/-- A rule by position alone takes no account of what was bound. -/
theorem rebind_bindWhere {rule : Nat → Bool} :
    (r.bindWhere P).rebind (fun i _ => rule i) = r.rebind fun i _ => rule i := by
  unfold rebind bindWhere
  congr 1
  refine List.ext_getElem? fun i => ?_
  simp [Function.comp_def]

/-- Excluding leaves bound what was bound and is not among the names. -/
theorem Names.excluding_eq (h : r.Names base)
    (hnames : Known r.template names) :
    r.excluding names
      = .ok (r.bindWhere fun s => s.bound && !s.isAmong names) := by
  obtain ⟨positions, hpositions⟩ := exists_positionsOf_iff.mpr hnames
  unfold excluding
  rw [hpositions]
  refine congrArg Except.ok (rebind_eq fun i slot hslot => ?_)
  rw [h.contains_positionsOf hpositions hslot]

/-- Choosing binds what is among the names. -/
theorem Names.only_eq (h : r.Names base) (hnames : Known r.template names) :
    r.only names = .ok (r.bindWhere (·.isAmong names)) := by
  obtain ⟨positions, hpositions⟩ := exists_positionsOf_iff.mpr hnames
  unfold only
  rw [hpositions]
  refine congrArg Except.ok (rebind_eq fun i slot hslot => ?_)
  rw [h.contains_positionsOf hpositions hslot]

/-- A step needs the positions of its names, and nothing else. -/
theorem exists_derived_iff {f : List Nat → Reflector} :
    (∃ r', (r.positionsOf names >>= fun positions => pure (f positions))
        = Except.ok r') ↔ Known r.template names := by
  rw [← exists_positionsOf_iff]
  cases r.positionsOf names with
  | ok positions => exact iff_of_true ⟨_, rfl⟩ ⟨_, rfl⟩
  | error e => exact iff_of_false nofun nofun

/-- A step succeeds exactly if the template has its names, holes or not. -/
theorem Step.exists_apply_iff (r : Reflector) (step : Step) :
    (∃ r', step.apply r = .ok r') ↔ Known r.template step.names := by
  cases step with
  | excluding names => exact exists_derived_iff
  | only names => exact exists_derived_iff

-- =================================================================== history

/-- A step changes what is bound, and nothing else. -/
theorem Names.apply_eq (h : r.Names base) {step : Step}
    (hr' : step.apply r = .ok r') : ∃ P, r' = r.bindWhere P := by
  have hnames : Known r.template step.names :=
    (Step.exists_apply_iff r step).mp ⟨r', hr'⟩
  cases step with
  | excluding names =>
      have heq := (h.excluding_eq hnames).symm.trans hr'
      exact ⟨_, (Except.ok.inj heq).symm⟩
  | only names =>
      have heq := (h.only_eq hnames).symm.trans hr'
      exact ⟨_, (Except.ok.inj heq).symm⟩

/-- However many steps there are, only what is bound changes. -/
theorem Names.replay_eq (h : r.Names base) {steps : List Step}
    (hr' : r.replay steps = .ok r') : ∃ P, r' = r.bindWhere P := by
  induction steps generalizing r with
  | nil =>
      cases hr'
      exact ⟨(·.bound), (bindWhere_bound fun _ _ => rfl).symm⟩
  | cons step steps ih =>
      obtain ⟨r₁, hstep, hrest⟩ := Except.bind_eq_ok_iff.mp hr'
      -- A step keeps the names, so the next ones are about the same columns.
      obtain ⟨P, rfl⟩ := h.apply_eq hstep
      obtain ⟨Q, rfl⟩ := ih (h.bindWhere P) hrest
      exact ⟨_, bindWhere_bindWhere⟩

/-- A name is looked for among all columns. -/
theorem positionsOf_bindWhere :
    (r.bindWhere P).positionsOf names = r.positionsOf names := by
  induction names with
  | nil => rfl
  | cons name names ih =>
      unfold positionsOf positionOf
      rw [ih, template_bindWhere]
      rfl

/-- Choosing has nothing to do with what was bound before. -/
theorem only_bindWhere : (r.bindWhere P).only names = r.only names := by
  unfold only
  rw [positionsOf_bindWhere]
  simp only [rebind_bindWhere]

-- ===================================================================== laws

/-- A slot is among names if it is among some of them. -/
theorem isAmong_append (slot : ReflectorSlot) (a b : List String) :
    slot.isAmong (a ++ b) = (slot.isAmong a || slot.isAmong b) :=
  List.any_append

/-- Names are known if all are. -/
theorem Known.append (ha : Known r.template a) (hb : Known r.template b) :
    Known r.template (a ++ b) := by
  intro name hname
  rcases List.mem_append.mp hname with hname | hname
  · exact ha name hname
  · exact hb name hname

/-- Holes add up. -/
theorem Names.excluding_excluding (h : r.Names base)
    (ha : Known r.template a) (hb : Known r.template b) :
    (r.excluding a >>= (·.excluding b)) = r.excluding (a ++ b) := by
  rw [h.excluding_eq ha, h.excluding_eq (ha.append hb)]
  show (r.bindWhere _).excluding b = _
  rw [(h.bindWhere _).excluding_eq (by rwa [template_bindWhere]),
    bindWhere_bindWhere]
  refine congrArg Except.ok (bindWhere_congr fun slot _ => ?_)
  rw [isAmong_append, Bool.not_or, Bool.and_assoc]
  rfl

/-- The order in which columns are excluded does not matter. -/
theorem Names.excluding_append_comm (h : r.Names base)
    (ha : Known r.template a) (hb : Known r.template b) :
    r.excluding (a ++ b) = r.excluding (b ++ a) := by
  rw [h.excluding_eq (ha.append hb), h.excluding_eq (hb.append ha)]
  refine congrArg Except.ok (bindWhere_congr fun slot _ => ?_)
  rw [isAmong_append, isAmong_append, Bool.or_comm]

/-- What is excluded already stays so. -/
theorem Names.excluding_append_self (h : r.Names base)
    (ha : Known r.template a) : r.excluding (a ++ a) = r.excluding a := by
  rw [h.excluding_eq (ha.append ha), h.excluding_eq ha]
  refine congrArg Except.ok (bindWhere_congr fun slot _ => ?_)
  rw [isAmong_append, Bool.or_self]

/-- A column goes by one of the names of some columns exactly if it is one of
them, as no other column has its name. -/
theorem Names.isAmong_filter (h : r.Names base) (P : ReflectorSlot → Bool)
    {slot : ReflectorSlot} (hslot : slot ∈ r.slots) :
    slot.isAmong ((r.slots.filter P).map (·.column)) = P slot := by
  have hdistinct : (r.slots.map fun s => Text.fold s.column).Nodup := by
    simpa [template, Function.comp_def] using h.distinct
  rw [Bool.eq_iff_iff]
  unfold ReflectorSlot.isAmong
  rw [List.any_eq_true]
  constructor
  · rintro ⟨name, hname, hsame⟩
    obtain ⟨slot', hslot', rfl⟩ := List.mem_map.mp hname
    obtain ⟨hmem, hP⟩ := List.mem_filter.mp hslot'
    rw [Text.sameName_iff] at hsame
    rwa [← List.inj_on_of_nodup_map hdistinct hmem hslot hsame]
  · intro hP
    exact ⟨slot.column,
      List.mem_map.mpr ⟨slot, List.mem_filter.mpr ⟨hslot, hP⟩, rfl⟩,
      Text.sameName_iff.mpr rfl⟩

theorem known_of_subset (h : names ⊆ r.template) : Known r.template names :=
  fun name hname => ⟨name, h hname, Text.sameName_iff.mpr rfl⟩

/-- What is bound is a column of the template. -/
theorem columns_subset_template : r.columns ⊆ r.template :=
  List.map_subset _ (List.filter_subset_self _)

/-- Choosing the columns that are bound changes nothing. -/
theorem Names.only_columns (h : r.Names base) : r.only r.columns = .ok r := by
  rw [h.only_eq (known_of_subset columns_subset_template)]
  exact congrArg Except.ok
    (bindWhere_bound fun slot hslot => h.isAmong_filter (·.bound) hslot)

/-- The columns of a template that do not go by any of some names. -/
def others (r : Reflector) (names : List String) : List String :=
  r.template.filter fun column => !names.any (Text.sameName · column)

/-- A slot is among the others if it is not among the names. -/
theorem Names.isAmong_others (h : r.Names base) {slot : ReflectorSlot}
    (hslot : slot ∈ r.slots) :
    slot.isAmong (r.others names) = !slot.isAmong names := by
  have hothers : r.others names
      = (r.slots.filter fun s => !s.isAmong names).map (·.column) :=
    List.filter_map
  rw [hothers]
  exact h.isAmong_filter (fun s => !s.isAmong names) hslot

/-- Without holes, choosing is excluding the others. -/
theorem Names.only_eq_excluding (h : r.Names base)
    (hbound : ∀ slot ∈ r.slots, slot.bound = true)
    (hnames : Known r.template names) :
    r.only names = r.excluding (r.others names) := by
  have hothers : Known r.template (r.others names) :=
    known_of_subset (List.filter_subset_self _)
  rw [h.only_eq hnames, h.excluding_eq hothers]
  refine congrArg Except.ok (bindWhere_congr fun slot hslot => ?_)
  rw [hbound slot hslot, h.isAmong_others hslot, Bool.not_not, Bool.true_and]

-- =================================================================== results

/-- Of a reflector that comes from naming a base, by whatever steps: columns
are excluded in any order or at once, and once is enough; what is chosen is the
same after any further steps; choosing what is bound changes nothing; and
without holes choosing is excluding the others. A step succeeds exactly if the
template has its names, and no step changes the template, so which columns are
holes makes no difference to that. -/
theorem Derived.holes_by_name (h : Derived base r) :
    (∀ a b, Known r.template a → Known r.template b →
      ∃ r', r.excluding (a ++ b) = .ok r'
        ∧ (r.excluding a >>= (·.excluding b)) = .ok r'
        ∧ (r.excluding b >>= (·.excluding a)) = .ok r')
    ∧ (∀ a, Known r.template a →
      ∃ r', r.excluding a = .ok r' ∧ r'.excluding a = .ok r')
    ∧ (∀ steps r', r.replay steps = .ok r' →
      r'.template = r.template ∧ ∀ c, r'.only c = r.only c)
    ∧ r.only r.columns = .ok r
    ∧ ((∀ slot ∈ r.slots, slot.bound = true) → ∀ a, Known r.template a →
      ∃ r', r.only a = .ok r' ∧ r.excluding (r.others a) = .ok r')
    ∧ ∀ step : Step,
      (∃ r', step.apply r = .ok r') ↔ Known r.template step.names := by
  have hnames := h.named
  have hexcluding : ∀ a, Known r.template a →
      ∃ r', r.excluding a = .ok r' :=
    fun a ha => (Step.exists_apply_iff r (.excluding a)).mpr ha
  refine ⟨?_, ?_, ?_, hnames.only_columns, ?_, Step.exists_apply_iff r⟩
  · -- in either order, and at once
    intro a b ha hb
    obtain ⟨r', hr'⟩ := hexcluding (a ++ b) (ha.append hb)
    refine ⟨r', hr', ?_, ?_⟩
    · rw [hnames.excluding_excluding ha hb, hr']
    · rw [hnames.excluding_excluding hb ha,
        hnames.excluding_append_comm hb ha, hr']
  · -- twice is once
    intro a ha
    obtain ⟨r', hr'⟩ := hexcluding a ha
    have htwice := hnames.excluding_excluding ha ha
    rw [hnames.excluding_append_self ha, hr'] at htwice
    exact ⟨r', hr', htwice⟩
  · -- whatever the steps, they only change what is bound
    intro steps r' hr'
    obtain ⟨P, rfl⟩ := hnames.replay_eq hr'
    exact ⟨template_bindWhere, fun c => only_bindWhere⟩
  · -- without holes, what is not excluded is what is chosen
    intro hbound a ha
    obtain ⟨r', hr'⟩ := (Step.exists_apply_iff r (.only a)).mpr ha
    have hr' : r.only a = .ok r' := hr'
    exact ⟨r', hr', hnames.only_eq_excluding hbound ha ▸ hr'⟩

/-- The columns of a reading, one of them a hole: names in any case and named
twice, a hole made again, and a column chosen that was a hole. -/
theorem holes_by_name_reading :
    ∃ r r₁ r₂ : Reflector, Derived reading.shape r
      ∧ r.names = ["id", "", "y", "note"]
      ∧ (r.excluding ["Y", "X", "y"] >>= (·.excluding ["id"])) = .ok r₁
      ∧ (r.excluding ["id"] >>= (·.excluding ["Y", "X", "y"])) = .ok r₁
      ∧ r₁.names = ["", "", "", "note"]
      ∧ r.replay [.excluding ["NOTE"], .only ["x", "Id"]] = .ok r₂
      ∧ r₂.names = ["id", "x", "", ""]
      ∧ r₂.only ["note"] = r.only ["note"]
      ∧ ¬ ∃ r', r.only ["z"] = .ok r' := by
  let slots (id x y note : Bool) : List ReflectorSlot :=
    [⟨"id", ⟨.int32, false⟩, id⟩, ⟨"x", ⟨.float64, false⟩, x⟩,
     ⟨"y", ⟨.float64, false⟩, y⟩, ⟨"note", ⟨.text, true⟩, note⟩]
  let view (id x y note : Bool) : Reflector :=
    ⟨reading.shape, slots id x y note⟩
  have hbase : ofNames reading.shape ["id", "x", "y", "note"]
      = .ok (view true true true true) := by rfl
  have hx : (view true true true true).excluding ["X"]
      = .ok (view true false true true) := by rfl
  have hr : Derived reading.shape (view true false true true) :=
    .excluding (.ofNames hbase) hx
  obtain ⟨hboth, -, hreplay, -, -, hsteps⟩ := hr.holes_by_name
  obtain ⟨r₁, hr₁, hfirst, hsecond⟩ := hboth ["Y", "X", "y"] ["id"]
    (by decide +kernel) (by decide +kernel)
  have hr₂ : (view true false true true).replay
      [.excluding ["NOTE"], .only ["x", "Id"]]
        = .ok (view true true false false) := by rfl
  have hknown : ¬ Known ["id", "x", "y", "note"] ["z"] := by decide +kernel
  have hview : (view true false true true).excluding
      (["Y", "X", "y"] ++ ["id"]) = .ok (view false false false true) := by rfl
  cases hr₁.symm.trans hview
  exact ⟨_, _, _, hr, rfl, hfirst, hsecond, rfl, hr₂, rfl,
    (hreplay _ _ hr₂).2 _, fun hz => hknown ((hsteps (.only ["z"])).mp hz)⟩

end Reflector

end DataAccess
