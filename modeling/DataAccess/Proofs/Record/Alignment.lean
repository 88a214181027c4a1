/-
Reflectors and the targets they line up with. A reflector names the leaves of
its base once, and what is derived from it only binds some of them and makes
holes of the others (`Derived.named`). So at any time it tells by its names
alone which leaves are bound (`boundLeaves`), and a mapper for a target is a
comparison of two lists: the leaves that are bound, and the leaves of the
target. Where they are the same there is a mapper, with the columns of the
reflector; where they are not, the fault is that of the first place at which
they part (`Parts`), told with the positions of both sides.
-/
import DataAccess.Proofs.Record.Mapping

namespace DataAccess

namespace Reflector

-- ============================================================== derivation

/-- A reflector that comes from naming the leaves of a shape, by any number of
steps that make holes or choose what is bound. -/
inductive Derived (base : Shape) : Reflector → Prop where
  | ofNames {names : List String} {r : Reflector}
    (h : Reflector.ofNames base names = .ok r) : Derived base r
  | excluding {names : List String} {r r' : Reflector} (hr : Derived base r)
    (h : r.excluding names = .ok r') : Derived base r'
  | only {names : List String} {r r' : Reflector} (hr : Derived base r)
    (h : r.only names = .ok r') : Derived base r'

/-- Every leaf of the base has a name, and no two have the same. -/
structure Names (base : Shape) (r : Reflector) : Prop where
  leaves : r.slots.map (·.leaf) = base.leaves
  nonempty : ∀ slot ∈ r.slots, slot.column ≠ ""
  distinct : (r.template.map Text.fold).Nodup

/-- No name repeats an earlier one. -/
theorem nodup_of_repeated? {seen : List String} {position : Nat}
    {names : List String} (h : repeated? seen position names = none) :
    (names.map Text.fold).Nodup
      ∧ ∀ name ∈ names, Text.fold name ∉ seen := by
  induction names generalizing seen position with
  | nil => exact ⟨List.nodup_nil, fun _ hmem => nomatch hmem⟩
  | cons name names ih =>
      unfold repeated? at h
      by_cases hseen : seen.contains (Text.fold name) = true
      · rw [if_pos hseen] at h
        cases h
      · rw [if_neg hseen] at h
        obtain ⟨hnodup, hfresh⟩ := ih h
        have hnot : Text.fold name ∉ seen := fun hmem =>
          hseen (List.contains_iff_mem.mpr hmem)
        refine ⟨List.nodup_cons.mpr ⟨fun hmem => ?_, hnodup⟩, fun n hn => ?_⟩
        · obtain ⟨n, hn, hsame⟩ := List.mem_map.mp hmem
          exact hfresh n hn (hsame ▸ List.mem_cons_self ..)
        · rcases List.mem_cons.mp hn with rfl | hn
          · exact hnot
          · exact fun hmem => hfresh n hn (List.mem_cons_of_mem _ hmem)

/-- Names that are given are the names of the reflector. -/
theorem names_ofNames {base : Shape} {names : List String} {r : Reflector}
    (h : ofNames base names = .ok r) : r.Names base := by
  unfold ofNames at h
  dsimp only at h
  generalize hgiven : names.filter (fun name => !name.isEmpty) = given at h
  split at h
  · cases h
  · cases h
  · rename_i hleaf hname
    have hlength : given.length = base.leaves.length :=
      Nat.le_antisymm (List.getElem?_eq_none_iff.mp hname)
        (List.getElem?_eq_none_iff.mp hleaf)
    split at h
    · cases h
    · rename_i hrepeated
      cases h
      refine ⟨?_, fun slot hslot => ?_, ?_⟩
      · rw [List.map_map]
        exact List.map_snd_zip (Nat.le_of_eq hlength.symm)
      · obtain ⟨⟨column, leaf⟩, hmem, rfl⟩ := List.mem_map.mp hslot
        have hcolumn := (List.of_mem_zip hmem).1
        rw [← hgiven, List.mem_filter] at hcolumn
        intro (hempty : column = "")
        subst hempty
        exact absurd hcolumn.2 (by decide)
      · have hcolumns : ((given.zip base.leaves).map fun p =>
            (⟨p.1, p.2, true⟩ : ReflectorSlot)).map (·.column) = given := by
          rw [List.map_map]
          exact List.map_fst_zip (Nat.le_of_eq hlength)
        show ((((given.zip base.leaves).map _).map _).map Text.fold).Nodup
        rw [hcolumns]
        exact (nodup_of_repeated? hrepeated).1

/-- What is bound has nothing to do with how the leaves are named. -/
theorem Names.rebind {base : Shape} {r : Reflector} (h : r.Names base)
    (rule : Nat → Bool → Bool) : (r.rebind rule).Names base := by
  have hleaves : (r.rebind rule).slots.map (·.leaf)
      = r.slots.map (·.leaf) := by
    refine List.ext_getElem? fun i => ?_
    simp [Reflector.rebind, Function.comp_def]
  have hcolumns : (r.rebind rule).template = r.template := by
    refine List.ext_getElem? fun i => ?_
    simp [Reflector.rebind, template, Function.comp_def]
  refine ⟨hleaves.trans h.leaves, fun slot hslot => ?_, hcolumns ▸ h.distinct⟩
  obtain ⟨i, hi, rfl⟩ := List.mem_mapIdx.mp hslot
  exact h.nonempty r.slots[i] (List.getElem_mem hi)

/-- The names are those of the first reflector, however often another one is
derived. -/
theorem Derived.named {base : Shape} {r : Reflector} (h : Derived base r) :
    r.Names base := by
  induction h with
  | ofNames h => exact names_ofNames h
  | excluding _ h ih =>
      obtain ⟨positions, -, h⟩ := Except.bind_eq_ok_iff.mp h
      cases h
      exact ih.rebind _
  | only _ h ih =>
      obtain ⟨positions, -, h⟩ := Except.bind_eq_ok_iff.mp h
      cases h
      exact ih.rebind _

-- ============================================================= bound leaves

/-- A leaf of the base that a column is bound to. -/
structure BoundLeaf where
  column : String
  leaf : LeafType
  position : Nat
  deriving DecidableEq

/-- The leaves of the base at which a reflector has a name and not a hole. -/
def boundLeaves (base : Shape) (r : Reflector) : List BoundLeaf :=
  ((r.names.zip base.leaves).zipIdx.filter fun p => p.1.1 ≠ "").map fun p =>
    ⟨p.1.1, p.1.2, p.2⟩

/-- The bound slots, with their positions counted from one on. -/
def boundFrom (position : Nat) (slots : List ReflectorSlot) :
    List BoundLeaf :=
  ((slots.zipIdx position).filter (·.1.bound)).map fun p =>
    ⟨p.1.column, p.1.leaf, p.2⟩

/-- A slot is bound at the next position, or passed over. -/
theorem boundFrom_cons (position : Nat) (slot : ReflectorSlot)
    (slots : List ReflectorSlot) :
    boundFrom position (slot :: slots)
      = if slot.bound then
          ⟨slot.column, slot.leaf, position⟩ :: boundFrom (position + 1) slots
        else boundFrom (position + 1) slots := by
  unfold boundFrom
  rw [List.zipIdx_cons, List.filter_cons]
  cases slot.bound <;> rfl

/-- The columns that are bound, in the order of the slots. -/
theorem columns_boundFrom (position : Nat) (slots : List ReflectorSlot) :
    (boundFrom position slots).map (·.column)
      = (slots.filter (·.bound)).map (·.column) := by
  induction slots generalizing position with
  | nil => rfl
  | cons slot slots ih =>
      rw [boundFrom_cons, List.filter_cons]
      cases slot.bound with
      | false => exact ih _
      | true => exact congrArg (slot.column :: ·) (ih _)

namespace Names

variable {base : Shape} {r : Reflector} (h : r.Names base)

include h

theorem length_names : r.names.length = base.leaves.length := by
  rw [← h.leaves, List.length_map]
  exact List.length_map ..

/-- A slot is a hole exactly if it shows no name. -/
theorem name_ne_empty_iff {slot : ReflectorSlot} (hslot : slot ∈ r.slots) :
    (if slot.bound then slot.column else "") ≠ "" ↔ slot.bound = true := by
  cases hbound : slot.bound with
  | false => simp
  | true => simpa using h.nonempty slot hslot

/-- The names that are not empty are the columns. -/
theorem filter_names : r.names.filter (· ≠ "") = r.columns := by
  unfold names columns
  rw [List.filter_map]
  have hfilter : r.slots.filter ((fun name => decide (name ≠ ""))
        ∘ fun slot => if slot.bound then slot.column else "")
      = r.slots.filter (·.bound) :=
    List.filter_congr fun slot hslot => by
      rw [Bool.eq_iff_iff]
      exact decide_eq_true_iff.trans (h.name_ne_empty_iff hslot)
  rw [hfilter]
  refine List.map_congr_left fun slot hslot => ?_
  rw [if_pos (List.mem_filter.mp hslot).2]

/-- No two columns have one name. -/
theorem nodup_columns : (r.columns.map Text.fold).Nodup := by
  have hsub : r.columns.Sublist r.template :=
    List.filter_sublist.map _
  exact h.distinct.sublist (hsub.map _)

/-- The names tell which slots are bound. -/
theorem boundLeaves_eq : r.boundLeaves base = boundFrom 0 r.slots := by
  have hzip : r.names.zip base.leaves = r.slots.map fun slot =>
      (if slot.bound then slot.column else "", slot.leaf) := by
    rw [← h.leaves]
    exact List.zip_map'
  unfold boundLeaves boundFrom
  rw [hzip, List.zipIdx_map, List.filter_map, List.map_map]
  have hfilter : r.slots.zipIdx.filter
        ((fun p : (String × LeafType) × Nat => decide (p.1.1 ≠ ""))
          ∘ Prod.map (fun slot : ReflectorSlot =>
            (if slot.bound then slot.column else "", slot.leaf)) id)
      = r.slots.zipIdx.filter (·.1.bound) :=
    List.filter_congr fun p hp => by
      rw [Bool.eq_iff_iff]
      exact decide_eq_true_iff.trans
        (h.name_ne_empty_iff (List.fst_mem_of_mem_zipIdx hp))
  rw [hfilter]
  refine List.map_congr_left fun p hp => ?_
  simp [(List.mem_filter.mp hp).2]

end Names

-- ================================================================ comparison

/-- The first place at which bound leaves and wanted leaves part, and the fault
it is told by: `past` leaves were lined up before, of `total` that the target
has. -/
inductive Parts (target : String) (total past : Nat) (bound : List BoundLeaf)
    (wanted : List LeafType) : ReflectFault → Prop where
  /-- Two leaves are of different types. -/
  | mismatch {i : Nat} {b : BoundLeaf} {want : LeafType}
    (before : (bound.take i).map (·.leaf) = wanted.take i)
    (hbound : bound[i]? = some b) (hwanted : wanted[i]? = some want)
    (hne : want ≠ b.leaf) :
    Parts target total past bound wanted
      (.leafMismatch b.column b.position b.leaf target (past + i) want)
  /-- The target has no more leaves. -/
  | spare {i : Nat} {b : BoundLeaf}
    (before : (bound.take i).map (·.leaf) = wanted.take i)
    (hbound : bound[i]? = some b) (hwanted : wanted[i]? = none) :
    Parts target total past bound wanted
      (.stillBound target total b.column b.position)
  /-- No more leaves are bound. -/
  | short {i : Nat} {want : LeafType}
    (before : (bound.take i).map (·.leaf) = wanted.take i)
    (hbound : bound[i]? = none) (hwanted : wanted[i]? = some want) :
    Parts target total past bound wanted
      (.positionUnbound target (past + i) want (past + i) total)

/-- One more leaf that is bound and wanted. -/
theorem Parts.cons {target : String} {total past : Nat}
    {bound : List BoundLeaf} {wanted : List LeafType} {fault : ReflectFault}
    (h : Parts target total (past + 1) bound wanted fault) (b : BoundLeaf) :
    Parts target total past (b :: bound) (b.leaf :: wanted) fault := by
  cases h with
  | @mismatch i _ _ before hbound hwanted hne =>
      rw [show past + 1 + i = past + (i + 1) by omega]
      exact .mismatch (congrArg (b.leaf :: ·) before) hbound hwanted hne
  | @spare i _ before hbound hwanted =>
      exact .spare (i := i + 1) (congrArg (b.leaf :: ·) before) hbound hwanted
  | @short i _ before hbound hwanted =>
      rw [show past + 1 + i = past + (i + 1) by omega]
      exact .short (congrArg (b.leaf :: ·) before) hbound hwanted

/-- Lining up compares the leaves that are bound with those that are wanted:
it takes one step for each of them, or it fails where they part. -/
theorem align_cases (target : String) (total position past : Nat)
    (slots : List ReflectorSlot) (wanted : List LeafType) :
    ((boundFrom position slots).map (·.leaf) = wanted
      ∧ align target total position past slots wanted
        = .ok ((boundFrom position slots).map fun b => ⟨b.column, b.leaf⟩))
    ∨ ∃ fault, Parts target total past (boundFrom position slots) wanted fault
      ∧ align target total position past slots wanted = .error fault := by
  induction slots generalizing position past wanted with
  | nil =>
      cases wanted with
      | nil => exact Or.inl ⟨rfl, rfl⟩
      | cons want wanted =>
          exact Or.inr ⟨_, .short (i := 0) rfl rfl rfl, rfl⟩
  | cons slot slots ih =>
      unfold align
      rw [boundFrom_cons]
      by_cases hbound : slot.bound = true
      · rw [if_pos hbound, if_pos hbound]
        cases wanted with
        | nil => exact Or.inr ⟨_, .spare (i := 0) rfl rfl rfl, rfl⟩
        | cons want wanted =>
            by_cases hwant : want = slot.leaf
            · subst hwant
              dsimp only
              rw [if_pos rfl]
              rcases ih (position + 1) (past + 1) wanted with
                ⟨hsame, hok⟩ | ⟨fault, hparts, herror⟩
              · rw [hok]
                exact Or.inl ⟨congrArg (slot.leaf :: ·) hsame, rfl⟩
              · rw [herror]
                exact Or.inr ⟨fault, hparts.cons ⟨_, slot.leaf, position⟩, rfl⟩
            · dsimp only
              rw [if_neg hwant]
              exact Or.inr ⟨_, .mismatch (i := 0) rfl rfl rfl hwant, rfl⟩
      · rw [if_neg hbound, if_neg hbound]
        exact ih (position + 1) past wanted

/-- Lists that part are not the same. -/
theorem Parts.ne {target : String} {total past : Nat}
    {bound : List BoundLeaf} {wanted : List LeafType} {fault : ReflectFault}
    (h : Parts target total past bound wanted fault) :
    bound.map (·.leaf) ≠ wanted := by
  rintro rfl
  cases h with
  | mismatch _ hbound hwanted hne =>
      rw [List.getElem?_map, hbound] at hwanted
      exact hne (Option.some.inj hwanted).symm
  | spare _ hbound hwanted =>
      rw [List.getElem?_map, hbound] at hwanted
      cases hwanted
  | short _ hbound hwanted =>
      rw [List.getElem?_map, hbound] at hwanted
      cases hwanted

-- ================================================================== mappers

/-- A derived reflector shows one name for each leaf of its base, holes apart
the names of its columns, which are all different. It has a mapper for exactly
the targets whose leaves are those that are bound, null by null; the mapper has
the columns of the reflector, one for each leaf of the target. Of another
target it tells where the leaves first part. -/
theorem Derived.aligned {base : Shape} {r : Reflector} (h : Derived base r)
    {α : Type} (target : Component α) :
    r.names.length = base.leaves.length
    ∧ r.names.filter (· ≠ "") = r.columns
    ∧ (r.columns.map Text.fold).Nodup
    ∧ ((∃ m, r.mapper target = .ok m)
      ↔ (r.boundLeaves base).map (·.leaf) = target.shape.leaves)
    ∧ (∀ m, r.mapper target = .ok m →
      m.columns = r.columns ∧ m.width = target.shape.leafCount)
    ∧ ∀ e, r.mapper target = .error e →
      ∃ fault, e = .mapping (.reflect fault)
        ∧ Parts target.shape.name target.shape.leafCount 0
          (r.boundLeaves base) target.shape.leaves fault := by
  have hnames := h.named
  refine ⟨hnames.length_names, hnames.filter_names, hnames.nodup_columns, ?_⟩
  rw [hnames.boundLeaves_eq]
  unfold mapper Shape.leafCount
  dsimp only
  rcases align_cases target.shape.name target.shape.leaves.length 0 0 r.slots
      target.shape.leaves with ⟨hsame, hok⟩ | ⟨fault, hparts, herror⟩
  · -- the leaves agree: each bound slot is a step of the mapper
    rw [hok]
    refine ⟨⟨fun _ => hsame, fun _ => ⟨_, rfl⟩⟩, fun m hm => ?_,
      fun e he => (nomatch he)⟩
    cases hm
    constructor
    · refine Eq.trans ?_ (columns_boundFrom 0 r.slots)
      exact List.map_map ..
    · rw [← hsame, List.length_map]
      exact List.length_map ..
  · -- they part somewhere: no mapper, and the fault says where
    rw [herror]
    refine ⟨⟨fun ⟨m, hm⟩ => (nomatch hm),
      fun hsame => absurd hsame hparts.ne⟩, fun m hm => (nomatch hm),
      fun e he => ?_⟩
    cases he
    exact ⟨fault, rfl, hparts⟩

/-- A reading: its number, where it was taken, and a note. -/
def reading : RecordType :=
  .record "Reading"
    [.scalar .int32 false,
     .record "Point" [.scalar .float64 false, .scalar .float64 false],
     .scalar .text true]

/-- A pair of a number and a coordinate that may be absent. -/
def loosePair : RecordType :=
  .record "tuple" [.scalar .int32 false, .scalar .float64 true]

/-- A reading without one of its coordinates: a name is found in any case, and
the coordinate that is left is the second leaf that is bound. -/
theorem aligned_reading :
    ∃ r : Reflector, Derived reading.shape r
      ∧ r.names = ["id", "", "y", "note"]
      ∧ (∃ m, r.mapper (RecordType.component (.record "tuple"
            [.scalar .int32 false, .scalar .float64 false,
             .scalar (.symbol ⟨"Unit", ["m"], "m"⟩) true])) = .ok m
          ∧ m.columns = ["id", "y", "note"])
      ∧ ∃ fault, r.mapper loosePair.component
            = .error (.mapping (.reflect fault))
        ∧ Parts "tuple" 2 0 (r.boundLeaves reading.shape)
            loosePair.shape.leaves fault
        ∧ fault = .leafMismatch "y" 2 ⟨.float64, false⟩ "tuple" 1
            ⟨.float64, true⟩ := by
  let slots (id x : Bool) : List ReflectorSlot :=
    [⟨"id", ⟨.int32, false⟩, id⟩, ⟨"x", ⟨.float64, false⟩, x⟩,
     ⟨"y", ⟨.float64, false⟩, true⟩, ⟨"note", ⟨.text, true⟩, true⟩]
  have hbase : Reflector.ofNames reading.shape ["id", "", "x", "y", "note"]
      = .ok ⟨reading.shape, slots true true⟩ := by rfl
  have hexcluding : (⟨reading.shape, slots true true⟩ : Reflector).excluding
      ["ID"] = .ok ⟨reading.shape, slots false true⟩ := by rfl
  have honly : (⟨reading.shape, slots false true⟩ : Reflector).only
      ["note", "id", "Y"] = .ok ⟨reading.shape, slots true false⟩ := by rfl
  have hderived : Derived reading.shape ⟨reading.shape, slots true false⟩ :=
    .only (.excluding (.ofNames hbase) hexcluding) honly
  obtain ⟨-, -, -, hiff, hmapper, -⟩ := hderived.aligned (RecordType.component
    (.record "tuple" [.scalar .int32 false, .scalar .float64 false,
      .scalar (.symbol ⟨"Unit", ["m"], "m"⟩) true]))
  obtain ⟨m, hm⟩ := hiff.mpr rfl
  obtain ⟨-, -, -, -, -, hparts⟩ := hderived.aligned loosePair.component
  obtain ⟨fault, hfault, hparts⟩ := hparts _ rfl
  cases hfault
  exact ⟨_, hderived, rfl, ⟨m, hm, (hmapper m hm).1.trans rfl⟩,
    _, rfl, hparts, rfl⟩

end Reflector

end DataAccess
