/-
What a name finds in a result, whatever its columns are. A column answers to
its own name, and to its name with its table; case does not count. An index is
built column by column, but what it finds is told by the columns that answer
to the name alone: the only one of them, or for a name with a table the first
one (`lookup_ofColumns`). So neither the order of the other columns nor their
number matters, only whether one of them answers, too.
-/
import DataAccess.Proofs.Row.Lookup
import Mathlib.Data.List.Induction

namespace DataAccess

-- ================================================================= answering

/-- Whether a column answers to a name. -/
def ColumnMeta.answers (name : String) (c : ColumnMeta) : Bool :=
  if '/' ∈ name.toList then c.qualifiedKey? = some (Text.fold name)
  else c.key = Text.fold name

/-- The columns of some kind with their positions, in order. -/
def columnsWhere (P : ColumnMeta → Bool) (columns : List ColumnMeta) :
    List (ColumnMeta × Nat) :=
  columns.zipIdx.filter fun (c, _) => P c

/-- What is found of the columns that answer to a bare name. -/
def Lookup.ofBare : List (ColumnMeta × Nat) → Lookup
  | [] => .missing
  | [(_, index)] => .found index
  | answering => .ambiguous (answering.map fun (c, _) => c.source)

/-- What is found of the columns that answer to a qualified name. -/
def Lookup.ofQualified : List (ColumnMeta × Nat) → Lookup
  | [] => .missing
  | (_, index) :: _ => .found index

namespace Lookup

variable {answering : List (ColumnMeta × Nat)} {index : Nat}

/-- A bare name finds a column where one answers to it. -/
theorem ofBare_eq_found_iff :
    ofBare answering = .found index ↔ ∃ c, answering = [(c, index)] := by
  match answering with
  | [] => simp [ofBare]
  | [(c, i)] => simp [ofBare]
  | _ :: _ :: _ => simp [ofBare]

/-- It is missing where none does. -/
theorem ofBare_eq_missing_iff :
    ofBare answering = .missing ↔ answering = [] := by
  match answering with
  | [] => simp [ofBare]
  | [(c, i)] => simp [ofBare]
  | _ :: _ :: _ => simp [ofBare]

/-- A qualified name finds the first that answers to it. -/
theorem ofQualified_eq_found_iff :
    ofQualified answering = .found index
      ↔ ∃ c, answering.head? = some (c, index) := by
  cases answering <;> simp [ofQualified, Prod.ext_iff]

theorem ofQualified_eq_missing_iff :
    ofQualified answering = .missing ↔ answering = [] := by
  cases answering <;> simp [ofQualified]

/-- A qualified name is never ambiguous. -/
theorem ofQualified_ne_ambiguous (sources : List String) :
    ofQualified answering ≠ .ambiguous sources := by
  cases answering <;> simp [ofQualified]

end Lookup

/-- A column that is added stands last, if it is one of those asked for. -/
theorem columnsWhere_concat (P : ColumnMeta → Bool)
    (columns : List ColumnMeta) (c : ColumnMeta) :
    columnsWhere P (columns ++ [c])
      = columnsWhere P columns
        ++ if P c then [(c, columns.length)] else [] := by
  unfold columnsWhere
  rw [List.zipIdx_append, List.filter_append]
  cases h : P c <;> simp [h]

namespace ColumnResolver

variable {columns all : List ColumnMeta} {r : ColumnResolver} {index : Nat}
  {key name : String}

-- ================================================================= the index

/-- All columns of a row are known from the beginning. -/
theorem columns_addColumns :
    (addColumns index columns r).columns = r.columns := by
  induction columns generalizing index r with
  | nil => rfl
  | cons c columns ih => exact ih

/-- A resolver is as wide as it has columns. -/
theorem width_ofColumns (columns : List ColumnMeta) :
    (ofColumns columns).width = columns.length :=
  congrArg List.length columns_addColumns

/-- The index of some first columns of a result. -/
def ofFirst (all columns : List ColumnMeta) : ColumnResolver :=
  addColumns 0 columns { columns := all, bare := [], qualified := [] }

/-- Resolving the first columns, one column more is added. -/
theorem ofFirst_concat (all columns : List ColumnMeta) (c : ColumnMeta) :
    ofFirst all (columns ++ [c])
      = (ofFirst all columns).addColumn columns.length c := by
  unfold ofFirst
  rw [addColumns_append, Nat.zero_add]
  rfl

/-- What stands under a bare name is told by the columns of that name. -/
def slot? : List (ColumnMeta × Nat) → Option NameSlot
  | [] => none
  | [(_, index)] => some (.unique index)
  | answering => some (.ambiguous (answering.map fun (c, _) => c.source))

/-- One more column of the name. -/
theorem slot?_concat {answering : List (ColumnMeta × Nat)}
    (h : ∀ p ∈ answering, all[p.2]? = some p.1) (c : ColumnMeta) :
    slot? (answering ++ [(c, index)])
      = some ((slot? answering).elim (.unique index)
        (NameSlot.add all c.source)) := by
  match answering with
  | [] => rfl
  | [(first, i)] =>
      have hfirst : all[i]? = some first := h _ List.mem_cons_self
      simp [slot?, NameSlot.add, hfirst]
  | first :: second :: rest => simp [slot?, NameSlot.add]

/-- Under a bare name stand the columns that have it for a key. -/
theorem lookup_bare_ofFirst (hstart : columns <+: all) :
    (ofFirst all columns).bare.lookup key
      = slot? (columnsWhere (·.key = key) columns) := by
  induction columns using List.reverseRecOn with
  | nil => rfl
  | append_singleton columns c ih =>
      have hbefore := (List.prefix_append columns [c]).trans hstart
      rw [ofFirst_concat, lookup_bare_addColumn, ih hbefore,
        columnsWhere_concat]
      by_cases hkey : c.key = key
      · have hat : ∀ p ∈ columnsWhere (·.key = key) columns,
            all[p.2]? = some p.1 := by
          intro p hp
          have hmem := List.mk_mem_zipIdx_iff_getElem?.mp
            (List.mem_filter.mp hp).1
          obtain ⟨more, rfl⟩ := hbefore
          rw [List.getElem?_append_left (List.getElem?_eq_some_iff.mp hmem).1]
          exact hmem
        have hcolumns : (ofFirst all columns).columns = all :=
          columns_addColumns
        rw [if_pos hkey.symm, if_pos (by simpa using hkey), slot?_concat hat,
          hcolumns]
      · rw [if_neg (Ne.symm hkey), if_neg (by simpa using hkey),
          List.append_nil]

/-- What stands under a qualified name is the first column of that name. -/
theorem lookup_qualified_ofFirst :
    (ofFirst all columns).qualified.lookup key
      = (columnsWhere (·.qualifiedKey? = some key) columns).head?.map
        Prod.snd := by
  induction columns using List.reverseRecOn with
  | nil => rfl
  | append_singleton columns c ih =>
      rw [ofFirst_concat, lookup_qualified_addColumn, ih, columnsWhere_concat,
        List.head?_append]
      by_cases hkey : c.qualifiedKey? = some key
      · rw [if_pos hkey, if_pos (by simpa using hkey)]
        cases (columnsWhere (·.qualifiedKey? = some key) columns).head? <;> rfl
      · rw [if_neg hkey, if_neg (by simpa using hkey), List.head?_nil,
          Option.or_none]

-- ================================================================= look-ups

/-- A bare name finds the only column that answers to it, a qualified name the
first one. -/
theorem lookup_ofColumns (columns : List ColumnMeta) (name : String) :
    (ofColumns columns).lookup name
      = if '/' ∈ name.toList then
          .ofQualified (columnsWhere (·.answers name) columns)
        else .ofBare (columnsWhere (·.answers name) columns) := by
  have hcontains : (Text.fold name).toList.contains '/' = true
      ↔ '/' ∈ name.toList :=
    List.contains_iff_mem.trans Text.slash_mem_fold
  unfold lookup ColumnMeta.answers
  dsimp only
  by_cases hslash : '/' ∈ name.toList
  · have hfound : (ofFirst columns columns).qualified.lookup (Text.fold name)
        = _ := lookup_qualified_ofFirst
    simp only [if_pos hslash]
    rw [if_pos (hcontains.mpr hslash)]
    change (ofColumns columns).qualified.lookup _ = _ at hfound
    rw [hfound]
    cases columnsWhere (·.qualifiedKey? = some (Text.fold name)) columns <;>
      rfl
  · have hfound : (ofFirst columns columns).bare.lookup (Text.fold name) = _ :=
      lookup_bare_ofFirst (List.prefix_refl columns)
    simp only [if_neg hslash]
    rw [if_neg fun h => hslash (hcontains.mp h)]
    change (ofColumns columns).bare.lookup _ = _ at hfound
    rw [hfound]
    match columnsWhere (·.key = Text.fold name) columns with
    | [] => rfl
    | [_] => rfl
    | _ :: _ :: _ => rfl

end ColumnResolver

-- ============================================================== what is found

/-- A name finds the column at a position: a bare name the only one that
answers to it, a name with a table the first one. -/
inductive Finds (columns : List ColumnMeta) (name : String) (index : Nat) :
    Prop where
  | only {c : ColumnMeta} (hbare : '/' ∉ name.toList)
    (hc : columns[index]? = some c) (hanswers : c.answers name = true)
    (honly : ∀ j c', columns[j]? = some c' → c'.answers name = true →
      j = index)
  | first {c : ColumnMeta} (hqualified : '/' ∈ name.toList)
    (hc : columns[index]? = some c) (hanswers : c.answers name = true)
    (hfirst : ∀ j c', columns[j]? = some c' → c'.answers name = true →
      index ≤ j)

section

variable {P : ColumnMeta → Bool} {columns : List ColumnMeta} {c : ColumnMeta}
  {index : Nat} {name : String}

/-- Columns are found at their places. -/
theorem mem_columnsWhere :
    (c, index) ∈ columnsWhere P columns
      ↔ columns[index]? = some c ∧ P c = true := by
  unfold columnsWhere
  rw [List.mem_filter, List.mk_mem_zipIdx_iff_getElem?]

/-- The columns are in order. -/
theorem pairwise_columnsWhere (P : ColumnMeta → Bool)
    (columns : List ColumnMeta) :
    (columnsWhere P columns).Pairwise fun p q => p.2 < q.2 := by
  have hall : (columns.zipIdx.map Prod.snd).Pairwise (· < ·) := by
    rw [List.zipIdx_map_snd]
    exact List.pairwise_lt_range'
  exact (List.pairwise_map.mp hall).filter _

theorem columnsWhere_eq_nil_iff :
    columnsWhere P columns = [] ↔ ∀ c ∈ columns, P c = false := by
  rw [List.eq_nil_iff_forall_not_mem]
  constructor
  · intro h c hc
    obtain ⟨index, hindex⟩ := List.getElem?_of_mem hc
    refine Bool.eq_false_iff.mpr fun hP => ?_
    exact h (c, index) (mem_columnsWhere.mpr ⟨hindex, hP⟩)
  · rintro h ⟨c, index⟩ hmem
    obtain ⟨hc, hP⟩ := mem_columnsWhere.mp hmem
    rw [h c (List.mem_of_getElem? hc)] at hP
    cases hP

/-- One column answers if it does and no other. -/
theorem columnsWhere_eq_singleton_iff :
    columnsWhere P columns = [(c, index)]
      ↔ columns[index]? = some c ∧ P c = true
        ∧ ∀ j c', columns[j]? = some c' → P c' = true → j = index := by
  constructor
  · intro h
    have hmem : (c, index) ∈ columnsWhere P columns := by
      rw [h]
      exact List.mem_singleton_self _
    obtain ⟨hc, hP⟩ := mem_columnsWhere.mp hmem
    refine ⟨hc, hP, fun j c' hc' hP' => ?_⟩
    have hmem' := mem_columnsWhere.mpr ⟨hc', hP'⟩
    rw [h, List.mem_singleton] at hmem'
    exact congrArg Prod.snd hmem'
  · rintro ⟨hc, hP, honly⟩
    have hmem := mem_columnsWhere.mpr ⟨hc, hP⟩
    have hindex : ∀ p ∈ columnsWhere P columns, p.2 = index := by
      rintro ⟨c', j⟩ hp
      obtain ⟨hc', hP'⟩ := mem_columnsWhere.mp hp
      exact honly j c' hc' hP'
    have hordered := pairwise_columnsWhere P columns
    match h : columnsWhere P columns with
    | [] =>
        rw [h] at hmem
        cases hmem
    | [p] =>
        rw [h, List.mem_singleton] at hmem
        rw [hmem]
    | p :: q :: rest =>
        -- two columns of a kind stand at two positions
        rw [h] at hindex hordered
        have hlt := List.rel_of_pairwise_cons hordered List.mem_cons_self
        rw [hindex p List.mem_cons_self,
          hindex q (List.mem_cons_of_mem _ List.mem_cons_self)] at hlt
        exact absurd hlt (Nat.lt_irrefl index)

/-- The first that answers is the one with no other before it. -/
theorem head?_columnsWhere_iff :
    (columnsWhere P columns).head? = some (c, index)
      ↔ columns[index]? = some c ∧ P c = true
        ∧ ∀ j c', columns[j]? = some c' → P c' = true → index ≤ j := by
  have hordered := pairwise_columnsWhere P columns
  constructor
  · intro h
    obtain ⟨more, hmore⟩ := List.head?_eq_some_iff.mp h
    obtain ⟨hc, hP⟩ := mem_columnsWhere.mp (List.mem_of_mem_head? h)
    refine ⟨hc, hP, fun j c' hc' hP' => ?_⟩
    have hmem' := mem_columnsWhere.mpr ⟨hc', hP'⟩
    rw [hmore] at hmem' hordered
    rcases List.mem_cons.mp hmem' with hsame | hlater
    · exact Nat.le_of_eq (congrArg Prod.snd hsame).symm
    · exact Nat.le_of_lt (List.rel_of_pairwise_cons hordered hlater)
  · rintro ⟨hc, hP, hfirst⟩
    have hmem := mem_columnsWhere.mpr ⟨hc, hP⟩
    match h : columnsWhere P columns with
    | [] =>
        rw [h] at hmem
        cases hmem
    | (c', j) :: more =>
        have hhead : (c', j) ∈ columnsWhere P columns := by
          rw [h]
          exact List.mem_cons_self
        obtain ⟨hc', hP'⟩ := mem_columnsWhere.mp hhead
        have hle := hfirst j c' hc' hP'
        rw [h] at hmem hordered
        rcases List.mem_cons.mp hmem with hsame | hlater
        · rw [hsame]
          rfl
        · have hlt := List.rel_of_pairwise_cons hordered hlater
          exact absurd hlt (Nat.not_lt.mpr hle)

end

-- ================================================================== outcomes

namespace ColumnResolver

variable {columns : List ColumnMeta} {name : String} {index : Nat}

/-- A name is found where the columns say so. -/
theorem lookup_eq_found_iff :
    (ofColumns columns).lookup name = .found index
      ↔ Finds columns name index := by
  rw [lookup_ofColumns]
  by_cases hslash : '/' ∈ name.toList
  · rw [if_pos hslash, Lookup.ofQualified_eq_found_iff]
    constructor
    · rintro ⟨c, hc⟩
      obtain ⟨hc, hanswers, hfirst⟩ := head?_columnsWhere_iff.mp hc
      exact .first hslash hc hanswers hfirst
    · intro h
      cases h with
      | only hbare _ _ _ => exact absurd hslash hbare
      | first _ hc hanswers hfirst =>
          exact ⟨_, head?_columnsWhere_iff.mpr ⟨hc, hanswers, hfirst⟩⟩
  · rw [if_neg hslash, Lookup.ofBare_eq_found_iff]
    constructor
    · rintro ⟨c, hc⟩
      obtain ⟨hc, hanswers, honly⟩ := columnsWhere_eq_singleton_iff.mp hc
      exact .only hslash hc hanswers honly
    · intro h
      cases h with
      | only _ hc hanswers honly =>
          exact ⟨_, columnsWhere_eq_singleton_iff.mpr ⟨hc, hanswers, honly⟩⟩
      | first hqualified _ _ _ => exact absurd hqualified hslash

/-- A name is missing where no column answers to it. -/
theorem lookup_eq_missing_iff :
    (ofColumns columns).lookup name = .missing
      ↔ ∀ c ∈ columns, c.answers name = false := by
  rw [lookup_ofColumns, ← columnsWhere_eq_nil_iff]
  split
  · exact Lookup.ofQualified_eq_missing_iff
  · exact Lookup.ofBare_eq_missing_iff

/-- A name is ambiguous if it is bare and not the name of one column alone,
though some column has it. -/
theorem lookup_eq_ambiguous_iff :
    (∃ sources, (ofColumns columns).lookup name = .ambiguous sources)
      ↔ '/' ∉ name.toList ∧ ∃ (i j : Nat) (c c' : ColumnMeta), i ≠ j
        ∧ columns[i]? = some c ∧ columns[j]? = some c'
        ∧ c.answers name = true ∧ c'.answers name = true := by
  constructor
  · -- only a bare name that two columns answer to gives more than one source
    rintro ⟨sources, h⟩
    rw [lookup_ofColumns] at h
    by_cases hslash : '/' ∈ name.toList
    · rw [if_pos hslash] at h
      exact absurd h (Lookup.ofQualified_ne_ambiguous sources)
    · rw [if_neg hslash] at h
      have hordered := pairwise_columnsWhere (·.answers name) columns
      have hmem : ∀ p ∈ columnsWhere (·.answers name) columns,
          columns[p.2]? = some p.1 ∧ p.1.answers name = true :=
        fun _ hp => mem_columnsWhere.mp hp
      match hwhere : columnsWhere (·.answers name) columns with
      | [] =>
          rw [hwhere] at h
          cases h
      | [_] =>
          rw [hwhere] at h
          cases h
      | p :: q :: rest =>
          rw [hwhere] at hordered hmem
          have hlt := List.rel_of_pairwise_cons hordered List.mem_cons_self
          obtain ⟨hp, hanswers⟩ := hmem p List.mem_cons_self
          obtain ⟨hq, hanswers'⟩ :=
            hmem q (List.mem_cons_of_mem _ List.mem_cons_self)
          exact ⟨hslash, p.2, q.2, p.1, q.1, Nat.ne_of_lt hlt, hp, hq,
            hanswers, hanswers'⟩
  · -- two columns answer: the lookup neither misses nor finds the only one
    rintro ⟨hslash, i, j, c, c', hne, hc, hc', hanswers, hanswers'⟩
    cases h : (ofColumns columns).lookup name with
    | ambiguous sources => exact ⟨sources, rfl⟩
    | missing =>
        have hnone := lookup_eq_missing_iff.mp h c (List.mem_of_getElem? hc)
        cases hanswers.symm.trans hnone
    | found index =>
        cases lookup_eq_found_iff.mp h with
        | first hqualified _ _ _ => exact absurd hqualified hslash
        | only _ _ _ honly =>
            exact absurd ((honly i c hc hanswers).trans
              (honly j c' hc' hanswers').symm) hne

end ColumnResolver

/-- What a name finds is a column. -/
theorem Finds.lt {columns : List ColumnMeta} {name : String} {index : Nat}
    (h : Finds columns name index) : index < columns.length := by
  cases h with
  | only _ hc _ _ => exact (List.getElem?_eq_some_iff.mp hc).1
  | first _ hc _ _ => exact (List.getElem?_eq_some_iff.mp hc).1

namespace Row

variable {row : Row} {columns : List ColumnMeta} {name : String} {v : Value}

/-- A row has the values and the names that it is made of. -/
theorem ofValues_eq_ok_iff {values : List Value} {resolver : ColumnResolver} :
    Row.ofValues values resolver = .ok row
      ↔ row.values = values ∧ row.resolver = resolver := by
  unfold Row.ofValues
  split
  · next hwidth =>
    constructor
    · rintro ⟨⟩
      exact ⟨rfl, rfl⟩
    · rintro ⟨rfl, rfl⟩
      rfl
  · next hwidth =>
    refine ⟨nofun, ?_⟩
    rintro ⟨rfl, rfl⟩
    exact absurd row.width_eq hwidth

/-- A row is as wide as its columns. -/
theorem length_values (hcolumns : row.resolver = .ofColumns columns) :
    row.values.length = columns.length := by
  rw [row.width_eq, hcolumns, ColumnResolver.width_ofColumns]

/-- A value is read where its name is found. -/
theorem value_eq_ok_iff_lookup :
    row.value name = .ok v ↔ ∃ index,
      row.resolver.lookup name = .found index ∧ row.valueAt index = v := by
  unfold value ColumnResolver.resolve
  cases row.resolver.lookup name <;> simp [Except.map]

theorem value_eq_missing_iff_lookup :
    row.value name = .error (.column name .missing)
      ↔ row.resolver.lookup name = .missing := by
  unfold value ColumnResolver.resolve
  cases row.resolver.lookup name <;> simp [Except.map]

theorem value_eq_ambiguous_iff_lookup {sources : List String} :
    row.value name = .error (.column name (.ambiguous sources))
      ↔ row.resolver.lookup name = .ambiguous sources := by
  unfold value ColumnResolver.resolve
  cases row.resolver.lookup name <;> simp [Except.map]

/-- What a row has under a name is the value of the column that the name
finds. -/
theorem value_eq_ok_iff (hcolumns : row.resolver = .ofColumns columns) :
    row.value name = .ok v
      ↔ ∃ index, Finds columns name index ∧ row.values[index]? = some v := by
  have hwidth := length_values hcolumns
  have hvalue : ∀ index, Finds columns name index →
      (row.valueAt index = v ↔ row.values[index]? = some v) := by
    intro index hfinds
    have hlt : index < row.values.length := hwidth ▸ hfinds.lt
    unfold valueAt at?
    rw [List.getElem?_eq_getElem hlt, Option.getD_some, Option.some_inj]
  rw [value_eq_ok_iff_lookup, hcolumns]
  constructor
  · rintro ⟨index, hlookup, hv⟩
    have hfinds := ColumnResolver.lookup_eq_found_iff.mp hlookup
    exact ⟨index, hfinds, (hvalue index hfinds).mp hv⟩
  · rintro ⟨index, hfinds, hv⟩
    exact ⟨index, ColumnResolver.lookup_eq_found_iff.mpr hfinds,
      (hvalue index hfinds).mpr hv⟩

/-- A name that no column answers to is missing. -/
theorem value_eq_missing_iff (hcolumns : row.resolver = .ofColumns columns) :
    row.value name = .error (.column name .missing)
      ↔ ∀ c ∈ columns, c.answers name = false := by
  rw [value_eq_missing_iff_lookup, hcolumns,
    ColumnResolver.lookup_eq_missing_iff]

/-- A bare name that two columns answer to is ambiguous. -/
theorem value_eq_ambiguous_iff (hcolumns : row.resolver = .ofColumns columns) :
    (∃ sources, row.value name = .error (.column name (.ambiguous sources)))
      ↔ '/' ∉ name.toList ∧ ∃ (i j : Nat) (c c' : ColumnMeta), i ≠ j
        ∧ columns[i]? = some c ∧ columns[j]? = some c'
        ∧ c.answers name = true ∧ c'.answers name = true := by
  simp only [value_eq_ambiguous_iff_lookup, hcolumns]
  exact ColumnResolver.lookup_eq_ambiguous_iff

end Row

end DataAccess
