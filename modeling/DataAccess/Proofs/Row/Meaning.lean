/-
The meaning of names in a result, told without an index. A column is called by
its name, and if it has a table that is not the empty text, in full by the
table, a slash and the name (`isCalled`, `isCalledInFull`); case does not
count. A name without a slash means the only column of that name, a name with
one the first column that is called so in full; `Means` says what each of
them comes to, and resolving comes to that and nothing else
(`resolve_eq_iff`). Names that several columns share are listed, in order
(`mem_ambiguousNames_iff`, `pairwise_ambiguousNames`).

# Names with slashes in them

The slash alone tells the two kinds of names apart, and nothing keeps it out
of the names of tables and columns. A column with a slash in its own name is
not found by it, and two columns of different tables can be called alike in
full, so that the second is not found at all (`not_reached_slashed`). Where no
column has a slash in its name, a name in full can be taken apart at its last
slash (`qualifiedName_inj_of_plain`), and each column is found by every name
that is its own alone.
-/
import DataAccess.Proofs.Row.Naming
import Mathlib.Data.List.Nodup

namespace DataAccess

-- ===================================================================== names

/-- A name is that of a column. -/
def ColumnMeta.isCalled (name : String) (c : ColumnMeta) : Bool :=
  Text.sameName c.name name

/-- A name is that of a column with its table. -/
def ColumnMeta.isCalledInFull (name : String) (c : ColumnMeta) : Bool :=
  match c.table with
  | none => false
  | some table =>
    !table.isEmpty
      && Text.sameName (ColumnResolver.qualifiedName table c.name) name

/-- What a name comes to in a result. -/
inductive Means (columns : List ColumnMeta) (name : String) :
    Except Error Nat → Prop where
  /-- One column alone has the name. -/
  | only {i : Nat} {c : ColumnMeta} (hbare : '/' ∉ name.toList)
    (hc : columns[i]? = some c) (hcalled : c.isCalled name = true)
    (honly : ∀ j c', columns[j]? = some c' → c'.isCalled name = true →
      j = i) : Means columns name (.ok i)
  /-- No column has it. -/
  | unknown (hbare : '/' ∉ name.toList)
    (hnone : ∀ c ∈ columns, c.isCalled name = false) :
    Means columns name (.error (.column name .missing))
  /-- Two or more have it; they are told by their sources, in order. -/
  | shared (hbare : '/' ∉ name.toList)
    (hshared : 2 ≤ columns.countP (·.isCalled name)) :
    Means columns name (.error (.column name
      (.ambiguous ((columns.filter (·.isCalled name)).map (·.source)))))
  /-- The first column that is called so in full. -/
  | first {i : Nat} {c : ColumnMeta} (hslash : '/' ∈ name.toList)
    (hc : columns[i]? = some c) (hcalled : c.isCalledInFull name = true)
    (hfirst : ∀ j c', columns[j]? = some c' → c'.isCalledInFull name = true →
      i ≤ j) : Means columns name (.ok i)
  /-- No column is called so in full. -/
  | absent (hslash : '/' ∈ name.toList)
    (hnone : ∀ c ∈ columns, c.isCalledInFull name = false) :
    Means columns name (.error (.column name .missing))

section

variable {c : ColumnMeta} {name : String}

/-- To a name without a slash a column answers by its own. -/
theorem ColumnMeta.answers_of_bare (h : '/' ∉ name.toList) :
    c.answers name = c.isCalled name := by
  unfold answers isCalled Text.sameName key
  rw [if_neg h]
  rfl

theorem Text.isEmpty_fold (s : String) : (fold s).isEmpty = s.isEmpty := by
  rw [Bool.eq_iff_iff, String.isEmpty_iff, String.isEmpty_iff,
    ← String.toList_eq_nil_iff, ← String.toList_eq_nil_iff]
  simp

/-- The qualified key of a column is what it is called in full. -/
theorem ColumnMeta.qualifiedKey?_eq_some_iff :
    c.qualifiedKey? = some (Text.fold name)
      ↔ c.isCalledInFull name = true := by
  unfold qualifiedKey? isCalledInFull key
  dsimp only
  rw [Text.isEmpty_fold]
  cases c.table with
  | none => simp
  | some table =>
      rw [Option.getD_some, ← Text.fold_qualifiedName]
      by_cases hempty : table.isEmpty = true
      · simp [hempty]
      · simp [hempty, Text.sameName]

/-- To one with a slash it answers in full. -/
theorem ColumnMeta.answers_of_slash (h : '/' ∈ name.toList) :
    c.answers name = c.isCalledInFull name := by
  unfold answers
  rw [if_pos h, Bool.eq_iff_iff, decide_eq_true_eq]
  exact qualifiedKey?_eq_some_iff

end

-- ================================================================= resolving

theorem map_fst_columnsWhere (P : ColumnMeta → Bool)
    (columns : List ColumnMeta) :
    (columnsWhere P columns).map Prod.fst = columns.filter P := by
  unfold columnsWhere
  conv_rhs => rw [← List.zipIdx_map_fst 0 columns, List.filter_map]
  rfl

/-- Columns are counted as they are listed. -/
theorem countP_eq_length_columnsWhere (P : ColumnMeta → Bool)
    (columns : List ColumnMeta) :
    columns.countP P = (columnsWhere P columns).length := by
  rw [List.countP_eq_length_filter, ← map_fst_columnsWhere, List.length_map]

namespace ColumnResolver

variable {columns : List ColumnMeta} {name : String}
  {outcome : Except Error Nat}

/-- What is found is resolved. -/
theorem resolve_of_found {i : Nat}
    (h : (ofColumns columns).lookup name = .found i) :
    (ofColumns columns).resolve name = .ok i := by
  simp [resolve, h]

/-- What is missing is an error. -/
theorem resolve_of_missing (h : (ofColumns columns).lookup name = .missing) :
    (ofColumns columns).resolve name = .error (.column name .missing) := by
  simp [resolve, h]

/-- What a name comes to is what it is resolved to. -/
theorem resolve_of_means (h : Means columns name outcome) :
    (ofColumns columns).resolve name = outcome := by
  cases h with
  | only hbare hc hcalled honly =>
      rw [← ColumnMeta.answers_of_bare hbare] at hcalled
      simp only [← ColumnMeta.answers_of_bare hbare] at honly
      exact resolve_of_found
        (lookup_eq_found_iff.mpr (.only hbare hc hcalled honly))
  | unknown hbare hnone =>
      simp only [← ColumnMeta.answers_of_bare hbare] at hnone
      exact resolve_of_missing (lookup_eq_missing_iff.mpr hnone)
  | first hslash hc hcalled hfirst =>
      rw [← ColumnMeta.answers_of_slash hslash] at hcalled
      simp only [← ColumnMeta.answers_of_slash hslash] at hfirst
      exact resolve_of_found
        (lookup_eq_found_iff.mpr (.first hslash hc hcalled hfirst))
  | absent hslash hnone =>
      simp only [← ColumnMeta.answers_of_slash hslash] at hnone
      exact resolve_of_missing (lookup_eq_missing_iff.mpr hnone)
  | shared hbare hshared =>
      have hcalled : columnsWhere (·.answers name) columns
          = columnsWhere (·.isCalled name) columns := by
        simp only [ColumnMeta.answers_of_bare hbare]
      have hlookup := lookup_ofColumns columns name
      rw [if_neg hbare, hcalled] at hlookup
      rw [countP_eq_length_columnsWhere] at hshared
      rw [← map_fst_columnsWhere, List.map_map]
      match hwhere : columnsWhere (·.isCalled name) columns with
      | [] => simp [hwhere] at hshared
      | [_] => simp [hwhere] at hshared
      | p :: q :: rest =>
          rw [hwhere] at hlookup
          unfold resolve
          rw [hlookup]
          rfl

/-- Every name comes to something. -/
theorem exists_means (columns : List ColumnMeta) (name : String) :
    ∃ outcome, Means columns name outcome := by
  by_cases hslash : '/' ∈ name.toList
  · cases hfirst : (columnsWhere (·.isCalledInFull name) columns).head? with
    | none =>
        exact ⟨_, .absent hslash
          (columnsWhere_eq_nil_iff.mp (List.head?_eq_none_iff.mp hfirst))⟩
    | some p =>
        obtain ⟨hc, hcalled, hfirst⟩ := head?_columnsWhere_iff.mp hfirst
        exact ⟨_, .first hslash hc hcalled hfirst⟩
  · match hwhere : columnsWhere (·.isCalled name) columns with
    | [] => exact ⟨_, .unknown hslash (columnsWhere_eq_nil_iff.mp hwhere)⟩
    | [p] =>
        obtain ⟨hc, hcalled, honly⟩ := columnsWhere_eq_singleton_iff.mp hwhere
        exact ⟨_, .only hslash hc hcalled honly⟩
    | p :: q :: rest =>
        refine ⟨_, .shared hslash ?_⟩
        rw [countP_eq_length_columnsWhere, hwhere]
        simp

/-- A name is resolved to what it comes to, and to nothing else. -/
theorem resolve_eq_iff :
    (ofColumns columns).resolve name = outcome
      ↔ Means columns name outcome := by
  constructor
  · intro h
    obtain ⟨outcome', h'⟩ := exists_means columns name
    rwa [← h, resolve_of_means h']
  · exact resolve_of_means

/-- Finding is resolving without the error. -/
theorem find?_eq_some_iff {i : Nat} :
    (ofColumns columns).find? name = some i
      ↔ (ofColumns columns).resolve name = .ok i := by
  unfold find? resolve
  cases (ofColumns columns).lookup name <;> simp

/-- What a name is resolved to is the position of a column. -/
theorem lt_of_resolve {i : Nat}
    (h : (ofColumns columns).resolve name = .ok i) : i < columns.length := by
  cases resolve_eq_iff.mp h with
  | only _ hc _ _ => exact (List.getElem?_eq_some_iff.mp hc).1
  | first _ hc _ _ => exact (List.getElem?_eq_some_iff.mp hc).1

-- ============================================================ shared names

/-- Entering a name that is there enters no other one. -/
theorem map_fst_addBare (columns : List ColumnMeta) (index : Nat)
    (name source : String) (names : List (String × NameSlot)) :
    (addBare columns index name source names).map Prod.fst
      = if name ∈ names.map Prod.fst then names.map Prod.fst
        else names.map Prod.fst ++ [name] := by
  induction names with
  | nil => rfl
  | cons entry names ih =>
      obtain ⟨n, slot⟩ := entry
      unfold addBare
      by_cases hn : n = name
      · simp [hn]
      · rw [if_neg hn, List.map_cons, ih]
        by_cases hmem : name ∈ names.map Prod.fst
        · simp [hmem]
        · simp [hmem, Ne.symm hn]

/-- A bare name is kept once, however many columns have it. -/
theorem nodup_addBare {index : Nat} {name source : String}
    {names : List (String × NameSlot)} (h : (names.map Prod.fst).Nodup) :
    ((addBare columns index name source names).map Prod.fst).Nodup := by
  rw [map_fst_addBare]
  by_cases hmem : name ∈ names.map Prod.fst
  · rwa [if_pos hmem]
  · rw [if_neg hmem]
    exact List.nodup_append_comm.mpr (List.nodup_cons.mpr ⟨hmem, h⟩)

/-- No bare name is entered twice. -/
theorem nodup_bare {r : ColumnResolver} {index : Nat}
    (h : (r.bare.map Prod.fst).Nodup) :
    ((addColumns index columns r).bare.map Prod.fst).Nodup := by
  induction columns generalizing index r with
  | nil => exact h
  | cons c columns ih => exact ih (nodup_addBare h)

/-- What several columns share is listed, under what they are entered. -/
theorem mem_ambiguousNames {n : String} :
    n ∈ (ofColumns columns).ambiguousNames
      ↔ ∃ sources, (ofColumns columns).bare.lookup n
        = some (.ambiguous sources) := by
  have hnodup : ((ofColumns columns).bare.map Prod.fst).Nodup :=
    nodup_bare List.nodup_nil
  unfold ambiguousNames
  dsimp only
  rw [(List.mergeSort_perm _ _).mem_iff, List.mem_filterMap]
  constructor
  · intro ⟨⟨n', slot⟩, hmem, hslot⟩
    cases slot with
    | unique index => simp at hslot
    | ambiguous sources =>
        obtain rfl : n' = n := by simpa using hslot
        exact ⟨sources, lookup_of_mem hnodup hmem⟩
  · intro ⟨sources, hlookup⟩
    obtain ⟨before, after, hbare, -⟩ := List.lookup_eq_some_iff.mp hlookup
    refine ⟨(n, .ambiguous sources), ?_, rfl⟩
    simp [hbare]

/-- The names that are listed are those that two or more columns have. -/
theorem mem_ambiguousNames_iff {n : String} :
    n ∈ (ofColumns columns).ambiguousNames
      ↔ 2 ≤ columns.countP fun c => Text.fold c.name = n := by
  have hslot : (ofColumns columns).bare.lookup n
      = slot? (columnsWhere (·.key = n) columns) :=
    lookup_bare_ofFirst (List.prefix_refl columns)
  have hcount : (columns.countP fun c => Text.fold c.name = n)
      = (columnsWhere (·.key = n) columns).length :=
    countP_eq_length_columnsWhere (·.key = n) columns
  rw [mem_ambiguousNames, hslot, hcount]
  match columnsWhere (·.key = n) columns with
  | [] => simp [slot?]
  | [_] => simp [slot?]
  | _ :: _ :: _ => simp [slot?]

/-- They are listed in order, each of them once. -/
theorem pairwise_ambiguousNames :
    (ofColumns columns).ambiguousNames.Pairwise (· < ·) := by
  have hbare : ((ofColumns columns).bare.map Prod.fst).Nodup :=
    nodup_bare List.nodup_nil
  unfold ambiguousNames
  dsimp only
  generalize hnames : (ofColumns columns).bare.filterMap _ = names
  -- Sorting gives `≤`; that no name is entered twice makes it strict.
  have hnodup : names.Nodup := by
    rw [← hnames]
    refine List.pairwise_filterMap.mpr
      ((List.pairwise_map.mp hbare).imp fun {p q} hne n hn n' hn' => ?_)
    cases hp : p.2 <;> simp [hp] at hn
    cases hq : q.2 <;> simp [hq] at hn'
    rwa [← hn, ← hn']
  have hsorted : (names.mergeSort fun a b => decide (a ≤ b)).Pairwise
      fun a b => decide (a ≤ b) = true := by
    apply List.pairwise_mergeSort
    · intro a b c hab hbc
      rw [decide_eq_true_eq] at *
      exact String.le_trans hab hbc
    · intro a b
      simpa using String.le_total a b
  have hdistinct : (names.mergeSort fun a b => decide (a ≤ b)).Nodup :=
    (List.mergeSort_perm _ _).nodup_iff.mpr hnodup
  refine hsorted.imp₂ (fun a b hle hne => ?_) hdistinct
  rw [decide_eq_true_eq] at hle
  exact String.not_le.mp fun hge => hne (String.le_antisymm hle hge)

-- ====================================================================== rows

/-- The value of a name is the one at the position that it is resolved to;
there is one in every row of the result. -/
theorem value_of_resolve {values : List Value} {row : Row} {i : Nat}
    (hrow : Row.ofValues values (ofColumns columns) = .ok row)
    (h : (ofColumns columns).resolve name = .ok i) :
    ∃ v, row.values[i]? = some v ∧ row.value name = .ok v
      ∧ row.value? name = some v := by
  obtain ⟨-, hresolver⟩ := Row.ofValues_eq_ok_iff.mp hrow
  have hlt : i < row.values.length := by
    rw [Row.length_values hresolver]
    exact lt_of_resolve h
  have hfind := find?_eq_some_iff.mpr h
  refine ⟨row.values[i], List.getElem?_eq_getElem hlt, ?_, ?_⟩
  · simp [Row.value, hresolver, h, Except.map, Row.valueAt, Row.at?, hlt]
  · simp [Row.value?, hresolver, hfind, Row.valueAt, Row.at?, hlt]

/-- A name is resolved to what it comes to by the columns alone, and is found
exactly if that is a position. The names that cannot be looked up by themselves
are listed in order. A position that a name is resolved to is one of every row
of the result, and what the row has there is the value of the name. -/
theorem resolved_by_columns (columns : List ColumnMeta) :
    (∀ name outcome, (ofColumns columns).resolve name = outcome
      ↔ Means columns name outcome)
    ∧ (∀ name i, (ofColumns columns).find? name = some i
      ↔ (ofColumns columns).resolve name = .ok i)
    ∧ (ofColumns columns).ambiguousNames.Pairwise (· < ·)
    ∧ (∀ n, n ∈ (ofColumns columns).ambiguousNames
      ↔ 2 ≤ columns.countP fun c => Text.fold c.name = n)
    ∧ ∀ values row, Row.ofValues values (ofColumns columns) = .ok row →
      ∀ name i, (ofColumns columns).resolve name = .ok i →
        ∃ v, row.values[i]? = some v ∧ row.value name = .ok v
          ∧ row.value? name = some v :=
  ⟨fun _ _ => resolve_eq_iff, fun _ _ => find?_eq_some_iff,
    pairwise_ambiguousNames, fun _ => mem_ambiguousNames_iff,
    fun _ _ hrow _ _ h => value_of_resolve hrow h⟩

/-- Two tables joined, one of them twice, and an expression. -/
def joinedColumns : List ColumnMeta :=
  [⟨some "orders", "id"⟩, ⟨some "orders", "Total"⟩, ⟨some "Customers", "ID"⟩,
   ⟨none, "id"⟩, ⟨some "customers", "id"⟩]

/-- A row of them. -/
def joinedCells : Row where
  values := [.int64 1, .int64 30, .int64 7, .null, .int64 7]
  resolver := ofColumns joinedColumns
  width_eq := rfl

/-- A name that one column has, one that four have, and one that two have in
full. -/
theorem resolved_by_columns_joined :
    (ofColumns joinedColumns).resolve "Id" = .error (.column "Id"
        (.ambiguous ["orders", "Customers", "<expression>", "customers"]))
      ∧ (ofColumns joinedColumns).find? "customers/id" = some 2
      ∧ (ofColumns joinedColumns).ambiguousNames = ["id"]
      ∧ Row.ofValues joinedCells.values (ofColumns joinedColumns)
        = .ok joinedCells
      ∧ (ofColumns joinedColumns).resolve "total" = .ok 1
      ∧ joinedCells.value "total" = .ok (.int64 30) := by
  obtain ⟨hresolve, hfind, -, -, hrow⟩ := resolved_by_columns joinedColumns
  have hshared : Means joinedColumns "Id" (.error (.column "Id"
      (.ambiguous ["orders", "Customers", "<expression>", "customers"]))) :=
    .shared (by decide) (by decide +kernel)
  have hfirst : (ofColumns joinedColumns).resolve "customers/id" = .ok 2 := by
    rfl
  have htotal : (ofColumns joinedColumns).resolve "total" = .ok 1 := by rfl
  have hcells : Row.ofValues joinedCells.values (ofColumns joinedColumns)
      = .ok joinedCells := rfl
  obtain ⟨v, hv, hvalue, -⟩ := hrow _ _ hcells _ _ htotal
  cases hv
  exact ⟨(hresolve _ _).mpr hshared, (hfind _ _).mpr hfirst,
    by decide +kernel, hcells, htotal, hvalue⟩

-- ===================================================================== reach

/-- A text whose only slash is in front can be split at that one alone. -/
theorem eq_nil_of_plain {name name' before : List Char} (hname : '/' ∉ name)
    (h : '/' :: name = before ++ '/' :: name') : before = [] := by
  cases before with
  | nil => rfl
  | cons first before =>
      obtain ⟨-, hrest⟩ := List.cons.inj h
      exact absurd (by simp [hrest]) hname

/-- A name in full can be taken apart at its last slash. -/
theorem qualifiedName_inj_of_plain {table table' column column' : String}
    (hcolumn : '/' ∉ column.toList) (hcolumn' : '/' ∉ column'.toList)
    (h : qualifiedName table column = qualifiedName table' column') :
    table = table' ∧ column = column' := by
  have hlist : table.toList ++ '/' :: column.toList
      = table'.toList ++ '/' :: column'.toList := by
    simpa [qualifiedName] using congrArg String.toList h
  -- One table begins with the other; what is left of it ends before a slash.
  rcases List.append_eq_append_iff.mp hlist with
    ⟨before, htable, hrest⟩ | ⟨before, htable, hrest⟩
  · obtain rfl := eq_nil_of_plain hcolumn hrest
    refine ⟨String.toList_injective ?_, String.toList_injective ?_⟩
    · simpa using htable.symm
    · simpa using hrest
  · obtain rfl := eq_nil_of_plain hcolumn' hrest
    refine ⟨String.toList_injective ?_, String.toList_injective ?_⟩
    · simpa using htable
    · simpa using hrest.symm

/-- A column is found by every name that is its own alone: by its name, if no
other column has it, and by its name with its table, if no other column has
both. -/
structure Reached (columns : List ColumnMeta) (i : Nat) (c : ColumnMeta) :
    Prop where
  bare : (∀ j c', columns[j]? = some c' → c'.isCalled c.name = true →
    j = i) → (ofColumns columns).resolve c.name = .ok i
  qualified : ∀ table, c.table = some table → table ≠ "" →
    (∀ j c' table', columns[j]? = some c' → c'.table = some table' →
      Text.sameName table' table = true → c'.isCalled c.name = true →
      j = i) →
    (ofColumns columns).resolve (qualifiedName table c.name) = .ok i

variable {i : Nat} {c : ColumnMeta} {table : String}

/-- What a column is called in full is longer than its name. -/
theorem not_isCalledInFull_name (c : ColumnMeta) :
    c.isCalledInFull c.name = false := by
  unfold ColumnMeta.isCalledInFull
  cases c.table with
  | none => rfl
  | some table =>
      have hne : Text.sameName (qualifiedName table c.name) c.name = false := by
        rw [Bool.eq_false_iff]
        intro hsame
        have hlength := congrArg (fun s : String => s.toList.length)
          (Text.sameName_iff.mp hsame)
        simp [qualifiedName] at hlength
        omega
      simp [hne]

/-- A column of a table is called by both. -/
theorem isCalledInFull_qualifiedName (htable : c.table = some table)
    (hne : table ≠ "") :
    c.isCalledInFull (qualifiedName table c.name) = true := by
  simp [ColumnMeta.isCalledInFull, htable, hne, Text.sameName]

/-- By its own name a column is found if the name has no slash and no other
column has it. -/
theorem reached_bare_iff (hc : columns[i]? = some c) :
    (ofColumns columns).resolve c.name = .ok i
      ↔ '/' ∉ c.name.toList ∧ ∀ j c', columns[j]? = some c' →
        c'.isCalled c.name = true → j = i := by
  rw [resolve_eq_iff]
  constructor
  · intro h
    cases h with
    | only hbare _ _ honly => exact ⟨hbare, honly⟩
    | first _ hc' hcalled _ =>
        cases hc.symm.trans hc'
        rw [not_isCalledInFull_name] at hcalled
        cases hcalled
  · intro ⟨hbare, honly⟩
    exact .only hbare hc (Text.sameName_iff.mpr rfl) honly

/-- In full it is found if no column before it is called so. -/
theorem reached_qualified_iff (hc : columns[i]? = some c)
    (htable : c.table = some table) (hne : table ≠ "") :
    (ofColumns columns).resolve (qualifiedName table c.name) = .ok i
      ↔ ∀ j c', columns[j]? = some c' →
        c'.isCalledInFull (qualifiedName table c.name) = true → i ≤ j := by
  have hslash := Text.slash_mem_qualifiedName table c.name
  rw [resolve_eq_iff]
  constructor
  · intro h
    cases h with
    | only hbare _ _ _ => exact absurd hslash hbare
    | first _ _ _ hfirst => exact hfirst
  · intro hfirst
    exact .first hslash hc (isCalledInFull_qualifiedName htable hne) hfirst

/-- Without slashes in their names, columns that are called alike in full have
the same table and the same name. -/
theorem same_of_isCalledInFull {c' : ColumnMeta}
    (hplain : '/' ∉ c.name.toList) (hplain' : '/' ∉ c'.name.toList)
    (h : c'.isCalledInFull (qualifiedName table c.name) = true) :
    ∃ table', c'.table = some table' ∧ Text.sameName table' table = true
      ∧ c'.isCalled c.name = true := by
  unfold ColumnMeta.isCalledInFull at h
  cases htable' : c'.table with
  | none => simp [htable'] at h
  | some table' =>
      rw [htable'] at h
      dsimp only at h
      rw [Bool.and_eq_true, Text.sameName_iff, Text.fold_qualifiedName,
        Text.fold_qualifiedName] at h
      obtain ⟨htable, hname⟩ := qualifiedName_inj_of_plain
        (fun hslash => hplain' (Text.slash_mem_fold.mp hslash))
        (fun hslash => hplain (Text.slash_mem_fold.mp hslash)) h.2
      exact ⟨table', rfl, Text.sameName_iff.mpr htable,
        Text.sameName_iff.mpr hname⟩

/-- Where no name has a slash, every column is found by the names that are its
own. -/
theorem reached_of_plain (hc : columns[i]? = some c)
    (hplain : ∀ c ∈ columns, '/' ∉ c.name.toList) :
    Reached columns i c := by
  have hslash := hplain c (List.mem_of_getElem? hc)
  constructor
  · intro honly
    exact (reached_bare_iff hc).mpr ⟨hslash, honly⟩
  · intro table htable hne honly
    refine (reached_qualified_iff hc htable hne).mpr fun j c' hc' hcalled => ?_
    obtain ⟨table', htable', hsame, hname⟩ := same_of_isCalledInFull hslash
      (hplain c' (List.mem_of_getElem? hc')) hcalled
    exact Nat.le_of_eq (honly j c' table' hc' htable' hsame hname).symm

/-- A column is found by its name exactly if there is no slash in it and no
other column has it, and by its name with its table exactly if no column before
is called so in full. So in a result without slashes in the names of its
columns each one is found by every name that is its own alone, whatever the
names of the tables. -/
theorem reached_iff (hc : columns[i]? = some c) :
    ((ofColumns columns).resolve c.name = .ok i
      ↔ '/' ∉ c.name.toList ∧ ∀ j c', columns[j]? = some c' →
        c'.isCalled c.name = true → j = i)
    ∧ (∀ table, c.table = some table → table ≠ "" →
      ((ofColumns columns).resolve (qualifiedName table c.name) = .ok i
        ↔ ∀ j c', columns[j]? = some c' →
          c'.isCalledInFull (qualifiedName table c.name) = true → i ≤ j))
    ∧ ((∀ c ∈ columns, '/' ∉ c.name.toList) → Reached columns i c) :=
  ⟨reached_bare_iff hc,
    fun _ htable hne => reached_qualified_iff hc htable hne,
    fun hplain => reached_of_plain hc hplain⟩

/-- A table with a slash in its name, and a column that has a part of it. -/
def crossingColumns : List ColumnMeta :=
  [⟨some "a", "b/c"⟩, ⟨some "A/B", "c"⟩, ⟨some "a/b", "d"⟩]

/-- The last column is found by its names; the one before is found by its bare
name alone. -/
theorem reached_iff_crossing :
    (ofColumns crossingColumns).resolve (qualifiedName "a/b" "d") = .ok 2
      ∧ (ofColumns crossingColumns).resolve "c" = .ok 1
      ∧ (ofColumns crossingColumns).resolve (qualifiedName "A/B" "c")
        ≠ .ok 1 := by
  have hc : crossingColumns[2]? = some ⟨some "a/b", "d"⟩ := rfl
  have hc' : crossingColumns[1]? = some ⟨some "A/B", "c"⟩ := rfl
  obtain ⟨-, hlast, -⟩ := reached_iff hc
  obtain ⟨hbare, hqualified, -⟩ := reached_iff hc'
  refine ⟨(hlast _ rfl (by decide)).mpr ?_, hbare.mpr ⟨by decide, ?_⟩, ?_⟩
  · intro j c' hc' hcalled
    match j with
    | 0 => cases hc'; exact absurd hcalled (by decide +kernel)
    | 1 => cases hc'; exact absurd hcalled (by decide +kernel)
    | j + 2 => omega
  · intro j c' hc' hcalled
    match j with
    | 0 => cases hc'; exact absurd hcalled (by decide +kernel)
    | 1 => rfl
    | 2 => cases hc'; exact absurd hcalled (by decide +kernel)
    | j + 3 => cases hc'
  · intro hreached
    have hle := (hqualified _ rfl (by decide)).mp hreached 0 _ rfl
      (by decide +kernel)
    omega

/-- Columns that are called alike in full, the last of them with a table and a
name of its own. -/
def alikeColumns : List ColumnMeta :=
  [⟨some "a", "b/c"⟩, ⟨some "a", "b/c"⟩, ⟨some "a/b", "c"⟩]

/-- An expression with a slash in its name is not found by it, and a column is
not found by its name with its table if a column before it is called alike in
full, though neither its table nor its name is the same. -/
theorem not_reached_slashed :
    ¬ Reached [⟨none, "a/b"⟩] 0 ⟨none, "a/b"⟩
      ∧ ¬ Reached alikeColumns 2 ⟨some "a/b", "c"⟩ := by
  constructor
  · intro h
    have hmissing : (ofColumns [⟨none, "a/b"⟩]).resolve "a/b"
        = .error (.column "a/b" .missing) := by rfl
    have hfound := h.bare fun j c' hc' _ => by
      match j with
      | 0 => rfl
      | j + 1 => cases hc'
    cases hmissing.symm.trans hfound
  · intro h
    have hother : (ofColumns alikeColumns).resolve (qualifiedName "a/b" "c")
        = .ok 0 := by rfl
    have hfound := h.qualified "a/b" rfl (by decide)
      fun j c' table' hc' htable' hsame _ => by
        -- Both columns before it have another table.
        match j with
        | 0 | 1 =>
            cases hc'
            cases htable'
            exact absurd hsame (by decide +kernel)
        | 2 => rfl
        | j + 3 => cases hc'
    cases hother.symm.trans hfound

end ColumnResolver

end DataAccess
