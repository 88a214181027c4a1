/-
The statements that are written for entities, and what their question marks
stand for. A statement is made of pieces (`Piece`): words, and question marks
that stand for a column each. `Form` says which pieces, from the names of the
columns that are written and of those that are compared; a statement with its
values is `Aligned` with a form if it has the text of its pieces, and for each
question mark the value of the column that the mark stands for.

# The argument

The names in a statement and the values next to it are chosen by two filters,
over the columns, and over the columns with their fields. A filter that only
asks about the column chooses alike in both (`readAll_filter_zip`). As no two
columns have one name, what was chosen with a column is what is found under
its name (`map_lookup_cells`), wherever in the declaration it stands and
whatever stands around it.
-/
import DataAccess.Proofs.Entity.Injection
import DataAccess.Session.EntityStore
import DataAccess.Proofs.Statement.Placeholders
import Mathlib.Data.List.Nodup

namespace DataAccess

-- =================================================================== pieces

/-- A piece of a statement. -/
inductive Piece where
  | words (text : String)
  /-- A question mark that stands for a column. -/
  | mark (column : String)
  deriving DecidableEq

namespace Piece

/-- The text of a piece. -/
def text : Piece → String
  | .words text => text
  | .mark _ => "?"

/-- The column that a question mark stands for. -/
def column? : Piece → Option String
  | .words _ => none
  | .mark column => some column

/-- The text of some pieces. -/
def render : List Piece → String
  | [] => ""
  | p :: ps => p.text ++ render ps

/-- The columns that the question marks stand for, in the order of the text. -/
def placed (ps : List Piece) : List String :=
  ps.filterMap column?

/-- Pieces with a separator between each two lists of them. -/
def separated (separator : String) : List (List Piece) → List Piece
  | [] => []
  | [ps] => ps
  | ps :: rest => ps ++ .words separator :: separated separator rest

@[simp]
theorem placed_nil : placed [] = [] := rfl

@[simp]
theorem placed_words (text : String) (ps : List Piece) :
    placed (.words text :: ps) = placed ps :=
  List.filterMap_cons_none rfl

@[simp]
theorem placed_append (ps qs : List Piece) :
    placed (ps ++ qs) = placed ps ++ placed qs :=
  List.filterMap_append

@[simp]
theorem render_nil : render [] = "" := rfl

@[simp]
theorem render_words (text : String) (ps : List Piece) :
    render (.words text :: ps) = text ++ render ps := rfl

@[simp]
theorem render_append (ps qs : List Piece) :
    render (ps ++ qs) = render ps ++ render qs := by
  induction ps with
  | nil => exact String.empty_append.symm
  | cons p ps ih =>
      rw [List.cons_append, render, render, ih, String.append_assoc]

/-- A separator stands for no column. -/
theorem placed_separated (separator : String) (lists : List (List Piece)) :
    placed (separated separator lists) = lists.flatMap placed := by
  fun_induction separated separator lists with
  | case1 => rfl
  | case2 ps => exact (List.append_nil _).symm
  | case3 ps rest hrest ih =>
      rw [placed_append, placed_words, ih, List.flatMap_cons]

/-- Lists that are separated are rendered with the separator between them. -/
theorem render_separated (separator : String) (lists : List (List Piece)) :
    render (separated separator lists)
      = Text.join separator (lists.map render) := by
  unfold Text.join
  fun_induction separated separator lists with
  | case1 => rfl
  | case2 ps => exact String.intercalate_singleton.symm
  | case3 ps rest hrest ih =>
      obtain ⟨qs, rest, rfl⟩ := List.exists_cons_of_ne_nil hrest
      simp only [List.map_cons] at ih ⊢
      rw [render_append, render_words, ih, String.intercalate_cons_cons,
        String.append_assoc]

/-- Words without a question mark, that open no quote. -/
def Plain : Piece → Prop
  | .words text => HasMarks text 0
  | .mark _ => True

instance : (p : Piece) → Decidable p.Plain
  | .words text => inferInstanceAs (Decidable (HasMarks text 0))
  | .mark _ => inferInstanceAs (Decidable True)

/-- A separator without marks keeps plain lists plain. -/
theorem plain_separated {separator : String} {lists : List (List Piece)}
    (hseparator : HasMarks separator 0)
    (h : ∀ ps ∈ lists, ∀ p ∈ ps, p.Plain) :
    ∀ p ∈ separated separator lists, p.Plain := by
  fun_induction separated separator lists with
  | case1 => exact List.forall_mem_nil _
  | case2 ps => exact h ps List.mem_cons_self
  | case3 ps rest hrest ih =>
      obtain ⟨hps, hrest⟩ := List.forall_mem_cons.mp h
      exact List.forall_mem_append.mpr
        ⟨hps, List.forall_mem_cons.mpr ⟨hseparator, ih hrest⟩⟩

/-- If no words bring a question mark or a quote of their own, the question
marks of the text are those of its pieces. -/
theorem hasMarks_render {ps : List Piece} (h : ∀ p ∈ ps, p.Plain) :
    HasMarks (render ps) (placed ps).length := by
  induction ps with
  | nil => exact ⟨rfl, rfl⟩
  | cons p ps ih =>
      obtain ⟨hp, hps⟩ := List.forall_mem_cons.mp h
      have hps := ih hps
      cases p with
      | words text =>
          have hall := HasMarks.append hp hps
          rwa [Nat.zero_add] at hall
      | mark column =>
          have hmark : HasMarks "?" 1 := ⟨rfl, rfl⟩
          have hall := hmark.append hps
          rwa [Nat.add_comm] at hall

end Piece

-- ==================================================================== forms

/-- The statements that are written for an entity type: of a table, with the
columns that are listed or written, and those of the identity. -/
inductive Form where
  | select (table : String) (columns : List String)
  | find (table : String) (columns key : List String)
  | insert (table : String) (written : List String)
  | update (table : String) (written key : List String)
  | delete (table : String) (key : List String)
  deriving DecidableEq

namespace Form

/-- Columns, one after the other. -/
def list (columns : List String) : List Piece :=
  Piece.separated ", " (columns.map fun column => [.words column])

/-- A question mark for each column. -/
def marks (columns : List String) : List Piece :=
  Piece.separated ", " (columns.map fun column => [.mark column])

/-- Each column with a question mark. -/
def pairs (separator : String) (columns : List String) : List Piece :=
  Piece.separated separator
    (columns.map fun column => [.words column, .words " = ", .mark column])

/-- The pieces of a statement. -/
def pieces : Form → List Piece
  | .select table columns =>
    .words "SELECT " :: list columns ++ [.words " FROM ", .words table]
  | .find table columns key =>
    .words "SELECT " :: list columns
      ++ .words " FROM " :: .words table :: .words " WHERE "
      :: pairs " AND " key
  | .insert table written =>
    .words "INSERT INTO " :: .words table :: .words " (" :: list written
      ++ .words ") VALUES (" :: marks written ++ [.words ")"]
  | .update table written key =>
    .words "UPDATE " :: .words table :: .words " SET " :: pairs ", " written
      ++ .words " WHERE " :: pairs " AND " key
  | .delete table key =>
    .words "DELETE FROM " :: .words table :: .words " WHERE "
      :: pairs " AND " key

/-- The columns that are to have a question mark, and the order of these. -/
def columns : Form → List String
  | .select .. => []
  | .find _ _ key => key
  | .insert _ written => written
  | .update _ written key => written ++ key
  | .delete _ key => key

/-- The table of a statement. -/
def table : Form → String
  | .select table _ => table
  | .find table _ _ => table
  | .insert table _ => table
  | .update table _ _ => table
  | .delete table _ => table

/-- The columns that are named in a statement. -/
def names : Form → List String
  | .select _ columns => columns
  | .find _ columns key => columns ++ key
  | .insert _ written => written
  | .update _ written key => written ++ key
  | .delete _ key => key

/-- No name in a statement has a question mark or opens a quote. -/
def Plain (form : Form) : Prop :=
  ∀ name ∈ form.table :: form.names, HasMarks name 0

instance (form : Form) : Decidable form.Plain :=
  inferInstanceAs (Decidable (∀ name ∈ form.table :: form.names, _))

/-- The text of a statement. -/
def text (form : Form) : String :=
  Piece.render form.pieces

end Form

namespace Form

open Piece

@[simp]
theorem placed_list (columns : List String) : placed (list columns) = [] := by
  unfold list
  rw [placed_separated, List.flatMap_map]
  exact List.flatMap_eq_nil_iff.mpr fun _ _ => rfl

@[simp]
theorem placed_marks (columns : List String) :
    placed (marks columns) = columns := by
  unfold marks
  rw [placed_separated, List.flatMap_map]
  exact List.flatMap_singleton' columns

@[simp]
theorem placed_pairs (separator : String) (columns : List String) :
    placed (pairs separator columns) = columns := by
  unfold pairs
  rw [placed_separated, List.flatMap_map]
  exact List.flatMap_singleton' columns

/-- A statement has the question marks that it is to have. -/
theorem placed_pieces (form : Form) : placed form.pieces = form.columns := by
  cases form <;> simp [pieces, columns]

theorem plain_list {columns : List String}
    (h : ∀ name ∈ columns, HasMarks name 0) :
    ∀ p ∈ list columns, p.Plain := by
  refine plain_separated (by decide) fun ps hps => ?_
  obtain ⟨name, hname, rfl⟩ := List.mem_map.mp hps
  exact List.forall_mem_singleton.mpr (h name hname)

theorem plain_marks (columns : List String) :
    ∀ p ∈ marks columns, p.Plain := by
  refine plain_separated (by decide) fun ps hps => ?_
  obtain ⟨name, -, rfl⟩ := List.mem_map.mp hps
  exact List.forall_mem_singleton.mpr trivial

theorem plain_pairs {separator : String} (hseparator : HasMarks separator 0)
    {columns : List String} (h : ∀ name ∈ columns, HasMarks name 0) :
    ∀ p ∈ pairs separator columns, p.Plain := by
  refine plain_separated hseparator fun ps hps => ?_
  obtain ⟨name, hname, rfl⟩ := List.mem_map.mp hps
  refine List.forall_mem_cons.mpr ⟨h name hname,
    List.forall_mem_cons.mpr ⟨?_, List.forall_mem_singleton.mpr trivial⟩⟩
  exact (by decide : HasMarks " = " 0)

/-- The words between the names are plain. -/
theorem plain_pieces {form : Form} (h : form.Plain) :
    ∀ p ∈ form.pieces, p.Plain := by
  obtain ⟨htable, hnames⟩ := List.forall_mem_cons.mp h
  cases form <;>
    simp only [pieces, List.forall_mem_append, List.forall_mem_cons]
  case select table columns =>
    exact ⟨⟨by decide, plain_list hnames⟩, by decide, htable,
      List.forall_mem_nil _⟩
  case find table columns key =>
    obtain ⟨hcolumns, hkey⟩ := List.forall_mem_append.mp hnames
    exact ⟨⟨by decide, plain_list hcolumns⟩, by decide, htable, by decide,
      plain_pairs (by decide) hkey⟩
  case insert table written =>
    exact ⟨⟨⟨by decide, htable, by decide, plain_list hnames⟩, by decide,
      plain_marks written⟩, by decide, List.forall_mem_nil _⟩
  case update table written key =>
    obtain ⟨hwritten, hkey⟩ := List.forall_mem_append.mp hnames
    exact ⟨⟨by decide, htable, by decide, plain_pairs (by decide) hwritten⟩,
      by decide, plain_pairs (by decide) hkey⟩
  case delete table key =>
    exact ⟨by decide, htable, by decide, plain_pairs (by decide) hnames⟩

@[simp]
theorem render_list (columns : List String) :
    render (list columns) = Text.commaSeparated columns := by
  unfold list Text.commaSeparated
  rw [render_separated, List.map_map]
  exact congrArg _ (List.map_id'' (fun column => String.append_empty) columns)

@[simp]
theorem render_marks (columns : List String) :
    render (marks columns)
      = Text.commaSeparated (columns.map fun _ => "?") := by
  unfold marks
  rw [render_separated, List.map_map]
  rfl

@[simp]
theorem render_pairs (separator : String) (columns : List String) :
    render (pairs separator columns)
      = Text.join separator (columns.map EntityBinding.placed) := by
  unfold pairs
  rw [render_separated, List.map_map]
  rfl

/-- The text of a selection, written out. -/
theorem text_select (table : String) (columns : List String) :
    (select table columns).text
      = "SELECT " ++ Text.commaSeparated columns ++ " FROM " ++ table := by
  simp [text, pieces, String.append_assoc]

/-- A find is a selection with a condition for each part of the key. -/
theorem text_find (table : String) (columns key : List String) :
    (find table columns key).text
      = (select table columns).text ++ " WHERE "
        ++ Text.join " AND " (key.map EntityBinding.placed) := by
  simp [text, pieces, String.append_assoc]

/-- The text of an insert, written out: a placeholder for each column. -/
theorem text_insert (table : String) (written : List String) :
    (insert table written).text
      = "INSERT INTO " ++ table ++ " (" ++ Text.commaSeparated written
        ++ ") VALUES (" ++ Text.commaSeparated (written.map fun _ => "?")
        ++ ")" := by
  simp [text, pieces, String.append_assoc]

/-- The text of an update, written out: what is set, then the condition. -/
theorem text_update (table : String) (written key : List String) :
    (update table written key).text
      = "UPDATE " ++ table ++ " SET "
        ++ Text.commaSeparated (written.map EntityBinding.placed)
        ++ " WHERE " ++ Text.join " AND " (key.map EntityBinding.placed) := by
  simp [text, pieces, Text.commaSeparated, String.append_assoc]

/-- The text of a deletion, written out. -/
theorem text_delete (table : String) (key : List String) :
    (delete table key).text
      = "DELETE FROM " ++ table ++ " WHERE "
        ++ Text.join " AND " (key.map EntityBinding.placed) := by
  simp [text, pieces, String.append_assoc]

end Form

-- ================================================================= bindings

namespace EntityBinding

/-- The names of the columns with some property, in the order of their
declaration. -/
def namesWhere (b : EntityBinding) (p : ColumnBinding → Bool) : List String :=
  (b.columns.filter p).map (·.name)

variable {schema : Schema} {typeName : String} {b : EntityBinding}
  {e : Entity} {c : ColumnBinding} {vs id : List Value}

-- ------------------------------------------------------------------ texts

/-- The selection of a binding has the form of one. -/
theorem selectStatement_eq (b : EntityBinding) :
    b.selectStatement = (Form.select b.table b.columnNames).text :=
  (Form.text_select ..).symm

/-- A find has its form, whatever is looked for. -/
theorem findStatement_eq (b : EntityBinding) :
    b.findStatement = (Form.find b.table b.columnNames
      (b.namesWhere (·.identity))).text := by
  rw [Form.text_find, ← selectStatement_eq]
  rfl

/-- Where the columns that are not generated can be read, the insert has its
form, and their values. -/
theorem insertStatement_eq
    (h : b.readAll ((b.bound e).filter fun (c, _) => !c.generated) = .ok vs) :
    b.insertStatement e
      = .ok {
        sql := (Form.insert b.table (b.namesWhere fun c => !c.generated)).text
        params := vs
        keys := b.namesWhere (·.generated) } := by
  unfold insertStatement
  dsimp only
  rw [h, Form.text_insert]
  rfl

/-- An update has its form where something besides the identity can be written;
the values of the identity stand last. -/
theorem updateStatement_eq
    (hwritten : b.namesWhere (fun c => !c.identity) ≠ [])
    (h : b.readAll ((b.bound e).filter fun (c, _) => !c.identity) = .ok vs)
    (hid : b.identityValues e = .ok id) :
    b.updateStatement e
      = .ok {
        sql := (Form.update b.table (b.namesWhere fun c => !c.identity)
          (b.namesWhere (·.identity))).text
        params := vs ++ id } := by
  have hsome : ¬ (b.namesWhere fun c => !c.identity).isEmpty = true :=
    fun hnone => hwritten (List.isEmpty_iff.mp hnone)
  unfold updateStatement
  dsimp only
  rw [h, hid, Form.text_update]
  exact if_neg hsome

/-- A type that is all identity has nothing to update. -/
theorem updateStatement_of_nothing
    (hwritten : b.namesWhere (fun c => !c.identity) = []) :
    b.updateStatement e = .error (.mapping (.nothingToUpdate b.table)) :=
  if_pos (List.isEmpty_iff.mpr hwritten)

/-- A deletion has its form, and the values of the identity. -/
theorem deleteStatement_eq (hid : b.identityValues e = .ok id) :
    b.deleteStatement e
      = .ok {
        sql := (Form.delete b.table (b.namesWhere (·.identity))).text
        params := id } := by
  unfold deleteStatement
  rw [hid, Form.text_delete]
  rfl

-- ------------------------------------------------------------------ names

/-- No two columns of a binding have one name. -/
theorem nodup_columnNames (hb : ofType schema typeName = .ok b) :
    b.columnNames.Nodup := by
  have hfolded : (b.columnNames.map Text.fold).Nodup := by
    rw [columnNames, List.map_map]
    exact nodup_of_ofType hb
  exact hfolded.of_map _

/-- A binding has a column for the identity. -/
theorem namesWhere_identity_ne_nil (hb : ofType schema typeName = .ok b) :
    b.namesWhere (·.identity) ≠ [] := by
  intro hnone
  have hlength := congrArg List.length hnone
  rw [namesWhere, List.length_map] at hlength
  exact identityCount_of_ofType hb hlength

/-- Columns that are chosen stay in their order. -/
theorem sublist_namesWhere (b : EntityBinding) (p : ColumnBinding → Bool) :
    (b.namesWhere p).Sublist b.columnNames :=
  List.filter_sublist.map _

/-- Just the columns with the property are listed, each of them once. -/
theorem count_namesWhere (hnodup : b.columnNames.Nodup)
    (p : ColumnBinding → Bool) (hc : c ∈ b.columns) :
    (b.namesWhere p).count c.name = if p c then 1 else 0 := by
  by_cases hp : p c = true
  · rw [if_pos hp]
    refine List.count_eq_one_of_mem (hnodup.sublist (b.sublist_namesWhere p)) ?_
    exact List.mem_map_of_mem (List.mem_filter.mpr ⟨hc, hp⟩)
  · rw [if_neg hp, List.count_eq_zero]
    intro hmem
    obtain ⟨c', hc', hname⟩ := List.mem_map.mp hmem
    obtain ⟨hmem', hp'⟩ := List.mem_filter.mp hc'
    cases List.inj_on_of_nodup_map hnodup hmem' hc hname
    exact hp hp'

-- ----------------------------------------------------------------- values

/-- The values that were chosen with their columns are those that are found
under the names of these columns. -/
theorem map_lookup_cells (hnodup : b.columnNames.Nodup)
    (hvs : vs.length = b.columns.length) (p : ColumnBinding → Bool) :
    (((b.columns.zip vs).filter fun (c, _) => p c).map Prod.snd).map some
      = (b.namesWhere p).map fun name =>
        (b.columnNames.zip vs).lookup name := by
  have hzip : b.columnNames.zip vs
      = (b.columns.zip vs).map fun q => (q.1.name, q.2) :=
    List.zip_map_left
  have hnames : (b.columnNames.zip vs).map Prod.fst = b.columnNames :=
    List.map_fst_zip (by rw [columnNames, List.length_map, hvs])
  have hlookup : ∀ q ∈ (b.columns.zip vs).filter fun (c, _) => p c,
      some q.2 = (b.columnNames.zip vs).lookup q.1.name := by
    intro q hq
    refine (ColumnResolver.lookup_of_mem
      (by rw [hnames]; exact hnodup) ?_).symm
    rw [hzip]
    exact List.mem_map_of_mem (List.mem_filter.mp hq).1
  have hcolumns : ((b.columns.zip vs).filter fun (c, _) => p c).map Prod.fst
      = b.columns.filter p := by
    conv_rhs =>
      rw [← List.map_fst_zip (Nat.le_of_eq hvs.symm), List.filter_map]
    rfl
  calc (((b.columns.zip vs).filter fun (c, _) => p c).map Prod.snd).map some
      = ((b.columns.zip vs).filter fun (c, _) => p c).map
          (fun q => some q.2) := List.map_map ..
    _ = ((b.columns.zip vs).filter fun (c, _) => p c).map
          (fun q => (b.columnNames.zip vs).lookup q.1.name) :=
        List.map_congr_left hlookup
    _ = (b.columns.filter p).map
          (fun c => (b.columnNames.zip vs).lookup c.name) := by
        rw [← hcolumns, List.map_map]
        rfl
    _ = (b.namesWhere p).map fun name =>
          (b.columnNames.zip vs).lookup name := by
        rw [namesWhere, List.map_map]
        rfl

/-- A statement, sent with some values, is of a form: it has the text of its
pieces, and a value for each question mark, which is the value of the column
that the question mark stands for. -/
structure Aligned (form : Form) (cells : List (String × Value)) (sql : String)
    (params : List Value) : Prop where
  text : sql = form.text
  values : params.map some
    = (Piece.placed form.pieces).map fun column => cells.lookup column
  length : params.length = (Piece.placed form.pieces).length
  /-- There are no other question marks in the text, unless in a name. -/
  marks : form.Plain → placeholders sql = params.length

/-- Values that are found one by one under the columns of a form are as many as
its placeholders, which is all that is left to show. -/
theorem Aligned.of {form : Form} {cells : List (String × Value)} {sql : String}
    {params : List Value} (htext : sql = form.text)
    (hvalues : params.map some
      = form.columns.map fun column => cells.lookup column) :
    Aligned form cells sql params := by
  rw [← form.placed_pieces] at hvalues
  have hlength := congrArg List.length hvalues
  rw [List.length_map, List.length_map] at hlength
  refine ⟨htext, hvalues, hlength, fun hplain => ?_⟩
  rw [htext, hlength]
  exact (Piece.hasMarks_render (Form.plain_pieces hplain)).count

section

variable (hnodup : b.columnNames.Nodup)
  (hfields : e.fields.length = b.columns.length)
  (hvs : b.readAll (b.bound e) = .ok vs)

include hfields hvs

theorem length_of_readAll : vs.length = b.columns.length := by
  rw [← (readAll_eq_ok_iff.mp hvs).length_eq, bound, List.length_zip, hfields,
    Nat.min_self]

/-- What is read of the columns with some property. -/
theorem readAll_filter_bound (p : ColumnBinding → Bool) :
    b.readAll ((b.bound e).filter fun (c, _) => p c)
      = .ok (((b.columns.zip vs).filter fun (c, _) => p c).map Prod.snd) :=
  readAll_filter_zip p hfields hvs

include hnodup

/-- The identity of an entity is what its identity columns hold. -/
theorem identityValues_aligned :
    ∃ id, b.identityValues e = .ok id
      ∧ id.map some = (b.namesWhere (·.identity)).map fun name =>
        (b.columnNames.zip vs).lookup name :=
  ⟨_, readAll_filter_bound hfields hvs (·.identity),
    map_lookup_cells hnodup (length_of_readAll hfields hvs) _⟩

/-- An insert is aligned, and asks for the columns that are generated. -/
theorem insertStatement_aligned :
    ∃ st, b.insertStatement e = .ok st
      ∧ Aligned (.insert b.table (b.namesWhere fun c => !c.generated))
        (b.columnNames.zip vs) st.sql st.params
      ∧ st.keys = b.namesWhere (·.generated) :=
  ⟨_, insertStatement_eq
      (readAll_filter_bound hfields hvs fun c => !c.generated),
    .of rfl (map_lookup_cells hnodup (length_of_readAll hfields hvs)
      fun c => !c.generated), rfl⟩

/-- An update is aligned, where there is something to set. -/
theorem updateStatement_aligned
    (hwritten : b.namesWhere (fun c => !c.identity) ≠ []) :
    ∃ st, b.updateStatement e = .ok st
      ∧ Aligned (.update b.table (b.namesWhere fun c => !c.identity)
          (b.namesWhere (·.identity)))
        (b.columnNames.zip vs) st.sql st.params := by
  obtain ⟨id, hid, hvalues⟩ := identityValues_aligned hnodup hfields hvs
  have hlength := length_of_readAll hfields hvs
  refine ⟨_, updateStatement_eq hwritten
    (readAll_filter_bound hfields hvs fun c => !c.identity) hid, .of rfl ?_⟩
  rw [List.map_append, hvalues,
    map_lookup_cells hnodup hlength fun c => !c.identity]
  exact List.map_append.symm

/-- A deletion is aligned. -/
theorem deleteStatement_aligned :
    ∃ st, b.deleteStatement e = .ok st
      ∧ Aligned (.delete b.table (b.namesWhere (·.identity)))
        (b.columnNames.zip vs) st.sql st.params := by
  obtain ⟨id, hid, hvalues⟩ := identityValues_aligned hnodup hfields hvs
  exact ⟨_, deleteStatement_eq hid, .of rfl hvalues⟩

/-- A find is aligned with the identity that is looked for. -/
theorem findStatement_aligned :
    ∃ id, b.identityValues e = .ok id
      ∧ Aligned (.find b.table b.columnNames (b.namesWhere (·.identity)))
        (b.columnNames.zip vs) b.findStatement id := by
  obtain ⟨id, hid, hvalues⟩ := identityValues_aligned hnodup hfields hvs
  exact ⟨id, hid, .of b.findStatement_eq hvalues⟩

end

end EntityBinding

-- ==================================================================== finds

/-- Values that are bound by position. -/
def placedValues (values : List Value) : List Binding :=
  values.map fun v => .positional (.stored v)

/-- Values that are bound one after the other are bound by position. -/
theorem Params.bindAll_eq (values : List Value) :
    Params.empty.bindAll values = .ofBindings (placedValues values) := by
  unfold Params.ofBindings placedValues
  rw [List.foldl_map]
  rfl

/-- Values bound by position are read off as they were bound. -/
theorem positionalValues_placedValues (values : List Value) :
    positionalValues (placedValues values) = values := by
  induction values with
  | nil => rfl
  | cons v values ih => exact congrArg (v :: ·) ih

/-- Each value counts as one placeholder. -/
theorem countP_placedValues (values : List Value) :
    (placedValues values).countP Binding.isPositional = values.length := by
  unfold placedValues
  rw [List.countP_map]
  exact congrFun List.countP_true values

/-- They are sent with the text as it is. -/
theorem eq_of_resolve_bindAll {values : List Value} {sql : String}
    {st : BoundStatement} (hvalues : values ≠ [])
    (h : (Params.empty.bindAll values).resolve sql = .ok st) :
    st = ⟨sql, values⟩ := by
  rw [Params.bindAll_eq, ofBindings_eq_ok_iff] at h
  cases h with
  | byPosition _ _ => rw [positionalValues_placedValues]
  | byName _ hway _ =>
      have hnone := hway.1
      rw [countP_placedValues] at hnone
      exact absurd (List.eq_nil_of_length_eq_zero hnone) hvalues

/-- A find for another number of values is refused. -/
theorem Action.find_of_width {schema : Schema} {typeName : String}
    {b : EntityBinding} (hb : EntityBinding.ofType schema typeName = .ok b)
    {id : List Value} (hwidth : id.length ≠ b.identityColumns.length)
    (t : TransactionId) (s : Session) :
    Action.find schema t typeName id s
      = .error (.mapping (.lookupWidth b.table id.length b.identityColumns))
        s := by
  unfold find
  rw [hb]
  show (if id.length ≠ b.identityColumns.length then _ else _ :
    Action (Option Entity)) s = _
  rw [if_pos hwidth]
  rfl

-- =================================================================== results

namespace EntityBinding

/-- The statements for an entity of a bound type that can be read. Whatever is
listed of the columns with some property are just these columns, each of them
once, in the order of their declaration. An insert writes the columns that are
not generated and asks for those that are; an update writes the columns
outside of the identity, if there are some, and compares the identity, as
finds and deletes do; a select lists all columns. Each question mark has the
value of its column, and there are no others. A find is sent with as many
values as it has question marks, or not at all. -/
theorem statements_aligned {schema : Schema} {typeName : String}
    {b : EntityBinding} (hb : ofType schema typeName = .ok b) {e : Entity}
    (hfields : e.fields.length = b.columns.length)
    {cells : List (String × Value)} (hcells : b.values e = .ok cells) :
    let written := b.namesWhere fun c => !c.generated
    let changed := b.namesWhere fun c => !c.identity
    let key := b.namesWhere (·.identity)
    (cells.map Prod.fst = b.columnNames
      ∧ ∀ p : ColumnBinding → Bool, (b.namesWhere p).Sublist b.columnNames
        ∧ ∀ c ∈ b.columns,
          (b.namesWhere p).count c.name = if p c then 1 else 0)
    ∧ (∃ st, b.insertStatement e = .ok st
      ∧ Aligned (.insert b.table written) cells st.sql st.params
      ∧ st.keys = b.namesWhere (·.generated))
    ∧ (changed = [] → b.updateStatement e
      = .error (.mapping (.nothingToUpdate b.table)))
    ∧ (changed ≠ [] → ∃ st, b.updateStatement e = .ok st
      ∧ Aligned (.update b.table changed key) cells st.sql st.params)
    ∧ (∃ st, b.deleteStatement e = .ok st
      ∧ Aligned (.delete b.table key) cells st.sql st.params)
    ∧ Aligned (.select b.table b.columnNames) cells b.selectStatement []
    ∧ (∃ id, b.identityValues e = .ok id
      ∧ Aligned (.find b.table b.columnNames key) cells b.findStatement id)
    ∧ ∀ id : List Value,
      (id.length ≠ key.length → ∀ t s, Action.find schema t typeName id s
        = .error (.mapping (.lookupWidth b.table id.length key)) s)
      ∧ (id.length = key.length → ∀ st,
        (Params.empty.bindAll id).resolve b.findStatement = .ok st →
        st = ⟨b.findStatement, id⟩) := by
  obtain ⟨vs, hvs, rfl⟩ := exists_of_values hcells
  have hnodup := nodup_columnNames hb
  have hlength := length_of_readAll hfields hvs
  refine ⟨⟨?_, fun p => ⟨b.sublist_namesWhere p,
      fun c hc => count_namesWhere hnodup p hc⟩⟩,
    insertStatement_aligned hnodup hfields hvs, updateStatement_of_nothing,
    updateStatement_aligned hnodup hfields hvs,
    deleteStatement_aligned hnodup hfields hvs,
    .of b.selectStatement_eq rfl,
    findStatement_aligned hnodup hfields hvs,
    fun id => ⟨fun hwidth t s => Action.find_of_width hb hwidth t s,
      fun hwidth st hst => eq_of_resolve_bindAll ?_ hst⟩⟩
  · -- the cells are those of the columns, in order
    exact List.map_fst_zip (by rw [columnNames, List.length_map, hlength])
  · -- a find of no values at all would be one without an identity
    rintro rfl
    exact namesWhere_identity_ne_nil hb (List.length_eq_zero_iff.mp hwidth.symm)

/-- Visits, with the number that the database gives them in the middle. -/
def visits : EntityBinding where
  descriptor := .ofColumns "Visit" "visits"
    [.plain "day" (.required .text),
     (ColumnBinding.plain "id" (.optional .int64)).asGenerated,
     .relation "guest_id" "guest" "Customer" "guest_"]
  table := "visits"

/-- A visit of a customer. -/
def visit : Entity where
  type := "Visit"
  fields := [.plain (.stored (.text "Monday")), .plain (.stored (.int64 3)),
    .relation (some ⟨.int64 7, 0⟩)]
  counters := []

/-- The number stands behind what is written when a visit is updated, and is
left out when it is inserted. -/
theorem statements_aligned_visit :
    (∃ st, visits.insertStatement visit = .ok st
      ∧ placeholders st.sql = st.params.length
      ∧ st = ⟨"INSERT INTO visits (day, guest_id) VALUES (?, ?)",
        [.text "Monday", .int64 7], ["id"]⟩)
    ∧ ∃ st, visits.updateStatement visit = .ok st
      ∧ placeholders st.sql = st.params.length
      ∧ st = ⟨"UPDATE visits SET day = ?, guest_id = ? WHERE id = ?",
        [.text "Monday", .int64 7, .int64 3]⟩ := by
  have hb : ofType [customers.descriptor, visits.descriptor] "Visit"
      = .ok visits := rfl
  obtain ⟨-, ⟨insert, hinsert, haligned, -⟩, -, hupdate, -⟩ :=
    statements_aligned hb (e := visit) rfl rfl
  obtain ⟨update, hupdate, haligned'⟩ := hupdate (by decide +kernel)
  cases hinsert
  cases hupdate
  exact ⟨⟨_, rfl, haligned.marks (by decide), by decide +kernel⟩,
    _, rfl, haligned'.marks (by decide), by decide +kernel⟩

end EntityBinding

end DataAccess
