/-
Setting the identity of an entity. There has to be a value for each column of
the identity; then the values are set one after the other, and each column
holds what its value decodes to. A value that its column cannot take ends this,
and what was set before stays set (`setIdentity_outcome`). So an identity of
several columns can be left half set, and is then that of another entity
(`not_identity_kept`); of one column it cannot.

# The argument

No field is set twice, so what a column took it holds to the end
(`Assigned.cons`). An identity is read column by column
(`identityValues_eq_ok_iff`), and it is what it was exactly if the columns that
were set already read as what they took (`Assigned.identityValues_iff`).
-/
import DataAccess.Catalog.Entities
import DataAccess.Proofs.Entity.Stubs

namespace DataAccess.EntityBinding

variable {b : EntityBinding} {e e' : Entity} {c : ColumnBinding} {index : Nat}
  {v w : Value} {d : Datum} {vs ids : List Value}
  {columns : List (ColumnBinding × Nat)}

-- ================================================================= assigning

/-- Columns took values: each of them holds what its value decodes to, and
nothing else of the entity is changed. -/
structure Assigned (columns : List (ColumnBinding × Nat)) (vs : List Value)
    (e e' : Entity) : Prop where
  type : e'.type = e.type
  counters : e'.counters = e.counters
  sets : e.Sets e' (columns.map Prod.snd)
  holds : List.Forall₂ (fun p v => e'.Holds (Decodes v) p.1 p.2) columns vs

/-- A column cannot take the value in its place, and this is told as an
error. -/
inductive Refuses (b : EntityBinding) (columns : List (ColumnBinding × Nat))
    (vs : List Value) (k : Nat) : Error → Prop where
  | undecoded {p : ColumnBinding × Nat} {type : FieldType} {v : Value}
      {fault : Error} (hp : columns[k]? = some p) (hv : vs[k]? = some v)
      (haccess : p.1.access = .plain type)
      (hdecode : type.decode v = .error fault) :
      Refuses b columns vs k (b.columnError p.1.name fault)

theorem assigned_nil (e : Entity) : Assigned [] [] e e :=
  ⟨rfl, rfl, e.sets_refl [], .nil⟩

/-- What the first column took it holds to the end, as no later one sets its
field. -/
theorem Assigned.cons (hindex : index < e.fields.length)
    (hfresh : index ∉ columns.map Prod.snd) (hd : Decodes v c d)
    (h : Assigned columns vs (e.setField index (.plain d)) e') :
    Assigned ((c, index) :: columns) (v :: vs) e e' := by
  have hsets := e.sets_setField index (.plain d)
  have hholds : (e.setField index (.plain d)).Holds (Decodes v) c index :=
    ⟨d, List.getElem?_set_self hindex, hd⟩
  exact ⟨h.type, h.counters, hsets.trans h.sets,
    .cons (h.sets.holds hfresh hholds) h.holds⟩

/-- A value that does not fit is an error about the column, which is left. -/
theorem setColumn_of_refused {type : FieldType} {fault : Error}
    (haccess : c.access = .plain type) (hv : type.decode v = .error fault)
    (index : Nat) (e : Entity) :
    b.setColumn c index v e = .error (b.columnError c.name fault) e := by
  unfold setColumn
  rw [haccess]
  dsimp only
  rw [hv]
  rfl

/-- All columns take their values, or those in front of one that cannot do. -/
theorem setColumns_cases (hlength : vs.length = columns.length)
    (hplain : ∀ p ∈ columns, ∃ type, p.1.access = .plain type)
    (hnodup : (columns.map Prod.snd).Nodup)
    (hlt : ∀ p ∈ columns, p.2 < e.fields.length) :
    (∃ e', b.setColumns columns vs e = .ok () e' ∧ Assigned columns vs e e')
    ∨ ∃ k err e', b.Refuses columns vs k err
      ∧ b.setColumns columns vs e = .error err e'
      ∧ Assigned (columns.take k) (vs.take k) e e' := by
  induction columns generalizing vs e with
  | nil =>
      rw [List.eq_nil_of_length_eq_zero hlength]
      exact Or.inl ⟨e, rfl, assigned_nil e⟩
  | cons p columns ih =>
      obtain ⟨c, index⟩ := p
      obtain ⟨v, vs, rfl⟩ := List.exists_cons_of_length_eq_add_one hlength
      obtain ⟨⟨type, haccess⟩, hplain⟩ := List.forall_mem_cons.mp hplain
      obtain ⟨hindex, hlt⟩ := List.forall_mem_cons.mp hlt
      rw [List.map_cons, List.nodup_cons] at hnodup
      obtain ⟨hfresh, hnodup⟩ := hnodup
      cases hv : type.decode v with
      | error fault =>
          have hfirst := setColumn_of_refused (b := b) haccess hv index e
          exact Or.inr ⟨0, _, e, .undecoded rfl rfl haccess hv,
            EStateM.bind_of_eq_error hfirst _, assigned_nil e⟩
      | ok d =>
          have hfirst := setColumn_of_decode (b := b) haccess hv index e
          have hsets := e.sets_setField index (.plain d)
          have hdecodes : Decodes v c d := ⟨type, haccess, hv⟩
          rcases ih (Nat.succ.inj hlength) hplain hnodup
              (fun p hp => hsets.length ▸ hlt p hp) with
            ⟨e', hrest, h⟩ | ⟨k, err, e', hrefuses, hrest, h⟩
          · exact Or.inl ⟨e', (EStateM.bind_of_eq_ok hfirst _).trans hrest,
              h.cons hindex hfresh hdecodes⟩
          · refine Or.inr ⟨k + 1, err, e', ?_,
              (EStateM.bind_of_eq_ok hfirst _).trans hrest,
              h.cons hindex (fun hmem => hfresh ?_) hdecodes⟩
            · cases hrefuses with
              | undecoded hp hv haccess hdecode =>
                  exact .undecoded hp hv haccess hdecode
            · exact ((List.take_sublist k columns).map Prod.snd).subset hmem

-- ============================================================== the identity

/-- A column shows one value. -/
theorem Shows.unique {w' : Value} (h : b.Shows e c index w)
    (h' : b.Shows e c index w') : w = w' := by
  obtain ⟨f, hf, hread⟩ := h
  obtain ⟨f', hf', hread'⟩ := h'
  cases hf.symm.trans hf'
  exact Except.ok.inj (hread.symm.trans hread')

/-- A column reads as what it holds is stored as. -/
theorem shows_of_holds (h : e.Holds (Decodes v) c index) :
    ∃ d, Decodes v c d ∧ ∀ w, b.Shows e c index w ↔ d.StoredAs w := by
  obtain ⟨d, hd, hdecodes⟩ := h
  refine ⟨d, hdecodes, fun w => ?_⟩
  unfold Shows
  simp [hd, read_plain_eq_ok_iff]

/-- The columns of the identity with their fields, and with their
positions. -/
theorem identityPositions_bound (hlength : e.fields.length = b.columns.length) :
    List.Forall₂ (fun p q => q.1 = p.1 ∧ e.fields[p.2]? = some q.2)
      b.identityPositions ((b.bound e).filter fun (c, _) => c.identity) := by
  refine List.rel_filter ?_ (List.forall₂_iff_get.mpr ⟨?_, ?_⟩)
  · rintro ⟨c, i⟩ ⟨c', f⟩ ⟨rfl, -⟩
    exact Iff.rfl
  · simp [bound, hlength]
  · intro i hi hi'
    simp [bound]

/-- The identity is what its columns read as. -/
theorem identityValues_eq_ok_iff
    (hlength : e.fields.length = b.columns.length) :
    b.identityValues e = .ok ids
      ↔ List.Forall₂ (fun p v => b.Shows e p.1 p.2 v) b.identityPositions
        ids := by
  have hbound := identityPositions_bound hlength
  unfold identityValues
  rw [readAll_eq_ok_iff]
  constructor
  · intro h
    refine List.forall₂_iff_get.mpr
      ⟨hbound.length_eq.trans h.length_eq, fun i hi hi' => ?_⟩
    have hi'' := hbound.length_eq ▸ hi
    obtain ⟨hc, hf⟩ := hbound.get hi hi''
    exact ⟨_, hf, hc ▸ h.get hi'' hi'⟩
  · intro h
    refine List.forall₂_iff_get.mpr
      ⟨hbound.length_eq.symm.trans h.length_eq, fun i hi hi' => ?_⟩
    have hi'' := hbound.length_eq.symm ▸ hi
    obtain ⟨hc, hf⟩ := hbound.get hi'' hi
    obtain ⟨f, hf', hread⟩ := h.get hi'' hi'
    cases hf.symm.trans hf'
    exact hc ▸ hread

/-- A value is decoded in one way. -/
theorem Decodes.unique {d' : Datum} (h : Decodes v c d)
    (h' : Decodes v c d') : d = d' := by
  obtain ⟨type, haccess, hd⟩ := h
  obtain ⟨type', haccess', hd'⟩ := h'
  cases haccess.symm.trans haccess'
  exact Except.ok.inj (hd.symm.trans hd')

section

variable {k : Nat}

/-- A column that took a value reads as what this decodes to is stored as. -/
theorem Assigned.shows
    (h : Assigned (b.identityPositions.take k) (vs.take k) e e') {j : Nat}
    (hj : j < k) {p : ColumnBinding × Nat}
    (hp : b.identityPositions[j]? = some p) (hv : vs[j]? = some v) :
    ∃ d, Decodes v p.1 d ∧ ∀ w, b.Shows e' p.1 p.2 w ↔ d.StoredAs w := by
  rw [← List.getElem?_take_of_lt hj] at hp hv
  obtain ⟨v', hv', hholds⟩ := exists_of_forall₂ h.holds hp
  cases hv.symm.trans hv'
  exact shows_of_holds hholds

/-- A column that took no value reads as it did. -/
theorem Assigned.shows_iff
    (h : Assigned (b.identityPositions.take k) (vs.take k) e e') {j : Nat}
    (hj : k ≤ j) {p : ColumnBinding × Nat}
    (hp : b.identityPositions[j]? = some p) :
    b.Shows e' p.1 p.2 w ↔ b.Shows e p.1 p.2 w := by
  have hmem : p ∈ b.identityPositions.drop k := by
    refine List.mem_of_getElem? (i := j - k) ?_
    rw [List.getElem?_drop, Nat.add_sub_cancel' hj]
    exact hp
  have hothers : p.2 ∉ (b.identityPositions.take k).map Prod.snd := by
    intro htaken
    rw [List.map_take] at htaken
    refine List.disjoint_take_drop (b.nodup_positions _) (Nat.le_refl k)
      htaken ?_
    rw [← List.map_drop]
    exact List.mem_map_of_mem hmem
  unfold Shows
  rw [h.sets.others p.2 hothers]

/-- An identity is what it was exactly if each column that took a value read
already as what this decodes to is stored as. -/
theorem Assigned.identityValues_iff
    (hlength : e.fields.length = b.columns.length)
    (hvs : vs.length = b.identityPositions.length)
    (h : Assigned (b.identityPositions.take k) (vs.take k) e e')
    (hids : b.identityValues e = .ok ids) :
    b.identityValues e' = .ok ids
      ↔ ∀ j < k, ∀ p v, b.identityPositions[j]? = some p → vs[j]? = some v →
        ∃ d w, Decodes v p.1 d ∧ d.StoredAs w ∧ b.Shows e p.1 p.2 w := by
  rw [identityValues_eq_ok_iff hlength] at hids
  rw [identityValues_eq_ok_iff (h.sets.length.trans hlength)]
  constructor
  · intro hids' j hj p v hp hv
    obtain ⟨id, hid, hshows⟩ := exists_of_forall₂ hids hp
    obtain ⟨id', hid', hshows'⟩ := exists_of_forall₂ hids' hp
    cases hid.symm.trans hid'
    obtain ⟨d, hd, hreads⟩ := h.shows hj hp hv
    exact ⟨d, id, hd, (hreads id).mp hshows', hshows⟩
  · intro hsame
    rw [forall₂_iff_getElem? hids.length_eq.symm]
    intro j p id hp hid
    obtain ⟨id', hid', hshows⟩ := exists_of_forall₂ hids hp
    cases hid.symm.trans hid'
    by_cases hj : j < k
    · have hlt := (List.getElem?_eq_some_iff.mp hp).1
      have hv := List.getElem?_eq_getElem (hvs ▸ hlt)
      obtain ⟨d, w, hd, hw, hbefore⟩ := hsame j hj p _ hp hv
      obtain ⟨d', hd', hafter⟩ := h.shows hj hp hv
      rw [hd.unique hd'] at hw
      rw [hshows.unique hbefore]
      exact (hafter w).mpr hw
    · exact (h.shows_iff (Nat.le_of_not_lt hj) hp).mpr hshows

end

-- ================================================================== the result

/-- Setting the identity of an entity comes to one of three things. There is
not a value for each column of the identity: then nothing is changed. Or each
column of it holds what the value in its place decodes to, and nothing else is
changed. Or a value cannot be taken: then this is told, the columns in front of
it hold what their values decode to, and nothing else is changed. In that case
the identity is what it was exactly if each of these columns already read as
what its value decodes to is stored as. -/
theorem setIdentity_outcome {schema : Schema} {typeName : String}
    (hb : ofType schema typeName = .ok b)
    (hlength : e.fields.length = b.columns.length) (vs : List Value) :
    let columns := b.identityPositions
    (vs.length ≠ columns.length
      ∧ b.setIdentity vs e = .error (.mapping
        (.identityWidth b.table vs.length columns.length)) e)
    ∨ (∃ e', b.setIdentity vs e = .ok () e' ∧ Assigned columns vs e e')
    ∨ ∃ k err e', b.Refuses columns vs k err
      ∧ b.setIdentity vs e = .error err e'
      ∧ Assigned (columns.take k) (vs.take k) e e'
      ∧ ∀ ids, b.identityValues e = .ok ids →
        (b.identityValues e' = .ok ids
          ↔ ∀ j < k, ∀ p v, columns[j]? = some p → vs[j]? = some v →
            ∃ d w, Decodes v p.1 d ∧ d.StoredAs w ∧ b.Shows e p.1 p.2 w) := by
  intro columns
  by_cases hwidth : vs.length = columns.length
  · -- a value for each column: they are set one by one, each in a place of its
    -- own
    have hset : b.setIdentity vs e = b.setColumns columns vs e := by
      unfold setIdentity
      exact congrFun (if_neg (not_not.mpr hwidth)) e
    have hplain : ∀ p ∈ columns, ∃ type, p.1.access = .plain type := by
      intro p hp
      obtain ⟨hc, hidentity⟩ := mem_identityPositions.mp hp
      exact access_of_identity hb (List.mem_of_getElem? hc) hidentity
    have hlt : ∀ p ∈ columns, p.2 < e.fields.length := by
      intro p hp
      obtain ⟨hc, -⟩ := mem_identityPositions.mp hp
      exact hlength ▸ (List.getElem?_eq_some_iff.mp hc).1
    rw [hset]
    rcases setColumns_cases hwidth hplain (b.nodup_positions _) hlt with
      hassigned | ⟨k, err, e', hrefuses, hrun, hassigned⟩
    · exact Or.inr (Or.inl hassigned)
    · exact Or.inr (Or.inr ⟨k, err, e', hrefuses, hrun, hassigned,
        fun ids hids => hassigned.identityValues_iff hlength hwidth hids⟩)
  · -- too few values or too many: nothing is set
    refine Or.inl ⟨hwidth, ?_⟩
    unfold setIdentity
    exact congrFun (if_pos hwidth) e

/-- Lines of orders, known by the order and by their number in it. -/
def orderLines : EntityBinding where
  descriptor := Catalog.orderLine ""
  table := "order_lines"

/-- The second line of the first order. -/
def secondLine : Entity where
  type := "OrderLine"
  fields := [.plain (.stored (.int64 1)), .plain (.stored (.text "nut")),
    .plain (.stored (.int32 2)), .plain (.stored .null)]
  counters := []

/-- The number of the line cannot be a text, and by then the order is set. -/
theorem setIdentity_outcome_secondLine :
    ofType (Catalog.schema "") "OrderLine" = .ok orderLines
      ∧ secondLine.fields.length = orderLines.columns.length
      ∧ ∃ k err e', orderLines.Refuses orderLines.identityPositions
          [.int64 7, .text "x"] k err
        ∧ orderLines.setIdentity [.int64 7, .text "x"] secondLine
          = .error err e'
        ∧ Assigned (orderLines.identityPositions.take k)
          ([.int64 7, .text "x"].take k) secondLine e' := by
  have hb : ofType (Catalog.schema "") "OrderLine" = .ok orderLines := rfl
  refine ⟨hb, rfl, ?_⟩
  rcases setIdentity_outcome (e := secondLine) hb rfl [.int64 7, .text "x"] with
    ⟨hwidth, -⟩ | ⟨e', hset, -⟩ | ⟨k, err, e', hrefuses, hset, hassigned, -⟩
  · exact absurd rfl hwidth
  · cases hset
  · exact ⟨k, err, e', hrefuses, hset, hassigned⟩

/-- This leaves it with the identity of another line. -/
theorem not_identity_kept :
    ofType (Catalog.schema "") "OrderLine" = .ok orderLines
      ∧ ∃ err e', orderLines.setIdentity [.int64 7, .text "x"] secondLine
        = .error err e'
      ∧ orderLines.identity secondLine = .ok (some ⟨[.int 1, .int 2]⟩)
      ∧ orderLines.identity e' = .ok (some ⟨[.int 7, .int 2]⟩)
      ∧ orderLines.identity e' ≠ orderLines.identity secondLine := by
  refine ⟨rfl, _, _, rfl, rfl, rfl, ?_⟩
  intro h
  cases h

end DataAccess.EntityBinding
