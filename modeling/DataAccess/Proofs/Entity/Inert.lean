/-
Rows that leave no trace. Every look-up in a cache is counted, as found or as
missed, and no count goes down. So a load that leaves the cache as it was has
looked nothing up, and then all relations of its row were null
(`counted_load`). From such a row the load does nothing but fill the entity, in
every session alike (`exists_load_eq`).

What a step counts a run counts: if rows were mapped one after the other and the
cache does not show it, then each of them was inert by itself
(`Discerns.counted_mapRows`).
-/
import DataAccess.Proofs.Entity.Joined
import DataAccess.Proofs.Entity.Stubs

namespace DataAccess

open DataAccess.Action

variable {α : Type}

-- =============================================================== the counts

/-- How often entities were looked up in the cache of a transaction. -/
def Session.lookUps (s : Session) (t : TransactionId) : Nat :=
  (s.cacheOf t).hits + (s.cacheOf t).misses

/-- From one session to a later one no look-up is forgotten, and if there is
none besides, something holds. -/
structure Session.Counted (t : TransactionId) (chain : ChainId)
    (s s' : Session) (p : Prop) : Prop where
  onChain : s'.holdings.OnChain t chain
  le : s.lookUps t ≤ s'.lookUps t
  quiet : s'.lookUps t = s.lookUps t → p

namespace Session

variable {s s' s'' : Session} {t : TransactionId} {chain : ChainId}
  {p q : Prop}

theorem counted_refl (ht : s.holdings.OnChain t chain) (hp : p) :
    Counted t chain s s p :=
  ⟨ht, Nat.le_refl _, fun _ => hp⟩

/-- Counts go on, and if none went up both things hold. -/
theorem Counted.trans (h : Counted t chain s s' p)
    (h' : Counted t chain s' s'' q) : Counted t chain s s'' (p ∧ q) := by
  have hle := h.le
  have hle' := h'.le
  refine ⟨h'.onChain, Nat.le_trans hle hle', fun heq => ?_⟩
  exact ⟨h.quiet (by omega), h'.quiet (by omega)⟩

/-- What holds if no look-up was counted may be weakened. -/
theorem Counted.imp (h : Counted t chain s s' p) (hpq : p → q) :
    Counted t chain s s' q :=
  ⟨h.onChain, h.le, fun heq => hpq (h.quiet heq)⟩

/-- A look-up is counted once. -/
theorem lookUps_lookedUp (ht : s.holdings.OnChain t chain) (key : CacheKey) :
    (lookedUp s t key).lookUps t = s.lookUps t + 1 := by
  unfold lookUps
  rw [cacheOf_lookedUp ht]
  unfold IdentityCache.lookUp
  cases (s.cacheOf t).find? key with
  | none => exact (Nat.add_assoc ..).symm
  | some entry => exact Nat.add_right_comm ..

/-- A look-up shows. -/
theorem counted_lookedUp (ht : s.holdings.OnChain t chain) (key : CacheKey) :
    Counted t chain s (lookedUp s t key) False := by
  have hmore := lookUps_lookedUp ht key
  refine ⟨onChain_lookedUp ht key, ?_, fun heq => ?_⟩
  · omega
  · omega

/-- What is put is not looked up. -/
theorem counted_put (ht : s.holdings.OnChain t chain) (key : CacheKey)
    (i : InstanceId) (loaded : Bool) :
    Counted t chain s (s.modifyCache t (·.put key i loaded)) True := by
  have hsame : (s.modifyCache t (·.put key i loaded)).lookUps t
      = s.lookUps t := by
    unfold lookUps
    rw [cacheOf_modifyCache ht]
    rfl
  refine ⟨?_, Nat.le_of_eq hsame.symm, fun _ => trivial⟩
  rw [holdings_modifyCache ht]
  exact ht.changed

/-- Sharing an instance looks nothing up. -/
theorem counted_share (ht : s.holdings.OnChain t chain) (e : Entity) :
    Counted t chain s { s with instances := s.instances ++ [e] } True :=
  ⟨⟨ht.place, ht.lt⟩, Nat.le_refl _, fun _ => trivial⟩

end Session

-- ================================================================== a load

/-- No relation of the type has a key in a row. -/
def EntityBinding.Unrelated (b : EntityBinding) (row : Row) : Prop :=
  ∀ c ∈ b.columns, c.isRelation = true → b.lookup row c.name = .ok .null

/-- A load from a row neither looks at a cache nor fails. -/
structure EntityBinding.Inert (schema : Schema) (b : EntityBinding)
    (row : Row) : Prop where
  unrelated : b.Unrelated row
  loads : ∃ e, ∀ t s, (load schema t b row).answer s = .ok e

variable {schema : Schema} {t : TransactionId} {chain : ChainId}
  {b : EntityBinding} {row : Row}

theorem Action.ofExcept_eq_ok_iff {result : Except Error α} {x : α}
    {s s' : Session} :
    Action.ofExcept result s = .ok x s' ↔ result = .ok x ∧ s' = s := by
  rw [EStateM.apply_eq_ok_iff, answer_ofExcept, after_ofExcept,
    eq_comm (a := s)]

/-- A key is looked up unless it is null. -/
theorem Action.counted_loadReference {target columnPrefix : String}
    {key : Value} {s s' : Session} {reference : Option Reference}
    (ht : s.holdings.OnChain t chain)
    (h : loadReference schema t target key columnPrefix row s
      = .ok reference s') :
    Session.Counted t chain s s' (key = .null) := by
  unfold loadReference at h
  cases hidentity : IdentityKey.ofValues? [key] with
  | none =>
      rw [hidentity] at h
      cases h
      exact Session.counted_refl ht (IdentityKey.eq_null_of_ofValues? hidentity)
  | some identity =>
      rw [hidentity] at h
      dsimp only at h
      rw [EStateM.bind_of_eq_ok (cached_eq t ⟨target, identity⟩ s)] at h
      have hcounted := Session.counted_lookedUp ht ⟨target, identity⟩
      cases hfound : (s.cacheOf t).find? ⟨target, identity⟩ with
      | some entry =>
          rw [hfound] at h
          cases h
          exact hcounted.imp False.elim
      | none =>
          rw [hfound] at h
          obtain ⟨b, _, hb, h⟩ := EStateM.bind_eq_ok_iff.mp h
          obtain ⟨-, rfl⟩ := ofExcept_eq_ok_iff.mp hb
          obtain ⟨e, _, he, h⟩ := EStateM.bind_eq_ok_iff.mp h
          obtain ⟨-, rfl⟩ := ofExcept_eq_ok_iff.mp he
          cases h
          have hshared := Session.counted_share hcounted.onChain e
          have hput := Session.counted_put hshared.onChain ⟨target, identity⟩
            (lookedUp s t ⟨target, identity⟩).instances.length false
          exact (hcounted.trans (hshared.trans hput)).imp fun h => h.1.elim

namespace EntityAction

open EntityBinding

variable {w w' : Workbench} {c : ColumnBinding} {index : Nat}

/-- An edit leaves the session alone. -/
theorem session_of_ofEdit {edit : Edit α} {x : α}
    (h : ofEdit edit w = .ok x w') : w'.session = w.session := by
  have hafter := after_ofEdit edit w
  rw [EStateM.after_of_eq_ok h] at hafter
  rw [hafter]

/-- A relation that is set was looked up, unless it is null. -/
theorem counted_injectRelation {target columnPrefix : String} {v : Value}
    (ht : w.session.holdings.OnChain t chain)
    (h : injectRelation schema t b c index target columnPrefix v row w
      = .ok () w') :
    Session.Counted t chain w.session w'.session (v = .null) := by
  obtain ⟨reference, w₁, hload, hset⟩ := EStateM.bind_eq_ok_iff.mp h
  rw [session_of_ofEdit hset]
  unfold ofAction at hload
  split at hload
  · next hloaded =>
    cases hload
    exact counted_loadReference ht (Action.eq_ok_of_mapError hloaded)
  · cases hload

/-- A column that is set was looked up, unless it is plain or null. -/
theorem counted_injectColumn (ht : w.session.holdings.OnChain t chain)
    (h : injectColumn schema t b row c index w = .ok () w') :
    Session.Counted t chain w.session w'.session
      (c.isRelation = true → b.lookup row c.name = .ok .null) := by
  obtain ⟨v, w₁, hv, hset⟩ := EStateM.bind_eq_ok_iff.mp h
  obtain ⟨hfound, rfl⟩ := ofExcept_eq_ok_iff.mp hv
  unfold ColumnBinding.isRelation
  cases haccess : c.access with
  | plain type =>
      rw [haccess] at hset
      rw [session_of_ofEdit hset]
      exact Session.counted_refl ht nofun
  | relation target columnPrefix =>
      rw [haccess] at hset
      refine (counted_injectRelation ht hset).imp ?_
      rintro rfl -
      exact hfound

/-- If nothing was looked up, all relations among the columns were null. -/
theorem counted_injectColumns {columns : List (ColumnBinding × Nat)}
    (ht : w.session.holdings.OnChain t chain)
    (h : injectColumns schema t b row columns w = .ok () w') :
    Session.Counted t chain w.session w'.session
      (∀ p ∈ columns, p.1.isRelation = true →
        b.lookup row p.1.name = .ok .null) := by
  induction columns generalizing w with
  | nil =>
      cases h
      exact Session.counted_refl ht (List.forall_mem_nil _)
  | cons p columns ih =>
      obtain ⟨_, w₁, hfirst, hrest⟩ := EStateM.bind_eq_ok_iff.mp h
      have hcounted := counted_injectColumn ht hfirst
      exact (hcounted.trans (ih hcounted.onChain hrest)).imp
        fun h => List.forall_mem_cons.mpr h

/-- Where no relation has a key, columns are set by an edit. -/
theorem exists_edit_of_unrelated (schema : Schema)
    {columns : List (ColumnBinding × Nat)}
    (h : ∀ p ∈ columns, p.1.isRelation = true →
      b.lookup row p.1.name = .ok .null) :
    ∃ edit, ∀ t, injectColumns schema t b row columns = ofEdit edit := by
  induction columns with
  | nil => exact ⟨pure (), fun _ => rfl⟩
  | cons p columns ih =>
      obtain ⟨c, index⟩ := p
      obtain ⟨hc, hcolumns⟩ := List.forall_mem_cons.mp h
      obtain ⟨rest, hrest⟩ := ih hcolumns
      obtain ⟨first, hfirst⟩ : ∃ edit, ∀ t,
          injectColumn schema t b row c index = ofEdit edit := by
        cases haccess : c.access with
        | plain type =>
            cases hfound : b.lookup row c.name with
            | ok v => exact ⟨_, fun _ => injectColumn_of_plain haccess hfound⟩
            | error e =>
                refine ⟨throw e, fun t => ?_⟩
                funext w
                unfold injectColumn
                rw [hfound]
                rfl
        | relation target columnPrefix =>
            have hnull := hc (by rw [ColumnBinding.isRelation, haccess])
            refine ⟨modify (·.setField index (.relation none)), fun t => ?_⟩
            funext w
            unfold injectColumn
            rw [hnull, haccess]
            rfl
      refine ⟨first >>= fun _ => rest, fun t => ?_⟩
      unfold injectColumns
      rw [hfirst, hrest, ofEdit_bind]

end EntityAction

namespace Action

open EntityAction

/-- A load that leaves no look-up behind was from a row without relations. -/
theorem counted_load {s s' : Session} {e : Entity}
    (ht : s.holdings.OnChain t chain)
    (h : load schema t b row s = .ok e s') :
    Session.Counted t chain s s' (b.Unrelated row) := by
  unfold load build at h
  split at h
  · next w hrun =>
    cases h
    obtain ⟨_, w₁, hinject, hhook⟩ := EStateM.bind_eq_ok_iff.mp hrun
    rw [session_of_ofEdit hhook]
    refine (counted_injectColumns (w := ⟨b.initial, s⟩) ht hinject).imp
      fun hnull c hc => ?_
    obtain ⟨i, hi⟩ := List.getElem?_of_mem hc
    exact hnull (c, i) (List.mem_zipIdx_iff_getElem?.mpr hi)
  · cases h

/-- A load from a row without relations is the same for every session. -/
theorem exists_load_eq (schema : Schema) (h : b.Unrelated row) :
    ∃ result, ∀ t, load schema t b row = ofExcept result := by
  have hcolumns : ∀ p ∈ b.columns.zipIdx, p.1.isRelation = true →
      b.lookup row p.1.name = .ok .null :=
    fun p hp => h p.1 (List.fst_mem_of_mem_zipIdx hp)
  obtain ⟨edit, hedit⟩ := exists_edit_of_unrelated schema hcolumns
  refine ⟨((edit >>= fun _ => b.runPostLoad).answer b.initial).map fun _ =>
    (edit >>= fun _ => b.runPostLoad).after b.initial, fun t => ?_⟩
  funext s
  unfold load inject build
  rw [hedit, ← ofEdit_bind]
  unfold ofEdit EStateM.answer EStateM.after
  dsimp only
  cases (edit >>= fun _ => b.runPostLoad) b.initial <;> rfl

/-- What was loaded from a row without relations is loaded from it always. -/
theorem inert_of_load {s s' : Session} {e : Entity} (h : b.Unrelated row)
    (hload : load schema t b row s = .ok e s') : b.Inert schema row := by
  obtain ⟨result, hresult⟩ := exists_load_eq schema h
  rw [hresult] at hload
  obtain ⟨rfl, -⟩ := ofExcept_eq_ok_iff.mp hload
  exact ⟨h, e, fun t s => by rw [hresult t, answer_ofExcept]⟩

/-- A load from an inert row leaves the session as it is. -/
theorem exists_load_of_inert (h : b.Inert schema row) :
    ∃ e, ∀ t s, load schema t b row s = .ok e s := by
  obtain ⟨e, he⟩ := h.loads
  obtain ⟨result, hresult⟩ := exists_load_eq schema h.unrelated
  refine ⟨e, fun t s => EStateM.apply_eq_ok_iff.mpr ⟨he t s, ?_⟩⟩
  rw [hresult t, after_ofExcept]

-- ================================================================ the rows

/-- A row, given as values, mapped. -/
def mapRow (resolver : ColumnResolver) (f : Row → Action α)
    (values : List Value) : Action α :=
  ofExcept (Row.ofValues values resolver) >>= f

/-- Rows are mapped one after the other. -/
theorem mapRows_cons (resolver : ColumnResolver) (f : Row → Action α)
    (values : List Value) (rows : List (List Value)) :
    mapRows resolver f (values :: rows)
      = mapRow resolver f values >>= fun x =>
        mapRows resolver f rows >>= fun xs => pure (x :: xs) := by
  unfold mapRow
  rw [bind_assoc]
  rfl

variable {f : Row → Action α} {resolver : ColumnResolver}
  {values : List Value} {rows : List (List Value)} {s s' s₁ : Session}

/-- A row that fails ends it. -/
theorem mapRows_of_failed {e : Error}
    (h : mapRow resolver f values s = .error e s₁)
    (rows : List (List Value)) :
    mapRows resolver f (values :: rows) s = .error e s₁ := by
  rw [mapRows_cons]
  exact EStateM.bind_of_eq_error h _

/-- What was made of a row comes first. -/
theorem mapRows_of_mapped {x : α} (h : mapRow resolver f values s = .ok x s₁)
    (rows : List (List Value)) :
    (mapRows resolver f (values :: rows)).answer s
        = ((mapRows resolver f rows).answer s₁).map (x :: ·)
      ∧ (mapRows resolver f (values :: rows)).after s
        = (mapRows resolver f rows).after s₁ := by
  have hfirst := EStateM.answer_of_eq_ok h
  rw [mapRows_cons, EStateM.answer_bind_ok hfirst, EStateM.after_bind_ok hfirst,
    EStateM.after_of_eq_ok h, EStateM.answer_bind, EStateM.after_bind]
  cases (mapRows resolver f rows).answer s₁ <;> exact ⟨rfl, rfl⟩

/-- Which rows leave no trace. An inert one is mapped and that is all; any
other one fails, or the cache shows it. -/
structure Discerns (t : TransactionId) (map : List Value → Action α)
    (inert : List Value → Prop) : Prop where
  exists_map : ∀ values, inert values → ∃ x, ∀ s, map values s = .ok x s
  counted : ∀ {chain values x s s'}, s.holdings.OnChain t chain →
    map values s = .ok x s' → Session.Counted t chain s s' (inert values)

variable {inert : List Value → Prop} {xs : List α}

/-- Of inert rows the same is made in every session, which stays as it is. -/
theorem Discerns.exists_mapRows (h : Discerns t (mapRow resolver f) inert)
    (hrows : ∀ values ∈ rows, inert values) :
    ∃ xs, ∀ s, mapRows resolver f rows s = .ok xs s := by
  induction rows with
  | nil => exact ⟨[], fun _ => rfl⟩
  | cons values rows ih =>
      obtain ⟨hvalues, hrows⟩ := List.forall_mem_cons.mp hrows
      obtain ⟨x, hx⟩ := h.exists_map values hvalues
      obtain ⟨xs, hxs⟩ := ih hrows
      refine ⟨x :: xs, fun s => ?_⟩
      rw [mapRows_cons, EStateM.bind_of_eq_ok (hx s),
        EStateM.bind_of_eq_ok (hxs s)]
      rfl

/-- Where the cache shows nothing, all rows that were mapped are inert. -/
theorem Discerns.counted_mapRows (h : Discerns t (mapRow resolver f) inert)
    (ht : s.holdings.OnChain t chain)
    (hrun : mapRows resolver f rows s = .ok xs s') :
    Session.Counted t chain s s' (∀ values ∈ rows, inert values) := by
  induction rows generalizing s xs with
  | nil =>
      cases hrun
      exact Session.counted_refl ht (List.forall_mem_nil _)
  | cons values rows ih =>
      rw [mapRows_cons] at hrun
      obtain ⟨x, s₁, hfirst, hrun⟩ := EStateM.bind_eq_ok_iff.mp hrun
      obtain ⟨xs, s₂, hrest, hrun⟩ := EStateM.bind_eq_ok_iff.mp hrun
      cases hrun
      have hcounted := h.counted ht hfirst
      exact (hcounted.trans (ih hcounted.onChain hrest)).imp
        fun h => List.forall_mem_cons.mpr h

/-- A row as it is fetched only has to have the right number of values. -/
theorem discerns_pure (t : TransactionId) (columns : List ColumnMeta) :
    Discerns t (mapRow (.ofColumns columns) pure)
      fun values => values.length = columns.length := by
  constructor
  · intro values hvalues
    have hwidth := ColumnResolver.width_ofColumns columns
    refine ⟨⟨values, .ofColumns columns, hvalues.trans hwidth.symm⟩,
      fun s => EStateM.bind_of_eq_ok (ofExcept_of_eq_ok ?_ s) _⟩
    exact Row.ofValues_eq_ok_iff.mpr ⟨rfl, rfl⟩
  · intro chain values row s s' ht hrun
    obtain ⟨row, _, hmade, hpure⟩ := EStateM.bind_eq_ok_iff.mp hrun
    obtain ⟨hrow, rfl⟩ := ofExcept_eq_ok_iff.mp hmade
    cases hpure
    obtain ⟨rfl, hresolver⟩ := Row.ofValues_eq_ok_iff.mp hrow
    exact Session.counted_refl ht (Row.length_values hresolver)

/-- Values are a row of a result that is inert to a type. -/
def InertFor (schema : Schema) (typeName : String) (columns : List ColumnMeta)
    (values : List Value) : Prop :=
  ∃ b row, EntityBinding.ofType schema typeName = .ok b
    ∧ Row.ofValues values (.ofColumns columns) = .ok row ∧ b.Inert schema row

/-- For an entity, a row has to be inert to its type. -/
theorem discerns_load {schema : Schema} {typeName : String}
    {b : EntityBinding} (hb : EntityBinding.ofType schema typeName = .ok b)
    (t : TransactionId) (columns : List ColumnMeta) :
    Discerns t (mapRow (.ofColumns columns) (load schema t b))
      (InertFor schema typeName columns) := by
  constructor
  · rintro values ⟨b', row, hb', hrow, hinert⟩
    cases hb.symm.trans hb'
    obtain ⟨e, he⟩ := exists_load_of_inert hinert
    exact ⟨e, fun s =>
      (EStateM.bind_of_eq_ok (ofExcept_of_eq_ok hrow s) _).trans (he t s)⟩
  · intro chain values e s s' ht hrun
    obtain ⟨row, _, hmade, hload⟩ := EStateM.bind_eq_ok_iff.mp hrun
    obtain ⟨hrow, rfl⟩ := ofExcept_eq_ok_iff.mp hmade
    exact (counted_load ht hload).imp fun hunrelated =>
      ⟨b, row, hb, hrow, inert_of_load hunrelated hload⟩

end Action

end DataAccess
