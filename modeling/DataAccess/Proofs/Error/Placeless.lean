/-
Failures that name no place. A statement tags what it fails with, once its
call was answered, unless the error names a place already. What the library
fails with while it decodes a value, reads a row, fills an entity or maps a
record names none: it is about data. So the tag says where it was. Only the
hook that runs after an entity is loaded may fail with anything
(`Action.failsAs_load`).

`FailsAs` says of an action that it fails, in a certain state, with nothing
but errors of a certain sort, and goes through the monad step by step.
-/
import DataAccess.Proofs.Error.Flattening
import DataAccess.Proofs.Session.Holdings

namespace DataAccess

variable {τ α β : Type} {t : TransactionId} {w : τ}

-- ================================================================ failures

/-- An action that fails in a state, if it does, with an error of a sort. -/
def FailsAs (P : Error → Prop) (a : EStateM Error τ α) (w : τ) : Prop :=
  ∀ e, a.answer w = .error e → P e

section

variable {P Q : Error → Prop}

theorem failsAs_of_answer {a : EStateM Error τ α} {x : α}
    (h : a.answer w = .ok x) : FailsAs P a w := by
  intro e he
  cases h.symm.trans he

theorem failsAs_throw {e : Error} (h : P e) :
    FailsAs P (throw e : EStateM Error τ α) w := by
  intro e' he
  cases he
  exact h

/-- An action fails as its first step does, or as what follows it. -/
theorem FailsAs.bind {a : EStateM Error τ α} {f : α → EStateM Error τ β}
    (ha : FailsAs P a w)
    (hf : ∀ x, a.answer w = .ok x → FailsAs P (f x) (a.after w)) :
    FailsAs P (a >>= f) w := by
  intro e he
  cases hx : a.answer w with
  | ok x =>
      rw [EStateM.answer_bind_ok hx] at he
      exact hf x hx e he
  | error e' =>
      rw [EStateM.answer_bind_error hx] at he
      cases he
      exact ha _ hx

/-- What an action fails with may be described more loosely. -/
theorem FailsAs.imp {a : EStateM Error τ α} (h : FailsAs P a w)
    (hPQ : ∀ e, P e → Q e) : FailsAs Q a w :=
  fun e he => hPQ e (h e he)

/-- The same of a result: it fails, if it does, with an error of a sort. -/
theorem Action.failsAs_ofExcept {r : Except Error α} {s : Session}
    (h : ∀ e, r = .error e → P e) : FailsAs P (Action.ofExcept r) s :=
  fun e he => h e ((Action.answer_ofExcept s r).symm.trans he)

end

-- ==================================================== naming no place

/-- An error that names no place. -/
def Placeless (e : Error) : Prop :=
  e.context? = none

namespace EntityBinding

variable (b : EntityBinding)

/-- An error about a column names no statement. -/
theorem placeless_columnError (column : String) (e : Error) :
    Placeless (b.columnError column e) := by
  unfold columnError
  split <;> rfl

/-- A column that is not found names no place. -/
theorem placeless_lookup {row : Row} {column : String} {e : Error}
    (h : b.lookup row column = .error e) : Placeless e := by
  unfold lookup at h
  split at h
  · cases h
  · unfold Row.value ColumnResolver.resolve at h
    cases hfound : row.resolver.lookup column <;> rw [hfound] at h <;>
      cases h <;> rfl

/-- Fields that cannot be read name no place. -/
theorem placeless_readAll {bound : List (ColumnBinding × Field)} {e : Error}
    (h : b.readAll bound = .error e) : Placeless e := by
  induction bound with
  | nil => cases h
  | cons p bound ih =>
      obtain ⟨c, f⟩ := p
      unfold readAll at h
      cases hv : b.read c f with
      | error e' =>
          rw [hv] at h
          cases h
          unfold read at hv
          split at hv
          · next datum =>
            cases hd : datum.encode <;> rw [hd] at hv <;> cases hv
            exact b.placeless_columnError _ _
          · cases hv
          · cases hv
      | ok v =>
          rw [hv] at h
          cases hvs : b.readAll bound with
          | error e' =>
              rw [hvs] at h
              cases h
              exact ih hvs
          | ok vs =>
              rw [hvs] at h
              cases h

theorem placeless_identityValues {entity : Entity} {e : Error}
    (h : b.identityValues entity = .error e) : Placeless e :=
  b.placeless_readAll h

/-- A value that does not fit a column names none. -/
theorem placeless_setColumn (c : ColumnBinding) (index : Nat) (v : Value)
    (e : Entity) : FailsAs Placeless (b.setColumn c index v) e := by
  unfold setColumn
  split
  · exact failsAs_of_answer rfl
  · split
    · exact failsAs_of_answer rfl
    · exact failsAs_throw (b.placeless_columnError _ _)

/-- So it is with several columns. -/
theorem placeless_setColumns (columns : List (ColumnBinding × Nat)) :
    ∀ vs e, FailsAs Placeless (b.setColumns columns vs) e := by
  induction columns with
  | nil => exact fun _ _ => failsAs_of_answer rfl
  | cons column columns ih =>
      intro vs e
      cases vs with
      | nil => exact failsAs_of_answer rfl
      | cons v vs =>
          exact (b.placeless_setColumn _ _ v e).bind fun _ _ => ih vs _

/-- An identity of another length names none either. -/
theorem placeless_setIdentity (vs : List Value) (e : Entity) :
    FailsAs Placeless (b.setIdentity vs) e := by
  unfold setIdentity
  dsimp only
  split
  · exact failsAs_throw rfl
  · exact b.placeless_setColumns _ vs e

end EntityBinding

theorem placeless_symbol_decode {type : SymbolType} {v : Value} {e : Error}
    (h : type.decode v = .error e) : Placeless e := by
  unfold SymbolType.decode at h
  split at h
  · split at h
    · cases h
    · cases h
      rfl
  · cases h
    rfl

/-- A value that cannot be decoded names no place. -/
theorem placeless_scalar_decode {type : ScalarType} {v : Value} {e : Error}
    (h : type.decode v = .error e) : Placeless e := by
  cases type with
  | symbol type => exact placeless_symbol_decode h
  | _ =>
      -- every other type takes the values of its own storage type
      cases v <;> simp only [ScalarType.decode, JsonType.taken] at h <;>
        (repeat' split at h) <;> cases h <;> rfl

theorem placeless_field_decode {type : FieldType} {v : Value} {e : Error}
    (h : type.decode v = .error e) : Placeless e := by
  unfold FieldType.decode at h
  split at h
  · cases h
  · exact placeless_scalar_decode h
  · cases h
  · exact placeless_scalar_decode h

namespace Row

/-- Nor does a row of the wrong width. -/
theorem placeless_ofValues {values : List Value} {resolver : ColumnResolver}
    {e : Error} (h : ofValues values resolver = .error e) : Placeless e := by
  unfold ofValues at h
  split at h
  · cases h
  · cases h
    rfl

theorem placeless_getAt {r : Row} {index : Nat} {type : FieldType} {e : Error}
    (h : r.getAt index type = .error e) : Placeless e := by
  unfold getAt at h
  split at h
  · exact placeless_field_decode h
  · cases h
    rfl

end Row

/-- A record that cannot be made names no place. -/
theorem RecordMapper.placeless_map {m : RecordMapper α} {row : Row} {e : Error}
    (h : m.map row = .error e) : Placeless e := by
  have hfailure : ∀ fault values, Placeless (failure fault values) :=
    fun _ _ => rfl
  unfold RecordMapper.map at h
  split at h
  · unfold mapValues at h
    repeat' split at h
    all_goals first
      | exact (Except.error.inj h) ▸ hfailure _ _
      | cases h
  · exact (Except.error.inj h) ▸ hfailure _ _

-- ================================================================ loading

namespace EntityAction

variable {schema : Schema}

/-- An edit fails beside the session as it fails by itself. -/
theorem failsAs_ofEdit {P : Error → Prop} {edit : Edit α} {w : Workbench}
    (h : FailsAs P edit w.entity) : FailsAs P (ofEdit edit) w :=
  fun e he => h e ((answer_ofEdit edit w).symm.trans he)

theorem failsAs_ofExcept {P : Error → Prop} {r : Except Error α}
    {w : Workbench} (h : ∀ e, r = .error e → P e) :
    FailsAs P (ofExcept r) w :=
  fun e he => h e ((answer_ofExcept r w).symm.trans he)

/-- A relation that cannot be loaded is an error about its column. -/
theorem placeless_injectColumn (b : EntityBinding) (row : Row)
    (c : ColumnBinding) (index : Nat) (w : Workbench) :
    FailsAs Placeless (injectColumn schema t b row c index) w := by
  refine (failsAs_ofExcept fun e => b.placeless_lookup).bind fun v _ => ?_
  cases c.access with
  | plain type => exact failsAs_ofEdit (b.placeless_setColumn c index v _)
  | relation target columnPrefix =>
      refine FailsAs.bind (fun e he => ?_) fun reference _ =>
        failsAs_ofEdit (failsAs_of_answer rfl)
      rw [answer_ofAction, Action.answer_mapError] at he
      generalize (Action.loadReference schema t target v columnPrefix
        row).answer _ = r at he
      cases r with
      | ok x => cases he
      | error err => exact (Except.error.inj he) ▸ b.placeless_columnError _ _

/-- What cannot be injected names no place. -/
theorem placeless_injectColumns (b : EntityBinding) (row : Row)
    (columns : List (ColumnBinding × Nat)) (w : Workbench) :
    FailsAs Placeless (injectColumns schema t b row columns) w := by
  induction columns generalizing w with
  | nil => exact failsAs_of_answer rfl
  | cons column columns ih =>
      exact (placeless_injectColumn b row column.1 column.2 w).bind
        fun _ _ => ih _

end EntityAction

/-- The hook for loaded entities fails with an error. -/
def EntityBinding.LoadRaises (b : EntityBinding) (e : Error) : Prop :=
  ∃ entity, b.runPostLoad.answer entity = .error e

/-- The hook for stored entities fails with an error. -/
def EntityBinding.StoreRaises (b : EntityBinding) (e : Error) : Prop :=
  ∃ entity, b.runPostStore.answer entity = .error e

/-- Loading a row fails with an error that names no place, or as the hook
does. -/
theorem Action.failsAs_load (schema : Schema) (b : EntityBinding) (row : Row)
    (s : Session) :
    FailsAs (fun e => Placeless e ∨ b.LoadRaises e)
      (load schema t b row) s := by
  have h : FailsAs (fun e => Placeless e ∨ b.LoadRaises e) (do
      EntityAction.inject schema t b row
      EntityAction.ofEdit b.runPostLoad) ⟨b.initial, s⟩ := by
    refine FailsAs.bind ?_ fun _ _ => ?_
    · exact (EntityAction.placeless_injectColumns b row _ _).imp
        fun _ => Or.inl
    · exact EntityAction.failsAs_ofEdit fun e he => Or.inr ⟨_, he⟩
  intro e he
  refine h e ?_
  simp only [load, EntityAction.build, EStateM.answer] at he ⊢
  generalize (do
    EntityAction.inject schema t b row
    EntityAction.ofEdit b.runPostLoad : EntityAction Unit) ⟨b.initial, s⟩
    = run at he ⊢
  cases run <;> cases he
  rfl

end DataAccess
