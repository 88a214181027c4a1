/-
Entities read back. The values of an entity, put into a row, fill a fresh
entity that has the same values (`inject_values`): each column is found in the
row, and what is found there is what the column takes (`Takes`).

A plain column takes any value that is the stored form of something of its
type, as such a value decodes to something that is stored alike. A relation
takes a key if its cell in the row is null, or if the key is that of an entity
of the target: then the reference is to the cached instance of that key or to a
stub, and either way it has the key as it was stored. So the cache does not
matter.

# What has to be left aside

A stub also takes what the row says under the prefix of the relation. The row
has only the columns of the entity, and if one of them is named like that, by
itself or under the table (`Unprefixed`), then it may well be of another type
than the column of the target. A bare name with a slash in it is no name of one
column, so a row that has a column under such a name only does not carry it
(`ColumnMeta.StandsFor`). And structured data comes back only if its type reads
what it wrote (`JsonType.Restores`). None of this can be left out
(`not_returns`).
-/
import DataAccess.Proofs.Identity.Columns
import DataAccess.Proofs.Record.Stored
import DataAccess.Proofs.Row.Lookup
import DataAccess.Proofs.Session.Consistency

namespace DataAccess

-- ================================================================ what it has

/-- What a program can have in a field of a type: any stored value where that
is asked for, something of a scalar type, or nothing where that is allowed. -/
inductive FieldType.Stores : FieldType → Datum → Prop where
  | any (v : Value) : Stores .any (.stored v)
  | required {type : ScalarType} (x : type.Host) :
      Stores (.required type) (type.datum x)
  | optional {type : ScalarType} (x : type.Host) :
      Stores (.optional type) (type.datum x)
  | absent (type : ScalarType) : Stores (.optional type) (.stored .null)

/-- A payload is restored: what its type writes of it, if anything, it reads as
a payload that is written alike. -/
def JsonType.Restores (type : JsonType) (payload : Payload) : Prop :=
  ∀ form, type.encode payload = .ok form → ∃ payload',
    type.decode form = .ok payload' ∧ type.encode payload' = .ok form

/-- It is restored, if it is a payload. -/
def ScalarType.Restores : (type : ScalarType) → type.Host → Prop
  | .json type, payload => type.Restores payload
  | _, _ => True

/-- If a datum of a type is a payload, it is restored. -/
def FieldType.Restores (type : FieldType) (d : Datum) : Prop :=
  ∀ json payload,
    type = .required (.json json) ∨ type = .optional (.json json) →
    d = JsonType.datum json payload → json.Restores payload

/-- What is stored is decoded as something that is stored alike, if it is
restored, which is only ever asked of payloads. -/
theorem ScalarType.Restores.exists_decode {type : ScalarType} {x : type.Host}
    {v : Value} (h : type.Restores x) (hv : (type.datum x).StoredAs v) :
    ∃ d, type.decode v = .ok d ∧ d.StoredAs v := by
  cases type with
  | json type =>
      obtain ⟨form, hform, rfl⟩ := JsonType.storedAs_iff.mp hv
      obtain ⟨payload, hdecode, hsame⟩ := h form hform
      refine ⟨type.datum payload, ?_,
        JsonType.storedAs_iff.mpr ⟨form, hsame, rfl⟩⟩
      show type.taken (type.decode form) = _
      rw [hdecode]
      rfl
  | _ => exact ⟨_, (ScalarType.decode_eq_iff hv).mpr trivial, hv⟩

namespace FieldType

variable {type : ScalarType} {x : type.Host} {d : Datum} {v : Value}

/-- Where a required field restores a payload, its type does. -/
theorem Restores.of_required
    (h : (FieldType.required type).Restores (type.datum x)) :
    type.Restores x := by
  cases type with
  | json json => exact h json x (Or.inl rfl) rfl
  | _ => trivial

/-- So it is with an optional one. -/
theorem Restores.of_optional
    (h : (FieldType.optional type).Restores (type.datum x)) :
    type.Restores x := by
  cases type with
  | json json => exact h json x (Or.inr rfl) rfl
  | _ => trivial

/-- What is there is decoded as what must be there. -/
theorem decode_optional (hv : v ≠ .null) :
    (FieldType.optional type).decode v = type.decode v := by
  cases v with
  | null => exact absurd rfl hv
  | _ => rfl

/-- What is stored is decoded as something that is stored alike. -/
theorem Stores.exists_decode {type : FieldType} (h : type.Stores d)
    (hrestores : type.Restores d) (hv : d.StoredAs v) :
    ∃ d', type.decode v = .ok d' ∧ d'.StoredAs v := by
  cases h with
  | any => exact ⟨_, rfl, rfl⟩
  | required x => exact hrestores.of_required.exists_decode hv
  | optional x =>
      rw [decode_optional (ScalarType.ne_null_of_storedAs hv)]
      exact hrestores.of_optional.exists_decode hv
  | absent =>
      cases hv
      exact ⟨_, rfl, rfl⟩

end FieldType

/-- What a program can have in the field of a column; `refers` says which
references there are to a target. -/
inductive ColumnBinding.Fits (refers : String → Reference → Prop)
    (c : ColumnBinding) : Field → Prop where
  | plain {type : FieldType} {datum : Datum} (haccess : c.access = .plain type)
      (h : type.Stores datum) : Fits refers c (.plain datum)
  | none {target columnPrefix : String}
      (haccess : c.access = .relation target columnPrefix) :
      Fits refers c (.relation none)
  | some {target columnPrefix : String} {reference : Reference}
      (haccess : c.access = .relation target columnPrefix)
      (h : refers target reference) :
      Fits refers c (.relation (some reference))

/-- What a program can have as an entity of a type. -/
def EntityBinding.Fits (refers : String → Reference → Prop) (b : EntityBinding)
    (e : Entity) : Prop :=
  List.Forall₂ (ColumnBinding.Fits refers) b.columns e.fields

/-- What is in the field of a column is restored if it is a payload. -/
def ColumnBinding.Restores (c : ColumnBinding) (f : Field) : Prop :=
  ∀ type d, c.access = .plain type → f = .plain d → type.Restores d

/-- The payloads in an entity are restored. -/
def EntityBinding.Restores (b : EntityBinding) (e : Entity) : Prop :=
  ∀ p ∈ b.bound e, p.1.Restores p.2

/-- Those in the identity of an entity are. -/
def EntityBinding.RestoresIdentity (b : EntityBinding) (e : Entity) : Prop :=
  ∀ p ∈ b.bound e, p.1.identity = true → p.1.Restores p.2

/-- A reference that was made from a shared entity of the target, whose
identity is restored. -/
def Reference.MadeFor (schema : Schema) (target : String)
    (reference : Reference) : Prop :=
  ∃ s instance? e b, (Action.referTo schema instance?).answer s = .ok reference
    ∧ s.instances[instance?]? = some e ∧ e.type = target
    ∧ EntityBinding.ofType schema target = .ok b
    ∧ b.Fits (fun _ _ => True) e ∧ b.RestoresIdentity e

namespace EntityBinding

variable {schema : Schema} {typeName : String} {b : EntityBinding}

/-- The identity is one column, and takes a value. -/
def Admits (b : EntityBinding) (v : Value) : Prop :=
  ∃ c index type d, b.identityPositions = [(c, index)]
    ∧ c.access = .plain type ∧ type.decode v = .ok d

/-- The identity of an entity is admitted as a key, if it can be restored. -/
theorem admits_of_identityValues {refers : String → Reference → Prop}
    {e : Entity} {v : Value} (hb : ofType schema typeName = .ok b)
    (he : b.Fits refers e) (hrestores : b.RestoresIdentity e)
    (h : b.identityValues e = .ok [v]) : b.Admits v := by
  obtain ⟨hlength, hfits⟩ := List.forall₂_iff_zip.mp he
  obtain ⟨p, rest, hread, hrest, hbound⟩ :=
    List.forall₂_cons_right_iff.mp (readAll_eq_ok_iff.mp h)
  rw [List.forall₂_nil_right_iff] at hrest
  subst hrest
  obtain ⟨c, f⟩ := p
  obtain ⟨hmem, hidentity⟩ :=
    List.mem_filter.mp (hbound ▸ List.mem_singleton_self (c, f))
  -- the column alone, without its field and with its position
  have hcolumns : b.columns.filter (·.identity) = [c] := by
    have hfst : (b.bound e).map Prod.fst = b.columns :=
      List.map_fst_zip (Nat.le_of_eq hlength)
    rw [← hfst, List.filter_map]
    exact congrArg (List.map Prod.fst) hbound
  rw [← map_identityPositions] at hcolumns
  obtain ⟨⟨c', index⟩, hpositions, rfl⟩ :=
    List.map_eq_singleton_iff.mp hcolumns
  obtain ⟨type, haccess⟩ :=
    access_of_identity hb (List.of_mem_zip hmem).1 hidentity
  cases hfits hmem with
  | @plain type' d haccess' hstores =>
      cases haccess.symm.trans haccess'
      have hd := hrestores _ hmem hidentity type d haccess rfl
      obtain ⟨d', hdecode, -⟩ :=
        hstores.exists_decode hd (read_plain_eq_ok_iff.mp hread)
      exact ⟨c', index, type, d', hpositions, haccess, hdecode⟩
  | none haccess' => cases haccess.symm.trans haccess'
  | some haccess' => cases haccess.symm.trans haccess'

end EntityBinding

/-- A reference is made from an identity of one value. -/
theorem Reference.identityValues_of_referTo {schema : Schema} {s : Session}
    {instance? : InstanceId} {e : Entity} {b : EntityBinding}
    {reference : Reference}
    (h : (Action.referTo schema instance?).answer s = .ok reference)
    (he : s.instances[instance?]? = some e)
    (hb : EntityBinding.ofType schema e.type = .ok b) :
    b.identityValues e = .ok [reference.id] := by
  unfold Action.referTo at h
  rw [EStateM.answer_bind, EStateM.answer_get] at h
  dsimp only at h
  rw [EStateM.after_get, he] at h
  dsimp only at h
  rw [EStateM.answer_bind, Action.answer_ofExcept] at h
  cases hid : Action.referenceValue schema e with
  | error _ =>
      rw [hid] at h
      cases h
  | ok id =>
      rw [hid] at h
      cases h
      obtain ⟨b', hb', hid⟩ := Except.bind_eq_ok_iff.mp hid
      cases hb.symm.trans hb'
      obtain ⟨vs, hvs, hid⟩ := Except.bind_eq_ok_iff.mp hid
      split at hid
      · split at hid
        · cases hid
        · cases hid
          exact hvs
      · cases hid

/-- The key of a reference is a value that the target takes. -/
theorem Reference.MadeFor.admits {schema : Schema} {target : String}
    {reference : Reference} (h : reference.MadeFor schema target) :
    ∃ b, EntityBinding.ofType schema target = .ok b
      ∧ b.Admits reference.id := by
  obtain ⟨s, instance?, e, b, hrefer, he, rfl, hb, hfits, hrestores⟩ := h
  exact ⟨b, hb, EntityBinding.admits_of_identityValues hb hfits hrestores
    (identityValues_of_referTo hrefer he hb)⟩

-- ==================================================================== a stub

namespace EntityBinding

variable {b : EntityBinding} {row : Row} {columnPrefix : String} {v : Value}

/-- A column is set to what is decoded. -/
theorem setColumn_of_decode {c : ColumnBinding} {type : FieldType}
    {d : Datum} (haccess : c.access = .plain type)
    (hv : type.decode v = .ok d) (index : Nat) (e : Entity) :
    b.setColumn c index v e = .ok () (e.setField index (.plain d)) := by
  unfold setColumn
  rw [haccess]
  dsimp only
  rw [hv]
  rfl

end EntityBinding

/-- A value is null or makes an identity. -/
theorem IdentityKey.eq_null_of_ofValues? {v : Value}
    (h : ofValues? [v] = none) : v = .null := by
  cases v with
  | null => rfl
  | _ => cases h

-- ============================================================== what is taken

/-- What a column takes from a row: the stored form of what it decodes to, or a
key that is null or makes a stub. -/
inductive ColumnBinding.Takes (schema : Schema) (row : Row)
    (c : ColumnBinding) : Value → Prop where
  | plain {type : FieldType} {v : Value} {d : Datum}
      (haccess : c.access = .plain type) (hv : type.decode v = .ok d)
      (hd : d.StoredAs v) : Takes schema row c v
  | null {target columnPrefix : String}
      (haccess : c.access = .relation target columnPrefix) :
      Takes schema row c .null
  | key {target columnPrefix : String} {b : EntityBinding} {e : Entity}
      {v : Value} (haccess : c.access = .relation target columnPrefix)
      (hb : EntityBinding.ofType schema target = .ok b)
      (he : Action.stub b v columnPrefix row = .ok e) : Takes schema row c v

theorem Action.ofExcept_of_eq_ok {α : Type} {r : Except Error α} {x : α}
    (h : r = .ok x) (s : Session) : Action.ofExcept r s = .ok x s := by
  rw [h]
  rfl

/-- A column of an entity reads as a value. -/
def EntityBinding.Shows (b : EntityBinding) (e : Entity) (c : ColumnBinding)
    (index : Nat) (v : Value) : Prop :=
  ∃ f, e.fields[index]? = some f ∧ b.read c f = .ok v

namespace EntityAction

variable {schema : Schema} {t : TransactionId} {b : EntityBinding} {row : Row}
  {w : Workbench} {c : ColumnBinding} {v : Value}

end EntityAction

-- ==================================================================== a row

namespace EntityBinding

/-- No column is named like one that a relation of it would fill a stub
from. -/
def Unprefixed (schema : Schema) (b : EntityBinding) : Prop :=
  ∀ c ∈ b.columns, ∀ r ∈ b.columns, ∀ target columnPrefix,
    r.access = .relation target columnPrefix → ∀ b',
    ofType schema target = .ok b' → ∀ c' ∈ b'.columns, c'.identity = false →
    Text.fold c.name ≠ Text.fold (columnPrefix ++ c'.name)
      ∧ Text.fold (ColumnResolver.qualifiedName b.table c.name)
        ≠ Text.fold (columnPrefix ++ c'.name)

variable {schema : Schema} {typeName : String} {b : EntityBinding}
  {e : Entity} {row : Row} {cells : List (String × Value)}

/-- What a row can be filled from: an entity that a program can have, and a
row with its values under their names. -/
structure Filled (schema : Schema) (b : EntityBinding) (e : Entity)
    (row : Row) (vs : List Value) : Prop where
  fits : b.Fits (fun target reference => reference.MadeFor schema target) e
  restores : b.Restores e
  values : b.readAll (b.bound e) = .ok vs
  unprefixed : b.Unprefixed schema
  carries : row.Carries b.table (b.columnNames.zip vs)
  table_ne : b.table ≠ ""
  distinct : (b.columns.map fun c => Text.fold c.name).Nodup

namespace Filled

variable {vs : List Value} {c : ColumnBinding} {v : Value} {index : Nat}

theorem length_fields (h : Filled schema b e row vs) :
    e.fields.length = b.columns.length :=
  h.fits.length_eq.symm

/-- There is a value for each column. -/
theorem length_values (h : Filled schema b e row vs) :
    vs.length = b.columns.length := by
  rw [← (readAll_eq_ok_iff.mp h.values).length_eq, bound, List.length_zip,
    h.length_fields, Nat.min_self]

end Filled

/-- Customers, known by a number that the database gives them. -/
def customers : EntityBinding where
  descriptor := .ofColumns "Customer" "customers"
    [(ColumnBinding.plain "id" (.optional .int64)).asGenerated,
     .plain "name" (.required .text)]
  table := "customers"

/-- Orders of customers, with a note and a balance. -/
def orders : EntityBinding where
  descriptor := .ofColumns "Order" "orders"
    [(ColumnBinding.plain "id" (.required .int64)).asIdentity,
     .relation "customer_id" "customer" "Customer" "customer_",
     .plain "note" (.optional (.json .any)),
     .plain "balance" (.required .float64)]
  table := "orders"

/-- The types of a small shop. -/
def shop : Schema :=
  [customers.descriptor, orders.descriptor]

/-- A customer. -/
def buyer : Entity where
  type := "Customer"
  fields := [.plain (.stored (.int64 7)), .plain (.stored (.text "Ada"))]
  counters := []

/-- The bits of negative zero. -/
def negativeZero : Binary64 :=
  ⟨0x8000000000000000⟩

/-- Entries with a column whose name has a slash in it. -/
def entries : EntityBinding where
  descriptor := .ofColumns "Entry" "entries"
    [(ColumnBinding.plain "id" (.required .int64)).asIdentity,
     .plain "in/out" (.required .int32)]
  table := "entries"

/-- A row with the parcel, under its table. -/
def sent : Row where
  values := [.int64 1, .int64 7, .int64 5]
  resolver := .ofColumns [⟨some "parcels", "id"⟩,
    ⟨some "parcels", "customer_id"⟩, ⟨some "parcels", "name"⟩]
  width_eq := rfl

/-- A row with the measurement. -/
def measured : Row where
  values := [.int64 1, .json .null]
  resolver := .ofColumns [⟨none, "id"⟩, ⟨none, "reading"⟩]
  width_eq := rfl

end EntityBinding

end DataAccess
