/-
Whether what the identity cache holds under a key has that key as its
identity. A shared find stores what it finds under the identity that was asked
for, and a relation stores a stub under the key that stands in the row; the
entity has the identity that its own columns were decoded to. Writing goes by
the identity of the entity. So the two agree exactly if decoding gives back
what was asked for (`identity_of_entry`); and they do not agree where a query
finds a row by a value of another type (`not_identified_coerced`).
-/
import DataAccess.Proofs.Identity.Columns
import DataAccess.Proofs.Identity.Freshness

namespace DataAccess

-- =============================================================== components

/-- Whether decoding a value leaves its component of an identity as it is. A
timestamp loses its time as a date, a text is JSON after it was read, and
structured data is written anew by its type. -/
def ScalarType.keepsPart : ScalarType → Value → Bool
  | .date, .timestamp t => t.midnight = t
  | .json type, .json j =>
    ((type.decode j >>= type.encode).map Json.render).toOption = some j.render
  | .json _, .text _ => false
  | _, _ => true

/-- The same of a field, of any type or a scalar one. -/
def FieldType.keepsPart : FieldType → Value → Bool
  | .any, _ => true
  | .required type, v => type.keepsPart v
  | .optional type, v => type.keepsPart v

/-- A datum is stored as a value with the component that another has. -/
def Datum.HasPart (d : Datum) (v : Value) : Prop :=
  ∃ w, d.StoredAs w ∧ KeyPart.ofValue? w = KeyPart.ofValue? v

/-- A value that is stored has the component of another if both make the same
one. -/
theorem Datum.hasPart_stored {w v : Value} :
    (Datum.stored w).HasPart v ↔ KeyPart.ofValue? w = KeyPart.ofValue? v :=
  ⟨fun ⟨_, hw, h⟩ => Except.ok.inj hw ▸ h, fun h => ⟨w, rfl, h⟩⟩

/-- A payload is stored as the JSON that its type makes of it. -/
theorem JsonType.hasPart_datum {type : JsonType} {payload : Payload}
    {v : Value} :
    (type.datum payload).HasPart v
      ↔ ∃ form, type.encode payload = .ok form
        ∧ some (.json form.render) = KeyPart.ofValue? v := by
  unfold JsonType.datum
  cases type.encode payload with
  | error fault =>
      constructor
      · rintro ⟨w, hw, -⟩
        cases hw
      · rintro ⟨form, hform, -⟩
        cases hform
  | ok form =>
      constructor
      · rintro ⟨w, hw, hpart⟩
        cases hw
        exact ⟨form, rfl, hpart⟩
      · rintro ⟨form', hform, hpart⟩
        cases hform
        exact ⟨.json form, rfl, hpart⟩

/-- A symbol is decoded to itself. -/
theorem SymbolType.eq_of_decode {type : SymbolType} {v : Value} {d : Datum}
    (h : type.decode v = .ok d) : d = .stored v := by
  unfold SymbolType.decode at h
  split at h
  · next name =>
    cases hfind : type.find? name with
    | none =>
        rw [hfind] at h
        cases h
    | some symbol =>
        rw [hfind] at h
        cases h
        unfold SymbolType.find? at hfind
        have hname := List.find?_some hfind
        rw [beq_iff_eq.mp hname]
  · cases h

/-- An integer that fits into the smaller width stays what it is. -/
theorem toInt_toInt32_of_le {n : Int64}
    (h : Int32.minValue.toInt ≤ n.toInt ∧ n.toInt ≤ Int32.maxValue.toInt) :
    n.toInt32.toInt = n.toInt := by
  have hmin : Int32.minValue.toInt = -2147483648 := rfl
  have hmax : Int32.maxValue.toInt = 2147483647 := rfl
  rw [hmin, hmax] at h
  rw [Int64.toInt_toInt32]
  exact Int.bmod_eq_of_le (by omega) (by omega)

/-- A scalar keeps its part where its type says so. -/
theorem ScalarType.hasPart_of_decode {type : ScalarType} {v : Value}
    {d : Datum} (h : type.decode v = .ok d) :
    d.HasPart v ↔ type.keepsPart v = true := by
  have hsame : ∀ {type : ScalarType} {v : Value}, type.keepsPart v = true →
      d = .stored v → (d.HasPart v ↔ type.keepsPart v = true) := by
    rintro type v hkeeps rfl
    exact iff_of_true (Datum.hasPart_stored.mpr rfl) hkeeps
  unfold ScalarType.decode at h
  split at h
  · exact hsame rfl (Except.ok.inj h).symm
  · exact hsame rfl (Except.ok.inj h).symm
  · -- a narrower integer: it keeps its part, if it fits
    split at h
    · next hfits =>
      cases h
      exact iff_of_true (Datum.hasPart_stored.mpr (congrArg (some ∘ KeyPart.int)
        (toInt_toInt32_of_le hfits))) rfl
    · cases h
  · exact hsame rfl (Except.ok.inj h).symm
  · cases h
    exact iff_of_true (Datum.hasPart_stored.mpr (congrArg (some ∘ KeyPart.int)
      (Int32.toInt_toInt64 _))) rfl
  · exact hsame rfl (Except.ok.inj h).symm
  · exact hsame rfl (Except.ok.inj h).symm
  · exact hsame rfl (Except.ok.inj h).symm
  · exact hsame rfl (Except.ok.inj h).symm
  · cases h
    simp [Datum.hasPart_stored, KeyPart.ofValue?, keepsPart]
  · -- structured data keeps its part if it is written as it was read
    next type j =>
    unfold JsonType.taken at h
    cases hpayload : type.decode j with
    | error fault =>
        rw [hpayload] at h
        cases h
    | ok payload =>
        rw [hpayload] at h
        cases h
        have hkeeps : (json type).keepsPart (.json j)
            = decide (((type.encode payload).map Json.render).toOption
              = some j.render) := by
          show decide (((type.decode j >>= type.encode).map
            Json.render).toOption = some j.render) = _
          rw [hpayload]
          rfl
        rw [JsonType.hasPart_datum, hkeeps]
        cases type.encode payload <;>
          simp [KeyPart.ofValue?, Except.map, Except.toOption]
  · -- a text that is taken for structured data never does
    next type text =>
    unfold JsonType.taken at h
    split at h
    · cases h
      rw [JsonType.hasPart_datum]
      simp [KeyPart.ofValue?, keepsPart]
    · cases h
  · next type v => exact hsame rfl (SymbolType.eq_of_decode h)
  · cases h

/-- So does a field. -/
theorem FieldType.hasPart_of_decode {type : FieldType} {v : Value} {d : Datum}
    (h : type.decode v = .ok d) :
    d.HasPart v ↔ type.keepsPart v = true := by
  cases type with
  | any =>
      cases h
      exact iff_of_true (Datum.hasPart_stored.mpr rfl) rfl
  | required type => exact ScalarType.hasPart_of_decode h
  | optional type =>
      by_cases hnull : v = .null
      · subst hnull
        cases h
        refine iff_of_true (Datum.hasPart_stored.mpr rfl) ?_
        cases type <;> rfl
      · refine ScalarType.hasPart_of_decode (Eq.trans ?_ h)
        cases v <;> first | rfl | exact absurd rfl hnull

/-- An identity of one value has one part. -/
theorem IdentityKey.ofValues?_singleton (v : Value) :
    ofValues? [v] = (KeyPart.ofValue? v).map fun part => ⟨[part]⟩ := by
  unfold ofValues? partsOf?
  cases KeyPart.ofValue? v <;> rfl

/-- Identities of one component are equal if their components are. -/
theorem IdentityKey.ofValues?_singleton_inj {v w : Value} :
    ofValues? [w] = ofValues? [v]
      ↔ KeyPart.ofValue? w = KeyPart.ofValue? v := by
  rw [ofValues?_singleton, ofValues?_singleton]
  refine (Option.map_injective fun part part' h => ?_).eq_iff
  cases h
  rfl

-- ================================================================= origins

section

variable {schema : Schema} {key : CacheKey} {e : Entity}

/-- A stub has the identity that its key decodes to, which is its key exactly
if decoding keeps it. -/
theorem Origin.identity_stub (h : Origin schema key false e) :
    ∃ b, EntityBinding.ofType schema key.entity = .ok b
      ∧ ∃ column type v, b.columns.filter (·.identity) = [column]
        ∧ column.access = .plain type
        ∧ IdentityKey.ofValues? [v] = some key.identity
        ∧ (b.identity e = .ok (some key.identity)
          ↔ type.keepsPart v = true) := by
  cases h with
  | @stub b v _ _ _ hb hv he =>
      obtain ⟨column, type, d, hcolumn, haccess, hdecode, hidentity⟩ :=
        EntityBinding.identity_of_stub hb he
      refine ⟨b, hb, column, type, v, hcolumn, haccess, hv, ?_⟩
      calc b.identity e = .ok (some key.identity)
          ↔ ∃ w, d.StoredAs w
            ∧ IdentityKey.ofValues? [w] = IdentityKey.ofValues? [v] := by
            rw [hidentity, hv]
        _ ↔ d.HasPart v := by
            simp only [IdentityKey.ofValues?_singleton_inj, Datum.HasPart]
        _ ↔ type.keepsPart v = true := FieldType.hasPart_of_decode hdecode

/-- A loaded instance is what a find for its key answered. The identity of the
instance is what the cells of the row decode to, as this is stored and as its
hook leaves it. -/
theorem Origin.identity_loaded (h : Origin schema key true e) :
    ∃ b, EntityBinding.ofType schema key.entity = .ok b
      ∧ ∃ id t s row e₀ ds, IdentityKey.ofValues? id = some key.identity
        ∧ (Action.find schema t key.entity id).answer s = .ok (some e)
        ∧ List.Forall₂ (b.Reads row) (b.columns.filter (·.identity)) ds
        ∧ e = b.runPostLoad.after e₀
        ∧ ∀ identity, b.identity e₀ = .ok identity
          ↔ ∃ vs, List.Forall₂ Datum.StoredAs ds vs
            ∧ IdentityKey.ofValues? vs = identity := by
  cases h with
  | @loaded b id t row s s' _ hb hid he hfind =>
      obtain ⟨e₀, ds, heq, hds, hidentity⟩ :=
        EntityBinding.identity_of_load hb he
      exact ⟨b, hb, id, t, s', row, e₀, ds, hid, hfind, hds, heq, hidentity⟩

end

-- ================================================================= entries

namespace Desk

variable {schema : Schema}

/-- Every entry has its key as its identity. -/
def Identified (schema : Schema) (d : Desk) : Prop :=
  ∀ c key entry, (d.session.holdings.cache c).find? key = some entry →
    ∃ b e, EntityBinding.ofType schema key.entity = .ok b
      ∧ d.session.instances[entry.item]? = some e
      ∧ b.identity e = .ok (some key.identity)

/-- A driver that finds a tag, whatever it is asked. -/
def coercing : Driver :=
  Driver.empty.pushResult (tagged "5" "five")

/-- A tag is found by a number. -/
def coerced : List Request :=
  [.operation (.begin false),
   .operation (.statement 0 (.findShared "Tag" [.int64 5]))]

/-- The key of a tag that was found by a number. -/
def numberKey (n : Int) : CacheKey :=
  ⟨"Tag", ⟨[.int n]⟩⟩

/-- A row that answers with another key is cached under the one that was asked
for. -/
theorem exists_entry_coerced :
    ∃ entry : CacheEntry InstanceId, entry.item = 0 ∧ entry.loaded = true
      ∧ ((((ofSession (.blank coercing)).serveAll tags
        coerced).session.holdings.cache 0).find? (numberKey 5))
        = some entry := by
  obtain ⟨entry, hentry, hitem⟩ := Option.map_eq_some_iff.mp
    (show Option.map (fun entry : CacheEntry InstanceId =>
        (entry.item, entry.loaded))
      ((((ofSession (.blank coercing)).serveAll tags
        coerced).session.holdings.cache 0).find? (numberKey 5))
        = some (0, true) by decide +kernel)
  obtain ⟨hitem, hloaded⟩ := Prod.mk.inj hitem
  exact ⟨entry, hitem, hloaded, hentry⟩

/-- The tag that was found by the number is cached under the number, and has
the text in its row as its identity. -/
theorem not_identified_coerced :
    ¬ ∀ (s : Session) (schema : Schema) (requests : List Request), s.Fresh →
      ((ofSession s).serveAll schema requests).Identified schema := by
  intro h
  have hidentified := h (.blank coercing) tags coerced
    (Session.fresh_start (Session.start_default coercing) rfl rfl)
  obtain ⟨entry, hitem, -, hentry⟩ := exists_entry_coerced
  obtain ⟨b, e, hb, he, hidentity⟩ := hidentified 0 (numberKey 5) entry hentry
  have hcell : ((EntityBinding.ofType tags "Tag").toOption.bind fun b =>
      (((ofSession (.blank coercing)).serveAll tags
        coerced).session.instances[0]?).bind fun e => (b.identity e).toOption)
        = some (some ⟨[.text "5"]⟩) := by decide +kernel
  rw [hitem] at he
  change EntityBinding.ofType tags "Tag" = .ok b at hb
  rw [hb, he] at hcell
  change (b.identity e).toOption = _ at hcell
  rw [hidentity] at hcell
  cases hcell

-- ============================================================= what is put

/-- What is under a key was put there. -/
theorem origin_of_entry {s : Session} (hfresh : s.Fresh)
    {requests : List Request} {c : ChainId} {key : CacheKey}
    {entry : CacheEntry InstanceId}
    (hfound : (((ofSession s).serveAll schema requests).session.holdings.cache
      c).find? key = some entry) :
    ∃ e, ((ofSession s).serveAll schema requests).session.instances[
        entry.item]? = some e ∧ Origin schema key entry.loaded e := by
  obtain ⟨xs, rfl, haccounted⟩ := (kept_ofSession hfresh).exists_accounted
    (browsing_ofSession schema s) requests
  have hretraces := haccounted.retraces c
  have hput : .put key entry.item entry.loaded ∈ Entry.history c xs := by
    change ((((ofSession s).after schema xs).session.holdings.cache
      c).find? key) = some entry at hfound
    rw [hretraces.cache] at hfound
    refine (IdentityCache.find?_replay hfound).resolve_left fun hbefore => ?_
    have hempty : (s.holdings.cache c).find? key = none := by
      rw [cache_of_fresh hfresh]
      exact IdentityCache.find?_empty _ key
    exact Option.some_ne_none entry (hbefore.symm.trans hempty)
  exact hretraces.origin hput

/-- Where an entry is from, and when it has its key as its identity. A stub
has it exactly if decoding the key keeps it. A loaded instance is what a find
for the key answered, and, if its hook leaves its identity alone, has it
exactly if that is what the data are stored as that the cells of its row
decode to. -/
theorem identity_of_entry {s : Session} (hfresh : s.Fresh) (schema : Schema)
    (requests : List Request) :
    let d := (ofSession s).serveAll schema requests
    ∀ c key entry, (d.session.holdings.cache c).find? key = some entry →
      ∃ b e, EntityBinding.ofType schema key.entity = .ok b
        ∧ d.session.instances[entry.item]? = some e
        ∧ (entry.loaded = false →
          ∃ column type v, b.columns.filter (·.identity) = [column]
            ∧ column.access = .plain type
            ∧ IdentityKey.ofValues? [v] = some key.identity
            ∧ (b.identity e = .ok (some key.identity)
              ↔ type.keepsPart v = true))
        ∧ (entry.loaded = true →
          ∃ id t s' row e₀ ds, IdentityKey.ofValues? id = some key.identity
            ∧ (Action.find schema t key.entity id).answer s' = .ok (some e)
            ∧ List.Forall₂ (b.Reads row) (b.columns.filter (·.identity)) ds
            ∧ e = b.runPostLoad.after e₀
            ∧ (∀ identity, b.identity e₀ = .ok identity
              ↔ ∃ vs, List.Forall₂ Datum.StoredAs ds vs
                ∧ IdentityKey.ofValues? vs = identity)
            ∧ (b.identity e = b.identity e₀ →
              (b.identity e = .ok (some key.identity)
                ↔ ∃ vs, List.Forall₂ Datum.StoredAs ds vs
                  ∧ IdentityKey.ofValues? vs = some key.identity))) := by
  intro d c key entry hfound
  obtain ⟨e, he, horigin⟩ := origin_of_entry hfresh hfound
  cases hloaded : entry.loaded with
  -- a stub: no row was asked for it
  | false =>
      rw [hloaded] at horigin
      obtain ⟨b, hb, hstub⟩ := horigin.identity_stub
      exact ⟨b, e, hb, he, fun _ => hstub, nofun⟩
  -- loaded: what the hook leaves alone is the identity of the row
  | true =>
      rw [hloaded] at horigin
      obtain ⟨b, hb, id, t, s', row, e₀, ds, hid, hfind, hds, heq,
        hidentity⟩ := horigin.identity_loaded
      refine ⟨b, e, hb, he, nofun, fun _ => ⟨id, t, s', row, e₀, ds, hid,
        hfind, hds, heq, hidentity, fun hhook => ?_⟩⟩
      rw [hhook, hidentity]

/-- The tag is what the find by the number answered, and has the number as its
identity only if the cell of its row was the number. -/
theorem identity_coerced :
    let s := Session.blank coercing
    let d := (ofSession s).serveAll tags coerced
    s.Fresh ∧ ∃ b e, EntityBinding.ofType tags "Tag" = .ok b
      ∧ d.session.instances[0]? = some e
      ∧ ∃ row ds, List.Forall₂ (b.Reads row) (b.columns.filter (·.identity)) ds
        ∧ (b.identity e = .ok (some ⟨[.int 5]⟩)
          ↔ ∃ vs, List.Forall₂ Datum.StoredAs ds vs
            ∧ IdentityKey.ofValues? vs = some ⟨[.int 5]⟩) := by
  intro s d
  have hfresh : s.Fresh :=
    Session.fresh_start (Session.start_default coercing) rfl rfl
  obtain ⟨entry, hitem, hloaded, hentry⟩ := exists_entry_coerced
  obtain ⟨b, e, hb, he, -, hrow⟩ :=
    identity_of_entry hfresh tags coerced 0 (numberKey 5) entry hentry
  obtain ⟨id, t, s', row, e₀, ds, -, -, hds, rfl, -, hiff⟩ := hrow hloaded
  rw [hitem] at he
  refine ⟨hfresh, b, _, hb, he, row, ds, hds, hiff ?_⟩
  have hhook : (EntityBinding.ofType tags "Tag").toOption.map
      (·.descriptor.postLoad.isNone) = some true := by decide +kernel
  change EntityBinding.ofType tags "Tag" = .ok b at hb
  rw [hb] at hhook
  unfold EntityBinding.runPostLoad
  rw [Option.isNone_iff_eq_none.mp (Option.some.inj hhook)]
  rfl

end Desk

end DataAccess
