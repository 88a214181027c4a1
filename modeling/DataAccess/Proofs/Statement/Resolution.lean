/-
What bound parameters come to. A caller binds data, in any order, by position
and by name, and the statement is resolved against its tokens. Everything
here is told from the bindings alone, not from the state that they are
collected in: `Resolves` says what is sent, `resolutionFault?` says which
fault is told where there are several.

# What is collected

What is collected from some bindings (`Collected`) has the first fault among
them. While there is none, it has the values bound by position, in order, and
for each name the value bound to it last. A value takes the place of an older
one of its name, so names are kept in the order in which they were bound
first, and whatever is looked for among them is found at the first binding
that has it.
-/
import DataAccess.Proofs.Session.Running
import DataAccess.Proofs.Statement.Scanning
import DataAccess.Session.Stream
import Mathlib.Data.List.Induction

namespace DataAccess

-- ================================================================ bindings

/-- What a caller binds. -/
inductive Binding where
  | positional (d : Datum)
  | named (name : String) (d : Datum)
  deriving DecidableEq

namespace Binding

/-- What is bound. -/
def datum : Binding → Datum
  | .positional d => d
  | .named _ d => d

/-- The name it is bound to, if it is bound to one. -/
def name? : Binding → Option String
  | .positional _ => none
  | .named name _ => some (Params.bareName name)

/-- Whether it is bound by position. -/
def isPositional (b : Binding) : Bool :=
  b.name?.isNone

/-- The stored form of what is bound, if it has one. -/
def value? (b : Binding) : Option Value :=
  b.datum.encode.toOption

/-- What a binding is called in messages: its question mark by number, or
its name. -/
def label (before : List Binding) : Binding → String
  | .positional _ => "?" ++ toString (before.countP isPositional + 1)
  | .named name _ => ":" ++ Params.bareName name

/-- The fault of a binding without a stored form. -/
def fault? (before : List Binding) (b : Binding) : Option ParamFault :=
  match b.datum.encode with
  | .ok _ => none
  | .error e => some (.unencodable (b.label before) e.message)

/-- Binds. -/
def apply (p : Params) : Binding → Params
  | .positional d => p.bind d
  | .named name d => p.param name d

end Binding

/-- The parameters after some bindings, one after the other. -/
def Params.ofBindings (bs : List Binding) : Params :=
  bs.foldl Binding.apply .empty

/-- The fault of the first binding without a stored form. -/
def firstFault? (before : List Binding) : List Binding → Option ParamFault
  | [] => none
  | b :: bs => b.fault? before <|> firstFault? (before ++ [b]) bs

/-- Every datum that is bound has a stored form. -/
def Encodes (bs : List Binding) : Prop :=
  ∀ b ∈ bs, ∃ v, b.datum.encode = .ok v

/-- The names that are bound, in order. -/
def boundNames (bs : List Binding) : List String :=
  bs.filterMap Binding.name?

/-- The values that are bound by position, in order. -/
def positionalValues (bs : List Binding) : List Value :=
  (bs.filter Binding.isPositional).filterMap Binding.value?

/-- The value that is bound to a name last. -/
def valueOf? (bs : List Binding) (name : String) : Option Value :=
  (bs.filter fun b => b.name? = some name).getLast?.bind Binding.value?

-- ================================================================== tokens

/-- The names of the tokens of a statement, in the order of its text. -/
def tokensOf (sql : String) : List String :=
  ((segmentsOf sql.toList).filterMap Segment.name?).map .ofList

/-- A statement with a question mark for every token. -/
def placedText (sql : String) : String :=
  .ofList ((segmentsOf sql.toList).flatMap Segment.placed)

/-- A statement without tokens stays as it is. -/
theorem placedText_eq {sql : String} (h : tokensOf sql = []) :
    placedText sql = sql := by
  have hnames := List.map_eq_nil_iff.mp h
  rw [List.filterMap_eq_nil_iff] at hnames
  have hplaced : ∀ s ∈ segmentsOf sql.toList, s.placed = s.text := by
    intro s hs
    have hname := hnames s hs
    cases s with
    | token name => cases hname
    | _ => rfl
  unfold placedText
  rw [List.flatMap_def, List.map_congr_left hplaced, ← List.flatMap_def,
    (segmented_segmentsOf sql.toList).texts, String.ofList_toList]

/-- The scanner answers with the text and the tokens, by definition of both. -/
theorem rewriteTokens_eq (sql : String) :
    rewriteTokens sql = (placedText sql, tokensOf sql) := by
  unfold rewriteTokens
  rw [rewriteTokens?_eq]
  rfl

-- ============================================================== resolutions

/-- Nothing is bound by name, and no token asks for a name. -/
def ByPosition (bs : List Binding) (sql : String) : Prop :=
  boundNames bs = [] ∧ tokensOf sql = []

/-- Nothing is bound by position, and just the tokens are bound. -/
def ByName (bs : List Binding) (sql : String) : Prop :=
  bs.countP Binding.isPositional = 0
    ∧ ∀ name, name ∈ boundNames bs ↔ name ∈ tokensOf sql

/-- What bindings make of a statement. -/
inductive Resolves (bs : List Binding) (sql : String) : BoundStatement → Prop
  where
  /-- The text is sent as it is. -/
  | byPosition (hencodes : Encodes bs) (h : ByPosition bs sql) :
      Resolves bs sql ⟨sql, positionalValues bs⟩
  /-- Each token has the value that was bound to its name last. -/
  | byName (hencodes : Encodes bs) (h : ByName bs sql) {values : List Value}
      (hvalues : values.map some = (tokensOf sql).map (valueOf? bs)) :
      Resolves bs sql ⟨placedText sql, values⟩

/-- The fault that is told, the first of these: of a datum without a stored
form, of two ways to bind in one statement, of a name that is bound and not
used, of tokens in a statement that is bound by position, of a token that is
not bound. -/
def resolutionFault? (bs : List Binding) (sql : String) : Option ParamFault :=
  firstFault? [] bs
    <|> (if 0 < bs.countP Binding.isPositional ∧ boundNames bs ≠ [] then
      some .mixed else none)
    <|> ((boundNames bs).find? (· ∉ tokensOf sql)).map .unused
    <|> (if 0 < bs.countP Binding.isPositional ∧ tokensOf sql ≠ [] then
      some .mixed else none)
    <|> ((tokensOf sql).find? (· ∉ boundNames bs)).map .unbound

-- =============================================================== collecting

section

variable {bs : List Binding} {b : Binding} {before : List Binding}

/-- Bindings can be encoded if all of them can. -/
theorem encodes_concat :
    Encodes (bs ++ [b]) ↔ Encodes bs ∧ ∃ v, b.datum.encode = .ok v := by
  unfold Encodes
  simp [or_imp, forall_and]

/-- A binding that can be encoded is at no fault. -/
theorem fault?_eq_none_iff :
    b.fault? before = none ↔ ∃ v, b.datum.encode = .ok v := by
  unfold Binding.fault?
  cases b.datum.encode <;> simp

/-- A binding that is added is at fault only where none before it is. -/
theorem firstFault?_concat :
    firstFault? before (bs ++ [b])
      = (firstFault? before bs <|> b.fault? (before ++ bs)) := by
  induction bs generalizing before with
  | nil => simp [firstFault?]
  | cons c bs ih =>
      rw [List.cons_append, firstFault?, ih, firstFault?, List.append_assoc]
      cases c.fault? before <;> rfl

/-- None is at fault where all can be encoded. -/
theorem firstFault?_eq_none_iff :
    firstFault? before bs = none ↔ Encodes bs := by
  induction bs generalizing before with
  | nil => simp [firstFault?, Encodes]
  | cons b bs ih =>
      have hiff : b.fault? before = none ↔ _ := fault?_eq_none_iff
      have ih : firstFault? (before ++ [b]) bs = none ↔ _ := ih
      unfold Encodes at ih ⊢
      rw [firstFault?, List.forall_mem_cons, ← hiff, ← ih]
      cases b.fault? before <;> simp

theorem boundNames_concat :
    boundNames (bs ++ [b]) = boundNames bs ++ b.name?.toList := by
  unfold boundNames
  rw [List.filterMap_append]
  cases h : b.name? <;> simp [h]

/-- A name has the value that it was bound to last. -/
theorem valueOf?_concat (name : String) :
    valueOf? (bs ++ [b]) name
      = if b.name? = some name then b.value? else valueOf? bs name := by
  unfold valueOf?
  rw [List.filter_append, List.getLast?_append]
  by_cases hname : b.name? = some name <;> simp [hname]

/-- Values that are bound by position are lined up as they come. -/
theorem positionalValues_concat :
    positionalValues (bs ++ [b])
      = positionalValues bs
        ++ if b.isPositional then b.value?.toList else [] := by
  unfold positionalValues
  rw [List.filter_append, List.filterMap_append]
  congr 1
  cases hpos : b.isPositional <;> cases hv : b.value? <;> simp [hpos, hv]

/-- Where nothing is bound by position there are no such values. -/
theorem positionalValues_eq_nil (h : bs.countP Binding.isPositional = 0) :
    positionalValues bs = [] := by
  unfold positionalValues
  rw [List.countP_eq_length_filter, List.length_eq_zero_iff] at h
  rw [h]
  rfl

/-- A name has a value exactly if it is bound. -/
theorem valueOf?_isSome_iff (hencodes : Encodes bs) (name : String) :
    (valueOf? bs name).isSome ↔ name ∈ boundNames bs := by
  induction bs using List.reverseRecOn with
  | nil => simp [valueOf?, boundNames]
  | append_singleton bs b ih =>
      obtain ⟨hbs, v, hv⟩ := encodes_concat.mp hencodes
      have hvalue : b.value? = some v := by
        unfold Binding.value?
        rw [hv]
        rfl
      rw [valueOf?_concat, boundNames_concat, List.mem_append, ← ih hbs]
      by_cases hname : b.name? = some name
      · simp [hname, hvalue]
      · simp [hname]

end

-- ------------------------------------------------------------- named values

section

variable {name n : String} {v : Value} {named : List (String × Value)}

theorem lookup_named_cons (w : Value) :
    ((name, w) :: named).lookup n
      = if n = name then some w else named.lookup n := by
  rw [List.lookup_cons]
  cases h : n == name <;> simp_all

/-- A name that is set has the value, and all others are as before. -/
theorem lookup_setNamed :
    (Params.setNamed name v named).lookup n
      = if n = name then some v else named.lookup n := by
  fun_induction Params.setNamed name v named with
  | case1 => exact lookup_named_cons v
  | case2 w rest =>
      rw [lookup_named_cons, lookup_named_cons]
      split <;> rfl
  | case3 m w rest hm ih =>
      rw [lookup_named_cons, lookup_named_cons, ih]
      by_cases hn : n = m
      · rw [if_pos hn, if_pos hn, if_neg (hn ▸ hm)]
      · rw [if_neg hn, if_neg hn]

/-- A value takes the place of an older one of its name, or comes last. -/
theorem names_setNamed :
    (Params.setNamed name v named).map Prod.fst
      = if name ∈ named.map Prod.fst then named.map Prod.fst
        else named.map Prod.fst ++ [name] := by
  fun_induction Params.setNamed name v named with
  | case1 => rfl
  | case2 w rest => simp
  | case3 m w rest hm ih =>
      rw [List.map_cons, ih]
      by_cases h : name ∈ rest.map Prod.fst <;> simp [h, Ne.symm hm]

/-- What is looked for among names is found at the first that has it, so
setting a name finds nothing new unless it is a new name. -/
theorem find?_names_setNamed (P : String → Bool) :
    ((Params.setNamed name v named).map Prod.fst).find? P
      = (named.map Prod.fst ++ [name]).find? P := by
  rw [names_setNamed]
  split
  · next hmem =>
    rw [List.find?_append]
    cases hfind : (named.map Prod.fst).find? P with
    | some m => rfl
    | none =>
        have hname : P name = false := by
          simpa using List.find?_eq_none.mp hfind name hmem
        simp [hname]
  · rfl

end

-- ---------------------------------------------------------------- collected

/-- What is collected from some bindings. -/
structure Collected (bs : List Binding) (p : Params) : Prop where
  length : p.positional.length = bs.countP Binding.isPositional
  failure : p.failure = firstFault? [] bs
  positional : Encodes bs → p.positional = positionalValues bs
  lookup : Encodes bs → ∀ name, p.named.lookup name = valueOf? bs name
  find : ∀ P : String → Bool,
    (p.named.map Prod.fst).find? P = (boundNames bs).find? P

section

variable {bs : List Binding} {p : Params}

/-- Collecting goes on with a binding by position. -/
theorem Collected.byPosition (h : Collected bs p) (d : Datum) :
    Collected (bs ++ [.positional d]) (p.bind d) := by
  have hvalue : (Binding.positional d).value? = d.encode.toOption := rfl
  have hfault : (p.bind d).failure
      = (p.failure <|> (Binding.positional d).fault? bs) := by
    simp only [Params.bind, Params.noteFailure, Binding.fault?, Binding.label,
      Binding.datum, ← h.length]
    cases d.encode <;> cases p.failure <;> rfl
  have hnamed : (p.bind d).named = p.named := by
    unfold Params.bind
    cases d.encode <;> rfl
  constructor
  · unfold Params.bind
    rw [List.countP_append, ← h.length]
    cases d.encode <;> simp [Binding.isPositional, Binding.name?]
  · rw [hfault, h.failure, firstFault?_concat, List.nil_append]
  · intro hencodes
    obtain ⟨hbs, v, hv⟩ := encodes_concat.mp hencodes
    have hd : d.encode = .ok v := hv
    rw [positionalValues_concat, ← h.positional hbs, hvalue]
    unfold Params.bind
    rw [hd]
    rfl
  · intro hencodes name
    rw [hnamed, valueOf?_concat, h.lookup (encodes_concat.mp hencodes).1]
    rfl
  · intro P
    rw [hnamed, h.find, boundNames_concat]
    simp [Binding.name?]

/-- So it does with one by name. -/
theorem Collected.byName (h : Collected bs p) (name : String) (d : Datum) :
    Collected (bs ++ [.named name d]) (p.param name d) := by
  have hvalue : (Binding.named name d).value? = d.encode.toOption := rfl
  have hfault : (p.param name d).failure
      = (p.failure <|> (Binding.named name d).fault? bs) := by
    simp only [Params.param, Params.noteFailure, Binding.fault?, Binding.label,
      Binding.datum]
    cases d.encode <;> cases p.failure <;> rfl
  have hpositional : (p.param name d).positional = p.positional := by
    unfold Params.param
    cases d.encode <;> rfl
  have hnamed : ∃ v, (p.param name d).named
      = Params.setNamed (Params.bareName name) v p.named
      ∧ ∀ w, d.encode = .ok w → w = v := by
    unfold Params.param
    cases d.encode with
    | ok v => exact ⟨v, rfl, fun w hw => (Except.ok.inj hw).symm⟩
    | error e => exact ⟨.null, rfl, fun w hw => by cases hw⟩
  obtain ⟨v, hnamed, hv⟩ := hnamed
  constructor
  · rw [hpositional, h.length, List.countP_append]
    rfl
  · rw [hfault, h.failure, firstFault?_concat, List.nil_append]
  · intro hencodes
    rw [hpositional, positionalValues_concat,
      h.positional (encodes_concat.mp hencodes).1]
    exact (List.append_nil _).symm
  · intro hencodes n
    obtain ⟨hbs, w, hw⟩ := encodes_concat.mp hencodes
    have hd : d.encode = .ok w := hw
    cases hv w hd
    rw [hnamed, lookup_setNamed, valueOf?_concat, h.lookup hbs, hvalue, hd]
    by_cases hn : n = Params.bareName name
    · simp [Binding.name?, hn, Except.toOption]
    · simp [Binding.name?, hn, Ne.symm hn]
  · intro P
    rw [hnamed, find?_names_setNamed, List.find?_append, h.find,
      boundNames_concat, List.find?_append]
    rfl

/-- What is collected is told from the bindings. -/
theorem collected_ofBindings (bs : List Binding) :
    Collected bs (Params.ofBindings bs) := by
  induction bs using List.reverseRecOn with
  | nil => exact ⟨rfl, rfl, fun _ => rfl, fun _ _ => rfl, fun _ => rfl⟩
  | append_singleton bs b ih =>
      unfold Params.ofBindings at ih ⊢
      rw [List.foldl_append]
      cases b with
      | positional d => exact ih.byPosition d
      | named name d => exact ih.byName name d

end

-- =============================================================== resolving

/-- The values of some tokens, or the first that has none. -/
theorem valuesOf_eq (named : List (String × Value)) (names : List String) :
    Params.valuesOf named names
      = match names.find? fun name => (named.lookup name).isNone with
        | some name => .error (.unbound name)
        | none => .ok (names.filterMap fun name => named.lookup name) := by
  induction names with
  | nil => rfl
  | cons name names ih =>
      rw [Params.valuesOf, ih, List.find?_cons]
      cases hv : named.lookup name with
      | none => rfl
      | some v =>
          rw [List.filterMap_cons_some
            (f := fun name => named.lookup name) hv]
          cases names.find? fun name => (named.lookup name).isNone <;> rfl

section

variable {bs : List Binding} {p : Params} (sql : String)

/-- What is sent if there is no fault. -/
def resolution (bs : List Binding) (sql : String) : BoundStatement :=
  if tokensOf sql = [] then ⟨sql, positionalValues bs⟩
  else ⟨placedText sql, (tokensOf sql).filterMap (valueOf? bs)⟩

/-- Whether something was bound by position is kept. -/
theorem Collected.positional_isEmpty (h : Collected bs p) :
    p.positional.isEmpty = decide (bs.countP Binding.isPositional = 0) := by
  rw [← h.length]
  cases p.positional <;> simp

/-- So is whether something was bound by name. -/
theorem Collected.named_isEmpty (h : Collected bs p) :
    p.named.isEmpty = decide (boundNames bs = []) := by
  have hfind := h.find fun _ => true
  cases hn : p.named <;> cases hb : boundNames bs <;>
    simp_all

/-- The first name that is not used is the first that was bound. -/
theorem Collected.find?_unused (h : Collected bs p) :
    (p.named.find? fun (name, _) => !(tokensOf sql).contains name).map Prod.fst
      = (boundNames bs).find? (· ∉ tokensOf sql) := by
  have hfind := h.find (· ∉ tokensOf sql)
  rw [List.find?_map] at hfind
  simpa [Function.comp_def] using hfind

/-- A token has the value that was bound to its name last, if it is bound. -/
theorem Collected.valuesOf_eq (h : Collected bs p) (hencodes : Encodes bs)
    (names : List String) :
    Params.valuesOf p.named names
      = match names.find? (· ∉ boundNames bs) with
        | some name => .error (.unbound name)
        | none => .ok (names.filterMap (valueOf? bs)) := by
  have hlookup : (fun name => p.named.lookup name) = valueOf? bs :=
    funext (h.lookup hencodes)
  have hunbound : (fun name => (p.named.lookup name).isNone)
      = fun name => decide (name ∉ boundNames bs) := by
    funext name
    rw [h.lookup hencodes, Bool.eq_iff_iff, decide_eq_true_eq,
      ← valueOf?_isSome_iff hencodes name, Option.isNone_iff_eq_none,
      Option.not_isSome_iff_eq_none]
  rw [DataAccess.valuesOf_eq, hlookup, hunbound]

/-- Parameters resolve to what their bindings say. -/
theorem Collected.resolve_eq (h : Collected bs p) :
    p.resolve sql = match resolutionFault? bs sql with
      | some fault => .error fault
      | none => .ok (resolution bs sql) := by
  unfold Params.resolve resolutionFault?
  rw [h.failure]
  cases hfault : firstFault? [] bs with
  | some fault => rfl
  | none =>
      have hencodes := firstFault?_eq_none_iff.mp hfault
      have hunused := h.find?_unused sql
      dsimp only
      rw [h.positional_isEmpty, h.named_isEmpty, rewriteTokens_eq]
      by_cases hboth : 0 < bs.countP Binding.isPositional ∧ boundNames bs ≠ []
      · rw [if_pos hboth, if_pos (by simpa [Nat.pos_iff_ne_zero] using hboth)]
        rfl
      rw [if_neg hboth, if_neg (by simpa [Nat.pos_iff_ne_zero] using hboth)]
      cases hfind : p.named.find? fun (name, _) =>
          !(tokensOf sql).contains name with
      | some unused =>
          rw [hfind] at hunused
          rw [← hunused]
          rfl
      | none =>
          rw [hfind] at hunused
          rw [← hunused]
          dsimp only
          rw [h.valuesOf_eq hencodes, h.positional hencodes]
          unfold resolution
          by_cases htokens : tokensOf sql = []
          · simp [htokens]
          · cases hunbound : (tokensOf sql).find? (· ∉ boundNames bs) <;>
              by_cases hpos : bs.countP Binding.isPositional = 0 <;>
                simp [htokens, hpos, Nat.pos_iff_ne_zero, Except.map]

end

section

variable {bs : List Binding} {sql : String}

/-- Without a fault, everything that is bound has a stored form and the
statement is bound in one way. -/
theorem resolutionFault?_eq_none_iff :
    resolutionFault? bs sql = none
      ↔ Encodes bs ∧ (ByPosition bs sql ∨ ByName bs sql) := by
  unfold resolutionFault? ByPosition ByName
  have hencodes : firstFault? [] bs = none ↔ Encodes bs :=
    firstFault?_eq_none_iff
  rw [← hencodes]
  cases firstFault? [] bs with
  | some fault => simp
  | none =>
      simp only [Option.orElse_eq_orElse, Option.orElse_eq_or, Option.none_or,
        Option.or_eq_none_iff, ite_eq_right_iff, reduceCtorEq, imp_false,
        Option.map_eq_none_iff, List.find?_eq_none, decide_eq_true_eq,
        not_not, true_and]
      constructor
      · rintro ⟨hboth, hused, hmixed, hbound⟩
        rcases Nat.eq_zero_or_pos (bs.countP Binding.isPositional) with
          hpos | hpos
        · exact Or.inr ⟨hpos, fun name => ⟨hused name, hbound name⟩⟩
        · exact Or.inl ⟨not_not.mp fun h => hboth ⟨hpos, h⟩,
            not_not.mp fun h => hmixed ⟨hpos, h⟩⟩
      · rintro (⟨hnames, htokens⟩ | ⟨hpos, hsame⟩)
        · simp [hnames, htokens]
        · simp [hpos, hsame]

/-- The tokens of a statement that is bound by name have values. -/
theorem values_eq_iff (hencodes : Encodes bs) (h : ByName bs sql)
    {values : List Value} :
    values.map some = (tokensOf sql).map (valueOf? bs)
      ↔ values = (tokensOf sql).filterMap (valueOf? bs) := by
  have hsome : ∀ name ∈ tokensOf sql, (valueOf? bs name).isSome :=
    fun name hname =>
      (valueOf?_isSome_iff hencodes name).mpr ((h.2 name).mpr hname)
  have hall : ((tokensOf sql).filterMap (valueOf? bs)).map some
      = (tokensOf sql).map (valueOf? bs) := by
    generalize tokensOf sql = names at hsome
    induction names with
    | nil => rfl
    | cons name names ih =>
        obtain ⟨hname, hnames⟩ := List.forall_mem_cons.mp hsome
        obtain ⟨v, hv⟩ := Option.isSome_iff_exists.mp hname
        rw [List.filterMap_cons_some hv, List.map_cons, List.map_cons, hv,
          ih hnames]
  rw [← hall, List.map_inj_right fun _ _ => Option.some.inj]

/-- What is sent is what the bindings make of the statement. -/
theorem resolves_iff {st : BoundStatement} :
    Resolves bs sql st
      ↔ resolutionFault? bs sql = none ∧ st = resolution bs sql := by
  unfold resolution
  rw [resolutionFault?_eq_none_iff]
  constructor
  · rintro (⟨hencodes, hway⟩ | ⟨hencodes, hway, hvalues⟩)
    · exact ⟨⟨hencodes, Or.inl hway⟩, by rw [if_pos hway.2]⟩
    · refine ⟨⟨hencodes, Or.inr hway⟩, ?_⟩
      rw [(values_eq_iff hencodes hway).mp hvalues]
      split
      · next htokens =>
        rw [placedText_eq htokens, htokens, positionalValues_eq_nil hway.1]
        rfl
      · rfl
  · rintro ⟨⟨hencodes, hway⟩, rfl⟩
    split
    · next htokens =>
      refine .byPosition hencodes ⟨?_, htokens⟩
      rcases hway with hway | hway
      · exact hway.1
      · refine List.eq_nil_iff_forall_not_mem.mpr fun name hname => ?_
        have hused := (hway.2 name).mp hname
        rw [htokens] at hused
        cases hused
    · next htokens =>
      rcases hway with hway | hway
      · exact absurd hway.2 htokens
      · exact .byName hencodes hway ((values_eq_iff hencodes hway).mpr rfl)

/-- What is sent does not depend on the order in which names were bound. -/
theorem Resolves.congr {bs' : List Binding} {st : BoundStatement}
    (h : Resolves bs sql st) (hencodes : Encodes bs')
    (hpositional : bs'.filter Binding.isPositional
      = bs.filter Binding.isPositional)
    (hvalues : ∀ name, valueOf? bs' name = valueOf? bs name) :
    Resolves bs' sql st := by
  have hnames : ∀ (hbs : Encodes bs) name,
      name ∈ boundNames bs' ↔ name ∈ boundNames bs := by
    intro hbs name
    rw [← valueOf?_isSome_iff hencodes, hvalues, valueOf?_isSome_iff hbs]
  cases h with
  | byPosition hbs h =>
      have hnone : boundNames bs' = [] := by
        refine List.eq_nil_iff_forall_not_mem.mpr fun name hname => ?_
        have hmem := (hnames hbs name).mp hname
        rw [h.1] at hmem
        cases hmem
      have heq : positionalValues bs = positionalValues bs' := by
        unfold positionalValues
        rw [hpositional]
      rw [heq]
      exact .byPosition hencodes ⟨hnone, h.2⟩
  | byName hbs h hmap =>
      refine .byName hencodes ⟨?_, fun name => ?_⟩ ?_
      · rw [List.countP_eq_length_filter, hpositional,
          ← List.countP_eq_length_filter]
        exact h.1
      · rw [hnames hbs]
        exact h.2 name
      · rw [hmap]
        exact List.map_congr_left fun name _ => (hvalues name).symm

/-- What is sent for a parameter is the stored form of what was bound. -/
theorem Resolves.encoded {st : BoundStatement} (h : Resolves bs sql st) :
    ∀ v ∈ st.params, ∃ b ∈ bs, b.datum.encode = .ok v := by
  have hvalue : ∀ {b : Binding} {v : Value}, b.value? = some v →
      b.datum.encode = .ok v := by
    intro b v hv
    unfold Binding.value? at hv
    cases hd : b.datum.encode with
    | ok w =>
        rw [hd] at hv
        exact congrArg Except.ok (Option.some.inj hv)
    | error e =>
        rw [hd] at hv
        cases hv
  intro v hv
  cases h with
  | byPosition _ _ =>
      obtain ⟨b, hb, hbv⟩ := List.mem_filterMap.mp hv
      exact ⟨b, (List.mem_filter.mp hb).1, hvalue hbv⟩
  | byName _ _ hmap =>
      have hsome := hmap ▸ List.mem_map_of_mem (f := some) hv
      obtain ⟨name, -, hname⟩ := List.mem_map.mp hsome
      obtain ⟨b, hb, hbv⟩ := Option.bind_eq_some_iff.mp hname
      exact ⟨b, (List.mem_filter.mp (List.mem_of_getLast? hb)).1, hvalue hbv⟩

end

-- ============================================================ nothing is sent

section

variable {p : Params} {sql : String} {fault : ParamFault}

/-- A statement whose parameters have a fault leaves the session as it is. -/
theorem Action.resolve_of_fault (h : p.resolve sql = .error fault)
    (s : Session) (t : TransactionId) :
    Action.resolve t sql p s
      = .error (.database (.parameters fault) (s.context t sql [])) s := by
  unfold Action.resolve
  rw [h]
  rfl

/-- A statement whose parameters do not fit is not sent. -/
theorem Action.execute_of_fault (h : p.resolve sql = .error fault)
    (s : Session) (t : TransactionId) :
    Action.execute t sql p s
      = .error (.database (.parameters fault) (s.context t sql [])) s := by
  unfold Action.execute
  exact EStateM.bind_of_eq_error (Action.resolve_of_fault h s t) _

/-- Nor is a query. -/
theorem Action.fetchMap_of_fault {α : Type} (h : p.resolve sql = .error fault)
    (s : Session) (t : TransactionId) (f : Row → Action α) :
    Action.fetchMap t sql p f s
      = .error (.database (.parameters fault) (s.context t sql [])) s := by
  unfold Action.fetchMap
  exact EStateM.bind_of_eq_error (Action.resolve_of_fault h s t) _

/-- Nor is a stream opened for one. -/
theorem QueryStream.openMapped_of_fault {σ α : Type}
    (h : p.resolve sql = .error fault) (s : Session)
    (mapper : TransactionId → Row → σ → Action (α × σ)) (memory : σ) :
    QueryStream.openMapped sql p mapper memory s
      = .error (.database (.parameters fault) (closedContext sql)) s := by
  unfold QueryStream.openMapped
  rw [h]
  rfl

end

-- ==================================================================== results

/-- The bindings of a statement resolve exactly if every datum has a stored
form and either nothing is bound by name and there are no tokens, or nothing
is bound by position and just the tokens are bound. What is sent then is the
statement with the values bound by position, in order, or its rewritten text
with the value that was bound last to the name of each token; each of them is
the stored form of something that was bound, and only what was bound to a
name last counts. Otherwise the fault is the first of those that
`resolutionFault?` lists. Where a datum has no stored form nothing is sent,
whatever else is bound. -/
theorem resolve_ofBindings (bs : List Binding) (sql : String) :
    (∀ st, (Params.ofBindings bs).resolve sql = .ok st ↔ Resolves bs sql st)
      ∧ (∀ fault, (Params.ofBindings bs).resolve sql = .error fault
          ↔ resolutionFault? bs sql = some fault)
      ∧ ((∃ st, Resolves bs sql st)
          ↔ Encodes bs ∧ (ByPosition bs sql ∨ ByName bs sql))
      ∧ (∀ st, Resolves bs sql st →
          (∀ v ∈ st.params, ∃ b ∈ bs, b.datum.encode = .ok v)
            ∧ ∀ bs', Encodes bs' →
              bs'.filter Binding.isPositional
                = bs.filter Binding.isPositional →
              (∀ name, valueOf? bs' name = valueOf? bs name) →
              (Params.ofBindings bs').resolve sql = .ok st)
      ∧ (¬ Encodes bs → ∃ fault, firstFault? [] bs = some fault
          ∧ (Params.ofBindings bs).resolve sql = .error fault
          ∧ ∀ (s : Session) (t : TransactionId),
            (Action.execute t sql (.ofBindings bs)).after s = s
            ∧ (∀ {α : Type} (f : Row → Action α),
              (Action.fetchMap t sql (.ofBindings bs) f).after s = s)
            ∧ ∀ {σ α : Type} (mapper : TransactionId → Row → σ →
                Action (α × σ)) (memory : σ),
              (QueryStream.openMapped sql (.ofBindings bs) mapper
                memory).after s = s) := by
  have hok : ∀ (bs : List Binding) (st : BoundStatement),
      (Params.ofBindings bs).resolve sql = .ok st ↔ Resolves bs sql st := by
    intro bs st
    rw [(collected_ofBindings bs).resolve_eq, resolves_iff]
    cases resolutionFault? bs sql <;> simp [eq_comm]
  refine ⟨hok bs, fun fault => ?_, ?_, fun st h => ⟨h.encoded, ?_⟩, ?_⟩
  · rw [(collected_ofBindings bs).resolve_eq]
    cases resolutionFault? bs sql <;> simp
  · rw [← resolutionFault?_eq_none_iff]
    simp only [resolves_iff, exists_and_left, exists_eq, and_true]
  · -- only the last value of each name counts
    intro bs' hencodes hpositional hvalues
    exact (hok bs' st).mpr (h.congr hencodes hpositional hvalues)
  · -- a datum without a stored form: its fault comes before any other
    intro hencodes
    have hfirst : firstFault? [] bs ≠ none :=
      fun hnone => hencodes (firstFault?_eq_none_iff.mp hnone)
    obtain ⟨fault, hfault⟩ := Option.ne_none_iff_exists'.mp hfirst
    have hresolve : (Params.ofBindings bs).resolve sql = .error fault := by
      rw [(collected_ofBindings bs).resolve_eq]
      unfold resolutionFault?
      rw [hfault]
      rfl
    refine ⟨fault, hfault, hresolve, fun s t => ⟨?_, fun f => ?_,
      fun mapper memory => ?_⟩⟩
    · exact EStateM.after_of_eq_error (Action.execute_of_fault hresolve s t)
    · exact EStateM.after_of_eq_error (Action.fetchMap_of_fault hresolve s t f)
    · exact EStateM.after_of_eq_error
        (QueryStream.openMapped_of_fault hresolve s mapper memory)

/-- Two names, one of which is bound again. -/
def rebound : List Binding :=
  [.named "b" (.stored (.int32 1)), .named ":a" (.stored (.int32 2)),
   .named "b" (.stored .null)]

/-- A name that is bound to something without a stored form, and then again
to a value. -/
def repaired : List Binding :=
  [.named "a" (.formless .null .keyNotString), .named "a" (.stored (.int32 2)),
   .positional (.stored .null)]

/-- The value bound last counts, in any order of the names; what had no
stored form once is not made good for. -/
theorem resolve_rebound :
    Resolves rebound "SELECT :a, ':c', :b::int, :a"
        ⟨"SELECT ?, ':c', ?::int, ?", [.int32 2, .null, .int32 2]⟩
      ∧ (Params.ofBindings rebound.reverse.dropLast).resolve
          "SELECT :a, ':c', :b::int, :a"
        = .ok ⟨"SELECT ?, ':c', ?::int, ?", [.int32 2, .null, .int32 2]⟩
      ∧ ∃ fault, (Params.ofBindings repaired).resolve "SELECT :a"
        = .error fault := by
  have hresolves : Resolves rebound "SELECT :a, ':c', :b::int, :a"
      ⟨"SELECT ?, ':c', ?::int, ?", [.int32 2, .null, .int32 2]⟩ :=
    ((resolve_ofBindings rebound _).1 _).mp (by decide +kernel)
  obtain ⟨-, -, -, hsent, -⟩ :=
    resolve_ofBindings rebound "SELECT :a, ':c', :b::int, :a"
  obtain ⟨-, -, -, -, hfault⟩ := resolve_ofBindings repaired "SELECT :a"
  refine ⟨hresolves, (hsent _ hresolves).2 _ ?_ (by decide) fun name => ?_, ?_⟩
  · simp [Encodes, rebound, Binding.datum, Datum.encode]
  · have ha : Params.bareName ":a" = "a" := by decide +kernel
    have hb : Params.bareName "b" = "b" := by decide +kernel
    by_cases hna : "a" = name
    · subst hna
      decide +kernel
    · by_cases hnb : "b" = name
      · subst hnb
        decide +kernel
      · simp [valueOf?, rebound, Binding.name?, ha, hb, hna, hnb]
  · obtain ⟨fault, -, hresolve, -⟩ := hfault (by
      simp [Encodes, repaired, Binding.datum, Datum.encode])
    exact ⟨fault, hresolve⟩

end DataAccess
