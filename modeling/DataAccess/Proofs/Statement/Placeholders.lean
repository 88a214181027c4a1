/-
Question marks and values. A driver gives the first value to the first
question mark of a statement, and so on; a question mark inside of quoted text
is text. So a statement and its values fit together if there are as many of
the one as of the other, and `placeholders` counts the question marks by
reading the text from the left, with the quote that is open kept in mind.

# Tokens and marks

Every token becomes one question mark, and it stands outside of quoted text
(`placeholders_rewritten`). So a statement that is bound by name has the
question marks of its tokens and those that stood there before, and values for
its tokens only. Nothing looks at the question marks that stood there before:
a statement with some of its own is accepted like any other, and then it has
fewer values than question marks (`resolve_fitsByName_iff`).
-/
import DataAccess.Proofs.Statement.Resolution
import DataAccess.Proofs.Statement.Rewritten

namespace DataAccess

-- ================================================================== counting

/-- The quote that is open after a character, if one is. -/
def nextQuote : Option Char → Char → Option Char
  | none, c => if isQuote c then some c else none
  | some quote, c => if c = quote then none else some quote

/-- The question marks of a text that are not quoted; a quote may be open in
front of it. -/
def marksFrom : Option Char → List Char → Nat
  | _, [] => 0
  | quote, c :: cs =>
    (if quote = none ∧ c = '?' then 1 else 0) + marksFrom (nextQuote quote c) cs

/-- The question marks of a statement outside of quoted text. -/
def placeholders (sql : String) : Nat :=
  marksFrom none sql.toList

/-- Whether a statement has both tokens and question marks of its own. -/
def Mixes (sql : String) : Prop :=
  tokensOf sql ≠ [] ∧ placeholders sql ≠ 0

-- --------------------------------------------------------- texts put together

/-- What comes after a text is read with the quote that it leaves open. -/
theorem marksFrom_append (quote : Option Char) (cs ds : List Char) :
    marksFrom quote (cs ++ ds)
      = marksFrom quote cs + marksFrom (cs.foldl nextQuote quote) ds := by
  induction cs generalizing quote with
  | nil => exact (Nat.zero_add _).symm
  | cons c cs ih =>
      rw [List.cons_append, marksFrom, marksFrom, ih, List.foldl_cons,
        Nat.add_assoc]

/-- A text with so many question marks that leaves no quote open. -/
structure HasMarks (text : String) (n : Nat) : Prop where
  count : placeholders text = n
  closed : text.toList.foldl nextQuote none = none

instance {text : String} {n : Nat} : Decidable (HasMarks text n) :=
  decidable_of_iff
    (placeholders text = n ∧ text.toList.foldl nextQuote none = none)
    ⟨fun h => ⟨h.1, h.2⟩, fun h => ⟨h.count, h.closed⟩⟩

/-- Marks add up. -/
theorem HasMarks.append {text text' : String} {m n : Nat}
    (h : HasMarks text m) (h' : HasMarks text' n) :
    HasMarks (text ++ text') (m + n) := by
  constructor
  · unfold placeholders
    rw [String.toList_append, marksFrom_append, h.closed]
    exact congrArg₂ (· + ·) h.count h'.count
  · rw [String.toList_append, List.foldl_append, h.closed, h'.closed]

-- ------------------------------------------------------------------ segments

/-- Quoted text goes on to the next quote of its kind. -/
theorem marksFrom_inside {quote : Char} {inside : List Char}
    (h : quote ∉ inside) (rest : List Char) :
    marksFrom (some quote) (inside ++ rest) = marksFrom (some quote) rest := by
  induction inside with
  | nil => rfl
  | cons c inside ih =>
      rw [List.mem_cons, not_or] at h
      rw [List.cons_append, marksFrom, nextQuote, if_neg (Ne.symm h.1),
        if_neg (fun h => nomatch h.1), Nat.zero_add, ih h.2]

/-- Outside of quoted text a character that is no quote is counted if it is a
question mark. -/
theorem marksFrom_outside {c : Char} (h : isQuote c = false)
    (rest : List Char) :
    marksFrom none (c :: rest)
      = (if c = '?' then 1 else 0) + marksFrom none rest := by
  have hquote : ¬ isQuote c = true := by
    rw [h]
    exact Bool.false_ne_true
  rw [marksFrom, nextQuote, if_neg hquote]
  simp only [true_and]

/-- A quote is no question mark. -/
theorem marksFrom_quote {quote : Char} (hopens : isQuote quote = true)
    (rest : List Char) :
    marksFrom none (quote :: rest) = marksFrom (some quote) rest := by
  have hmark : quote ≠ '?' := by
    rintro rfl
    cases hopens
  rw [marksFrom, nextQuote, if_pos hopens, if_neg (fun h => hmark h.2),
    Nat.zero_add]

/-- Neither a quote nor a question mark is in a word. -/
theorem marksFrom_word {cs : List Char}
    (h : ∀ c ∈ cs, Text.isWordChar c = true) (rest : List Char) :
    marksFrom none (cs ++ rest) = marksFrom none rest := by
  induction cs with
  | nil => rfl
  | cons c cs ih =>
      obtain ⟨hc, hcs⟩ := List.forall_mem_cons.mp h
      have hquote : isQuote c = false := by
        refine Bool.eq_false_iff.mpr fun hquote => ?_
        unfold isQuote at hquote
        rw [Bool.or_eq_true, beq_iff_eq, beq_iff_eq] at hquote
        rcases hquote with rfl | rfl <;> cases hc
      have hmark : c ≠ '?' := by
        rintro rfl
        cases hc
      rw [List.cons_append, marksFrom_outside hquote, if_neg hmark,
        Nat.zero_add, ih hcs]

theorem isWordChar_of_isName {name : List Char} (h : IsName name) :
    ∀ c ∈ name, Text.isWordChar c = true := by
  cases name with
  | nil => cases h
  | cons d name =>
      exact List.forall_mem_cons.mpr
        ⟨Text.isWordChar_of_isWordStart h.1, h.2⟩

/-- A question mark outside of quoted text is a segment by itself. -/
theorem Segmented.marksFrom_eq {cs : List Char} {segments : List Segment}
    (h : Segmented cs segments) :
    marksFrom none cs = segments.count (.other '?') := by
  induction h with
  | nil => rfl
  | quoted hopens hinside _ ih =>
      rw [marksFrom_quote hopens, marksFrom_inside hinside, marksFrom,
        nextQuote, if_pos rfl, ih]
      simp
  | @unclosed quote inside hopens hinside =>
      have hquoted := marksFrom_inside hinside []
      rw [List.append_nil] at hquoted
      rw [marksFrom_quote hopens, hquoted]
      rfl
  | cast _ ih =>
      rw [marksFrom_outside rfl, marksFrom_outside rfl, ih]
      simp
  | @token name rest segments hname _ _ ih =>
      rw [marksFrom_outside rfl, marksFrom_word (isWordChar_of_isName hname),
        ih]
      simp
  | other hquote _ _ ih =>
      rw [marksFrom_outside hquote, ih, List.count_cons, Nat.add_comm]
      simp

-- ================================================================ rewritten

/-- A question mark of the rewritten text was one before, or a token. -/
theorem count_marked (segments : List Segment) :
    (segments.map Segment.marked).count (.other '?')
      = segments.count (.other '?')
        + (segments.filterMap Segment.name?).length := by
  induction segments with
  | nil => rfl
  | cons s segments ih =>
      rw [List.map_cons, List.count_cons, List.count_cons, ih]
      cases s with
      | token name =>
          simp [Segment.marked, Segment.name?, Nat.add_assoc]
      | quoted text =>
          simp [Segment.marked, Segment.name?, List.filterMap_cons]
      | cast => simp [Segment.marked, Segment.name?, List.filterMap_cons]
      | other c =>
          simp [Segment.marked, Segment.name?, List.filterMap_cons,
            Nat.add_right_comm]

/-- The question marks of a rewritten statement are those of the statement
and one for each token. -/
theorem placeholders_placedText (sql : String) :
    placeholders (placedText sql)
      = placeholders sql + (tokensOf sql).length := by
  have hsegments := segmented_segmentsOf sql.toList
  unfold placeholders placedText tokensOf
  rw [String.toList_ofList, hsegments.marked.marksFrom_eq,
    hsegments.marksFrom_eq, count_marked, List.length_map]

-- ==================================================================== names

/-- The tokens have names. -/
theorem Segmented.isName {cs : List Char} {segments : List Segment}
    (h : Segmented cs segments) :
    ∀ name ∈ segments.filterMap Segment.name?, IsName name := by
  induction h with
  | nil => exact fun _ h => nomatch h
  | unclosed _ _ => exact fun _ h => nomatch h
  | quoted _ _ _ ih => exact ih
  | cast _ ih => exact ih
  | token hname _ _ ih => exact List.forall_mem_cons.mpr ⟨hname, ih⟩
  | other _ _ _ ih => exact ih

/-- A name stands for itself. -/
theorem bareName_of_isName {name : List Char} (h : IsName name) :
    Params.bareName (.ofList name) = .ofList name := by
  unfold Params.bareName
  rw [String.toList_ofList]
  cases name with
  | nil => cases h
  | cons c name =>
      have hcolon : ¬ (c == ':') = true := by
        rw [beq_iff_eq]
        rintro rfl
        cases h.1
      rw [List.dropWhile_cons, if_neg hcolon]

/-- A value for every token of a statement. -/
def bindTokens (sql : String) : List Binding :=
  (tokensOf sql).map (.named · (.stored .null))

theorem countP_bindTokens (sql : String) :
    (bindTokens sql).countP Binding.isPositional = 0 := by
  rw [List.countP_eq_zero]
  intro b hb
  obtain ⟨name, -, rfl⟩ := List.mem_map.mp hb
  exact Bool.false_ne_true

/-- Parameters that are null can be encoded. -/
theorem encodes_bindTokens (sql : String) : Encodes (bindTokens sql) := by
  intro b hb
  obtain ⟨name, -, rfl⟩ := List.mem_map.mp hb
  exact ⟨.null, rfl⟩

/-- Every token is bound. -/
theorem boundNames_bindTokens (sql : String) :
    boundNames (bindTokens sql) = tokensOf sql := by
  have hbare : ∀ name ∈ tokensOf sql, Params.bareName name = id name := by
    intro name hname
    obtain ⟨cs, hcs, rfl⟩ := List.mem_map.mp hname
    exact bareName_of_isName ((segmented_segmentsOf sql.toList).isName cs hcs)
  unfold boundNames bindTokens
  rw [List.filterMap_map]
  show (tokensOf sql).filterMap (fun name => some (Params.bareName name))
    = tokensOf sql
  rw [List.filterMap_eq_map', List.map_congr_left hbare, List.map_id]

-- ================================================================= resolved

section

variable {bs : List Binding} {sql : String} {st : BoundStatement}

/-- Bindings resolve as their declaration says. -/
theorem ofBindings_eq_ok_iff :
    (Params.ofBindings bs).resolve sql = .ok st ↔ Resolves bs sql st := by
  rw [(collected_ofBindings bs).resolve_eq, resolves_iff]
  cases resolutionFault? bs sql <;> simp [eq_comm]

/-- By name, there is a value for each token, and the question marks are the
tokens and those that stood there before. -/
theorem Resolves.placeholders_eq (h : Resolves bs sql st)
    (hnamed : bs.countP Binding.isPositional = 0) :
    st.params.length = (tokensOf sql).length
      ∧ placeholders st.sql = placeholders sql + st.params.length := by
  cases h with
  | byPosition _ hway =>
      rw [positionalValues_eq_nil hnamed, hway.2]
      exact ⟨rfl, rfl⟩
  | byName _ _ hvalues =>
      have hlength := congrArg List.length hvalues
      rw [List.length_map, List.length_map] at hlength
      exact ⟨hlength, by rw [placeholders_placedText, hlength]⟩

/-- Bindings by name make something of a statement exactly if they bind its
tokens, whatever question marks it has. -/
theorem exists_resolves_iff (hnamed : bs.countP Binding.isPositional = 0) :
    (∃ st, Resolves bs sql st)
      ↔ Encodes bs ∧ ∀ name, name ∈ boundNames bs ↔ name ∈ tokensOf sql := by
  have hway : ByPosition bs sql ∨ ByName bs sql
      ↔ ∀ name, name ∈ boundNames bs ↔ name ∈ tokensOf sql := by
    constructor
    · rintro (h | h) name
      · rw [h.1, h.2]
      · exact h.2 name
    · exact fun h => Or.inr ⟨hnamed, h⟩
  rw [← hway, ← resolutionFault?_eq_none_iff]
  simp only [resolves_iff, exists_and_left, exists_eq, and_true]

end

/-- What is accepted by name fits: there are as many question marks as values,
and a statement with tokens has no question marks of its own. -/
def FitsByName (sql : String) : Prop :=
  ∀ bs : List Binding, bs.countP Binding.isPositional = 0 →
    ∀ st, (Params.ofBindings bs).resolve sql = .ok st →
      placeholders st.sql = st.params.length ∧ ¬ Mixes sql

/-- Names are bound to a statement exactly if they are those of its tokens;
question marks of its own are not asked for, and so every statement is
accepted with some names. It has a value for each of its tokens then, and is
short of one for each question mark of its own: all that is accepted fits
exactly if it has none of them. -/
theorem resolve_fitsByName_iff (sql : String) :
    (FitsByName sql ↔ placeholders sql = 0)
      ∧ (∀ bs : List Binding, bs.countP Binding.isPositional = 0 →
        ((∃ st, (Params.ofBindings bs).resolve sql = .ok st)
          ↔ Encodes bs ∧ ∀ name, name ∈ boundNames bs ↔ name ∈ tokensOf sql)
        ∧ ∀ st, (Params.ofBindings bs).resolve sql = .ok st →
          st.params.length = (tokensOf sql).length
            ∧ placeholders st.sql = placeholders sql + st.params.length)
      ∧ ∃ bs st, bs.countP Binding.isPositional = 0
        ∧ (Params.ofBindings bs).resolve sql = .ok st := by
  obtain ⟨st, hst⟩ := (exists_resolves_iff (countP_bindTokens sql)).mpr
    ⟨encodes_bindTokens sql, fun name => by rw [boundNames_bindTokens]⟩
  refine ⟨⟨fun h => ?_, fun h bs hnamed st hst => ?_⟩,
    fun bs hnamed => ⟨?_, fun st hst => ?_⟩,
    bindTokens sql, st, countP_bindTokens sql, ofBindings_eq_ok_iff.mpr hst⟩
  · obtain ⟨hfits, -⟩ :=
      h _ (countP_bindTokens sql) st (ofBindings_eq_ok_iff.mpr hst)
    obtain ⟨-, hmarks⟩ := hst.placeholders_eq (countP_bindTokens sql)
    omega
  · obtain ⟨-, hmarks⟩ := (ofBindings_eq_ok_iff.mp hst).placeholders_eq hnamed
    rw [h, Nat.zero_add] at hmarks
    exact ⟨hmarks, fun hmixes => hmixes.2 h⟩
  · simp only [ofBindings_eq_ok_iff]
    exact exists_resolves_iff hnamed
  · exact (ofBindings_eq_ok_iff.mp hst).placeholders_eq hnamed

/-- The question mark in quotes is text, and the values fit. The other
statement has a question mark of its own, in front of its token: it is
accepted, and what is bound to the token meets the question mark. -/
theorem resolve_fitsByName_update :
    FitsByName "UPDATE t SET a = '?', b = :a WHERE c = :b"
      ∧ ¬ FitsByName "UPDATE t SET a = ? WHERE b = :b"
      ∧ (Params.ofBindings [.named "b" (.stored (.int32 1))]).resolve
          "UPDATE t SET a = ? WHERE b = :b"
        = .ok ⟨"UPDATE t SET a = ? WHERE b = ?", [.int32 1]⟩ := by
  refine ⟨?_, fun h => ?_, by decide +kernel⟩
  · exact (resolve_fitsByName_iff _).1.mpr (by decide +kernel)
  · exact absurd ((resolve_fitsByName_iff _).1.mp h) (by decide +kernel)

/-- Not every statement that is accepted fits. -/
theorem not_fitsByName : ¬ ∀ sql, FitsByName sql := by
  intro h
  obtain ⟨hfits, -⟩ := h "UPDATE t SET a = ? WHERE b = :b"
    [.named "b" (.stored (.int32 1))] rfl
    ⟨"UPDATE t SET a = ? WHERE b = ?", [.int32 1]⟩ (by decide +kernel)
  have hmarks : placeholders "UPDATE t SET a = ? WHERE b = ?" = 2 := by
    decide +kernel
  rw [hmarks] at hfits
  cases hfits

end DataAccess
