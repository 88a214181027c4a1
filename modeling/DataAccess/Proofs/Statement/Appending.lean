/-
A statement behind another text. Where a text has no quotes and no colons,
nothing in it starts a segment that goes on behind it: each of its characters
is a segment by itself. So a statement that is put behind it is read as if it
stood alone. It is rewritten to the same, behind that text, and has the same
tokens (`rewriteTokens?_append`).

A resolution asks the statement for nothing but its tokens and its rewritten
text (`Params.resolve_eq`). Hence parameters resolve behind such a text exactly
if they resolve without it, and else have the same fault
(`Params.resolve_append`).
-/
import DataAccess.Proofs.Statement.Resolution

namespace DataAccess

-- =============================================================== plain text

/-- A text without quotes and colons. -/
def IsPlainText (text : String) : Prop :=
  ∀ c ∈ text.toList, isQuote c = false ∧ c ≠ ':'

instance : DecidablePred IsPlainText :=
  fun text => List.decidableBAll _ text.toList

/-- Plain texts make a plain text. -/
theorem isPlainText_append {text more : String} (h : IsPlainText text)
    (hmore : IsPlainText more) : IsPlainText (text ++ more) := by
  intro c hc
  rw [String.toList_append, List.mem_append] at hc
  exact hc.elim (h c) (hmore c)

/-- So do several with a plain separator. -/
theorem isPlainText_join {separator : String} (h : IsPlainText separator)
    {parts : List String} (hparts : ∀ part ∈ parts, IsPlainText part) :
    IsPlainText (Text.join separator parts) := by
  unfold Text.join
  induction parts with
  | nil => exact nofun
  | cons part parts ih =>
      obtain ⟨hpart, hrest⟩ := List.forall_mem_cons.mp hparts
      cases parts with
      | nil => rwa [String.intercalate_singleton]
      | cons next parts =>
          rw [String.intercalate_cons_cons]
          exact isPlainText_append (isPlainText_append hpart h) (ih hrest)

-- ============================================================= the segments

/-- Plain text in front of a text is that many segments more. -/
theorem Segmented.behind {cs : List Char} {segments : List Segment}
    (h : Segmented cs segments) {front : List Char}
    (hfront : ∀ c ∈ front, isQuote c = false ∧ c ≠ ':') :
    Segmented (front ++ cs) (front.map .other ++ segments) := by
  induction front with
  | nil => exact h
  | cons c front ih =>
      obtain ⟨⟨hquote, hcolon⟩, hrest⟩ := List.forall_mem_cons.mp hfront
      exact .other hquote (fun hc => absurd hc hcolon) (ih hrest)

section

variable {text : String} (h : IsPlainText text) (sql : String)
include h

theorem segmentsOf_append :
    segmentsOf (text ++ sql).toList
      = text.toList.map .other ++ segmentsOf sql.toList := by
  rw [String.toList_append]
  exact ((segmented_segmentsOf sql.toList).behind h).eq_segmentsOf.symm

theorem placedText_append :
    placedText (text ++ sql) = text ++ placedText sql := by
  have hfront : (text.toList.map Segment.other).flatMap Segment.placed
      = text.toList := by
    rw [List.flatMap_map]
    exact List.flatMap_singleton' _
  unfold placedText
  rw [segmentsOf_append h, List.flatMap_append, hfront, String.ofList_append,
    String.ofList_toList]

/-- A plain text in front adds no token. -/
theorem tokensOf_append : tokensOf (text ++ sql) = tokensOf sql := by
  have hfront : (text.toList.map Segment.other).filterMap Segment.name?
      = [] := by
    simp [Segment.name?]
  unfold tokensOf
  rw [segmentsOf_append h, List.filterMap_append, hfront, List.nil_append]

/-- A scan does not tell the place where a plain text ends from the start of
a statement. -/
theorem rewriteTokens?_append :
    rewriteTokens? (text ++ sql)
      = some (text ++ (rewriteTokens sql).1, (rewriteTokens sql).2) := by
  rw [rewriteTokens_eq, ← placedText_append h, ← tokensOf_append h,
    rewriteTokens?_eq]
  rfl

end

-- ============================================================ the resolution

namespace Params

/-- The values for a statement with these tokens, or the fault of its
parameters. -/
def valuesFor (p : Params) (names : List String) :
    Except ParamFault (List Value) :=
  match p.failure with
  | some fault => .error fault
  | none =>
    if !p.positional.isEmpty && !p.named.isEmpty then .error .mixed
    else
      match p.named.find? fun (name, _) => !names.contains name with
      | some (unused, _) => .error (.unused unused)
      | none =>
        if names.isEmpty then .ok p.positional
        else if !p.positional.isEmpty then .error .mixed
        else valuesOf p.named names

variable {params : Params} {text sql : String}

/-- Of a statement its tokens and its rewritten text count, and no more. -/
theorem resolve_eq (params : Params) (sql : String) :
    params.resolve sql
      = (params.valuesFor (tokensOf sql)).map (⟨placedText sql, ·⟩) := by
  unfold resolve valuesFor
  rw [rewriteTokens_eq]
  cases params.failure with
  | some fault => rfl
  | none =>
      dsimp only
      split
      · rfl
      cases params.named.find? fun (name, _) =>
          !(tokensOf sql).contains name with
      | some unused => rfl
      | none =>
          dsimp only
          split
          · next htokens =>
            -- without tokens the rewritten text is the statement
            rw [placedText_eq (List.isEmpty_iff.mp htokens)]
            rfl
          split
          · rfl
          · rfl

/-- What is sent is the rewritten text, however its parameters are bound. -/
theorem sql_of_resolve {st : BoundStatement}
    (h : params.resolve sql = .ok st) : st.sql = placedText sql := by
  rw [resolve_eq] at h
  obtain ⟨values, -, rfl⟩ := Except.exists_of_map_eq_ok h
  rfl

/-- Parameters have the same fault behind a plain text, or the same values. -/
theorem resolve_append (h : IsPlainText text) (params : Params)
    (sql : String) :
    params.resolve (text ++ sql)
      = (params.resolve sql).map fun st => ⟨text ++ st.sql, st.params⟩ := by
  rw [resolve_eq, resolve_eq, placedText_append h, tokensOf_append h]
  cases params.valuesFor (tokensOf sql) <;> rfl

end Params

end DataAccess
