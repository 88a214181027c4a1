/-
A rewritten statement, read again. A question mark stands where a token
stood, and every other segment is what it was (`Segmented.marked`). So there
is nothing left to rewrite, and quoted text and casts are those of the
statement (`rewriteTokens_rewritten`).

# At the seams

A segment can only change by what comes after it. A token ends before a
character that cannot be in a name, and a question mark ends before any; so
what stood behind the token stands behind the mark as it did. In front of
the token there could be a lone colon only, as everything else ends by
itself. But a lone colon has no colon behind it, and a token starts with
one: no token follows it, and it stays alone (`head?_placed`).
-/
import DataAccess.Proofs.Statement.Scanning

namespace DataAccess

namespace Segment

/-- The segment that is in the place of another in the rewritten text. -/
def marked : Segment → Segment
  | .token _ => .other '?'
  | s => s

/-- Whether a segment is quoted text or a cast. -/
def isVerbatim : Segment → Bool
  | .quoted _ => true
  | .cast => true
  | _ => false

@[simp]
theorem text_marked (s : Segment) : s.marked.text = s.placed := by
  cases s <;> rfl

@[simp]
theorem placed_marked (s : Segment) : s.marked.placed = s.placed := by
  cases s <;> rfl

@[simp]
theorem name?_marked (s : Segment) : s.marked.name? = none := by
  cases s <;> rfl

/-- Quoted text and casts are left as they are, and nothing becomes one. -/
theorem filter_marked (segments : List Segment) :
    (segments.map marked).filter isVerbatim = segments.filter isVerbatim := by
  induction segments with
  | nil => rfl
  | cons s segments ih =>
      cases s with
      | quoted text => exact congrArg (quoted text :: ·) ih
      | cast => exact congrArg (cast :: ·) ih
      | token name => exact ih
      | other c => exact ih

end Segment

-- ============================================================== at the seams

/-- The rewritten text starts like the text, unless that starts with the
colon of a token. -/
theorem head?_placed {cs : List Char} {segments : List Segment}
    (h : Segmented cs segments) :
    (segments.flatMap Segment.placed).head? = cs.head?
      ∨ cs.head? = some ':' := by
  cases h with
  | nil => exact .inl rfl
  | quoted _ _ _ => exact .inl rfl
  | unclosed _ _ => exact .inl rfl
  | cast _ => exact .inr rfl
  | token _ _ _ => exact .inr rfl
  | other _ _ _ => exact .inl rfl

/-- The rewritten text falls into the segments of the text, but for the
question marks. -/
theorem Segmented.marked {cs : List Char} {segments : List Segment}
    (h : Segmented cs segments) :
    Segmented (segments.flatMap Segment.placed)
      (segments.map Segment.marked) := by
  induction h with
  | nil => exact .nil
  | @quoted quote inside rest segments hopens hinside _ ih =>
      have h := Segmented.quoted hopens hinside ih
      simpa [Segment.placed, Segment.text, Segment.marked] using h
  | @unclosed quote inside hopens hinside =>
      have h := Segmented.unclosed hopens hinside
      simpa [Segment.placed, Segment.text, Segment.marked] using h
  | cast _ ih => exact .cast ih
  | token _ _ _ ih =>
      have hcolon : '?' ≠ ':' := by decide
      exact .other rfl (fun h => absurd h hcolon) ih
  | @other c rest segments hquote hcolon hrest ih =>
      show Segmented (c :: segments.flatMap Segment.placed)
        (.other c :: segments.map Segment.marked)
      refine .other hquote (fun hc d hd => ?_) ih
      rcases head?_placed hrest with hsame | hstart
      · rw [hsame] at hd
        exact hcolon hc d hd
      · exact absurd rfl (hcolon hc ':' hstart).1

-- ================================================================ read again

/-- A rewritten statement has no token: it is rewritten to itself, without
names. It falls into segments in one way, which are those of the statement
with a question mark for each token; so its quoted text and its casts are
those of the statement, in their order. -/
theorem rewriteTokens_rewritten (sql : String) :
    rewriteTokens? (rewriteTokens sql).1 = some ((rewriteTokens sql).1, [])
      ∧ rewriteTokens (rewriteTokens sql).1 = ((rewriteTokens sql).1, [])
      ∧ ∃ segments : List Segment,
        (∀ other, Segmented sql.toList other ↔ other = segments)
        ∧ (∀ other, Segmented (rewriteTokens sql).1.toList other
          ↔ other = segments.map Segment.marked)
        ∧ (∀ s ∈ segments.map Segment.marked, s.name? = none)
        ∧ (segments.map Segment.marked).filter Segment.isVerbatim
          = segments.filter Segment.isVerbatim := by
  have hrewritten : (rewriteTokens sql).1.toList
      = (segmentsOf sql.toList).flatMap Segment.placed := by
    simp [rewriteTokens, rewriteTokens?_eq]
  have hmarked : segmentsOf (rewriteTokens sql).1.toList
      = (segmentsOf sql.toList).map Segment.marked := by
    rw [hrewritten]
    exact (segmented_segmentsOf sql.toList).marked.eq_segmentsOf.symm
  have hagain : rewriteTokens? (rewriteTokens sql).1
      = some ((rewriteTokens sql).1, []) := by
    rw [rewriteTokens?_eq, hmarked]
    simp [List.flatMap_map, List.filterMap_map, ← String.toList_inj,
      hrewritten]
  refine ⟨hagain, ?_, segmentsOf sql.toList, fun _ => segmented_iff, ?_, ?_,
    Segment.filter_marked _⟩
  · rw [rewriteTokens, hagain, Option.getD_some]
  · intro other
    rw [segmented_iff, hmarked]
  · intro s hs
    obtain ⟨original, -, rfl⟩ := List.mem_map.mp hs
    exact original.name?_marked

/-- Runs of colons, adjacent tokens, a colon alone and an open quote. -/
example : rewriteTokens (rewriteTokens ":::a:b ::: :c'd' : ':e").1
    = ("::?? ::: ?'d' : ':e", []) := by
  decide +kernel

end DataAccess
