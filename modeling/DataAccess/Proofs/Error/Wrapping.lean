/-
Errors, wrapped. On its way to the caller an error is tagged with the statement
it happened under, and failures of the clean-up are carried along with it, in
any order and any number of times (`Wrapping`). What it comes to has a normal
form: the error, tagged once at most, with all that was carried along behind it
in the order it came (`wrapped_eq`).

The reason is that a tag goes to the primary error, so that it does not matter
what is carried along already (`withContext_withSuppressed`), and that one tag
leaves nothing to do for another (`withContext_withContext`). The invariant of a
run is the normal form itself, and a step either fills in the tag or adds to the
end of the list.

What an error is made of is told by `Within`. Only an error that carried none
along to begin with is in normal form, so that is what is asked of it
(`Unladen`). The errors that are carried along may be anything: nothing looks
into them, and whatever is in them was there before.
-/
import DataAccess.Proofs.Error.Flattening

namespace DataAccess

-- ================================================================== wrapping

/-- What can be done to an error on its way. -/
inductive Wrapping where
  | tag (context : StatementContext)
  | carry (other : Error)
  | carryAll (others : List Error)

namespace Wrapping

/-- The error with one more thing done to it. -/
def apply (e : Error) : Wrapping → Error
  | .tag context => e.withContext context
  | .carry other => e.withSuppressed other
  | .carryAll others => e.withAllSuppressed others

/-- The errors that are carried along from then on. -/
def attached : Wrapping → List Error
  | .tag _ => []
  | .carry other => [other]
  | .carryAll others => others

/-- The place that is offered. -/
def context? : Wrapping → Option StatementContext
  | .tag context => some context
  | _ => none

end Wrapping

namespace Error

/-- The error after all that was done to it, in order. -/
def wrapped (e : Error) (ws : List Wrapping) : Error :=
  ws.foldl Wrapping.apply e

/-- The error under a tag, if there is one. -/
def tagged (e : Error) : Option StatementContext → Error
  | none => e
  | some context => e.withContext context

/-- An error is another one, or somewhere in it. -/
inductive Within (x : Error) : Error → Prop where
  | self : Within x x
  | source {e : Error} (context : StatementContext) (h : Within x e) :
      Within x (.statement e context)
  | primary {e : Error} (rest : List Error) (h : Within x e) :
      Within x (.suppressed e rest)
  | carried (primary : Error) {e : Error} {rest : List Error} (he : e ∈ rest)
      (h : Within x e) : Within x (.suppressed primary rest)

/-- An error in which none carries others along. -/
def Unladen (e : Error) : Prop :=
  ∀ x : Error, x.Within e → x.kind ≠ .suppressed

/-- An error whose primary error, or what it tags, carries others along. -/
def Misnested : Error → Prop
  | .suppressed primary _ => primary.kind = .suppressed
  | .statement source _ => source.kind = .suppressed
  | _ => False

variable {e : Error} {context context' : StatementContext}

-- ================================================================= two steps

/-- Tagging and carrying along can be done in either order. -/
theorem withContext_withSuppressed (e other : Error)
    (context : StatementContext) :
    (e.withSuppressed other).withContext context
      = (e.withContext context).withSuppressed other := by
  cases e <;> rfl

/-- So it is with several that are carried along. -/
theorem withContext_withAllSuppressed (e : Error) (others : List Error)
    (context : StatementContext) :
    (e.withAllSuppressed others).withContext context
      = (e.withContext context).withAllSuppressed others := by
  unfold withAllSuppressed
  induction others generalizing e with
  | nil => rfl
  | cons other others ih =>
      rw [List.foldl_cons, List.foldl_cons, ih, withContext_withSuppressed]

/-- A second tag has no effect. -/
theorem withContext_withContext (e : Error)
    (context context' : StatementContext) :
    (e.withContext context).withContext context' = e.withContext context :=
  withContext_of_context? (context?_withContext context e) context'

/-- Others are carried along in two parts as in one. -/
theorem withAllSuppressed_append (e : Error) (others more : List Error) :
    e.withAllSuppressed (others ++ more)
      = (e.withAllSuppressed others).withAllSuppressed more :=
  List.foldl_append

-- =============================================================== normal form

/-- One more thing fills in the tag, unless there is one, or adds to what is
carried along. -/
theorem apply_normal (e : Error) (tag : Option StatementContext)
    (others : List Error) (w : Wrapping) :
    w.apply ((e.tagged tag).withAllSuppressed others)
      = (e.tagged (tag.or w.context?)).withAllSuppressed
          (others ++ w.attached) := by
  cases w with
  | tag context =>
      simp only [Wrapping.apply, Wrapping.context?, Wrapping.attached,
        List.append_nil]
      rw [withContext_withAllSuppressed]
      cases tag with
      | none => rfl
      | some first =>
          unfold tagged
          rw [withContext_withContext]
          rfl
  | carry other =>
      simp only [Wrapping.apply, Wrapping.context?, Wrapping.attached,
        Option.or_none]
      rw [withAllSuppressed_append]
      rfl
  | carryAll more =>
      simp only [Wrapping.apply, Wrapping.context?, Wrapping.attached,
        Option.or_none]
      rw [withAllSuppressed_append]

/-- From a normal form, all that is done comes to one. -/
theorem wrapped_normal (e : Error) (tag : Option StatementContext)
    (others : List Error) (ws : List Wrapping) :
    ((e.tagged tag).withAllSuppressed others).wrapped ws
      = (e.tagged (tag.or (ws.findSome? Wrapping.context?))).withAllSuppressed
          (others ++ ws.flatMap Wrapping.attached) := by
  unfold wrapped
  induction ws generalizing tag others with
  | nil => simp
  | cons w ws ih =>
      rw [List.foldl_cons, apply_normal, ih, Option.or_assoc,
        List.append_assoc, List.flatMap_cons]
      congr 3
      cases hw : w.context? <;> simp [hw]

/-- What an error comes to is the error under the first tag, with all that was
carried along in the order it came. -/
theorem wrapped_eq (e : Error) (ws : List Wrapping) :
    e.wrapped ws
      = (e.tagged (ws.findSome? Wrapping.context?)).withAllSuppressed
          (ws.flatMap Wrapping.attached) :=
  wrapped_normal e none [] ws

/-- An error that carries none along is the primary one of those that it then
carries along. -/
theorem withAllSuppressed_cons (h : e.kind ≠ .suppressed) (other : Error)
    (others : List Error) :
    e.withAllSuppressed (other :: others) = .suppressed e (other :: others) := by
  rw [withAllSuppressed_eq]
  cases e with
  | suppressed => exact absurd rfl h
  | _ => rfl

/-- An error that carried nothing carries what it was given. -/
theorem suppressedErrors_withAllSuppressed (h : e.kind ≠ .suppressed)
    (others : List Error) :
    (e.withAllSuppressed others).suppressedErrors = others := by
  cases others with
  | nil =>
      cases e with
      | suppressed => exact absurd rfl h
      | _ => rfl
  | cons other others =>
      rw [withAllSuppressed_cons h]
      rfl

-- ===================================================================== tags

/-- An error that carries none along is tagged as a whole, or not at all. -/
theorem withContext_cases (h : e.kind ≠ .suppressed)
    (context : StatementContext) :
    e.withContext context = e
      ∨ e.withContext context = .statement e context := by
  cases e with
  | suppressed => exact absurd rfl h
  | constraintViolation => exact Or.inl rfl
  | database => exact Or.inl rfl
  | statement => exact Or.inl rfl
  | _ => exact Or.inr rfl

theorem Unladen.kind_ne (h : e.Unladen) : e.kind ≠ .suppressed :=
  h e .self

theorem unladen_decode (fault : DecodeFault) (bytes : List UInt8) :
    (decode fault bytes).Unladen := by
  intro x hx
  cases hx
  exact fun h => by cases h

/-- A tag adds nothing that is carried along. -/
theorem Unladen.tagged (h : e.Unladen) (tag : Option StatementContext) :
    (e.tagged tag).Unladen := by
  cases tag with
  | none => exact h
  | some context =>
      show (e.withContext context).Unladen
      rcases withContext_cases h.kind_ne context with heq | heq
      · rw [heq]
        exact h
      · rw [heq]
        intro x hx
        cases hx with
        | self => simp [kind]
        | source _ hx => exact h x hx

/-- A tag stays with the primary error. -/
theorem primary_tagged (e : Error) (tag : Option StatementContext) :
    (e.tagged tag).primary = e.primary := by
  cases tag with
  | none => rfl
  | some context => exact primary_withContext context e

/-- A tag is of no use to an error that names a place. -/
theorem tagged_of_context? (h : e.context? = some context)
    (tag : Option StatementContext) : e.tagged tag = e := by
  cases tag with
  | none => rfl
  | some context' => exact withContext_of_context? h context'

/-- The place of an error under a tag is its own, or else that of the tag. -/
theorem context?_tagged (e : Error) (tag : Option StatementContext) :
    (e.tagged tag).context? = e.context?.or tag := by
  cases tag with
  | none => exact (Option.or_none).symm
  | some context =>
      show (e.withContext context).context? = _
      rw [context?_withContext]
      cases e.context? <;> rfl

/-- Nothing is misnested in an error that carries none along. -/
theorem Unladen.not_misnested (h : e.Unladen) {x : Error} (hx : x.Within e) :
    ¬ x.Misnested := by
  intro hmisnested
  induction hx with
  | self =>
      cases x with
      | suppressed primary rest => exact h _ .self rfl
      | statement source context =>
          exact h source (.source context .self) hmisnested
      | _ => exact hmisnested
  | source context _ ih => exact ih fun y hy => h y (.source context hy)
  | primary rest _ _ => exact h _ .self rfl
  | carried primary _ _ _ => exact h _ .self rfl

/-- What is misnested after others were carried along is in one of them. -/
theorem Unladen.exists_of_misnested (h : e.Unladen) {others : List Error}
    {x : Error} (hx : x.Within (e.withAllSuppressed others))
    (hmisnested : x.Misnested) : ∃ other ∈ others, x.Within other := by
  cases others with
  | nil => exact absurd hmisnested (h.not_misnested hx)
  | cons first others =>
      rw [withAllSuppressed_cons h.kind_ne] at hx
      cases hx with
      | self => exact absurd hmisnested h.kind_ne
      | primary _ hx => exact absurd hmisnested (h.not_misnested hx)
      | carried _ hmem hx => exact ⟨_, hmem, hx⟩

-- ==================================================================== the run

/-- Whatever is done to an error that carries none along, its cause stays the
same, and it carries along exactly what it was given, in that order. Of the tags
only the first has an effect: an error that names no place then names that of
the first tag, and none has an effect if the error names a place already. And
whatever carries errors along as a primary error, or under a tag, is in one of
those that were given. -/
theorem wrapped_keeps (h : e.Unladen) (ws : List Wrapping) :
    ((e.wrapped ws).primary = e.primary
      ∧ (e.wrapped ws).isConstraintViolation = e.isConstraintViolation
      ∧ (e.wrapped ws).isDecode = e.isDecode
      ∧ (e.wrapped ws).isMapping = e.isMapping)
    ∧ (e.wrapped ws).suppressedErrors = ws.flatMap Wrapping.attached
    ∧ e.wrapped ws
        = (e.tagged (ws.findSome? Wrapping.context?)).withAllSuppressed
            (ws.flatMap Wrapping.attached)
    ∧ (∀ context, e.context? = some context →
        e.wrapped ws = e.withAllSuppressed (ws.flatMap Wrapping.attached))
    ∧ (e.wrapped ws).context?
        = e.context?.or (ws.findSome? Wrapping.context?)
    ∧ ∀ x : Error, x.Within (e.wrapped ws) → x.Misnested →
        ∃ other ∈ ws.flatMap Wrapping.attached, x.Within other := by
  have hunladen := h.tagged (ws.findSome? Wrapping.context?)
  have hprimary : (e.wrapped ws).primary = e.primary := by
    rw [wrapped_eq, primary_withAllSuppressed, primary_tagged]
  refine ⟨⟨hprimary, ?_, ?_, ?_⟩, ?_, wrapped_eq e ws, ?_, ?_, ?_⟩
  · unfold isConstraintViolation
    rw [hprimary]
  · unfold isDecode
    rw [hprimary]
  · unfold isMapping
    rw [hprimary]
  · rw [wrapped_eq]
    exact suppressedErrors_withAllSuppressed hunladen.kind_ne _
  · intro context hcontext
    rw [wrapped_eq, tagged_of_context? hcontext]
  · rw [wrapped_eq, context?_withAllSuppressed, context?_tagged]
  · intro x hx hmisnested
    rw [wrapped_eq] at hx
    exact hunladen.exists_of_misnested hx hmisnested

/-- A row that is cut short is decoded, a roll-back fails, and only then does
anyone say where it happened, twice. -/
theorem wrapped_keeps_cutShort :
    let e : Error := .decode (.other "short") [0, 1]
    let first : StatementContext := ⟨"main", some ⟨"SELECT 1", []⟩⟩
    let ws : List Wrapping :=
      [.carry (.io "roll-back"), .tag first,
        .carryAll [.io "close", .io "return"], .tag ⟨"other", none⟩]
    (e.wrapped ws).isDecode = e.isDecode
      ∧ (e.wrapped ws).suppressedErrors
          = [.io "roll-back", .io "close", .io "return"]
      ∧ (e.wrapped ws).context? = some first
      ∧ e.wrapped ws
          = (e.withContext first).withAllSuppressed
              [.io "roll-back", .io "close", .io "return"] := by
  intro e first ws
  have hkeeps := wrapped_keeps (unladen_decode (.other "short") [0, 1]) ws
  exact ⟨hkeeps.1.2.2.1, hkeeps.2.1, hkeeps.2.2.2.2.1, hkeeps.2.2.1⟩

end Error

end DataAccess
