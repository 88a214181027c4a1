/-
Errors, flattened. An error that carries others along is a tree; `flatten`
lists what is in it, the primary error first and the suppressed ones after it,
in the order they came. The ways in which the library builds errors from
errors are told here by what they do to that list, and to the place that an
error names (`context?`).

`Discloses` says that an error is the account of some failed calls: each of
them is in the list once, in their order, and the first of them is the cause.
-/
import DataAccess.Error.Basic
import Mathlib.Data.List.Forall2

namespace DataAccess.Error

-- ============================================================== flattening

/-- An error and what it carries along: the primary one first. -/
def flatten : Error → List Error
  | .suppressed primary rest => primary.flatten ++ all rest
  | e => [e]
where
  /-- Several errors, flattened one after the other. -/
  all : List Error → List Error
    | [] => []
    | e :: es => e.flatten ++ all es

@[simp] theorem all_append (es more : List Error) :
    flatten.all (es ++ more) = flatten.all es ++ flatten.all more := by
  induction es with
  | nil => rfl
  | cons e es ih =>
      simp only [List.cons_append, flatten.all, ih, List.append_assoc]

/-- What is carried along comes after the rest. -/
theorem flatten_withSuppressed (e other : Error) :
    (e.withSuppressed other).flatten = e.flatten ++ other.flatten := by
  cases e <;>
    simp only [withSuppressed, flatten, flatten.all, all_append,
      List.append_nil, List.append_assoc]

/-- Several that are carried along come in their order. -/
theorem flatten_withAllSuppressed (e : Error) (others : List Error) :
    (e.withAllSuppressed others).flatten
      = e.flatten ++ flatten.all others := by
  unfold withAllSuppressed
  induction others generalizing e with
  | nil => exact (List.append_nil _).symm
  | cons other others ih =>
      rw [List.foldl_cons, ih, flatten_withSuppressed, flatten.all,
        List.append_assoc]

@[simp] theorem flatten_ofDriver (failure : DriverError)
    (context : StatementContext) :
    (ofDriver failure context).flatten = [ofDriver failure context] := by
  unfold ofDriver
  split <;> rfl

-- =============================================================== the cause

/-- There is always an error to show. -/
theorem flatten_ne_nil (e : Error) : e.flatten ≠ [] := by
  induction e using primary.induct with
  | case1 e rest ih => simp [flatten, ih]
  | case2 => simp [flatten]
  | case3 e hsuppressed hstatement =>
      cases e with
      | suppressed e rest => exact absurd rfl (hsuppressed e rest)
      | statement e context => exact absurd rfl (hstatement e context)
      | _ => simp [flatten]

/-- The cause of an error is that of the first one in its list. -/
theorem primary_of_head? {e first : Error} (h : e.flatten.head? = some first) :
    e.primary = first.primary := by
  induction e using primary.induct with
  | case1 e rest ih =>
      refine ih ?_
      rw [flatten, List.head?_append] at h
      cases hhead : e.flatten.head? with
      | none =>
          exact absurd (List.head?_eq_none_iff.mp hhead) (flatten_ne_nil e)
      | some x => rwa [hhead] at h
  | case2 e context ih =>
      cases h
      rfl
  | case3 e hsuppressed hstatement =>
      cases e with
      | suppressed e rest => exact absurd rfl (hsuppressed e rest)
      | statement e context => exact absurd rfl (hstatement e context)
      | _ =>
          cases h
          rfl

/-- Nothing that is carried along becomes the primary error. -/
theorem primary_withSuppressed (e other : Error) :
    (e.withSuppressed other).primary = e.primary := by
  cases e <;> rfl

theorem primary_withAllSuppressed (e : Error) (others : List Error) :
    (e.withAllSuppressed others).primary = e.primary := by
  unfold withAllSuppressed
  induction others generalizing e with
  | nil => rfl
  | cons other others ih => rw [List.foldl_cons, ih, primary_withSuppressed]

/-- A tag does not change what caused a failure. -/
@[simp] theorem primary_withContext (context : StatementContext) :
    (e : Error) → (e.withContext context).primary = e.primary
  | .suppressed e _ => primary_withContext context e
  | .constraintViolation .. => rfl
  | .database .. => rfl
  | .mapping _ => rfl
  | .decode .. => rfl
  | .column .. => rfl
  | .typeMismatch .. => rfl
  | .config _ => rfl
  | .serialization _ => rfl
  | .io _ => rfl
  | .statement .. => rfl

-- ================================================================= carrying

/-- An error with others carried along behind it. -/
def carrying (e : Error) : List Error → Error
  | [] => e
  | other :: others => match e with
    | .suppressed primary rest => .suppressed primary (rest ++ other :: others)
    | e => .suppressed e (other :: others)

/-- An error that carries others carries more after them. -/
theorem withAllSuppressed_suppressed (primary : Error)
    (rest others : List Error) :
    (suppressed primary rest).withAllSuppressed others
      = .suppressed primary (rest ++ others) := by
  unfold withAllSuppressed
  induction others generalizing rest with
  | nil => rw [List.append_nil, List.foldl_nil]
  | cons other others ih =>
      rw [List.foldl_cons, withSuppressed, ih, List.append_assoc,
        List.singleton_append]

/-- Carrying others one by one is carrying them all. -/
theorem withAllSuppressed_eq (e : Error) (others : List Error) :
    e.withAllSuppressed others = e.carrying others := by
  cases others with
  | nil => rfl
  | cons other others =>
      show (e.withSuppressed other).withAllSuppressed others = _
      cases e <;>
        simp only [withSuppressed, carrying, withAllSuppressed_suppressed,
          List.append_assoc, List.singleton_append]

-- =============================================================== the place

/-- The place that an error names; suppressed errors are looked through. -/
def context? : Error → Option StatementContext
  | .constraintViolation _ _ context => some context
  | .database _ context => some context
  | .statement _ context => some context
  | .suppressed primary _ => primary.context?
  | _ => none

/-- A tag names a place unless one is named already. -/
theorem context?_withContext (context : StatementContext) (e : Error) :
    (e.withContext context).context? = some (e.context?.getD context) := by
  induction e using withContext.induct with
  | case1 primary rest ih => exact ih
  | case2 => rfl
  | case3 => rfl
  | case4 => rfl
  | case5 e hsuppressed hconstraint hdatabase hstatement =>
      cases e with
      | suppressed primary rest => exact absurd rfl (hsuppressed primary rest)
      | constraintViolation text state own =>
          exact absurd rfl (hconstraint text state own)
      | database fault own => exact absurd rfl (hdatabase fault own)
      | statement source own => exact absurd rfl (hstatement source own)
      | _ => rfl

/-- An error that names a place is not tagged. -/
theorem withContext_of_context? {e : Error} {own : StatementContext}
    (h : e.context? = some own) (context : StatementContext) :
    e.withContext context = e := by
  induction e using withContext.induct with
  | case1 primary rest ih => rw [withContext, ih h]
  | case2 => rfl
  | case3 => rfl
  | case4 => rfl
  | case5 e hsuppressed hconstraint hdatabase hstatement =>
      cases e with
      | suppressed primary rest => exact absurd rfl (hsuppressed primary rest)
      | constraintViolation text state own =>
          exact absurd rfl (hconstraint text state own)
      | database fault own => exact absurd rfl (hdatabase fault own)
      | statement source own => exact absurd rfl (hstatement source own)
      | _ => cases h

/-- The context is that of the primary error. -/
theorem context?_withSuppressed (e other : Error) :
    (e.withSuppressed other).context? = e.context? := by
  cases e <;> rfl

theorem context?_withAllSuppressed (e : Error) (others : List Error) :
    (e.withAllSuppressed others).context? = e.context? := by
  unfold withAllSuppressed
  induction others generalizing e with
  | nil => rfl
  | cons other others ih => rw [List.foldl_cons, ih, context?_withSuppressed]

@[simp] theorem context?_ofDriver (failure : DriverError)
    (context : StatementContext) :
    (ofDriver failure context).context? = some context := by
  unfold ofDriver
  split <;> rfl

/-- An error says of a transaction, by its display identity, and of a
statement that it happened there. -/
def Located (e : Error) (display sql : String) : Prop :=
  ∃ params, e.context?
    = some { transaction := display, statement := some { sql, params } }

/-- What names no place is located by its tag. -/
theorem located_withContext {display sql : String} {params : List String}
    {e : Error} (h : e.context? = none) :
    (e.withContext { transaction := display
                     statement := some { sql, params } }).Located
      display sql := by
  refine ⟨params, ?_⟩
  rw [context?_withContext, h]
  rfl

/-- So an error stays located at its statement. -/
theorem Located.withAllSuppressed {e : Error} {display sql : String}
    (h : e.Located display sql) (others : List Error) :
    (e.withAllSuppressed others).Located display sql := by
  obtain ⟨params, hparams⟩ := h
  exact ⟨params, (context?_withAllSuppressed e others).trans hparams⟩

-- ============================================================ failed calls

/-- What a failed call is reported as: with an SQLSTATE that starts with
`23` a violated constraint, else a failure of the database. -/
inductive Reports (failure : DriverError) : Error → Prop where
  | violated {state : String} (h : failure.sqlstate = some state)
      (hclass : ['2', '3'] <+: state.toList) (context : StatementContext) :
      Reports failure
        (.constraintViolation failure.message (some state) context)
  | failed (h : ∀ state, failure.sqlstate = some state →
        ¬ ['2', '3'] <+: state.toList) (context : StatementContext) :
      Reports failure (.database (.reported failure.message) context)

/-- The error that is made of a failure reports it. -/
theorem reports_ofDriver (failure : DriverError)
    (context : StatementContext) :
    Reports failure (ofDriver failure context) := by
  obtain ⟨message, sqlstate⟩ := failure
  unfold ofDriver DriverError.isIntegrityViolation
  cases sqlstate with
  | none => exact .failed (fun _ h => by cases h) context
  | some state =>
      dsimp only
      split
      · next hclass =>
        exact .violated rfl (List.isPrefixOf_iff_prefix.mp hclass) context
      · next hclass =>
        refine .failed (fun state' h hprefix => hclass ?_) context
        cases h
        exact List.isPrefixOf_iff_prefix.mpr hprefix

/-- An error is the account of failed calls: each is told once, in their
order, and the first one is the cause. -/
structure Discloses (e : Error) (failed : List DriverError) : Prop where
  each : List.Forall₂ Reports failed e.flatten
  first : ∃ failure, failed.head? = some failure ∧ Reports failure e.primary

/-- A failure is reported by the primary error. -/
theorem Reports.primary {failure : DriverError} {e : Error}
    (h : Reports failure e) : Reports failure e.primary := by
  cases h with
  | violated h hclass context => exact .violated h hclass context
  | failed h context => exact .failed h context

/-- Whatever tells of failed calls in their order has the first one as its
cause. -/
theorem discloses_of_each {e : Error} {failed : List DriverError}
    (h : List.Forall₂ Reports failed e.flatten) : e.Discloses failed := by
  refine ⟨h, ?_⟩
  cases hflatten : e.flatten with
  | nil => exact absurd hflatten (flatten_ne_nil e)
  | cons first rest =>
      rw [hflatten] at h
      cases h with
      | cons hfirst _ =>
          refine ⟨_, rfl, ?_⟩
          rw [primary_of_head? (congrArg List.head? hflatten)]
          exact hfirst.primary

/-- One failure is disclosed by its error. -/
theorem discloses_ofDriver (failure : DriverError)
    (context : StatementContext) :
    (ofDriver failure context).Discloses [failure] := by
  refine discloses_of_each ?_
  rw [flatten_ofDriver]
  exact .cons (reports_ofDriver failure context) .nil

end DataAccess.Error
