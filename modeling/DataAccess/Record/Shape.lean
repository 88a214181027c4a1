/-
Shapes of records. A shape is a tree: its leaves are typed columns, its
inner nodes are records with a name. Flattened from left to right, the
leaves are the columns of a row.
-/
import DataAccess.Value.Basic

namespace DataAccess

/-- The shape of a record or of one of its components. -/
inductive Shape where
  | leaf (type : LeafType)
  | record (name : String) (components : List Shape)

namespace Shape

/-- The name of a record, or of the type of a leaf. -/
def name : Shape → String
  | .leaf type => type.name
  | .record name _ => name

/-- The types of the leaves, depth first and from left to right. -/
def leaves : Shape → List LeafType
  | .leaf type => [type]
  | .record _ components => leavesOf components
where
  /-- The leaves of several shapes, one after the other. -/
  leavesOf : List Shape → List LeafType
    | [] => []
    | s :: ss => s.leaves ++ leavesOf ss

/-- The number of leaves. -/
def leafCount (s : Shape) : Nat :=
  s.leaves.length

-- ============================================================== equality

/-- Structural equality as a check. -/
def same : Shape → Shape → Bool
  | .leaf a, .leaf b => decide (a = b)
  | .record m xs, .record n ys => m == n && sameAll xs ys
  | _, _ => false
where
  /-- Component by component. -/
  sameAll : List Shape → List Shape → Bool
    | [], [] => true
    | x :: xs, y :: ys => x.same y && sameAll xs ys
    | _, _ => false

theorem same_iff (a b : Shape) : a.same b = true ↔ a = b := by
  refine Shape.rec
    (motive_1 := fun a => ∀ b, a.same b = true ↔ a = b)
    (motive_2 := fun xs => ∀ ys, same.sameAll xs ys = true ↔ xs = ys)
    ?leaf ?record ?nil ?cons a b
  case leaf => intro t b; cases b <;> simp [same]
  case record => intro n xs ih b; cases b <;> simp [same, ih]
  case nil => intro ys; cases ys <;> simp [same.sameAll]
  case cons =>
    intro x xs hx hxs ys
    cases ys <;> simp [same.sameAll, hx, hxs]

instance : DecidableEq Shape := fun a b =>
  decidable_of_iff _ (same_iff a b)

end Shape

end DataAccess
