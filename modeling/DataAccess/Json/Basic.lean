/-
JSON values. Integers and binary64 numbers are kept apart, and an object
is its members in increasing order of their keys, each key once, so two
values are equal exactly when they are written alike.
-/
import DataAccess.Binary64

namespace DataAccess

/-- A JSON value. -/
inductive Json where
  | null
  | bool (value : Bool)
  | int (value : Int)
  | float (value : Binary64)
  | string (value : String)
  | array (items : List Json)
  | object (members : List (String × Json))

namespace Json

instance : Inhabited Json := ⟨.null⟩

-- =============================================================== objects

/-- The members with one more, in key order; a key that is there already
takes the new value. -/
def insertMember (key : String) (value : Json) :
    List (String × Json) → List (String × Json)
  | [] => [(key, value)]
  | (k, v) :: rest =>
    if key < k then (key, value) :: (k, v) :: rest
    else if key = k then (key, value) :: rest
    else (k, v) :: insertMember key value rest

/-- The object of some members in any order; of two members with one key the
later counts. -/
def ofMembers (members : List (String × Json)) : Json :=
  .object (members.foldl (fun acc (k, v) => insertMember k v acc) [])

/-- The member of an object with the given key. -/
def get? (j : Json) (key : String) : Option Json :=
  match j with
  | .object members => members.lookup key
  | _ => none

-- ============================================================== equality

/-- Structural equality as a check. -/
def same : Json → Json → Bool
  | .null, .null => true
  | .bool a, .bool b => a == b
  | .int a, .int b => a == b
  | .float a, .float b => decide (a = b)
  | .string a, .string b => a == b
  | .array a, .array b => sameItems a b
  | .object a, .object b => sameMembers a b
  | _, _ => false
where
  /-- Item by item. -/
  sameItems : List Json → List Json → Bool
    | [], [] => true
    | x :: xs, y :: ys => x.same y && sameItems xs ys
    | _, _ => false
  /-- Member by member, in order. -/
  sameMembers : List (String × Json) → List (String × Json) → Bool
    | [], [] => true
    | (k, x) :: xs, (l, y) :: ys => k == l && x.same y && sameMembers xs ys
    | _, _ => false

theorem same_iff (a b : Json) : a.same b = true ↔ a = b := by
  refine Json.rec
    (motive_1 := fun a => ∀ b, a.same b = true ↔ a = b)
    (motive_2 := fun xs => ∀ ys, same.sameItems xs ys = true ↔ xs = ys)
    (motive_3 := fun xs => ∀ ys, same.sameMembers xs ys = true ↔ xs = ys)
    (motive_4 := fun m => ∀ y, m.2.same y = true ↔ m.2 = y)
    ?null ?bool ?int ?float ?string ?array ?object ?nil ?cons ?mnil ?mcons
    ?pair a b
  case null => intro b; cases b <;> simp [same]
  case bool => intro x b; cases b <;> simp [same]
  case int => intro x b; cases b <;> simp [same]
  case float => intro x b; cases b <;> simp [same]
  case string => intro x b; cases b <;> simp [same]
  case array => intro xs ih b; cases b <;> simp [same, ih]
  case object => intro xs ih b; cases b <;> simp [same, ih]
  case nil => intro ys; cases ys <;> simp [same.sameItems]
  case cons =>
    intro x xs hx hxs ys
    cases ys <;> simp [same.sameItems, hx, hxs]
  case mnil => intro ys; cases ys <;> simp [same.sameMembers]
  case mcons =>
    intro m xs hm hxs ys
    obtain ⟨k, x⟩ := m
    cases ys with
    | nil => simp [same.sameMembers]
    | cons y ys =>
      obtain ⟨l, y⟩ := y
      simp only [same.sameMembers, Bool.and_eq_true, beq_iff_eq, hxs]
      simp only at hm
      simp [hm]
  case pair => intro k x ih y; exact ih y

instance : DecidableEq Json := fun a b =>
  decidable_of_iff _ (same_iff a b)

end Json

end DataAccess
