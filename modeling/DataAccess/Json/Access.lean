/-
Reading parts of a JSON value, and writing the common ones. A member that
is missing reads as null, and a list that is missing as an empty one.
-/
import DataAccess.Json.Basic

namespace DataAccess.Json

-- =============================================================== reading

/-- A member of an object; null when there is none. -/
def field (j : Json) (key : String) : Json :=
  (j.get? key).getD .null

/-- A member of an object that is not null. -/
def given? (j : Json) (key : String) : Option Json :=
  match j.get? key with
  | some .null => none
  | found => found

/-- The text of a string. -/
def text? : Json → Option String
  | .string s => some s
  | _ => none

/-- The text of a member. -/
def textAt? (j : Json) (key : String) : Option String :=
  (j.field key).text?

/-- The items of an array. -/
def items : Json → List Json
  | .array xs => xs
  | _ => []

/-- The items of a member. -/
def itemsAt (j : Json) (key : String) : List Json :=
  (j.field key).items

/-- The members of an object. -/
def members : Json → List (String × Json)
  | .object ms => ms
  | _ => []

/-- Whether a value is true. -/
def isTrue : Json → Bool
  | .bool b => b
  | _ => false

/-- Whether a member is true. -/
def flagAt (j : Json) (key : String) : Bool :=
  (j.field key).isTrue

/-- The texts of an array of strings. -/
def texts? (j : Json) : Option (List String) :=
  j.items.mapM text?

/-- An integer, or the one that a string of decimal digits writes. -/
def int? : Json → Option Int
  | .int n => some n
  | .string s => s.toInt?
  | _ => none

/-- An integer that is not negative. -/
def nat? (j : Json) : Option Nat :=
  j.int?.bind Int.toNat?

/-- A member that is a number, or else a default. -/
def natAt (j : Json) (key : String) (default : Nat) : Nat :=
  (j.field key).nat?.getD default

-- =============================================================== writing

/-- A number. -/
def ofNat (n : Nat) : Json := .int n

/-- An integer as a string of its digits, for integers that do not fit in a
binary64 number. -/
def digits (n : Int) : Json := .string (toString n)

/-- Texts as an array of strings. -/
def ofTexts (texts : List String) : Json := .array (texts.map .string)

/-- A value that may be absent; null when it is. -/
def orNull {α : Type} (f : α → Json) : Option α → Json
  | some x => f x
  | none => .null

end DataAccess.Json
