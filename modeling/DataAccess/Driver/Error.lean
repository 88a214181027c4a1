/-
What a driver reports when a call fails: a message, and the SQLSTATE code
of the failure when the driver knows it.
-/

namespace DataAccess

/-- A failure reported by the driver. -/
structure DriverError where
  message : String
  sqlstate : Option String
  deriving DecidableEq, Repr

/-- SQLSTATE class 23: a violated integrity constraint. -/
def DriverError.isIntegrityViolation (e : DriverError) : Bool :=
  match e.sqlstate with
  | some state => ['2', '3'].isPrefixOf state.toList
  | none => false

end DataAccess
