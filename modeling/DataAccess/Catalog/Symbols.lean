/-
The symbol types of the sample catalogue. The names of types in messages
start with the path of the module that declares them; the catalogue is
given that path.
-/
import DataAccess.Value.Scalar

namespace DataAccess.Catalog

/-- The standing of a customer. -/
def tier (path : String) : SymbolType :=
  { typeName := path ++ "Tier", symbols := ["Basic", "gold", "PLATINUM ★"]
    initial := "Basic" }

/-- A unit of length. -/
def lengthUnit (path : String) : SymbolType :=
  { typeName := path ++ "Unit", symbols := ["m", "ft"], initial := "m" }

end DataAccess.Catalog
