/-
The causes of failure, by the part of the library that finds them. A fault
holds what went wrong as data; its wording is in its `message` and nowhere
else. Each family has one constructor for a text that comes from outside:
from a driver, from a caller's mapper, from a hook.
-/
import DataAccess.Bulk.Basic
import DataAccess.Text.Place
import DataAccess.Value.Basic

namespace DataAccess

-- ============================================================ parameters

/-- Why the parameters of a statement do not fit its text. -/
inductive ParamFault where
  /-- A token of the statement has no value. -/
  | unbound (name : String)
  /-- A named value has no token. -/
  | unused (name : String)
  /-- Both binding styles are used at once. -/
  | mixed
  /-- A value has no stored form; `label` is how the statement calls it. -/
  | unencodable (label reason : String)
  deriving DecidableEq, Repr

/-- The name of the sort of a parameter fault. -/
def ParamFault.sortName : ParamFault → String
  | .unbound _ => "Unbound"
  | .unused _ => "Unused"
  | .mixed => "Mixed"
  | .unencodable .. => "Encode"

/-- The wording of a parameter fault. -/
def ParamFault.message : ParamFault → String
  | .unbound name => "parameter :" ++ name ++ " is not bound"
  | .unused name => "parameter :" ++ name ++ " is not used by the statement"
  | .mixed => "positional and named parameters cannot be mixed"
  | .unencodable label reason =>
    "parameter " ++ label ++ " cannot be encoded: " ++ reason

-- ================================================== statements and handles

/-- Why a statement, a transaction or a stream failed. -/
inductive StatementFault where
  /-- The driver said so. -/
  | reported (message : String)
  | parameters (fault : ParamFault)
  | connectionReleased
  | finished
  | alreadyFinished
  | nestedOnFinished
  | openChildren (count : Nat)
  | readOnly
  | rowCount (count : Nat)
  | streamClosed
  /-- The target of a relation has no row. -/
  | dangling (entity identity : String)
  | identityGiven (table : String)
  | identityMissing (table : String)
  | identityNotReturned (table : String)
  | transient (table : String)
  deriving DecidableEq, Repr

/-- The wording of a statement fault. -/
def StatementFault.message : StatementFault → String
  | .reported message => message
  | .parameters fault => fault.message
  | .connectionReleased => "connection already released"
  | .finished => "transaction is finished"
  | .alreadyFinished => "transaction is already finished"
  | .nestedOnFinished =>
    "cannot begin a nested transaction: transaction is finished"
  | .openChildren count =>
    "cannot end transaction with " ++ toString count
      ++ " open nested transaction(s)"
  | .readOnly => "read-only transaction cannot modify data"
  | .rowCount count => "expected 1 row, got " ++ toString count
  | .streamClosed => "stream is closed"
  | .dangling entity identity =>
    "referenced " ++ entity ++ " " ++ identity ++ " does not exist"
  | .identityGiven table =>
    table ++ ": identity is generated but the entity already has one"
  | .identityMissing table =>
    table ++ ": identity is not generated and the entity has none"
  | .identityNotReturned table =>
    table ++ ": insert returned no generated identity"
  | .transient table => table ++ ": entity is transient"

-- =============================================================== mapping

/-- Why an entity type cannot be bound to its table. -/
inductive BindingFault where
  | noTable
  | noColumns (table : String)
  | emptyColumn
  | boundTwice (column : String)
  | noIdentity
  | compositeGenerated
  | relationIdentity (column : String)
  | relationTarget (column target : String) (count : Nat)
  deriving DecidableEq, Repr

/-- The wording of a binding fault. -/
def BindingFault.message : BindingFault → String
  | .noTable => "no table name declared"
  | .noColumns table => "table '" ++ table ++ "' declares no columns"
  | .emptyColumn => "empty column name"
  | .boundTwice column => "column '" ++ column ++ "' bound more than once"
  | .noIdentity => "no identity column declared"
  | .compositeGenerated => "a generated identity cannot be composite"
  | .relationIdentity column =>
    "relation '" ++ column ++ "' cannot be an identity column"
  | .relationTarget column target count =>
    "relation '" ++ column ++ "' targets " ++ target ++ " with "
      ++ toString count ++ " identity columns; exactly one is required"

/-- Why column names do not line up with a record shape. -/
inductive ReflectFault where
  /-- More components than names. -/
  | componentUnnamed (base : String) (position : Nat) (leaf : LeafType)
      (names components : Nat)
  /-- More names than components. -/
  | nameSpare (base column : String) (position names components : Nat)
  | boundTwice (base column : String) (position : Nat)
  | noSuchColumn (base column : String) (known : List String)
  /-- The target has fewer components than there are bound columns. -/
  | stillBound (target : String) (components : Nat) (column : String)
      (position : Nat)
  | leafMismatch (column : String) (position : Nat) (leaf : LeafType)
      (target : String) (targetPosition : Nat) (wanted : LeafType)
  /-- The target has more components than there are bound columns. -/
  | positionUnbound (target : String) (position : Nat) (wanted : LeafType)
      (bound components : Nat)
  deriving DecidableEq, Repr

/-- The wording of a reflection fault. -/
def ReflectFault.message : ReflectFault → String
  | .componentUnnamed base position leaf names components =>
    base ++ ": component " ++ toString position ++ " (" ++ leaf.name
      ++ ") has no column name (" ++ toString names ++ " names for "
      ++ toString components ++ " components)"
  | .nameSpare base column position names components =>
    base ++ ": column '" ++ column ++ "' at position " ++ toString position
      ++ " has no component (" ++ toString names ++ " names for "
      ++ toString components ++ " components)"
  | .boundTwice base column position =>
    base ++ ": column '" ++ column ++ "' bound twice (again at position "
      ++ toString position ++ ")"
  | .noSuchColumn base column known =>
    base ++ ": no column named '" ++ column ++ "' (have "
      ++ Text.commaSeparated known ++ ")"
  | .stillBound target components column position =>
    target ++ " has " ++ toString components ++ " components but column '"
      ++ column ++ "' (base position " ++ toString position
      ++ ") is still bound"
  | .leafMismatch column position leaf target targetPosition wanted =>
    "column '" ++ column ++ "': base position " ++ toString position
      ++ " is " ++ leaf.name ++ " but " ++ target ++ " position "
      ++ toString targetPosition ++ " is " ++ wanted.name
  | .positionUnbound target position wanted bound components =>
    target ++ " position " ++ toString position ++ " (" ++ wanted.name
      ++ ") has no bound column; " ++ toString bound ++ " bound for "
      ++ toString components ++ " components"

/-- Why entities or records do not map to columns. -/
inductive MappingFault where
  | binding (entity : String) (fault : BindingFault)
  | reflect (fault : ReflectFault)
  /-- So many identity values for so many identity columns. -/
  | identityWidth (table : String) (given columns : Nat)
  /-- The same for a look-up, with the columns by name. -/
  | lookupWidth (table : String) (given : Nat) (columns : List String)
  | nothingToUpdate (table : String)
  | notReferable (table : String)
  /-- A text from a caller's mapper or hook. -/
  | other (text : String)
  deriving DecidableEq, Repr

/-- The wording of a mapping fault. -/
def MappingFault.message : MappingFault → String
  | .binding entity fault => entity ++ ": " ++ fault.message
  | .reflect fault => fault.message
  | .identityWidth table given columns =>
    table ++ ": " ++ toString given ++ " identity values for "
      ++ toString columns ++ " identity columns"
  | .lookupWidth table given columns =>
    table ++ ": " ++ toString given ++ " identity values for identity ("
      ++ Text.commaSeparated columns ++ ")"
  | .nothingToUpdate table => table ++ ": no non-identity columns to update"
  | .notReferable table =>
    table ++ ": only a non-transient entity with a single identity column"
      ++ " can be referenced"
  | .other text => text

-- ============================================================== decoding

/-- Why a bulk export cannot be decoded. -/
inductive FrameFault where
  | truncated (needed offset available : Nat)
  | extensionLength (length : Int)
  | fieldCount (declared : Int) (expected : Nat)
  | fieldLength (index : Nat) (length : Int)
  | fieldWidth (index : Nat) (type : BulkType) (length width : Nat)
  | trailing (bytes fields : Nat)
  | noHeader
  /-- The row mapper failed, with this text. -/
  | mapper (reason : String)
  deriving DecidableEq, Repr

/-- The wording of a frame fault. -/
def FrameFault.message : FrameFault → String
  | .truncated needed offset available =>
    "truncated frame: need " ++ toString needed ++ " bytes at offset "
      ++ toString offset ++ ", have " ++ toString available
  | .extensionLength length =>
    "negative header extension length " ++ toString length
  | .fieldCount declared expected =>
    "frame declares " ++ toString declared ++ " fields, expected "
      ++ toString expected
  | .fieldLength index length =>
    "field " ++ toString index ++ " has invalid length " ++ toString length
  | .fieldWidth index type length width =>
    "field " ++ toString index ++ " (" ++ type.name ++ ") has length "
      ++ toString length ++ ", expected " ++ toString width
  | .trailing bytes fields =>
    toString bytes ++ " trailing bytes after " ++ toString fields ++ " fields"
  | .noHeader => "export produced no header"
  | .mapper reason => "row mapper failed: " ++ reason

/-- Why the values of a row do not make a record. -/
inductive RecordFault where
  | reading (target reason : String)
  | width (values : Nat) (target : String) (expected : Nat)
  | nullComponent (column target : String) (leaf : LeafType)
  | constructing (target reason : String)
  | unread (target : String) (values : Nat)
  deriving DecidableEq, Repr

/-- The wording of a record fault. -/
def RecordFault.message : RecordFault → String
  | .reading target reason => "reading " ++ target ++ ": " ++ reason
  | .width values target expected =>
    "row has " ++ toString values ++ " values, " ++ target ++ " expects "
      ++ toString expected
  | .nullComponent column target leaf =>
    "column '" ++ column ++ "' is NULL but " ++ target ++ " requires "
      ++ leaf.name
  | .constructing target reason => "constructing " ++ target ++ ": " ++ reason
  | .unread target values =>
    target ++ " left " ++ toString values ++ " values unread"

/-- Why bytes or values cannot be decoded. -/
inductive DecodeFault where
  | frame (fault : FrameFault)
  /-- A record fault, with the values of the row as they are shown. -/
  | record (fault : RecordFault) (row : List String)
  | rowWidth (values columns : Nat)
  | exhausted (values : Nat)
  | other (text : String)
  deriving DecidableEq, Repr

/-- The wording of a decode fault. -/
def DecodeFault.message : DecodeFault → String
  | .frame fault => fault.message
  | .record fault row =>
    fault.message ++ "; row: (" ++ Text.commaSeparated row ++ ")"
  | .rowWidth values columns =>
    "row has " ++ toString values ++ " values but result declares "
      ++ toString columns ++ " columns"
  | .exhausted values =>
    "row exhausted after " ++ toString values ++ " values"
  | .other text => text

/-- Why a column of a row cannot be had. -/
inductive ColumnFault where
  | missing
  /-- Several columns have the name; these are the tables they are from. -/
  | ambiguous (sources : List String)
  /-- A position past the last column. -/
  | outOfRange (columns : Nat)
  /-- The failure of the conversion, as text. -/
  | conversion (reason : String)
  deriving DecidableEq, Repr

/-- The wording of a column fault. -/
def ColumnFault.message : ColumnFault → String
  | .missing => "no such column in result"
  | .ambiguous sources =>
    "ambiguous, present in " ++ Text.commaSeparated sources
      ++ "; qualify it as table/column"
  | .outOfRange columns =>
    "row has only " ++ toString columns ++ " columns"
  | .conversion reason => reason

-- ================================================ configuration and JSON

/-- Why a configuration is refused. -/
inductive ConfigFault where
  | zeroCapacity
  | zeroFetchSize
  | savepointPrefix (text : String)
  | notANumber (setting value : String)
  | malformedFile
  /-- A text from a caller's hook. -/
  | other (text : String)
  deriving DecidableEq, Repr

/-- The wording of a configuration fault. -/
def ConfigFault.message : ConfigFault → String
  | .zeroCapacity => "identity_cache_capacity must be > 0"
  | .zeroFetchSize => "stream_fetch_size must be > 0"
  | .savepointPrefix text =>
    "savepoint_prefix '" ++ text ++ "' must be a non-empty SQL identifier"
  | .notANumber setting value =>
    setting ++ ": '" ++ value ++ "' is not a positive integer"
  | .malformedFile => "malformed configuration file"
  | .other text => text

/-- Why a value has no JSON form, or a JSON text no value. -/
inductive SerializationFault where
  /-- A map whose keys are no strings has no JSON form. -/
  | keyNotString
  /-- An object in a text has something else where a key belongs. -/
  | keyNotStringAt (place : Text.Place)
  | malformed
  | other (text : String)
  deriving DecidableEq, Repr

/-- The wording of a serialization fault. -/
def SerializationFault.message : SerializationFault → String
  | .keyNotString => "key must be a string"
  | .keyNotStringAt place => "key must be a string at " ++ place.render
  | .malformed => "malformed JSON"
  | .other text => text

end DataAccess
