/-
Decoding a whole export. Chunks are taken one by one, from the left; the
first carries the header. Every row goes to the caller's visitor, which may
keep a state of its own and may fail. The first thing that fails ends the
export: a chunk that could not be had, a malformed frame, the visitor.
-/
import DataAccess.Bulk.Frame
import DataAccess.Error.Basic

namespace DataAccess.Bulk

/-- The statement that exports the rows of a query. -/
def exportStatement (query : String) : String :=
  "COPY (" ++ query ++ ") TO STDOUT WITH (FORMAT binary)"

/-- A chunk, or why it could not be had. -/
abbrev Chunk := Except Error Bytes

variable {σ α : Type}

/-- An undecodable frame, with its bytes. -/
def frameError (fault : FrameFault) (bytes : Bytes) : Error :=
  .decode (.frame fault) bytes

/-- The row of a frame; the trailer has none. If the frame cannot be decoded
the error shows it. -/
def readFrame (types : List BulkType) (frame : Bytes) :
    Except Error (Option BulkRow) :=
  (decodeFrame types frame).mapError (frameError · frame)

/-- Visits the row of a frame, if there is one; returns how many. -/
def visitFrame (types : List BulkType)
    (visit : BulkRow → EStateM Error σ Unit) (frame : Bytes) :
    EStateM Error σ Nat := fun s =>
  match decodeFrame types frame with
  | .error fault => .error (frameError fault frame) s
  | .ok none => .ok 0 s
  | .ok (some row) =>
    match visit row s with
    | .ok () s => .ok 1 s
    | .error e s => .error (frameError (.mapper e.message) frame) s

/-- Visits the rows of the chunks that follow the first one. -/
def visitFrames (types : List BulkType)
    (visit : BulkRow → EStateM Error σ Unit) :
    List Chunk → EStateM Error σ Nat
  | [] => pure 0
  | .error e :: _ => throw e
  | .ok frame :: rest => do
    let n ← visitFrame types visit frame
    let m ← visitFrames types visit rest
    return n + m

/-- Visits every row of an export; returns how many there are. -/
def forEach (types : List BulkType)
    (visit : BulkRow → EStateM Error σ Unit) :
    List Chunk → EStateM Error σ Nat
  | [] => throw (frameError .noHeader [])
  | .error e :: _ => throw e
  | .ok chunk :: rest =>
    match bodyOf chunk with
    | .error fault => throw (frameError fault chunk)
    | .ok [] => visitFrames types visit rest
    | .ok body => visitFrames types visit (.ok body :: rest)

/-- Appends what a mapper makes of a row to the list so far. -/
def collecting (mapper : BulkRow → EStateM Error σ α) (row : BulkRow) :
    EStateM Error (σ × List α) Unit := fun (s, rows) =>
  match mapper row s with
  | .ok x s => .ok () (s, rows ++ [x])
  | .error e s => .error e (s, rows)

/-- Maps every row of an export. -/
def decode (types : List BulkType) (mapper : BulkRow → EStateM Error σ α)
    (chunks : List Chunk) : EStateM Error σ (List α) := fun s =>
  match forEach types (collecting mapper) chunks (s, []) with
  | .ok _ (s, rows) => .ok rows s
  | .error e (s, _) => .error e s

end DataAccess.Bulk
