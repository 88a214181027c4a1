/-
Bulk exports of a transaction. The query is sent as an export, and every row
of it goes through the caller's mapper, which keeps a state of its own.
-/
import DataAccess.Bulk.Export
import DataAccess.Session.Transaction

namespace DataAccess.Action

variable {σ α : Type}

/-- The chunks of an export as the decoder wants them. -/
def chunksOf (context : StatementContext) (chunks : List ScriptedChunk) :
    List Bulk.Chunk :=
  chunks.map fun chunk => chunk.mapError fun e => Error.ofDriver e context

/-- Exports the rows of a query; gives the mapped rows, or how it failed,
and the state of the mapper. -/
def copyBinary (t : TransactionId) (query : String) (types : List BulkType)
    (mapper : BulkRow → EStateM Error σ α) (state : σ) :
    Action (Except Error (List α) × σ) := do
  match ← attempt (ensureOpen t) with
  | .error e => return (.error e, state)
  | .ok () =>
    let sql := Bulk.exportStatement query
    let s ← get
    report (.exporting (s.transaction t).display sql types.length)
    match ← attempt (onConnectionQuietly t sql [] fun c =>
        Driver.copyOut c sql) with
    | .error e => return (.error e, state)
    | .ok chunks =>
      let context := s.context t sql []
      match Bulk.decode types mapper (chunksOf context chunks) state with
      | .ok rows state => return (.ok rows, state)
      | .error e state => return (.error (e.withContext context), state)

end DataAccess.Action
