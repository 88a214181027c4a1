/-
Calls of the driver, one after the other. `ask` makes any call that a driver
can be asked for, one step for each; `Reaches` says that it got from one state
to another by such calls. What no call breaks is not broken by any number of
them.

So it is with the handles. A cursor is opened under a handle that was not
given before, and no call gives one back: no cursor is ever open under a
handle that is yet to be given (`Reaches.numbered`).
-/
import DataAccess.Proofs.Driver.Handles
import Mathlib.Logic.Relation

namespace DataAccess

-- ================================================================= requests

namespace Call

/-- What a call is answered with. -/
def Answer : Call → Type
  | .connect => Nat
  | .execute .. => Nat
  | .insertReturning .. => List Value
  | .query .. => ResultSet
  | .prepare _ => Nat
  | .openCursor .. => Nat × List ColumnMeta
  | .fetch _ => Option (List Value)
  | .copyOut _ => List ScriptedChunk
  | _ => Unit

end Call

namespace Driver

/-- Makes a call on a connection. The one that opens a connection is made on
none. -/
def ask (c : Nat) : (call : Call) → Step call.Answer
  | .connect => connect
  | .begin readOnly => begin c readOnly
  | .commit => commit c
  | .rollback => rollback c
  | .savepoint name => savepoint c name
  | .releaseSavepoint name => releaseSavepoint c name
  | .rollbackToSavepoint name => rollbackToSavepoint c name
  | .execute sql params => execute c sql params
  | .insertReturning sql params keys => insertReturning c sql params keys
  | .query sql params => query c sql params
  | .prepare sql => prepare c sql
  | .openCursor statement params fetchSize =>
    openCursor c statement params fetchSize
  | .fetch cursor => fetch c cursor
  | .closeCursor cursor => closeCursor c cursor
  | .closeStatement statement => closeStatement c statement
  | .copyOut sql => copyOut c sql
  | .close => close c

/-- A call that a statement makes is recorded on the connection. -/
theorem records_ask {call : Call} (h : call.isWork = true) (c : Nat) :
    Records (some c) call (ask c call) := by
  cases call with
  | execute sql params => exact records_execute c sql params
  | insertReturning sql params keys =>
      exact records_insertReturning c sql params keys
  | query sql params => exact records_query c sql params
  | prepare sql => exact records_prepare c sql
  | openCursor statement params fetchSize =>
      exact records_openCursor c statement params fetchSize
  | fetch cursor => exact records_fetch c cursor
  | closeCursor cursor => exact records_closeCursor c cursor
  | closeStatement statement => exact records_closeStatement c statement
  | copyOut sql => exact records_copyOut c sql
  | _ => cases h

/-- What a call makes of a driver, whether it fails or not. -/
def Called (d d' : Driver) : Prop :=
  ∃ c call, (ask c call).after d = d'

/-- What any number of calls make of a driver. -/
def Reaches : Driver → Driver → Prop :=
  Relation.ReflTransGen Called

/-- What a call makes of a driver is reached from it. -/
theorem reaches_ask (c : Nat) (call : Call) (d : Driver) :
    d.Reaches ((ask c call).after d) :=
  .single ⟨c, call, rfl⟩

-- =============================================================== the handles

variable {α : Type} {d d' : Driver}

/-- Whether handles are in order is told by the shelf. -/
theorem numbered_of_shelf (h : d'.shelf = d.shelf) (hd : d.Numbered) :
    d'.Numbered := by
  have hcursors : d'.cursors = d.cursors := congrArg (·.cursors) h
  have hlast : d'.lastHandle = d.lastHandle := congrArg (·.lastHandle) h
  unfold Numbered
  rw [hcursors, hlast]
  exact hd

/-- A call breaks nothing that its answer does not break. -/
theorem numbered_perform {answer : Step α}
    (h : ∀ d : Driver, d.Numbered → (answer.after d).Numbered)
    (connection : Option Nat) (call : Call) (hd : d.Numbered) :
    ((perform connection call answer).after d).Numbered := by
  rcases perform_shelf d connection call answer with
    ⟨e, -, hafter⟩ | ⟨d', hd', -, hafter⟩
  · exact numbered_of_shelf hafter hd
  · exact numbered_of_shelf hafter (h d' (numbered_of_shelf hd' hd))

/-- A handle that is given is the last. -/
theorem numbered_openCursor (c statement : Nat) (params : List Value)
    (fetchSize : Nat) (hd : d.Numbered) :
    ((openCursor c statement params fetchSize).after d).Numbered := by
  refine numbered_perform (fun d hd => ?_) _ _ hd
  simp only [EStateM.after]
  cases (d.statements.lookup statement).isSome with
  | false => exact hd
  | true =>
      intro cursor hcursor
      rcases List.mem_append.mp hcursor with hcursor | hcursor
      · exact Nat.le_succ_of_le (hd cursor hcursor)
      · rw [List.mem_singleton.mp hcursor]
        exact Nat.le_refl _

/-- A cursor that moves on keeps its handle. -/
theorem numbered_fetch (c cursor : Nat) (hd : d.Numbered) :
    ((fetch c cursor).after d).Numbered := by
  refine numbered_perform (fun d hd => ?_) _ _ hd
  simp only [EStateM.after]
  rcases d.cursors.lookup cursor with _ | _ | ⟨row, rows⟩
  · exact hd
  · exact hd
  · intro entry hentry
    obtain ⟨before, hbefore, rfl⟩ := List.mem_map.mp hentry
    have hle := hd before hbefore
    dsimp only
    split <;> exact hle

/-- No call opens a cursor under a handle that is yet to be given. -/
theorem numbered_ask (c : Nat) (call : Call) (hd : d.Numbered) :
    ((ask c call).after d).Numbered := by
  unfold ask
  cases call with
  | openCursor statement params fetchSize =>
      exact numbered_openCursor c statement params fetchSize hd
  | fetch cursor => exact numbered_fetch c cursor hd
  | prepare =>
      refine numbered_perform (fun d hd cursor hcursor => ?_) _ _ hd
      exact Nat.le_succ_of_le (hd cursor hcursor)
  | closeCursor =>
      refine numbered_perform (fun d hd cursor hcursor => ?_) _ _ hd
      exact hd cursor (List.mem_filter.mp hcursor).1
  | insertReturning =>
      refine numbered_perform (fun d hd => ?_) _ _ hd
      simp only [EStateM.after]
      cases d.generated <;> exact hd
  | close =>
      show ((perform (some c) .close (pure ())).after
        { d with connections := d.connections.set c false }).Numbered
      refine numbered_perform (fun d hd => ?_) _ _ hd
      exact hd
  | _ =>
      refine numbered_perform (fun d hd => ?_) _ _ hd
      exact hd

/-- Nor does any number of them. -/
theorem Reaches.numbered (h : d.Reaches d') (hd : d.Numbered) :
    d'.Numbered := by
  induction h with
  | refl => exact hd
  | tail _ hcalled ih =>
      obtain ⟨c, call, rfl⟩ := hcalled
      exact numbered_ask c call ih

end Driver

end DataAccess
