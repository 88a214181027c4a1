/-
References to entities. A reference is made from an instance that has its
identity, or while a row is read: then it stands for the cached instance of
its key, or for a stub that is cached from then on. A stub has its identity,
and the columns that the row says about it under the prefix of the relation.
-/
import DataAccess.Entity.Binding
import DataAccess.Session.Basic

namespace DataAccess.Action

variable (schema : Schema)

/-- The shared instance of a key in the cache of a transaction. -/
def cached (t : TransactionId) (key : CacheKey) :
    Action (Option InstanceId) :=
  modifyGet fun s =>
    let (found, cache) := (s.cacheOf t).get key
    (found, s.modifyCache t fun _ => cache)

/-- The shared instance of a key that came from its own row. -/
def cachedLoaded (t : TransactionId) (key : CacheKey) :
    Action (Option InstanceId) :=
  modifyGet fun s =>
    let (found, cache) := (s.cacheOf t).getLoaded key
    (found, s.modifyCache t fun _ => cache)

/-- Caches a shared instance. -/
def cache (t : TransactionId) (key : CacheKey) (target : InstanceId)
    (loaded : Bool) : Action Unit :=
  modify fun s => s.modifyCache t fun c => c.put key target loaded

/-- Drops a key from the cache. -/
def evict (t : TransactionId) (key : CacheKey) : Action Unit :=
  modify fun s => s.modifyCache t fun c => c.invalidate key

/-- The reference to an entity, if it has an identity of one column. -/
def referenceValue (e : Entity) : Except Error Value := do
  let b ← EntityBinding.ofType schema e.type
  match ← b.identityValues e with
  | [id] =>
    if id.isNull then .error (.mapping (.notReferable b.table)) else return id
  | _ => .error (.mapping (.notReferable b.table))

/-- A reference to a shared instance. -/
def referTo (target : InstanceId) : Action Reference := do
  match (← get).instances[target]? with
  | none => throw (.mapping (.notReferable ""))
  | some e =>
    let id ← ofExcept (referenceValue schema e)
    return { id, target }

/-- A reference to an entity, which becomes a shared instance. -/
def referToNew (e : Entity) : Action Reference := do
  let target ← share e
  referTo schema target

/-- The stub of an entity: its identity, and the columns of the row that
carry the prefix. -/
def stub (b : EntityBinding) (key : Value) (columnPrefix : String)
    (row : Row) : Except Error Entity :=
  let edit : Edit Unit := do
    b.setIdentity [key]
    b.populatePrefixed columnPrefix row
  match edit b.initial with
  | .ok () e => .ok e
  | .error e _ => .error e

/-- The reference that a row holds: none when its key is null. -/
def loadReference (t : TransactionId) (target : String) (key : Value)
    (columnPrefix : String) (row : Row) : Action (Option Reference) := do
  match IdentityKey.ofValues? [key] with
  | none => return none
  | some identity =>
    let cacheKey : CacheKey := { entity := target, identity }
    match ← cached t cacheKey with
    | some found => return some { id := key, target := found }
    | none =>
      let b ← ofExcept (EntityBinding.ofType schema target)
      let e ← ofExcept (stub b key columnPrefix row)
      let shared ← share e
      cache t cacheKey shared false
      return some { id := key, target := shared }

end DataAccess.Action
