/-
Entities in the database. Inserting, updating and deleting write one entity
and drop its key from the identity cache; finding and selecting read
entities. A shared find gives one instance for each identity, for as long as
the cache has it.

Whatever speaks against a statement without asking the database is found
before anything is sent.
-/
import DataAccess.Session.Loading
import DataAccess.Session.Query

namespace DataAccess.Action

variable (schema : Schema)

-- =============================================================== reading

/-- Every row of a query as an entity. -/
def fetchEntities (t : TransactionId) (typeName sql : String)
    (params : Params) : Action (List Entity) := do
  let b ← ofExcept (EntityBinding.ofType schema typeName)
  fetchMap t sql params (load schema t b)

/-- The entities that a condition, an order or the like selects. -/
def select (t : TransactionId) (typeName suffix : String) (params : Params) :
    Action (List Entity) := do
  let b ← ofExcept (EntityBinding.ofType schema typeName)
  fetchEntities schema t typeName (withSuffix b.selectStatement suffix) params

/-- The first of the selected entities. -/
def selectOptional (t : TransactionId) (typeName suffix : String)
    (params : Params) : Action (Option Entity) := do
  return (← select schema t typeName suffix params).head?

/-- The entity of an identity. A null in the identity finds nothing. -/
def find (t : TransactionId) (typeName : String) (id : List Value) :
    Action (Option Entity) := do
  let b ← ofExcept (EntityBinding.ofType schema typeName)
  let columns := b.identityColumns
  if id.length ≠ columns.length then
    throw (.mapping (.lookupWidth b.table id.length columns))
  else if id.any Value.isNull then return none
  else
    let found ← fetchEntities schema t typeName b.findStatement
      (Params.empty.bindAll id)
    return found.head?

/-- The shared instance of an identity, from the cache or from the
database. -/
def findShared (t : TransactionId) (typeName : String) (id : List Value) :
    Action (Option InstanceId) := do
  match IdentityKey.ofValues? id with
  | none => return none
  | some identity =>
    let key : CacheKey := { entity := typeName, identity }
    match ← cachedLoaded t key with
    | some found => return some found
    | none =>
      match ← find schema t typeName id with
      | none => return none
      | some e =>
        let shared ← share e
        cache t key shared true
        return some shared

/-- The shared instance that a reference stands for, loaded from its own
row. -/
def resolveReference (t : TransactionId) (target : String) (r : Reference) :
    Action InstanceId := do
  match ← findShared schema t target [r.id] with
  | some found => return found
  | none => throw ((← get).fault t (.dangling target r.id.render))

end DataAccess.Action

namespace DataAccess.EntityAction

variable (schema : Schema)

-- =============================================================== writing

/-- Drops an identity from the cache. -/
def evict (t : TransactionId) (b : EntityBinding) (identity : IdentityKey) :
    EntityAction Unit :=
  ofAction (Action.evict t { entity := b.typeName, identity })

/-- Fails with a fault of a statement. -/
def refuse {α : Type} (t : TransactionId) (fault : StatementFault)
    (sql : String) (params : List Value) : EntityAction α := do
  throw (.database fault ((← get).session.context t sql params))

/-- Runs the statement of an insert whose identity is given. -/
def insertGiven (t : TransactionId)
    (statement : EntityBinding.InsertStatement) : EntityAction Unit := do
  let _ ← ofAction
    (Action.onConnection t statement.sql statement.params fun c =>
      Driver.execute c statement.sql statement.params)

/-- Runs the statement of an insert whose identity is generated, and sets
the identity. -/
def insertGenerated (t : TransactionId) (b : EntityBinding)
    (statement : EntityBinding.InsertStatement) : EntityAction Unit := do
  let generated ← ofAction
    (Action.onConnection t statement.sql statement.params fun c =>
      Driver.insertReturning c statement.sql statement.params statement.keys)
  ofEdit (b.setIdentity generated)
  if ← ofExcept (b.isTransient (← entity)) then
    refuse t (.identityNotReturned b.table) statement.sql statement.params

/-- Inserts the entity. When its identity is generated it has none before
and has it afterwards; otherwise it has one already. -/
def insert (t : TransactionId) : EntityAction Unit := do
  let e ← entity
  let b ← ofExcept (EntityBinding.ofType schema e.type)
  let statement ← ofExcept (b.insertStatement e)
  ofAction (Action.ensureWritable t statement.sql)
  let transient ← ofExcept (b.isTransient e)
  if b.isGenerated && !transient then
    refuse t (.identityGiven b.table) statement.sql
      (← ofExcept (b.identityValues e))
  else if !b.isGenerated && transient then
    refuse t (.identityMissing b.table) statement.sql statement.params
  else
    if b.isGenerated then insertGenerated t b statement
    else insertGiven t statement
    match ← ofExcept (b.identity (← entity)) with
    | some identity => evict t b identity
    | none => pure ()
    ofEdit b.runPostStore

/-- The identity of the entity, which must have one. -/
def requireIdentity (t : TransactionId) (b : EntityBinding) (sql : String) :
    EntityAction IdentityKey := do
  match ← ofExcept (b.identity (← entity)) with
  | some identity => return identity
  | none => refuse t (.transient b.table) sql []

/-- Runs a statement that changes the row of the entity, and drops its key
from the cache. -/
def change (t : TransactionId) (b : EntityBinding)
    (statement : EntityBinding.ChangeStatement) : EntityAction Nat := do
  ofAction (Action.ensureWritable t statement.sql)
  let identity ← requireIdentity t b statement.sql
  let affected ← ofAction
    (Action.onConnection t statement.sql statement.params fun c =>
      Driver.execute c statement.sql statement.params)
  evict t b identity
  return affected

/-- Updates the row of the entity; returns how many rows it affected. -/
def update (t : TransactionId) : EntityAction Nat := do
  let e ← entity
  let b ← ofExcept (EntityBinding.ofType schema e.type)
  let statement ← ofExcept (b.updateStatement e)
  let affected ← change t b statement
  ofEdit b.runPostStore
  return affected

/-- Deletes the row of the entity; returns how many rows it affected. -/
def delete (t : TransactionId) : EntityAction Nat := do
  let e ← entity
  let b ← ofExcept (EntityBinding.ofType schema e.type)
  let statement ← ofExcept (b.deleteStatement e)
  change t b statement

end DataAccess.EntityAction
