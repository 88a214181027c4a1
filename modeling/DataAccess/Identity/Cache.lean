/-
The identity cache: a bounded map from entity type and identity to the
shared instance of that entity. Entries are kept in the order of their last
use, latest first, and each key once; putting a new entry into a full cache
drops the one at the end.

An entry is *loaded* when its instance came from its own row. A relation
met in another entity's row makes an entry that is not: a stub that carries
the key and whatever the row said about its target.
-/
import DataAccess.Identity.Key

namespace DataAccess

/-- What an entry is stored under: the name of the entity type, and the
identity. -/
structure CacheKey where
  entity : String
  identity : IdentityKey
  deriving DecidableEq

/-- An entry: a shared instance, and whether it came from its own row. -/
structure CacheEntry (α : Type) where
  item : α
  loaded : Bool

/-- A bounded map in order of last use, with counts of the look-ups that
found something and of those that did not. -/
structure IdentityCache (α : Type) where
  capacity : Nat
  entries : List (CacheKey × CacheEntry α)
  hits : Nat
  misses : Nat

namespace IdentityCache

variable {α : Type}

/-- An empty cache; it holds at least one entry. -/
def empty (capacity : Nat) : IdentityCache α :=
  { capacity := max capacity 1, entries := [], hits := 0, misses := 0 }

/-- The number of entries. -/
def size (c : IdentityCache α) : Nat :=
  c.entries.length

/-- The entry under a key, without counting as a look-up. -/
def find? (c : IdentityCache α) (key : CacheKey) : Option (CacheEntry α) :=
  c.entries.lookup key

/-- The entries under other keys, in their order. -/
def without (key : CacheKey) (entries : List (CacheKey × CacheEntry α)) :
    List (CacheKey × CacheEntry α) :=
  entries.filter fun (k, _) => k ≠ key

/-- Looks a key up: a hit moves its entry to the front. -/
def lookUp (c : IdentityCache α) (key : CacheKey) :
    Option (CacheEntry α) × IdentityCache α :=
  match c.find? key with
  | some entry =>
    (some entry,
      { c with
        entries := (key, entry) :: without key c.entries
        hits := c.hits + 1 })
  | none => (none, { c with misses := c.misses + 1 })

/-- Any instance under a key, stub or loaded. -/
def get (c : IdentityCache α) (key : CacheKey) :
    Option α × IdentityCache α :=
  let (found, c) := c.lookUp key
  (found.map (·.item), c)

/-- Only an instance that came from its own row. A stub counts as found all
the same. -/
def getLoaded (c : IdentityCache α) (key : CacheKey) :
    Option α × IdentityCache α :=
  let (found, c) := c.lookUp key
  match found with
  | some entry => (if entry.loaded then some entry.item else none, c)
  | none => (none, c)

/-- Puts an instance under a key, in place of what was there. A new key in a
full cache takes the place of the entry that was used least recently. -/
def put (c : IdentityCache α) (key : CacheKey) (x : α) (loaded : Bool) :
    IdentityCache α :=
  { c with
    entries := ((key, ⟨x, loaded⟩) :: without key c.entries).take c.capacity }

/-- Drops the entry under a key. -/
def invalidate (c : IdentityCache α) (key : CacheKey) : IdentityCache α :=
  { c with entries := without key c.entries }

/-- Drops every entry; the counts stay. -/
def clear (c : IdentityCache α) : IdentityCache α :=
  { c with entries := [] }

end IdentityCache

end DataAccess
