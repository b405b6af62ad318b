import SqlLens.Schema.Basic
import SqlLens.Store.TablePath

/-!
A cache of tables that forgets after a while.

Only tables are kept, never errors. An entry counts until its time to live is over, and is removed when it is asked for
after that.
-/

namespace SqlLens

structure CacheEntry where
  table : Table
  since : Nat

structure Cache where
  lifetime : Nat
  entries : List (String × CacheEntry)

namespace Cache

def empty (lifetime : Nat) : Cache := ⟨lifetime, []⟩

variable (cache : Cache)

def evict (path : TablePath) : Cache :=
  { cache with entries := cache.entries.filter fun entry => entry.1 ≠ path.canonical }

def insert (now : Nat) (path : TablePath) (table : Table) : Cache :=
  { cache with entries := (path.canonical, ⟨table, now⟩) :: (cache.evict path).entries }

def isFresh (now : Nat) (entry : CacheEntry) : Bool := now - entry.since < cache.lifetime

/-- The table for a path, if there is one that still counts; one that does not count is removed. -/
def get (now : Nat) (path : TablePath) : Option Table × Cache :=
  match cache.entries.lookup path.canonical with
  | none => (none, cache)
  | some entry => if cache.isFresh now entry then (some entry.table, cache) else (none, cache.evict path)

def clear : Cache := { cache with entries := [] }

def size : Nat := cache.entries.length

end Cache

end SqlLens
