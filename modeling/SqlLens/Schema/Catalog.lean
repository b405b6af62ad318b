import SqlLens.Schema.Basic

/-!
Tables by their paths.
-/

namespace SqlLens

structure Catalog where
  entries : List (String × Table)

namespace Catalog

def empty : Catalog := ⟨[]⟩

variable (catalog : Catalog)

def find? (path : String) : Option Table := catalog.entries.lookup path

def insert (path : String) (table : Table) : Catalog :=
  ⟨(path, table) :: catalog.entries.filter fun entry => entry.1 ≠ path⟩

def size : Nat := catalog.entries.length

def contains (path : String) : Bool := (catalog.find? path).isSome

end Catalog

end SqlLens
