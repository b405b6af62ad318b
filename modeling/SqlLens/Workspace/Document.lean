import SqlLens.Uri.Basic

/-!
Open documents.

A document is replaced as a whole, so a text and its version always belong together.
-/

namespace SqlLens

structure Document where
  uri : Uri
  text : String
  version : Int
deriving DecidableEq

structure Documents where
  entries : List Document

namespace Documents

def empty : Documents := ⟨[]⟩

variable (documents : Documents)

def find? (uri : Uri) : Option Document :=
  documents.entries.find? fun document => document.uri = uri

def erase (uri : Uri) : Documents :=
  ⟨documents.entries.filter fun document => document.uri ≠ uri⟩

def insert (document : Document) : Documents :=
  ⟨document :: (documents.erase document.uri).entries⟩

def size : Nat := documents.entries.length

end Documents

end SqlLens
