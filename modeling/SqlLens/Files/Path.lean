import SqlLens.Text.Basic

/-!
Paths as they are written.

A path is its names with slashes between them. Nothing here looks at files: `join`, `parent` and `ancestors` cut and
paste text only, and leave a name such as `..` where it stands.
-/

namespace SqlLens.Files

def join (folder name : String) : String :=
  if Text.startsWith ['/'] name.toList then name
  else if folder.isEmpty || Text.startsWith ['/'] folder.toList.reverse then folder ++ name
  else folder ++ "/" ++ name

/-- Cuts slashes and single dots off the end of a path that is held in reverse; the first name stays. -/
def trimEnd : List Char → List Char
  | '/' :: c :: rest => trimEnd (c :: rest)
  | '.' :: '/' :: rest => trimEnd ('/' :: rest)
  | path => path

variable (path : String)

def parent : String :=
  let above := (trimEnd path.toList.reverse).dropWhile (· ≠ '/')
  String.ofList (trimEnd above).reverse

/-- A path and those of all folders it lies in, from the inside out; the empty path is not among them. Fuel bounds their
number. -/
def ancestorsWithin : Nat → String → List String
  | 0, _ => []
  | fuel + 1, path =>
    if path.isEmpty then []
    else if path = "/" then [path]
    else path :: ancestorsWithin fuel (parent path)

def ancestors : List String := ancestorsWithin (path.length + 1) path

def names : List String := Text.pieces '/' path

def folderNames : List String := ((names path).reverse.dropWhile (· = "")).reverse

def maxName : Nat := 255

def maxPath : Nat := 4095

end SqlLens.Files
