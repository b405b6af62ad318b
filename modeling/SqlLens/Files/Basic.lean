import SqlLens.Files.Path

/-!
Files and folders.

`Files` holds what a program sees of a file system. A place in it is the list of names that lead there; every folder is
listed, and a file stands in a folder. A path is followed name by name: `follow` stops at the first name that leads
nowhere, and the fault it gives says why.
-/

namespace SqlLens

inductive FileFault where
  | missing
  | exist
  | notFolder
  | isFolder
  | longName
  | nulByte
deriving DecidableEq

def FileFault.message : FileFault → String
  | missing => "No such file or directory (os error 2)"
  | exist => "File exists (os error 17)"
  | notFolder => "Not a directory (os error 20)"
  | isFolder => "Is a directory (os error 21)"
  | longName => "File name too long (os error 36)"
  | nulByte => "file name contained an unexpected NUL byte"

structure Files where
  files : List (List String × String)
  folders : List (List String)

namespace Files

def empty : Files := ⟨[], []⟩

variable (files : Files)

def content? (place : List String) : Option String := files.files.lookup place

def isFolder (place : List String) : Bool := place.isEmpty || files.folders.contains place

/-- Follows names from a place: a single dot stays where it is, two dots go up, and any other name has to be there. Only
a folder can be gone on from. -/
def follow (files : Files) (place : List String) : List String → Except FileFault (List String)
  | [] => .ok place
  | name :: rest =>
    if !files.isFolder place then .error .notFolder
    else if name = "" || name = "." then files.follow place rest
    else if name = ".." then files.follow place.dropLast rest
    else if maxName < name.utf8ByteSize then .error .longName
    else
      let next := place ++ [name]
      if files.isFolder next || (files.content? next).isSome then files.follow next rest else .error .missing

def checkPath (path : String) : Except FileFault Unit :=
  if path.toList.contains '\x00' then .error .nulByte
  else if maxPath < path.utf8ByteSize then .error .longName
  else if path.isEmpty then .error .missing
  else .ok ()

def find (path : String) : Except FileFault (List String) := do
  checkPath path
  files.follow [] (names path)

def read (path : String) : Except FileFault String := do
  match files.content? (← files.find path) with
  | some content => return content
  | none => throw .isFolder

def hasFile (path : String) : Bool := (files.read path).isOk

def hasFolder (path : String) : Bool :=
  match files.find path with
  | .ok place => files.isFolder place
  | .error _ => false

def newPlace (taken : FileFault) (names : List String) : Except FileFault (List String) := do
  let name := names.getLast?.getD ""
  let folder ← files.follow [] names.dropLast
  if !files.isFolder folder then throw .notFolder
  if ["", ".", ".."].contains name then throw taken
  if maxName < name.utf8ByteSize then throw .longName
  return folder ++ [name]

def makeOne (path : String) : Except FileFault Files := do
  checkPath path
  let place ← files.newPlace .exist (folderNames path)
  if files.isFolder place || (files.content? place).isSome then throw .exist
  return { files with folders := files.folders ++ [place] }

/-- Makes the first of some folders, each of which lies in the next, and those of the others that are missing. What was
made stays when a later one fails. -/
def makeAll (files : Files) : List String → Except FileFault Unit × Files
  | [] => (.ok (), files)
  | path :: above =>
    match files.makeOne path with
    | .ok made => (.ok (), made)
    | .error .missing =>
      match files.makeAll above with
      | (.error fault, made) => (.error fault, made)
      | (.ok (), made) => settle made path (made.makeOne path)
    | .error fault => settle files path (.error fault)
where
  settle (files : Files) (path : String) : Except FileFault Files → Except FileFault Unit × Files
    | .ok made => (.ok (), made)
    | .error fault => if files.hasFolder path then (.ok (), files) else (.error fault, files)

def makeFolder (path : String) : Except FileFault Unit × Files := files.makeAll (ancestors path)

def write (path content : String) : Except FileFault Files := do
  checkPath path
  let place ← files.newPlace .isFolder (names path)
  if files.isFolder place then throw .isFolder
  return { files with files := (place, content) :: files.files.filter fun file => file.1 ≠ place }

def place (path content : String) : Except FileFault Files :=
  match files.makeFolder (parent path) with
  | (.ok (), made) => made.write path content
  | (.error fault, _) => .error fault

def remove (path : String) : Files :=
  match files.find path with
  | .ok place => { files with files := files.files.filter fun file => file.1 ≠ place }
  | .error _ => files

end Files

end SqlLens
