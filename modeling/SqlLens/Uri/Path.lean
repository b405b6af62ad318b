import SqlLens.Uri.Percent

/-!
Paths of addresses.

A path is worked out segment by segment: single dots stay where they are, two dots go up, and all else is escaped. A
segment that names a drive, a letter with a colon, is never left by going up.
-/

namespace SqlLens.Uri

def isSingleDot (segment : List Char) : Bool :=
  [".", "%2e"].any (Text.sameName (String.ofList segment))

def isDoubleDot (segment : List Char) : Bool :=
  ["..", ".%2e", "%2e.", "%2e%2e"].any (Text.sameName (String.ofList segment))

def isDrive : List Char → Bool
  | [letter, mark] => letter.isAlpha && (mark = ':' || mark = '|')
  | _ => false

def startsWithDrive : List Char → Bool
  | letter :: mark :: rest =>
    isDrive [letter, mark] && (rest.head?.all fun c => c = '\\' || c = '?' || c = '#')
  | _ => false

def segments (special : Bool) (text : List Char) : List (List Char) :=
  Text.splitOn '/' (text.map fun c => if special && c = '\\' then '/' else c)

def goUp (done : List (List Char)) : List (List Char) :=
  match done.getLast? with
  | some last => if startsWithDrive last then done else done.dropLast
  | none => []

def keep (isFile : Bool) (done : List (List Char)) (segment : List Char) : List Char :=
  if isFile && done.isEmpty && isDrive segment then segment.take 1 ++ [':'] else escape pathReserved segment

def resolve (isFile : Bool) (done : List (List Char)) : List (List Char) → List (List Char)
  | [] => done
  | [last] =>
    if isDoubleDot last then goUp done ++ [[]]
    else if isSingleDot last then done ++ [[]]
    else done ++ [keep isFile done last]
  | segment :: rest =>
    if isDoubleDot segment then resolve isFile (goUp done) rest
    else if isSingleDot segment then resolve isFile done rest
    else resolve isFile (done ++ [keep isFile done segment]) rest

/-- Whether a drive stands at the front of a file's path at some point while it is worked out. -/
def meetsDrive (done : List (List Char)) : List (List Char) → Bool
  | [] => false
  | segment :: rest =>
    if isDoubleDot segment then meetsDrive (goUp done) rest
    else if isSingleDot segment then meetsDrive done rest
    else (done.isEmpty && isDrive segment) || meetsDrive (done ++ [keep true done segment]) rest

def pathText (segments : List (List Char)) : List Char := segments.flatMap ('/' :: ·)

def path (special : Bool) (text : List Char) : List Char := pathText (resolve false [] (segments special text))

def filePath (text : List Char) : List Char :=
  '/' :: (pathText (resolve true [] (segments true text))).dropWhile (· = '/')

end SqlLens.Uri
