import SqlLens.Uri.Host
import SqlLens.Uri.Path

/-!
Addresses of documents.

`Uri.parse` brings an address into its normal form: the scheme and the host in small letters, dots in paths worked out,
and characters that may not stand for themselves written as percent signs with their bytes. Two addresses are the same
when their normal forms are.
-/

namespace SqlLens

structure Uri where
  text : String
deriving DecidableEq

namespace Uri

def cut (mark : Char) (text : List Char) : List Char × Option (List Char) :=
  let before := text.takeWhile (· ≠ mark)
  (before, (text.dropWhile (· ≠ mark)).tail?)

structure Rest where
  path : List Char
  query : Option (List Char)
  fragment : Option (List Char)

variable (text : List Char)

def Rest.of : Rest :=
  let (front, fragment) := cut '#' text
  let (path, query) := cut '?' front
  ⟨path, query, fragment⟩

def Rest.tail (rest : Rest) (special : Bool) : List Char :=
  (match rest.query with
    | some query => '?' :: escape (queryReserved special) query
    | none => []) ++
  (match rest.fragment with
    | some fragment => '#' :: escape fragmentReserved fragment
    | none => [])

def defaultPort : String → Option Nat
  | "http" | "ws" => some 80
  | "https" | "wss" => some 443
  | "ftp" => some 21
  | _ => none

def isSpecial (scheme : String) : Bool := ["http", "https", "ws", "wss", "ftp", "file"].contains scheme

def isSlash (c : Char) : Bool := c = '/' || c = '\\'

/-! ### Hosts with users and ports -/

def credentials (user : List Char) : List Char :=
  let (name, password) := cut ':' user
  let shown := escape userReserved name ++
    match password with
    | some (c :: rest) => ':' :: escape userReserved (c :: rest)
    | _ => []
  if shown.isEmpty then [] else shown ++ ['@']

def cutUser : Option (List Char) × List Char :=
  let host := (text.reverse.takeWhile (· ≠ '@')).reverse
  if host.length = text.length then (none, text) else (some (text.take (text.length - host.length - 1)), host)

def hostText : (inBrackets : Bool) → List Char → List Char
  | _, [] => []
  | inBrackets, c :: rest =>
    if c = ':' && !inBrackets then []
    else c :: hostText (if c = '[' then true else if c = ']' then false else inBrackets) rest

def hostService (scheme : String) (text : List Char) : Except UriFault (List Char × List Char) :=
  let digits := text.takeWhile Char.isDigit
  let rest := text.drop digits.length
  let value := (Text.decimal? digits).getD 0
  if 65535 < value || !(rest.head?.all (· = '\\')) then .error .invalidPort
  else if digits.isEmpty || defaultPort scheme = some value then .ok ([], rest)
  else .ok (':' :: (toString value).toList, rest)

/-- The user, host and service of an address, as they are written, and the path after them. `after` is what follows the
host in the address. -/
def authority (scheme : String) (text after : List Char) : Except UriFault (List Char × List Char) := do
  let (user, place) := cutUser text
  if user = some [] && place.isEmpty && !after.isEmpty then throw .emptyHost
  let user := credentials (user.getD [])
  let written := hostText false place
  let rest := place.drop written.length
  if written.isEmpty && (isSpecial scheme || !rest.isEmpty || !user.isEmpty) then throw .emptyHost
  let host ← if isSpecial scheme then Host.parse written else Host.parseOpaque written
  match rest with
  | ':' :: digits =>
    let (service, left) ← hostService scheme digits
    return (user ++ host.text ++ service, left ++ after)
  | _ => return (user ++ host.text, rest ++ after)

/-! ### Kinds of addresses -/

def fileHost : Except UriFault (List Char) := do
  let rest := Rest.of text
  let written := rest.path.takeWhile (!isSlash ·)
  if isDrive written then return filePath rest.path ++ rest.tail true
  let path := rest.path.drop written.length
  let host ← if written.isEmpty then pure [] else (do return (← Host.parse written).text)
  if host.isEmpty || host = "localhost".toList then return filePath path ++ rest.tail true
  let path := match path with
    | c :: inner => if isSlash c then inner else path
    | [] => []
  let host := if meetsDrive [] (segments true path) then [] else host
  return host ++ filePath path ++ rest.tail true

def fileText : Except UriFault (List Char) := do
  match text with
  | a :: b :: after =>
    if isSlash a && isSlash b then return "//".toList ++ (← fileHost after)
    else if isSlash a then return "//".toList ++ pathOnly (b :: after)
    else return "//".toList ++ pathOnly text
  | [a] => return "//".toList ++ pathOnly (if isSlash a then [] else text)
  | [] => return "//".toList ++ pathOnly text
where
  pathOnly (text : List Char) : List Char :=
    let rest := Rest.of text
    filePath rest.path ++ rest.tail true

def hostedText (scheme : String) (text : List Char) : Except UriFault (List Char) := do
  let after := text.dropWhile isSlash
  let place := after.takeWhile fun c => !(['/', '\\', '?', '#'].contains c)
  let (shown, left) ← authority scheme place (after.drop place.length)
  let rest := Rest.of left
  let inner := match rest.path with
    | c :: inner => if isSlash c then inner else rest.path
    | [] => []
  return "//".toList ++ shown ++ path true inner ++ rest.tail true

def otherText (scheme : String) (text : List Char) : Except UriFault (List Char) := do
  match text with
  | '/' :: '/' :: after =>
    let place := after.takeWhile fun c => !(['/', '?', '#'].contains c)
    let (shown, left) ← authority scheme place (after.drop place.length)
    let rest := Rest.of left
    let shownPath := match rest.path with
      | '/' :: inner => path false inner
      | [] => []
      | other => path false other
    return "//".toList ++ shown ++ shownPath ++ rest.tail false
  | '/' :: inner =>
    let rest := Rest.of inner
    let shown := path false rest.path
    let front := if Text.startsWith ['/', '/'] shown then "/.".toList else []
    return front ++ shown ++ rest.tail false
  | _ =>
    let rest := Rest.of text
    return escape [] rest.path ++ rest.tail false

def clean (text : String) : List Char :=
  let isEdge (c : Char) : Bool := c.toNat ≤ 0x20
  let front := text.toList.dropWhile isEdge
  let both := (front.reverse.dropWhile isEdge).reverse
  both.filter fun c => c ≠ '\t' && c ≠ '\n' && c ≠ '\r'

def scheme? : Option (String × List Char) :=
  let name := text.takeWhile fun c => c.isAlphanum || c = '+' || c = '-' || c = '.'
  match name, text.drop name.length with
  | first :: _, ':' :: rest => if first.isAlpha then some (Text.lower (String.ofList name), rest) else none
  | _, _ => none

def parse (text : String) : Except UriFault Uri := do
  match scheme? (clean text) with
  | none => throw .noScheme
  | some (scheme, rest) =>
    let after ←
      if scheme = "file" then fileText rest
      else if isSpecial scheme then hostedText scheme rest
      else otherText scheme rest
    return ⟨scheme ++ ":" ++ String.ofList after⟩

end Uri

end SqlLens
