import SqlLens.Surface.Arena
import SqlLens.Surface.Brackets

/-!
Finding the tokens a node is made of.

The grammar keeps the offsets of names and of a few keywords. Everything else is found again by a cursor that moves
forward over the tokens of the statement: each node claims the tokens it is made of, and keywords, literals and brackets
are searched for from the cursor on.

Nodes are put into a store as they are made (`NodeStore`). The store of a script is an arena; without one, nodes are
trees.
-/

namespace SqlLens.Surface

structure Unsupported where
  what : String
  span : Option Span

structure Tokens where
  pieces : List Piece
  pairs : List (Nat × Nat)

def Tokens.of (pieces : List Piece) : Tokens := ⟨pieces, bracketPairs (pieces.map Piece.shape)⟩

namespace Tokens

variable (tokens : Tokens)

def span? (index : Nat) : Option Span := tokens.pieces[index]?.map Piece.span

def shape? (index : Nat) : Option Shape := tokens.pieces[index]?.map Piece.shape

def at? (offset : Nat) : Option Nat :=
  tokens.pieces.findIdx? fun piece => piece.span.start == offset

/-- The number of the first token from `index` on that passes a test. -/
def from? (index : Nat) (test : Shape → Bool) : Option Nat :=
  ((tokens.pieces.drop index).findIdx? fun piece => test piece.shape).map (· + index)

def closer? (index : Nat) : Option Nat := closerOf? tokens.pairs index

def past (index offset : Nat) : Nat :=
  index + ((tokens.pieces.drop index).takeWhile fun piece => piece.span.start < offset).length

/-- The nearest token before an offset and not before number `floor` that passes a test. -/
def before? (floor offset : Nat) (test : Shape → Bool) : Option Span :=
  let earlier := (tokens.pieces.takeWhile fun piece => piece.span.start < offset).drop floor
  (earlier.reverse.find? fun piece => test piece.shape).map Piece.span

def parensAfter? (index : Nat) : Option (Nat × Nat) :=
  match tokens.shape? (index + 1) with
  | some (.mark .openParen) => (tokens.closer? (index + 1)).map (index + 1, ·)
  | _ => none

end Tokens

class NodeStore (m : Type → Type) (ν : outParam Type) where
  put : Kind → Option Span → List ν → m ν
  spans : m (ν → Option Span)

instance : NodeStore Id Node where
  put kind span children := pure (.mk kind span children)
  spans := pure Node.span

instance : NodeStore (StateM Arena) Nat where
  put kind span children := modifyGet fun arena => arena.put kind span children
  spans := do return (← get).span?

inductive Act where
  /-- The cursor is put to a token. -/
  | move (place : Nat)
  /-- A token that was sought is taken, and the cursor put behind it. -/
  | take (index : Nat)
  /-- A token, or the bracket that closes it, is looked up by its number. -/
  | look (index : Nat)

/-- The number of the token that the cursor rests on, and what was done on the way there, the latest first. -/
structure Cursor where
  place : Nat
  course : List Act

namespace Cursor

instance : Coe Cursor Nat := ⟨place⟩

def start : Cursor := ⟨0, []⟩

def move (cursor : Cursor) (place : Nat) : Cursor := ⟨place, .move place :: cursor.course⟩

def take (cursor : Cursor) (index : Nat) : Cursor := ⟨index + 1, .take index :: cursor.course⟩

def look (cursor : Cursor) (index : Option Nat) : Cursor := ⟨cursor.place, index.toList.map .look ++ cursor.course⟩

end Cursor

/-- Builds nodes from the tokens of a statement and puts them into a store. Cursor and store stay as they are when
building fails. -/
abbrev BuildT (m : Type → Type) := ReaderT Tokens (ExceptT Unsupported (StateT Cursor m))

abbrev Build := BuildT Id

namespace Build

def search {m : Type → Type} [Monad m] {α : Type} (step : Build α) : BuildT m α :=
  fun tokens cursor => pure ((step.run tokens).run.run cursor)

instance {m : Type → Type} [Monad m] : MonadLift Build (BuildT m) := ⟨search⟩

def unsupported {α : Type} (what : String) : Build α := do
  throw ⟨what, (← read).span? (← get).place⟩

def moveTo (index : Nat) : Build Unit := modify fun cursor => cursor.move (max cursor.place index)

/-- Puts the cursor to a token, wherever it rests. -/
def jumpTo (index : Nat) : Build Unit := modify (·.move index)

def kept (place : Option Nat) : Build (Option Span) := do
  let tokens ← read
  match place.bind tokens.at? with
  | some index =>
    moveTo (index + 1)
    return tokens.span? index
  | none => return none

def passOver (offset : Nat) : Build Unit := do
  let tokens ← read
  modify fun cursor => cursor.move (tokens.past cursor.place offset)

def take (test : Shape → Bool) : Build (Option Nat) := do
  match (← read).from? (← get).place test with
  | some index =>
    modify (·.take index)
    return some index
  | none => return none

def spanOf (index : Option Nat) : Build (Option Span) := do
  modify (·.look index)
  let tokens ← read
  return index.bind tokens.span?

def takeSpan (test : Shape → Bool) : Build (Option Span) := do
  spanOf (← take test)

def takeWord (keyword : String) : Build (Option Span) := takeSpan (·.isKeyword keyword)

def takeOpenParen : Build (Option Nat) := do
  let index := (← get).place
  match (← read).shape? index with
  | some (.mark .openParen) =>
    modify (·.take index)
    return some index
  | _ => return none

def closerOf (index : Option Nat) : Build (Option Nat) := do
  modify (·.look index)
  let tokens ← read
  return index.bind tokens.closer?

def close (index : Option Nat) : Build (Option Span) := do
  match index with
  | some index =>
    moveTo (index + 1)
    spanOf (some index)
  | none => return none

def enclosing (span : Option Span) : Build (Option Span) := do
  let tokens ← read
  match span.bind fun span => tokens.at? span.start with
  | some (first + 1) =>
    match tokens.shape? first, tokens.closer? first with
    | some (.mark .openParen), some last =>
      moveTo (last + 1)
      return Span.coverAll ((tokens.span? first).toList ++ (tokens.span? last).toList)
    | _, _ => return none
  | _ => return none

/-! ### Names -/

/-- The bytes of a name within its token: what stands between quotes, or as many bytes as the name has, since a name
with dashes spans several tokens. -/
def nameSpan (piece : Piece) (value : String) : Span :=
  match piece.shape with
  | .word _ (some _) =>
    if h : 2 ≤ piece.span.width then
      ⟨piece.span.start + 1, piece.span.stop - 1, by
        have : 2 ≤ piece.span.stop - piece.span.start := h
        omega⟩
    else ⟨piece.span.start, piece.span.start + Text.size value, Nat.le_add_right _ _⟩
  | _ => ⟨piece.span.start, piece.span.start + Text.size value, Nat.le_add_right _ _⟩

/-- The bytes of a name. A name without a place is searched for from the cursor on. The cursor moves past it. -/
def identSpan (ident : Ident) : Build (Option Span) := do
  let tokens ← read
  let found ←
    match (ident.place.bind tokens.at?).bind (tokens.pieces[·]?) with
    | some piece => pure (some (nameSpan piece ident.value))
    | none =>
      let isName : Shape → Bool
        | .word value _ => value == ident.value
        | _ => false
      spanOf (tokens.from? (← get).place isName)
  match found with
  | some span =>
    passOver span.stop
    return some span
  | none => return none

/-- The names that share one token, cut one after another from what stands between its quotes. -/
def sharedParts (outer : Span) (offset : Nat) : List Ident → List (String × Span)
  | [] => []
  | part :: rest =>
    let stop := max (min (offset + Text.size part.value) (outer.stop - 1)) offset
    (part.value, Span.upTo offset stop) :: sharedParts outer (stop + 1) rest

def groupShared : List Ident → List (List Ident)
  | [] => []
  | ident :: rest =>
    match groupShared rest with
    | (next :: more) :: groups =>
      if ident.place.isSome && ident.place == next.place then (ident :: next :: more) :: groups
      else [ident] :: (next :: more) :: groups
    | groups => [ident] :: groups

/-! ### Nodes -/

variable {m : Type → Type} {ν : Type} [Monad m] [NodeStore m ν]

def node (kind : Kind) (span : Option Span) (children : List ν) : BuildT m ν :=
  liftM (NodeStore.put kind span children : m ν)

def leaf (kind : Kind) (span : Option Span) : BuildT m ν := node kind span []

def covering (kind : Kind) (children : List ν) (spans : List (Option Span)) : BuildT m ν := do
  let own ← (NodeStore.spans : m (ν → Option Span))
  node kind (Span.coverAll ((children.map own ++ spans).filterMap id)) children

def spanOfNode (made : ν) : BuildT m (Option Span) := do
  let own ← (NodeStore.spans : m (ν → Option Span))
  return own made

def identifier (ident : Ident) : BuildT m ν := do
  leaf (.identifier ident.value) (← identSpan ident)

def sharedNodes (parts : List Ident) : BuildT m (List ν) := do
  let tokens ← read
  match parts with
  | first :: _ :: _ =>
    match (first.place.bind tokens.at?).bind tokens.span? with
    | some outer =>
      let nodes ← (sharedParts outer (outer.start + 1) parts).mapM fun (name, span) =>
        leaf (.identifier name) (some span)
      passOver outer.stop
      return nodes
    | none => parts.mapM identifier
  | _ => parts.mapM identifier

/-- A path of names; several names inside one pair of quotes are one token. -/
def path (idents : List Ident) : BuildT m ν := do
  let groups ← (groupShared idents).mapM sharedNodes
  covering .path groups.flatten []

def aliasName (name : Ident) : BuildT m ν := do
  leaf (.aliasName name.value) (← identSpan name)

end Build

end SqlLens.Surface
