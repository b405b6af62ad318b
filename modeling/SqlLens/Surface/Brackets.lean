import SqlLens.Token.Shape

/-!
Which closing bracket belongs to which opening one.

Parentheses and square brackets are matched by one stack, whichever of the two kinds they are. A closing bracket with
nothing open is passed over, and an opening one that is never closed has no partner.
-/

namespace SqlLens.Surface

def opens : Shape → Bool
  | .mark .openParen | .mark .openBracket => true
  | _ => false

def closes : Shape → Bool
  | .mark .closeParen | .mark .closeBracket => true
  | _ => false

/-- Pairs the brackets of the tokens from number `index` on; `stack` holds the numbers of those still open. -/
def pairsFrom (index : Nat) (stack : List Nat) : List Shape → List (Nat × Nat)
  | [] => []
  | shape :: rest =>
    if opens shape then pairsFrom (index + 1) (index :: stack) rest
    else if closes shape then
      match stack with
      | start :: below => (start, index) :: pairsFrom (index + 1) below rest
      | [] => pairsFrom (index + 1) [] rest
    else pairsFrom (index + 1) stack rest

def bracketPairs (shapes : List Shape) : List (Nat × Nat) := pairsFrom 0 [] shapes

def closerOf? (pairs : List (Nat × Nat)) (index : Nat) : Option Nat := pairs.lookup index

end SqlLens.Surface
