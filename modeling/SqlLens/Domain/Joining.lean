import SqlLens.Domain.Direction

/-!
How letters of cursive scripts join with their neighbours.
-/

namespace SqlLens.Domain

inductive Joining where
  | none
  | left
  | right
  | both
  /-- The characters around it join as if it were not there. -/
  | transparent
deriving DecidableEq

def Joining.ofNumber : Nat → Joining
  | 0 => both
  | 1 => right
  | 2 => left
  | 3 => transparent
  | _ => none

/-- Ranges of characters that join, and the few that are transparent though they take space, or the other way round. -/
def joinings : List (Nat × Nat × Joining) := Text.Table.classes .ofNumber
  ["ciIAACDBBAABABBAABABBEABDBBMACGABABBBAbKBACCBGOABRBBbLABABBBABIBBAABABBAABABBBABBBCABZBBLCADAARABCCABEBBDABABBIA",
    "BABBAABABBAABABBBABABbEABBKABCBBOABBBBDABABBAABBBBCABBBBFAcXbGAdIABBEABBBBAABABBJABABBAABCBIAACDACABBAABZBEAADEA",
    "BABBAARJABCBCABBBABBBBFABABBOAbnBADHADegVAAZdKAPbHACAAccjUbXABACblfYEABABCABCBBDACBEBBDABACBEABABBCABABDABHDABAB",
    "fPAABABBAABCBBCABABBBABABBAABBBBAABABYDBBBAnAACBbGABABBAApZABBBACBAeBCABABBQANCABABbCDABBBBLAbVAACBABCBCAABBBBBA",
    "BABBBACAABBBBAAFABBAABACcuDAEbcRBDvVADczpJbHAIAD"]

def joining (c : Char) : Joining :=
  (Text.Table.classOf? joinings c.toNat).getD (if direction c = .mark then .transparent else .none)

end SqlLens.Domain
