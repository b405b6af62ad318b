import SqlLens.Domain.Direction
import SqlLens.Text.Table

/-!
Characters that have no shape of their own: controls, formats, unassigned and private characters, separators other than
the plain space, marks that combine with the character before, and characters that are ignored by default.
-/

namespace SqlLens.Text

/-- Those that are neither unassigned nor marks that take no space. -/
def otherShapeless : List (Nat × Nat) := Table.ranges
  ["AbFdSAbHANAdlHAZAnVAZAdZAZAiYBCAECCBKBeAAZAeQAQAbiMBceFAbFAeYBdIEbfAAGACAGBdYAcUBbnXNbIAbWFGFfxHAbUBlXAbtkXAeFAb",
    "fxOPjGAgDCgwMAeNAkFAPAKAdTAKADACCGAiRANAjIAbiNANAhUBvVAbdQAbeoLBbdbBDhwKAJMbtljIjF"]

def isShapeless (c : Char) : Bool :=
  !(0x20 ≤ c.toNat && c.toNat < 0x7F) &&
    (inRanges unassigned c.toNat || inRanges otherShapeless c.toNat || Domain.direction c = .mark)

end SqlLens.Text
