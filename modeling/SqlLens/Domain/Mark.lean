import SqlLens.Domain.Direction

/-!
Marks: characters that are written with the character before them.
-/

namespace SqlLens.Domain

def spacingMarks : List (Nat × Nat) := Text.Table.ranges
  ["dkTAcEADRbZBcHOLAbSAcHCcPAcHOcCBcHZdZOLAbQCcKDcKBcHYbDQcHOLAbRBcYQTBmTBcMAgQRbABLCDGWJDALCclTAbFAfASnJViRBcHbDfQ",
    "AbXPcKAbFJcJMbXRgQAWAhhFBbtlCEdLBbZPfNBbWAbXMeHFZAbUCeGEGAjEHCAblxKCeYAbUIeMAZBcIAbXNOAdQJgPCbGBcHPKALBdHXdYQeDR",
    "jEPeKOeGKeCGkCMjONDACAfNOFAbJBbXAbEBcLAhUGhSQeCLiGMnNBNAbXNyyZCfjHcCeBBbkxOBHF"]

def isMark (c : Char) : Bool := direction c = .mark || Text.inRanges spacingMarks c.toNat

end SqlLens.Domain
