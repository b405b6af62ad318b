import SqlLens.Text.Table

/-!
The order of marks.

Marks on one letter may be written in several orders that mean the same. Each mark has a class, and marks are brought
into the order of their classes; characters of class 0 stay where they are.
-/

namespace SqlLens.Domain

def combiningClasses : List (Nat × Nat × Nat) := Text.Table.classes id
  ["bdOUiWBAiYBDiMBAiYBAiIBEiMBBhUBDiMBBhUBKiMBEBBDiMBJiWBCiMBCiWBBiMCCiWBDiMBAiWBAiYBBiMBAiWBAiZBBjABAiZBBjABAiZBMi",
    "WkQEiWkGAiMBDiWBAiMBCiWBAiOBAiMBFiWBFiMBBiWBAiMBBiWBAiOBAiUBAiWBAKBALBAMBANBAOBAPBAQBARBASBBTBAUBAVBAWCAXCAYBAZC",
    "AiWBAiMCAScVHiWBAbEBAbFBAbGbXAbBBAbCBAbDBAbEBAbFBAbGBAbHBAbIBBiWBBiMBEiWBAiMBBiWBAiMRAbJdYGiWDDiWBAiMBAiWDBiWCAi",
    "MBBiWBAiMbKAbKbFAiWBAiMBBiWBAiMBBiWBCiMBAiWBBiMBAiWBAiMBCiWBAiMBAiWBAiMBAiWBAiMBAiWBAiMBBiWgFGiWBAiMBAiWKAiMZDiW",
    "CIiWCCiWCEiWbSCiMcIBiWBCiMBDiWbREiWBEiMBNiWCAiMBBiWBAiMBBiWBAiMBCiWBCiMBAbBBAbCBAbDBCiWBAiMBBiWBBiMBEiWcJAHRAJEA",
    "iWBAiMBBiWeAAHRAJbXAiWcKAHRAJeHAHRAJeHAHRAJeYAJeHAHRAJIAdGBAdNdYAHRAJeGBJRAJeVAJeGBdZBAJODeDeFBeOBAJODeScZBiMbCA",
    "iMCAiMCAiIcEAeZBAfACAfCGDfADAfACBiWBAJCBiWcLAiMeJAHCBJdFAiMbbSCiWbkNBJbFAJgCAJLAiWhWAiUfOAiOBAiWBAiMiMAiWBAiMcUA",
    "JVHiWDAiMbXEiWBFiMBBiWBAiMCBiMBBiWBBiMBEiWBAiMBRiWBAiMDFiWBAiMBDiWBAjAcVAHQAJbNAiWBAiMBGiWcDBJcHAHMBJcQAHfXCiWCA",
    "BBEiMBBiWBDiMBAiWCGBFAiMHAiWEBiWhRBiWBAiMBGiWBAiMBBiWBAjABAiGBAiMBAhUBbKiWBAiYBBiUBAiMBAiKBAiWBAiZBAiMBAiWBAiMbb",
    "TBiWBBBBDiWBCBBBiWFAiWEBBBAiWBAiMBAiWBBBBDiMBAiWeoDCiWfMAJdTbFiWvJAiKBAiUBAiYBAiOBBiQeCBIbsqFAiWFJiWbHBiWdDBiWkR",
    "AJbMAJfWAJbCRiWcGCiMbMAJdSAHNAJjGAiWCBiWBAiMDBiWGBiWCAiWcBAJjNAJbdzTAbAbdQGiWBGiMBBiWblMAiMiTAiMfUEiWcmTAiMCAiWb",
    "PAiWBABBAiMFAJgKAiWBAiMwCDiWcOEiWmGBiWdABiMCCiMcTBiMBCiWBAiMBAiWBDiMbYAiWBAiMBAiWBAiMhLAJbQAJPAJcGAJBAHcSCiWbXBJ",
    "cLAHcZAJKAHeDAJBAHgXAHBAJdDBHRAJZOiWdMCJRBiWdSAJEAHYAiWdWAJBAHjSAJBAHeXAJePAJBAHeMAJkKAJBAHjZBJFAHgBAJdGAJTAJdEA",
    "JqGAJjZAHCBJdEAJqKBJyzDAJdsBEBcIGiWbuOBGbdaZABhwPBiIBCBEAiSBEiIJHiMDEiWBBiMbFDiWfTCiWffGfNiWgFGiWoMAiWcKDiWtPBiY",
    "BAiMBAiWjVAiWBAiMjKAiWDAiWIBiWGAiWsHGiMeGFiWBAH"]

def combiningClass (c : Char) : Nat := (Text.Table.classOf? combiningClasses c.toNat).getD 0

def virama : Nat := 9

end SqlLens.Domain
