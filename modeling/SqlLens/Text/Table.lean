import SqlLens.Text.Basic

/-!
Tables of characters that are written as text.

Ranges stand in order, as numbers: the distance of the first code from the last code of the range before, how many codes
follow the first, and a number for the class where there are classes. The letters of such a table are digits to base 26,
and the last digit of each number is a capital letter.

In tables that hold texts too, the entries stand on lines with blanks between them and numbers are hexadecimal; a hyphen
stands between the two numbers of a range.
-/

namespace SqlLens.Text

/-- Whether a number lies in one of some ordered ranges, whose ends belong to them. -/
def inRanges : List (Nat × Nat) → Nat → Bool
  | [], _ => false
  | (first, last) :: rest, n => if n < first then false else if n ≤ last then true else inRanges rest n

namespace Table

def numbersFrom (high : Nat) : List Char → List Nat
  | [] => []
  | c :: rest =>
    if c.isUpper then (26 * high + (c.toNat - 'A'.toNat)) :: numbersFrom 0 rest
    else numbersFrom (26 * high + (c.toNat - 'a'.toNat)) rest

def numbers (lines : List String) : List Nat := numbersFrom 0 (lines.flatMap String.toList)

def rangesFrom (before : Nat) : List Nat → List (Nat × Nat)
  | distance :: more :: rest =>
    (before + distance, before + distance + more) :: rangesFrom (before + distance + more) rest
  | _ => []

def ranges (lines : List String) : List (Nat × Nat) := rangesFrom 0 (numbers lines)

def classesFrom (classOf : Nat → α) (before : Nat) : List Nat → List (Nat × Nat × α)
  | distance :: more :: number :: rest =>
    (before + distance, before + distance + more, classOf number) ::
      classesFrom classOf (before + distance + more) rest
  | _ => []

def classes (classOf : Nat → α) (lines : List String) : List (Nat × Nat × α) := classesFrom classOf 0 (numbers lines)

def classOf? : List (Nat × Nat × α) → Nat → Option α
  | [], _ => none
  | (first, last, value) :: rest, n =>
    if n < first then none else if n ≤ last then some value else classOf? rest n

/-! ### Entries -/

def entries (lines : List String) : List (List Char) := lines.flatMap fun line => splitOn ' ' line.toList

def code (digits : List Char) : Nat := ofDigits 16 (digits.filterMap digitValue)

def codes (text : List Char) : List Nat := if text.isEmpty then [] else (splitOn '.' text).map code

/-- What the entries stand for, where each is read from the code that the entry before led to. -/
def along (read : Nat → List Char → α × Nat) : Nat → List (List Char) → List α
  | _, [] => []
  | before, entry :: rest =>
    let (value, last) := read before entry
    value :: along read last rest

def range (before : Nat) (text : List Char) : Nat × Nat :=
  match splitOn '-' text with
  | [first, more] => (before + code first, before + code first + code more)
  | _ => (before + code text, before + code text)

end Table

/-- Codes that no visible character has: unassigned and private ones, controls and surrogates. -/
def unassigned : List (Nat × Nat) := Table.ranges
  ["eYbFbcBBHDIACAVApIAbNBbZBEAcEHbCDHQXAhLAbXBcIBdYNcIBbYBQAbDBCAMEbHGcYAgGAJBDBXAIACCFBKBDBFHCDDAGBbABEAHDDBXAIADA",
    "DADBCAGDDBECCGFACGSJEAKAEAXAIADAGBLAEAEBCOFBNGIAEAJBDBXAIADAGBKBDBEGEDDAGBTJDAHCEAFCDACADCDCECNDGCEAFBCFCNWEOAEA",
    "YARBKAEAFGDAEADBFBLGXAEAYALAGBKAEAFGDEEAFBLAELOAEAcAAEAHDRBbBAEATCZAKACBICCDHACAJFLBELcHDbEbKDACAGAZACAYBGACAIAL",
    "BFbFcVAbLDbOAbLAQAObKhRACECBoOAFBIACAFBbQAFBbIAFBIACAFBQAcGAFBcQBbHCbBFdJBHByRAbDCdMGXIZIVLOAEADLdRBLFLFbBFdMGbS",
    "EcTJbGANDNDCCbRBGKbTDbBFMCcLBcOAbEBMFLFPBbVBNTdAAgLHcJCQCcLEbSBMHbSEuPBHBbNBHBJACACACAbGBcCAQAPBHAUBEAKAPBZGcDEJ",
    "BbCAOCbJNbIOfLDzRVMUcrTBoTEbUACECBcFGDNZIIAIAIAIAIAIAIAIAeXbHbBAdMLiHZdDAdJBeAEbSAdRAdJIbXAbriSCcEInLThDHiOTcJCL",
    "FcFHcTHNFeNKbFCdBAMDbIAcEIPBLBeAXbDJHBHBHIIAIAcJDeXBLFqnTLYDbYDdaVjmDoDBeDbLILGEbBAGACADADAzBbFbRFcAAUAFDGAfGBCA",
    "hJCHBHBHBECIAIMDBNAbBAUADAQBPbHeUEEDbUCdLAOCCbUbVeZbECbYObDDbLIbFEbSEbFAbMDPbPgDBLFbLDbLDbPHcBKNAQAIADAMAQAIADCc",
    "BLmAIXJJXHAbRAKcQHBCAbTADCCBYAcVHKbVUADEbICbCEbCbLcFDVBbZADEJAEAbEBEDLGKGcNbFbODNIcDCbEBbCEbBGFLIdBcWcCcAMcAGbVH",
    "LFbNCbEHDhZbGAbRAEBDPHHKbGbVHbRVbBbLbDTYIdBDbLIcLAGMbAGLFcCATHbOIdTAVKTAbWcJIACAFAQAMFcIELFFAJBDBXAIADAGALBDBEBC",
    "FCEIBICGKLACBCAbNALACBCAFALADHDbCdPAGbDcVHLgJcDBbNbHcSKLFOScHFLFVbBbCBQDYhCcJdVdGLJBCBJADAbFADBNILcRJBbVBMbAcVHd",
    "GMcWGLdHJdJbJNLFKAbUAPJbECbHBXAPcUIADAbTCCADAKHLFHADAbMADAHGLFbTDLjLbAGSAbQCbEdGCObZMbjOdXeIAGKhPdxJdWMbpHPXJfxS",
    "EwMkdCcHcoRvYGbGALDdEALFbFBHJcTJLAIAWEUqPcHhPdOEbABbAbRcYDcGGScLGKIIkxZbObHdSeMmwQFAIADAlGOCbCEBCNFHpHdkTeEEOCKG",
    "LBJfvFjUCqVFYOSObVBYIeNcHjNJbOBhNUcTeRVLVLdKIbAfEdIAcUADBCBDBFANACAIAcOAFBJAIAbDAFAGACCIAnDBlHBbbBOGAQbqLbGFHiEI",
    "ASBIADAGEcLbGCeHbUCPBLDDmHbGQcHECrVbRiFbSDChJbGAXHDiPIAFADAQAhQBRbOcZDLDDbeEcRcXcKhLFAbCADACBCALAFACACFCDCACACAE",
    "ADACBCACACACACADACBFAIAFAFACALASEEAGASbZDkJbTDdXLQBQAQAbMJgTcDbEMbTDKGDNHfXblYCSCOCiLFNDCONDcFHLFbPHbFBNDDNKbMnH",
    "HPBOCMCcGACDRBNDLGfSAeAbnOclfDbFgmPBioDBlbMOxZdqVuXcfXhiAEmoPbogxXjHlecT"]

end SqlLens.Text
