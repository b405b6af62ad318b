import SqlLens.Text.Table

/-!
The direction in which characters are written.

The ranges are right for characters that domain names may hold, and run on over others that lie between them.
-/

namespace SqlLens.Domain

inductive Direction where
  | left
  | right
  | arabic
  | europeanDigit
  | europeanSeparator
  | europeanTerminator
  | arabicDigit
  | commonSeparator
  | mark
  | boundary
  | neutral
  | space
deriving DecidableEq

def Direction.ofNumber : Nat → Direction
  | 0 => mark
  | 1 => neutral
  | 2 => right
  | 3 => arabic
  | 4 => europeanTerminator
  | 5 => commonSeparator
  | 6 => boundary
  | 7 => arabicDigit
  | 8 => europeanDigit
  | 9 => europeanSeparator
  | _ => space

def directions : List (Nat × Nat × Direction) := Text.Table.classes .ofNumber
  ["AIGBEKBNGBEKBBBBCEBEBBAJBAFBAJBBFBJIBAFBbLBbBDBBAGbIABBDEBIBCBEFbHBbGABrIBBINBDbBBCQBBeHAGABeZABfLGAjXEBBAECbSAB",
    "ACBAABACBBABACBBABACBAAJbKCSBBBADBBEBADBAFBADBBBBKABbVDBUABJHBAEBBHBCDBAABdWDBGACABBFABBDBBABABBDABBDBJIBWDBAABb",
    "DDBbAADdKDBKABADPbQCBIABBCBDBBACDAABXCBDABACBIABACBCABACBEADbOCBCADACCbVDIIABbPDBcEAcEAACAAFHAFAAEGALBAbEAAcHAAF",
    "DAJAAVBAPBEIAEDEAcGAAFQAbFBAEAAMBAcGAAFHAFAAVBAOAEJHAcHAADAACDAJJAMBAbFAAcKAANAAbMFBBAEBABGAAEAAcEAACCAGQAMBAVGB",
    "DAAcHAAQBAVBAbDBAcGBAFDAJAAVBAbEAAcVAAIEAdNAADGAFAEIHAdVAADIAMGAcWBAbCAACAACAABDBcANACEACBAGbVAKAAdZDACFACBADBAb",
    "ABAFCARDAOAADBAHAAQAAbbCCAbXJBdZABzRBBeOCAbEBAbFBAbFBAcQGAJAADKAIAECAATbABeTBAbJAAePCAFBAKAAHCAFFBfXbHBYBADAAcHA",
    "ACIACAADHAHMAbXdFAbXAACEACAAGAAbPIANBAbHDADBACCAcFAACBAEAACCAcHHADBAfXCACMACGAFAAHAAEBAhRcLAuFBGDXBJCEDOBBAFBZBc",
    "ObHEPbGAUbLBFAEMTBcJfFBBAJBAEBlDBcSZBCbeJBCnABjXbdNBiWFBFCAIGBeYAAdTbFABtWBEYBKDADABHABGCBdMBAGABdNABhPbLBkoHcLB",
    "bguJcCBmPCBdSDABABBJABBBbFBAdDBAPbHBdZABeSAAEAAFAAbABACDBBAAMBEcHDBcZBAbBRAOAAbNHAbAKAbVCAbXAADDADBAbOAAcQFADBAD",
    "BANAAJAAbWAAcAAACCADBAGBACAAbRBAJAAeMBBeSAADAAFAAbdzTAAfSQDBwABbHPAWBBbTADzEABcLcYBEQBdPAAiTAABbAIeTEAbsOkXCEABB",
    "iQCBOABbLCDHABgICBBAFcWCEGBBrFCBbJDBDAJJHHPCbAEABABBbGCiBbEHCbPCCBABECRFDJIBbIFABbNCJVDBKABIDXRCBDABeICLAAcDOAMT",
    "BLAADBALCAbYDADBAIAAcKCAbLEACHAcLAANBAcBIALDADAAdSCADAACBAHAADAAgCAAEHAWBAcGBAEAAbMOAcTFAOAACAACAAPBAdIHADCACAAY",
    "AAdHFACAAFBACBAjFDAHBACBAbCBAdIHADAACBAbGMBcLAACAADFACAAdYCADDACEAkAIACBAjXBACAAFAAfPHAFAAbHFADBAbPFADDAJAAKFADC",
    "AbVMACBAhRAACCACAAhUNAdHVADGACBACBAeTUACAAcVBAEAACAAnKBAMBAcBEAGAACAAYAAeTHBBDEBQBhrZAAHOAqyZLAECAdsBEAcIGAboJAA",
    "cMDAdCABCAAbdbLBAfvMbcYBQcSAuZCASHADGAbFDAcIdKBBCABABhFdIBcnQcCAFbXAJAAPAAXUAcaJbVAcLbHAgFGAoMAAcKDAQAEsZDAjVBAj",
    "KAADAAIBAGAAkHhZCBGAcYbHCBGABUCbeGhWDqTwDBcKCBcKABgXdqOB"]

def direction (c : Char) : Direction := (Text.Table.classOf? directions c.toNat).getD .left

end SqlLens.Domain
