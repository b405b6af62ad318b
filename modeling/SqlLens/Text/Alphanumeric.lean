import SqlLens.Text.Table

/-!
Letters and digits of all scripts.

A character is alphabetic when it is used to write words, which includes the vowel signs of some scripts, and numeric
when it is a digit, a letter used as a number, or another character for a number such as a fraction.
-/

namespace SqlLens.Text

def alphabetic : List (Nat × Nat) := Table.ranges
  ["cNZHZbWALAFAGWCbECrPFLPEIACAdJAbRECBDDCAHACCCACTCdECfIJgJCbLDAHbObONCACBCBCAJbAFDbEKGcDCGPdXCHFHFCLCDARbVOdWZbGK",
    "BFAGXDSUYIKGXCGRbPLLEGHcXCPCCFOOSCHDBDVCGCAEDEHDBDBCAJAFBCENBLAFCCFFBDVCGCBCBCBFEFBDBFAIDCASFMCCICCCVCGCBCEEICCC",
    "BEAQDWDFCCHDBDVCGCBCEEHDBDBKBFBCEOARBCFECCDEBCACBEBECELFEECCCEAHAbPMCCCWCPEHCCCCJBCCCBDDbDDCHCCCWCJCEEHCCCCJBGCC",
    "DOCNMCCCbODHCCCCCAGDIEXFCCCREXCICADGJFCACHTBOcFGGHAcABCACECXCACSCCDECAHAPDbHAcMHCbJFSFPCbJcQcCCADERcLLDDbLCAGADb",
    "QCmUCDDGCACDDbOCDDbGCDDGCACDDOCcECDDcObMPRdHDFExVDQCZGcWEKITMUNTNMCCCBNbZDSPAFAcQdKIbQGcRLbECLFIYbDDEMbRFZcDbBFc",
    "KDTbZAYBMCbYbZCOCHcAbPDDLbRCKPcCXCLbJDKGbQDCbQDCFCBEAGhJbONMkRDFDbLDFDHCACACACbEDcACGCAECCGEDDFFMGCCGeNAOARMdYAF",
    "ADJCAEEHACACACDCKDDGEFASbObfIbZcrViUHDEBNbLCAGADcDIARWKGCGCGCGCGCGCGCGCbFbWAsCCbAIIEDEFdHHCCdLCDGbQCdPSbFbXPtTjt",
    "NcNbguEcQbTDkIEPLBVbUGHEeIbOIDdYDdDVUCbGZbZNcPCAbTFEACCLbGGbIObCEbYCLQARPLECcCKNTWEcQCACAZCDPDDMFDFDFKGCGCbQCNHe",
    "SWqnRNWFbWmnDoBDeBbNGNEGLCMCECACBCBCeDbInYTcLDcBbPLeNECfEbLZHZMdKEFDFDFDCbKLCZCSCBCODNbJeScScAkIbCEbWbWbFObDGbQG",
    "bDDbJFHCEbRgBTbJFbJFbNJbZNKCOCGCBCKCOCGCBEbZNlYKVLHZFCbPCIcSFDACbRCBEADWLWKbEcOSCBLVLZHZbNcDHBcNDCBGHCCCbCbRbCEb",
    "CbKHCbBbCcBLVLSOReHcUcEbYObYObNbJbBKWjRbPCBEBRFcFbCLAJVbRRbVUbCWKcRbSELcEKAOYYbYSDJbIEAKcLCDKBLACAbKRCbHDAHDcLGC",
    "ACDCOCJIcEYDCHDBDVCGCBCEEHDBDBEAHAGGbDJCADACbLCACBQACBEACAbTcNCCCDVCbFcNDBCAhDcBDGbAFbJcKCAEAcIcBDAcUbADNWGhEcEe",
    "AcLbGHDADHCBCbDCBDBDDdQHDbTDFCACBbCbYDJScTGATcUeBAEACAdLbGbGICbSCGCAbYbDDVCNcWGCBCbREACBCCCADBZFCBCbKCBCDCAYbRkB",
    "WKQCbOECeIAdCbjLdZeGShNdxLdSQbpFSFbAfxQGwKkdEbDNCcpGvWIbESdASbDTbVRDbGUGSqRbSiEcLbHYDYbTcWFcEIQcNBCANGKkxXbQbFdU",
    "eKmwSDCGCBClEQAbECDAPDJpFdkVeCGMEIIJFAgdSZcrPdGCcSCBDADBDDCLCACGCcMCDDHCGCbBCDCECAEGCnBDYCYCbECYCbECYCbECYCbECYC",
    "HcsZbEHFiGGCQDGCBCEGcJbIAeJbSLGRAmKbDTbRsRbBiVbDDAiAbECCCBCGDEKBiRGCDCBCOChOcIcPEAEAbuJDCbACBCADACJCDCACAHAFACAC",
    "ACCCBCADACACACACACBCADDCGCDCDCACJCQGCCECQyFZHZHZfmLclfBbHgmNDioBDlbKQxXdqXuVcfZhhYGmoN"]

def numeric : List (Nat × Nat) := Table.ranges
  ["bWJeRBGADCcdMJfFJhRJpXJePJFFeFJePJePJDFeHMeMJJGeAJeBGISeGJdTJePJcTTkJJcTJbbSTbhYCjGJHJXJlPJeZKgKJHJhBJdJJfFJHJbo",
    "HAEFHJhRbYDEbbZcHdBVyHbDcbIAbdYAbAIPCnGDfJJbFHCObHJbOObrsBJhHJmJFfZJbNJhRJXJdJJpRJbfmDJtAbSNcESBnEbAbLDbEAJAfFEh",
    "VJbkHHbAGbOIcYEXFgFBDPDbTcNIcBBbFCcYEeBHZHbQGmTFbXJHJkTbEgDJbRDeJGfFbDeZJcJJfPJITjSJnFJePJoLJdZJHTcZLqFSdQJzNJdJ",
    "bCiUJcTJcDJnVJdZUbpCeGxaGJdmDJdJJfFJCGuHJkDWnMCbjfMJceXTNTeFYbqSbXdnDJqHJtJJjOJbbPIeZJbeMcGCCCDcZbSCOblBMedGJ"]

def isAlphabetic (c : Char) : Bool := inRanges alphabetic c.toNat

def isNumeric (c : Char) : Bool := inRanges numeric c.toNat

def isAlphanumeric (c : Char) : Bool := isAlphabetic c || isNumeric c

end SqlLens.Text
