import ApiContract.Unicode.Category

/-!
# Unicode/Assigned — characters and marks

The characters and the marks of Unicode 17: those of version 16 and the later ones.
-/

namespace ApiContract.Unicode

/-- The characters that version 17 added. -/
def laterTable : List String :=
  ["88f c5c cdc 1acf-1add 1ae0-1aeb 20c1 2b96 a7ce-a7cf a7d2 a7d4 a7f1 fbc3-fbd2 fd90-fd91 fdc8-fdce",
   "10940-10959 10ec5-10ec7 10ed0-10ed8 10efa-10efb 11b60-11b67 11db0-11ddb 11de0-11de9 16ea0-16eb8",
   "16ebb-16ed3 16ff2-16ff6 187f8-187ff 18d09-18d1e 18d80-18df2 1ccfa-1ccfc 1ceba-1ced0 1cee0-1cef0",
   "1e6c0-1e6de 1e6e0-1e6f5 1e6fe-1e6ff 1f6d8 1f777-1f77a 1f8d0-1f8d8 1fa54-1fa57 1fa8a 1fa8e 1fac8",
   "1facd 1faea 1faef 1fbfa 2b73a-2b73f 2cea2-2cead 323b0-33479"]

/-- The marks that version 17 added. -/
def laterMarkTable : List String :=
  ["1acf-1add 1ae0-1aeb 10efa-10efb 11b60-11b67 1e6e3 1e6e6 1e6ee-1e6ef 1e6f5"]

/-- The ranges of the characters that version 17 added. -/
def laterRanges : CodeRanges := readRanges laterTable

/-- The ranges of the marks that version 17 added. -/
def laterMarkRanges : CodeRanges := readRanges laterMarkTable

/-- The code points that are no characters in version 16, or are left to private use. -/
def unassignedRanges : CodeRanges := inCategories ["Cn", "Cs", "Co"]

/-- The ranges of the marks of version 16. -/
def markRanges : CodeRanges := inCategories ["Mn", "Mc", "Me"]

/-- Whether a code point is a character that is not left to private use. -/
def isAssigned (n : Nat) : Bool := !unassignedRanges.contains n || laterRanges.contains n

/-- Whether a code point is a mark. -/
def isMark (n : Nat) : Bool := markRanges.contains n || laterMarkRanges.contains n

end ApiContract.Unicode
