import ApiContract.Unicode.Property

/-!
# Unicode/Letter — letters and digits

The letters and digits of Unicode 17: those of version 16 and the later ones.
-/

namespace ApiContract.Unicode

/-- The alphabetic characters that version 17 added. -/
def laterLetterTable : List String :=
  ["88f c5c cdc a7ce-a7cf a7d2 a7d4 a7f1 10940-10959 10ec5-10ec7 10efa-10efb 11b60-11b67 11db0-11ddb",
   "16ea0-16eb8 16ebb-16ed3 16ff2-16ff6 187f8-187ff 18d09-18d1e 18d80-18df2 1e6c0-1e6de 1e6e0-1e6f5",
   "1e6fe-1e6ff 2b73a-2b73f 2cea2-2cead 323b0-33479"]

/-- The numbers that version 17 added. -/
def laterDigitTable : List String :=
  ["11de0-11de9 16ff4-16ff6"]

/-- Whether a character is alphabetic. -/
def isAlphabetic (c : Char) : Bool :=
  alphabetic.contains c.toNat || (readRanges laterLetterTable).contains c.toNat

/-- Whether a character is alphabetic or a number. -/
def isAlphanumeric (c : Char) : Bool :=
  isAlphabetic c || (inCategories ["Nd", "Nl", "No"]).contains c.toNat
    || (readRanges laterDigitTable).contains c.toNat

end ApiContract.Unicode
