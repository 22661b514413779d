import ApiContract.Unicode.Assigned
import ApiContract.Unicode.CaseRun
import ApiContract.Unicode.Normal
import ApiContract.Url.Name.Table

/-!
# Url/Name/Mapping — what a name stands for

Names that differ in letter case, in width or in the way they are composed are one name: the one in
lower case and in the composed normal form.
-/

namespace ApiContract.Url

open Unicode

/-- The runs of characters that are mapped to as many in a row. -/
def mappedRuns : List CaseRun :=
  (tableWords mappedRunTable).filterMap fun word => match readCodes word.length word with
    | [first, last, step, image] => some { first, last, step, shift := image - first }
    | _ => none

/-- The other characters that are mapped, each with its image. -/
def mappedAlone : List (Nat × List Nat) :=
  (tableWords mappedTable).filterMap fun word => match readCodes word.length word with
    | n :: image => some (n, image)
    | [] => none

/-- The ranges of the characters that do not count. -/
def ignoredRanges : CodeRanges := readRanges ignoredTable

/-- The ranges of the characters that names cannot hold. -/
def refusedRanges : CodeRanges := readRanges refusedTable

/-- What a character stands for in a name, unless names cannot hold it. -/
def nameImage? (n : Nat) : Option (List Nat) :=
  match mappedRuns.find? (·.covers n) with
  | some r => some [r.image n]
  | none => match mappedAlone.lookup n with
    | some image => some image
    | none =>
      if ignoredRanges.contains n then some []
      else if isAssigned n && !refusedRanges.contains n then some [n]
      else none

/-- **The name that a text stands for**, by code points, unless names cannot hold one of its
characters. -/
def nameOf? (codes : List Nat) : Option (List Nat) :=
  (codes.mapM nameImage?).map fun images => normalize images.flatten

end ApiContract.Url
