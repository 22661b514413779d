import ApiContract.Pattern.Place

/-!
# Pattern/Wide/Basic — patterns of the wide grammar

The wide grammar adds look-around, references to what groups have matched, and parts that are never
tried in another way.  Classes are kept as text of the plain grammar.
-/

namespace ApiContract.Pattern

/-- A pattern of the wide grammar. -/
inductive Wide where
  | empty
  | char (c : Char) (anyCase : Bool)
  | any (newLines : Bool)
  | place (t : PlaceTest)
  /-- One character, of a class that the plain grammar writes so. -/
  | one (text : List Char) (anyCase : Bool)
  | sequence (ps : List Wide)
  | alternation (ps : List Wide)
  | group (p : Wide)
  | repeated (p : Wide) (least : Nat) (most : Option Nat) (greedy : Bool)
  /-- What must follow or must not follow. -/
  | ahead (negated : Bool) (p : Wide)
  /-- What must stand before or must not stand before. -/
  | behind (negated : Bool) (p : Wide)
  /-- What a group has matched, once more. -/
  | again (index : Nat)
  /-- Whether a group has begun to match. -/
  | reached (index : Nat)
  /-- A part that is not tried in another way once it has matched. -/
  | settled (p : Wide)
  /-- A choice by whether a condition matches. -/
  | conditional (condition yes no : Wide)
  /-- What has been matched up to here does not count for the whole match. -/
  | restart
  /-- The place where the search began. -/
  | origin

namespace Wide

/-- Whether the pattern is the empty one. -/
def isEmpty : Wide → Bool
  | empty => true
  | _ => false

/-- The characters of a pattern that is nothing but characters in their own case. -/
def text? : Wide → Option (List Char)
  | char c false => some [c]
  | sequence ps => texts? ps
  | _ => none
where
  /-- The characters of patterns in a row that are nothing but characters. -/
  texts? : List Wide → Option (List Char)
    | [] => some []
    | p :: ps => return (← text? p) ++ (← texts? ps)

mutual

/-- The number of groups in a pattern. -/
def groups : Wide → Nat
  | empty | char _ _ | any _ | place _ | one _ _ | again _ | reached _ | restart | origin => 0
  | group p => p.groups + 1
  | repeated p _ _ _ | ahead _ p | behind _ p | settled p => p.groups
  | sequence ps | alternation ps => groupsOfAll ps
  | conditional c yes no => c.groups + yes.groups + no.groups

/-- The number of groups in some patterns. -/
def groupsOfAll : List Wide → Nat
  | [] => 0
  | p :: ps => p.groups + groupsOfAll ps

end

mutual

/-- Whether a pattern is regular. -/
def isRegular : Wide → Bool
  | empty | char _ _ | any _ | one _ _ => true
  | place t => match t with
    | .textStart | .textEnd | .lineStart | .lineEnd => true
    | _ => false
  | ahead _ _ | behind _ _ | again _ | reached _ | settled _ | conditional _ _ _
  | restart | origin => false
  | group p | repeated p _ _ _ => p.isRegular
  | sequence ps | alternation ps => areRegular ps

/-- Whether some patterns are all regular. -/
def areRegular : List Wide → Bool
  | [] => true
  | p :: ps => p.isRegular && areRegular ps

end

/-- How many characters a match has: the fewest that are possible, and whether it has always as
many. -/
structure Extent where
  least : Nat
  fixed : Bool

/-- The extent of one match after another. -/
def Extent.add (a b : Extent) : Extent := ⟨a.least + b.least, a.fixed && b.fixed⟩

/-- The extent of a match of one kind or another. -/
def Extent.or (a b : Extent) : Extent :=
  ⟨min a.least b.least, a.fixed && b.fixed && a.least == b.least⟩

mutual

/-- The extent of the matches of a pattern. -/
def extent : Wide → Extent
  | empty | place _ | ahead _ _ | behind _ _ | reached _ | restart | origin => ⟨0, true⟩
  | char _ _ | any _ | one _ _ => ⟨1, true⟩
  | again _ => ⟨0, false⟩
  | group p | settled p => p.extent
  | repeated p least most _ => ⟨p.extent.least * least, p.extent.fixed && most == some least⟩
  | sequence ps => extentOfAll ps
  | alternation ps => extentOfAny ps
  | conditional c yes no =>
    let (c, yes, no) := (c.extent, yes.extent, no.extent)
    ⟨c.least + min yes.least no.least,
      c.fixed && yes.fixed && no.fixed && c.least + yes.least == no.least⟩

/-- The extent of patterns in a row. -/
def extentOfAll : List Wide → Extent
  | [] => ⟨0, true⟩
  | p :: ps => p.extent.add (extentOfAll ps)

/-- The extent of alternatives. -/
def extentOfAny : List Wide → Extent
  | [] => ⟨0, true⟩
  | [p] => p.extent
  | p :: ps => p.extent.or (extentOfAny ps)

end

mutual

/-- Whether all references are to groups that have been opened before; `opened` counts them, with
the whole pattern for one. -/
def refersBack (opened : Nat) : Wide → Bool
  | empty | char _ _ | any _ | place _ | one _ _ | restart | origin => true
  | again n | reached n => n < opened
  | group p => p.refersBack (opened + 1)
  | repeated p _ _ _ | ahead _ p | behind _ p | settled p => p.refersBack opened
  | sequence ps | alternation ps => allReferBack opened ps
  | conditional c yes no =>
    let afterCondition := opened + c.groups
    c.refersBack opened && yes.refersBack afterCondition &&
      no.refersBack (afterCondition + yes.groups)

/-- Whether all references of patterns in a row are to groups that have been opened before. -/
def allReferBack (opened : Nat) : List Wide → Bool
  | [] => true
  | p :: ps => p.refersBack opened && allReferBack (opened + p.groups) ps

end

/-! ## The plain text of a regular pattern -/

/-- A character as it is written to stand for itself. -/
def quoted (c : Char) : List Char :=
  if "\\.+*?()|[]\x7b\x7d^$#".toList.contains c then ['\\', c] else [c]

/-- A text held together by a group that is not kept. -/
def held (flag : Bool) (text : List Char) : List Char :=
  if flag then "(?:".toList ++ text ++ [')'] else text

/-- A text in which letter case does not count, if so asked. -/
def inAnyCase (flag : Bool) (text : List Char) : List Char :=
  if flag then "(?i:".toList ++ text ++ [')'] else text

/-- A decimal numeral. -/
def numeral (n : Nat) : List Char := (toString n).toList

/-- The sign of a repetition. -/
def repetitionSign : Nat → Option Nat → List Char
  | 0, some 1 => ['?']
  | 0, none => ['*']
  | 1, none => ['+']
  | least, none => ['\x7b'] ++ numeral least ++ [',', '\x7d']
  | least, some most =>
    ['\x7b'] ++ numeral least ++ (if most = least then [] else ',' :: numeral most) ++ ['\x7d']

/-- Where a text stands: alone, in a row, as a part of a row, under a repetition. -/
inductive Standing where
  | alone | inRow | inSequence | underSign
  deriving DecidableEq

mutual

/-- The text of a regular pattern in the plain grammar, held together where its surroundings ask for
it. -/
def plainText (standing : Standing) : Wide → List Char
  | char c anyCase => inAnyCase anyCase (quoted c)
  | any newLines => if newLines then "(?s:.)".toList else ['.']
  | place .textStart => ['^']
  | place .textEnd => ['$']
  | place .lineStart => "(?m:^)".toList
  | place .lineEnd => "(?m:$)".toList
  | one text anyCase => inAnyCase anyCase text
  | sequence ps => held (standing == .inSequence || standing == .underSign) (plainSequence ps)
  | alternation ps => held (standing != .alone) (plainAlternation ps)
  | group p => '(' :: p.plainText .alone ++ [')']
  | repeated p least most greedy =>
    held (standing == .underSign)
      (p.plainText .underSign ++ repetitionSign least most ++ (if greedy then [] else ['?']))
  | _ => []

/-- The text of patterns in a row. -/
def plainSequence : List Wide → List Char
  | [] => []
  | p :: ps => p.plainText .inSequence ++ plainSequence ps

/-- The text of alternatives. -/
def plainAlternation : List Wide → List Char
  | [] => []
  | [p] => p.plainText .inRow
  | p :: ps => p.plainText .inRow ++ '|' :: plainAlternation ps

end

end Wide

end ApiContract.Pattern
