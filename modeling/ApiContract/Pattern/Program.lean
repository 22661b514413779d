import ApiContract.Pattern.Regular.Automaton
import ApiContract.Pattern.Wide.Basic

/-!
# Pattern/Program — wide patterns as steps that search for them

A program is a list of steps by address.  The parts of a pattern that are regular are steps of their
own, as large as they can be: a part from which the search may have to come back for another match
is written out.
-/

namespace ApiContract.Pattern

/-- A step of a program. -/
inductive Step where
  /-- The whole pattern has been matched. -/
  | done
  | any (newLines : Bool)
  | text (cs : List Char)
  | place (t : PlaceTest)
  /-- The match of a regular pattern; its groups are so many from the given one on. -/
  | regular (a : Automaton) (first count : Nat)
  | jump (address : Nat)
  /-- Go on at one address, and at the other one if that fails. -/
  | split (first second : Nat)
  /-- Keep the place. -/
  | save (slot : Nat)
  | restore (slot : Nat)
  /-- Begin to count. -/
  | clear (slot : Nat)
  /-- Begin one more round of a repetition, or leave it. -/
  | round (least : Nat) (most : Option Nat) (counter out : Nat) (greedy : Bool)
  /-- Begin one more round of a repetition that must move on, or leave it. -/
  | movingRound (least : Nat) (counter check out : Nat) (greedy : Bool)
  | back (count : Nat)
  | again (index : Nat)
  | reached (index : Nat)
  /-- Keep how many other ways there are. -/
  | mark
  /-- Give up the ways since the mark. -/
  | cut
  /-- Give up the ways since the split before what must not match, and fail. -/
  | forbid
  | origin

/-- Steps from an address on, and the first slot after those they use. -/
abbrev Coded := List Step × Nat

/-- The step that matches regular parts in a row. -/
def regularSteps (group : Nat) (ps : List Wide) : Option (List Step) :=
  if ps.isEmpty then some []
  else match Wide.text?.texts? ps with
    | some cs => some [.text cs]
    | none =>
      (Regular.ofText? (ps.flatMap (Wide.plainText .inRow))).map fun p =>
        [.regular p.automaton group (Wide.groupsOfAll ps)]

/-- A split of two addresses, the first of which is preferred if so asked. -/
def Step.splitBy (greedy : Bool) (a b : Nat) : Step := if greedy then .split a b else .split b a

/-- Steps for what must or must not match at a place, which is then left for where it was. -/
def lookSteps (negated : Bool) (base slot : Nat) (body : Nat → Nat → Option Coded) :
    Option Coded := do
  if negated then
    let (steps, slot) ← body (base + 1) slot
    return (.split (base + 1) (base + steps.length + 2) :: steps ++ [.forbid], slot)
  else
    let (steps, next) ← body (base + 1) (slot + 1)
    return (.save slot :: steps ++ [.restore slot], next)

/-- Steps for what stands before a place, if all of it is equally long. -/
def behindSteps (negated : Bool) (e : Wide.Extent) (base slot : Nat)
    (body : Nat → Nat → Option Coded) : Option Coded :=
  if e.fixed then
    lookSteps negated base slot fun base slot => (body (base + 1) slot).map fun c =>
      (.back e.least :: c.1, c.2)
  else none

/-- How many of some patterns at the front are regular and always equally long. -/
def fixedFront (ps : List Wide) : Nat :=
  (ps.takeWhile fun p => p.extent.fixed && p.isRegular).length

/-- How many of some patterns at the end are regular; with `hard` they must always be equally
long. -/
def regularEnd (hard : Bool) (ps : List Wide) : Nat :=
  (ps.reverse.takeWhile fun p => p.isRegular && (!hard || p.extent.fixed)).length

/-- The steps of a row: its regular front, what is in the middle and its regular end. -/
def rowSteps (hard : Bool) (group base slot : Nat) (ps : List Wide)
    (middle : Nat → Nat → Nat → Nat → Option Coded) : Option Coded := do
  let front := fixedFront ps
  let ending := regularEnd hard (ps.drop front)
  let inner := ps.length - front - ending
  let start ← regularSteps group (ps.take front)
  let (steps, slot) ← middle (base + start.length) slot front inner
  let rest ← regularSteps (group + Wide.groupsOfAll (ps.take (front + inner)))
    (ps.drop (front + inner))
  return (start ++ steps ++ rest, slot)

mutual

/-- The steps that match a pattern whose first group is `group`; `hard` is whether the search may
have to come back for another match. -/
def code (hard : Bool) (group base slot : Nat) (p : Wide) : Option Coded :=
  if !hard && p.isRegular then (regularSteps group [p]).map (·, slot)
  else match p with
    | .empty => some ([], slot)
    | .char _ _ | .one _ _ => (regularSteps group [p]).map (·, slot)
    | .any newLines => some ([.any newLines], slot)
    | .place t => some ([.place t], slot)
    | .again n => some ([.again n], slot)
    | .reached n => some ([.reached n], slot)
    | .restart => some ([.save 0], slot)
    | .origin => some ([.origin], slot)
    | .sequence ps => rowSteps hard group base slot ps fun base slot skip count =>
      codeRow group base slot skip count ps
    | .alternation ps => codeChoice hard group base slot ps
    | .group p => do
      let (steps, slot) ← code hard (group + 1) (base + 1) slot p
      return (.save (2 * group) :: steps ++ [.save (2 * group + 1)], slot)
    | .ahead negated p => lookSteps negated base slot fun base slot => code false group base slot p
    | .behind negated (.alternation ps) =>
      let e := (Wide.alternation ps).extent
      if e.fixed then
        behindSteps negated e base slot fun base slot =>
          code false group base slot (.alternation ps)
      else if negated then codeNoneBehind group base slot ps
      else codeAnyBehind group base slot ps
    | .behind negated p => behindSteps negated p.extent base slot fun base slot =>
      code false group base slot p
    | .settled p => do
      let (steps, slot) ← code false group (base + 1) slot p
      return (.mark :: steps ++ [.cut], slot)
    | .conditional c yes no => do
      let (condition, slot) ← code hard group (base + 2) slot c
      let yesBase := base + condition.length + 3
      let (yesSteps, slot) ← code hard (group + c.groups) yesBase slot yes
      let noBase := yesBase + yesSteps.length + 1
      let (noSteps, slot) ← code hard (group + c.groups + yes.groups) noBase slot no
      return ([.mark, .split (base + 2) noBase] ++ condition ++ .cut :: yesSteps ++
        .jump (noBase + noSteps.length) :: noSteps, slot)
    | .repeated p least most greedy => do
      if least = 0 && most = some 1 then
        let (steps, slot) ← code hard group (base + 1) slot p
        return (.splitBy greedy (base + 1) (base + steps.length + 1) :: steps, slot)
      let hard := hard || !p.isRegular
      if most = none && p.extent.least = 0 then
        let (steps, next) ← code hard group (base + 2) (slot + 2) p
        return ([.clear slot,
          .movingRound least slot (slot + 1) (base + steps.length + 3) greedy] ++
          steps ++ [.jump (base + 1)], next)
      else if most = none && least = 0 then
        let (steps, slot) ← code hard group (base + 1) slot p
        return (.splitBy greedy (base + 1) (base + steps.length + 2) :: steps ++ [.jump base], slot)
      else if most = none && least = 1 then
        let (steps, slot) ← code hard group base slot p
        return (steps ++ [.splitBy greedy base (base + steps.length + 1)], slot)
      else
        let (steps, next) ← code hard group (base + 2) (slot + 1) p
        return ([.clear slot, .round least most slot (base + steps.length + 3) greedy] ++
          steps ++ [.jump (base + 1)], next)

/-- The steps of so many patterns in a row after those that are skipped. -/
def codeRow (group base slot skip count : Nat) (ps : List Wide) : Option Coded :=
  match ps with
  | [] => some ([], slot)
  | p :: ps => match skip, count with
    | skip + 1, count => codeRow (group + p.groups) base slot skip count ps
    | 0, 0 => some ([], slot)
    | 0, count + 1 => do
      let (steps, slot) ← code true group base slot p
      let (rest, slot) ← codeRow (group + p.groups) (base + steps.length) slot 0 count ps
      return (steps ++ rest, slot)

/-- The steps of alternatives. -/
def codeChoice (hard : Bool) (group base slot : Nat) (ps : List Wide) : Option Coded :=
  match ps with
  | [] => some ([], slot)
  | [p] => code hard group base slot p
  | p :: ps => do
    let (steps, slot) ← code hard group (base + 1) slot p
    let next := base + steps.length + 2
    let (rest, slot) ← codeChoice hard (group + p.groups) next slot ps
    return (.split (base + 1) next :: steps ++ .jump (next + rest.length) :: rest, slot)

/-- The steps for alternatives of which one must stand before a place. -/
def codeAnyBehind (group base slot : Nat) (ps : List Wide) : Option Coded :=
  match ps with
  | [] => some ([], slot)
  | [p] => behindSteps false p.extent base slot fun base slot => code false group base slot p
  | p :: ps => do
    let (steps, slot) ←
      behindSteps false p.extent (base + 1) slot fun base slot => code false group base slot p
    let next := base + steps.length + 2
    let (rest, slot) ← codeAnyBehind (group + p.groups) next slot ps
    return (.split (base + 1) next :: steps ++ .jump (next + rest.length) :: rest, slot)

/-- The steps for alternatives of which none may stand before a place. -/
def codeNoneBehind (group base slot : Nat) (ps : List Wide) : Option Coded :=
  match ps with
  | [] => some ([], slot)
  | p :: ps => do
    let (steps, slot) ←
      behindSteps true p.extent base slot fun base slot => code false group base slot p
    let (rest, slot) ← codeNoneBehind (group + p.groups) (base + steps.length) slot ps
    return (steps ++ rest, slot)

end

/-- A program with the number of its slots: two for the whole match, two for each group, and its
own. -/
structure Program where
  steps : Array Step
  slots : Nat

/-- **The program that searches a text for a pattern**: it tries one place after the other. -/
def Program.ofWide? (p : Wide) : Option Program := do
  let (steps, slots) ← code true 1 4 (2 * (p.groups + 1)) p
  let search := [.split 3 1, .any true, .jump 0, .save 0] ++ steps ++ [.save 1, .done]
  return { steps := search.toArray, slots }

end ApiContract.Pattern
