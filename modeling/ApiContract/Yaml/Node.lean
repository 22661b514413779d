import ApiContract.Yaml.Token

/-!
# Yaml/Node — the nodes of a YAML document

`Node.ofTokens?` reads the one document of a token list.  A node that is left out is an empty plain
scalar.  The readers of lists go on only with fewer tokens than they had; every entry takes at least
one.
-/

namespace ApiContract.Yaml

/-- What may stand before the content of a node. -/
structure Properties where
  anchor : Option Nat := none
  tag : Option Tag := none

/-- Whether anything stands there. -/
def Properties.isSome (p : Properties) : Bool := p.anchor.isSome || p.tag.isSome

/-- A node: a link to an anchored one, or content with its properties. -/
inductive Node where
  | link (number : Nat)
  | scalar (p : Properties) (isPlain : Bool) (text : String)
  | sequence (p : Properties) (items : List Node)
  | mapping (p : Properties) (entries : List (Node × Node))

namespace Node

/-- The node that is left out. -/
def empty : Node := .scalar {} true ""

/-- The properties at the start of a token list, in either order, and the tokens after them. -/
def properties : List Token → Properties × List Token
  | .anchor n :: .tag t :: rest | .tag t :: .anchor n :: rest =>
    ({ anchor := some n, tag := some t }, rest)
  | .anchor n :: rest => ({ anchor := some n }, rest)
  | .tag t :: rest => ({ tag := some t }, rest)
  | rest => ({}, rest)

theorem properties_length_le (tokens : List Token) :
    (properties tokens).2.length ≤ tokens.length := by
  unfold properties
  split <;> simp only [List.length_cons] <;> omega

/-- The tokens after the comma that an entry but the first needs. -/
def afterComma (isFirst : Bool) : List Token → Option (List Token)
  | .flowEntry :: rest => if isFirst then some (.flowEntry :: rest) else some rest
  | rest => if isFirst then some rest else none

theorem afterComma_length_le {isFirst : Bool} {tokens rest : List Token}
    (h : afterComma isFirst tokens = some rest) : rest.length ≤ tokens.length := by
  unfold afterComma at h
  split at h <;> split at h <;> simp_all

/-- A node and the tokens after it. -/
abbrev Read (α : Type) := Option (α × List Token)

mutual

/-- The node at the start of a token list, in a block or within brackets; a block's entries may
stand without indentation as a key or value of a mapping. -/
def read (block inMapping : Bool) (tokens : List Token) : Read Node :=
  match tokens with
  | .link n :: rest => some (.link n, rest)
  | tokens =>
    match _h : properties tokens with
    | (p, .scalar isPlain text :: rest) => some (.scalar p isPlain text, rest)
    | (p, .sequenceStart :: rest) => (readItems true rest).map fun r => (.sequence p r.1, r.2)
    | (p, .mappingStart :: rest) => (readMembers true rest).map fun r => (.mapping p r.1, r.2)
    | (p, .blockEntry :: rest) =>
      if inMapping then (readHangingItems (.blockEntry :: rest)).map fun r => (.sequence p r.1, r.2)
      else if p.isSome then some (.scalar p true "", .blockEntry :: rest)
      else none
    | (p, .blockSequenceStart :: rest) =>
      if block then (readBlockItems rest).map fun r => (.sequence p r.1, r.2) else none
    | (p, .blockMappingStart :: rest) =>
      if block then (readBlockMembers rest).map fun r => (.mapping p r.1, r.2) else none
    | (p, rest) => if p.isSome then some (.scalar p true "", rest) else none
termination_by (tokens.length, 1)
decreasing_by all_goals
  have := properties_length_le tokens
  simp only [_h, List.length_cons] at this
  simp only [Prod.lex_def, List.length_cons]
  omega

/-- The node at the start of a token list, left out before the tokens that satisfy `stops`. -/
def readUnless (stops : Token → Bool) (block inMapping : Bool) (tokens : List Token) : Read Node :=
  if tokens.head?.any stops then some (empty, tokens) else read block inMapping tokens
termination_by (tokens.length, 2)

/-- The value of a member whose key has been read, left out where no value token is. -/
def readValue (stops : Token → Bool) (block : Bool) (tokens : List Token) : Read Node :=
  match tokens with
  | .value :: rest => readUnless stops block block rest
  | tokens => some (empty, tokens)
termination_by (tokens.length, 0)

/-- The entries of a sequence in a block of its own. -/
def readBlockItems (tokens : List Token) : Read (List Node) :=
  match tokens with
  | .blockEntry :: rest =>
    match readUnless (fun t => t = .blockEntry || t = .blockEnd) true false rest with
    | none => none
    | some (item, next) =>
      if next.length ≤ rest.length then
        (readBlockItems next).map fun r => (item :: r.1, r.2)
      else none
  | .blockEnd :: rest => some ([], rest)
  | _ => none
termination_by (tokens.length, 0)

/-- The entries of a sequence in the block of the mapping around it. -/
def readHangingItems (tokens : List Token) : Read (List Node) :=
  match tokens with
  | .blockEntry :: rest =>
    match readUnless (fun t => t = .blockEntry || t = .key || t = .value || t = .blockEnd)
        true false rest with
    | none => none
    | some (item, next) =>
      if next.length ≤ rest.length then
        (readHangingItems next).map fun r => (item :: r.1, r.2)
      else none
  | rest => some ([], rest)
termination_by (tokens.length, 0)

/-- The members of a mapping in a block of its own. -/
def readBlockMembers (tokens : List Token) : Read (List (Node × Node)) :=
  let stops (t : Token) : Bool := t = .key || t = .value || t = .blockEnd
  match tokens with
  | .key :: start =>
    match readUnless stops true true start with
    | none => none
    | some (key, rest) =>
      if rest.length ≤ start.length then
        match readValue stops true rest with
        | none => none
        | some (value, next) =>
          if next.length ≤ start.length then
            (readBlockMembers next).map fun r => ((key, value) :: r.1, r.2)
          else none
      else none
  | .blockEnd :: rest => some ([], rest)
  | _ => none
termination_by (tokens.length, 0)

/-- The entries of a sequence within brackets; a key makes an entry a mapping of one member.  A key
mark without a key takes the token after it along. -/
def readItems (isFirst : Bool) (tokens : List Token) : Read (List Node) :=
  let stops (t : Token) : Bool := t = .flowEntry || t = .sequenceEnd
  match tokens with
  | .sequenceEnd :: rest => some ([], rest)
  | tokens => match _h : afterComma isFirst tokens with
    | none => none
    | some (.sequenceEnd :: rest) => some ([], rest)
    | some (.key :: rest) =>
      let bare := rest.head?.any fun t => t = .value || stops t
      match if bare then some (empty, rest.drop 1) else read false false rest with
      | none => none
      | some (key, rest) =>
        if rest.length < tokens.length then
          match readValue stops false rest with
          | none => none
          | some (value, next) =>
            if next.length < tokens.length then
              (readItems false next).map fun r => (.mapping {} [(key, value)] :: r.1, r.2)
            else none
        else none
    | some rest => match read false false rest with
      | none => none
      | some (item, next) =>
        if next.length < tokens.length then
          (readItems false next).map fun r => (item :: r.1, r.2)
        else none
termination_by (tokens.length, 2)
decreasing_by all_goals
  simp only [Prod.lex_def]
  try have := afterComma_length_le _h
  try simp only [List.length_cons] at this
  omega

/-- The members of a mapping within brackets. -/
def readMembers (isFirst : Bool) (tokens : List Token) : Read (List (Node × Node)) :=
  let stops (t : Token) : Bool := t = .flowEntry || t = .mappingEnd
  match tokens with
  | .mappingEnd :: rest => some ([], rest)
  | tokens => match _h : afterComma isFirst tokens with
    | none => none
    | some (.mappingEnd :: rest) => some ([], rest)
    | some (.key :: rest) =>
      match readUnless (fun t => t = .value || stops t) false false rest with
      | none => none
      | some (key, rest) =>
        if rest.length < tokens.length then
          match readValue stops false rest with
          | none => none
          | some (value, next) =>
            if next.length < tokens.length then
              (readMembers false next).map fun r => ((key, value) :: r.1, r.2)
            else none
        else none
    | some rest => match read false false rest with
      | none => none
      | some (key, next) =>
        if next.length < tokens.length then
          (readMembers false next).map fun r => ((key, empty) :: r.1, r.2)
        else none
termination_by (tokens.length, 2)
decreasing_by all_goals
  simp only [Prod.lex_def]
  try have := afterComma_length_le _h
  try simp only [List.length_cons] at this
  omega

end

end Node

end ApiContract.Yaml
