import ApiContract.Unicode.Age
import ApiContract.Unicode.Break
import ApiContract.Unicode.Property
import ApiContract.Unicode.Script

/-!
# Pattern/Property — the properties of characters that a pattern can name

A property is named alone or with a value.  Names are compared by their letters and digits of ASCII,
without blanks, hyphens, low lines and letter case, and without `is` at the front.
-/

namespace ApiContract.Pattern

open Unicode

/-- A property as a pattern names it. -/
inductive PropertyName where
  | alone (name : List Char)
  | valued (name value : List Char)

/-- The letters of a name that count. -/
def keyLetters (name : List Char) : List Char :=
  (name.filter fun c => c.toNat < 0x80 && c ≠ ' ' && c ≠ '-' && c ≠ '_').map Char.toLower

/-- A name as it is compared.  `isc` is a name of its own. -/
def propertyKey (name : List Char) : String :=
  match name with
  | i :: s :: rest =>
    if i.toLower = 'i' && s.toLower = 's' then
      if keyLetters rest = ['c'] then "isc" else String.ofList (keyLetters rest)
    else String.ofList (keyLetters name)
  | _ => String.ofList (keyLetters name)

/-- The names of general categories, each with the two-letter ones it stands for. -/
def categoryNames : List (List String × List String) := [
  (["lu", "uppercaseletter"], ["Lu"]), (["ll", "lowercaseletter"], ["Ll"]),
  (["lt", "titlecaseletter"], ["Lt"]), (["lm", "modifierletter"], ["Lm"]),
  (["lo", "otherletter"], ["Lo"]), (["lc", "casedletter"], ["Lu", "Ll", "Lt"]),
  (["l", "letter"], ["Lu", "Ll", "Lt", "Lm", "Lo"]), (["mn", "nonspacingmark"], ["Mn"]),
  (["mc", "spacingmark"], ["Mc"]), (["me", "enclosingmark"], ["Me"]),
  (["m", "mark", "combiningmark"], ["Mn", "Mc", "Me"]), (["nd", "decimalnumber", "digit"], ["Nd"]),
  (["nl", "letternumber"], ["Nl"]), (["no", "othernumber"], ["No"]),
  (["n", "number"], ["Nd", "Nl", "No"]), (["pc", "connectorpunctuation"], ["Pc"]),
  (["pd", "dashpunctuation"], ["Pd"]), (["ps", "openpunctuation"], ["Ps"]),
  (["pe", "closepunctuation"], ["Pe"]), (["pi", "initialpunctuation"], ["Pi"]),
  (["pf", "finalpunctuation"], ["Pf"]), (["po", "otherpunctuation"], ["Po"]),
  (["p", "punctuation", "punct"], ["Pc", "Pd", "Ps", "Pe", "Pi", "Pf", "Po"]),
  (["sm", "mathsymbol"], ["Sm"]), (["sc", "currencysymbol"], ["Sc"]),
  (["sk", "modifiersymbol"], ["Sk"]), (["so", "othersymbol"], ["So"]),
  (["s", "symbol"], ["Sm", "Sc", "Sk", "So"]), (["zs", "spaceseparator"], ["Zs"]),
  (["zl", "lineseparator"], ["Zl"]), (["zp", "paragraphseparator"], ["Zp"]),
  (["z", "separator"], ["Zs", "Zl", "Zp"]), (["cc", "control", "cntrl"], ["Cc"]),
  (["cf", "format"], ["Cf"]), (["co", "privateuse"], ["Co"]), (["cn", "unassigned"], ["Cn"]),
  (["c", "other"], ["Cc", "Cf", "Cs", "Co", "Cn"])]

/-- A general category by the key of its name. -/
def category? (key : String) : Option CharClass :=
  match key with
  | "any" => some (.ranges [(0, lastCode)])
  | "ascii" => some (.ranges [(0, 0x7F)])
  | "assigned" => some (.complement (ofCategories ["Cn"]))
  | _ => (categoryNames.find? fun e => e.1.contains key).map fun e => ofCategories e.2

/-- The entry of a list of names that has a key among its names. -/
def named? (names : List (String × List String)) (key : String) : Option String :=
  (names.find? fun e => e.2.contains key).map (·.1)

/-- A script by the key of its name. -/
def script? (key : String) : Option CharClass :=
  (named? scriptNames key).map fun name => .ranges (inScript name)

/-- The characters that a script uses, by itself or with others, by the key of its name. -/
def scriptUse? (key : String) : Option CharClass :=
  (named? scriptNames key).map fun name =>
    .union (.difference (.ranges (inScript name)) (.ranges sharedRanges)) (.ranges (sharedBy name))

/-- The characters assigned in a version or before it, by the key of the version. -/
def age? (key : String) : Option CharClass :=
  (versions.find? fun v => key == v || key.toList == 'v' :: v.toList.filter (· ≠ '.')).map fun v =>
    .ranges (assignedBy v)

/-- A property that has no values, by the key of its name. -/
def ownProperty? (key : String) : Option CharClass :=
  match key with
  | "asciihexdigit" | "ahex" => some (.ranges [(0x30, 0x39), (0x41, 0x46), (0x61, 0x66)])
  | "alphabetic" | "alpha" => some alphabetic
  | "bidicontrol" | "bidic" => some (.ofTable bidiControlTable)
  | "bidimirrored" | "bidim" => some (.ofTable bidiMirroredTable)
  | "caseignorable" | "ci" => some caseIgnorable
  | "cased" => some cased
  | "changeswhencasefolded" | "cwcf" => some changesFolded
  | "changeswhencasemapped" | "cwcm" =>
    some (.unionAll [changesLowercased, changesUppercased, changesTitlecased])
  | "changeswhenlowercased" | "cwl" => some changesLowercased
  | "changeswhentitlecased" | "cwt" => some changesTitlecased
  | "changeswhenuppercased" | "cwu" => some changesUppercased
  | "dash" => some (.ofTable dashTable)
  | "defaultignorablecodepoint" | "di" => some defaultIgnorable
  | "deprecated" | "dep" => some (.ofTable deprecatedTable)
  | "diacritic" | "dia" => some (.ofTable diacriticTable)
  | "emoji" => some (.ofTable emojiTable)
  | "emojicomponent" | "ecomp" => some (.ofTable emojiComponentTable)
  | "emojimodifier" | "emod" => some (.ranges [(0x1F3FB, 0x1F3FF)])
  | "emojimodifierbase" | "ebase" => some (.ofTable emojiModifierBaseTable)
  | "emojipresentation" | "epres" => some (.ofTable emojiPresentationTable)
  | "extendedpictographic" | "extpict" => some (.ofTable extendedPictographicTable)
  | "extender" | "ext" => some (.ofTable extenderTable)
  | "graphemebase" | "grbase" => some graphemeBase
  | "graphemeextend" | "grext" => some graphemeExtend
  | "graphemelink" | "grlink" => some (.ofTable graphemeLinkTable)
  | "hexdigit" | "hex" => some (.ofTable hexDigitTable)
  | "hyphen" => some (.ofTable hyphenTable)
  | "idsbinaryoperator" | "idsb" =>
    some (.ranges [(0x2FF0, 0x2FF1), (0x2FF4, 0x2FFD), (0x31EF, 0x31EF)])
  | "idstrinaryoperator" | "idst" => some (.ranges [(0x2FF2, 0x2FF3)])
  | "idsunaryoperator" | "idsu" => some (.ranges [(0x2FFE, 0x2FFF)])
  | "idcompatmathcontinue" => some (.ofTable idCompatMathContinueTable)
  | "idcompatmathstart" => some (.ofTable idCompatMathStartTable)
  | "idcontinue" | "idc" => some idContinue
  | "idstart" | "ids" => some idStart
  | "ideographic" | "ideo" => some (.ofTable ideographicTable)
  | "joincontrol" | "joinc" => some (.ofTable joinControlTable)
  | "logicalorderexception" | "loe" => some (.ofTable logicalOrderExceptionTable)
  | "lowercase" | "lower" => some lowercase
  | "math" => some (.union (ofCategories ["Sm"]) (.ofTable otherMathTable))
  | "modifiercombiningmark" | "mcm" => some (.ofTable modifierCombiningMarkTable)
  | "noncharactercodepoint" | "nchar" => some (.ofTable noncharacterTable)
  | "otheralphabetic" | "oalpha" => some (.ofTable otherAlphabeticTable)
  | "otherdefaultignorablecodepoint" | "odi" => some (.ofTable otherDefaultIgnorableTable)
  | "othergraphemeextend" | "ogrext" => some (.ofTable otherGraphemeExtendTable)
  | "otheridcontinue" | "oidc" => some (.ofTable otherIdContinueTable)
  | "otheridstart" | "oids" => some (.ofTable otherIdStartTable)
  | "otherlowercase" | "olower" => some (.ofTable otherLowercaseTable)
  | "othermath" | "omath" => some (.ofTable otherMathTable)
  | "otheruppercase" | "oupper" => some (.ofTable otherUppercaseTable)
  | "patternsyntax" | "patsyn" => some patternSyntax
  | "patternwhitespace" | "patws" => some patternWhiteSpace
  | "prependedconcatenationmark" | "pcm" => some (.ofTable prependedMarkTable)
  | "quotationmark" | "qmark" => some (.ofTable quotationMarkTable)
  | "radical" => some (.ofTable radicalTable)
  | "regionalindicator" | "ri" => some (.ranges [(0x1F1E6, 0x1F1FF)])
  | "sentenceterminal" | "sterm" => some (.ofTable sentenceTerminalTable)
  | "softdotted" | "sd" => some (.ofTable softDottedTable)
  | "terminalpunctuation" | "term" => some (.ofTable terminalPunctuationTable)
  | "unifiedideograph" | "uideo" => some (.ofTable unifiedIdeographTable)
  | "uppercase" | "upper" => some uppercase
  | "variationselector" | "vs" => some variationSelector
  | "whitespace" | "space" | "wspace" => some whiteSpace
  | "xidcontinue" | "xidc" => some (.difference idContinue (.ofTable xidContinueLessTable))
  | "xidstart" | "xids" => some (.difference idStart (.ofTable xidStartLessTable))
  | _ => none

/-- The characters that have one of the values of a break property, by the key of the value. -/
def breakValue? (names : List (String × List String)) (table : List String) (key : String) :
    Option CharClass :=
  (named? names key).map fun value => .ranges ((readRuns table).rangesOf (· == value))

/-- **The characters of a property**, if there is such a property. -/
def PropertyName.meaning? : PropertyName → Option CharClass
  | alone name =>
    let key := propertyKey name
    (ownProperty? key).orElse fun _ => (category? key).orElse fun _ => script? key
  | valued name value =>
    let key := propertyKey value
    match propertyKey name with
    | "generalcategory" | "gc" => category? key
    | "script" | "sc" => script? key
    | "scriptextensions" | "scx" => scriptUse? key
    | "age" => age? key
    | "graphemeclusterbreak" | "gcb" => breakValue? clusterNames clusterTable key
    | "wordbreak" | "wb" => breakValue? wordNames wordTable key
    | "sentencebreak" | "sb" => breakValue? sentenceNames sentenceTable key
    | _ => none

end ApiContract.Pattern
