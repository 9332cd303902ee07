import ArtifactTrust.Text.Age
import ArtifactTrust.Text.Segment

/-!
# Named sets of characters

The names by which a pattern calls sets of characters: properties, general categories and scripts of Unicode, and the
classes of ASCII.
-/

namespace ArtifactTrust.Pattern

/-- A name without what does not count in it: case, blanks, low lines, hyphens, characters outside ASCII and a leading
*is*. The name *isc* stays, since it is the name of something that is no set. -/
def normalizedName (name : List Char) : String :=
  let plain (s : List Char) : List Char :=
    (s.filter fun c => c.toNat < 0x80 && c != ' ' && c != '_' && c != '-').map Char.toLower
  match name with
  | i :: s :: rest =>
    if i.toLower = 'i' ∧ s.toLower = 's' then
      let rest := plain rest
      if rest = ['c'] then "isc" else String.ofList rest
    else String.ofList (plain name)
  | _ => String.ofList (plain name)

/-- All characters. -/
def anyCharacter : CharTable := [(0, 0x10ffff)]

/-- A general category by its name. -/
def category? (name : String) : Option CharTable :=
  match name with
  | "any" => some anyCharacter
  | "assigned" => some Category.assigned
  | "ascii" => some [(0, 0x7f)]
  | "l" | "letter" => some Category.letter
  | "lc" | "casedletter" => some Category.casedLetter
  | "lu" | "uppercaseletter" => some Category.uppercaseLetter
  | "ll" | "lowercaseletter" => some Category.lowercaseLetter
  | "lt" | "titlecaseletter" => some Category.titlecaseLetter
  | "lm" | "modifierletter" => some Category.modifierLetter
  | "lo" | "otherletter" => some Category.otherLetter
  | "m" | "mark" | "combiningmark" => some Category.mark
  | "mn" | "nonspacingmark" => some Category.nonspacingMark
  | "mc" | "spacingmark" => some Category.spacingMark
  | "me" | "enclosingmark" => some Category.enclosingMark
  | "n" | "number" => some Category.number
  | "nd" | "decimalnumber" | "digit" => some Category.decimalNumber
  | "nl" | "letternumber" => some Category.letterNumber
  | "no" | "othernumber" => some Category.otherNumber
  | "p" | "punctuation" | "punct" => some Category.punctuation
  | "pc" | "connectorpunctuation" => some Category.connectorPunctuation
  | "pd" | "dashpunctuation" => some Category.dashPunctuation
  | "ps" | "openpunctuation" => some Category.openPunctuation
  | "pe" | "closepunctuation" => some Category.closePunctuation
  | "pi" | "initialpunctuation" => some Category.initialPunctuation
  | "pf" | "finalpunctuation" => some Category.finalPunctuation
  | "po" | "otherpunctuation" => some Category.otherPunctuation
  | "s" | "symbol" => some Category.symbol
  | "sm" | "mathsymbol" => some Category.mathSymbol
  | "sc" | "currencysymbol" => some Category.currencySymbol
  | "sk" | "modifiersymbol" => some Category.modifierSymbol
  | "so" | "othersymbol" => some Category.otherSymbol
  | "z" | "separator" => some Category.separator
  | "zs" | "spaceseparator" => some Category.spaceSeparator
  | "zl" | "lineseparator" => some Category.lineSeparator
  | "zp" | "paragraphseparator" => some Category.paragraphSeparator
  | "c" | "other" => some (Category.assignedOther ++ Category.unassigned)
  | "cc" | "control" | "cntrl" => some Category.control
  | "cf" | "format" => some Category.format
  | "co" | "privateuse" => some Category.privateUse
  | "cn" | "unassigned" => some Category.unassigned
  | _ => none

/-- A script by its name. -/
def script? (name : String) : Option CharTable := (Script.all.find? (·.names.contains name)).map (·.characters)

/-- The properties by their names. -/
def properties : List (List String × CharTable) := [
  (["asciihexdigit", "ahex"], Property.asciiHexDigit), (["alphabetic", "alpha"], Property.alphabetic),
  (["bidicontrol", "bidic"], Property.bidiControl), (["bidimirrored", "bidim"], Property.mirrored),
  (["caseignorable", "ci"], Property.caseIgnorable), (["cased"], Property.cased),
  (["changeswhencasefolded", "cwcf"], Property.changesWhenCasefolded),
  (["changeswhencasemapped", "cwcm"], Property.changesWhenCasemapped),
  (["changeswhenlowercased", "cwl"], Property.changesWhenLowercased),
  (["changeswhentitlecased", "cwt"], Property.changesWhenTitlecased),
  (["changeswhenuppercased", "cwu"], Property.changesWhenUppercased), (["dash"], Property.dash),
  (["defaultignorablecodepoint", "di"], Property.ignorable), (["deprecated", "dep"], Property.deprecated),
  (["diacritic", "dia"], Property.diacritic), (["emoji"], Emoji.emoji), (["emojicomponent", "ecomp"], Emoji.component),
  (["emojimodifier", "emod"], Emoji.modifier), (["emojimodifierbase", "ebase"], Emoji.modifierBase),
  (["emojipresentation", "epres"], Emoji.presentation), (["extendedpictographic", "extpict"], Emoji.pictographic),
  (["extender", "ext"], Property.extender), (["graphemebase", "grbase"], Property.graphemeBase),
  (["graphemeextend", "grext"], Property.extending), (["graphemelink", "grlink"], Property.graphemeLink),
  (["hexdigit", "hex"], Property.hexDigit), (["hyphen"], Property.hyphen),
  (["idsbinaryoperator", "idsb"], Property.binaryDescription),
  (["idstrinaryoperator", "idst"], Property.trinaryDescription),
  (["idsunaryoperator", "idsu"], Property.unaryDescription),
  (["idcompatmathcontinue"], Property.mathNamePart), (["idcompatmathstart"], Property.mathNameStart),
  (["idcontinue", "idc"], Property.namePart), (["idstart", "ids"], Property.nameStart),
  (["ideographic", "ideo"], Property.ideographic), (["joincontrol", "joinc"], Property.joinControl),
  (["logicalorderexception", "loe"], Property.logicalOrderException), (["lowercase", "lower"], Property.lowercase),
  (["math"], Property.math), (["modifiercombiningmark", "mcm"], Property.modifierCombiningMark),
  (["noncharactercodepoint", "nchar"], Property.noncharacter), (["otheralphabetic", "oalpha"], Property.otherAlphabetic),
  (["otherdefaultignorablecodepoint", "odi"], Property.otherIgnorable),
  (["othergraphemeextend", "ogrext"], Property.otherExtending), (["otheridcontinue", "oidc"], Property.otherNamePart),
  (["otheridstart", "oids"], Property.otherNameStart), (["otherlowercase", "olower"], Property.otherLowercase),
  (["othermath", "omath"], Property.otherMath), (["otheruppercase", "oupper"], Property.otherUppercase),
  (["patternsyntax", "patsyn"], Property.patternSyntax), (["patternwhitespace", "patws"], Property.patternBlank),
  (["prependedconcatenationmark", "pcm"], Property.prepended), (["quotationmark", "qmark"], Property.quotationMark),
  (["radical"], Property.radical), (["regionalindicator", "ri"], Emoji.regionalIndicator),
  (["sentenceterminal", "sterm"], Property.sentenceTerminal), (["softdotted", "sd"], Property.softDotted),
  (["terminalpunctuation", "term"], Property.terminalPunctuation),
  (["unifiedideograph", "uideo"], Property.unifiedIdeograph), (["uppercase", "upper"], Property.uppercase),
  (["variationselector", "vs"], Property.variationSelector), (["whitespace", "wspace", "space"], Property.blank),
  (["xidcontinue", "xidc"], Property.stableNamePart), (["xidstart", "xids"], Property.stableNameStart)]

/-- What a name stands for in a list of names. -/
def lookUp? (entries : List (List String × CharTable)) (name : String) : Option CharTable :=
  (entries.find? (·.1.contains name)).map (·.2)

/-- The set that a single name stands for: a property, a general category or a script, in this order. -/
def named? (name : List Char) : Option CharTable :=
  let name := normalizedName name
  lookUp? properties name <|> category? name <|> script? name

/-- The set of the characters for which a property has a value. The value of an age is a version, and the characters of
earlier versions belong to the set. -/
def valued? (property value : List Char) : Option CharTable :=
  let value := normalizedName value
  match normalizedName property with
  | "gc" | "generalcategory" => category? value
  | "sc" | "script" => script? value
  | "scx" | "scriptextensions" => (Script.all.find? (·.names.contains value)).map (·.extended)
  | "age" => Age.upTo? value Age.all
  | "gcb" | "graphemeclusterbreak" => lookUp? Segment.Grapheme.all value
  | "wb" | "wordbreak" => lookUp? Segment.Word.all value
  | "sb" | "sentencebreak" => lookUp? Segment.Sentence.all value
  | _ => none

/-- A class of ASCII by its name. -/
def asciiClass? (name : String) : Option CharTable :=
  match name with
  | "alnum" => some [(0x30, 0x39), (0x41, 0x5a), (0x61, 0x7a)]
  | "alpha" => some [(0x41, 0x5a), (0x61, 0x7a)]
  | "ascii" => some [(0, 0x7f)]
  | "blank" => some [(0x09, 0x09), (0x20, 0x20)]
  | "cntrl" => some [(0, 0x1f), (0x7f, 0x7f)]
  | "digit" => some [(0x30, 0x39)]
  | "graph" => some [(0x21, 0x7e)]
  | "lower" => some [(0x61, 0x7a)]
  | "print" => some [(0x20, 0x7e)]
  | "punct" => some [(0x21, 0x2f), (0x3a, 0x40), (0x5b, 0x60), (0x7b, 0x7e)]
  | "space" => some [(0x09, 0x0d), (0x20, 0x20)]
  | "upper" => some [(0x41, 0x5a)]
  | "word" => some [(0x30, 0x39), (0x41, 0x5a), (0x5f, 0x5f), (0x61, 0x7a)]
  | "xdigit" => some [(0x30, 0x39), (0x41, 0x46), (0x61, 0x66)]
  | _ => none

end ArtifactTrust.Pattern
