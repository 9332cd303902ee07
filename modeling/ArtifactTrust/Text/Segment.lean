import ArtifactTrust.Text.Emoji
import ArtifactTrust.Text.Property
import ArtifactTrust.Text.Script

/-!
# Parts of a text

A text falls into characters as a reader sees them, words and sentences. Where they end is told by classes of
characters: `Segment.Grapheme.all`, `Segment.Word.all` and `Segment.Sentence.all` have them by their names.
-/

namespace ArtifactTrust.Segment

/-! ## Characters as a reader sees them -/

namespace Grapheme

/-- Controls. They stand alone. -/
def control : CharTable :=
  (Category.lineSeparator ++ Category.paragraphSeparator ++ Category.control ++ Category.format ++
      Property.ignorable.within Category.unassigned).without
    ([(0x0a, 0x0a), (0x0d, 0x0d)] ++ Property.joinControl ++ Property.prepended ++ Property.extending)

/-- Characters that extend the one before them. -/
def extend : CharTable := Property.extending ++ Emoji.modifier

/-- Marks with width that do not go with the character before them. -/
def separateMark : CharTable := .ofSteps
    ["4139 2 11 1 41 3 2 7 21 1 3 6 2 1 10 3 2500 1 1 2 36886 1 1 1 27810 2"]

/-- Marks with width that go with the character before them. -/
def spacingMark : CharTable :=
  (Category.spacingMark.without separateMark ++ [(0xe33, 0xe33), (0xeb3, 0xeb3)]).without extend

/-- Signs that go with the character after them. -/
def prepend : CharTable := Property.prepended ++ .ofSteps
    ["3406 1 66675 2 525 1 1389 1 1 1 248 1 73 6 700 1 443 1"]

/-- Leading consonants of Hangul. -/
def leading : CharTable := [(0x1100, 0x115f), (0xa960, 0xa97c)]

/-- Vowels of Hangul, and vowels that are joined in the same way. -/
def vowel : CharTable := [(0x1160, 0x11a7), (0xd7b0, 0xd7c6), (0x16d63, 0x16d63), (0x16d67, 0x16d6a)]

/-- Trailing consonants of Hangul. -/
def trailing : CharTable := [(0x11a8, 0x11ff), (0xd7cb, 0xd7fb)]

/-- Syllables of Hangul without a trailing consonant: every 28th one. -/
def openSyllable : CharTable := (List.range 399).map fun n => (0xac00 + 28 * n, 0xac00 + 28 * n)

/-- Syllables of Hangul with a trailing consonant. -/
def closedSyllable : CharTable := (List.range 399).map fun n => (0xac01 + 28 * n, 0xac1b + 28 * n)

/-- The classes by their names. -/
def all : List (List String × CharTable) := [
  (["cn", "control"], control), (["cr"], [(0x0d, 0x0d)]), (["ex", "extend"], extend), (["l"], leading),
  (["lf"], [(0x0a, 0x0a)]), (["lv"], openSyllable), (["lvt"], closedSyllable), (["pp", "prepend"], prepend),
  (["ri", "regionalindicator"], Emoji.regionalIndicator), (["sm", "spacingmark"], spacingMark), (["t"], trailing),
  (["v"], vowel), (["zwj"], [(0x200d, 0x200d)])]

end Grapheme

/-! ## Words and sentences -/

/-- Digits and the signs in and before numbers. -/
def numeric : CharTable := Category.decimalNumber ++ [(0x66b, 0x66b)] ++ Property.prepended.without [(0x70f, 0x70f)]

namespace Word

/-- Characters that extend the one before them. -/
def extend : CharTable := Grapheme.extend ++ Category.spacingMark

/-- Formats. -/
def format : CharTable :=
  Category.format.without (extend ++ Property.prepended ++ Property.joinControl ++ [(0x200b, 0x200b)])

/-- Katakana and the signs that go with it. -/
def katakana : CharTable :=
  Script.charactersOf "katakana" ++
    [(0x3031, 0x3035), (0x309b, 0x309c), (0x30a0, 0x30a0), (0x30fc, 0x30fc), (0xff70, 0xff70)]

/-- Letters of Hebrew. -/
def hebrewLetter : CharTable := (Script.charactersOf "hebrew").within Category.otherLetter

/-- Signs that count as letters. -/
def otherLetter : CharTable := .ofSteps
    ["706 4 12 6 6 2 5 7 1 1 1 17 602 3 1 1 43 1 104 1 283 1 40952 15 9 2 103 2 976 1"]

/-- Letters of scripts that put no blanks between words. -/
def unspaced : CharTable := .ofSteps
    ["3585 48 1 2 12 7 58 2 1 1 1 5 1 24 1 1 1 10 1 2 9 1 2 5 1 1 21 4 288 43 20 1 16 6 4 4 3 1 3 2 7 3 4 13 12",
    "1 1777 52 35 1 4 1 371 30 2 5 11 44 4 26 86 53 82 1 36664 5 1 10 10 5 97 23 3 1 3 50 1 1 3 2 2 5 2 1 1 1",
    "24 3 27682 27 37 7"]

/-- Letters of scripts that put blanks between words. -/
def letter : CharTable :=
  (Property.alphabetic ++ otherLetter).without
    (Property.ideographic ++ katakana ++ unspaced ++ Script.charactersOf "hiragana" ++ extend ++ hebrewLetter)

/-- Signs in words and in numbers. -/
def internal : CharTable := .ofSteps
    ["46 1 8169 2 10 1 56877 1 180 1 6 1"]

/-- Signs in words. -/
def letterInternal : CharTable := .ofSteps
    ["58 1 124 1 719 1 471 1 148 1 6706 1 56811 1 65 1 196 1"]

/-- Signs in numbers. -/
def numberInternal : CharTable := .ofSteps
    ["44 1 14 1 834 1 522 1 130 2 94 1 395 1 6219 1 56779 1 3 1 59 1 3 1 183 1 14 1"]

/-- The classes by their names. -/
def all : List (List String × CharTable) := [
  (["le", "aletter"], letter), (["cr"], [(0x0d, 0x0d)]), (["dq", "doublequote"], [(0x22, 0x22)]), (["extend"], extend),
  (["ex", "extendnumlet"], Category.connectorPunctuation ++ [(0x202f, 0x202f)]), (["fo", "format"], format),
  (["hl", "hebrewletter"], hebrewLetter), (["ka", "katakana"], katakana), (["lf"], [(0x0a, 0x0a)]),
  (["ml", "midletter"], letterInternal), (["mn", "midnum"], numberInternal), (["mb", "midnumlet"], internal),
  (["nl", "newline"], [(0x0b, 0x0c), (0x85, 0x85), (0x2028, 0x2029)]), (["nu", "numeric"], numeric),
  (["ri", "regionalindicator"], Emoji.regionalIndicator), (["sq", "singlequote"], [(0x27, 0x27)]),
  (["wsegspace"], Category.spaceSeparator.without [(0xa0, 0xa0), (0x2007, 0x2007), (0x202f, 0x202f)]),
  (["zwj"], [(0x200d, 0x200d)])]

end Word

namespace Sentence

/-- Ends of paragraphs. -/
def separator : CharTable := [(0x85, 0x85), (0x2028, 0x2029)]

/-- Characters that extend the one before them. -/
def extend : CharTable := Property.extending ++ Category.spacingMark ++ [(0x200d, 0x200d)]

/-- Formats. -/
def format : CharTable := Category.format.without (extend ++ numeric ++ Property.joinControl)

/-- Letters in lower case. Georgian has none here. -/
def lower : CharTable := Property.lowercase.without (Property.extending ++ [(0x10d0, 0x10fa), (0x10fd, 0x10ff)])

/-- Letters in upper case. Georgian has none here. -/
def upper : CharTable :=
  (Category.titlecaseLetter ++ Property.uppercase).without [(0x1c90, 0x1cba), (0x1cbd, 0x1cbf)]

/-- Letters without case. -/
def otherLetter : CharTable := (Property.alphabetic ++ [(0x5f3, 0x5f3)]).without (lower ++ upper ++ extend)

/-- Full stops. -/
def fullStop : CharTable := [(0x2e, 0x2e), (0x2024, 0x2024), (0xfe52, 0xfe52), (0xff0e, 0xff0e)]

/-- Other ends of sentences. -/
def terminal : CharTable := Property.sentenceTerminal.without fullStop

/-- Signs after which a sentence goes on. -/
def continuing : CharTable := .ofSteps
    ["44 2 12 2 834 1 478 1 174 2 490 1 4105 1 5 1 2058 2 4076 1 52750 2 1 2 28 2 29 2 2 2 2 1 10 1 168 2 12 2",
    "72 1"]

/-- Quotes beside initial and final ones. -/
def otherQuote : CharTable := .ofSteps
    ["34 1 4 1 10035 6 1695 2 4 3 2 1 116842 3"]

/-- Brackets and quotes. -/
def close : CharTable :=
  (Category.openPunctuation ++ Category.closePunctuation ++ Category.initialPunctuation ++ Category.finalPunctuation ++
      otherQuote).without (fullStop ++ terminal)

/-- The classes by their names. -/
def all : List (List String × CharTable) := [
  (["at", "aterm"], fullStop), (["cr"], [(0x0d, 0x0d)]), (["cl", "close"], close), (["ex", "extend"], extend),
  (["fo", "format"], format), (["lf"], [(0x0a, 0x0a)]), (["lo", "lower"], lower),
  (["nu", "numeric"], numeric ++ [(0x66c, 0x66c)]), (["le", "oletter"], otherLetter), (["sc", "scontinue"], continuing),
  (["st", "sterm"], terminal), (["se", "sep"], separator),
  (["sp"], Property.blank.without (separator ++ [(0x0a, 0x0a), (0x0d, 0x0d)])), (["up", "upper"], upper)]

end Sentence

end ArtifactTrust.Segment
