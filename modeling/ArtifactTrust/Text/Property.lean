import ArtifactTrust.Text.Category

/-!
# Properties of characters

The properties that a character of Unicode 16 has or has not. Those that do not follow from others are tables.
-/

namespace ArtifactTrust.Property

/-! ## Letters and case -/

/-- Characters beside letters and letter numbers that are alphabetic. -/
def otherAlphabetic : CharTable := .ofSteps
    ["837 1 29 13 576 14 1 1 1 2 1 2 1 1 72 11 48 13 1 7 16 1 101 7 4 4 2 2 4 1 35 1 30 16 102 11 101 2 3 9 1 3",
    "1 4 106 1 60 12 3 7 6 20 54 2 2 15 1 2 5 3 10 2 29 3 58 7 2 2 2 2 10 1 10 2 29 3 58 5 4 2 2 2 4 1 30 2 3",
    "1 11 3 58 8 1 3 1 2 21 2 22 3 4 3 58 7 2 2 2 2 9 2 10 2 30 1 59 5 3 3 1 3 10 1 40 5 57 7 1 3 1 3 8 2 11 2",
    "29 3 58 7 1 3 1 3 8 2 11 2 15 1 12 4 58 7 1 3 1 3 10 1 10 2 29 3 75 6 1 1 1 8 18 2 61 1 2 7 18 1 99 1 2 6",
    "1 2 16 1 163 19 9 11 1 36 110 12 1 1 2 4 23 4 4 3 1 3 2 7 3 4 13 12 1 1 10 4 1652 2 30 2 30 2 30 2 66 19",
    "188 2 34 1 118 12 4 9 222 5 57 10 2 20 74 2 11 3 49 5 48 15 60 3 30 9 2 2 57 11 50 19 412 34 1729 52 2294",
    "32 30836 8 34 2 354 1 8 1 23 5 88 2 50 16 1 1 57 1 38 5 28 12 45 4 48 12 37 1 67 14 12 1 8 2 45 3 50 1 1",
    "3 2 2 5 1 44 5 5 1 237 8 20275 1 2135 5 1670 3 1 2 5 4 788 4 65 1 321 2 79 1 259 3 53 14 45 2 11 3 45 9 9",
    "1 61 3 36 12 18 2 57 3 48 13 14 2 92 9 2 1 6 1 2 1 157 10 23 4 58 7 2 2 2 2 10 1 10 2 84 9 1 1 2 1 1 4 1",
    "2 103 13 1 3 106 18 237 7 2 7 29 2 82 15 1 1 106 11 103 14 257 13 247 6 1 2 2 2 3 1 1 1 142 7 2 6 4 1 28",
    "10 42 5 1 4 18 11 46 14 407 8 1 7 83 22 1 14 122 6 3 1 1 2 1 3 1 1 3 1 66 5 1 2 1 4 348 4 9 2 1 1 48 7 3",
    "3 16861 17 3616 1 1 55 7 4 93 2 19628 1 9057 7 1 17 2 7 1 2 1 5 100 1 2231 1 2024 26 6 26 6 26"]

/-- Characters beside small letters that are in lower case. -/
def otherLowercase : CharTable := .ofSteps
    ["170 1 15 1 501 9 7 2 30 5 96 1 52 1 3457 1 3119 63 13 1 34 37 689 1 13 1 16 13 211 16 848 26 1938 2 31262",
    "2 210 1 129 3 3 2 866 4 9 1 23574 1 2 3 1 42 1 9 55413 62"]

/-- Characters beside capital letters that are in upper case. -/
def otherUppercase : CharTable :=
  [(0x2160, 0x216f), (0x24b6, 0x24cf), (0x1f130, 0x1f149), (0x1f150, 0x1f169), (0x1f170, 0x1f189)]

/-- Alphabetic characters. -/
def alphabetic : CharTable := Category.letter ++ Category.letterNumber ++ otherAlphabetic

/-- Characters in lower case. -/
def lowercase : CharTable := Category.lowercaseLetter ++ otherLowercase

/-- Characters in upper case. -/
def uppercase : CharTable := Category.uppercaseLetter ++ otherUppercase

/-- Characters with a case. -/
def cased : CharTable := lowercase ++ uppercase ++ Category.titlecaseLetter

/-- Punctuation that may stand inside of words. -/
def wordInternal : CharTable := .ofSteps
    ["39 1 6 1 11 1 124 1 719 1 471 1 148 1 6691 2 10 1 2 1 56811 1 62 1 2 1 177 1 6 1 11 1"]

/-- Characters that do not count where the case of a text is found out. -/
def caseIgnorable : CharTable :=
  Category.nonspacingMark ++ Category.enclosingMark ++ Category.format ++ Category.modifierLetter ++
    Category.modifierSymbol ++ wordInternal

/-- Characters in upper case without a form in lower case. -/
def notLowercased : CharTable := .ofSteps
    ["978 3 7469 1 4 1 3 3 2 3 2 1 3 5 6 1 3 1 3 2 2 2 1 1 10 2 5 1 111290 26 26 26 26 26 26 1 1 2 2 1 2 2 2 4",
    "1 8 26 26 26 2 1 4 2 8 1 7 27 2 1 4 1 5 1 1 3 7 27 26 26 26 26 26 26 26 26 26 26 26 30 25 33 25 33 25 33",
    "25 33 25 33 1 6501 26 6 26 6 26"]

/-- Characters in lower case without a form in upper case. -/
def notUppercased : CharTable := .ofSteps
    ["170 1 15 1 125 1 84 1 28 2 14 1 3 1 98 1 18 6 27 1 2 1 1 1 2 3 2 1 4 1 5 2 1 1 2 2 1 7 1 2 1 1 2 3 6 5 1",
    "1 1 8 2 26 7 2 30 5 149 1 129 1 355 1 39 1 2931 1 3075 121 1 3 1 16 1 49 220 2 1 1 465 1 13 1 16 13 109 1",
    "3 2 3 1 27 1 4 1 4 1 2 2 8 4 2855 1 2 1 2 7 102 1 31159 2 146 2 62 9 21 1 6 1 25 1 35 1 1 1 28 3 3 3 821",
    "35 1 7 1 14 23574 1 2 3 1 42 1 9 52319 26 26 7 1 18 26 26 26 4 1 1 1 7 1 11 26 26 26 26 26 26 26 26 26 26",
    "26 26 26 26 26 26 26 28 28 25 1 6 26 25 1 6 26 25 1 6 26 25 1 6 26 25 1 6 1 1 1844 10 1 20 6 6 261 62"]

/-- Characters that are others in lower case. -/
def changesWhenLowercased : CharTable := (uppercase ++ Category.titlecaseLetter).without notLowercased

/-- Characters that are others in upper case. -/
def changesWhenUppercased : CharTable := (lowercase ++ Category.titlecaseLetter).without notUppercased

/-- Characters that are others in upper case but not at the front of a title. -/
def titlecased : CharTable := .ofSteps
    ["453 1 2 1 2 1 38 1 3805 43 2 3 3720 8 8 8 8 8 12 1 15 1 47 1"]

/-- Capital letters that are others at the front of a title. -/
def titlecaseDigraph : CharTable :=
  [(0x1c4, 0x1c4), (0x1c7, 0x1c7), (0x1ca, 0x1ca), (0x1f1, 0x1f1)]

/-- Characters that are others at the front of a title. -/
def changesWhenTitlecased : CharTable := changesWhenUppercased.without titlecased ++ titlecaseDigraph

/-- Characters that are others in lower case, in upper case or at the front of a title. -/
def changesWhenCasemapped : CharTable := changesWhenLowercased ++ changesWhenUppercased ++ changesWhenTitlecased

/-- Characters in upper case that are what others are folded to. -/
def foldedUppercase : CharTable := [(0x13a0, 0x13f5)]

/-- Characters in lower case that are folded to others. -/
def foldingLowercase : CharTable := .ofSteps
    ["181 1 41 1 105 1 53 1 453 1 124 1 13 2 3 2 25 2 3 1 401 1 3696 6 2178 9 529 2 228 8 8 8 8 8 10 3 2 1 10 3",
    "2 1 42 3 2 1 35704 80 20288 7 12 5"]

/-- Characters that are folded to others. -/
def changesWhenCasefolded : CharTable := changesWhenLowercased.without foldedUppercase ++ foldingLowercase

/-- Letters that lose their dot under an accent. -/
def softDotted : CharTable := .ofSteps
    ["105 2 196 1 281 1 30 1 52 1 20 1 320 1 98 1 1 1 6409 1 51 1 13 1 3 1 132 1 157 1 421 1 214 2 2866 1",
    "108453 2 50 2 50 2 50 2 50 2 50 2 50 2 50 2 50 2 50 2 50 2 50 2 50 2 2182 1 305 2 26 1"]

/-! ## Words and names -/

/-- The two joiners without width. -/
def joinControl : CharTable := [(0x200c, 0x200d)]

/-- Characters of words: alphabetic ones, marks, digits, connecting punctuation, and the two joiners without width. -/
def word : CharTable :=
  alphabetic ++ Category.mark ++ Category.decimalNumber ++ Category.connectorPunctuation ++ joinControl

/-- Characters that languages may use as their signs. -/
def patternSyntax : CharTable := .ofSteps
    ["33 15 10 7 26 4 1 1 26 4 34 7 1 1 1 2 1 1 1 2 4 1 4 1 3 1 23 1 31 1 7960 24 8 15 2 19 1 10 305 720 160",
    "630 30 1132 512 128 385 3 4 25 15 1 52493 2 261 2"]

/-- White space of languages. -/
def patternBlank : CharTable :=
  [(0x9, 0xd), (0x20, 0x20), (0x85, 0x85), (0x200e, 0x200f), (0x2028, 0x2029)]

/-- Characters beside letters and letter numbers at the front of names. -/
def otherNameStart : CharTable :=
  [(0x1885, 0x1886), (0x2118, 0x2118), (0x212e, 0x212e), (0x309b, 0x309c)]

/-- Characters beside letters, marks, digits and connecting punctuation inside of names. -/
def otherNamePart : CharTable := .ofSteps
    ["183 1 719 1 4065 9 1640 1 1585 2 4333 1 52841 1"]

/-- Characters at the front of names. -/
def nameStart : CharTable :=
  (Category.letter ++ Category.letterNumber ++ otherNameStart).without (patternSyntax ++ patternBlank)

/-- Characters of names. -/
def namePart : CharTable :=
  nameStart ++ (Category.nonspacingMark ++ Category.spacingMark ++ Category.decimalNumber ++
    Category.connectorPunctuation ++ otherNamePart).without (patternSyntax ++ patternBlank)

/-- Characters that do not stay in names when texts are normalized. -/
def unstableNamePart : CharTable := .ofSteps
    ["890 1 11552 2 52161 6 406 2 116 1 1 1 1 1 1 1 1 1 1 1 1 1 1 1"]

/-- Characters that do not stay at the front of names when texts are normalized, though they stay in them. -/
def unstableNameStart : CharTable := [(0xe33, 0xe33), (0xeb3, 0xeb3), (0xff9e, 0xff9f)]

/-- Characters at the front of names, whether texts are normalized or not. -/
def stableNameStart : CharTable := nameStart.without (unstableNamePart ++ unstableNameStart)

/-- Characters of names, whether texts are normalized or not. -/
def stableNamePart : CharTable := namePart.without unstableNamePart

/-- Signs of mathematics that some languages take at the front of names. -/
def mathNameStart : CharTable := .ofSteps
    ["8706 1 4 1 22 1 111778 1 25 1 31 1 25 1 31 1 25 1 31 1 25 1 31 1 25 1"]

/-- Signs of mathematics that some languages take in names. -/
def mathNamePart : CharTable :=
  mathNameStart ++
    [(0xb2, 0xb3), (0xb9, 0xb9), (0x2070, 0x2070), (0x2074, 0x207e), (0x2080, 0x208e)]

/-! ## Marks -/

/-- Characters beside marks without width and enclosing marks that extend the character before them. -/
def otherExtending : CharTable := .ofSteps
    ["2494 1 24 1 358 1 24 1 102 1 24 1 232 1 1 1 4 2 1 2 9 2 103 1 24 1 119 1 15 1 2357 1 30 1 1024 1 5 1 1 1",
    "5 2 101 1 71 2 1048 1 4129 2 31011 1 108 1 21981 2 4640 1 116 1 264 1 14 1 9 1 96 1 9 1 2 1 1 3 5 1 224 1",
    "12 1 241 1 262 1 633 1 12 1 1539 1 20654 2 24947 2 6 6 798381 96"]

/-- Characters that extend the one before them. -/
def extending : CharTable := Category.nonspacingMark ++ Category.enclosingMark ++ otherExtending

/-- Characters that others may extend. -/
def graphemeBase : CharTable :=
  (Category.control ++ Category.format ++ Category.privateUse ++ Category.unassigned ++ Category.lineSeparator ++
    Category.paragraphSeparator ++ extending).complement

/-- Marks that join the letters on both sides. -/
def graphemeLink : CharTable := .ofSteps
    ["2381 1 127 1 127 1 127 1 127 1 127 1 127 1 127 1 109 2 16 1 124 1 111 1 127 1 201 1 180 2 1753 2 30 1 157",
    "1 653 1 227 1 101 2 70 2 4491 1 31366 1 37 1 151 1 142 1 108 1 309 1 246 1 24145 1 1542 1 41 1 14 1 57 1",
    "121 2 139 1 116 1 180 1 98 1 128 3 113 1 127 1 252 1 127 1 118 1 116 1 269 1 259 2 161 1 83 1 18 1 81 1",
    "421 1 260 2 81 1 425 2 16876 1"]

/-- Characters that change the meaning of others. -/
def diacritic : CharTable := .ofSteps
    ["94 1 1 1 71 1 6 1 4 1 2 2 503 159 1 8 5 6 17 2 4 1 9 2 253 5 209 1 55 45 1 1 1 2 1 2 1 1 131 8 4 2 134 2",
    "4 2 3 3 67 27 91 11 58 11 34 2 126 8 41 10 16 28 61 1 16 1 3 4 28 1 74 1 16 1 110 1 16 1 110 1 16 1 47 3",
    "60 1 16 1 7 1 119 1 110 1 16 1 110 1 16 1 109 2 16 1 124 1 111 1 12 6 1 1 107 1 13 5 75 2 27 1 1 1 1 1 4",
    "2 66 3 1 2 62 1 112 1 1 2 40 2 4 5 25 7 1 1 10 2 705 3 948 2 30 1 148 11 9 1 347 3 292 1 20 8 2 1 48 15 2",
    "11 104 1 15 1 38 9 54 2 58 1 11 2 66 2 64 6 82 25 4 1 6 1 2 3 50 63 48 36 5 12 37 11 445 1 1 3 11 3 13 3",
    "13 3 13 2 3312 3 317 1 506 6 105 4 95 1 30066 1 12 2 1 1 28 2 82 2 14 34 102 3 109 2 12 1 37 1 151 1 27",
    "18 57 4 36 1 95 1 12 1 36 1 149 3 65 4 51 1 100 5 9 3 128 2 20272 1 769 16 270 1 1 1 47 1 45 2 67 1 764 1",
    "1183 6 1 42 1 9 637 3 4 1 165 2 571 6 38 1 26 5 399 3 70 11 49 4 192 1 41 1 72 2 120 2 62 1 76 1 9 3 104",
    "2 178 2 80 2 16 1 24 7 3 5 89 3 1 2 13 2 95 1 3 1 123 2 251 2 126 1 118 2 115 1 269 2 258 2 4 1 156 1 83",
    "1 18 1 81 1 421 1 258 1 1 2 81 1 425 2 23 1 5356 15 11481 1 2496 5 59 7 564 2 546 17 80 2 16382 4 1 7 1 2",
    "7937 46 2 23 544 3 3 6 8 8 2 7 30 4 3714 62 194 7 375 1 61 4 766 2 736 7 109 3 1 3"]

/-- Characters that lengthen or repeat the one before them. -/
def extender : CharTable := .ofSteps
    ["183 1 536 2 878 1 441 1 630 1 137 1 89 1 752 1 127 1 2371 1 56 1 611 1 398 1 68 1 5001 1 43 5 103 2 93 3",
    "28438 1 1526 1 962 1 22 1 137 1 108 1 21 2 21627 1 2064 2 1483 1 27 1 4 1 1223 1 293 1 116 2 498 3 1231 1",
    "20649 2 1180 2 1 1 29016 2 1201 1 852 3"]

/-- Arabic marks that are set close to their letters. -/
def modifierCombiningMark : CharTable := .ofSteps
    ["1620 2 2 1 131 1 6 1 3 2 481 2 1 3 3 1 31 1"]

/-- Characters that select a variant of the one before them. -/
def variationSelector : CharTable :=
  [(0x180b, 0x180d), (0x180f, 0x180f), (0xfe00, 0xfe0f), (0xe0100, 0xe01ef)]

/-! ## Punctuation and symbols -/

/-- Dashes. -/
def dash : CharTable := .ofSteps
    ["45 1 1372 1 51 1 3649 1 1029 1 2057 6 61 1 39 1 15 1 390 1 3076 1 2 1 31 2 4 1 28 1 446 1 19 1 111 1",
    "52624 2 37 1 10 1 169 1 3680 1 318 1"]

/-- Hyphens. -/
def hyphen : CharTable := .ofSteps
    ["45 1 127 1 1244 1 4731 1 2057 2 3589 1 739 1 52583 1 169 1 87 1"]

/-- Quotation marks. -/
def quotationMark : CharTable := .ofSteps
    ["34 1 4 1 131 1 15 1 8028 8 25 2 3591 1 457 4 13 3 52769 4 189 1 4 1 90 2"]

/-- Punctuation at the end of a part of a text. -/
def terminalPunctuation : CharTable := .ofSteps
    ["33 1 10 1 1 1 11 2 3 1 830 1 8 1 513 1 57 1 72 1 14 1 1 3 180 1 43 11 1 1 235 2 54 6 1 8 31 1 261 2 1268",
    "2 172 1 4 6 311 2 789 8 773 1 124 3 71 2 157 3 3 1 39 4 2 2 314 2 354 4 162 2 10 2 1 3 29 3 187 5 62 2",
    "932 1 23 2 9 3 3247 3 306 1 13 1 4 1 10 1 1 2 3 2 428 2 29947 2 269 3 227 5 382 2 86 2 95 1 151 3 147 3",
    "127 1 16 2 249 1 21030 1 2 2 57 3 1 4 169 1 10 1 1 1 11 2 3 1 65 1 2 1 1082 1 48 1 1158 1 199 1 310 2 152",
    "6 68 6 89 4 952 5 44 4 189 7 112 4 127 3 129 2 6 1 16 2 88 5 108 1 298 2 117 3 12 2 358 4 3 15 105 2 249",
    "3 517 1 1 1 251 2 87 2 4 2 414 3 45 1 645 2 74 2 1323 5 17913 2 133 1 65 3 10 1 553 2 295 2 19974 1 7655",
    "4"]

/-- Punctuation at the end of a sentence. -/
def sentenceTerminal : CharTable := .ofSteps
    ["33 1 12 1 16 1 1353 1 147 3 180 1 43 3 246 1 61 1 1 1 3 2 293 2 1764 2 790 1 4 2 773 1 198 2 157 2 45 1 5",
    "1 314 2 354 4 162 2 10 2 2 2 29 3 187 2 65 2 932 1 23 2 9 3 3247 3 306 1 13 1 22 2 429 1 29948 1 270 2",
    "227 1 3 1 382 2 86 2 95 1 152 2 147 3 144 2 249 1 21030 1 2 2 59 1 3 2 169 1 12 1 16 1 65 1 2804 2 1277 5",
    "44 4 189 2 117 4 127 3 129 2 6 1 16 2 88 2 1 2 108 1 298 2 117 2 373 2 5 15 105 2 249 3 517 1 1 1 251 2",
    "87 2 420 2 692 2 74 2 19241 2 133 1 65 2 11 1 553 2 296 1 19974 1 7656 1"]

/-- Characters beside symbols of mathematics that have a meaning in mathematics. -/
def otherMath : CharTable := .ofSteps
    ["94 1 881 3 2 1 26 2 2 2 7200 1 27 3 11 1 32 4 24 2 14 2 65 13 4 1 3 2 4 5 18 1 4 1 2 10 1 1 3 5 6 1 3 2 2",
    "2 1 3 1 6 3 4 5 5 75 5 2 4 1 2 1 2 1 1 1 5 2 2 4 2 4 18 2 2 1 1 1 7 1 1 6 2 290 4 168 2 1 1 24 1 17 1 445",
    "2 12 9 5 5 5 2 2 2 3 5 14 1 1 1 2 6 24 2 57 1 1 1 29 4 9 2 342 2 31 10 403 22 63 4 32 2 54371 1 1 1 4 1",
    "211 1 1 1 54465 85 1 71 1 2 2 1 2 2 2 4 1 12 1 1 1 7 1 65 1 4 2 8 1 7 1 28 1 4 1 5 1 1 3 7 1 340 2 25 1",
    "25 1 31 1 25 1 31 1 25 1 31 1 25 1 31 1 25 1 8 2 50 5632 4 1 27 1 2 1 1 2 1 1 10 1 4 1 1 1 1 6 1 4 1 1 1",
    "1 1 1 3 1 2 1 1 2 1 1 1 1 1 1 1 1 1 1 2 1 1 2 4 1 7 1 4 1 4 1 1 1 10 1 17 5 3 1 5 1 17"]

/-- Characters with a meaning in mathematics. -/
def math : CharTable := Category.mathSymbol ++ otherMath

/-- Characters that are mirrored in a text from right to left. -/
def mirrored : CharTable := .ofSteps
    ["40 2 18 1 1 1 28 1 1 1 29 1 1 1 45 1 15 1 3710 4 1885 2 2460 2 10 2 54 2 14 2 177 1 192 4 3 6 3 1 3 2 3 4",
    "1 4 1 1 1 1 4 9 5 1 1 18 5 4 9 2 1 1 1 8 1 32 2 4 5 1 9 2 2 19 5 2 9 5 2 2 4 24 2 16 8 4 20 2 7 2 1085 14",
    "74 1 2 4 1 2 1 3 5 4 5 3 3 14 403 22 2 6 1 14 8 1 7 6 3 1 4 5 1 2 2 5 4 1 1 3 2 2 10 6 2 2 12 19 1 4 2 1",
    "1 1 2 1 1 4 5 2 6 3 24 2 11 2 4 4 1 2 2 2 4 43 2 8 1 40 5 1 1 1 3 5 5 3 4 1 3 5 1 1 256 1 515 4 3 2 1 2",
    "14 2 2 10 43 8 427 10 2 8 52797 6 5 2 162 2 18 1 1 1 28 1 1 1 29 1 1 1 1 2 1 2 55159 1 57 1 57 1 57 1 57",
    "1"]

/-! ## Ideographs -/

/-- The unified ideographs of the Han script. -/
def unifiedIdeograph : CharTable := .ofSteps
    ["13312 6592 64 20992 23054 2 1 1 1 2 10 1 1 1 1 2 2 3 67030 42720 32 4154 6 222 2 5762 14 7473 15 622 4514",
    "4939 5 4192"]

/-- Ideographs beside the unified ones. -/
def otherIdeograph : CharTable := .ofSteps
    ["12294 2 25 9 14 3 51397 270 2 1 1 1 2 10 1 1 1 1 2 2 3 68 2 106 29962 1 27 6136 8 1238 41 10 9319 396",
    "83204 542"]

/-- Ideographs. -/
def ideographic : CharTable := unifiedIdeograph ++ otherIdeograph

/-- Radicals of the Han script. -/
def radical : CharTable := [(0x2e80, 0x2e99), (0x2e9b, 0x2ef3), (0x2f00, 0x2fd5)]

/-- Signs that describe an ideograph by one part. -/
def unaryDescription : CharTable := [(0x2ffe, 0x2fff)]

/-- Signs that describe an ideograph by two parts. -/
def binaryDescription : CharTable := [(0x2ff0, 0x2ff1), (0x2ff4, 0x2ffd), (0x31ef, 0x31ef)]

/-- Signs that describe an ideograph by three parts. -/
def trinaryDescription : CharTable := [(0x2ff2, 0x2ff3)]

/-! ## Characters without a shape -/

/-- White space, the characters of `Text.isBlank`. -/
def blank : CharTable := .ofSteps
    ["9 5 18 1 100 1 26 1 5599 1 2431 11 29 2 5 1 47 1 4000 1"]

/-- Characters that control the direction of a text. -/
def bidiControl : CharTable :=
  [(0x61c, 0x61c), (0x200e, 0x200f), (0x202a, 0x202e), (0x2066, 0x2069)]

/-- Signs that are written with the digits after them. -/
def prepended : CharTable := .ofSteps
    ["1536 6 215 1 49 1 384 2 80 1 67546 1 15 1"]

/-- Code points beside formats and variation selectors that are not shown where they are not understood. -/
def otherIgnorable : CharTable := .ofSteps
    ["847 1 3599 2 1619 2 2223 1 4350 1 52795 1 79 9 851975 1 1 30 96 128 240 3600"]

/-- Code points that are not shown where they are not understood. -/
def ignorable : CharTable :=
  (otherIgnorable ++ Category.format ++ variationSelector).without
    (blank ++ prepended ++ [(0xfff9, 0xfffb), (0x13430, 0x1343f)])

/-- Characters that are no longer to be used. -/
def deprecated : CharTable := .ofSteps
    ["329 1 1321 1 2307 1 1 1 2089 2 2245 6 697 2 908502 1"]

/-- Vowels that are written in front of the consonant that they are spoken after. -/
def logicalOrderException : CharTable := .ofSteps
    ["3648 5 123 5 2800 3 2 1 37114 2 2 1 1 2"]

/-- Code points that no character will have: the last two of every plane, and one block. -/
def noncharacter : CharTable :=
  (0xfdd0, 0xfdef) :: (List.range 17).map fun plane => (plane * 0x10000 + 0xfffe, plane * 0x10000 + 0xffff)

/-! ## Digits -/

/-- Hexadecimal digits of ASCII. -/
def asciiHexDigit : CharTable := [(0x30, 0x39), (0x41, 0x46), (0x61, 0x66)]

/-- Hexadecimal digits, among them those of full width. -/
def hexDigit : CharTable := asciiHexDigit ++ [(0xff10, 0xff19), (0xff21, 0xff26), (0xff41, 0xff46)]

end ArtifactTrust.Property
