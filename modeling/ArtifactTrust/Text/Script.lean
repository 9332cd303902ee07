import ArtifactTrust.Text.CharTable

/-!
# Scripts

The scripts of Unicode 16, each with its names, in small letters and without separators (`Script.all`). A character has
one script; that of characters that several scripts use is *common* or *inherited*. Of some characters it is known which
scripts use them, and these are counted in the extension of a script (`Entry.extended`).
-/

namespace ArtifactTrust.Script

/-- A script: its names, its characters, and the characters of other scripts, most of them common or inherited, that are
known to be used in it. -/
structure Entry where
  names : List String
  characters : CharTable
  shared : CharTable

/-- The scripts. -/
def all : List Entry := [
  ⟨["adlm", "adlam"], .ofSteps
    ["125184 76 4 10 4 2"],
    [(0x61f, 0x61f), (0x640, 0x640), (0x204f, 0x204f), (0x2e41, 0x2e41)]⟩,
  ⟨["ahom"], .ofSteps
    ["71424 27 2 15 4 23"], []⟩,
  ⟨["hluw", "anatolianhieroglyphs"], .ofSteps
    ["82944 583"], []⟩,
  ⟨["arab", "arabic"], .ofSteps
    ["1536 5 1 6 1 14 1 3 1 32 1 10 11 26 1 108 1 34 80 48 240 31 1 2 5 75 1 29 62032 115 16 363 2 80 2 54 7 1",
    "32 16 112 5 1 135 3939 31 67 3 55 4 57088 4 1 27 1 2 1 1 2 1 1 10 1 4 1 1 1 1 6 1 4 1 1 1 1 1 1 3 1 2 1 1",
    "2 1 1 1 1 1 1 1 1 1 1 2 1 1 2 4 1 7 1 4 1 4 1 1 1 10 1 17 5 3 1 5 1 17 52 2"],
    .ofSteps ["1548 1 14 1 3 1 32 1 10 11 26 1 6622 1 3569 1 52988 2 1440 28"]⟩,
  ⟨["armn", "armenian"], .ofSteps
    ["1329 38 2 50 2 3 62851 5"],
    [(0x308, 0x308)]⟩,
  ⟨["avst", "avestan"], .ofSteps
    ["68352 54 3 7"],
    [(0xb7, 0xb7), (0x2e30, 0x2e31)]⟩,
  ⟨["bali", "balinese"], .ofSteps
    ["6912 77 1 50"], []⟩,
  ⟨["bamu", "bamum"], .ofSteps
    ["42656 88 49416 569"], []⟩,
  ⟨["bass", "bassavah"], .ofSteps
    ["92880 30 2 6"], []⟩,
  ⟨["batk", "batak"], .ofSteps
    ["7104 52 8 4"], []⟩,
  ⟨["beng", "bengali"], .ofSteps
    ["2432 4 1 8 2 2 2 22 1 7 1 1 3 4 2 9 2 2 2 4 8 1 4 2 1 5 2 25"],
    .ofSteps ["700 1 1684 2 17 2 4970 1 1 1 2 2 1 1 8 1 8 1 2 1 4 1 2 3 35833 1"]⟩,
  ⟨["bhks", "bhaiksuki"], .ofSteps
    ["72704 9 1 45 1 14 10 29"], []⟩,
  ⟨["bopo", "bopomofo"], .ofSteps
    ["746 2 11801 43 112 32"],
    .ofSteps ["711 1 1 3 13 1 11559 3 4 10 1 13 10 4 2 1 6 1 195 1 52553 2 282 5"]⟩,
  ⟨["brah", "brahmi"], .ofSteps
    ["69632 78 4 36 9 1"], []⟩,
  ⟨["brai", "braille"], .ofSteps
    ["10240 256"], []⟩,
  ⟨["bugi", "buginese"], .ofSteps
    ["6656 28 2 2"],
    [(0xa9cf, 0xa9cf)]⟩,
  ⟨["buhd", "buhid"], .ofSteps
    ["5952 20"],
    [(0x1735, 0x1736)]⟩,
  ⟨["cans", "canadianaboriginal"], .ofSteps
    ["5120 640 560 70 65978 16"], []⟩,
  ⟨["cari", "carian"], .ofSteps
    ["66208 49"],
    [(0xb7, 0xb7), (0x205a, 0x205a), (0x205d, 0x205d), (0x2e31, 0x2e31)]⟩,
  ⟨["aghb", "caucasianalbanian"], .ofSteps
    ["66864 52 11 1"],
    [(0x304, 0x304), (0x331, 0x331), (0x35e, 0x35e)]⟩,
  ⟨["cakm", "chakma"], .ofSteps
    ["69888 53 1 18"],
    [(0x9e6, 0x9ef), (0x1040, 0x1049)]⟩,
  ⟨["cham"], .ofSteps
    ["43520 55 9 14 2 10 2 4"], []⟩,
  ⟨["cher", "cherokee"], .ofSteps
    ["5024 86 2 6 38770 80"],
    [(0x300, 0x302), (0x304, 0x304), (0x30b, 0x30c), (0x323, 0x324), (0x330, 0x331)]⟩,
  ⟨["chrs", "chorasmian"], .ofSteps
    ["69552 28"], []⟩,
  ⟨["zyyy", "common"], .ofSteps
    ["0 65 26 6 26 47 1 15 1 5 23 1 31 1 449 39 5 5 2 20 116 1 9 1 6 1 1 1 637 1 6 1 14 1 3 1 32 1 156 1 516 1",
    "129 2 1241 1 405 4 290 1 1519 3 71 2 203 2 1 1 1229 1 13 1 7 4 1 6 1 3 2 1 773 12 2 87 1 11 3 11 1 15 17",
    "33 63 38 1 3 2 6 1 27 1 17 41 3 4 666 22 11 21 928 256 628 2 32 1 105 512 94 402 21 1 1 1 25 15 8 4 4 91",
    "2 3 1 90 2 147 16 32 38 9 1 48 64 31 81 47 1 88 168 6592 64 22784 34 102 3 165 10 244 1 160 1 395 1 14 2",
    "20946 2 208 10 22 35 1 19 1 4 147 1 1 32 26 6 26 11 10 1 45 2 64 7 1 7 10 5 258 3 4 45 3 9 80 13 51 45",
    "228 27 47524 4 3932 250 6 436 156 116 60 246 10 39 2 62 3 17 8 2 7 30 4 61 213 20 12 20 12 87 9 25 135 85",
    "1 71 1 2 2 1 2 2 2 4 1 12 1 1 1 7 1 65 1 4 2 8 1 7 1 28 1 4 1 5 1 1 3 7 1 340 2 292 2 50 5233 68 76 61",
    "706 44 4 100 12 15 2 15 1 15 1 37 10 174 56 26 1 2 13 44 4 9 7 2 14 6 154 984 4 17 3 13 3 119 4 95 6 12 4",
    "1 15 12 4 56 8 10 6 40 8 30 2 12 4 2 62 340 12 14 2 13 3 10 5 56 7 15 2 11 6 9 7 147 1 102 787463 1 30 96"], []⟩,
  ⟨["copt", "coptic", "qaac"], .ofSteps
    ["994 14 10384 116 5 7"],
    .ofSteps ["183 1 584 1 3 2 1 1 108 2 10913 1 54472 28"]⟩,
  ⟨["xsux", "cuneiform"], .ofSteps
    ["73728 922 102 111 1 5 11 196"], []⟩,
  ⟨["cprt", "cypriot"], .ofSteps
    ["67584 6 2 1 1 44 1 2 3 1 2 1"],
    [(0x10100, 0x10102), (0x10107, 0x10133), (0x10137, 0x1013f)]⟩,
  ⟨["cpmn", "cyprominoan"], .ofSteps
    ["77712 99"],
    [(0x10100, 0x10101)]⟩,
  ⟨["cyrl", "cyrillic"], .ofSteps
    ["1024 133 2 169 5968 11 160 1 76 1 4199 32 30784 96 22414 2 57856 62 33 1"],
    .ofSteps ["700 1 67 3 1 1 1 1 1 1 2 1 5 1 371 2 6513 1 4170 1"]⟩,
  ⟨["dsrt", "deseret"], .ofSteps
    ["66560 80"], []⟩,
  ⟨["deva", "devanagari"], .ofSteps
    ["2304 81 4 15 2 26 40800 32 29184 10"],
    .ofSteps ["700 1 1684 2 17 2 4970 39 1 2 1014 1 34623 10"]⟩,
  ⟨["diak", "divesakuru"], .ofSteps
    ["71936 7 2 1 2 8 1 2 1 30 1 2 2 12 9 10"], []⟩,
  ⟨["dogr", "dogra"], .ofSteps
    ["71680 60"],
    [(0x964, 0x96f), (0xa830, 0xa839)]⟩,
  ⟨["dupl", "duployan"], .ofSteps
    ["113664 107 5 13 3 9 7 10 2 4"],
    [(0xb7, 0xb7), (0x307, 0x308), (0x30a, 0x30a), (0x323, 0x324), (0x2e3c, 0x2e3c), (0x1bca0, 0x1bca3)]⟩,
  ⟨["egyp", "egyptianhieroglyphs"], .ofSteps
    ["77824 1110 10 3995"], []⟩,
  ⟨["elba", "elbasan"], .ofSteps
    ["66816 40"],
    [(0xb7, 0xb7), (0x305, 0x305)]⟩,
  ⟨["elym", "elymaic"], .ofSteps
    ["69600 23"], []⟩,
  ⟨["ethi", "ethiopic"], .ofSteps
    ["4608 73 1 4 2 7 1 1 1 4 2 41 1 4 2 33 1 4 2 7 1 1 1 4 2 15 1 57 1 4 2 67 2 32 3 26 6630 23 9 7 1 7 1 7 1",
    "7 1 7 1 7 1 7 1 7 32034 6 2 6 2 6 9 7 1 7 81073 7 1 4 1 2 1 15"],
    [(0x30e, 0x30e)]⟩,
  ⟨["gara", "garay"], .ofSteps
    ["68928 38 3 29 8 2"],
    [(0x60c, 0x60c), (0x61b, 0x61b), (0x61f, 0x61f)]⟩,
  ⟨["geor", "georgian"], .ofSteps
    ["4256 38 1 1 5 1 2 43 1 4 2960 43 2 3 4160 38 1 1 5 1"],
    [(0xb7, 0xb7), (0x589, 0x589), (0x10fb, 0x10fb), (0x205a, 0x205a), (0x2e31, 0x2e31)]⟩,
  ⟨["glag", "glagolitic"], .ofSteps
    ["11264 96 111520 7 1 17 2 7 1 2 1 5"],
    .ofSteps ["183 1 587 1 1 1 382 1 2 1 257 1 2929 1 3934 1 3560 1 30763 1"]⟩,
  ⟨["goth", "gothic"], .ofSteps
    ["66352 27"],
    [(0xb7, 0xb7), (0x304, 0x305), (0x308, 0x308), (0x331, 0x331)]⟩,
  ⟨["gran", "grantha"], .ofSteps
    ["70400 4 1 8 2 2 2 22 1 7 1 2 1 5 2 9 2 2 2 3 2 1 6 1 5 7 2 7 3 5"],
    .ofSteps ["2385 2 17 2 640 14 4316 1 1 2 30 3 3 2 1014 1 62026 1 3220 2 1 1"]⟩,
  ⟨["grek", "greek"], .ofSteps
    ["880 4 1 3 2 4 1 1 4 1 1 1 1 3 1 1 1 20 1 63 14 16 6438 5 50 5 4 5 84 1 320 22 2 6 2 38 2 6 2 8 1 1 1 1 1",
    "1 1 31 2 53 1 15 1 14 2 6 1 19 2 3 1 9 295 1 35390 1 21978 79 17 1 53343 70"],
    .ofSteps ["183 1 584 2 2 1 1 1 1 1 10 1 46 1 2 1 46 1 6731 2 667 1"]⟩,
  ⟨["gujr", "gujarati"], .ofSteps
    ["2689 3 1 9 1 3 1 22 1 7 1 2 1 5 2 10 1 3 1 3 2 1 15 4 2 12 7 7"],
    [(0x951, 0x952), (0x964, 0x965), (0xa830, 0xa839)]⟩,
  ⟨["gong", "gunjalagondi"], .ofSteps
    ["73056 6 1 2 1 37 1 2 1 6 7 10"],
    [(0xb7, 0xb7), (0x964, 0x965)]⟩,
  ⟨["guru", "gurmukhi"], .ofSteps
    ["2561 3 1 6 4 2 2 22 1 7 1 2 1 2 1 2 2 1 1 5 4 2 2 3 3 1 7 4 1 1 7 17"],
    [(0x951, 0x952), (0x964, 0x965), (0xa830, 0xa839)]⟩,
  ⟨["gukh", "gurungkhema"], .ofSteps
    ["90368 58"],
    [(0x965, 0x965)]⟩,
  ⟨["hani", "han"], .ofSteps
    ["11904 26 1 89 12 214 47 1 1 1 25 9 14 4 964 6592 64 20992 22784 366 2 106 29960 2 12 2 36878 42720 32",
    "4154 6 222 2 5762 14 7473 15 622 2466 542 1506 4939 5 4192"],
    .ofSteps ["183 1 12088 16 1 3 2 1 1 10 1 13 10 4 2 1 6 1 4 4 187 1 148 16 32 38 9 1 48 40 56 49 15 12 51 1 88 25 10",
      "5 96 31 29441 8 22333 2 282 5 54266 18 7902 2"]⟩,
  ⟨["hang", "hangul"], .ofSteps
    ["4352 256 7726 2 257 94 113 31 65 31 30433 29 643 11172 12 23 4 49 10148 31 3 6 2 6 2 6 2 3"],
    .ofSteps ["12289 3 4 10 1 13 16 1 6 1 195 1 52553 2 282 5"]⟩,
  ⟨["rohg", "hanifirohingya"], .ofSteps
    ["68864 40 8 10"],
    [(0x60c, 0x60c), (0x61b, 0x61b), (0x61f, 0x61f), (0x640, 0x640), (0x6d4, 0x6d4)]⟩,
  ⟨["hano", "hanunoo"], .ofSteps
    ["5920 21"],
    [(0x1735, 0x1736)]⟩,
  ⟨["hatr", "hatran"], .ofSteps
    ["67808 19 1 2 5 5"], []⟩,
  ⟨["hebr", "hebrew"], .ofSteps
    ["1425 55 8 27 4 6 62760 26 1 5 1 1 1 2 1 2 1 10"],
    [(0x307, 0x308)]⟩,
  ⟨["hira", "hiragana"], .ofSteps
    ["12353 86 6 3 98145 287 18 1 29 3 16557 1"],
    .ofSteps ["12289 3 4 10 1 13 16 6 1 1 4 2 91 4 3 1 90 2 52552 2 282 5 10 1 45 2"]⟩,
  ⟨["armi", "imperialaramaic"], .ofSteps
    ["67648 22 1 9"], []⟩,
  ⟨["zinh", "inherited", "qaai"], .ofSteps
    ["768 112 277 2 452 11 26 1 736 4 4443 31 513 3 1 13 1 7 4 1 6 1 3 2 198 64 524 2 194 33 3897 4 107 2 52581",
    "16 16 14 975 1 226 1 4186 1 48068 46 2 23 544 3 17 8 2 7 30 4 798546 240"], []⟩,
  ⟨["phli", "inscriptionalpahlavi"], .ofSteps
    ["68448 19 5 8"], []⟩,
  ⟨["prti", "inscriptionalparthian"], .ofSteps
    ["68416 22 2 8"], []⟩,
  ⟨["java", "javanese"], .ofSteps
    ["43392 78 2 10 4 2"],
    [(0xa9cf, 0xa9cf)]⟩,
  ⟨["kthi", "kaithi"], .ofSteps
    ["69760 67 10 1"],
    [(0x966, 0x96f), (0x2e31, 0x2e31), (0xa830, 0xa839)]⟩,
  ⟨["knda", "kannada"], .ofSteps
    ["3200 13 1 3 1 23 1 10 1 5 2 9 1 3 1 4 7 2 6 2 1 4 2 10 1 3"],
    .ofSteps ["2385 2 17 2 4970 1 1 2 6 1 23 1 1 1 35643 6"]⟩,
  ⟨["kana", "katakana"], .ofSteps
    ["12449 90 2 3 240 16 208 47 1 88 52238 10 1 45 45138 4 1 7 1 2 1 1 287 3 50 1 14 4"],
    .ofSteps ["773 1 29 1 11485 3 4 10 1 13 16 6 1 1 4 2 91 4 3 1 90 2 52552 2 282 5 10 1 45 2"]⟩,
  ⟨["kawi"], .ofSteps
    ["73472 17 1 41 3 29"], []⟩,
  ⟨["kali", "kayahli"], .ofSteps
    ["43264 46 1 1"],
    [(0xa92e, 0xa92e)]⟩,
  ⟨["khar", "kharoshthi"], .ofSteps
    ["68096 4 1 2 5 8 1 3 1 29 2 3 4 10 7 9"], []⟩,
  ⟨["kits", "khitansmallscript"], .ofSteps
    ["94180 1 6939 470 41 1"], []⟩,
  ⟨["khmr", "khmer"], .ofSteps
    ["6016 94 2 10 6 10 486 32"], []⟩,
  ⟨["khoj", "khojki"], .ofSteps
    ["70144 18 1 47"],
    [(0xae6, 0xaef), (0xa830, 0xa839)]⟩,
  ⟨["sind", "khudawadi"], .ofSteps
    ["70320 59 5 10"],
    [(0x964, 0x965), (0xa830, 0xa839)]⟩,
  ⟨["krai", "kiratrai"], .ofSteps
    ["93504 58"], []⟩,
  ⟨["laoo", "lao"], .ofSteps
    ["3713 2 1 1 1 5 1 24 1 1 1 23 2 5 1 1 1 7 1 10 2 4"], []⟩,
  ⟨["latn", "latin"], .ofSteps
    ["65 26 6 26 47 1 15 1 5 23 1 31 1 449 39 5 6683 38 6 49 5 4 5 13 1 70 65 256 369 1 13 1 16 13 141 2 6 1 27",
    "1 17 41 2775 32 31394 102 3 67 2 2 1 1 1 8 21 14 816 43 1 9 1 4 20374 7 1050 26 6 26 2085 6 1 42 1 9",
    "55109 31 6 6"],
    .ofSteps ["183 1 516 1 10 1 1 3 1 1 9 1 1 1 38 15 1 2 1 1 15 3 7 2 1 2 38 1 5 1 4 13 277 2 1226 2 1960 1 3324 1 566",
      "1 192 1 3366 1 30952 8 550 1"]⟩,
  ⟨["lepc", "lepcha"], .ofSteps
    ["7168 56 3 15 3 3"], []⟩,
  ⟨["limb", "limbu"], .ofSteps
    ["6400 31 1 12 4 12 4 1 3 12"],
    [(0x965, 0x965)]⟩,
  ⟨["lina", "lineara"], .ofSteps
    ["67072 311 9 22 10 8"],
    [(0x10107, 0x10133)]⟩,
  ⟨["linb", "linearb"], .ofSteps
    ["65536 12 1 26 1 19 1 2 1 15 2 14 34 123"],
    [(0x10100, 0x10102), (0x10107, 0x10133), (0x10137, 0x1013f)]⟩,
  ⟨["lisu"], .ofSteps
    ["42192 48 31408 1"],
    [(0x2bc, 0x2bc), (0x2cd, 0x2cd), (0x300a, 0x300b)]⟩,
  ⟨["lyci", "lycian"], .ofSteps
    ["66176 29"],
    [(0x205a, 0x205a)]⟩,
  ⟨["lydi", "lydian"], .ofSteps
    ["67872 26 5 1"],
    [(0xb7, 0xb7), (0x2e31, 0x2e31)]⟩,
  ⟨["mahj", "mahajani"], .ofSteps
    ["69968 39"],
    [(0xb7, 0xb7), (0x964, 0x96f), (0xa830, 0xa839)]⟩,
  ⟨["maka", "makasar"], .ofSteps
    ["73440 25"], []⟩,
  ⟨["mlym", "malayalam"], .ofSteps
    ["3328 13 1 3 1 51 1 3 1 6 4 16 2 26"],
    [(0x951, 0x952), (0x964, 0x965), (0x1cda, 0x1cda), (0x1cf2, 0x1cf2), (0xa830, 0xa832)]⟩,
  ⟨["mand", "mandaic"], .ofSteps
    ["2112 28 2 1"],
    [(0x640, 0x640)]⟩,
  ⟨["mani", "manichaean"], .ofSteps
    ["68288 39 4 12"],
    [(0x640, 0x640)]⟩,
  ⟨["marc", "marchen"], .ofSteps
    ["72816 32 2 22 1 14"], []⟩,
  ⟨["gonm", "masaramgondi"], .ofSteps
    ["72960 7 1 2 1 44 3 1 1 2 1 9 8 10"],
    [(0x964, 0x965)]⟩,
  ⟨["medf", "medefaidrin"], .ofSteps
    ["93760 91"], []⟩,
  ⟨["mtei", "meeteimayek"], .ofSteps
    ["43744 23 201 46 2 10"], []⟩,
  ⟨["mend", "mendekikakui"], .ofSteps
    ["124928 197 2 16"], []⟩,
  ⟨["merc", "meroiticcursive"], .ofSteps
    ["68000 24 4 20 2 46"], []⟩,
  ⟨["mero", "meroitichieroglyphs"], .ofSteps
    ["67968 32"],
    [(0x205d, 0x205d)]⟩,
  ⟨["plrd", "miao"], .ofSteps
    ["93952 75 4 57 7 17"], []⟩,
  ⟨["modi"], .ofSteps
    ["71168 69 11 10"],
    [(0xa830, 0xa839)]⟩,
  ⟨["mong", "mongolian"], .ofSteps
    ["6144 2 2 1 1 20 6 89 7 43 64949 13"],
    [(0x1802, 0x1803), (0x1805, 0x1805), (0x202f, 0x202f), (0x3001, 0x3002), (0x3008, 0x300b)]⟩,
  ⟨["mroo", "mro"], .ofSteps
    ["92736 31 1 10 4 2"], []⟩,
  ⟨["mult", "multani"], .ofSteps
    ["70272 7 1 1 1 4 1 15 1 11"],
    [(0xa66, 0xa6f)]⟩,
  ⟨["mymr", "myanmar"], .ofSteps
    ["4096 160 39232 31 97 32 27728 20"],
    [(0xa92e, 0xa92e)]⟩,
  ⟨["nbat", "nabataean"], .ofSteps
    ["67712 31 8 9"], []⟩,
  ⟨["nagm", "nagmundari"], .ofSteps
    ["124112 42"], []⟩,
  ⟨["nand", "nandinagari"], .ofSteps
    ["72096 8 2 46 2 11"],
    .ofSteps ["2385 1 18 2 896 10 4089 1 8 1 7 1 35637 6"]⟩,
  ⟨["newa"], .ofSteps
    ["70656 92 1 5"],
    .ofSteps ["2385 2 4994 1 1 2 9 1 6 1 1 1 1 1"]⟩,
  ⟨["talu", "newtailue"], .ofSteps
    ["6528 44 4 26 6 11 3 2"], []⟩,
  ⟨["nkoo", "nko"], .ofSteps
    ["1984 59 2 3"],
    [(0x60c, 0x60c), (0x61b, 0x61b), (0x61f, 0x61f), (0xfd3e, 0xfd3f)]⟩,
  ⟨["nshu", "nushu"], .ofSteps
    ["94177 1 16782 396"], []⟩,
  ⟨["hmnp", "nyiakengpuachuehmong"], .ofSteps
    ["123136 45 3 14 2 10 4 2"], []⟩,
  ⟨["ogam", "ogham"], .ofSteps
    ["5760 29"], []⟩,
  ⟨["olck", "olchiki"], .ofSteps
    ["7248 48"], []⟩,
  ⟨["hung", "oldhungarian"], .ofSteps
    ["68736 51 13 51 7 6"],
    [(0x205a, 0x205a), (0x205d, 0x205d), (0x2e31, 0x2e31), (0x2e41, 0x2e41)]⟩,
  ⟨["ital", "olditalic"], .ofSteps
    ["66304 36 9 3"], []⟩,
  ⟨["narb", "oldnortharabian"], .ofSteps
    ["68224 32"], []⟩,
  ⟨["perm", "oldpermic"], .ofSteps
    ["66384 43"],
    [(0xb7, 0xb7), (0x300, 0x300), (0x306, 0x308), (0x313, 0x313), (0x483, 0x483)]⟩,
  ⟨["xpeo", "oldpersian"], .ofSteps
    ["66464 36 4 14"], []⟩,
  ⟨["sogo", "oldsogdian"], .ofSteps
    ["69376 40"], []⟩,
  ⟨["sarb", "oldsoutharabian"], .ofSteps
    ["68192 32"], []⟩,
  ⟨["orkh", "oldturkic"], .ofSteps
    ["68608 73"],
    [(0x205a, 0x205a), (0x2e30, 0x2e30)]⟩,
  ⟨["ougr", "olduyghur"], .ofSteps
    ["69488 26"],
    [(0x640, 0x640), (0x10af2, 0x10af2)]⟩,
  ⟨["onao", "olonal"], .ofSteps
    ["124368 43 4 1"],
    [(0x964, 0x965)]⟩,
  ⟨["orya", "oriya"], .ofSteps
    ["2817 3 1 8 2 2 2 22 1 7 1 2 1 5 2 9 2 2 2 3 7 3 4 2 1 5 2 18"],
    [(0x951, 0x952), (0x964, 0x965), (0x1cda, 0x1cda), (0x1cf2, 0x1cf2)]⟩,
  ⟨["osge", "osage"], .ofSteps
    ["66736 36 4 36"],
    [(0x301, 0x301), (0x304, 0x304), (0x30b, 0x30b), (0x358, 0x358)]⟩,
  ⟨["osma", "osmanya"], .ofSteps
    ["66688 30 2 10"], []⟩,
  ⟨["hmng", "pahawhhmong"], .ofSteps
    ["92928 70 10 10 1 7 1 21 5 19"], []⟩,
  ⟨["palm", "palmyrene"], .ofSteps
    ["67680 32"], []⟩,
  ⟨["pauc", "paucinhau"], .ofSteps
    ["72384 57"], []⟩,
  ⟨["phag", "phagspa"], .ofSteps
    ["43072 56"],
    [(0x1802, 0x1803), (0x1805, 0x1805), (0x202f, 0x202f), (0x3002, 0x3002)]⟩,
  ⟨["phnx", "phoenician"], .ofSteps
    ["67840 28 3 1"], []⟩,
  ⟨["phlp", "psalterpahlavi"], .ofSteps
    ["68480 18 7 4 12 7"],
    [(0x640, 0x640)]⟩,
  ⟨["rjng", "rejang"], .ofSteps
    ["43312 36 11 1"], []⟩,
  ⟨["runr", "runic"], .ofSteps
    ["5792 75 3 11"],
    [(0x16eb, 0x16ed)]⟩,
  ⟨["samr", "samaritan"], .ofSteps
    ["2048 46 2 15"],
    [(0x2e31, 0x2e31)]⟩,
  ⟨["saur", "saurashtra"], .ofSteps
    ["43136 70 8 12"], []⟩,
  ⟨["shrd", "sharada"], .ofSteps
    ["70016 96"],
    .ofSteps ["2385 1 4997 1 1 1 2 2 2 1 9 1 2 1 35650 6 2 1"]⟩,
  ⟨["shaw", "shavian"], .ofSteps
    ["66640 48"],
    [(0xb7, 0xb7)]⟩,
  ⟨["sidd", "siddham"], .ofSteps
    ["71040 54 2 38"], []⟩,
  ⟨["sgnw", "signwriting"], .ofSteps
    ["120832 652 15 5 1 15"], []⟩,
  ⟨["sinh", "sinhala"], .ofSteps
    ["3457 3 1 18 3 24 1 9 1 1 2 7 3 1 4 6 1 1 1 8 6 10 2 3 66540 20"],
    [(0x964, 0x965), (0x1cf2, 0x1cf2)]⟩,
  ⟨["sogd", "sogdian"], .ofSteps
    ["69424 42"],
    [(0x640, 0x640)]⟩,
  ⟨["sora", "sorasompeng"], .ofSteps
    ["69840 25 7 10"], []⟩,
  ⟨["soyo", "soyombo"], .ofSteps
    ["72272 83"], []⟩,
  ⟨["sund", "sundanese"], .ofSteps
    ["7040 64 256 8"], []⟩,
  ⟨["sunu", "sunuwar"], .ofSteps
    ["72640 34 14 10"],
    [(0x300, 0x301), (0x303, 0x303), (0x30d, 0x30d), (0x310, 0x310), (0x32d, 0x32d), (0x331, 0x331)]⟩,
  ⟨["sylo", "sylotinagri"], .ofSteps
    ["43008 45"],
    [(0x964, 0x965), (0x9e6, 0x9ef)]⟩,
  ⟨["syrc", "syriac"], .ofSteps
    ["1792 14 1 60 2 3 272 11"],
    .ofSteps ["771 2 2 2 1 1 24 3 7 2 1 2 730 1 14 2 2 1 32 1 10 11 26 1 6023 1 1 1"]⟩,
  ⟨["tglg", "tagalog"], .ofSteps
    ["5888 22 9 1"],
    [(0x1735, 0x1736)]⟩,
  ⟨["tagb", "tagbanwa"], .ofSteps
    ["5984 13 1 3 1 2"],
    [(0x1735, 0x1736)]⟩,
  ⟨["tale", "taile"], .ofSteps
    ["6480 30 2 5"],
    [(0x300, 0x301), (0x307, 0x308), (0x30c, 0x30c), (0x1040, 0x1049)]⟩,
  ⟨["lana", "taitham"], .ofSteps
    ["6688 63 1 29 2 11 6 10 6 14"], []⟩,
  ⟨["tavt", "taiviet"], .ofSteps
    ["43648 67 24 5"], []⟩,
  ⟨["takr", "takri"], .ofSteps
    ["71296 58 6 10"],
    [(0x964, 0x965), (0xa830, 0xa839)]⟩,
  ⟨["taml", "tamil"], .ofSteps
    ["2946 2 1 6 3 3 1 4 3 2 1 1 1 2 3 2 3 3 3 12 4 5 3 3 1 4 2 1 6 1 14 21 70597 50 13 1"],
    .ofSteps ["2385 2 17 2 4980 1 35864 1 27149 1 1 1 55 2"]⟩,
  ⟨["tnsa", "tangsa"], .ofSteps
    ["92784 79 1 10"], []⟩,
  ⟨["tang", "tangut"], .ofSteps
    ["94176 1 31 6136 8 768 512 9"],
    [(0x2ff0, 0x2fff), (0x31ef, 0x31ef)]⟩,
  ⟨["telu", "telugu"], .ofSteps
    ["3072 13 1 3 1 23 1 16 2 9 1 3 1 4 7 2 1 3 2 1 2 4 2 10 7 9"],
    .ofSteps ["2385 2 17 2 4975 2 1 1 1 1 23 1"]⟩,
  ⟨["thaa", "thaana"], .ofSteps
    ["1920 50"],
    [(0x60c, 0x60c), (0x61b, 0x61c), (0x61f, 0x61f), (0x660, 0x669), (0xfdf2, 0xfdf2), (0xfdfd, 0xfdfd)]⟩,
  ⟨["thai"], .ofSteps
    ["3585 58 5 28"],
    [(0x2bc, 0x2bc), (0x2d7, 0x2d7), (0x303, 0x303), (0x331, 0x331)]⟩,
  ⟨["tibt", "tibetan"], .ofSteps
    ["3840 72 1 36 4 39 1 36 1 15 1 7 4 2"],
    [(0x3008, 0x300b)]⟩,
  ⟨["tfng", "tifinagh"], .ofSteps
    ["11568 56 7 2 14 1"],
    [(0x302, 0x302), (0x304, 0x304), (0x306, 0x309), (0x323, 0x323)]⟩,
  ⟨["tirh", "tirhuta"], .ofSteps
    ["70784 72 8 10"],
    .ofSteps ["2385 2 17 2 4975 1 12 1 15 1 35645 10"]⟩,
  ⟨["todr", "todhri"], .ofSteps
    ["67008 52"],
    [(0x301, 0x301), (0x304, 0x304), (0x307, 0x307), (0x311, 0x311), (0x313, 0x313), (0x35e, 0x35e)]⟩,
  ⟨["toto"], .ofSteps
    ["123536 31"],
    [(0x2bc, 0x2bc)]⟩,
  ⟨["tutg", "tulutigalari"], .ofSteps
    ["70528 10 1 1 2 1 1 38 1 10 1 1 2 1 1 4 1 10 1 2 8 2"],
    [(0xce6, 0xcef), (0x1cf2, 0x1cf2), (0x1cf4, 0x1cf4), (0xa830, 0xa835), (0xa8f1, 0xa8f1)]⟩,
  ⟨["ugar", "ugaritic"], .ofSteps
    ["66432 30 1 1"], []⟩,
  ⟨["vaii", "vai"], .ofSteps
    ["42240 300"], []⟩,
  ⟨["vith", "vithkuqi"], .ofSteps
    ["66928 11 1 15 1 7 1 2 1 11 1 15 1 7 1 2"], []⟩,
  ⟨["wcho", "wancho"], .ofSteps
    ["123584 58 5 1"], []⟩,
  ⟨["wara", "warangciti"], .ofSteps
    ["71840 83 12 1"], []⟩,
  ⟨["yezi", "yezidi"], .ofSteps
    ["69248 42 1 3 2 2"],
    [(0x60c, 0x60c), (0x61b, 0x61b), (0x61f, 0x61f), (0x660, 0x669)]⟩,
  ⟨["yiii", "yi"], .ofSteps
    ["40960 1165 3 55"],
    [(0x3001, 0x3002), (0x3008, 0x3011), (0x3014, 0x301b), (0x30fb, 0x30fb), (0xff61, 0xff65)]⟩,
  ⟨["zanb", "zanabazarsquare"], .ofSteps
    ["72192 72"], []⟩]

/-- The characters of the script of a name. -/
def charactersOf (name : String) : CharTable := ((all.find? (·.names.contains name)).map (·.characters)).getD []

/-- The characters of which it is known that other scripts than their own use them. -/
def sharedByAny : CharTable := all.flatMap (·.shared)

/-- The extension of a script: the characters that it uses. A common or inherited character of which it is known which
scripts use it is no longer common or inherited. -/
def Entry.extended (e : Entry) : CharTable :=
  if e.names.contains "common" ∨ e.names.contains "inherited" then e.characters.without sharedByAny
  else e.characters ++ e.shared

end ArtifactTrust.Script
