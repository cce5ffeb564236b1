import ScriptReview.Unicode.Runs

/-!
# Unicode scripts

The script of a character is the writing system it belongs to. A script is asked for by its name or
by its four-letter code.

Main definition: `Script.named?` finds the ranges that a loosely spelled script name stands for.
-/

namespace ScriptReview
namespace Unicode
namespace Script

/-- The characters of each script, as run lengths. -/
def table : List (String × List String) := [
  ("adlam",
    ["1e900 4c 4 a 4 2"]),
  ("caucasianalbanian",
    ["10530 34 b 1"]),
  ("ahom",
    ["11700 1b 2 f 4 17"]),
  ("arabic",
    ["600 5 1 6 1 e 1 3 1 20 1 a b 1a 1 6c 1 22 50 30 f0 22 5 4b 1 1d f250 1ee 2 90 20 10 70 5",
     "1 87 f63 1f 43 6 8 9 21 6 df00 4 1 1b 1 2 1 1 2 1 1 a 1 4 1 1 1 1 6 1 4 1 1 1 1 1 1 3 1 2",
     "1 1 2 1 1 1 1 1 1 1 1 1 1 2 1 1 2 4 1 7 1 4 1 4 1 1 1 a 1 11 5 3 1 5 1 11 34 2"]),
  ("imperialaramaic",
    ["10840 16 1 9"]),
  ("armenian",
    ["531 26 2 32 2 3 f583 5"]),
  ("avestan",
    ["10b00 36 3 7"]),
  ("balinese",
    ["1b00 4d 1 32"]),
  ("bamum",
    ["a6a0 58 c108 239"]),
  ("bassavah",
    ["16ad0 1e 2 6"]),
  ("batak",
    ["1bc0 34 8 4"]),
  ("bengali",
    ["980 4 1 8 2 2 2 16 1 7 1 1 3 4 2 9 2 2 2 4 8 1 4 2 1 5 2 19"]),
  ("bhaiksuki",
    ["11c00 9 1 2d 1 e a 1d"]),
  ("bopomofo",
    ["2ea 2 2e19 2b 70 20"]),
  ("brahmi",
    ["11000 4e 4 24 9 1"]),
  ("braille",
    ["2800 100"]),
  ("buginese",
    ["1a00 1c 2 2"]),
  ("buhid",
    ["1740 14"]),
  ("chakma",
    ["11100 35 1 12"]),
  ("canadianaboriginal",
    ["1400 280 230 46 101ba 10"]),
  ("carian",
    ["102a0 31"]),
  ("cham",
    ["aa00 37 9 e 2 a 2 4"]),
  ("cherokee",
    ["13a0 56 2 6 9772 50"]),
  ("chorasmian",
    ["10fb0 1c"]),
  ("coptic",
    ["3e2 e 2890 74 5 7"]),
  ("cyprominoan",
    ["12f90 63"]),
  ("cypriot",
    ["10800 6 2 1 1 2c 1 2 3 1 2 1"]),
  ("cyrillic",
    ["400 85 2 a9 1750 b a0 1 4c 1 1067 20 7840 60 578e 2 e200 3e 21 1"]),
  ("devanagari",
    ["900 51 4 f 2 1a 9f60 20 7200 a"]),
  ("divesakuru",
    ["11900 7 2 1 2 8 1 2 1 1e 1 2 2 c 9 a"]),
  ("dogra",
    ["11800 3c"]),
  ("deseret",
    ["10400 50"]),
  ("duployan",
    ["1bc00 6b 5 d 3 9 7 a 2 4"]),
  ("egyptianhieroglyphs",
    ["13000 456 a f9b"]),
  ("elbasan",
    ["10500 28"]),
  ("elymaic",
    ["10fe0 17"]),
  ("ethiopic",
    ["1200 49 1 4 2 7 1 1 1 4 2 29 1 4 2 21 1 4 2 7 1 1 1 4 2 f 1 39 1 4 2 43 2 20 3 1a 19e6 17",
     "9 7 1 7 1 7 1 7 1 7 1 7 1 7 1 7 7d22 6 2 6 2 6 9 7 1 7 13cb1 7 1 4 1 2 1 f"]),
  ("georgian",
    ["10a0 26 1 1 5 1 2 2b 1 4 b90 2b 2 3 1040 26 1 1 5 1"]),
  ("glagolitic",
    ["2c00 60 1b3a0 7 1 11 2 7 1 2 1 5"]),
  ("gunjalagondi",
    ["11d60 6 1 2 1 25 1 2 1 6 7 a"]),
  ("masaramgondi",
    ["11d00 7 1 2 1 2c 3 1 1 2 1 9 8 a"]),
  ("gothic",
    ["10330 1b"]),
  ("grantha",
    ["11300 4 1 8 2 2 2 16 1 7 1 2 1 5 2 9 2 2 2 3 2 1 6 1 5 7 2 7 3 5"]),
  ("greek",
    ["370 4 1 3 2 4 1 1 4 1 1 1 1 3 1 1 1 14 1 3f e 10 1926 5 32 5 4 5 54 1 140 16 2 6 2 26 2 6",
     "2 8 1 1 1 1 1 1 1 1f 2 35 1 f 1 e 2 6 1 13 2 3 1 9 127 1 8a3e 1 55da 4f 11 1 d05f 46"]),
  ("gujarati",
    ["a81 3 1 9 1 3 1 16 1 7 1 2 1 5 2 a 1 3 1 3 2 1 f 4 2 c 7 7"]),
  ("gurmukhi",
    ["a01 3 1 6 4 2 2 16 1 7 1 2 1 2 1 2 2 1 1 5 4 2 2 3 3 1 7 4 1 1 7 11"]),
  ("hangul",
    ["1100 100 1e2e 2 101 5e 71 1f 41 1f 76e1 1d 283 2ba4 c 17 4 31 27a4 1f 3 6 2 6 2 6 2 3"]),
  ("han",
    ["2e80 1a 1 59 c d6 2f 1 1 1 19 9 e 4 3c4 19c0 40 5200 5900 16e 2 6a 7508 2 c 7 9009 a6e0",
     "20 111e 2 168e 2 1d31 f 26e 9a2 21e 5e2 134b 5 212a"]),
  ("hanunoo",
    ["1720 15"]),
  ("hatran",
    ["108e0 13 1 2 5 5"]),
  ("hebrew",
    ["591 37 8 1b 4 6 f528 1a 1 5 1 1 1 2 1 2 1 a"]),
  ("hiragana",
    ["3041 56 6 3 17f61 11f 12 1 1d 3 40ad 1"]),
  ("anatolianhieroglyphs",
    ["14400 247"]),
  ("pahawhhmong",
    ["16b00 46 a a 1 7 1 15 5 13"]),
  ("nyiakengpuachuehmong",
    ["1e100 2d 3 e 2 a 4 2"]),
  ("oldhungarian",
    ["10c80 33 d 33 7 6"]),
  ("olditalic",
    ["10300 24 9 3"]),
  ("javanese",
    ["a980 4e 2 a 4 2"]),
  ("kayahli",
    ["a900 2e 1 1"]),
  ("katakana",
    ["30a1 5a 2 3 f0 10 d0 2f 1 58 cc0e a 1 2d b052 4 1 7 1 2 1 1 11f 3 32 1 e 4"]),
  ("kawi",
    ["11f00 11 1 29 3 1d"]),
  ("kharoshthi",
    ["10a00 4 1 2 5 8 1 3 1 1d 2 3 4 a 7 9"]),
  ("khmer",
    ["1780 5e 2 a 6 a 1e6 20"]),
  ("khojki",
    ["11200 12 1 2f"]),
  ("khitansmallscript",
    ["16fe4 1 1b1b 1d6 29 1"]),
  ("kannada",
    ["c80 d 1 3 1 17 1 a 1 5 2 9 1 3 1 4 7 2 5 3 1 4 2 a 1 3"]),
  ("kaithi",
    ["11080 43 a 1"]),
  ("taitham",
    ["1a20 3f 1 1d 2 b 6 a 6 e"]),
  ("lao",
    ["e81 2 1 1 1 5 1 18 1 1 1 17 2 5 1 1 1 7 1 a 2 4"]),
  ("latin",
    ["41 1a 6 1a 2f 1 f 1 5 17 1 1f 1 1c1 27 5 1a1b 26 6 31 5 4 5 d 1 46 41 100 171 1 d 1 10 d",
     "8d 2 6 1 1b 1 11 29 ad7 20 7aa2 66 3 52 14 f 330 2b 1 9 1 4 4f96 7 41a 1a 6 1a 825 6 1 2a",
     "1 9 d745 1f 6 6"]),
  ("lepcha",
    ["1c00 38 3 f 3 3"]),
  ("limbu",
    ["1900 1f 1 c 4 c 4 1 3 c"]),
  ("lineara",
    ["10600 137 9 16 a 8"]),
  ("linearb",
    ["10000 c 1 1a 1 13 1 2 1 f 2 e 22 7b"]),
  ("lisu",
    ["a4d0 30 7ab0 1"]),
  ("lycian",
    ["10280 1d"]),
  ("lydian",
    ["10920 1a 5 1"]),
  ("mahajani",
    ["11150 27"]),
  ("makasar",
    ["11ee0 19"]),
  ("mandaic",
    ["840 1c 2 1"]),
  ("manichaean",
    ["10ac0 27 4 c"]),
  ("marchen",
    ["11c70 20 2 16 1 e"]),
  ("medefaidrin",
    ["16e40 5b"]),
  ("mendekikakui",
    ["1e800 c5 2 10"]),
  ("meroiticcursive",
    ["109a0 18 4 14 2 2e"]),
  ("meroitichieroglyphs",
    ["10980 20"]),
  ("malayalam",
    ["d00 d 1 3 1 33 1 3 1 6 4 10 2 1a"]),
  ("modi",
    ["11600 45 b a"]),
  ("mongolian",
    ["1800 2 2 1 1 14 6 59 7 2b fdb5 d"]),
  ("mro",
    ["16a40 1f 1 a 4 2"]),
  ("meeteimayek",
    ["aae0 17 c9 2e 2 a"]),
  ("multani",
    ["11280 7 1 1 1 4 1 f 1 b"]),
  ("myanmar",
    ["1000 a0 9940 1f 61 20 6c50 14"]),
  ("nagmundari",
    ["1e4d0 2a"]),
  ("nandinagari",
    ["119a0 8 2 2e 2 b"]),
  ("oldnortharabian",
    ["10a80 20"]),
  ("nabataean",
    ["10880 1f 8 9"]),
  ("newa",
    ["11400 5c 1 5"]),
  ("nko",
    ["7c0 3b 2 3"]),
  ("nushu",
    ["16fe1 1 418e 18c"]),
  ("ogham",
    ["1680 1d"]),
  ("olchiki",
    ["1c50 30"]),
  ("oldturkic",
    ["10c00 49"]),
  ("oriya",
    ["b01 3 1 8 2 2 2 16 1 7 1 2 1 5 2 9 2 2 2 3 7 3 4 2 1 5 2 12"]),
  ("osage",
    ["104b0 24 4 24"]),
  ("osmanya",
    ["10480 1e 2 a"]),
  ("olduyghur",
    ["10f70 1a"]),
  ("palmyrene",
    ["10860 20"]),
  ("paucinhau",
    ["11ac0 39"]),
  ("oldpermic",
    ["10350 2b"]),
  ("phagspa",
    ["a840 38"]),
  ("inscriptionalpahlavi",
    ["10b60 13 5 8"]),
  ("psalterpahlavi",
    ["10b80 12 7 4 c 7"]),
  ("phoenician",
    ["10900 1c 3 1"]),
  ("miao",
    ["16f00 4b 4 39 7 11"]),
  ("inscriptionalparthian",
    ["10b40 16 2 8"]),
  ("rejang",
    ["a930 24 b 1"]),
  ("hanifirohingya",
    ["10d00 28 8 a"]),
  ("runic",
    ["16a0 4b 3 b"]),
  ("samaritan",
    ["800 2e 2 f"]),
  ("oldsoutharabian",
    ["10a60 20"]),
  ("saurashtra",
    ["a880 46 8 c"]),
  ("signwriting",
    ["1d800 28c f 5 1 f"]),
  ("shavian",
    ["10450 30"]),
  ("sharada",
    ["11180 60 980 8"]),
  ("siddham",
    ["11580 36 2 26"]),
  ("khudawadi",
    ["112b0 3b 5 a"]),
  ("sinhala",
    ["d81 3 1 12 3 18 1 9 1 1 2 7 3 1 4 6 1 1 1 8 6 a 2 3 103ec 14"]),
  ("sogdian",
    ["10f30 2a"]),
  ("oldsogdian",
    ["10f00 28"]),
  ("sorasompeng",
    ["110d0 19 7 a"]),
  ("soyombo",
    ["11a50 53"]),
  ("sundanese",
    ["1b80 40 100 8"]),
  ("sylotinagri",
    ["a800 2d"]),
  ("syriac",
    ["700 e 1 3c 2 3 110 b"]),
  ("tagbanwa",
    ["1760 d 1 3 1 2"]),
  ("takri",
    ["11680 3a 6 a"]),
  ("taile",
    ["1950 1e 2 5"]),
  ("newtailue",
    ["1980 2c 4 1a 6 b 3 2"]),
  ("tamil",
    ["b82 2 1 6 3 3 1 4 3 2 1 1 1 2 3 2 3 3 3 c 4 5 3 3 1 4 2 1 6 1 e 15 113c5 32 d 1"]),
  ("tangut",
    ["16fe0 1 1f 1b00 200 1f 61 73"]),
  ("taiviet",
    ["aa80 43 18 5"]),
  ("telugu",
    ["c00 d 1 3 1 17 1 10 2 9 1 3 1 4 7 2 1 3 1 2 2 4 2 a 7 9"]),
  ("tifinagh",
    ["2d30 38 7 2 e 1"]),
  ("tagalog",
    ["1700 16 9 1"]),
  ("thaana",
    ["780 32"]),
  ("thai",
    ["e01 3a 5 1c"]),
  ("tibetan",
    ["f00 48 1 24 4 27 1 24 1 f 1 7 4 2"]),
  ("tirhuta",
    ["11480 48 8 a"]),
  ("tangsa",
    ["16a70 4f 1 a"]),
  ("toto",
    ["1e290 1f"]),
  ("ugaritic",
    ["10380 1e 1 1"]),
  ("vai",
    ["a500 12c"]),
  ("vithkuqi",
    ["10570 b 1 f 1 7 1 2 1 b 1 f 1 7 1 2"]),
  ("warangciti",
    ["118a0 53 c 1"]),
  ("wancho",
    ["1e2c0 3a 5 1"]),
  ("oldpersian",
    ["103a0 24 4 e"]),
  ("cuneiform",
    ["12000 39a 66 6f 1 5 b c4"]),
  ("yezidi",
    ["10e80 2a 1 3 2 2"]),
  ("yi",
    ["a000 48d 3 37"]),
  ("zanabazarsquare",
    ["11a00 48"]),
  ("inherited",
    ["300 70 115 2 1c4 b 1a 1 2e0 4 115b 2e 2 c 1e4 3 1 d 1 7 4 1 6 1 3 2 c6 40 20c 2 c2 21 f39",
     "4 6b 2 cd65 10 10 e 3cf 1 e2 1 105a 1 bbc4 2e 2 17 220 3 11 8 2 7 1e 4 c2f52 f0"]),
  ("common",
    ["0 41 1a 6 1a 2f 1 f 1 5 17 1 1f 1 1c1 27 5 5 2 14 74 1 9 1 6 1 1 1 27d 1 6 1 e 1 3 1 20 1",
     "9c 1 204 1 81 2 4d9 1 195 4 122 1 5ef 3 47 2 cb 2 1 1 4cd 1 d 1 7 4 1 6 1 3 2 1 305 c 2",
     "57 1 b 3 b 1 f 11 22 3e 26 1 3 2 6 1 1b 1 11 29 3 4 29a 16 b 15 3a0 100 274 2 8a 200 5e",
     "192 15 1 1 1 19 f 8 4 4 5b 2 3 1 5a 2 93 10 20 26 9 1 30 40 1f 51 2f 1 58 a8 19c0 40 5900",
     "22 66 3 a5 a f4 1 a0 1 18b 1 e 2 51d2 2 d0 a 16 23 1 13 1 4 93 1 1 20 1a 6 1a b a 1 2d 2",
     "40 7 1 7 a 5 102 3 4 2d 3 9 50 d 33 2d e4 1b b9a4 4 f5c fd 3 1b4 6 17 f 11 5f 74 3c f6 a",
     "27 2 3e 3 11 8 2 7 1e 4 3d d5 14 c 14 c 57 9 19 87 55 1 47 1 2 2 1 2 2 2 4 1 c 1 1 1 7 1",
     "41 1 4 2 8 1 7 1 1c 1 4 1 5 1 1 3 7 1 154 2 124 2 32 1471 44 4c 3d 2c2 2c 4 64 c f 2 f 1",
     "f 1 25 a ae 38 1a 1 2 d 2c 4 9 7 2 e 6 9a 3d9 3 11 3 d 3 da 6 c 4 1 f c 4 38 8 a 6 28 8",
     "1e 2 c 4 2 e 9 27 158 8 e 2 d 3 b 3 39 1 1 4 10 2 c 4 a 7 93 1 67 c0406 1 1e 60"]),
  ("garay",
    ["10d40 26 3 1d 8 2"]),
  ("gurungkhema",
    ["16100 3a"]),
  ("kiratrai",
    ["16d40 3a"]),
  ("olonal",
    ["1e5d0 2b 4 1"]),
  ("sunuwar",
    ["11bc0 22 e a"]),
  ("todhri",
    ["105c0 34"]),
  ("tulutigalari",
    ["11380 a 1 1 2 1 1 26 1 a 1 1 2 1 1 4 1 a 1 2 8 2"]),
  ("sidetic",
    ["10940 1a"]),
  ("tolongsiki",
    ["11db0 2c 4 a"]),
  ("beriaerfe",
    ["16ea0 19 2 19"]),
  ("taiyo",
    ["1e6c0 1f 1 16 8 2"])]

/-- The four-letter codes and other short names of the scripts. -/
def codes : List (String × String) := [
  ("adlm", "adlam"),
  ("aghb", "caucasianalbanian"),
  ("arab", "arabic"),
  ("armi", "imperialaramaic"),
  ("armn", "armenian"),
  ("avst", "avestan"),
  ("bali", "balinese"),
  ("bamu", "bamum"),
  ("bass", "bassavah"),
  ("batk", "batak"),
  ("beng", "bengali"),
  ("bhks", "bhaiksuki"),
  ("bopo", "bopomofo"),
  ("brah", "brahmi"),
  ("brai", "braille"),
  ("bugi", "buginese"),
  ("buhd", "buhid"),
  ("cakm", "chakma"),
  ("cans", "canadianaboriginal"),
  ("cari", "carian"),
  ("cher", "cherokee"),
  ("chrs", "chorasmian"),
  ("copt", "coptic"),
  ("qaac", "coptic"),
  ("cpmn", "cyprominoan"),
  ("cprt", "cypriot"),
  ("cyrl", "cyrillic"),
  ("deva", "devanagari"),
  ("diak", "divesakuru"),
  ("dogr", "dogra"),
  ("dsrt", "deseret"),
  ("dupl", "duployan"),
  ("egyp", "egyptianhieroglyphs"),
  ("elba", "elbasan"),
  ("elym", "elymaic"),
  ("ethi", "ethiopic"),
  ("geor", "georgian"),
  ("glag", "glagolitic"),
  ("gong", "gunjalagondi"),
  ("gonm", "masaramgondi"),
  ("goth", "gothic"),
  ("gran", "grantha"),
  ("grek", "greek"),
  ("gujr", "gujarati"),
  ("guru", "gurmukhi"),
  ("hang", "hangul"),
  ("hani", "han"),
  ("hano", "hanunoo"),
  ("hatr", "hatran"),
  ("hebr", "hebrew"),
  ("hira", "hiragana"),
  ("hluw", "anatolianhieroglyphs"),
  ("hmng", "pahawhhmong"),
  ("hmnp", "nyiakengpuachuehmong"),
  ("hung", "oldhungarian"),
  ("ital", "olditalic"),
  ("java", "javanese"),
  ("kali", "kayahli"),
  ("kana", "katakana"),
  ("khar", "kharoshthi"),
  ("khmr", "khmer"),
  ("khoj", "khojki"),
  ("kits", "khitansmallscript"),
  ("knda", "kannada"),
  ("kthi", "kaithi"),
  ("lana", "taitham"),
  ("laoo", "lao"),
  ("latn", "latin"),
  ("lepc", "lepcha"),
  ("limb", "limbu"),
  ("lina", "lineara"),
  ("linb", "linearb"),
  ("lyci", "lycian"),
  ("lydi", "lydian"),
  ("mahj", "mahajani"),
  ("maka", "makasar"),
  ("mand", "mandaic"),
  ("mani", "manichaean"),
  ("marc", "marchen"),
  ("medf", "medefaidrin"),
  ("mend", "mendekikakui"),
  ("merc", "meroiticcursive"),
  ("mero", "meroitichieroglyphs"),
  ("mlym", "malayalam"),
  ("mong", "mongolian"),
  ("mroo", "mro"),
  ("mtei", "meeteimayek"),
  ("mult", "multani"),
  ("mymr", "myanmar"),
  ("nagm", "nagmundari"),
  ("nand", "nandinagari"),
  ("narb", "oldnortharabian"),
  ("nbat", "nabataean"),
  ("nkoo", "nko"),
  ("nshu", "nushu"),
  ("ogam", "ogham"),
  ("olck", "olchiki"),
  ("orkh", "oldturkic"),
  ("orya", "oriya"),
  ("osge", "osage"),
  ("osma", "osmanya"),
  ("ougr", "olduyghur"),
  ("palm", "palmyrene"),
  ("pauc", "paucinhau"),
  ("perm", "oldpermic"),
  ("phag", "phagspa"),
  ("phli", "inscriptionalpahlavi"),
  ("phlp", "psalterpahlavi"),
  ("phnx", "phoenician"),
  ("plrd", "miao"),
  ("prti", "inscriptionalparthian"),
  ("rjng", "rejang"),
  ("rohg", "hanifirohingya"),
  ("runr", "runic"),
  ("samr", "samaritan"),
  ("sarb", "oldsoutharabian"),
  ("saur", "saurashtra"),
  ("sgnw", "signwriting"),
  ("shaw", "shavian"),
  ("shrd", "sharada"),
  ("sidd", "siddham"),
  ("sind", "khudawadi"),
  ("sinh", "sinhala"),
  ("sogd", "sogdian"),
  ("sogo", "oldsogdian"),
  ("sora", "sorasompeng"),
  ("soyo", "soyombo"),
  ("sund", "sundanese"),
  ("sylo", "sylotinagri"),
  ("syrc", "syriac"),
  ("tagb", "tagbanwa"),
  ("takr", "takri"),
  ("tale", "taile"),
  ("talu", "newtailue"),
  ("taml", "tamil"),
  ("tang", "tangut"),
  ("tavt", "taiviet"),
  ("telu", "telugu"),
  ("tfng", "tifinagh"),
  ("tglg", "tagalog"),
  ("thaa", "thaana"),
  ("tibt", "tibetan"),
  ("tirh", "tirhuta"),
  ("tnsa", "tangsa"),
  ("ugar", "ugaritic"),
  ("vaii", "vai"),
  ("vith", "vithkuqi"),
  ("wara", "warangciti"),
  ("wcho", "wancho"),
  ("xpeo", "oldpersian"),
  ("xsux", "cuneiform"),
  ("yezi", "yezidi"),
  ("yiii", "yi"),
  ("zanb", "zanabazarsquare"),
  ("zinh", "inherited"),
  ("qaai", "inherited"),
  ("zyyy", "common"),
  ("gara", "garay"),
  ("gukh", "gurungkhema"),
  ("krai", "kiratrai"),
  ("onao", "olonal"),
  ("sunu", "sunuwar"),
  ("todr", "todhri"),
  ("tutg", "tulutigalari"),
  ("sidt", "sidetic"),
  ("tols", "tolongsiki"),
  ("berf", "beriaerfe"),
  ("tayo", "taiyo")]

/-- The full name that a loosely spelled name or code stands for. -/
def fullName (name : String) : String :=
  (codes.lookup name).getD name

/-- The ranges of the script that a loosely spelled name stands for. -/
def named? (name : String) : Option (List (Nat × Nat)) :=
  (table.lookup (fullName name)).map Runs.decode

end Script
end Unicode
end ScriptReview
