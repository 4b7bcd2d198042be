import RouteTable.Regex.Unicode.Value

/-!
# Scripts

The `Script` property: every character belongs to the one script it is mostly used in, or to
`Common` or `Inherited`.
-/

namespace RouteTable.Regex.Unicode

/-- The scripts and the characters that belong to each. -/
def scripts : List Value := [
  ⟨["adlm", "adlam"],
    "1E900 4C 4 A 4 2"⟩,
  ⟨["ahom"],
    "11700 1B 2 F 4 17"⟩,
  ⟨["hluw", "anatolianhieroglyphs"],
    "14400 247"⟩,
  ⟨["arab", "arabic"],
    "600 5 1 6 1 E 1 3 1 20 1 A B 1A 1 6C 1 22 50 30 F0 1F 1 2 5 4B 1 1D F250 73 10 16B 2 50 2 36 7
    1 20 10 70 5 1 87 F63 1F 43 3 37 4 DF00 4 1 1B 1 2 1 1 2 1 1 A 1 4 1 1 1 1 6 1 4 1 1 1 1 1 1 3
    1 2 1 1 2 1 1 1 1 1 1 1 1 1 1 2 1 1 2 4 1 7 1 4 1 4 1 1 1 A 1 11 5 3 1 5 1 11 34 2"⟩,
  ⟨["armn", "armenian"],
    "531 26 2 32 2 3 F583 5"⟩,
  ⟨["avst", "avestan"],
    "10B00 36 3 7"⟩,
  ⟨["bali", "balinese"],
    "1B00 4D 1 32"⟩,
  ⟨["bamu", "bamum"],
    "A6A0 58 C108 239"⟩,
  ⟨["bass", "bassavah"],
    "16AD0 1E 2 6"⟩,
  ⟨["batk", "batak"],
    "1BC0 34 8 4"⟩,
  ⟨["beng", "bengali"],
    "980 4 1 8 2 2 2 16 1 7 1 1 3 4 2 9 2 2 2 4 8 1 4 2 1 5 2 19"⟩,
  ⟨["bhks", "bhaiksuki"],
    "11C00 9 1 2D 1 E A 1D"⟩,
  ⟨["bopo", "bopomofo"],
    "2EA 2 2E19 2B 70 20"⟩,
  ⟨["brah", "brahmi"],
    "11000 4E 4 24 9 1"⟩,
  ⟨["brai", "braille"],
    "2800 100"⟩,
  ⟨["bugi", "buginese"],
    "1A00 1C 2 2"⟩,
  ⟨["buhd", "buhid"],
    "1740 14"⟩,
  ⟨["cans", "canadianaboriginal"],
    "1400 280 230 46 101BA 10"⟩,
  ⟨["cari", "carian"],
    "102A0 31"⟩,
  ⟨["aghb", "caucasianalbanian"],
    "10530 34 B 1"⟩,
  ⟨["cakm", "chakma"],
    "11100 35 1 12"⟩,
  ⟨["cham"],
    "AA00 37 9 E 2 A 2 4"⟩,
  ⟨["cher", "cherokee"],
    "13A0 56 2 6 9772 50"⟩,
  ⟨["chrs", "chorasmian"],
    "10FB0 1C"⟩,
  ⟨["zyyy", "common"],
    "0 41 1A 6 1A 2F 1 F 1 5 17 1 1F 1 1C1 27 5 5 2 14 74 1 9 1 6 1 1 1 27D 1 6 1 E 1 3 1 20 1 9C 1
    204 1 81 2 4D9 1 195 4 122 1 5EF 3 47 2 CB 2 1 1 4CD 1 D 1 7 4 1 6 1 3 2 1 305 C 2 57 1 B 3 B
    1 F 11 21 3F 26 1 3 2 6 1 1B 1 11 29 3 4 29A 16 B 15 3A0 100 274 2 20 1 69 200 5E 192 15 1 1 1
    19 F 8 4 4 5B 2 3 1 5A 2 93 10 20 26 9 1 30 40 1F 51 2F 1 58 A8 19C0 40 5900 22 66 3 A5 A F4 1
    A0 1 18B 1 E 2 51D2 2 D0 A 16 23 1 13 1 4 93 1 1 20 1A 6 1A B A 1 2D 2 40 7 1 7 A 5 102 3 4 2D
    3 9 50 D 33 2D E4 1B B9A4 4 F5C FA 6 1B4 9C 74 3C F6 A 27 2 3E 3 11 8 2 7 1E 4 3D D5 14 C 14 C
    57 9 19 87 55 1 47 1 2 2 1 2 2 2 4 1 C 1 1 1 7 1 41 1 4 2 8 1 7 1 1C 1 4 1 5 1 1 3 7 1 154 2
    124 2 32 1471 44 4C 3D 2C2 2C 4 64 C F 2 F 1 F 1 25 A AE 38 1A 1 2 D 2C 4 9 7 2 E 6 9A 3D8 4
    11 3 D 3 77 4 5F 6 C 4 1 F C 4 38 8 A 6 28 8 1E 2 C 4 2 3E 154 C E 2 D 3 A 5 38 7 F 2 B 6 9 7
    93 1 66 C0407 1 1E 60"⟩,
  ⟨["copt", "coptic", "qaac"],
    "3E2 E 2890 74 5 7"⟩,
  ⟨["xsux", "cuneiform"],
    "12000 39A 66 6F 1 5 B C4"⟩,
  ⟨["cprt", "cypriot"],
    "10800 6 2 1 1 2C 1 2 3 1 2 1"⟩,
  ⟨["cpmn", "cyprominoan"],
    "12F90 63"⟩,
  ⟨["cyrl", "cyrillic"],
    "400 85 2 A9 1750 B A0 1 4C 1 1067 20 7840 60 578E 2 E200 3E 21 1"⟩,
  ⟨["dsrt", "deseret"],
    "10400 50"⟩,
  ⟨["deva", "devanagari"],
    "900 51 4 F 2 1A 9F60 20 7200 A"⟩,
  ⟨["diak", "divesakuru"],
    "11900 7 2 1 2 8 1 2 1 1E 1 2 2 C 9 A"⟩,
  ⟨["dogr", "dogra"],
    "11800 3C"⟩,
  ⟨["dupl", "duployan"],
    "1BC00 6B 5 D 3 9 7 A 2 4"⟩,
  ⟨["egyp", "egyptianhieroglyphs"],
    "13000 456 A F9B"⟩,
  ⟨["elba", "elbasan"],
    "10500 28"⟩,
  ⟨["elym", "elymaic"],
    "10FE0 17"⟩,
  ⟨["ethi", "ethiopic"],
    "1200 49 1 4 2 7 1 1 1 4 2 29 1 4 2 21 1 4 2 7 1 1 1 4 2 F 1 39 1 4 2 43 2 20 3 1A 19E6 17 9 7
    1 7 1 7 1 7 1 7 1 7 1 7 1 7 7D22 6 2 6 2 6 9 7 1 7 13CB1 7 1 4 1 2 1 F"⟩,
  ⟨["gara", "garay"],
    "10D40 26 3 1D 8 2"⟩,
  ⟨["geor", "georgian"],
    "10A0 26 1 1 5 1 2 2B 1 4 B90 2B 2 3 1040 26 1 1 5 1"⟩,
  ⟨["glag", "glagolitic"],
    "2C00 60 1B3A0 7 1 11 2 7 1 2 1 5"⟩,
  ⟨["goth", "gothic"],
    "10330 1B"⟩,
  ⟨["gran", "grantha"],
    "11300 4 1 8 2 2 2 16 1 7 1 2 1 5 2 9 2 2 2 3 2 1 6 1 5 7 2 7 3 5"⟩,
  ⟨["grek", "greek"],
    "370 4 1 3 2 4 1 1 4 1 1 1 1 3 1 1 1 14 1 3F E 10 1926 5 32 5 4 5 54 1 140 16 2 6 2 26 2 6 2 8
    1 1 1 1 1 1 1 1F 2 35 1 F 1 E 2 6 1 13 2 3 1 9 127 1 8A3E 1 55DA 4F 11 1 D05F 46"⟩,
  ⟨["gujr", "gujarati"],
    "A81 3 1 9 1 3 1 16 1 7 1 2 1 5 2 A 1 3 1 3 2 1 F 4 2 C 7 7"⟩,
  ⟨["gong", "gunjalagondi"],
    "11D60 6 1 2 1 25 1 2 1 6 7 A"⟩,
  ⟨["guru", "gurmukhi"],
    "A01 3 1 6 4 2 2 16 1 7 1 2 1 2 1 2 2 1 1 5 4 2 2 3 3 1 7 4 1 1 7 11"⟩,
  ⟨["gukh", "gurungkhema"],
    "16100 3A"⟩,
  ⟨["hani", "han"],
    "2E80 1A 1 59 C D6 2F 1 1 1 19 9 E 4 3C4 19C0 40 5200 5900 16E 2 6A 7508 2 C 2 900E A6E0 20
    103A 6 DE 2 1682 E 1D31 F 26E 9A2 21E 5E2 134B 5 1060"⟩,
  ⟨["hang", "hangul"],
    "1100 100 1E2E 2 101 5E 71 1F 41 1F 76E1 1D 283 2BA4 C 17 4 31 27A4 1F 3 6 2 6 2 6 2 3"⟩,
  ⟨["rohg", "hanifirohingya"],
    "10D00 28 8 A"⟩,
  ⟨["hano", "hanunoo"],
    "1720 15"⟩,
  ⟨["hatr", "hatran"],
    "108E0 13 1 2 5 5"⟩,
  ⟨["hebr", "hebrew"],
    "591 37 8 1B 4 6 F528 1A 1 5 1 1 1 2 1 2 1 A"⟩,
  ⟨["hira", "hiragana"],
    "3041 56 6 3 17F61 11F 12 1 1D 3 40AD 1"⟩,
  ⟨["armi", "imperialaramaic"],
    "10840 16 1 9"⟩,
  ⟨["zinh", "inherited", "qaai"],
    "300 70 115 2 1C4 B 1A 1 2E0 4 115B 1F 201 3 1 D 1 7 4 1 6 1 3 2 C6 40 20C 2 C2 21 F39 4 6B 2
    CD65 10 10 E 3CF 1 E2 1 105A 1 BBC4 2E 2 17 220 3 11 8 2 7 1E 4 C2F52 F0"⟩,
  ⟨["phli", "inscriptionalpahlavi"],
    "10B60 13 5 8"⟩,
  ⟨["prti", "inscriptionalparthian"],
    "10B40 16 2 8"⟩,
  ⟨["java", "javanese"],
    "A980 4E 2 A 4 2"⟩,
  ⟨["kthi", "kaithi"],
    "11080 43 A 1"⟩,
  ⟨["knda", "kannada"],
    "C80 D 1 3 1 17 1 A 1 5 2 9 1 3 1 4 7 2 6 2 1 4 2 A 1 3"⟩,
  ⟨["kana", "katakana"],
    "30A1 5A 2 3 F0 10 D0 2F 1 58 CC0E A 1 2D B052 4 1 7 1 2 1 1 11F 3 32 1 E 4"⟩,
  ⟨["kawi"],
    "11F00 11 1 29 3 1D"⟩,
  ⟨["kali", "kayahli"],
    "A900 2E 1 1"⟩,
  ⟨["khar", "kharoshthi"],
    "10A00 4 1 2 5 8 1 3 1 1D 2 3 4 A 7 9"⟩,
  ⟨["kits", "khitansmallscript"],
    "16FE4 1 1B1B 1D6 29 1"⟩,
  ⟨["khmr", "khmer"],
    "1780 5E 2 A 6 A 1E6 20"⟩,
  ⟨["khoj", "khojki"],
    "11200 12 1 2F"⟩,
  ⟨["sind", "khudawadi"],
    "112B0 3B 5 A"⟩,
  ⟨["krai", "kiratrai"],
    "16D40 3A"⟩,
  ⟨["laoo", "lao"],
    "E81 2 1 1 1 5 1 18 1 1 1 17 2 5 1 1 1 7 1 A 2 4"⟩,
  ⟨["latn", "latin"],
    "41 1A 6 1A 2F 1 F 1 5 17 1 1F 1 1C1 27 5 1A1B 26 6 31 5 4 5 D 1 46 41 100 171 1 D 1 10 D 8D 2
    6 1 1B 1 11 29 AD7 20 7AA2 66 3 43 2 2 1 1 1 8 15 E 330 2B 1 9 1 4 4F96 7 41A 1A 6 1A 825 6 1
    2A 1 9 D745 1F 6 6"⟩,
  ⟨["lepc", "lepcha"],
    "1C00 38 3 F 3 3"⟩,
  ⟨["limb", "limbu"],
    "1900 1F 1 C 4 C 4 1 3 C"⟩,
  ⟨["lina", "lineara"],
    "10600 137 9 16 A 8"⟩,
  ⟨["linb", "linearb"],
    "10000 C 1 1A 1 13 1 2 1 F 2 E 22 7B"⟩,
  ⟨["lisu"],
    "A4D0 30 7AB0 1"⟩,
  ⟨["lyci", "lycian"],
    "10280 1D"⟩,
  ⟨["lydi", "lydian"],
    "10920 1A 5 1"⟩,
  ⟨["mahj", "mahajani"],
    "11150 27"⟩,
  ⟨["maka", "makasar"],
    "11EE0 19"⟩,
  ⟨["mlym", "malayalam"],
    "D00 D 1 3 1 33 1 3 1 6 4 10 2 1A"⟩,
  ⟨["mand", "mandaic"],
    "840 1C 2 1"⟩,
  ⟨["mani", "manichaean"],
    "10AC0 27 4 C"⟩,
  ⟨["marc", "marchen"],
    "11C70 20 2 16 1 E"⟩,
  ⟨["gonm", "masaramgondi"],
    "11D00 7 1 2 1 2C 3 1 1 2 1 9 8 A"⟩,
  ⟨["medf", "medefaidrin"],
    "16E40 5B"⟩,
  ⟨["mtei", "meeteimayek"],
    "AAE0 17 C9 2E 2 A"⟩,
  ⟨["mend", "mendekikakui"],
    "1E800 C5 2 10"⟩,
  ⟨["merc", "meroiticcursive"],
    "109A0 18 4 14 2 2E"⟩,
  ⟨["mero", "meroitichieroglyphs"],
    "10980 20"⟩,
  ⟨["plrd", "miao"],
    "16F00 4B 4 39 7 11"⟩,
  ⟨["modi"],
    "11600 45 B A"⟩,
  ⟨["mong", "mongolian"],
    "1800 2 2 1 1 14 6 59 7 2B FDB5 D"⟩,
  ⟨["mroo", "mro"],
    "16A40 1F 1 A 4 2"⟩,
  ⟨["mult", "multani"],
    "11280 7 1 1 1 4 1 F 1 B"⟩,
  ⟨["mymr", "myanmar"],
    "1000 A0 9940 1F 61 20 6C50 14"⟩,
  ⟨["nbat", "nabataean"],
    "10880 1F 8 9"⟩,
  ⟨["nagm", "nagmundari"],
    "1E4D0 2A"⟩,
  ⟨["nand", "nandinagari"],
    "119A0 8 2 2E 2 B"⟩,
  ⟨["talu", "newtailue"],
    "1980 2C 4 1A 6 B 3 2"⟩,
  ⟨["newa"],
    "11400 5C 1 5"⟩,
  ⟨["nkoo", "nko"],
    "7C0 3B 2 3"⟩,
  ⟨["nshu", "nushu"],
    "16FE1 1 418E 18C"⟩,
  ⟨["hmnp", "nyiakengpuachuehmong"],
    "1E100 2D 3 E 2 A 4 2"⟩,
  ⟨["ogam", "ogham"],
    "1680 1D"⟩,
  ⟨["olck", "olchiki"],
    "1C50 30"⟩,
  ⟨["onao", "olonal"],
    "1E5D0 2B 4 1"⟩,
  ⟨["hung", "oldhungarian"],
    "10C80 33 D 33 7 6"⟩,
  ⟨["ital", "olditalic"],
    "10300 24 9 3"⟩,
  ⟨["narb", "oldnortharabian"],
    "10A80 20"⟩,
  ⟨["perm", "oldpermic"],
    "10350 2B"⟩,
  ⟨["xpeo", "oldpersian"],
    "103A0 24 4 E"⟩,
  ⟨["sogo", "oldsogdian"],
    "10F00 28"⟩,
  ⟨["sarb", "oldsoutharabian"],
    "10A60 20"⟩,
  ⟨["orkh", "oldturkic"],
    "10C00 49"⟩,
  ⟨["ougr", "olduyghur"],
    "10F70 1A"⟩,
  ⟨["orya", "oriya"],
    "B01 3 1 8 2 2 2 16 1 7 1 2 1 5 2 9 2 2 2 3 7 3 4 2 1 5 2 12"⟩,
  ⟨["osge", "osage"],
    "104B0 24 4 24"⟩,
  ⟨["osma", "osmanya"],
    "10480 1E 2 A"⟩,
  ⟨["hmng", "pahawhhmong"],
    "16B00 46 A A 1 7 1 15 5 13"⟩,
  ⟨["palm", "palmyrene"],
    "10860 20"⟩,
  ⟨["pauc", "paucinhau"],
    "11AC0 39"⟩,
  ⟨["phag", "phagspa"],
    "A840 38"⟩,
  ⟨["phnx", "phoenician"],
    "10900 1C 3 1"⟩,
  ⟨["phlp", "psalterpahlavi"],
    "10B80 12 7 4 C 7"⟩,
  ⟨["rjng", "rejang"],
    "A930 24 B 1"⟩,
  ⟨["runr", "runic"],
    "16A0 4B 3 B"⟩,
  ⟨["samr", "samaritan"],
    "800 2E 2 F"⟩,
  ⟨["saur", "saurashtra"],
    "A880 46 8 C"⟩,
  ⟨["shrd", "sharada"],
    "11180 60"⟩,
  ⟨["shaw", "shavian"],
    "10450 30"⟩,
  ⟨["sidd", "siddham"],
    "11580 36 2 26"⟩,
  ⟨["sgnw", "signwriting"],
    "1D800 28C F 5 1 F"⟩,
  ⟨["sinh", "sinhala"],
    "D81 3 1 12 3 18 1 9 1 1 2 7 3 1 4 6 1 1 1 8 6 A 2 3 103EC 14"⟩,
  ⟨["sogd", "sogdian"],
    "10F30 2A"⟩,
  ⟨["sora", "sorasompeng"],
    "110D0 19 7 A"⟩,
  ⟨["soyo", "soyombo"],
    "11A50 53"⟩,
  ⟨["sund", "sundanese"],
    "1B80 40 100 8"⟩,
  ⟨["sunu", "sunuwar"],
    "11BC0 22 E A"⟩,
  ⟨["sylo", "sylotinagri"],
    "A800 2D"⟩,
  ⟨["syrc", "syriac"],
    "700 E 1 3C 2 3 110 B"⟩,
  ⟨["tglg", "tagalog"],
    "1700 16 9 1"⟩,
  ⟨["tagb", "tagbanwa"],
    "1760 D 1 3 1 2"⟩,
  ⟨["tale", "taile"],
    "1950 1E 2 5"⟩,
  ⟨["lana", "taitham"],
    "1A20 3F 1 1D 2 B 6 A 6 E"⟩,
  ⟨["tavt", "taiviet"],
    "AA80 43 18 5"⟩,
  ⟨["takr", "takri"],
    "11680 3A 6 A"⟩,
  ⟨["taml", "tamil"],
    "B82 2 1 6 3 3 1 4 3 2 1 1 1 2 3 2 3 3 3 C 4 5 3 3 1 4 2 1 6 1 E 15 113C5 32 D 1"⟩,
  ⟨["tnsa", "tangsa"],
    "16A70 4F 1 A"⟩,
  ⟨["tang", "tangut"],
    "16FE0 1 1F 17F8 8 300 200 9"⟩,
  ⟨["telu", "telugu"],
    "C00 D 1 3 1 17 1 10 2 9 1 3 1 4 7 2 1 3 2 1 2 4 2 A 7 9"⟩,
  ⟨["thaa", "thaana"],
    "780 32"⟩,
  ⟨["thai"],
    "E01 3A 5 1C"⟩,
  ⟨["tibt", "tibetan"],
    "F00 48 1 24 4 27 1 24 1 F 1 7 4 2"⟩,
  ⟨["tfng", "tifinagh"],
    "2D30 38 7 2 E 1"⟩,
  ⟨["tirh", "tirhuta"],
    "11480 48 8 A"⟩,
  ⟨["todr", "todhri"],
    "105C0 34"⟩,
  ⟨["toto"],
    "1E290 1F"⟩,
  ⟨["tutg", "tulutigalari"],
    "11380 A 1 1 2 1 1 26 1 A 1 1 2 1 1 4 1 A 1 2 8 2"⟩,
  ⟨["ugar", "ugaritic"],
    "10380 1E 1 1"⟩,
  ⟨["vaii", "vai"],
    "A500 12C"⟩,
  ⟨["vith", "vithkuqi"],
    "10570 B 1 F 1 7 1 2 1 B 1 F 1 7 1 2"⟩,
  ⟨["wcho", "wancho"],
    "1E2C0 3A 5 1"⟩,
  ⟨["wara", "warangciti"],
    "118A0 53 C 1"⟩,
  ⟨["yezi", "yezidi"],
    "10E80 2A 1 3 2 2"⟩,
  ⟨["yiii", "yi"],
    "A000 48D 3 37"⟩,
  ⟨["zanb", "zanabazarsquare"],
    "11A00 48"⟩]

end RouteTable.Regex.Unicode
