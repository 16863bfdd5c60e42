import EventLedger.Text.Table

/-!
# The tables of the composition

Which characters are composed of others, and how marks are ordered, by Unicode 17.0.

## Main definitions

* `Text.compositeRuns` — composed characters and their parts.
* `Text.markClassRanges` — the classes of marks.
-/

namespace EventLedger.Text

/-- Composed characters and their parts, which are composed no further.  Characters that folding
replaces are left out, as are the Korean syllables, whose parts are found by counting. -/
def compositeRuns : Runs :=
  [(0xE0, "61+300 61+301 61+302 61+303 61+308 61+30A"),
    (0xE7, "63+327 65+300 65+301 65+302 65+308 69+300 69+301 69+302 69+308"),
    (0xF1, "6E+303 6F+300 6F+301 6F+302 6F+303 6F+308"),
    (0xF9, "75+300 75+301 75+302 75+308 79+301"), (0xFF, "79+308"), (0x101, "61+304"),
    (0x103, "61+306"), (0x105, "61+328"), (0x107, "63+301"), (0x109, "63+302"), (0x10B, "63+307"),
    (0x10D, "63+30C"), (0x10F, "64+30C"), (0x113, "65+304"), (0x115, "65+306"), (0x117, "65+307"),
    (0x119, "65+328"), (0x11B, "65+30C"), (0x11D, "67+302"), (0x11F, "67+306"), (0x121, "67+307"),
    (0x123, "67+327"), (0x125, "68+302"), (0x129, "69+303"), (0x12B, "69+304"), (0x12D, "69+306"),
    (0x12F, "69+328"), (0x135, "6A+302"), (0x137, "6B+327"), (0x13A, "6C+301"), (0x13C, "6C+327"),
    (0x13E, "6C+30C"), (0x144, "6E+301"), (0x146, "6E+327"), (0x148, "6E+30C"), (0x14D, "6F+304"),
    (0x14F, "6F+306"), (0x151, "6F+30B"), (0x155, "72+301"), (0x157, "72+327"), (0x159, "72+30C"),
    (0x15B, "73+301"), (0x15D, "73+302"), (0x15F, "73+327"), (0x161, "73+30C"), (0x163, "74+327"),
    (0x165, "74+30C"), (0x169, "75+303"), (0x16B, "75+304"), (0x16D, "75+306"), (0x16F, "75+30A"),
    (0x171, "75+30B"), (0x173, "75+328"), (0x175, "77+302"), (0x177, "79+302"), (0x17A, "7A+301"),
    (0x17C, "7A+307"), (0x17E, "7A+30C"), (0x1A1, "6F+31B"), (0x1B0, "75+31B"), (0x1CE, "61+30C"),
    (0x1D0, "69+30C"), (0x1D2, "6F+30C"), (0x1D4, "75+30C"), (0x1D6, "75+308+304"),
    (0x1D8, "75+308+301"), (0x1DA, "75+308+30C"), (0x1DC, "75+308+300"), (0x1DF, "61+308+304"),
    (0x1E1, "61+307+304"), (0x1E3, "E6+304"), (0x1E7, "67+30C"), (0x1E9, "6B+30C"),
    (0x1EB, "6F+328"), (0x1ED, "6F+328+304"), (0x1EF, "292+30C 6A+30C"), (0x1F5, "67+301"),
    (0x1F9, "6E+300"), (0x1FB, "61+30A+301"), (0x1FD, "E6+301"), (0x1FF, "F8+301"),
    (0x201, "61+30F"), (0x203, "61+311"), (0x205, "65+30F"), (0x207, "65+311"), (0x209, "69+30F"),
    (0x20B, "69+311"), (0x20D, "6F+30F"), (0x20F, "6F+311"), (0x211, "72+30F"), (0x213, "72+311"),
    (0x215, "75+30F"), (0x217, "75+311"), (0x219, "73+326"), (0x21B, "74+326"), (0x21F, "68+30C"),
    (0x227, "61+307"), (0x229, "65+327"), (0x22B, "6F+308+304"), (0x22D, "6F+303+304"),
    (0x22F, "6F+307"), (0x231, "6F+307+304"), (0x233, "79+304"), (0x390, "3B9+308+301"),
    (0x3AC, "3B1+301 3B5+301 3B7+301 3B9+301 3C5+308+301"),
    (0x3CA, "3B9+308 3C5+308 3BF+301 3C5+301 3C9+301"), (0x439, "438+306"),
    (0x450, "435+300 435+308"), (0x453, "433+301"), (0x457, "456+308"),
    (0x45C, "43A+301 438+300 443+306"), (0x477, "475+30F"), (0x4C2, "436+306"), (0x4D1, "430+306"),
    (0x4D3, "430+308"), (0x4D7, "435+306"), (0x4DB, "4D9+308"), (0x4DD, "436+308"),
    (0x4DF, "437+308"), (0x4E3, "438+304"), (0x4E5, "438+308"), (0x4E7, "43E+308"),
    (0x4EB, "4E9+308"), (0x4ED, "44D+308"), (0x4EF, "443+304"), (0x4F1, "443+308"),
    (0x4F3, "443+30B"), (0x4F5, "447+308"), (0x4F9, "44B+308"),
    (0x622, "627+653 627+654 648+654 627+655 64A+654"), (0x6C0, "6D5+654"), (0x6C2, "6C1+654"),
    (0x6D3, "6D2+654"), (0x929, "928+93C"), (0x931, "930+93C"), (0x934, "933+93C"),
    (0x9CB, "9C7+9BE 9C7+9D7"), (0xB48, "B47+B56"), (0xB4B, "B47+B3E B47+B57"), (0xB94, "B92+BD7"),
    (0xBCA, "BC6+BBE BC7+BBE BC6+BD7"), (0xC48, "C46+C56"), (0xCC0, "CBF+CD5"),
    (0xCC7, "CC6+CD5 CC6+CD6"), (0xCCA, "CC6+CC2 CC6+CC2+CD5"), (0xD4A, "D46+D3E D47+D3E D46+D57"),
    (0xDDA, "DD9+DCA"), (0xDDC, "DD9+DCF DD9+DCF+DCA DD9+DDF"), (0x1026, "1025+102E"),
    (0x1B06, "1B05+1B35"), (0x1B08, "1B07+1B35"), (0x1B0A, "1B09+1B35"), (0x1B0C, "1B0B+1B35"),
    (0x1B0E, "1B0D+1B35"), (0x1B12, "1B11+1B35"), (0x1B3B, "1B3A+1B35"), (0x1B3D, "1B3C+1B35"),
    (0x1B40, "1B3E+1B35 1B3F+1B35"), (0x1B43, "1B42+1B35"), (0x1E01, "61+325"), (0x1E03, "62+307"),
    (0x1E05, "62+323"), (0x1E07, "62+331"), (0x1E09, "63+327+301"), (0x1E0B, "64+307"),
    (0x1E0D, "64+323"), (0x1E0F, "64+331"), (0x1E11, "64+327"), (0x1E13, "64+32D"),
    (0x1E15, "65+304+300"), (0x1E17, "65+304+301"), (0x1E19, "65+32D"), (0x1E1B, "65+330"),
    (0x1E1D, "65+327+306"), (0x1E1F, "66+307"), (0x1E21, "67+304"), (0x1E23, "68+307"),
    (0x1E25, "68+323"), (0x1E27, "68+308"), (0x1E29, "68+327"), (0x1E2B, "68+32E"),
    (0x1E2D, "69+330"), (0x1E2F, "69+308+301"), (0x1E31, "6B+301"), (0x1E33, "6B+323"),
    (0x1E35, "6B+331"), (0x1E37, "6C+323"), (0x1E39, "6C+323+304"), (0x1E3B, "6C+331"),
    (0x1E3D, "6C+32D"), (0x1E3F, "6D+301"), (0x1E41, "6D+307"), (0x1E43, "6D+323"),
    (0x1E45, "6E+307"), (0x1E47, "6E+323"), (0x1E49, "6E+331"), (0x1E4B, "6E+32D"),
    (0x1E4D, "6F+303+301"), (0x1E4F, "6F+303+308"), (0x1E51, "6F+304+300"), (0x1E53, "6F+304+301"),
    (0x1E55, "70+301"), (0x1E57, "70+307"), (0x1E59, "72+307"), (0x1E5B, "72+323"),
    (0x1E5D, "72+323+304"), (0x1E5F, "72+331"), (0x1E61, "73+307"), (0x1E63, "73+323"),
    (0x1E65, "73+301+307"), (0x1E67, "73+30C+307"), (0x1E69, "73+323+307"), (0x1E6B, "74+307"),
    (0x1E6D, "74+323"), (0x1E6F, "74+331"), (0x1E71, "74+32D"), (0x1E73, "75+324"),
    (0x1E75, "75+330"), (0x1E77, "75+32D"), (0x1E79, "75+303+301"), (0x1E7B, "75+304+308"),
    (0x1E7D, "76+303"), (0x1E7F, "76+323"), (0x1E81, "77+300"), (0x1E83, "77+301"),
    (0x1E85, "77+308"), (0x1E87, "77+307"), (0x1E89, "77+323"), (0x1E8B, "78+307"),
    (0x1E8D, "78+308"), (0x1E8F, "79+307"), (0x1E91, "7A+302"), (0x1E93, "7A+323"),
    (0x1E95, "7A+331 68+331 74+308 77+30A 79+30A"), (0x1EA1, "61+323"), (0x1EA3, "61+309"),
    (0x1EA5, "61+302+301"), (0x1EA7, "61+302+300"), (0x1EA9, "61+302+309"), (0x1EAB, "61+302+303"),
    (0x1EAD, "61+323+302"), (0x1EAF, "61+306+301"), (0x1EB1, "61+306+300"), (0x1EB3, "61+306+309"),
    (0x1EB5, "61+306+303"), (0x1EB7, "61+323+306"), (0x1EB9, "65+323"), (0x1EBB, "65+309"),
    (0x1EBD, "65+303"), (0x1EBF, "65+302+301"), (0x1EC1, "65+302+300"), (0x1EC3, "65+302+309"),
    (0x1EC5, "65+302+303"), (0x1EC7, "65+323+302"), (0x1EC9, "69+309"), (0x1ECB, "69+323"),
    (0x1ECD, "6F+323"), (0x1ECF, "6F+309"), (0x1ED1, "6F+302+301"), (0x1ED3, "6F+302+300"),
    (0x1ED5, "6F+302+309"), (0x1ED7, "6F+302+303"), (0x1ED9, "6F+323+302"), (0x1EDB, "6F+31B+301"),
    (0x1EDD, "6F+31B+300"), (0x1EDF, "6F+31B+309"), (0x1EE1, "6F+31B+303"), (0x1EE3, "6F+31B+323"),
    (0x1EE5, "75+323"), (0x1EE7, "75+309"), (0x1EE9, "75+31B+301"), (0x1EEB, "75+31B+300"),
    (0x1EED, "75+31B+309"), (0x1EEF, "75+31B+303"), (0x1EF1, "75+31B+323"), (0x1EF3, "79+300"),
    (0x1EF5, "79+323"), (0x1EF7, "79+309"), (0x1EF9, "79+303"),
    (0x1F00, "3B1+313 3B1+314 3B1+313+300 3B1+314+300 3B1+313+301 3B1+314+301 3B1+313+342"),
    (0x1F07, "3B1+314+342"),
    (0x1F10, "3B5+313 3B5+314 3B5+313+300 3B5+314+300 3B5+313+301 3B5+314+301"),
    (0x1F20, "3B7+313 3B7+314 3B7+313+300 3B7+314+300 3B7+313+301 3B7+314+301 3B7+313+342"),
    (0x1F27, "3B7+314+342"),
    (0x1F30, "3B9+313 3B9+314 3B9+313+300 3B9+314+300 3B9+313+301 3B9+314+301 3B9+313+342"),
    (0x1F37, "3B9+314+342"),
    (0x1F40, "3BF+313 3BF+314 3BF+313+300 3BF+314+300 3BF+313+301 3BF+314+301"),
    (0x1F50, "3C5+313 3C5+314 3C5+313+300 3C5+314+300 3C5+313+301 3C5+314+301 3C5+313+342"),
    (0x1F57, "3C5+314+342"),
    (0x1F60, "3C9+313 3C9+314 3C9+313+300 3C9+314+300 3C9+313+301 3C9+314+301 3C9+313+342"),
    (0x1F67, "3C9+314+342"), (0x1F70, "3B1+300"), (0x1F72, "3B5+300"), (0x1F74, "3B7+300"),
    (0x1F76, "3B9+300"), (0x1F78, "3BF+300"), (0x1F7A, "3C5+300"), (0x1F7C, "3C9+300"),
    (0x1FB0, "3B1+306 3B1+304"), (0x1FB6, "3B1+342"), (0x1FC6, "3B7+342"),
    (0x1FD0, "3B9+306 3B9+304 3B9+308+300"), (0x1FD6, "3B9+342 3B9+308+342"),
    (0x1FE0, "3C5+306 3C5+304 3C5+308+300"), (0x1FE4, "3C1+313 3C1+314 3C5+342 3C5+308+342"),
    (0x1FF6, "3C9+342"), (0x219A, "2190+338 2192+338"), (0x21AE, "2194+338"),
    (0x21CD, "21D0+338 21D4+338 21D2+338"), (0x2204, "2203+338"), (0x2209, "2208+338"),
    (0x220C, "220B+338"), (0x2224, "2223+338"), (0x2226, "2225+338"), (0x2241, "223C+338"),
    (0x2244, "2243+338"), (0x2247, "2245+338"), (0x2249, "2248+338"), (0x2260, "3D+338"),
    (0x2262, "2261+338"), (0x226D, "224D+338 3C+338 3E+338 2264+338 2265+338"),
    (0x2274, "2272+338 2273+338"), (0x2278, "2276+338 2277+338"), (0x2280, "227A+338 227B+338"),
    (0x2284, "2282+338 2283+338"), (0x2288, "2286+338 2287+338"),
    (0x22AC, "22A2+338 22A8+338 22A9+338 22AB+338"),
    (0x22E0, "227C+338 227D+338 2291+338 2292+338"),
    (0x22EA, "22B2+338 22B3+338 22B4+338 22B5+338"), (0x304C, "304B+3099"), (0x304E, "304D+3099"),
    (0x3050, "304F+3099"), (0x3052, "3051+3099"), (0x3054, "3053+3099"), (0x3056, "3055+3099"),
    (0x3058, "3057+3099"), (0x305A, "3059+3099"), (0x305C, "305B+3099"), (0x305E, "305D+3099"),
    (0x3060, "305F+3099"), (0x3062, "3061+3099"), (0x3065, "3064+3099"), (0x3067, "3066+3099"),
    (0x3069, "3068+3099"), (0x3070, "306F+3099 306F+309A"), (0x3073, "3072+3099 3072+309A"),
    (0x3076, "3075+3099 3075+309A"), (0x3079, "3078+3099 3078+309A"),
    (0x307C, "307B+3099 307B+309A"), (0x3094, "3046+3099"), (0x309E, "309D+3099"),
    (0x30AC, "30AB+3099"), (0x30AE, "30AD+3099"), (0x30B0, "30AF+3099"), (0x30B2, "30B1+3099"),
    (0x30B4, "30B3+3099"), (0x30B6, "30B5+3099"), (0x30B8, "30B7+3099"), (0x30BA, "30B9+3099"),
    (0x30BC, "30BB+3099"), (0x30BE, "30BD+3099"), (0x30C0, "30BF+3099"), (0x30C2, "30C1+3099"),
    (0x30C5, "30C4+3099"), (0x30C7, "30C6+3099"), (0x30C9, "30C8+3099"),
    (0x30D0, "30CF+3099 30CF+309A"), (0x30D3, "30D2+3099 30D2+309A"),
    (0x30D6, "30D5+3099 30D5+309A"), (0x30D9, "30D8+3099 30D8+309A"),
    (0x30DC, "30DB+3099 30DB+309A"), (0x30F4, "30A6+3099"),
    (0x30F7, "30EF+3099 30F0+3099 30F1+3099 30F2+3099"), (0x30FE, "30FD+3099"),
    (0x105C9, "105D2+307"), (0x105E4, "105DA+307"), (0x1109A, "11099+110BA"),
    (0x1109C, "1109B+110BA"), (0x110AB, "110A5+110BA"), (0x1112E, "11131+11127 11132+11127"),
    (0x1134B, "11347+1133E 11347+11357"), (0x11383, "11382+113C9"), (0x11385, "11384+113BB"),
    (0x1138E, "1138B+113C2"), (0x11391, "11390+113C9"), (0x113C5, "113C2+113C2"),
    (0x113C7, "113C2+113B8 113C2+113C9"), (0x114BB, "114B9+114BA 114B9+114B0"),
    (0x114BE, "114B9+114BD"), (0x115BA, "115B8+115AF 115B9+115AF"), (0x11938, "11935+11930"),
    (0x16121, "1611E+1611E 1611E+16129 1611E+1611F 16129+1611F 1611E+16120 1611E+1611E+1611F"),
    (0x16127, "1611E+16129+1611F 1611E+1611E+16120"),
    (0x16D68, "16D67+16D67 16D63+16D67 16D63+16D67+16D67")]

/-- The classes of marks: the first and the last number and the Canonical_Combining_Class. -/
def markClassRanges : List (Nat × Nat × Nat) :=
  [(0x300, 0x314, 230), (0x315, 0x315, 232), (0x316, 0x319, 220), (0x31A, 0x31A, 232),
    (0x31B, 0x31B, 216), (0x31C, 0x320, 220), (0x321, 0x322, 202), (0x323, 0x326, 220),
    (0x327, 0x328, 202), (0x329, 0x333, 220), (0x334, 0x338, 1), (0x339, 0x33C, 220),
    (0x33D, 0x344, 230), (0x345, 0x345, 240), (0x346, 0x346, 230), (0x347, 0x349, 220),
    (0x34A, 0x34C, 230), (0x34D, 0x34E, 220), (0x350, 0x352, 230), (0x353, 0x356, 220),
    (0x357, 0x357, 230), (0x358, 0x358, 232), (0x359, 0x35A, 220), (0x35B, 0x35B, 230),
    (0x35C, 0x35C, 233), (0x35D, 0x35E, 234), (0x35F, 0x35F, 233), (0x360, 0x361, 234),
    (0x362, 0x362, 233), (0x363, 0x36F, 230), (0x483, 0x487, 230), (0x591, 0x591, 220),
    (0x592, 0x595, 230), (0x596, 0x596, 220), (0x597, 0x599, 230), (0x59A, 0x59A, 222),
    (0x59B, 0x59B, 220), (0x59C, 0x5A1, 230), (0x5A2, 0x5A7, 220), (0x5A8, 0x5A9, 230),
    (0x5AA, 0x5AA, 220), (0x5AB, 0x5AC, 230), (0x5AD, 0x5AD, 222), (0x5AE, 0x5AE, 228),
    (0x5AF, 0x5AF, 230), (0x5B0, 0x5B0, 10), (0x5B1, 0x5B1, 11), (0x5B2, 0x5B2, 12),
    (0x5B3, 0x5B3, 13), (0x5B4, 0x5B4, 14), (0x5B5, 0x5B5, 15), (0x5B6, 0x5B6, 16),
    (0x5B7, 0x5B7, 17), (0x5B8, 0x5B8, 18), (0x5B9, 0x5BA, 19), (0x5BB, 0x5BB, 20),
    (0x5BC, 0x5BC, 21), (0x5BD, 0x5BD, 22), (0x5BF, 0x5BF, 23), (0x5C1, 0x5C1, 24),
    (0x5C2, 0x5C2, 25), (0x5C4, 0x5C4, 230), (0x5C5, 0x5C5, 220), (0x5C7, 0x5C7, 18),
    (0x610, 0x617, 230), (0x618, 0x618, 30), (0x619, 0x619, 31), (0x61A, 0x61A, 32),
    (0x64B, 0x64B, 27), (0x64C, 0x64C, 28), (0x64D, 0x64D, 29), (0x64E, 0x64E, 30),
    (0x64F, 0x64F, 31), (0x650, 0x650, 32), (0x651, 0x651, 33), (0x652, 0x652, 34),
    (0x653, 0x654, 230), (0x655, 0x656, 220), (0x657, 0x65B, 230), (0x65C, 0x65C, 220),
    (0x65D, 0x65E, 230), (0x65F, 0x65F, 220), (0x670, 0x670, 35), (0x6D6, 0x6DC, 230),
    (0x6DF, 0x6E2, 230), (0x6E3, 0x6E3, 220), (0x6E4, 0x6E4, 230), (0x6E7, 0x6E8, 230),
    (0x6EA, 0x6EA, 220), (0x6EB, 0x6EC, 230), (0x6ED, 0x6ED, 220), (0x711, 0x711, 36),
    (0x730, 0x730, 230), (0x731, 0x731, 220), (0x732, 0x733, 230), (0x734, 0x734, 220),
    (0x735, 0x736, 230), (0x737, 0x739, 220), (0x73A, 0x73A, 230), (0x73B, 0x73C, 220),
    (0x73D, 0x73D, 230), (0x73E, 0x73E, 220), (0x73F, 0x741, 230), (0x742, 0x742, 220),
    (0x743, 0x743, 230), (0x744, 0x744, 220), (0x745, 0x745, 230), (0x746, 0x746, 220),
    (0x747, 0x747, 230), (0x748, 0x748, 220), (0x749, 0x74A, 230), (0x7EB, 0x7F1, 230),
    (0x7F2, 0x7F2, 220), (0x7F3, 0x7F3, 230), (0x7FD, 0x7FD, 220), (0x816, 0x819, 230),
    (0x81B, 0x823, 230), (0x825, 0x827, 230), (0x829, 0x82D, 230), (0x859, 0x85B, 220),
    (0x897, 0x898, 230), (0x899, 0x89B, 220), (0x89C, 0x89F, 230), (0x8CA, 0x8CE, 230),
    (0x8CF, 0x8D3, 220), (0x8D4, 0x8E1, 230), (0x8E3, 0x8E3, 220), (0x8E4, 0x8E5, 230),
    (0x8E6, 0x8E6, 220), (0x8E7, 0x8E8, 230), (0x8E9, 0x8E9, 220), (0x8EA, 0x8EC, 230),
    (0x8ED, 0x8EF, 220), (0x8F0, 0x8F0, 27), (0x8F1, 0x8F1, 28), (0x8F2, 0x8F2, 29),
    (0x8F3, 0x8F5, 230), (0x8F6, 0x8F6, 220), (0x8F7, 0x8F8, 230), (0x8F9, 0x8FA, 220),
    (0x8FB, 0x8FF, 230), (0x93C, 0x93C, 7), (0x94D, 0x94D, 9), (0x951, 0x951, 230),
    (0x952, 0x952, 220), (0x953, 0x954, 230), (0x9BC, 0x9BC, 7), (0x9CD, 0x9CD, 9),
    (0x9FE, 0x9FE, 230), (0xA3C, 0xA3C, 7), (0xA4D, 0xA4D, 9), (0xABC, 0xABC, 7), (0xACD, 0xACD, 9),
    (0xB3C, 0xB3C, 7), (0xB4D, 0xB4D, 9), (0xBCD, 0xBCD, 9), (0xC3C, 0xC3C, 7), (0xC4D, 0xC4D, 9),
    (0xC55, 0xC55, 84), (0xC56, 0xC56, 91), (0xCBC, 0xCBC, 7), (0xCCD, 0xCCD, 9), (0xD3B, 0xD3C, 9),
    (0xD4D, 0xD4D, 9), (0xDCA, 0xDCA, 9), (0xE38, 0xE39, 103), (0xE3A, 0xE3A, 9),
    (0xE48, 0xE4B, 107), (0xEB8, 0xEB9, 118), (0xEBA, 0xEBA, 9), (0xEC8, 0xECB, 122),
    (0xF18, 0xF19, 220), (0xF35, 0xF35, 220), (0xF37, 0xF37, 220), (0xF39, 0xF39, 216),
    (0xF71, 0xF71, 129), (0xF72, 0xF72, 130), (0xF74, 0xF74, 132), (0xF7A, 0xF7D, 130),
    (0xF80, 0xF80, 130), (0xF82, 0xF83, 230), (0xF84, 0xF84, 9), (0xF86, 0xF87, 230),
    (0xFC6, 0xFC6, 220), (0x1037, 0x1037, 7), (0x1039, 0x103A, 9), (0x108D, 0x108D, 220),
    (0x135D, 0x135F, 230), (0x1714, 0x1715, 9), (0x1734, 0x1734, 9), (0x17D2, 0x17D2, 9),
    (0x17DD, 0x17DD, 230), (0x18A9, 0x18A9, 228), (0x1939, 0x1939, 222), (0x193A, 0x193A, 230),
    (0x193B, 0x193B, 220), (0x1A17, 0x1A17, 230), (0x1A18, 0x1A18, 220), (0x1A60, 0x1A60, 9),
    (0x1A75, 0x1A7C, 230), (0x1A7F, 0x1A7F, 220), (0x1AB0, 0x1AB4, 230), (0x1AB5, 0x1ABA, 220),
    (0x1ABB, 0x1ABC, 230), (0x1ABD, 0x1ABD, 220), (0x1ABF, 0x1AC0, 220), (0x1AC1, 0x1AC2, 230),
    (0x1AC3, 0x1AC4, 220), (0x1AC5, 0x1AC9, 230), (0x1ACA, 0x1ACA, 220), (0x1ACB, 0x1ADC, 230),
    (0x1ADD, 0x1ADD, 220), (0x1AE0, 0x1AE5, 230), (0x1AE6, 0x1AE6, 220), (0x1AE7, 0x1AEA, 230),
    (0x1AEB, 0x1AEB, 234), (0x1B34, 0x1B34, 7), (0x1B44, 0x1B44, 9), (0x1B6B, 0x1B6B, 230),
    (0x1B6C, 0x1B6C, 220), (0x1B6D, 0x1B73, 230), (0x1BAA, 0x1BAB, 9), (0x1BE6, 0x1BE6, 7),
    (0x1BF2, 0x1BF3, 9), (0x1C37, 0x1C37, 7), (0x1CD0, 0x1CD2, 230), (0x1CD4, 0x1CD4, 1),
    (0x1CD5, 0x1CD9, 220), (0x1CDA, 0x1CDB, 230), (0x1CDC, 0x1CDF, 220), (0x1CE0, 0x1CE0, 230),
    (0x1CE2, 0x1CE8, 1), (0x1CED, 0x1CED, 220), (0x1CF4, 0x1CF4, 230), (0x1CF8, 0x1CF9, 230),
    (0x1DC0, 0x1DC1, 230), (0x1DC2, 0x1DC2, 220), (0x1DC3, 0x1DC9, 230), (0x1DCA, 0x1DCA, 220),
    (0x1DCB, 0x1DCC, 230), (0x1DCD, 0x1DCD, 234), (0x1DCE, 0x1DCE, 214), (0x1DCF, 0x1DCF, 220),
    (0x1DD0, 0x1DD0, 202), (0x1DD1, 0x1DF5, 230), (0x1DF6, 0x1DF6, 232), (0x1DF7, 0x1DF8, 228),
    (0x1DF9, 0x1DF9, 220), (0x1DFA, 0x1DFA, 218), (0x1DFB, 0x1DFB, 230), (0x1DFC, 0x1DFC, 233),
    (0x1DFD, 0x1DFD, 220), (0x1DFE, 0x1DFE, 230), (0x1DFF, 0x1DFF, 220), (0x20D0, 0x20D1, 230),
    (0x20D2, 0x20D3, 1), (0x20D4, 0x20D7, 230), (0x20D8, 0x20DA, 1), (0x20DB, 0x20DC, 230),
    (0x20E1, 0x20E1, 230), (0x20E5, 0x20E6, 1), (0x20E7, 0x20E7, 230), (0x20E8, 0x20E8, 220),
    (0x20E9, 0x20E9, 230), (0x20EA, 0x20EB, 1), (0x20EC, 0x20EF, 220), (0x20F0, 0x20F0, 230),
    (0x2CEF, 0x2CF1, 230), (0x2D7F, 0x2D7F, 9), (0x2DE0, 0x2DFF, 230), (0x302A, 0x302A, 218),
    (0x302B, 0x302B, 228), (0x302C, 0x302C, 232), (0x302D, 0x302D, 222), (0x302E, 0x302F, 224),
    (0x3099, 0x309A, 8), (0xA66F, 0xA66F, 230), (0xA674, 0xA67D, 230), (0xA69E, 0xA69F, 230),
    (0xA6F0, 0xA6F1, 230), (0xA806, 0xA806, 9), (0xA82C, 0xA82C, 9), (0xA8C4, 0xA8C4, 9),
    (0xA8E0, 0xA8F1, 230), (0xA92B, 0xA92D, 220), (0xA953, 0xA953, 9), (0xA9B3, 0xA9B3, 7),
    (0xA9C0, 0xA9C0, 9), (0xAAB0, 0xAAB0, 230), (0xAAB2, 0xAAB3, 230), (0xAAB4, 0xAAB4, 220),
    (0xAAB7, 0xAAB8, 230), (0xAABE, 0xAABF, 230), (0xAAC1, 0xAAC1, 230), (0xAAF6, 0xAAF6, 9),
    (0xABED, 0xABED, 9), (0xFB1E, 0xFB1E, 26), (0xFE20, 0xFE26, 230), (0xFE27, 0xFE2D, 220),
    (0xFE2E, 0xFE2F, 230), (0x101FD, 0x101FD, 220), (0x102E0, 0x102E0, 220),
    (0x10376, 0x1037A, 230), (0x10A0D, 0x10A0D, 220), (0x10A0F, 0x10A0F, 230),
    (0x10A38, 0x10A38, 230), (0x10A39, 0x10A39, 1), (0x10A3A, 0x10A3A, 220), (0x10A3F, 0x10A3F, 9),
    (0x10AE5, 0x10AE5, 230), (0x10AE6, 0x10AE6, 220), (0x10D24, 0x10D27, 230),
    (0x10D69, 0x10D6D, 230), (0x10EAB, 0x10EAC, 230), (0x10EFA, 0x10EFB, 220),
    (0x10EFD, 0x10EFF, 220), (0x10F46, 0x10F47, 220), (0x10F48, 0x10F4A, 230),
    (0x10F4B, 0x10F4B, 220), (0x10F4C, 0x10F4C, 230), (0x10F4D, 0x10F50, 220),
    (0x10F82, 0x10F82, 230), (0x10F83, 0x10F83, 220), (0x10F84, 0x10F84, 230),
    (0x10F85, 0x10F85, 220), (0x11046, 0x11046, 9), (0x11070, 0x11070, 9), (0x1107F, 0x1107F, 9),
    (0x110B9, 0x110B9, 9), (0x110BA, 0x110BA, 7), (0x11100, 0x11102, 230), (0x11133, 0x11134, 9),
    (0x11173, 0x11173, 7), (0x111C0, 0x111C0, 9), (0x111CA, 0x111CA, 7), (0x11235, 0x11235, 9),
    (0x11236, 0x11236, 7), (0x112E9, 0x112E9, 7), (0x112EA, 0x112EA, 9), (0x1133B, 0x1133C, 7),
    (0x1134D, 0x1134D, 9), (0x11366, 0x1136C, 230), (0x11370, 0x11374, 230), (0x113CE, 0x113D0, 9),
    (0x11442, 0x11442, 9), (0x11446, 0x11446, 7), (0x1145E, 0x1145E, 230), (0x114C2, 0x114C2, 9),
    (0x114C3, 0x114C3, 7), (0x115BF, 0x115BF, 9), (0x115C0, 0x115C0, 7), (0x1163F, 0x1163F, 9),
    (0x116B6, 0x116B6, 9), (0x116B7, 0x116B7, 7), (0x1172B, 0x1172B, 9), (0x11839, 0x11839, 9),
    (0x1183A, 0x1183A, 7), (0x1193D, 0x1193E, 9), (0x11943, 0x11943, 7), (0x119E0, 0x119E0, 9),
    (0x11A34, 0x11A34, 9), (0x11A47, 0x11A47, 9), (0x11A99, 0x11A99, 9), (0x11C3F, 0x11C3F, 9),
    (0x11D42, 0x11D42, 7), (0x11D44, 0x11D45, 9), (0x11D97, 0x11D97, 9), (0x11F41, 0x11F42, 9),
    (0x1612F, 0x1612F, 9), (0x16AF0, 0x16AF4, 1), (0x16B30, 0x16B36, 230), (0x16FF0, 0x16FF1, 6),
    (0x1BC9E, 0x1BC9E, 1), (0x1D165, 0x1D166, 216), (0x1D167, 0x1D169, 1), (0x1D16D, 0x1D16D, 226),
    (0x1D16E, 0x1D172, 216), (0x1D17B, 0x1D182, 220), (0x1D185, 0x1D189, 230),
    (0x1D18A, 0x1D18B, 220), (0x1D1AA, 0x1D1AD, 230), (0x1D242, 0x1D244, 230),
    (0x1E000, 0x1E006, 230), (0x1E008, 0x1E018, 230), (0x1E01B, 0x1E021, 230),
    (0x1E023, 0x1E024, 230), (0x1E026, 0x1E02A, 230), (0x1E08F, 0x1E08F, 230),
    (0x1E130, 0x1E136, 230), (0x1E2AE, 0x1E2AE, 230), (0x1E2EC, 0x1E2EF, 230),
    (0x1E4EC, 0x1E4ED, 232), (0x1E4EE, 0x1E4EE, 220), (0x1E4EF, 0x1E4EF, 230),
    (0x1E5EE, 0x1E5EE, 230), (0x1E5EF, 0x1E5EF, 220), (0x1E6E3, 0x1E6E3, 230),
    (0x1E6E6, 0x1E6E6, 230), (0x1E6EE, 0x1E6EF, 230), (0x1E6F5, 0x1E6F5, 230),
    (0x1E8D0, 0x1E8D6, 220), (0x1E944, 0x1E949, 230), (0x1E94A, 0x1E94A, 7)]

end EventLedger.Text
