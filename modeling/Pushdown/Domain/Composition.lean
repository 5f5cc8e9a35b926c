/-!
# Composed characters

A letter and the mark after it, where Unicode has one character for both, are that character.
`compose` puts them together; a text that `compose` leaves alone is in composed form as far as
neighbours go. The pairs are those of characters that may stand in a domain name.
-/

namespace Pushdown.Domain

/-- For a mark, the letters it is put together with and what becomes of them. -/
def compositions : List (Nat × List (Nat × Nat)) := [
    (0x0300, [(0x0061, 0x00E0), (0x0065, 0x00E8), (0x0069, 0x00EC), (0x006E, 0x01F9),
      (0x006F, 0x00F2), (0x0075, 0x00F9), (0x0077, 0x1E81), (0x0079, 0x1EF3), (0x00E2, 0x1EA7),
      (0x00EA, 0x1EC1), (0x00F4, 0x1ED3), (0x00FC, 0x01DC), (0x0103, 0x1EB1), (0x0113, 0x1E15),
      (0x014D, 0x1E51), (0x01A1, 0x1EDD), (0x01B0, 0x1EEB), (0x03B1, 0x1F70), (0x03B5, 0x1F72),
      (0x03B7, 0x1F74), (0x03B9, 0x1F76), (0x03BF, 0x1F78), (0x03C5, 0x1F7A), (0x03C9, 0x1F7C),
      (0x03CA, 0x1FD2), (0x03CB, 0x1FE2), (0x0435, 0x0450), (0x0438, 0x045D), (0x1F00, 0x1F02),
      (0x1F01, 0x1F03), (0x1F10, 0x1F12), (0x1F11, 0x1F13), (0x1F20, 0x1F22), (0x1F21, 0x1F23),
      (0x1F30, 0x1F32), (0x1F31, 0x1F33), (0x1F40, 0x1F42), (0x1F41, 0x1F43), (0x1F50, 0x1F52),
      (0x1F51, 0x1F53), (0x1F60, 0x1F62), (0x1F61, 0x1F63)]),
    (0x0301, [(0x0061, 0x00E1), (0x0063, 0x0107), (0x0065, 0x00E9), (0x0067, 0x01F5),
      (0x0069, 0x00ED), (0x006B, 0x1E31), (0x006C, 0x013A), (0x006D, 0x1E3F), (0x006E, 0x0144),
      (0x006F, 0x00F3), (0x0070, 0x1E55), (0x0072, 0x0155), (0x0073, 0x015B), (0x0075, 0x00FA),
      (0x0077, 0x1E83), (0x0079, 0x00FD), (0x007A, 0x017A), (0x00E2, 0x1EA5), (0x00E5, 0x01FB),
      (0x00E6, 0x01FD), (0x00E7, 0x1E09), (0x00EA, 0x1EBF), (0x00EF, 0x1E2F), (0x00F4, 0x1ED1),
      (0x00F5, 0x1E4D), (0x00F8, 0x01FF), (0x00FC, 0x01D8), (0x0103, 0x1EAF), (0x0113, 0x1E17),
      (0x014D, 0x1E53), (0x0169, 0x1E79), (0x01A1, 0x1EDB), (0x01B0, 0x1EE9), (0x03B1, 0x03AC),
      (0x03B5, 0x03AD), (0x03B7, 0x03AE), (0x03B9, 0x03AF), (0x03BF, 0x03CC), (0x03C5, 0x03CD),
      (0x03C9, 0x03CE), (0x03CA, 0x0390), (0x03CB, 0x03B0), (0x0433, 0x0453), (0x043A, 0x045C),
      (0x1F00, 0x1F04), (0x1F01, 0x1F05), (0x1F10, 0x1F14), (0x1F11, 0x1F15), (0x1F20, 0x1F24),
      (0x1F21, 0x1F25), (0x1F30, 0x1F34), (0x1F31, 0x1F35), (0x1F40, 0x1F44), (0x1F41, 0x1F45),
      (0x1F50, 0x1F54), (0x1F51, 0x1F55), (0x1F60, 0x1F64), (0x1F61, 0x1F65)]),
    (0x0302, [(0x0061, 0x00E2), (0x0063, 0x0109), (0x0065, 0x00EA), (0x0067, 0x011D),
      (0x0068, 0x0125), (0x0069, 0x00EE), (0x006A, 0x0135), (0x006F, 0x00F4), (0x0073, 0x015D),
      (0x0075, 0x00FB), (0x0077, 0x0175), (0x0079, 0x0177), (0x007A, 0x1E91), (0x1EA1, 0x1EAD),
      (0x1EB9, 0x1EC7), (0x1ECD, 0x1ED9)]),
    (0x0303, [(0x0061, 0x00E3), (0x0065, 0x1EBD), (0x0069, 0x0129), (0x006E, 0x00F1),
      (0x006F, 0x00F5), (0x0075, 0x0169), (0x0076, 0x1E7D), (0x0079, 0x1EF9), (0x00E2, 0x1EAB),
      (0x00EA, 0x1EC5), (0x00F4, 0x1ED7), (0x0103, 0x1EB5), (0x01A1, 0x1EE1), (0x01B0, 0x1EEF)]),
    (0x0304, [(0x0061, 0x0101), (0x0065, 0x0113), (0x0067, 0x1E21), (0x0069, 0x012B),
      (0x006F, 0x014D), (0x0075, 0x016B), (0x0079, 0x0233), (0x00E4, 0x01DF), (0x00E6, 0x01E3),
      (0x00F5, 0x022D), (0x00F6, 0x022B), (0x00FC, 0x01D6), (0x01EB, 0x01ED), (0x0227, 0x01E1),
      (0x022F, 0x0231), (0x03B1, 0x1FB1), (0x03B9, 0x1FD1), (0x03C5, 0x1FE1), (0x0438, 0x04E3),
      (0x0443, 0x04EF), (0x1E37, 0x1E39), (0x1E5B, 0x1E5D)]),
    (0x0306, [(0x0061, 0x0103), (0x0065, 0x0115), (0x0067, 0x011F), (0x0069, 0x012D),
      (0x006F, 0x014F), (0x0075, 0x016D), (0x0229, 0x1E1D), (0x03B1, 0x1FB0), (0x03B9, 0x1FD0),
      (0x03C5, 0x1FE0), (0x0430, 0x04D1), (0x0435, 0x04D7), (0x0436, 0x04C2), (0x0438, 0x0439),
      (0x0443, 0x045E), (0x1EA1, 0x1EB7)]),
    (0x0307, [(0x0061, 0x0227), (0x0062, 0x1E03), (0x0063, 0x010B), (0x0064, 0x1E0B),
      (0x0065, 0x0117), (0x0066, 0x1E1F), (0x0067, 0x0121), (0x0068, 0x1E23), (0x006D, 0x1E41),
      (0x006E, 0x1E45), (0x006F, 0x022F), (0x0070, 0x1E57), (0x0072, 0x1E59), (0x0073, 0x1E61),
      (0x0074, 0x1E6B), (0x0077, 0x1E87), (0x0078, 0x1E8B), (0x0079, 0x1E8F), (0x007A, 0x017C),
      (0x015B, 0x1E65), (0x0161, 0x1E67), (0x1E63, 0x1E69), (0x105D2, 0x105C9),
      (0x105DA, 0x105E4)]),
    (0x0308, [(0x0061, 0x00E4), (0x0065, 0x00EB), (0x0068, 0x1E27), (0x0069, 0x00EF),
      (0x006F, 0x00F6), (0x0074, 0x1E97), (0x0075, 0x00FC), (0x0077, 0x1E85), (0x0078, 0x1E8D),
      (0x0079, 0x00FF), (0x00F5, 0x1E4F), (0x016B, 0x1E7B), (0x03B9, 0x03CA), (0x03C5, 0x03CB),
      (0x0430, 0x04D3), (0x0435, 0x0451), (0x0436, 0x04DD), (0x0437, 0x04DF), (0x0438, 0x04E5),
      (0x043E, 0x04E7), (0x0443, 0x04F1), (0x0447, 0x04F5), (0x044B, 0x04F9), (0x044D, 0x04ED),
      (0x0456, 0x0457), (0x04D9, 0x04DB), (0x04E9, 0x04EB)]),
    (0x0309, [(0x0061, 0x1EA3), (0x0065, 0x1EBB), (0x0069, 0x1EC9), (0x006F, 0x1ECF),
      (0x0075, 0x1EE7), (0x0079, 0x1EF7), (0x00E2, 0x1EA9), (0x00EA, 0x1EC3), (0x00F4, 0x1ED5),
      (0x0103, 0x1EB3), (0x01A1, 0x1EDF), (0x01B0, 0x1EED)]),
    (0x030A, [(0x0061, 0x00E5), (0x0075, 0x016F), (0x0077, 0x1E98), (0x0079, 0x1E99)]),
    (0x030B, [(0x006F, 0x0151), (0x0075, 0x0171), (0x0443, 0x04F3)]),
    (0x030C, [(0x0061, 0x01CE), (0x0063, 0x010D), (0x0064, 0x010F), (0x0065, 0x011B),
      (0x0067, 0x01E7), (0x0068, 0x021F), (0x0069, 0x01D0), (0x006A, 0x01F0), (0x006B, 0x01E9),
      (0x006C, 0x013E), (0x006E, 0x0148), (0x006F, 0x01D2), (0x0072, 0x0159), (0x0073, 0x0161),
      (0x0074, 0x0165), (0x0075, 0x01D4), (0x007A, 0x017E), (0x00FC, 0x01DA), (0x0292, 0x01EF)]),
    (0x030F, [(0x0061, 0x0201), (0x0065, 0x0205), (0x0069, 0x0209), (0x006F, 0x020D),
      (0x0072, 0x0211), (0x0075, 0x0215), (0x0475, 0x0477)]),
    (0x0311, [(0x0061, 0x0203), (0x0065, 0x0207), (0x0069, 0x020B), (0x006F, 0x020F),
      (0x0072, 0x0213), (0x0075, 0x0217)]),
    (0x0313, [(0x03B1, 0x1F00), (0x03B5, 0x1F10), (0x03B7, 0x1F20), (0x03B9, 0x1F30),
      (0x03BF, 0x1F40), (0x03C1, 0x1FE4), (0x03C5, 0x1F50), (0x03C9, 0x1F60)]),
    (0x0314, [(0x03B1, 0x1F01), (0x03B5, 0x1F11), (0x03B7, 0x1F21), (0x03B9, 0x1F31),
      (0x03BF, 0x1F41), (0x03C1, 0x1FE5), (0x03C5, 0x1F51), (0x03C9, 0x1F61)]),
    (0x031B, [(0x006F, 0x01A1), (0x0075, 0x01B0)]),
    (0x0323, [(0x0061, 0x1EA1), (0x0062, 0x1E05), (0x0064, 0x1E0D), (0x0065, 0x1EB9),
      (0x0068, 0x1E25), (0x0069, 0x1ECB), (0x006B, 0x1E33), (0x006C, 0x1E37), (0x006D, 0x1E43),
      (0x006E, 0x1E47), (0x006F, 0x1ECD), (0x0072, 0x1E5B), (0x0073, 0x1E63), (0x0074, 0x1E6D),
      (0x0075, 0x1EE5), (0x0076, 0x1E7F), (0x0077, 0x1E89), (0x0079, 0x1EF5), (0x007A, 0x1E93),
      (0x01A1, 0x1EE3), (0x01B0, 0x1EF1)]),
    (0x0324, [(0x0075, 0x1E73)]),
    (0x0325, [(0x0061, 0x1E01)]),
    (0x0326, [(0x0073, 0x0219), (0x0074, 0x021B)]),
    (0x0327, [(0x0063, 0x00E7), (0x0064, 0x1E11), (0x0065, 0x0229), (0x0067, 0x0123),
      (0x0068, 0x1E29), (0x006B, 0x0137), (0x006C, 0x013C), (0x006E, 0x0146), (0x0072, 0x0157),
      (0x0073, 0x015F), (0x0074, 0x0163)]),
    (0x0328, [(0x0061, 0x0105), (0x0065, 0x0119), (0x0069, 0x012F), (0x006F, 0x01EB),
      (0x0075, 0x0173)]),
    (0x032D, [(0x0064, 0x1E13), (0x0065, 0x1E19), (0x006C, 0x1E3D), (0x006E, 0x1E4B),
      (0x0074, 0x1E71), (0x0075, 0x1E77)]),
    (0x032E, [(0x0068, 0x1E2B)]),
    (0x0330, [(0x0065, 0x1E1B), (0x0069, 0x1E2D), (0x0075, 0x1E75)]),
    (0x0331, [(0x0062, 0x1E07), (0x0064, 0x1E0F), (0x0068, 0x1E96), (0x006B, 0x1E35),
      (0x006C, 0x1E3B), (0x006E, 0x1E49), (0x0072, 0x1E5F), (0x0074, 0x1E6F), (0x007A, 0x1E95)]),
    (0x0338, [(0x003D, 0x2260), (0x2190, 0x219A), (0x2192, 0x219B), (0x2194, 0x21AE),
      (0x21D0, 0x21CD), (0x21D2, 0x21CF), (0x21D4, 0x21CE), (0x2203, 0x2204), (0x2208, 0x2209),
      (0x220B, 0x220C), (0x2223, 0x2224), (0x2225, 0x2226), (0x223C, 0x2241), (0x2243, 0x2244),
      (0x2245, 0x2247), (0x2248, 0x2249), (0x224D, 0x226D), (0x2261, 0x2262), (0x2264, 0x2270),
      (0x2265, 0x2271), (0x2272, 0x2274), (0x2273, 0x2275), (0x2276, 0x2278), (0x2277, 0x2279),
      (0x227A, 0x2280), (0x227B, 0x2281), (0x227C, 0x22E0), (0x227D, 0x22E1), (0x2282, 0x2284),
      (0x2283, 0x2285), (0x2286, 0x2288), (0x2287, 0x2289), (0x2291, 0x22E2), (0x2292, 0x22E3),
      (0x22A2, 0x22AC), (0x22A8, 0x22AD), (0x22A9, 0x22AE), (0x22AB, 0x22AF), (0x22B2, 0x22EA),
      (0x22B3, 0x22EB), (0x22B4, 0x22EC), (0x22B5, 0x22ED)]),
    (0x0342, [(0x03B1, 0x1FB6), (0x03B7, 0x1FC6), (0x03B9, 0x1FD6), (0x03C5, 0x1FE6),
      (0x03C9, 0x1FF6), (0x03CA, 0x1FD7), (0x03CB, 0x1FE7), (0x1F00, 0x1F06), (0x1F01, 0x1F07),
      (0x1F20, 0x1F26), (0x1F21, 0x1F27), (0x1F30, 0x1F36), (0x1F31, 0x1F37), (0x1F50, 0x1F56),
      (0x1F51, 0x1F57), (0x1F60, 0x1F66), (0x1F61, 0x1F67)]),
    (0x0653, [(0x0627, 0x0622)]),
    (0x0654, [(0x0627, 0x0623), (0x0648, 0x0624), (0x064A, 0x0626), (0x06C1, 0x06C2),
      (0x06D2, 0x06D3), (0x06D5, 0x06C0)]),
    (0x0655, [(0x0627, 0x0625)]),
    (0x093C, [(0x0928, 0x0929), (0x0930, 0x0931), (0x0933, 0x0934)]),
    (0x09BE, [(0x09C7, 0x09CB)]),
    (0x09D7, [(0x09C7, 0x09CC)]),
    (0x0B3E, [(0x0B47, 0x0B4B)]),
    (0x0B56, [(0x0B47, 0x0B48)]),
    (0x0B57, [(0x0B47, 0x0B4C)]),
    (0x0BBE, [(0x0BC6, 0x0BCA), (0x0BC7, 0x0BCB)]),
    (0x0BD7, [(0x0B92, 0x0B94), (0x0BC6, 0x0BCC)]),
    (0x0C56, [(0x0C46, 0x0C48)]),
    (0x0CC2, [(0x0CC6, 0x0CCA)]),
    (0x0CD5, [(0x0CBF, 0x0CC0), (0x0CC6, 0x0CC7), (0x0CCA, 0x0CCB)]),
    (0x0CD6, [(0x0CC6, 0x0CC8)]),
    (0x0D3E, [(0x0D46, 0x0D4A), (0x0D47, 0x0D4B)]),
    (0x0D57, [(0x0D46, 0x0D4C)]),
    (0x0DCA, [(0x0DD9, 0x0DDA), (0x0DDC, 0x0DDD)]),
    (0x0DCF, [(0x0DD9, 0x0DDC)]),
    (0x0DDF, [(0x0DD9, 0x0DDE)]),
    (0x102E, [(0x1025, 0x1026)]),
    (0x1B35, [(0x1B05, 0x1B06), (0x1B07, 0x1B08), (0x1B09, 0x1B0A), (0x1B0B, 0x1B0C),
      (0x1B0D, 0x1B0E), (0x1B11, 0x1B12), (0x1B3A, 0x1B3B), (0x1B3C, 0x1B3D), (0x1B3E, 0x1B40),
      (0x1B3F, 0x1B41), (0x1B42, 0x1B43)]),
    (0x3099, [(0x3046, 0x3094), (0x304B, 0x304C), (0x304D, 0x304E), (0x304F, 0x3050),
      (0x3051, 0x3052), (0x3053, 0x3054), (0x3055, 0x3056), (0x3057, 0x3058), (0x3059, 0x305A),
      (0x305B, 0x305C), (0x305D, 0x305E), (0x305F, 0x3060), (0x3061, 0x3062), (0x3064, 0x3065),
      (0x3066, 0x3067), (0x3068, 0x3069), (0x306F, 0x3070), (0x3072, 0x3073), (0x3075, 0x3076),
      (0x3078, 0x3079), (0x307B, 0x307C), (0x309D, 0x309E), (0x30A6, 0x30F4), (0x30AB, 0x30AC),
      (0x30AD, 0x30AE), (0x30AF, 0x30B0), (0x30B1, 0x30B2), (0x30B3, 0x30B4), (0x30B5, 0x30B6),
      (0x30B7, 0x30B8), (0x30B9, 0x30BA), (0x30BB, 0x30BC), (0x30BD, 0x30BE), (0x30BF, 0x30C0),
      (0x30C1, 0x30C2), (0x30C4, 0x30C5), (0x30C6, 0x30C7), (0x30C8, 0x30C9), (0x30CF, 0x30D0),
      (0x30D2, 0x30D3), (0x30D5, 0x30D6), (0x30D8, 0x30D9), (0x30DB, 0x30DC), (0x30EF, 0x30F7),
      (0x30F0, 0x30F8), (0x30F1, 0x30F9), (0x30F2, 0x30FA), (0x30FD, 0x30FE)]),
    (0x309A, [(0x306F, 0x3071), (0x3072, 0x3074), (0x3075, 0x3077), (0x3078, 0x307A),
      (0x307B, 0x307D), (0x30CF, 0x30D1), (0x30D2, 0x30D4), (0x30D5, 0x30D7), (0x30D8, 0x30DA),
      (0x30DB, 0x30DD)]),
    (0x110BA, [(0x11099, 0x1109A), (0x1109B, 0x1109C), (0x110A5, 0x110AB)]),
    (0x11127, [(0x11131, 0x1112E), (0x11132, 0x1112F)]),
    (0x1133E, [(0x11347, 0x1134B)]),
    (0x11357, [(0x11347, 0x1134C)]),
    (0x113B8, [(0x113C2, 0x113C7)]),
    (0x113BB, [(0x11384, 0x11385)]),
    (0x113C2, [(0x1138B, 0x1138E), (0x113C2, 0x113C5)]),
    (0x113C9, [(0x11382, 0x11383), (0x11390, 0x11391), (0x113C2, 0x113C8)]),
    (0x114B0, [(0x114B9, 0x114BC)]),
    (0x114BA, [(0x114B9, 0x114BB)]),
    (0x114BD, [(0x114B9, 0x114BE)]),
    (0x115AF, [(0x115B8, 0x115BA), (0x115B9, 0x115BB)]),
    (0x11930, [(0x11935, 0x11938)]),
    (0x1611E, [(0x1611E, 0x16121)]),
    (0x1611F, [(0x1611E, 0x16123), (0x16121, 0x16126), (0x16122, 0x16127), (0x16129, 0x16124)]),
    (0x16120, [(0x1611E, 0x16125), (0x16121, 0x16128)]),
    (0x16129, [(0x1611E, 0x16122)]),
    (0x16D67, [(0x16D63, 0x16D69), (0x16D67, 0x16D68), (0x16D69, 0x16D6A)])]

/-- The character for two, if there is one. A Korean syllable is put together from its parts by
their numbers. -/
def composed? (base mark : Char) : Option Char :=
  let b := base.toNat
  let m := mark.toNat
  if 0x1100 ≤ b ∧ b ≤ 0x1112 ∧ 0x1161 ≤ m ∧ m ≤ 0x1175 then
    some (Char.ofNat (0xAC00 + ((b - 0x1100) * 21 + (m - 0x1161)) * 28))
  else if 0xAC00 ≤ b ∧ b ≤ 0xD7A3 ∧ (b - 0xAC00) % 28 = 0 ∧ 0x11A8 ≤ m ∧ m ≤ 0x11C2 then
    some (Char.ofNat (b + (m - 0x11A7)))
  else
    (compositions.lookup m).bind fun pairs => (pairs.lookup b).map Char.ofNat

/-- The characters with every mark put together with the letter right before it, given that
letter. -/
def composeAfter (base : Char) : List Char → List Char
  | [] => [base]
  | c :: rest =>
    match composed? base c with
    | some both => composeAfter both rest
    | none => base :: composeAfter c rest

/-- The characters with every mark put together with the letter right before it. -/
def compose : List Char → List Char
  | [] => []
  | c :: rest => composeAfter c rest

end Pushdown.Domain
