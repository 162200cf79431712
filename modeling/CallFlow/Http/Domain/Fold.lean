import CallFlow.Http.Domain.Refused

/-!
# Spellings of a domain name

A name may be spelt in several ways: with capital letters, with wide, circled or otherwise styled
letters and digits, and with characters that do not show.  Folding brings all of them to one
spelling as far as it is ASCII; other letters are kept as they are.  The tables list the characters
above ASCII that stand for others, in order.
-/

namespace CallFlow.Http.Domain

/-- The ranges of characters that are left out. -/
def ignoredRanges : Text.Ranges :=
  [(0xAD, 0xAD), (0x34F, 0x34F), (0x115F, 0x1160), (0x17B4, 0x17B5), (0x180B, 0x180F),
   (0x200B, 0x200B), (0x2060, 0x2064), (0x206A, 0x206F), (0x3164, 0x3164), (0xFE00, 0xFE0F),
   (0xFEFF, 0xFEFF), (0xFFA0, 0xFFA0), (0x1BCA0, 0x1BCA3), (0x1D173, 0x1D17A), (0xE0100, 0xE01EF)]

/-- Ranges of characters that stand for successive ASCII characters: the first, the last, and the
number of the ASCII character that the first stands for. -/
def asciiRuns : List (Nat × Nat × Nat) :=
  [(0xAA, 0xAA, 0x61), (0xB2, 0xB3, 0x32), (0xB9, 0xB9, 0x31), (0xBA, 0xBA, 0x6F),
   (0x17F, 0x17F, 0x73), (0x2B0, 0x2B0, 0x68), (0x2B2, 0x2B2, 0x6A), (0x2B3, 0x2B3, 0x72),
   (0x2B7, 0x2B7, 0x77), (0x2B8, 0x2B8, 0x79), (0x2E1, 0x2E1, 0x6C), (0x2E2, 0x2E2, 0x73),
   (0x2E3, 0x2E3, 0x78), (0x37E, 0x37E, 0x3B), (0x1D2C, 0x1D2C, 0x61), (0x1D2E, 0x1D2E, 0x62),
   (0x1D30, 0x1D31, 0x64), (0x1D33, 0x1D3A, 0x67), (0x1D3C, 0x1D3C, 0x6F), (0x1D3E, 0x1D3E, 0x70),
   (0x1D3F, 0x1D3F, 0x72), (0x1D40, 0x1D41, 0x74), (0x1D42, 0x1D42, 0x77), (0x1D43, 0x1D43, 0x61),
   (0x1D47, 0x1D47, 0x62), (0x1D48, 0x1D49, 0x64), (0x1D4D, 0x1D4D, 0x67), (0x1D4F, 0x1D4F, 0x6B),
   (0x1D50, 0x1D50, 0x6D), (0x1D52, 0x1D52, 0x6F), (0x1D56, 0x1D56, 0x70), (0x1D57, 0x1D58, 0x74),
   (0x1D5B, 0x1D5B, 0x76), (0x1D62, 0x1D62, 0x69), (0x1D63, 0x1D63, 0x72), (0x1D64, 0x1D65, 0x75),
   (0x1D9C, 0x1D9C, 0x63), (0x1DA0, 0x1DA0, 0x66), (0x1DBB, 0x1DBB, 0x7A), (0x1FEF, 0x1FEF, 0x60),
   (0x2070, 0x2070, 0x30), (0x2071, 0x2071, 0x69), (0x2074, 0x2079, 0x34), (0x207A, 0x207A, 0x2B),
   (0x207C, 0x207C, 0x3D), (0x207D, 0x207E, 0x28), (0x207F, 0x207F, 0x6E), (0x2080, 0x2089, 0x30),
   (0x208A, 0x208A, 0x2B), (0x208C, 0x208C, 0x3D), (0x208D, 0x208E, 0x28), (0x2090, 0x2090, 0x61),
   (0x2091, 0x2091, 0x65), (0x2092, 0x2092, 0x6F), (0x2093, 0x2093, 0x78), (0x2095, 0x2095, 0x68),
   (0x2096, 0x2099, 0x6B), (0x209A, 0x209A, 0x70), (0x209B, 0x209C, 0x73), (0x2102, 0x2102, 0x63),
   (0x210A, 0x210B, 0x67), (0x210C, 0x210C, 0x68), (0x210D, 0x210D, 0x68), (0x210E, 0x210E, 0x68),
   (0x2110, 0x2110, 0x69), (0x2111, 0x2111, 0x69), (0x2112, 0x2112, 0x6C), (0x2113, 0x2113, 0x6C),
   (0x2115, 0x2115, 0x6E), (0x2119, 0x211B, 0x70), (0x211C, 0x211C, 0x72), (0x211D, 0x211D, 0x72),
   (0x2124, 0x2124, 0x7A), (0x2128, 0x2128, 0x7A), (0x212A, 0x212A, 0x6B), (0x212C, 0x212D, 0x62),
   (0x212F, 0x212F, 0x65), (0x2130, 0x2131, 0x65), (0x2133, 0x2133, 0x6D), (0x2134, 0x2134, 0x6F),
   (0x2139, 0x2139, 0x69), (0x2145, 0x2145, 0x64), (0x2146, 0x2147, 0x64), (0x2148, 0x2149, 0x69),
   (0x2160, 0x2160, 0x69), (0x2164, 0x2164, 0x76), (0x2169, 0x2169, 0x78), (0x216C, 0x216C, 0x6C),
   (0x216D, 0x216E, 0x63), (0x216F, 0x216F, 0x6D), (0x2170, 0x2170, 0x69), (0x2174, 0x2174, 0x76),
   (0x2179, 0x2179, 0x78), (0x217C, 0x217C, 0x6C), (0x217D, 0x217E, 0x63), (0x217F, 0x217F, 0x6D),
   (0x2460, 0x2468, 0x31), (0x24B6, 0x24CF, 0x61), (0x24D0, 0x24E9, 0x61), (0x24EA, 0x24EA, 0x30),
   (0x2C7C, 0x2C7C, 0x6A), (0x2C7D, 0x2C7D, 0x76), (0x3002, 0x3002, 0x2E), (0xA7F1, 0xA7F1, 0x73),
   (0xA7F2, 0xA7F2, 0x63), (0xA7F3, 0xA7F3, 0x66), (0xA7F4, 0xA7F4, 0x71), (0xFB29, 0xFB29, 0x2B),
   (0xFE10, 0xFE10, 0x2C), (0xFE14, 0xFE14, 0x3B), (0xFE15, 0xFE15, 0x21), (0xFE33, 0xFE33, 0x5F),
   (0xFE34, 0xFE34, 0x5F), (0xFE35, 0xFE36, 0x28), (0xFE37, 0xFE37, 0x7B), (0xFE38, 0xFE38, 0x7D),
   (0xFE4D, 0xFE4D, 0x5F), (0xFE4E, 0xFE4E, 0x5F), (0xFE4F, 0xFE4F, 0x5F), (0xFE50, 0xFE50, 0x2C),
   (0xFE54, 0xFE54, 0x3B), (0xFE57, 0xFE57, 0x21), (0xFE59, 0xFE5A, 0x28), (0xFE5B, 0xFE5B, 0x7B),
   (0xFE5C, 0xFE5C, 0x7D), (0xFE60, 0xFE60, 0x26), (0xFE61, 0xFE62, 0x2A), (0xFE63, 0xFE63, 0x2D),
   (0xFE66, 0xFE66, 0x3D), (0xFE69, 0xFE69, 0x24), (0xFF01, 0xFF02, 0x21), (0xFF04, 0xFF04, 0x24),
   (0xFF06, 0xFF0E, 0x26), (0xFF10, 0xFF19, 0x30), (0xFF1B, 0xFF1B, 0x3B), (0xFF1D, 0xFF1D, 0x3D),
   (0xFF21, 0xFF3A, 0x61), (0xFF3F, 0xFF5B, 0x5F), (0xFF5D, 0xFF5E, 0x7D), (0xFF61, 0xFF61, 0x2E),
   (0x107A5, 0x107A5, 0x71), (0x1CCD6, 0x1CCEF, 0x61), (0x1CCF0, 0x1CCF9, 0x30),
   (0x1D400, 0x1D419, 0x61), (0x1D41A, 0x1D433, 0x61), (0x1D434, 0x1D44D, 0x61),
   (0x1D44E, 0x1D454, 0x61), (0x1D456, 0x1D467, 0x69), (0x1D468, 0x1D481, 0x61),
   (0x1D482, 0x1D49B, 0x61), (0x1D49C, 0x1D49C, 0x61), (0x1D49E, 0x1D49F, 0x63),
   (0x1D4A2, 0x1D4A2, 0x67), (0x1D4A5, 0x1D4A6, 0x6A), (0x1D4A9, 0x1D4AC, 0x6E),
   (0x1D4AE, 0x1D4B5, 0x73), (0x1D4B6, 0x1D4B9, 0x61), (0x1D4BB, 0x1D4BB, 0x66),
   (0x1D4BD, 0x1D4C3, 0x68), (0x1D4C5, 0x1D4CF, 0x70), (0x1D4D0, 0x1D4E9, 0x61),
   (0x1D4EA, 0x1D503, 0x61), (0x1D504, 0x1D505, 0x61), (0x1D507, 0x1D50A, 0x64),
   (0x1D50D, 0x1D514, 0x6A), (0x1D516, 0x1D51C, 0x73), (0x1D51E, 0x1D537, 0x61),
   (0x1D538, 0x1D539, 0x61), (0x1D53B, 0x1D53E, 0x64), (0x1D540, 0x1D544, 0x69),
   (0x1D546, 0x1D546, 0x6F), (0x1D54A, 0x1D550, 0x73), (0x1D552, 0x1D56B, 0x61),
   (0x1D56C, 0x1D585, 0x61), (0x1D586, 0x1D59F, 0x61), (0x1D5A0, 0x1D5B9, 0x61),
   (0x1D5BA, 0x1D5D3, 0x61), (0x1D5D4, 0x1D5ED, 0x61), (0x1D5EE, 0x1D607, 0x61),
   (0x1D608, 0x1D621, 0x61), (0x1D622, 0x1D63B, 0x61), (0x1D63C, 0x1D655, 0x61),
   (0x1D656, 0x1D66F, 0x61), (0x1D670, 0x1D689, 0x61), (0x1D68A, 0x1D6A3, 0x61),
   (0x1D7CE, 0x1D7D7, 0x30), (0x1D7D8, 0x1D7E1, 0x30), (0x1D7E2, 0x1D7EB, 0x30),
   (0x1D7EC, 0x1D7F5, 0x30), (0x1D7F6, 0x1D7FF, 0x30), (0x1F12B, 0x1F12B, 0x63),
   (0x1F12C, 0x1F12C, 0x72), (0x1F130, 0x1F149, 0x61), (0x1FBF0, 0x1FBF9, 0x30)]

/-- Characters that stand for several ASCII letters or digits. -/
def asciiTexts : List (Nat × String) :=
  [(0x132, "ij"), (0x133, "ij"), (0x1C7, "lj"), (0x1C8, "lj"), (0x1C9, "lj"), (0x1CA, "nj"),
   (0x1CB, "nj"), (0x1CC, "nj"), (0x1F1, "dz"), (0x1F2, "dz"), (0x1F3, "dz"), (0x20A8, "rs"),
   (0x2116, "no"), (0x2120, "sm"), (0x2121, "tel"), (0x2122, "tm"), (0x213B, "fax"), (0x2161, "ii"),
   (0x2162, "iii"), (0x2163, "iv"), (0x2165, "vi"), (0x2166, "vii"), (0x2167, "viii"),
   (0x2168, "ix"), (0x216A, "xi"), (0x216B, "xii"), (0x2171, "ii"), (0x2172, "iii"), (0x2173, "iv"),
   (0x2175, "vi"), (0x2176, "vii"), (0x2177, "viii"), (0x2178, "ix"), (0x217A, "xi"),
   (0x217B, "xii"), (0x2469, "10"), (0x246A, "11"), (0x246B, "12"), (0x246C, "13"), (0x246D, "14"),
   (0x246E, "15"), (0x246F, "16"), (0x2470, "17"), (0x2471, "18"), (0x2472, "19"), (0x2473, "20"),
   (0x3250, "pte"), (0x3251, "21"), (0x3252, "22"), (0x3253, "23"), (0x3254, "24"), (0x3255, "25"),
   (0x3256, "26"), (0x3257, "27"), (0x3258, "28"), (0x3259, "29"), (0x325A, "30"), (0x325B, "31"),
   (0x325C, "32"), (0x325D, "33"), (0x325E, "34"), (0x325F, "35"), (0x32B1, "36"), (0x32B2, "37"),
   (0x32B3, "38"), (0x32B4, "39"), (0x32B5, "40"), (0x32B6, "41"), (0x32B7, "42"), (0x32B8, "43"),
   (0x32B9, "44"), (0x32BA, "45"), (0x32BB, "46"), (0x32BC, "47"), (0x32BD, "48"), (0x32BE, "49"),
   (0x32BF, "50"), (0x32CC, "hg"), (0x32CD, "erg"), (0x32CE, "ev"), (0x32CF, "ltd"),
   (0x3371, "hpa"), (0x3372, "da"), (0x3373, "au"), (0x3374, "bar"), (0x3375, "ov"), (0x3376, "pc"),
   (0x3377, "dm"), (0x3378, "dm2"), (0x3379, "dm3"), (0x337A, "iu"), (0x3380, "pa"), (0x3381, "na"),
   (0x3383, "ma"), (0x3384, "ka"), (0x3385, "kb"), (0x3386, "mb"), (0x3387, "gb"), (0x3388, "cal"),
   (0x3389, "kcal"), (0x338A, "pf"), (0x338B, "nf"), (0x338E, "mg"), (0x338F, "kg"), (0x3390, "hz"),
   (0x3391, "khz"), (0x3392, "mhz"), (0x3393, "ghz"), (0x3394, "thz"), (0x3396, "ml"),
   (0x3397, "dl"), (0x3398, "kl"), (0x3399, "fm"), (0x339A, "nm"), (0x339C, "mm"), (0x339D, "cm"),
   (0x339E, "km"), (0x339F, "mm2"), (0x33A0, "cm2"), (0x33A1, "m2"), (0x33A2, "km2"),
   (0x33A3, "mm3"), (0x33A4, "cm3"), (0x33A5, "m3"), (0x33A6, "km3"), (0x33A9, "pa"),
   (0x33AA, "kpa"), (0x33AB, "mpa"), (0x33AC, "gpa"), (0x33AD, "rad"), (0x33B0, "ps"),
   (0x33B1, "ns"), (0x33B3, "ms"), (0x33B4, "pv"), (0x33B5, "nv"), (0x33B7, "mv"), (0x33B8, "kv"),
   (0x33B9, "mv"), (0x33BA, "pw"), (0x33BB, "nw"), (0x33BD, "mw"), (0x33BE, "kw"), (0x33BF, "mw"),
   (0x33C3, "bq"), (0x33C4, "cc"), (0x33C5, "cd"), (0x33C8, "db"), (0x33C9, "gy"), (0x33CA, "ha"),
   (0x33CB, "hp"), (0x33CC, "in"), (0x33CD, "kk"), (0x33CE, "km"), (0x33CF, "kt"), (0x33D0, "lm"),
   (0x33D1, "ln"), (0x33D2, "log"), (0x33D3, "lx"), (0x33D4, "mb"), (0x33D5, "mil"),
   (0x33D6, "mol"), (0x33D7, "ph"), (0x33D9, "ppm"), (0x33DA, "pr"), (0x33DB, "sr"), (0x33DC, "sv"),
   (0x33DD, "wb"), (0x33FF, "gal"), (0xFB00, "ff"), (0xFB01, "fi"), (0xFB02, "fl"), (0xFB03, "ffi"),
   (0xFB04, "ffl"), (0xFB05, "st"), (0xFB06, "st"), (0x1F12D, "cd"), (0x1F12E, "wz"),
   (0x1F14A, "hv"), (0x1F14B, "mv"), (0x1F14C, "sd"), (0x1F14D, "ss"), (0x1F14E, "ppv"),
   (0x1F14F, "wc"), (0x1F16A, "mc"), (0x1F16B, "md"), (0x1F16C, "mr"), (0x1F190, "dj")]

/-- Ranges of characters that stand for others or are left out.  A refused character may lie between
them. -/
def replacedRanges : Text.Ranges :=
  [(0xAA, 0xAA), (0xAD, 0xAD), (0xB2, 0xB5), (0xB9, 0xBA), (0xBD, 0xBE), (0xC1, 0xD6), (0xD9, 0xDE),
   (0x133, 0x134), (0x140, 0x141), (0x18A, 0x18B), (0x18E, 0x191), (0x193, 0x194), (0x196, 0x198),
   (0x19C, 0x19D), (0x19F, 0x1A0), (0x1B2, 0x1B3), (0x1B8, 0x1B8), (0x1BC, 0x1BC), (0x1C4, 0x1CD),
   (0x1F1, 0x1F4), (0x1F7, 0x1F8), (0x23A, 0x23B), (0x23D, 0x23E), (0x2B0, 0x2B8), (0x2E0, 0x2E4),
   (0x340, 0x341), (0x343, 0x345), (0x34F, 0x34F), (0x37E, 0x38F), (0x391, 0x3AB), (0x3CF, 0x3D6),
   (0x3F1, 0x3F2), (0x3FA, 0x3FA), (0x3FD, 0x42F), (0x531, 0x556), (0x587, 0x587), (0x675, 0x678),
   (0x958, 0x95F), (0x9DC, 0x9DF), (0xA33, 0xA33), (0xA36, 0xA36), (0xA59, 0xA5B), (0xA5E, 0xA5E),
   (0xB5C, 0xB5D), (0xE33, 0xE33), (0xEB3, 0xEB3), (0xEDC, 0xEDD), (0xF0C, 0xF0C), (0xF43, 0xF43),
   (0xF4D, 0xF4D), (0xF52, 0xF52), (0xF57, 0xF57), (0xF5C, 0xF5C), (0xF69, 0xF69), (0xF76, 0xF79),
   (0xF81, 0xF81), (0xF93, 0xF93), (0xF9D, 0xF9D), (0xFA2, 0xFA2), (0xFA7, 0xFA7), (0xFAC, 0xFAC),
   (0xFB9, 0xFB9), (0x10A0, 0x10CD), (0x10FC, 0x10FC), (0x115F, 0x1160), (0x13F8, 0x13FD),
   (0x17B4, 0x17B5), (0x180B, 0x180F), (0x1C80, 0x1C89), (0x1C90, 0x1CBF), (0x1D2D, 0x1D2E),
   (0x1D31, 0x1D3A), (0x1D50, 0x1D6A), (0x1D78, 0x1D78), (0x1D9B, 0x1DBF), (0x1E9A, 0x1E9B),
   (0x1F08, 0x1F0F), (0x1F18, 0x1F1D), (0x1F28, 0x1F2F), (0x1F38, 0x1F3F), (0x1F48, 0x1F4D),
   (0x1F59, 0x1F5F), (0x1F68, 0x1F6F), (0x1F80, 0x1FAF), (0x1FB2, 0x1FB4), (0x1FB7, 0x1FC4),
   (0x1FC7, 0x1FCC), (0x1FD3, 0x1FD3), (0x1FD8, 0x1FDB), (0x1FE3, 0x1FE3), (0x1FE8, 0x1FF4),
   (0x1FF7, 0x200B), (0x2011, 0x2011), (0x2033, 0x2034), (0x2036, 0x2037), (0x203C, 0x203C),
   (0x2057, 0x2057), (0x2060, 0x209C), (0x20A8, 0x20A8), (0x2102, 0x2103), (0x210A, 0x2113),
   (0x2116, 0x2116), (0x2119, 0x211D), (0x2121, 0x2122), (0x2130, 0x2139), (0x213C, 0x2140),
   (0x2145, 0x2149), (0x2150, 0x217F), (0x2183, 0x2183), (0x2189, 0x2189), (0x222C, 0x222D),
   (0x222F, 0x2230), (0x2329, 0x232A), (0x2460, 0x24EA), (0x2A0C, 0x2A0C), (0x2A75, 0x2A76),
   (0x2ADC, 0x2ADC), (0x2C00, 0x2C2F), (0x2C63, 0x2C64), (0x2C6E, 0x2C70), (0x2C72, 0x2C72),
   (0x2C75, 0x2C75), (0x2C7D, 0x2C80), (0x2CF2, 0x2CF2), (0x2D6F, 0x2D6F), (0x2E9F, 0x2E9F),
   (0x2EF3, 0x2FD5), (0x3002, 0x3002), (0x3039, 0x303A), (0x309F, 0x309F), (0x30FF, 0x30FF),
   (0x3131, 0x318E), (0x3192, 0x319F), (0x3200, 0x3247), (0x3251, 0x327E), (0x3281, 0x33FF),
   (0xA69D, 0xA69D), (0xA7AB, 0xA7AE), (0xA7B1, 0xA7B4), (0xA7F1, 0xA7F5), (0xA7F8, 0xA7F9),
   (0xAB5C, 0xAB5F), (0xAB69, 0xAB69), (0xAB70, 0xABBF), (0xF900, 0xFA0D), (0xFA15, 0xFA1E),
   (0xFA25, 0xFA26), (0xFA2A, 0xFB1D), (0xFB1F, 0xFBB1), (0xFBD3, 0xFD3D), (0xFD50, 0xFD8F),
   (0xFD92, 0xFDC7), (0xFDF0, 0xFDFC), (0xFE00, 0xFE18), (0xFE31, 0xFE44), (0xFE4D, 0xFE71),
   (0xFE77, 0xFFEE), (0x10400, 0x10427), (0x104B0, 0x104D3), (0x10570, 0x10595), (0x10781, 0x107BA),
   (0x10C80, 0x10CB2), (0x10D50, 0x10D65), (0x118A0, 0x118BF), (0x16E40, 0x16E5F),
   (0x16EA0, 0x16EB8), (0x1BCA0, 0x1BCA3), (0x1CCD6, 0x1CCF9), (0x1D15E, 0x1D164),
   (0x1D173, 0x1D17A), (0x1D1BB, 0x1D1C0), (0x1D400, 0x1D7FF), (0x1E030, 0x1E06D),
   (0x1E900, 0x1E921), (0x1EE00, 0x1EEBB), (0x1F101, 0x1F10A), (0x1F111, 0x1F12E),
   (0x1F131, 0x1F14F), (0x1F16A, 0x1F16C), (0x1F190, 0x1F190), (0x1F200, 0x1F251),
   (0x1FBF0, 0x1FBF9), (0x2F800, 0x2FA1D), (0xE0100, 0xE01EF)]

/-- Ranges in which every second character, from the first on, stands for another one, such as a
capital letter for the small one behind it. -/
def replacedAlternating : List (Nat × Nat) :=
  [(0xBC, 0xDE), (0x100, 0x136), (0x139, 0x149), (0x14A, 0x178), (0x179, 0x181), (0x182, 0x186),
   (0x187, 0x18B), (0x1A2, 0x1A6), (0x1A7, 0x1A9), (0x1AC, 0x1AE), (0x1AF, 0x1B7), (0x1CF, 0x1DB),
   (0x1DE, 0x1EE), (0x1F6, 0x232), (0x241, 0x245), (0x244, 0x24E), (0x370, 0x376), (0x3D8, 0x3F4),
   (0x3F5, 0x3F9), (0x460, 0x480), (0x48A, 0x4C0), (0x4C1, 0x4CD), (0x4D0, 0x556), (0xF73, 0xF79),
   (0x1D2C, 0x1D4C), (0x1D3D, 0x1D69), (0x1E00, 0x1E94), (0x1E9E, 0x1EFE), (0x1F71, 0x1FAF),
   (0x2107, 0x2115), (0x2120, 0x212C), (0x212B, 0x213F), (0x2C60, 0x2C64), (0x2C67, 0x2C6F),
   (0x2C7C, 0x2CE2), (0x2CEB, 0x2CED), (0x3036, 0x303A), (0x3250, 0x33FE), (0xA640, 0xA66C),
   (0xA680, 0xA69C), (0xA722, 0xA72E), (0xA732, 0xA770), (0xA779, 0xA77D), (0xA77E, 0xA786),
   (0xA78B, 0xA78D), (0xA790, 0xA792), (0xA796, 0xA7C6), (0xA7C5, 0xA7CB), (0xA7CC, 0xA7F4),
   (0xFA10, 0xFA12), (0xFA20, 0xFA22), (0x1F110, 0x1F14E)]

/-- What a character above ASCII stands for. -/
def foldForeign (c : Char) : List Char :=
  if ignoredRanges.contains c then []
  else
    match asciiRuns.find? fun (first, last, _) => first ≤ c.toNat && c.toNat ≤ last with
    | some (first, _, target) => [Char.ofNat (target + (c.toNat - first))]
    | none =>
      match asciiTexts.lookup c.toNat with
      | some text => text.toList
      | none => [c]

/-- What a character stands for, unless it is refused. -/
def foldChar? (c : Char) : Option (List Char) :=
  if isRefused c then none
  else some (if c.toNat < 0x80 then [c.toLower] else foldForeign c)

/-- What a text stands for, unless it has a refused character. -/
def fold? (cs : List Char) : Option (List Char) :=
  (cs.mapM foldChar?).map List.flatten

/-- Whether a character stands for itself. -/
def isSettled (c : Char) : Bool :=
  !isRefused c &&
    if c.toNat < 0x80 then c.toLower == c
    else
      !replacedRanges.contains c &&
        !replacedAlternating.any fun (first, last) =>
          first ≤ c.toNat && c.toNat ≤ last && (c.toNat - first) % 2 == 0

end CallFlow.Http.Domain
