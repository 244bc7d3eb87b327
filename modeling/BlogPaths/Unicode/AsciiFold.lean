/-! What is left of a character in a slug: its compatibility decomposition with everything outside
ASCII taken away, in lower case.  ASCII that is no letter and no digit is written as a hyphen in
the tables, since a slug takes it for a gap all the same. -/
namespace BlogPaths.Unicode

/-- Ranges of characters that all leave the same text. -/
def foldRanges : List (Nat × Nat × String) :=
  [(0xA0, 0xA0, "-"), (0xA8, 0xA8, "-"), (0xAA, 0xAA, "a"), (0xAF, 0xAF, "-"), (0xB4, 0xB4, "-"),
   (0xB8, 0xB8, "-"), (0xB9, 0xB9, "1"), (0xBA, 0xBA, "o"), (0xBC, 0xBC, "14"),
   (0xBD, 0xBD, "12"), (0xBE, 0xBE, "34"), (0xC0, 0xC5, "a"), (0xC7, 0xC7, "c"),
   (0xC8, 0xCB, "e"), (0xCC, 0xCF, "i"), (0xD3, 0xD6, "o"), (0xD9, 0xDC, "u"), (0xDD, 0xDD, "y"),
   (0xE0, 0xE5, "a"), (0xE7, 0xE7, "c"), (0xE8, 0xEB, "e"), (0xEC, 0xEF, "i"), (0xF3, 0xF6, "o"),
   (0xF9, 0xFC, "u"), (0xFD, 0xFD, "y"), (0xFF, 0xFF, "y"), (0x100, 0x105, "a"),
   (0x106, 0x10D, "c"), (0x10E, 0x10F, "d"), (0x112, 0x11B, "e"), (0x11C, 0x123, "g"),
   (0x124, 0x125, "h"), (0x128, 0x130, "i"), (0x132, 0x133, "ij"), (0x134, 0x135, "j"),
   (0x136, 0x137, "k"), (0x139, 0x140, "l"), (0x143, 0x149, "n"), (0x14C, 0x151, "o"),
   (0x154, 0x159, "r"), (0x15A, 0x161, "s"), (0x162, 0x165, "t"), (0x168, 0x173, "u"),
   (0x174, 0x175, "w"), (0x176, 0x178, "y"), (0x179, 0x17E, "z"), (0x17F, 0x17F, "s"),
   (0x1A0, 0x1A1, "o"), (0x1AF, 0x1B0, "u"), (0x1C4, 0x1C6, "dz"), (0x1C7, 0x1C9, "lj"),
   (0x1CA, 0x1CC, "nj"), (0x1CD, 0x1CE, "a"), (0x1CF, 0x1D0, "i"), (0x1D1, 0x1D2, "o"),
   (0x1D3, 0x1DC, "u"), (0x1DE, 0x1E1, "a"), (0x1E6, 0x1E7, "g"), (0x1E8, 0x1E9, "k"),
   (0x1EA, 0x1ED, "o"), (0x1F0, 0x1F0, "j"), (0x1F1, 0x1F3, "dz"), (0x1F4, 0x1F5, "g"),
   (0x1F8, 0x1F9, "n"), (0x1FA, 0x1FB, "a"), (0x200, 0x203, "a"), (0x204, 0x207, "e"),
   (0x208, 0x20B, "i"), (0x20C, 0x20F, "o"), (0x210, 0x213, "r"), (0x214, 0x217, "u"),
   (0x218, 0x219, "s"), (0x21A, 0x21B, "t"), (0x21E, 0x21F, "h"), (0x226, 0x227, "a"),
   (0x228, 0x229, "e"), (0x22A, 0x231, "o"), (0x232, 0x233, "y"), (0x2B0, 0x2B0, "h"),
   (0x2B2, 0x2B2, "j"), (0x2B3, 0x2B3, "r"), (0x2B7, 0x2B7, "w"), (0x2B8, 0x2B8, "y"),
   (0x2D8, 0x2DD, "-"), (0x2E1, 0x2E1, "l"), (0x2E2, 0x2E2, "s"), (0x2E3, 0x2E3, "x"),
   (0x37A, 0x37A, "-"), (0x37E, 0x37E, "-"), (0x384, 0x385, "-"), (0x1D2C, 0x1D2C, "a"),
   (0x1D2E, 0x1D2E, "b"), (0x1D3C, 0x1D3C, "o"), (0x1D3E, 0x1D3E, "p"), (0x1D3F, 0x1D3F, "r"),
   (0x1D42, 0x1D42, "w"), (0x1D43, 0x1D43, "a"), (0x1D47, 0x1D47, "b"), (0x1D4D, 0x1D4D, "g"),
   (0x1D4F, 0x1D4F, "k"), (0x1D50, 0x1D50, "m"), (0x1D52, 0x1D52, "o"), (0x1D56, 0x1D56, "p"),
   (0x1D5B, 0x1D5B, "v"), (0x1D62, 0x1D62, "i"), (0x1D63, 0x1D63, "r"), (0x1D9C, 0x1D9C, "c"),
   (0x1DA0, 0x1DA0, "f"), (0x1DBB, 0x1DBB, "z"), (0x1E00, 0x1E01, "a"), (0x1E02, 0x1E07, "b"),
   (0x1E08, 0x1E09, "c"), (0x1E0A, 0x1E13, "d"), (0x1E14, 0x1E1D, "e"), (0x1E1E, 0x1E1F, "f"),
   (0x1E20, 0x1E21, "g"), (0x1E22, 0x1E2B, "h"), (0x1E2C, 0x1E2F, "i"), (0x1E30, 0x1E35, "k"),
   (0x1E36, 0x1E3D, "l"), (0x1E3E, 0x1E43, "m"), (0x1E44, 0x1E4B, "n"), (0x1E4C, 0x1E53, "o"),
   (0x1E54, 0x1E57, "p"), (0x1E58, 0x1E5F, "r"), (0x1E60, 0x1E69, "s"), (0x1E6A, 0x1E71, "t"),
   (0x1E72, 0x1E7B, "u"), (0x1E7C, 0x1E7F, "v"), (0x1E80, 0x1E89, "w"), (0x1E8A, 0x1E8D, "x"),
   (0x1E8E, 0x1E8F, "y"), (0x1E90, 0x1E95, "z"), (0x1E96, 0x1E96, "h"), (0x1E97, 0x1E97, "t"),
   (0x1E98, 0x1E98, "w"), (0x1E99, 0x1E99, "y"), (0x1E9A, 0x1E9A, "a"), (0x1E9B, 0x1E9B, "s"),
   (0x1EA0, 0x1EB7, "a"), (0x1EB8, 0x1EC7, "e"), (0x1EC8, 0x1ECB, "i"), (0x1ECC, 0x1EE3, "o"),
   (0x1EE4, 0x1EF1, "u"), (0x1EF2, 0x1EF9, "y"), (0x1FBD, 0x1FBD, "-"), (0x1FBF, 0x1FC1, "-"),
   (0x1FCD, 0x1FCF, "-"), (0x1FDD, 0x1FDF, "-"), (0x1FED, 0x1FEF, "-"), (0x1FFD, 0x1FFE, "-"),
   (0x2000, 0x200A, "-"), (0x2017, 0x2017, "-"), (0x2024, 0x2024, "-"), (0x2025, 0x2025, "--"),
   (0x2026, 0x2026, "---"), (0x202F, 0x202F, "-"), (0x203C, 0x203C, "--"), (0x203E, 0x203E, "-"),
   (0x2047, 0x2049, "--"), (0x205F, 0x205F, "-"), (0x2070, 0x2070, "0"), (0x2071, 0x2071, "i"),
   (0x207A, 0x207A, "-"), (0x207C, 0x207E, "-"), (0x207F, 0x207F, "n"), (0x208A, 0x208A, "-"),
   (0x208C, 0x208E, "-"), (0x2090, 0x2090, "a"), (0x2091, 0x2091, "e"), (0x2092, 0x2092, "o"),
   (0x2093, 0x2093, "x"), (0x2095, 0x2095, "h"), (0x209A, 0x209A, "p"), (0x20A8, 0x20A8, "rs"),
   (0x2100, 0x2100, "a-c"), (0x2101, 0x2101, "a-s"), (0x2102, 0x2103, "c"),
   (0x2105, 0x2105, "c-o"), (0x2106, 0x2106, "c-u"), (0x210C, 0x210E, "h"), (0x2110, 0x2111, "i"),
   (0x2112, 0x2113, "l"), (0x2115, 0x2115, "n"), (0x2116, 0x2116, "no"), (0x211C, 0x211D, "r"),
   (0x2120, 0x2120, "sm"), (0x2121, 0x2121, "tel"), (0x2122, 0x2122, "tm"), (0x2124, 0x2124, "z"),
   (0x2128, 0x2128, "z"), (0x212A, 0x212A, "k"), (0x212F, 0x2130, "e"), (0x2131, 0x2131, "f"),
   (0x2133, 0x2133, "m"), (0x2134, 0x2134, "o"), (0x2139, 0x2139, "i"), (0x213B, 0x213B, "fax"),
   (0x2145, 0x2146, "d"), (0x2147, 0x2147, "e"), (0x2150, 0x2150, "17"), (0x2151, 0x2151, "19"),
   (0x2152, 0x2152, "110"), (0x2153, 0x2153, "13"), (0x2154, 0x2154, "23"),
   (0x2155, 0x2155, "15"), (0x2156, 0x2156, "25"), (0x2157, 0x2157, "35"), (0x2158, 0x2158, "45"),
   (0x2159, 0x2159, "16"), (0x215A, 0x215A, "56"), (0x215B, 0x215B, "18"), (0x215C, 0x215C, "38"),
   (0x215D, 0x215D, "58"), (0x215E, 0x215E, "78"), (0x215F, 0x215F, "1"), (0x2160, 0x2160, "i"),
   (0x2161, 0x2161, "ii"), (0x2162, 0x2162, "iii"), (0x2163, 0x2163, "iv"), (0x2164, 0x2164, "v"),
   (0x2165, 0x2165, "vi"), (0x2166, 0x2166, "vii"), (0x2167, 0x2167, "viii"),
   (0x2168, 0x2168, "ix"), (0x2169, 0x2169, "x"), (0x216A, 0x216A, "xi"), (0x216B, 0x216B, "xii"),
   (0x216C, 0x216C, "l"), (0x216F, 0x216F, "m"), (0x2170, 0x2170, "i"), (0x2171, 0x2171, "ii"),
   (0x2172, 0x2172, "iii"), (0x2173, 0x2173, "iv"), (0x2174, 0x2174, "v"), (0x2175, 0x2175, "vi"),
   (0x2176, 0x2176, "vii"), (0x2177, 0x2177, "viii"), (0x2178, 0x2178, "ix"),
   (0x2179, 0x2179, "x"), (0x217A, 0x217A, "xi"), (0x217B, 0x217B, "xii"), (0x217C, 0x217C, "l"),
   (0x217F, 0x217F, "m"), (0x2189, 0x2189, "03"), (0x2260, 0x2260, "-"), (0x226E, 0x226F, "-"),
   (0x2469, 0x2469, "10"), (0x246A, 0x246A, "11"), (0x246B, 0x246B, "12"), (0x246C, 0x246C, "13"),
   (0x246D, 0x246D, "14"), (0x246E, 0x246E, "15"), (0x246F, 0x246F, "16"), (0x2470, 0x2470, "17"),
   (0x2471, 0x2471, "18"), (0x2472, 0x2472, "19"), (0x2473, 0x2473, "20"),
   (0x2474, 0x2474, "-1-"), (0x2475, 0x2475, "-2-"), (0x2476, 0x2476, "-3-"),
   (0x2477, 0x2477, "-4-"), (0x2478, 0x2478, "-5-"), (0x2479, 0x2479, "-6-"),
   (0x247A, 0x247A, "-7-"), (0x247B, 0x247B, "-8-"), (0x247C, 0x247C, "-9-"),
   (0x247D, 0x247D, "-10-"), (0x247E, 0x247E, "-11-"), (0x247F, 0x247F, "-12-"),
   (0x2480, 0x2480, "-13-"), (0x2481, 0x2481, "-14-"), (0x2482, 0x2482, "-15-"),
   (0x2483, 0x2483, "-16-"), (0x2484, 0x2484, "-17-"), (0x2485, 0x2485, "-18-"),
   (0x2486, 0x2486, "-19-"), (0x2487, 0x2487, "-20-"), (0x2488, 0x2488, "1-"),
   (0x2489, 0x2489, "2-"), (0x248A, 0x248A, "3-"), (0x248B, 0x248B, "4-"), (0x248C, 0x248C, "5-"),
   (0x248D, 0x248D, "6-"), (0x248E, 0x248E, "7-"), (0x248F, 0x248F, "8-"), (0x2490, 0x2490, "9-"),
   (0x2491, 0x2491, "10-"), (0x2492, 0x2492, "11-"), (0x2493, 0x2493, "12-"),
   (0x2494, 0x2494, "13-"), (0x2495, 0x2495, "14-"), (0x2496, 0x2496, "15-"),
   (0x2497, 0x2497, "16-"), (0x2498, 0x2498, "17-"), (0x2499, 0x2499, "18-"),
   (0x249A, 0x249A, "19-"), (0x249B, 0x249B, "20-"), (0x249C, 0x249C, "-a-"),
   (0x249D, 0x249D, "-b-"), (0x249E, 0x249E, "-c-"), (0x249F, 0x249F, "-d-"),
   (0x24A0, 0x24A0, "-e-"), (0x24A1, 0x24A1, "-f-"), (0x24A2, 0x24A2, "-g-"),
   (0x24A3, 0x24A3, "-h-"), (0x24A4, 0x24A4, "-i-"), (0x24A5, 0x24A5, "-j-"),
   (0x24A6, 0x24A6, "-k-"), (0x24A7, 0x24A7, "-l-"), (0x24A8, 0x24A8, "-m-"),
   (0x24A9, 0x24A9, "-n-"), (0x24AA, 0x24AA, "-o-"), (0x24AB, 0x24AB, "-p-"),
   (0x24AC, 0x24AC, "-q-"), (0x24AD, 0x24AD, "-r-"), (0x24AE, 0x24AE, "-s-"),
   (0x24AF, 0x24AF, "-t-"), (0x24B0, 0x24B0, "-u-"), (0x24B1, 0x24B1, "-v-"),
   (0x24B2, 0x24B2, "-w-"), (0x24B3, 0x24B3, "-x-"), (0x24B4, 0x24B4, "-y-"),
   (0x24B5, 0x24B5, "-z-"), (0x24EA, 0x24EA, "0"), (0x2A74, 0x2A74, "---"),
   (0x2A75, 0x2A75, "--"), (0x2A76, 0x2A76, "---"), (0x2C7C, 0x2C7C, "j"), (0x2C7D, 0x2C7D, "v"),
   (0x3000, 0x3000, "-"), (0x309B, 0x309C, "-"), (0x3200, 0x321E, "--"), (0x3220, 0x3243, "--"),
   (0x3250, 0x3250, "pte"), (0x3251, 0x3251, "21"), (0x3252, 0x3252, "22"),
   (0x3253, 0x3253, "23"), (0x3254, 0x3254, "24"), (0x3255, 0x3255, "25"), (0x3256, 0x3256, "26"),
   (0x3257, 0x3257, "27"), (0x3258, 0x3258, "28"), (0x3259, 0x3259, "29"), (0x325A, 0x325A, "30"),
   (0x325B, 0x325B, "31"), (0x325C, 0x325C, "32"), (0x325D, 0x325D, "33"), (0x325E, 0x325E, "34"),
   (0x325F, 0x325F, "35"), (0x32B1, 0x32B1, "36"), (0x32B2, 0x32B2, "37"), (0x32B3, 0x32B3, "38"),
   (0x32B4, 0x32B4, "39"), (0x32B5, 0x32B5, "40"), (0x32B6, 0x32B6, "41"), (0x32B7, 0x32B7, "42"),
   (0x32B8, 0x32B8, "43"), (0x32B9, 0x32B9, "44"), (0x32BA, 0x32BA, "45"), (0x32BB, 0x32BB, "46"),
   (0x32BC, 0x32BC, "47"), (0x32BD, 0x32BD, "48"), (0x32BE, 0x32BE, "49"), (0x32BF, 0x32BF, "50"),
   (0x32C9, 0x32C9, "10"), (0x32CA, 0x32CA, "11"), (0x32CB, 0x32CB, "12"), (0x32CC, 0x32CC, "hg"),
   (0x32CD, 0x32CD, "erg"), (0x32CE, 0x32CE, "ev"), (0x32CF, 0x32CF, "ltd"),
   (0x3362, 0x3362, "10"), (0x3363, 0x3363, "11"), (0x3364, 0x3364, "12"), (0x3365, 0x3365, "13"),
   (0x3366, 0x3366, "14"), (0x3367, 0x3367, "15"), (0x3368, 0x3368, "16"), (0x3369, 0x3369, "17"),
   (0x336A, 0x336A, "18"), (0x336B, 0x336B, "19"), (0x336C, 0x336C, "20"), (0x336D, 0x336D, "21"),
   (0x336E, 0x336E, "22"), (0x336F, 0x336F, "23"), (0x3370, 0x3370, "24"),
   (0x3371, 0x3371, "hpa"), (0x3372, 0x3372, "da"), (0x3373, 0x3373, "au"),
   (0x3374, 0x3374, "bar"), (0x3375, 0x3375, "ov"), (0x3376, 0x3376, "pc"),
   (0x3377, 0x3377, "dm"), (0x3378, 0x3378, "dm2"), (0x3379, 0x3379, "dm3"),
   (0x337A, 0x337A, "iu"), (0x3380, 0x3380, "pa"), (0x3381, 0x3381, "na"), (0x3382, 0x3382, "a"),
   (0x3383, 0x3383, "ma"), (0x3384, 0x3384, "ka"), (0x3385, 0x3385, "kb"), (0x3386, 0x3386, "mb"),
   (0x3387, 0x3387, "gb"), (0x3388, 0x3388, "cal"), (0x3389, 0x3389, "kcal"),
   (0x338A, 0x338A, "pf"), (0x338B, 0x338B, "nf"), (0x338E, 0x338E, "mg"), (0x338F, 0x338F, "kg"),
   (0x3390, 0x3390, "hz"), (0x3391, 0x3391, "khz"), (0x3392, 0x3392, "mhz"),
   (0x3393, 0x3393, "ghz"), (0x3394, 0x3394, "thz"), (0x3395, 0x3395, "l"),
   (0x3396, 0x3396, "ml"), (0x3397, 0x3397, "dl"), (0x3398, 0x3398, "kl"), (0x3399, 0x3399, "fm"),
   (0x339A, 0x339A, "nm"), (0x339B, 0x339B, "m"), (0x339C, 0x339C, "mm"), (0x339D, 0x339D, "cm"),
   (0x339E, 0x339E, "km"), (0x339F, 0x339F, "mm2"), (0x33A0, 0x33A0, "cm2"),
   (0x33A1, 0x33A1, "m2"), (0x33A2, 0x33A2, "km2"), (0x33A3, 0x33A3, "mm3"),
   (0x33A4, 0x33A4, "cm3"), (0x33A5, 0x33A5, "m3"), (0x33A6, 0x33A6, "km3"),
   (0x33A7, 0x33A7, "ms"), (0x33A8, 0x33A8, "ms2"), (0x33A9, 0x33A9, "pa"),
   (0x33AA, 0x33AA, "kpa"), (0x33AB, 0x33AB, "mpa"), (0x33AC, 0x33AC, "gpa"),
   (0x33AD, 0x33AD, "rad"), (0x33AE, 0x33AE, "rads"), (0x33AF, 0x33AF, "rads2"),
   (0x33B0, 0x33B0, "ps"), (0x33B1, 0x33B1, "ns"), (0x33B2, 0x33B2, "s"), (0x33B3, 0x33B3, "ms"),
   (0x33B4, 0x33B4, "pv"), (0x33B5, 0x33B5, "nv"), (0x33B6, 0x33B6, "v"), (0x33B7, 0x33B7, "mv"),
   (0x33B8, 0x33B8, "kv"), (0x33B9, 0x33B9, "mv"), (0x33BA, 0x33BA, "pw"), (0x33BB, 0x33BB, "nw"),
   (0x33BC, 0x33BC, "w"), (0x33BD, 0x33BD, "mw"), (0x33BE, 0x33BE, "kw"), (0x33BF, 0x33BF, "mw"),
   (0x33C0, 0x33C0, "k"), (0x33C1, 0x33C1, "m"), (0x33C2, 0x33C2, "a-m-"), (0x33C3, 0x33C3, "bq"),
   (0x33C4, 0x33C4, "cc"), (0x33C5, 0x33C5, "cd"), (0x33C6, 0x33C6, "ckg"),
   (0x33C7, 0x33C7, "co-"), (0x33C8, 0x33C8, "db"), (0x33C9, 0x33C9, "gy"),
   (0x33CA, 0x33CA, "ha"), (0x33CB, 0x33CB, "hp"), (0x33CC, 0x33CC, "in"), (0x33CD, 0x33CD, "kk"),
   (0x33CE, 0x33CE, "km"), (0x33CF, 0x33CF, "kt"), (0x33D0, 0x33D0, "lm"), (0x33D1, 0x33D1, "ln"),
   (0x33D2, 0x33D2, "log"), (0x33D3, 0x33D3, "lx"), (0x33D4, 0x33D4, "mb"),
   (0x33D5, 0x33D5, "mil"), (0x33D6, 0x33D6, "mol"), (0x33D7, 0x33D7, "ph"),
   (0x33D8, 0x33D8, "p-m-"), (0x33D9, 0x33D9, "ppm"), (0x33DA, 0x33DA, "pr"),
   (0x33DB, 0x33DB, "sr"), (0x33DC, 0x33DC, "sv"), (0x33DD, 0x33DD, "wb"), (0x33DE, 0x33DE, "vm"),
   (0x33DF, 0x33DF, "am"), (0x33E9, 0x33E9, "10"), (0x33EA, 0x33EA, "11"), (0x33EB, 0x33EB, "12"),
   (0x33EC, 0x33EC, "13"), (0x33ED, 0x33ED, "14"), (0x33EE, 0x33EE, "15"), (0x33EF, 0x33EF, "16"),
   (0x33F0, 0x33F0, "17"), (0x33F1, 0x33F1, "18"), (0x33F2, 0x33F2, "19"), (0x33F3, 0x33F3, "20"),
   (0x33F4, 0x33F4, "21"), (0x33F5, 0x33F5, "22"), (0x33F6, 0x33F6, "23"), (0x33F7, 0x33F7, "24"),
   (0x33F8, 0x33F8, "25"), (0x33F9, 0x33F9, "26"), (0x33FA, 0x33FA, "27"), (0x33FB, 0x33FB, "28"),
   (0x33FC, 0x33FC, "29"), (0x33FD, 0x33FD, "30"), (0x33FE, 0x33FE, "31"),
   (0x33FF, 0x33FF, "gal"), (0xA7F2, 0xA7F2, "c"), (0xA7F3, 0xA7F3, "f"), (0xA7F4, 0xA7F4, "q"),
   (0xFB00, 0xFB00, "ff"), (0xFB01, 0xFB01, "fi"), (0xFB02, 0xFB02, "fl"),
   (0xFB03, 0xFB03, "ffi"), (0xFB04, 0xFB04, "ffl"), (0xFB05, 0xFB06, "st"),
   (0xFB29, 0xFB29, "-"), (0xFC5E, 0xFC63, "-"), (0xFDFA, 0xFDFA, "---"), (0xFDFB, 0xFDFB, "-"),
   (0xFE10, 0xFE10, "-"), (0xFE13, 0xFE16, "-"), (0xFE19, 0xFE19, "---"), (0xFE30, 0xFE30, "--"),
   (0xFE33, 0xFE38, "-"), (0xFE47, 0xFE50, "-"), (0xFE52, 0xFE52, "-"), (0xFE54, 0xFE57, "-"),
   (0xFE59, 0xFE5C, "-"), (0xFE5F, 0xFE66, "-"), (0xFE68, 0xFE6B, "-"), (0xFE70, 0xFE70, "-"),
   (0xFE72, 0xFE72, "-"), (0xFE74, 0xFE74, "-"), (0xFE76, 0xFE76, "-"), (0xFE78, 0xFE78, "-"),
   (0xFE7A, 0xFE7A, "-"), (0xFE7C, 0xFE7C, "-"), (0xFE7E, 0xFE7E, "-"), (0xFF01, 0xFF0F, "-"),
   (0xFF1A, 0xFF20, "-"), (0xFF3B, 0xFF40, "-"), (0xFF5B, 0xFF5E, "-"), (0xFFE3, 0xFFE3, "-"),
   (0x107A5, 0x107A5, "q"), (0x1D49C, 0x1D49C, "a"), (0x1D4A2, 0x1D4A2, "g"),
   (0x1D4BB, 0x1D4BB, "f"), (0x1D546, 0x1D546, "o"), (0x1F100, 0x1F101, "0-"),
   (0x1F102, 0x1F102, "1-"), (0x1F103, 0x1F103, "2-"), (0x1F104, 0x1F104, "3-"),
   (0x1F105, 0x1F105, "4-"), (0x1F106, 0x1F106, "5-"), (0x1F107, 0x1F107, "6-"),
   (0x1F108, 0x1F108, "7-"), (0x1F109, 0x1F109, "8-"), (0x1F10A, 0x1F10A, "9-"),
   (0x1F110, 0x1F110, "-a-"), (0x1F111, 0x1F111, "-b-"), (0x1F112, 0x1F112, "-c-"),
   (0x1F113, 0x1F113, "-d-"), (0x1F114, 0x1F114, "-e-"), (0x1F115, 0x1F115, "-f-"),
   (0x1F116, 0x1F116, "-g-"), (0x1F117, 0x1F117, "-h-"), (0x1F118, 0x1F118, "-i-"),
   (0x1F119, 0x1F119, "-j-"), (0x1F11A, 0x1F11A, "-k-"), (0x1F11B, 0x1F11B, "-l-"),
   (0x1F11C, 0x1F11C, "-m-"), (0x1F11D, 0x1F11D, "-n-"), (0x1F11E, 0x1F11E, "-o-"),
   (0x1F11F, 0x1F11F, "-p-"), (0x1F120, 0x1F120, "-q-"), (0x1F121, 0x1F121, "-r-"),
   (0x1F122, 0x1F122, "-s-"), (0x1F123, 0x1F123, "-t-"), (0x1F124, 0x1F124, "-u-"),
   (0x1F125, 0x1F125, "-v-"), (0x1F126, 0x1F126, "-w-"), (0x1F127, 0x1F127, "-x-"),
   (0x1F128, 0x1F128, "-y-"), (0x1F129, 0x1F129, "-z-"), (0x1F12A, 0x1F12A, "s"),
   (0x1F12B, 0x1F12B, "c"), (0x1F12C, 0x1F12C, "r"), (0x1F12D, 0x1F12D, "cd"),
   (0x1F12E, 0x1F12E, "wz"), (0x1F14A, 0x1F14A, "hv"), (0x1F14B, 0x1F14B, "mv"),
   (0x1F14C, 0x1F14C, "sd"), (0x1F14D, 0x1F14D, "ss"), (0x1F14E, 0x1F14E, "ppv"),
   (0x1F14F, 0x1F14F, "wc"), (0x1F16A, 0x1F16A, "mc"), (0x1F16B, 0x1F16B, "md"),
   (0x1F16C, 0x1F16C, "mr"), (0x1F190, 0x1F190, "dj")]

/-- Alphabets and rows of digits, with what their first character leaves. -/
def foldRows : List (Nat × Nat × Char) :=
  [(0xB2, 0xB3, '2'), (0xD1, 0xD2, 'n'), (0xF1, 0xF2, 'n'), (0x1D30, 0x1D31, 'd'),
   (0x1D33, 0x1D3A, 'g'), (0x1D40, 0x1D41, 't'), (0x1D48, 0x1D49, 'd'), (0x1D57, 0x1D58, 't'),
   (0x1D64, 0x1D65, 'u'), (0x2074, 0x2079, '4'), (0x2080, 0x2089, '0'), (0x2096, 0x2099, 'k'),
   (0x209B, 0x209C, 's'), (0x2109, 0x210B, 'f'), (0x2119, 0x211B, 'p'), (0x212B, 0x212D, 'a'),
   (0x2148, 0x2149, 'i'), (0x216D, 0x216E, 'c'), (0x217D, 0x217E, 'c'), (0x2460, 0x2468, '1'),
   (0x24B6, 0x24CF, 'a'), (0x24D0, 0x24E9, 'a'), (0x32C0, 0x32C8, '1'), (0x3358, 0x3361, '0'),
   (0x338C, 0x338D, 'f'), (0x33E0, 0x33E8, '1'), (0xFF10, 0xFF19, '0'), (0xFF21, 0xFF3A, 'a'),
   (0xFF41, 0xFF5A, 'a'), (0x1D400, 0x1D419, 'a'), (0x1D41A, 0x1D433, 'a'),
   (0x1D434, 0x1D44D, 'a'), (0x1D44E, 0x1D454, 'a'), (0x1D456, 0x1D467, 'i'),
   (0x1D468, 0x1D481, 'a'), (0x1D482, 0x1D49B, 'a'), (0x1D49E, 0x1D49F, 'c'),
   (0x1D4A5, 0x1D4A6, 'j'), (0x1D4A9, 0x1D4AC, 'n'), (0x1D4AE, 0x1D4B5, 's'),
   (0x1D4B6, 0x1D4B9, 'a'), (0x1D4BD, 0x1D4C3, 'h'), (0x1D4C5, 0x1D4CF, 'p'),
   (0x1D4D0, 0x1D4E9, 'a'), (0x1D4EA, 0x1D503, 'a'), (0x1D504, 0x1D505, 'a'),
   (0x1D507, 0x1D50A, 'd'), (0x1D50D, 0x1D514, 'j'), (0x1D516, 0x1D51C, 's'),
   (0x1D51E, 0x1D537, 'a'), (0x1D538, 0x1D539, 'a'), (0x1D53B, 0x1D53E, 'd'),
   (0x1D540, 0x1D544, 'i'), (0x1D54A, 0x1D550, 's'), (0x1D552, 0x1D56B, 'a'),
   (0x1D56C, 0x1D585, 'a'), (0x1D586, 0x1D59F, 'a'), (0x1D5A0, 0x1D5B9, 'a'),
   (0x1D5BA, 0x1D5D3, 'a'), (0x1D5D4, 0x1D5ED, 'a'), (0x1D5EE, 0x1D607, 'a'),
   (0x1D608, 0x1D621, 'a'), (0x1D622, 0x1D63B, 'a'), (0x1D63C, 0x1D655, 'a'),
   (0x1D656, 0x1D66F, 'a'), (0x1D670, 0x1D689, 'a'), (0x1D68A, 0x1D6A3, 'a'),
   (0x1D7CE, 0x1D7D7, '0'), (0x1D7D8, 0x1D7E1, '0'), (0x1D7E2, 0x1D7EB, '0'),
   (0x1D7EC, 0x1D7F5, '0'), (0x1D7F6, 0x1D7FF, '0'), (0x1F130, 0x1F149, 'a'),
   (0x1FBF0, 0x1FBF9, '0')]

def asciiFold (c : Char) : List Char :=
  if c.toNat < 0x80 then [c.toLower]
  else match foldRanges.find? fun r => r.1 ≤ c.toNat && c.toNat ≤ r.2.1 with
    | some r => r.2.2.toList
    | none => match foldRows.find? fun r => r.1 ≤ c.toNat && c.toNat ≤ r.2.1 with
      | some r => [Char.ofNat (r.2.2.toNat + (c.toNat - r.1))]
      | none => []

theorem asciiFold_of_lt {c : Char} (h : c.toNat < 0x80) : asciiFold c = [c.toLower] := by
  simp [asciiFold,h]

end BlogPaths.Unicode
