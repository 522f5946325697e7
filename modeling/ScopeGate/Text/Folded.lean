import ScopeGate.Text.Hidden

/-!
# Characters that stand for ASCII characters

Names that are compared without regard to how they are written, such as those of hosts, are folded
first: letters lose their case, and characters that are only another shape of ASCII characters (wide
and narrow ones, raised and lowered ones, ones in circles, those of mathematical alphabets) become
those characters. Characters without a shape are dropped. The tables are those of the Unicode
mapping for names of hosts, as far as it leads into ASCII.

`folded?` gives what a character becomes. Those of other scripts are left as they are, but hidden
characters and those that stand for what no name holds are refused.
-/

namespace ScopeGate.Text

/-- Runs of characters, each given by its first and its last code point, that become consecutive
ASCII characters, of which the first one is given. -/
def foldedRuns : List (Nat × Nat × Char) :=
  [(0xAA, 0xAA, 'a'), (0xB2, 0xB3, '2'), (0xB9, 0xB9, '1'), (0xBA, 0xBA, 'o'), (0x17F, 0x17F, 's'),
    (0x2B0, 0x2B0, 'h'), (0x2B2, 0x2B2, 'j'), (0x2B3, 0x2B3, 'r'), (0x2B7, 0x2B7, 'w'),
    (0x2B8, 0x2B8, 'y'), (0x2E1, 0x2E1, 'l'), (0x2E2, 0x2E2, 's'), (0x2E3, 0x2E3, 'x'),
    (0x37E, 0x37E, ';'), (0x1D2C, 0x1D2C, 'a'), (0x1D2E, 0x1D2E, 'b'), (0x1D30, 0x1D31, 'd'),
    (0x1D33, 0x1D3A, 'g'), (0x1D3C, 0x1D3C, 'o'), (0x1D3E, 0x1D3E, 'p'), (0x1D3F, 0x1D3F, 'r'),
    (0x1D40, 0x1D41, 't'), (0x1D42, 0x1D42, 'w'), (0x1D43, 0x1D43, 'a'), (0x1D47, 0x1D47, 'b'),
    (0x1D48, 0x1D49, 'd'), (0x1D4D, 0x1D4D, 'g'), (0x1D4F, 0x1D4F, 'k'), (0x1D50, 0x1D50, 'm'),
    (0x1D52, 0x1D52, 'o'), (0x1D56, 0x1D56, 'p'), (0x1D57, 0x1D58, 't'), (0x1D5B, 0x1D5B, 'v'),
    (0x1D62, 0x1D62, 'i'), (0x1D63, 0x1D63, 'r'), (0x1D64, 0x1D65, 'u'), (0x1D9C, 0x1D9C, 'c'),
    (0x1DA0, 0x1DA0, 'f'), (0x1DBB, 0x1DBB, 'z'), (0x1FEF, 0x1FEF, '\x60'), (0x2070, 0x2070, '0'),
    (0x2071, 0x2071, 'i'), (0x2074, 0x2079, '4'), (0x207A, 0x207A, '+'), (0x207C, 0x207C, '='),
    (0x207D, 0x207E, '('), (0x207F, 0x207F, 'n'), (0x2080, 0x2089, '0'), (0x208A, 0x208A, '+'),
    (0x208C, 0x208C, '='), (0x208D, 0x208E, '('), (0x2090, 0x2090, 'a'), (0x2091, 0x2091, 'e'),
    (0x2092, 0x2092, 'o'), (0x2093, 0x2093, 'x'), (0x2095, 0x2095, 'h'), (0x2096, 0x2099, 'k'),
    (0x209A, 0x209A, 'p'), (0x209B, 0x209C, 's'), (0x2102, 0x2102, 'c'), (0x210A, 0x210B, 'g'),
    (0x210C, 0x210C, 'h'), (0x210D, 0x210D, 'h'), (0x210E, 0x210E, 'h'), (0x2110, 0x2110, 'i'),
    (0x2111, 0x2111, 'i'), (0x2112, 0x2112, 'l'), (0x2113, 0x2113, 'l'), (0x2115, 0x2115, 'n'),
    (0x2119, 0x211B, 'p'), (0x211C, 0x211C, 'r'), (0x211D, 0x211D, 'r'), (0x2124, 0x2124, 'z'),
    (0x2128, 0x2128, 'z'), (0x212A, 0x212A, 'k'), (0x212C, 0x212D, 'b'), (0x212F, 0x212F, 'e'),
    (0x2130, 0x2131, 'e'), (0x2133, 0x2133, 'm'), (0x2134, 0x2134, 'o'), (0x2139, 0x2139, 'i'),
    (0x2145, 0x2145, 'd'), (0x2146, 0x2147, 'd'), (0x2148, 0x2149, 'i'), (0x2160, 0x2160, 'i'),
    (0x2164, 0x2164, 'v'), (0x2169, 0x2169, 'x'), (0x216C, 0x216C, 'l'), (0x216D, 0x216E, 'c'),
    (0x216F, 0x216F, 'm'), (0x2170, 0x2170, 'i'), (0x2174, 0x2174, 'v'), (0x2179, 0x2179, 'x'),
    (0x217C, 0x217C, 'l'), (0x217D, 0x217E, 'c'), (0x217F, 0x217F, 'm'), (0x2460, 0x2468, '1'),
    (0x24B6, 0x24CF, 'a'), (0x24D0, 0x24E9, 'a'), (0x24EA, 0x24EA, '0'), (0x2C7C, 0x2C7C, 'j'),
    (0x2C7D, 0x2C7D, 'v'), (0x3002, 0x3002, '.'), (0xA7F1, 0xA7F1, 's'), (0xA7F2, 0xA7F2, 'c'),
    (0xA7F3, 0xA7F3, 'f'), (0xA7F4, 0xA7F4, 'q'), (0xFB29, 0xFB29, '+'), (0xFE10, 0xFE10, ','),
    (0xFE14, 0xFE14, ';'), (0xFE15, 0xFE15, '!'), (0xFE33, 0xFE33, '_'), (0xFE34, 0xFE34, '_'),
    (0xFE35, 0xFE36, '('), (0xFE37, 0xFE37, '\x7b'), (0xFE38, 0xFE38, '\x7d'),
    (0xFE4D, 0xFE4D, '_'), (0xFE4E, 0xFE4E, '_'), (0xFE4F, 0xFE4F, '_'), (0xFE50, 0xFE50, ','),
    (0xFE54, 0xFE54, ';'), (0xFE57, 0xFE57, '!'), (0xFE59, 0xFE5A, '('), (0xFE5B, 0xFE5B, '\x7b'),
    (0xFE5C, 0xFE5C, '\x7d'), (0xFE60, 0xFE60, '&'), (0xFE61, 0xFE62, '*'), (0xFE63, 0xFE63, '-'),
    (0xFE66, 0xFE66, '='), (0xFE69, 0xFE69, '$'), (0xFF01, 0xFF02, '!'), (0xFF04, 0xFF04, '$'),
    (0xFF06, 0xFF0E, '&'), (0xFF10, 0xFF19, '0'), (0xFF1B, 0xFF1B, ';'), (0xFF1D, 0xFF1D, '='),
    (0xFF21, 0xFF3A, 'a'), (0xFF3F, 0xFF5B, '_'), (0xFF5D, 0xFF5E, '\x7d'), (0xFF61, 0xFF61, '.'),
    (0x107A5, 0x107A5, 'q'), (0x1CCD6, 0x1CCEF, 'a'), (0x1CCF0, 0x1CCF9, '0'),
    (0x1D400, 0x1D419, 'a'), (0x1D41A, 0x1D433, 'a'), (0x1D434, 0x1D44D, 'a'),
    (0x1D44E, 0x1D454, 'a'), (0x1D456, 0x1D467, 'i'), (0x1D468, 0x1D481, 'a'),
    (0x1D482, 0x1D49B, 'a'), (0x1D49C, 0x1D49C, 'a'), (0x1D49E, 0x1D49F, 'c'),
    (0x1D4A2, 0x1D4A2, 'g'), (0x1D4A5, 0x1D4A6, 'j'), (0x1D4A9, 0x1D4AC, 'n'),
    (0x1D4AE, 0x1D4B5, 's'), (0x1D4B6, 0x1D4B9, 'a'), (0x1D4BB, 0x1D4BB, 'f'),
    (0x1D4BD, 0x1D4C3, 'h'), (0x1D4C5, 0x1D4CF, 'p'), (0x1D4D0, 0x1D4E9, 'a'),
    (0x1D4EA, 0x1D503, 'a'), (0x1D504, 0x1D505, 'a'), (0x1D507, 0x1D50A, 'd'),
    (0x1D50D, 0x1D514, 'j'), (0x1D516, 0x1D51C, 's'), (0x1D51E, 0x1D537, 'a'),
    (0x1D538, 0x1D539, 'a'), (0x1D53B, 0x1D53E, 'd'), (0x1D540, 0x1D544, 'i'),
    (0x1D546, 0x1D546, 'o'), (0x1D54A, 0x1D550, 's'), (0x1D552, 0x1D56B, 'a'),
    (0x1D56C, 0x1D585, 'a'), (0x1D586, 0x1D59F, 'a'), (0x1D5A0, 0x1D5B9, 'a'),
    (0x1D5BA, 0x1D5D3, 'a'), (0x1D5D4, 0x1D5ED, 'a'), (0x1D5EE, 0x1D607, 'a'),
    (0x1D608, 0x1D621, 'a'), (0x1D622, 0x1D63B, 'a'), (0x1D63C, 0x1D655, 'a'),
    (0x1D656, 0x1D66F, 'a'), (0x1D670, 0x1D689, 'a'), (0x1D68A, 0x1D6A3, 'a'),
    (0x1D7CE, 0x1D7D7, '0'), (0x1D7D8, 0x1D7E1, '0'), (0x1D7E2, 0x1D7EB, '0'),
    (0x1D7EC, 0x1D7F5, '0'), (0x1D7F6, 0x1D7FF, '0'), (0x1F12B, 0x1F12B, 'c'),
    (0x1F12C, 0x1F12C, 'r'), (0x1F130, 0x1F149, 'a'), (0x1FBF0, 0x1FBF9, '0')]

/-- Runs of characters that become several ASCII characters each: the first code point, and what the
characters become, between spaces. -/
def foldedWords : List (Nat × String) :=
  [(0x132, "ij ij"), (0x1C7, "lj lj lj nj nj nj"), (0x1F1, "dz dz dz"), (0x1E9E, "ss"),
    (0x203C, "!!"), (0x20A8, "rs"), (0x2116, "no"), (0x2120, "sm tel tm"), (0x213B, "fax"),
    (0x2161, "ii iii iv"), (0x2165, "vi vii viii ix"), (0x216A, "xi xii"), (0x2171, "ii iii iv"),
    (0x2175, "vi vii viii ix"), (0x217A, "xi xii"),
    (0x2469, "10 11 12 13 14 15 16 17 18 19 20 (1) (2) (3) (4) (5) (6) (7) (8) (9) (10)"),
    (0x247E, "(11) (12) (13) (14) (15) (16) (17) (18) (19) (20)"),
    (0x249C, "(a) (b) (c) (d) (e) (f) (g) (h) (i) (j) (k) (l) (m) (n) (o) (p) (q) (r)"),
    (0x24AE, "(s) (t) (u) (v) (w) (x) (y) (z)"), (0x2A75, "== ==="),
    (0x3250, "pte 21 22 23 24 25 26 27 28 29 30 31 32 33 34 35"),
    (0x32B1, "36 37 38 39 40 41 42 43 44 45 46 47 48 49 50"), (0x32CC, "hg erg ev ltd"),
    (0x3371, "hpa da au bar ov pc dm dm2 dm3 iu"), (0x3380, "pa na"),
    (0x3383, "ma ka kb mb gb cal kcal pf nf"), (0x338E, "mg kg hz khz mhz ghz thz"),
    (0x3396, "ml dl kl fm nm"), (0x339C, "mm cm km mm2 cm2 m2 km2 mm3 cm3 m3 km3"),
    (0x33A9, "pa kpa mpa gpa rad"), (0x33B0, "ps ns"), (0x33B3, "ms pv nv"),
    (0x33B7, "mv kv mv pw nw"), (0x33BD, "mw kw mw"), (0x33C3, "bq cc cd"),
    (0x33C8, "db gy ha hp in kk km kt lm ln log lx mb mil mol ph"), (0x33D9, "ppm pr sr sv wb"),
    (0x33FF, "gal"), (0xFB00, "ff fi fl ffi ffl st st"),
    (0x1F101, "0, 1, 2, 3, 4, 5, 6, 7, 8, 9,"),
    (0x1F110, "(a) (b) (c) (d) (e) (f) (g) (h) (i) (j) (k) (l) (m) (n) (o) (p) (q) (r)"),
    (0x1F122, "(s) (t) (u) (v) (w) (x) (y) (z)"), (0x1F12D, "cd wz"),
    (0x1F14A, "hv mv sd ss ppv wc"), (0x1F16A, "mc md mr"), (0x1F190, "dj")]

def droppedRanges : List (Nat × Nat) :=
  [(0xAD, 0xAD), (0x34F, 0x34F), (0x115F, 0x1160), (0x17B4, 0x17B5), (0x180B, 0x180F),
    (0x200B, 0x200B), (0x2060, 0x2064), (0x206A, 0x206F), (0x3164, 0x3164), (0xFE00, 0xFE0F),
    (0xFEFF, 0xFEFF), (0xFFA0, 0xFFA0), (0x1BCA0, 0x1BCA3), (0x1D173, 0x1D17A),
    (0xE0100, 0xE01EF)]

/-- The code points that are shown, but stand for what no name holds, such as a space, a slash or a
dot that ends nothing, as closed ranges in increasing order. -/
def barredRanges : List (Nat × Nat) :=
  [(0xA8, 0xA8), (0xAF, 0xAF), (0xB4, 0xB4), (0xB8, 0xB8), (0x2D8, 0x2DD), (0x37A, 0x37A),
    (0x1FBD, 0x1FBD), (0x1FBF, 0x1FC1), (0x1FCD, 0x1FCF), (0x1FDD, 0x1FDF), (0x1FED, 0x1FEE),
    (0x1FFD, 0x1FFE), (0x2017, 0x2017), (0x2024, 0x2026), (0x203E, 0x203E), (0x2047, 0x2049),
    (0x2100, 0x2101), (0x2105, 0x2106), (0x2488, 0x249B), (0x2A74, 0x2A74), (0x2FF0, 0x2FFF),
    (0x309B, 0x309C), (0x31EF, 0x31EF), (0x33C2, 0x33C2), (0x33C7, 0x33C7), (0x33D8, 0x33D8),
    (0xFC5E, 0xFC63), (0xFDFA, 0xFDFB), (0xFE12, 0xFE13), (0xFE16, 0xFE16), (0xFE19, 0xFE19),
    (0xFE30, 0xFE30), (0xFE47, 0xFE4C), (0xFE52, 0xFE52), (0xFE55, 0xFE56), (0xFE5F, 0xFE5F),
    (0xFE64, 0xFE65), (0xFE68, 0xFE68), (0xFE6A, 0xFE6B), (0xFE70, 0xFE70), (0xFE72, 0xFE72),
    (0xFE74, 0xFE74), (0xFE76, 0xFE76), (0xFE78, 0xFE78), (0xFE7A, 0xFE7A), (0xFE7C, 0xFE7C),
    (0xFE7E, 0xFE7E), (0xFF03, 0xFF03), (0xFF05, 0xFF05), (0xFF0F, 0xFF0F), (0xFF1A, 0xFF1A),
    (0xFF1C, 0xFF1C), (0xFF1E, 0xFF20), (0xFF3B, 0xFF3E), (0xFF5C, 0xFF5C), (0xFFE3, 0xFFE3),
    (0xFFFC, 0xFFFD), (0x1F100, 0x1F100)]

def foldedByRun? (n : Nat) : Option (List Char) :=
  (foldedRuns.find? fun r => r.1 ≤ n && n ≤ r.2.1).map fun r =>
    [Char.ofNat (r.2.2.toNat + (n - r.1))]

def foldedByWord? (n : Nat) : Option (List Char) :=
  foldedWords.findSome? fun r =>
    if r.1 ≤ n then ((r.2.splitOn " ")[n - r.1]?).map String.toList else none

def inAscii? (c : Char) : Option (List Char) :=
  if c.toNat < 0x80 then some [c.toLower]
  else if inRanges droppedRanges c.toNat then some []
  else (foldedByRun? c.toNat).orElse fun _ => foldedByWord? c.toNat

def folded? (c : Char) : Option (List Char) :=
  (inAscii? c).orElse fun _ =>
    if isHidden c || inRanges barredRanges c.toNat then none else some [c]

example : folded? '\uff11' = some ['1'] ∧ folded? '\u3002' = some ['.'] := by decide

example : inAscii? '\u00e9' = none ∧ inRanges barredRanges 0xFF0F = true := by cbv

end ScopeGate.Text
