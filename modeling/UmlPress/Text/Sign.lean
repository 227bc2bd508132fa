import UmlPress.Text.Blank

/-!
# Punctuation and symbols

Characters that are neither letters nor marks nor digits: punctuation, with all
that shares its blocks, and symbols, with the numbers that are no digits and
the odd forms of letters.
-/
namespace UmlPress.Text

def punctuationRanges : List (Nat × Nat) := [
  (0x21, 0x23), (0x25, 0x2a), (0x2c, 0x2f), (0x3a, 0x3b), (0x3f, 0x40), (0x5b, 0x5d), (0x5f,
  0x5f), (0x7b, 0x7b), (0x7d, 0x7d), (0xa1, 0xa1), (0xa7, 0xa7), (0xab, 0xab), (0xb6, 0xb7),
  (0xbb, 0xbb), (0xbf, 0xbf), (0x37e, 0x37e), (0x387, 0x387), (0x55a, 0x55f), (0x589, 0x58a),
  (0x5be, 0x5be), (0x5c0, 0x5c0), (0x5c3, 0x5c3), (0x5c6, 0x5c6), (0x5f3, 0x5f4), (0x609,
  0x60a), (0x60c, 0x60d), (0x61b, 0x61f), (0x66a, 0x66d), (0x6d4, 0x6d4), (0x700, 0x70d),
  (0x7f7, 0x7f9), (0x830, 0x83e), (0x85e, 0x85e), (0x964, 0x965), (0x970, 0x970), (0x9fd,
  0x9fd), (0xa76, 0xa76), (0xaf0, 0xaf0), (0xc77, 0xc77), (0xc84, 0xc84), (0xdf4, 0xdf4),
  (0xe4f, 0xe4f), (0xe5a, 0xe5b), (0xf04, 0xf12), (0xf14, 0xf14), (0xf3a, 0xf3d), (0xf85,
  0xf85), (0xfd0, 0xfd4), (0xfd9, 0xfda), (0x104a, 0x104f), (0x10fb, 0x10fb), (0x1360, 0x1368),
  (0x1400, 0x1400), (0x166e, 0x166e), (0x169b, 0x169c), (0x16eb, 0x16ed), (0x1735, 0x1736),
  (0x17d4, 0x17d6), (0x17d8, 0x17da), (0x1800, 0x180a), (0x1944, 0x1945), (0x1a1e, 0x1a1f),
  (0x1aa0, 0x1aa6), (0x1aa8, 0x1aad), (0x1b5a, 0x1b60), (0x1b7d, 0x1b7e), (0x1bfc, 0x1bff),
  (0x1c3b, 0x1c3f), (0x1c7e, 0x1c7f), (0x1cc0, 0x1cc7), (0x1cd3, 0x1cd3), (0x2010, 0x205e),
  (0x207d, 0x207e), (0x208d, 0x208e), (0x2308, 0x230b), (0x2329, 0x232a), (0x2768, 0x2775),
  (0x27c5, 0x27c6), (0x27e6, 0x27ef), (0x2983, 0x2998), (0x29d8, 0x29db), (0x29fc, 0x29fd),
  (0x2cf9, 0x2cfc), (0x2cfe, 0x2cff), (0x2d70, 0x2d70), (0x2e00, 0x2e5d), (0x3001, 0x303f),
  (0x30a0, 0x30a0), (0x30fb, 0x30fb), (0xa4fe, 0xa4ff), (0xa60d, 0xa60f), (0xa673, 0xa673),
  (0xa67e, 0xa67e), (0xa6f2, 0xa6f7), (0xa874, 0xa877), (0xa8ce, 0xa8cf), (0xa8f8, 0xa8fa),
  (0xa8fc, 0xa8fc), (0xa92e, 0xa92f), (0xa95f, 0xa95f), (0xa9c1, 0xa9cd), (0xa9de, 0xa9df),
  (0xaa5c, 0xaa5f), (0xaade, 0xaadf), (0xaaf0, 0xaaf1), (0xabeb, 0xabeb), (0xfd3e, 0xfd3f),
  (0xfe10, 0xfe19), (0xfe30, 0xfe61), (0xfe63, 0xfe63), (0xfe68, 0xfe68), (0xfe6a, 0xfe6b),
  (0xff01, 0xff03), (0xff05, 0xff0a), (0xff0c, 0xff0f), (0xff1a, 0xff1b), (0xff1f, 0xff20),
  (0xff3b, 0xff3d), (0xff3f, 0xff3f), (0xff5b, 0xff5b), (0xff5d, 0xff5d), (0xff5f, 0xff65),
  (0x10100, 0x10102), (0x1039f, 0x1039f), (0x103d0, 0x103d0), (0x1056f, 0x1056f), (0x10857,
  0x10857), (0x1091f, 0x1091f), (0x1093f, 0x1093f), (0x10a50, 0x10a58), (0x10a7f, 0x10a7f),
  (0x10af0, 0x10af6), (0x10b39, 0x10b3f), (0x10b99, 0x10b9c), (0x10ead, 0x10ead), (0x10f55,
  0x10f59), (0x10f86, 0x10f89), (0x11047, 0x1104d), (0x110bb, 0x110c1), (0x11140, 0x11143),
  (0x11174, 0x11175), (0x111c5, 0x111c8), (0x111cd, 0x111cd), (0x111db, 0x111db), (0x111dd,
  0x111df), (0x11238, 0x1123d), (0x112a9, 0x112a9), (0x1144b, 0x1144f), (0x1145a, 0x1145d),
  (0x114c6, 0x114c6), (0x115c1, 0x115d7), (0x11641, 0x11643), (0x11660, 0x1166c), (0x116b9,
  0x116b9), (0x1173c, 0x1173e), (0x1183b, 0x1183b), (0x11944, 0x11946), (0x119e2, 0x119e2),
  (0x11a3f, 0x11a46), (0x11a9a, 0x11a9c), (0x11a9e, 0x11aa2), (0x11c41, 0x11c45), (0x11c70,
  0x11c71), (0x11ef7, 0x11ef8), (0x11fff, 0x11fff), (0x12470, 0x12474), (0x12ff1, 0x12ff2),
  (0x16a6e, 0x16a6f), (0x16af5, 0x16af5), (0x16b37, 0x16b3b), (0x16b44, 0x16b44), (0x16e97,
  0x16e9a), (0x16fe0, 0x16ff1), (0x1bc9f, 0x1bc9f), (0x1da87, 0x1da8b), (0x1e95e, 0x1e95f)]

def symbolRanges : List (Nat × Nat) := [
  (0x24, 0x24), (0x2b, 0x2b), (0x3c, 0x3e), (0x5e, 0x5e), (0x60, 0x60), (0x7c, 0x7c), (0x7e,
  0x7e), (0xa2, 0xa6), (0xa8, 0xa9), (0xac, 0xb1), (0xb4, 0xb4), (0xb8, 0xb8), (0xbc, 0xbe),
  (0xd7, 0xd7), (0xf7, 0xf7), (0x2c2, 0x2c5), (0x2d2, 0x2df), (0x2e5, 0x2eb), (0x2ed, 0x2ed),
  (0x2ef, 0x2ff), (0x375, 0x375), (0x384, 0x385), (0x3f6, 0x3f6), (0x482, 0x482), (0x58d,
  0x58f), (0x606, 0x608), (0x60b, 0x60b), (0x60e, 0x60f), (0x6de, 0x6de), (0x6e9, 0x6e9),
  (0x6fd, 0x6fe), (0x7f6, 0x7f6), (0x7fe, 0x7ff), (0x888, 0x888), (0x9f2, 0x9fb), (0xaf1,
  0xaf1), (0xb70, 0xb70), (0xb72, 0xb77), (0xbf0, 0xbfa), (0xc78, 0xc7f), (0xd4f, 0xd4f),
  (0xd58, 0xd5e), (0xd70, 0xd79), (0xe3f, 0xe3f), (0xf01, 0xf03), (0xf13, 0xf13), (0xf15,
  0xf17), (0xf1a, 0xf1f), (0xf2a, 0xf34), (0xf36, 0xf36), (0xf38, 0xf38), (0xfbe, 0xfc5),
  (0xfc7, 0xfcf), (0xfd5, 0xfd8), (0x109e, 0x109f), (0x1372, 0x137c), (0x1390, 0x1399), (0x166d,
  0x166d), (0x16ee, 0x16f0), (0x17db, 0x17db), (0x17f0, 0x17f9), (0x1940, 0x1940), (0x19de,
  0x19ff), (0x1b61, 0x1b6a), (0x1b74, 0x1b7c), (0x1fbd, 0x1fbd), (0x1fbf, 0x1fc1), (0x1fcd,
  0x1fcf), (0x1fdd, 0x1fdf), (0x1fed, 0x1fef), (0x1ffd, 0x1ffe), (0x207a, 0x207c), (0x208a,
  0x208c), (0x20a0, 0x20c0), (0x2100, 0x2101), (0x2103, 0x2106), (0x2108, 0x2109), (0x2114,
  0x2114), (0x2116, 0x2118), (0x211e, 0x2123), (0x2125, 0x2125), (0x2127, 0x2127), (0x2129,
  0x2129), (0x212e, 0x212e), (0x213a, 0x213b), (0x2140, 0x2144), (0x214a, 0x214d), (0x214f,
  0x2307), (0x230c, 0x2328), (0x232b, 0x244a), (0x2469, 0x2473), (0x247d, 0x2487), (0x2491,
  0x24e9), (0x24eb, 0x24f4), (0x24fe, 0x24fe), (0x2500, 0x2767), (0x277f, 0x277f), (0x2789,
  0x2789), (0x2793, 0x27c4), (0x27c7, 0x27e5), (0x27f0, 0x2982), (0x2999, 0x29d7), (0x29dc,
  0x29fb), (0x29fe, 0x2bff), (0x2ce5, 0x2cea), (0x2cfd, 0x2cfd), (0x2e80, 0x2ffb), (0x309b,
  0x309c), (0x3190, 0x319f), (0x31c0, 0x31e3), (0x3200, 0x33ff), (0x4dc0, 0x4dff), (0xa490,
  0xa4c6), (0xa6e6, 0xa6ef), (0xa700, 0xa716), (0xa720, 0xa721), (0xa789, 0xa78a), (0xa828,
  0xa82b), (0xa830, 0xa839), (0xaa77, 0xaa79), (0xab5b, 0xab5b), (0xab6a, 0xab6b), (0xfb00,
  0xfb17), (0xfb1e, 0xfb1e), (0xfb29, 0xfb29), (0xfbb2, 0xfbc2), (0xfd40, 0xfd4f), (0xfdcf,
  0xfdcf), (0xfdfc, 0xfdff), (0xfe62, 0xfe62), (0xfe64, 0xfe66), (0xfe69, 0xfe69), (0xff04,
  0xff04), (0xff0b, 0xff0b), (0xff1c, 0xff1e), (0xff21, 0xff3a), (0xff3e, 0xff3e), (0xff40,
  0xff5a), (0xff5c, 0xff5c), (0xff5e, 0xff5e), (0xff70, 0xff70), (0xff9e, 0xff9f), (0xffe0,
  0xfffd), (0x10107, 0x101fc), (0x102e1, 0x102fb), (0x10320, 0x10323), (0x10341, 0x10341),
  (0x1034a, 0x1034a), (0x103d1, 0x103d5), (0x10858, 0x1085f), (0x10877, 0x1087f), (0x108a7,
  0x108af), (0x108fb, 0x108ff), (0x10916, 0x1091b), (0x109bc, 0x109bd), (0x109c0, 0x109ff),
  (0x10a44, 0x10a48), (0x10a7d, 0x10a7e), (0x10a9d, 0x10a9f), (0x10ac8, 0x10ac8), (0x10aeb,
  0x10aef), (0x10b58, 0x10b5f), (0x10b78, 0x10b7f), (0x10ba9, 0x10baf), (0x10cfa, 0x10cff),
  (0x10e69, 0x10e7e), (0x10f1d, 0x10f26), (0x10f51, 0x10f54), (0x10fc5, 0x10fcb), (0x1105b,
  0x11065), (0x111e1, 0x111f4), (0x1173a, 0x1173b), (0x1173f, 0x1173f), (0x118ea, 0x118f2),
  (0x11c5a, 0x11c6c), (0x11fc0, 0x11ff1), (0x12400, 0x1246e), (0x16b3c, 0x16b3f), (0x16b45,
  0x16b45), (0x16b5b, 0x16b61), (0x16e80, 0x16e96), (0x1bc9c, 0x1bc9c), (0x1cf50, 0x1d164),
  (0x1d16a, 0x1d16c), (0x1d183, 0x1d184), (0x1d18c, 0x1d1a9), (0x1d1ae, 0x1d241), (0x1d245,
  0x1d378), (0x1d6c1, 0x1d6c1), (0x1d6db, 0x1d6db), (0x1d6fb, 0x1d6fb), (0x1d715, 0x1d715),
  (0x1d735, 0x1d735), (0x1d74f, 0x1d74f), (0x1d76f, 0x1d76f), (0x1d789, 0x1d789), (0x1d7a9,
  0x1d7a9), (0x1d7c3, 0x1d7c3), (0x1d800, 0x1d9ff), (0x1da37, 0x1da3a), (0x1da6d, 0x1da74),
  (0x1da76, 0x1da83), (0x1da85, 0x1da86), (0x1e14f, 0x1e14f), (0x1e2ff, 0x1e2ff), (0x1e8c7,
  0x1e8cf), (0x1ec71, 0x1ed3d), (0x1eef0, 0x1f0f5), (0x1f10b, 0x1f5ff), (0x1f650, 0x1fbca)]

def isPunctuation (c : Char) : Bool := within punctuationRanges c

def isSymbol (c : Char) : Bool := within symbolRanges c

end UmlPress.Text
