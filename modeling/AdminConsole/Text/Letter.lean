import AdminConsole.Text.Mark

/-!
# Letters and numbers

Which characters belong to words: those with the property `Alphabetic`, and numbers of all kinds. Of them
some are cased, which means that they are upper-case, lower-case or title-case forms. Characters that are
ignored for case may stand between the letters of a word, such as an apostrophe.
-/

set_option autoImplicit false

namespace AdminConsole.Text

/-- The ranges of letters and numbers. -/
def letterRanges : CodeRanges :=
  [(0x30, 0x39), (0x41, 0x5a), (0x61, 0x7a), (0xaa, 0xaa), (0xb2, 0xb3), (0xb5, 0xb5), (0xb9, 0xba),
    (0xbc, 0xbe), (0xc0, 0xd6), (0xd8, 0xf6), (0xf8, 0x2c1), (0x2c6, 0x2d1), (0x2e0, 0x2e4),
    (0x2ec, 0x2ec), (0x2ee, 0x2ee), (0x345, 0x345), (0x363, 0x374), (0x376, 0x37d), (0x37f, 0x37f),
    (0x386, 0x386), (0x388, 0x3f5), (0x3f7, 0x481), (0x48a, 0x559), (0x560, 0x588), (0x5b0, 0x5bd),
    (0x5bf, 0x5bf), (0x5c1, 0x5c2), (0x5c4, 0x5c5), (0x5c7, 0x5f2), (0x610, 0x61a), (0x620, 0x657),
    (0x659, 0x669), (0x66e, 0x6d3), (0x6d5, 0x6dc), (0x6e1, 0x6e8), (0x6ed, 0x6fc), (0x6ff, 0x6ff),
    (0x710, 0x73f), (0x74d, 0x7ea), (0x7f4, 0x7f5), (0x7fa, 0x7fa), (0x800, 0x817), (0x81a, 0x82c),
    (0x840, 0x858), (0x860, 0x887), (0x889, 0x88f), (0x897, 0x897), (0x8a0, 0x8c9), (0x8d4, 0x8df),
    (0x8e3, 0x8e9), (0x8f0, 0x93b), (0x93d, 0x94c), (0x94e, 0x950), (0x955, 0x963), (0x966, 0x96f),
    (0x971, 0x9b9), (0x9bd, 0x9cc), (0x9ce, 0x9f1), (0x9f4, 0x9f9), (0x9fc, 0x9fc), (0xa01, 0xa39),
    (0xa3e, 0xa4c), (0xa51, 0xa75), (0xa81, 0xab9), (0xabd, 0xacc), (0xad0, 0xaef), (0xaf9, 0xafc),
    (0xb01, 0xb39), (0xb3d, 0xb4c), (0xb56, 0xb6f), (0xb71, 0xbcc), (0xbd0, 0xbf2), (0xc00, 0xc39),
    (0xc3d, 0xc4c), (0xc55, 0xc6f), (0xc78, 0xc7e), (0xc80, 0xc83), (0xc85, 0xcb9), (0xcbd, 0xccc),
    (0xcd5, 0xd3a), (0xd3d, 0xd4c), (0xd4e, 0xd4e), (0xd54, 0xd78), (0xd7a, 0xdc6), (0xdcf, 0xdf3),
    (0xe01, 0xe3a), (0xe40, 0xe46), (0xe4d, 0xe4d), (0xe50, 0xe59), (0xe81, 0xeb9), (0xebb, 0xec6),
    (0xecd, 0xecd), (0xed0, 0xf00), (0xf20, 0xf33), (0xf40, 0xf83), (0xf88, 0xfbc),
    (0x1000, 0x1036), (0x1038, 0x1038), (0x103b, 0x1049), (0x1050, 0x109d), (0x10a0, 0x10fa),
    (0x10fc, 0x135a), (0x1369, 0x138f), (0x13a0, 0x13fd), (0x1401, 0x166c), (0x166f, 0x167f),
    (0x1681, 0x169a), (0x16a0, 0x16ea), (0x16ee, 0x1713), (0x171f, 0x1733), (0x1740, 0x17b3),
    (0x17b6, 0x17c8), (0x17d7, 0x17d7), (0x17dc, 0x17dc), (0x17e0, 0x17f9), (0x1810, 0x1938),
    (0x1946, 0x19da), (0x1a00, 0x1a1b), (0x1a20, 0x1a5e), (0x1a61, 0x1a74), (0x1a80, 0x1a99),
    (0x1aa7, 0x1aa7), (0x1abf, 0x1ac0), (0x1acc, 0x1ace), (0x1b00, 0x1b33), (0x1b35, 0x1b43),
    (0x1b45, 0x1b4c), (0x1b50, 0x1b59), (0x1b80, 0x1ba9), (0x1bac, 0x1be5), (0x1be7, 0x1bf1),
    (0x1c00, 0x1c36), (0x1c40, 0x1c7d), (0x1c80, 0x1cbf), (0x1ce9, 0x1cec), (0x1cee, 0x1cf3),
    (0x1cf5, 0x1cf6), (0x1cfa, 0x1dbf), (0x1dd3, 0x1df4), (0x1e00, 0x1fbc), (0x1fbe, 0x1fbe),
    (0x1fc2, 0x1fcc), (0x1fd0, 0x1fdb), (0x1fe0, 0x1fec), (0x1ff2, 0x1ffc), (0x2070, 0x2079),
    (0x207f, 0x2089), (0x2090, 0x209c), (0x2102, 0x2102), (0x2107, 0x2107), (0x210a, 0x2113),
    (0x2115, 0x2115), (0x2119, 0x211d), (0x2124, 0x2124), (0x2126, 0x2126), (0x2128, 0x2128),
    (0x212a, 0x212d), (0x212f, 0x2139), (0x213c, 0x213f), (0x2145, 0x2149), (0x214e, 0x214e),
    (0x2150, 0x2189), (0x2460, 0x249b), (0x24b6, 0x24ff), (0x2776, 0x2793), (0x2c00, 0x2ce4),
    (0x2ceb, 0x2cee), (0x2cf2, 0x2cf3), (0x2cfd, 0x2cfd), (0x2d00, 0x2d6f), (0x2d80, 0x2dff),
    (0x2e2f, 0x2e2f), (0x3005, 0x3007), (0x3021, 0x3029), (0x3031, 0x3035), (0x3038, 0x303c),
    (0x3041, 0x3096), (0x309d, 0x309f), (0x30a1, 0x30fa), (0x30fc, 0x318e), (0x3192, 0x3195),
    (0x31a0, 0x31bf), (0x31f0, 0x31ff), (0x3220, 0x3229), (0x3248, 0x324f), (0x3251, 0x325f),
    (0x3280, 0x3289), (0x32b1, 0x32bf), (0x3400, 0x4dbf), (0x4e00, 0xa48c), (0xa4d0, 0xa4fd),
    (0xa500, 0xa60c), (0xa610, 0xa66e), (0xa674, 0xa67b), (0xa67f, 0xa6ef), (0xa717, 0xa71f),
    (0xa722, 0xa788), (0xa78b, 0xa805), (0xa807, 0xa827), (0xa830, 0xa835), (0xa840, 0xa873),
    (0xa880, 0xa8c3), (0xa8c5, 0xa8c5), (0xa8d0, 0xa8d9), (0xa8f2, 0xa8f7), (0xa8fb, 0xa8fb),
    (0xa8fd, 0xa92a), (0xa930, 0xa952), (0xa960, 0xa9b2), (0xa9b4, 0xa9bf), (0xa9cf, 0xa9d9),
    (0xa9e0, 0xaa59), (0xaa60, 0xaa76), (0xaa7a, 0xaabe), (0xaac0, 0xaac0), (0xaac2, 0xaadd),
    (0xaae0, 0xaaef), (0xaaf2, 0xaaf5), (0xab01, 0xab5a), (0xab5c, 0xab69), (0xab70, 0xabea),
    (0xabf0, 0xd7fb), (0xf900, 0xfb28), (0xfb2a, 0xfbb1), (0xfbd3, 0xfd3d), (0xfd50, 0xfd8f),
    (0xfd92, 0xfdc7), (0xfdf0, 0xfdfb), (0xfe70, 0xfefc), (0xff10, 0xff19), (0xff21, 0xff3a),
    (0xff41, 0xff5a), (0xff66, 0xffdc), (0x10000, 0x100fa), (0x10107, 0x10133), (0x10140, 0x10178),
    (0x1018a, 0x1018b), (0x10280, 0x102d0), (0x102e1, 0x1039d), (0x103a0, 0x103cf),
    (0x103d1, 0x10563), (0x10570, 0x10855), (0x10858, 0x10876), (0x10879, 0x1091b),
    (0x10920, 0x10939), (0x10940, 0x10a35), (0x10a40, 0x10a48), (0x10a60, 0x10a7e),
    (0x10a80, 0x10ac7), (0x10ac9, 0x10ae4), (0x10aeb, 0x10aef), (0x10b00, 0x10b35),
    (0x10b40, 0x10b91), (0x10ba9, 0x10d69), (0x10d6f, 0x10d85), (0x10e60, 0x10eac),
    (0x10eb0, 0x10ec7), (0x10efa, 0x10efc), (0x10f00, 0x10f45), (0x10f51, 0x10f54),
    (0x10f70, 0x10f81), (0x10fb0, 0x11045), (0x11052, 0x1106f), (0x11071, 0x11075),
    (0x11080, 0x110b8), (0x110c2, 0x110c2), (0x110d0, 0x11132), (0x11136, 0x1113f),
    (0x11144, 0x11172), (0x11176, 0x111bf), (0x111c1, 0x111c4), (0x111ce, 0x111da),
    (0x111dc, 0x111dc), (0x111e1, 0x11234), (0x11237, 0x11237), (0x1123e, 0x112a8),
    (0x112b0, 0x112e8), (0x112f0, 0x11339), (0x1133d, 0x1134c), (0x11350, 0x11363),
    (0x11380, 0x113cd), (0x113d1, 0x113d1), (0x113d3, 0x113d3), (0x11400, 0x11441),
    (0x11443, 0x11445), (0x11447, 0x1144a), (0x11450, 0x11459), (0x1145f, 0x114c1),
    (0x114c4, 0x114c5), (0x114c7, 0x115be), (0x115d8, 0x1163e), (0x11640, 0x11640),
    (0x11644, 0x11659), (0x11680, 0x116b5), (0x116b8, 0x116b8), (0x116c0, 0x1172a),
    (0x11730, 0x1173b), (0x11740, 0x11838), (0x118a0, 0x1193c), (0x1193f, 0x11942),
    (0x11950, 0x119df), (0x119e1, 0x119e1), (0x119e3, 0x11a32), (0x11a35, 0x11a3e),
    (0x11a50, 0x11a97), (0x11a9d, 0x11a9d), (0x11ab0, 0x11af8), (0x11b60, 0x11be0),
    (0x11bf0, 0x11c3e), (0x11c40, 0x11c40), (0x11c50, 0x11c6c), (0x11c72, 0x11d41),
    (0x11d43, 0x11d43), (0x11d46, 0x11d96), (0x11d98, 0x11ef6), (0x11f00, 0x11f40),
    (0x11f50, 0x11f59), (0x11fb0, 0x11fd4), (0x12000, 0x1246e), (0x12480, 0x12ff0),
    (0x13000, 0x1342f), (0x13441, 0x13446), (0x13460, 0x1612e), (0x16130, 0x16a69),
    (0x16a70, 0x16aed), (0x16b00, 0x16b2f), (0x16b40, 0x16b43), (0x16b50, 0x16d6c),
    (0x16d70, 0x16e96), (0x16ea0, 0x16fe1), (0x16fe3, 0x16fe3), (0x16ff0, 0x1bc99),
    (0x1bc9e, 0x1bc9e), (0x1ccf0, 0x1ccf9), (0x1d2c0, 0x1d2f3), (0x1d360, 0x1d6c0),
    (0x1d6c2, 0x1d6da), (0x1d6dc, 0x1d6fa), (0x1d6fc, 0x1d714), (0x1d716, 0x1d734),
    (0x1d736, 0x1d74e), (0x1d750, 0x1d76e), (0x1d770, 0x1d788), (0x1d78a, 0x1d7a8),
    (0x1d7aa, 0x1d7c2), (0x1d7c4, 0x1d7ff), (0x1df00, 0x1e12c), (0x1e137, 0x1e14e),
    (0x1e290, 0x1e2ad), (0x1e2c0, 0x1e2eb), (0x1e2f0, 0x1e2f9), (0x1e4d0, 0x1e4eb),
    (0x1e4f0, 0x1e5ed), (0x1e5f0, 0x1e5fa), (0x1e6c0, 0x1e8cf), (0x1e900, 0x1e943),
    (0x1e947, 0x1e947), (0x1e94b, 0x1e959), (0x1ec71, 0x1ecab), (0x1ecad, 0x1ecaf),
    (0x1ecb1, 0x1ed2d), (0x1ed2f, 0x1eebb), (0x1f100, 0x1f10c), (0x1f130, 0x1f149),
    (0x1f150, 0x1f169), (0x1f170, 0x1f189), (0x1fbf0, 0x1fbf9), (0x20000, 0x33479)]

/-- The ranges of cased characters. -/
def casedRanges : CodeRanges :=
  [(0x41, 0x5a), (0x61, 0x7a), (0xaa, 0xaa), (0xb5, 0xb5), (0xba, 0xba), (0xc0, 0xd6), (0xd8, 0xf6),
    (0xf8, 0x1ba), (0x1bc, 0x1bf), (0x1c4, 0x293), (0x296, 0x2b8), (0x2c0, 0x2c1), (0x2e0, 0x2e4),
    (0x345, 0x345), (0x370, 0x373), (0x376, 0x37d), (0x37f, 0x37f), (0x386, 0x386), (0x388, 0x3f5),
    (0x3f7, 0x481), (0x48a, 0x556), (0x560, 0x588), (0x10a0, 0x10fa), (0x10fc, 0x10ff),
    (0x13a0, 0x13fd), (0x1c80, 0x1cbf), (0x1d00, 0x1dbf), (0x1e00, 0x1fbc), (0x1fbe, 0x1fbe),
    (0x1fc2, 0x1fcc), (0x1fd0, 0x1fdb), (0x1fe0, 0x1fec), (0x1ff2, 0x1ffc), (0x2071, 0x2071),
    (0x207f, 0x207f), (0x2090, 0x209c), (0x2102, 0x2102), (0x2107, 0x2107), (0x210a, 0x2113),
    (0x2115, 0x2115), (0x2119, 0x211d), (0x2124, 0x2124), (0x2126, 0x2126), (0x2128, 0x2128),
    (0x212a, 0x212d), (0x212f, 0x2134), (0x2139, 0x2139), (0x213c, 0x213f), (0x2145, 0x2149),
    (0x214e, 0x214e), (0x2160, 0x217f), (0x2183, 0x2184), (0x24b6, 0x24e9), (0x2c00, 0x2ce4),
    (0x2ceb, 0x2cee), (0x2cf2, 0x2cf3), (0x2d00, 0x2d2d), (0xa640, 0xa66d), (0xa680, 0xa69d),
    (0xa722, 0xa787), (0xa78b, 0xa78e), (0xa790, 0xa7f6), (0xa7f8, 0xa7fa), (0xab30, 0xab5a),
    (0xab5c, 0xab69), (0xab70, 0xabbf), (0xfb00, 0xfb17), (0xff21, 0xff3a), (0xff41, 0xff5a),
    (0x10400, 0x1044f), (0x104b0, 0x104fb), (0x10570, 0x105bc), (0x10780, 0x10780),
    (0x10783, 0x107ba), (0x10c80, 0x10cf2), (0x10d50, 0x10d65), (0x10d70, 0x10d85),
    (0x118a0, 0x118df), (0x16e40, 0x16e7f), (0x16ea0, 0x16ed3), (0x1d400, 0x1d6c0),
    (0x1d6c2, 0x1d6da), (0x1d6dc, 0x1d6fa), (0x1d6fc, 0x1d714), (0x1d716, 0x1d734),
    (0x1d736, 0x1d74e), (0x1d750, 0x1d76e), (0x1d770, 0x1d788), (0x1d78a, 0x1d7a8),
    (0x1d7aa, 0x1d7c2), (0x1d7c4, 0x1d7cb), (0x1df00, 0x1df09), (0x1df0b, 0x1df2a),
    (0x1e030, 0x1e06d), (0x1e900, 0x1e943), (0x1f130, 0x1f149), (0x1f150, 0x1f169),
    (0x1f170, 0x1f189)]

/-- The ranges of characters that are ignored for case and are no slim marks, which all are. -/
def caseIgnorableRanges : CodeRanges :=
  [(0x27, 0x27), (0x2e, 0x2e), (0x3a, 0x3a), (0x5e, 0x5e), (0x60, 0x60), (0xa8, 0xa8), (0xad, 0xad),
    (0xaf, 0xaf), (0xb4, 0xb4), (0xb7, 0xb8), (0x2b0, 0x2ff), (0x374, 0x375), (0x37a, 0x37a),
    (0x384, 0x385), (0x387, 0x387), (0x559, 0x559), (0x55f, 0x55f), (0x5f4, 0x605), (0x61c, 0x61c),
    (0x640, 0x640), (0x6dd, 0x6dd), (0x6e5, 0x6e6), (0x70f, 0x70f), (0x7f4, 0x7f5), (0x7fa, 0x7fa),
    (0x81a, 0x828), (0x888, 0x888), (0x890, 0x891), (0x8c9, 0x8e2), (0x971, 0x971), (0xe46, 0xe46),
    (0xec6, 0xec6), (0x10fc, 0x10fc), (0x17d7, 0x17d7), (0x180e, 0x180e), (0x1843, 0x1843),
    (0x1aa7, 0x1aa7), (0x1c78, 0x1c7d), (0x1d2c, 0x1d6a), (0x1d78, 0x1d78), (0x1d9b, 0x1dbf),
    (0x1fbd, 0x1fbd), (0x1fbf, 0x1fc1), (0x1fcd, 0x1fcf), (0x1fdd, 0x1fdf), (0x1fed, 0x1fef),
    (0x1ffd, 0x1ffe), (0x200b, 0x200f), (0x2018, 0x2019), (0x2024, 0x2024), (0x2027, 0x2027),
    (0x202a, 0x202e), (0x2060, 0x206f), (0x2071, 0x2071), (0x207f, 0x207f), (0x2090, 0x209c),
    (0x2c7c, 0x2c7d), (0x2d6f, 0x2d6f), (0x2e2f, 0x2e2f), (0x3005, 0x3005), (0x3031, 0x3035),
    (0x303b, 0x303b), (0x309b, 0x309e), (0x30fc, 0x30fe), (0xa015, 0xa015), (0xa4f8, 0xa4fd),
    (0xa60c, 0xa60c), (0xa67f, 0xa67f), (0xa69c, 0xa69d), (0xa700, 0xa721), (0xa770, 0xa770),
    (0xa788, 0xa78a), (0xa7f1, 0xa7f4), (0xa7f8, 0xa7f9), (0xa9cf, 0xa9cf), (0xa9e6, 0xa9e6),
    (0xaa70, 0xaa70), (0xaadd, 0xaadd), (0xaaf3, 0xaaf4), (0xab5b, 0xab5f), (0xab69, 0xab6b),
    (0xfbb2, 0xfbc2), (0xfe13, 0xfe13), (0xfe52, 0xfe52), (0xfe55, 0xfe55), (0xfeff, 0xfeff),
    (0xff07, 0xff07), (0xff0e, 0xff0e), (0xff1a, 0xff1a), (0xff3e, 0xff3e), (0xff40, 0xff40),
    (0xff70, 0xff70), (0xff9e, 0xff9f), (0xffe3, 0xffe3), (0xfff9, 0xfffb), (0x10780, 0x107ba),
    (0x10d4e, 0x10d4e), (0x10d6f, 0x10d6f), (0x10ec5, 0x10ec5), (0x110bd, 0x110bd),
    (0x110cd, 0x110cd), (0x11dd9, 0x11dd9), (0x13430, 0x1343f), (0x16b40, 0x16b43),
    (0x16d40, 0x16d42), (0x16d6b, 0x16d6c), (0x16f93, 0x16fe1), (0x16fe3, 0x16fe3),
    (0x16ff2, 0x16ff3), (0x1aff0, 0x1affe), (0x1bca0, 0x1bca3), (0x1d173, 0x1d17a),
    (0x1e030, 0x1e06d), (0x1e137, 0x1e13d), (0x1e4eb, 0x1e4eb), (0x1e6ff, 0x1e6ff),
    (0x1e94b, 0x1e94b), (0x1f3fb, 0x1f3ff), (0xe0001, 0xe007f)]

/-- Whether a character is a letter or a number. -/
def isLetter (c : Char) : Bool :=
  isIn letterRanges c && isAssigned c

/-- Whether a character is cased. -/
def isCased (c : Char) : Bool :=
  isIn casedRanges c && isAssigned c

/-- Whether a character is ignored for case. -/
def isCaseIgnorable (c : Char) : Bool :=
  isSlimMark c || (isIn caseIgnorableRanges c && isAssigned c)

end AdminConsole.Text
