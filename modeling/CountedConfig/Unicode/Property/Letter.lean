/-
The letters and marks that have a property and are not told by their category.
-/
import CountedConfig.Text.Runs

namespace CountedConfig
namespace Unicode

open Text (Runs)

def otherLowercaseRuns : Runs :=
  [(0xaa, 0xaa), (0xba, 0xba), (0x2b0, 0x2b8), (0x2c0, 0x2c1), (0x2e0, 0x2e4), (0x345, 0x345),
   (0x37a, 0x37a), (0x10fc, 0x10fc), (0x1d2c, 0x1d6a), (0x1d78, 0x1d78), (0x1d9b, 0x1dbf),
   (0x2071, 0x2071), (0x207f, 0x207f), (0x2090, 0x209c), (0x2170, 0x217f), (0x24d0, 0x24e9),
   (0x2c7c, 0x2c7d), (0xa69c, 0xa69d), (0xa770, 0xa770), (0xa7f2, 0xa7f4), (0xa7f8, 0xa7f9),
   (0xab5c, 0xab5f), (0xab69, 0xab69), (0x10780, 0x10780), (0x10783, 0x10785), (0x10787, 0x107b0),
   (0x107b2, 0x107ba), (0x1e030, 0x1e06d)]

def otherUppercaseRuns : Runs :=
  [(0x2160, 0x216f), (0x24b6, 0x24cf), (0x1f130, 0x1f149), (0x1f150, 0x1f169), (0x1f170, 0x1f189)]

/-- What is uppercase and has no lowercase form. -/
def lastingUppercaseRuns : Runs :=
  [(0x3d2, 0x3d4), (0x2102, 0x2102), (0x2107, 0x2107), (0x210b, 0x210d), (0x2110, 0x2112),
   (0x2115, 0x2115), (0x2119, 0x211d), (0x2124, 0x2124), (0x2128, 0x2128), (0x212c, 0x212d),
   (0x2130, 0x2131), (0x2133, 0x2133), (0x213e, 0x213f), (0x2145, 0x2145), (0x1d400, 0x1d419),
   (0x1d434, 0x1d44d), (0x1d468, 0x1d481), (0x1d49c, 0x1d49c), (0x1d49e, 0x1d49f),
   (0x1d4a2, 0x1d4a2), (0x1d4a5, 0x1d4a6), (0x1d4a9, 0x1d4ac), (0x1d4ae, 0x1d4b5),
   (0x1d4d0, 0x1d4e9), (0x1d504, 0x1d505), (0x1d507, 0x1d50a), (0x1d50d, 0x1d514),
   (0x1d516, 0x1d51c), (0x1d538, 0x1d539), (0x1d53b, 0x1d53e), (0x1d540, 0x1d544),
   (0x1d546, 0x1d546), (0x1d54a, 0x1d550), (0x1d56c, 0x1d585), (0x1d5a0, 0x1d5b9),
   (0x1d5d4, 0x1d5ed), (0x1d608, 0x1d621), (0x1d63c, 0x1d655), (0x1d670, 0x1d689),
   (0x1d6a8, 0x1d6c0), (0x1d6e2, 0x1d6fa), (0x1d71c, 0x1d734), (0x1d756, 0x1d76e),
   (0x1d790, 0x1d7a8), (0x1d7ca, 0x1d7ca), (0x1f130, 0x1f149), (0x1f150, 0x1f169),
   (0x1f170, 0x1f189)]

/-- What is lowercase and has no uppercase form. -/
def lastingLowercaseRuns : Runs :=
  [(0xaa, 0xaa), (0xba, 0xba), (0x138, 0x138), (0x18d, 0x18d), (0x1aa, 0x1ab), (0x1ba, 0x1ba),
   (0x1be, 0x1be), (0x221, 0x221), (0x234, 0x239), (0x255, 0x255), (0x258, 0x258), (0x25a, 0x25a),
   (0x25d, 0x25f), (0x262, 0x262), (0x267, 0x267), (0x26d, 0x26e), (0x270, 0x270), (0x273, 0x274),
   (0x276, 0x27c), (0x27e, 0x27f), (0x281, 0x281), (0x284, 0x286), (0x28d, 0x291), (0x293, 0x293),
   (0x295, 0x29c), (0x29f, 0x2b8), (0x2c0, 0x2c1), (0x2e0, 0x2e4), (0x37a, 0x37a), (0x3fc, 0x3fc),
   (0x560, 0x560), (0x588, 0x588), (0x10fc, 0x10fc), (0x1d00, 0x1d78), (0x1d7a, 0x1d7c),
   (0x1d7e, 0x1d8d), (0x1d8f, 0x1dbf), (0x1e9c, 0x1e9d), (0x1e9f, 0x1e9f), (0x2071, 0x2071),
   (0x207f, 0x207f), (0x2090, 0x209c), (0x210a, 0x210a), (0x210e, 0x210f), (0x2113, 0x2113),
   (0x212f, 0x212f), (0x2134, 0x2134), (0x2139, 0x2139), (0x213c, 0x213d), (0x2146, 0x2149),
   (0x2c71, 0x2c71), (0x2c74, 0x2c74), (0x2c77, 0x2c7d), (0x2ce4, 0x2ce4), (0xa69c, 0xa69d),
   (0xa730, 0xa731), (0xa770, 0xa778), (0xa78e, 0xa78e), (0xa795, 0xa795), (0xa7af, 0xa7af),
   (0xa7d3, 0xa7d3), (0xa7d5, 0xa7d5), (0xa7f2, 0xa7f4), (0xa7f8, 0xa7fa), (0xab30, 0xab52),
   (0xab54, 0xab5a), (0xab5c, 0xab69), (0x10780, 0x10780), (0x10783, 0x10785), (0x10787, 0x107b0),
   (0x107b2, 0x107ba), (0x1d41a, 0x1d433), (0x1d44e, 0x1d454), (0x1d456, 0x1d467),
   (0x1d482, 0x1d49b), (0x1d4b6, 0x1d4b9), (0x1d4bb, 0x1d4bb), (0x1d4bd, 0x1d4c3),
   (0x1d4c5, 0x1d4cf), (0x1d4ea, 0x1d503), (0x1d51e, 0x1d537), (0x1d552, 0x1d56b),
   (0x1d586, 0x1d59f), (0x1d5ba, 0x1d5d3), (0x1d5ee, 0x1d607), (0x1d622, 0x1d63b),
   (0x1d656, 0x1d66f), (0x1d68a, 0x1d6a5), (0x1d6c2, 0x1d6da), (0x1d6dc, 0x1d6e1),
   (0x1d6fc, 0x1d714), (0x1d716, 0x1d71b), (0x1d736, 0x1d74e), (0x1d750, 0x1d755),
   (0x1d770, 0x1d788), (0x1d78a, 0x1d78f), (0x1d7aa, 0x1d7c2), (0x1d7c4, 0x1d7c9),
   (0x1d7cb, 0x1d7cb), (0x1df00, 0x1df09), (0x1df0b, 0x1df1e), (0x1df25, 0x1df2a),
   (0x1e030, 0x1e06d)]

/-- What has an uppercase form and is its own titlecase form. -/
def ownTitlecaseRuns : Runs :=
  [(0x1c5, 0x1c5), (0x1c8, 0x1c8), (0x1cb, 0x1cb), (0x1f2, 0x1f2), (0x10d0, 0x10fa),
   (0x10fd, 0x10ff), (0x1f88, 0x1f8f), (0x1f98, 0x1f9f), (0x1fa8, 0x1faf), (0x1fbc, 0x1fbc),
   (0x1fcc, 0x1fcc), (0x1ffc, 0x1ffc)]

/-- What folds to something else without having a lowercase form. -/
def foldedRuns : Runs :=
  [(0xb5, 0xb5), (0xdf, 0xdf), (0x149, 0x149), (0x17f, 0x17f), (0x345, 0x345), (0x3c2, 0x3c2),
   (0x3d0, 0x3d1), (0x3d5, 0x3d6), (0x3f0, 0x3f1), (0x3f5, 0x3f5), (0x587, 0x587),
   (0x13f8, 0x13fd), (0x1c80, 0x1c88), (0x1e9a, 0x1e9b), (0x1f80, 0x1f87), (0x1f90, 0x1f97),
   (0x1fa0, 0x1fa7), (0x1fb2, 0x1fb4), (0x1fb7, 0x1fb7), (0x1fc2, 0x1fc4), (0x1fc7, 0x1fc7),
   (0x1ff2, 0x1ff4), (0x1ff7, 0x1ff7), (0xab70, 0xabbf), (0xfb00, 0xfb06), (0xfb13, 0xfb17)]

/-- The marks and letters that change another letter. -/
def diacriticRuns : Runs :=
  [(0x5e, 0x5e), (0x60, 0x60), (0xa8, 0xa8), (0xaf, 0xaf), (0xb4, 0xb4), (0xb7, 0xb8),
   (0x2b0, 0x34e), (0x350, 0x357), (0x35d, 0x362), (0x374, 0x375), (0x37a, 0x37a), (0x384, 0x385),
   (0x483, 0x487), (0x559, 0x559), (0x591, 0x5a1), (0x5a3, 0x5bd), (0x5bf, 0x5bf), (0x5c1, 0x5c2),
   (0x5c4, 0x5c4), (0x64b, 0x652), (0x657, 0x658), (0x6df, 0x6e0), (0x6e5, 0x6e6), (0x6ea, 0x6ec),
   (0x730, 0x74a), (0x7a6, 0x7b0), (0x7eb, 0x7f5), (0x818, 0x819), (0x898, 0x89f), (0x8c9, 0x8d2),
   (0x8e3, 0x8fe), (0x93c, 0x93c), (0x94d, 0x94d), (0x951, 0x954), (0x971, 0x971), (0x9bc, 0x9bc),
   (0x9cd, 0x9cd), (0xa3c, 0xa3c), (0xa4d, 0xa4d), (0xabc, 0xabc), (0xacd, 0xacd), (0xafd, 0xaff),
   (0xb3c, 0xb3c), (0xb4d, 0xb4d), (0xb55, 0xb55), (0xbcd, 0xbcd), (0xc3c, 0xc3c), (0xc4d, 0xc4d),
   (0xcbc, 0xcbc), (0xccd, 0xccd), (0xd3b, 0xd3c), (0xd4d, 0xd4d), (0xdca, 0xdca), (0xe3a, 0xe3a),
   (0xe47, 0xe4c), (0xe4e, 0xe4e), (0xeba, 0xeba), (0xec8, 0xecc), (0xf18, 0xf19), (0xf35, 0xf35),
   (0xf37, 0xf37), (0xf39, 0xf39), (0xf3e, 0xf3f), (0xf82, 0xf84), (0xf86, 0xf87), (0xfc6, 0xfc6),
   (0x1037, 0x1037), (0x1039, 0x103a), (0x1063, 0x1064), (0x1069, 0x106d), (0x1087, 0x108d),
   (0x108f, 0x108f), (0x109a, 0x109b), (0x135d, 0x135f), (0x1714, 0x1715), (0x1734, 0x1734),
   (0x17c9, 0x17d3), (0x17dd, 0x17dd), (0x1939, 0x193b), (0x1a60, 0x1a60), (0x1a75, 0x1a7c),
   (0x1a7f, 0x1a7f), (0x1ab0, 0x1abe), (0x1ac1, 0x1acb), (0x1b34, 0x1b34), (0x1b44, 0x1b44),
   (0x1b6b, 0x1b73), (0x1baa, 0x1bab), (0x1be6, 0x1be6), (0x1bf2, 0x1bf3), (0x1c36, 0x1c37),
   (0x1c78, 0x1c7d), (0x1cd0, 0x1ce8), (0x1ced, 0x1ced), (0x1cf4, 0x1cf4), (0x1cf7, 0x1cf9),
   (0x1d2c, 0x1d6a), (0x1dc4, 0x1dcf), (0x1df5, 0x1dff), (0x1fbd, 0x1fbd), (0x1fbf, 0x1fc1),
   (0x1fcd, 0x1fcf), (0x1fdd, 0x1fdf), (0x1fed, 0x1fef), (0x1ffd, 0x1ffe), (0x2cef, 0x2cf1),
   (0x2e2f, 0x2e2f), (0x302a, 0x302f), (0x3099, 0x309c), (0x30fc, 0x30fc), (0xa66f, 0xa66f),
   (0xa67c, 0xa67d), (0xa67f, 0xa67f), (0xa69c, 0xa69d), (0xa6f0, 0xa6f1), (0xa700, 0xa721),
   (0xa788, 0xa78a), (0xa7f8, 0xa7f9), (0xa806, 0xa806), (0xa82c, 0xa82c), (0xa8c4, 0xa8c4),
   (0xa8e0, 0xa8f1), (0xa92b, 0xa92e), (0xa953, 0xa953), (0xa9b3, 0xa9b3), (0xa9c0, 0xa9c0),
   (0xa9e5, 0xa9e5), (0xaa7b, 0xaa7d), (0xaabf, 0xaac2), (0xaaf6, 0xaaf6), (0xab5b, 0xab5f),
   (0xab69, 0xab6b), (0xabec, 0xabed), (0xfb1e, 0xfb1e), (0xfe20, 0xfe2f), (0xff3e, 0xff3e),
   (0xff40, 0xff40), (0xff70, 0xff70), (0xff9e, 0xff9f), (0xffe3, 0xffe3), (0x102e0, 0x102e0),
   (0x10780, 0x10785), (0x10787, 0x107b0), (0x107b2, 0x107ba), (0x10a38, 0x10a3a),
   (0x10a3f, 0x10a3f), (0x10ae5, 0x10ae6), (0x10d22, 0x10d27), (0x10d4e, 0x10d4e),
   (0x10d69, 0x10d6d), (0x10efd, 0x10eff), (0x10f46, 0x10f50), (0x10f82, 0x10f85),
   (0x11046, 0x11046), (0x11070, 0x11070), (0x110b9, 0x110ba), (0x11133, 0x11134),
   (0x11173, 0x11173), (0x111c0, 0x111c0), (0x111ca, 0x111cc), (0x11235, 0x11236),
   (0x112e9, 0x112ea), (0x1133b, 0x1133c), (0x1134d, 0x1134d), (0x11366, 0x1136c),
   (0x11370, 0x11374), (0x113ce, 0x113d0), (0x113d2, 0x113d3), (0x113e1, 0x113e2),
   (0x11442, 0x11442), (0x11446, 0x11446), (0x114c2, 0x114c3), (0x115bf, 0x115c0),
   (0x1163f, 0x1163f), (0x116b6, 0x116b7), (0x1172b, 0x1172b), (0x11839, 0x1183a),
   (0x1193d, 0x1193e), (0x11943, 0x11943), (0x119e0, 0x119e0), (0x11a34, 0x11a34),
   (0x11a47, 0x11a47), (0x11a99, 0x11a99), (0x11c3f, 0x11c3f), (0x11d42, 0x11d42),
   (0x11d44, 0x11d45), (0x11d97, 0x11d97), (0x11f41, 0x11f42), (0x11f5a, 0x11f5a),
   (0x13447, 0x13455), (0x1612f, 0x1612f), (0x16af0, 0x16af4), (0x16b30, 0x16b36),
   (0x16d6b, 0x16d6c), (0x16f8f, 0x16f9f), (0x16ff0, 0x16ff1), (0x1aff0, 0x1aff3),
   (0x1aff5, 0x1affb), (0x1affd, 0x1affe), (0x1cf00, 0x1cf2d), (0x1cf30, 0x1cf46),
   (0x1d167, 0x1d169), (0x1d16d, 0x1d172), (0x1d17b, 0x1d182), (0x1d185, 0x1d18b),
   (0x1d1aa, 0x1d1ad), (0x1e030, 0x1e06d), (0x1e130, 0x1e136), (0x1e2ae, 0x1e2ae),
   (0x1e2ec, 0x1e2ef), (0x1e5ee, 0x1e5ef), (0x1e8d0, 0x1e8d6), (0x1e944, 0x1e946),
   (0x1e948, 0x1e94a)]

/-- What makes the letter before it longer or repeats it. -/
def extenderRuns : Runs :=
  [(0xb7, 0xb7), (0x2d0, 0x2d1), (0x640, 0x640), (0x7fa, 0x7fa), (0xa71, 0xa71), (0xafb, 0xafb),
   (0xb55, 0xb55), (0xe46, 0xe46), (0xec6, 0xec6), (0x180a, 0x180a), (0x1843, 0x1843),
   (0x1aa7, 0x1aa7), (0x1c36, 0x1c36), (0x1c7b, 0x1c7b), (0x3005, 0x3005), (0x3031, 0x3035),
   (0x309d, 0x309e), (0x30fc, 0x30fe), (0xa015, 0xa015), (0xa60c, 0xa60c), (0xa9cf, 0xa9cf),
   (0xa9e6, 0xa9e6), (0xaa70, 0xaa70), (0xaadd, 0xaadd), (0xaaf3, 0xaaf4), (0xff70, 0xff70),
   (0x10781, 0x10782), (0x10d4e, 0x10d4e), (0x10d6a, 0x10d6a), (0x10d6f, 0x10d6f),
   (0x11237, 0x11237), (0x1135d, 0x1135d), (0x113d2, 0x113d3), (0x115c6, 0x115c8),
   (0x11a98, 0x11a98), (0x16b42, 0x16b43), (0x16fe0, 0x16fe1), (0x16fe3, 0x16fe3),
   (0x1e13c, 0x1e13d), (0x1e5ef, 0x1e5ef), (0x1e944, 0x1e946)]

/-- The marks that take the vowel from a letter and link it to the next one. -/
def graphemeLinkRuns : Runs :=
  [(0x94d, 0x94d), (0x9cd, 0x9cd), (0xa4d, 0xa4d), (0xacd, 0xacd), (0xb4d, 0xb4d), (0xbcd, 0xbcd),
   (0xc4d, 0xc4d), (0xccd, 0xccd), (0xd3b, 0xd3c), (0xd4d, 0xd4d), (0xdca, 0xdca), (0xe3a, 0xe3a),
   (0xeba, 0xeba), (0xf84, 0xf84), (0x1039, 0x103a), (0x1714, 0x1715), (0x1734, 0x1734),
   (0x17d2, 0x17d2), (0x1a60, 0x1a60), (0x1b44, 0x1b44), (0x1baa, 0x1bab), (0x1bf2, 0x1bf3),
   (0x2d7f, 0x2d7f), (0xa806, 0xa806), (0xa82c, 0xa82c), (0xa8c4, 0xa8c4), (0xa953, 0xa953),
   (0xa9c0, 0xa9c0), (0xaaf6, 0xaaf6), (0xabed, 0xabed), (0x10a3f, 0x10a3f), (0x11046, 0x11046),
   (0x11070, 0x11070), (0x1107f, 0x1107f), (0x110b9, 0x110b9), (0x11133, 0x11134),
   (0x111c0, 0x111c0), (0x11235, 0x11235), (0x112ea, 0x112ea), (0x1134d, 0x1134d),
   (0x113ce, 0x113d0), (0x11442, 0x11442), (0x114c2, 0x114c2), (0x115bf, 0x115bf),
   (0x1163f, 0x1163f), (0x116b6, 0x116b6), (0x1172b, 0x1172b), (0x11839, 0x11839),
   (0x1193d, 0x1193e), (0x119e0, 0x119e0), (0x11a34, 0x11a34), (0x11a47, 0x11a47),
   (0x11a99, 0x11a99), (0x11c3f, 0x11c3f), (0x11d44, 0x11d45), (0x11d97, 0x11d97),
   (0x11f41, 0x11f42), (0x1612f, 0x1612f)]

/-- The letters with a dot that a mark above takes the place of. -/
def softDottedRuns : Runs :=
  [(0x69, 0x6a), (0x12f, 0x12f), (0x249, 0x249), (0x268, 0x268), (0x29d, 0x29d), (0x2b2, 0x2b2),
   (0x3f3, 0x3f3), (0x456, 0x456), (0x458, 0x458), (0x1d62, 0x1d62), (0x1d96, 0x1d96),
   (0x1da4, 0x1da4), (0x1da8, 0x1da8), (0x1e2d, 0x1e2d), (0x1ecb, 0x1ecb), (0x2071, 0x2071),
   (0x2148, 0x2149), (0x2c7c, 0x2c7c), (0x1d422, 0x1d423), (0x1d456, 0x1d457), (0x1d48a, 0x1d48b),
   (0x1d4be, 0x1d4bf), (0x1d4f2, 0x1d4f3), (0x1d526, 0x1d527), (0x1d55a, 0x1d55b),
   (0x1d58e, 0x1d58f), (0x1d5c2, 0x1d5c3), (0x1d5f6, 0x1d5f7), (0x1d62a, 0x1d62b),
   (0x1d65e, 0x1d65f), (0x1d692, 0x1d693), (0x1df1a, 0x1df1a), (0x1e04c, 0x1e04d),
   (0x1e068, 0x1e068)]

def unifiedIdeographRuns : Runs :=
  [(0x3400, 0x4dbf), (0x4e00, 0x9fff), (0xfa0e, 0xfa0f), (0xfa11, 0xfa11), (0xfa13, 0xfa14),
   (0xfa1f, 0xfa1f), (0xfa21, 0xfa21), (0xfa23, 0xfa24), (0xfa27, 0xfa29), (0x20000, 0x2a6df),
   (0x2a700, 0x2b739), (0x2b740, 0x2b81d), (0x2b820, 0x2cea1), (0x2ceb0, 0x2ebe0),
   (0x2ebf0, 0x2ee5d), (0x30000, 0x3134a), (0x31350, 0x323af)]

def otherIdeographRuns : Runs :=
  [(0x3006, 0x3007), (0x3021, 0x3029), (0x3038, 0x303a), (0xf900, 0xfa0d), (0xfa10, 0xfa10),
   (0xfa12, 0xfa12), (0xfa15, 0xfa1e), (0xfa20, 0xfa20), (0xfa22, 0xfa22), (0xfa25, 0xfa26),
   (0xfa2a, 0xfa6d), (0xfa70, 0xfad9), (0x16fe4, 0x16fe4), (0x17000, 0x187f7), (0x18800, 0x18cd5),
   (0x18cff, 0x18d08), (0x1b170, 0x1b2fb), (0x2f800, 0x2fa1d)]

def compatMathContinueRuns : Runs :=
  [(0xb2, 0xb3), (0xb9, 0xb9), (0x2070, 0x2070), (0x2074, 0x207e), (0x2080, 0x208e),
   (0x2202, 0x2202), (0x2207, 0x2207), (0x221e, 0x221e), (0x1d6c1, 0x1d6c1), (0x1d6db, 0x1d6db),
   (0x1d6fb, 0x1d6fb), (0x1d715, 0x1d715), (0x1d735, 0x1d735), (0x1d74f, 0x1d74f),
   (0x1d76f, 0x1d76f), (0x1d789, 0x1d789), (0x1d7a9, 0x1d7a9), (0x1d7c3, 0x1d7c3)]

def compatMathStartRuns : Runs :=
  [(0x2202, 0x2202), (0x2207, 0x2207), (0x221e, 0x221e), (0x1d6c1, 0x1d6c1), (0x1d6db, 0x1d6db),
   (0x1d6fb, 0x1d6fb), (0x1d715, 0x1d715), (0x1d735, 0x1d735), (0x1d74f, 0x1d74f),
   (0x1d76f, 0x1d76f), (0x1d789, 0x1d789), (0x1d7a9, 0x1d7a9), (0x1d7c3, 0x1d7c3)]

/-- What is no letter and is part of a word like one. -/
def wordLetterRuns : Runs :=
  [(0x2c2, 0x2c5), (0x2d2, 0x2d7), (0x2de, 0x2df), (0x2e5, 0x2eb), (0x2ed, 0x2ed), (0x2ef, 0x2ff),
   (0x55a, 0x55c), (0x55e, 0x55e), (0x58a, 0x58a), (0x5f3, 0x5f3), (0x70f, 0x70f),
   (0xa708, 0xa716), (0xa720, 0xa721), (0xa789, 0xa78a), (0xab5b, 0xab5b)]

/-- The letters of the scripts that set no blanks between words. -/
def unspacedRuns : Runs :=
  [(0xe01, 0xe30), (0xe32, 0xe33), (0xe40, 0xe46), (0xe81, 0xe82), (0xe84, 0xe84), (0xe86, 0xe8a),
   (0xe8c, 0xea3), (0xea5, 0xea5), (0xea7, 0xeb0), (0xeb2, 0xeb3), (0xebd, 0xebd), (0xec0, 0xec4),
   (0xec6, 0xec6), (0xedc, 0xedf), (0x1000, 0x102a), (0x103f, 0x103f), (0x1050, 0x1055),
   (0x105a, 0x105d), (0x1061, 0x1061), (0x1065, 0x1066), (0x106e, 0x1070), (0x1075, 0x1081),
   (0x108e, 0x108e), (0x1780, 0x17b3), (0x17d7, 0x17d7), (0x17dc, 0x17dc), (0x1950, 0x196d),
   (0x1970, 0x1974), (0x1980, 0x19ab), (0x19b0, 0x19c9), (0x1a20, 0x1a54), (0x1aa7, 0x1aa7),
   (0x3041, 0x3096), (0x309d, 0x309f), (0xa9e0, 0xa9e4), (0xa9e6, 0xa9ef), (0xa9fa, 0xa9fe),
   (0xaa60, 0xaa76), (0xaa7a, 0xaa7a), (0xaa7e, 0xaaaf), (0xaab1, 0xaab1), (0xaab5, 0xaab6),
   (0xaab9, 0xaabd), (0xaac0, 0xaac0), (0xaac2, 0xaac2), (0xaadb, 0xaadd), (0x11700, 0x1171a),
   (0x11740, 0x11746), (0x1b001, 0x1b11f), (0x1b132, 0x1b132), (0x1b150, 0x1b152)]

def hebrewLetterRuns : Runs :=
  [(0x5d0, 0x5ea), (0x5ef, 0x5f2), (0xfb1d, 0xfb1d), (0xfb1f, 0xfb28), (0xfb2a, 0xfb36),
   (0xfb38, 0xfb3c), (0xfb3e, 0xfb3e), (0xfb40, 0xfb41), (0xfb43, 0xfb44), (0xfb46, 0xfb4f)]

def katakanaRuns : Runs :=
  [(0x3031, 0x3035), (0x309b, 0x309c), (0x30a0, 0x30fa), (0x30fc, 0x30ff), (0x31f0, 0x31ff),
   (0x32d0, 0x32fe), (0x3300, 0x3357), (0xff66, 0xff9d), (0x1aff0, 0x1aff3), (0x1aff5, 0x1affb),
   (0x1affd, 0x1affe), (0x1b000, 0x1b000), (0x1b120, 0x1b122), (0x1b155, 0x1b155),
   (0x1b164, 0x1b167)]

/-- What can begin a name, but not in each of its equivalent forms. -/
def unstableStartRuns : Runs :=
  [(0x37a, 0x37a), (0xe33, 0xe33), (0xeb3, 0xeb3), (0x309b, 0x309c), (0xfc5e, 0xfc63),
   (0xfdfa, 0xfdfb), (0xfe70, 0xfe70), (0xfe72, 0xfe72), (0xfe74, 0xfe74), (0xfe76, 0xfe76),
   (0xfe78, 0xfe78), (0xfe7a, 0xfe7a), (0xfe7c, 0xfe7c), (0xfe7e, 0xfe7e), (0xff9e, 0xff9f)]

/-- What a name can hold, but not in each of its equivalent forms. -/
def unstableContinueRuns : Runs :=
  [(0x37a, 0x37a), (0x309b, 0x309c), (0xfc5e, 0xfc63), (0xfdfa, 0xfdfb), (0xfe70, 0xfe70),
   (0xfe72, 0xfe72), (0xfe74, 0xfe74), (0xfe76, 0xfe76), (0xfe78, 0xfe78), (0xfe7a, 0xfe7a),
   (0xfe7c, 0xfe7c), (0xfe7e, 0xfe7e)]

end Unicode
end CountedConfig
