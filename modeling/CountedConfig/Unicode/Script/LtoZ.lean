/-
The scripts of Unicode 16 by their names, from L to Z.
-/
import CountedConfig.Unicode.Script.Basic

namespace CountedConfig
namespace Unicode

open Text (Runs)

def scriptsLtoZ : List Script :=
  [⟨"Lao", ["laoo"],
    [(0xe81, 0xe82), (0xe84, 0xe84), (0xe86, 0xe8a), (0xe8c, 0xea3), (0xea5, 0xea5),
     (0xea7, 0xebd), (0xec0, 0xec4), (0xec6, 0xec6), (0xec8, 0xece), (0xed0, 0xed9),
     (0xedc, 0xedf)],
    []⟩,
   ⟨"Latin", ["latn"],
    [(0x41, 0x5a), (0x61, 0x7a), (0xaa, 0xaa), (0xba, 0xba), (0xc0, 0xd6), (0xd8, 0xf6),
     (0xf8, 0x2b8), (0x2e0, 0x2e4), (0x1d00, 0x1d25), (0x1d2c, 0x1d5c), (0x1d62, 0x1d65),
     (0x1d6b, 0x1d77), (0x1d79, 0x1dbe), (0x1e00, 0x1eff), (0x2071, 0x2071), (0x207f, 0x207f),
     (0x2090, 0x209c), (0x212a, 0x212b), (0x2132, 0x2132), (0x214e, 0x214e), (0x2160, 0x2188),
     (0x2c60, 0x2c7f), (0xa722, 0xa787), (0xa78b, 0xa7cd), (0xa7d0, 0xa7d1), (0xa7d3, 0xa7d3),
     (0xa7d5, 0xa7dc), (0xa7f2, 0xa7ff), (0xab30, 0xab5a), (0xab5c, 0xab64), (0xab66, 0xab69),
     (0xfb00, 0xfb06), (0xff21, 0xff3a), (0xff41, 0xff5a), (0x10780, 0x10785), (0x10787, 0x107b0),
     (0x107b2, 0x107ba), (0x1df00, 0x1df1e), (0x1df25, 0x1df2a)],
    [(0xb7, 0xb7), (0x2bc, 0x2bc), (0x2c7, 0x2c7), (0x2c9, 0x2cb), (0x2cd, 0x2cd), (0x2d7, 0x2d7),
     (0x2d9, 0x2d9), (0x300, 0x30e), (0x310, 0x311), (0x313, 0x313), (0x320, 0x320),
     (0x323, 0x325), (0x32d, 0x32e), (0x330, 0x331), (0x358, 0x358), (0x35e, 0x35e),
     (0x363, 0x36f), (0x485, 0x486), (0x951, 0x952), (0x10fb, 0x10fb), (0x1df8, 0x1df8),
     (0x202f, 0x202f), (0x20f0, 0x20f0), (0x2e17, 0x2e17), (0xa700, 0xa707), (0xa92e, 0xa92e)]⟩,
   ⟨"Lepcha", ["lepc"],
    [(0x1c00, 0x1c37), (0x1c3b, 0x1c49), (0x1c4d, 0x1c4f)],
    []⟩,
   ⟨"Limbu", ["limb"],
    [(0x1900, 0x191e), (0x1920, 0x192b), (0x1930, 0x193b), (0x1940, 0x1940), (0x1944, 0x194f)],
    [(0x965, 0x965)]⟩,
   ⟨"Linear_A", ["lina"],
    [(0x10600, 0x10736), (0x10740, 0x10755), (0x10760, 0x10767)],
    [(0x10107, 0x10133)]⟩,
   ⟨"Linear_B", ["linb"],
    [(0x10000, 0x1000b), (0x1000d, 0x10026), (0x10028, 0x1003a), (0x1003c, 0x1003d),
     (0x1003f, 0x1004d), (0x10050, 0x1005d), (0x10080, 0x100fa)],
    [(0x10100, 0x10102), (0x10107, 0x10133), (0x10137, 0x1013f)]⟩,
   ⟨"Lisu", [],
    [(0xa4d0, 0xa4ff), (0x11fb0, 0x11fb0)],
    [(0x2bc, 0x2bc), (0x2cd, 0x2cd), (0x300a, 0x300b)]⟩,
   ⟨"Lycian", ["lyci"],
    [(0x10280, 0x1029c)],
    [(0x205a, 0x205a)]⟩,
   ⟨"Lydian", ["lydi"],
    [(0x10920, 0x10939), (0x1093f, 0x1093f)],
    [(0xb7, 0xb7), (0x2e31, 0x2e31)]⟩,
   ⟨"Mahajani", ["mahj"],
    [(0x11150, 0x11176)],
    [(0xb7, 0xb7), (0x964, 0x96f), (0xa830, 0xa839)]⟩,
   ⟨"Makasar", ["maka"],
    [(0x11ee0, 0x11ef8)],
    []⟩,
   ⟨"Malayalam", ["mlym"],
    [(0xd00, 0xd0c), (0xd0e, 0xd10), (0xd12, 0xd44), (0xd46, 0xd48), (0xd4a, 0xd4f),
     (0xd54, 0xd63), (0xd66, 0xd7f)],
    [(0x951, 0x952), (0x964, 0x965), (0x1cda, 0x1cda), (0x1cf2, 0x1cf2), (0xa830, 0xa832)]⟩,
   ⟨"Mandaic", ["mand"],
    [(0x840, 0x85b), (0x85e, 0x85e)],
    [(0x640, 0x640)]⟩,
   ⟨"Manichaean", ["mani"],
    [(0x10ac0, 0x10ae6), (0x10aeb, 0x10af6)],
    [(0x640, 0x640)]⟩,
   ⟨"Marchen", ["marc"],
    [(0x11c70, 0x11c8f), (0x11c92, 0x11ca7), (0x11ca9, 0x11cb6)],
    []⟩,
   ⟨"Masaram_Gondi", ["gonm"],
    [(0x11d00, 0x11d06), (0x11d08, 0x11d09), (0x11d0b, 0x11d36), (0x11d3a, 0x11d3a),
     (0x11d3c, 0x11d3d), (0x11d3f, 0x11d47), (0x11d50, 0x11d59)],
    [(0x964, 0x965)]⟩,
   ⟨"Medefaidrin", ["medf"],
    [(0x16e40, 0x16e9a)],
    []⟩,
   ⟨"Meetei_Mayek", ["mtei"],
    [(0xaae0, 0xaaf6), (0xabc0, 0xabed), (0xabf0, 0xabf9)],
    []⟩,
   ⟨"Mende_Kikakui", ["mend"],
    [(0x1e800, 0x1e8c4), (0x1e8c7, 0x1e8d6)],
    []⟩,
   ⟨"Meroitic_Cursive", ["merc"],
    [(0x109a0, 0x109b7), (0x109bc, 0x109cf), (0x109d2, 0x109ff)],
    []⟩,
   ⟨"Meroitic_Hieroglyphs", ["mero"],
    [(0x10980, 0x1099f)],
    [(0x205d, 0x205d)]⟩,
   ⟨"Miao", ["plrd"],
    [(0x16f00, 0x16f4a), (0x16f4f, 0x16f87), (0x16f8f, 0x16f9f)],
    []⟩,
   ⟨"Modi", [],
    [(0x11600, 0x11644), (0x11650, 0x11659)],
    [(0xa830, 0xa839)]⟩,
   ⟨"Mongolian", ["mong"],
    [(0x1800, 0x1801), (0x1804, 0x1804), (0x1806, 0x1819), (0x1820, 0x1878), (0x1880, 0x18aa),
     (0x11660, 0x1166c)],
    [(0x1802, 0x1803), (0x1805, 0x1805), (0x202f, 0x202f), (0x3001, 0x3002), (0x3008, 0x300b)]⟩,
   ⟨"Mro", ["mroo"],
    [(0x16a40, 0x16a5e), (0x16a60, 0x16a69), (0x16a6e, 0x16a6f)],
    []⟩,
   ⟨"Multani", ["mult"],
    [(0x11280, 0x11286), (0x11288, 0x11288), (0x1128a, 0x1128d), (0x1128f, 0x1129d),
     (0x1129f, 0x112a9)],
    [(0xa66, 0xa6f)]⟩,
   ⟨"Myanmar", ["mymr"],
    [(0x1000, 0x109f), (0xa9e0, 0xa9fe), (0xaa60, 0xaa7f), (0x116d0, 0x116e3)],
    [(0xa92e, 0xa92e)]⟩,
   ⟨"Nabataean", ["nbat"],
    [(0x10880, 0x1089e), (0x108a7, 0x108af)],
    []⟩,
   ⟨"Nag_Mundari", ["nagm"],
    [(0x1e4d0, 0x1e4f9)],
    []⟩,
   ⟨"Nandinagari", ["nand"],
    [(0x119a0, 0x119a7), (0x119aa, 0x119d7), (0x119da, 0x119e4)],
    [(0x964, 0x965), (0xce6, 0xcef), (0x1ce9, 0x1ce9), (0x1cf2, 0x1cf2), (0x1cfa, 0x1cfa),
     (0xa830, 0xa835)]⟩,
   ⟨"New_Tai_Lue", ["talu"],
    [(0x1980, 0x19ab), (0x19b0, 0x19c9), (0x19d0, 0x19da), (0x19de, 0x19df)],
    []⟩,
   ⟨"Newa", [],
    [(0x11400, 0x1145b), (0x1145d, 0x11461)],
    []⟩,
   ⟨"Nko", ["nkoo"],
    [(0x7c0, 0x7fa), (0x7fd, 0x7ff)],
    [(0x60c, 0x60c), (0x61b, 0x61b), (0x61f, 0x61f), (0xfd3e, 0xfd3f)]⟩,
   ⟨"Nushu", ["nshu"],
    [(0x16fe1, 0x16fe1), (0x1b170, 0x1b2fb)],
    []⟩,
   ⟨"Nyiakeng_Puachue_Hmong", ["hmnp"],
    [(0x1e100, 0x1e12c), (0x1e130, 0x1e13d), (0x1e140, 0x1e149), (0x1e14e, 0x1e14f)],
    []⟩,
   ⟨"Ogham", ["ogam"],
    [(0x1680, 0x169c)],
    []⟩,
   ⟨"Ol_Chiki", ["olck"],
    [(0x1c50, 0x1c7f)],
    []⟩,
   ⟨"Ol_Onal", ["onao"],
    [(0x1e5d0, 0x1e5fa), (0x1e5ff, 0x1e5ff)],
    [(0x964, 0x965)]⟩,
   ⟨"Old_Hungarian", ["hung"],
    [(0x10c80, 0x10cb2), (0x10cc0, 0x10cf2), (0x10cfa, 0x10cff)],
    [(0x205a, 0x205a), (0x205d, 0x205d), (0x2e31, 0x2e31), (0x2e41, 0x2e41)]⟩,
   ⟨"Old_Italic", ["ital"],
    [(0x10300, 0x10323), (0x1032d, 0x1032f)],
    []⟩,
   ⟨"Old_North_Arabian", ["narb"],
    [(0x10a80, 0x10a9f)],
    []⟩,
   ⟨"Old_Permic", ["perm"],
    [(0x10350, 0x1037a)],
    [(0xb7, 0xb7), (0x300, 0x300), (0x306, 0x308), (0x313, 0x313), (0x483, 0x483)]⟩,
   ⟨"Old_Persian", ["xpeo"],
    [(0x103a0, 0x103c3), (0x103c8, 0x103d5)],
    []⟩,
   ⟨"Old_Sogdian", ["sogo"],
    [(0x10f00, 0x10f27)],
    []⟩,
   ⟨"Old_South_Arabian", ["sarb"],
    [(0x10a60, 0x10a7f)],
    []⟩,
   ⟨"Old_Turkic", ["orkh"],
    [(0x10c00, 0x10c48)],
    [(0x205a, 0x205a), (0x2e30, 0x2e30)]⟩,
   ⟨"Old_Uyghur", ["ougr"],
    [(0x10f70, 0x10f89)],
    [(0x640, 0x640), (0x10af2, 0x10af2)]⟩,
   ⟨"Oriya", ["orya"],
    [(0xb01, 0xb03), (0xb05, 0xb0c), (0xb0f, 0xb10), (0xb13, 0xb28), (0xb2a, 0xb30),
     (0xb32, 0xb33), (0xb35, 0xb39), (0xb3c, 0xb44), (0xb47, 0xb48), (0xb4b, 0xb4d),
     (0xb55, 0xb57), (0xb5c, 0xb5d), (0xb5f, 0xb63), (0xb66, 0xb77)],
    [(0x951, 0x952), (0x964, 0x965), (0x1cda, 0x1cda), (0x1cf2, 0x1cf2)]⟩,
   ⟨"Osage", ["osge"],
    [(0x104b0, 0x104d3), (0x104d8, 0x104fb)],
    [(0x301, 0x301), (0x304, 0x304), (0x30b, 0x30b), (0x358, 0x358)]⟩,
   ⟨"Osmanya", ["osma"],
    [(0x10480, 0x1049d), (0x104a0, 0x104a9)],
    []⟩,
   ⟨"Pahawh_Hmong", ["hmng"],
    [(0x16b00, 0x16b45), (0x16b50, 0x16b59), (0x16b5b, 0x16b61), (0x16b63, 0x16b77),
     (0x16b7d, 0x16b8f)],
    []⟩,
   ⟨"Palmyrene", ["palm"],
    [(0x10860, 0x1087f)],
    []⟩,
   ⟨"Pau_Cin_Hau", ["pauc"],
    [(0x11ac0, 0x11af8)],
    []⟩,
   ⟨"Phags_Pa", ["phag"],
    [(0xa840, 0xa877)],
    [(0x1802, 0x1803), (0x1805, 0x1805), (0x202f, 0x202f), (0x3002, 0x3002)]⟩,
   ⟨"Phoenician", ["phnx"],
    [(0x10900, 0x1091b), (0x1091f, 0x1091f)],
    []⟩,
   ⟨"Psalter_Pahlavi", ["phlp"],
    [(0x10b80, 0x10b91), (0x10b99, 0x10b9c), (0x10ba9, 0x10baf)],
    [(0x640, 0x640)]⟩,
   ⟨"Rejang", ["rjng"],
    [(0xa930, 0xa953), (0xa95f, 0xa95f)],
    []⟩,
   ⟨"Runic", ["runr"],
    [(0x16a0, 0x16ea), (0x16ee, 0x16f8)],
    [(0x16eb, 0x16ed)]⟩,
   ⟨"Samaritan", ["samr"],
    [(0x800, 0x82d), (0x830, 0x83e)],
    [(0x2e31, 0x2e31)]⟩,
   ⟨"Saurashtra", ["saur"],
    [(0xa880, 0xa8c5), (0xa8ce, 0xa8d9)],
    []⟩,
   ⟨"Sharada", ["shrd"],
    [(0x11180, 0x111df)],
    [(0x951, 0x951), (0x1cd7, 0x1cd7), (0x1cd9, 0x1cd9), (0x1cdc, 0x1cdd), (0x1ce0, 0x1ce0),
     (0xa830, 0xa835), (0xa838, 0xa838)]⟩,
   ⟨"Shavian", ["shaw"],
    [(0x10450, 0x1047f)],
    [(0xb7, 0xb7)]⟩,
   ⟨"Siddham", ["sidd"],
    [(0x11580, 0x115b5), (0x115b8, 0x115dd)],
    []⟩,
   ⟨"SignWriting", ["sgnw"],
    [(0x1d800, 0x1da8b), (0x1da9b, 0x1da9f), (0x1daa1, 0x1daaf)],
    []⟩,
   ⟨"Sinhala", ["sinh"],
    [(0xd81, 0xd83), (0xd85, 0xd96), (0xd9a, 0xdb1), (0xdb3, 0xdbb), (0xdbd, 0xdbd),
     (0xdc0, 0xdc6), (0xdca, 0xdca), (0xdcf, 0xdd4), (0xdd6, 0xdd6), (0xdd8, 0xddf),
     (0xde6, 0xdef), (0xdf2, 0xdf4), (0x111e1, 0x111f4)],
    [(0x964, 0x965), (0x1cf2, 0x1cf2)]⟩,
   ⟨"Sogdian", ["sogd"],
    [(0x10f30, 0x10f59)],
    [(0x640, 0x640)]⟩,
   ⟨"Sora_Sompeng", ["sora"],
    [(0x110d0, 0x110e8), (0x110f0, 0x110f9)],
    []⟩,
   ⟨"Soyombo", ["soyo"],
    [(0x11a50, 0x11aa2)],
    []⟩,
   ⟨"Sundanese", ["sund"],
    [(0x1b80, 0x1bbf), (0x1cc0, 0x1cc7)],
    []⟩,
   ⟨"Sunuwar", ["sunu"],
    [(0x11bc0, 0x11be1), (0x11bf0, 0x11bf9)],
    [(0x300, 0x301), (0x303, 0x303), (0x30d, 0x30d), (0x310, 0x310), (0x32d, 0x32d),
     (0x331, 0x331)]⟩,
   ⟨"Syloti_Nagri", ["sylo"],
    [(0xa800, 0xa82c)],
    [(0x964, 0x965), (0x9e6, 0x9ef)]⟩,
   ⟨"Syriac", ["syrc"],
    [(0x700, 0x70d), (0x70f, 0x74a), (0x74d, 0x74f), (0x860, 0x86a)],
    [(0x303, 0x304), (0x307, 0x308), (0x30a, 0x30a), (0x320, 0x320), (0x323, 0x325),
     (0x32d, 0x32e), (0x330, 0x330), (0x60c, 0x60c), (0x61b, 0x61c), (0x61f, 0x61f),
     (0x640, 0x640), (0x64b, 0x655), (0x670, 0x670), (0x1df8, 0x1df8), (0x1dfa, 0x1dfa)]⟩,
   ⟨"Tagalog", ["tglg"],
    [(0x1700, 0x1715), (0x171f, 0x171f)],
    [(0x1735, 0x1736)]⟩,
   ⟨"Tagbanwa", ["tagb"],
    [(0x1760, 0x176c), (0x176e, 0x1770), (0x1772, 0x1773)],
    [(0x1735, 0x1736)]⟩,
   ⟨"Tai_Le", ["tale"],
    [(0x1950, 0x196d), (0x1970, 0x1974)],
    [(0x300, 0x301), (0x307, 0x308), (0x30c, 0x30c), (0x1040, 0x1049)]⟩,
   ⟨"Tai_Tham", ["lana"],
    [(0x1a20, 0x1a5e), (0x1a60, 0x1a7c), (0x1a7f, 0x1a89), (0x1a90, 0x1a99), (0x1aa0, 0x1aad)],
    []⟩,
   ⟨"Tai_Viet", ["tavt"],
    [(0xaa80, 0xaac2), (0xaadb, 0xaadf)],
    []⟩,
   ⟨"Takri", ["takr"],
    [(0x11680, 0x116b9), (0x116c0, 0x116c9)],
    [(0x964, 0x965), (0xa830, 0xa839)]⟩,
   ⟨"Tamil", ["taml"],
    [(0xb82, 0xb83), (0xb85, 0xb8a), (0xb8e, 0xb90), (0xb92, 0xb95), (0xb99, 0xb9a),
     (0xb9c, 0xb9c), (0xb9e, 0xb9f), (0xba3, 0xba4), (0xba8, 0xbaa), (0xbae, 0xbb9),
     (0xbbe, 0xbc2), (0xbc6, 0xbc8), (0xbca, 0xbcd), (0xbd0, 0xbd0), (0xbd7, 0xbd7),
     (0xbe6, 0xbfa), (0x11fc0, 0x11ff1), (0x11fff, 0x11fff)],
    [(0x951, 0x952), (0x964, 0x965), (0x1cda, 0x1cda), (0xa8f3, 0xa8f3), (0x11301, 0x11301),
     (0x11303, 0x11303), (0x1133b, 0x1133c)]⟩,
   ⟨"Tangsa", ["tnsa"],
    [(0x16a70, 0x16abe), (0x16ac0, 0x16ac9)],
    []⟩,
   ⟨"Tangut", ["tang"],
    [(0x16fe0, 0x16fe0), (0x17000, 0x187f7), (0x18800, 0x18aff), (0x18d00, 0x18d08)],
    [(0x2ff0, 0x2fff), (0x31ef, 0x31ef)]⟩,
   ⟨"Telugu", ["telu"],
    [(0xc00, 0xc0c), (0xc0e, 0xc10), (0xc12, 0xc28), (0xc2a, 0xc39), (0xc3c, 0xc44),
     (0xc46, 0xc48), (0xc4a, 0xc4d), (0xc55, 0xc56), (0xc58, 0xc5a), (0xc5d, 0xc5d),
     (0xc60, 0xc63), (0xc66, 0xc6f), (0xc77, 0xc7f)],
    [(0x951, 0x952), (0x964, 0x965), (0x1cda, 0x1cda), (0x1cf2, 0x1cf2)]⟩,
   ⟨"Thaana", ["thaa"],
    [(0x780, 0x7b1)],
    [(0x60c, 0x60c), (0x61b, 0x61c), (0x61f, 0x61f), (0x660, 0x669), (0xfdf2, 0xfdf2),
     (0xfdfd, 0xfdfd)]⟩,
   ⟨"Thai", [],
    [(0xe01, 0xe3a), (0xe40, 0xe5b)],
    [(0x2bc, 0x2bc), (0x2d7, 0x2d7), (0x303, 0x303), (0x331, 0x331)]⟩,
   ⟨"Tibetan", ["tibt"],
    [(0xf00, 0xf47), (0xf49, 0xf6c), (0xf71, 0xf97), (0xf99, 0xfbc), (0xfbe, 0xfcc),
     (0xfce, 0xfd4), (0xfd9, 0xfda)],
    [(0x3008, 0x300b)]⟩,
   ⟨"Tifinagh", ["tfng"],
    [(0x2d30, 0x2d67), (0x2d6f, 0x2d70), (0x2d7f, 0x2d7f)],
    [(0x302, 0x302), (0x304, 0x304), (0x307, 0x307), (0x309, 0x309)]⟩,
   ⟨"Tirhuta", ["tirh"],
    [(0x11480, 0x114c7), (0x114d0, 0x114d9)],
    [(0x951, 0x952), (0x964, 0x965), (0x1cf2, 0x1cf2), (0xa830, 0xa839)]⟩,
   ⟨"Todhri", ["todr"],
    [(0x105c0, 0x105f3)],
    [(0x301, 0x301), (0x304, 0x304), (0x307, 0x307), (0x311, 0x311), (0x313, 0x313),
     (0x35e, 0x35e)]⟩,
   ⟨"Toto", [],
    [(0x1e290, 0x1e2ae)],
    [(0x2bc, 0x2bc)]⟩,
   ⟨"Tulu_Tigalari", ["tutg"],
    [(0x11380, 0x11389), (0x1138b, 0x1138b), (0x1138e, 0x1138e), (0x11390, 0x113b5),
     (0x113b7, 0x113c0), (0x113c2, 0x113c2), (0x113c5, 0x113c5), (0x113c7, 0x113ca),
     (0x113cc, 0x113d5), (0x113d7, 0x113d8), (0x113e1, 0x113e2)],
    [(0xce6, 0xcef), (0x1cf2, 0x1cf2), (0x1cf4, 0x1cf4), (0xa830, 0xa835), (0xa8f1, 0xa8f1)]⟩,
   ⟨"Ugaritic", ["ugar"],
    [(0x10380, 0x1039d), (0x1039f, 0x1039f)],
    []⟩,
   ⟨"Vai", ["vaii"],
    [(0xa500, 0xa62b)],
    []⟩,
   ⟨"Vithkuqi", ["vith"],
    [(0x10570, 0x1057a), (0x1057c, 0x1058a), (0x1058c, 0x10592), (0x10594, 0x10595),
     (0x10597, 0x105a1), (0x105a3, 0x105b1), (0x105b3, 0x105b9), (0x105bb, 0x105bc)],
    []⟩,
   ⟨"Wancho", ["wcho"],
    [(0x1e2c0, 0x1e2f9), (0x1e2ff, 0x1e2ff)],
    []⟩,
   ⟨"Warang_Citi", ["wara"],
    [(0x118a0, 0x118f2), (0x118ff, 0x118ff)],
    []⟩,
   ⟨"Yezidi", ["yezi"],
    [(0x10e80, 0x10ea9), (0x10eab, 0x10ead), (0x10eb0, 0x10eb1)],
    [(0x60c, 0x60c), (0x61b, 0x61b), (0x61f, 0x61f), (0x660, 0x669)]⟩,
   ⟨"Yi", ["yiii"],
    [(0xa000, 0xa48c), (0xa490, 0xa4c6)],
    [(0x3001, 0x3002), (0x3008, 0x3011), (0x3014, 0x301b), (0x30fb, 0x30fb), (0xff61, 0xff65)]⟩,
   ⟨"Zanabazar_Square", ["zanb"],
    [(0x11a00, 0x11a47)],
    []⟩]

end Unicode
end CountedConfig
