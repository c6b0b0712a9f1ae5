/-! # Characters mapped to one character, first half
-/

namespace CuratedList.Url
set_option autoImplicit false
set_option maxRecDepth 20000

/-- Characters outside runs, and the character that each is mapped to. -/
def mappedLow : List (Nat × Nat) :=
  [(0xA0, 0x20), (0xAA, 0x61), (0xB2, 0x32), (0xB3, 0x33), (0xB5, 0x3BC), (0xB9, 0x31),
    (0xBA, 0x6F), (0x134, 0x135), (0x136, 0x137), (0x178, 0xFF), (0x17F, 0x73), (0x181, 0x253),
    (0x182, 0x183), (0x184, 0x185), (0x186, 0x254), (0x187, 0x188), (0x189, 0x256), (0x18A, 0x257),
    (0x18B, 0x18C), (0x18E, 0x1DD), (0x18F, 0x259), (0x190, 0x25B), (0x191, 0x192), (0x193, 0x260),
    (0x194, 0x263), (0x196, 0x269), (0x197, 0x268), (0x198, 0x199), (0x19C, 0x26F), (0x19D, 0x272),
    (0x19F, 0x275), (0x1A6, 0x280), (0x1A7, 0x1A8), (0x1A9, 0x283), (0x1AC, 0x1AD), (0x1AE, 0x288),
    (0x1AF, 0x1B0), (0x1B1, 0x28A), (0x1B2, 0x28B), (0x1B3, 0x1B4), (0x1B5, 0x1B6), (0x1B7, 0x292),
    (0x1B8, 0x1B9), (0x1BC, 0x1BD), (0x1F4, 0x1F5), (0x1F6, 0x195), (0x1F7, 0x1BF), (0x220, 0x19E),
    (0x23A, 0x2C65), (0x23B, 0x23C), (0x23D, 0x19A), (0x23E, 0x2C66), (0x241, 0x242),
    (0x243, 0x180), (0x244, 0x289), (0x245, 0x28C), (0x2B0, 0x68), (0x2B1, 0x266), (0x2B2, 0x6A),
    (0x2B3, 0x72), (0x2B4, 0x279), (0x2B5, 0x27B), (0x2B6, 0x281), (0x2B7, 0x77), (0x2B8, 0x79),
    (0x2E0, 0x263), (0x2E1, 0x6C), (0x2E2, 0x73), (0x2E3, 0x78), (0x2E4, 0x295), (0x340, 0x300),
    (0x341, 0x301), (0x343, 0x313), (0x345, 0x3B9), (0x370, 0x371), (0x372, 0x373), (0x374, 0x2B9),
    (0x376, 0x377), (0x37E, 0x3B), (0x37F, 0x3F3), (0x386, 0x3AC), (0x387, 0xB7), (0x38C, 0x3CC),
    (0x38E, 0x3CD), (0x38F, 0x3CE), (0x3CF, 0x3D7), (0x3D0, 0x3B2), (0x3D1, 0x3B8), (0x3D2, 0x3C5),
    (0x3D3, 0x3CD), (0x3D4, 0x3CB), (0x3D5, 0x3C6), (0x3D6, 0x3C0), (0x3F0, 0x3BA), (0x3F1, 0x3C1),
    (0x3F2, 0x3C3), (0x3F4, 0x3B8), (0x3F5, 0x3B5), (0x3F7, 0x3F8), (0x3F9, 0x3C3), (0x3FA, 0x3FB),
    (0x4C0, 0x4CF), (0xF0C, 0xF0B), (0x10C7, 0x2D27), (0x10CD, 0x2D2D), (0x10FC, 0x10DC),
    (0x1C80, 0x432), (0x1C81, 0x434), (0x1C82, 0x43E), (0x1C83, 0x441), (0x1C84, 0x442),
    (0x1C85, 0x442), (0x1C86, 0x44A), (0x1C87, 0x463), (0x1C88, 0xA64B), (0x1C89, 0x1C8A),
    (0x1D2C, 0x61), (0x1D2D, 0xE6), (0x1D2E, 0x62), (0x1D30, 0x64), (0x1D31, 0x65), (0x1D32, 0x1DD),
    (0x1D3C, 0x6F), (0x1D3D, 0x223), (0x1D3E, 0x70), (0x1D3F, 0x72), (0x1D40, 0x74), (0x1D41, 0x75),
    (0x1D42, 0x77), (0x1D43, 0x61), (0x1D44, 0x250), (0x1D45, 0x251), (0x1D46, 0x1D02),
    (0x1D47, 0x62), (0x1D48, 0x64), (0x1D49, 0x65), (0x1D4A, 0x259), (0x1D4B, 0x25B),
    (0x1D4C, 0x25C), (0x1D4D, 0x67), (0x1D4F, 0x6B), (0x1D50, 0x6D), (0x1D51, 0x14B),
    (0x1D52, 0x6F), (0x1D53, 0x254), (0x1D54, 0x1D16), (0x1D55, 0x1D17), (0x1D56, 0x70),
    (0x1D57, 0x74), (0x1D58, 0x75), (0x1D59, 0x1D1D), (0x1D5A, 0x26F), (0x1D5B, 0x76),
    (0x1D5C, 0x1D25), (0x1D60, 0x3C6), (0x1D61, 0x3C7), (0x1D62, 0x69), (0x1D63, 0x72),
    (0x1D64, 0x75), (0x1D65, 0x76), (0x1D66, 0x3B2), (0x1D67, 0x3B3), (0x1D68, 0x3C1),
    (0x1D69, 0x3C6), (0x1D6A, 0x3C7), (0x1D78, 0x43D), (0x1D9B, 0x252), (0x1D9C, 0x63),
    (0x1D9D, 0x255), (0x1D9E, 0xF0), (0x1D9F, 0x25C), (0x1DA0, 0x66), (0x1DA1, 0x25F),
    (0x1DA2, 0x261), (0x1DA3, 0x265), (0x1DA7, 0x1D7B), (0x1DA8, 0x29D), (0x1DA9, 0x26D),
    (0x1DAA, 0x1D85), (0x1DAB, 0x29F), (0x1DAC, 0x271), (0x1DAD, 0x270), (0x1DB2, 0x278),
    (0x1DB3, 0x282), (0x1DB4, 0x283), (0x1DB5, 0x1AB), (0x1DB6, 0x289), (0x1DB7, 0x28A),
    (0x1DB8, 0x1D1C), (0x1DB9, 0x28B), (0x1DBA, 0x28C), (0x1DBB, 0x7A), (0x1DBF, 0x3B8),
    (0x1E9B, 0x1E61), (0x1E9E, 0xDF), (0x1F71, 0x3AC), (0x1F73, 0x3AD), (0x1F75, 0x3AE),
    (0x1F77, 0x3AF), (0x1F79, 0x3CC), (0x1F7B, 0x3CD), (0x1F7D, 0x3CE), (0x1FB8, 0x1FB0),
    (0x1FB9, 0x1FB1), (0x1FBA, 0x1F70), (0x1FBB, 0x3AC), (0x1FBE, 0x3B9), (0x1FC8, 0x1F72),
    (0x1FC9, 0x3AD), (0x1FCA, 0x1F74), (0x1FCB, 0x3AE), (0x1FD3, 0x390), (0x1FD8, 0x1FD0),
    (0x1FD9, 0x1FD1), (0x1FDA, 0x1F76), (0x1FDB, 0x3AF), (0x1FE3, 0x3B0), (0x1FE8, 0x1FE0),
    (0x1FE9, 0x1FE1), (0x1FEA, 0x1F7A), (0x1FEB, 0x3CD), (0x1FEC, 0x1FE5), (0x1FEF, 0x60),
    (0x1FF8, 0x1F78), (0x1FF9, 0x3CC), (0x1FFA, 0x1F7C), (0x1FFB, 0x3CE), (0x2000, 0x20),
    (0x2001, 0x20), (0x2002, 0x20), (0x2003, 0x20), (0x2004, 0x20), (0x2005, 0x20), (0x2006, 0x20),
    (0x2007, 0x20), (0x2008, 0x20), (0x2009, 0x20), (0x200A, 0x20), (0x2011, 0x2010),
    (0x202F, 0x20), (0x205F, 0x20), (0x2070, 0x30), (0x2071, 0x69), (0x207A, 0x2B),
    (0x207B, 0x2212), (0x207C, 0x3D), (0x207D, 0x28), (0x207E, 0x29), (0x207F, 0x6E),
    (0x208A, 0x2B), (0x208B, 0x2212), (0x208C, 0x3D), (0x208D, 0x28), (0x208E, 0x29),
    (0x2090, 0x61), (0x2091, 0x65), (0x2092, 0x6F), (0x2093, 0x78), (0x2094, 0x259), (0x2095, 0x68),
    (0x209A, 0x70), (0x209B, 0x73), (0x209C, 0x74), (0x2102, 0x63), (0x2107, 0x25B), (0x210A, 0x67),
    (0x210B, 0x68), (0x210C, 0x68), (0x210D, 0x68), (0x210E, 0x68), (0x210F, 0x127), (0x2110, 0x69),
    (0x2111, 0x69), (0x2112, 0x6C), (0x2113, 0x6C), (0x2115, 0x6E), (0x211C, 0x72), (0x211D, 0x72),
    (0x2124, 0x7A), (0x2126, 0x3C9), (0x2128, 0x7A), (0x212A, 0x6B), (0x212B, 0xE5), (0x212C, 0x62),
    (0x212D, 0x63), (0x212F, 0x65), (0x2130, 0x65), (0x2131, 0x66), (0x2132, 0x214E),
    (0x2133, 0x6D), (0x2134, 0x6F), (0x2139, 0x69), (0x213C, 0x3C0), (0x213D, 0x3B3),
    (0x213E, 0x3B3), (0x213F, 0x3C0), (0x2140, 0x2211), (0x2145, 0x64), (0x2146, 0x64),
    (0x2147, 0x65), (0x2148, 0x69), (0x2149, 0x6A), (0x2160, 0x69), (0x2164, 0x76), (0x2169, 0x78),
    (0x216C, 0x6C), (0x216D, 0x63), (0x216E, 0x64), (0x216F, 0x6D), (0x2170, 0x69), (0x2174, 0x76),
    (0x2179, 0x78), (0x217C, 0x6C), (0x217D, 0x63), (0x217E, 0x64), (0x217F, 0x6D),
    (0x2183, 0x2184), (0x2329, 0x3008), (0x232A, 0x3009), (0x24EA, 0x30), (0x2C60, 0x2C61),
    (0x2C62, 0x26B), (0x2C63, 0x1D7D), (0x2C64, 0x27D), (0x2C6D, 0x251), (0x2C6E, 0x271),
    (0x2C6F, 0x250), (0x2C70, 0x252), (0x2C72, 0x2C73), (0x2C75, 0x2C76), (0x2C7C, 0x6A),
    (0x2C7D, 0x76), (0x2C7E, 0x23F), (0x2C7F, 0x240), (0x2CEB, 0x2CEC), (0x2CED, 0x2CEE),
    (0x2CF2, 0x2CF3), (0x2D6F, 0x2D61), (0x2E9F, 0x6BCD), (0x2EF3, 0x9F9F), (0x2F00, 0x4E00),
    (0x2F01, 0x4E28), (0x2F02, 0x4E36), (0x2F03, 0x4E3F), (0x2F04, 0x4E59), (0x2F05, 0x4E85),
    (0x2F06, 0x4E8C), (0x2F07, 0x4EA0), (0x2F08, 0x4EBA), (0x2F09, 0x513F), (0x2F0A, 0x5165),
    (0x2F0B, 0x516B), (0x2F0C, 0x5182), (0x2F0D, 0x5196), (0x2F0E, 0x51AB), (0x2F0F, 0x51E0),
    (0x2F10, 0x51F5), (0x2F11, 0x5200), (0x2F12, 0x529B), (0x2F13, 0x52F9), (0x2F14, 0x5315),
    (0x2F15, 0x531A), (0x2F16, 0x5338), (0x2F17, 0x5341), (0x2F18, 0x535C), (0x2F19, 0x5369),
    (0x2F1A, 0x5382), (0x2F1B, 0x53B6), (0x2F1C, 0x53C8), (0x2F1D, 0x53E3), (0x2F1E, 0x56D7),
    (0x2F1F, 0x571F), (0x2F20, 0x58EB), (0x2F21, 0x5902), (0x2F22, 0x590A), (0x2F23, 0x5915),
    (0x2F24, 0x5927), (0x2F25, 0x5973), (0x2F26, 0x5B50), (0x2F27, 0x5B80), (0x2F28, 0x5BF8),
    (0x2F29, 0x5C0F), (0x2F2A, 0x5C22), (0x2F2B, 0x5C38), (0x2F2C, 0x5C6E), (0x2F2D, 0x5C71),
    (0x2F2E, 0x5DDB), (0x2F2F, 0x5DE5), (0x2F30, 0x5DF1), (0x2F31, 0x5DFE), (0x2F32, 0x5E72),
    (0x2F33, 0x5E7A), (0x2F34, 0x5E7F), (0x2F35, 0x5EF4), (0x2F36, 0x5EFE), (0x2F37, 0x5F0B),
    (0x2F38, 0x5F13), (0x2F39, 0x5F50), (0x2F3A, 0x5F61), (0x2F3B, 0x5F73), (0x2F3C, 0x5FC3),
    (0x2F3D, 0x6208), (0x2F3E, 0x6236), (0x2F3F, 0x624B), (0x2F40, 0x652F), (0x2F41, 0x6534),
    (0x2F42, 0x6587), (0x2F43, 0x6597), (0x2F44, 0x65A4), (0x2F45, 0x65B9), (0x2F46, 0x65E0),
    (0x2F47, 0x65E5), (0x2F48, 0x66F0), (0x2F49, 0x6708), (0x2F4A, 0x6728), (0x2F4B, 0x6B20),
    (0x2F4C, 0x6B62), (0x2F4D, 0x6B79), (0x2F4E, 0x6BB3), (0x2F4F, 0x6BCB), (0x2F50, 0x6BD4),
    (0x2F51, 0x6BDB), (0x2F52, 0x6C0F), (0x2F53, 0x6C14), (0x2F54, 0x6C34), (0x2F55, 0x706B),
    (0x2F56, 0x722A), (0x2F57, 0x7236), (0x2F58, 0x723B), (0x2F59, 0x723F), (0x2F5A, 0x7247),
    (0x2F5B, 0x7259), (0x2F5C, 0x725B), (0x2F5D, 0x72AC), (0x2F5E, 0x7384), (0x2F5F, 0x7389),
    (0x2F60, 0x74DC), (0x2F61, 0x74E6), (0x2F62, 0x7518), (0x2F63, 0x751F), (0x2F64, 0x7528),
    (0x2F65, 0x7530), (0x2F66, 0x758B), (0x2F67, 0x7592), (0x2F68, 0x7676), (0x2F69, 0x767D),
    (0x2F6A, 0x76AE), (0x2F6B, 0x76BF), (0x2F6C, 0x76EE), (0x2F6D, 0x77DB), (0x2F6E, 0x77E2),
    (0x2F6F, 0x77F3), (0x2F70, 0x793A), (0x2F71, 0x79B8), (0x2F72, 0x79BE), (0x2F73, 0x7A74),
    (0x2F74, 0x7ACB), (0x2F75, 0x7AF9), (0x2F76, 0x7C73), (0x2F77, 0x7CF8), (0x2F78, 0x7F36),
    (0x2F79, 0x7F51), (0x2F7A, 0x7F8A), (0x2F7B, 0x7FBD), (0x2F7C, 0x8001), (0x2F7D, 0x800C),
    (0x2F7E, 0x8012), (0x2F7F, 0x8033), (0x2F80, 0x807F), (0x2F81, 0x8089), (0x2F82, 0x81E3),
    (0x2F83, 0x81EA), (0x2F84, 0x81F3), (0x2F85, 0x81FC), (0x2F86, 0x820C), (0x2F87, 0x821B),
    (0x2F88, 0x821F), (0x2F89, 0x826E), (0x2F8A, 0x8272), (0x2F8B, 0x8278), (0x2F8C, 0x864D),
    (0x2F8D, 0x866B), (0x2F8E, 0x8840), (0x2F8F, 0x884C), (0x2F90, 0x8863), (0x2F91, 0x897E),
    (0x2F92, 0x898B), (0x2F93, 0x89D2), (0x2F94, 0x8A00), (0x2F95, 0x8C37), (0x2F96, 0x8C46),
    (0x2F97, 0x8C55), (0x2F98, 0x8C78), (0x2F99, 0x8C9D), (0x2F9A, 0x8D64), (0x2F9B, 0x8D70),
    (0x2F9C, 0x8DB3), (0x2F9D, 0x8EAB), (0x2F9E, 0x8ECA), (0x2F9F, 0x8F9B), (0x2FA0, 0x8FB0),
    (0x2FA1, 0x8FB5), (0x2FA2, 0x9091), (0x2FA3, 0x9149), (0x2FA4, 0x91C6), (0x2FA5, 0x91CC),
    (0x2FA6, 0x91D1), (0x2FA7, 0x9577), (0x2FA8, 0x9580), (0x2FA9, 0x961C), (0x2FAA, 0x96B6),
    (0x2FAB, 0x96B9), (0x2FAC, 0x96E8), (0x2FAD, 0x9751), (0x2FAE, 0x975E), (0x2FAF, 0x9762),
    (0x2FB0, 0x9769), (0x2FB1, 0x97CB), (0x2FB2, 0x97ED), (0x2FB3, 0x97F3), (0x2FB4, 0x9801),
    (0x2FB5, 0x98A8), (0x2FB6, 0x98DB), (0x2FB7, 0x98DF), (0x2FB8, 0x9996), (0x2FB9, 0x9999),
    (0x2FBA, 0x99AC), (0x2FBB, 0x9AA8), (0x2FBC, 0x9AD8), (0x2FBD, 0x9ADF), (0x2FBE, 0x9B25),
    (0x2FBF, 0x9B2F), (0x2FC0, 0x9B32), (0x2FC1, 0x9B3C), (0x2FC2, 0x9B5A), (0x2FC3, 0x9CE5),
    (0x2FC4, 0x9E75), (0x2FC5, 0x9E7F), (0x2FC6, 0x9EA5), (0x2FC7, 0x9EBB), (0x2FC8, 0x9EC3),
    (0x2FC9, 0x9ECD), (0x2FCA, 0x9ED1), (0x2FCB, 0x9EF9), (0x2FCC, 0x9EFD), (0x2FCD, 0x9F0E),
    (0x2FCE, 0x9F13), (0x2FCF, 0x9F20), (0x2FD0, 0x9F3B), (0x2FD1, 0x9F4A), (0x2FD2, 0x9F52),
    (0x2FD3, 0x9F8D), (0x2FD4, 0x9F9C), (0x2FD5, 0x9FA0), (0x3000, 0x20), (0x3002, 0x2E),
    (0x3036, 0x3012), (0x3038, 0x5341), (0x3039, 0x5344), (0x303A, 0x5345), (0x3131, 0x1100),
    (0x3132, 0x1101), (0x3133, 0x11AA), (0x3134, 0x1102), (0x3135, 0x11AC), (0x3136, 0x11AD),
    (0x3140, 0x111A), (0x3144, 0x1121), (0x3165, 0x1114), (0x3166, 0x1115), (0x3167, 0x11C7),
    (0x3168, 0x11C8), (0x3169, 0x11CC), (0x316A, 0x11CE), (0x316B, 0x11D3), (0x316C, 0x11D7),
    (0x316D, 0x11D9), (0x316E, 0x111C), (0x316F, 0x11DD), (0x3170, 0x11DF), (0x3171, 0x111D),
    (0x3172, 0x111E), (0x3173, 0x1120), (0x3174, 0x1122), (0x3175, 0x1123), (0x3176, 0x1127),
    (0x3177, 0x1129), (0x317D, 0x1132), (0x317E, 0x1136), (0x317F, 0x1140), (0x3180, 0x1147),
    (0x3181, 0x114C), (0x3182, 0x11F1), (0x3183, 0x11F2), (0x3187, 0x1184), (0x3188, 0x1185),
    (0x3189, 0x1188), (0x318A, 0x1191), (0x318B, 0x1192), (0x318C, 0x1194), (0x318D, 0x119E),
    (0x318E, 0x11A1), (0x3192, 0x4E00), (0x3193, 0x4E8C), (0x3194, 0x4E09), (0x3195, 0x56DB),
    (0x3196, 0x4E0A), (0x3197, 0x4E2D), (0x3198, 0x4E0B), (0x3199, 0x7532), (0x319A, 0x4E59),
    (0x319B, 0x4E19), (0x319C, 0x4E01), (0x319D, 0x5929), (0x319E, 0x5730), (0x319F, 0x4EBA),
    (0x3244, 0x554F), (0x3245, 0x5E7C), (0x3246, 0x6587), (0x3247, 0x7B8F), (0x3260, 0x1100),
    (0x3261, 0x1102), (0x3262, 0x1103), (0x3266, 0x1109), (0x3267, 0x110B), (0x3268, 0x110C),
    (0x326E, 0xAC00), (0x326F, 0xB098), (0x3270, 0xB2E4), (0x3271, 0xB77C), (0x3272, 0xB9C8),
    (0x3273, 0xBC14), (0x3274, 0xC0AC), (0x3275, 0xC544), (0x3276, 0xC790), (0x3277, 0xCC28),
    (0x3278, 0xCE74), (0x3279, 0xD0C0), (0x327A, 0xD30C), (0x327B, 0xD558), (0x327E, 0xC6B0),
    (0x3280, 0x4E00), (0x3281, 0x4E8C), (0x3282, 0x4E09), (0x3283, 0x56DB), (0x3284, 0x4E94),
    (0x3285, 0x516D), (0x3286, 0x4E03), (0x3287, 0x516B), (0x3288, 0x4E5D), (0x3289, 0x5341),
    (0x328A, 0x6708), (0x328B, 0x706B), (0x328C, 0x6C34), (0x328D, 0x6728), (0x328E, 0x91D1),
    (0x328F, 0x571F), (0x3290, 0x65E5), (0x3291, 0x682A), (0x3292, 0x6709), (0x3293, 0x793E),
    (0x3294, 0x540D), (0x3295, 0x7279), (0x3296, 0x8CA1), (0x3297, 0x795D), (0x3298, 0x52B4),
    (0x3299, 0x79D8), (0x329A, 0x7537), (0x329B, 0x5973), (0x329C, 0x9069), (0x329D, 0x512A),
    (0x329E, 0x5370), (0x329F, 0x6CE8), (0x32A0, 0x9805), (0x32A1, 0x4F11), (0x32A2, 0x5199),
    (0x32A3, 0x6B63), (0x32A4, 0x4E0A), (0x32A5, 0x4E2D), (0x32A6, 0x4E0B), (0x32A7, 0x5DE6),
    (0x32A8, 0x53F3), (0x32A9, 0x533B), (0x32AA, 0x5B97), (0x32AB, 0x5B66), (0x32AC, 0x76E3),
    (0x32AD, 0x4F01), (0x32AE, 0x8CC7), (0x32AF, 0x5354), (0x32B0, 0x591C), (0x32D0, 0x30A2),
    (0x32D1, 0x30A4), (0x32D2, 0x30A6), (0x32D3, 0x30A8), (0x32D4, 0x30AA), (0x32D5, 0x30AB),
    (0x32D6, 0x30AD), (0x32D7, 0x30AF), (0x32D8, 0x30B1), (0x32D9, 0x30B3), (0x32DA, 0x30B5),
    (0x32DB, 0x30B7), (0x32DC, 0x30B9), (0x32DD, 0x30BB), (0x32DE, 0x30BD), (0x32DF, 0x30BF),
    (0x32E0, 0x30C1), (0x32E1, 0x30C4), (0x32E2, 0x30C6), (0x32E3, 0x30C8), (0x32EA, 0x30D2),
    (0x32EB, 0x30D5), (0x32EC, 0x30D8), (0x32ED, 0x30DB), (0x32F3, 0x30E4), (0x32F4, 0x30E6),
    (0xA69C, 0x44A), (0xA69D, 0x44C), (0xA770, 0xA76F), (0xA779, 0xA77A), (0xA77B, 0xA77C),
    (0xA77D, 0x1D79), (0xA78B, 0xA78C), (0xA78D, 0x265), (0xA790, 0xA791), (0xA792, 0xA793),
    (0xA7AA, 0x266), (0xA7AB, 0x25C), (0xA7AC, 0x261), (0xA7AD, 0x26C), (0xA7AE, 0x26A),
    (0xA7B0, 0x29E), (0xA7B1, 0x287), (0xA7B2, 0x29D), (0xA7B3, 0xAB53), (0xA7C4, 0xA794),
    (0xA7C5, 0x282), (0xA7C6, 0x1D8E), (0xA7C7, 0xA7C8), (0xA7C9, 0xA7CA), (0xA7CB, 0x264),
    (0xA7DC, 0x19B), (0xA7F1, 0x73), (0xA7F2, 0x63), (0xA7F3, 0x66), (0xA7F4, 0x71),
    (0xA7F5, 0xA7F6), (0xA7F8, 0x127), (0xA7F9, 0x153), (0xAB5C, 0xA727), (0xAB5D, 0xAB37),
    (0xAB5E, 0x26B), (0xAB5F, 0xAB52), (0xAB69, 0x28D), (0xF900, 0x8C48), (0xF901, 0x66F4),
    (0xF902, 0x8ECA), (0xF903, 0x8CC8), (0xF904, 0x6ED1), (0xF905, 0x4E32), (0xF906, 0x53E5),
    (0xF907, 0x9F9C), (0xF908, 0x9F9C), (0xF909, 0x5951), (0xF90A, 0x91D1), (0xF90B, 0x5587),
    (0xF90C, 0x5948), (0xF90D, 0x61F6), (0xF90E, 0x7669), (0xF90F, 0x7F85), (0xF910, 0x863F),
    (0xF911, 0x87BA), (0xF912, 0x88F8), (0xF913, 0x908F), (0xF914, 0x6A02), (0xF915, 0x6D1B),
    (0xF916, 0x70D9), (0xF917, 0x73DE), (0xF918, 0x843D), (0xF919, 0x916A), (0xF91A, 0x99F1),
    (0xF91B, 0x4E82), (0xF91C, 0x5375), (0xF91D, 0x6B04), (0xF91E, 0x721B), (0xF91F, 0x862D),
    (0xF920, 0x9E1E), (0xF921, 0x5D50), (0xF922, 0x6FEB), (0xF923, 0x85CD), (0xF924, 0x8964),
    (0xF925, 0x62C9), (0xF926, 0x81D8), (0xF927, 0x881F), (0xF928, 0x5ECA), (0xF929, 0x6717),
    (0xF92A, 0x6D6A), (0xF92B, 0x72FC), (0xF92C, 0x90CE), (0xF92D, 0x4F86), (0xF92E, 0x51B7),
    (0xF92F, 0x52DE), (0xF930, 0x64C4), (0xF931, 0x6AD3), (0xF932, 0x7210), (0xF933, 0x76E7),
    (0xF934, 0x8001), (0xF935, 0x8606), (0xF936, 0x865C), (0xF937, 0x8DEF), (0xF938, 0x9732),
    (0xF939, 0x9B6F), (0xF93A, 0x9DFA), (0xF93B, 0x788C), (0xF93C, 0x797F), (0xF93D, 0x7DA0),
    (0xF93E, 0x83C9), (0xF93F, 0x9304), (0xF940, 0x9E7F), (0xF941, 0x8AD6), (0xF942, 0x58DF),
    (0xF943, 0x5F04), (0xF944, 0x7C60), (0xF945, 0x807E), (0xF946, 0x7262), (0xF947, 0x78CA),
    (0xF948, 0x8CC2), (0xF949, 0x96F7), (0xF94A, 0x58D8), (0xF94B, 0x5C62), (0xF94C, 0x6A13),
    (0xF94D, 0x6DDA), (0xF94E, 0x6F0F), (0xF94F, 0x7D2F), (0xF950, 0x7E37), (0xF951, 0x964B),
    (0xF952, 0x52D2), (0xF953, 0x808B), (0xF954, 0x51DC), (0xF955, 0x51CC), (0xF956, 0x7A1C),
    (0xF957, 0x7DBE), (0xF958, 0x83F1), (0xF959, 0x9675), (0xF95A, 0x8B80), (0xF95B, 0x62CF),
    (0xF95C, 0x6A02), (0xF95D, 0x8AFE), (0xF95E, 0x4E39), (0xF95F, 0x5BE7), (0xF960, 0x6012),
    (0xF961, 0x7387), (0xF962, 0x7570), (0xF963, 0x5317), (0xF964, 0x78FB), (0xF965, 0x4FBF),
    (0xF966, 0x5FA9), (0xF967, 0x4E0D), (0xF968, 0x6CCC), (0xF969, 0x6578), (0xF96A, 0x7D22),
    (0xF96B, 0x53C3), (0xF96C, 0x585E), (0xF96D, 0x7701), (0xF96E, 0x8449), (0xF96F, 0x8AAA),
    (0xF970, 0x6BBA), (0xF971, 0x8FB0), (0xF972, 0x6C88), (0xF973, 0x62FE), (0xF974, 0x82E5),
    (0xF975, 0x63A0), (0xF976, 0x7565), (0xF977, 0x4EAE), (0xF978, 0x5169), (0xF979, 0x51C9),
    (0xF97A, 0x6881), (0xF97B, 0x7CE7), (0xF97C, 0x826F), (0xF97D, 0x8AD2), (0xF97E, 0x91CF),
    (0xF97F, 0x52F5), (0xF980, 0x5442), (0xF981, 0x5973), (0xF982, 0x5EEC), (0xF983, 0x65C5),
    (0xF984, 0x6FFE), (0xF985, 0x792A), (0xF986, 0x95AD), (0xF987, 0x9A6A), (0xF988, 0x9E97),
    (0xF989, 0x9ECE), (0xF98A, 0x529B), (0xF98B, 0x66C6), (0xF98C, 0x6B77), (0xF98D, 0x8F62),
    (0xF98E, 0x5E74), (0xF98F, 0x6190), (0xF990, 0x6200), (0xF991, 0x649A), (0xF992, 0x6F23),
    (0xF993, 0x7149), (0xF994, 0x7489), (0xF995, 0x79CA), (0xF996, 0x7DF4), (0xF997, 0x806F),
    (0xF998, 0x8F26), (0xF999, 0x84EE), (0xF99A, 0x9023), (0xF99B, 0x934A), (0xF99C, 0x5217),
    (0xF99D, 0x52A3), (0xF99E, 0x54BD), (0xF99F, 0x70C8), (0xF9A0, 0x88C2), (0xF9A1, 0x8AAA),
    (0xF9A2, 0x5EC9), (0xF9A3, 0x5FF5), (0xF9A4, 0x637B), (0xF9A5, 0x6BAE), (0xF9A6, 0x7C3E),
    (0xF9A7, 0x7375), (0xF9A8, 0x4EE4), (0xF9A9, 0x56F9), (0xF9AA, 0x5BE7), (0xF9AB, 0x5DBA),
    (0xF9AC, 0x601C), (0xF9AD, 0x73B2), (0xF9AE, 0x7469), (0xF9AF, 0x7F9A), (0xF9B0, 0x8046),
    (0xF9B1, 0x9234), (0xF9B2, 0x96F6), (0xF9B3, 0x9748), (0xF9B4, 0x9818), (0xF9B5, 0x4F8B),
    (0xF9B6, 0x79AE), (0xF9B7, 0x91B4), (0xF9B8, 0x96B8), (0xF9B9, 0x60E1), (0xF9BA, 0x4E86),
    (0xF9BB, 0x50DA), (0xF9BC, 0x5BEE), (0xF9BD, 0x5C3F), (0xF9BE, 0x6599), (0xF9BF, 0x6A02),
    (0xF9C0, 0x71CE), (0xF9C1, 0x7642), (0xF9C2, 0x84FC), (0xF9C3, 0x907C), (0xF9C4, 0x9F8D),
    (0xF9C5, 0x6688), (0xF9C6, 0x962E), (0xF9C7, 0x5289), (0xF9C8, 0x677B), (0xF9C9, 0x67F3),
    (0xF9CA, 0x6D41), (0xF9CB, 0x6E9C), (0xF9CC, 0x7409), (0xF9CD, 0x7559), (0xF9CE, 0x786B),
    (0xF9CF, 0x7D10), (0xF9D0, 0x985E), (0xF9D1, 0x516D), (0xF9D2, 0x622E), (0xF9D3, 0x9678),
    (0xF9D4, 0x502B), (0xF9D5, 0x5D19), (0xF9D6, 0x6DEA), (0xF9D7, 0x8F2A), (0xF9D8, 0x5F8B),
    (0xF9D9, 0x6144), (0xF9DA, 0x6817), (0xF9DB, 0x7387), (0xF9DC, 0x9686), (0xF9DD, 0x5229),
    (0xF9DE, 0x540F), (0xF9DF, 0x5C65), (0xF9E0, 0x6613), (0xF9E1, 0x674E), (0xF9E2, 0x68A8),
    (0xF9E3, 0x6CE5), (0xF9E4, 0x7406), (0xF9E5, 0x75E2), (0xF9E6, 0x7F79), (0xF9E7, 0x88CF),
    (0xF9E8, 0x88E1), (0xF9E9, 0x91CC), (0xF9EA, 0x96E2), (0xF9EB, 0x533F), (0xF9EC, 0x6EBA),
    (0xF9ED, 0x541D), (0xF9EE, 0x71D0), (0xF9EF, 0x7498), (0xF9F0, 0x85FA), (0xF9F1, 0x96A3),
    (0xF9F2, 0x9C57), (0xF9F3, 0x9E9F), (0xF9F4, 0x6797), (0xF9F5, 0x6DCB), (0xF9F6, 0x81E8),
    (0xF9F7, 0x7ACB), (0xF9F8, 0x7B20), (0xF9F9, 0x7C92), (0xF9FA, 0x72C0), (0xF9FB, 0x7099),
    (0xF9FC, 0x8B58), (0xF9FD, 0x4EC0), (0xF9FE, 0x8336), (0xF9FF, 0x523A), (0xFA00, 0x5207),
    (0xFA01, 0x5EA6), (0xFA02, 0x62D3), (0xFA03, 0x7CD6), (0xFA04, 0x5B85), (0xFA05, 0x6D1E),
    (0xFA06, 0x66B4), (0xFA07, 0x8F3B), (0xFA08, 0x884C), (0xFA09, 0x964D), (0xFA0A, 0x898B),
    (0xFA0B, 0x5ED3), (0xFA0C, 0x5140), (0xFA0D, 0x55C0), (0xFA10, 0x585A), (0xFA12, 0x6674),
    (0xFA15, 0x51DE), (0xFA16, 0x732A), (0xFA17, 0x76CA), (0xFA18, 0x793C), (0xFA19, 0x795E),
    (0xFA1A, 0x7965), (0xFA1B, 0x798F), (0xFA1C, 0x9756), (0xFA1D, 0x7CBE), (0xFA1E, 0x7FBD),
    (0xFA20, 0x8612), (0xFA22, 0x8AF8), (0xFA25, 0x9038), (0xFA26, 0x90FD), (0xFA2A, 0x98EF),
    (0xFA2B, 0x98FC), (0xFA2C, 0x9928), (0xFA2D, 0x9DB4), (0xFA2E, 0x90DE), (0xFA2F, 0x96B7),
    (0xFA30, 0x4FAE), (0xFA31, 0x50E7), (0xFA32, 0x514D), (0xFA33, 0x52C9), (0xFA34, 0x52E4),
    (0xFA35, 0x5351), (0xFA36, 0x559D), (0xFA37, 0x5606), (0xFA38, 0x5668), (0xFA39, 0x5840),
    (0xFA3A, 0x58A8), (0xFA3B, 0x5C64), (0xFA3C, 0x5C6E), (0xFA3D, 0x6094), (0xFA3E, 0x6168),
    (0xFA3F, 0x618E), (0xFA40, 0x61F2), (0xFA41, 0x654F), (0xFA42, 0x65E2), (0xFA43, 0x6691),
    (0xFA44, 0x6885), (0xFA45, 0x6D77), (0xFA46, 0x6E1A), (0xFA47, 0x6F22), (0xFA48, 0x716E),
    (0xFA49, 0x722B), (0xFA4A, 0x7422), (0xFA4B, 0x7891), (0xFA4C, 0x793E), (0xFA4D, 0x7949),
    (0xFA4E, 0x7948), (0xFA4F, 0x7950), (0xFA50, 0x7956), (0xFA51, 0x795D), (0xFA52, 0x798D),
    (0xFA53, 0x798E), (0xFA54, 0x7A40), (0xFA55, 0x7A81), (0xFA56, 0x7BC0), (0xFA57, 0x7DF4),
    (0xFA58, 0x7E09), (0xFA59, 0x7E41), (0xFA5A, 0x7F72), (0xFA5B, 0x8005), (0xFA5C, 0x81ED),
    (0xFA5D, 0x8279), (0xFA5E, 0x8279), (0xFA5F, 0x8457), (0xFA60, 0x8910), (0xFA61, 0x8996),
    (0xFA62, 0x8B01), (0xFA63, 0x8B39), (0xFA64, 0x8CD3), (0xFA65, 0x8D08), (0xFA66, 0x8FB6),
    (0xFA67, 0x9038), (0xFA68, 0x96E3), (0xFA69, 0x97FF), (0xFA6A, 0x983B), (0xFA6B, 0x6075),
    (0xFA6C, 0x242EE), (0xFA6D, 0x8218), (0xFA70, 0x4E26), (0xFA71, 0x51B5), (0xFA72, 0x5168),
    (0xFA73, 0x4F80), (0xFA74, 0x5145), (0xFA75, 0x5180), (0xFA76, 0x52C7), (0xFA77, 0x52FA),
    (0xFA78, 0x559D), (0xFA79, 0x5555), (0xFA7A, 0x5599), (0xFA7B, 0x55E2), (0xFA7C, 0x585A),
    (0xFA7D, 0x58B3), (0xFA7E, 0x5944), (0xFA7F, 0x5954), (0xFA80, 0x5A62), (0xFA81, 0x5B28),
    (0xFA82, 0x5ED2), (0xFA83, 0x5ED9), (0xFA84, 0x5F69), (0xFA85, 0x5FAD), (0xFA86, 0x60D8),
    (0xFA87, 0x614E), (0xFA88, 0x6108), (0xFA89, 0x618E), (0xFA8A, 0x6160), (0xFA8B, 0x61F2),
    (0xFA8C, 0x6234), (0xFA8D, 0x63C4), (0xFA8E, 0x641C), (0xFA8F, 0x6452), (0xFA90, 0x6556),
    (0xFA91, 0x6674), (0xFA92, 0x6717), (0xFA93, 0x671B), (0xFA94, 0x6756), (0xFA95, 0x6B79),
    (0xFA96, 0x6BBA), (0xFA97, 0x6D41), (0xFA98, 0x6EDB), (0xFA99, 0x6ECB), (0xFA9A, 0x6F22),
    (0xFA9B, 0x701E), (0xFA9C, 0x716E), (0xFA9D, 0x77A7), (0xFA9E, 0x7235), (0xFA9F, 0x72AF),
    (0xFAA0, 0x732A), (0xFAA1, 0x7471), (0xFAA2, 0x7506), (0xFAA3, 0x753B), (0xFAA4, 0x761D),
    (0xFAA5, 0x761F), (0xFAA6, 0x76CA), (0xFAA7, 0x76DB), (0xFAA8, 0x76F4), (0xFAA9, 0x774A),
    (0xFAAA, 0x7740), (0xFAAB, 0x78CC), (0xFAAC, 0x7AB1), (0xFAAD, 0x7BC0), (0xFAAE, 0x7C7B),
    (0xFAAF, 0x7D5B), (0xFAB0, 0x7DF4), (0xFAB1, 0x7F3E), (0xFAB2, 0x8005), (0xFAB3, 0x8352),
    (0xFAB4, 0x83EF), (0xFAB5, 0x8779), (0xFAB6, 0x8941), (0xFAB7, 0x8986), (0xFAB8, 0x8996),
    (0xFAB9, 0x8ABF), (0xFABA, 0x8AF8), (0xFABB, 0x8ACB), (0xFABC, 0x8B01), (0xFABD, 0x8AFE),
    (0xFABE, 0x8AED), (0xFABF, 0x8B39), (0xFAC0, 0x8B8A), (0xFAC1, 0x8D08), (0xFAC2, 0x8F38),
    (0xFAC3, 0x9072), (0xFAC4, 0x9199), (0xFAC5, 0x9276), (0xFAC6, 0x967C), (0xFAC7, 0x96E3),
    (0xFAC8, 0x9756), (0xFAC9, 0x97DB), (0xFACA, 0x97FF), (0xFACB, 0x980B), (0xFACC, 0x983B),
    (0xFACD, 0x9B12), (0xFACE, 0x9F9C), (0xFACF, 0x2284A), (0xFAD0, 0x22844), (0xFAD1, 0x233D5),
    (0xFAD2, 0x3B9D), (0xFAD3, 0x4018), (0xFAD4, 0x4039), (0xFAD5, 0x25249), (0xFAD6, 0x25CD0),
    (0xFAD7, 0x27ED3), (0xFAD8, 0x9F43), (0xFAD9, 0x9F8E), (0xFB20, 0x5E2), (0xFB21, 0x5D0),
    (0xFB22, 0x5D3), (0xFB23, 0x5D4), (0xFB27, 0x5E8), (0xFB28, 0x5EA), (0xFB29, 0x2B),
    (0xFB50, 0x671)]

end CuratedList.Url
