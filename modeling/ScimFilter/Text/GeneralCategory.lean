import ScimFilter.Text.Ranges
/-!
General categories of the Unicode Character Database, version 16.0, the version that pattern
classes follow. Every assigned code point has one two-letter category; a code point in none of
the listed ranges is unassigned (`Cn`).
-/

namespace ScimFilter.Text

/-- The two-letter general categories, unassigned excepted, in table order. -/
def categoryNames : Array String := #[
  "Lu", "Ll", "Lt", "Lm", "Lo", "Mn", "Mc", "Me", "Nd", "Nl", "No", "Pc", "Pd", "Ps", "Pe", "Pi",
  "Pf", "Po", "Sm", "Sc", "Sk", "So", "Zs", "Zl", "Zp", "Cc", "Cf", "Cs", "Co"]

private def categoryRangesPart1 : TaggedRanges := #[
  (0x0, 0x1F, 25), (0x20, 0x20, 22), (0x21, 0x23, 17), (0x24, 0x24, 19), (0x25, 0x27, 17),
  (0x28, 0x28, 13), (0x29, 0x29, 14), (0x2A, 0x2A, 17), (0x2B, 0x2B, 18), (0x2C, 0x2C, 17),
  (0x2D, 0x2D, 12), (0x2E, 0x2F, 17), (0x30, 0x39, 8), (0x3A, 0x3B, 17), (0x3C, 0x3E, 18),
  (0x3F, 0x40, 17), (0x41, 0x5A, 0), (0x5B, 0x5B, 13), (0x5C, 0x5C, 17), (0x5D, 0x5D, 14),
  (0x5E, 0x5E, 20), (0x5F, 0x5F, 11), (0x60, 0x60, 20), (0x61, 0x7A, 1), (0x7B, 0x7B, 13),
  (0x7C, 0x7C, 18), (0x7D, 0x7D, 14), (0x7E, 0x7E, 18), (0x7F, 0x9F, 25), (0xA0, 0xA0, 22),
  (0xA1, 0xA1, 17), (0xA2, 0xA5, 19), (0xA6, 0xA6, 21), (0xA7, 0xA7, 17), (0xA8, 0xA8, 20),
  (0xA9, 0xA9, 21), (0xAA, 0xAA, 4), (0xAB, 0xAB, 15), (0xAC, 0xAC, 18), (0xAD, 0xAD, 26),
  (0xAE, 0xAE, 21), (0xAF, 0xAF, 20), (0xB0, 0xB0, 21), (0xB1, 0xB1, 18), (0xB2, 0xB3, 10),
  (0xB4, 0xB4, 20), (0xB5, 0xB5, 1), (0xB6, 0xB7, 17), (0xB8, 0xB8, 20), (0xB9, 0xB9, 10),
  (0xBA, 0xBA, 4), (0xBB, 0xBB, 16), (0xBC, 0xBE, 10), (0xBF, 0xBF, 17), (0xC0, 0xD6, 0),
  (0xD7, 0xD7, 18), (0xD8, 0xDE, 0), (0xDF, 0xF6, 1), (0xF7, 0xF7, 18), (0xF8, 0xFF, 1),
  (0x100, 0x100, 0), (0x101, 0x101, 1), (0x102, 0x102, 0), (0x103, 0x103, 1), (0x104, 0x104, 0),
  (0x105, 0x105, 1), (0x106, 0x106, 0), (0x107, 0x107, 1), (0x108, 0x108, 0), (0x109, 0x109, 1),
  (0x10A, 0x10A, 0), (0x10B, 0x10B, 1), (0x10C, 0x10C, 0), (0x10D, 0x10D, 1), (0x10E, 0x10E, 0),
  (0x10F, 0x10F, 1), (0x110, 0x110, 0), (0x111, 0x111, 1), (0x112, 0x112, 0), (0x113, 0x113, 1),
  (0x114, 0x114, 0), (0x115, 0x115, 1), (0x116, 0x116, 0), (0x117, 0x117, 1), (0x118, 0x118, 0),
  (0x119, 0x119, 1), (0x11A, 0x11A, 0), (0x11B, 0x11B, 1), (0x11C, 0x11C, 0), (0x11D, 0x11D, 1),
  (0x11E, 0x11E, 0), (0x11F, 0x11F, 1), (0x120, 0x120, 0), (0x121, 0x121, 1), (0x122, 0x122, 0),
  (0x123, 0x123, 1), (0x124, 0x124, 0), (0x125, 0x125, 1), (0x126, 0x126, 0), (0x127, 0x127, 1),
  (0x128, 0x128, 0), (0x129, 0x129, 1), (0x12A, 0x12A, 0), (0x12B, 0x12B, 1), (0x12C, 0x12C, 0),
  (0x12D, 0x12D, 1), (0x12E, 0x12E, 0), (0x12F, 0x12F, 1), (0x130, 0x130, 0), (0x131, 0x131, 1),
  (0x132, 0x132, 0), (0x133, 0x133, 1), (0x134, 0x134, 0), (0x135, 0x135, 1), (0x136, 0x136, 0),
  (0x137, 0x138, 1), (0x139, 0x139, 0), (0x13A, 0x13A, 1), (0x13B, 0x13B, 0), (0x13C, 0x13C, 1),
  (0x13D, 0x13D, 0), (0x13E, 0x13E, 1), (0x13F, 0x13F, 0), (0x140, 0x140, 1), (0x141, 0x141, 0),
  (0x142, 0x142, 1), (0x143, 0x143, 0), (0x144, 0x144, 1), (0x145, 0x145, 0), (0x146, 0x146, 1),
  (0x147, 0x147, 0), (0x148, 0x149, 1), (0x14A, 0x14A, 0), (0x14B, 0x14B, 1), (0x14C, 0x14C, 0),
  (0x14D, 0x14D, 1), (0x14E, 0x14E, 0), (0x14F, 0x14F, 1), (0x150, 0x150, 0), (0x151, 0x151, 1),
  (0x152, 0x152, 0), (0x153, 0x153, 1), (0x154, 0x154, 0), (0x155, 0x155, 1), (0x156, 0x156, 0),
  (0x157, 0x157, 1), (0x158, 0x158, 0), (0x159, 0x159, 1), (0x15A, 0x15A, 0), (0x15B, 0x15B, 1),
  (0x15C, 0x15C, 0), (0x15D, 0x15D, 1), (0x15E, 0x15E, 0), (0x15F, 0x15F, 1), (0x160, 0x160, 0),
  (0x161, 0x161, 1), (0x162, 0x162, 0), (0x163, 0x163, 1), (0x164, 0x164, 0), (0x165, 0x165, 1),
  (0x166, 0x166, 0), (0x167, 0x167, 1), (0x168, 0x168, 0), (0x169, 0x169, 1), (0x16A, 0x16A, 0),
  (0x16B, 0x16B, 1), (0x16C, 0x16C, 0), (0x16D, 0x16D, 1), (0x16E, 0x16E, 0), (0x16F, 0x16F, 1),
  (0x170, 0x170, 0), (0x171, 0x171, 1), (0x172, 0x172, 0), (0x173, 0x173, 1), (0x174, 0x174, 0),
  (0x175, 0x175, 1), (0x176, 0x176, 0), (0x177, 0x177, 1), (0x178, 0x179, 0), (0x17A, 0x17A, 1),
  (0x17B, 0x17B, 0), (0x17C, 0x17C, 1), (0x17D, 0x17D, 0), (0x17E, 0x180, 1), (0x181, 0x182, 0),
  (0x183, 0x183, 1), (0x184, 0x184, 0), (0x185, 0x185, 1), (0x186, 0x187, 0), (0x188, 0x188, 1),
  (0x189, 0x18B, 0), (0x18C, 0x18D, 1), (0x18E, 0x191, 0), (0x192, 0x192, 1), (0x193, 0x194, 0),
  (0x195, 0x195, 1), (0x196, 0x198, 0), (0x199, 0x19B, 1), (0x19C, 0x19D, 0), (0x19E, 0x19E, 1),
  (0x19F, 0x1A0, 0), (0x1A1, 0x1A1, 1), (0x1A2, 0x1A2, 0), (0x1A3, 0x1A3, 1), (0x1A4, 0x1A4, 0),
  (0x1A5, 0x1A5, 1), (0x1A6, 0x1A7, 0), (0x1A8, 0x1A8, 1), (0x1A9, 0x1A9, 0), (0x1AA, 0x1AB, 1),
  (0x1AC, 0x1AC, 0), (0x1AD, 0x1AD, 1), (0x1AE, 0x1AF, 0), (0x1B0, 0x1B0, 1), (0x1B1, 0x1B3, 0),
  (0x1B4, 0x1B4, 1), (0x1B5, 0x1B5, 0), (0x1B6, 0x1B6, 1), (0x1B7, 0x1B8, 0), (0x1B9, 0x1BA, 1),
  (0x1BB, 0x1BB, 4), (0x1BC, 0x1BC, 0), (0x1BD, 0x1BF, 1), (0x1C0, 0x1C3, 4), (0x1C4, 0x1C4, 0),
  (0x1C5, 0x1C5, 2), (0x1C6, 0x1C6, 1), (0x1C7, 0x1C7, 0), (0x1C8, 0x1C8, 2), (0x1C9, 0x1C9, 1),
  (0x1CA, 0x1CA, 0), (0x1CB, 0x1CB, 2), (0x1CC, 0x1CC, 1), (0x1CD, 0x1CD, 0), (0x1CE, 0x1CE, 1),
  (0x1CF, 0x1CF, 0), (0x1D0, 0x1D0, 1), (0x1D1, 0x1D1, 0), (0x1D2, 0x1D2, 1), (0x1D3, 0x1D3, 0),
  (0x1D4, 0x1D4, 1), (0x1D5, 0x1D5, 0), (0x1D6, 0x1D6, 1), (0x1D7, 0x1D7, 0), (0x1D8, 0x1D8, 1),
  (0x1D9, 0x1D9, 0), (0x1DA, 0x1DA, 1), (0x1DB, 0x1DB, 0), (0x1DC, 0x1DD, 1), (0x1DE, 0x1DE, 0),
  (0x1DF, 0x1DF, 1), (0x1E0, 0x1E0, 0), (0x1E1, 0x1E1, 1), (0x1E2, 0x1E2, 0), (0x1E3, 0x1E3, 1),
  (0x1E4, 0x1E4, 0), (0x1E5, 0x1E5, 1), (0x1E6, 0x1E6, 0), (0x1E7, 0x1E7, 1), (0x1E8, 0x1E8, 0),
  (0x1E9, 0x1E9, 1), (0x1EA, 0x1EA, 0), (0x1EB, 0x1EB, 1), (0x1EC, 0x1EC, 0), (0x1ED, 0x1ED, 1),
  (0x1EE, 0x1EE, 0), (0x1EF, 0x1F0, 1), (0x1F1, 0x1F1, 0), (0x1F2, 0x1F2, 2), (0x1F3, 0x1F3, 1),
  (0x1F4, 0x1F4, 0), (0x1F5, 0x1F5, 1), (0x1F6, 0x1F8, 0), (0x1F9, 0x1F9, 1), (0x1FA, 0x1FA, 0),
  (0x1FB, 0x1FB, 1), (0x1FC, 0x1FC, 0), (0x1FD, 0x1FD, 1), (0x1FE, 0x1FE, 0), (0x1FF, 0x1FF, 1),
  (0x200, 0x200, 0), (0x201, 0x201, 1), (0x202, 0x202, 0), (0x203, 0x203, 1), (0x204, 0x204, 0),
  (0x205, 0x205, 1), (0x206, 0x206, 0), (0x207, 0x207, 1), (0x208, 0x208, 0), (0x209, 0x209, 1),
  (0x20A, 0x20A, 0), (0x20B, 0x20B, 1), (0x20C, 0x20C, 0), (0x20D, 0x20D, 1), (0x20E, 0x20E, 0),
  (0x20F, 0x20F, 1), (0x210, 0x210, 0), (0x211, 0x211, 1), (0x212, 0x212, 0), (0x213, 0x213, 1),
  (0x214, 0x214, 0), (0x215, 0x215, 1), (0x216, 0x216, 0), (0x217, 0x217, 1), (0x218, 0x218, 0),
  (0x219, 0x219, 1), (0x21A, 0x21A, 0), (0x21B, 0x21B, 1), (0x21C, 0x21C, 0), (0x21D, 0x21D, 1),
  (0x21E, 0x21E, 0), (0x21F, 0x21F, 1), (0x220, 0x220, 0), (0x221, 0x221, 1), (0x222, 0x222, 0),
  (0x223, 0x223, 1), (0x224, 0x224, 0), (0x225, 0x225, 1), (0x226, 0x226, 0), (0x227, 0x227, 1),
  (0x228, 0x228, 0), (0x229, 0x229, 1), (0x22A, 0x22A, 0), (0x22B, 0x22B, 1), (0x22C, 0x22C, 0),
  (0x22D, 0x22D, 1), (0x22E, 0x22E, 0), (0x22F, 0x22F, 1), (0x230, 0x230, 0), (0x231, 0x231, 1),
  (0x232, 0x232, 0), (0x233, 0x239, 1), (0x23A, 0x23B, 0), (0x23C, 0x23C, 1), (0x23D, 0x23E, 0),
  (0x23F, 0x240, 1), (0x241, 0x241, 0), (0x242, 0x242, 1), (0x243, 0x246, 0), (0x247, 0x247, 1),
  (0x248, 0x248, 0), (0x249, 0x249, 1), (0x24A, 0x24A, 0), (0x24B, 0x24B, 1), (0x24C, 0x24C, 0),
  (0x24D, 0x24D, 1), (0x24E, 0x24E, 0), (0x24F, 0x293, 1), (0x294, 0x294, 4), (0x295, 0x2AF, 1),
  (0x2B0, 0x2C1, 3), (0x2C2, 0x2C5, 20), (0x2C6, 0x2D1, 3), (0x2D2, 0x2DF, 20), (0x2E0, 0x2E4, 3),
  (0x2E5, 0x2EB, 20), (0x2EC, 0x2EC, 3), (0x2ED, 0x2ED, 20), (0x2EE, 0x2EE, 3), (0x2EF, 0x2FF, 20),
  (0x300, 0x36F, 5), (0x370, 0x370, 0), (0x371, 0x371, 1), (0x372, 0x372, 0), (0x373, 0x373, 1),
  (0x374, 0x374, 3), (0x375, 0x375, 20), (0x376, 0x376, 0), (0x377, 0x377, 1), (0x37A, 0x37A, 3),
  (0x37B, 0x37D, 1), (0x37E, 0x37E, 17), (0x37F, 0x37F, 0), (0x384, 0x385, 20), (0x386, 0x386, 0),
  (0x387, 0x387, 17), (0x388, 0x38A, 0), (0x38C, 0x38C, 0), (0x38E, 0x38F, 0), (0x390, 0x390, 1),
  (0x391, 0x3A1, 0), (0x3A3, 0x3AB, 0), (0x3AC, 0x3CE, 1), (0x3CF, 0x3CF, 0), (0x3D0, 0x3D1, 1),
  (0x3D2, 0x3D4, 0), (0x3D5, 0x3D7, 1), (0x3D8, 0x3D8, 0), (0x3D9, 0x3D9, 1), (0x3DA, 0x3DA, 0),
  (0x3DB, 0x3DB, 1), (0x3DC, 0x3DC, 0), (0x3DD, 0x3DD, 1), (0x3DE, 0x3DE, 0), (0x3DF, 0x3DF, 1),
  (0x3E0, 0x3E0, 0), (0x3E1, 0x3E1, 1), (0x3E2, 0x3E2, 0), (0x3E3, 0x3E3, 1), (0x3E4, 0x3E4, 0),
  (0x3E5, 0x3E5, 1), (0x3E6, 0x3E6, 0), (0x3E7, 0x3E7, 1), (0x3E8, 0x3E8, 0), (0x3E9, 0x3E9, 1),
  (0x3EA, 0x3EA, 0), (0x3EB, 0x3EB, 1), (0x3EC, 0x3EC, 0), (0x3ED, 0x3ED, 1), (0x3EE, 0x3EE, 0),
  (0x3EF, 0x3F3, 1), (0x3F4, 0x3F4, 0), (0x3F5, 0x3F5, 1), (0x3F6, 0x3F6, 18), (0x3F7, 0x3F7, 0),
  (0x3F8, 0x3F8, 1), (0x3F9, 0x3FA, 0), (0x3FB, 0x3FC, 1), (0x3FD, 0x42F, 0), (0x430, 0x45F, 1),
  (0x460, 0x460, 0), (0x461, 0x461, 1), (0x462, 0x462, 0), (0x463, 0x463, 1), (0x464, 0x464, 0),
  (0x465, 0x465, 1), (0x466, 0x466, 0), (0x467, 0x467, 1), (0x468, 0x468, 0), (0x469, 0x469, 1),
  (0x46A, 0x46A, 0), (0x46B, 0x46B, 1), (0x46C, 0x46C, 0), (0x46D, 0x46D, 1), (0x46E, 0x46E, 0),
  (0x46F, 0x46F, 1), (0x470, 0x470, 0), (0x471, 0x471, 1), (0x472, 0x472, 0), (0x473, 0x473, 1),
  (0x474, 0x474, 0), (0x475, 0x475, 1), (0x476, 0x476, 0), (0x477, 0x477, 1), (0x478, 0x478, 0),
  (0x479, 0x479, 1), (0x47A, 0x47A, 0), (0x47B, 0x47B, 1), (0x47C, 0x47C, 0), (0x47D, 0x47D, 1),
  (0x47E, 0x47E, 0), (0x47F, 0x47F, 1), (0x480, 0x480, 0), (0x481, 0x481, 1), (0x482, 0x482, 21),
  (0x483, 0x487, 5), (0x488, 0x489, 7), (0x48A, 0x48A, 0), (0x48B, 0x48B, 1), (0x48C, 0x48C, 0),
  (0x48D, 0x48D, 1), (0x48E, 0x48E, 0), (0x48F, 0x48F, 1), (0x490, 0x490, 0), (0x491, 0x491, 1),
  (0x492, 0x492, 0), (0x493, 0x493, 1), (0x494, 0x494, 0), (0x495, 0x495, 1), (0x496, 0x496, 0),
  (0x497, 0x497, 1), (0x498, 0x498, 0), (0x499, 0x499, 1), (0x49A, 0x49A, 0), (0x49B, 0x49B, 1),
  (0x49C, 0x49C, 0), (0x49D, 0x49D, 1), (0x49E, 0x49E, 0), (0x49F, 0x49F, 1), (0x4A0, 0x4A0, 0),
  (0x4A1, 0x4A1, 1), (0x4A2, 0x4A2, 0), (0x4A3, 0x4A3, 1), (0x4A4, 0x4A4, 0), (0x4A5, 0x4A5, 1),
  (0x4A6, 0x4A6, 0), (0x4A7, 0x4A7, 1), (0x4A8, 0x4A8, 0), (0x4A9, 0x4A9, 1), (0x4AA, 0x4AA, 0),
  (0x4AB, 0x4AB, 1), (0x4AC, 0x4AC, 0), (0x4AD, 0x4AD, 1), (0x4AE, 0x4AE, 0), (0x4AF, 0x4AF, 1),
  (0x4B0, 0x4B0, 0), (0x4B1, 0x4B1, 1), (0x4B2, 0x4B2, 0), (0x4B3, 0x4B3, 1), (0x4B4, 0x4B4, 0)]

private def categoryRangesPart2 : TaggedRanges := #[
  (0x4B5, 0x4B5, 1), (0x4B6, 0x4B6, 0), (0x4B7, 0x4B7, 1), (0x4B8, 0x4B8, 0), (0x4B9, 0x4B9, 1),
  (0x4BA, 0x4BA, 0), (0x4BB, 0x4BB, 1), (0x4BC, 0x4BC, 0), (0x4BD, 0x4BD, 1), (0x4BE, 0x4BE, 0),
  (0x4BF, 0x4BF, 1), (0x4C0, 0x4C1, 0), (0x4C2, 0x4C2, 1), (0x4C3, 0x4C3, 0), (0x4C4, 0x4C4, 1),
  (0x4C5, 0x4C5, 0), (0x4C6, 0x4C6, 1), (0x4C7, 0x4C7, 0), (0x4C8, 0x4C8, 1), (0x4C9, 0x4C9, 0),
  (0x4CA, 0x4CA, 1), (0x4CB, 0x4CB, 0), (0x4CC, 0x4CC, 1), (0x4CD, 0x4CD, 0), (0x4CE, 0x4CF, 1),
  (0x4D0, 0x4D0, 0), (0x4D1, 0x4D1, 1), (0x4D2, 0x4D2, 0), (0x4D3, 0x4D3, 1), (0x4D4, 0x4D4, 0),
  (0x4D5, 0x4D5, 1), (0x4D6, 0x4D6, 0), (0x4D7, 0x4D7, 1), (0x4D8, 0x4D8, 0), (0x4D9, 0x4D9, 1),
  (0x4DA, 0x4DA, 0), (0x4DB, 0x4DB, 1), (0x4DC, 0x4DC, 0), (0x4DD, 0x4DD, 1), (0x4DE, 0x4DE, 0),
  (0x4DF, 0x4DF, 1), (0x4E0, 0x4E0, 0), (0x4E1, 0x4E1, 1), (0x4E2, 0x4E2, 0), (0x4E3, 0x4E3, 1),
  (0x4E4, 0x4E4, 0), (0x4E5, 0x4E5, 1), (0x4E6, 0x4E6, 0), (0x4E7, 0x4E7, 1), (0x4E8, 0x4E8, 0),
  (0x4E9, 0x4E9, 1), (0x4EA, 0x4EA, 0), (0x4EB, 0x4EB, 1), (0x4EC, 0x4EC, 0), (0x4ED, 0x4ED, 1),
  (0x4EE, 0x4EE, 0), (0x4EF, 0x4EF, 1), (0x4F0, 0x4F0, 0), (0x4F1, 0x4F1, 1), (0x4F2, 0x4F2, 0),
  (0x4F3, 0x4F3, 1), (0x4F4, 0x4F4, 0), (0x4F5, 0x4F5, 1), (0x4F6, 0x4F6, 0), (0x4F7, 0x4F7, 1),
  (0x4F8, 0x4F8, 0), (0x4F9, 0x4F9, 1), (0x4FA, 0x4FA, 0), (0x4FB, 0x4FB, 1), (0x4FC, 0x4FC, 0),
  (0x4FD, 0x4FD, 1), (0x4FE, 0x4FE, 0), (0x4FF, 0x4FF, 1), (0x500, 0x500, 0), (0x501, 0x501, 1),
  (0x502, 0x502, 0), (0x503, 0x503, 1), (0x504, 0x504, 0), (0x505, 0x505, 1), (0x506, 0x506, 0),
  (0x507, 0x507, 1), (0x508, 0x508, 0), (0x509, 0x509, 1), (0x50A, 0x50A, 0), (0x50B, 0x50B, 1),
  (0x50C, 0x50C, 0), (0x50D, 0x50D, 1), (0x50E, 0x50E, 0), (0x50F, 0x50F, 1), (0x510, 0x510, 0),
  (0x511, 0x511, 1), (0x512, 0x512, 0), (0x513, 0x513, 1), (0x514, 0x514, 0), (0x515, 0x515, 1),
  (0x516, 0x516, 0), (0x517, 0x517, 1), (0x518, 0x518, 0), (0x519, 0x519, 1), (0x51A, 0x51A, 0),
  (0x51B, 0x51B, 1), (0x51C, 0x51C, 0), (0x51D, 0x51D, 1), (0x51E, 0x51E, 0), (0x51F, 0x51F, 1),
  (0x520, 0x520, 0), (0x521, 0x521, 1), (0x522, 0x522, 0), (0x523, 0x523, 1), (0x524, 0x524, 0),
  (0x525, 0x525, 1), (0x526, 0x526, 0), (0x527, 0x527, 1), (0x528, 0x528, 0), (0x529, 0x529, 1),
  (0x52A, 0x52A, 0), (0x52B, 0x52B, 1), (0x52C, 0x52C, 0), (0x52D, 0x52D, 1), (0x52E, 0x52E, 0),
  (0x52F, 0x52F, 1), (0x531, 0x556, 0), (0x559, 0x559, 3), (0x55A, 0x55F, 17), (0x560, 0x588, 1),
  (0x589, 0x589, 17), (0x58A, 0x58A, 12), (0x58D, 0x58E, 21), (0x58F, 0x58F, 19), (0x591, 0x5BD, 5),
  (0x5BE, 0x5BE, 12), (0x5BF, 0x5BF, 5), (0x5C0, 0x5C0, 17), (0x5C1, 0x5C2, 5), (0x5C3, 0x5C3, 17),
  (0x5C4, 0x5C5, 5), (0x5C6, 0x5C6, 17), (0x5C7, 0x5C7, 5), (0x5D0, 0x5EA, 4), (0x5EF, 0x5F2, 4),
  (0x5F3, 0x5F4, 17), (0x600, 0x605, 26), (0x606, 0x608, 18), (0x609, 0x60A, 17),
  (0x60B, 0x60B, 19), (0x60C, 0x60D, 17), (0x60E, 0x60F, 21), (0x610, 0x61A, 5), (0x61B, 0x61B, 17),
  (0x61C, 0x61C, 26), (0x61D, 0x61F, 17), (0x620, 0x63F, 4), (0x640, 0x640, 3), (0x641, 0x64A, 4),
  (0x64B, 0x65F, 5), (0x660, 0x669, 8), (0x66A, 0x66D, 17), (0x66E, 0x66F, 4), (0x670, 0x670, 5),
  (0x671, 0x6D3, 4), (0x6D4, 0x6D4, 17), (0x6D5, 0x6D5, 4), (0x6D6, 0x6DC, 5), (0x6DD, 0x6DD, 26),
  (0x6DE, 0x6DE, 21), (0x6DF, 0x6E4, 5), (0x6E5, 0x6E6, 3), (0x6E7, 0x6E8, 5), (0x6E9, 0x6E9, 21),
  (0x6EA, 0x6ED, 5), (0x6EE, 0x6EF, 4), (0x6F0, 0x6F9, 8), (0x6FA, 0x6FC, 4), (0x6FD, 0x6FE, 21),
  (0x6FF, 0x6FF, 4), (0x700, 0x70D, 17), (0x70F, 0x70F, 26), (0x710, 0x710, 4), (0x711, 0x711, 5),
  (0x712, 0x72F, 4), (0x730, 0x74A, 5), (0x74D, 0x7A5, 4), (0x7A6, 0x7B0, 5), (0x7B1, 0x7B1, 4),
  (0x7C0, 0x7C9, 8), (0x7CA, 0x7EA, 4), (0x7EB, 0x7F3, 5), (0x7F4, 0x7F5, 3), (0x7F6, 0x7F6, 21),
  (0x7F7, 0x7F9, 17), (0x7FA, 0x7FA, 3), (0x7FD, 0x7FD, 5), (0x7FE, 0x7FF, 19), (0x800, 0x815, 4),
  (0x816, 0x819, 5), (0x81A, 0x81A, 3), (0x81B, 0x823, 5), (0x824, 0x824, 3), (0x825, 0x827, 5),
  (0x828, 0x828, 3), (0x829, 0x82D, 5), (0x830, 0x83E, 17), (0x840, 0x858, 4), (0x859, 0x85B, 5),
  (0x85E, 0x85E, 17), (0x860, 0x86A, 4), (0x870, 0x887, 4), (0x888, 0x888, 20), (0x889, 0x88E, 4),
  (0x890, 0x891, 26), (0x897, 0x89F, 5), (0x8A0, 0x8C8, 4), (0x8C9, 0x8C9, 3), (0x8CA, 0x8E1, 5),
  (0x8E2, 0x8E2, 26), (0x8E3, 0x902, 5), (0x903, 0x903, 6), (0x904, 0x939, 4), (0x93A, 0x93A, 5),
  (0x93B, 0x93B, 6), (0x93C, 0x93C, 5), (0x93D, 0x93D, 4), (0x93E, 0x940, 6), (0x941, 0x948, 5),
  (0x949, 0x94C, 6), (0x94D, 0x94D, 5), (0x94E, 0x94F, 6), (0x950, 0x950, 4), (0x951, 0x957, 5),
  (0x958, 0x961, 4), (0x962, 0x963, 5), (0x964, 0x965, 17), (0x966, 0x96F, 8), (0x970, 0x970, 17),
  (0x971, 0x971, 3), (0x972, 0x980, 4), (0x981, 0x981, 5), (0x982, 0x983, 6), (0x985, 0x98C, 4),
  (0x98F, 0x990, 4), (0x993, 0x9A8, 4), (0x9AA, 0x9B0, 4), (0x9B2, 0x9B2, 4), (0x9B6, 0x9B9, 4),
  (0x9BC, 0x9BC, 5), (0x9BD, 0x9BD, 4), (0x9BE, 0x9C0, 6), (0x9C1, 0x9C4, 5), (0x9C7, 0x9C8, 6),
  (0x9CB, 0x9CC, 6), (0x9CD, 0x9CD, 5), (0x9CE, 0x9CE, 4), (0x9D7, 0x9D7, 6), (0x9DC, 0x9DD, 4),
  (0x9DF, 0x9E1, 4), (0x9E2, 0x9E3, 5), (0x9E6, 0x9EF, 8), (0x9F0, 0x9F1, 4), (0x9F2, 0x9F3, 19),
  (0x9F4, 0x9F9, 10), (0x9FA, 0x9FA, 21), (0x9FB, 0x9FB, 19), (0x9FC, 0x9FC, 4), (0x9FD, 0x9FD, 17),
  (0x9FE, 0x9FE, 5), (0xA01, 0xA02, 5), (0xA03, 0xA03, 6), (0xA05, 0xA0A, 4), (0xA0F, 0xA10, 4),
  (0xA13, 0xA28, 4), (0xA2A, 0xA30, 4), (0xA32, 0xA33, 4), (0xA35, 0xA36, 4), (0xA38, 0xA39, 4),
  (0xA3C, 0xA3C, 5), (0xA3E, 0xA40, 6), (0xA41, 0xA42, 5), (0xA47, 0xA48, 5), (0xA4B, 0xA4D, 5),
  (0xA51, 0xA51, 5), (0xA59, 0xA5C, 4), (0xA5E, 0xA5E, 4), (0xA66, 0xA6F, 8), (0xA70, 0xA71, 5),
  (0xA72, 0xA74, 4), (0xA75, 0xA75, 5), (0xA76, 0xA76, 17), (0xA81, 0xA82, 5), (0xA83, 0xA83, 6),
  (0xA85, 0xA8D, 4), (0xA8F, 0xA91, 4), (0xA93, 0xAA8, 4), (0xAAA, 0xAB0, 4), (0xAB2, 0xAB3, 4),
  (0xAB5, 0xAB9, 4), (0xABC, 0xABC, 5), (0xABD, 0xABD, 4), (0xABE, 0xAC0, 6), (0xAC1, 0xAC5, 5),
  (0xAC7, 0xAC8, 5), (0xAC9, 0xAC9, 6), (0xACB, 0xACC, 6), (0xACD, 0xACD, 5), (0xAD0, 0xAD0, 4),
  (0xAE0, 0xAE1, 4), (0xAE2, 0xAE3, 5), (0xAE6, 0xAEF, 8), (0xAF0, 0xAF0, 17), (0xAF1, 0xAF1, 19),
  (0xAF9, 0xAF9, 4), (0xAFA, 0xAFF, 5), (0xB01, 0xB01, 5), (0xB02, 0xB03, 6), (0xB05, 0xB0C, 4),
  (0xB0F, 0xB10, 4), (0xB13, 0xB28, 4), (0xB2A, 0xB30, 4), (0xB32, 0xB33, 4), (0xB35, 0xB39, 4),
  (0xB3C, 0xB3C, 5), (0xB3D, 0xB3D, 4), (0xB3E, 0xB3E, 6), (0xB3F, 0xB3F, 5), (0xB40, 0xB40, 6),
  (0xB41, 0xB44, 5), (0xB47, 0xB48, 6), (0xB4B, 0xB4C, 6), (0xB4D, 0xB4D, 5), (0xB55, 0xB56, 5),
  (0xB57, 0xB57, 6), (0xB5C, 0xB5D, 4), (0xB5F, 0xB61, 4), (0xB62, 0xB63, 5), (0xB66, 0xB6F, 8),
  (0xB70, 0xB70, 21), (0xB71, 0xB71, 4), (0xB72, 0xB77, 10), (0xB82, 0xB82, 5), (0xB83, 0xB83, 4),
  (0xB85, 0xB8A, 4), (0xB8E, 0xB90, 4), (0xB92, 0xB95, 4), (0xB99, 0xB9A, 4), (0xB9C, 0xB9C, 4),
  (0xB9E, 0xB9F, 4), (0xBA3, 0xBA4, 4), (0xBA8, 0xBAA, 4), (0xBAE, 0xBB9, 4), (0xBBE, 0xBBF, 6),
  (0xBC0, 0xBC0, 5), (0xBC1, 0xBC2, 6), (0xBC6, 0xBC8, 6), (0xBCA, 0xBCC, 6), (0xBCD, 0xBCD, 5),
  (0xBD0, 0xBD0, 4), (0xBD7, 0xBD7, 6), (0xBE6, 0xBEF, 8), (0xBF0, 0xBF2, 10), (0xBF3, 0xBF8, 21),
  (0xBF9, 0xBF9, 19), (0xBFA, 0xBFA, 21), (0xC00, 0xC00, 5), (0xC01, 0xC03, 6), (0xC04, 0xC04, 5),
  (0xC05, 0xC0C, 4), (0xC0E, 0xC10, 4), (0xC12, 0xC28, 4), (0xC2A, 0xC39, 4), (0xC3C, 0xC3C, 5),
  (0xC3D, 0xC3D, 4), (0xC3E, 0xC40, 5), (0xC41, 0xC44, 6), (0xC46, 0xC48, 5), (0xC4A, 0xC4D, 5),
  (0xC55, 0xC56, 5), (0xC58, 0xC5A, 4), (0xC5D, 0xC5D, 4), (0xC60, 0xC61, 4), (0xC62, 0xC63, 5),
  (0xC66, 0xC6F, 8), (0xC77, 0xC77, 17), (0xC78, 0xC7E, 10), (0xC7F, 0xC7F, 21), (0xC80, 0xC80, 4),
  (0xC81, 0xC81, 5), (0xC82, 0xC83, 6), (0xC84, 0xC84, 17), (0xC85, 0xC8C, 4), (0xC8E, 0xC90, 4),
  (0xC92, 0xCA8, 4), (0xCAA, 0xCB3, 4), (0xCB5, 0xCB9, 4), (0xCBC, 0xCBC, 5), (0xCBD, 0xCBD, 4),
  (0xCBE, 0xCBE, 6), (0xCBF, 0xCBF, 5), (0xCC0, 0xCC4, 6), (0xCC6, 0xCC6, 5), (0xCC7, 0xCC8, 6),
  (0xCCA, 0xCCB, 6), (0xCCC, 0xCCD, 5), (0xCD5, 0xCD6, 6), (0xCDD, 0xCDE, 4), (0xCE0, 0xCE1, 4),
  (0xCE2, 0xCE3, 5), (0xCE6, 0xCEF, 8), (0xCF1, 0xCF2, 4), (0xCF3, 0xCF3, 6), (0xD00, 0xD01, 5),
  (0xD02, 0xD03, 6), (0xD04, 0xD0C, 4), (0xD0E, 0xD10, 4), (0xD12, 0xD3A, 4), (0xD3B, 0xD3C, 5),
  (0xD3D, 0xD3D, 4), (0xD3E, 0xD40, 6), (0xD41, 0xD44, 5), (0xD46, 0xD48, 6), (0xD4A, 0xD4C, 6),
  (0xD4D, 0xD4D, 5), (0xD4E, 0xD4E, 4), (0xD4F, 0xD4F, 21), (0xD54, 0xD56, 4), (0xD57, 0xD57, 6),
  (0xD58, 0xD5E, 10), (0xD5F, 0xD61, 4), (0xD62, 0xD63, 5), (0xD66, 0xD6F, 8), (0xD70, 0xD78, 10),
  (0xD79, 0xD79, 21), (0xD7A, 0xD7F, 4), (0xD81, 0xD81, 5), (0xD82, 0xD83, 6), (0xD85, 0xD96, 4),
  (0xD9A, 0xDB1, 4), (0xDB3, 0xDBB, 4), (0xDBD, 0xDBD, 4), (0xDC0, 0xDC6, 4), (0xDCA, 0xDCA, 5),
  (0xDCF, 0xDD1, 6), (0xDD2, 0xDD4, 5), (0xDD6, 0xDD6, 5), (0xDD8, 0xDDF, 6), (0xDE6, 0xDEF, 8),
  (0xDF2, 0xDF3, 6), (0xDF4, 0xDF4, 17), (0xE01, 0xE30, 4), (0xE31, 0xE31, 5), (0xE32, 0xE33, 4),
  (0xE34, 0xE3A, 5), (0xE3F, 0xE3F, 19), (0xE40, 0xE45, 4), (0xE46, 0xE46, 3), (0xE47, 0xE4E, 5),
  (0xE4F, 0xE4F, 17), (0xE50, 0xE59, 8), (0xE5A, 0xE5B, 17), (0xE81, 0xE82, 4), (0xE84, 0xE84, 4),
  (0xE86, 0xE8A, 4), (0xE8C, 0xEA3, 4), (0xEA5, 0xEA5, 4), (0xEA7, 0xEB0, 4), (0xEB1, 0xEB1, 5),
  (0xEB2, 0xEB3, 4), (0xEB4, 0xEBC, 5), (0xEBD, 0xEBD, 4), (0xEC0, 0xEC4, 4), (0xEC6, 0xEC6, 3),
  (0xEC8, 0xECE, 5), (0xED0, 0xED9, 8), (0xEDC, 0xEDF, 4), (0xF00, 0xF00, 4), (0xF01, 0xF03, 21),
  (0xF04, 0xF12, 17), (0xF13, 0xF13, 21), (0xF14, 0xF14, 17), (0xF15, 0xF17, 21), (0xF18, 0xF19, 5),
  (0xF1A, 0xF1F, 21), (0xF20, 0xF29, 8), (0xF2A, 0xF33, 10), (0xF34, 0xF34, 21), (0xF35, 0xF35, 5),
  (0xF36, 0xF36, 21), (0xF37, 0xF37, 5), (0xF38, 0xF38, 21), (0xF39, 0xF39, 5), (0xF3A, 0xF3A, 13),
  (0xF3B, 0xF3B, 14), (0xF3C, 0xF3C, 13), (0xF3D, 0xF3D, 14), (0xF3E, 0xF3F, 6), (0xF40, 0xF47, 4),
  (0xF49, 0xF6C, 4), (0xF71, 0xF7E, 5), (0xF7F, 0xF7F, 6), (0xF80, 0xF84, 5), (0xF85, 0xF85, 17),
  (0xF86, 0xF87, 5)]

private def categoryRangesPart3 : TaggedRanges := #[
  (0xF88, 0xF8C, 4), (0xF8D, 0xF97, 5), (0xF99, 0xFBC, 5), (0xFBE, 0xFC5, 21), (0xFC6, 0xFC6, 5),
  (0xFC7, 0xFCC, 21), (0xFCE, 0xFCF, 21), (0xFD0, 0xFD4, 17), (0xFD5, 0xFD8, 21),
  (0xFD9, 0xFDA, 17), (0x1000, 0x102A, 4), (0x102B, 0x102C, 6), (0x102D, 0x1030, 5),
  (0x1031, 0x1031, 6), (0x1032, 0x1037, 5), (0x1038, 0x1038, 6), (0x1039, 0x103A, 5),
  (0x103B, 0x103C, 6), (0x103D, 0x103E, 5), (0x103F, 0x103F, 4), (0x1040, 0x1049, 8),
  (0x104A, 0x104F, 17), (0x1050, 0x1055, 4), (0x1056, 0x1057, 6), (0x1058, 0x1059, 5),
  (0x105A, 0x105D, 4), (0x105E, 0x1060, 5), (0x1061, 0x1061, 4), (0x1062, 0x1064, 6),
  (0x1065, 0x1066, 4), (0x1067, 0x106D, 6), (0x106E, 0x1070, 4), (0x1071, 0x1074, 5),
  (0x1075, 0x1081, 4), (0x1082, 0x1082, 5), (0x1083, 0x1084, 6), (0x1085, 0x1086, 5),
  (0x1087, 0x108C, 6), (0x108D, 0x108D, 5), (0x108E, 0x108E, 4), (0x108F, 0x108F, 6),
  (0x1090, 0x1099, 8), (0x109A, 0x109C, 6), (0x109D, 0x109D, 5), (0x109E, 0x109F, 21),
  (0x10A0, 0x10C5, 0), (0x10C7, 0x10C7, 0), (0x10CD, 0x10CD, 0), (0x10D0, 0x10FA, 1),
  (0x10FB, 0x10FB, 17), (0x10FC, 0x10FC, 3), (0x10FD, 0x10FF, 1), (0x1100, 0x1248, 4),
  (0x124A, 0x124D, 4), (0x1250, 0x1256, 4), (0x1258, 0x1258, 4), (0x125A, 0x125D, 4),
  (0x1260, 0x1288, 4), (0x128A, 0x128D, 4), (0x1290, 0x12B0, 4), (0x12B2, 0x12B5, 4),
  (0x12B8, 0x12BE, 4), (0x12C0, 0x12C0, 4), (0x12C2, 0x12C5, 4), (0x12C8, 0x12D6, 4),
  (0x12D8, 0x1310, 4), (0x1312, 0x1315, 4), (0x1318, 0x135A, 4), (0x135D, 0x135F, 5),
  (0x1360, 0x1368, 17), (0x1369, 0x137C, 10), (0x1380, 0x138F, 4), (0x1390, 0x1399, 21),
  (0x13A0, 0x13F5, 0), (0x13F8, 0x13FD, 1), (0x1400, 0x1400, 12), (0x1401, 0x166C, 4),
  (0x166D, 0x166D, 21), (0x166E, 0x166E, 17), (0x166F, 0x167F, 4), (0x1680, 0x1680, 22),
  (0x1681, 0x169A, 4), (0x169B, 0x169B, 13), (0x169C, 0x169C, 14), (0x16A0, 0x16EA, 4),
  (0x16EB, 0x16ED, 17), (0x16EE, 0x16F0, 9), (0x16F1, 0x16F8, 4), (0x1700, 0x1711, 4),
  (0x1712, 0x1714, 5), (0x1715, 0x1715, 6), (0x171F, 0x1731, 4), (0x1732, 0x1733, 5),
  (0x1734, 0x1734, 6), (0x1735, 0x1736, 17), (0x1740, 0x1751, 4), (0x1752, 0x1753, 5),
  (0x1760, 0x176C, 4), (0x176E, 0x1770, 4), (0x1772, 0x1773, 5), (0x1780, 0x17B3, 4),
  (0x17B4, 0x17B5, 5), (0x17B6, 0x17B6, 6), (0x17B7, 0x17BD, 5), (0x17BE, 0x17C5, 6),
  (0x17C6, 0x17C6, 5), (0x17C7, 0x17C8, 6), (0x17C9, 0x17D3, 5), (0x17D4, 0x17D6, 17),
  (0x17D7, 0x17D7, 3), (0x17D8, 0x17DA, 17), (0x17DB, 0x17DB, 19), (0x17DC, 0x17DC, 4),
  (0x17DD, 0x17DD, 5), (0x17E0, 0x17E9, 8), (0x17F0, 0x17F9, 10), (0x1800, 0x1805, 17),
  (0x1806, 0x1806, 12), (0x1807, 0x180A, 17), (0x180B, 0x180D, 5), (0x180E, 0x180E, 26),
  (0x180F, 0x180F, 5), (0x1810, 0x1819, 8), (0x1820, 0x1842, 4), (0x1843, 0x1843, 3),
  (0x1844, 0x1878, 4), (0x1880, 0x1884, 4), (0x1885, 0x1886, 5), (0x1887, 0x18A8, 4),
  (0x18A9, 0x18A9, 5), (0x18AA, 0x18AA, 4), (0x18B0, 0x18F5, 4), (0x1900, 0x191E, 4),
  (0x1920, 0x1922, 5), (0x1923, 0x1926, 6), (0x1927, 0x1928, 5), (0x1929, 0x192B, 6),
  (0x1930, 0x1931, 6), (0x1932, 0x1932, 5), (0x1933, 0x1938, 6), (0x1939, 0x193B, 5),
  (0x1940, 0x1940, 21), (0x1944, 0x1945, 17), (0x1946, 0x194F, 8), (0x1950, 0x196D, 4),
  (0x1970, 0x1974, 4), (0x1980, 0x19AB, 4), (0x19B0, 0x19C9, 4), (0x19D0, 0x19D9, 8),
  (0x19DA, 0x19DA, 10), (0x19DE, 0x19FF, 21), (0x1A00, 0x1A16, 4), (0x1A17, 0x1A18, 5),
  (0x1A19, 0x1A1A, 6), (0x1A1B, 0x1A1B, 5), (0x1A1E, 0x1A1F, 17), (0x1A20, 0x1A54, 4),
  (0x1A55, 0x1A55, 6), (0x1A56, 0x1A56, 5), (0x1A57, 0x1A57, 6), (0x1A58, 0x1A5E, 5),
  (0x1A60, 0x1A60, 5), (0x1A61, 0x1A61, 6), (0x1A62, 0x1A62, 5), (0x1A63, 0x1A64, 6),
  (0x1A65, 0x1A6C, 5), (0x1A6D, 0x1A72, 6), (0x1A73, 0x1A7C, 5), (0x1A7F, 0x1A7F, 5),
  (0x1A80, 0x1A89, 8), (0x1A90, 0x1A99, 8), (0x1AA0, 0x1AA6, 17), (0x1AA7, 0x1AA7, 3),
  (0x1AA8, 0x1AAD, 17), (0x1AB0, 0x1ABD, 5), (0x1ABE, 0x1ABE, 7), (0x1ABF, 0x1ACE, 5),
  (0x1B00, 0x1B03, 5), (0x1B04, 0x1B04, 6), (0x1B05, 0x1B33, 4), (0x1B34, 0x1B34, 5),
  (0x1B35, 0x1B35, 6), (0x1B36, 0x1B3A, 5), (0x1B3B, 0x1B3B, 6), (0x1B3C, 0x1B3C, 5),
  (0x1B3D, 0x1B41, 6), (0x1B42, 0x1B42, 5), (0x1B43, 0x1B44, 6), (0x1B45, 0x1B4C, 4),
  (0x1B4E, 0x1B4F, 17), (0x1B50, 0x1B59, 8), (0x1B5A, 0x1B60, 17), (0x1B61, 0x1B6A, 21),
  (0x1B6B, 0x1B73, 5), (0x1B74, 0x1B7C, 21), (0x1B7D, 0x1B7F, 17), (0x1B80, 0x1B81, 5),
  (0x1B82, 0x1B82, 6), (0x1B83, 0x1BA0, 4), (0x1BA1, 0x1BA1, 6), (0x1BA2, 0x1BA5, 5),
  (0x1BA6, 0x1BA7, 6), (0x1BA8, 0x1BA9, 5), (0x1BAA, 0x1BAA, 6), (0x1BAB, 0x1BAD, 5),
  (0x1BAE, 0x1BAF, 4), (0x1BB0, 0x1BB9, 8), (0x1BBA, 0x1BE5, 4), (0x1BE6, 0x1BE6, 5),
  (0x1BE7, 0x1BE7, 6), (0x1BE8, 0x1BE9, 5), (0x1BEA, 0x1BEC, 6), (0x1BED, 0x1BED, 5),
  (0x1BEE, 0x1BEE, 6), (0x1BEF, 0x1BF1, 5), (0x1BF2, 0x1BF3, 6), (0x1BFC, 0x1BFF, 17),
  (0x1C00, 0x1C23, 4), (0x1C24, 0x1C2B, 6), (0x1C2C, 0x1C33, 5), (0x1C34, 0x1C35, 6),
  (0x1C36, 0x1C37, 5), (0x1C3B, 0x1C3F, 17), (0x1C40, 0x1C49, 8), (0x1C4D, 0x1C4F, 4),
  (0x1C50, 0x1C59, 8), (0x1C5A, 0x1C77, 4), (0x1C78, 0x1C7D, 3), (0x1C7E, 0x1C7F, 17),
  (0x1C80, 0x1C88, 1), (0x1C89, 0x1C89, 0), (0x1C8A, 0x1C8A, 1), (0x1C90, 0x1CBA, 0),
  (0x1CBD, 0x1CBF, 0), (0x1CC0, 0x1CC7, 17), (0x1CD0, 0x1CD2, 5), (0x1CD3, 0x1CD3, 17),
  (0x1CD4, 0x1CE0, 5), (0x1CE1, 0x1CE1, 6), (0x1CE2, 0x1CE8, 5), (0x1CE9, 0x1CEC, 4),
  (0x1CED, 0x1CED, 5), (0x1CEE, 0x1CF3, 4), (0x1CF4, 0x1CF4, 5), (0x1CF5, 0x1CF6, 4),
  (0x1CF7, 0x1CF7, 6), (0x1CF8, 0x1CF9, 5), (0x1CFA, 0x1CFA, 4), (0x1D00, 0x1D2B, 1),
  (0x1D2C, 0x1D6A, 3), (0x1D6B, 0x1D77, 1), (0x1D78, 0x1D78, 3), (0x1D79, 0x1D9A, 1),
  (0x1D9B, 0x1DBF, 3), (0x1DC0, 0x1DFF, 5), (0x1E00, 0x1E00, 0), (0x1E01, 0x1E01, 1),
  (0x1E02, 0x1E02, 0), (0x1E03, 0x1E03, 1), (0x1E04, 0x1E04, 0), (0x1E05, 0x1E05, 1),
  (0x1E06, 0x1E06, 0), (0x1E07, 0x1E07, 1), (0x1E08, 0x1E08, 0), (0x1E09, 0x1E09, 1),
  (0x1E0A, 0x1E0A, 0), (0x1E0B, 0x1E0B, 1), (0x1E0C, 0x1E0C, 0), (0x1E0D, 0x1E0D, 1),
  (0x1E0E, 0x1E0E, 0), (0x1E0F, 0x1E0F, 1), (0x1E10, 0x1E10, 0), (0x1E11, 0x1E11, 1),
  (0x1E12, 0x1E12, 0), (0x1E13, 0x1E13, 1), (0x1E14, 0x1E14, 0), (0x1E15, 0x1E15, 1),
  (0x1E16, 0x1E16, 0), (0x1E17, 0x1E17, 1), (0x1E18, 0x1E18, 0), (0x1E19, 0x1E19, 1),
  (0x1E1A, 0x1E1A, 0), (0x1E1B, 0x1E1B, 1), (0x1E1C, 0x1E1C, 0), (0x1E1D, 0x1E1D, 1),
  (0x1E1E, 0x1E1E, 0), (0x1E1F, 0x1E1F, 1), (0x1E20, 0x1E20, 0), (0x1E21, 0x1E21, 1),
  (0x1E22, 0x1E22, 0), (0x1E23, 0x1E23, 1), (0x1E24, 0x1E24, 0), (0x1E25, 0x1E25, 1),
  (0x1E26, 0x1E26, 0), (0x1E27, 0x1E27, 1), (0x1E28, 0x1E28, 0), (0x1E29, 0x1E29, 1),
  (0x1E2A, 0x1E2A, 0), (0x1E2B, 0x1E2B, 1), (0x1E2C, 0x1E2C, 0), (0x1E2D, 0x1E2D, 1),
  (0x1E2E, 0x1E2E, 0), (0x1E2F, 0x1E2F, 1), (0x1E30, 0x1E30, 0), (0x1E31, 0x1E31, 1),
  (0x1E32, 0x1E32, 0), (0x1E33, 0x1E33, 1), (0x1E34, 0x1E34, 0), (0x1E35, 0x1E35, 1),
  (0x1E36, 0x1E36, 0), (0x1E37, 0x1E37, 1), (0x1E38, 0x1E38, 0), (0x1E39, 0x1E39, 1),
  (0x1E3A, 0x1E3A, 0), (0x1E3B, 0x1E3B, 1), (0x1E3C, 0x1E3C, 0), (0x1E3D, 0x1E3D, 1),
  (0x1E3E, 0x1E3E, 0), (0x1E3F, 0x1E3F, 1), (0x1E40, 0x1E40, 0), (0x1E41, 0x1E41, 1),
  (0x1E42, 0x1E42, 0), (0x1E43, 0x1E43, 1), (0x1E44, 0x1E44, 0), (0x1E45, 0x1E45, 1),
  (0x1E46, 0x1E46, 0), (0x1E47, 0x1E47, 1), (0x1E48, 0x1E48, 0), (0x1E49, 0x1E49, 1),
  (0x1E4A, 0x1E4A, 0), (0x1E4B, 0x1E4B, 1), (0x1E4C, 0x1E4C, 0), (0x1E4D, 0x1E4D, 1),
  (0x1E4E, 0x1E4E, 0), (0x1E4F, 0x1E4F, 1), (0x1E50, 0x1E50, 0), (0x1E51, 0x1E51, 1),
  (0x1E52, 0x1E52, 0), (0x1E53, 0x1E53, 1), (0x1E54, 0x1E54, 0), (0x1E55, 0x1E55, 1),
  (0x1E56, 0x1E56, 0), (0x1E57, 0x1E57, 1), (0x1E58, 0x1E58, 0), (0x1E59, 0x1E59, 1),
  (0x1E5A, 0x1E5A, 0), (0x1E5B, 0x1E5B, 1), (0x1E5C, 0x1E5C, 0), (0x1E5D, 0x1E5D, 1),
  (0x1E5E, 0x1E5E, 0), (0x1E5F, 0x1E5F, 1), (0x1E60, 0x1E60, 0), (0x1E61, 0x1E61, 1),
  (0x1E62, 0x1E62, 0), (0x1E63, 0x1E63, 1), (0x1E64, 0x1E64, 0), (0x1E65, 0x1E65, 1),
  (0x1E66, 0x1E66, 0), (0x1E67, 0x1E67, 1), (0x1E68, 0x1E68, 0), (0x1E69, 0x1E69, 1),
  (0x1E6A, 0x1E6A, 0), (0x1E6B, 0x1E6B, 1), (0x1E6C, 0x1E6C, 0), (0x1E6D, 0x1E6D, 1),
  (0x1E6E, 0x1E6E, 0), (0x1E6F, 0x1E6F, 1), (0x1E70, 0x1E70, 0), (0x1E71, 0x1E71, 1),
  (0x1E72, 0x1E72, 0), (0x1E73, 0x1E73, 1), (0x1E74, 0x1E74, 0), (0x1E75, 0x1E75, 1),
  (0x1E76, 0x1E76, 0), (0x1E77, 0x1E77, 1), (0x1E78, 0x1E78, 0), (0x1E79, 0x1E79, 1),
  (0x1E7A, 0x1E7A, 0), (0x1E7B, 0x1E7B, 1), (0x1E7C, 0x1E7C, 0), (0x1E7D, 0x1E7D, 1),
  (0x1E7E, 0x1E7E, 0), (0x1E7F, 0x1E7F, 1), (0x1E80, 0x1E80, 0), (0x1E81, 0x1E81, 1),
  (0x1E82, 0x1E82, 0), (0x1E83, 0x1E83, 1), (0x1E84, 0x1E84, 0), (0x1E85, 0x1E85, 1),
  (0x1E86, 0x1E86, 0), (0x1E87, 0x1E87, 1), (0x1E88, 0x1E88, 0), (0x1E89, 0x1E89, 1),
  (0x1E8A, 0x1E8A, 0), (0x1E8B, 0x1E8B, 1), (0x1E8C, 0x1E8C, 0), (0x1E8D, 0x1E8D, 1),
  (0x1E8E, 0x1E8E, 0), (0x1E8F, 0x1E8F, 1), (0x1E90, 0x1E90, 0), (0x1E91, 0x1E91, 1),
  (0x1E92, 0x1E92, 0), (0x1E93, 0x1E93, 1), (0x1E94, 0x1E94, 0), (0x1E95, 0x1E9D, 1),
  (0x1E9E, 0x1E9E, 0), (0x1E9F, 0x1E9F, 1), (0x1EA0, 0x1EA0, 0), (0x1EA1, 0x1EA1, 1),
  (0x1EA2, 0x1EA2, 0), (0x1EA3, 0x1EA3, 1), (0x1EA4, 0x1EA4, 0), (0x1EA5, 0x1EA5, 1),
  (0x1EA6, 0x1EA6, 0), (0x1EA7, 0x1EA7, 1), (0x1EA8, 0x1EA8, 0), (0x1EA9, 0x1EA9, 1),
  (0x1EAA, 0x1EAA, 0), (0x1EAB, 0x1EAB, 1), (0x1EAC, 0x1EAC, 0), (0x1EAD, 0x1EAD, 1),
  (0x1EAE, 0x1EAE, 0), (0x1EAF, 0x1EAF, 1), (0x1EB0, 0x1EB0, 0), (0x1EB1, 0x1EB1, 1),
  (0x1EB2, 0x1EB2, 0), (0x1EB3, 0x1EB3, 1), (0x1EB4, 0x1EB4, 0), (0x1EB5, 0x1EB5, 1),
  (0x1EB6, 0x1EB6, 0), (0x1EB7, 0x1EB7, 1), (0x1EB8, 0x1EB8, 0), (0x1EB9, 0x1EB9, 1),
  (0x1EBA, 0x1EBA, 0), (0x1EBB, 0x1EBB, 1), (0x1EBC, 0x1EBC, 0), (0x1EBD, 0x1EBD, 1),
  (0x1EBE, 0x1EBE, 0), (0x1EBF, 0x1EBF, 1), (0x1EC0, 0x1EC0, 0), (0x1EC1, 0x1EC1, 1),
  (0x1EC2, 0x1EC2, 0), (0x1EC3, 0x1EC3, 1), (0x1EC4, 0x1EC4, 0), (0x1EC5, 0x1EC5, 1),
  (0x1EC6, 0x1EC6, 0), (0x1EC7, 0x1EC7, 1), (0x1EC8, 0x1EC8, 0), (0x1EC9, 0x1EC9, 1),
  (0x1ECA, 0x1ECA, 0), (0x1ECB, 0x1ECB, 1), (0x1ECC, 0x1ECC, 0), (0x1ECD, 0x1ECD, 1),
  (0x1ECE, 0x1ECE, 0), (0x1ECF, 0x1ECF, 1), (0x1ED0, 0x1ED0, 0), (0x1ED1, 0x1ED1, 1),
  (0x1ED2, 0x1ED2, 0), (0x1ED3, 0x1ED3, 1), (0x1ED4, 0x1ED4, 0), (0x1ED5, 0x1ED5, 1),
  (0x1ED6, 0x1ED6, 0), (0x1ED7, 0x1ED7, 1), (0x1ED8, 0x1ED8, 0), (0x1ED9, 0x1ED9, 1),
  (0x1EDA, 0x1EDA, 0), (0x1EDB, 0x1EDB, 1), (0x1EDC, 0x1EDC, 0), (0x1EDD, 0x1EDD, 1),
  (0x1EDE, 0x1EDE, 0), (0x1EDF, 0x1EDF, 1), (0x1EE0, 0x1EE0, 0), (0x1EE1, 0x1EE1, 1),
  (0x1EE2, 0x1EE2, 0), (0x1EE3, 0x1EE3, 1), (0x1EE4, 0x1EE4, 0), (0x1EE5, 0x1EE5, 1),
  (0x1EE6, 0x1EE6, 0), (0x1EE7, 0x1EE7, 1), (0x1EE8, 0x1EE8, 0), (0x1EE9, 0x1EE9, 1),
  (0x1EEA, 0x1EEA, 0), (0x1EEB, 0x1EEB, 1), (0x1EEC, 0x1EEC, 0), (0x1EED, 0x1EED, 1),
  (0x1EEE, 0x1EEE, 0), (0x1EEF, 0x1EEF, 1), (0x1EF0, 0x1EF0, 0), (0x1EF1, 0x1EF1, 1),
  (0x1EF2, 0x1EF2, 0), (0x1EF3, 0x1EF3, 1), (0x1EF4, 0x1EF4, 0), (0x1EF5, 0x1EF5, 1),
  (0x1EF6, 0x1EF6, 0), (0x1EF7, 0x1EF7, 1), (0x1EF8, 0x1EF8, 0), (0x1EF9, 0x1EF9, 1),
  (0x1EFA, 0x1EFA, 0), (0x1EFB, 0x1EFB, 1), (0x1EFC, 0x1EFC, 0)]

private def categoryRangesPart4 : TaggedRanges := #[
  (0x1EFD, 0x1EFD, 1), (0x1EFE, 0x1EFE, 0), (0x1EFF, 0x1F07, 1), (0x1F08, 0x1F0F, 0),
  (0x1F10, 0x1F15, 1), (0x1F18, 0x1F1D, 0), (0x1F20, 0x1F27, 1), (0x1F28, 0x1F2F, 0),
  (0x1F30, 0x1F37, 1), (0x1F38, 0x1F3F, 0), (0x1F40, 0x1F45, 1), (0x1F48, 0x1F4D, 0),
  (0x1F50, 0x1F57, 1), (0x1F59, 0x1F59, 0), (0x1F5B, 0x1F5B, 0), (0x1F5D, 0x1F5D, 0),
  (0x1F5F, 0x1F5F, 0), (0x1F60, 0x1F67, 1), (0x1F68, 0x1F6F, 0), (0x1F70, 0x1F7D, 1),
  (0x1F80, 0x1F87, 1), (0x1F88, 0x1F8F, 2), (0x1F90, 0x1F97, 1), (0x1F98, 0x1F9F, 2),
  (0x1FA0, 0x1FA7, 1), (0x1FA8, 0x1FAF, 2), (0x1FB0, 0x1FB4, 1), (0x1FB6, 0x1FB7, 1),
  (0x1FB8, 0x1FBB, 0), (0x1FBC, 0x1FBC, 2), (0x1FBD, 0x1FBD, 20), (0x1FBE, 0x1FBE, 1),
  (0x1FBF, 0x1FC1, 20), (0x1FC2, 0x1FC4, 1), (0x1FC6, 0x1FC7, 1), (0x1FC8, 0x1FCB, 0),
  (0x1FCC, 0x1FCC, 2), (0x1FCD, 0x1FCF, 20), (0x1FD0, 0x1FD3, 1), (0x1FD6, 0x1FD7, 1),
  (0x1FD8, 0x1FDB, 0), (0x1FDD, 0x1FDF, 20), (0x1FE0, 0x1FE7, 1), (0x1FE8, 0x1FEC, 0),
  (0x1FED, 0x1FEF, 20), (0x1FF2, 0x1FF4, 1), (0x1FF6, 0x1FF7, 1), (0x1FF8, 0x1FFB, 0),
  (0x1FFC, 0x1FFC, 2), (0x1FFD, 0x1FFE, 20), (0x2000, 0x200A, 22), (0x200B, 0x200F, 26),
  (0x2010, 0x2015, 12), (0x2016, 0x2017, 17), (0x2018, 0x2018, 15), (0x2019, 0x2019, 16),
  (0x201A, 0x201A, 13), (0x201B, 0x201C, 15), (0x201D, 0x201D, 16), (0x201E, 0x201E, 13),
  (0x201F, 0x201F, 15), (0x2020, 0x2027, 17), (0x2028, 0x2028, 23), (0x2029, 0x2029, 24),
  (0x202A, 0x202E, 26), (0x202F, 0x202F, 22), (0x2030, 0x2038, 17), (0x2039, 0x2039, 15),
  (0x203A, 0x203A, 16), (0x203B, 0x203E, 17), (0x203F, 0x2040, 11), (0x2041, 0x2043, 17),
  (0x2044, 0x2044, 18), (0x2045, 0x2045, 13), (0x2046, 0x2046, 14), (0x2047, 0x2051, 17),
  (0x2052, 0x2052, 18), (0x2053, 0x2053, 17), (0x2054, 0x2054, 11), (0x2055, 0x205E, 17),
  (0x205F, 0x205F, 22), (0x2060, 0x2064, 26), (0x2066, 0x206F, 26), (0x2070, 0x2070, 10),
  (0x2071, 0x2071, 3), (0x2074, 0x2079, 10), (0x207A, 0x207C, 18), (0x207D, 0x207D, 13),
  (0x207E, 0x207E, 14), (0x207F, 0x207F, 3), (0x2080, 0x2089, 10), (0x208A, 0x208C, 18),
  (0x208D, 0x208D, 13), (0x208E, 0x208E, 14), (0x2090, 0x209C, 3), (0x20A0, 0x20C0, 19),
  (0x20D0, 0x20DC, 5), (0x20DD, 0x20E0, 7), (0x20E1, 0x20E1, 5), (0x20E2, 0x20E4, 7),
  (0x20E5, 0x20F0, 5), (0x2100, 0x2101, 21), (0x2102, 0x2102, 0), (0x2103, 0x2106, 21),
  (0x2107, 0x2107, 0), (0x2108, 0x2109, 21), (0x210A, 0x210A, 1), (0x210B, 0x210D, 0),
  (0x210E, 0x210F, 1), (0x2110, 0x2112, 0), (0x2113, 0x2113, 1), (0x2114, 0x2114, 21),
  (0x2115, 0x2115, 0), (0x2116, 0x2117, 21), (0x2118, 0x2118, 18), (0x2119, 0x211D, 0),
  (0x211E, 0x2123, 21), (0x2124, 0x2124, 0), (0x2125, 0x2125, 21), (0x2126, 0x2126, 0),
  (0x2127, 0x2127, 21), (0x2128, 0x2128, 0), (0x2129, 0x2129, 21), (0x212A, 0x212D, 0),
  (0x212E, 0x212E, 21), (0x212F, 0x212F, 1), (0x2130, 0x2133, 0), (0x2134, 0x2134, 1),
  (0x2135, 0x2138, 4), (0x2139, 0x2139, 1), (0x213A, 0x213B, 21), (0x213C, 0x213D, 1),
  (0x213E, 0x213F, 0), (0x2140, 0x2144, 18), (0x2145, 0x2145, 0), (0x2146, 0x2149, 1),
  (0x214A, 0x214A, 21), (0x214B, 0x214B, 18), (0x214C, 0x214D, 21), (0x214E, 0x214E, 1),
  (0x214F, 0x214F, 21), (0x2150, 0x215F, 10), (0x2160, 0x2182, 9), (0x2183, 0x2183, 0),
  (0x2184, 0x2184, 1), (0x2185, 0x2188, 9), (0x2189, 0x2189, 10), (0x218A, 0x218B, 21),
  (0x2190, 0x2194, 18), (0x2195, 0x2199, 21), (0x219A, 0x219B, 18), (0x219C, 0x219F, 21),
  (0x21A0, 0x21A0, 18), (0x21A1, 0x21A2, 21), (0x21A3, 0x21A3, 18), (0x21A4, 0x21A5, 21),
  (0x21A6, 0x21A6, 18), (0x21A7, 0x21AD, 21), (0x21AE, 0x21AE, 18), (0x21AF, 0x21CD, 21),
  (0x21CE, 0x21CF, 18), (0x21D0, 0x21D1, 21), (0x21D2, 0x21D2, 18), (0x21D3, 0x21D3, 21),
  (0x21D4, 0x21D4, 18), (0x21D5, 0x21F3, 21), (0x21F4, 0x22FF, 18), (0x2300, 0x2307, 21),
  (0x2308, 0x2308, 13), (0x2309, 0x2309, 14), (0x230A, 0x230A, 13), (0x230B, 0x230B, 14),
  (0x230C, 0x231F, 21), (0x2320, 0x2321, 18), (0x2322, 0x2328, 21), (0x2329, 0x2329, 13),
  (0x232A, 0x232A, 14), (0x232B, 0x237B, 21), (0x237C, 0x237C, 18), (0x237D, 0x239A, 21),
  (0x239B, 0x23B3, 18), (0x23B4, 0x23DB, 21), (0x23DC, 0x23E1, 18), (0x23E2, 0x2429, 21),
  (0x2440, 0x244A, 21), (0x2460, 0x249B, 10), (0x249C, 0x24E9, 21), (0x24EA, 0x24FF, 10),
  (0x2500, 0x25B6, 21), (0x25B7, 0x25B7, 18), (0x25B8, 0x25C0, 21), (0x25C1, 0x25C1, 18),
  (0x25C2, 0x25F7, 21), (0x25F8, 0x25FF, 18), (0x2600, 0x266E, 21), (0x266F, 0x266F, 18),
  (0x2670, 0x2767, 21), (0x2768, 0x2768, 13), (0x2769, 0x2769, 14), (0x276A, 0x276A, 13),
  (0x276B, 0x276B, 14), (0x276C, 0x276C, 13), (0x276D, 0x276D, 14), (0x276E, 0x276E, 13),
  (0x276F, 0x276F, 14), (0x2770, 0x2770, 13), (0x2771, 0x2771, 14), (0x2772, 0x2772, 13),
  (0x2773, 0x2773, 14), (0x2774, 0x2774, 13), (0x2775, 0x2775, 14), (0x2776, 0x2793, 10),
  (0x2794, 0x27BF, 21), (0x27C0, 0x27C4, 18), (0x27C5, 0x27C5, 13), (0x27C6, 0x27C6, 14),
  (0x27C7, 0x27E5, 18), (0x27E6, 0x27E6, 13), (0x27E7, 0x27E7, 14), (0x27E8, 0x27E8, 13),
  (0x27E9, 0x27E9, 14), (0x27EA, 0x27EA, 13), (0x27EB, 0x27EB, 14), (0x27EC, 0x27EC, 13),
  (0x27ED, 0x27ED, 14), (0x27EE, 0x27EE, 13), (0x27EF, 0x27EF, 14), (0x27F0, 0x27FF, 18),
  (0x2800, 0x28FF, 21), (0x2900, 0x2982, 18), (0x2983, 0x2983, 13), (0x2984, 0x2984, 14),
  (0x2985, 0x2985, 13), (0x2986, 0x2986, 14), (0x2987, 0x2987, 13), (0x2988, 0x2988, 14),
  (0x2989, 0x2989, 13), (0x298A, 0x298A, 14), (0x298B, 0x298B, 13), (0x298C, 0x298C, 14),
  (0x298D, 0x298D, 13), (0x298E, 0x298E, 14), (0x298F, 0x298F, 13), (0x2990, 0x2990, 14),
  (0x2991, 0x2991, 13), (0x2992, 0x2992, 14), (0x2993, 0x2993, 13), (0x2994, 0x2994, 14),
  (0x2995, 0x2995, 13), (0x2996, 0x2996, 14), (0x2997, 0x2997, 13), (0x2998, 0x2998, 14),
  (0x2999, 0x29D7, 18), (0x29D8, 0x29D8, 13), (0x29D9, 0x29D9, 14), (0x29DA, 0x29DA, 13),
  (0x29DB, 0x29DB, 14), (0x29DC, 0x29FB, 18), (0x29FC, 0x29FC, 13), (0x29FD, 0x29FD, 14),
  (0x29FE, 0x2AFF, 18), (0x2B00, 0x2B2F, 21), (0x2B30, 0x2B44, 18), (0x2B45, 0x2B46, 21),
  (0x2B47, 0x2B4C, 18), (0x2B4D, 0x2B73, 21), (0x2B76, 0x2B95, 21), (0x2B97, 0x2BFF, 21),
  (0x2C00, 0x2C2F, 0), (0x2C30, 0x2C5F, 1), (0x2C60, 0x2C60, 0), (0x2C61, 0x2C61, 1),
  (0x2C62, 0x2C64, 0), (0x2C65, 0x2C66, 1), (0x2C67, 0x2C67, 0), (0x2C68, 0x2C68, 1),
  (0x2C69, 0x2C69, 0), (0x2C6A, 0x2C6A, 1), (0x2C6B, 0x2C6B, 0), (0x2C6C, 0x2C6C, 1),
  (0x2C6D, 0x2C70, 0), (0x2C71, 0x2C71, 1), (0x2C72, 0x2C72, 0), (0x2C73, 0x2C74, 1),
  (0x2C75, 0x2C75, 0), (0x2C76, 0x2C7B, 1), (0x2C7C, 0x2C7D, 3), (0x2C7E, 0x2C80, 0),
  (0x2C81, 0x2C81, 1), (0x2C82, 0x2C82, 0), (0x2C83, 0x2C83, 1), (0x2C84, 0x2C84, 0),
  (0x2C85, 0x2C85, 1), (0x2C86, 0x2C86, 0), (0x2C87, 0x2C87, 1), (0x2C88, 0x2C88, 0),
  (0x2C89, 0x2C89, 1), (0x2C8A, 0x2C8A, 0), (0x2C8B, 0x2C8B, 1), (0x2C8C, 0x2C8C, 0),
  (0x2C8D, 0x2C8D, 1), (0x2C8E, 0x2C8E, 0), (0x2C8F, 0x2C8F, 1), (0x2C90, 0x2C90, 0),
  (0x2C91, 0x2C91, 1), (0x2C92, 0x2C92, 0), (0x2C93, 0x2C93, 1), (0x2C94, 0x2C94, 0),
  (0x2C95, 0x2C95, 1), (0x2C96, 0x2C96, 0), (0x2C97, 0x2C97, 1), (0x2C98, 0x2C98, 0),
  (0x2C99, 0x2C99, 1), (0x2C9A, 0x2C9A, 0), (0x2C9B, 0x2C9B, 1), (0x2C9C, 0x2C9C, 0),
  (0x2C9D, 0x2C9D, 1), (0x2C9E, 0x2C9E, 0), (0x2C9F, 0x2C9F, 1), (0x2CA0, 0x2CA0, 0),
  (0x2CA1, 0x2CA1, 1), (0x2CA2, 0x2CA2, 0), (0x2CA3, 0x2CA3, 1), (0x2CA4, 0x2CA4, 0),
  (0x2CA5, 0x2CA5, 1), (0x2CA6, 0x2CA6, 0), (0x2CA7, 0x2CA7, 1), (0x2CA8, 0x2CA8, 0),
  (0x2CA9, 0x2CA9, 1), (0x2CAA, 0x2CAA, 0), (0x2CAB, 0x2CAB, 1), (0x2CAC, 0x2CAC, 0),
  (0x2CAD, 0x2CAD, 1), (0x2CAE, 0x2CAE, 0), (0x2CAF, 0x2CAF, 1), (0x2CB0, 0x2CB0, 0),
  (0x2CB1, 0x2CB1, 1), (0x2CB2, 0x2CB2, 0), (0x2CB3, 0x2CB3, 1), (0x2CB4, 0x2CB4, 0),
  (0x2CB5, 0x2CB5, 1), (0x2CB6, 0x2CB6, 0), (0x2CB7, 0x2CB7, 1), (0x2CB8, 0x2CB8, 0),
  (0x2CB9, 0x2CB9, 1), (0x2CBA, 0x2CBA, 0), (0x2CBB, 0x2CBB, 1), (0x2CBC, 0x2CBC, 0),
  (0x2CBD, 0x2CBD, 1), (0x2CBE, 0x2CBE, 0), (0x2CBF, 0x2CBF, 1), (0x2CC0, 0x2CC0, 0),
  (0x2CC1, 0x2CC1, 1), (0x2CC2, 0x2CC2, 0), (0x2CC3, 0x2CC3, 1), (0x2CC4, 0x2CC4, 0),
  (0x2CC5, 0x2CC5, 1), (0x2CC6, 0x2CC6, 0), (0x2CC7, 0x2CC7, 1), (0x2CC8, 0x2CC8, 0),
  (0x2CC9, 0x2CC9, 1), (0x2CCA, 0x2CCA, 0), (0x2CCB, 0x2CCB, 1), (0x2CCC, 0x2CCC, 0),
  (0x2CCD, 0x2CCD, 1), (0x2CCE, 0x2CCE, 0), (0x2CCF, 0x2CCF, 1), (0x2CD0, 0x2CD0, 0),
  (0x2CD1, 0x2CD1, 1), (0x2CD2, 0x2CD2, 0), (0x2CD3, 0x2CD3, 1), (0x2CD4, 0x2CD4, 0),
  (0x2CD5, 0x2CD5, 1), (0x2CD6, 0x2CD6, 0), (0x2CD7, 0x2CD7, 1), (0x2CD8, 0x2CD8, 0),
  (0x2CD9, 0x2CD9, 1), (0x2CDA, 0x2CDA, 0), (0x2CDB, 0x2CDB, 1), (0x2CDC, 0x2CDC, 0),
  (0x2CDD, 0x2CDD, 1), (0x2CDE, 0x2CDE, 0), (0x2CDF, 0x2CDF, 1), (0x2CE0, 0x2CE0, 0),
  (0x2CE1, 0x2CE1, 1), (0x2CE2, 0x2CE2, 0), (0x2CE3, 0x2CE4, 1), (0x2CE5, 0x2CEA, 21),
  (0x2CEB, 0x2CEB, 0), (0x2CEC, 0x2CEC, 1), (0x2CED, 0x2CED, 0), (0x2CEE, 0x2CEE, 1),
  (0x2CEF, 0x2CF1, 5), (0x2CF2, 0x2CF2, 0), (0x2CF3, 0x2CF3, 1), (0x2CF9, 0x2CFC, 17),
  (0x2CFD, 0x2CFD, 10), (0x2CFE, 0x2CFF, 17), (0x2D00, 0x2D25, 1), (0x2D27, 0x2D27, 1),
  (0x2D2D, 0x2D2D, 1), (0x2D30, 0x2D67, 4), (0x2D6F, 0x2D6F, 3), (0x2D70, 0x2D70, 17),
  (0x2D7F, 0x2D7F, 5), (0x2D80, 0x2D96, 4), (0x2DA0, 0x2DA6, 4), (0x2DA8, 0x2DAE, 4),
  (0x2DB0, 0x2DB6, 4), (0x2DB8, 0x2DBE, 4), (0x2DC0, 0x2DC6, 4), (0x2DC8, 0x2DCE, 4),
  (0x2DD0, 0x2DD6, 4), (0x2DD8, 0x2DDE, 4), (0x2DE0, 0x2DFF, 5), (0x2E00, 0x2E01, 17),
  (0x2E02, 0x2E02, 15), (0x2E03, 0x2E03, 16), (0x2E04, 0x2E04, 15), (0x2E05, 0x2E05, 16),
  (0x2E06, 0x2E08, 17), (0x2E09, 0x2E09, 15), (0x2E0A, 0x2E0A, 16), (0x2E0B, 0x2E0B, 17),
  (0x2E0C, 0x2E0C, 15), (0x2E0D, 0x2E0D, 16), (0x2E0E, 0x2E16, 17), (0x2E17, 0x2E17, 12),
  (0x2E18, 0x2E19, 17), (0x2E1A, 0x2E1A, 12), (0x2E1B, 0x2E1B, 17), (0x2E1C, 0x2E1C, 15),
  (0x2E1D, 0x2E1D, 16), (0x2E1E, 0x2E1F, 17), (0x2E20, 0x2E20, 15), (0x2E21, 0x2E21, 16),
  (0x2E22, 0x2E22, 13), (0x2E23, 0x2E23, 14), (0x2E24, 0x2E24, 13), (0x2E25, 0x2E25, 14),
  (0x2E26, 0x2E26, 13), (0x2E27, 0x2E27, 14), (0x2E28, 0x2E28, 13), (0x2E29, 0x2E29, 14),
  (0x2E2A, 0x2E2E, 17), (0x2E2F, 0x2E2F, 3), (0x2E30, 0x2E39, 17), (0x2E3A, 0x2E3B, 12),
  (0x2E3C, 0x2E3F, 17), (0x2E40, 0x2E40, 12), (0x2E41, 0x2E41, 17), (0x2E42, 0x2E42, 13),
  (0x2E43, 0x2E4F, 17), (0x2E50, 0x2E51, 21), (0x2E52, 0x2E54, 17), (0x2E55, 0x2E55, 13),
  (0x2E56, 0x2E56, 14), (0x2E57, 0x2E57, 13), (0x2E58, 0x2E58, 14), (0x2E59, 0x2E59, 13),
  (0x2E5A, 0x2E5A, 14), (0x2E5B, 0x2E5B, 13), (0x2E5C, 0x2E5C, 14), (0x2E5D, 0x2E5D, 12),
  (0x2E80, 0x2E99, 21), (0x2E9B, 0x2EF3, 21), (0x2F00, 0x2FD5, 21), (0x2FF0, 0x2FFF, 21),
  (0x3000, 0x3000, 22), (0x3001, 0x3003, 17), (0x3004, 0x3004, 21), (0x3005, 0x3005, 3),
  (0x3006, 0x3006, 4), (0x3007, 0x3007, 9), (0x3008, 0x3008, 13), (0x3009, 0x3009, 14),
  (0x300A, 0x300A, 13), (0x300B, 0x300B, 14), (0x300C, 0x300C, 13), (0x300D, 0x300D, 14),
  (0x300E, 0x300E, 13), (0x300F, 0x300F, 14), (0x3010, 0x3010, 13), (0x3011, 0x3011, 14),
  (0x3012, 0x3013, 21), (0x3014, 0x3014, 13), (0x3015, 0x3015, 14), (0x3016, 0x3016, 13),
  (0x3017, 0x3017, 14), (0x3018, 0x3018, 13), (0x3019, 0x3019, 14), (0x301A, 0x301A, 13),
  (0x301B, 0x301B, 14), (0x301C, 0x301C, 12), (0x301D, 0x301D, 13), (0x301E, 0x301F, 14),
  (0x3020, 0x3020, 21), (0x3021, 0x3029, 9), (0x302A, 0x302D, 5), (0x302E, 0x302F, 6)]

private def categoryRangesPart5 : TaggedRanges := #[
  (0x3030, 0x3030, 12), (0x3031, 0x3035, 3), (0x3036, 0x3037, 21), (0x3038, 0x303A, 9),
  (0x303B, 0x303B, 3), (0x303C, 0x303C, 4), (0x303D, 0x303D, 17), (0x303E, 0x303F, 21),
  (0x3041, 0x3096, 4), (0x3099, 0x309A, 5), (0x309B, 0x309C, 20), (0x309D, 0x309E, 3),
  (0x309F, 0x309F, 4), (0x30A0, 0x30A0, 12), (0x30A1, 0x30FA, 4), (0x30FB, 0x30FB, 17),
  (0x30FC, 0x30FE, 3), (0x30FF, 0x30FF, 4), (0x3105, 0x312F, 4), (0x3131, 0x318E, 4),
  (0x3190, 0x3191, 21), (0x3192, 0x3195, 10), (0x3196, 0x319F, 21), (0x31A0, 0x31BF, 4),
  (0x31C0, 0x31E5, 21), (0x31EF, 0x31EF, 21), (0x31F0, 0x31FF, 4), (0x3200, 0x321E, 21),
  (0x3220, 0x3229, 10), (0x322A, 0x3247, 21), (0x3248, 0x324F, 10), (0x3250, 0x3250, 21),
  (0x3251, 0x325F, 10), (0x3260, 0x327F, 21), (0x3280, 0x3289, 10), (0x328A, 0x32B0, 21),
  (0x32B1, 0x32BF, 10), (0x32C0, 0x33FF, 21), (0x3400, 0x4DBF, 4), (0x4DC0, 0x4DFF, 21),
  (0x4E00, 0xA014, 4), (0xA015, 0xA015, 3), (0xA016, 0xA48C, 4), (0xA490, 0xA4C6, 21),
  (0xA4D0, 0xA4F7, 4), (0xA4F8, 0xA4FD, 3), (0xA4FE, 0xA4FF, 17), (0xA500, 0xA60B, 4),
  (0xA60C, 0xA60C, 3), (0xA60D, 0xA60F, 17), (0xA610, 0xA61F, 4), (0xA620, 0xA629, 8),
  (0xA62A, 0xA62B, 4), (0xA640, 0xA640, 0), (0xA641, 0xA641, 1), (0xA642, 0xA642, 0),
  (0xA643, 0xA643, 1), (0xA644, 0xA644, 0), (0xA645, 0xA645, 1), (0xA646, 0xA646, 0),
  (0xA647, 0xA647, 1), (0xA648, 0xA648, 0), (0xA649, 0xA649, 1), (0xA64A, 0xA64A, 0),
  (0xA64B, 0xA64B, 1), (0xA64C, 0xA64C, 0), (0xA64D, 0xA64D, 1), (0xA64E, 0xA64E, 0),
  (0xA64F, 0xA64F, 1), (0xA650, 0xA650, 0), (0xA651, 0xA651, 1), (0xA652, 0xA652, 0),
  (0xA653, 0xA653, 1), (0xA654, 0xA654, 0), (0xA655, 0xA655, 1), (0xA656, 0xA656, 0),
  (0xA657, 0xA657, 1), (0xA658, 0xA658, 0), (0xA659, 0xA659, 1), (0xA65A, 0xA65A, 0),
  (0xA65B, 0xA65B, 1), (0xA65C, 0xA65C, 0), (0xA65D, 0xA65D, 1), (0xA65E, 0xA65E, 0),
  (0xA65F, 0xA65F, 1), (0xA660, 0xA660, 0), (0xA661, 0xA661, 1), (0xA662, 0xA662, 0),
  (0xA663, 0xA663, 1), (0xA664, 0xA664, 0), (0xA665, 0xA665, 1), (0xA666, 0xA666, 0),
  (0xA667, 0xA667, 1), (0xA668, 0xA668, 0), (0xA669, 0xA669, 1), (0xA66A, 0xA66A, 0),
  (0xA66B, 0xA66B, 1), (0xA66C, 0xA66C, 0), (0xA66D, 0xA66D, 1), (0xA66E, 0xA66E, 4),
  (0xA66F, 0xA66F, 5), (0xA670, 0xA672, 7), (0xA673, 0xA673, 17), (0xA674, 0xA67D, 5),
  (0xA67E, 0xA67E, 17), (0xA67F, 0xA67F, 3), (0xA680, 0xA680, 0), (0xA681, 0xA681, 1),
  (0xA682, 0xA682, 0), (0xA683, 0xA683, 1), (0xA684, 0xA684, 0), (0xA685, 0xA685, 1),
  (0xA686, 0xA686, 0), (0xA687, 0xA687, 1), (0xA688, 0xA688, 0), (0xA689, 0xA689, 1),
  (0xA68A, 0xA68A, 0), (0xA68B, 0xA68B, 1), (0xA68C, 0xA68C, 0), (0xA68D, 0xA68D, 1),
  (0xA68E, 0xA68E, 0), (0xA68F, 0xA68F, 1), (0xA690, 0xA690, 0), (0xA691, 0xA691, 1),
  (0xA692, 0xA692, 0), (0xA693, 0xA693, 1), (0xA694, 0xA694, 0), (0xA695, 0xA695, 1),
  (0xA696, 0xA696, 0), (0xA697, 0xA697, 1), (0xA698, 0xA698, 0), (0xA699, 0xA699, 1),
  (0xA69A, 0xA69A, 0), (0xA69B, 0xA69B, 1), (0xA69C, 0xA69D, 3), (0xA69E, 0xA69F, 5),
  (0xA6A0, 0xA6E5, 4), (0xA6E6, 0xA6EF, 9), (0xA6F0, 0xA6F1, 5), (0xA6F2, 0xA6F7, 17),
  (0xA700, 0xA716, 20), (0xA717, 0xA71F, 3), (0xA720, 0xA721, 20), (0xA722, 0xA722, 0),
  (0xA723, 0xA723, 1), (0xA724, 0xA724, 0), (0xA725, 0xA725, 1), (0xA726, 0xA726, 0),
  (0xA727, 0xA727, 1), (0xA728, 0xA728, 0), (0xA729, 0xA729, 1), (0xA72A, 0xA72A, 0),
  (0xA72B, 0xA72B, 1), (0xA72C, 0xA72C, 0), (0xA72D, 0xA72D, 1), (0xA72E, 0xA72E, 0),
  (0xA72F, 0xA731, 1), (0xA732, 0xA732, 0), (0xA733, 0xA733, 1), (0xA734, 0xA734, 0),
  (0xA735, 0xA735, 1), (0xA736, 0xA736, 0), (0xA737, 0xA737, 1), (0xA738, 0xA738, 0),
  (0xA739, 0xA739, 1), (0xA73A, 0xA73A, 0), (0xA73B, 0xA73B, 1), (0xA73C, 0xA73C, 0),
  (0xA73D, 0xA73D, 1), (0xA73E, 0xA73E, 0), (0xA73F, 0xA73F, 1), (0xA740, 0xA740, 0),
  (0xA741, 0xA741, 1), (0xA742, 0xA742, 0), (0xA743, 0xA743, 1), (0xA744, 0xA744, 0),
  (0xA745, 0xA745, 1), (0xA746, 0xA746, 0), (0xA747, 0xA747, 1), (0xA748, 0xA748, 0),
  (0xA749, 0xA749, 1), (0xA74A, 0xA74A, 0), (0xA74B, 0xA74B, 1), (0xA74C, 0xA74C, 0),
  (0xA74D, 0xA74D, 1), (0xA74E, 0xA74E, 0), (0xA74F, 0xA74F, 1), (0xA750, 0xA750, 0),
  (0xA751, 0xA751, 1), (0xA752, 0xA752, 0), (0xA753, 0xA753, 1), (0xA754, 0xA754, 0),
  (0xA755, 0xA755, 1), (0xA756, 0xA756, 0), (0xA757, 0xA757, 1), (0xA758, 0xA758, 0),
  (0xA759, 0xA759, 1), (0xA75A, 0xA75A, 0), (0xA75B, 0xA75B, 1), (0xA75C, 0xA75C, 0),
  (0xA75D, 0xA75D, 1), (0xA75E, 0xA75E, 0), (0xA75F, 0xA75F, 1), (0xA760, 0xA760, 0),
  (0xA761, 0xA761, 1), (0xA762, 0xA762, 0), (0xA763, 0xA763, 1), (0xA764, 0xA764, 0),
  (0xA765, 0xA765, 1), (0xA766, 0xA766, 0), (0xA767, 0xA767, 1), (0xA768, 0xA768, 0),
  (0xA769, 0xA769, 1), (0xA76A, 0xA76A, 0), (0xA76B, 0xA76B, 1), (0xA76C, 0xA76C, 0),
  (0xA76D, 0xA76D, 1), (0xA76E, 0xA76E, 0), (0xA76F, 0xA76F, 1), (0xA770, 0xA770, 3),
  (0xA771, 0xA778, 1), (0xA779, 0xA779, 0), (0xA77A, 0xA77A, 1), (0xA77B, 0xA77B, 0),
  (0xA77C, 0xA77C, 1), (0xA77D, 0xA77E, 0), (0xA77F, 0xA77F, 1), (0xA780, 0xA780, 0),
  (0xA781, 0xA781, 1), (0xA782, 0xA782, 0), (0xA783, 0xA783, 1), (0xA784, 0xA784, 0),
  (0xA785, 0xA785, 1), (0xA786, 0xA786, 0), (0xA787, 0xA787, 1), (0xA788, 0xA788, 3),
  (0xA789, 0xA78A, 20), (0xA78B, 0xA78B, 0), (0xA78C, 0xA78C, 1), (0xA78D, 0xA78D, 0),
  (0xA78E, 0xA78E, 1), (0xA78F, 0xA78F, 4), (0xA790, 0xA790, 0), (0xA791, 0xA791, 1),
  (0xA792, 0xA792, 0), (0xA793, 0xA795, 1), (0xA796, 0xA796, 0), (0xA797, 0xA797, 1),
  (0xA798, 0xA798, 0), (0xA799, 0xA799, 1), (0xA79A, 0xA79A, 0), (0xA79B, 0xA79B, 1),
  (0xA79C, 0xA79C, 0), (0xA79D, 0xA79D, 1), (0xA79E, 0xA79E, 0), (0xA79F, 0xA79F, 1),
  (0xA7A0, 0xA7A0, 0), (0xA7A1, 0xA7A1, 1), (0xA7A2, 0xA7A2, 0), (0xA7A3, 0xA7A3, 1),
  (0xA7A4, 0xA7A4, 0), (0xA7A5, 0xA7A5, 1), (0xA7A6, 0xA7A6, 0), (0xA7A7, 0xA7A7, 1),
  (0xA7A8, 0xA7A8, 0), (0xA7A9, 0xA7A9, 1), (0xA7AA, 0xA7AE, 0), (0xA7AF, 0xA7AF, 1),
  (0xA7B0, 0xA7B4, 0), (0xA7B5, 0xA7B5, 1), (0xA7B6, 0xA7B6, 0), (0xA7B7, 0xA7B7, 1),
  (0xA7B8, 0xA7B8, 0), (0xA7B9, 0xA7B9, 1), (0xA7BA, 0xA7BA, 0), (0xA7BB, 0xA7BB, 1),
  (0xA7BC, 0xA7BC, 0), (0xA7BD, 0xA7BD, 1), (0xA7BE, 0xA7BE, 0), (0xA7BF, 0xA7BF, 1),
  (0xA7C0, 0xA7C0, 0), (0xA7C1, 0xA7C1, 1), (0xA7C2, 0xA7C2, 0), (0xA7C3, 0xA7C3, 1),
  (0xA7C4, 0xA7C7, 0), (0xA7C8, 0xA7C8, 1), (0xA7C9, 0xA7C9, 0), (0xA7CA, 0xA7CA, 1),
  (0xA7CB, 0xA7CC, 0), (0xA7CD, 0xA7CD, 1), (0xA7D0, 0xA7D0, 0), (0xA7D1, 0xA7D1, 1),
  (0xA7D3, 0xA7D3, 1), (0xA7D5, 0xA7D5, 1), (0xA7D6, 0xA7D6, 0), (0xA7D7, 0xA7D7, 1),
  (0xA7D8, 0xA7D8, 0), (0xA7D9, 0xA7D9, 1), (0xA7DA, 0xA7DA, 0), (0xA7DB, 0xA7DB, 1),
  (0xA7DC, 0xA7DC, 0), (0xA7F2, 0xA7F4, 3), (0xA7F5, 0xA7F5, 0), (0xA7F6, 0xA7F6, 1),
  (0xA7F7, 0xA7F7, 4), (0xA7F8, 0xA7F9, 3), (0xA7FA, 0xA7FA, 1), (0xA7FB, 0xA801, 4),
  (0xA802, 0xA802, 5), (0xA803, 0xA805, 4), (0xA806, 0xA806, 5), (0xA807, 0xA80A, 4),
  (0xA80B, 0xA80B, 5), (0xA80C, 0xA822, 4), (0xA823, 0xA824, 6), (0xA825, 0xA826, 5),
  (0xA827, 0xA827, 6), (0xA828, 0xA82B, 21), (0xA82C, 0xA82C, 5), (0xA830, 0xA835, 10),
  (0xA836, 0xA837, 21), (0xA838, 0xA838, 19), (0xA839, 0xA839, 21), (0xA840, 0xA873, 4),
  (0xA874, 0xA877, 17), (0xA880, 0xA881, 6), (0xA882, 0xA8B3, 4), (0xA8B4, 0xA8C3, 6),
  (0xA8C4, 0xA8C5, 5), (0xA8CE, 0xA8CF, 17), (0xA8D0, 0xA8D9, 8), (0xA8E0, 0xA8F1, 5),
  (0xA8F2, 0xA8F7, 4), (0xA8F8, 0xA8FA, 17), (0xA8FB, 0xA8FB, 4), (0xA8FC, 0xA8FC, 17),
  (0xA8FD, 0xA8FE, 4), (0xA8FF, 0xA8FF, 5), (0xA900, 0xA909, 8), (0xA90A, 0xA925, 4),
  (0xA926, 0xA92D, 5), (0xA92E, 0xA92F, 17), (0xA930, 0xA946, 4), (0xA947, 0xA951, 5),
  (0xA952, 0xA953, 6), (0xA95F, 0xA95F, 17), (0xA960, 0xA97C, 4), (0xA980, 0xA982, 5),
  (0xA983, 0xA983, 6), (0xA984, 0xA9B2, 4), (0xA9B3, 0xA9B3, 5), (0xA9B4, 0xA9B5, 6),
  (0xA9B6, 0xA9B9, 5), (0xA9BA, 0xA9BB, 6), (0xA9BC, 0xA9BD, 5), (0xA9BE, 0xA9C0, 6),
  (0xA9C1, 0xA9CD, 17), (0xA9CF, 0xA9CF, 3), (0xA9D0, 0xA9D9, 8), (0xA9DE, 0xA9DF, 17),
  (0xA9E0, 0xA9E4, 4), (0xA9E5, 0xA9E5, 5), (0xA9E6, 0xA9E6, 3), (0xA9E7, 0xA9EF, 4),
  (0xA9F0, 0xA9F9, 8), (0xA9FA, 0xA9FE, 4), (0xAA00, 0xAA28, 4), (0xAA29, 0xAA2E, 5),
  (0xAA2F, 0xAA30, 6), (0xAA31, 0xAA32, 5), (0xAA33, 0xAA34, 6), (0xAA35, 0xAA36, 5),
  (0xAA40, 0xAA42, 4), (0xAA43, 0xAA43, 5), (0xAA44, 0xAA4B, 4), (0xAA4C, 0xAA4C, 5),
  (0xAA4D, 0xAA4D, 6), (0xAA50, 0xAA59, 8), (0xAA5C, 0xAA5F, 17), (0xAA60, 0xAA6F, 4),
  (0xAA70, 0xAA70, 3), (0xAA71, 0xAA76, 4), (0xAA77, 0xAA79, 21), (0xAA7A, 0xAA7A, 4),
  (0xAA7B, 0xAA7B, 6), (0xAA7C, 0xAA7C, 5), (0xAA7D, 0xAA7D, 6), (0xAA7E, 0xAAAF, 4),
  (0xAAB0, 0xAAB0, 5), (0xAAB1, 0xAAB1, 4), (0xAAB2, 0xAAB4, 5), (0xAAB5, 0xAAB6, 4),
  (0xAAB7, 0xAAB8, 5), (0xAAB9, 0xAABD, 4), (0xAABE, 0xAABF, 5), (0xAAC0, 0xAAC0, 4),
  (0xAAC1, 0xAAC1, 5), (0xAAC2, 0xAAC2, 4), (0xAADB, 0xAADC, 4), (0xAADD, 0xAADD, 3),
  (0xAADE, 0xAADF, 17), (0xAAE0, 0xAAEA, 4), (0xAAEB, 0xAAEB, 6), (0xAAEC, 0xAAED, 5),
  (0xAAEE, 0xAAEF, 6), (0xAAF0, 0xAAF1, 17), (0xAAF2, 0xAAF2, 4), (0xAAF3, 0xAAF4, 3),
  (0xAAF5, 0xAAF5, 6), (0xAAF6, 0xAAF6, 5), (0xAB01, 0xAB06, 4), (0xAB09, 0xAB0E, 4),
  (0xAB11, 0xAB16, 4), (0xAB20, 0xAB26, 4), (0xAB28, 0xAB2E, 4), (0xAB30, 0xAB5A, 1),
  (0xAB5B, 0xAB5B, 20), (0xAB5C, 0xAB5F, 3), (0xAB60, 0xAB68, 1), (0xAB69, 0xAB69, 3),
  (0xAB6A, 0xAB6B, 20), (0xAB70, 0xABBF, 1), (0xABC0, 0xABE2, 4), (0xABE3, 0xABE4, 6),
  (0xABE5, 0xABE5, 5), (0xABE6, 0xABE7, 6), (0xABE8, 0xABE8, 5), (0xABE9, 0xABEA, 6),
  (0xABEB, 0xABEB, 17), (0xABEC, 0xABEC, 6), (0xABED, 0xABED, 5), (0xABF0, 0xABF9, 8),
  (0xAC00, 0xD7A3, 4), (0xD7B0, 0xD7C6, 4), (0xD7CB, 0xD7FB, 4), (0xD800, 0xDFFF, 27),
  (0xE000, 0xF8FF, 28), (0xF900, 0xFA6D, 4), (0xFA70, 0xFAD9, 4), (0xFB00, 0xFB06, 1),
  (0xFB13, 0xFB17, 1), (0xFB1D, 0xFB1D, 4), (0xFB1E, 0xFB1E, 5), (0xFB1F, 0xFB28, 4),
  (0xFB29, 0xFB29, 18), (0xFB2A, 0xFB36, 4), (0xFB38, 0xFB3C, 4), (0xFB3E, 0xFB3E, 4),
  (0xFB40, 0xFB41, 4), (0xFB43, 0xFB44, 4), (0xFB46, 0xFBB1, 4), (0xFBB2, 0xFBC2, 20),
  (0xFBD3, 0xFD3D, 4), (0xFD3E, 0xFD3E, 14), (0xFD3F, 0xFD3F, 13), (0xFD40, 0xFD4F, 21),
  (0xFD50, 0xFD8F, 4), (0xFD92, 0xFDC7, 4), (0xFDCF, 0xFDCF, 21), (0xFDF0, 0xFDFB, 4),
  (0xFDFC, 0xFDFC, 19), (0xFDFD, 0xFDFF, 21), (0xFE00, 0xFE0F, 5), (0xFE10, 0xFE16, 17),
  (0xFE17, 0xFE17, 13), (0xFE18, 0xFE18, 14), (0xFE19, 0xFE19, 17), (0xFE20, 0xFE2F, 5),
  (0xFE30, 0xFE30, 17), (0xFE31, 0xFE32, 12), (0xFE33, 0xFE34, 11), (0xFE35, 0xFE35, 13),
  (0xFE36, 0xFE36, 14), (0xFE37, 0xFE37, 13), (0xFE38, 0xFE38, 14), (0xFE39, 0xFE39, 13),
  (0xFE3A, 0xFE3A, 14), (0xFE3B, 0xFE3B, 13), (0xFE3C, 0xFE3C, 14), (0xFE3D, 0xFE3D, 13),
  (0xFE3E, 0xFE3E, 14), (0xFE3F, 0xFE3F, 13), (0xFE40, 0xFE40, 14), (0xFE41, 0xFE41, 13),
  (0xFE42, 0xFE42, 14), (0xFE43, 0xFE43, 13), (0xFE44, 0xFE44, 14), (0xFE45, 0xFE46, 17),
  (0xFE47, 0xFE47, 13), (0xFE48, 0xFE48, 14), (0xFE49, 0xFE4C, 17), (0xFE4D, 0xFE4F, 11),
  (0xFE50, 0xFE52, 17), (0xFE54, 0xFE57, 17), (0xFE58, 0xFE58, 12), (0xFE59, 0xFE59, 13),
  (0xFE5A, 0xFE5A, 14), (0xFE5B, 0xFE5B, 13), (0xFE5C, 0xFE5C, 14), (0xFE5D, 0xFE5D, 13)]

private def categoryRangesPart6 : TaggedRanges := #[
  (0xFE5E, 0xFE5E, 14), (0xFE5F, 0xFE61, 17), (0xFE62, 0xFE62, 18), (0xFE63, 0xFE63, 12),
  (0xFE64, 0xFE66, 18), (0xFE68, 0xFE68, 17), (0xFE69, 0xFE69, 19), (0xFE6A, 0xFE6B, 17),
  (0xFE70, 0xFE74, 4), (0xFE76, 0xFEFC, 4), (0xFEFF, 0xFEFF, 26), (0xFF01, 0xFF03, 17),
  (0xFF04, 0xFF04, 19), (0xFF05, 0xFF07, 17), (0xFF08, 0xFF08, 13), (0xFF09, 0xFF09, 14),
  (0xFF0A, 0xFF0A, 17), (0xFF0B, 0xFF0B, 18), (0xFF0C, 0xFF0C, 17), (0xFF0D, 0xFF0D, 12),
  (0xFF0E, 0xFF0F, 17), (0xFF10, 0xFF19, 8), (0xFF1A, 0xFF1B, 17), (0xFF1C, 0xFF1E, 18),
  (0xFF1F, 0xFF20, 17), (0xFF21, 0xFF3A, 0), (0xFF3B, 0xFF3B, 13), (0xFF3C, 0xFF3C, 17),
  (0xFF3D, 0xFF3D, 14), (0xFF3E, 0xFF3E, 20), (0xFF3F, 0xFF3F, 11), (0xFF40, 0xFF40, 20),
  (0xFF41, 0xFF5A, 1), (0xFF5B, 0xFF5B, 13), (0xFF5C, 0xFF5C, 18), (0xFF5D, 0xFF5D, 14),
  (0xFF5E, 0xFF5E, 18), (0xFF5F, 0xFF5F, 13), (0xFF60, 0xFF60, 14), (0xFF61, 0xFF61, 17),
  (0xFF62, 0xFF62, 13), (0xFF63, 0xFF63, 14), (0xFF64, 0xFF65, 17), (0xFF66, 0xFF6F, 4),
  (0xFF70, 0xFF70, 3), (0xFF71, 0xFF9D, 4), (0xFF9E, 0xFF9F, 3), (0xFFA0, 0xFFBE, 4),
  (0xFFC2, 0xFFC7, 4), (0xFFCA, 0xFFCF, 4), (0xFFD2, 0xFFD7, 4), (0xFFDA, 0xFFDC, 4),
  (0xFFE0, 0xFFE1, 19), (0xFFE2, 0xFFE2, 18), (0xFFE3, 0xFFE3, 20), (0xFFE4, 0xFFE4, 21),
  (0xFFE5, 0xFFE6, 19), (0xFFE8, 0xFFE8, 21), (0xFFE9, 0xFFEC, 18), (0xFFED, 0xFFEE, 21),
  (0xFFF9, 0xFFFB, 26), (0xFFFC, 0xFFFD, 21), (0x10000, 0x1000B, 4), (0x1000D, 0x10026, 4),
  (0x10028, 0x1003A, 4), (0x1003C, 0x1003D, 4), (0x1003F, 0x1004D, 4), (0x10050, 0x1005D, 4),
  (0x10080, 0x100FA, 4), (0x10100, 0x10102, 17), (0x10107, 0x10133, 10), (0x10137, 0x1013F, 21),
  (0x10140, 0x10174, 9), (0x10175, 0x10178, 10), (0x10179, 0x10189, 21), (0x1018A, 0x1018B, 10),
  (0x1018C, 0x1018E, 21), (0x10190, 0x1019C, 21), (0x101A0, 0x101A0, 21), (0x101D0, 0x101FC, 21),
  (0x101FD, 0x101FD, 5), (0x10280, 0x1029C, 4), (0x102A0, 0x102D0, 4), (0x102E0, 0x102E0, 5),
  (0x102E1, 0x102FB, 10), (0x10300, 0x1031F, 4), (0x10320, 0x10323, 10), (0x1032D, 0x10340, 4),
  (0x10341, 0x10341, 9), (0x10342, 0x10349, 4), (0x1034A, 0x1034A, 9), (0x10350, 0x10375, 4),
  (0x10376, 0x1037A, 5), (0x10380, 0x1039D, 4), (0x1039F, 0x1039F, 17), (0x103A0, 0x103C3, 4),
  (0x103C8, 0x103CF, 4), (0x103D0, 0x103D0, 17), (0x103D1, 0x103D5, 9), (0x10400, 0x10427, 0),
  (0x10428, 0x1044F, 1), (0x10450, 0x1049D, 4), (0x104A0, 0x104A9, 8), (0x104B0, 0x104D3, 0),
  (0x104D8, 0x104FB, 1), (0x10500, 0x10527, 4), (0x10530, 0x10563, 4), (0x1056F, 0x1056F, 17),
  (0x10570, 0x1057A, 0), (0x1057C, 0x1058A, 0), (0x1058C, 0x10592, 0), (0x10594, 0x10595, 0),
  (0x10597, 0x105A1, 1), (0x105A3, 0x105B1, 1), (0x105B3, 0x105B9, 1), (0x105BB, 0x105BC, 1),
  (0x105C0, 0x105F3, 4), (0x10600, 0x10736, 4), (0x10740, 0x10755, 4), (0x10760, 0x10767, 4),
  (0x10780, 0x10785, 3), (0x10787, 0x107B0, 3), (0x107B2, 0x107BA, 3), (0x10800, 0x10805, 4),
  (0x10808, 0x10808, 4), (0x1080A, 0x10835, 4), (0x10837, 0x10838, 4), (0x1083C, 0x1083C, 4),
  (0x1083F, 0x10855, 4), (0x10857, 0x10857, 17), (0x10858, 0x1085F, 10), (0x10860, 0x10876, 4),
  (0x10877, 0x10878, 21), (0x10879, 0x1087F, 10), (0x10880, 0x1089E, 4), (0x108A7, 0x108AF, 10),
  (0x108E0, 0x108F2, 4), (0x108F4, 0x108F5, 4), (0x108FB, 0x108FF, 10), (0x10900, 0x10915, 4),
  (0x10916, 0x1091B, 10), (0x1091F, 0x1091F, 17), (0x10920, 0x10939, 4), (0x1093F, 0x1093F, 17),
  (0x10980, 0x109B7, 4), (0x109BC, 0x109BD, 10), (0x109BE, 0x109BF, 4), (0x109C0, 0x109CF, 10),
  (0x109D2, 0x109FF, 10), (0x10A00, 0x10A00, 4), (0x10A01, 0x10A03, 5), (0x10A05, 0x10A06, 5),
  (0x10A0C, 0x10A0F, 5), (0x10A10, 0x10A13, 4), (0x10A15, 0x10A17, 4), (0x10A19, 0x10A35, 4),
  (0x10A38, 0x10A3A, 5), (0x10A3F, 0x10A3F, 5), (0x10A40, 0x10A48, 10), (0x10A50, 0x10A58, 17),
  (0x10A60, 0x10A7C, 4), (0x10A7D, 0x10A7E, 10), (0x10A7F, 0x10A7F, 17), (0x10A80, 0x10A9C, 4),
  (0x10A9D, 0x10A9F, 10), (0x10AC0, 0x10AC7, 4), (0x10AC8, 0x10AC8, 21), (0x10AC9, 0x10AE4, 4),
  (0x10AE5, 0x10AE6, 5), (0x10AEB, 0x10AEF, 10), (0x10AF0, 0x10AF6, 17), (0x10B00, 0x10B35, 4),
  (0x10B39, 0x10B3F, 17), (0x10B40, 0x10B55, 4), (0x10B58, 0x10B5F, 10), (0x10B60, 0x10B72, 4),
  (0x10B78, 0x10B7F, 10), (0x10B80, 0x10B91, 4), (0x10B99, 0x10B9C, 17), (0x10BA9, 0x10BAF, 10),
  (0x10C00, 0x10C48, 4), (0x10C80, 0x10CB2, 0), (0x10CC0, 0x10CF2, 1), (0x10CFA, 0x10CFF, 10),
  (0x10D00, 0x10D23, 4), (0x10D24, 0x10D27, 5), (0x10D30, 0x10D39, 8), (0x10D40, 0x10D49, 8),
  (0x10D4A, 0x10D4D, 4), (0x10D4E, 0x10D4E, 3), (0x10D4F, 0x10D4F, 4), (0x10D50, 0x10D65, 0),
  (0x10D69, 0x10D6D, 5), (0x10D6E, 0x10D6E, 12), (0x10D6F, 0x10D6F, 3), (0x10D70, 0x10D85, 1),
  (0x10D8E, 0x10D8F, 18), (0x10E60, 0x10E7E, 10), (0x10E80, 0x10EA9, 4), (0x10EAB, 0x10EAC, 5),
  (0x10EAD, 0x10EAD, 12), (0x10EB0, 0x10EB1, 4), (0x10EC2, 0x10EC4, 4), (0x10EFC, 0x10EFF, 5),
  (0x10F00, 0x10F1C, 4), (0x10F1D, 0x10F26, 10), (0x10F27, 0x10F27, 4), (0x10F30, 0x10F45, 4),
  (0x10F46, 0x10F50, 5), (0x10F51, 0x10F54, 10), (0x10F55, 0x10F59, 17), (0x10F70, 0x10F81, 4),
  (0x10F82, 0x10F85, 5), (0x10F86, 0x10F89, 17), (0x10FB0, 0x10FC4, 4), (0x10FC5, 0x10FCB, 10),
  (0x10FE0, 0x10FF6, 4), (0x11000, 0x11000, 6), (0x11001, 0x11001, 5), (0x11002, 0x11002, 6),
  (0x11003, 0x11037, 4), (0x11038, 0x11046, 5), (0x11047, 0x1104D, 17), (0x11052, 0x11065, 10),
  (0x11066, 0x1106F, 8), (0x11070, 0x11070, 5), (0x11071, 0x11072, 4), (0x11073, 0x11074, 5),
  (0x11075, 0x11075, 4), (0x1107F, 0x11081, 5), (0x11082, 0x11082, 6), (0x11083, 0x110AF, 4),
  (0x110B0, 0x110B2, 6), (0x110B3, 0x110B6, 5), (0x110B7, 0x110B8, 6), (0x110B9, 0x110BA, 5),
  (0x110BB, 0x110BC, 17), (0x110BD, 0x110BD, 26), (0x110BE, 0x110C1, 17), (0x110C2, 0x110C2, 5),
  (0x110CD, 0x110CD, 26), (0x110D0, 0x110E8, 4), (0x110F0, 0x110F9, 8), (0x11100, 0x11102, 5),
  (0x11103, 0x11126, 4), (0x11127, 0x1112B, 5), (0x1112C, 0x1112C, 6), (0x1112D, 0x11134, 5),
  (0x11136, 0x1113F, 8), (0x11140, 0x11143, 17), (0x11144, 0x11144, 4), (0x11145, 0x11146, 6),
  (0x11147, 0x11147, 4), (0x11150, 0x11172, 4), (0x11173, 0x11173, 5), (0x11174, 0x11175, 17),
  (0x11176, 0x11176, 4), (0x11180, 0x11181, 5), (0x11182, 0x11182, 6), (0x11183, 0x111B2, 4),
  (0x111B3, 0x111B5, 6), (0x111B6, 0x111BE, 5), (0x111BF, 0x111C0, 6), (0x111C1, 0x111C4, 4),
  (0x111C5, 0x111C8, 17), (0x111C9, 0x111CC, 5), (0x111CD, 0x111CD, 17), (0x111CE, 0x111CE, 6),
  (0x111CF, 0x111CF, 5), (0x111D0, 0x111D9, 8), (0x111DA, 0x111DA, 4), (0x111DB, 0x111DB, 17),
  (0x111DC, 0x111DC, 4), (0x111DD, 0x111DF, 17), (0x111E1, 0x111F4, 10), (0x11200, 0x11211, 4),
  (0x11213, 0x1122B, 4), (0x1122C, 0x1122E, 6), (0x1122F, 0x11231, 5), (0x11232, 0x11233, 6),
  (0x11234, 0x11234, 5), (0x11235, 0x11235, 6), (0x11236, 0x11237, 5), (0x11238, 0x1123D, 17),
  (0x1123E, 0x1123E, 5), (0x1123F, 0x11240, 4), (0x11241, 0x11241, 5), (0x11280, 0x11286, 4),
  (0x11288, 0x11288, 4), (0x1128A, 0x1128D, 4), (0x1128F, 0x1129D, 4), (0x1129F, 0x112A8, 4),
  (0x112A9, 0x112A9, 17), (0x112B0, 0x112DE, 4), (0x112DF, 0x112DF, 5), (0x112E0, 0x112E2, 6),
  (0x112E3, 0x112EA, 5), (0x112F0, 0x112F9, 8), (0x11300, 0x11301, 5), (0x11302, 0x11303, 6),
  (0x11305, 0x1130C, 4), (0x1130F, 0x11310, 4), (0x11313, 0x11328, 4), (0x1132A, 0x11330, 4),
  (0x11332, 0x11333, 4), (0x11335, 0x11339, 4), (0x1133B, 0x1133C, 5), (0x1133D, 0x1133D, 4),
  (0x1133E, 0x1133F, 6), (0x11340, 0x11340, 5), (0x11341, 0x11344, 6), (0x11347, 0x11348, 6),
  (0x1134B, 0x1134D, 6), (0x11350, 0x11350, 4), (0x11357, 0x11357, 6), (0x1135D, 0x11361, 4),
  (0x11362, 0x11363, 6), (0x11366, 0x1136C, 5), (0x11370, 0x11374, 5), (0x11380, 0x11389, 4),
  (0x1138B, 0x1138B, 4), (0x1138E, 0x1138E, 4), (0x11390, 0x113B5, 4), (0x113B7, 0x113B7, 4),
  (0x113B8, 0x113BA, 6), (0x113BB, 0x113C0, 5), (0x113C2, 0x113C2, 6), (0x113C5, 0x113C5, 6),
  (0x113C7, 0x113CA, 6), (0x113CC, 0x113CD, 6), (0x113CE, 0x113CE, 5), (0x113CF, 0x113CF, 6),
  (0x113D0, 0x113D0, 5), (0x113D1, 0x113D1, 4), (0x113D2, 0x113D2, 5), (0x113D3, 0x113D3, 4),
  (0x113D4, 0x113D5, 17), (0x113D7, 0x113D8, 17), (0x113E1, 0x113E2, 5), (0x11400, 0x11434, 4),
  (0x11435, 0x11437, 6), (0x11438, 0x1143F, 5), (0x11440, 0x11441, 6), (0x11442, 0x11444, 5),
  (0x11445, 0x11445, 6), (0x11446, 0x11446, 5), (0x11447, 0x1144A, 4), (0x1144B, 0x1144F, 17),
  (0x11450, 0x11459, 8), (0x1145A, 0x1145B, 17), (0x1145D, 0x1145D, 17), (0x1145E, 0x1145E, 5),
  (0x1145F, 0x11461, 4), (0x11480, 0x114AF, 4), (0x114B0, 0x114B2, 6), (0x114B3, 0x114B8, 5),
  (0x114B9, 0x114B9, 6), (0x114BA, 0x114BA, 5), (0x114BB, 0x114BE, 6), (0x114BF, 0x114C0, 5),
  (0x114C1, 0x114C1, 6), (0x114C2, 0x114C3, 5), (0x114C4, 0x114C5, 4), (0x114C6, 0x114C6, 17),
  (0x114C7, 0x114C7, 4), (0x114D0, 0x114D9, 8), (0x11580, 0x115AE, 4), (0x115AF, 0x115B1, 6),
  (0x115B2, 0x115B5, 5), (0x115B8, 0x115BB, 6), (0x115BC, 0x115BD, 5), (0x115BE, 0x115BE, 6),
  (0x115BF, 0x115C0, 5), (0x115C1, 0x115D7, 17), (0x115D8, 0x115DB, 4), (0x115DC, 0x115DD, 5),
  (0x11600, 0x1162F, 4), (0x11630, 0x11632, 6), (0x11633, 0x1163A, 5), (0x1163B, 0x1163C, 6),
  (0x1163D, 0x1163D, 5), (0x1163E, 0x1163E, 6), (0x1163F, 0x11640, 5), (0x11641, 0x11643, 17),
  (0x11644, 0x11644, 4), (0x11650, 0x11659, 8), (0x11660, 0x1166C, 17), (0x11680, 0x116AA, 4),
  (0x116AB, 0x116AB, 5), (0x116AC, 0x116AC, 6), (0x116AD, 0x116AD, 5), (0x116AE, 0x116AF, 6),
  (0x116B0, 0x116B5, 5), (0x116B6, 0x116B6, 6), (0x116B7, 0x116B7, 5), (0x116B8, 0x116B8, 4),
  (0x116B9, 0x116B9, 17), (0x116C0, 0x116C9, 8), (0x116D0, 0x116E3, 8), (0x11700, 0x1171A, 4),
  (0x1171D, 0x1171D, 5), (0x1171E, 0x1171E, 6), (0x1171F, 0x1171F, 5), (0x11720, 0x11721, 6),
  (0x11722, 0x11725, 5), (0x11726, 0x11726, 6), (0x11727, 0x1172B, 5), (0x11730, 0x11739, 8),
  (0x1173A, 0x1173B, 10), (0x1173C, 0x1173E, 17), (0x1173F, 0x1173F, 21), (0x11740, 0x11746, 4),
  (0x11800, 0x1182B, 4), (0x1182C, 0x1182E, 6), (0x1182F, 0x11837, 5), (0x11838, 0x11838, 6),
  (0x11839, 0x1183A, 5), (0x1183B, 0x1183B, 17), (0x118A0, 0x118BF, 0), (0x118C0, 0x118DF, 1),
  (0x118E0, 0x118E9, 8), (0x118EA, 0x118F2, 10), (0x118FF, 0x11906, 4), (0x11909, 0x11909, 4),
  (0x1190C, 0x11913, 4), (0x11915, 0x11916, 4), (0x11918, 0x1192F, 4), (0x11930, 0x11935, 6),
  (0x11937, 0x11938, 6), (0x1193B, 0x1193C, 5), (0x1193D, 0x1193D, 6), (0x1193E, 0x1193E, 5),
  (0x1193F, 0x1193F, 4), (0x11940, 0x11940, 6), (0x11941, 0x11941, 4), (0x11942, 0x11942, 6),
  (0x11943, 0x11943, 5), (0x11944, 0x11946, 17), (0x11950, 0x11959, 8), (0x119A0, 0x119A7, 4),
  (0x119AA, 0x119D0, 4), (0x119D1, 0x119D3, 6), (0x119D4, 0x119D7, 5), (0x119DA, 0x119DB, 5),
  (0x119DC, 0x119DF, 6), (0x119E0, 0x119E0, 5), (0x119E1, 0x119E1, 4), (0x119E2, 0x119E2, 17),
  (0x119E3, 0x119E3, 4), (0x119E4, 0x119E4, 6), (0x11A00, 0x11A00, 4), (0x11A01, 0x11A0A, 5),
  (0x11A0B, 0x11A32, 4), (0x11A33, 0x11A38, 5), (0x11A39, 0x11A39, 6), (0x11A3A, 0x11A3A, 4),
  (0x11A3B, 0x11A3E, 5), (0x11A3F, 0x11A46, 17), (0x11A47, 0x11A47, 5), (0x11A50, 0x11A50, 4),
  (0x11A51, 0x11A56, 5), (0x11A57, 0x11A58, 6), (0x11A59, 0x11A5B, 5), (0x11A5C, 0x11A89, 4),
  (0x11A8A, 0x11A96, 5), (0x11A97, 0x11A97, 6), (0x11A98, 0x11A99, 5), (0x11A9A, 0x11A9C, 17),
  (0x11A9D, 0x11A9D, 4), (0x11A9E, 0x11AA2, 17), (0x11AB0, 0x11AF8, 4), (0x11B00, 0x11B09, 17),
  (0x11BC0, 0x11BE0, 4), (0x11BE1, 0x11BE1, 17), (0x11BF0, 0x11BF9, 8), (0x11C00, 0x11C08, 4),
  (0x11C0A, 0x11C2E, 4), (0x11C2F, 0x11C2F, 6), (0x11C30, 0x11C36, 5), (0x11C38, 0x11C3D, 5),
  (0x11C3E, 0x11C3E, 6), (0x11C3F, 0x11C3F, 5), (0x11C40, 0x11C40, 4), (0x11C41, 0x11C45, 17),
  (0x11C50, 0x11C59, 8), (0x11C5A, 0x11C6C, 10), (0x11C70, 0x11C71, 17), (0x11C72, 0x11C8F, 4),
  (0x11C92, 0x11CA7, 5), (0x11CA9, 0x11CA9, 6), (0x11CAA, 0x11CB0, 5), (0x11CB1, 0x11CB1, 6),
  (0x11CB2, 0x11CB3, 5), (0x11CB4, 0x11CB4, 6), (0x11CB5, 0x11CB6, 5), (0x11D00, 0x11D06, 4),
  (0x11D08, 0x11D09, 4), (0x11D0B, 0x11D30, 4), (0x11D31, 0x11D36, 5), (0x11D3A, 0x11D3A, 5)]

private def categoryRangesPart7 : TaggedRanges := #[
  (0x11D3C, 0x11D3D, 5), (0x11D3F, 0x11D45, 5), (0x11D46, 0x11D46, 4), (0x11D47, 0x11D47, 5),
  (0x11D50, 0x11D59, 8), (0x11D60, 0x11D65, 4), (0x11D67, 0x11D68, 4), (0x11D6A, 0x11D89, 4),
  (0x11D8A, 0x11D8E, 6), (0x11D90, 0x11D91, 5), (0x11D93, 0x11D94, 6), (0x11D95, 0x11D95, 5),
  (0x11D96, 0x11D96, 6), (0x11D97, 0x11D97, 5), (0x11D98, 0x11D98, 4), (0x11DA0, 0x11DA9, 8),
  (0x11EE0, 0x11EF2, 4), (0x11EF3, 0x11EF4, 5), (0x11EF5, 0x11EF6, 6), (0x11EF7, 0x11EF8, 17),
  (0x11F00, 0x11F01, 5), (0x11F02, 0x11F02, 4), (0x11F03, 0x11F03, 6), (0x11F04, 0x11F10, 4),
  (0x11F12, 0x11F33, 4), (0x11F34, 0x11F35, 6), (0x11F36, 0x11F3A, 5), (0x11F3E, 0x11F3F, 6),
  (0x11F40, 0x11F40, 5), (0x11F41, 0x11F41, 6), (0x11F42, 0x11F42, 5), (0x11F43, 0x11F4F, 17),
  (0x11F50, 0x11F59, 8), (0x11F5A, 0x11F5A, 5), (0x11FB0, 0x11FB0, 4), (0x11FC0, 0x11FD4, 10),
  (0x11FD5, 0x11FDC, 21), (0x11FDD, 0x11FE0, 19), (0x11FE1, 0x11FF1, 21), (0x11FFF, 0x11FFF, 17),
  (0x12000, 0x12399, 4), (0x12400, 0x1246E, 9), (0x12470, 0x12474, 17), (0x12480, 0x12543, 4),
  (0x12F90, 0x12FF0, 4), (0x12FF1, 0x12FF2, 17), (0x13000, 0x1342F, 4), (0x13430, 0x1343F, 26),
  (0x13440, 0x13440, 5), (0x13441, 0x13446, 4), (0x13447, 0x13455, 5), (0x13460, 0x143FA, 4),
  (0x14400, 0x14646, 4), (0x16100, 0x1611D, 4), (0x1611E, 0x16129, 5), (0x1612A, 0x1612C, 6),
  (0x1612D, 0x1612F, 5), (0x16130, 0x16139, 8), (0x16800, 0x16A38, 4), (0x16A40, 0x16A5E, 4),
  (0x16A60, 0x16A69, 8), (0x16A6E, 0x16A6F, 17), (0x16A70, 0x16ABE, 4), (0x16AC0, 0x16AC9, 8),
  (0x16AD0, 0x16AED, 4), (0x16AF0, 0x16AF4, 5), (0x16AF5, 0x16AF5, 17), (0x16B00, 0x16B2F, 4),
  (0x16B30, 0x16B36, 5), (0x16B37, 0x16B3B, 17), (0x16B3C, 0x16B3F, 21), (0x16B40, 0x16B43, 3),
  (0x16B44, 0x16B44, 17), (0x16B45, 0x16B45, 21), (0x16B50, 0x16B59, 8), (0x16B5B, 0x16B61, 10),
  (0x16B63, 0x16B77, 4), (0x16B7D, 0x16B8F, 4), (0x16D40, 0x16D42, 3), (0x16D43, 0x16D6A, 4),
  (0x16D6B, 0x16D6C, 3), (0x16D6D, 0x16D6F, 17), (0x16D70, 0x16D79, 8), (0x16E40, 0x16E5F, 0),
  (0x16E60, 0x16E7F, 1), (0x16E80, 0x16E96, 10), (0x16E97, 0x16E9A, 17), (0x16F00, 0x16F4A, 4),
  (0x16F4F, 0x16F4F, 5), (0x16F50, 0x16F50, 4), (0x16F51, 0x16F87, 6), (0x16F8F, 0x16F92, 5),
  (0x16F93, 0x16F9F, 3), (0x16FE0, 0x16FE1, 3), (0x16FE2, 0x16FE2, 17), (0x16FE3, 0x16FE3, 3),
  (0x16FE4, 0x16FE4, 5), (0x16FF0, 0x16FF1, 6), (0x17000, 0x187F7, 4), (0x18800, 0x18CD5, 4),
  (0x18CFF, 0x18D08, 4), (0x1AFF0, 0x1AFF3, 3), (0x1AFF5, 0x1AFFB, 3), (0x1AFFD, 0x1AFFE, 3),
  (0x1B000, 0x1B122, 4), (0x1B132, 0x1B132, 4), (0x1B150, 0x1B152, 4), (0x1B155, 0x1B155, 4),
  (0x1B164, 0x1B167, 4), (0x1B170, 0x1B2FB, 4), (0x1BC00, 0x1BC6A, 4), (0x1BC70, 0x1BC7C, 4),
  (0x1BC80, 0x1BC88, 4), (0x1BC90, 0x1BC99, 4), (0x1BC9C, 0x1BC9C, 21), (0x1BC9D, 0x1BC9E, 5),
  (0x1BC9F, 0x1BC9F, 17), (0x1BCA0, 0x1BCA3, 26), (0x1CC00, 0x1CCEF, 21), (0x1CCF0, 0x1CCF9, 8),
  (0x1CD00, 0x1CEB3, 21), (0x1CF00, 0x1CF2D, 5), (0x1CF30, 0x1CF46, 5), (0x1CF50, 0x1CFC3, 21),
  (0x1D000, 0x1D0F5, 21), (0x1D100, 0x1D126, 21), (0x1D129, 0x1D164, 21), (0x1D165, 0x1D166, 6),
  (0x1D167, 0x1D169, 5), (0x1D16A, 0x1D16C, 21), (0x1D16D, 0x1D172, 6), (0x1D173, 0x1D17A, 26),
  (0x1D17B, 0x1D182, 5), (0x1D183, 0x1D184, 21), (0x1D185, 0x1D18B, 5), (0x1D18C, 0x1D1A9, 21),
  (0x1D1AA, 0x1D1AD, 5), (0x1D1AE, 0x1D1EA, 21), (0x1D200, 0x1D241, 21), (0x1D242, 0x1D244, 5),
  (0x1D245, 0x1D245, 21), (0x1D2C0, 0x1D2D3, 10), (0x1D2E0, 0x1D2F3, 10), (0x1D300, 0x1D356, 21),
  (0x1D360, 0x1D378, 10), (0x1D400, 0x1D419, 0), (0x1D41A, 0x1D433, 1), (0x1D434, 0x1D44D, 0),
  (0x1D44E, 0x1D454, 1), (0x1D456, 0x1D467, 1), (0x1D468, 0x1D481, 0), (0x1D482, 0x1D49B, 1),
  (0x1D49C, 0x1D49C, 0), (0x1D49E, 0x1D49F, 0), (0x1D4A2, 0x1D4A2, 0), (0x1D4A5, 0x1D4A6, 0),
  (0x1D4A9, 0x1D4AC, 0), (0x1D4AE, 0x1D4B5, 0), (0x1D4B6, 0x1D4B9, 1), (0x1D4BB, 0x1D4BB, 1),
  (0x1D4BD, 0x1D4C3, 1), (0x1D4C5, 0x1D4CF, 1), (0x1D4D0, 0x1D4E9, 0), (0x1D4EA, 0x1D503, 1),
  (0x1D504, 0x1D505, 0), (0x1D507, 0x1D50A, 0), (0x1D50D, 0x1D514, 0), (0x1D516, 0x1D51C, 0),
  (0x1D51E, 0x1D537, 1), (0x1D538, 0x1D539, 0), (0x1D53B, 0x1D53E, 0), (0x1D540, 0x1D544, 0),
  (0x1D546, 0x1D546, 0), (0x1D54A, 0x1D550, 0), (0x1D552, 0x1D56B, 1), (0x1D56C, 0x1D585, 0),
  (0x1D586, 0x1D59F, 1), (0x1D5A0, 0x1D5B9, 0), (0x1D5BA, 0x1D5D3, 1), (0x1D5D4, 0x1D5ED, 0),
  (0x1D5EE, 0x1D607, 1), (0x1D608, 0x1D621, 0), (0x1D622, 0x1D63B, 1), (0x1D63C, 0x1D655, 0),
  (0x1D656, 0x1D66F, 1), (0x1D670, 0x1D689, 0), (0x1D68A, 0x1D6A5, 1), (0x1D6A8, 0x1D6C0, 0),
  (0x1D6C1, 0x1D6C1, 18), (0x1D6C2, 0x1D6DA, 1), (0x1D6DB, 0x1D6DB, 18), (0x1D6DC, 0x1D6E1, 1),
  (0x1D6E2, 0x1D6FA, 0), (0x1D6FB, 0x1D6FB, 18), (0x1D6FC, 0x1D714, 1), (0x1D715, 0x1D715, 18),
  (0x1D716, 0x1D71B, 1), (0x1D71C, 0x1D734, 0), (0x1D735, 0x1D735, 18), (0x1D736, 0x1D74E, 1),
  (0x1D74F, 0x1D74F, 18), (0x1D750, 0x1D755, 1), (0x1D756, 0x1D76E, 0), (0x1D76F, 0x1D76F, 18),
  (0x1D770, 0x1D788, 1), (0x1D789, 0x1D789, 18), (0x1D78A, 0x1D78F, 1), (0x1D790, 0x1D7A8, 0),
  (0x1D7A9, 0x1D7A9, 18), (0x1D7AA, 0x1D7C2, 1), (0x1D7C3, 0x1D7C3, 18), (0x1D7C4, 0x1D7C9, 1),
  (0x1D7CA, 0x1D7CA, 0), (0x1D7CB, 0x1D7CB, 1), (0x1D7CE, 0x1D7FF, 8), (0x1D800, 0x1D9FF, 21),
  (0x1DA00, 0x1DA36, 5), (0x1DA37, 0x1DA3A, 21), (0x1DA3B, 0x1DA6C, 5), (0x1DA6D, 0x1DA74, 21),
  (0x1DA75, 0x1DA75, 5), (0x1DA76, 0x1DA83, 21), (0x1DA84, 0x1DA84, 5), (0x1DA85, 0x1DA86, 21),
  (0x1DA87, 0x1DA8B, 17), (0x1DA9B, 0x1DA9F, 5), (0x1DAA1, 0x1DAAF, 5), (0x1DF00, 0x1DF09, 1),
  (0x1DF0A, 0x1DF0A, 4), (0x1DF0B, 0x1DF1E, 1), (0x1DF25, 0x1DF2A, 1), (0x1E000, 0x1E006, 5),
  (0x1E008, 0x1E018, 5), (0x1E01B, 0x1E021, 5), (0x1E023, 0x1E024, 5), (0x1E026, 0x1E02A, 5),
  (0x1E030, 0x1E06D, 3), (0x1E08F, 0x1E08F, 5), (0x1E100, 0x1E12C, 4), (0x1E130, 0x1E136, 5),
  (0x1E137, 0x1E13D, 3), (0x1E140, 0x1E149, 8), (0x1E14E, 0x1E14E, 4), (0x1E14F, 0x1E14F, 21),
  (0x1E290, 0x1E2AD, 4), (0x1E2AE, 0x1E2AE, 5), (0x1E2C0, 0x1E2EB, 4), (0x1E2EC, 0x1E2EF, 5),
  (0x1E2F0, 0x1E2F9, 8), (0x1E2FF, 0x1E2FF, 19), (0x1E4D0, 0x1E4EA, 4), (0x1E4EB, 0x1E4EB, 3),
  (0x1E4EC, 0x1E4EF, 5), (0x1E4F0, 0x1E4F9, 8), (0x1E5D0, 0x1E5ED, 4), (0x1E5EE, 0x1E5EF, 5),
  (0x1E5F0, 0x1E5F0, 4), (0x1E5F1, 0x1E5FA, 8), (0x1E5FF, 0x1E5FF, 17), (0x1E7E0, 0x1E7E6, 4),
  (0x1E7E8, 0x1E7EB, 4), (0x1E7ED, 0x1E7EE, 4), (0x1E7F0, 0x1E7FE, 4), (0x1E800, 0x1E8C4, 4),
  (0x1E8C7, 0x1E8CF, 10), (0x1E8D0, 0x1E8D6, 5), (0x1E900, 0x1E921, 0), (0x1E922, 0x1E943, 1),
  (0x1E944, 0x1E94A, 5), (0x1E94B, 0x1E94B, 3), (0x1E950, 0x1E959, 8), (0x1E95E, 0x1E95F, 17),
  (0x1EC71, 0x1ECAB, 10), (0x1ECAC, 0x1ECAC, 21), (0x1ECAD, 0x1ECAF, 10), (0x1ECB0, 0x1ECB0, 19),
  (0x1ECB1, 0x1ECB4, 10), (0x1ED01, 0x1ED2D, 10), (0x1ED2E, 0x1ED2E, 21), (0x1ED2F, 0x1ED3D, 10),
  (0x1EE00, 0x1EE03, 4), (0x1EE05, 0x1EE1F, 4), (0x1EE21, 0x1EE22, 4), (0x1EE24, 0x1EE24, 4),
  (0x1EE27, 0x1EE27, 4), (0x1EE29, 0x1EE32, 4), (0x1EE34, 0x1EE37, 4), (0x1EE39, 0x1EE39, 4),
  (0x1EE3B, 0x1EE3B, 4), (0x1EE42, 0x1EE42, 4), (0x1EE47, 0x1EE47, 4), (0x1EE49, 0x1EE49, 4),
  (0x1EE4B, 0x1EE4B, 4), (0x1EE4D, 0x1EE4F, 4), (0x1EE51, 0x1EE52, 4), (0x1EE54, 0x1EE54, 4),
  (0x1EE57, 0x1EE57, 4), (0x1EE59, 0x1EE59, 4), (0x1EE5B, 0x1EE5B, 4), (0x1EE5D, 0x1EE5D, 4),
  (0x1EE5F, 0x1EE5F, 4), (0x1EE61, 0x1EE62, 4), (0x1EE64, 0x1EE64, 4), (0x1EE67, 0x1EE6A, 4),
  (0x1EE6C, 0x1EE72, 4), (0x1EE74, 0x1EE77, 4), (0x1EE79, 0x1EE7C, 4), (0x1EE7E, 0x1EE7E, 4),
  (0x1EE80, 0x1EE89, 4), (0x1EE8B, 0x1EE9B, 4), (0x1EEA1, 0x1EEA3, 4), (0x1EEA5, 0x1EEA9, 4),
  (0x1EEAB, 0x1EEBB, 4), (0x1EEF0, 0x1EEF1, 18), (0x1F000, 0x1F02B, 21), (0x1F030, 0x1F093, 21),
  (0x1F0A0, 0x1F0AE, 21), (0x1F0B1, 0x1F0BF, 21), (0x1F0C1, 0x1F0CF, 21), (0x1F0D1, 0x1F0F5, 21),
  (0x1F100, 0x1F10C, 10), (0x1F10D, 0x1F1AD, 21), (0x1F1E6, 0x1F202, 21), (0x1F210, 0x1F23B, 21),
  (0x1F240, 0x1F248, 21), (0x1F250, 0x1F251, 21), (0x1F260, 0x1F265, 21), (0x1F300, 0x1F3FA, 21),
  (0x1F3FB, 0x1F3FF, 20), (0x1F400, 0x1F6D7, 21), (0x1F6DC, 0x1F6EC, 21), (0x1F6F0, 0x1F6FC, 21),
  (0x1F700, 0x1F776, 21), (0x1F77B, 0x1F7D9, 21), (0x1F7E0, 0x1F7EB, 21), (0x1F7F0, 0x1F7F0, 21),
  (0x1F800, 0x1F80B, 21), (0x1F810, 0x1F847, 21), (0x1F850, 0x1F859, 21), (0x1F860, 0x1F887, 21),
  (0x1F890, 0x1F8AD, 21), (0x1F8B0, 0x1F8BB, 21), (0x1F8C0, 0x1F8C1, 21), (0x1F900, 0x1FA53, 21),
  (0x1FA60, 0x1FA6D, 21), (0x1FA70, 0x1FA7C, 21), (0x1FA80, 0x1FA89, 21), (0x1FA8F, 0x1FAC6, 21),
  (0x1FACE, 0x1FADC, 21), (0x1FADF, 0x1FAE9, 21), (0x1FAF0, 0x1FAF8, 21), (0x1FB00, 0x1FB92, 21),
  (0x1FB94, 0x1FBEF, 21), (0x1FBF0, 0x1FBF9, 8), (0x1FBFA, 0x1FBFA, 21), (0x20000, 0x2A6DF, 4),
  (0x2A700, 0x2B739, 4), (0x2B740, 0x2B81D, 4), (0x2B820, 0x2CEA1, 4), (0x2CEB0, 0x2EBE0, 4),
  (0x2EBF0, 0x2EE5D, 4), (0x2F800, 0x2FA1D, 4), (0x30000, 0x3134A, 4), (0x31350, 0x323AF, 4),
  (0xE0001, 0xE0001, 26), (0xE0020, 0xE007F, 26), (0xE0100, 0xE01EF, 5), (0xF0000, 0xFFFFD, 28),
  (0x100000, 0x10FFFD, 28)]

/-- Ranges of code points with the index of their category in `categoryNames`, sorted. -/
def categoryRanges : TaggedRanges :=
  categoryRangesPart1 ++ categoryRangesPart2 ++ categoryRangesPart3 ++ categoryRangesPart4 ++ categoryRangesPart5 ++ categoryRangesPart6 ++ categoryRangesPart7

/-- Every name of a category, in loose form (lower case, no blanks, `_` or `-`), with its index. -/
def categoryAliases : Array (String × Nat) := #[
  ("lu", 0), ("uppercaseletter", 0), ("ll", 1), ("lowercaseletter", 1), ("lt", 2),
  ("titlecaseletter", 2), ("lm", 3), ("modifierletter", 3), ("lo", 4), ("otherletter", 4),
  ("mn", 5), ("nonspacingmark", 5), ("mc", 6), ("spacingmark", 6), ("me", 7), ("enclosingmark", 7),
  ("nd", 8), ("decimalnumber", 8), ("digit", 8), ("nl", 9), ("letternumber", 9), ("no", 10),
  ("othernumber", 10), ("pc", 11), ("connectorpunctuation", 11), ("pd", 12),
  ("dashpunctuation", 12), ("ps", 13), ("openpunctuation", 13), ("pe", 14),
  ("closepunctuation", 14), ("pi", 15), ("initialpunctuation", 15), ("pf", 16),
  ("finalpunctuation", 16), ("po", 17), ("otherpunctuation", 17), ("sm", 18), ("mathsymbol", 18),
  ("sc", 19), ("currencysymbol", 19), ("sk", 20), ("modifiersymbol", 20), ("so", 21),
  ("othersymbol", 21), ("zs", 22), ("spaceseparator", 22), ("zl", 23), ("lineseparator", 23),
  ("zp", 24), ("paragraphseparator", 24), ("cc", 25), ("control", 25), ("cntrl", 25), ("cf", 26),
  ("format", 26), ("cs", 27), ("surrogate", 27), ("co", 28), ("privateuse", 28)]

def categorySet (i : Nat) : RangeTable :=
  TaggedRanges.select categoryRanges i

end ScimFilter.Text
