import ScimFilter.Text.Ranges
/-!
The `Sentence_Break` property of the Unicode Character Database, version 16.0: the class of
each character in the rules that split text into sentences.
-/

namespace ScimFilter.Text

/-- The values with characters, in table order; `Other`, the value of every character not
listed, names no class. -/
def sentenceBreakNames : Array String := #[
  "ATerm", "CR", "Close", "Extend", "Format", "LF", "Lower", "Numeric", "OLetter", "SContinue",
  "STerm", "Sep", "Sp", "Upper"]

private def sentenceBreakRangesPart1 : TaggedRanges := #[
  (0x9, 0x9, 12), (0xA, 0xA, 5), (0xB, 0xC, 12), (0xD, 0xD, 1), (0x20, 0x20, 12), (0x21, 0x21, 10),
  (0x22, 0x22, 2), (0x27, 0x29, 2), (0x2C, 0x2D, 9), (0x2E, 0x2E, 0), (0x30, 0x39, 7),
  (0x3A, 0x3A, 9), (0x3F, 0x3F, 10), (0x41, 0x5A, 13), (0x5B, 0x5B, 2), (0x5D, 0x5D, 2),
  (0x61, 0x7A, 6), (0x7B, 0x7B, 2), (0x7D, 0x7D, 2), (0x85, 0x85, 11), (0xA0, 0xA0, 12),
  (0xAA, 0xAA, 6), (0xAB, 0xAB, 2), (0xAD, 0xAD, 4), (0xB5, 0xB5, 6), (0xBA, 0xBA, 6),
  (0xBB, 0xBB, 2), (0xC0, 0xD6, 13), (0xD8, 0xDE, 13), (0xDF, 0xF6, 6), (0xF8, 0xFF, 6),
  (0x100, 0x100, 13), (0x101, 0x101, 6), (0x102, 0x102, 13), (0x103, 0x103, 6), (0x104, 0x104, 13),
  (0x105, 0x105, 6), (0x106, 0x106, 13), (0x107, 0x107, 6), (0x108, 0x108, 13), (0x109, 0x109, 6),
  (0x10A, 0x10A, 13), (0x10B, 0x10B, 6), (0x10C, 0x10C, 13), (0x10D, 0x10D, 6), (0x10E, 0x10E, 13),
  (0x10F, 0x10F, 6), (0x110, 0x110, 13), (0x111, 0x111, 6), (0x112, 0x112, 13), (0x113, 0x113, 6),
  (0x114, 0x114, 13), (0x115, 0x115, 6), (0x116, 0x116, 13), (0x117, 0x117, 6), (0x118, 0x118, 13),
  (0x119, 0x119, 6), (0x11A, 0x11A, 13), (0x11B, 0x11B, 6), (0x11C, 0x11C, 13), (0x11D, 0x11D, 6),
  (0x11E, 0x11E, 13), (0x11F, 0x11F, 6), (0x120, 0x120, 13), (0x121, 0x121, 6), (0x122, 0x122, 13),
  (0x123, 0x123, 6), (0x124, 0x124, 13), (0x125, 0x125, 6), (0x126, 0x126, 13), (0x127, 0x127, 6),
  (0x128, 0x128, 13), (0x129, 0x129, 6), (0x12A, 0x12A, 13), (0x12B, 0x12B, 6), (0x12C, 0x12C, 13),
  (0x12D, 0x12D, 6), (0x12E, 0x12E, 13), (0x12F, 0x12F, 6), (0x130, 0x130, 13), (0x131, 0x131, 6),
  (0x132, 0x132, 13), (0x133, 0x133, 6), (0x134, 0x134, 13), (0x135, 0x135, 6), (0x136, 0x136, 13),
  (0x137, 0x138, 6), (0x139, 0x139, 13), (0x13A, 0x13A, 6), (0x13B, 0x13B, 13), (0x13C, 0x13C, 6),
  (0x13D, 0x13D, 13), (0x13E, 0x13E, 6), (0x13F, 0x13F, 13), (0x140, 0x140, 6), (0x141, 0x141, 13),
  (0x142, 0x142, 6), (0x143, 0x143, 13), (0x144, 0x144, 6), (0x145, 0x145, 13), (0x146, 0x146, 6),
  (0x147, 0x147, 13), (0x148, 0x149, 6), (0x14A, 0x14A, 13), (0x14B, 0x14B, 6), (0x14C, 0x14C, 13),
  (0x14D, 0x14D, 6), (0x14E, 0x14E, 13), (0x14F, 0x14F, 6), (0x150, 0x150, 13), (0x151, 0x151, 6),
  (0x152, 0x152, 13), (0x153, 0x153, 6), (0x154, 0x154, 13), (0x155, 0x155, 6), (0x156, 0x156, 13),
  (0x157, 0x157, 6), (0x158, 0x158, 13), (0x159, 0x159, 6), (0x15A, 0x15A, 13), (0x15B, 0x15B, 6),
  (0x15C, 0x15C, 13), (0x15D, 0x15D, 6), (0x15E, 0x15E, 13), (0x15F, 0x15F, 6), (0x160, 0x160, 13),
  (0x161, 0x161, 6), (0x162, 0x162, 13), (0x163, 0x163, 6), (0x164, 0x164, 13), (0x165, 0x165, 6),
  (0x166, 0x166, 13), (0x167, 0x167, 6), (0x168, 0x168, 13), (0x169, 0x169, 6), (0x16A, 0x16A, 13),
  (0x16B, 0x16B, 6), (0x16C, 0x16C, 13), (0x16D, 0x16D, 6), (0x16E, 0x16E, 13), (0x16F, 0x16F, 6),
  (0x170, 0x170, 13), (0x171, 0x171, 6), (0x172, 0x172, 13), (0x173, 0x173, 6), (0x174, 0x174, 13),
  (0x175, 0x175, 6), (0x176, 0x176, 13), (0x177, 0x177, 6), (0x178, 0x179, 13), (0x17A, 0x17A, 6),
  (0x17B, 0x17B, 13), (0x17C, 0x17C, 6), (0x17D, 0x17D, 13), (0x17E, 0x180, 6), (0x181, 0x182, 13),
  (0x183, 0x183, 6), (0x184, 0x184, 13), (0x185, 0x185, 6), (0x186, 0x187, 13), (0x188, 0x188, 6),
  (0x189, 0x18B, 13), (0x18C, 0x18D, 6), (0x18E, 0x191, 13), (0x192, 0x192, 6), (0x193, 0x194, 13),
  (0x195, 0x195, 6), (0x196, 0x198, 13), (0x199, 0x19B, 6), (0x19C, 0x19D, 13), (0x19E, 0x19E, 6),
  (0x19F, 0x1A0, 13), (0x1A1, 0x1A1, 6), (0x1A2, 0x1A2, 13), (0x1A3, 0x1A3, 6), (0x1A4, 0x1A4, 13),
  (0x1A5, 0x1A5, 6), (0x1A6, 0x1A7, 13), (0x1A8, 0x1A8, 6), (0x1A9, 0x1A9, 13), (0x1AA, 0x1AB, 6),
  (0x1AC, 0x1AC, 13), (0x1AD, 0x1AD, 6), (0x1AE, 0x1AF, 13), (0x1B0, 0x1B0, 6), (0x1B1, 0x1B3, 13),
  (0x1B4, 0x1B4, 6), (0x1B5, 0x1B5, 13), (0x1B6, 0x1B6, 6), (0x1B7, 0x1B8, 13), (0x1B9, 0x1BA, 6),
  (0x1BB, 0x1BB, 8), (0x1BC, 0x1BC, 13), (0x1BD, 0x1BF, 6), (0x1C0, 0x1C3, 8), (0x1C4, 0x1C5, 13),
  (0x1C6, 0x1C6, 6), (0x1C7, 0x1C8, 13), (0x1C9, 0x1C9, 6), (0x1CA, 0x1CB, 13), (0x1CC, 0x1CC, 6),
  (0x1CD, 0x1CD, 13), (0x1CE, 0x1CE, 6), (0x1CF, 0x1CF, 13), (0x1D0, 0x1D0, 6), (0x1D1, 0x1D1, 13),
  (0x1D2, 0x1D2, 6), (0x1D3, 0x1D3, 13), (0x1D4, 0x1D4, 6), (0x1D5, 0x1D5, 13), (0x1D6, 0x1D6, 6),
  (0x1D7, 0x1D7, 13), (0x1D8, 0x1D8, 6), (0x1D9, 0x1D9, 13), (0x1DA, 0x1DA, 6), (0x1DB, 0x1DB, 13),
  (0x1DC, 0x1DD, 6), (0x1DE, 0x1DE, 13), (0x1DF, 0x1DF, 6), (0x1E0, 0x1E0, 13), (0x1E1, 0x1E1, 6),
  (0x1E2, 0x1E2, 13), (0x1E3, 0x1E3, 6), (0x1E4, 0x1E4, 13), (0x1E5, 0x1E5, 6), (0x1E6, 0x1E6, 13),
  (0x1E7, 0x1E7, 6), (0x1E8, 0x1E8, 13), (0x1E9, 0x1E9, 6), (0x1EA, 0x1EA, 13), (0x1EB, 0x1EB, 6),
  (0x1EC, 0x1EC, 13), (0x1ED, 0x1ED, 6), (0x1EE, 0x1EE, 13), (0x1EF, 0x1F0, 6), (0x1F1, 0x1F2, 13),
  (0x1F3, 0x1F3, 6), (0x1F4, 0x1F4, 13), (0x1F5, 0x1F5, 6), (0x1F6, 0x1F8, 13), (0x1F9, 0x1F9, 6),
  (0x1FA, 0x1FA, 13), (0x1FB, 0x1FB, 6), (0x1FC, 0x1FC, 13), (0x1FD, 0x1FD, 6), (0x1FE, 0x1FE, 13),
  (0x1FF, 0x1FF, 6), (0x200, 0x200, 13), (0x201, 0x201, 6), (0x202, 0x202, 13), (0x203, 0x203, 6),
  (0x204, 0x204, 13), (0x205, 0x205, 6), (0x206, 0x206, 13), (0x207, 0x207, 6), (0x208, 0x208, 13),
  (0x209, 0x209, 6), (0x20A, 0x20A, 13), (0x20B, 0x20B, 6), (0x20C, 0x20C, 13), (0x20D, 0x20D, 6),
  (0x20E, 0x20E, 13), (0x20F, 0x20F, 6), (0x210, 0x210, 13), (0x211, 0x211, 6), (0x212, 0x212, 13),
  (0x213, 0x213, 6), (0x214, 0x214, 13), (0x215, 0x215, 6), (0x216, 0x216, 13), (0x217, 0x217, 6),
  (0x218, 0x218, 13), (0x219, 0x219, 6), (0x21A, 0x21A, 13), (0x21B, 0x21B, 6), (0x21C, 0x21C, 13),
  (0x21D, 0x21D, 6), (0x21E, 0x21E, 13), (0x21F, 0x21F, 6), (0x220, 0x220, 13), (0x221, 0x221, 6),
  (0x222, 0x222, 13), (0x223, 0x223, 6), (0x224, 0x224, 13), (0x225, 0x225, 6), (0x226, 0x226, 13),
  (0x227, 0x227, 6), (0x228, 0x228, 13), (0x229, 0x229, 6), (0x22A, 0x22A, 13), (0x22B, 0x22B, 6),
  (0x22C, 0x22C, 13), (0x22D, 0x22D, 6), (0x22E, 0x22E, 13), (0x22F, 0x22F, 6), (0x230, 0x230, 13),
  (0x231, 0x231, 6), (0x232, 0x232, 13), (0x233, 0x239, 6), (0x23A, 0x23B, 13), (0x23C, 0x23C, 6),
  (0x23D, 0x23E, 13), (0x23F, 0x240, 6), (0x241, 0x241, 13), (0x242, 0x242, 6), (0x243, 0x246, 13),
  (0x247, 0x247, 6), (0x248, 0x248, 13), (0x249, 0x249, 6), (0x24A, 0x24A, 13), (0x24B, 0x24B, 6),
  (0x24C, 0x24C, 13), (0x24D, 0x24D, 6), (0x24E, 0x24E, 13), (0x24F, 0x293, 6), (0x294, 0x294, 8),
  (0x295, 0x2B8, 6), (0x2B9, 0x2BF, 8), (0x2C0, 0x2C1, 6), (0x2C6, 0x2D1, 8), (0x2E0, 0x2E4, 6),
  (0x2EC, 0x2EC, 8), (0x2EE, 0x2EE, 8), (0x300, 0x36F, 3), (0x370, 0x370, 13), (0x371, 0x371, 6),
  (0x372, 0x372, 13), (0x373, 0x373, 6), (0x374, 0x374, 8), (0x376, 0x376, 13), (0x377, 0x377, 6),
  (0x37A, 0x37D, 6), (0x37F, 0x37F, 13), (0x386, 0x386, 13), (0x388, 0x38A, 13), (0x38C, 0x38C, 13),
  (0x38E, 0x38F, 13), (0x390, 0x390, 6), (0x391, 0x3A1, 13), (0x3A3, 0x3AB, 13), (0x3AC, 0x3CE, 6),
  (0x3CF, 0x3CF, 13), (0x3D0, 0x3D1, 6), (0x3D2, 0x3D4, 13), (0x3D5, 0x3D7, 6), (0x3D8, 0x3D8, 13),
  (0x3D9, 0x3D9, 6), (0x3DA, 0x3DA, 13), (0x3DB, 0x3DB, 6), (0x3DC, 0x3DC, 13), (0x3DD, 0x3DD, 6),
  (0x3DE, 0x3DE, 13), (0x3DF, 0x3DF, 6), (0x3E0, 0x3E0, 13), (0x3E1, 0x3E1, 6), (0x3E2, 0x3E2, 13),
  (0x3E3, 0x3E3, 6), (0x3E4, 0x3E4, 13), (0x3E5, 0x3E5, 6), (0x3E6, 0x3E6, 13), (0x3E7, 0x3E7, 6),
  (0x3E8, 0x3E8, 13), (0x3E9, 0x3E9, 6), (0x3EA, 0x3EA, 13), (0x3EB, 0x3EB, 6), (0x3EC, 0x3EC, 13),
  (0x3ED, 0x3ED, 6), (0x3EE, 0x3EE, 13), (0x3EF, 0x3F3, 6), (0x3F4, 0x3F4, 13), (0x3F5, 0x3F5, 6),
  (0x3F7, 0x3F7, 13), (0x3F8, 0x3F8, 6), (0x3F9, 0x3FA, 13), (0x3FB, 0x3FC, 6), (0x3FD, 0x42F, 13),
  (0x430, 0x45F, 6), (0x460, 0x460, 13), (0x461, 0x461, 6), (0x462, 0x462, 13), (0x463, 0x463, 6),
  (0x464, 0x464, 13), (0x465, 0x465, 6), (0x466, 0x466, 13), (0x467, 0x467, 6), (0x468, 0x468, 13),
  (0x469, 0x469, 6), (0x46A, 0x46A, 13), (0x46B, 0x46B, 6), (0x46C, 0x46C, 13), (0x46D, 0x46D, 6),
  (0x46E, 0x46E, 13), (0x46F, 0x46F, 6), (0x470, 0x470, 13), (0x471, 0x471, 6), (0x472, 0x472, 13),
  (0x473, 0x473, 6), (0x474, 0x474, 13), (0x475, 0x475, 6), (0x476, 0x476, 13), (0x477, 0x477, 6),
  (0x478, 0x478, 13), (0x479, 0x479, 6), (0x47A, 0x47A, 13), (0x47B, 0x47B, 6), (0x47C, 0x47C, 13),
  (0x47D, 0x47D, 6), (0x47E, 0x47E, 13), (0x47F, 0x47F, 6), (0x480, 0x480, 13), (0x481, 0x481, 6),
  (0x483, 0x489, 3), (0x48A, 0x48A, 13), (0x48B, 0x48B, 6), (0x48C, 0x48C, 13), (0x48D, 0x48D, 6),
  (0x48E, 0x48E, 13), (0x48F, 0x48F, 6), (0x490, 0x490, 13), (0x491, 0x491, 6), (0x492, 0x492, 13),
  (0x493, 0x493, 6), (0x494, 0x494, 13), (0x495, 0x495, 6), (0x496, 0x496, 13), (0x497, 0x497, 6),
  (0x498, 0x498, 13), (0x499, 0x499, 6), (0x49A, 0x49A, 13), (0x49B, 0x49B, 6), (0x49C, 0x49C, 13),
  (0x49D, 0x49D, 6), (0x49E, 0x49E, 13), (0x49F, 0x49F, 6), (0x4A0, 0x4A0, 13), (0x4A1, 0x4A1, 6),
  (0x4A2, 0x4A2, 13), (0x4A3, 0x4A3, 6), (0x4A4, 0x4A4, 13), (0x4A5, 0x4A5, 6), (0x4A6, 0x4A6, 13),
  (0x4A7, 0x4A7, 6), (0x4A8, 0x4A8, 13), (0x4A9, 0x4A9, 6), (0x4AA, 0x4AA, 13), (0x4AB, 0x4AB, 6),
  (0x4AC, 0x4AC, 13), (0x4AD, 0x4AD, 6), (0x4AE, 0x4AE, 13), (0x4AF, 0x4AF, 6), (0x4B0, 0x4B0, 13),
  (0x4B1, 0x4B1, 6), (0x4B2, 0x4B2, 13), (0x4B3, 0x4B3, 6), (0x4B4, 0x4B4, 13), (0x4B5, 0x4B5, 6),
  (0x4B6, 0x4B6, 13), (0x4B7, 0x4B7, 6), (0x4B8, 0x4B8, 13), (0x4B9, 0x4B9, 6), (0x4BA, 0x4BA, 13),
  (0x4BB, 0x4BB, 6), (0x4BC, 0x4BC, 13), (0x4BD, 0x4BD, 6), (0x4BE, 0x4BE, 13), (0x4BF, 0x4BF, 6),
  (0x4C0, 0x4C1, 13), (0x4C2, 0x4C2, 6), (0x4C3, 0x4C3, 13), (0x4C4, 0x4C4, 6), (0x4C5, 0x4C5, 13),
  (0x4C6, 0x4C6, 6), (0x4C7, 0x4C7, 13), (0x4C8, 0x4C8, 6), (0x4C9, 0x4C9, 13), (0x4CA, 0x4CA, 6),
  (0x4CB, 0x4CB, 13), (0x4CC, 0x4CC, 6), (0x4CD, 0x4CD, 13), (0x4CE, 0x4CF, 6), (0x4D0, 0x4D0, 13),
  (0x4D1, 0x4D1, 6), (0x4D2, 0x4D2, 13), (0x4D3, 0x4D3, 6), (0x4D4, 0x4D4, 13), (0x4D5, 0x4D5, 6),
  (0x4D6, 0x4D6, 13), (0x4D7, 0x4D7, 6), (0x4D8, 0x4D8, 13), (0x4D9, 0x4D9, 6), (0x4DA, 0x4DA, 13),
  (0x4DB, 0x4DB, 6), (0x4DC, 0x4DC, 13), (0x4DD, 0x4DD, 6), (0x4DE, 0x4DE, 13), (0x4DF, 0x4DF, 6),
  (0x4E0, 0x4E0, 13), (0x4E1, 0x4E1, 6), (0x4E2, 0x4E2, 13), (0x4E3, 0x4E3, 6)]

private def sentenceBreakRangesPart2 : TaggedRanges := #[
  (0x4E4, 0x4E4, 13), (0x4E5, 0x4E5, 6), (0x4E6, 0x4E6, 13), (0x4E7, 0x4E7, 6), (0x4E8, 0x4E8, 13),
  (0x4E9, 0x4E9, 6), (0x4EA, 0x4EA, 13), (0x4EB, 0x4EB, 6), (0x4EC, 0x4EC, 13), (0x4ED, 0x4ED, 6),
  (0x4EE, 0x4EE, 13), (0x4EF, 0x4EF, 6), (0x4F0, 0x4F0, 13), (0x4F1, 0x4F1, 6), (0x4F2, 0x4F2, 13),
  (0x4F3, 0x4F3, 6), (0x4F4, 0x4F4, 13), (0x4F5, 0x4F5, 6), (0x4F6, 0x4F6, 13), (0x4F7, 0x4F7, 6),
  (0x4F8, 0x4F8, 13), (0x4F9, 0x4F9, 6), (0x4FA, 0x4FA, 13), (0x4FB, 0x4FB, 6), (0x4FC, 0x4FC, 13),
  (0x4FD, 0x4FD, 6), (0x4FE, 0x4FE, 13), (0x4FF, 0x4FF, 6), (0x500, 0x500, 13), (0x501, 0x501, 6),
  (0x502, 0x502, 13), (0x503, 0x503, 6), (0x504, 0x504, 13), (0x505, 0x505, 6), (0x506, 0x506, 13),
  (0x507, 0x507, 6), (0x508, 0x508, 13), (0x509, 0x509, 6), (0x50A, 0x50A, 13), (0x50B, 0x50B, 6),
  (0x50C, 0x50C, 13), (0x50D, 0x50D, 6), (0x50E, 0x50E, 13), (0x50F, 0x50F, 6), (0x510, 0x510, 13),
  (0x511, 0x511, 6), (0x512, 0x512, 13), (0x513, 0x513, 6), (0x514, 0x514, 13), (0x515, 0x515, 6),
  (0x516, 0x516, 13), (0x517, 0x517, 6), (0x518, 0x518, 13), (0x519, 0x519, 6), (0x51A, 0x51A, 13),
  (0x51B, 0x51B, 6), (0x51C, 0x51C, 13), (0x51D, 0x51D, 6), (0x51E, 0x51E, 13), (0x51F, 0x51F, 6),
  (0x520, 0x520, 13), (0x521, 0x521, 6), (0x522, 0x522, 13), (0x523, 0x523, 6), (0x524, 0x524, 13),
  (0x525, 0x525, 6), (0x526, 0x526, 13), (0x527, 0x527, 6), (0x528, 0x528, 13), (0x529, 0x529, 6),
  (0x52A, 0x52A, 13), (0x52B, 0x52B, 6), (0x52C, 0x52C, 13), (0x52D, 0x52D, 6), (0x52E, 0x52E, 13),
  (0x52F, 0x52F, 6), (0x531, 0x556, 13), (0x559, 0x559, 8), (0x55D, 0x55D, 9), (0x560, 0x588, 6),
  (0x589, 0x589, 10), (0x591, 0x5BD, 3), (0x5BF, 0x5BF, 3), (0x5C1, 0x5C2, 3), (0x5C4, 0x5C5, 3),
  (0x5C7, 0x5C7, 3), (0x5D0, 0x5EA, 8), (0x5EF, 0x5F3, 8), (0x600, 0x605, 4), (0x60C, 0x60D, 9),
  (0x610, 0x61A, 3), (0x61C, 0x61C, 4), (0x61D, 0x61F, 10), (0x620, 0x64A, 8), (0x64B, 0x65F, 3),
  (0x660, 0x669, 7), (0x66B, 0x66C, 7), (0x66E, 0x66F, 8), (0x670, 0x670, 3), (0x671, 0x6D3, 8),
  (0x6D4, 0x6D4, 10), (0x6D5, 0x6D5, 8), (0x6D6, 0x6DC, 3), (0x6DD, 0x6DD, 4), (0x6DF, 0x6E4, 3),
  (0x6E5, 0x6E6, 8), (0x6E7, 0x6E8, 3), (0x6EA, 0x6ED, 3), (0x6EE, 0x6EF, 8), (0x6F0, 0x6F9, 7),
  (0x6FA, 0x6FC, 8), (0x6FF, 0x6FF, 8), (0x700, 0x702, 10), (0x70F, 0x70F, 4), (0x710, 0x710, 8),
  (0x711, 0x711, 3), (0x712, 0x72F, 8), (0x730, 0x74A, 3), (0x74D, 0x7A5, 8), (0x7A6, 0x7B0, 3),
  (0x7B1, 0x7B1, 8), (0x7C0, 0x7C9, 7), (0x7CA, 0x7EA, 8), (0x7EB, 0x7F3, 3), (0x7F4, 0x7F5, 8),
  (0x7F8, 0x7F8, 9), (0x7F9, 0x7F9, 10), (0x7FA, 0x7FA, 8), (0x7FD, 0x7FD, 3), (0x800, 0x815, 8),
  (0x816, 0x819, 3), (0x81A, 0x81A, 8), (0x81B, 0x823, 3), (0x824, 0x824, 8), (0x825, 0x827, 3),
  (0x828, 0x828, 8), (0x829, 0x82D, 3), (0x837, 0x837, 10), (0x839, 0x839, 10), (0x83D, 0x83E, 10),
  (0x840, 0x858, 8), (0x859, 0x85B, 3), (0x860, 0x86A, 8), (0x870, 0x887, 8), (0x889, 0x88E, 8),
  (0x890, 0x891, 4), (0x897, 0x89F, 3), (0x8A0, 0x8C9, 8), (0x8CA, 0x8E1, 3), (0x8E2, 0x8E2, 4),
  (0x8E3, 0x903, 3), (0x904, 0x939, 8), (0x93A, 0x93C, 3), (0x93D, 0x93D, 8), (0x93E, 0x94F, 3),
  (0x950, 0x950, 8), (0x951, 0x957, 3), (0x958, 0x961, 8), (0x962, 0x963, 3), (0x964, 0x965, 10),
  (0x966, 0x96F, 7), (0x971, 0x980, 8), (0x981, 0x983, 3), (0x985, 0x98C, 8), (0x98F, 0x990, 8),
  (0x993, 0x9A8, 8), (0x9AA, 0x9B0, 8), (0x9B2, 0x9B2, 8), (0x9B6, 0x9B9, 8), (0x9BC, 0x9BC, 3),
  (0x9BD, 0x9BD, 8), (0x9BE, 0x9C4, 3), (0x9C7, 0x9C8, 3), (0x9CB, 0x9CD, 3), (0x9CE, 0x9CE, 8),
  (0x9D7, 0x9D7, 3), (0x9DC, 0x9DD, 8), (0x9DF, 0x9E1, 8), (0x9E2, 0x9E3, 3), (0x9E6, 0x9EF, 7),
  (0x9F0, 0x9F1, 8), (0x9FC, 0x9FC, 8), (0x9FE, 0x9FE, 3), (0xA01, 0xA03, 3), (0xA05, 0xA0A, 8),
  (0xA0F, 0xA10, 8), (0xA13, 0xA28, 8), (0xA2A, 0xA30, 8), (0xA32, 0xA33, 8), (0xA35, 0xA36, 8),
  (0xA38, 0xA39, 8), (0xA3C, 0xA3C, 3), (0xA3E, 0xA42, 3), (0xA47, 0xA48, 3), (0xA4B, 0xA4D, 3),
  (0xA51, 0xA51, 3), (0xA59, 0xA5C, 8), (0xA5E, 0xA5E, 8), (0xA66, 0xA6F, 7), (0xA70, 0xA71, 3),
  (0xA72, 0xA74, 8), (0xA75, 0xA75, 3), (0xA81, 0xA83, 3), (0xA85, 0xA8D, 8), (0xA8F, 0xA91, 8),
  (0xA93, 0xAA8, 8), (0xAAA, 0xAB0, 8), (0xAB2, 0xAB3, 8), (0xAB5, 0xAB9, 8), (0xABC, 0xABC, 3),
  (0xABD, 0xABD, 8), (0xABE, 0xAC5, 3), (0xAC7, 0xAC9, 3), (0xACB, 0xACD, 3), (0xAD0, 0xAD0, 8),
  (0xAE0, 0xAE1, 8), (0xAE2, 0xAE3, 3), (0xAE6, 0xAEF, 7), (0xAF9, 0xAF9, 8), (0xAFA, 0xAFF, 3),
  (0xB01, 0xB03, 3), (0xB05, 0xB0C, 8), (0xB0F, 0xB10, 8), (0xB13, 0xB28, 8), (0xB2A, 0xB30, 8),
  (0xB32, 0xB33, 8), (0xB35, 0xB39, 8), (0xB3C, 0xB3C, 3), (0xB3D, 0xB3D, 8), (0xB3E, 0xB44, 3),
  (0xB47, 0xB48, 3), (0xB4B, 0xB4D, 3), (0xB55, 0xB57, 3), (0xB5C, 0xB5D, 8), (0xB5F, 0xB61, 8),
  (0xB62, 0xB63, 3), (0xB66, 0xB6F, 7), (0xB71, 0xB71, 8), (0xB82, 0xB82, 3), (0xB83, 0xB83, 8),
  (0xB85, 0xB8A, 8), (0xB8E, 0xB90, 8), (0xB92, 0xB95, 8), (0xB99, 0xB9A, 8), (0xB9C, 0xB9C, 8),
  (0xB9E, 0xB9F, 8), (0xBA3, 0xBA4, 8), (0xBA8, 0xBAA, 8), (0xBAE, 0xBB9, 8), (0xBBE, 0xBC2, 3),
  (0xBC6, 0xBC8, 3), (0xBCA, 0xBCD, 3), (0xBD0, 0xBD0, 8), (0xBD7, 0xBD7, 3), (0xBE6, 0xBEF, 7),
  (0xC00, 0xC04, 3), (0xC05, 0xC0C, 8), (0xC0E, 0xC10, 8), (0xC12, 0xC28, 8), (0xC2A, 0xC39, 8),
  (0xC3C, 0xC3C, 3), (0xC3D, 0xC3D, 8), (0xC3E, 0xC44, 3), (0xC46, 0xC48, 3), (0xC4A, 0xC4D, 3),
  (0xC55, 0xC56, 3), (0xC58, 0xC5A, 8), (0xC5D, 0xC5D, 8), (0xC60, 0xC61, 8), (0xC62, 0xC63, 3),
  (0xC66, 0xC6F, 7), (0xC80, 0xC80, 8), (0xC81, 0xC83, 3), (0xC85, 0xC8C, 8), (0xC8E, 0xC90, 8),
  (0xC92, 0xCA8, 8), (0xCAA, 0xCB3, 8), (0xCB5, 0xCB9, 8), (0xCBC, 0xCBC, 3), (0xCBD, 0xCBD, 8),
  (0xCBE, 0xCC4, 3), (0xCC6, 0xCC8, 3), (0xCCA, 0xCCD, 3), (0xCD5, 0xCD6, 3), (0xCDD, 0xCDE, 8),
  (0xCE0, 0xCE1, 8), (0xCE2, 0xCE3, 3), (0xCE6, 0xCEF, 7), (0xCF1, 0xCF2, 8), (0xCF3, 0xCF3, 3),
  (0xD00, 0xD03, 3), (0xD04, 0xD0C, 8), (0xD0E, 0xD10, 8), (0xD12, 0xD3A, 8), (0xD3B, 0xD3C, 3),
  (0xD3D, 0xD3D, 8), (0xD3E, 0xD44, 3), (0xD46, 0xD48, 3), (0xD4A, 0xD4D, 3), (0xD4E, 0xD4E, 8),
  (0xD54, 0xD56, 8), (0xD57, 0xD57, 3), (0xD5F, 0xD61, 8), (0xD62, 0xD63, 3), (0xD66, 0xD6F, 7),
  (0xD7A, 0xD7F, 8), (0xD81, 0xD83, 3), (0xD85, 0xD96, 8), (0xD9A, 0xDB1, 8), (0xDB3, 0xDBB, 8),
  (0xDBD, 0xDBD, 8), (0xDC0, 0xDC6, 8), (0xDCA, 0xDCA, 3), (0xDCF, 0xDD4, 3), (0xDD6, 0xDD6, 3),
  (0xDD8, 0xDDF, 3), (0xDE6, 0xDEF, 7), (0xDF2, 0xDF3, 3), (0xE01, 0xE30, 8), (0xE31, 0xE31, 3),
  (0xE32, 0xE33, 8), (0xE34, 0xE3A, 3), (0xE40, 0xE46, 8), (0xE47, 0xE4E, 3), (0xE50, 0xE59, 7),
  (0xE81, 0xE82, 8), (0xE84, 0xE84, 8), (0xE86, 0xE8A, 8), (0xE8C, 0xEA3, 8), (0xEA5, 0xEA5, 8),
  (0xEA7, 0xEB0, 8), (0xEB1, 0xEB1, 3), (0xEB2, 0xEB3, 8), (0xEB4, 0xEBC, 3), (0xEBD, 0xEBD, 8),
  (0xEC0, 0xEC4, 8), (0xEC6, 0xEC6, 8), (0xEC8, 0xECE, 3), (0xED0, 0xED9, 7), (0xEDC, 0xEDF, 8),
  (0xF00, 0xF00, 8), (0xF18, 0xF19, 3), (0xF20, 0xF29, 7), (0xF35, 0xF35, 3), (0xF37, 0xF37, 3),
  (0xF39, 0xF39, 3), (0xF3A, 0xF3D, 2), (0xF3E, 0xF3F, 3), (0xF40, 0xF47, 8), (0xF49, 0xF6C, 8),
  (0xF71, 0xF84, 3), (0xF86, 0xF87, 3), (0xF88, 0xF8C, 8), (0xF8D, 0xF97, 3), (0xF99, 0xFBC, 3),
  (0xFC6, 0xFC6, 3), (0x1000, 0x102A, 8), (0x102B, 0x103E, 3), (0x103F, 0x103F, 8),
  (0x1040, 0x1049, 7), (0x104A, 0x104B, 10), (0x1050, 0x1055, 8), (0x1056, 0x1059, 3),
  (0x105A, 0x105D, 8), (0x105E, 0x1060, 3), (0x1061, 0x1061, 8), (0x1062, 0x1064, 3),
  (0x1065, 0x1066, 8), (0x1067, 0x106D, 3), (0x106E, 0x1070, 8), (0x1071, 0x1074, 3),
  (0x1075, 0x1081, 8), (0x1082, 0x108D, 3), (0x108E, 0x108E, 8), (0x108F, 0x108F, 3),
  (0x1090, 0x1099, 7), (0x109A, 0x109D, 3), (0x10A0, 0x10C5, 13), (0x10C7, 0x10C7, 13),
  (0x10CD, 0x10CD, 13), (0x10D0, 0x10FA, 8), (0x10FC, 0x10FC, 6), (0x10FD, 0x1248, 8),
  (0x124A, 0x124D, 8), (0x1250, 0x1256, 8), (0x1258, 0x1258, 8), (0x125A, 0x125D, 8),
  (0x1260, 0x1288, 8), (0x128A, 0x128D, 8), (0x1290, 0x12B0, 8), (0x12B2, 0x12B5, 8),
  (0x12B8, 0x12BE, 8), (0x12C0, 0x12C0, 8), (0x12C2, 0x12C5, 8), (0x12C8, 0x12D6, 8),
  (0x12D8, 0x1310, 8), (0x1312, 0x1315, 8), (0x1318, 0x135A, 8), (0x135D, 0x135F, 3),
  (0x1362, 0x1362, 10), (0x1367, 0x1368, 10), (0x1380, 0x138F, 8), (0x13A0, 0x13F5, 13),
  (0x13F8, 0x13FD, 6), (0x1401, 0x166C, 8), (0x166E, 0x166E, 10), (0x166F, 0x167F, 8),
  (0x1680, 0x1680, 12), (0x1681, 0x169A, 8), (0x169B, 0x169C, 2), (0x16A0, 0x16EA, 8),
  (0x16EE, 0x16F8, 8), (0x1700, 0x1711, 8), (0x1712, 0x1715, 3), (0x171F, 0x1731, 8),
  (0x1732, 0x1734, 3), (0x1735, 0x1736, 10), (0x1740, 0x1751, 8), (0x1752, 0x1753, 3),
  (0x1760, 0x176C, 8), (0x176E, 0x1770, 8), (0x1772, 0x1773, 3), (0x1780, 0x17B3, 8),
  (0x17B4, 0x17D3, 3), (0x17D7, 0x17D7, 8), (0x17DC, 0x17DC, 8), (0x17DD, 0x17DD, 3),
  (0x17E0, 0x17E9, 7), (0x1802, 0x1802, 9), (0x1803, 0x1803, 10), (0x1808, 0x1808, 9),
  (0x1809, 0x1809, 10), (0x180B, 0x180D, 3), (0x180E, 0x180E, 4), (0x180F, 0x180F, 3),
  (0x1810, 0x1819, 7), (0x1820, 0x1878, 8), (0x1880, 0x1884, 8), (0x1885, 0x1886, 3),
  (0x1887, 0x18A8, 8), (0x18A9, 0x18A9, 3), (0x18AA, 0x18AA, 8), (0x18B0, 0x18F5, 8),
  (0x1900, 0x191E, 8), (0x1920, 0x192B, 3), (0x1930, 0x193B, 3), (0x1944, 0x1945, 10),
  (0x1946, 0x194F, 7), (0x1950, 0x196D, 8), (0x1970, 0x1974, 8), (0x1980, 0x19AB, 8),
  (0x19B0, 0x19C9, 8), (0x19D0, 0x19D9, 7), (0x1A00, 0x1A16, 8), (0x1A17, 0x1A1B, 3),
  (0x1A20, 0x1A54, 8), (0x1A55, 0x1A5E, 3), (0x1A60, 0x1A7C, 3), (0x1A7F, 0x1A7F, 3),
  (0x1A80, 0x1A89, 7), (0x1A90, 0x1A99, 7), (0x1AA7, 0x1AA7, 8), (0x1AA8, 0x1AAB, 10),
  (0x1AB0, 0x1ACE, 3), (0x1B00, 0x1B04, 3), (0x1B05, 0x1B33, 8), (0x1B34, 0x1B44, 3),
  (0x1B45, 0x1B4C, 8), (0x1B4E, 0x1B4F, 10), (0x1B50, 0x1B59, 7), (0x1B5A, 0x1B5B, 10),
  (0x1B5E, 0x1B5F, 10), (0x1B6B, 0x1B73, 3), (0x1B7D, 0x1B7F, 10), (0x1B80, 0x1B82, 3),
  (0x1B83, 0x1BA0, 8), (0x1BA1, 0x1BAD, 3), (0x1BAE, 0x1BAF, 8), (0x1BB0, 0x1BB9, 7),
  (0x1BBA, 0x1BE5, 8), (0x1BE6, 0x1BF3, 3), (0x1C00, 0x1C23, 8), (0x1C24, 0x1C37, 3),
  (0x1C3B, 0x1C3C, 10), (0x1C40, 0x1C49, 7), (0x1C4D, 0x1C4F, 8), (0x1C50, 0x1C59, 7),
  (0x1C5A, 0x1C7D, 8), (0x1C7E, 0x1C7F, 10), (0x1C80, 0x1C88, 6), (0x1C89, 0x1C89, 13),
  (0x1C8A, 0x1C8A, 6), (0x1C90, 0x1CBA, 8), (0x1CBD, 0x1CBF, 8), (0x1CD0, 0x1CD2, 3),
  (0x1CD4, 0x1CE8, 3), (0x1CE9, 0x1CEC, 8), (0x1CED, 0x1CED, 3), (0x1CEE, 0x1CF3, 8),
  (0x1CF4, 0x1CF4, 3)]

private def sentenceBreakRangesPart3 : TaggedRanges := #[
  (0x1CF5, 0x1CF6, 8), (0x1CF7, 0x1CF9, 3), (0x1CFA, 0x1CFA, 8), (0x1D00, 0x1DBF, 6),
  (0x1DC0, 0x1DFF, 3), (0x1E00, 0x1E00, 13), (0x1E01, 0x1E01, 6), (0x1E02, 0x1E02, 13),
  (0x1E03, 0x1E03, 6), (0x1E04, 0x1E04, 13), (0x1E05, 0x1E05, 6), (0x1E06, 0x1E06, 13),
  (0x1E07, 0x1E07, 6), (0x1E08, 0x1E08, 13), (0x1E09, 0x1E09, 6), (0x1E0A, 0x1E0A, 13),
  (0x1E0B, 0x1E0B, 6), (0x1E0C, 0x1E0C, 13), (0x1E0D, 0x1E0D, 6), (0x1E0E, 0x1E0E, 13),
  (0x1E0F, 0x1E0F, 6), (0x1E10, 0x1E10, 13), (0x1E11, 0x1E11, 6), (0x1E12, 0x1E12, 13),
  (0x1E13, 0x1E13, 6), (0x1E14, 0x1E14, 13), (0x1E15, 0x1E15, 6), (0x1E16, 0x1E16, 13),
  (0x1E17, 0x1E17, 6), (0x1E18, 0x1E18, 13), (0x1E19, 0x1E19, 6), (0x1E1A, 0x1E1A, 13),
  (0x1E1B, 0x1E1B, 6), (0x1E1C, 0x1E1C, 13), (0x1E1D, 0x1E1D, 6), (0x1E1E, 0x1E1E, 13),
  (0x1E1F, 0x1E1F, 6), (0x1E20, 0x1E20, 13), (0x1E21, 0x1E21, 6), (0x1E22, 0x1E22, 13),
  (0x1E23, 0x1E23, 6), (0x1E24, 0x1E24, 13), (0x1E25, 0x1E25, 6), (0x1E26, 0x1E26, 13),
  (0x1E27, 0x1E27, 6), (0x1E28, 0x1E28, 13), (0x1E29, 0x1E29, 6), (0x1E2A, 0x1E2A, 13),
  (0x1E2B, 0x1E2B, 6), (0x1E2C, 0x1E2C, 13), (0x1E2D, 0x1E2D, 6), (0x1E2E, 0x1E2E, 13),
  (0x1E2F, 0x1E2F, 6), (0x1E30, 0x1E30, 13), (0x1E31, 0x1E31, 6), (0x1E32, 0x1E32, 13),
  (0x1E33, 0x1E33, 6), (0x1E34, 0x1E34, 13), (0x1E35, 0x1E35, 6), (0x1E36, 0x1E36, 13),
  (0x1E37, 0x1E37, 6), (0x1E38, 0x1E38, 13), (0x1E39, 0x1E39, 6), (0x1E3A, 0x1E3A, 13),
  (0x1E3B, 0x1E3B, 6), (0x1E3C, 0x1E3C, 13), (0x1E3D, 0x1E3D, 6), (0x1E3E, 0x1E3E, 13),
  (0x1E3F, 0x1E3F, 6), (0x1E40, 0x1E40, 13), (0x1E41, 0x1E41, 6), (0x1E42, 0x1E42, 13),
  (0x1E43, 0x1E43, 6), (0x1E44, 0x1E44, 13), (0x1E45, 0x1E45, 6), (0x1E46, 0x1E46, 13),
  (0x1E47, 0x1E47, 6), (0x1E48, 0x1E48, 13), (0x1E49, 0x1E49, 6), (0x1E4A, 0x1E4A, 13),
  (0x1E4B, 0x1E4B, 6), (0x1E4C, 0x1E4C, 13), (0x1E4D, 0x1E4D, 6), (0x1E4E, 0x1E4E, 13),
  (0x1E4F, 0x1E4F, 6), (0x1E50, 0x1E50, 13), (0x1E51, 0x1E51, 6), (0x1E52, 0x1E52, 13),
  (0x1E53, 0x1E53, 6), (0x1E54, 0x1E54, 13), (0x1E55, 0x1E55, 6), (0x1E56, 0x1E56, 13),
  (0x1E57, 0x1E57, 6), (0x1E58, 0x1E58, 13), (0x1E59, 0x1E59, 6), (0x1E5A, 0x1E5A, 13),
  (0x1E5B, 0x1E5B, 6), (0x1E5C, 0x1E5C, 13), (0x1E5D, 0x1E5D, 6), (0x1E5E, 0x1E5E, 13),
  (0x1E5F, 0x1E5F, 6), (0x1E60, 0x1E60, 13), (0x1E61, 0x1E61, 6), (0x1E62, 0x1E62, 13),
  (0x1E63, 0x1E63, 6), (0x1E64, 0x1E64, 13), (0x1E65, 0x1E65, 6), (0x1E66, 0x1E66, 13),
  (0x1E67, 0x1E67, 6), (0x1E68, 0x1E68, 13), (0x1E69, 0x1E69, 6), (0x1E6A, 0x1E6A, 13),
  (0x1E6B, 0x1E6B, 6), (0x1E6C, 0x1E6C, 13), (0x1E6D, 0x1E6D, 6), (0x1E6E, 0x1E6E, 13),
  (0x1E6F, 0x1E6F, 6), (0x1E70, 0x1E70, 13), (0x1E71, 0x1E71, 6), (0x1E72, 0x1E72, 13),
  (0x1E73, 0x1E73, 6), (0x1E74, 0x1E74, 13), (0x1E75, 0x1E75, 6), (0x1E76, 0x1E76, 13),
  (0x1E77, 0x1E77, 6), (0x1E78, 0x1E78, 13), (0x1E79, 0x1E79, 6), (0x1E7A, 0x1E7A, 13),
  (0x1E7B, 0x1E7B, 6), (0x1E7C, 0x1E7C, 13), (0x1E7D, 0x1E7D, 6), (0x1E7E, 0x1E7E, 13),
  (0x1E7F, 0x1E7F, 6), (0x1E80, 0x1E80, 13), (0x1E81, 0x1E81, 6), (0x1E82, 0x1E82, 13),
  (0x1E83, 0x1E83, 6), (0x1E84, 0x1E84, 13), (0x1E85, 0x1E85, 6), (0x1E86, 0x1E86, 13),
  (0x1E87, 0x1E87, 6), (0x1E88, 0x1E88, 13), (0x1E89, 0x1E89, 6), (0x1E8A, 0x1E8A, 13),
  (0x1E8B, 0x1E8B, 6), (0x1E8C, 0x1E8C, 13), (0x1E8D, 0x1E8D, 6), (0x1E8E, 0x1E8E, 13),
  (0x1E8F, 0x1E8F, 6), (0x1E90, 0x1E90, 13), (0x1E91, 0x1E91, 6), (0x1E92, 0x1E92, 13),
  (0x1E93, 0x1E93, 6), (0x1E94, 0x1E94, 13), (0x1E95, 0x1E9D, 6), (0x1E9E, 0x1E9E, 13),
  (0x1E9F, 0x1E9F, 6), (0x1EA0, 0x1EA0, 13), (0x1EA1, 0x1EA1, 6), (0x1EA2, 0x1EA2, 13),
  (0x1EA3, 0x1EA3, 6), (0x1EA4, 0x1EA4, 13), (0x1EA5, 0x1EA5, 6), (0x1EA6, 0x1EA6, 13),
  (0x1EA7, 0x1EA7, 6), (0x1EA8, 0x1EA8, 13), (0x1EA9, 0x1EA9, 6), (0x1EAA, 0x1EAA, 13),
  (0x1EAB, 0x1EAB, 6), (0x1EAC, 0x1EAC, 13), (0x1EAD, 0x1EAD, 6), (0x1EAE, 0x1EAE, 13),
  (0x1EAF, 0x1EAF, 6), (0x1EB0, 0x1EB0, 13), (0x1EB1, 0x1EB1, 6), (0x1EB2, 0x1EB2, 13),
  (0x1EB3, 0x1EB3, 6), (0x1EB4, 0x1EB4, 13), (0x1EB5, 0x1EB5, 6), (0x1EB6, 0x1EB6, 13),
  (0x1EB7, 0x1EB7, 6), (0x1EB8, 0x1EB8, 13), (0x1EB9, 0x1EB9, 6), (0x1EBA, 0x1EBA, 13),
  (0x1EBB, 0x1EBB, 6), (0x1EBC, 0x1EBC, 13), (0x1EBD, 0x1EBD, 6), (0x1EBE, 0x1EBE, 13),
  (0x1EBF, 0x1EBF, 6), (0x1EC0, 0x1EC0, 13), (0x1EC1, 0x1EC1, 6), (0x1EC2, 0x1EC2, 13),
  (0x1EC3, 0x1EC3, 6), (0x1EC4, 0x1EC4, 13), (0x1EC5, 0x1EC5, 6), (0x1EC6, 0x1EC6, 13),
  (0x1EC7, 0x1EC7, 6), (0x1EC8, 0x1EC8, 13), (0x1EC9, 0x1EC9, 6), (0x1ECA, 0x1ECA, 13),
  (0x1ECB, 0x1ECB, 6), (0x1ECC, 0x1ECC, 13), (0x1ECD, 0x1ECD, 6), (0x1ECE, 0x1ECE, 13),
  (0x1ECF, 0x1ECF, 6), (0x1ED0, 0x1ED0, 13), (0x1ED1, 0x1ED1, 6), (0x1ED2, 0x1ED2, 13),
  (0x1ED3, 0x1ED3, 6), (0x1ED4, 0x1ED4, 13), (0x1ED5, 0x1ED5, 6), (0x1ED6, 0x1ED6, 13),
  (0x1ED7, 0x1ED7, 6), (0x1ED8, 0x1ED8, 13), (0x1ED9, 0x1ED9, 6), (0x1EDA, 0x1EDA, 13),
  (0x1EDB, 0x1EDB, 6), (0x1EDC, 0x1EDC, 13), (0x1EDD, 0x1EDD, 6), (0x1EDE, 0x1EDE, 13),
  (0x1EDF, 0x1EDF, 6), (0x1EE0, 0x1EE0, 13), (0x1EE1, 0x1EE1, 6), (0x1EE2, 0x1EE2, 13),
  (0x1EE3, 0x1EE3, 6), (0x1EE4, 0x1EE4, 13), (0x1EE5, 0x1EE5, 6), (0x1EE6, 0x1EE6, 13),
  (0x1EE7, 0x1EE7, 6), (0x1EE8, 0x1EE8, 13), (0x1EE9, 0x1EE9, 6), (0x1EEA, 0x1EEA, 13),
  (0x1EEB, 0x1EEB, 6), (0x1EEC, 0x1EEC, 13), (0x1EED, 0x1EED, 6), (0x1EEE, 0x1EEE, 13),
  (0x1EEF, 0x1EEF, 6), (0x1EF0, 0x1EF0, 13), (0x1EF1, 0x1EF1, 6), (0x1EF2, 0x1EF2, 13),
  (0x1EF3, 0x1EF3, 6), (0x1EF4, 0x1EF4, 13), (0x1EF5, 0x1EF5, 6), (0x1EF6, 0x1EF6, 13),
  (0x1EF7, 0x1EF7, 6), (0x1EF8, 0x1EF8, 13), (0x1EF9, 0x1EF9, 6), (0x1EFA, 0x1EFA, 13),
  (0x1EFB, 0x1EFB, 6), (0x1EFC, 0x1EFC, 13), (0x1EFD, 0x1EFD, 6), (0x1EFE, 0x1EFE, 13),
  (0x1EFF, 0x1F07, 6), (0x1F08, 0x1F0F, 13), (0x1F10, 0x1F15, 6), (0x1F18, 0x1F1D, 13),
  (0x1F20, 0x1F27, 6), (0x1F28, 0x1F2F, 13), (0x1F30, 0x1F37, 6), (0x1F38, 0x1F3F, 13),
  (0x1F40, 0x1F45, 6), (0x1F48, 0x1F4D, 13), (0x1F50, 0x1F57, 6), (0x1F59, 0x1F59, 13),
  (0x1F5B, 0x1F5B, 13), (0x1F5D, 0x1F5D, 13), (0x1F5F, 0x1F5F, 13), (0x1F60, 0x1F67, 6),
  (0x1F68, 0x1F6F, 13), (0x1F70, 0x1F7D, 6), (0x1F80, 0x1F87, 6), (0x1F88, 0x1F8F, 13),
  (0x1F90, 0x1F97, 6), (0x1F98, 0x1F9F, 13), (0x1FA0, 0x1FA7, 6), (0x1FA8, 0x1FAF, 13),
  (0x1FB0, 0x1FB4, 6), (0x1FB6, 0x1FB7, 6), (0x1FB8, 0x1FBC, 13), (0x1FBE, 0x1FBE, 6),
  (0x1FC2, 0x1FC4, 6), (0x1FC6, 0x1FC7, 6), (0x1FC8, 0x1FCC, 13), (0x1FD0, 0x1FD3, 6),
  (0x1FD6, 0x1FD7, 6), (0x1FD8, 0x1FDB, 13), (0x1FE0, 0x1FE7, 6), (0x1FE8, 0x1FEC, 13),
  (0x1FF2, 0x1FF4, 6), (0x1FF6, 0x1FF7, 6), (0x1FF8, 0x1FFC, 13), (0x2000, 0x200A, 12),
  (0x200B, 0x200B, 4), (0x200C, 0x200D, 3), (0x200E, 0x200F, 4), (0x2013, 0x2014, 9),
  (0x2018, 0x201F, 2), (0x2024, 0x2024, 0), (0x2028, 0x2029, 11), (0x202A, 0x202E, 4),
  (0x202F, 0x202F, 12), (0x2039, 0x203A, 2), (0x203C, 0x203D, 10), (0x2045, 0x2046, 2),
  (0x2047, 0x2049, 10), (0x205F, 0x205F, 12), (0x2060, 0x2064, 4), (0x2066, 0x206F, 4),
  (0x2071, 0x2071, 6), (0x207D, 0x207E, 2), (0x207F, 0x207F, 6), (0x208D, 0x208E, 2),
  (0x2090, 0x209C, 6), (0x20D0, 0x20F0, 3), (0x2102, 0x2102, 13), (0x2107, 0x2107, 13),
  (0x210A, 0x210A, 6), (0x210B, 0x210D, 13), (0x210E, 0x210F, 6), (0x2110, 0x2112, 13),
  (0x2113, 0x2113, 6), (0x2115, 0x2115, 13), (0x2119, 0x211D, 13), (0x2124, 0x2124, 13),
  (0x2126, 0x2126, 13), (0x2128, 0x2128, 13), (0x212A, 0x212D, 13), (0x212F, 0x212F, 6),
  (0x2130, 0x2133, 13), (0x2134, 0x2134, 6), (0x2135, 0x2138, 8), (0x2139, 0x2139, 6),
  (0x213C, 0x213D, 6), (0x213E, 0x213F, 13), (0x2145, 0x2145, 13), (0x2146, 0x2149, 6),
  (0x214E, 0x214E, 6), (0x2160, 0x216F, 13), (0x2170, 0x217F, 6), (0x2180, 0x2182, 8),
  (0x2183, 0x2183, 13), (0x2184, 0x2184, 6), (0x2185, 0x2188, 8), (0x2308, 0x230B, 2),
  (0x2329, 0x232A, 2), (0x24B6, 0x24CF, 13), (0x24D0, 0x24E9, 6), (0x275B, 0x2760, 2),
  (0x2768, 0x2775, 2), (0x27C5, 0x27C6, 2), (0x27E6, 0x27EF, 2), (0x2983, 0x2998, 2),
  (0x29D8, 0x29DB, 2), (0x29FC, 0x29FD, 2), (0x2C00, 0x2C2F, 13), (0x2C30, 0x2C5F, 6),
  (0x2C60, 0x2C60, 13), (0x2C61, 0x2C61, 6), (0x2C62, 0x2C64, 13), (0x2C65, 0x2C66, 6),
  (0x2C67, 0x2C67, 13), (0x2C68, 0x2C68, 6), (0x2C69, 0x2C69, 13), (0x2C6A, 0x2C6A, 6),
  (0x2C6B, 0x2C6B, 13), (0x2C6C, 0x2C6C, 6), (0x2C6D, 0x2C70, 13), (0x2C71, 0x2C71, 6),
  (0x2C72, 0x2C72, 13), (0x2C73, 0x2C74, 6), (0x2C75, 0x2C75, 13), (0x2C76, 0x2C7D, 6),
  (0x2C7E, 0x2C80, 13), (0x2C81, 0x2C81, 6), (0x2C82, 0x2C82, 13), (0x2C83, 0x2C83, 6),
  (0x2C84, 0x2C84, 13), (0x2C85, 0x2C85, 6), (0x2C86, 0x2C86, 13), (0x2C87, 0x2C87, 6),
  (0x2C88, 0x2C88, 13), (0x2C89, 0x2C89, 6), (0x2C8A, 0x2C8A, 13), (0x2C8B, 0x2C8B, 6),
  (0x2C8C, 0x2C8C, 13), (0x2C8D, 0x2C8D, 6), (0x2C8E, 0x2C8E, 13), (0x2C8F, 0x2C8F, 6),
  (0x2C90, 0x2C90, 13), (0x2C91, 0x2C91, 6), (0x2C92, 0x2C92, 13), (0x2C93, 0x2C93, 6),
  (0x2C94, 0x2C94, 13), (0x2C95, 0x2C95, 6), (0x2C96, 0x2C96, 13), (0x2C97, 0x2C97, 6),
  (0x2C98, 0x2C98, 13), (0x2C99, 0x2C99, 6), (0x2C9A, 0x2C9A, 13), (0x2C9B, 0x2C9B, 6),
  (0x2C9C, 0x2C9C, 13), (0x2C9D, 0x2C9D, 6), (0x2C9E, 0x2C9E, 13), (0x2C9F, 0x2C9F, 6),
  (0x2CA0, 0x2CA0, 13), (0x2CA1, 0x2CA1, 6), (0x2CA2, 0x2CA2, 13), (0x2CA3, 0x2CA3, 6),
  (0x2CA4, 0x2CA4, 13), (0x2CA5, 0x2CA5, 6), (0x2CA6, 0x2CA6, 13), (0x2CA7, 0x2CA7, 6),
  (0x2CA8, 0x2CA8, 13), (0x2CA9, 0x2CA9, 6), (0x2CAA, 0x2CAA, 13), (0x2CAB, 0x2CAB, 6),
  (0x2CAC, 0x2CAC, 13), (0x2CAD, 0x2CAD, 6), (0x2CAE, 0x2CAE, 13), (0x2CAF, 0x2CAF, 6),
  (0x2CB0, 0x2CB0, 13), (0x2CB1, 0x2CB1, 6), (0x2CB2, 0x2CB2, 13), (0x2CB3, 0x2CB3, 6),
  (0x2CB4, 0x2CB4, 13), (0x2CB5, 0x2CB5, 6), (0x2CB6, 0x2CB6, 13), (0x2CB7, 0x2CB7, 6),
  (0x2CB8, 0x2CB8, 13), (0x2CB9, 0x2CB9, 6), (0x2CBA, 0x2CBA, 13), (0x2CBB, 0x2CBB, 6),
  (0x2CBC, 0x2CBC, 13), (0x2CBD, 0x2CBD, 6), (0x2CBE, 0x2CBE, 13), (0x2CBF, 0x2CBF, 6),
  (0x2CC0, 0x2CC0, 13), (0x2CC1, 0x2CC1, 6), (0x2CC2, 0x2CC2, 13), (0x2CC3, 0x2CC3, 6),
  (0x2CC4, 0x2CC4, 13), (0x2CC5, 0x2CC5, 6), (0x2CC6, 0x2CC6, 13), (0x2CC7, 0x2CC7, 6),
  (0x2CC8, 0x2CC8, 13), (0x2CC9, 0x2CC9, 6), (0x2CCA, 0x2CCA, 13), (0x2CCB, 0x2CCB, 6),
  (0x2CCC, 0x2CCC, 13), (0x2CCD, 0x2CCD, 6), (0x2CCE, 0x2CCE, 13), (0x2CCF, 0x2CCF, 6),
  (0x2CD0, 0x2CD0, 13), (0x2CD1, 0x2CD1, 6), (0x2CD2, 0x2CD2, 13), (0x2CD3, 0x2CD3, 6),
  (0x2CD4, 0x2CD4, 13), (0x2CD5, 0x2CD5, 6), (0x2CD6, 0x2CD6, 13), (0x2CD7, 0x2CD7, 6),
  (0x2CD8, 0x2CD8, 13), (0x2CD9, 0x2CD9, 6), (0x2CDA, 0x2CDA, 13), (0x2CDB, 0x2CDB, 6),
  (0x2CDC, 0x2CDC, 13), (0x2CDD, 0x2CDD, 6), (0x2CDE, 0x2CDE, 13), (0x2CDF, 0x2CDF, 6),
  (0x2CE0, 0x2CE0, 13), (0x2CE1, 0x2CE1, 6), (0x2CE2, 0x2CE2, 13), (0x2CE3, 0x2CE4, 6),
  (0x2CEB, 0x2CEB, 13), (0x2CEC, 0x2CEC, 6), (0x2CED, 0x2CED, 13), (0x2CEE, 0x2CEE, 6),
  (0x2CEF, 0x2CF1, 3), (0x2CF2, 0x2CF2, 13), (0x2CF3, 0x2CF3, 6), (0x2D00, 0x2D25, 6),
  (0x2D27, 0x2D27, 6), (0x2D2D, 0x2D2D, 6), (0x2D30, 0x2D67, 8), (0x2D6F, 0x2D6F, 8),
  (0x2D7F, 0x2D7F, 3), (0x2D80, 0x2D96, 8), (0x2DA0, 0x2DA6, 8), (0x2DA8, 0x2DAE, 8),
  (0x2DB0, 0x2DB6, 8), (0x2DB8, 0x2DBE, 8), (0x2DC0, 0x2DC6, 8), (0x2DC8, 0x2DCE, 8),
  (0x2DD0, 0x2DD6, 8), (0x2DD8, 0x2DDE, 8), (0x2DE0, 0x2DFF, 3), (0x2E00, 0x2E0D, 2),
  (0x2E1C, 0x2E1D, 2), (0x2E20, 0x2E29, 2), (0x2E2E, 0x2E2E, 10), (0x2E2F, 0x2E2F, 8)]

private def sentenceBreakRangesPart4 : TaggedRanges := #[
  (0x2E3C, 0x2E3C, 10), (0x2E42, 0x2E42, 2), (0x2E53, 0x2E54, 10), (0x2E55, 0x2E5C, 2),
  (0x3000, 0x3000, 12), (0x3001, 0x3001, 9), (0x3002, 0x3002, 10), (0x3005, 0x3007, 8),
  (0x3008, 0x3011, 2), (0x3014, 0x301B, 2), (0x301D, 0x301F, 2), (0x3021, 0x3029, 8),
  (0x302A, 0x302F, 3), (0x3031, 0x3035, 8), (0x3038, 0x303C, 8), (0x3041, 0x3096, 8),
  (0x3099, 0x309A, 3), (0x309D, 0x309F, 8), (0x30A1, 0x30FA, 8), (0x30FC, 0x30FF, 8),
  (0x3105, 0x312F, 8), (0x3131, 0x318E, 8), (0x31A0, 0x31BF, 8), (0x31F0, 0x31FF, 8),
  (0x3400, 0x4DBF, 8), (0x4E00, 0xA48C, 8), (0xA4D0, 0xA4FD, 8), (0xA4FF, 0xA4FF, 10),
  (0xA500, 0xA60C, 8), (0xA60E, 0xA60F, 10), (0xA610, 0xA61F, 8), (0xA620, 0xA629, 7),
  (0xA62A, 0xA62B, 8), (0xA640, 0xA640, 13), (0xA641, 0xA641, 6), (0xA642, 0xA642, 13),
  (0xA643, 0xA643, 6), (0xA644, 0xA644, 13), (0xA645, 0xA645, 6), (0xA646, 0xA646, 13),
  (0xA647, 0xA647, 6), (0xA648, 0xA648, 13), (0xA649, 0xA649, 6), (0xA64A, 0xA64A, 13),
  (0xA64B, 0xA64B, 6), (0xA64C, 0xA64C, 13), (0xA64D, 0xA64D, 6), (0xA64E, 0xA64E, 13),
  (0xA64F, 0xA64F, 6), (0xA650, 0xA650, 13), (0xA651, 0xA651, 6), (0xA652, 0xA652, 13),
  (0xA653, 0xA653, 6), (0xA654, 0xA654, 13), (0xA655, 0xA655, 6), (0xA656, 0xA656, 13),
  (0xA657, 0xA657, 6), (0xA658, 0xA658, 13), (0xA659, 0xA659, 6), (0xA65A, 0xA65A, 13),
  (0xA65B, 0xA65B, 6), (0xA65C, 0xA65C, 13), (0xA65D, 0xA65D, 6), (0xA65E, 0xA65E, 13),
  (0xA65F, 0xA65F, 6), (0xA660, 0xA660, 13), (0xA661, 0xA661, 6), (0xA662, 0xA662, 13),
  (0xA663, 0xA663, 6), (0xA664, 0xA664, 13), (0xA665, 0xA665, 6), (0xA666, 0xA666, 13),
  (0xA667, 0xA667, 6), (0xA668, 0xA668, 13), (0xA669, 0xA669, 6), (0xA66A, 0xA66A, 13),
  (0xA66B, 0xA66B, 6), (0xA66C, 0xA66C, 13), (0xA66D, 0xA66D, 6), (0xA66E, 0xA66E, 8),
  (0xA66F, 0xA672, 3), (0xA674, 0xA67D, 3), (0xA67F, 0xA67F, 8), (0xA680, 0xA680, 13),
  (0xA681, 0xA681, 6), (0xA682, 0xA682, 13), (0xA683, 0xA683, 6), (0xA684, 0xA684, 13),
  (0xA685, 0xA685, 6), (0xA686, 0xA686, 13), (0xA687, 0xA687, 6), (0xA688, 0xA688, 13),
  (0xA689, 0xA689, 6), (0xA68A, 0xA68A, 13), (0xA68B, 0xA68B, 6), (0xA68C, 0xA68C, 13),
  (0xA68D, 0xA68D, 6), (0xA68E, 0xA68E, 13), (0xA68F, 0xA68F, 6), (0xA690, 0xA690, 13),
  (0xA691, 0xA691, 6), (0xA692, 0xA692, 13), (0xA693, 0xA693, 6), (0xA694, 0xA694, 13),
  (0xA695, 0xA695, 6), (0xA696, 0xA696, 13), (0xA697, 0xA697, 6), (0xA698, 0xA698, 13),
  (0xA699, 0xA699, 6), (0xA69A, 0xA69A, 13), (0xA69B, 0xA69D, 6), (0xA69E, 0xA69F, 3),
  (0xA6A0, 0xA6EF, 8), (0xA6F0, 0xA6F1, 3), (0xA6F3, 0xA6F3, 10), (0xA6F7, 0xA6F7, 10),
  (0xA717, 0xA71F, 8), (0xA722, 0xA722, 13), (0xA723, 0xA723, 6), (0xA724, 0xA724, 13),
  (0xA725, 0xA725, 6), (0xA726, 0xA726, 13), (0xA727, 0xA727, 6), (0xA728, 0xA728, 13),
  (0xA729, 0xA729, 6), (0xA72A, 0xA72A, 13), (0xA72B, 0xA72B, 6), (0xA72C, 0xA72C, 13),
  (0xA72D, 0xA72D, 6), (0xA72E, 0xA72E, 13), (0xA72F, 0xA731, 6), (0xA732, 0xA732, 13),
  (0xA733, 0xA733, 6), (0xA734, 0xA734, 13), (0xA735, 0xA735, 6), (0xA736, 0xA736, 13),
  (0xA737, 0xA737, 6), (0xA738, 0xA738, 13), (0xA739, 0xA739, 6), (0xA73A, 0xA73A, 13),
  (0xA73B, 0xA73B, 6), (0xA73C, 0xA73C, 13), (0xA73D, 0xA73D, 6), (0xA73E, 0xA73E, 13),
  (0xA73F, 0xA73F, 6), (0xA740, 0xA740, 13), (0xA741, 0xA741, 6), (0xA742, 0xA742, 13),
  (0xA743, 0xA743, 6), (0xA744, 0xA744, 13), (0xA745, 0xA745, 6), (0xA746, 0xA746, 13),
  (0xA747, 0xA747, 6), (0xA748, 0xA748, 13), (0xA749, 0xA749, 6), (0xA74A, 0xA74A, 13),
  (0xA74B, 0xA74B, 6), (0xA74C, 0xA74C, 13), (0xA74D, 0xA74D, 6), (0xA74E, 0xA74E, 13),
  (0xA74F, 0xA74F, 6), (0xA750, 0xA750, 13), (0xA751, 0xA751, 6), (0xA752, 0xA752, 13),
  (0xA753, 0xA753, 6), (0xA754, 0xA754, 13), (0xA755, 0xA755, 6), (0xA756, 0xA756, 13),
  (0xA757, 0xA757, 6), (0xA758, 0xA758, 13), (0xA759, 0xA759, 6), (0xA75A, 0xA75A, 13),
  (0xA75B, 0xA75B, 6), (0xA75C, 0xA75C, 13), (0xA75D, 0xA75D, 6), (0xA75E, 0xA75E, 13),
  (0xA75F, 0xA75F, 6), (0xA760, 0xA760, 13), (0xA761, 0xA761, 6), (0xA762, 0xA762, 13),
  (0xA763, 0xA763, 6), (0xA764, 0xA764, 13), (0xA765, 0xA765, 6), (0xA766, 0xA766, 13),
  (0xA767, 0xA767, 6), (0xA768, 0xA768, 13), (0xA769, 0xA769, 6), (0xA76A, 0xA76A, 13),
  (0xA76B, 0xA76B, 6), (0xA76C, 0xA76C, 13), (0xA76D, 0xA76D, 6), (0xA76E, 0xA76E, 13),
  (0xA76F, 0xA778, 6), (0xA779, 0xA779, 13), (0xA77A, 0xA77A, 6), (0xA77B, 0xA77B, 13),
  (0xA77C, 0xA77C, 6), (0xA77D, 0xA77E, 13), (0xA77F, 0xA77F, 6), (0xA780, 0xA780, 13),
  (0xA781, 0xA781, 6), (0xA782, 0xA782, 13), (0xA783, 0xA783, 6), (0xA784, 0xA784, 13),
  (0xA785, 0xA785, 6), (0xA786, 0xA786, 13), (0xA787, 0xA787, 6), (0xA788, 0xA788, 8),
  (0xA78B, 0xA78B, 13), (0xA78C, 0xA78C, 6), (0xA78D, 0xA78D, 13), (0xA78E, 0xA78E, 6),
  (0xA78F, 0xA78F, 8), (0xA790, 0xA790, 13), (0xA791, 0xA791, 6), (0xA792, 0xA792, 13),
  (0xA793, 0xA795, 6), (0xA796, 0xA796, 13), (0xA797, 0xA797, 6), (0xA798, 0xA798, 13),
  (0xA799, 0xA799, 6), (0xA79A, 0xA79A, 13), (0xA79B, 0xA79B, 6), (0xA79C, 0xA79C, 13),
  (0xA79D, 0xA79D, 6), (0xA79E, 0xA79E, 13), (0xA79F, 0xA79F, 6), (0xA7A0, 0xA7A0, 13),
  (0xA7A1, 0xA7A1, 6), (0xA7A2, 0xA7A2, 13), (0xA7A3, 0xA7A3, 6), (0xA7A4, 0xA7A4, 13),
  (0xA7A5, 0xA7A5, 6), (0xA7A6, 0xA7A6, 13), (0xA7A7, 0xA7A7, 6), (0xA7A8, 0xA7A8, 13),
  (0xA7A9, 0xA7A9, 6), (0xA7AA, 0xA7AE, 13), (0xA7AF, 0xA7AF, 6), (0xA7B0, 0xA7B4, 13),
  (0xA7B5, 0xA7B5, 6), (0xA7B6, 0xA7B6, 13), (0xA7B7, 0xA7B7, 6), (0xA7B8, 0xA7B8, 13),
  (0xA7B9, 0xA7B9, 6), (0xA7BA, 0xA7BA, 13), (0xA7BB, 0xA7BB, 6), (0xA7BC, 0xA7BC, 13),
  (0xA7BD, 0xA7BD, 6), (0xA7BE, 0xA7BE, 13), (0xA7BF, 0xA7BF, 6), (0xA7C0, 0xA7C0, 13),
  (0xA7C1, 0xA7C1, 6), (0xA7C2, 0xA7C2, 13), (0xA7C3, 0xA7C3, 6), (0xA7C4, 0xA7C7, 13),
  (0xA7C8, 0xA7C8, 6), (0xA7C9, 0xA7C9, 13), (0xA7CA, 0xA7CA, 6), (0xA7CB, 0xA7CC, 13),
  (0xA7CD, 0xA7CD, 6), (0xA7D0, 0xA7D0, 13), (0xA7D1, 0xA7D1, 6), (0xA7D3, 0xA7D3, 6),
  (0xA7D5, 0xA7D5, 6), (0xA7D6, 0xA7D6, 13), (0xA7D7, 0xA7D7, 6), (0xA7D8, 0xA7D8, 13),
  (0xA7D9, 0xA7D9, 6), (0xA7DA, 0xA7DA, 13), (0xA7DB, 0xA7DB, 6), (0xA7DC, 0xA7DC, 13),
  (0xA7F2, 0xA7F4, 6), (0xA7F5, 0xA7F5, 13), (0xA7F6, 0xA7F6, 6), (0xA7F7, 0xA7F7, 8),
  (0xA7F8, 0xA7FA, 6), (0xA7FB, 0xA801, 8), (0xA802, 0xA802, 3), (0xA803, 0xA805, 8),
  (0xA806, 0xA806, 3), (0xA807, 0xA80A, 8), (0xA80B, 0xA80B, 3), (0xA80C, 0xA822, 8),
  (0xA823, 0xA827, 3), (0xA82C, 0xA82C, 3), (0xA840, 0xA873, 8), (0xA876, 0xA877, 10),
  (0xA880, 0xA881, 3), (0xA882, 0xA8B3, 8), (0xA8B4, 0xA8C5, 3), (0xA8CE, 0xA8CF, 10),
  (0xA8D0, 0xA8D9, 7), (0xA8E0, 0xA8F1, 3), (0xA8F2, 0xA8F7, 8), (0xA8FB, 0xA8FB, 8),
  (0xA8FD, 0xA8FE, 8), (0xA8FF, 0xA8FF, 3), (0xA900, 0xA909, 7), (0xA90A, 0xA925, 8),
  (0xA926, 0xA92D, 3), (0xA92F, 0xA92F, 10), (0xA930, 0xA946, 8), (0xA947, 0xA953, 3),
  (0xA960, 0xA97C, 8), (0xA980, 0xA983, 3), (0xA984, 0xA9B2, 8), (0xA9B3, 0xA9C0, 3),
  (0xA9C8, 0xA9C9, 10), (0xA9CF, 0xA9CF, 8), (0xA9D0, 0xA9D9, 7), (0xA9E0, 0xA9E4, 8),
  (0xA9E5, 0xA9E5, 3), (0xA9E6, 0xA9EF, 8), (0xA9F0, 0xA9F9, 7), (0xA9FA, 0xA9FE, 8),
  (0xAA00, 0xAA28, 8), (0xAA29, 0xAA36, 3), (0xAA40, 0xAA42, 8), (0xAA43, 0xAA43, 3),
  (0xAA44, 0xAA4B, 8), (0xAA4C, 0xAA4D, 3), (0xAA50, 0xAA59, 7), (0xAA5D, 0xAA5F, 10),
  (0xAA60, 0xAA76, 8), (0xAA7A, 0xAA7A, 8), (0xAA7B, 0xAA7D, 3), (0xAA7E, 0xAAAF, 8),
  (0xAAB0, 0xAAB0, 3), (0xAAB1, 0xAAB1, 8), (0xAAB2, 0xAAB4, 3), (0xAAB5, 0xAAB6, 8),
  (0xAAB7, 0xAAB8, 3), (0xAAB9, 0xAABD, 8), (0xAABE, 0xAABF, 3), (0xAAC0, 0xAAC0, 8),
  (0xAAC1, 0xAAC1, 3), (0xAAC2, 0xAAC2, 8), (0xAADB, 0xAADD, 8), (0xAAE0, 0xAAEA, 8),
  (0xAAEB, 0xAAEF, 3), (0xAAF0, 0xAAF1, 10), (0xAAF2, 0xAAF4, 8), (0xAAF5, 0xAAF6, 3),
  (0xAB01, 0xAB06, 8), (0xAB09, 0xAB0E, 8), (0xAB11, 0xAB16, 8), (0xAB20, 0xAB26, 8),
  (0xAB28, 0xAB2E, 8), (0xAB30, 0xAB5A, 6), (0xAB5C, 0xAB69, 6), (0xAB70, 0xABBF, 6),
  (0xABC0, 0xABE2, 8), (0xABE3, 0xABEA, 3), (0xABEB, 0xABEB, 10), (0xABEC, 0xABED, 3),
  (0xABF0, 0xABF9, 7), (0xAC00, 0xD7A3, 8), (0xD7B0, 0xD7C6, 8), (0xD7CB, 0xD7FB, 8),
  (0xF900, 0xFA6D, 8), (0xFA70, 0xFAD9, 8), (0xFB00, 0xFB06, 6), (0xFB13, 0xFB17, 6),
  (0xFB1D, 0xFB1D, 8), (0xFB1E, 0xFB1E, 3), (0xFB1F, 0xFB28, 8), (0xFB2A, 0xFB36, 8),
  (0xFB38, 0xFB3C, 8), (0xFB3E, 0xFB3E, 8), (0xFB40, 0xFB41, 8), (0xFB43, 0xFB44, 8),
  (0xFB46, 0xFBB1, 8), (0xFBD3, 0xFD3D, 8), (0xFD3E, 0xFD3F, 2), (0xFD50, 0xFD8F, 8),
  (0xFD92, 0xFDC7, 8), (0xFDF0, 0xFDFB, 8), (0xFE00, 0xFE0F, 3), (0xFE10, 0xFE11, 9),
  (0xFE13, 0xFE13, 9), (0xFE17, 0xFE18, 2), (0xFE20, 0xFE2F, 3), (0xFE31, 0xFE32, 9),
  (0xFE35, 0xFE44, 2), (0xFE47, 0xFE48, 2), (0xFE50, 0xFE51, 9), (0xFE52, 0xFE52, 0),
  (0xFE55, 0xFE55, 9), (0xFE56, 0xFE57, 10), (0xFE58, 0xFE58, 9), (0xFE59, 0xFE5E, 2),
  (0xFE63, 0xFE63, 9), (0xFE70, 0xFE74, 8), (0xFE76, 0xFEFC, 8), (0xFEFF, 0xFEFF, 4),
  (0xFF01, 0xFF01, 10), (0xFF08, 0xFF09, 2), (0xFF0C, 0xFF0D, 9), (0xFF0E, 0xFF0E, 0),
  (0xFF10, 0xFF19, 7), (0xFF1A, 0xFF1A, 9), (0xFF1F, 0xFF1F, 10), (0xFF21, 0xFF3A, 13),
  (0xFF3B, 0xFF3B, 2), (0xFF3D, 0xFF3D, 2), (0xFF41, 0xFF5A, 6), (0xFF5B, 0xFF5B, 2),
  (0xFF5D, 0xFF5D, 2), (0xFF5F, 0xFF60, 2), (0xFF61, 0xFF61, 10), (0xFF62, 0xFF63, 2),
  (0xFF64, 0xFF64, 9), (0xFF66, 0xFF9D, 8), (0xFF9E, 0xFF9F, 3), (0xFFA0, 0xFFBE, 8),
  (0xFFC2, 0xFFC7, 8), (0xFFCA, 0xFFCF, 8), (0xFFD2, 0xFFD7, 8), (0xFFDA, 0xFFDC, 8),
  (0xFFF9, 0xFFFB, 4), (0x10000, 0x1000B, 8), (0x1000D, 0x10026, 8), (0x10028, 0x1003A, 8),
  (0x1003C, 0x1003D, 8), (0x1003F, 0x1004D, 8), (0x10050, 0x1005D, 8), (0x10080, 0x100FA, 8),
  (0x10140, 0x10174, 8), (0x101FD, 0x101FD, 3), (0x10280, 0x1029C, 8), (0x102A0, 0x102D0, 8),
  (0x102E0, 0x102E0, 3), (0x10300, 0x1031F, 8), (0x1032D, 0x1034A, 8), (0x10350, 0x10375, 8),
  (0x10376, 0x1037A, 3), (0x10380, 0x1039D, 8), (0x103A0, 0x103C3, 8), (0x103C8, 0x103CF, 8),
  (0x103D1, 0x103D5, 8), (0x10400, 0x10427, 13), (0x10428, 0x1044F, 6), (0x10450, 0x1049D, 8),
  (0x104A0, 0x104A9, 7), (0x104B0, 0x104D3, 13), (0x104D8, 0x104FB, 6), (0x10500, 0x10527, 8),
  (0x10530, 0x10563, 8), (0x10570, 0x1057A, 13), (0x1057C, 0x1058A, 13), (0x1058C, 0x10592, 13),
  (0x10594, 0x10595, 13), (0x10597, 0x105A1, 6), (0x105A3, 0x105B1, 6), (0x105B3, 0x105B9, 6),
  (0x105BB, 0x105BC, 6), (0x105C0, 0x105F3, 8), (0x10600, 0x10736, 8), (0x10740, 0x10755, 8),
  (0x10760, 0x10767, 8), (0x10780, 0x10780, 6), (0x10781, 0x10782, 8), (0x10783, 0x10785, 6),
  (0x10787, 0x107B0, 6), (0x107B2, 0x107BA, 6), (0x10800, 0x10805, 8), (0x10808, 0x10808, 8),
  (0x1080A, 0x10835, 8), (0x10837, 0x10838, 8), (0x1083C, 0x1083C, 8), (0x1083F, 0x10855, 8),
  (0x10860, 0x10876, 8), (0x10880, 0x1089E, 8), (0x108E0, 0x108F2, 8), (0x108F4, 0x108F5, 8),
  (0x10900, 0x10915, 8), (0x10920, 0x10939, 8), (0x10980, 0x109B7, 8), (0x109BE, 0x109BF, 8),
  (0x10A00, 0x10A00, 8), (0x10A01, 0x10A03, 3), (0x10A05, 0x10A06, 3), (0x10A0C, 0x10A0F, 3),
  (0x10A10, 0x10A13, 8), (0x10A15, 0x10A17, 8), (0x10A19, 0x10A35, 8), (0x10A38, 0x10A3A, 3),
  (0x10A3F, 0x10A3F, 3), (0x10A56, 0x10A57, 10), (0x10A60, 0x10A7C, 8), (0x10A80, 0x10A9C, 8),
  (0x10AC0, 0x10AC7, 8), (0x10AC9, 0x10AE4, 8), (0x10AE5, 0x10AE6, 3), (0x10B00, 0x10B35, 8),
  (0x10B40, 0x10B55, 8), (0x10B60, 0x10B72, 8), (0x10B80, 0x10B91, 8), (0x10C00, 0x10C48, 8)]

private def sentenceBreakRangesPart5 : TaggedRanges := #[
  (0x10C80, 0x10CB2, 13), (0x10CC0, 0x10CF2, 6), (0x10D00, 0x10D23, 8), (0x10D24, 0x10D27, 3),
  (0x10D30, 0x10D39, 7), (0x10D40, 0x10D49, 7), (0x10D4A, 0x10D4F, 8), (0x10D50, 0x10D65, 13),
  (0x10D69, 0x10D6D, 3), (0x10D6F, 0x10D6F, 8), (0x10D70, 0x10D85, 6), (0x10E80, 0x10EA9, 8),
  (0x10EAB, 0x10EAC, 3), (0x10EB0, 0x10EB1, 8), (0x10EC2, 0x10EC4, 8), (0x10EFC, 0x10EFF, 3),
  (0x10F00, 0x10F1C, 8), (0x10F27, 0x10F27, 8), (0x10F30, 0x10F45, 8), (0x10F46, 0x10F50, 3),
  (0x10F55, 0x10F59, 10), (0x10F70, 0x10F81, 8), (0x10F82, 0x10F85, 3), (0x10F86, 0x10F89, 10),
  (0x10FB0, 0x10FC4, 8), (0x10FE0, 0x10FF6, 8), (0x11000, 0x11002, 3), (0x11003, 0x11037, 8),
  (0x11038, 0x11046, 3), (0x11047, 0x11048, 10), (0x11066, 0x1106F, 7), (0x11070, 0x11070, 3),
  (0x11071, 0x11072, 8), (0x11073, 0x11074, 3), (0x11075, 0x11075, 8), (0x1107F, 0x11082, 3),
  (0x11083, 0x110AF, 8), (0x110B0, 0x110BA, 3), (0x110BD, 0x110BD, 4), (0x110BE, 0x110C1, 10),
  (0x110C2, 0x110C2, 3), (0x110CD, 0x110CD, 4), (0x110D0, 0x110E8, 8), (0x110F0, 0x110F9, 7),
  (0x11100, 0x11102, 3), (0x11103, 0x11126, 8), (0x11127, 0x11134, 3), (0x11136, 0x1113F, 7),
  (0x11141, 0x11143, 10), (0x11144, 0x11144, 8), (0x11145, 0x11146, 3), (0x11147, 0x11147, 8),
  (0x11150, 0x11172, 8), (0x11173, 0x11173, 3), (0x11176, 0x11176, 8), (0x11180, 0x11182, 3),
  (0x11183, 0x111B2, 8), (0x111B3, 0x111C0, 3), (0x111C1, 0x111C4, 8), (0x111C5, 0x111C6, 10),
  (0x111C9, 0x111CC, 3), (0x111CD, 0x111CD, 10), (0x111CE, 0x111CF, 3), (0x111D0, 0x111D9, 7),
  (0x111DA, 0x111DA, 8), (0x111DC, 0x111DC, 8), (0x111DE, 0x111DF, 10), (0x11200, 0x11211, 8),
  (0x11213, 0x1122B, 8), (0x1122C, 0x11237, 3), (0x11238, 0x11239, 10), (0x1123B, 0x1123C, 10),
  (0x1123E, 0x1123E, 3), (0x1123F, 0x11240, 8), (0x11241, 0x11241, 3), (0x11280, 0x11286, 8),
  (0x11288, 0x11288, 8), (0x1128A, 0x1128D, 8), (0x1128F, 0x1129D, 8), (0x1129F, 0x112A8, 8),
  (0x112A9, 0x112A9, 10), (0x112B0, 0x112DE, 8), (0x112DF, 0x112EA, 3), (0x112F0, 0x112F9, 7),
  (0x11300, 0x11303, 3), (0x11305, 0x1130C, 8), (0x1130F, 0x11310, 8), (0x11313, 0x11328, 8),
  (0x1132A, 0x11330, 8), (0x11332, 0x11333, 8), (0x11335, 0x11339, 8), (0x1133B, 0x1133C, 3),
  (0x1133D, 0x1133D, 8), (0x1133E, 0x11344, 3), (0x11347, 0x11348, 3), (0x1134B, 0x1134D, 3),
  (0x11350, 0x11350, 8), (0x11357, 0x11357, 3), (0x1135D, 0x11361, 8), (0x11362, 0x11363, 3),
  (0x11366, 0x1136C, 3), (0x11370, 0x11374, 3), (0x11380, 0x11389, 8), (0x1138B, 0x1138B, 8),
  (0x1138E, 0x1138E, 8), (0x11390, 0x113B5, 8), (0x113B7, 0x113B7, 8), (0x113B8, 0x113C0, 3),
  (0x113C2, 0x113C2, 3), (0x113C5, 0x113C5, 3), (0x113C7, 0x113CA, 3), (0x113CC, 0x113D0, 3),
  (0x113D1, 0x113D1, 8), (0x113D2, 0x113D2, 3), (0x113D3, 0x113D3, 8), (0x113D4, 0x113D5, 10),
  (0x113E1, 0x113E2, 3), (0x11400, 0x11434, 8), (0x11435, 0x11446, 3), (0x11447, 0x1144A, 8),
  (0x1144B, 0x1144C, 10), (0x11450, 0x11459, 7), (0x1145E, 0x1145E, 3), (0x1145F, 0x11461, 8),
  (0x11480, 0x114AF, 8), (0x114B0, 0x114C3, 3), (0x114C4, 0x114C5, 8), (0x114C7, 0x114C7, 8),
  (0x114D0, 0x114D9, 7), (0x11580, 0x115AE, 8), (0x115AF, 0x115B5, 3), (0x115B8, 0x115C0, 3),
  (0x115C2, 0x115C3, 10), (0x115C9, 0x115D7, 10), (0x115D8, 0x115DB, 8), (0x115DC, 0x115DD, 3),
  (0x11600, 0x1162F, 8), (0x11630, 0x11640, 3), (0x11641, 0x11642, 10), (0x11644, 0x11644, 8),
  (0x11650, 0x11659, 7), (0x11680, 0x116AA, 8), (0x116AB, 0x116B7, 3), (0x116B8, 0x116B8, 8),
  (0x116C0, 0x116C9, 7), (0x116D0, 0x116E3, 7), (0x11700, 0x1171A, 8), (0x1171D, 0x1172B, 3),
  (0x11730, 0x11739, 7), (0x1173C, 0x1173E, 10), (0x11740, 0x11746, 8), (0x11800, 0x1182B, 8),
  (0x1182C, 0x1183A, 3), (0x118A0, 0x118BF, 13), (0x118C0, 0x118DF, 6), (0x118E0, 0x118E9, 7),
  (0x118FF, 0x11906, 8), (0x11909, 0x11909, 8), (0x1190C, 0x11913, 8), (0x11915, 0x11916, 8),
  (0x11918, 0x1192F, 8), (0x11930, 0x11935, 3), (0x11937, 0x11938, 3), (0x1193B, 0x1193E, 3),
  (0x1193F, 0x1193F, 8), (0x11940, 0x11940, 3), (0x11941, 0x11941, 8), (0x11942, 0x11943, 3),
  (0x11944, 0x11944, 10), (0x11946, 0x11946, 10), (0x11950, 0x11959, 7), (0x119A0, 0x119A7, 8),
  (0x119AA, 0x119D0, 8), (0x119D1, 0x119D7, 3), (0x119DA, 0x119E0, 3), (0x119E1, 0x119E1, 8),
  (0x119E3, 0x119E3, 8), (0x119E4, 0x119E4, 3), (0x11A00, 0x11A00, 8), (0x11A01, 0x11A0A, 3),
  (0x11A0B, 0x11A32, 8), (0x11A33, 0x11A39, 3), (0x11A3A, 0x11A3A, 8), (0x11A3B, 0x11A3E, 3),
  (0x11A42, 0x11A43, 10), (0x11A47, 0x11A47, 3), (0x11A50, 0x11A50, 8), (0x11A51, 0x11A5B, 3),
  (0x11A5C, 0x11A89, 8), (0x11A8A, 0x11A99, 3), (0x11A9B, 0x11A9C, 10), (0x11A9D, 0x11A9D, 8),
  (0x11AB0, 0x11AF8, 8), (0x11BC0, 0x11BE0, 8), (0x11BF0, 0x11BF9, 7), (0x11C00, 0x11C08, 8),
  (0x11C0A, 0x11C2E, 8), (0x11C2F, 0x11C36, 3), (0x11C38, 0x11C3F, 3), (0x11C40, 0x11C40, 8),
  (0x11C41, 0x11C42, 10), (0x11C50, 0x11C59, 7), (0x11C72, 0x11C8F, 8), (0x11C92, 0x11CA7, 3),
  (0x11CA9, 0x11CB6, 3), (0x11D00, 0x11D06, 8), (0x11D08, 0x11D09, 8), (0x11D0B, 0x11D30, 8),
  (0x11D31, 0x11D36, 3), (0x11D3A, 0x11D3A, 3), (0x11D3C, 0x11D3D, 3), (0x11D3F, 0x11D45, 3),
  (0x11D46, 0x11D46, 8), (0x11D47, 0x11D47, 3), (0x11D50, 0x11D59, 7), (0x11D60, 0x11D65, 8),
  (0x11D67, 0x11D68, 8), (0x11D6A, 0x11D89, 8), (0x11D8A, 0x11D8E, 3), (0x11D90, 0x11D91, 3),
  (0x11D93, 0x11D97, 3), (0x11D98, 0x11D98, 8), (0x11DA0, 0x11DA9, 7), (0x11EE0, 0x11EF2, 8),
  (0x11EF3, 0x11EF6, 3), (0x11EF7, 0x11EF8, 10), (0x11F00, 0x11F01, 3), (0x11F02, 0x11F02, 8),
  (0x11F03, 0x11F03, 3), (0x11F04, 0x11F10, 8), (0x11F12, 0x11F33, 8), (0x11F34, 0x11F3A, 3),
  (0x11F3E, 0x11F42, 3), (0x11F43, 0x11F44, 10), (0x11F50, 0x11F59, 7), (0x11F5A, 0x11F5A, 3),
  (0x11FB0, 0x11FB0, 8), (0x12000, 0x12399, 8), (0x12400, 0x1246E, 8), (0x12480, 0x12543, 8),
  (0x12F90, 0x12FF0, 8), (0x13000, 0x1342F, 8), (0x13430, 0x1343F, 4), (0x13440, 0x13440, 3),
  (0x13441, 0x13446, 8), (0x13447, 0x13455, 3), (0x13460, 0x143FA, 8), (0x14400, 0x14646, 8),
  (0x16100, 0x1611D, 8), (0x1611E, 0x1612F, 3), (0x16130, 0x16139, 7), (0x16800, 0x16A38, 8),
  (0x16A40, 0x16A5E, 8), (0x16A60, 0x16A69, 7), (0x16A6E, 0x16A6F, 10), (0x16A70, 0x16ABE, 8),
  (0x16AC0, 0x16AC9, 7), (0x16AD0, 0x16AED, 8), (0x16AF0, 0x16AF4, 3), (0x16AF5, 0x16AF5, 10),
  (0x16B00, 0x16B2F, 8), (0x16B30, 0x16B36, 3), (0x16B37, 0x16B38, 10), (0x16B40, 0x16B43, 8),
  (0x16B44, 0x16B44, 10), (0x16B50, 0x16B59, 7), (0x16B63, 0x16B77, 8), (0x16B7D, 0x16B8F, 8),
  (0x16D40, 0x16D6C, 8), (0x16D6E, 0x16D6F, 10), (0x16D70, 0x16D79, 7), (0x16E40, 0x16E5F, 13),
  (0x16E60, 0x16E7F, 6), (0x16E98, 0x16E98, 10), (0x16F00, 0x16F4A, 8), (0x16F4F, 0x16F4F, 3),
  (0x16F50, 0x16F50, 8), (0x16F51, 0x16F87, 3), (0x16F8F, 0x16F92, 3), (0x16F93, 0x16F9F, 8),
  (0x16FE0, 0x16FE1, 8), (0x16FE3, 0x16FE3, 8), (0x16FE4, 0x16FE4, 3), (0x16FF0, 0x16FF1, 3),
  (0x17000, 0x187F7, 8), (0x18800, 0x18CD5, 8), (0x18CFF, 0x18D08, 8), (0x1AFF0, 0x1AFF3, 8),
  (0x1AFF5, 0x1AFFB, 8), (0x1AFFD, 0x1AFFE, 8), (0x1B000, 0x1B122, 8), (0x1B132, 0x1B132, 8),
  (0x1B150, 0x1B152, 8), (0x1B155, 0x1B155, 8), (0x1B164, 0x1B167, 8), (0x1B170, 0x1B2FB, 8),
  (0x1BC00, 0x1BC6A, 8), (0x1BC70, 0x1BC7C, 8), (0x1BC80, 0x1BC88, 8), (0x1BC90, 0x1BC99, 8),
  (0x1BC9D, 0x1BC9E, 3), (0x1BC9F, 0x1BC9F, 10), (0x1BCA0, 0x1BCA3, 4), (0x1CCF0, 0x1CCF9, 7),
  (0x1CF00, 0x1CF2D, 3), (0x1CF30, 0x1CF46, 3), (0x1D165, 0x1D169, 3), (0x1D16D, 0x1D172, 3),
  (0x1D173, 0x1D17A, 4), (0x1D17B, 0x1D182, 3), (0x1D185, 0x1D18B, 3), (0x1D1AA, 0x1D1AD, 3),
  (0x1D242, 0x1D244, 3), (0x1D400, 0x1D419, 13), (0x1D41A, 0x1D433, 6), (0x1D434, 0x1D44D, 13),
  (0x1D44E, 0x1D454, 6), (0x1D456, 0x1D467, 6), (0x1D468, 0x1D481, 13), (0x1D482, 0x1D49B, 6),
  (0x1D49C, 0x1D49C, 13), (0x1D49E, 0x1D49F, 13), (0x1D4A2, 0x1D4A2, 13), (0x1D4A5, 0x1D4A6, 13),
  (0x1D4A9, 0x1D4AC, 13), (0x1D4AE, 0x1D4B5, 13), (0x1D4B6, 0x1D4B9, 6), (0x1D4BB, 0x1D4BB, 6),
  (0x1D4BD, 0x1D4C3, 6), (0x1D4C5, 0x1D4CF, 6), (0x1D4D0, 0x1D4E9, 13), (0x1D4EA, 0x1D503, 6),
  (0x1D504, 0x1D505, 13), (0x1D507, 0x1D50A, 13), (0x1D50D, 0x1D514, 13), (0x1D516, 0x1D51C, 13),
  (0x1D51E, 0x1D537, 6), (0x1D538, 0x1D539, 13), (0x1D53B, 0x1D53E, 13), (0x1D540, 0x1D544, 13),
  (0x1D546, 0x1D546, 13), (0x1D54A, 0x1D550, 13), (0x1D552, 0x1D56B, 6), (0x1D56C, 0x1D585, 13),
  (0x1D586, 0x1D59F, 6), (0x1D5A0, 0x1D5B9, 13), (0x1D5BA, 0x1D5D3, 6), (0x1D5D4, 0x1D5ED, 13),
  (0x1D5EE, 0x1D607, 6), (0x1D608, 0x1D621, 13), (0x1D622, 0x1D63B, 6), (0x1D63C, 0x1D655, 13),
  (0x1D656, 0x1D66F, 6), (0x1D670, 0x1D689, 13), (0x1D68A, 0x1D6A5, 6), (0x1D6A8, 0x1D6C0, 13),
  (0x1D6C2, 0x1D6DA, 6), (0x1D6DC, 0x1D6E1, 6), (0x1D6E2, 0x1D6FA, 13), (0x1D6FC, 0x1D714, 6),
  (0x1D716, 0x1D71B, 6), (0x1D71C, 0x1D734, 13), (0x1D736, 0x1D74E, 6), (0x1D750, 0x1D755, 6),
  (0x1D756, 0x1D76E, 13), (0x1D770, 0x1D788, 6), (0x1D78A, 0x1D78F, 6), (0x1D790, 0x1D7A8, 13),
  (0x1D7AA, 0x1D7C2, 6), (0x1D7C4, 0x1D7C9, 6), (0x1D7CA, 0x1D7CA, 13), (0x1D7CB, 0x1D7CB, 6),
  (0x1D7CE, 0x1D7FF, 7), (0x1DA00, 0x1DA36, 3), (0x1DA3B, 0x1DA6C, 3), (0x1DA75, 0x1DA75, 3),
  (0x1DA84, 0x1DA84, 3), (0x1DA88, 0x1DA88, 10), (0x1DA9B, 0x1DA9F, 3), (0x1DAA1, 0x1DAAF, 3),
  (0x1DF00, 0x1DF09, 6), (0x1DF0A, 0x1DF0A, 8), (0x1DF0B, 0x1DF1E, 6), (0x1DF25, 0x1DF2A, 6),
  (0x1E000, 0x1E006, 3), (0x1E008, 0x1E018, 3), (0x1E01B, 0x1E021, 3), (0x1E023, 0x1E024, 3),
  (0x1E026, 0x1E02A, 3), (0x1E030, 0x1E06D, 6), (0x1E08F, 0x1E08F, 3), (0x1E100, 0x1E12C, 8),
  (0x1E130, 0x1E136, 3), (0x1E137, 0x1E13D, 8), (0x1E140, 0x1E149, 7), (0x1E14E, 0x1E14E, 8),
  (0x1E290, 0x1E2AD, 8), (0x1E2AE, 0x1E2AE, 3), (0x1E2C0, 0x1E2EB, 8), (0x1E2EC, 0x1E2EF, 3),
  (0x1E2F0, 0x1E2F9, 7), (0x1E4D0, 0x1E4EB, 8), (0x1E4EC, 0x1E4EF, 3), (0x1E4F0, 0x1E4F9, 7),
  (0x1E5D0, 0x1E5ED, 8), (0x1E5EE, 0x1E5EF, 3), (0x1E5F0, 0x1E5F0, 8), (0x1E5F1, 0x1E5FA, 7),
  (0x1E7E0, 0x1E7E6, 8), (0x1E7E8, 0x1E7EB, 8), (0x1E7ED, 0x1E7EE, 8), (0x1E7F0, 0x1E7FE, 8),
  (0x1E800, 0x1E8C4, 8), (0x1E8D0, 0x1E8D6, 3), (0x1E900, 0x1E921, 13), (0x1E922, 0x1E943, 6),
  (0x1E944, 0x1E94A, 3), (0x1E94B, 0x1E94B, 8), (0x1E950, 0x1E959, 7), (0x1EE00, 0x1EE03, 8),
  (0x1EE05, 0x1EE1F, 8), (0x1EE21, 0x1EE22, 8), (0x1EE24, 0x1EE24, 8), (0x1EE27, 0x1EE27, 8),
  (0x1EE29, 0x1EE32, 8), (0x1EE34, 0x1EE37, 8), (0x1EE39, 0x1EE39, 8), (0x1EE3B, 0x1EE3B, 8),
  (0x1EE42, 0x1EE42, 8), (0x1EE47, 0x1EE47, 8), (0x1EE49, 0x1EE49, 8), (0x1EE4B, 0x1EE4B, 8),
  (0x1EE4D, 0x1EE4F, 8), (0x1EE51, 0x1EE52, 8), (0x1EE54, 0x1EE54, 8), (0x1EE57, 0x1EE57, 8),
  (0x1EE59, 0x1EE59, 8), (0x1EE5B, 0x1EE5B, 8), (0x1EE5D, 0x1EE5D, 8), (0x1EE5F, 0x1EE5F, 8),
  (0x1EE61, 0x1EE62, 8), (0x1EE64, 0x1EE64, 8), (0x1EE67, 0x1EE6A, 8), (0x1EE6C, 0x1EE72, 8),
  (0x1EE74, 0x1EE77, 8), (0x1EE79, 0x1EE7C, 8), (0x1EE7E, 0x1EE7E, 8), (0x1EE80, 0x1EE89, 8),
  (0x1EE8B, 0x1EE9B, 8), (0x1EEA1, 0x1EEA3, 8), (0x1EEA5, 0x1EEA9, 8), (0x1EEAB, 0x1EEBB, 8),
  (0x1F130, 0x1F149, 13), (0x1F150, 0x1F169, 13), (0x1F170, 0x1F189, 13), (0x1F676, 0x1F678, 2),
  (0x1FBF0, 0x1FBF9, 7), (0x20000, 0x2A6DF, 8), (0x2A700, 0x2B739, 8), (0x2B740, 0x2B81D, 8),
  (0x2B820, 0x2CEA1, 8), (0x2CEB0, 0x2EBE0, 8), (0x2EBF0, 0x2EE5D, 8), (0x2F800, 0x2FA1D, 8),
  (0x30000, 0x3134A, 8), (0x31350, 0x323AF, 8), (0xE0001, 0xE0001, 4), (0xE0020, 0xE007F, 3),
  (0xE0100, 0xE01EF, 3)]

def sentenceBreakRanges : TaggedRanges :=
  sentenceBreakRangesPart1 ++ sentenceBreakRangesPart2 ++ sentenceBreakRangesPart3 ++ sentenceBreakRangesPart4 ++ sentenceBreakRangesPart5

def sentenceBreakAliases : Array (String × Nat) := #[
  ("at", 0), ("aterm", 0), ("cr", 1), ("cl", 2), ("close", 2), ("ex", 3), ("extend", 3), ("fo", 4),
  ("format", 4), ("lf", 5), ("lo", 6), ("lower", 6), ("nu", 7), ("numeric", 7), ("le", 8),
  ("oletter", 8), ("sc", 9), ("scontinue", 9), ("st", 10), ("sterm", 10), ("se", 11), ("sep", 11),
  ("sp", 12), ("up", 13), ("upper", 13)]

def sentenceBreakSet (i : Nat) : RangeTable :=
  TaggedRanges.select sentenceBreakRanges i

end ScimFilter.Text
