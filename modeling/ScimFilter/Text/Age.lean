import ScimFilter.Text.Ranges
/-!
The version of the Unicode Standard in which each code point was assigned, up to version 16.0.
The class of a version holds the characters assigned in it or in any earlier version.
-/

namespace ScimFilter.Text

/-- The versions, oldest first. -/
def ageNames : Array String := #[
  "1.1", "2.0", "2.1", "3.0", "3.1", "3.2", "4.0", "4.1", "5.0", "5.1", "5.2", "6.0", "6.1", "6.2",
  "6.3", "7.0", "8.0", "9.0", "10.0", "11.0", "12.0", "12.1", "13.0", "14.0", "15.0", "15.1", "16.0"]

private def ageRangesPart1 : TaggedRanges := #[
  (0x0, 0x1F5, 0), (0x1F6, 0x1F9, 3), (0x1FA, 0x217, 0), (0x218, 0x21F, 3), (0x220, 0x220, 5),
  (0x221, 0x221, 6), (0x222, 0x233, 3), (0x234, 0x236, 6), (0x237, 0x241, 7), (0x242, 0x24F, 8),
  (0x250, 0x2A8, 0), (0x2A9, 0x2AD, 3), (0x2AE, 0x2AF, 6), (0x2B0, 0x2DE, 0), (0x2DF, 0x2DF, 3),
  (0x2E0, 0x2E9, 0), (0x2EA, 0x2EE, 3), (0x2EF, 0x2FF, 6), (0x300, 0x345, 0), (0x346, 0x34E, 3),
  (0x34F, 0x34F, 5), (0x350, 0x357, 6), (0x358, 0x35C, 7), (0x35D, 0x35F, 6), (0x360, 0x361, 0),
  (0x362, 0x362, 3), (0x363, 0x36F, 5), (0x370, 0x373, 9), (0x374, 0x375, 0), (0x376, 0x377, 9),
  (0x37A, 0x37A, 0), (0x37B, 0x37D, 8), (0x37E, 0x37E, 0), (0x37F, 0x37F, 15), (0x384, 0x38A, 0),
  (0x38C, 0x38C, 0), (0x38E, 0x3A1, 0), (0x3A3, 0x3CE, 0), (0x3CF, 0x3CF, 9), (0x3D0, 0x3D6, 0),
  (0x3D7, 0x3D7, 3), (0x3D8, 0x3D9, 5), (0x3DA, 0x3DA, 0), (0x3DB, 0x3DB, 3), (0x3DC, 0x3DC, 0),
  (0x3DD, 0x3DD, 3), (0x3DE, 0x3DE, 0), (0x3DF, 0x3DF, 3), (0x3E0, 0x3E0, 0), (0x3E1, 0x3E1, 3),
  (0x3E2, 0x3F3, 0), (0x3F4, 0x3F5, 4), (0x3F6, 0x3F6, 5), (0x3F7, 0x3FB, 6), (0x3FC, 0x3FF, 7),
  (0x400, 0x400, 3), (0x401, 0x40C, 0), (0x40D, 0x40D, 3), (0x40E, 0x44F, 0), (0x450, 0x450, 3),
  (0x451, 0x45C, 0), (0x45D, 0x45D, 3), (0x45E, 0x486, 0), (0x487, 0x487, 9), (0x488, 0x489, 3),
  (0x48A, 0x48B, 5), (0x48C, 0x48F, 3), (0x490, 0x4C4, 0), (0x4C5, 0x4C6, 5), (0x4C7, 0x4C8, 0),
  (0x4C9, 0x4CA, 5), (0x4CB, 0x4CC, 0), (0x4CD, 0x4CE, 5), (0x4CF, 0x4CF, 8), (0x4D0, 0x4EB, 0),
  (0x4EC, 0x4ED, 3), (0x4EE, 0x4F5, 0), (0x4F6, 0x4F7, 7), (0x4F8, 0x4F9, 0), (0x4FA, 0x4FF, 8),
  (0x500, 0x50F, 5), (0x510, 0x513, 8), (0x514, 0x523, 9), (0x524, 0x525, 10), (0x526, 0x527, 11),
  (0x528, 0x52F, 15), (0x531, 0x556, 0), (0x559, 0x55F, 0), (0x560, 0x560, 19), (0x561, 0x587, 0),
  (0x588, 0x588, 19), (0x589, 0x589, 0), (0x58A, 0x58A, 3), (0x58D, 0x58E, 15), (0x58F, 0x58F, 12),
  (0x591, 0x5A1, 1), (0x5A2, 0x5A2, 7), (0x5A3, 0x5AF, 1), (0x5B0, 0x5B9, 0), (0x5BA, 0x5BA, 8),
  (0x5BB, 0x5C3, 0), (0x5C4, 0x5C4, 1), (0x5C5, 0x5C7, 7), (0x5D0, 0x5EA, 0), (0x5EF, 0x5EF, 19),
  (0x5F0, 0x5F4, 0), (0x600, 0x603, 6), (0x604, 0x604, 12), (0x605, 0x605, 15), (0x606, 0x60A, 9),
  (0x60B, 0x60B, 7), (0x60C, 0x60C, 0), (0x60D, 0x615, 6), (0x616, 0x61A, 9), (0x61B, 0x61B, 0),
  (0x61C, 0x61C, 14), (0x61D, 0x61D, 23), (0x61E, 0x61E, 7), (0x61F, 0x61F, 0), (0x620, 0x620, 11),
  (0x621, 0x63A, 0), (0x63B, 0x63F, 9), (0x640, 0x652, 0), (0x653, 0x655, 3), (0x656, 0x658, 6),
  (0x659, 0x65E, 7), (0x65F, 0x65F, 11), (0x660, 0x66D, 0), (0x66E, 0x66F, 5), (0x670, 0x6B7, 0),
  (0x6B8, 0x6B9, 3), (0x6BA, 0x6BE, 0), (0x6BF, 0x6BF, 3), (0x6C0, 0x6CE, 0), (0x6CF, 0x6CF, 3),
  (0x6D0, 0x6ED, 0), (0x6EE, 0x6EF, 6), (0x6F0, 0x6F9, 0), (0x6FA, 0x6FE, 3), (0x6FF, 0x6FF, 6),
  (0x700, 0x70D, 3), (0x70F, 0x72C, 3), (0x72D, 0x72F, 6), (0x730, 0x74A, 3), (0x74D, 0x74F, 6),
  (0x750, 0x76D, 7), (0x76E, 0x77F, 9), (0x780, 0x7B0, 3), (0x7B1, 0x7B1, 5), (0x7C0, 0x7FA, 8),
  (0x7FD, 0x7FF, 19), (0x800, 0x82D, 10), (0x830, 0x83E, 10), (0x840, 0x85B, 11),
  (0x85E, 0x85E, 11), (0x860, 0x86A, 18), (0x870, 0x88E, 23), (0x890, 0x891, 23),
  (0x897, 0x897, 26), (0x898, 0x89F, 23), (0x8A0, 0x8A0, 12), (0x8A1, 0x8A1, 15),
  (0x8A2, 0x8AC, 12), (0x8AD, 0x8B2, 15), (0x8B3, 0x8B4, 16), (0x8B5, 0x8B5, 23),
  (0x8B6, 0x8BD, 17), (0x8BE, 0x8C7, 22), (0x8C8, 0x8D2, 23), (0x8D3, 0x8D3, 19),
  (0x8D4, 0x8E2, 17), (0x8E3, 0x8E3, 16), (0x8E4, 0x8FE, 12), (0x8FF, 0x8FF, 15),
  (0x900, 0x900, 10), (0x901, 0x903, 0), (0x904, 0x904, 6), (0x905, 0x939, 0), (0x93A, 0x93B, 11),
  (0x93C, 0x94D, 0), (0x94E, 0x94E, 10), (0x94F, 0x94F, 11), (0x950, 0x954, 0), (0x955, 0x955, 10),
  (0x956, 0x957, 11), (0x958, 0x970, 0), (0x971, 0x972, 9), (0x973, 0x977, 11), (0x978, 0x978, 15),
  (0x979, 0x97A, 10), (0x97B, 0x97C, 8), (0x97D, 0x97D, 7), (0x97E, 0x97F, 8), (0x980, 0x980, 15),
  (0x981, 0x983, 0), (0x985, 0x98C, 0), (0x98F, 0x990, 0), (0x993, 0x9A8, 0), (0x9AA, 0x9B0, 0),
  (0x9B2, 0x9B2, 0), (0x9B6, 0x9B9, 0), (0x9BC, 0x9BC, 0), (0x9BD, 0x9BD, 6), (0x9BE, 0x9C4, 0),
  (0x9C7, 0x9C8, 0), (0x9CB, 0x9CD, 0), (0x9CE, 0x9CE, 7), (0x9D7, 0x9D7, 0), (0x9DC, 0x9DD, 0),
  (0x9DF, 0x9E3, 0), (0x9E6, 0x9FA, 0), (0x9FB, 0x9FB, 10), (0x9FC, 0x9FD, 18), (0x9FE, 0x9FE, 19),
  (0xA01, 0xA01, 6), (0xA02, 0xA02, 0), (0xA03, 0xA03, 6), (0xA05, 0xA0A, 0), (0xA0F, 0xA10, 0),
  (0xA13, 0xA28, 0), (0xA2A, 0xA30, 0), (0xA32, 0xA33, 0), (0xA35, 0xA36, 0), (0xA38, 0xA39, 0),
  (0xA3C, 0xA3C, 0), (0xA3E, 0xA42, 0), (0xA47, 0xA48, 0), (0xA4B, 0xA4D, 0), (0xA51, 0xA51, 9),
  (0xA59, 0xA5C, 0), (0xA5E, 0xA5E, 0), (0xA66, 0xA74, 0), (0xA75, 0xA75, 9), (0xA76, 0xA76, 19),
  (0xA81, 0xA83, 0), (0xA85, 0xA8B, 0), (0xA8C, 0xA8C, 6), (0xA8D, 0xA8D, 0), (0xA8F, 0xA91, 0),
  (0xA93, 0xAA8, 0), (0xAAA, 0xAB0, 0), (0xAB2, 0xAB3, 0), (0xAB5, 0xAB9, 0), (0xABC, 0xAC5, 0),
  (0xAC7, 0xAC9, 0), (0xACB, 0xACD, 0), (0xAD0, 0xAD0, 0), (0xAE0, 0xAE0, 0), (0xAE1, 0xAE3, 6),
  (0xAE6, 0xAEF, 0), (0xAF0, 0xAF0, 12), (0xAF1, 0xAF1, 6), (0xAF9, 0xAF9, 16), (0xAFA, 0xAFF, 18),
  (0xB01, 0xB03, 0), (0xB05, 0xB0C, 0), (0xB0F, 0xB10, 0), (0xB13, 0xB28, 0), (0xB2A, 0xB30, 0),
  (0xB32, 0xB33, 0), (0xB35, 0xB35, 6), (0xB36, 0xB39, 0), (0xB3C, 0xB43, 0), (0xB44, 0xB44, 9),
  (0xB47, 0xB48, 0), (0xB4B, 0xB4D, 0), (0xB55, 0xB55, 22), (0xB56, 0xB57, 0), (0xB5C, 0xB5D, 0),
  (0xB5F, 0xB61, 0), (0xB62, 0xB63, 9), (0xB66, 0xB70, 0), (0xB71, 0xB71, 6), (0xB72, 0xB77, 11),
  (0xB82, 0xB83, 0), (0xB85, 0xB8A, 0), (0xB8E, 0xB90, 0), (0xB92, 0xB95, 0), (0xB99, 0xB9A, 0),
  (0xB9C, 0xB9C, 0), (0xB9E, 0xB9F, 0), (0xBA3, 0xBA4, 0), (0xBA8, 0xBAA, 0), (0xBAE, 0xBB5, 0),
  (0xBB6, 0xBB6, 7), (0xBB7, 0xBB9, 0), (0xBBE, 0xBC2, 0), (0xBC6, 0xBC8, 0), (0xBCA, 0xBCD, 0),
  (0xBD0, 0xBD0, 9), (0xBD7, 0xBD7, 0), (0xBE6, 0xBE6, 7), (0xBE7, 0xBF2, 0), (0xBF3, 0xBFA, 6),
  (0xC00, 0xC00, 15), (0xC01, 0xC03, 0), (0xC04, 0xC04, 19), (0xC05, 0xC0C, 0), (0xC0E, 0xC10, 0),
  (0xC12, 0xC28, 0), (0xC2A, 0xC33, 0), (0xC34, 0xC34, 15), (0xC35, 0xC39, 0), (0xC3C, 0xC3C, 23),
  (0xC3D, 0xC3D, 9), (0xC3E, 0xC44, 0), (0xC46, 0xC48, 0), (0xC4A, 0xC4D, 0), (0xC55, 0xC56, 0),
  (0xC58, 0xC59, 9), (0xC5A, 0xC5A, 16), (0xC5D, 0xC5D, 23), (0xC60, 0xC61, 0), (0xC62, 0xC63, 9),
  (0xC66, 0xC6F, 0), (0xC77, 0xC77, 20), (0xC78, 0xC7F, 9), (0xC80, 0xC80, 17), (0xC81, 0xC81, 15),
  (0xC82, 0xC83, 0), (0xC84, 0xC84, 19), (0xC85, 0xC8C, 0), (0xC8E, 0xC90, 0), (0xC92, 0xCA8, 0),
  (0xCAA, 0xCB3, 0), (0xCB5, 0xCB9, 0), (0xCBC, 0xCBD, 6), (0xCBE, 0xCC4, 0), (0xCC6, 0xCC8, 0),
  (0xCCA, 0xCCD, 0), (0xCD5, 0xCD6, 0), (0xCDD, 0xCDD, 23), (0xCDE, 0xCDE, 0), (0xCE0, 0xCE1, 0),
  (0xCE2, 0xCE3, 8), (0xCE6, 0xCEF, 0), (0xCF1, 0xCF2, 8), (0xCF3, 0xCF3, 24), (0xD00, 0xD00, 18),
  (0xD01, 0xD01, 15), (0xD02, 0xD03, 0), (0xD04, 0xD04, 22), (0xD05, 0xD0C, 0), (0xD0E, 0xD10, 0),
  (0xD12, 0xD28, 0), (0xD29, 0xD29, 11), (0xD2A, 0xD39, 0), (0xD3A, 0xD3A, 11), (0xD3B, 0xD3C, 18),
  (0xD3D, 0xD3D, 9), (0xD3E, 0xD43, 0), (0xD44, 0xD44, 9), (0xD46, 0xD48, 0), (0xD4A, 0xD4D, 0),
  (0xD4E, 0xD4E, 11), (0xD4F, 0xD4F, 17), (0xD54, 0xD56, 17), (0xD57, 0xD57, 0), (0xD58, 0xD5E, 17),
  (0xD5F, 0xD5F, 16), (0xD60, 0xD61, 0), (0xD62, 0xD63, 9), (0xD66, 0xD6F, 0), (0xD70, 0xD75, 9),
  (0xD76, 0xD78, 17), (0xD79, 0xD7F, 9), (0xD81, 0xD81, 22), (0xD82, 0xD83, 3), (0xD85, 0xD96, 3),
  (0xD9A, 0xDB1, 3), (0xDB3, 0xDBB, 3), (0xDBD, 0xDBD, 3), (0xDC0, 0xDC6, 3), (0xDCA, 0xDCA, 3),
  (0xDCF, 0xDD4, 3), (0xDD6, 0xDD6, 3), (0xDD8, 0xDDF, 3), (0xDE6, 0xDEF, 15), (0xDF2, 0xDF4, 3),
  (0xE01, 0xE3A, 0), (0xE3F, 0xE5B, 0), (0xE81, 0xE82, 0), (0xE84, 0xE84, 0), (0xE86, 0xE86, 20),
  (0xE87, 0xE88, 0), (0xE89, 0xE89, 20), (0xE8A, 0xE8A, 0), (0xE8C, 0xE8C, 20), (0xE8D, 0xE8D, 0),
  (0xE8E, 0xE93, 20), (0xE94, 0xE97, 0), (0xE98, 0xE98, 20), (0xE99, 0xE9F, 0), (0xEA0, 0xEA0, 20),
  (0xEA1, 0xEA3, 0), (0xEA5, 0xEA5, 0), (0xEA7, 0xEA7, 0), (0xEA8, 0xEA9, 20), (0xEAA, 0xEAB, 0),
  (0xEAC, 0xEAC, 20), (0xEAD, 0xEB9, 0), (0xEBA, 0xEBA, 20), (0xEBB, 0xEBD, 0), (0xEC0, 0xEC4, 0),
  (0xEC6, 0xEC6, 0), (0xEC8, 0xECD, 0), (0xECE, 0xECE, 24), (0xED0, 0xED9, 0), (0xEDC, 0xEDD, 0),
  (0xEDE, 0xEDF, 12), (0xF00, 0xF47, 1), (0xF49, 0xF69, 1), (0xF6A, 0xF6A, 3), (0xF6B, 0xF6C, 9),
  (0xF71, 0xF8B, 1), (0xF8C, 0xF8F, 11), (0xF90, 0xF95, 1), (0xF96, 0xF96, 3), (0xF97, 0xF97, 1),
  (0xF99, 0xFAD, 1), (0xFAE, 0xFB0, 3), (0xFB1, 0xFB7, 1), (0xFB8, 0xFB8, 3), (0xFB9, 0xFB9, 1),
  (0xFBA, 0xFBC, 3), (0xFBE, 0xFCC, 3), (0xFCE, 0xFCE, 9), (0xFCF, 0xFCF, 3), (0xFD0, 0xFD1, 7),
  (0xFD2, 0xFD4, 9), (0xFD5, 0xFD8, 10), (0xFD9, 0xFDA, 11), (0x1000, 0x1021, 3),
  (0x1022, 0x1022, 9), (0x1023, 0x1027, 3), (0x1028, 0x1028, 9), (0x1029, 0x102A, 3),
  (0x102B, 0x102B, 9), (0x102C, 0x1032, 3), (0x1033, 0x1035, 9), (0x1036, 0x1039, 3),
  (0x103A, 0x103F, 9), (0x1040, 0x1059, 3), (0x105A, 0x1099, 9), (0x109A, 0x109D, 10),
  (0x109E, 0x109F, 9), (0x10A0, 0x10C5, 0), (0x10C7, 0x10C7, 12), (0x10CD, 0x10CD, 12),
  (0x10D0, 0x10F6, 0), (0x10F7, 0x10F8, 5), (0x10F9, 0x10FA, 7), (0x10FB, 0x10FB, 0),
  (0x10FC, 0x10FC, 7), (0x10FD, 0x10FF, 12), (0x1100, 0x1159, 0), (0x115A, 0x115E, 10),
  (0x115F, 0x11A2, 0), (0x11A3, 0x11A7, 10), (0x11A8, 0x11F9, 0), (0x11FA, 0x11FF, 10),
  (0x1200, 0x1206, 3), (0x1207, 0x1207, 7), (0x1208, 0x1246, 3), (0x1247, 0x1247, 7),
  (0x1248, 0x1248, 3), (0x124A, 0x124D, 3), (0x1250, 0x1256, 3), (0x1258, 0x1258, 3),
  (0x125A, 0x125D, 3), (0x1260, 0x1286, 3), (0x1287, 0x1287, 7), (0x1288, 0x1288, 3),
  (0x128A, 0x128D, 3), (0x1290, 0x12AE, 3), (0x12AF, 0x12AF, 7), (0x12B0, 0x12B0, 3),
  (0x12B2, 0x12B5, 3), (0x12B8, 0x12BE, 3), (0x12C0, 0x12C0, 3), (0x12C2, 0x12C5, 3),
  (0x12C8, 0x12CE, 3), (0x12CF, 0x12CF, 7), (0x12D0, 0x12D6, 3), (0x12D8, 0x12EE, 3),
  (0x12EF, 0x12EF, 7), (0x12F0, 0x130E, 3), (0x130F, 0x130F, 7), (0x1310, 0x1310, 3),
  (0x1312, 0x1315, 3), (0x1318, 0x131E, 3), (0x131F, 0x131F, 7), (0x1320, 0x1346, 3),
  (0x1347, 0x1347, 7), (0x1348, 0x135A, 3), (0x135D, 0x135E, 11), (0x135F, 0x1360, 7),
  (0x1361, 0x137C, 3), (0x1380, 0x1399, 7), (0x13A0, 0x13F4, 3)]

private def ageRangesPart2 : TaggedRanges := #[
  (0x13F5, 0x13F5, 16), (0x13F8, 0x13FD, 16), (0x1400, 0x1400, 10), (0x1401, 0x1676, 3),
  (0x1677, 0x167F, 10), (0x1680, 0x169C, 3), (0x16A0, 0x16F0, 3), (0x16F1, 0x16F8, 15),
  (0x1700, 0x170C, 5), (0x170D, 0x170D, 23), (0x170E, 0x1714, 5), (0x1715, 0x1715, 23),
  (0x171F, 0x171F, 23), (0x1720, 0x1736, 5), (0x1740, 0x1753, 5), (0x1760, 0x176C, 5),
  (0x176E, 0x1770, 5), (0x1772, 0x1773, 5), (0x1780, 0x17DC, 3), (0x17DD, 0x17DD, 6),
  (0x17E0, 0x17E9, 3), (0x17F0, 0x17F9, 6), (0x1800, 0x180E, 3), (0x180F, 0x180F, 23),
  (0x1810, 0x1819, 3), (0x1820, 0x1877, 3), (0x1878, 0x1878, 19), (0x1880, 0x18A9, 3),
  (0x18AA, 0x18AA, 9), (0x18B0, 0x18F5, 10), (0x1900, 0x191C, 6), (0x191D, 0x191E, 15),
  (0x1920, 0x192B, 6), (0x1930, 0x193B, 6), (0x1940, 0x1940, 6), (0x1944, 0x196D, 6),
  (0x1970, 0x1974, 6), (0x1980, 0x19A9, 7), (0x19AA, 0x19AB, 10), (0x19B0, 0x19C9, 7),
  (0x19D0, 0x19D9, 7), (0x19DA, 0x19DA, 10), (0x19DE, 0x19DF, 7), (0x19E0, 0x19FF, 6),
  (0x1A00, 0x1A1B, 7), (0x1A1E, 0x1A1F, 7), (0x1A20, 0x1A5E, 10), (0x1A60, 0x1A7C, 10),
  (0x1A7F, 0x1A89, 10), (0x1A90, 0x1A99, 10), (0x1AA0, 0x1AAD, 10), (0x1AB0, 0x1ABE, 15),
  (0x1ABF, 0x1AC0, 22), (0x1AC1, 0x1ACE, 23), (0x1B00, 0x1B4B, 8), (0x1B4C, 0x1B4C, 23),
  (0x1B4E, 0x1B4F, 26), (0x1B50, 0x1B7C, 8), (0x1B7D, 0x1B7E, 23), (0x1B7F, 0x1B7F, 26),
  (0x1B80, 0x1BAA, 9), (0x1BAB, 0x1BAD, 12), (0x1BAE, 0x1BB9, 9), (0x1BBA, 0x1BBF, 12),
  (0x1BC0, 0x1BF3, 11), (0x1BFC, 0x1BFF, 11), (0x1C00, 0x1C37, 9), (0x1C3B, 0x1C49, 9),
  (0x1C4D, 0x1C7F, 9), (0x1C80, 0x1C88, 17), (0x1C89, 0x1C8A, 26), (0x1C90, 0x1CBA, 19),
  (0x1CBD, 0x1CBF, 19), (0x1CC0, 0x1CC7, 12), (0x1CD0, 0x1CF2, 10), (0x1CF3, 0x1CF6, 12),
  (0x1CF7, 0x1CF7, 18), (0x1CF8, 0x1CF9, 15), (0x1CFA, 0x1CFA, 20), (0x1D00, 0x1D6B, 6),
  (0x1D6C, 0x1DC3, 7), (0x1DC4, 0x1DCA, 8), (0x1DCB, 0x1DE6, 9), (0x1DE7, 0x1DF5, 15),
  (0x1DF6, 0x1DF9, 18), (0x1DFA, 0x1DFA, 23), (0x1DFB, 0x1DFB, 17), (0x1DFC, 0x1DFC, 11),
  (0x1DFD, 0x1DFD, 10), (0x1DFE, 0x1DFF, 8), (0x1E00, 0x1E9A, 0), (0x1E9B, 0x1E9B, 1),
  (0x1E9C, 0x1E9F, 9), (0x1EA0, 0x1EF9, 0), (0x1EFA, 0x1EFF, 9), (0x1F00, 0x1F15, 0),
  (0x1F18, 0x1F1D, 0), (0x1F20, 0x1F45, 0), (0x1F48, 0x1F4D, 0), (0x1F50, 0x1F57, 0),
  (0x1F59, 0x1F59, 0), (0x1F5B, 0x1F5B, 0), (0x1F5D, 0x1F5D, 0), (0x1F5F, 0x1F7D, 0),
  (0x1F80, 0x1FB4, 0), (0x1FB6, 0x1FC4, 0), (0x1FC6, 0x1FD3, 0), (0x1FD6, 0x1FDB, 0),
  (0x1FDD, 0x1FEF, 0), (0x1FF2, 0x1FF4, 0), (0x1FF6, 0x1FFE, 0), (0x2000, 0x202E, 0),
  (0x202F, 0x202F, 3), (0x2030, 0x2046, 0), (0x2047, 0x2047, 5), (0x2048, 0x204D, 3),
  (0x204E, 0x2052, 5), (0x2053, 0x2054, 6), (0x2055, 0x2056, 7), (0x2057, 0x2057, 5),
  (0x2058, 0x205E, 7), (0x205F, 0x2063, 5), (0x2064, 0x2064, 9), (0x2066, 0x2069, 14),
  (0x206A, 0x2070, 0), (0x2071, 0x2071, 5), (0x2074, 0x208E, 0), (0x2090, 0x2094, 7),
  (0x2095, 0x209C, 11), (0x20A0, 0x20AA, 0), (0x20AB, 0x20AB, 1), (0x20AC, 0x20AC, 2),
  (0x20AD, 0x20AF, 3), (0x20B0, 0x20B1, 5), (0x20B2, 0x20B5, 7), (0x20B6, 0x20B8, 10),
  (0x20B9, 0x20B9, 11), (0x20BA, 0x20BA, 13), (0x20BB, 0x20BD, 15), (0x20BE, 0x20BE, 16),
  (0x20BF, 0x20BF, 18), (0x20C0, 0x20C0, 23), (0x20D0, 0x20E1, 0), (0x20E2, 0x20E3, 3),
  (0x20E4, 0x20EA, 5), (0x20EB, 0x20EB, 7), (0x20EC, 0x20EF, 8), (0x20F0, 0x20F0, 9),
  (0x2100, 0x2138, 0), (0x2139, 0x213A, 3), (0x213B, 0x213B, 6), (0x213C, 0x213C, 7),
  (0x213D, 0x214B, 5), (0x214C, 0x214C, 7), (0x214D, 0x214E, 8), (0x214F, 0x214F, 9),
  (0x2150, 0x2152, 10), (0x2153, 0x2182, 0), (0x2183, 0x2183, 3), (0x2184, 0x2184, 8),
  (0x2185, 0x2188, 9), (0x2189, 0x2189, 10), (0x218A, 0x218B, 16), (0x2190, 0x21EA, 0),
  (0x21EB, 0x21F3, 3), (0x21F4, 0x21FF, 5), (0x2200, 0x22F1, 0), (0x22F2, 0x22FF, 5),
  (0x2300, 0x2300, 0), (0x2301, 0x2301, 3), (0x2302, 0x237A, 0), (0x237B, 0x237B, 3),
  (0x237C, 0x237C, 5), (0x237D, 0x239A, 3), (0x239B, 0x23CE, 5), (0x23CF, 0x23D0, 6),
  (0x23D1, 0x23DB, 7), (0x23DC, 0x23E7, 8), (0x23E8, 0x23E8, 10), (0x23E9, 0x23F3, 11),
  (0x23F4, 0x23FA, 15), (0x23FB, 0x23FE, 17), (0x23FF, 0x23FF, 18), (0x2400, 0x2424, 0),
  (0x2425, 0x2426, 3), (0x2427, 0x2429, 26), (0x2440, 0x244A, 0), (0x2460, 0x24EA, 0),
  (0x24EB, 0x24FE, 5), (0x24FF, 0x24FF, 6), (0x2500, 0x2595, 0), (0x2596, 0x259F, 5),
  (0x25A0, 0x25EF, 0), (0x25F0, 0x25F7, 3), (0x25F8, 0x25FF, 5), (0x2600, 0x2613, 0),
  (0x2614, 0x2615, 6), (0x2616, 0x2617, 5), (0x2618, 0x2618, 7), (0x2619, 0x2619, 3),
  (0x261A, 0x266F, 0), (0x2670, 0x2671, 3), (0x2672, 0x267D, 5), (0x267E, 0x267F, 7),
  (0x2680, 0x2689, 5), (0x268A, 0x2691, 6), (0x2692, 0x269C, 7), (0x269D, 0x269D, 9),
  (0x269E, 0x269F, 10), (0x26A0, 0x26A1, 6), (0x26A2, 0x26B1, 7), (0x26B2, 0x26B2, 8),
  (0x26B3, 0x26BC, 9), (0x26BD, 0x26BF, 10), (0x26C0, 0x26C3, 9), (0x26C4, 0x26CD, 10),
  (0x26CE, 0x26CE, 11), (0x26CF, 0x26E1, 10), (0x26E2, 0x26E2, 11), (0x26E3, 0x26E3, 10),
  (0x26E4, 0x26E7, 11), (0x26E8, 0x26FF, 10), (0x2700, 0x2700, 15), (0x2701, 0x2704, 0),
  (0x2705, 0x2705, 11), (0x2706, 0x2709, 0), (0x270A, 0x270B, 11), (0x270C, 0x2727, 0),
  (0x2728, 0x2728, 11), (0x2729, 0x274B, 0), (0x274C, 0x274C, 11), (0x274D, 0x274D, 0),
  (0x274E, 0x274E, 11), (0x274F, 0x2752, 0), (0x2753, 0x2755, 11), (0x2756, 0x2756, 0),
  (0x2757, 0x2757, 10), (0x2758, 0x275E, 0), (0x275F, 0x2760, 11), (0x2761, 0x2767, 0),
  (0x2768, 0x2775, 5), (0x2776, 0x2794, 0), (0x2795, 0x2797, 11), (0x2798, 0x27AF, 0),
  (0x27B0, 0x27B0, 11), (0x27B1, 0x27BE, 0), (0x27BF, 0x27BF, 11), (0x27C0, 0x27C6, 7),
  (0x27C7, 0x27CA, 8), (0x27CB, 0x27CB, 12), (0x27CC, 0x27CC, 9), (0x27CD, 0x27CD, 12),
  (0x27CE, 0x27CF, 11), (0x27D0, 0x27EB, 5), (0x27EC, 0x27EF, 9), (0x27F0, 0x27FF, 5),
  (0x2800, 0x28FF, 3), (0x2900, 0x2AFF, 5), (0x2B00, 0x2B0D, 6), (0x2B0E, 0x2B13, 7),
  (0x2B14, 0x2B1A, 8), (0x2B1B, 0x2B1F, 9), (0x2B20, 0x2B23, 8), (0x2B24, 0x2B4C, 9),
  (0x2B4D, 0x2B4F, 15), (0x2B50, 0x2B54, 9), (0x2B55, 0x2B59, 10), (0x2B5A, 0x2B73, 15),
  (0x2B76, 0x2B95, 15), (0x2B97, 0x2B97, 22), (0x2B98, 0x2BB9, 15), (0x2BBA, 0x2BBC, 19),
  (0x2BBD, 0x2BC8, 15), (0x2BC9, 0x2BC9, 20), (0x2BCA, 0x2BD1, 15), (0x2BD2, 0x2BD2, 18),
  (0x2BD3, 0x2BEB, 19), (0x2BEC, 0x2BEF, 16), (0x2BF0, 0x2BFE, 19), (0x2BFF, 0x2BFF, 20),
  (0x2C00, 0x2C2E, 7), (0x2C2F, 0x2C2F, 23), (0x2C30, 0x2C5E, 7), (0x2C5F, 0x2C5F, 23),
  (0x2C60, 0x2C6C, 8), (0x2C6D, 0x2C6F, 9), (0x2C70, 0x2C70, 10), (0x2C71, 0x2C73, 9),
  (0x2C74, 0x2C77, 8), (0x2C78, 0x2C7D, 9), (0x2C7E, 0x2C7F, 10), (0x2C80, 0x2CEA, 7),
  (0x2CEB, 0x2CF1, 10), (0x2CF2, 0x2CF3, 12), (0x2CF9, 0x2D25, 7), (0x2D27, 0x2D27, 12),
  (0x2D2D, 0x2D2D, 12), (0x2D30, 0x2D65, 7), (0x2D66, 0x2D67, 12), (0x2D6F, 0x2D6F, 7),
  (0x2D70, 0x2D70, 11), (0x2D7F, 0x2D7F, 11), (0x2D80, 0x2D96, 7), (0x2DA0, 0x2DA6, 7),
  (0x2DA8, 0x2DAE, 7), (0x2DB0, 0x2DB6, 7), (0x2DB8, 0x2DBE, 7), (0x2DC0, 0x2DC6, 7),
  (0x2DC8, 0x2DCE, 7), (0x2DD0, 0x2DD6, 7), (0x2DD8, 0x2DDE, 7), (0x2DE0, 0x2DFF, 9),
  (0x2E00, 0x2E17, 7), (0x2E18, 0x2E1B, 9), (0x2E1C, 0x2E1D, 7), (0x2E1E, 0x2E30, 9),
  (0x2E31, 0x2E31, 10), (0x2E32, 0x2E3B, 12), (0x2E3C, 0x2E42, 15), (0x2E43, 0x2E44, 17),
  (0x2E45, 0x2E49, 18), (0x2E4A, 0x2E4E, 19), (0x2E4F, 0x2E4F, 20), (0x2E50, 0x2E52, 22),
  (0x2E53, 0x2E5D, 23), (0x2E80, 0x2E99, 3), (0x2E9B, 0x2EF3, 3), (0x2F00, 0x2FD5, 3),
  (0x2FF0, 0x2FFB, 3), (0x2FFC, 0x2FFF, 25), (0x3000, 0x3037, 0), (0x3038, 0x303A, 3),
  (0x303B, 0x303D, 5), (0x303E, 0x303E, 3), (0x303F, 0x303F, 0), (0x3041, 0x3094, 0),
  (0x3095, 0x3096, 5), (0x3099, 0x309E, 0), (0x309F, 0x30A0, 5), (0x30A1, 0x30FE, 0),
  (0x30FF, 0x30FF, 5), (0x3105, 0x312C, 0), (0x312D, 0x312D, 9), (0x312E, 0x312E, 18),
  (0x312F, 0x312F, 19), (0x3131, 0x318E, 0), (0x3190, 0x319F, 0), (0x31A0, 0x31B7, 3),
  (0x31B8, 0x31BA, 11), (0x31BB, 0x31BF, 22), (0x31C0, 0x31CF, 7), (0x31D0, 0x31E3, 9),
  (0x31E4, 0x31E5, 26), (0x31EF, 0x31EF, 25), (0x31F0, 0x31FF, 5), (0x3200, 0x321C, 0),
  (0x321D, 0x321E, 6), (0x3220, 0x3243, 0), (0x3244, 0x324F, 10), (0x3250, 0x3250, 6),
  (0x3251, 0x325F, 5), (0x3260, 0x327B, 0), (0x327C, 0x327D, 6), (0x327E, 0x327E, 7),
  (0x327F, 0x32B0, 0), (0x32B1, 0x32BF, 5), (0x32C0, 0x32CB, 0), (0x32CC, 0x32CF, 6),
  (0x32D0, 0x32FE, 0), (0x32FF, 0x32FF, 21), (0x3300, 0x3376, 0), (0x3377, 0x337A, 6),
  (0x337B, 0x33DD, 0), (0x33DE, 0x33DF, 6), (0x33E0, 0x33FE, 0), (0x33FF, 0x33FF, 6),
  (0x3400, 0x4DB5, 3), (0x4DB6, 0x4DBF, 22), (0x4DC0, 0x4DFF, 6), (0x4E00, 0x9FA5, 0),
  (0x9FA6, 0x9FBB, 7), (0x9FBC, 0x9FC3, 9), (0x9FC4, 0x9FCB, 10), (0x9FCC, 0x9FCC, 12),
  (0x9FCD, 0x9FD5, 16), (0x9FD6, 0x9FEA, 18), (0x9FEB, 0x9FEF, 19), (0x9FF0, 0x9FFC, 22),
  (0x9FFD, 0x9FFF, 23), (0xA000, 0xA48C, 3), (0xA490, 0xA4A1, 3), (0xA4A2, 0xA4A3, 5),
  (0xA4A4, 0xA4B3, 3), (0xA4B4, 0xA4B4, 5), (0xA4B5, 0xA4C0, 3), (0xA4C1, 0xA4C1, 5),
  (0xA4C2, 0xA4C4, 3), (0xA4C5, 0xA4C5, 5), (0xA4C6, 0xA4C6, 3), (0xA4D0, 0xA4FF, 10),
  (0xA500, 0xA62B, 9), (0xA640, 0xA65F, 9), (0xA660, 0xA661, 11), (0xA662, 0xA673, 9),
  (0xA674, 0xA67B, 12), (0xA67C, 0xA697, 9), (0xA698, 0xA69D, 15), (0xA69E, 0xA69E, 16),
  (0xA69F, 0xA69F, 12), (0xA6A0, 0xA6F7, 10), (0xA700, 0xA716, 7), (0xA717, 0xA71A, 8),
  (0xA71B, 0xA71F, 9), (0xA720, 0xA721, 8), (0xA722, 0xA78C, 9), (0xA78D, 0xA78E, 11),
  (0xA78F, 0xA78F, 16), (0xA790, 0xA791, 11), (0xA792, 0xA793, 12), (0xA794, 0xA79F, 15),
  (0xA7A0, 0xA7A9, 11), (0xA7AA, 0xA7AA, 12), (0xA7AB, 0xA7AD, 15), (0xA7AE, 0xA7AE, 17),
  (0xA7AF, 0xA7AF, 19), (0xA7B0, 0xA7B1, 15), (0xA7B2, 0xA7B7, 16), (0xA7B8, 0xA7B9, 19),
  (0xA7BA, 0xA7BF, 20), (0xA7C0, 0xA7C1, 23), (0xA7C2, 0xA7C6, 20), (0xA7C7, 0xA7CA, 22),
  (0xA7CB, 0xA7CD, 26), (0xA7D0, 0xA7D1, 23), (0xA7D3, 0xA7D3, 23), (0xA7D5, 0xA7D9, 23),
  (0xA7DA, 0xA7DC, 26), (0xA7F2, 0xA7F4, 23), (0xA7F5, 0xA7F6, 22), (0xA7F7, 0xA7F7, 15),
  (0xA7F8, 0xA7F9, 12), (0xA7FA, 0xA7FA, 11), (0xA7FB, 0xA7FF, 9), (0xA800, 0xA82B, 7),
  (0xA82C, 0xA82C, 22), (0xA830, 0xA839, 10), (0xA840, 0xA877, 8), (0xA880, 0xA8C4, 9),
  (0xA8C5, 0xA8C5, 17), (0xA8CE, 0xA8D9, 9), (0xA8E0, 0xA8FB, 10), (0xA8FC, 0xA8FD, 16),
  (0xA8FE, 0xA8FF, 19), (0xA900, 0xA953, 9), (0xA95F, 0xA95F, 9), (0xA960, 0xA97C, 10),
  (0xA980, 0xA9CD, 10), (0xA9CF, 0xA9D9, 10), (0xA9DE, 0xA9DF, 10), (0xA9E0, 0xA9FE, 15),
  (0xAA00, 0xAA36, 9), (0xAA40, 0xAA4D, 9), (0xAA50, 0xAA59, 9), (0xAA5C, 0xAA5F, 9),
  (0xAA60, 0xAA7B, 10), (0xAA7C, 0xAA7F, 15), (0xAA80, 0xAAC2, 10), (0xAADB, 0xAADF, 10),
  (0xAAE0, 0xAAF6, 12), (0xAB01, 0xAB06, 11), (0xAB09, 0xAB0E, 11), (0xAB11, 0xAB16, 11),
  (0xAB20, 0xAB26, 11), (0xAB28, 0xAB2E, 11), (0xAB30, 0xAB5F, 15), (0xAB60, 0xAB63, 16),
  (0xAB64, 0xAB65, 15), (0xAB66, 0xAB67, 20), (0xAB68, 0xAB6B, 22), (0xAB70, 0xABBF, 16),
  (0xABC0, 0xABED, 10), (0xABF0, 0xABF9, 10), (0xAC00, 0xD7A3, 1), (0xD7B0, 0xD7C6, 10),
  (0xD7CB, 0xD7FB, 10), (0xD800, 0xDFFF, 1), (0xE000, 0xFA2D, 0), (0xFA2E, 0xFA2F, 12),
  (0xFA30, 0xFA6A, 5), (0xFA6B, 0xFA6D, 10), (0xFA70, 0xFAD9, 7), (0xFB00, 0xFB06, 0),
  (0xFB13, 0xFB17, 0), (0xFB1D, 0xFB1D, 3), (0xFB1E, 0xFB36, 0), (0xFB38, 0xFB3C, 0),
  (0xFB3E, 0xFB3E, 0), (0xFB40, 0xFB41, 0), (0xFB43, 0xFB44, 0), (0xFB46, 0xFBB1, 0)]

private def ageRangesPart3 : TaggedRanges := #[
  (0xFBB2, 0xFBC1, 11), (0xFBC2, 0xFBC2, 23), (0xFBD3, 0xFD3F, 0), (0xFD40, 0xFD4F, 23),
  (0xFD50, 0xFD8F, 0), (0xFD92, 0xFDC7, 0), (0xFDCF, 0xFDCF, 23), (0xFDD0, 0xFDEF, 4),
  (0xFDF0, 0xFDFB, 0), (0xFDFC, 0xFDFC, 5), (0xFDFD, 0xFDFD, 6), (0xFDFE, 0xFDFF, 23),
  (0xFE00, 0xFE0F, 5), (0xFE10, 0xFE19, 7), (0xFE20, 0xFE23, 0), (0xFE24, 0xFE26, 9),
  (0xFE27, 0xFE2D, 15), (0xFE2E, 0xFE2F, 16), (0xFE30, 0xFE44, 0), (0xFE45, 0xFE46, 5),
  (0xFE47, 0xFE48, 6), (0xFE49, 0xFE52, 0), (0xFE54, 0xFE66, 0), (0xFE68, 0xFE6B, 0),
  (0xFE70, 0xFE72, 0), (0xFE73, 0xFE73, 5), (0xFE74, 0xFE74, 0), (0xFE76, 0xFEFC, 0),
  (0xFEFF, 0xFEFF, 0), (0xFF01, 0xFF5E, 0), (0xFF5F, 0xFF60, 5), (0xFF61, 0xFFBE, 0),
  (0xFFC2, 0xFFC7, 0), (0xFFCA, 0xFFCF, 0), (0xFFD2, 0xFFD7, 0), (0xFFDA, 0xFFDC, 0),
  (0xFFE0, 0xFFE6, 0), (0xFFE8, 0xFFEE, 0), (0xFFF9, 0xFFFB, 3), (0xFFFC, 0xFFFC, 2),
  (0xFFFD, 0xFFFF, 0), (0x10000, 0x1000B, 6), (0x1000D, 0x10026, 6), (0x10028, 0x1003A, 6),
  (0x1003C, 0x1003D, 6), (0x1003F, 0x1004D, 6), (0x10050, 0x1005D, 6), (0x10080, 0x100FA, 6),
  (0x10100, 0x10102, 6), (0x10107, 0x10133, 6), (0x10137, 0x1013F, 6), (0x10140, 0x1018A, 7),
  (0x1018B, 0x1018C, 15), (0x1018D, 0x1018E, 17), (0x10190, 0x1019B, 9), (0x1019C, 0x1019C, 22),
  (0x101A0, 0x101A0, 15), (0x101D0, 0x101FD, 9), (0x10280, 0x1029C, 9), (0x102A0, 0x102D0, 9),
  (0x102E0, 0x102FB, 15), (0x10300, 0x1031E, 4), (0x1031F, 0x1031F, 15), (0x10320, 0x10323, 4),
  (0x1032D, 0x1032F, 18), (0x10330, 0x1034A, 4), (0x10350, 0x1037A, 15), (0x10380, 0x1039D, 6),
  (0x1039F, 0x1039F, 6), (0x103A0, 0x103C3, 7), (0x103C8, 0x103D5, 7), (0x10400, 0x10425, 4),
  (0x10426, 0x10427, 6), (0x10428, 0x1044D, 4), (0x1044E, 0x1049D, 6), (0x104A0, 0x104A9, 6),
  (0x104B0, 0x104D3, 17), (0x104D8, 0x104FB, 17), (0x10500, 0x10527, 15), (0x10530, 0x10563, 15),
  (0x1056F, 0x1056F, 15), (0x10570, 0x1057A, 23), (0x1057C, 0x1058A, 23), (0x1058C, 0x10592, 23),
  (0x10594, 0x10595, 23), (0x10597, 0x105A1, 23), (0x105A3, 0x105B1, 23), (0x105B3, 0x105B9, 23),
  (0x105BB, 0x105BC, 23), (0x105C0, 0x105F3, 26), (0x10600, 0x10736, 15), (0x10740, 0x10755, 15),
  (0x10760, 0x10767, 15), (0x10780, 0x10785, 23), (0x10787, 0x107B0, 23), (0x107B2, 0x107BA, 23),
  (0x10800, 0x10805, 6), (0x10808, 0x10808, 6), (0x1080A, 0x10835, 6), (0x10837, 0x10838, 6),
  (0x1083C, 0x1083C, 6), (0x1083F, 0x1083F, 6), (0x10840, 0x10855, 10), (0x10857, 0x1085F, 10),
  (0x10860, 0x1089E, 15), (0x108A7, 0x108AF, 15), (0x108E0, 0x108F2, 16), (0x108F4, 0x108F5, 16),
  (0x108FB, 0x108FF, 16), (0x10900, 0x10919, 8), (0x1091A, 0x1091B, 10), (0x1091F, 0x1091F, 8),
  (0x10920, 0x10939, 9), (0x1093F, 0x1093F, 9), (0x10980, 0x109B7, 12), (0x109BC, 0x109BD, 16),
  (0x109BE, 0x109BF, 12), (0x109C0, 0x109CF, 16), (0x109D2, 0x109FF, 16), (0x10A00, 0x10A03, 7),
  (0x10A05, 0x10A06, 7), (0x10A0C, 0x10A13, 7), (0x10A15, 0x10A17, 7), (0x10A19, 0x10A33, 7),
  (0x10A34, 0x10A35, 19), (0x10A38, 0x10A3A, 7), (0x10A3F, 0x10A47, 7), (0x10A48, 0x10A48, 19),
  (0x10A50, 0x10A58, 7), (0x10A60, 0x10A7F, 10), (0x10A80, 0x10A9F, 15), (0x10AC0, 0x10AE6, 15),
  (0x10AEB, 0x10AF6, 15), (0x10B00, 0x10B35, 10), (0x10B39, 0x10B55, 10), (0x10B58, 0x10B72, 10),
  (0x10B78, 0x10B7F, 10), (0x10B80, 0x10B91, 15), (0x10B99, 0x10B9C, 15), (0x10BA9, 0x10BAF, 15),
  (0x10C00, 0x10C48, 10), (0x10C80, 0x10CB2, 16), (0x10CC0, 0x10CF2, 16), (0x10CFA, 0x10CFF, 16),
  (0x10D00, 0x10D27, 19), (0x10D30, 0x10D39, 19), (0x10D40, 0x10D65, 26), (0x10D69, 0x10D85, 26),
  (0x10D8E, 0x10D8F, 26), (0x10E60, 0x10E7E, 10), (0x10E80, 0x10EA9, 22), (0x10EAB, 0x10EAD, 22),
  (0x10EB0, 0x10EB1, 22), (0x10EC2, 0x10EC4, 26), (0x10EFC, 0x10EFC, 26), (0x10EFD, 0x10EFF, 24),
  (0x10F00, 0x10F27, 19), (0x10F30, 0x10F59, 19), (0x10F70, 0x10F89, 23), (0x10FB0, 0x10FCB, 22),
  (0x10FE0, 0x10FF6, 20), (0x11000, 0x1104D, 11), (0x11052, 0x1106F, 11), (0x11070, 0x11075, 23),
  (0x1107F, 0x1107F, 15), (0x11080, 0x110C1, 10), (0x110C2, 0x110C2, 23), (0x110CD, 0x110CD, 19),
  (0x110D0, 0x110E8, 12), (0x110F0, 0x110F9, 12), (0x11100, 0x11134, 12), (0x11136, 0x11143, 12),
  (0x11144, 0x11146, 19), (0x11147, 0x11147, 22), (0x11150, 0x11176, 15), (0x11180, 0x111C8, 12),
  (0x111C9, 0x111CC, 16), (0x111CD, 0x111CD, 15), (0x111CE, 0x111CF, 22), (0x111D0, 0x111D9, 12),
  (0x111DA, 0x111DA, 15), (0x111DB, 0x111DF, 16), (0x111E1, 0x111F4, 15), (0x11200, 0x11211, 15),
  (0x11213, 0x1123D, 15), (0x1123E, 0x1123E, 17), (0x1123F, 0x11241, 24), (0x11280, 0x11286, 16),
  (0x11288, 0x11288, 16), (0x1128A, 0x1128D, 16), (0x1128F, 0x1129D, 16), (0x1129F, 0x112A9, 16),
  (0x112B0, 0x112EA, 15), (0x112F0, 0x112F9, 15), (0x11300, 0x11300, 16), (0x11301, 0x11303, 15),
  (0x11305, 0x1130C, 15), (0x1130F, 0x11310, 15), (0x11313, 0x11328, 15), (0x1132A, 0x11330, 15),
  (0x11332, 0x11333, 15), (0x11335, 0x11339, 15), (0x1133B, 0x1133B, 19), (0x1133C, 0x11344, 15),
  (0x11347, 0x11348, 15), (0x1134B, 0x1134D, 15), (0x11350, 0x11350, 16), (0x11357, 0x11357, 15),
  (0x1135D, 0x11363, 15), (0x11366, 0x1136C, 15), (0x11370, 0x11374, 15), (0x11380, 0x11389, 26),
  (0x1138B, 0x1138B, 26), (0x1138E, 0x1138E, 26), (0x11390, 0x113B5, 26), (0x113B7, 0x113C0, 26),
  (0x113C2, 0x113C2, 26), (0x113C5, 0x113C5, 26), (0x113C7, 0x113CA, 26), (0x113CC, 0x113D5, 26),
  (0x113D7, 0x113D8, 26), (0x113E1, 0x113E2, 26), (0x11400, 0x11459, 17), (0x1145A, 0x1145A, 22),
  (0x1145B, 0x1145B, 17), (0x1145D, 0x1145D, 17), (0x1145E, 0x1145E, 19), (0x1145F, 0x1145F, 20),
  (0x11460, 0x11461, 22), (0x11480, 0x114C7, 15), (0x114D0, 0x114D9, 15), (0x11580, 0x115B5, 15),
  (0x115B8, 0x115C9, 15), (0x115CA, 0x115DD, 16), (0x11600, 0x11644, 15), (0x11650, 0x11659, 15),
  (0x11660, 0x1166C, 17), (0x11680, 0x116B7, 12), (0x116B8, 0x116B8, 20), (0x116B9, 0x116B9, 23),
  (0x116C0, 0x116C9, 12), (0x116D0, 0x116E3, 26), (0x11700, 0x11719, 16), (0x1171A, 0x1171A, 19),
  (0x1171D, 0x1172B, 16), (0x11730, 0x1173F, 16), (0x11740, 0x11746, 23), (0x11800, 0x1183B, 19),
  (0x118A0, 0x118F2, 15), (0x118FF, 0x118FF, 15), (0x11900, 0x11906, 22), (0x11909, 0x11909, 22),
  (0x1190C, 0x11913, 22), (0x11915, 0x11916, 22), (0x11918, 0x11935, 22), (0x11937, 0x11938, 22),
  (0x1193B, 0x11946, 22), (0x11950, 0x11959, 22), (0x119A0, 0x119A7, 20), (0x119AA, 0x119D7, 20),
  (0x119DA, 0x119E4, 20), (0x11A00, 0x11A47, 18), (0x11A50, 0x11A83, 18), (0x11A84, 0x11A85, 20),
  (0x11A86, 0x11A9C, 18), (0x11A9D, 0x11A9D, 19), (0x11A9E, 0x11AA2, 18), (0x11AB0, 0x11ABF, 23),
  (0x11AC0, 0x11AF8, 15), (0x11B00, 0x11B09, 24), (0x11BC0, 0x11BE1, 26), (0x11BF0, 0x11BF9, 26),
  (0x11C00, 0x11C08, 17), (0x11C0A, 0x11C36, 17), (0x11C38, 0x11C45, 17), (0x11C50, 0x11C6C, 17),
  (0x11C70, 0x11C8F, 17), (0x11C92, 0x11CA7, 17), (0x11CA9, 0x11CB6, 17), (0x11D00, 0x11D06, 18),
  (0x11D08, 0x11D09, 18), (0x11D0B, 0x11D36, 18), (0x11D3A, 0x11D3A, 18), (0x11D3C, 0x11D3D, 18),
  (0x11D3F, 0x11D47, 18), (0x11D50, 0x11D59, 18), (0x11D60, 0x11D65, 19), (0x11D67, 0x11D68, 19),
  (0x11D6A, 0x11D8E, 19), (0x11D90, 0x11D91, 19), (0x11D93, 0x11D98, 19), (0x11DA0, 0x11DA9, 19),
  (0x11EE0, 0x11EF8, 19), (0x11F00, 0x11F10, 24), (0x11F12, 0x11F3A, 24), (0x11F3E, 0x11F59, 24),
  (0x11F5A, 0x11F5A, 26), (0x11FB0, 0x11FB0, 22), (0x11FC0, 0x11FF1, 20), (0x11FFF, 0x11FFF, 20),
  (0x12000, 0x1236E, 8), (0x1236F, 0x12398, 15), (0x12399, 0x12399, 16), (0x12400, 0x12462, 8),
  (0x12463, 0x1246E, 15), (0x12470, 0x12473, 8), (0x12474, 0x12474, 15), (0x12480, 0x12543, 16),
  (0x12F90, 0x12FF2, 23), (0x13000, 0x1342E, 10), (0x1342F, 0x1342F, 24), (0x13430, 0x13438, 20),
  (0x13439, 0x13455, 24), (0x13460, 0x143FA, 26), (0x14400, 0x14646, 16), (0x16100, 0x16139, 26),
  (0x16800, 0x16A38, 11), (0x16A40, 0x16A5E, 15), (0x16A60, 0x16A69, 15), (0x16A6E, 0x16A6F, 15),
  (0x16A70, 0x16ABE, 23), (0x16AC0, 0x16AC9, 23), (0x16AD0, 0x16AED, 15), (0x16AF0, 0x16AF5, 15),
  (0x16B00, 0x16B45, 15), (0x16B50, 0x16B59, 15), (0x16B5B, 0x16B61, 15), (0x16B63, 0x16B77, 15),
  (0x16B7D, 0x16B8F, 15), (0x16D40, 0x16D79, 26), (0x16E40, 0x16E9A, 19), (0x16F00, 0x16F44, 12),
  (0x16F45, 0x16F4A, 20), (0x16F4F, 0x16F4F, 20), (0x16F50, 0x16F7E, 12), (0x16F7F, 0x16F87, 20),
  (0x16F8F, 0x16F9F, 12), (0x16FE0, 0x16FE0, 17), (0x16FE1, 0x16FE1, 18), (0x16FE2, 0x16FE3, 20),
  (0x16FE4, 0x16FE4, 22), (0x16FF0, 0x16FF1, 22), (0x17000, 0x187EC, 17), (0x187ED, 0x187F1, 19),
  (0x187F2, 0x187F7, 20), (0x18800, 0x18AF2, 17), (0x18AF3, 0x18CD5, 22), (0x18CFF, 0x18CFF, 26),
  (0x18D00, 0x18D08, 22), (0x1AFF0, 0x1AFF3, 23), (0x1AFF5, 0x1AFFB, 23), (0x1AFFD, 0x1AFFE, 23),
  (0x1B000, 0x1B001, 11), (0x1B002, 0x1B11E, 18), (0x1B11F, 0x1B122, 23), (0x1B132, 0x1B132, 24),
  (0x1B150, 0x1B152, 20), (0x1B155, 0x1B155, 24), (0x1B164, 0x1B167, 20), (0x1B170, 0x1B2FB, 18),
  (0x1BC00, 0x1BC6A, 15), (0x1BC70, 0x1BC7C, 15), (0x1BC80, 0x1BC88, 15), (0x1BC90, 0x1BC99, 15),
  (0x1BC9C, 0x1BCA3, 15), (0x1CC00, 0x1CCF9, 26), (0x1CD00, 0x1CEB3, 26), (0x1CF00, 0x1CF2D, 23),
  (0x1CF30, 0x1CF46, 23), (0x1CF50, 0x1CFC3, 23), (0x1D000, 0x1D0F5, 4), (0x1D100, 0x1D126, 4),
  (0x1D129, 0x1D129, 9), (0x1D12A, 0x1D1DD, 4), (0x1D1DE, 0x1D1E8, 16), (0x1D1E9, 0x1D1EA, 23),
  (0x1D200, 0x1D245, 7), (0x1D2C0, 0x1D2D3, 24), (0x1D2E0, 0x1D2F3, 19), (0x1D300, 0x1D356, 6),
  (0x1D360, 0x1D371, 8), (0x1D372, 0x1D378, 19), (0x1D400, 0x1D454, 4), (0x1D456, 0x1D49C, 4),
  (0x1D49E, 0x1D49F, 4), (0x1D4A2, 0x1D4A2, 4), (0x1D4A5, 0x1D4A6, 4), (0x1D4A9, 0x1D4AC, 4),
  (0x1D4AE, 0x1D4B9, 4), (0x1D4BB, 0x1D4BB, 4), (0x1D4BD, 0x1D4C0, 4), (0x1D4C1, 0x1D4C1, 6),
  (0x1D4C2, 0x1D4C3, 4), (0x1D4C5, 0x1D505, 4), (0x1D507, 0x1D50A, 4), (0x1D50D, 0x1D514, 4),
  (0x1D516, 0x1D51C, 4), (0x1D51E, 0x1D539, 4), (0x1D53B, 0x1D53E, 4), (0x1D540, 0x1D544, 4),
  (0x1D546, 0x1D546, 4), (0x1D54A, 0x1D550, 4), (0x1D552, 0x1D6A3, 4), (0x1D6A4, 0x1D6A5, 7),
  (0x1D6A8, 0x1D7C9, 4), (0x1D7CA, 0x1D7CB, 8), (0x1D7CE, 0x1D7FF, 4), (0x1D800, 0x1DA8B, 16),
  (0x1DA9B, 0x1DA9F, 16), (0x1DAA1, 0x1DAAF, 16), (0x1DF00, 0x1DF1E, 23), (0x1DF25, 0x1DF2A, 24),
  (0x1E000, 0x1E006, 17), (0x1E008, 0x1E018, 17), (0x1E01B, 0x1E021, 17), (0x1E023, 0x1E024, 17),
  (0x1E026, 0x1E02A, 17), (0x1E030, 0x1E06D, 24), (0x1E08F, 0x1E08F, 24), (0x1E100, 0x1E12C, 20),
  (0x1E130, 0x1E13D, 20), (0x1E140, 0x1E149, 20), (0x1E14E, 0x1E14F, 20), (0x1E290, 0x1E2AE, 23),
  (0x1E2C0, 0x1E2F9, 20), (0x1E2FF, 0x1E2FF, 20), (0x1E4D0, 0x1E4F9, 24), (0x1E5D0, 0x1E5FA, 26),
  (0x1E5FF, 0x1E5FF, 26), (0x1E7E0, 0x1E7E6, 23), (0x1E7E8, 0x1E7EB, 23), (0x1E7ED, 0x1E7EE, 23),
  (0x1E7F0, 0x1E7FE, 23), (0x1E800, 0x1E8C4, 15), (0x1E8C7, 0x1E8D6, 15), (0x1E900, 0x1E94A, 17),
  (0x1E94B, 0x1E94B, 20), (0x1E950, 0x1E959, 17), (0x1E95E, 0x1E95F, 17), (0x1EC71, 0x1ECB4, 19),
  (0x1ED01, 0x1ED3D, 20), (0x1EE00, 0x1EE03, 12), (0x1EE05, 0x1EE1F, 12), (0x1EE21, 0x1EE22, 12),
  (0x1EE24, 0x1EE24, 12), (0x1EE27, 0x1EE27, 12), (0x1EE29, 0x1EE32, 12), (0x1EE34, 0x1EE37, 12),
  (0x1EE39, 0x1EE39, 12), (0x1EE3B, 0x1EE3B, 12), (0x1EE42, 0x1EE42, 12), (0x1EE47, 0x1EE47, 12),
  (0x1EE49, 0x1EE49, 12), (0x1EE4B, 0x1EE4B, 12), (0x1EE4D, 0x1EE4F, 12), (0x1EE51, 0x1EE52, 12),
  (0x1EE54, 0x1EE54, 12), (0x1EE57, 0x1EE57, 12), (0x1EE59, 0x1EE59, 12), (0x1EE5B, 0x1EE5B, 12),
  (0x1EE5D, 0x1EE5D, 12), (0x1EE5F, 0x1EE5F, 12), (0x1EE61, 0x1EE62, 12), (0x1EE64, 0x1EE64, 12),
  (0x1EE67, 0x1EE6A, 12), (0x1EE6C, 0x1EE72, 12), (0x1EE74, 0x1EE77, 12), (0x1EE79, 0x1EE7C, 12),
  (0x1EE7E, 0x1EE7E, 12), (0x1EE80, 0x1EE89, 12), (0x1EE8B, 0x1EE9B, 12), (0x1EEA1, 0x1EEA3, 12),
  (0x1EEA5, 0x1EEA9, 12), (0x1EEAB, 0x1EEBB, 12), (0x1EEF0, 0x1EEF1, 12), (0x1F000, 0x1F02B, 9),
  (0x1F030, 0x1F093, 9), (0x1F0A0, 0x1F0AE, 11), (0x1F0B1, 0x1F0BE, 11), (0x1F0BF, 0x1F0BF, 15),
  (0x1F0C1, 0x1F0CF, 11), (0x1F0D1, 0x1F0DF, 11), (0x1F0E0, 0x1F0F5, 15), (0x1F100, 0x1F10A, 10),
  (0x1F10B, 0x1F10C, 15), (0x1F10D, 0x1F10F, 22), (0x1F110, 0x1F12E, 10), (0x1F12F, 0x1F12F, 19),
  (0x1F130, 0x1F130, 11), (0x1F131, 0x1F131, 10), (0x1F132, 0x1F13C, 11), (0x1F13D, 0x1F13D, 10),
  (0x1F13E, 0x1F13E, 11), (0x1F13F, 0x1F13F, 10), (0x1F140, 0x1F141, 11), (0x1F142, 0x1F142, 10),
  (0x1F143, 0x1F145, 11), (0x1F146, 0x1F146, 10), (0x1F147, 0x1F149, 11), (0x1F14A, 0x1F14E, 10)]

private def ageRangesPart4 : TaggedRanges := #[
  (0x1F14F, 0x1F156, 11), (0x1F157, 0x1F157, 10), (0x1F158, 0x1F15E, 11), (0x1F15F, 0x1F15F, 10),
  (0x1F160, 0x1F169, 11), (0x1F16A, 0x1F16B, 12), (0x1F16C, 0x1F16C, 20), (0x1F16D, 0x1F16F, 22),
  (0x1F170, 0x1F178, 11), (0x1F179, 0x1F179, 10), (0x1F17A, 0x1F17A, 11), (0x1F17B, 0x1F17C, 10),
  (0x1F17D, 0x1F17E, 11), (0x1F17F, 0x1F17F, 10), (0x1F180, 0x1F189, 11), (0x1F18A, 0x1F18D, 10),
  (0x1F18E, 0x1F18F, 11), (0x1F190, 0x1F190, 10), (0x1F191, 0x1F19A, 11), (0x1F19B, 0x1F1AC, 17),
  (0x1F1AD, 0x1F1AD, 22), (0x1F1E6, 0x1F1FF, 11), (0x1F200, 0x1F200, 10), (0x1F201, 0x1F202, 11),
  (0x1F210, 0x1F231, 10), (0x1F232, 0x1F23A, 11), (0x1F23B, 0x1F23B, 17), (0x1F240, 0x1F248, 10),
  (0x1F250, 0x1F251, 11), (0x1F260, 0x1F265, 18), (0x1F300, 0x1F320, 11), (0x1F321, 0x1F32C, 15),
  (0x1F32D, 0x1F32F, 16), (0x1F330, 0x1F335, 11), (0x1F336, 0x1F336, 15), (0x1F337, 0x1F37C, 11),
  (0x1F37D, 0x1F37D, 15), (0x1F37E, 0x1F37F, 16), (0x1F380, 0x1F393, 11), (0x1F394, 0x1F39F, 15),
  (0x1F3A0, 0x1F3C4, 11), (0x1F3C5, 0x1F3C5, 15), (0x1F3C6, 0x1F3CA, 11), (0x1F3CB, 0x1F3CE, 15),
  (0x1F3CF, 0x1F3D3, 16), (0x1F3D4, 0x1F3DF, 15), (0x1F3E0, 0x1F3F0, 11), (0x1F3F1, 0x1F3F7, 15),
  (0x1F3F8, 0x1F3FF, 16), (0x1F400, 0x1F43E, 11), (0x1F43F, 0x1F43F, 15), (0x1F440, 0x1F440, 11),
  (0x1F441, 0x1F441, 15), (0x1F442, 0x1F4F7, 11), (0x1F4F8, 0x1F4F8, 15), (0x1F4F9, 0x1F4FC, 11),
  (0x1F4FD, 0x1F4FE, 15), (0x1F4FF, 0x1F4FF, 16), (0x1F500, 0x1F53D, 11), (0x1F53E, 0x1F53F, 15),
  (0x1F540, 0x1F543, 12), (0x1F544, 0x1F54A, 15), (0x1F54B, 0x1F54F, 16), (0x1F550, 0x1F567, 11),
  (0x1F568, 0x1F579, 15), (0x1F57A, 0x1F57A, 17), (0x1F57B, 0x1F5A3, 15), (0x1F5A4, 0x1F5A4, 17),
  (0x1F5A5, 0x1F5FA, 15), (0x1F5FB, 0x1F5FF, 11), (0x1F600, 0x1F600, 12), (0x1F601, 0x1F610, 11),
  (0x1F611, 0x1F611, 12), (0x1F612, 0x1F614, 11), (0x1F615, 0x1F615, 12), (0x1F616, 0x1F616, 11),
  (0x1F617, 0x1F617, 12), (0x1F618, 0x1F618, 11), (0x1F619, 0x1F619, 12), (0x1F61A, 0x1F61A, 11),
  (0x1F61B, 0x1F61B, 12), (0x1F61C, 0x1F61E, 11), (0x1F61F, 0x1F61F, 12), (0x1F620, 0x1F625, 11),
  (0x1F626, 0x1F627, 12), (0x1F628, 0x1F62B, 11), (0x1F62C, 0x1F62C, 12), (0x1F62D, 0x1F62D, 11),
  (0x1F62E, 0x1F62F, 12), (0x1F630, 0x1F633, 11), (0x1F634, 0x1F634, 12), (0x1F635, 0x1F640, 11),
  (0x1F641, 0x1F642, 15), (0x1F643, 0x1F644, 16), (0x1F645, 0x1F64F, 11), (0x1F650, 0x1F67F, 15),
  (0x1F680, 0x1F6C5, 11), (0x1F6C6, 0x1F6CF, 15), (0x1F6D0, 0x1F6D0, 16), (0x1F6D1, 0x1F6D2, 17),
  (0x1F6D3, 0x1F6D4, 18), (0x1F6D5, 0x1F6D5, 20), (0x1F6D6, 0x1F6D7, 22), (0x1F6DC, 0x1F6DC, 24),
  (0x1F6DD, 0x1F6DF, 23), (0x1F6E0, 0x1F6EC, 15), (0x1F6F0, 0x1F6F3, 15), (0x1F6F4, 0x1F6F6, 17),
  (0x1F6F7, 0x1F6F8, 18), (0x1F6F9, 0x1F6F9, 19), (0x1F6FA, 0x1F6FA, 20), (0x1F6FB, 0x1F6FC, 22),
  (0x1F700, 0x1F773, 11), (0x1F774, 0x1F776, 24), (0x1F77B, 0x1F77F, 24), (0x1F780, 0x1F7D4, 15),
  (0x1F7D5, 0x1F7D8, 19), (0x1F7D9, 0x1F7D9, 24), (0x1F7E0, 0x1F7EB, 20), (0x1F7F0, 0x1F7F0, 23),
  (0x1F800, 0x1F80B, 15), (0x1F810, 0x1F847, 15), (0x1F850, 0x1F859, 15), (0x1F860, 0x1F887, 15),
  (0x1F890, 0x1F8AD, 15), (0x1F8B0, 0x1F8B1, 22), (0x1F8B2, 0x1F8BB, 26), (0x1F8C0, 0x1F8C1, 26),
  (0x1F900, 0x1F90B, 18), (0x1F90C, 0x1F90C, 22), (0x1F90D, 0x1F90F, 20), (0x1F910, 0x1F918, 16),
  (0x1F919, 0x1F91E, 17), (0x1F91F, 0x1F91F, 18), (0x1F920, 0x1F927, 17), (0x1F928, 0x1F92F, 18),
  (0x1F930, 0x1F930, 17), (0x1F931, 0x1F932, 18), (0x1F933, 0x1F93E, 17), (0x1F93F, 0x1F93F, 20),
  (0x1F940, 0x1F94B, 17), (0x1F94C, 0x1F94C, 18), (0x1F94D, 0x1F94F, 19), (0x1F950, 0x1F95E, 17),
  (0x1F95F, 0x1F96B, 18), (0x1F96C, 0x1F970, 19), (0x1F971, 0x1F971, 20), (0x1F972, 0x1F972, 22),
  (0x1F973, 0x1F976, 19), (0x1F977, 0x1F978, 22), (0x1F979, 0x1F979, 23), (0x1F97A, 0x1F97A, 19),
  (0x1F97B, 0x1F97B, 20), (0x1F97C, 0x1F97F, 19), (0x1F980, 0x1F984, 16), (0x1F985, 0x1F991, 17),
  (0x1F992, 0x1F997, 18), (0x1F998, 0x1F9A2, 19), (0x1F9A3, 0x1F9A4, 22), (0x1F9A5, 0x1F9AA, 20),
  (0x1F9AB, 0x1F9AD, 22), (0x1F9AE, 0x1F9AF, 20), (0x1F9B0, 0x1F9B9, 19), (0x1F9BA, 0x1F9BF, 20),
  (0x1F9C0, 0x1F9C0, 16), (0x1F9C1, 0x1F9C2, 19), (0x1F9C3, 0x1F9CA, 20), (0x1F9CB, 0x1F9CB, 22),
  (0x1F9CC, 0x1F9CC, 23), (0x1F9CD, 0x1F9CF, 20), (0x1F9D0, 0x1F9E6, 18), (0x1F9E7, 0x1F9FF, 19),
  (0x1FA00, 0x1FA53, 20), (0x1FA60, 0x1FA6D, 19), (0x1FA70, 0x1FA73, 20), (0x1FA74, 0x1FA74, 22),
  (0x1FA75, 0x1FA77, 24), (0x1FA78, 0x1FA7A, 20), (0x1FA7B, 0x1FA7C, 23), (0x1FA80, 0x1FA82, 20),
  (0x1FA83, 0x1FA86, 22), (0x1FA87, 0x1FA88, 24), (0x1FA89, 0x1FA89, 26), (0x1FA8F, 0x1FA8F, 26),
  (0x1FA90, 0x1FA95, 20), (0x1FA96, 0x1FAA8, 22), (0x1FAA9, 0x1FAAC, 23), (0x1FAAD, 0x1FAAF, 24),
  (0x1FAB0, 0x1FAB6, 22), (0x1FAB7, 0x1FABA, 23), (0x1FABB, 0x1FABD, 24), (0x1FABE, 0x1FABE, 26),
  (0x1FABF, 0x1FABF, 24), (0x1FAC0, 0x1FAC2, 22), (0x1FAC3, 0x1FAC5, 23), (0x1FAC6, 0x1FAC6, 26),
  (0x1FACE, 0x1FACF, 24), (0x1FAD0, 0x1FAD6, 22), (0x1FAD7, 0x1FAD9, 23), (0x1FADA, 0x1FADB, 24),
  (0x1FADC, 0x1FADC, 26), (0x1FADF, 0x1FADF, 26), (0x1FAE0, 0x1FAE7, 23), (0x1FAE8, 0x1FAE8, 24),
  (0x1FAE9, 0x1FAE9, 26), (0x1FAF0, 0x1FAF6, 23), (0x1FAF7, 0x1FAF8, 24), (0x1FB00, 0x1FB92, 22),
  (0x1FB94, 0x1FBCA, 22), (0x1FBCB, 0x1FBEF, 26), (0x1FBF0, 0x1FBF9, 22), (0x1FBFA, 0x1FBFA, 26),
  (0x1FFFE, 0x1FFFF, 1), (0x20000, 0x2A6D6, 4), (0x2A6D7, 0x2A6DD, 22), (0x2A6DE, 0x2A6DF, 23),
  (0x2A700, 0x2B734, 10), (0x2B735, 0x2B738, 23), (0x2B739, 0x2B739, 24), (0x2B740, 0x2B81D, 11),
  (0x2B820, 0x2CEA1, 16), (0x2CEB0, 0x2EBE0, 18), (0x2EBF0, 0x2EE5D, 25), (0x2F800, 0x2FA1D, 4),
  (0x2FFFE, 0x2FFFF, 1), (0x30000, 0x3134A, 22), (0x31350, 0x323AF, 24), (0x3FFFE, 0x3FFFF, 1),
  (0x4FFFE, 0x4FFFF, 1), (0x5FFFE, 0x5FFFF, 1), (0x6FFFE, 0x6FFFF, 1), (0x7FFFE, 0x7FFFF, 1),
  (0x8FFFE, 0x8FFFF, 1), (0x9FFFE, 0x9FFFF, 1), (0xAFFFE, 0xAFFFF, 1), (0xBFFFE, 0xBFFFF, 1),
  (0xCFFFE, 0xCFFFF, 1), (0xDFFFE, 0xDFFFF, 1), (0xE0001, 0xE0001, 4), (0xE0020, 0xE007F, 4),
  (0xE0100, 0xE01EF, 6), (0xEFFFE, 0x10FFFF, 1)]

/-- Ranges of code points with the index of the version that assigned them, sorted. -/
def ageRanges : TaggedRanges :=
  ageRangesPart1 ++ ageRangesPart2 ++ ageRangesPart3 ++ ageRangesPart4

/-- Every name of a version, in loose form, with its index: `1.1` and `v11` both name the
first. -/
def ageAliases : Array (String × Nat) := #[
  ("1.1", 0), ("v11", 0), ("2.0", 1), ("v20", 1), ("2.1", 2), ("v21", 2), ("3.0", 3), ("v30", 3),
  ("3.1", 4), ("v31", 4), ("3.2", 5), ("v32", 5), ("4.0", 6), ("v40", 6), ("4.1", 7), ("v41", 7),
  ("5.0", 8), ("v50", 8), ("5.1", 9), ("v51", 9), ("5.2", 10), ("v52", 10), ("6.0", 11),
  ("v60", 11), ("6.1", 12), ("v61", 12), ("6.2", 13), ("v62", 13), ("6.3", 14), ("v63", 14),
  ("7.0", 15), ("v70", 15), ("8.0", 16), ("v80", 16), ("9.0", 17), ("v90", 17), ("10.0", 18),
  ("v100", 18), ("11.0", 19), ("v110", 19), ("12.0", 20), ("v120", 20), ("12.1", 21), ("v121", 21),
  ("13.0", 22), ("v130", 22), ("14.0", 23), ("v140", 23), ("15.0", 24), ("v150", 24), ("15.1", 25),
  ("v151", 25), ("16.0", 26), ("v160", 26)]

/-- The ranges of the characters first assigned in the version with the given index. -/
def ageSet (i : Nat) : RangeTable :=
  TaggedRanges.select ageRanges i

end ScimFilter.Text
