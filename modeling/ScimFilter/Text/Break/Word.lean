import ScimFilter.Text.Ranges
/-!
The `Word_Break` property of the Unicode Character Database, version 16.0: the class of each
character in the rules that split text into words.
-/

namespace ScimFilter.Text

/-- The values with characters, in table order; `Other`, the value of every character not
listed, names no class. -/
def wordBreakNames : Array String := #[
  "ALetter", "CR", "Double_Quote", "Extend", "ExtendNumLet", "Format", "Hebrew_Letter", "Katakana",
  "LF", "MidLetter", "MidNum", "MidNumLet", "Newline", "Numeric", "Regional_Indicator",
  "Single_Quote", "WSegSpace", "ZWJ"]

private def wordBreakRangesPart1 : TaggedRanges := #[
  (0xA, 0xA, 8), (0xB, 0xC, 12), (0xD, 0xD, 1), (0x20, 0x20, 16), (0x22, 0x22, 2), (0x27, 0x27, 15),
  (0x2C, 0x2C, 10), (0x2E, 0x2E, 11), (0x30, 0x39, 13), (0x3A, 0x3A, 9), (0x3B, 0x3B, 10),
  (0x41, 0x5A, 0), (0x5F, 0x5F, 4), (0x61, 0x7A, 0), (0x85, 0x85, 12), (0xAA, 0xAA, 0),
  (0xAD, 0xAD, 5), (0xB5, 0xB5, 0), (0xB7, 0xB7, 9), (0xBA, 0xBA, 0), (0xC0, 0xD6, 0),
  (0xD8, 0xF6, 0), (0xF8, 0x2D7, 0), (0x2DE, 0x2FF, 0), (0x300, 0x36F, 3), (0x370, 0x374, 0),
  (0x376, 0x377, 0), (0x37A, 0x37D, 0), (0x37E, 0x37E, 10), (0x37F, 0x37F, 0), (0x386, 0x386, 0),
  (0x387, 0x387, 9), (0x388, 0x38A, 0), (0x38C, 0x38C, 0), (0x38E, 0x3A1, 0), (0x3A3, 0x3F5, 0),
  (0x3F7, 0x481, 0), (0x483, 0x489, 3), (0x48A, 0x52F, 0), (0x531, 0x556, 0), (0x559, 0x55C, 0),
  (0x55E, 0x55E, 0), (0x55F, 0x55F, 9), (0x560, 0x588, 0), (0x589, 0x589, 10), (0x58A, 0x58A, 0),
  (0x591, 0x5BD, 3), (0x5BF, 0x5BF, 3), (0x5C1, 0x5C2, 3), (0x5C4, 0x5C5, 3), (0x5C7, 0x5C7, 3),
  (0x5D0, 0x5EA, 6), (0x5EF, 0x5F2, 6), (0x5F3, 0x5F3, 0), (0x5F4, 0x5F4, 9), (0x600, 0x605, 5),
  (0x60C, 0x60D, 10), (0x610, 0x61A, 3), (0x61C, 0x61C, 5), (0x620, 0x64A, 0), (0x64B, 0x65F, 3),
  (0x660, 0x669, 13), (0x66B, 0x66B, 13), (0x66C, 0x66C, 10), (0x66E, 0x66F, 0), (0x670, 0x670, 3),
  (0x671, 0x6D3, 0), (0x6D5, 0x6D5, 0), (0x6D6, 0x6DC, 3), (0x6DD, 0x6DD, 5), (0x6DF, 0x6E4, 3),
  (0x6E5, 0x6E6, 0), (0x6E7, 0x6E8, 3), (0x6EA, 0x6ED, 3), (0x6EE, 0x6EF, 0), (0x6F0, 0x6F9, 13),
  (0x6FA, 0x6FC, 0), (0x6FF, 0x6FF, 0), (0x70F, 0x70F, 5), (0x710, 0x710, 0), (0x711, 0x711, 3),
  (0x712, 0x72F, 0), (0x730, 0x74A, 3), (0x74D, 0x7A5, 0), (0x7A6, 0x7B0, 3), (0x7B1, 0x7B1, 0),
  (0x7C0, 0x7C9, 13), (0x7CA, 0x7EA, 0), (0x7EB, 0x7F3, 3), (0x7F4, 0x7F5, 0), (0x7F8, 0x7F8, 10),
  (0x7FA, 0x7FA, 0), (0x7FD, 0x7FD, 3), (0x800, 0x815, 0), (0x816, 0x819, 3), (0x81A, 0x81A, 0),
  (0x81B, 0x823, 3), (0x824, 0x824, 0), (0x825, 0x827, 3), (0x828, 0x828, 0), (0x829, 0x82D, 3),
  (0x840, 0x858, 0), (0x859, 0x85B, 3), (0x860, 0x86A, 0), (0x870, 0x887, 0), (0x889, 0x88E, 0),
  (0x890, 0x891, 5), (0x897, 0x89F, 3), (0x8A0, 0x8C9, 0), (0x8CA, 0x8E1, 3), (0x8E2, 0x8E2, 5),
  (0x8E3, 0x903, 3), (0x904, 0x939, 0), (0x93A, 0x93C, 3), (0x93D, 0x93D, 0), (0x93E, 0x94F, 3),
  (0x950, 0x950, 0), (0x951, 0x957, 3), (0x958, 0x961, 0), (0x962, 0x963, 3), (0x966, 0x96F, 13),
  (0x971, 0x980, 0), (0x981, 0x983, 3), (0x985, 0x98C, 0), (0x98F, 0x990, 0), (0x993, 0x9A8, 0),
  (0x9AA, 0x9B0, 0), (0x9B2, 0x9B2, 0), (0x9B6, 0x9B9, 0), (0x9BC, 0x9BC, 3), (0x9BD, 0x9BD, 0),
  (0x9BE, 0x9C4, 3), (0x9C7, 0x9C8, 3), (0x9CB, 0x9CD, 3), (0x9CE, 0x9CE, 0), (0x9D7, 0x9D7, 3),
  (0x9DC, 0x9DD, 0), (0x9DF, 0x9E1, 0), (0x9E2, 0x9E3, 3), (0x9E6, 0x9EF, 13), (0x9F0, 0x9F1, 0),
  (0x9FC, 0x9FC, 0), (0x9FE, 0x9FE, 3), (0xA01, 0xA03, 3), (0xA05, 0xA0A, 0), (0xA0F, 0xA10, 0),
  (0xA13, 0xA28, 0), (0xA2A, 0xA30, 0), (0xA32, 0xA33, 0), (0xA35, 0xA36, 0), (0xA38, 0xA39, 0),
  (0xA3C, 0xA3C, 3), (0xA3E, 0xA42, 3), (0xA47, 0xA48, 3), (0xA4B, 0xA4D, 3), (0xA51, 0xA51, 3),
  (0xA59, 0xA5C, 0), (0xA5E, 0xA5E, 0), (0xA66, 0xA6F, 13), (0xA70, 0xA71, 3), (0xA72, 0xA74, 0),
  (0xA75, 0xA75, 3), (0xA81, 0xA83, 3), (0xA85, 0xA8D, 0), (0xA8F, 0xA91, 0), (0xA93, 0xAA8, 0),
  (0xAAA, 0xAB0, 0), (0xAB2, 0xAB3, 0), (0xAB5, 0xAB9, 0), (0xABC, 0xABC, 3), (0xABD, 0xABD, 0),
  (0xABE, 0xAC5, 3), (0xAC7, 0xAC9, 3), (0xACB, 0xACD, 3), (0xAD0, 0xAD0, 0), (0xAE0, 0xAE1, 0),
  (0xAE2, 0xAE3, 3), (0xAE6, 0xAEF, 13), (0xAF9, 0xAF9, 0), (0xAFA, 0xAFF, 3), (0xB01, 0xB03, 3),
  (0xB05, 0xB0C, 0), (0xB0F, 0xB10, 0), (0xB13, 0xB28, 0), (0xB2A, 0xB30, 0), (0xB32, 0xB33, 0),
  (0xB35, 0xB39, 0), (0xB3C, 0xB3C, 3), (0xB3D, 0xB3D, 0), (0xB3E, 0xB44, 3), (0xB47, 0xB48, 3),
  (0xB4B, 0xB4D, 3), (0xB55, 0xB57, 3), (0xB5C, 0xB5D, 0), (0xB5F, 0xB61, 0), (0xB62, 0xB63, 3),
  (0xB66, 0xB6F, 13), (0xB71, 0xB71, 0), (0xB82, 0xB82, 3), (0xB83, 0xB83, 0), (0xB85, 0xB8A, 0),
  (0xB8E, 0xB90, 0), (0xB92, 0xB95, 0), (0xB99, 0xB9A, 0), (0xB9C, 0xB9C, 0), (0xB9E, 0xB9F, 0),
  (0xBA3, 0xBA4, 0), (0xBA8, 0xBAA, 0), (0xBAE, 0xBB9, 0), (0xBBE, 0xBC2, 3), (0xBC6, 0xBC8, 3),
  (0xBCA, 0xBCD, 3), (0xBD0, 0xBD0, 0), (0xBD7, 0xBD7, 3), (0xBE6, 0xBEF, 13), (0xC00, 0xC04, 3),
  (0xC05, 0xC0C, 0), (0xC0E, 0xC10, 0), (0xC12, 0xC28, 0), (0xC2A, 0xC39, 0), (0xC3C, 0xC3C, 3),
  (0xC3D, 0xC3D, 0), (0xC3E, 0xC44, 3), (0xC46, 0xC48, 3), (0xC4A, 0xC4D, 3), (0xC55, 0xC56, 3),
  (0xC58, 0xC5A, 0), (0xC5D, 0xC5D, 0), (0xC60, 0xC61, 0), (0xC62, 0xC63, 3), (0xC66, 0xC6F, 13),
  (0xC80, 0xC80, 0), (0xC81, 0xC83, 3), (0xC85, 0xC8C, 0), (0xC8E, 0xC90, 0), (0xC92, 0xCA8, 0),
  (0xCAA, 0xCB3, 0), (0xCB5, 0xCB9, 0), (0xCBC, 0xCBC, 3), (0xCBD, 0xCBD, 0), (0xCBE, 0xCC4, 3),
  (0xCC6, 0xCC8, 3), (0xCCA, 0xCCD, 3), (0xCD5, 0xCD6, 3), (0xCDD, 0xCDE, 0), (0xCE0, 0xCE1, 0),
  (0xCE2, 0xCE3, 3), (0xCE6, 0xCEF, 13), (0xCF1, 0xCF2, 0), (0xCF3, 0xCF3, 3), (0xD00, 0xD03, 3),
  (0xD04, 0xD0C, 0), (0xD0E, 0xD10, 0), (0xD12, 0xD3A, 0), (0xD3B, 0xD3C, 3), (0xD3D, 0xD3D, 0),
  (0xD3E, 0xD44, 3), (0xD46, 0xD48, 3), (0xD4A, 0xD4D, 3), (0xD4E, 0xD4E, 0), (0xD54, 0xD56, 0),
  (0xD57, 0xD57, 3), (0xD5F, 0xD61, 0), (0xD62, 0xD63, 3), (0xD66, 0xD6F, 13), (0xD7A, 0xD7F, 0),
  (0xD81, 0xD83, 3), (0xD85, 0xD96, 0), (0xD9A, 0xDB1, 0), (0xDB3, 0xDBB, 0), (0xDBD, 0xDBD, 0),
  (0xDC0, 0xDC6, 0), (0xDCA, 0xDCA, 3), (0xDCF, 0xDD4, 3), (0xDD6, 0xDD6, 3), (0xDD8, 0xDDF, 3),
  (0xDE6, 0xDEF, 13), (0xDF2, 0xDF3, 3), (0xE31, 0xE31, 3), (0xE34, 0xE3A, 3), (0xE47, 0xE4E, 3),
  (0xE50, 0xE59, 13), (0xEB1, 0xEB1, 3), (0xEB4, 0xEBC, 3), (0xEC8, 0xECE, 3), (0xED0, 0xED9, 13),
  (0xF00, 0xF00, 0), (0xF18, 0xF19, 3), (0xF20, 0xF29, 13), (0xF35, 0xF35, 3), (0xF37, 0xF37, 3),
  (0xF39, 0xF39, 3), (0xF3E, 0xF3F, 3), (0xF40, 0xF47, 0), (0xF49, 0xF6C, 0), (0xF71, 0xF84, 3),
  (0xF86, 0xF87, 3), (0xF88, 0xF8C, 0), (0xF8D, 0xF97, 3), (0xF99, 0xFBC, 3), (0xFC6, 0xFC6, 3),
  (0x102B, 0x103E, 3), (0x1040, 0x1049, 13), (0x1056, 0x1059, 3), (0x105E, 0x1060, 3),
  (0x1062, 0x1064, 3), (0x1067, 0x106D, 3), (0x1071, 0x1074, 3), (0x1082, 0x108D, 3),
  (0x108F, 0x108F, 3), (0x1090, 0x1099, 13), (0x109A, 0x109D, 3), (0x10A0, 0x10C5, 0),
  (0x10C7, 0x10C7, 0), (0x10CD, 0x10CD, 0), (0x10D0, 0x10FA, 0), (0x10FC, 0x1248, 0),
  (0x124A, 0x124D, 0), (0x1250, 0x1256, 0), (0x1258, 0x1258, 0), (0x125A, 0x125D, 0),
  (0x1260, 0x1288, 0), (0x128A, 0x128D, 0), (0x1290, 0x12B0, 0), (0x12B2, 0x12B5, 0),
  (0x12B8, 0x12BE, 0), (0x12C0, 0x12C0, 0), (0x12C2, 0x12C5, 0), (0x12C8, 0x12D6, 0),
  (0x12D8, 0x1310, 0), (0x1312, 0x1315, 0), (0x1318, 0x135A, 0), (0x135D, 0x135F, 3),
  (0x1380, 0x138F, 0), (0x13A0, 0x13F5, 0), (0x13F8, 0x13FD, 0), (0x1401, 0x166C, 0),
  (0x166F, 0x167F, 0), (0x1680, 0x1680, 16), (0x1681, 0x169A, 0), (0x16A0, 0x16EA, 0),
  (0x16EE, 0x16F8, 0), (0x1700, 0x1711, 0), (0x1712, 0x1715, 3), (0x171F, 0x1731, 0),
  (0x1732, 0x1734, 3), (0x1740, 0x1751, 0), (0x1752, 0x1753, 3), (0x1760, 0x176C, 0),
  (0x176E, 0x1770, 0), (0x1772, 0x1773, 3), (0x17B4, 0x17D3, 3), (0x17DD, 0x17DD, 3),
  (0x17E0, 0x17E9, 13), (0x180B, 0x180D, 3), (0x180E, 0x180E, 5), (0x180F, 0x180F, 3),
  (0x1810, 0x1819, 13), (0x1820, 0x1878, 0), (0x1880, 0x1884, 0), (0x1885, 0x1886, 3),
  (0x1887, 0x18A8, 0), (0x18A9, 0x18A9, 3), (0x18AA, 0x18AA, 0), (0x18B0, 0x18F5, 0),
  (0x1900, 0x191E, 0), (0x1920, 0x192B, 3), (0x1930, 0x193B, 3), (0x1946, 0x194F, 13),
  (0x19D0, 0x19D9, 13), (0x1A00, 0x1A16, 0), (0x1A17, 0x1A1B, 3), (0x1A55, 0x1A5E, 3),
  (0x1A60, 0x1A7C, 3), (0x1A7F, 0x1A7F, 3), (0x1A80, 0x1A89, 13), (0x1A90, 0x1A99, 13),
  (0x1AB0, 0x1ACE, 3), (0x1B00, 0x1B04, 3), (0x1B05, 0x1B33, 0), (0x1B34, 0x1B44, 3),
  (0x1B45, 0x1B4C, 0), (0x1B50, 0x1B59, 13), (0x1B6B, 0x1B73, 3), (0x1B80, 0x1B82, 3),
  (0x1B83, 0x1BA0, 0), (0x1BA1, 0x1BAD, 3), (0x1BAE, 0x1BAF, 0), (0x1BB0, 0x1BB9, 13),
  (0x1BBA, 0x1BE5, 0), (0x1BE6, 0x1BF3, 3), (0x1C00, 0x1C23, 0), (0x1C24, 0x1C37, 3),
  (0x1C40, 0x1C49, 13), (0x1C4D, 0x1C4F, 0), (0x1C50, 0x1C59, 13), (0x1C5A, 0x1C7D, 0),
  (0x1C80, 0x1C8A, 0), (0x1C90, 0x1CBA, 0), (0x1CBD, 0x1CBF, 0), (0x1CD0, 0x1CD2, 3),
  (0x1CD4, 0x1CE8, 3), (0x1CE9, 0x1CEC, 0), (0x1CED, 0x1CED, 3), (0x1CEE, 0x1CF3, 0),
  (0x1CF4, 0x1CF4, 3), (0x1CF5, 0x1CF6, 0), (0x1CF7, 0x1CF9, 3), (0x1CFA, 0x1CFA, 0),
  (0x1D00, 0x1DBF, 0), (0x1DC0, 0x1DFF, 3), (0x1E00, 0x1F15, 0), (0x1F18, 0x1F1D, 0),
  (0x1F20, 0x1F45, 0), (0x1F48, 0x1F4D, 0), (0x1F50, 0x1F57, 0), (0x1F59, 0x1F59, 0),
  (0x1F5B, 0x1F5B, 0), (0x1F5D, 0x1F5D, 0), (0x1F5F, 0x1F7D, 0), (0x1F80, 0x1FB4, 0),
  (0x1FB6, 0x1FBC, 0), (0x1FBE, 0x1FBE, 0), (0x1FC2, 0x1FC4, 0), (0x1FC6, 0x1FCC, 0),
  (0x1FD0, 0x1FD3, 0), (0x1FD6, 0x1FDB, 0), (0x1FE0, 0x1FEC, 0), (0x1FF2, 0x1FF4, 0),
  (0x1FF6, 0x1FFC, 0), (0x2000, 0x2006, 16), (0x2008, 0x200A, 16), (0x200C, 0x200C, 3),
  (0x200D, 0x200D, 17), (0x200E, 0x200F, 5), (0x2018, 0x2019, 11), (0x2024, 0x2024, 11),
  (0x2027, 0x2027, 9), (0x2028, 0x2029, 12), (0x202A, 0x202E, 5), (0x202F, 0x202F, 4),
  (0x203F, 0x2040, 4), (0x2044, 0x2044, 10), (0x2054, 0x2054, 4), (0x205F, 0x205F, 16),
  (0x2060, 0x2064, 5), (0x2066, 0x206F, 5), (0x2071, 0x2071, 0), (0x207F, 0x207F, 0),
  (0x2090, 0x209C, 0), (0x20D0, 0x20F0, 3), (0x2102, 0x2102, 0), (0x2107, 0x2107, 0),
  (0x210A, 0x2113, 0), (0x2115, 0x2115, 0), (0x2119, 0x211D, 0), (0x2124, 0x2124, 0),
  (0x2126, 0x2126, 0), (0x2128, 0x2128, 0), (0x212A, 0x212D, 0), (0x212F, 0x2139, 0),
  (0x213C, 0x213F, 0), (0x2145, 0x2149, 0), (0x214E, 0x214E, 0), (0x2160, 0x2188, 0),
  (0x24B6, 0x24E9, 0), (0x2C00, 0x2CE4, 0), (0x2CEB, 0x2CEE, 0), (0x2CEF, 0x2CF1, 3),
  (0x2CF2, 0x2CF3, 0), (0x2D00, 0x2D25, 0), (0x2D27, 0x2D27, 0), (0x2D2D, 0x2D2D, 0),
  (0x2D30, 0x2D67, 0), (0x2D6F, 0x2D6F, 0), (0x2D7F, 0x2D7F, 3), (0x2D80, 0x2D96, 0),
  (0x2DA0, 0x2DA6, 0), (0x2DA8, 0x2DAE, 0), (0x2DB0, 0x2DB6, 0), (0x2DB8, 0x2DBE, 0),
  (0x2DC0, 0x2DC6, 0), (0x2DC8, 0x2DCE, 0), (0x2DD0, 0x2DD6, 0), (0x2DD8, 0x2DDE, 0),
  (0x2DE0, 0x2DFF, 3), (0x2E2F, 0x2E2F, 0), (0x3000, 0x3000, 16), (0x3005, 0x3005, 0),
  (0x302A, 0x302F, 3), (0x3031, 0x3035, 7), (0x303B, 0x303C, 0), (0x3099, 0x309A, 3),
  (0x309B, 0x309C, 7), (0x30A0, 0x30FA, 7), (0x30FC, 0x30FF, 7), (0x3105, 0x312F, 0),
  (0x3131, 0x318E, 0), (0x31A0, 0x31BF, 0), (0x31F0, 0x31FF, 7)]

private def wordBreakRangesPart2 : TaggedRanges := #[
  (0x32D0, 0x32FE, 7), (0x3300, 0x3357, 7), (0xA000, 0xA48C, 0), (0xA4D0, 0xA4FD, 0),
  (0xA500, 0xA60C, 0), (0xA610, 0xA61F, 0), (0xA620, 0xA629, 13), (0xA62A, 0xA62B, 0),
  (0xA640, 0xA66E, 0), (0xA66F, 0xA672, 3), (0xA674, 0xA67D, 3), (0xA67F, 0xA69D, 0),
  (0xA69E, 0xA69F, 3), (0xA6A0, 0xA6EF, 0), (0xA6F0, 0xA6F1, 3), (0xA708, 0xA7CD, 0),
  (0xA7D0, 0xA7D1, 0), (0xA7D3, 0xA7D3, 0), (0xA7D5, 0xA7DC, 0), (0xA7F2, 0xA801, 0),
  (0xA802, 0xA802, 3), (0xA803, 0xA805, 0), (0xA806, 0xA806, 3), (0xA807, 0xA80A, 0),
  (0xA80B, 0xA80B, 3), (0xA80C, 0xA822, 0), (0xA823, 0xA827, 3), (0xA82C, 0xA82C, 3),
  (0xA840, 0xA873, 0), (0xA880, 0xA881, 3), (0xA882, 0xA8B3, 0), (0xA8B4, 0xA8C5, 3),
  (0xA8D0, 0xA8D9, 13), (0xA8E0, 0xA8F1, 3), (0xA8F2, 0xA8F7, 0), (0xA8FB, 0xA8FB, 0),
  (0xA8FD, 0xA8FE, 0), (0xA8FF, 0xA8FF, 3), (0xA900, 0xA909, 13), (0xA90A, 0xA925, 0),
  (0xA926, 0xA92D, 3), (0xA930, 0xA946, 0), (0xA947, 0xA953, 3), (0xA960, 0xA97C, 0),
  (0xA980, 0xA983, 3), (0xA984, 0xA9B2, 0), (0xA9B3, 0xA9C0, 3), (0xA9CF, 0xA9CF, 0),
  (0xA9D0, 0xA9D9, 13), (0xA9E5, 0xA9E5, 3), (0xA9F0, 0xA9F9, 13), (0xAA00, 0xAA28, 0),
  (0xAA29, 0xAA36, 3), (0xAA40, 0xAA42, 0), (0xAA43, 0xAA43, 3), (0xAA44, 0xAA4B, 0),
  (0xAA4C, 0xAA4D, 3), (0xAA50, 0xAA59, 13), (0xAA7B, 0xAA7D, 3), (0xAAB0, 0xAAB0, 3),
  (0xAAB2, 0xAAB4, 3), (0xAAB7, 0xAAB8, 3), (0xAABE, 0xAABF, 3), (0xAAC1, 0xAAC1, 3),
  (0xAAE0, 0xAAEA, 0), (0xAAEB, 0xAAEF, 3), (0xAAF2, 0xAAF4, 0), (0xAAF5, 0xAAF6, 3),
  (0xAB01, 0xAB06, 0), (0xAB09, 0xAB0E, 0), (0xAB11, 0xAB16, 0), (0xAB20, 0xAB26, 0),
  (0xAB28, 0xAB2E, 0), (0xAB30, 0xAB69, 0), (0xAB70, 0xABE2, 0), (0xABE3, 0xABEA, 3),
  (0xABEC, 0xABED, 3), (0xABF0, 0xABF9, 13), (0xAC00, 0xD7A3, 0), (0xD7B0, 0xD7C6, 0),
  (0xD7CB, 0xD7FB, 0), (0xFB00, 0xFB06, 0), (0xFB13, 0xFB17, 0), (0xFB1D, 0xFB1D, 6),
  (0xFB1E, 0xFB1E, 3), (0xFB1F, 0xFB28, 6), (0xFB2A, 0xFB36, 6), (0xFB38, 0xFB3C, 6),
  (0xFB3E, 0xFB3E, 6), (0xFB40, 0xFB41, 6), (0xFB43, 0xFB44, 6), (0xFB46, 0xFB4F, 6),
  (0xFB50, 0xFBB1, 0), (0xFBD3, 0xFD3D, 0), (0xFD50, 0xFD8F, 0), (0xFD92, 0xFDC7, 0),
  (0xFDF0, 0xFDFB, 0), (0xFE00, 0xFE0F, 3), (0xFE10, 0xFE10, 10), (0xFE13, 0xFE13, 9),
  (0xFE14, 0xFE14, 10), (0xFE20, 0xFE2F, 3), (0xFE33, 0xFE34, 4), (0xFE4D, 0xFE4F, 4),
  (0xFE50, 0xFE50, 10), (0xFE52, 0xFE52, 11), (0xFE54, 0xFE54, 10), (0xFE55, 0xFE55, 9),
  (0xFE70, 0xFE74, 0), (0xFE76, 0xFEFC, 0), (0xFEFF, 0xFEFF, 5), (0xFF07, 0xFF07, 11),
  (0xFF0C, 0xFF0C, 10), (0xFF0E, 0xFF0E, 11), (0xFF10, 0xFF19, 13), (0xFF1A, 0xFF1A, 9),
  (0xFF1B, 0xFF1B, 10), (0xFF21, 0xFF3A, 0), (0xFF3F, 0xFF3F, 4), (0xFF41, 0xFF5A, 0),
  (0xFF66, 0xFF9D, 7), (0xFF9E, 0xFF9F, 3), (0xFFA0, 0xFFBE, 0), (0xFFC2, 0xFFC7, 0),
  (0xFFCA, 0xFFCF, 0), (0xFFD2, 0xFFD7, 0), (0xFFDA, 0xFFDC, 0), (0xFFF9, 0xFFFB, 5),
  (0x10000, 0x1000B, 0), (0x1000D, 0x10026, 0), (0x10028, 0x1003A, 0), (0x1003C, 0x1003D, 0),
  (0x1003F, 0x1004D, 0), (0x10050, 0x1005D, 0), (0x10080, 0x100FA, 0), (0x10140, 0x10174, 0),
  (0x101FD, 0x101FD, 3), (0x10280, 0x1029C, 0), (0x102A0, 0x102D0, 0), (0x102E0, 0x102E0, 3),
  (0x10300, 0x1031F, 0), (0x1032D, 0x1034A, 0), (0x10350, 0x10375, 0), (0x10376, 0x1037A, 3),
  (0x10380, 0x1039D, 0), (0x103A0, 0x103C3, 0), (0x103C8, 0x103CF, 0), (0x103D1, 0x103D5, 0),
  (0x10400, 0x1049D, 0), (0x104A0, 0x104A9, 13), (0x104B0, 0x104D3, 0), (0x104D8, 0x104FB, 0),
  (0x10500, 0x10527, 0), (0x10530, 0x10563, 0), (0x10570, 0x1057A, 0), (0x1057C, 0x1058A, 0),
  (0x1058C, 0x10592, 0), (0x10594, 0x10595, 0), (0x10597, 0x105A1, 0), (0x105A3, 0x105B1, 0),
  (0x105B3, 0x105B9, 0), (0x105BB, 0x105BC, 0), (0x105C0, 0x105F3, 0), (0x10600, 0x10736, 0),
  (0x10740, 0x10755, 0), (0x10760, 0x10767, 0), (0x10780, 0x10785, 0), (0x10787, 0x107B0, 0),
  (0x107B2, 0x107BA, 0), (0x10800, 0x10805, 0), (0x10808, 0x10808, 0), (0x1080A, 0x10835, 0),
  (0x10837, 0x10838, 0), (0x1083C, 0x1083C, 0), (0x1083F, 0x10855, 0), (0x10860, 0x10876, 0),
  (0x10880, 0x1089E, 0), (0x108E0, 0x108F2, 0), (0x108F4, 0x108F5, 0), (0x10900, 0x10915, 0),
  (0x10920, 0x10939, 0), (0x10980, 0x109B7, 0), (0x109BE, 0x109BF, 0), (0x10A00, 0x10A00, 0),
  (0x10A01, 0x10A03, 3), (0x10A05, 0x10A06, 3), (0x10A0C, 0x10A0F, 3), (0x10A10, 0x10A13, 0),
  (0x10A15, 0x10A17, 0), (0x10A19, 0x10A35, 0), (0x10A38, 0x10A3A, 3), (0x10A3F, 0x10A3F, 3),
  (0x10A60, 0x10A7C, 0), (0x10A80, 0x10A9C, 0), (0x10AC0, 0x10AC7, 0), (0x10AC9, 0x10AE4, 0),
  (0x10AE5, 0x10AE6, 3), (0x10B00, 0x10B35, 0), (0x10B40, 0x10B55, 0), (0x10B60, 0x10B72, 0),
  (0x10B80, 0x10B91, 0), (0x10C00, 0x10C48, 0), (0x10C80, 0x10CB2, 0), (0x10CC0, 0x10CF2, 0),
  (0x10D00, 0x10D23, 0), (0x10D24, 0x10D27, 3), (0x10D30, 0x10D39, 13), (0x10D40, 0x10D49, 13),
  (0x10D4A, 0x10D65, 0), (0x10D69, 0x10D6D, 3), (0x10D6F, 0x10D85, 0), (0x10E80, 0x10EA9, 0),
  (0x10EAB, 0x10EAC, 3), (0x10EB0, 0x10EB1, 0), (0x10EC2, 0x10EC4, 0), (0x10EFC, 0x10EFF, 3),
  (0x10F00, 0x10F1C, 0), (0x10F27, 0x10F27, 0), (0x10F30, 0x10F45, 0), (0x10F46, 0x10F50, 3),
  (0x10F70, 0x10F81, 0), (0x10F82, 0x10F85, 3), (0x10FB0, 0x10FC4, 0), (0x10FE0, 0x10FF6, 0),
  (0x11000, 0x11002, 3), (0x11003, 0x11037, 0), (0x11038, 0x11046, 3), (0x11066, 0x1106F, 13),
  (0x11070, 0x11070, 3), (0x11071, 0x11072, 0), (0x11073, 0x11074, 3), (0x11075, 0x11075, 0),
  (0x1107F, 0x11082, 3), (0x11083, 0x110AF, 0), (0x110B0, 0x110BA, 3), (0x110BD, 0x110BD, 5),
  (0x110C2, 0x110C2, 3), (0x110CD, 0x110CD, 5), (0x110D0, 0x110E8, 0), (0x110F0, 0x110F9, 13),
  (0x11100, 0x11102, 3), (0x11103, 0x11126, 0), (0x11127, 0x11134, 3), (0x11136, 0x1113F, 13),
  (0x11144, 0x11144, 0), (0x11145, 0x11146, 3), (0x11147, 0x11147, 0), (0x11150, 0x11172, 0),
  (0x11173, 0x11173, 3), (0x11176, 0x11176, 0), (0x11180, 0x11182, 3), (0x11183, 0x111B2, 0),
  (0x111B3, 0x111C0, 3), (0x111C1, 0x111C4, 0), (0x111C9, 0x111CC, 3), (0x111CE, 0x111CF, 3),
  (0x111D0, 0x111D9, 13), (0x111DA, 0x111DA, 0), (0x111DC, 0x111DC, 0), (0x11200, 0x11211, 0),
  (0x11213, 0x1122B, 0), (0x1122C, 0x11237, 3), (0x1123E, 0x1123E, 3), (0x1123F, 0x11240, 0),
  (0x11241, 0x11241, 3), (0x11280, 0x11286, 0), (0x11288, 0x11288, 0), (0x1128A, 0x1128D, 0),
  (0x1128F, 0x1129D, 0), (0x1129F, 0x112A8, 0), (0x112B0, 0x112DE, 0), (0x112DF, 0x112EA, 3),
  (0x112F0, 0x112F9, 13), (0x11300, 0x11303, 3), (0x11305, 0x1130C, 0), (0x1130F, 0x11310, 0),
  (0x11313, 0x11328, 0), (0x1132A, 0x11330, 0), (0x11332, 0x11333, 0), (0x11335, 0x11339, 0),
  (0x1133B, 0x1133C, 3), (0x1133D, 0x1133D, 0), (0x1133E, 0x11344, 3), (0x11347, 0x11348, 3),
  (0x1134B, 0x1134D, 3), (0x11350, 0x11350, 0), (0x11357, 0x11357, 3), (0x1135D, 0x11361, 0),
  (0x11362, 0x11363, 3), (0x11366, 0x1136C, 3), (0x11370, 0x11374, 3), (0x11380, 0x11389, 0),
  (0x1138B, 0x1138B, 0), (0x1138E, 0x1138E, 0), (0x11390, 0x113B5, 0), (0x113B7, 0x113B7, 0),
  (0x113B8, 0x113C0, 3), (0x113C2, 0x113C2, 3), (0x113C5, 0x113C5, 3), (0x113C7, 0x113CA, 3),
  (0x113CC, 0x113D0, 3), (0x113D1, 0x113D1, 0), (0x113D2, 0x113D2, 3), (0x113D3, 0x113D3, 0),
  (0x113E1, 0x113E2, 3), (0x11400, 0x11434, 0), (0x11435, 0x11446, 3), (0x11447, 0x1144A, 0),
  (0x11450, 0x11459, 13), (0x1145E, 0x1145E, 3), (0x1145F, 0x11461, 0), (0x11480, 0x114AF, 0),
  (0x114B0, 0x114C3, 3), (0x114C4, 0x114C5, 0), (0x114C7, 0x114C7, 0), (0x114D0, 0x114D9, 13),
  (0x11580, 0x115AE, 0), (0x115AF, 0x115B5, 3), (0x115B8, 0x115C0, 3), (0x115D8, 0x115DB, 0),
  (0x115DC, 0x115DD, 3), (0x11600, 0x1162F, 0), (0x11630, 0x11640, 3), (0x11644, 0x11644, 0),
  (0x11650, 0x11659, 13), (0x11680, 0x116AA, 0), (0x116AB, 0x116B7, 3), (0x116B8, 0x116B8, 0),
  (0x116C0, 0x116C9, 13), (0x116D0, 0x116E3, 13), (0x1171D, 0x1172B, 3), (0x11730, 0x11739, 13),
  (0x11800, 0x1182B, 0), (0x1182C, 0x1183A, 3), (0x118A0, 0x118DF, 0), (0x118E0, 0x118E9, 13),
  (0x118FF, 0x11906, 0), (0x11909, 0x11909, 0), (0x1190C, 0x11913, 0), (0x11915, 0x11916, 0),
  (0x11918, 0x1192F, 0), (0x11930, 0x11935, 3), (0x11937, 0x11938, 3), (0x1193B, 0x1193E, 3),
  (0x1193F, 0x1193F, 0), (0x11940, 0x11940, 3), (0x11941, 0x11941, 0), (0x11942, 0x11943, 3),
  (0x11950, 0x11959, 13), (0x119A0, 0x119A7, 0), (0x119AA, 0x119D0, 0), (0x119D1, 0x119D7, 3),
  (0x119DA, 0x119E0, 3), (0x119E1, 0x119E1, 0), (0x119E3, 0x119E3, 0), (0x119E4, 0x119E4, 3),
  (0x11A00, 0x11A00, 0), (0x11A01, 0x11A0A, 3), (0x11A0B, 0x11A32, 0), (0x11A33, 0x11A39, 3),
  (0x11A3A, 0x11A3A, 0), (0x11A3B, 0x11A3E, 3), (0x11A47, 0x11A47, 3), (0x11A50, 0x11A50, 0),
  (0x11A51, 0x11A5B, 3), (0x11A5C, 0x11A89, 0), (0x11A8A, 0x11A99, 3), (0x11A9D, 0x11A9D, 0),
  (0x11AB0, 0x11AF8, 0), (0x11BC0, 0x11BE0, 0), (0x11BF0, 0x11BF9, 13), (0x11C00, 0x11C08, 0),
  (0x11C0A, 0x11C2E, 0), (0x11C2F, 0x11C36, 3), (0x11C38, 0x11C3F, 3), (0x11C40, 0x11C40, 0),
  (0x11C50, 0x11C59, 13), (0x11C72, 0x11C8F, 0), (0x11C92, 0x11CA7, 3), (0x11CA9, 0x11CB6, 3),
  (0x11D00, 0x11D06, 0), (0x11D08, 0x11D09, 0), (0x11D0B, 0x11D30, 0), (0x11D31, 0x11D36, 3),
  (0x11D3A, 0x11D3A, 3), (0x11D3C, 0x11D3D, 3), (0x11D3F, 0x11D45, 3), (0x11D46, 0x11D46, 0),
  (0x11D47, 0x11D47, 3), (0x11D50, 0x11D59, 13), (0x11D60, 0x11D65, 0), (0x11D67, 0x11D68, 0),
  (0x11D6A, 0x11D89, 0), (0x11D8A, 0x11D8E, 3), (0x11D90, 0x11D91, 3), (0x11D93, 0x11D97, 3),
  (0x11D98, 0x11D98, 0), (0x11DA0, 0x11DA9, 13), (0x11EE0, 0x11EF2, 0), (0x11EF3, 0x11EF6, 3),
  (0x11F00, 0x11F01, 3), (0x11F02, 0x11F02, 0), (0x11F03, 0x11F03, 3), (0x11F04, 0x11F10, 0),
  (0x11F12, 0x11F33, 0), (0x11F34, 0x11F3A, 3), (0x11F3E, 0x11F42, 3), (0x11F50, 0x11F59, 13),
  (0x11F5A, 0x11F5A, 3), (0x11FB0, 0x11FB0, 0), (0x12000, 0x12399, 0), (0x12400, 0x1246E, 0),
  (0x12480, 0x12543, 0), (0x12F90, 0x12FF0, 0), (0x13000, 0x1342F, 0), (0x13430, 0x1343F, 5),
  (0x13440, 0x13440, 3), (0x13441, 0x13446, 0), (0x13447, 0x13455, 3), (0x13460, 0x143FA, 0),
  (0x14400, 0x14646, 0), (0x16100, 0x1611D, 0), (0x1611E, 0x1612F, 3), (0x16130, 0x16139, 13),
  (0x16800, 0x16A38, 0), (0x16A40, 0x16A5E, 0), (0x16A60, 0x16A69, 13), (0x16A70, 0x16ABE, 0),
  (0x16AC0, 0x16AC9, 13), (0x16AD0, 0x16AED, 0), (0x16AF0, 0x16AF4, 3), (0x16B00, 0x16B2F, 0),
  (0x16B30, 0x16B36, 3), (0x16B40, 0x16B43, 0), (0x16B50, 0x16B59, 13), (0x16B63, 0x16B77, 0),
  (0x16B7D, 0x16B8F, 0), (0x16D40, 0x16D6C, 0), (0x16D70, 0x16D79, 13), (0x16E40, 0x16E7F, 0),
  (0x16F00, 0x16F4A, 0), (0x16F4F, 0x16F4F, 3), (0x16F50, 0x16F50, 0), (0x16F51, 0x16F87, 3),
  (0x16F8F, 0x16F92, 3), (0x16F93, 0x16F9F, 0), (0x16FE0, 0x16FE1, 0), (0x16FE3, 0x16FE3, 0),
  (0x16FE4, 0x16FE4, 3), (0x16FF0, 0x16FF1, 3), (0x1AFF0, 0x1AFF3, 7), (0x1AFF5, 0x1AFFB, 7),
  (0x1AFFD, 0x1AFFE, 7), (0x1B000, 0x1B000, 7), (0x1B120, 0x1B122, 7), (0x1B155, 0x1B155, 7),
  (0x1B164, 0x1B167, 7), (0x1BC00, 0x1BC6A, 0), (0x1BC70, 0x1BC7C, 0), (0x1BC80, 0x1BC88, 0),
  (0x1BC90, 0x1BC99, 0), (0x1BC9D, 0x1BC9E, 3), (0x1BCA0, 0x1BCA3, 5), (0x1CCF0, 0x1CCF9, 13),
  (0x1CF00, 0x1CF2D, 3), (0x1CF30, 0x1CF46, 3), (0x1D165, 0x1D169, 3), (0x1D16D, 0x1D172, 3),
  (0x1D173, 0x1D17A, 5), (0x1D17B, 0x1D182, 3), (0x1D185, 0x1D18B, 3), (0x1D1AA, 0x1D1AD, 3),
  (0x1D242, 0x1D244, 3), (0x1D400, 0x1D454, 0), (0x1D456, 0x1D49C, 0), (0x1D49E, 0x1D49F, 0),
  (0x1D4A2, 0x1D4A2, 0), (0x1D4A5, 0x1D4A6, 0), (0x1D4A9, 0x1D4AC, 0), (0x1D4AE, 0x1D4B9, 0),
  (0x1D4BB, 0x1D4BB, 0), (0x1D4BD, 0x1D4C3, 0), (0x1D4C5, 0x1D505, 0), (0x1D507, 0x1D50A, 0),
  (0x1D50D, 0x1D514, 0), (0x1D516, 0x1D51C, 0), (0x1D51E, 0x1D539, 0), (0x1D53B, 0x1D53E, 0),
  (0x1D540, 0x1D544, 0), (0x1D546, 0x1D546, 0), (0x1D54A, 0x1D550, 0), (0x1D552, 0x1D6A5, 0),
  (0x1D6A8, 0x1D6C0, 0), (0x1D6C2, 0x1D6DA, 0), (0x1D6DC, 0x1D6FA, 0), (0x1D6FC, 0x1D714, 0),
  (0x1D716, 0x1D734, 0), (0x1D736, 0x1D74E, 0), (0x1D750, 0x1D76E, 0), (0x1D770, 0x1D788, 0)]

private def wordBreakRangesPart3 : TaggedRanges := #[
  (0x1D78A, 0x1D7A8, 0), (0x1D7AA, 0x1D7C2, 0), (0x1D7C4, 0x1D7CB, 0), (0x1D7CE, 0x1D7FF, 13),
  (0x1DA00, 0x1DA36, 3), (0x1DA3B, 0x1DA6C, 3), (0x1DA75, 0x1DA75, 3), (0x1DA84, 0x1DA84, 3),
  (0x1DA9B, 0x1DA9F, 3), (0x1DAA1, 0x1DAAF, 3), (0x1DF00, 0x1DF1E, 0), (0x1DF25, 0x1DF2A, 0),
  (0x1E000, 0x1E006, 3), (0x1E008, 0x1E018, 3), (0x1E01B, 0x1E021, 3), (0x1E023, 0x1E024, 3),
  (0x1E026, 0x1E02A, 3), (0x1E030, 0x1E06D, 0), (0x1E08F, 0x1E08F, 3), (0x1E100, 0x1E12C, 0),
  (0x1E130, 0x1E136, 3), (0x1E137, 0x1E13D, 0), (0x1E140, 0x1E149, 13), (0x1E14E, 0x1E14E, 0),
  (0x1E290, 0x1E2AD, 0), (0x1E2AE, 0x1E2AE, 3), (0x1E2C0, 0x1E2EB, 0), (0x1E2EC, 0x1E2EF, 3),
  (0x1E2F0, 0x1E2F9, 13), (0x1E4D0, 0x1E4EB, 0), (0x1E4EC, 0x1E4EF, 3), (0x1E4F0, 0x1E4F9, 13),
  (0x1E5D0, 0x1E5ED, 0), (0x1E5EE, 0x1E5EF, 3), (0x1E5F0, 0x1E5F0, 0), (0x1E5F1, 0x1E5FA, 13),
  (0x1E7E0, 0x1E7E6, 0), (0x1E7E8, 0x1E7EB, 0), (0x1E7ED, 0x1E7EE, 0), (0x1E7F0, 0x1E7FE, 0),
  (0x1E800, 0x1E8C4, 0), (0x1E8D0, 0x1E8D6, 3), (0x1E900, 0x1E943, 0), (0x1E944, 0x1E94A, 3),
  (0x1E94B, 0x1E94B, 0), (0x1E950, 0x1E959, 13), (0x1EE00, 0x1EE03, 0), (0x1EE05, 0x1EE1F, 0),
  (0x1EE21, 0x1EE22, 0), (0x1EE24, 0x1EE24, 0), (0x1EE27, 0x1EE27, 0), (0x1EE29, 0x1EE32, 0),
  (0x1EE34, 0x1EE37, 0), (0x1EE39, 0x1EE39, 0), (0x1EE3B, 0x1EE3B, 0), (0x1EE42, 0x1EE42, 0),
  (0x1EE47, 0x1EE47, 0), (0x1EE49, 0x1EE49, 0), (0x1EE4B, 0x1EE4B, 0), (0x1EE4D, 0x1EE4F, 0),
  (0x1EE51, 0x1EE52, 0), (0x1EE54, 0x1EE54, 0), (0x1EE57, 0x1EE57, 0), (0x1EE59, 0x1EE59, 0),
  (0x1EE5B, 0x1EE5B, 0), (0x1EE5D, 0x1EE5D, 0), (0x1EE5F, 0x1EE5F, 0), (0x1EE61, 0x1EE62, 0),
  (0x1EE64, 0x1EE64, 0), (0x1EE67, 0x1EE6A, 0), (0x1EE6C, 0x1EE72, 0), (0x1EE74, 0x1EE77, 0),
  (0x1EE79, 0x1EE7C, 0), (0x1EE7E, 0x1EE7E, 0), (0x1EE80, 0x1EE89, 0), (0x1EE8B, 0x1EE9B, 0),
  (0x1EEA1, 0x1EEA3, 0), (0x1EEA5, 0x1EEA9, 0), (0x1EEAB, 0x1EEBB, 0), (0x1F130, 0x1F149, 0),
  (0x1F150, 0x1F169, 0), (0x1F170, 0x1F189, 0), (0x1F1E6, 0x1F1FF, 14), (0x1F3FB, 0x1F3FF, 3),
  (0x1FBF0, 0x1FBF9, 13), (0xE0001, 0xE0001, 5), (0xE0020, 0xE007F, 3), (0xE0100, 0xE01EF, 3)]

def wordBreakRanges : TaggedRanges :=
  wordBreakRangesPart1 ++ wordBreakRangesPart2 ++ wordBreakRangesPart3

def wordBreakAliases : Array (String × Nat) := #[
  ("le", 0), ("aletter", 0), ("cr", 1), ("dq", 2), ("doublequote", 2), ("extend", 3), ("ex", 4),
  ("extendnumlet", 4), ("fo", 5), ("format", 5), ("hl", 6), ("hebrewletter", 6), ("ka", 7),
  ("katakana", 7), ("lf", 8), ("ml", 9), ("midletter", 9), ("mn", 10), ("midnum", 10), ("mb", 11),
  ("midnumlet", 11), ("nl", 12), ("newline", 12), ("nu", 13), ("numeric", 13), ("ri", 14),
  ("regionalindicator", 14), ("sq", 15), ("singlequote", 15), ("wsegspace", 16), ("zwj", 17)]

def wordBreakSet (i : Nat) : RangeTable :=
  TaggedRanges.select wordBreakRanges i

end ScimFilter.Text
