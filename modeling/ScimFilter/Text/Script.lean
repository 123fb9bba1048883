import ScimFilter.Text.Ranges
/-!
Scripts of the Unicode Character Database, version 16.0. Each assigned code point belongs to
one script, `Common` and `Inherited` included; a code point in none of the listed ranges has the
script `Unknown`, which names no class.
-/

namespace ScimFilter.Text

/-- The four-letter script codes, `Unknown` excepted, in table order. -/
def scriptNames : Array String := #[
  "Adlm", "Aghb", "Ahom", "Arab", "Armi", "Armn", "Avst", "Bali", "Bamu", "Bass", "Batk", "Beng",
  "Bhks", "Bopo", "Brah", "Brai", "Bugi", "Buhd", "Cakm", "Cans", "Cari", "Cham", "Cher", "Chrs",
  "Copt", "Cpmn", "Cprt", "Cyrl", "Deva", "Diak", "Dogr", "Dsrt", "Dupl", "Egyp", "Elba", "Elym",
  "Ethi", "Gara", "Geor", "Glag", "Gong", "Gonm", "Goth", "Gran", "Grek", "Gujr", "Gukh", "Guru",
  "Hang", "Hani", "Hano", "Hatr", "Hebr", "Hira", "Hluw", "Hmng", "Hmnp", "Hung", "Ital", "Java",
  "Kali", "Kana", "Kawi", "Khar", "Khmr", "Khoj", "Kits", "Knda", "Krai", "Kthi", "Lana", "Laoo",
  "Latn", "Lepc", "Limb", "Lina", "Linb", "Lisu", "Lyci", "Lydi", "Mahj", "Maka", "Mand", "Mani",
  "Marc", "Medf", "Mend", "Merc", "Mero", "Mlym", "Modi", "Mong", "Mroo", "Mtei", "Mult", "Mymr",
  "Nagm", "Nand", "Narb", "Nbat", "Newa", "Nkoo", "Nshu", "Ogam", "Olck", "Onao", "Orkh", "Orya",
  "Osge", "Osma", "Ougr", "Palm", "Pauc", "Perm", "Phag", "Phli", "Phlp", "Phnx", "Plrd", "Prti",
  "Rjng", "Rohg", "Runr", "Samr", "Sarb", "Saur", "Sgnw", "Shaw", "Shrd", "Sidd", "Sind", "Sinh",
  "Sogd", "Sogo", "Sora", "Soyo", "Sund", "Sunu", "Sylo", "Syrc", "Tagb", "Takr", "Tale", "Talu",
  "Taml", "Tang", "Tavt", "Telu", "Tfng", "Tglg", "Thaa", "Thai", "Tibt", "Tirh", "Tnsa", "Todr",
  "Toto", "Tutg", "Ugar", "Vaii", "Vith", "Wara", "Wcho", "Xpeo", "Xsux", "Yezi", "Yiii", "Zanb",
  "Zinh", "Zyyy"]

private def scriptRangesPart1 : TaggedRanges := #[
  (0x0, 0x40, 169), (0x41, 0x5A, 72), (0x5B, 0x60, 169), (0x61, 0x7A, 72), (0x7B, 0xA9, 169),
  (0xAA, 0xAA, 72), (0xAB, 0xB9, 169), (0xBA, 0xBA, 72), (0xBB, 0xBF, 169), (0xC0, 0xD6, 72),
  (0xD7, 0xD7, 169), (0xD8, 0xF6, 72), (0xF7, 0xF7, 169), (0xF8, 0x2B8, 72), (0x2B9, 0x2DF, 169),
  (0x2E0, 0x2E4, 72), (0x2E5, 0x2E9, 169), (0x2EA, 0x2EB, 13), (0x2EC, 0x2FF, 169),
  (0x300, 0x36F, 168), (0x370, 0x373, 44), (0x374, 0x374, 169), (0x375, 0x377, 44),
  (0x37A, 0x37D, 44), (0x37E, 0x37E, 169), (0x37F, 0x37F, 44), (0x384, 0x384, 44),
  (0x385, 0x385, 169), (0x386, 0x386, 44), (0x387, 0x387, 169), (0x388, 0x38A, 44),
  (0x38C, 0x38C, 44), (0x38E, 0x3A1, 44), (0x3A3, 0x3E1, 44), (0x3E2, 0x3EF, 24),
  (0x3F0, 0x3FF, 44), (0x400, 0x484, 27), (0x485, 0x486, 168), (0x487, 0x52F, 27),
  (0x531, 0x556, 5), (0x559, 0x58A, 5), (0x58D, 0x58F, 5), (0x591, 0x5C7, 52), (0x5D0, 0x5EA, 52),
  (0x5EF, 0x5F4, 52), (0x600, 0x604, 3), (0x605, 0x605, 169), (0x606, 0x60B, 3),
  (0x60C, 0x60C, 169), (0x60D, 0x61A, 3), (0x61B, 0x61B, 169), (0x61C, 0x61E, 3),
  (0x61F, 0x61F, 169), (0x620, 0x63F, 3), (0x640, 0x640, 169), (0x641, 0x64A, 3),
  (0x64B, 0x655, 168), (0x656, 0x66F, 3), (0x670, 0x670, 168), (0x671, 0x6DC, 3),
  (0x6DD, 0x6DD, 169), (0x6DE, 0x6FF, 3), (0x700, 0x70D, 139), (0x70F, 0x74A, 139),
  (0x74D, 0x74F, 139), (0x750, 0x77F, 3), (0x780, 0x7B1, 150), (0x7C0, 0x7FA, 101),
  (0x7FD, 0x7FF, 101), (0x800, 0x82D, 123), (0x830, 0x83E, 123), (0x840, 0x85B, 82),
  (0x85E, 0x85E, 82), (0x860, 0x86A, 139), (0x870, 0x88E, 3), (0x890, 0x891, 3), (0x897, 0x8E1, 3),
  (0x8E2, 0x8E2, 169), (0x8E3, 0x8FF, 3), (0x900, 0x950, 28), (0x951, 0x954, 168),
  (0x955, 0x963, 28), (0x964, 0x965, 169), (0x966, 0x97F, 28), (0x980, 0x983, 11),
  (0x985, 0x98C, 11), (0x98F, 0x990, 11), (0x993, 0x9A8, 11), (0x9AA, 0x9B0, 11),
  (0x9B2, 0x9B2, 11), (0x9B6, 0x9B9, 11), (0x9BC, 0x9C4, 11), (0x9C7, 0x9C8, 11),
  (0x9CB, 0x9CE, 11), (0x9D7, 0x9D7, 11), (0x9DC, 0x9DD, 11), (0x9DF, 0x9E3, 11),
  (0x9E6, 0x9FE, 11), (0xA01, 0xA03, 47), (0xA05, 0xA0A, 47), (0xA0F, 0xA10, 47),
  (0xA13, 0xA28, 47), (0xA2A, 0xA30, 47), (0xA32, 0xA33, 47), (0xA35, 0xA36, 47),
  (0xA38, 0xA39, 47), (0xA3C, 0xA3C, 47), (0xA3E, 0xA42, 47), (0xA47, 0xA48, 47),
  (0xA4B, 0xA4D, 47), (0xA51, 0xA51, 47), (0xA59, 0xA5C, 47), (0xA5E, 0xA5E, 47),
  (0xA66, 0xA76, 47), (0xA81, 0xA83, 45), (0xA85, 0xA8D, 45), (0xA8F, 0xA91, 45),
  (0xA93, 0xAA8, 45), (0xAAA, 0xAB0, 45), (0xAB2, 0xAB3, 45), (0xAB5, 0xAB9, 45),
  (0xABC, 0xAC5, 45), (0xAC7, 0xAC9, 45), (0xACB, 0xACD, 45), (0xAD0, 0xAD0, 45),
  (0xAE0, 0xAE3, 45), (0xAE6, 0xAF1, 45), (0xAF9, 0xAFF, 45), (0xB01, 0xB03, 107),
  (0xB05, 0xB0C, 107), (0xB0F, 0xB10, 107), (0xB13, 0xB28, 107), (0xB2A, 0xB30, 107),
  (0xB32, 0xB33, 107), (0xB35, 0xB39, 107), (0xB3C, 0xB44, 107), (0xB47, 0xB48, 107),
  (0xB4B, 0xB4D, 107), (0xB55, 0xB57, 107), (0xB5C, 0xB5D, 107), (0xB5F, 0xB63, 107),
  (0xB66, 0xB77, 107), (0xB82, 0xB83, 144), (0xB85, 0xB8A, 144), (0xB8E, 0xB90, 144),
  (0xB92, 0xB95, 144), (0xB99, 0xB9A, 144), (0xB9C, 0xB9C, 144), (0xB9E, 0xB9F, 144),
  (0xBA3, 0xBA4, 144), (0xBA8, 0xBAA, 144), (0xBAE, 0xBB9, 144), (0xBBE, 0xBC2, 144),
  (0xBC6, 0xBC8, 144), (0xBCA, 0xBCD, 144), (0xBD0, 0xBD0, 144), (0xBD7, 0xBD7, 144),
  (0xBE6, 0xBFA, 144), (0xC00, 0xC0C, 147), (0xC0E, 0xC10, 147), (0xC12, 0xC28, 147),
  (0xC2A, 0xC39, 147), (0xC3C, 0xC44, 147), (0xC46, 0xC48, 147), (0xC4A, 0xC4D, 147),
  (0xC55, 0xC56, 147), (0xC58, 0xC5A, 147), (0xC5D, 0xC5D, 147), (0xC60, 0xC63, 147),
  (0xC66, 0xC6F, 147), (0xC77, 0xC7F, 147), (0xC80, 0xC8C, 67), (0xC8E, 0xC90, 67),
  (0xC92, 0xCA8, 67), (0xCAA, 0xCB3, 67), (0xCB5, 0xCB9, 67), (0xCBC, 0xCC4, 67),
  (0xCC6, 0xCC8, 67), (0xCCA, 0xCCD, 67), (0xCD5, 0xCD6, 67), (0xCDD, 0xCDE, 67),
  (0xCE0, 0xCE3, 67), (0xCE6, 0xCEF, 67), (0xCF1, 0xCF3, 67), (0xD00, 0xD0C, 89),
  (0xD0E, 0xD10, 89), (0xD12, 0xD44, 89), (0xD46, 0xD48, 89), (0xD4A, 0xD4F, 89),
  (0xD54, 0xD63, 89), (0xD66, 0xD7F, 89), (0xD81, 0xD83, 131), (0xD85, 0xD96, 131),
  (0xD9A, 0xDB1, 131), (0xDB3, 0xDBB, 131), (0xDBD, 0xDBD, 131), (0xDC0, 0xDC6, 131),
  (0xDCA, 0xDCA, 131), (0xDCF, 0xDD4, 131), (0xDD6, 0xDD6, 131), (0xDD8, 0xDDF, 131),
  (0xDE6, 0xDEF, 131), (0xDF2, 0xDF4, 131), (0xE01, 0xE3A, 151), (0xE3F, 0xE3F, 169),
  (0xE40, 0xE5B, 151), (0xE81, 0xE82, 71), (0xE84, 0xE84, 71), (0xE86, 0xE8A, 71),
  (0xE8C, 0xEA3, 71), (0xEA5, 0xEA5, 71), (0xEA7, 0xEBD, 71), (0xEC0, 0xEC4, 71),
  (0xEC6, 0xEC6, 71), (0xEC8, 0xECE, 71), (0xED0, 0xED9, 71), (0xEDC, 0xEDF, 71),
  (0xF00, 0xF47, 152), (0xF49, 0xF6C, 152), (0xF71, 0xF97, 152), (0xF99, 0xFBC, 152),
  (0xFBE, 0xFCC, 152), (0xFCE, 0xFD4, 152), (0xFD5, 0xFD8, 169), (0xFD9, 0xFDA, 152),
  (0x1000, 0x109F, 95), (0x10A0, 0x10C5, 38), (0x10C7, 0x10C7, 38), (0x10CD, 0x10CD, 38),
  (0x10D0, 0x10FA, 38), (0x10FB, 0x10FB, 169), (0x10FC, 0x10FF, 38), (0x1100, 0x11FF, 48),
  (0x1200, 0x1248, 36), (0x124A, 0x124D, 36), (0x1250, 0x1256, 36), (0x1258, 0x1258, 36),
  (0x125A, 0x125D, 36), (0x1260, 0x1288, 36), (0x128A, 0x128D, 36), (0x1290, 0x12B0, 36),
  (0x12B2, 0x12B5, 36), (0x12B8, 0x12BE, 36), (0x12C0, 0x12C0, 36), (0x12C2, 0x12C5, 36),
  (0x12C8, 0x12D6, 36), (0x12D8, 0x1310, 36), (0x1312, 0x1315, 36), (0x1318, 0x135A, 36),
  (0x135D, 0x137C, 36), (0x1380, 0x1399, 36), (0x13A0, 0x13F5, 22), (0x13F8, 0x13FD, 22),
  (0x1400, 0x167F, 19), (0x1680, 0x169C, 103), (0x16A0, 0x16EA, 122), (0x16EB, 0x16ED, 169),
  (0x16EE, 0x16F8, 122), (0x1700, 0x1715, 149), (0x171F, 0x171F, 149), (0x1720, 0x1734, 50),
  (0x1735, 0x1736, 169), (0x1740, 0x1753, 17), (0x1760, 0x176C, 140), (0x176E, 0x1770, 140),
  (0x1772, 0x1773, 140), (0x1780, 0x17DD, 64), (0x17E0, 0x17E9, 64), (0x17F0, 0x17F9, 64),
  (0x1800, 0x1801, 91), (0x1802, 0x1803, 169), (0x1804, 0x1804, 91), (0x1805, 0x1805, 169),
  (0x1806, 0x1819, 91), (0x1820, 0x1878, 91), (0x1880, 0x18AA, 91), (0x18B0, 0x18F5, 19),
  (0x1900, 0x191E, 74), (0x1920, 0x192B, 74), (0x1930, 0x193B, 74), (0x1940, 0x1940, 74),
  (0x1944, 0x194F, 74), (0x1950, 0x196D, 142), (0x1970, 0x1974, 142), (0x1980, 0x19AB, 143),
  (0x19B0, 0x19C9, 143), (0x19D0, 0x19DA, 143), (0x19DE, 0x19DF, 143), (0x19E0, 0x19FF, 64),
  (0x1A00, 0x1A1B, 16), (0x1A1E, 0x1A1F, 16), (0x1A20, 0x1A5E, 70), (0x1A60, 0x1A7C, 70),
  (0x1A7F, 0x1A89, 70), (0x1A90, 0x1A99, 70), (0x1AA0, 0x1AAD, 70), (0x1AB0, 0x1ACE, 168),
  (0x1B00, 0x1B4C, 7), (0x1B4E, 0x1B7F, 7), (0x1B80, 0x1BBF, 136), (0x1BC0, 0x1BF3, 10),
  (0x1BFC, 0x1BFF, 10), (0x1C00, 0x1C37, 73), (0x1C3B, 0x1C49, 73), (0x1C4D, 0x1C4F, 73),
  (0x1C50, 0x1C7F, 104), (0x1C80, 0x1C8A, 27), (0x1C90, 0x1CBA, 38), (0x1CBD, 0x1CBF, 38),
  (0x1CC0, 0x1CC7, 136), (0x1CD0, 0x1CD2, 168), (0x1CD3, 0x1CD3, 169), (0x1CD4, 0x1CE0, 168),
  (0x1CE1, 0x1CE1, 169), (0x1CE2, 0x1CE8, 168), (0x1CE9, 0x1CEC, 169), (0x1CED, 0x1CED, 168),
  (0x1CEE, 0x1CF3, 169), (0x1CF4, 0x1CF4, 168), (0x1CF5, 0x1CF7, 169), (0x1CF8, 0x1CF9, 168),
  (0x1CFA, 0x1CFA, 169), (0x1D00, 0x1D25, 72), (0x1D26, 0x1D2A, 44), (0x1D2B, 0x1D2B, 27),
  (0x1D2C, 0x1D5C, 72), (0x1D5D, 0x1D61, 44), (0x1D62, 0x1D65, 72), (0x1D66, 0x1D6A, 44),
  (0x1D6B, 0x1D77, 72), (0x1D78, 0x1D78, 27), (0x1D79, 0x1DBE, 72), (0x1DBF, 0x1DBF, 44),
  (0x1DC0, 0x1DFF, 168), (0x1E00, 0x1EFF, 72), (0x1F00, 0x1F15, 44), (0x1F18, 0x1F1D, 44),
  (0x1F20, 0x1F45, 44), (0x1F48, 0x1F4D, 44), (0x1F50, 0x1F57, 44), (0x1F59, 0x1F59, 44),
  (0x1F5B, 0x1F5B, 44), (0x1F5D, 0x1F5D, 44), (0x1F5F, 0x1F7D, 44), (0x1F80, 0x1FB4, 44),
  (0x1FB6, 0x1FC4, 44), (0x1FC6, 0x1FD3, 44), (0x1FD6, 0x1FDB, 44), (0x1FDD, 0x1FEF, 44),
  (0x1FF2, 0x1FF4, 44), (0x1FF6, 0x1FFE, 44), (0x2000, 0x200B, 169), (0x200C, 0x200D, 168),
  (0x200E, 0x2064, 169), (0x2066, 0x2070, 169), (0x2071, 0x2071, 72), (0x2074, 0x207E, 169),
  (0x207F, 0x207F, 72), (0x2080, 0x208E, 169), (0x2090, 0x209C, 72), (0x20A0, 0x20C0, 169),
  (0x20D0, 0x20F0, 168), (0x2100, 0x2125, 169), (0x2126, 0x2126, 44), (0x2127, 0x2129, 169),
  (0x212A, 0x212B, 72), (0x212C, 0x2131, 169), (0x2132, 0x2132, 72), (0x2133, 0x214D, 169),
  (0x214E, 0x214E, 72), (0x214F, 0x215F, 169), (0x2160, 0x2188, 72), (0x2189, 0x218B, 169),
  (0x2190, 0x2429, 169), (0x2440, 0x244A, 169), (0x2460, 0x27FF, 169), (0x2800, 0x28FF, 15),
  (0x2900, 0x2B73, 169), (0x2B76, 0x2B95, 169), (0x2B97, 0x2BFF, 169), (0x2C00, 0x2C5F, 39),
  (0x2C60, 0x2C7F, 72), (0x2C80, 0x2CF3, 24), (0x2CF9, 0x2CFF, 24), (0x2D00, 0x2D25, 38),
  (0x2D27, 0x2D27, 38), (0x2D2D, 0x2D2D, 38), (0x2D30, 0x2D67, 148), (0x2D6F, 0x2D70, 148),
  (0x2D7F, 0x2D7F, 148), (0x2D80, 0x2D96, 36), (0x2DA0, 0x2DA6, 36), (0x2DA8, 0x2DAE, 36),
  (0x2DB0, 0x2DB6, 36), (0x2DB8, 0x2DBE, 36), (0x2DC0, 0x2DC6, 36), (0x2DC8, 0x2DCE, 36),
  (0x2DD0, 0x2DD6, 36), (0x2DD8, 0x2DDE, 36), (0x2DE0, 0x2DFF, 27), (0x2E00, 0x2E5D, 169),
  (0x2E80, 0x2E99, 49), (0x2E9B, 0x2EF3, 49), (0x2F00, 0x2FD5, 49), (0x2FF0, 0x3004, 169),
  (0x3005, 0x3005, 49), (0x3006, 0x3006, 169), (0x3007, 0x3007, 49), (0x3008, 0x3020, 169),
  (0x3021, 0x3029, 49), (0x302A, 0x302D, 168), (0x302E, 0x302F, 48), (0x3030, 0x3037, 169),
  (0x3038, 0x303B, 49), (0x303C, 0x303F, 169), (0x3041, 0x3096, 53), (0x3099, 0x309A, 168),
  (0x309B, 0x309C, 169), (0x309D, 0x309F, 53), (0x30A0, 0x30A0, 169), (0x30A1, 0x30FA, 61),
  (0x30FB, 0x30FC, 169), (0x30FD, 0x30FF, 61), (0x3105, 0x312F, 13), (0x3131, 0x318E, 48),
  (0x3190, 0x319F, 169), (0x31A0, 0x31BF, 13), (0x31C0, 0x31E5, 169), (0x31EF, 0x31EF, 169),
  (0x31F0, 0x31FF, 61), (0x3200, 0x321E, 48), (0x3220, 0x325F, 169), (0x3260, 0x327E, 48),
  (0x327F, 0x32CF, 169), (0x32D0, 0x32FE, 61), (0x32FF, 0x32FF, 169), (0x3300, 0x3357, 61),
  (0x3358, 0x33FF, 169), (0x3400, 0x4DBF, 49), (0x4DC0, 0x4DFF, 169), (0x4E00, 0x9FFF, 49),
  (0xA000, 0xA48C, 166), (0xA490, 0xA4C6, 166), (0xA4D0, 0xA4FF, 77), (0xA500, 0xA62B, 159),
  (0xA640, 0xA69F, 27), (0xA6A0, 0xA6F7, 8), (0xA700, 0xA721, 169), (0xA722, 0xA787, 72),
  (0xA788, 0xA78A, 169), (0xA78B, 0xA7CD, 72), (0xA7D0, 0xA7D1, 72), (0xA7D3, 0xA7D3, 72),
  (0xA7D5, 0xA7DC, 72), (0xA7F2, 0xA7FF, 72), (0xA800, 0xA82C, 138), (0xA830, 0xA839, 169),
  (0xA840, 0xA877, 114), (0xA880, 0xA8C5, 125), (0xA8CE, 0xA8D9, 125), (0xA8E0, 0xA8FF, 28),
  (0xA900, 0xA92D, 60), (0xA92E, 0xA92E, 169), (0xA92F, 0xA92F, 60), (0xA930, 0xA953, 120),
  (0xA95F, 0xA95F, 120), (0xA960, 0xA97C, 48), (0xA980, 0xA9CD, 59), (0xA9CF, 0xA9CF, 169),
  (0xA9D0, 0xA9D9, 59), (0xA9DE, 0xA9DF, 59), (0xA9E0, 0xA9FE, 95), (0xAA00, 0xAA36, 21),
  (0xAA40, 0xAA4D, 21), (0xAA50, 0xAA59, 21), (0xAA5C, 0xAA5F, 21), (0xAA60, 0xAA7F, 95),
  (0xAA80, 0xAAC2, 146), (0xAADB, 0xAADF, 146), (0xAAE0, 0xAAF6, 93), (0xAB01, 0xAB06, 36),
  (0xAB09, 0xAB0E, 36), (0xAB11, 0xAB16, 36), (0xAB20, 0xAB26, 36), (0xAB28, 0xAB2E, 36),
  (0xAB30, 0xAB5A, 72), (0xAB5B, 0xAB5B, 169), (0xAB5C, 0xAB64, 72), (0xAB65, 0xAB65, 44),
  (0xAB66, 0xAB69, 72), (0xAB6A, 0xAB6B, 169), (0xAB70, 0xABBF, 22), (0xABC0, 0xABED, 93),
  (0xABF0, 0xABF9, 93), (0xAC00, 0xD7A3, 48), (0xD7B0, 0xD7C6, 48), (0xD7CB, 0xD7FB, 48),
  (0xF900, 0xFA6D, 49), (0xFA70, 0xFAD9, 49), (0xFB00, 0xFB06, 72)]

private def scriptRangesPart2 : TaggedRanges := #[
  (0xFB13, 0xFB17, 5), (0xFB1D, 0xFB36, 52), (0xFB38, 0xFB3C, 52), (0xFB3E, 0xFB3E, 52),
  (0xFB40, 0xFB41, 52), (0xFB43, 0xFB44, 52), (0xFB46, 0xFB4F, 52), (0xFB50, 0xFBC2, 3),
  (0xFBD3, 0xFD3D, 3), (0xFD3E, 0xFD3F, 169), (0xFD40, 0xFD8F, 3), (0xFD92, 0xFDC7, 3),
  (0xFDCF, 0xFDCF, 3), (0xFDF0, 0xFDFF, 3), (0xFE00, 0xFE0F, 168), (0xFE10, 0xFE19, 169),
  (0xFE20, 0xFE2D, 168), (0xFE2E, 0xFE2F, 27), (0xFE30, 0xFE52, 169), (0xFE54, 0xFE66, 169),
  (0xFE68, 0xFE6B, 169), (0xFE70, 0xFE74, 3), (0xFE76, 0xFEFC, 3), (0xFEFF, 0xFEFF, 169),
  (0xFF01, 0xFF20, 169), (0xFF21, 0xFF3A, 72), (0xFF3B, 0xFF40, 169), (0xFF41, 0xFF5A, 72),
  (0xFF5B, 0xFF65, 169), (0xFF66, 0xFF6F, 61), (0xFF70, 0xFF70, 169), (0xFF71, 0xFF9D, 61),
  (0xFF9E, 0xFF9F, 169), (0xFFA0, 0xFFBE, 48), (0xFFC2, 0xFFC7, 48), (0xFFCA, 0xFFCF, 48),
  (0xFFD2, 0xFFD7, 48), (0xFFDA, 0xFFDC, 48), (0xFFE0, 0xFFE6, 169), (0xFFE8, 0xFFEE, 169),
  (0xFFF9, 0xFFFD, 169), (0x10000, 0x1000B, 76), (0x1000D, 0x10026, 76), (0x10028, 0x1003A, 76),
  (0x1003C, 0x1003D, 76), (0x1003F, 0x1004D, 76), (0x10050, 0x1005D, 76), (0x10080, 0x100FA, 76),
  (0x10100, 0x10102, 169), (0x10107, 0x10133, 169), (0x10137, 0x1013F, 169), (0x10140, 0x1018E, 44),
  (0x10190, 0x1019C, 169), (0x101A0, 0x101A0, 44), (0x101D0, 0x101FC, 169), (0x101FD, 0x101FD, 168),
  (0x10280, 0x1029C, 78), (0x102A0, 0x102D0, 20), (0x102E0, 0x102E0, 168), (0x102E1, 0x102FB, 169),
  (0x10300, 0x10323, 58), (0x1032D, 0x1032F, 58), (0x10330, 0x1034A, 42), (0x10350, 0x1037A, 113),
  (0x10380, 0x1039D, 158), (0x1039F, 0x1039F, 158), (0x103A0, 0x103C3, 163),
  (0x103C8, 0x103D5, 163), (0x10400, 0x1044F, 31), (0x10450, 0x1047F, 127), (0x10480, 0x1049D, 109),
  (0x104A0, 0x104A9, 109), (0x104B0, 0x104D3, 108), (0x104D8, 0x104FB, 108), (0x10500, 0x10527, 34),
  (0x10530, 0x10563, 1), (0x1056F, 0x1056F, 1), (0x10570, 0x1057A, 160), (0x1057C, 0x1058A, 160),
  (0x1058C, 0x10592, 160), (0x10594, 0x10595, 160), (0x10597, 0x105A1, 160),
  (0x105A3, 0x105B1, 160), (0x105B3, 0x105B9, 160), (0x105BB, 0x105BC, 160),
  (0x105C0, 0x105F3, 155), (0x10600, 0x10736, 75), (0x10740, 0x10755, 75), (0x10760, 0x10767, 75),
  (0x10780, 0x10785, 72), (0x10787, 0x107B0, 72), (0x107B2, 0x107BA, 72), (0x10800, 0x10805, 26),
  (0x10808, 0x10808, 26), (0x1080A, 0x10835, 26), (0x10837, 0x10838, 26), (0x1083C, 0x1083C, 26),
  (0x1083F, 0x1083F, 26), (0x10840, 0x10855, 4), (0x10857, 0x1085F, 4), (0x10860, 0x1087F, 111),
  (0x10880, 0x1089E, 99), (0x108A7, 0x108AF, 99), (0x108E0, 0x108F2, 51), (0x108F4, 0x108F5, 51),
  (0x108FB, 0x108FF, 51), (0x10900, 0x1091B, 117), (0x1091F, 0x1091F, 117), (0x10920, 0x10939, 79),
  (0x1093F, 0x1093F, 79), (0x10980, 0x1099F, 88), (0x109A0, 0x109B7, 87), (0x109BC, 0x109CF, 87),
  (0x109D2, 0x109FF, 87), (0x10A00, 0x10A03, 63), (0x10A05, 0x10A06, 63), (0x10A0C, 0x10A13, 63),
  (0x10A15, 0x10A17, 63), (0x10A19, 0x10A35, 63), (0x10A38, 0x10A3A, 63), (0x10A3F, 0x10A48, 63),
  (0x10A50, 0x10A58, 63), (0x10A60, 0x10A7F, 124), (0x10A80, 0x10A9F, 98), (0x10AC0, 0x10AE6, 83),
  (0x10AEB, 0x10AF6, 83), (0x10B00, 0x10B35, 6), (0x10B39, 0x10B3F, 6), (0x10B40, 0x10B55, 119),
  (0x10B58, 0x10B5F, 119), (0x10B60, 0x10B72, 115), (0x10B78, 0x10B7F, 115),
  (0x10B80, 0x10B91, 116), (0x10B99, 0x10B9C, 116), (0x10BA9, 0x10BAF, 116),
  (0x10C00, 0x10C48, 106), (0x10C80, 0x10CB2, 57), (0x10CC0, 0x10CF2, 57), (0x10CFA, 0x10CFF, 57),
  (0x10D00, 0x10D27, 121), (0x10D30, 0x10D39, 121), (0x10D40, 0x10D65, 37), (0x10D69, 0x10D85, 37),
  (0x10D8E, 0x10D8F, 37), (0x10E60, 0x10E7E, 3), (0x10E80, 0x10EA9, 165), (0x10EAB, 0x10EAD, 165),
  (0x10EB0, 0x10EB1, 165), (0x10EC2, 0x10EC4, 3), (0x10EFC, 0x10EFF, 3), (0x10F00, 0x10F27, 133),
  (0x10F30, 0x10F59, 132), (0x10F70, 0x10F89, 110), (0x10FB0, 0x10FCB, 23), (0x10FE0, 0x10FF6, 35),
  (0x11000, 0x1104D, 14), (0x11052, 0x11075, 14), (0x1107F, 0x1107F, 14), (0x11080, 0x110C2, 69),
  (0x110CD, 0x110CD, 69), (0x110D0, 0x110E8, 134), (0x110F0, 0x110F9, 134), (0x11100, 0x11134, 18),
  (0x11136, 0x11147, 18), (0x11150, 0x11176, 80), (0x11180, 0x111DF, 128), (0x111E1, 0x111F4, 131),
  (0x11200, 0x11211, 65), (0x11213, 0x11241, 65), (0x11280, 0x11286, 94), (0x11288, 0x11288, 94),
  (0x1128A, 0x1128D, 94), (0x1128F, 0x1129D, 94), (0x1129F, 0x112A9, 94), (0x112B0, 0x112EA, 130),
  (0x112F0, 0x112F9, 130), (0x11300, 0x11303, 43), (0x11305, 0x1130C, 43), (0x1130F, 0x11310, 43),
  (0x11313, 0x11328, 43), (0x1132A, 0x11330, 43), (0x11332, 0x11333, 43), (0x11335, 0x11339, 43),
  (0x1133B, 0x1133B, 168), (0x1133C, 0x11344, 43), (0x11347, 0x11348, 43), (0x1134B, 0x1134D, 43),
  (0x11350, 0x11350, 43), (0x11357, 0x11357, 43), (0x1135D, 0x11363, 43), (0x11366, 0x1136C, 43),
  (0x11370, 0x11374, 43), (0x11380, 0x11389, 157), (0x1138B, 0x1138B, 157), (0x1138E, 0x1138E, 157),
  (0x11390, 0x113B5, 157), (0x113B7, 0x113C0, 157), (0x113C2, 0x113C2, 157),
  (0x113C5, 0x113C5, 157), (0x113C7, 0x113CA, 157), (0x113CC, 0x113D5, 157),
  (0x113D7, 0x113D8, 157), (0x113E1, 0x113E2, 157), (0x11400, 0x1145B, 100),
  (0x1145D, 0x11461, 100), (0x11480, 0x114C7, 153), (0x114D0, 0x114D9, 153),
  (0x11580, 0x115B5, 129), (0x115B8, 0x115DD, 129), (0x11600, 0x11644, 90), (0x11650, 0x11659, 90),
  (0x11660, 0x1166C, 91), (0x11680, 0x116B9, 141), (0x116C0, 0x116C9, 141), (0x116D0, 0x116E3, 95),
  (0x11700, 0x1171A, 2), (0x1171D, 0x1172B, 2), (0x11730, 0x11746, 2), (0x11800, 0x1183B, 30),
  (0x118A0, 0x118F2, 161), (0x118FF, 0x118FF, 161), (0x11900, 0x11906, 29), (0x11909, 0x11909, 29),
  (0x1190C, 0x11913, 29), (0x11915, 0x11916, 29), (0x11918, 0x11935, 29), (0x11937, 0x11938, 29),
  (0x1193B, 0x11946, 29), (0x11950, 0x11959, 29), (0x119A0, 0x119A7, 97), (0x119AA, 0x119D7, 97),
  (0x119DA, 0x119E4, 97), (0x11A00, 0x11A47, 167), (0x11A50, 0x11AA2, 135), (0x11AB0, 0x11ABF, 19),
  (0x11AC0, 0x11AF8, 112), (0x11B00, 0x11B09, 28), (0x11BC0, 0x11BE1, 137), (0x11BF0, 0x11BF9, 137),
  (0x11C00, 0x11C08, 12), (0x11C0A, 0x11C36, 12), (0x11C38, 0x11C45, 12), (0x11C50, 0x11C6C, 12),
  (0x11C70, 0x11C8F, 84), (0x11C92, 0x11CA7, 84), (0x11CA9, 0x11CB6, 84), (0x11D00, 0x11D06, 41),
  (0x11D08, 0x11D09, 41), (0x11D0B, 0x11D36, 41), (0x11D3A, 0x11D3A, 41), (0x11D3C, 0x11D3D, 41),
  (0x11D3F, 0x11D47, 41), (0x11D50, 0x11D59, 41), (0x11D60, 0x11D65, 40), (0x11D67, 0x11D68, 40),
  (0x11D6A, 0x11D8E, 40), (0x11D90, 0x11D91, 40), (0x11D93, 0x11D98, 40), (0x11DA0, 0x11DA9, 40),
  (0x11EE0, 0x11EF8, 81), (0x11F00, 0x11F10, 62), (0x11F12, 0x11F3A, 62), (0x11F3E, 0x11F5A, 62),
  (0x11FB0, 0x11FB0, 77), (0x11FC0, 0x11FF1, 144), (0x11FFF, 0x11FFF, 144), (0x12000, 0x12399, 164),
  (0x12400, 0x1246E, 164), (0x12470, 0x12474, 164), (0x12480, 0x12543, 164), (0x12F90, 0x12FF2, 25),
  (0x13000, 0x13455, 33), (0x13460, 0x143FA, 33), (0x14400, 0x14646, 54), (0x16100, 0x16139, 46),
  (0x16800, 0x16A38, 8), (0x16A40, 0x16A5E, 92), (0x16A60, 0x16A69, 92), (0x16A6E, 0x16A6F, 92),
  (0x16A70, 0x16ABE, 154), (0x16AC0, 0x16AC9, 154), (0x16AD0, 0x16AED, 9), (0x16AF0, 0x16AF5, 9),
  (0x16B00, 0x16B45, 55), (0x16B50, 0x16B59, 55), (0x16B5B, 0x16B61, 55), (0x16B63, 0x16B77, 55),
  (0x16B7D, 0x16B8F, 55), (0x16D40, 0x16D79, 68), (0x16E40, 0x16E9A, 85), (0x16F00, 0x16F4A, 118),
  (0x16F4F, 0x16F87, 118), (0x16F8F, 0x16F9F, 118), (0x16FE0, 0x16FE0, 145),
  (0x16FE1, 0x16FE1, 102), (0x16FE2, 0x16FE3, 49), (0x16FE4, 0x16FE4, 66), (0x16FF0, 0x16FF1, 49),
  (0x17000, 0x187F7, 145), (0x18800, 0x18AFF, 145), (0x18B00, 0x18CD5, 66), (0x18CFF, 0x18CFF, 66),
  (0x18D00, 0x18D08, 145), (0x1AFF0, 0x1AFF3, 61), (0x1AFF5, 0x1AFFB, 61), (0x1AFFD, 0x1AFFE, 61),
  (0x1B000, 0x1B000, 61), (0x1B001, 0x1B11F, 53), (0x1B120, 0x1B122, 61), (0x1B132, 0x1B132, 53),
  (0x1B150, 0x1B152, 53), (0x1B155, 0x1B155, 61), (0x1B164, 0x1B167, 61), (0x1B170, 0x1B2FB, 102),
  (0x1BC00, 0x1BC6A, 32), (0x1BC70, 0x1BC7C, 32), (0x1BC80, 0x1BC88, 32), (0x1BC90, 0x1BC99, 32),
  (0x1BC9C, 0x1BC9F, 32), (0x1BCA0, 0x1BCA3, 169), (0x1CC00, 0x1CCF9, 169), (0x1CD00, 0x1CEB3, 169),
  (0x1CF00, 0x1CF2D, 168), (0x1CF30, 0x1CF46, 168), (0x1CF50, 0x1CFC3, 169),
  (0x1D000, 0x1D0F5, 169), (0x1D100, 0x1D126, 169), (0x1D129, 0x1D166, 169),
  (0x1D167, 0x1D169, 168), (0x1D16A, 0x1D17A, 169), (0x1D17B, 0x1D182, 168),
  (0x1D183, 0x1D184, 169), (0x1D185, 0x1D18B, 168), (0x1D18C, 0x1D1A9, 169),
  (0x1D1AA, 0x1D1AD, 168), (0x1D1AE, 0x1D1EA, 169), (0x1D200, 0x1D245, 44), (0x1D2C0, 0x1D2D3, 169),
  (0x1D2E0, 0x1D2F3, 169), (0x1D300, 0x1D356, 169), (0x1D360, 0x1D378, 169),
  (0x1D400, 0x1D454, 169), (0x1D456, 0x1D49C, 169), (0x1D49E, 0x1D49F, 169),
  (0x1D4A2, 0x1D4A2, 169), (0x1D4A5, 0x1D4A6, 169), (0x1D4A9, 0x1D4AC, 169),
  (0x1D4AE, 0x1D4B9, 169), (0x1D4BB, 0x1D4BB, 169), (0x1D4BD, 0x1D4C3, 169),
  (0x1D4C5, 0x1D505, 169), (0x1D507, 0x1D50A, 169), (0x1D50D, 0x1D514, 169),
  (0x1D516, 0x1D51C, 169), (0x1D51E, 0x1D539, 169), (0x1D53B, 0x1D53E, 169),
  (0x1D540, 0x1D544, 169), (0x1D546, 0x1D546, 169), (0x1D54A, 0x1D550, 169),
  (0x1D552, 0x1D6A5, 169), (0x1D6A8, 0x1D7CB, 169), (0x1D7CE, 0x1D7FF, 169),
  (0x1D800, 0x1DA8B, 126), (0x1DA9B, 0x1DA9F, 126), (0x1DAA1, 0x1DAAF, 126), (0x1DF00, 0x1DF1E, 72),
  (0x1DF25, 0x1DF2A, 72), (0x1E000, 0x1E006, 39), (0x1E008, 0x1E018, 39), (0x1E01B, 0x1E021, 39),
  (0x1E023, 0x1E024, 39), (0x1E026, 0x1E02A, 39), (0x1E030, 0x1E06D, 27), (0x1E08F, 0x1E08F, 27),
  (0x1E100, 0x1E12C, 56), (0x1E130, 0x1E13D, 56), (0x1E140, 0x1E149, 56), (0x1E14E, 0x1E14F, 56),
  (0x1E290, 0x1E2AE, 156), (0x1E2C0, 0x1E2F9, 162), (0x1E2FF, 0x1E2FF, 162), (0x1E4D0, 0x1E4F9, 96),
  (0x1E5D0, 0x1E5FA, 105), (0x1E5FF, 0x1E5FF, 105), (0x1E7E0, 0x1E7E6, 36), (0x1E7E8, 0x1E7EB, 36),
  (0x1E7ED, 0x1E7EE, 36), (0x1E7F0, 0x1E7FE, 36), (0x1E800, 0x1E8C4, 86), (0x1E8C7, 0x1E8D6, 86),
  (0x1E900, 0x1E94B, 0), (0x1E950, 0x1E959, 0), (0x1E95E, 0x1E95F, 0), (0x1EC71, 0x1ECB4, 169),
  (0x1ED01, 0x1ED3D, 169), (0x1EE00, 0x1EE03, 3), (0x1EE05, 0x1EE1F, 3), (0x1EE21, 0x1EE22, 3),
  (0x1EE24, 0x1EE24, 3), (0x1EE27, 0x1EE27, 3), (0x1EE29, 0x1EE32, 3), (0x1EE34, 0x1EE37, 3),
  (0x1EE39, 0x1EE39, 3), (0x1EE3B, 0x1EE3B, 3), (0x1EE42, 0x1EE42, 3), (0x1EE47, 0x1EE47, 3),
  (0x1EE49, 0x1EE49, 3), (0x1EE4B, 0x1EE4B, 3), (0x1EE4D, 0x1EE4F, 3), (0x1EE51, 0x1EE52, 3),
  (0x1EE54, 0x1EE54, 3), (0x1EE57, 0x1EE57, 3), (0x1EE59, 0x1EE59, 3), (0x1EE5B, 0x1EE5B, 3),
  (0x1EE5D, 0x1EE5D, 3), (0x1EE5F, 0x1EE5F, 3), (0x1EE61, 0x1EE62, 3), (0x1EE64, 0x1EE64, 3),
  (0x1EE67, 0x1EE6A, 3), (0x1EE6C, 0x1EE72, 3), (0x1EE74, 0x1EE77, 3), (0x1EE79, 0x1EE7C, 3),
  (0x1EE7E, 0x1EE7E, 3), (0x1EE80, 0x1EE89, 3), (0x1EE8B, 0x1EE9B, 3), (0x1EEA1, 0x1EEA3, 3),
  (0x1EEA5, 0x1EEA9, 3), (0x1EEAB, 0x1EEBB, 3), (0x1EEF0, 0x1EEF1, 3), (0x1F000, 0x1F02B, 169),
  (0x1F030, 0x1F093, 169), (0x1F0A0, 0x1F0AE, 169), (0x1F0B1, 0x1F0BF, 169),
  (0x1F0C1, 0x1F0CF, 169), (0x1F0D1, 0x1F0F5, 169), (0x1F100, 0x1F1AD, 169),
  (0x1F1E6, 0x1F1FF, 169), (0x1F200, 0x1F200, 53), (0x1F201, 0x1F202, 169), (0x1F210, 0x1F23B, 169),
  (0x1F240, 0x1F248, 169), (0x1F250, 0x1F251, 169), (0x1F260, 0x1F265, 169),
  (0x1F300, 0x1F6D7, 169), (0x1F6DC, 0x1F6EC, 169), (0x1F6F0, 0x1F6FC, 169),
  (0x1F700, 0x1F776, 169), (0x1F77B, 0x1F7D9, 169), (0x1F7E0, 0x1F7EB, 169),
  (0x1F7F0, 0x1F7F0, 169), (0x1F800, 0x1F80B, 169), (0x1F810, 0x1F847, 169),
  (0x1F850, 0x1F859, 169), (0x1F860, 0x1F887, 169), (0x1F890, 0x1F8AD, 169),
  (0x1F8B0, 0x1F8BB, 169), (0x1F8C0, 0x1F8C1, 169), (0x1F900, 0x1FA53, 169),
  (0x1FA60, 0x1FA6D, 169), (0x1FA70, 0x1FA7C, 169), (0x1FA80, 0x1FA89, 169),
  (0x1FA8F, 0x1FAC6, 169), (0x1FACE, 0x1FADC, 169), (0x1FADF, 0x1FAE9, 169),
  (0x1FAF0, 0x1FAF8, 169), (0x1FB00, 0x1FB92, 169), (0x1FB94, 0x1FBFA, 169), (0x20000, 0x2A6DF, 49),
  (0x2A700, 0x2B739, 49), (0x2B740, 0x2B81D, 49), (0x2B820, 0x2CEA1, 49), (0x2CEB0, 0x2EBE0, 49),
  (0x2EBF0, 0x2EE5D, 49), (0x2F800, 0x2FA1D, 49), (0x30000, 0x3134A, 49), (0x31350, 0x323AF, 49),
  (0xE0001, 0xE0001, 169), (0xE0020, 0xE007F, 169), (0xE0100, 0xE01EF, 168)]

/-- Ranges of code points with the index of their script in `scriptNames`, sorted. -/
def scriptRanges : TaggedRanges :=
  scriptRangesPart1 ++ scriptRangesPart2

/-- Every name of a script, in loose form (lower case, no blanks, `_` or `-`), with its index. -/
def scriptAliases : Array (String × Nat) := #[
  ("adlm", 0), ("adlam", 0), ("aghb", 1), ("caucasianalbanian", 1), ("ahom", 2), ("ahom", 2),
  ("arab", 3), ("arabic", 3), ("armi", 4), ("imperialaramaic", 4), ("armn", 5), ("armenian", 5),
  ("avst", 6), ("avestan", 6), ("bali", 7), ("balinese", 7), ("bamu", 8), ("bamum", 8), ("bass", 9),
  ("bassavah", 9), ("batk", 10), ("batak", 10), ("beng", 11), ("bengali", 11), ("bhks", 12),
  ("bhaiksuki", 12), ("bopo", 13), ("bopomofo", 13), ("brah", 14), ("brahmi", 14), ("brai", 15),
  ("braille", 15), ("bugi", 16), ("buginese", 16), ("buhd", 17), ("buhid", 17), ("cakm", 18),
  ("chakma", 18), ("cans", 19), ("canadianaboriginal", 19), ("cari", 20), ("carian", 20),
  ("cham", 21), ("cham", 21), ("cher", 22), ("cherokee", 22), ("chrs", 23), ("chorasmian", 23),
  ("copt", 24), ("coptic", 24), ("qaac", 24), ("cpmn", 25), ("cyprominoan", 25), ("cprt", 26),
  ("cypriot", 26), ("cyrl", 27), ("cyrillic", 27), ("deva", 28), ("devanagari", 28), ("diak", 29),
  ("divesakuru", 29), ("dogr", 30), ("dogra", 30), ("dsrt", 31), ("deseret", 31), ("dupl", 32),
  ("duployan", 32), ("egyp", 33), ("egyptianhieroglyphs", 33), ("elba", 34), ("elbasan", 34),
  ("elym", 35), ("elymaic", 35), ("ethi", 36), ("ethiopic", 36), ("gara", 37), ("garay", 37),
  ("geor", 38), ("georgian", 38), ("glag", 39), ("glagolitic", 39), ("gong", 40),
  ("gunjalagondi", 40), ("gonm", 41), ("masaramgondi", 41), ("goth", 42), ("gothic", 42),
  ("gran", 43), ("grantha", 43), ("grek", 44), ("greek", 44), ("gujr", 45), ("gujarati", 45),
  ("gukh", 46), ("gurungkhema", 46), ("guru", 47), ("gurmukhi", 47), ("hang", 48), ("hangul", 48),
  ("hani", 49), ("han", 49), ("hano", 50), ("hanunoo", 50), ("hatr", 51), ("hatran", 51),
  ("hebr", 52), ("hebrew", 52), ("hira", 53), ("hiragana", 53), ("hluw", 54),
  ("anatolianhieroglyphs", 54), ("hmng", 55), ("pahawhhmong", 55), ("hmnp", 56),
  ("nyiakengpuachuehmong", 56), ("hung", 57), ("oldhungarian", 57), ("ital", 58), ("olditalic", 58),
  ("java", 59), ("javanese", 59), ("kali", 60), ("kayahli", 60), ("kana", 61), ("katakana", 61),
  ("kawi", 62), ("kawi", 62), ("khar", 63), ("kharoshthi", 63), ("khmr", 64), ("khmer", 64),
  ("khoj", 65), ("khojki", 65), ("kits", 66), ("khitansmallscript", 66), ("knda", 67),
  ("kannada", 67), ("krai", 68), ("kiratrai", 68), ("kthi", 69), ("kaithi", 69), ("lana", 70),
  ("taitham", 70), ("laoo", 71), ("lao", 71), ("latn", 72), ("latin", 72), ("lepc", 73),
  ("lepcha", 73), ("limb", 74), ("limbu", 74), ("lina", 75), ("lineara", 75), ("linb", 76),
  ("linearb", 76), ("lisu", 77), ("lisu", 77), ("lyci", 78), ("lycian", 78), ("lydi", 79),
  ("lydian", 79), ("mahj", 80), ("mahajani", 80), ("maka", 81), ("makasar", 81), ("mand", 82),
  ("mandaic", 82), ("mani", 83), ("manichaean", 83), ("marc", 84), ("marchen", 84), ("medf", 85),
  ("medefaidrin", 85), ("mend", 86), ("mendekikakui", 86), ("merc", 87), ("meroiticcursive", 87),
  ("mero", 88), ("meroitichieroglyphs", 88), ("mlym", 89), ("malayalam", 89), ("modi", 90),
  ("modi", 90), ("mong", 91), ("mongolian", 91), ("mroo", 92), ("mro", 92), ("mtei", 93),
  ("meeteimayek", 93), ("mult", 94), ("multani", 94), ("mymr", 95), ("myanmar", 95), ("nagm", 96),
  ("nagmundari", 96), ("nand", 97), ("nandinagari", 97), ("narb", 98), ("oldnortharabian", 98),
  ("nbat", 99), ("nabataean", 99), ("newa", 100), ("newa", 100), ("nkoo", 101), ("nko", 101),
  ("nshu", 102), ("nushu", 102), ("ogam", 103), ("ogham", 103), ("olck", 104), ("olchiki", 104),
  ("onao", 105), ("olonal", 105), ("orkh", 106), ("oldturkic", 106), ("orya", 107), ("oriya", 107),
  ("osge", 108), ("osage", 108), ("osma", 109), ("osmanya", 109), ("ougr", 110), ("olduyghur", 110),
  ("palm", 111), ("palmyrene", 111), ("pauc", 112), ("paucinhau", 112), ("perm", 113),
  ("oldpermic", 113), ("phag", 114), ("phagspa", 114), ("phli", 115), ("inscriptionalpahlavi", 115),
  ("phlp", 116), ("psalterpahlavi", 116), ("phnx", 117), ("phoenician", 117), ("plrd", 118),
  ("miao", 118), ("prti", 119), ("inscriptionalparthian", 119), ("rjng", 120), ("rejang", 120),
  ("rohg", 121), ("hanifirohingya", 121), ("runr", 122), ("runic", 122), ("samr", 123),
  ("samaritan", 123), ("sarb", 124), ("oldsoutharabian", 124), ("saur", 125), ("saurashtra", 125),
  ("sgnw", 126), ("signwriting", 126), ("shaw", 127), ("shavian", 127), ("shrd", 128),
  ("sharada", 128), ("sidd", 129), ("siddham", 129), ("sind", 130), ("khudawadi", 130),
  ("sinh", 131), ("sinhala", 131), ("sogd", 132), ("sogdian", 132), ("sogo", 133),
  ("oldsogdian", 133), ("sora", 134), ("sorasompeng", 134), ("soyo", 135), ("soyombo", 135),
  ("sund", 136), ("sundanese", 136), ("sunu", 137), ("sunuwar", 137), ("sylo", 138),
  ("sylotinagri", 138), ("syrc", 139), ("syriac", 139), ("tagb", 140), ("tagbanwa", 140),
  ("takr", 141), ("takri", 141), ("tale", 142), ("taile", 142), ("talu", 143), ("newtailue", 143),
  ("taml", 144), ("tamil", 144), ("tang", 145), ("tangut", 145), ("tavt", 146), ("taiviet", 146),
  ("telu", 147), ("telugu", 147), ("tfng", 148), ("tifinagh", 148), ("tglg", 149), ("tagalog", 149),
  ("thaa", 150), ("thaana", 150), ("thai", 151), ("thai", 151), ("tibt", 152), ("tibetan", 152),
  ("tirh", 153), ("tirhuta", 153), ("tnsa", 154), ("tangsa", 154), ("todr", 155), ("todhri", 155),
  ("toto", 156), ("toto", 156), ("tutg", 157), ("tulutigalari", 157), ("ugar", 158),
  ("ugaritic", 158), ("vaii", 159), ("vai", 159), ("vith", 160), ("vithkuqi", 160), ("wara", 161),
  ("warangciti", 161), ("wcho", 162), ("wancho", 162), ("xpeo", 163), ("oldpersian", 163),
  ("xsux", 164), ("cuneiform", 164), ("yezi", 165), ("yezidi", 165), ("yiii", 166), ("yi", 166),
  ("zanb", 167), ("zanabazarsquare", 167), ("zinh", 168), ("inherited", 168), ("qaai", 168),
  ("zyyy", 169), ("common", 169)]

def scriptSet (i : Nat) : RangeTable :=
  TaggedRanges.select scriptRanges i

end ScimFilter.Text
