import ScimFilter.Text.Ranges
/-!
The `Grapheme_Cluster_Break` property of the Unicode Character Database, version 16.0: the
class of each character in the rules that split text into grapheme clusters.
-/

namespace ScimFilter.Text

/-- The values with characters, in table order; `Other`, the value of every character not
listed, names no class. -/
def graphemeBreakNames : Array String := #[
  "CR", "Control", "Extend", "L", "LF", "LV", "LVT", "Prepend", "Regional_Indicator", "SpacingMark",
  "T", "V", "ZWJ"]

private def graphemeBreakRangesPart1 : TaggedRanges := #[
  (0x0, 0x9, 1), (0xA, 0xA, 4), (0xB, 0xC, 1), (0xD, 0xD, 0), (0xE, 0x1F, 1), (0x7F, 0x9F, 1),
  (0xAD, 0xAD, 1), (0x300, 0x36F, 2), (0x483, 0x489, 2), (0x591, 0x5BD, 2), (0x5BF, 0x5BF, 2),
  (0x5C1, 0x5C2, 2), (0x5C4, 0x5C5, 2), (0x5C7, 0x5C7, 2), (0x600, 0x605, 7), (0x610, 0x61A, 2),
  (0x61C, 0x61C, 1), (0x64B, 0x65F, 2), (0x670, 0x670, 2), (0x6D6, 0x6DC, 2), (0x6DD, 0x6DD, 7),
  (0x6DF, 0x6E4, 2), (0x6E7, 0x6E8, 2), (0x6EA, 0x6ED, 2), (0x70F, 0x70F, 7), (0x711, 0x711, 2),
  (0x730, 0x74A, 2), (0x7A6, 0x7B0, 2), (0x7EB, 0x7F3, 2), (0x7FD, 0x7FD, 2), (0x816, 0x819, 2),
  (0x81B, 0x823, 2), (0x825, 0x827, 2), (0x829, 0x82D, 2), (0x859, 0x85B, 2), (0x890, 0x891, 7),
  (0x897, 0x89F, 2), (0x8CA, 0x8E1, 2), (0x8E2, 0x8E2, 7), (0x8E3, 0x902, 2), (0x903, 0x903, 9),
  (0x93A, 0x93A, 2), (0x93B, 0x93B, 9), (0x93C, 0x93C, 2), (0x93E, 0x940, 9), (0x941, 0x948, 2),
  (0x949, 0x94C, 9), (0x94D, 0x94D, 2), (0x94E, 0x94F, 9), (0x951, 0x957, 2), (0x962, 0x963, 2),
  (0x981, 0x981, 2), (0x982, 0x983, 9), (0x9BC, 0x9BC, 2), (0x9BE, 0x9BE, 2), (0x9BF, 0x9C0, 9),
  (0x9C1, 0x9C4, 2), (0x9C7, 0x9C8, 9), (0x9CB, 0x9CC, 9), (0x9CD, 0x9CD, 2), (0x9D7, 0x9D7, 2),
  (0x9E2, 0x9E3, 2), (0x9FE, 0x9FE, 2), (0xA01, 0xA02, 2), (0xA03, 0xA03, 9), (0xA3C, 0xA3C, 2),
  (0xA3E, 0xA40, 9), (0xA41, 0xA42, 2), (0xA47, 0xA48, 2), (0xA4B, 0xA4D, 2), (0xA51, 0xA51, 2),
  (0xA70, 0xA71, 2), (0xA75, 0xA75, 2), (0xA81, 0xA82, 2), (0xA83, 0xA83, 9), (0xABC, 0xABC, 2),
  (0xABE, 0xAC0, 9), (0xAC1, 0xAC5, 2), (0xAC7, 0xAC8, 2), (0xAC9, 0xAC9, 9), (0xACB, 0xACC, 9),
  (0xACD, 0xACD, 2), (0xAE2, 0xAE3, 2), (0xAFA, 0xAFF, 2), (0xB01, 0xB01, 2), (0xB02, 0xB03, 9),
  (0xB3C, 0xB3C, 2), (0xB3E, 0xB3F, 2), (0xB40, 0xB40, 9), (0xB41, 0xB44, 2), (0xB47, 0xB48, 9),
  (0xB4B, 0xB4C, 9), (0xB4D, 0xB4D, 2), (0xB55, 0xB57, 2), (0xB62, 0xB63, 2), (0xB82, 0xB82, 2),
  (0xBBE, 0xBBE, 2), (0xBBF, 0xBBF, 9), (0xBC0, 0xBC0, 2), (0xBC1, 0xBC2, 9), (0xBC6, 0xBC8, 9),
  (0xBCA, 0xBCC, 9), (0xBCD, 0xBCD, 2), (0xBD7, 0xBD7, 2), (0xC00, 0xC00, 2), (0xC01, 0xC03, 9),
  (0xC04, 0xC04, 2), (0xC3C, 0xC3C, 2), (0xC3E, 0xC40, 2), (0xC41, 0xC44, 9), (0xC46, 0xC48, 2),
  (0xC4A, 0xC4D, 2), (0xC55, 0xC56, 2), (0xC62, 0xC63, 2), (0xC81, 0xC81, 2), (0xC82, 0xC83, 9),
  (0xCBC, 0xCBC, 2), (0xCBE, 0xCBE, 9), (0xCBF, 0xCC0, 2), (0xCC1, 0xCC1, 9), (0xCC2, 0xCC2, 2),
  (0xCC3, 0xCC4, 9), (0xCC6, 0xCC8, 2), (0xCCA, 0xCCD, 2), (0xCD5, 0xCD6, 2), (0xCE2, 0xCE3, 2),
  (0xCF3, 0xCF3, 9), (0xD00, 0xD01, 2), (0xD02, 0xD03, 9), (0xD3B, 0xD3C, 2), (0xD3E, 0xD3E, 2),
  (0xD3F, 0xD40, 9), (0xD41, 0xD44, 2), (0xD46, 0xD48, 9), (0xD4A, 0xD4C, 9), (0xD4D, 0xD4D, 2),
  (0xD4E, 0xD4E, 7), (0xD57, 0xD57, 2), (0xD62, 0xD63, 2), (0xD81, 0xD81, 2), (0xD82, 0xD83, 9),
  (0xDCA, 0xDCA, 2), (0xDCF, 0xDCF, 2), (0xDD0, 0xDD1, 9), (0xDD2, 0xDD4, 2), (0xDD6, 0xDD6, 2),
  (0xDD8, 0xDDE, 9), (0xDDF, 0xDDF, 2), (0xDF2, 0xDF3, 9), (0xE31, 0xE31, 2), (0xE33, 0xE33, 9),
  (0xE34, 0xE3A, 2), (0xE47, 0xE4E, 2), (0xEB1, 0xEB1, 2), (0xEB3, 0xEB3, 9), (0xEB4, 0xEBC, 2),
  (0xEC8, 0xECE, 2), (0xF18, 0xF19, 2), (0xF35, 0xF35, 2), (0xF37, 0xF37, 2), (0xF39, 0xF39, 2),
  (0xF3E, 0xF3F, 9), (0xF71, 0xF7E, 2), (0xF7F, 0xF7F, 9), (0xF80, 0xF84, 2), (0xF86, 0xF87, 2),
  (0xF8D, 0xF97, 2), (0xF99, 0xFBC, 2), (0xFC6, 0xFC6, 2), (0x102D, 0x1030, 2), (0x1031, 0x1031, 9),
  (0x1032, 0x1037, 2), (0x1039, 0x103A, 2), (0x103B, 0x103C, 9), (0x103D, 0x103E, 2),
  (0x1056, 0x1057, 9), (0x1058, 0x1059, 2), (0x105E, 0x1060, 2), (0x1071, 0x1074, 2),
  (0x1082, 0x1082, 2), (0x1084, 0x1084, 9), (0x1085, 0x1086, 2), (0x108D, 0x108D, 2),
  (0x109D, 0x109D, 2), (0x1100, 0x115F, 3), (0x1160, 0x11A7, 11), (0x11A8, 0x11FF, 10),
  (0x135D, 0x135F, 2), (0x1712, 0x1715, 2), (0x1732, 0x1734, 2), (0x1752, 0x1753, 2),
  (0x1772, 0x1773, 2), (0x17B4, 0x17B5, 2), (0x17B6, 0x17B6, 9), (0x17B7, 0x17BD, 2),
  (0x17BE, 0x17C5, 9), (0x17C6, 0x17C6, 2), (0x17C7, 0x17C8, 9), (0x17C9, 0x17D3, 2),
  (0x17DD, 0x17DD, 2), (0x180B, 0x180D, 2), (0x180E, 0x180E, 1), (0x180F, 0x180F, 2),
  (0x1885, 0x1886, 2), (0x18A9, 0x18A9, 2), (0x1920, 0x1922, 2), (0x1923, 0x1926, 9),
  (0x1927, 0x1928, 2), (0x1929, 0x192B, 9), (0x1930, 0x1931, 9), (0x1932, 0x1932, 2),
  (0x1933, 0x1938, 9), (0x1939, 0x193B, 2), (0x1A17, 0x1A18, 2), (0x1A19, 0x1A1A, 9),
  (0x1A1B, 0x1A1B, 2), (0x1A55, 0x1A55, 9), (0x1A56, 0x1A56, 2), (0x1A57, 0x1A57, 9),
  (0x1A58, 0x1A5E, 2), (0x1A60, 0x1A60, 2), (0x1A62, 0x1A62, 2), (0x1A65, 0x1A6C, 2),
  (0x1A6D, 0x1A72, 9), (0x1A73, 0x1A7C, 2), (0x1A7F, 0x1A7F, 2), (0x1AB0, 0x1ACE, 2),
  (0x1B00, 0x1B03, 2), (0x1B04, 0x1B04, 9), (0x1B34, 0x1B3D, 2), (0x1B3E, 0x1B41, 9),
  (0x1B42, 0x1B44, 2), (0x1B6B, 0x1B73, 2), (0x1B80, 0x1B81, 2), (0x1B82, 0x1B82, 9),
  (0x1BA1, 0x1BA1, 9), (0x1BA2, 0x1BA5, 2), (0x1BA6, 0x1BA7, 9), (0x1BA8, 0x1BAD, 2),
  (0x1BE6, 0x1BE6, 2), (0x1BE7, 0x1BE7, 9), (0x1BE8, 0x1BE9, 2), (0x1BEA, 0x1BEC, 9),
  (0x1BED, 0x1BED, 2), (0x1BEE, 0x1BEE, 9), (0x1BEF, 0x1BF3, 2), (0x1C24, 0x1C2B, 9),
  (0x1C2C, 0x1C33, 2), (0x1C34, 0x1C35, 9), (0x1C36, 0x1C37, 2), (0x1CD0, 0x1CD2, 2),
  (0x1CD4, 0x1CE0, 2), (0x1CE1, 0x1CE1, 9), (0x1CE2, 0x1CE8, 2), (0x1CED, 0x1CED, 2),
  (0x1CF4, 0x1CF4, 2), (0x1CF7, 0x1CF7, 9), (0x1CF8, 0x1CF9, 2), (0x1DC0, 0x1DFF, 2),
  (0x200B, 0x200B, 1), (0x200C, 0x200C, 2), (0x200D, 0x200D, 12), (0x200E, 0x200F, 1),
  (0x2028, 0x202E, 1), (0x2060, 0x206F, 1), (0x20D0, 0x20F0, 2), (0x2CEF, 0x2CF1, 2),
  (0x2D7F, 0x2D7F, 2), (0x2DE0, 0x2DFF, 2), (0x302A, 0x302F, 2), (0x3099, 0x309A, 2),
  (0xA66F, 0xA672, 2), (0xA674, 0xA67D, 2), (0xA69E, 0xA69F, 2), (0xA6F0, 0xA6F1, 2),
  (0xA802, 0xA802, 2), (0xA806, 0xA806, 2), (0xA80B, 0xA80B, 2), (0xA823, 0xA824, 9),
  (0xA825, 0xA826, 2), (0xA827, 0xA827, 9), (0xA82C, 0xA82C, 2), (0xA880, 0xA881, 9),
  (0xA8B4, 0xA8C3, 9), (0xA8C4, 0xA8C5, 2), (0xA8E0, 0xA8F1, 2), (0xA8FF, 0xA8FF, 2),
  (0xA926, 0xA92D, 2), (0xA947, 0xA951, 2), (0xA952, 0xA952, 9), (0xA953, 0xA953, 2),
  (0xA960, 0xA97C, 3), (0xA980, 0xA982, 2), (0xA983, 0xA983, 9), (0xA9B3, 0xA9B3, 2),
  (0xA9B4, 0xA9B5, 9), (0xA9B6, 0xA9B9, 2), (0xA9BA, 0xA9BB, 9), (0xA9BC, 0xA9BD, 2),
  (0xA9BE, 0xA9BF, 9), (0xA9C0, 0xA9C0, 2), (0xA9E5, 0xA9E5, 2), (0xAA29, 0xAA2E, 2),
  (0xAA2F, 0xAA30, 9), (0xAA31, 0xAA32, 2), (0xAA33, 0xAA34, 9), (0xAA35, 0xAA36, 2),
  (0xAA43, 0xAA43, 2), (0xAA4C, 0xAA4C, 2), (0xAA4D, 0xAA4D, 9), (0xAA7C, 0xAA7C, 2),
  (0xAAB0, 0xAAB0, 2), (0xAAB2, 0xAAB4, 2), (0xAAB7, 0xAAB8, 2), (0xAABE, 0xAABF, 2),
  (0xAAC1, 0xAAC1, 2), (0xAAEB, 0xAAEB, 9), (0xAAEC, 0xAAED, 2), (0xAAEE, 0xAAEF, 9),
  (0xAAF5, 0xAAF5, 9), (0xAAF6, 0xAAF6, 2), (0xABE3, 0xABE4, 9), (0xABE5, 0xABE5, 2),
  (0xABE6, 0xABE7, 9), (0xABE8, 0xABE8, 2), (0xABE9, 0xABEA, 9), (0xABEC, 0xABEC, 9),
  (0xABED, 0xABED, 2), (0xAC00, 0xAC00, 5), (0xAC01, 0xAC1B, 6), (0xAC1C, 0xAC1C, 5),
  (0xAC1D, 0xAC37, 6), (0xAC38, 0xAC38, 5), (0xAC39, 0xAC53, 6), (0xAC54, 0xAC54, 5),
  (0xAC55, 0xAC6F, 6), (0xAC70, 0xAC70, 5), (0xAC71, 0xAC8B, 6), (0xAC8C, 0xAC8C, 5),
  (0xAC8D, 0xACA7, 6), (0xACA8, 0xACA8, 5), (0xACA9, 0xACC3, 6), (0xACC4, 0xACC4, 5),
  (0xACC5, 0xACDF, 6), (0xACE0, 0xACE0, 5), (0xACE1, 0xACFB, 6), (0xACFC, 0xACFC, 5),
  (0xACFD, 0xAD17, 6), (0xAD18, 0xAD18, 5), (0xAD19, 0xAD33, 6), (0xAD34, 0xAD34, 5),
  (0xAD35, 0xAD4F, 6), (0xAD50, 0xAD50, 5), (0xAD51, 0xAD6B, 6), (0xAD6C, 0xAD6C, 5),
  (0xAD6D, 0xAD87, 6), (0xAD88, 0xAD88, 5), (0xAD89, 0xADA3, 6), (0xADA4, 0xADA4, 5),
  (0xADA5, 0xADBF, 6), (0xADC0, 0xADC0, 5), (0xADC1, 0xADDB, 6), (0xADDC, 0xADDC, 5),
  (0xADDD, 0xADF7, 6), (0xADF8, 0xADF8, 5), (0xADF9, 0xAE13, 6), (0xAE14, 0xAE14, 5),
  (0xAE15, 0xAE2F, 6), (0xAE30, 0xAE30, 5), (0xAE31, 0xAE4B, 6), (0xAE4C, 0xAE4C, 5),
  (0xAE4D, 0xAE67, 6), (0xAE68, 0xAE68, 5), (0xAE69, 0xAE83, 6), (0xAE84, 0xAE84, 5),
  (0xAE85, 0xAE9F, 6), (0xAEA0, 0xAEA0, 5), (0xAEA1, 0xAEBB, 6), (0xAEBC, 0xAEBC, 5),
  (0xAEBD, 0xAED7, 6), (0xAED8, 0xAED8, 5), (0xAED9, 0xAEF3, 6), (0xAEF4, 0xAEF4, 5),
  (0xAEF5, 0xAF0F, 6), (0xAF10, 0xAF10, 5), (0xAF11, 0xAF2B, 6), (0xAF2C, 0xAF2C, 5),
  (0xAF2D, 0xAF47, 6), (0xAF48, 0xAF48, 5), (0xAF49, 0xAF63, 6), (0xAF64, 0xAF64, 5),
  (0xAF65, 0xAF7F, 6), (0xAF80, 0xAF80, 5), (0xAF81, 0xAF9B, 6), (0xAF9C, 0xAF9C, 5),
  (0xAF9D, 0xAFB7, 6), (0xAFB8, 0xAFB8, 5), (0xAFB9, 0xAFD3, 6), (0xAFD4, 0xAFD4, 5),
  (0xAFD5, 0xAFEF, 6), (0xAFF0, 0xAFF0, 5), (0xAFF1, 0xB00B, 6), (0xB00C, 0xB00C, 5),
  (0xB00D, 0xB027, 6), (0xB028, 0xB028, 5), (0xB029, 0xB043, 6), (0xB044, 0xB044, 5),
  (0xB045, 0xB05F, 6), (0xB060, 0xB060, 5), (0xB061, 0xB07B, 6), (0xB07C, 0xB07C, 5),
  (0xB07D, 0xB097, 6), (0xB098, 0xB098, 5), (0xB099, 0xB0B3, 6), (0xB0B4, 0xB0B4, 5),
  (0xB0B5, 0xB0CF, 6), (0xB0D0, 0xB0D0, 5), (0xB0D1, 0xB0EB, 6), (0xB0EC, 0xB0EC, 5),
  (0xB0ED, 0xB107, 6), (0xB108, 0xB108, 5), (0xB109, 0xB123, 6), (0xB124, 0xB124, 5),
  (0xB125, 0xB13F, 6), (0xB140, 0xB140, 5), (0xB141, 0xB15B, 6), (0xB15C, 0xB15C, 5),
  (0xB15D, 0xB177, 6), (0xB178, 0xB178, 5), (0xB179, 0xB193, 6), (0xB194, 0xB194, 5),
  (0xB195, 0xB1AF, 6), (0xB1B0, 0xB1B0, 5), (0xB1B1, 0xB1CB, 6), (0xB1CC, 0xB1CC, 5),
  (0xB1CD, 0xB1E7, 6), (0xB1E8, 0xB1E8, 5), (0xB1E9, 0xB203, 6), (0xB204, 0xB204, 5),
  (0xB205, 0xB21F, 6), (0xB220, 0xB220, 5), (0xB221, 0xB23B, 6), (0xB23C, 0xB23C, 5),
  (0xB23D, 0xB257, 6), (0xB258, 0xB258, 5), (0xB259, 0xB273, 6), (0xB274, 0xB274, 5),
  (0xB275, 0xB28F, 6), (0xB290, 0xB290, 5), (0xB291, 0xB2AB, 6), (0xB2AC, 0xB2AC, 5),
  (0xB2AD, 0xB2C7, 6), (0xB2C8, 0xB2C8, 5), (0xB2C9, 0xB2E3, 6), (0xB2E4, 0xB2E4, 5),
  (0xB2E5, 0xB2FF, 6), (0xB300, 0xB300, 5), (0xB301, 0xB31B, 6), (0xB31C, 0xB31C, 5),
  (0xB31D, 0xB337, 6), (0xB338, 0xB338, 5), (0xB339, 0xB353, 6), (0xB354, 0xB354, 5),
  (0xB355, 0xB36F, 6), (0xB370, 0xB370, 5), (0xB371, 0xB38B, 6), (0xB38C, 0xB38C, 5),
  (0xB38D, 0xB3A7, 6), (0xB3A8, 0xB3A8, 5), (0xB3A9, 0xB3C3, 6), (0xB3C4, 0xB3C4, 5),
  (0xB3C5, 0xB3DF, 6), (0xB3E0, 0xB3E0, 5), (0xB3E1, 0xB3FB, 6), (0xB3FC, 0xB3FC, 5),
  (0xB3FD, 0xB417, 6), (0xB418, 0xB418, 5), (0xB419, 0xB433, 6), (0xB434, 0xB434, 5),
  (0xB435, 0xB44F, 6), (0xB450, 0xB450, 5), (0xB451, 0xB46B, 6), (0xB46C, 0xB46C, 5),
  (0xB46D, 0xB487, 6), (0xB488, 0xB488, 5), (0xB489, 0xB4A3, 6), (0xB4A4, 0xB4A4, 5),
  (0xB4A5, 0xB4BF, 6), (0xB4C0, 0xB4C0, 5), (0xB4C1, 0xB4DB, 6), (0xB4DC, 0xB4DC, 5),
  (0xB4DD, 0xB4F7, 6), (0xB4F8, 0xB4F8, 5), (0xB4F9, 0xB513, 6), (0xB514, 0xB514, 5),
  (0xB515, 0xB52F, 6), (0xB530, 0xB530, 5), (0xB531, 0xB54B, 6), (0xB54C, 0xB54C, 5),
  (0xB54D, 0xB567, 6)]

private def graphemeBreakRangesPart2 : TaggedRanges := #[
  (0xB568, 0xB568, 5), (0xB569, 0xB583, 6), (0xB584, 0xB584, 5), (0xB585, 0xB59F, 6),
  (0xB5A0, 0xB5A0, 5), (0xB5A1, 0xB5BB, 6), (0xB5BC, 0xB5BC, 5), (0xB5BD, 0xB5D7, 6),
  (0xB5D8, 0xB5D8, 5), (0xB5D9, 0xB5F3, 6), (0xB5F4, 0xB5F4, 5), (0xB5F5, 0xB60F, 6),
  (0xB610, 0xB610, 5), (0xB611, 0xB62B, 6), (0xB62C, 0xB62C, 5), (0xB62D, 0xB647, 6),
  (0xB648, 0xB648, 5), (0xB649, 0xB663, 6), (0xB664, 0xB664, 5), (0xB665, 0xB67F, 6),
  (0xB680, 0xB680, 5), (0xB681, 0xB69B, 6), (0xB69C, 0xB69C, 5), (0xB69D, 0xB6B7, 6),
  (0xB6B8, 0xB6B8, 5), (0xB6B9, 0xB6D3, 6), (0xB6D4, 0xB6D4, 5), (0xB6D5, 0xB6EF, 6),
  (0xB6F0, 0xB6F0, 5), (0xB6F1, 0xB70B, 6), (0xB70C, 0xB70C, 5), (0xB70D, 0xB727, 6),
  (0xB728, 0xB728, 5), (0xB729, 0xB743, 6), (0xB744, 0xB744, 5), (0xB745, 0xB75F, 6),
  (0xB760, 0xB760, 5), (0xB761, 0xB77B, 6), (0xB77C, 0xB77C, 5), (0xB77D, 0xB797, 6),
  (0xB798, 0xB798, 5), (0xB799, 0xB7B3, 6), (0xB7B4, 0xB7B4, 5), (0xB7B5, 0xB7CF, 6),
  (0xB7D0, 0xB7D0, 5), (0xB7D1, 0xB7EB, 6), (0xB7EC, 0xB7EC, 5), (0xB7ED, 0xB807, 6),
  (0xB808, 0xB808, 5), (0xB809, 0xB823, 6), (0xB824, 0xB824, 5), (0xB825, 0xB83F, 6),
  (0xB840, 0xB840, 5), (0xB841, 0xB85B, 6), (0xB85C, 0xB85C, 5), (0xB85D, 0xB877, 6),
  (0xB878, 0xB878, 5), (0xB879, 0xB893, 6), (0xB894, 0xB894, 5), (0xB895, 0xB8AF, 6),
  (0xB8B0, 0xB8B0, 5), (0xB8B1, 0xB8CB, 6), (0xB8CC, 0xB8CC, 5), (0xB8CD, 0xB8E7, 6),
  (0xB8E8, 0xB8E8, 5), (0xB8E9, 0xB903, 6), (0xB904, 0xB904, 5), (0xB905, 0xB91F, 6),
  (0xB920, 0xB920, 5), (0xB921, 0xB93B, 6), (0xB93C, 0xB93C, 5), (0xB93D, 0xB957, 6),
  (0xB958, 0xB958, 5), (0xB959, 0xB973, 6), (0xB974, 0xB974, 5), (0xB975, 0xB98F, 6),
  (0xB990, 0xB990, 5), (0xB991, 0xB9AB, 6), (0xB9AC, 0xB9AC, 5), (0xB9AD, 0xB9C7, 6),
  (0xB9C8, 0xB9C8, 5), (0xB9C9, 0xB9E3, 6), (0xB9E4, 0xB9E4, 5), (0xB9E5, 0xB9FF, 6),
  (0xBA00, 0xBA00, 5), (0xBA01, 0xBA1B, 6), (0xBA1C, 0xBA1C, 5), (0xBA1D, 0xBA37, 6),
  (0xBA38, 0xBA38, 5), (0xBA39, 0xBA53, 6), (0xBA54, 0xBA54, 5), (0xBA55, 0xBA6F, 6),
  (0xBA70, 0xBA70, 5), (0xBA71, 0xBA8B, 6), (0xBA8C, 0xBA8C, 5), (0xBA8D, 0xBAA7, 6),
  (0xBAA8, 0xBAA8, 5), (0xBAA9, 0xBAC3, 6), (0xBAC4, 0xBAC4, 5), (0xBAC5, 0xBADF, 6),
  (0xBAE0, 0xBAE0, 5), (0xBAE1, 0xBAFB, 6), (0xBAFC, 0xBAFC, 5), (0xBAFD, 0xBB17, 6),
  (0xBB18, 0xBB18, 5), (0xBB19, 0xBB33, 6), (0xBB34, 0xBB34, 5), (0xBB35, 0xBB4F, 6),
  (0xBB50, 0xBB50, 5), (0xBB51, 0xBB6B, 6), (0xBB6C, 0xBB6C, 5), (0xBB6D, 0xBB87, 6),
  (0xBB88, 0xBB88, 5), (0xBB89, 0xBBA3, 6), (0xBBA4, 0xBBA4, 5), (0xBBA5, 0xBBBF, 6),
  (0xBBC0, 0xBBC0, 5), (0xBBC1, 0xBBDB, 6), (0xBBDC, 0xBBDC, 5), (0xBBDD, 0xBBF7, 6),
  (0xBBF8, 0xBBF8, 5), (0xBBF9, 0xBC13, 6), (0xBC14, 0xBC14, 5), (0xBC15, 0xBC2F, 6),
  (0xBC30, 0xBC30, 5), (0xBC31, 0xBC4B, 6), (0xBC4C, 0xBC4C, 5), (0xBC4D, 0xBC67, 6),
  (0xBC68, 0xBC68, 5), (0xBC69, 0xBC83, 6), (0xBC84, 0xBC84, 5), (0xBC85, 0xBC9F, 6),
  (0xBCA0, 0xBCA0, 5), (0xBCA1, 0xBCBB, 6), (0xBCBC, 0xBCBC, 5), (0xBCBD, 0xBCD7, 6),
  (0xBCD8, 0xBCD8, 5), (0xBCD9, 0xBCF3, 6), (0xBCF4, 0xBCF4, 5), (0xBCF5, 0xBD0F, 6),
  (0xBD10, 0xBD10, 5), (0xBD11, 0xBD2B, 6), (0xBD2C, 0xBD2C, 5), (0xBD2D, 0xBD47, 6),
  (0xBD48, 0xBD48, 5), (0xBD49, 0xBD63, 6), (0xBD64, 0xBD64, 5), (0xBD65, 0xBD7F, 6),
  (0xBD80, 0xBD80, 5), (0xBD81, 0xBD9B, 6), (0xBD9C, 0xBD9C, 5), (0xBD9D, 0xBDB7, 6),
  (0xBDB8, 0xBDB8, 5), (0xBDB9, 0xBDD3, 6), (0xBDD4, 0xBDD4, 5), (0xBDD5, 0xBDEF, 6),
  (0xBDF0, 0xBDF0, 5), (0xBDF1, 0xBE0B, 6), (0xBE0C, 0xBE0C, 5), (0xBE0D, 0xBE27, 6),
  (0xBE28, 0xBE28, 5), (0xBE29, 0xBE43, 6), (0xBE44, 0xBE44, 5), (0xBE45, 0xBE5F, 6),
  (0xBE60, 0xBE60, 5), (0xBE61, 0xBE7B, 6), (0xBE7C, 0xBE7C, 5), (0xBE7D, 0xBE97, 6),
  (0xBE98, 0xBE98, 5), (0xBE99, 0xBEB3, 6), (0xBEB4, 0xBEB4, 5), (0xBEB5, 0xBECF, 6),
  (0xBED0, 0xBED0, 5), (0xBED1, 0xBEEB, 6), (0xBEEC, 0xBEEC, 5), (0xBEED, 0xBF07, 6),
  (0xBF08, 0xBF08, 5), (0xBF09, 0xBF23, 6), (0xBF24, 0xBF24, 5), (0xBF25, 0xBF3F, 6),
  (0xBF40, 0xBF40, 5), (0xBF41, 0xBF5B, 6), (0xBF5C, 0xBF5C, 5), (0xBF5D, 0xBF77, 6),
  (0xBF78, 0xBF78, 5), (0xBF79, 0xBF93, 6), (0xBF94, 0xBF94, 5), (0xBF95, 0xBFAF, 6),
  (0xBFB0, 0xBFB0, 5), (0xBFB1, 0xBFCB, 6), (0xBFCC, 0xBFCC, 5), (0xBFCD, 0xBFE7, 6),
  (0xBFE8, 0xBFE8, 5), (0xBFE9, 0xC003, 6), (0xC004, 0xC004, 5), (0xC005, 0xC01F, 6),
  (0xC020, 0xC020, 5), (0xC021, 0xC03B, 6), (0xC03C, 0xC03C, 5), (0xC03D, 0xC057, 6),
  (0xC058, 0xC058, 5), (0xC059, 0xC073, 6), (0xC074, 0xC074, 5), (0xC075, 0xC08F, 6),
  (0xC090, 0xC090, 5), (0xC091, 0xC0AB, 6), (0xC0AC, 0xC0AC, 5), (0xC0AD, 0xC0C7, 6),
  (0xC0C8, 0xC0C8, 5), (0xC0C9, 0xC0E3, 6), (0xC0E4, 0xC0E4, 5), (0xC0E5, 0xC0FF, 6),
  (0xC100, 0xC100, 5), (0xC101, 0xC11B, 6), (0xC11C, 0xC11C, 5), (0xC11D, 0xC137, 6),
  (0xC138, 0xC138, 5), (0xC139, 0xC153, 6), (0xC154, 0xC154, 5), (0xC155, 0xC16F, 6),
  (0xC170, 0xC170, 5), (0xC171, 0xC18B, 6), (0xC18C, 0xC18C, 5), (0xC18D, 0xC1A7, 6),
  (0xC1A8, 0xC1A8, 5), (0xC1A9, 0xC1C3, 6), (0xC1C4, 0xC1C4, 5), (0xC1C5, 0xC1DF, 6),
  (0xC1E0, 0xC1E0, 5), (0xC1E1, 0xC1FB, 6), (0xC1FC, 0xC1FC, 5), (0xC1FD, 0xC217, 6),
  (0xC218, 0xC218, 5), (0xC219, 0xC233, 6), (0xC234, 0xC234, 5), (0xC235, 0xC24F, 6),
  (0xC250, 0xC250, 5), (0xC251, 0xC26B, 6), (0xC26C, 0xC26C, 5), (0xC26D, 0xC287, 6),
  (0xC288, 0xC288, 5), (0xC289, 0xC2A3, 6), (0xC2A4, 0xC2A4, 5), (0xC2A5, 0xC2BF, 6),
  (0xC2C0, 0xC2C0, 5), (0xC2C1, 0xC2DB, 6), (0xC2DC, 0xC2DC, 5), (0xC2DD, 0xC2F7, 6),
  (0xC2F8, 0xC2F8, 5), (0xC2F9, 0xC313, 6), (0xC314, 0xC314, 5), (0xC315, 0xC32F, 6),
  (0xC330, 0xC330, 5), (0xC331, 0xC34B, 6), (0xC34C, 0xC34C, 5), (0xC34D, 0xC367, 6),
  (0xC368, 0xC368, 5), (0xC369, 0xC383, 6), (0xC384, 0xC384, 5), (0xC385, 0xC39F, 6),
  (0xC3A0, 0xC3A0, 5), (0xC3A1, 0xC3BB, 6), (0xC3BC, 0xC3BC, 5), (0xC3BD, 0xC3D7, 6),
  (0xC3D8, 0xC3D8, 5), (0xC3D9, 0xC3F3, 6), (0xC3F4, 0xC3F4, 5), (0xC3F5, 0xC40F, 6),
  (0xC410, 0xC410, 5), (0xC411, 0xC42B, 6), (0xC42C, 0xC42C, 5), (0xC42D, 0xC447, 6),
  (0xC448, 0xC448, 5), (0xC449, 0xC463, 6), (0xC464, 0xC464, 5), (0xC465, 0xC47F, 6),
  (0xC480, 0xC480, 5), (0xC481, 0xC49B, 6), (0xC49C, 0xC49C, 5), (0xC49D, 0xC4B7, 6),
  (0xC4B8, 0xC4B8, 5), (0xC4B9, 0xC4D3, 6), (0xC4D4, 0xC4D4, 5), (0xC4D5, 0xC4EF, 6),
  (0xC4F0, 0xC4F0, 5), (0xC4F1, 0xC50B, 6), (0xC50C, 0xC50C, 5), (0xC50D, 0xC527, 6),
  (0xC528, 0xC528, 5), (0xC529, 0xC543, 6), (0xC544, 0xC544, 5), (0xC545, 0xC55F, 6),
  (0xC560, 0xC560, 5), (0xC561, 0xC57B, 6), (0xC57C, 0xC57C, 5), (0xC57D, 0xC597, 6),
  (0xC598, 0xC598, 5), (0xC599, 0xC5B3, 6), (0xC5B4, 0xC5B4, 5), (0xC5B5, 0xC5CF, 6),
  (0xC5D0, 0xC5D0, 5), (0xC5D1, 0xC5EB, 6), (0xC5EC, 0xC5EC, 5), (0xC5ED, 0xC607, 6),
  (0xC608, 0xC608, 5), (0xC609, 0xC623, 6), (0xC624, 0xC624, 5), (0xC625, 0xC63F, 6),
  (0xC640, 0xC640, 5), (0xC641, 0xC65B, 6), (0xC65C, 0xC65C, 5), (0xC65D, 0xC677, 6),
  (0xC678, 0xC678, 5), (0xC679, 0xC693, 6), (0xC694, 0xC694, 5), (0xC695, 0xC6AF, 6),
  (0xC6B0, 0xC6B0, 5), (0xC6B1, 0xC6CB, 6), (0xC6CC, 0xC6CC, 5), (0xC6CD, 0xC6E7, 6),
  (0xC6E8, 0xC6E8, 5), (0xC6E9, 0xC703, 6), (0xC704, 0xC704, 5), (0xC705, 0xC71F, 6),
  (0xC720, 0xC720, 5), (0xC721, 0xC73B, 6), (0xC73C, 0xC73C, 5), (0xC73D, 0xC757, 6),
  (0xC758, 0xC758, 5), (0xC759, 0xC773, 6), (0xC774, 0xC774, 5), (0xC775, 0xC78F, 6),
  (0xC790, 0xC790, 5), (0xC791, 0xC7AB, 6), (0xC7AC, 0xC7AC, 5), (0xC7AD, 0xC7C7, 6),
  (0xC7C8, 0xC7C8, 5), (0xC7C9, 0xC7E3, 6), (0xC7E4, 0xC7E4, 5), (0xC7E5, 0xC7FF, 6),
  (0xC800, 0xC800, 5), (0xC801, 0xC81B, 6), (0xC81C, 0xC81C, 5), (0xC81D, 0xC837, 6),
  (0xC838, 0xC838, 5), (0xC839, 0xC853, 6), (0xC854, 0xC854, 5), (0xC855, 0xC86F, 6),
  (0xC870, 0xC870, 5), (0xC871, 0xC88B, 6), (0xC88C, 0xC88C, 5), (0xC88D, 0xC8A7, 6),
  (0xC8A8, 0xC8A8, 5), (0xC8A9, 0xC8C3, 6), (0xC8C4, 0xC8C4, 5), (0xC8C5, 0xC8DF, 6),
  (0xC8E0, 0xC8E0, 5), (0xC8E1, 0xC8FB, 6), (0xC8FC, 0xC8FC, 5), (0xC8FD, 0xC917, 6),
  (0xC918, 0xC918, 5), (0xC919, 0xC933, 6), (0xC934, 0xC934, 5), (0xC935, 0xC94F, 6),
  (0xC950, 0xC950, 5), (0xC951, 0xC96B, 6), (0xC96C, 0xC96C, 5), (0xC96D, 0xC987, 6),
  (0xC988, 0xC988, 5), (0xC989, 0xC9A3, 6), (0xC9A4, 0xC9A4, 5), (0xC9A5, 0xC9BF, 6),
  (0xC9C0, 0xC9C0, 5), (0xC9C1, 0xC9DB, 6), (0xC9DC, 0xC9DC, 5), (0xC9DD, 0xC9F7, 6),
  (0xC9F8, 0xC9F8, 5), (0xC9F9, 0xCA13, 6), (0xCA14, 0xCA14, 5), (0xCA15, 0xCA2F, 6),
  (0xCA30, 0xCA30, 5), (0xCA31, 0xCA4B, 6), (0xCA4C, 0xCA4C, 5), (0xCA4D, 0xCA67, 6),
  (0xCA68, 0xCA68, 5), (0xCA69, 0xCA83, 6), (0xCA84, 0xCA84, 5), (0xCA85, 0xCA9F, 6),
  (0xCAA0, 0xCAA0, 5), (0xCAA1, 0xCABB, 6), (0xCABC, 0xCABC, 5), (0xCABD, 0xCAD7, 6),
  (0xCAD8, 0xCAD8, 5), (0xCAD9, 0xCAF3, 6), (0xCAF4, 0xCAF4, 5), (0xCAF5, 0xCB0F, 6),
  (0xCB10, 0xCB10, 5), (0xCB11, 0xCB2B, 6), (0xCB2C, 0xCB2C, 5), (0xCB2D, 0xCB47, 6),
  (0xCB48, 0xCB48, 5), (0xCB49, 0xCB63, 6), (0xCB64, 0xCB64, 5), (0xCB65, 0xCB7F, 6),
  (0xCB80, 0xCB80, 5), (0xCB81, 0xCB9B, 6), (0xCB9C, 0xCB9C, 5), (0xCB9D, 0xCBB7, 6),
  (0xCBB8, 0xCBB8, 5), (0xCBB9, 0xCBD3, 6), (0xCBD4, 0xCBD4, 5), (0xCBD5, 0xCBEF, 6),
  (0xCBF0, 0xCBF0, 5), (0xCBF1, 0xCC0B, 6), (0xCC0C, 0xCC0C, 5), (0xCC0D, 0xCC27, 6),
  (0xCC28, 0xCC28, 5), (0xCC29, 0xCC43, 6), (0xCC44, 0xCC44, 5), (0xCC45, 0xCC5F, 6),
  (0xCC60, 0xCC60, 5), (0xCC61, 0xCC7B, 6), (0xCC7C, 0xCC7C, 5), (0xCC7D, 0xCC97, 6),
  (0xCC98, 0xCC98, 5), (0xCC99, 0xCCB3, 6), (0xCCB4, 0xCCB4, 5), (0xCCB5, 0xCCCF, 6),
  (0xCCD0, 0xCCD0, 5), (0xCCD1, 0xCCEB, 6), (0xCCEC, 0xCCEC, 5), (0xCCED, 0xCD07, 6),
  (0xCD08, 0xCD08, 5), (0xCD09, 0xCD23, 6), (0xCD24, 0xCD24, 5), (0xCD25, 0xCD3F, 6),
  (0xCD40, 0xCD40, 5), (0xCD41, 0xCD5B, 6), (0xCD5C, 0xCD5C, 5), (0xCD5D, 0xCD77, 6),
  (0xCD78, 0xCD78, 5), (0xCD79, 0xCD93, 6), (0xCD94, 0xCD94, 5), (0xCD95, 0xCDAF, 6),
  (0xCDB0, 0xCDB0, 5), (0xCDB1, 0xCDCB, 6), (0xCDCC, 0xCDCC, 5), (0xCDCD, 0xCDE7, 6),
  (0xCDE8, 0xCDE8, 5), (0xCDE9, 0xCE03, 6), (0xCE04, 0xCE04, 5), (0xCE05, 0xCE1F, 6),
  (0xCE20, 0xCE20, 5), (0xCE21, 0xCE3B, 6), (0xCE3C, 0xCE3C, 5), (0xCE3D, 0xCE57, 6),
  (0xCE58, 0xCE58, 5), (0xCE59, 0xCE73, 6), (0xCE74, 0xCE74, 5), (0xCE75, 0xCE8F, 6),
  (0xCE90, 0xCE90, 5), (0xCE91, 0xCEAB, 6), (0xCEAC, 0xCEAC, 5), (0xCEAD, 0xCEC7, 6),
  (0xCEC8, 0xCEC8, 5), (0xCEC9, 0xCEE3, 6), (0xCEE4, 0xCEE4, 5), (0xCEE5, 0xCEFF, 6),
  (0xCF00, 0xCF00, 5), (0xCF01, 0xCF1B, 6), (0xCF1C, 0xCF1C, 5), (0xCF1D, 0xCF37, 6),
  (0xCF38, 0xCF38, 5), (0xCF39, 0xCF53, 6), (0xCF54, 0xCF54, 5), (0xCF55, 0xCF6F, 6),
  (0xCF70, 0xCF70, 5), (0xCF71, 0xCF8B, 6), (0xCF8C, 0xCF8C, 5), (0xCF8D, 0xCFA7, 6),
  (0xCFA8, 0xCFA8, 5), (0xCFA9, 0xCFC3, 6), (0xCFC4, 0xCFC4, 5), (0xCFC5, 0xCFDF, 6),
  (0xCFE0, 0xCFE0, 5), (0xCFE1, 0xCFFB, 6), (0xCFFC, 0xCFFC, 5), (0xCFFD, 0xD017, 6),
  (0xD018, 0xD018, 5), (0xD019, 0xD033, 6), (0xD034, 0xD034, 5), (0xD035, 0xD04F, 6),
  (0xD050, 0xD050, 5), (0xD051, 0xD06B, 6), (0xD06C, 0xD06C, 5), (0xD06D, 0xD087, 6),
  (0xD088, 0xD088, 5), (0xD089, 0xD0A3, 6), (0xD0A4, 0xD0A4, 5), (0xD0A5, 0xD0BF, 6)]

private def graphemeBreakRangesPart3 : TaggedRanges := #[
  (0xD0C0, 0xD0C0, 5), (0xD0C1, 0xD0DB, 6), (0xD0DC, 0xD0DC, 5), (0xD0DD, 0xD0F7, 6),
  (0xD0F8, 0xD0F8, 5), (0xD0F9, 0xD113, 6), (0xD114, 0xD114, 5), (0xD115, 0xD12F, 6),
  (0xD130, 0xD130, 5), (0xD131, 0xD14B, 6), (0xD14C, 0xD14C, 5), (0xD14D, 0xD167, 6),
  (0xD168, 0xD168, 5), (0xD169, 0xD183, 6), (0xD184, 0xD184, 5), (0xD185, 0xD19F, 6),
  (0xD1A0, 0xD1A0, 5), (0xD1A1, 0xD1BB, 6), (0xD1BC, 0xD1BC, 5), (0xD1BD, 0xD1D7, 6),
  (0xD1D8, 0xD1D8, 5), (0xD1D9, 0xD1F3, 6), (0xD1F4, 0xD1F4, 5), (0xD1F5, 0xD20F, 6),
  (0xD210, 0xD210, 5), (0xD211, 0xD22B, 6), (0xD22C, 0xD22C, 5), (0xD22D, 0xD247, 6),
  (0xD248, 0xD248, 5), (0xD249, 0xD263, 6), (0xD264, 0xD264, 5), (0xD265, 0xD27F, 6),
  (0xD280, 0xD280, 5), (0xD281, 0xD29B, 6), (0xD29C, 0xD29C, 5), (0xD29D, 0xD2B7, 6),
  (0xD2B8, 0xD2B8, 5), (0xD2B9, 0xD2D3, 6), (0xD2D4, 0xD2D4, 5), (0xD2D5, 0xD2EF, 6),
  (0xD2F0, 0xD2F0, 5), (0xD2F1, 0xD30B, 6), (0xD30C, 0xD30C, 5), (0xD30D, 0xD327, 6),
  (0xD328, 0xD328, 5), (0xD329, 0xD343, 6), (0xD344, 0xD344, 5), (0xD345, 0xD35F, 6),
  (0xD360, 0xD360, 5), (0xD361, 0xD37B, 6), (0xD37C, 0xD37C, 5), (0xD37D, 0xD397, 6),
  (0xD398, 0xD398, 5), (0xD399, 0xD3B3, 6), (0xD3B4, 0xD3B4, 5), (0xD3B5, 0xD3CF, 6),
  (0xD3D0, 0xD3D0, 5), (0xD3D1, 0xD3EB, 6), (0xD3EC, 0xD3EC, 5), (0xD3ED, 0xD407, 6),
  (0xD408, 0xD408, 5), (0xD409, 0xD423, 6), (0xD424, 0xD424, 5), (0xD425, 0xD43F, 6),
  (0xD440, 0xD440, 5), (0xD441, 0xD45B, 6), (0xD45C, 0xD45C, 5), (0xD45D, 0xD477, 6),
  (0xD478, 0xD478, 5), (0xD479, 0xD493, 6), (0xD494, 0xD494, 5), (0xD495, 0xD4AF, 6),
  (0xD4B0, 0xD4B0, 5), (0xD4B1, 0xD4CB, 6), (0xD4CC, 0xD4CC, 5), (0xD4CD, 0xD4E7, 6),
  (0xD4E8, 0xD4E8, 5), (0xD4E9, 0xD503, 6), (0xD504, 0xD504, 5), (0xD505, 0xD51F, 6),
  (0xD520, 0xD520, 5), (0xD521, 0xD53B, 6), (0xD53C, 0xD53C, 5), (0xD53D, 0xD557, 6),
  (0xD558, 0xD558, 5), (0xD559, 0xD573, 6), (0xD574, 0xD574, 5), (0xD575, 0xD58F, 6),
  (0xD590, 0xD590, 5), (0xD591, 0xD5AB, 6), (0xD5AC, 0xD5AC, 5), (0xD5AD, 0xD5C7, 6),
  (0xD5C8, 0xD5C8, 5), (0xD5C9, 0xD5E3, 6), (0xD5E4, 0xD5E4, 5), (0xD5E5, 0xD5FF, 6),
  (0xD600, 0xD600, 5), (0xD601, 0xD61B, 6), (0xD61C, 0xD61C, 5), (0xD61D, 0xD637, 6),
  (0xD638, 0xD638, 5), (0xD639, 0xD653, 6), (0xD654, 0xD654, 5), (0xD655, 0xD66F, 6),
  (0xD670, 0xD670, 5), (0xD671, 0xD68B, 6), (0xD68C, 0xD68C, 5), (0xD68D, 0xD6A7, 6),
  (0xD6A8, 0xD6A8, 5), (0xD6A9, 0xD6C3, 6), (0xD6C4, 0xD6C4, 5), (0xD6C5, 0xD6DF, 6),
  (0xD6E0, 0xD6E0, 5), (0xD6E1, 0xD6FB, 6), (0xD6FC, 0xD6FC, 5), (0xD6FD, 0xD717, 6),
  (0xD718, 0xD718, 5), (0xD719, 0xD733, 6), (0xD734, 0xD734, 5), (0xD735, 0xD74F, 6),
  (0xD750, 0xD750, 5), (0xD751, 0xD76B, 6), (0xD76C, 0xD76C, 5), (0xD76D, 0xD787, 6),
  (0xD788, 0xD788, 5), (0xD789, 0xD7A3, 6), (0xD7B0, 0xD7C6, 11), (0xD7CB, 0xD7FB, 10),
  (0xFB1E, 0xFB1E, 2), (0xFE00, 0xFE0F, 2), (0xFE20, 0xFE2F, 2), (0xFEFF, 0xFEFF, 1),
  (0xFF9E, 0xFF9F, 2), (0xFFF0, 0xFFFB, 1), (0x101FD, 0x101FD, 2), (0x102E0, 0x102E0, 2),
  (0x10376, 0x1037A, 2), (0x10A01, 0x10A03, 2), (0x10A05, 0x10A06, 2), (0x10A0C, 0x10A0F, 2),
  (0x10A38, 0x10A3A, 2), (0x10A3F, 0x10A3F, 2), (0x10AE5, 0x10AE6, 2), (0x10D24, 0x10D27, 2),
  (0x10D69, 0x10D6D, 2), (0x10EAB, 0x10EAC, 2), (0x10EFC, 0x10EFF, 2), (0x10F46, 0x10F50, 2),
  (0x10F82, 0x10F85, 2), (0x11000, 0x11000, 9), (0x11001, 0x11001, 2), (0x11002, 0x11002, 9),
  (0x11038, 0x11046, 2), (0x11070, 0x11070, 2), (0x11073, 0x11074, 2), (0x1107F, 0x11081, 2),
  (0x11082, 0x11082, 9), (0x110B0, 0x110B2, 9), (0x110B3, 0x110B6, 2), (0x110B7, 0x110B8, 9),
  (0x110B9, 0x110BA, 2), (0x110BD, 0x110BD, 7), (0x110C2, 0x110C2, 2), (0x110CD, 0x110CD, 7),
  (0x11100, 0x11102, 2), (0x11127, 0x1112B, 2), (0x1112C, 0x1112C, 9), (0x1112D, 0x11134, 2),
  (0x11145, 0x11146, 9), (0x11173, 0x11173, 2), (0x11180, 0x11181, 2), (0x11182, 0x11182, 9),
  (0x111B3, 0x111B5, 9), (0x111B6, 0x111BE, 2), (0x111BF, 0x111BF, 9), (0x111C0, 0x111C0, 2),
  (0x111C2, 0x111C3, 7), (0x111C9, 0x111CC, 2), (0x111CE, 0x111CE, 9), (0x111CF, 0x111CF, 2),
  (0x1122C, 0x1122E, 9), (0x1122F, 0x11231, 2), (0x11232, 0x11233, 9), (0x11234, 0x11237, 2),
  (0x1123E, 0x1123E, 2), (0x11241, 0x11241, 2), (0x112DF, 0x112DF, 2), (0x112E0, 0x112E2, 9),
  (0x112E3, 0x112EA, 2), (0x11300, 0x11301, 2), (0x11302, 0x11303, 9), (0x1133B, 0x1133C, 2),
  (0x1133E, 0x1133E, 2), (0x1133F, 0x1133F, 9), (0x11340, 0x11340, 2), (0x11341, 0x11344, 9),
  (0x11347, 0x11348, 9), (0x1134B, 0x1134C, 9), (0x1134D, 0x1134D, 2), (0x11357, 0x11357, 2),
  (0x11362, 0x11363, 9), (0x11366, 0x1136C, 2), (0x11370, 0x11374, 2), (0x113B8, 0x113B8, 2),
  (0x113B9, 0x113BA, 9), (0x113BB, 0x113C0, 2), (0x113C2, 0x113C2, 2), (0x113C5, 0x113C5, 2),
  (0x113C7, 0x113C9, 2), (0x113CA, 0x113CA, 9), (0x113CC, 0x113CD, 9), (0x113CE, 0x113D0, 2),
  (0x113D2, 0x113D2, 2), (0x113E1, 0x113E2, 2), (0x11435, 0x11437, 9), (0x11438, 0x1143F, 2),
  (0x11440, 0x11441, 9), (0x11442, 0x11444, 2), (0x11445, 0x11445, 9), (0x11446, 0x11446, 2),
  (0x1145E, 0x1145E, 2), (0x114B0, 0x114B0, 2), (0x114B1, 0x114B2, 9), (0x114B3, 0x114B8, 2),
  (0x114B9, 0x114B9, 9), (0x114BA, 0x114BA, 2), (0x114BB, 0x114BC, 9), (0x114BD, 0x114BD, 2),
  (0x114BE, 0x114BE, 9), (0x114BF, 0x114C0, 2), (0x114C1, 0x114C1, 9), (0x114C2, 0x114C3, 2),
  (0x115AF, 0x115AF, 2), (0x115B0, 0x115B1, 9), (0x115B2, 0x115B5, 2), (0x115B8, 0x115BB, 9),
  (0x115BC, 0x115BD, 2), (0x115BE, 0x115BE, 9), (0x115BF, 0x115C0, 2), (0x115DC, 0x115DD, 2),
  (0x11630, 0x11632, 9), (0x11633, 0x1163A, 2), (0x1163B, 0x1163C, 9), (0x1163D, 0x1163D, 2),
  (0x1163E, 0x1163E, 9), (0x1163F, 0x11640, 2), (0x116AB, 0x116AB, 2), (0x116AC, 0x116AC, 9),
  (0x116AD, 0x116AD, 2), (0x116AE, 0x116AF, 9), (0x116B0, 0x116B7, 2), (0x1171D, 0x1171D, 2),
  (0x1171E, 0x1171E, 9), (0x1171F, 0x1171F, 2), (0x11722, 0x11725, 2), (0x11726, 0x11726, 9),
  (0x11727, 0x1172B, 2), (0x1182C, 0x1182E, 9), (0x1182F, 0x11837, 2), (0x11838, 0x11838, 9),
  (0x11839, 0x1183A, 2), (0x11930, 0x11930, 2), (0x11931, 0x11935, 9), (0x11937, 0x11938, 9),
  (0x1193B, 0x1193E, 2), (0x1193F, 0x1193F, 7), (0x11940, 0x11940, 9), (0x11941, 0x11941, 7),
  (0x11942, 0x11942, 9), (0x11943, 0x11943, 2), (0x119D1, 0x119D3, 9), (0x119D4, 0x119D7, 2),
  (0x119DA, 0x119DB, 2), (0x119DC, 0x119DF, 9), (0x119E0, 0x119E0, 2), (0x119E4, 0x119E4, 9),
  (0x11A01, 0x11A0A, 2), (0x11A33, 0x11A38, 2), (0x11A39, 0x11A39, 9), (0x11A3A, 0x11A3A, 7),
  (0x11A3B, 0x11A3E, 2), (0x11A47, 0x11A47, 2), (0x11A51, 0x11A56, 2), (0x11A57, 0x11A58, 9),
  (0x11A59, 0x11A5B, 2), (0x11A84, 0x11A89, 7), (0x11A8A, 0x11A96, 2), (0x11A97, 0x11A97, 9),
  (0x11A98, 0x11A99, 2), (0x11C2F, 0x11C2F, 9), (0x11C30, 0x11C36, 2), (0x11C38, 0x11C3D, 2),
  (0x11C3E, 0x11C3E, 9), (0x11C3F, 0x11C3F, 2), (0x11C92, 0x11CA7, 2), (0x11CA9, 0x11CA9, 9),
  (0x11CAA, 0x11CB0, 2), (0x11CB1, 0x11CB1, 9), (0x11CB2, 0x11CB3, 2), (0x11CB4, 0x11CB4, 9),
  (0x11CB5, 0x11CB6, 2), (0x11D31, 0x11D36, 2), (0x11D3A, 0x11D3A, 2), (0x11D3C, 0x11D3D, 2),
  (0x11D3F, 0x11D45, 2), (0x11D46, 0x11D46, 7), (0x11D47, 0x11D47, 2), (0x11D8A, 0x11D8E, 9),
  (0x11D90, 0x11D91, 2), (0x11D93, 0x11D94, 9), (0x11D95, 0x11D95, 2), (0x11D96, 0x11D96, 9),
  (0x11D97, 0x11D97, 2), (0x11EF3, 0x11EF4, 2), (0x11EF5, 0x11EF6, 9), (0x11F00, 0x11F01, 2),
  (0x11F02, 0x11F02, 7), (0x11F03, 0x11F03, 9), (0x11F34, 0x11F35, 9), (0x11F36, 0x11F3A, 2),
  (0x11F3E, 0x11F3F, 9), (0x11F40, 0x11F42, 2), (0x11F5A, 0x11F5A, 2), (0x13430, 0x1343F, 1),
  (0x13440, 0x13440, 2), (0x13447, 0x13455, 2), (0x1611E, 0x16129, 2), (0x1612A, 0x1612C, 9),
  (0x1612D, 0x1612F, 2), (0x16AF0, 0x16AF4, 2), (0x16B30, 0x16B36, 2), (0x16F4F, 0x16F4F, 2),
  (0x16F51, 0x16F87, 9), (0x16F8F, 0x16F92, 2), (0x16FE4, 0x16FE4, 2), (0x16FF0, 0x16FF1, 2),
  (0x1BC9D, 0x1BC9E, 2), (0x1BCA0, 0x1BCA3, 1), (0x1CF00, 0x1CF2D, 2), (0x1CF30, 0x1CF46, 2),
  (0x1D165, 0x1D169, 2), (0x1D16D, 0x1D172, 2), (0x1D173, 0x1D17A, 1), (0x1D17B, 0x1D182, 2),
  (0x1D185, 0x1D18B, 2), (0x1D1AA, 0x1D1AD, 2), (0x1D242, 0x1D244, 2), (0x1DA00, 0x1DA36, 2),
  (0x1DA3B, 0x1DA6C, 2), (0x1DA75, 0x1DA75, 2), (0x1DA84, 0x1DA84, 2), (0x1DA9B, 0x1DA9F, 2),
  (0x1DAA1, 0x1DAAF, 2), (0x1E000, 0x1E006, 2), (0x1E008, 0x1E018, 2), (0x1E01B, 0x1E021, 2),
  (0x1E023, 0x1E024, 2), (0x1E026, 0x1E02A, 2), (0x1E08F, 0x1E08F, 2), (0x1E130, 0x1E136, 2),
  (0x1E2AE, 0x1E2AE, 2), (0x1E2EC, 0x1E2EF, 2), (0x1E4EC, 0x1E4EF, 2), (0x1E5EE, 0x1E5EF, 2),
  (0x1E8D0, 0x1E8D6, 2), (0x1E944, 0x1E94A, 2), (0x1F1E6, 0x1F1FF, 8), (0x1F3FB, 0x1F3FF, 2),
  (0xE0000, 0xE001F, 1), (0xE0020, 0xE007F, 2), (0xE0080, 0xE00FF, 1), (0xE0100, 0xE01EF, 2),
  (0xE01F0, 0xE0FFF, 1)]

def graphemeBreakRanges : TaggedRanges :=
  graphemeBreakRangesPart1 ++ graphemeBreakRangesPart2 ++ graphemeBreakRangesPart3

def graphemeBreakAliases : Array (String × Nat) := #[
  ("cr", 0), ("cn", 1), ("control", 1), ("ex", 2), ("extend", 2), ("l", 3), ("lf", 4), ("lv", 5),
  ("lvt", 6), ("pp", 7), ("prepend", 7), ("ri", 8), ("regionalindicator", 8), ("sm", 9),
  ("spacingmark", 9), ("t", 10), ("v", 11), ("zwj", 12)]

def graphemeBreakSet (i : Nat) : RangeTable :=
  TaggedRanges.select graphemeBreakRanges i

end ScimFilter.Text
