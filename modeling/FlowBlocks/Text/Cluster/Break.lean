/-!
Classes of code points that decide where one displayed character ends and the next begins. Hangul
syllables follow a rule of arithmetic and are not in the tables.
-/
namespace FlowBlocks.Cluster

inductive Break
  | other | cr | lf | control | extend | zwj | spacingMark | prepend
  | regional | hangulL | hangulV | hangulT | hangulLV | hangulLVT | pictograph
deriving DecidableEq, Repr

def breakRangesPartA : List (Nat × Nat × Break) := [
  (0x0, 0x9, .control), (0xB, 0xC, .control), (0xE, 0x1F, .control), (0x7F, 0x9F, .control),
  (0xAD, 0xAD, .control), (0x300, 0x36F, .extend), (0x483, 0x489, .extend),
  (0x591, 0x5BD, .extend), (0x5BF, 0x5BF, .extend), (0x5C1, 0x5C2, .extend),
  (0x5C4, 0x5C5, .extend), (0x5C7, 0x5C7, .extend), (0x600, 0x605, .prepend),
  (0x610, 0x61A, .extend), (0x61C, 0x61C, .control), (0x64B, 0x65F, .extend),
  (0x670, 0x670, .extend), (0x6D6, 0x6DC, .extend), (0x6DD, 0x6DD, .prepend),
  (0x6DF, 0x6E4, .extend), (0x6E7, 0x6E8, .extend), (0x6EA, 0x6ED, .extend),
  (0x70F, 0x70F, .prepend), (0x711, 0x711, .extend), (0x730, 0x74A, .extend),
  (0x7A6, 0x7B0, .extend), (0x7EB, 0x7F3, .extend), (0x7FD, 0x7FD, .extend),
  (0x816, 0x819, .extend), (0x81B, 0x823, .extend), (0x825, 0x827, .extend),
  (0x829, 0x82D, .extend), (0x859, 0x85B, .extend), (0x890, 0x891, .prepend),
  (0x898, 0x89F, .extend), (0x8CA, 0x8E1, .extend), (0x8E2, 0x8E2, .prepend),
  (0x8E3, 0x902, .extend), (0x903, 0x903, .spacingMark), (0x93A, 0x93A, .extend),
  (0x93B, 0x93B, .spacingMark), (0x93C, 0x93C, .extend), (0x93E, 0x940, .spacingMark),
  (0x941, 0x948, .extend), (0x949, 0x94C, .spacingMark), (0x94D, 0x94D, .extend),
  (0x94E, 0x94F, .spacingMark), (0x951, 0x957, .extend), (0x962, 0x963, .extend),
  (0x981, 0x981, .extend), (0x982, 0x983, .spacingMark), (0x9BC, 0x9BC, .extend),
  (0x9BE, 0x9BE, .extend), (0x9BF, 0x9C0, .spacingMark), (0x9C1, 0x9C4, .extend),
  (0x9C7, 0x9C8, .spacingMark), (0x9CB, 0x9CC, .spacingMark), (0x9CD, 0x9CD, .extend),
  (0x9D7, 0x9D7, .extend), (0x9E2, 0x9E3, .extend), (0x9FE, 0x9FE, .extend),
  (0xA01, 0xA02, .extend), (0xA03, 0xA03, .spacingMark), (0xA3C, 0xA3C, .extend),
  (0xA3E, 0xA40, .spacingMark), (0xA41, 0xA42, .extend), (0xA47, 0xA48, .extend),
  (0xA4B, 0xA4D, .extend), (0xA51, 0xA51, .extend), (0xA70, 0xA71, .extend),
  (0xA75, 0xA75, .extend), (0xA81, 0xA82, .extend), (0xA83, 0xA83, .spacingMark),
  (0xABC, 0xABC, .extend), (0xABE, 0xAC0, .spacingMark), (0xAC1, 0xAC5, .extend),
  (0xAC7, 0xAC8, .extend), (0xAC9, 0xAC9, .spacingMark), (0xACB, 0xACC, .spacingMark),
  (0xACD, 0xACD, .extend), (0xAE2, 0xAE3, .extend), (0xAFA, 0xAFF, .extend),
  (0xB01, 0xB01, .extend), (0xB02, 0xB03, .spacingMark), (0xB3C, 0xB3C, .extend),
  (0xB3E, 0xB3F, .extend), (0xB40, 0xB40, .spacingMark), (0xB41, 0xB44, .extend),
  (0xB47, 0xB48, .spacingMark), (0xB4B, 0xB4C, .spacingMark), (0xB4D, 0xB4D, .extend),
  (0xB55, 0xB57, .extend), (0xB62, 0xB63, .extend), (0xB82, 0xB82, .extend),
  (0xBBE, 0xBBE, .extend), (0xBBF, 0xBBF, .spacingMark), (0xBC0, 0xBC0, .extend),
  (0xBC1, 0xBC2, .spacingMark), (0xBC6, 0xBC8, .spacingMark), (0xBCA, 0xBCC, .spacingMark),
  (0xBCD, 0xBCD, .extend), (0xBD7, 0xBD7, .extend), (0xC00, 0xC00, .extend),
  (0xC01, 0xC03, .spacingMark), (0xC04, 0xC04, .extend), (0xC3C, 0xC3C, .extend),
  (0xC3E, 0xC40, .extend), (0xC41, 0xC44, .spacingMark), (0xC46, 0xC48, .extend),
  (0xC4A, 0xC4D, .extend), (0xC55, 0xC56, .extend), (0xC62, 0xC63, .extend),
  (0xC81, 0xC81, .extend), (0xC82, 0xC83, .spacingMark), (0xCBC, 0xCBC, .extend),
  (0xCBE, 0xCBE, .spacingMark), (0xCBF, 0xCBF, .extend), (0xCC0, 0xCC1, .spacingMark),
  (0xCC2, 0xCC2, .extend), (0xCC3, 0xCC4, .spacingMark), (0xCC6, 0xCC6, .extend),
  (0xCC7, 0xCC8, .spacingMark), (0xCCA, 0xCCB, .spacingMark), (0xCCC, 0xCCD, .extend),
  (0xCD5, 0xCD6, .extend), (0xCE2, 0xCE3, .extend), (0xCF3, 0xCF3, .spacingMark),
  (0xD00, 0xD01, .extend), (0xD02, 0xD03, .spacingMark), (0xD3B, 0xD3C, .extend),
  (0xD3E, 0xD3E, .extend), (0xD3F, 0xD40, .spacingMark), (0xD41, 0xD44, .extend),
  (0xD46, 0xD48, .spacingMark), (0xD4A, 0xD4C, .spacingMark), (0xD4D, 0xD4D, .extend),
  (0xD4E, 0xD4E, .prepend), (0xD57, 0xD57, .extend), (0xD62, 0xD63, .extend),
  (0xD81, 0xD81, .extend), (0xD82, 0xD83, .spacingMark), (0xDCA, 0xDCA, .extend),
  (0xDCF, 0xDCF, .extend), (0xDD0, 0xDD1, .spacingMark), (0xDD2, 0xDD4, .extend),
  (0xDD6, 0xDD6, .extend), (0xDD8, 0xDDE, .spacingMark), (0xDDF, 0xDDF, .extend),
  (0xDF2, 0xDF3, .spacingMark), (0xE31, 0xE31, .extend), (0xE33, 0xE33, .spacingMark),
  (0xE34, 0xE3A, .extend), (0xE47, 0xE4E, .extend), (0xEB1, 0xEB1, .extend),
  (0xEB3, 0xEB3, .spacingMark), (0xEB4, 0xEBC, .extend), (0xEC8, 0xECE, .extend),
  (0xF18, 0xF19, .extend), (0xF35, 0xF35, .extend), (0xF37, 0xF37, .extend),
  (0xF39, 0xF39, .extend), (0xF3E, 0xF3F, .spacingMark), (0xF71, 0xF7E, .extend),
  (0xF7F, 0xF7F, .spacingMark), (0xF80, 0xF84, .extend), (0xF86, 0xF87, .extend),
  (0xF8D, 0xF97, .extend), (0xF99, 0xFBC, .extend), (0xFC6, 0xFC6, .extend),
  (0x102D, 0x1030, .extend), (0x1031, 0x1031, .spacingMark), (0x1032, 0x1037, .extend),
  (0x1039, 0x103A, .extend), (0x103B, 0x103C, .spacingMark), (0x103D, 0x103E, .extend),
  (0x1056, 0x1057, .spacingMark), (0x1058, 0x1059, .extend), (0x105E, 0x1060, .extend),
  (0x1071, 0x1074, .extend), (0x1082, 0x1082, .extend), (0x1084, 0x1084, .spacingMark),
  (0x1085, 0x1086, .extend), (0x108D, 0x108D, .extend), (0x109D, 0x109D, .extend),
  (0x135D, 0x135F, .extend), (0x1712, 0x1714, .extend), (0x1715, 0x1715, .spacingMark),
  (0x1732, 0x1733, .extend), (0x1734, 0x1734, .spacingMark), (0x1752, 0x1753, .extend),
  (0x1772, 0x1773, .extend), (0x17B4, 0x17B5, .extend), (0x17B6, 0x17B6, .spacingMark),
  (0x17B7, 0x17BD, .extend), (0x17BE, 0x17C5, .spacingMark), (0x17C6, 0x17C6, .extend),
  (0x17C7, 0x17C8, .spacingMark), (0x17C9, 0x17D3, .extend), (0x17DD, 0x17DD, .extend),
  (0x180B, 0x180D, .extend), (0x180E, 0x180E, .control), (0x180F, 0x180F, .extend),
  (0x1885, 0x1886, .extend), (0x18A9, 0x18A9, .extend), (0x1920, 0x1922, .extend),
  (0x1923, 0x1926, .spacingMark), (0x1927, 0x1928, .extend), (0x1929, 0x192B, .spacingMark),
  (0x1930, 0x1931, .spacingMark), (0x1932, 0x1932, .extend), (0x1933, 0x1938, .spacingMark),
  (0x1939, 0x193B, .extend), (0x1A17, 0x1A18, .extend), (0x1A19, 0x1A1A, .spacingMark),
  (0x1A1B, 0x1A1B, .extend), (0x1A55, 0x1A55, .spacingMark), (0x1A56, 0x1A56, .extend),
  (0x1A57, 0x1A57, .spacingMark), (0x1A58, 0x1A5E, .extend), (0x1A60, 0x1A60, .extend),
  (0x1A62, 0x1A62, .extend), (0x1A65, 0x1A6C, .extend), (0x1A6D, 0x1A72, .spacingMark),
  (0x1A73, 0x1A7C, .extend), (0x1A7F, 0x1A7F, .extend), (0x1AB0, 0x1ACE, .extend),
  (0x1B00, 0x1B03, .extend), (0x1B04, 0x1B04, .spacingMark), (0x1B34, 0x1B3A, .extend),
  (0x1B3B, 0x1B3B, .spacingMark), (0x1B3C, 0x1B3C, .extend), (0x1B3D, 0x1B41, .spacingMark),
  (0x1B42, 0x1B42, .extend), (0x1B43, 0x1B44, .spacingMark), (0x1B6B, 0x1B73, .extend),
  (0x1B80, 0x1B81, .extend), (0x1B82, 0x1B82, .spacingMark), (0x1BA1, 0x1BA1, .spacingMark),
  (0x1BA2, 0x1BA5, .extend), (0x1BA6, 0x1BA7, .spacingMark)]

def breakRangesPartB : List (Nat × Nat × Break) := [
  (0x1BA8, 0x1BA9, .extend), (0x1BAA, 0x1BAA, .spacingMark), (0x1BAB, 0x1BAD, .extend),
  (0x1BE6, 0x1BE6, .extend), (0x1BE7, 0x1BE7, .spacingMark), (0x1BE8, 0x1BE9, .extend),
  (0x1BEA, 0x1BEC, .spacingMark), (0x1BED, 0x1BED, .extend), (0x1BEE, 0x1BEE, .spacingMark),
  (0x1BEF, 0x1BF1, .extend), (0x1BF2, 0x1BF3, .spacingMark), (0x1C24, 0x1C2B, .spacingMark),
  (0x1C2C, 0x1C33, .extend), (0x1C34, 0x1C35, .spacingMark), (0x1C36, 0x1C37, .extend),
  (0x1CD0, 0x1CD2, .extend), (0x1CD4, 0x1CE0, .extend), (0x1CE1, 0x1CE1, .spacingMark),
  (0x1CE2, 0x1CE8, .extend), (0x1CED, 0x1CED, .extend), (0x1CF4, 0x1CF4, .extend),
  (0x1CF7, 0x1CF7, .spacingMark), (0x1CF8, 0x1CF9, .extend), (0x1DC0, 0x1DFF, .extend),
  (0x200B, 0x200B, .control), (0x200C, 0x200C, .extend), (0x200E, 0x200F, .control),
  (0x2028, 0x202E, .control), (0x2060, 0x206F, .control), (0x20D0, 0x20F0, .extend),
  (0x2CEF, 0x2CF1, .extend), (0x2D7F, 0x2D7F, .extend), (0x2DE0, 0x2DFF, .extend),
  (0x302A, 0x302F, .extend), (0x3099, 0x309A, .extend), (0xA66F, 0xA672, .extend),
  (0xA674, 0xA67D, .extend), (0xA69E, 0xA69F, .extend), (0xA6F0, 0xA6F1, .extend),
  (0xA802, 0xA802, .extend), (0xA806, 0xA806, .extend), (0xA80B, 0xA80B, .extend),
  (0xA823, 0xA824, .spacingMark), (0xA825, 0xA826, .extend), (0xA827, 0xA827, .spacingMark),
  (0xA82C, 0xA82C, .extend), (0xA880, 0xA881, .spacingMark), (0xA8B4, 0xA8C3, .spacingMark),
  (0xA8C4, 0xA8C5, .extend), (0xA8E0, 0xA8F1, .extend), (0xA8FF, 0xA8FF, .extend),
  (0xA926, 0xA92D, .extend), (0xA947, 0xA951, .extend), (0xA952, 0xA953, .spacingMark),
  (0xA980, 0xA982, .extend), (0xA983, 0xA983, .spacingMark), (0xA9B3, 0xA9B3, .extend),
  (0xA9B4, 0xA9B5, .spacingMark), (0xA9B6, 0xA9B9, .extend), (0xA9BA, 0xA9BB, .spacingMark),
  (0xA9BC, 0xA9BD, .extend), (0xA9BE, 0xA9C0, .spacingMark), (0xA9E5, 0xA9E5, .extend),
  (0xAA29, 0xAA2E, .extend), (0xAA2F, 0xAA30, .spacingMark), (0xAA31, 0xAA32, .extend),
  (0xAA33, 0xAA34, .spacingMark), (0xAA35, 0xAA36, .extend), (0xAA43, 0xAA43, .extend),
  (0xAA4C, 0xAA4C, .extend), (0xAA4D, 0xAA4D, .spacingMark), (0xAA7C, 0xAA7C, .extend),
  (0xAAB0, 0xAAB0, .extend), (0xAAB2, 0xAAB4, .extend), (0xAAB7, 0xAAB8, .extend),
  (0xAABE, 0xAABF, .extend), (0xAAC1, 0xAAC1, .extend), (0xAAEB, 0xAAEB, .spacingMark),
  (0xAAEC, 0xAAED, .extend), (0xAAEE, 0xAAEF, .spacingMark), (0xAAF5, 0xAAF5, .spacingMark),
  (0xAAF6, 0xAAF6, .extend), (0xABE3, 0xABE4, .spacingMark), (0xABE5, 0xABE5, .extend),
  (0xABE6, 0xABE7, .spacingMark), (0xABE8, 0xABE8, .extend), (0xABE9, 0xABEA, .spacingMark),
  (0xABEC, 0xABEC, .spacingMark), (0xABED, 0xABED, .extend), (0xFB1E, 0xFB1E, .extend),
  (0xFE00, 0xFE0F, .extend), (0xFE20, 0xFE2F, .extend), (0xFEFF, 0xFEFF, .control),
  (0xFF9E, 0xFF9F, .extend), (0xFFF0, 0xFFFB, .control), (0x101FD, 0x101FD, .extend),
  (0x102E0, 0x102E0, .extend), (0x10376, 0x1037A, .extend), (0x10A01, 0x10A03, .extend),
  (0x10A05, 0x10A06, .extend), (0x10A0C, 0x10A0F, .extend), (0x10A38, 0x10A3A, .extend),
  (0x10A3F, 0x10A3F, .extend), (0x10AE5, 0x10AE6, .extend), (0x10D24, 0x10D27, .extend),
  (0x10EAB, 0x10EAC, .extend), (0x10EFD, 0x10EFF, .extend), (0x10F46, 0x10F50, .extend),
  (0x10F82, 0x10F85, .extend), (0x11000, 0x11000, .spacingMark), (0x11001, 0x11001, .extend),
  (0x11002, 0x11002, .spacingMark), (0x11038, 0x11046, .extend), (0x11070, 0x11070, .extend),
  (0x11073, 0x11074, .extend), (0x1107F, 0x11081, .extend), (0x11082, 0x11082, .spacingMark),
  (0x110B0, 0x110B2, .spacingMark), (0x110B3, 0x110B6, .extend), (0x110B7, 0x110B8, .spacingMark),
  (0x110B9, 0x110BA, .extend), (0x110BD, 0x110BD, .prepend), (0x110C2, 0x110C2, .extend),
  (0x110CD, 0x110CD, .prepend), (0x11100, 0x11102, .extend), (0x11127, 0x1112B, .extend),
  (0x1112C, 0x1112C, .spacingMark), (0x1112D, 0x11134, .extend), (0x11145, 0x11146, .spacingMark),
  (0x11173, 0x11173, .extend), (0x11180, 0x11181, .extend), (0x11182, 0x11182, .spacingMark),
  (0x111B3, 0x111B5, .spacingMark), (0x111B6, 0x111BE, .extend), (0x111BF, 0x111C0, .spacingMark),
  (0x111C2, 0x111C3, .prepend), (0x111C9, 0x111CC, .extend), (0x111CE, 0x111CE, .spacingMark),
  (0x111CF, 0x111CF, .extend), (0x1122C, 0x1122E, .spacingMark), (0x1122F, 0x11231, .extend),
  (0x11232, 0x11233, .spacingMark), (0x11234, 0x11234, .extend), (0x11235, 0x11235, .spacingMark),
  (0x11236, 0x11237, .extend), (0x1123E, 0x1123E, .extend), (0x11241, 0x11241, .extend),
  (0x112DF, 0x112DF, .extend), (0x112E0, 0x112E2, .spacingMark), (0x112E3, 0x112EA, .extend),
  (0x11300, 0x11301, .extend), (0x11302, 0x11303, .spacingMark), (0x1133B, 0x1133C, .extend),
  (0x1133E, 0x1133E, .extend), (0x1133F, 0x1133F, .spacingMark), (0x11340, 0x11340, .extend),
  (0x11341, 0x11344, .spacingMark), (0x11347, 0x11348, .spacingMark),
  (0x1134B, 0x1134D, .spacingMark), (0x11357, 0x11357, .extend), (0x11362, 0x11363, .spacingMark),
  (0x11366, 0x1136C, .extend), (0x11370, 0x11374, .extend), (0x11435, 0x11437, .spacingMark),
  (0x11438, 0x1143F, .extend), (0x11440, 0x11441, .spacingMark), (0x11442, 0x11444, .extend),
  (0x11445, 0x11445, .spacingMark), (0x11446, 0x11446, .extend), (0x1145E, 0x1145E, .extend),
  (0x114B0, 0x114B0, .extend), (0x114B1, 0x114B2, .spacingMark), (0x114B3, 0x114B8, .extend),
  (0x114B9, 0x114B9, .spacingMark), (0x114BA, 0x114BA, .extend), (0x114BB, 0x114BC, .spacingMark),
  (0x114BD, 0x114BD, .extend), (0x114BE, 0x114BE, .spacingMark), (0x114BF, 0x114C0, .extend),
  (0x114C1, 0x114C1, .spacingMark), (0x114C2, 0x114C3, .extend), (0x115AF, 0x115AF, .extend),
  (0x115B0, 0x115B1, .spacingMark), (0x115B2, 0x115B5, .extend), (0x115B8, 0x115BB, .spacingMark),
  (0x115BC, 0x115BD, .extend), (0x115BE, 0x115BE, .spacingMark), (0x115BF, 0x115C0, .extend),
  (0x115DC, 0x115DD, .extend), (0x11630, 0x11632, .spacingMark), (0x11633, 0x1163A, .extend),
  (0x1163B, 0x1163C, .spacingMark), (0x1163D, 0x1163D, .extend), (0x1163E, 0x1163E, .spacingMark),
  (0x1163F, 0x11640, .extend), (0x116AB, 0x116AB, .extend), (0x116AC, 0x116AC, .spacingMark),
  (0x116AD, 0x116AD, .extend), (0x116AE, 0x116AF, .spacingMark), (0x116B0, 0x116B5, .extend),
  (0x116B6, 0x116B6, .spacingMark), (0x116B7, 0x116B7, .extend), (0x1171D, 0x1171F, .extend),
  (0x11722, 0x11725, .extend), (0x11726, 0x11726, .spacingMark), (0x11727, 0x1172B, .extend),
  (0x1182C, 0x1182E, .spacingMark), (0x1182F, 0x11837, .extend), (0x11838, 0x11838, .spacingMark),
  (0x11839, 0x1183A, .extend), (0x11930, 0x11930, .extend), (0x11931, 0x11935, .spacingMark),
  (0x11937, 0x11938, .spacingMark), (0x1193B, 0x1193C, .extend), (0x1193D, 0x1193D, .spacingMark),
  (0x1193E, 0x1193E, .extend), (0x1193F, 0x1193F, .prepend), (0x11940, 0x11940, .spacingMark),
  (0x11941, 0x11941, .prepend), (0x11942, 0x11942, .spacingMark), (0x11943, 0x11943, .extend),
  (0x119D1, 0x119D3, .spacingMark), (0x119D4, 0x119D7, .extend), (0x119DA, 0x119DB, .extend),
  (0x119DC, 0x119DF, .spacingMark), (0x119E0, 0x119E0, .extend), (0x119E4, 0x119E4, .spacingMark),
  (0x11A01, 0x11A0A, .extend), (0x11A33, 0x11A38, .extend), (0x11A39, 0x11A39, .spacingMark),
  (0x11A3A, 0x11A3A, .prepend), (0x11A3B, 0x11A3E, .extend), (0x11A47, 0x11A47, .extend),
  (0x11A51, 0x11A56, .extend), (0x11A57, 0x11A58, .spacingMark), (0x11A59, 0x11A5B, .extend),
  (0x11A84, 0x11A89, .prepend), (0x11A8A, 0x11A96, .extend), (0x11A97, 0x11A97, .spacingMark),
  (0x11A98, 0x11A99, .extend)]

def breakRangesPartC : List (Nat × Nat × Break) := [
  (0x11C2F, 0x11C2F, .spacingMark), (0x11C30, 0x11C36, .extend), (0x11C38, 0x11C3D, .extend),
  (0x11C3E, 0x11C3E, .spacingMark), (0x11C3F, 0x11C3F, .extend), (0x11C92, 0x11CA7, .extend),
  (0x11CA9, 0x11CA9, .spacingMark), (0x11CAA, 0x11CB0, .extend), (0x11CB1, 0x11CB1, .spacingMark),
  (0x11CB2, 0x11CB3, .extend), (0x11CB4, 0x11CB4, .spacingMark), (0x11CB5, 0x11CB6, .extend),
  (0x11D31, 0x11D36, .extend), (0x11D3A, 0x11D3A, .extend), (0x11D3C, 0x11D3D, .extend),
  (0x11D3F, 0x11D45, .extend), (0x11D46, 0x11D46, .prepend), (0x11D47, 0x11D47, .extend),
  (0x11D8A, 0x11D8E, .spacingMark), (0x11D90, 0x11D91, .extend), (0x11D93, 0x11D94, .spacingMark),
  (0x11D95, 0x11D95, .extend), (0x11D96, 0x11D96, .spacingMark), (0x11D97, 0x11D97, .extend),
  (0x11EF3, 0x11EF4, .extend), (0x11EF5, 0x11EF6, .spacingMark), (0x11F00, 0x11F01, .extend),
  (0x11F02, 0x11F02, .prepend), (0x11F03, 0x11F03, .spacingMark),
  (0x11F34, 0x11F35, .spacingMark), (0x11F36, 0x11F3A, .extend), (0x11F3E, 0x11F3F, .spacingMark),
  (0x11F40, 0x11F40, .extend), (0x11F41, 0x11F41, .spacingMark), (0x11F42, 0x11F42, .extend),
  (0x13430, 0x1343F, .control), (0x13440, 0x13440, .extend), (0x13447, 0x13455, .extend),
  (0x16AF0, 0x16AF4, .extend), (0x16B30, 0x16B36, .extend), (0x16F4F, 0x16F4F, .extend),
  (0x16F51, 0x16F87, .spacingMark), (0x16F8F, 0x16F92, .extend), (0x16FE4, 0x16FE4, .extend),
  (0x16FF0, 0x16FF1, .spacingMark), (0x1BC9D, 0x1BC9E, .extend), (0x1BCA0, 0x1BCA3, .control),
  (0x1CF00, 0x1CF2D, .extend), (0x1CF30, 0x1CF46, .extend), (0x1D165, 0x1D165, .extend),
  (0x1D166, 0x1D166, .spacingMark), (0x1D167, 0x1D169, .extend), (0x1D16D, 0x1D16D, .spacingMark),
  (0x1D16E, 0x1D172, .extend), (0x1D173, 0x1D17A, .control), (0x1D17B, 0x1D182, .extend),
  (0x1D185, 0x1D18B, .extend), (0x1D1AA, 0x1D1AD, .extend), (0x1D242, 0x1D244, .extend),
  (0x1DA00, 0x1DA36, .extend), (0x1DA3B, 0x1DA6C, .extend), (0x1DA75, 0x1DA75, .extend),
  (0x1DA84, 0x1DA84, .extend), (0x1DA9B, 0x1DA9F, .extend), (0x1DAA1, 0x1DAAF, .extend),
  (0x1E000, 0x1E006, .extend), (0x1E008, 0x1E018, .extend), (0x1E01B, 0x1E021, .extend),
  (0x1E023, 0x1E024, .extend), (0x1E026, 0x1E02A, .extend), (0x1E08F, 0x1E08F, .extend),
  (0x1E130, 0x1E136, .extend), (0x1E2AE, 0x1E2AE, .extend), (0x1E2EC, 0x1E2EF, .extend),
  (0x1E4EC, 0x1E4EF, .extend), (0x1E8D0, 0x1E8D6, .extend), (0x1E944, 0x1E94A, .extend),
  (0x1F3FB, 0x1F3FF, .extend), (0xE0000, 0xE001F, .control), (0xE0020, 0xE007F, .extend),
  (0xE0080, 0xE00FF, .control), (0xE0100, 0xE01EF, .extend), (0xE01F0, 0xE0FFF, .control)]

/-- Controls, marks and prepended signs, as closed ranges in increasing order. -/
def breakRanges : List (Nat × Nat × Break) :=
  breakRangesPartA ++ breakRangesPartB ++ breakRangesPartC

/-- Code points that may start or continue a sequence joined by U+200D. -/
def pictographRanges : List (Nat × Nat) := [
  (0xA9, 0xA9), (0xAE, 0xAE), (0x203C, 0x203C), (0x2049, 0x2049), (0x2122, 0x2122),
  (0x2139, 0x2139), (0x2194, 0x2199), (0x21A9, 0x21AA), (0x231A, 0x231B), (0x2328, 0x2328),
  (0x2388, 0x2388), (0x23CF, 0x23CF), (0x23E9, 0x23F3), (0x23F8, 0x23FA), (0x24C2, 0x24C2),
  (0x25AA, 0x25AB), (0x25B6, 0x25B6), (0x25C0, 0x25C0), (0x25FB, 0x25FE), (0x2600, 0x2605),
  (0x2607, 0x2612), (0x2614, 0x2685), (0x2690, 0x2705), (0x2708, 0x2712), (0x2714, 0x2714),
  (0x2716, 0x2716), (0x271D, 0x271D), (0x2721, 0x2721), (0x2728, 0x2728), (0x2733, 0x2734),
  (0x2744, 0x2744), (0x2747, 0x2747), (0x274C, 0x274C), (0x274E, 0x274E), (0x2753, 0x2755),
  (0x2757, 0x2757), (0x2763, 0x2767), (0x2795, 0x2797), (0x27A1, 0x27A1), (0x27B0, 0x27B0),
  (0x27BF, 0x27BF), (0x2934, 0x2935), (0x2B05, 0x2B07), (0x2B1B, 0x2B1C), (0x2B50, 0x2B50),
  (0x2B55, 0x2B55), (0x3030, 0x3030), (0x303D, 0x303D), (0x3297, 0x3297), (0x3299, 0x3299),
  (0x1F000, 0x1F0FF), (0x1F10D, 0x1F10F), (0x1F12F, 0x1F12F), (0x1F16C, 0x1F171),
  (0x1F17E, 0x1F17F), (0x1F18E, 0x1F18E), (0x1F191, 0x1F19A), (0x1F1AD, 0x1F1E5),
  (0x1F201, 0x1F20F), (0x1F21A, 0x1F21A), (0x1F22F, 0x1F22F), (0x1F232, 0x1F23A),
  (0x1F23C, 0x1F23F), (0x1F249, 0x1F3FA), (0x1F400, 0x1F53D), (0x1F546, 0x1F64F),
  (0x1F680, 0x1F6FF), (0x1F774, 0x1F77F), (0x1F7D5, 0x1F7FF), (0x1F80C, 0x1F80F),
  (0x1F848, 0x1F84F), (0x1F85A, 0x1F85F), (0x1F888, 0x1F88F), (0x1F8AE, 0x1F8FF),
  (0x1F90C, 0x1F93A), (0x1F93C, 0x1F945), (0x1F947, 0x1FAFF), (0x1FC00, 0x1FFFD)]

/-- Hangul leading consonants, vowels, trailing consonants and syllables. -/
def hangul? (c : Nat) : Option Break :=
  if (0x1100 ≤ c && c ≤ 0x115F) || (0xA960 ≤ c && c ≤ 0xA97C) then some .hangulL
  else if (0x1160 ≤ c && c ≤ 0x11A7) || (0xD7B0 ≤ c && c ≤ 0xD7C6) then some .hangulV
  else if (0x11A8 ≤ c && c ≤ 0x11FF) || (0xD7CB ≤ c && c ≤ 0xD7FB) then some .hangulT
  else if 0xAC00 ≤ c && c ≤ 0xD7A3 then
    some (if (c - 0xAC00) % 28 == 0 then .hangulLV else .hangulLVT)
  else none

def breakOf (c : Nat) : Break :=
  if c == 0x0D then .cr
  else if c == 0x0A then .lf
  else if c < 0x20 then .control
  else if c < 0x7F then .other
  else if c == 0x200D then .zwj
  else if 0x1F1E6 ≤ c && c ≤ 0x1F1FF then .regional
  else match hangul? c with
    | some b => b
    | none =>
      match breakRanges.find? fun (lo, hi, _) => lo ≤ c && c ≤ hi with
      | some (_, _, b) => b
      | none =>
        if pictographRanges.any fun (lo, hi) => lo ≤ c && c ≤ hi then .pictograph else .other

end FlowBlocks.Cluster
