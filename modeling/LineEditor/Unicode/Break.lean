import LineEditor.Unicode.Ranges

/-!
# Classes of characters for cluster boundaries

Each character has one class, which merges the properties Grapheme_Cluster_Break,
Extended_Pictographic and Indic_Conjunct_Break of the Unicode text segmentation rules.

## Main definitions

* `BreakClass` and `breakClass`.
-/

namespace LineEditor.Unicode

/-- What a character contributes to the boundaries around it. -/
inductive BreakClass
  | carriageReturn
  | lineFeed
  | control
  /-- Extends the cluster before it, also inside a conjunct. -/
  | extend
  /-- Extends the cluster before it but ends a conjunct. -/
  | nonJoiner
  | joiner
  /-- A virama that links two consonants into a conjunct. -/
  | linker
  | consonant
  | regional
  | prepend
  | spacing
  | pictograph
  | hangulL
  | hangulV
  | hangulT
  | hangulLV
  | hangulLVT
  | other
  deriving DecidableEq, Repr

/-- Control and format characters beyond ASCII that stand alone. -/
def controls : Ranges where
  edges := [
    0x0080, 0x00A0, 0x00AD, 0x00AE, 0x061C, 0x061D, 0x180E, 0x180F, 0x200B, 0x200C, 0x200E,
    0x2010, 0x2028, 0x202F, 0x2060, 0x2070, 0xFEFF, 0xFF00, 0xFFF0, 0xFFFC, 0x13430, 0x13440,
    0x1BCA0, 0x1BCA4, 0x1D173, 0x1D17B, 0xE0000, 0xE0020, 0xE0080, 0xE0100, 0xE01F0, 0xE1000]

/-- Grapheme extenders other than linkers and the zero width non-joiner. -/
def extenders : Ranges where
  edges := [
    0x0300, 0x0370, 0x0483, 0x048A, 0x0591, 0x05BE, 0x05BF, 0x05C0, 0x05C1, 0x05C3, 0x05C4,
    0x05C6, 0x05C7, 0x05C8, 0x0610, 0x061B, 0x064B, 0x0660, 0x0670, 0x0671, 0x06D6, 0x06DD,
    0x06DF, 0x06E5, 0x06E7, 0x06E9, 0x06EA, 0x06EE, 0x0711, 0x0712, 0x0730, 0x074B, 0x07A6,
    0x07B1, 0x07EB, 0x07F4, 0x07FD, 0x07FE, 0x0816, 0x081A, 0x081B, 0x0824, 0x0825, 0x0828,
    0x0829, 0x082E, 0x0859, 0x085C, 0x0897, 0x08A0, 0x08CA, 0x08E2, 0x08E3, 0x0903, 0x093A,
    0x093B, 0x093C, 0x093D, 0x0941, 0x0949, 0x0951, 0x0958, 0x0962, 0x0964, 0x0981, 0x0982,
    0x09BC, 0x09BD, 0x09BE, 0x09BF, 0x09C1, 0x09C5, 0x09D7, 0x09D8, 0x09E2, 0x09E4, 0x09FE,
    0x09FF, 0x0A01, 0x0A03, 0x0A3C, 0x0A3D, 0x0A41, 0x0A43, 0x0A47, 0x0A49, 0x0A4B, 0x0A4E,
    0x0A51, 0x0A52, 0x0A70, 0x0A72, 0x0A75, 0x0A76, 0x0A81, 0x0A83, 0x0ABC, 0x0ABD, 0x0AC1,
    0x0AC6, 0x0AC7, 0x0AC9, 0x0AE2, 0x0AE4, 0x0AFA, 0x0B00, 0x0B01, 0x0B02, 0x0B3C, 0x0B3D,
    0x0B3E, 0x0B40, 0x0B41, 0x0B45, 0x0B55, 0x0B58, 0x0B62, 0x0B64, 0x0B82, 0x0B83, 0x0BBE,
    0x0BBF, 0x0BC0, 0x0BC1, 0x0BCD, 0x0BCE, 0x0BD7, 0x0BD8, 0x0C00, 0x0C01, 0x0C04, 0x0C05,
    0x0C3C, 0x0C3D, 0x0C3E, 0x0C41, 0x0C46, 0x0C49, 0x0C4A, 0x0C4D, 0x0C55, 0x0C57, 0x0C62,
    0x0C64, 0x0C81, 0x0C82, 0x0CBC, 0x0CBD, 0x0CBF, 0x0CC1, 0x0CC2, 0x0CC3, 0x0CC6, 0x0CC9,
    0x0CCA, 0x0CCE, 0x0CD5, 0x0CD7, 0x0CE2, 0x0CE4, 0x0D00, 0x0D02, 0x0D3B, 0x0D3D, 0x0D3E,
    0x0D3F, 0x0D41, 0x0D45, 0x0D57, 0x0D58, 0x0D62, 0x0D64, 0x0D81, 0x0D82, 0x0DCA, 0x0DCB,
    0x0DCF, 0x0DD0, 0x0DD2, 0x0DD5, 0x0DD6, 0x0DD7, 0x0DDF, 0x0DE0, 0x0E31, 0x0E32, 0x0E34,
    0x0E3B, 0x0E47, 0x0E4F, 0x0EB1, 0x0EB2, 0x0EB4, 0x0EBD, 0x0EC8, 0x0ECF, 0x0F18, 0x0F1A,
    0x0F35, 0x0F36, 0x0F37, 0x0F38, 0x0F39, 0x0F3A, 0x0F71, 0x0F7F, 0x0F80, 0x0F85, 0x0F86,
    0x0F88, 0x0F8D, 0x0F98, 0x0F99, 0x0FBD, 0x0FC6, 0x0FC7, 0x102D, 0x1031, 0x1032, 0x1038,
    0x103A, 0x103B, 0x103D, 0x103F, 0x1058, 0x105A, 0x105E, 0x1061, 0x1071, 0x1075, 0x1082,
    0x1083, 0x1085, 0x1087, 0x108D, 0x108E, 0x109D, 0x109E, 0x135D, 0x1360, 0x1712, 0x1716,
    0x1732, 0x1735, 0x1752, 0x1754, 0x1772, 0x1774, 0x17B4, 0x17B6, 0x17B7, 0x17BE, 0x17C6,
    0x17C7, 0x17C9, 0x17D2, 0x17D3, 0x17D4, 0x17DD, 0x17DE, 0x180B, 0x180E, 0x180F, 0x1810,
    0x1885, 0x1887, 0x18A9, 0x18AA, 0x1920, 0x1923, 0x1927, 0x1929, 0x1932, 0x1933, 0x1939,
    0x193C, 0x1A17, 0x1A19, 0x1A1B, 0x1A1C, 0x1A56, 0x1A57, 0x1A58, 0x1A5F, 0x1A62, 0x1A63,
    0x1A65, 0x1A6D, 0x1A73, 0x1A7D, 0x1A7F, 0x1A80, 0x1AB0, 0x1ADE, 0x1AE0, 0x1AEC, 0x1B00,
    0x1B04, 0x1B34, 0x1B3E, 0x1B42, 0x1B44, 0x1B6B, 0x1B74, 0x1B80, 0x1B82, 0x1BA2, 0x1BA6,
    0x1BA8, 0x1BAB, 0x1BAC, 0x1BAE, 0x1BE6, 0x1BE7, 0x1BE8, 0x1BEA, 0x1BED, 0x1BEE, 0x1BEF,
    0x1BF4, 0x1C2C, 0x1C34, 0x1C36, 0x1C38, 0x1CD0, 0x1CD3, 0x1CD4, 0x1CE1, 0x1CE2, 0x1CE9,
    0x1CED, 0x1CEE, 0x1CF4, 0x1CF5, 0x1CF8, 0x1CFA, 0x1DC0, 0x1E00, 0x20D0, 0x20F1, 0x2CEF,
    0x2CF2, 0x2D7F, 0x2D80, 0x2DE0, 0x2E00, 0x302A, 0x3030, 0x3099, 0x309B, 0xA66F, 0xA673,
    0xA674, 0xA67E, 0xA69E, 0xA6A0, 0xA6F0, 0xA6F2, 0xA802, 0xA803, 0xA806, 0xA807, 0xA80B,
    0xA80C, 0xA825, 0xA827, 0xA82C, 0xA82D, 0xA8C4, 0xA8C6, 0xA8E0, 0xA8F2, 0xA8FF, 0xA900,
    0xA926, 0xA92E, 0xA947, 0xA952, 0xA953, 0xA954, 0xA980, 0xA983, 0xA9B3, 0xA9B4, 0xA9B6,
    0xA9BA, 0xA9BC, 0xA9BE, 0xA9E5, 0xA9E6, 0xAA29, 0xAA2F, 0xAA31, 0xAA33, 0xAA35, 0xAA37,
    0xAA43, 0xAA44, 0xAA4C, 0xAA4D, 0xAA7C, 0xAA7D, 0xAAB0, 0xAAB1, 0xAAB2, 0xAAB5, 0xAAB7,
    0xAAB9, 0xAABE, 0xAAC0, 0xAAC1, 0xAAC2, 0xAAEC, 0xAAEE, 0xABE5, 0xABE6, 0xABE8, 0xABE9,
    0xABED, 0xABEE, 0xFB1E, 0xFB1F, 0xFE00, 0xFE10, 0xFE20, 0xFE30, 0xFF9E, 0xFFA0, 0x101FD,
    0x101FE, 0x102E0, 0x102E1, 0x10376, 0x1037B, 0x10A01, 0x10A04, 0x10A05, 0x10A07, 0x10A0C,
    0x10A10, 0x10A38, 0x10A3B, 0x10AE5, 0x10AE7, 0x10D24, 0x10D28, 0x10D69, 0x10D6E, 0x10EAB,
    0x10EAD, 0x10EFA, 0x10F00, 0x10F46, 0x10F51, 0x10F82, 0x10F86, 0x11001, 0x11002, 0x11038,
    0x11047, 0x11070, 0x11071, 0x11073, 0x11075, 0x1107F, 0x11082, 0x110B3, 0x110B7, 0x110B9,
    0x110BB, 0x110C2, 0x110C3, 0x11100, 0x11103, 0x11127, 0x1112C, 0x1112D, 0x11133, 0x11134,
    0x11135, 0x11173, 0x11174, 0x11180, 0x11182, 0x111B6, 0x111BF, 0x111C0, 0x111C1, 0x111C9,
    0x111CD, 0x111CF, 0x111D0, 0x1122F, 0x11232, 0x11234, 0x11238, 0x1123E, 0x1123F, 0x11241,
    0x11242, 0x112DF, 0x112E0, 0x112E3, 0x112EB, 0x11300, 0x11302, 0x1133B, 0x1133D, 0x1133E,
    0x1133F, 0x11340, 0x11341, 0x1134D, 0x1134E, 0x11357, 0x11358, 0x11366, 0x1136D, 0x11370,
    0x11375, 0x113B8, 0x113B9, 0x113BB, 0x113C1, 0x113C2, 0x113C3, 0x113C5, 0x113C6, 0x113C7,
    0x113CA, 0x113CE, 0x113D0, 0x113D2, 0x113D3, 0x113E1, 0x113E3, 0x11438, 0x11440, 0x11442,
    0x11445, 0x11446, 0x11447, 0x1145E, 0x1145F, 0x114B0, 0x114B1, 0x114B3, 0x114B9, 0x114BA,
    0x114BB, 0x114BD, 0x114BE, 0x114BF, 0x114C1, 0x114C2, 0x114C4, 0x115AF, 0x115B0, 0x115B2,
    0x115B6, 0x115BC, 0x115BE, 0x115BF, 0x115C1, 0x115DC, 0x115DE, 0x11633, 0x1163B, 0x1163D,
    0x1163E, 0x1163F, 0x11641, 0x116AB, 0x116AC, 0x116AD, 0x116AE, 0x116B0, 0x116B8, 0x1171D,
    0x1171E, 0x1171F, 0x11720, 0x11722, 0x11726, 0x11727, 0x1172C, 0x1182F, 0x11838, 0x11839,
    0x1183B, 0x11930, 0x11931, 0x1193B, 0x1193E, 0x11943, 0x11944, 0x119D4, 0x119D8, 0x119DA,
    0x119DC, 0x119E0, 0x119E1, 0x11A01, 0x11A0B, 0x11A33, 0x11A39, 0x11A3B, 0x11A3F, 0x11A51,
    0x11A57, 0x11A59, 0x11A5C, 0x11A8A, 0x11A97, 0x11A98, 0x11A99, 0x11B60, 0x11B61, 0x11B62,
    0x11B65, 0x11B66, 0x11B67, 0x11C30, 0x11C37, 0x11C38, 0x11C3E, 0x11C3F, 0x11C40, 0x11C92,
    0x11CA8, 0x11CAA, 0x11CB1, 0x11CB2, 0x11CB4, 0x11CB5, 0x11CB7, 0x11D31, 0x11D37, 0x11D3A,
    0x11D3B, 0x11D3C, 0x11D3E, 0x11D3F, 0x11D46, 0x11D47, 0x11D48, 0x11D90, 0x11D92, 0x11D95,
    0x11D96, 0x11D97, 0x11D98, 0x11EF3, 0x11EF5, 0x11F00, 0x11F02, 0x11F36, 0x11F3B, 0x11F40,
    0x11F42, 0x11F5A, 0x11F5B, 0x13440, 0x13441, 0x13447, 0x13456, 0x1611E, 0x1612A, 0x1612D,
    0x16130, 0x16AF0, 0x16AF5, 0x16B30, 0x16B37, 0x16F4F, 0x16F50, 0x16F8F, 0x16F93, 0x16FE4,
    0x16FE5, 0x16FF0, 0x16FF2, 0x1BC9D, 0x1BC9F, 0x1CF00, 0x1CF2E, 0x1CF30, 0x1CF47, 0x1D165,
    0x1D16A, 0x1D16D, 0x1D173, 0x1D17B, 0x1D183, 0x1D185, 0x1D18C, 0x1D1AA, 0x1D1AE, 0x1D242,
    0x1D245, 0x1DA00, 0x1DA37, 0x1DA3B, 0x1DA6D, 0x1DA75, 0x1DA76, 0x1DA84, 0x1DA85, 0x1DA9B,
    0x1DAA0, 0x1DAA1, 0x1DAB0, 0x1E000, 0x1E007, 0x1E008, 0x1E019, 0x1E01B, 0x1E022, 0x1E023,
    0x1E025, 0x1E026, 0x1E02B, 0x1E08F, 0x1E090, 0x1E130, 0x1E137, 0x1E2AE, 0x1E2AF, 0x1E2EC,
    0x1E2F0, 0x1E4EC, 0x1E4F0, 0x1E5EE, 0x1E5F0, 0x1E6E3, 0x1E6E4, 0x1E6E6, 0x1E6E7, 0x1E6EE,
    0x1E6F0, 0x1E6F5, 0x1E6F6, 0x1E8D0, 0x1E8D7, 0x1E944, 0x1E94B, 0x1F3FB, 0x1F400, 0xE0020,
    0xE0080, 0xE0100, 0xE01F0]

/-- Viramas that form conjuncts. -/
def linkers : Ranges where
  edges := [
    0x094D, 0x094E, 0x09CD, 0x09CE, 0x0ACD, 0x0ACE, 0x0B4D, 0x0B4E, 0x0C4D, 0x0C4E, 0x0D4D,
    0x0D4E, 0x1039, 0x103A, 0x17D2, 0x17D3, 0x1A60, 0x1A61, 0x1B44, 0x1B45, 0x1BAB, 0x1BAC,
    0xA9C0, 0xA9C1, 0xAAF6, 0xAAF7, 0x10A3F, 0x10A40, 0x11133, 0x11134, 0x113D0, 0x113D1, 0x1193E,
    0x1193F, 0x11A47, 0x11A48, 0x11A99, 0x11A9A, 0x11F42, 0x11F43]

/-- Consonants that take part in conjuncts. -/
def consonants : Ranges where
  edges := [
    0x0915, 0x093A, 0x0958, 0x0960, 0x0978, 0x0980, 0x0995, 0x09A9, 0x09AA, 0x09B1, 0x09B2,
    0x09B3, 0x09B6, 0x09BA, 0x09DC, 0x09DE, 0x09DF, 0x09E0, 0x09F0, 0x09F2, 0x0A95, 0x0AA9,
    0x0AAA, 0x0AB1, 0x0AB2, 0x0AB4, 0x0AB5, 0x0ABA, 0x0AF9, 0x0AFA, 0x0B15, 0x0B29, 0x0B2A,
    0x0B31, 0x0B32, 0x0B34, 0x0B35, 0x0B3A, 0x0B5C, 0x0B5E, 0x0B5F, 0x0B60, 0x0B71, 0x0B72,
    0x0C15, 0x0C29, 0x0C2A, 0x0C3A, 0x0C58, 0x0C5B, 0x0D15, 0x0D3B, 0x1000, 0x102B, 0x103F,
    0x1040, 0x1050, 0x1056, 0x105A, 0x105E, 0x1061, 0x1062, 0x1065, 0x1067, 0x106E, 0x1071,
    0x1075, 0x1082, 0x108E, 0x108F, 0x1780, 0x17B4, 0x1A20, 0x1A55, 0x1B0B, 0x1B0D, 0x1B13,
    0x1B34, 0x1B45, 0x1B4D, 0x1B83, 0x1BA1, 0x1BAE, 0x1BB0, 0x1BBB, 0x1BBE, 0xA989, 0xA98C,
    0xA98F, 0xA9B3, 0xA9E0, 0xA9E5, 0xA9E7, 0xA9F0, 0xA9FA, 0xA9FF, 0xAA60, 0xAA70, 0xAA71,
    0xAA74, 0xAA7A, 0xAA7B, 0xAA7E, 0xAA80, 0xAAE0, 0xAAEB, 0xABC0, 0xABDB, 0x10A00, 0x10A01,
    0x10A10, 0x10A14, 0x10A15, 0x10A18, 0x10A19, 0x10A36, 0x11103, 0x11127, 0x11144, 0x11145,
    0x11147, 0x11148, 0x11380, 0x1138A, 0x1138B, 0x1138C, 0x1138E, 0x1138F, 0x11390, 0x113B6,
    0x11900, 0x11907, 0x11909, 0x1190A, 0x1190C, 0x11914, 0x11915, 0x11917, 0x11918, 0x11930,
    0x11A00, 0x11A01, 0x11A0B, 0x11A33, 0x11A50, 0x11A51, 0x11A5C, 0x11A84, 0x11F04, 0x11F11,
    0x11F12, 0x11F34]

/-- Signs that belong to the cluster after them. -/
def prepended : Ranges where
  edges := [
    0x0600, 0x0606, 0x06DD, 0x06DE, 0x070F, 0x0710, 0x0890, 0x0892, 0x08E2, 0x08E3, 0x0D4E,
    0x0D4F, 0x110BD, 0x110BE, 0x110CD, 0x110CE, 0x111C2, 0x111C4, 0x113D1, 0x113D2, 0x1193F,
    0x11940, 0x11941, 0x11942, 0x11A84, 0x11A8A, 0x11D46, 0x11D47, 0x11F02, 0x11F03]

/-- Spacing marks. -/
def spacingMarks : Ranges where
  edges := [
    0x0903, 0x0904, 0x093B, 0x093C, 0x093E, 0x0941, 0x0949, 0x094D, 0x094E, 0x0950, 0x0982,
    0x0984, 0x09BF, 0x09C1, 0x09C7, 0x09C9, 0x09CB, 0x09CD, 0x0A03, 0x0A04, 0x0A3E, 0x0A41,
    0x0A83, 0x0A84, 0x0ABE, 0x0AC1, 0x0AC9, 0x0ACA, 0x0ACB, 0x0ACD, 0x0B02, 0x0B04, 0x0B40,
    0x0B41, 0x0B47, 0x0B49, 0x0B4B, 0x0B4D, 0x0BBF, 0x0BC0, 0x0BC1, 0x0BC3, 0x0BC6, 0x0BC9,
    0x0BCA, 0x0BCD, 0x0C01, 0x0C04, 0x0C41, 0x0C45, 0x0C82, 0x0C84, 0x0CBE, 0x0CBF, 0x0CC1,
    0x0CC2, 0x0CC3, 0x0CC5, 0x0CF3, 0x0CF4, 0x0D02, 0x0D04, 0x0D3F, 0x0D41, 0x0D46, 0x0D49,
    0x0D4A, 0x0D4D, 0x0D82, 0x0D84, 0x0DD0, 0x0DD2, 0x0DD8, 0x0DDF, 0x0DF2, 0x0DF4, 0x0E33,
    0x0E34, 0x0EB3, 0x0EB4, 0x0F3E, 0x0F40, 0x0F7F, 0x0F80, 0x1031, 0x1032, 0x103B, 0x103D,
    0x1056, 0x1058, 0x1084, 0x1085, 0x17B6, 0x17B7, 0x17BE, 0x17C6, 0x17C7, 0x17C9, 0x1923,
    0x1927, 0x1929, 0x192C, 0x1930, 0x1932, 0x1933, 0x1939, 0x1A19, 0x1A1B, 0x1A55, 0x1A56,
    0x1A57, 0x1A58, 0x1A6D, 0x1A73, 0x1B04, 0x1B05, 0x1B3E, 0x1B42, 0x1B82, 0x1B83, 0x1BA1,
    0x1BA2, 0x1BA6, 0x1BA8, 0x1BE7, 0x1BE8, 0x1BEA, 0x1BED, 0x1BEE, 0x1BEF, 0x1C24, 0x1C2C,
    0x1C34, 0x1C36, 0x1CE1, 0x1CE2, 0x1CF7, 0x1CF8, 0xA823, 0xA825, 0xA827, 0xA828, 0xA880,
    0xA882, 0xA8B4, 0xA8C4, 0xA952, 0xA953, 0xA983, 0xA984, 0xA9B4, 0xA9B6, 0xA9BA, 0xA9BC,
    0xA9BE, 0xA9C0, 0xAA2F, 0xAA31, 0xAA33, 0xAA35, 0xAA4D, 0xAA4E, 0xAAEB, 0xAAEC, 0xAAEE,
    0xAAF0, 0xAAF5, 0xAAF6, 0xABE3, 0xABE5, 0xABE6, 0xABE8, 0xABE9, 0xABEB, 0xABEC, 0xABED,
    0x11000, 0x11001, 0x11002, 0x11003, 0x11082, 0x11083, 0x110B0, 0x110B3, 0x110B7, 0x110B9,
    0x1112C, 0x1112D, 0x11145, 0x11147, 0x11182, 0x11183, 0x111B3, 0x111B6, 0x111BF, 0x111C0,
    0x111CE, 0x111CF, 0x1122C, 0x1122F, 0x11232, 0x11234, 0x112E0, 0x112E3, 0x11302, 0x11304,
    0x1133F, 0x11340, 0x11341, 0x11345, 0x11347, 0x11349, 0x1134B, 0x1134D, 0x11362, 0x11364,
    0x113B9, 0x113BB, 0x113CA, 0x113CB, 0x113CC, 0x113CE, 0x11435, 0x11438, 0x11440, 0x11442,
    0x11445, 0x11446, 0x114B1, 0x114B3, 0x114B9, 0x114BA, 0x114BB, 0x114BD, 0x114BE, 0x114BF,
    0x114C1, 0x114C2, 0x115B0, 0x115B2, 0x115B8, 0x115BC, 0x115BE, 0x115BF, 0x11630, 0x11633,
    0x1163B, 0x1163D, 0x1163E, 0x1163F, 0x116AC, 0x116AD, 0x116AE, 0x116B0, 0x1171E, 0x1171F,
    0x11726, 0x11727, 0x1182C, 0x1182F, 0x11838, 0x11839, 0x11931, 0x11936, 0x11937, 0x11939,
    0x11940, 0x11941, 0x11942, 0x11943, 0x119D1, 0x119D4, 0x119DC, 0x119E0, 0x119E4, 0x119E5,
    0x11A39, 0x11A3A, 0x11A57, 0x11A59, 0x11A97, 0x11A98, 0x11B61, 0x11B62, 0x11B65, 0x11B66,
    0x11B67, 0x11B68, 0x11C2F, 0x11C30, 0x11C3E, 0x11C3F, 0x11CA9, 0x11CAA, 0x11CB1, 0x11CB2,
    0x11CB4, 0x11CB5, 0x11D8A, 0x11D8F, 0x11D93, 0x11D95, 0x11D96, 0x11D97, 0x11EF5, 0x11EF7,
    0x11F03, 0x11F04, 0x11F34, 0x11F36, 0x11F3E, 0x11F40, 0x1612A, 0x1612D, 0x16F51, 0x16F88]

/-- Extended pictographs beyond ASCII. -/
def pictographs : Ranges where
  edges := [
    0x00A9, 0x00AA, 0x00AE, 0x00AF, 0x203C, 0x203D, 0x2049, 0x204A, 0x2122, 0x2123, 0x2139,
    0x213A, 0x2194, 0x219A, 0x21A9, 0x21AB, 0x231A, 0x231C, 0x2328, 0x2329, 0x23CF, 0x23D0,
    0x23E9, 0x23F4, 0x23F8, 0x23FB, 0x24C2, 0x24C3, 0x25AA, 0x25AC, 0x25B6, 0x25B7, 0x25C0,
    0x25C1, 0x25FB, 0x25FF, 0x2600, 0x2605, 0x260E, 0x260F, 0x2611, 0x2612, 0x2614, 0x2616,
    0x2618, 0x2619, 0x261D, 0x261E, 0x2620, 0x2621, 0x2622, 0x2624, 0x2626, 0x2627, 0x262A,
    0x262B, 0x262E, 0x2630, 0x2638, 0x263B, 0x2640, 0x2641, 0x2642, 0x2643, 0x2648, 0x2654,
    0x265F, 0x2661, 0x2663, 0x2664, 0x2665, 0x2667, 0x2668, 0x2669, 0x267B, 0x267C, 0x267E,
    0x2680, 0x2692, 0x2698, 0x2699, 0x269A, 0x269B, 0x269D, 0x26A0, 0x26A2, 0x26A7, 0x26A8,
    0x26AA, 0x26AC, 0x26B0, 0x26B2, 0x26BD, 0x26BF, 0x26C4, 0x26C6, 0x26C8, 0x26C9, 0x26CE,
    0x26D0, 0x26D1, 0x26D2, 0x26D3, 0x26D5, 0x26E9, 0x26EB, 0x26F0, 0x26F6, 0x26F7, 0x26FB,
    0x26FD, 0x26FE, 0x2702, 0x2703, 0x2705, 0x2706, 0x2708, 0x270E, 0x270F, 0x2710, 0x2712,
    0x2713, 0x2714, 0x2715, 0x2716, 0x2717, 0x271D, 0x271E, 0x2721, 0x2722, 0x2728, 0x2729,
    0x2733, 0x2735, 0x2744, 0x2745, 0x2747, 0x2748, 0x274C, 0x274D, 0x274E, 0x274F, 0x2753,
    0x2756, 0x2757, 0x2758, 0x2763, 0x2765, 0x2795, 0x2798, 0x27A1, 0x27A2, 0x27B0, 0x27B1,
    0x27BF, 0x27C0, 0x2934, 0x2936, 0x2B05, 0x2B08, 0x2B1B, 0x2B1D, 0x2B50, 0x2B51, 0x2B55,
    0x2B56, 0x3030, 0x3031, 0x303D, 0x303E, 0x3297, 0x3298, 0x3299, 0x329A, 0x1F004, 0x1F005,
    0x1F02C, 0x1F030, 0x1F094, 0x1F0A0, 0x1F0AF, 0x1F0B1, 0x1F0C0, 0x1F0C1, 0x1F0CF, 0x1F0D1,
    0x1F0F6, 0x1F100, 0x1F170, 0x1F172, 0x1F17E, 0x1F180, 0x1F18E, 0x1F18F, 0x1F191, 0x1F19B,
    0x1F1AE, 0x1F1E6, 0x1F201, 0x1F210, 0x1F21A, 0x1F21B, 0x1F22F, 0x1F230, 0x1F232, 0x1F23B,
    0x1F23C, 0x1F240, 0x1F249, 0x1F260, 0x1F266, 0x1F322, 0x1F324, 0x1F394, 0x1F396, 0x1F398,
    0x1F399, 0x1F39C, 0x1F39E, 0x1F3F1, 0x1F3F3, 0x1F3F6, 0x1F3F7, 0x1F3FB, 0x1F400, 0x1F4FE,
    0x1F4FF, 0x1F53E, 0x1F549, 0x1F54F, 0x1F550, 0x1F568, 0x1F56F, 0x1F571, 0x1F573, 0x1F57B,
    0x1F587, 0x1F588, 0x1F58A, 0x1F58E, 0x1F590, 0x1F591, 0x1F595, 0x1F597, 0x1F5A4, 0x1F5A6,
    0x1F5A8, 0x1F5A9, 0x1F5B1, 0x1F5B3, 0x1F5BC, 0x1F5BD, 0x1F5C2, 0x1F5C5, 0x1F5D1, 0x1F5D4,
    0x1F5DC, 0x1F5DF, 0x1F5E1, 0x1F5E2, 0x1F5E3, 0x1F5E4, 0x1F5E8, 0x1F5E9, 0x1F5EF, 0x1F5F0,
    0x1F5F3, 0x1F5F4, 0x1F5FA, 0x1F650, 0x1F680, 0x1F6C6, 0x1F6CB, 0x1F6D3, 0x1F6D5, 0x1F6E6,
    0x1F6E9, 0x1F6EA, 0x1F6EB, 0x1F6F1, 0x1F6F3, 0x1F700, 0x1F7DA, 0x1F800, 0x1F80C, 0x1F810,
    0x1F848, 0x1F850, 0x1F85A, 0x1F860, 0x1F888, 0x1F890, 0x1F8AE, 0x1F8B0, 0x1F8BC, 0x1F8C0,
    0x1F8C2, 0x1F8D0, 0x1F8D9, 0x1F900, 0x1F90C, 0x1F93B, 0x1F93C, 0x1F946, 0x1F947, 0x1FA00,
    0x1FA58, 0x1FA60, 0x1FA6E, 0x1FB00, 0x1FC00, 0x1FFFE]

/-- The syllables U+AC00..U+D7A3 are laid out with 28 trailing letters each; the first of
every 28 has none. -/
def hangulSyllableClass (n : Nat) : BreakClass :=
  if (n - 0xAC00) % 28 = 0 then .hangulLV else .hangulLVT

/-- The class of a code point beyond ASCII. -/
def breakClassBeyondAscii (c : Char) : BreakClass :=
  let n := c.toNat
  if n = 0x200C then .nonJoiner
  else if n = 0x200D then .joiner
  else if controls.contains c then .control
  else if extenders.contains c then .extend
  else if linkers.contains c then .linker
  else if consonants.contains c then .consonant
  else if 0x1F1E6 ≤ n ∧ n ≤ 0x1F1FF then .regional
  else if prepended.contains c then .prepend
  else if spacingMarks.contains c then .spacing
  else if pictographs.contains c then .pictograph
  else if (0x1100 ≤ n ∧ n ≤ 0x115F) ∨ (0xA960 ≤ n ∧ n ≤ 0xA97C) then .hangulL
  else if (0x1160 ≤ n ∧ n ≤ 0x11A7) ∨ (0xD7B0 ≤ n ∧ n ≤ 0xD7C6) ∨ n = 0x16D63 ∨
      (0x16D67 ≤ n ∧ n ≤ 0x16D6A) then .hangulV
  else if (0x11A8 ≤ n ∧ n ≤ 0x11FF) ∨ (0xD7CB ≤ n ∧ n ≤ 0xD7FB) then .hangulT
  else if 0xAC00 ≤ n ∧ n ≤ 0xD7A3 then hangulSyllableClass n
  else .other

/-- The class of a character. -/
def breakClass (c : Char) : BreakClass :=
  if c.toNat < 0x80 then
    if c = '\r' then .carriageReturn
    else if c = '\n' then .lineFeed
    else if c.toNat < 0x20 ∨ c.toNat = 0x7F then .control
    else .other
  else breakClassBeyondAscii c

theorem breakClass_of_printable {c : Char} (h : ' ' ≤ c) (h' : c ≤ '~') :
    breakClass c = .other := by
  have h₁ : 0x20 ≤ c.toNat := h
  have h₂ : c.toNat ≤ 0x7E := h'
  have hr : c ≠ '\r' := by rintro rfl; exact absurd h₁ (by decide)
  have hn : c ≠ '\n' := by rintro rfl; exact absurd h₁ (by decide)
  simp only [breakClass]
  rw [if_pos (by omega), if_neg hr, if_neg hn, if_neg (by omega)]

end LineEditor.Unicode
