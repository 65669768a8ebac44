/-
VmAssessment/Text/CombiningClass.lean

Canonical combining classes: the order in which marks stand after a base
character once a text is normalised.  Class 0 marks never move.
-/
import VmAssessment.Text.CodeSet

set_option maxRecDepth 20000

namespace VmAssessment.Text

/-- Code points at which the combining class changes. -/
def classStarts : Array Nat := #[
  0x300, 0x315, 0x316, 0x31A, 0x31B, 0x31C, 0x321, 0x323, 0x327, 0x329, 0x334, 0x339,
  0x33D, 0x340, 0x342, 0x343, 0x345, 0x346, 0x347, 0x34A, 0x34D, 0x34F, 0x350, 0x353,
  0x357, 0x358, 0x359, 0x35B, 0x35C, 0x35D, 0x35F, 0x360, 0x362, 0x363, 0x370, 0x483,
  0x488, 0x591, 0x592, 0x596, 0x597, 0x59A, 0x59B, 0x59C, 0x5A2, 0x5A8, 0x5AA, 0x5AB,
  0x5AD, 0x5AE, 0x5AF, 0x5B0, 0x5B1, 0x5B2, 0x5B3, 0x5B4, 0x5B5, 0x5B6, 0x5B7, 0x5B8,
  0x5B9, 0x5BB, 0x5BC, 0x5BD, 0x5BE, 0x5BF, 0x5C0, 0x5C1, 0x5C2, 0x5C3, 0x5C4, 0x5C5,
  0x5C6, 0x5C7, 0x5C8, 0x610, 0x618, 0x619, 0x61A, 0x61B, 0x64B, 0x64C, 0x64D, 0x64E,
  0x64F, 0x650, 0x651, 0x652, 0x653, 0x655, 0x657, 0x65C, 0x65D, 0x65F, 0x660, 0x670,
  0x671, 0x6D6, 0x6DD, 0x6DF, 0x6E3, 0x6E4, 0x6E5, 0x6E7, 0x6E9, 0x6EA, 0x6EB, 0x6ED,
  0x6EE, 0x711, 0x712, 0x730, 0x731, 0x732, 0x734, 0x735, 0x737, 0x73A, 0x73B, 0x73D,
  0x73E, 0x73F, 0x742, 0x743, 0x744, 0x745, 0x746, 0x747, 0x748, 0x749, 0x74B, 0x7EB,
  0x7F2, 0x7F3, 0x7F4, 0x7FD, 0x7FE, 0x816, 0x81A, 0x81B, 0x824, 0x825, 0x828, 0x829,
  0x82E, 0x859, 0x85C, 0x897, 0x899, 0x89C, 0x8A0, 0x8CA, 0x8CF, 0x8D4, 0x8E2, 0x8E3,
  0x8E4, 0x8E6, 0x8E7, 0x8E9, 0x8EA, 0x8ED, 0x8F0, 0x8F1, 0x8F2, 0x8F3, 0x8F6, 0x8F7,
  0x8F9, 0x8FB, 0x900, 0x93C, 0x93D, 0x94D, 0x94E, 0x951, 0x952, 0x953, 0x955, 0x9BC,
  0x9BD, 0x9CD, 0x9CE, 0x9FE, 0x9FF, 0xA3C, 0xA3D, 0xA4D, 0xA4E, 0xABC, 0xABD, 0xACD,
  0xACE, 0xB3C, 0xB3D, 0xB4D, 0xB4E, 0xBCD, 0xBCE, 0xC3C, 0xC3D, 0xC4D, 0xC4E, 0xC55,
  0xC56, 0xC57, 0xCBC, 0xCBD, 0xCCD, 0xCCE, 0xD3B, 0xD3D, 0xD4D, 0xD4E, 0xDCA, 0xDCB,
  0xE38, 0xE3A, 0xE3B, 0xE48, 0xE4C, 0xEB8, 0xEBA, 0xEBB, 0xEC8, 0xECC, 0xF18, 0xF1A,
  0xF35, 0xF36, 0xF37, 0xF38, 0xF39, 0xF3A, 0xF71, 0xF72, 0xF73, 0xF74, 0xF75, 0xF7A,
  0xF7E, 0xF80, 0xF81, 0xF82, 0xF84, 0xF85, 0xF86, 0xF88, 0xFC6, 0xFC7, 0x1037, 0x1038,
  0x1039, 0x103B, 0x108D, 0x108E, 0x135D, 0x1360, 0x1714, 0x1716, 0x1734, 0x1735, 0x17D2, 0x17D3,
  0x17DD, 0x17DE, 0x18A9, 0x18AA, 0x1939, 0x193A, 0x193B, 0x193C, 0x1A17, 0x1A18, 0x1A19, 0x1A60,
  0x1A61, 0x1A75, 0x1A7D, 0x1A7F, 0x1A80, 0x1AB0, 0x1AB5, 0x1ABB, 0x1ABD, 0x1ABE, 0x1ABF, 0x1AC1,
  0x1AC3, 0x1AC5, 0x1ACA, 0x1ACB, 0x1ADD, 0x1ADE, 0x1AE0, 0x1AE6, 0x1AE7, 0x1AEB, 0x1AEC, 0x1B34,
  0x1B35, 0x1B44, 0x1B45, 0x1B6B, 0x1B6C, 0x1B6D, 0x1B74, 0x1BAA, 0x1BAC, 0x1BE6, 0x1BE7, 0x1BF2,
  0x1BF4, 0x1C37, 0x1C38, 0x1CD0, 0x1CD3, 0x1CD4, 0x1CD5, 0x1CDA, 0x1CDC, 0x1CE0, 0x1CE1, 0x1CE2,
  0x1CE9, 0x1CED, 0x1CEE, 0x1CF4, 0x1CF5, 0x1CF8, 0x1CFA, 0x1DC0, 0x1DC2, 0x1DC3, 0x1DCA, 0x1DCB,
  0x1DCD, 0x1DCE, 0x1DCF, 0x1DD0, 0x1DD1, 0x1DF6, 0x1DF7, 0x1DF9, 0x1DFA, 0x1DFB, 0x1DFC, 0x1DFD,
  0x1DFE, 0x1DFF, 0x1E00, 0x20D0, 0x20D2, 0x20D4, 0x20D8, 0x20DB, 0x20DD, 0x20E1, 0x20E2, 0x20E5,
  0x20E7, 0x20E8, 0x20E9, 0x20EA, 0x20EC, 0x20F0, 0x20F1, 0x2CEF, 0x2CF2, 0x2D7F, 0x2D80, 0x2DE0,
  0x2E00, 0x302A, 0x302B, 0x302C, 0x302D, 0x302E, 0x3030, 0x3099, 0x309B, 0xA66F, 0xA670, 0xA674,
  0xA67E, 0xA69E, 0xA6A0, 0xA6F0, 0xA6F2, 0xA806, 0xA807, 0xA82C, 0xA82D, 0xA8C4, 0xA8C5, 0xA8E0,
  0xA8F2, 0xA92B, 0xA92E, 0xA953, 0xA954, 0xA9B3, 0xA9B4, 0xA9C0, 0xA9C1, 0xAAB0, 0xAAB1, 0xAAB2,
  0xAAB4, 0xAAB5, 0xAAB7, 0xAAB9, 0xAABE, 0xAAC0, 0xAAC1, 0xAAC2, 0xAAF6, 0xAAF7, 0xABED, 0xABEE,
  0xFB1E, 0xFB1F, 0xFE20, 0xFE27, 0xFE2E, 0xFE30, 0x101FD, 0x101FE, 0x102E0, 0x102E1, 0x10376, 0x1037B,
  0x10A0D, 0x10A0E, 0x10A0F, 0x10A10, 0x10A38, 0x10A39, 0x10A3A, 0x10A3B, 0x10A3F, 0x10A40, 0x10AE5, 0x10AE6,
  0x10AE7, 0x10D24, 0x10D28, 0x10D69, 0x10D6E, 0x10EAB, 0x10EAD, 0x10EFA, 0x10EFC, 0x10EFD, 0x10F00, 0x10F46,
  0x10F48, 0x10F4B, 0x10F4C, 0x10F4D, 0x10F51, 0x10F82, 0x10F83, 0x10F84, 0x10F85, 0x10F86, 0x11046, 0x11047,
  0x11070, 0x11071, 0x1107F, 0x11080, 0x110B9, 0x110BA, 0x110BB, 0x11100, 0x11103, 0x11133, 0x11135, 0x11173,
  0x11174, 0x111C0, 0x111C1, 0x111CA, 0x111CB, 0x11235, 0x11236, 0x11237, 0x112E9, 0x112EA, 0x112EB, 0x1133B,
  0x1133D, 0x1134D, 0x1134E, 0x11366, 0x1136D, 0x11370, 0x11375, 0x113CE, 0x113D1, 0x11442, 0x11443, 0x11446,
  0x11447, 0x1145E, 0x1145F, 0x114C2, 0x114C3, 0x114C4, 0x115BF, 0x115C0, 0x115C1, 0x1163F, 0x11640, 0x116B6,
  0x116B7, 0x116B8, 0x1172B, 0x1172C, 0x11839, 0x1183A, 0x1183B, 0x1193D, 0x1193F, 0x11943, 0x11944, 0x119E0,
  0x119E1, 0x11A34, 0x11A35, 0x11A47, 0x11A48, 0x11A99, 0x11A9A, 0x11C3F, 0x11C40, 0x11D42, 0x11D43, 0x11D44,
  0x11D46, 0x11D97, 0x11D98, 0x11F41, 0x11F43, 0x1612F, 0x16130, 0x16AF0, 0x16AF5, 0x16B30, 0x16B37, 0x16FF0,
  0x16FF2, 0x1BC9E, 0x1BC9F, 0x1D165, 0x1D167, 0x1D16A, 0x1D16D, 0x1D16E, 0x1D173, 0x1D17B, 0x1D183, 0x1D185,
  0x1D18A, 0x1D18C, 0x1D1AA, 0x1D1AE, 0x1D242, 0x1D245, 0x1E000, 0x1E007, 0x1E008, 0x1E019, 0x1E01B, 0x1E022,
  0x1E023, 0x1E025, 0x1E026, 0x1E02B, 0x1E08F, 0x1E090, 0x1E130, 0x1E137, 0x1E2AE, 0x1E2AF, 0x1E2EC, 0x1E2F0,
  0x1E4EC, 0x1E4EE, 0x1E4EF, 0x1E4F0, 0x1E5EE, 0x1E5EF, 0x1E5F0, 0x1E6E3, 0x1E6E4, 0x1E6E6, 0x1E6E7, 0x1E6EE,
  0x1E6F0, 0x1E6F5, 0x1E6F6, 0x1E8D0, 0x1E8D7, 0x1E944, 0x1E94A, 0x1E94B]

/-- The class from each change on. -/
def classValues : Array Nat := #[
  230, 232, 220, 232, 216, 220, 202, 220, 202, 220, 1, 220, 230, 0, 230, 0, 240, 230, 220, 230,
  220, 0, 230, 220, 230, 232, 220, 230, 233, 234, 233, 234, 233, 230, 0, 230, 0, 220, 230, 220,
  230, 222, 220, 230, 220, 230, 220, 230, 222, 228, 230, 10, 11, 12, 13, 14, 15, 16, 17, 18,
  19, 20, 21, 22, 0, 23, 0, 24, 25, 0, 230, 220, 0, 18, 0, 230, 30, 31, 32, 0,
  27, 28, 29, 30, 31, 32, 33, 34, 230, 220, 230, 220, 230, 220, 0, 35, 0, 230, 0, 230,
  220, 230, 0, 230, 0, 220, 230, 220, 0, 36, 0, 230, 220, 230, 220, 230, 220, 230, 220, 230,
  220, 230, 220, 230, 220, 230, 220, 230, 220, 230, 0, 230, 220, 230, 0, 220, 0, 230, 0, 230,
  0, 230, 0, 230, 0, 220, 0, 230, 220, 230, 0, 230, 220, 230, 0, 220, 230, 220, 230, 220,
  230, 220, 27, 28, 29, 230, 220, 230, 220, 230, 0, 7, 0, 9, 0, 230, 220, 230, 0, 7,
  0, 9, 0, 230, 0, 7, 0, 9, 0, 7, 0, 9, 0, 7, 0, 9, 0, 9, 0, 7,
  0, 9, 0, 84, 91, 0, 7, 0, 9, 0, 9, 0, 9, 0, 9, 0, 103, 9, 0, 107,
  0, 118, 9, 0, 122, 0, 220, 0, 220, 0, 220, 0, 216, 0, 129, 130, 0, 132, 0, 130,
  0, 130, 0, 230, 9, 0, 230, 0, 220, 0, 7, 0, 9, 0, 220, 0, 230, 0, 9, 0,
  9, 0, 9, 0, 230, 0, 228, 0, 222, 230, 220, 0, 230, 220, 0, 9, 0, 230, 0, 220,
  0, 230, 220, 230, 220, 0, 220, 230, 220, 230, 220, 230, 220, 0, 230, 220, 230, 234, 0, 7,
  0, 9, 0, 230, 220, 230, 0, 9, 0, 7, 0, 9, 0, 7, 0, 230, 0, 1, 220, 230,
  220, 230, 0, 1, 0, 220, 0, 230, 0, 230, 0, 230, 220, 230, 220, 230, 234, 214, 220, 202,
  230, 232, 228, 220, 218, 230, 233, 220, 230, 220, 0, 230, 1, 230, 1, 230, 0, 230, 0, 1,
  230, 220, 230, 1, 220, 230, 0, 230, 0, 9, 0, 230, 0, 218, 228, 232, 222, 224, 0, 8,
  0, 230, 0, 230, 0, 230, 0, 230, 0, 9, 0, 9, 0, 9, 0, 230, 0, 220, 0, 9,
  0, 7, 0, 9, 0, 230, 0, 230, 220, 0, 230, 0, 230, 0, 230, 0, 9, 0, 9, 0,
  26, 0, 230, 220, 230, 0, 220, 0, 220, 0, 230, 0, 220, 0, 230, 0, 230, 1, 220, 0,
  9, 0, 230, 220, 0, 230, 0, 230, 0, 230, 0, 220, 0, 220, 0, 220, 230, 220, 230, 220,
  0, 230, 220, 230, 220, 0, 9, 0, 9, 0, 9, 0, 9, 7, 0, 230, 0, 9, 0, 7,
  0, 9, 0, 7, 0, 9, 7, 0, 7, 9, 0, 7, 0, 9, 0, 230, 0, 230, 0, 9,
  0, 9, 0, 7, 0, 230, 0, 9, 7, 0, 9, 7, 0, 9, 0, 9, 7, 0, 9, 0,
  9, 7, 0, 9, 0, 7, 0, 9, 0, 9, 0, 9, 0, 9, 0, 9, 0, 7, 0, 9,
  0, 9, 0, 9, 0, 9, 0, 1, 0, 230, 0, 6, 0, 1, 0, 216, 1, 0, 226, 216,
  0, 220, 0, 230, 220, 0, 230, 0, 230, 0, 230, 0, 230, 0, 230, 0, 230, 0, 230, 0,
  230, 0, 230, 0, 230, 0, 230, 0, 232, 220, 230, 0, 230, 220, 0, 230, 0, 230, 0, 230,
  0, 230, 0, 220, 0, 230, 7, 0]

/-- The canonical combining class of a character. -/
def combiningClass (c : Char) : Nat :=
  match rank classStarts c.toNat with
  | 0 => 0
  | k + 1 => classValues.getD k 0

end VmAssessment.Text
