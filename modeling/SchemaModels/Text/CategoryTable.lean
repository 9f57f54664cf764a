/-
The general category of every character, as lists of code point runs.

Each list below holds one category.  A run is either a span of neighbouring code points or every
second code point of a span: scripts with case often alternate capital and small letters, and the
second form keeps their lists short.  The categories partition the assigned characters, so
membership in one list decides a character's category and a character in none is unassigned.
-/
import SchemaModels.Text.CodeRun

namespace SchemaModels
namespace Text

def uppercaseLetters : List CodeRun :=
  [.span 0x41 0x5A, .span 0xC0 0xD6, .span 0xD8 0xDE, .alternate 0x100 0x136,
    .alternate 0x139 0x147, .alternate 0x14A 0x176, .span 0x178 0x179, .span 0x17B 0x17B,
    .span 0x17D 0x17D, .span 0x181 0x182, .span 0x184 0x184, .span 0x186 0x187,
    .span 0x189 0x18B, .span 0x18E 0x191, .span 0x193 0x194, .span 0x196 0x198,
    .span 0x19C 0x19D, .span 0x19F 0x1A0, .span 0x1A2 0x1A2, .span 0x1A4 0x1A4,
    .span 0x1A6 0x1A7, .span 0x1A9 0x1A9, .span 0x1AC 0x1AC, .span 0x1AE 0x1AF,
    .span 0x1B1 0x1B3, .span 0x1B5 0x1B5, .span 0x1B7 0x1B8, .span 0x1BC 0x1BC,
    .span 0x1C4 0x1C4, .span 0x1C7 0x1C7, .span 0x1CA 0x1CA, .alternate 0x1CD 0x1DB,
    .alternate 0x1DE 0x1EE, .span 0x1F1 0x1F1, .span 0x1F4 0x1F4, .span 0x1F6 0x1F8,
    .alternate 0x1FA 0x232, .span 0x23A 0x23B, .span 0x23D 0x23E, .span 0x241 0x241,
    .span 0x243 0x246, .alternate 0x248 0x24E, .span 0x370 0x370, .span 0x372 0x372,
    .span 0x376 0x376, .span 0x37F 0x37F, .span 0x386 0x386, .span 0x388 0x38A,
    .span 0x38C 0x38C, .span 0x38E 0x38F, .span 0x391 0x3A1, .span 0x3A3 0x3AB,
    .span 0x3CF 0x3CF, .span 0x3D2 0x3D4, .alternate 0x3D8 0x3EE, .span 0x3F4 0x3F4,
    .span 0x3F7 0x3F7, .span 0x3F9 0x3FA, .span 0x3FD 0x42F, .alternate 0x460 0x480,
    .alternate 0x48A 0x4BE, .span 0x4C0 0x4C1, .alternate 0x4C3 0x4CD, .alternate 0x4D0 0x52E,
    .span 0x531 0x556, .span 0x10A0 0x10C5, .span 0x10C7 0x10C7, .span 0x10CD 0x10CD,
    .span 0x13A0 0x13F5, .span 0x1C89 0x1C89, .span 0x1C90 0x1CBA, .span 0x1CBD 0x1CBF,
    .alternate 0x1E00 0x1E94, .alternate 0x1E9E 0x1EFE, .span 0x1F08 0x1F0F,
    .span 0x1F18 0x1F1D, .span 0x1F28 0x1F2F, .span 0x1F38 0x1F3F, .span 0x1F48 0x1F4D,
    .alternate 0x1F59 0x1F5F, .span 0x1F68 0x1F6F, .span 0x1FB8 0x1FBB, .span 0x1FC8 0x1FCB,
    .span 0x1FD8 0x1FDB, .span 0x1FE8 0x1FEC, .span 0x1FF8 0x1FFB, .span 0x2102 0x2102,
    .span 0x2107 0x2107, .span 0x210B 0x210D, .span 0x2110 0x2112, .span 0x2115 0x2115,
    .span 0x2119 0x211D, .alternate 0x2124 0x2128, .span 0x212A 0x212D, .span 0x2130 0x2133,
    .span 0x213E 0x213F, .span 0x2145 0x2145, .span 0x2183 0x2183, .span 0x2C00 0x2C2F,
    .span 0x2C60 0x2C60, .span 0x2C62 0x2C64, .alternate 0x2C67 0x2C6B, .span 0x2C6D 0x2C70,
    .span 0x2C72 0x2C72, .span 0x2C75 0x2C75, .span 0x2C7E 0x2C80, .alternate 0x2C82 0x2CE2,
    .span 0x2CEB 0x2CEB, .span 0x2CED 0x2CED, .span 0x2CF2 0x2CF2, .alternate 0xA640 0xA66C,
    .alternate 0xA680 0xA69A, .alternate 0xA722 0xA72E, .alternate 0xA732 0xA76E,
    .span 0xA779 0xA779, .span 0xA77B 0xA77B, .span 0xA77D 0xA77E, .alternate 0xA780 0xA786,
    .span 0xA78B 0xA78B, .span 0xA78D 0xA78D, .span 0xA790 0xA790, .span 0xA792 0xA792,
    .alternate 0xA796 0xA7A8, .span 0xA7AA 0xA7AE, .span 0xA7B0 0xA7B4,
    .alternate 0xA7B6 0xA7C2, .span 0xA7C4 0xA7C7, .span 0xA7C9 0xA7C9, .span 0xA7CB 0xA7CC,
    .alternate 0xA7CE 0xA7DC, .span 0xA7F5 0xA7F5, .span 0xFF21 0xFF3A, .span 0x10400 0x10427,
    .span 0x104B0 0x104D3, .span 0x10570 0x1057A, .span 0x1057C 0x1058A, .span 0x1058C 0x10592,
    .span 0x10594 0x10595, .span 0x10C80 0x10CB2, .span 0x10D50 0x10D65, .span 0x118A0 0x118BF,
    .span 0x16E40 0x16E5F, .span 0x16EA0 0x16EB8, .span 0x1D400 0x1D419, .span 0x1D434 0x1D44D,
    .span 0x1D468 0x1D481, .span 0x1D49C 0x1D49C, .span 0x1D49E 0x1D49F, .span 0x1D4A2 0x1D4A2,
    .span 0x1D4A5 0x1D4A6, .span 0x1D4A9 0x1D4AC, .span 0x1D4AE 0x1D4B5, .span 0x1D4D0 0x1D4E9,
    .span 0x1D504 0x1D505, .span 0x1D507 0x1D50A, .span 0x1D50D 0x1D514, .span 0x1D516 0x1D51C,
    .span 0x1D538 0x1D539, .span 0x1D53B 0x1D53E, .span 0x1D540 0x1D544, .span 0x1D546 0x1D546,
    .span 0x1D54A 0x1D550, .span 0x1D56C 0x1D585, .span 0x1D5A0 0x1D5B9, .span 0x1D5D4 0x1D5ED,
    .span 0x1D608 0x1D621, .span 0x1D63C 0x1D655, .span 0x1D670 0x1D689, .span 0x1D6A8 0x1D6C0,
    .span 0x1D6E2 0x1D6FA, .span 0x1D71C 0x1D734, .span 0x1D756 0x1D76E, .span 0x1D790 0x1D7A8,
    .span 0x1D7CA 0x1D7CA, .span 0x1E900 0x1E921]

def lowercaseLetters : List CodeRun :=
  [.span 0x61 0x7A, .span 0xB5 0xB5, .span 0xDF 0xF6, .span 0xF8 0xFF, .alternate 0x101 0x135,
    .span 0x137 0x138, .alternate 0x13A 0x146, .span 0x148 0x149, .alternate 0x14B 0x177,
    .span 0x17A 0x17A, .span 0x17C 0x17C, .span 0x17E 0x180, .span 0x183 0x183,
    .span 0x185 0x185, .span 0x188 0x188, .span 0x18C 0x18D, .span 0x192 0x192,
    .span 0x195 0x195, .span 0x199 0x19B, .span 0x19E 0x19E, .alternate 0x1A1 0x1A5,
    .span 0x1A8 0x1A8, .span 0x1AA 0x1AB, .span 0x1AD 0x1AD, .span 0x1B0 0x1B0,
    .span 0x1B4 0x1B4, .span 0x1B6 0x1B6, .span 0x1B9 0x1BA, .span 0x1BD 0x1BF,
    .span 0x1C6 0x1C6, .span 0x1C9 0x1C9, .alternate 0x1CC 0x1DA, .span 0x1DC 0x1DD,
    .alternate 0x1DF 0x1ED, .span 0x1EF 0x1F0, .span 0x1F3 0x1F3, .span 0x1F5 0x1F5,
    .alternate 0x1F9 0x231, .span 0x233 0x239, .span 0x23C 0x23C, .span 0x23F 0x240,
    .span 0x242 0x242, .alternate 0x247 0x24D, .span 0x24F 0x293, .span 0x296 0x2AF,
    .span 0x371 0x371, .span 0x373 0x373, .span 0x377 0x377, .span 0x37B 0x37D,
    .span 0x390 0x390, .span 0x3AC 0x3CE, .span 0x3D0 0x3D1, .span 0x3D5 0x3D7,
    .alternate 0x3D9 0x3ED, .span 0x3EF 0x3F3, .span 0x3F5 0x3F5, .span 0x3F8 0x3F8,
    .span 0x3FB 0x3FC, .span 0x430 0x45F, .alternate 0x461 0x481, .alternate 0x48B 0x4BF,
    .alternate 0x4C2 0x4CC, .span 0x4CE 0x4CF, .alternate 0x4D1 0x52F, .span 0x560 0x588,
    .span 0x10D0 0x10FA, .span 0x10FD 0x10FF, .span 0x13F8 0x13FD, .span 0x1C80 0x1C88,
    .span 0x1C8A 0x1C8A, .span 0x1D00 0x1D2B, .span 0x1D6B 0x1D77, .span 0x1D79 0x1D9A,
    .alternate 0x1E01 0x1E93, .span 0x1E95 0x1E9D, .alternate 0x1E9F 0x1EFD,
    .span 0x1EFF 0x1F07, .span 0x1F10 0x1F15, .span 0x1F20 0x1F27, .span 0x1F30 0x1F37,
    .span 0x1F40 0x1F45, .span 0x1F50 0x1F57, .span 0x1F60 0x1F67, .span 0x1F70 0x1F7D,
    .span 0x1F80 0x1F87, .span 0x1F90 0x1F97, .span 0x1FA0 0x1FA7, .span 0x1FB0 0x1FB4,
    .span 0x1FB6 0x1FB7, .span 0x1FBE 0x1FBE, .span 0x1FC2 0x1FC4, .span 0x1FC6 0x1FC7,
    .span 0x1FD0 0x1FD3, .span 0x1FD6 0x1FD7, .span 0x1FE0 0x1FE7, .span 0x1FF2 0x1FF4,
    .span 0x1FF6 0x1FF7, .span 0x210A 0x210A, .span 0x210E 0x210F, .span 0x2113 0x2113,
    .span 0x212F 0x212F, .span 0x2134 0x2134, .span 0x2139 0x2139, .span 0x213C 0x213D,
    .span 0x2146 0x2149, .span 0x214E 0x214E, .span 0x2184 0x2184, .span 0x2C30 0x2C5F,
    .span 0x2C61 0x2C61, .span 0x2C65 0x2C66, .alternate 0x2C68 0x2C6C, .span 0x2C71 0x2C71,
    .span 0x2C73 0x2C74, .span 0x2C76 0x2C7B, .alternate 0x2C81 0x2CE1, .span 0x2CE3 0x2CE4,
    .span 0x2CEC 0x2CEC, .span 0x2CEE 0x2CEE, .span 0x2CF3 0x2CF3, .span 0x2D00 0x2D25,
    .span 0x2D27 0x2D27, .span 0x2D2D 0x2D2D, .alternate 0xA641 0xA66D,
    .alternate 0xA681 0xA69B, .alternate 0xA723 0xA72D, .span 0xA72F 0xA731,
    .alternate 0xA733 0xA76F, .span 0xA771 0xA778, .span 0xA77A 0xA77A, .span 0xA77C 0xA77C,
    .alternate 0xA77F 0xA787, .span 0xA78C 0xA78C, .span 0xA78E 0xA78E, .span 0xA791 0xA791,
    .span 0xA793 0xA795, .alternate 0xA797 0xA7A9, .span 0xA7AF 0xA7AF,
    .alternate 0xA7B5 0xA7C3, .span 0xA7C8 0xA7C8, .span 0xA7CA 0xA7CA,
    .alternate 0xA7CD 0xA7DB, .span 0xA7F6 0xA7F6, .span 0xA7FA 0xA7FA, .span 0xAB30 0xAB5A,
    .span 0xAB60 0xAB68, .span 0xAB70 0xABBF, .span 0xFB00 0xFB06, .span 0xFB13 0xFB17,
    .span 0xFF41 0xFF5A, .span 0x10428 0x1044F, .span 0x104D8 0x104FB, .span 0x10597 0x105A1,
    .span 0x105A3 0x105B1, .span 0x105B3 0x105B9, .span 0x105BB 0x105BC, .span 0x10CC0 0x10CF2,
    .span 0x10D70 0x10D85, .span 0x118C0 0x118DF, .span 0x16E60 0x16E7F, .span 0x16EBB 0x16ED3,
    .span 0x1D41A 0x1D433, .span 0x1D44E 0x1D454, .span 0x1D456 0x1D467, .span 0x1D482 0x1D49B,
    .span 0x1D4B6 0x1D4B9, .span 0x1D4BB 0x1D4BB, .span 0x1D4BD 0x1D4C3, .span 0x1D4C5 0x1D4CF,
    .span 0x1D4EA 0x1D503, .span 0x1D51E 0x1D537, .span 0x1D552 0x1D56B, .span 0x1D586 0x1D59F,
    .span 0x1D5BA 0x1D5D3, .span 0x1D5EE 0x1D607, .span 0x1D622 0x1D63B, .span 0x1D656 0x1D66F,
    .span 0x1D68A 0x1D6A5, .span 0x1D6C2 0x1D6DA, .span 0x1D6DC 0x1D6E1, .span 0x1D6FC 0x1D714,
    .span 0x1D716 0x1D71B, .span 0x1D736 0x1D74E, .span 0x1D750 0x1D755, .span 0x1D770 0x1D788,
    .span 0x1D78A 0x1D78F, .span 0x1D7AA 0x1D7C2, .span 0x1D7C4 0x1D7C9, .span 0x1D7CB 0x1D7CB,
    .span 0x1DF00 0x1DF09, .span 0x1DF0B 0x1DF1E, .span 0x1DF25 0x1DF2A, .span 0x1E922 0x1E943]

/-- Letter pairs whose first part is a capital (category Lt). -/
def titlecaseLetters : List CodeRun :=
  [.span 0x1C5 0x1C5, .span 0x1C8 0x1C8, .span 0x1CB 0x1CB, .span 0x1F2 0x1F2,
    .span 0x1F88 0x1F8F, .span 0x1F98 0x1F9F, .span 0x1FA8 0x1FAF, .span 0x1FBC 0x1FBC,
    .span 0x1FCC 0x1FCC, .span 0x1FFC 0x1FFC]

def modifierLetters : List CodeRun :=
  [.span 0x2B0 0x2C1, .span 0x2C6 0x2D1, .span 0x2E0 0x2E4, .span 0x2EC 0x2EC,
    .span 0x2EE 0x2EE, .span 0x374 0x374, .span 0x37A 0x37A, .span 0x559 0x559,
    .span 0x640 0x640, .span 0x6E5 0x6E6, .span 0x7F4 0x7F5, .span 0x7FA 0x7FA,
    .span 0x81A 0x81A, .span 0x824 0x824, .span 0x828 0x828, .span 0x8C9 0x8C9,
    .span 0x971 0x971, .span 0xE46 0xE46, .span 0xEC6 0xEC6, .span 0x10FC 0x10FC,
    .span 0x17D7 0x17D7, .span 0x1843 0x1843, .span 0x1AA7 0x1AA7, .span 0x1C78 0x1C7D,
    .span 0x1D2C 0x1D6A, .span 0x1D78 0x1D78, .span 0x1D9B 0x1DBF, .span 0x2071 0x2071,
    .span 0x207F 0x207F, .span 0x2090 0x209C, .span 0x2C7C 0x2C7D, .span 0x2D6F 0x2D6F,
    .span 0x2E2F 0x2E2F, .span 0x3005 0x3005, .span 0x3031 0x3035, .span 0x303B 0x303B,
    .span 0x309D 0x309E, .span 0x30FC 0x30FE, .span 0xA015 0xA015, .span 0xA4F8 0xA4FD,
    .span 0xA60C 0xA60C, .span 0xA67F 0xA67F, .span 0xA69C 0xA69D, .span 0xA717 0xA71F,
    .span 0xA770 0xA770, .span 0xA788 0xA788, .span 0xA7F1 0xA7F4, .span 0xA7F8 0xA7F9,
    .span 0xA9CF 0xA9CF, .span 0xA9E6 0xA9E6, .span 0xAA70 0xAA70, .span 0xAADD 0xAADD,
    .span 0xAAF3 0xAAF4, .span 0xAB5C 0xAB5F, .span 0xAB69 0xAB69, .span 0xFF70 0xFF70,
    .span 0xFF9E 0xFF9F, .span 0x10780 0x10785, .span 0x10787 0x107B0, .span 0x107B2 0x107BA,
    .span 0x10D4E 0x10D4E, .span 0x10D6F 0x10D6F, .span 0x10EC5 0x10EC5, .span 0x11DD9 0x11DD9,
    .span 0x16B40 0x16B43, .span 0x16D40 0x16D42, .span 0x16D6B 0x16D6C, .span 0x16F93 0x16F9F,
    .span 0x16FE0 0x16FE1, .span 0x16FE3 0x16FE3, .span 0x16FF2 0x16FF3, .span 0x1AFF0 0x1AFF3,
    .span 0x1AFF5 0x1AFFB, .span 0x1AFFD 0x1AFFE, .span 0x1E030 0x1E06D, .span 0x1E137 0x1E13D,
    .span 0x1E4EB 0x1E4EB, .span 0x1E6FF 0x1E6FF, .span 0x1E94B 0x1E94B]

/-- Letters of scripts without case (category Lo). -/
def otherLetters : List CodeRun :=
  [.span 0xAA 0xAA, .span 0xBA 0xBA, .span 0x1BB 0x1BB, .span 0x1C0 0x1C3, .span 0x294 0x295,
    .span 0x5D0 0x5EA, .span 0x5EF 0x5F2, .span 0x620 0x63F, .span 0x641 0x64A,
    .span 0x66E 0x66F, .span 0x671 0x6D3, .span 0x6D5 0x6D5, .span 0x6EE 0x6EF,
    .span 0x6FA 0x6FC, .span 0x6FF 0x6FF, .span 0x710 0x710, .span 0x712 0x72F,
    .span 0x74D 0x7A5, .span 0x7B1 0x7B1, .span 0x7CA 0x7EA, .span 0x800 0x815,
    .span 0x840 0x858, .span 0x860 0x86A, .span 0x870 0x887, .span 0x889 0x88F,
    .span 0x8A0 0x8C8, .span 0x904 0x939, .span 0x93D 0x93D, .span 0x950 0x950,
    .span 0x958 0x961, .span 0x972 0x980, .span 0x985 0x98C, .span 0x98F 0x990,
    .span 0x993 0x9A8, .span 0x9AA 0x9B0, .span 0x9B2 0x9B2, .span 0x9B6 0x9B9,
    .span 0x9BD 0x9BD, .span 0x9CE 0x9CE, .span 0x9DC 0x9DD, .span 0x9DF 0x9E1,
    .span 0x9F0 0x9F1, .span 0x9FC 0x9FC, .span 0xA05 0xA0A, .span 0xA0F 0xA10,
    .span 0xA13 0xA28, .span 0xA2A 0xA30, .span 0xA32 0xA33, .span 0xA35 0xA36,
    .span 0xA38 0xA39, .span 0xA59 0xA5C, .span 0xA5E 0xA5E, .span 0xA72 0xA74,
    .span 0xA85 0xA8D, .span 0xA8F 0xA91, .span 0xA93 0xAA8, .span 0xAAA 0xAB0,
    .span 0xAB2 0xAB3, .span 0xAB5 0xAB9, .span 0xABD 0xABD, .span 0xAD0 0xAD0,
    .span 0xAE0 0xAE1, .span 0xAF9 0xAF9, .span 0xB05 0xB0C, .span 0xB0F 0xB10,
    .span 0xB13 0xB28, .span 0xB2A 0xB30, .span 0xB32 0xB33, .span 0xB35 0xB39,
    .span 0xB3D 0xB3D, .span 0xB5C 0xB5D, .span 0xB5F 0xB61, .span 0xB71 0xB71,
    .span 0xB83 0xB83, .span 0xB85 0xB8A, .span 0xB8E 0xB90, .span 0xB92 0xB95,
    .span 0xB99 0xB9A, .span 0xB9C 0xB9C, .span 0xB9E 0xB9F, .span 0xBA3 0xBA4,
    .span 0xBA8 0xBAA, .span 0xBAE 0xBB9, .span 0xBD0 0xBD0, .span 0xC05 0xC0C,
    .span 0xC0E 0xC10, .span 0xC12 0xC28, .span 0xC2A 0xC39, .span 0xC3D 0xC3D,
    .span 0xC58 0xC5A, .span 0xC5C 0xC5D, .span 0xC60 0xC61, .span 0xC80 0xC80,
    .span 0xC85 0xC8C, .span 0xC8E 0xC90, .span 0xC92 0xCA8, .span 0xCAA 0xCB3,
    .span 0xCB5 0xCB9, .span 0xCBD 0xCBD, .span 0xCDC 0xCDE, .span 0xCE0 0xCE1,
    .span 0xCF1 0xCF2, .span 0xD04 0xD0C, .span 0xD0E 0xD10, .span 0xD12 0xD3A,
    .span 0xD3D 0xD3D, .span 0xD4E 0xD4E, .span 0xD54 0xD56, .span 0xD5F 0xD61,
    .span 0xD7A 0xD7F, .span 0xD85 0xD96, .span 0xD9A 0xDB1, .span 0xDB3 0xDBB,
    .span 0xDBD 0xDBD, .span 0xDC0 0xDC6, .span 0xE01 0xE30, .span 0xE32 0xE33,
    .span 0xE40 0xE45, .span 0xE81 0xE82, .span 0xE84 0xE84, .span 0xE86 0xE8A,
    .span 0xE8C 0xEA3, .span 0xEA5 0xEA5, .span 0xEA7 0xEB0, .span 0xEB2 0xEB3,
    .span 0xEBD 0xEBD, .span 0xEC0 0xEC4, .span 0xEDC 0xEDF, .span 0xF00 0xF00,
    .span 0xF40 0xF47, .span 0xF49 0xF6C, .span 0xF88 0xF8C, .span 0x1000 0x102A,
    .span 0x103F 0x103F, .span 0x1050 0x1055, .span 0x105A 0x105D, .span 0x1061 0x1061,
    .span 0x1065 0x1066, .span 0x106E 0x1070, .span 0x1075 0x1081, .span 0x108E 0x108E,
    .span 0x1100 0x1248, .span 0x124A 0x124D, .span 0x1250 0x1256, .span 0x1258 0x1258,
    .span 0x125A 0x125D, .span 0x1260 0x1288, .span 0x128A 0x128D, .span 0x1290 0x12B0,
    .span 0x12B2 0x12B5, .span 0x12B8 0x12BE, .span 0x12C0 0x12C0, .span 0x12C2 0x12C5,
    .span 0x12C8 0x12D6, .span 0x12D8 0x1310, .span 0x1312 0x1315, .span 0x1318 0x135A,
    .span 0x1380 0x138F, .span 0x1401 0x166C, .span 0x166F 0x167F, .span 0x1681 0x169A,
    .span 0x16A0 0x16EA, .span 0x16F1 0x16F8, .span 0x1700 0x1711, .span 0x171F 0x1731,
    .span 0x1740 0x1751, .span 0x1760 0x176C, .span 0x176E 0x1770, .span 0x1780 0x17B3,
    .span 0x17DC 0x17DC, .span 0x1820 0x1842, .span 0x1844 0x1878, .span 0x1880 0x1884,
    .span 0x1887 0x18A8, .span 0x18AA 0x18AA, .span 0x18B0 0x18F5, .span 0x1900 0x191E,
    .span 0x1950 0x196D, .span 0x1970 0x1974, .span 0x1980 0x19AB, .span 0x19B0 0x19C9,
    .span 0x1A00 0x1A16, .span 0x1A20 0x1A54, .span 0x1B05 0x1B33, .span 0x1B45 0x1B4C,
    .span 0x1B83 0x1BA0, .span 0x1BAE 0x1BAF, .span 0x1BBA 0x1BE5, .span 0x1C00 0x1C23,
    .span 0x1C4D 0x1C4F, .span 0x1C5A 0x1C77, .span 0x1CE9 0x1CEC, .span 0x1CEE 0x1CF3,
    .span 0x1CF5 0x1CF6, .span 0x1CFA 0x1CFA, .span 0x2135 0x2138, .span 0x2D30 0x2D67,
    .span 0x2D80 0x2D96, .span 0x2DA0 0x2DA6, .span 0x2DA8 0x2DAE, .span 0x2DB0 0x2DB6,
    .span 0x2DB8 0x2DBE, .span 0x2DC0 0x2DC6, .span 0x2DC8 0x2DCE, .span 0x2DD0 0x2DD6,
    .span 0x2DD8 0x2DDE, .span 0x3006 0x3006, .span 0x303C 0x303C, .span 0x3041 0x3096,
    .span 0x309F 0x309F, .span 0x30A1 0x30FA, .span 0x30FF 0x30FF, .span 0x3105 0x312F,
    .span 0x3131 0x318E, .span 0x31A0 0x31BF, .span 0x31F0 0x31FF, .span 0x3400 0x4DBF,
    .span 0x4E00 0xA014, .span 0xA016 0xA48C, .span 0xA4D0 0xA4F7, .span 0xA500 0xA60B,
    .span 0xA610 0xA61F, .span 0xA62A 0xA62B, .span 0xA66E 0xA66E, .span 0xA6A0 0xA6E5,
    .span 0xA78F 0xA78F, .span 0xA7F7 0xA7F7, .span 0xA7FB 0xA801, .span 0xA803 0xA805,
    .span 0xA807 0xA80A, .span 0xA80C 0xA822, .span 0xA840 0xA873, .span 0xA882 0xA8B3,
    .span 0xA8F2 0xA8F7, .span 0xA8FB 0xA8FB, .span 0xA8FD 0xA8FE, .span 0xA90A 0xA925,
    .span 0xA930 0xA946, .span 0xA960 0xA97C, .span 0xA984 0xA9B2, .span 0xA9E0 0xA9E4,
    .span 0xA9E7 0xA9EF, .span 0xA9FA 0xA9FE, .span 0xAA00 0xAA28, .span 0xAA40 0xAA42,
    .span 0xAA44 0xAA4B, .span 0xAA60 0xAA6F, .span 0xAA71 0xAA76, .span 0xAA7A 0xAA7A,
    .span 0xAA7E 0xAAAF, .span 0xAAB1 0xAAB1, .span 0xAAB5 0xAAB6, .span 0xAAB9 0xAABD,
    .span 0xAAC0 0xAAC0, .span 0xAAC2 0xAAC2, .span 0xAADB 0xAADC, .span 0xAAE0 0xAAEA,
    .span 0xAAF2 0xAAF2, .span 0xAB01 0xAB06, .span 0xAB09 0xAB0E, .span 0xAB11 0xAB16,
    .span 0xAB20 0xAB26, .span 0xAB28 0xAB2E, .span 0xABC0 0xABE2, .span 0xAC00 0xD7A3,
    .span 0xD7B0 0xD7C6, .span 0xD7CB 0xD7FB, .span 0xF900 0xFA6D, .span 0xFA70 0xFAD9,
    .span 0xFB1D 0xFB1D, .span 0xFB1F 0xFB28, .span 0xFB2A 0xFB36, .span 0xFB38 0xFB3C,
    .span 0xFB3E 0xFB3E, .span 0xFB40 0xFB41, .span 0xFB43 0xFB44, .span 0xFB46 0xFBB1,
    .span 0xFBD3 0xFD3D, .span 0xFD50 0xFD8F, .span 0xFD92 0xFDC7, .span 0xFDF0 0xFDFB,
    .span 0xFE70 0xFE74, .span 0xFE76 0xFEFC, .span 0xFF66 0xFF6F, .span 0xFF71 0xFF9D,
    .span 0xFFA0 0xFFBE, .span 0xFFC2 0xFFC7, .span 0xFFCA 0xFFCF, .span 0xFFD2 0xFFD7,
    .span 0xFFDA 0xFFDC, .span 0x10000 0x1000B, .span 0x1000D 0x10026, .span 0x10028 0x1003A,
    .span 0x1003C 0x1003D, .span 0x1003F 0x1004D, .span 0x10050 0x1005D, .span 0x10080 0x100FA,
    .span 0x10280 0x1029C, .span 0x102A0 0x102D0, .span 0x10300 0x1031F, .span 0x1032D 0x10340,
    .span 0x10342 0x10349, .span 0x10350 0x10375, .span 0x10380 0x1039D, .span 0x103A0 0x103C3,
    .span 0x103C8 0x103CF, .span 0x10450 0x1049D, .span 0x10500 0x10527, .span 0x10530 0x10563,
    .span 0x105C0 0x105F3, .span 0x10600 0x10736, .span 0x10740 0x10755, .span 0x10760 0x10767,
    .span 0x10800 0x10805, .span 0x10808 0x10808, .span 0x1080A 0x10835, .span 0x10837 0x10838,
    .span 0x1083C 0x1083C, .span 0x1083F 0x10855, .span 0x10860 0x10876, .span 0x10880 0x1089E,
    .span 0x108E0 0x108F2, .span 0x108F4 0x108F5, .span 0x10900 0x10915, .span 0x10920 0x10939,
    .span 0x10940 0x10959, .span 0x10980 0x109B7, .span 0x109BE 0x109BF, .span 0x10A00 0x10A00,
    .span 0x10A10 0x10A13, .span 0x10A15 0x10A17, .span 0x10A19 0x10A35, .span 0x10A60 0x10A7C,
    .span 0x10A80 0x10A9C, .span 0x10AC0 0x10AC7, .span 0x10AC9 0x10AE4, .span 0x10B00 0x10B35,
    .span 0x10B40 0x10B55, .span 0x10B60 0x10B72, .span 0x10B80 0x10B91, .span 0x10C00 0x10C48,
    .span 0x10D00 0x10D23, .span 0x10D4A 0x10D4D, .span 0x10D4F 0x10D4F, .span 0x10E80 0x10EA9,
    .span 0x10EB0 0x10EB1, .span 0x10EC2 0x10EC4, .span 0x10EC6 0x10EC7, .span 0x10F00 0x10F1C,
    .span 0x10F27 0x10F27, .span 0x10F30 0x10F45, .span 0x10F70 0x10F81, .span 0x10FB0 0x10FC4,
    .span 0x10FE0 0x10FF6, .span 0x11003 0x11037, .span 0x11071 0x11072, .span 0x11075 0x11075,
    .span 0x11083 0x110AF, .span 0x110D0 0x110E8, .span 0x11103 0x11126, .span 0x11144 0x11144,
    .span 0x11147 0x11147, .span 0x11150 0x11172, .span 0x11176 0x11176, .span 0x11183 0x111B2,
    .span 0x111C1 0x111C4, .span 0x111DA 0x111DA, .span 0x111DC 0x111DC, .span 0x11200 0x11211,
    .span 0x11213 0x1122B, .span 0x1123F 0x11240, .span 0x11280 0x11286, .span 0x11288 0x11288,
    .span 0x1128A 0x1128D, .span 0x1128F 0x1129D, .span 0x1129F 0x112A8, .span 0x112B0 0x112DE,
    .span 0x11305 0x1130C, .span 0x1130F 0x11310, .span 0x11313 0x11328, .span 0x1132A 0x11330,
    .span 0x11332 0x11333, .span 0x11335 0x11339, .span 0x1133D 0x1133D, .span 0x11350 0x11350,
    .span 0x1135D 0x11361, .span 0x11380 0x11389, .span 0x1138B 0x1138B, .span 0x1138E 0x1138E,
    .span 0x11390 0x113B5, .span 0x113B7 0x113B7, .span 0x113D1 0x113D1, .span 0x113D3 0x113D3,
    .span 0x11400 0x11434, .span 0x11447 0x1144A, .span 0x1145F 0x11461, .span 0x11480 0x114AF,
    .span 0x114C4 0x114C5, .span 0x114C7 0x114C7, .span 0x11580 0x115AE, .span 0x115D8 0x115DB,
    .span 0x11600 0x1162F, .span 0x11644 0x11644, .span 0x11680 0x116AA, .span 0x116B8 0x116B8,
    .span 0x11700 0x1171A, .span 0x11740 0x11746, .span 0x11800 0x1182B, .span 0x118FF 0x11906,
    .span 0x11909 0x11909, .span 0x1190C 0x11913, .span 0x11915 0x11916, .span 0x11918 0x1192F,
    .span 0x1193F 0x1193F, .span 0x11941 0x11941, .span 0x119A0 0x119A7, .span 0x119AA 0x119D0,
    .span 0x119E1 0x119E1, .span 0x119E3 0x119E3, .span 0x11A00 0x11A00, .span 0x11A0B 0x11A32,
    .span 0x11A3A 0x11A3A, .span 0x11A50 0x11A50, .span 0x11A5C 0x11A89, .span 0x11A9D 0x11A9D,
    .span 0x11AB0 0x11AF8, .span 0x11BC0 0x11BE0, .span 0x11C00 0x11C08, .span 0x11C0A 0x11C2E,
    .span 0x11C40 0x11C40, .span 0x11C72 0x11C8F, .span 0x11D00 0x11D06, .span 0x11D08 0x11D09,
    .span 0x11D0B 0x11D30, .span 0x11D46 0x11D46, .span 0x11D60 0x11D65, .span 0x11D67 0x11D68,
    .span 0x11D6A 0x11D89, .span 0x11D98 0x11D98, .span 0x11DB0 0x11DD8, .span 0x11DDA 0x11DDB,
    .span 0x11EE0 0x11EF2, .span 0x11F02 0x11F02, .span 0x11F04 0x11F10, .span 0x11F12 0x11F33,
    .span 0x11FB0 0x11FB0, .span 0x12000 0x12399, .span 0x12480 0x12543, .span 0x12F90 0x12FF0,
    .span 0x13000 0x1342F, .span 0x13441 0x13446, .span 0x13460 0x143FA, .span 0x14400 0x14646,
    .span 0x16100 0x1611D, .span 0x16800 0x16A38, .span 0x16A40 0x16A5E, .span 0x16A70 0x16ABE,
    .span 0x16AD0 0x16AED, .span 0x16B00 0x16B2F, .span 0x16B63 0x16B77, .span 0x16B7D 0x16B8F,
    .span 0x16D43 0x16D6A, .span 0x16F00 0x16F4A, .span 0x16F50 0x16F50, .span 0x17000 0x18CD5,
    .span 0x18CFF 0x18D1E, .span 0x18D80 0x18DF2, .span 0x1B000 0x1B122, .span 0x1B132 0x1B132,
    .span 0x1B150 0x1B152, .span 0x1B155 0x1B155, .span 0x1B164 0x1B167, .span 0x1B170 0x1B2FB,
    .span 0x1BC00 0x1BC6A, .span 0x1BC70 0x1BC7C, .span 0x1BC80 0x1BC88, .span 0x1BC90 0x1BC99,
    .span 0x1DF0A 0x1DF0A, .span 0x1E100 0x1E12C, .span 0x1E14E 0x1E14E, .span 0x1E290 0x1E2AD,
    .span 0x1E2C0 0x1E2EB, .span 0x1E4D0 0x1E4EA, .span 0x1E5D0 0x1E5ED, .span 0x1E5F0 0x1E5F0,
    .span 0x1E6C0 0x1E6DE, .span 0x1E6E0 0x1E6E2, .span 0x1E6E4 0x1E6E5, .span 0x1E6E7 0x1E6ED,
    .span 0x1E6F0 0x1E6F4, .span 0x1E6FE 0x1E6FE, .span 0x1E7E0 0x1E7E6, .span 0x1E7E8 0x1E7EB,
    .span 0x1E7ED 0x1E7EE, .span 0x1E7F0 0x1E7FE, .span 0x1E800 0x1E8C4, .span 0x1EE00 0x1EE03,
    .span 0x1EE05 0x1EE1F, .span 0x1EE21 0x1EE22, .span 0x1EE24 0x1EE24, .span 0x1EE27 0x1EE27,
    .span 0x1EE29 0x1EE32, .span 0x1EE34 0x1EE37, .span 0x1EE39 0x1EE39, .span 0x1EE3B 0x1EE3B,
    .span 0x1EE42 0x1EE42, .alternate 0x1EE47 0x1EE4B, .span 0x1EE4D 0x1EE4F,
    .span 0x1EE51 0x1EE52, .span 0x1EE54 0x1EE54, .alternate 0x1EE57 0x1EE5F,
    .span 0x1EE61 0x1EE62, .span 0x1EE64 0x1EE64, .span 0x1EE67 0x1EE6A, .span 0x1EE6C 0x1EE72,
    .span 0x1EE74 0x1EE77, .span 0x1EE79 0x1EE7C, .span 0x1EE7E 0x1EE7E, .span 0x1EE80 0x1EE89,
    .span 0x1EE8B 0x1EE9B, .span 0x1EEA1 0x1EEA3, .span 0x1EEA5 0x1EEA9, .span 0x1EEAB 0x1EEBB,
    .span 0x20000 0x2A6DF, .span 0x2A700 0x2B81D, .span 0x2B820 0x2CEAD, .span 0x2CEB0 0x2EBE0,
    .span 0x2EBF0 0x2EE5D, .span 0x2F800 0x2FA1D, .span 0x30000 0x3134A, .span 0x31350 0x33479]

/-- Marks that take no room of their own (category Mn). -/
def nonspacingMarks : List CodeRun :=
  [.span 0x300 0x36F, .span 0x483 0x487, .span 0x591 0x5BD, .span 0x5BF 0x5BF,
    .span 0x5C1 0x5C2, .span 0x5C4 0x5C5, .span 0x5C7 0x5C7, .span 0x610 0x61A,
    .span 0x64B 0x65F, .span 0x670 0x670, .span 0x6D6 0x6DC, .span 0x6DF 0x6E4,
    .span 0x6E7 0x6E8, .span 0x6EA 0x6ED, .span 0x711 0x711, .span 0x730 0x74A,
    .span 0x7A6 0x7B0, .span 0x7EB 0x7F3, .span 0x7FD 0x7FD, .span 0x816 0x819,
    .span 0x81B 0x823, .span 0x825 0x827, .span 0x829 0x82D, .span 0x859 0x85B,
    .span 0x897 0x89F, .span 0x8CA 0x8E1, .span 0x8E3 0x902, .span 0x93A 0x93A,
    .span 0x93C 0x93C, .span 0x941 0x948, .span 0x94D 0x94D, .span 0x951 0x957,
    .span 0x962 0x963, .span 0x981 0x981, .span 0x9BC 0x9BC, .span 0x9C1 0x9C4,
    .span 0x9CD 0x9CD, .span 0x9E2 0x9E3, .span 0x9FE 0x9FE, .span 0xA01 0xA02,
    .span 0xA3C 0xA3C, .span 0xA41 0xA42, .span 0xA47 0xA48, .span 0xA4B 0xA4D,
    .span 0xA51 0xA51, .span 0xA70 0xA71, .span 0xA75 0xA75, .span 0xA81 0xA82,
    .span 0xABC 0xABC, .span 0xAC1 0xAC5, .span 0xAC7 0xAC8, .span 0xACD 0xACD,
    .span 0xAE2 0xAE3, .span 0xAFA 0xAFF, .span 0xB01 0xB01, .span 0xB3C 0xB3C,
    .span 0xB3F 0xB3F, .span 0xB41 0xB44, .span 0xB4D 0xB4D, .span 0xB55 0xB56,
    .span 0xB62 0xB63, .span 0xB82 0xB82, .span 0xBC0 0xBC0, .span 0xBCD 0xBCD,
    .span 0xC00 0xC00, .span 0xC04 0xC04, .span 0xC3C 0xC3C, .span 0xC3E 0xC40,
    .span 0xC46 0xC48, .span 0xC4A 0xC4D, .span 0xC55 0xC56, .span 0xC62 0xC63,
    .span 0xC81 0xC81, .span 0xCBC 0xCBC, .span 0xCBF 0xCBF, .span 0xCC6 0xCC6,
    .span 0xCCC 0xCCD, .span 0xCE2 0xCE3, .span 0xD00 0xD01, .span 0xD3B 0xD3C,
    .span 0xD41 0xD44, .span 0xD4D 0xD4D, .span 0xD62 0xD63, .span 0xD81 0xD81,
    .span 0xDCA 0xDCA, .span 0xDD2 0xDD4, .span 0xDD6 0xDD6, .span 0xE31 0xE31,
    .span 0xE34 0xE3A, .span 0xE47 0xE4E, .span 0xEB1 0xEB1, .span 0xEB4 0xEBC,
    .span 0xEC8 0xECE, .span 0xF18 0xF19, .alternate 0xF35 0xF39, .span 0xF71 0xF7E,
    .span 0xF80 0xF84, .span 0xF86 0xF87, .span 0xF8D 0xF97, .span 0xF99 0xFBC,
    .span 0xFC6 0xFC6, .span 0x102D 0x1030, .span 0x1032 0x1037, .span 0x1039 0x103A,
    .span 0x103D 0x103E, .span 0x1058 0x1059, .span 0x105E 0x1060, .span 0x1071 0x1074,
    .span 0x1082 0x1082, .span 0x1085 0x1086, .span 0x108D 0x108D, .span 0x109D 0x109D,
    .span 0x135D 0x135F, .span 0x1712 0x1714, .span 0x1732 0x1733, .span 0x1752 0x1753,
    .span 0x1772 0x1773, .span 0x17B4 0x17B5, .span 0x17B7 0x17BD, .span 0x17C6 0x17C6,
    .span 0x17C9 0x17D3, .span 0x17DD 0x17DD, .span 0x180B 0x180D, .span 0x180F 0x180F,
    .span 0x1885 0x1886, .span 0x18A9 0x18A9, .span 0x1920 0x1922, .span 0x1927 0x1928,
    .span 0x1932 0x1932, .span 0x1939 0x193B, .span 0x1A17 0x1A18, .span 0x1A1B 0x1A1B,
    .span 0x1A56 0x1A56, .span 0x1A58 0x1A5E, .span 0x1A60 0x1A60, .span 0x1A62 0x1A62,
    .span 0x1A65 0x1A6C, .span 0x1A73 0x1A7C, .span 0x1A7F 0x1A7F, .span 0x1AB0 0x1ABD,
    .span 0x1ABF 0x1ADD, .span 0x1AE0 0x1AEB, .span 0x1B00 0x1B03, .span 0x1B34 0x1B34,
    .span 0x1B36 0x1B3A, .span 0x1B3C 0x1B3C, .span 0x1B42 0x1B42, .span 0x1B6B 0x1B73,
    .span 0x1B80 0x1B81, .span 0x1BA2 0x1BA5, .span 0x1BA8 0x1BA9, .span 0x1BAB 0x1BAD,
    .span 0x1BE6 0x1BE6, .span 0x1BE8 0x1BE9, .span 0x1BED 0x1BED, .span 0x1BEF 0x1BF1,
    .span 0x1C2C 0x1C33, .span 0x1C36 0x1C37, .span 0x1CD0 0x1CD2, .span 0x1CD4 0x1CE0,
    .span 0x1CE2 0x1CE8, .span 0x1CED 0x1CED, .span 0x1CF4 0x1CF4, .span 0x1CF8 0x1CF9,
    .span 0x1DC0 0x1DFF, .span 0x20D0 0x20DC, .span 0x20E1 0x20E1, .span 0x20E5 0x20F0,
    .span 0x2CEF 0x2CF1, .span 0x2D7F 0x2D7F, .span 0x2DE0 0x2DFF, .span 0x302A 0x302D,
    .span 0x3099 0x309A, .span 0xA66F 0xA66F, .span 0xA674 0xA67D, .span 0xA69E 0xA69F,
    .span 0xA6F0 0xA6F1, .span 0xA802 0xA802, .span 0xA806 0xA806, .span 0xA80B 0xA80B,
    .span 0xA825 0xA826, .span 0xA82C 0xA82C, .span 0xA8C4 0xA8C5, .span 0xA8E0 0xA8F1,
    .span 0xA8FF 0xA8FF, .span 0xA926 0xA92D, .span 0xA947 0xA951, .span 0xA980 0xA982,
    .span 0xA9B3 0xA9B3, .span 0xA9B6 0xA9B9, .span 0xA9BC 0xA9BD, .span 0xA9E5 0xA9E5,
    .span 0xAA29 0xAA2E, .span 0xAA31 0xAA32, .span 0xAA35 0xAA36, .span 0xAA43 0xAA43,
    .span 0xAA4C 0xAA4C, .span 0xAA7C 0xAA7C, .span 0xAAB0 0xAAB0, .span 0xAAB2 0xAAB4,
    .span 0xAAB7 0xAAB8, .span 0xAABE 0xAABF, .span 0xAAC1 0xAAC1, .span 0xAAEC 0xAAED,
    .span 0xAAF6 0xAAF6, .span 0xABE5 0xABE5, .span 0xABE8 0xABE8, .span 0xABED 0xABED,
    .span 0xFB1E 0xFB1E, .span 0xFE00 0xFE0F, .span 0xFE20 0xFE2F, .span 0x101FD 0x101FD,
    .span 0x102E0 0x102E0, .span 0x10376 0x1037A, .span 0x10A01 0x10A03, .span 0x10A05 0x10A06,
    .span 0x10A0C 0x10A0F, .span 0x10A38 0x10A3A, .span 0x10A3F 0x10A3F, .span 0x10AE5 0x10AE6,
    .span 0x10D24 0x10D27, .span 0x10D69 0x10D6D, .span 0x10EAB 0x10EAC, .span 0x10EFA 0x10EFF,
    .span 0x10F46 0x10F50, .span 0x10F82 0x10F85, .span 0x11001 0x11001, .span 0x11038 0x11046,
    .span 0x11070 0x11070, .span 0x11073 0x11074, .span 0x1107F 0x11081, .span 0x110B3 0x110B6,
    .span 0x110B9 0x110BA, .span 0x110C2 0x110C2, .span 0x11100 0x11102, .span 0x11127 0x1112B,
    .span 0x1112D 0x11134, .span 0x11173 0x11173, .span 0x11180 0x11181, .span 0x111B6 0x111BE,
    .span 0x111C9 0x111CC, .span 0x111CF 0x111CF, .span 0x1122F 0x11231, .span 0x11234 0x11234,
    .span 0x11236 0x11237, .span 0x1123E 0x1123E, .span 0x11241 0x11241, .span 0x112DF 0x112DF,
    .span 0x112E3 0x112EA, .span 0x11300 0x11301, .span 0x1133B 0x1133C, .span 0x11340 0x11340,
    .span 0x11366 0x1136C, .span 0x11370 0x11374, .span 0x113BB 0x113C0,
    .alternate 0x113CE 0x113D2, .span 0x113E1 0x113E2, .span 0x11438 0x1143F,
    .span 0x11442 0x11444, .span 0x11446 0x11446, .span 0x1145E 0x1145E, .span 0x114B3 0x114B8,
    .span 0x114BA 0x114BA, .span 0x114BF 0x114C0, .span 0x114C2 0x114C3, .span 0x115B2 0x115B5,
    .span 0x115BC 0x115BD, .span 0x115BF 0x115C0, .span 0x115DC 0x115DD, .span 0x11633 0x1163A,
    .span 0x1163D 0x1163D, .span 0x1163F 0x11640, .span 0x116AB 0x116AB, .span 0x116AD 0x116AD,
    .span 0x116B0 0x116B5, .span 0x116B7 0x116B7, .span 0x1171D 0x1171D, .span 0x1171F 0x1171F,
    .span 0x11722 0x11725, .span 0x11727 0x1172B, .span 0x1182F 0x11837, .span 0x11839 0x1183A,
    .span 0x1193B 0x1193C, .span 0x1193E 0x1193E, .span 0x11943 0x11943, .span 0x119D4 0x119D7,
    .span 0x119DA 0x119DB, .span 0x119E0 0x119E0, .span 0x11A01 0x11A0A, .span 0x11A33 0x11A38,
    .span 0x11A3B 0x11A3E, .span 0x11A47 0x11A47, .span 0x11A51 0x11A56, .span 0x11A59 0x11A5B,
    .span 0x11A8A 0x11A96, .span 0x11A98 0x11A99, .span 0x11B60 0x11B60, .span 0x11B62 0x11B64,
    .span 0x11B66 0x11B66, .span 0x11C30 0x11C36, .span 0x11C38 0x11C3D, .span 0x11C3F 0x11C3F,
    .span 0x11C92 0x11CA7, .span 0x11CAA 0x11CB0, .span 0x11CB2 0x11CB3, .span 0x11CB5 0x11CB6,
    .span 0x11D31 0x11D36, .span 0x11D3A 0x11D3A, .span 0x11D3C 0x11D3D, .span 0x11D3F 0x11D45,
    .span 0x11D47 0x11D47, .span 0x11D90 0x11D91, .span 0x11D95 0x11D95, .span 0x11D97 0x11D97,
    .span 0x11EF3 0x11EF4, .span 0x11F00 0x11F01, .span 0x11F36 0x11F3A, .span 0x11F40 0x11F40,
    .span 0x11F42 0x11F42, .span 0x11F5A 0x11F5A, .span 0x13440 0x13440, .span 0x13447 0x13455,
    .span 0x1611E 0x16129, .span 0x1612D 0x1612F, .span 0x16AF0 0x16AF4, .span 0x16B30 0x16B36,
    .span 0x16F4F 0x16F4F, .span 0x16F8F 0x16F92, .span 0x16FE4 0x16FE4, .span 0x1BC9D 0x1BC9E,
    .span 0x1CF00 0x1CF2D, .span 0x1CF30 0x1CF46, .span 0x1D167 0x1D169, .span 0x1D17B 0x1D182,
    .span 0x1D185 0x1D18B, .span 0x1D1AA 0x1D1AD, .span 0x1D242 0x1D244, .span 0x1DA00 0x1DA36,
    .span 0x1DA3B 0x1DA6C, .span 0x1DA75 0x1DA75, .span 0x1DA84 0x1DA84, .span 0x1DA9B 0x1DA9F,
    .span 0x1DAA1 0x1DAAF, .span 0x1E000 0x1E006, .span 0x1E008 0x1E018, .span 0x1E01B 0x1E021,
    .span 0x1E023 0x1E024, .span 0x1E026 0x1E02A, .span 0x1E08F 0x1E08F, .span 0x1E130 0x1E136,
    .span 0x1E2AE 0x1E2AE, .span 0x1E2EC 0x1E2EF, .span 0x1E4EC 0x1E4EF, .span 0x1E5EE 0x1E5EF,
    .span 0x1E6E3 0x1E6E3, .span 0x1E6E6 0x1E6E6, .span 0x1E6EE 0x1E6EF, .span 0x1E6F5 0x1E6F5,
    .span 0x1E8D0 0x1E8D6, .span 0x1E944 0x1E94A, .span 0xE0100 0xE01EF]

/-- Marks that take room (category Mc). -/
def spacingMarks : List CodeRun :=
  [.span 0x903 0x903, .span 0x93B 0x93B, .span 0x93E 0x940, .span 0x949 0x94C,
    .span 0x94E 0x94F, .span 0x982 0x983, .span 0x9BE 0x9C0, .span 0x9C7 0x9C8,
    .span 0x9CB 0x9CC, .span 0x9D7 0x9D7, .span 0xA03 0xA03, .span 0xA3E 0xA40,
    .span 0xA83 0xA83, .span 0xABE 0xAC0, .span 0xAC9 0xAC9, .span 0xACB 0xACC,
    .span 0xB02 0xB03, .span 0xB3E 0xB3E, .span 0xB40 0xB40, .span 0xB47 0xB48,
    .span 0xB4B 0xB4C, .span 0xB57 0xB57, .span 0xBBE 0xBBF, .span 0xBC1 0xBC2,
    .span 0xBC6 0xBC8, .span 0xBCA 0xBCC, .span 0xBD7 0xBD7, .span 0xC01 0xC03,
    .span 0xC41 0xC44, .span 0xC82 0xC83, .span 0xCBE 0xCBE, .span 0xCC0 0xCC4,
    .span 0xCC7 0xCC8, .span 0xCCA 0xCCB, .span 0xCD5 0xCD6, .span 0xCF3 0xCF3,
    .span 0xD02 0xD03, .span 0xD3E 0xD40, .span 0xD46 0xD48, .span 0xD4A 0xD4C,
    .span 0xD57 0xD57, .span 0xD82 0xD83, .span 0xDCF 0xDD1, .span 0xDD8 0xDDF,
    .span 0xDF2 0xDF3, .span 0xF3E 0xF3F, .span 0xF7F 0xF7F, .span 0x102B 0x102C,
    .span 0x1031 0x1031, .span 0x1038 0x1038, .span 0x103B 0x103C, .span 0x1056 0x1057,
    .span 0x1062 0x1064, .span 0x1067 0x106D, .span 0x1083 0x1084, .span 0x1087 0x108C,
    .span 0x108F 0x108F, .span 0x109A 0x109C, .span 0x1715 0x1715, .span 0x1734 0x1734,
    .span 0x17B6 0x17B6, .span 0x17BE 0x17C5, .span 0x17C7 0x17C8, .span 0x1923 0x1926,
    .span 0x1929 0x192B, .span 0x1930 0x1931, .span 0x1933 0x1938, .span 0x1A19 0x1A1A,
    .span 0x1A55 0x1A55, .span 0x1A57 0x1A57, .span 0x1A61 0x1A61, .span 0x1A63 0x1A64,
    .span 0x1A6D 0x1A72, .span 0x1B04 0x1B04, .span 0x1B35 0x1B35, .span 0x1B3B 0x1B3B,
    .span 0x1B3D 0x1B41, .span 0x1B43 0x1B44, .span 0x1B82 0x1B82, .span 0x1BA1 0x1BA1,
    .span 0x1BA6 0x1BA7, .span 0x1BAA 0x1BAA, .span 0x1BE7 0x1BE7, .span 0x1BEA 0x1BEC,
    .span 0x1BEE 0x1BEE, .span 0x1BF2 0x1BF3, .span 0x1C24 0x1C2B, .span 0x1C34 0x1C35,
    .span 0x1CE1 0x1CE1, .span 0x1CF7 0x1CF7, .span 0x302E 0x302F, .span 0xA823 0xA824,
    .span 0xA827 0xA827, .span 0xA880 0xA881, .span 0xA8B4 0xA8C3, .span 0xA952 0xA953,
    .span 0xA983 0xA983, .span 0xA9B4 0xA9B5, .span 0xA9BA 0xA9BB, .span 0xA9BE 0xA9C0,
    .span 0xAA2F 0xAA30, .span 0xAA33 0xAA34, .span 0xAA4D 0xAA4D, .span 0xAA7B 0xAA7B,
    .span 0xAA7D 0xAA7D, .span 0xAAEB 0xAAEB, .span 0xAAEE 0xAAEF, .span 0xAAF5 0xAAF5,
    .span 0xABE3 0xABE4, .span 0xABE6 0xABE7, .span 0xABE9 0xABEA, .span 0xABEC 0xABEC,
    .span 0x11000 0x11000, .span 0x11002 0x11002, .span 0x11082 0x11082, .span 0x110B0 0x110B2,
    .span 0x110B7 0x110B8, .span 0x1112C 0x1112C, .span 0x11145 0x11146, .span 0x11182 0x11182,
    .span 0x111B3 0x111B5, .span 0x111BF 0x111C0, .span 0x111CE 0x111CE, .span 0x1122C 0x1122E,
    .span 0x11232 0x11233, .span 0x11235 0x11235, .span 0x112E0 0x112E2, .span 0x11302 0x11303,
    .span 0x1133E 0x1133F, .span 0x11341 0x11344, .span 0x11347 0x11348, .span 0x1134B 0x1134D,
    .span 0x11357 0x11357, .span 0x11362 0x11363, .span 0x113B8 0x113BA, .span 0x113C2 0x113C2,
    .span 0x113C5 0x113C5, .span 0x113C7 0x113CA, .span 0x113CC 0x113CD, .span 0x113CF 0x113CF,
    .span 0x11435 0x11437, .span 0x11440 0x11441, .span 0x11445 0x11445, .span 0x114B0 0x114B2,
    .span 0x114B9 0x114B9, .span 0x114BB 0x114BE, .span 0x114C1 0x114C1, .span 0x115AF 0x115B1,
    .span 0x115B8 0x115BB, .span 0x115BE 0x115BE, .span 0x11630 0x11632, .span 0x1163B 0x1163C,
    .span 0x1163E 0x1163E, .span 0x116AC 0x116AC, .span 0x116AE 0x116AF, .span 0x116B6 0x116B6,
    .span 0x1171E 0x1171E, .span 0x11720 0x11721, .span 0x11726 0x11726, .span 0x1182C 0x1182E,
    .span 0x11838 0x11838, .span 0x11930 0x11935, .span 0x11937 0x11938, .span 0x1193D 0x1193D,
    .span 0x11940 0x11940, .span 0x11942 0x11942, .span 0x119D1 0x119D3, .span 0x119DC 0x119DF,
    .span 0x119E4 0x119E4, .span 0x11A39 0x11A39, .span 0x11A57 0x11A58, .span 0x11A97 0x11A97,
    .span 0x11B61 0x11B61, .span 0x11B65 0x11B65, .span 0x11B67 0x11B67, .span 0x11C2F 0x11C2F,
    .span 0x11C3E 0x11C3E, .span 0x11CA9 0x11CA9, .span 0x11CB1 0x11CB1, .span 0x11CB4 0x11CB4,
    .span 0x11D8A 0x11D8E, .span 0x11D93 0x11D94, .span 0x11D96 0x11D96, .span 0x11EF5 0x11EF6,
    .span 0x11F03 0x11F03, .span 0x11F34 0x11F35, .span 0x11F3E 0x11F3F, .span 0x11F41 0x11F41,
    .span 0x1612A 0x1612C, .span 0x16F51 0x16F87, .span 0x16FF0 0x16FF1, .span 0x1D165 0x1D166,
    .span 0x1D16D 0x1D172]

def enclosingMarks : List CodeRun :=
  [.span 0x488 0x489, .span 0x1ABE 0x1ABE, .span 0x20DD 0x20E0, .span 0x20E2 0x20E4,
    .span 0xA670 0xA672]

def decimalDigits : List CodeRun :=
  [.span 0x30 0x39, .span 0x660 0x669, .span 0x6F0 0x6F9, .span 0x7C0 0x7C9, .span 0x966 0x96F,
    .span 0x9E6 0x9EF, .span 0xA66 0xA6F, .span 0xAE6 0xAEF, .span 0xB66 0xB6F,
    .span 0xBE6 0xBEF, .span 0xC66 0xC6F, .span 0xCE6 0xCEF, .span 0xD66 0xD6F,
    .span 0xDE6 0xDEF, .span 0xE50 0xE59, .span 0xED0 0xED9, .span 0xF20 0xF29,
    .span 0x1040 0x1049, .span 0x1090 0x1099, .span 0x17E0 0x17E9, .span 0x1810 0x1819,
    .span 0x1946 0x194F, .span 0x19D0 0x19D9, .span 0x1A80 0x1A89, .span 0x1A90 0x1A99,
    .span 0x1B50 0x1B59, .span 0x1BB0 0x1BB9, .span 0x1C40 0x1C49, .span 0x1C50 0x1C59,
    .span 0xA620 0xA629, .span 0xA8D0 0xA8D9, .span 0xA900 0xA909, .span 0xA9D0 0xA9D9,
    .span 0xA9F0 0xA9F9, .span 0xAA50 0xAA59, .span 0xABF0 0xABF9, .span 0xFF10 0xFF19,
    .span 0x104A0 0x104A9, .span 0x10D30 0x10D39, .span 0x10D40 0x10D49, .span 0x11066 0x1106F,
    .span 0x110F0 0x110F9, .span 0x11136 0x1113F, .span 0x111D0 0x111D9, .span 0x112F0 0x112F9,
    .span 0x11450 0x11459, .span 0x114D0 0x114D9, .span 0x11650 0x11659, .span 0x116C0 0x116C9,
    .span 0x116D0 0x116E3, .span 0x11730 0x11739, .span 0x118E0 0x118E9, .span 0x11950 0x11959,
    .span 0x11BF0 0x11BF9, .span 0x11C50 0x11C59, .span 0x11D50 0x11D59, .span 0x11DA0 0x11DA9,
    .span 0x11DE0 0x11DE9, .span 0x11F50 0x11F59, .span 0x16130 0x16139, .span 0x16A60 0x16A69,
    .span 0x16AC0 0x16AC9, .span 0x16B50 0x16B59, .span 0x16D70 0x16D79, .span 0x1CCF0 0x1CCF9,
    .span 0x1D7CE 0x1D7FF, .span 0x1E140 0x1E149, .span 0x1E2F0 0x1E2F9, .span 0x1E4F0 0x1E4F9,
    .span 0x1E5F1 0x1E5FA, .span 0x1E950 0x1E959, .span 0x1FBF0 0x1FBF9]

def letterNumbers : List CodeRun :=
  [.span 0x16EE 0x16F0, .span 0x2160 0x2182, .span 0x2185 0x2188, .span 0x3007 0x3007,
    .span 0x3021 0x3029, .span 0x3038 0x303A, .span 0xA6E6 0xA6EF, .span 0x10140 0x10174,
    .span 0x10341 0x10341, .span 0x1034A 0x1034A, .span 0x103D1 0x103D5, .span 0x12400 0x1246E,
    .span 0x16FF4 0x16FF6]

def otherNumbers : List CodeRun :=
  [.span 0xB2 0xB3, .span 0xB9 0xB9, .span 0xBC 0xBE, .span 0x9F4 0x9F9, .span 0xB72 0xB77,
    .span 0xBF0 0xBF2, .span 0xC78 0xC7E, .span 0xD58 0xD5E, .span 0xD70 0xD78,
    .span 0xF2A 0xF33, .span 0x1369 0x137C, .span 0x17F0 0x17F9, .span 0x19DA 0x19DA,
    .span 0x2070 0x2070, .span 0x2074 0x2079, .span 0x2080 0x2089, .span 0x2150 0x215F,
    .span 0x2189 0x2189, .span 0x2460 0x249B, .span 0x24EA 0x24FF, .span 0x2776 0x2793,
    .span 0x2CFD 0x2CFD, .span 0x3192 0x3195, .span 0x3220 0x3229, .span 0x3248 0x324F,
    .span 0x3251 0x325F, .span 0x3280 0x3289, .span 0x32B1 0x32BF, .span 0xA830 0xA835,
    .span 0x10107 0x10133, .span 0x10175 0x10178, .span 0x1018A 0x1018B, .span 0x102E1 0x102FB,
    .span 0x10320 0x10323, .span 0x10858 0x1085F, .span 0x10879 0x1087F, .span 0x108A7 0x108AF,
    .span 0x108FB 0x108FF, .span 0x10916 0x1091B, .span 0x109BC 0x109BD, .span 0x109C0 0x109CF,
    .span 0x109D2 0x109FF, .span 0x10A40 0x10A48, .span 0x10A7D 0x10A7E, .span 0x10A9D 0x10A9F,
    .span 0x10AEB 0x10AEF, .span 0x10B58 0x10B5F, .span 0x10B78 0x10B7F, .span 0x10BA9 0x10BAF,
    .span 0x10CFA 0x10CFF, .span 0x10E60 0x10E7E, .span 0x10F1D 0x10F26, .span 0x10F51 0x10F54,
    .span 0x10FC5 0x10FCB, .span 0x11052 0x11065, .span 0x111E1 0x111F4, .span 0x1173A 0x1173B,
    .span 0x118EA 0x118F2, .span 0x11C5A 0x11C6C, .span 0x11FC0 0x11FD4, .span 0x16B5B 0x16B61,
    .span 0x16E80 0x16E96, .span 0x1D2C0 0x1D2D3, .span 0x1D2E0 0x1D2F3, .span 0x1D360 0x1D378,
    .span 0x1E8C7 0x1E8CF, .span 0x1EC71 0x1ECAB, .span 0x1ECAD 0x1ECAF, .span 0x1ECB1 0x1ECB4,
    .span 0x1ED01 0x1ED2D, .span 0x1ED2F 0x1ED3D, .span 0x1F100 0x1F10C]

def connectorPunctuation : List CodeRun :=
  [.span 0x5F 0x5F, .span 0x203F 0x2040, .span 0x2054 0x2054, .span 0xFE33 0xFE34,
    .span 0xFE4D 0xFE4F, .span 0xFF3F 0xFF3F]

def dashPunctuation : List CodeRun :=
  [.span 0x2D 0x2D, .span 0x58A 0x58A, .span 0x5BE 0x5BE, .span 0x1400 0x1400,
    .span 0x1806 0x1806, .span 0x2010 0x2015, .span 0x2E17 0x2E17, .span 0x2E1A 0x2E1A,
    .span 0x2E3A 0x2E3B, .span 0x2E40 0x2E40, .span 0x2E5D 0x2E5D, .span 0x301C 0x301C,
    .span 0x3030 0x3030, .span 0x30A0 0x30A0, .span 0xFE31 0xFE32, .span 0xFE58 0xFE58,
    .span 0xFE63 0xFE63, .span 0xFF0D 0xFF0D, .span 0x10D6E 0x10D6E, .span 0x10EAD 0x10EAD]

def openPunctuation : List CodeRun :=
  [.span 0x28 0x28, .span 0x5B 0x5B, .span 0x7B 0x7B, .span 0xF3A 0xF3A, .span 0xF3C 0xF3C,
    .span 0x169B 0x169B, .span 0x201A 0x201A, .span 0x201E 0x201E, .span 0x2045 0x2045,
    .span 0x207D 0x207D, .span 0x208D 0x208D, .span 0x2308 0x2308, .span 0x230A 0x230A,
    .span 0x2329 0x2329, .alternate 0x2768 0x2774, .span 0x27C5 0x27C5,
    .alternate 0x27E6 0x27EE, .alternate 0x2983 0x2997, .span 0x29D8 0x29D8,
    .span 0x29DA 0x29DA, .span 0x29FC 0x29FC, .alternate 0x2E22 0x2E28, .span 0x2E42 0x2E42,
    .alternate 0x2E55 0x2E5B, .alternate 0x3008 0x3010, .alternate 0x3014 0x301A,
    .span 0x301D 0x301D, .span 0xFD3F 0xFD3F, .span 0xFE17 0xFE17, .alternate 0xFE35 0xFE43,
    .span 0xFE47 0xFE47, .alternate 0xFE59 0xFE5D, .span 0xFF08 0xFF08, .span 0xFF3B 0xFF3B,
    .span 0xFF5B 0xFF5B, .span 0xFF5F 0xFF5F, .span 0xFF62 0xFF62]

def closePunctuation : List CodeRun :=
  [.span 0x29 0x29, .span 0x5D 0x5D, .span 0x7D 0x7D, .span 0xF3B 0xF3B, .span 0xF3D 0xF3D,
    .span 0x169C 0x169C, .span 0x2046 0x2046, .span 0x207E 0x207E, .span 0x208E 0x208E,
    .span 0x2309 0x2309, .span 0x230B 0x230B, .span 0x232A 0x232A, .alternate 0x2769 0x2775,
    .span 0x27C6 0x27C6, .alternate 0x27E7 0x27EF, .alternate 0x2984 0x2998,
    .span 0x29D9 0x29D9, .span 0x29DB 0x29DB, .span 0x29FD 0x29FD, .alternate 0x2E23 0x2E29,
    .alternate 0x2E56 0x2E5C, .alternate 0x3009 0x3011, .alternate 0x3015 0x301B,
    .span 0x301E 0x301F, .span 0xFD3E 0xFD3E, .span 0xFE18 0xFE18, .alternate 0xFE36 0xFE44,
    .span 0xFE48 0xFE48, .alternate 0xFE5A 0xFE5E, .span 0xFF09 0xFF09, .span 0xFF3D 0xFF3D,
    .span 0xFF5D 0xFF5D, .span 0xFF60 0xFF60, .span 0xFF63 0xFF63]

def initialQuotes : List CodeRun :=
  [.span 0xAB 0xAB, .span 0x2018 0x2018, .span 0x201B 0x201C, .span 0x201F 0x201F,
    .span 0x2039 0x2039, .span 0x2E02 0x2E02, .span 0x2E04 0x2E04, .span 0x2E09 0x2E09,
    .span 0x2E0C 0x2E0C, .span 0x2E1C 0x2E1C, .span 0x2E20 0x2E20]

def finalQuotes : List CodeRun :=
  [.span 0xBB 0xBB, .span 0x2019 0x2019, .span 0x201D 0x201D, .span 0x203A 0x203A,
    .span 0x2E03 0x2E03, .span 0x2E05 0x2E05, .span 0x2E0A 0x2E0A, .span 0x2E0D 0x2E0D,
    .span 0x2E1D 0x2E1D, .span 0x2E21 0x2E21]

def otherPunctuation : List CodeRun :=
  [.span 0x21 0x23, .span 0x25 0x27, .span 0x2A 0x2A, .span 0x2C 0x2C, .span 0x2E 0x2F,
    .span 0x3A 0x3B, .span 0x3F 0x40, .span 0x5C 0x5C, .span 0xA1 0xA1, .span 0xA7 0xA7,
    .span 0xB6 0xB7, .span 0xBF 0xBF, .span 0x37E 0x37E, .span 0x387 0x387, .span 0x55A 0x55F,
    .span 0x589 0x589, .span 0x5C0 0x5C0, .span 0x5C3 0x5C3, .span 0x5C6 0x5C6,
    .span 0x5F3 0x5F4, .span 0x609 0x60A, .span 0x60C 0x60D, .span 0x61B 0x61B,
    .span 0x61D 0x61F, .span 0x66A 0x66D, .span 0x6D4 0x6D4, .span 0x700 0x70D,
    .span 0x7F7 0x7F9, .span 0x830 0x83E, .span 0x85E 0x85E, .span 0x964 0x965,
    .span 0x970 0x970, .span 0x9FD 0x9FD, .span 0xA76 0xA76, .span 0xAF0 0xAF0,
    .span 0xC77 0xC77, .span 0xC84 0xC84, .span 0xDF4 0xDF4, .span 0xE4F 0xE4F,
    .span 0xE5A 0xE5B, .span 0xF04 0xF12, .span 0xF14 0xF14, .span 0xF85 0xF85,
    .span 0xFD0 0xFD4, .span 0xFD9 0xFDA, .span 0x104A 0x104F, .span 0x10FB 0x10FB,
    .span 0x1360 0x1368, .span 0x166E 0x166E, .span 0x16EB 0x16ED, .span 0x1735 0x1736,
    .span 0x17D4 0x17D6, .span 0x17D8 0x17DA, .span 0x1800 0x1805, .span 0x1807 0x180A,
    .span 0x1944 0x1945, .span 0x1A1E 0x1A1F, .span 0x1AA0 0x1AA6, .span 0x1AA8 0x1AAD,
    .span 0x1B4E 0x1B4F, .span 0x1B5A 0x1B60, .span 0x1B7D 0x1B7F, .span 0x1BFC 0x1BFF,
    .span 0x1C3B 0x1C3F, .span 0x1C7E 0x1C7F, .span 0x1CC0 0x1CC7, .span 0x1CD3 0x1CD3,
    .span 0x2016 0x2017, .span 0x2020 0x2027, .span 0x2030 0x2038, .span 0x203B 0x203E,
    .span 0x2041 0x2043, .span 0x2047 0x2051, .span 0x2053 0x2053, .span 0x2055 0x205E,
    .span 0x2CF9 0x2CFC, .span 0x2CFE 0x2CFF, .span 0x2D70 0x2D70, .span 0x2E00 0x2E01,
    .span 0x2E06 0x2E08, .span 0x2E0B 0x2E0B, .span 0x2E0E 0x2E16, .span 0x2E18 0x2E19,
    .span 0x2E1B 0x2E1B, .span 0x2E1E 0x2E1F, .span 0x2E2A 0x2E2E, .span 0x2E30 0x2E39,
    .span 0x2E3C 0x2E3F, .span 0x2E41 0x2E41, .span 0x2E43 0x2E4F, .span 0x2E52 0x2E54,
    .span 0x3001 0x3003, .span 0x303D 0x303D, .span 0x30FB 0x30FB, .span 0xA4FE 0xA4FF,
    .span 0xA60D 0xA60F, .span 0xA673 0xA673, .span 0xA67E 0xA67E, .span 0xA6F2 0xA6F7,
    .span 0xA874 0xA877, .span 0xA8CE 0xA8CF, .span 0xA8F8 0xA8FA, .span 0xA8FC 0xA8FC,
    .span 0xA92E 0xA92F, .span 0xA95F 0xA95F, .span 0xA9C1 0xA9CD, .span 0xA9DE 0xA9DF,
    .span 0xAA5C 0xAA5F, .span 0xAADE 0xAADF, .span 0xAAF0 0xAAF1, .span 0xABEB 0xABEB,
    .span 0xFE10 0xFE16, .span 0xFE19 0xFE19, .span 0xFE30 0xFE30, .span 0xFE45 0xFE46,
    .span 0xFE49 0xFE4C, .span 0xFE50 0xFE52, .span 0xFE54 0xFE57, .span 0xFE5F 0xFE61,
    .span 0xFE68 0xFE68, .span 0xFE6A 0xFE6B, .span 0xFF01 0xFF03, .span 0xFF05 0xFF07,
    .span 0xFF0A 0xFF0A, .span 0xFF0C 0xFF0C, .span 0xFF0E 0xFF0F, .span 0xFF1A 0xFF1B,
    .span 0xFF1F 0xFF20, .span 0xFF3C 0xFF3C, .span 0xFF61 0xFF61, .span 0xFF64 0xFF65,
    .span 0x10100 0x10102, .span 0x1039F 0x1039F, .span 0x103D0 0x103D0, .span 0x1056F 0x1056F,
    .span 0x10857 0x10857, .span 0x1091F 0x1091F, .span 0x1093F 0x1093F, .span 0x10A50 0x10A58,
    .span 0x10A7F 0x10A7F, .span 0x10AF0 0x10AF6, .span 0x10B39 0x10B3F, .span 0x10B99 0x10B9C,
    .span 0x10ED0 0x10ED0, .span 0x10F55 0x10F59, .span 0x10F86 0x10F89, .span 0x11047 0x1104D,
    .span 0x110BB 0x110BC, .span 0x110BE 0x110C1, .span 0x11140 0x11143, .span 0x11174 0x11175,
    .span 0x111C5 0x111C8, .span 0x111CD 0x111CD, .span 0x111DB 0x111DB, .span 0x111DD 0x111DF,
    .span 0x11238 0x1123D, .span 0x112A9 0x112A9, .span 0x113D4 0x113D5, .span 0x113D7 0x113D8,
    .span 0x1144B 0x1144F, .span 0x1145A 0x1145B, .span 0x1145D 0x1145D, .span 0x114C6 0x114C6,
    .span 0x115C1 0x115D7, .span 0x11641 0x11643, .span 0x11660 0x1166C, .span 0x116B9 0x116B9,
    .span 0x1173C 0x1173E, .span 0x1183B 0x1183B, .span 0x11944 0x11946, .span 0x119E2 0x119E2,
    .span 0x11A3F 0x11A46, .span 0x11A9A 0x11A9C, .span 0x11A9E 0x11AA2, .span 0x11B00 0x11B09,
    .span 0x11BE1 0x11BE1, .span 0x11C41 0x11C45, .span 0x11C70 0x11C71, .span 0x11EF7 0x11EF8,
    .span 0x11F43 0x11F4F, .span 0x11FFF 0x11FFF, .span 0x12470 0x12474, .span 0x12FF1 0x12FF2,
    .span 0x16A6E 0x16A6F, .span 0x16AF5 0x16AF5, .span 0x16B37 0x16B3B, .span 0x16B44 0x16B44,
    .span 0x16D6D 0x16D6F, .span 0x16E97 0x16E9A, .span 0x16FE2 0x16FE2, .span 0x1BC9F 0x1BC9F,
    .span 0x1DA87 0x1DA8B, .span 0x1E5FF 0x1E5FF, .span 0x1E95E 0x1E95F]

def mathSymbols : List CodeRun :=
  [.span 0x2B 0x2B, .span 0x3C 0x3E, .span 0x7C 0x7C, .span 0x7E 0x7E, .span 0xAC 0xAC,
    .span 0xB1 0xB1, .span 0xD7 0xD7, .span 0xF7 0xF7, .span 0x3F6 0x3F6, .span 0x606 0x608,
    .span 0x2044 0x2044, .span 0x2052 0x2052, .span 0x207A 0x207C, .span 0x208A 0x208C,
    .span 0x2118 0x2118, .span 0x2140 0x2144, .span 0x214B 0x214B, .span 0x2190 0x2194,
    .span 0x219A 0x219B, .span 0x21A0 0x21A0, .span 0x21A3 0x21A3, .span 0x21A6 0x21A6,
    .span 0x21AE 0x21AE, .span 0x21CE 0x21CF, .span 0x21D2 0x21D2, .span 0x21D4 0x21D4,
    .span 0x21F4 0x22FF, .span 0x2320 0x2321, .span 0x237C 0x237C, .span 0x239B 0x23B3,
    .span 0x23DC 0x23E1, .span 0x25B7 0x25B7, .span 0x25C1 0x25C1, .span 0x25F8 0x25FF,
    .span 0x266F 0x266F, .span 0x27C0 0x27C4, .span 0x27C7 0x27E5, .span 0x27F0 0x27FF,
    .span 0x2900 0x2982, .span 0x2999 0x29D7, .span 0x29DC 0x29FB, .span 0x29FE 0x2AFF,
    .span 0x2B30 0x2B44, .span 0x2B47 0x2B4C, .span 0xFB29 0xFB29, .span 0xFE62 0xFE62,
    .span 0xFE64 0xFE66, .span 0xFF0B 0xFF0B, .span 0xFF1C 0xFF1E, .span 0xFF5C 0xFF5C,
    .span 0xFF5E 0xFF5E, .span 0xFFE2 0xFFE2, .span 0xFFE9 0xFFEC, .span 0x10D8E 0x10D8F,
    .span 0x1CEF0 0x1CEF0, .span 0x1D6C1 0x1D6C1, .span 0x1D6DB 0x1D6DB, .span 0x1D6FB 0x1D6FB,
    .span 0x1D715 0x1D715, .span 0x1D735 0x1D735, .span 0x1D74F 0x1D74F, .span 0x1D76F 0x1D76F,
    .span 0x1D789 0x1D789, .span 0x1D7A9 0x1D7A9, .span 0x1D7C3 0x1D7C3, .span 0x1EEF0 0x1EEF1,
    .span 0x1F8D0 0x1F8D8]

def currencySymbols : List CodeRun :=
  [.span 0x24 0x24, .span 0xA2 0xA5, .span 0x58F 0x58F, .span 0x60B 0x60B, .span 0x7FE 0x7FF,
    .span 0x9F2 0x9F3, .span 0x9FB 0x9FB, .span 0xAF1 0xAF1, .span 0xBF9 0xBF9,
    .span 0xE3F 0xE3F, .span 0x17DB 0x17DB, .span 0x20A0 0x20C1, .span 0xA838 0xA838,
    .span 0xFDFC 0xFDFC, .span 0xFE69 0xFE69, .span 0xFF04 0xFF04, .span 0xFFE0 0xFFE1,
    .span 0xFFE5 0xFFE6, .span 0x11FDD 0x11FE0, .span 0x1E2FF 0x1E2FF, .span 0x1ECB0 0x1ECB0]

def modifierSymbols : List CodeRun :=
  [.span 0x5E 0x5E, .span 0x60 0x60, .span 0xA8 0xA8, .span 0xAF 0xAF, .span 0xB4 0xB4,
    .span 0xB8 0xB8, .span 0x2C2 0x2C5, .span 0x2D2 0x2DF, .span 0x2E5 0x2EB, .span 0x2ED 0x2ED,
    .span 0x2EF 0x2FF, .span 0x375 0x375, .span 0x384 0x385, .span 0x888 0x888,
    .span 0x1FBD 0x1FBD, .span 0x1FBF 0x1FC1, .span 0x1FCD 0x1FCF, .span 0x1FDD 0x1FDF,
    .span 0x1FED 0x1FEF, .span 0x1FFD 0x1FFE, .span 0x309B 0x309C, .span 0xA700 0xA716,
    .span 0xA720 0xA721, .span 0xA789 0xA78A, .span 0xAB5B 0xAB5B, .span 0xAB6A 0xAB6B,
    .span 0xFBB2 0xFBC2, .span 0xFF3E 0xFF3E, .span 0xFF40 0xFF40, .span 0xFFE3 0xFFE3,
    .span 0x1F3FB 0x1F3FF]

def otherSymbols : List CodeRun :=
  [.span 0xA6 0xA6, .span 0xA9 0xA9, .span 0xAE 0xAE, .span 0xB0 0xB0, .span 0x482 0x482,
    .span 0x58D 0x58E, .span 0x60E 0x60F, .span 0x6DE 0x6DE, .span 0x6E9 0x6E9,
    .span 0x6FD 0x6FE, .span 0x7F6 0x7F6, .span 0x9FA 0x9FA, .span 0xB70 0xB70,
    .span 0xBF3 0xBF8, .span 0xBFA 0xBFA, .span 0xC7F 0xC7F, .span 0xD4F 0xD4F,
    .span 0xD79 0xD79, .span 0xF01 0xF03, .span 0xF13 0xF13, .span 0xF15 0xF17,
    .span 0xF1A 0xF1F, .alternate 0xF34 0xF38, .span 0xFBE 0xFC5, .span 0xFC7 0xFCC,
    .span 0xFCE 0xFCF, .span 0xFD5 0xFD8, .span 0x109E 0x109F, .span 0x1390 0x1399,
    .span 0x166D 0x166D, .span 0x1940 0x1940, .span 0x19DE 0x19FF, .span 0x1B61 0x1B6A,
    .span 0x1B74 0x1B7C, .span 0x2100 0x2101, .span 0x2103 0x2106, .span 0x2108 0x2109,
    .span 0x2114 0x2114, .span 0x2116 0x2117, .span 0x211E 0x2123, .alternate 0x2125 0x2129,
    .span 0x212E 0x212E, .span 0x213A 0x213B, .span 0x214A 0x214A, .span 0x214C 0x214D,
    .span 0x214F 0x214F, .span 0x218A 0x218B, .span 0x2195 0x2199, .span 0x219C 0x219F,
    .span 0x21A1 0x21A2, .span 0x21A4 0x21A5, .span 0x21A7 0x21AD, .span 0x21AF 0x21CD,
    .span 0x21D0 0x21D1, .span 0x21D3 0x21D3, .span 0x21D5 0x21F3, .span 0x2300 0x2307,
    .span 0x230C 0x231F, .span 0x2322 0x2328, .span 0x232B 0x237B, .span 0x237D 0x239A,
    .span 0x23B4 0x23DB, .span 0x23E2 0x2429, .span 0x2440 0x244A, .span 0x249C 0x24E9,
    .span 0x2500 0x25B6, .span 0x25B8 0x25C0, .span 0x25C2 0x25F7, .span 0x2600 0x266E,
    .span 0x2670 0x2767, .span 0x2794 0x27BF, .span 0x2800 0x28FF, .span 0x2B00 0x2B2F,
    .span 0x2B45 0x2B46, .span 0x2B4D 0x2B73, .span 0x2B76 0x2BFF, .span 0x2CE5 0x2CEA,
    .span 0x2E50 0x2E51, .span 0x2E80 0x2E99, .span 0x2E9B 0x2EF3, .span 0x2F00 0x2FD5,
    .span 0x2FF0 0x2FFF, .span 0x3004 0x3004, .span 0x3012 0x3013, .span 0x3020 0x3020,
    .span 0x3036 0x3037, .span 0x303E 0x303F, .span 0x3190 0x3191, .span 0x3196 0x319F,
    .span 0x31C0 0x31E5, .span 0x31EF 0x31EF, .span 0x3200 0x321E, .span 0x322A 0x3247,
    .span 0x3250 0x3250, .span 0x3260 0x327F, .span 0x328A 0x32B0, .span 0x32C0 0x33FF,
    .span 0x4DC0 0x4DFF, .span 0xA490 0xA4C6, .span 0xA828 0xA82B, .span 0xA836 0xA837,
    .span 0xA839 0xA839, .span 0xAA77 0xAA79, .span 0xFBC3 0xFBD2, .span 0xFD40 0xFD4F,
    .span 0xFD90 0xFD91, .span 0xFDC8 0xFDCF, .span 0xFDFD 0xFDFF, .span 0xFFE4 0xFFE4,
    .span 0xFFE8 0xFFE8, .span 0xFFED 0xFFEE, .span 0xFFFC 0xFFFD, .span 0x10137 0x1013F,
    .span 0x10179 0x10189, .span 0x1018C 0x1018E, .span 0x10190 0x1019C, .span 0x101A0 0x101A0,
    .span 0x101D0 0x101FC, .span 0x10877 0x10878, .span 0x10AC8 0x10AC8, .span 0x10ED1 0x10ED8,
    .span 0x1173F 0x1173F, .span 0x11FD5 0x11FDC, .span 0x11FE1 0x11FF1, .span 0x16B3C 0x16B3F,
    .span 0x16B45 0x16B45, .span 0x1BC9C 0x1BC9C, .span 0x1CC00 0x1CCEF, .span 0x1CCFA 0x1CCFC,
    .span 0x1CD00 0x1CEB3, .span 0x1CEBA 0x1CED0, .span 0x1CEE0 0x1CEEF, .span 0x1CF50 0x1CFC3,
    .span 0x1D000 0x1D0F5, .span 0x1D100 0x1D126, .span 0x1D129 0x1D164, .span 0x1D16A 0x1D16C,
    .span 0x1D183 0x1D184, .span 0x1D18C 0x1D1A9, .span 0x1D1AE 0x1D1EA, .span 0x1D200 0x1D241,
    .span 0x1D245 0x1D245, .span 0x1D300 0x1D356, .span 0x1D800 0x1D9FF, .span 0x1DA37 0x1DA3A,
    .span 0x1DA6D 0x1DA74, .span 0x1DA76 0x1DA83, .span 0x1DA85 0x1DA86, .span 0x1E14F 0x1E14F,
    .span 0x1ECAC 0x1ECAC, .span 0x1ED2E 0x1ED2E, .span 0x1F000 0x1F02B, .span 0x1F030 0x1F093,
    .span 0x1F0A0 0x1F0AE, .span 0x1F0B1 0x1F0BF, .span 0x1F0C1 0x1F0CF, .span 0x1F0D1 0x1F0F5,
    .span 0x1F10D 0x1F1AD, .span 0x1F1E6 0x1F202, .span 0x1F210 0x1F23B, .span 0x1F240 0x1F248,
    .span 0x1F250 0x1F251, .span 0x1F260 0x1F265, .span 0x1F300 0x1F3FA, .span 0x1F400 0x1F6D8,
    .span 0x1F6DC 0x1F6EC, .span 0x1F6F0 0x1F6FC, .span 0x1F700 0x1F7D9, .span 0x1F7E0 0x1F7EB,
    .span 0x1F7F0 0x1F7F0, .span 0x1F800 0x1F80B, .span 0x1F810 0x1F847, .span 0x1F850 0x1F859,
    .span 0x1F860 0x1F887, .span 0x1F890 0x1F8AD, .span 0x1F8B0 0x1F8BB, .span 0x1F8C0 0x1F8C1,
    .span 0x1F900 0x1FA57, .span 0x1FA60 0x1FA6D, .span 0x1FA70 0x1FA7C, .span 0x1FA80 0x1FA8A,
    .span 0x1FA8E 0x1FAC6, .span 0x1FAC8 0x1FAC8, .span 0x1FACD 0x1FADC, .span 0x1FADF 0x1FAEA,
    .span 0x1FAEF 0x1FAF8, .span 0x1FB00 0x1FB92, .span 0x1FB94 0x1FBEF, .span 0x1FBFA 0x1FBFA]

def spaceSeparators : List CodeRun :=
  [.span 0x20 0x20, .span 0xA0 0xA0, .span 0x1680 0x1680, .span 0x2000 0x200A,
    .span 0x202F 0x202F, .span 0x205F 0x205F, .span 0x3000 0x3000]

def lineSeparators : List CodeRun :=
  [.span 0x2028 0x2028]

def paragraphSeparators : List CodeRun :=
  [.span 0x2029 0x2029]

def controls : List CodeRun :=
  [.span 0x00 0x1F, .span 0x7F 0x9F]

def formats : List CodeRun :=
  [.span 0xAD 0xAD, .span 0x600 0x605, .span 0x61C 0x61C, .span 0x6DD 0x6DD, .span 0x70F 0x70F,
    .span 0x890 0x891, .span 0x8E2 0x8E2, .span 0x180E 0x180E, .span 0x200B 0x200F,
    .span 0x202A 0x202E, .span 0x2060 0x2064, .span 0x2066 0x206F, .span 0xFEFF 0xFEFF,
    .span 0xFFF9 0xFFFB, .span 0x110BD 0x110BD, .span 0x110CD 0x110CD, .span 0x13430 0x1343F,
    .span 0x1BCA0 0x1BCA3, .span 0x1D173 0x1D17A, .span 0xE0001 0xE0001, .span 0xE0020 0xE007F]

def privateUse : List CodeRun :=
  [.span 0xE000 0xF8FF, .span 0xF0000 0xFFFFD, .span 0x100000 0x10FFFD]

end Text
end SchemaModels
