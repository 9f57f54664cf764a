/-
Character properties that the general category does not decide alone.

Each list holds the characters that have a property for another reason than their category: the
property itself is the union of its categories with the list.
-/
import SchemaModels.Text.CodeRun

namespace SchemaModels
namespace Text

/-- Capital numerals and enclosed capitals: uppercase without being capital letters. -/
def furtherUppercase : List CodeRun :=
  [.span 0x2160 0x216F, .span 0x24B6 0x24CF, .span 0x1F130 0x1F149, .span 0x1F150 0x1F169,
    .span 0x1F170 0x1F189]

def furtherLowercase : List CodeRun :=
  [.span 0xAA 0xAA, .span 0xBA 0xBA, .span 0x2B0 0x2B8, .span 0x2C0 0x2C1, .span 0x2E0 0x2E4,
    .span 0x345 0x345, .span 0x37A 0x37A, .span 0x10FC 0x10FC, .span 0x1D2C 0x1D6A,
    .span 0x1D78 0x1D78, .span 0x1D9B 0x1DBF, .span 0x2071 0x2071, .span 0x207F 0x207F,
    .span 0x2090 0x209C, .span 0x2170 0x217F, .span 0x24D0 0x24E9, .span 0x2C7C 0x2C7D,
    .span 0xA69C 0xA69D, .span 0xA770 0xA770, .span 0xA7F1 0xA7F4, .span 0xA7F8 0xA7F9,
    .span 0xAB5C 0xAB5F, .span 0xAB69 0xAB69, .span 0x10780 0x10780, .span 0x10783 0x10785,
    .span 0x10787 0x107B0, .span 0x107B2 0x107BA, .span 0x1E030 0x1E06D]

/-- Marks and symbols that count as alphabetic: neither letters, letter numbers nor cased. -/
def furtherAlphabetic : List CodeRun :=
  [.span 0x363 0x36F, .span 0x5B0 0x5BD, .span 0x5BF 0x5BF, .span 0x5C1 0x5C2,
    .span 0x5C4 0x5C5, .span 0x5C7 0x5C7, .span 0x610 0x61A, .span 0x64B 0x657,
    .span 0x659 0x65F, .span 0x670 0x670, .span 0x6D6 0x6DC, .span 0x6E1 0x6E4,
    .span 0x6E7 0x6E8, .span 0x6ED 0x6ED, .span 0x711 0x711, .span 0x730 0x73F,
    .span 0x7A6 0x7B0, .span 0x816 0x817, .span 0x81B 0x823, .span 0x825 0x827,
    .span 0x829 0x82C, .span 0x897 0x897, .span 0x8D4 0x8DF, .span 0x8E3 0x8E9,
    .span 0x8F0 0x903, .span 0x93A 0x93B, .span 0x93E 0x94C, .span 0x94E 0x94F,
    .span 0x955 0x957, .span 0x962 0x963, .span 0x981 0x983, .span 0x9BE 0x9C4,
    .span 0x9C7 0x9C8, .span 0x9CB 0x9CC, .span 0x9D7 0x9D7, .span 0x9E2 0x9E3,
    .span 0xA01 0xA03, .span 0xA3E 0xA42, .span 0xA47 0xA48, .span 0xA4B 0xA4C,
    .span 0xA51 0xA51, .span 0xA70 0xA71, .span 0xA75 0xA75, .span 0xA81 0xA83,
    .span 0xABE 0xAC5, .span 0xAC7 0xAC9, .span 0xACB 0xACC, .span 0xAE2 0xAE3,
    .span 0xAFA 0xAFC, .span 0xB01 0xB03, .span 0xB3E 0xB44, .span 0xB47 0xB48,
    .span 0xB4B 0xB4C, .span 0xB56 0xB57, .span 0xB62 0xB63, .span 0xB82 0xB82,
    .span 0xBBE 0xBC2, .span 0xBC6 0xBC8, .span 0xBCA 0xBCC, .span 0xBD7 0xBD7,
    .span 0xC00 0xC04, .span 0xC3E 0xC44, .span 0xC46 0xC48, .span 0xC4A 0xC4C,
    .span 0xC55 0xC56, .span 0xC62 0xC63, .span 0xC81 0xC83, .span 0xCBE 0xCC4,
    .span 0xCC6 0xCC8, .span 0xCCA 0xCCC, .span 0xCD5 0xCD6, .span 0xCE2 0xCE3,
    .span 0xCF3 0xCF3, .span 0xD00 0xD03, .span 0xD3E 0xD44, .span 0xD46 0xD48,
    .span 0xD4A 0xD4C, .span 0xD57 0xD57, .span 0xD62 0xD63, .span 0xD81 0xD83,
    .span 0xDCF 0xDD4, .span 0xDD6 0xDD6, .span 0xDD8 0xDDF, .span 0xDF2 0xDF3,
    .span 0xE31 0xE31, .span 0xE34 0xE3A, .span 0xE4D 0xE4D, .span 0xEB1 0xEB1,
    .span 0xEB4 0xEB9, .span 0xEBB 0xEBC, .span 0xECD 0xECD, .span 0xF71 0xF83,
    .span 0xF8D 0xF97, .span 0xF99 0xFBC, .span 0x102B 0x1036, .span 0x1038 0x1038,
    .span 0x103B 0x103E, .span 0x1056 0x1059, .span 0x105E 0x1060, .span 0x1062 0x1064,
    .span 0x1067 0x106D, .span 0x1071 0x1074, .span 0x1082 0x108D, .span 0x108F 0x108F,
    .span 0x109A 0x109D, .span 0x1712 0x1713, .span 0x1732 0x1733, .span 0x1752 0x1753,
    .span 0x1772 0x1773, .span 0x17B6 0x17C8, .span 0x1885 0x1886, .span 0x18A9 0x18A9,
    .span 0x1920 0x192B, .span 0x1930 0x1938, .span 0x1A17 0x1A1B, .span 0x1A55 0x1A5E,
    .span 0x1A61 0x1A74, .span 0x1ABF 0x1AC0, .span 0x1ACC 0x1ACE, .span 0x1B00 0x1B04,
    .span 0x1B35 0x1B43, .span 0x1B80 0x1B82, .span 0x1BA1 0x1BA9, .span 0x1BAC 0x1BAD,
    .span 0x1BE7 0x1BF1, .span 0x1C24 0x1C36, .span 0x1DD3 0x1DF4, .span 0x2DE0 0x2DFF,
    .span 0xA674 0xA67B, .span 0xA69E 0xA69F, .span 0xA802 0xA802, .span 0xA80B 0xA80B,
    .span 0xA823 0xA827, .span 0xA880 0xA881, .span 0xA8B4 0xA8C3, .span 0xA8C5 0xA8C5,
    .span 0xA8FF 0xA8FF, .span 0xA926 0xA92A, .span 0xA947 0xA952, .span 0xA980 0xA983,
    .span 0xA9B4 0xA9BF, .span 0xA9E5 0xA9E5, .span 0xAA29 0xAA36, .span 0xAA43 0xAA43,
    .span 0xAA4C 0xAA4D, .span 0xAA7B 0xAA7D, .span 0xAAB0 0xAAB0, .span 0xAAB2 0xAAB4,
    .span 0xAAB7 0xAAB8, .span 0xAABE 0xAABE, .span 0xAAEB 0xAAEF, .span 0xAAF5 0xAAF5,
    .span 0xABE3 0xABEA, .span 0xFB1E 0xFB1E, .span 0x10376 0x1037A, .span 0x10A01 0x10A03,
    .span 0x10A05 0x10A06, .span 0x10A0C 0x10A0F, .span 0x10D24 0x10D27, .span 0x10D69 0x10D69,
    .span 0x10EAB 0x10EAC, .span 0x10EFA 0x10EFC, .span 0x11000 0x11002, .span 0x11038 0x11045,
    .span 0x11073 0x11074, .span 0x11080 0x11082, .span 0x110B0 0x110B8, .span 0x110C2 0x110C2,
    .span 0x11100 0x11102, .span 0x11127 0x11132, .span 0x11145 0x11146, .span 0x11180 0x11182,
    .span 0x111B3 0x111BF, .span 0x111CE 0x111CF, .span 0x1122C 0x11234, .span 0x11237 0x11237,
    .span 0x1123E 0x1123E, .span 0x11241 0x11241, .span 0x112DF 0x112E8, .span 0x11300 0x11303,
    .span 0x1133E 0x11344, .span 0x11347 0x11348, .span 0x1134B 0x1134C, .span 0x11357 0x11357,
    .span 0x11362 0x11363, .span 0x113B8 0x113C0, .span 0x113C2 0x113C2, .span 0x113C5 0x113C5,
    .span 0x113C7 0x113CA, .span 0x113CC 0x113CD, .span 0x11435 0x11441, .span 0x11443 0x11445,
    .span 0x114B0 0x114C1, .span 0x115AF 0x115B5, .span 0x115B8 0x115BE, .span 0x115DC 0x115DD,
    .span 0x11630 0x1163E, .span 0x11640 0x11640, .span 0x116AB 0x116B5, .span 0x1171D 0x1172A,
    .span 0x1182C 0x11838, .span 0x11930 0x11935, .span 0x11937 0x11938, .span 0x1193B 0x1193C,
    .span 0x11940 0x11940, .span 0x11942 0x11942, .span 0x119D1 0x119D7, .span 0x119DA 0x119DF,
    .span 0x119E4 0x119E4, .span 0x11A01 0x11A0A, .span 0x11A35 0x11A39, .span 0x11A3B 0x11A3E,
    .span 0x11A51 0x11A5B, .span 0x11A8A 0x11A97, .span 0x11B60 0x11B67, .span 0x11C2F 0x11C36,
    .span 0x11C38 0x11C3E, .span 0x11C92 0x11CA7, .span 0x11CA9 0x11CB6, .span 0x11D31 0x11D36,
    .span 0x11D3A 0x11D3A, .span 0x11D3C 0x11D3D, .span 0x11D3F 0x11D41, .span 0x11D43 0x11D43,
    .span 0x11D47 0x11D47, .span 0x11D8A 0x11D8E, .span 0x11D90 0x11D91, .span 0x11D93 0x11D96,
    .span 0x11EF3 0x11EF6, .span 0x11F00 0x11F01, .span 0x11F03 0x11F03, .span 0x11F34 0x11F3A,
    .span 0x11F3E 0x11F40, .span 0x1611E 0x1612E, .span 0x16F4F 0x16F4F, .span 0x16F51 0x16F87,
    .span 0x16F8F 0x16F92, .span 0x16FF0 0x16FF1, .span 0x1BC9E 0x1BC9E, .span 0x1E000 0x1E006,
    .span 0x1E008 0x1E018, .span 0x1E01B 0x1E021, .span 0x1E023 0x1E024, .span 0x1E026 0x1E02A,
    .span 0x1E08F 0x1E08F, .span 0x1E6E3 0x1E6E3, .span 0x1E6E6 0x1E6E6, .span 0x1E6EE 0x1E6EF,
    .span 0x1E6F5 0x1E6F5, .span 0x1E947 0x1E947]

def furtherExtenders : List CodeRun :=
  [.span 0x9BE 0x9BE, .span 0x9D7 0x9D7, .span 0xB3E 0xB3E, .span 0xB57 0xB57,
    .span 0xBBE 0xBBE, .span 0xBD7 0xBD7, .span 0xCC0 0xCC0, .span 0xCC2 0xCC2,
    .span 0xCC7 0xCC8, .span 0xCCA 0xCCB, .span 0xCD5 0xCD6, .span 0xD3E 0xD3E,
    .span 0xD57 0xD57, .span 0xDCF 0xDCF, .span 0xDDF 0xDDF, .span 0x1715 0x1715,
    .span 0x1734 0x1734, .span 0x1B35 0x1B35, .span 0x1B3B 0x1B3B, .span 0x1B3D 0x1B3D,
    .span 0x1B43 0x1B44, .span 0x1BAA 0x1BAA, .span 0x1BF2 0x1BF3, .span 0x200C 0x200C,
    .span 0x302E 0x302F, .span 0xA953 0xA953, .span 0xA9C0 0xA9C0, .span 0xFF9E 0xFF9F,
    .span 0x111C0 0x111C0, .span 0x11235 0x11235, .span 0x1133E 0x1133E, .span 0x1134D 0x1134D,
    .span 0x11357 0x11357, .span 0x113B8 0x113B8, .span 0x113C2 0x113C2, .span 0x113C5 0x113C5,
    .span 0x113C7 0x113C9, .span 0x113CF 0x113CF, .span 0x114B0 0x114B0, .span 0x114BD 0x114BD,
    .span 0x115AF 0x115AF, .span 0x116B6 0x116B6, .span 0x11930 0x11930, .span 0x1193D 0x1193D,
    .span 0x11F41 0x11F41, .span 0x16FF0 0x16FF1, .span 0x1D165 0x1D166, .span 0x1D16D 0x1D172,
    .span 0xE0020 0xE007F]

def furtherCaseIgnorable : List CodeRun :=
  [.span 0x27 0x27, .span 0x2E 0x2E, .span 0x3A 0x3A, .span 0xB7 0xB7, .span 0x387 0x387,
    .span 0x55F 0x55F, .span 0x5F4 0x5F4, .span 0x2018 0x2019, .span 0x2024 0x2024,
    .span 0x2027 0x2027, .span 0xFE13 0xFE13, .span 0xFE52 0xFE52, .span 0xFE55 0xFE55,
    .span 0xFF07 0xFF07, .span 0xFF0E 0xFF0E, .span 0xFF1A 0xFF1A]

def whiteSpace : List CodeRun :=
  [.span 0x09 0x0D, .span 0x20 0x20, .span 0x85 0x85, .span 0xA0 0xA0, .span 0x1680 0x1680,
    .span 0x2000 0x200A, .span 0x2028 0x2029, .span 0x202F 0x202F, .span 0x205F 0x205F,
    .span 0x3000 0x3000]

end Text
end SchemaModels
