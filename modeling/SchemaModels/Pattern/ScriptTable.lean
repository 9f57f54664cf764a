/-
The characters of each script, under the names by which scripts are called.
-/
import SchemaModels.Text.CodeRun

namespace SchemaModels
namespace Pattern

open Text

structure Script where
  names : List String
  runs : List CodeRun

def adlamScript : Script where
  names := ["adlam", "adlm"]
  runs :=
    [.span 0x1E900 0x1E94B, .span 0x1E950 0x1E959, .span 0x1E95E 0x1E95F]

def ahomScript : Script where
  names := ["ahom"]
  runs :=
    [.span 0x11700 0x1171A, .span 0x1171D 0x1172B, .span 0x11730 0x11746]

def arabicScript : Script where
  names := ["arab", "arabic"]
  runs :=
    [.span 0x600 0x604, .span 0x606 0x60B, .span 0x60D 0x61A, .span 0x61C 0x61E,
      .span 0x620 0x63F, .span 0x641 0x64A, .span 0x656 0x66F, .span 0x671 0x6DC,
      .span 0x6DE 0x6FF, .span 0x750 0x77F, .span 0x870 0x891, .span 0x897 0x8E1,
      .span 0x8E3 0x8FF, .span 0xFB50 0xFD3D, .span 0xFD40 0xFDCF, .span 0xFDF0 0xFDFF,
      .span 0xFE70 0xFE74, .span 0xFE76 0xFEFC, .span 0x10E60 0x10E7E, .span 0x10EC2 0x10EC7,
      .span 0x10ED0 0x10ED8, .span 0x10EFA 0x10EFF, .span 0x1EE00 0x1EE03,
      .span 0x1EE05 0x1EE1F, .span 0x1EE21 0x1EE22, .span 0x1EE24 0x1EE24,
      .span 0x1EE27 0x1EE27, .span 0x1EE29 0x1EE32, .span 0x1EE34 0x1EE37,
      .span 0x1EE39 0x1EE39, .span 0x1EE3B 0x1EE3B, .span 0x1EE42 0x1EE42,
      .span 0x1EE47 0x1EE47, .span 0x1EE49 0x1EE49, .span 0x1EE4B 0x1EE4B,
      .span 0x1EE4D 0x1EE4F, .span 0x1EE51 0x1EE52, .span 0x1EE54 0x1EE54,
      .span 0x1EE57 0x1EE57, .span 0x1EE59 0x1EE59, .span 0x1EE5B 0x1EE5B,
      .span 0x1EE5D 0x1EE5D, .span 0x1EE5F 0x1EE5F, .span 0x1EE61 0x1EE62,
      .span 0x1EE64 0x1EE64, .span 0x1EE67 0x1EE6A, .span 0x1EE6C 0x1EE72,
      .span 0x1EE74 0x1EE77, .span 0x1EE79 0x1EE7C, .span 0x1EE7E 0x1EE7E,
      .span 0x1EE80 0x1EE89, .span 0x1EE8B 0x1EE9B, .span 0x1EEA1 0x1EEA3,
      .span 0x1EEA5 0x1EEA9, .span 0x1EEAB 0x1EEBB, .span 0x1EEF0 0x1EEF1]

def armenianScript : Script where
  names := ["armenian", "armn"]
  runs :=
    [.span 0x531 0x556, .span 0x559 0x58A, .span 0x58D 0x58F, .span 0xFB13 0xFB17]

def avestanScript : Script where
  names := ["avestan", "avst"]
  runs :=
    [.span 0x10B00 0x10B35, .span 0x10B39 0x10B3F]

def balineseScript : Script where
  names := ["bali", "balinese"]
  runs :=
    [.span 0x1B00 0x1B4C, .span 0x1B4E 0x1B7F]

def bamumScript : Script where
  names := ["bamu", "bamum"]
  runs :=
    [.span 0xA6A0 0xA6F7, .span 0x16800 0x16A38]

def bassaVahScript : Script where
  names := ["bass", "bassavah"]
  runs :=
    [.span 0x16AD0 0x16AED, .span 0x16AF0 0x16AF5]

def batakScript : Script where
  names := ["batak", "batk"]
  runs :=
    [.span 0x1BC0 0x1BF3, .span 0x1BFC 0x1BFF]

def bengaliScript : Script where
  names := ["beng", "bengali"]
  runs :=
    [.span 0x980 0x983, .span 0x985 0x98C, .span 0x98F 0x990, .span 0x993 0x9A8,
      .span 0x9AA 0x9B0, .span 0x9B2 0x9B2, .span 0x9B6 0x9B9, .span 0x9BC 0x9C4,
      .span 0x9C7 0x9C8, .span 0x9CB 0x9CE, .span 0x9D7 0x9D7, .span 0x9DC 0x9DD,
      .span 0x9DF 0x9E3, .span 0x9E6 0x9FE]

def bhaiksukiScript : Script where
  names := ["bhaiksuki", "bhks"]
  runs :=
    [.span 0x11C00 0x11C08, .span 0x11C0A 0x11C36, .span 0x11C38 0x11C45,
      .span 0x11C50 0x11C6C]

def bopomofoScript : Script where
  names := ["bopo", "bopomofo"]
  runs :=
    [.span 0x2EA 0x2EB, .span 0x3105 0x312F, .span 0x31A0 0x31BF]

def brahmiScript : Script where
  names := ["brah", "brahmi"]
  runs :=
    [.span 0x11000 0x1104D, .span 0x11052 0x11075, .span 0x1107F 0x1107F]

def brailleScript : Script where
  names := ["brai", "braille"]
  runs :=
    [.span 0x2800 0x28FF]

def bugineseScript : Script where
  names := ["bugi", "buginese"]
  runs :=
    [.span 0x1A00 0x1A1B, .span 0x1A1E 0x1A1F]

def buhidScript : Script where
  names := ["buhd", "buhid"]
  runs :=
    [.span 0x1740 0x1753]

def canadianAboriginalScript : Script where
  names := ["canadianaboriginal", "cans"]
  runs :=
    [.span 0x1400 0x167F, .span 0x18B0 0x18F5, .span 0x11AB0 0x11ABF]

def carianScript : Script where
  names := ["cari", "carian"]
  runs :=
    [.span 0x102A0 0x102D0]

def caucasianAlbanianScript : Script where
  names := ["aghb", "caucasianalbanian"]
  runs :=
    [.span 0x10530 0x10563, .span 0x1056F 0x1056F]

def chakmaScript : Script where
  names := ["cakm", "chakma"]
  runs :=
    [.span 0x11100 0x11134, .span 0x11136 0x11147]

def chamScript : Script where
  names := ["cham"]
  runs :=
    [.span 0xAA00 0xAA36, .span 0xAA40 0xAA4D, .span 0xAA50 0xAA59, .span 0xAA5C 0xAA5F]

def cherokeeScript : Script where
  names := ["cher", "cherokee"]
  runs :=
    [.span 0x13A0 0x13F5, .span 0x13F8 0x13FD, .span 0xAB70 0xABBF]

def chorasmianScript : Script where
  names := ["chorasmian", "chrs"]
  runs :=
    [.span 0x10FB0 0x10FCB]

def cypriotScript : Script where
  names := ["cprt", "cypriot"]
  runs :=
    [.span 0x10800 0x10805, .span 0x10808 0x10808, .span 0x1080A 0x10835,
      .span 0x10837 0x10838, .span 0x1083C 0x1083C, .span 0x1083F 0x1083F]

def cyproMinoanScript : Script where
  names := ["cpmn", "cyprominoan"]
  runs :=
    [.span 0x12F90 0x12FF2]

def cyrillicScript : Script where
  names := ["cyrillic", "cyrl"]
  runs :=
    [.span 0x400 0x484, .span 0x487 0x52F, .span 0x1C80 0x1C8A, .span 0x1D2B 0x1D2B,
      .span 0x1D78 0x1D78, .span 0x2DE0 0x2DFF, .span 0xA640 0xA69F, .span 0xFE2E 0xFE2F,
      .span 0x1E030 0x1E06D, .span 0x1E08F 0x1E08F]

def devanagariScript : Script where
  names := ["deva", "devanagari"]
  runs :=
    [.span 0x900 0x950, .span 0x955 0x963, .span 0x966 0x97F, .span 0xA8E0 0xA8FF,
      .span 0x11B00 0x11B09]

def divesAkuruScript : Script where
  names := ["diak", "divesakuru"]
  runs :=
    [.span 0x11900 0x11906, .span 0x11909 0x11909, .span 0x1190C 0x11913,
      .span 0x11915 0x11916, .span 0x11918 0x11935, .span 0x11937 0x11938,
      .span 0x1193B 0x11946, .span 0x11950 0x11959]

def dograScript : Script where
  names := ["dogr", "dogra"]
  runs :=
    [.span 0x11800 0x1183B]

def deseretScript : Script where
  names := ["deseret", "dsrt"]
  runs :=
    [.span 0x10400 0x1044F]

def duployanScript : Script where
  names := ["dupl", "duployan"]
  runs :=
    [.span 0x1BC00 0x1BC6A, .span 0x1BC70 0x1BC7C, .span 0x1BC80 0x1BC88,
      .span 0x1BC90 0x1BC99, .span 0x1BC9C 0x1BC9F]

def egyptianHieroglyphsScript : Script where
  names := ["egyp", "egyptianhieroglyphs"]
  runs :=
    [.span 0x13000 0x13455, .span 0x13460 0x143FA]

def elbasanScript : Script where
  names := ["elba", "elbasan"]
  runs :=
    [.span 0x10500 0x10527]

def elymaicScript : Script where
  names := ["elym", "elymaic"]
  runs :=
    [.span 0x10FE0 0x10FF6]

def ethiopicScript : Script where
  names := ["ethi", "ethiopic"]
  runs :=
    [.span 0x1200 0x1248, .span 0x124A 0x124D, .span 0x1250 0x1256, .span 0x1258 0x1258,
      .span 0x125A 0x125D, .span 0x1260 0x1288, .span 0x128A 0x128D, .span 0x1290 0x12B0,
      .span 0x12B2 0x12B5, .span 0x12B8 0x12BE, .span 0x12C0 0x12C0, .span 0x12C2 0x12C5,
      .span 0x12C8 0x12D6, .span 0x12D8 0x1310, .span 0x1312 0x1315, .span 0x1318 0x135A,
      .span 0x135D 0x137C, .span 0x1380 0x1399, .span 0x2D80 0x2D96, .span 0x2DA0 0x2DA6,
      .span 0x2DA8 0x2DAE, .span 0x2DB0 0x2DB6, .span 0x2DB8 0x2DBE, .span 0x2DC0 0x2DC6,
      .span 0x2DC8 0x2DCE, .span 0x2DD0 0x2DD6, .span 0x2DD8 0x2DDE, .span 0xAB01 0xAB06,
      .span 0xAB09 0xAB0E, .span 0xAB11 0xAB16, .span 0xAB20 0xAB26, .span 0xAB28 0xAB2E,
      .span 0x1E7E0 0x1E7E6, .span 0x1E7E8 0x1E7EB, .span 0x1E7ED 0x1E7EE,
      .span 0x1E7F0 0x1E7FE]

def garayScript : Script where
  names := ["gara", "garay"]
  runs :=
    [.span 0x10D40 0x10D65, .span 0x10D69 0x10D85, .span 0x10D8E 0x10D8F]

def georgianScript : Script where
  names := ["geor", "georgian"]
  runs :=
    [.span 0x10A0 0x10C5, .span 0x10C7 0x10C7, .span 0x10CD 0x10CD, .span 0x10D0 0x10FA,
      .span 0x10FC 0x10FF, .span 0x1C90 0x1CBA, .span 0x1CBD 0x1CBF, .span 0x2D00 0x2D25,
      .span 0x2D27 0x2D27, .span 0x2D2D 0x2D2D]

def glagoliticScript : Script where
  names := ["glag", "glagolitic"]
  runs :=
    [.span 0x2C00 0x2C5F, .span 0x1E000 0x1E006, .span 0x1E008 0x1E018, .span 0x1E01B 0x1E021,
      .span 0x1E023 0x1E024, .span 0x1E026 0x1E02A]

def gothicScript : Script where
  names := ["goth", "gothic"]
  runs :=
    [.span 0x10330 0x1034A]

def granthaScript : Script where
  names := ["gran", "grantha"]
  runs :=
    [.span 0x11300 0x11303, .span 0x11305 0x1130C, .span 0x1130F 0x11310,
      .span 0x11313 0x11328, .span 0x1132A 0x11330, .span 0x11332 0x11333,
      .span 0x11335 0x11339, .span 0x1133C 0x11344, .span 0x11347 0x11348,
      .span 0x1134B 0x1134D, .span 0x11350 0x11350, .span 0x11357 0x11357,
      .span 0x1135D 0x11363, .span 0x11366 0x1136C, .span 0x11370 0x11374]

def greekScript : Script where
  names := ["greek", "grek"]
  runs :=
    [.span 0x370 0x373, .span 0x375 0x377, .span 0x37A 0x37D, .span 0x37F 0x37F,
      .span 0x384 0x384, .span 0x386 0x386, .span 0x388 0x38A, .span 0x38C 0x38C,
      .span 0x38E 0x3A1, .span 0x3A3 0x3E1, .span 0x3F0 0x3FF, .span 0x1D26 0x1D2A,
      .span 0x1D5D 0x1D61, .span 0x1D66 0x1D6A, .span 0x1DBF 0x1DBF, .span 0x1F00 0x1F15,
      .span 0x1F18 0x1F1D, .span 0x1F20 0x1F45, .span 0x1F48 0x1F4D, .span 0x1F50 0x1F57,
      .span 0x1F59 0x1F59, .span 0x1F5B 0x1F5B, .span 0x1F5D 0x1F5D, .span 0x1F5F 0x1F7D,
      .span 0x1F80 0x1FB4, .span 0x1FB6 0x1FC4, .span 0x1FC6 0x1FD3, .span 0x1FD6 0x1FDB,
      .span 0x1FDD 0x1FEF, .span 0x1FF2 0x1FF4, .span 0x1FF6 0x1FFE, .span 0x2126 0x2126,
      .span 0xAB65 0xAB65, .span 0x10140 0x1018E, .span 0x101A0 0x101A0, .span 0x1D200 0x1D245]

def gujaratiScript : Script where
  names := ["gujarati", "gujr"]
  runs :=
    [.span 0xA81 0xA83, .span 0xA85 0xA8D, .span 0xA8F 0xA91, .span 0xA93 0xAA8,
      .span 0xAAA 0xAB0, .span 0xAB2 0xAB3, .span 0xAB5 0xAB9, .span 0xABC 0xAC5,
      .span 0xAC7 0xAC9, .span 0xACB 0xACD, .span 0xAD0 0xAD0, .span 0xAE0 0xAE3,
      .span 0xAE6 0xAF1, .span 0xAF9 0xAFF]

def gunjalaGondiScript : Script where
  names := ["gong", "gunjalagondi"]
  runs :=
    [.span 0x11D60 0x11D65, .span 0x11D67 0x11D68, .span 0x11D6A 0x11D8E,
      .span 0x11D90 0x11D91, .span 0x11D93 0x11D98, .span 0x11DA0 0x11DA9]

def gurmukhiScript : Script where
  names := ["gurmukhi", "guru"]
  runs :=
    [.span 0xA01 0xA03, .span 0xA05 0xA0A, .span 0xA0F 0xA10, .span 0xA13 0xA28,
      .span 0xA2A 0xA30, .span 0xA32 0xA33, .span 0xA35 0xA36, .span 0xA38 0xA39,
      .span 0xA3C 0xA3C, .span 0xA3E 0xA42, .span 0xA47 0xA48, .span 0xA4B 0xA4D,
      .span 0xA51 0xA51, .span 0xA59 0xA5C, .span 0xA5E 0xA5E, .span 0xA66 0xA76]

def gurungKhemaScript : Script where
  names := ["gukh", "gurungkhema"]
  runs :=
    [.span 0x16100 0x16139]

def hangulScript : Script where
  names := ["hang", "hangul"]
  runs :=
    [.span 0x1100 0x11FF, .span 0x302E 0x302F, .span 0x3131 0x318E, .span 0x3200 0x321E,
      .span 0x3260 0x327E, .span 0xA960 0xA97C, .span 0xAC00 0xD7A3, .span 0xD7B0 0xD7C6,
      .span 0xD7CB 0xD7FB, .span 0xFFA0 0xFFBE, .span 0xFFC2 0xFFC7, .span 0xFFCA 0xFFCF,
      .span 0xFFD2 0xFFD7, .span 0xFFDA 0xFFDC]

def hanScript : Script where
  names := ["han", "hani"]
  runs :=
    [.span 0x2E80 0x2E99, .span 0x2E9B 0x2EF3, .span 0x2F00 0x2FD5, .span 0x3005 0x3005,
      .span 0x3007 0x3007, .span 0x3021 0x3029, .span 0x3038 0x303B, .span 0x3400 0x4DBF,
      .span 0x4E00 0x9FFF, .span 0xF900 0xFA6D, .span 0xFA70 0xFAD9, .span 0x16FE2 0x16FE3,
      .span 0x16FF0 0x16FF6, .span 0x20000 0x2A6DF, .span 0x2A700 0x2B81D,
      .span 0x2B820 0x2CEAD, .span 0x2CEB0 0x2EBE0, .span 0x2EBF0 0x2EE5D,
      .span 0x2F800 0x2FA1D, .span 0x30000 0x3134A, .span 0x31350 0x33479]

def hanunooScript : Script where
  names := ["hano", "hanunoo"]
  runs :=
    [.span 0x1720 0x1734]

def hatranScript : Script where
  names := ["hatr", "hatran"]
  runs :=
    [.span 0x108E0 0x108F2, .span 0x108F4 0x108F5, .span 0x108FB 0x108FF]

def hebrewScript : Script where
  names := ["hebr", "hebrew"]
  runs :=
    [.span 0x591 0x5C7, .span 0x5D0 0x5EA, .span 0x5EF 0x5F4, .span 0xFB1D 0xFB36,
      .span 0xFB38 0xFB3C, .span 0xFB3E 0xFB3E, .span 0xFB40 0xFB41, .span 0xFB43 0xFB44,
      .span 0xFB46 0xFB4F]

def hiraganaScript : Script where
  names := ["hira", "hiragana"]
  runs :=
    [.span 0x3041 0x3096, .span 0x309D 0x309F, .span 0x1B001 0x1B11F, .span 0x1B132 0x1B132,
      .span 0x1B150 0x1B152, .span 0x1F200 0x1F200]

def anatolianHieroglyphsScript : Script where
  names := ["anatolianhieroglyphs", "hluw"]
  runs :=
    [.span 0x14400 0x14646]

def imperialAramaicScript : Script where
  names := ["armi", "imperialaramaic"]
  runs :=
    [.span 0x10840 0x10855, .span 0x10857 0x1085F]

def javaneseScript : Script where
  names := ["java", "javanese"]
  runs :=
    [.span 0xA980 0xA9CD, .span 0xA9D0 0xA9D9, .span 0xA9DE 0xA9DF]

def katakanaScript : Script where
  names := ["kana", "katakana"]
  runs :=
    [.span 0x30A1 0x30FA, .span 0x30FD 0x30FF, .span 0x31F0 0x31FF, .span 0x32D0 0x32FE,
      .span 0x3300 0x3357, .span 0xFF66 0xFF6F, .span 0xFF71 0xFF9D, .span 0x1AFF0 0x1AFF3,
      .span 0x1AFF5 0x1AFFB, .span 0x1AFFD 0x1AFFE, .span 0x1B000 0x1B000,
      .span 0x1B120 0x1B122, .span 0x1B155 0x1B155, .span 0x1B164 0x1B167]

def kawiScript : Script where
  names := ["kawi"]
  runs :=
    [.span 0x11F00 0x11F10, .span 0x11F12 0x11F3A, .span 0x11F3E 0x11F5A]

def kayahLiScript : Script where
  names := ["kali", "kayahli"]
  runs :=
    [.span 0xA900 0xA92D, .span 0xA92F 0xA92F]

def kharoshthiScript : Script where
  names := ["khar", "kharoshthi"]
  runs :=
    [.span 0x10A00 0x10A03, .span 0x10A05 0x10A06, .span 0x10A0C 0x10A13,
      .span 0x10A15 0x10A17, .span 0x10A19 0x10A35, .span 0x10A38 0x10A3A,
      .span 0x10A3F 0x10A48, .span 0x10A50 0x10A58]

def khmerScript : Script where
  names := ["khmer", "khmr"]
  runs :=
    [.span 0x1780 0x17DD, .span 0x17E0 0x17E9, .span 0x17F0 0x17F9, .span 0x19E0 0x19FF]

def khojkiScript : Script where
  names := ["khoj", "khojki"]
  runs :=
    [.span 0x11200 0x11211, .span 0x11213 0x11241]

def khitanSmallScriptScript : Script where
  names := ["khitansmallscript", "kits"]
  runs :=
    [.span 0x16FE4 0x16FE4, .span 0x18B00 0x18CD5, .span 0x18CFF 0x18CFF]

def kannadaScript : Script where
  names := ["kannada", "knda"]
  runs :=
    [.span 0xC80 0xC8C, .span 0xC8E 0xC90, .span 0xC92 0xCA8, .span 0xCAA 0xCB3,
      .span 0xCB5 0xCB9, .span 0xCBC 0xCC4, .span 0xCC6 0xCC8, .span 0xCCA 0xCCD,
      .span 0xCD5 0xCD6, .span 0xCDC 0xCDE, .span 0xCE0 0xCE3, .span 0xCE6 0xCEF,
      .span 0xCF1 0xCF3]

def kiratRaiScript : Script where
  names := ["kiratrai", "krai"]
  runs :=
    [.span 0x16D40 0x16D79]

def kaithiScript : Script where
  names := ["kaithi", "kthi"]
  runs :=
    [.span 0x11080 0x110C2, .span 0x110CD 0x110CD]

def laoScript : Script where
  names := ["lao", "laoo"]
  runs :=
    [.span 0xE81 0xE82, .span 0xE84 0xE84, .span 0xE86 0xE8A, .span 0xE8C 0xEA3,
      .span 0xEA5 0xEA5, .span 0xEA7 0xEBD, .span 0xEC0 0xEC4, .span 0xEC6 0xEC6,
      .span 0xEC8 0xECE, .span 0xED0 0xED9, .span 0xEDC 0xEDF]

def latinScript : Script where
  names := ["latin", "latn"]
  runs :=
    [.span 0x41 0x5A, .span 0x61 0x7A, .span 0xAA 0xAA, .span 0xBA 0xBA, .span 0xC0 0xD6,
      .span 0xD8 0xF6, .span 0xF8 0x2B8, .span 0x2E0 0x2E4, .span 0x1D00 0x1D25,
      .span 0x1D2C 0x1D5C, .span 0x1D62 0x1D65, .span 0x1D6B 0x1D77, .span 0x1D79 0x1DBE,
      .span 0x1E00 0x1EFF, .span 0x2071 0x2071, .span 0x207F 0x207F, .span 0x2090 0x209C,
      .span 0x212A 0x212B, .span 0x2132 0x2132, .span 0x214E 0x214E, .span 0x2160 0x2188,
      .span 0x2C60 0x2C7F, .span 0xA722 0xA787, .span 0xA78B 0xA7DC, .span 0xA7F1 0xA7FF,
      .span 0xAB30 0xAB5A, .span 0xAB5C 0xAB64, .span 0xAB66 0xAB69, .span 0xFB00 0xFB06,
      .span 0xFF21 0xFF3A, .span 0xFF41 0xFF5A, .span 0x10780 0x10785, .span 0x10787 0x107B0,
      .span 0x107B2 0x107BA, .span 0x1DF00 0x1DF1E, .span 0x1DF25 0x1DF2A]

def lepchaScript : Script where
  names := ["lepc", "lepcha"]
  runs :=
    [.span 0x1C00 0x1C37, .span 0x1C3B 0x1C49, .span 0x1C4D 0x1C4F]

def limbuScript : Script where
  names := ["limb", "limbu"]
  runs :=
    [.span 0x1900 0x191E, .span 0x1920 0x192B, .span 0x1930 0x193B, .span 0x1940 0x1940,
      .span 0x1944 0x194F]

def linearAScript : Script where
  names := ["lina", "lineara"]
  runs :=
    [.span 0x10600 0x10736, .span 0x10740 0x10755, .span 0x10760 0x10767]

def linearBScript : Script where
  names := ["linb", "linearb"]
  runs :=
    [.span 0x10000 0x1000B, .span 0x1000D 0x10026, .span 0x10028 0x1003A,
      .span 0x1003C 0x1003D, .span 0x1003F 0x1004D, .span 0x10050 0x1005D,
      .span 0x10080 0x100FA]

def lisuScript : Script where
  names := ["lisu"]
  runs :=
    [.span 0xA4D0 0xA4FF, .span 0x11FB0 0x11FB0]

def lycianScript : Script where
  names := ["lyci", "lycian"]
  runs :=
    [.span 0x10280 0x1029C]

def lydianScript : Script where
  names := ["lydi", "lydian"]
  runs :=
    [.span 0x10920 0x10939, .span 0x1093F 0x1093F]

def mahajaniScript : Script where
  names := ["mahajani", "mahj"]
  runs :=
    [.span 0x11150 0x11176]

def makasarScript : Script where
  names := ["maka", "makasar"]
  runs :=
    [.span 0x11EE0 0x11EF8]

def mandaicScript : Script where
  names := ["mand", "mandaic"]
  runs :=
    [.span 0x840 0x85B, .span 0x85E 0x85E]

def manichaeanScript : Script where
  names := ["mani", "manichaean"]
  runs :=
    [.span 0x10AC0 0x10AE6, .span 0x10AEB 0x10AF6]

def marchenScript : Script where
  names := ["marc", "marchen"]
  runs :=
    [.span 0x11C70 0x11C8F, .span 0x11C92 0x11CA7, .span 0x11CA9 0x11CB6]

def masaramGondiScript : Script where
  names := ["gonm", "masaramgondi"]
  runs :=
    [.span 0x11D00 0x11D06, .span 0x11D08 0x11D09, .span 0x11D0B 0x11D36,
      .span 0x11D3A 0x11D3A, .span 0x11D3C 0x11D3D, .span 0x11D3F 0x11D47,
      .span 0x11D50 0x11D59]

def medefaidrinScript : Script where
  names := ["medefaidrin", "medf"]
  runs :=
    [.span 0x16E40 0x16E9A]

def mendeKikakuiScript : Script where
  names := ["mend", "mendekikakui"]
  runs :=
    [.span 0x1E800 0x1E8C4, .span 0x1E8C7 0x1E8D6]

def meroiticCursiveScript : Script where
  names := ["merc", "meroiticcursive"]
  runs :=
    [.span 0x109A0 0x109B7, .span 0x109BC 0x109CF, .span 0x109D2 0x109FF]

def meroiticHieroglyphsScript : Script where
  names := ["mero", "meroitichieroglyphs"]
  runs :=
    [.span 0x10980 0x1099F]

def malayalamScript : Script where
  names := ["malayalam", "mlym"]
  runs :=
    [.span 0xD00 0xD0C, .span 0xD0E 0xD10, .span 0xD12 0xD44, .span 0xD46 0xD48,
      .span 0xD4A 0xD4F, .span 0xD54 0xD63, .span 0xD66 0xD7F]

def modiScript : Script where
  names := ["modi"]
  runs :=
    [.span 0x11600 0x11644, .span 0x11650 0x11659]

def mongolianScript : Script where
  names := ["mong", "mongolian"]
  runs :=
    [.span 0x1800 0x1801, .span 0x1804 0x1804, .span 0x1806 0x1819, .span 0x1820 0x1878,
      .span 0x1880 0x18AA, .span 0x11660 0x1166C]

def mroScript : Script where
  names := ["mro", "mroo"]
  runs :=
    [.span 0x16A40 0x16A5E, .span 0x16A60 0x16A69, .span 0x16A6E 0x16A6F]

def meeteiMayekScript : Script where
  names := ["meeteimayek", "mtei"]
  runs :=
    [.span 0xAAE0 0xAAF6, .span 0xABC0 0xABED, .span 0xABF0 0xABF9]

def multaniScript : Script where
  names := ["mult", "multani"]
  runs :=
    [.span 0x11280 0x11286, .span 0x11288 0x11288, .span 0x1128A 0x1128D,
      .span 0x1128F 0x1129D, .span 0x1129F 0x112A9]

def myanmarScript : Script where
  names := ["myanmar", "mymr"]
  runs :=
    [.span 0x1000 0x109F, .span 0xA9E0 0xA9FE, .span 0xAA60 0xAA7F, .span 0x116D0 0x116E3]

def nagMundariScript : Script where
  names := ["nagm", "nagmundari"]
  runs :=
    [.span 0x1E4D0 0x1E4F9]

def nandinagariScript : Script where
  names := ["nand", "nandinagari"]
  runs :=
    [.span 0x119A0 0x119A7, .span 0x119AA 0x119D7, .span 0x119DA 0x119E4]

def nabataeanScript : Script where
  names := ["nabataean", "nbat"]
  runs :=
    [.span 0x10880 0x1089E, .span 0x108A7 0x108AF]

def newaScript : Script where
  names := ["newa"]
  runs :=
    [.span 0x11400 0x1145B, .span 0x1145D 0x11461]

def nkoScript : Script where
  names := ["nko", "nkoo"]
  runs :=
    [.span 0x7C0 0x7FA, .span 0x7FD 0x7FF]

def nushuScript : Script where
  names := ["nshu", "nushu"]
  runs :=
    [.span 0x16FE1 0x16FE1, .span 0x1B170 0x1B2FB]

def nyiakengPuachueHmongScript : Script where
  names := ["hmnp", "nyiakengpuachuehmong"]
  runs :=
    [.span 0x1E100 0x1E12C, .span 0x1E130 0x1E13D, .span 0x1E140 0x1E149,
      .span 0x1E14E 0x1E14F]

def oghamScript : Script where
  names := ["ogam", "ogham"]
  runs :=
    [.span 0x1680 0x169C]

def olChikiScript : Script where
  names := ["olchiki", "olck"]
  runs :=
    [.span 0x1C50 0x1C7F]

def oldHungarianScript : Script where
  names := ["hung", "oldhungarian"]
  runs :=
    [.span 0x10C80 0x10CB2, .span 0x10CC0 0x10CF2, .span 0x10CFA 0x10CFF]

def oldItalicScript : Script where
  names := ["ital", "olditalic"]
  runs :=
    [.span 0x10300 0x10323, .span 0x1032D 0x1032F]

def oldNorthArabianScript : Script where
  names := ["narb", "oldnortharabian"]
  runs :=
    [.span 0x10A80 0x10A9F]

def olOnalScript : Script where
  names := ["olonal", "onao"]
  runs :=
    [.span 0x1E5D0 0x1E5FA, .span 0x1E5FF 0x1E5FF]

def oldTurkicScript : Script where
  names := ["oldturkic", "orkh"]
  runs :=
    [.span 0x10C00 0x10C48]

def oriyaScript : Script where
  names := ["oriya", "orya"]
  runs :=
    [.span 0xB01 0xB03, .span 0xB05 0xB0C, .span 0xB0F 0xB10, .span 0xB13 0xB28,
      .span 0xB2A 0xB30, .span 0xB32 0xB33, .span 0xB35 0xB39, .span 0xB3C 0xB44,
      .span 0xB47 0xB48, .span 0xB4B 0xB4D, .span 0xB55 0xB57, .span 0xB5C 0xB5D,
      .span 0xB5F 0xB63, .span 0xB66 0xB77]

def osageScript : Script where
  names := ["osage", "osge"]
  runs :=
    [.span 0x104B0 0x104D3, .span 0x104D8 0x104FB]

def osmanyaScript : Script where
  names := ["osma", "osmanya"]
  runs :=
    [.span 0x10480 0x1049D, .span 0x104A0 0x104A9]

def oldUyghurScript : Script where
  names := ["olduyghur", "ougr"]
  runs :=
    [.span 0x10F70 0x10F89]

def pahawhHmongScript : Script where
  names := ["hmng", "pahawhhmong"]
  runs :=
    [.span 0x16B00 0x16B45, .span 0x16B50 0x16B59, .span 0x16B5B 0x16B61,
      .span 0x16B63 0x16B77, .span 0x16B7D 0x16B8F]

def palmyreneScript : Script where
  names := ["palm", "palmyrene"]
  runs :=
    [.span 0x10860 0x1087F]

def pauCinHauScript : Script where
  names := ["pauc", "paucinhau"]
  runs :=
    [.span 0x11AC0 0x11AF8]

def oldPermicScript : Script where
  names := ["oldpermic", "perm"]
  runs :=
    [.span 0x10350 0x1037A]

def phagsPaScript : Script where
  names := ["phag", "phagspa"]
  runs :=
    [.span 0xA840 0xA877]

def inscriptionalPahlaviScript : Script where
  names := ["inscriptionalpahlavi", "phli"]
  runs :=
    [.span 0x10B60 0x10B72, .span 0x10B78 0x10B7F]

def phoenicianScript : Script where
  names := ["phnx", "phoenician"]
  runs :=
    [.span 0x10900 0x1091B, .span 0x1091F 0x1091F]

def miaoScript : Script where
  names := ["miao", "plrd"]
  runs :=
    [.span 0x16F00 0x16F4A, .span 0x16F4F 0x16F87, .span 0x16F8F 0x16F9F]

def inscriptionalParthianScript : Script where
  names := ["inscriptionalparthian", "prti"]
  runs :=
    [.span 0x10B40 0x10B55, .span 0x10B58 0x10B5F]

def psalterPahlaviScript : Script where
  names := ["phlp", "psalterpahlavi"]
  runs :=
    [.span 0x10B80 0x10B91, .span 0x10B99 0x10B9C, .span 0x10BA9 0x10BAF]

def copticScript : Script where
  names := ["copt", "coptic", "qaac"]
  runs :=
    [.span 0x3E2 0x3EF, .span 0x2C80 0x2CF3, .span 0x2CF9 0x2CFF]

def rejangScript : Script where
  names := ["rejang", "rjng"]
  runs :=
    [.span 0xA930 0xA953, .span 0xA95F 0xA95F]

def hanifiRohingyaScript : Script where
  names := ["hanifirohingya", "rohg"]
  runs :=
    [.span 0x10D00 0x10D27, .span 0x10D30 0x10D39]

def runicScript : Script where
  names := ["runic", "runr"]
  runs :=
    [.span 0x16A0 0x16EA, .span 0x16EE 0x16F8]

def samaritanScript : Script where
  names := ["samaritan", "samr"]
  runs :=
    [.span 0x800 0x82D, .span 0x830 0x83E]

def oldSouthArabianScript : Script where
  names := ["oldsoutharabian", "sarb"]
  runs :=
    [.span 0x10A60 0x10A7F]

def saurashtraScript : Script where
  names := ["saur", "saurashtra"]
  runs :=
    [.span 0xA880 0xA8C5, .span 0xA8CE 0xA8D9]

def shavianScript : Script where
  names := ["shavian", "shaw"]
  runs :=
    [.span 0x10450 0x1047F]

def sharadaScript : Script where
  names := ["sharada", "shrd"]
  runs :=
    [.span 0x11180 0x111DF, .span 0x11B60 0x11B67]

def siddhamScript : Script where
  names := ["sidd", "siddham"]
  runs :=
    [.span 0x11580 0x115B5, .span 0x115B8 0x115DD]

def signwritingScript : Script where
  names := ["sgnw", "signwriting"]
  runs :=
    [.span 0x1D800 0x1DA8B, .span 0x1DA9B 0x1DA9F, .span 0x1DAA1 0x1DAAF]

def khudawadiScript : Script where
  names := ["khudawadi", "sind"]
  runs :=
    [.span 0x112B0 0x112EA, .span 0x112F0 0x112F9]

def sinhalaScript : Script where
  names := ["sinh", "sinhala"]
  runs :=
    [.span 0xD81 0xD83, .span 0xD85 0xD96, .span 0xD9A 0xDB1, .span 0xDB3 0xDBB,
      .span 0xDBD 0xDBD, .span 0xDC0 0xDC6, .span 0xDCA 0xDCA, .span 0xDCF 0xDD4,
      .span 0xDD6 0xDD6, .span 0xDD8 0xDDF, .span 0xDE6 0xDEF, .span 0xDF2 0xDF4,
      .span 0x111E1 0x111F4]

def sogdianScript : Script where
  names := ["sogd", "sogdian"]
  runs :=
    [.span 0x10F30 0x10F59]

def oldSogdianScript : Script where
  names := ["oldsogdian", "sogo"]
  runs :=
    [.span 0x10F00 0x10F27]

def soraSompengScript : Script where
  names := ["sora", "sorasompeng"]
  runs :=
    [.span 0x110D0 0x110E8, .span 0x110F0 0x110F9]

def soyomboScript : Script where
  names := ["soyo", "soyombo"]
  runs :=
    [.span 0x11A50 0x11AA2]

def sundaneseScript : Script where
  names := ["sund", "sundanese"]
  runs :=
    [.span 0x1B80 0x1BBF, .span 0x1CC0 0x1CC7]

def sunuwarScript : Script where
  names := ["sunu", "sunuwar"]
  runs :=
    [.span 0x11BC0 0x11BE1, .span 0x11BF0 0x11BF9]

def sylotiNagriScript : Script where
  names := ["sylo", "sylotinagri"]
  runs :=
    [.span 0xA800 0xA82C]

def syriacScript : Script where
  names := ["syrc", "syriac"]
  runs :=
    [.span 0x700 0x70D, .span 0x70F 0x74A, .span 0x74D 0x74F, .span 0x860 0x86A]

def tagbanwaScript : Script where
  names := ["tagb", "tagbanwa"]
  runs :=
    [.span 0x1760 0x176C, .span 0x176E 0x1770, .span 0x1772 0x1773]

def taiThamScript : Script where
  names := ["lana", "taitham"]
  runs :=
    [.span 0x1A20 0x1A5E, .span 0x1A60 0x1A7C, .span 0x1A7F 0x1A89, .span 0x1A90 0x1A99,
      .span 0x1AA0 0x1AAD]

def takriScript : Script where
  names := ["takr", "takri"]
  runs :=
    [.span 0x11680 0x116B9, .span 0x116C0 0x116C9]

def taiLeScript : Script where
  names := ["taile", "tale"]
  runs :=
    [.span 0x1950 0x196D, .span 0x1970 0x1974]

def newTaiLueScript : Script where
  names := ["newtailue", "talu"]
  runs :=
    [.span 0x1980 0x19AB, .span 0x19B0 0x19C9, .span 0x19D0 0x19DA, .span 0x19DE 0x19DF]

def tamilScript : Script where
  names := ["tamil", "taml"]
  runs :=
    [.span 0xB82 0xB83, .span 0xB85 0xB8A, .span 0xB8E 0xB90, .span 0xB92 0xB95,
      .span 0xB99 0xB9A, .span 0xB9C 0xB9C, .span 0xB9E 0xB9F, .span 0xBA3 0xBA4,
      .span 0xBA8 0xBAA, .span 0xBAE 0xBB9, .span 0xBBE 0xBC2, .span 0xBC6 0xBC8,
      .span 0xBCA 0xBCD, .span 0xBD0 0xBD0, .span 0xBD7 0xBD7, .span 0xBE6 0xBFA,
      .span 0x11FC0 0x11FF1, .span 0x11FFF 0x11FFF]

def tangutScript : Script where
  names := ["tang", "tangut"]
  runs :=
    [.span 0x16FE0 0x16FE0, .span 0x17000 0x18AFF, .span 0x18D00 0x18D1E,
      .span 0x18D80 0x18DF2]

def taiVietScript : Script where
  names := ["taiviet", "tavt"]
  runs :=
    [.span 0xAA80 0xAAC2, .span 0xAADB 0xAADF]

def teluguScript : Script where
  names := ["telu", "telugu"]
  runs :=
    [.span 0xC00 0xC0C, .span 0xC0E 0xC10, .span 0xC12 0xC28, .span 0xC2A 0xC39,
      .span 0xC3C 0xC44, .span 0xC46 0xC48, .span 0xC4A 0xC4D, .span 0xC55 0xC56,
      .span 0xC58 0xC5A, .span 0xC5C 0xC5D, .span 0xC60 0xC63, .span 0xC66 0xC6F,
      .span 0xC77 0xC7F]

def tagalogScript : Script where
  names := ["tagalog", "tglg"]
  runs :=
    [.span 0x1700 0x1715, .span 0x171F 0x171F]

def thaanaScript : Script where
  names := ["thaa", "thaana"]
  runs :=
    [.span 0x780 0x7B1]

def thaiScript : Script where
  names := ["thai"]
  runs :=
    [.span 0xE01 0xE3A, .span 0xE40 0xE5B]

def tibetanScript : Script where
  names := ["tibetan", "tibt"]
  runs :=
    [.span 0xF00 0xF47, .span 0xF49 0xF6C, .span 0xF71 0xF97, .span 0xF99 0xFBC,
      .span 0xFBE 0xFCC, .span 0xFCE 0xFD4, .span 0xFD9 0xFDA]

def tifinaghScript : Script where
  names := ["tfng", "tifinagh"]
  runs :=
    [.span 0x2D30 0x2D67, .span 0x2D6F 0x2D70, .span 0x2D7F 0x2D7F]

def tirhutaScript : Script where
  names := ["tirh", "tirhuta"]
  runs :=
    [.span 0x11480 0x114C7, .span 0x114D0 0x114D9]

def tangsaScript : Script where
  names := ["tangsa", "tnsa"]
  runs :=
    [.span 0x16A70 0x16ABE, .span 0x16AC0 0x16AC9]

def todhriScript : Script where
  names := ["todhri", "todr"]
  runs :=
    [.span 0x105C0 0x105F3]

def totoScript : Script where
  names := ["toto"]
  runs :=
    [.span 0x1E290 0x1E2AE]

def tuluTigalariScript : Script where
  names := ["tulutigalari", "tutg"]
  runs :=
    [.span 0x11380 0x11389, .span 0x1138B 0x1138B, .span 0x1138E 0x1138E,
      .span 0x11390 0x113B5, .span 0x113B7 0x113C0, .span 0x113C2 0x113C2,
      .span 0x113C5 0x113C5, .span 0x113C7 0x113CA, .span 0x113CC 0x113D5,
      .span 0x113D7 0x113D8, .span 0x113E1 0x113E2]

def ugariticScript : Script where
  names := ["ugar", "ugaritic"]
  runs :=
    [.span 0x10380 0x1039D, .span 0x1039F 0x1039F]

def vaiScript : Script where
  names := ["vai", "vaii"]
  runs :=
    [.span 0xA500 0xA62B]

def vithkuqiScript : Script where
  names := ["vith", "vithkuqi"]
  runs :=
    [.span 0x10570 0x1057A, .span 0x1057C 0x1058A, .span 0x1058C 0x10592,
      .span 0x10594 0x10595, .span 0x10597 0x105A1, .span 0x105A3 0x105B1,
      .span 0x105B3 0x105B9, .span 0x105BB 0x105BC]

def warangCitiScript : Script where
  names := ["wara", "warangciti"]
  runs :=
    [.span 0x118A0 0x118F2, .span 0x118FF 0x118FF]

def wanchoScript : Script where
  names := ["wancho", "wcho"]
  runs :=
    [.span 0x1E2C0 0x1E2F9, .span 0x1E2FF 0x1E2FF]

def oldPersianScript : Script where
  names := ["oldpersian", "xpeo"]
  runs :=
    [.span 0x103A0 0x103C3, .span 0x103C8 0x103D5]

def cuneiformScript : Script where
  names := ["cuneiform", "xsux"]
  runs :=
    [.span 0x12000 0x12399, .span 0x12400 0x1246E, .span 0x12470 0x12474,
      .span 0x12480 0x12543]

def yezidiScript : Script where
  names := ["yezi", "yezidi"]
  runs :=
    [.span 0x10E80 0x10EA9, .span 0x10EAB 0x10EAD, .span 0x10EB0 0x10EB1]

def yiScript : Script where
  names := ["yi", "yiii"]
  runs :=
    [.span 0xA000 0xA48C, .span 0xA490 0xA4C6]

def zanabazarSquareScript : Script where
  names := ["zanabazarsquare", "zanb"]
  runs :=
    [.span 0x11A00 0x11A47]

def inheritedScript : Script where
  names := ["inherited", "qaai", "zinh"]
  runs :=
    [.span 0x300 0x36F, .span 0x485 0x486, .span 0x64B 0x655, .span 0x670 0x670,
      .span 0x951 0x954, .span 0x1AB0 0x1ADD, .span 0x1AE0 0x1AEB, .span 0x1CD0 0x1CD2,
      .span 0x1CD4 0x1CE0, .span 0x1CE2 0x1CE8, .span 0x1CED 0x1CED, .span 0x1CF4 0x1CF4,
      .span 0x1CF8 0x1CF9, .span 0x1DC0 0x1DFF, .span 0x200C 0x200D, .span 0x20D0 0x20F0,
      .span 0x302A 0x302D, .span 0x3099 0x309A, .span 0xFE00 0xFE0F, .span 0xFE20 0xFE2D,
      .span 0x101FD 0x101FD, .span 0x102E0 0x102E0, .span 0x1133B 0x1133B,
      .span 0x1CF00 0x1CF2D, .span 0x1CF30 0x1CF46, .span 0x1D167 0x1D169,
      .span 0x1D17B 0x1D182, .span 0x1D185 0x1D18B, .span 0x1D1AA 0x1D1AD,
      .span 0xE0100 0xE01EF]

def commonScript : Script where
  names := ["common", "zyyy"]
  runs :=
    [.span 0x00 0x40, .span 0x5B 0x60, .span 0x7B 0xA9, .span 0xAB 0xB9, .span 0xBB 0xBF,
      .span 0xD7 0xD7, .span 0xF7 0xF7, .span 0x2B9 0x2DF, .span 0x2E5 0x2E9, .span 0x2EC 0x2FF,
      .span 0x374 0x374, .span 0x37E 0x37E, .span 0x385 0x385, .span 0x387 0x387,
      .span 0x605 0x605, .span 0x60C 0x60C, .span 0x61B 0x61B, .span 0x61F 0x61F,
      .span 0x640 0x640, .span 0x6DD 0x6DD, .span 0x8E2 0x8E2, .span 0x964 0x965,
      .span 0xE3F 0xE3F, .span 0xFD5 0xFD8, .span 0x10FB 0x10FB, .span 0x16EB 0x16ED,
      .span 0x1735 0x1736, .span 0x1802 0x1803, .span 0x1805 0x1805, .span 0x1CD3 0x1CD3,
      .span 0x1CE1 0x1CE1, .span 0x1CE9 0x1CEC, .span 0x1CEE 0x1CF3, .span 0x1CF5 0x1CF7,
      .span 0x1CFA 0x1CFA, .span 0x2000 0x200B, .span 0x200E 0x2064, .span 0x2066 0x2070,
      .span 0x2074 0x207E, .span 0x2080 0x208E, .span 0x20A0 0x20C1, .span 0x2100 0x2125,
      .span 0x2127 0x2129, .span 0x212C 0x2131, .span 0x2133 0x214D, .span 0x214F 0x215F,
      .span 0x2189 0x218B, .span 0x2190 0x2429, .span 0x2440 0x244A, .span 0x2460 0x27FF,
      .span 0x2900 0x2B73, .span 0x2B76 0x2BFF, .span 0x2E00 0x2E5D, .span 0x2FF0 0x3004,
      .span 0x3006 0x3006, .span 0x3008 0x3020, .span 0x3030 0x3037, .span 0x303C 0x303F,
      .span 0x309B 0x309C, .span 0x30A0 0x30A0, .span 0x30FB 0x30FC, .span 0x3190 0x319F,
      .span 0x31C0 0x31E5, .span 0x31EF 0x31EF, .span 0x3220 0x325F, .span 0x327F 0x32CF,
      .span 0x32FF 0x32FF, .span 0x3358 0x33FF, .span 0x4DC0 0x4DFF, .span 0xA700 0xA721,
      .span 0xA788 0xA78A, .span 0xA830 0xA839, .span 0xA92E 0xA92E, .span 0xA9CF 0xA9CF,
      .span 0xAB5B 0xAB5B, .span 0xAB6A 0xAB6B, .span 0xFD3E 0xFD3F, .span 0xFE10 0xFE19,
      .span 0xFE30 0xFE52, .span 0xFE54 0xFE66, .span 0xFE68 0xFE6B, .span 0xFEFF 0xFEFF,
      .span 0xFF01 0xFF20, .span 0xFF3B 0xFF40, .span 0xFF5B 0xFF65, .span 0xFF70 0xFF70,
      .span 0xFF9E 0xFF9F, .span 0xFFE0 0xFFE6, .span 0xFFE8 0xFFEE, .span 0xFFF9 0xFFFD,
      .span 0x10100 0x10102, .span 0x10107 0x10133, .span 0x10137 0x1013F,
      .span 0x10190 0x1019C, .span 0x101D0 0x101FC, .span 0x102E1 0x102FB,
      .span 0x1BCA0 0x1BCA3, .span 0x1CC00 0x1CCFC, .span 0x1CD00 0x1CEB3,
      .span 0x1CEBA 0x1CED0, .span 0x1CEE0 0x1CEF0, .span 0x1CF50 0x1CFC3,
      .span 0x1D000 0x1D0F5, .span 0x1D100 0x1D126, .span 0x1D129 0x1D166,
      .span 0x1D16A 0x1D17A, .span 0x1D183 0x1D184, .span 0x1D18C 0x1D1A9,
      .span 0x1D1AE 0x1D1EA, .span 0x1D2C0 0x1D2D3, .span 0x1D2E0 0x1D2F3,
      .span 0x1D300 0x1D356, .span 0x1D360 0x1D378, .span 0x1D400 0x1D454,
      .span 0x1D456 0x1D49C, .span 0x1D49E 0x1D49F, .span 0x1D4A2 0x1D4A2,
      .span 0x1D4A5 0x1D4A6, .span 0x1D4A9 0x1D4AC, .span 0x1D4AE 0x1D4B9,
      .span 0x1D4BB 0x1D4BB, .span 0x1D4BD 0x1D4C3, .span 0x1D4C5 0x1D505,
      .span 0x1D507 0x1D50A, .span 0x1D50D 0x1D514, .span 0x1D516 0x1D51C,
      .span 0x1D51E 0x1D539, .span 0x1D53B 0x1D53E, .span 0x1D540 0x1D544,
      .span 0x1D546 0x1D546, .span 0x1D54A 0x1D550, .span 0x1D552 0x1D6A5,
      .span 0x1D6A8 0x1D7CB, .span 0x1D7CE 0x1D7FF, .span 0x1EC71 0x1ECB4,
      .span 0x1ED01 0x1ED3D, .span 0x1F000 0x1F02B, .span 0x1F030 0x1F093,
      .span 0x1F0A0 0x1F0AE, .span 0x1F0B1 0x1F0BF, .span 0x1F0C1 0x1F0CF,
      .span 0x1F0D1 0x1F0F5, .span 0x1F100 0x1F1AD, .span 0x1F1E6 0x1F1FF,
      .span 0x1F201 0x1F202, .span 0x1F210 0x1F23B, .span 0x1F240 0x1F248,
      .span 0x1F250 0x1F251, .span 0x1F260 0x1F265, .span 0x1F300 0x1F6D8,
      .span 0x1F6DC 0x1F6EC, .span 0x1F6F0 0x1F6FC, .span 0x1F700 0x1F7D9,
      .span 0x1F7E0 0x1F7EB, .span 0x1F7F0 0x1F7F0, .span 0x1F800 0x1F80B,
      .span 0x1F810 0x1F847, .span 0x1F850 0x1F859, .span 0x1F860 0x1F887,
      .span 0x1F890 0x1F8AD, .span 0x1F8B0 0x1F8BB, .span 0x1F8C0 0x1F8C1,
      .span 0x1F8D0 0x1F8D8, .span 0x1F900 0x1FA57, .span 0x1FA60 0x1FA6D,
      .span 0x1FA70 0x1FA7C, .span 0x1FA80 0x1FA8A, .span 0x1FA8E 0x1FAC6,
      .span 0x1FAC8 0x1FAC8, .span 0x1FACD 0x1FADC, .span 0x1FADF 0x1FAEA,
      .span 0x1FAEF 0x1FAF8, .span 0x1FB00 0x1FB92, .span 0x1FB94 0x1FBFA,
      .span 0xE0001 0xE0001, .span 0xE0020 0xE007F]

def unknownScript : Script where
  names := ["unknown", "zzzz"]
  runs :=
    [.span 0x378 0x379, .span 0x380 0x383, .span 0x38B 0x38B, .span 0x38D 0x38D,
      .span 0x3A2 0x3A2, .span 0x530 0x530, .span 0x557 0x558, .span 0x58B 0x58C,
      .span 0x590 0x590, .span 0x5C8 0x5CF, .span 0x5EB 0x5EE, .span 0x5F5 0x5FF,
      .span 0x70E 0x70E, .span 0x74B 0x74C, .span 0x7B2 0x7BF, .span 0x7FB 0x7FC,
      .span 0x82E 0x82F, .span 0x83F 0x83F, .span 0x85C 0x85D, .span 0x85F 0x85F,
      .span 0x86B 0x86F, .span 0x892 0x896, .span 0x984 0x984, .span 0x98D 0x98E,
      .span 0x991 0x992, .span 0x9A9 0x9A9, .span 0x9B1 0x9B1, .span 0x9B3 0x9B5,
      .span 0x9BA 0x9BB, .span 0x9C5 0x9C6, .span 0x9C9 0x9CA, .span 0x9CF 0x9D6,
      .span 0x9D8 0x9DB, .span 0x9DE 0x9DE, .span 0x9E4 0x9E5, .span 0x9FF 0xA00,
      .span 0xA04 0xA04, .span 0xA0B 0xA0E, .span 0xA11 0xA12, .span 0xA29 0xA29,
      .span 0xA31 0xA31, .span 0xA34 0xA34, .span 0xA37 0xA37, .span 0xA3A 0xA3B,
      .span 0xA3D 0xA3D, .span 0xA43 0xA46, .span 0xA49 0xA4A, .span 0xA4E 0xA50,
      .span 0xA52 0xA58, .span 0xA5D 0xA5D, .span 0xA5F 0xA65, .span 0xA77 0xA80,
      .span 0xA84 0xA84, .span 0xA8E 0xA8E, .span 0xA92 0xA92, .span 0xAA9 0xAA9,
      .span 0xAB1 0xAB1, .span 0xAB4 0xAB4, .span 0xABA 0xABB, .span 0xAC6 0xAC6,
      .span 0xACA 0xACA, .span 0xACE 0xACF, .span 0xAD1 0xADF, .span 0xAE4 0xAE5,
      .span 0xAF2 0xAF8, .span 0xB00 0xB00, .span 0xB04 0xB04, .span 0xB0D 0xB0E,
      .span 0xB11 0xB12, .span 0xB29 0xB29, .span 0xB31 0xB31, .span 0xB34 0xB34,
      .span 0xB3A 0xB3B, .span 0xB45 0xB46, .span 0xB49 0xB4A, .span 0xB4E 0xB54,
      .span 0xB58 0xB5B, .span 0xB5E 0xB5E, .span 0xB64 0xB65, .span 0xB78 0xB81,
      .span 0xB84 0xB84, .span 0xB8B 0xB8D, .span 0xB91 0xB91, .span 0xB96 0xB98,
      .span 0xB9B 0xB9B, .span 0xB9D 0xB9D, .span 0xBA0 0xBA2, .span 0xBA5 0xBA7,
      .span 0xBAB 0xBAD, .span 0xBBA 0xBBD, .span 0xBC3 0xBC5, .span 0xBC9 0xBC9,
      .span 0xBCE 0xBCF, .span 0xBD1 0xBD6, .span 0xBD8 0xBE5, .span 0xBFB 0xBFF,
      .span 0xC0D 0xC0D, .span 0xC11 0xC11, .span 0xC29 0xC29, .span 0xC3A 0xC3B,
      .span 0xC45 0xC45, .span 0xC49 0xC49, .span 0xC4E 0xC54, .span 0xC57 0xC57,
      .span 0xC5B 0xC5B, .span 0xC5E 0xC5F, .span 0xC64 0xC65, .span 0xC70 0xC76,
      .span 0xC8D 0xC8D, .span 0xC91 0xC91, .span 0xCA9 0xCA9, .span 0xCB4 0xCB4,
      .span 0xCBA 0xCBB, .span 0xCC5 0xCC5, .span 0xCC9 0xCC9, .span 0xCCE 0xCD4,
      .span 0xCD7 0xCDB, .span 0xCDF 0xCDF, .span 0xCE4 0xCE5, .span 0xCF0 0xCF0,
      .span 0xCF4 0xCFF, .span 0xD0D 0xD0D, .span 0xD11 0xD11, .span 0xD45 0xD45,
      .span 0xD49 0xD49, .span 0xD50 0xD53, .span 0xD64 0xD65, .span 0xD80 0xD80,
      .span 0xD84 0xD84, .span 0xD97 0xD99, .span 0xDB2 0xDB2, .span 0xDBC 0xDBC,
      .span 0xDBE 0xDBF, .span 0xDC7 0xDC9, .span 0xDCB 0xDCE, .span 0xDD5 0xDD5,
      .span 0xDD7 0xDD7, .span 0xDE0 0xDE5, .span 0xDF0 0xDF1, .span 0xDF5 0xE00,
      .span 0xE3B 0xE3E, .span 0xE5C 0xE80, .span 0xE83 0xE83, .span 0xE85 0xE85,
      .span 0xE8B 0xE8B, .span 0xEA4 0xEA4, .span 0xEA6 0xEA6, .span 0xEBE 0xEBF,
      .span 0xEC5 0xEC5, .span 0xEC7 0xEC7, .span 0xECF 0xECF, .span 0xEDA 0xEDB,
      .span 0xEE0 0xEFF, .span 0xF48 0xF48, .span 0xF6D 0xF70, .span 0xF98 0xF98,
      .span 0xFBD 0xFBD, .span 0xFCD 0xFCD, .span 0xFDB 0xFFF, .span 0x10C6 0x10C6,
      .span 0x10C8 0x10CC, .span 0x10CE 0x10CF, .span 0x1249 0x1249, .span 0x124E 0x124F,
      .span 0x1257 0x1257, .span 0x1259 0x1259, .span 0x125E 0x125F, .span 0x1289 0x1289,
      .span 0x128E 0x128F, .span 0x12B1 0x12B1, .span 0x12B6 0x12B7, .span 0x12BF 0x12BF,
      .span 0x12C1 0x12C1, .span 0x12C6 0x12C7, .span 0x12D7 0x12D7, .span 0x1311 0x1311,
      .span 0x1316 0x1317, .span 0x135B 0x135C, .span 0x137D 0x137F, .span 0x139A 0x139F,
      .span 0x13F6 0x13F7, .span 0x13FE 0x13FF, .span 0x169D 0x169F, .span 0x16F9 0x16FF,
      .span 0x1716 0x171E, .span 0x1737 0x173F, .span 0x1754 0x175F, .span 0x176D 0x176D,
      .span 0x1771 0x1771, .span 0x1774 0x177F, .span 0x17DE 0x17DF, .span 0x17EA 0x17EF,
      .span 0x17FA 0x17FF, .span 0x181A 0x181F, .span 0x1879 0x187F, .span 0x18AB 0x18AF,
      .span 0x18F6 0x18FF, .span 0x191F 0x191F, .span 0x192C 0x192F, .span 0x193C 0x193F,
      .span 0x1941 0x1943, .span 0x196E 0x196F, .span 0x1975 0x197F, .span 0x19AC 0x19AF,
      .span 0x19CA 0x19CF, .span 0x19DB 0x19DD, .span 0x1A1C 0x1A1D, .span 0x1A5F 0x1A5F,
      .span 0x1A7D 0x1A7E, .span 0x1A8A 0x1A8F, .span 0x1A9A 0x1A9F, .span 0x1AAE 0x1AAF,
      .span 0x1ADE 0x1ADF, .span 0x1AEC 0x1AFF, .span 0x1B4D 0x1B4D, .span 0x1BF4 0x1BFB,
      .span 0x1C38 0x1C3A, .span 0x1C4A 0x1C4C, .span 0x1C8B 0x1C8F, .span 0x1CBB 0x1CBC,
      .span 0x1CC8 0x1CCF, .span 0x1CFB 0x1CFF, .span 0x1F16 0x1F17, .span 0x1F1E 0x1F1F,
      .span 0x1F46 0x1F47, .span 0x1F4E 0x1F4F, .span 0x1F58 0x1F58, .span 0x1F5A 0x1F5A,
      .span 0x1F5C 0x1F5C, .span 0x1F5E 0x1F5E, .span 0x1F7E 0x1F7F, .span 0x1FB5 0x1FB5,
      .span 0x1FC5 0x1FC5, .span 0x1FD4 0x1FD5, .span 0x1FDC 0x1FDC, .span 0x1FF0 0x1FF1,
      .span 0x1FF5 0x1FF5, .span 0x1FFF 0x1FFF, .span 0x2065 0x2065, .span 0x2072 0x2073,
      .span 0x208F 0x208F, .span 0x209D 0x209F, .span 0x20C2 0x20CF, .span 0x20F1 0x20FF,
      .span 0x218C 0x218F, .span 0x242A 0x243F, .span 0x244B 0x245F, .span 0x2B74 0x2B75,
      .span 0x2CF4 0x2CF8, .span 0x2D26 0x2D26, .span 0x2D28 0x2D2C, .span 0x2D2E 0x2D2F,
      .span 0x2D68 0x2D6E, .span 0x2D71 0x2D7E, .span 0x2D97 0x2D9F, .span 0x2DA7 0x2DA7,
      .span 0x2DAF 0x2DAF, .span 0x2DB7 0x2DB7, .span 0x2DBF 0x2DBF, .span 0x2DC7 0x2DC7,
      .span 0x2DCF 0x2DCF, .span 0x2DD7 0x2DD7, .span 0x2DDF 0x2DDF, .span 0x2E5E 0x2E7F,
      .span 0x2E9A 0x2E9A, .span 0x2EF4 0x2EFF, .span 0x2FD6 0x2FEF, .span 0x3040 0x3040,
      .span 0x3097 0x3098, .span 0x3100 0x3104, .span 0x3130 0x3130, .span 0x318F 0x318F,
      .span 0x31E6 0x31EE, .span 0x321F 0x321F, .span 0xA48D 0xA48F, .span 0xA4C7 0xA4CF,
      .span 0xA62C 0xA63F, .span 0xA6F8 0xA6FF, .span 0xA7DD 0xA7F0, .span 0xA82D 0xA82F,
      .span 0xA83A 0xA83F, .span 0xA878 0xA87F, .span 0xA8C6 0xA8CD, .span 0xA8DA 0xA8DF,
      .span 0xA954 0xA95E, .span 0xA97D 0xA97F, .span 0xA9CE 0xA9CE, .span 0xA9DA 0xA9DD,
      .span 0xA9FF 0xA9FF, .span 0xAA37 0xAA3F, .span 0xAA4E 0xAA4F, .span 0xAA5A 0xAA5B,
      .span 0xAAC3 0xAADA, .span 0xAAF7 0xAB00, .span 0xAB07 0xAB08, .span 0xAB0F 0xAB10,
      .span 0xAB17 0xAB1F, .span 0xAB27 0xAB27, .span 0xAB2F 0xAB2F, .span 0xAB6C 0xAB6F,
      .span 0xABEE 0xABEF, .span 0xABFA 0xABFF, .span 0xD7A4 0xD7AF, .span 0xD7C7 0xD7CA,
      .span 0xD7FC 0xD7FF, .span 0xE000 0xF8FF, .span 0xFA6E 0xFA6F, .span 0xFADA 0xFAFF,
      .span 0xFB07 0xFB12, .span 0xFB18 0xFB1C, .span 0xFB37 0xFB37, .span 0xFB3D 0xFB3D,
      .span 0xFB3F 0xFB3F, .span 0xFB42 0xFB42, .span 0xFB45 0xFB45, .span 0xFDD0 0xFDEF,
      .span 0xFE1A 0xFE1F, .span 0xFE53 0xFE53, .span 0xFE67 0xFE67, .span 0xFE6C 0xFE6F,
      .span 0xFE75 0xFE75, .span 0xFEFD 0xFEFE, .span 0xFF00 0xFF00, .span 0xFFBF 0xFFC1,
      .span 0xFFC8 0xFFC9, .span 0xFFD0 0xFFD1, .span 0xFFD8 0xFFD9, .span 0xFFDD 0xFFDF,
      .span 0xFFE7 0xFFE7, .span 0xFFEF 0xFFF8, .span 0xFFFE 0xFFFF, .span 0x1000C 0x1000C,
      .span 0x10027 0x10027, .span 0x1003B 0x1003B, .span 0x1003E 0x1003E,
      .span 0x1004E 0x1004F, .span 0x1005E 0x1007F, .span 0x100FB 0x100FF,
      .span 0x10103 0x10106, .span 0x10134 0x10136, .span 0x1018F 0x1018F,
      .span 0x1019D 0x1019F, .span 0x101A1 0x101CF, .span 0x101FE 0x1027F,
      .span 0x1029D 0x1029F, .span 0x102D1 0x102DF, .span 0x102FC 0x102FF,
      .span 0x10324 0x1032C, .span 0x1034B 0x1034F, .span 0x1037B 0x1037F,
      .span 0x1039E 0x1039E, .span 0x103C4 0x103C7, .span 0x103D6 0x103FF,
      .span 0x1049E 0x1049F, .span 0x104AA 0x104AF, .span 0x104D4 0x104D7,
      .span 0x104FC 0x104FF, .span 0x10528 0x1052F, .span 0x10564 0x1056E,
      .span 0x1057B 0x1057B, .span 0x1058B 0x1058B, .span 0x10593 0x10593,
      .span 0x10596 0x10596, .span 0x105A2 0x105A2, .span 0x105B2 0x105B2,
      .span 0x105BA 0x105BA, .span 0x105BD 0x105BF, .span 0x105F4 0x105FF,
      .span 0x10737 0x1073F, .span 0x10756 0x1075F, .span 0x10768 0x1077F,
      .span 0x10786 0x10786, .span 0x107B1 0x107B1, .span 0x107BB 0x107FF,
      .span 0x10806 0x10807, .span 0x10809 0x10809, .span 0x10836 0x10836,
      .span 0x10839 0x1083B, .span 0x1083D 0x1083E, .span 0x10856 0x10856,
      .span 0x1089F 0x108A6, .span 0x108B0 0x108DF, .span 0x108F3 0x108F3,
      .span 0x108F6 0x108FA, .span 0x1091C 0x1091E, .span 0x1093A 0x1093E,
      .span 0x1095A 0x1097F, .span 0x109B8 0x109BB, .span 0x109D0 0x109D1,
      .span 0x10A04 0x10A04, .span 0x10A07 0x10A0B, .span 0x10A14 0x10A14,
      .span 0x10A18 0x10A18, .span 0x10A36 0x10A37, .span 0x10A3B 0x10A3E,
      .span 0x10A49 0x10A4F, .span 0x10A59 0x10A5F, .span 0x10AA0 0x10ABF,
      .span 0x10AE7 0x10AEA, .span 0x10AF7 0x10AFF, .span 0x10B36 0x10B38,
      .span 0x10B56 0x10B57, .span 0x10B73 0x10B77, .span 0x10B92 0x10B98,
      .span 0x10B9D 0x10BA8, .span 0x10BB0 0x10BFF, .span 0x10C49 0x10C7F,
      .span 0x10CB3 0x10CBF, .span 0x10CF3 0x10CF9, .span 0x10D28 0x10D2F,
      .span 0x10D3A 0x10D3F, .span 0x10D66 0x10D68, .span 0x10D86 0x10D8D,
      .span 0x10D90 0x10E5F, .span 0x10E7F 0x10E7F, .span 0x10EAA 0x10EAA,
      .span 0x10EAE 0x10EAF, .span 0x10EB2 0x10EC1, .span 0x10EC8 0x10ECF,
      .span 0x10ED9 0x10EF9, .span 0x10F28 0x10F2F, .span 0x10F5A 0x10F6F,
      .span 0x10F8A 0x10FAF, .span 0x10FCC 0x10FDF, .span 0x10FF7 0x10FFF,
      .span 0x1104E 0x11051, .span 0x11076 0x1107E, .span 0x110C3 0x110CC,
      .span 0x110CE 0x110CF, .span 0x110E9 0x110EF, .span 0x110FA 0x110FF,
      .span 0x11135 0x11135, .span 0x11148 0x1114F, .span 0x11177 0x1117F,
      .span 0x111E0 0x111E0, .span 0x111F5 0x111FF, .span 0x11212 0x11212,
      .span 0x11242 0x1127F, .span 0x11287 0x11287, .span 0x11289 0x11289,
      .span 0x1128E 0x1128E, .span 0x1129E 0x1129E, .span 0x112AA 0x112AF,
      .span 0x112EB 0x112EF, .span 0x112FA 0x112FF, .span 0x11304 0x11304,
      .span 0x1130D 0x1130E, .span 0x11311 0x11312, .span 0x11329 0x11329,
      .span 0x11331 0x11331, .span 0x11334 0x11334, .span 0x1133A 0x1133A,
      .span 0x11345 0x11346, .span 0x11349 0x1134A, .span 0x1134E 0x1134F,
      .span 0x11351 0x11356, .span 0x11358 0x1135C, .span 0x11364 0x11365,
      .span 0x1136D 0x1136F, .span 0x11375 0x1137F, .span 0x1138A 0x1138A,
      .span 0x1138C 0x1138D, .span 0x1138F 0x1138F, .span 0x113B6 0x113B6,
      .span 0x113C1 0x113C1, .span 0x113C3 0x113C4, .span 0x113C6 0x113C6,
      .span 0x113CB 0x113CB, .span 0x113D6 0x113D6, .span 0x113D9 0x113E0,
      .span 0x113E3 0x113FF, .span 0x1145C 0x1145C, .span 0x11462 0x1147F,
      .span 0x114C8 0x114CF, .span 0x114DA 0x1157F, .span 0x115B6 0x115B7,
      .span 0x115DE 0x115FF, .span 0x11645 0x1164F, .span 0x1165A 0x1165F,
      .span 0x1166D 0x1167F, .span 0x116BA 0x116BF, .span 0x116CA 0x116CF,
      .span 0x116E4 0x116FF, .span 0x1171B 0x1171C, .span 0x1172C 0x1172F,
      .span 0x11747 0x117FF, .span 0x1183C 0x1189F, .span 0x118F3 0x118FE,
      .span 0x11907 0x11908, .span 0x1190A 0x1190B, .span 0x11914 0x11914,
      .span 0x11917 0x11917, .span 0x11936 0x11936, .span 0x11939 0x1193A,
      .span 0x11947 0x1194F, .span 0x1195A 0x1199F, .span 0x119A8 0x119A9,
      .span 0x119D8 0x119D9, .span 0x119E5 0x119FF, .span 0x11A48 0x11A4F,
      .span 0x11AA3 0x11AAF, .span 0x11AF9 0x11AFF, .span 0x11B0A 0x11B5F,
      .span 0x11B68 0x11BBF, .span 0x11BE2 0x11BEF, .span 0x11BFA 0x11BFF,
      .span 0x11C09 0x11C09, .span 0x11C37 0x11C37, .span 0x11C46 0x11C4F,
      .span 0x11C6D 0x11C6F, .span 0x11C90 0x11C91, .span 0x11CA8 0x11CA8,
      .span 0x11CB7 0x11CFF, .span 0x11D07 0x11D07, .span 0x11D0A 0x11D0A,
      .span 0x11D37 0x11D39, .span 0x11D3B 0x11D3B, .span 0x11D3E 0x11D3E,
      .span 0x11D48 0x11D4F, .span 0x11D5A 0x11D5F, .span 0x11D66 0x11D66,
      .span 0x11D69 0x11D69, .span 0x11D8F 0x11D8F, .span 0x11D92 0x11D92,
      .span 0x11D99 0x11D9F, .span 0x11DAA 0x11DAF, .span 0x11DDC 0x11DDF,
      .span 0x11DEA 0x11EDF, .span 0x11EF9 0x11EFF, .span 0x11F11 0x11F11,
      .span 0x11F3B 0x11F3D, .span 0x11F5B 0x11FAF, .span 0x11FB1 0x11FBF,
      .span 0x11FF2 0x11FFE, .span 0x1239A 0x123FF, .span 0x1246F 0x1246F,
      .span 0x12475 0x1247F, .span 0x12544 0x12F8F, .span 0x12FF3 0x12FFF,
      .span 0x13456 0x1345F, .span 0x143FB 0x143FF, .span 0x14647 0x160FF,
      .span 0x1613A 0x167FF, .span 0x16A39 0x16A3F, .span 0x16A5F 0x16A5F,
      .span 0x16A6A 0x16A6D, .span 0x16ABF 0x16ABF, .span 0x16ACA 0x16ACF,
      .span 0x16AEE 0x16AEF, .span 0x16AF6 0x16AFF, .span 0x16B46 0x16B4F,
      .span 0x16B5A 0x16B5A, .span 0x16B62 0x16B62, .span 0x16B78 0x16B7C,
      .span 0x16B90 0x16D3F, .span 0x16D7A 0x16E3F, .span 0x16E9B 0x16E9F,
      .span 0x16EB9 0x16EBA, .span 0x16ED4 0x16EFF, .span 0x16F4B 0x16F4E,
      .span 0x16F88 0x16F8E, .span 0x16FA0 0x16FDF, .span 0x16FE5 0x16FEF,
      .span 0x16FF7 0x16FFF, .span 0x18CD6 0x18CFE, .span 0x18D1F 0x18D7F,
      .span 0x18DF3 0x1AFEF, .span 0x1AFF4 0x1AFF4, .span 0x1AFFC 0x1AFFC,
      .span 0x1AFFF 0x1AFFF, .span 0x1B123 0x1B131, .span 0x1B133 0x1B14F,
      .span 0x1B153 0x1B154, .span 0x1B156 0x1B163, .span 0x1B168 0x1B16F,
      .span 0x1B2FC 0x1BBFF, .span 0x1BC6B 0x1BC6F, .span 0x1BC7D 0x1BC7F,
      .span 0x1BC89 0x1BC8F, .span 0x1BC9A 0x1BC9B, .span 0x1BCA4 0x1CBFF,
      .span 0x1CCFD 0x1CCFF, .span 0x1CEB4 0x1CEB9, .span 0x1CED1 0x1CEDF,
      .span 0x1CEF1 0x1CEFF, .span 0x1CF2E 0x1CF2F, .span 0x1CF47 0x1CF4F,
      .span 0x1CFC4 0x1CFFF, .span 0x1D0F6 0x1D0FF, .span 0x1D127 0x1D128,
      .span 0x1D1EB 0x1D1FF, .span 0x1D246 0x1D2BF, .span 0x1D2D4 0x1D2DF,
      .span 0x1D2F4 0x1D2FF, .span 0x1D357 0x1D35F, .span 0x1D379 0x1D3FF,
      .span 0x1D455 0x1D455, .span 0x1D49D 0x1D49D, .span 0x1D4A0 0x1D4A1,
      .span 0x1D4A3 0x1D4A4, .span 0x1D4A7 0x1D4A8, .span 0x1D4AD 0x1D4AD,
      .span 0x1D4BA 0x1D4BA, .span 0x1D4BC 0x1D4BC, .span 0x1D4C4 0x1D4C4,
      .span 0x1D506 0x1D506, .span 0x1D50B 0x1D50C, .span 0x1D515 0x1D515,
      .span 0x1D51D 0x1D51D, .span 0x1D53A 0x1D53A, .span 0x1D53F 0x1D53F,
      .span 0x1D545 0x1D545, .span 0x1D547 0x1D549, .span 0x1D551 0x1D551,
      .span 0x1D6A6 0x1D6A7, .span 0x1D7CC 0x1D7CD, .span 0x1DA8C 0x1DA9A,
      .span 0x1DAA0 0x1DAA0, .span 0x1DAB0 0x1DEFF, .span 0x1DF1F 0x1DF24,
      .span 0x1DF2B 0x1DFFF, .span 0x1E007 0x1E007, .span 0x1E019 0x1E01A,
      .span 0x1E022 0x1E022, .span 0x1E025 0x1E025, .span 0x1E02B 0x1E02F,
      .span 0x1E06E 0x1E08E, .span 0x1E090 0x1E0FF, .span 0x1E12D 0x1E12F,
      .span 0x1E13E 0x1E13F, .span 0x1E14A 0x1E14D, .span 0x1E150 0x1E28F,
      .span 0x1E2AF 0x1E2BF, .span 0x1E2FA 0x1E2FE, .span 0x1E300 0x1E4CF,
      .span 0x1E4FA 0x1E5CF, .span 0x1E5FB 0x1E5FE, .span 0x1E600 0x1E6BF,
      .span 0x1E6DF 0x1E6DF, .span 0x1E6F6 0x1E6FD, .span 0x1E700 0x1E7DF,
      .span 0x1E7E7 0x1E7E7, .span 0x1E7EC 0x1E7EC, .span 0x1E7EF 0x1E7EF,
      .span 0x1E7FF 0x1E7FF, .span 0x1E8C5 0x1E8C6, .span 0x1E8D7 0x1E8FF,
      .span 0x1E94C 0x1E94F, .span 0x1E95A 0x1E95D, .span 0x1E960 0x1EC70,
      .span 0x1ECB5 0x1ED00, .span 0x1ED3E 0x1EDFF, .span 0x1EE04 0x1EE04,
      .span 0x1EE20 0x1EE20, .span 0x1EE23 0x1EE23, .span 0x1EE25 0x1EE26,
      .span 0x1EE28 0x1EE28, .span 0x1EE33 0x1EE33, .span 0x1EE38 0x1EE38,
      .span 0x1EE3A 0x1EE3A, .span 0x1EE3C 0x1EE41, .span 0x1EE43 0x1EE46,
      .span 0x1EE48 0x1EE48, .span 0x1EE4A 0x1EE4A, .span 0x1EE4C 0x1EE4C,
      .span 0x1EE50 0x1EE50, .span 0x1EE53 0x1EE53, .span 0x1EE55 0x1EE56,
      .span 0x1EE58 0x1EE58, .span 0x1EE5A 0x1EE5A, .span 0x1EE5C 0x1EE5C,
      .span 0x1EE5E 0x1EE5E, .span 0x1EE60 0x1EE60, .span 0x1EE63 0x1EE63,
      .span 0x1EE65 0x1EE66, .span 0x1EE6B 0x1EE6B, .span 0x1EE73 0x1EE73,
      .span 0x1EE78 0x1EE78, .span 0x1EE7D 0x1EE7D, .span 0x1EE7F 0x1EE7F,
      .span 0x1EE8A 0x1EE8A, .span 0x1EE9C 0x1EEA0, .span 0x1EEA4 0x1EEA4,
      .span 0x1EEAA 0x1EEAA, .span 0x1EEBC 0x1EEEF, .span 0x1EEF2 0x1EFFF,
      .span 0x1F02C 0x1F02F, .span 0x1F094 0x1F09F, .span 0x1F0AF 0x1F0B0,
      .span 0x1F0C0 0x1F0C0, .span 0x1F0D0 0x1F0D0, .span 0x1F0F6 0x1F0FF,
      .span 0x1F1AE 0x1F1E5, .span 0x1F203 0x1F20F, .span 0x1F23C 0x1F23F,
      .span 0x1F249 0x1F24F, .span 0x1F252 0x1F25F, .span 0x1F266 0x1F2FF,
      .span 0x1F6D9 0x1F6DB, .span 0x1F6ED 0x1F6EF, .span 0x1F6FD 0x1F6FF,
      .span 0x1F7DA 0x1F7DF, .span 0x1F7EC 0x1F7EF, .span 0x1F7F1 0x1F7FF,
      .span 0x1F80C 0x1F80F, .span 0x1F848 0x1F84F, .span 0x1F85A 0x1F85F,
      .span 0x1F888 0x1F88F, .span 0x1F8AE 0x1F8AF, .span 0x1F8BC 0x1F8BF,
      .span 0x1F8C2 0x1F8CF, .span 0x1F8D9 0x1F8FF, .span 0x1FA58 0x1FA5F,
      .span 0x1FA6E 0x1FA6F, .span 0x1FA7D 0x1FA7F, .span 0x1FA8B 0x1FA8D,
      .span 0x1FAC7 0x1FAC7, .span 0x1FAC9 0x1FACC, .span 0x1FADD 0x1FADE,
      .span 0x1FAEB 0x1FAEE, .span 0x1FAF9 0x1FAFF, .span 0x1FB93 0x1FB93,
      .span 0x1FBFB 0x1FFFF, .span 0x2A6E0 0x2A6FF, .span 0x2B81E 0x2B81F,
      .span 0x2CEAE 0x2CEAF, .span 0x2EBE1 0x2EBEF, .span 0x2EE5E 0x2F7FF,
      .span 0x2FA1E 0x2FFFF, .span 0x3134B 0x3134F, .span 0x3347A 0xE0000,
      .span 0xE0002 0xE001F, .span 0xE0080 0xE00FF, .span 0xE01F0 0x10FFFF]

def scripts : List Script :=
  [adlamScript, ahomScript, arabicScript, armenianScript, avestanScript, balineseScript,
    bamumScript, bassaVahScript, batakScript, bengaliScript, bhaiksukiScript, bopomofoScript,
    brahmiScript, brailleScript, bugineseScript, buhidScript, canadianAboriginalScript,
    carianScript, caucasianAlbanianScript, chakmaScript, chamScript, cherokeeScript,
    chorasmianScript, cypriotScript, cyproMinoanScript, cyrillicScript, devanagariScript,
    divesAkuruScript, dograScript, deseretScript, duployanScript, egyptianHieroglyphsScript,
    elbasanScript, elymaicScript, ethiopicScript, garayScript, georgianScript, glagoliticScript,
    gothicScript, granthaScript, greekScript, gujaratiScript, gunjalaGondiScript,
    gurmukhiScript, gurungKhemaScript, hangulScript, hanScript, hanunooScript, hatranScript,
    hebrewScript, hiraganaScript, anatolianHieroglyphsScript, imperialAramaicScript,
    javaneseScript, katakanaScript, kawiScript, kayahLiScript, kharoshthiScript, khmerScript,
    khojkiScript, khitanSmallScriptScript, kannadaScript, kiratRaiScript, kaithiScript,
    laoScript, latinScript, lepchaScript, limbuScript, linearAScript, linearBScript, lisuScript,
    lycianScript, lydianScript, mahajaniScript, makasarScript, mandaicScript, manichaeanScript,
    marchenScript, masaramGondiScript, medefaidrinScript, mendeKikakuiScript,
    meroiticCursiveScript, meroiticHieroglyphsScript, malayalamScript, modiScript,
    mongolianScript, mroScript, meeteiMayekScript, multaniScript, myanmarScript,
    nagMundariScript, nandinagariScript, nabataeanScript, newaScript, nkoScript, nushuScript,
    nyiakengPuachueHmongScript, oghamScript, olChikiScript, oldHungarianScript, oldItalicScript,
    oldNorthArabianScript, olOnalScript, oldTurkicScript, oriyaScript, osageScript,
    osmanyaScript, oldUyghurScript, pahawhHmongScript, palmyreneScript, pauCinHauScript,
    oldPermicScript, phagsPaScript, inscriptionalPahlaviScript, phoenicianScript, miaoScript,
    inscriptionalParthianScript, psalterPahlaviScript, copticScript, rejangScript,
    hanifiRohingyaScript, runicScript, samaritanScript, oldSouthArabianScript, saurashtraScript,
    shavianScript, sharadaScript, siddhamScript, signwritingScript, khudawadiScript,
    sinhalaScript, sogdianScript, oldSogdianScript, soraSompengScript, soyomboScript,
    sundaneseScript, sunuwarScript, sylotiNagriScript, syriacScript, tagbanwaScript,
    taiThamScript, takriScript, taiLeScript, newTaiLueScript, tamilScript, tangutScript,
    taiVietScript, teluguScript, tagalogScript, thaanaScript, thaiScript, tibetanScript,
    tifinaghScript, tirhutaScript, tangsaScript, todhriScript, totoScript, tuluTigalariScript,
    ugariticScript, vaiScript, vithkuqiScript, warangCitiScript, wanchoScript, oldPersianScript,
    cuneiformScript, yezidiScript, yiScript, zanabazarSquareScript, inheritedScript,
    commonScript, unknownScript]

end Pattern
end SchemaModels
