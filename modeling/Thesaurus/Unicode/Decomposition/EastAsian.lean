import Thesaurus.Unicode.Table

/-!
# Decompositions: East Asian forms

Kana, compatibility letters of Korean, squared and circled forms, later Latin and Cherokee
letters, and the compatibility ideographs below U+FB00.
-/

set_option autoImplicit false
set_option maxRecDepth 10000

namespace Thesaurus.Unicode.Decomposition

def eastAsian : List Block :=
  [(0x3000, [[0x20]]), (0x3036, [[0x3012]]), (0x3038, [[0x5341], [0x5344], [0x5345]]),
   (0x304C, [[0x304B, 0x3099]]), (0x304E, [[0x304D, 0x3099]]), (0x3050, [[0x304F, 0x3099]]),
   (0x3052, [[0x3051, 0x3099]]), (0x3054, [[0x3053, 0x3099]]), (0x3056, [[0x3055, 0x3099]]),
   (0x3058, [[0x3057, 0x3099]]), (0x305A, [[0x3059, 0x3099]]), (0x305C, [[0x305B, 0x3099]]),
   (0x305E, [[0x305D, 0x3099]]), (0x3060, [[0x305F, 0x3099]]), (0x3062, [[0x3061, 0x3099]]),
   (0x3065, [[0x3064, 0x3099]]), (0x3067, [[0x3066, 0x3099]]), (0x3069, [[0x3068, 0x3099]]),
   (0x3070, [[0x306F, 0x3099], [0x306F, 0x309A]]), (0x3073, [[0x3072, 0x3099], [0x3072, 0x309A]]),
   (0x3076, [[0x3075, 0x3099], [0x3075, 0x309A]]), (0x3079, [[0x3078, 0x3099], [0x3078, 0x309A]]),
   (0x307C, [[0x307B, 0x3099], [0x307B, 0x309A]]), (0x3094, [[0x3046, 0x3099]]),
   (0x309B, [[0x20, 0x3099], [0x20, 0x309A]]), (0x309E, [[0x309D, 0x3099], [0x3088, 0x308A]]),
   (0x30AC, [[0x30AB, 0x3099]]), (0x30AE, [[0x30AD, 0x3099]]), (0x30B0, [[0x30AF, 0x3099]]),
   (0x30B2, [[0x30B1, 0x3099]]), (0x30B4, [[0x30B3, 0x3099]]), (0x30B6, [[0x30B5, 0x3099]]),
   (0x30B8, [[0x30B7, 0x3099]]), (0x30BA, [[0x30B9, 0x3099]]), (0x30BC, [[0x30BB, 0x3099]]),
   (0x30BE, [[0x30BD, 0x3099]]), (0x30C0, [[0x30BF, 0x3099]]), (0x30C2, [[0x30C1, 0x3099]]),
   (0x30C5, [[0x30C4, 0x3099]]), (0x30C7, [[0x30C6, 0x3099]]), (0x30C9, [[0x30C8, 0x3099]]),
   (0x30D0, [[0x30CF, 0x3099], [0x30CF, 0x309A]]), (0x30D3, [[0x30D2, 0x3099], [0x30D2, 0x309A]]),
   (0x30D6, [[0x30D5, 0x3099], [0x30D5, 0x309A]]), (0x30D9, [[0x30D8, 0x3099], [0x30D8, 0x309A]]),
   (0x30DC, [[0x30DB, 0x3099], [0x30DB, 0x309A]]), (0x30F4, [[0x30A6, 0x3099]]),
   (0x30F7, [[0x30EF, 0x3099], [0x30F0, 0x3099], [0x30F1, 0x3099], [0x30F2, 0x3099]]),
   (0x30FE, [[0x30FD, 0x3099], [0x30B3, 0x30C8]]),
   (0x3131,
     [[0x1100], [0x1101], [0x11AA], [0x1102], [0x11AC], [0x11AD], [0x1103], [0x1104], [0x1105],
      [0x11B0], [0x11B1], [0x11B2], [0x11B3], [0x11B4], [0x11B5], [0x111A], [0x1106], [0x1107],
      [0x1108], [0x1121], [0x1109], [0x110A], [0x110B], [0x110C], [0x110D], [0x110E], [0x110F],
      [0x1110], [0x1111], [0x1112], [0x1161], [0x1162], [0x1163], [0x1164], [0x1165], [0x1166],
      [0x1167], [0x1168], [0x1169], [0x116A], [0x116B], [0x116C], [0x116D], [0x116E], [0x116F],
      [0x1170], [0x1171], [0x1172], [0x1173], [0x1174], [0x1175], [0x1160], [0x1114], [0x1115],
      [0x11C7], [0x11C8], [0x11CC], [0x11CE], [0x11D3], [0x11D7], [0x11D9], [0x111C], [0x11DD],
      [0x11DF], [0x111D], [0x111E], [0x1120], [0x1122], [0x1123], [0x1127], [0x1129], [0x112B],
      [0x112C], [0x112D], [0x112E], [0x112F], [0x1132], [0x1136], [0x1140], [0x1147], [0x114C],
      [0x11F1], [0x11F2], [0x1157], [0x1158], [0x1159], [0x1184], [0x1185], [0x1188], [0x1191],
      [0x1192], [0x1194], [0x119E], [0x11A1]]),
   (0x3192,
     [[0x4E00], [0x4E8C], [0x4E09], [0x56DB], [0x4E0A], [0x4E2D], [0x4E0B], [0x7532], [0x4E59],
      [0x4E19], [0x4E01], [0x5929], [0x5730], [0x4EBA]]),
   (0x3200,
     [[0x28, 0x1100, 0x29], [0x28, 0x1102, 0x29], [0x28, 0x1103, 0x29], [0x28, 0x1105, 0x29],
      [0x28, 0x1106, 0x29], [0x28, 0x1107, 0x29], [0x28, 0x1109, 0x29], [0x28, 0x110B, 0x29],
      [0x28, 0x110C, 0x29], [0x28, 0x110E, 0x29], [0x28, 0x110F, 0x29], [0x28, 0x1110, 0x29],
      [0x28, 0x1111, 0x29], [0x28, 0x1112, 0x29], [0x28, 0x1100, 0x1161, 0x29],
      [0x28, 0x1102, 0x1161, 0x29], [0x28, 0x1103, 0x1161, 0x29], [0x28, 0x1105, 0x1161, 0x29],
      [0x28, 0x1106, 0x1161, 0x29], [0x28, 0x1107, 0x1161, 0x29], [0x28, 0x1109, 0x1161, 0x29],
      [0x28, 0x110B, 0x1161, 0x29], [0x28, 0x110C, 0x1161, 0x29], [0x28, 0x110E, 0x1161, 0x29],
      [0x28, 0x110F, 0x1161, 0x29], [0x28, 0x1110, 0x1161, 0x29], [0x28, 0x1111, 0x1161, 0x29],
      [0x28, 0x1112, 0x1161, 0x29], [0x28, 0x110C, 0x116E, 0x29],
      [0x28, 0x110B, 0x1169, 0x110C, 0x1165, 0x11AB, 0x29],
      [0x28, 0x110B, 0x1169, 0x1112, 0x116E, 0x29]]),
   (0x3220,
     [[0x28, 0x4E00, 0x29], [0x28, 0x4E8C, 0x29], [0x28, 0x4E09, 0x29], [0x28, 0x56DB, 0x29],
      [0x28, 0x4E94, 0x29], [0x28, 0x516D, 0x29], [0x28, 0x4E03, 0x29], [0x28, 0x516B, 0x29],
      [0x28, 0x4E5D, 0x29], [0x28, 0x5341, 0x29], [0x28, 0x6708, 0x29], [0x28, 0x706B, 0x29],
      [0x28, 0x6C34, 0x29], [0x28, 0x6728, 0x29], [0x28, 0x91D1, 0x29], [0x28, 0x571F, 0x29],
      [0x28, 0x65E5, 0x29], [0x28, 0x682A, 0x29], [0x28, 0x6709, 0x29], [0x28, 0x793E, 0x29],
      [0x28, 0x540D, 0x29], [0x28, 0x7279, 0x29], [0x28, 0x8CA1, 0x29], [0x28, 0x795D, 0x29],
      [0x28, 0x52B4, 0x29], [0x28, 0x4EE3, 0x29], [0x28, 0x547C, 0x29], [0x28, 0x5B66, 0x29],
      [0x28, 0x76E3, 0x29], [0x28, 0x4F01, 0x29], [0x28, 0x8CC7, 0x29], [0x28, 0x5354, 0x29],
      [0x28, 0x796D, 0x29], [0x28, 0x4F11, 0x29], [0x28, 0x81EA, 0x29], [0x28, 0x81F3, 0x29],
      [0x554F], [0x5E7C], [0x6587], [0x7B8F]]),
   (0x3250,
     [[0x50, 0x54, 0x45], [0x32, 0x31], [0x32, 0x32], [0x32, 0x33], [0x32, 0x34], [0x32, 0x35],
      [0x32, 0x36], [0x32, 0x37], [0x32, 0x38], [0x32, 0x39], [0x33, 0x30], [0x33, 0x31],
      [0x33, 0x32], [0x33, 0x33], [0x33, 0x34], [0x33, 0x35], [0x1100], [0x1102], [0x1103],
      [0x1105], [0x1106], [0x1107], [0x1109], [0x110B], [0x110C], [0x110E], [0x110F], [0x1110],
      [0x1111], [0x1112], [0x1100, 0x1161], [0x1102, 0x1161], [0x1103, 0x1161], [0x1105, 0x1161],
      [0x1106, 0x1161], [0x1107, 0x1161], [0x1109, 0x1161], [0x110B, 0x1161], [0x110C, 0x1161],
      [0x110E, 0x1161], [0x110F, 0x1161], [0x1110, 0x1161], [0x1111, 0x1161], [0x1112, 0x1161],
      [0x110E, 0x1161, 0x11B7, 0x1100, 0x1169], [0x110C, 0x116E, 0x110B, 0x1174],
      [0x110B, 0x116E]]),
   (0x3280,
     [[0x4E00], [0x4E8C], [0x4E09], [0x56DB], [0x4E94], [0x516D], [0x4E03], [0x516B], [0x4E5D],
      [0x5341], [0x6708], [0x706B], [0x6C34], [0x6728], [0x91D1], [0x571F], [0x65E5], [0x682A],
      [0x6709], [0x793E], [0x540D], [0x7279], [0x8CA1], [0x795D], [0x52B4], [0x79D8], [0x7537],
      [0x5973], [0x9069], [0x512A], [0x5370], [0x6CE8], [0x9805], [0x4F11], [0x5199], [0x6B63],
      [0x4E0A], [0x4E2D], [0x4E0B], [0x5DE6], [0x53F3], [0x533B], [0x5B97], [0x5B66], [0x76E3],
      [0x4F01], [0x8CC7], [0x5354], [0x591C], [0x33, 0x36], [0x33, 0x37], [0x33, 0x38],
      [0x33, 0x39], [0x34, 0x30], [0x34, 0x31], [0x34, 0x32], [0x34, 0x33], [0x34, 0x34],
      [0x34, 0x35], [0x34, 0x36], [0x34, 0x37], [0x34, 0x38], [0x34, 0x39], [0x35, 0x30],
      [0x31, 0x6708], [0x32, 0x6708], [0x33, 0x6708], [0x34, 0x6708], [0x35, 0x6708],
      [0x36, 0x6708], [0x37, 0x6708], [0x38, 0x6708], [0x39, 0x6708], [0x31, 0x30, 0x6708],
      [0x31, 0x31, 0x6708], [0x31, 0x32, 0x6708], [0x48, 0x67], [0x65, 0x72, 0x67], [0x65, 0x56],
      [0x4C, 0x54, 0x44], [0x30A2], [0x30A4], [0x30A6], [0x30A8], [0x30AA], [0x30AB], [0x30AD],
      [0x30AF], [0x30B1], [0x30B3], [0x30B5], [0x30B7], [0x30B9], [0x30BB], [0x30BD], [0x30BF],
      [0x30C1], [0x30C4], [0x30C6], [0x30C8], [0x30CA], [0x30CB], [0x30CC], [0x30CD], [0x30CE],
      [0x30CF], [0x30D2], [0x30D5], [0x30D8], [0x30DB], [0x30DE], [0x30DF], [0x30E0], [0x30E1],
      [0x30E2], [0x30E4], [0x30E6], [0x30E8], [0x30E9], [0x30EA], [0x30EB], [0x30EC], [0x30ED],
      [0x30EF], [0x30F0], [0x30F1], [0x30F2], [0x4EE4, 0x548C],
      [0x30A2, 0x30CF, 0x309A, 0x30FC, 0x30C8], [0x30A2, 0x30EB, 0x30D5, 0x30A1],
      [0x30A2, 0x30F3, 0x30D8, 0x309A, 0x30A2], [0x30A2, 0x30FC, 0x30EB],
      [0x30A4, 0x30CB, 0x30F3, 0x30AF, 0x3099], [0x30A4, 0x30F3, 0x30C1],
      [0x30A6, 0x30A9, 0x30F3], [0x30A8, 0x30B9, 0x30AF, 0x30FC, 0x30C8, 0x3099],
      [0x30A8, 0x30FC, 0x30AB, 0x30FC], [0x30AA, 0x30F3, 0x30B9], [0x30AA, 0x30FC, 0x30E0],
      [0x30AB, 0x30A4, 0x30EA], [0x30AB, 0x30E9, 0x30C3, 0x30C8],
      [0x30AB, 0x30ED, 0x30EA, 0x30FC], [0x30AB, 0x3099, 0x30ED, 0x30F3],
      [0x30AB, 0x3099, 0x30F3, 0x30DE], [0x30AD, 0x3099, 0x30AB, 0x3099],
      [0x30AD, 0x3099, 0x30CB, 0x30FC], [0x30AD, 0x30E5, 0x30EA, 0x30FC],
      [0x30AD, 0x3099, 0x30EB, 0x30BF, 0x3099, 0x30FC], [0x30AD, 0x30ED],
      [0x30AD, 0x30ED, 0x30AF, 0x3099, 0x30E9, 0x30E0],
      [0x30AD, 0x30ED, 0x30E1, 0x30FC, 0x30C8, 0x30EB], [0x30AD, 0x30ED, 0x30EF, 0x30C3, 0x30C8],
      [0x30AF, 0x3099, 0x30E9, 0x30E0], [0x30AF, 0x3099, 0x30E9, 0x30E0, 0x30C8, 0x30F3],
      [0x30AF, 0x30EB, 0x30BB, 0x3099, 0x30A4, 0x30ED], [0x30AF, 0x30ED, 0x30FC, 0x30CD],
      [0x30B1, 0x30FC, 0x30B9], [0x30B3, 0x30EB, 0x30CA], [0x30B3, 0x30FC, 0x30DB, 0x309A],
      [0x30B5, 0x30A4, 0x30AF, 0x30EB], [0x30B5, 0x30F3, 0x30C1, 0x30FC, 0x30E0],
      [0x30B7, 0x30EA, 0x30F3, 0x30AF, 0x3099], [0x30BB, 0x30F3, 0x30C1],
      [0x30BB, 0x30F3, 0x30C8], [0x30BF, 0x3099, 0x30FC, 0x30B9], [0x30C6, 0x3099, 0x30B7],
      [0x30C8, 0x3099, 0x30EB], [0x30C8, 0x30F3], [0x30CA, 0x30CE], [0x30CE, 0x30C3, 0x30C8],
      [0x30CF, 0x30A4, 0x30C4], [0x30CF, 0x309A, 0x30FC, 0x30BB, 0x30F3, 0x30C8],
      [0x30CF, 0x309A, 0x30FC, 0x30C4], [0x30CF, 0x3099, 0x30FC, 0x30EC, 0x30EB],
      [0x30D2, 0x309A, 0x30A2, 0x30B9, 0x30C8, 0x30EB], [0x30D2, 0x309A, 0x30AF, 0x30EB],
      [0x30D2, 0x309A, 0x30B3], [0x30D2, 0x3099, 0x30EB],
      [0x30D5, 0x30A1, 0x30E9, 0x30C3, 0x30C8, 0x3099], [0x30D5, 0x30A3, 0x30FC, 0x30C8],
      [0x30D5, 0x3099, 0x30C3, 0x30B7, 0x30A7, 0x30EB], [0x30D5, 0x30E9, 0x30F3],
      [0x30D8, 0x30AF, 0x30BF, 0x30FC, 0x30EB], [0x30D8, 0x309A, 0x30BD],
      [0x30D8, 0x309A, 0x30CB, 0x30D2], [0x30D8, 0x30EB, 0x30C4],
      [0x30D8, 0x309A, 0x30F3, 0x30B9], [0x30D8, 0x309A, 0x30FC, 0x30B7, 0x3099],
      [0x30D8, 0x3099, 0x30FC, 0x30BF], [0x30DB, 0x309A, 0x30A4, 0x30F3, 0x30C8],
      [0x30DB, 0x3099, 0x30EB, 0x30C8], [0x30DB, 0x30F3],
      [0x30DB, 0x309A, 0x30F3, 0x30C8, 0x3099], [0x30DB, 0x30FC, 0x30EB],
      [0x30DB, 0x30FC, 0x30F3], [0x30DE, 0x30A4, 0x30AF, 0x30ED], [0x30DE, 0x30A4, 0x30EB],
      [0x30DE, 0x30C3, 0x30CF], [0x30DE, 0x30EB, 0x30AF],
      [0x30DE, 0x30F3, 0x30B7, 0x30E7, 0x30F3], [0x30DF, 0x30AF, 0x30ED, 0x30F3],
      [0x30DF, 0x30EA], [0x30DF, 0x30EA, 0x30CF, 0x3099, 0x30FC, 0x30EB],
      [0x30E1, 0x30AB, 0x3099], [0x30E1, 0x30AB, 0x3099, 0x30C8, 0x30F3],
      [0x30E1, 0x30FC, 0x30C8, 0x30EB], [0x30E4, 0x30FC, 0x30C8, 0x3099],
      [0x30E4, 0x30FC, 0x30EB], [0x30E6, 0x30A2, 0x30F3], [0x30EA, 0x30C3, 0x30C8, 0x30EB],
      [0x30EA, 0x30E9], [0x30EB, 0x30D2, 0x309A, 0x30FC],
      [0x30EB, 0x30FC, 0x30D5, 0x3099, 0x30EB], [0x30EC, 0x30E0],
      [0x30EC, 0x30F3, 0x30C8, 0x30B1, 0x3099, 0x30F3], [0x30EF, 0x30C3, 0x30C8], [0x30, 0x70B9],
      [0x31, 0x70B9], [0x32, 0x70B9], [0x33, 0x70B9], [0x34, 0x70B9], [0x35, 0x70B9],
      [0x36, 0x70B9], [0x37, 0x70B9], [0x38, 0x70B9], [0x39, 0x70B9], [0x31, 0x30, 0x70B9],
      [0x31, 0x31, 0x70B9], [0x31, 0x32, 0x70B9], [0x31, 0x33, 0x70B9], [0x31, 0x34, 0x70B9],
      [0x31, 0x35, 0x70B9], [0x31, 0x36, 0x70B9], [0x31, 0x37, 0x70B9], [0x31, 0x38, 0x70B9],
      [0x31, 0x39, 0x70B9], [0x32, 0x30, 0x70B9], [0x32, 0x31, 0x70B9], [0x32, 0x32, 0x70B9],
      [0x32, 0x33, 0x70B9], [0x32, 0x34, 0x70B9], [0x68, 0x50, 0x61], [0x64, 0x61], [0x41, 0x55],
      [0x62, 0x61, 0x72], [0x6F, 0x56], [0x70, 0x63], [0x64, 0x6D], [0x64, 0x6D, 0x32],
      [0x64, 0x6D, 0x33], [0x49, 0x55], [0x5E73, 0x6210], [0x662D, 0x548C], [0x5927, 0x6B63],
      [0x660E, 0x6CBB], [0x682A, 0x5F0F, 0x4F1A, 0x793E], [0x70, 0x41], [0x6E, 0x41],
      [0x3BC, 0x41], [0x6D, 0x41], [0x6B, 0x41], [0x4B, 0x42], [0x4D, 0x42], [0x47, 0x42],
      [0x63, 0x61, 0x6C], [0x6B, 0x63, 0x61, 0x6C], [0x70, 0x46], [0x6E, 0x46], [0x3BC, 0x46],
      [0x3BC, 0x67], [0x6D, 0x67], [0x6B, 0x67], [0x48, 0x7A], [0x6B, 0x48, 0x7A],
      [0x4D, 0x48, 0x7A], [0x47, 0x48, 0x7A], [0x54, 0x48, 0x7A], [0x3BC, 0x6C], [0x6D, 0x6C],
      [0x64, 0x6C], [0x6B, 0x6C], [0x66, 0x6D], [0x6E, 0x6D], [0x3BC, 0x6D], [0x6D, 0x6D],
      [0x63, 0x6D], [0x6B, 0x6D], [0x6D, 0x6D, 0x32], [0x63, 0x6D, 0x32], [0x6D, 0x32],
      [0x6B, 0x6D, 0x32], [0x6D, 0x6D, 0x33], [0x63, 0x6D, 0x33], [0x6D, 0x33],
      [0x6B, 0x6D, 0x33], [0x6D, 0x2215, 0x73], [0x6D, 0x2215, 0x73, 0x32], [0x50, 0x61],
      [0x6B, 0x50, 0x61], [0x4D, 0x50, 0x61], [0x47, 0x50, 0x61], [0x72, 0x61, 0x64],
      [0x72, 0x61, 0x64, 0x2215, 0x73], [0x72, 0x61, 0x64, 0x2215, 0x73, 0x32], [0x70, 0x73],
      [0x6E, 0x73], [0x3BC, 0x73], [0x6D, 0x73], [0x70, 0x56], [0x6E, 0x56], [0x3BC, 0x56],
      [0x6D, 0x56], [0x6B, 0x56], [0x4D, 0x56], [0x70, 0x57], [0x6E, 0x57], [0x3BC, 0x57],
      [0x6D, 0x57], [0x6B, 0x57], [0x4D, 0x57], [0x6B, 0x3A9], [0x4D, 0x3A9],
      [0x61, 0x2E, 0x6D, 0x2E], [0x42, 0x71], [0x63, 0x63], [0x63, 0x64],
      [0x43, 0x2215, 0x6B, 0x67], [0x43, 0x6F, 0x2E], [0x64, 0x42], [0x47, 0x79], [0x68, 0x61],
      [0x48, 0x50], [0x69, 0x6E], [0x4B, 0x4B], [0x4B, 0x4D], [0x6B, 0x74], [0x6C, 0x6D],
      [0x6C, 0x6E], [0x6C, 0x6F, 0x67], [0x6C, 0x78], [0x6D, 0x62], [0x6D, 0x69, 0x6C],
      [0x6D, 0x6F, 0x6C], [0x50, 0x48], [0x70, 0x2E, 0x6D, 0x2E], [0x50, 0x50, 0x4D],
      [0x50, 0x52], [0x73, 0x72], [0x53, 0x76], [0x57, 0x62], [0x56, 0x2215, 0x6D],
      [0x41, 0x2215, 0x6D], [0x31, 0x65E5], [0x32, 0x65E5], [0x33, 0x65E5], [0x34, 0x65E5],
      [0x35, 0x65E5], [0x36, 0x65E5], [0x37, 0x65E5], [0x38, 0x65E5], [0x39, 0x65E5],
      [0x31, 0x30, 0x65E5], [0x31, 0x31, 0x65E5], [0x31, 0x32, 0x65E5], [0x31, 0x33, 0x65E5],
      [0x31, 0x34, 0x65E5], [0x31, 0x35, 0x65E5], [0x31, 0x36, 0x65E5], [0x31, 0x37, 0x65E5],
      [0x31, 0x38, 0x65E5], [0x31, 0x39, 0x65E5], [0x32, 0x30, 0x65E5], [0x32, 0x31, 0x65E5],
      [0x32, 0x32, 0x65E5], [0x32, 0x33, 0x65E5], [0x32, 0x34, 0x65E5], [0x32, 0x35, 0x65E5],
      [0x32, 0x36, 0x65E5], [0x32, 0x37, 0x65E5], [0x32, 0x38, 0x65E5], [0x32, 0x39, 0x65E5],
      [0x33, 0x30, 0x65E5], [0x33, 0x31, 0x65E5], [0x67, 0x61, 0x6C]]),
   (0xA69C, [[0x44A], [0x44C]]), (0xA770, [[0xA76F]]), (0xA7F2, [[0x43], [0x46], [0x51]]),
   (0xA7F8, [[0x126], [0x153]]), (0xAB5C, [[0xA727], [0xAB37], [0x26B], [0xAB52]]),
   (0xAB69, [[0x28D]]),
   (0xF900,
     [[0x8C48], [0x66F4], [0x8ECA], [0x8CC8], [0x6ED1], [0x4E32], [0x53E5], [0x9F9C], [0x9F9C],
      [0x5951], [0x91D1], [0x5587], [0x5948], [0x61F6], [0x7669], [0x7F85], [0x863F], [0x87BA],
      [0x88F8], [0x908F], [0x6A02], [0x6D1B], [0x70D9], [0x73DE], [0x843D], [0x916A], [0x99F1],
      [0x4E82], [0x5375], [0x6B04], [0x721B], [0x862D], [0x9E1E], [0x5D50], [0x6FEB], [0x85CD],
      [0x8964], [0x62C9], [0x81D8], [0x881F], [0x5ECA], [0x6717], [0x6D6A], [0x72FC], [0x90CE],
      [0x4F86], [0x51B7], [0x52DE], [0x64C4], [0x6AD3], [0x7210], [0x76E7], [0x8001], [0x8606],
      [0x865C], [0x8DEF], [0x9732], [0x9B6F], [0x9DFA], [0x788C], [0x797F], [0x7DA0], [0x83C9],
      [0x9304], [0x9E7F], [0x8AD6], [0x58DF], [0x5F04], [0x7C60], [0x807E], [0x7262], [0x78CA],
      [0x8CC2], [0x96F7], [0x58D8], [0x5C62], [0x6A13], [0x6DDA], [0x6F0F], [0x7D2F], [0x7E37],
      [0x964B], [0x52D2], [0x808B], [0x51DC], [0x51CC], [0x7A1C], [0x7DBE], [0x83F1], [0x9675],
      [0x8B80], [0x62CF], [0x6A02], [0x8AFE], [0x4E39], [0x5BE7], [0x6012], [0x7387], [0x7570],
      [0x5317], [0x78FB], [0x4FBF], [0x5FA9], [0x4E0D], [0x6CCC], [0x6578], [0x7D22], [0x53C3],
      [0x585E], [0x7701], [0x8449], [0x8AAA], [0x6BBA], [0x8FB0], [0x6C88], [0x62FE], [0x82E5],
      [0x63A0], [0x7565], [0x4EAE], [0x5169], [0x51C9], [0x6881], [0x7CE7], [0x826F], [0x8AD2],
      [0x91CF], [0x52F5], [0x5442], [0x5973], [0x5EEC], [0x65C5], [0x6FFE], [0x792A], [0x95AD],
      [0x9A6A], [0x9E97], [0x9ECE], [0x529B], [0x66C6], [0x6B77], [0x8F62], [0x5E74], [0x6190],
      [0x6200], [0x649A], [0x6F23], [0x7149], [0x7489], [0x79CA], [0x7DF4], [0x806F], [0x8F26],
      [0x84EE], [0x9023], [0x934A], [0x5217], [0x52A3], [0x54BD], [0x70C8], [0x88C2], [0x8AAA],
      [0x5EC9], [0x5FF5], [0x637B], [0x6BAE], [0x7C3E], [0x7375], [0x4EE4], [0x56F9], [0x5BE7],
      [0x5DBA], [0x601C], [0x73B2], [0x7469], [0x7F9A], [0x8046], [0x9234], [0x96F6], [0x9748],
      [0x9818], [0x4F8B], [0x79AE], [0x91B4], [0x96B8], [0x60E1], [0x4E86], [0x50DA], [0x5BEE],
      [0x5C3F], [0x6599], [0x6A02], [0x71CE], [0x7642], [0x84FC], [0x907C], [0x9F8D], [0x6688],
      [0x962E], [0x5289], [0x677B], [0x67F3], [0x6D41], [0x6E9C], [0x7409], [0x7559], [0x786B],
      [0x7D10], [0x985E], [0x516D], [0x622E], [0x9678], [0x502B], [0x5D19], [0x6DEA], [0x8F2A],
      [0x5F8B], [0x6144], [0x6817], [0x7387], [0x9686], [0x5229], [0x540F], [0x5C65], [0x6613],
      [0x674E], [0x68A8], [0x6CE5], [0x7406], [0x75E2], [0x7F79], [0x88CF], [0x88E1], [0x91CC],
      [0x96E2], [0x533F], [0x6EBA], [0x541D], [0x71D0], [0x7498], [0x85FA], [0x96A3], [0x9C57],
      [0x9E9F], [0x6797], [0x6DCB], [0x81E8], [0x7ACB], [0x7B20], [0x7C92], [0x72C0], [0x7099],
      [0x8B58], [0x4EC0], [0x8336], [0x523A], [0x5207], [0x5EA6], [0x62D3], [0x7CD6], [0x5B85],
      [0x6D1E], [0x66B4], [0x8F3B], [0x884C], [0x964D], [0x898B], [0x5ED3], [0x5140], [0x55C0]]),
   (0xFA10, [[0x585A]]), (0xFA12, [[0x6674]]),
   (0xFA15,
     [[0x51DE], [0x732A], [0x76CA], [0x793C], [0x795E], [0x7965], [0x798F], [0x9756], [0x7CBE],
      [0x7FBD]]),
   (0xFA20, [[0x8612]]), (0xFA22, [[0x8AF8]]), (0xFA25, [[0x9038], [0x90FD]]),
   (0xFA2A,
     [[0x98EF], [0x98FC], [0x9928], [0x9DB4], [0x90DE], [0x96B7], [0x4FAE], [0x50E7], [0x514D],
      [0x52C9], [0x52E4], [0x5351], [0x559D], [0x5606], [0x5668], [0x5840], [0x58A8], [0x5C64],
      [0x5C6E], [0x6094], [0x6168], [0x618E], [0x61F2], [0x654F], [0x65E2], [0x6691], [0x6885],
      [0x6D77], [0x6E1A], [0x6F22], [0x716E], [0x722B], [0x7422], [0x7891], [0x793E], [0x7949],
      [0x7948], [0x7950], [0x7956], [0x795D], [0x798D], [0x798E], [0x7A40], [0x7A81], [0x7BC0],
      [0x7DF4], [0x7E09], [0x7E41], [0x7F72], [0x8005], [0x81ED], [0x8279], [0x8279], [0x8457],
      [0x8910], [0x8996], [0x8B01], [0x8B39], [0x8CD3], [0x8D08], [0x8FB6], [0x9038], [0x96E3],
      [0x97FF], [0x983B], [0x6075], [0x242EE], [0x8218]]),
   (0xFA70,
     [[0x4E26], [0x51B5], [0x5168], [0x4F80], [0x5145], [0x5180], [0x52C7], [0x52FA], [0x559D],
      [0x5555], [0x5599], [0x55E2], [0x585A], [0x58B3], [0x5944], [0x5954], [0x5A62], [0x5B28],
      [0x5ED2], [0x5ED9], [0x5F69], [0x5FAD], [0x60D8], [0x614E], [0x6108], [0x618E], [0x6160],
      [0x61F2], [0x6234], [0x63C4], [0x641C], [0x6452], [0x6556], [0x6674], [0x6717], [0x671B],
      [0x6756], [0x6B79], [0x6BBA], [0x6D41], [0x6EDB], [0x6ECB], [0x6F22], [0x701E], [0x716E],
      [0x77A7], [0x7235], [0x72AF], [0x732A], [0x7471], [0x7506], [0x753B], [0x761D], [0x761F],
      [0x76CA], [0x76DB], [0x76F4], [0x774A], [0x7740], [0x78CC], [0x7AB1], [0x7BC0], [0x7C7B],
      [0x7D5B], [0x7DF4], [0x7F3E], [0x8005], [0x8352], [0x83EF], [0x8779], [0x8941], [0x8986],
      [0x8996], [0x8ABF], [0x8AF8], [0x8ACB], [0x8B01], [0x8AFE], [0x8AED], [0x8B39], [0x8B8A],
      [0x8D08], [0x8F38], [0x9072], [0x9199], [0x9276], [0x967C], [0x96E3], [0x9756], [0x97DB],
      [0x97FF], [0x980B], [0x983B], [0x9B12], [0x9F9C], [0x2284A], [0x22844], [0x233D5],
      [0x3B9D], [0x4018], [0x4039], [0x25249], [0x25CD0], [0x27ED3], [0x9F43], [0x9F8E]])]

end Thesaurus.Unicode.Decomposition
