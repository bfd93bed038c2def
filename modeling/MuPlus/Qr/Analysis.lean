import MuPlus.Qr.Format
import MuPlus.Uefi.Status

/-!
# MuPlus.Qr.Analysis

**Step 1 of the QR encoder, data analysis** (`Step1_Process`, `CheckEncodingType` and
`CheckQrVersion` in `QrEncoderLib/QrEncoderLib.c`, over the table `gQrTable` of
`QrEncoderTables.c`, after ISO/IEC 18004:2015 Tables 7 and 9).

Step 1 settles the mode and the version. A requested mode must be at least the one the data
needs; a requested version is compared with the first version whose capacity holds the data,
`CheckQrVersion`, which answers `0` when no version does. The same `0` is `QrAutoVersion`, and
no requested version is smaller than it.

## Results

* `checkQrVersion_spec`: `CheckQrVersion` finds the first version that holds the data, and
  answers `0` exactly when none does;
* `step1Process_fits`: when the data fits in some version, a version Step 1 accepts holds it,
  since the capacities grow with the version (`maxLength_mono`);
* `step1Process_accepts_unfit_version`: when the data fits in no version, Step 1 accepts any
  requested version, and its table entry cannot hold the data.
-/

namespace MuPlus.Qr

/-- `QRENCODING`, the modes `QrInitialize` lets through: `QrAutoMode = 0` to `QrByteMode = 3`. -/
inductive QrEncoding where
  | auto
  | numeric
  | alphaNumeric
  | byte
  deriving DecidableEq, Repr

/-- The mode's value in the `QRENCODING` enumeration. -/
def QrEncoding.toNat : QrEncoding → Nat
  | .auto => 0
  | .numeric => 1
  | .alphaNumeric => 2
  | .byte => 3

def qrAutoVersion : Nat := 0
def qrMinVersion : Nat := 1
def qrMaxVersion : Nat := 40
def qrQuietZone : Nat := 4

/-- `QrTableEntry`: one row of `gQrTable`. -/
structure QrTableEntry where
  totalWords : Nat
  ecWordsPerBlock : Nat
  group1BlockCount : Nat
  group1Words : Nat
  group2BlockCount : Nat
  group2Words : Nat
  requiredRemainder : Nat
  maxNumeric : Nat
  maxAlphanumeric : Nat
  maxBytes : Nat
  maxKanji : Nat
  deriving DecidableEq, Repr, Inhabited

/-- `gQrTable`: four rows per version, in `QRLEVEL` order. -/
def gQrTable : List QrTableEntry := [
  ⟨19, 7, 1, 19, 0, 0, 0, 41, 25, 17, 10⟩, -- 1-L
  ⟨16, 10, 1, 16, 0, 0, 0, 34, 20, 14, 8⟩, -- 1-M
  ⟨13, 13, 1, 13, 0, 0, 0, 27, 16, 11, 7⟩, -- 1-Q
  ⟨9, 17, 1, 9, 0, 0, 0, 17, 10, 7, 4⟩, -- 1-H
  ⟨34, 10, 1, 34, 0, 0, 7, 77, 47, 32, 20⟩, -- 2-L
  ⟨28, 16, 1, 28, 0, 0, 7, 63, 38, 26, 16⟩, -- 2-M
  ⟨22, 22, 1, 22, 0, 0, 7, 48, 29, 20, 12⟩, -- 2-Q
  ⟨16, 28, 1, 16, 0, 0, 7, 34, 20, 14, 8⟩, -- 2-H
  ⟨55, 15, 1, 55, 0, 0, 7, 127, 77, 53, 32⟩, -- 3-L
  ⟨44, 26, 1, 44, 0, 0, 7, 101, 61, 42, 26⟩, -- 3-M
  ⟨34, 18, 2, 17, 0, 0, 7, 77, 47, 32, 20⟩, -- 3-Q
  ⟨26, 22, 2, 13, 0, 0, 7, 58, 35, 24, 15⟩, -- 3-H
  ⟨80, 20, 1, 80, 0, 0, 7, 187, 114, 78, 48⟩, -- 4-L
  ⟨64, 18, 2, 32, 0, 0, 7, 149, 90, 62, 38⟩, -- 4-M
  ⟨48, 26, 2, 24, 0, 0, 7, 111, 67, 46, 28⟩, -- 4-Q
  ⟨36, 16, 4, 9, 0, 0, 7, 82, 50, 34, 21⟩, -- 4-H
  ⟨108, 26, 1, 108, 0, 0, 7, 255, 154, 106, 65⟩, -- 5-L
  ⟨86, 24, 2, 43, 0, 0, 7, 202, 122, 84, 52⟩, -- 5-M
  ⟨62, 18, 2, 15, 2, 16, 7, 144, 87, 60, 37⟩, -- 5-Q
  ⟨46, 22, 2, 11, 2, 12, 7, 106, 64, 44, 27⟩, -- 5-H
  ⟨136, 18, 2, 68, 0, 0, 7, 322, 195, 134, 82⟩, -- 6-L
  ⟨108, 16, 4, 27, 0, 0, 7, 255, 154, 106, 65⟩, -- 6-M
  ⟨76, 24, 4, 19, 0, 0, 7, 178, 108, 74, 45⟩, -- 6-Q
  ⟨60, 28, 4, 15, 0, 0, 7, 139, 84, 58, 36⟩, -- 6-H
  ⟨156, 20, 2, 78, 0, 0, 0, 370, 224, 154, 95⟩, -- 7-L
  ⟨124, 18, 4, 31, 0, 0, 0, 293, 178, 122, 75⟩, -- 7-M
  ⟨88, 18, 2, 14, 4, 15, 0, 207, 125, 86, 53⟩, -- 7-Q
  ⟨66, 26, 4, 13, 1, 14, 0, 154, 93, 64, 39⟩, -- 7-H
  ⟨194, 24, 2, 97, 0, 0, 0, 461, 279, 192, 118⟩, -- 8-L
  ⟨154, 22, 2, 38, 2, 39, 0, 365, 221, 152, 93⟩, -- 8-M
  ⟨110, 22, 4, 18, 2, 19, 0, 259, 157, 108, 66⟩, -- 8-Q
  ⟨86, 26, 4, 14, 2, 15, 0, 202, 122, 84, 52⟩, -- 8-H
  ⟨232, 30, 2, 116, 0, 0, 0, 552, 335, 230, 141⟩, -- 9-L
  ⟨182, 22, 3, 36, 2, 37, 0, 432, 262, 180, 111⟩, -- 9-M
  ⟨132, 20, 4, 16, 4, 17, 0, 312, 189, 130, 80⟩, -- 9-Q
  ⟨100, 24, 4, 12, 4, 13, 0, 235, 143, 98, 60⟩, -- 9-H
  ⟨274, 18, 2, 68, 2, 69, 0, 652, 395, 271, 167⟩, -- 10-L
  ⟨216, 26, 4, 43, 1, 44, 0, 513, 311, 213, 131⟩, -- 10-M
  ⟨154, 24, 6, 19, 2, 20, 0, 364, 221, 151, 93⟩, -- 10-Q
  ⟨122, 28, 6, 15, 2, 16, 0, 288, 174, 119, 74⟩, -- 10-H
  ⟨324, 20, 4, 81, 0, 0, 0, 772, 468, 321, 198⟩, -- 11-L
  ⟨254, 30, 1, 50, 4, 51, 0, 604, 366, 251, 155⟩, -- 11-M
  ⟨180, 28, 4, 22, 4, 23, 0, 427, 259, 177, 109⟩, -- 11-Q
  ⟨140, 24, 3, 12, 8, 13, 0, 331, 200, 137, 85⟩, -- 11-H
  ⟨370, 24, 2, 92, 2, 93, 0, 883, 535, 367, 226⟩, -- 12-L
  ⟨290, 22, 6, 36, 2, 37, 0, 691, 419, 287, 177⟩, -- 12-M
  ⟨206, 26, 4, 20, 6, 21, 0, 489, 296, 203, 125⟩, -- 12-Q
  ⟨158, 28, 7, 14, 4, 15, 0, 374, 227, 155, 96⟩, -- 12-H
  ⟨428, 26, 4, 107, 0, 0, 0, 1022, 619, 425, 262⟩, -- 13-L
  ⟨334, 22, 8, 37, 1, 38, 0, 796, 483, 331, 204⟩, -- 13-M
  ⟨244, 24, 8, 20, 4, 21, 0, 580, 352, 241, 149⟩, -- 13-Q
  ⟨180, 22, 12, 11, 4, 12, 0, 427, 259, 177, 109⟩, -- 13-H
  ⟨461, 30, 3, 115, 1, 116, 3, 1101, 667, 458, 282⟩, -- 14-L
  ⟨365, 24, 4, 40, 5, 41, 3, 871, 528, 362, 223⟩, -- 14-M
  ⟨261, 20, 11, 16, 5, 17, 3, 621, 376, 258, 159⟩, -- 14-Q
  ⟨197, 24, 11, 12, 5, 13, 3, 468, 283, 194, 120⟩, -- 14-H
  ⟨523, 22, 5, 87, 1, 88, 3, 1250, 758, 520, 320⟩, -- 15-L
  ⟨415, 24, 5, 41, 5, 42, 3, 991, 600, 412, 254⟩, -- 15-M
  ⟨295, 30, 5, 24, 7, 25, 3, 703, 426, 292, 180⟩, -- 15-Q
  ⟨223, 24, 11, 12, 7, 13, 3, 530, 321, 220, 136⟩, -- 15-H
  ⟨589, 24, 5, 98, 1, 99, 3, 1408, 854, 586, 361⟩, -- 16-L
  ⟨453, 28, 7, 45, 3, 46, 3, 1082, 656, 450, 277⟩, -- 16-M
  ⟨325, 24, 15, 19, 2, 20, 3, 775, 470, 322, 198⟩, -- 16-Q
  ⟨253, 30, 3, 15, 13, 16, 3, 602, 365, 250, 154⟩, -- 16-H
  ⟨647, 28, 1, 107, 5, 108, 3, 1548, 938, 644, 397⟩, -- 17-L
  ⟨507, 28, 10, 46, 1, 47, 3, 1212, 734, 504, 310⟩, -- 17-M
  ⟨367, 28, 1, 22, 15, 23, 3, 876, 531, 364, 224⟩, -- 17-Q
  ⟨283, 28, 2, 14, 17, 15, 3, 674, 408, 280, 173⟩, -- 17-H
  ⟨721, 30, 5, 120, 1, 121, 3, 1725, 1046, 718, 442⟩, -- 18-L
  ⟨563, 26, 9, 43, 4, 44, 3, 1346, 816, 560, 345⟩, -- 18-M
  ⟨397, 28, 17, 22, 1, 23, 3, 948, 574, 394, 243⟩, -- 18-Q
  ⟨313, 28, 2, 14, 19, 15, 3, 746, 452, 310, 191⟩, -- 18-H
  ⟨795, 28, 3, 113, 4, 114, 3, 1903, 1153, 792, 488⟩, -- 19-L
  ⟨627, 26, 3, 44, 11, 45, 3, 1500, 909, 624, 384⟩, -- 19-M
  ⟨445, 26, 17, 21, 4, 22, 3, 1063, 644, 442, 272⟩, -- 19-Q
  ⟨341, 26, 9, 13, 16, 14, 3, 813, 493, 338, 208⟩, -- 19-H
  ⟨861, 28, 3, 107, 5, 108, 3, 2061, 1249, 858, 528⟩, -- 20-L
  ⟨669, 26, 3, 41, 13, 42, 3, 1600, 970, 666, 410⟩, -- 20-M
  ⟨485, 30, 15, 24, 5, 25, 3, 1159, 702, 482, 297⟩, -- 20-Q
  ⟨385, 28, 15, 15, 10, 16, 3, 919, 557, 382, 235⟩, -- 20-H
  ⟨932, 28, 4, 116, 4, 117, 4, 2232, 1352, 929, 572⟩, -- 21-L
  ⟨714, 26, 17, 42, 0, 0, 4, 1708, 1035, 711, 438⟩, -- 21-M
  ⟨512, 28, 17, 22, 6, 23, 4, 1224, 742, 509, 314⟩, -- 21-Q
  ⟨406, 30, 19, 16, 6, 17, 4, 969, 587, 403, 248⟩, -- 21-H
  ⟨1006, 28, 2, 111, 7, 112, 4, 2409, 1460, 1003, 618⟩, -- 22-L
  ⟨782, 28, 17, 46, 0, 0, 4, 1872, 1134, 779, 480⟩, -- 22-M
  ⟨568, 30, 7, 24, 16, 25, 4, 1358, 823, 565, 348⟩, -- 22-Q
  ⟨442, 24, 34, 13, 0, 0, 4, 1056, 640, 439, 270⟩, -- 22-H
  ⟨1094, 30, 4, 121, 5, 122, 4, 2620, 1588, 1091, 672⟩, -- 23-L
  ⟨860, 28, 4, 47, 14, 48, 4, 2059, 1248, 857, 528⟩, -- 23-M
  ⟨614, 30, 11, 24, 14, 25, 4, 1468, 890, 611, 376⟩, -- 23-Q
  ⟨464, 30, 16, 15, 14, 16, 4, 1108, 672, 461, 284⟩, -- 23-H
  ⟨1174, 30, 6, 117, 4, 118, 4, 2812, 1704, 1171, 721⟩, -- 24-L
  ⟨914, 28, 6, 45, 14, 46, 4, 2188, 1326, 911, 561⟩, -- 24-M
  ⟨664, 30, 11, 24, 16, 25, 4, 1588, 963, 661, 407⟩, -- 24-Q
  ⟨514, 30, 30, 16, 2, 17, 4, 1228, 744, 511, 315⟩, -- 24-H
  ⟨1276, 26, 8, 106, 4, 107, 4, 3057, 1853, 1273, 784⟩, -- 25-L
  ⟨1000, 28, 8, 47, 13, 48, 4, 2395, 1451, 997, 614⟩, -- 25-M
  ⟨718, 30, 7, 24, 22, 25, 4, 1718, 1041, 715, 440⟩, -- 25-Q
  ⟨538, 30, 22, 15, 13, 16, 4, 1286, 779, 535, 330⟩, -- 25-H
  ⟨1370, 28, 10, 114, 2, 115, 4, 3283, 1990, 1367, 842⟩, -- 26-L
  ⟨1062, 28, 19, 46, 4, 47, 4, 2544, 1542, 1059, 652⟩, -- 26-M
  ⟨754, 28, 28, 22, 6, 23, 4, 1804, 1094, 751, 462⟩, -- 26-Q
  ⟨596, 30, 33, 16, 4, 17, 4, 1425, 864, 593, 365⟩, -- 26-H
  ⟨1468, 30, 8, 122, 4, 123, 4, 3517, 2132, 1465, 902⟩, -- 27-L
  ⟨1128, 28, 22, 45, 3, 46, 4, 2701, 1637, 1125, 692⟩, -- 27-M
  ⟨808, 30, 8, 23, 26, 24, 4, 1933, 1172, 805, 496⟩, -- 27-Q
  ⟨628, 30, 12, 15, 28, 16, 4, 1501, 910, 625, 385⟩, -- 27-H
  ⟨1531, 30, 3, 117, 10, 118, 3, 3669, 2223, 1528, 940⟩, -- 28-L
  ⟨1193, 28, 3, 45, 23, 46, 3, 2857, 1732, 1190, 732⟩, -- 28-M
  ⟨871, 30, 4, 24, 31, 25, 3, 2085, 1263, 868, 534⟩, -- 28-Q
  ⟨661, 30, 11, 15, 31, 16, 3, 1581, 958, 658, 405⟩, -- 28-H
  ⟨1631, 30, 7, 116, 7, 117, 3, 3909, 2369, 1628, 1002⟩, -- 29-L
  ⟨1267, 28, 21, 45, 7, 46, 3, 3035, 1839, 1264, 778⟩, -- 29-M
  ⟨911, 30, 1, 23, 37, 24, 3, 2181, 1322, 908, 559⟩, -- 29-Q
  ⟨701, 30, 19, 15, 26, 16, 3, 1677, 1016, 698, 430⟩, -- 29-H
  ⟨1735, 30, 5, 115, 10, 116, 3, 4158, 2520, 1732, 1066⟩, -- 30-L
  ⟨1373, 28, 19, 47, 10, 48, 3, 3289, 1994, 1370, 843⟩, -- 30-M
  ⟨985, 30, 15, 24, 25, 25, 3, 2358, 1429, 982, 604⟩, -- 30-Q
  ⟨745, 30, 23, 15, 25, 16, 3, 1782, 1080, 742, 457⟩, -- 30-H
  ⟨1843, 30, 13, 115, 3, 116, 3, 4417, 2677, 1840, 1132⟩, -- 31-L
  ⟨1455, 28, 2, 46, 29, 47, 3, 3486, 2113, 1452, 894⟩, -- 31-M
  ⟨1033, 30, 42, 24, 1, 25, 3, 2473, 1499, 1030, 634⟩, -- 31-Q
  ⟨793, 30, 23, 15, 28, 16, 3, 1897, 1150, 790, 486⟩, -- 31-H
  ⟨1955, 30, 17, 115, 0, 0, 3, 4686, 2840, 1952, 1201⟩, -- 32-L
  ⟨1541, 28, 10, 46, 23, 47, 3, 3693, 2238, 1538, 947⟩, -- 32-M
  ⟨1115, 30, 10, 24, 35, 25, 3, 2670, 1618, 1112, 684⟩, -- 32-Q
  ⟨845, 30, 19, 15, 35, 16, 3, 2022, 1226, 842, 518⟩, -- 32-H
  ⟨2071, 30, 17, 115, 1, 116, 3, 4965, 3009, 2068, 1273⟩, -- 33-L
  ⟨1631, 28, 14, 46, 21, 47, 3, 3909, 2369, 1628, 1002⟩, -- 33-M
  ⟨1171, 30, 29, 24, 19, 25, 3, 2805, 1700, 1168, 719⟩, -- 33-Q
  ⟨901, 30, 11, 15, 46, 16, 3, 2157, 1307, 898, 553⟩, -- 33-H
  ⟨2191, 30, 13, 115, 6, 116, 3, 5253, 3183, 2188, 1347⟩, -- 34-L
  ⟨1725, 28, 14, 46, 23, 47, 3, 4134, 2506, 1722, 1060⟩, -- 34-M
  ⟨1231, 30, 44, 24, 7, 25, 3, 2949, 1787, 1228, 756⟩, -- 34-Q
  ⟨961, 30, 59, 16, 1, 17, 3, 2301, 1394, 958, 590⟩, -- 34-H
  ⟨2306, 30, 12, 121, 7, 122, 0, 5529, 3351, 2303, 1417⟩, -- 35-L
  ⟨1812, 28, 12, 47, 26, 48, 0, 4343, 2632, 1809, 1113⟩, -- 35-M
  ⟨1286, 30, 39, 24, 14, 25, 0, 3081, 1867, 1283, 790⟩, -- 35-Q
  ⟨986, 30, 22, 15, 41, 16, 0, 2361, 1431, 983, 605⟩, -- 35-H
  ⟨2434, 30, 6, 121, 14, 122, 0, 5836, 3537, 2431, 1496⟩, -- 36-L
  ⟨1914, 28, 6, 47, 34, 48, 0, 4588, 2780, 1911, 1176⟩, -- 36-M
  ⟨1354, 30, 46, 24, 10, 25, 0, 3244, 1966, 1351, 832⟩, -- 36-Q
  ⟨1054, 30, 2, 15, 64, 16, 0, 2524, 1530, 1051, 647⟩, -- 36-H
  ⟨2566, 30, 17, 122, 4, 123, 0, 6153, 3729, 2563, 1577⟩, -- 37-L
  ⟨1992, 28, 29, 46, 14, 47, 0, 4775, 2894, 1989, 1224⟩, -- 37-M
  ⟨1426, 30, 49, 24, 10, 25, 0, 3417, 2071, 1423, 876⟩, -- 37-Q
  ⟨1096, 30, 24, 15, 46, 16, 0, 2625, 1591, 1093, 673⟩, -- 37-H
  ⟨2702, 30, 4, 122, 18, 123, 0, 6479, 3927, 2699, 1661⟩, -- 38-L
  ⟨2102, 28, 13, 46, 32, 47, 0, 5039, 3054, 2099, 1292⟩, -- 38-M
  ⟨1502, 30, 48, 24, 14, 25, 0, 3599, 2181, 1499, 923⟩, -- 38-Q
  ⟨1142, 30, 42, 15, 32, 16, 0, 2735, 1658, 1139, 701⟩, -- 38-H
  ⟨2812, 30, 20, 117, 4, 118, 0, 6743, 4087, 2809, 1729⟩, -- 39-L
  ⟨2216, 28, 40, 47, 7, 48, 0, 5313, 3220, 2213, 1362⟩, -- 39-M
  ⟨1582, 30, 43, 24, 22, 25, 0, 3791, 2298, 1579, 972⟩, -- 39-Q
  ⟨1222, 30, 10, 15, 67, 16, 0, 2927, 1774, 1219, 750⟩, -- 39-H
  ⟨2956, 30, 19, 118, 6, 119, 0, 7089, 4296, 2953, 1817⟩, -- 40-L
  ⟨2334, 28, 18, 47, 31, 48, 0, 5596, 3391, 2331, 1435⟩, -- 40-M
  ⟨1666, 30, 34, 24, 34, 25, 0, 3993, 2420, 1663, 1024⟩, -- 40-Q
  ⟨1276, 30, 20, 15, 61, 16, 0, 3057, 1852, 1273, 784⟩  -- 40-H
]

/-- `gQrTable[i]`. -/
def qrTableEntry (i : Nat) : QrTableEntry :=
  gQrTable.getD i default

/-- The row `gQrT` of a version and level: `gQrTable[(gQrVersion - 1) * 4 + gQrLevel - 1]`. -/
def gQrT (qrVersion : Nat) (qrLevel : QrLevel) : QrTableEntry :=
  qrTableEntry ((qrVersion - 1) * 4 + qrLevel.toNat - 1)

/-- The capacity `CheckQrVersion` reads for a mode; `0` in its `default` branch. -/
def QrTableEntry.maxLength (qrT : QrTableEntry) : QrEncoding → Nat
  | .numeric => qrT.maxNumeric
  | .alphaNumeric => qrT.maxAlphanumeric
  | .byte => qrT.maxBytes
  | .auto => 0

/-- `gAlphaNumerics`: the 45 characters of the alphanumeric mode, by their value. -/
def gAlphaNumerics : List UInt8 :=
  [0x30, 0x31, 0x32, 0x33, 0x34, 0x35, 0x36, 0x37, 0x38, 0x39, 0x41, 0x42,
    0x43, 0x44, 0x45, 0x46, 0x47, 0x48, 0x49, 0x4A, 0x4B, 0x4C, 0x4D, 0x4E,
    0x4F, 0x50, 0x51, 0x52, 0x53, 0x54, 0x55, 0x56, 0x57, 0x58, 0x59, 0x5A,
    0x20, 0x24, 0x25, 0x2A, 0x2B, 0x2D, 0x2E, 0x2F, 0x3A]

/-! ### Step 1 -/

/-- The loop of `CheckEncodingType`: clear `numeric` at a byte that is not a digit, and stop
with `alphanum` cleared at one that is not in `gAlphaNumerics`. -/
def checkEncodingTypeLoop (numeric : Bool) : List UInt8 → Bool × Bool
  | [] => (numeric, true)
  | b :: data =>
      let numeric := if b < 0x30 ∨ b > 0x39 then false else numeric
      if b ∉ gAlphaNumerics then (numeric, false)
      else checkEncodingTypeLoop numeric data

/-- `CheckEncodingType (Data, Datalen)`: the smallest mode that encodes the data. -/
def checkEncodingType (data : List UInt8) : QrEncoding :=
  let (numeric, alphanum) := checkEncodingTypeLoop true data
  if numeric then .numeric
  else if alphanum then .alphaNumeric
  else .byte

/-- The loop of `CheckQrVersion` over one level's rows, from `version`: the first version whose
capacity for the mode is at least `dataLen`, or `0`. -/
def checkQrVersionLoop (qrMode : QrEncoding) (dataLen : Nat) :
    List QrTableEntry → Nat → Nat
  | [], _ => 0
  | qrT :: entries, version =>
      if dataLen ≤ qrT.maxLength qrMode then version
      else checkQrVersionLoop qrMode dataLen entries (version + 1)

/-- The rows of one level in version order: `i = gQrLevel - 1`, then `i += 4`. -/
def levelEntries (qrLevel : QrLevel) : List QrTableEntry :=
  (List.range qrMaxVersion).map fun v => gQrT (v + 1) qrLevel

/-- `CheckQrVersion (Data, DataLen)` at the level and mode of the encoder. -/
def checkQrVersion (qrLevel : QrLevel) (qrMode : QrEncoding) (dataLen : Nat) : Nat :=
  checkQrVersionLoop qrMode dataLen (levelEntries qrLevel) 1

/-- The encoder's parameters: `gQrVersion`, `gQrLevel` and `gQrMode`. -/
structure QrParams where
  qrVersion : Nat
  qrLevel : QrLevel
  qrMode : QrEncoding
  deriving DecidableEq, Repr

/-- `gQrSize = gQrVersion * 4 + 17`. -/
def qrSize (qrVersion : Nat) : Nat :=
  qrVersion * 4 + 17

/-- `Step1_Process (Data, DataLen, RegionSize)`: settle the mode and the version, and check
that the region holds the symbol and its quiet zone. The parameters it returns are those it
has set, also on an error. -/
def step1Process (p : QrParams) (data : List UInt8) (regionSize : Int) : EfiStatus × QrParams :=
  let suggestedMode := checkEncodingType data
  if p.qrMode.toNat < suggestedMode.toNat ∧ p.qrMode ≠ .auto then (.invalidParameter, p)
  else
    let p := if p.qrMode.toNat < suggestedMode.toNat then { p with qrMode := suggestedMode } else p
    let suggestedQrVersion := checkQrVersion p.qrLevel p.qrMode data.length
    if p.qrVersion < suggestedQrVersion ∧ p.qrVersion ≠ qrAutoVersion then (.invalidParameter, p)
    else
      let p := if p.qrVersion < suggestedQrVersion then { p with qrVersion := suggestedQrVersion }
        else p
      if p.qrVersion < qrMinVersion ∨ p.qrVersion > qrMaxVersion then (.invalidParameter, p)
      -- `(gQrMode <= QrAutoMode) || (gQrMode > QrByteMode)`: no mode above `QrByteMode` gets here
      else if p.qrMode = .auto then (.invalidParameter, p)
      else if regionSize < qrSize p.qrVersion + 2 * qrQuietZone then (.invalidParameter, p)
      else (.success, p)

/-! ### `CheckEncodingType` -/

/-- The digits are alphanumeric characters. -/
theorem mem_gAlphaNumerics_of_digit {b : UInt8} (h : ¬(b < 0x30 ∨ b > 0x39)) :
    b ∈ gAlphaNumerics := by
  have hdigits : ∀ n < 10, UInt8.ofNat (0x30 + n) ∈ gAlphaNumerics := by decide
  have hlo : 0x30 ≤ b.toNat := by
    have := UInt8.lt_iff_toNat_lt.not.mp (not_or.mp h).1
    simpa using this
  have hhi : b.toNat ≤ 0x39 := by
    have := UInt8.lt_iff_toNat_lt.not.mp (not_or.mp h).2
    simpa using this
  have hb : b = UInt8.ofNat (0x30 + (b.toNat - 0x30)) := by
    apply UInt8.toNat_inj.mp
    rw [UInt8.toNat_ofNat']
    omega
  rw [hb]
  exact hdigits _ (by omega)

/-- `alphanum` stays set exactly when every byte is one of `gAlphaNumerics`. -/
theorem checkEncodingTypeLoop_alphanum {numeric : Bool} {data : List UInt8} :
    (checkEncodingTypeLoop numeric data).2 = true ↔ ∀ b ∈ data, b ∈ gAlphaNumerics := by
  induction data generalizing numeric with
  | nil => simp [checkEncodingTypeLoop]
  | cons b data ih =>
      simp only [checkEncodingTypeLoop, List.forall_mem_cons]
      by_cases hb : b ∈ gAlphaNumerics
      · simp only [hb, not_true_eq_false, if_false, ih, true_and]
      · simp only [hb, not_false_eq_true, if_true, false_and, iff_false]
        exact Bool.false_ne_true

/-- The loop stops at a byte outside `gAlphaNumerics`, which is not a digit: `numeric` is then
cleared. -/
theorem checkEncodingTypeLoop_numeric {numeric : Bool} {data : List UInt8}
    (h : (checkEncodingTypeLoop numeric data).1 = true) :
    (checkEncodingTypeLoop numeric data).2 = true := by
  induction data generalizing numeric with
  | nil => rfl
  | cons b data ih =>
      simp only [checkEncodingTypeLoop] at h ⊢
      by_cases hb : b ∈ gAlphaNumerics
      · simp only [hb, not_true_eq_false, if_false] at h ⊢
        exact ih h
      · have hdigit : b < 0x30 ∨ b > 0x39 := by
          by_contra hdigit
          exact hb (mem_gAlphaNumerics_of_digit hdigit)
        simp only [hb, hdigit, not_false_eq_true, if_true] at h
        exact absurd h Bool.false_ne_true

/-- Data of a mode below `QrByteMode` is made of alphanumeric characters. -/
theorem checkEncodingType_ne_byte {data : List UInt8} (h : checkEncodingType data ≠ .byte) :
    ∀ b ∈ data, b ∈ gAlphaNumerics := by
  rw [← @checkEncodingTypeLoop_alphanum true]
  simp only [checkEncodingType] at h
  split_ifs at h with hnumeric halphanum
  · exact checkEncodingTypeLoop_numeric hnumeric
  · exact halphanum
  · exact absurd rfl h

/-! ### `CheckQrVersion` -/

/-- The loop answers `0` exactly when no row holds the data. -/
theorem checkQrVersionLoop_eq_zero_iff {qrMode : QrEncoding} {dataLen : Nat}
    {entries : List QrTableEntry} {version : Nat} (hv : 0 < version) :
    checkQrVersionLoop qrMode dataLen entries version = 0 ↔
      ∀ e ∈ entries, e.maxLength qrMode < dataLen := by
  induction entries generalizing version with
  | nil => simp [checkQrVersionLoop]
  | cons e entries ih =>
      simp only [checkQrVersionLoop, List.forall_mem_cons]
      split_ifs with hfit
      · -- This row holds the data: the loop answers its version, which is not `0`.
        exact iff_of_false (by omega) fun h => by omega
      · rw [ih (by omega)]
        exact ⟨fun h => ⟨by omega, h⟩, fun h => h.2⟩

/-- Otherwise it answers the version of a row that holds the data. -/
theorem checkQrVersionLoop_fits {qrMode : QrEncoding} {dataLen : Nat}
    {entries : List QrTableEntry} {version : Nat}
    (h : checkQrVersionLoop qrMode dataLen entries version ≠ 0) :
    ∃ j, ∃ hj : j < entries.length,
      checkQrVersionLoop qrMode dataLen entries version = version + j ∧
        dataLen ≤ entries[j].maxLength qrMode := by
  induction entries generalizing version with
  | nil => exact absurd rfl h
  | cons e entries ih =>
      simp only [checkQrVersionLoop] at h ⊢
      split_ifs at h ⊢ with hfit
      · exact ⟨0, by simp, rfl, hfit⟩
      · obtain ⟨j, hj, heq, hle⟩ := ih h
        refine ⟨j + 1, by simp [hj], by rw [heq]; omega, ?_⟩
        simpa using hle

theorem getElem_levelEntries {qrLevel : QrLevel} {j : Nat} (hj : j < (levelEntries qrLevel).length) :
    (levelEntries qrLevel)[j] = gQrT (j + 1) qrLevel := by
  simp [levelEntries]

@[simp] theorem length_levelEntries (qrLevel : QrLevel) :
    (levelEntries qrLevel).length = qrMaxVersion := by
  simp [levelEntries]

/-- **`CheckQrVersion`**: `0` when no version holds the data, and otherwise a version that
does. -/
theorem checkQrVersion_spec (qrLevel : QrLevel) (qrMode : QrEncoding) (dataLen : Nat) :
    (checkQrVersion qrLevel qrMode dataLen = 0 ↔
      ∀ v, qrMinVersion ≤ v → v ≤ qrMaxVersion → (gQrT v qrLevel).maxLength qrMode < dataLen) ∧
    (checkQrVersion qrLevel qrMode dataLen ≠ 0 →
      qrMinVersion ≤ checkQrVersion qrLevel qrMode dataLen ∧
        checkQrVersion qrLevel qrMode dataLen ≤ qrMaxVersion ∧
        dataLen ≤ (gQrT (checkQrVersion qrLevel qrMode dataLen) qrLevel).maxLength qrMode) := by
  refine ⟨?_, fun h => ?_⟩
  · rw [checkQrVersion, checkQrVersionLoop_eq_zero_iff Nat.one_pos]
    constructor
    · intro hall v hv1 hv40
      apply hall
      simp only [levelEntries, List.mem_map, List.mem_range]
      simp only [qrMaxVersion, qrMinVersion] at hv1 hv40
      exact ⟨v - 1, by simp only [qrMaxVersion]; omega, by congr 1; omega⟩
    · intro hall e he
      simp only [levelEntries, List.mem_map, List.mem_range] at he
      obtain ⟨v, hv, rfl⟩ := he
      exact hall (v + 1) (by simp [qrMinVersion]) hv
  · obtain ⟨j, hj, heq, hle⟩ := checkQrVersionLoop_fits h
    simp only [length_levelEntries] at hj
    rw [getElem_levelEntries] at hle
    simp only [checkQrVersion] at heq ⊢
    rw [heq, Nat.add_comm]
    exact ⟨by simp [qrMinVersion], by omega, hle⟩

/-! ### Capacities grow with the version -/

theorem maxLength_succ_le (qrLevel : QrLevel) (qrMode : QrEncoding) :
    ∀ v < qrMaxVersion - 1,
      (gQrT (v + 1) qrLevel).maxLength qrMode ≤ (gQrT (v + 2) qrLevel).maxLength qrMode := by
  cases qrLevel <;> cases qrMode <;> decide

/-- Every capacity of `gQrTable` grows with the version. -/
theorem maxLength_mono {qrLevel : QrLevel} {qrMode : QrEncoding} {v w : Nat}
    (hv : qrMinVersion ≤ v) (hvw : v ≤ w) (hw : w ≤ qrMaxVersion) :
    (gQrT v qrLevel).maxLength qrMode ≤ (gQrT w qrLevel).maxLength qrMode := by
  induction w, hvw using Nat.le_induction with
  | base => exact Nat.le_refl _
  | succ w hvw ih =>
      simp only [qrMinVersion, qrMaxVersion] at hv hw ih
      have hstep := maxLength_succ_le qrLevel qrMode (w - 1) (by simp [qrMaxVersion]; omega)
      have hw1 : w - 1 + 1 = w := by omega
      have hw2 : w - 1 + 2 = w + 1 := by omega
      rw [hw1, hw2] at hstep
      exact Nat.le_trans (ih (by omega)) hstep

/-! ### What Step 1 accepts -/

/-- Everything a successful Step 1 has checked and set: the mode (the requested one, or the
suggested one for `QrAutoMode`), the version (the requested one, or the suggested one for
`QrAutoVersion`) and the room for the symbol. -/
theorem step1Process_eq_success {p p' : QrParams} {data : List UInt8} {regionSize : Int}
    (h : step1Process p data regionSize = (.success, p')) :
    p'.qrLevel = p.qrLevel ∧ p'.qrMode ≠ .auto ∧
      (p.qrVersion = qrAutoVersion ∨
        checkQrVersion p.qrLevel p'.qrMode data.length ≤ p.qrVersion) ∧
      p'.qrVersion = max p.qrVersion (checkQrVersion p.qrLevel p'.qrMode data.length) ∧
      qrMinVersion ≤ p'.qrVersion ∧ p'.qrVersion ≤ qrMaxVersion ∧
      (qrSize p'.qrVersion + 2 * qrQuietZone : Int) ≤ regionSize := by
  simp only [step1Process] at h
  -- The mode: the requested one when it is at least the suggested one, else the suggested one.
  by_cases hmode : p.qrMode.toNat < (checkEncodingType data).toNat ∧ p.qrMode ≠ .auto
  · rw [if_pos hmode] at h
    cases h
  rw [if_neg hmode] at h
  generalize hq : (if p.qrMode.toNat < (checkEncodingType data).toNat then
    { p with qrMode := checkEncodingType data } else p) = q at h
  have hq_level : q.qrLevel = p.qrLevel := by rw [← hq]; split <;> rfl
  have hq_version : q.qrVersion = p.qrVersion := by rw [← hq]; split <;> rfl
  -- The version: the requested one when it is at least the suggested one, else the suggested one.
  by_cases hversion : q.qrVersion < checkQrVersion q.qrLevel q.qrMode data.length ∧
      q.qrVersion ≠ qrAutoVersion
  · rw [if_pos hversion] at h
    cases h
  rw [if_neg hversion] at h
  generalize hr : (if q.qrVersion < checkQrVersion q.qrLevel q.qrMode data.length then
    { q with qrVersion := checkQrVersion q.qrLevel q.qrMode data.length } else q) = r at h
  have hr_level : r.qrLevel = q.qrLevel := by rw [← hr]; split <;> rfl
  have hr_mode : r.qrMode = q.qrMode := by rw [← hr]; split <;> rfl
  have hr_version : r.qrVersion = max q.qrVersion (checkQrVersion q.qrLevel q.qrMode data.length) := by
    rw [← hr]
    split
    · dsimp only
      exact (max_eq_right (by omega)).symm
    · exact (max_eq_left (by omega)).symm
  -- The checks on the result.
  split_ifs at h with hrange hauto hregion
  · cases h
  · cases h
  · cases h
  obtain rfl := (Prod.mk.inj h).2
  rw [hr_mode, hr_level, hq_level] at *
  rw [← hq_version]
  refine ⟨rfl, hauto, ?_, hr_version, by omega, by omega, by omega⟩
  rw [hq_version] at hversion ⊢
  omega

/-- The mode Step 1 accepts is at least the one the data needs. -/
theorem step1Process_mode_encodes {p p' : QrParams} {data : List UInt8} {regionSize : Int}
    (h : step1Process p data regionSize = (.success, p')) :
    (checkEncodingType data).toNat ≤ p'.qrMode.toNat := by
  simp only [step1Process] at h
  by_cases hmode : p.qrMode.toNat < (checkEncodingType data).toNat ∧ p.qrMode ≠ .auto
  · rw [if_pos hmode] at h
    cases h
  rw [if_neg hmode] at h
  -- From here on the mode is the requested one or the suggested one, whichever is larger.
  generalize hq : (if p.qrMode.toNat < (checkEncodingType data).toNat then
    { p with qrMode := checkEncodingType data } else p) = q at h
  have hq_mode : (checkEncodingType data).toNat ≤ q.qrMode.toNat := by
    rw [← hq]
    split
    · dsimp only
      omega
    · omega
  by_cases hversion : q.qrVersion < checkQrVersion q.qrLevel q.qrMode data.length ∧
      q.qrVersion ≠ qrAutoVersion
  · rw [if_pos hversion] at h
    cases h
  rw [if_neg hversion] at h
  generalize hr : (if q.qrVersion < checkQrVersion q.qrLevel q.qrMode data.length then
    { q with qrVersion := checkQrVersion q.qrLevel q.qrMode data.length } else q) = r at h
  have hr_mode : r.qrMode = q.qrMode := by rw [← hr]; split <;> rfl
  split_ifs at h
  · cases h
  · cases h
  · cases h
  obtain rfl := (Prod.mk.inj h).2
  rw [hr_mode]
  exact hq_mode

/-- **A version Step 1 accepts holds the data**, when the version was chosen automatically or
when the data fits in some version. -/
theorem step1Process_fits {p p' : QrParams} {data : List UInt8} {regionSize : Int}
    (h : step1Process p data regionSize = (.success, p'))
    (hfit : p.qrVersion = qrAutoVersion ∨ checkQrVersion p.qrLevel p'.qrMode data.length ≠ 0) :
    data.length ≤ (gQrT p'.qrVersion p'.qrLevel).maxLength p'.qrMode := by
  obtain ⟨hlevel, -, -, hversion, hmin, hmax, -⟩ := step1Process_eq_success h
  rw [hlevel]
  -- An automatic version is the suggested one, which is not `0` once it passed the range check.
  have hsuggested : checkQrVersion p.qrLevel p'.qrMode data.length ≠ 0 := by
    rcases hfit with hauto | hfit
    · simp only [hauto, qrAutoVersion, qrMinVersion] at hversion hmin
      omega
    · exact hfit
  obtain ⟨hmin', -, hle⟩ := (checkQrVersion_spec p.qrLevel p'.qrMode data.length).2 hsuggested
  refine Nat.le_trans hle (maxLength_mono hmin' ?_ hmax)
  rw [hversion]
  exact le_max_right _ _

/-- The byte `c` at level Q with an automatic version: Step 1 picks version 1, which holds it. -/
theorem step1Process_fits_auto_version :
    step1Process ⟨qrAutoVersion, .q, .auto⟩ [0x63] 29 = (.success, ⟨1, .q, .byte⟩) ∧
      [(0x63 : UInt8)].length ≤ (gQrT 1 .q).maxLength .byte := by
  have haccept : step1Process ⟨qrAutoVersion, .q, .auto⟩ [0x63] 29 = (.success, ⟨1, .q, .byte⟩) := by
    decide
  exact ⟨haccept, step1Process_fits haccept (.inl rfl)⟩

/-- **Step 1 accepts a requested version that cannot hold the data.** When the data fits in no
version, `CheckQrVersion` answers `0`, the test `gQrVersion < suggestedQrVersion` fails, and
Step 1 goes on with the requested version and its row of `gQrTable`, whose capacity is below
the data's length. -/
theorem step1Process_accepts_unfit_version {p : QrParams} {data : List UInt8}
    {regionSize : Int} (hversion : qrMinVersion ≤ p.qrVersion ∧ p.qrVersion ≤ qrMaxVersion)
    (hmode : p.qrMode ≠ .auto) (hsuggested : (checkEncodingType data).toNat ≤ p.qrMode.toNat)
    (hnowhere : checkQrVersion p.qrLevel p.qrMode data.length = 0)
    (hregion : (qrSize p.qrVersion + 2 * qrQuietZone : Int) ≤ regionSize) :
    step1Process p data regionSize = (.success, p) ∧
      (gQrT p.qrVersion p.qrLevel).maxLength p.qrMode < data.length := by
  refine ⟨?_, (checkQrVersion_spec _ _ _).1.mp hnowhere _ hversion.1 hversion.2⟩
  have hkeepMode : ¬p.qrMode.toNat < (checkEncodingType data).toNat := by omega
  have hkeepVersion : ¬p.qrVersion < 0 := by omega
  have hrange : ¬(p.qrVersion < qrMinVersion ∨ p.qrVersion > qrMaxVersion) := by omega
  have hroom : ¬regionSize < qrSize p.qrVersion + 2 * qrQuietZone := by omega
  simp only [step1Process, hkeepMode, false_and, if_false, hnowhere, hkeepVersion, hrange, hmode,
    hroom]

/-- 2954 bytes are one more than version 40 holds at level L; requested at version 40, they
pass Step 1. -/
theorem step1Process_accepts_2954_bytes :
    step1Process ⟨40, .l, .byte⟩ (List.replicate 2954 0x61) 185 = (.success, ⟨40, .l, .byte⟩) ∧
      (gQrT 40 .l).maxLength .byte < (List.replicate 2954 (0x61 : UInt8)).length := by
  have hnowhere : checkQrVersion .l .byte (List.replicate 2954 (0x61 : UInt8)).length = 0 := by
    rw [List.length_replicate]
    decide
  exact step1Process_accepts_unfit_version (by decide) (by decide) (by decide) hnowhere (by decide)

end MuPlus.Qr
