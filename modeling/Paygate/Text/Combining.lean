import Paygate.Text.CharClass

/-!
# Combining characters

Marks combine with the letter before them. A character has a combining class, 0 for one that starts
anew; marks behind a letter stand in the order of their classes. Some letters have composed forms
with a mark. The composed form of a text is found by taking every character apart and composing
again. The tables speak of the characters that labels of hosts may hold.
-/

namespace Paygate.Text

set_option maxRecDepth 4000 in
def mark : CharClass :=
  ⟨[768, 881, 1155, 1163, 1425, 1488, 1552, 1568, 1611, 1632, 1648, 1649, 1750, 1765, 1767, 1774,
   1809, 1810, 1840, 1869, 1958, 1969, 2027, 2036, 2045, 2048, 2070, 2074, 2075, 2084, 2085, 2088,
   2089, 2112, 2137, 2144, 2200, 2208, 2250, 2308, 2362, 2365, 2366, 2384, 2385, 2400, 2402, 2406,
   2433, 2437, 2492, 2493, 2494, 2510, 2519, 2528, 2530, 2534, 2558, 2565, 2620, 2652, 2672, 2674,
   2677, 2693, 2748, 2749, 2750, 2768, 2786, 2790, 2810, 2821, 2876, 2877, 2878, 2911, 2914, 2918,
   2946, 2947, 3006, 3024, 3031, 3046, 3072, 3077, 3132, 3133, 3134, 3160, 3170, 3174, 3201, 3205,
   3260, 3261, 3262, 3292, 3298, 3302, 3328, 3332, 3387, 3389, 3390, 3406, 3415, 3423, 3426, 3430,
   3457, 3461, 3530, 3558, 3570, 3585, 3633, 3634, 3636, 3648, 3655, 3664, 3761, 3762, 3764, 3773,
   3784, 3790, 3864, 3872, 3893, 3904, 3953, 3976, 3981, 4096, 4139, 4159, 4182, 4186, 4190, 4193,
   4194, 4197, 4199, 4206, 4209, 4213, 4226, 4238, 4239, 4240, 4250, 4304, 4957, 4992, 5906, 5919,
   5938, 5952, 5970, 5984, 6002, 6016, 6070, 6103, 6109, 6112, 6277, 6279, 6313, 6314, 6432, 6470,
   6679, 6688, 6741, 6784, 6832, 6863, 6912, 6917, 6964, 6981, 7019, 7043, 7073, 7086, 7142, 7168,
   7204, 7232, 7376, 7401, 7405, 7406, 7412, 7413, 7415, 7418, 7616, 7681, 11503, 11507, 11647,
   11648, 11744, 11823, 12330, 12348, 12441, 12445, 42607, 42623, 42654, 42656, 42736, 42775,
   43010, 43011, 43014, 43015, 43019, 43020, 43043, 43072, 43136, 43138, 43188, 43216, 43232,
   43250, 43263, 43264, 43302, 43312, 43335, 43396, 43443, 43471, 43493, 43494, 43561, 43584,
   43587, 43588, 43596, 43600, 43643, 43646, 43696, 43697, 43698, 43701, 43703, 43705, 43710,
   43712, 43713, 43714, 43755, 43762, 43765, 43777, 44003, 44016, 64286, 65139, 66045, 66176,
   66272, 66304, 66422, 66432, 68097, 68112, 68152, 68192, 68325, 68352, 68900, 68912, 69291,
   69296, 69446, 69488, 69506, 69552, 69632, 69635, 69688, 69734, 69744, 69745, 69747, 69749,
   69759, 69763, 69808, 69840, 69888, 69891, 69927, 69942, 69957, 69959, 70003, 70006, 70016,
   70019, 70067, 70081, 70089, 70096, 70188, 70207, 70367, 70384, 70400, 70405, 70459, 70461,
   70462, 70480, 70487, 70493, 70498, 70528, 70709, 70727, 70750, 70751, 70832, 70852, 71087,
   71128, 71132, 71168, 71216, 71236, 71339, 71352, 71453, 71472, 71724, 71872, 71984, 71999,
   72000, 72001, 72002, 72016, 72145, 72161, 72164, 72192, 72193, 72203, 72243, 72250, 72251,
   72272, 72273, 72284, 72330, 72349, 72751, 72768, 72850, 72960, 73009, 73030, 73031, 73040,
   73098, 73112, 73459, 73472, 92912, 92928, 92976, 92992, 94031, 94032, 94033, 94099, 94180,
   94194, 113821, 122624, 122880, 123023, 123184, 123191, 123566, 123584, 123628, 123632, 125136,
   125218, 125252, 125259]⟩

set_option maxRecDepth 4000 in
/-- The code points from which on a combining class holds. -/
def combiningClasses : List (Nat × Nat) :=
  [(768, 230), (789, 232), (790, 220), (794, 232), (795, 216), (796, 220), (801, 202), (803, 220),
   (807, 202), (809, 220), (820, 1), (825, 220), (829, 230), (839, 220), (842, 230), (845, 220),
   (848, 230), (851, 220), (855, 230), (856, 232), (857, 220), (859, 230), (860, 233), (861, 234),
   (863, 233), (864, 234), (866, 233), (867, 230), (881, 0), (1155, 230), (1163, 0), (1425, 220),
   (1426, 230), (1430, 220), (1431, 230), (1434, 222), (1435, 220), (1436, 230), (1442, 220),
   (1448, 230), (1450, 220), (1451, 230), (1453, 222), (1454, 228), (1455, 230), (1456, 10),
   (1457, 11), (1458, 12), (1459, 13), (1460, 14), (1461, 15), (1462, 16), (1463, 17), (1464, 18),
   (1465, 19), (1467, 20), (1468, 21), (1469, 22), (1471, 23), (1473, 24), (1474, 25), (1476,
   230), (1477, 220), (1479, 18), (1488, 0), (1552, 230), (1560, 30), (1561, 31), (1562, 32),
   (1568, 0), (1611, 27), (1612, 28), (1613, 29), (1614, 30), (1615, 31), (1616, 32), (1617, 33),
   (1618, 34), (1619, 230), (1621, 220), (1623, 230), (1628, 220), (1629, 230), (1631, 220),
   (1632, 0), (1648, 35), (1649, 0), (1750, 230), (1763, 220), (1764, 230), (1765, 0), (1767,
   230), (1770, 220), (1771, 230), (1773, 220), (1774, 0), (1809, 36), (1810, 0), (1840, 230),
   (1841, 220), (1842, 230), (1844, 220), (1845, 230), (1847, 220), (1850, 230), (1851, 220),
   (1853, 230), (1854, 220), (1855, 230), (1858, 220), (1859, 230), (1860, 220), (1861, 230),
   (1862, 220), (1863, 230), (1864, 220), (1865, 230), (1869, 0), (2027, 230), (2034, 220), (2035,
   230), (2036, 0), (2045, 220), (2048, 0), (2070, 230), (2074, 0), (2075, 230), (2084, 0), (2085,
   230), (2088, 0), (2089, 230), (2112, 0), (2137, 220), (2144, 0), (2200, 230), (2201, 220),
   (2204, 230), (2208, 0), (2250, 230), (2255, 220), (2260, 230), (2275, 220), (2276, 230), (2278,
   220), (2279, 230), (2281, 220), (2282, 230), (2285, 220), (2288, 27), (2289, 28), (2290, 29),
   (2291, 230), (2294, 220), (2295, 230), (2297, 220), (2299, 230), (2304, 0), (2364, 7), (2365,
   0), (2381, 9), (2382, 0), (2385, 230), (2386, 220), (2387, 230), (2389, 0), (2492, 7), (2493,
   0), (2509, 9), (2510, 0), (2558, 230), (2561, 0), (2620, 7), (2622, 0), (2637, 9), (2641, 0),
   (2748, 7), (2749, 0), (2765, 9), (2768, 0), (2876, 7), (2877, 0), (2893, 9), (2901, 0), (3021,
   9), (3024, 0), (3132, 7), (3133, 0), (3149, 9), (3157, 84), (3158, 91), (3160, 0), (3260, 7),
   (3261, 0), (3277, 9), (3285, 0), (3387, 9), (3389, 0), (3405, 9), (3406, 0), (3530, 9), (3535,
   0), (3640, 103), (3642, 9), (3648, 0), (3656, 107), (3660, 0), (3768, 118), (3770, 9), (3771,
   0), (3784, 122), (3788, 0), (3864, 220), (3872, 0), (3893, 220), (3897, 216), (3902, 0), (3953,
   129), (3954, 130), (3956, 132), (3962, 130), (3966, 0), (3968, 130), (3970, 230), (3972, 9),
   (3974, 230), (3976, 0), (4038, 220), (4096, 0), (4151, 7), (4152, 0), (4153, 9), (4155, 0),
   (4237, 220), (4238, 0), (4957, 230), (4992, 0), (5908, 9), (5919, 0), (5940, 9), (5952, 0),
   (6098, 9), (6099, 0), (6109, 230), (6112, 0), (6313, 228), (6314, 0), (6457, 222), (6458, 230),
   (6459, 220), (6470, 0), (6679, 230), (6680, 220), (6681, 0), (6752, 9), (6753, 0), (6773, 230),
   (6783, 220), (6784, 0), (6832, 230), (6837, 220), (6843, 230), (6845, 220), (6849, 230), (6851,
   220), (6853, 230), (6858, 220), (6859, 230), (6863, 0), (6964, 7), (6965, 0), (6980, 9), (6981,
   0), (7019, 230), (7020, 220), (7021, 230), (7040, 0), (7082, 9), (7084, 0), (7142, 7), (7143,
   0), (7154, 9), (7168, 0), (7223, 7), (7232, 0), (7376, 230), (7380, 1), (7381, 220), (7386,
   230), (7388, 220), (7392, 230), (7393, 0), (7394, 1), (7401, 0), (7405, 220), (7406, 0), (7412,
   230), (7413, 0), (7416, 230), (7418, 0), (7616, 230), (7618, 220), (7619, 230), (7626, 220),
   (7627, 230), (7629, 234), (7630, 214), (7631, 220), (7632, 202), (7633, 230), (7670, 232),
   (7671, 228), (7673, 220), (7674, 218), (7675, 230), (7676, 233), (7677, 220), (7678, 230),
   (7679, 220), (7681, 0), (11503, 230), (11507, 0), (11647, 9), (11648, 0), (11744, 230), (11823,
   0), (12330, 218), (12331, 228), (12332, 232), (12333, 222), (12348, 0), (12441, 8), (12445, 0),
   (42607, 230), (42623, 0), (42654, 230), (42656, 0), (42736, 230), (42775, 0), (43014, 9),
   (43015, 0), (43052, 9), (43072, 0), (43204, 9), (43205, 0), (43232, 230), (43250, 0), (43307,
   220), (43312, 0), (43347, 9), (43392, 0), (43443, 7), (43444, 0), (43456, 9), (43471, 0),
   (43696, 230), (43697, 0), (43698, 230), (43700, 220), (43701, 0), (43703, 230), (43705, 0),
   (43710, 230), (43712, 0), (43713, 230), (43714, 0), (43766, 9), (43777, 0), (44013, 9), (44016,
   0), (64286, 26), (65056, 230), (65063, 220), (65070, 230), (65139, 0), (66045, 220), (66176,
   0), (66272, 220), (66304, 0), (66422, 230), (66432, 0), (68109, 220), (68110, 0), (68111, 230),
   (68112, 0), (68152, 230), (68153, 1), (68154, 220), (68159, 9), (68192, 0), (68325, 230),
   (68326, 220), (68352, 0), (68900, 230), (68912, 0), (69291, 230), (69296, 0), (69446, 220),
   (69448, 230), (69451, 220), (69452, 230), (69453, 220), (69488, 0), (69506, 230), (69507, 220),
   (69508, 230), (69509, 220), (69552, 0), (69702, 9), (69734, 0), (69744, 9), (69745, 0), (69759,
   9), (69760, 0), (69817, 9), (69818, 7), (69826, 0), (69888, 230), (69891, 0), (69939, 9),
   (69942, 0), (70003, 7), (70006, 0), (70080, 9), (70081, 0), (70090, 7), (70091, 0), (70197, 9),
   (70198, 7), (70199, 0), (70377, 7), (70378, 9), (70384, 0), (70459, 7), (70461, 0), (70477, 9),
   (70480, 0), (70502, 230), (70528, 0), (70722, 9), (70723, 0), (70726, 7), (70727, 0), (70750,
   230), (70751, 0), (70850, 9), (70851, 7), (70852, 0), (71103, 9), (71104, 7), (71128, 0),
   (71231, 9), (71232, 0), (71350, 9), (71351, 7), (71352, 0), (71467, 9), (71472, 0), (71737, 9),
   (71738, 7), (71872, 0), (71997, 9), (71999, 0), (72003, 7), (72016, 0), (72160, 9), (72161, 0),
   (72244, 9), (72245, 0), (72263, 9), (72272, 0), (72345, 9), (72349, 0), (72767, 9), (72768, 0),
   (73026, 7), (73027, 0), (73028, 9), (73030, 0), (73111, 9), (73112, 0), (92912, 1), (92928, 0),
   (92976, 230), (92992, 0), (94192, 6), (94194, 0), (113822, 1), (118528, 0), (122880, 230),
   (123023, 0), (123184, 230), (123191, 0), (123566, 230), (123584, 0), (123628, 230), (123632,
   0), (125136, 220), (125218, 0), (125252, 230), (125258, 7), (125259, 0)]

def valueAt (code : Nat) : (changes : List (Nat × Nat)) → (value : Nat) → Nat
  | [], value => value
  | (start, next) :: changes, value => if start ≤ code then valueAt code changes next else value

def combiningClass (c : Char) : Nat := valueAt c.toNat combiningClasses 0

set_option maxRecDepth 8000 in
/-- Composed forms `(form, first, second)`: a character, and the two that it stands for. -/
def composedForms : List (Nat × Nat × Nat) :=
  [(224, 97, 768), (225, 97, 769), (226, 97, 770), (227, 97, 771), (228, 97, 776), (229, 97, 778),
   (231, 99, 807), (232, 101, 768), (233, 101, 769), (234, 101, 770), (235, 101, 776), (236, 105,
   768), (237, 105, 769), (238, 105, 770), (239, 105, 776), (241, 110, 771), (242, 111, 768),
   (243, 111, 769), (244, 111, 770), (245, 111, 771), (246, 111, 776), (249, 117, 768), (250, 117,
   769), (251, 117, 770), (252, 117, 776), (253, 121, 769), (255, 121, 776), (257, 97, 772), (259,
   97, 774), (261, 97, 808), (263, 99, 769), (265, 99, 770), (267, 99, 775), (269, 99, 780), (271,
   100, 780), (275, 101, 772), (277, 101, 774), (279, 101, 775), (281, 101, 808), (283, 101, 780),
   (285, 103, 770), (287, 103, 774), (289, 103, 775), (291, 103, 807), (293, 104, 770), (297, 105,
   771), (299, 105, 772), (301, 105, 774), (303, 105, 808), (309, 106, 770), (311, 107, 807),
   (314, 108, 769), (316, 108, 807), (318, 108, 780), (324, 110, 769), (326, 110, 807), (328, 110,
   780), (333, 111, 772), (335, 111, 774), (337, 111, 779), (341, 114, 769), (343, 114, 807),
   (345, 114, 780), (347, 115, 769), (349, 115, 770), (351, 115, 807), (353, 115, 780), (355, 116,
   807), (357, 116, 780), (361, 117, 771), (363, 117, 772), (365, 117, 774), (367, 117, 778),
   (369, 117, 779), (371, 117, 808), (373, 119, 770), (375, 121, 770), (378, 122, 769), (380, 122,
   775), (382, 122, 780), (417, 111, 795), (432, 117, 795), (462, 97, 780), (464, 105, 780), (466,
   111, 780), (468, 117, 780), (470, 252, 772), (472, 252, 769), (474, 252, 780), (476, 252, 768),
   (479, 228, 772), (481, 551, 772), (483, 230, 772), (487, 103, 780), (489, 107, 780), (491, 111,
   808), (493, 491, 772), (495, 658, 780), (496, 106, 780), (501, 103, 769), (505, 110, 768),
   (507, 229, 769), (509, 230, 769), (511, 248, 769), (513, 97, 783), (515, 97, 785), (517, 101,
   783), (519, 101, 785), (521, 105, 783), (523, 105, 785), (525, 111, 783), (527, 111, 785),
   (529, 114, 783), (531, 114, 785), (533, 117, 783), (535, 117, 785), (537, 115, 806), (539, 116,
   806), (543, 104, 780), (551, 97, 775), (553, 101, 807), (555, 246, 772), (557, 245, 772), (559,
   111, 775), (561, 559, 772), (563, 121, 772), (912, 970, 769), (940, 945, 769), (941, 949, 769),
   (942, 951, 769), (943, 953, 769), (944, 971, 769), (970, 953, 776), (971, 965, 776), (972, 959,
   769), (973, 965, 769), (974, 969, 769), (1081, 1080, 774), (1104, 1077, 768), (1105, 1077,
   776), (1107, 1075, 769), (1111, 1110, 776), (1116, 1082, 769), (1117, 1080, 768), (1118, 1091,
   774), (1143, 1141, 783), (1218, 1078, 774), (1233, 1072, 774), (1235, 1072, 776), (1239, 1077,
   774), (1243, 1241, 776), (1245, 1078, 776), (1247, 1079, 776), (1251, 1080, 772), (1253, 1080,
   776), (1255, 1086, 776), (1259, 1257, 776), (1261, 1101, 776), (1263, 1091, 772), (1265, 1091,
   776), (1267, 1091, 779), (1269, 1095, 776), (1273, 1099, 776), (1570, 1575, 1619), (1571, 1575,
   1620), (1572, 1608, 1620), (1573, 1575, 1621), (1574, 1610, 1620), (1728, 1749, 1620), (1730,
   1729, 1620), (1747, 1746, 1620), (2345, 2344, 2364), (2353, 2352, 2364), (2356, 2355, 2364),
   (2507, 2503, 2494), (2508, 2503, 2519), (2888, 2887, 2902), (2891, 2887, 2878), (2892, 2887,
   2903), (2964, 2962, 3031), (3018, 3014, 3006), (3019, 3015, 3006), (3020, 3014, 3031), (3144,
   3142, 3158), (3264, 3263, 3285), (3271, 3270, 3285), (3272, 3270, 3286), (3274, 3270, 3266),
   (3275, 3274, 3285), (3402, 3398, 3390), (3403, 3399, 3390), (3404, 3398, 3415), (3546, 3545,
   3530), (3548, 3545, 3535), (3549, 3548, 3530), (3550, 3545, 3551), (4134, 4133, 4142), (6918,
   6917, 6965), (6920, 6919, 6965), (6922, 6921, 6965), (6924, 6923, 6965), (6926, 6925, 6965),
   (6930, 6929, 6965), (6971, 6970, 6965), (6973, 6972, 6965), (6976, 6974, 6965), (6977, 6975,
   6965), (6979, 6978, 6965), (7681, 97, 805), (7683, 98, 775), (7685, 98, 803), (7687, 98, 817),
   (7689, 231, 769), (7691, 100, 775), (7693, 100, 803), (7695, 100, 817), (7697, 100, 807),
   (7699, 100, 813), (7701, 275, 768), (7703, 275, 769), (7705, 101, 813), (7707, 101, 816),
   (7709, 553, 774), (7711, 102, 775), (7713, 103, 772), (7715, 104, 775), (7717, 104, 803),
   (7719, 104, 776), (7721, 104, 807), (7723, 104, 814), (7725, 105, 816), (7727, 239, 769),
   (7729, 107, 769), (7731, 107, 803), (7733, 107, 817), (7735, 108, 803), (7737, 7735, 772),
   (7739, 108, 817), (7741, 108, 813), (7743, 109, 769), (7745, 109, 775), (7747, 109, 803),
   (7749, 110, 775), (7751, 110, 803), (7753, 110, 817), (7755, 110, 813), (7757, 245, 769),
   (7759, 245, 776), (7761, 333, 768), (7763, 333, 769), (7765, 112, 769), (7767, 112, 775),
   (7769, 114, 775), (7771, 114, 803), (7773, 7771, 772), (7775, 114, 817), (7777, 115, 775),
   (7779, 115, 803), (7781, 347, 775), (7783, 353, 775), (7785, 7779, 775), (7787, 116, 775),
   (7789, 116, 803), (7791, 116, 817), (7793, 116, 813), (7795, 117, 804), (7797, 117, 816),
   (7799, 117, 813), (7801, 361, 769), (7803, 363, 776), (7805, 118, 771), (7807, 118, 803),
   (7809, 119, 768), (7811, 119, 769), (7813, 119, 776), (7815, 119, 775), (7817, 119, 803),
   (7819, 120, 775), (7821, 120, 776), (7823, 121, 775), (7825, 122, 770), (7827, 122, 803),
   (7829, 122, 817), (7830, 104, 817), (7831, 116, 776), (7832, 119, 778), (7833, 121, 778),
   (7841, 97, 803), (7843, 97, 777), (7845, 226, 769), (7847, 226, 768), (7849, 226, 777), (7851,
   226, 771), (7853, 7841, 770), (7855, 259, 769), (7857, 259, 768), (7859, 259, 777), (7861, 259,
   771), (7863, 7841, 774), (7865, 101, 803), (7867, 101, 777), (7869, 101, 771), (7871, 234,
   769), (7873, 234, 768), (7875, 234, 777), (7877, 234, 771), (7879, 7865, 770), (7881, 105,
   777), (7883, 105, 803), (7885, 111, 803), (7887, 111, 777), (7889, 244, 769), (7891, 244, 768),
   (7893, 244, 777), (7895, 244, 771), (7897, 7885, 770), (7899, 417, 769), (7901, 417, 768),
   (7903, 417, 777), (7905, 417, 771), (7907, 417, 803), (7909, 117, 803), (7911, 117, 777),
   (7913, 432, 769), (7915, 432, 768), (7917, 432, 777), (7919, 432, 771), (7921, 432, 803),
   (7923, 121, 768), (7925, 121, 803), (7927, 121, 777), (7929, 121, 771), (7936, 945, 787),
   (7937, 945, 788), (7938, 7936, 768), (7939, 7937, 768), (7940, 7936, 769), (7941, 7937, 769),
   (7942, 7936, 834), (7943, 7937, 834), (7952, 949, 787), (7953, 949, 788), (7954, 7952, 768),
   (7955, 7953, 768), (7956, 7952, 769), (7957, 7953, 769), (7968, 951, 787), (7969, 951, 788),
   (7970, 7968, 768), (7971, 7969, 768), (7972, 7968, 769), (7973, 7969, 769), (7974, 7968, 834),
   (7975, 7969, 834), (7984, 953, 787), (7985, 953, 788), (7986, 7984, 768), (7987, 7985, 768),
   (7988, 7984, 769), (7989, 7985, 769), (7990, 7984, 834), (7991, 7985, 834), (8000, 959, 787),
   (8001, 959, 788), (8002, 8000, 768), (8003, 8001, 768), (8004, 8000, 769), (8005, 8001, 769),
   (8016, 965, 787), (8017, 965, 788), (8018, 8016, 768), (8019, 8017, 768), (8020, 8016, 769),
   (8021, 8017, 769), (8022, 8016, 834), (8023, 8017, 834), (8032, 969, 787), (8033, 969, 788),
   (8034, 8032, 768), (8035, 8033, 768), (8036, 8032, 769), (8037, 8033, 769), (8038, 8032, 834),
   (8039, 8033, 834), (8048, 945, 768), (8050, 949, 768), (8052, 951, 768), (8054, 953, 768),
   (8056, 959, 768), (8058, 965, 768), (8060, 969, 768), (8112, 945, 774), (8113, 945, 772),
   (8118, 945, 834), (8134, 951, 834), (8144, 953, 774), (8145, 953, 772), (8146, 970, 768),
   (8150, 953, 834), (8151, 970, 834), (8160, 965, 774), (8161, 965, 772), (8162, 971, 768),
   (8164, 961, 787), (8165, 961, 788), (8166, 965, 834), (8167, 971, 834), (8182, 969, 834),
   (12364, 12363, 12441), (12366, 12365, 12441), (12368, 12367, 12441), (12370, 12369, 12441),
   (12372, 12371, 12441), (12374, 12373, 12441), (12376, 12375, 12441), (12378, 12377, 12441),
   (12380, 12379, 12441), (12382, 12381, 12441), (12384, 12383, 12441), (12386, 12385, 12441),
   (12389, 12388, 12441), (12391, 12390, 12441), (12393, 12392, 12441), (12400, 12399, 12441),
   (12401, 12399, 12442), (12403, 12402, 12441), (12404, 12402, 12442), (12406, 12405, 12441),
   (12407, 12405, 12442), (12409, 12408, 12441), (12410, 12408, 12442), (12412, 12411, 12441),
   (12413, 12411, 12442), (12436, 12358, 12441), (12446, 12445, 12441), (12460, 12459, 12441),
   (12462, 12461, 12441), (12464, 12463, 12441), (12466, 12465, 12441), (12468, 12467, 12441),
   (12470, 12469, 12441), (12472, 12471, 12441), (12474, 12473, 12441), (12476, 12475, 12441),
   (12478, 12477, 12441), (12480, 12479, 12441), (12482, 12481, 12441), (12485, 12484, 12441),
   (12487, 12486, 12441), (12489, 12488, 12441), (12496, 12495, 12441), (12497, 12495, 12442),
   (12499, 12498, 12441), (12500, 12498, 12442), (12502, 12501, 12441), (12503, 12501, 12442),
   (12505, 12504, 12441), (12506, 12504, 12442), (12508, 12507, 12441), (12509, 12507, 12442),
   (12532, 12454, 12441), (12535, 12527, 12441), (12536, 12528, 12441), (12537, 12529, 12441),
   (12538, 12530, 12441), (12542, 12541, 12441), (69786, 69785, 69818), (69788, 69787, 69818),
   (69803, 69797, 69818), (69934, 69937, 69927), (69935, 69938, 69927), (70475, 70471, 70462),
   (70476, 70471, 70487), (70843, 70841, 70842), (70844, 70841, 70832), (70846, 70841, 70845),
   (71098, 71096, 71087), (71099, 71097, 71087), (71992, 71989, 71984)]

/-- The two characters that a character stands for. -/
def parts? (c : Char) : Option (Nat × Nat) := composedForms.lookup c.toNat

/-- The form that two characters together have. -/
def compose? (first second : Char) : Option Char :=
  (composedForms.find? fun (_, a, b) => a = first.toNat && b = second.toNat).map
    fun (form, _, _) => Char.ofNat form

/-- A character taken apart, at most `depth` times. -/
def takeApart : (depth : Nat) → Char → List Char
  | 0, c => [c]
  | depth + 1, c =>
    match parts? c with
    | some (first, second) => takeApart depth (Char.ofNat first) ++ [Char.ofNat second]
    | none => [c]

/-- How often a character can be taken apart. -/
def deepest : Nat := 3

/-- Put a mark in front of the marks of greater classes. `done` is in reverse. -/
def placeMark (c : Char) : (done : List Char) → List Char
  | [] => [c]
  | d :: done =>
    if combiningClass c ≠ 0 && combiningClass c < combiningClass d then d :: placeMark c done
    else c :: d :: done

/-- Every character taken apart, and the marks in the order of their classes. -/
def apart (cs : List Char) : List Char :=
  ((cs.flatMap (takeApart deepest)).foldl (fun done c => placeMark c done) []).reverse

/-- Compose characters that were taken apart. `held` are the marks, in reverse, that stand behind
`starter`, the last character of class 0. A mark reaches it if every mark between them has a smaller
class. -/
def composeFrom (starter : Option Char) (held : List Char) : List Char → List Char
  | [] => starter.toList ++ held.reverse
  | c :: rest =>
    let reaches := (held.head?.map fun d => decide (combiningClass d < combiningClass c)).getD true
    match if reaches then starter.bind (compose? · c) else none with
    | some form => composeFrom (some form) held rest
    | none =>
      if combiningClass c = 0 then starter.toList ++ held.reverse ++ composeFrom (some c) [] rest
      else composeFrom starter (c :: held) rest

/-- The composed form of a text. -/
def composed (cs : List Char) : List Char := composeFrom none [] (apart cs)

def isComposed (cs : List Char) : Bool := composed cs == cs

end Paygate.Text
