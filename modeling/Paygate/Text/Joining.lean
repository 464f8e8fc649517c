import Paygate.Text.CharClass

/-!
# Joining letters

Letters of cursive scripts join their neighbours: some on both sides, some only the letter before
them or only the letter behind. Marks between them are transparent. The classes speak of the
characters that labels of hosts may hold.
-/

namespace Paygate.Text

set_option maxRecDepth 4000 in
def transparent : CharClass :=
  ⟨[768, 881, 1155, 1163, 1425, 1488, 1552, 1568, 1611, 1632, 1648, 1649, 1750, 1765, 1767, 1774,
   1809, 1810, 1840, 1869, 1958, 1969, 2027, 2036, 2045, 2048, 2070, 2074, 2075, 2084, 2085, 2088,
   2089, 2112, 2137, 2144, 2199, 2208, 2250, 2307, 2362, 2363, 2364, 2365, 2369, 2377, 2381, 2382,
   2385, 2400, 2402, 2406, 2433, 2434, 2492, 2493, 2497, 2503, 2509, 2510, 2530, 2534, 2558, 2563,
   2620, 2622, 2625, 2652, 2672, 2674, 2677, 2691, 2748, 2749, 2753, 2761, 2765, 2768, 2786, 2790,
   2810, 2818, 2876, 2877, 2879, 2880, 2881, 2887, 2893, 2903, 2914, 2918, 2946, 2947, 3008, 3009,
   3021, 3024, 3072, 3073, 3076, 3077, 3132, 3133, 3134, 3137, 3142, 3160, 3170, 3174, 3201, 3202,
   3260, 3261, 3263, 3264, 3270, 3271, 3276, 3285, 3298, 3302, 3328, 3330, 3387, 3389, 3393, 3398,
   3405, 3406, 3426, 3430, 3457, 3458, 3530, 3535, 3538, 3544, 3633, 3634, 3636, 3648, 3655, 3664,
   3761, 3762, 3764, 3773, 3784, 3792, 3864, 3872, 3893, 3902, 3953, 3967, 3968, 3976, 3981, 4096,
   4141, 4145, 4146, 4152, 4153, 4155, 4157, 4159, 4184, 4186, 4190, 4193, 4209, 4213, 4226, 4227,
   4229, 4231, 4237, 4238, 4253, 4304, 4957, 4992, 5906, 5909, 5938, 5940, 5970, 5984, 6002, 6016,
   6071, 6078, 6086, 6087, 6089, 6103, 6109, 6112, 6277, 6279, 6313, 6314, 6432, 6435, 6439, 6441,
   6450, 6451, 6457, 6470, 6679, 6681, 6683, 6688, 6742, 6743, 6744, 6753, 6754, 6755, 6757, 6765,
   6771, 6784, 6832, 6916, 6964, 6965, 6966, 6971, 6972, 6973, 6978, 6979, 7019, 7042, 7074, 7078,
   7080, 7082, 7083, 7086, 7142, 7143, 7144, 7146, 7149, 7150, 7151, 7154, 7212, 7220, 7222, 7232,
   7376, 7393, 7394, 7401, 7405, 7406, 7412, 7413, 7416, 7418, 7616, 7681, 11503, 11507, 11647,
   11648, 11744, 11823, 12330, 12348, 12441, 12445, 42607, 42623, 42654, 42656, 42736, 42775,
   43010, 43011, 43014, 43015, 43019, 43020, 43045, 43047, 43052, 43072, 43204, 43216, 43232,
   43250, 43263, 43264, 43302, 43312, 43335, 43346, 43392, 43395, 43443, 43444, 43446, 43450,
   43452, 43454, 43493, 43494, 43561, 43567, 43569, 43571, 43573, 43584, 43587, 43588, 43596,
   43597, 43644, 43645, 43696, 43697, 43698, 43701, 43703, 43705, 43710, 43712, 43713, 43714,
   43756, 43758, 43766, 43777, 44005, 44006, 44008, 44009, 44013, 44016, 64286, 65139, 66045,
   66176, 66272, 66304, 66422, 66432, 68097, 68112, 68152, 68192, 68325, 68352, 68900, 68912,
   68969, 68975, 69291, 69296, 69370, 69376, 69446, 69488, 69506, 69552, 69633, 69634, 69688,
   69734, 69744, 69745, 69747, 69749, 69759, 69762, 69811, 69815, 69817, 69840, 69888, 69891,
   69927, 69932, 69933, 69942, 70003, 70006, 70016, 70018, 70070, 70079, 70089, 70094, 70095,
   70096, 70191, 70194, 70196, 70197, 70198, 70207, 70209, 70272, 70367, 70368, 70371, 70384,
   70400, 70402, 70459, 70461, 70464, 70465, 70502, 70528, 70587, 70594, 70606, 70607, 70608,
   70609, 70610, 70611, 70625, 70656, 70712, 70720, 70722, 70725, 70726, 70727, 70750, 70751,
   70835, 70841, 70842, 70843, 70847, 70849, 70850, 70852, 71090, 71096, 71100, 71102, 71103,
   71128, 71132, 71168, 71219, 71227, 71229, 71230, 71231, 71236, 71339, 71340, 71341, 71342,
   71344, 71350, 71351, 71352, 71453, 71454, 71455, 71456, 71458, 71462, 71463, 71472, 71727,
   71736, 71737, 71872, 71995, 71997, 71998, 71999, 72003, 72016, 72148, 72156, 72160, 72161,
   72193, 72203, 72243, 72249, 72251, 72272, 72273, 72279, 72281, 72284, 72330, 72343, 72344,
   72349, 72544, 72545, 72546, 72549, 72550, 72551, 72752, 72766, 72767, 72768, 72850, 72873,
   72874, 72881, 72882, 72884, 72885, 72960, 73009, 73030, 73031, 73040, 73104, 73107, 73109,
   73110, 73111, 73112, 73459, 73461, 73472, 73474, 73526, 73534, 73536, 73537, 73538, 73552,
   73562, 73648, 78912, 78913, 78919, 78944, 90398, 90410, 90413, 90416, 92912, 92928, 92976,
   92992, 94031, 94032, 94095, 94099, 94180, 94192, 113821, 122624, 122880, 123136, 123184,
   123191, 123566, 123584, 123628, 123632, 124140, 124144, 124398, 124400, 124643, 124644, 124646,
   124647, 124654, 124656, 124661, 124670, 125136, 125218, 125252, 125264]⟩

/-- Letters that join on both sides. -/
def joinsBoth : CharClass :=
  ⟨[1568, 1569, 1574, 1575, 1576, 1577, 1578, 1583, 1587, 1608, 1609, 1611, 1646, 1648, 1657, 1672,
   1690, 1728, 1729, 1731, 1740, 1741, 1742, 1743, 1744, 1746, 1786, 1789, 1791, 1808, 1810, 1813,
   1818, 1822, 1823, 1832, 1833, 1834, 1835, 1836, 1837, 1839, 1870, 1881, 1884, 1899, 1901, 1905,
   1906, 1907, 1909, 1912, 1914, 1920, 1994, 2027, 2113, 2118, 2120, 2121, 2122, 2132, 2133, 2134,
   2144, 2145, 2146, 2150, 2152, 2153, 2182, 2183, 2185, 2190, 2191, 2199, 2208, 2218, 2223, 2225,
   2227, 2233, 2234, 2249, 6176, 6272, 6279, 6313, 6314, 6320, 43072, 43122, 68288, 68293, 68307,
   68311, 68312, 68317, 68318, 68321, 68480, 68481, 68482, 68483, 68486, 68489, 68490, 68492,
   68493, 68494, 68496, 68497, 68865, 68898, 68899, 68900, 69315, 69317, 69318, 69370, 69424,
   69427, 69428, 69445, 69488, 69492, 69494, 69506, 69552, 69553, 69554, 69556, 69560, 69561,
   69563, 69565, 69566, 69568, 69569, 69570, 69572, 69600, 125218, 125252]⟩

/-- Letters that join only the letter behind them. -/
def joinsNext : CharClass :=
  ⟨[43122, 43123, 68301, 68302, 68311, 68312, 68864, 68865]⟩

/-- Letters that join only the letter before them. -/
def joinsPrevious : CharClass :=
  ⟨[1570, 1574, 1575, 1576, 1577, 1578, 1583, 1587, 1608, 1609, 1649, 1652, 1672, 1690, 1728, 1729,
   1731, 1740, 1741, 1742, 1743, 1744, 1746, 1750, 1774, 1776, 1808, 1809, 1813, 1818, 1822, 1823,
   1832, 1833, 1834, 1835, 1836, 1837, 1839, 1840, 1869, 1870, 1881, 1884, 1899, 1901, 1905, 1906,
   1907, 1909, 1912, 1914, 2112, 2113, 2118, 2120, 2121, 2122, 2132, 2133, 2134, 2137, 2151, 2152,
   2153, 2179, 2190, 2191, 2218, 2221, 2222, 2223, 2225, 2227, 2233, 2234, 68293, 68294, 68295,
   68299, 68302, 68307, 68317, 68318, 68321, 68322, 68324, 68325, 68481, 68482, 68483, 68486,
   68489, 68490, 68492, 68493, 68494, 68496, 68497, 68608, 68898, 68899, 69314, 69315, 69427,
   69428, 69492, 69494, 69556, 69559, 69561, 69563, 69565, 69566, 69570, 69572]⟩

/-- Whether the nearest character that is not transparent is in one of two classes. -/
def nearest (a b : CharClass) (cs : List Char) : Bool :=
  match cs.dropWhile transparent.contains with
  | c :: _ => a.contains c || b.contains c
  | [] => false

/-- Whether the letters around a place would join. `before` is in reverse. -/
def joins (before after : List Char) : Bool :=
  nearest joinsNext joinsBoth before && nearest joinsPrevious joinsBoth after

end Paygate.Text
