import Paygate.Text.Combining

/-!
# Direction of writing

Characters are written from left to right, from right to left, or take the direction around them.
A label with a character of right-to-left scripts obeys the rule of bidirectional names: it has one
direction, and it starts and ends with a character of that direction or a number.
-/

namespace Paygate.Text

inductive Direction where
  | left
  | right
  | arabicNumber
  | europeanNumber
  | mark
  | neutral
  | other
  /-- The character has no direction yet. -/
  | unknown
deriving DecidableEq, Repr

/-- The directions in the order of their numbers in `directions`. -/
def Direction.ofNumber : Nat → Direction
  | 0 => left
  | 1 => right
  | 2 => arabicNumber
  | 3 => europeanNumber
  | 4 => mark
  | 5 => neutral
  | 6 => other
  | _ => unknown

set_option maxRecDepth 4000 in
/-- The code points from which on a direction holds. -/
def directions : List (Nat × Nat) :=
  [(45, 5), (48, 3), (97, 0), (183, 5), (223, 0), (697, 5), (699, 0), (710, 5), (720, 0), (748,
   5), (750, 0), (768, 4), (881, 0), (885, 5), (887, 0), (1155, 4), (1163, 0), (1425, 4), (1488,
   1), (1552, 4), (1568, 1), (1611, 4), (1632, 2), (1646, 1), (1648, 4), (1649, 1), (1750, 4),
   (1765, 1), (1767, 4), (1774, 1), (1776, 3), (1786, 1), (1809, 4), (1810, 1), (1840, 4), (1869,
   1), (1958, 4), (1969, 1), (2027, 4), (2036, 1), (2045, 4), (2048, 1), (2070, 4), (2074, 1),
   (2075, 4), (2084, 1), (2085, 4), (2088, 1), (2089, 4), (2112, 1), (2137, 4), (2144, 1), (2191,
   7), (2200, 4), (2208, 1), (2250, 4), (2307, 0), (2362, 4), (2363, 0), (2364, 4), (2365, 0),
   (2369, 4), (2377, 0), (2381, 4), (2382, 0), (2385, 4), (2400, 0), (2402, 4), (2406, 0), (2433,
   4), (2434, 0), (2492, 4), (2493, 0), (2497, 4), (2503, 0), (2509, 4), (2510, 0), (2530, 4),
   (2534, 0), (2558, 4), (2563, 0), (2620, 4), (2622, 0), (2625, 4), (2652, 0), (2672, 4), (2674,
   0), (2677, 4), (2691, 0), (2748, 4), (2749, 0), (2753, 4), (2761, 0), (2765, 4), (2768, 0),
   (2786, 4), (2790, 0), (2810, 4), (2818, 0), (2876, 4), (2877, 0), (2879, 4), (2880, 0), (2881,
   4), (2887, 0), (2893, 4), (2903, 0), (2914, 4), (2918, 0), (2946, 4), (2947, 0), (3008, 4),
   (3009, 0), (3021, 4), (3024, 0), (3072, 4), (3073, 0), (3076, 4), (3077, 0), (3132, 4), (3133,
   0), (3134, 4), (3137, 0), (3142, 4), (3160, 0), (3164, 7), (3165, 0), (3170, 4), (3174, 0),
   (3201, 4), (3202, 0), (3260, 4), (3261, 0), (3276, 4), (3285, 0), (3292, 7), (3293, 0), (3298,
   4), (3302, 0), (3315, 7), (3328, 4), (3330, 0), (3387, 4), (3389, 0), (3393, 4), (3398, 0),
   (3405, 4), (3406, 0), (3426, 4), (3430, 0), (3457, 4), (3458, 0), (3530, 4), (3535, 0), (3538,
   4), (3544, 0), (3633, 4), (3634, 0), (3636, 4), (3648, 0), (3655, 4), (3664, 0), (3761, 4),
   (3762, 0), (3764, 4), (3773, 0), (3784, 4), (3790, 7), (3792, 0), (3864, 4), (3872, 0), (3893,
   4), (3902, 0), (3953, 4), (3967, 0), (3968, 4), (3976, 0), (3981, 4), (4096, 0), (4141, 4),
   (4145, 0), (4146, 4), (4152, 0), (4153, 4), (4155, 0), (4157, 4), (4159, 0), (4184, 4), (4186,
   0), (4190, 4), (4193, 0), (4209, 4), (4213, 0), (4226, 4), (4227, 0), (4229, 4), (4231, 0),
   (4237, 4), (4238, 0), (4253, 4), (4304, 0), (4957, 4), (4992, 0), (5906, 4), (5909, 0), (5938,
   4), (5940, 0), (5970, 4), (5984, 0), (6002, 4), (6016, 0), (6071, 4), (6078, 0), (6086, 4),
   (6087, 0), (6089, 4), (6103, 0), (6109, 4), (6112, 0), (6277, 4), (6279, 0), (6313, 4), (6314,
   0), (6432, 4), (6435, 0), (6439, 4), (6441, 0), (6450, 4), (6451, 0), (6457, 4), (6470, 0),
   (6679, 4), (6681, 0), (6683, 4), (6688, 0), (6742, 4), (6743, 0), (6744, 4), (6753, 0), (6754,
   4), (6755, 0), (6757, 4), (6765, 0), (6771, 4), (6784, 0), (6832, 4), (6863, 7), (6912, 4),
   (6916, 0), (6964, 4), (6965, 0), (6966, 4), (6971, 0), (6972, 4), (6973, 0), (6978, 4), (6979,
   0), (7019, 4), (7042, 0), (7074, 4), (7078, 0), (7080, 4), (7082, 0), (7083, 4), (7086, 0),
   (7142, 4), (7143, 0), (7144, 4), (7146, 0), (7149, 4), (7150, 0), (7151, 4), (7154, 0), (7212,
   4), (7220, 0), (7222, 4), (7232, 0), (7306, 7), (7376, 4), (7393, 0), (7394, 4), (7401, 0),
   (7405, 4), (7406, 0), (7412, 4), (7413, 0), (7416, 4), (7418, 0), (7616, 4), (7681, 0), (8204,
   5), (8526, 0), (11503, 4), (11507, 0), (11647, 4), (11648, 0), (11744, 4), (11823, 5), (12293,
   0), (12330, 4), (12348, 0), (12441, 4), (12445, 0), (12539, 5), (12540, 0), (42607, 4), (42623,
   5), (42625, 0), (42654, 4), (42656, 0), (42736, 4), (42775, 5), (42787, 0), (42888, 5), (42892,
   0), (42957, 7), (42961, 0), (42971, 7), (42998, 0), (43010, 4), (43011, 0), (43014, 4), (43015,
   0), (43019, 4), (43020, 0), (43045, 4), (43047, 0), (43052, 4), (43072, 0), (43204, 4), (43216,
   0), (43232, 4), (43250, 0), (43263, 4), (43264, 0), (43302, 4), (43312, 0), (43335, 4), (43346,
   0), (43392, 4), (43395, 0), (43443, 4), (43444, 0), (43446, 4), (43450, 0), (43452, 4), (43454,
   0), (43493, 4), (43494, 0), (43561, 4), (43567, 0), (43569, 4), (43571, 0), (43573, 4), (43584,
   0), (43587, 4), (43588, 0), (43596, 4), (43597, 0), (43644, 4), (43645, 0), (43696, 4), (43697,
   0), (43698, 4), (43701, 0), (43703, 4), (43705, 0), (43710, 4), (43712, 0), (43713, 4), (43714,
   0), (43756, 4), (43758, 0), (43766, 4), (43777, 0), (44005, 4), (44006, 0), (44008, 4), (44009,
   0), (44013, 4), (44016, 0), (64286, 4), (65139, 1), (65536, 0), (66045, 4), (66176, 0), (66272,
   4), (66304, 0), (66422, 4), (66432, 0), (67008, 7), (67072, 0), (67584, 1), (67904, 7), (67968,
   1), (68097, 4), (68112, 1), (68152, 4), (68192, 1), (68325, 4), (68352, 1), (68900, 4), (68912,
   2), (68928, 7), (69248, 1), (69291, 4), (69296, 1), (69314, 7), (69376, 1), (69446, 4), (69488,
   1), (69506, 4), (69552, 1), (69632, 0), (69633, 4), (69634, 0), (69688, 4), (69734, 0), (69744,
   4), (69745, 0), (69747, 4), (69749, 0), (69759, 4), (69762, 0), (69811, 4), (69815, 0), (69817,
   4), (69840, 0), (69888, 4), (69891, 0), (69927, 4), (69932, 0), (69933, 4), (69942, 0), (70003,
   4), (70006, 0), (70016, 4), (70018, 0), (70070, 4), (70079, 0), (70089, 4), (70094, 0), (70095,
   4), (70096, 0), (70191, 4), (70194, 0), (70196, 4), (70197, 0), (70198, 4), (70207, 7), (70272,
   0), (70367, 4), (70368, 0), (70371, 4), (70384, 0), (70400, 4), (70402, 0), (70459, 4), (70461,
   0), (70464, 4), (70465, 0), (70502, 4), (70528, 7), (70656, 0), (70712, 4), (70720, 0), (70722,
   4), (70725, 0), (70726, 4), (70727, 0), (70750, 4), (70751, 0), (70835, 4), (70841, 0), (70842,
   4), (70843, 0), (70847, 4), (70849, 0), (70850, 4), (70852, 0), (71090, 4), (71096, 0), (71100,
   4), (71102, 0), (71103, 4), (71128, 0), (71132, 4), (71168, 0), (71219, 4), (71227, 0), (71229,
   4), (71230, 0), (71231, 4), (71236, 0), (71339, 4), (71340, 0), (71341, 4), (71342, 0), (71344,
   4), (71350, 0), (71351, 4), (71352, 0), (71376, 7), (71424, 0), (71453, 4), (71456, 0), (71458,
   4), (71462, 0), (71463, 4), (71472, 0), (71727, 4), (71736, 0), (71737, 4), (71872, 0), (71995,
   4), (71997, 0), (71998, 4), (71999, 0), (72003, 4), (72016, 0), (72148, 4), (72156, 0), (72160,
   4), (72161, 0), (72193, 4), (72199, 0), (72201, 4), (72203, 0), (72243, 4), (72249, 0), (72251,
   4), (72272, 0), (72273, 4), (72279, 0), (72281, 4), (72284, 0), (72330, 4), (72343, 0), (72344,
   4), (72349, 0), (72544, 7), (72704, 0), (72752, 4), (72766, 0), (72850, 4), (72873, 0), (72874,
   4), (72881, 0), (72882, 4), (72884, 0), (72885, 4), (72960, 0), (73009, 4), (73030, 0), (73031,
   4), (73040, 0), (73104, 4), (73107, 0), (73109, 4), (73110, 0), (73111, 4), (73112, 0), (73136,
   7), (73440, 0), (73459, 4), (73461, 0), (73472, 7), (73648, 0), (78895, 7), (82944, 0), (90368,
   7), (92160, 0), (92912, 4), (92928, 0), (92976, 4), (92992, 0), (93504, 7), (93792, 0), (93883,
   7), (93952, 0), (94031, 4), (94032, 0), (94095, 4), (94099, 0), (94180, 4), (94192, 0), (94194,
   7), (94208, 0), (100344, 7), (100352, 0), (101631, 7), (101632, 0), (101641, 7), (110576, 0),
   (110898, 7), (110928, 0), (110933, 7), (110948, 0), (113821, 4), (122624, 0), (122661, 7),
   (122880, 4), (123023, 7), (123136, 0), (123184, 4), (123191, 0), (123566, 4), (123584, 0),
   (123628, 4), (123632, 0), (124112, 7), (124896, 0), (124928, 1), (125136, 4), (125218, 1),
   (125252, 4), (125259, 1), (131072, 0), (177977, 7), (177984, 0), (183970, 7), (183984, 0),
   (191472, 7), (196608, 0), (201552, 7)]

def direction (c : Char) : Direction := .ofNumber (valueAt c.toNat directions 0)

/-- How a label breaks the rule of bidirectional names. Positions count from one. -/
inductive DirectionFault where
  | unknown (position : Nat)
  | start
  | misplaced (position : Nat) (toLeft : Bool)
  | mixedNumbers
  | ending
deriving DecidableEq, Repr

namespace Direction

/-- Whether the direction may occur in a label that is written to the left, or to the right. -/
def mayOccur (toLeft : Bool) (d : Direction) : Bool :=
  d ≠ .other && d ≠ .unknown &&
    (if toLeft then d ≠ .left else d ≠ .right && d ≠ .arabicNumber)

/-- Whether a label may end in the direction. -/
def mayEnd (toLeft : Bool) (d : Direction) : Bool :=
  d = .europeanNumber || (if toLeft then d = .right || d = .arabicNumber else d = .left)

def isNumber (d : Direction) : Bool := d = .arabicNumber || d = .europeanNumber

/-- The first fault among the directions from a position on. `number` is the kind of the numbers
before. -/
def fault? (toLeft : Bool) (position : Nat) (number : Option Direction) :
    List Direction → Option DirectionFault
  | [] => none
  | d :: ds =>
    if !d.mayOccur toLeft then some (.misplaced position toLeft)
    else if toLeft && d.isNumber then
      if (number.map (· != d)).getD false then some .mixedNumbers
      else fault? toLeft (position + 1) (some d) ds
    else fault? toLeft (position + 1) number ds

/-- Whether the last direction that is not that of a mark may end a label. -/
def endsWell (toLeft : Bool) (ds : List Direction) : Bool :=
  ((ds.reverse.dropWhile (· = .mark)).head?.map (mayEnd toLeft)).getD false

end Direction

/-- How a label breaks the rule of bidirectional names, if it does. -/
def directionFault? (cs : List Char) : Option DirectionFault :=
  let ds := cs.map direction
  match ds.findIdx? (· = .unknown) with
  | some i => some (.unknown (i + 1))
  | none =>
    if ds.contains .right || ds.contains .arabicNumber then
      match ds.head? with
      | some .right =>
        (Direction.fault? true 1 none ds).orElse fun _ =>
          if Direction.endsWell true ds then none else some .ending
      | some .left =>
        (Direction.fault? false 1 none ds).orElse fun _ =>
          if Direction.endsWell false ds then none else some .ending
      | _ => some .start
    else none

end Paygate.Text
