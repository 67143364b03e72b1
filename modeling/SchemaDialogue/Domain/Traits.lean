import SchemaDialogue.Text.Ranges

/-!
# Traits of the characters of domains

How characters are written: whether they are marks, in which direction they run, and whether they
join with their neighbours. The tables list, of the characters beyond ASCII that may occur in a
domain, where ranges start and end.
-/

namespace SchemaDialogue.Domain

namespace Traits

/-- Marks, which do not stand alone, part 1. -/
def marks1 : List Nat :=
  [768, 881, 1155, 1163, 1425, 1470, 1471, 1472, 1473, 1475, 1476, 1478, 1479, 1488, 1552, 1563,
   1611, 1632, 1648, 1649, 1750, 1758, 1759, 1765, 1767, 1769, 1770, 1774, 1809, 1810, 1840, 1869,
   1958, 1969, 2027, 2036, 2045, 2046, 2070, 2074, 2075, 2084, 2085, 2088, 2089, 2096, 2137, 2142,
   2199, 2208, 2250, 2308, 2362, 2365, 2366, 2384, 2385, 2400, 2402, 2404, 2433, 2437, 2492, 2493,
   2494, 2510, 2519, 2528, 2530, 2534, 2558, 2565, 2620, 2652, 2672, 2674, 2677, 2678, 2689, 2693,
   2748, 2749, 2750, 2768, 2786, 2790, 2810, 2821, 2876, 2877, 2878, 2911, 2914, 2918, 2946, 2947,
   3006, 3024, 3031, 3046]

def marks2 : List Nat :=
  [3072, 3077, 3132, 3133, 3134, 3160, 3170, 3174, 3201, 3204, 3260, 3261, 3262, 3292, 3298, 3302,
   3315, 3332, 3387, 3389, 3390, 3406, 3415, 3416, 3426, 3430, 3457, 3461, 3530, 3558, 3570, 3572,
   3633, 3634, 3636, 3647, 3655, 3663, 3761, 3762, 3764, 3773, 3784, 3792, 3864, 3866, 3893, 3894,
   3895, 3896, 3897, 3898, 3902, 3904, 3953, 3973, 3974, 3976, 3981, 4030, 4038, 4039, 4139, 4159,
   4182, 4186, 4190, 4193, 4194, 4197, 4199, 4206, 4209, 4213, 4226, 4238, 4239, 4240, 4250, 4254,
   4957, 4960, 5906, 5919, 5938, 5941, 5970, 5984, 6002, 6016, 6070, 6100, 6109, 6112, 6277, 6279,
   6313, 6314, 6432, 6464]

def marks3 : List Nat :=
  [6679, 6686, 6741, 6784, 6832, 6917, 6964, 6981, 7019, 7028, 7040, 7043, 7073, 7086, 7142, 7164,
   7204, 7227, 7376, 7379, 7380, 7401, 7405, 7406, 7412, 7413, 7415, 7418, 7616, 7681, 8400, 8452,
   11503, 11507, 11647, 11648, 11744, 11776, 12330, 12336, 12441, 12445, 42607, 42611, 42612,
   42622, 42654, 42656, 42736, 42738, 43010, 43011, 43014, 43015, 43019, 43020, 43043, 43048,
   43052, 43056, 43136, 43138, 43188, 43214, 43232, 43250, 43263, 43264, 43302, 43310, 43335,
   43359, 43392, 43396, 43443, 43457, 43493, 43494, 43561, 43584, 43587, 43588, 43596, 43600,
   43643, 43646, 43696, 43697, 43698, 43701, 43703, 43705, 43710, 43712, 43713, 43714, 43755,
   43760, 43765, 43777]

def marks4 : List Nat :=
  [44003, 44011, 44012, 44016, 64286, 64434, 65056, 65093, 66045, 66176, 66272, 66273, 66422,
   66432, 68097, 68112, 68152, 68160, 68325, 68331, 68900, 68912, 68969, 68974, 69291, 69293,
   69370, 69376, 69446, 69457, 69506, 69510, 69632, 69635, 69688, 69703, 69744, 69745, 69747,
   69749, 69759, 69763, 69808, 69819, 69826, 69840, 69888, 69891, 69927, 69942, 69957, 69959,
   70003, 70004, 70016, 70019, 70067, 70081, 70089, 70093, 70094, 70096, 70188, 70200, 70206,
   70207, 70209, 70272, 70367, 70384, 70400, 70405, 70459, 70461, 70462, 70480, 70487, 70493,
   70498, 70528, 70584, 70609, 70610, 70611, 70625, 70656, 70709, 70727, 70750, 70751, 70832,
   70852, 71087, 71105, 71132, 71168, 71216, 71233, 71339, 71352]

def marks5 : List Nat :=
  [71453, 71472, 71724, 71739, 71984, 71999, 72000, 72001, 72002, 72004, 72145, 72161, 72164,
   72192, 72193, 72203, 72243, 72250, 72251, 72255, 72263, 72272, 72273, 72284, 72330, 72346,
   72544, 72640, 72751, 72768, 72850, 72960, 73009, 73030, 73031, 73040, 73098, 73112, 73459,
   73463, 73472, 73474, 73475, 73476, 73524, 73539, 73562, 73648, 78912, 78913, 78919, 78944,
   90398, 90416, 92912, 92917, 92976, 92983, 94031, 94032, 94033, 94099, 94180, 94194, 113821,
   113823, 118528, 118608, 119141, 119146, 119149, 119171, 119173, 119180, 119210, 119214, 119362,
   119365, 121344, 121399, 121403, 121453, 121461, 121462, 121476, 121477, 121499, 122624, 122880,
   123136, 123184, 123191, 123566, 123584, 123628, 123632, 124140, 124144, 124398, 124400]

def marks6 : List Nat :=
  [124643, 124644, 124646, 124647, 124654, 124656, 124661, 124670, 125136, 125218, 125252, 125259]

/-- Marks, which do not stand alone. -/
def marks : List (List Nat) :=
  [marks1, marks2, marks3, marks4, marks5, marks6]

/-- Letters that run from right to left. -/
def rightToLeft : List (List Nat) :=
  [[1470, 1471, 1472, 1473, 1475, 1476, 1478, 1479, 1488, 1542, 1544, 1545, 1547, 1548, 1549, 1550,
   1563, 1611, 1645, 1648, 1649, 1750, 1765, 1767, 1774, 1776, 1786, 1809, 1810, 1840, 1869, 1958,
   1969, 2027, 2036, 2038, 2042, 2045, 2046, 2070, 2074, 2075, 2084, 2085, 2088, 2089, 2096, 2137,
   2142, 2199, 2208, 2250, 64434, 64830, 64912, 64975, 65139, 65536, 67584, 67871, 67872, 68097,
   68112, 68152, 68160, 68325, 68331, 68409, 68416, 68900, 68928, 68969, 68974, 69216, 69248,
   69291, 69293, 69370, 69376, 69446, 69457, 69506, 69510, 69632, 124928, 125136, 125218, 125252,
   125259, 126704]]

/-- Marks that take the direction of the character before them, part 1. -/
def attached1 : List Nat :=
  [768, 881, 1155, 1163, 1425, 1470, 1471, 1472, 1473, 1475, 1476, 1478, 1479, 1488, 1552, 1563,
   1611, 1632, 1648, 1649, 1750, 1758, 1759, 1765, 1767, 1769, 1770, 1774, 1809, 1810, 1840, 1869,
   1958, 1969, 2027, 2036, 2045, 2046, 2070, 2074, 2075, 2084, 2085, 2088, 2089, 2096, 2137, 2142,
   2199, 2208, 2250, 2307, 2362, 2363, 2364, 2365, 2369, 2377, 2381, 2382, 2385, 2400, 2402, 2404,
   2433, 2434, 2492, 2493, 2497, 2503, 2509, 2510, 2530, 2534, 2558, 2563, 2620, 2622, 2625, 2652,
   2672, 2674, 2677, 2678, 2689, 2691, 2748, 2749, 2753, 2761, 2765, 2768, 2786, 2790, 2810, 2818,
   2876, 2877, 2879, 2880]

def attached2 : List Nat :=
  [2881, 2887, 2893, 2903, 2914, 2918, 2946, 2947, 3008, 3009, 3021, 3024, 3072, 3073, 3076, 3077,
   3132, 3133, 3134, 3137, 3142, 3160, 3170, 3174, 3201, 3202, 3260, 3261, 3276, 3285, 3298, 3302,
   3328, 3330, 3387, 3389, 3393, 3398, 3405, 3406, 3426, 3430, 3457, 3458, 3530, 3535, 3538, 3544,
   3633, 3634, 3636, 3647, 3655, 3663, 3761, 3762, 3764, 3773, 3784, 3792, 3864, 3866, 3893, 3894,
   3895, 3896, 3897, 3898, 3953, 3967, 3968, 3973, 3974, 3976, 3981, 4030, 4038, 4039, 4141, 4145,
   4146, 4152, 4153, 4155, 4157, 4159, 4184, 4186, 4190, 4193, 4209, 4213, 4226, 4227, 4229, 4231,
   4237, 4238, 4253, 4254]

def attached3 : List Nat :=
  [4957, 4960, 5906, 5909, 5938, 5940, 5970, 5984, 6002, 6016, 6071, 6078, 6086, 6087, 6089, 6100,
   6109, 6112, 6277, 6279, 6313, 6314, 6432, 6435, 6439, 6441, 6450, 6451, 6457, 6464, 6679, 6681,
   6683, 6686, 6742, 6743, 6744, 6753, 6754, 6755, 6757, 6765, 6771, 6784, 6832, 6916, 6964, 6965,
   6966, 6971, 6972, 6973, 6978, 6979, 7019, 7028, 7040, 7042, 7074, 7078, 7080, 7082, 7083, 7086,
   7142, 7143, 7144, 7146, 7149, 7150, 7151, 7154, 7212, 7220, 7222, 7227, 7376, 7379, 7380, 7393,
   7394, 7401, 7405, 7406, 7412, 7413, 7416, 7418, 7616, 7681, 8400, 8452, 11503, 11507, 11647,
   11648, 11744, 11776, 12330, 12334]

def attached4 : List Nat :=
  [12441, 12445, 42607, 42611, 42612, 42622, 42654, 42656, 42736, 42738, 43010, 43011, 43014,
   43015, 43019, 43020, 43045, 43047, 43052, 43056, 43204, 43214, 43232, 43250, 43263, 43264,
   43302, 43310, 43335, 43346, 43392, 43395, 43443, 43444, 43446, 43450, 43452, 43454, 43493,
   43494, 43561, 43567, 43569, 43571, 43573, 43584, 43587, 43588, 43596, 43597, 43644, 43645,
   43696, 43697, 43698, 43701, 43703, 43705, 43710, 43712, 43713, 43714, 43756, 43758, 43766,
   43777, 44005, 44006, 44008, 44009, 44013, 44016, 64286, 64434, 65056, 65093, 66045, 66176,
   66272, 66273, 66422, 66432, 68097, 68112, 68152, 68160, 68325, 68331, 68900, 68912, 68969,
   68974, 69291, 69293, 69370, 69376, 69446, 69457, 69506, 69510]

def attached5 : List Nat :=
  [69633, 69634, 69688, 69703, 69744, 69745, 69747, 69749, 69759, 69762, 69811, 69815, 69817,
   69819, 69826, 69840, 69888, 69891, 69927, 69932, 69933, 69942, 70003, 70004, 70016, 70018,
   70070, 70079, 70089, 70093, 70095, 70096, 70191, 70194, 70196, 70197, 70198, 70200, 70206,
   70207, 70209, 70272, 70367, 70368, 70371, 70384, 70400, 70402, 70459, 70461, 70464, 70465,
   70502, 70528, 70587, 70594, 70606, 70607, 70608, 70609, 70610, 70611, 70625, 70656, 70712,
   70720, 70722, 70725, 70726, 70727, 70750, 70751, 70835, 70841, 70842, 70843, 70847, 70849,
   70850, 70852, 71090, 71096, 71100, 71102, 71103, 71105, 71132, 71168, 71219, 71227, 71229,
   71230, 71231, 71233, 71339, 71340, 71341, 71342, 71344, 71350]

def attached6 : List Nat :=
  [71351, 71352, 71453, 71456, 71458, 71462, 71463, 71472, 71727, 71736, 71737, 71739, 71995,
   71997, 71998, 71999, 72003, 72004, 72148, 72156, 72160, 72161, 72193, 72199, 72201, 72203,
   72243, 72249, 72251, 72255, 72263, 72272, 72273, 72279, 72281, 72284, 72330, 72343, 72344,
   72346, 72544, 72545, 72546, 72549, 72550, 72551, 72752, 72766, 72850, 72873, 72874, 72881,
   72882, 72884, 72885, 72960, 73009, 73030, 73031, 73040, 73104, 73107, 73109, 73110, 73111,
   73112, 73459, 73461, 73472, 73474, 73526, 73534, 73536, 73537, 73538, 73539, 73562, 73648,
   78912, 78913, 78919, 78944, 90398, 90410, 90413, 90416, 92912, 92917, 92976, 92983, 94031,
   94032, 94095, 94099, 94180, 94192, 113821, 113823, 118528, 118608]

def attached7 : List Nat :=
  [119143, 119146, 119163, 119171, 119173, 119180, 119210, 119214, 119362, 119365, 121344, 121399,
   121403, 121453, 121461, 121462, 121476, 121477, 121499, 122624, 122880, 123136, 123184, 123191,
   123566, 123584, 123628, 123632, 124140, 124144, 124398, 124400, 124643, 124644, 124646, 124647,
   124654, 124656, 124661, 124670, 125136, 125218, 125252, 125259]

/-- Marks that take the direction of the character before them. -/
def attached : List (List Nat) :=
  [attached1, attached2, attached3, attached4, attached5, attached6, attached7]

/-- Characters without a direction of their own, part 1. -/
def neutral1 : List Nat :=
  [161, 223, 247, 248, 697, 699, 706, 720, 722, 750, 751, 768, 885, 887, 1014, 1016, 1418, 1425,
   1542, 1544, 1545, 1547, 1548, 1549, 1550, 1552, 1642, 1643, 1758, 1759, 1769, 1770, 2038, 2042,
   2546, 2548, 2555, 2556, 2801, 2809, 3059, 3072, 3192, 3199, 3647, 3648, 3898, 3902, 5008, 5024,
   5120, 5121, 5787, 5792, 6107, 6108, 6128, 6160, 6464, 6470, 6622, 6656, 6990, 6992, 7039, 7040,
   8204, 8400, 8452, 8526, 8586, 9014, 9083, 9109, 9110, 9900, 9901, 10240, 10496, 11312, 11493,
   11500, 11513, 11520, 11776, 12293, 12296, 12321, 12336, 12337, 12343, 12347, 12349, 12353,
   12448, 12449, 12539, 12540, 12736, 12784]

def neutral2 : List Nat :=
  [19904, 19968, 42128, 42192, 42509, 42512, 42611, 42612, 42622, 42625, 42752, 42787, 42888,
   42889, 43048, 43052, 43064, 43072, 43124, 43136, 43882, 43968, 64830, 64912, 64975, 65056,
   65093, 65139, 65793, 65794, 65856, 65933, 65936, 66000, 67871, 67872, 68409, 68416, 69714,
   69734, 70612, 70625, 71264, 71296, 72673, 72688, 73685, 73727, 93549, 93552, 94178, 94179,
   117760, 118528, 119273, 119362, 119365, 119488, 119552, 119648, 123647, 124112, 124415, 124608,
   126704, 127312, 127341, 127344, 127405, 127462, 127584, 131072]

/-- Characters without a direction of their own. -/
def neutral : List (List Nat) :=
  [neutral1, neutral2]

/-- Digits that occur in texts from right to left. -/
def ownNumbers : List (List Nat) :=
  [[1632, 1642, 1643, 1645, 68912, 68928, 69216, 69248]]

/-- Further digits that run from left to right in any text. -/
def numbers : List (List Nat) :=
  [[1776, 1786, 66273, 66304]]

/-- Letters that join with both neighbours, part 1. -/
def joinsBoth1 : List Nat :=
  [1568, 1569, 1574, 1575, 1576, 1577, 1578, 1583, 1587, 1600, 1601, 1608, 1609, 1611, 1646, 1648,
   1657, 1672, 1690, 1728, 1729, 1731, 1740, 1741, 1742, 1743, 1744, 1746, 1786, 1789, 1791, 1792,
   1810, 1813, 1818, 1822, 1823, 1832, 1833, 1834, 1835, 1836, 1837, 1839, 1870, 1881, 1884, 1899,
   1901, 1905, 1906, 1907, 1909, 1912, 1914, 1920, 1994, 2027, 2113, 2118, 2120, 2121, 2122, 2132,
   2133, 2134, 2144, 2145, 2146, 2150, 2152, 2153, 2182, 2183, 2185, 2190, 2191, 2199, 2208, 2218,
   2223, 2225, 2227, 2233, 2234, 2249, 6151, 6152, 6176, 6272, 6279, 6313, 6314, 6320, 43072,
   43122, 68288, 68293, 68307, 68311]

def joinsBoth2 : List Nat :=
  [68312, 68317, 68318, 68321, 68331, 68335, 68480, 68481, 68482, 68483, 68486, 68489, 68490,
   68492, 68493, 68494, 68496, 68497, 68525, 68527, 68865, 68898, 68899, 68900, 69315, 69317,
   69318, 69328, 69424, 69427, 69428, 69445, 69457, 69460, 69488, 69492, 69494, 69506, 69552,
   69553, 69554, 69556, 69560, 69561, 69563, 69565, 69566, 69568, 69569, 69570, 69572, 69573,
   69578, 69579, 125218, 125252]

/-- Letters that join with both neighbours. -/
def joinsBoth : List (List Nat) :=
  [joinsBoth1, joinsBoth2]

/-- Letters that join with the next one only. -/
def joinsNext : List (List Nat) :=
  [[43122, 43123, 68301, 68302, 68311, 68312, 68864, 68865, 69579, 69600]]

/-- Letters that join with the previous one only, part 1. -/
def joinsPrevious1 : List Nat :=
  [1570, 1574, 1575, 1576, 1577, 1578, 1583, 1587, 1608, 1609, 1649, 1652, 1672, 1690, 1728, 1729,
   1731, 1740, 1741, 1742, 1743, 1744, 1746, 1748, 1749, 1750, 1774, 1776, 1808, 1809, 1813, 1818,
   1822, 1823, 1832, 1833, 1834, 1835, 1836, 1837, 1839, 1840, 1869, 1870, 1881, 1884, 1899, 1901,
   1905, 1906, 1907, 1909, 1912, 1914, 2112, 2113, 2118, 2120, 2121, 2122, 2132, 2133, 2134, 2137,
   2151, 2152, 2153, 2179, 2190, 2191, 2218, 2221, 2222, 2223, 2225, 2227, 2233, 2234, 68293,
   68294, 68295, 68296, 68297, 68299, 68302, 68307, 68317, 68318, 68321, 68322, 68324, 68325,
   68335, 68336, 68481, 68482, 68483, 68486, 68489, 68490]

def joinsPrevious2 : List Nat :=
  [68492, 68493, 68494, 68496, 68497, 68505, 68521, 68525, 68898, 68899, 69314, 69315, 69427,
   69428, 69460, 69461, 69492, 69494, 69556, 69559, 69561, 69563, 69565, 69566, 69570, 69572,
   69577, 69578]

/-- Letters that join with the previous one only. -/
def joinsPrevious : List (List Nat) :=
  [joinsPrevious1, joinsPrevious2]

/-- Marks that do not come between letters that join, part 1. -/
def transparent1 : List Nat :=
  [768, 881, 1155, 1163, 1425, 1470, 1471, 1472, 1473, 1475, 1476, 1478, 1479, 1488, 1552, 1563,
   1611, 1632, 1648, 1649, 1750, 1758, 1759, 1765, 1767, 1769, 1770, 1774, 1809, 1810, 1840, 1869,
   1958, 1969, 2027, 2036, 2045, 2046, 2070, 2074, 2075, 2084, 2085, 2088, 2089, 2096, 2137, 2142,
   2199, 2208, 2250, 2307, 2362, 2363, 2364, 2365, 2369, 2377, 2381, 2382, 2385, 2400, 2402, 2404,
   2433, 2434, 2492, 2493, 2497, 2503, 2509, 2510, 2530, 2534, 2558, 2563, 2620, 2622, 2625, 2652,
   2672, 2674, 2677, 2678, 2689, 2691, 2748, 2749, 2753, 2761, 2765, 2768, 2786, 2790, 2810, 2818,
   2876, 2877, 2879, 2880]

def transparent2 : List Nat :=
  [2881, 2887, 2893, 2903, 2914, 2918, 2946, 2947, 3008, 3009, 3021, 3024, 3072, 3073, 3076, 3077,
   3132, 3133, 3134, 3137, 3142, 3160, 3170, 3174, 3201, 3202, 3260, 3261, 3263, 3264, 3270, 3271,
   3276, 3285, 3298, 3302, 3328, 3330, 3387, 3389, 3393, 3398, 3405, 3406, 3426, 3430, 3457, 3458,
   3530, 3535, 3538, 3544, 3633, 3634, 3636, 3647, 3655, 3663, 3761, 3762, 3764, 3773, 3784, 3792,
   3864, 3866, 3893, 3894, 3895, 3896, 3897, 3898, 3953, 3967, 3968, 3973, 3974, 3976, 3981, 4030,
   4038, 4039, 4141, 4145, 4146, 4152, 4153, 4155, 4157, 4159, 4184, 4186, 4190, 4193, 4209, 4213,
   4226, 4227, 4229, 4231]

def transparent3 : List Nat :=
  [4237, 4238, 4253, 4254, 4957, 4960, 5906, 5909, 5938, 5940, 5970, 5984, 6002, 6016, 6071, 6078,
   6086, 6087, 6089, 6100, 6109, 6112, 6277, 6279, 6313, 6314, 6432, 6435, 6439, 6441, 6450, 6451,
   6457, 6464, 6679, 6681, 6683, 6686, 6742, 6743, 6744, 6753, 6754, 6755, 6757, 6765, 6771, 6784,
   6832, 6916, 6964, 6965, 6966, 6971, 6972, 6973, 6978, 6979, 7019, 7028, 7040, 7042, 7074, 7078,
   7080, 7082, 7083, 7086, 7142, 7143, 7144, 7146, 7149, 7150, 7151, 7154, 7212, 7220, 7222, 7227,
   7376, 7379, 7380, 7393, 7394, 7401, 7405, 7406, 7412, 7413, 7416, 7418, 7616, 7681, 8400, 8452,
   11503, 11507, 11647, 11648]

def transparent4 : List Nat :=
  [11744, 11776, 12330, 12334, 12441, 12445, 42607, 42611, 42612, 42622, 42654, 42656, 42736,
   42738, 43010, 43011, 43014, 43015, 43019, 43020, 43045, 43047, 43052, 43056, 43204, 43214,
   43232, 43250, 43263, 43264, 43302, 43310, 43335, 43346, 43392, 43395, 43443, 43444, 43446,
   43450, 43452, 43454, 43493, 43494, 43561, 43567, 43569, 43571, 43573, 43584, 43587, 43588,
   43596, 43597, 43644, 43645, 43696, 43697, 43698, 43701, 43703, 43705, 43710, 43712, 43713,
   43714, 43756, 43758, 43766, 43777, 44005, 44006, 44008, 44009, 44013, 44016, 64286, 64434,
   65056, 65093, 66045, 66176, 66272, 66273, 66422, 66432, 68097, 68112, 68152, 68160, 68325,
   68331, 68900, 68912, 68969, 68974, 69291, 69293, 69370, 69376]

def transparent5 : List Nat :=
  [69446, 69457, 69506, 69510, 69633, 69634, 69688, 69703, 69744, 69745, 69747, 69749, 69759,
   69762, 69811, 69815, 69817, 69819, 69826, 69840, 69888, 69891, 69927, 69932, 69933, 69942,
   70003, 70004, 70016, 70018, 70070, 70079, 70089, 70093, 70095, 70096, 70191, 70194, 70196,
   70197, 70198, 70200, 70206, 70207, 70209, 70272, 70367, 70368, 70371, 70384, 70400, 70402,
   70459, 70461, 70464, 70465, 70502, 70528, 70587, 70594, 70606, 70607, 70608, 70609, 70610,
   70611, 70625, 70656, 70712, 70720, 70722, 70725, 70726, 70727, 70750, 70751, 70835, 70841,
   70842, 70843, 70847, 70849, 70850, 70852, 71090, 71096, 71100, 71102, 71103, 71105, 71132,
   71168, 71219, 71227, 71229, 71230, 71231, 71233, 71339, 71340]

def transparent6 : List Nat :=
  [71341, 71342, 71344, 71350, 71351, 71352, 71453, 71454, 71455, 71456, 71458, 71462, 71463,
   71472, 71727, 71736, 71737, 71739, 71995, 71997, 71998, 71999, 72003, 72004, 72148, 72156,
   72160, 72161, 72193, 72203, 72243, 72249, 72251, 72255, 72263, 72272, 72273, 72279, 72281,
   72284, 72330, 72343, 72344, 72346, 72544, 72545, 72546, 72549, 72550, 72551, 72752, 72766,
   72767, 72768, 72850, 72873, 72874, 72881, 72882, 72884, 72885, 72960, 73009, 73030, 73031,
   73040, 73104, 73107, 73109, 73110, 73111, 73112, 73459, 73461, 73472, 73474, 73526, 73534,
   73536, 73537, 73538, 73539, 73562, 73648, 78912, 78913, 78919, 78944, 90398, 90410, 90413,
   90416, 92912, 92917, 92976, 92983, 94031, 94032, 94095, 94099]

def transparent7 : List Nat :=
  [94180, 94192, 113821, 113823, 118528, 118608, 119143, 119146, 119163, 119171, 119173, 119180,
   119210, 119214, 119362, 119365, 121344, 121399, 121403, 121453, 121461, 121462, 121476, 121477,
   121499, 122624, 122880, 123136, 123184, 123191, 123566, 123584, 123628, 123632, 124140, 124144,
   124398, 124400, 124643, 124644, 124646, 124647, 124654, 124656, 124661, 124670, 125136, 125218,
   125252, 125264]

/-- Marks that do not come between letters that join. -/
def transparent : List (List Nat) :=
  [transparent1, transparent2, transparent3, transparent4, transparent5, transparent6,
   transparent7]

end Traits

/-- How a character takes part in the direction of a text. -/
inductive Direction where
  | leftToRight
  | rightToLeft
  | number
  /-- A digit of a script that runs from right to left. -/
  | ownNumber
  | neutral
  /-- A mark, which follows the character before it. -/
  | attached
deriving DecidableEq

def directionOf (c : Char) : Direction :=
  let code := c.toNat
  if code < 0x80 then
    if c.isDigit then .number else if c.isAlpha then .leftToRight else .neutral
  else if Text.inRanges Traits.rightToLeft code then .rightToLeft
  else if Text.inRanges Traits.attached code then .attached
  else if Text.inRanges Traits.neutral code then .neutral
  else if Text.inRanges Traits.ownNumbers code then .ownNumber
  else if Text.inRanges Traits.numbers code then .number
  else .leftToRight

def isMark (c : Char) : Bool := Text.inRanges Traits.marks c.toNat

/-- Does the character join with the one after it? -/
def joinsNext (c : Char) : Bool :=
  Text.inRanges Traits.joinsBoth c.toNat || Text.inRanges Traits.joinsNext c.toNat

/-- Does the character join with the one before it? -/
def joinsPrevious (c : Char) : Bool :=
  Text.inRanges Traits.joinsBoth c.toNat || Text.inRanges Traits.joinsPrevious c.toNat

/-- May the character stand between letters that join? -/
def isTransparent (c : Char) : Bool := Text.inRanges Traits.transparent c.toNat

end SchemaDialogue.Domain
