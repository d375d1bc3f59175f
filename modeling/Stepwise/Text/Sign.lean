import Stepwise.Text.Printable

/-!
Letters and digits of all scripts, told apart from signs: what is printable and no sign is a letter or
a digit.
-/

namespace Stepwise.Text

/-- The inclusive ranges of characters after the first 128 that are signs or stand nowhere. -/
def signRanges : List (Nat × Nat) :=
  [(160, 169), (171, 180), (182, 185), (187, 191), (215, 215), (247, 247), (706, 709), (722, 735),
    (741, 747), (749, 749), (751, 836), (838, 879), (885, 885), (894, 894), (900, 901), (903, 903),
    (1014, 1014), (1154, 1161), (1370, 1375), (1417, 1455), (1470, 1470), (1472, 1472), (1475, 1475),
    (1478, 1478), (1523, 1551), (1563, 1567), (1624, 1624), (1642, 1645), (1748, 1748), (1757, 1760),
    (1769, 1772), (1789, 1790), (1792, 1807), (1856, 1866), (2027, 2035), (2038, 2041), (2045, 2047),
    (2072, 2073), (2093, 2110), (2137, 2142), (2184, 2184), (2192, 2207), (2250, 2259), (2272, 2274),
    (2282, 2287), (2364, 2364), (2381, 2381), (2385, 2388), (2404, 2405), (2416, 2416), (2492, 2492),
    (2509, 2509), (2546, 2555), (2557, 2558), (2620, 2620), (2637, 2637), (2678, 2678), (2748, 2748),
    (2765, 2765), (2800, 2801), (2813, 2815), (2876, 2876), (2893, 2901), (2928, 2928), (2930, 2935),
    (3021, 3021), (3056, 3066), (3132, 3132), (3149, 3149), (3191, 3199), (3204, 3204), (3260, 3260),
    (3277, 3277), (3387, 3388), (3405, 3405), (3407, 3407), (3416, 3422), (3440, 3449), (3530, 3530),
    (3572, 3572), (3647, 3647), (3655, 3660), (3662, 3663), (3674, 3675), (3770, 3770), (3784, 3788),
    (3790, 3790), (3841, 3871), (3882, 3903), (3972, 3975), (4030, 4058), (4151, 4151), (4153, 4154),
    (4170, 4175), (4254, 4255), (4347, 4347), (4957, 4988), (5008, 5017), (5120, 5120), (5741, 5742),
    (5787, 5788), (5867, 5869), (5908, 5909), (5940, 5942), (6068, 6069), (6089, 6102), (6104, 6107),
    (6109, 6109), (6128, 6159), (6457, 6469), (6618, 6655), (6686, 6687), (6752, 6752), (6773, 6783),
    (6816, 6822), (6824, 6846), (6849, 6859), (6964, 6964), (6980, 6980), (7002, 7038), (7082, 7083),
    (7142, 7142), (7154, 7167), (7223, 7231), (7294, 7295), (7360, 7400), (7405, 7405), (7412, 7412),
    (7415, 7417), (7616, 7654), (7669, 7679), (8125, 8125), (8127, 8129), (8141, 8143), (8157, 8159),
    (8173, 8175), (8189, 8304), (8308, 8318), (8320, 8334), (8352, 8449), (8451, 8454), (8456, 8457),
    (8468, 8468), (8470, 8472), (8478, 8483), (8485, 8485), (8487, 8487), (8489, 8489), (8494, 8494),
    (8506, 8507), (8512, 8516), (8522, 8525), (8527, 8543), (8585, 9397), (9450, 11263), (11493, 11498),
    (11503, 11505), (11513, 11519), (11632, 11647), (11776, 11822), (11824, 12292), (12296, 12320),
    (12330, 12336), (12342, 12343), (12349, 12351), (12441, 12444), (12448, 12448), (12539, 12539),
    (12688, 12703), (12736, 12783), (12800, 13311), (19904, 19967), (42128, 42182), (42238, 42239),
    (42509, 42511), (42607, 42611), (42620, 42622), (42736, 42774), (42784, 42785), (42889, 42890),
    (43014, 43014), (43048, 43065), (43124, 43127), (43204, 43204), (43214, 43215), (43232, 43249),
    (43256, 43258), (43260, 43260), (43307, 43311), (43347, 43359), (43443, 43443), (43456, 43469),
    (43486, 43487), (43612, 43615), (43639, 43641), (43711, 43711), (43713, 43713), (43742, 43743),
    (43760, 43761), (43766, 43766), (43867, 43867), (43882, 43883), (44011, 44013), (57344, 63743),
    (64297, 64297), (64434, 64450), (64830, 64847), (64975, 64975), (65020, 65131), (65279, 65295),
    (65306, 65312), (65339, 65344), (65371, 65381), (65504, 65533), (65792, 65855), (65909, 66045),
    (66272, 66299), (66336, 66339), (66463, 66463), (66512, 66512), (66927, 66927), (67671, 67679),
    (67703, 67711), (67751, 67759), (67835, 67839), (67862, 67871), (67903, 67903), (68028, 68029),
    (68032, 68095), (68152, 68184), (68221, 68223), (68253, 68255), (68296, 68296), (68325, 68342),
    (68409, 68415), (68440, 68447), (68472, 68479), (68505, 68527), (68858, 68863), (69216, 69246),
    (69293, 69293), (69373, 69375), (69405, 69414), (69446, 69465), (69506, 69513), (69573, 69579),
    (69702, 69733), (69744, 69744), (69759, 69759), (69817, 69825), (69837, 69837), (69939, 69940),
    (69952, 69955), (70003, 70005), (70080, 70080), (70085, 70093), (70107, 70107), (70109, 70132),
    (70197, 70198), (70200, 70205), (70313, 70313), (70377, 70378), (70459, 70460), (70477, 70477),
    (70502, 70516), (70722, 70722), (70726, 70726), (70731, 70735), (70746, 70750), (70850, 70851),
    (70854, 70854), (71103, 71127), (71231, 71231), (71233, 71235), (71264, 71276), (71350, 71351),
    (71353, 71353), (71467, 71467), (71482, 71487), (71737, 71739), (71914, 71922), (71997, 71998),
    (72003, 72006), (72160, 72160), (72162, 72162), (72243, 72244), (72255, 72263), (72344, 72348),
    (72350, 72354), (72448, 72457), (72767, 72767), (72769, 72773), (72794, 72817), (73026, 73026),
    (73028, 73029), (73111, 73111), (73463, 73551), (73664, 73727), (74864, 74868), (77809, 77810),
    (78896, 78933), (92782, 92783), (92912, 92917), (92976, 92991), (92996, 92997), (93019, 93025),
    (93824, 93850), (94178, 94178), (94180, 94180), (113820, 113821), (113823, 119672), (120513, 120513),
    (120539, 120539), (120571, 120571), (120597, 120597), (120629, 120629), (120655, 120655),
    (120687, 120687), (120713, 120713), (120745, 120745), (120771, 120771), (120832, 121519),
    (123184, 123190), (123215, 123215), (123566, 123566), (123628, 123631), (123647, 124143),
    (125127, 125142), (125252, 125254), (125256, 125258), (125278, 126269), (126704, 127279),
    (127306, 127311), (127338, 127343), (127370, 129994), (917505, 1114109)]

/-- Whether a character is printed but is neither a letter, a digit nor a space. -/
def isSign (c : Char) : Bool :=
  if c.toNat < 128 then 32 < c.toNat && c.toNat < 127 && !c.isAlphanum
  else signRanges.any fun r => r.1 ≤ c.toNat && c.toNat ≤ r.2

/-- Whether a character is a letter or a digit of some script. -/
def isLetterOrDigit (c : Char) : Bool :=
  if c.toNat < 128 then c.isAlphanum else isPrintable c && !isSign c

/-- A sign is neither a letter nor a digit. -/
theorem isLetterOrDigit_of_isSign {c : Char} (h : isSign c = true) : isLetterOrDigit c = false := by
  unfold isLetterOrDigit
  by_cases hc : c.toNat < 128
  · have : isSign c = (32 < c.toNat && c.toNat < 127 && !c.isAlphanum) := by simp [isSign, hc]
    rw [this] at h
    simp at h
    simp [hc, h.2]
  · simp [hc, h]

end Stepwise.Text
