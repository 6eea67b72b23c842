import Mathlib.Data.List.DropRight
import Mathlib.Tactic.Common

/-!
Blanks and letter case of Unicode text, as the string functions of Go's standard
library read them: a blank is a character with the property White_Space, and the
lower case of a character is the simple mapping of the Unicode character database.
Texts are sequences of characters, so a byte that is no valid UTF-8 has no counterpart.
-/

namespace NewApi

open List

/-- The code points of `unicode.White_Space`. -/
def spacePoints : List Nat :=
  [9, 10, 11, 12, 13, 32, 133, 160, 5760, 8192, 8193, 8194, 8195, 8196, 8197, 8198, 8199, 8200,
    8201, 8202, 8232, 8233, 8239, 8287, 12288]

variable (letter : Char)

/-- `unicode.IsSpace`. -/
def isSpace : Bool := spacePoints.contains letter.toNat

/-- A run of capitals: every `step`-th code point from `first` to `last` has a lower
case letter, the one of `first` being `small`. -/
structure CaseRange where
  first : Nat
  last : Nat
  step : Nat
  small : Nat
  deriving DecidableEq

namespace CaseRange

variable (range : CaseRange)

def Covers (point : Nat) : Prop :=
  range.first ≤ point ∧ point ≤ range.last ∧ (point - range.first) % range.step = 0

instance (range : CaseRange) (point : Nat) : Decidable (range.Covers point) :=
  inferInstanceAs (Decidable (_ ∧ _ ∧ _))

def shift (point : Nat) : Nat := point - range.first + range.small

/-- No lower case letter of `range` is a capital of `other`. -/
def apart (other : CaseRange) : Bool :=
  other.last.blt range.small || (range.small + (range.last - range.first)).blt other.first ||
    (range.step == 2 && other.step == 2 && (range.small + other.first) % 2 == 1)

/-- Neither the capitals nor their lower case letters reach `point`. -/
def Misses (point : Nat) : Prop :=
  (point < range.first ∨ range.last < point) ∧
    (point < range.small ∨ range.small + (range.last - range.first) < point)

instance (range : CaseRange) (point : Nat) : Decidable (range.Misses point) :=
  inferInstanceAs (Decidable (_ ∧ _))

theorem not_covers_of_apart {range other : CaseRange} {point : Nat}
    (separate : range.apart other = true) (covers : range.Covers point) :
    ¬ other.Covers (range.shift point) := by
  rintro ⟨low, high, stride⟩
  obtain ⟨first, last, own⟩ := covers
  unfold shift at low high stride
  simp only [apart, Bool.or_eq_true, Bool.and_eq_true, Nat.blt_eq, beq_iff_eq] at separate
  rcases separate with (above | below) | ⟨⟨two, others⟩, odd⟩
  · omega
  · omega
  · rw [two] at own
    rw [others] at stride
    omega

end CaseRange

/-- The capitals of `unicode.CaseRanges` in ascending order. -/
def caseRanges : List CaseRange :=
  [(65, 90, 1, 97), (192, 214, 1, 224), (216, 222, 1, 248), (256, 302, 2, 257),
    (304, 304, 2, 105), (306, 310, 2, 307), (313, 327, 2, 314), (330, 374, 2, 331),
    (376, 376, 2, 255), (377, 381, 2, 378), (385, 385, 2, 595), (386, 388, 2, 387),
    (390, 390, 2, 596), (391, 391, 2, 392), (393, 394, 1, 598), (395, 395, 2, 396),
    (398, 398, 2, 477), (399, 399, 2, 601), (400, 400, 2, 603), (401, 401, 2, 402),
    (403, 403, 2, 608), (404, 404, 2, 611), (406, 406, 2, 617), (407, 407, 2, 616),
    (408, 408, 2, 409), (412, 412, 2, 623), (413, 413, 2, 626), (415, 415, 2, 629),
    (416, 420, 2, 417), (422, 422, 2, 640), (423, 423, 2, 424), (425, 425, 2, 643),
    (428, 428, 2, 429), (430, 430, 2, 648), (431, 431, 2, 432), (433, 434, 1, 650),
    (435, 437, 2, 436), (439, 439, 2, 658), (440, 440, 2, 441), (444, 444, 2, 445),
    (452, 452, 2, 454), (453, 453, 2, 454), (455, 455, 2, 457), (456, 456, 2, 457),
    (458, 458, 2, 460), (459, 475, 2, 460), (478, 494, 2, 479), (497, 497, 2, 499),
    (498, 500, 2, 499), (502, 502, 2, 405), (503, 503, 2, 447), (504, 542, 2, 505),
    (544, 544, 2, 414), (546, 562, 2, 547), (570, 570, 2, 11365), (571, 571, 2, 572),
    (573, 573, 2, 410), (574, 574, 2, 11366), (577, 577, 2, 578), (579, 579, 2, 384),
    (580, 580, 2, 649), (581, 581, 2, 652), (582, 590, 2, 583), (880, 882, 2, 881),
    (886, 886, 2, 887), (895, 895, 2, 1011), (902, 902, 2, 940), (904, 906, 1, 941),
    (908, 908, 2, 972), (910, 911, 1, 973), (913, 929, 1, 945), (931, 939, 1, 963),
    (975, 975, 2, 983), (984, 1006, 2, 985), (1012, 1012, 2, 952), (1015, 1015, 2, 1016),
    (1017, 1017, 2, 1010), (1018, 1018, 2, 1019), (1021, 1023, 1, 891), (1024, 1039, 1, 1104),
    (1040, 1071, 1, 1072), (1120, 1152, 2, 1121), (1162, 1214, 2, 1163), (1216, 1216, 2, 1231),
    (1217, 1229, 2, 1218), (1232, 1326, 2, 1233), (1329, 1366, 1, 1377), (4256, 4293, 1, 11520),
    (4295, 4295, 2, 11559), (4301, 4301, 2, 11565), (5024, 5103, 1, 43888), (5104, 5109, 1, 5112),
    (7312, 7354, 1, 4304), (7357, 7359, 1, 4349), (7680, 7828, 2, 7681), (7838, 7838, 2, 223),
    (7840, 7934, 2, 7841), (7944, 7951, 1, 7936), (7960, 7965, 1, 7952), (7976, 7983, 1, 7968),
    (7992, 7999, 1, 7984), (8008, 8013, 1, 8000), (8025, 8031, 2, 8017), (8040, 8047, 1, 8032),
    (8072, 8079, 1, 8064), (8088, 8095, 1, 8080), (8104, 8111, 1, 8096), (8120, 8121, 1, 8112),
    (8122, 8123, 1, 8048), (8124, 8124, 2, 8115), (8136, 8139, 1, 8050), (8140, 8140, 2, 8131),
    (8152, 8153, 1, 8144), (8154, 8155, 1, 8054), (8168, 8169, 1, 8160), (8170, 8171, 1, 8058),
    (8172, 8172, 2, 8165), (8184, 8185, 1, 8056), (8186, 8187, 1, 8060), (8188, 8188, 2, 8179),
    (8486, 8486, 2, 969), (8490, 8490, 2, 107), (8491, 8491, 2, 229), (8498, 8498, 2, 8526),
    (8544, 8559, 1, 8560), (8579, 8579, 2, 8580), (9398, 9423, 1, 9424), (11264, 11311, 1, 11312),
    (11360, 11360, 2, 11361), (11362, 11362, 2, 619), (11363, 11363, 2, 7549),
    (11364, 11364, 2, 637), (11367, 11371, 2, 11368), (11373, 11373, 2, 593),
    (11374, 11374, 2, 625), (11375, 11375, 2, 592), (11376, 11376, 2, 594),
    (11378, 11378, 2, 11379), (11381, 11381, 2, 11382), (11390, 11391, 1, 575),
    (11392, 11490, 2, 11393), (11499, 11501, 2, 11500), (11506, 11506, 2, 11507),
    (42560, 42604, 2, 42561), (42624, 42650, 2, 42625), (42786, 42798, 2, 42787),
    (42802, 42862, 2, 42803), (42873, 42875, 2, 42874), (42877, 42877, 2, 7545),
    (42878, 42886, 2, 42879), (42891, 42891, 2, 42892), (42893, 42893, 2, 613),
    (42896, 42898, 2, 42897), (42902, 42920, 2, 42903), (42922, 42922, 2, 614),
    (42923, 42923, 2, 604), (42924, 42924, 2, 609), (42925, 42925, 2, 620), (42926, 42926, 2, 618),
    (42928, 42928, 2, 670), (42929, 42929, 2, 647), (42930, 42930, 2, 669),
    (42931, 42931, 2, 43859), (42932, 42946, 2, 42933), (42948, 42948, 2, 42900),
    (42949, 42949, 2, 642), (42950, 42950, 2, 7566), (42951, 42953, 2, 42952),
    (42960, 42960, 2, 42961), (42966, 42968, 2, 42967), (42997, 42997, 2, 42998),
    (65313, 65338, 1, 65345), (66560, 66599, 1, 66600), (66736, 66771, 1, 66776),
    (66928, 66938, 1, 66967), (66940, 66954, 1, 66979), (66956, 66962, 1, 66995),
    (66964, 66965, 1, 67003), (68736, 68786, 1, 68800), (71840, 71871, 1, 71872),
    (93760, 93791, 1, 93792), (125184, 125217, 1, 125218)].map
      fun (first, last, step, small) => ⟨first, last, step, small⟩

/-- The search of the ordered ranges for a code point. -/
def lowerPoint (point : Nat) : List CaseRange → Nat
  | [] => point
  | range :: rest =>
      if point < range.first then point
      else if range.Covers point then range.shift point
      else lowerPoint point rest

/-- `unicode.ToLower`. -/
def toLower : Char := Char.ofNat (lowerPoint letter.toNat caseRanges)

variable (text : String)

/-- `strings.TrimSpace`. -/
def trimSpace : String :=
  String.ofList ((text.toList.dropWhile isSpace).reverse.dropWhile isSpace).reverse

/-- `strings.ToLower`. -/
def lower : String := String.ofList (text.toList.map toLower)

theorem lowerPoint_cases (point : Nat) (ranges : List CaseRange) :
    lowerPoint point ranges = point ∨
      ∃ range ∈ ranges, range.Covers point ∧ lowerPoint point ranges = range.shift point := by
  induction ranges with
  | nil => exact .inl rfl
  | cons range rest ih =>
      rw [lowerPoint]
      split_ifs with below covers
      · exact .inl rfl
      · exact .inr ⟨range, mem_cons_self, covers, rfl⟩
      · rcases ih with same | ⟨found, member, rest⟩
        · exact .inl same
        · exact .inr ⟨found, mem_cons_of_mem _ member, rest⟩

theorem lowerPoint_eq_self {point : Nat} {ranges : List CaseRange}
    (none : ∀ range ∈ ranges, ¬ range.Covers point) : lowerPoint point ranges = point := by
  rcases lowerPoint_cases point ranges with same | ⟨range, member, covers, _⟩
  · exact same
  · exact absurd covers (none range member)

theorem caseRanges_apart : (caseRanges.all fun range => caseRanges.all range.apart) = true := by
  decide +kernel

theorem caseRanges_miss_spaces :
    ∀ point ∈ spacePoints, ∀ range ∈ caseRanges, range.Misses point := by
  decide +kernel

theorem caseRanges_valid :
    ∀ range ∈ caseRanges, range.small + (range.last - range.first) < 0xD800 ∨
      0xDFFF < range.small ∧ range.small + (range.last - range.first) < 0x110000 := by
  decide +kernel

theorem toNat_toLower : (toLower letter).toNat = lowerPoint letter.toNat caseRanges := by
  have valid : (lowerPoint letter.toNat caseRanges).isValidChar := by
    rcases lowerPoint_cases letter.toNat caseRanges with same | ⟨range, member, covers, shifted⟩
    · rw [same]
      exact letter.valid
    · have bounds := caseRanges_valid range member
      obtain ⟨first, last, _⟩ := covers
      rw [shifted, CaseRange.shift, Nat.isValidChar]
      omega
  rw [toLower, Char.ofNat, dif_pos valid]
  rfl

theorem toLower_toLower : toLower (toLower letter) = toLower letter := by
  apply Char.toNat_inj.1
  rw [toNat_toLower (toLower letter), toNat_toLower letter]
  rcases lowerPoint_cases letter.toNat caseRanges with same | ⟨range, member, covers, shifted⟩
  · rw [same, same]
  · rw [shifted]
    have separate := all_eq_true.1 caseRanges_apart range member
    exact lowerPoint_eq_self fun other found =>
      CaseRange.not_covers_of_apart (all_eq_true.1 separate other found) covers

theorem isSpace_toLower : isSpace (toLower letter) = isSpace letter := by
  rw [isSpace, isSpace, toNat_toLower]
  rcases lowerPoint_cases letter.toNat caseRanges with same | ⟨range, member, covers, shifted⟩
  · rw [same]
  · -- A range that meets the letter holds no blank, neither before nor after the mapping.
    obtain ⟨first, last, _⟩ := covers
    have away : ∀ point ∈ spacePoints, point ≠ letter.toNat ∧ point ≠ range.shift letter.toNat := by
      intro point blank
      have misses := caseRanges_miss_spaces point blank range member
      unfold CaseRange.Misses at misses
      unfold CaseRange.shift
      omega
    rw [shifted, Bool.eq_iff_iff, contains_iff_mem, contains_iff_mem]
    constructor
    · intro blank
      exact absurd rfl (away _ blank).2
    · intro blank
      exact absurd rfl (away _ blank).1

theorem trimSpace_ofList (letters : List Char) :
    trimSpace (String.ofList letters) =
      String.ofList ((letters.dropWhile isSpace).rdropWhile isSpace) := by
  simp [trimSpace, List.rdropWhile]

theorem dropWhile_rdropWhile (letters : List Char) :
    ((letters.dropWhile isSpace).rdropWhile isSpace).dropWhile isSpace =
      (letters.dropWhile isSpace).rdropWhile isSpace := by
  rw [dropWhile_eq_self_iff]
  intro nonempty
  have part := rdropWhile_prefix isSpace (letters.dropWhile isSpace)
  rw [part.getElem nonempty]
  exact dropWhile_get_zero_not _ letters (lt_of_lt_of_le nonempty part.length_le)

theorem trimSpace_trimSpace : trimSpace (trimSpace text) = trimSpace text := by
  rw [← String.ofList_toList (s := text), trimSpace_ofList, trimSpace_ofList, dropWhile_rdropWhile,
    rdropWhile_idempotent]

theorem lower_lower : lower (lower text) = lower text := by
  simp [lower, Function.comp_def, toLower_toLower]

theorem trimSpace_lower : trimSpace (lower text) = lower (trimSpace text) := by
  have blank : isSpace ∘ toLower = isSpace := funext isSpace_toLower
  simp [trimSpace, lower, dropWhile_map, ← map_reverse, blank]

end NewApi
