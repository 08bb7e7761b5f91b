import Mathlib

/-! Full case folding of code points from a table of runs and expansions. What a
sound table folds to stays as it is when it is folded again. -/
namespace CyreneExchange.General

/-- The code points from `low` to `high`, `step` apart, fold to those from
`target` on. -/
structure FoldRun where
  low : Nat
  high : Nat
  step : Nat
  target : Nat

/-- A table of case foldings: runs that fold one to one, and the code points
that fold to several. -/
structure FoldTable where
  runs : List FoldRun
  expansions : List (Nat × List Nat)

namespace FoldRun

def covers (run : FoldRun) (n : Nat) : Bool :=
  Nat.ble run.low n && Nat.ble n run.high && Nat.beq ((n - run.low) % run.step) 0

def image (run : FoldRun) (n : Nat) : Nat := run.target + (n - run.low)

/-- No image of the run lies between these two. -/
def misses (run : FoldRun) (low high : Nat) : Bool :=
  Nat.blt (run.target + (run.high - run.low)) low || Nat.blt high run.target

/-- The other run covers no image of this one: they lie apart, or both take every
second code point and interleave. -/
def apart (run other : FoldRun) : Bool :=
  run.misses other.low other.high ||
    (Nat.beq other.step 2 && (Nat.beq run.step 2 || Nat.beq run.low run.high) &&
      Nat.beq ((run.target + other.low) % 2) 1)

/-- The point is no image of the run. -/
def avoids (run : FoldRun) (point : Nat) : Bool := run.apart ⟨point, point, 2, point⟩

variable {run other : FoldRun} {n : Nat}

theorem covers_eq_true : run.covers n = true ↔
    run.low ≤ n ∧ n ≤ run.high ∧ (n - run.low) % run.step = 0 := by
  simp [covers, and_assoc]

theorem image_not_between {low high : Nat} (hCovers : run.covers n = true)
    (hMisses : run.misses low high = true) : ¬ (low ≤ run.image n ∧ run.image n ≤ high) := by
  rw [covers_eq_true] at hCovers
  simp only [misses, Bool.or_eq_true, Nat.blt_eq] at hMisses
  unfold image
  omega

theorem image_not_covered (hCovers : run.covers n = true) (hApart : run.apart other = true) :
    other.covers (run.image n) = false := by
  rw [Bool.eq_false_iff]
  intro hOther
  rw [covers_eq_true] at hOther
  simp only [apart, Bool.or_eq_true, Bool.and_eq_true, Nat.beq_eq] at hApart
  rcases hApart with hMisses | ⟨⟨hOtherStep, hStep⟩, hParity⟩
  · exact image_not_between hCovers hMisses ⟨hOther.1, hOther.2.1⟩
  · rw [covers_eq_true] at hCovers
    obtain ⟨hLow, hHigh, hRest⟩ := hCovers
    obtain ⟨hOtherLow, -, hOtherRest⟩ := hOther
    rw [hOtherStep] at hOtherRest
    unfold image at hOtherLow hOtherRest
    rcases hStep with hTwo | hSingle
    · rw [hTwo] at hRest
      omega
    · omega

theorem image_ne {point : Nat} (hCovers : run.covers n = true) (hAvoids : run.avoids point = true) :
    run.image n ≠ point := by
  rintro rfl
  have hSelf : (⟨run.image n, run.image n, 2, run.image n⟩ : FoldRun).covers (run.image n) = true :=
    covers_eq_true.mpr ⟨Nat.le_refl _, Nat.le_refl _, by rw [Nat.sub_self, Nat.zero_mod]⟩
  rw [image_not_covered hCovers hAvoids] at hSelf
  cases hSelf

end FoldRun

namespace FoldTable

variable {table : FoldTable} {limit n m : Nat} {reserved : List Nat}

/-- What a code point folds to. -/
def fold (table : FoldTable) (n : Nat) : List Nat :=
  match table.expansions.lookup n with
  | some targets => targets
  | none =>
      match table.runs.find? fun run => run.covers n with
      | some run => [run.image n]
      | none => [n]

/-- The table has nothing for this code point. -/
def unmoved (table : FoldTable) (n : Nat) : Bool :=
  (table.expansions.lookup n).isNone && table.runs.all fun run => !run.covers n

/-- No row folds to what another one moves, to a reserved code point or past the
limit, and no reserved code point is moved. -/
def sound (table : FoldTable) (limit : Nat) (reserved : List Nat) : Bool :=
  (table.runs.all fun run =>
    table.runs.all run.apart &&
    table.expansions.all (fun entry => run.avoids entry.1) &&
    reserved.all run.avoids &&
    Nat.blt (run.target + (run.high - run.low)) limit) &&
  (table.expansions.all fun entry =>
    !entry.2.isEmpty && entry.2.all fun target =>
      table.unmoved target && !reserved.contains target && Nat.blt target limit) &&
  reserved.all table.unmoved

theorem fold_of_unmoved (h : table.unmoved n = true) : table.fold n = [n] := by
  simp only [unmoved, Bool.and_eq_true, Option.isNone_iff_eq_none, List.all_eq_true,
    Bool.not_eq_true'] at h
  have hNone : (table.runs.find? fun run => run.covers n) = none := by
    rw [List.find?_eq_none]
    intro run hRun
    simp [h.2 run hRun]
  rw [fold, h.1, hNone]

/-- A code point stays, expands, or goes along with its run. -/
theorem fold_cases (table : FoldTable) (n : Nat) :
    table.unmoved n = true ∨ (n, table.fold n) ∈ table.expansions ∨
      ∃ run ∈ table.runs, run.covers n = true ∧ table.fold n = [run.image n] := by
  cases hExpands : table.expansions.lookup n with
  | some targets =>
      refine .inr (.inl ?_)
      rw [fold, hExpands]
      obtain ⟨before, after, hSplit, -⟩ := List.lookup_eq_some_iff.mp hExpands
      rw [hSplit]
      exact List.mem_append_right _ List.mem_cons_self
  | none =>
      cases hRun : table.runs.find? fun run => run.covers n with
      | some run =>
          refine .inr (.inr ⟨run, List.mem_of_find?_eq_some hRun, ?_, ?_⟩)
          · simpa using List.find?_some hRun
          · rw [fold, hExpands, hRun]
      | none =>
          refine .inl ?_
          rw [List.find?_eq_none] at hRun
          simpa [unmoved, hExpands] using hRun

section Sound

variable (hSound : table.sound limit reserved = true)
include hSound

/-- What a code point folds to is not moved, and is reserved only if it stays. -/
theorem sound_fold (hMem : m ∈ table.fold n) :
    table.unmoved m = true ∧ (m ∈ reserved → m = n) ∧ (n < limit → m < limit) := by
  simp only [sound, Bool.and_eq_true, List.all_eq_true, Bool.not_eq_true', List.contains_eq_mem,
    decide_eq_false_iff_not, Nat.blt_eq] at hSound
  obtain ⟨⟨hRuns, hExpansions⟩, -⟩ := hSound
  rcases table.fold_cases n with hStays | hExpands | ⟨run, hRun, hCovers, hFold⟩
  · rw [fold_of_unmoved hStays, List.mem_singleton] at hMem
    subst hMem
    exact ⟨hStays, fun _ => rfl, id⟩
  · obtain ⟨-, hTargets⟩ := hExpansions _ hExpands
    obtain ⟨⟨hUnmoved, hFree⟩, hLimit⟩ := hTargets m hMem
    exact ⟨hUnmoved, fun hReserved => (hFree hReserved).elim, fun _ => hLimit⟩
  · rw [hFold, List.mem_singleton] at hMem
    subst hMem
    obtain ⟨⟨⟨hApart, hKeys⟩, hReserved⟩, hLimit⟩ := hRuns run hRun
    have hImage : run.image n ≤ run.target + (run.high - run.low) := by
      rw [FoldRun.covers_eq_true] at hCovers
      unfold FoldRun.image
      omega
    refine ⟨?_, fun hMem => ?_, fun _ => Nat.lt_of_le_of_lt hImage hLimit⟩
    · simp only [unmoved, Bool.and_eq_true, Option.isNone_iff_eq_none, List.all_eq_true,
        Bool.not_eq_true', List.lookup_eq_none_iff]
      refine ⟨fun entry hEntry => ?_, fun other hOther =>
        FoldRun.image_not_covered hCovers (hApart other hOther)⟩
      exact bne_iff_ne.mpr (FoldRun.image_ne hCovers (hKeys entry hEntry))
    · exact (FoldRun.image_ne hCovers (hReserved _ hMem) rfl).elim

/-- Folding again changes nothing. -/
theorem fold_fold (hMem : m ∈ table.fold n) : table.fold m = [m] :=
  fold_of_unmoved (sound_fold hSound hMem).1

theorem fold_ne_nil (n : Nat) : table.fold n ≠ [] := by
  simp only [sound, Bool.and_eq_true, List.all_eq_true, Bool.not_eq_true',
    List.isEmpty_eq_false_iff] at hSound
  rcases table.fold_cases n with hStays | hExpands | ⟨run, -, -, hFold⟩
  · rw [fold_of_unmoved hStays]
    simp
  · exact (hSound.1.2 _ hExpands).1
  · rw [hFold]
    simp

end Sound

end FoldTable

/-- The full case foldings of Unicode. -/
def unicodeFolding : FoldTable where
  runs :=
    [⟨65, 90, 1, 97⟩, ⟨181, 181, 1, 956⟩, ⟨192, 214, 1, 224⟩, ⟨216, 222, 1, 248⟩,
    ⟨256, 302, 2, 257⟩, ⟨306, 310, 2, 307⟩, ⟨313, 327, 2, 314⟩, ⟨330, 374, 2, 331⟩,
    ⟨376, 376, 1, 255⟩, ⟨377, 381, 2, 378⟩, ⟨383, 383, 1, 115⟩, ⟨385, 385, 1, 595⟩,
    ⟨386, 388, 2, 387⟩, ⟨390, 390, 1, 596⟩, ⟨391, 391, 1, 392⟩, ⟨393, 394, 1, 598⟩,
    ⟨395, 395, 1, 396⟩, ⟨398, 398, 1, 477⟩, ⟨399, 399, 1, 601⟩, ⟨400, 400, 1, 603⟩,
    ⟨401, 401, 1, 402⟩, ⟨403, 403, 1, 608⟩, ⟨404, 404, 1, 611⟩, ⟨406, 406, 1, 617⟩,
    ⟨407, 407, 1, 616⟩, ⟨408, 408, 1, 409⟩, ⟨412, 412, 1, 623⟩, ⟨413, 413, 1, 626⟩,
    ⟨415, 415, 1, 629⟩, ⟨416, 420, 2, 417⟩, ⟨422, 422, 1, 640⟩, ⟨423, 423, 1, 424⟩,
    ⟨425, 425, 1, 643⟩, ⟨428, 428, 1, 429⟩, ⟨430, 430, 1, 648⟩, ⟨431, 431, 1, 432⟩,
    ⟨433, 434, 1, 650⟩, ⟨435, 437, 2, 436⟩, ⟨439, 439, 1, 658⟩, ⟨440, 440, 1, 441⟩,
    ⟨444, 444, 1, 445⟩, ⟨452, 452, 1, 454⟩, ⟨453, 453, 1, 454⟩, ⟨455, 455, 1, 457⟩,
    ⟨456, 456, 1, 457⟩, ⟨458, 458, 1, 460⟩, ⟨459, 475, 2, 460⟩, ⟨478, 494, 2, 479⟩,
    ⟨497, 497, 1, 499⟩, ⟨498, 500, 2, 499⟩, ⟨502, 502, 1, 405⟩, ⟨503, 503, 1, 447⟩,
    ⟨504, 542, 2, 505⟩, ⟨544, 544, 1, 414⟩, ⟨546, 562, 2, 547⟩, ⟨570, 570, 1, 11365⟩,
    ⟨571, 571, 1, 572⟩, ⟨573, 573, 1, 410⟩, ⟨574, 574, 1, 11366⟩, ⟨577, 577, 1, 578⟩,
    ⟨579, 579, 1, 384⟩, ⟨580, 580, 1, 649⟩, ⟨581, 581, 1, 652⟩, ⟨582, 590, 2, 583⟩,
    ⟨837, 837, 1, 953⟩, ⟨880, 882, 2, 881⟩, ⟨886, 886, 1, 887⟩, ⟨895, 895, 1, 1011⟩,
    ⟨902, 902, 1, 940⟩, ⟨904, 906, 1, 941⟩, ⟨908, 908, 1, 972⟩, ⟨910, 911, 1, 973⟩,
    ⟨913, 929, 1, 945⟩, ⟨931, 939, 1, 963⟩, ⟨962, 962, 1, 963⟩, ⟨975, 975, 1, 983⟩,
    ⟨976, 976, 1, 946⟩, ⟨977, 977, 1, 952⟩, ⟨981, 981, 1, 966⟩, ⟨982, 982, 1, 960⟩,
    ⟨984, 1006, 2, 985⟩, ⟨1008, 1008, 1, 954⟩, ⟨1009, 1009, 1, 961⟩, ⟨1012, 1012, 1, 952⟩,
    ⟨1013, 1013, 1, 949⟩, ⟨1015, 1015, 1, 1016⟩, ⟨1017, 1017, 1, 1010⟩, ⟨1018, 1018, 1, 1019⟩,
    ⟨1021, 1023, 1, 891⟩, ⟨1024, 1039, 1, 1104⟩, ⟨1040, 1071, 1, 1072⟩, ⟨1120, 1152, 2, 1121⟩,
    ⟨1162, 1214, 2, 1163⟩, ⟨1216, 1216, 1, 1231⟩, ⟨1217, 1229, 2, 1218⟩, ⟨1232, 1326, 2, 1233⟩,
    ⟨1329, 1366, 1, 1377⟩, ⟨4256, 4293, 1, 11520⟩, ⟨4295, 4295, 1, 11559⟩, ⟨4301, 4301, 1, 11565⟩,
    ⟨5112, 5117, 1, 5104⟩, ⟨7296, 7296, 1, 1074⟩, ⟨7297, 7297, 1, 1076⟩, ⟨7298, 7298, 1, 1086⟩,
    ⟨7299, 7300, 1, 1089⟩, ⟨7301, 7301, 1, 1090⟩, ⟨7302, 7302, 1, 1098⟩, ⟨7303, 7303, 1, 1123⟩,
    ⟨7304, 7304, 1, 42571⟩, ⟨7312, 7354, 1, 4304⟩, ⟨7357, 7359, 1, 4349⟩, ⟨7680, 7828, 2, 7681⟩,
    ⟨7835, 7835, 1, 7777⟩, ⟨7840, 7934, 2, 7841⟩, ⟨7944, 7951, 1, 7936⟩, ⟨7960, 7965, 1, 7952⟩,
    ⟨7976, 7983, 1, 7968⟩, ⟨7992, 7999, 1, 7984⟩, ⟨8008, 8013, 1, 8000⟩, ⟨8025, 8031, 2, 8017⟩,
    ⟨8040, 8047, 1, 8032⟩, ⟨8120, 8121, 1, 8112⟩, ⟨8122, 8123, 1, 8048⟩, ⟨8126, 8126, 1, 953⟩,
    ⟨8136, 8139, 1, 8050⟩, ⟨8152, 8153, 1, 8144⟩, ⟨8154, 8155, 1, 8054⟩, ⟨8168, 8169, 1, 8160⟩,
    ⟨8170, 8171, 1, 8058⟩, ⟨8172, 8172, 1, 8165⟩, ⟨8184, 8185, 1, 8056⟩, ⟨8186, 8187, 1, 8060⟩,
    ⟨8486, 8486, 1, 969⟩, ⟨8490, 8490, 1, 107⟩, ⟨8491, 8491, 1, 229⟩, ⟨8498, 8498, 1, 8526⟩,
    ⟨8544, 8559, 1, 8560⟩, ⟨8579, 8579, 1, 8580⟩, ⟨9398, 9423, 1, 9424⟩, ⟨11264, 11311, 1, 11312⟩,
    ⟨11360, 11360, 1, 11361⟩, ⟨11362, 11362, 1, 619⟩, ⟨11363, 11363, 1, 7549⟩,
    ⟨11364, 11364, 1, 637⟩, ⟨11367, 11371, 2, 11368⟩, ⟨11373, 11373, 1, 593⟩,
    ⟨11374, 11374, 1, 625⟩, ⟨11375, 11375, 1, 592⟩, ⟨11376, 11376, 1, 594⟩,
    ⟨11378, 11378, 1, 11379⟩, ⟨11381, 11381, 1, 11382⟩, ⟨11390, 11391, 1, 575⟩,
    ⟨11392, 11490, 2, 11393⟩, ⟨11499, 11501, 2, 11500⟩, ⟨11506, 11506, 1, 11507⟩,
    ⟨42560, 42604, 2, 42561⟩, ⟨42624, 42650, 2, 42625⟩, ⟨42786, 42798, 2, 42787⟩,
    ⟨42802, 42862, 2, 42803⟩, ⟨42873, 42875, 2, 42874⟩, ⟨42877, 42877, 1, 7545⟩,
    ⟨42878, 42886, 2, 42879⟩, ⟨42891, 42891, 1, 42892⟩, ⟨42893, 42893, 1, 613⟩,
    ⟨42896, 42898, 2, 42897⟩, ⟨42902, 42920, 2, 42903⟩, ⟨42922, 42922, 1, 614⟩,
    ⟨42923, 42923, 1, 604⟩, ⟨42924, 42924, 1, 609⟩, ⟨42925, 42925, 1, 620⟩, ⟨42926, 42926, 1, 618⟩,
    ⟨42928, 42928, 1, 670⟩, ⟨42929, 42929, 1, 647⟩, ⟨42930, 42930, 1, 669⟩,
    ⟨42931, 42931, 1, 43859⟩, ⟨42932, 42946, 2, 42933⟩, ⟨42948, 42948, 1, 42900⟩,
    ⟨42949, 42949, 1, 642⟩, ⟨42950, 42950, 1, 7566⟩, ⟨42951, 42953, 2, 42952⟩,
    ⟨42960, 42960, 1, 42961⟩, ⟨42966, 42968, 2, 42967⟩, ⟨42997, 42997, 1, 42998⟩,
    ⟨43888, 43967, 1, 5024⟩, ⟨65313, 65338, 1, 65345⟩, ⟨66560, 66599, 1, 66600⟩,
    ⟨66736, 66771, 1, 66776⟩, ⟨66928, 66964, 2, 66967⟩, ⟨66929, 66937, 2, 66968⟩,
    ⟨66941, 66953, 2, 66980⟩, ⟨66957, 66961, 2, 66996⟩, ⟨66965, 66965, 1, 67004⟩,
    ⟨68736, 68786, 1, 68800⟩, ⟨71840, 71871, 1, 71872⟩, ⟨93760, 93791, 1, 93792⟩,
    ⟨125184, 125217, 1, 125218⟩]
  expansions :=
    [(223, [115, 115]), (304, [105, 775]), (329, [700, 110]), (496, [106, 780]),
    (912, [953, 776, 769]), (944, [965, 776, 769]), (1415, [1381, 1410]), (7830, [104, 817]),
    (7831, [116, 776]), (7832, [119, 778]), (7833, [121, 778]), (7834, [97, 702]),
    (7838, [115, 115]), (8016, [965, 787]), (8018, [965, 787, 768]), (8020, [965, 787, 769]),
    (8022, [965, 787, 834]), (8064, [7936, 953]), (8065, [7937, 953]), (8066, [7938, 953]),
    (8067, [7939, 953]), (8068, [7940, 953]), (8069, [7941, 953]), (8070, [7942, 953]),
    (8071, [7943, 953]), (8072, [7936, 953]), (8073, [7937, 953]), (8074, [7938, 953]),
    (8075, [7939, 953]), (8076, [7940, 953]), (8077, [7941, 953]), (8078, [7942, 953]),
    (8079, [7943, 953]), (8080, [7968, 953]), (8081, [7969, 953]), (8082, [7970, 953]),
    (8083, [7971, 953]), (8084, [7972, 953]), (8085, [7973, 953]), (8086, [7974, 953]),
    (8087, [7975, 953]), (8088, [7968, 953]), (8089, [7969, 953]), (8090, [7970, 953]),
    (8091, [7971, 953]), (8092, [7972, 953]), (8093, [7973, 953]), (8094, [7974, 953]),
    (8095, [7975, 953]), (8096, [8032, 953]), (8097, [8033, 953]), (8098, [8034, 953]),
    (8099, [8035, 953]), (8100, [8036, 953]), (8101, [8037, 953]), (8102, [8038, 953]),
    (8103, [8039, 953]), (8104, [8032, 953]), (8105, [8033, 953]), (8106, [8034, 953]),
    (8107, [8035, 953]), (8108, [8036, 953]), (8109, [8037, 953]), (8110, [8038, 953]),
    (8111, [8039, 953]), (8114, [8048, 953]), (8115, [945, 953]), (8116, [940, 953]),
    (8118, [945, 834]), (8119, [945, 834, 953]), (8124, [945, 953]), (8130, [8052, 953]),
    (8131, [951, 953]), (8132, [942, 953]), (8134, [951, 834]), (8135, [951, 834, 953]),
    (8140, [951, 953]), (8146, [953, 776, 768]), (8147, [953, 776, 769]), (8150, [953, 834]),
    (8151, [953, 776, 834]), (8162, [965, 776, 768]), (8163, [965, 776, 769]), (8164, [961, 787]),
    (8166, [965, 834]), (8167, [965, 776, 834]), (8178, [8060, 953]), (8179, [969, 953]),
    (8180, [974, 953]), (8182, [969, 834]), (8183, [969, 834, 953]), (8188, [969, 953]),
    (64256, [102, 102]), (64257, [102, 105]), (64258, [102, 108]), (64259, [102, 102, 105]),
    (64260, [102, 102, 108]), (64261, [115, 116]), (64262, [115, 116]), (64275, [1396, 1398]),
    (64276, [1396, 1381]), (64277, [1396, 1387]), (64278, [1406, 1398]), (64279, [1396, 1389])]

/-- Nothing folds to white space or a commercial at. -/
def plainPoints : List Nat :=
  [9, 10, 11, 12, 13, 28, 29, 30, 31, 32, 64, 133, 160, 5760, 8192, 8193, 8194, 8195, 8196, 8197,
    8198, 8199, 8200, 8201, 8202, 8232, 8233, 8239, 8287, 12288]

theorem unicodeFolding_sound : unicodeFolding.sound 0x110000 plainPoints = true := by
  decide +kernel

end CyreneExchange.General
