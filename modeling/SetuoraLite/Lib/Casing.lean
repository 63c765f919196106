import SetuoraLite.Lib.Text

/-!
# Upper case

`str.upper()` maps every code point through Unicode's full upper-case mapping,
with no context: a text is upper-cased code point by code point. The mapping is
data, so it is given as data (Unicode 14, the tables of Python 3.11): runs of
code points whose upper cases run in step with them, and the code points whose
upper case is longer than one.

`upper_upper` is the one fact about the table that users of `upper` need: the
mapping is idempotent. It reduces to a comparison of the table's runs with each
other: no run's image meets a run or a special code point.

`asciiUpper` is SQLite's `upper()`, which only knows the letters `a` to `z`.
-/

namespace Lib

/-- The code points `lo`, `lo + step`, …, `hi`, mapped to `target`, `target + step`, …. -/
structure CaseRun where
  lo : Nat
  hi : Nat
  step : Nat
  target : Nat

/-- The code point belongs to the run. -/
def CaseRun.covers (r : CaseRun) (c : Nat) : Bool :=
  Nat.ble r.lo c && Nat.ble c r.hi && (c - r.lo) % r.step == 0

/-- The upper case of a code point of the run. -/
def CaseRun.map (r : CaseRun) (c : Nat) : Nat := r.target + (c - r.lo)

/-- The runs of single-code-point upper-case mappings. -/
def upperRuns : List CaseRun :=
  [⟨97, 122, 1, 65⟩, ⟨181, 181, 2, 924⟩, ⟨224, 246, 1, 192⟩, ⟨248, 254, 1, 216⟩,
  ⟨255, 255, 2, 376⟩, ⟨257, 303, 2, 256⟩, ⟨305, 305, 2, 73⟩, ⟨307, 311, 2, 306⟩,
  ⟨314, 328, 2, 313⟩, ⟨331, 375, 2, 330⟩, ⟨378, 382, 2, 377⟩, ⟨383, 383, 2, 83⟩,
  ⟨384, 384, 2, 579⟩, ⟨387, 389, 2, 386⟩, ⟨392, 392, 2, 391⟩, ⟨396, 396, 2, 395⟩,
  ⟨402, 402, 2, 401⟩, ⟨405, 405, 2, 502⟩, ⟨409, 409, 2, 408⟩, ⟨410, 410, 2, 573⟩,
  ⟨414, 414, 2, 544⟩, ⟨417, 421, 2, 416⟩, ⟨424, 424, 2, 423⟩, ⟨429, 429, 2, 428⟩,
  ⟨432, 432, 2, 431⟩, ⟨436, 438, 2, 435⟩, ⟨441, 441, 2, 440⟩, ⟨445, 445, 2, 444⟩,
  ⟨447, 447, 2, 503⟩, ⟨453, 453, 2, 452⟩, ⟨454, 454, 2, 452⟩, ⟨456, 456, 2, 455⟩,
  ⟨457, 457, 2, 455⟩, ⟨459, 459, 2, 458⟩, ⟨460, 460, 2, 458⟩, ⟨462, 476, 2, 461⟩,
  ⟨477, 477, 2, 398⟩, ⟨479, 495, 2, 478⟩, ⟨498, 498, 2, 497⟩, ⟨499, 499, 2, 497⟩,
  ⟨501, 501, 2, 500⟩, ⟨505, 543, 2, 504⟩, ⟨547, 563, 2, 546⟩, ⟨572, 572, 2, 571⟩,
  ⟨575, 576, 1, 11390⟩, ⟨578, 578, 2, 577⟩, ⟨583, 591, 2, 582⟩, ⟨592, 592, 2, 11375⟩,
  ⟨593, 593, 2, 11373⟩, ⟨594, 594, 2, 11376⟩, ⟨595, 595, 2, 385⟩, ⟨596, 596, 2, 390⟩,
  ⟨598, 599, 1, 393⟩, ⟨601, 601, 2, 399⟩, ⟨603, 603, 2, 400⟩, ⟨604, 604, 2, 42923⟩,
  ⟨608, 608, 2, 403⟩, ⟨609, 609, 2, 42924⟩, ⟨611, 611, 2, 404⟩, ⟨613, 613, 2, 42893⟩,
  ⟨614, 614, 2, 42922⟩, ⟨616, 616, 2, 407⟩, ⟨617, 617, 2, 406⟩, ⟨618, 618, 2, 42926⟩,
  ⟨619, 619, 2, 11362⟩, ⟨620, 620, 2, 42925⟩, ⟨623, 623, 2, 412⟩, ⟨625, 625, 2, 11374⟩,
  ⟨626, 626, 2, 413⟩, ⟨629, 629, 2, 415⟩, ⟨637, 637, 2, 11364⟩, ⟨640, 640, 2, 422⟩,
  ⟨642, 642, 2, 42949⟩, ⟨643, 643, 2, 425⟩, ⟨647, 647, 2, 42929⟩, ⟨648, 648, 2, 430⟩,
  ⟨649, 649, 2, 580⟩, ⟨650, 651, 1, 433⟩, ⟨652, 652, 2, 581⟩, ⟨658, 658, 2, 439⟩,
  ⟨669, 669, 2, 42930⟩, ⟨670, 670, 2, 42928⟩, ⟨837, 837, 2, 921⟩, ⟨881, 883, 2, 880⟩,
  ⟨887, 887, 2, 886⟩, ⟨891, 893, 1, 1021⟩, ⟨940, 940, 2, 902⟩, ⟨941, 943, 1, 904⟩,
  ⟨945, 961, 1, 913⟩, ⟨962, 962, 2, 931⟩, ⟨963, 971, 1, 931⟩, ⟨972, 972, 2, 908⟩,
  ⟨973, 974, 1, 910⟩, ⟨976, 976, 2, 914⟩, ⟨977, 977, 2, 920⟩, ⟨981, 981, 2, 934⟩,
  ⟨982, 982, 2, 928⟩, ⟨983, 983, 2, 975⟩, ⟨985, 1007, 2, 984⟩, ⟨1008, 1008, 2, 922⟩,
  ⟨1009, 1009, 2, 929⟩, ⟨1010, 1010, 2, 1017⟩, ⟨1011, 1011, 2, 895⟩, ⟨1013, 1013, 2, 917⟩,
  ⟨1016, 1016, 2, 1015⟩, ⟨1019, 1019, 2, 1018⟩, ⟨1072, 1103, 1, 1040⟩, ⟨1104, 1119, 1, 1024⟩,
  ⟨1121, 1153, 2, 1120⟩, ⟨1163, 1215, 2, 1162⟩, ⟨1218, 1230, 2, 1217⟩, ⟨1231, 1231, 2, 1216⟩,
  ⟨1233, 1327, 2, 1232⟩, ⟨1377, 1414, 1, 1329⟩, ⟨4304, 4346, 1, 7312⟩, ⟨4349, 4351, 1, 7357⟩,
  ⟨5112, 5117, 1, 5104⟩, ⟨7296, 7296, 2, 1042⟩, ⟨7297, 7297, 2, 1044⟩, ⟨7298, 7298, 2, 1054⟩,
  ⟨7299, 7300, 1, 1057⟩, ⟨7301, 7301, 2, 1058⟩, ⟨7302, 7302, 2, 1066⟩, ⟨7303, 7303, 2, 1122⟩,
  ⟨7304, 7304, 2, 42570⟩, ⟨7545, 7545, 2, 42877⟩, ⟨7549, 7549, 2, 11363⟩, ⟨7566, 7566, 2, 42950⟩,
  ⟨7681, 7829, 2, 7680⟩, ⟨7835, 7835, 2, 7776⟩, ⟨7841, 7935, 2, 7840⟩, ⟨7936, 7943, 1, 7944⟩,
  ⟨7952, 7957, 1, 7960⟩, ⟨7968, 7975, 1, 7976⟩, ⟨7984, 7991, 1, 7992⟩, ⟨8000, 8005, 1, 8008⟩,
  ⟨8017, 8023, 2, 8025⟩, ⟨8032, 8039, 1, 8040⟩, ⟨8048, 8049, 1, 8122⟩, ⟨8050, 8053, 1, 8136⟩,
  ⟨8054, 8055, 1, 8154⟩, ⟨8056, 8057, 1, 8184⟩, ⟨8058, 8059, 1, 8170⟩, ⟨8060, 8061, 1, 8186⟩,
  ⟨8112, 8113, 1, 8120⟩, ⟨8126, 8126, 2, 921⟩, ⟨8144, 8145, 1, 8152⟩, ⟨8160, 8161, 1, 8168⟩,
  ⟨8165, 8165, 2, 8172⟩, ⟨8526, 8526, 2, 8498⟩, ⟨8560, 8575, 1, 8544⟩, ⟨8580, 8580, 2, 8579⟩,
  ⟨9424, 9449, 1, 9398⟩, ⟨11312, 11359, 1, 11264⟩, ⟨11361, 11361, 2, 11360⟩,
  ⟨11365, 11365, 2, 570⟩, ⟨11366, 11366, 2, 574⟩, ⟨11368, 11372, 2, 11367⟩,
  ⟨11379, 11379, 2, 11378⟩, ⟨11382, 11382, 2, 11381⟩, ⟨11393, 11491, 2, 11392⟩,
  ⟨11500, 11502, 2, 11499⟩, ⟨11507, 11507, 2, 11506⟩, ⟨11520, 11557, 1, 4256⟩,
  ⟨11559, 11559, 2, 4295⟩, ⟨11565, 11565, 2, 4301⟩, ⟨42561, 42605, 2, 42560⟩,
  ⟨42625, 42651, 2, 42624⟩, ⟨42787, 42799, 2, 42786⟩, ⟨42803, 42863, 2, 42802⟩,
  ⟨42874, 42876, 2, 42873⟩, ⟨42879, 42887, 2, 42878⟩, ⟨42892, 42892, 2, 42891⟩,
  ⟨42897, 42899, 2, 42896⟩, ⟨42900, 42900, 2, 42948⟩, ⟨42903, 42921, 2, 42902⟩,
  ⟨42933, 42947, 2, 42932⟩, ⟨42952, 42954, 2, 42951⟩, ⟨42961, 42961, 2, 42960⟩,
  ⟨42967, 42969, 2, 42966⟩, ⟨42998, 42998, 2, 42997⟩, ⟨43859, 43859, 2, 42931⟩,
  ⟨43888, 43967, 1, 5024⟩, ⟨65345, 65370, 1, 65313⟩, ⟨66600, 66639, 1, 66560⟩,
  ⟨66776, 66811, 1, 66736⟩, ⟨66967, 66977, 1, 66928⟩, ⟨66979, 66993, 1, 66940⟩,
  ⟨66995, 67001, 1, 66956⟩, ⟨67003, 67004, 1, 66964⟩, ⟨68800, 68850, 1, 68736⟩,
  ⟨71872, 71903, 1, 71840⟩, ⟨93792, 93823, 1, 93760⟩, ⟨125218, 125251, 1, 125184⟩]

/-- The code points with an upper case of several code points. -/
def upperSpecials : List (Nat × List Nat) :=
  [(223, [83, 83]), (329, [700, 78]), (496, [74, 780]), (912, [921, 776, 769]),
  (944, [933, 776, 769]), (1415, [1333, 1362]), (7830, [72, 817]), (7831, [84, 776]),
  (7832, [87, 778]), (7833, [89, 778]), (7834, [65, 702]), (8016, [933, 787]),
  (8018, [933, 787, 768]), (8020, [933, 787, 769]), (8022, [933, 787, 834]), (8064, [7944, 921]),
  (8065, [7945, 921]), (8066, [7946, 921]), (8067, [7947, 921]), (8068, [7948, 921]),
  (8069, [7949, 921]), (8070, [7950, 921]), (8071, [7951, 921]), (8072, [7944, 921]),
  (8073, [7945, 921]), (8074, [7946, 921]), (8075, [7947, 921]), (8076, [7948, 921]),
  (8077, [7949, 921]), (8078, [7950, 921]), (8079, [7951, 921]), (8080, [7976, 921]),
  (8081, [7977, 921]), (8082, [7978, 921]), (8083, [7979, 921]), (8084, [7980, 921]),
  (8085, [7981, 921]), (8086, [7982, 921]), (8087, [7983, 921]), (8088, [7976, 921]),
  (8089, [7977, 921]), (8090, [7978, 921]), (8091, [7979, 921]), (8092, [7980, 921]),
  (8093, [7981, 921]), (8094, [7982, 921]), (8095, [7983, 921]), (8096, [8040, 921]),
  (8097, [8041, 921]), (8098, [8042, 921]), (8099, [8043, 921]), (8100, [8044, 921]),
  (8101, [8045, 921]), (8102, [8046, 921]), (8103, [8047, 921]), (8104, [8040, 921]),
  (8105, [8041, 921]), (8106, [8042, 921]), (8107, [8043, 921]), (8108, [8044, 921]),
  (8109, [8045, 921]), (8110, [8046, 921]), (8111, [8047, 921]), (8114, [8122, 921]),
  (8115, [913, 921]), (8116, [902, 921]), (8118, [913, 834]), (8119, [913, 834, 921]),
  (8124, [913, 921]), (8130, [8138, 921]), (8131, [919, 921]), (8132, [905, 921]),
  (8134, [919, 834]), (8135, [919, 834, 921]), (8140, [919, 921]), (8146, [921, 776, 768]),
  (8147, [921, 776, 769]), (8150, [921, 834]), (8151, [921, 776, 834]), (8162, [933, 776, 768]),
  (8163, [933, 776, 769]), (8164, [929, 787]), (8166, [933, 834]), (8167, [933, 776, 834]),
  (8178, [8186, 921]), (8179, [937, 921]), (8180, [911, 921]), (8182, [937, 834]),
  (8183, [937, 834, 921]), (8188, [937, 921]), (64256, [70, 70]), (64257, [70, 73]),
  (64258, [70, 76]), (64259, [70, 70, 73]), (64260, [70, 70, 76]), (64261, [83, 84]),
  (64262, [83, 84]), (64275, [1348, 1350]), (64276, [1348, 1333]), (64277, [1348, 1339]),
  (64278, [1358, 1350]), (64279, [1348, 1341])]

/-- The upper case of one code point, as numbers. -/
def upperPoints (c : Nat) : List Nat :=
  match upperRuns.find? (·.covers c) with
  | some r => [r.map c]
  | none =>
    match upperSpecials.find? (·.1 == c) with
    | some e => e.2
    | none => [c]

/-- The upper case of one code point. -/
def upperChar (c : CodePoint) : PyStr := (upperPoints c.val).map (Fin.ofNat 0x110000)

/-- `str.upper()`. -/
def upper (s : PyStr) : PyStr := s.flatMap upperChar

/-- SQLite's `upper()` on one code point. -/
def asciiUpperChar (c : CodePoint) : CodePoint :=
  if 97 ≤ c.val ∧ c.val ≤ 122 then ⟨c.val - 32, by omega⟩ else c

/-- SQLite's `upper()`. -/
def asciiUpper (s : PyStr) : PyStr := s.map asciiUpperChar

/-! ## The table is idempotent -/

/-- The image of `r` lies before `q`, behind it, or between its steps. -/
private def CaseRun.apart (r q : CaseRun) : Bool :=
  Nat.blt (r.target + (r.hi - r.lo)) q.lo || Nat.blt q.hi r.target ||
    (Nat.beq r.step 2 && Nat.beq q.step 2 && Nat.beq ((r.target + q.lo) % 2) 1)

/-- The image of `r` misses one code point. -/
private def CaseRun.misses (r : CaseRun) (c : Nat) : Bool :=
  Nat.blt (r.target + (r.hi - r.lo)) c || Nat.blt c r.target ||
    (Nat.beq r.step 2 && Nat.beq ((r.target + c) % 2) 1)

private theorem runs_apart : (upperRuns.all fun r => upperRuns.all r.apart) = true := by
  decide +kernel

private theorem runs_miss :
    (upperRuns.all fun r => upperSpecials.all fun e => r.misses e.1) = true := by
  decide +kernel

/-- A code point with no entry in the table. -/
private def unmapped (c : Nat) : Bool :=
  (upperRuns.all fun r => !r.covers c) && upperSpecials.all fun e => !(Nat.beq e.1 c)

private theorem specials_unmapped :
    (upperSpecials.all fun e => e.2.all fun u => Nat.blt u 0x110000 && unmapped u) = true := by
  decide +kernel

private theorem runs_small :
    (upperRuns.all fun r => Nat.blt (r.target + (r.hi - r.lo)) 0x110000) = true := by
  decide +kernel

private theorem covers_iff {r : CaseRun} {c : Nat} :
    r.covers c = true ↔ r.lo ≤ c ∧ c ≤ r.hi ∧ (c - r.lo) % r.step = 0 := by
  simp [CaseRun.covers, Nat.ble_eq, and_assoc]

private theorem apart_iff {r q : CaseRun} :
    r.apart q = true ↔ r.target + (r.hi - r.lo) < q.lo ∨ q.hi < r.target ∨
      (r.step = 2 ∧ q.step = 2 ∧ (r.target + q.lo) % 2 = 1) := by
  simp [CaseRun.apart, Nat.blt_eq, Nat.beq_eq, or_assoc, and_assoc]

private theorem misses_iff {r : CaseRun} {c : Nat} :
    r.misses c = true ↔ r.target + (r.hi - r.lo) < c ∨ c < r.target ∨
      (r.step = 2 ∧ (r.target + c) % 2 = 1) := by
  simp [CaseRun.misses, Nat.blt_eq, Nat.beq_eq, or_assoc]

private theorem not_covers_map {r q : CaseRun} {c : Nat} (ha : r.apart q = true)
    (hc : r.covers c = true) : q.covers (r.map c) = false := by
  obtain ⟨hlo, hhi, hmod⟩ := covers_iff.mp hc
  rw [Bool.eq_false_iff, ne_eq, covers_iff]
  rintro ⟨hqlo, hqhi, hqmod⟩
  unfold CaseRun.map at hqlo hqhi hqmod
  rcases apart_iff.mp ha with h | h | ⟨hr, hq, hpar⟩
  · omega
  · omega
  · rw [hr] at hmod
    rw [hq] at hqmod
    omega

private theorem map_ne_special {r : CaseRun} {c e : Nat} (hm : r.misses e = true)
    (hc : r.covers c = true) : e ≠ r.map c := by
  obtain ⟨hlo, hhi, hmod⟩ := covers_iff.mp hc
  unfold CaseRun.map
  rcases misses_iff.mp hm with h | h | ⟨hr, hpar⟩
  · omega
  · omega
  · rw [hr] at hmod
    omega

/-- A code point that no entry of the table maps is its own upper case. -/
private theorem upperPoints_of_unmapped {c : Nat} (hr : ∀ r ∈ upperRuns, r.covers c = false)
    (hs : ∀ e ∈ upperSpecials, e.1 ≠ c) : upperPoints c = [c] := by
  have h1 : upperRuns.find? (·.covers c) = none :=
    List.find?_eq_none.mpr fun r hmem => by simp [hr r hmem]
  have h2 : upperSpecials.find? (·.1 == c) = none :=
    List.find?_eq_none.mpr fun e hmem => by simpa using hs e hmem
  unfold upperPoints
  rw [h1, h2]

/-- Every code point of an upper case is its own upper case. -/
theorem upperPoints_settled (c : CodePoint) :
    ∀ u ∈ upperPoints c.val, u < 0x110000 ∧ upperPoints u = [u] := by
  intro u hu
  unfold upperPoints at hu
  cases hrun : upperRuns.find? (·.covers c.val) with
  -- A letter of a run: its upper case is in no run and is no special letter.
  | some r =>
    rw [hrun] at hu
    obtain rfl : u = r.map c.val := by simpa using hu
    have hmem := List.mem_of_find?_eq_some hrun
    have hcov : r.covers c.val = true := by
      have h := List.find?_some hrun
      exact h
    have hsmall := Nat.blt_eq.mp (List.all_eq_true.mp runs_small r hmem)
    refine ⟨?_, upperPoints_of_unmapped (fun q hq => ?_) (fun e he => ?_)⟩
    · obtain ⟨hlo, hhi, _⟩ := covers_iff.mp hcov
      unfold CaseRun.map
      omega
    · exact not_covers_map (List.all_eq_true.mp (List.all_eq_true.mp runs_apart r hmem) q hq) hcov
    · exact map_ne_special (List.all_eq_true.mp (List.all_eq_true.mp runs_miss r hmem) e he) hcov
  | none =>
    rw [hrun] at hu
    cases hsp : upperSpecials.find? (·.1 == c.val) with
    -- A special letter, and the letters it becomes.
    | some e =>
      rw [hsp] at hu
      have hall := List.all_eq_true.mp specials_unmapped e (List.mem_of_find?_eq_some hsp)
      have h := List.all_eq_true.mp hall u hu
      rw [Bool.and_eq_true] at h
      obtain ⟨hlt, hun⟩ := h
      unfold unmapped at hun
      rw [Bool.and_eq_true] at hun
      refine ⟨Nat.blt_eq.mp hlt, upperPoints_of_unmapped (fun q hq => ?_) (fun e' he => ?_)⟩
      · simpa using List.all_eq_true.mp hun.1 q hq
      · exact Nat.ne_of_beq_eq_false (by simpa using List.all_eq_true.mp hun.2 e' he)
    | none =>
      rw [hsp] at hu
      obtain rfl : u = c.val := by simpa using hu
      refine ⟨c.isLt, ?_⟩
      unfold upperPoints
      rw [hrun, hsp]

/-- What an upper case is made of is its own upper case. -/
theorem upperChar_settled {c u : CodePoint} (hu : u ∈ upperChar c) : upperChar u = [u] := by
  obtain ⟨n, hn, rfl⟩ := List.mem_map.mp hu
  obtain ⟨hlt, hset⟩ := upperPoints_settled c n hn
  have hval : (Fin.ofNat 0x110000 n).val = n := Nat.mod_eq_of_lt hlt
  unfold upperChar
  rw [hval, hset]
  rfl

/-- A text all of whose code points are their own upper case is its own upper case. -/
theorem upper_eq_self {s : PyStr} (h : ∀ c ∈ s, upperChar c = [c]) : upper s = s := by
  induction s with
  | nil => rfl
  | cons c s ih =>
    show upperChar c ++ upper s = c :: s
    rw [h c (List.mem_cons_self ..), ih fun d hd => h d (List.mem_cons_of_mem _ hd)]
    rfl

/-- `s.upper().upper() == s.upper()`. -/
theorem upper_upper (s : PyStr) : upper (upper s) = upper s := by
  refine upper_eq_self fun u hu => ?_
  obtain ⟨c, _, hc⟩ := List.mem_flatMap.mp hu
  exact upperChar_settled hc

/-- A code point that is its own upper case is no lower-case letter. -/
theorem asciiUpperChar_settled {c : CodePoint} (h : upperChar c = [c]) : asciiUpperChar c = c := by
  unfold asciiUpperChar
  by_cases hc : 97 ≤ c.val ∧ c.val ≤ 122
  · -- The first run of the table would move it.
    have hrun : upperPoints c.val = [65 + (c.val - 97)] := by
      have hcov : CaseRun.covers ⟨97, 122, 1, 65⟩ c.val = true := by
        apply covers_iff.mpr
        exact ⟨hc.1, hc.2, Nat.mod_one _⟩
      have hfind : upperRuns.find? (·.covers c.val) = some ⟨97, 122, 1, 65⟩ := by
        unfold upperRuns
        rw [List.find?_cons, hcov]
      unfold upperPoints
      rw [hfind]
      rfl
    unfold upperChar at h
    rw [hrun] at h
    have hval := congrArg Fin.val (List.cons.inj h).1
    have hmod : (65 + (c.val - 97)) % 0x110000 = c.val := hval
    omega
  · rw [if_neg hc]

/-- SQLite's `upper` leaves an upper case alone. -/
theorem asciiUpper_upper (s : PyStr) : asciiUpper (upper s) = upper s := by
  unfold asciiUpper
  rw [List.map_congr_left (g := id)]
  · exact List.map_id _
  · intro u hu
    obtain ⟨c, -, hc⟩ := List.mem_flatMap.mp hu
    exact asciiUpperChar_settled (upperChar_settled hc)

end Lib
