/-!
Full uppercase mapping of Unicode 17.0. Most characters map to one character, and those
mappings come in runs: a range of code points in which every character, or every second one,
moves by the same offset. About a hundred characters map to two or three characters
(`ß` to `SS`, `ŉ` to `ʼN`, `ᾳ` to `ΑΙ`); they are listed apart and looked up first.
The mapping takes no account of language or context.
-/

namespace JobMatrix.Text

/-- A run of code points `lo` to `hi`; the characters `lo`, `lo + stride`, … map to
`target`, `target + stride`, …, and those in between are left alone. -/
structure UpperRun where
  lo : Nat
  hi : Nat
  target : Nat
  stride : Nat

def upperRuns : List UpperRun := [
  ⟨97, 122, 65, 1⟩, ⟨181, 181, 924, 1⟩, ⟨224, 246, 192, 1⟩, ⟨248, 254, 216, 1⟩, ⟨255, 255, 376, 1⟩,
  ⟨257, 303, 256, 2⟩, ⟨305, 305, 73, 1⟩, ⟨307, 311, 306, 2⟩, ⟨314, 328, 313, 2⟩, ⟨331, 375, 330, 2⟩,
  ⟨378, 382, 377, 2⟩, ⟨383, 383, 83, 1⟩, ⟨384, 384, 579, 1⟩, ⟨387, 389, 386, 2⟩, ⟨392, 392, 391, 1⟩,
  ⟨396, 396, 395, 1⟩, ⟨402, 402, 401, 1⟩, ⟨405, 405, 502, 1⟩, ⟨409, 409, 408, 1⟩, ⟨410, 410, 573, 1⟩,
  ⟨411, 411, 42972, 1⟩, ⟨414, 414, 544, 1⟩, ⟨417, 421, 416, 2⟩, ⟨424, 424, 423, 1⟩, ⟨429, 429, 428, 1⟩,
  ⟨432, 432, 431, 1⟩, ⟨436, 438, 435, 2⟩, ⟨441, 441, 440, 1⟩, ⟨445, 445, 444, 1⟩, ⟨447, 447, 503, 1⟩,
  ⟨453, 453, 452, 1⟩, ⟨454, 454, 452, 1⟩, ⟨456, 456, 455, 1⟩, ⟨457, 457, 455, 1⟩, ⟨459, 459, 458, 1⟩,
  ⟨460, 460, 458, 1⟩, ⟨462, 476, 461, 2⟩, ⟨477, 477, 398, 1⟩, ⟨479, 495, 478, 2⟩, ⟨498, 498, 497, 1⟩,
  ⟨499, 499, 497, 1⟩, ⟨501, 501, 500, 1⟩, ⟨505, 543, 504, 2⟩, ⟨547, 563, 546, 2⟩, ⟨572, 572, 571, 1⟩,
  ⟨575, 576, 11390, 1⟩, ⟨578, 578, 577, 1⟩, ⟨583, 591, 582, 2⟩, ⟨592, 592, 11375, 1⟩, ⟨593, 593, 11373, 1⟩,
  ⟨594, 594, 11376, 1⟩, ⟨595, 595, 385, 1⟩, ⟨596, 596, 390, 1⟩, ⟨598, 599, 393, 1⟩, ⟨601, 601, 399, 1⟩,
  ⟨603, 603, 400, 1⟩, ⟨604, 604, 42923, 1⟩, ⟨608, 608, 403, 1⟩, ⟨609, 609, 42924, 1⟩, ⟨611, 611, 404, 1⟩,
  ⟨612, 612, 42955, 1⟩, ⟨613, 613, 42893, 1⟩, ⟨614, 614, 42922, 1⟩, ⟨616, 616, 407, 1⟩, ⟨617, 617, 406, 1⟩,
  ⟨618, 618, 42926, 1⟩, ⟨619, 619, 11362, 1⟩, ⟨620, 620, 42925, 1⟩, ⟨623, 623, 412, 1⟩, ⟨625, 625, 11374, 1⟩,
  ⟨626, 626, 413, 1⟩, ⟨629, 629, 415, 1⟩, ⟨637, 637, 11364, 1⟩, ⟨640, 640, 422, 1⟩, ⟨642, 642, 42949, 1⟩,
  ⟨643, 643, 425, 1⟩, ⟨647, 647, 42929, 1⟩, ⟨648, 648, 430, 1⟩, ⟨649, 649, 580, 1⟩, ⟨650, 651, 433, 1⟩,
  ⟨652, 652, 581, 1⟩, ⟨658, 658, 439, 1⟩, ⟨669, 669, 42930, 1⟩, ⟨670, 670, 42928, 1⟩, ⟨837, 837, 921, 1⟩,
  ⟨881, 883, 880, 2⟩, ⟨887, 887, 886, 1⟩, ⟨891, 893, 1021, 1⟩, ⟨940, 940, 902, 1⟩, ⟨941, 943, 904, 1⟩,
  ⟨945, 961, 913, 1⟩, ⟨962, 962, 931, 1⟩, ⟨963, 971, 931, 1⟩, ⟨972, 972, 908, 1⟩, ⟨973, 974, 910, 1⟩,
  ⟨976, 976, 914, 1⟩, ⟨977, 977, 920, 1⟩, ⟨981, 981, 934, 1⟩, ⟨982, 982, 928, 1⟩, ⟨983, 983, 975, 1⟩,
  ⟨985, 1007, 984, 2⟩, ⟨1008, 1008, 922, 1⟩, ⟨1009, 1009, 929, 1⟩, ⟨1010, 1010, 1017, 1⟩, ⟨1011, 1011, 895, 1⟩,
  ⟨1013, 1013, 917, 1⟩, ⟨1016, 1016, 1015, 1⟩, ⟨1019, 1019, 1018, 1⟩, ⟨1072, 1103, 1040, 1⟩, ⟨1104, 1119, 1024, 1⟩,
  ⟨1121, 1153, 1120, 2⟩, ⟨1163, 1215, 1162, 2⟩, ⟨1218, 1230, 1217, 2⟩, ⟨1231, 1231, 1216, 1⟩, ⟨1233, 1327, 1232, 2⟩,
  ⟨1377, 1414, 1329, 1⟩, ⟨4304, 4346, 7312, 1⟩, ⟨4349, 4351, 7357, 1⟩, ⟨5112, 5117, 5104, 1⟩, ⟨7296, 7296, 1042, 1⟩,
  ⟨7297, 7297, 1044, 1⟩, ⟨7298, 7298, 1054, 1⟩, ⟨7299, 7300, 1057, 1⟩, ⟨7301, 7301, 1058, 1⟩, ⟨7302, 7302, 1066, 1⟩,
  ⟨7303, 7303, 1122, 1⟩, ⟨7304, 7304, 42570, 1⟩, ⟨7306, 7306, 7305, 1⟩, ⟨7545, 7545, 42877, 1⟩, ⟨7549, 7549, 11363, 1⟩,
  ⟨7566, 7566, 42950, 1⟩, ⟨7681, 7829, 7680, 2⟩, ⟨7835, 7835, 7776, 1⟩, ⟨7841, 7935, 7840, 2⟩, ⟨7936, 7943, 7944, 1⟩,
  ⟨7952, 7957, 7960, 1⟩, ⟨7968, 7975, 7976, 1⟩, ⟨7984, 7991, 7992, 1⟩, ⟨8000, 8005, 8008, 1⟩, ⟨8017, 8023, 8025, 2⟩,
  ⟨8032, 8039, 8040, 1⟩, ⟨8048, 8049, 8122, 1⟩, ⟨8050, 8053, 8136, 1⟩, ⟨8054, 8055, 8154, 1⟩, ⟨8056, 8057, 8184, 1⟩,
  ⟨8058, 8059, 8170, 1⟩, ⟨8060, 8061, 8186, 1⟩, ⟨8112, 8113, 8120, 1⟩, ⟨8126, 8126, 921, 1⟩, ⟨8144, 8145, 8152, 1⟩,
  ⟨8160, 8161, 8168, 1⟩, ⟨8165, 8165, 8172, 1⟩, ⟨8526, 8526, 8498, 1⟩, ⟨8560, 8575, 8544, 1⟩, ⟨8580, 8580, 8579, 1⟩,
  ⟨9424, 9449, 9398, 1⟩, ⟨11312, 11359, 11264, 1⟩, ⟨11361, 11361, 11360, 1⟩, ⟨11365, 11365, 570, 1⟩, ⟨11366, 11366, 574, 1⟩,
  ⟨11368, 11372, 11367, 2⟩, ⟨11379, 11379, 11378, 1⟩, ⟨11382, 11382, 11381, 1⟩, ⟨11393, 11491, 11392, 2⟩, ⟨11500, 11502, 11499, 2⟩,
  ⟨11507, 11507, 11506, 1⟩, ⟨11520, 11557, 4256, 1⟩, ⟨11559, 11559, 4295, 1⟩, ⟨11565, 11565, 4301, 1⟩, ⟨42561, 42605, 42560, 2⟩,
  ⟨42625, 42651, 42624, 2⟩, ⟨42787, 42799, 42786, 2⟩, ⟨42803, 42863, 42802, 2⟩, ⟨42874, 42876, 42873, 2⟩, ⟨42879, 42887, 42878, 2⟩,
  ⟨42892, 42892, 42891, 1⟩, ⟨42897, 42899, 42896, 2⟩, ⟨42900, 42900, 42948, 1⟩, ⟨42903, 42921, 42902, 2⟩, ⟨42933, 42947, 42932, 2⟩,
  ⟨42952, 42954, 42951, 2⟩, ⟨42957, 42971, 42956, 2⟩, ⟨42998, 42998, 42997, 1⟩, ⟨43859, 43859, 42931, 1⟩, ⟨43888, 43967, 5024, 1⟩,
  ⟨65345, 65370, 65313, 1⟩, ⟨66600, 66639, 66560, 1⟩, ⟨66776, 66811, 66736, 1⟩, ⟨66967, 66977, 66928, 1⟩, ⟨66979, 66993, 66940, 1⟩,
  ⟨66995, 67001, 66956, 1⟩, ⟨67003, 67004, 66964, 1⟩, ⟨68800, 68850, 68736, 1⟩, ⟨68976, 68997, 68944, 1⟩, ⟨71872, 71903, 71840, 1⟩,
  ⟨93792, 93823, 93760, 1⟩, ⟨93883, 93907, 93856, 1⟩, ⟨125218, 125251, 125184, 1⟩]

/-- The characters whose uppercase form has more than one character. -/
def upperSpecial : List (Nat × List Nat) := [
  (223, [83, 83]), (329, [700, 78]), (496, [74, 780]), (912, [921, 776, 769]),
  (944, [933, 776, 769]), (1415, [1333, 1362]), (7830, [72, 817]), (7831, [84, 776]),
  (7832, [87, 778]), (7833, [89, 778]), (7834, [65, 702]), (8016, [933, 787]),
  (8018, [933, 787, 768]), (8020, [933, 787, 769]), (8022, [933, 787, 834]), (8064, [7944, 921]),
  (8065, [7945, 921]), (8066, [7946, 921]), (8067, [7947, 921]), (8068, [7948, 921]),
  (8069, [7949, 921]), (8070, [7950, 921]), (8071, [7951, 921]), (8072, [7944, 921]),
  (8073, [7945, 921]), (8074, [7946, 921]), (8075, [7947, 921]), (8076, [7948, 921]),
  (8077, [7949, 921]), (8078, [7950, 921]), (8079, [7951, 921]), (8080, [7976, 921]),
  (8081, [7977, 921]), (8082, [7978, 921]), (8083, [7979, 921]), (8084, [7980, 921]),
  (8085, [7981, 921]), (8086, [7982, 921]), (8087, [7983, 921]), (8088, [7976, 921]),
  (8089, [7977, 921]), (8090, [7978, 921]), (8091, [7979, 921]), (8092, [7980, 921]),
  (8093, [7981, 921]), (8094, [7982, 921]), (8095, [7983, 921]), (8096, [8040, 921]),
  (8097, [8041, 921]), (8098, [8042, 921]), (8099, [8043, 921]), (8100, [8044, 921]),
  (8101, [8045, 921]), (8102, [8046, 921]), (8103, [8047, 921]), (8104, [8040, 921]),
  (8105, [8041, 921]), (8106, [8042, 921]), (8107, [8043, 921]), (8108, [8044, 921]),
  (8109, [8045, 921]), (8110, [8046, 921]), (8111, [8047, 921]), (8114, [8122, 921]),
  (8115, [913, 921]), (8116, [902, 921]), (8118, [913, 834]), (8119, [913, 834, 921]),
  (8124, [913, 921]), (8130, [8138, 921]), (8131, [919, 921]), (8132, [905, 921]),
  (8134, [919, 834]), (8135, [919, 834, 921]), (8140, [919, 921]), (8146, [921, 776, 768]),
  (8147, [921, 776, 769]), (8150, [921, 834]), (8151, [921, 776, 834]), (8162, [933, 776, 768]),
  (8163, [933, 776, 769]), (8164, [929, 787]), (8166, [933, 834]), (8167, [933, 776, 834]),
  (8178, [8186, 921]), (8179, [937, 921]), (8180, [911, 921]), (8182, [937, 834]),
  (8183, [937, 834, 921]), (8188, [937, 921]), (64256, [70, 70]), (64257, [70, 73]),
  (64258, [70, 76]), (64259, [70, 70, 73]), (64260, [70, 70, 76]), (64261, [83, 84]),
  (64262, [83, 84]), (64275, [1348, 1350]), (64276, [1348, 1333]), (64277, [1348, 1339]),
  (64278, [1358, 1350]), (64279, [1348, 1341])]

def UpperRun.apply (run : UpperRun) (c : Nat) : Option Nat :=
  if run.lo ≤ c ∧ c ≤ run.hi ∧ (c - run.lo) % run.stride = 0 then
    some (c - run.lo + run.target)
  else
    none

/-- The uppercase form of one character: its special mapping if it has one, else the image
under the run that moves it, else the character itself. -/
def upperChar (c : Char) : List Char :=
  match upperSpecial.lookup c.toNat with
  | some cs => cs.map Char.ofNat
  | none =>
    match upperRuns.findSome? (·.apply c.toNat) with
    | some u => [Char.ofNat u]
    | none => [c]

def toUpper (s : String) : String :=
  String.ofList (s.toList.flatMap upperChar)

end JobMatrix.Text
