import SetuoraLite.Lib.Json

/-!
# The size of a JSON text

The number of UTF-8 bytes that `Json.dumps` prints, by the shape of the value: a list
is its elements, a comma between two of them and two brackets, and an object likewise
with its keys. A text with a lone surrogate has no encoding and no size.
-/

namespace Lib

/-! ## Sizes of texts -/

/-- The text is encoded by `n` bytes. -/
def Utf8Size (s : PyStr) (n : Nat) : Prop := ∃ bytes, encodeUtf8 s = some bytes ∧ bytes.length = n

theorem utf8Size_nil : Utf8Size [] 0 := ⟨[], rfl, rfl⟩

/-- A text has one size. -/
theorem Utf8Size.unique {s : PyStr} {m n : Nat} (hm : Utf8Size s m) (hn : Utf8Size s n) :
    m = n := by
  obtain ⟨a, ha, rfl⟩ := hm
  obtain ⟨b, hb, rfl⟩ := hn
  rw [Option.some.inj (ha.symm.trans hb)]

/-- One encoding after the other. -/
theorem encodeUtf8_append (s t : PyStr) :
    encodeUtf8 (s ++ t) = (encodeUtf8 s).bind fun a => (encodeUtf8 t).map fun b => a ++ b := by
  induction s with
  | nil => simp [encodeUtf8]
  | cons c cs ih =>
    rw [List.cons_append, encodeUtf8, encodeUtf8, ih]
    cases utf8Char c with
    | none => rfl
    | some a =>
      cases encodeUtf8 cs with
      | none => rfl
      | some b =>
        cases encodeUtf8 t with
        | none => rfl
        | some d => simp

/-- The sizes of two parts add up. -/
theorem utf8Size_append {s t : PyStr} {n : Nat} :
    Utf8Size (s ++ t) n ↔ ∃ a b, Utf8Size s a ∧ Utf8Size t b ∧ n = a + b := by
  unfold Utf8Size
  rw [encodeUtf8_append]
  constructor
  · rintro ⟨bytes, hbytes, rfl⟩
    obtain ⟨a, ha, hrest⟩ := Option.bind_eq_some_iff.mp hbytes
    obtain ⟨b, hb, rfl⟩ := Option.map_eq_some_iff.mp hrest
    exact ⟨_, _, ⟨a, ha, rfl⟩, ⟨b, hb, rfl⟩, List.length_append⟩
  · rintro ⟨_, _, ⟨a, ha, rfl⟩, ⟨b, hb, rfl⟩, rfl⟩
    exact ⟨a ++ b, by rw [ha, hb]; rfl, List.length_append⟩

theorem Utf8Size.append {s t : PyStr} {m n : Nat} (hs : Utf8Size s m) (ht : Utf8Size t n) :
    Utf8Size (s ++ t) (m + n) := utf8Size_append.mpr ⟨m, n, hs, ht, rfl⟩

/-- An ASCII text has one byte for each character. -/
theorem utf8Size_ascii {s : PyStr} (h : ∀ c ∈ s, c.val < 128) : Utf8Size s s.length := by
  induction s with
  | nil => exact utf8Size_nil
  | cons c cs ih =>
    obtain ⟨bytes, hbytes, hlen⟩ := ih fun d hd => h d (List.mem_cons_of_mem c hd)
    have hc : utf8Char c = some [UInt8.ofNat c.val] := by
      unfold utf8Char
      exact if_pos (h c List.mem_cons_self)
    refine ⟨[UInt8.ofNat c.val] ++ bytes, ?_, ?_⟩
    · rw [encodeUtf8, hc, hbytes]
      rfl
    · simp [hlen]

/-- A plain literal takes a byte for each character. -/
theorem utf8Size_py {s : String} (h : (s.toList.all fun c => decide (c.toNat < 128)) = true) :
    Utf8Size (py s) s.toList.length := by
  have hascii : ∀ c ∈ py s, c.val < 128 := by
    intro c hc
    obtain ⟨d, hd, rfl⟩ := List.mem_map.mp hc
    exact of_decide_eq_true (List.all_eq_true.mp h d hd)
  have hsize := utf8Size_ascii hascii
  rwa [py, List.length_map] at hsize

/-! ## Literals -/

/-- A printable ASCII character that a string literal does not escape. -/
def isPlain (c : CodePoint) : Bool := 32 ≤ c.val && c.val < 128 && c != cp '"' && c != cp '\\'

/-- A plain text is printed as it is. -/
theorem escape_plain {s : PyStr} (h : ∀ c ∈ s, isPlain c = true) : s.flatMap escapeChar = s := by
  induction s with
  | nil => rfl
  | cons c cs ih =>
    have hc := h c List.mem_cons_self
    simp only [isPlain, Bool.and_eq_true, decide_eq_true_eq, bne_iff_ne, ne_eq] at hc
    obtain ⟨⟨⟨hlow, hhigh⟩, hquote⟩, hslash⟩ := hc
    have hself : escapeChar c = [c] := by
      unfold escapeChar
      rw [if_neg hquote, if_neg hslash, if_neg (by omega), if_neg (by omega), if_neg (by omega),
        if_neg (by omega), if_neg (by omega), if_neg (by omega)]
    rw [List.flatMap_cons, hself, ih fun d hd => h d (List.mem_cons_of_mem c hd)]
    rfl

theorem utf8Size_plain {s : PyStr} (h : ∀ c ∈ s, isPlain c = true) : Utf8Size s s.length := by
  refine utf8Size_ascii fun c hc => ?_
  have hplain := h c hc
  simp only [isPlain, Bool.and_eq_true, decide_eq_true_eq] at hplain
  exact hplain.1.1.2

/-- A literal that ends with a plain text. -/
theorem utf8Size_strText_append {s t : PyStr} (ht : ∀ c ∈ t, isPlain c = true) {n : Nat} :
    Utf8Size (strText (s ++ t)) n ↔
      ∃ m, Utf8Size (py "\"" ++ s.flatMap escapeChar) m ∧ n = m + t.length + 1 := by
  have hquote : Utf8Size (py "\"") 1 := utf8Size_py rfl
  have htail := utf8Size_plain ht
  have hsplit : strText (s ++ t) = py "\"" ++ s.flatMap escapeChar ++ t ++ py "\"" := by
    unfold strText
    rw [List.flatMap_append, escape_plain ht, ← List.append_assoc]
  rw [hsplit]
  constructor
  · intro h
    obtain ⟨_, one, hbody, hone, rfl⟩ := utf8Size_append.mp h
    obtain ⟨m, k, hm, hk, rfl⟩ := utf8Size_append.mp hbody
    obtain rfl := hone.unique hquote
    obtain rfl := hk.unique htail
    exact ⟨m, hm, rfl⟩
  · rintro ⟨m, hm, rfl⟩
    exact (hm.append htail).append hquote

/-- A plain text between quotes. -/
theorem utf8Size_strText {s : PyStr} (h : ∀ c ∈ s, isPlain c = true) :
    Utf8Size (strText s) (s.length + 2) := by
  have hquote : Utf8Size (py "\"") 1 := utf8Size_py rfl
  have := (utf8Size_strText_append (s := []) h).mpr ⟨1, hquote, rfl⟩
  rwa [List.nil_append, show 1 + s.length + 1 = s.length + 2 by omega] at this

theorem isPlain_digit {c : CodePoint} (h : isDigit c = true) : isPlain c = true := by
  unfold isDigit at h
  simp only [Bool.and_eq_true, decide_eq_true_eq] at h
  have hquote : c ≠ cp '"' := by
    rintro rfl
    exact absurd h (by decide)
  have hslash : c ≠ cp '\\' := by
    rintro rfl
    exact absurd h (by decide)
  unfold isPlain
  simp only [Bool.and_eq_true, decide_eq_true_eq, bne_iff_ne, ne_eq]
  exact ⟨⟨⟨by omega, by omega⟩, hquote⟩, hslash⟩

/-- A number below a power of ten has at most that many digits. -/
theorem decDigits_length_le {n k : Nat} (hk : 0 < k) (h : n < 10 ^ k) :
    (decDigits n).length ≤ k := by
  by_cases hn : n = 0
  · obtain ⟨c, cs, heq, -, hzero⟩ := decDigits_eq_cons n
    rw [heq, hzero hn]
    exact hk
  · have hlt : 10 ^ ((decDigits n).length - 1) < 10 ^ k := lt_of_le_of_lt (pow_decDigits_le hn) h
    have hlen := (Nat.pow_lt_pow_iff_right (by omega)).mp hlt
    omega

theorem decDigits_length_mono {m n : Nat} (h : m ≤ n) :
    (decDigits m).length ≤ (decDigits n).length := by
  obtain ⟨c, cs, heq, -⟩ := decDigits_eq_cons n
  refine decDigits_length_le ?_ (Nat.lt_of_le_of_lt h (lt_pow_decDigits n))
  rw [heq]
  exact Nat.succ_pos cs.length

/-! ## Values -/

/-- The text of a value, with its keys in the order they are, has `n` bytes. -/
def TextSize (v : Json) (n : Nat) : Prop := ∃ t, v.render = some t ∧ Utf8Size t n

theorem TextSize.unique {v : Json} {m n : Nat} (hm : TextSize v m) (hn : TextSize v n) : m = n := by
  obtain ⟨s, hs, hsm⟩ := hm
  obtain ⟨t, ht, htn⟩ := hn
  obtain rfl := Option.some.inj (hs.symm.trans ht)
  exact hsm.unique htn

/-- A natural number below a power of ten. -/
theorem textSize_nat {n k : Nat} (hk : 0 < k) (hkmax : k ≤ maxIntDigits) (h : n < 10 ^ k) :
    TextSize (.int n) (decDigits n).length ∧ (decDigits n).length ≤ k := by
  have hlen := decDigits_length_le hk h
  refine ⟨⟨decDigits n, ?_, utf8Size_ascii fun c hc => ?_⟩, hlen⟩
  · rw [Json.render, intText, Int.natAbs_natCast, if_pos (by omega)]
    rfl
  · have := decDigits_isDigit n c hc
    unfold isDigit at this
    simp only [Bool.and_eq_true, decide_eq_true_eq] at this
    omega

/-- The elements after the first, each behind a comma. -/
private theorem renderElems_size {xs : List Json} {n : Nat} :
    (∃ t, Json.renderElems xs = some t ∧ Utf8Size t n) ↔
      ∃ sizes, List.Forall₂ TextSize xs sizes ∧ n = sizes.sum + sizes.length + 1 := by
  induction xs generalizing n with
  | nil =>
    have hbracket : Utf8Size (py "]") 1 := utf8Size_py rfl
    simp only [Json.renderElems, Option.some.injEq, exists_eq_left', List.forall₂_nil_left_iff,
      exists_eq_left, List.sum_nil, List.length_nil]
    exact ⟨fun h => h.unique hbracket, fun h => h ▸ hbracket⟩
  | cons x xs ih =>
    have hcomma : Utf8Size (py ",") 1 := utf8Size_py rfl
    rw [Json.renderElems]
    constructor
    · rintro ⟨t, ht, hsize⟩
      obtain ⟨a, ha, ht⟩ := Option.bind_eq_some_iff.mp ht
      obtain ⟨b, hb, rfl⟩ := Option.map_eq_some_iff.mp ht
      obtain ⟨k, l, hk, hl, rfl⟩ := utf8Size_append.mp hsize
      obtain ⟨i, j, hi, hj, rfl⟩ := utf8Size_append.mp hk
      obtain rfl := hi.unique hcomma
      obtain ⟨sizes, hsizes, rfl⟩ := ih.mp ⟨b, hb, hl⟩
      refine ⟨j :: sizes, .cons ⟨a, ha, hj⟩ hsizes, ?_⟩
      rw [List.sum_cons, List.length_cons]
      omega
    · rintro ⟨sizes, hsizes, rfl⟩
      obtain ⟨j, sizes, ⟨a, ha, hj⟩, hrest, rfl⟩ := List.forall₂_cons_left_iff.mp hsizes
      obtain ⟨b, hb, hl⟩ := ih.mpr ⟨sizes, hrest, rfl⟩
      refine ⟨py "," ++ a ++ b, by rw [ha, hb]; rfl, ?_⟩
      have := (hcomma.append hj).append hl
      rwa [List.sum_cons, List.length_cons,
        show j + sizes.sum + (sizes.length + 1) + 1 = 1 + j +
          (sizes.sum + sizes.length + 1) by omega]

/-- A list: its elements, a comma between two of them, and the brackets. -/
theorem textSize_arr {xs : List Json} {n : Nat} :
    TextSize (.arr xs) n ↔
      ∃ sizes, List.Forall₂ TextSize xs sizes ∧ n = 2 + sizes.sum + (sizes.length - 1) := by
  have hbracket : Utf8Size (py "[") 1 := utf8Size_py rfl
  cases xs with
  | nil =>
    have hempty : Utf8Size (py "[]") 2 := utf8Size_py rfl
    simp only [TextSize, Json.render, Option.some.injEq, exists_eq_left', List.forall₂_nil_left_iff,
      exists_eq_left, List.sum_nil, List.length_nil]
    exact ⟨fun h => h.unique hempty, fun h => h ▸ hempty⟩
  | cons x xs =>
    unfold TextSize
    rw [Json.render]
    constructor
    -- From the text to the sizes of the elements, and back.
    · rintro ⟨t, ht, hsize⟩
      obtain ⟨a, ha, ht⟩ := Option.bind_eq_some_iff.mp ht
      obtain ⟨b, hb, rfl⟩ := Option.map_eq_some_iff.mp ht
      obtain ⟨k, l, hk, hl, rfl⟩ := utf8Size_append.mp hsize
      obtain ⟨i, j, hi, hj, rfl⟩ := utf8Size_append.mp hk
      obtain rfl := hi.unique hbracket
      obtain ⟨sizes, hsizes, rfl⟩ := renderElems_size.mp ⟨b, hb, hl⟩
      refine ⟨j :: sizes, .cons ⟨a, ha, hj⟩ hsizes, ?_⟩
      rw [List.sum_cons, List.length_cons]
      omega
    · rintro ⟨sizes, hsizes, rfl⟩
      obtain ⟨j, sizes, ⟨a, ha, hj⟩, hrest, rfl⟩ := List.forall₂_cons_left_iff.mp hsizes
      obtain ⟨b, hb, hl⟩ := renderElems_size.mpr ⟨sizes, hrest, rfl⟩
      refine ⟨py "[" ++ a ++ b, by rw [ha, hb]; rfl, ?_⟩
      have := (hbracket.append hj).append hl
      rwa [List.sum_cons, List.length_cons,
        show 2 + (j + sizes.sum) + (sizes.length + 1 - 1) = 1 + j + (sizes.sum + sizes.length + 1)
          by omega]

/-- A member: its key, a colon and its value. -/
def MemberSize (e : PyStr × Json) (n : Nat) : Prop :=
  ∃ k m, Utf8Size (strText e.1) k ∧ TextSize e.2 m ∧ n = k + 1 + m

/-- The members after the first, each behind a comma. -/
private theorem renderMembers_size {kvs : List (PyStr × Json)} {n : Nat} :
    (∃ t, Json.renderMembers kvs = some t ∧ Utf8Size t n) ↔
      ∃ sizes, List.Forall₂ MemberSize kvs sizes ∧ n = sizes.sum + sizes.length + 1 := by
  induction kvs generalizing n with
  | nil =>
    have hbrace : Utf8Size (py "\x7d") 1 := utf8Size_py rfl
    simp only [Json.renderMembers, Option.some.injEq, exists_eq_left', List.forall₂_nil_left_iff,
      exists_eq_left, List.sum_nil, List.length_nil]
    exact ⟨fun h => h.unique hbrace, fun h => h ▸ hbrace⟩
  | cons e kvs ih =>
    obtain ⟨k, v⟩ := e
    have hcomma : Utf8Size (py ",") 1 := utf8Size_py rfl
    have hcolon : Utf8Size (py ":") 1 := utf8Size_py rfl
    rw [Json.renderMembers]
    constructor
    -- From the text to the sizes of the members, and back.
    · rintro ⟨t, ht, hsize⟩
      obtain ⟨a, ha, ht⟩ := Option.bind_eq_some_iff.mp ht
      obtain ⟨b, hb, rfl⟩ := Option.map_eq_some_iff.mp ht
      obtain ⟨_, l, hthree, hl, rfl⟩ := utf8Size_append.mp hsize
      obtain ⟨_, m, htwo, hm, rfl⟩ := utf8Size_append.mp hthree
      obtain ⟨_, i, hone, hi, rfl⟩ := utf8Size_append.mp htwo
      obtain ⟨j, key, hj, hkey, rfl⟩ := utf8Size_append.mp hone
      obtain rfl := hj.unique hcomma
      obtain rfl := hi.unique hcolon
      obtain ⟨sizes, hsizes, rfl⟩ := ih.mp ⟨b, hb, hl⟩
      refine ⟨(key + 1 + m) :: sizes, .cons ⟨key, m, hkey, ⟨a, ha, hm⟩, rfl⟩ hsizes, ?_⟩
      rw [List.sum_cons, List.length_cons]
      omega
    · rintro ⟨sizes, hsizes, rfl⟩
      obtain ⟨_, sizes, ⟨key, m, hkey, ⟨a, ha, hm⟩, rfl⟩, hrest, rfl⟩ :=
        List.forall₂_cons_left_iff.mp hsizes
      obtain ⟨b, hb, hl⟩ := ih.mpr ⟨sizes, hrest, rfl⟩
      refine ⟨py "," ++ strText k ++ py ":" ++ a ++ b, by rw [ha, hb]; rfl, ?_⟩
      have := (((hcomma.append hkey).append hcolon).append hm).append hl
      rwa [List.sum_cons, List.length_cons,
        show key + 1 + m + sizes.sum + (sizes.length + 1) + 1
          = 1 + key + 1 + m + (sizes.sum + sizes.length + 1) by omega]

/-- An object: its members, a comma between two of them, and the braces. -/
theorem textSize_obj {kvs : List (PyStr × Json)} {n : Nat} :
    TextSize (.obj kvs) n ↔
      ∃ sizes, List.Forall₂ MemberSize kvs sizes ∧ n = 2 + sizes.sum + (sizes.length - 1) := by
  have hbrace : Utf8Size (py "\x7b") 1 := utf8Size_py rfl
  have hcolon : Utf8Size (py ":") 1 := utf8Size_py rfl
  cases kvs with
  | nil =>
    have hempty : Utf8Size (py "\x7b\x7d") 2 := utf8Size_py rfl
    simp only [TextSize, Json.render, Option.some.injEq, exists_eq_left', List.forall₂_nil_left_iff,
      exists_eq_left, List.sum_nil, List.length_nil]
    exact ⟨fun h => h.unique hempty, fun h => h ▸ hempty⟩
  | cons e kvs =>
    obtain ⟨k, v⟩ := e
    unfold TextSize
    rw [Json.render]
    constructor
    -- The first brace counts with the first member.
    · rintro ⟨t, ht, hsize⟩
      obtain ⟨a, ha, ht⟩ := Option.bind_eq_some_iff.mp ht
      obtain ⟨b, hb, rfl⟩ := Option.map_eq_some_iff.mp ht
      obtain ⟨_, l, hthree, hl, rfl⟩ := utf8Size_append.mp hsize
      obtain ⟨_, m, htwo, hm, rfl⟩ := utf8Size_append.mp hthree
      obtain ⟨_, i, hone, hi, rfl⟩ := utf8Size_append.mp htwo
      obtain ⟨j, key, hj, hkey, rfl⟩ := utf8Size_append.mp hone
      obtain rfl := hj.unique hbrace
      obtain rfl := hi.unique hcolon
      obtain ⟨sizes, hsizes, rfl⟩ := renderMembers_size.mp ⟨b, hb, hl⟩
      refine ⟨(key + 1 + m) :: sizes, .cons ⟨key, m, hkey, ⟨a, ha, hm⟩, rfl⟩ hsizes, ?_⟩
      rw [List.sum_cons, List.length_cons]
      omega
    · rintro ⟨sizes, hsizes, rfl⟩
      obtain ⟨_, sizes, ⟨key, m, hkey, ⟨a, ha, hm⟩, rfl⟩, hrest, rfl⟩ :=
        List.forall₂_cons_left_iff.mp hsizes
      obtain ⟨b, hb, hl⟩ := renderMembers_size.mpr ⟨sizes, hrest, rfl⟩
      refine ⟨py "\x7b" ++ strText k ++ py ":" ++ a ++ b, by rw [ha, hb]; rfl, ?_⟩
      have := (((hbrace.append hkey).append hcolon).append hm).append hl
      rwa [List.sum_cons, List.length_cons,
        show 2 + (key + 1 + m + sizes.sum) + (sizes.length + 1 - 1)
          = 1 + key + 1 + m + (sizes.sum + sizes.length + 1) by omega]

/-! ## Values that grow -/

/-- Wherever `v` has a size, `v'` has one that is larger by `x` at most. -/
def Grows (x : Nat) (v v' : Json) : Prop := ∀ n, TextSize v n → ∃ n', TextSize v' n' ∧ n' ≤ n + x

theorem Grows.refl (v : Json) : Grows 0 v v := fun n h => ⟨n, h, Nat.le_refl n⟩

/-- `v` has a size; `v'` has one that is not larger. -/
theorem Grows.of_sizes {v v' : Json} {m m' : Nat} (h : TextSize v m) (h' : TextSize v' m')
    (hle : m' ≤ m) : Grows 0 v v' := by
  intro n hn
  obtain rfl := hn.unique h
  exact ⟨m', h', hle⟩

/-- A text that ends with fewer digits. -/
theorem Grows.digits (s : PyStr) {m n : Nat} (h : (decDigits n).length ≤ (decDigits m).length) :
    Grows 0 (.str (s ++ decDigits m)) (.str (s ++ decDigits n)) := by
  have hplain : ∀ k, ∀ c ∈ decDigits k, isPlain c = true :=
    fun k c hc => isPlain_digit (decDigits_isDigit k c hc)
  rintro _ ⟨t, ht, hsize⟩
  obtain rfl := Option.some.inj ht
  obtain ⟨k, hk, rfl⟩ := (utf8Size_strText_append (hplain m)).mp hsize
  exact ⟨_, ⟨_, rfl, (utf8Size_strText_append (hplain n)).mpr ⟨k, hk, rfl⟩⟩, by omega⟩

/-- An empty list that is filled. -/
theorem Grows.fill {xs : List Json} {sizes : List Nat} (h : List.Forall₂ TextSize xs sizes) :
    Grows (sizes.sum + (sizes.length - 1)) (.arr []) (.arr xs) := by
  intro n hn
  obtain ⟨none_, hnone, rfl⟩ := textSize_arr.mp hn
  obtain rfl := List.forall₂_nil_left_iff.mp hnone
  refine ⟨_, textSize_arr.mpr ⟨sizes, h, rfl⟩, ?_⟩
  simp only [List.sum_nil, List.length_nil]
  omega

theorem Grows.singleton {x : Nat} {v v' : Json} (h : Grows x v v') :
    Grows x (.arr [v]) (.arr [v']) := by
  intro n hn
  obtain ⟨sizes, hsizes, rfl⟩ := textSize_arr.mp hn
  obtain ⟨m, rest, hm, hrest, rfl⟩ := List.forall₂_cons_left_iff.mp hsizes
  obtain rfl := List.forall₂_nil_left_iff.mp hrest
  obtain ⟨m', hm', hle⟩ := h m hm
  refine ⟨_, textSize_arr.mpr ⟨[m'], .cons hm' .nil, rfl⟩, ?_⟩
  simp only [List.sum_cons, List.sum_nil, List.length_cons, List.length_nil]
  omega

/-- Members under the same keys, each of which grows. -/
inductive MembersGrow : Nat → List (PyStr × Json) → List (PyStr × Json) → Prop
  | nil : MembersGrow 0 [] []
  | cons {x y : Nat} {k : PyStr} {v v' : Json} {kvs kvs' : List (PyStr × Json)} (hv : Grows x v v')
      (hkvs : MembersGrow y kvs kvs') : MembersGrow (x + y) ((k, v) :: kvs) ((k, v') :: kvs')

private theorem MembersGrow.sizes {x : Nat} {kvs kvs' : List (PyStr × Json)}
    (h : MembersGrow x kvs kvs') :
    ∀ sizes, List.Forall₂ MemberSize kvs sizes → ∃ sizes', List.Forall₂ MemberSize kvs' sizes' ∧
      sizes'.length = sizes.length ∧ sizes'.sum ≤ sizes.sum + x := by
  induction h with
  | nil =>
    intro sizes hsizes
    obtain rfl := List.forall₂_nil_left_iff.mp hsizes
    exact ⟨[], .nil, rfl, Nat.le_refl _⟩
  | cons hv _ ih =>
    intro sizes hsizes
    obtain ⟨_, rest, ⟨key, m, hkey, hm, rfl⟩, hrest, rfl⟩ := List.forall₂_cons_left_iff.mp hsizes
    obtain ⟨m', hm', hle⟩ := hv m hm
    obtain ⟨rest', hrest', hlen, hsum⟩ := ih rest hrest
    refine ⟨(key + 1 + m') :: rest', .cons ⟨key, m', hkey, hm', rfl⟩ hrest', ?_, ?_⟩
    · rw [List.length_cons, List.length_cons, hlen]
    · rw [List.sum_cons, List.sum_cons]
      omega

theorem MembersGrow.obj {x : Nat} {kvs kvs' : List (PyStr × Json)} (h : MembersGrow x kvs kvs') :
    Grows x (.obj kvs) (.obj kvs') := by
  intro n hn
  obtain ⟨sizes, hsizes, rfl⟩ := textSize_obj.mp hn
  obtain ⟨sizes', hsizes', hlen, hsum⟩ := h.sizes sizes hsizes
  refine ⟨_, textSize_obj.mpr ⟨sizes', hsizes', rfl⟩, ?_⟩
  rw [hlen]
  omega

end Lib
