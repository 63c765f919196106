import SetuoraLite.Lib.Words
import SetuoraLite.Stock.VoucherTotals

/-!
# Amounts in words

The words on a pre-invoice: `integer_in_indian_words` counts in crores, lakhs and thousands,
and counts the crores the same way, so that `Crore` may follow `Crore`; `amount_in_words`
puts rupees, paise and a sign together.

The words can be read back by one pass from the left (`readWord`). A number below a thousand
gathers in a group, `Thousand` and `Lakh` move the group into the total, and `Crore`
multiplies everything read so far: what stands before the last `Crore` is the words of the
number of crores. `words_uniquely_readable` is the result.
-/

namespace SetuoraLite

open Lib

/-! ## Writing -/

/-- `_ONES`. -/
def onesWords : List PyStr :=
  [py "Zero", py "One", py "Two", py "Three", py "Four", py "Five", py "Six", py "Seven",
    py "Eight",
    py "Nine", py "Ten", py "Eleven", py "Twelve", py "Thirteen", py "Fourteen", py "Fifteen",
    py "Sixteen", py "Seventeen", py "Eighteen", py "Nineteen"]

/-- `_TENS`. -/
def tensWords : List PyStr :=
  [[], [], py "Twenty", py "Thirty", py "Forty", py "Fifty", py "Sixty", py "Seventy", py "Eighty",
    py "Ninety"]

/-- `_ONES[n]`, where it is asked for. -/
def onesWord (n : Nat) : PyStr := onesWords.getD n []

/-- `_TENS[n]`, where it is asked for. -/
def tensWord (n : Nat) : PyStr := tensWords.getD n []

/-- The parts of a number below a hundred. -/
def underHundredParts (value : Nat) : List PyStr :=
  if 20 ≤ value
    then tensWord (value / 10) :: (if value % 10 ≠ 0 then [onesWord (value % 10)] else [])
  else if value ≠ 0 then [onesWord value]
  else []

/-- `_under_thousand`. -/
def underThousand (value : Nat) : PyStr :=
  joinWith (py " ") (if 100 ≤ value then
    [onesWord (value / 100), py "Hundred"] ++ underHundredParts (value % 100)
    else underHundredParts value)

/-- `integer_in_indian_words`, of a number that is not negative. -/
def naturalInIndianWords (value : Nat) : PyStr :=
  if value = 0 then onesWord 0
  else
    let crore := value / 10000000
    let lakh := value % 10000000 / 100000
    let thousand := value % 10000000 % 100000 / 1000
    let rest := value % 10000000 % 100000 % 1000
    joinWith (py " ") (
      (if crore ≠ 0 then [naturalInIndianWords crore, py "Crore"] else []) ++
      (if lakh ≠ 0 then [underThousand lakh, py "Lakh"] else []) ++
      (if thousand ≠ 0 then [underThousand thousand, py "Thousand"] else []) ++
      (if rest ≠ 0 then [underThousand rest] else []))
termination_by value
decreasing_by omega

/-- `integer_in_indian_words`. -/
def integerInIndianWords (value : Int) : PyStr :=
  if value < 0 then py "Minus " ++ naturalInIndianWords value.natAbs
  else naturalInIndianWords value.natAbs

/-- `int(x)` of a decimal. -/
def truncated (x : ℚ) : Int := if x < 0 then ⌈x⌉ else ⌊x⌋

/-- `amount_in_words`. -/
def amountInWords (value : ℚ) : Except PyError PyStr := do
  let amount ← quantized value
  let sign := if amount < 0 then py "Minus " else []
  let amount := inContext |amount|
  let rupees := truncated amount
  let paise := truncated (inContext (inContext (amount - rupees) * 100))
  let words := sign ++ py "INR " ++ integerInIndianWords rupees
  let words :=
    if paise ≠ 0 then words ++ py " and " ++ integerInIndianWords paise ++ py " Paise" else words
  .ok (words ++ py " Only")

/-! ## Reading -/

/-- What has been read: the closed groups, and the group that is open. -/
structure Reading where
  total : Nat
  group : Nat
deriving DecidableEq

/-- The number a word stands for by itself; no other word counts. -/
def smallValue (word : PyStr) : Nat :=
  if word ∈ onesWords then onesWords.idxOf word
  else if word ∈ tensWords.drop 2 then 10 * (tensWords.idxOf word)
  else 0

/-- Read one more word. -/
def readWord (s : Reading) (word : PyStr) : Reading :=
  if word = py "Hundred" then ⟨s.total, s.group * 100⟩
  else if word = py "Thousand" then ⟨s.total + s.group * 1000, 0⟩
  else if word = py "Lakh" then ⟨s.total + s.group * 100000, 0⟩
  else if word = py "Crore" then ⟨(s.total + s.group) * 10000000, 0⟩
  else ⟨s.total, s.group + smallValue word⟩

/-- What a reading comes to. -/
def Reading.value (s : Reading) : Nat := s.total + s.group

/-- The number in some words. -/
def naturalFromWords (words : List PyStr) : Nat := (words.foldl readWord ⟨0, 0⟩).value

/-- The number that `integer_in_indian_words` wrote. -/
def integerFromWords (text : PyStr) : Int :=
  let words := splitWords text
  if words.head? = some (py "Minus") then -(naturalFromWords words : Int)
    else naturalFromWords words

/-- The amount that `amount_in_words` wrote: the rupees are in the words before `and`. -/
def amountFromWords (text : PyStr) : ℚ :=
  let words := splitWords text
  let rupees := naturalFromWords (words.takeWhile fun w => w ≠ py "and")
  let paise := naturalFromWords (words.dropWhile fun w => w ≠ py "and")
  let amount : ℚ := rupees + paise / 100
  if words.head? = some (py "Minus") then -amount else amount

example : integerFromWords (py "Minus One Crore Crore Twelve Lakh Three Hundred Seven") =
    -100000001200307 := by
  decide +kernel

/-! ## The words of a number -/

/-- The words that numbers are made of. -/
def numberWords : List PyStr :=
  onesWords ++ tensWords.drop 2 ++ [py "Hundred", py "Thousand", py "Lakh", py "Crore"]

/-- They are all words of numbers. -/
def AllNumberWords (words : List PyStr) : Prop := ∀ w ∈ words, w ∈ numberWords

private theorem numberWords_single : ∀ w ∈ numberWords, splitWords w = [w] := by decide

/-- Parts that are words of numbers are their own words. -/
private theorem flatMap_splitWords {parts : List PyStr} (h : AllNumberWords parts) :
    parts.flatMap splitWords = parts := by
  induction parts with
  | nil => rfl
  | cons w parts ih =>
    have hrest := ih fun w' hw' => h w' (List.mem_cons_of_mem w hw')
    rw [List.flatMap_cons, hrest, numberWords_single w (h w List.mem_cons_self)]
    rfl

private theorem onesWord_spec : ∀ n < 20, onesWord n ∈ numberWords ∧
    onesWord n ∉ [py "Hundred", py "Thousand", py "Lakh", py "Crore"] ∧
    smallValue (onesWord n) = n := by
  decide

private theorem tensWord_spec : ∀ n < 10, 2 ≤ n → tensWord n ∈ numberWords ∧
    tensWord n ∉ [py "Hundred", py "Thousand", py "Lakh", py "Crore"] ∧
    smallValue (tensWord n) = 10 * n := by
  decide

/-- A word that is no scale adds to the group. -/
private theorem readWord_small {word : PyStr}
    (h : word ∉ [py "Hundred", py "Thousand", py "Lakh", py "Crore"]) (s : Reading) :
    readWord s word = ⟨s.total, s.group + smallValue word⟩ := by
  simp only [List.mem_cons, List.not_mem_nil, or_false, not_or] at h
  obtain ⟨h₁, h₂, h₃, h₄⟩ := h
  unfold readWord
  rw [if_neg h₁, if_neg h₂, if_neg h₃, if_neg h₄]

private theorem readWord_ones {n : Nat} (h : n < 20) (s : Reading) :
    readWord s (onesWord n) = ⟨s.total, s.group + n⟩ := by
  obtain ⟨-, hplain, hvalue⟩ := onesWord_spec n h
  rw [readWord_small hplain, hvalue]

private theorem readWord_tens {n : Nat} (h : n < 10) (h₂ : 2 ≤ n) (s : Reading) :
    readWord s (tensWord n) = ⟨s.total, s.group + 10 * n⟩ := by
  obtain ⟨-, hplain, hvalue⟩ := tensWord_spec n h h₂
  rw [readWord_small hplain, hvalue]

private theorem underHundredParts_words {value : Nat} (h : value < 100) :
    AllNumberWords (underHundredParts value) := by
  intro w hw
  unfold underHundredParts at hw
  split at hw
  · rcases List.mem_cons.mp hw with rfl | hw
    · exact (tensWord_spec _ (by omega) (by omega)).1
    · split at hw
      · rw [List.mem_singleton.mp hw]
        exact (onesWord_spec _ (by omega)).1
      · exact absurd hw List.not_mem_nil
  · split at hw
    · rw [List.mem_singleton.mp hw]
      exact (onesWord_spec _ (by omega)).1
    · exact absurd hw List.not_mem_nil

/-- A number below a hundred is read into the group. -/
private theorem read_underHundred {value : Nat} (h : value < 100) (s : Reading) :
    (underHundredParts value).foldl readWord s = ⟨s.total, s.group + value⟩ := by
  unfold underHundredParts
  split
  · rw [List.foldl_cons, readWord_tens (by omega) (by omega)]
    split
    · rw [List.foldl_cons, readWord_ones (by omega), List.foldl_nil]
      simp only [Reading.mk.injEq, true_and]
      omega
    · rw [List.foldl_nil]
      simp only [Reading.mk.injEq, true_and]
      omega
  · split
    · rw [List.foldl_cons, readWord_ones (by omega), List.foldl_nil]
    next hzero =>
      rw [List.foldl_nil]
      have hvalue : value = 0 := not_not.mp hzero
      rw [hvalue, Nat.add_zero]

/-- The words of a group. -/
private theorem underThousand_words {value : Nat} (h : value < 1000) :
    AllNumberWords (splitWords (underThousand value)) ∧
      ∀ total, (splitWords (underThousand value)).foldl readWord ⟨total, 0⟩ = ⟨total, value⟩ := by
  unfold underThousand
  rw [splitWords_joinWith]
  split
  · have hparts : AllNumberWords
        ([onesWord (value / 100), py "Hundred"] ++ underHundredParts (value % 100)) := by
      intro w hw
      rcases List.mem_append.mp hw with hw | hw
      · rcases List.mem_cons.mp hw with rfl | hw
        · exact (onesWord_spec _ (by omega)).1
        · rw [List.mem_singleton.mp hw]
          decide
      · exact underHundredParts_words (by omega) w hw
    rw [flatMap_splitWords hparts]
    refine ⟨hparts, fun total => ?_⟩
    rw [List.foldl_append, List.foldl_cons, readWord_ones (by omega), List.foldl_cons,
      List.foldl_nil]
    have hhundred : readWord ⟨total, 0 + value / 100⟩ (py "Hundred") =
        ⟨total, value / 100 * 100⟩ := by
      rw [Nat.zero_add]
      exact if_pos rfl
    rw [hhundred, read_underHundred (by omega)]
    simp only [Reading.mk.injEq, true_and]
    omega
  · rw [flatMap_splitWords (underHundredParts_words (by omega))]
    refine ⟨underHundredParts_words (by omega), fun total => ?_⟩
    rw [read_underHundred (by omega), Nat.zero_add]

/-- A group under a scale is read into the total. -/
private theorem read_scaled (word : PyStr) (scale : Nat) (hword : word ∈ numberWords)
    (hscale : ∀ t g, readWord ⟨t, g⟩ word = ⟨t + g * scale, 0⟩) {value : Nat} (h : value < 1000) :
    AllNumberWords ((if value ≠ 0 then [underThousand value, word] else []).flatMap splitWords) ∧
      ∀ total, ((if value ≠ 0 then [underThousand value, word] else []).flatMap splitWords).foldl
        readWord
        ⟨total, 0⟩ = ⟨total + value * scale, 0⟩ := by
  split
  · obtain ⟨hwords, hread⟩ := underThousand_words h
    have hparts : [underThousand value, word].flatMap splitWords
        = splitWords (underThousand value) ++ [word] := by
      rw [List.flatMap_cons, List.flatMap_singleton, numberWords_single word hword]
    rw [hparts]
    refine ⟨?_, fun total => ?_⟩
    · intro w hw
      rcases List.mem_append.mp hw with hw | hw
      · exact hwords w hw
      · rw [List.mem_singleton.mp hw]
        exact hword
    · rw [List.foldl_append, hread, List.foldl_cons, List.foldl_nil, hscale]
  next hzero =>
    refine ⟨fun w hw => absurd hw List.not_mem_nil, fun total => ?_⟩
    have hvalue : value = 0 := not_not.mp hzero
    rw [hvalue, Nat.zero_mul]
    rfl

/-- The last group stays open. -/
private theorem read_rest {value : Nat} (h : value < 1000) :
    AllNumberWords ((if value ≠ 0 then [underThousand value] else []).flatMap splitWords) ∧
      ∀ total, ((if value ≠ 0 then [underThousand value] else []).flatMap splitWords).foldl readWord
        ⟨total, 0⟩ = ⟨total, value⟩ := by
  split
  · rw [List.flatMap_singleton]
    exact underThousand_words h
  next hzero =>
    refine ⟨fun w hw => absurd hw List.not_mem_nil, fun total => ?_⟩
    have hvalue : value = 0 := not_not.mp hzero
    rw [hvalue]
    rfl

/-- The words of a number are words of numbers, and read as the number. The crores are read
by the induction on the number: whatever total and group their words leave, `Crore` takes
both. -/
theorem naturalInIndianWords_read (n : Nat) :
    AllNumberWords (splitWords (naturalInIndianWords n)) ∧
      naturalFromWords (splitWords (naturalInIndianWords n)) = n := by
  induction n using Nat.strong_induction_on with
  | h n ih =>
    rw [naturalInIndianWords]
    split
    next hzero =>
      rw [hzero]
      constructor
      · unfold AllNumberWords
        decide
      · decide
    next hn =>
      obtain ⟨hlakh, hreadLakh⟩ := read_scaled (py "Lakh") 100000 (by decide)
        (fun _ _ => rfl) (show n % 10000000 / 100000 < 1000 by omega)
      obtain ⟨hthousand, hreadThousand⟩ := read_scaled (py "Thousand") 1000 (by decide)
        (fun _ _ => rfl) (show n % 10000000 % 100000 / 1000 < 1000 by omega)
      obtain ⟨hrest, hreadRest⟩ := read_rest (show n % 10000000 % 100000 % 1000 < 1000 by omega)
      have hcrore : AllNumberWords ((if n / 10000000 ≠ 0 then
            [naturalInIndianWords (n / 10000000), py "Crore"] else []).flatMap splitWords) ∧
          ((if n / 10000000 ≠ 0 then [naturalInIndianWords (n / 10000000), py "Crore"]
            else []).flatMap splitWords).foldl readWord ⟨0, 0⟩ = ⟨n / 10000000 * 10000000, 0⟩ := by
        split
        · obtain ⟨hwords, hvalue⟩ := ih (n / 10000000) (by omega)
          have hparts : [naturalInIndianWords (n / 10000000), py "Crore"].flatMap splitWords
              = splitWords (naturalInIndianWords (n / 10000000)) ++ [py "Crore"] := by
            rw [List.flatMap_cons, List.flatMap_singleton,
              numberWords_single (py "Crore") (by decide)]
          rw [hparts]
          constructor
          · intro w hw
            rcases List.mem_append.mp hw with hw | hw
            · exact hwords w hw
            · rw [List.mem_singleton.mp hw]
              decide
          · rw [List.foldl_append, List.foldl_cons, List.foldl_nil]
            show (⟨naturalFromWords (splitWords (naturalInIndianWords (n / 10000000))) *
                10000000, 0⟩ :
              Reading) = _
            rw [hvalue]
        next hzero =>
          have hnone : n / 10000000 = 0 := not_not.mp hzero
          refine ⟨fun w hw => absurd hw List.not_mem_nil, ?_⟩
          rw [hnone]
          rfl
      rw [splitWords_joinWith, List.flatMap_append, List.flatMap_append, List.flatMap_append]
      constructor
      · intro w hw
        rcases List.mem_append.mp hw with hw | hw
        · rcases List.mem_append.mp hw with hw | hw
          · rcases List.mem_append.mp hw with hw | hw
            · exact hcrore.1 w hw
            · exact hlakh w hw
          · exact hthousand w hw
        · exact hrest w hw
      · unfold naturalFromWords
        rw [List.foldl_append, List.foldl_append, List.foldl_append, hcrore.2, hreadLakh,
          hreadThousand,
          hreadRest]
        show n / 10000000 * 10000000 + n % 10000000 / 100000 * 100000
          + n % 10000000 % 100000 / 1000 * 1000 + n % 10000000 % 100000 % 1000 = n
        omega

/-! ## Signs and amounts -/

/-- The words around the numbers of an amount. -/
def plainWords : List PyStr := [py "Minus", py "INR", py "and", py "Paise", py "Only"]

private theorem plainWords_spec : ∀ w ∈ plainWords, splitWords w = [w] ∧
    w ∉ numberWords := by decide

private theorem readWord_plain {w : PyStr} (h : w ∈ plainWords) (s : Reading) :
    readWord s w = s := by
  have hnone : w ∉ [py "Hundred", py "Thousand", py "Lakh", py "Crore"] ∧ smallValue w = 0 := by
    revert w
    decide
  rw [readWord_small hnone.1, hnone.2, Nat.add_zero]

/-- Words that are no part of a number are passed over. -/
private theorem read_plain {words : List PyStr} (h : ∀ w ∈ words, w ∈ plainWords) (s : Reading) :
    words.foldl readWord s = s := by
  induction words with
  | nil => rfl
  | cons w words ih =>
    rw [List.foldl_cons, readWord_plain (h w List.mem_cons_self)]
    exact ih fun w' hw' => h w' (List.mem_cons_of_mem w hw')

private theorem naturalFromWords_plain (before words after : List PyStr)
    (hbefore : ∀ w ∈ before, w ∈ plainWords) (hafter : ∀ w ∈ after, w ∈ plainWords) :
    naturalFromWords (before ++ words ++ after) = naturalFromWords words := by
  unfold naturalFromWords
  rw [List.foldl_append, List.foldl_append, read_plain hbefore, read_plain hafter]

/-- A word of an amount that begins a text. -/
private theorem splitWords_cons {w : PyStr} (h : w ∈ plainWords) (rest : PyStr) :
    splitWords (w ++ cp ' ' :: rest) = w :: splitWords rest := by
  rw [splitWords_append (by decide), (plainWords_spec w h).1]
  rfl

/-- A word of an amount that ends a text. -/
private theorem splitWords_snoc {w : PyStr} (h : w ∈ plainWords) (front : PyStr) :
    splitWords (front ++ cp ' ' :: w) = splitWords front ++ [w] := by
  rw [splitWords_append (by decide), (plainWords_spec w h).1]

/-- The words of an integer read as the integer. -/
theorem integerFromWords_inWords (n : Int) : integerFromWords (integerInIndianWords n) = n := by
  obtain ⟨hwords, hvalue⟩ := naturalInIndianWords_read n.natAbs
  unfold integerFromWords integerInIndianWords
  split
  next hneg =>
    have hminus : py "Minus " = py "Minus" ++ [cp ' '] := by decide
    rw [hminus, List.append_assoc, List.singleton_append, splitWords_cons (by decide)]
    dsimp only
    rw [List.head?_cons, if_pos rfl]
    have hskip : naturalFromWords (py "Minus" :: splitWords (naturalInIndianWords n.natAbs)) =
        n.natAbs := by
      have := naturalFromWords_plain [py "Minus"] (splitWords (naturalInIndianWords n.natAbs)) []
        (by decide) (by decide)
      rw [List.append_nil] at this
      exact this.trans hvalue
    rw [hskip]
    omega
  next hneg =>
    dsimp only
    have hhead : (splitWords (naturalInIndianWords n.natAbs)).head? ≠ some (py "Minus") := by
      intro he
      exact absurd (hwords _ (List.mem_of_head? he)) (by decide)
    rw [if_neg hhead, hvalue]
    omega

/-- The text of an amount. -/
def amountText (negative : Bool) (rupees paise : Nat) : PyStr :=
  let words := (if negative then py "Minus " else []) ++ py "INR " ++ naturalInIndianWords rupees
  let words :=
    if paise ≠ 0 then words ++ py " and " ++ naturalInIndianWords paise ++ py " Paise" else words
  words ++ py " Only"

/-- The words of an amount, number by number. -/
private theorem amountText_words (negative : Bool) (rupees paise : Nat) :
    splitWords (amountText negative rupees paise)
      = (if negative then [py "Minus", py "INR"] else [py "INR"]) ++
        splitWords (naturalInIndianWords rupees) ++
        (if paise ≠ 0
          then py "and" :: (splitWords (naturalInIndianWords paise) ++ [py "Paise", py "Only"])
          else [py "Only"]) := by
  have hminus : py "Minus " = py "Minus" ++ [cp ' '] := by decide
  have hinr : py "INR " = py "INR" ++ [cp ' '] := by decide
  have hand : py " and " = cp ' ' :: (py "and" ++ [cp ' ']) := by decide
  have hpaise : py " Paise" = cp ' ' :: py "Paise" := by decide
  have honly : py " Only" = cp ' ' :: py "Only" := by decide
  have hfront : splitWords ((if negative = true then py "Minus " else []) ++ py "INR " ++
        naturalInIndianWords rupees)
      = (if negative = true then [py "Minus", py "INR"] else [py "INR"]) ++
        splitWords (naturalInIndianWords rupees) := by
    rw [hinr, List.append_assoc, List.append_assoc, List.singleton_append]
    cases negative with
    | false => exact splitWords_cons (by decide) _
    | true =>
      rw [if_pos rfl, if_pos rfl, hminus, List.append_assoc, List.singleton_append,
        splitWords_cons (by decide), splitWords_cons (by decide)]
      rfl
  unfold amountText
  dsimp only
  rw [honly, splitWords_snoc (by decide)]
  split
  -- What stands after the rupees does not depend on the sign.
  · have hafter : ∀ front : PyStr,
        front ++ (cp ' ' :: (py "and" ++ [cp ' '])) ++ naturalInIndianWords paise
        = front ++ cp ' ' :: (py "and" ++ cp ' ' :: naturalInIndianWords paise) := by
      intro front
      simp
    rw [hpaise, splitWords_snoc (by decide), hand, hafter, splitWords_append (by decide),
      splitWords_cons (by decide), hfront]
    simp
  · rw [hfront]

/-- The text of an amount reads as the amount. -/
private theorem amountFromWords_text (negative : Bool) (rupees paise : Nat) :
    amountFromWords (amountText negative rupees paise)
      = (if negative then -1 else 1) * ((rupees : ℚ) + (paise : ℚ) / 100) := by
  obtain ⟨hrupees, hrupeesValue⟩ := naturalInIndianWords_read rupees
  obtain ⟨hpaise, hpaiseValue⟩ := naturalInIndianWords_read paise
  have hsign : ∀ w ∈ (if negative = true then [py "Minus", py "INR"] else [py "INR"]),
      w ∈ plainWords ∧ w ≠ py "and" := by
    cases negative <;> decide
  -- The words before `and` are those of the sign and of the rupees.
  have hfront : ∀ w ∈ (if negative = true then [py "Minus", py "INR"] else [py "INR"]) ++
      splitWords (naturalInIndianWords rupees), decide (w ≠ py "and") = true := by
    intro w hw
    apply decide_eq_true
    rcases List.mem_append.mp hw with hw | hw
    · exact (hsign w hw).2
    · intro he
      exact absurd (he ▸ hrupees w hw) (by decide)
  have hvalue : ∀ after : List PyStr, (∀ w ∈ after, w ∈ plainWords) →
      naturalFromWords ((if negative = true then [py "Minus", py "INR"] else [py "INR"]) ++
        splitWords (naturalInIndianWords rupees) ++ after) = rupees := by
    intro after hafter
    rw [naturalFromWords_plain _ _ _ (fun w hw => (hsign w hw).1) hafter, hrupeesValue]
  have hhead : (splitWords (amountText negative rupees paise)).head?
      = some (if negative = true then py "Minus" else py "INR") := by
    rw [amountText_words]
    cases negative <;> rfl
  have hread : naturalFromWords ((splitWords (amountText negative rupees paise)).takeWhile
        fun w => decide (w ≠ py "and")) = rupees ∧
      naturalFromWords ((splitWords (amountText negative rupees paise)).dropWhile
        fun w => decide (w ≠ py "and")) = paise := by
    rw [amountText_words, List.takeWhile_append_of_pos hfront, List.dropWhile_append_of_pos hfront]
    by_cases hzero : paise ≠ 0
    · rw [if_pos hzero, List.takeWhile_cons_of_neg (by decide),
        List.dropWhile_cons_of_neg (by decide)]
      refine ⟨hvalue [] (by decide), ?_⟩
      have := naturalFromWords_plain [py "and"] (splitWords (naturalInIndianWords paise))
        [py "Paise", py "Only"] (by decide) (by decide)
      exact this.trans hpaiseValue
    · rw [if_neg hzero]
      refine ⟨hvalue [py "Only"] (by decide), ?_⟩
      rw [not_not.mp hzero]
      decide
  unfold amountFromWords
  dsimp only
  rw [hhead, hread.1, hread.2]
  cases negative with
  | false =>
    rw [if_neg (by decide), if_neg (by decide), one_mul]
  | true =>
    rw [if_pos (by decide), if_pos rfl]
    ring

/-! ## Amounts in paise -/

private theorem integerInIndianWords_natCast (n : Nat) :
    integerInIndianWords (n : Int) = naturalInIndianWords n := by
  unfold integerInIndianWords
  rw [if_neg (by omega), Int.natAbs_natCast]

private theorem truncated_div_hundred (m : Nat) :
    truncated ((m : ℚ) / 100) = ((m / 100 : Nat) : Int) := by
  have hnonneg : ¬ (m : ℚ) / 100 < 0 := not_lt.mpr (by positivity)
  unfold truncated
  rw [if_neg hnonneg]
  have := Rat.floor_intCast_div_natCast (m : ℤ) 100
  push_cast at this ⊢
  exact this

private theorem truncated_natCast (m : Nat) : truncated (m : ℚ) = m := by
  have hnonneg : ¬ (m : ℚ) < 0 := not_lt.mpr (by positivity)
  unfold truncated
  rw [if_neg hnonneg]
  exact Int.floor_natCast m

/-- A whole number of paise in words, rupees and paise apart. -/
theorem amountInWords_paise (n : Int) (h : |(n : ℚ) / 100| < 10 ^ 26) :
    amountInWords ((n : ℚ) / 100)
      = .ok (amountText (decide (n < 0)) (n.natAbs / 100) (n.natAbs % 100)) := by
  -- A whole number of paise has two places, and no step of the source rounds it.
  have hplaces : TwoPlaces ((n : ℚ) / 100) := twoPlaces_iff.mpr ⟨n, rfl⟩
  have habs : |(n : ℚ) / 100| = (n.natAbs : ℚ) / 100 := by
    rw [abs_div, abs_of_pos (show (0 : ℚ) < 100 by norm_num), Nat.cast_natAbs, Int.cast_abs]
  have hparts : (n.natAbs : ℚ) / 100 - ((n.natAbs / 100 : Nat) : ℚ) =
      ((n.natAbs % 100 : Nat) : ℚ) / 100 := by
    have := Nat.div_add_mod n.natAbs 100
    have hcast : (100 : ℚ) * ((n.natAbs / 100 : Nat) : ℚ) + ((n.natAbs % 100 : Nat) : ℚ) =
        (n.natAbs : ℚ) := by
      exact_mod_cast this
    linarith
  have hrest : ((n.natAbs % 100 : Nat) : ℚ) < 100 := by
    exact_mod_cast Nat.mod_lt n.natAbs (by norm_num)
  have hamount : inContext |(n : ℚ) / 100| = (n.natAbs : ℚ) / 100 := by
    rw [inContext_paise hplaces.abs (by rw [abs_abs]; exact h.le), habs]
  have hpaise : inContext (((n.natAbs % 100 : Nat) : ℚ) / 100) =
      ((n.natAbs % 100 : Nat) : ℚ) / 100 := by
    apply inContext_paise
      (twoPlaces_iff.mpr ⟨((n.natAbs % 100 : Nat) : ℤ), by rw [Int.cast_natCast]⟩)
    rw [abs_of_nonneg (by positivity)]
    linarith
  have hhundred : inContext (((n.natAbs % 100 : Nat) : ℚ) / 100 * 100) =
      ((n.natAbs % 100 : Nat) : ℚ) := by
    have hcancel : ((n.natAbs % 100 : Nat) : ℚ) / 100 * 100 =
        ((n.natAbs % 100 : Nat) : ℚ) := by ring
    rw [hcancel]
    apply inContext_paise (twoPlaces_iff.mpr ⟨((n.natAbs % 100 * 100 : Nat) : ℤ),
      by rw [Int.cast_natCast, Nat.cast_mul, Nat.cast_ofNat,
        mul_div_cancel_right₀ _ (by norm_num)]⟩)
    rw [abs_of_nonneg (by positivity)]
    linarith
  -- The amount is below zero exactly when its paise are.
  have hsign : ((n : ℚ) / 100 < 0) ↔ n < 0 := by
    rw [div_neg_iff]
    constructor
    · rintro (⟨-, hbad⟩ | ⟨hn, -⟩)
      · norm_num at hbad
      · exact_mod_cast hn
    · intro hn
      exact Or.inr ⟨by exact_mod_cast hn, by norm_num⟩
  unfold amountInWords
  refine except_bind_ok.mpr ⟨_, quantized_paise hplaces h, ?_⟩
  dsimp only
  rw [hamount, truncated_div_hundred, Int.cast_natCast, hparts, hpaise, hhundred, truncated_natCast,
    integerInIndianWords_natCast, integerInIndianWords_natCast]
  unfold amountText
  simp only [hsign, decide_eq_true_eq, ne_eq, Nat.cast_eq_zero]

/-- An amount of a whole number of paise. -/
def WholePaise (x : ℚ) : Prop := ∃ n : ℤ, x = n / 100

/-- The words of an amount in paise read as the amount. -/
theorem amountFromWords_inWords {x : ℚ} (hx : WholePaise x) (h : |x| < 10 ^ 26) :
    ∃ text, amountInWords x = .ok text ∧ amountFromWords text = x := by
  obtain ⟨n, rfl⟩ := hx
  refine ⟨_, amountInWords_paise n h, ?_⟩
  rw [amountFromWords_text]
  have hwhole : ((n.natAbs / 100 : Nat) : ℚ) + ((n.natAbs % 100 : Nat) : ℚ) / 100 =
      (n.natAbs : ℚ) / 100 := by
    have := Nat.div_add_mod n.natAbs 100
    have hcast : (100 : ℚ) * ((n.natAbs / 100 : Nat) : ℚ) + ((n.natAbs % 100 : Nat) : ℚ) =
        (n.natAbs : ℚ) := by
      exact_mod_cast this
    linarith
  rw [hwhole, Nat.cast_natAbs, Int.cast_abs]
  by_cases hn : n < 0
  · have hneg : (n : ℚ) < 0 := by exact_mod_cast hn
    rw [if_pos (decide_eq_true hn), abs_of_neg hneg]
    ring
  · have hpos : (0 : ℚ) ≤ n := by exact_mod_cast not_lt.mp hn
    rw [if_neg (by simpa using hn), abs_of_nonneg hpos, one_mul]

/-- Numbers and amounts can be told from their words: the words of an integer read as the
integer, whatever its size and sign, and those of an amount in whole paise as the amount. -/
theorem words_uniquely_readable :
    (∀ n, integerFromWords (integerInIndianWords n) = n) ∧ Function.Injective integerInIndianWords ∧
      (∀ x, WholePaise x → |x| < 10 ^ 26 →
        ∃ text, amountInWords x = .ok text ∧ amountFromWords text = x) ∧
      ∀ x y, WholePaise x → |x| < 10 ^ 26 → WholePaise y → |y| < 10 ^ 26 →
        amountInWords x = amountInWords y → x = y := by
  refine ⟨integerFromWords_inWords, Function.LeftInverse.injective integerFromWords_inWords,
    fun x hx h => amountFromWords_inWords hx h, ?_⟩
  intro x y hx hxs hy hys he
  obtain ⟨text, htext, hvalue⟩ := amountFromWords_inWords hx hxs
  obtain ⟨other, hother, hvalue'⟩ := amountFromWords_inWords hy hys
  rw [he, hother] at htext
  obtain rfl := Except.ok.inj htext
  exact hvalue.symm.trans hvalue'

/-- Two totals that are a paisa apart. -/
theorem words_uniquely_readable_totals :
    amountInWords (1234567 / 100) ≠ amountInWords (1234568 / 100) := by
  intro he
  have hsame := words_uniquely_readable.2.2.2 (1234567 / 100) (1234568 / 100) ⟨1234567, by norm_num⟩
    (by norm_num [abs_of_pos]) ⟨1234568, by norm_num⟩ (by norm_num [abs_of_pos]) he
  norm_num at hsame

end SetuoraLite
