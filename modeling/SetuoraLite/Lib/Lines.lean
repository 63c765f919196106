import SetuoraLite.Lib.Text

/-!
# Lines

`str.splitlines()` and the newline translation of text files. A line of the result
holds no separator, and lines that hold none come back when they are written one
below the other. Stripping the end of a text loses the blank lines at its end and
the white space behind the last other line (`splitlines_rstrip_join`).
-/

namespace Lib

/-- The separators of `str.splitlines()`. -/
def isLineBreak (c : CodePoint) : Bool :=
  (10 ≤ c.val && c.val ≤ 13) || (28 ≤ c.val && c.val ≤ 30) || c.val == 133 || c.val == 8232 ||
    c.val == 8233

/-- A separator is white space. -/
theorem isSpace_of_isLineBreak {c : CodePoint} (h : isLineBreak c = true) : isSpace c = true := by
  unfold isLineBreak at h
  unfold isSpace
  simp only [Bool.or_eq_true, Bool.and_eq_true, decide_eq_true_eq, beq_iff_eq] at h ⊢
  omega

/-- Put a code point before the first line. -/
def consLine (c : CodePoint) : List PyStr → List PyStr
  | [] => [[c]]
  | line :: lines => (c :: line) :: lines

/-- `s.splitlines()`; `\r\n` is one separator. -/
def splitlines : PyStr → List PyStr
  | [] => []
  | c :: cs =>
    if isLineBreak c then
      [] :: (if c = cp '\r' ∧
        cs.head? = some (cp '\n') then (splitlines cs).tail else splitlines cs)
    else consLine c (splitlines cs)

/-- What reading a text file makes of its line ends. -/
def universalNewlines : PyStr → PyStr
  | [] => []
  | c :: cs =>
    if c = cp '\r' then
      cp '\n' ::
        (if cs.head? = some (cp '\n') then (universalNewlines cs).tail else universalNewlines cs)
    else c :: universalNewlines cs

/-- The lines hold no separator. -/
def BreakFree (line : PyStr) : Prop := ∀ c ∈ line, isLineBreak c = false

/-- A line feed ends a line. -/
theorem isLineBreak_newline : isLineBreak (cp '\n') = true := by decide

/-- By the first character. -/
theorem splitlines_cons (c : CodePoint) (cs : PyStr) :
    splitlines (c :: cs) =
      if isLineBreak c then
        [] :: (if c = cp '\r' ∧
          cs.head? = some (cp '\n') then (splitlines cs).tail else splitlines cs)
      else consLine c (splitlines cs) := rfl

/-- An empty line first. -/
theorem splitlines_newline (rest : PyStr) :
    splitlines (cp '\n' :: rest) = [] :: splitlines rest := by
  have hne : ¬ (cp '\n' = cp '\r') := by decide
  simp [splitlines, isLineBreak_newline, hne]

/-- The translation does not show through `splitlines`. -/
theorem splitlines_universalNewlines (s : PyStr) :
    splitlines (universalNewlines s) = splitlines s := by
  induction s with
  | nil => rfl
  | cons c cs ih =>
    unfold universalNewlines
    by_cases hc : c = cp '\r'
    · have hbreak : isLineBreak c = true := by
        rw [hc]
        decide
      rw [if_pos hc, splitlines_newline, splitlines_cons, if_pos hbreak]
      by_cases hn : cs.head? = some (cp '\n')
      · -- The pair is one line end on both sides.
        obtain ⟨rest, rfl⟩ : ∃ rest, cs = cp '\n' :: rest := by
          cases cs with
          | nil => cases hn
          | cons d rest =>
            obtain rfl := Option.some.inj hn
            exact ⟨rest, rfl⟩
        have hne : ¬ (cp '\n' = cp '\r') := by decide
        have htail : (universalNewlines (cp '\n' :: rest)) = cp '\n' :: universalNewlines rest := by
          conv_lhs => unfold universalNewlines
          rw [if_neg hne]
        rw [htail, splitlines_newline, splitlines_newline] at ih
        rw [if_pos hn, if_pos ⟨hc, hn⟩, htail, List.tail_cons, splitlines_newline, List.tail_cons]
        rw [(List.cons.inj ih).2]
      · rw [if_neg hn, if_neg fun h => hn h.2, ih]
    · rw [if_neg hc]
      by_cases hbreak : isLineBreak c = true
      · simp [splitlines, hbreak, hc, ih]
      · simp [splitlines, hbreak, ih]

/-! ## What the lines are -/

/-- A character that ends no line goes into the first one. -/
theorem breakFree_consLine {c : CodePoint} {lines : List PyStr} (hc : isLineBreak c = false)
    (h : ∀ line ∈ lines, BreakFree line) : ∀ line ∈ consLine c lines, BreakFree line := by
  cases lines with
  | nil =>
    intro line hline
    obtain rfl := List.mem_singleton.mp hline
    intro d hd
    obtain rfl := List.mem_singleton.mp hd
    exact hc
  | cons first rest =>
    intro line hline
    rcases List.mem_cons.mp hline with rfl | hline
    · intro d hd
      rcases List.mem_cons.mp hd with rfl | hd
      · exact hc
      · exact h first List.mem_cons_self d hd
    · exact h line (List.mem_cons_of_mem _ hline)

/-- No line of a text holds a separator. -/
theorem breakFree_splitlines (s : PyStr) : ∀ line ∈ splitlines s, BreakFree line := by
  induction s with
  | nil =>
    intro line hline
    exact absurd hline List.not_mem_nil
  | cons c cs ih =>
    rw [splitlines_cons]
    by_cases hc : isLineBreak c = true
    · rw [if_pos hc]
      intro line hline
      rcases List.mem_cons.mp hline with rfl | hline
      · intro d hd
        exact absurd hd List.not_mem_nil
      · by_cases hpair : c = cp '\r' ∧ cs.head? = some (cp '\n')
        · rw [if_pos hpair] at hline
          exact ih line (List.mem_of_mem_tail hline)
        · rw [if_neg hpair] at hline
          exact ih line hline
    · rw [if_neg hc]
      exact breakFree_consLine (by simpa using hc) ih

/-! ## Lines written one below the other -/

/-- A line and its line feed. -/
theorem splitlines_line {line : PyStr} (h : BreakFree line) (rest : PyStr) :
    splitlines (line ++ cp '\n' :: rest) = line :: splitlines rest := by
  induction line with
  | nil => exact splitlines_newline rest
  | cons c line ih =>
    have hc : isLineBreak c = false := h c List.mem_cons_self
    have ih := ih fun d hd => h d (List.mem_cons_of_mem c hd)
    rw [List.cons_append, splitlines_cons, if_neg (by simp [hc]), ih]
    rfl

/-- Lines, each with its end. -/
def writeLines (lines : List PyStr) : PyStr := lines.flatMap fun line => line ++ [cp '\n']

/-- Written lines are read back. -/
theorem splitlines_writeLines {lines : List PyStr} (h : ∀ line ∈ lines, BreakFree line) :
    splitlines (writeLines lines) = lines := by
  induction lines with
  | nil => rfl
  | cons line lines ih =>
    have hrest : writeLines (line :: lines) = line ++ cp '\n' :: writeLines lines := by
      simp [writeLines]
    rw [hrest, splitlines_line (h line List.mem_cons_self),
      ih fun l hl => h l (List.mem_cons_of_mem _ hl)]

/-- The lines of a text, the last one without its end. -/
theorem joinWith_newline (lines : List PyStr) (line : PyStr) :
    joinWith (py "\n") (lines ++ [line]) = writeLines lines ++ line := by
  have hsep : py "\n" = [cp '\n'] := by decide
  induction lines with
  | nil => simp [joinWith, writeLines]
  | cons first lines ih =>
    have hcons : joinWith (py "\n") (first :: (lines ++ [line])) =
        first ++ (py "\n" ++ joinWith (py "\n") (lines ++ [line])) := by
      unfold joinWith
      cases lines <;> simp [List.intercalate]
    rw [List.cons_append, hcons, ih, hsep]
    simp [writeLines]

/-! ## Stripping the end -/

/-- `s.rstrip()`. -/
def rstrip (s : PyStr) : PyStr := s.rdropWhile isSpace

/-- White space at the end goes. -/
theorem rstrip_append_space {s t : PyStr} (h : ∀ c ∈ t, isSpace c = true) :
    rstrip (s ++ t) = rstrip s := by
  unfold rstrip List.rdropWhile
  rw [List.reverse_append, List.dropWhile_append_of_pos fun c hc => h c (List.mem_reverse.mp hc)]

/-- And no further than the last other character. -/
theorem rstrip_append_of_not {s t : PyStr} (h : ¬ ∀ c ∈ t, isSpace c = true) :
    rstrip (s ++ t) = s ++ rstrip t := by
  unfold rstrip List.rdropWhile
  have hne : t.reverse.dropWhile isSpace ≠ [] := by
    intro hnil
    apply h
    intro c hc
    exact List.dropWhile_eq_nil_iff.mp hnil c (List.mem_reverse.mpr hc)
  rw [List.reverse_append, List.dropWhile_append]
  simp [hne]

/-- Stripping the right end first changes nothing. -/
theorem strip_rstrip (s : PyStr) : strip (rstrip s) = strip s := by
  unfold strip rstrip
  induction s with
  | nil => rfl
  | cons c s ih =>
    by_cases hall : ∀ d ∈ s, isSpace d = true
    · -- Nothing but white space behind `c`.
      have hrest : List.rdropWhile isSpace s = [] :=
        List.rdropWhile_eq_nil_iff.mpr hall
      have happ := rstrip_append_space (s := [c]) hall
      rw [List.singleton_append] at happ
      unfold rstrip at happ
      rw [happ]
      by_cases hc : isSpace c = true
      · have hdrop : s.dropWhile isSpace = [] := List.dropWhile_eq_nil_iff.mpr hall
        simp [List.rdropWhile, hc, hdrop]
      · have hone := rstrip_append_space (s := [c]) hall
        rw [List.singleton_append] at hone
        unfold rstrip at hone
        simp only [Bool.not_eq_true] at hc
        have hsingle : List.rdropWhile isSpace [c] = [c] := by simp [List.rdropWhile, hc]
        rw [hsingle, List.dropWhile_cons_of_neg (by simp [hc]),
          List.dropWhile_cons_of_neg (by simp [hc]),
          hone]
    · have happ := rstrip_append_of_not (s := [c]) hall
      rw [List.singleton_append, List.singleton_append] at happ
      unfold rstrip at happ
      rw [happ]
      by_cases hc : isSpace c = true
      · rw [List.dropWhile_cons_of_pos hc, List.dropWhile_cons_of_pos hc, ih]
      · rw [List.dropWhile_cons_of_neg hc, List.dropWhile_cons_of_neg hc, ← happ,
          List.rdropWhile_idempotent]

/-- A stripped text, read back: the lines it was joined from without the blank ones at the
end, and without the white space behind the last of them. -/
theorem splitlines_rstrip_join {lines : List PyStr} (h : ∀ line ∈ lines, BreakFree line) :
    ∃ kept blank : List PyStr, (∀ line ∈ blank, strip line = []) ∧
      (lines = kept ++ blank ∧
        splitlines (rstrip (joinWith (py "\n") lines) ++ py "\n") = [[]] ∧ kept = [] ∨
      ∃ last, lines = kept ++ last :: blank ∧
        splitlines (rstrip (joinWith (py "\n") lines) ++ py "\n") = kept ++ [rstrip last]) := by
  have hnl : ∀ s : PyStr, s ++ py "\n" = s ++ cp '\n' :: [] := fun s => rfl
  have hspace : isSpace (cp '\n') = true := by decide
  induction lines using List.reverseRecOn with
  | nil =>
    refine ⟨[], [], fun _ h => absurd h List.not_mem_nil, Or.inl ⟨rfl, ?_, rfl⟩⟩
    decide
  | append_singleton lines last ih =>
    have ih := ih fun l hl => h l (List.mem_append_left _ hl)
    have hlines : ∀ line ∈ lines, BreakFree line := fun l hl => h l (List.mem_append_left _ hl)
    rw [joinWith_newline]
    by_cases hblank : ∀ c ∈ last, isSpace c = true
    · -- A blank last line goes, and with it the end of the line before.
      have hsame : rstrip (writeLines lines ++ last) = rstrip (joinWith (py "\n") lines) := by
        rw [rstrip_append_space hblank]
        cases lines using List.reverseRecOn with
        | nil => rfl
        | append_singleton front l =>
          have hw : writeLines (front ++ [l]) = (writeLines front ++ l) ++ [cp '\n'] := by
            simp [writeLines]
          rw [joinWith_newline, hw, rstrip_append_space (by simp [hspace])]
      have hstrip : strip last = [] := by
        unfold strip
        rw [List.dropWhile_eq_nil_iff.mpr hblank]
        rfl
      rw [hsame]
      obtain ⟨kept, blank, hb, hcase⟩ := ih
      refine ⟨kept, blank ++ [last], ?_, ?_⟩
      · intro line hline
        rcases List.mem_append.mp hline with hline | hline
        · exact hb line hline
        · rw [List.mem_singleton.mp hline]
          exact hstrip
      · rcases hcase with ⟨hl, hs, hk⟩ | ⟨l, hl, hs⟩
        · exact Or.inl ⟨by rw [hl, List.append_assoc], hs, hk⟩
        · exact Or.inr ⟨l, by rw [hl, List.append_assoc, List.cons_append], hs⟩
    · refine ⟨lines, [], fun _ h => absurd h List.not_mem_nil, Or.inr ⟨last, rfl, ?_⟩⟩
      have hfree : BreakFree (rstrip last) := by
        intro c hc
        exact h last (List.mem_append_right _ List.mem_cons_self) c
          ((List.rdropWhile_prefix isSpace last).subset hc)
      have hall : ∀ line ∈ lines ++ [rstrip last], BreakFree line := by
        intro line hline
        rcases List.mem_append.mp hline with hline | hline
        · exact hlines line hline
        · rw [List.mem_singleton.mp hline]
          exact hfree
      have hw : (writeLines lines ++ rstrip last) ++ py "\n" =
          writeLines (lines ++ [rstrip last]) := by
        rw [hnl]
        simp [writeLines]
      rw [rstrip_append_of_not hblank, hw, splitlines_writeLines hall]

end Lib
