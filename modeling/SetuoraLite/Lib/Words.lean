import SetuoraLite.Lib.Text

/-!
# Texts as words

`split()` forgets which white space stood between the words, so it undoes `" ".join` of
parts that are themselves joined words, however deep the joining went: the words of the
whole are the words of the parts (`splitWords_joinWith`).
-/

namespace Lib

/-- The words of two texts with a white space between them. -/
theorem splitWordsFrom_append {c : CodePoint} (hc : isSpace c = true) (word a b : PyStr) :
    splitWordsFrom word (a ++ c :: b) = splitWordsFrom word a ++ splitWords b := by
  induction a generalizing word with
  | nil =>
    have hhead : splitWordsFrom word (c :: b)
        = if word.isEmpty then splitWordsFrom [] b else word.reverse :: splitWordsFrom [] b := by
      rw [splitWordsFrom, if_pos hc]
    rw [List.nil_append, hhead, splitWordsFrom]
    split <;> rfl
  | cons d a ih =>
    rw [List.cons_append, splitWordsFrom, splitWordsFrom]
    split
    · split
      · exact ih []
      · rw [ih [], List.cons_append]
    · exact ih (d :: word)

theorem splitWords_append {c : CodePoint} (hc : isSpace c = true) (a b : PyStr) :
    splitWords (a ++ c :: b) = splitWords a ++ splitWords b :=
  splitWordsFrom_append hc [] a b

/-- The words of joined parts are the words of the parts. -/
theorem splitWords_joinWith (parts : List PyStr) :
    splitWords (joinWith (py " ") parts) = parts.flatMap splitWords := by
  induction parts with
  | nil => rfl
  | cons a parts ih =>
    cases parts with
    | nil => simp [joinWith]
    | cons b parts =>
      have hjoin : joinWith (py " ") (a :: b :: parts)
          = a ++ cp ' ' :: joinWith (py " ") (b :: parts) := by
        simp [joinWith, List.intercalate_cons_cons, py]
      rw [hjoin, splitWords_append (by decide), ih]
      rfl

end Lib
