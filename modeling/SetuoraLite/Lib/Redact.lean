import SetuoraLite.Lib.Text

/-!
# Redaction by replacement

Replacing every occurrence of a text may form new ones: what is put in can join with what
stands around it. It cannot when the replacement begins and ends with code points that the
text does not have and is too short to hide it in between (`Seals`); `replaceAll_clean` says
that no occurrence is left then, whatever the text was.

The argument follows the scan from the left. An occurrence in the result avoids both ends of
every replacement, so it lies in text that was copied, where the scan would have found it.
-/

namespace Lib

/-- The replacement of `old` by `new` cannot take part in an occurrence of `old`. -/
structure Seals (old new : PyStr) : Prop where
  split : ∃ l mid r, new = l :: (mid ++ [r]) ∧ l ∉ old ∧ r ∉ old ∧ mid.length < old.length

/-- An occurrence without `x` lies on one side of it. -/
theorem infix_of_append_cons {α : Type} {p a b : List α} {x : α} (hx : x ∉ p)
    (h : p <:+: a ++ x :: b) : p <:+: a ∨ p <:+: b := by
  obtain ⟨s, t, he⟩ := h
  rcases List.append_eq_append_iff.mp he with ⟨rest, ha, -⟩ | ⟨rest, hsp, hb⟩
  · -- The occurrence ends before `x`.
    left
    exact ⟨s, rest, ha.symm⟩
  · cases rest with
    | nil =>
      left
      rw [List.append_nil] at hsp
      exact ⟨s, [], by rw [List.append_nil]; exact hsp⟩
    | cons y rest =>
      obtain ⟨rfl, hafter⟩ := List.cons.inj hb
      rcases List.append_eq_append_iff.mp hsp with ⟨front, -, hp⟩ | ⟨front, -, hfront⟩
      · exact absurd (hp ▸ List.mem_append_right front List.mem_cons_self) hx
      · cases front with
        | nil => exact absurd (List.nil_append p ▸ hfront ▸ List.mem_cons_self) hx
        | cons z front =>
          obtain ⟨-, hrest⟩ := List.cons.inj hfront
          right
          exact ⟨front, t, by rw [hafter, hrest]; rfl⟩

theorem not_infix_of_length_lt {α : Type} {p a : List α} (h : a.length < p.length) :
    ¬ p <:+: a := by
  intro hinfix
  have := hinfix.length_le
  omega

variable {old new : PyStr}

/-- What stands at the head of the result without the first mark of a replacement stood at
the head of the text. -/
private theorem prefix_of_replaced (h : Seals old new) {cs p : PyStr}
    (hp : p <+: replaceFrom old new 0 cs) (hmark : ∀ l ∈ new.head?, l ∉ p) : p <+: cs := by
  obtain ⟨l, mid, r, hnew, -, -, -⟩ := h.split
  induction cs generalizing p with
  | nil =>
    rw [replaceFrom] at hp
    exact hp
  | cons c cs ih =>
    cases p with
    | nil => exact List.nil_prefix
    | cons q p =>
      rw [replaceFrom] at hp
      split at hp
      · -- The result goes on with the replacement.
        rw [hnew] at hp
        obtain ⟨hq, -⟩ := List.cons_prefix_cons.mp hp
        exact absurd (hq ▸ List.mem_cons_self) (hmark l (by simp [hnew]))
      · obtain ⟨hq, hrest⟩ := List.cons_prefix_cons.mp hp
        have htail := ih hrest fun m hm hin => hmark m hm (List.mem_cons_of_mem q hin)
        exact List.cons_prefix_cons.mpr ⟨hq, htail⟩

/-- No occurrence is left. -/
theorem replaceFrom_clean (h : Seals old new) (skip : Nat) (s : PyStr) :
    ¬ old <:+: replaceFrom old new skip s := by
  obtain ⟨l, mid, r, rfl, hl, hr, hlength⟩ := h.split
  have hne : ¬ old <:+: [] := not_infix_of_length_lt (by simp only [List.length_nil]; omega)
  induction s generalizing skip with
  | nil =>
    cases skip <;> (rw [replaceFrom]; exact hne)
  | cons c cs ih =>
    cases skip with
    | succ skip =>
      rw [replaceFrom]
      exact ih skip
    | zero =>
      intro hin
      rw [replaceFrom] at hin
      split at hin
      · rw [List.cons_append, List.append_assoc, List.singleton_append] at hin
        rcases infix_of_append_cons (a := []) hl hin with hin | hin
        · exact hne hin
        · rcases infix_of_append_cons hr hin with hin | hin
          · exact not_infix_of_length_lt hlength hin
          · exact ih _ hin
      next hprefix =>
        rcases List.infix_cons_iff.mp hin with hhead | htail
        · -- An occurrence at the head was one before, and the scan saw none.
          cases hold : old with
          | nil =>
            rw [hold] at hne
            exact hne List.nil_infix
          | cons q rest =>
            rw [hold] at hhead
            obtain ⟨hq, hrest⟩ := List.cons_prefix_cons.mp hhead
            rw [← hold] at hrest
            have hcopied : rest <+: cs := by
              refine prefix_of_replaced h hrest fun m hm hin => hl ?_
              have hml : m = l := by simpa [eq_comm] using hm
              rw [hold, ← hml]
              exact List.mem_cons_of_mem q hin
            apply hprefix
            rw [hold, List.isPrefixOf_iff_prefix]
            exact List.cons_prefix_cons.mpr ⟨hq, hcopied⟩
        · exact ih 0 htail

/-- `s.replace(old, new)` has no `old` in it. -/
theorem replaceAll_clean (h : Seals old new) (s : PyStr) : ¬ old <:+: replaceAll old new s :=
  replaceFrom_clean h 0 s

end Lib
