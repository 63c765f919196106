import Mathlib.Data.List.Sort

/-!
# The first of a stable sort

A list sorted by a key, the largest key first, keeps the order of its elements where the keys
tie. `idxOf_newestFirst`: the place of an element is the number of elements ahead of it, those
with a larger key and those with the same key that come earlier in the list. So it is among the
first `k` exactly when fewer than `k` are ahead.
-/

namespace Lib

variable {α κ : Type*} [LinearOrder κ]

/-- `sorted(xs, key=key, reverse=True)`, which is stable. -/
def newestFirst (key : α → κ) (xs : List α) : List α := xs.insertionSort fun a b => key b ≤ key a

/-- The elements that come before `x`. -/
def ahead [DecidableEq α] (key : α → κ) (x : α) (xs : List α) : List α :=
  xs.filter (fun y => key x < key y) ++ (xs.takeWhile (· ≠ x)).filter (fun y => key y = key x)

variable {key : α → κ} {xs : List α} {x y : α}

/-- Sorting keeps the elements. -/
theorem mem_newestFirst : x ∈ newestFirst key xs ↔ x ∈ xs := (List.perm_insertionSort _ xs).mem_iff

theorem newestFirst_perm : (newestFirst key xs).Perm xs := List.perm_insertionSort _ xs

theorem newestFirst_sorted : (newestFirst key xs).Pairwise fun a b => key b ≤ key a := by
  have : Std.Total fun a b : α => key b ≤ key a := ⟨fun a b => le_total (key b) (key a)⟩
  have : IsTrans α fun a b => key b ≤ key a := ⟨fun _ _ _ h h' => le_trans h' h⟩
  exact List.pairwise_insertionSort _ xs

/-- What is left out is no larger than what is taken. -/
theorem le_of_mem_drop_newestFirst {k : Nat} (hx : x ∈ (newestFirst key xs).take k)
    (hy : y ∈ (newestFirst key xs).drop k) : key y ≤ key x := by
  have hsorted : (newestFirst key xs).Pairwise fun a b => key b ≤ key a := newestFirst_sorted
  rw [← List.take_append_drop k (newestFirst key xs)] at hsorted
  exact (List.pairwise_append.mp hsorted).2.2 x hx y hy

variable [DecidableEq α]

/-- Where an insertion goes: after the larger keys, before the others. -/
theorem idxOf_orderedInsert_self {ys : List α} (hsorted : ys.Pairwise fun a b => key b ≤ key a)
    (hx : x ∉ ys) :
    (ys.orderedInsert (fun a b => key b ≤ key a) x).idxOf x =
        (ys.filter fun y => key x < key y).length := by
  induction ys with
  | nil => simp
  | cons y ys ih =>
    obtain ⟨hy, hrest⟩ := List.pairwise_cons.mp hsorted
    have hne : y ≠ x := fun h => hx (h ▸ List.mem_cons_self)
    by_cases hle : key y ≤ key x
    · -- All that follow are no larger.
      have hnone : (y :: ys).filter (fun z => key x < key z) = [] := by
        refine List.filter_eq_nil_iff.mpr fun z hz => ?_
        rcases List.mem_cons.mp hz with rfl | hz
        · simpa using hle
        · simpa using (hy z hz).trans hle
      rw [List.orderedInsert_cons, if_pos hle, List.idxOf_cons_self, hnone]
      rfl
    · rw [List.orderedInsert_cons, if_neg hle, List.idxOf_cons_ne _ hne,
        ih hrest fun h => hx (List.mem_cons_of_mem y h),
        List.filter_cons_of_pos (by simpa using hle)]
      rfl

/-- Another element moves back by one, unless its key is larger. -/
theorem idxOf_orderedInsert_ne {ys : List α} (hsorted : ys.Pairwise fun a b => key b ≤ key a)
    (hy : y ∈ ys) (hne : x ≠ y) : (ys.orderedInsert (fun a b => key b ≤ key a) x).idxOf y
      = ys.idxOf y + if key x < key y then 0 else 1 := by
  induction ys with
  | nil => exact absurd hy List.not_mem_nil
  | cons z ys ih =>
    obtain ⟨hz, hrest⟩ := List.pairwise_cons.mp hsorted
    by_cases hle : key z ≤ key x
    · have hbelow : ¬ key x < key y := by
        rcases List.mem_cons.mp hy with rfl | hmem
        · exact not_lt.mpr hle
        · exact not_lt.mpr ((hz y hmem).trans hle)
      rw [List.orderedInsert_cons, if_pos hle, List.idxOf_cons_ne _ hne, if_neg hbelow]
    · rw [List.orderedInsert_cons, if_neg hle]
      by_cases heq : z = y
      · subst heq
        rw [List.idxOf_cons_self, List.idxOf_cons_self, if_pos (not_le.mp hle)]
      · have hmem : y ∈ ys := (List.mem_cons.mp hy).resolve_left fun h => heq h.symm
        rw [List.idxOf_cons_ne _ heq, List.idxOf_cons_ne _ heq, ih hrest hmem]
        omega

/-- The place of an element is the number of those ahead of it. -/
theorem idxOf_newestFirst (hnodup : xs.Nodup) (hx : x ∈ xs) :
    (newestFirst key xs).idxOf x = (ahead key x xs).length := by
  induction xs with
  | nil => exact absurd hx List.not_mem_nil
  | cons a xs ih =>
    obtain ⟨ha, hrest⟩ := List.nodup_cons.mp hnodup
    have hsorted : (newestFirst key xs).Pairwise fun a b => key b ≤ key a := newestFirst_sorted
    unfold newestFirst
    rw [List.insertionSort_cons]
    by_cases hax : a = x
    · subst hax
      have hnot : a ∉ newestFirst key xs := fun h => ha (mem_newestFirst.mp h)
      have hinsert := idxOf_orderedInsert_self hsorted hnot
      unfold newestFirst at hinsert
      rw [hinsert]
      have hperm : (newestFirst key xs).Perm xs := newestFirst_perm
      have hlarger := hperm.filter (fun y => key a < key y)
      unfold newestFirst at hlarger
      rw [hlarger.length_eq]
      simp [ahead]
    · have hmem : x ∈ xs := (List.mem_cons.mp hx).resolve_left fun h => hax h.symm
      have hinsert := idxOf_orderedInsert_ne hsorted (mem_newestFirst.mpr hmem) hax
      unfold newestFirst at hinsert ih
      rw [hinsert, ih hrest hmem]
      unfold ahead
      rw [List.takeWhile_cons_of_pos (by simpa using hax)]
      rcases lt_trichotomy (key a) (key x) with hlt | heq | hgt
      -- By where the first element stands to the one that is looked for: newer, of the same age, or
      -- older.
      · rw [if_pos hlt, List.filter_cons_of_neg (by simpa using hlt.le),
          List.filter_cons_of_neg (by simpa using hlt.ne)]
        rfl
      · rw [if_neg (by simp [heq]), List.filter_cons_of_neg (by simp [heq]),
          List.filter_cons_of_pos (by simpa using heq)]
        simp only [List.length_append, List.length_cons]
        omega
      · rw [if_neg (not_lt.mpr hgt.le), List.filter_cons_of_pos (by simpa using hgt),
          List.filter_cons_of_neg (by simpa using hgt.ne')]
        simp only [List.length_append, List.length_cons]
        omega

/-- An element is among the first `k` exactly when fewer than `k` are ahead of it. -/
theorem mem_take_newestFirst {k : Nat} (hnodup : xs.Nodup) (hx : x ∈ xs) :
    x ∈ (newestFirst key xs).take k ↔ (ahead key x xs).length < k := by
  rw [List.mem_take_iff_idxOf_lt (mem_newestFirst.mpr hx), idxOf_newestFirst hnodup hx]

end Lib
