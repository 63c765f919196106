import Mathlib.Algebra.GroupWithZero.Nat
import Mathlib.Algebra.Order.BigOperators.Group.List
import Mathlib.Algebra.Order.Group.Nat
import Mathlib.Data.List.MinMax

/-!
# Groups that share a capacity

Every group has a day and a size, and `capacity d` is what there is for all of them by day
`d`. A group that takes the capacity of its own day for itself promises the smaller of the
two numbers, and the promises of several groups may count one unit of capacity twice.
`promised_le_iff` says when they do not.
-/

namespace Lib

variable {α δ : Type*} [LinearOrder δ] {expiry : α → δ} {qty : α → ℕ} {capacity : δ → ℕ}

/-- What a group counts on when it takes the capacity of its own day for itself. -/
def promised (expiry : α → δ) (qty : α → ℕ) (capacity : δ → ℕ) (g : α) : ℕ :=
  min (qty g) (capacity (expiry g))

/-- The sum over the groups of the days up to `d`. -/
def upTo (expiry : α → δ) (f : α → ℕ) (d : δ) (gs : List α) : ℕ :=
  ((gs.filter fun g => expiry g ≤ d).map f).sum

/-- The groups whose day has any capacity. -/
def servable (expiry : α → δ) (capacity : δ → ℕ) (gs : List α) : List α :=
  gs.filter fun g => 0 < capacity (expiry g)

/-- The sum, group by group. -/
theorem upTo_cons (f : α → ℕ) (d : δ) (g : α) (gs : List α) :
    upTo expiry f d (g :: gs) = (if expiry g ≤ d then f g else 0) + upTo expiry f d gs := by
  unfold upTo
  by_cases h : expiry g ≤ d
  · simp [h]
  · simp [h]

/-- The order of the groups does not matter. -/
theorem upTo_perm {gs gs' : List α} (h : gs.Perm gs') (f : α → ℕ) (d : δ) :
    upTo expiry f d gs = upTo expiry f d gs' :=
  ((h.filter _).map f).sum_eq

/-- A larger load is larger up to every expiry. -/
theorem upTo_mono {f f' : α → ℕ} {gs : List α} (h : ∀ g ∈ gs, f g ≤ f' g) (d : δ) :
    upTo expiry f d gs ≤ upTo expiry f' d gs :=
  List.sum_le_sum fun g hg => h g (List.mem_of_mem_filter hg)

/-- A group is part of the sum up to its own expiry. -/
theorem le_upTo (f : α → ℕ) {d : δ} {g : α} {gs : List α} (hg : g ∈ gs) (hd : expiry g ≤ d) :
    f g ≤ upTo expiry f d gs := by
  apply List.single_le_sum (fun _ _ => Nat.zero_le _)
  exact List.mem_map_of_mem (List.mem_filter.mpr ⟨hg, decide_eq_true hd⟩)

/-- Nothing has expired yet. -/
theorem upTo_eq_zero {f : α → ℕ} {d : δ} {gs : List α} (h : ∀ g ∈ gs, d < expiry g) :
    upTo expiry f d gs = 0 := by
  unfold upTo
  rw [List.filter_eq_nil_iff.mpr fun g hg => by simpa using h g hg]
  rfl

/-- A group whose day has no capacity promises nothing. -/
theorem upTo_servable (d : δ) (gs : List α) :
    upTo expiry (promised expiry qty capacity) d (servable expiry capacity gs)
      = upTo expiry (promised expiry qty capacity) d gs := by
  induction gs with
  | nil => rfl
  | cons g gs ih =>
    unfold servable at ih ⊢
    by_cases h : 0 < capacity (expiry g)
    · rw [List.filter_cons_of_pos (by simpa using h), upTo_cons, upTo_cons, ih]
    · have hzero : promised expiry qty capacity g = 0 := by
        unfold promised
        omega
      rw [List.filter_cons_of_neg (by simpa using h), upTo_cons, ih, hzero]
      simp

/-- The promises of all groups together stay within the capacity of every day exactly when
the groups whose day has any capacity fit in it whole, but for what the first of them has
over the capacity of its own day. -/
theorem promised_le_iff {days : Set δ} {gs : List α} (hpos : ∀ g ∈ gs, 0 < qty g)
    (hdays : ∀ g ∈ gs, expiry g ∈ days) :
    (∀ d ∈ days, upTo expiry (promised expiry qty capacity) d gs ≤ capacity d) ↔
      ∀ first ∈ servable expiry capacity gs,
        (∀ g ∈ servable expiry capacity gs, expiry first ≤ expiry g) →
        ∀ d ∈ days, upTo expiry qty d (servable expiry capacity gs)
          ≤ capacity d + (qty first - capacity (expiry first)) := by
  -- From here on only the groups that have any capacity count.
  have hall : ∀ d, upTo expiry (promised expiry qty capacity) d gs
      = upTo expiry (promised expiry qty capacity) d (servable expiry capacity gs) := fun d =>
    (upTo_servable d gs).symm
  have hmem : ∀ g ∈ servable expiry capacity gs,
      0 < qty g ∧ expiry g ∈ days ∧ 0 < capacity (expiry g) := by
    intro g hg
    obtain ⟨hgs, hcap⟩ := List.mem_filter.mp hg
    exact ⟨hpos g hgs, hdays g hgs, of_decide_eq_true hcap⟩
  simp only [hall]
  generalize servable expiry capacity gs = few at hmem ⊢
  constructor
  · intro h first hfirst hearliest d hd
    obtain ⟨rest, hperm⟩ : ∃ rest, few.Perm (first :: rest) := by
      obtain ⟨l, r, rfl⟩ := List.append_of_mem hfirst
      exact ⟨l ++ r, List.perm_middle⟩
    by_cases hle : expiry first ≤ d
    · -- Every other group is promised whole: the first one has taken a unit of its day.
      have hwhole : ∀ g ∈ rest, qty g ≤ promised expiry qty capacity g := by
        intro g hg
        have hgs : g ∈ few := hperm.mem_iff.mpr (List.mem_cons_of_mem _ hg)
        have hday := h (expiry g) (hmem g hgs).2.1
        rw [upTo_perm hperm, upTo_cons, if_pos (hearliest g hgs)] at hday
        have hown := le_upTo (promised expiry qty capacity) hg (le_refl (expiry g))
        obtain ⟨hqty, -, hcap⟩ := hmem first hfirst
        unfold promised at hday hown ⊢
        omega
      have hrest : upTo expiry qty d rest ≤ upTo expiry (promised expiry qty capacity) d rest :=
        upTo_mono hwhole d
      have hday := h d hd
      rw [upTo_perm hperm, upTo_cons, if_pos hle] at hday ⊢
      have hfirstPart : promised expiry qty capacity first =
          min (qty first) (capacity (expiry first)) := rfl
      omega
    · have hzero : upTo expiry qty d few = 0 := by
        apply upTo_eq_zero
        intro g hg
        exact lt_of_lt_of_le (not_le.mp hle) (hearliest g hg)
      omega
  · intro h d hd
    by_cases hnone : few = []
    · rw [hnone]
      exact Nat.zero_le _
    obtain ⟨first, hargmin⟩ : ∃ first, few.argmin expiry = some first := by
      cases h : few.argmin expiry with
      | none => exact absurd (List.argmin_eq_none.mp h) hnone
      | some first => exact ⟨first, rfl⟩
    have hfirst : first ∈ few := List.argmin_mem hargmin
    have hearliest : ∀ g ∈ few, expiry first ≤ expiry g := fun g hg =>
      List.le_of_mem_argmin hg hargmin
    obtain ⟨rest, hperm⟩ : ∃ rest, few.Perm (first :: rest) := by
      obtain ⟨l, r, rfl⟩ := List.append_of_mem hfirst
      exact ⟨l ++ r, List.perm_middle⟩
    by_cases hle : expiry first ≤ d
    · have hday := h first hfirst hearliest d hd
      have hrest : upTo expiry (promised expiry qty capacity) d rest ≤ upTo expiry qty d rest :=
        upTo_mono (fun g _ => Nat.min_le_left _ _) d
      rw [upTo_perm hperm, upTo_cons, if_pos hle] at hday ⊢
      unfold promised at hrest ⊢
      omega
    · have hzero : upTo expiry (promised expiry qty capacity) d few = 0 := by
        apply upTo_eq_zero
        intro g hg
        exact lt_of_lt_of_le (not_le.mp hle) (hearliest g hg)
      omega

end Lib
