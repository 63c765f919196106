import Mathlib.Algebra.BigOperators.Group.List.Lemmas
import Mathlib.Algebra.GroupWithZero.Nat
import Mathlib.Data.List.Nodup

/-!
# Counters

`collections.Counter` filled by `counter[key] += 1`: a dict in the order of insertion.
Each key is there once (`counter_nodup`) with the number of times it was counted
(`counter_get`), so a loop over the keys sees every counted element exactly once.

A loop over a `set` sees its elements in an order that nothing fixes: a `SetOrder`.
-/

namespace Lib

variable {κ : Type*} [DecidableEq κ]

/-- `counter[key]`. -/
def Counter.get (c : List (κ × ℕ)) (k : κ) : ℕ := ((c.find? fun e => e.1 = k).map (·.2)).getD 0

/-- The keys, in the order of the dict. -/
def Counter.keys (c : List (κ × ℕ)) : List κ := c.map (·.1)

/-- `counter[key] += 1`. -/
def Counter.add (k : κ) : List (κ × ℕ) → List (κ × ℕ)
  | [] => [(k, 1)]
  | (k', n) :: rest => if k' = k then (k', n + 1) :: rest else (k', n) :: Counter.add k rest

/-- The counter of a list. -/
def counter (xs : List κ) : List (κ × ℕ) := xs.foldl (fun c x => Counter.add x c) []

/-- Counting adds a key at the end, or none. -/
theorem Counter.keys_add (k : κ) (c : List (κ × ℕ)) :
    Counter.keys (Counter.add k c) =
      if k ∈ Counter.keys c then Counter.keys c else Counter.keys c ++ [k] := by
  induction c with
  | nil => rfl
  | cons e c ih =>
    obtain ⟨k', n⟩ := e
    by_cases he : k' = k
    · simp [Counter.add, Counter.keys, he]
    · have hne : k ≠ k' := fun h => he h.symm
      unfold Counter.keys at ih
      by_cases hmem : k ∈ c.map (·.1)
      · simp [Counter.add, Counter.keys, he, hne, ih, hmem]
      · simp [Counter.add, Counter.keys, he, hne, ih, hmem]

/-- Counting adds one for its key. -/
theorem Counter.get_add (k k' : κ) (c : List (κ × ℕ)) :
    Counter.get (Counter.add k c) k' = Counter.get c k' + if k = k' then 1 else 0 := by
  induction c with
  | nil => by_cases he : k = k' <;> simp [Counter.add, Counter.get, he]
  | cons e c ih =>
    obtain ⟨k₀, n⟩ := e
    unfold Counter.get at ih ⊢
    by_cases h₀ : k₀ = k
    · by_cases he : k = k'
      · simp [Counter.add, h₀, he]
      · simp [Counter.add, h₀, he]
    · by_cases hk' : k₀ = k'
      · subst hk'
        have hne : k ≠ k₀ := fun h => h₀ h.symm
        simp [Counter.add, h₀, hne]
      · simpa [Counter.add, h₀, hk'] using ih

/-- A pair of a counter is found under its key. -/
theorem Counter.get_of_mem {c : List (κ × ℕ)} (h : (Counter.keys c).Nodup) {e : κ × ℕ}
    (he : e ∈ c) :
    Counter.get c e.1 = e.2 := by
  induction c with
  | nil => exact absurd he List.not_mem_nil
  | cons e' c ih =>
    obtain ⟨hfirst, hrest⟩ := List.nodup_cons.mp h
    rcases List.mem_cons.mp he with rfl | hmem
    · simp [Counter.get]
    · have hne : e'.1 ≠ e.1 := by
        intro heq
        apply hfirst
        show e'.1 ∈ c.map (·.1)
        rw [heq]
        exact List.mem_map_of_mem hmem
      have hget := ih hrest hmem
      unfold Counter.get at hget ⊢
      simpa [hne] using hget

theorem counter_snoc (xs : List κ) (x : κ) : counter (xs ++ [x]) = Counter.add x (counter xs) := by
  unfold counter
  rw [List.foldl_append]
  rfl

/-- An element is counted as often as it occurs. -/
theorem counter_get (xs : List κ) (k : κ) : Counter.get (counter xs) k = xs.count k := by
  induction xs using List.reverseRecOn with
  | nil => rfl
  | append_singleton xs x ih =>
    rw [counter_snoc, Counter.get_add, ih, List.count_append, List.count_singleton]
    simp [beq_iff_eq]

theorem counter_mem {xs : List κ} {k : κ} : k ∈ Counter.keys (counter xs) ↔ k ∈ xs := by
  induction xs using List.reverseRecOn with
  | nil => simp [counter, Counter.keys]
  | append_singleton xs x ih =>
    rw [counter_snoc, Counter.keys_add]
    split
    next h =>
      rw [ih, List.mem_append, List.mem_singleton]
      constructor
      · exact Or.inl
      · rintro (hk | rfl)
        · exact hk
        · exact ih.mp h
    next => rw [List.mem_append, List.mem_append, ih]

theorem counter_nodup (xs : List κ) : (Counter.keys (counter xs)).Nodup := by
  induction xs using List.reverseRecOn with
  | nil => simp [counter, Counter.keys]
  | append_singleton xs x ih =>
    rw [counter_snoc, Counter.keys_add]
    split
    · exact ih
    next h =>
      refine List.nodup_append.mpr ⟨ih, List.nodup_singleton x, fun a ha b hb => ?_⟩
      obtain rfl := List.mem_singleton.mp hb
      exact fun he => h (he ▸ ha)

/-- The counts of some of the keys add up to the occurrences of those keys. -/
theorem counter_sum (xs : List κ) (p : κ → Bool) :
    (((Counter.keys (counter xs)).filter p).map (Counter.get (counter xs))).sum = xs.countP p := by
  have hperm : (Counter.keys (counter xs)).Perm xs.dedup := by
    rw [List.perm_ext_iff_of_nodup (counter_nodup xs) xs.nodup_dedup]
    intro k
    rw [counter_mem, List.mem_dedup]
  rw [← List.sum_map_count_dedup_filter_eq_countP p xs, ((hperm.filter p).map _).sum_eq]
  congr 1
  exact List.map_congr_left fun k _ => counter_get xs k

/-- A counter is its keys, each with its count. -/
theorem counter_eq_map (xs : List κ) :
    counter xs = (Counter.keys (counter xs)).map fun k => (k, xs.count k) := by
  have hnodup := counter_nodup xs
  have hcounts : ∀ e ∈ counter xs, e = (e.1, xs.count e.1) := by
    intro e he
    rw [← counter_get, Counter.get_of_mem hnodup he]
  unfold Counter.keys
  rw [List.map_map]
  calc counter xs = (counter xs).map id := (List.map_id _).symm
    _ = (counter xs).map ((fun k => (k, xs.count k)) ∘ fun e => e.1) :=
        List.map_congr_left fun e he => hcounts e he

/-- Counting in another order gives the same counts. -/
theorem counter_perm {xs ys : List κ} (h : xs.Perm ys) : (counter xs).Perm (counter ys) := by
  have hkeys : (Counter.keys (counter xs)).Perm (Counter.keys (counter ys)) := by
    rw [List.perm_ext_iff_of_nodup (counter_nodup xs) (counter_nodup ys)]
    intro k
    rw [counter_mem, counter_mem, h.mem_iff]
  rw [counter_eq_map xs, counter_eq_map ys]
  have hcount : (fun k => (k, xs.count k)) = fun k => (k, ys.count k) := by
    funext k
    rw [h.count_eq]
  rw [hcount]
  exact hkeys.map _

private theorem sum_indicator (x : κ) (ks : List κ) :
    (ks.map fun k => if x = k then 1 else 0).sum = ks.count x := by
  induction ks with
  | nil => rfl
  | cons k ks ih =>
    rw [List.map_cons, List.sum_cons, ih, List.count_cons]
    by_cases hk : x = k
    · simp [hk, Nat.add_comm]
    · have hne : k ≠ x := fun h => hk h.symm
      simp [hk, hne]

/-- Over any distinct keys that include the counted ones, the counts of some of the keys add up
to the occurrences of those keys. -/
theorem sum_count_of_nodup {xs keys : List κ} (hkeys : keys.Nodup) (h : ∀ x ∈ xs, x ∈ keys)
    (p : κ → Bool) :
    ((keys.filter p).map fun k => xs.count k).sum = xs.countP p := by
  induction xs with
  | nil => simp
  | cons x xs ih =>
    have hx : x ∈ keys := h x List.mem_cons_self
    have hrest := ih fun y hy => h y (List.mem_cons_of_mem x hy)
    -- The new element adds one to the count of its own key.
    have hone : ((keys.filter p).map fun k => if x = k then 1 else 0).sum =
        if p x = true then 1 else 0 := by
      rw [sum_indicator]
      by_cases hp : p x = true
      · rw [if_pos hp]
        exact List.count_eq_one_of_mem (hkeys.filter p) (List.mem_filter.mpr ⟨hx, hp⟩)
      · rw [if_neg hp]
        exact List.count_eq_zero.mpr fun hmem => hp (List.mem_filter.mp hmem).2
    have hsplit : ((keys.filter p).map fun k => (x :: xs).count k).sum
        = ((keys.filter p).map fun k => xs.count k).sum
          + ((keys.filter p).map fun k => if x = k then 1 else 0).sum := by
      rw [← List.sum_map_add]
      congr 1
      refine List.map_congr_left fun k _ => ?_
      rw [List.count_cons]
      simp [beq_iff_eq]
    rw [hsplit, hrest, hone, List.countP_cons]

/-! ## Sets -/

/-- The order in which a set of elements is gone through. -/
structure SetOrder (κ : Type*) where
  order : List κ → List κ
  perm : ∀ xs, (order xs).Perm xs

end Lib
