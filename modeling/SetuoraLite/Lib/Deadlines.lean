import Mathlib.Data.Fintype.EquivFin
import Mathlib.Data.Fin.Tuple.Sort
import Mathlib.Data.Int.LeastGreatest
import Mathlib.Order.Interval.Finset.Fin
import Mathlib.Order.Bounds.Basic

/-!
# Jobs with deadlines

Finitely many jobs, each with a deadline, are served one at a time; `capacity d` is how
many can be served in all by the end of day `d`. The least number of jobs that go
unserved is the largest excess of the jobs due by a day over the capacity of that day
(`isLeast_unserved`).

One direction counts: the jobs due by `d` are unserved or served by `d`. The other one
drops the jobs that are due first and serves the rest in the order of their deadlines,
each on the first day whose capacity reaches it.
-/

namespace Lib

variable {ι δ : Type*} [Fintype ι] [LinearOrder δ]

/-- `served i` is the day job `i` is served on, `none` if it is not: every job in time, and
never more jobs than the capacity allows. -/
structure Feasible (deadline : ι → δ) (capacity : δ → ℕ) (served : ι → Option δ) : Prop where
  in_time : ∀ i, ∀ d ∈ served i, d ≤ deadline i
  in_capacity : ∀ d, (Finset.univ.filter fun i => ∃ t ∈ served i, t ≤ d).card ≤ capacity d

/-- The jobs that are not served. -/
def unserved (served : ι → Option δ) : ℕ := (Finset.univ.filter fun i => served i = none).card

/-- The jobs that are due by a day. -/
def due (deadline : ι → δ) (d : δ) : ℕ := (Finset.univ.filter fun i => deadline i ≤ d).card

variable {deadline : ι → δ} {capacity : δ → ℕ}

/-- A job that is due is not served, or is served by then. -/
theorem Feasible.due_le {served : ι → Option δ} (h : Feasible deadline capacity served) (d : δ) :
    due deadline d ≤ unserved served + capacity d := by
  classical
  calc due deadline d
      ≤ ((Finset.univ.filter fun i => served i = none) ∪
          Finset.univ.filter fun i => ∃ t ∈ served i, t ≤ d).card := by
        apply Finset.card_le_card
        intro i hi
        rw [Finset.mem_filter] at hi
        rw [Finset.mem_union, Finset.mem_filter, Finset.mem_filter]
        cases hs : served i with
        | none => exact Or.inl ⟨Finset.mem_univ i, rfl⟩
        | some t =>
          exact Or.inr ⟨Finset.mem_univ i, t, rfl, (h.in_time i t hs).trans hi.2⟩
    _ ≤ unserved served + (Finset.univ.filter fun i => ∃ t ∈ served i, t ≤ d).card :=
        Finset.card_union_le _ _
    _ ≤ unserved served + capacity d := Nat.add_le_add_left (h.in_capacity d) _

/-- The jobs in the order of their deadlines. -/
theorem exists_rank (deadline : ι → δ) :
    ∃ e : ι ≃ Fin (Fintype.card ι), ∀ i j, e i ≤ e j → deadline i ≤ deadline j := by
  let f := Fintype.equivFin ι
  let σ := Tuple.sort (deadline ∘ f.symm)
  have hsorted : Monotone ((deadline ∘ f.symm) ∘ σ) := Tuple.monotone_sort _
  refine ⟨f.trans σ.symm, fun i j hij => ?_⟩
  have h := hsorted hij
  simpa [Function.comp] using h

/-- The jobs up to one in that order are all due by its deadline. -/
private theorem rank_lt_due {e : ι ≃ Fin (Fintype.card ι)}
    (he : ∀ i j, e i ≤ e j → deadline i ≤ deadline j) (i : ι) :
    (e i : ℕ) + 1 ≤ due deadline (deadline i) := by
  have hcard : (Finset.univ.filter fun j => e j ≤ e i).card = (e i : ℕ) + 1 := by
    rw [← Fin.card_Iic (e i)]
    apply Finset.card_equiv e
    intro j
    simp
  rw [← hcard]
  apply Finset.card_le_card
  intro j hj
  rw [Finset.mem_filter] at hj ⊢
  exact ⟨hj.1, he j i hj.2⟩

/-- `U` unserved jobs are enough when no day has more than `U` jobs due over its capacity. -/
theorem exists_feasible (hmono : Monotone capacity)
    (hfirst : ∀ k, 0 < k → (∃ d, k ≤ capacity d) → ∃ t, IsLeast {d | k ≤ capacity d} t)
    {U : ℕ} (hU : U ≤ Fintype.card ι)
    (hbound : ∀ i, due deadline (deadline i) ≤ capacity (deadline i) + U) :
    ∃ served, Feasible deadline capacity served ∧ unserved served = U := by
  obtain ⟨e, he⟩ := exists_rank deadline
  -- The job of rank `k ≥ U` is the `(k - U + 1)`-th one served.
  have hday : ∀ i, ∃ t, U ≤ (e i : ℕ) → IsLeast {d | (e i : ℕ) - U + 1 ≤ capacity d} t := by
    intro i
    by_cases hi : U ≤ (e i : ℕ)
    · have h₁ := rank_lt_due he i
      have h₂ := hbound i
      obtain ⟨t, ht⟩ := hfirst _ (Nat.succ_pos ((e i : ℕ) - U)) ⟨deadline i, by omega⟩
      exact ⟨t, fun _ => ht⟩
    · exact ⟨deadline i, fun h => absurd h hi⟩
  choose day hleast using hday
  let served : ι → Option δ := fun i => if U ≤ (e i : ℕ) then some (day i) else none
  have hserved : ∀ i t, t ∈ served i → U ≤ (e i : ℕ) ∧ day i = t := by
    intro i t ht
    by_cases hi : U ≤ (e i : ℕ)
    · have hs : served i = some (day i) := if_pos hi
      rw [hs] at ht
      exact ⟨hi, Option.some.inj ht⟩
    · have hs : served i = none := if_neg hi
      rw [hs] at ht
      cases ht
  refine ⟨served, ⟨?_, ?_⟩, ?_⟩
  · intro i t ht
    obtain ⟨hi, rfl⟩ := hserved i t ht
    apply (hleast i hi).2
    have h₁ := rank_lt_due he i
    have h₂ := hbound i
    show (e i : ℕ) - U + 1 ≤ capacity (deadline i)
    omega
  · intro d
    -- By day `d` the ranks from `U` to below `U + capacity d` are served.
    rw [← Finset.card_range (capacity d)]
    apply Finset.card_le_card_of_injOn (fun i => (e i : ℕ) - U)
    · intro i hi
      obtain ⟨-, t, ht, htd⟩ := Finset.mem_filter.mp (Finset.mem_coe.mp hi)
      obtain ⟨hUi, rfl⟩ := hserved i t ht
      have hreach : (e i : ℕ) - U + 1 ≤ capacity (day i) := (hleast i hUi).1
      have hle : capacity (day i) ≤ capacity d := hmono htd
      rw [Finset.mem_coe, Finset.mem_range]
      show (e i : ℕ) - U < capacity d
      omega
    · intro i hi j hj hij
      obtain ⟨-, t, ht, -⟩ := Finset.mem_filter.mp (Finset.mem_coe.mp hi)
      obtain ⟨-, t', ht', -⟩ := Finset.mem_filter.mp (Finset.mem_coe.mp hj)
      have hUi := (hserved i t ht).1
      have hUj := (hserved j t' ht').1
      replace hij : (e i : ℕ) - U = (e j : ℕ) - U := hij
      apply e.injective
      apply Fin.ext
      omega
  · -- The jobs of rank below `U` are left.
    have hcard : (Finset.univ.filter fun k : Fin (Fintype.card ι) => (k : ℕ) < U).card = U := by
      rw [Fin.card_filter_val_lt]
      exact Nat.min_eq_right hU
    show (Finset.univ.filter fun i => served i = none).card = U
    conv_rhs => rw [← hcard]
    apply Finset.card_equiv e
    intro i
    simp only [Finset.mem_filter, Finset.mem_univ, true_and]
    constructor
    · intro hnone
      by_contra hle
      have hs : served i = some (day i) := if_pos (by omega)
      rw [hs] at hnone
      cases hnone
    · intro hlt
      exact if_neg (by omega)

/-- The least number of unserved jobs is the largest excess of the due jobs over the
capacity. -/
theorem isLeast_unserved (hmono : Monotone capacity)
    (hfirst : ∀ k, 0 < k → (∃ d, k ≤ capacity d) → ∃ t, IsLeast {d | k ≤ capacity d} t)
    {U : ℕ} (hbound : ∀ i, due deadline (deadline i) ≤ capacity (deadline i) + U)
    (hattained : U = 0 ∨ ∃ i, due deadline (deadline i) = capacity (deadline i) + U) :
    IsLeast {n | ∃ served, Feasible deadline capacity served ∧ unserved served = n} U := by
  constructor
  · apply exists_feasible hmono hfirst ?_ hbound
    rcases hattained with rfl | ⟨i, hi⟩
    · exact Nat.zero_le _
    · have hall : due deadline (deadline i) ≤ Fintype.card ι := Finset.card_le_univ _
      omega
  · intro n hn
    obtain ⟨served, hfeasible, rfl⟩ := hn
    rcases hattained with rfl | ⟨i, hi⟩
    · exact Nat.zero_le _
    · have h := hfeasible.due_le (deadline i)
      omega

/-- On the integers a capacity that starts at zero reaches every number on a first day. -/
theorem exists_first_day {capacity : ℤ → ℕ} {start : ℤ} (hstart : ∀ d ≤ start, capacity d = 0)
    (k : ℕ) (hk : 0 < k) (hreach : ∃ d, k ≤ capacity d) : ∃ t, IsLeast {d | k ≤ capacity d} t := by
  have hbelow : ∀ d, k ≤ capacity d → start ≤ d := by
    intro d hd
    by_contra hneg
    have := hstart d (by omega)
    omega
  obtain ⟨t, ht, hleast⟩ := Int.exists_least_of_bdd ⟨start, hbelow⟩ hreach
  exact ⟨t, ht, fun d hd => hleast d hd⟩

end Lib
