import Mathlib.Data.List.Sort
import Mathlib.Data.Rat.Floor
import SetuoraLite.Lib.Counter
import SetuoraLite.Lib.Deadlines
import SetuoraLite.Lib.Text

/-!
# What will be left when it expires

`_expiry_projection` of the stock movement report: one pass over the expiry dates of a
product's stock, from the first to the last, that keeps the largest excess of the units
expired by a date over the sales projected until then.

A date is the number of its day (`date.toordinal()`), which is what Python compares and
subtracts. The rate of sale is the exact rational.

`expiryProjection_optimal` says what the number means: it is the least number of units
that any way of selling them leaves.
-/

namespace SetuoraLite

open Lib

/-- What `_expiry_projection` returns. -/
structure ExpiryProjection where
  risk : PyStr
  css : PyStr
  estimatedUnsold : ℤ
  nearest : Option ℤ
  monthsRemaining : Option ℚ
deriving DecidableEq

/-- One round of the loop over the expiry dates, on `(cumulative, estimated_unsold)`. -/
def projectionRound (expiryQuantities : List (ℤ × ℕ)) (dailySales : ℚ) (asOf : ℤ)
    (acc : ℕ × ℤ) (expiry : ℤ) : ℕ × ℤ :=
  let cumulative := acc.1 + Counter.get expiryQuantities expiry
  let availableDays := max (expiry - asOf) 0
  let projectedSales := ⌊dailySales * availableDays⌋
  (cumulative, max acc.2 (cumulative - projectedSales))

/-- `_expiry_projection`. -/
def expiryProjection (expiryQuantities : List (ℤ × ℕ)) (dailySales : ℚ) (asOf : ℤ) :
    ExpiryProjection :=
  match (Counter.keys expiryQuantities).min? with
  | none => ⟨py "Not applicable", [], 0, none, none⟩
  | some nearest =>
    let nearestDays := nearest - asOf
    let months : ℚ := nearestDays / 30
    let estimatedUnsold := (((Counter.keys expiryQuantities).insertionSort (· ≤ ·)).foldl
      (projectionRound expiryQuantities dailySales asOf) (0, 0)).2
    if 0 < estimatedUnsold then
      ⟨py "High Expiry Risk", py "failed", estimatedUnsold, some nearest, some months⟩
    else
      let expiringStock := (expiryQuantities.map (·.2)).sum
      if dailySales ≠ 0 ∧ 0 < nearestDays ∧
        (expiringStock : ℚ) / dailySales ≥ nearestDays * (4 / 5) then
        ⟨py "Watch", py "pending_sync", 0, some nearest, some months⟩
      else ⟨py "Safe", py "synced", 0, some nearest, some months⟩

/-! ## The loop -/

/-- The units up to an expiry date, over the sales projected until then. -/
def excessAt (q : List (ℤ × ℕ)) (dailySales : ℚ) (asOf : ℤ) (done : List ℤ) (expiry : ℤ) : ℤ :=
  (((done ++ [expiry]).map (Counter.get q)).sum : ℤ) - ⌊dailySales * (max (expiry - asOf) 0 : ℤ)⌋

/-- The estimate after the loop is the largest excess of a prefix, or zero. -/
private theorem rounds_spec (q : List (ℤ × ℕ)) (dailySales : ℚ) (asOf : ℤ) (keys : List ℤ) :
    let last := keys.foldl (projectionRound q dailySales asOf) (0, 0)
    last.1 = (keys.map (Counter.get q)).sum ∧ 0 ≤ last.2 ∧
      (∀ done expiry rest, keys = done ++ expiry :: rest →
        excessAt q dailySales asOf done expiry ≤ last.2) ∧
      (last.2 = 0 ∨ ∃ done expiry rest, keys = done ++ expiry :: rest ∧
        last.2 = excessAt q dailySales asOf done expiry) := by
  induction keys using List.reverseRecOn with
  | nil => exact ⟨rfl, le_refl _, fun done _ _ h => by simp at h, Or.inl rfl⟩
  | append_singleton keys last ih =>
    dsimp only at ih ⊢
    obtain ⟨hsum, hnonneg, hbound, hattained⟩ := ih
    rw [List.foldl_append, List.foldl_cons, List.foldl_nil]
    generalize keys.foldl (projectionRound q dailySales asOf) (0, 0) = acc at *
    have hround : (projectionRound q dailySales asOf acc last).2
        = max acc.2 (excessAt q dailySales asOf keys last) := by
      unfold projectionRound excessAt
      dsimp only
      rw [hsum]
      simp
    refine ⟨?_, ?_, ?_, ?_⟩
    · unfold projectionRound
      simp [hsum]
    · rw [hround]
      exact le_max_of_le_left hnonneg
    · intro done expiry rest hsplit
      rw [hround]
      -- The prefix ends before the last key, or is the whole list.
      rcases List.eq_nil_or_concat' rest with rfl | ⟨rest', l, rfl⟩
      · obtain ⟨rfl, rfl⟩ := List.append_singleton_inj.mp hsplit
        exact le_max_right _ _
      · rw [← List.cons_append, ← List.append_assoc] at hsplit
        obtain ⟨rfl, -⟩ := List.append_singleton_inj.mp hsplit
        exact le_max_of_le_left (hbound done expiry rest' rfl)
    · rw [hround]
      rcases max_choice acc.2 (excessAt q dailySales asOf keys last) with h | h
      · rw [h]
        rcases hattained with hzero | ⟨done, expiry, rest, rfl, he⟩
        · exact Or.inl hzero
        · exact Or.inr ⟨done, expiry, rest ++ [last], by simp, he⟩
      · rw [h]
        exact Or.inr ⟨keys, last, [], rfl, rfl⟩

/-- The estimate is what the loop ends with. -/
private theorem expiryProjection_unsold (q : List (ℤ × ℕ)) (dailySales : ℚ) (asOf : ℤ) :
    (expiryProjection q dailySales asOf).estimatedUnsold =
      (((Counter.keys q).insertionSort (· ≤ ·)).foldl (projectionRound q dailySales asOf)
          (0, 0)).2 := by
  have hnonneg := (rounds_spec q dailySales asOf ((Counter.keys q).insertionSort (· ≤ ·))).2.1
  unfold expiryProjection
  cases hmin : (Counter.keys q).min? with
  | none =>
    have hempty : Counter.keys q = [] := List.min?_eq_none_iff.mp hmin
    rw [hempty]
    rfl
  | some nearest =>
    dsimp only at hnonneg ⊢
    split
    · rfl
    · split
      · show (0 : ℤ) = _
        omega
      · show (0 : ℤ) = _
        omega

/-! ## The stock and its expiry dates -/

/-- How many of the units expire by a day. -/
private theorem due_eq_countP (dates : List ℤ) (d : ℤ) :
    due (fun i : Fin dates.length => dates.get i) d = dates.countP (· ≤ d) := by
  unfold due
  calc (Finset.univ.filter fun i : Fin dates.length => dates.get i ≤ d).card
      = Multiset.countP (· ≤ d) ((Finset.univ : Finset (Fin dates.length)).val.map dates.get) := by
        rw [Multiset.countP_map]
        rfl
    _ = dates.countP (· ≤ d) := by
        rw [Fin.univ_val_map, List.ofFn_get, Multiset.coe_countP]

/-- In the sorted list of the keys, the ones up to a key are the ones not above it. -/
private theorem prefix_eq_filter {keys done rest : List ℤ} {e : ℤ}
    (hnodup : keys.Nodup) (h : keys.insertionSort (· ≤ ·) = done ++ e :: rest) :
    (done ++ [e]).Perm (keys.filter (· ≤ e)) := by
  have hperm : (keys.insertionSort (· ≤ ·)).Perm keys := List.perm_insertionSort _ keys
  have hsorted : (keys.insertionSort (· ≤ ·)).Pairwise (· ≤ ·) := List.pairwise_insertionSort _ keys
  have hdistinct : (keys.insertionSort (· ≤ ·)).Nodup := hperm.nodup_iff.mpr hnodup
  rw [h] at hperm hsorted hdistinct
  have hbefore : ∀ d ∈ done, d ≤ e := fun d hd =>
    (List.pairwise_append.mp hsorted).2.2 d hd e List.mem_cons_self
  have hafter : ∀ d ∈ rest, ¬ d ≤ e := by
    intro d hd hle
    have htail := (List.pairwise_append.mp hsorted).2.1
    have hge : e ≤ d := (List.pairwise_cons.mp htail).1 d hd
    obtain rfl : d = e := le_antisymm hle hge
    exact (List.nodup_cons.mp (List.nodup_append.mp hdistinct).2.1).1 hd
  have hcut : (done ++ e :: rest).filter (· ≤ e) = done ++ [e] := by
    rw [List.filter_append, List.filter_cons_of_pos (by simp),
      List.filter_eq_self.mpr fun d hd => by simpa using hbefore d hd,
      List.filter_eq_nil_iff.mpr fun d hd => by simpa using hafter d hd]
  rw [← hcut]
  exact hperm.filter _

/-! ## Optimality -/

/-- What the rate allows to be sold in all by a day. -/
def salesBy (dailySales : ℚ) (asOf d : ℤ) : ℕ := ⌊dailySales * (max (d - asOf) 0 : ℤ)⌋₊

private theorem salesBy_floor {dailySales : ℚ} (h : 0 ≤ dailySales) (asOf d : ℤ) :
    (salesBy dailySales asOf d : ℤ) = ⌊dailySales * (max (d - asOf) 0 : ℤ)⌋ := by
  apply Int.natCast_floor_eq_floor
  apply mul_nonneg h
  exact_mod_cast le_max_right (d - asOf) 0

private theorem salesBy_mono {dailySales : ℚ} (h : 0 ≤ dailySales) (asOf : ℤ) :
    ∀ d d' : ℤ, d ≤ d' → salesBy dailySales asOf d ≤ salesBy dailySales asOf d' := by
  intro d d' hd
  apply Nat.floor_mono
  apply mul_le_mul_of_nonneg_left _ h
  exact_mod_cast max_le_max_right 0 (Int.sub_le_sub_right hd asOf)

private theorem salesBy_start (dailySales : ℚ) (asOf : ℤ) :
    ∀ d ≤ asOf, salesBy dailySales asOf d = 0 := by
  intro d hd
  have hzero : max (d - asOf) 0 = 0 := max_eq_right (by omega)
  unfold salesBy
  rw [hzero]
  simp

/-- The estimate is the least number of units left unsold: a unit is sold on or before its
expiry date or not at all, and by any day no more units are sold than the rate allows. -/
theorem expiryProjection_optimal (dates : List ℤ) (dailySales : ℚ) (asOf : ℤ)
    (hrate : 0 ≤ dailySales) :
    IsLeast {n : ℤ | ∃ sold : Fin dates.length → Option ℤ,
        Feasible (fun i => dates.get i) (salesBy dailySales asOf) sold ∧ (unserved sold : ℤ) = n}
      (expiryProjection (counter dates) dailySales asOf).estimatedUnsold := by
  obtain ⟨-, hnonneg, hbound, hattained⟩ := rounds_spec (counter dates) dailySales asOf
    ((Counter.keys (counter dates)).insertionSort (· ≤ ·))
  rw [← expiryProjection_unsold] at hnonneg hbound hattained
  generalize (expiryProjection (counter dates) dailySales asOf).estimatedUnsold = unsold at *
  obtain ⟨U, rfl⟩ := Int.eq_ofNat_of_zero_le hnonneg
  -- The units up to a key of the loop are the units that expire by it.
  have hexcess : ∀ done e rest,
      (Counter.keys (counter dates)).insertionSort (· ≤ ·) = done ++ e :: rest →
      excessAt (counter dates) dailySales asOf done e
        = due (fun i : Fin dates.length => dates.get i) e - salesBy dailySales asOf e := by
    intro done e rest h
    unfold excessAt
    rw [due_eq_countP, ← counter_sum, ((prefix_eq_filter (counter_nodup dates) h).map _).sum_eq,
      salesBy_floor hrate]
  have hleast : IsLeast {n : ℕ | ∃ sold : Fin dates.length → Option ℤ,
      Feasible (fun i => dates.get i) (salesBy dailySales asOf) sold ∧ unserved sold = n} U := by
    apply isLeast_unserved (fun d d' hd => salesBy_mono hrate asOf d d' hd)
      (exists_first_day (salesBy_start dailySales asOf))
    · intro i
      have hmem : dates.get i ∈ (Counter.keys (counter dates)).insertionSort (· ≤ ·) :=
        (List.perm_insertionSort _ _).mem_iff.mpr (counter_mem.mpr (List.get_mem dates i))
      obtain ⟨done, rest, hsplit⟩ := List.append_of_mem hmem
      have h := hbound done _ rest hsplit
      rw [hexcess done _ rest hsplit] at h
      omega
    · rcases hattained with hzero | ⟨done, e, rest, hsplit, he⟩
      · exact Or.inl (by exact_mod_cast hzero)
      · have hmem : e ∈ dates := by
          apply counter_mem.mp
          apply (List.perm_insertionSort (· ≤ ·) _).mem_iff.mp
          rw [hsplit]
          simp
        obtain ⟨i, rfl⟩ := List.get_of_mem hmem
        refine Or.inr ⟨i, ?_⟩
        rw [hexcess done _ rest hsplit] at he
        omega
  constructor
  · obtain ⟨sold, hfeasible, hcount⟩ := hleast.1
    exact ⟨sold, hfeasible, by rw [hcount]⟩
  · intro n hn
    obtain ⟨sold, hfeasible, rfl⟩ := hn
    exact_mod_cast hleast.2 ⟨sold, hfeasible, rfl⟩

/-- Eight units that expire in 150 days, at one sale in thirty days: three are left. -/
theorem expiryProjection_optimal_eight :
    IsLeast {n : ℤ | ∃ sold : Fin 8 → Option ℤ,
        Feasible (fun _ => (739944 : ℤ)) (salesBy (1 / 30) 739794) sold ∧
        (unserved sold : ℤ) = n} 3 := by
  have h := expiryProjection_optimal (List.replicate 8 739944) (1 / 30) 739794 (by norm_num)
  have hvalue :
      (expiryProjection (counter (List.replicate 8 739944)) (1 / 30) 739794).estimatedUnsold =
      3 := by
    decide +kernel
  rw [hvalue] at h
  have hdates : (fun i : Fin (List.replicate 8 (739944 : ℤ)).length =>
      (List.replicate 8 (739944 : ℤ)).get i) = fun _ => 739944 := by
    funext i
    exact List.eq_of_mem_replicate (List.get_mem _ i)
  rw [hdates] at h
  exact h

end SetuoraLite
