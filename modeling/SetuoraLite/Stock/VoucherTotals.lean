import Mathlib.Algebra.Order.BigOperators.Group.List
import SetuoraLite.Lib.Counter
import SetuoraLite.Stock.LinePrices

/-!
# The totals of a voucher

The lines of a voucher are made of counts: how many items of the batch have a product, a
rate and a discount. So another order of the items gives the same lines in another order
(`voucher_lines_perm`), and as long as 28 digits hold every sum in paise
(`SmallAmounts`) the same totals.

The total is rounded to whole rupees, half up, and the rounding is written out as the
round-off: `voucher_totals`.
-/

namespace SetuoraLite

open Lib

/-! ## The lines -/

/-- An item of another key leaves the group alone. -/
private theorem addToGroups_ne {g : ItemGroup} {groups : List ItemGroup} {l : LoadedItem}
    (h : g.key ≠ l.group.key) : addToGroups (g :: groups) l = g :: addToGroups groups l := by
  unfold addToGroups
  by_cases hany : groups.any fun g => g.key = l.group.key
  · rw [if_pos hany, if_pos (by rw [List.any_cons, hany, Bool.or_true]), List.map_cons, if_neg h]
  · have hcons : ¬ (g :: groups).any fun g => g.key = l.group.key := by
      rw [List.any_cons, Bool.or_eq_true, not_or]
      exact ⟨by simpa using h, hany⟩
    rw [if_neg hany, if_neg hcons]
    rfl

/-- An item counts in the group of its key. -/
private theorem addToGroups_counter {groups : List ItemGroup} (hnodup : (groups.map (·.key)).Nodup)
    (l : LoadedItem) :
    (addToGroups groups l).map (fun g => (g.key, g.quantity))
      = Counter.add l.group.key (groups.map fun g => (g.key, g.quantity)) := by
  induction groups with
  | nil => rfl
  | cons g groups ih =>
    obtain ⟨hfirst, hrest⟩ := List.nodup_cons.mp hnodup
    rw [List.map_cons, Counter.add]
    by_cases heq : g.key = l.group.key
    · -- No other group has the key.
      have hothers : groups.map (fun g => if g.key = l.group.key then
          { g with quantity := g.quantity + 1, serials := g.serials ++ [l.serial.serialNumber] }
            else g)
            = groups := by
        conv_rhs => rw [← List.map_id groups]
        apply List.map_congr_left
        intro g' hg'
        apply if_neg
        intro heq'
        apply hfirst
        show g.key ∈ groups.map (·.key)
        rw [heq, ← heq']
        exact List.mem_map_of_mem hg'
      unfold addToGroups
      rw [if_pos (by rw [List.any_cons, decide_eq_true heq, Bool.true_or]), List.map_cons,
        if_pos heq,
        hothers, List.map_cons, if_pos heq]
      rfl
    · rw [addToGroups_ne heq, List.map_cons, ih hrest, if_neg heq]

/-- The keys of the groups with their quantities are the counter of the items' keys. -/
theorem groups_counter (items : List LoadedItem) :
    (groupBatchItems items).map (fun g => (g.key, g.quantity)) =
        counter (items.map (·.group.key)) := by
  induction items using List.reverseRecOn with
  | nil => rfl
  | append_singleton items l ih =>
    have hstep : groupBatchItems (items ++ [l]) = addToGroups (groupBatchItems items) l := by
      unfold groupBatchItems
      rw [List.foldl_append]
      rfl
    have hnodup := counter_nodup (items.map (·.group.key))
    rw [← ih] at hnodup
    unfold Counter.keys at hnodup
    rw [List.map_map] at hnodup
    rw [hstep, List.map_append, List.map_singleton, counter_snoc, ← ih]
    exact addToGroups_counter hnodup l

/-- The product of a group is the product of one of the items. -/
theorem groups_product {db : Db} {items : List LoadedItem}
    (hread : ∀ l ∈ items, db.product l.product.id = some l.product) :
    ∀ g ∈ groupBatchItems items, db.product g.product.id = some g.product := by
  induction items using List.reverseRecOn with
  | nil => exact fun g hg => absurd hg List.not_mem_nil
  | append_singleton items l ih =>
    intro g hg
    have hstep : groupBatchItems (items ++ [l]) = addToGroups (groupBatchItems items) l := by
      unfold groupBatchItems
      rw [List.foldl_append]
      rfl
    have hbefore := ih fun l hl => hread l (List.mem_append_left _ hl)
    rw [hstep] at hg
    unfold addToGroups at hg
    split at hg
    · obtain ⟨g', hg', rfl⟩ := List.mem_map.mp hg
      split
      · exact hbefore g' hg'
      · exact hbefore g' hg'
    · rcases List.mem_append.mp hg with hmem | hmem
      · exact hbefore g hmem
      · obtain rfl := List.mem_singleton.mp hmem
        exact hread l (by simp)

/-- The line of a key and a count. -/
def countedLine (rt : Runtime) (db : Db) (batch : Batch) (group : (Nat × PyFloat × PyFloat) × ℕ) :
    Except PyError VoucherLine :=
  match db.product group.1.1 with
  | none => .error .noneType
  | some product => voucherLine rt batch ⟨product, group.2, [], group.1.2.1, group.1.2.2⟩

/-- `value or 0` is the same money. -/
theorem money_orZero (value : PyFloat) : money value.orZero = money value := by
  unfold PyFloat.orZero
  split
  · rfl
  next hfalsy =>
    cases value with
    | nan => exact absurd rfl hfalsy
    | inf neg => exact absurd rfl hfalsy
    | finite neg d =>
      have hzero : d.digits = 0 := by
        by_contra hne
        exact hfalsy (decide_eq_true hne)
      have hzeros : (PyFloat.finite neg d).toRat? = PyFloat.zero.toRat? := by
        unfold PyFloat.zero PyFloat.toRat?
        dsimp only
        rw [hzero]
        simp [Dec.zero]
      unfold money
      rw [hzeros]

/-- A line depends on nothing else of a group. -/
theorem voucherLine_eq (rt : Runtime) {db : Db} (batch : Batch) {g : ItemGroup}
    (h : db.product g.product.id = some g.product) :
    voucherLine rt batch g = countedLine rt db batch (g.key, g.quantity) := by
  have hrate : money g.rate = money g.rate.orZero := (money_orZero g.rate).symm
  have hdiscount : lineDiscount batch g
      = lineDiscount batch
          ⟨g.product, g.quantity, [], g.rate.orZero, g.salesDiscountRate.orZero⟩ := by
    unfold lineDiscount
    rw [money_orZero]
  unfold countedLine ItemGroup.key
  dsimp only
  rw [h]
  unfold voucherLine
  dsimp only
  rw [hrate, hdiscount]

/-- The lines are those of the counted keys. -/
theorem voucher_lines_counted {rt : Runtime} {db : Db} {batch : Batch} {items : List LoadedItem}
    (hread : ∀ l ∈ items, db.product l.product.id = some l.product) :
    (groupBatchItems items).mapM (voucherLine rt batch)
      = (counter (items.map (·.group.key))).mapM (countedLine rt db batch) := by
  rw [← groups_counter, List.mapM_map]
  apply except_mapM_congr
  intro g hg
  exact voucherLine_eq rt batch (groups_product hread g hg)

/-- Another order of the items gives the same lines in another order. -/
theorem voucher_lines_perm {rt : Runtime} {db : Db} {batch : Batch} {items items' : List LoadedItem}
    {lines : List VoucherLine} (hperm : items'.Perm items)
    (hread : ∀ l ∈ items, db.product l.product.id = some l.product)
    (h : (groupBatchItems items).mapM (voucherLine rt batch) = .ok lines) :
    ∃ lines', (groupBatchItems items').mapM (voucherLine rt batch) = .ok lines' ∧
      lines'.Perm lines := by
  rw [voucher_lines_counted hread] at h
  rw [voucher_lines_counted fun l hl => hread l (hperm.mem_iff.mp hl)]
  exact except_mapM_perm (counter_perm (hperm.map _)) h

/-! ## Exact sums -/

/-- The sum of the magnitudes of a line's amounts. -/
def lineMagnitude (line : VoucherLine) : ℚ :=
  |line.taxableValue| + |line.cgstAmount| + |line.sgstAmount| + |line.igstAmount|

/-- The batch can be priced, and 28 digits hold all of its amounts in paise at once, with a
rupee to spare for the round-off. -/
def SmallAmounts (rt : Runtime) (loaded : LoadedBatch) : Prop :=
  ∃ lines, (groupBatchItems loaded.items).mapM (voucherLine rt loaded.batch) = .ok lines ∧
    (lines.map lineMagnitude).sum ≤ 10 ^ 26 - 1

/-- The proviso, over the lines that are computed. -/
theorem smallAmounts_iff {rt : Runtime} {loaded : LoadedBatch} : SmallAmounts rt loaded ↔
    ((groupBatchItems loaded.items).mapM (voucherLine rt loaded.batch)).toOption.any
      (fun lines => (lines.map lineMagnitude).sum ≤ 10 ^ 26 - 1) = true := by
  unfold SmallAmounts
  cases (groupBatchItems loaded.items).mapM (voucherLine rt loaded.batch) with
  | error e => simp [Except.toOption]
  | ok lines => simp [Except.toOption]

instance (rt : Runtime) (loaded : LoadedBatch) : Decidable (SmallAmounts rt loaded) :=
  decidable_of_iff _ smallAmounts_iff.symm

/-- A sum is at most the sum of its magnitudes. -/
private theorem abs_sum_le (xs : List ℚ) : |xs.sum| ≤ (xs.map fun x => |x|).sum := by
  induction xs with
  | nil => simp
  | cons x xs ih =>
    rw [List.sum_cons, List.map_cons, List.sum_cons]
    exact le_trans (abs_add_le x xs.sum) (by linarith)

/-- A sum of values on the grid is on the grid. -/
private theorem onGrid_sum {e : ℤ} {xs : List ℚ} (h : ∀ x ∈ xs, OnGrid e x) : OnGrid e xs.sum := by
  induction xs with
  | nil => exact OnGrid.zero e
  | cons x xs ih =>
    rw [List.sum_cons]
    exact (h x List.mem_cons_self).add (ih fun y hy => h y (List.mem_cons_of_mem _ hy))

/-- The running total of amounts in paise is their sum. -/
theorem runningTotal_exact {xs : List ℚ} (h : ∀ x ∈ xs, TwoPlaces x)
    (hsmall : (xs.map fun x => |x|).sum ≤ 10 ^ 26) : runningTotal xs = xs.sum := by
  induction xs using List.reverseRecOn with
  | nil => rfl
  | append_singleton xs x ih =>
    rw [List.map_append, List.sum_append, List.map_singleton, List.sum_singleton] at hsmall
    have hlast := abs_nonneg x
    have hrest := ih (fun y hy => h y (List.mem_append_left _ hy)) (by linarith)
    have hstep : runningTotal (xs ++ [x]) = inContext (runningTotal xs + x) := by
      unfold runningTotal
      rw [List.foldl_append]
      rfl
    rw [hstep, hrest, List.sum_append, List.sum_singleton]
    apply inContext_exact
      ((onGrid_sum fun y hy => h y (List.mem_append_left _ hy)).add (h x (by simp)))
    have hpow : (10 : ℚ) ^ (-2 + 28 : ℤ) = 10 ^ 26 := by norm_num
    have hsum := abs_sum_le xs
    have htriangle := abs_add_le xs.sum x
    rw [hpow]
    linarith

private theorem saleTaxableValue_twoPlaces {total gstRate t : ℚ}
    (h : saleTaxableValue total gstRate = .ok t) : TwoPlaces t := by
  unfold saleTaxableValue at h
  split at h
  · exact (quantized_spec h).1
  · exact (quantized_spec h).1

/-- The amounts of a line's tax are in paise. -/
private theorem lineTax_amounts {rt : Runtime} {batch : Batch} {productGstRate amount : ℚ}
    {tax : LineTax} (hamount : TwoPlaces amount)
    (h : lineTax rt batch productGstRate amount = .ok tax) :
    TwoPlaces tax.taxableValue ∧ TwoPlaces tax.cgstAmount ∧ TwoPlaces tax.sgstAmount ∧
      TwoPlaces tax.igstAmount := by
  -- The split of a tax is on the grid whatever the rate.
  have hsplit : ∀ {gstRate taxable}, TwoPlaces taxable → splitTax gstRate taxable = .ok tax →
      TwoPlaces tax.taxableValue ∧ TwoPlaces tax.cgstAmount ∧ TwoPlaces tax.sgstAmount ∧
        TwoPlaces tax.igstAmount := by
    intro gstRate taxable ht hsplit
    unfold splitTax at hsplit
    obtain ⟨half, -, hsplit⟩ := except_bind_ok.mp hsplit
    obtain ⟨halfTax, hhalfTax, hsplit⟩ := except_bind_ok.mp hsplit
    obtain rfl := Except.ok.inj hsplit
    exact ⟨ht, (quantized_spec hhalfTax).1, (quantized_spec hhalfTax).1, OnGrid.zero _⟩
  -- By the tax mode: one tax, or two halves.
  unfold lineTax at h
  split at h
  · obtain ⟨igstRate, -, h⟩ := except_bind_ok.mp h
    obtain ⟨taxable, htaxable, h⟩ := except_bind_ok.mp h
    obtain ⟨igst, higst, h⟩ := except_bind_ok.mp h
    obtain rfl := Except.ok.inj h
    exact ⟨saleTaxableValue_twoPlaces htaxable, OnGrid.zero _, OnGrid.zero _,
      (quantized_spec higst).1⟩
  · split at h
    · obtain ⟨gstRate, -, h⟩ := except_bind_ok.mp h
      obtain ⟨taxable, htaxable, h⟩ := except_bind_ok.mp h
      exact hsplit (saleTaxableValue_twoPlaces htaxable) h
    · obtain ⟨taxable, htaxable, h⟩ := except_bind_ok.mp h
      unfold taxableOf at htaxable
      split at htaxable
      · exact hsplit (saleTaxableValue_twoPlaces htaxable) h
      · obtain rfl := Except.ok.inj htaxable
        exact hsplit hamount h

/-- A sum in paise that 28 digits hold is not rounded. -/
theorem inContext_paise {x : ℚ} (hx : TwoPlaces x) (h : |x| ≤ 10 ^ 26) : inContext x = x := by
  apply inContext_exact hx
  have hpow : (10 : ℚ) ^ (-2 + 28 : ℤ) = 10 ^ 26 := by norm_num
  rwa [hpow]

/-- Rounding leaves a small amount in paise alone. -/
theorem quantized_paise {x : ℚ} (hx : TwoPlaces x) (h : |x| < 10 ^ 26) : quantized x = .ok x := by
  have hpow : (10 : ℚ) ^ (28 - ((2 : ℕ) : ℤ)) = 10 ^ 26 := by norm_num
  unfold quantized
  rw [quantizeHalfUp_of_onGrid hx (by rwa [hpow])]
  rfl

/-- The amounts of a line are in paise, and its total is their sum. -/
theorem voucherLine_amounts {rt : Runtime} {batch : Batch} {g : ItemGroup} {line : VoucherLine}
    (h : voucherLine rt batch g = .ok line) (hsmall : lineMagnitude line ≤ 10 ^ 26) :
    (TwoPlaces line.taxableValue ∧ TwoPlaces line.cgstAmount ∧ TwoPlaces line.sgstAmount ∧
      TwoPlaces line.igstAmount) ∧
      line.lineTotal = line.taxableValue + line.cgstAmount + line.sgstAmount + line.igstAmount := by
  obtain ⟨productGstRate, lineAmount, tax, hproduct, hgross, hdiscount, hamount, htax, htotal,
    hrate, htaxable, hcgst, hsgst, higst⟩ := voucherLine_ok h
  have hgrids := lineTax_amounts (quantized_spec hamount).1 htax
  unfold lineMagnitude at hsmall
  rw [htaxable, hcgst, hsgst, higst] at hsmall ⊢
  refine ⟨hgrids, ?_⟩
  obtain ⟨ht, hc, hs, hi⟩ := hgrids
  have htriangle₁ := abs_add_le tax.taxableValue tax.cgstAmount
  have htriangle₂ := abs_add_le (tax.taxableValue + tax.cgstAmount) tax.sgstAmount
  have hc0 := abs_nonneg tax.cgstAmount
  have hs0 := abs_nonneg tax.sgstAmount
  have hi0 := abs_nonneg tax.igstAmount
  rw [inContext_paise (ht.add hc) (by linarith),
    inContext_paise ((ht.add hc).add hs) (by linarith)] at htotal
  exact quantized_inContext (((ht.add hc).add hs).add hi) htotal

/-- The summary of lines whose amounts are summed exactly. -/
def exactSummary (lines : List VoucherLine) : VoucherSummary :=
  let taxable := (lines.map (·.taxableValue)).sum
  let cgst := (lines.map (·.cgstAmount)).sum
  let sgst := (lines.map (·.sgstAmount)).sum
  let igst := (lines.map (·.igstAmount)).sum
  let before := taxable + (cgst + sgst + igst)
  let rupees := roundAt divHalfUp 0 before
  ⟨lines, taxable, cgst, sgst, igst, cgst + sgst + igst, before, rupees - before, rupees⟩

private theorem lineMagnitude_nonneg (line : VoucherLine) : 0 ≤ lineMagnitude line := by
  unfold lineMagnitude
  positivity

private theorem lineMagnitude_le {lines : List VoucherLine} {line : VoucherLine}
    (h : line ∈ lines) :
    lineMagnitude line ≤ (lines.map lineMagnitude).sum := by
  apply List.single_le_sum _ _ (List.mem_map_of_mem h)
  intro x hx
  obtain ⟨line', -, rfl⟩ := List.mem_map.mp hx
  exact lineMagnitude_nonneg line'

private theorem sum_lineMagnitude (lines : List VoucherLine) :
    (lines.map lineMagnitude).sum
      = ((lines.map (·.taxableValue)).map fun x => |x|).sum
        + ((lines.map (·.cgstAmount)).map fun x => |x|).sum
        + ((lines.map (·.sgstAmount)).map fun x => |x|).sum
        + ((lines.map (·.igstAmount)).map fun x => |x|).sum := by
  induction lines with
  | nil => simp
  | cons line lines ih =>
    simp only [List.map_cons, List.sum_cons]
    rw [ih]
    unfold lineMagnitude
    ring

private theorem abs_list_sum_nonneg (xs : List ℚ) : 0 ≤ (xs.map fun x => |x|).sum :=
  le_trans (abs_nonneg _) (abs_sum_le xs)

/-- Rounding to rupees. -/
private theorem rupees_spec {x : ℚ} (hsmall : |x| ≤ 10 ^ 26 - 1) :
    quantizeHalfUp 0 x = some (roundAt divHalfUp 0 x) ∧ OnGrid 0 (roundAt divHalfUp 0 x) ∧
      |roundAt divHalfUp 0 x - x| ≤ 1 / 2 := by
  have hroom : |x| + (10 : ℚ) ^ (-((0 : ℕ) : ℤ)) / 2 < (10 : ℚ) ^ (28 - ((0 : ℕ) : ℤ)) := by
    have hleft : (10 : ℚ) ^ (-((0 : ℕ) : ℤ)) / 2 = 1 / 2 := by norm_num
    have hright : (10 : ℚ) ^ (28 - ((0 : ℕ) : ℤ)) = 10 ^ 28 := by norm_num
    rw [hleft, hright]
    linarith
  obtain ⟨y, hy⟩ := quantizeHalfUp_some hroom
  obtain ⟨hgrid, hnear, -⟩ := quantizeHalfUp_spec hy
  have hvalue : roundAt divHalfUp 0 x = y := by
    unfold quantizeHalfUp at hy
    dsimp only at hy
    split at hy
    · exact absurd hy (by simp)
    · exact Option.some.inj hy
  rw [hvalue]
  refine ⟨hy, hgrid, ?_⟩
  have hhalf : (10 : ℚ) ^ (-((0 : ℕ) : ℤ)) / 2 = 1 / 2 := by norm_num
  rwa [hhalf] at hnear

/-- The four running totals are sums in paise. -/
private theorem totals_exact {rt : Runtime} {loaded : LoadedBatch} {lines : List VoucherLine}
    (h : (groupBatchItems loaded.items).mapM (voucherLine rt loaded.batch) = .ok lines)
    (hsmall : (lines.map lineMagnitude).sum ≤ 10 ^ 26 - 1) :
    ∀ field ∈ [VoucherLine.taxableValue, VoucherLine.cgstAmount, VoucherLine.sgstAmount,
        VoucherLine.igstAmount],
      runningTotal (lines.map field) = (lines.map field).sum ∧ TwoPlaces (lines.map field).sum := by
  have hamounts : ∀ line ∈ lines, TwoPlaces line.taxableValue ∧ TwoPlaces line.cgstAmount ∧
      TwoPlaces line.sgstAmount ∧ TwoPlaces line.igstAmount := by
    intro line hline
    obtain ⟨g, -, hg⟩ := (except_mapM_mem h).1 line hline
    exact (voucherLine_amounts hg (by linarith [lineMagnitude_le hline])).1
  have hsum := sum_lineMagnitude lines
  have ht0 := abs_list_sum_nonneg (lines.map (·.taxableValue))
  have hc0 := abs_list_sum_nonneg (lines.map (·.cgstAmount))
  have hs0 := abs_list_sum_nonneg (lines.map (·.sgstAmount))
  have hi0 := abs_list_sum_nonneg (lines.map (·.igstAmount))
  intro field hfield
  simp only [List.mem_cons, List.not_mem_nil, or_false] at hfield
  have hparts : (∀ line ∈ lines, TwoPlaces (field line)) ∧
      ((lines.map field).map fun x => |x|).sum ≤ 10 ^ 26 := by
    rcases hfield with rfl | rfl | rfl | rfl
    · exact ⟨fun line hline => (hamounts line hline).1, by linarith⟩
    · exact ⟨fun line hline => (hamounts line hline).2.1, by linarith⟩
    · exact ⟨fun line hline => (hamounts line hline).2.2.1, by linarith⟩
    · exact ⟨fun line hline => (hamounts line hline).2.2.2, by linarith⟩
  have hgrid : ∀ x ∈ lines.map field, TwoPlaces x := by
    intro x hx
    obtain ⟨line, hline, rfl⟩ := List.mem_map.mp hx
    exact hparts.1 line hline
  exact ⟨runningTotal_exact hgrid hparts.2, onGrid_sum hgrid⟩

private theorem totals_small {lines : List VoucherLine}
    (hsmall : (lines.map lineMagnitude).sum ≤ 10 ^ 26 - 1) :
    |(lines.map (·.taxableValue)).sum| + |(lines.map (·.cgstAmount)).sum|
      + |(lines.map (·.sgstAmount)).sum| + |(lines.map (·.igstAmount)).sum| ≤ 10 ^ 26 - 1 := by
  rw [sum_lineMagnitude] at hsmall
  linarith [abs_sum_le (lines.map (·.taxableValue)), abs_sum_le (lines.map (·.cgstAmount)),
    abs_sum_le (lines.map (·.sgstAmount)), abs_sum_le (lines.map (·.igstAmount))]

/-- Nothing but the round-off is rounded. -/
theorem summary_exact {rt : Runtime} {loaded : LoadedBatch} {lines : List VoucherLine}
    (h : (groupBatchItems loaded.items).mapM (voucherLine rt loaded.batch) = .ok lines)
    (hsmall : (lines.map lineMagnitude).sum ≤ 10 ^ 26 - 1) :
    calculateVoucherSummary rt loaded = .ok (exactSummary lines) := by
  -- Each total is the sum of its column, on the grid and small.
  have htotals := totals_exact h hsmall
  obtain ⟨ht, htg⟩ := htotals VoucherLine.taxableValue (by simp)
  obtain ⟨hc, hcg⟩ := htotals VoucherLine.cgstAmount (by simp)
  obtain ⟨hs, hsg⟩ := htotals VoucherLine.sgstAmount (by simp)
  obtain ⟨hi, hig⟩ := htotals VoucherLine.igstAmount (by simp)
  have hbound := totals_small hsmall
  unfold calculateVoucherSummary exactSummary
  refine except_bind_ok.mpr ⟨lines, h, ?_⟩
  dsimp only
  rw [ht, hc, hs, hi]
  generalize (lines.map (·.taxableValue)).sum = t at *
  generalize (lines.map (·.cgstAmount)).sum = c at *
  generalize (lines.map (·.sgstAmount)).sum = s at *
  generalize (lines.map (·.igstAmount)).sum = i at *
  have hgst : |c + s + i| ≤ |c| + |s| + |i| :=
    le_trans (abs_add_le _ _) (by linarith [abs_add_le c s])
  have hbefore : |t + (c + s + i)| ≤ 10 ^ 26 - 1 := le_trans (abs_add_le _ _) (by linarith)
  have hnonneg := abs_nonneg t
  have hgstg : TwoPlaces (c + s + i) := (hcg.add hsg).add hig
  have hbeforeg : TwoPlaces (t + (c + s + i)) := htg.add hgstg
  obtain ⟨hrupees, hwhole, hnear⟩ := rupees_spec hbefore
  -- Rounding to a whole rupee adds less than one.
  have hfinal : |roundAt divHalfUp 0 (t + (c + s + i))| < 10 ^ 26 := by
    have := abs_sub_abs_le_abs_sub (roundAt divHalfUp 0 (t + (c + s + i))) (t + (c + s + i))
    linarith
  have hfinalg : TwoPlaces (roundAt divHalfUp 0 (t + (c + s + i))) := hwhole.finer (by norm_num)
  have hcs := abs_add_le c s
  have hc0 := abs_nonneg c
  have hs0 := abs_nonneg s
  have hi0 := abs_nonneg i
  -- The steps of the source, none of which rounds: every value has two places.
  refine except_bind_ok.mpr ⟨c + s + i, ?_, ?_⟩
  · rw [inContext_paise (hcg.add hsg) (by linarith), inContext_paise hgstg (by linarith)]
    exact quantized_paise hgstg (by linarith)
  refine except_bind_ok.mpr ⟨t + (c + s + i), ?_, ?_⟩
  · rw [inContext_paise hbeforeg (by linarith)]
    exact quantized_paise hbeforeg (by linarith)
  refine except_bind_ok.mpr ⟨roundAt divHalfUp 0 (t + (c + s + i)), by rw [hrupees]; rfl, ?_⟩
  refine except_bind_ok.mpr ⟨roundAt divHalfUp 0 (t + (c + s + i)) - (t + (c + s + i)), ?_, ?_⟩
  · rw [inContext_paise (hfinalg.sub hbeforeg) (by linarith)]
    exact quantized_paise (hfinalg.sub hbeforeg) (by linarith)
  refine except_bind_ok.mpr ⟨t, quantized_paise htg (by linarith), ?_⟩
  refine except_bind_ok.mpr ⟨c, quantized_paise hcg (by linarith), ?_⟩
  refine except_bind_ok.mpr ⟨s, quantized_paise hsg (by linarith), ?_⟩
  refine except_bind_ok.mpr ⟨i, quantized_paise hig (by linarith), ?_⟩
  exact except_bind_ok.mpr ⟨_, quantized_paise hfinalg hfinal, rfl⟩

/-! ## The totals -/

/-- The totals of a summary. -/
def VoucherSummary.totals (s : VoucherSummary) : List ℚ :=
  [s.taxableValue, s.cgstAmount, s.sgstAmount, s.igstAmount, s.gstAmount,
    s.roundedTotalBeforeRoundOff, s.roundOff, s.finalValue]

private theorem exactSummary_perm {lines lines' : List VoucherLine} (h : lines'.Perm lines) :
    (exactSummary lines').totals = (exactSummary lines).totals := by
  have hsum : ∀ field : VoucherLine → ℚ, (lines'.map field).sum = (lines.map field).sum :=
    fun field =>
    (h.map field).sum_eq
  unfold VoucherSummary.totals exactSummary
  dsimp only
  rw [hsum, hsum, hsum, hsum]

/-- The lines of a voucher add up to its total before the round-off. -/
private theorem lineTotals_sum {rt : Runtime} {loaded : LoadedBatch} {lines : List VoucherLine}
    (h : (groupBatchItems loaded.items).mapM (voucherLine rt loaded.batch) = .ok lines)
    (hsmall : (lines.map lineMagnitude).sum ≤ 10 ^ 26 - 1) :
    (lines.map (·.lineTotal)).sum = (exactSummary lines).roundedTotalBeforeRoundOff := by
  have htotal : lines.map (·.lineTotal) = lines.map fun line =>
      line.taxableValue + (line.cgstAmount + line.sgstAmount + line.igstAmount) := by
    apply List.map_congr_left
    intro line hline
    obtain ⟨g, -, hg⟩ := (except_mapM_mem h).1 line hline
    rw [(voucherLine_amounts hg (by linarith [lineMagnitude_le hline])).2]
    ring
  rw [htotal]
  unfold exactSummary
  dsimp only
  rw [List.sum_map_add, List.sum_map_add, List.sum_map_add]

/-- The totals do not depend on the order of the items, the final value is a whole number of
rupees, and it is the sum of the lines with a round-off of half a rupee at most. -/
theorem voucher_totals (rt : Runtime) (db : Db) (batch : Batch) (items items' : List LoadedItem)
    (hperm : items'.Perm items) (hread : ∀ l ∈ items, db.product l.product.id = some l.product)
    (hsmall : SmallAmounts rt ⟨batch, items⟩) :
    ∃ summary summary', calculateVoucherSummary rt ⟨batch, items⟩ = .ok summary ∧
      calculateVoucherSummary rt ⟨batch, items'⟩ = .ok summary' ∧
      summary'.totals = summary.totals ∧ (∃ rupees : ℤ, summary.finalValue = rupees) ∧
      |summary.roundOff| ≤ 1 / 2 ∧
      summary.finalValue = (summary.lines.map (·.lineTotal)).sum + summary.roundOff := by
  obtain ⟨lines, hlines, hbound⟩ := hsmall
  obtain ⟨lines', hlines', hlinesPerm⟩ := voucher_lines_perm hperm hread hlines
  -- The other order has the same lines, so the same bound.
  have hbound' : (lines'.map lineMagnitude).sum ≤ 10 ^ 26 - 1 := by
    rw [(hlinesPerm.map lineMagnitude).sum_eq]
    exact hbound
  refine ⟨exactSummary lines, exactSummary lines', summary_exact hlines hbound,
    summary_exact hlines' hbound', exactSummary_perm hlinesPerm, ?_⟩
  have hsmall := totals_small hbound
  have hbefore : |(exactSummary lines).roundedTotalBeforeRoundOff| ≤ 10 ^ 26 - 1 := by
    unfold exactSummary
    dsimp only
    generalize (lines.map (·.taxableValue)).sum = t at *
    generalize (lines.map (·.cgstAmount)).sum = c at *
    generalize (lines.map (·.sgstAmount)).sum = s at *
    generalize (lines.map (·.igstAmount)).sum = i at *
    linarith [abs_add_le t (c + s + i), abs_add_le (c + s) i, abs_add_le c s]
  -- The final value is whole, and no more than half a rupee from the total.
  obtain ⟨-, hwhole, hnear⟩ := rupees_spec hbefore
  refine ⟨?_, hnear, ?_⟩
  · obtain ⟨n, hn⟩ := hwhole
    exact ⟨n, by rw [zpow_zero, mul_one] at hn; exact hn⟩
  · rw [show (exactSummary lines).lines = lines from rfl, lineTotals_sum hlines hbound]
    unfold exactSummary
    dsimp only
    ring

/-- Two stones and a ring between them, at two rates. -/
def jewelItems : List LoadedItem :=
  (gemSale (.finite false (Dec.ofDigits 3 0))).items.flatMap fun gem =>
    [gem,
      { gem with item := { gem.item with rate := some (.finite false (Dec.ofDigits 4999 (-2))) } },
      gem]

/-- The totals of the jewels, in either order. -/
theorem voucher_totals_jewels :
    ∃ summary summary',
      calculateVoucherSummary .plain ⟨(gemSale .zero).batch, jewelItems⟩ = .ok summary ∧
      calculateVoucherSummary .plain ⟨(gemSale .zero).batch, jewelItems.reverse⟩ = .ok summary' ∧
      summary'.totals = summary.totals ∧ (∃ rupees : ℤ, summary.finalValue = rupees) ∧
      |summary.roundOff| ≤ 1 / 2 ∧
      summary.finalValue = (summary.lines.map (·.lineTotal)).sum + summary.roundOff := by
  let db : Db := { Db.empty with products := jewelItems.map (·.product) }
  apply voucher_totals .plain db _ _ _ jewelItems.reverse_perm
  · decide +kernel
  · decide +kernel

end SetuoraLite
