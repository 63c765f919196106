import Mathlib.Algebra.BigOperators.Ring.Finset
import Mathlib.Data.List.Sort
import Mathlib.Data.Rat.Floor
import SetuoraLite.Lib.Counter
import SetuoraLite.Lib.SharedCapacity
import SetuoraLite.Stock.Fefo

/-!
# Expiry risk

The expiry risk report: the stock that expires within a year, grouped by product, batch
number, expiry date and warehouse, and for each group the units that the product's sales of
the last three months will not clear in time.

Each group is set against the whole velocity of its product, so the groups of one product
count the same sales several times. `expiry_risk_iff` says for which stock they do not, and
`expiry_report_accounts` that the report shows all units that its groups do not count as sold.

Dates are compared and subtracted by `date.toordinal()`, and what the source computes in
floating point is the exact rational. The column `inventory_transactions.created_at`, which
nothing else here reads, is a function of the row's id. What a row carries for display only
(its value, the rounded numbers, the text of the basis) is left out.
-/

namespace SetuoraLite

open Lib

/-! ## The calendar -/

/-- `date.max.toordinal()`. -/
def lastDay : ℤ := 3652059

/-- `day + timedelta(days=n)`. -/
def addDays (day n : ℤ) : Except PyError ℤ :=
  if 1 ≤ day + n ∧ day + n ≤ lastDay then .ok (day + n)
  else .error ⟨.other, py "date value out of range"⟩

/-! ## The stock by expiry date -/

/-- `expiring_band`: the label and the CSS class. -/
def expiringBand (daysLeft : ℤ) : PyStr × PyStr :=
  if daysLeft ≤ 30 then (py "Expiring within 30 days", py "failed")
  else if daysLeft ≤ 60 then (py "Expiring within 60 days", py "pending_sync")
  else (py "Expiring within 90 days", py "generated")

/-- `ORDER BY expiry_date IS NULL, expiry_date, created_at`. -/
def stockOrder (a b : Serial) : Prop :=
  expiryBefore a.expiryDate b.expiryDate = true ∨
    (expiryBefore b.expiryDate a.expiryDate = false ∧ a.createdAt ≤ b.createdAt)

instance (a b : Serial) : Decidable (stockOrder a b) := inferInstanceAs (Decidable (_ ∨ (_ ∧ _)))

/-- `stock_serials`. -/
def stockSerials (db : Db) (productId : Option Nat) : List Serial :=
  (db.serials.filter fun s => s.active && decide (s.status ∈ stockStatuses) &&
    productId.all fun id => s.productId = id).insertionSort stockOrder

/-- `value or default` of a nullable text. -/
def orText (value : Option PyStr) (default : PyStr) : PyStr :=
  match value with
  | some (c :: cs) => c :: cs
  | _ => default

/-- What the stock is grouped by: product, batch number, expiry date, warehouse. -/
structure ExpiryKey where
  productId : Nat
  batch : PyStr
  expiryDate : Date
  warehouse : PyStr
deriving DecidableEq

/-- The group of a serial, when it expires by the deadline. -/
def expiryKey (deadline : ℤ) (s : Serial) : Option ExpiryKey :=
  s.expiryDate.bind fun expiry =>
    if deadline < expiry.toordinal then none
    else some ⟨s.productId, orText s.productBatchNumber (py "-"), expiry,
      orText s.warehouse (py "Main")⟩

/-- An entry of `expiry_batch_rows`. -/
structure ExpiryBatchRow where
  key : ExpiryKey
  productName : PyStr
  productCode : PyStr
  qty : Nat
  daysLeft : ℤ
  band : PyStr × PyStr

/-- The row of a group and its count. -/
def expiryBatchRow (db : Db) (asOf : ℤ) (group : ExpiryKey × ℕ) : ExpiryBatchRow :=
  let product := db.product group.1.productId
  let daysLeft := group.1.expiryDate.toordinal - asOf
  ⟨group.1, (product.map (·.productName)).getD [], (product.map (·.productCode)).getD [], group.2,
    daysLeft, expiringBand daysLeft⟩

/-- `(days_left, product_name, batch)`, compared. -/
def batchRowOrder (a b : ExpiryBatchRow) : Prop :=
  a.daysLeft < b.daysLeft ∨ (a.daysLeft = b.daysLeft ∧
    (¬ strLe b.productName a.productName = true ∨
      (a.productName = b.productName ∧ strLe a.key.batch b.key.batch = true)))

instance (a b : ExpiryBatchRow) : Decidable (batchRowOrder a b) :=
  inferInstanceAs (Decidable (_ ∨ (_ ∧ (_ ∨ (_ ∧ _)))))

/-- The rows of the stock that expires by the deadline. -/
def batchRowsUntil (db : Db) (asOf deadline : ℤ) (productId : Option Nat) : List ExpiryBatchRow :=
  let grouped := counter ((stockSerials db productId).filterMap (expiryKey deadline))
  (grouped.map (expiryBatchRow db asOf)).insertionSort batchRowOrder

/-- `expiry_batch_rows`. -/
def expiryBatchRows (db : Db) (horizonDays : ℕ) (asOf : ℤ) (productId : Option Nat) :
    Except PyError (List ExpiryBatchRow) := do
  let deadline ← addDays asOf horizonDays
  .ok (batchRowsUntil db asOf deadline productId)

/-! ## The velocity -/

/-- The first instant of a day. -/
def startOfDay (day : ℤ) : ℤ := (day - 1) * 86400000000

/-- A sale since a day. -/
def isRecentSale (createdAt : Nat → Instant) (start : ℤ) (t : InventoryTransaction) : Bool :=
  t.transactionType = .sale && t.statusTo = some .sold && decide (startOfDay start ≤ createdAt t.id)

/-- The sales since a day, for each of the months. -/
def velocitySince (db : Db) (createdAt : Nat → Instant) (months : ℕ) (start : ℤ)
    (productId : Option Nat) : List (Nat × ℚ) :=
  let sold := (db.transactions.filter (isRecentSale createdAt start)).filterMap fun t =>
    t.productId.filter fun id => productId.all fun p => id = p
  (counter sold).map fun e => (e.1, (e.2 : ℚ) / (max months 1 : ℕ))

/-- `sales_velocity_by_product`. -/
def salesVelocityByProduct (db : Db) (createdAt : Nat → Instant) (months : ℕ) (asOf : ℤ)
    (productId : Option Nat) : Except PyError (List (Nat × ℚ)) := do
  let start ← addDays asOf (-(months * 30))
  .ok (velocitySince db createdAt months start productId)

/-! ## The risk -/

/-- An entry of `expiry_risk_rows`. -/
structure ExpiryRiskRow where
  row : ExpiryBatchRow
  expectedSales : ℤ
  unsoldStock : ℤ
  risk : PyStr
  riskClass : PyStr

/-- One round of the loop of `expiry_risk_rows`. -/
def expiryRiskRow (velocity : List (Nat × ℚ)) (row : ExpiryBatchRow) : ExpiryRiskRow :=
  let monthsLeft : ℚ := max ((row.daysLeft : ℚ) / 30) 0
  let salesPerMonth := ((lookup (·.1) row.key.productId velocity).map (·.2)).getD 0
  let expectedSales := ⌊salesPerMonth * monthsLeft⌋
  let unsoldStock := max (row.qty - expectedSales) 0
  let riskRatio : ℚ := if row.qty ≠ 0 then unsoldStock / row.qty else 0
  let risk :=
    if row.daysLeft ≤ 30 ∨ 13 / 20 ≤ riskRatio then (py "High Expiry Risk", py "failed")
    else if row.daysLeft ≤ 90 ∨ 7 / 20 ≤ riskRatio then (py "Watch", py "pending_sync")
    else (py "Monitor", py "synced")
  ⟨row, expectedSales, unsoldStock, risk.1, risk.2⟩

/-- The groups that `expiry_risk_rows` goes through, each with its risk. -/
def consideredRows (db : Db) (createdAt : Nat → Instant) (asOf : ℤ) (productId : Option Nat) :
    List ExpiryRiskRow :=
  (batchRowsUntil db asOf (asOf + 365) productId).map
    (expiryRiskRow (velocitySince db createdAt 3 (asOf - 90) productId))

/-- The row is in the report. -/
def ExpiryRiskRow.listed (r : ExpiryRiskRow) : Bool := 0 < r.unsoldStock ∨ r.row.daysLeft ≤ 90

/-- `(risk_class != "failed", days_left, -unsold_stock)`, compared. -/
def riskRowOrder (a b : ExpiryRiskRow) : Prop :=
  (a.riskClass = py "failed" ∧ b.riskClass ≠ py "failed") ∨
    ((a.riskClass = py "failed" ↔ b.riskClass = py "failed") ∧
      (a.row.daysLeft < b.row.daysLeft ∨
        (a.row.daysLeft = b.row.daysLeft ∧ b.unsoldStock ≤ a.unsoldStock)))

instance (a b : ExpiryRiskRow) : Decidable (riskRowOrder a b) :=
  inferInstanceAs (Decidable ((_ ∧ _) ∨ ((_ ↔ _) ∧ (_ ∨ (_ ∧ _)))))

/-- `expiry_risk_rows`. -/
def expiryRiskRows (db : Db) (createdAt : Nat → Instant) (asOf : ℤ) (productId : Option Nat) :
    Except PyError (List ExpiryRiskRow) := do
  let velocity ← salesVelocityByProduct db createdAt 3 asOf productId
  let rows ← expiryBatchRows db 365 asOf productId
  .ok (((rows.map (expiryRiskRow velocity)).filter (·.listed)).insertionSort riskRowOrder)

/-! ## What the groups count on -/

/-- The sales of a product that its velocity is taken from. -/
def recentSales (db : Db) (createdAt : Nat → Instant) (asOf : ℤ) (productId : Nat) : ℕ :=
  db.transactions.countP fun t =>
    isRecentSale createdAt (asOf - 90) t && decide (t.productId = some productId)

/-- The sales of a product until a day: `floor(sales_per_month * months)`. -/
def projectedSales (db : Db) (createdAt : Nat → Instant) (asOf : ℤ) (productId : Nat)
    (day : ℤ) : ℤ :=
  ⌊((recentSales db createdAt asOf productId : ℚ) / 3) * max (((day - asOf : ℤ) : ℚ) / 30) 0⌋

/-- The units of a product that expire by a day and that its rows count as sold before. -/
def promisedSales (db : Db) (createdAt : Nat → Instant) (asOf : ℤ) (only : Option Nat)
    (productId : Nat) (day : ℤ) : ℤ :=
  (((consideredRows db createdAt asOf only).filter fun r =>
    r.row.key.productId = productId && decide (r.row.key.expiryDate.toordinal ≤ day)).map fun r =>
      (r.row.qty : ℤ) - r.unsoldStock).sum

/-- The units of a product that expire within a year and at a day for which any sale is
projected, each with its group. -/
def sellableUnits (db : Db) (createdAt : Nat → Instant) (asOf : ℤ) (only : Option Nat)
    (productId : Nat) : List ExpiryKey :=
  ((stockSerials db only).filterMap (expiryKey (asOf + 365))).filter fun k =>
    k.productId = productId &&
      decide (0 < projectedSales db createdAt asOf productId k.expiryDate.toordinal)

/-- By every day the sellable units are within the sales projected until then, but for what
the group that expires first has over the sales projected for it. -/
def SharesVelocity (db : Db) (createdAt : Nat → Instant) (asOf : ℤ) (only : Option Nat)
    (productId : Nat) : Prop :=
  let units := sellableUnits db createdAt asOf only productId
  ∀ first ∈ units, (∀ k ∈ units, first.expiryDate.toordinal ≤ k.expiryDate.toordinal) →
    ∀ day ≤ asOf + 365, (units.countP fun k => k.expiryDate.toordinal ≤ day : ℤ)
      ≤ projectedSales db createdAt asOf productId day +
        max (units.count first -
          projectedSales db createdAt asOf productId first.expiryDate.toordinal) 0

theorem projectedSales_nonneg (db : Db) (createdAt : Nat → Instant) (asOf : ℤ) (productId : Nat)
    (day : ℤ) : 0 ≤ projectedSales db createdAt asOf productId day := by
  apply Int.floor_nonneg.mpr
  apply mul_nonneg
  · positivity
  · exact le_max_right _ _

/-- A count that is looked up among the scaled counts. -/
private theorem lookup_scaled (g : ℕ → ℚ) (hzero : g 0 = 0) (c : List (Nat × ℕ)) (id : Nat) :
    ((lookup (·.1) id (c.map fun e => (e.1, g e.2))).map (·.2)).getD 0 = g (Counter.get c id) := by
  induction c with
  | nil => simp [lookup, Counter.get, hzero]
  | cons e c ih =>
    unfold lookup Counter.get at ih ⊢
    by_cases he : e.1 = id
    · simp [he]
    · simpa [he] using ih

/-- The velocity of a product that the report is about. -/
theorem velocity_lookup (db : Db) (createdAt : Nat → Instant) (asOf : ℤ) {only : Option Nat}
    {productId : Nat} (honly : only.all fun p => productId = p) :
    ((lookup (·.1) productId (velocitySince db createdAt 3 (asOf - 90) only)).map (·.2)).getD 0
      = (recentSales db createdAt asOf productId : ℚ) / 3 := by
  unfold velocitySince
  dsimp only
  rw [lookup_scaled (fun n => (n : ℚ) / (max 3 1 : ℕ)) (by simp), counter_get, List.count,
    List.countP_filterMap, List.countP_filter]
  have hcount : (db.transactions.countP fun t =>
      (((t.productId.filter fun id => only.all fun p => id = p).map fun id => id == productId).getD
        false) &&
        isRecentSale createdAt (asOf - 90) t) = recentSales db createdAt asOf productId := by
    unfold recentSales
    apply List.countP_congr
    intro t _
    cases ht : t.productId with
    | none => simp
    | some id =>
      by_cases hid : id = productId
      · subst hid
        simp [Option.filter, honly]
      · by_cases hall : only.all fun p => decide (id = p)
        · simp [Option.filter, hall, hid]
        · simp [Option.filter, hall, hid]
  rw [hcount]
  norm_num

/-- A row counts on the smaller of its units and the sales projected for it. -/
private theorem expiryRiskRow_sold (db : Db) (createdAt : Nat → Instant) (asOf : ℤ)
    {only : Option Nat} (group : ExpiryKey × ℕ) (honly : only.all fun p => group.1.productId = p) :
    let r := expiryRiskRow (velocitySince db createdAt 3 (asOf - 90) only)
      (expiryBatchRow db asOf group)
    (r.row.qty : ℤ) - r.unsoldStock
      = min (group.2 : ℤ)
          (projectedSales db createdAt asOf group.1.productId group.1.expiryDate.toordinal) := by
  have hnonneg := projectedSales_nonneg db createdAt asOf group.1.productId
    group.1.expiryDate.toordinal
  unfold expiryRiskRow expiryBatchRow
  dsimp only
  rw [velocity_lookup db createdAt asOf honly]
  have hprojected : ⌊(recentSales db createdAt asOf group.1.productId : ℚ) / 3 *
      max (((group.1.expiryDate.toordinal - asOf : ℤ) : ℚ) / 30) 0⌋
        = projectedSales db createdAt asOf group.1.productId group.1.expiryDate.toordinal := rfl
  rw [hprojected]
  omega

/-! ## The groups of a product -/

/-- The stock that the report is about, one group for each unit. -/
private def stockKeys (db : Db) (asOf : ℤ) (only : Option Nat) : List ExpiryKey :=
  (stockSerials db only).filterMap (expiryKey (asOf + 365))

private theorem stockKeys_spec {db : Db} {asOf : ℤ} {only : Option Nat} {k : ExpiryKey}
    (h : k ∈ stockKeys db asOf only) :
    (only.all fun p => k.productId = p) ∧ k.expiryDate.toordinal ≤ asOf + 365 := by
  obtain ⟨s, hs, hk⟩ := List.mem_filterMap.mp h
  unfold stockSerials at hs
  rw [List.mem_insertionSort, List.mem_filter] at hs
  have hproduct : only.all fun p => s.productId = p := by
    have hcheck := hs.2
    simp only [Bool.and_eq_true] at hcheck
    exact hcheck.2
  unfold expiryKey at hk
  obtain ⟨expiry, -, hk⟩ := Option.bind_eq_some_iff.mp hk
  split at hk
  · exact absurd hk (by simp)
  next hdeadline =>
    obtain rfl := Option.some.inj hk
    exact ⟨hproduct, not_lt.mp hdeadline⟩

/-- The day a group expires. -/
private def expiryDay (k : ExpiryKey) : ℤ := k.expiryDate.toordinal

/-- The groups of a product. -/
private def productKeys (db : Db) (asOf : ℤ) (only : Option Nat) (productId : Nat) :
    List ExpiryKey :=
  (Counter.keys (counter (stockKeys db asOf only))).filter fun k => k.productId = productId

private theorem productKeys_spec {db : Db} {asOf : ℤ} {only : Option Nat} {productId : Nat}
    {k : ExpiryKey} (h : k ∈ productKeys db asOf only productId) :
    k ∈ stockKeys db asOf only ∧ k.productId = productId := by
  obtain ⟨hk, hproduct⟩ := List.mem_filter.mp h
  exact ⟨counter_mem.mp hk, of_decide_eq_true hproduct⟩

/-- The capacity of a day, as a natural number. -/
private def capacityOf (db : Db) (createdAt : Nat → Instant) (asOf : ℤ) (productId : Nat)
    (day : ℤ) : ℕ :=
  (projectedSales db createdAt asOf productId day).toNat

private theorem capacityOf_cast (db : Db) (createdAt : Nat → Instant) (asOf : ℤ) (productId : Nat)
    (day : ℤ) : (capacityOf db createdAt asOf productId day : ℤ)
      = projectedSales db createdAt asOf productId day :=
  Int.toNat_of_nonneg (projectedSales_nonneg db createdAt asOf productId day)

/-- The rows are the groups, each with its count. -/
private theorem consideredRows_perm (db : Db) (createdAt : Nat → Instant) (asOf : ℤ)
    (only : Option Nat) :
    (consideredRows db createdAt asOf only).Perm
      ((Counter.keys (counter (stockKeys db asOf only))).map fun k =>
        expiryRiskRow (velocitySince db createdAt 3 (asOf - 90) only)
          (expiryBatchRow db asOf (k, (stockKeys db asOf only).count k))) := by
  have hmap : (counter (stockKeys db asOf only)).map (expiryBatchRow db asOf)
      = (Counter.keys (counter (stockKeys db asOf only))).map fun k =>
          expiryBatchRow db asOf (k, (stockKeys db asOf only).count k) := by
    conv_lhs => rw [counter_eq_map]
    rw [List.map_map]
    rfl
  have hperm : (batchRowsUntil db asOf (asOf + 365) only).Perm
      ((Counter.keys (counter (stockKeys db asOf only))).map fun k =>
        expiryBatchRow db asOf (k, (stockKeys db asOf only).count k)) := by
    rw [← hmap]
    exact List.perm_insertionSort _ _
  have hrows := hperm.map (expiryRiskRow (velocitySince db createdAt 3 (asOf - 90) only))
  rwa [List.map_map] at hrows

/-- The rows of a product are its groups, each with its count. -/
private theorem promisedSales_eq (db : Db) (createdAt : Nat → Instant) (asOf : ℤ)
    (only : Option Nat) (productId : Nat) (day : ℤ) :
    promisedSales db createdAt asOf only productId day
      = upTo expiryDay (promised expiryDay (fun k => (stockKeys db asOf only).count k)
          (capacityOf db createdAt asOf productId)) day (productKeys db asOf only productId) := by
  have hrows := ((consideredRows_perm db createdAt asOf only).filter
    fun r => r.row.key.productId = productId && decide (r.row.key.expiryDate.toordinal ≤ day)).map
      fun r => (r.row.qty : ℤ) - r.unsoldStock
  -- Both sides count the same rows: the report's, and the stock keys they were made of.
  unfold promisedSales
  rw [hrows.sum_eq, List.filter_map, List.map_map]
  unfold upTo productKeys
  rw [List.filter_filter, Nat.cast_list_sum, List.map_map]
  congr 1
  have hfilter : (Counter.keys (counter (stockKeys db asOf only))).filter
      (fun k => k.productId = productId && decide (k.expiryDate.toordinal ≤ day))
        = (Counter.keys (counter (stockKeys db asOf only))).filter fun k =>
          decide (expiryDay k ≤ day) && decide (k.productId = productId) := by
    apply List.filter_congr
    intro k _
    exact Bool.and_comm _ _
  rw [← hfilter]
  apply List.map_congr_left
  intro k hk
  obtain ⟨hkey, hcond⟩ := List.mem_filter.mp hk
  -- A key of the schedule is of the product and expires by the day.
  have hproduct : k.productId = productId := by
    have hboth : (decide (k.productId = productId) && decide (k.expiryDate.toordinal ≤ day)) =
        true := hcond
    exact of_decide_eq_true ((Bool.and_eq_true _ _).mp hboth).1
  have hsold := expiryRiskRow_sold db createdAt asOf (k, (stockKeys db asOf only).count k)
    (stockKeys_spec (counter_mem.mp hkey)).1
  dsimp only at hsold
  rw [hproduct, ← capacityOf_cast] at hsold
  show (_ : ℤ) = ((min _ _ : ℕ) : ℤ)
  rw [Nat.cast_min]
  exact hsold

/-- The sellable units are the units of the servable groups. -/
private theorem sellableUnits_eq (db : Db) (createdAt : Nat → Instant) (asOf : ℤ)
    (only : Option Nat) (productId : Nat) (p : ExpiryKey → Bool) :
    ((((servable expiryDay (capacityOf db createdAt asOf productId)
        (productKeys db asOf only productId)).filter p).map
          fun k => (stockKeys db asOf only).count k).sum)
      = (sellableUnits db createdAt asOf only productId).countP p := by
  unfold servable productKeys sellableUnits
  rw [List.filter_filter, List.filter_filter, List.countP_filter]
  have hcounts : (fun k => (stockKeys db asOf only).count k) =
      Counter.get (counter (stockKeys db asOf only)) := by
    funext k
    rw [counter_get]
  rw [hcounts, counter_sum]
  apply List.countP_congr
  intro k _
  have hcapacity : 0 < capacityOf db createdAt asOf productId (expiryDay k)
      ↔ 0 < projectedSales db createdAt asOf productId k.expiryDate.toordinal := by
    rw [← capacityOf_cast]
    exact Int.natCast_pos.symm
  simp only [Bool.and_eq_true, decide_eq_true_eq, hcapacity]
  constructor
  · intro h
    exact ⟨h.1.1, h.2, h.1.2⟩
  · intro h
    exact ⟨⟨h.1, h.2.2⟩, h.2.1⟩

private theorem le_add_sub_cast (a b c d : ℕ) :
    (a : ℤ) ≤ b + max ((c : ℤ) - d) 0 ↔ a ≤ b + (c - d) := by
  omega

/-- The rows of a product promise no sale twice exactly when its sellable units share its
velocity. -/
theorem expiry_risk_iff (db : Db) (createdAt : Nat → Instant) (asOf : ℤ) (only : Option Nat)
    (productId : Nat) :
    (∀ day ≤ asOf + 365, promisedSales db createdAt asOf only productId day
        ≤ projectedSales db createdAt asOf productId day) ↔
      SharesVelocity db createdAt asOf only productId := by
  have hpos : ∀ k ∈ productKeys db asOf only productId, 0 < (stockKeys db asOf only).count k :=
    fun k hk => List.count_pos_iff.mpr (productKeys_spec hk).1
  have hdays : ∀ k ∈ productKeys db asOf only productId, expiryDay k ∈ {day | day ≤ asOf + 365} :=
    fun k hk => (stockKeys_spec (productKeys_spec hk).1).2
  have hpromised := @promised_le_iff _ _ _ expiryDay _ (capacityOf db createdAt asOf productId)
    _ _ hpos hdays
  -- Both sides, day by day, in the integers of the report.
  have hleft : (∀ day ≤ asOf + 365, promisedSales db createdAt asOf only productId day
        ≤ projectedSales db createdAt asOf productId day) ↔
      ∀ day ∈ {day | day ≤ asOf + 365}, upTo expiryDay (promised expiryDay
        (fun k => (stockKeys db asOf only).count k) (capacityOf db createdAt asOf productId)) day
          (productKeys db asOf only productId) ≤ capacityOf db createdAt asOf productId day := by
    simp only [promisedSales_eq, ← capacityOf_cast, Nat.cast_le]
    exact Iff.rfl
  have hmem : ∀ k, k ∈ servable expiryDay (capacityOf db createdAt asOf productId)
      (productKeys db asOf only productId) ↔
        k ∈ sellableUnits db createdAt asOf only productId := by
    intro k
    unfold servable productKeys sellableUnits
    rw [List.mem_filter, List.mem_filter, List.mem_filter, counter_mem]
    simp only [Bool.and_eq_true, decide_eq_true_eq, ← capacityOf_cast, Nat.cast_pos]
    exact and_assoc
  have hcount : ∀ k ∈ sellableUnits db createdAt asOf only productId,
      (sellableUnits db createdAt asOf only productId).count k =
          (stockKeys db asOf only).count k := by
    intro k hk
    exact List.count_filter (List.mem_filter.mp hk).2
  rw [hleft, hpromised]
  unfold SharesVelocity
  dsimp only
  constructor
  · intro h first hfirst hearliest day hday
    have hfirstOnly : ∀ k ∈ servable expiryDay (capacityOf db createdAt asOf productId)
        (productKeys db asOf only productId), expiryDay first ≤ expiryDay k := fun k hk =>
      Nat.cast_le.mpr (hearliest k ((hmem k).mp hk))
    have hle := h first ((hmem first).mpr hfirst) hfirstOnly day hday
    unfold upTo at hle
    rw [sellableUnits_eq, ← hcount first hfirst] at hle
    rw [← capacityOf_cast, ← capacityOf_cast]
    exact (le_add_sub_cast _ _ _ _).mpr hle
  · intro h first hfirst hearliest day hday
    have hle := h first ((hmem first).mp hfirst) (fun k hk =>
      Nat.cast_le.mp (hearliest k ((hmem k).mpr hk))) day hday
    rw [← capacityOf_cast, ← capacityOf_cast] at hle
    unfold upTo
    rw [sellableUnits_eq, ← hcount first ((hmem first).mp hfirst)]
    exact (le_add_sub_cast _ _ _ _).mp hle

/-! ## The report -/

/-- The report is made exactly when the dates that it computes are in the calendar. -/
theorem expiryRiskRows_eq (db : Db) (createdAt : Nat → Instant) (asOf : ℤ) (only : Option Nat) :
    expiryRiskRows db createdAt asOf only =
      if 1 ≤ asOf - 90 ∧ asOf + 365 ≤ lastDay then
        .ok (((consideredRows db createdAt asOf only).filter (·.listed)).insertionSort riskRowOrder)
      else .error ⟨.other, py "date value out of range"⟩ := by
  have hstart : addDays asOf (-((3 : ℕ) * 30)) = if 1 ≤ asOf - 90 ∧ asOf - 90 ≤ lastDay then
      .ok (asOf - 90) else .error ⟨.other, py "date value out of range"⟩ := by
    unfold addDays
    rw [show asOf + -(((3 : ℕ) : ℤ) * 30) = asOf - 90 by omega]
  have hdeadline : addDays asOf (365 : ℕ) = if 1 ≤ asOf + 365 ∧ asOf + 365 ≤ lastDay then
      .ok (asOf + 365) else .error ⟨.other, py "date value out of range"⟩ := rfl
  unfold expiryRiskRows salesVelocityByProduct expiryBatchRows
  rw [hstart, hdeadline]
  by_cases hearly : 1 ≤ asOf - 90
  · by_cases hlate : asOf + 365 ≤ lastDay
    · rw [if_pos ⟨hearly, by omega⟩, if_pos ⟨by omega, hlate⟩, if_pos ⟨hearly, hlate⟩]
      rfl
    · rw [if_neg (show ¬ (1 ≤ asOf + 365 ∧ asOf + 365 ≤ lastDay) from fun h => hlate h.2),
        if_neg (show ¬ (1 ≤ asOf - 90 ∧ asOf + 365 ≤ lastDay) from fun h => hlate h.2)]
      by_cases hstart : asOf - 90 ≤ lastDay
      · rw [if_pos ⟨hearly, hstart⟩]
        rfl
      · rw [if_neg fun h => hstart h.2]
        rfl
  · rw [if_neg (show ¬ (1 ≤ asOf - 90 ∧ asOf - 90 ≤ lastDay) from fun h => hearly h.1),
      if_neg (show ¬ (1 ≤ asOf - 90 ∧ asOf + 365 ≤ lastDay) from fun h => hearly h.1)]
    rfl

/-- What adds nothing may be left out of a sum. -/
private theorem sum_filter_of_zero {α : Type} {p : α → Bool} {f : α → ℤ} {l : List α}
    (h : ∀ a ∈ l, p a = false → f a = 0) : ((l.filter p).map f).sum = (l.map f).sum := by
  induction l with
  | nil => rfl
  | cons a l ih =>
    have hrest := ih fun b hb => h b (List.mem_cons_of_mem a hb)
    cases hp : p a with
    | true =>
      rw [List.filter_cons_of_pos hp, List.map_cons, List.map_cons, List.sum_cons,
        List.sum_cons, hrest]
    | false =>
      rw [List.filter_cons_of_neg (by simp [hp]), List.map_cons, List.sum_cons, hrest,
        h a List.mem_cons_self hp, Int.zero_add]

/-- Of the units of a product that expire by a day, the report lists as unsold all that the
groups do not count as sold: a row that it leaves out counts on every one of its units. -/
theorem expiry_report_accounts {db : Db} {createdAt : Nat → Instant} {asOf : ℤ} {only : Option Nat}
    {rows : List ExpiryRiskRow} (hrows : expiryRiskRows db createdAt asOf only = .ok rows)
    (productId : Nat) (day : ℤ) :
    promisedSales db createdAt asOf only productId day +
        ((rows.filter fun r => r.row.key.productId = productId &&
          decide (r.row.key.expiryDate.toordinal ≤ day)).map (·.unsoldStock)).sum
      = ((stockSerials db only).filterMap (expiryKey (asOf + 365))).countP fun k =>
          k.productId = productId && decide (k.expiryDate.toordinal ≤ day) := by
  set considered := (consideredRows db createdAt asOf only).filter fun r =>
    r.row.key.productId = productId &&
      decide (r.row.key.expiryDate.toordinal ≤ day) with hconsidered
  have hunsold : ((rows.filter fun r => r.row.key.productId = productId &&
      decide (r.row.key.expiryDate.toordinal ≤ day)).map (·.unsoldStock)).sum
        = (considered.map (·.unsoldStock)).sum := by
    rw [expiryRiskRows_eq] at hrows
    split_ifs at hrows
    obtain rfl := Except.ok.inj hrows
    have hperm := ((List.perm_insertionSort riskRowOrder
      ((consideredRows db createdAt asOf only).filter (·.listed))).filter fun r =>
        r.row.key.productId = productId && decide (r.row.key.expiryDate.toordinal ≤ day)).map
          (·.unsoldStock)
    have hcomm : ((consideredRows db createdAt asOf only).filter (·.listed)).filter (fun r =>
        r.row.key.productId = productId && decide (r.row.key.expiryDate.toordinal ≤ day))
          = considered.filter (·.listed) := by
      rw [hconsidered, List.filter_filter, List.filter_filter]
      exact List.filter_congr fun r _ => Bool.and_comm _ _
    rw [hperm.sum_eq, hcomm]
    -- What is not listed has nothing unsold.
    apply sum_filter_of_zero
    intro r hr hout
    obtain ⟨row, -, rfl⟩ := List.mem_map.mp (List.mem_of_mem_filter hr)
    have hnone := (not_or.mp (of_decide_eq_false hout)).1
    have hnonneg : 0 ≤
        (expiryRiskRow (velocitySince db createdAt 3 (asOf - 90) only) row).unsoldStock :=
      le_max_right _ _
    omega
  have hqty : (considered.map fun r => (r.row.qty : ℤ)).sum
      = ((stockKeys db asOf only).countP fun k =>
          k.productId = productId && decide (k.expiryDate.toordinal ≤ day) : ℕ) := by
    have hperm := ((consideredRows_perm db createdAt asOf only).filter fun r =>
      r.row.key.productId = productId && decide (r.row.key.expiryDate.toordinal ≤ day)).map
        fun r => (r.row.qty : ℤ)
    rw [hconsidered, hperm.sum_eq, List.filter_map, List.map_map, ← counter_sum, Nat.cast_list_sum,
      List.map_map]
    congr 1
    apply List.map_congr_left
    intro k _
    show (((stockKeys db asOf only).count k : ℕ) : ℤ) = (Counter.get _ k : ℕ)
    rw [counter_get]
  rw [hunsold]
  refine Eq.trans ?_ hqty
  unfold promisedSales
  rw [← hconsidered, ← List.sum_map_add]
  congr 1
  apply List.map_congr_left
  intro r _
  omega

/-- The product of the stock below. -/
def riceProduct : Product :=
  { id := 1, productCode := py "RICE", productName := py "Rice", nickname := none, category := none,
    brand := none, hsn := py "1006", gstRate := .zero, unit := py "KG", defaultRate := .zero,
    salesDiscountRate := .zero, shelfVerificationInterval := 1, tallyStockItemName := py "Rice",
    alternateTallyStockItemName := none, active := true }

/-- A bag of rice that expires on 31 July 2026. -/
def riceSerial (id : Nat) (warehouse : PyStr) (status : SerialStatus) : Serial :=
  { id := id, serialNumber := py "RICE-" ++ decDigits id, productId := 1, status := status,
    active := true, createdAt := 0, replacedById := none, productBatchNumber := some (py "LOT-1"),
    mfgDate := none, expiryDate := some ⟨2026, 7, 31⟩, warehouse := some warehouse,
    warehouseLevel := .companyWarehouse, locationId := none }

/-- The sale of a bag. -/
def riceSale (id serialId : Nat) : InventoryTransaction :=
  { id := id, transactionType := .sale, serialId := some serialId, productId := some 1,
    batchId := none, userId := 1, serialNumber := some (py "RICE-" ++ decDigits serialId),
    statusFrom := some .inStock, statusTo := some .sold, reasonCode := none,
    tallyReference := none, referenceNumber := none, notes := none }

/-- Two bags in each of two warehouses, and three bags sold. -/
def riceDb : Db :=
  { Db.empty with
    products := [riceProduct]
    serials := [riceSerial 1 (py "Main") .inStock, riceSerial 2 (py "Main") .inStock,
      riceSerial 3 (py "Annex") .inStock, riceSerial 4 (py "Annex") .inStock,
      riceSerial 5 (py "Main") .sold, riceSerial 6 (py "Main") .sold,
      riceSerial 7 (py "Main") .sold]
    transactions := [riceSale 1 5, riceSale 2 6, riceSale 3 7] }

/-- At one sale a month two of four bags are sold in two months. Each warehouse counts on
both sales for itself, so all four count as sold. -/
theorem sales_promised_twice :
    let asOf : ℤ := (Date.mk 2026 6 1).toordinal
    let createdAt := fun _ => ((Date.mk 2026 5 20).toordinal - 1) * 86400000000
    promisedSales riceDb createdAt asOf none 1 (asOf + 60) = 4 ∧
      projectedSales riceDb createdAt asOf 1 (asOf + 60) = 2 := by
  decide +kernel

end SetuoraLite
