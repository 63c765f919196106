import Mathlib.Data.List.MinMax
import Mathlib.Data.Prod.Lex
import SetuoraLite.Audit.Findings
import SetuoraLite.Lib.Casing
import SetuoraLite.Reports.Expiry
import SetuoraLite.Reports.Movement

/-!
# Stock movement

The stock movement report groups the stock by product, warehouse and franchise level, counts
the sales of a window in the same way, and makes a row for each group of either kind. The
product pages add the rows of a product up and take away what the audits are missing.

`stock_movement_conserves`: every unit in stock and every sale is in one row, and what a
product has available is its stock without the serials that were missing when they were last
audited.

Dates are compared and added to by `date.toordinal()`. Floating-point division and
multiplication are parameters. What a row carries for display only (rounded numbers, labels,
CSS classes, the suggested action) is left out.
-/

namespace SetuoraLite

open Lib

/-! ## The rows that are read -/

/-- A row of `audit_findings`, as far as the report reads it. -/
structure StockFinding where
  id : Nat
  serialId : Option Nat
  findingType : FindingType
  createdAt : Instant
deriving DecidableEq

/-- The database with the columns that only reports read: the text of `serials.warehouse_level`
and `inventory_transactions.created_at` by the id of the row, and the findings. Ids are primary
keys, and a serial's product is a foreign key. -/
structure MovementDb where
  db : Db
  levelText : Nat → PyStr
  soldAt : Nat → Instant
  findings : List StockFinding
  serialIds : (db.serials.map (·.id)).Nodup
  findingIds : (findings.map (·.id)).Nodup
  productStored : ∀ s ∈ db.serials, (db.product s.productId).isSome

/-- Floating-point arithmetic, on the numbers it is about. -/
structure Floats where
  div : ℚ → ℚ → ℚ
  mul : ℚ → ℚ → ℚ

/-! ## Configuration, filters and window -/

structure MovementConfig where
  analysisDays : ℤ
  deadBelowPct : ℚ
  slowBelowPct : ℚ
  mediumUpToPct : ℚ

structure MovementFilters where
  productId : Option Nat
  warehouse : PyStr
  category : PyStr
  brand : PyStr
  batch : PyStr
  franchiseLevel : PyStr
  expiryPeriod : PyStr
  movement : PyStr
  startDate : Option ℤ
  endDate : Option ℤ

/-- Filters that only say where the window starts and ends. -/
def unfiltered (startDate endDate : Option ℤ) : MovementFilters :=
  ⟨none, [], [], [], [], [], [], [], startDate, endDate⟩

/-- A window of analysis, with its length. -/
structure AnalysisWindow where
  startDate : ℤ
  endDate : ℤ
  analysisDays : ℤ
deriving DecidableEq

/-- `analysis_window`. -/
def analysisWindow (config : MovementConfig) (filters : MovementFilters) (asOf : ℤ) :
    Except PyError AnalysisWindow := do
  let endDate := filters.endDate.getD asOf
  let startDate ←
    match filters.startDate with
    | some day => .ok day
    | none => addDays endDate (-(config.analysisDays - 1))
  if endDate < startDate then
    .error ⟨.value, py "Start date must be on or before end date."⟩
  else .ok ⟨startDate, endDate, endDate - startDate + 1⟩

/-! ## Where a serial is -/

/-- `_warehouse`. -/
def serialWarehouse (s : Serial) : PyStr := strip (orText s.warehouse (py "Main Warehouse"))

/-- `warehouse_level`. -/
def warehouseLevelText (warehouse : PyStr) : PyStr :=
  let text := replaceAll (py "-") (py " ") (upper (strip warehouse))
  if py "HOME FRANCHISE" <:+: text then py "Home Franchise"
  else if py "TALUK" <:+: text then py "Taluk Franchise"
  else if py "MASTER FRANCHISE" <:+: text then py "Master Franchise"
  else if py "C&F" <:+: text ∨ py "C AND F" <:+: text ∨ py "CNF" <:+: text then py "C&F"
  else py "Company Warehouse"

/-- `_serial_warehouse_level`. -/
def serialWarehouseLevel (levelText : Nat → PyStr) (s : Serial) : PyStr :=
  match WarehouseLevel.ofText (levelText s.id) with
  | some level => level.value
  | none => warehouseLevelText (serialWarehouse s)

/-- `not value or field == value`. -/
def matchesText (value field : PyStr) : Bool := value = [] || field = value

/-- `_product_matches`. -/
def productMatches (filters : MovementFilters) (p : Product) : Bool :=
  (filters.productId.all fun id => id = 0 || p.id = id) &&
    matchesText filters.category (p.category.getD []) && matchesText filters.brand (p.brand.getD [])

/-- `_serial_matches`. -/
def serialMatches (levelText : Nat → PyStr) (filters : MovementFilters) (s : Serial) : Bool :=
  matchesText filters.warehouse (serialWarehouse s) &&
    matchesText filters.batch (s.productBatchNumber.getD []) &&
    matchesText filters.franchiseLevel (serialWarehouseLevel levelText s)

/-- `_expiry_matches`. -/
def expiryMatches (rt : Runtime) (expiryDates : List ℤ) (expiryPeriod : PyStr) (asOf : ℤ) :
    Except PyError Bool :=
  if expiryPeriod = [] then .ok true
  else if expiryPeriod = py "none" then .ok expiryDates.isEmpty
  else if expiryPeriod = py "expired" then .ok (expiryDates.any (· < asOf))
  else
    match rt.intOfText expiryPeriod with
    | none => .ok true
    | some days => do
      let deadline ← addDays asOf days
      .ok (expiryDates.any fun expiry => asOf ≤ expiry && expiry ≤ deadline)

/-- `_expiry_date_matches`; the second half of `a <= b <= c` waits for the first. -/
def expiryDateMatches (rt : Runtime) (expiry : Option ℤ) (expiryPeriod : PyStr) (asOf : ℤ) :
    Except PyError Bool :=
  if expiryPeriod = [] then .ok true
  else if expiryPeriod = py "none" then .ok expiry.isNone
  else
    match expiry with
    | none => .ok false
    | some expiry =>
      if expiryPeriod = py "expired" then .ok (expiry < asOf)
      else
        match rt.intOfText expiryPeriod with
        | none => .ok true
        | some days =>
          if asOf ≤ expiry then (addDays asOf days).map fun deadline => expiry ≤ deadline
          else .ok false

/-! ## The loops -/

/-- What stock and sales are grouped by. -/
structure MovementKey where
  productId : Nat
  warehouse : PyStr
  franchiseLevel : PyStr
deriving DecidableEq

/-- The group of a serial under a product. -/
def movementKey (levelText : Nat → PyStr) (productId : Nat) (s : Serial) : MovementKey :=
  ⟨productId, serialWarehouse s, serialWarehouseLevel levelText s⟩

/-- A loop that may `continue`, and may raise. -/
def eachKept {α β : Type} (f : α → Except PyError (Option β)) (xs : List α) :
    Except PyError (List β) :=
  (xs.mapM f).map List.reduceOption

/-- `Serial.active.is_(True), Serial.status.in_(STOCK_STATUSES)`. -/
def Serial.inStock (s : Serial) : Bool := s.active && decide (s.status ∈ stockStatuses)

/-- The stock with its products. -/
def MovementDb.stockPairs (d : MovementDb) : List (Serial × Product) :=
  (d.db.serials.filter Serial.inStock).filterMap fun s =>
    (d.db.product s.productId).map fun p => (s, p)

/-- The stock that the filters keep. -/
def MovementDb.keptStock (d : MovementDb) (rt : Runtime) (filters : MovementFilters) (asOf : ℤ) :
    Except PyError (List Serial) :=
  eachKept (fun (s, p) =>
    if productMatches filters p && serialMatches d.levelText filters s then
      (expiryDateMatches rt (s.expiryDate.map fun e => (e.toordinal : ℤ))
        filters.expiryPeriod asOf).map
        fun kept => if kept then some s else none
    else .ok none) d.stockPairs

/-- `InventoryTransaction` of a sale between two instants. -/
def MovementDb.isSale (d : MovementDb) (startAt endAt : ℤ) (t : InventoryTransaction) : Bool :=
  t.transactionType = .sale && t.statusTo = some .sold &&
    decide (startAt ≤ d.soldAt t.id) && decide (d.soldAt t.id < endAt)

/-- The product and the serial of a transaction, where both are there. -/
def MovementDb.soldPair (d : MovementDb) (t : InventoryTransaction) : Option (Serial × Product) :=
  (t.productId.bind d.db.product).bind fun p => (t.serialId.bind d.db.serial).map fun s => (s, p)

/-- The groups of the sales that the filters keep. -/
def MovementDb.keptSales (d : MovementDb) (filters : MovementFilters) (w : AnalysisWindow) :
    List MovementKey :=
  let sold :=
    d.db.transactions.filter (d.isSale (startOfDay w.startDate) (startOfDay (w.endDate + 1)))
  ((sold.filterMap d.soldPair).filter fun (s, p) =>
    productMatches filters p && serialMatches d.levelText filters s).map fun (s, p) =>
      movementKey d.levelText p.id s

/-! ## The rows -/

/-- `movement_status`. -/
def movementStatus (stock sold : ℕ) (ratioPct : Option ℚ) (config : MovementConfig) : PyStr :=
  if stock = 0 ∧ 0 < sold then py "Fast Moving"
  else
    match ratioPct with
    | none => py "Dead Stock"
    | some ratioPct =>
      if sold = 0 then py "Dead Stock"
      else if ratioPct < config.deadBelowPct then py "Dead Stock"
      else if ratioPct < config.slowBelowPct then py "Slow Moving"
      else if ratioPct ≤ config.mediumUpToPct then py "Medium Moving"
      else py "Fast Moving"

/-- `_inventory_signal`. -/
def inventorySignal (stock sold : ℕ) (dailySales : ℚ) (clearDays : Option ℚ)
    (analysisDays : ℤ) : PyStr :=
  if stock = 0 ∧ 0 < sold then py "Understocked"
  else if 0 < stock ∧ dailySales = 0 then py "Overstocked"
  else
    match clearDays with
    | none => py "Normal Movement"
    | some clearDays =>
      if clearDays < 14 then py "Understocked"
      else if (analysisDays * 2 : ℤ) < clearDays then py "Overstocked"
      else py "Normal Movement"

structure MovementRow where
  productId : Nat
  productName : PyStr
  warehouse : PyStr
  franchiseLevel : PyStr
  currentStock : ℕ
  unitsSold : ℕ
  movementStatus : PyStr
  inventorySignal : PyStr
  expiry : ExpiryProjection
deriving DecidableEq

/-- The key that a row was made for. -/
def MovementRow.key (r : MovementRow) : MovementKey := ⟨r.productId, r.warehouse, r.franchiseLevel⟩

/-- The row of a group: `stock` is the kept stock, `sales` the groups of the kept sales. -/
def movementRow (fl : Floats) (d : MovementDb) (config : MovementConfig) (w : AnalysisWindow)
    (asOf : ℤ) (stock : List Serial) (sales : List MovementKey) (key : MovementKey) : MovementRow :=
  let group := stock.filter fun s => movementKey d.levelText s.productId s = key
  let sold := Counter.get (counter sales) key
  let expiryQuantities :=
    counter (group.filterMap fun s => s.expiryDate.map fun e => (e.toordinal : ℤ))
  let ratioPct := if group.length = 0 then none else some (fl.mul (fl.div sold group.length) 100)
  let dailySales := fl.div sold w.analysisDays
  let clearDays := if dailySales = 0 then none else some (fl.div group.length dailySales)
  { productId := key.productId
    productName := ((d.db.product key.productId).map (·.productName)).getD []
    warehouse := key.warehouse
    franchiseLevel := key.franchiseLevel
    currentStock := group.length
    unitsSold := sold
    movementStatus := movementStatus group.length sold ratioPct config
    inventorySignal := inventorySignal group.length sold dailySales clearDays w.analysisDays
    expiry := expiryProjection expiryQuantities dailySales asOf }

/-- The row of a group, when the filters keep it. -/
def keptRow (rt : Runtime) (filters : MovementFilters) (asOf : ℤ) (expiryDates : List ℤ)
    (row : MovementRow) :
    Except PyError (Option MovementRow) :=
  (expiryMatches rt expiryDates filters.expiryPeriod asOf).map fun kept =>
    if kept && matchesText filters.movement row.movementStatus then some row else none

/-- `status_order`. -/
def statusOrder (status : PyStr) : ℕ :=
  if status = py "Dead Stock" then 0
  else if status = py "Slow Moving" then 1
  else if status = py "Medium Moving" then 2
  else if status = py "Fast Moving" then 3
  else 9

/-- `expiry_risk != "High Expiry Risk"`, as a number. -/
def riskOrder (r : MovementRow) : ℕ := if r.expiry.risk = py "High Expiry Risk" then 0 else 1

/-- The sort key of the rows, compared. -/
def movementRowOrder (a b : MovementRow) : Prop :=
  riskOrder a < riskOrder b ∨ (riskOrder a = riskOrder b ∧
    (statusOrder a.movementStatus < statusOrder b.movementStatus ∨
      (statusOrder a.movementStatus = statusOrder b.movementStatus ∧
        (¬ strLe b.productName a.productName = true ∨
          (a.productName = b.productName ∧ strLe a.warehouse b.warehouse = true)))))

instance (a b : MovementRow) : Decidable (movementRowOrder a b) :=
  inferInstanceAs (Decidable (_ ∨ (_ ∧ (_ ∨ (_ ∧ (_ ∨ (_ ∧ _)))))))

structure MovementSummary where
  window : AnalysisWindow
  totalProducts : ℕ
  currentStock : ℕ
  unitsSold : ℕ
  fast : ℕ
  medium : ℕ
  slow : ℕ
  dead : ℕ
  expiryRisk : ℕ
  overstocked : ℕ
  understocked : ℕ
deriving DecidableEq

def movementSummary (w : AnalysisWindow) (rows : List MovementRow) : MovementSummary :=
  let moving (status : PyStr) := rows.countP fun r => r.movementStatus = status
  let signalled (signal : PyStr) := rows.countP fun r => r.inventorySignal = signal
  { window := w
    totalProducts := (rows.map (·.productId)).dedup.length
    currentStock := (rows.map (·.currentStock)).sum
    unitsSold := (rows.map (·.unitsSold)).sum
    fast := moving (py "Fast Moving")
    medium := moving (py "Medium Moving")
    slow := moving (py "Slow Moving")
    dead := moving (py "Dead Stock")
    expiryRisk := rows.countP fun r => riskOrder r = 0
    overstocked := signalled (py "Overstocked")
    understocked := signalled (py "Understocked") }

/-- `stock_groups.keys() | sales_groups.keys()`. -/
def groupKeys (sets : SetOrder MovementKey) (levelText : Nat → PyStr) (stock : List Serial)
    (sales : List MovementKey) : List MovementKey :=
  sets.order (stock.map (fun s => movementKey levelText s.productId s) ++ sales).dedup

/-- `stock_movement_rows`. -/
def stockMovementRows (rt : Runtime) (fl : Floats) (sets : SetOrder MovementKey) (d : MovementDb)
    (config : MovementConfig) (filters : MovementFilters) (asOf : Option ℤ) (today : ℤ) :
    Except PyError (List MovementRow × MovementSummary) := do
  let asOf := (asOf.or filters.endDate).getD today
  let w ← analysisWindow config filters asOf
  let _ ← addDays w.endDate 1
  let stock ← d.keptStock rt filters asOf
  let sales := d.keptSales filters w
  let rows ← eachKept (fun key =>
    let group := stock.filter fun s => movementKey d.levelText s.productId s = key
    let expiryDates := (group.filterMap fun s => s.expiryDate.map fun e => (e.toordinal : ℤ)).dedup
    keptRow rt filters asOf expiryDates (movementRow fl d config w asOf stock sales key))
    (groupKeys sets d.levelText stock sales)
  let sorted := rows.insertionSort movementRowOrder
  .ok (sorted, movementSummary w sorted)

/-! ## What a product has available -/

/-- A finding of the same serial that is newer. -/
def StockFinding.newer (f g : StockFinding) : Bool :=
  g.serialId = f.serialId &&
    (decide (f.createdAt < g.createdAt) || (g.createdAt = f.createdAt && decide (f.id < g.id)))

/-- `current_missing_stock_findings_query`. -/
def MovementDb.currentMissingStockFindings (d : MovementDb) : List StockFinding :=
  (d.findings.filter fun f =>
    f.findingType = .missing && ((f.serialId.bind d.db.serial).any Serial.inStock) &&
      !(d.findings.any f.newer)).insertionSort fun f g =>
        g.createdAt < f.createdAt ∨ (g.createdAt = f.createdAt ∧ g.id ≤ f.id)

/-- When to restock. -/
inductive Restock
  | notForecast
  | now
  | inDays (days day : ℤ)
deriving DecidableEq

structure ProductMetrics where
  productId : Nat
  unitsSold : ℕ
  systemStock : ℕ
  availableStock : ℤ
  missingStock : ℕ
  restock : Restock
deriving DecidableEq

/-- The metrics of a product before the loops. -/
def ProductMetrics.initial (productId : Nat) : ProductMetrics :=
  ⟨productId, 0, 0, 0, 0, .notForecast⟩

/-- One round over the movement rows. -/
def addMovementRow (metrics : List ProductMetrics) (row : MovementRow) : List ProductMetrics :=
  modifyRow (·.productId) row.productId (fun m =>
    { m with unitsSold := m.unitsSold + row.unitsSold,
             systemStock := m.systemStock + row.currentStock }) metrics

/-- One round over the missing findings. -/
def addMissingFinding (d : MovementDb) (metrics : List ProductMetrics) (f : StockFinding) :
    List ProductMetrics :=
  match f.serialId.bind d.db.serial with
  | some s =>
    modifyRow (·.productId) s.productId
      (fun m => { m with missingStock := m.missingStock + 1 }) metrics
  | none => metrics

/-- The last round, on one product. -/
def finishMetrics (fl : Floats) (analysisDays asOf : ℤ) (m : ProductMetrics) :
    Except PyError ProductMetrics :=
  let availableStock := max ((m.systemStock : ℤ) - m.missingStock) 0
  let m := { m with availableStock := availableStock }
  if m.unitsSold = 0 then .ok m
  else if availableStock = 0 then .ok { m with restock := .now }
  else do
    let daysRemaining := max 1 ⌈fl.div availableStock (fl.div m.unitsSold analysisDays)⌉
    let day ← addDays asOf daysRemaining
    .ok { m with restock := .inDays daysRemaining day }

/-- `product_inventory_metrics`. -/
def productInventoryMetrics (rt : Runtime) (fl : Floats) (sets : SetOrder MovementKey)
    (d : MovementDb) (products : List Product) (config : MovementConfig) (asOf : ℤ) :
    Except PyError (List ProductMetrics × ℤ) := do
  let (rows, summary) ← stockMovementRows rt fl sets d config (unfiltered none none)
    (some asOf) asOf
  let analysisDays := summary.window.analysisDays
  let metrics := (products.map (·.id)).dedup.map ProductMetrics.initial
  let metrics := rows.foldl addMovementRow metrics
  let metrics := d.currentMissingStockFindings.foldl (addMissingFinding d) metrics
  let metrics ← metrics.mapM (finishMetrics fl analysisDays asOf)
  .ok (metrics, analysisDays)

/-! ## The loops without filters -/

theorem eachKept_all {α β : Type} {f : α → Except PyError (Option β)} {g : α → β} {xs : List α}
    (h : ∀ x ∈ xs, f x = .ok (some (g x))) : eachKept f xs = .ok (xs.map g) := by
  have hmap : xs.mapM f = .ok (xs.map fun x => some (g x)) := except_mapM_pure h
  have hkept : (xs.map fun x => some (g x)).reduceOption = xs.map g := by
    change (xs.map fun x => some (g x)).filterMap id = xs.map g
    rw [List.filterMap_map]
    exact congrFun (List.filterMap_eq_map (f := g)) xs
  unfold eachKept
  rw [hmap, ← hkept]
  rfl

section Unfiltered

variable (rt : Runtime) (fl : Floats) (sets : SetOrder MovementKey) (d : MovementDb)
    (config : MovementConfig)
variable (startDate endDate : Option ℤ)

/-- The stock of the report: every active serial in stock. -/
def MovementDb.stock : List Serial := d.db.serials.filter Serial.inStock

theorem stockPairs_fst : d.stockPairs.map (·.1) = d.stock := by
  unfold MovementDb.stockPairs MovementDb.stock
  rw [List.map_filterMap]
  have hall : ∀ s ∈ d.db.serials.filter Serial.inStock,
      ((d.db.product s.productId).map fun p => (s, p)).map (·.1) = some s := by
    intro s hs
    obtain ⟨p, hp⟩ := Option.isSome_iff_exists.mp (d.productStored s (List.mem_filter.mp hs).1)
    rw [hp]
    rfl
  rw [List.filterMap_congr hall, List.filterMap_some]

theorem keptStock_unfiltered (asOf : ℤ) :
    d.keptStock rt (unfiltered startDate endDate) asOf = .ok d.stock := by
  unfold MovementDb.keptStock
  rw [eachKept_all (g := Prod.fst), stockPairs_fst]
  intro pair _
  rfl

/-- The groups of the sales of a window. -/
def MovementDb.sales (w : AnalysisWindow) : List MovementKey :=
  ((d.db.transactions.filter
    (d.isSale (startOfDay w.startDate) (startOfDay (w.endDate + 1)))).filterMap
    d.soldPair).map fun pair => movementKey d.levelText pair.2.id pair.1

theorem keptSales_unfiltered (w : AnalysisWindow) :
    d.keptSales (unfiltered startDate endDate) w = d.sales w := by
  unfold MovementDb.keptSales MovementDb.sales
  exact congrArg _ (List.filter_eq_self.mpr fun _ _ => rfl)

/-- The rows of a window, without filters and before they are sorted. -/
def movementRows (w : AnalysisWindow) (asOf : ℤ) : List MovementRow :=
  (groupKeys sets d.levelText d.stock (d.sales w)).map
    (movementRow fl d config w asOf d.stock (d.sales w))

/-- Without filters there is a row for every group. -/
theorem stockMovementRows_unfiltered (asOf : Option ℤ) (today : ℤ) :
    stockMovementRows rt fl sets d config (unfiltered startDate endDate) asOf today =
      (analysisWindow config (unfiltered startDate endDate) ((asOf.or endDate).getD today)).bind
        fun w =>
        (addDays w.endDate 1).bind fun _ =>
          let rows :=
  (movementRows fl sets d config w ((asOf.or endDate).getD today)).insertionSort movementRowOrder
          .ok (rows, movementSummary w rows) := by
  unfold stockMovementRows
  show (analysisWindow config (unfiltered startDate endDate) ((asOf.or endDate).getD today)).bind
    _ = _
  congr 1
  funext w
  show (addDays w.endDate 1).bind _ = _
  congr 1
  funext _
  rw [keptStock_unfiltered, keptSales_unfiltered]
  show Except.bind (eachKept _ _) _ = _
  rw [eachKept_all
    (g := movementRow fl d config w ((asOf.or endDate).getD today) d.stock (d.sales w))]
  · rfl
  · intro key _
    rfl

end Unfiltered

/-! ## Units are conserved -/

section Units

variable (fl : Floats) (sets : SetOrder MovementKey) (d : MovementDb) (config : MovementConfig)
variable (w : AnalysisWindow) (asOf : ℤ)

/-- The group of a serial in stock. -/
def MovementDb.groupOf (s : Serial) : MovementKey := movementKey d.levelText s.productId s

theorem groupKeys_perm (stock : List Serial) (sales : List MovementKey) :
    (groupKeys sets d.levelText stock sales).Perm ((stock.map d.groupOf ++ sales).dedup) :=
  sets.perm _

theorem groupKeys_nodup (stock : List Serial) (sales : List MovementKey) :
    (groupKeys sets d.levelText stock sales).Nodup :=
  (groupKeys_perm sets d stock sales).nodup_iff.mpr (List.nodup_dedup _)

theorem mem_groupKeys {stock : List Serial} {sales : List MovementKey} {k : MovementKey} :
    k ∈ groupKeys sets d.levelText stock sales ↔ k ∈ stock.map d.groupOf ∨ k ∈ sales := by
  rw [(groupKeys_perm sets d stock sales).mem_iff, List.mem_dedup, List.mem_append]

/-- Each group has one row. -/
theorem movementRows_keys : ((movementRows fl sets d config w asOf).map (·.key)).Nodup := by
  unfold movementRows
  rw [List.map_map]
  have hkey : (fun r : MovementRow => r.key) ∘ movementRow fl d config w asOf d.stock
      (d.sales w) = id := rfl
  rw [hkey, List.map_id]
  exact groupKeys_nodup sets d d.stock (d.sales w)

/-- The stock in the rows of some groups is the stock of these groups. -/
theorem movementRows_stock (p : MovementKey → Bool) :
    (((movementRows fl sets d config w asOf).filter fun r => p r.key).map (·.currentStock)).sum
      = d.stock.countP fun s => p (d.groupOf s) := by
  have hrow : ∀ k, (movementRow fl d config w asOf d.stock (d.sales w) k).currentStock
      = (d.stock.map d.groupOf).count k := by
    intro k
    show (d.stock.filter fun s => d.groupOf s = k).length = _
    rw [List.count_eq_countP, List.countP_map, List.countP_eq_length_filter]
    congr 2
  unfold movementRows
  rw [List.filter_map, List.map_map]
  have hcount : (d.stock.countP fun s => p (d.groupOf s)) = (d.stock.map d.groupOf).countP p := by
    rw [List.countP_map]
    rfl
  rw [hcount, ← sum_count_of_nodup (groupKeys_nodup sets d d.stock (d.sales w))
    (fun k hk => (mem_groupKeys sets d).mpr (.inl hk)) p]
  congr 1
  exact List.map_congr_left fun k _ => hrow k

/-- The sales in the rows of some groups are the sales of these groups. -/
theorem movementRows_sold (p : MovementKey → Bool) :
    (((movementRows fl sets d config w asOf).filter fun r => p r.key).map (·.unitsSold)).sum
      = (d.sales w).countP p := by
  have hrow : ∀ k,
      (movementRow fl d config w asOf d.stock (d.sales w) k).unitsSold = (d.sales w).count k :=
    fun k => counter_get (d.sales w) k
  unfold movementRows
  rw [List.filter_map, List.map_map,
    ← sum_count_of_nodup (groupKeys_nodup sets d d.stock (d.sales w))
    (fun k hk => (mem_groupKeys sets d).mpr (.inr hk)) p]
  congr 1
  exact List.map_congr_left fun k _ => hrow k

/-- The sales of the window whose product and serial are still there. -/
def MovementDb.soldUnits : ℕ :=
  d.db.transactions.countP fun t =>
    d.isSale (startOfDay w.startDate) (startOfDay (w.endDate + 1)) t && (d.soldPair t).isSome

theorem sales_length : (d.sales w).length = d.soldUnits w := by
  unfold MovementDb.sales MovementDb.soldUnits
  rw [List.length_map, List.length_filterMap_eq_countP, List.countP_filter]
  congr 1
  funext t
  exact Bool.and_comm _ _

end Units

/-! ## Missing stock -/

section Missing

variable (d : MovementDb)

/-- The newest finding of a serial, by `created_at` and then by id. -/
def MovementDb.latestFinding (serialId : Nat) : Option StockFinding :=
  (d.findings.filter fun f => f.serialId = some serialId).argmax fun f => toLex (f.createdAt, f.id)

/-- The serial was missing when it was last audited. -/
def MovementDb.isMissing (s : Serial) : Bool :=
  (d.latestFinding s.id).any fun f => f.findingType = .missing

theorem newer_iff {f g : StockFinding} :
    f.newer g = true ↔
      g.serialId = f.serialId ∧ toLex (f.createdAt, f.id) < toLex (g.createdAt, g.id) := by
  unfold StockFinding.newer
  rw [Prod.Lex.toLex_lt_toLex]
  simp only [Bool.and_eq_true, Bool.or_eq_true, decide_eq_true_eq]
  rw [eq_comm (a := g.createdAt)]

/-- Two findings of a serial, neither of them older: they are one. -/
theorem finding_eq {f g : StockFinding} (hf : f ∈ d.findings) (hg : g ∈ d.findings)
    (hserial : g.serialId = f.serialId) (hfg : ¬ f.newer g = true) (hgf : ¬ g.newer f = true) :
    f = g := by
  rw [newer_iff] at hfg hgf
  have hle : toLex (f.createdAt, f.id) = toLex (g.createdAt, g.id) :=
    le_antisymm (not_lt.mp fun h => hgf ⟨hserial.symm, h⟩) (not_lt.mp fun h => hfg ⟨hserial, h⟩)
  have hid : f.id = g.id := congrArg (fun k => (ofLex k).2) hle
  exact eq_of_key_eq d.findingIds hf hg hid

/-- A finding that no other is newer than is the latest of its serial. -/
theorem latestFinding_iff {f : StockFinding} {serialId : Nat} :
    d.latestFinding serialId = some f ↔
      f ∈ d.findings ∧ f.serialId = some serialId ∧ ∀ g ∈ d.findings, ¬ f.newer g = true := by
  unfold MovementDb.latestFinding
  constructor
  · intro h
    obtain ⟨hf, hserial⟩ := List.mem_filter.mp (List.argmax_mem h)
    have hserial : f.serialId = some serialId := by simpa using hserial
    refine ⟨hf, hserial, fun g hg hnewer => ?_⟩
    obtain ⟨heq, hlt⟩ := newer_iff.mp hnewer
    have hmem : g ∈ d.findings.filter fun f => f.serialId = some serialId :=
      List.mem_filter.mpr ⟨hg, by simp [heq, hserial]⟩
    exact List.not_lt_of_mem_argmax hmem h hlt
  · rintro ⟨hf, hserial, hnewest⟩
    have hmem : f ∈ d.findings.filter fun f => f.serialId = some serialId :=
      List.mem_filter.mpr ⟨hf, by simp [hserial]⟩
    cases hmax : (d.findings.filter fun f => f.serialId = some serialId).argmax
        fun f => toLex (f.createdAt, f.id) with
    | none => exact absurd (List.argmax_eq_none.mp hmax) (List.ne_nil_of_mem hmem)
    | some g =>
      obtain ⟨hg, hgserial⟩ := List.mem_filter.mp (List.argmax_mem hmax)
      have hsame : g.serialId = f.serialId := by
        rw [hserial]
        simpa using hgserial
      have hgf : ¬ g.newer f = true := fun hnewer =>
        List.not_lt_of_mem_argmax hmem hmax (newer_iff.mp hnewer).2
      rw [finding_eq d hf hg hsame (hnewest g hg) hgf]

theorem mem_currentMissing {f : StockFinding} :
    f ∈ d.currentMissingStockFindings ↔ f ∈ d.findings ∧ f.findingType = .missing ∧
      (f.serialId.bind d.db.serial).any Serial.inStock = true ∧
      ∀ g ∈ d.findings, ¬ f.newer g = true := by
  unfold MovementDb.currentMissingStockFindings
  rw [(List.perm_insertionSort _ _).mem_iff, List.mem_filter]
  simp only [Bool.and_eq_true, decide_eq_true_eq, Bool.not_eq_true', Bool.eq_false_iff, ne_eq,
    List.any_eq_true,
    not_exists, not_and]
  tauto

theorem currentMissing_nodup : d.currentMissingStockFindings.Nodup :=
  (List.perm_insertionSort _ _).nodup_iff.mpr ((List.Nodup.of_map _ d.findingIds).filter _)

/-- The serial of a finding belongs to the product. -/
def StockFinding.isOf (d : MovementDb) (productId : Nat) (f : StockFinding) : Bool :=
  (f.serialId.bind d.db.serial).any fun s => s.productId = productId

/-- The current missing findings of a product are its serials in stock that are missing, one
finding for each. -/
theorem currentMissing_count (productId : Nat) :
    d.currentMissingStockFindings.countP (StockFinding.isOf d productId)
      = d.stock.countP fun s => s.productId = productId && d.isMissing s := by
  let found := d.currentMissingStockFindings.filter (StockFinding.isOf d productId)
  let lost := d.stock.filter fun s => s.productId = productId && d.isMissing s
  -- One finding a serial: two of one serial would each be newer than the other.
  have hfound : (found.map (·.serialId)).Nodup := by
    refine List.Nodup.map_on ?_ ((currentMissing_nodup d).filter _)
    intro f hf g hg hserial
    obtain ⟨hf, -, -, hfnew⟩ := (mem_currentMissing d).mp (List.mem_filter.mp hf).1
    obtain ⟨hg, -, -, hgnew⟩ := (mem_currentMissing d).mp (List.mem_filter.mp hg).1
    exact finding_eq d hf hg hserial.symm (hfnew g hg) (hgnew f hf)
  -- The lost units are told apart by their ids.
  have hlost : (lost.map fun s => some s.id).Nodup := by
    have hids : (lost.map (·.id)).Nodup :=
      d.serialIds.sublist ((List.filter_sublist.trans List.filter_sublist).map _)
    have hmap : (lost.map fun s => some s.id) = (lost.map (·.id)).map some := by
      rw [List.map_map]
      rfl
    rw [hmap]
    exact hids.map (Option.some_injective _)
  -- The serials of the findings are the ids of the lost units.
  have hsame : ∀ o, o ∈ found.map (·.serialId) ↔ o ∈ lost.map fun s => some s.id := by
    intro o
    constructor
    · intro ho
      obtain ⟨f, hf, rfl⟩ := List.mem_map.mp ho
      obtain ⟨hf, hof⟩ := List.mem_filter.mp hf
      obtain ⟨hf, htype, hstock, hnew⟩ := (mem_currentMissing d).mp hf
      unfold StockFinding.isOf at hof
      cases hserial : f.serialId with
      | none =>
        rw [hserial] at hof
        exact absurd hof Bool.false_ne_true
      | some id =>
        rw [hserial] at hof hstock
        cases hrow : d.db.serial id with
        | none =>
          have hnone : (some id).bind d.db.serial = none := hrow
          rw [hnone] at hof
          exact absurd hof Bool.false_ne_true
        | some s =>
          have hsome : (some id).bind d.db.serial = some s := hrow
          rw [hsome] at hof hstock
          obtain ⟨hs, rfl⟩ := lookup_some hrow
          have hlatest := (latestFinding_iff d).mpr ⟨hf, hserial, hnew⟩
          have hmissing : d.isMissing s = true := by
            unfold MovementDb.isMissing
            rw [hlatest]
            simpa using htype
          have hof : (s.productId = productId) := by simpa using hof
          refine List.mem_map.mpr
            ⟨s, List.mem_filter.mpr ⟨List.mem_filter.mpr ⟨hs, hstock⟩, ?_⟩, rfl⟩
          simp [hof, hmissing]
    · intro ho
      obtain ⟨s, hs, rfl⟩ := List.mem_map.mp ho
      obtain ⟨hs, hlost⟩ := List.mem_filter.mp hs
      obtain ⟨hs, hstock⟩ := List.mem_filter.mp hs
      obtain ⟨hof, hmissing⟩ := Bool.and_eq_true_iff.mp hlost
      unfold MovementDb.isMissing at hmissing
      obtain ⟨f, hlatest, htype⟩ := (Option.any_eq_true _ _).mp hmissing
      obtain ⟨hf, hserial, hnew⟩ := (latestFinding_iff d).mp hlatest
      have hrow : d.db.serial s.id = some s := lookup_of_mem d.serialIds hs
      have hbind : f.serialId.bind d.db.serial = some s := by
        rw [hserial]
        exact hrow
      have hf : f ∈ d.currentMissingStockFindings :=
        (mem_currentMissing d).mpr ⟨hf, by simpa using htype, by rw [hbind]; exact hstock, hnew⟩
      refine List.mem_map.mpr ⟨f, List.mem_filter.mpr ⟨hf, ?_⟩, hserial⟩
      unfold StockFinding.isOf
      rw [hbind]
      exact hof
  -- Two lists without repetition and with the same members are as long.
  have hperm := (List.perm_ext_iff_of_nodup hfound hlost).mpr hsame
  rw [List.countP_eq_length_filter, List.countP_eq_length_filter]
  show found.length = lost.length
  simpa using hperm.length_eq

end Missing

/-! ## The metrics of a product -/

section Metrics

variable (d : MovementDb)

/-- The loop over the movement rows adds up the rows of each product. -/
theorem foldl_addMovementRow (rows : List MovementRow) (metrics : List ProductMetrics) :
    rows.foldl addMovementRow metrics = metrics.map fun m =>
      { m with
        unitsSold :=
          m.unitsSold + ((rows.filter fun r => r.productId = m.productId).map (·.unitsSold)).sum
        systemStock := m.systemStock +
          ((rows.filter fun r => r.productId = m.productId).map (·.currentStock)).sum } := by
  induction rows generalizing metrics with
  | nil => simp
  | cons r rows ih =>
    rw [List.foldl_cons, ih]
    unfold addMovementRow modifyRow
    rw [List.map_map]
    refine List.map_congr_left fun m _ => ?_
    by_cases hm : m.productId = r.productId
    · simp [hm, Nat.add_assoc]
    · have hne : ¬ r.productId = m.productId := fun h => hm h.symm
      simp [hm, hne]

/-- The loop over the missing findings counts the findings of each product. -/
theorem foldl_addMissingFinding (findings : List StockFinding) (metrics : List ProductMetrics) :
    findings.foldl (addMissingFinding d) metrics = metrics.map fun m =>
      { m with
        missingStock := m.missingStock + findings.countP (StockFinding.isOf d m.productId) } := by
  induction findings generalizing metrics with
  | nil => simp
  | cons f findings ih =>
    rw [List.foldl_cons, ih]
    unfold addMissingFinding
    cases hserial : f.serialId.bind d.db.serial with
    | none =>
      refine List.map_congr_left fun m _ => ?_
      have hnot : StockFinding.isOf d m.productId f = false := by
        unfold StockFinding.isOf
        rw [hserial]
        rfl
      rw [List.countP_cons_of_neg (by simp [hnot])]
    | some s =>
      dsimp only
      unfold modifyRow
      rw [List.map_map]
      refine List.map_congr_left fun m _ => ?_
      have hof : StockFinding.isOf d m.productId f = decide (s.productId = m.productId) := by
        unfold StockFinding.isOf
        rw [hserial]
        rfl
      rw [List.countP_cons, hof]
      by_cases hm : m.productId = s.productId
      · simp [hm, Nat.add_assoc, Nat.add_comm]
      · have hne : ¬ s.productId = m.productId := fun h => hm h.symm
        simp [hm, hne]

/-- The units of a product in stock. -/
def MovementDb.stockUnits (productId : Nat) : ℕ := d.stock.countP fun s => s.productId = productId

/-- The units of a product in stock that were missing when they were last audited. -/
def MovementDb.missingUnits (productId : Nat) : ℕ :=
  d.stock.countP fun s => s.productId = productId && d.isMissing s

/-- The units of a product in stock that are there. -/
def MovementDb.availableUnits (productId : Nat) : ℕ :=
  d.stock.countP fun s => s.productId = productId && !d.isMissing s

theorem stockUnits_eq (productId : Nat) :
    d.stockUnits productId = d.missingUnits productId + d.availableUnits productId := by
  unfold MovementDb.stockUnits MovementDb.missingUnits MovementDb.availableUnits
  induction d.stock with
  | nil => rfl
  | cons s rest ih =>
    simp only [List.countP_cons, ih]
    by_cases hp : s.productId = productId
    · cases hm : d.isMissing s <;> simp [hp] <;> omega
    · simp [hp]

/-- The metrics of a product after the two loops. -/
def ProductMetrics.counted (w : AnalysisWindow) (productId : Nat) : ProductMetrics :=
  ⟨productId, (d.sales w).countP fun k => k.productId = productId, d.stockUnits productId, 0,
    d.missingUnits productId, .notForecast⟩

theorem loops_counted (fl : Floats) (sets : SetOrder MovementKey) (config : MovementConfig)
    (w : AnalysisWindow) (asOf : ℤ) (ids : List Nat) :
    d.currentMissingStockFindings.foldl (addMissingFinding d)
        (((movementRows fl sets d config w asOf).insertionSort movementRowOrder).foldl
          addMovementRow
          (ids.map ProductMetrics.initial))
      = ids.map (ProductMetrics.counted d w) := by
  rw [foldl_addMovementRow, foldl_addMissingFinding, List.map_map, List.map_map]
  refine List.map_congr_left fun id _ => ?_
  have hperm :=
    (List.perm_insertionSort movementRowOrder (movementRows fl sets d config w asOf)).filter
    fun r => decide (r.productId = id)
  have hsold := movementRows_sold fl sets d config w asOf fun k => decide (k.productId = id)
  have hstock := movementRows_stock fl sets d config w asOf fun k => decide (k.productId = id)
  have hmissing := currentMissing_count d id
  simp only [Function.comp_apply, ProductMetrics.initial, ProductMetrics.counted, Nat.zero_add,
    (hperm.map _).sum_eq, MovementDb.stockUnits, MovementDb.missingUnits, hmissing]
  congr 1

/-- The forecast of a product, if it has one, is a day of the calendar. -/
def ForecastFits (fl : Floats) (w : AnalysisWindow) (asOf : ℤ) (productId : Nat) : Prop :=
  let sold := (d.sales w).countP fun k => k.productId = productId
  sold = 0 ∨ d.availableUnits productId = 0 ∨
    ∃ day, addDays asOf
      (max 1 ⌈fl.div (d.availableUnits productId) (fl.div sold w.analysisDays)⌉) = .ok day

theorem counted_available (w : AnalysisWindow) (productId : Nat) :
    max (((ProductMetrics.counted d w productId).systemStock : ℤ)
      - (ProductMetrics.counted d w productId).missingStock) 0 = d.availableUnits productId := by
  have h := stockUnits_eq d productId
  unfold ProductMetrics.counted
  dsimp only
  omega

/-- The last round keeps what was counted. -/
theorem finishMetrics_ok {fl : Floats} {analysisDays asOf : ℤ} {m m' : ProductMetrics}
    (h : finishMetrics fl analysisDays asOf m = .ok m') :
    m'.productId = m.productId ∧ m'.systemStock = m.systemStock ∧ m'.missingStock = m.missingStock ∧
      m'.availableStock = max ((m.systemStock : ℤ) - m.missingStock) 0 := by
  unfold finishMetrics at h
  dsimp only at h
  split at h
  · obtain rfl := Except.ok.inj h
    exact ⟨rfl, rfl, rfl, rfl⟩
  · split at h
    · obtain rfl := Except.ok.inj h
      exact ⟨rfl, rfl, rfl, rfl⟩
    · obtain ⟨day, -, h⟩ := except_bind_ok.mp h
      obtain rfl := Except.ok.inj h
      exact ⟨rfl, rfl, rfl, rfl⟩

/-- It raises when its forecast is no day of the calendar, and only then. -/
theorem finishMetrics_returns {fl : Floats} {analysisDays asOf : ℤ} {m : ProductMetrics} :
    (∃ m', finishMetrics fl analysisDays asOf m = .ok m') ↔
      m.unitsSold = 0 ∨ max ((m.systemStock : ℤ) - m.missingStock) 0 = 0 ∨
        ∃ day, addDays asOf (max 1 ⌈fl.div (max ((m.systemStock : ℤ) - m.missingStock) 0 : ℤ)
          (fl.div m.unitsSold analysisDays)⌉) = .ok day := by
  unfold finishMetrics
  dsimp only
  by_cases hsold : m.unitsSold = 0
  · rw [if_pos hsold]
    exact ⟨fun _ => .inl hsold, fun _ => ⟨_, rfl⟩⟩
  · rw [if_neg hsold]
    by_cases havailable : max ((m.systemStock : ℤ) - m.missingStock) 0 = 0
    · rw [if_pos havailable]
      exact ⟨fun _ => .inr (.inl havailable), fun _ => ⟨_, rfl⟩⟩
    · rw [if_neg havailable]
      constructor
      · rintro ⟨m', h⟩
        obtain ⟨day, hday, -⟩ := except_bind_ok.mp h
        exact .inr (.inr ⟨day, hday⟩)
      · rintro (h | h | ⟨day, hday⟩)
        · exact absurd h hsold
        · exact absurd h havailable
        · rw [hday]
          exact ⟨_, rfl⟩

/-- The metrics are counted, and then finished product by product. -/
theorem productInventoryMetrics_eq (rt : Runtime) (fl : Floats) (sets : SetOrder MovementKey)
    (products : List Product) (config : MovementConfig) (asOf : ℤ) :
    productInventoryMetrics rt fl sets d products config asOf =
      (analysisWindow config (unfiltered none none) asOf).bind fun w =>
        (addDays w.endDate 1).bind fun _ =>
          ((((products.map (·.id)).dedup.map (ProductMetrics.counted d w)).mapM
            (finishMetrics fl w.analysisDays asOf)).bind fun metrics => .ok (metrics,
              w.analysisDays)) := by
  unfold productInventoryMetrics
  rw [stockMovementRows_unfiltered]
  show Except.bind (Except.bind (analysisWindow config (unfiltered none none) asOf) _) _ = _
  cases analysisWindow config (unfiltered none none) asOf with
  | error e => rfl
  | ok w =>
    show Except.bind (Except.bind (addDays w.endDate 1) _) _ = Except.bind (addDays w.endDate 1) _
    cases addDays w.endDate 1 with
    | error e => rfl
    | ok day =>
      rw [← loops_counted d fl sets config w asOf]
      rfl

end Metrics

/-! ## The report -/

/-- The rows of a window hold every unit once. -/
structure RowsConserve (d : MovementDb) (w : AnalysisWindow) (rows : List MovementRow) : Prop where
  distinct : (rows.map (·.key)).Nodup
  stock : (rows.map (·.currentStock)).sum = d.db.serials.countP Serial.inStock
  sold : (rows.map (·.unitsSold)).sum = d.soldUnits w

/-- What a product has available is its stock without the serials that are missing; the
difference is never negative. -/
structure MetricsConserve (d : MovementDb) (m : ProductMetrics) : Prop where
  missing_le : m.missingStock ≤ m.systemStock
  available_eq : m.availableStock = m.systemStock - m.missingStock
  available : m.availableStock
    = d.db.serials.countP fun s => s.inStock && s.productId = m.productId && !d.isMissing s

theorem rowsConserve (fl : Floats) (sets : SetOrder MovementKey) (d : MovementDb)
    (config : MovementConfig) (w : AnalysisWindow) (asOf : ℤ) :
    RowsConserve d w ((movementRows fl sets d config w asOf).insertionSort movementRowOrder) := by
  have hperm := List.perm_insertionSort movementRowOrder (movementRows fl sets d config w asOf)
  refine ⟨?_, ?_, ?_⟩
  · rw [(hperm.map _).nodup_iff]
    exact movementRows_keys fl sets d config w asOf
  · rw [(hperm.map _).sum_eq]
    have h := movementRows_stock fl sets d config w asOf fun _ => true
    rw [List.filter_true, List.countP_true] at h
    rw [h, List.countP_eq_length_filter]
    rfl
  · rw [(hperm.map _).sum_eq]
    have h := movementRows_sold fl sets d config w asOf fun _ => true
    rw [List.filter_true, List.countP_true] at h
    rw [h, sales_length]

theorem metricsConserve {fl : Floats} {d : MovementDb} {w : AnalysisWindow} {asOf : ℤ}
    {productId : Nat} {m : ProductMetrics}
    (h : finishMetrics fl w.analysisDays asOf (ProductMetrics.counted d w productId) = .ok m) :
    m.productId = productId ∧ MetricsConserve d m := by
  obtain ⟨hid, hsystem, hmissing, havailable⟩ := finishMetrics_ok h
  rw [counted_available] at havailable
  have hid : m.productId = productId := hid
  have hsystem : m.systemStock = d.stockUnits productId := hsystem
  have hmissing : m.missingStock = d.missingUnits productId := hmissing
  have hunits := stockUnits_eq d productId
  have hcount : d.availableUnits productId
      = d.db.serials.countP fun s => s.inStock && s.productId = productId && !d.isMissing s := by
    unfold MovementDb.availableUnits MovementDb.stock
    rw [List.countP_filter]
    congr 1
    funext s
    cases s.inStock <;> simp
  refine ⟨hid, by omega, by omega, ?_⟩
  rw [havailable, hcount, hid]

/-- Without filters, for every window: each group has one row, the rows add up to the stock and
to the sales of the window; what the metrics give a product as available is its stock without
the serials whose latest finding is `MISSING`, and the clamp at zero is never needed. The rows
are there whenever the window lies in the calendar, the metrics when the forecasts do too. -/
theorem stock_movement_conserves (rt : Runtime) (fl : Floats) (sets : SetOrder MovementKey)
    (d : MovementDb) (config : MovementConfig) :
    (∀ startDate endDate asOf today rows summary,
      stockMovementRows rt fl sets d config (unfiltered startDate endDate) asOf today =
          .ok (rows, summary) →
        analysisWindow config (unfiltered startDate endDate) ((asOf.or endDate).getD today) =
            .ok summary.window ∧
          RowsConserve d summary.window rows) ∧
      (∀ startDate endDate asOf today,
        (∃ r, stockMovementRows rt fl sets d config (unfiltered startDate endDate) asOf
            today = .ok r) ↔
          ∃ w, analysisWindow config (unfiltered startDate endDate)
              ((asOf.or endDate).getD today) = .ok w ∧
            ∃ day, addDays w.endDate 1 = .ok day) ∧
      (∀ products asOf metrics analysisDays,
        productInventoryMetrics rt fl sets d products config asOf = .ok (metrics, analysisDays) →
          (∀ p ∈ products, ∃ m ∈ metrics, m.productId = p.id) ∧
          ∀ m ∈ metrics, MetricsConserve d m) ∧
      ∀ products asOf,
        (∃ r, productInventoryMetrics rt fl sets d products config asOf = .ok r) ↔
          ∃ w, analysisWindow config (unfiltered none none) asOf = .ok w ∧
            (∃ day, addDays w.endDate 1 = .ok day) ∧
            ∀ p ∈ products, ForecastFits d fl w asOf p.id := by
  -- The rows, when there are rows, the metrics, and when there are metrics.
  refine ⟨?_, ?_, ?_, ?_⟩
  · intro startDate endDate asOf today rows summary h
    rw [stockMovementRows_unfiltered] at h
    obtain ⟨w, hw, h⟩ := except_bind_ok.mp h
    obtain ⟨day, -, h⟩ := except_bind_ok.mp h
    obtain ⟨rfl, rfl⟩ := Prod.mk.inj (Except.ok.inj h)
    exact ⟨hw, rowsConserve fl sets d config w _⟩
  · intro startDate endDate asOf today
    rw [stockMovementRows_unfiltered]
    constructor
    · rintro ⟨r, h⟩
      obtain ⟨w, hw, h⟩ := except_bind_ok.mp h
      obtain ⟨day, hday, -⟩ := except_bind_ok.mp h
      exact ⟨w, hw, day, hday⟩
    · rintro ⟨w, hw, day, hday⟩
      rw [hw]
      show ∃ r, Except.bind (addDays w.endDate 1) _ = .ok r
      rw [hday]
      exact ⟨_, rfl⟩
  · intro products asOf metrics analysisDays h
    rw [productInventoryMetrics_eq] at h
    obtain ⟨w, -, h⟩ := except_bind_ok.mp h
    obtain ⟨day, -, h⟩ := except_bind_ok.mp h
    obtain ⟨finished, hfinished, h⟩ := except_bind_ok.mp h
    obtain ⟨rfl, -⟩ := Prod.mk.inj (Except.ok.inj h)
    obtain ⟨hfrom, hto⟩ := except_mapM_mem hfinished
    constructor
    · intro p hp
      have hid : p.id ∈ (products.map (·.id)).dedup := List.mem_dedup.mpr (List.mem_map_of_mem hp)
      obtain ⟨m, hm, hfinish⟩ := hto _ (List.mem_map_of_mem hid)
      exact ⟨m, hm, (metricsConserve hfinish).1⟩
    · intro m hm
      obtain ⟨c, hc, hfinish⟩ := hfrom m hm
      obtain ⟨id, -, rfl⟩ := List.mem_map.mp hc
      exact (metricsConserve hfinish).2
  · intro products asOf
    rw [productInventoryMetrics_eq]
    have hfits : ∀ w id,
        (∃ m, finishMetrics fl w.analysisDays asOf (ProductMetrics.counted d w id) = .ok m) ↔
        ForecastFits d fl w asOf id := by
      intro w id
      rw [finishMetrics_returns, counted_available]
      unfold ForecastFits
      simp [ProductMetrics.counted]
    constructor
    · rintro ⟨r, h⟩
      obtain ⟨w, hw, h⟩ := except_bind_ok.mp h
      obtain ⟨day, hday, h⟩ := except_bind_ok.mp h
      obtain ⟨finished, hfinished, -⟩ := except_bind_ok.mp h
      refine ⟨w, hw, ⟨day, hday⟩, fun p hp => (hfits w p.id).mp ?_⟩
      have hid : p.id ∈ (products.map (·.id)).dedup := List.mem_dedup.mpr (List.mem_map_of_mem hp)
      obtain ⟨m, -, hm⟩ := (except_mapM_mem hfinished).2 _ (List.mem_map_of_mem hid)
      exact ⟨m, hm⟩
    · rintro ⟨w, hw, ⟨day, hday⟩, hforecast⟩
      have htotal : ∃ finished, ((products.map (·.id)).dedup.map (ProductMetrics.counted d w)).mapM
          (finishMetrics fl w.analysisDays asOf) = .ok finished := by
        refine except_mapM_total fun c hc => ?_
        obtain ⟨id, hid, rfl⟩ := List.mem_map.mp hc
        obtain ⟨p, hp, rfl⟩ := List.mem_map.mp (List.mem_dedup.mp hid)
        exact (hfits w p.id).mpr (hforecast p hp)
      obtain ⟨finished, hfinished⟩ := htotal
      rw [hw]
      show ∃ r, Except.bind (addDays w.endDate 1) _ = .ok r
      rw [hday]
      show ∃ r, Except.bind (List.mapM _ _) _ = .ok r
      rw [hfinished]
      exact ⟨_, rfl⟩

/-- The bags of rice, sold on 20 May 2026. Bag 1 was missing and then found; bag 3 is missing. -/
def riceAudited : MovementDb where
  db := riceDb
  levelText := fun _ => py "Company Warehouse"
  soldAt := fun _ => ((Date.mk 2026 5 20).toordinal - 1) * 86400000000
  findings := [⟨1, some 1, .missing, 100⟩, ⟨2, some 1, .verified, 100⟩, ⟨3, some 3, .missing, 200⟩]
  serialIds := by decide +kernel
  findingIds := by decide
  productStored := by decide +kernel

/-- Division and multiplication that do not round. -/
def exactFloats : Floats := ⟨(· / ·), (· * ·)⟩

/-- Three of four bags are available, for ninety days at the rate of sale. -/
theorem stock_movement_conserves_rice :
    let asOf : ℤ := (Date.mk 2026 6 1).toordinal
    let result :=
      productInventoryMetrics .plain exactFloats ⟨id, fun _ => .refl _⟩ riceAudited [riceProduct]
      ⟨90, 10, 40, 80⟩ asOf
    result = .ok ([⟨1, 3, 4, 3, 1, .inDays 90 (asOf + 90)⟩], 90) ∧
      MetricsConserve riceAudited ⟨1, 3, 4, 3, 1, .inDays 90 (asOf + 90)⟩ := by
  have hresult : productInventoryMetrics .plain exactFloats ⟨id, fun _ => .refl _⟩ riceAudited
      [riceProduct]
      ⟨90, 10, 40, 80⟩ ((Date.mk 2026 6 1).toordinal : ℕ)
        = .ok ([⟨1, 3, 4, 3, 1, .inDays 90 (((Date.mk 2026 6 1).toordinal : ℕ) + 90)⟩], 90) := by
    decide +kernel
  refine ⟨hresult, ?_⟩
  have hmetrics := (stock_movement_conserves .plain exactFloats ⟨id, fun _ => .refl _⟩ riceAudited
    ⟨90, 10, 40, 80⟩).2.2.1 _ _ _ _ hresult
  exact hmetrics.2 _ List.mem_cons_self

end SetuoraLite
