import SetuoraLite.Catalog.Products
import SetuoraLite.Stock.SaleReturns
import SetuoraLite.Stock.ShelfGate
import SetuoraLite.Stock.VoucherTotals

/-!
# The voucher of a submitted batch

Submitting writes rate and discount into the items, so that the voucher does not follow the
product's prices afterwards. Its GST rate is not among them: unless the batch is a sale with
rates of its own (`ownGst`), a line is taxed at the rate the product has when the voucher is
computed, and a product edit moves it.

`submitted_amounts_stay`: as long as no edit gives a product of the batch another GST rate,
or the batch has its own, every amount of the voucher is the one of the submission, whatever
else the product forms and Master's product commands change.
-/

namespace SetuoraLite

open Lib

variable {rt : Runtime} {st : Settings} {db db' : Db}

/-! ## Amounts -/

/-- A line without the product's texts. -/
def VoucherLine.amounts (line : VoucherLine) : VoucherLine :=
  { line with productCode := [], productName := [], tallyStockItemName := [], hsn := [],
              unit := [] }

/-- The amounts of a voucher. -/
def VoucherSummary.amounts (summary : VoucherSummary) : VoucherSummary :=
  { summary with lines := summary.lines.map (·.amounts) }

/-- The lines of the batch are taxed at rates of the batch. -/
def ownGst (batch : Batch) : Bool :=
  if isInterstateSale batch then batch.gstIgstRate.isSome
  else isSalesSide batch && (batch.gstCgstRate.isSome || batch.gstSgstRate.isSome)

/-- Without the product's GST rate, a line of the batch comes to the same. -/
theorem lineTax_own {batch : Batch} (h : ownGst batch = true) (gstRate gstRate' amount : ℚ) :
    lineTax rt batch gstRate amount = lineTax rt batch gstRate' amount := by
  unfold ownGst at h
  unfold lineTax
  by_cases hinter : isInterstateSale batch = true
  · rw [if_pos hinter] at h
    obtain ⟨igst, higst⟩ := Option.isSome_iff_exists.mp h
    rw [if_pos hinter, if_pos hinter, higst]
    rfl
  · rw [if_neg hinter] at h
    rw [if_neg hinter, if_neg hinter, if_pos h, if_pos h]

/-- One product prices the lines of the batch like the other. -/
def SameGst (batch : Batch) (p q : Product) : Prop :=
  q.id = p.id ∧ (q.gstRate = p.gstRate ∨ (ownGst batch = true ∧ ∃ rate, money q.gstRate = .ok rate))

/-- A line has the same amounts with another product that prices it alike. -/
theorem voucherLine_same {batch : Batch} {status : BatchStatus} {submittedAt : Option Instant}
    {g : ItemGroup} {q : Product} (hsame : SameGst batch g.product q) {line : VoucherLine}
    (h : voucherLine rt batch g = .ok line) :
    ∃ line', voucherLine rt (batch.changed status submittedAt) { g with product := q } = .ok line' ∧
      line'.amounts = line.amounts := by
  obtain ⟨hid, hgst⟩ := hsame
  unfold voucherLine at h
  obtain ⟨rate, hrate, h⟩ := except_bind_ok.mp h
  obtain ⟨gross, hgross, h⟩ := except_bind_ok.mp h
  obtain ⟨discountRate, hdiscountRate, h⟩ := except_bind_ok.mp h
  obtain ⟨discount, hdiscount, h⟩ := except_bind_ok.mp h
  obtain ⟨amount, hamount, h⟩ := except_bind_ok.mp h
  obtain ⟨productGst, hproductGst, h⟩ := except_bind_ok.mp h
  obtain ⟨tax, htax, h⟩ := except_bind_ok.mp h
  obtain ⟨total, htotal, h⟩ := except_bind_ok.mp h
  obtain rfl := Except.ok.inj h
  -- The rate of the other product gives the same tax.
  have htax' : ∃ productGst', money q.gstRate = .ok productGst' ∧
      lineTax rt (batch.changed status submittedAt) productGst' amount = .ok tax := by
    rcases hgst with hgst | ⟨hown, productGst', hproductGst'⟩
    · exact ⟨productGst, hgst ▸ hproductGst, htax⟩
    · exact ⟨productGst', hproductGst', (lineTax_own hown productGst' productGst amount).trans htax⟩
  obtain ⟨productGst', hproductGst', htax'⟩ := htax'
  refine ⟨_, except_bind_ok.mpr ⟨rate, hrate, except_bind_ok.mpr ⟨gross, hgross, except_bind_ok.mpr
    ⟨discountRate, hdiscountRate, except_bind_ok.mpr ⟨discount, hdiscount, except_bind_ok.mpr
      ⟨amount, hamount, except_bind_ok.mpr ⟨productGst', hproductGst', except_bind_ok.mpr
        ⟨tax, htax', except_bind_ok.mpr ⟨total, htotal, rfl⟩⟩⟩⟩⟩⟩⟩⟩, ?_⟩
  unfold VoucherLine.amounts
  dsimp only
  rw [hid]

/-- Items of the same keys, with products that price them alike, have lines of the same amounts. -/
theorem voucher_lines_same {batch : Batch} {status : BatchStatus} {submittedAt : Option Instant}
    {items items' : List LoadedItem} (hkeys : items'.map (·.group.key) = items.map (·.group.key))
    (hread : ∀ l ∈ items, db.product l.product.id = some l.product)
    (hread' : ∀ l ∈ items', db'.product l.product.id = some l.product)
    (hproducts : ∀ l ∈ items, ∃ q, db'.product l.product.id = some q ∧ SameGst batch l.product q)
    {lines : List VoucherLine}
    (h : (groupBatchItems items).mapM (voucherLine rt batch) = .ok lines) :
    ∃ lines', (groupBatchItems items').mapM (voucherLine rt (batch.changed status submittedAt)) =
        .ok lines' ∧
      lines'.map (·.amounts) = lines.map (·.amounts) := by
  rw [voucher_lines_counted hread] at h
  rw [voucher_lines_counted hread', hkeys]
  refine except_mapM_alike (fun group hgroup line hline => ?_) h
  -- A counted key is the key of an item, whose product is stored.
  obtain ⟨l, hl, hkey⟩ := List.mem_map.mp (counter_mem.mp (List.mem_map_of_mem hgroup))
  have hid : group.1.1 = l.product.id := (congrArg Prod.fst hkey).symm
  obtain ⟨q, hq, hsame⟩ := hproducts l hl
  unfold countedLine at hline ⊢
  rw [hid, hread l hl] at hline
  rw [hid, hq]
  exact voucherLine_same (g := ⟨l.product, group.2, [], group.1.2.1, group.1.2.2⟩) hsame hline

/-- The totals are made of the amounts of the lines. -/
theorem summary_same {loaded loaded' : LoadedBatch}
    (hlines : ∀ lines,
      (groupBatchItems loaded.items).mapM (voucherLine rt loaded.batch) = .ok lines →
      ∃ lines', (groupBatchItems loaded'.items).mapM (voucherLine rt loaded'.batch) = .ok lines' ∧
        lines'.map (·.amounts) = lines.map (·.amounts)) {summary : VoucherSummary}
    (h : calculateVoucherSummary rt loaded = .ok summary) :
    ∃ summary', calculateVoucherSummary rt loaded' = .ok summary' ∧
      summary'.amounts = summary.amounts := by
  obtain ⟨lines, hmap, h⟩ := except_bind_ok.mp h
  obtain ⟨lines', hmap', hsame⟩ := hlines lines hmap
  -- A total is taken over a field of the amounts, which the lines share.
  have hfield : ∀ field : VoucherLine → ℚ, (∀ line, field line.amounts = field line) →
      lines'.map field = lines.map field := by
    intro field hkept
    have hmapped := congrArg (List.map field) hsame
    rw [List.map_map, List.map_map] at hmapped
    rwa [show (field ∘ fun line => line.amounts) = field from funext hkept] at hmapped
  dsimp only at h
  rw [← hfield (·.taxableValue) fun _ => rfl, ← hfield (·.cgstAmount) fun _ => rfl,
    ← hfield (·.sgstAmount) fun _ => rfl, ← hfield (·.igstAmount) fun _ => rfl] at h
  -- The totals and their rounding come after the lines and see nothing else.
  obtain ⟨gst, hgst, h⟩ := except_bind_ok.mp h
  obtain ⟨before, hbefore, h⟩ := except_bind_ok.mp h
  obtain ⟨final, hfinal, h⟩ := except_bind_ok.mp h
  obtain ⟨roundOff, hroundOff, h⟩ := except_bind_ok.mp h
  obtain ⟨taxable, htotal, h⟩ := except_bind_ok.mp h
  obtain ⟨cgst, hcgstTotal, h⟩ := except_bind_ok.mp h
  obtain ⟨sgst, hsgstTotal, h⟩ := except_bind_ok.mp h
  obtain ⟨igst, higstTotal, h⟩ := except_bind_ok.mp h
  obtain ⟨finalValue, hfinalValue, h⟩ := except_bind_ok.mp h
  obtain rfl := Except.ok.inj h
  refine ⟨_, except_bind_ok.mpr ⟨lines', hmap', except_bind_ok.mpr ⟨gst, hgst, except_bind_ok.mpr
    ⟨before, hbefore, except_bind_ok.mpr ⟨final, hfinal, except_bind_ok.mpr ⟨roundOff, hroundOff,
      except_bind_ok.mpr ⟨taxable, htotal, except_bind_ok.mpr ⟨cgst, hcgstTotal, except_bind_ok.mpr
        ⟨sgst, hsgstTotal, except_bind_ok.mpr ⟨igst, higstTotal, except_bind_ok.mpr
          ⟨finalValue, hfinalValue, rfl⟩⟩⟩⟩⟩⟩⟩⟩⟩⟩, ?_⟩
  unfold VoucherSummary.amounts
  dsimp only
  rw [hsame]

/-! ## What a submission leaves -/

/-- The stored items of a batch that submitting has frozen. -/
def frozenRow (batch : Batch) (items : List LoadedItem) (row : BatchItem) : BatchItem :=
  match lookup (fun l : LoadedItem => l.item.id) row.id items with
  | some l => row.changed (l.freeze batch)
  | none => row

private theorem frozenRow_keys (batch : Batch) (items : List LoadedItem) (row : BatchItem) :
    (frozenRow batch items row).id = row.id ∧
      (frozenRow batch items row).batchId = row.batchId := by
  unfold frozenRow
  split
  · exact ⟨rfl, rfl⟩
  · exact ⟨rfl, rfl⟩

/-- One more item is frozen. -/
private theorem frozenRow_snoc {batch : Batch} {done : List LoadedItem} {l : LoadedItem}
    (hnew : ∀ l' ∈ done, l'.item.id ≠ l.item.id) (row : BatchItem) :
    frozenRow batch (done ++ [l]) row =
      if (frozenRow batch done row).id = l.item.id
        then (frozenRow batch done row).changed (l.freeze batch)
      else frozenRow batch done row := by
  rw [(frozenRow_keys batch done row).1]
  unfold frozenRow
  rw [lookup_append]
  by_cases hrow : row.id = l.item.id
  · have hnone : lookup (fun l : LoadedItem => l.item.id) row.id done = none :=
      lookup_none.mpr fun l' hl' => hrow ▸ hnew l' hl'
    have hone : lookup (fun l : LoadedItem => l.item.id) row.id [l] = some l := by
      simp [lookup, hrow]
    rw [if_pos hrow, hnone, hone]
    rfl
  · have hnone : lookup (fun l : LoadedItem => l.item.id) row.id [l] = none :=
      lookup_none.mpr fun l' hl' => (List.mem_singleton.mp hl') ▸ Ne.symm hrow
    rw [if_neg hrow, hnone, Option.or_none]

private theorem submitItem_items {user : User} {now : Instant} {batch : Batch} {l : LoadedItem}
    {u : PUnit} (h : submitItem user now batch l db = (.ok u, db')) :
    db'.batchItems =
        modifyRow (·.id) l.item.id (BatchItem.changed (l.freeze batch)) db.batchItems := by
  obtain ⟨_, t₁, h₁, h⟩ := Tx.bind_ok.mp h
  obtain ⟨_, t₂, h₂, h⟩ := Tx.bind_ok.mp h
  have hclaim : Tx.Keeps Db.batchItems (claimForBatch batch l.serial) :=
    .ite (.pure _) (claimSerial_keeps (fun _ _ => rfl) _ _ _ _)
  have hlogs : Tx.Keeps Db.batchItems
      (insertScanLog (itemScanLog user now batch l.serial) >>= fun _ =>
      insertInventoryTransaction (itemTransaction user batch l.serial)) :=
    .bind (insertScanLog_keeps (fun _ _ => rfl) _) fun _ =>
      insertInventoryTransaction_keeps (fun _ _ => rfl) _
  have hbefore := hclaim db
  rw [h₁] at hbefore
  have hafter := hlogs t₂
  rw [h] at hafter
  refine Eq.trans hafter ?_
  rw [← show t₁.batchItems = db.batchItems from hbefore]
  unfold freezeItem at h₂
  by_cases hfreezes : (l.freezesRate batch || l.item.salesDiscountRate.isNone) = true
  · rw [if_pos hfreezes] at h₂
    obtain ⟨-, rfl⟩ := updateBatchItem_ok h₂
    rfl
  · rw [if_neg hfreezes] at h₂
    obtain ⟨-, rfl⟩ := Tx.pure_ok.mp h₂
    -- There is nothing to freeze.
    obtain ⟨hrate, hdiscount⟩ := Bool.or_eq_false_iff.mp (Bool.not_eq_true _ ▸ hfreezes)
    refine (modifyRow_same fun row => ?_).symm
    unfold BatchItem.changed LoadedItem.freeze
    rw [hrate, hdiscount]
    rfl

/-- Every item gets the values it was loaded with, or the product's where it had none. -/
theorem submit_items (hk : db.Keyed) {s : Submitter} {loaded : LoadedBatch} {u : PUnit}
    (hloaded : LoadedFrom db loaded.batch.id loaded.items) (h : submit s loaded db = (.ok u, db')) :
    db'.itemsOf loaded.batch.id = loaded.items.map fun l => l.freeze loaded.batch l.item := by
  obtain ⟨_, t₁, h₁, h⟩ := Tx.bind_ok.mp h
  -- The loaded items are rows of the table, so their ids differ.
  have hids : (loaded.items.map (·.item.id)).Nodup := by
    have hsub : (db.itemsOf loaded.batch.id).Sublist db.batchItems := List.filter_sublist
    have hall : (db.batchItems.map (·.id)).Nodup := hk.items
    have hof := hall.sublist (hsub.map (·.id))
    rw [← hloaded.items, List.map_map] at hof
    exact hof
  -- Round by round, each row is frozen as its loaded item says.
  have hfrozen : t₁.batchItems = db.batchItems.map (frozenRow loaded.batch loaded.items) := by
    refine Tx.each_prefix
      (I := fun done t => t.batchItems = db.batchItems.map (frozenRow loaded.batch done))
      ?_ ?_ h₁
    · intro done l rest hsplit t t' u ht hround
      have hnew : ∀ l' ∈ done, l'.item.id ≠ l.item.id := by
        intro l' hl' he
        rw [hsplit, List.map_append, List.nodup_append] at hids
        exact hids.2.2 _ (List.mem_map_of_mem hl') _ (List.mem_map_of_mem List.mem_cons_self) he
      rw [submitItem_items hround, ht]
      unfold modifyRow
      rw [List.map_map]
      exact List.map_congr_left fun row _ => (frozenRow_snoc hnew row).symm
    · exact (List.map_id _).symm
  -- After the items the submission writes the batch and the outbox.
  have hrest : Tx.Keeps Db.batchItems
      (updateBatch loaded.batch.id .pendingSync (some s.now) >>= fun _ => do
      let _ ← enqueueBatchSubmittedEvent s loaded.batch
        (loaded.items.map (LoadedItem.submitted loaded.batch))
      pure (⟨⟩ : PUnit)) :=
    .bind (updateBatch_keeps (fun _ _ => rfl) _ _ _) fun _ =>
      .bind (enqueueBatchSubmittedEvent_keeps (fun _ _ _ => rfl) _ _ _) fun _ => .pure _
  have hafter := hrest t₁
  rw [h] at hafter
  have hitems : db'.batchItems = db.batchItems.map (frozenRow loaded.batch loaded.items) :=
    Eq.trans hafter hfrozen
  have hof : db'.itemsOf loaded.batch.id
      = (db.itemsOf loaded.batch.id).map (frozenRow loaded.batch loaded.items) := by
    unfold Db.itemsOf
    rw [hitems, List.filter_map]
    refine congrArg _ (List.filter_congr fun row _ => ?_)
    rw [Function.comp_apply, (frozenRow_keys _ _ row).2]
  rw [hof, ← hloaded.items, List.map_map]
  -- The row of a loaded item is frozen by that item and no other.
  refine List.map_congr_left fun l hl => ?_
  have hfound : lookup (fun l : LoadedItem => l.item.id) l.item.id loaded.items = some l :=
    lookup_of_mem hids hl
  rw [Function.comp_apply]
  unfold frozenRow
  rw [hfound]
  rfl

/-- The rows that the voucher of a submitted batch is made of, as far as its amounts go. -/
structure VoucherKept (loaded : LoadedBatch) (t : Db) : Prop where
  row : ∃ status submittedAt,
    t.batch loaded.batch.id = some (loaded.batch.changed status submittedAt)
  items : t.itemsOf loaded.batch.id = loaded.items.map fun l => l.freeze loaded.batch l.item
  serials : ∀ l ∈ loaded.items, ∃ serial, t.serial l.item.serialId = some serial ∧
    serial.productId = l.product.id
  products : ∀ l ∈ loaded.items, ∃ q, t.product l.product.id = some q ∧
    SameGst loaded.batch l.product q

theorem LoadedFrom.product_stored {batchId : Nat} {items : List LoadedItem}
    (h : LoadedFrom db batchId items) {l : LoadedItem}
    (hl : l ∈ items) : db.product l.product.id = some l.product := by
  have hproduct := h.products l hl
  rwa [← (lookup_some hproduct).2] at hproduct

private theorem submit_products {s : Submitter} {loaded : LoadedBatch} {u : PUnit}
    (h : submit s loaded db = (.ok u, db')) : db'.shelfProducts = db.shelfProducts := by
  have hkept := writesOf_shelfProducts (.submit s loaded) db
  rw [show writesOf (.submit s loaded) db = submit s loaded db from rfl, h] at hkept
  exact hkept

/-- Submitting leaves the rows of the voucher. -/
theorem submit_kept (hk : db.Keyed) {s : Submitter} {loaded : LoadedBatch} {u : PUnit}
    (hbatch : db.batch loaded.batch.id = some loaded.batch)
    (hloaded : LoadedFrom db loaded.batch.id loaded.items) (h : submit s loaded db = (.ok u, db')) :
    VoucherKept loaded db' where
  row := by
    have hfound : lookup (·.id) loaded.batch.id (modifyRow (·.id) loaded.batch.id
        (Batch.changed .pendingSync (some s.now)) db.batches)
          = (db.batch loaded.batch.id).map (Batch.changed .pendingSync (some s.now)) :=
      lookup_modifyRow_self fun _ _ hid => hid
    refine ⟨.pendingSync, some s.now, ?_⟩
    unfold Db.batch
    rw [(submit_move h).1, hfound, hbatch]
    rfl
  items := submit_items hk hloaded h
  serials := by
    intro l hl
    have howner : db'.productOf l.item.serialId = some l.serial.productId := by
      rw [productOf_eq (submit_products h)]
      unfold Db.productOf
      rw [hloaded.serials l hl]
      rfl
    obtain ⟨serial, hserial, hproduct⟩ := Option.map_eq_some_iff.mp howner
    exact ⟨serial, hserial, hproduct.trans (lookup_some (hloaded.products l hl)).2.symm⟩
  products := by
    intro l hl
    refine ⟨l.product, ?_, rfl, .inl rfl⟩
    unfold Db.product
    rw [show db'.products = db.products from (Prod.mk.inj (submit_products h)).1]
    exact hloaded.product_stored hl

/-! ## The voucher of a stored batch -/

/-- `calculate_voucher_summary` of a batch as it is stored. -/
def storedVoucher (rt : Runtime) (batchId : Nat) : StockRequest VoucherSummary := do
  let batch ← getBatch batchId
  let items ← loadItems batchId
  Request.lift (calculateVoucherSummary rt ⟨batch, items⟩)

/-- Items that are all there are loaded. -/
theorem loadItems_serve {batchId : Nat} {items : List LoadedItem}
    (h : LoadedFrom db batchId items) :
    (loadItems batchId).serve commitStock db = (.ok items, db) := by
  have hserials : serialsOf (items.map (·.item)) db = .ok (items.map (·.serial)) := by
    unfold serialsOf
    rw [List.mapM_map]
    exact except_mapM_pure fun l hl => by rw [Function.comp_apply, h.serials l hl]; rfl
  have hproducts : productsOf (items.map (·.serial)) db = .ok (items.map (·.product)) := by
    unfold productsOf
    rw [List.mapM_map]
    exact except_mapM_pure fun l hl => by rw [Function.comp_apply, h.products l hl]; rfl
  have hzip : (((items.map (·.item)).zip (items.map (·.serial))).zip (items.map (·.product))).map
      (fun p => (⟨p.1.1, p.1.2, p.2⟩ : LoadedItem)) = items := by
    rw [List.zip_map', List.zip_map', List.map_map]
    exact List.map_id _
  refine Request.Serves.eq ?_
  unfold loadItems
  apply Request.Serves.bind_reads
  apply Request.Serves.bind_reads
  rw [← h.items, hserials]
  refine Request.Serves.bind_lift (fun _ he => nomatch he) fun serials he => ?_
  obtain rfl := Except.ok.inj he
  apply Request.Serves.bind_reads
  rw [hproducts]
  refine Request.Serves.bind_lift (fun _ he => nomatch he) fun products he => ?_
  obtain rfl := Except.ok.inj he
  exact Request.Serves.pure ⟨hzip, rfl⟩

theorem storedVoucher_serve {loaded : LoadedBatch}
    (hbatch : db.batch loaded.batch.id = some loaded.batch)
    (hitems : LoadedFrom db loaded.batch.id loaded.items) :
    (storedVoucher rt loaded.batch.id).serve commitStock db =
        (calculateVoucherSummary rt loaded, db) := by
  have hget : (getBatch loaded.batch.id).serve commitStock db = (.ok loaded.batch, db) := by
    change (Request.lift
        ((db.batch loaded.batch.id).elim (.error ⟨.other, py "Batch not found"⟩) .ok) :
      StockRequest Batch).serve commitStock db = _
    rw [hbatch]
    rfl
  unfold storedVoucher
  rw [Request.serve_bind, hget]
  dsimp only
  rw [Request.serve_bind, loadItems_serve hitems]
  dsimp only
  cases calculateVoucherSummary rt loaded with
  | ok summary => rfl
  | error e => rfl

/-- An item of a submitted batch as it is loaded afterwards. -/
def LoadedItem.reloaded (batch : Batch) (t : Db) (l : LoadedItem) : LoadedItem :=
  ⟨l.freeze batch l.item, (t.serial l.item.serialId).getD l.serial,
    (t.product l.product.id).getD l.product⟩

private theorem orZero_orZero (f : PyFloat) : f.orZero.orZero = f.orZero := by
  unfold PyFloat.orZero
  split <;> rfl

/-- The frozen values are the ones the item had. -/
theorem reloaded_key {batch : Batch} (haudit : batch.batchType ≠ .audit) {t : Db} {l : LoadedItem}
    {q : Product} (hq : t.product l.product.id = some q) (hid : q.id = l.product.id) :
    (l.reloaded batch t).group.key = l.group.key := by
  have hrate : (l.reloaded batch t).rate.orZero = l.rate.orZero := by
    unfold LoadedItem.reloaded LoadedItem.rate LoadedItem.freeze LoadedItem.freezesRate
    cases hitem : l.item.rate with
    | none => simp [haudit, orZero_orZero]
    | some rate => simp
  have hdiscount : (l.reloaded batch t).salesDiscountRate.orZero = l.salesDiscountRate.orZero := by
    unfold LoadedItem.reloaded LoadedItem.salesDiscountRate LoadedItem.freeze
    cases hitem : l.item.salesDiscountRate with
    | none => simp [orZero_orZero]
    | some discount => simp
  have hproduct : (l.reloaded batch t).product.id = l.product.id := by
    unfold LoadedItem.reloaded
    dsimp only
    rw [hq]
    exact hid
  exact Prod.ext hproduct (Prod.ext hrate hdiscount)

/-- The voucher of rows that are kept has the amounts of the submission. -/
theorem VoucherKept.voucher {loaded : LoadedBatch} {t : Db} (h : VoucherKept loaded t)
    (hread : ∀ l ∈ loaded.items, db.product l.product.id = some l.product)
    (haudit : loaded.batch.batchType ≠ .audit) {summary : VoucherSummary}
    (hsummary : calculateVoucherSummary rt loaded = .ok summary) :
    ∃ summary', (storedVoucher rt loaded.batch.id).serve commitStock t = (.ok summary', t) ∧
      summary'.amounts = summary.amounts := by
  obtain ⟨status, submittedAt, hrow⟩ := h.row
  let now : LoadedBatch :=
    ⟨loaded.batch.changed status submittedAt, loaded.items.map (·.reloaded loaded.batch t)⟩
  -- What the voucher loads now: the rows frozen then, with the products of today.
  have hfrom : LoadedFrom t loaded.batch.id now.items := by
    refine ⟨?_, ?_, ?_⟩
    · rw [h.items, List.map_map]
      rfl
    · intro l' hl'
      obtain ⟨l, hl, rfl⟩ := List.mem_map.mp hl'
      obtain ⟨serial, hserial, -⟩ := h.serials l hl
      show t.serial l.item.serialId = some ((t.serial l.item.serialId).getD l.serial)
      rw [hserial]
      rfl
    · intro l' hl'
      obtain ⟨l, hl, rfl⟩ := List.mem_map.mp hl'
      obtain ⟨serial, hserial, hproduct⟩ := h.serials l hl
      obtain ⟨q, hq, -⟩ := h.products l hl
      show t.product ((t.serial l.item.serialId).getD l.serial).productId
        = some ((t.product l.product.id).getD l.product)
      rw [hserial, Option.getD_some, hproduct, hq]
      rfl
  -- The groups are the same, for what a group is keyed by was frozen.
  have hkeys : now.items.map (·.group.key) = loaded.items.map (·.group.key) := by
    rw [List.map_map]
    refine List.map_congr_left fun l hl => ?_
    obtain ⟨q, hq, hid, -⟩ := h.products l hl
    exact reloaded_key haudit hq hid
  have hlines : ∀ lines,
      (groupBatchItems loaded.items).mapM (voucherLine rt loaded.batch) = .ok lines →
      ∃ lines', (groupBatchItems now.items).mapM (voucherLine rt now.batch) = .ok lines' ∧
        lines'.map (·.amounts) = lines.map (·.amounts) := fun lines hlines =>
    voucher_lines_same hkeys hread (fun l hl => hfrom.product_stored hl) h.products hlines
  obtain ⟨summary', hsummary', hsame⟩ := summary_same hlines hsummary
  have hstored : (storedVoucher rt now.batch.id).serve commitStock t =
      (calculateVoucherSummary rt now, t) :=
    storedVoucher_serve hrow hfrom
  rw [hsummary'] at hstored
  exact ⟨summary', hstored, hsame⟩

/-! ## Edits of products -/

/-- The action edits products and nothing else. -/
def CatalogAction.EditsProducts (rt : Runtime) : CatalogAction → Prop
  | .command _ _ _ fields =>
    ∀ parts, commandParts rt fields = .ok parts → parts.commandType = py "PRODUCT_UPSERT"
  | _ => True

/-- The product that an edit changes, and the GST rate that it gives it. -/
def editedGst (rt : Runtime) (db : Db) : CatalogAction → Option (Nat × PyFloat)
  | .command _ _ _ command =>
    match commandParts rt command with
    | .ok parts =>
      match parseUpsert rt parts.payload with
      | .ok u =>
        match matchingProducts db u.productCode with
        | [p] => some (p.id, u.gstRate)
        | _ => none
      | .error _ => none
    | .error _ => none
  | .create _ => none
  | .edit id form =>
    match db.product id with
    | some p =>
      if pricingError form = none ∧
        storable (form.over p) then some (id, form.gstRate.getD p.gstRate) else none
    | none => none

/-- No product among them gets another GST rate. -/
def KeepsGst (rt : Runtime) (productIds : List Nat) (db : Db) (a : CatalogAction) : Prop :=
  ∀ e ∈ editedGst rt db a, e.1 ∈ productIds → (db.product e.1).map (·.gstRate) = some e.2

instance (rt : Runtime) (productIds : List Nat) (db : Db) (a : CatalogAction) :
    Decidable (KeepsGst rt productIds db a) := by
  unfold KeepsGst
  exact inferInstance

/-- What an edit has done, up to columns that no voucher reads: only the edited product may
have another GST rate. -/
structure EditMove (edited : Option (Nat × PyFloat)) (db db' : Db) : Prop where
  batches : db'.batches = db.batches
  items : db'.batchItems = db.batchItems
  serials : db'.serials = db.serials
  products : ∀ p, db.product p.id = some p → ∃ q, db'.product p.id = some q ∧ q.id = p.id ∧
    (q.gstRate = p.gstRate ∨ edited = some (p.id, q.gstRate) ∧ isPercent q.gstRate = true)

theorem EditMove.refl {edited : Option (Nat × PyFloat)} : EditMove edited db db :=
  ⟨rfl, rfl, rfl, fun p hp => ⟨p, hp, rfl, .inl rfl⟩⟩

/-- A product is added. -/
theorem EditMove.added {edited : Option (Nat × PyFloat)} (new : Product) :
    EditMove edited db { db with products := db.products ++ [new] } := by
  refine ⟨rfl, rfl, rfl, fun p hp => ⟨p, ?_, rfl, .inl rfl⟩⟩
  show lookup (·.id) p.id (db.products ++ [new]) = some p
  rw [lookup_append, show lookup (·.id) p.id db.products = some p from hp]
  rfl

/-- A product is written back. -/
theorem EditMove.written {edited : Option (Nat × PyFloat)} {new : Product}
    (h : ∀ p, db.product new.id = some p →
      new.gstRate = p.gstRate ∨
      edited = some (new.id, new.gstRate) ∧ isPercent new.gstRate = true) :
    EditMove edited db
        { db with products := modifyRow (·.id) new.id new.overwritten db.products } := by
  have hkeeps : ∀ p ∈ db.products, p.id = new.id → (new.overwritten p).id = new.id :=
    fun _ _ hid => hid
  refine ⟨rfl, rfl, rfl, fun p hp => ?_⟩
  by_cases hid : p.id = new.id
  · have hfound : lookup (·.id) new.id (modifyRow (·.id) new.id new.overwritten db.products)
        = (db.product new.id).map new.overwritten := lookup_modifyRow_self hkeeps
    rw [hid] at hp ⊢
    refine ⟨new.overwritten p, ?_, hid, h p hp⟩
    unfold Db.product
    rw [hfound, hp]
    rfl
  · have hfound : lookup (·.id) p.id (modifyRow (·.id) new.id new.overwritten db.products) =
        db.product p.id :=
      lookup_modifyRow_ne hid hkeeps
    exact ⟨p, hfound.trans hp, rfl, .inl rfl⟩

private theorem createProduct_move {form : ProductForm} {u : PUnit}
    {edited : Option (Nat × PyFloat)}
    (h : createProduct form db = (.ok u, db')) : EditMove edited db db' := by
  obtain ⟨_, t₁, h₁, h⟩ := Tx.bind_ok.mp h
  obtain ⟨-, rfl⟩ := Tx.raiseIf_ok.mp h₁
  obtain ⟨_, t₂, h₂, h⟩ := Tx.bind_ok.mp h
  obtain ⟨-, rfl⟩ := Tx.raiseIf_ok.mp h₂
  obtain ⟨new, t₃, h₃, h⟩ := Tx.bind_ok.mp h
  obtain ⟨-, rfl⟩ := Tx.pure_ok.mp h
  obtain ⟨-, -, rfl⟩ := insertProduct_ok h₃
  exact .added new

/-- A GST rate of a pricing form that was accepted is a percentage. -/
private theorem pricing_percent {form : PricingForm} {p : Product}
    (herror : pricingError form = none) (hstorable : storable (form.over p)) {gst : PyFloat}
    (hgst : form.gstRate = some gst) :
    isPercent gst = true := by
  have hnan : gst ≠ .nan := by
    have hstored := hstorable.1
    unfold PricingForm.over at hstored
    rwa [hgst] at hstored
  have hinside : outsideHundred gst = false := by
    by_contra hout
    rw [Bool.not_eq_false] at hout
    unfold pricingError at herror
    rw [hgst, Option.any_some, hout] at herror
    split_ifs at herror
    next hlast => exact hlast rfl
  exact percent_of_inside hnan hinside

private theorem updateProductPricing_move {id : Nat} {form : PricingForm} {u : PUnit}
    (h : updateProductPricing id form db = (.ok u, db')) :
    EditMove (editedGst rt db (.edit id form)) db db' := by
  unfold updateProductPricing at h
  obtain ⟨seen, t₁, h₁, h⟩ := Tx.bind_ok.mp h
  obtain ⟨rfl, rfl⟩ := Tx.reads_ok.mp h₁
  -- Without a product, with a refused form or with an interval refused nothing is written.
  cases hproduct : db.product id with
  | none =>
    rw [hproduct] at h
    obtain ⟨-, rfl⟩ := Tx.pure_ok.mp h
    exact .refl
  | some p =>
    rw [hproduct] at h
    cases herror : pricingError form with
    | some text =>
      rw [herror] at h
      exact absurd h Tx.raise_ok
    | none =>
      rw [herror] at h
      obtain ⟨_, t₂, h₂, h⟩ := Tx.bind_ok.mp h
      obtain ⟨hstorable, rfl⟩ := Tx.raiseIf_ok.mp h₂
      obtain rfl := updateProduct_ok h
      have hid : p.id = id := (lookup_some hproduct).2
      refine .written fun stored hstored => ?_
      have hsame : db.product (form.over p).id = some p := by
        show db.product p.id = some p
        rw [hid]
        exact hproduct
      obtain rfl := Option.some.inj (hstored.symm.trans hsame)
      cases hgst : form.gstRate with
      | none =>
        refine .inl ?_
        unfold PricingForm.over
        rw [hgst]
        rfl
      | some gst =>
        refine .inr ⟨?_, ?_⟩
        · unfold editedGst
          dsimp only
          rw [hproduct]
          dsimp only
          rw [if_pos ⟨herror, not_not.mp hstorable⟩, ← hid]
          rfl
        · show isPercent (form.gstRate.getD _) = true
          rw [hgst]
          exact pricing_percent herror (not_not.mp hstorable) hgst

private theorem upsertProduct_move {v : UpsertedProduct} {u : PUnit}
    {edited : Option (Nat × PyFloat)} (hpercent : isPercent v.gstRate = true)
    (hedited : ∀ p, matchingProducts db v.productCode = [p] → edited = some (p.id, v.gstRate))
    (h : upsertProduct v db = (.ok u, db')) : EditMove edited db db' := by
  unfold upsertProduct at h
  obtain ⟨seen, t₁, h₁, h⟩ := Tx.bind_ok.mp h
  obtain ⟨rfl, rfl⟩ := Tx.reads_ok.mp h₁
  cases hfound : matchingProducts db v.productCode with
  | nil =>
    rw [hfound] at h
    obtain ⟨new, t₂, h₂, h⟩ := Tx.bind_ok.mp h
    obtain ⟨-, rfl⟩ := Tx.pure_ok.mp h
    obtain ⟨-, -, rfl⟩ := insertProduct_ok h₂
    exact .added new
  | cons p rest =>
    rw [hfound] at h
    cases rest with
    | nil =>
      obtain rfl := updateProduct_ok h
      exact .written fun _ _ => .inr ⟨hedited p hfound, hpercent⟩
    | cons p' rest => exact absurd h Tx.raise_ok

private theorem command_move {st : Settings} {now : Instant} {uuid : PyStr}
    {command : List (PyStr × Json)} {row : MasterInboxCommand}
    (hedits : (CatalogAction.command st now uuid command).EditsProducts rt)
    (h : applyMasterCommand rt st now uuid command db = (.ok row, db')) :
    EditMove (editedGst rt db (.command st now uuid command)) db db' := by
  obtain rfl | ⟨parts, before, after, u, inbox, hparts, -, hrun, rfl⟩ := applyMasterCommand_run h
  · exact .refl
  have htype := hedits parts hparts
  have hupsert : applyProductUpsertCommand rt st parts.payload { db with inbox := before } =
      (.ok u, after) := by
    unfold runHandler at hrun
    rw [htype] at hrun
    exact hrun
  obtain ⟨_, t₁, h₁, hupsert⟩ := Tx.bind_ok.mp hupsert
  obtain ⟨-, rfl⟩ := Tx.lift_ok.mp h₁
  obtain ⟨v, t₂, h₂, hupsert⟩ := Tx.bind_ok.mp hupsert
  obtain ⟨hv, rfl⟩ := Tx.lift_ok.mp h₂
  -- The handler checks the rate as the form does.
  have hpercent : isPercent v.gstRate = true := by
    have hrates := (parseUpsert_ok hv).2
    unfold usableRates at hrates
    simp only [Bool.and_eq_true] at hrates
    exact hrates.1.1
  have hmove : EditMove (editedGst rt db (.command st now uuid command)) { db with inbox := before }
      after := by
    refine upsertProduct_move hpercent (fun p hfound => ?_) hupsert
    -- The command edits the product it matches, or makes a new one.
    have hmatching : matchingProducts db v.productCode = [p] := hfound
    unfold editedGst
    dsimp only
    rw [hparts]
    dsimp only
    rw [hv]
    dsimp only
    rw [hmatching]
  exact ⟨hmove.batches, hmove.items, hmove.serials, hmove.products⟩

/-- What an edit does, accepted or not. -/
theorem catalog_move {a : CatalogAction} (hedits : a.EditsProducts rt)
    (h : catalogMachine rt db a = some db') :
    EditMove (editedGst rt db a) db db' := by
  obtain rfl := Option.some.inj h
  rcases Tx.atomically_cases (catalogTx rt a) db with ⟨u, t, hx, ha⟩ | ⟨e, t, hx, ha⟩
  · rw [ha]
    cases a with
    | command st now uuid command =>
      obtain ⟨row, t₁, h₁, hx⟩ := Tx.bind_ok.mp hx
      obtain ⟨-, rfl⟩ := Tx.pure_ok.mp hx
      exact command_move hedits h₁
    | create form => exact createProduct_move hx
    | edit id form => exact updateProductPricing_move hx
  · rw [ha]
    exact .refl

/-- A percentage has a value in paise. -/
theorem money_percent {f : PyFloat} (h : isPercent f = true) : ∃ rate, money f = .ok rate := by
  unfold isPercent isAmount at h
  simp only [Bool.and_eq_true, Bool.not_eq_true'] at h
  obtain ⟨⟨hfinite, hlow⟩, hhigh⟩ := h
  obtain ⟨x, hx⟩ : ∃ x, f.toRat? = some x := by
    cases f with
    | finite neg d => exact ⟨_, rfl⟩
    | nan => cases hfinite
    | inf neg => cases hfinite
  have hzero : PyFloat.zero.toRat? = some 0 := by decide +kernel
  have hhundred : hundred.toRat? = some 100 := by decide +kernel
  have hnonneg : 0 ≤ x := not_lt.mp fun hlt => by
    rw [(PyFloat.lt_toRat hx hzero).mpr hlt] at hlow
    cases hlow
  have hle : x ≤ 100 := not_lt.mp fun hlt => by
    rw [(PyFloat.lt_toRat hhundred hx).mpr hlt] at hhigh
    cases hhigh
  have hroom : |x| + (10 : ℚ) ^ (-((2 : ℕ) : ℤ)) / 2 < (10 : ℚ) ^ (28 - ((2 : ℕ) : ℤ)) := by
    rw [abs_of_nonneg hnonneg]
    norm_num
    linarith
  obtain ⟨rate, hrate⟩ := quantizeHalfUp_some hroom
  refine ⟨rate, ?_⟩
  unfold money
  rw [hx]
  show quantized x = _
  unfold quantized
  rw [hrate]
  rfl

/-- An edit that keeps the GST rates, or whose products the batch does not tax by, keeps what
the voucher is made of. -/
theorem VoucherKept.edit {loaded : LoadedBatch} {t t' : Db} {edited : Option (Nat × PyFloat)}
    (h : VoucherKept loaded t) (hmove : EditMove edited t t')
    (hgst : ownGst loaded.batch = true ∨ ∀ e ∈ edited, e.1 ∈ loaded.items.map (·.product.id) →
      (t.product e.1).map (·.gstRate) = some e.2) : VoucherKept loaded t' where
  row := by
    unfold Db.batch
    rw [hmove.batches]
    exact h.row
  items := by
    unfold Db.itemsOf
    rw [hmove.items]
    exact h.items
  serials := by
    intro l hl
    unfold Db.serial
    rw [hmove.serials]
    exact h.serials l hl
  -- The products are those of the lines, with the rate kept where it is read.
  products := by
    intro l hl
    obtain ⟨q, hq, hid, hsame⟩ := h.products l hl
    obtain ⟨q', hq', hid', hsame'⟩ := hmove.products q (hid.symm ▸ hq)
    rw [hid] at hq' hid'
    refine ⟨q', hq', hid', ?_⟩
    rcases hsame' with hrate | ⟨hedited, hpercent⟩
    · rwa [hrate]
    · rcases hgst with hown | hkeeps
      · exact .inr ⟨hown, money_percent hpercent⟩
      · have hkept := hkeeps _ hedited (by rw [hid]; exact List.mem_map_of_mem hl)
        rw [hid, hq] at hkept
        have hrate : q.gstRate = q'.gstRate := Option.some.inj hkept
        rw [← hrate]
        exact hsame

/-! ## Runs -/

/-- The products of a batch's items. -/
def Db.productsOf (db : Db) (batchId : Nat) : List Nat :=
  (db.itemsOf batchId).filterMap fun i => db.productOf i.serialId

theorem LoadedFrom.productsOf_eq {batchId : Nat} {items : List LoadedItem}
    (h : LoadedFrom db batchId items) :
    db.productsOf batchId = items.map (·.product.id) := by
  unfold Db.productsOf
  rw [← h.items, List.filterMap_map]
  have hall : ∀ l ∈ items,
      ((fun i : BatchItem => db.productOf i.serialId) ∘ LoadedItem.item) l = some l.product.id := by
    intro l hl
    rw [Function.comp_apply]
    unfold Db.productOf
    rw [h.serials l hl, (lookup_some (h.products l hl)).2]
    rfl
  rw [List.filterMap_congr hall]
  exact congrFun List.filterMap_eq_map _

/-- A draft that `submit_batch` submits was loaded as it is stored, and its voucher computed. -/
theorem submitBatch_submits {batch : Batch} (hbatch : db.batch batch.id = some batch)
    (hdraft : batch.status = .draft) {s : Submitter}
    (h : (submitBatch rt batch.id s).serve commitStock db = (.ok ⟨⟩, db')) :
    ∃ items summary, LoadedFrom db batch.id items ∧
      calculateVoucherSummary rt ⟨batch, items⟩ = .ok summary ∧
      submit s ⟨batch, items⟩ db = (.ok ⟨⟩, db') := by
  -- The checks of the request pass with the state unchanged; what is left is the commit.
  have hserves : (submitBatch rt batch.id s).Serves commitStock
      (fun _ t => ∃ items summary, LoadedFrom db batch.id items ∧
        calculateVoucherSummary rt ⟨batch, items⟩ = .ok summary ∧
        submit s ⟨batch, items⟩ db = (.ok ⟨⟩, t))
      (fun _ _ => True) db := by
    unfold submitBatch
    refine (getBatch_serves (P := fun b t => b = batch ∧ t = db) hbatch ⟨rfl, rfl⟩).bind
      fun b t ht => ?_
    obtain ⟨rfl, rfl⟩ := ht
    refine ((loadItems_ready b.id).serves.imp (fun _ _ h => h) fun _ _ _ => trivial).bind fun items
      t' ht => ?_
    obtain ⟨rfl, -, hitems⟩ := ht
    dsimp only
    rw [if_neg (not_not.mpr hdraft)]
    refine ((validateSaleReturnsComplete_ready b).serves.imp (fun _ _ h => h) fun _ _ _ =>
      trivial).bind
      fun _ t ht => ?_
    obtain ⟨rfl, -⟩ := ht
    refine Request.Serves.bind_lift (fun _ _ => trivial) fun _ hpriced => ?_
    refine Request.Serves.bind_lift (fun _ _ => trivial) fun _ _ => ?_
    obtain ⟨summary, hsummary, -⟩ := except_bind_ok.mp hpriced
    exact Request.Serves.commits
      (fun t' ht' => ⟨items, summary, hitems, hsummary, Tx.atomically_ok.mp ht'⟩)
      fun _ _ _ => trivial
  unfold Request.Serves at hserves
  rw [h] at hserves
  exact hserves

/-- A batch that is no audit is submitted. Whatever product forms, pricing forms and Master's
product commands follow, as long as none gives a product of the batch another GST rate, or
the batch has rates of its own, its voucher has the amounts it was submitted with. -/
theorem submitted_amounts_stay (rt : Runtime) {db db₁ : Db} (hk : db.Keyed) {batch : Batch}
    (hbatch : db.batch batch.id = some batch) (hdraft : batch.status = .draft)
    (haudit : batch.batchType ≠ .audit) (s : Submitter)
    (hsubmit : (submitBatch rt batch.id s).serve commitStock db = (.ok ⟨⟩, db₁)) :
    ∃ summary, (storedVoucher rt batch.id).serve commitStock db = (.ok summary, db) ∧ ∀ edits db₂,
      Guarded (catalogMachine rt) (fun t a => a.EditsProducts rt ∧
        (ownGst batch = true ∨ KeepsGst rt (db.productsOf batch.id) t a)) db₁ edits →
      exec (catalogMachine rt) db₁ edits = some db₂ →
      ∃ summary', (storedVoucher rt batch.id).serve commitStock db₂ = (.ok summary', db₂) ∧
        summary'.amounts = summary.amounts := by
  obtain ⟨items, summary, hitems, hsummary, hrun⟩ := submitBatch_submits hbatch hdraft hsubmit
  let loaded : LoadedBatch := ⟨batch, items⟩
  have hbefore : (storedVoucher rt loaded.batch.id).serve commitStock db =
      (calculateVoucherSummary rt loaded, db) :=
    storedVoucher_serve hbatch hitems
  rw [hsummary] at hbefore
  refine ⟨summary, hbefore, fun edits db₂ hguard hexec => ?_⟩
  have hstart : VoucherKept loaded db₁ := submit_kept hk hbatch hitems hrun
  have hkept : VoucherKept loaded db₂ := by
    refine guarded_invariant (fun t a t' ht ha hstep => ?_) hstart hguard hexec
    obtain ⟨hedits, hgst⟩ := ha
    rw [hitems.productsOf_eq] at hgst
    exact ht.edit (catalog_move hedits hstep) hgst
  exact hkept.voucher (fun l hl => hitems.product_stored hl) haudit hsummary

/-- The product of the bottles, at 18% GST. -/
def bottleProduct : Product :=
  { id := 1, productCode := py "BTL", productName := py "Bottle", nickname := none,
    category := none, brand := none, hsn := py "7010", gstRate := .finite false (Dec.ofDigits 18 0),
    unit := py "Pcs", defaultRate := hundred, salesDiscountRate := .zero,
    shelfVerificationInterval := 1, tallyStockItemName := py "Bottle",
    alternateTallyStockItemName := none, active := true }

/-- A node whose baseline is queued, with a draft sale of one bottle. -/
def pricedBottle : Db :=
  { bottleScanned with
    products := [bottleProduct]
    outbox := [{
      id := 1, eventId := py "11111111-1111-4111-8111-111111111111",
      eventType := py "STOCK_SNAPSHOT", schemaVersion := 1, aggregateType := py "INITIAL_INVENTORY",
      aggregateId := py "HOME:INITIAL-INVENTORY:1", batchId := none, payloadJson := [],
      payloadSha256 := [],
      status := .sent, attempts := 1, nextAttemptAt := none, lastError := none, sendingAt := none,
      sentAt := some 0 }]
    outboxSequence := 1 }

def bottleSeller : Submitter := ⟨homeSettings, ⟨1, py "office"⟩, 63900000000000000,
  py "22222222-2222-4222-8222-222222222222"⟩

/-- The bottle is sold. -/
def soldBottle : Db := ((submitBatch .plain 1 bottleSeller).serve commitStock pricedBottle).2

/-- The sale is not refused. -/
private theorem bottle_sold :
    (submitBatch .plain 1 bottleSeller).serve commitStock pricedBottle = (.ok ⟨⟩, soldBottle) :=
  Prod.ext (by decide +kernel) rfl

/-- The bottles now cost 250 and are sold at half of it. -/
def repriceBottle : CatalogAction :=
  .edit 1 ⟨.finite false (Dec.ofDigits 250 0), .finite false (Dec.ofDigits 50 0), none, none,
    none, none,
    none, none, none, none⟩

/-- The voucher of the sold bottle stays under a new price. -/
theorem submitted_amounts_stay_bottle :
    ∃ summary, (storedVoucher .plain 1).serve commitStock pricedBottle =
        (.ok summary, pricedBottle) ∧
      ∃ summary', (storedVoucher .plain 1).serve commitStock
        (Tx.atomically (catalogTx .plain repriceBottle) soldBottle).2
        = (.ok summary', (Tx.atomically (catalogTx .plain repriceBottle) soldBottle).2) ∧
        summary'.amounts = summary.amounts := by
  have hkeyed : pricedBottle.Keyed := by
    constructor <;> decide +kernel
  obtain ⟨summary, hbefore, hafter⟩ := submitted_amounts_stay .plain hkeyed
    (show pricedBottle.batch bottleSale.id = some bottleSale by decide +kernel) rfl (by decide)
      bottleSeller bottle_sold
  refine ⟨summary, hbefore, hafter [repriceBottle] _ ?_ rfl⟩
  exact ⟨⟨trivial, .inr (by decide +kernel)⟩, fun _ _ => trivial⟩

/-- Master sends the bottles with 5% GST, and the voucher of the sold one is taxed at 5%. -/
theorem gst_edit_moves_voucher :
    ((submitBatch .plain 1 bottleSeller).serve commitStock pricedBottle).1 = .ok ⟨⟩ ∧
      (upsertOne (py "1") (py "BTL")).EditsProducts .plain ∧
      (((storedVoucher .plain 1).serve commitStock soldBottle).1.map fun summary =>
        (summary.taxableValue, summary.gstAmount)) = .ok (339 / 4, 763 / 50) ∧
      (exec (catalogMachine .plain) soldBottle [upsertOne (py "1") (py "BTL")]).map (fun db₂ =>
        ((storedVoucher .plain 1).serve commitStock db₂).1.map fun summary =>
          (summary.taxableValue, summary.gstAmount)) = some (.ok (2381 / 25, 119 / 25)) := by
  refine ⟨congrArg Prod.fst bottle_sold, fun parts hparts => ?_, by decide +kernel⟩
  have htype : (commandParts .plain (masterCommand (py "1") (py "PRODUCT_UPSERT")
      (productPayload (py "BTL") []))).map (·.commandType) = .ok (py "PRODUCT_UPSERT") := by
        decide +kernel
  rw [hparts] at htype
  exact Except.ok.inj htype

end SetuoraLite
