import SetuoraLite.Stock.Voucher

/-!
# Submitting a batch

`submit_batch` loads a batch, checks it as loaded, and writes everything in one
transaction: each item's rate and discount are frozen, its serial is claimed with a
conditional update and logged, the batch leaves `DRAFT`, and one event with the items
is queued. An audit moves no stock, so it claims nothing.

The transaction works from the rows the request loaded. `submitItem_ok` and
`submit_ok` say what is in the database afterwards, whatever it was before.
-/

namespace SetuoraLite

open Lib

/-- `transaction_type_for_batch`. -/
def transactionTypeForBatch : BatchType → TransactionType
  | .purchase | .receive => .purchase
  | .sale => .sale
  | .salesReturn => .salesReturn
  | .purchaseReturn => .purchaseReturn
  | .issue => .issue
  | .audit => .audit
  | .qrAssignment => .qrAssignment

/-- `log_inventory_transaction`, with the arguments the stock services give it. -/
def inventoryTransaction (user : User) (type : TransactionType) (serial : Serial)
    (batch : Option Batch) (statusFrom statusTo : SerialStatus)
    (reference notes : Option PyStr) : InventoryTransaction :=
  { id := 0, transactionType := type, serialId := some serial.id,
    productId := some serial.productId, batchId := batch.map (·.id), userId := user.id,
    serialNumber := some serial.serialNumber, statusFrom := some statusFrom,
    statusTo := some statusTo,
    reasonCode := (stripped (batch.bind (·.reasonCode))).map upper,
    tallyReference := batch.bind (·.tallyReference),
    referenceNumber := reference.or (batch.map (·.batchNumber)), notes := stripped notes }

/-- A sales return that does not go back on sale. -/
def isDamagedReturn (batch : Batch) : Bool :=
  batch.reasonCode = some (py "DAMAGED") || batch.reasonCode = some (py "EXPIRED")

/-- The status a serial leaves a batch with. -/
def targetStatus (batch : Batch) (previous : SerialStatus) : SerialStatus :=
  match batch.batchType with
  | .purchase | .receive => .inStock
  | .sale => .sold
  | .salesReturn => if isDamagedReturn batch then .damaged else .inStock
  | .purchaseReturn => .purchaseReturn
  | .issue => .issued
  | .audit | .qrAssignment => previous

/-- The status of the scan log. -/
def scanStatus (batch : Batch) : PyStr :=
  match batch.batchType with
  | .purchase | .receive => py "PURCHASED"
  | .sale => py "SOLD"
  | .salesReturn => if isDamagedReturn batch then py "DAMAGED" else py "RETURNED"
  | .purchaseReturn => py "PURCHASE_RETURN"
  | .issue => py "ISSUED"
  | .audit => py "AUDITED"
  | .qrAssignment => py "SUBMITTED"

/-! ## One item -/

/-- The rate of the loaded item is still to be set; an audit leaves it open. -/
def LoadedItem.freezesRate (batch : Batch) (l : LoadedItem) : Bool :=
  batch.batchType ≠ .audit && l.item.rate.isNone

/-- The columns that submitting writes into an item's row. -/
def LoadedItem.freeze (batch : Batch) (l : LoadedItem) (stored : BatchItem) : BatchItem :=
  { stored with
    rate := if l.freezesRate batch then some l.product.defaultRate.orZero else stored.rate
    salesDiscountRate :=
      if l.item.salesDiscountRate.isNone then some l.product.salesDiscountRate.orZero
      else stored.salesDiscountRate }

/-- The loaded rows as the transaction leaves them in the session. -/
def LoadedItem.submitted (batch : Batch) (l : LoadedItem) : LoadedItem :=
  ⟨l.freeze batch l.item, { l.serial with status := targetStatus batch l.serial.status }, l.product⟩

/-- The conditional update of a serial; an audit makes none. -/
def claimForBatch (batch : Batch) (serial : Serial) : Tx PUnit :=
  if batch.batchType = .audit then pure ⟨⟩
  else claimSerial serial.id serial.status (targetStatus batch serial.status)
    (inventoryError (serial.serialNumber ++ py " is no longer available; re-scan the batch"))

/-- The inventory transaction of an item. -/
def itemTransaction (user : User) (batch : Batch) (serial : Serial) : InventoryTransaction :=
  inventoryTransaction user (transactionTypeForBatch batch.batchType) serial (some batch)
    serial.status
    (targetStatus batch serial.status) none batch.notes

/-- The scan log of an item. -/
def itemScanLog (user : User) (now : Instant) (batch : Batch) (serial : Serial) : ScanLog :=
  { batchScanLog batch user now (some serial) serial.serialNumber batch.batchType.value
      (scanStatus batch) none with tallyReference := batch.tallyReference }

/-- The update of an item's row: only columns that changed are written, and a row without
any is not touched. -/
def freezeItem (batch : Batch) (l : LoadedItem) : Tx PUnit :=
  if l.freezesRate batch || l.item.salesDiscountRate.isNone then
    updateBatchItem l.item.id (l.freeze batch)
  else pure ⟨⟩

/-- One round of the loop of `apply_batch_statuses`. -/
def submitItem (user : User) (now : Instant) (batch : Batch) (l : LoadedItem) : Tx PUnit := do
  claimForBatch batch l.serial
  freezeItem batch l
  insertScanLog (itemScanLog user now batch l.serial)
  insertInventoryTransaction (itemTransaction user batch l.serial)

/-! ## The event -/

/-- A nullable float. -/
def optFloat : Option PyFloat → Json
  | some f => .float f
  | none => .null

/-- `network_event_item` of a loaded item. -/
def LoadedItem.networkItem (l : LoadedItem) : JsonDict :=
  networkEventItem l.product l.serial l.item.rate l.item.salesDiscountRate none

/-- The items of a batch's event, by item id. -/
def batchEventItems (items : List LoadedItem) : List JsonDict :=
  (items.insertionSort fun a b => a.item.id ≤ b.item.id).map LoadedItem.networkItem

/-- The payload of `enqueue_batch_submitted_event`. -/
def batchPayload (user : User) (batch : Batch) (items : List JsonDict) : JsonDict where
  entries :=
    [(py "reference", .str ((batch.tallyReference.filter fun s => s ≠ []).getD batch.batchNumber)),
    (py "actor", .str user.username),
    (py "items", .arr (items.map fun item => .obj item.entries)),
    (py "party_name", optStr batch.partyName),
    (py "party_state", optStr batch.partyState),
    (py "party_gst_registration_type", optStr batch.partyGstRegistrationType),
    (py "party_gst_name", optStr batch.partyGstName),
    (py "party_gstin", optStr batch.partyGstin),
    (py "gst_treatment", optStr batch.gstTreatment),
    (py "gst_cgst_rate", optFloat batch.gstCgstRate),
    (py "gst_sgst_rate", optFloat batch.gstSgstRate),
    (py "gst_igst_rate", optFloat batch.gstIgstRate),
    (py "reason_code", optStr batch.reasonCode)]
  wf := by
    have hfloat : ∀ x, (optFloat x).WF := fun x => by cases x <;> trivial
    have hkeys : [py "reference", py "actor", py "items", py "party_name", py "party_state",
        py "party_gst_registration_type", py "party_gst_name", py "party_gstin", py "gst_treatment",
        py "gst_cgst_rate", py "gst_sgst_rate", py "gst_igst_rate",
        py "reason_code"].Nodup := by decide
    have hitems : (Json.arr (items.map fun item => .obj item.entries)).WF := by
      apply Json.allWF_iff.mpr
      intro v hv
      obtain ⟨item, -, rfl⟩ := List.mem_map.mp hv
      exact item.wf
    exact ⟨hkeys, trivial, trivial, hitems, optStr_wf _, optStr_wf _, optStr_wf _, optStr_wf _,
      optStr_wf _, optStr_wf _, hfloat _, hfloat _, hfloat _, optStr_wf _, trivial⟩

/-- The event's type: Master has no `QR_ASSIGNMENT`. -/
def batchEventType (batchType : BatchType) : PyStr :=
  if batchType = .qrAssignment then py "STOCK_SNAPSHOT" else batchType.value

/-- What `enqueue_batch_submitted_event` queues. -/
def batchSubmittedRequest (code : PyStr) (s : Submitter) (batch : Batch) (items : List LoadedItem) :
    EnqueueRequest where
  eventType := batchEventType batch.batchType
  aggregateType := py "BATCH"
  aggregateId := code ++ py ":" ++ batch.batchNumber
  payload := batchPayload s.user batch (batchEventItems items)
  occurredAt := some s.now
  schemaVersion := eventSchemaVersion
  batchId := some batch.id
  initialInventory := false

/-- `enqueue_batch_submitted_event`. -/
def enqueueBatchSubmittedEvent (s : Submitter) (batch : Batch) (items : List LoadedItem) :
    Tx MasterOutboxEvent := do
  let code ← Tx.lift (configuredFranchiseCode s.settings (some true))
  enqueueOutboxEvent s.settings s.uuid s.now (batchSubmittedRequest code s batch items)

/-! ## The transaction and the request -/

/-- What `submit_batch` writes. -/
def submit (s : Submitter) (loaded : LoadedBatch) : Tx PUnit := do
  Tx.each (submitItem s.user s.now loaded.batch) loaded.items
  updateBatch loaded.batch.id .pendingSync (some s.now)
  let _ ← enqueueBatchSubmittedEvent s loaded.batch
    (loaded.items.map (LoadedItem.submitted loaded.batch))
  pure ⟨⟩

/-- The checks of `apply_batch_statuses`. -/
def checkBatchStatuses (loaded : LoadedBatch) : Except PyError Unit :=
  if loaded.items = []
    then .error (inventoryError (py "Scan at least one serial before submitting"))
  else do
    validateShelfVerificationComplete loaded
    let _ ← loaded.items.mapM fun l => serialAllowedForBatch l.serial loaded.batch.batchType
    .ok ()

/-- `submit_batch`; a batch that is no draft is left as it is. -/
def submitBatch (rt : Runtime) (batchId : Nat) (s : Submitter) : StockRequest PUnit := do
  let batch ← getBatch batchId
  let items ← loadItems batchId
  let loaded : LoadedBatch := ⟨batch, items⟩
  if batch.status ≠ .draft then pure ⟨⟩
  else do
    validateSaleReturnsComplete batch
    Request.lift (validatePricedBatch rt loaded)
    Request.lift (checkBatchStatuses loaded)
    Request.commits (.submit s loaded)

end SetuoraLite
