import SetuoraLite.Stock.Batches

/-!
# Shelves

A purchase or an audit stops until the products scanned so far are put on a shelf, and
a sale stops until a product handed back is; the shelf's QR code is scanned into the
batch like a serial. Both put the serials at the shelf's location, and with that into
its warehouse.

`scanIntoBatch` is the route behind every scan: a location, a product handed back, or a
serial to add.
-/

namespace SetuoraLite

open Lib

/-- `StorageLocation.full_path`. -/
def StorageLocation.fullPath (l : StorageLocation) : PyStr :=
  joinWith (py " / ") [l.warehouse, l.zone, l.section_, l.rack, l.shelf, l.bin]

/-- `find_location_by_code`, among the active ones. -/
def findLocationByCode (code : PyStr) (db : Db) : Option StorageLocation :=
  db.locations.find? fun l => l.code = upper (strip code) && l.active

/-! ## Shelf verification -/

/-- `SHELF_CONTROLLED_BATCH_TYPES`. -/
def shelfControlledBatchTypes : List BatchType := [.purchase, .receive, .audit]

/-- `_interval`. -/
def LoadedItem.interval (l : LoadedItem) : Int := max 1 l.product.shelfVerificationInterval

/-- `pending_shelf_items`. -/
def pendingShelfItems (batch : Batch) (items : List LoadedItem) : List LoadedItem :=
  if batch.batchType ∈ shelfControlledBatchTypes then
    items.filter fun l => decide (0 < l.interval) && l.item.shelfVerifiedAt.isNone
  else []

/-- `shelf_verification_state(batch)["shelf_required"]`. -/
def shelfRequired (pending : List LoadedItem) : Bool :=
  pending.any fun l =>
    l.interval ≤ (pending.filter fun l' => l'.serial.productId = l.serial.productId).length

/-- `ensure_product_scan_allowed`; only a controlled batch loads its items for it. -/
def ensureProductScanAllowed (batch : Batch) : StockRequest PUnit :=
  if batch.batchType ∈ shelfControlledBatchTypes then do
    let items ← loadItems batch.id
    Request.raiseIf (shelfRequired (pendingShelfItems batch items) = true) (shelfError
      (py "Shelf verification is required now. Scan the shelf QR before scanning another product."))
  else pure ⟨⟩

/-- The item was scanned elsewhere than at this location. -/
def isLocationMismatch (batch : Batch) (location : StorageLocation) (l : LoadedItem) : Bool :=
  batch.batchType = .audit && l.serial.locationId.any fun id => id ≠ location.id

/-- The message of a shelf scan. -/
def shelfMessage (verified mismatches : Nat) (location : StorageLocation) : PyStr :=
  decDigits verified ++ py " product(s) verified at " ++ location.fullPath ++
    (if mismatches = 0 then [] else
      py "; " ++ decDigits mismatches ++ py " audit location mismatch(es) recorded")

/-- One round of the loop of `verify_pending_items_on_shelf`. -/
def verifyItem (location : StorageLocation) (user : User) (now : Instant) (l : LoadedItem) :
    Tx PUnit := do
  updateBatchItem l.item.id fun stored =>
    { stored with
      shelfLocationId := some location.id
      shelfVerifiedById := some user.id
      shelfVerifiedAt := some now }
  updateSerial l.serial.id (Serial.placedAt location)

/-- The writes of `verify_pending_items_on_shelf`. -/
def verifyShelf (batch : Batch) (pending : List LoadedItem) (location : StorageLocation)
    (user : User) (now : Instant) : Tx PUnit := do
  let mismatches := (pending.filter (isLocationMismatch batch location)).length
  Tx.each (verifyItem location user now) pending
  insertScanLog (batchScanLog batch user now none location.code (py "SHELF_VERIFY")
    (if mismatches = 0 then py "VERIFIED" else py "MISMATCH")
    (some (shelfMessage pending.length mismatches location)))

/-- `verify_pending_items_on_shelf`. -/
def verifyPendingItemsOnShelf (batch : Batch) (location : StorageLocation) (user : User)
    (now : Instant) : StockRequest PUnit := do
  Request.raiseIf (batch.status ≠ .draft) (shelfError (py "This batch is already submitted"))
  Request.raiseIf (batch.batchType ∉ shelfControlledBatchTypes)
    (shelfError (py "Shelf verification is not used for this batch type"))
  let items ← loadItems batch.id
  let pending := pendingShelfItems batch items
  Request.raiseIf (pending = [])
    (shelfError (py "Scan at least one shelf-controlled product before the shelf QR"))
  Request.commits (.verifyShelf batch pending location user now)

/-- `validate_shelf_verification_complete`. -/
def validateShelfVerificationComplete (loaded : LoadedBatch) : Except PyError Unit :=
  let pendingCount := (pendingShelfItems loaded.batch loaded.items).length
  if pendingCount = 0 then .ok ()
  else .error (shelfError (
    (if loaded.batch.batchType ∈ [.purchase, .receive] then py "Purchase" else py "Audit") ++
      py " is incomplete: verify the shelf QR for " ++ decDigits pendingCount ++ py " scanned " ++
      (if pendingCount = 1 then py "product" else py "products") ++ py " before submitting."))

/-! ## Returns inside a sale -/

/-- `_ensure_draft_sale`. -/
def ensureDraftSale (batch : Batch) : StockRequest PUnit := do
  Request.raiseIf (batch.batchType ≠ .sale)
    (inventoryError (py "Return mode is available only inside a sale."))
  Request.raiseIf (batch.status ≠ .draft) (inventoryError (py "This sale is already submitted."))

/-- `_record_rejected_sale_return`, and the `InventoryError` after it. -/
def rejectSaleReturn (batch : Batch) (user : User) (now : Instant) (serial : Option Serial)
    (number message : PyStr) : StockRequest PUnit := do
  Request.commits (.logScan (batchScanLog batch user now serial number (py "SALE_RETURN")
    (py "REJECTED") (some message)))
  Request.raise (inventoryError message)

/-- The item leaves the sale; the log waits for a shelf. -/
def returnItem (itemId : Nat) (log : ScanLog) : Tx PUnit := do
  deleteBatchItem itemId
  insertScanLog log

/-- The item of a serial in a batch. -/
def Db.itemOfSerial (db : Db) (batchId serialId : Nat) : Option BatchItem :=
  db.batchItems.find? fun i => i.batchId = batchId && i.serialId = serialId

/-- `scan_sale_return_product`. -/
def scanSaleReturnProduct (batch : Batch) (user : User) (serialNumber : PyStr) (now : Instant) :
    StockRequest PUnit := do
  ensureDraftSale batch
  let pending ← Request.reads (pendingSaleReturnLogs batch.id)
  Request.raiseIf (pending ≠ []) (inventoryError
    (py "Scan the shelf QR for the returned product before returning another item."))
  let number := upper (strip serialNumber)
  match ← Request.reads fun db => db.serialNumbered number with
  | none => rejectSaleReturn batch user now none number (py "Serial number not found")
  | some serial =>
    if serial.active = false ∨ serial.status = .invalid ∨ serial.status = .replaced then
      rejectSaleReturn batch user now (some serial) number
        (serial.serialNumber ++ py " is inactive")
    else do
      match ← Request.reads fun db => db.itemOfSerial batch.id serial.id with
      | none =>
        rejectSaleReturn batch user now (some serial) number
          (py "Only products already scanned in this sale can be returned before checkout.")
      | some item =>
        Request.commits (.returnItem item.id
          (batchScanLog batch user now (some serial) serial.serialNumber (py "SALE_RETURN")
            (py "PENDING_SHELF") (some (py "Removed from sale; waiting for shelf QR."))))

/-- One round of the loop of `verify_sale_return_on_shelf`. -/
def placeReturn (location : StorageLocation) (log : ScanLog) : Tx PUnit := do
  updateScanLog log.id (py "SHELF_VERIFIED")
    (py "Returned product placed at " ++ location.fullPath ++ py ".")
  match log.serialId with
  | some id => updateSerial id (Serial.placedAt location)
  | none => pure ⟨⟩

/-- The writes of `verify_sale_return_on_shelf`. -/
def verifyReturn (batch : Batch) (pending : List ScanLog) (location : StorageLocation) (user : User)
    (now : Instant) : Tx PUnit := do
  Tx.each (placeReturn location) pending
  insertScanLog (batchScanLog batch user now none location.code (py "SALE_RETURN_SHELF")
    (py "VERIFIED") (some (decDigits pending.length ++ py " returned product(s) placed at " ++
      location.fullPath ++ py ".")))

/-- `verify_sale_return_on_shelf`. -/
def verifySaleReturnOnShelf (batch : Batch) (location : StorageLocation) (user : User)
    (now : Instant) : StockRequest PUnit := do
  ensureDraftSale batch
  let pending ← Request.reads (pendingSaleReturnLogs batch.id)
  Request.raiseIf (pending = []) (inventoryError
    (py "Scan a returned sale product before scanning the shelf QR."))
  Request.commits (.verifyReturn batch pending location user now)

/-- `validate_sale_returns_complete`. -/
def validateSaleReturnsComplete (batch : Batch) : StockRequest PUnit :=
  if batch.batchType ≠ .sale then pure ⟨⟩
  else do
    let pending ← Request.reads (pendingSaleReturnLogs batch.id)
    Request.raiseIf (pending ≠ []) (inventoryError
      (py "Sale return is incomplete: scan the shelf QR for " ++ decDigits pending.length ++
        py " returned " ++ (if pending.length = 1 then py "product" else py "products") ++
        py " before submitting."))

/-! ## A scan -/

/-- `scan_into_batch`; `returning` is a scan in return mode. -/
def scanIntoBatch (batchId : Nat) (user : User) (serialNumber : PyStr) (returning : Bool)
    (now : Instant) : StockRequest PUnit := do
  let batch ← getBatch batchId
  match ← Request.reads (findLocationByCode serialNumber) with
  | some location =>
    if batch.batchType = .sale then verifySaleReturnOnShelf batch location user now
    else verifyPendingItemsOnShelf batch location user now
  | none =>
    if batch.batchType = .sale ∧ returning = true then
      scanSaleReturnProduct batch user serialNumber now
    else do
      ensureSaleScanAllowed batch
      ensureProductScanAllowed batch
      addSerialToBatch batch user serialNumber now

end SetuoraLite
