import SetuoraLite.Stock.Fefo

/-!
# Batches

Opening a batch, putting serials into it and taking them out again: by a scan, by the
automatic first-expiry pick, from an Excel voucher. Each service reads what it needs,
decides, and ends in one transaction; a refused scan ends in the transaction that logs
the refusal.

No transaction here looks at the batch again: that it was a draft is something the
request read earlier.
-/

namespace SetuoraLite

open Lib

/-! ## Opening a batch -/

/-- The arguments of `create_batch`. -/
structure BatchForm where
  batchType : BatchType
  partyName : Option PyStr
  notes : Option PyStr
  reasonCode : Option PyStr
  partyState : Option PyStr
  partyGstRegistrationType : Option PyStr
  partyGstName : Option PyStr
  partyGstin : Option PyStr
  gstTreatment : Option PyStr
  gstCgstRate : Option PyFloat
  gstSgstRate : Option PyFloat
  gstIgstRate : Option PyFloat
  auditAssignmentId : Option Nat

/-- `text.strip() if text else None`. -/
def stripped (text : Option PyStr) : Option PyStr := (text.filter fun s => s ≠ []).map strip

def gstRegistrationTypes : List PyStr :=
  [py "Unknown", py "Composition", py "Regular", py "Unregistered/Consumer"]

/-- `normalize_gst_registration_type`. -/
def normalizeGstRegistrationType (value : Option PyStr) (batchType : BatchType) :
    Except PyError (Option PyStr) :=
  let raw := (stripped value).getD []
  let raw := if raw = [] ∧ batchType = .sale then py "Unregistered/Consumer" else raw
  if raw ≠ [] ∧ raw ∉ gstRegistrationTypes then
    .error (inventoryError (py "Choose a valid GST registration type."))
  else .ok (if raw = [] then none else some raw)

/-- `gst_registration_requires_gstin`. -/
def gstRegistrationRequiresGstin (value : Option PyStr) : Bool :=
  strip (value.getD []) ∈ [py "Composition", py "Regular"]

/-- `[0-9A-Z]`. -/
def isGstinChar (c : CodePoint) : Bool := isDigit c || (65 ≤ c.val && c.val ≤ 90)

/-- `normalize_gstin`. -/
def normalizeGstin (value : Option PyStr) : Except PyError (Option PyStr) :=
  let raw := upper ((value.getD []).filter fun c => !isSpace c)
  if raw = [] then .ok none
  else if raw.length ≠ 15 ∨ raw.all isGstinChar = false then
    .error (inventoryError (py "GST number must be a 15-character GSTIN."))
  else .ok (some raw)

/-- The prefix of a batch's number. -/
def batchPrefix : BatchType → PyStr
  | .purchase => py "PUR"
  | .receive => py "RCV"
  | .sale => py "SAL"
  | .audit => py "AUD"
  | .purchaseReturn => py "PRT"
  | .salesReturn => py "SRT"
  | .issue => py "ISS"
  | .qrAssignment => py "ASN"

/-- `strftime("%Y%m%d")`. -/
def compactDate (now : Instant) : PyStr :=
  let d := dateOfDay (now / 1000000 / 86400)
  padded 4 d.year ++ padded 2 d.month ++ padded 2 d.day

/-- `next_batch_number`. -/
def nextBatchNumber (batchType : BatchType) (now : Instant) (db : Db) : PyStr :=
  let stem := batchPrefix batchType ++ py "-" ++ compactDate now ++ py "-"
  stem ++ padded 4 ((db.batches.filter fun b => likePrefix stem b.batchNumber).length + 1)

/-- The treatment of a form, in capitals. -/
def BatchForm.treatment (f : BatchForm) : Except PyError (Option PyStr) :=
  let treatment := (f.gstTreatment.filter fun s => s ≠ []).map fun s => upper (strip s)
  if treatment.any (fun t => t ≠ [] && t ≠ py "INTRA_STATE" && t ≠ py "INTER_STATE") then
    .error (inventoryError (py "Choose either CGST + SGST or IGST for this sale"))
  else .ok treatment

/-- The state of the party: a consumer without one is taken to be in the seller's. -/
def BatchForm.state (f : BatchForm) (registrationType : Option PyStr) : Option PyStr :=
  if f.batchType = .sale ∧ registrationType = some (py "Unregistered/Consumer") ∧
      (stripped f.partyState).getD [] = [] then some (py "Karnataka")
  else stripped f.partyState

/-- The party's GST number, when its registration has one. -/
def BatchForm.gstin (f : BatchForm) (registrationType : Option PyStr) :
    Except PyError (Option PyStr) :=
  if gstRegistrationRequiresGstin registrationType then normalizeGstin f.partyGstin else .ok none

/-- The batch of a form, before it has a number. -/
def BatchForm.row (f : BatchForm) (user : User) : Except PyError Batch := do
  let treatment ← f.treatment
  let registrationType ← normalizeGstRegistrationType f.partyGstRegistrationType f.batchType
  let gstin ← f.gstin registrationType
  .ok { id := 0, batchNumber := [], batchType := f.batchType, partyName := stripped f.partyName,
        partyState := f.state registrationType, partyGstRegistrationType := registrationType,
        partyGstName := stripped f.partyGstName, partyGstin := gstin, gstTreatment := treatment,
        gstCgstRate := storedFloat f.gstCgstRate, gstSgstRate := storedFloat f.gstSgstRate,
        gstIgstRate := storedFloat f.gstIgstRate,
        reasonCode := (stripped f.reasonCode).map upper, userId := user.id,
        auditAssignmentId := f.auditAssignmentId, status := .draft, tallyReference := none,
        notes := stripped f.notes, lastError := none, submittedAt := none, syncedAt := none }

/-- The attempts of `create_batch` to find a number that no one else takes. -/
def createBatchAttempts (row : Batch) (now : Instant) : Nat → StockRequest PUnit
  | 0 => Request.raise (inventoryError (py "Could not allocate a unique batch number; try again"))
  | n + 1 => do
    let number ← Request.reads (nextBatchNumber row.batchType now)
    let outcome ← Request.attempt (.createBatch { row with batchNumber := number })
    match outcome with
    | .ok _ => pure ⟨⟩
    | .error e => if e = .integrity then createBatchAttempts row now n else Request.raise e

/-- `create_batch`. -/
def createBatch (user : User) (form : BatchForm) (now : Instant) : StockRequest PUnit := do
  let row ← Request.lift (form.row user)
  createBatchAttempts row now 5

/-! ## The rows of a scan -/

/-- A scan log of a batch. -/
def batchScanLog (batch : Batch) (user : User) (now : Instant) (serial : Option Serial)
    (raw action status : PyStr) (message : Option PyStr) : ScanLog :=
  { id := 0, serialId := serial.map (·.id), serialNumberRaw := raw, userId := user.id,
    action := action, batchId := some batch.id, status := status, message := message,
    tallyReference := none, createdAt := now }

/-- A new item of a batch. -/
def newBatchItem (batch : Batch) (serial : Serial) (rate : Option PyFloat) (fefoPicked : Bool) :
    BatchItem :=
  { id := 0, batchId := batch.id, serialId := serial.id, rate := storedFloat rate,
    salesDiscountRate := none, fefoPicked := fefoPicked, shelfLocationId := none,
    shelfVerifiedById := none, shelfVerifiedAt := none }

/-- The insert of an item with its log. -/
def addItem (item : BatchItem) (log : ScanLog) : Tx PUnit := do
  insertBatchItem item
  insertScanLog log

/-- The inserts of picked items with their logs. -/
def addItems (picks : List (BatchItem × ScanLog)) : Tx PUnit :=
  Tx.each (fun p => addItem p.1 p.2) picks

/-! ## Scanning -/

/-- `serial_allowed_for_batch`. -/
def serialAllowedForBatch (serial : Serial) (batchType : BatchType) : Except PyError Unit :=
  let refuse (text : PyStr) : Except PyError Unit :=
    .error (inventoryError (serial.serialNumber ++ text))
  if serial.active = false ∨ serial.status = .replaced ∨ serial.status = .invalid then
    refuse (py " is inactive")
  else if serial.status = .generated ∧ batchType ∉ [.purchase, .receive, .qrAssignment] then
    refuse (py " is unassigned. Complete its purchase before using this QR in a stock transaction.")
  else match batchType with
    | .purchase | .receive =>
      if serial.status = .inStock then
        refuse (py " is already in stock. For purchase, scan a QR label that starts as Generated.")
      else if serial.status ∉ [.generated, .purchaseReturn] then
        refuse (py " cannot be purchased from " ++ serial.status.value)
      else .ok ()
    | .sale =>
      if serial.status ∉ stockStatuses then refuse (py " is not available for sale") else .ok ()
    | .audit => .ok ()
    | .salesReturn => if serial.status ≠ .sold then refuse (py " is not sold") else .ok ()
    | .purchaseReturn =>
      if serial.status ∉ stockStatuses then refuse (py " is not available for purchase return")
      else .ok ()
    | .issue =>
      if serial.status ≠ .inStock then refuse (py " is not available for issue") else .ok ()
    | .qrAssignment =>
      if serial.status ≠ .generated then refuse (py " is already assigned") else .ok ()

/-- `validate_assignment_scan`, on the assignment and its product. -/
def validateAssignmentScan (assignment : Option AuditAssignment) (product : Option Product)
    (user : User) (serial : Serial) (now : Instant) : Except PyError Unit :=
  match assignment with
  | none => .ok ()
  | some a =>
    if user.id ≠ a.auditorId then
      .error (inventoryError (py "This audit is assigned to another auditor"))
    else if now < a.startsAt then .error (inventoryError (py "This audit window has not started"))
    else if a.endsAt < now then .error (inventoryError (py "This audit window has ended"))
    else if serial.productId ≠ a.productId then do
      let product ← found product
      .error (inventoryError (py "This assignment is only for " ++ product.productName))
    else .ok ()

/-- The serial is an item of a draft batch other than this one. -/
def Db.inOtherDraft (db : Db) (batchId serialId : Nat) : Bool :=
  db.batchItems.any fun i => i.serialId = serialId &&
    db.batches.any fun b => b.id = i.batchId && b.status = .draft && b.id ≠ batchId

/-- The serial is an item of this batch. -/
def Db.inBatch (db : Db) (batchId serialId : Nat) : Bool :=
  db.batchItems.any fun i => i.batchId = batchId && i.serialId = serialId

/-- The `try` of `add_serial_to_batch`: the outcome of its checks, each with its own query. -/
def scanChecks (batch : Batch) (user : User) (serial : Serial) (now : Instant) :
    StockRequest (Except PyError Unit) :=
  match serialAllowedForBatch serial batch.batchType with
  | .error e => pure (.error e)
  | .ok _ => do
    let assignment ← Request.reads fun db =>
      if batch.batchType = .audit then
        batch.auditAssignmentId.bind fun id => lookup (·.id) id db.assignments
      else none
    let product ← Request.reads fun db => assignment.bind fun a => db.product a.productId
    match validateAssignmentScan assignment product user serial now with
    | .error e => pure (.error e)
    | .ok _ => do
      match ← validateFefoScan batch serial with
      | some text => pure (.error (inventoryError text))
      | none => do
        let existing ← Request.reads fun db => db.inBatch batch.id serial.id
        if existing then pure (.error (inventoryError (py "Already scanned in this batch")))
        else do
          let inOtherDraft ← Request.reads fun db => db.inOtherDraft batch.id serial.id
          if inOtherDraft then
            pure (.error (inventoryError
              (serial.serialNumber ++ py " is already in another open batch")))
          else pure (.ok ())

/-- `_record_rejected_scan`, and the `InventoryError` after it. -/
def rejectScan (batch : Batch) (user : User) (now : Instant) (serial : Option Serial) (raw : PyStr)
    (e : PyError) : StockRequest PUnit := do
  Request.commits (.logScan (batchScanLog batch user now serial raw batch.batchType.value
    (py "REJECTED") (some e.message)))
  Request.raise e

/-- `add_serial_to_batch`. -/
def addSerialToBatch (batch : Batch) (user : User) (serialNumber : PyStr) (now : Instant) :
    StockRequest PUnit := do
  Request.raiseIf (batch.status ≠ .draft) (inventoryError (py "This batch is already submitted"))
  let number := strip serialNumber |> upper
  match ← Request.reads fun db => db.serialNumbered number with
  | none => rejectScan batch user now none number (inventoryError (py "Serial number not found"))
  | some serial =>
    match ← scanChecks batch user serial now with
    | .error e =>
      -- Only an `InventoryError` is logged.
      if e.cls = .inventory then rejectScan batch user now (some serial) serial.serialNumber e
      else Request.raise e
    | .ok _ => do
      let outcome ← Request.attempt (.scanItem (newBatchItem batch serial none false)
        (batchScanLog batch user now (some serial) serial.serialNumber batch.batchType.value
          (py "SCANNED") none))
      match outcome with
      | .ok _ => pure ⟨⟩
      | .error e =>
        if e = .integrity then
          rejectScan batch user now (some serial) serial.serialNumber
            (inventoryError (py "Already scanned in this batch"))
        else Request.raise e

/-! ## Picks -/

/-- `add_fefo_serials_to_batch`. -/
def addFefoSerialsToBatch (batch : Batch) (user : User) (productId : Nat) (quantity : Int)
    (now : Instant) : StockRequest PUnit := do
  Request.raiseIf (batch.status ≠ .draft) (inventoryError (py "This batch is already submitted"))
  Request.raiseIf (batch.batchType ∉ fefoBatchTypes) (inventoryError
    (py "FEFO picking is available for sale, issue, and purchase return batches"))
  let serials ← Request.reads fun db =>
    fefoCandidateSerials db productId quantity.toNat (fefoAvailableStatuses batch.batchType)
  Request.raiseIf (serials.length < quantity) (inventoryError
    (py "Only " ++ decDigits serials.length ++ py " FEFO-ready serials are available"))
  Request.commits (.pickItems (serials.map fun serial =>
    (newBatchItem batch serial none true,
      batchScanLog batch user now (some serial) serial.serialNumber batch.batchType.value
        (py "FEFO_PICKED") (some (py "Auto-picked by First Expiry First Out")))))

/-- `fefo_pick_into_batch`. -/
def fefoPickIntoBatch (batchId : Nat) (user : User) (productId : Nat) (quantity : Int)
    (now : Instant) : StockRequest PUnit := do
  let batch ← getBatch batchId
  addFefoSerialsToBatch batch user productId quantity now

/-- A line of an imported voucher; its quantity is at least one. -/
structure AssignmentLine where
  product : Product
  quantity : Nat
  rate : Option PyFloat

def maxAssignmentQuantity : Nat := 5000

/-- `_pick_import_serials`; `selected` are the serials of the lines before. -/
def pickImportSerials (statuses : List SerialStatus) :
    List Serial → List AssignmentLine → StockRequest (List (AssignmentLine × List Serial))
  | _, [] => pure []
  | selected, line :: lines => do
    let fetched ← Request.reads fun db =>
      fefoCandidateSerials db line.product.id (line.quantity + selected.length) statuses
    let candidates :=
      (fetched.filter fun s => s.id ∉ selected.map (·.id)).take line.quantity
    Request.raiseIf (candidates.length < line.quantity) (inventoryError
      (py "Only " ++ decDigits candidates.length ++ py " FEFO-ready serials are available for " ++
        line.product.productCode))
    let picked ← pickImportSerials statuses (selected ++ candidates) lines
    pure ((line, candidates) :: picked)

/-- `_line_rate`. -/
def lineRate (line : AssignmentLine) : Except PyError (Option PyFloat) :=
  match line.rate with
  | none => .ok none
  | some rate =>
    if rate.lt .zero then
      .error (inventoryError (py "Rate cannot be negative for " ++ line.product.productCode))
    else .ok (some rate)

/-- The rows of one imported line. -/
def importedRows (batch : Batch) (user : User) (now : Instant)
    (p : AssignmentLine × List Serial) : Except PyError (List (BatchItem × ScanLog)) := do
  let rate ← lineRate p.1
  .ok (p.2.map fun serial =>
    (newBatchItem batch serial rate true,
      batchScanLog batch user now (some serial) serial.serialNumber batch.batchType.value
        (py "EXCEL_IMPORTED") (some (py "Imported from Tally Excel by FEFO"))))

/-- The draft sale waits for the shelf of a returned product. -/
def pendingSaleReturnLogs (batchId : Nat) (db : Db) : List ScanLog :=
  db.scanLogs.filter fun log => log.batchId = some batchId && log.action = py "SALE_RETURN" &&
    log.status = py "PENDING_SHELF"

/-- `ensure_sale_scan_allowed`. -/
def ensureSaleScanAllowed (batch : Batch) : StockRequest PUnit :=
  if batch.batchType = .sale then do
    let pending ← Request.reads (pendingSaleReturnLogs batch.id)
    Request.raiseIf (pending ≠ []) (inventoryError
      (py "Scan the shelf QR for the returned product before continuing the sale."))
  else pure ⟨⟩

/-- `import_tally_excel_to_batch`; `parse` reads the lines of the uploaded workbook. -/
def importTallyExcel (batchId : Nat) (user : User)
    (parse : Db → Except PyError (List AssignmentLine)) (now : Instant) : StockRequest PUnit := do
  let batch ← getBatch batchId
  Request.raiseIf (batch.status ≠ .draft) (inventoryError
    (py "Excel import is only available for draft batches"))
  Request.raiseIf (batch.batchType ∉ fefoBatchTypes) (inventoryError
    (py "Excel import is available for sale, issue, and purchase return batches"))
  ensureSaleScanAllowed batch
  let lines ← Request.reads parse
  let lines ← Request.lift lines
  let total := (lines.map (·.quantity)).sum
  Request.raiseIf (total < 1) (inventoryError (py "Excel file has no importable quantity"))
  Request.raiseIf (maxAssignmentQuantity < total) (inventoryError
    (py "Import " ++ decDigits maxAssignmentQuantity ++ py " items or fewer at a time"))
  let picked ← pickImportSerials (fefoAvailableStatuses batch.batchType) [] lines
  let rows ← Request.lift (picked.mapM (importedRows batch user now))
  Request.commits (.pickItems rows.flatten)

/-! ## Edits -/

/-- `remove_batch_item`. -/
def removeBatchItem (batch : Batch) (itemId : Nat) : StockRequest PUnit := do
  Request.raiseIf (batch.status ≠ .draft) (inventoryError (py "Submitted batches cannot be edited"))
  let item ← Request.reads fun db => db.batchItem itemId
  Request.raiseIf (∀ i ∈ item, i.batchId ≠ batch.id) (inventoryError (py "Scan not found"))
  Request.commits (.removeItem itemId)

/-- The loaded item has this rate already, so that writing it changes nothing. -/
def BatchItem.hasRate (i : BatchItem) (rate : PyFloat) : Bool :=
  i.rate.any fun r => r.le rate && rate.le r

/-- The `UPDATE`s of items whose rate changes. -/
def setRates (items : List BatchItem) (rate : PyFloat) : Tx PUnit :=
  Tx.each (fun i => updateBatchItem i.id fun stored =>
    { stored with rate := storedFloat (some rate) })
    (items.filter fun i => !i.hasRate rate)

/-- `update_batch_item_rate`. -/
def updateBatchItemRate (batch : Batch) (itemId : Nat) (rate : PyFloat) : StockRequest PUnit := do
  Request.raiseIf (batch.status ≠ .draft) (inventoryError (py "Submitted batches cannot be edited"))
  Request.raiseIf (rate.lt .zero = true) (inventoryError (py "Rate cannot be negative"))
  let item ← Request.reads fun db => db.batchItem itemId
  Request.raiseIf (∀ i ∈ item, i.batchId ≠ batch.id) (inventoryError (py "Scan not found"))
  Request.commits (.setRates item.toList rate)

/-- `update_product_rate_in_batch`. -/
def updateProductRateInBatch (batch : Batch) (items : List LoadedItem) (productId : Nat)
    (rate : PyFloat) : StockRequest PUnit := do
  Request.raiseIf (batch.status ≠ .draft) (inventoryError (py "Submitted batches cannot be edited"))
  Request.raiseIf (rate.lt .zero = true) (inventoryError (py "Rate cannot be negative"))
  let updated := items.filter fun l => l.serial.productId = productId
  Request.raiseIf (updated = []) (inventoryError (py "Product not found in batch"))
  Request.commits (.setRates (updated.map (·.item)) rate)

/-- `delete_batch_item`. -/
def deleteBatchItemRoute (batchId itemId : Nat) : StockRequest PUnit := do
  let batch ← getBatch batchId
  removeBatchItem batch itemId

/-- `update_item_rate`. -/
def updateItemRate (batchId itemId : Nat) (rate : PyFloat) : StockRequest PUnit := do
  let batch ← getBatch batchId
  updateBatchItemRate batch itemId rate

/-- `update_product_rate`. -/
def updateProductRate (batchId productId : Nat) (rate : PyFloat) : StockRequest PUnit := do
  let batch ← getBatch batchId
  let items ← loadItems batchId
  updateProductRateInBatch batch items productId rate

end SetuoraLite
