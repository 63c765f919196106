import SetuoraLite.Store.Writes
import SetuoraLite.Sync.Baseline

/-!
# QR and product commands

The three commands by which Master manages QRs and products at a node:
`apply_qr_allocated_command`, `apply_qr_replace_command` and
`apply_product_upsert_command`. Each one parses its payload, reads what is stored
and writes, and may raise at any point; the caller rolls back.

A product is looked up by `func.upper(product_code) == code.upper()`: SQLite's
`upper` on the left, which only knows ASCII letters, Python's on the right.
-/

namespace SetuoraLite

open Lib

/-! ## Fields of a payload -/

/-- `_text`. -/
def qrText (value : Json) (name : PyStr) (limit : Nat) (allowEmpty : Bool) : Except PyError PyStr :=
  match value with
  | .str s =>
    if (s = [] ∧ allowEmpty = false) ∨ limit < s.length ∨ s ≠ strip s then
      .error (masterSyncError (py "Master QR " ++ name ++
        py " is missing, too long, or has surrounding spaces."))
    else .ok s
  | _ => .error (masterSyncError (py "Master QR " ++ name ++ py " must be text."))

/-- `_optional_text`. -/
def qrOptionalText (value : Json) (name : PyStr) (limit : Nat) : Except PyError (Option PyStr) :=
  match value with
  | .null | .str [] => .ok none
  | v => (qrText v name limit false).map some

/-- `100` as a float. -/
def hundred : PyFloat := .finite false (Dec.ofDigits 100 0)

/-- `_rate`. -/
def qrRate (rt : Runtime) (value : Json) (name : PyStr) (maximum : Option PyFloat) :
    Except PyError PyFloat :=
  let inRange (number : PyFloat) : Except PyError PyFloat :=
    if number.isFinite = false ∨ PyFloat.lt number .zero = true ∨
        (maximum.any fun m => PyFloat.lt m number) = true then
      .error (masterSyncError (py "Master QR " ++ name ++ py " is out of range."))
    else .ok number
  match value with
  | .float f => inRange f
  | .int z =>
    match rt.floatOfInt z with
    | some f => inRange f
    | none => .error ⟨.other, py "int too large to convert to float"⟩
  | _ => .error (masterSyncError (py "Master QR " ++ name ++ py " must be a number."))

/-- `_identity_text`. -/
def identityText (rt : Runtime) (s : PyStr) : PyStr :=
  rt.casefold (joinWith (py " ") (splitWords s))

/-- `_date`. -/
def qrDate (rt : Runtime) (value : Json) (name : PyStr) : Except PyError (Option Date) :=
  match value with
  | .null | .str [] => .ok none
  | .str s =>
    match rt.dateOfText s with
    | some d =>
      if isoDate d = s then .ok (some d)
      else .error (masterSyncError (py "Master QR " ++ name ++ py " must be an ISO date."))
    | none => .error (masterSyncError (py "Master QR " ++ name ++ py " must be an ISO date."))
  | _ => .error (masterSyncError (py "Master QR " ++ name ++ py " must be an ISO date."))

/-- `d.get(k, default)`. -/
def getOr (kvs : List (PyStr × Json)) (k : PyStr) (default : Json) : Json :=
  (dictGet k kvs).getD default

/-- `type(v) is int and v == 1`. -/
def isOne : Json → Bool
  | .int 1 => true
  | _ => false

/-- The value is the text. -/
def Json.isText (v : Json) (s : PyStr) : Bool :=
  match v with
  | .str t => t = s
  | _ => false

/-- The value is `True`. -/
def isTrue : Json → Bool
  | .bool true => true
  | _ => false

/-- The checks that open every command: its version and its addressee. `what` and
`noun` are the command's words for itself. -/
def requireAddressed (st : Settings) (payload : List (PyStr × Json)) (what noun : PyStr) :
    Except PyError PUnit := do
  if isOne (getItem payload (py "version")) = false then
    .error (masterSyncError (py "Unsupported Master " ++ what ++ py " version."))
  else do
    let code ← configuredFranchiseCode st (some true)
    if Json.isText (getItem payload (py "franchise_code")) code = false then
      .error (masterSyncError
        (py "Master " ++ noun ++ py " is addressed to a different franchise."))
    else .ok ⟨⟩

/-- `_MASTER_SERIAL_PATTERN.fullmatch`. -/
def isMasterSerial (s : PyStr) : Bool :=
  s.take 4 == py "SQR-" && s.length == 36 &&
    (s.drop 4).all fun c => isDigit c || (65 ≤ c.val && c.val ≤ 70)

/-! ## Allocation -/

/-- A serial of an allocation. -/
structure ParsedSerial where
  serialNumber : PyStr
  productBatchNumber : Option PyStr
  mfgDate : Option Date
  expiryDate : Option Date
  warehouse : Option PyStr
  warehouseLevel : WarehouseLevel

/-- `WarehouseLevel(value)`. -/
def warehouseLevelOf : Json → Option WarehouseLevel
  | .str s => WarehouseLevel.ofText s
  | _ => none

/-- One round of the parsing loop. -/
def parseSerial (rt : Runtime) (seen : List PyStr) (item : Json) : Except PyError ParsedSerial :=
  match item with
  | .obj item => do
    let number ← qrText (getItem item (py "serial_number")) (py "serial number") 140 false
    if isMasterSerial number = false then
      .error (masterSyncError (py "Master QR allocation contains an invalid serial number."))
    else if number ∈ seen then
      .error (masterSyncError (py "Master QR allocation repeats serial " ++ number ++ py "."))
    else if Json.isText (getItem item (py "status")) SerialStatus.generated.value = false then
      .error (masterSyncError (py "New Master QRs must start as GENERATED."))
    else do
      let mfgDate ← qrDate rt (getItem item (py "mfg_date")) (py "mfg date")
      let expiryDate ← qrDate rt (getItem item (py "expiry_date")) (py "expiry date")
      if (mfgDate.any fun m => expiryDate.any fun e => !m.before e) = true then
        .error (masterSyncError (py "Master QR expiry date must be after mfg date."))
      else
        match warehouseLevelOf (getOr item (py "warehouse_level")
          (.str WarehouseLevel.companyWarehouse.value)) with
        | none => .error (masterSyncError (py "Master QR warehouse level is invalid."))
        | some level => do
          let batchNumber ← qrOptionalText (getItem item (py "product_batch_number"))
            (py "batch number") 80
          let warehouse ← qrOptionalText (getItem item (py "warehouse")) (py "warehouse") 80
          .ok ⟨number, batchNumber, mfgDate, expiryDate, warehouse, level⟩
  | _ => .error (masterSyncError (py "Master QR allocation contains an invalid serial."))

/-- The parsing loop; `seen` are the numbers so far. -/
def parseSerials (rt : Runtime) : List PyStr → List Json → Except PyError (List ParsedSerial)
  | _, [] => .ok []
  | seen, item :: items => do
    let serial ← parseSerial rt seen item
    let rest ← parseSerials rt (serial.serialNumber :: seen) items
    .ok (serial :: rest)

/-- The product details of an allocation. -/
structure AllocatedProduct where
  productCode : PyStr
  productName : PyStr
  hsn : PyStr
  tallyName : PyStr
  unit : PyStr
  alternateTallyName : Option PyStr
  gstRate : PyFloat
  defaultRate : PyFloat
  salesDiscountRate : PyFloat

/-- The product part of `apply_qr_allocated_command`. -/
def parseAllocatedProduct (rt : Runtime) (payload : List (PyStr × Json)) :
    Except PyError AllocatedProduct :=
  match getItem payload (py "product") with
  | .obj data => do
    let productCode ← qrText (getItem data (py "product_code")) (py "product code") 80 false
    let productName ← qrText (getItem data (py "product_name")) (py "product name") 180 false
    let hsn ← qrText (getItem data (py "hsn")) (py "HSN") 40 true
    let tallyName ← qrText (getItem data (py "tally_stock_item_name"))
      (py "Tally stock item") 180 false
    let unit ← qrText (getOr data (py "unit") (.str (py "Pcs"))) (py "unit") 40 false
    let alternate ← qrOptionalText (getItem data (py "alternate_tally_stock_item_name"))
      (py "alternate Tally stock item") 180
    let gstRate ← qrRate rt (getItem data (py "gst_rate")) (py "GST rate") (some hundred)
    let defaultRate ← qrRate rt (getOr data (py "default_rate") (.int 0)) (py "default rate") none
    let discount ← qrRate rt (getOr data (py "sales_discount_rate") (.int 0))
      (py "sales discount rate") (some hundred)
    if isTrue (getOr data (py "active") (.bool true)) = false then
      .error (masterSyncError (py "Master cannot allocate QRs to an inactive product."))
    else .ok ⟨productCode, productName, hsn, tallyName, unit, alternate, gstRate,
      defaultRate, discount⟩
  | _ => .error (masterSyncError (py "Master QR allocation is missing product details."))

/-- The serials part of `apply_qr_allocated_command`. -/
def parseAllocatedSerials (rt : Runtime) (payload : List (PyStr × Json)) :
    Except PyError (List ParsedSerial) :=
  match getItem payload (py "serials") with
  | .arr items =>
    if 1 ≤ items.length ∧ items.length ≤ 500 then parseSerials rt [] items
    else .error (masterSyncError (py "Master QR allocation must contain 1 to 500 serials."))
  | _ => .error (masterSyncError (py "Master QR allocation must contain 1 to 500 serials."))

/-- `select(Product).where(func.upper(Product.product_code) == code.upper()).limit(2)`. -/
def matchingProducts (db : Db) (code : PyStr) : List Product :=
  (db.products.filter fun p => asciiUpper p.productCode = upper code).take 2

/-- A new product with the columns an allocation gives it. -/
def AllocatedProduct.row (a : AllocatedProduct) (id : Nat) : Product :=
  { id := id, productCode := a.productCode, productName := a.productName, nickname := none,
    category := none, brand := none, hsn := a.hsn, gstRate := a.gstRate, unit := a.unit,
    defaultRate := a.defaultRate, salesDiscountRate := a.salesDiscountRate,
    shelfVerificationInterval := 1, tallyStockItemName := a.tallyName,
    alternateTallyStockItemName := a.alternateTallyName, active := true }

/-- The first identity field that differs; an empty Tally name takes the incoming one. -/
def identityConflict (rt : Runtime) (p : Product) (a : AllocatedProduct) : Option PyStr :=
  if identityText rt p.productName ≠ identityText rt a.productName then some (py "product_name")
  else if p.tallyStockItemName ≠ [] ∧
      identityText rt p.tallyStockItemName ≠ identityText rt a.tallyName then
    some (py "tally_stock_item_name")
  else if identityText rt p.hsn ≠ identityText rt a.hsn then some (py "hsn")
  else if identityText rt p.unit ≠ identityText rt a.unit then some (py "unit")
  else none

/-- The checks of an allocation against the product that is stored. -/
def checkAllocated (rt : Runtime) (p : Product) (a : AllocatedProduct) : Except PyError PUnit :=
  if p.active = false then
    .error (masterSyncError (py "Product " ++ a.productCode ++ py " is inactive on Lite."))
  else
    match identityConflict rt p a with
    | some name =>
      .error (masterSyncError (py "Product " ++ a.productCode ++ py " has a different " ++
        name ++ py " on Lite."))
    | none =>
      if PyFloat.close rt p.gstRate a.gstRate = false then
        .error (masterSyncError (py "Product " ++ a.productCode ++
          py " has a different GST rate on Lite."))
      else .ok ⟨⟩

/-- The product that an allocation goes to: the stored one, or a new one. -/
def allocatedProduct (rt : Runtime) (a : AllocatedProduct) : Tx Product := do
  let db ← Tx.reads fun db => db
  match matchingProducts db a.productCode with
  | [] => insertProduct a.row
  | [p] => do
    Tx.lift (checkAllocated rt p a)
    let filled :=
      if p.tallyStockItemName = [] then { p with tallyStockItemName := a.tallyName } else p
    updateProduct filled
    pure filled
  | _ =>
    Tx.raise (masterSyncError (py "Multiple Lite products match Master code " ++ a.productCode ++
      py "."))

/-- A new serial of an allocation. -/
def ParsedSerial.row (s : ParsedSerial) (productId : Nat) (now : Instant) (id : Nat) : Serial :=
  { id := id, serialNumber := s.serialNumber, productId := productId, status := .generated,
    active := true, createdAt := now, replacedById := none,
    productBatchNumber := s.productBatchNumber,
    mfgDate := s.mfgDate, expiryDate := s.expiryDate, warehouse := s.warehouse,
    warehouseLevel := s.warehouseLevel, locationId := none }

/-- `apply_qr_allocated_command`. -/
def applyQrAllocatedCommand (rt : Runtime) (st : Settings) (now : Instant)
    (payload : List (PyStr × Json)) : Tx PUnit := do
  Tx.lift (requireAddressed st payload (py "QR allocation") (py "QR allocation"))
  let product ← Tx.lift (parseAllocatedProduct rt payload)
  let serials ← Tx.lift (parseAllocatedSerials rt payload)
  let db ← Tx.reads fun db => db
  let existing := db.serials.filter fun s => (serials.map (·.serialNumber)).contains s.serialNumber
  Tx.lift (match existing with
    | s :: _ => .error (masterSyncError (py "Master QR serial " ++ s.serialNumber ++
        py " already exists on Lite."))
    | [] => .ok PUnit.unit)
  let stored ← allocatedProduct rt product
  Tx.each (fun (s : ParsedSerial) => do
    let _ ← insertSerial (s.row stored.id now)
    pure ⟨⟩) serials

/-! ## Replacement -/

/-- The state a QR may be replaced in. -/
def replaceableStatus (v : Json) : Option SerialStatus :=
  [.generated, .inStock, .returned, .damaged].find? fun status => Json.isText v status.value

/-- The QR that takes the place of another. -/
def replacementRow (old : Serial) (number : PyStr) (status : SerialStatus) (now : Instant)
    (id : Nat) :
    Serial :=
  { old with
    id := id
    serialNumber := number
    status := status
    active := true
    createdAt := now
    replacedById := none }

/-- The event that completes a replacement. -/
def replacementRequest (commandId : PyStr) (retired replacement : JsonDict) : EnqueueRequest where
  eventType := py "STOCK_SNAPSHOT"
  aggregateType := py "QR_REPLACEMENT"
  aggregateId := commandId
  payload := {
    entries := [(py "reference", .str commandId), (py "actor", .null),
      (py "reason_code", .str (py "QR_REPLACEMENT")),
      (py "items", .arr [.obj retired.entries, .obj replacement.entries])]
    wf := by
      have hkeys : [py "reference", py "actor", py "reason_code", py "items"].Nodup := by decide
      exact ⟨hkeys, trivial, trivial, trivial, ⟨retired.wf, replacement.wf, trivial⟩, trivial⟩ }
  occurredAt := none
  schemaVersion := eventSchemaVersion
  batchId := none
  initialInventory := false

/-- What a replacement command asks for. -/
structure ReplaceRequest where
  oldNumber : PyStr
  newNumber : PyStr
  expectedStatus : SerialStatus

/-- The fields of `apply_qr_replace_command`. -/
def parseReplace (payload : List (PyStr × Json)) : Except PyError ReplaceRequest := do
  let oldNumber ← qrText (getItem payload (py "old_serial_number"))
    (py "old serial number") 140 false
  let newNumber ← qrText (getItem payload (py "new_serial_number"))
    (py "new serial number") 140 false
  if isMasterSerial newNumber = false ∨ newNumber = oldNumber then
    .error (masterSyncError (py "Master QR replacement has an invalid new serial number."))
  else
    match replaceableStatus (getItem payload (py "expected_status")) with
    | none => .error (masterSyncError (py "Master QR replacement has an invalid expected status."))
    | some status => do
      let _ ← qrOptionalText (getItem payload (py "reason")) (py "replacement reason") 500
      .ok ⟨oldNumber, newNumber, status⟩

/-- The stored serial that a command may replace. -/
def replaceable (db : Db) (r : ReplaceRequest) : Except PyError Serial :=
  match db.serialNumbered r.oldNumber with
  | some old =>
    if old.active = true ∧ old.status = r.expectedStatus then
      if (db.serialNumbered r.newNumber).isSome then
        .error (masterSyncError (py "Master QR replacement serial already exists on Lite."))
      else .ok old
    else .error (masterSyncError
      (py "Master QR replacement does not match the current Lite serial state."))
  | none => .error (masterSyncError
      (py "Master QR replacement does not match the current Lite serial state."))

/-- `apply_qr_replace_command`. -/
def applyQrReplaceCommand (st : Settings) (now : Instant) (uuid : PyStr)
    (payload : List (PyStr × Json)) (commandId : PyStr) : Tx PUnit := do
  Tx.lift (requireAddressed st payload (py "QR replacement") (py "QR replacement"))
  let request ← Tx.lift (parseReplace payload)
  let db ← Tx.reads fun db => db
  let old ← Tx.lift (replaceable db request)
  let replacement ← insertSerial (replacementRow old request.newNumber
    (if request.expectedStatus = .generated then .generated else .inStock) now)
  let retired :=
    { old with status := .invalid, active := false, replacedById := some replacement.id }
  updateSerial old.id fun _ => retired
  let db ← Tx.reads fun db => db
  let retiredItem ← Tx.lift (networkItemOf db retired none none none)
  let replacementItem ← Tx.lift (networkItemOf db replacement none none none)
  let _ ← enqueueOutboxEvent st uuid now (replacementRequest commandId retiredItem replacementItem)
  pure ⟨⟩

/-! ## Products -/

/-- What a product command gives a product; `active` and the rates only for a new one. -/
structure UpsertedProduct where
  productCode : PyStr
  productName : PyStr
  tallyStockItemName : PyStr
  alternateTallyStockItemName : Option PyStr
  hsn : PyStr
  gstRate : PyFloat
  unit : PyStr
  defaultRate : PyFloat
  salesDiscountRate : PyFloat
  active : Bool

/-- The fields of `apply_product_upsert_command`. -/
def parseUpsert (rt : Runtime) (payload : List (PyStr × Json)) : Except PyError UpsertedProduct :=
  match getItem payload (py "product") with
  | .obj data => do
    let productCode ← qrText (getItem data (py "product_code")) (py "product code") 80 false
    let productName ← qrText (getItem data (py "product_name")) (py "product name") 180 false
    let tallyName ← qrText (getItem data (py "tally_stock_item_name"))
      (py "Tally stock item") 180 false
    let alternate ← qrOptionalText (getItem data (py "alternate_tally_stock_item_name"))
      (py "alternate Tally stock item") 180
    let hsn ← qrText (getItem data (py "hsn")) (py "HSN") 40 true
    let gstRate ← qrRate rt (getItem data (py "gst_rate")) (py "GST rate") (some hundred)
    let unit ← qrText (getOr data (py "unit") (.str (py "Pcs"))) (py "unit") 40 false
    let defaultRate ← qrRate rt (getOr data (py "default_rate") (.int 0)) (py "default rate") none
    let discount ← qrRate rt (getOr data (py "sales_discount_rate") (.int 0))
      (py "sales discount rate") (some hundred)
    .ok ⟨productCode, productName, tallyName, alternate, hsn, gstRate, unit, defaultRate, discount,
      isTrue (getOr data (py "active") (.bool true))⟩
  | _ => .error (masterSyncError (py "Master product command is missing product details."))

def UpsertedProduct.row (u : UpsertedProduct) (id : Nat) : Product :=
  { id := id, productCode := u.productCode, productName := u.productName, nickname := none,
    category := none, brand := none, hsn := u.hsn, gstRate := u.gstRate, unit := u.unit,
    defaultRate := u.defaultRate, salesDiscountRate := u.salesDiscountRate,
    shelfVerificationInterval := 1, tallyStockItemName := u.tallyStockItemName,
    alternateTallyStockItemName := u.alternateTallyStockItemName, active := u.active }

/-- The stored product under its new identity. -/
def UpsertedProduct.over (u : UpsertedProduct) (p : Product) : Product :=
  { p with
    productName := u.productName
    tallyStockItemName := u.tallyStockItemName
    alternateTallyStockItemName := u.alternateTallyStockItemName
    hsn := u.hsn
    gstRate := u.gstRate
    unit := u.unit }

/-- Create the product or change the stored one. -/
def upsertProduct (u : UpsertedProduct) : Tx PUnit := do
  let db ← Tx.reads fun db => db
  match matchingProducts db u.productCode with
  | [] => do
    let _ ← insertProduct u.row
    pure ⟨⟩
  | [p] => updateProduct (u.over p)
  | _ =>
    Tx.raise (masterSyncError (py "Multiple Lite products match Master code " ++ u.productCode ++
      py "."))

/-- `apply_product_upsert_command`. -/
def applyProductUpsertCommand (rt : Runtime) (st : Settings) (payload : List (PyStr × Json)) :
    Tx PUnit := do
  Tx.lift (requireAddressed st payload (py "product") (py "product"))
  let product ← Tx.lift (parseUpsert rt payload)
  upsertProduct product

/-! ## Frames -/

section Frames

variable {γ : Type} {f : Db → γ}

theorem allocatedProduct_keeps (hp : ∀ db x, f { db with products := x } = f db) (rt : Runtime)
    (a : AllocatedProduct) : Tx.Keeps f (allocatedProduct rt a) := by
  refine .bind (.reads _) fun db => ?_
  split
  · exact insertProduct_keeps hp _
  · exact .bind (.lift _) fun _ => .bind (updateProduct_keeps hp _) fun _ => .pure _
  · exact .raise _

/-- An allocation writes products and serials only. -/
theorem applyQrAllocatedCommand_keeps (hp : ∀ db x, f { db with products := x } = f db)
    (hs : ∀ db x, f { db with serials := x } = f db) (rt : Runtime) (st : Settings) (now : Instant)
    (payload : List (PyStr × Json)) : Tx.Keeps f (applyQrAllocatedCommand rt st now payload) :=
  .bind (.lift _) fun _ => .bind (.lift _) fun _ => .bind (.lift _) fun _ =>
    .bind (.reads _) fun _ =>
    .bind (.lift _) fun _ => .bind (allocatedProduct_keeps hp rt _) fun _ =>
      .each (fun _ => .bind (insertSerial_keeps hs _) fun _ => .pure _) _

/-- A replacement writes serials and the outbox only. -/
theorem applyQrReplaceCommand_keeps (hs : ∀ db x, f { db with serials := x } = f db)
    (ho : ∀ db x n, f { db with outbox := x, outboxSequence := n } = f db) (st : Settings)
    (now : Instant) (uuid : PyStr) (payload : List (PyStr × Json)) (commandId : PyStr) :
    Tx.Keeps f (applyQrReplaceCommand st now uuid payload commandId) :=
  .bind (.lift _) fun _ => .bind (.lift _) fun _ => .bind (.reads _) fun _ =>
    .bind (.lift _) fun _ =>
    .bind (insertSerial_keeps hs _) fun _ => .bind (updateSerial_keeps hs _ _) fun _ =>
      .bind (.reads _) fun _ => .bind (.lift _) fun _ => .bind (.lift _) fun _ =>
        .bind (enqueueOutboxEvent_keeps ho _ _ _ _) fun _ => .pure _

/-- A product command writes products only. -/
theorem applyProductUpsertCommand_keeps (hp : ∀ db x, f { db with products := x } = f db)
    (rt : Runtime) (st : Settings) (payload : List (PyStr × Json)) :
    Tx.Keeps f (applyProductUpsertCommand rt st payload) := by
  refine .bind (.lift _) fun _ => .bind (.lift _) fun u => .bind (.reads _) fun db => ?_
  split
  · exact .bind (insertProduct_keeps hp _) fun _ => .pure _
  · exact updateProduct_keeps hp _
  · exact .raise _

end Frames

end SetuoraLite
