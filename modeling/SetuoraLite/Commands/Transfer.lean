import SetuoraLite.Commands.MasterQr
import SetuoraLite.Sync.RemoteError

/-!
# Transfer commands

`apply_transfer_available_command` copies the manifest of an incoming transfer:
for each item it finds or creates the product, creates the serial or reactivates
one that comes back, and adds a transfer item. `apply_transfer_receipt_command`
marks the items that the destination has received and deactivates their serials.

A product is looked up by its exact code, upper-cased by Python.
-/

namespace SetuoraLite

open Lib

/-- `TransferError(text)`. -/
def transferError (text : PyStr) : PyError := ⟨.transfer, text⟩

/-- `normalize_serial`. -/
def normalizeSerial (s : PyStr) : PyStr := upper (strip s)

/-- The first truthy one of some values, else the last: `a or b or …`. -/
def firstTruthy : List Json → Json
  | [] => .str []
  | [v] => v
  | v :: vs => v.orElse (firstTruthy vs)

/-- What `float(value)` raised. -/
def numberError (v : Json) : NumberError → PyError
  | .overflow => ⟨.other, py "int too large to convert to float"⟩
  | .invalid =>
    match v with
    | .str _ => ⟨.value, py "could not convert string to float"⟩
    | _ => ⟨.other, py "float() argument must be a string or a real number"⟩

/-- `float(value)`, with what it raises. -/
def floatOf (rt : Runtime) (v : Json) : Except PyError PyFloat :=
  (v.toFloat rt).mapError (numberError v)

/-! ## The payload -/

/-- `_unwrap_transfer_payload`. -/
def unwrapTransferPayload (payload : List (PyStr × Json)) :
    Except PyError (List (PyStr × Json) × List Json) :=
  let current :=
    match getItem payload (py "payload") with
    | .obj inner =>
      if dictGet (py "transfer") payload = none ∧
        dictGet (py "transfer_uuid") payload = none then inner
      else payload
    | _ => payload
  match getOr current (py "transfer") (.obj current) with
  | .obj data =>
    match getOr current (py "items") (getOr data (py "items") (.arr [])) with
    | .arr items => .ok (data, items)
    | _ => .error (transferError (py "Transfer manifest must be a list."))
  | _ => .error (transferError (py "Transfer command is missing transfer details."))

/-- The transfer's UUID, from the first field that has one. -/
def transferUuidOf (rt : Runtime) (data payload : List (PyStr × Json)) : PyStr :=
  strip ((firstTruthy [getItem data (py "transfer_uuid"), getItem data (py "transfer_id"),
    getItem data (py "id"), getItem payload (py "transfer_id"),
    getItem payload (py "transfer_uuid"),
    .str []]).pyStr rt)

/-- `_parse_date`. -/
def transferDate (rt : Runtime) (v : Json) : Except PyError (Option Date) :=
  if v.truthy = false then .ok none
  else
    match rt.dateOfText ((v.pyStr rt).take 10) with
    | some d => .ok (some d)
    | none => .error (transferError (py "Invalid transfer item date: " ++ v.pyStr rt ++ py "."))

/-- `_identity_text(str(value or ""))`. -/
def jsonIdentity (rt : Runtime) (v : Json) : PyStr := identityText rt (v.textOrEmpty rt)

/-- `WarehouseLevel(str(value or "Company Warehouse"))`, which is also the default. -/
def snapshotLevel (rt : Runtime) (snapshot : List (PyStr × Json)) : WarehouseLevel :=
  (WarehouseLevel.ofText ((firstTruthy [getItem snapshot (py "warehouse_level"),
    .str WarehouseLevel.companyWarehouse.value]).pyStr rt)).getD .companyWarehouse

/-! ## Products -/

/-- The labels of the identity fields that differ, in the order they are compared. -/
def snapshotMismatches (rt : Runtime) (p : Product) (snapshot : List (PyStr × Json)) : List PyStr :=
  let name := firstTruthy [getItem snapshot (py "product_name"), getItem snapshot (py "name")]
  let tallyName := firstTruthy [getItem snapshot (py "tally_stock_item_name"), name]
  [(py "name", p.productName, name), (py "HSN", p.hsn, getItem snapshot (py "hsn")),
    (py "unit", p.unit, getItem snapshot (py "unit")),
    (py "Tally stock item", p.tallyStockItemName, tallyName)].filterMap fun c =>
      if identityText rt c.2.1 ≠ jsonIdentity rt c.2.2 then some c.1 else none

/-- The GST rates differ; a rate that is no number differs. -/
def gstMismatch (rt : Runtime) (p : Product) (v : Json) : Except PyError Bool :=
  match v.toFloat rt with
  | .ok f => .ok (PyFloat.lt .tenThousandth (rt.floatSub p.gstRate.orZero f).abs)
  | .error .invalid => .ok true
  | .error .overflow => .error (numberError v .overflow)

/-- `_validate_product_snapshot`. -/
def validateProductSnapshot (rt : Runtime) (p : Product) (snapshot : List (PyStr × Json)) :
    Except PyError PUnit := do
  let gst ← gstMismatch rt p (getItem snapshot (py "gst_rate"))
  let mismatches := snapshotMismatches rt p snapshot ++ (if gst then [py "GST rate"] else [])
  if mismatches = [] then .ok ⟨⟩
  else .error (transferError (py "Product code " ++ p.productCode ++
    py " conflicts with local product identity (" ++ joinWith (py ", ") mismatches ++
    py "). Resolve the product mapping before receiving."))

/-- The columns of a product that a manifest brings. -/
def snapshotProduct (rt : Runtime) (productCode : PyStr) (snapshot : List (PyStr × Json)) :
    Except PyError (Nat → Product) := do
  let productName := strip ((firstTruthy [getItem snapshot (py "product_name"),
    getItem snapshot (py "name"), .str productCode]).pyStr rt)
  let gstRate ← floatOf rt (firstTruthy [getItem snapshot (py "gst_rate"), .int 0])
  let defaultRate ← floatOf rt (firstTruthy [getItem snapshot (py "default_rate"),
    getItem snapshot (py "rate"), .int 0])
  let discount ← floatOf rt (firstTruthy [getItem snapshot (py "sales_discount_rate"), .int 0])
  let nickname ← bindText rt (getItem snapshot (py "nickname"))
  let category ← bindText rt (getItem snapshot (py "category"))
  let brand ← bindText rt (getItem snapshot (py "brand"))
  let alternate ← bindText rt (getItem snapshot (py "alternate_tally_stock_item_name"))
  .ok fun id =>
    { id := id, productCode := productCode, productName := productName, nickname := nickname,
      category := category, brand := brand,
      hsn := (firstTruthy [getItem snapshot (py "hsn"), .str (py "UNSPECIFIED")]).pyStr rt,
      gstRate := gstRate,
      unit := (firstTruthy [getItem snapshot (py "unit"), .str (py "Pcs")]).pyStr rt,
      defaultRate := defaultRate, salesDiscountRate := discount, shelfVerificationInterval := 1,
      tallyStockItemName := (firstTruthy [getItem snapshot (py "tally_stock_item_name"),
        .str productName]).pyStr rt,
      alternateTallyStockItemName := alternate,
      active := (getOr snapshot (py "active") (.bool true)).truthy }

/-- The code of a product snapshot. -/
def snapshotCode (rt : Runtime) (snapshot : List (PyStr × Json)) : PyStr :=
  normalizeSerial ((firstTruthy [getItem snapshot (py "product_code"), getItem snapshot (py "code"),
    .str []]).pyStr rt)

/-- `_materialize_product`. -/
def materializeProduct (rt : Runtime) (snapshot : List (PyStr × Json)) : Tx Product := do
  let code := snapshotCode rt snapshot
  Tx.raiseIf (code = []) (transferError (py "Transfer item is missing product_code."))
  let db ← Tx.reads fun db => db
  match lookup (·.productCode) code db.products with
  | some p => do
    Tx.lift (validateProductSnapshot rt p snapshot)
    pure p
  | none => do
    let row ← Tx.lift (snapshotProduct rt code snapshot)
    insertProduct row

/-! ## Serials -/

/-- The columns a manifest gives a serial. -/
structure SerialSnapshot where
  productBatchNumber : Option PyStr
  mfgDate : Option Date
  expiryDate : Option Date
  warehouse : Option PyStr
  warehouseLevel : WarehouseLevel

def serialSnapshot (rt : Runtime) (snapshot : List (PyStr × Json)) :
    Except PyError SerialSnapshot := do
  let mfgDate ← transferDate rt (getItem snapshot (py "mfg_date"))
  let expiryDate ← transferDate rt (getItem snapshot (py "expiry_date"))
  let batchNumber ← bindText rt (getItem snapshot (py "product_batch_number"))
  let warehouse ← bindText rt (getItem snapshot (py "warehouse"))
  .ok ⟨batchNumber, mfgDate, expiryDate, warehouse, snapshotLevel rt snapshot⟩

/-- A serial under the columns of a manifest, on its way. -/
def SerialSnapshot.over (c : SerialSnapshot) (s : Serial) : Serial :=
  { s with
    active := true
    status := .inTransit
    productBatchNumber := c.productBatchNumber
    mfgDate := c.mfgDate
    expiryDate := c.expiryDate
    warehouse := c.warehouse
    warehouseLevel := c.warehouseLevel
    locationId := none }

/-- A serial that a manifest brings for the first time. -/
def SerialSnapshot.row (c : SerialSnapshot) (serialNumber : PyStr) (productId : Nat) (now : Instant)
    (id : Nat) : Serial :=
  { id := id, serialNumber := serialNumber, productId := productId, status := .inTransit,
    active := true, createdAt := now, replacedById := none,
    productBatchNumber := c.productBatchNumber,
    mfgDate := c.mfgDate, expiryDate := c.expiryDate, warehouse := c.warehouse,
    warehouseLevel := c.warehouseLevel, locationId := none }

/-- An outbound transfer of the serial that its destination has received. -/
def priorCompletedOutbound (db : Db) (serialId : Nat) : Bool :=
  db.transferItems.any fun i => i.serialId = some serialId && i.received &&
    db.transfers.any fun t => t.id = i.transferId && t.direction = .outbound

/-- `_reactivate_returning_serial`. -/
def reactivateReturningSerial (rt : Runtime) (s : Serial) (product : Product)
    (snapshot : List (PyStr × Json)) : Tx Serial := do
  let db ← Tx.reads fun db => db
  Tx.raiseIf (s.active = true ∨ s.status ≠ .inTransit ∨ priorCompletedOutbound db s.id = false)
    (transferError (s.serialNumber ++ py " already exists at the destination franchise."))
  Tx.raiseIf (s.productId ≠ product.id)
    (transferError (s.serialNumber ++ py " conflicts with its historical local product."))
  let columns ← Tx.lift (serialSnapshot rt snapshot)
  Tx.raiseIf (encodable (columns.productBatchNumber.toList ++ columns.warehouse.toList) = false)
    .unicodeEncode
  updateSerial s.id columns.over
  pure (columns.over s)

/-- The serial of a manifest item: the stored one that comes back, or a new one. -/
def incomingSerial (rt : Runtime) (now : Instant) (serialNumber : PyStr) (product : Product)
    (snapshot : List (PyStr × Json)) : Tx Serial := do
  let db ← Tx.reads fun db => db
  match db.serialNumbered serialNumber with
  | some s => reactivateReturningSerial rt s product snapshot
  | none => do
    let columns ← Tx.lift (serialSnapshot rt snapshot)
    insertSerial (columns.row serialNumber product.id now)

/-! ## An incoming transfer -/

/-- A manifest item: its product and serial snapshots and its number. -/
structure ManifestItem where
  product : List (PyStr × Json)
  serial : List (PyStr × Json)
  serialNumber : PyStr

/-- The checks that open a round of the manifest loop. -/
def parseManifestItem (rt : Runtime) (seen : List PyStr) (item : Json) :
    Except PyError ManifestItem :=
  match item with
  | .obj item =>
    match firstTruthy [getItem item (py "product"), .obj item],
      firstTruthy [getItem item (py "serial"), .obj item] with
    | .obj product, .obj serial =>
      let number := normalizeSerial ((firstTruthy [getItem item (py "manifest_serial_number"),
        getItem serial (py "serial_number"), getItem item (py "serial_number"), .str []]).pyStr rt)
      if number = [] then .error (transferError (py "Transfer item is missing a serial number."))
      else if number ∈ seen then
        .error (transferError (py "Transfer manifest repeats " ++ number ++ py "."))
      else .ok ⟨product, serial, number⟩
    | _, _ => .error (transferError (py "Transfer item snapshots must be objects."))
  | _ => .error (transferError (py "Transfer manifest contains a malformed item."))

/-- The item of a transfer that carries a serial. -/
def transferItemRow (transferId : Nat) (s : Serial) (p : Product) (id : Nat) : LocalTransferItem :=
  { id := id, transferId := transferId, serialId := some s.id,
    manifestSerialNumber := s.serialNumber, productCode := p.productCode,
    productName := p.productName, scanned := false, received := false, scannedAt := none,
    receivedAt := none }

/-- One round of the manifest loop, after its checks. -/
def receiveManifestItem (rt : Runtime) (now : Instant) (transferId : Nat) (item : ManifestItem) :
    Tx PUnit := do
  let product ← materializeProduct rt item.product
  let serial ← incomingSerial rt now item.serialNumber product item.serial
  let _ ← insertTransferItem (transferItemRow transferId serial product)
  pure ⟨⟩

/-- The manifest loop; `seen` are the numbers so far. -/
def receiveManifest (rt : Runtime) (now : Instant) (transferId : Nat) :
    List PyStr → List Json → Tx PUnit
  | _, [] => pure ⟨⟩
  | seen, item :: items => do
    let parsed ← Tx.lift (parseManifestItem rt seen item)
    receiveManifestItem rt now transferId parsed
    receiveManifest rt now transferId (parsed.serialNumber :: seen) items

/-- The heading of an incoming transfer. -/
structure IncomingTransfer where
  sourceCode : PyStr
  destinationCode : PyStr
  localCode : PyStr
  notes : Option PyStr

/-- The checks of `apply_transfer_available_command` before it writes. -/
def parseIncoming (rt : Runtime) (st : Settings) (transferUuid : PyStr) (data : List (PyStr × Json))
    (manifest : List Json) : Except PyError IncomingTransfer := do
  let sourceFranchise :=
    match getItem data (py "source_franchise") with
    | .obj franchise => getItem franchise (py "code")
    | v => v
  let sourceCode := normalizeFranchiseCode ((firstTruthy [getItem data (py "source_franchise_code"),
    getItem data (py "source_code"), getItem data (py "peer_code"),
    sourceFranchise]).textOrEmpty rt)
  let destinationCode := normalizeFranchiseCode ((firstTruthy
    [getItem data (py "destination_franchise_code"),
      getItem data (py "destination_code")]).textOrEmpty rt)
  let localCode ← configuredFranchiseCode st none
  if sourceCode = [] then
    .error (transferError (py "Transfer command is missing its source franchise."))
  else if destinationCode ≠ [] ∧ localCode ≠ [] ∧ destinationCode ≠ localCode then
    .error (transferError
      (py "Transfer " ++ transferUuid ++ py " is addressed to another franchise."))
  else if manifest = [] then .error (transferError (py "Transfer manifest is empty."))
  else do
    let notes ← bindText rt (firstTruthy [getItem data (py "notes"), getItem data (py "reference")])
    .ok ⟨sourceCode, destinationCode, localCode, notes⟩

/-- `a or None` of a text. -/
def textOrNone (s : PyStr) : Option PyStr := if s = [] then none else some s

/-- The inbound transfer that an incoming one becomes. -/
def IncomingTransfer.row (t : IncomingTransfer) (transferUuid : PyStr) (id : Nat) : LocalTransfer :=
  { id := id, transferUuid := transferUuid, direction := .inbound, status := .awaitingReceipt,
    localFranchiseCode := (textOrNone t.localCode).or (textOrNone t.destinationCode),
    peerCode := t.sourceCode, createdById := none, notes := t.notes, dispatchedAt := none,
    receivedAt := none }

/-- The transfer with a UUID. -/
def Db.transferNumbered (db : Db) (transferUuid : PyStr) : Option LocalTransfer :=
  lookup (·.transferUuid) transferUuid db.transfers

/-- `apply_transfer_available_command`. -/
def applyTransferAvailableCommand (rt : Runtime) (st : Settings) (now : Instant)
    (payload : List (PyStr × Json)) : Tx PUnit := do
  let (data, manifest) ← Tx.lift (unwrapTransferPayload payload)
  let transferUuid := transferUuidOf rt data payload
  Tx.raiseIf (transferUuid = []) (transferError (py "Transfer command is missing transfer_uuid."))
  Tx.raiseIf (encodable [transferUuid] = false) .unicodeEncode
  let db ← Tx.reads fun db => db
  match db.transferNumbered transferUuid with
  | some existing =>
    Tx.raiseIf (existing.direction ≠ .inbound)
      (transferError (py "Transfer UUID collision: " ++ transferUuid ++ py "."))
  | none => do
    let incoming ← Tx.lift (parseIncoming rt st transferUuid data manifest)
    let transfer ← insertTransfer (incoming.row transferUuid)
    receiveManifest rt now transfer.id [] manifest

/-! ## A receipt -/

/-- The list of received numbers, from the first place that has one. -/
def rawReceivedSerials (data payload : List (PyStr × Json)) (manifest : List Json) : Json :=
  match getItem payload (py "received_serial_numbers"),
    getItem data (py "received_serial_numbers") with
  | .null, .null => .arr (manifest.filterMap fun item =>
      match item with
      | .obj item =>
        if (getOr item (py "received") (.bool true)).truthy then
          some (firstTruthy [getItem item (py "manifest_serial_number"),
            getItem item (py "serial_number")])
        else none
      | _ => none)
  | .null, v => v
  | v, _ => v

/-- `_received_serials_from_payload`. -/
def receivedSerialsFromPayload (rt : Runtime) (data payload : List (PyStr × Json))
    (manifest : List Json) : Except PyError (List PyStr × Bool) :=
  match rawReceivedSerials data payload manifest with
  | .arr values =>
    let serials := values.filterMap fun v =>
      if strip (v.textOrEmpty rt) = [] then none else some (normalizeSerial (v.pyStr rt))
    let complete :=
      (getItem data (py "complete")).truthy || (getItem payload (py "complete")).truthy ||
      Json.isText (getItem data (py "status")) (py "RECEIVED")
    .ok (serials, complete)
  | _ => .error (transferError (py "Transfer receipt serials must be a list."))

/-- `", ".join(sorted(set(numbers)))`. -/
def sortedNumbers (numbers : List PyStr) : PyStr :=
  joinWith (py ", ") (sortedTexts numbers.dedup)

/-- The items of a transfer, in the order of their ids. -/
def Db.transferItemsOf (db : Db) (transferId : Nat) : List LocalTransferItem :=
  db.transferItems.filter fun i => i.transferId = transferId

/-- The outbound transfer that a receipt is about. -/
def receiptTransfer (db : Db) (transferUuid : PyStr) : Except PyError LocalTransfer :=
  match db.transferNumbered transferUuid with
  | some t =>
    if t.direction ≠ .outbound then
      .error (transferError (py "Outbound transfer " ++ transferUuid ++ py " was not found."))
    else if t.status = .draft then
      .error (transferError (py "A draft transfer cannot receive a receipt."))
    else .ok t
  | none => .error (transferError (py "Outbound transfer " ++ transferUuid ++ py " was not found."))

/-- An item that a receipt names. -/
def LocalTransferItem.acknowledged (now : Instant) (i : LocalTransferItem) : LocalTransferItem :=
  { i with
    scanned := true
    scannedAt := i.scannedAt.or (some now)
    received := true
    receivedAt := some now }

/-- One round of the receipt loop: the serial keeps `IN_TRANSIT` and becomes inactive. -/
def acknowledgeItem (now : Instant) (received : List PyStr) (i : LocalTransferItem) : Tx PUnit :=
  if i.manifestSerialNumber ∈ received ∧ i.received = false then do
    updateTransferItem i.id (LocalTransferItem.acknowledged now)
    match i.serialId with
    | some id => updateSerial id fun s => { s with active := false }
    | none => pure ⟨⟩
  else pure ⟨⟩

/-- The transfer once its items are marked. -/
def LocalTransfer.settled (now : Instant) (items : List LocalTransferItem) (t : LocalTransfer) :
    LocalTransfer :=
  if items.all (·.received) then { t with status := .received, receivedAt := some now }
  else if items.any (·.received) then { t with status := .partiallyReceived }
  else t

/-- `apply_transfer_receipt_command`. -/
def applyTransferReceiptCommand (rt : Runtime) (now : Instant) (payload : List (PyStr × Json)) :
    Tx PUnit := do
  let (data, manifest) ← Tx.lift (unwrapTransferPayload payload)
  let transferUuid := transferUuidOf rt data payload
  Tx.raiseIf (transferUuid = []) (transferError (py "Transfer receipt is missing transfer_uuid."))
  Tx.raiseIf (encodable [transferUuid] = false) .unicodeEncode
  let db ← Tx.reads fun db => db
  let transfer ← Tx.lift (receiptTransfer db transferUuid)
  let (named, complete) ← Tx.lift (receivedSerialsFromPayload rt data payload manifest)
  let items := db.transferItemsOf transfer.id
  let manifestSerials := items.map (·.manifestSerialNumber)
  let received := if complete = true ∧ named = [] then manifestSerials else named
  let unknown := received.filter fun number => number ∉ manifestSerials
  Tx.raiseIf (unknown ≠ []) (transferError (py "Receipt contains serials outside the manifest: " ++
    sortedNumbers unknown ++ py "."))
  Tx.each (acknowledgeItem now received) items
  let db ← Tx.reads fun db => db
  updateTransfer transfer.id (LocalTransfer.settled now (db.transferItemsOf transfer.id))

/-! ## Frames -/

section Frames

variable {γ : Type} {f : Db → γ}

theorem materializeProduct_keeps (hp : ∀ db x, f { db with products := x } = f db) (rt : Runtime)
    (snapshot : List (PyStr × Json)) :
    Tx.Keeps f (materializeProduct rt snapshot) := by
  refine .bind (.raiseIf _ _) fun _ => .bind (.reads _) fun db => ?_
  split
  · exact .bind (.lift _) fun _ => .pure _
  · exact .bind (.lift _) fun _ => insertProduct_keeps hp _

theorem incomingSerial_keeps (hs : ∀ db x, f { db with serials := x } = f db) (rt : Runtime)
    (now : Instant) (serialNumber : PyStr) (product : Product) (snapshot : List (PyStr × Json)) :
    Tx.Keeps f (incomingSerial rt now serialNumber product snapshot) := by
  refine .bind (.reads _) fun db => ?_
  split
  · exact .bind (.reads _) fun _ => .bind (.raiseIf _ _) fun _ => .bind (.raiseIf _ _) fun _ =>
      .bind (.lift _) fun _ => .bind (.raiseIf _ _) fun _ =>
        .bind (updateSerial_keeps hs _ _) fun _ =>
        .pure _
  · exact .bind (.lift _) fun _ => insertSerial_keeps hs _

private theorem receiveManifest_keeps (hp : ∀ db x, f { db with products := x } = f db)
    (hs : ∀ db x, f { db with serials := x } = f db)
    (hi : ∀ db x, f { db with transferItems := x } = f db) (rt : Runtime) (now : Instant)
    (transferId : Nat) (items : List Json) :
    ∀ seen, Tx.Keeps f (receiveManifest rt now transferId seen items) := by
  induction items with
  | nil => exact fun _ => .pure _
  | cons item items ih =>
    intro seen
    have hitem : ∀ parsed, Tx.Keeps f (receiveManifestItem rt now transferId parsed) :=
      fun parsed =>
      .bind (materializeProduct_keeps hp _ _) fun _ =>
        .bind (incomingSerial_keeps hs _ _ _ _ _) fun _ =>
        .bind (insertTransferItem_keeps hi _) fun _ => .pure _
    exact .bind (.lift _) fun parsed => .bind (hitem parsed) fun _ => ih _

/-- An incoming transfer writes products, serials, transfers and their items only. -/
theorem applyTransferAvailableCommand_keeps (hp : ∀ db x, f { db with products := x } = f db)
    (hs : ∀ db x, f { db with serials := x } = f db)
    (ht : ∀ db x, f { db with transfers := x } = f db)
    (hi : ∀ db x, f { db with transferItems := x } = f db) (rt : Runtime) (st : Settings)
    (now : Instant) (payload : List (PyStr × Json)) :
    Tx.Keeps f (applyTransferAvailableCommand rt st now payload) := by
  refine .bind (.lift _) fun parsed => .bind (.raiseIf _ _) fun _ => .bind (.raiseIf _ _) fun _ =>
    .bind (.reads _) fun db => ?_
  split
  · exact .raiseIf _ _
  · exact .bind (.lift _) fun _ => .bind (insertTransfer_keeps ht _) fun _ =>
      receiveManifest_keeps hp hs hi _ _ _ _ _

/-- A receipt writes serials, transfers and their items only. -/
theorem applyTransferReceiptCommand_keeps (hs : ∀ db x, f { db with serials := x } = f db)
    (ht : ∀ db x, f { db with transfers := x } = f db)
    (hi : ∀ db x, f { db with transferItems := x } = f db) (rt : Runtime) (now : Instant)
    (payload : List (PyStr × Json)) : Tx.Keeps f (applyTransferReceiptCommand rt now payload) := by
  have hitem : ∀ received i, Tx.Keeps f (acknowledgeItem now received i) := by
    intro received i
    refine .ite (.bind (updateTransferItem_keeps hi _ _) fun _ => ?_) (.pure _)
    split
    · exact updateSerial_keeps hs _ _
    · exact .pure _
  exact .bind (.lift _) fun _ => .bind (.raiseIf _ _) fun _ => .bind (.raiseIf _ _) fun _ =>
    .bind (.reads _) fun _ => .bind (.lift _) fun _ => .bind (.lift _) fun _ =>
      .bind (.raiseIf _ _) fun _ =>
      .bind (.each (hitem _) _) fun _ => .bind (.reads _) fun _ => updateTransfer_keeps ht _ _

end Frames

end SetuoraLite
