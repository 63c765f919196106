import SetuoraLite.Commands.Transfer
import SetuoraLite.Stock.Submission

/-!
# Transfers

An outgoing transfer is a draft that serials are added to and removed from, until it is
dispatched: every serial is claimed with a conditional update, and one event announces
the manifest. An incoming one is scanned item by item and received in parts; each
receipt claims the scanned serials and announces them.

The edits check that the transfer is a draft when they load it. Only the claims of a
dispatch or a receipt look at the database again.
-/

namespace SetuoraLite

open Lib

/-- A transfer, loaded with its items and their serials; a missing one is a 404. -/
def getTransfer (transferId : Nat) : StockRequest LoadedTransfer := do
  let transfer ← Request.reads fun db => lookup (·.id) transferId db.transfers
  let transfer ← Request.lift (transfer.elim (.error ⟨.other, py "Transfer not found."⟩) .ok)
  let items ← Request.reads fun db => db.transferItemsOf transferId
  let items ← Request.reads fun db =>
    items.map fun i => (⟨i, i.serialId.bind db.serial⟩ : LoadedTransferItem)
  pure ⟨transfer, items⟩

/-- `_resolve_transfer` of a loaded row. -/
def resolveTransfer (transfer : LocalTransfer) (direction : TransferDirection) :
    Except PyError Unit :=
  if transfer.direction ≠ direction then
    .error (transferError (py "Transfer is not " ++
      (if direction = .outbound then py "outbound" else py "inbound") ++ py "."))
  else .ok ()

/-! ## Drafts -/

/-- `create_outbound_transfer`, with the `uuid4()` it draws. -/
def createOutboundTransfer (st : Settings) (user : User) (peerCode : PyStr) (notes : Option PyStr)
    (uuid : PyStr) : StockRequest PUnit := do
  let destination := normalizeFranchiseCode peerCode
  Request.raiseIf (destination = []) (transferError (py "Choose a destination franchise."))
  Request.raiseIf (40 < destination.length)
    (transferError (py "Destination franchise code must be 40 characters or fewer."))
  let localCode ← Request.lift (configuredFranchiseCode st none)
  Request.raiseIf (localCode ≠ [] ∧ destination = localCode)
    (transferError (py "Source and destination franchise must be different."))
  Request.commits (.createTransfer
    { id := 0, transferUuid := uuid, direction := .outbound, status := .draft,
      localFranchiseCode := textOrNone localCode, peerCode := destination,
      createdById := some user.id, notes := (notes.filter fun s => s ≠ []).map strip,
      dispatchedAt := none, receivedAt := none })

/-- `OPEN_OUTBOUND_STATUSES`. -/
def openOutboundStatuses : List TransferStatus :=
  [.draft, .pendingMaster, .dispatched, .partiallyReceived]

/-- The item that reserves a serial for an open outgoing transfer. -/
def reservedItem (db : Db) (serialId : Nat) : Option LocalTransferItem :=
  db.transferItems.find? fun i => i.serialId = some serialId &&
    db.transfers.any fun t => t.id = i.transferId && t.direction = .outbound &&
      t.status ∈ openOutboundStatuses

/-- `add_outbound_serial`. -/
def addOutboundSerial (transferId : Nat) (serialNumber : PyStr) : StockRequest PUnit := do
  let row := (← getTransfer transferId).transfer
  Request.lift (resolveTransfer row .outbound)
  Request.raiseIf (row.status ≠ .draft) (transferError (py "Only draft transfers can be edited."))
  let number := normalizeSerial serialNumber
  let serial ← Request.reads fun db => db.serialNumbered number
  let serial ← Request.lift (serial.elim
    (.error (transferError (number ++ py " is not registered at this franchise."))) .ok)
  Request.raiseIf (serial.active = false ∨ serial.status ≠ .inStock)
    (transferError (number ++ py " is not currently in local stock."))
  let reserved ← Request.reads fun db => reservedItem db serial.id
  Request.raiseIf (∃ i ∈ reserved, i.transferId = row.id)
    (transferError (number ++ py " is already in this transfer."))
  Request.raiseIf (reserved ≠ none)
    (transferError (number ++ py " is already reserved by another transfer."))
  let product ← Request.reads fun db => db.product serial.productId
  let product ← Request.lift (found product)
  Request.commits (.addTransferItem (transferItemRow row.id serial product 0))

/-- `remove_outbound_serial`. -/
def removeOutboundSerial (transferId itemId : Nat) : StockRequest PUnit := do
  let row := (← getTransfer transferId).transfer
  Request.lift (resolveTransfer row .outbound)
  Request.raiseIf (row.status ≠ .draft) (transferError (py "Only draft transfers can be edited."))
  let item ← Request.reads fun db => lookup (·.id) itemId db.transferItems
  Request.raiseIf (∀ i ∈ item, i.transferId ≠ row.id)
    (transferError (py "Transfer item not found."))
  Request.commits (.removeTransferItem itemId)

/-! ## Dispatch -/

/-- A `MasterSyncError` becomes a `TransferError`. -/
def asTransferError (e : PyError) : PyError :=
  if e.cls = .masterSync then transferError e.message else e

/-- The log of a serial that leaves or arrives. -/
def transferTransaction (user : User) (type : TransactionType) (transfer : LocalTransfer)
    (serial : Serial) (statusFrom statusTo : SerialStatus) (notes : PyStr) : InventoryTransaction :=
  inventoryTransaction user type serial none statusFrom statusTo (some transfer.transferUuid)
    (some notes)

/-- The serial of a loaded item; `side` is the inventory that misses it. -/
def LoadedTransferItem.requireSerial (side : PyStr) (i : LoadedTransferItem) :
    Except PyError Serial :=
  i.serial.elim
    (.error (transferError (i.item.manifestSerialNumber ++ py " is missing from " ++ side ++
    py " inventory."))) .ok

/-- One round of the loop of `dispatch_outbound_transfer`. -/
def dispatchItem (user : User) (transfer : LocalTransfer) (i : LoadedTransferItem) : Tx PUnit := do
  let serial ← Tx.lift (i.requireSerial (py "local"))
  claimSerial serial.id .inStock .inTransit
    (transferError (serial.serialNumber ++ py " is no longer available; review the transfer."))
  insertInventoryTransaction
    (transferTransaction user .transferOut transfer serial .inStock .inTransit
    (py "Dispatched to franchise " ++ transfer.peerCode ++ py "."))

/-- The network items of transfer items, in stock, with their products as they are now. -/
def transferNetworkItems (items : List LoadedTransferItem) (db : Db) :
    Except PyError (List JsonDict) :=
  items.mapM fun i => do
    let serial ← found i.serial
    networkItemOf db serial none none (some .inStock)

/-- The payload of a transfer event. -/
def transferPayload (user : User) (transfer : LocalTransfer) (destination : Option PyStr)
    (items : List JsonDict) : JsonDict where
  entries := [(py "reference", .str transfer.transferUuid), (py "actor", .str user.username)] ++
    (destination.map fun code => (py "destination_franchise_code", Json.str code)).toList ++
    [(py "transfer_id", .str transfer.transferUuid),
      (py "items", .arr (items.map fun item => .obj item.entries))]
  wf := by
    have hitems : (Json.arr (items.map fun item => .obj item.entries)).WF := by
      apply Json.allWF_iff.mpr
      intro v hv
      obtain ⟨item, -, rfl⟩ := List.mem_map.mp hv
      exact item.wf
    cases destination with
    | none =>
      have hkeys : [py "reference", py "actor", py "transfer_id", py "items"].Nodup := by decide
      exact ⟨hkeys, trivial, trivial, trivial, hitems, trivial⟩
    | some code =>
      have hkeys : [py "reference", py "actor", py "destination_franchise_code", py "transfer_id",
          py "items"].Nodup := by decide
      exact ⟨hkeys, trivial, trivial, trivial, trivial, hitems, trivial⟩

/-- The event of a dispatch or a receipt. -/
def transferRequest (eventType : PyStr) (s : Submitter) (transfer : LocalTransfer)
    (destination : Option PyStr) (items : List JsonDict) : EnqueueRequest where
  eventType := eventType
  aggregateType := py "TRANSFER"
  aggregateId := transfer.transferUuid
  payload := transferPayload s.user transfer destination items
  occurredAt := some s.now
  schemaVersion := eventSchemaVersion
  batchId := none
  initialInventory := false

/-- Items by their number, as the manifest lists them. -/
def manifestOrder (items : List LoadedTransferItem) : List LoadedTransferItem :=
  items.insertionSort fun a b =>
    strLe a.item.manifestSerialNumber b.item.manifestSerialNumber = true

/-- Queue the event of a transfer, with items as they are now. -/
def enqueueTransferEvent (eventType : PyStr) (s : Submitter) (transfer : LocalTransfer)
    (destination : Option PyStr) (items : List LoadedTransferItem) : Tx MasterOutboxEvent := do
  let db ← Tx.reads fun db => db
  let items ← Tx.lift (transferNetworkItems items db)
  enqueueOutboxEvent s.settings s.uuid s.now
    (transferRequest eventType s transfer destination items)

/-- What `dispatch_outbound_transfer` writes. -/
def dispatch (s : Submitter) (loaded : LoadedTransfer) : Tx PUnit :=
  Tx.mapError asTransferError do
    Tx.each (dispatchItem s.user loaded.transfer) loaded.items
    updateTransfer loaded.transfer.id fun t =>
      { t with status := .dispatched, dispatchedAt := some s.now }
    let _ ← enqueueTransferEvent (py "TRANSFER_DISPATCHED") s loaded.transfer
      (some loaded.transfer.peerCode) (manifestOrder loaded.items)
    pure ⟨⟩

/-- `dispatch_outbound_transfer`. -/
def dispatchOutboundTransfer (transferId : Nat) (s : Submitter) : StockRequest PUnit := do
  let loaded ← getTransfer transferId
  Request.lift (resolveTransfer loaded.transfer .outbound)
  Request.raiseIf (loaded.transfer.status ≠ .draft)
    (transferError (py "Only a draft transfer can be dispatched."))
  Request.raiseIf (loaded.items = [])
    (transferError (py "Add at least one serial before dispatching."))
  Request.raiseIf (5000 < loaded.items.length)
    (transferError (py "A transfer can contain at most 5000 serials."))
  Request.commits (.dispatch s loaded)

/-! ## Receipt -/

/-- `RECEIVABLE_STATUSES`. -/
def receivableStatuses : List TransferStatus := [.awaitingReceipt, .partiallyReceived]

/-- The conditional update of a scanned item. -/
def scanTransferItem (item : LocalTransferItem) (now : Instant) : Tx PUnit := do
  let db ← Tx.reads fun db => db
  Tx.raiseIf (¬ ∃ i ∈ db.transferItems, i.id = item.id ∧ i.scanned = false ∧ i.received = false)
    (transferError (item.manifestSerialNumber ++ py " has already been scanned for receipt."))
  updateTransferItem item.id fun i => { i with scanned := true, scannedAt := some now }

/-- `scan_inbound_transfer_item`. -/
def scanInboundTransferItem (transferId : Nat) (serialNumber : PyStr) (now : Instant) :
    StockRequest PUnit := do
  let row := (← getTransfer transferId).transfer
  Request.lift (resolveTransfer row .inbound)
  Request.raiseIf (row.status ∉ receivableStatuses)
    (transferError (py "This transfer is not awaiting receipt."))
  let number := normalizeSerial serialNumber
  let item ← Request.reads fun db =>
    db.transferItems.find? fun i => i.transferId = row.id && i.manifestSerialNumber = number
  let item ← Request.lift (item.elim
    (.error (transferError (number ++ py " is not part of this transfer manifest."))) .ok)
  Request.raiseIf (item.received = true)
    (transferError (number ++ py " has already been received."))
  Request.raiseIf (item.scanned = true)
    (transferError (number ++ py " has already been scanned for receipt."))
  Request.commits (.scanTransferItem item now)

/-- The items a receipt is for. -/
def LoadedTransfer.receiptItems (loaded : LoadedTransfer) : List LoadedTransferItem :=
  loaded.items.filter fun i => i.item.scanned && !i.item.received

/-- One round of the loop of `finalize_inbound_receipt`. -/
def receiveItem (s : Submitter) (transfer : LocalTransfer) (i : LoadedTransferItem) : Tx PUnit := do
  let serial ← Tx.lift (i.requireSerial (py "inbound"))
  claimSerial serial.id .inTransit .inStock
    (transferError
      (serial.serialNumber ++ py " cannot be received from " ++ serial.status.value ++ py "."))
  updateTransferItem i.item.id fun stored =>
    { stored with received := true, receivedAt := some s.now }
  insertInventoryTransaction
    (transferTransaction s.user .transferIn transfer serial .inTransit .inStock
    (py "Received from franchise " ++ transfer.peerCode ++ py "."))

/-- The transfer after a receipt of its scanned items. -/
def LocalTransfer.afterReceipt (now : Instant) (items : List LoadedTransferItem)
    (t : LocalTransfer) :
    LocalTransfer :=
  if items.all fun i => i.item.received || i.item.scanned then
    { t with status := .received, receivedAt := some now }
  else { t with status := .partiallyReceived }

/-- What `finalize_inbound_receipt` writes. -/
def receive (s : Submitter) (loaded : LoadedTransfer) : Tx PUnit :=
  Tx.mapError asTransferError do
    Tx.each (receiveItem s loaded.transfer) loaded.receiptItems
    updateTransfer loaded.transfer.id (LocalTransfer.afterReceipt s.now loaded.items)
    let _ ← enqueueTransferEvent (py "TRANSFER_RECEIVED") s loaded.transfer none loaded.receiptItems
    pure ⟨⟩

/-- `finalize_inbound_receipt`. -/
def finalizeInboundReceipt (transferId : Nat) (s : Submitter) : StockRequest PUnit := do
  let loaded ← getTransfer transferId
  Request.lift (resolveTransfer loaded.transfer .inbound)
  Request.raiseIf (loaded.transfer.status ∉ receivableStatuses)
    (transferError (py "This transfer is not awaiting receipt."))
  Request.raiseIf (loaded.receiptItems = [])
    (transferError (py "Scan at least one unreceived manifest item first."))
  Request.commits (.receive s loaded)

end SetuoraLite
