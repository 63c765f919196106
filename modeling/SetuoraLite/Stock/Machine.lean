import SetuoraLite.Commands.Inbox
import SetuoraLite.Stock.Relocation
import SetuoraLite.Stock.Transfers

/-!
# The stock machine

Everything that moves stock on a node: the batch and transfer requests, relocations and
Master's commands, one after the other. `commitStock` gives the transactions of the
requests their meaning, `stockStep` serves one action, and a run of the node is a run of
`stockMachine`.

`Ready` is what a request that is served alone knows of the database when it commits:
the rows it loaded are the rows that are there. `request_ready` says so of every
request, so that a fact about the node is proved of `Ready` commits, one by one, and
carried to all runs by `stock_invariant`.
-/

namespace SetuoraLite

open Lib

/-! ## Transactions -/

/-- The writes of a transaction. -/
def writesOf : StockCommit → Tx PUnit
  | .createBatch row => insertBatch row
  | .logScan row => insertScanLog row
  | .scanItem item log => addItem item log
  | .pickItems picks => addItems picks
  | .removeItem itemId => deleteBatchItem itemId
  | .setRates items rate => setRates items rate
  | .verifyShelf batch pending location user now => verifyShelf batch pending location user now
  | .returnItem itemId log => returnItem itemId log
  | .verifyReturn batch pending location user now => verifyReturn batch pending location user now
  | .submit s loaded => submit s loaded
  | .createTransfer row => do
    let _ ← insertTransfer fun id => { row with id := id }
    pure ⟨⟩
  | .addTransferItem row => do
    let _ ← insertTransferItem fun id => { row with id := id }
    pure ⟨⟩
  | .removeTransferItem itemId => deleteTransferItem itemId
  | .dispatch s loaded => dispatch s loaded
  | .scanTransferItem item now => scanTransferItem item now
  | .receive s loaded => receive s loaded

/-- The transaction, committed or rolled back. -/
def commitStock (c : StockCommit) (db : Db) : Except PyError PUnit × Db :=
  Tx.atomically (writesOf c) db

/-! ## Actions -/

/-- Who acts, when, and the UUID the action draws. -/
structure Actor where
  user : User
  now : Instant
  uuid : PyStr

/-- An actor on a node with these settings. -/
def Actor.on (a : Actor) (st : Settings) : Submitter := ⟨st, a.user, a.now, a.uuid⟩

/-- What a request asks for. -/
inductive StockOrder
  | openBatch (user : User) (form : BatchForm) (now : Instant)
  | scan (batchId : Nat) (user : User) (serialNumber : PyStr) (returning : Bool) (now : Instant)
  | fefoPick (batchId : Nat) (user : User) (productId : Nat) (quantity : Int) (now : Instant)
  | importExcel (batchId : Nat) (user : User) (parse : Db → Except PyError (List AssignmentLine))
      (now : Instant)
  | removeItem (batchId itemId : Nat)
  | setItemRate (batchId itemId : Nat) (rate : PyFloat)
  | setProductRate (batchId productId : Nat) (rate : PyFloat)
  | submit (batchId : Nat) (actor : Actor)
  | openTransfer (user : User) (peerCode : PyStr) (notes : Option PyStr) (uuid : PyStr)
  | addSerial (transferId : Nat) (serialNumber : PyStr)
  | removeSerial (transferId itemId : Nat)
  | dispatch (transferId : Nat) (actor : Actor)
  | scanReceipt (transferId : Nat) (serialNumber : PyStr) (now : Instant)
  | receive (transferId : Nat) (actor : Actor)

/-- The request of an order. -/
def StockOrder.request (rt : Runtime) (st : Settings) : StockOrder → StockRequest PUnit
  | .openBatch user form now => createBatch user form now
  | .scan batchId user serialNumber returning now =>
    scanIntoBatch batchId user serialNumber returning now
  | .fefoPick batchId user productId quantity now =>
    fefoPickIntoBatch batchId user productId quantity now
  | .importExcel batchId user parse now => importTallyExcel batchId user parse now
  | .removeItem batchId itemId => deleteBatchItemRoute batchId itemId
  | .setItemRate batchId itemId rate => updateItemRate batchId itemId rate
  | .setProductRate batchId productId rate => updateProductRate batchId productId rate
  | .submit batchId actor => submitBatch rt batchId (actor.on st)
  | .openTransfer user peerCode notes uuid => createOutboundTransfer st user peerCode notes uuid
  | .addSerial transferId serialNumber => addOutboundSerial transferId serialNumber
  | .removeSerial transferId itemId => removeOutboundSerial transferId itemId
  | .dispatch transferId actor => dispatchOutboundTransfer transferId (actor.on st)
  | .scanReceipt transferId serialNumber now => scanInboundTransferItem transferId serialNumber now
  | .receive transferId actor => finalizeInboundReceipt transferId (actor.on st)

/-- What happens on a node. -/
inductive StockAction
  | order (o : StockOrder)
  | relocate (m : Move)
  | command (now : Instant) (uuid : PyStr) (command : List (PyStr × Json))

/-- One action, served alone; one that raises changes only what it committed before. -/
def stockStep (rt : Runtime) (st : Settings) (db : Db) : StockAction → Db
  | .order o => ((o.request rt st).serve commitStock db).2
  | .relocate m => (Tx.atomically (relocateStock st m) db).2
  | .command now uuid command => (Tx.atomically (applyMasterCommand rt st now uuid command) db).2

/-- The runs of a node. -/
def stockMachine (rt : Runtime) (st : Settings) : Machine Db StockAction :=
  fun db a => some (stockStep rt st db a)

/-! ## What a request knows when it is alone -/

/-- Loaded items are the items, serials and products that are stored. -/
structure LoadedFrom (db : Db) (batchId : Nat) (loaded : List LoadedItem) : Prop where
  items : loaded.map (·.item) = db.itemsOf batchId
  serials : ∀ l ∈ loaded, db.serial l.item.serialId = some l.serial
  products : ∀ l ∈ loaded, db.product l.serial.productId = some l.product

/-- The batch is stored as loaded, and is a draft. -/
def DraftBatch (db : Db) (batch : Batch) : Prop :=
  db.batch batch.id = some batch ∧ batch.status = .draft

/-- A loaded transfer is the transfer, items and serials that are stored. -/
structure LoadedTransfer.From (loaded : LoadedTransfer) (db : Db) : Prop where
  transfer : lookup (·.id) loaded.transfer.id db.transfers = some loaded.transfer
  items : loaded.items.map (·.item) = db.transferItemsOf loaded.transfer.id
  serials : ∀ i ∈ loaded.items, i.serial = i.item.serialId.bind db.serial

/-- What a lone request knows when it commits. -/
def Ready (rt : Runtime) : StockCommit → Db → Prop
  | .createBatch row, _ => row.status = .draft
  | .logScan row, _ => row.status = py "REJECTED"
  | .scanItem item log, db =>
    ∃ batch serial, DraftBatch db batch ∧ item = newBatchItem batch serial none false ∧
      serial ∈ db.serials ∧ serialAllowedForBatch serial batch.batchType = .ok () ∧
      db.inBatch batch.id serial.id = false ∧ db.inOtherDraft batch.id serial.id = false ∧
      log.status = py "SCANNED"
  | .pickItems picks, db => ∃ batch, DraftBatch db batch ∧
      (picks.map fun p => p.1.serialId).Nodup ∧
      ∀ p ∈ picks, p.1.batchId = batch.id ∧ p.1.shelfVerifiedAt = none ∧
        (∃ serial ∈ db.serials, serial.id = p.1.serialId ∧ serial.active = true ∧
          serial.status ∈ fefoAvailableStatuses batch.batchType) ∧
        db.inDraftBatch p.1.serialId = false ∧
        (p.2.status = py "FEFO_PICKED" ∨ p.2.status = py "EXCEL_IMPORTED")
  | .removeItem itemId, db => ∃ batch, DraftBatch db batch ∧
      ∃ item ∈ db.batchItems, item.id = itemId ∧ item.batchId = batch.id
  | .setRates items _, db => ∃ batch, DraftBatch db batch ∧
      ∀ i ∈ items, i ∈ db.batchItems ∧ i.batchId = batch.id
  | .verifyShelf batch pending location _ _, db => DraftBatch db batch ∧
      batch.batchType ∈ shelfControlledBatchTypes ∧ location ∈ db.locations ∧
      ∃ items, LoadedFrom db batch.id items ∧ pending = pendingShelfItems batch items
  | .returnItem itemId log, db =>
    ∃ batch serial item, DraftBatch db batch ∧ batch.batchType = .sale ∧
      itemId = item.id ∧ item ∈ db.batchItems ∧ item.batchId = batch.id ∧
      item.serialId = serial.id ∧
      serial ∈ db.serials ∧ log.serialId = some serial.id ∧ log.batchId = some batch.id
  | .verifyReturn batch pending location _ _, db => DraftBatch db batch ∧ batch.batchType = .sale ∧
      pending = pendingSaleReturnLogs batch.id db ∧ location ∈ db.locations
  | .submit _ loaded, db =>
    DraftBatch db loaded.batch ∧ LoadedFrom db loaded.batch.id loaded.items ∧
      checkBatchStatuses loaded = .ok () ∧ validatePricedBatch rt loaded = .ok () ∧
      (loaded.batch.batchType = .sale → pendingSaleReturnLogs loaded.batch.id db = [])
  | .createTransfer row, _ => row.direction = .outbound ∧ row.status = .draft
  | .addTransferItem row, db => ∃ transfer serial product,
      lookup (·.id) transfer.id db.transfers = some transfer ∧ transfer.direction = .outbound ∧
      transfer.status = .draft ∧ row = transferItemRow transfer.id serial product 0 ∧
      serial ∈ db.serials ∧ serial.active = true ∧ serial.status = .inStock ∧
      reservedItem db serial.id = none
  | .removeTransferItem itemId, db => ∃ transfer item,
      lookup (·.id) transfer.id db.transfers = some transfer ∧ transfer.direction = .outbound ∧
      transfer.status = .draft ∧ item ∈ db.transferItems ∧ item.id = itemId ∧
      item.transferId = transfer.id
  | .dispatch _ loaded, db => loaded.From db ∧ loaded.transfer.direction = .outbound ∧
      loaded.transfer.status = .draft ∧ loaded.items ≠ []
  | .scanTransferItem item _, db => ∃ transfer,
      lookup (·.id) transfer.id db.transfers = some transfer ∧ transfer.direction = .inbound ∧
      transfer.status ∈ receivableStatuses ∧ item ∈ db.transferItems ∧ item.transferId = transfer.id
  | .receive _ loaded, db => loaded.From db ∧ loaded.transfer.direction = .inbound ∧
      loaded.transfer.status ∈ receivableStatuses ∧ loaded.receiptItems ≠ []

end SetuoraLite
