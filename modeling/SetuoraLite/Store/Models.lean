import SetuoraLite.Lib.Calendar
import SetuoraLite.Lib.JsonDecode
import SetuoraLite.Lib.Table
import SetuoraLite.Lib.Transaction

/-!
# The database

The tables of the Lite node, one record type for each, with the columns that the
modelled services read or write. A column that holds one of a fixed set of words
is an enumeration with a `value`, the word as stored; a nullable column is an
`Option`; a date-time is an `Instant`.

`Db` is the whole database. `outboxSequence` is the outbox table's row in
`sqlite_sequence`: `AUTOINCREMENT` never gives out an id at or below it, and only
deleting that row resets it. Every other integer key is the largest one plus one.
-/

namespace SetuoraLite

open Lib

/-! ## Words -/

/-- `SerialStatus`: where a unit stands. -/
inductive SerialStatus
  | generated | purchased | received | inStock | sold | returned | purchaseReturn
  | issued | audited | damaged | missing | invalid | replaced | inTransit
deriving DecidableEq

/-- The text that the column holds. -/
def SerialStatus.value : SerialStatus → PyStr
  | .generated => py "GENERATED"
  | .purchased => py "PURCHASED"
  | .received => py "RECEIVED"
  | .inStock => py "IN_STOCK"
  | .sold => py "SOLD"
  | .returned => py "RETURNED"
  | .purchaseReturn => py "PURCHASE_RETURN"
  | .issued => py "ISSUED"
  | .audited => py "AUDITED"
  | .damaged => py "DAMAGED"
  | .missing => py "MISSING"
  | .invalid => py "INVALID"
  | .replaced => py "REPLACED"
  | .inTransit => py "IN_TRANSIT"

/-- `BatchType`: what a batch does with its units. -/
inductive BatchType
  | purchase | receive | sale | audit | purchaseReturn | salesReturn | issue | qrAssignment
deriving DecidableEq

/-- The text that the column holds. -/
def BatchType.value : BatchType → PyStr
  | .purchase => py "PURCHASE"
  | .receive => py "RECEIVE"
  | .sale => py "SALE"
  | .audit => py "AUDIT"
  | .purchaseReturn => py "PURCHASE_RETURN"
  | .salesReturn => py "SALES_RETURN"
  | .issue => py "ISSUE"
  | .qrAssignment => py "QR_ASSIGNMENT"

/-- `TransactionType`: why a unit's status changed. -/
inductive TransactionType
  | purchase | sale | salesReturn | purchaseReturn | issue | audit | qrAssignment
  | qrReplacement | relocation | transferOut | transferIn
deriving DecidableEq

/-- `WarehouseLevel`: whose warehouse a unit is in. -/
inductive WarehouseLevel
  | companyWarehouse | cAndF | masterFranchise | talukFranchise | homeFranchise
deriving DecidableEq

/-- The text that the column holds. -/
def WarehouseLevel.value : WarehouseLevel → PyStr
  | .companyWarehouse => py "Company Warehouse"
  | .cAndF => py "C&F"
  | .masterFranchise => py "Master Franchise"
  | .talukFranchise => py "Taluk Franchise"
  | .homeFranchise => py "Home Franchise"

/-- `WarehouseLevel(text)`; `none` is its `ValueError`. -/
def WarehouseLevel.ofText (s : PyStr) : Option WarehouseLevel :=
  [.companyWarehouse, .cAndF, .masterFranchise, .talukFranchise, .homeFranchise].find?
    fun level => level.value = s

/-- `BatchStatus`. -/
inductive BatchStatus
  | draft | submitted | syncing | synced | pendingSync | failed | closed
deriving DecidableEq

/-- `MasterOutboxStatus`. -/
inductive OutboxStatus
  | pending | sending | sent | failed
deriving DecidableEq

/-- `MasterInboxStatus`. -/
inductive InboxStatus
  | received | applied | failed
deriving DecidableEq

/-- `ReceiptStatus`: what Master's review says. -/
inductive ReceiptStatus
  | pending | approved | denied
deriving DecidableEq

/-- The text that the column holds. -/
def ReceiptStatus.value : ReceiptStatus → PyStr
  | .pending => py "PENDING"
  | .approved => py "APPROVED"
  | .denied => py "DENIED"

/-- `TransferDirection`. -/
inductive TransferDirection
  | outbound | inbound
deriving DecidableEq

/-- `TransferStatus`. -/
inductive TransferStatus
  | draft | pendingMaster | dispatched | awaitingReceipt | partiallyReceived | received | failed
deriving DecidableEq

/-! ## Rows -/

/-- A row of `products`. -/
structure Product where
  id : Nat
  productCode : PyStr
  productName : PyStr
  nickname : Option PyStr
  category : Option PyStr
  brand : Option PyStr
  hsn : PyStr
  gstRate : PyFloat
  unit : PyStr
  defaultRate : PyFloat
  salesDiscountRate : PyFloat
  shelfVerificationInterval : Int
  tallyStockItemName : PyStr
  alternateTallyStockItemName : Option PyStr
  active : Bool
deriving DecidableEq

/-- A row of `storage_locations`. -/
structure StorageLocation where
  id : Nat
  code : PyStr
  warehouse : PyStr
  warehouseLevel : WarehouseLevel
  zone : PyStr
  section_ : PyStr
  rack : PyStr
  shelf : PyStr
  bin : PyStr
  active : Bool
deriving DecidableEq

/-- A row of `serials`: one unit, under its QR number. -/
structure Serial where
  id : Nat
  serialNumber : PyStr
  productId : Nat
  status : SerialStatus
  active : Bool
  createdAt : Instant
  replacedById : Option Nat
  productBatchNumber : Option PyStr
  mfgDate : Option Date
  expiryDate : Option Date
  warehouse : Option PyStr
  warehouseLevel : WarehouseLevel
  locationId : Option Nat
deriving DecidableEq

/-- `User`, as far as the stock services look at it. -/
structure User where
  id : Nat
  username : PyStr
deriving DecidableEq

/-- A row of `batches`: a draft that is scanned, or what was submitted. -/
structure Batch where
  id : Nat
  batchNumber : PyStr
  batchType : BatchType
  partyName : Option PyStr
  partyState : Option PyStr
  partyGstRegistrationType : Option PyStr
  partyGstName : Option PyStr
  partyGstin : Option PyStr
  gstTreatment : Option PyStr
  gstCgstRate : Option PyFloat
  gstSgstRate : Option PyFloat
  gstIgstRate : Option PyFloat
  reasonCode : Option PyStr
  userId : Nat
  auditAssignmentId : Option Nat
  status : BatchStatus
  tallyReference : Option PyStr
  notes : Option PyStr
  lastError : Option PyStr
  submittedAt : Option Instant
  syncedAt : Option Instant
deriving DecidableEq

/-- A row of `batch_items`: one unit in a batch. -/
structure BatchItem where
  id : Nat
  batchId : Nat
  serialId : Nat
  rate : Option PyFloat
  salesDiscountRate : Option PyFloat
  fefoPicked : Bool
  shelfLocationId : Option Nat
  shelfVerifiedById : Option Nat
  shelfVerifiedAt : Option Instant
deriving DecidableEq

/-- A row of `scan_logs`, accepted or refused. -/
structure ScanLog where
  id : Nat
  serialId : Option Nat
  serialNumberRaw : PyStr
  userId : Nat
  action : PyStr
  batchId : Option Nat
  status : PyStr
  message : Option PyStr
  tallyReference : Option PyStr
  createdAt : Instant
deriving DecidableEq

/-- A row of `inventory_transactions`, the log of what happened to units. -/
structure InventoryTransaction where
  id : Nat
  transactionType : TransactionType
  serialId : Option Nat
  productId : Option Nat
  batchId : Option Nat
  userId : Nat
  serialNumber : Option PyStr
  statusFrom : Option SerialStatus
  statusTo : Option SerialStatus
  reasonCode : Option PyStr
  tallyReference : Option PyStr
  referenceNumber : Option PyStr
  notes : Option PyStr
deriving DecidableEq

/-- An event waiting to be delivered to Setuora Master; the id is its sequence. -/
structure MasterOutboxEvent where
  id : Nat
  eventId : PyStr
  eventType : PyStr
  schemaVersion : Int
  aggregateType : PyStr
  aggregateId : PyStr
  batchId : Option Nat
  payloadJson : PyStr
  payloadSha256 : PyStr
  status : OutboxStatus
  attempts : Nat
  nextAttemptAt : Option Instant
  lastError : Option PyStr
  sendingAt : Option Instant
  sentAt : Option Instant
deriving DecidableEq

/-- A durable idempotency record for a command received from Master. -/
structure MasterInboxCommand where
  id : Nat
  commandId : PyStr
  commandType : PyStr
  schemaVersion : Int
  payloadJson : PyStr
  payloadSha256 : PyStr
  status : InboxStatus
  attempts : Nat
  lastError : Option PyStr
  appliedAt : Option Instant
deriving DecidableEq

/-- A row of `receipts`: what Master's review of a batch says. -/
structure Receipt where
  id : Nat
  receiptUuid : PyStr
  status : ReceiptStatus
  rejectionRemarks : Option PyStr
  reviewedBy : Option PyStr
  reviewedAt : Option Instant
  syncedAt : Option Instant
deriving DecidableEq

/-- A row of `local_transfers`, to or from another franchise. -/
structure LocalTransfer where
  id : Nat
  transferUuid : PyStr
  direction : TransferDirection
  status : TransferStatus
  localFranchiseCode : Option PyStr
  peerCode : PyStr
  createdById : Option Nat
  notes : Option PyStr
  dispatchedAt : Option Instant
  receivedAt : Option Instant
deriving DecidableEq

/-- A row of `local_transfer_items`: one unit of a manifest. -/
structure LocalTransferItem where
  id : Nat
  transferId : Nat
  serialId : Option Nat
  manifestSerialNumber : PyStr
  productCode : PyStr
  productName : PyStr
  scanned : Bool
  received : Bool
  scannedAt : Option Instant
  receivedAt : Option Instant
deriving DecidableEq

/-- A row of `stock_relocations`: one line of a move. -/
structure StockRelocation where
  id : Nat
  referenceNumber : PyStr
  productId : Nat
  productBatchNumber : Option PyStr
  quantity : Nat
  previousLocationId : Option Nat
  newLocationId : Nat
  previousLocationSnapshot : PyStr
  newLocationSnapshot : PyStr
  userId : Nat
  reason : Option PyStr
  deviceUsed : PyStr
deriving DecidableEq

/-- A row of `relocation_serials`: where one unit was and is. -/
structure RelocationSerial where
  id : Nat
  relocationId : Nat
  serialId : Nat
deriving DecidableEq

/-- `AuditAssignment`, as far as scans look at it. -/
structure AuditAssignment where
  id : Nat
  productId : Nat
  auditorId : Nat
  startsAt : Instant
  endsAt : Instant
deriving DecidableEq

/-- A row of `settings`. -/
structure Setting where
  key : PyStr
  value : PyStr
deriving DecidableEq

/-! ## The database -/

/-- The tables that the stock services, the push and the poll read and write. -/
structure Db where
  products : List Product
  locations : List StorageLocation
  serials : List Serial
  batches : List Batch
  batchItems : List BatchItem
  scanLogs : List ScanLog
  transactions : List InventoryTransaction
  outbox : List MasterOutboxEvent
  outboxSequence : Nat
  inbox : List MasterInboxCommand
  receipts : List Receipt
  transfers : List LocalTransfer
  transferItems : List LocalTransferItem
  relocations : List StockRelocation
  relocationSerials : List RelocationSerial
  assignments : List AuditAssignment
  settings : List Setting
deriving DecidableEq

/-- A new installation. -/
def Db.empty : Db := ⟨[], [], [], [], [], [], [], [], 0, [], [], [], [], [], [], [], []⟩

/-- `db.get(Batch, id)`. -/
def Db.batch (db : Db) (id : Nat) : Option Batch := lookup (·.id) id db.batches

/-- `db.get(Product, id)`. -/
def Db.product (db : Db) (id : Nat) : Option Product := lookup (·.id) id db.products

/-- `db.get(Serial, id)`. -/
def Db.serial (db : Db) (id : Nat) : Option Serial := lookup (·.id) id db.serials

/-- `db.get(StorageLocation, id)`. -/
def Db.location (db : Db) (id : Nat) : Option StorageLocation := lookup (·.id) id db.locations

/-- `db.get(MasterOutboxEvent, id)`. -/
def Db.event (db : Db) (id : Nat) : Option MasterOutboxEvent := lookup (·.id) id db.outbox

/-- The serial of a number. -/
def Db.serialNumbered (db : Db) (number : PyStr) : Option Serial :=
  lookup (·.serialNumber) number db.serials

/-- The items of a batch, in the order of their ids. -/
def Db.itemsOf (db : Db) (batchId : Nat) : List BatchItem :=
  db.batchItems.filter fun item => item.batchId = batchId

/-! ## Errors -/

/-- The exception classes that some caller tells apart. `masterSync`, `transfer`,
`receipt`, `inventory`, `shelf` and `relocation` are the services' own
`ValueError`s; `value` is any other one, `other` anything else. -/
inductive ErrorClass
  | masterSync | transfer | receipt | inventory | shelf | relocation | value | other
deriving DecidableEq

/-- An exception: its class and `str(exc)`. -/
structure PyError where
  cls : ErrorClass
  message : PyStr
deriving DecidableEq

/-- `UnicodeEncodeError`, raised by a lone surrogate. -/
def PyError.unicodeEncode : PyError := ⟨.value, py "surrogates not allowed"⟩

/-- `IntegrityError`, raised by a unique constraint. -/
def PyError.integrity : PyError := ⟨.other, py "UNIQUE constraint failed"⟩

/-- A service call inside one database transaction. -/
abbrev Tx (α : Type) := Lib.Tx PyError Db α

end SetuoraLite
