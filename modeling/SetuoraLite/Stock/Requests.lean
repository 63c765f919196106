import SetuoraLite.Lib.Request
import SetuoraLite.Store.StockWrites
import SetuoraLite.Sync.Baseline

/-!
# Stock requests

What a batch or transfer request carries from its reads into its one transaction.

A request loads rows and keeps them: a batch, its items, their serials and products.
`StockCommit` is what it goes on to write, with the loaded rows it writes from, and
says nothing yet about what the rows are like by then. The services are `Request`s
over it, and each of them sits beside the transaction it ends in.
-/

namespace SetuoraLite

open Lib

/-- `InventoryError(text)`. -/
def inventoryError (text : PyStr) : PyError := ⟨.inventory, text⟩

/-- `ShelfVerificationError(text)`. -/
def shelfError (text : PyStr) : PyError := ⟨.shelf, text⟩

/-- A batch item with the serial and the product it was loaded with. -/
structure LoadedItem where
  item : BatchItem
  serial : Serial
  product : Product
deriving DecidableEq

/-- A batch as a request loaded it. -/
structure LoadedBatch where
  batch : Batch
  items : List LoadedItem
deriving DecidableEq

/-- A transfer item with the serial it was loaded with. -/
structure LoadedTransferItem where
  item : LocalTransferItem
  serial : Option Serial
deriving DecidableEq

/-- A transfer as a request loaded it. -/
structure LoadedTransfer where
  transfer : LocalTransfer
  items : List LoadedTransferItem
deriving DecidableEq

/-- Who submits or dispatches, when, and the UUID that the event draws. -/
structure Submitter where
  settings : Settings
  user : User
  now : Instant
  uuid : PyStr

/-- The transactions of the batch and transfer requests. -/
inductive StockCommit
  | createBatch (row : Batch)
  | logScan (row : ScanLog)
  | scanItem (item : BatchItem) (log : ScanLog)
  | pickItems (picks : List (BatchItem × ScanLog))
  | removeItem (itemId : Nat)
  | setRates (items : List BatchItem) (rate : PyFloat)
  | verifyShelf (batch : Batch) (pending : List LoadedItem) (location : StorageLocation)
      (user : User)
      (now : Instant)
  | returnItem (itemId : Nat) (log : ScanLog)
  | verifyReturn (batch : Batch) (pending : List ScanLog) (location : StorageLocation) (user : User)
      (now : Instant)
  | submit (s : Submitter) (loaded : LoadedBatch)
  | createTransfer (row : LocalTransfer)
  | addTransferItem (row : LocalTransferItem)
  | removeTransferItem (itemId : Nat)
  | dispatch (s : Submitter) (loaded : LoadedTransfer)
  | scanTransferItem (item : LocalTransferItem) (now : Instant)
  | receive (s : Submitter) (loaded : LoadedTransfer)

/-- A service that reads the database step by step and commits. -/
abbrev StockRequest (α : Type) := Request Db StockCommit PyError α

/-- A row that something refers to; using a missing one is an `AttributeError`. -/
def found {α : Type} (row : Option α) : Except PyError α := row.elim (.error .noneType) .ok

/-- A row or an exception: it was a row. -/
theorem elim_ok {α : Type} {row : Option α} {e : PyError} {a : α}
    (h : row.elim (.error e) .ok = (.ok a : Except PyError α)) : row = some a := by
  cases row with
  | none => cases h
  | some b => exact congrArg some (Except.ok.inj h)

/-- The serials of batch items. -/
def serialsOf (items : List BatchItem) (db : Db) : Except PyError (List Serial) :=
  items.mapM fun item => found (db.serial item.serialId)

/-- The products of serials. -/
def productsOf (serials : List Serial) (db : Db) : Except PyError (List Product) :=
  serials.mapM fun serial => found (db.product serial.productId)

/-- `batch.items`, with each item's serial and product: three queries. -/
def loadItems (batchId : Nat) : StockRequest (List LoadedItem) := do
  let items ← Request.reads fun db => db.itemsOf batchId
  let serials ← Request.reads (serialsOf items)
  let serials ← Request.lift serials
  let products ← Request.reads (productsOf serials)
  let products ← Request.lift products
  pure (((items.zip serials).zip products).map fun p => ⟨p.1.1, p.1.2, p.2⟩)

/-- A row of a batch, loaded by id; the routes answer a missing one at once. -/
def getBatch (batchId : Nat) : StockRequest Batch := do
  let batch ← Request.reads fun db => db.batch batchId
  Request.lift (batch.elim (.error ⟨.other, py "Batch not found"⟩) .ok)

end SetuoraLite
