import SetuoraLite.Store.Writes

/-!
# Writes of the stock services

The inserts, updates and deletes that batches, transfers and relocations are made
of. A row to insert carries any id; the database gives it the next one of its table,
which may be an id that a deleted row had. An `UPDATE` of a row that is gone raises
`StaleDataError` when the row was loaded first; a `DELETE` of one only warns.

`claimSerial` is the conditional `UPDATE` the services take stock with: it counts the
rows it changed, and it is the only write here that looks at a serial again.
-/

namespace SetuoraLite

open Lib

/-- `StaleDataError`, from an `UPDATE` that matched no row. -/
def PyError.staleData : PyError :=
  ⟨.other, py "UPDATE statement on table expected to update 1 row(s); 0 were matched."⟩

/-- What a nullable `Float` column holds: SQLite stores `NaN` as `NULL`. -/
def storedFloat (x : Option PyFloat) : Option PyFloat := if x = some .nan then none else x

/-! ## Batches and their items -/

/-- `db.add(Batch(…))` and its flush. -/
def insertBatch (row : Batch) : Tx PUnit := do
  let db ← Tx.reads fun db => db
  Tx.raiseIf (encodable ([row.batchNumber] ++ row.partyName.toList ++ row.partyState.toList ++
    row.partyGstName.toList ++ row.reasonCode.toList ++ row.notes.toList) = false) .unicodeEncode
  Tx.raiseIf (∃ b ∈ db.batches, b.batchNumber = row.batchNumber) .integrity
  Tx.modify fun db =>
    { db with batches := db.batches ++ [{ row with id := nextId (·.id) db.batches }] }

/-- The stored batch with changed columns; nothing writes its number, its type or
what its event says about the party. -/
def Batch.changed (status : BatchStatus) (submittedAt : Option Instant) (stored : Batch) : Batch :=
  { stored with status := status, submittedAt := submittedAt }

/-- Write a batch's status and submission time. -/
def updateBatch (id : Nat) (status : BatchStatus) (submittedAt : Option Instant) : Tx PUnit := do
  let db ← Tx.reads fun db => db
  Tx.raiseIf (db.batch id = none) .staleData
  Tx.modify fun db =>
    { db with batches := modifyRow (·.id) id (Batch.changed status submittedAt) db.batches }

/-- `db.add(BatchItem(…))` and its flush. -/
def insertBatchItem (row : BatchItem) : Tx PUnit := do
  let db ← Tx.reads fun db => db
  -- Both foreign keys, and one item for a serial in a batch.
  Tx.raiseIf (db.batch row.batchId = none ∨ db.serial row.serialId = none) .integrity
  Tx.raiseIf (∃ i ∈ db.batchItems, i.batchId = row.batchId ∧ i.serialId = row.serialId) .integrity
  Tx.modify fun db =>
    { db with batchItems := db.batchItems ++ [{ row with id := nextId (·.id) db.batchItems }] }

/-- The stored item with changed columns; nothing moves it to another batch or serial. -/
def BatchItem.changed (change : BatchItem → BatchItem) (stored : BatchItem) : BatchItem :=
  { change stored with id := stored.id, batchId := stored.batchId, serialId := stored.serialId }

/-- `db.get(BatchItem, id)`. -/
def Db.batchItem (db : Db) (id : Nat) : Option BatchItem := lookup (·.id) id db.batchItems

/-- Change a batch item in place. -/
def updateBatchItem (id : Nat) (change : BatchItem → BatchItem) : Tx PUnit := do
  let db ← Tx.reads fun db => db
  Tx.raiseIf (db.batchItem id = none) .staleData
  Tx.modify fun db =>
    { db with batchItems := modifyRow (·.id) id (BatchItem.changed change) db.batchItems }

/-- `db.delete(item)` and its flush. -/
def deleteBatchItem (id : Nat) : Tx PUnit :=
  Tx.modify fun db => { db with batchItems := db.batchItems.filter fun i => i.id ≠ id }

/-! ## Logs -/

/-- `db.add(ScanLog(…))` and its flush. -/
def insertScanLog (row : ScanLog) : Tx PUnit := do
  Tx.raiseIf (encodable ([row.serialNumberRaw] ++ row.message.toList) = false) .unicodeEncode
  Tx.modify fun db =>
    { db with scanLogs := db.scanLogs ++ [{ row with id := nextId (·.id) db.scanLogs }] }

/-- Write a scan log's status and message. -/
def updateScanLog (id : Nat) (status message : PyStr) : Tx PUnit := do
  let db ← Tx.reads fun db => db
  Tx.raiseIf (lookup (·.id) id db.scanLogs = none) .staleData
  Tx.modify fun db =>
    { db with
      scanLogs :=
        modifyRow (·.id) id (fun log => { log with status := status, message := some message })
        db.scanLogs }

/-- `db.add(InventoryTransaction(…))` and its flush; its texts are columns already. -/
def insertInventoryTransaction (row : InventoryTransaction) : Tx PUnit :=
  Tx.modify fun db =>
    { db with
      transactions := db.transactions ++ [{ row with id := nextId (·.id) db.transactions }] }

/-! ## Serials -/

/-- `UPDATE serials SET status WHERE id = ? AND status = ? AND active`, which must
change one row. -/
def claimSerial (id : Nat) (statusFrom statusTo : SerialStatus) (e : PyError) : Tx PUnit := do
  let db ← Tx.reads fun db => db
  Tx.raiseIf (¬ ∃ s ∈ db.serials, s.id = id ∧ s.status = statusFrom ∧ s.active = true) e
  updateSerial id fun s => { s with status := statusTo }

/-- A serial put at a storage location. -/
def Serial.placedAt (location : StorageLocation) (s : Serial) : Serial :=
  { s with
    locationId := some location.id
    warehouse := some location.warehouse
    warehouseLevel := location.warehouseLevel }

/-! ## Transfers and relocations -/

/-- `db.delete(item)` and its flush. -/
def deleteTransferItem (id : Nat) : Tx PUnit :=
  Tx.modify fun db => { db with transferItems := db.transferItems.filter fun i => i.id ≠ id }

/-- `db.add(StockRelocation(…))` and its flush; the row gets its id. -/
def insertRelocation (row : StockRelocation) : Tx Nat := do
  let db ← Tx.reads fun db => db
  Tx.raiseIf (encodable ([row.deviceUsed] ++ row.reason.toList) = false) .unicodeEncode
  Tx.raiseIf (∃ r ∈ db.relocations, r.referenceNumber = row.referenceNumber) .integrity
  let id := nextId (·.id) db.relocations
  Tx.modify fun db => { db with relocations := db.relocations ++ [{ row with id := id }] }
  pure id

/-- `db.add(RelocationSerial(…))` and its flush. -/
def insertRelocationSerial (relocationId serialId : Nat) : Tx PUnit :=
  Tx.modify fun db =>
    { db with
      relocationSerials := db.relocationSerials ++
        [⟨nextId (·.id) db.relocationSerials, relocationId, serialId⟩] }

/-! ## What the writes do -/

variable {db db' : Db} {u : PUnit}

/-- A new batch has a number of its own. -/
theorem insertBatch_ok {row : Batch} (h : insertBatch row db = (.ok u, db')) :
    (∀ b ∈ db.batches, b.batchNumber ≠ row.batchNumber) ∧
      db' = { db with batches := db.batches ++ [{ row with id := nextId (·.id) db.batches }] } := by
  obtain ⟨seen, t₁, h₁, h⟩ := Tx.bind_ok.mp h
  obtain ⟨rfl, rfl⟩ := Tx.reads_ok.mp h₁
  obtain ⟨_, t₂, h₂, h⟩ := Tx.bind_ok.mp h
  obtain ⟨-, rfl⟩ := Tx.raiseIf_ok.mp h₂
  obtain ⟨_, t₃, h₃, h⟩ := Tx.bind_ok.mp h
  obtain ⟨hfresh, rfl⟩ := Tx.raiseIf_ok.mp h₃
  exact ⟨fun b hb he => hfresh ⟨b, hb, he⟩, (Tx.modify_ok.mp h).symm⟩

/-- The batch was there, and has the new status. -/
theorem updateBatch_ok {id : Nat} {status : BatchStatus} {submittedAt : Option Instant}
    (h : updateBatch id status submittedAt db = (.ok u, db')) :
    db.batch id ≠ none ∧
      db' = { db with
        batches := modifyRow (·.id) id (Batch.changed status submittedAt) db.batches } := by
  obtain ⟨seen, t₁, h₁, h⟩ := Tx.bind_ok.mp h
  obtain ⟨rfl, rfl⟩ := Tx.reads_ok.mp h₁
  obtain ⟨_, t₂, h₂, h⟩ := Tx.bind_ok.mp h
  obtain ⟨hfound, rfl⟩ := Tx.raiseIf_ok.mp h₂
  exact ⟨hfound, (Tx.modify_ok.mp h).symm⟩

/-- The batch and the serial were there, and the serial was not yet in the batch. -/
theorem insertBatchItem_ok {row : BatchItem} (h : insertBatchItem row db = (.ok u, db')) :
    (db.batch row.batchId ≠ none ∧ db.serial row.serialId ≠ none) ∧
      (∀ i ∈ db.batchItems, i.batchId = row.batchId → i.serialId ≠ row.serialId) ∧
      db' = { db with
        batchItems := db.batchItems ++ [{ row with id := nextId (·.id) db.batchItems }] } := by
  obtain ⟨seen, t₁, h₁, h⟩ := Tx.bind_ok.mp h
  obtain ⟨rfl, rfl⟩ := Tx.reads_ok.mp h₁
  obtain ⟨_, t₂, h₂, h⟩ := Tx.bind_ok.mp h
  obtain ⟨hkeys, rfl⟩ := Tx.raiseIf_ok.mp h₂
  obtain ⟨_, t₃, h₃, h⟩ := Tx.bind_ok.mp h
  obtain ⟨hfresh, rfl⟩ := Tx.raiseIf_ok.mp h₃
  exact ⟨not_or.mp hkeys, fun i hi hb hs => hfresh ⟨i, hi, hb, hs⟩, (Tx.modify_ok.mp h).symm⟩

/-- The item was there, and is changed. -/
theorem updateBatchItem_ok {id : Nat} {change : BatchItem → BatchItem}
    (h : updateBatchItem id change db = (.ok u, db')) :
    db.batchItem id ≠ none ∧
      db' = { db with
        batchItems := modifyRow (·.id) id (BatchItem.changed change) db.batchItems } := by
  obtain ⟨seen, t₁, h₁, h⟩ := Tx.bind_ok.mp h
  obtain ⟨rfl, rfl⟩ := Tx.reads_ok.mp h₁
  obtain ⟨_, t₂, h₂, h⟩ := Tx.bind_ok.mp h
  obtain ⟨hfound, rfl⟩ := Tx.raiseIf_ok.mp h₂
  exact ⟨hfound, (Tx.modify_ok.mp h).symm⟩

/-- A scan log gets the next id. -/
theorem insertScanLog_ok {row : ScanLog} (h : insertScanLog row db = (.ok u, db')) :
    db' = { db with
      scanLogs := db.scanLogs ++ [{ row with id := nextId (·.id) db.scanLogs }] } := by
  obtain ⟨_, t₁, h₁, h⟩ := Tx.bind_ok.mp h
  obtain ⟨-, rfl⟩ := Tx.raiseIf_ok.mp h₁
  exact (Tx.modify_ok.mp h).symm

/-- The status and the message of a log are written over. -/
theorem updateScanLog_ok {id : Nat} {status message : PyStr}
    (h : updateScanLog id status message db = (.ok u, db')) :
    db' = { db with
      scanLogs :=
        modifyRow (·.id) id (fun log => { log with status := status, message := some message })
        db.scanLogs } := by
  obtain ⟨seen, t₁, h₁, h⟩ := Tx.bind_ok.mp h
  obtain ⟨rfl, rfl⟩ := Tx.reads_ok.mp h₁
  obtain ⟨_, t₂, h₂, h⟩ := Tx.bind_ok.mp h
  obtain ⟨-, rfl⟩ := Tx.raiseIf_ok.mp h₂
  exact (Tx.modify_ok.mp h).symm

/-- The conditional update found an active serial in the status it asked for. -/
theorem claimSerial_ok {id : Nat} {statusFrom statusTo : SerialStatus} {e : PyError}
    (h : claimSerial id statusFrom statusTo e db = (.ok u, db')) :
    (∃ s ∈ db.serials, s.id = id ∧ s.status = statusFrom ∧ s.active = true) ∧
      db' = { db with
        serials := modifyRow (·.id) id (Serial.changed fun s => { s with status := statusTo })
          db.serials } := by
  obtain ⟨seen, t₁, h₁, h⟩ := Tx.bind_ok.mp h
  obtain ⟨rfl, rfl⟩ := Tx.reads_ok.mp h₁
  obtain ⟨_, t₂, h₂, h⟩ := Tx.bind_ok.mp h
  obtain ⟨hfound, rfl⟩ := Tx.raiseIf_ok.mp h₂
  exact ⟨not_not.mp hfound, (Tx.modify_ok.mp h).symm⟩

/-- A line of a move gets the next id. -/
theorem insertRelocation_ok {row : StockRelocation} {id : Nat}
    (h : insertRelocation row db = (.ok id, db')) :
    id = nextId (·.id) db.relocations ∧
      db' = { db with relocations := db.relocations ++ [{ row with id := id }] } := by
  obtain ⟨seen, t₁, h₁, h⟩ := Tx.bind_ok.mp h
  obtain ⟨rfl, rfl⟩ := Tx.reads_ok.mp h₁
  obtain ⟨_, t₂, h₂, h⟩ := Tx.bind_ok.mp h
  obtain ⟨-, rfl⟩ := Tx.raiseIf_ok.mp h₂
  obtain ⟨_, t₃, h₃, h⟩ := Tx.bind_ok.mp h
  obtain ⟨-, rfl⟩ := Tx.raiseIf_ok.mp h₃
  obtain ⟨_, t₄, h₄, h⟩ := Tx.bind_ok.mp h
  obtain rfl := Tx.modify_ok.mp h₄
  obtain ⟨rfl, rfl⟩ := Tx.pure_ok.mp h
  exact ⟨rfl, rfl⟩

/-! ## Frames -/

section Frames

variable {γ : Type} {f : Db → γ}

/-- An insert into `batches` is seen there only. -/
theorem insertBatch_keeps (hf : ∀ db x, f { db with batches := x } = f db) (row : Batch) :
    Tx.Keeps f (insertBatch row) :=
  .bind (.reads _) fun _ => .bind (.raiseIf _ _) fun _ => .bind (.raiseIf _ _) fun _ =>
    .modify fun db => hf db _

/-- An update of `batches` is seen there only. -/
theorem updateBatch_keeps (hf : ∀ db x, f { db with batches := x } = f db) (id : Nat)
    (status : BatchStatus) (submittedAt : Option Instant) :
    Tx.Keeps f (updateBatch id status submittedAt) :=
  .bind (.reads _) fun _ => .bind (.raiseIf _ _) fun _ => .modify fun db => hf db _

/-- An insert into `batch_items` is seen there only. -/
theorem insertBatchItem_keeps (hf : ∀ db x, f { db with batchItems := x } = f db)
    (row : BatchItem) :
    Tx.Keeps f (insertBatchItem row) :=
  .bind (.reads _) fun _ => .bind (.raiseIf _ _) fun _ => .bind (.raiseIf _ _) fun _ =>
    .modify fun db => hf db _

/-- An update of `batch_items` is seen there only. -/
theorem updateBatchItem_keeps (hf : ∀ db x, f { db with batchItems := x } = f db) (id : Nat)
    (change : BatchItem → BatchItem) : Tx.Keeps f (updateBatchItem id change) :=
  .bind (.reads _) fun _ => .bind (.raiseIf _ _) fun _ => .modify fun db => hf db _

/-- A deletion from `batch_items` is seen there only. -/
theorem deleteBatchItem_keeps (hf : ∀ db x, f { db with batchItems := x } = f db) (id : Nat) :
    Tx.Keeps f (deleteBatchItem id) :=
  .modify fun db => hf db _

/-- An insert into `scan_logs` is seen there only. -/
theorem insertScanLog_keeps (hf : ∀ db x, f { db with scanLogs := x } = f db) (row : ScanLog) :
    Tx.Keeps f (insertScanLog row) :=
  .bind (.raiseIf _ _) fun _ => .modify fun db => hf db _

/-- An update of `scan_logs` is seen there only. -/
theorem updateScanLog_keeps (hf : ∀ db x, f { db with scanLogs := x } = f db) (id : Nat)
    (status message : PyStr) : Tx.Keeps f (updateScanLog id status message) :=
  .bind (.reads _) fun _ => .bind (.raiseIf _ _) fun _ => .modify fun db => hf db _

/-- An insert into `inventory_transactions` is seen there only. -/
theorem insertInventoryTransaction_keeps (hf : ∀ db x, f { db with transactions := x } = f db)
    (row : InventoryTransaction) : Tx.Keeps f (insertInventoryTransaction row) :=
  .modify fun db => hf db _

/-- A conditional update of `serials` is seen there only. -/
theorem claimSerial_keeps (hf : ∀ db x, f { db with serials := x } = f db) (id : Nat)
    (statusFrom statusTo : SerialStatus) (e : PyError) :
    Tx.Keeps f (claimSerial id statusFrom statusTo e) :=
  .bind (.reads _) fun _ => .bind (.raiseIf _ _) fun _ => updateSerial_keeps hf _ _

/-- A deletion from `local_transfer_items` is seen there only. -/
theorem deleteTransferItem_keeps (hf : ∀ db x, f { db with transferItems := x } = f db) (id : Nat) :
    Tx.Keeps f (deleteTransferItem id) :=
  .modify fun db => hf db _

/-- An insert into `stock_relocations` is seen there only. -/
theorem insertRelocation_keeps (hf : ∀ db x, f { db with relocations := x } = f db)
    (row : StockRelocation) : Tx.Keeps f (insertRelocation row) :=
  .bind (.reads _) fun _ => .bind (.raiseIf _ _) fun _ => .bind (.raiseIf _ _) fun _ =>
    .bind (.modify fun db => hf db _) fun _ => .pure _

/-- An insert into `relocation_serials` is seen there only. -/
theorem insertRelocationSerial_keeps (hf : ∀ db x, f { db with relocationSerials := x } = f db)
    (relocationId serialId : Nat) : Tx.Keeps f (insertRelocationSerial relocationId serialId) :=
  .modify fun db => hf db _

end Frames

end SetuoraLite
