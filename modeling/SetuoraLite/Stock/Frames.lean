import SetuoraLite.Stock.Machine

/-!
# What the stock services leave alone

The tables that each transaction of a stock request writes, and relocations and
Master's commands with them. Whatever does not read those tables is kept.
-/

namespace SetuoraLite

open Lib

/-! ## Rows in place -/

/-- A function of the database that does not show where a serial is or which status it
has: the services move stock by these two updates only. -/
structure MovesSerials {γ : Type} (f : Db → γ) : Prop where
  place : ∀ id location, Tx.Keeps f (updateSerial id (Serial.placedAt location))
  claim : ∀ id statusFrom statusTo e, Tx.Keeps f (claimSerial id statusFrom statusTo e)

/-- A part of the database without the serials is kept by what only moves serials. -/
theorem MovesSerials.of_frame {γ : Type} {f : Db → γ}
    (hs : ∀ db x, f { db with serials := x } = f db) :
    MovesSerials f :=
  ⟨fun _ _ => updateSerial_keeps hs _ _, fun _ _ _ _ => claimSerial_keeps hs _ _ _ _⟩

/-- A function of the database that does not show the marks of a transfer item. -/
abbrev MarksItems {γ : Type} (f : Db → γ) : Prop :=
  ∀ id change, Tx.Keeps f (updateTransferItem id change)

/-- A part of the database without the transfer items is kept by marks on them. -/
theorem marksItems_of_frame {γ : Type} {f : Db → γ}
    (hi : ∀ db x, f { db with transferItems := x } = f db) : MarksItems f :=
  fun _ _ => updateTransferItem_keeps hi _ _

/-- A function of the database that does not show the prices of a batch item. -/
structure PricesItems {γ : Type} (f : Db → γ) : Prop where
  rate : ∀ id rate, Tx.Keeps f (updateBatchItem id fun stored => { stored with rate := rate })
  freeze : ∀ (l : LoadedItem) batch, Tx.Keeps f (updateBatchItem l.item.id (l.freeze batch))

/-- A part of the database without the batch items is kept by prices on them. -/
theorem PricesItems.of_frame {γ : Type} {f : Db → γ}
    (hi : ∀ db x, f { db with batchItems := x } = f db) :
    PricesItems f :=
  ⟨fun _ _ => updateBatchItem_keeps hi _ _, fun _ _ => updateBatchItem_keeps hi _ _⟩

section Frames

variable {γ : Type} {f : Db → γ}

/-- A scan writes the batch items and the scan log. -/
theorem addItem_keeps (hi : ∀ db x, f { db with batchItems := x } = f db)
    (hl : ∀ db x, f { db with scanLogs := x } = f db) (item : BatchItem) (log : ScanLog) :
    Tx.Keeps f (addItem item log) :=
  .bind (insertBatchItem_keeps hi _) fun _ => insertScanLog_keeps hl _

/-- Several scans in one transaction. -/
theorem addItems_keeps (hi : ∀ db x, f { db with batchItems := x } = f db)
    (hl : ∀ db x, f { db with scanLogs := x } = f db) (picks : List (BatchItem × ScanLog)) :
    Tx.Keeps f (addItems picks) :=
  .each (fun _ => addItem_keeps hi hl _ _) _

/-- New rates write the batch items. -/
theorem setRates_keeps (hp : PricesItems f) (items : List BatchItem) (rate : PyFloat) :
    Tx.Keeps f (setRates items rate) :=
  .each (fun _ => hp.rate _ _) _

/-- A returned unit leaves the batch items and is logged. -/
theorem returnItem_keeps (hi : ∀ db x, f { db with batchItems := x } = f db)
    (hl : ∀ db x, f { db with scanLogs := x } = f db) (itemId : Nat) (log : ScanLog) :
    Tx.Keeps f (returnItem itemId log) :=
  .bind (deleteBatchItem_keeps hi _) fun _ => insertScanLog_keeps hl _

/-- Shelf verification writes the serials and the batch items. -/
theorem verifyShelf_keeps (hs : MovesSerials f)
    (hi : ∀ db x, f { db with batchItems := x } = f db)
    (hl : ∀ db x, f { db with scanLogs := x } = f db) (batch : Batch) (pending : List LoadedItem)
    (location : StorageLocation) (user : User) (now : Instant) :
    Tx.Keeps f (verifyShelf batch pending location user now) :=
  .bind (.each (fun _ => .bind (updateBatchItem_keeps hi _ _) fun _ => hs.place _ _) _)
    fun _ => insertScanLog_keeps hl _

/-- Placing returned units writes the serials and the scan log. -/
theorem verifyReturn_keeps (hs : MovesSerials f)
    (hl : ∀ db x, f { db with scanLogs := x } = f db) (batch : Batch) (pending : List ScanLog)
    (location : StorageLocation) (user : User) (now : Instant) :
    Tx.Keeps f (verifyReturn batch pending location user now) := by
  have hplace : ∀ log, Tx.Keeps f (placeReturn location log) := by
    intro log
    refine .bind (updateScanLog_keeps hl _ _ _) fun _ => ?_
    split
    · exact hs.place _ _
    · exact .pure _
  exact .bind (.each hplace _) fun _ => insertScanLog_keeps hl _

/-- A submitted item writes its serial, its rates and the logs. -/
theorem submitItem_keeps (hs : MovesSerials f) (hp : PricesItems f)
    (hl : ∀ db x, f { db with scanLogs := x } = f db)
    (ht : ∀ db x, f { db with transactions := x } = f db) (user : User) (now : Instant)
    (batch : Batch) (l : LoadedItem) : Tx.Keeps f (submitItem user now batch l) :=
  .bind (.ite (.pure _) (hs.claim _ _ _ _)) fun _ =>
    .bind (.ite (hp.freeze _ _) (.pure _)) fun _ => .bind (insertScanLog_keeps hl _) fun _ =>
      insertInventoryTransaction_keeps ht _

/-- The event of a submission writes the outbox. -/
theorem enqueueBatchSubmittedEvent_keeps
    (ho : ∀ db x n, f { db with outbox := x, outboxSequence := n } = f db) (s : Submitter)
    (batch : Batch) (items : List LoadedItem) :
    Tx.Keeps f (enqueueBatchSubmittedEvent s batch items) :=
  .bind (.lift _) fun _ => enqueueOutboxEvent_keeps ho _ _ _ _

/-- What a submission can write: everything else is as before. -/
theorem submit_keeps (hs : MovesSerials f) (hp : PricesItems f)
    (hb : ∀ db x, f { db with batches := x } = f db)
    (hl : ∀ db x, f { db with scanLogs := x } = f db)
    (ht : ∀ db x, f { db with transactions := x } = f db)
    (ho : ∀ db x n, f { db with outbox := x, outboxSequence := n } = f db) (s : Submitter)
    (loaded : LoadedBatch) : Tx.Keeps f (submit s loaded) :=
  .bind (.each (fun _ => submitItem_keeps hs hp hl ht _ _ _ _) _) fun _ =>
    .bind (updateBatch_keeps hb _ _ _) fun _ =>
      .bind (enqueueBatchSubmittedEvent_keeps ho _ _ _) fun _ =>
      .pure _

/-- The event of a transfer writes the outbox. -/
theorem enqueueTransferEvent_keeps
    (ho : ∀ db x n, f { db with outbox := x, outboxSequence := n } = f db) (eventType : PyStr)
    (s : Submitter) (transfer : LocalTransfer) (destination : Option PyStr)
    (items : List LoadedTransferItem) :
    Tx.Keeps f (enqueueTransferEvent eventType s transfer destination items) :=
  .bind (.reads _) fun _ => .bind (.lift _) fun _ => enqueueOutboxEvent_keeps ho _ _ _ _

/-- A dispatched item writes its serial and the transactions. -/
theorem dispatchItem_keeps (hs : MovesSerials f)
    (ht : ∀ db x, f { db with transactions := x } = f db) (user : User) (transfer : LocalTransfer)
    (i : LoadedTransferItem) : Tx.Keeps f (dispatchItem user transfer i) :=
  .bind (.lift _) fun _ => .bind (hs.claim _ _ _ _) fun _ =>
    insertInventoryTransaction_keeps ht _

/-- What a dispatch can write. -/
theorem dispatch_keeps (hs : MovesSerials f)
    (ht : ∀ db x, f { db with transactions := x } = f db)
    (htr : ∀ db x, f { db with transfers := x } = f db)
    (ho : ∀ db x n, f { db with outbox := x, outboxSequence := n } = f db) (s : Submitter)
    (loaded : LoadedTransfer) : Tx.Keeps f (dispatch s loaded) :=
  .mapError (.bind (.each (fun _ => dispatchItem_keeps hs ht _ _ _) _) fun _ =>
    .bind (updateTransfer_keeps htr _ _) fun _ =>
      .bind (enqueueTransferEvent_keeps ho _ _ _ _ _) fun _ => .pure _)

/-- A scan at receipt marks the item. -/
theorem scanTransferItem_keeps (hi : MarksItems f)
    (item : LocalTransferItem) (now : Instant) : Tx.Keeps f (scanTransferItem item now) :=
  .bind (.reads _) fun _ => .bind (.raiseIf _ _) fun _ => hi _ _

/-- A received item writes its serial, its mark and the transactions. -/
theorem receiveItem_keeps (hs : MovesSerials f)
    (hi : MarksItems f)
    (ht : ∀ db x, f { db with transactions := x } = f db) (s : Submitter) (transfer : LocalTransfer)
    (i : LoadedTransferItem) : Tx.Keeps f (receiveItem s transfer i) :=
  .bind (.lift _) fun _ => .bind (hs.claim _ _ _ _) fun _ =>
    .bind (hi _ _) fun _ => insertInventoryTransaction_keeps ht _

/-- What a receipt can write. -/
theorem receive_keeps (hs : MovesSerials f)
    (hi : MarksItems f)
    (ht : ∀ db x, f { db with transactions := x } = f db)
    (htr : ∀ db x, f { db with transfers := x } = f db)
    (ho : ∀ db x n, f { db with outbox := x, outboxSequence := n } = f db) (s : Submitter)
    (loaded : LoadedTransfer) : Tx.Keeps f (receive s loaded) :=
  .mapError (.bind (.each (fun _ => receiveItem_keeps hs hi ht _ _ _) _) fun _ =>
    .bind (updateTransfer_keeps htr _ _) fun _ =>
      .bind (enqueueTransferEvent_keeps ho _ _ _ _ _) fun _ => .pure _)

/-- The commit is one of the transfer requests'. -/
def StockCommit.ofTransfers : StockCommit → Bool
  | .createTransfer _ | .addTransferItem _ | .removeTransferItem _ | .dispatch _ _
    | .scanTransferItem _ _
  | .receive _ _ => true
  | _ => false

/-- Whatever does not show where serials are and their status is kept by every batch request. -/
theorem batchWrites_keeps (hs : MovesSerials f) (hb : ∀ db x, f { db with batches := x } = f db)
    (hi : ∀ db x, f { db with batchItems := x } = f db)
    (hl : ∀ db x, f { db with scanLogs := x } = f db)
    (ht : ∀ db x, f { db with transactions := x } = f db)
    (ho : ∀ db x n, f { db with outbox := x, outboxSequence := n } = f db) {c : StockCommit}
    (hc : c.ofTransfers = false) : Tx.Keeps f (writesOf c) := by
  cases c with
  | createBatch row => exact insertBatch_keeps hb _
  | logScan row => exact insertScanLog_keeps hl _
  | scanItem item log => exact addItem_keeps hi hl _ _
  | pickItems picks => exact addItems_keeps hi hl _
  | removeItem itemId => exact deleteBatchItem_keeps hi _
  | setRates items rate => exact setRates_keeps (.of_frame hi) _ _
  | verifyShelf batch pending location user now => exact verifyShelf_keeps hs hi hl _ _ _ _ _
  | returnItem itemId log => exact returnItem_keeps hi hl _ _
  | verifyReturn batch pending location user now => exact verifyReturn_keeps hs hl _ _ _ _ _
  | submit s loaded => exact submit_keeps hs (.of_frame hi) hb hl ht ho _ _
  | createTransfer row => cases hc
  | addTransferItem row => cases hc
  | removeTransferItem itemId => cases hc
  | dispatch s loaded => cases hc
  | scanTransferItem item now => cases hc
  | receive s loaded => cases hc

/-- Whatever does not show where serials are, their status and the marks of transfer items
is kept by every request, but for the transfer items that one adds or removes. -/
theorem writesOf_keeps (hs : MovesSerials f) (hm : MarksItems f)
    (hb : ∀ db x, f { db with batches := x } = f db)
    (hi : ∀ db x, f { db with batchItems := x } = f db)
    (hl : ∀ db x, f { db with scanLogs := x } = f db)
    (ht : ∀ db x, f { db with transactions := x } = f db)
    (htr : ∀ db x, f { db with transfers := x } = f db)
    (ho : ∀ db x n, f { db with outbox := x, outboxSequence := n } = f db) (c : StockCommit)
    (hadd : ∀ row, c = .addTransferItem row → Tx.Keeps f (writesOf c))
    (hremove : ∀ itemId, c = .removeTransferItem itemId → Tx.Keeps f (writesOf c)) :
    Tx.Keeps f (writesOf c) := by
  by_cases hc : c.ofTransfers = false
  · exact batchWrites_keeps hs hb hi hl ht ho hc
  cases c with
  | createTransfer row => exact .bind (insertTransfer_keeps htr _) fun _ => .pure _
  | addTransferItem row => exact hadd row rfl
  | removeTransferItem itemId => exact hremove itemId rfl
  | dispatch s loaded => exact dispatch_keeps hs ht htr ho _ _
  | scanTransferItem item now => exact scanTransferItem_keeps hm _ _
  | receive s loaded => exact receive_keeps hs hm ht htr ho _ _
  | _ => exact absurd rfl hc

/-! ## Relocations -/

/-- A moved unit writes its serial, the move's rows and the transactions. -/
theorem moveSerial_keeps (hs : MovesSerials f)
    (hr : ∀ db x, f { db with relocationSerials := x } = f db)
    (hl : ∀ db x, f { db with scanLogs := x } = f db)
    (ht : ∀ db x, f { db with transactions := x } = f db) (m : Move) (destination : StorageLocation)
    (relocationId : Nat) (reference note : PyStr) (s : Serial) :
    Tx.Keeps f (moveSerial m destination relocationId reference note s) :=
  .bind (hs.place _ _) fun _ => .bind (insertRelocationSerial_keeps hr _ _) fun _ =>
    .bind (insertScanLog_keeps hl _) fun _ => insertInventoryTransaction_keeps ht _

/-- The lines of a move, one after another. -/
theorem moveLines_keeps (hs : MovesSerials f)
    (hrl : ∀ db x, f { db with relocations := x } = f db)
    (hr : ∀ db x, f { db with relocationSerials := x } = f db)
    (hl : ∀ db x, f { db with scanLogs := x } = f db)
    (ht : ∀ db x, f { db with transactions := x } = f db) (m : Move) (destination : StorageLocation)
    (items : List (MoveItem × PyStr)) :
    ∀ claimed, Tx.Keeps f (moveLines m destination claimed items) := by
  induction items with
  | nil => exact fun _ => .pure _
  | cons line items ih =>
    intro claimed
    have hline : Tx.Keeps f (moveLine m destination (claimed.map (·.id)) line.1 line.2) :=
      .bind (.lift _) fun _ => .bind (.reads _) fun _ => .bind (.raiseIf _ _) fun _ =>
        .bind (.raiseIf _ _) fun _ => .bind (insertRelocation_keeps hrl _) fun _ =>
          .bind (.each (fun _ => moveSerial_keeps hs hr hl ht _ _ _ _ _ _) _) fun _ => .pure _
    exact .bind hline fun _ => ih _

/-- The events of a move write the outbox. -/
theorem enqueueMoved_keeps (ho : ∀ db x n, f { db with outbox := x, outboxSequence := n } = f db)
    (st : Settings) (m : Move) (destination : StorageLocation) (reference : PyStr)
    (chunks : List (List Serial)) :
    ∀ part, Tx.Keeps f (enqueueMoved st m destination reference part chunks) := by
  induction chunks with
  | nil => exact fun _ => .pure _
  | cons chunk chunks ih =>
    exact fun part => .bind (.reads _) fun _ => .bind (.lift _) fun _ =>
      .bind (enqueueOutboxEvent_keeps ho _ _ _ _) fun _ => ih _

/-- What a move between locations can write. -/
theorem relocateStock_keeps (hs : MovesSerials f)
    (hrl : ∀ db x, f { db with relocations := x } = f db)
    (hr : ∀ db x, f { db with relocationSerials := x } = f db)
    (hl : ∀ db x, f { db with scanLogs := x } = f db)
    (ht : ∀ db x, f { db with transactions := x } = f db)
    (ho : ∀ db x n, f { db with outbox := x, outboxSequence := n } = f db) (st : Settings)
    (m : Move) :
    Tx.Keeps f (relocateStock st m) :=
  .bind (.reads _) fun _ => .bind (.lift _) fun _ => .bind (.raiseIf _ _) fun _ =>
    .mapError (.bind (moveLines_keeps hs hrl hr hl ht _ _ _ _) fun _ =>
      enqueueMoved_keeps ho _ _ _ _ _ _)

end Frames

/-! ## Commands -/

/-- What the inbox does not show and every handler preserves, a command preserves. -/
theorem applyMasterCommand_preserves {I : Db → Prop} {rt : Runtime} {st : Settings} {now : Instant}
    {uuid : PyStr} (hinbox : ∀ db x, I db → I { db with inbox := x })
    (havailable : ∀ payload, Tx.Preserves I (applyTransferAvailableCommand rt st now payload))
    (hreceipt : ∀ payload, Tx.Preserves I (applyTransferReceiptCommand rt now payload))
    (hreview : ∀ payload, Tx.Preserves I (applyReceiptReviewCommand rt payload))
    (hallocated : ∀ payload, Tx.Preserves I (applyQrAllocatedCommand rt st now payload))
    (hreplace : ∀ payload commandId,
      Tx.Preserves I (applyQrReplaceCommand st now uuid payload commandId))
    (hupsert : ∀ payload, Tx.Preserves I (applyProductUpsertCommand rt st payload))
    (command : List (PyStr × Json)) :
    Tx.Preserves I (applyMasterCommand rt st now uuid command) := by
  have hhandler : ∀ parts, Tx.Preserves I (runHandler rt st now uuid parts) := fun parts =>
    .ite (fun _ => havailable _) fun _ => .ite (fun _ => hreceipt _) fun _ =>
      .ite (fun _ => hreview _)
      fun _ => .ite (fun _ => hallocated _) fun _ => .ite (fun _ => hreplace _ _) fun _ =>
        .ite (fun _ => hupsert _) fun _ => .raise _
  have hrun : ∀ parts row, Tx.Preserves I (runCommand rt st now uuid parts row) := fun parts row =>
    .bind (.modify fun db h => hinbox db _ h) fun _ => .bind ((hhandler parts).onError _) fun _ =>
      .bind (.modify fun db h => hinbox db _ h) fun _ => .pure _
  refine .bind (.lift _) fun parts => .bind (.raiseIf _ _) fun _ => .bind (.lift _) fun frozen =>
    .bind (.raiseIf _ _) fun _ => .bind (.reads _) fun db => ?_
  split
  · exact .bind (.raiseIf _ _) fun _ => .ite (fun _ => .pure _) fun _ => hrun _ _
  · intro s s' r hI h
    obtain ⟨row, t, hinsert, h⟩ := Tx.bind_ok.mp h
    obtain ⟨-, -, rfl⟩ := insertCommand_ok hinsert
    exact hrun _ _ _ _ _ (hinbox s _ hI) h

/-- What no handler writes, and the inbox does not show, a command leaves as it is. -/
theorem applyMasterCommand_same {γ : Type} {f : Db → γ}
    (hinbox : ∀ db x, f { db with inbox := x } = f db)
    (hp : ∀ db x, f { db with products := x } = f db)
    (hs : ∀ db x, f { db with serials := x } = f db)
    (ht : ∀ db x, f { db with transfers := x } = f db)
    (hi : ∀ db x, f { db with transferItems := x } = f db)
    (hr : ∀ db x, f { db with receipts := x } = f db)
    (ho : ∀ db x n, f { db with outbox := x, outboxSequence := n } = f db) (rt : Runtime)
    (st : Settings) (now : Instant) (uuid : PyStr) (command : List (PyStr × Json)) (db : Db) :
    Tx.Preserves (fun t => f t = f db) (applyMasterCommand rt st now uuid command) := by
  have hkeeps : ∀ {α : Type} {x : Tx α}, Tx.Keeps f x → Tx.Preserves (fun t => f t = f db) x :=
    fun h => .of_keeps h fun _ _ he hsame => he.trans hsame
  refine applyMasterCommand_preserves (fun t x h => (hinbox t x).trans h) ?_ ?_ ?_ ?_ ?_ ?_ command
  · exact fun payload => hkeeps (applyTransferAvailableCommand_keeps hp hs ht hi rt st now payload)
  · exact fun payload => hkeeps (applyTransferReceiptCommand_keeps hs ht hi rt now payload)
  · exact fun payload => hkeeps (applyReceiptReviewCommand_keeps hr rt payload)
  · exact fun payload => hkeeps (applyQrAllocatedCommand_keeps hp hs rt st now payload)
  · exact fun payload id => hkeeps (applyQrReplaceCommand_keeps hs ho st now uuid payload id)
  · exact fun payload => hkeeps (applyProductUpsertCommand_keeps hp rt st payload)

end SetuoraLite
