import SetuoraLite.Stock.Incoming
import SetuoraLite.Stock.Ready

/-!
# Keys

What the database enforces by itself: ids and natural keys are unique, foreign keys
point at stored rows, and the ids of the tables that nothing is deleted from ascend.

`Keys` is all of it that a write could touch, so that an update, which changes no key,
keeps `Keyed` for free. Each insert has its lemma, and `stock_keyed` carries `Keyed`
over every run.
-/

namespace SetuoraLite

open Lib

/-- The key columns of the tables. -/
structure Keys where
  productIds : List Nat
  serialIds : List Nat
  serialNumbers : List PyStr
  batchIds : List Nat
  itemIds : List Nat
  itemSerials : List (Nat × Nat)
  transactionIds : List Nat
  transferIds : List Nat
  transferUuids : List PyStr
  transferItemIds : List Nat
  manifests : List (Nat × PyStr)
  transferSerials : List Nat
  outboxIds : List Nat

/-- The keys as they are stored. -/
def Db.keys (db : Db) : Keys where
  productIds := db.products.map (·.id)
  serialIds := db.serials.map (·.id)
  serialNumbers := db.serials.map (·.serialNumber)
  batchIds := db.batches.map (·.id)
  itemIds := db.batchItems.map (·.id)
  itemSerials := db.batchItems.map fun i => (i.batchId, i.serialId)
  transactionIds := db.transactions.map (·.id)
  transferIds := db.transfers.map (·.id)
  transferUuids := db.transfers.map (·.transferUuid)
  transferItemIds := db.transferItems.map (·.id)
  manifests := db.transferItems.map fun i => (i.transferId, i.manifestSerialNumber)
  transferSerials := db.transferItems.filterMap (·.serialId)
  outboxIds := db.outbox.map (·.id)

/-- The constraints of the database. -/
structure Keys.Valid (k : Keys) : Prop where
  products : k.productIds.Nodup
  serials : k.serialIds.Nodup
  serialNumbers : k.serialNumbers.Nodup
  batches : k.batchIds.Nodup
  items : k.itemIds.Nodup
  itemSerials : k.itemSerials.Nodup
  itemBatch : ∀ p ∈ k.itemSerials, p.1 ∈ k.batchIds
  itemSerial : ∀ p ∈ k.itemSerials, p.2 ∈ k.serialIds
  transactions : k.transactionIds.Pairwise (· < ·)
  transfers : k.transferIds.Nodup
  transferUuids : k.transferUuids.Nodup
  transferItems : k.transferItemIds.Nodup
  manifests : k.manifests.Nodup
  transferItem : ∀ p ∈ k.manifests, p.1 ∈ k.transferIds
  transferSerial : ∀ n ∈ k.transferSerials, n ∈ k.serialIds
  outbox : k.outboxIds.Pairwise (· < ·)

/-- A database whose constraints hold. -/
abbrev Db.Keyed (db : Db) : Prop := db.keys.Valid

/-- A new installation has no rows at all. -/
example : Db.empty.Keyed := by
  constructor <;> simp [Db.keys, Db.empty]

variable {db db' : Db}

/-! ## Reading by key -/

namespace Keys.Valid

/-- A stored serial is found by its id. -/
theorem serial_of_mem (h : db.Keyed) {s : Serial} (hs : s ∈ db.serials) : db.serial s.id = some s :=
  lookup_of_mem h.serials hs

/-- Serials are known by their ids. -/
theorem serial_eq (h : db.Keyed) {s s' : Serial} (hs : s ∈ db.serials) (hs' : s' ∈ db.serials)
    (he : s.id = s'.id) : s = s' :=
  eq_of_key_eq (show (db.serials.map (·.id)).Nodup from h.serials) hs hs' he

/-- Batches are known by their ids. -/
theorem batch_eq (h : db.Keyed) {b b' : Batch} (hb : b ∈ db.batches) (hb' : b' ∈ db.batches)
    (he : b.id = b'.id) : b = b' :=
  eq_of_key_eq (show (db.batches.map (·.id)).Nodup from h.batches) hb hb' he

/-- Transfers are known by their ids. -/
theorem transfer_eq (h : db.Keyed) {t t' : LocalTransfer} (ht : t ∈ db.transfers)
    (ht' : t' ∈ db.transfers) (he : t.id = t'.id) : t = t' :=
  eq_of_key_eq (show (db.transfers.map (·.id)).Nodup from h.transfers) ht ht' he

/-- The batch of a stored item is stored: no row of `batches` is ever deleted. -/
theorem item_batch (h : db.Keyed) {i : BatchItem} (hi : i ∈ db.batchItems) :
    ∃ b ∈ db.batches, b.id = i.batchId :=
  List.mem_map.mp (h.itemBatch _ (List.mem_map_of_mem hi))

/-- The serial of a stored item is stored. -/
theorem item_serial (h : db.Keyed) {i : BatchItem} (hi : i ∈ db.batchItems) :
    ∃ s ∈ db.serials, s.id = i.serialId :=
  List.mem_map.mp (h.itemSerial _ (List.mem_map_of_mem hi))

/-- The transfer of a stored item is stored. -/
theorem item_transfer (h : db.Keyed) {i : LocalTransferItem} (hi : i ∈ db.transferItems) :
    ∃ t ∈ db.transfers, t.id = i.transferId :=
  List.mem_map.mp (h.transferItem _ (List.mem_map_of_mem hi))

end Keys.Valid

/-! ## Updates -/

section Updates

variable {α : Type} {x : Tx α}

/-- What keeps the keys keeps the constraints. -/
theorem keyed_of_keeps (h : Tx.Keeps Db.keys x) : Tx.Preserves Db.Keyed x :=
  .of_keeps h fun _ _ he hk => (congrArg Keys.Valid he).mpr hk

/-- A product is written over under its own id. -/
theorem updateProduct_keys (new : Product) : Tx.Keeps Db.keys (updateProduct new) := by
  refine .bind (.raiseIf _ _) fun _ => .modify fun db => ?_
  have hids : (modifyRow (·.id) new.id new.overwritten db.products).map (·.id) =
      db.products.map (·.id) :=
    map_modifyRow fun _ _ _ => rfl
  unfold Db.keys
  rw [hids]

/-- A serial's other columns are no keys. -/
theorem updateSerial_keys (id : Nat) (change : Serial → Serial) :
    Tx.Keeps Db.keys (updateSerial id change) := by
  refine .modify fun db => ?_
  have hids : (modifyRow (·.id) id (Serial.changed change) db.serials).map (·.id)
      = db.serials.map (·.id) := map_modifyRow fun _ _ _ => rfl
  have hnumbers : (modifyRow (·.id) id (Serial.changed change) db.serials).map (·.serialNumber)
      = db.serials.map (·.serialNumber) := map_modifyRow fun _ _ _ => rfl
  unfold Db.keys
  rw [hids, hnumbers]

/-- A conditional update of the status is an update of a serial. -/
theorem claimSerial_keys (id : Nat) (statusFrom statusTo : SerialStatus) (e : PyError) :
    Tx.Keeps Db.keys (claimSerial id statusFrom statusTo e) :=
  .bind (.reads _) fun _ => .bind (.raiseIf _ _) fun _ => updateSerial_keys _ _

/-- A batch gets a new status under its own id. -/
theorem updateBatch_keys (id : Nat) (status : BatchStatus) (submittedAt : Option Instant) :
    Tx.Keeps Db.keys (updateBatch id status submittedAt) := by
  refine .bind (.reads _) fun _ => .bind (.raiseIf _ _) fun _ => .modify fun db => ?_
  have hids : (modifyRow (·.id) id (Batch.changed status submittedAt) db.batches).map (·.id)
      = db.batches.map (·.id) := map_modifyRow fun _ _ _ => rfl
  unfold Db.keys
  rw [hids]

/-- Rates and shelf columns are no keys. -/
theorem updateBatchItem_keys (id : Nat) (change : BatchItem → BatchItem) :
    Tx.Keeps Db.keys (updateBatchItem id change) := by
  refine .bind (.reads _) fun _ => .bind (.raiseIf _ _) fun _ => .modify fun db => ?_
  have hids : (modifyRow (·.id) id (BatchItem.changed change) db.batchItems).map (·.id)
      = db.batchItems.map (·.id) := map_modifyRow fun _ _ _ => rfl
  have hserials : (modifyRow (·.id) id (BatchItem.changed change) db.batchItems).map
      (fun i => (i.batchId, i.serialId)) = db.batchItems.map fun i => (i.batchId, i.serialId) :=
    map_modifyRow fun _ _ _ => rfl
  unfold Db.keys
  rw [hids, hserials]

/-- A transfer's status and instants are no keys. -/
theorem updateTransfer_keys (id : Nat) (change : LocalTransfer → LocalTransfer) :
    Tx.Keeps Db.keys (updateTransfer id change) := by
  refine .modify fun db => ?_
  have hids : (modifyRow (·.id) id (LocalTransfer.changed change) db.transfers).map (·.id)
      = db.transfers.map (·.id) := map_modifyRow fun _ _ _ => rfl
  have huuids : (modifyRow (·.id) id (LocalTransfer.changed change) db.transfers).map
      (·.transferUuid)
      = db.transfers.map (·.transferUuid) := map_modifyRow fun _ _ _ => rfl
  unfold Db.keys
  rw [hids, huuids]

/-- What was received of an item is no key. -/
theorem updateTransferItem_keys (id : Nat) (change : LocalTransferItem → LocalTransferItem) :
    Tx.Keeps Db.keys (updateTransferItem id change) := by
  refine .modify fun db => ?_
  have hkept : ∀ {β : Type} (f : LocalTransferItem → β), (∀ r, f (r.changed change) = f r) →
      (modifyRow (·.id) id (LocalTransferItem.changed change) db.transferItems).map f
        = db.transferItems.map f := fun f hf => map_modifyRow fun r _ _ => hf r
  have hserials :
      (modifyRow (·.id) id (LocalTransferItem.changed change) db.transferItems).filterMap
      (·.serialId) = db.transferItems.filterMap (·.serialId) := by
    have h := congrArg (List.filterMap fun n : Option Nat => n) (hkept (·.serialId) fun _ => rfl)
    simpa [List.filterMap_map] using h
  unfold Db.keys
  rw [hserials, hkept (·.id) fun _ => rfl,
    hkept (fun i => (i.transferId, i.manifestSerialNumber)) fun _ => rfl]

end Updates

/-! ## Inserts and deletes -/

/-- A product under the next id, which no product has. -/
theorem Keys.Valid.withProduct (h : db.Keyed) {p : Product}
    (hid : p.id = nextId (·.id) db.products) :
    Db.Keyed { db with products := db.products ++ [p] } := by
  refine { h with products := ?_ }
  show ((db.products ++ [p]).map (·.id)).Nodup
  rw [List.map_append, List.map_singleton, hid]
  exact nodup_snoc h.products (nextId_notMem _ _)

/-- Inserting a product keeps the constraints. -/
theorem insertProduct_keyed (row : Nat → Product) (hrow : ∀ n, (row n).id = n) :
    Tx.Preserves Db.Keyed (insertProduct row) := by
  intro db db' p h hx
  obtain ⟨rfl, -, rfl⟩ := insertProduct_ok hx
  exact h.withProduct (hrow _)

/-- Serials may be added, not taken away. -/
theorem Keys.Valid.withSerials (h : db.Keyed) {serials : List Serial}
    (hids : (serials.map (·.id)).Nodup) (hnumbers : (serials.map (·.serialNumber)).Nodup)
    (hsub : ∀ n ∈ db.serials.map (·.id), n ∈ serials.map (·.id)) :
    Db.Keyed { db with serials := serials } :=
  { h with
    serials := hids
    serialNumbers := hnumbers
    itemSerial := fun p hp => hsub _ (h.itemSerial p hp)
    transferSerial := fun n hn => hsub _ (h.transferSerial n hn) }

/-- A serial under the next id and an unused number. -/
theorem Keys.Valid.withSerial (h : db.Keyed) {s : Serial} (hid : s.id = nextId (·.id) db.serials)
    (hunused : ∀ q ∈ db.serials, q.serialNumber ≠ s.serialNumber) :
    Db.Keyed { db with serials := db.serials ++ [s] } := by
  refine h.withSerials ?_ ?_ ?_
  · rw [List.map_append, List.map_singleton, hid]
    exact nodup_snoc h.serials (nextId_notMem _ _)
  · rw [List.map_append, List.map_singleton]
    refine nodup_snoc h.serialNumbers fun hmem => ?_
    obtain ⟨q, hq, he⟩ := List.mem_map.mp hmem
    exact hunused q hq he
  · intro n hn
    rw [List.map_append]
    exact List.mem_append_left _ hn

/-- The unique constraint on the number is what makes a second insert fail. -/
theorem insertSerial_keyed (row : Nat → Serial) (hrow : ∀ n, (row n).id = n) :
    Tx.Preserves Db.Keyed (insertSerial row) := by
  intro db db' s h hx
  obtain ⟨rfl, hunused, rfl⟩ := insertSerial_ok hx
  exact h.withSerial (hrow _) hunused

/-- Inserting a batch keeps the constraints. -/
theorem insertBatch_keyed (row : Batch) : Tx.Preserves Db.Keyed (insertBatch row) := by
  intro db db' u h hx
  obtain ⟨-, rfl⟩ := insertBatch_ok hx
  refine { h with batches := ?_, itemBatch := ?_ }
  · show ((db.batches ++ [_]).map fun r : Batch => r.id).Nodup
    rw [List.map_append, List.map_singleton]
    exact nodup_snoc h.batches (nextId_notMem _ _)
  · intro p hp
    show p.1 ∈ (db.batches ++ [_]).map fun r : Batch => r.id
    rw [List.map_append]
    exact List.mem_append_left _ (h.itemBatch p hp)

/-- Both foreign keys and the unique pair are checked at the insert. -/
theorem insertBatchItem_keyed (row : BatchItem) : Tx.Preserves Db.Keyed (insertBatchItem row) := by
  intro db db' u h hx
  obtain ⟨⟨hbatch, hserial⟩, hfresh, rfl⟩ := insertBatchItem_ok hx
  -- The pairs of the batch items with one more.
  have hadded : ∀ (n : Nat) (p : Nat × Nat),
      p ∈ (db.batchItems ++ [{ row with id := n }]).map
          (fun i : BatchItem => (i.batchId, i.serialId)) →
        p ∈ db.keys.itemSerials ∨ p = (row.batchId, row.serialId) := by
    intro n p hp
    rw [List.map_append, List.mem_append] at hp
    exact hp.imp id fun h => List.mem_singleton.mp h
  refine { h with items := ?_, itemSerials := ?_, itemBatch := ?_, itemSerial := ?_ }
  -- A new id, and a pair of batch and serial that was not there.
  · show ((db.batchItems ++ [_]).map fun r : BatchItem => r.id).Nodup
    rw [List.map_append, List.map_singleton]
    exact nodup_snoc h.items (nextId_notMem _ _)
  · show ((db.batchItems ++ [_]).map fun i : BatchItem => (i.batchId, i.serialId)).Nodup
    rw [List.map_append, List.map_singleton]
    refine nodup_snoc h.itemSerials fun hmem => ?_
    obtain ⟨i, hi, he⟩ := List.mem_map.mp hmem
    obtain ⟨h₁, h₂⟩ := Prod.mk.inj he
    exact hfresh i hi h₁ h₂
  -- The new row points at a batch and a unit that the insert looked up.
  · intro p hp
    rcases hadded _ p hp with hp | rfl
    · exact h.itemBatch p hp
    · obtain ⟨b, hb⟩ := Option.ne_none_iff_exists'.mp hbatch
      obtain ⟨hmem, hid⟩ := lookup_some hb
      exact List.mem_map.mpr ⟨b, hmem, hid⟩
  · intro p hp
    rcases hadded _ p hp with hp | rfl
    · exact h.itemSerial p hp
    · obtain ⟨s, hs⟩ := Option.ne_none_iff_exists'.mp hserial
      obtain ⟨hmem, hid⟩ := lookup_some hs
      exact List.mem_map.mpr ⟨s, hmem, hid⟩

/-- Nothing refers to a batch item, so deleting one breaks no constraint. -/
theorem deleteBatchItem_keyed (id : Nat) : Tx.Preserves Db.Keyed (deleteBatchItem id) := by
  refine .modify fun db h => ?_
  have hsub : (db.batchItems.filter fun i => i.id ≠ id).Sublist db.batchItems := List.filter_sublist
  exact { h with
    items := h.items.sublist (hsub.map _)
    itemSerials := h.itemSerials.sublist (hsub.map _)
    itemBatch := fun p hp => h.itemBatch p ((hsub.map _).subset hp)
    itemSerial := fun p hp => h.itemSerial p ((hsub.map _).subset hp) }

/-- The log grows at its end only. -/
theorem insertInventoryTransaction_keyed (row : InventoryTransaction) :
    Tx.Preserves Db.Keyed (insertInventoryTransaction row) := by
  refine .modify fun db h => { h with transactions := ?_ }
  show ((db.transactions ++ [_]).map fun r : InventoryTransaction => r.id).Pairwise (· < ·)
  rw [List.map_append, List.map_singleton]
  exact sorted_append_nextId h.transactions

/-- A transfer under the next id and an unused UUID. -/
theorem Keys.Valid.withTransfer (h : db.Keyed) {t : LocalTransfer}
    (hid : t.id = nextId (·.id) db.transfers)
    (hunused : ∀ q ∈ db.transfers, q.transferUuid ≠ t.transferUuid) :
    Db.Keyed { db with transfers := db.transfers ++ [t] } := by
  refine { h with transfers := ?_, transferUuids := ?_, transferItem := ?_ }
  · show ((db.transfers ++ [t]).map (·.id)).Nodup
    rw [List.map_append, List.map_singleton, hid]
    exact nodup_snoc h.transfers (nextId_notMem _ _)
  · show ((db.transfers ++ [t]).map (·.transferUuid)).Nodup
    rw [List.map_append, List.map_singleton]
    refine nodup_snoc h.transferUuids fun hmem => ?_
    obtain ⟨q, hq, he⟩ := List.mem_map.mp hmem
    exact hunused q hq he
  · intro p hp
    show p.1 ∈ (db.transfers ++ [t]).map (·.id)
    rw [List.map_append]
    exact List.mem_append_left _ (h.transferItem p hp)

/-- Inserting a transfer keeps the constraints. -/
theorem insertTransfer_keyed (row : Nat → LocalTransfer) (hrow : ∀ n, (row n).id = n) :
    Tx.Preserves Db.Keyed (insertTransfer row) := by
  intro db db' t h hx
  obtain ⟨rfl, hunused, rfl⟩ := insertTransfer_ok hx
  exact h.withTransfer (hrow _) hunused

/-- The transfer and the serial of an item have to be there; the insert does not look. -/
theorem Keys.Valid.withTransferItem (h : db.Keyed) {i : LocalTransferItem}
    (hid : i.id = nextId (·.id) db.transferItems)
    (htransfer : ∃ t ∈ db.transfers, t.id = i.transferId)
    (hserial : ∀ m ∈ i.serialId, ∃ s ∈ db.serials, s.id = m)
    (hunused : ∀ q ∈ db.transferItems, q.transferId = i.transferId →
      q.manifestSerialNumber ≠ i.manifestSerialNumber) :
    Db.Keyed { db with transferItems := db.transferItems ++ [i] } := by
  refine { h with transferItems := ?_, manifests := ?_, transferItem := ?_, transferSerial := ?_ }
  -- The id is new, and so is the number within the transfer.
  · show ((db.transferItems ++ [i]).map (·.id)).Nodup
    rw [List.map_append, List.map_singleton, hid]
    exact nodup_snoc h.transferItems (nextId_notMem _ _)
  · show ((db.transferItems ++ [i]).map fun r => (r.transferId, r.manifestSerialNumber)).Nodup
    rw [List.map_append, List.map_singleton]
    refine nodup_snoc h.manifests fun hmem => ?_
    obtain ⟨q, hq, he⟩ := List.mem_map.mp hmem
    obtain ⟨h₁, h₂⟩ := Prod.mk.inj he
    exact hunused q hq h₁ h₂
  -- The references: those of the old rows and of the new one.
  · intro p hp
    have hp' : p ∈ (db.transferItems ++ [i]).map fun r =>
        (r.transferId, r.manifestSerialNumber) := hp
    rw [List.map_append, List.mem_append] at hp'
    rcases hp' with hp | hp
    · exact h.transferItem p hp
    · rw [List.mem_singleton.mp hp]
      exact List.mem_map.mpr htransfer
  · intro n hn
    have hn' : n ∈ (db.transferItems ++ [i]).filterMap (·.serialId) := hn
    rw [List.filterMap_append, List.mem_append] at hn'
    rcases hn' with hn | hn
    · exact h.transferSerial n hn
    · obtain ⟨q, hq, hserialId⟩ := List.mem_filterMap.mp hn
      rw [List.mem_singleton.mp hq] at hserialId
      exact List.mem_map.mpr (hserial n hserialId)

/-- Nothing refers to a transfer item. -/
theorem deleteTransferItem_keyed (id : Nat) : Tx.Preserves Db.Keyed (deleteTransferItem id) := by
  refine .modify fun db h => ?_
  have hsub : (db.transferItems.filter fun i => i.id ≠ id).Sublist db.transferItems :=
    List.filter_sublist
  exact { h with
    transferItems := h.transferItems.sublist (hsub.map _)
    manifests := h.manifests.sublist (hsub.map _)
    transferItem := fun p hp => h.transferItem p ((hsub.map _).subset hp)
    transferSerial := fun n hn => h.transferSerial n ((hsub.filterMap _).subset hn) }

/-- An event gets the id after the counter, above every id before it. -/
theorem enqueueOutboxEvent_keyed (st : Settings) (uuid : PyStr) (now : Instant)
    (r : EnqueueRequest) :
    Tx.Preserves Db.Keyed (enqueueOutboxEvent st uuid now r) := by
  intro db db' row h hx
  obtain ⟨hcolumns, -, -, rfl, -⟩ := enqueueOutboxEvent_ok hx
  refine { h with outbox := ?_ }
  show ((db.outbox ++ [row]).map (·.id)).Pairwise (· < ·)
  rw [List.map_append, List.map_singleton, List.pairwise_append]
  refine ⟨h.outbox, List.pairwise_singleton _ _, ?_⟩
  intro k hk n hn
  obtain ⟨old, hold, rfl⟩ := List.mem_map.mp hk
  have hid : row.id = nextOutboxId db := by rw [hcolumns]; rfl
  rw [List.mem_singleton.mp hn, hid]
  exact lt_nextOutboxId hold

/-! ## Requests -/

section Requests

/-- The keys do not show these tables. -/
private theorem scanLogs_keys (db : Db) (x : List ScanLog) :
    Db.keys { db with scanLogs := x } = Db.keys db := rfl

/-- A scanned item and its log. -/
theorem addItem_keyed (item : BatchItem) (log : ScanLog) :
    Tx.Preserves Db.Keyed (addItem item log) :=
  .bind (insertBatchItem_keyed item) fun _ => keyed_of_keeps (insertScanLog_keeps scanLogs_keys _)

/-- Shelf verification updates an item and its serial. -/
theorem verifyItem_keys (location : StorageLocation) (user : User) (now : Instant)
    (l : LoadedItem) :
    Tx.Keeps Db.keys (verifyItem location user now l) :=
  .bind (updateBatchItem_keys _ _) fun _ => updateSerial_keys _ _

/-- Placing a returned unit updates a serial and a log. -/
theorem placeReturn_keys (location : StorageLocation) (log : ScanLog) :
    Tx.Keeps Db.keys (placeReturn location log) := by
  refine .bind (updateScanLog_keeps scanLogs_keys _ _ _) fun _ => ?_
  split
  · exact updateSerial_keys _ _
  · exact .pure _

/-- Submitting an item updates rows and logs the change. -/
theorem submitItem_keyed (user : User) (now : Instant) (batch : Batch) (l : LoadedItem) :
    Tx.Preserves Db.Keyed (submitItem user now batch l) := by
  have hclaim : Tx.Keeps Db.keys (claimForBatch batch l.serial) :=
    .ite (.pure _) (claimSerial_keys _ _ _ _)
  have hfreeze : Tx.Keeps Db.keys (freezeItem batch l) := .ite (updateBatchItem_keys _ _) (.pure _)
  exact .bind (keyed_of_keeps hclaim) fun _ => .bind (keyed_of_keeps hfreeze) fun _ =>
    .bind (keyed_of_keeps (insertScanLog_keeps scanLogs_keys _)) fun _ =>
      insertInventoryTransaction_keyed _

/-- Submitting a batch: its items, its status and its event. -/
theorem submit_keyed (s : Submitter) (loaded : LoadedBatch) :
    Tx.Preserves Db.Keyed (submit s loaded) :=
  .bind (.each fun _ _ => submitItem_keyed _ _ _ _) fun _ =>
    .bind (keyed_of_keeps (updateBatch_keys _ _ _)) fun _ =>
      .bind (.bind (.lift _) fun _ => enqueueOutboxEvent_keyed _ _ _ _) fun _ => .pure _

/-- An event about a transfer. -/
theorem enqueueTransferEvent_keyed (eventType : PyStr) (s : Submitter) (transfer : LocalTransfer)
    (destination : Option PyStr) (items : List LoadedTransferItem) :
    Tx.Preserves Db.Keyed (enqueueTransferEvent eventType s transfer destination items) :=
  .bind (.reads _) fun _ => .bind (.lift _) fun _ => enqueueOutboxEvent_keyed _ _ _ _

/-- Dispatching a transfer: its items, its status and its event. -/
theorem dispatch_keyed (s : Submitter) (loaded : LoadedTransfer) :
    Tx.Preserves Db.Keyed (dispatch s loaded) := by
  have hitem : ∀ i, Tx.Preserves Db.Keyed (dispatchItem s.user loaded.transfer i) := fun i =>
    .bind (.lift _) fun _ => .bind (keyed_of_keeps (claimSerial_keys _ _ _ _)) fun _ =>
      insertInventoryTransaction_keyed _
  exact .mapError (.bind (.each fun i _ => hitem i) fun _ =>
    .bind (keyed_of_keeps (updateTransfer_keys _ _)) fun _ =>
      .bind (enqueueTransferEvent_keyed _ _ _ _ _) fun _ => .pure _) _

/-- Receiving a transfer: its items, its status and its event. -/
theorem receive_keyed (s : Submitter) (loaded : LoadedTransfer) :
    Tx.Preserves Db.Keyed (receive s loaded) := by
  have hitem : ∀ i, Tx.Preserves Db.Keyed (receiveItem s loaded.transfer i) := fun i =>
    .bind (.lift _) fun _ => .bind (keyed_of_keeps (claimSerial_keys _ _ _ _)) fun _ =>
      .bind (keyed_of_keeps (updateTransferItem_keys _ _)) fun _ =>
        insertInventoryTransaction_keyed _
  exact .mapError (.bind (.each fun i _ => hitem i) fun _ =>
    .bind (keyed_of_keeps (updateTransfer_keys _ _)) fun _ =>
      .bind (enqueueTransferEvent_keyed _ _ _ _ _) fun _ => .pure _) _

/-- Every transaction keeps the constraints; only an added transfer item has to bring its
transfer and its serial. -/
theorem writesOf_keyed {c : StockCommit} {u : PUnit} (h : db.Keyed)
    (hadd : ∀ row, c = .addTransferItem row → (∃ t ∈ db.transfers, t.id = row.transferId) ∧
      ∀ m ∈ row.serialId, ∃ s ∈ db.serials, s.id = m)
    (hx : writesOf c db = (.ok u, db')) : db'.Keyed := by
  -- By the write; whatever inserts or deletes no row keeps the keys as it keeps the columns.
  cases c with
  | createBatch row => exact insertBatch_keyed row db db' u h hx
  | logScan row => exact keyed_of_keeps (insertScanLog_keeps scanLogs_keys _) db db' u h hx
  | scanItem item log => exact addItem_keyed item log db db' u h hx
  | pickItems picks => exact Tx.Preserves.each (fun p _ => addItem_keyed p.1 p.2) db db' u h hx
  | removeItem itemId => exact deleteBatchItem_keyed itemId db db' u h hx
  | setRates items rate =>
    exact keyed_of_keeps (.each (fun _ => updateBatchItem_keys _ _) _) db db' u h hx
  | verifyShelf batch pending location user now =>
    exact keyed_of_keeps (.bind (.each (verifyItem_keys location user now) _) fun _ =>
      insertScanLog_keeps scanLogs_keys _) db db' u h hx
  | returnItem itemId log =>
    exact Tx.Preserves.bind (deleteBatchItem_keyed itemId) (fun _ =>
      keyed_of_keeps (insertScanLog_keeps scanLogs_keys _)) db db' u h hx
  | verifyReturn batch pending location user now =>
    exact keyed_of_keeps (.bind (.each (placeReturn_keys location) _) fun _ =>
      insertScanLog_keeps scanLogs_keys _) db db' u h hx
  | submit s loaded => exact submit_keyed s loaded db db' u h hx
  | createTransfer row =>
    exact Tx.Preserves.bind (insertTransfer_keyed _ fun _ => rfl) (fun _ => .pure _) db db' u h hx
  | addTransferItem row =>
    obtain ⟨i, t, hinsert, hx⟩ := Tx.bind_ok.mp hx
    obtain ⟨-, rfl⟩ := Tx.pure_ok.mp hx
    obtain ⟨htransfer, hserial⟩ := hadd row rfl
    obtain ⟨rfl, hunused, rfl⟩ := insertTransferItem_ok hinsert
    exact h.withTransferItem rfl htransfer hserial hunused
  | removeTransferItem itemId => exact deleteTransferItem_keyed itemId db db' u h hx
  | dispatch s loaded => exact dispatch_keyed s loaded db db' u h hx
  | scanTransferItem item now =>
    exact keyed_of_keeps (.bind (.reads _) fun _ => .bind (.raiseIf _ _) fun _ =>
      updateTransferItem_keys _ _) db db' u h hx
  | receive s loaded => exact receive_keyed s loaded db db' u h hx

/-- A ready commit keeps the constraints. -/
theorem ready_keyed {rt : Runtime} {c : StockCommit} {u : PUnit} (h : db.Keyed)
    (hready : Ready rt c db) (hx : writesOf c db = (.ok u, db')) : db'.Keyed := by
  refine writesOf_keyed h ?_ hx
  rintro row rfl
  obtain ⟨transfer, serial, product, htransfer, -, -, rfl, hserial, -⟩ := hready
  obtain ⟨hmem, hid⟩ := lookup_some htransfer
  refine ⟨⟨transfer, hmem, hid⟩, ?_⟩
  intro m hm
  exact ⟨serial, hserial, Option.some.inj hm⟩

end Requests

/-! ## Relocations and commands -/

/-- Moving a unit updates it and logs the change. -/
theorem moveSerial_keyed (m : Move) (destination : StorageLocation) (relocationId : Nat)
    (reference note : PyStr) (s : Serial) :
    Tx.Preserves Db.Keyed (moveSerial m destination relocationId reference note s) :=
  .bind (keyed_of_keeps (updateSerial_keys _ _)) fun _ =>
    .bind (keyed_of_keeps (insertRelocationSerial_keeps (fun _ _ => rfl) _ _)) fun _ =>
      .bind (keyed_of_keeps (insertScanLog_keeps (fun _ _ => rfl) _)) fun _ =>
        insertInventoryTransaction_keyed _

/-- The events of a move, part by part. -/
theorem enqueueMoved_keyed (st : Settings) (m : Move) (destination : StorageLocation)
    (reference : PyStr) (chunks : List (List Serial)) :
    ∀ part, Tx.Preserves Db.Keyed (enqueueMoved st m destination reference part chunks) := by
  induction chunks with
  | nil => exact fun _ => .pure _
  | cons chunk chunks ih =>
    exact fun part => .bind (.reads _) fun _ => .bind (.lift _) fun _ =>
      .bind (enqueueOutboxEvent_keyed _ _ _ _) fun _ => ih _

/-- A move between locations keeps the constraints. -/
theorem relocateStock_keyed (st : Settings) (m : Move) :
    Tx.Preserves Db.Keyed (relocateStock st m) := by
  have hline : ∀ destination claimed item reference,
      Tx.Preserves Db.Keyed (moveLine m destination claimed item reference) := fun _ _ _ _ =>
    .bind (.lift _) fun _ => .bind (.reads _) fun _ => .bind (.raiseIf _ _) fun _ =>
      .bind (.raiseIf _ _) fun _ =>
        .bind (keyed_of_keeps (insertRelocation_keeps (fun _ _ => rfl) _))
        fun _ => .bind (.each fun _ _ => moveSerial_keyed _ _ _ _ _ _) fun _ => .pure _
  have hlines : ∀ destination (items : List (MoveItem × PyStr)) claimed,
      Tx.Preserves Db.Keyed (moveLines m destination claimed items) := by
    intro destination items
    induction items with
    | nil => exact fun _ => .pure _
    | cons line items ih => exact fun claimed => .bind (hline _ _ _ _) fun _ => ih _
  exact .bind (.reads _) fun _ => .bind (.lift _) fun _ => .bind (.raiseIf _ _) fun _ =>
    .mapError (.bind (hlines _ _ _) fun _ => enqueueMoved_keyed _ _ _ _ _ _) _

/-- A line of a manifest, with the serial that it brings or finds. -/
theorem manifestItem_keyed {transferId : Nat} {number : PyStr} (h : db.Keyed)
    (htransfer : ∃ t ∈ db.transfers, t.id = transferId)
    (hx : ManifestItemReceived transferId number db db') : db'.Keyed := by
  obtain ⟨⟨products, serials, s, p, harrives, hproducts, rfl⟩, hfresh⟩ := hx
  have hnumber : s.serialNumber = number := harrives.serialNumber
  -- The three tables one after the other: products, serials, transfer items.
  have hp : Db.Keyed { db with products := products } := by
    rcases hproducts with rfl | ⟨hid, rfl⟩
    · exact h
    · exact h.withProduct hid
  have hs : Db.Keyed { db with products := products, serials := serials } := by
    rcases harrives.keys with ⟨hids, hnumbers⟩ | ⟨rfl, hid, hunused⟩
    · exact hp.withSerials (hids ▸ h.serials) (hnumbers ▸ h.serialNumbers) fun n hn => hids ▸ hn
    · exact hp.withSerial hid hunused
  refine hs.withTransferItem rfl htransfer ?_ ?_
  · intro m hm
    exact ⟨s, harrives.mem, Option.some.inj hm⟩
  · intro q hq hq' he
    exact hfresh q hq hq' (he.trans hnumber)

/-- Every command of Master keeps the constraints, applied or refused. -/
theorem applyMasterCommand_keyed (rt : Runtime) (st : Settings) (now : Instant) (uuid : PyStr)
    (command : List (PyStr × Json)) :
    Tx.Preserves Db.Keyed (applyMasterCommand rt st now uuid command) := by
  refine applyMasterCommand_preserves (fun _ _ h => h) ?_ ?_ ?_ ?_ ?_ ?_ command
  · intro payload db db' u h hx
    obtain ⟨data, manifest, -, rfl | ⟨incoming, transfer, -, rfl, hfresh, hloop⟩⟩ :=
      applyTransferAvailableCommand_ok hx
    · exact h
    · -- The loop knows that the transfer of its items is stored.
      let I (t : Db) : Prop := t.Keyed ∧
        ∃ r ∈ t.transfers, r.id = nextId (fun t : LocalTransfer => t.id) db.transfers
      have hloop' : I db' := by
        refine receiveManifest_invariant (I := I) ?_ manifest [] _ _ _ ?_ hloop
        · rintro number d d' ⟨hd, htransfer⟩ hstep
          refine ⟨manifestItem_keyed hd htransfer hstep, ?_⟩
          obtain ⟨⟨_, _, _, _, -, -, rfl⟩, -⟩ := hstep
          exact htransfer
        · exact ⟨h.withTransfer rfl hfresh, _,
            List.mem_append_right _ (List.mem_singleton_self _), rfl⟩
      exact hloop'.1
  · intro payload
    exact keyed_of_keeps (receipt_keeps updateTransferItem_keys (fun _ => updateSerial_keys _ _)
      updateTransfer_keys rt now payload)
  · intro payload
    exact keyed_of_keeps (applyReceiptReviewCommand_keeps (fun _ _ => rfl) rt payload)
  · intro payload
    refine .bind (.lift _) fun _ => .bind (.lift _) fun _ => .bind (.lift _) fun _ =>
      .bind (.reads _) fun _ => .bind (.lift _) fun _ =>
        .bind (.bind (.reads _) fun _ => ?_) fun _ =>
        .each fun _ _ => .bind (insertSerial_keyed _ fun _ => rfl) fun _ => .pure _
    split
    · exact insertProduct_keyed _ fun _ => rfl
    · exact .bind (.lift _) fun _ => .bind (keyed_of_keeps (updateProduct_keys _)) fun _ => .pure _
    · exact .raise _
  · intro payload commandId
    exact .bind (.lift _) fun _ => .bind (.lift _) fun _ => .bind (.reads _) fun _ =>
      .bind (.lift _) fun _ =>
      .bind (insertSerial_keyed _ fun _ => rfl) fun _ =>
        .bind (keyed_of_keeps (updateSerial_keys _ _))
        fun _ => .bind (.reads _) fun _ => .bind (.lift _) fun _ => .bind (.lift _) fun _ =>
          .bind (enqueueOutboxEvent_keyed _ _ _ _) fun _ => .pure _
  · intro payload
    refine .bind (.lift _) fun _ => .bind (.lift _) fun u => .bind (.reads _) fun db => ?_
    split
    · exact .bind (insertProduct_keyed _ fun _ => rfl) fun _ => .pure _
    · exact keyed_of_keeps (updateProduct_keys _)
    · exact .raise _

/-! ## Runs -/

/-- An invariant on top of the constraints: what every ready commit, every relocation and
every command of a run keeps of it, the run keeps. -/
theorem keyed_invariant {rt : Runtime} {st : Settings} {I : Db → Prop} {P : StockAction → Prop}
    (hcommit : ∀ c db db', db.Keyed → I db → Ready rt c db → writesOf c db = (.ok ⟨⟩, db') → I db')
    (hrelocate : ∀ m db db' u, db.Keyed → I db → relocateStock st m db = (.ok u, db') → I db')
    (hcommand : ∀ now uuid command db db' u, P (.command now uuid command) → db.Keyed → I db →
      applyMasterCommand rt st now uuid command db = (.ok u, db') → I db')
    {as : List StockAction} (has : ∀ a ∈ as, P a) (hk : db.Keyed) (h : I db)
    (hexec : exec (stockMachine rt st) db as = some db') : db'.Keyed ∧ I db' := by
  let J : Db → Prop := fun db => db.Keyed ∧ I db
  have hids : ∀ db, J db → (db.serials.map (·.id)).Nodup := fun db h => h.1.serials
  refine stock_invariant (I := J) hids ?_ ?_ ?_ has ⟨hk, h⟩ hexec
  · rintro c db db' ⟨hk, h⟩ hready hx
    exact ⟨ready_keyed hk hready hx, hcommit c db db' hk h hready hx⟩
  · intro m
    exact (relocateStock_keyed st m).and (hrelocate m)
  · intro now uuid command hP
    exact (applyMasterCommand_keyed rt st now uuid command).and fun db db' u =>
      hcommand now uuid command db db' u hP

end SetuoraLite
