import SetuoraLite.Stock.Orders

/-!
# What a transaction does to batches and their items

A batch is opened, gains items, loses one, or leaves `DRAFT`; a transaction does one of
these or none. `writesOf_batchMove` says so of every transaction that a lone request
commits: items come and go while their batch is a draft, and only then.
-/

namespace SetuoraLite

open Lib

/-- The items of all batches, as item, batch and serial. -/
def Db.itemKeys (db : Db) : List (Nat × Nat × Nat) :=
  db.batchItems.map fun i => (i.id, i.batchId, i.serialId)

/-- The items that a transaction inserts. -/
def StockCommit.rows : StockCommit → List BatchItem
  | .scanItem item _ => [item]
  | .pickItems picks => picks.map Prod.fst
  | _ => []

/-- The item that a transaction deletes. -/
def StockCommit.drops : StockCommit → Option Nat
  | .removeItem itemId => some itemId
  | .returnItem itemId _ => some itemId
  | _ => none

/-- What the transaction has done to batches and items. -/
inductive BatchMove (c : StockCommit) (db db' : Db) : Prop
  | kept (batches : db'.batches = db.batches) (items : db'.itemKeys = db.itemKeys)
  | opened (row : Batch) (draft : row.status = .draft) (fresh : row.id = nextId (·.id) db.batches)
      (opens : ∃ new, c = .createBatch new ∧ row.batchType = new.batchType ∧
        row.auditAssignmentId = new.auditAssignmentId)
      (batches : db'.batches = db.batches ++ [row]) (items : db'.itemKeys = db.itemKeys)
  | added (batch : Batch) (draft : DraftBatch db batch) (keys : List (Nat × Nat × Nat))
      (rows : ∀ k ∈ keys, k.2.1 = batch.id ∧ (∀ i ∈ db.batchItems, i.id ≠ k.1) ∧
        ∃ i ∈ c.rows, k.2 = (i.batchId, i.serialId))
      (batches : db'.batches = db.batches) (items : db'.itemKeys = db.itemKeys ++ keys)
  | removed (batch : Batch) (draft : DraftBatch db batch) (item : BatchItem)
      (stored : item ∈ db.batchItems)
      (batchId : item.batchId = batch.id) (drops : c.drops = some item.id)
      (batches : db'.batches = db.batches)
      (items : db'.itemKeys = db.itemKeys.filter fun k => k.1 ≠ item.id)
  | submitted (s : Submitter) (loaded : LoadedBatch) (submits : c = .submit s loaded)
      (draft : DraftBatch db loaded.batch)
      (batches : db'.batches =
        modifyRow (·.id) loaded.batch.id (Batch.changed .pendingSync (some s.now)) db.batches)
      (items : db'.itemKeys = db.itemKeys)

variable {rt : Runtime} {db db' : Db} {α : Type}

/-! ## Items -/

/-- The batches and the keys of their items. -/
private def tables (db : Db) : List Batch × List (Nat × Nat × Nat) := (db.batches, db.itemKeys)

/-- Who writes neither the batches nor their items keeps the tables. -/
private theorem tables_of_keeps {x : Tx α}
    (h : Tx.Keeps (fun db => (db.batches, db.batchItems)) x) :
    Tx.Keeps tables x := by
  intro s
  have hs := h s
  obtain ⟨hbatches, hitems⟩ := Prod.mk.inj hs
  unfold tables Db.itemKeys
  rw [hbatches, hitems]

/-- An update of an item keeps its batch and its serial. -/
private theorem updateBatchItem_itemKeys (id : Nat) (change : BatchItem → BatchItem) :
    Tx.Keeps Db.itemKeys (updateBatchItem id change) :=
  .bind (.reads _) fun _ => .bind (.raiseIf _ _) fun _ => .modify fun _ =>
    map_modifyRow fun _ _ _ => rfl

/-- So it keeps the tables. -/
private theorem updateBatchItem_tables (id : Nat) (change : BatchItem → BatchItem) :
    Tx.Keeps tables (updateBatchItem id change) := by
  intro db
  have hkeys := updateBatchItem_itemKeys id change db
  have hbatches := updateBatchItem_keeps (f := Db.batches) (fun _ _ => rfl) id change db
  unfold tables
  rw [hkeys, hbatches]

/-- A commit that keeps the tables moves no batch. -/
private theorem moved_of_keeps {c : StockCommit} {x : Tx α} {a : α} (h : Tx.Keeps tables x)
    (hx : x db = (.ok a, db')) : BatchMove c db db' := by
  have hdb := h db
  rw [hx] at hdb
  obtain ⟨hbatches, hitems⟩ := Prod.mk.inj hdb
  exact .kept hbatches hitems

/-- An item with its log, as keys. -/
theorem addItem_keys {item : BatchItem} {log : ScanLog} {u : PUnit}
    (h : addItem item log db = (.ok u, db')) : db'.batches = db.batches ∧
      db'.itemKeys = db.itemKeys ++
          [(nextId (·.id) db.batchItems, item.batchId, item.serialId)] := by
  have hbatches := addItem_keeps (f := Db.batches) (fun _ _ => rfl) (fun _ _ => rfl) item log db
  rw [h] at hbatches
  refine ⟨hbatches, ?_⟩
  unfold Db.itemKeys
  rw [addItem_ok h, List.map_append]
  rfl

/-- The picked items, as keys; their ids were not in use. -/
theorem addItems_keys {picks : List (BatchItem × ScanLog)} {u : PUnit}
    (h : addItems picks db = (.ok u, db')) : db'.batches = db.batches ∧
      ∃ keys, db'.itemKeys = db.itemKeys ++ keys ∧ ∀ k ∈ keys, (∀ i ∈ db.batchItems, i.id ≠ k.1) ∧
        ∃ p ∈ picks, k.2 = (p.1.batchId, p.1.serialId) := by
  have hbatches := addItems_keeps (f := Db.batches) (fun _ _ => rfl) (fun _ _ => rfl) picks db
  rw [h] at hbatches
  refine ⟨hbatches, ?_⟩
  let I (t : Db) : Prop := ∃ keys, t.itemKeys = db.itemKeys ++ keys ∧ ∀ k ∈ keys,
    (∀ i ∈ db.batchItems, i.id ≠ k.1) ∧ ∃ p ∈ picks, k.2 = (p.1.batchId, p.1.serialId)
  have hstart : I db := ⟨[], by simp, fun k hk => absurd hk List.not_mem_nil⟩
  refine Tx.each_ok (I := I) (fun p hp t t' v ht hstep => ?_) hstart h
  obtain ⟨keys, hkeys, hrows⟩ := ht
  refine ⟨keys ++ [(nextId (·.id) t.batchItems, p.1.batchId, p.1.serialId)], ?_, fun k hk => ?_⟩
  · rw [(addItem_keys hstep).2, hkeys, List.append_assoc]
  · rcases List.mem_append.mp hk with hk | hk
    · exact hrows k hk
    · obtain rfl := List.mem_singleton.mp hk
      refine ⟨fun i hi => ?_, p, hp, rfl⟩
      -- The item is still there, and the next id is new.
      have hmem : (i.id, i.batchId, i.serialId) ∈ t.itemKeys := by
        rw [hkeys]
        exact List.mem_append_left _ (List.mem_map_of_mem hi)
      obtain ⟨j, hj, hkey⟩ := List.mem_map.mp hmem
      have hid : j.id = i.id := (Prod.mk.inj hkey).1
      exact hid ▸ nextId_fresh hj

/-- A deletion takes one item away. -/
private theorem deleteItem_keys (itemId : Nat) (db : Db) :
    Db.itemKeys { db with batchItems := db.batchItems.filter fun i => i.id ≠ itemId }
      = db.itemKeys.filter fun k => k.1 ≠ itemId := by
  unfold Db.itemKeys
  rw [List.filter_map]
  rfl

/-! ## Submission -/

/-- A submission gives the batch its new status, and leaves the items in it. -/
theorem submit_move {s : Submitter} {loaded : LoadedBatch} {u : PUnit}
    (hx : submit s loaded db = (.ok u, db')) :
    db'.batches =
        modifyRow (·.id) loaded.batch.id (Batch.changed .pendingSync (some s.now)) db.batches ∧
      db'.itemKeys = db.itemKeys := by
  have hprices : PricesItems Db.itemKeys :=
    ⟨fun _ _ => updateBatchItem_itemKeys _ _, fun _ _ => updateBatchItem_itemKeys _ _⟩
  have hitems := submit_keeps (.of_frame fun _ _ => rfl) hprices (fun _ _ => rfl) (fun _ _ => rfl)
    (fun _ _ => rfl)
    (fun _ _ _ => rfl) s loaded db
  rw [hx] at hitems
  refine ⟨?_, hitems⟩
  obtain ⟨_, t₁, h₁, hx⟩ := Tx.bind_ok.mp hx
  obtain ⟨_, t₂, h₂, hx⟩ := Tx.bind_ok.mp hx
  obtain ⟨_, t₃, h₃, hx⟩ := Tx.bind_ok.mp hx
  obtain ⟨-, rfl⟩ := Tx.pure_ok.mp hx
  have hloop :=
    Tx.Keeps.each (f := Db.batches) (fun l => submitItem_keeps (.of_frame fun _ _ => rfl)
    (.of_frame fun _ _ => rfl) (fun _ _ => rfl)
    (fun _ _ => rfl) s.user s.now loaded.batch l) loaded.items db
  rw [h₁] at hloop
  obtain ⟨-, rfl⟩ := updateBatch_ok h₂
  have hevent :=
    enqueueBatchSubmittedEvent_keeps (f := Db.batches) (fun _ _ _ => rfl) s loaded.batch
    (loaded.items.map (LoadedItem.submitted loaded.batch)) { t₁ with
      batches :=
        modifyRow (·.id) loaded.batch.id (Batch.changed .pendingSync (some s.now)) t₁.batches }
  rw [h₃] at hevent
  refine Eq.trans hevent ?_
  show modifyRow _ _ _ t₁.batches = _
  rw [show t₁.batches = db.batches from hloop]

/-! ## All of them -/

/-- What a transaction of a lone request does to batches and items. -/
theorem writesOf_batchMove {c : StockCommit} {u : PUnit} (hready : Ready rt c db)
    (hx : writesOf c db = (.ok u, db')) : BatchMove c db db' := by
  -- By the write: a new batch, items added, an item removed, a submission, or nothing of these.
  cases c with
  | createBatch row =>
    obtain ⟨-, rfl⟩ := insertBatch_ok hx
    exact .opened { row with id := nextId (·.id) db.batches } hready
      rfl ⟨row, rfl, rfl, rfl⟩ rfl rfl
  | logScan row =>
    exact moved_of_keeps (tables_of_keeps (insertScanLog_keeps (fun _ _ => rfl) row)) hx
  | scanItem item log =>
    obtain ⟨batch, serial, hdraft, rfl, -⟩ := hready
    obtain ⟨hbatches, hitems⟩ := addItem_keys hx
    refine .added batch hdraft _ (fun k hk => ?_) hbatches hitems
    obtain rfl := List.mem_singleton.mp hk
    exact ⟨rfl, fun i hi => nextId_fresh hi, _, List.mem_singleton_self _, rfl⟩
  | pickItems picks =>
    obtain ⟨batch, hdraft, -, hpicks⟩ := hready
    obtain ⟨hbatches, keys, hitems, hrows⟩ := addItems_keys hx
    refine .added batch hdraft keys (fun k hk => ?_) hbatches hitems
    obtain ⟨hfresh, p, hp, hkey⟩ := hrows k hk
    exact ⟨hkey ▸ (hpicks p hp).1, hfresh, p.1, List.mem_map_of_mem hp, hkey⟩
  | removeItem itemId =>
    obtain ⟨batch, hdraft, item, hitem, rfl, hof⟩ := hready
    have hdelete : deleteBatchItem item.id db = (.ok u, db') := hx
    obtain rfl := Tx.modify_ok.mp hdelete
    exact .removed batch hdraft item hitem hof rfl rfl (deleteItem_keys item.id db)
  | setRates items rate =>
    exact moved_of_keeps (.each (fun _ => updateBatchItem_tables _ _) _) hx
  | verifyShelf batch pending location user now =>
    refine moved_of_keeps (.bind (.each (fun _ => .bind (updateBatchItem_tables _ _) fun _ =>
      tables_of_keeps (updateSerial_keeps (fun _ _ => rfl) _ _)) _) fun _ =>
        tables_of_keeps (insertScanLog_keeps (fun _ _ => rfl) _)) hx
  | returnItem itemId log =>
    -- The item goes; the log that follows leaves the batches and their items alone.
    obtain ⟨batch, serial, item, hdraft, -, rfl, hitem, hof, -⟩ := hready
    obtain ⟨_, t, hdelete, hinsert⟩ := Tx.bind_ok.mp hx
    obtain rfl := Tx.modify_ok.mp hdelete
    rw [insertScanLog_ok hinsert]
    exact .removed batch hdraft item hitem hof rfl rfl (deleteItem_keys item.id db)
  | verifyReturn batch pending location user now =>
    exact moved_of_keeps
      (tables_of_keeps (verifyReturn_keeps (.of_frame fun _ _ => rfl) (fun _ _ => rfl) batch
      pending location user now)) hx
  | submit s loaded =>
    obtain ⟨hbatches, hitems⟩ := submit_move hx
    exact .submitted s loaded rfl hready.1 hbatches hitems
  | createTransfer row =>
    exact moved_of_keeps
      (tables_of_keeps (.bind (insertTransfer_keeps (fun _ _ => rfl) _) fun _ => .pure _)) hx
  | addTransferItem row =>
    exact moved_of_keeps
      (tables_of_keeps (.bind (insertTransferItem_keeps (fun _ _ => rfl) _) fun _ => .pure _)) hx
  | removeTransferItem itemId =>
    exact moved_of_keeps (tables_of_keeps (deleteTransferItem_keeps (fun _ _ => rfl) itemId)) hx
  | dispatch s loaded =>
    exact moved_of_keeps
      (tables_of_keeps (dispatch_keeps (.of_frame fun _ _ => rfl) (fun _ _ => rfl) (fun _ _ => rfl)
      (fun _ _ _ => rfl) s loaded)) hx
  | scanTransferItem item now =>
    exact moved_of_keeps
      (tables_of_keeps (scanTransferItem_keeps (marksItems_of_frame fun _ _ => rfl) item now)) hx
  | receive s loaded =>
    exact moved_of_keeps (tables_of_keeps (receive_keeps (.of_frame fun _ _ => rfl)
      (marksItems_of_frame fun _ _ => rfl) (fun _ _ => rfl) (fun _ _ => rfl)
      (fun _ _ _ => rfl) s loaded)) hx

end SetuoraLite
