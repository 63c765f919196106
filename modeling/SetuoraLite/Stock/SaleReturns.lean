import SetuoraLite.Stock.Orders

/-!
# A sale that waits for a shelf

A product handed back leaves its draft sale at once, and the sale waits until the shelf's
QR code is scanned. The scan and the Excel import look for a pending return first
(`ensureSaleScanAllowed`), and so do another return and the submission; the automatic
pick does not.

`Spares` is what a transaction must not do to a waiting sale, `asks_spares` reads it off
the checks of each order, and `pending_return_blocks` is what it means for the runs of a
node: while no automatic pick finds anything to put into it, a waiting sale only loses
items. `pick_ignores_return` is a pick that does.
-/

namespace SetuoraLite

open Lib

/-! ## Waiting sales -/

/-- A draft sale with a returned product that is not on its shelf yet. -/
structure AwaitsShelf (db : Db) (saleId : Nat) : Prop where
  sale : ∃ sale, db.batch saleId = some sale ∧ sale.batchType = .sale ∧ sale.status = .draft
  pending : pendingSaleReturnLogs saleId db ≠ []

/-- The items of a batch, as item and serial. -/
def Db.itemKeysOf (db : Db) (batchId : Nat) : List (Nat × Nat) :=
  (db.itemsOf batchId).map fun i => (i.id, i.serialId)

/-- No item has come to the sale, the sale is as it was, and so are the returns it waits for. -/
structure StillWaits (db : Db) (saleId : Nat) (db' : Db) : Prop where
  sale : db'.batch saleId = db.batch saleId
  items : (db'.itemKeysOf saleId).Sublist (db.itemKeysOf saleId)
  pending : pendingSaleReturnLogs saleId db' = pendingSaleReturnLogs saleId db

/-- The action scans a shelf into the sale. -/
def ScansShelf (saleId : Nat) (db : Db) : StockAction → Prop
  | .order (.scan batchId _ serialNumber _ _) =>
    batchId = saleId ∧ findLocationByCode serialNumber db ≠ none
  | _ => False

/-- The action picks serials into the sale, and there are as many as it asks for. -/
def PicksInto (saleId : Nat) (db : Db) : StockAction → Prop
  | .order (.fefoPick batchId _ productId quantity _) =>
    batchId = saleId ∧ 1 ≤ quantity ∧ quantity ≤ (available db .sale productId).length
  | _ => False

instance (saleId : Nat) (db : Db) (a : StockAction) : Decidable (ScansShelf saleId db a) := by
  cases a with
  | order o =>
    cases o with
    | scan batchId user serialNumber returning now => exact inferInstanceAs (Decidable (_ ∧ _))
    | _ => exact inferInstanceAs (Decidable False)
  | _ => exact inferInstanceAs (Decidable False)

instance (saleId : Nat) (db : Db) (a : StockAction) : Decidable (PicksInto saleId db a) := by
  cases a with
  | order o =>
    cases o with
    | fefoPick batchId user productId quantity now => exact inferInstanceAs (Decidable (_ ∧ _ ∧ _))
    | _ => exact inferInstanceAs (Decidable False)
  | _ => exact inferInstanceAs (Decidable False)

namespace StillWaits

variable {saleId : Nat} {db t u : Db}

/-- Nothing has changed, so the sale still waits. -/
theorem refl : StillWaits db saleId db := ⟨rfl, List.Sublist.refl _, rfl⟩

/-- A sale that still waits after two steps has waited through both. -/
theorem trans (h : StillWaits db saleId t) (h' : StillWaits t saleId u) : StillWaits db saleId u :=
  ⟨h'.sale.trans h.sale, h'.items.trans h.items, h'.pending.trans h.pending⟩

/-- A sale that still waits awaits its shelf. -/
theorem awaits (h : StillWaits db saleId t) (hwaits : AwaitsShelf db saleId) :
    AwaitsShelf t saleId := by
  refine ⟨?_, ?_⟩
  · rw [h.sale]
    exact hwaits.sale
  · rw [h.pending]
    exact hwaits.pending

end StillWaits

/-! ## What an order spares -/

/-- The transaction adds no item to the sale, and neither adds nor ends a return of it. -/
def Spares (saleId : Nat) : StockCommit → Prop
  | .scanItem item _ => item.batchId ≠ saleId
  | .pickItems picks => ∀ p ∈ picks, p.1.batchId ≠ saleId
  | .returnItem _ log => log.batchId ≠ some saleId
  | .verifyReturn batch _ _ _ _ => batch.id ≠ saleId
  | _ => True

section Orders

variable {db t : Db} {saleId : Nat} {o : StockOrder} {c : StockCommit}

/-- A sale without a pending return does not wait. -/
theorem not_awaits {batch : Batch} (hbatch : db.batch batch.id = some batch)
    (hpending : batch.batchType = .sale → pendingSaleReturnLogs batch.id db = [])
    (hwaits : AwaitsShelf db saleId) : batch.id ≠ saleId := by
  rintro rfl
  obtain ⟨sale, hsale, htype, -⟩ := hwaits.sale
  obtain rfl := Option.some.inj (hbatch.symm.trans hsale)
  exact hwaits.pending (hpending htype)

/-- The checks of an order spare a waiting sale; the pick has none, and spares it when there is
nothing to pick. -/
theorem asks_spares (hwaits : AwaitsShelf db saleId) (hshelf : ¬ ScansShelf saleId db (.order o))
    (hpick : ¬ PicksInto saleId db (.order o)) (h : o.Asks db c) : Spares saleId c := by
  -- A pick adds to its own batch alone, so it spares the sale when that is another one.
  have hpicked : ∀ {batchId : Nat} {enough : Batch → Prop}, PickAsks db batchId enough c →
      (∀ batch, db.batch batchId = some batch → enough batch → batchId ≠ saleId) →
      Spares saleId c := by
    intro batchId enough hasks hspared
    cases c with
    | pickItems picks =>
      obtain ⟨batch, hbatch, -, hof, henough⟩ := hasks
      intro p hp
      rw [hof p hp]
      exact hspared batch hbatch (henough (List.ne_nil_of_mem hp))
    | _ => exact hasks.elim
  -- By the request; only a scan, a pick and an import ask for a write that could reach the sale.
  cases o with
  | scan batchId user serialNumber returning now =>
    cases c with
    | scanItem item log =>
      obtain ⟨batch, serial, -, hadmitted, rfl⟩ := h
      exact not_awaits hadmitted.stored hadmitted.noReturn hwaits
    | returnItem itemId log =>
      obtain ⟨hlog, hpending⟩ := h
      intro hsale
      obtain rfl := Option.some.inj (hlog.symm.trans hsale)
      exact hwaits.pending hpending
    | verifyReturn batch pending location user now =>
      obtain ⟨hid, hlocation⟩ := h
      exact fun hsale => hshelf ⟨hid.symm.trans hsale, hlocation⟩
    | _ => trivial
  | fefoPick batchId user productId quantity now =>
    refine hpicked h fun batch hbatch henough hsale => ?_
    obtain ⟨sale, hrow, htype, -⟩ := hwaits.sale
    rw [← hsale, hbatch] at hrow
    obtain rfl := Option.some.inj hrow
    rw [htype] at henough
    exact hpick ⟨hsale, henough⟩
  | importExcel batchId user parse now =>
    refine hpicked h fun batch hbatch hpending hsale => ?_
    obtain ⟨sale, hrow, htype, -⟩ := hwaits.sale
    rw [← hsale, hbatch] at hrow
    obtain rfl := Option.some.inj hrow
    exact hwaits.pending (hsale ▸ hpending htype)
  | _ => cases c <;> first | exact h.elim | trivial

/-- A return is committed when none is pending. -/
theorem asked_alone {itemId : Nat} {log : ScanLog} (h : o.Asked db (.returnItem itemId log) t) :
    ∀ n ∈ log.batchId, pendingSaleReturnLogs n t = [] := by
  obtain ⟨hasks, hfirst⟩ := h
  rw [hfirst trivial]
  cases o with
  | scan batchId user serialNumber returning now =>
    obtain ⟨hlog, hpending⟩ := hasks
    intro n hn
    obtain rfl := Option.some.inj (hlog.symm.trans hn)
    exact hpending
  | _ => exact hasks.elim

end Orders

/-! ## Logs -/

/-- The ids of the scan logs are unique. -/
abbrev Db.LogIds (db : Db) : Prop := (db.scanLogs.map (·.id)).Nodup

/-- The same returns are pending in every batch. -/
structure SameReturns (db t : Db) : Prop where
  ids : t.LogIds
  pending : ∀ n, pendingSaleReturnLogs n t = pendingSaleReturnLogs n db

section Logs

variable {rt : Runtime} {db db' : Db} {α : Type}

/-- What keeps the logs keeps the returns. -/
theorem sameReturns_of_keeps {x : Tx α} (h : Tx.Keeps Db.scanLogs x) :
    Tx.Preserves (SameReturns db) x := by
  refine .of_keeps h fun s t he hs => ⟨?_, fun n => ?_⟩
  · show (t.scanLogs.map (·.id)).Nodup
    rw [he]
    exact hs.ids
  · rw [← hs.pending n]
    unfold pendingSaleReturnLogs
    rw [he]

/-- A new log has an id of its own; it shows where it is a pending return. -/
theorem insertScanLog_returns {row : ScanLog} {u : PUnit} (hids : db.LogIds)
    (h : insertScanLog row db = (.ok u, db')) : db'.LogIds ∧
      ∀ n, (row.batchId = some n → row.action = py "SALE_RETURN" →
        row.status ≠ py "PENDING_SHELF") →
        pendingSaleReturnLogs n db' = pendingSaleReturnLogs n db := by
  rw [insertScanLog_ok h]
  refine ⟨nodup_append_nextId hids rfl, fun n hn => ?_⟩
  have hrow : (decide (row.batchId = some n) && decide (row.action = py "SALE_RETURN") &&
      decide (row.status = py "PENDING_SHELF")) = false := by
    simp only [Bool.and_eq_false_iff, decide_eq_false_iff_not]
    by_contra hall
    simp only [not_or, not_not] at hall
    exact hn hall.1.1 hall.1.2 hall.2
  unfold pendingSaleReturnLogs
  rw [List.filter_append]
  simp [hrow]

/-- A log of another status is no return. -/
theorem insertScanLog_sameReturns {row : ScanLog} (hrow : row.status ≠ py "PENDING_SHELF") :
    Tx.Preserves (SameReturns db) (insertScanLog row) := by
  intro s s' u hs h
  obtain ⟨hids, hpending⟩ := insertScanLog_returns hs.ids h
  exact ⟨hids, fun n => (hpending n fun _ _ => hrow).trans (hs.pending n)⟩

/-- Adding an item logs no return. -/
theorem addItem_sameReturns {item : BatchItem} {log : ScanLog}
    (hlog : log.status ≠ py "PENDING_SHELF") :
    Tx.Preserves (SameReturns db) (addItem item log) :=
  .bind (sameReturns_of_keeps (insertBatchItem_keeps (fun _ _ => rfl) _)) fun _ =>
    insertScanLog_sameReturns hlog

/-- The statuses of submitted items are not those of a return. -/
theorem scanStatus_ne (batch : Batch) : scanStatus batch ≠ py "PENDING_SHELF" := by
  unfold scanStatus
  cases batch.batchType with
  | salesReturn =>
    dsimp only
    split <;> decide
  | _ =>
    dsimp only
    decide

theorem submit_sameReturns (s : Submitter) (loaded : LoadedBatch) :
    Tx.Preserves (SameReturns db) (submit s loaded) := by
  have hitem : ∀ l, Tx.Preserves (SameReturns db) (submitItem s.user s.now loaded.batch l) := by
    intro l
    have hclaim : Tx.Keeps Db.scanLogs (claimForBatch loaded.batch l.serial) :=
      .ite (.pure _) (claimSerial_keeps (fun _ _ => rfl) _ _ _ _)
    have hfreeze : Tx.Keeps Db.scanLogs (freezeItem loaded.batch l) :=
      .ite (updateBatchItem_keeps (fun _ _ => rfl) _ _) (.pure _)
    exact .bind (sameReturns_of_keeps hclaim) fun _ => .bind (sameReturns_of_keeps hfreeze) fun _ =>
      .bind (insertScanLog_sameReturns (scanStatus_ne _)) fun _ =>
        sameReturns_of_keeps (insertInventoryTransaction_keeps (fun _ _ => rfl) _)
  exact .bind (.each fun l _ => hitem l) fun _ =>
    .bind (sameReturns_of_keeps (updateBatch_keeps (fun _ _ => rfl) _ _ _)) fun _ =>
      .bind (sameReturns_of_keeps (enqueueBatchSubmittedEvent_keeps (fun _ _ _ => rfl) _ _ _))
        fun _ =>
        .pure _

/-- Only a return and its shelf change what is pending. -/
theorem writesOf_sameReturns {c : StockCommit} {u : PUnit} (hids : db.LogIds)
    (hready : Ready rt c db) (hreturn : ∀ itemId log, c ≠ .returnItem itemId log)
    (hverify : ∀ batch pending location user now, c ≠ .verifyReturn batch pending location user now)
    (hx : writesOf c db = (.ok u, db')) : SameReturns db db' := by
  have hstart : SameReturns db db := ⟨hids, fun _ => rfl⟩
  -- Returns are logged by `returnItem` and `verifyReturn`, which the hypotheses exclude.
  cases c with
  | createBatch row =>
    exact sameReturns_of_keeps (insertBatch_keeps (fun _ _ => rfl) row) db db' u hstart hx
  | logScan row =>
    have hstatus : row.status = py "REJECTED" := hready
    exact insertScanLog_sameReturns (by rw [hstatus]; decide) db db' u hstart hx
  | scanItem item log =>
    obtain ⟨_, _, _, _, _, _, _, _, hstatus⟩ := hready
    exact addItem_sameReturns (by rw [hstatus]; decide) db db' u hstart hx
  | pickItems picks =>
    obtain ⟨_, _, _, hpicks⟩ := hready
    refine Tx.Preserves.each (fun p hp => addItem_sameReturns ?_) db db' u hstart hx
    obtain ⟨-, -, -, -, hstatus | hstatus⟩ := hpicks p hp
    · rw [hstatus]
      decide
    · rw [hstatus]
      decide
  | removeItem itemId =>
    exact sameReturns_of_keeps (deleteBatchItem_keeps (fun _ _ => rfl) itemId) db db' u hstart hx
  | setRates items rate =>
    exact sameReturns_of_keeps (setRates_keeps (.of_frame fun _ _ => rfl) items rate) db db'
      u hstart hx
  | verifyShelf batch pending location user now =>
    have hitems : Tx.Keeps Db.scanLogs (Tx.each (verifyItem location user now) pending) :=
      .each (fun _ => .bind (updateBatchItem_keeps (fun _ _ => rfl) _ _) fun _ =>
        updateSerial_keeps (fun _ _ => rfl) _ _) _
    refine Tx.Preserves.bind (sameReturns_of_keeps hitems)
      (fun _ => insertScanLog_sameReturns ?_) db db' u hstart hx
    show (if _ then _ else _) ≠ _
    split <;> decide
  | returnItem itemId log => exact absurd rfl (hreturn itemId log)
  | verifyReturn batch pending location user now =>
    exact absurd rfl (hverify batch pending location user now)
  | submit s loaded => exact submit_sameReturns s loaded db db' u hstart hx
  | createTransfer row =>
    exact sameReturns_of_keeps (.bind (insertTransfer_keeps (fun _ _ => rfl) _) fun _ => .pure _)
      db db' u hstart hx
  | addTransferItem row =>
    exact sameReturns_of_keeps
      (.bind (insertTransferItem_keeps (fun _ _ => rfl) _) fun _ => .pure _)
      db db' u hstart hx
  | removeTransferItem itemId =>
    exact sameReturns_of_keeps (deleteTransferItem_keeps (fun _ _ => rfl) itemId) db db' u hstart hx
  | dispatch s loaded =>
    exact sameReturns_of_keeps
      (dispatch_keeps (.of_frame fun _ _ => rfl) (fun _ _ => rfl) (fun _ _ => rfl)
      (fun _ _ _ => rfl) s loaded) db db' u hstart hx
  | scanTransferItem item now =>
    exact sameReturns_of_keeps
      (scanTransferItem_keeps (marksItems_of_frame fun _ _ => rfl) item now) db db' u hstart hx
  | receive s loaded =>
    exact sameReturns_of_keeps (receive_keeps (.of_frame fun _ _ => rfl)
      (marksItems_of_frame fun _ _ => rfl) (fun _ _ => rfl) (fun _ _ => rfl)
      (fun _ _ _ => rfl) s loaded) db db' u hstart hx

/-- A return adds one pending log, to its own sale. -/
theorem returnItem_returns {itemId : Nat} {log : ScanLog} {u : PUnit} (hids : db.LogIds)
    (hx : writesOf (.returnItem itemId log) db = (.ok u, db')) : db'.LogIds ∧ ∀ n,
      (log.batchId ≠ some n → pendingSaleReturnLogs n db' = pendingSaleReturnLogs n db) ∧
      (pendingSaleReturnLogs n db').length ≤ (pendingSaleReturnLogs n db).length + 1 := by
  obtain ⟨_, t, hdelete, hinsert⟩ := Tx.bind_ok.mp hx
  have hlogs : t.scanLogs = db.scanLogs := by rw [← Tx.modify_ok.mp hdelete]
  have hsame : ∀ n, pendingSaleReturnLogs n t = pendingSaleReturnLogs n db := by
    intro n
    unfold pendingSaleReturnLogs
    rw [hlogs]
  have htids : t.LogIds := by
    show (t.scanLogs.map (·.id)).Nodup
    rw [hlogs]
    exact hids
  obtain ⟨hids', hpending⟩ := insertScanLog_returns htids hinsert
  refine ⟨hids', fun n => ⟨fun hn => ?_, ?_⟩⟩
  · rw [← hsame n]
    exact hpending n fun h => absurd h hn
  · rw [← hsame n, insertScanLog_ok hinsert]
    unfold pendingSaleReturnLogs
    rw [List.filter_append, List.length_append]
    exact Nat.add_le_add_left (List.length_filter_le _ [_]) _

/-- Where a pending return was scanned. -/
private def logBatch (log : ScanLog) : Nat × Option Nat := (log.id, log.batchId)

/-- The shelf of a return ends what is pending in its own sale. -/
theorem verifyReturn_returns {batch : Batch} {pending : List ScanLog} {location : StorageLocation}
    {user : User} {now : Instant} {u : PUnit} (hids : db.LogIds)
    (hpending : pending = pendingSaleReturnLogs batch.id db)
    (hx : writesOf (.verifyReturn batch pending location user now) db = (.ok u, db')) :
    db'.LogIds ∧ ∀ n,
      (n ≠ batch.id → pendingSaleReturnLogs n db' = pendingSaleReturnLogs n db) ∧
      (pendingSaleReturnLogs n db').length ≤ (pendingSaleReturnLogs n db).length := by
  obtain ⟨_, t, hplace, hinsert⟩ := Tx.bind_ok.mp hx
  -- The loop moves no log to another batch, so that it writes logs of this batch only.
  let I (t : Db) : Prop := t.scanLogs.map logBatch = db.scanLogs.map logBatch ∧ ∀ n,
    (n ≠ batch.id → pendingSaleReturnLogs n t = pendingSaleReturnLogs n db) ∧
    (pendingSaleReturnLogs n t).length ≤ (pendingSaleReturnLogs n db).length
  have hround : ∀ log ∈ pending, Tx.Preserves I (placeReturn location log) := by
    intro log hlog
    have hmem : log ∈ db.scanLogs := by
      rw [hpending] at hlog
      exact List.mem_of_mem_filter hlog
    have hbatch : log.batchId = some batch.id := by
      rw [hpending] at hlog
      have := List.of_mem_filter hlog
      simp only [Bool.and_eq_true, decide_eq_true_eq] at this
      exact this.1.1
    refine .bind ?_ fun _ => ?_
    · intro s s' v hs h
      rw [updateScanLog_ok h]
      refine ⟨?_, fun n => ⟨fun hn => ?_, ?_⟩⟩
      · rw [← hs.1]
        exact map_modifyRow fun _ _ _ => rfl
      · rw [← (hs.2 n).1 hn]
        refine filter_modifyRow fun r hr hid => ⟨?_, ?_⟩
        · -- The row is the log, and so it is a log of this batch.
          have hkey : logBatch r ∈ db.scanLogs.map logBatch := by
            rw [← hs.1]
            exact List.mem_map_of_mem hr
          obtain ⟨r₀, hr₀, he⟩ := List.mem_map.mp hkey
          obtain ⟨hid₀, hbatch₀⟩ := Prod.mk.inj he
          obtain rfl := eq_of_key_eq hids hr₀ hmem (hid₀.trans hid)
          have hother : r.batchId ≠ some n := by
            rw [← hbatch₀, hbatch]
            intro h
            exact hn (Option.some.inj h).symm
          simp [hother]
        · simp [show py "SHELF_VERIFIED" ≠ py "PENDING_SHELF" by decide]
      · refine le_trans (List.Sublist.length_le ?_) (hs.2 n).2
        apply filter_modifyRow_sublist
        intro r
        simp [show py "SHELF_VERIFIED" ≠ py "PENDING_SHELF" by decide]
    · have hserial : ∀ id, Tx.Preserves I (updateSerial id (Serial.placedAt location)) := fun id =>
        .of_keeps (updateSerial_keeps (f := Db.scanLogs) (fun _ _ => rfl) _ _) fun s t he hs => by
          have hpend : ∀ n, pendingSaleReturnLogs n t = pendingSaleReturnLogs n s := by
            intro n
            unfold pendingSaleReturnLogs
            rw [he]
          refine ⟨he ▸ hs.1, fun n => ?_⟩
          rw [hpend n]
          exact hs.2 n
      split
      · exact hserial _
      · exact .pure _
  have hloop : I t := Tx.each_ok (fun log hlog s s' v hs h => hround log hlog s s' v hs h)
    ⟨rfl, fun _ => ⟨fun _ => rfl, le_refl _⟩⟩ hplace
  have htids : t.LogIds := by
    have h := congrArg (List.map Prod.fst) hloop.1
    rw [List.map_map, List.map_map] at h
    show (t.scanLogs.map (Prod.fst ∘ logBatch)).Nodup
    rw [h]
    exact hids
  obtain ⟨hids', hpend⟩ := insertScanLog_returns htids hinsert
  have haction : py "SALE_RETURN_SHELF" ≠ py "SALE_RETURN" := by decide
  have hsame : ∀ n, pendingSaleReturnLogs n db' = pendingSaleReturnLogs n t := fun n =>
    hpend n fun _ h => absurd h haction
  refine ⟨hids', fun n => ?_⟩
  rw [hsame n]
  exact hloop.2 n

end Logs

/-! ## Items -/

/-- The sale is the same row, and its items are items it had. -/
structure SaleKept (db : Db) (saleId : Nat) (sale : Batch) (t : Db) : Prop where
  row : t.batch saleId = some sale
  items : (t.itemKeysOf saleId).Sublist (db.itemKeysOf saleId)

section Items

variable {rt : Runtime} {db db' : Db} {saleId : Nat} {sale : Batch} {α : Type}

/-- The keys of a batch's items, by the keys of all. -/
theorem itemKeysOf_eq (db : Db) (batchId : Nat) : db.itemKeysOf batchId =
    (((db.batchItems.map fun i => (i.batchId, i.id, i.serialId)).filter
      fun k => k.1 = batchId).map Prod.snd) := by
  unfold Db.itemKeysOf Db.itemsOf
  rw [List.filter_map, List.map_map]
  rfl

/-- What leaves batches and items alone keeps the sale. -/
theorem saleKept_of_keeps {x : Tx α} (h : Tx.Keeps (fun db => (db.batches, db.batchItems)) x) :
    Tx.Preserves (SaleKept db saleId sale) x := by
  refine .of_keeps h fun s t he hs => ?_
  obtain ⟨hbatches, hitems⟩ := Prod.mk.inj he
  refine ⟨?_, ?_⟩
  · rw [← hs.row]
    unfold Db.batch
    rw [hbatches]
  · have hkeys : t.itemKeysOf saleId = s.itemKeysOf saleId := by
      rw [itemKeysOf_eq, itemKeysOf_eq, hitems]
    rw [hkeys]
    exact hs.items

/-- A new batch has an id of its own. -/
theorem insertBatch_saleKept (row : Batch) :
    Tx.Preserves (SaleKept db saleId sale) (insertBatch row) := by
  intro s s' u hs h
  obtain ⟨-, rfl⟩ := insertBatch_ok h
  refine ⟨?_, hs.items⟩
  have hrow := hs.row
  unfold Db.batch at hrow ⊢
  rw [lookup_append, hrow]
  rfl

/-- A change of another batch keeps the sale. -/
theorem updateBatch_saleKept {id : Nat} (hid : id ≠ saleId) (status : BatchStatus)
    (submittedAt : Option Instant) :
    Tx.Preserves (SaleKept db saleId sale) (updateBatch id status submittedAt) := by
  intro s s' u hs h
  obtain ⟨-, rfl⟩ := updateBatch_ok h
  refine ⟨?_, hs.items⟩
  rw [← hs.row]
  exact lookup_modifyRow_ne hid.symm fun _ _ h => h

theorem insertBatchItem_saleKept {row : BatchItem} (hrow : row.batchId ≠ saleId) :
    Tx.Preserves (SaleKept db saleId sale) (insertBatchItem row) := by
  intro s s' u hs h
  obtain ⟨-, -, rfl⟩ := insertBatchItem_ok h
  refine ⟨hs.row, ?_⟩
  have hkeys : Db.itemKeysOf { s with batchItems := s.batchItems ++
      [{ row with id := nextId (·.id) s.batchItems }] } saleId = s.itemKeysOf saleId := by
    unfold Db.itemKeysOf Db.itemsOf
    rw [List.filter_append]
    simp [hrow]
  rw [hkeys]
  exact hs.items

/-- A change of an item leaves it in its batch. -/
theorem updateBatchItem_saleKept (id : Nat) (change : BatchItem → BatchItem) :
    Tx.Preserves (SaleKept db saleId sale) (updateBatchItem id change) := by
  intro s s' u hs h
  obtain ⟨-, rfl⟩ := updateBatchItem_ok h
  refine ⟨hs.row, ?_⟩
  have hkeys : (modifyRow (·.id) id (BatchItem.changed change) s.batchItems).map
      (fun i => (i.batchId, i.id, i.serialId)) = s.batchItems.map fun i =>
          (i.batchId, i.id, i.serialId) :=
    map_modifyRow fun _ _ _ => rfl
  rw [itemKeysOf_eq, hkeys, ← itemKeysOf_eq]
  exact hs.items

/-- A deletion takes items away at most. -/
theorem deleteBatchItem_saleKept (id : Nat) :
    Tx.Preserves (SaleKept db saleId sale) (deleteBatchItem id) := by
  refine .modify fun s hs => ⟨hs.row, ?_⟩
  have hsub : (s.batchItems.filter fun i => i.id ≠ id).Sublist s.batchItems := List.filter_sublist
  exact ((hsub.filter _).map _).trans hs.items

theorem addItem_saleKept {item : BatchItem} (hitem : item.batchId ≠ saleId) (log : ScanLog) :
    Tx.Preserves (SaleKept db saleId sale) (addItem item log) :=
  .bind (insertBatchItem_saleKept hitem) fun _ =>
    saleKept_of_keeps (insertScanLog_keeps (fun _ _ => rfl) _)

theorem submit_saleKept (s : Submitter) {loaded : LoadedBatch} (hid : loaded.batch.id ≠ saleId) :
    Tx.Preserves (SaleKept db saleId sale) (submit s loaded) := by
  have hitem : ∀ l,
      Tx.Preserves (SaleKept db saleId sale) (submitItem s.user s.now loaded.batch l) := by
    intro l
    have hclaim : Tx.Keeps (fun db : Db => (db.batches, db.batchItems))
        (claimForBatch loaded.batch l.serial) :=
      .ite (.pure _) (claimSerial_keeps (fun _ _ => rfl) _ _ _ _)
    exact .bind (saleKept_of_keeps hclaim) fun _ =>
      .bind (.ite (fun _ => updateBatchItem_saleKept _ _) fun _ => .pure _) fun _ =>
        .bind (saleKept_of_keeps (insertScanLog_keeps (fun _ _ => rfl) _)) fun _ =>
          saleKept_of_keeps (insertInventoryTransaction_keeps (fun _ _ => rfl) _)
  exact .bind (.each fun l _ => hitem l) fun _ => .bind (updateBatch_saleKept hid _ _) fun _ =>
    .bind (saleKept_of_keeps (enqueueBatchSubmittedEvent_keeps (fun _ _ _ => rfl) _ _ _))
      fun _ => .pure _

/-- A commit that spares a waiting sale takes items from it at most. -/
theorem writesOf_saleKept {c : StockCommit} {u : PUnit} (hwaits : AwaitsShelf db saleId)
    (hsale : db.batch saleId = some sale) (hready : Ready rt c db) (hspares : Spares saleId c)
    (hx : writesOf c db = (.ok u, db')) : SaleKept db saleId sale db' := by
  have hstart : SaleKept db saleId sale db := ⟨hsale, List.Sublist.refl _⟩
  cases c with
  | createBatch row => exact insertBatch_saleKept row db db' u hstart hx
  | logScan row =>
    exact saleKept_of_keeps (insertScanLog_keeps (fun _ _ => rfl) row) db db' u hstart hx
  | scanItem item log => exact addItem_saleKept hspares log db db' u hstart hx
  | pickItems picks =>
    exact Tx.Preserves.each (fun p hp => addItem_saleKept (hspares p hp) p.2) db db' u hstart hx
  | removeItem itemId => exact deleteBatchItem_saleKept itemId db db' u hstart hx
  | setRates items rate =>
    exact Tx.Preserves.each (fun _ _ => updateBatchItem_saleKept _ _) db db' u hstart hx
  | verifyShelf batch pending location user now =>
    have hitem : ∀ l,
        Tx.Preserves (SaleKept db saleId sale) (verifyItem location user now l) := fun l =>
      .bind (updateBatchItem_saleKept _ _) fun _ =>
        saleKept_of_keeps (updateSerial_keeps (fun _ _ => rfl) _ _)
    exact Tx.Preserves.bind (.each fun l _ => hitem l)
      (fun _ => saleKept_of_keeps (insertScanLog_keeps (fun _ _ => rfl) _)) db db' u hstart hx
  | returnItem itemId log =>
    exact Tx.Preserves.bind (deleteBatchItem_saleKept itemId)
      (fun _ => saleKept_of_keeps (insertScanLog_keeps (fun _ _ => rfl) _)) db db' u hstart hx
  | verifyReturn batch pending location user now =>
    exact saleKept_of_keeps
      (verifyReturn_keeps (.of_frame fun _ _ => rfl) (fun _ _ => rfl) batch pending location
      user now) db db' u hstart hx
  | submit s loaded =>
    obtain ⟨hdraft, -, -, -, hpending⟩ := hready
    exact submit_saleKept s (not_awaits hdraft.1 hpending hwaits) db db' u hstart hx
  | createTransfer row =>
    exact saleKept_of_keeps (.bind (insertTransfer_keeps (fun _ _ => rfl) _) fun _ => .pure _)
      db db' u hstart hx
  | addTransferItem row =>
    exact saleKept_of_keeps (.bind (insertTransferItem_keeps (fun _ _ => rfl) _) fun _ => .pure _)
      db db' u hstart hx
  | removeTransferItem itemId =>
    exact saleKept_of_keeps (deleteTransferItem_keeps (fun _ _ => rfl) itemId) db db' u hstart hx
  | dispatch s loaded =>
    exact saleKept_of_keeps
      (dispatch_keeps (.of_frame fun _ _ => rfl) (fun _ _ => rfl) (fun _ _ => rfl)
      (fun _ _ _ => rfl) s loaded) db db' u hstart hx
  | scanTransferItem item now =>
    exact saleKept_of_keeps (scanTransferItem_keeps (marksItems_of_frame fun _ _ => rfl) item now)
      db db' u hstart hx
  | receive s loaded =>
    exact saleKept_of_keeps (receive_keeps (.of_frame fun _ _ => rfl)
      (marksItems_of_frame fun _ _ => rfl) (fun _ _ => rfl) (fun _ _ => rfl)
      (fun _ _ _ => rfl) s loaded) db db' u hstart hx

end Items

/-! ## One action -/

/-- No batch waits for two returns. -/
def OneReturn (db : Db) : Prop := ∀ n, (pendingSaleReturnLogs n db).length ≤ 1

/-- What the runs of a node keep about returns. -/
structure ReturnsKeyed (db : Db) : Prop where
  keyed : db.Keyed
  ids : db.LogIds
  one : OneReturn db

section Steps

variable {rt : Runtime} {st : Settings} {db db' : Db} {saleId : Nat}

theorem ReturnsKeyed.of_same (h : ReturnsKeyed db) (hkeyed : db'.Keyed)
    (hsame : SameReturns db db') :
    ReturnsKeyed db' := by
  refine ⟨hkeyed, hsame.ids, fun n => ?_⟩
  rw [hsame.pending n]
  exact h.one n

/-- A commit leaves no batch waiting for two returns. -/
theorem commit_returnsKeyed {c : StockCommit} {u : PUnit} (h : ReturnsKeyed db)
    (hready : Ready rt c db) (halone : ∀ itemId log, c = .returnItem itemId log →
      ∀ n ∈ log.batchId, pendingSaleReturnLogs n db = []) (hx : writesOf c db = (.ok u, db')) :
    ReturnsKeyed db' := by
  have hkeyed := ready_keyed h.keyed hready hx
  by_cases hreturn : ∃ itemId log, c = .returnItem itemId log
  · obtain ⟨itemId, log, rfl⟩ := hreturn
    obtain ⟨hids, hpending⟩ := returnItem_returns h.ids hx
    refine ⟨hkeyed, hids, fun n => ?_⟩
    obtain ⟨hother, hlength⟩ := hpending n
    by_cases hn : log.batchId = some n
    · -- Nothing was pending in the sale of the return.
      have hnone : pendingSaleReturnLogs n db = [] := halone itemId log rfl n hn
      rw [hnone] at hlength
      exact hlength
    · rw [hother hn]
      exact h.one n
  by_cases hverify : ∃ batch pending location user now,
    c = .verifyReturn batch pending location user now
  · obtain ⟨batch, pending, location, user, now, rfl⟩ := hverify
    obtain ⟨-, -, hpending, -⟩ := hready
    obtain ⟨hids, hkept⟩ := verifyReturn_returns h.ids hpending hx
    exact ⟨hkeyed, hids, fun n => le_trans (hkept n).2 (h.one n)⟩
  · exact h.of_same hkeyed (writesOf_sameReturns h.ids hready
      (fun itemId log h => hreturn ⟨itemId, log, h⟩)
      (fun batch pending location user now h => hverify ⟨batch, pending, location, user, now, h⟩)
        hx)

/-- A commit that spares a waiting sale leaves it waiting. -/
theorem commit_stillWaits {c : StockCommit} {u : PUnit} (h : ReturnsKeyed db)
    (hwaits : AwaitsShelf db saleId) (hready : Ready rt c db) (hspares : Spares saleId c)
    (hx : writesOf c db = (.ok u, db')) : StillWaits db saleId db' := by
  obtain ⟨sale, hsale, -⟩ := hwaits.sale
  have hkept := writesOf_saleKept hwaits hsale hready hspares hx
  have hpending : pendingSaleReturnLogs saleId db' = pendingSaleReturnLogs saleId db := by
    by_cases hreturn : ∃ itemId log, c = .returnItem itemId log
    · obtain ⟨itemId, log, rfl⟩ := hreturn
      exact ((returnItem_returns h.ids hx).2 saleId).1 hspares
    by_cases hverify : ∃ batch pending location user now,
      c = .verifyReturn batch pending location user now
    · obtain ⟨batch, pending, location, user, now, rfl⟩ := hverify
      obtain ⟨-, -, hpending, -⟩ := hready
      exact ((verifyReturn_returns h.ids hpending hx).2 saleId).1 (Ne.symm hspares)
    · exact (writesOf_sameReturns h.ids hready (fun itemId log h => hreturn ⟨itemId, log, h⟩)
        (fun batch pending location user now h => hverify ⟨batch, pending, location, user, now, h⟩)
        hx).pending saleId
  exact ⟨hkept.row.trans hsale.symm, hkept.items, hpending⟩

/-- A relocation logs what it moves, which is no return. -/
theorem relocateStock_sameReturns (m : Move) :
    Tx.Preserves (SameReturns db) (relocateStock st m) := by
  have hserial : ∀ destination relocationId reference note s,
      Tx.Preserves (SameReturns db) (moveSerial m destination relocationId reference note s) :=
    fun _ _ _ _ _ => .bind (sameReturns_of_keeps (updateSerial_keeps (fun _ _ => rfl) _ _)) fun _ =>
      .bind (sameReturns_of_keeps (insertRelocationSerial_keeps (fun _ _ => rfl) _ _)) fun _ =>
        .bind (insertScanLog_sameReturns (show py "MOVED" ≠ py "PENDING_SHELF" by decide)) fun _ =>
          sameReturns_of_keeps (insertInventoryTransaction_keeps (fun _ _ => rfl) _)
  have hline : ∀ destination claimed item reference,
      Tx.Preserves (SameReturns db) (moveLine m destination claimed item reference) :=
        fun _ _ _ _ =>
    .bind (.lift _) fun _ => .bind (.reads _) fun _ => .bind (.raiseIf _ _) fun _ =>
      .bind (.raiseIf _ _) fun _ =>
        .bind (sameReturns_of_keeps (insertRelocation_keeps (fun _ _ => rfl) _)) fun _ =>
          .bind (.each fun _ _ => hserial _ _ _ _ _) fun _ => .pure _
  have hlines : ∀ destination (items : List (MoveItem × PyStr)) claimed,
      Tx.Preserves (SameReturns db) (moveLines m destination claimed items) := by
    intro destination items
    induction items with
    | nil => exact fun _ => .pure _
    | cons line items ih => exact fun claimed => .bind (hline _ _ _ _) fun _ => ih _
  exact .bind (.reads _) fun _ => .bind (.lift _) fun _ => .bind (.raiseIf _ _) fun _ =>
    .mapError (.bind (hlines _ _ _) fun _ =>
      sameReturns_of_keeps (enqueueMoved_keeps (fun _ _ _ => rfl) _ _ _ _ _ _)) _

theorem relocateStock_stillWaits (h : ReturnsKeyed db) (hwaits : AwaitsShelf db saleId) {m : Move}
    {u : PUnit} (hx : relocateStock st m db = (.ok u, db')) : StillWaits db saleId db' := by
  obtain ⟨sale, hsale, -⟩ := hwaits.sale
  have hkept : Tx.Preserves (SaleKept db saleId sale) (relocateStock st m) :=
    saleKept_of_keeps
      (relocateStock_keeps (.of_frame fun _ _ => rfl) (fun _ _ => rfl) (fun _ _ => rfl)
      (fun _ _ => rfl) (fun _ _ => rfl) (fun _ _ _ => rfl) st m)
  obtain ⟨hrow, hitems⟩ := hkept db db' u ⟨hsale, List.Sublist.refl _⟩ hx
  have hsame := relocateStock_sameReturns m db db' u ⟨h.ids, fun _ => rfl⟩ hx
  exact ⟨hrow.trans hsale.symm, hitems, hsame.pending saleId⟩

/-- Master's commands write no batch, no item and no log. -/
theorem applyMasterCommand_tables (now : Instant) (uuid : PyStr) (command : List (PyStr × Json)) :
    Tx.Preserves
      (fun t => (t.batches, t.batchItems, t.scanLogs) = (db.batches, db.batchItems, db.scanLogs))
      (applyMasterCommand rt st now uuid command) :=
  applyMasterCommand_same (f := fun t : Db => (t.batches, t.batchItems, t.scanLogs))
    (fun _ _ => rfl) (fun _ _ => rfl) (fun _ _ => rfl) (fun _ _ => rfl) (fun _ _ => rfl)
    (fun _ _ => rfl) (fun _ _ _ => rfl) rt st now uuid command db

private theorem sameReturns_of_tables (hids : db.LogIds)
    (h : (db'.batches, db'.batchItems, db'.scanLogs) = (db.batches, db.batchItems, db.scanLogs)) :
    SameReturns db db' := by
  obtain ⟨-, h⟩ := Prod.mk.inj h
  obtain ⟨-, hlogs⟩ := Prod.mk.inj h
  refine ⟨?_, fun n => ?_⟩
  · show (db'.scanLogs.map (·.id)).Nodup
    rw [hlogs]
    exact hids
  · unfold pendingSaleReturnLogs
    rw [hlogs]

private theorem stillWaits_of_tables (hids : db.LogIds)
    (h : (db'.batches, db'.batchItems, db'.scanLogs) = (db.batches, db.batchItems, db.scanLogs)) :
    StillWaits db saleId db' := by
  have hsame := sameReturns_of_tables hids h
  obtain ⟨hbatches, h⟩ := Prod.mk.inj h
  obtain ⟨hitems, -⟩ := Prod.mk.inj h
  refine ⟨?_, ?_, hsame.pending saleId⟩
  · unfold Db.batch
    rw [hbatches]
  · rw [itemKeysOf_eq, itemKeysOf_eq, hitems]

theorem relocateStock_returnsKeyed (m : Move) : Tx.Preserves ReturnsKeyed (relocateStock st m) :=
  fun t t' u ht hx => ht.of_same (relocateStock_keyed st m t t' u ht.keyed hx)
    (relocateStock_sameReturns m t t' u ⟨ht.ids, fun _ => rfl⟩ hx)

theorem applyMasterCommand_returnsKeyed (now : Instant) (uuid : PyStr)
    (command : List (PyStr × Json)) :
    Tx.Preserves ReturnsKeyed (applyMasterCommand rt st now uuid command) :=
  fun t t' u ht hx =>
    ht.of_same (applyMasterCommand_keyed rt st now uuid command t t' u ht.keyed hx)
    (sameReturns_of_tables ht.ids (applyMasterCommand_tables now uuid command t t' u rfl hx))

/-- Whatever happens, no batch comes to wait for two returns. -/
theorem step_returnsKeyed (h : ReturnsKeyed db) (a : StockAction) :
    ReturnsKeyed (stockStep rt st db a) := by
  refine stockStep_invariant (Q := fun c t => Ready rt c t ∧ ∃ o : StockOrder, o.Asked db c t)
    (fun o _ => ?_) (fun c t t' ht hc hx => ?_) relocateStock_returnsKeyed
    (fun now uuid command _ => applyMasterCommand_returnsKeyed now uuid command) h
  · exact ((request_ready st h.keyed.serials o).and (request_asks h.keyed.serials o)).imp
      (fun c t hc => ⟨hc.1, o, hc.2⟩) fun _ _ h => h
  · obtain ⟨hready, o, hasked⟩ := hc
    refine commit_returnsKeyed ht hready (fun itemId log hlog => ?_) hx
    subst hlog
    exact asked_alone hasked

/-- A waiting sale stays as it is, unless its shelf is scanned or serials are picked into it. -/
theorem step_stillWaits (h : ReturnsKeyed db) (hwaits : AwaitsShelf db saleId) {a : StockAction}
    (hshelf : ¬ ScansShelf saleId db a) (hpick : ¬ PicksInto saleId db a) :
    StillWaits db saleId (stockStep rt st db a) := by
  let I (t : Db) : Prop := ReturnsKeyed t ∧ StillWaits db saleId t
  have hstart : I db := ⟨h, .refl⟩
  have hstep : I (stockStep rt st db a) := by
    refine stockStep_invariant
      (Q := fun c t => Ready rt c t ∧ ∃ o : StockOrder, a = .order o ∧ o.Asked db c t)
      (fun o ho => ?_)
      (fun c t t' ht hc hx => ?_) (fun m => ?_) (fun now uuid command _ => ?_) hstart
    · exact ((request_ready st h.keyed.serials o).and (request_asks h.keyed.serials o)).imp
        (fun c t hc => ⟨hc.1, o, ho, hc.2⟩) fun _ _ h => h
    · obtain ⟨hkeyed, hstill⟩ := ht
      obtain ⟨hready, o, rfl, hasked⟩ := hc
      have hkeyed' : ReturnsKeyed t' := by
        refine commit_returnsKeyed hkeyed hready (fun itemId log hlog => ?_) hx
        subst hlog
        exact asked_alone hasked
      have hspares := asks_spares hwaits hshelf hpick hasked.1
      exact ⟨hkeyed',
        hstill.trans (commit_stillWaits hkeyed (hstill.awaits hwaits) hready hspares hx)⟩
    · refine (relocateStock_returnsKeyed m).and fun t t' u hkeyed hstill hx => ?_
      exact hstill.trans (relocateStock_stillWaits hkeyed (hstill.awaits hwaits) hx)
    · refine (applyMasterCommand_returnsKeyed now uuid command).and fun t t' u hkeyed
        hstill hx => ?_
      exact hstill.trans (stillWaits_of_tables hkeyed.ids
        (applyMasterCommand_tables now uuid command t t' u rfl hx))
  exact hstep.2

end Steps

/-! ## Runs -/

/-- In every state that a node reaches, no batch waits for two returns. A sale that waits for
a shelf there still does after any run that has neither scanned its shelf nor picked a serial
into it: none of its items was added meanwhile, and it is the same draft. -/
theorem pending_return_blocks (rt : Runtime) (st : Settings) {db db₁ : Db} (h : ReturnsKeyed db)
    {before : List StockAction} (hbefore : exec (stockMachine rt st) db before = some db₁) :
    OneReturn db₁ ∧ ∀ saleId, AwaitsShelf db₁ saleId → ∀ after db₂,
      Guarded (stockMachine rt st) (fun t a => ¬ ScansShelf saleId t a ∧ ¬ PicksInto saleId t a)
          db₁ after →
      exec (stockMachine rt st) db₁ after = some db₂ → StillWaits db₁ saleId db₂ := by
  have hstep : ∀ t a t', ReturnsKeyed t → stockMachine rt st t a = some t' → ReturnsKeyed t' := by
    intro t a t' ht hstep
    obtain rfl := Option.some.inj hstep
    exact step_returnsKeyed ht a
  have h₁ := exec_invariant hstep h hbefore
  refine ⟨h₁.one, fun saleId hwaits after db₂ hguard hafter => ?_⟩
  let I (t : Db) : Prop := ReturnsKeyed t ∧ StillWaits db₁ saleId t
  have hrun : I db₂ := by
    refine guarded_invariant (fun t a t' hI hfree hmachine => ?_)
      (show I db₁ from ⟨h₁, .refl⟩) hguard hafter
    obtain ⟨ht, hstill⟩ := hI
    refine ⟨hstep t a t' ht hmachine, ?_⟩
    obtain rfl := Option.some.inj hmachine
    exact hstill.trans (step_stillWaits ht (hstill.awaits hwaits) hfree.1 hfree.2)
  exact hrun.2

/-- The stock of three bottles, the first of them scanned into the sale. -/
def bottleScanned : Db :=
  { bottleDb with
    batchItems := [{ newBatchItem bottleSale (bottle 1 none) none false with id := 1 }] }

/-- The bottle is handed back. -/
def handBack : StockAction := .order (.scan 1 ⟨1, py "office"⟩ (py "BOTTLE-1") true 0)

/-- The state after the bottle was handed back. -/
def bottleReturned : Db := stockStep .plain homeSettings bottleScanned handBack

theorem bottleScanned_keyed : ReturnsKeyed bottleScanned := by
  refine ⟨?_, ?_, fun n => Nat.zero_le 1⟩
  · constructor <;> decide +kernel
  · decide +kernel

theorem bottleReturned_awaits : AwaitsShelf bottleReturned 1 :=
  ⟨⟨bottleSale, by decide +kernel, rfl, rfl⟩, by decide +kernel⟩

/-- Another bottle is scanned, which is refused. -/
theorem pending_return_blocks_bottles :
    StillWaits bottleReturned 1 (stockStep .plain homeSettings bottleReturned
      (.order (.scan 1 ⟨1, py "office"⟩ (py "BOTTLE-3") false 1))) := by
  have hbefore : exec (stockMachine .plain homeSettings) bottleScanned [handBack] =
      some bottleReturned :=
    rfl
  refine (pending_return_blocks .plain homeSettings bottleScanned_keyed hbefore).2 1
    bottleReturned_awaits
    [.order (.scan 1 ⟨1, py "office"⟩ (py "BOTTLE-3") false 1)] _ ?_ rfl
  exact ⟨⟨by decide +kernel, by decide +kernel⟩, fun _ _ => trivial⟩

/-- While the first bottle waits for its shelf, one bottle is picked automatically, and the
sale has an item again. -/
theorem pick_ignores_return :
    AwaitsShelf bottleReturned 1 ∧ bottleReturned.itemKeysOf 1 = [] ∧
      ¬ ScansShelf 1 bottleReturned (.order (.fefoPick 1 ⟨1, py "office"⟩ 1 1 1)) ∧
      (stockStep .plain homeSettings bottleReturned
        (.order (.fefoPick 1 ⟨1, py "office"⟩ 1 1 1))).itemKeysOf 1 = [(1, 3)] := by
  refine ⟨bottleReturned_awaits, ?_, ?_, ?_⟩
  · decide +kernel
  · decide +kernel
  · decide +kernel

end SetuoraLite
