import SetuoraLite.Stock.Announcements
import SetuoraLite.Stock.Confluence
import SetuoraLite.Stock.Names

/-!
# What an action does to serials that travel

A serial is here, on the road, or inactive. `Shipment` is everything one transaction of a
node can do to serials here and on the road, to transfers and their items, and to what
Master is told of transfers. It is proved once for every transaction (`ready_shipment`,
`relocateStock_shipment`, `handled_shipment`); the invariants of transfers follow from it.

Its parameters are what comes from outside: the UUIDs that drafts are opened under, the
numbers that incoming transfers list, and the numbers that Master gives out.
-/

namespace SetuoraLite

open Lib

variable {rt : Runtime} {st : Settings} {now : Instant} {uuid : PyStr} {db db' : Db}

/-! ## Here and on the road -/

/-- The serial is here: active, and not on its way. -/
def Serial.here (s : Serial) : Bool := s.active && decide (s.status ≠ .inTransit)

/-- The serial left, or is about to arrive. -/
def Serial.onRoad (s : Serial) : Bool := s.active && decide (s.status = .inTransit)

/-- A unit is here when it is active and not in transit. -/
theorem Serial.here_iff {s : Serial} : s.here = true ↔ s.active = true ∧ s.status ≠ .inTransit := by
  simp [Serial.here]

/-- A unit is on the road when it is active and in transit. -/
theorem Serial.onRoad_iff {s : Serial} : s.onRoad = true ↔
    s.active = true ∧ s.status = .inTransit := by
  simp [Serial.onRoad]

/-- A serial with the number is here. -/
def Db.Here (db : Db) (number : PyStr) : Prop :=
  ∃ s ∈ db.serials, s.serialNumber = number ∧ s.here = true

/-- The serial with the id is on the road. -/
def Db.OnRoad (db : Db) (id : Nat) : Prop := ∃ s ∈ db.serials, s.id = id ∧ s.onRoad = true

/-- What the tables show of travelling. -/
structure Cargo where
  serials : List (Nat × PyStr × Bool × Bool)
  transfers : List (TransferMarks × PyStr)
  items : List (Nat × Nat × Option Nat × PyStr × Bool)
  notices : List (PyStr × List (PyStr × Json))

/-- What a transfer can show of a unit. -/
def Serial.cargo (s : Serial) : Nat × PyStr × Bool × Bool :=
  (s.id, s.serialNumber, s.here, s.onRoad)

/-- What a transfer shows of itself. -/
def LocalTransfer.cargo (t : LocalTransfer) : TransferMarks × PyStr := (t.marks, t.peerCode)

/-- What a transfer shows of an item. -/
def LocalTransferItem.cargo (i : LocalTransferItem) : Nat × Nat × Option Nat × PyStr × Bool :=
  (i.id, i.transferId, i.serialId, i.manifestSerialNumber, i.received)

/-- The tables, as transfers see them. -/
def Db.cargo (db : Db) : Cargo where
  serials := db.serials.map Serial.cargo
  transfers := db.transfers.map LocalTransfer.cargo
  items := db.transferItems.map LocalTransferItem.cargo
  notices := db.notices

/-- A row with what is shown of another row. -/
theorem exists_of_map {ρ σ β : Type} {f : ρ → β} {g : σ → β} {rows : List σ} {rows' : List ρ}
    (h : rows'.map f = rows.map g) {r : σ} (hr : r ∈ rows) : ∃ r' ∈ rows', f r' = g r :=
  List.mem_map.mp (h ▸ List.mem_map_of_mem hr)

/-- What is shown of rows decides what is shown of less of them. -/
theorem map_of_map {ρ σ β γ : Type} {f : ρ → β} {g : σ → β} {f' : ρ → γ} {g' : σ → γ}
    {rows' : List ρ} {rows : List σ} (h : rows'.map f = rows.map g)
    (hless : ∀ r', ∀ r ∈ rows, f r' = g r → f' r' = g' r) :
    rows'.map f' = rows.map g' := by
  induction rows generalizing rows' with
  | nil => rw [List.map_eq_nil_iff.mp h]; rfl
  | cons r rows ih =>
    obtain ⟨r', rest, rfl, hr, hrest⟩ := List.map_eq_cons_iff.mp h
    rw [List.map_cons, List.map_cons, hless r' r List.mem_cons_self hr,
      ih hrest fun q' q hq => hless q' q (List.mem_cons_of_mem r hq)]

/-- Two views of rows, side by side. -/
theorem map_both {ρ σ β γ : Type} {f : ρ → β} {g : σ → β} {f' : ρ → γ} {g' : σ → γ} {rows' : List ρ}
    {rows : List σ} (h : rows'.map f = rows.map g) (h' : rows'.map f' = rows.map g') :
    rows'.map (fun r => (f r, f' r)) = rows.map fun r => (g r, g' r) := by
  induction rows generalizing rows' with
  | nil => rw [List.map_eq_nil_iff.mp h]; rfl
  | cons r rows ih =>
    obtain ⟨r', rest, rfl, hr, hrest⟩ := List.map_eq_cons_iff.mp h
    obtain ⟨hr', hrest'⟩ := List.cons.inj h'
    rw [List.map_cons, List.map_cons, hr, hr', ih hrest hrest']

/-! ## A transaction -/

/-- The items of a transfer, as rows. -/
def Db.Lists (db : Db) (t : LocalTransfer) (i : LocalTransferItem) : Prop :=
  i ∈ db.transferItems ∧ i.transferId = t.id

/-- What a step can do to the transfers and to the units that travel. -/
inductive Shipment (Opens : PyStr → Prop) (Told : PyStr → PyStr → Prop) (New : PyStr → Prop)
    (db db' : Db) : Prop
  /-- Nothing that travels changes. -/
  | quiet (hcargo : db'.cargo = db.cargo)
  | drafted (t : LocalTransfer) (hopens : Opens t.transferUuid)
      (hid : t.id = nextId (·.id) db.transfers)
      (hdirection : t.direction = .outbound) (hdraft : t.status = .draft)
      (hserials : db'.serials = db.serials) (htransfers : db'.transfers = db.transfers ++ [t])
      (hitems : db'.transferItems = db.transferItems) (hnotices : db'.notices = db.notices)
  /-- An item of a draft comes or goes. -/
  | edited (t : LocalTransfer) (ht : OutgoingDraft db t) (hserials : db'.serials = db.serials)
      (htransfers : db'.transfers = db.transfers)
      (hothers : ∀ i, i.transferId ≠ t.id → (i ∈ db'.transferItems ↔ i ∈ db.transferItems))
      (hown : ∀ i, db'.Lists t i → db.Lists t i ∨ i.received = false)
      (hnotices : db'.notices = db.notices)
  /-- A draft leaves: its serials were here, and are on the road. -/
  | sent (t : LocalTransfer) (ht : OutgoingDraft db t) (now : Instant) (numbers : List PyStr)
      (hsome : ∃ i, db.Lists t i) (hnodup : numbers.Nodup)
      (hnumbers : ∀ number, number ∈ numbers ↔ ∃ i, db.Lists t i ∧ i.manifestSerialNumber = number)
      (hwere : ∀ number ∈ numbers, db.Here number)
      (hhere : ∀ number, db'.Here number ↔ db.Here number ∧ number ∉ numbers)
      (hoff : ∀ i id, db.Lists t i → i.serialId = some id → ¬ db.OnRoad id)
      (hroad : ∀ id, db'.OnRoad id ↔ db.OnRoad id ∨ ∃ i, db.Lists t i ∧ i.serialId = some id)
      (htransfers : db'.transfers = modifyRow (·.id) t.id
        (LocalTransfer.changed (LocalTransfer.dispatchedAs now)) db.transfers)
      (hitems : db'.transferItems = db.transferItems)
      (hannounced : db'.announced = db.announced ++ numbers.map fun number =>
        (t.transferUuid, t.peerCode, number))
      (hdispatches : db'.dispatches = db.dispatches ++ [t.transferUuid])
      (hreported : db'.reported = db.reported)
  /-- What was scanned of an incoming transfer is here. -/
  | received (t : LocalTransfer) (ht : t ∈ db.transfers) (hdirection : t.direction = .inbound)
      (hopen : t.status ≠ .draft) (now : Instant)
      (ids : List Nat) (hids : ∀ i ∈ db.transferItems, i.id ∈ ids ↔
        i.transferId = t.id ∧ i.scanned = true ∧ i.received = false)
      (hsome : ∃ i ∈ db.transferItems, i.id ∈ ids) (numbers : List PyStr) (hnodup : numbers.Nodup)
      (hnumbers : ∀ number, number ∈ numbers ↔
        ∃ i ∈ db.transferItems, i.id ∈ ids ∧ i.manifestSerialNumber = number)
      (hhere : ∀ number, db'.Here number ↔ db.Here number ∨ number ∈ numbers)
      (hroad : ∀ id, db'.OnRoad id ↔ db.OnRoad id ∧
        ¬ ∃ i ∈ db.transferItems, i.id ∈ ids ∧ i.serialId = some id)
      (change : LocalTransfer → LocalTransfer) (hpeer : (change t).peerCode = t.peerCode)
      (hstatus : ((∀ i, db.Lists t i → i.received = true ∨ i.scanned = true) →
        (change t).status = .received) ∧
        ((∃ i, db.Lists t i ∧ i.received = false ∧ i.scanned = false) →
          (change t).status = .partiallyReceived))
      (htransfers : db'.transfers =
        modifyRow (·.id) t.id (LocalTransfer.changed change) db.transfers)
      (hitems : db'.transferItems = modifyRows (·.id) ids
        (LocalTransferItem.changed (LocalTransferItem.receivedAs now)) db.transferItems)
      (hreported : db'.reported = db.reported ++ numbers.map fun number => (t.transferUuid, number))
      (hannounced : db'.announced = db.announced) (hdispatches : db'.dispatches = db.dispatches)
  /-- An incoming transfer comes with its manifest, and its serials are on the road. -/
  | came (t : LocalTransfer) (hid : t.id = nextId (·.id) db.transfers)
      (hdirection : t.direction = .inbound)
      (hawaiting : t.status = .awaitingReceipt) (items : List LocalTransferItem)
      (hof : ∀ i ∈ items, i.transferId = t.id ∧ i.received = false ∧
        Told t.transferUuid i.manifestSerialNumber)
      (hhere : ∀ number, db'.Here number → db.Here number)
      (hoff : ∀ i ∈ items, ∀ id, i.serialId = some id → ¬ db.OnRoad id)
      (hroad : ∀ id, db'.OnRoad id ↔ db.OnRoad id ∨ ∃ i ∈ items, i.serialId = some id)
      (htransfers : db'.transfers = db.transfers ++ [t])
      (hitems : db'.transferItems = db.transferItems ++ items) (hnotices : db'.notices = db.notices)
  /-- The destination received what Master's receipt names. -/
  | acknowledged (t : LocalTransfer) (ht : t ∈ db.transfers) (hdirection : t.direction = .outbound)
      (hleft : t.status ≠ .draft) (numbers : List PyStr)
      (hview : db'.receiptView = db.receiptView.report t.id numbers)
      (hpeers : db'.transfers.map (·.peerCode) = db.transfers.map (·.peerCode))
      (hnotices : db'.notices = db.notices)
  /-- Master gives out numbers. -/
  | created (numbers : List PyStr) (hnew : ∀ number ∈ numbers, New number)
      (hhere : ∀ number, db'.Here number → db.Here number ∨ number ∈ numbers)
      (hroad : ∀ id, db'.OnRoad id ↔ db.OnRoad id) (htransfers : db'.transfers = db.transfers)
      (hitems : db'.transferItems = db.transferItems) (hnotices : db'.notices = db.notices)

variable {Opens New : PyStr → Prop} {Told : PyStr → PyStr → Prop}

/-! ## The rows after a receipt -/

section Reported

variable {transferId : Nat} {numbers : List PyStr}
    (h : db'.receiptView = db.receiptView.report transferId numbers)
include h

/-- The items after a receipt. -/
theorem reported_items : db'.transferItems.map (·.marks) =
    db.transferItems.map fun i => i.marks.report transferId numbers :=
  (congrArg ReceiptView.items h).trans (List.map_map ..)

/-- The serials after a receipt. -/
theorem reported_serials : db'.serials =
    db.serials.map (ReceiptView.left (db.transferItems.map (·.marks)) transferId numbers) :=
  congrArg ReceiptView.serials h

/-- The transfers after a receipt, by their new items. -/
theorem reported_transfers : db'.transfers.map (·.marks) =
    db.transfers.map fun t =>
        ReceiptView.settled (db'.transferItems.map (·.marks)) transferId t.marks := by
  have hitems : db'.transferItems.map (·.marks) =
      db.receiptView.items.map (ItemMarks.report transferId numbers) :=
    congrArg ReceiptView.items h
  rw [hitems]
  exact (congrArg ReceiptView.transfers h).trans (List.map_map ..)

end Reported

/-! ## Nothing travels -/

/-- The cargo, but for what Master was told. -/
def Db.moving (db : Db) : List (Nat × PyStr × Bool × Bool) × List (TransferMarks × PyStr) ×
    List (Nat × Nat × Option Nat × PyStr × Bool) :=
  (db.serials.map Serial.cargo, db.transfers.map LocalTransfer.cargo,
    db.transferItems.map LocalTransferItem.cargo)

/-- Nothing travels where the rows and the events are as before. -/
theorem cargo_of_moving (hmoving : db'.moving = db.moving) (hnotices : db'.notices = db.notices) :
    db'.cargo = db.cargo := by
  obtain ⟨hserials, hrest⟩ := Prod.mk.inj hmoving
  obtain ⟨htransfers, hitems⟩ := Prod.mk.inj hrest
  unfold Db.cargo
  rw [hserials, htransfers, hitems, hnotices]

/-- A unit that is put into a location does not travel. -/
theorem placed_moving (id : Nat) (location : StorageLocation) :
    Tx.Keeps Db.moving (updateSerial id (Serial.placedAt location)) := by
  refine .modify fun db => Prod.ext (map_modifyRow fun _ _ _ => ?_) rfl
  rfl

/-- A submission moves no serial to or from the road. -/
theorem allowed_here {s : Serial} {batch : Batch} (hbatch : batch.batchType ≠ .audit)
    (h : serialAllowedForBatch s batch.batchType = .ok ()) :
    s.status ≠ .inTransit ∧ targetStatus batch s.status ≠ .inTransit := by
  have hstatus : s.status ≠ .inTransit := by
    intro htransit
    unfold serialAllowedForBatch at h
    rw [htransit] at h
    dsimp only at h
    split at h
    · cases h
    · rw [if_neg (by simp)] at h
      -- Every type but an audit asks for a status of stock.
      cases htype : batch.batchType with
      | audit => exact hbatch htype
      | _ => rw [htype] at h; simp [stockStatuses] at h
  refine ⟨hstatus, ?_⟩
  unfold targetStatus
  cases htype : batch.batchType with
  | audit => exact absurd htype hbatch
  | qrAssignment => exact hstatus
  | salesReturn =>
    dsimp only
    split <;> decide
  | _ => simp

/-- The serials of a submission are loaded as they are stored, and may be in the batch. -/
theorem submit_moving {s : Submitter} {loaded : LoadedBatch} {u : PUnit} (hk : db.Keyed)
    (hready : Ready rt (.submit s loaded) db) (hx : submit s loaded db = (.ok u, db')) :
    db'.moving = db.moving := by
  obtain ⟨-, -, hstatuses, -⟩ := hready
  have hallowed : ∀ l ∈ loaded.items,
      serialAllowedForBatch l.serial loaded.batch.batchType = .ok () := by
    unfold checkBatchStatuses at hstatuses
    by_cases hempty : loaded.items = []
    · rw [if_pos hempty] at hstatuses
      cases hstatuses
    · rw [if_neg hempty] at hstatuses
      obtain ⟨_, -, hstatuses⟩ := except_bind_ok.mp hstatuses
      obtain ⟨_, hmap, -⟩ := except_bind_ok.mp hstatuses
      intro l hl
      obtain ⟨⟨⟩, -, hok⟩ := (except_mapM_mem hmap).2 l hl
      exact hok
  obtain ⟨_, t₁, h₁, hx⟩ := Tx.bind_ok.mp hx
  let I (t : Db) : Prop := (t.serials.map (·.id)).Nodup ∧ t.moving = db.moving
  have hrounds : I t₁ := by
    refine Tx.each_ok (I := I) ?_ ⟨hk.serials, rfl⟩ h₁
    intro l hl t t' v ht hround
    obtain ⟨hids, hsame⟩ := ht
    obtain ⟨_, t₂, h₂, hround⟩ := Tx.bind_ok.mp hround
    have hrest : Tx.Keeps (fun t : Db => (t.serials, t.moving)) (do
        freezeItem loaded.batch l
        insertScanLog (itemScanLog s.user s.now loaded.batch l.serial)
        insertInventoryTransaction (itemTransaction s.user loaded.batch l.serial) : Tx PUnit) :=
      .bind (.ite (updateBatchItem_keeps (fun _ _ => rfl) _ _) (.pure _)) fun _ =>
        .bind (insertScanLog_keeps (fun _ _ => rfl) _) fun _ =>
          insertInventoryTransaction_keeps (fun _ _ => rfl) _
    have hkept := hrest t₂
    rw [hround] at hkept
    obtain ⟨hserials, hmoving⟩ := Prod.mk.inj hkept
    have hclaimed : I t₂ := by
      unfold claimForBatch at h₂
      by_cases haudit : loaded.batch.batchType = .audit
      · rw [if_pos haudit] at h₂
        obtain ⟨-, rfl⟩ := Tx.pure_ok.mp h₂
        exact ⟨hids, hsame⟩
      · rw [if_neg haudit] at h₂
        obtain ⟨⟨r, hr, hid, hfrom, -⟩, rfl⟩ := claimSerial_ok h₂
        obtain ⟨hfrom', hto⟩ := allowed_here haudit (hallowed l hl)
        constructor
        · have hsameIds : (modifyRow (·.id) l.serial.id (Serial.changed fun s =>
              { s with status := targetStatus loaded.batch l.serial.status })
                t.serials).map (·.id) =
              t.serials.map (·.id) := map_modifyRow fun _ _ _ => rfl
          exact hsameIds.symm ▸ hids
        · have hmap : (modifyRow (·.id) l.serial.id (Serial.changed fun s =>
              { s with status := targetStatus loaded.batch l.serial.status }) t.serials).map
                Serial.cargo =
              t.serials.map Serial.cargo := by
            refine map_modifyRow fun q hq hqid => ?_
            -- The claimed serial is the one that is stored, and it is here before and after.
            obtain rfl := eq_of_key_eq hids hq hr (hqid.trans hid.symm)
            have hbefore : q.status ≠ .inTransit := hfrom ▸ hfrom'
            unfold Serial.cargo Serial.here Serial.onRoad Serial.changed
            simp [hbefore, hto]
          refine Eq.trans (b := t.moving) ?_ hsame
          exact Prod.ext hmap rfl
    exact ⟨hserials ▸ hclaimed.1, hmoving.trans hclaimed.2⟩
  have hend : Tx.Keeps Db.moving (do
      updateBatch loaded.batch.id .pendingSync (some s.now)
      let _ ← enqueueBatchSubmittedEvent s loaded.batch
        (loaded.items.map (LoadedItem.submitted loaded.batch))
      pure ⟨⟩ : Tx PUnit) :=
    .bind (updateBatch_keeps (fun _ _ => rfl) _ _ _) fun _ =>
      .bind (enqueueBatchSubmittedEvent_keeps (fun _ _ _ => rfl) _ _ _) fun _ => .pure _
  have hkept := hend t₁
  rw [hx] at hkept
  exact hkept.trans hrounds.2

/-- A scan of an incoming item moves nothing. -/
theorem scanTransferItem_moving (item : LocalTransferItem) (now : Instant) :
    Tx.Keeps Db.moving (scanTransferItem item now) := by
  refine .bind (.reads _) fun _ => .bind (.raiseIf _ _) fun _ => .modify fun db => ?_
  exact Prod.ext rfl (Prod.ext rfl (map_modifyRow fun _ _ _ => rfl))

/-- The commits that move nothing. -/
def StockCommit.quiet : StockCommit → Bool
  | .createTransfer _ | .addTransferItem _ | .removeTransferItem _ | .dispatch _ _
    | .receive _ _ => false
  | _ => true

/-- Batches, scans and shelves move nothing between franchises. -/
theorem quiet_cargo {c : StockCommit} {u : PUnit} (hc : c.quiet = true) (hk : db.Keyed)
    (hready : Ready rt c db) (hx : writesOf c db = (.ok u, db')) : db'.cargo = db.cargo := by
  -- A write that neither dispatches nor receives queues no event.
  have hnotices : db'.notices = db.notices := by
    refine writesOf_notices ?_ ?_ db db' u rfl hx <;> intro s loaded he <;> rw [he] at hc
      <;> cases hc
  refine cargo_of_moving ?_ hnotices
  have hkept : Tx.Keeps Db.moving (writesOf c) → db'.moving = db.moving := by
    intro h
    have := h db
    rwa [hx] at this
  -- The others write neither transfers nor serials that move.
  cases c with
  | createBatch row => exact hkept (insertBatch_keeps (fun _ _ => rfl) _)
  | logScan row => exact hkept (insertScanLog_keeps (fun _ _ => rfl) _)
  | scanItem item log => exact hkept (addItem_keeps (fun _ _ => rfl) (fun _ _ => rfl) _ _)
  | pickItems picks => exact hkept (addItems_keeps (fun _ _ => rfl) (fun _ _ => rfl) _)
  | removeItem itemId => exact hkept (deleteBatchItem_keeps (fun _ _ => rfl) _)
  | setRates items rate => exact hkept (setRates_keeps (.of_frame fun _ _ => rfl) _ _)
  | verifyShelf batch pending location user now =>
    exact hkept (.bind (.each (fun _ => .bind (updateBatchItem_keeps (fun _ _ => rfl) _ _)
      fun _ => placed_moving _ _) _) fun _ => insertScanLog_keeps (fun _ _ => rfl) _)
  | returnItem itemId log => exact hkept (returnItem_keeps (fun _ _ => rfl) (fun _ _ => rfl) _ _)
  | verifyReturn batch pending location user now =>
    have hplace : ∀ log, Tx.Keeps Db.moving (placeReturn location log) := by
      intro log
      refine .bind (updateScanLog_keeps (fun _ _ => rfl) _ _ _) fun _ => ?_
      split
      · exact placed_moving _ _
      · exact .pure _
    exact hkept (.bind (.each hplace _) fun _ => insertScanLog_keeps (fun _ _ => rfl) _)
  | submit s loaded => exact submit_moving hk hready hx
  | scanTransferItem item now => exact hkept (scanTransferItem_moving item now)
  | createTransfer row => cases hc
  | addTransferItem row => cases hc
  | removeTransferItem itemId => cases hc
  | dispatch s loaded => cases hc
  | receive s loaded => cases hc

/-- Nor does a move between the locations of a node. -/
theorem relocateStock_cargo {m : Move} {u : PUnit} (hx : relocateStock st m db = (.ok u, db')) :
    db'.cargo = db.cargo := by
  have hserial : ∀ destination relocationId reference note s,
      Tx.Keeps Db.moving (moveSerial m destination relocationId reference note s) :=
        fun _ _ _ _ _ =>
    .bind (placed_moving _ _) fun _ =>
      .bind (insertRelocationSerial_keeps (fun _ _ => rfl) _ _) fun _ =>
      .bind (insertScanLog_keeps (fun _ _ => rfl) _) fun _ =>
        insertInventoryTransaction_keeps (fun _ _ => rfl) _
  have hlines : ∀ destination (items : List (MoveItem × PyStr)) claimed,
      Tx.Keeps Db.moving (moveLines m destination claimed items) := by
    intro destination items
    induction items with
    | nil => exact fun _ => .pure _
    | cons line items ih =>
      intro claimed
      have hline : Tx.Keeps Db.moving (moveLine m destination (claimed.map (·.id)) line.1 line.2) :=
        .bind (.lift _) fun _ => .bind (.reads _) fun _ => .bind (.raiseIf _ _) fun _ =>
          .bind (.raiseIf _ _) fun _ => .bind (insertRelocation_keeps (fun _ _ => rfl) _) fun _ =>
            .bind (.each (fun _ => hserial _ _ _ _ _) _) fun _ => .pure _
      exact .bind hline fun _ => ih _
  have hall : Tx.Keeps Db.moving (relocateStock st m) :=
    .bind (.reads _) fun _ => .bind (.lift _) fun _ => .bind (.raiseIf _ _) fun _ =>
      .mapError (.bind (hlines _ _ _) fun _ => enqueueMoved_keeps (fun _ _ _ => rfl) _ _ _ _ _ _)
  have hkept := hall db
  rw [hx] at hkept
  exact cargo_of_moving hkept (relocateStock_notices st m db db' u rfl hx)

/-! ## Dispatch and receipt -/

/-- The stored row of a serial that was loaded for an item. -/
theorem loaded_serial {loaded : LoadedTransfer} (hfrom : loaded.From db) {l : LoadedTransferItem}
    (hl : l ∈ loaded.items) {s : Serial} (hs : l.serial = some s) :
    s ∈ db.serials ∧ l.item.serialId = some s.id ∧ db.Lists loaded.transfer l.item := by
  have hstored := hfrom.serials l hl
  rw [hs] at hstored
  obtain ⟨id, hid, hlookup⟩ := Option.bind_eq_some_iff.mp hstored.symm
  obtain ⟨hmem, rfl⟩ := lookup_some hlookup
  have hitem : l.item ∈ db.transferItemsOf loaded.transfer.id := by
    rw [← hfrom.items]
    exact List.mem_map_of_mem hl
  obtain ⟨hitem, hof⟩ := List.mem_filter.mp hitem
  exact ⟨hmem, hid, hitem, by simpa using hof⟩

/-- The items of a loaded transfer are the stored ones. -/
theorem LoadedTransfer.From.lists {loaded : LoadedTransfer} (hfrom : loaded.From db)
    {i : LocalTransferItem} :
    db.Lists loaded.transfer i ↔ ∃ l ∈ loaded.items, l.item = i := by
  have hmem : i ∈ db.transferItemsOf loaded.transfer.id ↔ db.Lists loaded.transfer i := by
    unfold Db.transferItemsOf Db.Lists
    rw [List.mem_filter, decide_eq_true_eq]
  rw [← hmem, ← hfrom.items, List.mem_map]

/-- Every element on the left has its partner. -/
theorem forall₂_mem_left {α β : Type} {R : α → β → Prop} {as : List α} {bs : List β}
    (h : List.Forall₂ R as bs) {a : α} (ha : a ∈ as) : ∃ b ∈ bs, R a b := by
  induction h with
  | nil => cases ha
  | cons hab _ ih =>
    rcases List.mem_cons.mp ha with rfl | ha
    · exact ⟨_, List.mem_cons_self, hab⟩
    · obtain ⟨b, hb, hr⟩ := ih ha
      exact ⟨b, List.mem_cons_of_mem _ hb, hr⟩

/-- Every element on the right has its partner. -/
theorem forall₂_mem_right {α β : Type} {R : α → β → Prop} {as : List α} {bs : List β}
    (h : List.Forall₂ R as bs) {b : β} (hb : b ∈ bs) : ∃ a ∈ as, R a b := by
  obtain ⟨a, ha, hr⟩ := forall₂_mem_left h.flip hb
  exact ⟨a, ha, hr⟩

/-- The numbers of items are those of the serials that were loaded for them. -/
theorem numbers_eq {items : List LoadedTransferItem} {serials : List Serial}
    (h : List.Forall₂ (fun l s => l.serial = some s) items serials) :
    LoadedTransferItem.numbers items = serials.map (·.serialNumber) := by
  induction h with
  | nil => rfl
  | @cons l s items serials hl _ ih =>
    have hnumber : l.serial.map (·.serialNumber) = some s.serialNumber := by rw [hl]; rfl
    unfold LoadedTransferItem.numbers at ih ⊢
    rw [List.filterMap_cons_some (f := fun l : LoadedTransferItem => l.serial.map (·.serialNumber))
      hnumber, ih]
    rfl

/-- Sorting a manifest changes its order only. -/
theorem numbers_manifestOrder (items : List LoadedTransferItem) :
    (LoadedTransferItem.numbers (manifestOrder items)).Perm (LoadedTransferItem.numbers items) :=
  (List.perm_insertionSort _ items).filterMap _

/-- The serials of a loop are the stored ones of its items, claimable, and no two are one. -/
structure Claimed (m : TransferMove) (items : List LoadedTransferItem) (serials : List Serial)
    (db : Db) : Prop where
  stored : ∀ s ∈ serials, s ∈ db.serials ∧ s.active = true ∧ s.status = m.statusFrom
  forth : ∀ l ∈ items, ∃ s ∈ serials, l.item.serialId = some s.id ∧
    l.item.manifestSerialNumber = s.serialNumber
  back : ∀ s ∈ serials, ∃ l ∈ items, l.item.serialId = some s.id ∧
    l.item.manifestSerialNumber = s.serialNumber
  nodup : (serials.map (·.serialNumber)).Nodup

namespace Claimed

variable {m : TransferMove} {items : List LoadedTransferItem} {serials : List Serial}

/-- The serials that a dispatch or a receipt changed are those of its items. -/
theorem of_moved {loaded : LoadedTransfer} {logs : List InventoryTransaction} (hk : db.Keyed)
    (hn : db.Named) (hfrom : loaded.From db) (hitems : ∀ l ∈ items, l ∈ loaded.items)
    (h : m.Moved items serials logs db db') :
    Claimed m items serials db := by
  have hpair : ∀ {l s}, l ∈ items → l.serial = some s →
      l.item.serialId = some s.id ∧ l.item.manifestSerialNumber = s.serialNumber := by
    intro l s hl hs
    obtain ⟨hmem, hid, hitem, -⟩ := loaded_serial hfrom (hitems l hl) hs
    exact ⟨hid, hn.item_number (s := s) hk hitem hmem hid⟩
  have hstored : ∀ s ∈ serials, s ∈ db.serials ∧ s.active = true ∧ s.status = m.statusFrom := by
    intro s hs
    obtain ⟨l, hl, he⟩ := forall₂_mem_right h.loaded hs
    obtain ⟨hmem, -⟩ := loaded_serial hfrom (hitems l hl) he
    obtain ⟨r, hr, hid, hstatus, hactive⟩ := h.claimed s hs
    obtain rfl := hk.serial_eq hr hmem hid
    exact ⟨hmem, hactive, hstatus⟩
  refine ⟨hstored, fun l hl => ?_, fun s hs => ?_, ?_⟩
  · obtain ⟨s, hs, he⟩ := forall₂_mem_left h.loaded hl
    exact ⟨s, hs, hpair hl he⟩
  · obtain ⟨l, hl, he⟩ := forall₂_mem_right h.loaded hs
    exact ⟨l, hl, hpair hl he⟩
  · refine (List.Nodup.of_map _ h.distinct).map_on fun s hs q hq he => ?_
    exact eq_of_key_eq (show (db.serials.map (·.serialNumber)).Nodup from hk.serialNumbers)
      (hstored s hs).1
      (hstored q hq).1 he

/-- A stored serial under the id of a claimed one is that one. -/
theorem mem (h : Claimed m items serials db) (hk : db.Keyed) {r : Serial} (hr : r ∈ db.serials)
    (hid : r.id ∈ serials.map (·.id)) : r ∈ serials := by
  obtain ⟨s, hs, he⟩ := List.mem_map.mp hid
  rwa [← hk.serial_eq (h.stored s hs).1 hr he]

/-- The claimed serials, by number. -/
theorem numbered (h : Claimed m items serials db) (hk : db.Keyed) {number : PyStr} :
    (∃ r ∈ db.serials, r.id ∈ serials.map (·.id) ∧ r.serialNumber = number) ↔
      number ∈ serials.map (·.serialNumber) := by
  constructor
  · intro ⟨r, hr, hid, hnumber⟩
    exact List.mem_map.mpr ⟨r, h.mem hk hr hid, hnumber⟩
  · intro hnumber
    obtain ⟨s, hs, he⟩ := List.mem_map.mp hnumber
    exact ⟨s, (h.stored s hs).1, List.mem_map_of_mem hs, he⟩

/-- The claimed serials, by id, are those of the items. -/
theorem identified (h : Claimed m items serials db) (hk : db.Keyed) {id : Nat} :
    (∃ r ∈ db.serials, r.id ∈ serials.map (·.id) ∧ r.id = id) ↔
      ∃ l ∈ items, l.item.serialId = some id := by
  constructor
  · intro ⟨r, hr, hid, he⟩
    obtain ⟨l, hl, hserial, -⟩ := h.back r (h.mem hk hr hid)
    exact ⟨l, hl, he ▸ hserial⟩
  · intro ⟨l, hl, hserial⟩
    obtain ⟨s, hs, hid, -⟩ := h.forth l hl
    exact ⟨s, (h.stored s hs).1, List.mem_map_of_mem hs, Option.some.inj (hid.symm.trans hserial)⟩

/-- The numbers of the items are those of the serials. -/
theorem listed (h : Claimed m items serials db) {number : PyStr} :
    number ∈ serials.map (·.serialNumber) ↔ ∃ l ∈ items, l.item.manifestSerialNumber = number := by
  rw [List.mem_map]
  constructor
  · intro ⟨s, hs, he⟩
    obtain ⟨l, hl, -, hnumber⟩ := h.back s hs
    exact ⟨l, hl, hnumber.trans he⟩
  · intro ⟨l, hl, he⟩
    obtain ⟨s, hs, -, hnumber⟩ := h.forth l hl
    exact ⟨s, hs, hnumber.symm.trans he⟩

end Claimed

/-- A dispatch sends the serials of the transfer's items. -/
theorem dispatch_shipment (hk : db.Keyed) (hn : db.Named) {s : Submitter} {loaded : LoadedTransfer}
    {u : PUnit} (hready : Ready rt (.dispatch s loaded) db)
    (hx : dispatch s loaded db = (.ok u, db')) :
    Shipment Opens Told New db db' := by
  obtain ⟨hfrom, hdirection, hdraft, hsome⟩ := hready
  obtain ⟨hannounced, hdispatches, hreported⟩ := dispatch_announced hx
  obtain ⟨serials, logs, db₁, items, row, hmoved, hqueued⟩ := (dispatch_ok hx).rows
  have hclaimed := Claimed.of_moved hk hn hfrom (fun _ hl => hl) hmoved
  obtain rfl := hmoved.rows
  have hserials : db'.serials = modifyRows (·.id) (serials.map (·.id))
      (Serial.changed fun s => { s with status := .inTransit }) db.serials := by
    rw [hqueued.appended]
    rfl
  -- The manifest lists the numbers in its own order.
  have hperm : (LoadedTransferItem.numbers (manifestOrder loaded.items)).Perm
      (serials.map (·.serialNumber)) :=
    numbers_eq hmoved.loaded ▸ numbers_manifestOrder loaded.items
  -- What is dispatched was checked: active, and in stock.
  have hstatus : ∀ r ∈ serials, r.active = true ∧ r.status = .inStock :=
    fun r hr => (hclaimed.stored r hr).2
  refine .sent loaded.transfer ⟨(lookup_some hfrom.transfer).1, hdirection, hdraft⟩ s.now _ ?_
    (hperm.nodup_iff.mpr hclaimed.nodup) ?_ ?_ ?_ ?_ ?_ ?_ ?_ hannounced hdispatches hreported
  · obtain ⟨l, hl⟩ := List.exists_mem_of_ne_nil _ hsome
    exact ⟨l.item, hfrom.lists.mpr ⟨l, hl, rfl⟩⟩
  · intro number
    rw [hperm.mem_iff, hclaimed.listed]
    simp only [hfrom.lists]
    constructor
    · intro ⟨l, hl, he⟩
      exact ⟨l.item, ⟨l, hl, rfl⟩, he⟩
    · intro ⟨_, ⟨l, hl, rfl⟩, he⟩
      exact ⟨l, hl, he⟩
  · intro number hnumber
    obtain ⟨r, hr, rfl⟩ := List.mem_map.mp (hperm.mem_iff.mp hnumber)
    obtain ⟨hactive, hstock⟩ := hstatus r hr
    exact ⟨r, (hclaimed.stored r hr).1, rfl, Serial.here_iff.mpr ⟨hactive, by rw [hstock]; decide⟩⟩
  -- Of the numbers on the manifest none is here afterwards.
  · intro number
    rw [hperm.mem_iff, ← hclaimed.numbered hk]
    unfold Db.Here
    rw [hserials]
    exact exists_modifyRows_off hk.serialNumbers fun r _ _ => by simp [Serial.here, Serial.changed]
  -- Nothing of the transfer was on the road: its units were in stock.
  · intro i id hi hid hroad
    obtain ⟨l, hl, rfl⟩ := hfrom.lists.mp hi
    obtain ⟨r, hr, hserial, -⟩ := hclaimed.forth l hl
    obtain ⟨q, hq, hqid, hon⟩ := hroad
    obtain rfl := hk.serial_eq (hclaimed.stored r hr).1 hq
      ((Option.some.inj (hserial.symm.trans hid)).trans hqid.symm)
    have htransit : r.status = .inTransit := (Serial.onRoad_iff.mp hon).2
    exact absurd ((hstatus r hr).2.symm.trans htransit) (by decide)
  -- And all of it is now.
  · intro id
    have hitems : (∃ i, db.Lists loaded.transfer i ∧ i.serialId = some id) ↔
        ∃ l ∈ loaded.items, l.item.serialId = some id := by
      simp only [hfrom.lists]
      constructor
      · intro ⟨_, ⟨l, hl, rfl⟩, he⟩
        exact ⟨l, hl, he⟩
      · intro ⟨l, hl, he⟩
        exact ⟨l.item, ⟨l, hl, rfl⟩, he⟩
    rw [hitems, ← hclaimed.identified hk]
    unfold Db.OnRoad
    rw [hserials]
    refine exists_modifyRows_on (fun _ => rfl) fun r hr hid => ?_
    exact Serial.onRoad_iff.mpr ⟨(hstatus r (hclaimed.mem hk hr hid)).1, rfl⟩
  · rw [hqueued.appended]
  · rw [hqueued.appended]
    rfl

/-- A receipt receives the items that were scanned. -/
theorem receive_shipment (hk : db.Keyed) (hn : db.Named) {s : Submitter} {loaded : LoadedTransfer}
    {u : PUnit} (hready : Ready rt (.receive s loaded) db)
    (hx : receive s loaded db = (.ok u, db')) :
    Shipment Opens Told New db db' := by
  obtain ⟨hfrom, hdirection, hreceivable, hsome⟩ := hready
  have hopen : loaded.transfer.status ≠ .draft :=
    fun hdraft => absurd (hdraft ▸ hreceivable) (by decide)
  obtain ⟨hreported, hannounced, hdispatches⟩ := receive_reported hx
  obtain ⟨serials, logs, db₁, items, row, hmoved, hqueued⟩ := (receive_ok hx).rows
  have hclaimed : Claimed (receiptMove s loaded.transfer) loaded.receiptItems serials db :=
    Claimed.of_moved hk hn hfrom (fun _ hl => List.mem_of_mem_filter hl) hmoved
  obtain rfl := hmoved.rows
  have hserials : db'.serials = modifyRows (·.id) (serials.map (·.id))
      (Serial.changed fun s => { s with status := .inStock }) db.serials := by
    rw [hqueued.appended]
    rfl
  have hstatus : ∀ r ∈ serials, r.active = true ∧ r.status = .inTransit :=
    fun r hr => (hclaimed.stored r hr).2
  rw [numbers_eq hmoved.loaded] at hreported
  -- The items of the receipt are the scanned, unreceived items of the transfer.
  have hreceipt : ∀ i, (∃ l ∈ loaded.receiptItems, l.item = i) ↔
      db.Lists loaded.transfer i ∧ i.scanned = true ∧ i.received = false := by
    intro i
    rw [hfrom.lists]
    unfold LoadedTransfer.receiptItems
    constructor
    · intro ⟨l, hl, he⟩
      obtain ⟨hl, hscanned⟩ := List.mem_filter.mp hl
      rw [Bool.and_eq_true, Bool.not_eq_true', he] at hscanned
      exact ⟨⟨l, hl, he⟩, hscanned⟩
    · intro ⟨⟨l, hl, he⟩, hscanned⟩
      refine ⟨l, List.mem_filter.mpr ⟨hl, ?_⟩, he⟩
      rw [Bool.and_eq_true, Bool.not_eq_true', he]
      exact hscanned
  have hids : ∀ i ∈ db.transferItems, i.id ∈ loaded.receiptItems.map (·.item.id) ↔
      ∃ l ∈ loaded.receiptItems, l.item = i := by
    intro i hi
    rw [List.mem_map]
    constructor
    · intro ⟨l, hl, he⟩
      have hmem : l.item ∈ db.transferItems := ((hreceipt l.item).mp ⟨l, hl, rfl⟩).1.1
      exact ⟨l, hl,
        eq_of_key_eq (show (db.transferItems.map (·.id)).Nodup from hk.transferItems) hmem hi he⟩
    · intro ⟨l, hl, he⟩
      exact ⟨l, hl, congrArg LocalTransferItem.id he⟩
  have hrow : ∀ {P : LocalTransferItem → Prop}, (∃ i ∈ db.transferItems,
      i.id ∈ loaded.receiptItems.map (·.item.id) ∧ P i) ↔ ∃ l ∈ loaded.receiptItems, P l.item := by
    intro P
    constructor
    · intro ⟨i, hi, hin, hp⟩
      obtain ⟨l, hl, rfl⟩ := (hids i hi).mp hin
      exact ⟨l, hl, hp⟩
    · intro ⟨l, hl, hp⟩
      exact ⟨l.item, ((hreceipt l.item).mp ⟨l, hl, rfl⟩).1.1, List.mem_map_of_mem
        (f := fun l : LoadedTransferItem => l.item.id) hl, hp⟩
  refine .received loaded.transfer (lookup_some hfrom.transfer).1 hdirection hopen s.now
    (loaded.receiptItems.map (·.item.id)) ?_ ?_ (serials.map (·.serialNumber))
      hclaimed.nodup ?_ ?_ ?_
    (LocalTransfer.afterReceipt s.now loaded.items) ?_ ?_ ?_ ?_ hreported hannounced hdispatches
  · intro i hi
    rw [hids i hi, hreceipt i]
    unfold Db.Lists
    rw [and_assoc, and_iff_right hi]
  · obtain ⟨l, hl⟩ := List.exists_mem_of_ne_nil _ hsome
    exact ⟨l.item, ((hreceipt l.item).mp ⟨l, hl, rfl⟩).1.1, List.mem_map_of_mem
      (f := fun l : LoadedTransferItem => l.item.id) hl⟩
  · intro number
    rw [hclaimed.listed, hrow]
  · intro number
    rw [← hclaimed.numbered hk]
    unfold Db.Here
    rw [hserials]
    refine exists_modifyRows_on (fun _ => rfl) fun r hr hid => ?_
    exact Serial.here_iff.mpr ⟨(hstatus r (hclaimed.mem hk hr hid)).1, by simp [Serial.changed]⟩
  · intro id
    rw [hrow, ← hclaimed.identified hk]
    unfold Db.OnRoad
    rw [hserials]
    exact exists_modifyRows_off hk.serials fun r _ _ => by simp [Serial.onRoad, Serial.changed]
  · unfold LocalTransfer.afterReceipt
    split <;> rfl
  · unfold LocalTransfer.afterReceipt
    constructor
    · intro hall
      rw [if_pos]
      rw [List.all_eq_true]
      intro l hl
      rw [Bool.or_eq_true]
      exact hall l.item (hfrom.lists.mpr ⟨l, hl, rfl⟩)
    · intro ⟨i, hi, hunreceived, hunscanned⟩
      obtain ⟨l, hl, rfl⟩ := hfrom.lists.mp hi
      rw [if_neg]
      intro hall
      have hdone := List.all_eq_true.mp hall l hl
      rw [hunreceived, hunscanned] at hdone
      cases hdone
  · rw [hqueued.appended]
  · rw [hqueued.appended]
    rfl

/-! ## Requests -/

/-- The transactions of requests; a draft is opened under its own UUID. -/
theorem ready_shipment (hk : db.Keyed) (hn : db.Named) {c : StockCommit}
    (hopens : ∀ row, c = .createTransfer row → Opens row.transferUuid) (hready : Ready rt c db)
    (hx : writesOf c db = (.ok ⟨⟩, db')) : Shipment Opens Told New db db' := by
  -- Four writes of transfers are left, and the quiet ones.
  by_cases hquiet : c.quiet = true
  · exact .quiet (quiet_cargo hquiet hk hready hx)
  have hnotices : (∀ s loaded, c ≠ .dispatch s loaded) → (∀ s loaded, c ≠ .receive s loaded) →
      db'.notices = db.notices := fun hdispatch hreceive =>
    writesOf_notices hdispatch hreceive db db' ⟨⟩ rfl hx
  cases c with
  | createTransfer row =>
    have hsame := hnotices (fun _ _ he => nomatch he) fun _ _ he => nomatch he
    obtain ⟨_, t₁, hinsert, hx⟩ := Tx.bind_ok.mp hx
    obtain ⟨-, rfl⟩ := Tx.pure_ok.mp hx
    obtain ⟨rfl, -, rfl⟩ := insertTransfer_ok hinsert
    exact .drafted { row with id := nextId (·.id) db.transfers } (hopens row rfl) rfl hready.1
      hready.2 rfl rfl rfl
      hsame
  | addTransferItem row =>
    obtain ⟨t, serial, product, hlookup, hdirection, hdraft, hrow, -⟩ := hready
    have hsame := hnotices (fun _ _ he => nomatch he) fun _ _ he => nomatch he
    obtain ⟨_, t₁, hinsert, hx⟩ := Tx.bind_ok.mp hx
    obtain ⟨-, rfl⟩ := Tx.pure_ok.mp hx
    obtain ⟨rfl, -, rfl⟩ := insertTransferItem_ok hinsert
    refine .edited t ⟨(lookup_some hlookup).1, hdirection, hdraft⟩ rfl rfl ?_ ?_ hsame
    -- The items of other transfers are untouched, as the new one is of this transfer.
    · intro i hi
      refine ⟨fun hmem => (List.mem_append.mp hmem).resolve_right fun hlast => hi ?_,
        List.mem_append_left _⟩
      rw [List.mem_singleton.mp hlast, hrow]
      rfl
    · intro i ⟨hmem, hof⟩
      refine (List.mem_append.mp hmem).imp (fun hold => ⟨hold, hof⟩) fun hlast => ?_
      rw [List.mem_singleton.mp hlast, hrow]
      rfl
  | removeTransferItem itemId =>
    obtain ⟨t, item, hlookup, hdirection, hdraft, hitem, rfl, hof⟩ := hready
    have hsame := hnotices (fun _ _ he => nomatch he) fun _ _ he => nomatch he
    have hdelete : deleteTransferItem item.id db = (.ok ⟨⟩, db') := hx
    unfold deleteTransferItem at hdelete
    obtain rfl := Tx.modify_ok.mp hdelete
    refine .edited t ⟨(lookup_some hlookup).1, hdirection, hdraft⟩ rfl rfl ?_ ?_ hsame
    · intro i hi
      refine ⟨fun hmem => List.mem_of_mem_filter hmem, fun hmem => List.mem_filter.mpr ⟨hmem, ?_⟩⟩
      refine decide_eq_true fun he => hi ?_
      rw [eq_of_key_eq (show (db.transferItems.map (·.id)).Nodup from hk.transferItems) hmem
        hitem he, hof]
    · exact fun i ⟨hmem, hof'⟩ => Or.inl ⟨List.mem_of_mem_filter hmem, hof'⟩
  | dispatch s loaded => exact dispatch_shipment hk hn hready hx
  | receive s loaded => exact receive_shipment hk hn hready hx
  | _ => exact absurd rfl hquiet

/-- A move between locations is quiet. -/
theorem relocateStock_shipment {m : Move} {u : PUnit} (hx : relocateStock st m db = (.ok u, db')) :
    Shipment Opens Told New db db' := .quiet (relocateStock_cargo hx)

/-! ## What Master tells a node -/

/-- The numbers of a manifest's items. -/
def manifestNumbers (rt : Runtime) (manifest : List Json) : List PyStr :=
  manifest.filterMap fun item => (parseManifestItem rt [] item).toOption.map (·.serialNumber)

/-- The destination that an incoming transfer names. -/
def destinationOf (rt : Runtime) (data : List (PyStr × Json)) : PyStr :=
  normalizeFranchiseCode ((firstTruthy
    [getItem data (py "destination_franchise_code"),
      getItem data (py "destination_code")]).textOrEmpty rt)

/-- A line that is accepted after others would be accepted alone. -/
theorem parseManifestItem_alone {seen : List PyStr} {item : Json} {parsed : ManifestItem}
    (h : parseManifestItem rt seen item = .ok parsed) :
    parseManifestItem rt [] item = .ok parsed := by
  unfold parseManifestItem at h ⊢
  cases item with
  | obj item =>
    dsimp only at h ⊢
    split at h
    next product serial _ _ =>
      split at h
      · cases h
      next hnumber =>
        rw [if_neg hnumber, if_neg List.not_mem_nil]
        split at h
        · cases h
        · exact h
    next => cases h
  | _ => cases h

/-- What every item of a manifest keeps, for the numbers of the manifest. -/
theorem receiveManifest_numbers {transferId : Nat} {I : Db → Prop} {numbers : List PyStr}
    (hstep : ∀ number db db', number ∈ numbers → I db →
      ManifestItemReceived transferId number db db' → I db')
    {items : List Json} (hnumbers : ∀ number ∈ manifestNumbers rt items, number ∈ numbers) :
    ∀ seen, Tx.Preserves I (receiveManifest rt now transferId seen items) := by
  induction items with
  | nil => exact fun _ => .pure _
  | cons item items ih =>
    intro seen db db' u hI h
    obtain ⟨parsed, t₁, h₁, h⟩ := Tx.bind_ok.mp h
    obtain ⟨hparsed, rfl⟩ := Tx.lift_ok.mp h₁
    obtain ⟨_, t₂, h₂, h⟩ := Tx.bind_ok.mp h
    have hmem : parsed.serialNumber ∈ manifestNumbers rt (item :: items) :=
      List.mem_filterMap.mpr
        ⟨item, List.mem_cons_self, by rw [parseManifestItem_alone hparsed]; rfl⟩
    have hrest : ∀ number ∈ manifestNumbers rt items, number ∈ numbers := by
      intro number hnumber
      obtain ⟨i, hi, he⟩ := List.mem_filterMap.mp hnumber
      exact hnumbers number (List.mem_filterMap.mpr ⟨i, List.mem_cons_of_mem _ hi, he⟩)
    exact ih hrest _ t₂ db' u (hstep _ _ _ (hnumbers _ hmem) hI (receiveManifestItem_ok h₂)) h

/-- A serial that arrives was not on the road, and now is; it is the only one that changes. -/
theorem Arrives.road {number : PyStr} {s : Serial} {serials : List Serial}
    (h : Arrives db number s serials) (hids : (db.serials.map (·.id)).Nodup) :
    ¬ db.OnRoad s.id ∧ (serials.map (·.id)).Nodup ∧
      (∀ id, (∃ q ∈ serials, q.id = id ∧ q.onRoad = true) ↔ db.OnRoad id ∨ s.id = id) ∧
      ∀ q ∈ serials, q.here = true → q ∈ db.serials := by
  -- A number that arrives is known here, and its unit comes back, or a new unit is made.
  cases h with
  | @back stored hmem _ hinactive _ _ c =>
    have hsame : (modifyRow (·.id) stored.id (Serial.changed c.over) db.serials).map (·.id) =
        db.serials.map (·.id) :=
      map_modifyRow fun _ _ _ => rfl
    refine ⟨fun ⟨q, hq, hid, hon⟩ => ?_, hsame.symm ▸ hids, fun id => ?_, fun q hq hhere => ?_⟩
    · obtain rfl := eq_of_key_eq hids hq hmem hid
      rw [(Serial.onRoad_iff.mp hon).1] at hinactive
      cases hinactive
    · rw [← modifyRows_singleton,
        exists_modifyRows_on (g := Serial.changed c.over) (f := fun s : Serial => s.id)
        (p := Serial.onRoad) (fun _ => rfl) fun _ _ _ => rfl]
      refine or_congr_right
        ⟨fun ⟨r, _, hin, hid⟩ => ?_, fun hid => ⟨stored, hmem, List.mem_singleton_self _, hid⟩⟩
      rw [← hid]
      exact (List.mem_singleton.mp hin).symm
    · obtain ⟨r, hr, rfl⟩ := mem_modifyRow.mp hq
      by_cases hid : r.id = stored.id
      · rw [if_pos hid] at hhere
        exact absurd rfl (Serial.here_iff.mp hhere).2
      · rw [if_neg hid]
        exact hr
  | new hunused c productId now =>
    refine ⟨fun ⟨q, hq, hid, _⟩ => nextId_fresh hq hid, nodup_append_nextId hids rfl, fun id => ?_,
      fun q hq hhere => ?_⟩
    · constructor
      · intro ⟨q, hq, hid, hon⟩
        refine (List.mem_append.mp hq).imp (fun hq => ⟨q, hq, hid, hon⟩) fun hq => ?_
        rw [← hid, List.mem_singleton.mp hq]
      · intro hcase
        rcases hcase with ⟨q, hq, hrest⟩ | hid
        · exact ⟨q, List.mem_append_left _ hq, hrest⟩
        · exact ⟨_, List.mem_append_right _ (List.mem_singleton_self _), hid, rfl⟩
    · refine (List.mem_append.mp hq).resolve_right fun hq => ?_
      rw [List.mem_singleton.mp hq] at hhere
      exact absurd rfl (Serial.here_iff.mp hhere).2

/-- The rows after some rounds of the manifest loop. -/
structure Unloaded (numbers : List PyStr) (transferId : Nat) (start db : Db) : Prop where
  ids : (db.serials.map (·.id)).Nodup
  transfers : db.transfers = start.transfers
  here : ∀ number, db.Here number → start.Here number
  items : ∃ new, db.transferItems = start.transferItems ++ new ∧
    (∀ i ∈ new, i.transferId = transferId ∧ i.received = false ∧ i.manifestSerialNumber ∈ numbers) ∧
    (∀ i ∈ new, ∀ id, i.serialId = some id → ¬ start.OnRoad id) ∧
    ∀ id, db.OnRoad id ↔ start.OnRoad id ∨ ∃ i ∈ new, i.serialId = some id

/-- One line more of the manifest. -/
theorem Unloaded.item {numbers : List PyStr} {transferId : Nat} {start : Db} {number : PyStr}
    (hnumber : number ∈ numbers) (h : Unloaded numbers transferId start db)
    (hitem : ManifestItemReceived transferId number db db') :
    Unloaded numbers transferId start db' := by
  obtain ⟨products, serials, s, p, harrives, -, rfl⟩ := hitem.rows
  -- The item unloaded, over what was unloaded before it.
  obtain ⟨new, hitems, hnew, hoff, hroad⟩ := h.items
  obtain ⟨hwas, hids, hnow, hstays⟩ := harrives.road h.ids
  refine ⟨hids, h.transfers, fun n ⟨q, hq, hn, hhere⟩ => h.here n ⟨q, hstays q hq hhere, hn, hhere⟩,
    new ++ [transferItemRow transferId s p (nextId (·.id) db.transferItems)], ?_, ?_, ?_, ?_⟩
  · show db.transferItems ++ _ = _
    rw [hitems, List.append_assoc]
  · intro i hi
    rcases List.mem_append.mp hi with hi | hi
    · exact hnew i hi
    · rw [List.mem_singleton.mp hi]
      refine ⟨rfl, rfl, ?_⟩
      show s.serialNumber ∈ numbers
      rw [harrives.serialNumber]
      exact hnumber
  -- What is new is on the road no more, the last one included.
  · intro i hi id hid
    rcases List.mem_append.mp hi with hi | hi
    · exact hoff i hi id hid
    · rw [List.mem_singleton.mp hi] at hid
      obtain rfl := Option.some.inj hid
      exact fun hstart => hwas ((hroad _).mpr (Or.inl hstart))
  · intro id
    refine (hnow id).trans ?_
    rw [hroad id, or_assoc]
    refine or_congr_right ⟨fun hcase => ?_, fun ⟨i, hi, hid⟩ => ?_⟩
    · rcases hcase with ⟨i, hi, hid⟩ | rfl
      · exact ⟨i, List.mem_append_left _ hi, hid⟩
      · exact ⟨_, List.mem_append_right _ (List.mem_singleton_self _), rfl⟩
    · rcases List.mem_append.mp hi with hi | hi
      · exact Or.inl ⟨i, hi, hid⟩
      · rw [List.mem_singleton.mp hi] at hid
        exact Or.inr (Option.some.inj hid)

/-- What a command brings from outside. -/
structure CommandParts.Brings (rt : Runtime) (st : Settings) (parts : CommandParts)
    (Told : PyStr → PyStr → Prop) (New : PyStr → Prop) : Prop where
  told : (parts.commandType = py "TRANSFER_AVAILABLE" ∨
    parts.commandType = py "TRANSFER_INCOMING") →
    ∀ data manifest t, unwrapTransferPayload parts.payload = .ok (data, manifest) →
      parseIncoming rt st (transferUuidOf rt data parts.payload) data manifest = .ok t →
        ∀ number ∈ manifestNumbers rt manifest, Told (transferUuidOf rt data parts.payload) number
  allocated : parts.commandType = py "QR_ALLOCATED" → ∀ listed,
    parseAllocatedSerials rt parts.payload = .ok listed → ∀ l ∈ listed, New l.serialNumber
  replaced : parts.commandType = py "QR_REPLACE" → ∀ r, parseReplace parts.payload = .ok r →
    New r.newNumber

/-- `TRANSFER_AVAILABLE` announces what its manifest lists, once. -/
theorem available_shipment (hk : db.Keyed) {payload : List (PyStr × Json)} {u : PUnit}
    (htold : ∀ data manifest t, unwrapTransferPayload payload = .ok (data, manifest) →
      parseIncoming rt st (transferUuidOf rt data payload) data manifest = .ok t →
        ∀ number ∈ manifestNumbers rt manifest, Told (transferUuidOf rt data payload) number)
    (hnotices : db'.notices = db.notices)
    (h : applyTransferAvailableCommand rt st now payload db = (.ok u, db')) :
    Shipment Opens Told New db db' := by
  obtain ⟨data, manifest, hunwrap, hcase⟩ := applyTransferAvailableCommand_ok h
  rcases hcase with rfl | ⟨incoming, t, hparsed, hrow, -, hloop⟩
  · exact .quiet rfl
  let start : Db := { db with transfers := db.transfers ++ [t] }
  have hunloaded : Unloaded (manifestNumbers rt manifest) t.id start db' := by
    refine receiveManifest_numbers (I := Unloaded (manifestNumbers rt manifest) t.id start)
      (fun _ _ _ hnumber hI hitem => hI.item hnumber hitem) (fun _ hnumber => hnumber)
      [] start db' u ?_ hloop
    exact ⟨hk.serials, rfl, fun _ ha => ha, [], (List.append_nil _).symm, by simp, by simp, by simp⟩
  obtain ⟨new, hitems, hnew, hoff, hroad⟩ := hunloaded.items
  refine .came t (by rw [hrow]; rfl) (by rw [hrow]; rfl) (by rw [hrow]; rfl) new (fun i hi => ?_)
    hunloaded.here hoff hroad hunloaded.transfers hitems hnotices
  obtain ⟨hof, hunreceived, hnumber⟩ := hnew i hi
  refine ⟨hof, hunreceived, ?_⟩
  have huuid : t.transferUuid = transferUuidOf rt data payload := by rw [hrow]; rfl
  rw [huuid]
  exact htold data manifest incoming hunwrap hparsed _ hnumber

/-- `TRANSFER_RECEIPT` reports what the other franchise received. -/
theorem receipt_shipment (hk : db.Keyed) {payload : List (PyStr × Json)} {u : PUnit}
    (hnotices : db'.notices = db.notices)
    (h : applyTransferReceiptCommand rt now payload db = (.ok u, db')) :
    Shipment Opens Told New db db' := by
  let c : ReceiptCommand := ⟨now, payload⟩
  obtain ⟨t, ht, hfor⟩ := applyTransferReceiptCommand_found (c := c) h
  obtain ⟨hdirection, hleft, hview⟩ := applyTransferReceiptCommand_view (c := c) hk ht hfor h
  refine .acknowledged t ht hdirection hleft _ hview ?_ hnotices
  obtain ⟨_, _, transfer, _, t₁, _, _, _, _, hloop, rfl⟩ := applyTransferReceiptCommand_ok h
  obtain rfl := acknowledgeItems_ok hloop
  refine map_modifyRow fun q _ _ => ?_
  show (q.settled _ _).peerCode = q.peerCode
  unfold LocalTransfer.settled
  split
  · rfl
  · split <;> rfl

/-- An allocation sends nothing on its way. -/
theorem allocated_shipment {payload : List (PyStr × Json)} {u : PUnit}
    (hnew : ∀ listed, parseAllocatedSerials rt payload = .ok listed →
      ∀ l ∈ listed, New l.serialNumber)
    (hnotices : db'.notices = db.notices)
    (h : applyQrAllocatedCommand rt st now payload db = (.ok u, db')) :
    Shipment Opens Told New db db' := by
  have hkept := applyQrAllocatedCommand_keeps (f := fun db : Db => (db.transfers, db.transferItems))
    (fun _ _ => rfl) (fun _ _ => rfl) rt st now payload db
  rw [h] at hkept
  obtain ⟨htransfers, hitems⟩ := Prod.mk.inj hkept
  -- The units created are in stock, so none of them is on the road.
  have hroad : Tx.Preserves (fun t : Db => ∀ id, t.OnRoad id ↔ db.OnRoad id)
      (applyQrAllocatedCommand rt st now payload) := by
    have hkeep : ∀ {α : Type} {x : Tx α}, Tx.Keeps (fun t : Db => t.serials) x →
        Tx.Preserves (fun t : Db => ∀ id, t.OnRoad id ↔ db.OnRoad id) x := fun hx =>
      .of_keeps hx fun s t hsame hroad id => by
        unfold Db.OnRoad at hroad ⊢
        rw [hsame]
        exact hroad id
    refine .bind (.lift _) fun _ => .bind (.lift _) fun _ => .bind (.lift _) fun _ =>
      .bind (.reads _) fun _ =>
      .bind (.lift _) fun _ => .bind (hkeep (allocatedProduct_keeps (fun _ _ => rfl) rt _)) fun _ =>
        .each fun l _ => .bind ?_ fun _ => .pure _
    intro t t' s ht hinsert id
    obtain ⟨rfl, -, rfl⟩ := insertSerial_ok hinsert
    rw [← ht id]
    constructor
    · intro ⟨q, hq, hid, hon⟩
      refine ⟨q, (List.mem_append.mp hq).resolve_right fun hlast => ?_, hid, hon⟩
      rw [List.mem_singleton.mp hlast] at hon
      exact absurd (Serial.onRoad_iff.mp hon).2 (by simp [ParsedSerial.row])
    · exact fun ⟨q, hq, hrest⟩ => ⟨q, List.mem_append_left _ hq, hrest⟩
  obtain ⟨listed, new, hlisted, hallocated, hserials⟩ := applyQrAllocatedCommand_ok h
  refine .created (listed.map (·.serialNumber)) ?_ ?_ (hroad db db' u (fun _ => Iff.rfl) h)
    htransfers hitems hnotices
  -- None of the numbers was stored before, or the command would have failed.
  · intro number hnumber
    obtain ⟨l, hl, rfl⟩ := List.mem_map.mp hnumber
    exact hnew listed hlisted l hl
  · intro number ⟨s, hs, hnumber, hhere⟩
    rw [hserials] at hs
    refine (List.mem_append.mp hs).imp (fun hs => ⟨s, hs, hnumber, hhere⟩) fun hs => ?_
    rw [← hallocated.numbers, ← hnumber]
    exact List.mem_map_of_mem hs

/-- No unit in transit is replaced. -/
theorem parseReplace_expected {payload : List (PyStr × Json)} {r : ReplaceRequest}
    (h : parseReplace payload = .ok r) : r.expectedStatus ≠ .inTransit := by
  obtain ⟨_, -, h⟩ := except_bind_ok.mp h
  obtain ⟨_, -, h⟩ := except_bind_ok.mp h
  obtain ⟨-, h⟩ := except_unless_ok h
  cases hstatus : replaceableStatus (getItem payload (py "expected_status")) with
  | none =>
    rw [hstatus] at h
    cases h
  | some status =>
    rw [hstatus] at h
    obtain ⟨_, -, h⟩ := except_bind_ok.mp h
    obtain rfl := Except.ok.inj h
    have hmem := List.mem_of_find?_eq_some hstatus
    intro htransit
    rw [show status = .inTransit from htransit] at hmem
    exact absurd hmem (by decide)

/-- A replacement is one serial that retires and one that takes its place, neither on the road. -/
theorem applyQrReplaceCommand_road {payload : List (PyStr × Json)} {commandId : PyStr} {u : PUnit}
    (hk : db.Keyed) (h : applyQrReplaceCommand st now uuid payload commandId db = (.ok u, db'))
    (id : Nat) :
    db'.OnRoad id ↔ db.OnRoad id := by
  obtain ⟨_, t₁, h₁, h⟩ := Tx.bind_ok.mp h
  obtain ⟨-, rfl⟩ := Tx.lift_ok.mp h₁
  obtain ⟨request, t₂, h₂, h⟩ := Tx.bind_ok.mp h
  obtain ⟨hrequest, rfl⟩ := Tx.lift_ok.mp h₂
  obtain ⟨seen, t₃, h₃, h⟩ := Tx.bind_ok.mp h
  obtain ⟨rfl, rfl⟩ := Tx.reads_ok.mp h₃
  obtain ⟨old, t₄, h₄, h⟩ := Tx.bind_ok.mp h
  obtain ⟨hold, rfl⟩ := Tx.lift_ok.mp h₄
  obtain ⟨replacement, t₅, h₅, h⟩ := Tx.bind_ok.mp h
  obtain ⟨rfl, -, rfl⟩ := insertSerial_ok h₅
  obtain ⟨_, t₆, h₆, h⟩ := Tx.bind_ok.mp h
  obtain rfl := Tx.modify_ok.mp h₆
  obtain ⟨_, t₇, h₇, h⟩ := Tx.bind_ok.mp h
  obtain ⟨rfl, rfl⟩ := Tx.reads_ok.mp h₇
  obtain ⟨_, t₈, h₈, h⟩ := Tx.bind_ok.mp h
  obtain ⟨-, rfl⟩ := Tx.lift_ok.mp h₈
  obtain ⟨_, t₉, h₉, h⟩ := Tx.bind_ok.mp h
  obtain ⟨-, rfl⟩ := Tx.lift_ok.mp h₉
  obtain ⟨_, t₁₀, h₁₀, h⟩ := Tx.bind_ok.mp h
  obtain ⟨-, rfl⟩ := Tx.pure_ok.mp h
  -- The old serial is as the request expects it, so not on the road, and stays off it.
  have hexpected := parseReplace_expected hrequest
  have hfound : old ∈ db.serials ∧ old.status = request.expectedStatus := by
    unfold replaceable at hold
    split at hold
    next stored hlookup =>
      by_cases hstate : stored.active = true ∧ stored.status = request.expectedStatus
      · rw [if_pos hstate] at hold
        cases hnew : db.serialNumbered request.newNumber with
        | some s =>
          rw [hnew] at hold
          cases hold
        | none =>
          rw [hnew] at hold
          obtain rfl := Except.ok.inj hold
          exact ⟨(lookup_some hlookup).1, hstate.2⟩
      · rw [if_neg hstate] at hold
        cases hold
    next => cases hold
  have hserials : t₁₀.serials = modifyRow (·.id) old.id (Serial.changed fun _ =>
      { old with status := .invalid, active := false,
                 replacedById := some (nextId (·.id) db.serials) })
        (db.serials ++ [replacementRow old request.newNumber
          (if request.expectedStatus = .generated then .generated else .inStock) now
          (nextId (·.id) db.serials)]) := by
    rw [(enqueueOutboxEvent_ok h₁₀).appended]
    rfl
  unfold Db.OnRoad
  rw [hserials]
  constructor
  · intro ⟨s, hs, hid, hon⟩
    obtain ⟨q, hq, rfl⟩ := mem_modifyRow.mp hs
    by_cases hsame : q.id = old.id
    · rw [if_pos hsame] at hon
      exact absurd (Serial.onRoad_iff.mp hon).1 Bool.false_ne_true
    · rw [if_neg hsame] at hid hon
      refine ⟨q, (List.mem_append.mp hq).resolve_right fun hlast => ?_, hid, hon⟩
      rw [List.mem_singleton.mp hlast] at hon
      have htransit :
          (if request.expectedStatus = .generated then SerialStatus.generated else .inStock) =
          .inTransit :=
        (Serial.onRoad_iff.mp hon).2
      split at htransit <;> cases htransit
  · intro ⟨s, hs, hid, hon⟩
    have hsame : s.id ≠ old.id := by
      intro he
      obtain rfl := hk.serial_eq hs hfound.1 he
      exact hexpected (hfound.2.symm.trans (Serial.onRoad_iff.mp hon).2)
    exact ⟨s, mem_modifyRow.mpr ⟨s, List.mem_append_left _ hs, (if_neg hsame).symm⟩, hid, hon⟩

/-- `QR_REPLACE` puts a new number in place of an old one. -/
theorem replaced_shipment (hk : db.Keyed) {payload : List (PyStr × Json)} {commandId : PyStr}
    {u : PUnit} (hnew : ∀ r, parseReplace payload = .ok r → New r.newNumber)
    (hnotices : db'.notices = db.notices)
    (h : applyQrReplaceCommand st now uuid payload commandId db = (.ok u, db')) :
    Shipment Opens Told New db db' := by
  have hkept := applyQrReplaceCommand_keeps (f := fun db : Db => (db.transfers, db.transferItems))
    (fun _ _ => rfl) (fun _ _ _ => rfl) st now uuid payload commandId db
  rw [h] at hkept
  obtain ⟨htransfers, hitems⟩ := Prod.mk.inj hkept
  obtain ⟨r, old, status, hparsed, -, hserials⟩ := applyQrReplaceCommand_ok h
  refine .created [r.newNumber] ?_ ?_ (applyQrReplaceCommand_road hk h) htransfers hitems hnotices
  · intro number hnumber
    rw [List.mem_singleton.mp hnumber]
    exact hnew r hparsed
  · intro number ⟨s, hs, hnumber, hhere⟩
    rw [hserials] at hs
    obtain ⟨q, hq, rfl⟩ := mem_modifyRow.mp hs
    by_cases hid : q.id = old.id
    · -- The serial that is replaced is not here any more.
      rw [if_pos hid] at hhere
      exact absurd (Serial.here_iff.mp hhere).1 Bool.false_ne_true
    · rw [if_neg hid] at hnumber hhere
      refine (List.mem_append.mp hq).imp (fun hq => ⟨q, hq, hnumber, hhere⟩) fun hq => ?_
      rw [← hnumber, List.mem_singleton.mp hq]
      exact List.mem_singleton_self _

/-- The inbox is no cargo. -/
theorem Shipment.inbox {before after : List MasterInboxCommand}
    (h : Shipment Opens Told New { db with inbox := before } db') :
    Shipment Opens Told New db { db' with inbox := after } := by
  cases h with
  | quiet hcargo => exact .quiet hcargo
  | drafted t hopens hid hdirection hdraft hserials htransfers hitems hnotices =>
    exact .drafted t hopens hid hdirection hdraft hserials htransfers hitems hnotices
  | edited t ht hserials htransfers hothers hown hnotices =>
    exact .edited t ⟨ht.1, ht.2, ht.3⟩ hserials htransfers hothers hown hnotices
  | sent t ht now numbers hsome hnodup hnumbers hwere hhere hoff hroad htransfers hitems hannounced
    hdispatches
      hreported =>
    exact .sent t ⟨ht.1, ht.2, ht.3⟩ now numbers hsome hnodup hnumbers hwere hhere hoff hroad
      htransfers hitems
      hannounced hdispatches hreported
  | received t ht hdirection hopen now ids hids hsome numbers hnodup hnumbers hhere hroad
    change hpeer hstatus htransfers
      hitems hreported hannounced hdispatches =>
    exact .received t ht hdirection hopen now ids hids hsome numbers hnodup hnumbers hhere hroad
      change hpeer hstatus
      htransfers hitems hreported hannounced hdispatches
  | came t hid hdirection hawaiting items hof hhere hoff hroad htransfers hitems hnotices =>
    exact .came t hid hdirection hawaiting items hof hhere hoff hroad htransfers hitems hnotices
  | acknowledged t ht hdirection hleft numbers hview hpeers hnotices =>
    exact .acknowledged t ht hdirection hleft numbers hview hpeers hnotices
  | created numbers hnew hhere hroad htransfers hitems hnotices =>
    exact .created numbers hnew hhere hroad htransfers hitems hnotices

/-- The handler of a command. -/
theorem handled_shipment (hk : db.Keyed) {parts : CommandParts}
    (hbrings : parts.Brings rt st Told New) (hnotices : db'.notices = db.notices)
    (h : Handled rt st now uuid parts db db') :
    Shipment Opens Told New db db' := by
  obtain ⟨before, after, db₁, hrun, rfl⟩ := h
  let start : Db := { db with inbox := before }
  have hkstart : start.Keyed := hk
  have hnoticesStart : db₁.notices = start.notices := hnotices
  have hstep : Shipment Opens Told New start db₁ := by
    cases runHandler_ok hrun with
    | available htype hx => exact available_shipment hkstart (hbrings.told htype) hnoticesStart hx
    | receipt _ hx => exact receipt_shipment hkstart hnoticesStart hx
    | reviewed _ hx =>
      have hkept :=
        applyReceiptReviewCommand_keeps (f := Db.moving) (fun _ _ => rfl) rt parts.payload start
      rw [hx] at hkept
      exact .quiet (cargo_of_moving hkept hnoticesStart)
    | allocated htype hx => exact allocated_shipment (hbrings.allocated htype) hnoticesStart hx
    | replaced htype hx => exact replaced_shipment hkstart (hbrings.replaced htype) hnoticesStart hx
    | upserted _ hx =>
      have hkept :=
        applyProductUpsertCommand_keeps (f := Db.moving) (fun _ _ => rfl) rt st parts.payload start
      rw [hx] at hkept
      exact .quiet (cargo_of_moving hkept hnoticesStart)
  exact hstep.inbox

/-- A command does nothing, or is one shipment. -/
theorem applyMasterCommand_shipment (hk : db.Keyed) {command : List (PyStr × Json)}
    {row : MasterInboxCommand}
    (hbrings : ∀ parts, commandParts rt command = .ok parts → parts.Brings rt st Told New)
    (hx : applyMasterCommand rt st now uuid command db = (.ok row, db')) :
    Shipment Opens Told New db db' := by
  have hnotices : db'.notices = db.notices :=
    applyMasterCommand_notices rt st now uuid command db db' row rfl hx
  obtain ⟨parts, hparts, hcase⟩ := applyMasterCommand_ran hx
  rcases hcase with rfl | hhandled
  · exact .quiet rfl
  · exact handled_shipment hk (hbrings parts hparts) hnotices hhandled

/-! ## Runs -/

/-- A move changes no name and no reference. -/
theorem relocateStock_named (st : Settings) (m : Move) :
    Tx.Preserves Db.Named (relocateStock st m) :=
  named_of_keeps
    (relocateStock_keeps movesSerials_names (fun _ _ => rfl) (fun _ _ => rfl) (fun _ _ => rfl)
    (fun _ _ => rfl) (fun _ _ _ => rfl) st m)

/-- What shipments keep, whatever comes from outside, every run keeps. -/
theorem shipments_invariant {I : Db → Prop}
    (hstep : ∀ db db', db.Keyed → db.Named → db'.Keyed → db'.Named → I db →
      Shipment (fun _ => True) (fun _ _ => True) (fun _ => True) db db' → I db')
    {as : List StockAction} (hk : db.Keyed) (hn : db.Named) (h : I db)
    (hexec : exec (stockMachine rt st) db as = some db') : db'.Keyed ∧ db'.Named ∧ I db' := by
  refine keyed_invariant (I := fun db => db.Named ∧ I db) (P := fun _ => True) ?_ ?_ ?_
    (fun _ _ => trivial) hk
    ⟨hn, h⟩ hexec
  · intro c db db' hk ⟨hn, h⟩ hready hx
    have hn' := ready_named hn hready hx
    exact ⟨hn', hstep db db' hk hn (ready_keyed hk hready hx) hn' h
      (ready_shipment hk hn (fun _ _ => trivial) hready hx)⟩
  · intro m db db' u hk ⟨hn, h⟩ hx
    have hn' := relocateStock_named st m db db' u hn hx
    exact ⟨hn', hstep db db' hk hn (relocateStock_keyed st m db db' u hk hx) hn' h
      (relocateStock_shipment hx)⟩
  · intro now uuid command db db' row _ hk ⟨hn, h⟩ hx
    have hn' := applyMasterCommand_named rt st now uuid command db db' row hn hx
    refine ⟨hn',
      hstep db db' hk hn (applyMasterCommand_keyed rt st now uuid command db db' row hk hx) hn' h
      (applyMasterCommand_shipment hk (fun parts _ => ?_) hx)⟩
    exact ⟨fun _ _ _ _ _ _ _ _ => trivial, fun _ _ _ _ _ => trivial, fun _ _ _ => trivial⟩

end SetuoraLite
