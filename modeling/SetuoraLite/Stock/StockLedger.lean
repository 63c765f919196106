import SetuoraLite.Lib.Ledger
import SetuoraLite.Stock.Reservations
import SetuoraLite.Stock.TransferMoves

/-!
# The inventory ledger

`log_inventory_transaction` records for each move the status that a serial had and the
status it got. No constraint ties these rows to the serials: each service writes both by
itself.

`Booked` says that the table of transactions explains the statuses (`Lib.Explained`), but for
those of QRs that were replaced, which are retired without a log. A step either moves one
serial and logs it, or opens serials and logs nothing; `ledger_continuous` is about every
run: from the status a serial had when it first came to the node, each transaction starts
where the one before it ended, and the last ends where the serial is.
-/

namespace SetuoraLite

open Lib

variable {rt : Runtime} {st : Settings} {now : Instant} {uuid : PyStr} {db db' : Db}

/-! ## The books -/

/-- The transactions as changes of statuses, in the order of their ids. -/
def Db.changes (db : Db) : List (Change (Option Nat) (Option SerialStatus)) :=
  db.transactions.map fun t => ⟨t.serialId, t.statusFrom, t.statusTo⟩

/-- A serial that was not replaced has the status. -/
def Db.Holds (db : Db) (key : Option Nat) (status : Option SerialStatus) : Prop :=
  ∃ s ∈ db.serials, s.replacedById = none ∧ key = some s.id ∧ status = some s.status

/-- The status of a serial, by its id. -/
def Db.standingOf (db : Db) (key : Option Nat) : Option (Option SerialStatus) :=
  (key.bind db.serial).map fun s => some s.status

/-- What the serials were opened with: those that were there before, and those that are new. -/
def opens (opened : Option Nat → Option (Option SerialStatus)) (db : Db) (key : Option Nat) :
    Option (Option SerialStatus) := (opened key).or (db.standingOf key)

/-- The transactions explain the statuses, every serial was opened once, and a replaced one
is retired. -/
structure Booked (opened : Option Nat → Option (Option SerialStatus)) (db : Db) : Prop where
  explained : Explained opened db.Holds db.changes
  opened : ∀ key, (opened key).isSome = true ↔ ∃ s ∈ db.serials, key = some s.id
  ids : (db.serials.map (·.id)).Nodup
  retired : ∀ s ∈ db.serials, s.replacedById ≠ none → s.active = false ∧ s.status = .invalid

/-- What the books show of a serial. -/
def Serial.standing (s : Serial) : Nat × SerialStatus × Bool × Option Nat :=
  (s.id, s.status, s.active, s.replacedById)

/-- What the books show of the database. -/
def Db.standings (db : Db) :
    List (Nat × SerialStatus × Bool × Option Nat) × List InventoryTransaction :=
  (db.serials.map Serial.standing, db.transactions)

/-- Where the standings are the same, each serial stood so before. -/
theorem standing_of_map {serials serials' : List Serial}
    (h : serials'.map Serial.standing = serials.map Serial.standing) {s : Serial}
    (hs : s ∈ serials') :
    ∃ q ∈ serials, q.id = s.id ∧ q.status = s.status ∧ q.active = s.active ∧
      q.replacedById = s.replacedById := by
  obtain ⟨q, hq, he⟩ :=
    List.mem_map.mp (h ▸ List.mem_map_of_mem hs : s.standing ∈ serials.map Serial.standing)
  simp only [Serial.standing, Prod.mk.injEq] at he
  exact ⟨q, hq, he⟩

variable {opened : Option Nat → Option (Option SerialStatus)}

/-- The books do not show anything else. -/
theorem Booked.of_standings (h : Booked opened db) (hsame : db'.standings = db.standings) :
    Booked opened db' := by
  obtain ⟨hserials, htransactions⟩ := Prod.mk.inj hsame
  constructor
  · have hchanges : db'.changes = db.changes := congrArg (List.map _) htransactions
    rw [hchanges]
    refine h.explained.extend (fun _ _ ha => ha) fun k b hb => Or.inl ?_
    obtain ⟨s, hs, hnone, rfl, rfl⟩ := hb
    obtain ⟨q, hq, hid, hstatus, -, hreplaced⟩ := standing_of_map hserials hs
    exact ⟨q, hq, hreplaced.trans hnone, by rw [hid], by rw [hstatus]⟩
  · intro key
    rw [h.opened key]
    constructor
    · intro ⟨s, hs, hkey⟩
      obtain ⟨q, hq, hid, -⟩ := standing_of_map hserials.symm hs
      exact ⟨q, hq, hid ▸ hkey⟩
    · intro ⟨s, hs, hkey⟩
      obtain ⟨q, hq, hid, -⟩ := standing_of_map hserials hs
      exact ⟨q, hq, hid ▸ hkey⟩
  · have hids := congrArg (List.map Prod.fst) hserials
    rw [List.map_map, List.map_map] at hids
    exact (show db'.serials.map (·.id) = db.serials.map (·.id) from hids) ▸ h.ids
  · intro s hs hreplaced
    obtain ⟨q, hq, -, hstatus, hactive, hsame⟩ := standing_of_map hserials hs
    rw [← hstatus, ← hactive]
    exact h.retired q hq (hsame ▸ hreplaced)

/-- Who changes no standing and logs nothing keeps the books. -/
theorem booked_of_keeps {α : Type} {x : Tx α} (h : Tx.Keeps Db.standings x) :
    Tx.Preserves (Booked opened) x :=
  .of_keeps h fun _ _ hsame hbooked => hbooked.of_standings hsame

/-! ## A move and its log -/

/-- No update of serials touches the ids. -/
theorem changed_ids (id : Nat) (change : Serial → Serial) (serials : List Serial) :
    (modifyRow (·.id) id (Serial.changed change) serials).map (·.id) = serials.map (·.id) :=
  map_modifyRow fun _ _ _ => rfl

/-- The transaction logs a move of the serial. -/
structure Logs (t : InventoryTransaction) (id : Nat)
    (statusFrom statusTo : SerialStatus) : Prop where
  serialId : t.serialId = some id
  statusFrom : t.statusFrom = some statusFrom
  statusTo : t.statusTo = some statusTo

/-- An active serial changes its status, with a log. -/
theorem Booked.move (h : Booked opened db) {id : Nat} {statusFrom statusTo : SerialStatus}
    (hclaim : ∃ s ∈ db.serials, s.id = id ∧ s.status = statusFrom ∧ s.active = true)
    {t : InventoryTransaction} (ht : Logs t id statusFrom statusTo) :
    Booked opened { db with
      serials :=
        modifyRow (·.id) id (Serial.changed fun s => { s with status := statusTo }) db.serials
      transactions := db.transactions ++ [t] } := by
  obtain ⟨s, hs, rfl, rfl, hactive⟩ := hclaim
  -- A unit that is claimed is active, so it was not replaced.
  have hnone : s.replacedById = none := by
    by_contra hreplaced
    rw [(h.retired s hs hreplaced).1] at hactive
    cases hactive
  have hchanges : Db.changes { db with transactions := db.transactions ++ [t] } =
      db.changes ++ [⟨some s.id, some s.status, some statusTo⟩] := by
    unfold Db.changes
    rw [List.map_append, List.map_singleton, ht.serialId, ht.statusFrom, ht.statusTo]
  constructor
  -- The transaction tells the step from the standing before to the one after.
  · refine hchanges ▸ h.explained.record ⟨s, hs, hnone, rfl, rfl⟩ ?_ ?_
    · intro b ⟨q, hq, _, hkey, hb⟩
      obtain ⟨r, hr, rfl⟩ := mem_modifyRow.mp hq
      by_cases hid : r.id = s.id
      · rw [hb, if_pos hid]
        rfl
      · rw [if_neg hid] at hkey
        exact absurd (Option.some.inj hkey).symm hid
    · intro k b hk ⟨q, hq, hunreplaced, hkey, hb⟩
      obtain ⟨r, hr, rfl⟩ := mem_modifyRow.mp hq
      by_cases hid : r.id = s.id
      · rw [if_pos hid] at hkey
        exact absurd (hkey.trans (congrArg some hid)) hk
      · rw [if_neg hid] at hunreplaced hkey hb
        exact ⟨r, hr, hunreplaced, hkey, hb⟩
  -- No key comes or goes: the unit keeps its id.
  · intro key
    rw [h.opened key]
    constructor
    · intro ⟨q, hq, hkey⟩
      refine ⟨_, mem_modifyRow.mpr ⟨q, hq, rfl⟩, ?_⟩
      by_cases hmoved : q.id = s.id
      · rw [if_pos hmoved]
        exact hkey
      · rw [if_neg hmoved]
        exact hkey
    · intro ⟨q, hq, hkey⟩
      obtain ⟨r, hr, rfl⟩ := mem_modifyRow.mp hq
      refine ⟨r, hr, ?_⟩
      by_cases hmoved : r.id = s.id
      · rw [if_pos hmoved] at hkey
        exact hkey
      · rw [if_neg hmoved] at hkey
        exact hkey
  · exact (changed_ids _ _ _).symm ▸ h.ids
  -- The unit moved was not replaced; the others are as they were.
  · intro q hq hreplaced
    obtain ⟨r, hr, rfl⟩ := mem_modifyRow.mp hq
    by_cases hmoved : r.id = s.id
    · rw [if_pos hmoved] at hreplaced
      obtain rfl := eq_of_key_eq h.ids hr hs hmoved
      exact absurd hnone hreplaced
    · rw [if_neg hmoved] at hreplaced ⊢
      exact h.retired r hr hreplaced

/-- An active serial is logged in the status it keeps. -/
theorem Booked.note (h : Booked opened db) {s : Serial} (hs : s ∈ db.serials)
    (hactive : s.active = true) {t : InventoryTransaction} (ht : Logs t s.id s.status s.status) :
    Booked opened { db with transactions := db.transactions ++ [t] } := by
  refine (h.move ⟨s, hs, rfl, rfl, hactive⟩ ht).of_standings (Prod.ext (map_modifyRow ?_).symm rfl)
  intro q hq hid
  obtain rfl := eq_of_key_eq h.ids hq hs hid
  rfl

/-! ## Batches -/

/-- A location is no standing. -/
theorem placed_standings (id : Nat) (location : StorageLocation) :
    Tx.Keeps Db.standings (updateSerial id (Serial.placedAt location)) :=
  .modify fun _ => Prod.ext (map_modifyRow fun _ _ _ => rfl) rfl

/-- Freezing the rates of an item is no standing. -/
theorem freezeItem_standings (batch : Batch) (l : LoadedItem) :
    Tx.Keeps Db.standings (freezeItem batch l) :=
  .ite (updateBatchItem_keeps (fun _ _ => rfl) _ _) (.pure _)

/-- The id of the next transaction. -/
def Db.nextTransaction (db : Db) : Nat := nextId (·.id) db.transactions

/-- One round of a submission: the serial moves and is logged, or an audit logs it where it is. -/
theorem submitItem_booked {user : User} {batch : Batch} {l : LoadedItem} {u : PUnit}
    (h : Booked opened db)
    (hstored : batch.batchType = .audit → l.serial ∈ db.serials ∧ l.serial.active = true)
    (hx : submitItem user now batch l db = (.ok u, db')) : Booked opened db' := by
  obtain ⟨_, t₁, h₁, hx⟩ := Tx.bind_ok.mp hx
  obtain ⟨_, t₂, h₂, hx⟩ := Tx.bind_ok.mp hx
  obtain ⟨_, t₃, h₃, hx⟩ := Tx.bind_ok.mp hx
  obtain rfl := Tx.modify_ok.mp hx
  -- The rest of the round touches neither units nor transactions.
  have hkept : Tx.Keeps Db.standings (freezeItem batch l >>= fun _ =>
      insertScanLog (itemScanLog user now batch l.serial)) :=
    .bind (freezeItem_standings batch l) fun _ => insertScanLog_keeps (fun _ _ => rfl) _
  have hsame : t₃.standings = t₁.standings := by
    have hrun := hkept t₁
    rwa [Tx.bind_ok.mpr ⟨_, _, h₂, h₃⟩] at hrun
  obtain ⟨hserials, htransactions⟩ := Prod.mk.inj hsame
  have hlogs : ∀ id,
      Logs { itemTransaction user batch l.serial with id := id } l.serial.id l.serial.status
      (targetStatus batch l.serial.status) := fun id => ⟨rfl, rfl, rfl⟩
  unfold claimForBatch at h₁
  -- An audit claims nothing: its transaction leads from the status to the same.
  by_cases haudit : batch.batchType = .audit
  · rw [if_pos haudit] at h₁
    obtain ⟨-, rfl⟩ := Tx.pure_ok.mp h₁
    obtain ⟨hmem, hactive⟩ := hstored haudit
    have htarget : targetStatus batch l.serial.status = l.serial.status := by
      unfold targetStatus
      rw [haudit]
    refine (h.note hmem hactive (htarget ▸ hlogs t₃.nextTransaction)).of_standings ?_
    exact Prod.ext hserials (by rw [← htransactions]; rfl)
  · rw [if_neg haudit] at h₁
    obtain ⟨hclaim, rfl⟩ := claimSerial_ok h₁
    refine (h.move hclaim (hlogs t₃.nextTransaction)).of_standings ?_
    exact Prod.ext hserials
      (by rw [← show t₃.transactions = db.transactions from htransactions]; rfl)

/-- Only active units are allowed in a batch. -/
theorem serialAllowed_active {s : Serial} {batchType : BatchType}
    (h : serialAllowedForBatch s batchType = .ok ()) : s.active = true := by
  by_contra hactive
  unfold serialAllowedForBatch at h
  dsimp only at h
  rw [if_pos (Or.inl (by simpa using hactive))] at h
  cases h

/-- So all units of a batch that passed the check are active. -/
theorem checkBatchStatuses_active {loaded : LoadedBatch} (h : checkBatchStatuses loaded = .ok ())
    {l : LoadedItem} (hl : l ∈ loaded.items) : l.serial.active = true := by
  unfold checkBatchStatuses at h
  by_cases hempty : loaded.items = []
  · rw [if_pos hempty] at h
    cases h
  · rw [if_neg hempty] at h
    obtain ⟨_, -, h⟩ := except_bind_ok.mp h
    obtain ⟨_, hallowed, -⟩ := except_bind_ok.mp h
    obtain ⟨⟨⟩, -, hok⟩ := (except_mapM_mem hallowed).2 l hl
    exact serialAllowed_active hok

/-- Events are not in these books. -/
theorem enqueueOutboxEvent_standings (st : Settings) (uuid : PyStr) (now : Instant)
    (r : EnqueueRequest) :
    Tx.Keeps Db.standings (enqueueOutboxEvent st uuid now r) :=
  enqueueOutboxEvent_keeps (fun _ _ _ => rfl) _ _ _ _

/-- A submission, round by round; the serials of an audit stay as they were loaded. -/
theorem submit_booked {s : Submitter} {loaded : LoadedBatch} {u : PUnit} (h : Booked opened db)
    (hserials : ∀ l ∈ loaded.items, db.serial l.item.serialId = some l.serial)
    (hstatuses : checkBatchStatuses loaded = .ok ()) (hx : submit s loaded db = (.ok u, db')) :
    Booked opened db' := by
  obtain ⟨_, t₁, h₁, hx⟩ := Tx.bind_ok.mp hx
  -- The items, one by one; then the batch, the event and the answer.
  have hitems : Booked opened t₁ := by
    let I (t : Db) : Prop := Booked opened t ∧
      (loaded.batch.batchType = .audit → t.serials = db.serials)
    have hrounds : I t₁ := by
      refine Tx.each_ok (I := I) (fun l hl t t' v ⟨ht, hsame⟩ hround => ⟨?_, fun haudit => ?_⟩)
        ⟨h, fun _ => rfl⟩ h₁
      · refine submitItem_booked ht (fun haudit => ?_) hround
        obtain ⟨hmem, -⟩ := lookup_some (hserials l hl)
        exact ⟨hsame haudit ▸ hmem, checkBatchStatuses_active hstatuses hl⟩
      · have hkept : Tx.Keeps (fun t : Db => t.serials)
            (submitItem s.user s.now loaded.batch l) := by
          have hclaim : Tx.Keeps (fun t : Db => t.serials)
              (claimForBatch loaded.batch l.serial) := by
            unfold claimForBatch
            rw [if_pos haudit]
            exact .pure _
          exact .bind hclaim fun _ =>
            .bind (.ite (updateBatchItem_keeps (fun _ _ => rfl) _ _) (.pure _))
            fun _ => .bind (insertScanLog_keeps (fun _ _ => rfl) _) fun _ =>
              insertInventoryTransaction_keeps (fun _ _ => rfl) _
        have hrun := hkept t
        rw [hround] at hrun
        exact hrun.trans (hsame haudit)
    exact hrounds.1
  have hrest : Tx.Keeps Db.standings (do
      updateBatch loaded.batch.id .pendingSync (some s.now)
      let _ ← enqueueBatchSubmittedEvent s loaded.batch
        (loaded.items.map (LoadedItem.submitted loaded.batch))
      pure ⟨⟩ : Tx PUnit) :=
    .bind (updateBatch_keeps (fun _ _ => rfl) _ _ _) fun _ =>
      .bind (.bind (.lift _) fun _ => enqueueOutboxEvent_standings _ _ _ _) fun _ => .pure _
  exact booked_of_keeps hrest _ _ _ hitems hx

/-! ## Transfers -/

/-- One item of a dispatch or of a receipt: the status changes and the log says so. -/
theorem TransferMove.round_booked (m : TransferMove) (i : LoadedTransferItem) :
    Tx.Preserves (Booked opened) (m.round i) := by
  intro db db' u h hx
  obtain ⟨s, -, hclaim, rfl⟩ := TransferMove.round_ok hx
  refine (h.move hclaim (t := { m.log s with id := nextId (·.id) db.transactions }) ?_).of_standings
    rfl
  exact ⟨rfl, rfl, rfl⟩

/-- Nor are the events of transfers. -/
theorem enqueueTransferEvent_standings (eventType : PyStr) (s : Submitter)
    (transfer : LocalTransfer) (destination : Option PyStr) (items : List LoadedTransferItem) :
    Tx.Keeps Db.standings (enqueueTransferEvent eventType s transfer destination items) :=
  enqueueTransferEvent_keeps (fun _ _ _ => rfl) _ _ _ _ _

/-- A dispatch keeps the books. -/
theorem dispatch_booked (s : Submitter) (loaded : LoadedTransfer) :
    Tx.Preserves (Booked opened) (dispatch s loaded) := by
  have hround : ∀ i,
      Tx.Preserves (Booked opened) (dispatchItem s.user loaded.transfer i) := fun i =>
    dispatchItem_eq s.user loaded.transfer ▸ (dispatchMove s.user loaded.transfer).round_booked i
  exact .mapError (.bind (.each fun i _ => hround i) fun _ => booked_of_keeps
    (.bind (updateTransfer_keeps (fun _ _ => rfl) _ _) fun _ =>
      .bind (enqueueTransferEvent_standings _ _ _ _ _) fun _ => .pure _)) _

/-- A receipt keeps the books. -/
theorem receive_booked (s : Submitter) (loaded : LoadedTransfer) :
    Tx.Preserves (Booked opened) (receive s loaded) := by
  have hround : ∀ i, Tx.Preserves (Booked opened) (receiveItem s loaded.transfer i) := fun i =>
    receiveItem_eq s loaded.transfer ▸ (receiptMove s loaded.transfer).round_booked i
  exact .mapError (.bind (.each fun i _ => hround i) fun _ => booked_of_keeps
    (.bind (updateTransfer_keeps (fun _ _ => rfl) _ _) fun _ =>
      .bind (enqueueTransferEvent_standings _ _ _ _ _) fun _ => .pure _)) _

/-! ## Every request -/

/-- A ready commit keeps the books. -/
theorem ready_booked {c : StockCommit} {u : PUnit} (h : Booked opened db) (hready : Ready rt c db)
    (hx : writesOf c db = (.ok u, db')) : Booked opened db' := by
  -- Only a submission, a dispatch and a receipt write transactions.
  cases c with
  | createBatch row => exact booked_of_keeps (insertBatch_keeps (fun _ _ => rfl) _) _ _ _ h hx
  | logScan row => exact booked_of_keeps (insertScanLog_keeps (fun _ _ => rfl) _) _ _ _ h hx
  | scanItem item log =>
    exact booked_of_keeps (addItem_keeps (fun _ _ => rfl) (fun _ _ => rfl) _ _) _ _ _ h hx
  | pickItems picks =>
    exact booked_of_keeps (addItems_keeps (fun _ _ => rfl) (fun _ _ => rfl) _) _ _ _ h hx
  | removeItem itemId => exact booked_of_keeps (deleteBatchItem_keeps (fun _ _ => rfl) _) _ _ _ h hx
  | setRates items rate =>
    exact booked_of_keeps (setRates_keeps (.of_frame fun _ _ => rfl) _ _) _ _ _ h hx
  | verifyShelf batch pending location user now =>
    exact booked_of_keeps (.bind (.each (fun _ => .bind (updateBatchItem_keeps (fun _ _ => rfl) _ _)
      fun _ => placed_standings _ _) _) fun _ => insertScanLog_keeps (fun _ _ => rfl) _) _ _ _ h hx
  | returnItem itemId log =>
    exact booked_of_keeps (returnItem_keeps (fun _ _ => rfl) (fun _ _ => rfl) _ _) _ _ _ h hx
  | verifyReturn batch pending location user now =>
    have hplace : ∀ log, Tx.Keeps Db.standings (placeReturn location log) := by
      intro log
      refine .bind (updateScanLog_keeps (fun _ _ => rfl) _ _ _) fun _ => ?_
      split
      · exact placed_standings _ _
      · exact .pure _
    exact booked_of_keeps
      (.bind (.each hplace _) fun _ => insertScanLog_keeps (fun _ _ => rfl) _) _ _ _ h hx
  | submit s loaded =>
    obtain ⟨-, hloaded, hstatuses, -⟩ := hready
    exact submit_booked h hloaded.serials hstatuses hx
  | createTransfer row =>
    exact booked_of_keeps
      (.bind (insertTransfer_keeps (fun _ _ => rfl) _) fun _ => .pure _) _ _ _ h hx
  | addTransferItem row =>
    exact booked_of_keeps
      (.bind (insertTransferItem_keeps (fun _ _ => rfl) _) fun _ => .pure _) _ _ _ h hx
  | removeTransferItem itemId =>
    exact booked_of_keeps (deleteTransferItem_keeps (fun _ _ => rfl) _) _ _ _ h hx
  | dispatch s loaded => exact dispatch_booked s loaded _ _ _ h hx
  | scanTransferItem item now =>
    exact booked_of_keeps
      (scanTransferItem_keeps (marksItems_of_frame fun _ _ => rfl) _ _) _ _ _ h hx
  | receive s loaded => exact receive_booked s loaded _ _ _ h hx

/-! ## Relocations -/

/-- What a move picks is stored and active. -/
theorem mem_moveCandidates {claimed : List Nat} {item : MoveItem} {s : Serial}
    (hs : s ∈ moveCandidates db claimed item) : s ∈ db.serials ∧ s.active = true := by
  have hmem := List.mem_of_mem_take (List.mem_filter.mp (List.mem_of_mem_take hs)).1
  obtain ⟨hstored, hselects⟩ := List.mem_filter.mp ((List.mem_insertionSort _).mp hmem)
  unfold MoveItem.selects at hselects
  simp only [Bool.and_eq_true] at hselects
  exact ⟨hstored, hselects.1.1.1.1.1⟩

/-- A moved serial is logged in the status it has. -/
theorem moveSerial_booked {m : Move} {destination : StorageLocation} {relocationId : Nat}
    {reference note : PyStr} {s : Serial} {u : PUnit} (h : Booked opened db)
    (hs : s.standing ∈ db.serials.map Serial.standing) (hactive : s.active = true)
    (hx : moveSerial m destination relocationId reference note s db = (.ok u, db')) :
    Booked opened db' ∧ db'.serials.map Serial.standing = db.serials.map Serial.standing := by
  obtain ⟨_, t₁, h₁, hx⟩ := Tx.bind_ok.mp hx
  obtain ⟨_, t₂, h₂, hx⟩ := Tx.bind_ok.mp hx
  obtain ⟨_, t₃, h₃, hx⟩ := Tx.bind_ok.mp hx
  obtain rfl := Tx.modify_ok.mp hx
  obtain rfl := Tx.modify_ok.mp h₁
  obtain rfl := Tx.modify_ok.mp h₂
  obtain rfl := insertScanLog_ok h₃
  obtain ⟨q, hq, he⟩ := List.mem_map.mp hs
  simp only [Serial.standing, Prod.mk.injEq] at he
  obtain ⟨hid, hstatus, hsame, -⟩ := he
  have hplaced :
      (modifyRow (·.id) s.id (Serial.changed (Serial.placedAt destination)) db.serials).map
      Serial.standing = db.serials.map Serial.standing := map_modifyRow fun _ _ _ => rfl
  refine ⟨(h.note hq (hsame.trans hactive) ?_).of_standings (Prod.ext hplaced rfl), hplaced⟩
  exact ⟨congrArg some hid.symm, congrArg some hstatus.symm, congrArg some hstatus.symm⟩

/-- A move logs the status it leaves as it is. -/
theorem relocateStock_booked (st : Settings) (m : Move) :
    Tx.Preserves (Booked opened) (relocateStock st m) := by
  have hline : ∀ destination claimed item reference,
      Tx.Preserves (Booked opened) (moveLine m destination claimed item reference) := by
    intro destination claimed item reference
    refine .bind (.lift _) fun _ => ?_
    intro db db' moved h hx
    obtain ⟨seen, t₁, h₁, hx⟩ := Tx.bind_ok.mp hx
    obtain ⟨rfl, rfl⟩ := Tx.reads_ok.mp h₁
    obtain ⟨_, t₂, h₂, hx⟩ := Tx.bind_ok.mp hx
    obtain ⟨-, rfl⟩ := Tx.raiseIf_ok.mp h₂
    obtain ⟨_, t₃, h₃, hx⟩ := Tx.bind_ok.mp hx
    obtain ⟨-, rfl⟩ := Tx.raiseIf_ok.mp h₃
    obtain ⟨relocationId, t₄, h₄, hx⟩ := Tx.bind_ok.mp hx
    obtain ⟨-, rfl⟩ := insertRelocation_ok h₄
    obtain ⟨_, t₅, h₅, hx⟩ := Tx.bind_ok.mp hx
    obtain ⟨-, rfl⟩ := Tx.pure_ok.mp hx
    -- The serials of the line stand as they were found.
    let I (t : Db) : Prop := Booked opened t ∧
      t.serials.map Serial.standing = db.serials.map Serial.standing
    have hrounds : I t₅ := by
      refine Tx.each_ok (I := I) ?_ ?_ h₅
      · intro s hs t t' v ⟨ht, hsame⟩ hround
        obtain ⟨hmem, hactive⟩ := mem_moveCandidates hs
        obtain ⟨ht', hkept⟩ :=
          moveSerial_booked ht (hsame ▸ List.mem_map_of_mem hmem) hactive hround
        exact ⟨ht', hkept.trans hsame⟩
      · exact ⟨h.of_standings rfl, rfl⟩
    exact hrounds.1
  have hlines : ∀ destination (items : List (MoveItem × PyStr)) claimed,
      Tx.Preserves (Booked opened) (moveLines m destination claimed items) := by
    intro destination items
    induction items with
    | nil => exact fun _ => .pure _
    | cons line items ih => exact fun claimed => .bind (hline _ _ _ _) fun _ => ih _
  exact .bind (.reads _) fun _ => .bind (.lift _) fun _ => .bind (.raiseIf _ _) fun _ =>
    .mapError (.bind (hlines _ _ _) fun _ =>
      booked_of_keeps (enqueueMoved_keeps (fun _ _ _ => rfl) _ _ _ _ _ _)) _

/-! ## Commands -/

/-- A step opens serials and retires serials, and logs nothing. -/
structure Opens (db db' : Db) : Prop where
  transactions : db'.transactions = db.transactions
  ids : (db'.serials.map (·.id)).Nodup
  kept : ∀ s ∈ db.serials, ∃ s' ∈ db'.serials, s'.id = s.id
  serials : ∀ s' ∈ db'.serials,
    (∃ s ∈ db.serials, s.id = s'.id ∧ s.status = s'.status ∧ s.replacedById = s'.replacedById ∧
        (s'.active = true → s.active = true ∨ s.status = .inTransit)) ∨
      (s'.replacedById = none ∧ ∀ s ∈ db.serials, s.id ≠ s'.id) ∨
      (s'.replacedById ≠ none ∧ s'.active = false ∧ s'.status = .invalid ∧
        ∃ s ∈ db.serials, s.id = s'.id)

/-- A step that opens no account. -/
theorem Opens.refl (hids : (db.serials.map (·.id)).Nodup) : Opens db db :=
  ⟨rfl, hids, fun s hs => ⟨s, hs, rfl⟩, fun s hs => Or.inl ⟨s, hs, rfl, rfl, rfl, Or.inl⟩⟩

/-- A stored serial stands in its status. -/
theorem standingOf_mem (hids : (db.serials.map (·.id)).Nodup) {s : Serial} (hs : s ∈ db.serials) :
    db.standingOf (some s.id) = some (some s.status) := by
  unfold Db.standingOf
  rw [Option.bind_some, show db.serial s.id = some s from lookup_of_mem hids hs]
  rfl

/-- Only a stored serial stands anywhere. -/
theorem standingOf_isSome {key : Option Nat} (h : (db.standingOf key).isSome = true) :
    ∃ s ∈ db.serials, key = some s.id := by
  unfold Db.standingOf at h
  rw [Option.isSome_map] at h
  obtain ⟨s, hs⟩ := Option.isSome_iff_exists.mp h
  obtain ⟨id, hkey, hfound⟩ := Option.bind_eq_some_iff.mp hs
  obtain ⟨hmem, hid⟩ := lookup_some hfound
  exact ⟨s, hmem, hid ▸ hkey⟩

/-- A step that opens serials keeps the books, with the new serials in them. -/
theorem Booked.extend (h : Booked opened db) (hstep : Opens db db') :
    Booked (opens opened db') db' := by
  have hchanges : db'.changes = db.changes := congrArg (List.map _) hstep.transactions
  -- An unknown id has no account yet.
  have hnone : ∀ id, (∀ s ∈ db.serials, s.id ≠ id) → opened (some id) = none := by
    intro id hid
    by_contra hsome
    obtain ⟨s, hs, he⟩ := (h.opened (some id)).mp (Option.isSome_iff_ne_none.mpr hsome)
    exact hid s hs (Option.some.inj he).symm
  constructor
  · rw [hchanges]
    -- The accounts that were open stay; a standing that is new opens its own.
    refine h.explained.extend (fun k a ha => ?_) fun k b hb => ?_
    · unfold opens
      rw [ha]
      rfl
    · obtain ⟨s', hs', hunreplaced, rfl, rfl⟩ := hb
      rcases hstep.serials s' hs' with
        ⟨s, hs, hid, hstatus, hreplaced, -⟩ | ⟨-, hnew⟩ | ⟨hreplaced, -⟩
      · exact Or.inl ⟨s, hs, hreplaced.trans hunreplaced, by rw [hid], by rw [hstatus]⟩
      · refine Or.inr ⟨hnone _ hnew, ?_⟩
        unfold opens
        rw [hnone _ hnew, standingOf_mem hstep.ids hs']
        rfl
      · exact absurd hunreplaced hreplaced
  · intro key
    constructor
    · intro hsome
      unfold opens at hsome
      by_cases hold : (opened key).isSome = true
      · obtain ⟨s, hs, hkey⟩ := (h.opened key).mp hold
        obtain ⟨s', hs', hid⟩ := hstep.kept s hs
        exact ⟨s', hs', hid ▸ hkey⟩
      · rw [Option.not_isSome_iff_eq_none.mp hold] at hsome
        exact standingOf_isSome hsome
    · intro ⟨s', hs', hkey⟩
      unfold opens
      rw [hkey, standingOf_mem hstep.ids hs', Option.isSome_or, Option.isSome_some, Bool.or_true]
  · exact hstep.ids
  -- A replaced unit was inactive before, or became so in this step.
  · intro s' hs' hreplaced
    rcases hstep.serials s' hs' with ⟨s, hs, -, hstatus, hsame, hactive⟩ | ⟨hunreplaced, -⟩ |
      ⟨-, hinactive, hinvalid, -⟩
    · obtain ⟨hinactive, hinvalid⟩ := h.retired s hs (hsame ▸ hreplaced)
      refine ⟨?_, hstatus ▸ hinvalid⟩
      by_contra htrue
      rcases hactive (by simpa using htrue) with hold | htransit
      · exact absurd (hold.symm.trans hinactive) (by decide)
      · exact absurd (htransit.symm.trans hinvalid) (by decide)
    · exact absurd hunreplaced hreplaced
    · exact ⟨hinactive, hinvalid⟩

/-- A step that leaves every standing opens no account. -/
theorem Opens.of_standings (hids : (db.serials.map (·.id)).Nodup)
    (hsame : db'.standings = db.standings) :
    Opens db db' := by
  obtain ⟨hserials, htransactions⟩ := Prod.mk.inj hsame
  have hmap := congrArg (List.map Prod.fst) hserials
  rw [List.map_map, List.map_map] at hmap
  refine ⟨htransactions,
    (show db'.serials.map (·.id) = db.serials.map (·.id) from hmap) ▸ hids, ?_, ?_⟩
  · intro s hs
    obtain ⟨s', hs', hid, -⟩ := standing_of_map hserials.symm hs
    exact ⟨s', hs', hid⟩
  · intro s' hs'
    obtain ⟨s, hs, hid, hstatus, hactive, hreplaced⟩ := standing_of_map hserials hs'
    exact Or.inl ⟨s, hs, hid, hstatus, hreplaced, fun h => Or.inl (hactive.trans h)⟩

/-- A serial that arrives is new, or it comes back in the status it left in. -/
theorem Opens.arrives {t t' : Db} {number : PyStr} {s : Serial} {serials : List Serial}
    (h : Opens db t) (harrives : Arrives t number s serials) (hserials : t'.serials = serials)
    (htransactions : t'.transactions = t.transactions) : Opens db t' := by
  -- The ids are the old ones, with a new one at the end when a unit is made.
  have hids : (serials.map (·.id)).Nodup := by
    rcases harrives.keys with ⟨hids, -⟩ | ⟨rfl, hid, -⟩
    · exact hids ▸ h.ids
    · exact nodup_append_nextId h.ids hid
  refine ⟨htransactions.trans h.transactions, hserials ▸ hids, ?_, ?_⟩ <;> rw [hserials]
  · intro q hq
    obtain ⟨q', hq', hid⟩ := h.kept q hq
    -- A unit that comes back was on the road; it stands as it is received.
    cases harrives with
    | @back stored _ _ _ _ _ c =>
      refine ⟨_, mem_modifyRow.mpr ⟨q', hq', rfl⟩, ?_⟩
      by_cases hback : q'.id = stored.id
      · rw [if_pos hback]
        exact hid
      · rw [if_neg hback]
        exact hid
    | new => exact ⟨q', List.mem_append_left _ hq', hid⟩
  · intro s' hs'
    cases harrives with
    | @back stored hmem _ _ hstatus _ c =>
      obtain ⟨r, hr, rfl⟩ := mem_modifyRow.mp hs'
      by_cases hback : r.id = stored.id
      · rw [if_pos hback]
        obtain rfl := eq_of_key_eq h.ids hr hmem hback
        rcases h.serials r hr with
          ⟨q, hq, hid, hsame, hreplaced, -⟩ | ⟨hnone, hnew⟩ | ⟨-, -, hinvalid, -⟩
        · exact Or.inl
            ⟨q, hq, hid, hsame.trans hstatus, hreplaced, fun _ => Or.inr (hsame.trans hstatus)⟩
        · exact Or.inr (Or.inl ⟨hnone, hnew⟩)
        · exact absurd (hstatus.symm.trans hinvalid) (by decide)
      · rw [if_neg hback]
        exact h.serials r hr
    -- A unit that is made opens an account of its own.
    | new hunused c productId now =>
      rcases List.mem_append.mp hs' with hold | hnew
      · exact h.serials s' hold
      · obtain rfl := List.mem_singleton.mp hnew
        refine Or.inr (Or.inl ⟨rfl, fun q hq => ?_⟩)
        obtain ⟨q', hq', hid⟩ := h.kept q hq
        exact hid ▸ nextId_fresh hq'

/-- A receipt makes serials inactive, in the status they have. -/
theorem Opens.deactivate {t : Db} (h : Opens db t) (id : Nat) :
    Opens db { t with
      serials :=
        modifyRow (·.id) id (Serial.changed fun s => { s with active := false }) t.serials } := by
  refine ⟨h.transactions, (changed_ids _ _ _).symm ▸ h.ids, ?_, ?_⟩
  · intro q hq
    obtain ⟨q', hq', hid⟩ := h.kept q hq
    refine ⟨_, mem_modifyRow.mpr ⟨q', hq', rfl⟩, ?_⟩
    by_cases hmarked : q'.id = id
    · rw [if_pos hmarked]
      exact hid
    · rw [if_neg hmarked]
      exact hid
  · intro s' hs'
    obtain ⟨r, hr, rfl⟩ := mem_modifyRow.mp hs'
    by_cases hmarked : r.id = id
    · rw [if_pos hmarked]
      rcases h.serials r hr with ⟨q, hq, hid, hsame, hreplaced, -⟩ | hnew | ⟨hreplaced, -, hrest⟩
      · exact Or.inl ⟨q, hq, hid, hsame, hreplaced, fun hactive => nomatch hactive⟩
      · exact Or.inr (Or.inl hnew)
      · exact Or.inr (Or.inr ⟨hreplaced, rfl, hrest⟩)
    · rw [if_neg hmarked]
      exact h.serials r hr

/-- Two databases with these tables open the same. -/
theorem Opens.congr {t t' : Db} (h : Opens db t) (hserials : t'.serials = t.serials)
    (htransactions : t'.transactions = t.transactions) : Opens db t' :=
  ⟨htransactions.trans h.transactions, hserials ▸ h.ids, hserials ▸ h.kept, hserials ▸ h.serials⟩

/-- Allocated units open their accounts in the status they are allocated in. -/
theorem allocated_opens {numbers : List PyStr} {new : List Serial} (hnew : Allocated numbers new)
    (hserials : db'.serials = db.serials ++ new) (hids : (db'.serials.map (·.id)).Nodup)
    (htransactions : db'.transactions = db.transactions) : Opens db db' := by
  refine ⟨htransactions, hids, ?_, ?_⟩
  · intro s hs
    exact ⟨s, hserials ▸ List.mem_append_left _ hs, rfl⟩
  · intro s' hs'
    rw [hserials] at hs' hids
    rcases List.mem_append.mp hs' with hold | hnew'
    · exact Or.inl ⟨s', hold, rfl, rfl, rfl, Or.inl⟩
    · refine Or.inr (Or.inl ⟨hnew.unreplaced s' hnew', fun q hq he => ?_⟩)
      rw [List.map_append, List.nodup_append] at hids
      exact hids.2.2 q.id (List.mem_map_of_mem hq) s'.id (List.mem_map_of_mem hnew') he

/-- A replacement opens the account of the new unit and closes that of the old one. -/
theorem replaced_opens {old : Serial} {number : PyStr} {status : SerialStatus}
    (hold : old ∈ db.serials) (hserials : db'.serials = modifyRow (·.id) old.id
      (Serial.changed fun _ => old.retiredBy (nextId (·.id) db.serials))
      (db.serials ++ [replacementRow old number status now (nextId (·.id) db.serials)]))
    (hids : (db'.serials.map (·.id)).Nodup) (htransactions : db'.transactions = db.transactions) :
    Opens db db' := by
  refine ⟨htransactions, hids, ?_, ?_⟩ <;> rw [hserials]
  · intro s hs
    refine ⟨_, mem_modifyRow.mpr ⟨s, List.mem_append_left _ hs, rfl⟩, ?_⟩
    by_cases hretired : s.id = old.id
    · rw [if_pos hretired]
      rfl
    · rw [if_neg hretired]
  · intro s' hs'
    obtain ⟨r, hr, rfl⟩ := mem_modifyRow.mp hs'
    by_cases hretired : r.id = old.id
    · rw [if_pos hretired]
      exact Or.inr (Or.inr ⟨Option.some_ne_none _, rfl, rfl, old, hold, hretired.symm⟩)
    · rw [if_neg hretired]
      rcases List.mem_append.mp hr with hkept | hnew
      · exact Or.inl ⟨r, hkept, rfl, rfl, rfl, Or.inl⟩
      · obtain rfl := List.mem_singleton.mp hnew
        exact Or.inr (Or.inl ⟨rfl, fun q hq => nextId_fresh hq⟩)

/-- Master's commands open and retire serials. -/
theorem handled_opens {parts : CommandParts} (hids : (db.serials.map (·.id)).Nodup)
    (hids' : (db'.serials.map (·.id)).Nodup) (h : Handled rt st now uuid parts db db') :
    Opens db db' := by
  obtain ⟨before, after, db₁, hran, rfl⟩ := h
  have hstart : Opens db { db with inbox := before } := (Opens.refl hids).congr rfl rfl
  -- A handler that moves no unit changes no standing.
  have hkept : ∀ {x : Tx PUnit}, Tx.Keeps Db.standings x →
      x { db with inbox := before } = (.ok ⟨⟩, db₁) → Opens db { db₁ with inbox := after } := by
    intro x hx hrun
    have hsame := hx { db with inbox := before }
    rw [hrun] at hsame
    exact Opens.of_standings hids hsame
  -- By the handler: units come, arrive, are allocated or are replaced.
  cases runHandler_ok hran with
  | available _ hrun =>
    obtain ⟨data, manifest, -, rfl | ⟨incoming, transfer, -, -, -, hloop⟩⟩ :=
      applyTransferAvailableCommand_ok hrun
    · exact hstart.congr rfl rfl
    · have hend : Opens db db₁ := by
        refine receiveManifest_invariant (I := Opens db) ?_ manifest [] _ _ _ ?_ hloop
        · intro number t t' ht hitem
          obtain ⟨⟨products, serials, s, p, harrives, -, rfl⟩, -⟩ := hitem
          exact ht.arrives harrives rfl rfl
        · exact hstart.congr rfl rfl
      exact hend.congr rfl rfl
  | receipt _ hrun =>
    obtain ⟨data, manifest, transfer, received, db₂, -, -, -, -, heach, rfl⟩ :=
      applyTransferReceiptCommand_ok hrun
    have hend : Opens db db₂ := by
      refine Tx.each_ok (I := Opens db) (fun i _ t t' v ht hround => ?_) hstart heach
      rcases acknowledgeItem_ok hround with ⟨-, -, rfl⟩ | ⟨-, rfl⟩
      · cases hserial : i.serialId with
        | none => exact ht.congr rfl rfl
        | some id => exact (ht.deactivate id).congr rfl rfl
      · exact ht
    exact hend.congr rfl rfl
  | reviewed _ hrun => exact hkept (applyReceiptReviewCommand_keeps (fun _ _ => rfl) rt _) hrun
  | allocated _ hrun =>
    obtain ⟨listed, new, -, hnew, hserials⟩ := applyQrAllocatedCommand_ok hrun
    have htransactions := applyQrAllocatedCommand_keeps (f := fun db : Db => db.transactions)
      (fun _ _ => rfl) (fun _ _ => rfl) rt st now parts.payload { db with inbox := before }
    rw [hrun] at htransactions
    exact allocated_opens hnew hserials hids' htransactions
  | replaced _ hrun =>
    obtain ⟨request, old, status, -, hold, hserials⟩ := applyQrReplaceCommand_ok hrun
    have htransactions := applyQrReplaceCommand_keeps (f := fun db : Db => db.transactions)
      (fun _ _ => rfl)
      (fun _ _ _ => rfl) st now uuid parts.payload parts.commandId { db with inbox := before }
    rw [hrun] at htransactions
    exact replaced_opens hold.mem hserials hids' htransactions
  | upserted _ hrun => exact hkept (applyProductUpsertCommand_keeps (fun _ _ => rfl) rt st _) hrun

/-! ## Runs -/

/-- The status that a serial has when it is first stored. -/
def firstStatus (rt : Runtime) (st : Settings) : Db → List StockAction → Nat → Option SerialStatus
  | db, [], id => (db.serial id).map (·.status)
  | db, a :: as, id =>
    ((db.serial id).map (·.status)).or (firstStatus rt st (stockStep rt st db a) as id)

/-- One action keeps the books. -/
theorem stockStep_booked (hk : db.Keyed) (h : Booked opened db) (a : StockAction) :
    (stockStep rt st db a).Keyed ∧
      Booked (opens opened (stockStep rt st db a)) (stockStep rt st db a) := by
  let I (db : Db) : Prop := db.Keyed ∧ Booked opened db
  have hsame : I (stockStep rt st db a) →
      (stockStep rt st db a).Keyed ∧
      Booked (opens opened (stockStep rt st db a)) (stockStep rt st db a) :=
    fun hI => ⟨hI.1, hI.2.extend (Opens.refl hI.1.serials)⟩
  have hcommit : ∀ c db db', I db → Ready rt c db → writesOf c db = (.ok ⟨⟩, db') → I db' :=
    fun c db db' hI hready hx => ⟨ready_keyed hI.1 hready hx, ready_booked hI.2 hready hx⟩
  have hrelocate : ∀ m, Tx.Preserves I (relocateStock st m) := fun m =>
    (relocateStock_keyed st m).and fun db db' u _ => relocateStock_booked st m db db' u
  cases a with
  | order o =>
    refine hsame
      (stockStep_invariant (fun o _ => request_ready st hk.serials o) hcommit hrelocate ?_ ⟨hk, h⟩)
    intro _ _ _ he
    cases he
  | relocate m => exact hsame ((hrelocate m).atomically ⟨hk, h⟩)
  | command now uuid fields =>
    rcases Tx.atomically_cases (applyMasterCommand rt st now uuid fields) db with
      ⟨row, db', hx, hrun⟩ | ⟨e, db', hx, hrun⟩
    · have hstep : stockStep rt st db (.command now uuid fields) = db' := congrArg Prod.snd hrun
      rw [hstep]
      have hk' := applyMasterCommand_keyed rt st now uuid fields db db' row hk hx
      obtain ⟨parts, -, rfl | hhandled⟩ := applyMasterCommand_ran hx
      · exact ⟨hk, h.extend (Opens.refl hk.serials)⟩
      · exact ⟨hk', h.extend (handled_opens hk.serials hk'.serials hhandled)⟩
    · have hstep : stockStep rt st db (.command now uuid fields) = db := congrArg Prod.snd hrun
      rw [hstep]
      exact ⟨hk, h.extend (Opens.refl hk.serials)⟩

/-- A serial that is stored now opened its account before. -/
theorem firstStatus_or (as : List StockAction) (db : Db) (id : Nat) :
    ((db.serial id).map (·.status)).or (firstStatus rt st db as id) =
        firstStatus rt st db as id := by
  cases as with
  | nil => exact Option.or_self
  | cons a as =>
    unfold firstStatus
    rw [← Option.or_assoc, Option.or_self]

/-- The account of a serial, open now or opened in the run. -/
theorem standingOf_or_firstStatus (as : List StockAction) (db : Db) (id : Nat) :
    (db.standingOf (some id)).or ((firstStatus rt st db as id).map some) =
      (firstStatus rt st db as id).map some := by
  have hstatus : db.standingOf (some id) = ((db.serial id).map (·.status)).map some := by
    rw [Option.map_map]
    rfl
  rw [hstatus, ← Option.map_or, firstStatus_or]

/-- Without an account there is no row. -/
theorem Booked.serial_none (h : Booked opened db) {id : Nat} (hid : opened (some id) = none) :
    db.serial id = none := by
  by_contra hsome
  obtain ⟨s, hs⟩ := Option.ne_none_iff_exists'.mp hsome
  obtain ⟨hmem, rfl⟩ := lookup_some hs
  have hopened := (h.opened (some s.id)).mpr ⟨s, hmem, rfl⟩
  rw [hid] at hopened
  cases hopened

/-- A run keeps the books; a serial that was not there is opened with its first status. -/
theorem run_booked (as : List StockAction) :
    ∀ {db : Db} {opened : Option Nat → Option (Option SerialStatus)}, db.Keyed → Booked opened db →
      ∀ {db' : Db}, exec (stockMachine rt st) db as = some db' →
        db'.Keyed ∧ ∃ opened', Booked opened' db' ∧
          ∀ id, opened' (some id) =
              (opened (some id)).or ((firstStatus rt st db as id).map some) := by
  induction as with
  -- A run of no steps: what is open is what was open at the start.
  | nil =>
    intro db opened hk h db' hexec
    obtain rfl := Option.some.inj hexec
    refine ⟨hk, opened, h, fun id => ?_⟩
    cases hid : opened (some id) with
    | some a => rfl
    | none =>
      unfold firstStatus
      rw [h.serial_none hid]
      rfl
  | cons a as ih =>
    intro db opened hk h db' hexec
    obtain ⟨t, hstep, hexec⟩ := exec_cons.mp hexec
    obtain rfl := Option.some.inj hstep
    obtain ⟨hk', h'⟩ : (stockStep rt st db a).Keyed ∧
      Booked (opens opened (stockStep rt st db a)) (stockStep rt st db a) := stockStep_booked hk h a
    obtain ⟨hkend, opened', hend, hfirst⟩ := ih hk' h' hexec
    refine ⟨hkend, opened', hend, fun id => ?_⟩
    -- The first status of a unit that is known is not looked up again.
    have hfold : firstStatus rt st db (a :: as) id =
        ((db.serial id).map (·.status)).or (firstStatus rt st (stockStep rt st db a) as id) := rfl
    rw [hfirst id, hfold]
    unfold opens
    cases hid : opened (some id) with
    | some b => rfl
    | none =>
      rw [h.serial_none hid, Option.none_or, Option.none_or]
      exact standingOf_or_firstStatus as _ id

/-- In every run of a node the transactions of each serial, in the order of their ids, lead
without a gap from the status the serial was first stored with to the status it has; a QR that
was replaced is retired instead. -/
theorem ledger_continuous (rt : Runtime) (st : Settings) {start : Db} (hkeyed : start.Keyed)
    (hlog : start.transactions = []) (hfirst : ∀ s ∈ start.serials, s.replacedById = none)
    (as : List StockAction) (db : Db) (hexec : exec (stockMachine rt st) start as = some db) :
    (db.transactions.map (·.id)).Pairwise (· < ·) ∧
      (∀ t ∈ db.transactions, ∃ s ∈ db.serials, t.serialId = some s.id) ∧
      ∀ s ∈ db.serials, ∃ first last, firstStatus rt st start as s.id = some first ∧
        LeadsTo (some first) (changesOf (some s.id) db.changes) last ∧
        (s.replacedById = none → last = some s.status) ∧
        (s.replacedById ≠ none → s.active = false ∧ s.status = .invalid) := by
  -- At the start every unit has its account, with nothing booked on it.
  have hstart : Booked start.standingOf start := by
    constructor
    · have hnone : start.changes = [] := congrArg (List.map _) hlog
      rw [hnone]
      refine .start fun k b ⟨s, hs, _, hkey, hb⟩ => ?_
      rw [hkey, hb]
      exact standingOf_mem hkeyed.serials hs
    · refine fun key => ⟨standingOf_isSome, fun ⟨s, hs, hkey⟩ => ?_⟩
      rw [hkey, standingOf_mem hkeyed.serials hs]
      rfl
    · exact hkeyed.serials
    · exact fun s hs hreplaced => absurd (hfirst s hs) hreplaced
  obtain ⟨hk, opened, hend, hopened⟩ := run_booked as hkeyed hstart hexec
  have hfrom : ∀ id, opened (some id) = (firstStatus rt st start as id).map some := by
    intro id
    rw [hopened id]
    exact standingOf_or_firstStatus as start id
  -- The references of the transactions, and the account of each unit.
  refine ⟨hk.transactions, fun t ht => ?_, fun s hs => ?_⟩
  · have hknown := hend.explained.known ⟨t.serialId, t.statusFrom, t.statusTo⟩
      (List.mem_map.mpr ⟨t, ht, rfl⟩)
    exact (hend.opened t.serialId).mp hknown
  · obtain ⟨a, ha⟩ := Option.isSome_iff_exists.mp ((hend.opened (some s.id)).mpr ⟨s, hs, rfl⟩)
    obtain ⟨first, hstatus, rfl⟩ := Option.map_eq_some_iff.mp ((hfrom s.id).symm.trans ha)
    obtain ⟨last, hleads⟩ := hend.explained.account _ _ ha
    refine ⟨first, last, hstatus, hleads, fun hnone => ?_, hend.retired s hs⟩
    obtain ⟨a', ha', hleads'⟩ := hend.explained.held _ _ ⟨s, hs, hnone, rfl, rfl⟩
    obtain rfl := Option.some.inj (ha.symm.trans ha')
    exact hleads.unique hleads'

/-- A lamp leaves and comes back: its two transactions lead from stock to stock. -/
theorem ledger_continuous_lamps :
    ∃ db, exec (stockMachine .plain homeSettings) lampsDb lampReturns = some db ∧
      changesOf (some 1) db.changes =
        [⟨some 1, some .inStock, some .inTransit⟩, ⟨some 1, some .inTransit, some .inStock⟩] ∧
      ∀ s ∈ db.serials, ∃ first last,
        firstStatus .plain homeSettings lampsDb lampReturns s.id = some first ∧
        LeadsTo (some first) (changesOf (some s.id) db.changes) last ∧
        (s.replacedById = none → last = some s.status) ∧
        (s.replacedById ≠ none → s.active = false ∧ s.status = .invalid) := by
  have hrun : (exec (stockMachine .plain homeSettings) lampsDb lampReturns).map (fun db =>
      decide (changesOf (some 1) db.changes =
        [⟨some 1, some .inStock, some .inTransit⟩, ⟨some 1, some .inTransit, some .inStock⟩])) =
            some true := by
    decide +kernel
  have hfirst : ∀ s ∈ lampsDb.serials, s.replacedById = none := by decide
  obtain ⟨db, hdb, hchanges⟩ := Option.map_eq_some_iff.mp hrun
  exact ⟨db, hdb, of_decide_eq_true hchanges,
    (ledger_continuous .plain homeSettings lampsDb_valid.1 rfl hfirst lampReturns db hdb).2.2⟩

end SetuoraLite
