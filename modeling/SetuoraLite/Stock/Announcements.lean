import SetuoraLite.Stock.TransferMoves

/-!
# What a node announces

A dispatch queues a `TRANSFER_DISPATCHED` event: the transfer's UUID, its destination and
one item for each serial; a receipt queues a `TRANSFER_RECEIVED` event. `Db.announced` and
`Db.reported` read them back from the texts in the outbox, which is all that Master ever
sees of a transfer.

Nothing else queues such events (`writesOf_notices` and its like). A dispatch announces the
numbers of its serials (`dispatch_announced`), a receipt reports those it is for
(`receive_reported`).
-/

namespace SetuoraLite

open Lib

variable {rt : Runtime} {st : Settings} {now : Instant} {uuid : PyStr} {db db' : Db}

/-! ## Reading an event -/

/-- A text in a dict. -/
def textField (k : PyStr) (kvs : List (PyStr × Json)) : Option PyStr :=
  match dictGet k kvs with
  | some (.str s) => some s
  | _ => none

/-- The number that an item of an event is about. -/
def itemNumber : Json → Option PyStr
  | .obj item => textField (py "serial_number") item
  | _ => none

/-- The numbers of the items of an event. -/
def eventNumbers (event : List (PyStr × Json)) : List PyStr :=
  match dictGet (py "items") event with
  | some (.arr items) => items.filterMap itemNumber
  | _ => []

/-- The type of the event of a dispatch. -/
def dispatchedType : PyStr := py "TRANSFER_DISPATCHED"

/-- The transfer, the destination and the number of each serial that an event sends off. -/
def announcedBy (event : List (PyStr × Json)) : List (PyStr × PyStr × PyStr) :=
  match textField (py "transfer_id") event, textField (py "destination_franchise_code") event with
  | some transferUuid, some code =>
    (eventNumbers event).map fun number => (transferUuid, code, number)
  | _, _ => []

/-- The type of the event of a receipt. -/
def receivedType : PyStr := py "TRANSFER_RECEIVED"

/-- The transfer and the number of each serial that an event reports. -/
def reportedIn (event : List (PyStr × Json)) : List (PyStr × PyStr) :=
  match textField (py "transfer_id") event with
  | some transferUuid => (eventNumbers event).map fun number => (transferUuid, number)
  | none => []

/-- The two events that tell of transfers. -/
def transferTypes : List PyStr := [dispatchedType, receivedType]

/-- The type and the event of a row, when it is about a transfer. -/
def MasterOutboxEvent.notice (row : MasterOutboxEvent) : Option (PyStr × List (PyStr × Json)) :=
  if row.eventType ∈ transferTypes then row.event.map fun event => (row.eventType, event) else none

/-- What a node has told Master of its transfers so far. -/
def Db.notices (db : Db) : List (PyStr × List (PyStr × Json)) := db.outbox.filterMap (·.notice)

/-- What a node has announced so far. -/
def Db.announced (db : Db) : List (PyStr × PyStr × PyStr) :=
  db.notices.flatMap fun n => if n.1 = dispatchedType then announcedBy n.2 else []

/-- The transfers of the dispatch events, one by one. -/
def Db.dispatches (db : Db) : List PyStr :=
  db.notices.filterMap fun n => if n.1 = dispatchedType
    then textField (py "transfer_id") n.2 else none

/-- What a node has reported as received so far. -/
def Db.reported (db : Db) : List (PyStr × PyStr) :=
  db.notices.flatMap fun n => if n.1 = receivedType then reportedIn n.2 else []

/-- What was announced is read off the notices. -/
theorem announced_of_notices (h : db'.notices = db.notices) : db'.announced = db.announced := by
  unfold Db.announced
  rw [h]

theorem dispatches_of_notices (h : db'.notices = db.notices) : db'.dispatches = db.dispatches := by
  unfold Db.dispatches
  rw [h]

theorem reported_of_notices (h : db'.notices = db.notices) : db'.reported = db.reported := by
  unfold Db.reported
  rw [h]

/-! ## Events in key order -/

/-- Sorting the members leaves a field as it is. -/
theorem textField_sortMembers {k : PyStr} {kvs : List (PyStr × Json)} (hnd : (dictKeys kvs).Nodup) :
    textField k (Json.sortMembers kvs) = textField k kvs := by
  unfold textField
  rw [dictGet_sortMembers hnd]
  cases dictGet k kvs with
  | none => rfl
  | some v => cases v <;> rfl

/-- The items of an event in key order are the items that were queued. -/
theorem eventNumbers_sortMembers {event : List (PyStr × Json)} (hwf : (Json.obj event).WF)
    {items : List JsonDict}
    (h : dictGet (py "items") event = some (.arr (items.map fun i => .obj i.entries))) :
    eventNumbers (Json.sortMembers event) =
      items.filterMap fun i => textField (py "serial_number") i.entries := by
  have hsorted : dictGet (py "items") (Json.sortMembers event) =
      some (.arr (items.map fun i => .obj (Json.sortMembers i.entries))) := by
    rw [dictGet_sortMembers hwf.1, h, Option.map_some, Json.sortKeys, Json.sortAll_eq_map,
      List.map_map]
    rfl
  unfold eventNumbers
  rw [hsorted]
  dsimp only
  rw [List.filterMap_map]
  refine List.filterMap_congr fun i _ => ?_
  exact textField_sortMembers i.wf.1

/-! ## Queueing -/

theorem enqueued_notices {r : EnqueueRequest} {row : MasterOutboxEvent}
    (h : Enqueued st uuid now r db row db') : db'.notices = db.notices ++ row.notice.toList := by
  unfold Db.notices
  rw [h.appended]
  show (db.outbox ++ [row]).filterMap _ = _
  rw [List.filterMap_append]
  cases hnotice : row.notice <;> simp [hnotice]

/-- The type of a request's event, as it is stored. -/
def EnqueueRequest.storedType (r : EnqueueRequest) : PyStr := upper (strip r.eventType)

/-- An event of another type is no notice of a transfer. -/
theorem enqueueOutboxEvent_notices {r : EnqueueRequest} (htype : r.storedType ∉ transferTypes)
    {row : MasterOutboxEvent} (h : enqueueOutboxEvent st uuid now r db = (.ok row, db')) :
    db'.notices = db.notices := by
  have hqueued := enqueueOutboxEvent_ok h
  have hrow : row.eventType = r.storedType := by rw [hqueued.columns]; rfl
  have hnone : row.notice = none := by
    unfold MasterOutboxEvent.notice
    rw [hrow, if_neg htype]
  rw [enqueued_notices hqueued, hnone, Option.toList_none, List.append_nil]

/-- The notice of a transfer's event: the type and the event in key order. -/
theorem enqueued_notice {r : EnqueueRequest} (htype : r.storedType ∈ transferTypes)
    {row : MasterOutboxEvent} (h : Enqueued st uuid now r db row db') :
    row.notice = some (r.storedType, Json.sortMembers (requestedEvent uuid now r row.id)) := by
  have hrow : row.eventType = r.storedType := by rw [h.columns]; rfl
  unfold MasterOutboxEvent.notice
  rw [hrow, if_pos htype, h.event, Option.map_some]

/-- The numbers of a list of loaded items. -/
def LoadedTransferItem.numbers (items : List LoadedTransferItem) : List PyStr :=
  items.filterMap fun i => i.serial.map (·.serialNumber)

/-- The network items of loaded items carry the numbers of their serials. -/
theorem transferNetworkItems_numbers {items : List LoadedTransferItem}
    {networkItems : List JsonDict} (h : transferNetworkItems items db = .ok networkItems) :
    (networkItems.filterMap fun i => textField (py "serial_number") i.entries) =
      LoadedTransferItem.numbers items := by
  have hall := except_mapM_ok h
  clear h
  induction hall with
  | nil => rfl
  | @cons l item ls items hitem _ ih =>
    obtain ⟨serial, hserial, hitem⟩ := except_bind_ok.mp hitem
    have hnumber : textField (py "serial_number") item.entries = some serial.serialNumber := by
      unfold networkItemOf at hitem
      cases hproduct : db.product serial.productId with
      | none => rw [hproduct] at hitem; cases hitem
      | some product =>
        rw [hproduct] at hitem
        obtain rfl := Except.ok.inj hitem
        rfl
    have hstored : l.serial.map (·.serialNumber) = some serial.serialNumber := by
      rw [show l.serial = some serial from elim_ok hserial]
      rfl
    unfold LoadedTransferItem.numbers at ih ⊢
    rw [List.filterMap_cons_some
        (f := fun i : JsonDict => textField (py "serial_number") i.entries) hnumber,
      List.filterMap_cons_some (f := fun i : LoadedTransferItem => i.serial.map (·.serialNumber))
        hstored, ih]

/-- A field of the payload can be read off the stored event. -/
theorem enqueued_textField {r : EnqueueRequest} {k s : PyStr}
    (hk : k ∉ [py "schema_version", py "event_id", py "sequence", py "type", py "occurred_at"])
    (hfield : dictGet k r.payload.entries = some (.str s)) (id : Nat) :
    textField k (Json.sortMembers (requestedEvent uuid now r id)) = some s := by
  have hwf : (Json.obj (requestedEvent uuid now r id)).WF := frozenEvent_wf r.payload.wf
  have hevent : dictGet k (requestedEvent uuid now r id) = some (.str s) :=
    frozenEvent_payload hfield hk
  rw [textField_sortMembers hwf.1]
  unfold textField
  rw [hevent]

theorem enqueued_numbers {r : EnqueueRequest} {items : List JsonDict}
    (hitems : dictGet (py "items") r.payload.entries =
      some (.arr (items.map fun i => .obj i.entries)))
    (id : Nat) : eventNumbers (Json.sortMembers (requestedEvent uuid now r id)) =
      items.filterMap fun i => textField (py "serial_number") i.entries := by
  have hwf : (Json.obj (requestedEvent uuid now r id)).WF := frozenEvent_wf r.payload.wf
  refine eventNumbers_sortMembers hwf ?_
  unfold requestedEvent
  rw [frozenEvent_items, hitems]
  rfl

/-- The notice of a transfer's event: its transfer, its destination and its numbers. -/
theorem enqueueTransferEvent_notices {eventType : PyStr} (htype : eventType ∈ transferTypes)
    {s : Submitter} {transfer : LocalTransfer} {destination : Option PyStr}
    {items : List LoadedTransferItem} {row : MasterOutboxEvent}
    (h : enqueueTransferEvent eventType s transfer destination items db = (.ok row, db')) :
    ∃ event, db'.notices = db.notices ++ [(eventType, event)] ∧
      textField (py "transfer_id") event = some transfer.transferUuid ∧
      (∀ code ∈ destination, textField (py "destination_franchise_code") event = some code) ∧
      eventNumbers event = LoadedTransferItem.numbers items := by
  obtain ⟨networkItems, hitems, hqueued⟩ := enqueueTransferEvent_ok h
  -- Neither type is changed by the strip and the upper case of the request.
  have hstored : upper (strip eventType) = eventType := by
    rcases List.mem_cons.mp htype with rfl | htype
    · decide
    · obtain rfl := List.mem_singleton.mp htype
      decide
  have hrequest : (transferRequest eventType s transfer destination networkItems).storedType ∈
      transferTypes := by
    show upper (strip eventType) ∈ transferTypes
    rw [hstored]
    exact htype
  -- The new row tells what was requested, its members sorted.
  have hnotice := enqueued_notice hrequest hqueued
  refine ⟨Json.sortMembers (requestedEvent s.uuid s.now
    (transferRequest eventType s transfer destination networkItems) row.id), ?_, ?_, ?_, ?_⟩
  · rw [enqueued_notices hqueued, hnotice]
    show db.notices ++ [(upper (strip eventType), _)] = _
    rw [hstored]
  · refine enqueued_textField (by decide) ?_ row.id
    cases destination <;> rfl
  · intro code hcode
    obtain rfl := hcode
    exact enqueued_textField (by decide) rfl row.id
  · have hlisted : dictGet (py "items")
        (transferPayload s.user transfer destination networkItems).entries =
        some (.arr (networkItems.map fun i => .obj i.entries)) := by
      cases destination <;> rfl
    exact (enqueued_numbers hlisted row.id).trans (transferNetworkItems_numbers hitems)

/-! ## Transactions -/

section Transactions

variable {α : Type} {x : Tx α} {notices : List (PyStr × List (PyStr × Json))}

/-- What leaves the outbox alone tells nothing. -/
theorem notices_of_keeps (h : Tx.Keeps (fun db : Db => db.outbox) x) :
    Tx.Preserves (fun db => db.notices = notices) x := by
  refine .of_keeps h fun s t hsame hnotices => ?_
  unfold Db.notices at hnotices ⊢
  rw [hsame]
  exact hnotices

theorem enqueue_notices {r : EnqueueRequest} (htype : r.storedType ∉ transferTypes) :
    Tx.Preserves (fun db => db.notices = notices) (enqueueOutboxEvent st uuid now r) :=
  fun _ _ _ hnotices h => (enqueueOutboxEvent_notices htype h).trans hnotices

theorem batchEventType_stored (batchType : BatchType) :
    upper (strip (batchEventType batchType)) ∉ transferTypes := by
  cases batchType <;> decide

theorem snapshot_stored : upper (strip (py "STOCK_SNAPSHOT")) ∉ transferTypes := by decide

theorem submit_notices (s : Submitter) (loaded : LoadedBatch) :
    Tx.Preserves (fun db => db.notices = notices) (submit s loaded) := by
  refine .bind (notices_of_keeps (.each (fun _ => submitItem_keeps (.of_frame fun _ _ => rfl)
    (.of_frame fun _ _ => rfl) (fun _ _ => rfl) (fun _ _ => rfl) _ _ _ _) _)) fun _ => ?_
  refine .bind (notices_of_keeps (updateBatch_keeps (fun _ _ => rfl) _ _ _)) fun _ => ?_
  exact .bind (.bind (.lift _) fun _ => enqueue_notices (batchEventType_stored _)) fun _ => .pure _

/-- A transaction that is no dispatch and no receipt tells nothing of transfers. -/
theorem writesOf_notices {c : StockCommit} (hdispatch : ∀ s loaded, c ≠ .dispatch s loaded)
    (hreceive : ∀ s loaded, c ≠ .receive s loaded) :
    Tx.Preserves (fun db => db.notices = notices) (writesOf c) := by
  cases c with
  | createBatch row => exact notices_of_keeps (insertBatch_keeps (fun _ _ => rfl) _)
  | logScan row => exact notices_of_keeps (insertScanLog_keeps (fun _ _ => rfl) _)
  | scanItem item log =>
    exact notices_of_keeps (addItem_keeps (fun _ _ => rfl) (fun _ _ => rfl) _ _)
  | pickItems picks => exact notices_of_keeps (addItems_keeps (fun _ _ => rfl) (fun _ _ => rfl) _)
  | removeItem itemId => exact notices_of_keeps (deleteBatchItem_keeps (fun _ _ => rfl) _)
  | setRates items rate => exact notices_of_keeps (setRates_keeps (.of_frame fun _ _ => rfl) _ _)
  | verifyShelf batch pending location user now =>
    exact notices_of_keeps
      (verifyShelf_keeps (.of_frame fun _ _ => rfl) (fun _ _ => rfl) (fun _ _ => rfl)
      _ _ _ _ _)
  | returnItem itemId log =>
    exact notices_of_keeps (returnItem_keeps (fun _ _ => rfl) (fun _ _ => rfl) _ _)
  | verifyReturn batch pending location user now =>
    exact notices_of_keeps
      (verifyReturn_keeps (.of_frame fun _ _ => rfl) (fun _ _ => rfl) _ _ _ _ _)
  | submit s loaded => exact submit_notices s loaded
  | createTransfer row =>
    exact notices_of_keeps (.bind (insertTransfer_keeps (fun _ _ => rfl) _) fun _ => .pure _)
  | addTransferItem row =>
    exact notices_of_keeps (.bind (insertTransferItem_keeps (fun _ _ => rfl) _) fun _ => .pure _)
  | removeTransferItem itemId =>
    exact notices_of_keeps (deleteTransferItem_keeps (fun _ _ => rfl) _)
  | dispatch s loaded => exact absurd rfl (hdispatch s loaded)
  | scanTransferItem item now =>
    exact notices_of_keeps (scanTransferItem_keeps (marksItems_of_frame fun _ _ => rfl) _ _)
  | receive s loaded => exact absurd rfl (hreceive s loaded)

theorem relocateStock_notices (st : Settings) (m : Move) :
    Tx.Preserves (fun db => db.notices = notices) (relocateStock st m) := by
  have hchunks : ∀ destination reference (chunks : List (List Serial)) part,
      Tx.Preserves (fun db => db.notices = notices)
          (enqueueMoved st m destination reference part chunks) := by
    intro destination reference chunks
    induction chunks with
    | nil => exact fun _ => .pure _
    | cons chunk chunks ih =>
      exact fun part => .bind (.reads _) fun _ => .bind (.lift _) fun _ =>
        .bind (enqueue_notices snapshot_stored) fun _ => ih _
  refine .bind (.reads _) fun _ => .bind (.lift _) fun _ => .bind (.raiseIf _ _) fun _ =>
    .mapError (.bind (notices_of_keeps ?_) fun _ => hchunks _ _ _ _) _
  exact moveLines_keeps (.of_frame fun _ _ => rfl) (fun _ _ => rfl) (fun _ _ => rfl)
    (fun _ _ => rfl)
    (fun _ _ => rfl) _ _ _ _

/-- No command tells Master of a transfer. -/
theorem applyMasterCommand_notices (rt : Runtime) (st : Settings) (now : Instant) (uuid : PyStr)
    (command : List (PyStr × Json)) :
    Tx.Preserves (fun db => db.notices = notices) (applyMasterCommand rt st now uuid command) := by
  refine applyMasterCommand_preserves (fun _ _ h => h) ?_ ?_ ?_ ?_ ?_ ?_ command
  · exact fun payload => notices_of_keeps (applyTransferAvailableCommand_keeps (fun _ _ => rfl)
      (fun _ _ => rfl) (fun _ _ => rfl) (fun _ _ => rfl) rt st now payload)
  · exact fun payload => notices_of_keeps (applyTransferReceiptCommand_keeps (fun _ _ => rfl)
      (fun _ _ => rfl) (fun _ _ => rfl) rt now payload)
  · exact fun payload =>
      notices_of_keeps (applyReceiptReviewCommand_keeps (fun _ _ => rfl) rt payload)
  · exact fun payload => notices_of_keeps (applyQrAllocatedCommand_keeps (fun _ _ => rfl)
      (fun _ _ => rfl) rt st now payload)
  · exact fun payload commandId => .bind (.lift _) fun _ => .bind (.lift _) fun _ =>
      .bind (.reads _) fun _ =>
      .bind (.lift _) fun _ =>
        .bind (notices_of_keeps (insertSerial_keeps (fun _ _ => rfl) _)) fun _ =>
        .bind (notices_of_keeps (updateSerial_keeps (fun _ _ => rfl) _ _)) fun _ =>
          .bind (.reads _) fun _ =>
          .bind (.lift _) fun _ => .bind (.lift _) fun _ =>
            .bind (enqueue_notices snapshot_stored) fun _ => .pure _
  · exact fun payload =>
      notices_of_keeps (applyProductUpsertCommand_keeps (fun _ _ => rfl) rt st payload)

end Transactions

/-! ## Dispatch and receipt -/

/-- A dispatch announces the numbers of its serials to its destination, in one event. -/
theorem dispatch_announced {s : Submitter} {loaded : LoadedTransfer} {u : PUnit}
    (h : dispatch s loaded db = (.ok u, db')) :
    db'.announced = db.announced ++
      (LoadedTransferItem.numbers (manifestOrder loaded.items)).map (fun number =>
        (loaded.transfer.transferUuid, loaded.transfer.peerCode, number)) ∧
      db'.dispatches = db.dispatches ++ [loaded.transfer.transferUuid] ∧
      db'.reported = db.reported := by
  obtain ⟨_, t₁, h₁, h⟩ := Tx.bind_ok.mp (Tx.mapError_ok.mp h)
  obtain ⟨_, t₂, h₂, h⟩ := Tx.bind_ok.mp h
  obtain ⟨row, t₃, h₃, h⟩ := Tx.bind_ok.mp h
  obtain ⟨-, rfl⟩ := Tx.pure_ok.mp h
  -- Neither the items nor the row of the transfer touch the outbox.
  have hkept : t₂.notices = db.notices := by
    have hloop : t₁.notices = db.notices := notices_of_keeps (.each (fun _ => dispatchItem_keeps
      (.of_frame fun _ _ => rfl)
      (fun _ _ => rfl) s.user loaded.transfer _) loaded.items) db t₁ _ rfl h₁
    exact notices_of_keeps (updateTransfer_keeps (fun _ _ => rfl) _ _) t₁ t₂ _ hloop h₂
  have hqueued : enqueueTransferEvent dispatchedType s loaded.transfer
      (some loaded.transfer.peerCode)
      (manifestOrder loaded.items) t₂ = (.ok row, t₃) := h₃
  obtain ⟨event, hnotices, huuid, hcode, hnumbers⟩ :=
    enqueueTransferEvent_notices (by decide) hqueued
  rw [hkept] at hnotices
  refine ⟨?_, ?_, ?_⟩
  · unfold Db.announced
    rw [hnotices, List.flatMap_append, List.flatMap_singleton, if_pos rfl]
    unfold announcedBy
    rw [huuid, hcode _ rfl, hnumbers]
  · unfold Db.dispatches
    rw [hnotices, List.filterMap_append]
    simp [huuid]
  · have hother : dispatchedType ≠ receivedType := by decide
    unfold Db.reported
    rw [hnotices, List.flatMap_append, List.flatMap_singleton, if_neg hother, List.append_nil]

/-- A receipt reports the numbers it is for. -/
theorem receive_reported {s : Submitter} {loaded : LoadedTransfer} {u : PUnit}
    (h : receive s loaded db = (.ok u, db')) :
    db'.reported = db.reported ++
      (LoadedTransferItem.numbers loaded.receiptItems).map (fun number =>
        (loaded.transfer.transferUuid, number)) ∧
      db'.announced = db.announced ∧ db'.dispatches = db.dispatches := by
  obtain ⟨_, t₁, h₁, h⟩ := Tx.bind_ok.mp (Tx.mapError_ok.mp h)
  obtain ⟨_, t₂, h₂, h⟩ := Tx.bind_ok.mp h
  obtain ⟨row, t₃, h₃, h⟩ := Tx.bind_ok.mp h
  obtain ⟨-, rfl⟩ := Tx.pure_ok.mp h
  -- As for a dispatch: the outbox grows by the event alone.
  have hkept : t₂.notices = db.notices := by
    have hloop : t₁.notices = db.notices := notices_of_keeps (.each (fun _ => receiveItem_keeps
      (.of_frame fun _ _ => rfl) (marksItems_of_frame fun _ _ => rfl)
      (fun _ _ => rfl) s loaded.transfer _)
      loaded.receiptItems) db t₁ _ rfl h₁
    exact notices_of_keeps (updateTransfer_keeps (fun _ _ => rfl) _ _) t₁ t₂ _ hloop h₂
  have hqueued : enqueueTransferEvent receivedType s loaded.transfer none loaded.receiptItems t₂ =
      (.ok row, t₃) :=
    h₃
  obtain ⟨event, hnotices, huuid, -, hnumbers⟩ := enqueueTransferEvent_notices (by decide) hqueued
  rw [hkept] at hnotices
  have hother : receivedType ≠ dispatchedType := by decide
  refine ⟨?_, ?_, ?_⟩
  · unfold Db.reported
    rw [hnotices, List.flatMap_append, List.flatMap_singleton, if_pos rfl]
    unfold reportedIn
    rw [huuid, hnumbers]
  · unfold Db.announced
    rw [hnotices, List.flatMap_append, List.flatMap_singleton, if_neg hother, List.append_nil]
  · unfold Db.dispatches
    rw [hnotices, List.filterMap_append]
    simp [hother]

end SetuoraLite
