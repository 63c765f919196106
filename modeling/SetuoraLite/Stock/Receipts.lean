import SetuoraLite.Stock.Names

/-!
# Receipts

What a receipt of an outgoing transfer does, apart from its times: `ReceiptView` is the
part of the database it reads and writes, and `ReceiptView.report` the effect of a report
of numbers on it. Reports are a union (`report_report`, `report_congr`), so a sequence of
them is one report of all their numbers.

`applyTransferReceiptCommand_view`: a command is the report of the numbers it carries, or
of the whole manifest when it is complete and carries none.
-/

namespace SetuoraLite

open Lib

variable {rt : Runtime} {now : Instant} {db db' : Db}

/-! ## Reports -/

/-- A transfer item, without what it is of and without its times. -/
structure ItemMarks where
  id : Nat
  transferId : Nat
  serialId : Option Nat
  number : PyStr
  scanned : Bool
  received : Bool
deriving DecidableEq

/-- A transfer and its status. -/
structure TransferMarks where
  id : Nat
  uuid : PyStr
  direction : TransferDirection
  status : TransferStatus
deriving DecidableEq

/-- The status of a transfer, by its items: `true` for a received one. -/
def receiptStatus (flags : List Bool) (status : TransferStatus) : TransferStatus :=
  if flags.all id then .received else if flags.any id then .partiallyReceived else status

/-- What a receipt reads and writes. -/
@[ext] structure ReceiptView where
  items : List ItemMarks
  serials : List Serial
  transfers : List TransferMarks

namespace ItemMarks

/-- The item is one of the transfer that the report is the first to name. -/
def Named (transferId : Nat) (numbers : List PyStr) (m : ItemMarks) : Prop :=
  m.transferId = transferId ∧ m.number ∈ numbers ∧ m.received = false

instance (transferId : Nat) (numbers : List PyStr) (m : ItemMarks) :
    Decidable (m.Named transferId numbers) :=
  inferInstanceAs (Decidable (_ ∧ _ ∧ _))

/-- An item after a receipt that names these numbers of the transfer. -/
def report (transferId : Nat) (numbers : List PyStr) (m : ItemMarks) : ItemMarks :=
  if m.Named transferId numbers then { m with scanned := true, received := true } else m

variable {transferId : Nat} {numbers numbers' : List PyStr} {m : ItemMarks}

@[simp] theorem report_id : (m.report transferId numbers).id = m.id := by
  unfold report
  split <;> rfl

@[simp] theorem report_transferId : (m.report transferId numbers).transferId = m.transferId := by
  unfold report
  split <;> rfl

@[simp] theorem report_serialId : (m.report transferId numbers).serialId = m.serialId := by
  unfold report
  split <;> rfl

@[simp] theorem report_number : (m.report transferId numbers).number = m.number := by
  unfold report
  split <;> rfl

/-- What is received stays received, and what is named becomes it. -/
theorem report_received :
    (m.report transferId numbers).received = true ↔
      m.received = true ∨ m.Named transferId numbers := by
  unfold report
  by_cases hnamed : m.Named transferId numbers
  · simp [hnamed]
  · simp [hnamed]

/-- Named by the second report and not by the first is named by both, and the other way round. -/
theorem named_append : m.Named transferId (numbers ++ numbers') ↔
    m.Named transferId numbers ∨ (m.report transferId numbers).Named transferId numbers' := by
  by_cases hnamed : m.Named transferId numbers
  · have hboth : m.Named transferId (numbers ++ numbers') :=
      ⟨hnamed.1, List.mem_append_left _ hnamed.2.1, hnamed.2.2⟩
    simp [hnamed, hboth]
  · have hsame : m.report transferId numbers = m := if_neg hnamed
    rw [hsame]
    unfold Named at hnamed ⊢
    rw [List.mem_append]
    grind

/-- Two receipts do what one receipt of all their numbers does. -/
theorem report_report :
    (m.report transferId numbers).report transferId numbers' =
        m.report transferId (numbers ++ numbers') := by
  by_cases hnamed : m.Named transferId numbers
  · -- The item was named before, so the second report leaves it alone.
    have hfirst : m.report transferId numbers = { m with scanned := true, received := true } :=
      if_pos hnamed
    have hboth : m.Named transferId (numbers ++ numbers') := named_append.mpr (Or.inl hnamed)
    have hagain : ¬ (m.report transferId numbers).Named transferId numbers' := by
      intro h
      have hreceived := h.2.2
      rw [hfirst] at hreceived
      cases hreceived
    unfold report at hagain ⊢
    rw [if_neg hagain, if_pos hnamed, if_pos hboth]
  · have hsame : m.report transferId numbers = m := if_neg hnamed
    have hiff : m.Named transferId (numbers ++ numbers') ↔ m.Named transferId numbers' := by
      rw [named_append, hsame]
      exact or_iff_right hnamed
    rw [hsame]
    unfold report
    simp only [hiff]

end ItemMarks

namespace ReceiptView

/-- The received flags of a transfer's items. -/
def flags (items : List ItemMarks) (transferId : Nat) : List Bool :=
  (items.filter fun m => m.transferId = transferId).map (·.received)

/-- The numbers of a transfer's items. -/
def manifest (v : ReceiptView) (transferId : Nat) : List PyStr :=
  (v.items.filter fun m => m.transferId = transferId).map (·.number)

/-- A report names an item that is for the serial. -/
def Leaves (items : List ItemMarks) (transferId : Nat) (numbers : List PyStr)
    (serialId : Nat) : Prop :=
  ∃ m ∈ items, m.Named transferId numbers ∧ m.serialId = some serialId

instance (items : List ItemMarks) (transferId : Nat) (numbers : List PyStr) (serialId : Nat) :
    Decidable (Leaves items transferId numbers serialId) :=
  inferInstanceAs (Decidable (∃ m ∈ items, _))

/-- The serial after a report: inactive when it leaves. -/
def left (items : List ItemMarks) (transferId : Nat) (numbers : List PyStr) (s : Serial) : Serial :=
  if Leaves items transferId numbers s.id then { s with active := false } else s

/-- The transfer with these items. -/
def settled (items : List ItemMarks) (transferId : Nat) (t : TransferMarks) : TransferMarks :=
  if t.id = transferId
    then { t with status := receiptStatus (flags items transferId) t.status } else t

/-- The items of the transfer that a report names are received, their serials inactive. -/
def report (transferId : Nat) (numbers : List PyStr) (v : ReceiptView) : ReceiptView where
  items := v.items.map (ItemMarks.report transferId numbers)
  serials := v.serials.map (left v.items transferId numbers)
  transfers :=
    v.transfers.map (settled (v.items.map (ItemMarks.report transferId numbers)) transferId)

/-- The transfer's status is the one its items give it. -/
def Settled (v : ReceiptView) (transferId : Nat) : Prop :=
  ∀ t ∈ v.transfers, t.id = transferId →
    receiptStatus (flags v.items transferId) t.status = t.status

variable {v : ReceiptView} {transferId : Nat} {numbers numbers' : List PyStr}

/-- A receipt changes no manifest. -/
theorem report_manifest (numbers : List PyStr) :
    (v.report transferId numbers).manifest transferId = v.manifest transferId := by
  unfold manifest report
  rw [List.filter_map, List.map_map]
  congr 1
  · funext m
    exact ItemMarks.report_number
  · congr 1
    funext m
    simp

/-- Once some items are received, more of them decide the status again. -/
theorem receiptStatus_mono {flags flags' : List Bool} {status : TransferStatus}
    (hall : flags.all id = true → flags'.all id = true)
    (hany : flags.any id = true → flags'.any id = true) :
    receiptStatus flags' (receiptStatus flags status) = receiptStatus flags' status := by
  unfold receiptStatus
  by_cases hall' : flags'.all id = true
  · rw [if_pos hall', if_pos hall']
  · by_cases hany' : flags'.any id = true
    · rw [if_neg hall', if_neg hall', if_pos hany', if_pos hany']
    · have hno : ¬ flags.all id = true := fun h => hall' (hall h)
      have hnone : ¬ flags.any id = true := fun h => hany' (hany h)
      rw [if_neg hall', if_neg hall', if_neg hany', if_neg hany', if_neg hno, if_neg hnone]

/-- The flags of the transfer's items after a receipt. -/
private theorem flags_map_report {items : List ItemMarks} :
    flags (items.map (ItemMarks.report transferId numbers)) transferId
      = (items.filter fun m => m.transferId = transferId).map fun m =>
          (m.report transferId numbers).received := by
  unfold flags
  rw [List.filter_map, List.map_map]
  congr 1
  congr 1
  funext m
  simp

/-- A report receives, and never takes back. -/
theorem receiptStatus_report {items : List ItemMarks} {status : TransferStatus} :
    receiptStatus (flags (items.map (ItemMarks.report transferId numbers)) transferId)
        (receiptStatus (flags items transferId) status)
      = receiptStatus (flags (items.map (ItemMarks.report transferId numbers)) transferId)
          status := by
  apply receiptStatus_mono
  · rw [flags_map_report]
    unfold flags
    simp only [List.all_eq_true, List.mem_map]
    rintro hall _ ⟨m, hm, rfl⟩
    exact ItemMarks.report_received.mpr (Or.inl (hall _ ⟨m, hm, rfl⟩))
  · rw [flags_map_report]
    unfold flags
    simp only [List.any_eq_true, List.mem_map]
    rintro ⟨_, ⟨m, hm, rfl⟩, hreceived⟩
    exact ⟨_, ⟨m, hm, rfl⟩, ItemMarks.report_received.mpr (Or.inl hreceived)⟩

/-- What leaves with two receipts leaves with the first or, after it, with the second. -/
theorem leaves_append {items : List ItemMarks} {serialId : Nat} :
    Leaves items transferId (numbers ++ numbers') serialId ↔
      Leaves items transferId numbers serialId ∨
        Leaves (items.map (ItemMarks.report transferId numbers)) transferId numbers' serialId := by
  constructor
  · rintro ⟨m, hm, hnamed, hserial⟩
    rcases ItemMarks.named_append.mp hnamed with hfirst | hsecond
    · exact Or.inl ⟨m, hm, hfirst, hserial⟩
    · exact Or.inr ⟨_, List.mem_map_of_mem hm, hsecond, ItemMarks.report_serialId.trans hserial⟩
  · rintro (⟨m, hm, hfirst, hserial⟩ | ⟨_, hm', hsecond, hserial⟩)
    · exact ⟨m, hm, ItemMarks.named_append.mpr (Or.inl hfirst), hserial⟩
    · obtain ⟨m, hm, rfl⟩ := List.mem_map.mp hm'
      exact ⟨m, hm, ItemMarks.named_append.mpr (Or.inr hsecond),
        ItemMarks.report_serialId.symm.trans hserial⟩

/-- A serial that two receipts may make inactive. -/
theorem left_left {items : List ItemMarks} {s : Serial} :
    left (items.map (ItemMarks.report transferId numbers)) transferId numbers'
      (left items transferId numbers s)
      = left items transferId (numbers ++ numbers') s := by
  have hboth := @leaves_append transferId numbers numbers' items s.id
  by_cases hfirst : Leaves items transferId numbers s.id
  · have hleft : left items transferId numbers s = { s with active := false } := if_pos hfirst
    rw [hleft]
    unfold left
    rw [if_pos (hboth.mpr (Or.inl hfirst))]
    split <;> rfl
  · have hleft : left items transferId numbers s = s := if_neg hfirst
    rw [hleft]
    unfold left
    simp only [hboth, hfirst, false_or]

/-- The status after a receipt is worked out from the items, so an earlier one leaves no trace. -/
theorem settled_settled {items : List ItemMarks} {t : TransferMarks} :
    settled (items.map (ItemMarks.report transferId numbers)) transferId
      (settled items transferId t)
      = settled (items.map (ItemMarks.report transferId numbers)) transferId t := by
  unfold settled
  by_cases ht : t.id = transferId
  · simp only [ht, if_true]
    rw [receiptStatus_report]
  · simp only [ht, if_false]

/-- Two reports are one report of all their numbers. -/
theorem report_report :
    (v.report transferId numbers).report transferId numbers' =
        v.report transferId (numbers ++ numbers') := by
  have hitems : (v.items.map (ItemMarks.report transferId numbers)).map
      (ItemMarks.report transferId numbers') =
          v.items.map (ItemMarks.report transferId (numbers ++ numbers')) := by
    rw [List.map_map]
    apply List.map_congr_left
    intro m _
    exact ItemMarks.report_report
  have hserials : (v.serials.map (left v.items transferId numbers)).map
      (left (v.items.map (ItemMarks.report transferId numbers)) transferId numbers')
        = v.serials.map (left v.items transferId (numbers ++ numbers')) := by
    rw [List.map_map]
    apply List.map_congr_left
    intro s _
    exact left_left
  have htransfers : (v.transfers.map (settled (v.items.map (ItemMarks.report transferId numbers))
        transferId)).map (settled (v.items.map (ItemMarks.report transferId (numbers ++ numbers')))
          transferId)
      = v.transfers.map (settled (v.items.map (ItemMarks.report transferId (numbers ++ numbers')))
          transferId) := by
    rw [← hitems, List.map_map]
    apply List.map_congr_left
    intro t _
    exact settled_settled
  unfold report
  simp only [hitems, hserials, htransfers]

/-- A report is a set of numbers. -/
theorem report_congr (h : ∀ number, number ∈ numbers ↔ number ∈ numbers') :
    v.report transferId numbers = v.report transferId numbers' := by
  have hnamed : ∀ m : ItemMarks, m.Named transferId numbers ↔ m.Named transferId numbers' := by
    intro m
    unfold ItemMarks.Named
    rw [h]
  have hitem : ItemMarks.report transferId numbers = ItemMarks.report transferId numbers' := by
    funext m
    unfold ItemMarks.report
    simp only [hnamed]
  have hleft : left v.items transferId numbers = left v.items transferId numbers' := by
    funext s
    have hleaves : Leaves v.items transferId numbers s.id ↔
        Leaves v.items transferId numbers' s.id := by
      unfold Leaves
      simp only [hnamed]
    unfold left
    simp only [hleaves]
  unfold report
  rw [hitem, hleft]

/-- No receipt, no name. -/
theorem not_named_nil {m : ItemMarks} : ¬ m.Named transferId [] := by
  intro h
  exact List.not_mem_nil h.2.1

/-- Nothing reported, nothing changed, when the status is up to date. -/
theorem report_nil (h : v.Settled transferId) : v.report transferId [] = v := by
  have hitem : ItemMarks.report transferId [] = id := by
    funext m
    exact if_neg not_named_nil
  have hleft : left v.items transferId [] = id := by
    funext s
    refine if_neg ?_
    rintro ⟨m, _, hnamed, _⟩
    exact not_named_nil hnamed
  have htransfers : v.transfers.map (settled v.items transferId) = v.transfers := by
    conv_rhs => rw [← List.map_id v.transfers]
    apply List.map_congr_left
    intro t ht
    unfold settled
    split
    next hid =>
      rw [h t ht hid]
      rfl
    next => rfl
  unfold report
  rw [hitem, hleft, List.map_id, List.map_id, htransfers]

/-- A report leaves the status up to date. -/
theorem report_settled : (v.report transferId numbers).Settled transferId := by
  intro t ht hid
  obtain ⟨t₀, ht₀, rfl⟩ := List.mem_map.mp ht
  unfold settled at hid ⊢
  by_cases hid₀ : t₀.id = transferId
  · rw [if_pos hid₀]
    exact receiptStatus_mono id id
  · rw [if_neg hid₀] at hid
    exact absurd hid hid₀

/-- A serial whose items of the transfer are received already stays as it is. -/
theorem report_keeps_serial {s : Serial} (hs : s ∈ v.serials)
    (hreceived : ∀ m ∈ v.items, m.transferId = transferId → m.serialId = some s.id →
      m.received = true) :
    s ∈ (v.report transferId numbers).serials := by
  refine List.mem_map.mpr ⟨s, hs, if_neg ?_⟩
  rintro ⟨m, hm, hnamed, hserial⟩
  have := hreceived m hm hnamed.1 hserial
  rw [hnamed.2.2] at this
  cases this

end ReceiptView

/-! ## The loop of a receipt -/

/-- The columns of an item that receipts look at. -/
def LocalTransferItem.marks (i : LocalTransferItem) : ItemMarks :=
  ⟨i.id, i.transferId, i.serialId, i.manifestSerialNumber, i.scanned, i.received⟩

/-- The columns of a transfer that receipts look at. -/
def LocalTransfer.marks (t : LocalTransfer) : TransferMarks :=
  ⟨t.id, t.transferUuid, t.direction, t.status⟩

/-- The rows that receipts look at. -/
def Db.receiptView (db : Db) : ReceiptView where
  items := db.transferItems.map (·.marks)
  serials := db.serials
  transfers := db.transfers.map (·.marks)

/-- The items that a report is the first to name. -/
def newlyReceived (received : List PyStr) (items : List LocalTransferItem) :
    List LocalTransferItem :=
  items.filter fun i => i.manifestSerialNumber ∈ received ∧ i.received = false

/-- The database with these items acknowledged. -/
def acknowledgedRows (now : Instant) (items : List LocalTransferItem) (db : Db) : Db :=
  { db with
    transferItems := modifyRows (·.id) (items.map (·.id))
      (LocalTransferItem.changed (LocalTransferItem.acknowledged now)) db.transferItems
    serials := modifyRows (·.id) (items.filterMap (·.serialId))
      (Serial.changed fun s => { s with active := false }) db.serials }

/-- The first acknowledgement of an item is the one that stays. -/
private theorem acknowledged_twice (now : Instant) (i : LocalTransferItem) :
    (i.changed (LocalTransferItem.acknowledged now)).changed (LocalTransferItem.acknowledged now)
      = i.changed (LocalTransferItem.acknowledged now) := by
  unfold LocalTransferItem.changed LocalTransferItem.acknowledged
  cases i.scannedAt <;> rfl

/-- The loop over the items marks the newly received ones and makes their serials inactive. -/
theorem acknowledgeItems_ok {received : List PyStr} {items : List LocalTransferItem} {u : PUnit}
    (h : Tx.each (acknowledgeItem now received) items db = (.ok u, db')) :
    db' = acknowledgedRows now (newlyReceived received items) db := by
  -- Over the items done: the rows so far are the acknowledged ones among them.
  refine Tx.each_prefix
    (I := fun done t => t = acknowledgedRows now (newlyReceived received done) db) ?_ ?_ h
  · intro done i rest _ t t' u ht hround
    subst ht
    -- An item the receipt names for the first time is marked; any other is passed by.
    rcases acknowledgeItem_ok hround with ⟨hnumber, hfirst, rfl⟩ | ⟨hskipped, rfl⟩
    · have hnew : newlyReceived received (done ++ [i]) = newlyReceived received done ++ [i] := by
        unfold newlyReceived
        rw [List.filter_append]
        simp [hnumber, hfirst]
      have hitems : modifyRow (·.id) i.id
          (LocalTransferItem.changed (LocalTransferItem.acknowledged now))
          (modifyRows (·.id) ((newlyReceived received done).map (·.id))
            (LocalTransferItem.changed (LocalTransferItem.acknowledged now)) db.transferItems)
          = modifyRows (·.id) ((newlyReceived received done).map (·.id) ++ [i.id])
            (LocalTransferItem.changed (LocalTransferItem.acknowledged now)) db.transferItems :=
        modifyRow_modifyRows_idem (fun _ => rfl) (acknowledged_twice now)
      rw [hnew]
      unfold acknowledgedRows
      rw [List.map_append, List.filterMap_append]
      cases hserial : i.serialId with
      | none => simp [hitems, hserial]
      | some id =>
        have hserials : modifyRow (·.id) id (Serial.changed fun s => { s with active := false })
            (modifyRows (·.id) ((newlyReceived received done).filterMap (·.serialId))
              (Serial.changed fun s => { s with active := false }) db.serials)
            = modifyRows (·.id) ((newlyReceived received done).filterMap (·.serialId) ++ [id])
              (Serial.changed fun s => { s with active := false }) db.serials :=
          modifyRow_modifyRows_idem (fun _ => rfl) fun _ => rfl
        simp [hitems, hserials, hserial]
    · have hsame : newlyReceived received (done ++ [i]) = newlyReceived received done := by
        unfold newlyReceived
        rw [List.filter_append]
        simp [hskipped]
      rw [hsame]
  · simp [acknowledgedRows, newlyReceived, modifyRows_nil]

/-! ## A command -/

/-- A receipt command and when it is applied. -/
structure ReceiptCommand where
  now : Instant
  payload : List (PyStr × Json)

namespace ReceiptCommand

/-- The handler of the command. -/
def apply (rt : Runtime) (c : ReceiptCommand) : Tx PUnit :=
  applyTransferReceiptCommand rt c.now c.payload

/-- The UUID of the transfer it is for. -/
def transferUuid (rt : Runtime) (c : ReceiptCommand) : Option PyStr :=
  match unwrapTransferPayload c.payload with
  | .ok (data, _) => some (transferUuidOf rt data c.payload)
  | .error _ => none

/-- The numbers it reports: those it carries, or all of the manifest when it is complete
and carries none. -/
def reported (rt : Runtime) (manifest : List PyStr) (c : ReceiptCommand) : List PyStr :=
  match unwrapTransferPayload c.payload with
  | .ok (data, items) =>
    match receivedSerialsFromPayload rt data c.payload items with
    | .ok (numbers, complete) => if complete = true ∧ numbers = [] then manifest else numbers
    | .error _ => []
  | .error _ => []

end ReceiptCommand

/-- The manifest of a stored transfer. -/
theorem receiptView_manifest {transferId : Nat} :
    db.receiptView.manifest transferId =
        (db.transferItemsOf transferId).map (·.manifestSerialNumber) := by
  unfold ReceiptView.manifest Db.receiptView Db.transferItemsOf
  rw [List.filter_map, List.map_map]
  rfl

/-- What the handler writes into the transfer is what its items say. -/
private theorem settled_marks {transferId : Nat} (items : List LocalTransferItem)
    (t : LocalTransfer) (ht : t.id = transferId) :
    (t.changed (LocalTransfer.settled now (items.filter fun i => i.transferId = transferId))).marks
      = ReceiptView.settled (items.map (·.marks)) transferId t.marks := by
  have hflags : ReceiptView.flags (items.map (·.marks)) transferId
      = (items.filter fun i => i.transferId = transferId).map (·.received) := by
    unfold ReceiptView.flags
    rw [List.filter_map, List.map_map]
    rfl
  have hid : t.marks.id = transferId := ht
  unfold ReceiptView.settled
  rw [if_pos hid, hflags]
  unfold receiptStatus LocalTransfer.settled LocalTransfer.changed LocalTransfer.marks
  simp only [List.all_map, List.any_map, Function.id_comp]
  split
  · rfl
  · split <;> rfl

/-! The rows of a receipt, table by table; `acknowledged` are the items it is the first to
name. -/

section Rows

variable {transferId : Nat} {received : List PyStr} {acknowledged : List LocalTransferItem}

/-- The items that a receipt names, and that were not received. -/
private theorem mem_newlyReceived {i : LocalTransferItem} :
    i ∈ newlyReceived received (db.transferItemsOf transferId) ↔
      i ∈ db.transferItems ∧ i.marks.Named transferId received := by
  unfold newlyReceived Db.transferItemsOf ItemMarks.Named
  simp only [List.mem_filter, decide_eq_true_eq]
  exact and_assoc

/-- The items after the loop. -/
private theorem acknowledgedRows_items (hk : db.Keyed)
    (hmem : ∀ i, i ∈ acknowledged ↔ i ∈ db.transferItems ∧ i.marks.Named transferId received) :
    (acknowledgedRows now acknowledged db).transferItems.map (·.marks)
      = (db.transferItems.map (·.marks)).map (ItemMarks.report transferId received) := by
  show (modifyRows _ _ _ db.transferItems).map _ = _
  unfold modifyRows
  rw [List.map_map, List.map_map]
  apply List.map_congr_left
  intro i hi
  have hiff : i.id ∈ acknowledged.map (·.id) ↔ i.marks.Named transferId received := by
    constructor
    · intro hin
      obtain ⟨j, hj, hid⟩ := List.mem_map.mp hin
      obtain ⟨hj', hnamed⟩ := (hmem j).mp hj
      obtain rfl := eq_of_key_eq hk.transferItems hj' hi hid
      exact hnamed
    · intro hnamed
      exact List.mem_map.mpr ⟨i, (hmem i).mpr ⟨hi, hnamed⟩, rfl⟩
  show (if i.id ∈ acknowledged.map (·.id) then _ else i).marks = i.marks.report transferId received
  unfold ItemMarks.report
  by_cases hnamed : i.marks.Named transferId received
  · rw [if_pos (hiff.mpr hnamed), if_pos hnamed]
    rfl
  · rw [if_neg fun hin => hnamed (hiff.mp hin), if_neg hnamed]

/-- The serials after the loop. -/
private theorem acknowledgedRows_serials
    (hmem : ∀ i, i ∈ acknowledged ↔ i ∈ db.transferItems ∧ i.marks.Named transferId received) :
    (acknowledgedRows now acknowledged db).serials
      = db.serials.map (ReceiptView.left (db.transferItems.map (·.marks)) transferId received) := by
  show modifyRows _ _ _ db.serials = _
  unfold modifyRows
  apply List.map_congr_left
  intro s _
  have hiff : s.id ∈ acknowledged.filterMap (·.serialId) ↔
      ReceiptView.Leaves (db.transferItems.map (·.marks)) transferId received s.id := by
    rw [List.mem_filterMap]
    constructor
    · rintro ⟨i, hi, hserial⟩
      obtain ⟨hi', hnamed⟩ := (hmem i).mp hi
      exact ⟨i.marks, List.mem_map_of_mem hi', hnamed, hserial⟩
    · rintro ⟨m, hm, hnamed, hserial⟩
      obtain ⟨i, hi, rfl⟩ := List.mem_map.mp hm
      exact ⟨i, (hmem i).mpr ⟨hi, hnamed⟩, hserial⟩
  unfold ReceiptView.left
  by_cases hleaves : ReceiptView.Leaves (db.transferItems.map (·.marks)) transferId received s.id
  · rw [if_pos (hiff.mpr hleaves), if_pos hleaves]
    rfl
  · rw [if_neg fun hin => hleaves (hiff.mp hin), if_neg hleaves]

/-- The transfers after the last write of the handler. -/
private theorem settledRows_transfers {items : List LocalTransferItem}
    {transfers : List LocalTransfer} :
    (modifyRow (·.id) transferId (LocalTransfer.changed (LocalTransfer.settled now
        (items.filter fun i => i.transferId = transferId))) transfers).map (·.marks)
      = (transfers.map (·.marks)).map (ReceiptView.settled (items.map (·.marks)) transferId) := by
  unfold modifyRow
  rw [List.map_map, List.map_map]
  apply List.map_congr_left
  intro t _
  show (if t.id = transferId then _ else t).marks = ReceiptView.settled _ transferId t.marks
  by_cases hid : t.id = transferId
  · rw [if_pos hid]
    exact settled_marks items t hid
  · have hid' : ¬ t.marks.id = transferId := hid
    rw [if_neg hid]
    unfold ReceiptView.settled
    rw [if_neg hid']

end Rows

/-- A command that is applied is for a stored transfer. -/
theorem applyTransferReceiptCommand_found {c : ReceiptCommand} {u : PUnit}
    (h : c.apply rt db = (.ok u, db')) :
    ∃ t ∈ db.transfers, c.transferUuid rt = some t.transferUuid := by
  obtain ⟨data, manifest, transfer, received, db₁, hunwrap, htransfer, -⟩ :=
    applyTransferReceiptCommand_ok h
  unfold receiptTransfer at htransfer
  split at htransfer
  next t hfound =>
    obtain ⟨hmem, huuid⟩ := lookup_some hfound
    refine ⟨t, hmem, ?_⟩
    unfold ReceiptCommand.transferUuid
    rw [hunwrap]
    exact congrArg some huuid.symm
  next => cases htransfer

/-- A command that is applied is one report. -/
theorem applyTransferReceiptCommand_view (hk : db.Keyed) {c : ReceiptCommand} {t : LocalTransfer}
    (ht : t ∈ db.transfers) (hfor : c.transferUuid rt = some t.transferUuid) {u : PUnit}
    (h : c.apply rt db = (.ok u, db')) :
    t.direction = .outbound ∧ t.status ≠ .draft ∧
      db'.receiptView =
          db.receiptView.report t.id (c.reported rt (db.receiptView.manifest t.id)) := by
  obtain ⟨data, manifest, transfer, received, db₁, hunwrap, htransfer, -,
    ⟨named, complete, hnamed, hreceived⟩,
    hloop, rfl⟩ := applyTransferReceiptCommand_ok h
  -- The transfer that the command found is the one it is for.
  have huuid : transferUuidOf rt data c.payload = t.transferUuid := by
    unfold ReceiptCommand.transferUuid at hfor
    rw [hunwrap] at hfor
    exact Option.some.inj hfor
  obtain ⟨rfl, hdirection, hstatus⟩ : transfer = t ∧ transfer.direction = .outbound ∧
      transfer.status ≠ .draft := by
    have hfound : db.transferNumbered t.transferUuid = some t := lookup_of_mem hk.transferUuids ht
    unfold receiptTransfer at htransfer
    rw [huuid, hfound] at htransfer
    dsimp only at htransfer
    split at htransfer
    · cases htransfer
    next hdirection =>
      split at htransfer
      · cases htransfer
      next hdraft =>
        obtain rfl := Except.ok.inj htransfer
        exact ⟨rfl, not_not.mp hdirection, hdraft⟩
  have hreported : c.reported rt (db.receiptView.manifest transfer.id) = received := by
    unfold ReceiptCommand.reported
    rw [hunwrap]
    dsimp only
    rw [hnamed, receiptView_manifest]
    exact hreceived.symm
  obtain rfl := acknowledgeItems_ok hloop
  refine ⟨hdirection, hstatus, ?_⟩
  rw [hreported]
  generalize hacknowledged : newlyReceived received (db.transferItemsOf transfer.id) = acknowledged
  have hmem : ∀ i, i ∈ acknowledged ↔
      i ∈ db.transferItems ∧ i.marks.Named transfer.id received := by
    intro i
    rw [← hacknowledged]
    exact mem_newlyReceived
  have hitems : (acknowledgedRows c.now acknowledged db).transferItems.map (·.marks) = _ :=
    acknowledgedRows_items hk hmem
  have hserials : (acknowledgedRows c.now acknowledged db).serials = _ :=
    acknowledgedRows_serials hmem
  refine ReceiptView.ext hitems hserials ?_
  show _ = (db.transfers.map (·.marks)).map (ReceiptView.settled
    ((db.transferItems.map (·.marks)).map (ItemMarks.report transfer.id received)) transfer.id)
  rw [← hitems]
  exact settledRows_transfers

end SetuoraLite
