import Mathlib.Data.List.Forall2
import SetuoraLite.Stock.Frames

/-!
# What a dispatch and a receipt write

Both go through a list of transfer items: each serial is claimed, its item may be marked,
and the move is logged. `TransferMove` is such a loop with its own values, and
`TransferMove.Moved` its effect on whole tables; `dispatch_ok` and `receive_ok` add the
transfer's row and the one event.
-/

namespace SetuoraLite

open Lib

variable {db db' : Db}

/-! ## The loop -/

/-- The loop of a dispatch or a receipt, by what is different between them. -/
structure TransferMove where
  user : User
  type : TransactionType
  transfer : LocalTransfer
  side : PyStr
  statusFrom : SerialStatus
  statusTo : SerialStatus
  notes : PyStr
  refused : Serial → PyError
  mark : Option (LocalTransferItem → LocalTransferItem)

namespace TransferMove

/-- The log of one serial. -/
def log (m : TransferMove) (s : Serial) : InventoryTransaction :=
  transferTransaction m.user m.type m.transfer s m.statusFrom m.statusTo m.notes

/-- The mark of one item. -/
def markItem (m : TransferMove) (i : LoadedTransferItem) : Tx PUnit :=
  m.mark.elim (pure ⟨⟩) (updateTransferItem i.item.id)

/-- One round. -/
def round (m : TransferMove) (i : LoadedTransferItem) : Tx PUnit := do
  let serial ← Tx.lift (i.requireSerial m.side)
  claimSerial serial.id m.statusFrom m.statusTo (m.refused serial)
  m.markItem i
  insertInventoryTransaction (m.log serial)

/-- The items of some rounds, marked. -/
def marked (m : TransferMove) (items : List LoadedTransferItem) (rows : List LocalTransferItem) :
    List LocalTransferItem :=
  m.mark.elim rows fun change =>
    modifyRows (·.id) (items.map (·.item.id)) (LocalTransferItem.changed change) rows

/-- The serials of some rounds, moved. -/
def moved (m : TransferMove) (serials : List Serial) (rows : List Serial) : List Serial :=
  modifyRows (·.id) (serials.map (·.id))
    (Serial.changed fun s => { s with status := m.statusTo }) rows

/-- What the rounds for some items did: every serial was claimable, no two are one, and
each has its log. -/
structure Moved (m : TransferMove) (items : List LoadedTransferItem) (serials : List Serial)
    (logs : List InventoryTransaction) (db db' : Db) : Prop where
  loaded : List.Forall₂ (fun i s => i.serial = some s) items serials
  distinct : (serials.map (·.id)).Nodup
  claimed : ∀ s ∈ serials, ∃ r ∈ db.serials, r.id = s.id ∧ r.status = m.statusFrom ∧ r.active = true
  logged : List.Forall₂ (fun s t => t = { m.log s with id := t.id }) serials logs
  rows : db' = { db with
    serials := m.moved serials db.serials
    transferItems := m.marked items db.transferItems
    transactions := db.transactions ++ logs }

variable {m : TransferMove}

theorem round_ok {i : LoadedTransferItem} {u : PUnit} (h : m.round i db = (.ok u, db')) :
    ∃ s, i.serial = some s ∧
      (∃ r ∈ db.serials, r.id = s.id ∧ r.status = m.statusFrom ∧ r.active = true) ∧
      db' = { db with
        serials :=
          modifyRow (·.id) s.id (Serial.changed fun s => { s with status := m.statusTo }) db.serials
        transferItems := m.mark.elim db.transferItems fun change =>
          modifyRow (·.id) i.item.id (LocalTransferItem.changed change) db.transferItems
        transactions :=
          db.transactions ++ [{ m.log s with id := nextId (·.id) db.transactions }] } := by
  obtain ⟨s, t₁, h₁, h⟩ := Tx.bind_ok.mp h
  obtain ⟨hserial, rfl⟩ := Tx.lift_ok.mp h₁
  obtain ⟨_, t₂, h₂, h⟩ := Tx.bind_ok.mp h
  obtain ⟨hclaim, rfl⟩ := claimSerial_ok h₂
  refine ⟨s, elim_ok hserial, hclaim, ?_⟩
  obtain ⟨_, t₃, h₃, h₄⟩ := Tx.bind_ok.mp h
  obtain rfl := Tx.modify_ok.mp h₄
  unfold markItem at h₃
  cases hmark : m.mark with
  | none =>
    rw [hmark] at h₃
    obtain ⟨-, rfl⟩ := Tx.pure_ok.mp h₃
    rfl
  | some change =>
    rw [hmark] at h₃
    obtain rfl := Tx.modify_ok.mp (show updateTransferItem i.item.id change _ = _ from h₃)
    rfl

/-- The whole loop. A serial that was claimed no longer has the status it is claimed from,
so no serial comes twice. -/
theorem each_ok (hstatus : m.statusFrom ≠ m.statusTo)
    (hmark : ∀ change ∈ m.mark, ∀ i : LocalTransferItem,
      (i.changed change).changed change = i.changed change)
    {items : List LoadedTransferItem} {u : PUnit} (h : Tx.each m.round items db = (.ok u, db')) :
    ∃ serials logs, m.Moved items serials logs db db' := by
  -- Over the items done: one serial and one log for each, in their order.
  refine Tx.each_prefix (I := fun done t => ∃ serials logs, m.Moved done serials logs db t) ?_
    ⟨[], [], ⟨.nil, List.nodup_nil, by simp, .nil, ?_⟩⟩ h
  · intro done i rest _ t t' u ⟨serials, logs, hmoved⟩ hround
    obtain ⟨s, hserial, ⟨r, hr, hid, hfrom, hactive⟩, rfl⟩ := round_ok hround
    obtain ⟨hloaded, hdistinct, hclaimed, hlogged, rfl⟩ := hmoved
    obtain ⟨r₀, hr₀, rfl⟩ := mem_modifyRows.mp hr
    -- The unit is new to the move, for a unit moved before no longer has the status asked for.
    have hnew : s.id ∉ serials.map (·.id) := by
      intro hin
      by_cases hk : r₀.id ∈ serials.map (·.id)
      · rw [if_pos hk] at hfrom
        exact hstatus hfrom.symm
      · rw [if_neg hk] at hid
        exact hk (hid ▸ hin)
    refine ⟨serials ++ [s],
      logs ++ [{ m.log s with id := nextId (·.id) (db.transactions ++ logs) }],
      ⟨List.rel_append hloaded (.cons hserial .nil), ?_, ?_,
        List.rel_append hlogged (.cons rfl .nil), ?_⟩⟩
    · rw [List.map_append]
      exact nodup_snoc hdistinct hnew
    · intro s' hs'
      rcases List.mem_append.mp hs' with hs' | hs'
      · exact hclaimed s' hs'
      · rw [List.mem_singleton.mp hs']
        have hk : r₀.id ∉ serials.map (·.id) := by
          intro hk
          rw [if_pos hk] at hid
          exact hnew (hid ▸ hk)
        rw [if_neg hk] at hid hfrom hactive
        exact ⟨r₀, hr₀, hid, hfrom, hactive⟩
    · have hserials : modifyRow (·.id) s.id
          (Serial.changed fun s => { s with status := m.statusTo })
          (m.moved serials db.serials) = m.moved (serials ++ [s]) db.serials := by
        unfold moved
        rw [List.map_append]
        exact modifyRow_modifyRows (fun _ _ => rfl) hnew
      have hitems : m.mark.elim (m.marked done db.transferItems) (fun change =>
          modifyRow (·.id) i.item.id (LocalTransferItem.changed change)
            (m.marked done db.transferItems))
            = m.marked (done ++ [i]) db.transferItems := by
        unfold marked
        cases hchange : m.mark with
        | none => rfl
        | some change =>
          show modifyRow _ _ _ (modifyRows _ _ _ _) = modifyRows _ ((done ++ [i]).map _) _ _
          rw [List.map_append]
          exact modifyRow_modifyRows_idem (fun _ => rfl) (hmark change hchange)
      simp only [hserials, hitems, List.append_assoc]
  -- With no items done nothing is marked.
  · have hitems : m.marked [] db.transferItems = db.transferItems := by
      unfold marked
      cases m.mark with
      | none => rfl
      | some change => exact modifyRows_nil
    simp [moved, hitems, modifyRows_nil]

end TransferMove

/-! ## Dispatch -/

/-- The loop of a dispatch. -/
def dispatchMove (user : User) (transfer : LocalTransfer) : TransferMove where
  user := user
  type := .transferOut
  transfer := transfer
  side := py "local"
  statusFrom := .inStock
  statusTo := .inTransit
  notes := py "Dispatched to franchise " ++ transfer.peerCode ++ py "."
  refused serial :=
    transferError (serial.serialNumber ++ py " is no longer available; review the transfer.")
  mark := none

/-- A dispatch moves each item in a round. -/
theorem dispatchItem_eq (user : User) (transfer : LocalTransfer) :
    dispatchItem user transfer = (dispatchMove user transfer).round := rfl

/-- The transfer's row as a dispatch leaves it. -/
def LocalTransfer.dispatchedAs (now : Instant) (t : LocalTransfer) : LocalTransfer :=
  { t with status := .dispatched, dispatchedAt := some now }

/-- A successful dispatch: every listed serial moved, with its log, the transfer is
dispatched and one event is queued. -/
structure Dispatched (s : Submitter) (loaded : LoadedTransfer) (db db' : Db) : Prop where
  rows : ∃ serials logs db₁ items row,
    (dispatchMove s.user loaded.transfer).Moved loaded.items serials logs db db₁ ∧
    Enqueued s.settings s.uuid s.now
      (transferRequest (py "TRANSFER_DISPATCHED") s loaded.transfer
        (some loaded.transfer.peerCode) items)
      { db₁ with
        transfers := modifyRow (·.id) loaded.transfer.id
          (LocalTransfer.changed (LocalTransfer.dispatchedAs s.now)) db₁.transfers } row db'

theorem enqueueTransferEvent_ok {eventType : PyStr} {s : Submitter} {transfer : LocalTransfer}
    {destination : Option PyStr} {items : List LoadedTransferItem} {row : MasterOutboxEvent}
    (h : enqueueTransferEvent eventType s transfer destination items db = (.ok row, db')) :
    ∃ networkItems, transferNetworkItems items db = .ok networkItems ∧
      Enqueued s.settings s.uuid s.now
        (transferRequest eventType s transfer destination networkItems)
        db row db' := by
  obtain ⟨seen, t₁, h₁, h⟩ := Tx.bind_ok.mp h
  obtain ⟨rfl, rfl⟩ := Tx.reads_ok.mp h₁
  obtain ⟨networkItems, t₂, h₂, h⟩ := Tx.bind_ok.mp h
  obtain ⟨hitems, rfl⟩ := Tx.lift_ok.mp h₂
  exact ⟨networkItems, hitems, enqueueOutboxEvent_ok h⟩

theorem dispatch_ok {s : Submitter} {loaded : LoadedTransfer} {u : PUnit}
    (h : dispatch s loaded db = (.ok u, db')) : Dispatched s loaded db db' := by
  obtain ⟨_, t₁, h₁, h⟩ := Tx.bind_ok.mp (Tx.mapError_ok.mp h)
  obtain ⟨_, t₂, h₂, h⟩ := Tx.bind_ok.mp h
  obtain ⟨row, t₃, h₃, h⟩ := Tx.bind_ok.mp h
  obtain ⟨-, rfl⟩ := Tx.pure_ok.mp h
  rw [dispatchItem_eq] at h₁
  have hstatus : SerialStatus.inStock ≠ .inTransit := by decide
  have hmark : ∀ change ∈ (dispatchMove s.user loaded.transfer).mark, ∀ i : LocalTransferItem,
      (i.changed change).changed change = i.changed change := by
    intro change hchange
    cases hchange
  obtain ⟨serials, logs, hmoved⟩ := TransferMove.each_ok hstatus hmark h₁
  obtain rfl := Tx.modify_ok.mp h₂
  obtain ⟨items, -, hqueued⟩ := enqueueTransferEvent_ok h₃
  exact ⟨serials, logs, t₁, items, row, hmoved, hqueued⟩

/-! ## Receipt -/

/-- An item as a receipt marks it. -/
def LocalTransferItem.receivedAs (now : Instant) (i : LocalTransferItem) : LocalTransferItem :=
  { i with received := true, receivedAt := some now }

/-- The loop of a receipt. -/
def receiptMove (s : Submitter) (transfer : LocalTransfer) : TransferMove where
  user := s.user
  type := .transferIn
  transfer := transfer
  side := py "inbound"
  statusFrom := .inTransit
  statusTo := .inStock
  notes := py "Received from franchise " ++ transfer.peerCode ++ py "."
  refused serial := transferError
    (serial.serialNumber ++ py " cannot be received from " ++ serial.status.value ++ py ".")
  mark := some (LocalTransferItem.receivedAs s.now)

theorem receiveItem_eq (s : Submitter) (transfer : LocalTransfer) :
    receiveItem s transfer = (receiptMove s transfer).round := rfl

/-- A successful receipt: every scanned serial moved, with its log and its mark, the
transfer is received, in part or in full, and one event is queued. -/
structure Received (s : Submitter) (loaded : LoadedTransfer) (db db' : Db) : Prop where
  rows : ∃ serials logs db₁ items row,
    (receiptMove s loaded.transfer).Moved loaded.receiptItems serials logs db db₁ ∧
    Enqueued s.settings s.uuid s.now
      (transferRequest (py "TRANSFER_RECEIVED") s loaded.transfer none items)
      { db₁ with
        transfers := modifyRow (·.id) loaded.transfer.id
          (LocalTransfer.changed (LocalTransfer.afterReceipt s.now loaded.items))
            db₁.transfers } row db'

theorem receive_ok {s : Submitter} {loaded : LoadedTransfer} {u : PUnit}
    (h : receive s loaded db = (.ok u, db')) : Received s loaded db db' := by
  obtain ⟨_, t₁, h₁, h⟩ := Tx.bind_ok.mp (Tx.mapError_ok.mp h)
  obtain ⟨_, t₂, h₂, h⟩ := Tx.bind_ok.mp h
  obtain ⟨row, t₃, h₃, h⟩ := Tx.bind_ok.mp h
  obtain ⟨-, rfl⟩ := Tx.pure_ok.mp h
  rw [receiveItem_eq] at h₁
  have hstatus : SerialStatus.inTransit ≠ .inStock := by decide
  have hmark : ∀ change ∈ (receiptMove s loaded.transfer).mark, ∀ i : LocalTransferItem,
      (i.changed change).changed change = i.changed change := by
    intro change hchange i
    obtain rfl := Option.some.inj hchange
    rfl
  obtain ⟨serials, logs, hmoved⟩ := TransferMove.each_ok hstatus hmark h₁
  obtain rfl := Tx.modify_ok.mp h₂
  obtain ⟨items, -, hqueued⟩ := enqueueTransferEvent_ok h₃
  exact ⟨serials, logs, t₁, items, row, hmoved, hqueued⟩

end SetuoraLite
