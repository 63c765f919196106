import SetuoraLite.Stock.BatchMoves
import SetuoraLite.Stock.Reservations

/-!
# The shelf gate

A purchase or an audit may hold as many unverified items of a product as the product's
shelf interval says. `ensureProductScanAllowed` counts them before a scan, so that one
more fits; a shelf scan verifies them all; a removal takes one away; no other transaction
changes an item's mark. `ShelfMove` lists these cases.

`shelf_gate_enforced`: in every state that the requests of a node lead to, the counts are
within the intervals, a product scan into a batch whose shelf is due is refused, a shelf
that is due stays so until it is scanned or an item is removed, and a batch leaves `DRAFT`
only when all its items are verified.
-/

namespace SetuoraLite

open Lib

variable {rt : Runtime} {st : Settings} {db db' : Db} {α : Type}

/-! ## Unverified items -/

/-- An item as the gate sees it. -/
structure ShelfItem where
  id : Nat
  batchId : Nat
  serialId : Nat
  unverified : Bool
deriving DecidableEq

/-- What the gate sees of an item. -/
def BatchItem.shelf (i : BatchItem) : ShelfItem :=
  ⟨i.id, i.batchId, i.serialId, i.shelfVerifiedAt.isNone⟩

/-- The item after a shelf scan. -/
def ShelfItem.verified (k : ShelfItem) : ShelfItem := { k with unverified := false }

def Db.shelfItems (db : Db) : List ShelfItem := db.batchItems.map BatchItem.shelf

/-- The product of a serial. -/
def Db.productOf (db : Db) (serialId : Nat) : Option Nat := (db.serial serialId).map (·.productId)

/-- The unverified items of a product in a batch, counted. -/
def unverifiedAmong (owner : Nat → Option Nat) (batchId productId : Nat)
    (items : List ShelfItem) : Nat :=
  items.countP fun k => k.batchId = batchId && k.unverified && owner k.serialId = some productId

/-- How many units of a product wait in a batch for their shelf. -/
def Db.unverified (db : Db) (batchId productId : Nat) : Nat :=
  unverifiedAmong db.productOf batchId productId db.shelfItems

/-- `_interval` of a product. -/
def Product.interval (p : Product) : Int := max 1 p.shelfVerificationInterval

/-- Some product of the batch has reached its interval. -/
def ShelfDue (db : Db) (batchId : Nat) : Prop :=
  ∃ p ∈ db.products, p.interval ≤ db.unverified batchId p.id

instance decidableShelfDue (batchId : Nat) : Decidable (ShelfDue db batchId) :=
  inferInstanceAs (Decidable (∃ p ∈ db.products, _))

/-- No product has more unverified items in a purchase or an audit than its interval. -/
def WithinIntervals (db : Db) : Prop :=
  ∀ b ∈ db.batches, b.batchType ∈ shelfControlledBatchTypes → ∀ p ∈ db.products,
    db.unverified b.id p.id ≤ p.interval

instance decidableWithinIntervals : Decidable (WithinIntervals db) :=
  inferInstanceAs (Decidable (∀ b ∈ db.batches, _ → ∀ p ∈ db.products, _))

/-! ## What the gate counts -/

/-- Loaded items count as the stored ones do. -/
theorem LoadedFrom.pending_count {batch : Batch} {items : List LoadedItem}
    (h : LoadedFrom db batch.id items) (hcontrolled : batch.batchType ∈ shelfControlledBatchTypes)
    (productId : Nat) :
    ((pendingShelfItems batch items).filter fun l => l.serial.productId = productId).length
      = db.unverified batch.id productId := by
  -- Every interval of a loaded item is at least one.
  have hinterval : ∀ l : LoadedItem, decide (0 < l.interval) = true := by
    intro l
    have : 1 ≤ l.interval := le_max_left _ _
    exact decide_eq_true (by omega)
  -- The pending items of the product are those of its units not yet verified.
  have hloaded : ((pendingShelfItems batch items).filter fun l => l.serial.productId = productId)
      = items.filter fun l =>
          l.item.shelf.unverified &&
              decide (db.productOf l.item.shelf.serialId = some productId) := by
    unfold pendingShelfItems
    rw [if_pos hcontrolled, List.filter_filter]
    apply List.filter_congr
    intro l hl
    have howner : db.productOf l.item.serialId = some l.serial.productId := by
      unfold Db.productOf
      rw [h.serials l hl]
      rfl
    have hserial : l.item.shelf.serialId = l.item.serialId := rfl
    have hmark : l.item.shelf.unverified = l.item.shelfVerifiedAt.isNone := rfl
    rw [hserial, hmark, howner, hinterval l, Bool.true_and, Bool.and_comm]
    simp
  have hstored : db.itemsOf batch.id = items.map (·.item) := h.items.symm
  unfold Db.unverified unverifiedAmong Db.shelfItems
  rw [hloaded, List.countP_map, List.countP_eq_length_filter]
  -- What the rows of the batch count is what the loaded items do.
  have hsplit : db.batchItems.filter
      ((fun k : ShelfItem => decide (k.batchId = batch.id) && k.unverified &&
        decide (db.productOf k.serialId = some productId)) ∘ BatchItem.shelf)
      = (db.itemsOf batch.id).filter fun i =>
          i.shelf.unverified && decide (db.productOf i.shelf.serialId = some productId) := by
    unfold Db.itemsOf
    rw [List.filter_filter]
    apply List.filter_congr
    intro i _
    show (decide (i.batchId = batch.id) && i.shelf.unverified && _) = _
    rw [Bool.and_assoc, Bool.and_comm]
  rw [hsplit, hstored, List.filter_map, List.length_map]
  rfl

/-- The gate is closed when some product has reached its interval, and only then. -/
theorem shelfRequired_iff {batch : Batch} {items : List LoadedItem} (hk : db.Keyed)
    (h : LoadedFrom db batch.id items) (hcontrolled : batch.batchType ∈ shelfControlledBatchTypes) :
    shelfRequired (pendingShelfItems batch items) = true ↔ ShelfDue db batch.id := by
  unfold shelfRequired ShelfDue
  rw [List.any_eq_true]
  constructor
  · rintro ⟨l, hl, hreached⟩
    have hmem : l ∈ items := by
      unfold pendingShelfItems at hl
      rw [if_pos hcontrolled] at hl
      exact List.mem_of_mem_filter hl
    have hproduct := lookup_some (h.products l hmem)
    rw [h.pending_count hcontrolled] at hreached
    refine ⟨l.product, hproduct.1, ?_⟩
    rw [hproduct.2]
    exact of_decide_eq_true hreached
  · rintro ⟨p, hp, hreached⟩
    -- The count is positive, so an item is counted; its product is this one.
    have hcount := h.pending_count hcontrolled p.id
    have hpos : 0 <
        ((pendingShelfItems batch items).filter fun l => l.serial.productId = p.id).length := by
      have : 1 ≤ p.interval := le_max_left _ _
      rw [hcount]
      omega
    obtain ⟨l, hl⟩ := List.exists_mem_of_length_pos hpos
    obtain ⟨hpending, hof⟩ := List.mem_filter.mp hl
    have hof : l.serial.productId = p.id := of_decide_eq_true hof
    have hmem : l ∈ items := by
      unfold pendingShelfItems at hpending
      rw [if_pos hcontrolled] at hpending
      exact List.mem_of_mem_filter hpending
    have hproduct : l.product = p := by
      have hloaded := h.products l hmem
      have hstored : db.product p.id = some p := lookup_of_mem hk.products hp
      rw [hof, hstored] at hloaded
      exact (Option.some.inj hloaded).symm
    refine ⟨l, hpending, ?_⟩
    rw [decide_eq_true_eq, hof, hcount]
    have hinterval : l.interval = p.interval := congrArg Product.interval hproduct
    rw [hinterval]
    exact hreached

/-! ## What a transaction does to the marks -/

/-- Every item of the batch has been verified. -/
def verifyBatch (batchId : Nat) (k : ShelfItem) : ShelfItem :=
  if k.batchId = batchId then k.verified else k

/-- What the transaction has done to the items and their marks. -/
inductive ShelfMove (c : StockCommit) (db db' : Db) : Prop
  | kept (items : db'.shelfItems = db.shelfItems)
  | scanned (batch : Batch) (serial : Serial) (stored : serial ∈ db.serials) (log : ScanLog)
      (scans : c = .scanItem (newBatchItem batch serial none false) log)
      (items : db'.shelfItems = db.shelfItems ++
        [⟨nextId (·.id) db.batchItems, batch.id, serial.id, true⟩])
  | picked (picks : List (BatchItem × ScanLog)) (picked : c = .pickItems picks)
      (new : List ShelfItem)
      (hof : ∀ k ∈ new, ∃ p ∈ picks, k.batchId = p.1.batchId)
      (items : db'.shelfItems = db.shelfItems ++ new)
  | removed (batch : Batch) (draft : DraftBatch db batch) (item : BatchItem)
      (stored : item ∈ db.batchItems)
      (batchId : item.batchId = batch.id) (drops : c.drops = some item.id)
      (items : db'.shelfItems = db.shelfItems.filter fun k => k.id ≠ item.id)
  | verified (batch : Batch) (pending : List LoadedItem) (location : StorageLocation) (user : User)
      (now : Instant) (verifies : c = .verifyShelf batch pending location user now)
      (items : db'.shelfItems = db.shelfItems.map (verifyBatch batch.id))

/-- What keeps the items as the gate sees them is the first case. -/
private theorem shelfKept_of_keeps {c : StockCommit} {x : Tx α} {a : α}
    (h : Tx.Keeps Db.shelfItems x) (hx : x db = (.ok a, db')) : ShelfMove c db db' := by
  have hdb := h db
  rw [hx] at hdb
  exact .kept hdb

/-- What keeps the items does so, too. -/
private theorem shelfKept_of_items {c : StockCommit} {x : Tx α} {a : α}
    (h : Tx.Keeps Db.batchItems x) (hx : x db = (.ok a, db')) : ShelfMove c db db' := by
  refine shelfKept_of_keeps (fun t => ?_) hx
  unfold Db.shelfItems
  rw [h t]

/-- A change of an item that leaves its mark as it is. -/
private theorem updateBatchItem_shelf {change : BatchItem → BatchItem}
    (hmark : ∀ i, (change i).shelfVerifiedAt = i.shelfVerifiedAt) (id : Nat) :
    Tx.Keeps Db.shelfItems (updateBatchItem id change) := by
  refine .bind (.reads _) fun _ => .bind (.raiseIf _ _) fun _ => .modify fun db => ?_
  refine map_modifyRow fun i _ _ => ?_
  show ShelfItem.mk i.id i.batchId i.serialId (change i).shelfVerifiedAt.isNone = i.shelf
  rw [hmark i]
  rfl

private theorem pricesItems_shelf : PricesItems Db.shelfItems where
  rate id rate := by
    apply updateBatchItem_shelf
    exact fun _ => rfl
  freeze l batch := by
    apply updateBatchItem_shelf
    exact fun _ => rfl

/-- An item with its log. -/
private theorem addItem_shelf {item : BatchItem} {log : ScanLog} {u : PUnit}
    (h : addItem item log db = (.ok u, db')) : db'.shelfItems = db.shelfItems ++
      [⟨nextId (·.id) db.batchItems, item.batchId, item.serialId,
        item.shelfVerifiedAt.isNone⟩] := by
  unfold Db.shelfItems
  rw [addItem_ok h, List.map_append]
  rfl

private theorem addItems_shelf {picks : List (BatchItem × ScanLog)} {u : PUnit}
    (h : addItems picks db = (.ok u, db')) : ∃ new, db'.shelfItems = db.shelfItems ++ new ∧
      ∀ k ∈ new, ∃ p ∈ picks, k.batchId = p.1.batchId := by
  let I (t : Db) : Prop := ∃ new, t.shelfItems = db.shelfItems ++ new ∧
    ∀ k ∈ new, ∃ p ∈ picks, k.batchId = p.1.batchId
  have hstart : I db := ⟨[], (List.append_nil _).symm, fun k hk => absurd hk List.not_mem_nil⟩
  refine Tx.each_ok (I := I) (fun p hp t t' v ht hstep => ?_) hstart h
  obtain ⟨new, hnew, hof⟩ := ht
  refine ⟨new ++
      [⟨nextId (·.id) t.batchItems, p.1.batchId, p.1.serialId, p.1.shelfVerifiedAt.isNone⟩],
    ?_, fun k hk => ?_⟩
  · rw [addItem_shelf hstep, hnew, List.append_assoc]
  · rcases List.mem_append.mp hk with hk | hk
    · exact hof k hk
    · obtain rfl := List.mem_singleton.mp hk
      exact ⟨p, hp, rfl⟩

private theorem deleteItem_shelf (itemId : Nat) (db : Db) :
    Db.shelfItems { db with batchItems := db.batchItems.filter fun i => i.id ≠ itemId }
      = db.shelfItems.filter fun k => k.id ≠ itemId := by
  unfold Db.shelfItems
  rw [List.filter_map]
  rfl

/-! ### A shelf scan -/

private theorem verifyItem_shelf {location : StorageLocation} {user : User} {now : Instant}
    {l : LoadedItem} {u : PUnit} (h : verifyItem location user now l db = (.ok u, db')) :
    db'.shelfItems = modifyRow (·.id) l.item.id ShelfItem.verified db.shelfItems := by
  obtain ⟨_, t, hitem, hserial⟩ := Tx.bind_ok.mp h
  obtain ⟨-, rfl⟩ := updateBatchItem_ok hitem
  have hkept :=
    updateSerial_keeps (f := Db.shelfItems) (fun _ _ => rfl) l.serial.id (Serial.placedAt location)
    { db with batchItems := modifyRow (·.id) l.item.id (BatchItem.changed fun stored =>
      { stored with
        shelfLocationId := some location.id
        shelfVerifiedById := some user.id
        shelfVerifiedAt := some now }) db.batchItems }
  rw [hserial] at hkept
  exact Eq.trans hkept (modifyRow_map (fun _ => rfl) fun _ => rfl)

private theorem verifyItems_shelf {location : StorageLocation} {user : User} {now : Instant}
    {pending : List LoadedItem} {u : PUnit}
    (h : Tx.each (verifyItem location user now) pending db = (.ok u, db')) :
    db'.shelfItems =
        modifyRows (·.id) (pending.map (·.item.id)) ShelfItem.verified db.shelfItems := by
  -- The items of a prefix are verified.
  let I (done : List LoadedItem) (t : Db) : Prop :=
    t.shelfItems = modifyRows (·.id) (done.map (·.item.id)) ShelfItem.verified db.shelfItems
  have hstart : I [] db := modifyRows_nil.symm
  refine Tx.each_prefix (I := I) (fun done l rest _ t t' v ht hstep => ?_) hstart h
  show t'.shelfItems = _
  rw [verifyItem_shelf hstep, show t.shelfItems = _ from ht, List.map_append]
  exact modifyRow_modifyRows_idem (fun _ => rfl) fun _ => rfl

/-- The items that a shelf scan verifies are the unverified ones of its batch, so that
afterwards the batch has none. -/
private theorem verifyPending_shelf {batch : Batch} {items : List LoadedItem} (hk : db.Keyed)
    (h : LoadedFrom db batch.id items) (hcontrolled : batch.batchType ∈ shelfControlledBatchTypes) :
    modifyRows (·.id) ((pendingShelfItems batch items).map (·.item.id)) ShelfItem.verified
      db.shelfItems
      = db.shelfItems.map (verifyBatch batch.id) := by
  unfold modifyRows Db.shelfItems
  rw [List.map_map, List.map_map]
  apply List.map_congr_left
  intro i hi
  have hpending : ∀ l, l ∈ pendingShelfItems batch items ↔
      l ∈ items ∧ l.item.shelfVerifiedAt = none := by
    intro l
    have : 1 ≤ l.interval := le_max_left _ _
    unfold pendingShelfItems
    rw [if_pos hcontrolled, List.mem_filter, Bool.and_eq_true, decide_eq_true_eq,
      Option.isNone_iff_eq_none]
    exact and_congr_right fun _ => and_iff_right (by omega)
  show (if i.id ∈ (pendingShelfItems batch items).map (·.item.id) then i.shelf.verified
    else i.shelf)
    = if i.batchId = batch.id then i.shelf.verified else i.shelf
  by_cases hof : i.batchId = batch.id
  · rw [if_pos hof]
    by_cases hmark : i.shelfVerifiedAt = none
    · -- The item is among the loaded ones and unverified.
      have hitem : i ∈ items.map (·.item) := by
        rw [h.items]
        exact List.mem_filter.mpr ⟨hi, decide_eq_true hof⟩
      obtain ⟨l, hl, rfl⟩ := List.mem_map.mp hitem
      rw [if_pos (List.mem_map.mpr ⟨l, (hpending l).mpr ⟨hl, hmark⟩, rfl⟩)]
    · have hverified : i.shelf.verified = i.shelf := by
        have hfalse : i.shelfVerifiedAt.isNone = false := by
          simpa [Option.isSome_iff_ne_none] using hmark
        unfold ShelfItem.verified BatchItem.shelf
        rw [hfalse]
      rw [hverified, ite_self]
  · rw [if_neg hof, if_neg]
    intro hmem
    obtain ⟨l, hl, hid⟩ := List.mem_map.mp hmem
    obtain ⟨hstored, hbatch⟩ := h.stored ((hpending l).mp hl).1
    have hsame : l.item = i := eq_of_key_eq hk.items hstored hi hid
    exact hof (hsame ▸ hbatch)

private theorem verifyShelf_shelf {batch : Batch} {items : List LoadedItem}
    {location : StorageLocation} {user : User} {now : Instant} {u : PUnit} (hk : db.Keyed)
    (hitems : LoadedFrom db batch.id items)
    (hcontrolled : batch.batchType ∈ shelfControlledBatchTypes)
    (hx : verifyShelf batch (pendingShelfItems batch items) location user now db = (.ok u, db')) :
    db'.shelfItems = db.shelfItems.map (verifyBatch batch.id) := by
  obtain ⟨_, t, hloop, hlog⟩ := Tx.bind_ok.mp hx
  rw [← verifyPending_shelf hk hitems hcontrolled, ← verifyItems_shelf hloop, insertScanLog_ok hlog]
  rfl

/-! ### All of them -/

/-- What a transaction of a lone request does to the items and their marks. -/
theorem writesOf_shelfMove {c : StockCommit} {u : PUnit} (hk : db.Keyed) (hready : Ready rt c db)
    (hx : writesOf c db = (.ok u, db')) : ShelfMove c db db' := by
  cases c with
  | createBatch row => exact shelfKept_of_items (insertBatch_keeps (fun _ _ => rfl) row) hx
  | logScan row => exact shelfKept_of_items (insertScanLog_keeps (fun _ _ => rfl) row) hx
  | scanItem item log =>
    obtain ⟨batch, serial, -, rfl, hserial, -⟩ := hready
    exact .scanned batch serial hserial log rfl (addItem_shelf hx)
  | pickItems picks =>
    obtain ⟨new, hnew, hof⟩ := addItems_shelf hx
    exact .picked picks rfl new hof hnew
  | removeItem itemId =>
    obtain ⟨batch, hdraft, item, hitem, rfl, hof⟩ := hready
    have hdelete : deleteBatchItem item.id db = (.ok u, db') := hx
    obtain rfl := Tx.modify_ok.mp hdelete
    exact .removed batch hdraft item hitem hof rfl (deleteItem_shelf item.id db)
  | setRates items rate => exact shelfKept_of_keeps (setRates_keeps pricesItems_shelf items rate) hx
  | verifyShelf batch pending location user now =>
    obtain ⟨-, hcontrolled, -, items, hitems, rfl⟩ := hready
    exact .verified batch _ location user now rfl (verifyShelf_shelf hk hitems hcontrolled hx)
  | returnItem itemId log =>
    obtain ⟨batch, serial, item, hdraft, -, rfl, hitem, hof, -⟩ := hready
    obtain ⟨_, t, hdelete, hinsert⟩ := Tx.bind_ok.mp hx
    obtain rfl := Tx.modify_ok.mp hdelete
    rw [insertScanLog_ok hinsert]
    exact .removed batch hdraft item hitem hof rfl (deleteItem_shelf item.id db)
  | verifyReturn batch pending location user now =>
    exact shelfKept_of_items
      (verifyReturn_keeps (.of_frame fun _ _ => rfl) (fun _ _ => rfl) batch pending
      location user now) hx
  | submit s loaded =>
    exact shelfKept_of_keeps
      (submit_keeps (.of_frame fun _ _ => rfl) pricesItems_shelf (fun _ _ => rfl)
      (fun _ _ => rfl) (fun _ _ => rfl) (fun _ _ _ => rfl) s loaded) hx
  | createTransfer row =>
    exact shelfKept_of_items (.bind (insertTransfer_keeps (fun _ _ => rfl) _) fun _ => .pure _) hx
  | addTransferItem row =>
    exact shelfKept_of_items
      (.bind (insertTransferItem_keeps (fun _ _ => rfl) _) fun _ => .pure _) hx
  | removeTransferItem itemId =>
    exact shelfKept_of_items (deleteTransferItem_keeps (fun _ _ => rfl) itemId) hx
  | dispatch s loaded =>
    exact shelfKept_of_items
      (dispatch_keeps (.of_frame fun _ _ => rfl) (fun _ _ => rfl) (fun _ _ => rfl)
      (fun _ _ _ => rfl) s loaded) hx
  | scanTransferItem item now =>
    exact shelfKept_of_items
      (scanTransferItem_keeps (marksItems_of_frame fun _ _ => rfl) item now) hx
  | receive s loaded =>
    exact shelfKept_of_items
      (receive_keeps (.of_frame fun _ _ => rfl) (marksItems_of_frame fun _ _ => rfl)
      (fun _ _ => rfl) (fun _ _ => rfl) (fun _ _ _ => rfl) s loaded) hx

/-! ## What a transaction does to the counts -/

/-- The products, and which serial is of which; no request writes them. -/
def Db.shelfProducts (db : Db) : List Product × List (Nat × Nat) :=
  (db.products, db.serials.map fun s => (s.id, s.productId))

/-- The product of a unit is read off the serials. -/
theorem productOf_eq (h : db'.shelfProducts = db.shelfProducts) : db'.productOf = db.productOf := by
  have hlookup : ∀ (t : Db) (n : Nat), t.productOf n =
      ((t.serials.map fun s => (s.id, s.productId)).find? fun k => k.1 = n).map Prod.snd := by
    intro t n
    rw [List.find?_map, Option.map_map]
    rfl
  funext n
  rw [hlookup db', hlookup db,
    show db'.serials.map (fun s => (s.id, s.productId)) = _ from (Prod.mk.inj h).2]

private theorem movesSerials_shelfProducts : MovesSerials Db.shelfProducts := by
  have hupdate : ∀ id (change : Serial → Serial), (∀ s, (change s).productId = s.productId) →
      Tx.Keeps Db.shelfProducts (updateSerial id change) := by
    intro id change hchange
    refine .modify fun db => ?_
    unfold Db.shelfProducts
    refine congrArg (Prod.mk _) (map_modifyRow fun s _ _ => ?_)
    exact congrArg (Prod.mk s.id) (hchange s)
  refine ⟨fun id _ => hupdate id _ fun _ => rfl, fun id _ _ _ => ?_⟩
  exact .bind (.reads _) fun _ => .bind (.raiseIf _ _) fun _ => hupdate id _ fun _ => rfl

theorem writesOf_shelfProducts (c : StockCommit) : Tx.Keeps Db.shelfProducts (writesOf c) := by
  refine writesOf_keeps movesSerials_shelfProducts (marksItems_of_frame fun _ _ => rfl)
    (fun _ _ => rfl) (fun _ _ => rfl)
    (fun _ _ => rfl) (fun _ _ => rfl) (fun _ _ => rfl) (fun _ _ _ => rfl) c ?_ ?_
  · rintro row rfl
    exact .bind (insertTransferItem_keeps (fun _ _ => rfl) _) fun _ => .pure _
  · rintro itemId rfl
    exact deleteTransferItem_keeps (fun _ _ => rfl) itemId

namespace ShelfMove

variable {c : StockCommit} {n : Nat}

private theorem unverified_append {new : List ShelfItem} (howner : db'.productOf = db.productOf)
    (h : db'.shelfItems = db.shelfItems ++ new) (p : Nat) :
    db'.unverified n p = db.unverified n p + unverifiedAmong db.productOf n p new := by
  unfold Db.unverified
  rw [h, howner]
  exact List.countP_append

private theorem unverifiedAmong_other {owner : Nat → Option Nat} {items : List ShelfItem}
    (h : ∀ k ∈ items, k.batchId ≠ n) (p : Nat) : unverifiedAmong owner n p items = 0 := by
  refine List.countP_eq_zero.mpr fun k hk => ?_
  simp [h k hk]

/-- A count within the interval stays there: one item more is let in only where it fits. -/
theorem within (h : ShelfMove c db db') (howner : db'.productOf = db.productOf)
    (hscan : ∀ item log, c = .scanItem item log → item.batchId = n → ¬ ShelfDue db n)
    (hpick : ∀ picks, c = .pickItems picks → ∀ q ∈ picks, q.1.batchId ≠ n) {p : Product}
    (hp : p ∈ db.products)
    (hwithin : db.unverified n p.id ≤ p.interval) : db'.unverified n p.id ≤ p.interval := by
  -- Only a scan and a pick can add to the count; the gate lets the scan in below the interval.
  cases h with
  | kept items =>
    unfold Db.unverified at hwithin ⊢
    rw [items, howner]
    exact hwithin
  | scanned batch serial _ log scans items =>
    rw [unverified_append howner items]
    by_cases hbatch : batch.id = n
    · have hroom : ¬ p.interval ≤ db.unverified n p.id :=
        fun hdue => hscan _ log scans hbatch ⟨p, hp, hdue⟩
      have hone : unverifiedAmong db.productOf n p.id
          [⟨nextId (·.id) db.batchItems, batch.id, serial.id, true⟩] ≤ 1 :=
        List.countP_le_length
      omega
    · rw [unverifiedAmong_other fun k hk => List.mem_singleton.mp hk ▸ hbatch]
      exact hwithin
  | picked picks picked new hof items =>
    rw [unverified_append howner items, unverifiedAmong_other]
    · exact hwithin
    · intro k hk
      obtain ⟨q, hq, he⟩ := hof k hk
      exact he ▸ hpick picks picked q hq
  -- Removing and verifying only lower it.
  | removed _ _ item _ _ _ items =>
    have hless : db'.unverified n p.id ≤ db.unverified n p.id := by
      unfold Db.unverified
      rw [items, howner]
      exact List.filter_sublist.countP_le
    omega
  | verified batch _ _ _ _ _ items =>
    have hless : db'.unverified n p.id ≤ db.unverified n p.id := by
      unfold Db.unverified unverifiedAmong
      rw [items, howner, List.countP_map]
      refine List.countP_mono_left fun k _ hk => ?_
      by_cases hof : k.batchId = batch.id
      · simp [verifyBatch, ShelfItem.verified, hof] at hk
      · simpa [verifyBatch, hof] using hk
    omega

/-- Nothing but a shelf scan and a removal makes a count smaller. -/
theorem no_less (h : ShelfMove c db db') (howner : db'.productOf = db.productOf)
    (hverify : ∀ batch pending location user now, c = .verifyShelf batch pending location user now →
      batch.id ≠ n)
    (hdrop : ∀ i ∈ db.batchItems, c.drops = some i.id → i.batchId ≠ n) (p : Nat) :
    db.unverified n p ≤ db'.unverified n p := by
  cases h with
  | kept items =>
    unfold Db.unverified
    rw [items, howner]
  | scanned _ _ _ _ _ items =>
    rw [unverified_append howner items]
    exact Nat.le_add_right _ _
  | picked _ _ _ _ items =>
    rw [unverified_append howner items]
    exact Nat.le_add_right _ _
  | removed _ _ item hitem _ drops items =>
    unfold Db.unverified unverifiedAmong
    rw [items, howner, List.countP_filter]
    refine List.countP_mono_left fun k hk hcounted => ?_
    -- A counted item is one of the batch, and so not the one that goes.
    obtain ⟨i, hi, rfl⟩ := List.mem_map.mp hk
    have hne : i.shelf.id ≠ item.id := by
      intro hid
      have hof := hdrop i hi (drops.trans (congrArg some hid.symm))
      simp only [Bool.and_eq_true, decide_eq_true_eq] at hcounted
      exact hof hcounted.1.1
    rw [hcounted, decide_eq_true hne]
    rfl
  | verified batch pending location user now verifies items =>
    have hbatch := hverify batch pending location user now verifies
    unfold Db.unverified unverifiedAmong
    rw [items, howner, List.countP_map]
    refine List.countP_mono_left fun k _ hcounted => ?_
    have hof : k.batchId ≠ batch.id := by
      simp only [Bool.and_eq_true, decide_eq_true_eq] at hcounted
      exact fun he => hbatch (he.symm.trans hcounted.1.1)
    simpa [verifyBatch, hof] using hcounted

end ShelfMove

/-! ## Where batches come from -/

/-- A batch was there before with the same type, or is a new draft; it changes its status by
being submitted. -/
theorem BatchMove.origin {c : StockCommit} (h : BatchMove c db db') {b' : Batch}
    (hb' : b' ∈ db'.batches) :
    (∃ b ∈ db.batches, b.id = b'.id ∧ b.batchType = b'.batchType ∧
      (b.status = b'.status ∨ ∃ s loaded, c = .submit s loaded ∧ loaded.batch.id = b.id)) ∨
    b'.id = nextId (·.id) db.batches ∧ b'.status = .draft ∧ ∃ row, c = .createBatch row := by
  cases h with
  | kept batches => exact .inl ⟨b', batches ▸ hb', rfl, rfl, .inl rfl⟩
  | opened row draft fresh opens batches =>
    rw [batches] at hb'
    rcases List.mem_append.mp hb' with hb' | hb'
    · exact .inl ⟨b', hb', rfl, rfl, .inl rfl⟩
    · obtain rfl := List.mem_singleton.mp hb'
      obtain ⟨new, hc, -⟩ := opens
      exact .inr ⟨fresh, draft, new, hc⟩
  | added _ _ _ _ batches => exact .inl ⟨b', batches ▸ hb', rfl, rfl, .inl rfl⟩
  | removed _ _ _ _ _ _ batches => exact .inl ⟨b', batches ▸ hb', rfl, rfl, .inl rfl⟩
  | submitted s loaded submits _ batches =>
    rw [batches] at hb'
    obtain ⟨b, hb, rfl⟩ := mem_modifyRow.mp hb'
    by_cases hid : b.id = loaded.batch.id
    · rw [if_pos hid]
      exact .inl ⟨b, hb, rfl, rfl, .inr ⟨s, loaded, submits, hid.symm⟩⟩
    · rw [if_neg hid]
      exact .inl ⟨b, hb, rfl, rfl, .inl rfl⟩

/-! ## One step -/

/-- The requests of a node and its relocations; Master's commands are no part of a run here. -/
def StockAction.isLocal : StockAction → Bool
  | .command _ _ _ => false
  | _ => true

/-- A scan of a shelf into the batch, or a removal of one of its items. -/
def FreesShelf (batchId : Nat) (db : Db) : StockAction → Prop
  | .order (.scan id _ serialNumber _ _) => id = batchId ∧ findLocationByCode serialNumber db ≠ none
  | .order (.removeItem id _) => id = batchId
  | _ => False

section Steps

/-- A scan was let in because the shelf was not due. -/
theorem asked_scan_room (hk : db.Keyed) {o : StockOrder} {t : Db} {item : BatchItem} {log : ScanLog}
    (hasked : o.Asked db (.scanItem item log) t) {b : Batch} (hb : b ∈ db.batches)
    (hcontrolled : b.batchType ∈ shelfControlledBatchTypes) (hof : item.batchId = b.id) :
    ¬ ShelfDue t b.id := by
  obtain rfl := hasked.2 trivial
  obtain ⟨hasks, -⟩ := hasked
  cases o with
  | scan batchId user serialNumber returning now =>
    obtain ⟨batch, serial, -, hadmitted, rfl⟩ := hasks
    obtain ⟨hbatch, -⟩ := lookup_some hadmitted.stored
    obtain rfl : batch = b := hk.batch_eq hbatch hb hof
    obtain ⟨items, hitems, hroom⟩ := hadmitted.noShelf hcontrolled
    intro hdue
    rw [(shelfRequired_iff hk hitems hcontrolled).mpr hdue] at hroom
    cases hroom
  | _ => exact hasks.elim

/-- Nothing is picked into a purchase or an audit. -/
theorem asked_pick_other (hk : db.Keyed) {o : StockOrder} {t : Db}
    {picks : List (BatchItem × ScanLog)} (hasked : o.Asked db (.pickItems picks) t) {b : Batch}
    (hb : b ∈ db.batches)
    (hcontrolled : b.batchType ∈ shelfControlledBatchTypes) : ∀ q ∈ picks, q.1.batchId ≠ b.id := by
  have hpick : ∀ batchId enough, PickAsks db batchId enough (.pickItems picks) →
      ∀ q ∈ picks, q.1.batchId ≠ b.id := by
    rintro batchId enough ⟨batch, hstored, hfefo, hof, -⟩ q hq hid
    obtain ⟨hbatch, hbatchId⟩ := lookup_some hstored
    obtain rfl : batch = b := hk.batch_eq hbatch hb (hbatchId.trans ((hof q hq).symm.trans hid))
    revert hfefo hcontrolled
    cases batch.batchType <;> decide
  cases o with
  | fefoPick batchId user productId quantity now => exact hpick _ _ hasked.1
  | importExcel batchId user parse now => exact hpick _ _ hasked.1
  | _ => exact hasked.1.elim

/-- What a commit of an order does to the counts. -/
theorem commit_within {o : StockOrder} {c : StockCommit} {t t' : Db} {u : PUnit} (hk : db.Keyed)
    (ht : t.Keyed) (hwithin : WithinIntervals t) (hready : Ready rt c t) (hasked : o.Asked db c t)
    (hx : writesOf c t = (.ok u, t')) :
    WithinIntervals t' := by
  have hproducts := writesOf_shelfProducts c t
  rw [hx] at hproducts
  have howner := productOf_eq hproducts
  have hmove := writesOf_shelfMove ht hready hx
  have hbatchMove := writesOf_batchMove hready hx
  intro b' hb' hcontrolled p hp
  have hp : p ∈ t.products := (Prod.mk.inj hproducts).1 ▸ hp
  rcases hbatchMove.origin hb' with ⟨b, hb, hid, htype, -⟩ | ⟨hfresh, -, row, rfl⟩
  · rw [← hid]
    have hcontrolled' : b.batchType ∈ shelfControlledBatchTypes := htype ▸ hcontrolled
    refine hmove.within howner ?_ ?_ hp (hwithin b hb hcontrolled' p hp)
    · rintro item log rfl hof
      obtain rfl := hasked.2 trivial
      exact asked_scan_room hk hasked hb hcontrolled' hof
    · rintro picks rfl
      obtain rfl := hasked.2 trivial
      exact asked_pick_other hk hasked hb hcontrolled'
  · -- No item is one of a batch that was not there.
    have hzero : t.unverified b'.id p.id = 0 := by
      refine List.countP_eq_zero.mpr fun k hk => ?_
      obtain ⟨i, hi, rfl⟩ := List.mem_map.mp hk
      obtain ⟨b, hb, hof⟩ := ht.item_batch hi
      have hne : i.shelf.batchId ≠ b'.id := by
        rw [hfresh]
        exact fun h => nextId_fresh hb (hof.trans h)
      simp [hne]
    have hone : 1 ≤ p.interval := le_max_left _ _
    refine hmove.within howner (fun _ _ h => nomatch h) (fun _ h => nomatch h) hp ?_
    omega

/-- What a relocation leaves alone. -/
theorem relocateStock_shelf (m : Move) :
    Tx.Keeps (fun db : Db => (db.batches, db.batchItems)) (relocateStock st m) ∧
      Tx.Keeps Db.shelfProducts (relocateStock st m) :=
  ⟨relocateStock_keeps (.of_frame fun _ _ => rfl) (fun _ _ => rfl) (fun _ _ => rfl) (fun _ _ => rfl)
      (fun _ _ => rfl) (fun _ _ _ => rfl) st m,
    relocateStock_keeps movesSerials_shelfProducts (fun _ _ => rfl) (fun _ _ => rfl)
      (fun _ _ => rfl)
      (fun _ _ => rfl) (fun _ _ _ => rfl) st m⟩

/-- A local action keeps what its commits and every relocation keep; `Q` is what its commits
know. -/
theorem local_invariant {I : Db → Prop} {a : StockAction} (hk : db.Keyed) (ha : a.isLocal = true)
    (hcommit : ∀ c t t', t.Keyed → I t → Ready rt c t →
      (∃ o : StockOrder, a = .order o ∧ o.Asked db c t) →
      writesOf c t = (.ok ⟨⟩, t') → I t')
    (hsame : ∀ t t' : Db, (t'.batches, t'.batchItems) = (t.batches, t.batchItems) →
      t'.shelfProducts = t.shelfProducts → I t → I t')
    (h : I db) : (stockStep rt st db a).Keyed ∧ I (stockStep rt st db a) := by
  let J (t : Db) : Prop := t.Keyed ∧ I t
  refine stockStep_invariant (I := J)
    (Q := fun c t => Ready rt c t ∧ ∃ o : StockOrder, a = .order o ∧ o.Asked db c t)
    (fun o ho => ?_)
    (fun c t t' ht hc hx => ?_) (fun m => ?_) (fun now uuid command hcommand => ?_) ⟨hk, h⟩
  · exact ((request_ready st hk.serials o).and (request_asks hk.serials o)).imp
      (fun c t hc => ⟨hc.1, o, ho, hc.2⟩) fun _ _ h => h
  · exact ⟨ready_keyed ht.1 hc.1 hx, hcommit c t t' ht.1 ht.2 hc.1 hc.2 hx⟩
  · refine (relocateStock_keyed st m).and fun t t' u _ hI hx => ?_
    obtain ⟨htables, hproducts⟩ := @relocateStock_shelf st m
    have htables := htables t
    have hproducts := hproducts t
    rw [hx] at htables hproducts
    exact hsame t t' htables hproducts hI
  · rw [hcommand] at ha
    cases ha

/-- A step keeps every batch within its intervals. -/
theorem step_within {a : StockAction} (hk : db.Keyed) (hwithin : WithinIntervals db)
    (ha : a.isLocal = true) :
    (stockStep rt st db a).Keyed ∧ WithinIntervals (stockStep rt st db a) := by
  refine local_invariant hk ha (fun c t t' ht hI hready hasked hx => ?_)
    (fun t t' htables hproducts hI => ?_)
    hwithin
  · obtain ⟨o, -, hasked⟩ := hasked
    exact commit_within hk ht hI hready hasked hx
  · obtain ⟨hbatches, hitems⟩ := Prod.mk.inj htables
    intro b hb hcontrolled p hp
    have hp : p ∈ t.products := (Prod.mk.inj hproducts).1 ▸ hp
    unfold Db.unverified Db.shelfItems
    rw [productOf_eq hproducts, hitems]
    exact hI b (hbatches ▸ hb) hcontrolled p hp

/-- The commits of an action that does not free the shelf verify and drop no item of the batch. -/
theorem asked_frees_not {a : StockAction} {o : StockOrder} {c : StockCommit} {t : Db}
    (hk : db.Keyed) {b : Batch} (hb : b ∈ db.batches)
    (hcontrolled : b.batchType ∈ shelfControlledBatchTypes) (ho : a = .order o)
    (hfree : ¬ FreesShelf b.id db a) (hready : Ready rt c t) (hasked : o.Asked db c t) :
    (∀ batch pending location user now, c = .verifyShelf batch pending location user now →
      batch.id ≠ b.id) ∧
      ∀ i ∈ t.batchItems, c.drops = some i.id → i.batchId ≠ b.id := by
  subst ho
  constructor
  · rintro batch pending location user now rfl hid
    -- Only the scan of a shelf code verifies; its request names the batch.
    cases o with
    | scan batchId user serialNumber returning now =>
      obtain ⟨hbatchId, hlocation⟩ := hasked.1
      exact hfree ⟨hbatchId.symm.trans hid, hlocation⟩
    | _ => exact hasked.1.elim
  · intro i hi hdrops hof
    -- Two requests drop an item: the removal, and the return in a sale.
    cases c with
    | removeItem itemId =>
      obtain rfl := Option.some.inj hdrops
      obtain rfl := hasked.2 trivial
      cases o with
      | removeItem batchId itemId =>
        obtain ⟨-, item, hitem, hid, hbatchId⟩ := hasked.1
        obtain rfl : item = i := eq_of_key_eq hk.items hitem hi hid
        exact hfree (hbatchId.symm.trans hof)
      | scan => exact hasked.1.elim
      | _ => exact hasked.1.elim
    | returnItem itemId log =>
      obtain rfl := hasked.2 trivial
      obtain ⟨batch, serial, item, hdraft, hsale, hid, hitem, hbatchId, -⟩ := hready
      obtain rfl : item = i :=
        eq_of_key_eq hk.items hitem hi (hid.symm.trans (Option.some.inj hdrops))
      obtain rfl : batch = b := hk.batch_eq (lookup_some hdraft.1).1 hb (hbatchId.symm.trans hof)
      rw [hsale] at hcontrolled
      revert hcontrolled
      decide
    | _ => cases hdrops

/-- A shelf that is due stays due, until it is scanned or an item is removed. -/
theorem step_still_due {a : StockAction} {b : Batch} (hk : db.Keyed) (hb : b ∈ db.batches)
    (hcontrolled : b.batchType ∈ shelfControlledBatchTypes) (hdue : ShelfDue db b.id)
    (ha : a.isLocal = true) (hfree : ¬ FreesShelf b.id db a) :
    ShelfDue (stockStep rt st db a) b.id := by
  let I (t : Db) : Prop :=
    t.shelfProducts = db.shelfProducts ∧ ∀ p, db.unverified b.id p ≤ t.unverified b.id p
  have hstep : I (stockStep rt st db a) := by
    refine (local_invariant hk ha (fun c t t' ht hI hready hasked hx => ?_)
      (fun t t' htables hproducts hI => ?_)
      ⟨rfl, fun _ => le_refl _⟩).2
    · obtain ⟨o, ho, hasked⟩ := hasked
      have hproducts := writesOf_shelfProducts c t
      rw [hx] at hproducts
      obtain ⟨hverify, hdrop⟩ := asked_frees_not hk hb hcontrolled ho hfree hready hasked
      refine ⟨hproducts.trans hI.1, fun p => (hI.2 p).trans ?_⟩
      exact (writesOf_shelfMove ht hready hx).no_less (productOf_eq hproducts) hverify hdrop p
    · obtain ⟨-, hitems⟩ := Prod.mk.inj htables
      refine ⟨hproducts.trans hI.1, fun p => ?_⟩
      unfold Db.unverified Db.shelfItems
      rw [productOf_eq hproducts, hitems]
      exact hI.2 p
  obtain ⟨p, hp, hreached⟩ := hdue
  have hmore := hstep.2 p.id
  exact ⟨p, (Prod.mk.inj hstep.1).1 ▸ hp, by omega⟩

/-- A batch is submitted when its items are verified. -/
theorem ready_submit_verified {s : Submitter} {loaded : LoadedBatch}
    (hready : Ready rt (.submit s loaded) db)
    (hcontrolled : loaded.batch.batchType ∈ shelfControlledBatchTypes) :
    ∀ i ∈ db.itemsOf loaded.batch.id, i.shelfVerifiedAt ≠ none := by
  obtain ⟨-, hitems, hchecks, -⟩ := hready
  intro i hi hmark
  rw [← hitems.items] at hi
  obtain ⟨l, hl, rfl⟩ := List.mem_map.mp hi
  have hpending : l ∈ pendingShelfItems loaded.batch loaded.items := by
    have : 1 ≤ l.interval := le_max_left _ _
    unfold pendingShelfItems
    rw [if_pos hcontrolled, List.mem_filter, Bool.and_eq_true, decide_eq_true_eq,
      Option.isNone_iff_eq_none]
    exact ⟨hl, by omega, hmark⟩
  have hcomplete : (pendingShelfItems loaded.batch loaded.items).length = 0 := by
    unfold checkBatchStatuses at hchecks
    split at hchecks
    · cases hchecks
    · obtain ⟨_, hvalid, -⟩ := except_bind_ok.mp hchecks
      by_contra hsome
      unfold validateShelfVerificationComplete at hvalid
      simp only [if_neg hsome] at hvalid
      cases hvalid
  rw [List.length_eq_zero_iff.mp hcomplete] at hpending
  exact absurd hpending List.not_mem_nil

/-- A batch that is submitted has nothing left to verify. -/
theorem step_submitted {a : StockAction} {b : Batch} (hk : db.Keyed) (hb : b ∈ db.batches)
    (hcontrolled : b.batchType ∈ shelfControlledBatchTypes) (hdraft : b.status = .draft)
    (ha : a.isLocal = true) {b' : Batch} (hb' : b' ∈ (stockStep rt st db a).batches)
    (hid : b'.id = b.id) (hleft : b'.status ≠ .draft) :
    ∀ i ∈ db.itemsOf b.id, i.shelfVerifiedAt ≠ none := by
  by_contra hunverified
  -- The batch stays a draft, as it is stored, unless it is submitted.
  let I (t : Db) : Prop := b ∈ t.batches
  -- And a submission passes the gate, against the unverified items.
  have hstep : (stockStep rt st db a).Keyed ∧ I (stockStep rt st db a) := by
    refine local_invariant hk ha (fun c t t' ht hI hready hasked hx => ?_)
      (fun t t' htables _ hI => ?_) hb
    · obtain ⟨o, -, hasked⟩ := hasked
      cases writesOf_batchMove hready hx with
      | kept batches =>
        show b ∈ t'.batches
        rw [batches]
        exact hI
      | opened row _ _ _ batches =>
        show b ∈ t'.batches
        rw [batches]
        exact List.mem_append_left _ hI
      | added _ _ _ _ batches =>
        show b ∈ t'.batches
        rw [batches]
        exact hI
      | removed _ _ _ _ _ _ batches =>
        show b ∈ t'.batches
        rw [batches]
        exact hI
      | submitted s loaded submits draft batches =>
        subst submits
        obtain rfl := hasked.2 trivial
        have hother : b.id ≠ loaded.batch.id := by
          intro hsame
          obtain rfl : b = loaded.batch := hk.batch_eq hI (lookup_some draft.1).1 hsame
          exact hunverified (ready_submit_verified hready hcontrolled)
        show b ∈ t'.batches
        rw [batches]
        exact mem_modifyRow.mpr ⟨b, hI, (if_neg hother).symm⟩
    · show b ∈ t'.batches
      rw [(Prod.mk.inj htables).1]
      exact hI
  obtain rfl : b' = b := hstep.1.batch_eq hb' hstep.2 hid
  exact hleft hdraft

end Steps

/-! ## Scans that are answered -/

section Answers

variable {P : Batch → Db → Prop} {L : List LoadedItem → Db → Prop} {E : PyError → Db → Prop}

theorem getBatch_serves {batch : Batch} (hbatch : db.batch batch.id = some batch) (h : P batch db) :
    (getBatch batch.id).Serves commitStock P E db := by
  unfold getBatch
  apply Request.Serves.bind_reads
  rw [hbatch]
  exact h

/-- Every item's serial and product are there to be loaded. -/
theorem loadItems_serves (hk : db.Keyed) (hn : db.Named) {batchId : Nat}
    (h : ∀ items, LoadedFrom db batchId items → L items db) :
    (loadItems batchId).Serves commitStock L E db := by
  have hserials : ∀ i ∈ db.itemsOf batchId, ∃ s ∈ db.serials,
      found (db.serial i.serialId) = .ok s := by
    intro i hi
    obtain ⟨s, hs, hid⟩ := hk.item_serial (List.mem_of_mem_filter hi)
    exact ⟨s, hs, by rw [← hid, hk.serial_of_mem hs]; rfl⟩
  obtain ⟨serials, hloaded⟩ : ∃ serials, serialsOf (db.itemsOf batchId) db = .ok serials :=
    except_mapM_total fun i hi => (hserials i hi).imp fun _ h => h.2
  have hstored : ∀ s ∈ serials, s ∈ db.serials := by
    intro s hs
    obtain ⟨i, hi, hfound⟩ := (except_mapM_mem hloaded).1 s hs
    exact (lookup_some (elim_ok hfound)).1
  obtain ⟨products, hproducts⟩ : ∃ products, productsOf serials db = .ok products := by
    refine except_mapM_total fun s hs => ?_
    obtain ⟨p, hp, hid⟩ := hn.product_of_serial (hstored s hs)
    have hproduct : db.product p.id = some p := lookup_of_mem hk.products hp
    exact ⟨p, by rw [← hid, hproduct]; rfl⟩
  obtain ⟨hitems, hrows⟩ := zip_forall (except_mapM_ok hloaded) (except_mapM_ok hproducts)
  unfold loadItems
  apply Request.Serves.bind_reads
  apply Request.Serves.bind_reads
  rw [hloaded]
  refine Request.Serves.bind_lift (fun _ h => nomatch h) fun serials' h' => ?_
  obtain rfl := Except.ok.inj h'
  apply Request.Serves.bind_reads
  rw [hproducts]
  refine Request.Serves.bind_lift (fun _ h => nomatch h) fun products' h' => ?_
  obtain rfl := Except.ok.inj h'
  exact Request.Serves.pure (h _ ⟨hitems, fun l hl => (hrows l hl).1, fun l hl => (hrows l hl).2⟩)

/-- What a scan into a batch whose shelf is due is answered. -/
def shelfRefusal : PyError := shelfError
  (py "Shelf verification is required now. Scan the shelf QR before scanning another product.")

private theorem ne_sale_of_controlled {batch : Batch}
    (h : batch.batchType ∈ shelfControlledBatchTypes) :
    batch.batchType ≠ .sale := by
  intro hsale
  rw [hsale] at h
  revert h
  decide

/-- While the shelf is due, a product scan is refused and changes nothing. -/
theorem scan_refused (hk : db.Keyed) (hn : db.Named) {b : Batch} (hb : b ∈ db.batches)
    (hcontrolled : b.batchType ∈ shelfControlledBatchTypes) (hdue : ShelfDue db b.id) (user : User)
    {serialNumber : PyStr} (hproduct : findLocationByCode serialNumber db = none) (returning : Bool)
    (now : Instant) :
    (scanIntoBatch b.id user serialNumber returning now).serve commitStock db =
        (.error shelfRefusal, db) := by
  have hstored : db.batch b.id = some b := lookup_of_mem hk.batches hb
  have hsale := ne_sale_of_controlled hcontrolled
  -- The gate is asked first and raises, so the scan ends with the state it began with.
  have hgate : (ensureProductScanAllowed b).Serves commitStock (fun _ _ => False)
      (fun e t => e = shelfRefusal ∧ t = db) db := by
    unfold ensureProductScanAllowed
    rw [if_pos hcontrolled]
    refine (loadItems_serves (L := fun items t => t = db ∧ LoadedFrom db b.id items) hk hn
      fun items hitems => ⟨rfl, hitems⟩).bind fun items t ht => ?_
    obtain ⟨rfl, hitems⟩ := ht
    unfold Request.raiseIf
    rw [if_pos ((shelfRequired_iff hk hitems hcontrolled).mpr hdue)]
    exact Request.Serves.raise ⟨rfl, rfl⟩
  have hserves : (scanIntoBatch b.id user serialNumber returning now).Serves commitStock
      (fun _ _ => False)
      (fun e t => e = shelfRefusal ∧ t = db) db := by
    unfold scanIntoBatch
    refine (getBatch_serves (P := fun b' t => b' = b ∧ t = db) hstored ⟨rfl, rfl⟩).bind
      fun b' t ht => ?_
    obtain ⟨rfl, rfl⟩ := ht
    apply Request.Serves.bind_reads
    rw [hproduct]
    dsimp only
    rw [if_neg fun h => hsale h.1]
    -- The check for a pending return is passed: the batch is no sale.
    have hopen : (ensureSaleScanAllowed b').Serves commitStock (fun _ t' => t' = t)
        (fun e t' => e = shelfRefusal ∧ t' = t) t := by
      unfold ensureSaleScanAllowed
      rw [if_neg hsale]
      exact Request.Serves.pure rfl
    refine hopen.bind fun _ t' ht' => ?_
    subst ht'
    exact hgate.bind fun _ _ h => h.elim
  unfold Request.Serves at hserves
  generalize (scanIntoBatch b.id user serialNumber returning now).serve commitStock db =
    outcome at hserves ⊢
  obtain ⟨answer, t⟩ := outcome
  cases answer with
  | ok _ => exact hserves.elim
  | error e =>
    obtain ⟨rfl, rfl⟩ := hserves
    rfl

/-- After a shelf scan nothing in the batch is unverified. -/
theorem shelf_scan_clears (hk : db.Keyed) {b : Batch} (hb : b ∈ db.batches)
    (hcontrolled : b.batchType ∈ shelfControlledBatchTypes) (user : User) {serialNumber : PyStr}
    (hshelf : findLocationByCode serialNumber db ≠ none) (returning : Bool) (now : Instant)
    {db' : Db}
    (hok : (scanIntoBatch b.id user serialNumber returning now).serve commitStock db =
        (.ok ⟨⟩, db')) (p : Nat) :
    db'.unverified b.id p = 0 := by
  have hstored : db.batch b.id = some b := lookup_of_mem hk.batches hb
  have hsale := ne_sale_of_controlled hcontrolled
  have hserves : (scanIntoBatch b.id user serialNumber returning now).Serves commitStock
      (fun _ t => t.unverified b.id p = 0) (fun _ _ => True) db := by
    unfold scanIntoBatch
    refine (getBatch_serves (P := fun b' t => b' = b ∧ t = db) hstored ⟨rfl, rfl⟩).bind
      fun b' t ht => ?_
    obtain ⟨rfl, rfl⟩ := ht
    apply Request.Serves.bind_reads
    -- The code is looked up as a shelf before it is looked up as a serial.
    cases hfound : findLocationByCode serialNumber t with
    | none => exact absurd hfound hshelf
    | some location =>
      dsimp only
      rw [if_neg hsale]
      unfold verifyPendingItemsOnShelf
      refine Request.Serves.bind_raiseIf (fun _ => trivial) fun _ => ?_
      refine Request.Serves.bind_raiseIf (fun _ => trivial) fun _ => ?_
      have hready : (loadItems b'.id).Spec Eq (fun _ _ => False) _ t := loadItems_ready b'.id
      have hload : (loadItems b'.id).Serves commitStock _ _ t := hready.serves
      refine (hload.imp (fun _ _ h => h) fun _ _ _ => trivial).bind fun items t' ht' => ?_
      obtain ⟨rfl, -, hitems⟩ := ht'
      refine Request.Serves.bind_raiseIf (fun _ => trivial) fun _ => ?_
      apply Request.Serves.commits
      · intro t'' hcommit
        have hverified := verifyShelf_shelf hk hitems hcontrolled (Tx.atomically_ok.mp hcommit)
        refine List.countP_eq_zero.mpr fun k hk' => ?_
        rw [hverified] at hk'
        obtain ⟨k₀, -, rfl⟩ := List.mem_map.mp hk'
        by_cases hof : k₀.batchId = b'.id
        · simp [verifyBatch, ShelfItem.verified, hof]
        · simp [verifyBatch, hof]
      · exact fun _ _ _ => trivial
  unfold Request.Serves at hserves
  rw [hok] at hserves
  exact hserves

end Answers

/-! ## Runs -/

/-- What the gate says of one state: the counts are within the intervals; while a shelf is
due, product scans are refused, and it stays due until the shelf is scanned or an item is
removed; a shelf scan leaves nothing unverified; and a batch that leaves `DRAFT` has none
left. -/
structure ShelfEnforced (rt : Runtime) (st : Settings) (db : Db) (b : Batch) : Prop where
  within : ∀ p ∈ db.products, db.unverified b.id p.id ≤ p.interval
  refused : ShelfDue db b.id →
    ∀ user serialNumber returning now, findLocationByCode serialNumber db = none →
    (scanIntoBatch b.id user serialNumber returning now).serve commitStock db =
      (.error shelfRefusal, db)
  stays : ShelfDue db b.id → ∀ a : StockAction, a.isLocal = true → ¬ FreesShelf b.id db a →
    ShelfDue (stockStep rt st db a) b.id
  clears : ∀ user serialNumber returning now db', findLocationByCode serialNumber db ≠ none →
    (scanIntoBatch b.id user serialNumber returning now).serve commitStock db = (.ok ⟨⟩, db') →
      ∀ productId, db'.unverified b.id productId = 0
  submitted : b.status = .draft → ∀ a : StockAction, a.isLocal = true →
    (∃ b' ∈ (stockStep rt st db a).batches, b'.id = b.id ∧ b'.status ≠ .draft) →
      ∀ i ∈ db.itemsOf b.id, i.shelfVerifiedAt ≠ none

/-- In every state that the requests and relocations of a node lead to, the gate is enforced
for every purchase, receipt and audit. -/
theorem shelf_gate_enforced (rt : Runtime) (st : Settings) {start : Db} (hkeyed : start.Keyed)
    (hnamed : start.Named) (hwithin : WithinIntervals start) (as : List StockAction)
    (hlocal : ∀ a ∈ as, a.isLocal = true) (db : Db)
    (hexec : exec (stockMachine rt st) start as = some db) (b : Batch) (hb : b ∈ db.batches)
    (hcontrolled : b.batchType ∈ shelfControlledBatchTypes) :
    ShelfEnforced rt st db b := by
  obtain ⟨hk, hn⟩ := stock_named hkeyed hnamed hexec
  let J (t : Db) : Prop := t.Keyed ∧ WithinIntervals t
  have hrun : J db := by
    refine guarded_invariant (m := stockMachine rt st) (C := fun _ a => a.isLocal = true)
      (fun t a t' hJ ha hstep => ?_) ⟨hkeyed, hwithin⟩ (guarded_of_mem hlocal) hexec
    obtain rfl := Option.some.inj hstep
    exact step_within hJ.1 hJ.2 ha
  refine ⟨hrun.2 b hb hcontrolled, ?_, ?_, ?_, ?_⟩
  · intro hdue user serialNumber returning now hproduct
    exact scan_refused hk hn hb hcontrolled hdue user hproduct returning now
  · intro hdue a ha hfree
    exact step_still_due hk hb hcontrolled hdue ha hfree
  · intro user serialNumber returning now db' hshelf hok productId
    exact shelf_scan_clears hk hb hcontrolled user hshelf returning now hok productId
  · rintro hdraft a ha ⟨b', hb', hid, hleft⟩
    exact step_submitted hk hb hcontrolled hdraft ha hb' hid hleft

/-- An audit of the two lamps; the first is scanned, and its product has the interval one. -/
def lampAudit : List StockAction :=
  [.order (.openBatch storeClerk
    ⟨.audit, none, none, none, none, none, none, none, none, none, none, none, none⟩
      63900000000000000),
    .order (.scan 1 storeClerk (py "LAMP-1") false 63900000000000001)]

theorem shelf_gate_enforced_lamps :
    ∃ db b, exec (stockMachine .plain homeSettings) lampsDb lampAudit = some db ∧ b ∈ db.batches ∧
      ShelfDue db b.id ∧ ShelfEnforced .plain homeSettings db b := by
  have hrun : (exec (stockMachine .plain homeSettings) lampsDb lampAudit).map (fun db => decide
      (∃ b ∈ db.batches, b.batchType = .audit ∧ ShelfDue db b.id)) = some true := by
    decide +kernel
  obtain ⟨db, hdb, hfacts⟩ := Option.map_eq_some_iff.mp hrun
  obtain ⟨b, hb, htype, hdue⟩ := of_decide_eq_true hfacts
  have hcontrolled : b.batchType ∈ shelfControlledBatchTypes := by
    rw [htype]
    decide
  refine ⟨db, b, hdb, hb, hdue, ?_⟩
  exact shelf_gate_enforced .plain homeSettings lampsDb_valid.1 lampsDb_valid.2
    (by decide +kernel) lampAudit
    (by decide) db hdb b hb hcontrolled

end SetuoraLite
