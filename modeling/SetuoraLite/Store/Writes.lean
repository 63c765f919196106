import SetuoraLite.Lib.Python
import SetuoraLite.Store.Models

/-!
# Inserts and updates

The writes of a transaction, one definition for each table a service inserts into.
An insert gives the row the next id, refuses a text without an encoding, and
refuses a second row under a unique key, as the database does; an update changes
one row in place.

A write keeps every function of the database that does not read its table; the frame
lemmas say so for any such function.
-/

namespace SetuoraLite

open Lib

/-! ## Values of a request as column values -/

/-- The texts can be stored. -/
def encodable (texts : List PyStr) : Bool := texts.all fun s => (encodeUtf8 s).isSome

/-- The text a text column holds for a JSON value; `none` is `NULL`, a container has
no column value, an integer has to fit. -/
def bindText (rt : Runtime) : Json → Except PyError (Option PyStr)
  | .null => .ok none
  | .str s => .ok (some s)
  | .bool b => .ok (some (intStr (if b then 1 else 0)))
  | .int z =>
    if -(2 ^ 63) ≤ z ∧ z < 2 ^ 63 then .ok (some (intStr z))
    else .error ⟨.other, py "Python int too large to convert to SQLite INTEGER"⟩
  | .float .nan => .ok none
  | .float f => .ok (some (rt.sqliteReal f))
  | _ => .error ⟨.other, py "Error binding parameter: type is not supported"⟩

/-! ## Inserts -/

/-- `db.add(Product(…))` and its flush. SQLite stores `NaN` as `NULL`. -/
def insertProduct (row : Nat → Product) : Tx Product := do
  let db ← Tx.reads fun db => db
  let new := row (nextId (·.id) db.products)
  Tx.raiseIf (encodable
    ([new.productCode, new.productName, new.hsn, new.unit, new.tallyStockItemName] ++
    new.nickname.toList ++ new.category.toList ++ new.brand.toList ++
    new.alternateTallyStockItemName.toList) = false) .unicodeEncode
  Tx.raiseIf (new.gstRate = .nan ∨ new.defaultRate = .nan ∨ new.salesDiscountRate = .nan)
    ⟨.other, py "NOT NULL constraint failed"⟩
  Tx.raiseIf (∃ p ∈ db.products, p.productCode = new.productCode) .integrity
  Tx.modify fun db => { db with products := db.products ++ [new] }
  pure new

/-- The stored product with new columns; nothing writes its code. -/
def Product.overwritten (new stored : Product) : Product :=
  { new with id := stored.id, productCode := stored.productCode }

/-- Write a product back under its id. -/
def updateProduct (new : Product) : Tx PUnit := do
  Tx.raiseIf (encodable ([new.productName, new.hsn, new.unit, new.tallyStockItemName] ++
    new.alternateTallyStockItemName.toList) = false) .unicodeEncode
  Tx.modify fun db =>
    { db with products := modifyRow (·.id) new.id new.overwritten db.products }

/-- `db.add(Serial(…))` and its flush. -/
def insertSerial (row : Nat → Serial) : Tx Serial := do
  let db ← Tx.reads fun db => db
  let new := row (nextId (·.id) db.serials)
  Tx.raiseIf (encodable ([new.serialNumber] ++ new.productBatchNumber.toList ++
    new.warehouse.toList) = false) .unicodeEncode
  Tx.raiseIf (∃ s ∈ db.serials, s.serialNumber = new.serialNumber) .integrity
  Tx.modify fun db => { db with serials := db.serials ++ [new] }
  pure new

/-- The stored serial with changed columns; nothing writes its number. -/
def Serial.changed (change : Serial → Serial) (stored : Serial) : Serial :=
  { change stored with id := stored.id, serialNumber := stored.serialNumber }

/-- Change a serial in place. -/
def updateSerial (id : Nat) (change : Serial → Serial) : Tx PUnit :=
  Tx.modify fun db => { db with serials := modifyRow (·.id) id (Serial.changed change) db.serials }

/-- `db.add(LocalTransfer(…))` and its flush. -/
def insertTransfer (row : Nat → LocalTransfer) : Tx LocalTransfer := do
  let db ← Tx.reads fun db => db
  let new := row (nextId (·.id) db.transfers)
  Tx.raiseIf (encodable ([new.transferUuid, new.peerCode] ++ new.localFranchiseCode.toList ++
    new.notes.toList) = false) .unicodeEncode
  Tx.raiseIf (∃ t ∈ db.transfers, t.transferUuid = new.transferUuid) .integrity
  Tx.modify fun db => { db with transfers := db.transfers ++ [new] }
  pure new

/-- The stored transfer with changed columns; nothing writes its UUID or direction. -/
def LocalTransfer.changed (change : LocalTransfer → LocalTransfer) (stored : LocalTransfer) :
    LocalTransfer :=
  { change stored with
    id := stored.id
    transferUuid := stored.transferUuid
    direction := stored.direction }

/-- Change a transfer in place. -/
def updateTransfer (id : Nat) (change : LocalTransfer → LocalTransfer) : Tx PUnit :=
  Tx.modify fun db =>
    { db with transfers := modifyRow (·.id) id (LocalTransfer.changed change) db.transfers }

/-- `db.add(LocalTransferItem(…))` and its flush. -/
def insertTransferItem (row : Nat → LocalTransferItem) : Tx LocalTransferItem := do
  let db ← Tx.reads fun db => db
  let new := row (nextId (·.id) db.transferItems)
  Tx.raiseIf (encodable [new.manifestSerialNumber, new.productCode, new.productName] = false)
    .unicodeEncode
  Tx.raiseIf (∃ i ∈ db.transferItems, i.transferId = new.transferId ∧
    i.manifestSerialNumber = new.manifestSerialNumber) .integrity
  Tx.modify fun db => { db with transferItems := db.transferItems ++ [new] }
  pure new

/-- The stored item with changed marks; nothing writes the manifest. -/
def LocalTransferItem.changed (change : LocalTransferItem → LocalTransferItem)
    (stored : LocalTransferItem) : LocalTransferItem :=
  { stored with
    scanned := (change stored).scanned
    received := (change stored).received
    scannedAt := (change stored).scannedAt
    receivedAt := (change stored).receivedAt }

/-- Mark a transfer item in place. -/
def updateTransferItem (id : Nat) (change : LocalTransferItem → LocalTransferItem) : Tx PUnit :=
  Tx.modify fun db =>
    { db with
      transferItems := modifyRow (·.id) id (LocalTransferItem.changed change) db.transferItems }

/-! ## What the inserts do -/

/-- A new product has a code of its own. -/
theorem insertProduct_ok {row : Nat → Product} {db db' : Db} {p : Product}
    (h : insertProduct row db = (.ok p, db')) :
    p = row (nextId (·.id) db.products) ∧ (∀ q ∈ db.products, q.productCode ≠ p.productCode) ∧
      db' = { db with products := db.products ++ [p] } := by
  unfold insertProduct at h
  rw [Tx.bind_ok] at h
  obtain ⟨seen, t₁, h₁, h⟩ := h
  obtain ⟨rfl, rfl⟩ := Tx.reads_ok.mp h₁
  rw [Tx.bind_ok] at h
  obtain ⟨_, t₂, h₂, h⟩ := h
  obtain ⟨-, rfl⟩ := Tx.raiseIf_ok.mp h₂
  rw [Tx.bind_ok] at h
  obtain ⟨_, t₃, h₃, h⟩ := h
  obtain ⟨-, rfl⟩ := Tx.raiseIf_ok.mp h₃
  rw [Tx.bind_ok] at h
  obtain ⟨_, t₄, h₄, h⟩ := h
  obtain ⟨hfresh, rfl⟩ := Tx.raiseIf_ok.mp h₄
  rw [Tx.bind_ok] at h
  obtain ⟨_, t₅, h₅, h⟩ := h
  obtain rfl := Tx.modify_ok.mp h₅
  obtain ⟨rfl, rfl⟩ := Tx.pure_ok.mp h
  exact ⟨rfl, fun q hq he => hfresh ⟨q, hq, he⟩, rfl⟩

/-- A product is written over in place. -/
theorem updateProduct_ok {new : Product} {db db' : Db} {u : PUnit}
    (h : updateProduct new db = (.ok u, db')) :
    db' = { db with products := modifyRow (·.id) new.id new.overwritten db.products } := by
  unfold updateProduct at h
  rw [Tx.bind_ok] at h
  obtain ⟨_, t₁, h₁, h⟩ := h
  obtain ⟨-, rfl⟩ := Tx.raiseIf_ok.mp h₁
  exact (Tx.modify_ok.mp h).symm

/-- A new serial has a number of its own. -/
theorem insertSerial_ok {row : Nat → Serial} {db db' : Db} {s : Serial}
    (h : insertSerial row db = (.ok s, db')) :
    s = row (nextId (·.id) db.serials) ∧ (∀ q ∈ db.serials, q.serialNumber ≠ s.serialNumber) ∧
      db' = { db with serials := db.serials ++ [s] } := by
  unfold insertSerial at h
  rw [Tx.bind_ok] at h
  obtain ⟨seen, t₁, h₁, h⟩ := h
  obtain ⟨rfl, rfl⟩ := Tx.reads_ok.mp h₁
  rw [Tx.bind_ok] at h
  obtain ⟨_, t₂, h₂, h⟩ := h
  obtain ⟨-, rfl⟩ := Tx.raiseIf_ok.mp h₂
  rw [Tx.bind_ok] at h
  obtain ⟨_, t₃, h₃, h⟩ := h
  obtain ⟨hfresh, rfl⟩ := Tx.raiseIf_ok.mp h₃
  rw [Tx.bind_ok] at h
  obtain ⟨_, t₄, h₄, h⟩ := h
  obtain rfl := Tx.modify_ok.mp h₄
  obtain ⟨rfl, rfl⟩ := Tx.pure_ok.mp h
  exact ⟨rfl, fun q hq he => hfresh ⟨q, hq, he⟩, rfl⟩

/-- A new transfer has a UUID of its own. -/
theorem insertTransfer_ok {row : Nat → LocalTransfer} {db db' : Db} {t : LocalTransfer}
    (h : insertTransfer row db = (.ok t, db')) :
    t = row (nextId (·.id) db.transfers) ∧ (∀ q ∈ db.transfers, q.transferUuid ≠ t.transferUuid) ∧
      db' = { db with transfers := db.transfers ++ [t] } := by
  unfold insertTransfer at h
  rw [Tx.bind_ok] at h
  obtain ⟨seen, t₁, h₁, h⟩ := h
  obtain ⟨rfl, rfl⟩ := Tx.reads_ok.mp h₁
  rw [Tx.bind_ok] at h
  obtain ⟨_, t₂, h₂, h⟩ := h
  obtain ⟨-, rfl⟩ := Tx.raiseIf_ok.mp h₂
  rw [Tx.bind_ok] at h
  obtain ⟨_, t₃, h₃, h⟩ := h
  obtain ⟨hfresh, rfl⟩ := Tx.raiseIf_ok.mp h₃
  rw [Tx.bind_ok] at h
  obtain ⟨_, t₄, h₄, h⟩ := h
  obtain rfl := Tx.modify_ok.mp h₄
  obtain ⟨rfl, rfl⟩ := Tx.pure_ok.mp h
  exact ⟨rfl, fun q hq he => hfresh ⟨q, hq, he⟩, rfl⟩

/-- A new item has a number that no item of its transfer has. -/
theorem insertTransferItem_ok {row : Nat → LocalTransferItem} {db db' : Db} {i : LocalTransferItem}
    (h : insertTransferItem row db = (.ok i, db')) :
    i = row (nextId (·.id) db.transferItems) ∧
      (∀ q ∈ db.transferItems, q.transferId = i.transferId →
        q.manifestSerialNumber ≠ i.manifestSerialNumber) ∧
      db' = { db with transferItems := db.transferItems ++ [i] } := by
  unfold insertTransferItem at h
  rw [Tx.bind_ok] at h
  obtain ⟨seen, t₁, h₁, h⟩ := h
  obtain ⟨rfl, rfl⟩ := Tx.reads_ok.mp h₁
  rw [Tx.bind_ok] at h
  obtain ⟨_, t₂, h₂, h⟩ := h
  obtain ⟨-, rfl⟩ := Tx.raiseIf_ok.mp h₂
  rw [Tx.bind_ok] at h
  obtain ⟨_, t₃, h₃, h⟩ := h
  obtain ⟨hfresh, rfl⟩ := Tx.raiseIf_ok.mp h₃
  rw [Tx.bind_ok] at h
  obtain ⟨_, t₄, h₄, h⟩ := h
  obtain rfl := Tx.modify_ok.mp h₄
  obtain ⟨rfl, rfl⟩ := Tx.pure_ok.mp h
  exact ⟨rfl, fun q hq ht he => hfresh ⟨q, hq, ht, he⟩, rfl⟩

/-! ## Frames -/

section Frames

variable {γ : Type} {f : Db → γ}

/-- An insert into `products` is seen there only. -/
theorem insertProduct_keeps (hf : ∀ db x, f { db with products := x } = f db)
    (row : Nat → Product) :
    Tx.Keeps f (insertProduct row) :=
  .bind (.reads _) fun _ => .bind (.raiseIf _ _) fun _ => .bind (.raiseIf _ _) fun _ =>
    .bind (.raiseIf _ _) fun _ => .bind (.modify fun db => hf db _) fun _ => .pure _

/-- An update of `products` is seen there only. -/
theorem updateProduct_keeps (hf : ∀ db x, f { db with products := x } = f db) (new : Product) :
    Tx.Keeps f (updateProduct new) :=
  .bind (.raiseIf _ _) fun _ => .modify fun db => hf db _

/-- An insert into `serials` is seen there only. -/
theorem insertSerial_keeps (hf : ∀ db x, f { db with serials := x } = f db) (row : Nat → Serial) :
    Tx.Keeps f (insertSerial row) :=
  .bind (.reads _) fun _ => .bind (.raiseIf _ _) fun _ => .bind (.raiseIf _ _) fun _ =>
    .bind (.modify fun db => hf db _) fun _ => .pure _

/-- An update of `serials` is seen there only. -/
theorem updateSerial_keeps (hf : ∀ db x, f { db with serials := x } = f db) (id : Nat)
    (change : Serial → Serial) : Tx.Keeps f (updateSerial id change) :=
  .modify fun db => hf db _

/-- An insert into `local_transfers` is seen there only. -/
theorem insertTransfer_keeps (hf : ∀ db x, f { db with transfers := x } = f db)
    (row : Nat → LocalTransfer) : Tx.Keeps f (insertTransfer row) :=
  .bind (.reads _) fun _ => .bind (.raiseIf _ _) fun _ => .bind (.raiseIf _ _) fun _ =>
    .bind (.modify fun db => hf db _) fun _ => .pure _

/-- An update of `local_transfers` is seen there only. -/
theorem updateTransfer_keeps (hf : ∀ db x, f { db with transfers := x } = f db) (id : Nat)
    (change : LocalTransfer → LocalTransfer) : Tx.Keeps f (updateTransfer id change) :=
  .modify fun db => hf db _

/-- An insert into `local_transfer_items` is seen there only. -/
theorem insertTransferItem_keeps (hf : ∀ db x, f { db with transferItems := x } = f db)
    (row : Nat → LocalTransferItem) : Tx.Keeps f (insertTransferItem row) :=
  .bind (.reads _) fun _ => .bind (.raiseIf _ _) fun _ => .bind (.raiseIf _ _) fun _ =>
    .bind (.modify fun db => hf db _) fun _ => .pure _

/-- An update of `local_transfer_items` is seen there only. -/
theorem updateTransferItem_keeps (hf : ∀ db x, f { db with transferItems := x } = f db) (id : Nat)
    (change : LocalTransferItem → LocalTransferItem) : Tx.Keeps f (updateTransferItem id change) :=
  .modify fun db => hf db _

end Frames

end SetuoraLite
