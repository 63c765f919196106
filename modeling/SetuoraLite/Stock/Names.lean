import SetuoraLite.Stock.QrCommands

/-!
# Names

What the rows of a node call each other: a serial has a stored product, a transfer item
carries the number of the stored serial it is for, and the names that a transfer item
copies could be stored before, so they can be stored again.

`Names` is what a write could touch of it; a write that shows none of it keeps `Named`
for free. `stock_named` carries `Named` over every run.
-/

namespace SetuoraLite

open Lib

/-- The names and references of the stock tables. -/
structure Names where
  productIds : List Nat
  productTexts : List (PyStr × PyStr)
  serials : List (Option Nat × PyStr)
  serialProducts : List Nat
  transferItems : List (Option Nat × PyStr)

/-- The names and references as they are stored. -/
def Db.names (db : Db) : Names where
  productIds := db.products.map (·.id)
  productTexts := db.products.map fun p => (p.productCode, p.productName)
  serials := db.serials.map fun s => (some s.id, s.serialNumber)
  serialProducts := db.serials.map (·.productId)
  transferItems := db.transferItems.map fun i => (i.serialId, i.manifestSerialNumber)

/-- Every reference is to a stored row, and every name has an encoding. -/
structure Names.Valid (n : Names) : Prop where
  product : ∀ id ∈ n.serialProducts, id ∈ n.productIds
  serial : ∀ i ∈ n.transferItems, i ∈ n.serials
  productText : ∀ p ∈ n.productTexts, encodable [p.1, p.2] = true
  serialNumber : ∀ s ∈ n.serials, encodable [s.2] = true

/-- A database whose references and names are in order. -/
abbrev Db.Named (db : Db) : Prop := db.names.Valid

/-- A new installation has no rows at all. -/
example : Db.empty.Named := by
  constructor <;> simp [Db.names, Db.empty]

variable {rt : Runtime} {st : Settings} {now : Instant} {uuid : PyStr} {db db' : Db}

/-! ## Reading -/

namespace Names.Valid

/-- The product of a stored serial is stored. -/
theorem product_of_serial (h : db.Named) {s : Serial} (hs : s ∈ db.serials) :
    ∃ p ∈ db.products, p.id = s.productId :=
  List.mem_map.mp (h.product _ (List.mem_map_of_mem hs))

/-- A transfer item is for a stored serial, whose number it copies. -/
theorem serial_of_item (h : db.Named) {i : LocalTransferItem} (hi : i ∈ db.transferItems) :
    ∃ s ∈ db.serials, i.serialId = some s.id ∧ i.manifestSerialNumber = s.serialNumber := by
  obtain ⟨s, hs, he⟩ := List.mem_map.mp (h.serial _ (List.mem_map_of_mem hi))
  obtain ⟨hid, hnumber⟩ := Prod.mk.inj he
  exact ⟨s, hs, hid.symm, hnumber.symm⟩

/-- An item that carries a serial's number is for that serial. -/
theorem item_serialId (h : db.Named) (hk : db.Keyed) {i : LocalTransferItem} {s : Serial}
    (hi : i ∈ db.transferItems) (hs : s ∈ db.serials)
    (he : i.manifestSerialNumber = s.serialNumber) :
    i.serialId = some s.id := by
  obtain ⟨s', hs', hid, hnumber⟩ := h.serial_of_item hi
  have hsame : s' = s := eq_of_key_eq hk.serialNumbers hs' hs (hnumber.symm.trans he)
  rw [hid, hsame]

/-- An item that is for a serial carries its number. -/
theorem item_number (h : db.Named) (hk : db.Keyed) {i : LocalTransferItem} {s : Serial}
    (hi : i ∈ db.transferItems) (hs : s ∈ db.serials) (he : i.serialId = some s.id) :
    i.manifestSerialNumber = s.serialNumber := by
  obtain ⟨s', hs', hid, hnumber⟩ := h.serial_of_item hi
  have hsame : s' = s := hk.serial_eq hs' hs (Option.some.inj (hid.symm.trans he))
  rw [hnumber, hsame]

/-- A stored product's texts can be stored once more. -/
theorem product_encodable (h : db.Named) {p : Product} (hp : p ∈ db.products) :
    encodable [p.productCode, p.productName] = true :=
  h.productText _ (List.mem_map_of_mem hp)

/-- A stored number can be stored once more, in a transfer item. -/
theorem serial_encodable (h : db.Named) {s : Serial} (hs : s ∈ db.serials) :
    encodable [s.serialNumber] = true :=
  h.serialNumber _ (List.mem_map_of_mem hs)

/-! ## New rows -/

/-- One more product, whose texts have encodings. -/
theorem withProduct (h : db.Named) {p : Product}
    (hp : encodable [p.productCode, p.productName] = true) :
    Db.Named { db with products := db.products ++ [p] } := by
  refine { h with product := ?_, productText := ?_ }
  · intro id hid
    show id ∈ (db.products ++ [p]).map (·.id)
    rw [List.map_append]
    exact List.mem_append_left _ (h.product id hid)
  · intro t ht
    obtain ⟨q, hq, rfl⟩ := List.mem_map.mp ht
    rcases List.mem_append.mp hq with hq | hq
    · exact h.product_encodable hq
    · rw [List.mem_singleton.mp hq]
      exact hp

/-- One more serial, of a stored product. -/
theorem withSerial (h : db.Named) {s : Serial} (hp : ∃ p ∈ db.products, p.id = s.productId)
    (hnumber : encodable [s.serialNumber] = true) :
    Db.Named { db with serials := db.serials ++ [s] } := by
  refine { h with product := ?_, serial := ?_, serialNumber := ?_ }
  · intro id hid
    obtain ⟨q, hq, rfl⟩ := List.mem_map.mp hid
    rcases List.mem_append.mp hq with hq | hq
    · exact h.product _ (List.mem_map_of_mem hq)
    · rw [List.mem_singleton.mp hq]
      exact List.mem_map.mpr hp
  · intro i hi
    show i ∈ (db.serials ++ [s]).map fun s => (some s.id, s.serialNumber)
    rw [List.map_append]
    exact List.mem_append_left _ (h.serial i hi)
  · intro t ht
    obtain ⟨q, hq, rfl⟩ := List.mem_map.mp ht
    rcases List.mem_append.mp hq with hq | hq
    · exact h.serial_encodable hq
    · rw [List.mem_singleton.mp hq]
      exact hnumber

/-- One more transfer item, for a stored serial. -/
theorem withTransferItem (h : db.Named) {i : LocalTransferItem}
    (hi : ∃ s ∈ db.serials, i.serialId = some s.id ∧ i.manifestSerialNumber = s.serialNumber) :
    Db.Named { db with transferItems := db.transferItems ++ [i] } := by
  refine { h with serial := ?_ }
  intro t ht
  obtain ⟨q, hq, rfl⟩ := List.mem_map.mp ht
  rcases List.mem_append.mp hq with hq | hq
  · exact h.serial _ (List.mem_map_of_mem hq)
  · obtain ⟨s, hs, hid, hnumber⟩ := hi
    rw [List.mem_singleton.mp hq, hid, hnumber]
    exact List.mem_map_of_mem hs

end Names.Valid

/-! ## Writes -/

section Writes

variable {α : Type} {x : Tx α}

/-- What keeps the names keeps them in order. -/
theorem named_of_keeps (h : Tx.Keeps Db.names x) : Tx.Preserves Db.Named x :=
  .of_keeps h fun _ _ he hn => (congrArg Names.Valid he).mpr hn

/-- Every insert checked what it stored. -/
theorem insertProduct_encodable {row : Nat → Product} {p : Product}
    (h : insertProduct row db = (.ok p, db')) :
    encodable [p.productCode, p.productName] = true := by
  obtain ⟨seen, t₁, h₁, h⟩ := Tx.bind_ok.mp h
  obtain ⟨rfl, rfl⟩ := Tx.reads_ok.mp h₁
  obtain ⟨_, t₂, h₂, h⟩ := Tx.bind_ok.mp h
  obtain ⟨hencodable, rfl⟩ := Tx.raiseIf_ok.mp h₂
  have hp : p = row (nextId (·.id) db.products) := by
    obtain ⟨_, t₃, h₃, h⟩ := Tx.bind_ok.mp h
    obtain ⟨_, t₄, h₄, h⟩ := Tx.bind_ok.mp h
    obtain ⟨_, t₅, h₅, h⟩ := Tx.bind_ok.mp h
    exact (Tx.pure_ok.mp h).1.symm
  simp only [encodable, List.cons_append, List.all_cons, Bool.not_eq_false, Bool.and_eq_true]
    at hencodable
  rw [hp]
  simp [encodable, hencodable.1, hencodable.2.1]

/-- SQLite took the number, so it has an encoding. -/
theorem insertSerial_encodable {row : Nat → Serial} {s : Serial}
    (h : insertSerial row db = (.ok s, db')) : encodable [s.serialNumber] = true := by
  obtain ⟨seen, t₁, h₁, h⟩ := Tx.bind_ok.mp h
  obtain ⟨rfl, rfl⟩ := Tx.reads_ok.mp h₁
  obtain ⟨_, t₂, h₂, h⟩ := Tx.bind_ok.mp h
  obtain ⟨hencodable, rfl⟩ := Tx.raiseIf_ok.mp h₂
  have hs : s = row (nextId (·.id) db.serials) := by
    obtain ⟨_, t₃, h₃, h⟩ := Tx.bind_ok.mp h
    obtain ⟨_, t₄, h₄, h⟩ := Tx.bind_ok.mp h
    exact (Tx.pure_ok.mp h).1.symm
  simp only [encodable, List.cons_append, List.all_cons, Bool.not_eq_false, Bool.and_eq_true]
    at hencodable
  rw [hs]
  simp [encodable, hencodable.1]

/-- Inserting a product keeps the names in order. -/
theorem insertProduct_named (row : Nat → Product) : Tx.Preserves Db.Named (insertProduct row) := by
  intro db db' p h hx
  have hp := insertProduct_encodable hx
  obtain ⟨rfl, -, rfl⟩ := insertProduct_ok hx
  exact h.withProduct hp

/-- Inserting a serial does too, when its product is stored. -/
theorem insertSerial_named {row : Nat → Serial} {s : Serial} (h : db.Named)
    (hp : ∃ p ∈ db.products, p.id = (row (nextId (·.id) db.serials)).productId)
    (hx : insertSerial row db = (.ok s, db')) : db'.Named := by
  have hs := insertSerial_encodable hx
  obtain ⟨rfl, -, rfl⟩ := insertSerial_ok hx
  exact h.withSerial hp hs

/-- A product may get other texts, and SQLite refuses those without an encoding. -/
theorem updateProduct_named (new : Product) : Tx.Preserves Db.Named (updateProduct new) := by
  intro db db' u h hx
  obtain ⟨_, t₁, h₁, hx⟩ := Tx.bind_ok.mp hx
  obtain ⟨hencodable, rfl⟩ := Tx.raiseIf_ok.mp h₁
  obtain rfl := Tx.modify_ok.mp hx
  have hname : (encodeUtf8 new.productName).isSome = true := by
    simp only [encodable, List.cons_append, List.all_cons, Bool.not_eq_false, Bool.and_eq_true]
      at hencodable
    exact hencodable.1
  have hids : (modifyRow (·.id) new.id new.overwritten db.products).map (·.id) =
      db.products.map (·.id) :=
    map_modifyRow fun _ _ _ => rfl
  refine { h with product := ?_, productText := ?_ }
  · intro id hid
    show id ∈ (modifyRow (·.id) new.id new.overwritten db.products).map (·.id)
    rw [hids]
    exact h.product id hid
  · intro t ht
    obtain ⟨q, hq, rfl⟩ := List.mem_map.mp ht
    obtain ⟨p, hp, rfl⟩ := mem_modifyRow.mp hq
    have hold := h.product_encodable hp
    split
    · simp only [encodable, List.all_cons, List.all_nil, Bool.and_true, Bool.and_eq_true] at hold ⊢
      exact ⟨hold.1, hname⟩
    · exact hold

/-- A serial changes in place; its product may change to another stored one. -/
theorem updateSerial_named {id : Nat} {change : Serial → Serial} {u : PUnit} (h : db.Named)
    (hp : ∀ s ∈ db.serials, s.id = id → ∃ p ∈ db.products, p.id = (change s).productId)
    (hx : updateSerial id change db = (.ok u, db')) : db'.Named := by
  obtain rfl := Tx.modify_ok.mp hx
  have hserials : (modifyRow (·.id) id (Serial.changed change) db.serials).map
      (fun s => (some s.id, s.serialNumber)) = db.serials.map fun s =>
          (some s.id, s.serialNumber) :=
    map_modifyRow fun _ _ _ => rfl
  refine { h with product := ?_, serial := ?_, serialNumber := ?_ }
  · intro n hn
    obtain ⟨q, hq, rfl⟩ := List.mem_map.mp hn
    obtain ⟨s, hs, rfl⟩ := mem_modifyRow.mp hq
    split
    next hid => exact List.mem_map.mpr (hp s hs hid)
    next => exact h.product _ (List.mem_map_of_mem hs)
  · intro i hi
    show i ∈ (modifyRow (·.id) id (Serial.changed change) db.serials).map _
    rw [hserials]
    exact h.serial i hi
  · intro t ht
    apply h.serialNumber t
    show t ∈ db.serials.map _
    rw [← hserials]
    exact ht

/-- No update of a serial changes its id, its number or, here, its product. -/
theorem updateSerial_names {id : Nat} {change : Serial → Serial}
    (hchange : ∀ s, (change s).productId = s.productId) :
    Tx.Keeps Db.names (updateSerial id change) := by
  refine .modify fun db => ?_
  have hserials : (modifyRow (·.id) id (Serial.changed change) db.serials).map
      (fun s => (some s.id, s.serialNumber)) = db.serials.map fun s =>
          (some s.id, s.serialNumber) :=
    map_modifyRow fun _ _ _ => rfl
  have hproducts : (modifyRow (·.id) id (Serial.changed change) db.serials).map (·.productId)
      = db.serials.map (·.productId) := map_modifyRow fun s _ _ => hchange s
  unfold Db.names
  rw [hserials, hproducts]

/-- The marks of an item are no names. -/
theorem updateTransferItem_names : MarksItems Db.names := by
  intro id change
  refine .modify fun db => ?_
  have hitems : (modifyRow (·.id) id (LocalTransferItem.changed change) db.transferItems).map
      (fun i => (i.serialId, i.manifestSerialNumber))
        = db.transferItems.map fun i => (i.serialId, i.manifestSerialNumber) :=
    map_modifyRow fun _ _ _ => rfl
  unfold Db.names
  rw [hitems]

/-- Moving units shows in no name. -/
theorem movesSerials_names : MovesSerials Db.names where
  place _ _ := updateSerial_names fun _ => rfl
  claim _ _ _ _ :=
    .bind (.reads _) fun _ => .bind (.raiseIf _ _) fun _ => updateSerial_names fun _ => rfl

/-- One transfer item less refers to less. -/
theorem deleteTransferItem_named (id : Nat) : Tx.Preserves Db.Named (deleteTransferItem id) := by
  refine .modify fun db h => { h with serial := ?_ }
  intro i hi
  have hsub : (db.transferItems.filter fun i => i.id ≠ id).Sublist db.transferItems :=
    List.filter_sublist
  exact h.serial i ((hsub.map _).subset hi)

end Writes

/-! ## Requests -/

/-- Only an added transfer item has to bring the name of its serial. -/
theorem writesOf_named {c : StockCommit} {u : PUnit} (h : db.Named)
    (hadd : ∀ row, c = .addTransferItem row →
      ∃ s ∈ db.serials, row.serialId = some s.id ∧ row.manifestSerialNumber = s.serialNumber)
    (hx : writesOf c db = (.ok u, db')) : db'.Named := by
  by_cases hitem : ∃ row, c = .addTransferItem row
  · obtain ⟨row, rfl⟩ := hitem
    obtain ⟨i, t, hinsert, hx⟩ := Tx.bind_ok.mp hx
    obtain ⟨-, rfl⟩ := Tx.pure_ok.mp hx
    obtain ⟨rfl, -, rfl⟩ := insertTransferItem_ok hinsert
    exact h.withTransferItem (hadd row rfl)
  by_cases hgone : ∃ itemId, c = .removeTransferItem itemId
  · obtain ⟨itemId, rfl⟩ := hgone
    exact deleteTransferItem_named itemId db db' u h hx
  · refine named_of_keeps
      (writesOf_keeps movesSerials_names updateTransferItem_names (fun _ _ => rfl)
      (fun _ _ => rfl) (fun _ _ => rfl) (fun _ _ => rfl) (fun _ _ => rfl)
      (fun _ _ _ => rfl) c ?_ ?_)
      db db' u h hx
    · exact fun row he => absurd ⟨row, he⟩ hitem
    · exact fun itemId he => absurd ⟨itemId, he⟩ hgone

/-- Every commit of a request that is served alone keeps the names in order. -/
theorem ready_named {c : StockCommit} {u : PUnit} (h : db.Named) (hready : Ready rt c db)
    (hx : writesOf c db = (.ok u, db')) : db'.Named := by
  refine writesOf_named h ?_ hx
  rintro row rfl
  obtain ⟨transfer, serial, product, -, -, -, rfl, hserial, -⟩ := hready
  exact ⟨serial, hserial, rfl, rfl⟩

/-! ## An incoming transfer -/

/-- A serial that arrives is one of the product of its item. -/
theorem incomingSerial_productId {number : PyStr} {product : Product}
    {snapshot : List (PyStr × Json)} {s : Serial}
    (h : incomingSerial rt now number product snapshot db = (.ok s, db')) :
    s.productId = product.id := by
  obtain ⟨seen, t₁, h₁, h⟩ := Tx.bind_ok.mp h
  obtain ⟨rfl, rfl⟩ := Tx.reads_ok.mp h₁
  cases hfound : db.serialNumbered number with
  | some stored =>
    rw [hfound] at h
    obtain ⟨seen, t₂, h₂, h⟩ := Tx.bind_ok.mp h
    obtain ⟨_, t₃, h₃, h⟩ := Tx.bind_ok.mp h
    obtain ⟨_, t₄, h₄, h⟩ := Tx.bind_ok.mp h
    obtain ⟨hproduct, -⟩ := Tx.raiseIf_ok.mp h₄
    obtain ⟨c, t₅, h₅, h⟩ := Tx.bind_ok.mp h
    obtain ⟨_, t₆, h₆, h⟩ := Tx.bind_ok.mp h
    obtain ⟨_, t₇, h₇, h⟩ := Tx.bind_ok.mp h
    obtain ⟨rfl, -⟩ := Tx.pure_ok.mp h
    exact not_not.mp hproduct
  | none =>
    rw [hfound] at h
    obtain ⟨c, t₂, h₂, h⟩ := Tx.bind_ok.mp h
    obtain ⟨rfl, -⟩ := insertSerial_ok h
    rfl

/-- The product of a manifest line is stored afterwards, found or new. -/
theorem materializeProduct_named {snapshot : List (PyStr × Json)} {p : Product} (h : db.Named)
    (hx : materializeProduct rt snapshot db = (.ok p, db')) : db'.Named ∧ p ∈ db'.products := by
  obtain ⟨_, t₁, h₁, hx⟩ := Tx.bind_ok.mp hx
  obtain ⟨-, rfl⟩ := Tx.raiseIf_ok.mp h₁
  obtain ⟨seen, t₂, h₂, hx⟩ := Tx.bind_ok.mp hx
  obtain ⟨rfl, rfl⟩ := Tx.reads_ok.mp h₂
  cases hfound : lookup (·.productCode) (snapshotCode rt snapshot) db.products with
  | some stored =>
    rw [hfound] at hx
    obtain ⟨_, t₃, h₃, hx⟩ := Tx.bind_ok.mp hx
    obtain ⟨-, rfl⟩ := Tx.lift_ok.mp h₃
    obtain ⟨rfl, rfl⟩ := Tx.pure_ok.mp hx
    exact ⟨h, (lookup_some hfound).1⟩
  | none =>
    rw [hfound] at hx
    obtain ⟨row, t₃, h₃, hx⟩ := Tx.bind_ok.mp hx
    obtain ⟨-, rfl⟩ := Tx.lift_ok.mp h₃
    have hnamed := insertProduct_named row db db' p h hx
    obtain ⟨-, -, rfl⟩ := insertProduct_ok hx
    exact ⟨hnamed, List.mem_append_right _ (List.mem_singleton_self _)⟩

/-- The serial of a manifest line is stored afterwards, found or new. -/
theorem incomingSerial_named {number : PyStr} {product : Product} {snapshot : List (PyStr × Json)}
    {s : Serial} (h : db.Named) (hproduct : product ∈ db.products)
    (hx : incomingSerial rt now number product snapshot db = (.ok s, db')) :
    db'.Named ∧ s ∈ db'.serials := by
  have hid := incomingSerial_productId hx
  obtain ⟨serials, harrives, rfl⟩ := incomingSerial_ok hx
  refine ⟨?_, harrives.mem⟩
  cases harrives with
  | @back stored hmem hnumber hinactive hstatus hprior c =>
    refine updateSerial_named (u := ⟨⟩) h ?_ rfl
    intro q hq _
    show ∃ p ∈ db.products, p.id = q.productId
    exact h.product_of_serial hq
  | new hunused c productId now =>
    refine h.withSerial ⟨product, hproduct, hid.symm⟩ ?_
    obtain ⟨seen, t₁, h₁, hx⟩ := Tx.bind_ok.mp hx
    obtain ⟨rfl, rfl⟩ := Tx.reads_ok.mp h₁
    have hnone : db.serialNumbered number = none := lookup_none.mpr hunused
    rw [hnone] at hx
    obtain ⟨c', t₂, h₂, hx⟩ := Tx.bind_ok.mp hx
    exact insertSerial_encodable hx

/-- One line of a manifest. -/
theorem receiveManifestItem_named (transferId : Nat) (item : ManifestItem) :
    Tx.Preserves Db.Named (receiveManifestItem rt now transferId item) := by
  intro db db' u h hx
  obtain ⟨p, t₁, h₁, hx⟩ := Tx.bind_ok.mp hx
  obtain ⟨s, t₂, h₂, hx⟩ := Tx.bind_ok.mp hx
  obtain ⟨row, t₃, h₃, hx⟩ := Tx.bind_ok.mp hx
  obtain ⟨-, rfl⟩ := Tx.pure_ok.mp hx
  obtain ⟨hproducts, hp⟩ := materializeProduct_named h h₁
  obtain ⟨hserials, hs⟩ := incomingSerial_named hproducts hp h₂
  obtain ⟨rfl, -, rfl⟩ := insertTransferItem_ok h₃
  exact hserials.withTransferItem ⟨s, hs, rfl, rfl⟩

/-- All lines of a manifest; `seen` are the numbers before. -/
theorem receiveManifest_named (transferId : Nat) (items : List Json) :
    ∀ seen, Tx.Preserves Db.Named (receiveManifest rt now transferId seen items) := by
  induction items with
  | nil => exact fun _ => .pure _
  | cons item items ih =>
    exact fun seen => .bind (.lift _) fun parsed =>
      .bind (receiveManifestItem_named _ _) fun _ => ih _

/-! ## Commands -/

/-- The product of an allocation is stored afterwards. -/
theorem allocatedProduct_named {a : AllocatedProduct} {p : Product} (h : db.Named)
    (hx : allocatedProduct rt a db = (.ok p, db')) : db'.Named ∧
      ∃ q ∈ db'.products, q.id = p.id := by
  obtain ⟨seen, t₁, h₁, hx⟩ := Tx.bind_ok.mp hx
  obtain ⟨rfl, rfl⟩ := Tx.reads_ok.mp h₁
  match hfound : matchingProducts db a.productCode with
  | [] =>
    rw [hfound] at hx
    have hnamed := insertProduct_named a.row db db' p h hx
    obtain ⟨-, -, rfl⟩ := insertProduct_ok hx
    exact ⟨hnamed, p, List.mem_append_right _ (List.mem_singleton_self _), rfl⟩
  | [stored] =>
    rw [hfound] at hx
    obtain ⟨_, t₂, h₂, hx⟩ := Tx.bind_ok.mp hx
    obtain ⟨-, rfl⟩ := Tx.lift_ok.mp h₂
    obtain ⟨_, t₃, h₃, hx⟩ := Tx.bind_ok.mp hx
    have hnamed := updateProduct_named _ db t₃ _ h h₃
    obtain rfl := updateProduct_ok h₃
    obtain ⟨rfl, rfl⟩ := Tx.pure_ok.mp hx
    have hstored : stored ∈ db.products := by
      have hmem : stored ∈ matchingProducts db a.productCode := by
        rw [hfound]
        exact List.mem_singleton_self _
      exact List.mem_of_mem_filter (List.mem_of_mem_take hmem)
    refine ⟨hnamed, _, mem_modifyRow.mpr ⟨stored, hstored, rfl⟩, ?_⟩
    split <;> split <;> rfl
  | _ :: _ :: _ =>
    rw [hfound] at hx
    exact absurd hx Tx.raise_ok

/-- `QR_ALLOCATED` keeps the names in order. -/
theorem applyQrAllocatedCommand_named (payload : List (PyStr × Json)) :
    Tx.Preserves Db.Named (applyQrAllocatedCommand rt st now payload) := by
  refine .bind (.lift _) fun _ => .bind (.lift _) fun _ => .bind (.lift _) fun _ =>
    .bind (.reads _) fun _ =>
    .bind (.lift _) fun _ => ?_
  intro db db' u h hx
  obtain ⟨stored, t, h₁, hx⟩ := Tx.bind_ok.mp hx
  obtain ⟨hnamed, hproduct⟩ := allocatedProduct_named h h₁
  -- The product of the new serials stays where it is.
  have hend := Tx.each_ok (I := fun t => t.Named ∧ ∃ q ∈ t.products, q.id = stored.id)
    (fun parsed _ t t' _ ht hround => by
      obtain ⟨s, t'', hinsert, hround⟩ := Tx.bind_ok.mp hround
      obtain ⟨-, rfl⟩ := Tx.pure_ok.mp hround
      have hnew := insertSerial_named ht.1 ht.2 hinsert
      obtain ⟨-, -, rfl⟩ := insertSerial_ok hinsert
      exact ⟨hnew, ht.2⟩)
    ⟨hnamed, hproduct⟩ hx
  exact hend.1

/-- `QR_REPLACE` keeps the names in order. -/
theorem applyQrReplaceCommand_named (payload : List (PyStr × Json)) (commandId : PyStr) :
    Tx.Preserves Db.Named (applyQrReplaceCommand st now uuid payload commandId) := by
  refine .bind (.lift _) fun _ => .bind (.lift _) fun request => .bind_reads ?_
  intro db db' u h hx
  obtain ⟨old, t₁, h₁, hreplaced⟩ := Tx.bind_ok.mp hx
  obtain ⟨hold, rfl⟩ := Tx.lift_ok.mp h₁
  obtain ⟨replacement, t₂, h₂, hupdated⟩ := Tx.bind_ok.mp hreplaced
  obtain ⟨_, t₃, h₃, hqueued⟩ := Tx.bind_ok.mp hupdated
  have hproduct : ∃ p ∈ db.products, p.id = old.productId := by
    unfold replaceable at hold
    split at hold
    next stored hfound =>
      have hstored : stored = old := by
        split at hold
        · split at hold
          · cases hold
          · exact Except.ok.inj hold
        · cases hold
      exact h.product_of_serial (hstored ▸ (lookup_some hfound).1)
    next => cases hold
  have hinserted := insertSerial_named h hproduct h₂
  obtain ⟨-, -, rfl⟩ := insertSerial_ok h₂
  have hretired : t₃.Named := by
    refine updateSerial_named hinserted ?_ h₃
    exact fun _ _ _ => hproduct
  refine named_of_keeps ?_ t₃ db' u hretired hqueued
  exact .bind (.reads _) fun _ => .bind (.lift _) fun _ => .bind (.lift _) fun _ =>
    .bind (enqueueOutboxEvent_keeps (fun _ _ _ => rfl) _ _ _ _) fun _ => .pure _

/-- `PRODUCT_UPSERT` keeps the names in order. -/
theorem applyProductUpsertCommand_named (payload : List (PyStr × Json)) :
    Tx.Preserves Db.Named (applyProductUpsertCommand rt st payload) := by
  refine .bind (.lift _) fun _ => .bind (.lift _) fun u => .bind (.reads _) fun db => ?_
  split
  · exact .bind (insertProduct_named _) fun _ => .pure _
  · exact updateProduct_named _
  · exact .raise _

/-- `TRANSFER_AVAILABLE` keeps the names in order. -/
theorem applyTransferAvailableCommand_named (payload : List (PyStr × Json)) :
    Tx.Preserves Db.Named (applyTransferAvailableCommand rt st now payload) := by
  intro db db' u h hx
  obtain ⟨data, manifest, -, rfl | ⟨incoming, transfer, -, -, -, hloop⟩⟩ :=
    applyTransferAvailableCommand_ok hx
  · exact h
  · have hstored : Db.Named { db with transfers := db.transfers ++ [transfer] } := h
    exact receiveManifest_named transfer.id manifest [] _ db' u hstored hloop

/-- Every command of Master keeps the names in order. -/
theorem applyMasterCommand_named (rt : Runtime) (st : Settings) (now : Instant) (uuid : PyStr)
    (command : List (PyStr × Json)) :
    Tx.Preserves Db.Named (applyMasterCommand rt st now uuid command) := by
  have hreceipt : ∀ payload,
      Tx.Preserves Db.Named (applyTransferReceiptCommand rt now payload) := by
    intro payload
    refine named_of_keeps (receipt_keeps updateTransferItem_names ?_ ?_ rt now payload)
    · exact fun _ => updateSerial_names fun _ => rfl
    · exact updateTransfer_keeps fun _ _ => rfl
  exact applyMasterCommand_preserves (fun _ _ h => h) applyTransferAvailableCommand_named hreceipt
    (fun payload => named_of_keeps (applyReceiptReviewCommand_keeps (fun _ _ => rfl) rt payload))
    applyQrAllocatedCommand_named applyQrReplaceCommand_named
      applyProductUpsertCommand_named command

/-! ## Runs -/

/-- Every run keeps the constraints and the names. -/
theorem stock_named {as : List StockAction} (hk : db.Keyed) (h : db.Named)
    (hexec : exec (stockMachine rt st) db as = some db') : db'.Keyed ∧ db'.Named := by
  refine keyed_invariant (I := Db.Named) (P := fun _ => True) ?_ ?_ ?_
    (fun _ _ => trivial) hk h hexec
  · exact fun c db db' _ hn hready hx => ready_named hn hready hx
  · intro m db db' u _ hn hx
    exact named_of_keeps (relocateStock_keeps movesSerials_names (fun _ _ => rfl) (fun _ _ => rfl)
      (fun _ _ => rfl) (fun _ _ => rfl) (fun _ _ _ => rfl) st m) db db' u hn hx
  · exact fun now uuid command db db' u _ _ hn hx =>
      applyMasterCommand_named rt st now uuid command db db' u hn hx

end SetuoraLite
