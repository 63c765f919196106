import SetuoraLite.Stock.Frames

/-!
# What Master's transfer commands write

The two commands in terms of the tables. An item of an incoming manifest brings a serial
that is new, or one that left this node in a transfer that was received: `Arrives` is
the only way a manifest touches a serial. A receipt marks the items it names and makes
their serials inactive.
-/

namespace SetuoraLite

open Lib

variable {rt : Runtime} {st : Settings} {now : Instant} {db db' : Db}

/-! ## Serials that arrive -/

/-- A serial arrives under a number: the stored one comes back, or a new one is stored. -/
inductive Arrives (db : Db) (number : PyStr) : Serial → List Serial → Prop
  | back {stored : Serial} (hmem : stored ∈ db.serials) (hnumber : stored.serialNumber = number)
      (hinactive : stored.active = false) (hstatus : stored.status = .inTransit)
      (hprior : priorCompletedOutbound db stored.id = true) (c : SerialSnapshot) :
      Arrives db number (c.over stored)
        (modifyRow (·.id) stored.id (Serial.changed c.over) db.serials)
  | new (hunused : ∀ s ∈ db.serials, s.serialNumber ≠ number) (c : SerialSnapshot) (productId : Nat)
      (now : Instant) :
      Arrives db number (c.row number productId now (nextId (·.id) db.serials))
        (db.serials ++ [c.row number productId now (nextId (·.id) db.serials)])

/-- The unit of a line is one that comes back, or a new one. -/
theorem incomingSerial_ok {number : PyStr} {product : Product} {snapshot : List (PyStr × Json)}
    {s : Serial} (h : incomingSerial rt now number product snapshot db = (.ok s, db')) :
    ∃ serials, Arrives db number s serials ∧ db' = { db with serials := serials } := by
  obtain ⟨seen, t₁, h₁, h⟩ := Tx.bind_ok.mp h
  obtain ⟨rfl, rfl⟩ := Tx.reads_ok.mp h₁
  cases hfound : db.serialNumbered number with
  | some stored =>
    rw [hfound] at h
    obtain ⟨hmem, hnumber⟩ := lookup_some hfound
    obtain ⟨seen, t₂, h₂, h⟩ := Tx.bind_ok.mp h
    obtain ⟨rfl, rfl⟩ := Tx.reads_ok.mp h₂
    obtain ⟨_, t₃, h₃, h⟩ := Tx.bind_ok.mp h
    obtain ⟨hreturning, rfl⟩ := Tx.raiseIf_ok.mp h₃
    obtain ⟨_, t₄, h₄, h⟩ := Tx.bind_ok.mp h
    obtain ⟨-, rfl⟩ := Tx.raiseIf_ok.mp h₄
    obtain ⟨c, t₅, h₅, h⟩ := Tx.bind_ok.mp h
    obtain ⟨-, rfl⟩ := Tx.lift_ok.mp h₅
    obtain ⟨_, t₆, h₆, h⟩ := Tx.bind_ok.mp h
    obtain ⟨-, rfl⟩ := Tx.raiseIf_ok.mp h₆
    obtain ⟨_, t₇, h₇, h⟩ := Tx.bind_ok.mp h
    obtain rfl := Tx.modify_ok.mp h₇
    obtain ⟨rfl, rfl⟩ := Tx.pure_ok.mp h
    obtain ⟨hactive, hstatus, hprior⟩ : stored.active = false ∧ stored.status = .inTransit ∧
        priorCompletedOutbound db stored.id = true := by simpa using hreturning
    exact ⟨_, .back hmem hnumber hactive hstatus hprior c, rfl⟩
  | none =>
    rw [hfound] at h
    obtain ⟨c, t₂, h₂, h⟩ := Tx.bind_ok.mp h
    obtain ⟨-, rfl⟩ := Tx.lift_ok.mp h₂
    obtain ⟨rfl, hfresh, rfl⟩ := insertSerial_ok h
    exact ⟨_, .new hfresh c product.id now, rfl⟩

namespace Arrives

variable {number : PyStr} {s : Serial} {serials : List Serial}

/-- The unit that arrives has the number of the line. -/
theorem serialNumber (h : Arrives db number s serials) : s.serialNumber = number := by
  cases h with
  | back _ hnumber => exact hnumber
  | new => rfl

theorem mem (h : Arrives db number s serials) : s ∈ serials := by
  cases h with
  | @back stored hmem _ _ _ _ c => exact mem_modifyRow.mpr ⟨stored, hmem, (if_pos rfl).symm⟩
  | new => exact List.mem_append_right _ (List.mem_singleton_self _)

/-- No serial arrives by the products there are. -/
theorem of_products {products : List Product}
    (h : Arrives { db with products := products } number s serials) :
    Arrives db number s serials := by
  cases h with
  | back hmem hnumber hinactive hstatus hprior c =>
    exact @Arrives.back db number _ hmem hnumber hinactive hstatus hprior c
  | new hunused c productId now => exact @Arrives.new db number hunused c productId now

/-- The ids and numbers that are in use afterwards. -/
theorem keys (h : Arrives db number s serials) :
    (serials.map (·.id) = db.serials.map (·.id) ∧
        serials.map (·.serialNumber) = db.serials.map (·.serialNumber)) ∨
      serials = db.serials ++ [s] ∧ s.id = nextId (·.id) db.serials ∧
        ∀ q ∈ db.serials, q.serialNumber ≠ s.serialNumber := by
  cases h with
  | back => exact Or.inl ⟨map_modifyRow fun _ _ _ => rfl, map_modifyRow fun _ _ _ => rfl⟩
  | new hunused => exact Or.inr ⟨rfl, rfl, hunused⟩

end Arrives

/-! ## The manifest -/

theorem materializeProduct_ok {snapshot : List (PyStr × Json)} {p : Product}
    (h : materializeProduct rt snapshot db = (.ok p, db')) :
    (p ∈ db.products ∧ db' = db) ∨
      p.id = nextId (·.id) db.products ∧ db' = { db with products := db.products ++ [p] } := by
  obtain ⟨_, t₁, h₁, h⟩ := Tx.bind_ok.mp h
  obtain ⟨-, rfl⟩ := Tx.raiseIf_ok.mp h₁
  obtain ⟨seen, t₂, h₂, h⟩ := Tx.bind_ok.mp h
  obtain ⟨rfl, rfl⟩ := Tx.reads_ok.mp h₂
  cases hfound : lookup (·.productCode) (snapshotCode rt snapshot) db.products with
  | some stored =>
    rw [hfound] at h
    obtain ⟨_, t₃, h₃, h⟩ := Tx.bind_ok.mp h
    obtain ⟨-, rfl⟩ := Tx.lift_ok.mp h₃
    obtain ⟨rfl, rfl⟩ := Tx.pure_ok.mp h
    exact Or.inl ⟨(lookup_some hfound).1, rfl⟩
  | none =>
    rw [hfound] at h
    obtain ⟨row, t₃, h₃, h⟩ := Tx.bind_ok.mp h
    obtain ⟨hrow, rfl⟩ := Tx.lift_ok.mp h₃
    obtain ⟨rfl, -, rfl⟩ := insertProduct_ok h
    refine Or.inr ⟨?_, rfl⟩
    unfold snapshotProduct at hrow
    obtain ⟨_, -, hrow⟩ := except_bind_ok.mp hrow
    obtain ⟨_, -, hrow⟩ := except_bind_ok.mp hrow
    obtain ⟨_, -, hrow⟩ := except_bind_ok.mp hrow
    obtain ⟨_, -, hrow⟩ := except_bind_ok.mp hrow
    obtain ⟨_, -, hrow⟩ := except_bind_ok.mp hrow
    obtain ⟨_, -, hrow⟩ := except_bind_ok.mp hrow
    obtain ⟨_, -, hrow⟩ := except_bind_ok.mp hrow
    obtain rfl := Except.ok.inj hrow
    rfl

/-- One item of a manifest: its product, its serial and a row for it. -/
structure ManifestItemReceived (transferId : Nat) (number : PyStr) (db db' : Db) : Prop where
  rows : ∃ products serials s p, Arrives db number s serials ∧
    (products = db.products ∨ p.id = nextId (·.id) db.products ∧ products = db.products ++ [p]) ∧
    db' = { db with
      products := products
      serials := serials
      transferItems := db.transferItems ++
        [transferItemRow transferId s p (nextId (·.id) db.transferItems)] }
  fresh : ∀ i ∈ db.transferItems, i.transferId = transferId → i.manifestSerialNumber ≠ number

theorem receiveManifestItem_ok {transferId : Nat} {item : ManifestItem} {u : PUnit}
    (h : receiveManifestItem rt now transferId item db = (.ok u, db')) :
    ManifestItemReceived transferId item.serialNumber db db' := by
  obtain ⟨p, t₁, h₁, h⟩ := Tx.bind_ok.mp h
  obtain ⟨s, t₂, h₂, h⟩ := Tx.bind_ok.mp h
  obtain ⟨row, t₃, h₃, h⟩ := Tx.bind_ok.mp h
  obtain ⟨-, rfl⟩ := Tx.pure_ok.mp h
  obtain ⟨serials, harrives, rfl⟩ := incomingSerial_ok h₂
  obtain ⟨rfl, hfresh, rfl⟩ := insertTransferItem_ok h₃
  have hnumber : s.serialNumber = item.serialNumber := harrives.serialNumber
  have hrow : ∀ i ∈ t₁.transferItems, i.transferId = transferId →
      i.manifestSerialNumber ≠ item.serialNumber := by
    intro i hi ht
    exact hnumber ▸ hfresh i hi ht
  rcases materializeProduct_ok h₁ with ⟨-, rfl⟩ | ⟨hid, rfl⟩
  · exact ⟨⟨_, serials, s, p, harrives, Or.inl rfl, rfl⟩, hrow⟩
  · refine ⟨⟨_, serials, s, p, ?_, Or.inr ⟨hid, rfl⟩, rfl⟩, hrow⟩
    exact harrives.of_products

/-- The manifest loop keeps what each of its items keeps. -/
theorem receiveManifest_invariant {transferId : Nat} {I : Db → Prop}
    (hstep : ∀ number db db', I db → ManifestItemReceived transferId number db db' → I db')
    (items : List Json) :
    ∀ seen, Tx.Preserves I (receiveManifest rt now transferId seen items) := by
  induction items with
  | nil => exact fun _ => .pure _
  | cons item items ih =>
    refine fun seen => .bind (.lift _) fun parsed => .bind ?_ fun _ => ih _
    intro db db' u hI h
    exact hstep parsed.serialNumber db db' hI (receiveManifestItem_ok h)

/-- An incoming transfer is known already, or it is stored and its manifest is received. -/
theorem applyTransferAvailableCommand_ok {payload : List (PyStr × Json)} {u : PUnit}
    (h : applyTransferAvailableCommand rt st now payload db = (.ok u, db')) :
    ∃ data manifest, unwrapTransferPayload payload = .ok (data, manifest) ∧
      (db' = db ∨ ∃ incoming : IncomingTransfer, ∃ transfer : LocalTransfer,
        parseIncoming rt st (transferUuidOf rt data payload) data manifest = .ok incoming ∧
        transfer = incoming.row (transferUuidOf rt data payload) (nextId (·.id) db.transfers) ∧
        (∀ t ∈ db.transfers, t.transferUuid ≠ transfer.transferUuid) ∧
        receiveManifest rt now transfer.id [] manifest
          { db with transfers := db.transfers ++ [transfer] } = (.ok u, db')) := by
  obtain ⟨⟨data, manifest⟩, t₁, h₁, h⟩ := Tx.bind_ok.mp h
  obtain ⟨hunwrap, rfl⟩ := Tx.lift_ok.mp h₁
  obtain ⟨_, t₂, h₂, h⟩ := Tx.bind_ok.mp h
  obtain ⟨-, rfl⟩ := Tx.raiseIf_ok.mp h₂
  obtain ⟨_, t₃, h₃, h⟩ := Tx.bind_ok.mp h
  obtain ⟨-, rfl⟩ := Tx.raiseIf_ok.mp h₃
  obtain ⟨seen, t₄, h₄, h⟩ := Tx.bind_ok.mp h
  obtain ⟨rfl, rfl⟩ := Tx.reads_ok.mp h₄
  refine ⟨data, manifest, hunwrap, ?_⟩
  cases hfound : db.transferNumbered (transferUuidOf rt data payload) with
  | some existing =>
    rw [hfound] at h
    obtain ⟨-, rfl⟩ := Tx.raiseIf_ok.mp h
    exact Or.inl rfl
  | none =>
    rw [hfound] at h
    obtain ⟨incoming, t₅, h₅, h⟩ := Tx.bind_ok.mp h
    obtain ⟨hincoming, rfl⟩ := Tx.lift_ok.mp h₅
    obtain ⟨transfer, t₆, h₆, h⟩ := Tx.bind_ok.mp h
    obtain ⟨htransfer, hfresh, rfl⟩ := insertTransfer_ok h₆
    exact Or.inr ⟨incoming, transfer, hincoming, htransfer, hfresh, h⟩

/-! ## Receipts -/

/-- A receipt found its transfer, marked the items it names and settled the transfer. -/
theorem applyTransferReceiptCommand_ok {payload : List (PyStr × Json)} {u : PUnit}
    (h : applyTransferReceiptCommand rt now payload db = (.ok u, db')) :
    ∃ data manifest transfer received db₁, unwrapTransferPayload payload = .ok (data, manifest) ∧
      receiptTransfer db (transferUuidOf rt data payload) = .ok transfer ∧
      (∀ number ∈ received,
        number ∈ (db.transferItemsOf transfer.id).map (·.manifestSerialNumber)) ∧
      (∃ named complete,
        receivedSerialsFromPayload rt data payload manifest = .ok (named, complete) ∧
        received = if complete = true ∧ named = [] then
          (db.transferItemsOf transfer.id).map (·.manifestSerialNumber) else named) ∧
      Tx.each (acknowledgeItem now received) (db.transferItemsOf transfer.id) db = (.ok ⟨⟩, db₁) ∧
      db' = { db₁ with
        transfers := modifyRow (·.id) transfer.id
          (LocalTransfer.changed (LocalTransfer.settled now (db₁.transferItemsOf transfer.id)))
          db₁.transfers } := by
  -- Down the checks of the handler; none of them writes.
  obtain ⟨⟨data, manifest⟩, t₁, h₁, h⟩ := Tx.bind_ok.mp h
  obtain ⟨hunwrap, rfl⟩ := Tx.lift_ok.mp h₁
  obtain ⟨_, t₂, h₂, h⟩ := Tx.bind_ok.mp h
  obtain ⟨-, rfl⟩ := Tx.raiseIf_ok.mp h₂
  obtain ⟨_, t₃, h₃, h⟩ := Tx.bind_ok.mp h
  obtain ⟨-, rfl⟩ := Tx.raiseIf_ok.mp h₃
  obtain ⟨seen, t₄, h₄, h⟩ := Tx.bind_ok.mp h
  obtain ⟨rfl, rfl⟩ := Tx.reads_ok.mp h₄
  obtain ⟨transfer, t₅, h₅, h⟩ := Tx.bind_ok.mp h
  obtain ⟨htransfer, rfl⟩ := Tx.lift_ok.mp h₅
  obtain ⟨⟨named, complete⟩, t₆, h₆, h⟩ := Tx.bind_ok.mp h
  obtain ⟨hnamed, rfl⟩ := Tx.lift_ok.mp h₆
  obtain ⟨_, t₇, h₇, h⟩ := Tx.bind_ok.mp h
  obtain ⟨hunknown, rfl⟩ := Tx.raiseIf_ok.mp h₇
  -- The last two steps mark the items and read the transfer again.
  obtain ⟨_, t₈, h₈, h⟩ := Tx.bind_ok.mp h
  obtain ⟨seen, t₉, h₉, h⟩ := Tx.bind_ok.mp h
  obtain ⟨rfl, rfl⟩ := Tx.reads_ok.mp h₉
  refine ⟨data, manifest, transfer, _, t₈, hunwrap, htransfer, ?_,
    ⟨named, complete, hnamed, rfl⟩, h₈,
    (Tx.modify_ok.mp h).symm⟩
  intro number hnumber
  by_contra hout
  exact hunknown (List.ne_nil_of_mem (List.mem_filter.mpr ⟨hnumber, by simpa using hout⟩))

/-- One item of a receipt, as rows. -/
theorem acknowledgeItem_ok {received : List PyStr} {i : LocalTransferItem} {u : PUnit}
    (h : acknowledgeItem now received i db = (.ok u, db')) :
    (i.manifestSerialNumber ∈ received ∧ i.received = false ∧ db' = { db with
        transferItems := modifyRow (·.id) i.id
          (LocalTransferItem.changed (LocalTransferItem.acknowledged now)) db.transferItems
        serials := i.serialId.elim db.serials fun id =>
          modifyRow (·.id) id (Serial.changed fun s => { s with active := false }) db.serials }) ∨
      ¬ (i.manifestSerialNumber ∈ received ∧ i.received = false) ∧ db' = db := by
  unfold acknowledgeItem at h
  by_cases hnamed : i.manifestSerialNumber ∈ received ∧ i.received = false
  · rw [if_pos hnamed] at h
    obtain ⟨_, t₁, h₁, h⟩ := Tx.bind_ok.mp h
    obtain rfl := Tx.modify_ok.mp h₁
    refine Or.inl ⟨hnamed.1, hnamed.2, ?_⟩
    cases hserial : i.serialId with
    | some id =>
      rw [hserial] at h
      exact (Tx.modify_ok.mp h).symm
    | none =>
      rw [hserial] at h
      exact ((Tx.pure_ok.mp h).2).symm
  · rw [if_neg hnamed] at h
    exact Or.inr ⟨hnamed, ((Tx.pure_ok.mp h).2).symm⟩

/-- A receipt marks items, makes serials inactive and settles the transfer: whatever does
not show that is kept. -/
theorem receipt_keeps {γ : Type} {f : Db → γ} (hi : MarksItems f)
    (hs : ∀ id, Tx.Keeps f (updateSerial id fun s => { s with active := false }))
    (ht : ∀ id change, Tx.Keeps f (updateTransfer id change)) (rt : Runtime) (now : Instant)
    (payload : List (PyStr × Json)) : Tx.Keeps f (applyTransferReceiptCommand rt now payload) := by
  have hitem : ∀ received i, Tx.Keeps f (acknowledgeItem now received i) := by
    intro received i
    refine .ite (.bind (hi _ _) fun _ => ?_) (.pure _)
    split
    · exact hs _
    · exact .pure _
  exact .bind (.lift _) fun _ => .bind (.raiseIf _ _) fun _ => .bind (.raiseIf _ _) fun _ =>
    .bind (.reads _) fun _ => .bind (.lift _) fun _ => .bind (.lift _) fun _ =>
      .bind (.raiseIf _ _) fun _ =>
      .bind (.each (hitem _) _) fun _ => .bind (.reads _) fun _ => ht _ _

end SetuoraLite
