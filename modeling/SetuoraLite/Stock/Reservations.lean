import SetuoraLite.Stock.Lineage
import SetuoraLite.Stock.Names

/-!
# Reservations

Which serials a new transfer can take. A serial is `Free` when it is in stock and no
open outgoing transfer still waits for it; one that was received elsewhere and has come
back is free again. `addOutboundSerial` looks at the status of whole transfers: a serial
that is back while other serials of its old transfer are still on their way is `Stuck`,
because that transfer is open.

`stock_on_hand_transferable`: in every state that is reached, a serial is accepted exactly
when it is free, unless it is stuck; and then it is not.
-/

namespace SetuoraLite

open Lib

variable {rt : Runtime} {st : Settings} {db db' : Db}

/-- The item is one of an open outgoing transfer. -/
def OpenOutbound (db : Db) (i : LocalTransferItem) : Prop :=
  ∃ t ∈ db.transfers, t.id = i.transferId ∧ t.direction = .outbound ∧
    t.status ∈ openOutboundStatuses

instance decidableOpenOutbound (i : LocalTransferItem) : Decidable (OpenOutbound db i) :=
  inferInstanceAs (Decidable (∃ t ∈ db.transfers, _))

/-- The serial is in stock, and no open outgoing transfer waits for it to be received. -/
def Free (db : Db) (s : Serial) : Prop :=
  s.active = true ∧ s.status = .inStock ∧
    ∀ i ∈ db.transferItems, i.serialId = some s.id → OpenOutbound db i → i.received = true

instance decidableFree (s : Serial) : Decidable (Free db s) :=
  inferInstanceAs (Decidable (_ ∧ _ ∧ ∀ i ∈ db.transferItems, _))

/-- The serial is free, but a transfer that it was received from is still open. -/
def Stuck (db : Db) (s : Serial) : Prop :=
  Free db s ∧ ∃ i ∈ db.transferItems, i.serialId = some s.id ∧ OpenOutbound db i

/-- A transfer takes the serial that a text names. -/
def Accepts (db : Db) (transferId : Nat) (text : PyStr) : Prop :=
  ((addOutboundSerial transferId text).serve commitStock db).1 = .ok ⟨⟩

instance decidableAccepts (transferId : Nat) (text : PyStr) :
    Decidable (Accepts db transferId text) :=
  match h : ((addOutboundSerial transferId text).serve commitStock db).1 with
  | .ok _ => .isTrue h
  | .error _ => .isFalse fun hok => nomatch h.symm.trans hok

/-! ## What the request looks at -/

/-- No item reserves the unit. -/
theorem reservedItem_none {serialId : Nat} : reservedItem db serialId = none ↔
    ∀ i ∈ db.transferItems, i.serialId = some serialId → ¬ OpenOutbound db i := by
  unfold reservedItem OpenOutbound
  rw [List.find?_eq_none]
  constructor
  · rintro h i hi hserial ⟨t, ht, hid, hdirection, hstatus⟩
    apply h i hi
    simp only [Bool.and_eq_true, decide_eq_true_eq, List.any_eq_true]
    exact ⟨hserial, t, ht, ⟨hid, hdirection⟩, hstatus⟩
  · intro h i hi hreserves
    simp only [Bool.and_eq_true, decide_eq_true_eq, List.any_eq_true] at hreserves
    obtain ⟨hserial, t, ht, ⟨hid, hdirection⟩, hstatus⟩ := hreserves
    exact h i hi hserial ⟨t, ht, hid, hdirection, hstatus⟩

/-- The serial of a number is in stock, and no item of an open outgoing transfer is for it. -/
def Unreserved (db : Db) (number : PyStr) : Prop :=
  ∃ s, db.serialNumbered number = some s ∧ s.active = true ∧ s.status = .inStock ∧
    reservedItem db s.id = none

/-- An item whose number is new to the transfer is stored. -/
theorem insertTransferItem_stores {row : Nat → LocalTransferItem} {i : LocalTransferItem}
    (hi : row (nextId (·.id) db.transferItems) = i)
    (hencodable : encodable [i.manifestSerialNumber, i.productCode, i.productName] = true)
    (hunused : ¬ ∃ q ∈ db.transferItems, q.transferId = i.transferId ∧
      q.manifestSerialNumber = i.manifestSerialNumber) :
    insertTransferItem row db = (.ok i, { db with transferItems := db.transferItems ++ [i] }) := by
  subst hi
  refine Tx.bind_ok.mpr ⟨db, db, rfl, ?_⟩
  refine Tx.bind_ok.mpr ⟨⟨⟩, db, Tx.raiseIf_ok.mpr ⟨?_, rfl⟩, ?_⟩
  · intro hraises
    rw [hencodable] at hraises
    cases hraises
  · exact Tx.bind_ok.mpr ⟨⟨⟩, db, Tx.raiseIf_ok.mpr ⟨hunused, rfl⟩, rfl⟩

/-- The item of a serial that is not reserved can be stored: its texts were stored before,
and the transfer, which is open, has no item under the number. -/
theorem addTransferItem_stores (hk : db.Keyed) (hn : db.Named) {t : LocalTransfer}
    (ht : t ∈ db.transfers) (hdirection : t.direction = .outbound) (hdraft : t.status = .draft)
    {s : Serial} (hs : s ∈ db.serials) (hreserved : reservedItem db s.id = none) {p : Product}
    (hp : p ∈ db.products) :
    (commitStock (.addTransferItem (transferItemRow t.id s p 0)) db).1 = .ok ⟨⟩ := by
  have hencodable : encodable [s.serialNumber, p.productCode, p.productName] = true := by
    have hserial := hn.serial_encodable hs
    have hproduct := hn.product_encodable hp
    simp only [encodable, List.all_cons, List.all_nil, Bool.and_true, Bool.and_eq_true]
      at hserial hproduct ⊢
    exact ⟨hserial, hproduct⟩
  have hunused : ¬ ∃ i ∈ db.transferItems, i.transferId = t.id ∧
      i.manifestSerialNumber = s.serialNumber := by
    rintro ⟨i, hi, htransfer, hnumber⟩
    have hserial := hn.item_serialId hk hi hs hnumber
    have hopen : t.status ∈ openOutboundStatuses := by
      rw [hdraft]
      exact List.mem_cons_self
    exact reservedItem_none.mp hreserved i hi hserial ⟨t, ht, htransfer.symm, hdirection, hopen⟩
  have hinsert : insertTransferItem
      (fun id => { transferItemRow t.id s p 0 with id := id }) db = _ :=
    insertTransferItem_stores rfl hencodable hunused
  have hwrites : writesOf (.addTransferItem (transferItemRow t.id s p 0)) db = (.ok ⟨⟩, _) :=
    Tx.bind_ok.mpr ⟨_, _, hinsert, Tx.pure_ok.mpr ⟨rfl, rfl⟩⟩
  exact congrArg Prod.fst (Tx.atomically_ok.mpr hwrites)

theorem getTransfer_serves {P : LoadedTransfer → Db → Prop} {E : PyError → Db → Prop}
    {t : LocalTransfer} (ht : lookup (·.id) t.id db.transfers = some t)
    (h : ∀ loaded : LoadedTransfer, loaded.transfer = t → P loaded db) :
    (getTransfer t.id).Serves commitStock P E db := by
  apply Request.Serves.bind_reads
  rw [ht]
  apply Request.Serves.bind_lift
  · intro e he
    cases he
  · intro row hrow
    obtain rfl := Except.ok.inj hrow
    exact Request.Serves.bind_reads (Request.Serves.bind_reads (Request.Serves.pure (h _ rfl)))

/-- A draft takes exactly the serials that are not reserved. -/
theorem addOutboundSerial_serves (hk : db.Keyed) (hn : db.Named) {t : LocalTransfer}
    (ht : t ∈ db.transfers) (hdirection : t.direction = .outbound) (hdraft : t.status = .draft)
    (text : PyStr) :
    (addOutboundSerial t.id text).Serves commitStock
      (fun _ _ => Unreserved db (normalizeSerial text))
      (fun _ _ => ¬ Unreserved db (normalizeSerial text)) db := by
  refine (getTransfer_serves (P := fun loaded s => loaded.transfer = t ∧ s = db)
    (lookup_of_mem hk.transfers ht) fun loaded h => ⟨h, rfl⟩).bind fun loaded s hloaded => ?_
  obtain ⟨hrow, rfl⟩ := hloaded
  dsimp only
  rw [hrow]
  apply Request.Serves.bind_lift
  · intro e he
    unfold resolveTransfer at he
    rw [if_neg (not_not.mpr hdirection)] at he
    cases he
  intro _ _
  refine Request.Serves.bind_raiseIf (fun hstatus => absurd hdraft hstatus) fun _ => ?_
  apply Request.Serves.bind_reads
  cases hfound : s.serialNumbered (normalizeSerial text) with
  | none =>
    rintro ⟨q, hq, -⟩
    rw [hfound] at hq
    cases hq
  | some q =>
    have hq : q ∈ s.serials := (lookup_some hfound).1
    -- The serial that the request looks at is the only one with the number.
    have honly : Unreserved s (normalizeSerial text) → q.active = true ∧ q.status = .inStock ∧
        reservedItem s q.id = none := by
      rintro ⟨q', hq', hfacts⟩
      obtain rfl := Option.some.inj (hfound.symm.trans hq')
      exact hfacts
    apply Request.Serves.bind_lift
    · intro e he
      cases he
    intro q' hq'
    obtain rfl := Except.ok.inj hq'
    refine Request.Serves.bind_raiseIf (fun hstock hun => ?_) fun hstock => ?_
    · rcases hstock with hactive | hstatus
      · exact absurd ((honly hun).1.symm.trans hactive) (by decide)
      · exact hstatus (honly hun).2.1
    apply Request.Serves.bind_reads
    refine Request.Serves.bind_raiseIf (fun hhere hun => ?_) fun _ => ?_
    · obtain ⟨i, hi, -⟩ := hhere
      rw [(honly hun).2.2] at hi
      cases hi
    refine Request.Serves.bind_raiseIf (fun helsewhere hun => ?_) fun hreserved => ?_
    · exact helsewhere (honly hun).2.2
    have hnone : reservedItem s q.id = none := not_not.mp hreserved
    apply Request.Serves.bind_reads
    obtain ⟨p, hp, hid⟩ := hn.product_of_serial hq
    have hproduct : s.product q.productId = some p := hid ▸ lookup_of_mem hk.products hp
    rw [hproduct]
    apply Request.Serves.bind_lift
    · intro e he
      cases he
    intro p' hp'
    obtain rfl := Except.ok.inj hp'
    obtain ⟨hactive, hstatus⟩ := not_or.mp hstock
    refine Request.Serves.commits (fun _ _ => ?_) fun e s' hraised => ?_
    · exact ⟨q, hfound, by simpa using hactive, not_not.mp hstatus, hnone⟩
    · have hstored := addTransferItem_stores hk hn ht hdirection hdraft hq hnone hp
      rw [hraised] at hstored
      cases hstored

theorem accepts_iff (hk : db.Keyed) (hn : db.Named) {t : LocalTransfer} (ht : t ∈ db.transfers)
    (hdirection : t.direction = .outbound) (hdraft : t.status = .draft) (text : PyStr) :
    Accepts db t.id text ↔ Unreserved db (normalizeSerial text) := by
  have hserves := addOutboundSerial_serves hk hn ht hdirection hdraft text
  unfold Request.Serves at hserves
  unfold Accepts
  generalize (addOutboundSerial t.id text).serve commitStock db = outcome at hserves ⊢
  obtain ⟨r, t⟩ := outcome
  cases r with
  | ok u => exact ⟨fun _ => hserves, fun _ => rfl⟩
  | error e =>
    constructor
    · intro h
      cases h
    · exact fun h => absurd h hserves

/-! ## Every run -/

/-- In every state that is reached and for every outgoing draft: a serial is accepted iff
it is free, exactly when it is not stuck. -/
theorem stock_on_hand_transferable (rt : Runtime) (st : Settings) {start : Db}
    (hkeyed : start.Keyed) (hnamed : start.Named) (as : List StockAction) (db : Db)
    (hexec : exec (stockMachine rt st) start as = some db) (t : LocalTransfer)
    (ht : t ∈ db.transfers) (hdirection : t.direction = .outbound) (hdraft : t.status = .draft)
    (text : PyStr) :
    (Accepts db t.id text ↔ ∃ s ∈ db.serialNumbered (normalizeSerial text), Free db s) ↔
      ¬ ∃ s ∈ db.serialNumbered (normalizeSerial text), Stuck db s := by
  obtain ⟨hk, hn⟩ := stock_named hkeyed hnamed hexec
  rw [accepts_iff hk hn ht hdirection hdraft text]
  constructor
  · rintro hiff ⟨s, hs, hfree, i, hi, hserial, hopen⟩
    obtain ⟨s', hs', -, -, hnone⟩ := hiff.mpr ⟨s, hs, hfree⟩
    obtain rfl := Option.some.inj (hs'.symm.trans hs)
    exact reservedItem_none.mp hnone i hi hserial hopen
  · intro hstuck
    constructor
    · rintro ⟨s, hs, hactive, hstatus, hnone⟩
      exact ⟨s, hs, hactive, hstatus, fun i hi hserial hopen =>
        absurd hopen (reservedItem_none.mp hnone i hi hserial)⟩
    · rintro ⟨s, hs, hfree⟩
      refine ⟨s, hs, hfree.1, hfree.2.1, reservedItem_none.mpr fun i hi hserial hopen => ?_⟩
      exact hstuck ⟨s, hs, hfree, i, hi, hserial, hopen⟩

/-- Who works at the node. -/
def storeClerk : User := ⟨1, py "asha"⟩

/-- A node with two units in stock. -/
def lampsDb : Db :=
  { labelledDb with
    serials := [labelledUnit, { labelledUnit with id := 2, serialNumber := py "LAMP-2" }] }

theorem lampsDb_valid : lampsDb.Keyed ∧ lampsDb.Named := by
  refine ⟨?_, ?_⟩ <;> constructor <;> decide +kernel

/-- The destination has received the first unit. -/
def firstReceived : List (PyStr × Json) :=
  [(py "command_id", .str (py "2")), (py "command_type", .str (py "TRANSFER_RECEIPT")),
    (py "payload", .obj [(py "transfer_uuid", .str (py "T-1")),
      (py "received_serial_numbers", .arr [.str (py "LAMP-1")])])]

/-- The destination sends it back. -/
def firstSentBack : List (PyStr × Json) :=
  [(py "command_id", .str (py "3")), (py "command_type", .str (py "TRANSFER_AVAILABLE")),
    (py "payload", .obj [(py "transfer_uuid", .str (py "T-2")),
      (py "source_franchise_code", .str (py "NORTH")),
      (py "items", .arr [.obj [(py "serial_number", .str (py "LAMP-1")),
        (py "product_code", .str (py "LAMP")), (py "product_name", .str (py "Lamp")),
        (py "hsn", .str (py "9405")), (py "unit", .str (py "Pcs")), (py "gst_rate", .int 0)]])])]

/-- Two units leave, one of them comes back and is received, and a new draft is opened. -/
def lampReturns : List StockAction :=
  [.order (.openTransfer storeClerk (py "NORTH") none (py "T-1")),
    .order (.addSerial 1 (py "LAMP-1")), .order (.addSerial 1 (py "LAMP-2")),
    .order (.dispatch 1 ⟨storeClerk, 63900000000000000, py "11111111-1111-4111-8111-111111111112"⟩),
    .command 63900000000000001 (py "22222222-2222-4222-8222-222222222222") firstReceived,
    .command 63900000000000002 (py "22222222-2222-4222-8222-222222222223") firstSentBack,
    .order (.scanReceipt 2 (py "LAMP-1") 63900000000000003),
    .order (.receive 2 ⟨storeClerk, 63900000000000004, py "11111111-1111-4111-8111-111111111113"⟩),
    .order (.openTransfer storeClerk (py "NORTH") none (py "T-3"))]

/-- The unit that came back is free, and the new draft does not take it. -/
theorem returned_lamp_refused :
    lampsDb.Keyed ∧ lampsDb.Named ∧
    ∃ db, exec (stockMachine .plain homeSettings) lampsDb lampReturns = some db ∧
      (∃ t ∈ db.transfers, t.id = 3 ∧ t.direction = .outbound ∧ t.status = .draft) ∧
      (∃ s ∈ db.serialNumbered (normalizeSerial (py "LAMP-1")), Free db s) ∧
      ¬ Accepts db 3 (py "LAMP-1") := by
  have hrun : (exec (stockMachine .plain homeSettings) lampsDb lampReturns).map (fun db => decide
      ((∃ t ∈ db.transfers, t.id = 3 ∧ t.direction = .outbound ∧ t.status = .draft) ∧
        (∃ s ∈ db.serialNumbered (normalizeSerial (py "LAMP-1")), Free db s) ∧
        ¬ Accepts db 3 (py "LAMP-1"))) = some true := by
    decide +kernel
  obtain ⟨db, hdb, hfacts⟩ := Option.map_eq_some_iff.mp hrun
  exact ⟨lampsDb_valid.1, lampsDb_valid.2, db, hdb, of_decide_eq_true hfacts⟩

/-- The guarantee for a unit that never left. -/
theorem stock_on_hand_transferable_lamp :
    ∃ db, exec (stockMachine .plain homeSettings) lampsDb
        [.order (.openTransfer storeClerk (py "NORTH") none (py "T-1"))] = some db ∧
      Accepts db 1 (py "LAMP-1") ∧
      ((Accepts db 1 (py "LAMP-1") ↔
        ∃ s ∈ db.serialNumbered (normalizeSerial (py "LAMP-1")), Free db s) ↔
        ¬ ∃ s ∈ db.serialNumbered (normalizeSerial (py "LAMP-1")), Stuck db s) := by
  have hrun : (exec (stockMachine .plain homeSettings) lampsDb
      [.order (.openTransfer storeClerk (py "NORTH") none (py "T-1"))]).map (fun db => decide
        (Accepts db 1 (py "LAMP-1") ∧
          ∃ t ∈ db.transfers, t.id = 1 ∧ t.direction = .outbound ∧
          t.status = .draft)) = some true := by
    decide +kernel
  obtain ⟨db, hdb, hfacts⟩ := Option.map_eq_some_iff.mp hrun
  obtain ⟨haccepts, t, ht, hid, hdirection, hdraft⟩ := of_decide_eq_true hfacts
  refine ⟨db, hdb, haccepts, ?_⟩
  rw [← hid]
  exact stock_on_hand_transferable .plain homeSettings lampsDb_valid.1 lampsDb_valid.2 _ db hdb t ht
    hdirection hdraft (py "LAMP-1")

end SetuoraLite
