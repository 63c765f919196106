import SetuoraLite.Stock.Deliveries
import SetuoraLite.Stock.Reservations
import SetuoraLite.Stock.Shipments

/-!
# Transfers over a run

The deliveries of a node are read off its tables and its outbox (`Db.deliveries`), and every
transaction is a step of them (`Shipment.deliveries`). So in every state that a run reaches
the outbox lists exactly what left and what arrived (`told_exactly`), the status of a
transfer says how much of it has arrived (`status_shows_items`), and the serials in transit
are those of the items on their way (`in_transit_iff`).
-/

namespace SetuoraLite

open Lib Deliveries

variable {rt : Runtime} {st : Settings} {db db' : Db}

/-! ## The deliveries of a node -/

/-- A transfer, as its deliveries see it. -/
def LocalTransfer.delivery (t : LocalTransfer) : Delivery :=
  ⟨t.id, t.transferUuid, t.direction, t.status, t.peerCode⟩

/-- An item, as a parcel. -/
def LocalTransferItem.parcel (i : LocalTransferItem) : Parcel :=
  ⟨i.id, i.transferId, i.serialId, i.manifestSerialNumber, i.received⟩

/-- The tables of a node, as deliveries. -/
def Db.deliveries (db : Db) : Deliveries where
  transfers := db.transfers.map (·.delivery)
  parcels := db.transferItems.map (·.parcel)
  road := {id | db.OnRoad id}
  told := ⟨db.announced, db.dispatches, db.reported⟩

/-- A parcel of a delivery is an item of a transfer. -/
theorem deliveries_of {t : Delivery} {p : Parcel} : db.deliveries.Of t p ↔
    ∃ q ∈ db.transfers, ∃ i, db.Lists q i ∧ q.delivery = t ∧ i.parcel = p := by
  constructor
  · intro ⟨ht, hp, hown⟩
    obtain ⟨q, hq, rfl⟩ := List.mem_map.mp ht
    obtain ⟨i, hi, rfl⟩ := List.mem_map.mp hp
    exact ⟨q, hq, i, ⟨hi, hown⟩, rfl, rfl⟩
  · intro ⟨q, hq, i, hi, ht, hp⟩
    subst ht hp
    exact ⟨List.mem_map_of_mem hq, List.mem_map_of_mem hi.1, hi.2⟩

/-- The items of a stored transfer. -/
theorem deliveries_of_row (hk : db.Keyed) {t : LocalTransfer} (ht : t ∈ db.transfers) {p : Parcel} :
    db.deliveries.Of t.delivery p ↔ ∃ i, db.Lists t i ∧ i.parcel = p := by
  rw [deliveries_of]
  constructor
  · intro ⟨q, hq, i, hi, he, hp⟩
    obtain rfl := hk.transfer_eq hq ht (congrArg Delivery.id he)
    exact ⟨i, hi, hp⟩
  · intro ⟨i, hi, hp⟩
    exact ⟨t, ht, i, hi, rfl, hp⟩

/-- The constraints of the database are those of the deliveries. -/
theorem deliveries_keys (hk : db.Keyed) (hn : db.Named) : db.deliveries.Keys := by
  constructor
  · show ((db.transfers.map (·.delivery)).map (·.id)).Nodup
    rw [List.map_map]
    exact hk.transfers
  · show ((db.transfers.map (·.delivery)).map (·.uuid)).Nodup
    rw [List.map_map]
    exact hk.transferUuids
  · show ((db.transferItems.map (·.parcel)).map fun p : Parcel => (p.deliveryId, p.number)).Nodup
    rw [List.map_map]
    exact hk.manifests
  · intro p hp
    obtain ⟨i, hi, rfl⟩ := List.mem_map.mp hp
    obtain ⟨s, -, hid, -⟩ := hn.serial_of_item hi
    exact ⟨s.id, hid⟩
  · intro p hp q hq he
    obtain ⟨i, hi, rfl⟩ := List.mem_map.mp hp
    obtain ⟨j, hj, rfl⟩ := List.mem_map.mp hq
    obtain ⟨s, hs, hid, hnumber⟩ := hn.serial_of_item hi
    obtain ⟨r, hr, hrid, hrnumber⟩ := hn.serial_of_item hj
    obtain rfl := hk.serial_eq hs hr (Option.some.inj (hid.symm.trans (he.trans hrid)))
    exact hnumber.trans hrnumber.symm
  · intro p hp
    obtain ⟨i, hi, rfl⟩ := List.mem_map.mp hp
    obtain ⟨t, ht, hid⟩ := hk.item_transfer hi
    exact ⟨t.delivery, List.mem_map_of_mem ht, hid⟩

/-! ## Transactions -/

/-- A transfer that is changed in place gets a status, and keeps what else it is. -/
theorem map_delivery_modifyRow (hk : db.Keyed) {t : LocalTransfer} (ht : t ∈ db.transfers)
    {change : LocalTransfer → LocalTransfer} (hpeer : (change t).peerCode = t.peerCode) :
    (modifyRow (·.id) t.id (LocalTransfer.changed change) db.transfers).map (·.delivery) =
      (db.transfers.map (·.delivery)).map (Delivery.settle t.id (change t).status) := by
  unfold modifyRow
  rw [List.map_map, List.map_map]
  refine List.map_congr_left fun q hq => ?_
  show (if q.id = t.id then q.changed change else q).delivery =
    q.delivery.settle t.id (change t).status
  unfold Delivery.settle
  by_cases hid : q.id = t.id
  · obtain rfl := hk.transfer_eq hq ht hid
    rw [if_pos rfl, if_pos (show q.delivery.id = q.id from rfl)]
    unfold LocalTransfer.delivery LocalTransfer.changed
    rw [hpeer]
  · rw [if_neg hid, if_neg (show ¬ q.delivery.id = t.id from hid)]

/-- Items that are received in place are the marked ones. -/
theorem map_parcel_receivedAs {t : LocalTransfer} {ids : List Nat} (now : Instant)
    (hof : ∀ i ∈ db.transferItems, i.id ∈ ids → i.transferId = t.id) :
    (modifyRows (·.id) ids (LocalTransferItem.changed (LocalTransferItem.receivedAs now))
      db.transferItems).map
        (·.parcel) =
      (db.transferItems.map (·.parcel)).map (Parcel.mark t.id fun p => decide (p.id ∈ ids)) := by
  unfold modifyRows
  rw [List.map_map, List.map_map]
  refine List.map_congr_left fun i hi => ?_
  show (if i.id ∈ ids then i.changed (LocalTransferItem.receivedAs now) else i).parcel =
    i.parcel.mark t.id _
  unfold Parcel.mark
  by_cases hin : i.id ∈ ids
  · rw [if_pos hin, if_pos ⟨hof i hi hin, decide_eq_true hin⟩]
    rfl
  · rw [if_neg hin, if_neg fun hboth => hin (of_decide_eq_true hboth.2)]

/-- The same events tell the same. -/
theorem told_of_notices (h : db'.notices = db.notices) :
    db'.deliveries.told = db.deliveries.told := by
  show Told.mk db'.announced db'.dispatches db'.reported =
    Told.mk db.announced db.dispatches db.reported
  rw [announced_of_notices h, dispatches_of_notices h, reported_of_notices h]

/-- The same units are on the road. -/
theorem road_of_iff (h : ∀ id, db'.OnRoad id ↔ db.OnRoad id) :
    db'.deliveries.road = db.deliveries.road :=
  Set.ext h

/-- The same serials, so the same units. -/
theorem road_of_serials (h : db'.serials = db.serials) :
    db'.deliveries.road = db.deliveries.road := by
  refine road_of_iff fun id => ?_
  unfold Db.OnRoad
  rw [h]

/-- What a receipt of Master does to an outgoing transfer. -/
theorem report_arrived (hk : db.Keyed) {t : LocalTransfer} (ht : t ∈ db.transfers)
    (hleft : t.status ≠ .draft) {numbers : List PyStr}
    (hview : db'.receiptView = db.receiptView.report t.id numbers)
    (hpeers : db'.transfers.map (·.peerCode) = db.transfers.map (·.peerCode)) :
    ∃ status marked, Arrived t.delivery status marked db.deliveries db'.deliveries := by
  let marked (p : Parcel) : Bool := decide (p.number ∈ numbers ∧ p.received = false)
  let flags := ReceiptView.flags (db'.transferItems.map (·.marks)) t.id
  have hitems : db'.deliveries.parcels = db.deliveries.parcels.map (Parcel.mark t.id marked) := by
    show _ = (db.transferItems.map (·.parcel)).map _
    rw [List.map_map]
    refine map_of_map (reported_items hview) fun i' i _ he => ?_
    show i'.parcel = i.parcel.mark t.id marked
    unfold ItemMarks.report at he
    unfold Parcel.mark
    by_cases hnamed : i.marks.Named t.id numbers
    · rw [if_pos hnamed] at he
      rw [if_pos (show i.parcel.deliveryId = t.id ∧ marked i.parcel = true from
        ⟨hnamed.1, decide_eq_true hnamed.2⟩)]
      obtain ⟨hid, htransfer, hserial, hnumber, -, hreceived⟩ := (ItemMarks.mk.injEq ..).mp he
      exact (Parcel.mk.injEq ..).mpr ⟨hid, htransfer, hserial, hnumber, hreceived⟩
    · rw [if_neg hnamed] at he
      rw [if_neg (show ¬ (i.parcel.deliveryId = t.id ∧ marked i.parcel = true) from
        fun hboth => hnamed ⟨hboth.1, of_decide_eq_true hboth.2⟩)]
      obtain ⟨hid, htransfer, hserial, hnumber, -, hreceived⟩ := (ItemMarks.mk.injEq ..).mp he
      exact (Parcel.mk.injEq ..).mpr ⟨hid, htransfer, hserial, hnumber, hreceived⟩
  have htransfers : db'.deliveries.transfers =
      db.deliveries.transfers.map (Delivery.settle t.id (receiptStatus flags t.status)) := by
    show _ = (db.transfers.map (·.delivery)).map _
    rw [List.map_map]
    refine map_of_map (map_both (reported_transfers hview) hpeers) fun q' q hq he => ?_
    show q'.delivery = q.delivery.settle t.id (receiptStatus flags t.status)
    obtain ⟨hmarks, hpeer⟩ := Prod.mk.inj he
    unfold ReceiptView.settled at hmarks
    unfold Delivery.settle
    by_cases hid : q.id = t.id
    · obtain rfl := hk.transfer_eq hq ht hid
      rw [if_pos (show q.marks.id = q.id from rfl)] at hmarks
      rw [if_pos (show q.delivery.id = q.id from rfl)]
      obtain ⟨hid, huuid, hdirection, hstatus⟩ := (TransferMarks.mk.injEq ..).mp hmarks
      exact (Delivery.mk.injEq ..).mpr ⟨hid, huuid, hdirection, hstatus, hpeer⟩
    · rw [if_neg (show ¬ q.marks.id = t.id from hid)] at hmarks
      rw [if_neg (show ¬ q.delivery.id = t.id from hid)]
      obtain ⟨hid, huuid, hdirection, hstatus⟩ := (TransferMarks.mk.injEq ..).mp hmarks
      exact (Delivery.mk.injEq ..).mpr ⟨hid, huuid, hdirection, hstatus, hpeer⟩
  -- The flags are those of the transfer's items after the receipt.
  have hflag : ∀ b, b ∈ flags ↔
      ∃ p, db.deliveries.Of t.delivery p ∧ (p.mark t.id marked).received = b := by
    intro b
    have hmem : b ∈ flags ↔ ∃ p ∈ db'.deliveries.parcels, p.deliveryId = t.id ∧ p.received = b := by
      show b ∈ List.map _ (List.filter _ (db'.transferItems.map (·.marks))) ↔
        ∃ p ∈ db'.transferItems.map (·.parcel), _
      simp [LocalTransferItem.marks, LocalTransferItem.parcel, and_assoc]
    rw [hmem, hitems]
    constructor
    · intro h
      obtain ⟨p, hp, hown, hb⟩ := h
      obtain ⟨p₀, hp₀, rfl⟩ := List.mem_map.mp hp
      exact ⟨p₀, ⟨List.mem_map_of_mem ht, hp₀, Parcel.mark_deliveryId.symm.trans hown⟩, hb⟩
    · intro h
      obtain ⟨p, hp, hb⟩ := h
      exact ⟨_, List.mem_map_of_mem hp.mem, Parcel.mark_deliveryId.trans hp.own, hb⟩
  have hmark : ∀ {p}, db.deliveries.Of t.delivery p →
      ((p.mark t.id marked).received = true ↔ p.received = true ∨ marked p = true) := by
    intro p hp
    rw [Parcel.mark_received, and_iff_right (show p.deliveryId = t.id from hp.own)]
  refine ⟨receiptStatus flags t.status, marked, ⟨htransfers, hitems⟩, List.mem_map_of_mem ht, hleft,
    ?_, ?_, ?_, ?_,
    ?_, ?_⟩
  · unfold receiptStatus
    split
    · decide
    · split
      · decide
      · exact hleft
  · exact fun p _ hmarked => (of_decide_eq_true hmarked).2
  · intro id
    show db'.OnRoad id ↔ db.OnRoad id ∧ _
    unfold Db.OnRoad
    rw [reported_serials hview]
    constructor
    · intro h
      obtain ⟨s', hs', hid, hon⟩ := h
      obtain ⟨s, hs, rfl⟩ := List.mem_map.mp hs'
      unfold ReceiptView.left at hid hon
      by_cases hleaves : ReceiptView.Leaves (db.transferItems.map (·.marks)) t.id numbers s.id
      · rw [if_pos hleaves] at hon
        exact absurd (Serial.onRoad_iff.mp hon).1 Bool.false_ne_true
      · rw [if_neg hleaves] at hid hon
        refine ⟨⟨s, hs, hid, hon⟩, fun h => hleaves ?_⟩
        obtain ⟨p, hp, hmarked, hserial⟩ := h
        obtain ⟨i, hi, rfl⟩ := (deliveries_of_row hk ht).mp hp
        exact ⟨i.marks, List.mem_map_of_mem hi.1, ⟨hi.2, of_decide_eq_true hmarked⟩, hid ▸ hserial⟩
    · intro h
      obtain ⟨⟨s, hs, hid, hon⟩, hstays⟩ := h
      have hleaves : ¬ ReceiptView.Leaves (db.transferItems.map (·.marks)) t.id numbers s.id := by
        intro h
        obtain ⟨m, hm, hnamed, hserial⟩ := h
        obtain ⟨i, hi, rfl⟩ := List.mem_map.mp hm
        exact hstays ⟨i.parcel, (deliveries_of_row hk ht).mpr ⟨i, ⟨hi, hnamed.1⟩, rfl⟩,
          decide_eq_true hnamed.2, hid ▸ hserial⟩
      refine ⟨_, List.mem_map_of_mem hs, ?_⟩
      unfold ReceiptView.left
      rw [if_neg hleaves]
      exact ⟨hid, hon⟩
  · intro _ hall
    refine if_pos (List.all_eq_true.mpr fun b hb => ?_)
    obtain ⟨p, hp, rfl⟩ := (hflag b).mp hb
    exact (hmark hp).mpr (hall p hp)
  · intro hsome hrest
    obtain ⟨p, hp, hin⟩ := hsome
    obtain ⟨q, hq, hunreceived, hunmarked⟩ := hrest
    have hout : false ∈ flags := (hflag false).mpr ⟨q, hq, by
      rw [← Bool.not_eq_true, hmark hq, hunreceived, hunmarked]; simp⟩
    have hall : ¬ flags.all id = true :=
      fun hall => Bool.false_ne_true (List.all_eq_true.mp hall _ hout)
    have hany : flags.any id = true :=
      List.any_eq_true.mpr ⟨true, (hflag true).mpr ⟨p, hp, (hmark hp).mpr hin⟩, rfl⟩
    unfold receiptStatus
    rw [if_neg hall, if_pos hany]
  · intro hsome hnone
    obtain ⟨p, hp⟩ := hsome
    -- An item would be received after the receipt only if it was before, or is named.
    have hany : ¬ flags.any id = true := by
      intro hany
      obtain ⟨b, hb, rfl⟩ := List.any_eq_true.mp hany
      obtain ⟨p, hp, hreceived⟩ := (hflag true).mp hb
      obtain ⟨hunreceived, hunmarked⟩ := hnone p hp
      rw [hmark hp, hunreceived, hunmarked] at hreceived
      simp at hreceived
    have hall : ¬ flags.all id = true := fun hall => hany (List.any_eq_true.mpr
      ⟨_, (hflag _).mpr ⟨p, hp, rfl⟩, List.all_eq_true.mp hall _ ((hflag _).mpr ⟨p, hp, rfl⟩)⟩)
    unfold receiptStatus
    rw [if_neg hall, if_neg hany]
    rfl

/-- A transaction is a step of the deliveries. -/
theorem Shipment.deliveries {Opens New : PyStr → Prop} {Told : PyStr → PyStr → Prop} (hk : db.Keyed)
    (h : Shipment Opens Told New db db') : Deliveries.Step db.deliveries db'.deliveries := by
  cases h with
  | quiet hcargo =>
    refine .same (map_of_map (congrArg Cargo.transfers hcargo) fun q' q _ he => ?_)
      (map_of_map (congrArg Cargo.items hcargo) fun i' i _ he => ?_) (road_of_iff fun id => ?_)
      (told_of_notices (congrArg Cargo.notices hcargo))
    · obtain ⟨hmarks, hpeer⟩ := Prod.mk.inj he
      obtain ⟨hid, huuid, hdirection, hstatus⟩ := (TransferMarks.mk.injEq ..).mp hmarks
      exact (Delivery.mk.injEq ..).mpr ⟨hid, huuid, hdirection, hstatus, hpeer⟩
    · simpa [LocalTransferItem.cargo, LocalTransferItem.parcel] using he
    · have hone : ∀ {d d' : Db}, d'.cargo = d.cargo → d.OnRoad id → d'.OnRoad id := by
        intro d d' hsame ⟨s, hs, hid, hon⟩
        obtain ⟨s', hs', he⟩ := exists_of_map (congrArg Cargo.serials hsame) hs
        obtain ⟨hsid, -, -, hson⟩ : s'.id = s.id ∧ s'.serialNumber = s.serialNumber ∧
          s'.here = s.here ∧
            s'.onRoad = s.onRoad := by simpa [Serial.cargo] using he
        exact ⟨s', hs', hsid.trans hid, hson.trans hon⟩
      exact ⟨hone hcargo.symm, hone hcargo⟩
  | drafted t hopens hid hdirection hdraft hserials htransfers hitems hnotices =>
    refine .drafted t.delivery (fun q hq => ?_) hdirection hdraft ?_
      (congrArg (List.map LocalTransferItem.parcel) hitems) (road_of_serials hserials)
      (told_of_notices hnotices)
    · obtain ⟨r, hr, rfl⟩ := List.mem_map.mp hq
      have hfresh : r.id ≠ t.id := fun he => nextId_fresh hr (he.trans hid)
      exact hfresh
    · show db'.transfers.map _ = db.transfers.map _ ++ [_]
      rw [htransfers, List.map_append, List.map_singleton]
  | edited t ht hserials htransfers hothers hown hnotices =>
    have hstored : t ∈ db'.transfers := htransfers ▸ ht.mem
    refine .edited t.delivery (List.mem_map_of_mem ht.mem) ht.direction ht.draft
      (congrArg (List.map LocalTransfer.delivery) htransfers) ?_ ?_ (road_of_serials hserials)
      (told_of_notices hnotices)
    · intro p hp
      constructor
      · intro hmem
        obtain ⟨i, hi, rfl⟩ := List.mem_map.mp hmem
        exact List.mem_map_of_mem ((hothers i hp).mp hi)
      · intro hmem
        obtain ⟨i, hi, rfl⟩ := List.mem_map.mp hmem
        exact List.mem_map_of_mem ((hothers i hp).mpr hi)
    · intro p hp
      obtain ⟨i, hi, rfl⟩ := List.mem_map.mp hp.mem
      exact (hown i ⟨hi, hp.own⟩).imp_left fun hi => (deliveries_of_row hk ht.mem).mpr ⟨i, hi, rfl⟩
  | sent t ht now numbers hsome hnodup hnumbers hwere hhere hoff hroad htransfers hitems hannounced
    hdispatches
      hreported =>
    have hof : ∀ {p}, db.deliveries.Of t.delivery p ↔ ∃ i, db.Lists t i ∧ i.parcel = p :=
      deliveries_of_row hk ht.mem
    have hsettled : Settled t.delivery .dispatched (fun _ => false) db.deliveries
        db'.deliveries := by
      constructor
      · show db'.transfers.map _ = _
        rw [htransfers]
        exact map_delivery_modifyRow hk ht.mem rfl
      · show db'.transferItems.map _ = (db.transferItems.map _).map _
        rw [hitems, List.map_map]
        exact List.map_congr_left fun i _ => Parcel.mark_none.symm
    refine .sent t.delivery (List.mem_map_of_mem ht.mem) ht.direction ht.draft ?_ hsettled
      numbers hnodup
      (fun n => ?_) ?_ (fun id => ?_) hannounced hdispatches hreported
    · obtain ⟨i, hi⟩ := hsome
      exact ⟨i.parcel, hof.mpr ⟨i, hi, rfl⟩⟩
    · rw [hnumbers]
      constructor
      · intro ⟨i, hi, hn⟩
        exact ⟨i.parcel, hof.mpr ⟨i, hi, rfl⟩, hn⟩
      · intro ⟨p, hp, hn⟩
        obtain ⟨i, hi, rfl⟩ := hof.mp hp
        exact ⟨i, hi, hn⟩
    · intro p id hp hid
      obtain ⟨i, hi, rfl⟩ := hof.mp hp
      exact hoff i id hi hid
    · refine (hroad id).trans (or_congr_right ⟨fun ⟨i, hi, hid⟩ => ?_, fun ⟨p, hp, hid⟩ => ?_⟩)
      · exact ⟨i.parcel, hof.mpr ⟨i, hi, rfl⟩, hid⟩
      · obtain ⟨i, hi, rfl⟩ := hof.mp hp
        exact ⟨i, hi, hid⟩
  | received t ht hdirection hopen now ids hids hsome numbers hnodup hnumbers hhere hroad
    change hpeer hstatus htransfers
      hitems hreported hannounced hdispatches =>
    have hof : ∀ {p}, db.deliveries.Of t.delivery p ↔ ∃ i, db.Lists t i ∧ i.parcel = p :=
      deliveries_of_row hk ht
    -- An item of the transfer has arrived or arrives now when it is received or scanned.
    have hmarked : ∀ {i}, db.Lists t i → ((i.received = true ∨ decide (i.id ∈ ids) = true) ↔
        (i.received = true ∨ i.scanned = true)) := by
      intro i hi
      rw [decide_eq_true_eq, hids i hi.1, and_iff_right hi.2]
      cases i.received <;> simp
    have hrow : ∀ {P : Parcel → Prop},
        (∃ p, db.deliveries.Of t.delivery p ∧ decide (p.id ∈ ids) = true ∧ P p) ↔
        ∃ i ∈ db.transferItems, i.id ∈ ids ∧ P i.parcel := by
      intro P
      constructor
      · intro ⟨p, hp, hin, hP⟩
        obtain ⟨i, hi, rfl⟩ := hof.mp hp
        exact ⟨i, hi.1, of_decide_eq_true hin, hP⟩
      · intro ⟨i, hi, hin, hP⟩
        exact ⟨i.parcel, hof.mpr ⟨i, ⟨hi, ((hids i hi).mp hin).1⟩, rfl⟩, decide_eq_true hin, hP⟩
    have hsettled : Settled t.delivery (change t).status (fun p => decide (p.id ∈ ids))
        db.deliveries
        db'.deliveries := by
      constructor
      · show db'.transfers.map _ = _
        rw [htransfers]
        exact map_delivery_modifyRow hk ht hpeer
      · show db'.transferItems.map _ = _
        rw [hitems]
        exact map_parcel_receivedAs now fun i hi hin => ((hids i hi).mp hin).1
    have hitem : ∃ p, db.deliveries.Of t.delivery p ∧ decide (p.id ∈ ids) = true := by
      obtain ⟨i, hi, hin⟩ := hsome
      exact ⟨i.parcel, hof.mpr ⟨i, ⟨hi, ((hids i hi).mp hin).1⟩, rfl⟩, decide_eq_true hin⟩
    refine .received t.delivery hdirection (change t).status (fun p => decide (p.id ∈ ids))
      ⟨hsettled, List.mem_map_of_mem ht, ?_, ?_, ?_, ?_, ?_, ?_, ?_⟩ (hitem.imp fun _ hp => hp.1)
        numbers hnodup
      (fun n => ?_) hreported hannounced hdispatches
    · exact hopen
    · intro hdraft
      by_cases hall : ∀ i, db.Lists t i → i.received = true ∨ i.scanned = true
      · exact absurd ((hstatus.1 hall).symm.trans hdraft) (by decide)
      · push Not at hall
        obtain ⟨i, hi, hunreceived, hunscanned⟩ := hall
        exact absurd
          ((hstatus.2 ⟨i, hi, by simpa using hunreceived, by simpa using hunscanned⟩).symm.trans
            hdraft)
          (by decide)
    · intro p hp hin
      obtain ⟨i, hi, rfl⟩ := hof.mp hp
      exact ((hids i hi.1).mp (of_decide_eq_true hin)).2.2
    · intro id
      rw [hrow]
      exact hroad id
    · intro _ hall
      exact hstatus.1 fun i hi => (hmarked hi).mp (hall i.parcel (hof.mpr ⟨i, hi, rfl⟩))
    · intro _ ⟨p, hp, hunreceived, hout⟩
      obtain ⟨i, hi, rfl⟩ := hof.mp hp
      refine hstatus.2 ⟨i, hi, hunreceived, ?_⟩
      by_contra hscanned
      have hin := (hmarked hi).mpr (Or.inr (Bool.not_eq_false _ ▸ hscanned))
      rw [show i.received = false from hunreceived, show decide (i.id ∈ ids) = false from hout]
        at hin
      simp at hin
    · intro _ hnone
      obtain ⟨p, hp, hin⟩ := hitem
      rw [(hnone p hp).2] at hin
      cases hin
    · rw [hnumbers, hrow]
      rfl
  | came t hid hdirection hawaiting items hof hhere hoff hroad htransfers hitems hnotices =>
    refine .came t.delivery (items.map (·.parcel)) (fun q hq => ?_) hdirection hawaiting
      (fun p hp => ?_) ?_ ?_
      (fun p hp id hid => ?_) (fun id => ?_) (told_of_notices hnotices)
    · obtain ⟨r, hr, rfl⟩ := List.mem_map.mp hq
      have hfresh : r.id ≠ t.id := fun he => nextId_fresh hr (he.trans hid)
      exact hfresh
    · obtain ⟨i, hi, rfl⟩ := List.mem_map.mp hp
      exact ⟨(hof i hi).1, (hof i hi).2.1⟩
    · show db'.transfers.map _ = db.transfers.map _ ++ [_]
      rw [htransfers, List.map_append, List.map_singleton]
    · show db'.transferItems.map _ = db.transferItems.map _ ++ _
      rw [hitems, List.map_append]
    · obtain ⟨i, hi, rfl⟩ := List.mem_map.mp hp
      exact hoff i hi id hid
    · refine (hroad id).trans
        (or_congr_right ⟨fun ⟨i, hi, hid⟩ => ⟨_, List.mem_map_of_mem hi, hid⟩, ?_⟩)
      intro ⟨p, hp, hid⟩
      obtain ⟨i, hi, rfl⟩ := List.mem_map.mp hp
      exact ⟨i, hi, hid⟩
  | acknowledged t ht hdirection hleft numbers hview hpeers hnotices =>
    obtain ⟨status, marked, harrived⟩ := report_arrived hk ht hleft hview hpeers
    exact .acknowledged t.delivery hdirection status marked harrived (told_of_notices hnotices)
  | created numbers hnew hhere hroad htransfers hitems hnotices =>
    exact .same (congrArg (List.map LocalTransfer.delivery) htransfers)
      (congrArg (List.map LocalTransferItem.parcel) hitems)
      (road_of_iff hroad) (told_of_notices hnotices)

/-! ## Runs -/

/-- The item is on its way: its transfer has left, and it has not arrived. -/
def Db.Rides (db : Db) (i : LocalTransferItem) : Prop :=
  ∃ t ∈ db.transfers, db.Lists t i ∧ t.status ≠ .draft ∧ i.received = false

/-- A parcel rides when its item does. -/
theorem deliveries_rides {p : Parcel} : db.deliveries.Rides p ↔ ∃ i, db.Rides i ∧ i.parcel = p := by
  constructor
  · intro ⟨t, hof, hleft, hunreceived⟩
    obtain ⟨q, hq, i, hi, rfl, rfl⟩ := deliveries_of.mp hof
    exact ⟨i, ⟨q, hq, hi, hleft, hunreceived⟩, rfl⟩
  · intro ⟨i, ⟨q, hq, hi, hleft, hunreceived⟩, hp⟩
    subst hp
    exact ⟨q.delivery, deliveries_of.mpr ⟨q, hq, i, hi, rfl, rfl⟩, hleft, hunreceived⟩

/-- What a step of deliveries keeps, every run keeps. -/
theorem deliveries_invariant {I : Deliveries → Prop}
    (hstep : ∀ d d' : Deliveries, d.Keys → d'.Keys → I d → Deliveries.Step d d' → I d')
    {as : List StockAction} (hk : db.Keyed) (hn : db.Named) (h : I db.deliveries)
    (hexec : exec (stockMachine rt st) db as = some db') :
    db'.Keyed ∧ I db'.deliveries := by
  obtain ⟨hk', -, h'⟩ :=
    shipments_invariant (I := fun db => I db.deliveries) (fun db db' hk hn hk' hn' h hship =>
    hstep _ _ (deliveries_keys hk hn) (deliveries_keys hk' hn') h (hship.deliveries hk))
      hk hn h hexec
  exact ⟨hk', h'⟩

/-- A node that has not moved anything yet. -/
theorem deliveries_of_fresh (htransfers : db.transfers = [])
    (hserials : ∀ s ∈ db.serials, s.status ≠ .inTransit)
    (hnotices : db.notices = []) : db.deliveries.Moved ∧ db.deliveries.Accounted := by
  have hnone : ∀ t, t ∉ db.deliveries.transfers := by
    intro t ht
    obtain ⟨q, hq, -⟩ := List.mem_map.mp ht
    rw [htransfers] at hq
    exact absurd hq List.not_mem_nil
  have htold : db.deliveries.told = ⟨[], [], []⟩ := by
    show Told.mk db.announced db.dispatches db.reported = _
    unfold Db.announced Db.dispatches Db.reported
    rw [hnotices]
    rfl
  refine ⟨⟨fun t ht => absurd ht (hnone t), fun t ht => absurd ht (hnone t), fun id => ?_, ?_⟩, ?_⟩
  · refine iff_of_false ?_ fun ⟨p, ⟨t, hof, _⟩, _⟩ => hnone t hof.transfer
    intro ⟨s, hs, _, hon⟩
    exact hserials s hs (Serial.onRoad_iff.mp hon).2
  · exact fun ⟨t, hof, _⟩ => absurd hof.transfer (hnone t)
  · constructor <;> rw [htold]
    · exact List.nodup_nil
    · exact fun u c n => iff_of_false List.not_mem_nil fun ⟨t, p, hof, _⟩ => hnone t hof.transfer
    · exact List.nodup_nil
    · exact fun u => iff_of_false List.not_mem_nil fun ⟨t, ht, _⟩ => hnone t ht
    · exact List.nodup_nil
    · exact fun u n => iff_of_false List.not_mem_nil fun ⟨t, p, hof, _⟩ => hnone t hof.transfer

/-- Nothing has left the node with two units. -/
theorem lampsDb_deliveries : lampsDb.deliveries.Moved ∧ lampsDb.deliveries.Accounted :=
  deliveries_of_fresh rfl (by decide) (by decide +kernel)

/-- Two lamps leave, and one of them is received and comes back. -/
theorem lampReturns_ran :
    ∃ db, exec (stockMachine .plain homeSettings) lampsDb lampReturns = some db ∧
    db.reported = [(py "T-2", py "LAMP-1")] ∧
    (∃ t ∈ db.transfers, t.transferUuid = py "T-1" ∧ t.status = .partiallyReceived) ∧
    ∃ s ∈ db.serials, s.serialNumber = py "LAMP-2" ∧ s.active = true ∧ s.status = .inTransit := by
  have hrun : (exec (stockMachine .plain homeSettings) lampsDb lampReturns).map (fun db => decide
      (db.reported = [(py "T-2", py "LAMP-1")] ∧
        (∃ t ∈ db.transfers, t.transferUuid = py "T-1" ∧ t.status = .partiallyReceived) ∧
        ∃ s ∈ db.serials, s.serialNumber = py "LAMP-2" ∧ s.active = true ∧
        s.status = .inTransit)) = some true := by
    decide +kernel
  obtain ⟨db, hdb, hfacts⟩ := Option.map_eq_some_iff.mp hrun
  exact ⟨db, hdb, of_decide_eq_true hfacts⟩

/-- In every state that a run reaches, the outbox lists what left and what arrived: every
item of every transfer once, and nothing else. -/
theorem told_exactly {as : List StockAction} (hk : db.Keyed) (hn : db.Named)
    (h : db.deliveries.Accounted)
    (hexec : exec (stockMachine rt st) db as = some db') : db'.deliveries.Accounted :=
  (deliveries_invariant (fun _ _ hk _ h hstep => hstep.accounted hk h) hk hn h hexec).2

/-- The unit that came back is reported, once. -/
theorem told_exactly_lamps :
    ∃ db, exec (stockMachine .plain homeSettings) lampsDb lampReturns = some db ∧
    db.reported = [(py "T-2", py "LAMP-1")] ∧ db.deliveries.Accounted := by
  obtain ⟨db, hdb, hreported, -⟩ := lampReturns_ran
  exact ⟨db, hdb, hreported,
    told_exactly lampsDb_valid.1 lampsDb_valid.2 lampsDb_deliveries.2 hdb⟩

/-- The status of a transfer that has left, or comes in, says how much of it has arrived. -/
theorem status_shows_items {as : List StockAction} (hk : db.Keyed) (hn : db.Named)
    (h : db.deliveries.Moved) (hexec : exec (stockMachine rt st) db as = some db')
    {t : LocalTransfer} (ht : t ∈ db'.transfers) (hleft : t.status ≠ .draft) :
    (t.status = .received ↔ (∃ i, db'.Lists t i) ∧ ∀ i, db'.Lists t i → i.received = true) ∧
      (t.status = .partiallyReceived ↔
        (∃ i, db'.Lists t i ∧ i.received = true) ∧ ∃ i, db'.Lists t i ∧ i.received = false) ∧
      (t.status = t.direction.start ↔ ∀ i, db'.Lists t i → i.received = false) := by
  obtain ⟨hk', hmoved⟩ :=
    deliveries_invariant (fun _ _ hk hk' h hstep => hstep.moved hk hk' h) hk hn h hexec
  -- The parcels of the delivery are the items of the transfer.
  have hof : ∀ {p}, db'.deliveries.Of t.delivery p ↔ ∃ i, db'.Lists t i ∧ i.parcel = p :=
    deliveries_of_row hk' ht
  have hitem : ∀ {i}, db'.Lists t i → db'.deliveries.Of t.delivery i.parcel :=
    fun hi => hof.mpr ⟨_, hi, rfl⟩
  have hstart : t.direction.start ≠ .received ∧ t.direction.start ≠ .partiallyReceived := by
    cases t.direction <;> exact ⟨by decide, by decide⟩
  -- A delivery shows one of four things; a draft has not left.
  cases hmoved.shows t.delivery (List.mem_map_of_mem ht) with
  | draft _ hdraft => exact absurd hdraft hleft
  | start hstatus hnone =>
    have hstatus : t.status = t.direction.start := hstatus
    have hnone : ∀ i, db'.Lists t i → i.received = false := fun i hi => hnone _ (hitem hi)
    rw [hstatus]
    refine ⟨iff_of_false hstart.1 ?_, iff_of_false hstart.2 ?_, iff_of_true rfl hnone⟩
    · intro ⟨⟨i, hi⟩, hall⟩
      exact Bool.false_ne_true ((hnone i hi).symm.trans (hall i hi))
    · intro ⟨⟨i, hi, hreceived⟩, _⟩
      exact Bool.false_ne_true ((hnone i hi).symm.trans hreceived)
  | some hstatus hin hout =>
    have hstatus : t.status = .partiallyReceived := hstatus
    obtain ⟨_, hp, hreceived⟩ := hin
    obtain ⟨i, hi, rfl⟩ := hof.mp hp
    obtain ⟨_, hq, hunreceived⟩ := hout
    obtain ⟨j, hj, rfl⟩ := hof.mp hq
    rw [hstatus]
    refine ⟨iff_of_false (by decide) ?_, iff_of_true rfl ⟨⟨i, hi, hreceived⟩, j, hj, hunreceived⟩,
      iff_of_false hstart.2.symm ?_⟩
    · intro ⟨_, hall⟩
      exact Bool.false_ne_true (hunreceived.symm.trans (hall j hj))
    · intro hnone
      exact Bool.false_ne_true ((hnone i hi).symm.trans hreceived)
  | all hstatus hsome hall =>
    have hstatus : t.status = .received := hstatus
    obtain ⟨_, hp⟩ := hsome
    obtain ⟨i, hi, rfl⟩ := hof.mp hp
    have hall : ∀ i, db'.Lists t i → i.received = true := fun i hi => hall _ (hitem hi)
    rw [hstatus]
    refine ⟨iff_of_true rfl ⟨⟨i, hi⟩, hall⟩, iff_of_false (by decide) ?_,
      iff_of_false hstart.1.symm ?_⟩
    · intro ⟨_, j, hj, hunreceived⟩
      exact Bool.false_ne_true (hunreceived.symm.trans (hall j hj))
    · intro hnone
      exact Bool.false_ne_true ((hnone i hi).symm.trans (hall i hi))

/-- Of the two lamps that left, one has arrived. -/
theorem status_shows_items_lamps :
    ∃ db, exec (stockMachine .plain homeSettings) lampsDb lampReturns = some db ∧
    ∃ t ∈ db.transfers, t.transferUuid = py "T-1" ∧ t.status = .partiallyReceived ∧
      ∃ i, db.Lists t i ∧ i.received = false := by
  obtain ⟨db, hdb, -, ⟨t, ht, huuid, hstatus⟩, -⟩ := lampReturns_ran
  refine ⟨db, hdb, t, ht, huuid, hstatus, ?_⟩
  have hshows := status_shows_items lampsDb_valid.1 lampsDb_valid.2 lampsDb_deliveries.1 hdb ht
    (by rw [hstatus]; decide)
  exact (hshows.2.1.mp hstatus).2

/-- A serial is in transit exactly while one item that is on its way is for it. -/
theorem in_transit_iff {as : List StockAction} (hk : db.Keyed) (hn : db.Named)
    (h : db.deliveries.Moved) (hexec : exec (stockMachine rt st) db as = some db') {s : Serial}
    (hs : s ∈ db'.serials) :
    s.active = true ∧ s.status = .inTransit ↔ ∃! i, db'.Rides i ∧ i.serialId = some s.id := by
  obtain ⟨hk', hmoved⟩ :=
    deliveries_invariant (fun _ _ hk hk' h hstep => hstep.moved hk hk' h) hk hn h hexec
  have hroad : s.active = true ∧ s.status = .inTransit ↔ s.id ∈ db'.deliveries.road := by
    rw [← Serial.onRoad_iff]
    constructor
    · exact fun hon => ⟨s, hs, rfl, hon⟩
    · intro ⟨r, hr, hid, hon⟩
      rwa [← hk'.serial_eq hr hs hid]
  rw [hroad, hmoved.road.road]
  constructor
  · intro ⟨p, hp, hid⟩
    obtain ⟨i, hi, rfl⟩ := deliveries_rides.mp hp
    refine ⟨i, ⟨hi, hid⟩, fun j ⟨hj, hjd⟩ => ?_⟩
    have hsame : j.parcel = i.parcel := hmoved.road.once (deliveries_rides.mpr ⟨j, hj, rfl⟩)
      (deliveries_rides.mpr ⟨i, hi, rfl⟩) (hjd.trans hid.symm)
    obtain ⟨_, _, hjmem, _⟩ := hj
    obtain ⟨_, _, himem, _⟩ := hi
    exact eq_of_key_eq (show (db'.transferItems.map (·.id)).Nodup from hk'.transferItems)
      hjmem.1 himem.1
      (congrArg Parcel.id hsame)
  · intro ⟨i, ⟨hi, hid⟩, _⟩
    exact ⟨i.parcel, deliveries_rides.mpr ⟨i, hi, rfl⟩, hid⟩

/-- The second lamp has not arrived yet. -/
theorem in_transit_lamp :
    ∃ db, exec (stockMachine .plain homeSettings) lampsDb lampReturns = some db ∧
    ∃ s ∈ db.serials, s.serialNumber = py "LAMP-2" ∧ ∃! i, db.Rides i ∧ i.serialId = some s.id := by
  obtain ⟨db, hdb, -, -, s, hs, hnumber, htransit⟩ := lampReturns_ran
  exact ⟨db, hdb, s, hs, hnumber,
    (in_transit_iff lampsDb_valid.1 lampsDb_valid.2 lampsDb_deliveries.1 hdb hs).mp htransit⟩

end SetuoraLite
