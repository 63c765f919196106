import SetuoraLite.Lib.Custody
import SetuoraLite.Stock.Shipments

/-!
# A node as a party

What a node knows of serials that travel, as the custody library has it: the serials that
are here, the outgoing transfers it has opened, what it has announced to Master, and the
items of incoming transfers that were told and received. `Db.party` reads that off the
tables and the texts in the outbox.

Main result: `Shipment.step` — a transaction of the node is a `Custody.Step` of its party.
-/

namespace SetuoraLite

open Lib Custody

variable {db db' : Db}

/-! ## The party -/

/-- An item of the incoming transfer with the UUID, for the number. -/
structure Incoming (db : Db) (p : PyStr × PyStr) (i : LocalTransferItem) : Prop where
  mem : i ∈ db.transferItems
  number : i.manifestSerialNumber = p.2
  transfer : ∃ t ∈ db.transfers, t.id = i.transferId ∧ t.direction = .inbound ∧ t.transferUuid = p.1

/-- What a node knows of serials that travel. -/
def Db.party (db : Db) : Party PyStr PyStr PyStr where
  held := {number | db.Here number}
  opened :=
    {transferUuid | ∃ t ∈ db.transfers, t.direction = .outbound ∧ t.transferUuid = transferUuid}
  sent := {a | a ∈ db.announced}
  due := {p | ∃ i, Incoming db p i}
  taken := {p | ∃ i, Incoming db p i ∧ i.received = true}

/-- What has been announced left in a transfer that is no draft any more. -/
def Db.AnnouncedLeft (db : Db) : Prop :=
  ∀ a ∈ db.announced, ∃ t ∈ db.transfers, t.direction = .outbound ∧ t.transferUuid = a.1 ∧
    t.status ≠ .draft

/-! ## Parts of the party -/

/-- What was sent is read off the announcements. -/
theorem sent_of_announced (h : db'.announced = db.announced) : db'.party.sent = db.party.sent := by
  show {a | a ∈ db'.announced} = {a | a ∈ db.announced}
  rw [h]

/-- What a transfer is, without its status. -/
def LocalTransfer.head (t : LocalTransfer) : Nat × TransferDirection × PyStr :=
  (t.id, t.direction, t.transferUuid)

/-- Two transfers have one head when id, number and direction agree. -/
theorem LocalTransfer.head_eq {t t' : LocalTransfer} :
    t'.head = t.head ↔
      t'.id = t.id ∧ t'.direction = t.direction ∧ t'.transferUuid = t.transferUuid := by
  unfold LocalTransfer.head
  rw [Prod.mk.injEq, Prod.mk.injEq]

/-- What is open is read off the heads. -/
theorem opened_of_heads (h : db'.transfers.map (·.head) = db.transfers.map (·.head)) :
    db'.party.opened = db.party.opened := by
  have hsub : ∀ {d d' : Db}, d'.transfers.map (·.head) = d.transfers.map (·.head) →
      d'.party.opened ⊆ d.party.opened := by
    intro d d' h transferUuid hopened
    obtain ⟨t, ht, hdirection, rfl⟩ := hopened
    obtain ⟨q, hq, he⟩ := exists_of_map h.symm ht
    obtain ⟨-, hsame, huuid⟩ := LocalTransfer.head_eq.mp he
    exact ⟨q, hq, hsame.trans hdirection, huuid⟩
  exact Set.Subset.antisymm (hsub h) (hsub h.symm)

/-- A change of transfers in place keeps what they are. -/
theorem heads_modifyRow (id : Nat) (change : LocalTransfer → LocalTransfer)
    (transfers : List LocalTransfer) :
    (modifyRow (·.id) id (LocalTransfer.changed change) transfers).map (·.head) =
        transfers.map (·.head) :=
  map_modifyRow fun _ _ _ => rfl

/-- What the party shows of an item. -/
def LocalTransferItem.shown (i : LocalTransferItem) : Nat × PyStr × Bool :=
  (i.transferId, i.manifestSerialNumber, i.received)

/-- An item of an incoming transfer stays one while its transfer and its number stay. -/
theorem incoming_of_heads (h : db'.transfers.map (·.head) = db.transfers.map (·.head))
    {p : PyStr × PyStr} {i i' : LocalTransferItem} (hi : Incoming db p i)
    (hi' : i' ∈ db'.transferItems) (htransfer : i'.transferId = i.transferId)
    (hnumber : i'.manifestSerialNumber = i.manifestSerialNumber) :
    Incoming db' p i' := by
  obtain ⟨t, ht, hid, hdirection, huuid⟩ := hi.transfer
  obtain ⟨q, hq, he⟩ := exists_of_map h ht
  obtain ⟨hqid, hsame, hquuid⟩ := LocalTransfer.head_eq.mp he
  exact ⟨hi', hnumber.trans hi.number,
    q, hq, hqid.trans (hid.trans htransfer.symm), hsame.trans hdirection, hquuid.trans huuid⟩

/-- The items of incoming transfers are shown as before. -/
theorem due_of_shown (hheads : db'.transfers.map (·.head) = db.transfers.map (·.head))
    (hforth : ∀ p i, Incoming db p i → ∃ i' ∈ db'.transferItems, i'.shown = i.shown)
    (hback : ∀ p i, Incoming db' p i → ∃ i' ∈ db.transferItems, i'.shown = i.shown) :
    db'.party.due = db.party.due ∧ db'.party.taken = db.party.taken := by
  have hone : ∀ {d d' : Db}, d'.transfers.map (·.head) = d.transfers.map (·.head) →
      (∀ p i, Incoming d p i → ∃ i' ∈ d'.transferItems, i'.shown = i.shown) →
      ∀ {p i}, Incoming d p i → ∃ i', Incoming d' p i' ∧ i'.received = i.received := by
    intro d d' hheads hitems p i hi
    obtain ⟨i', hi', he⟩ := hitems p i hi
    obtain ⟨htransfer, hnumber, hreceived⟩ :=
      (Prod.mk.injEq ..).mp he |>.imp_right (Prod.mk.injEq ..).mp
    exact ⟨i', incoming_of_heads hheads hi hi' htransfer hnumber, hreceived⟩
  constructor
  · ext p
    constructor
    · intro ⟨i, hi⟩
      obtain ⟨i', hi', -⟩ := hone hheads.symm hback hi
      exact ⟨i', hi'⟩
    · intro ⟨i, hi⟩
      obtain ⟨i', hi', -⟩ := hone hheads hforth hi
      exact ⟨i', hi'⟩
  · ext p
    constructor
    · intro ⟨i, hi, hreceived⟩
      obtain ⟨i', hi', hsame⟩ := hone hheads.symm hback hi
      exact ⟨i', hi', hsame.trans hreceived⟩
    · intro ⟨i, hi, hreceived⟩
      obtain ⟨i', hi', hsame⟩ := hone hheads hforth hi
      exact ⟨i', hi', hsame.trans hreceived⟩

theorem due_of_same (hheads : db'.transfers.map (·.head) = db.transfers.map (·.head))
    (hitems : db'.transferItems = db.transferItems) :
    db'.party.due = db.party.due ∧ db'.party.taken = db.party.taken :=
  due_of_shown hheads (fun _ i hi => ⟨i, hitems ▸ hi.mem, rfl⟩) fun _ i hi =>
    ⟨i, hitems ▸ hi.mem, rfl⟩

/-- No item of an incoming transfer is an item of an outgoing one. -/
theorem Incoming.other {p : PyStr × PyStr} {i : LocalTransferItem} (hi : Incoming db p i)
    (hk : db.Keyed) {t : LocalTransfer} (ht : t ∈ db.transfers)
    (hdirection : t.direction = .outbound) :
    i.transferId ≠ t.id := by
  intro he
  obtain ⟨q, hq, hid, hinbound, -⟩ := hi.transfer
  obtain rfl := hk.transfer_eq hq ht (hid.trans he)
  exact absurd (hdirection.symm.trans hinbound) (by decide)

theorem Db.AnnouncedLeft.of_rows (h : db.AnnouncedLeft) (hannounced : db'.announced = db.announced)
    (hrows : ∀ t ∈ db.transfers, t.direction = .outbound → t.status ≠ .draft →
      ∃ t' ∈ db'.transfers, t'.direction = .outbound ∧ t'.transferUuid = t.transferUuid ∧
      t'.status ≠ .draft) :
    db'.AnnouncedLeft := by
  intro a ha
  obtain ⟨t, ht, hdirection, huuid, hleft⟩ := h a (hannounced ▸ ha)
  obtain ⟨t', ht', hdirection', huuid', hleft'⟩ := hrows t ht hdirection hleft
  exact ⟨t', ht', hdirection', huuid'.trans huuid, hleft'⟩

theorem Db.AnnouncedLeft.of_transfers (h : db.AnnouncedLeft)
    (hannounced : db'.announced = db.announced)
    (htransfers : ∀ t ∈ db.transfers, t ∈ db'.transfers) : db'.AnnouncedLeft :=
  h.of_rows hannounced fun t ht hdirection hleft => ⟨t, htransfers t ht, hdirection, rfl, hleft⟩

theorem LocalTransfer.marks_eq {t t' : LocalTransfer} (h : t'.marks = t.marks) :
    t'.head = t.head ∧ t'.status = t.status := by
  obtain ⟨hid, huuid, hdirection, hstatus⟩ := (TransferMarks.mk.injEq ..).mp h
  exact ⟨LocalTransfer.head_eq.mpr ⟨hid, hdirection, huuid⟩, hstatus⟩

theorem heads_of_cargo
    (h : db'.transfers.map LocalTransfer.cargo = db.transfers.map LocalTransfer.cargo) :
    db'.transfers.map (·.head) = db.transfers.map (·.head) :=
  map_of_map h fun _ _ _ he => (LocalTransfer.marks_eq (Prod.mk.inj he).1).1

/-- A receipt keeps what transfers are, and makes none a draft. -/
theorem settled_head {items : List ItemMarks} {transferId : Nat} {t t' : LocalTransfer}
    (h : t'.marks = ReceiptView.settled items transferId t.marks) :
    t'.head = t.head ∧ (t.status ≠ .draft → t'.status ≠ .draft) := by
  unfold ReceiptView.settled at h
  by_cases hid : t.marks.id = transferId
  · rw [if_pos hid] at h
    obtain ⟨hsame, huuid, hdirection, hstatus⟩ := (TransferMarks.mk.injEq ..).mp h
    refine ⟨LocalTransfer.head_eq.mpr ⟨hsame, hdirection, huuid⟩, fun hleft => ?_⟩
    rw [hstatus]
    unfold receiptStatus
    split
    · decide
    · split
      · decide
      · exact hleft
  · rw [if_neg hid] at h
    obtain ⟨hhead, hstatus⟩ := LocalTransfer.marks_eq h
    exact ⟨hhead, fun hleft => hstatus ▸ hleft⟩

theorem heads_of_report {transferId : Nat} {numbers : List PyStr}
    (h : db'.receiptView = db.receiptView.report transferId numbers) :
    db'.transfers.map (·.head) = db.transfers.map (·.head) :=
  map_of_map (reported_transfers h) fun _ _ _ he => (settled_head he).1

/-! ## Items of incoming transfers -/

/-- A draft has no incoming items. -/
theorem incoming_drafted {t : LocalTransfer} (hdirection : t.direction = .outbound)
    (htransfers : db'.transfers = db.transfers ++ [t])
    (hitems : db'.transferItems = db.transferItems) {p : PyStr × PyStr}
    {i : LocalTransferItem} : Incoming db' p i ↔ Incoming db p i := by
  constructor
  · intro ⟨hmem, hnumber, q, hq, hid, hinbound, huuid⟩
    refine ⟨hitems ▸ hmem, hnumber, q, ?_, hid, hinbound, huuid⟩
    refine (List.mem_append.mp (htransfers ▸ hq)).resolve_right fun hlast => ?_
    rw [List.mem_singleton.mp hlast] at hinbound
    exact absurd (hdirection.symm.trans hinbound) (by decide)
  · intro ⟨hmem, hnumber, q, hq, hrest⟩
    exact ⟨hitems ▸ hmem, hnumber, q, htransfers ▸ List.mem_append_left _ hq, hrest⟩

/-- An incoming transfer comes with its items, and the others stay as they are. -/
theorem incoming_came (hk : db.Keyed) {t : LocalTransfer} {items : List LocalTransferItem}
    (hid : t.id = nextId (·.id) db.transfers) (hinbound : t.direction = .inbound)
    (hof : ∀ i ∈ items, i.transferId = t.id) (htransfers : db'.transfers = db.transfers ++ [t])
    (hitems : db'.transferItems = db.transferItems ++ items) {p : PyStr × PyStr}
    {i : LocalTransferItem} :
    Incoming db' p i ↔
      Incoming db p i ∨ i ∈ items ∧ i.manifestSerialNumber = p.2 ∧ t.transferUuid = p.1 := by
  -- The id of the new transfer is no other's, so its items are the new ones.
  have hfresh : ∀ i ∈ db.transferItems, i.transferId ≠ t.id := by
    intro i hi he
    obtain ⟨q, hq, hqid⟩ := hk.item_transfer hi
    exact nextId_fresh hq (hqid.trans (he.trans hid))
  constructor
  · intro ⟨hmem, hnumber, q, hq, hqid, hdirection, huuid⟩
    rcases List.mem_append.mp (hitems ▸ hmem) with hmem | hmem <;>
      rcases List.mem_append.mp (htransfers ▸ hq) with hq | hq
    · exact Or.inl ⟨hmem, hnumber, q, hq, hqid, hdirection, huuid⟩
    · rw [List.mem_singleton.mp hq] at hqid
      exact absurd hqid.symm (hfresh i hmem)
    · rw [hof i hmem, hid] at hqid
      exact absurd hqid (nextId_fresh hq)
    · rw [List.mem_singleton.mp hq] at huuid
      exact Or.inr ⟨hmem, hnumber, huuid⟩
  · intro hcase
    rcases hcase with ⟨hmem, hnumber, q, hq, hrest⟩ | ⟨hmem, hnumber, hsame⟩
    · exact ⟨hitems ▸ List.mem_append_left _ hmem, hnumber, q,
        htransfers ▸ List.mem_append_left _ hq, hrest⟩
    · exact ⟨hitems ▸ List.mem_append_right _ hmem, hnumber, t,
        htransfers ▸ List.mem_append_right _ (List.mem_singleton_self _), (hof i hmem).symm,
        hinbound, hsame⟩

/-- Items are received in place. -/
theorem incoming_received {ids : List Nat} {now : Instant}
    (hheads : db'.transfers.map (·.head) = db.transfers.map (·.head))
    (hitems : db'.transferItems = modifyRows (·.id) ids
      (LocalTransferItem.changed (LocalTransferItem.receivedAs now)) db.transferItems) {p :
      PyStr × PyStr} :
    ((∃ i, Incoming db' p i) ↔ ∃ i, Incoming db p i) ∧
      ((∃ i, Incoming db' p i ∧ i.received = true) ↔
        ∃ i, Incoming db p i ∧ (i.received = true ∨ i.id ∈ ids)) := by
  -- Forth: the item is there still, marked perhaps. Back: it was there, and a receipt that is new
  -- is a mark.
  have hforth : ∀ {i}, Incoming db p i → Incoming db' p (if i.id ∈ ids then
      i.changed (LocalTransferItem.receivedAs now) else i) := by
    intro i hi
    refine incoming_of_heads hheads hi (hitems ▸ mem_modifyRows.mpr ⟨i, hi.mem, rfl⟩) ?_ ?_
      <;> split <;> rfl
  have hback : ∀ {i'}, Incoming db' p i' → ∃ i, Incoming db p i ∧
      (i'.received = true → i.received = true ∨ i.id ∈ ids) := by
    intro i' hi'
    obtain ⟨i, hi, he⟩ := mem_modifyRows.mp (hitems ▸ hi'.mem)
    refine ⟨i, incoming_of_heads hheads.symm hi' hi ?_ ?_, fun hreceived => ?_⟩
    · rw [he]
      split <;> rfl
    · rw [he]
      split <;> rfl
    · by_cases hid : i.id ∈ ids
      · exact Or.inr hid
      · rw [he, if_neg hid] at hreceived
        exact Or.inl hreceived
  constructor
  · constructor
    · intro ⟨i', hi'⟩
      obtain ⟨i, hi, -⟩ := hback hi'
      exact ⟨i, hi⟩
    · intro ⟨i, hi⟩
      exact ⟨_, hforth hi⟩
  · constructor
    · intro ⟨i', hi', hreceived⟩
      obtain ⟨i, hi, hcase⟩ := hback hi'
      exact ⟨i, hi, hcase hreceived⟩
    · intro ⟨i, hi, hcase⟩
      refine ⟨_, hforth hi, ?_⟩
      by_cases hid : i.id ∈ ids
      · rw [if_pos hid]
        rfl
      · rw [if_neg hid]
        exact hcase.resolve_right hid

/-! ## Steps -/

section Steps

variable {Opens New : PyStr → Prop} {Told : PyStr → PyStr → Prop}

/-- What has left stays away from drafts. -/
theorem Shipment.left (hk : db.Keyed) (hleft : db.AnnouncedLeft)
    (h : Shipment Opens Told New db db') : db'.AnnouncedLeft := by
  cases h with
  | quiet hcargo =>
    refine hleft.of_rows (announced_of_notices (congrArg Cargo.notices hcargo)) fun t ht hdirection
      hgone => ?_
    obtain ⟨t', ht', he⟩ := exists_of_map (congrArg Cargo.transfers hcargo) ht
    obtain ⟨hhead, hstatus⟩ := LocalTransfer.marks_eq (Prod.mk.inj he).1
    obtain ⟨-, hsame, huuid⟩ := LocalTransfer.head_eq.mp hhead
    exact ⟨t', ht', hsame.trans hdirection, huuid, hstatus ▸ hgone⟩
  | drafted _ _ _ _ _ _ htransfers _ hnotices =>
    exact hleft.of_transfers (announced_of_notices hnotices) fun t ht =>
      htransfers ▸ List.mem_append_left _ ht
  | edited _ _ _ htransfers _ _ hnotices =>
    exact hleft.of_transfers (announced_of_notices hnotices) fun t ht => htransfers ▸ ht
  | sent t ht now numbers _ _ _ _ _ _ _ htransfers _ hannounced =>
    -- The transfer itself is no draft any more, and the others are as they were.
    have hrows : ∀ q ∈ db.transfers, q.direction = .outbound → (q.status ≠ .draft ∨ q = t) →
        ∃ q' ∈ db'.transfers, q'.direction = .outbound ∧ q'.transferUuid = q.transferUuid ∧
        q'.status ≠ .draft := by
      intro q hq hdirection hcase
      refine ⟨_, htransfers ▸ mem_modifyRow.mpr ⟨q, hq, rfl⟩, ?_⟩
      by_cases hid : q.id = t.id
      · rw [if_pos hid]
        refine ⟨hdirection, rfl, ?_⟩
        show TransferStatus.dispatched ≠ .draft
        decide
      · rw [if_neg hid]
        exact ⟨hdirection, rfl, hcase.resolve_right fun he => hid (congrArg LocalTransfer.id he)⟩
    intro a ha
    rw [hannounced] at ha
    rcases List.mem_append.mp ha with ha | ha
    · obtain ⟨q, hq, hdirection, huuid, hgone⟩ := hleft a ha
      obtain ⟨q', hq', hdirection', huuid', hgone'⟩ := hrows q hq hdirection (Or.inl hgone)
      exact ⟨q', hq', hdirection', huuid'.trans huuid, hgone'⟩
    · obtain ⟨number, -, rfl⟩ := List.mem_map.mp ha
      exact hrows t ht.mem ht.direction (Or.inr rfl)
  | received t ht hdirection hopen now ids hids hsome numbers hnodup hnumbers hhere hroad
    change hpeer hstatus htransfers
      hitems hreported hannounced =>
    refine hleft.of_rows hannounced fun q hq hout hgone => ?_
    refine ⟨_, htransfers ▸ mem_modifyRow.mpr ⟨q, hq, rfl⟩, ?_⟩
    by_cases hid : q.id = t.id
    · obtain rfl := hk.transfer_eq hq ht hid
      exact absurd (hdirection.symm.trans hout) (by decide)
    · rw [if_neg hid]
      exact ⟨hout, rfl, hgone⟩
  | came t _ _ _ _ _ _ _ _ htransfers _ hnotices =>
    exact hleft.of_transfers (announced_of_notices hnotices) fun q hq =>
      htransfers ▸ List.mem_append_left _ hq
  | acknowledged t ht hdirection hgone numbers hview hpeers hnotices =>
    refine hleft.of_rows (announced_of_notices hnotices) fun q hq hdirection hgone => ?_
    obtain ⟨q', hq', he⟩ := exists_of_map (reported_transfers hview) hq
    obtain ⟨hhead, hstays⟩ := settled_head he
    obtain ⟨-, hsame, huuid⟩ := LocalTransfer.head_eq.mp hhead
    exact ⟨q', hq', hsame.trans hdirection, huuid, hstays hgone⟩
  | created _ _ _ _ htransfers _ hnotices =>
    exact hleft.of_transfers (announced_of_notices hnotices) fun t ht => htransfers ▸ ht

variable {ν : Type} {addressed : PyStr → ν → Prop} {w : ν → Party PyStr PyStr PyStr} {p : ν}

/-- What happens to the items of an outgoing transfer goes unseen. -/
theorem outgoing_items_step (hw : w p = db.party) (hk : db.Keyed) {t : LocalTransfer}
    (ht : t ∈ db.transfers) (hdirection : t.direction = .outbound)
    (hhere : ∀ number, db'.Here number → db.Here number)
    (hheads : db'.transfers.map (·.head) = db.transfers.map (·.head))
    (hannounced : db'.announced = db.announced)
    (hforth : ∀ i ∈ db.transferItems, i.transferId ≠ t.id →
      ∃ i' ∈ db'.transferItems, i'.shown = i.shown)
    (hback : ∀ i' ∈ db'.transferItems, i'.transferId ≠ t.id →
      ∃ i ∈ db.transferItems, i.shown = i'.shown) :
    Step addressed w p db'.party := by
  have hother : ∀ {x i}, Incoming db' x i → i.transferId ≠ t.id := by
    intro x i hi he
    obtain ⟨q, hq, hid, hinbound, -⟩ := hi.transfer
    obtain ⟨r, hr, hhead⟩ := exists_of_map hheads.symm hq
    obtain ⟨hrid, hsame, -⟩ := LocalTransfer.head_eq.mp hhead
    obtain rfl := hk.transfer_eq hr ht (hrid.trans (hid.trans he))
    exact absurd (hdirection.symm.trans (hsame.trans hinbound)) (by decide)
  obtain ⟨hdue, htaken⟩ := due_of_shown hheads
    (fun _ i hi => hforth i hi.mem (hi.other hk ht hdirection)) fun _ i hi =>
      hback i hi.mem (hother hi)
  refine .keep ?_ ?_ ?_ ?_ ?_ <;> rw [hw]
  · exact hhere
  · exact opened_of_heads hheads
  · exact sent_of_announced hannounced
  · exact hdue
  · exact htaken

/-- Every transaction is a step of the party. -/
theorem Shipment.step (hw : w p = db.party) (hk : db.Keyed) (hleft : db.AnnouncedLeft)
    (hopens : ∀ transferUuid, Opens transferUuid → ∀ q, transferUuid ∉ (w q).opened)
    (htold : ∀ transferUuid number, Told transferUuid number →
      ∃ q code, (transferUuid, code, number) ∈ (w q).sent ∧ addressed code p)
    (hnew : ∀ number, New number → ∀ x, ¬ At w number x) (h : Shipment Opens Told New db db') :
    Step addressed w p db'.party := by
  cases h with
  | quiet hcargo =>
    have hheads := heads_of_cargo (congrArg Cargo.transfers hcargo)
    have hitems : ∀ {d d' : Db}, d'.cargo = d.cargo → ∀ q i, Incoming d q i →
        ∃ i' ∈ d'.transferItems, i'.shown = i.shown := by
      intro d d' hsame _ i hi
      obtain ⟨i', hi', he⟩ := exists_of_map (congrArg Cargo.items hsame) hi.mem
      obtain ⟨-, htransfer, -, hshown⟩ : i'.id = i.id ∧ i'.transferId = i.transferId ∧
          i'.serialId = i.serialId ∧
          (i'.manifestSerialNumber, i'.received) = (i.manifestSerialNumber, i.received) := by
        simpa [LocalTransferItem.cargo] using he
      exact ⟨i', hi', Prod.ext htransfer hshown⟩
    obtain ⟨hdue, htaken⟩ := due_of_shown hheads (hitems hcargo) (hitems hcargo.symm)
    refine .keep ?_ ?_ ?_ ?_ ?_ <;> rw [hw]
    · intro number hnumber
      obtain ⟨s, hs, rfl, hhere⟩ := hnumber
      obtain ⟨q, hq, he⟩ := exists_of_map (congrArg Cargo.serials hcargo).symm hs
      obtain ⟨-, hsame, hqhere, -⟩ : q.id = s.id ∧ q.serialNumber = s.serialNumber ∧
        q.here = s.here ∧
          q.onRoad = s.onRoad := by simpa [Serial.cargo] using he
      exact ⟨q, hq, hsame, hqhere.trans hhere⟩
    · exact opened_of_heads hheads
    · exact sent_of_announced (announced_of_notices (congrArg Cargo.notices hcargo))
    · exact hdue
    · exact htaken
  | drafted t hopensHere hid hdirection hdraft hserials htransfers hitems hnotices =>
    refine .openOne t.transferUuid (hopens _ hopensHere) ?_ ?_ ?_ ?_ ?_ ?_ <;> rw [hw]
    · intro number hnumber
      obtain ⟨s, hs, hrest⟩ := hnumber
      exact ⟨s, hserials ▸ hs, hrest⟩
    · intro v hv
      obtain ⟨q, hq, hdir, rfl⟩ := hv
      rcases List.mem_append.mp (htransfers ▸ hq) with hq | hq
      · exact Or.inr ⟨q, hq, hdir, rfl⟩
      · rw [List.mem_singleton.mp hq]
        exact Or.inl rfl
    · intro v hv
      obtain ⟨q, hq, hrest⟩ := hv
      exact ⟨q, htransfers ▸ List.mem_append_left _ hq, hrest⟩
    · exact sent_of_announced (announced_of_notices hnotices)
    · ext x
      exact exists_congr fun i => incoming_drafted hdirection htransfers hitems
    · ext x
      exact exists_congr fun i => and_congr_left fun _ =>
        incoming_drafted hdirection htransfers hitems
  | edited t ht hserials htransfers hothers hown hnotices =>
    refine outgoing_items_step hw hk ht.mem ht.direction ?_
      (congrArg (List.map (·.head)) htransfers)
      (announced_of_notices hnotices) (fun i hi hof => ⟨i, (hothers i hof).mpr hi, rfl⟩)
      fun i hi hof => ⟨i, (hothers i hof).mp hi, rfl⟩
    intro number ⟨s, hs, hrest⟩
    exact ⟨s, hserials ▸ hs, hrest⟩
  | sent t ht now numbers hsome hnodup hnumbers hwere hhere hoff hroad htransfers hitems
    hannounced =>
    have hheads : db'.transfers.map (·.head) = db.transfers.map (·.head) := by
      rw [htransfers]
      exact heads_modifyRow _ _ _
    obtain ⟨hdue, htaken⟩ := due_of_same hheads hitems
    refine .send t.transferUuid t.peerCode {number | number ∈ numbers} ?_ ?_ ?_ ?_ ?_ ?_ ?_ ?_
      <;> rw [hw]
    · exact ⟨t, ht.mem, ht.direction, rfl⟩
    · -- A draft was not announced: what was announced has left.
      intro code number hsent
      obtain ⟨q, hq, -, huuid, hgone⟩ := hleft _ hsent
      obtain rfl := eq_of_key_eq
        (show (db.transfers.map (·.transferUuid)).Nodup from hk.transferUuids) hq ht.mem
        huuid
      exact hgone ht.draft
    · exact hwere
    · exact fun number hnumber => (hhere number).mp hnumber
    · exact opened_of_heads hheads
    · intro v code number
      show (v, code, number) ∈ db'.announced ↔ _
      rw [hannounced, List.mem_append, List.mem_map]
      refine or_congr_right
        ⟨fun ⟨n, hn, he⟩ => ?_, fun ⟨hv, hcode, hn⟩ => ⟨number, hn, by rw [hv, hcode]⟩⟩
      simp only [Prod.mk.injEq] at he
      exact ⟨he.1.symm, he.2.1.symm, he.2.2 ▸ hn⟩
    · exact hdue
    · exact htaken
  | received t ht hdirection hopen now ids hids hsome numbers hnodup hnumbers hhere hroad
    change hpeer hstatus htransfers
      hitems hreported hannounced =>
    have hheads : db'.transfers.map (·.head) = db.transfers.map (·.head) := by
      rw [htransfers]
      exact heads_modifyRow _ _ _
    -- An item of the transfer itself is one of its incoming items.
    have hown : ∀ i ∈ db.transferItems, i.id ∈ ids →
        Incoming db (t.transferUuid, i.manifestSerialNumber) i := fun i hi hin =>
      ⟨hi, rfl, t, ht, ((hids i hi).mp hin).1.symm, hdirection, rfl⟩
    refine .take t.transferUuid {number | number ∈ numbers} ?_ ?_ ?_ ?_ ?_ ?_ <;> rw [hw]
    · intro number hnumber
      obtain ⟨i, hi, hin, rfl⟩ := (hnumbers number).mp hnumber
      refine ⟨⟨i, hown i hi hin⟩, fun ⟨j, hj, hreceived⟩ => ?_⟩
      -- The transfer has one item for the number, and it is not received yet.
      obtain ⟨hof, -, hunreceived⟩ := (hids i hi).mp hin
      obtain ⟨q, hq, hid, -, huuid⟩ := hj.transfer
      obtain rfl := eq_of_key_eq
        (show (db.transfers.map (·.transferUuid)).Nodup from hk.transferUuids) hq ht huuid
      have hkey : (j.transferId, j.manifestSerialNumber) =
          (i.transferId, i.manifestSerialNumber) := by
        rw [← hid, hof, hj.number]
      obtain rfl := eq_of_key_eq (show (db.transferItems.map fun i : LocalTransferItem =>
        (i.transferId, i.manifestSerialNumber)).Nodup from hk.manifests) hj.mem hi hkey
      rw [hreceived] at hunreceived
      cases hunreceived
    · exact fun number hnumber => (hhere number).mp hnumber
    · exact opened_of_heads hheads
    · exact sent_of_announced hannounced
    · ext x
      exact (incoming_received hheads hitems).1
    · intro v number
      refine (incoming_received hheads hitems (p := (v, number))).2.trans
        ⟨fun ⟨i, hi, hcase⟩ => ?_, fun hcase => ?_⟩
      · refine hcase.imp (fun hreceived => ⟨i, hi, hreceived⟩) fun hin => ?_
        obtain ⟨q, hq, hid, -, huuid⟩ := hi.transfer
        obtain rfl := hk.transfer_eq hq ht (hid.trans ((hids i hi.mem).mp hin).1)
        exact ⟨huuid.symm, (hnumbers number).mpr ⟨i, hi.mem, hin, hi.number⟩⟩
      · rcases hcase with ⟨i, hi, hreceived⟩ | ⟨rfl, hnumber⟩
        · exact ⟨i, hi, Or.inl hreceived⟩
        · obtain ⟨i, hi, hin, rfl⟩ := (hnumbers number).mp hnumber
          exact ⟨i, hown i hi hin, Or.inr hin⟩
  | came t hid hdirection hawaiting items hof hhere hoff hroad htransfers hitems hnotices =>
    have hincoming : ∀ {x i}, Incoming db' x i ↔
        Incoming db x i ∨ i ∈ items ∧ i.manifestSerialNumber = x.2 ∧ t.transferUuid = x.1 :=
      incoming_came hk hid hdirection (fun i hi => (hof i hi).1) htransfers hitems
    refine .tell t.transferUuid {number | ∃ i ∈ items, i.manifestSerialNumber = number} ?_ ?_ ?_
      ?_ ?_ ?_ <;>
      try rw [hw]
    · intro number hnumber
      obtain ⟨i, hi, rfl⟩ := hnumber
      exact htold _ _ (hof i hi).2.2
    · exact hhere
    · ext v
      constructor
      · intro ⟨q, hq, hdir, huuid⟩
        rcases List.mem_append.mp (htransfers ▸ hq) with hq | hq
        · exact ⟨q, hq, hdir, huuid⟩
        · rw [List.mem_singleton.mp hq] at hdir
          exact absurd (hdir.symm.trans hdirection) (by decide)
      · intro ⟨q, hq, hrest⟩
        exact ⟨q, htransfers ▸ List.mem_append_left _ hq, hrest⟩
    · exact sent_of_announced (announced_of_notices hnotices)
    · intro v number
      constructor
      · intro ⟨i, hi⟩
        rcases hincoming.mp hi with hi | ⟨hmem, hnumber, hv⟩
        · exact Or.inl ⟨i, hi⟩
        · exact Or.inr ⟨hv.symm, i, hmem, hnumber⟩
      · intro hcase
        rcases hcase with ⟨i, hi⟩ | ⟨hv, i, hmem, hnumber⟩
        · exact ⟨i, hincoming.mpr (Or.inl hi)⟩
        · exact ⟨i, hincoming.mpr (Or.inr ⟨hmem, hnumber, hv.symm⟩)⟩
    · ext x
      refine exists_congr fun i => ⟨fun ⟨hi, hreceived⟩ => ?_, fun ⟨hi, hreceived⟩ => ?_⟩
      · rcases hincoming.mp hi with hi | ⟨hmem, -⟩
        · exact ⟨hi, hreceived⟩
        · rw [(hof i hmem).2.1] at hreceived
          cases hreceived
      · exact ⟨hincoming.mpr (Or.inl hi), hreceived⟩
  | acknowledged t ht hdirection hgone numbers hview hpeers hnotices =>
    have hothers : ∀ {i' i : LocalTransferItem}, i'.marks = i.marks.report t.id numbers →
        i.transferId ≠ t.id → i'.shown = i.shown := by
      intro i' i he hof
      rw [show i.marks.report t.id numbers = i.marks from if_neg fun hnamed => hof hnamed.1] at he
      obtain ⟨-, htransfer, -, hnumber, -, hreceived⟩ := (ItemMarks.mk.injEq ..).mp he
      exact Prod.ext htransfer (Prod.ext hnumber hreceived)
    refine outgoing_items_step hw hk ht hdirection ?_ (heads_of_report hview)
      (announced_of_notices hnotices) ?_ ?_
    · intro number ⟨s, hs, hnumber, hhere⟩
      rw [reported_serials hview] at hs
      obtain ⟨q, hq, rfl⟩ := List.mem_map.mp hs
      unfold ReceiptView.left at hnumber hhere
      split at hhere
      · exact absurd (Serial.here_iff.mp hhere).1 Bool.false_ne_true
      next hstays =>
        rw [if_neg hstays] at hnumber
        exact ⟨q, hq, hnumber, hhere⟩
    · intro i hi hof
      obtain ⟨i', hi', he⟩ := exists_of_map (reported_items hview) hi
      exact ⟨i', hi', hothers he hof⟩
    · intro i' hi' hof
      obtain ⟨i, hi, he⟩ := exists_of_map (reported_items hview).symm hi'
      refine ⟨i, hi, (hothers he.symm fun hi => hof ?_).symm⟩
      have htransfer := congrArg ItemMarks.transferId he
      rw [ItemMarks.report_transferId] at htransfer
      exact htransfer.symm.trans hi
  | created numbers hnewHere hhere hroad htransfers hitems hnotices =>
    have hheads := congrArg (List.map LocalTransfer.head) htransfers
    obtain ⟨hdue, htaken⟩ := due_of_same hheads hitems
    refine .create {number | number ∈ numbers}
      (fun number hnumber => hnew number (hnewHere number hnumber))
      ?_ ?_ ?_ ?_ ?_ <;> rw [hw]
    · exact fun number hnumber => hhere number hnumber
    · exact opened_of_heads hheads
    · exact sent_of_announced (announced_of_notices hnotices)
    · exact hdue
    · exact htaken

end Steps

end SetuoraLite
