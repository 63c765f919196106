import SetuoraLite.Stock.BatchMoves
import SetuoraLite.Stock.Confluence
import SetuoraLite.Stock.SaleReturns

/-!
# One reservation for each serial

A draft batch reserves the serials of its items, and an open outgoing transfer reserves
the serials it waits for. No constraint of the database spans batches or transfers: each of
the services that insert items looks for a reservation with a query of its own.

Both kinds of reservation are relations between a holder and a serial, `InDraft` and
`WaitsFor`. A step lets go of reservations, or takes new ones for one holder, of serials
that no other holder has (`leftUnique_of_step`); so that no serial has two holders is kept
by every step, and `one_reservation` is about every run.
-/

namespace SetuoraLite

open Lib

variable {rt : Runtime} {st : Settings} {now : Instant} {uuid : PyStr} {db db' : Db}

/-- The batch is a draft, and the serial is one of its items. -/
def InDraft (db : Db) (batchId serialId : Nat) : Prop :=
  (∃ b ∈ db.batches, b.id = batchId ∧ b.status = .draft) ∧
    ∃ i ∈ db.batchItems, i.batchId = batchId ∧ i.serialId = serialId

/-- The serial is an item of the open outgoing transfer, and was not received yet. -/
def WaitsFor (db : Db) (transferId serialId : Nat) : Prop :=
  ∃ i ∈ db.transferItems, i.transferId = transferId ∧ i.serialId = some serialId ∧
    i.received = false ∧ OpenOutbound db i

/-- No serial is in two drafts, and no two open outgoing transfers wait for it. -/
structure OneReservation (db : Db) : Prop where
  batches : Relator.LeftUnique (InDraft db)
  transfers : Relator.LeftUnique (WaitsFor db)

instance decidableInDraft (batchId serialId : Nat) : Decidable (InDraft db batchId serialId) :=
  inferInstanceAs (Decidable (_ ∧ _))

instance decidableWaitsFor (transferId serialId : Nat) :
    Decidable (WaitsFor db transferId serialId) :=
  inferInstanceAs (Decidable (∃ i ∈ db.transferItems, _))

/-- All items of an outgoing transfer that is no longer open were received. -/
def Db.ClosedReceived (db : Db) : Prop :=
  ∀ t ∈ db.transfers, t.direction = .outbound → t.status ∉ openOutboundStatuses →
    ∀ i ∈ db.transferItems, i.transferId = t.id → i.received = true

/-- A new installation reserves nothing. -/
example : OneReservation .empty ∧ Db.ClosedReceived .empty := by
  refine ⟨⟨?_, ?_⟩, ?_⟩
  · rintro b b' n ⟨⟨batch, hbatch, -⟩, -⟩
    cases hbatch
  · rintro t t' n ⟨i, hi, -⟩
    cases hi
  · intro t ht
    cases ht

/-- A step that only lets go, or takes for one holder what no other has, keeps every key with
one holder. -/
theorem leftUnique_of_step {η κ : Type} {R R' : η → κ → Prop} (h : Relator.LeftUnique R) (c : η)
    (hstep : ∀ a k, R' a k → R a k ∨ (a = c ∧ ∀ b, R b k → b = c)) : Relator.LeftUnique R' := by
  intro a b k ha hb
  rcases hstep a k ha with ha | ⟨rfl, hother⟩
  · rcases hstep b k hb with hb | ⟨rfl, hother⟩
    · exact h ha hb
    · exact hother a ha
  · rcases hstep b k hb with hb | ⟨rfl, -⟩
    · exact (hother b hb).symm
    · rfl

/-! ## Drafts -/

section Drafts

/-- Whether a unit is in a draft is read off the keys. -/
theorem inDraft_iff_keys {batchId serialId : Nat} : InDraft db batchId serialId ↔
    (∃ b ∈ db.batches, b.id = batchId ∧ b.status = .draft) ∧
      ∃ k ∈ db.itemKeys, k.2 = (batchId, serialId) := by
  unfold InDraft Db.itemKeys
  simp only [List.mem_map, exists_exists_and_eq_and, Prod.mk.injEq]

/-- What a transaction inserts into a draft no other draft has. -/
theorem rows_free {c : StockCommit} (hready : Ready rt c db) {i : BatchItem} (hi : i ∈ c.rows)
    {batchId : Nat} (h : InDraft db batchId i.serialId) : batchId = i.batchId := by
  obtain ⟨⟨b, hb, rfl, hdraft⟩, j, hj, hof, hserial⟩ := h
  cases c with
  | scanItem item log =>
    obtain ⟨batch, serial, -, rfl, -, -, -, hother, -⟩ := hready
    obtain rfl := List.mem_singleton.mp hi
    by_contra hne
    have hreserved : db.inOtherDraft batch.id serial.id = true := by
      unfold Db.inOtherDraft
      simp only [List.any_eq_true, Bool.and_eq_true, decide_eq_true_eq]
      exact ⟨j, hj, hserial, b, hb, ⟨hof.symm, hdraft⟩, hne⟩
    rw [hother] at hreserved
    cases hreserved
  | pickItems picks =>
    obtain ⟨batch, -, -, hpicks⟩ := hready
    obtain ⟨p, hp, rfl⟩ := List.mem_map.mp hi
    have hreserved : db.inDraftBatch p.1.serialId = true :=
      inDraftBatch_eq_true.mpr ⟨j, hj, hserial, b, hb, hof.symm, hdraft⟩
    rw [(hpicks p hp).2.2.2.1] at hreserved
    cases hreserved
  | _ => exact absurd hi List.not_mem_nil

/-- A write puts no unit into a second draft. -/
theorem drafts_step {c : StockCommit} {u : PUnit} (hk : db.Keyed)
    (h : Relator.LeftUnique (InDraft db)) (hready : Ready rt c db)
    (hx : writesOf c db = (.ok u, db')) :
    Relator.LeftUnique (InDraft db') := by
  -- Drafts that were drafts, with items that they had.
  have hshrink : (∀ b ∈ db'.batches, b.status = .draft →
        (∃ q ∈ db.batches, q.id = b.id ∧ q.status = .draft) ∨ ∀ k ∈ db.itemKeys, k.2.1 ≠ b.id) →
      (∀ k ∈ db'.itemKeys, k ∈ db.itemKeys) → Relator.LeftUnique (InDraft db') := by
    intro hbatches hkeys
    refine leftUnique_of_step h 0 fun batchId serialId hin => Or.inl ?_
    obtain ⟨⟨b, hb, rfl, hdraft⟩, k, hkey, he⟩ := inDraft_iff_keys.mp hin
    rcases hbatches b hb hdraft with hold | hnone
    · exact inDraft_iff_keys.mpr ⟨hold, k, hkeys k hkey, he⟩
    · exact absurd (congrArg Prod.fst he) (hnone k (hkeys k hkey))
  cases writesOf_batchMove hready hx with
  | kept batches items =>
    exact hshrink (fun b hb hdraft => Or.inl ⟨b, batches ▸ hb, rfl, hdraft⟩) fun k hkey =>
      items ▸ hkey
  | opened row draft fresh opens batches items =>
    refine hshrink (fun b hb hdraft => ?_) fun k hkey => items ▸ hkey
    rw [batches] at hb
    rcases List.mem_append.mp hb with hb | hb
    · exact Or.inl ⟨b, hb, rfl, hdraft⟩
    · -- No item is of a batch with the new id.
      obtain rfl := List.mem_singleton.mp hb
      refine Or.inr fun k hkey he => ?_
      obtain ⟨i, hi, rfl⟩ := List.mem_map.mp hkey
      obtain ⟨q, hq, hid⟩ := hk.item_batch hi
      exact nextId_fresh hq (hid.trans (Eq.trans he fresh))
  | added batch draft keys rows batches items =>
    refine leftUnique_of_step h batch.id fun batchId serialId hin => ?_
    obtain ⟨hbatch, k, hkey, he⟩ := inDraft_iff_keys.mp hin
    rw [batches] at hbatch
    rw [items] at hkey
    rcases List.mem_append.mp hkey with hold | hnew
    · exact Or.inl (inDraft_iff_keys.mpr ⟨hbatch, k, hold, he⟩)
    · obtain ⟨hof, -, i, hi, hrow⟩ := rows k hnew
      obtain ⟨hid, hserial⟩ := Prod.mk.inj (hrow.symm.trans he)
      have hholder : i.batchId = batch.id := by
        rw [hrow] at hof
        exact hof
      refine Or.inr ⟨hid.symm.trans hholder, fun other hother => ?_⟩
      exact (rows_free hready hi (hserial ▸ hother)).trans hholder
  | removed batch draft item stored batchId drops batches items =>
    refine hshrink (fun b hb hdraft => Or.inl ⟨b, batches ▸ hb, rfl, hdraft⟩) fun k hkey => ?_
    rw [items] at hkey
    exact List.mem_of_mem_filter hkey
  | submitted s loaded submits draft batches items =>
    refine hshrink (fun b hb hdraft => Or.inl ?_) fun k hkey => items ▸ hkey
    rw [batches] at hb
    obtain ⟨q, hq, rfl⟩ := mem_modifyRow.mp hb
    by_cases hid : q.id = loaded.batch.id
    · rw [if_pos hid] at hdraft
      cases hdraft
    · rw [if_neg hid] at hdraft ⊢
      exact ⟨q, hq, rfl, hdraft⟩

/-- The drafts do not show what keeps both tables. -/
theorem drafts_of_tables (h : Relator.LeftUnique (InDraft db))
    (htables : (db'.batches, db'.batchItems) = (db.batches, db.batchItems)) :
    Relator.LeftUnique (InDraft db') := by
  obtain ⟨hbatches, hitems⟩ := Prod.mk.inj htables
  have hsame : InDraft db' = InDraft db := by
    unfold InDraft
    rw [hbatches, hitems]
  rwa [hsame]

end Drafts

/-! ## Open transfers -/

section Waiting

/-- The serial is an item of the outgoing transfer, open or not, and was not received yet. -/
def Unreceived (db : Db) (transferId serialId : Nat) : Prop :=
  ∃ i ∈ db.transferItems, i.transferId = transferId ∧ i.serialId = some serialId ∧
    i.received = false ∧ ∃ t ∈ db.transfers, t.id = transferId ∧ t.direction = .outbound

/-- The items that a step adds to open outgoing transfers are for serials that none has. -/
def AddsFree (db db' : Db) : Prop :=
  ∀ new, db'.transferItems = db.transferItems ++ new → ∀ i ∈ new, OpenOutbound db' i →
    ∀ n ∈ i.serialId, reservedItem db n = none

/-- A unit waits for a transfer exactly when an item of it is unreceived. -/
theorem waitsFor_iff (h : db.ClosedReceived) {transferId serialId : Nat} :
    WaitsFor db transferId serialId ↔ Unreceived db transferId serialId := by
  constructor
  · rintro ⟨i, hi, rfl, hserial, hunreceived, t, ht, hid, hdirection, -⟩
    exact ⟨i, hi, rfl, hserial, hunreceived, t, ht, hid, hdirection⟩
  · rintro ⟨i, hi, rfl, hserial, hunreceived, t, ht, hid, hdirection⟩
    refine ⟨i, hi, rfl, hserial, hunreceived, t, ht, hid, hdirection, ?_⟩
    by_contra hclosed
    have hreceived := h t ht hdirection hclosed i hi hid.symm
    rw [hunreceived] at hreceived
    cases hreceived

/-- An item that is not received was there before and was not received, or it is one of the new
items of a transfer that is new or a draft. -/
theorem TransfersAfter.unreceived_item (hk : db.Keyed) (hstep : TransfersAfter db db')
    {i : LocalTransferItem} (hi : i ∈ db'.transferItems) (hunreceived : i.received = false) :
    (∃ j ∈ db.transferItems, j.transferId = i.transferId ∧ j.serialId = i.serialId ∧
      j.received = false) ∨
      ∃ new, db'.transferItems = db.transferItems ++ new ∧ i ∈ new ∧
        (∀ j ∈ new, j.transferId = i.transferId) ∧
        ∀ t ∈ db.transfers, t.id = i.transferId → t.status = .draft := by
  -- An unreceived item is an old one, or one of the transfer opened or added to.
  cases hstep with
  | kept _ hitems => exact Or.inl ⟨i, hitems ▸ hi, rfl, rfl, hunreceived⟩
  | opened t new hid _ hof _ hitems =>
    rw [hitems] at hi
    rcases List.mem_append.mp hi with hold | hnew
    · exact Or.inl ⟨i, hold, rfl, rfl, hunreceived⟩
    · refine Or.inr
        ⟨new, hitems, hnew, fun j hj => (hof j hj).1.trans (hof i hnew).1.symm, fun q hq he => ?_⟩
      exact absurd (he.trans ((hof i hnew).1.trans hid)) (nextId_fresh hq)
  | added t ht new hof _ _ hitems =>
    rw [hitems] at hi
    rcases List.mem_append.mp hi with hold | hnew
    · exact Or.inl ⟨i, hold, rfl, rfl, hunreceived⟩
    · obtain rfl := List.mem_singleton.mp hnew
      refine Or.inr
        ⟨[i], hitems, hnew, fun j hj => by rw [List.mem_singleton.mp hj], fun q hq he => ?_⟩
      obtain rfl := hk.transfer_eq hq ht.mem (he.trans hof)
      exact ht.draft
  | removed _ _ itemId _ _ hitems =>
    rw [hitems] at hi
    exact Or.inl ⟨i, List.mem_of_mem_filter hi, rfl, rfl, hunreceived⟩
  | dispatched _ _ _ _ _ hitems => exact Or.inl ⟨i, hitems ▸ hi, rfl, rfl, hunreceived⟩
  -- A marked item was there before, and a mark never takes a receipt back.
  | marked _ _ _ ids _ mark hmark _ _ hitems =>
    rw [hitems] at hi
    obtain ⟨j, hj, rfl⟩ := mem_modifyRows.mp hi
    refine Or.inl ⟨j, hj, ?_⟩
    by_cases hin : j.id ∈ ids
    · rw [if_pos hin] at hunreceived ⊢
      refine ⟨rfl, rfl, ?_⟩
      by_contra hreceived
      have hmarked : (j.changed mark).received = true := hmark j (by simpa using hreceived)
      rw [hunreceived] at hmarked
      cases hmarked
    · rw [if_neg hin] at hunreceived ⊢
      exact ⟨rfl, rfl, hunreceived⟩
  -- Of a report only the marks are known, and the items of both states agree in them.
  | reported t _ _ _ numbers hview =>
    have hitems : db'.transferItems.map (·.marks) = (db.transferItems.map (·.marks)).map
        (ItemMarks.report t.id numbers) := congrArg ReceiptView.items hview
    have hmem : i.marks ∈ db'.transferItems.map (·.marks) := List.mem_map_of_mem hi
    rw [hitems] at hmem
    obtain ⟨m, hm, he⟩ := List.mem_map.mp hmem
    obtain ⟨j, hj, rfl⟩ := List.mem_map.mp hm
    refine Or.inl ⟨j, hj, ?_, ?_, ?_⟩
    · exact ItemMarks.report_transferId.symm.trans (congrArg ItemMarks.transferId he)
    · exact ItemMarks.report_serialId.symm.trans (congrArg ItemMarks.serialId he)
    · by_contra hreceived
      have hstays : (j.marks.report t.id numbers).received = true :=
        ItemMarks.report_received.mpr (Or.inl (show j.received = true by simpa using hreceived))
      rw [he] at hstays
      exact absurd (hunreceived.symm.trans hstays) (by decide)

/-- A report closes an open transfer only when everything is received. -/
theorem receiptStatus_closed {flags : List Bool} {status : TransferStatus}
    (hopen : status ∈ openOutboundStatuses)
    (hclosed : receiptStatus flags status ∉ openOutboundStatuses) :
    flags.all id = true := by
  unfold receiptStatus at hclosed
  by_cases hall : flags.all id = true
  · exact hall
  · rw [if_neg hall] at hclosed
    by_cases hany : flags.any id = true
    · rw [if_pos hany] at hclosed
      exact absurd (by decide) hclosed
    · rw [if_neg hany] at hclosed
      exact absurd hopen hclosed

private theorem flags_all {transferId : Nat}
    (h : (ReceiptView.flags (db.transferItems.map (·.marks)) transferId).all id = true)
    {i : LocalTransferItem} (hi : i ∈ db.transferItems) (hof : i.transferId = transferId) :
    i.received = true := by
  have hmem : i.marks ∈ (db.transferItems.map (·.marks)).filter fun m =>
      m.transferId = transferId :=
    List.mem_filter.mpr ⟨List.mem_map_of_mem hi, decide_eq_true hof⟩
  exact List.all_eq_true.mp h i.received (List.mem_map_of_mem (f := (·.received)) hmem)

/-- An outgoing transfer that is not open was there before; it was not open then, or all its
items are received. -/
theorem TransfersAfter.closed_transfer (hk : db.Keyed) (hstep : TransfersAfter db db')
    {q : LocalTransfer} (hq : q ∈ db'.transfers) (hdirection : q.direction = .outbound)
    (hclosed : q.status ∉ openOutboundStatuses) :
    ∃ t ∈ db.transfers, t.id = q.id ∧ t.direction = .outbound ∧ (t.status ∉ openOutboundStatuses ∨
      ∀ i ∈ db'.transferItems, i.transferId = q.id → i.received = true) := by
  -- A transfer that is received now was so before, or the step received it.
  cases hstep with
  | kept htransfers _ => exact ⟨q, htransfers ▸ hq, rfl, hdirection, Or.inl hclosed⟩
  | opened new _ _ hnew _ htransfers _ =>
    rw [htransfers] at hq
    rcases List.mem_append.mp hq with hold | hopened
    · exact ⟨q, hold, rfl, hdirection, Or.inl hclosed⟩
    · obtain rfl := List.mem_singleton.mp hopened
      rw [hnew hdirection] at hclosed
      exact absurd (by decide) hclosed
  | added _ _ _ _ _ htransfers _ => exact ⟨q, htransfers ▸ hq, rfl, hdirection, Or.inl hclosed⟩
  | removed _ _ _ _ htransfers _ => exact ⟨q, htransfers ▸ hq, rfl, hdirection, Or.inl hclosed⟩
  | dispatched d _ _ _ htransfers _ =>
    rw [htransfers] at hq
    obtain ⟨t, ht, rfl⟩ := mem_modifyRow.mp hq
    by_cases hof : t.id = d.id
    · rw [if_pos hof] at hclosed
      exact absurd (show TransferStatus.dispatched ∈ openOutboundStatuses by decide) hclosed
    · rw [if_neg hof] at hdirection hclosed ⊢
      exact ⟨t, ht, rfl, hdirection, Or.inl hclosed⟩
  | marked d hd hinbound _ _ _ _ change htransfers _ =>
    rw [htransfers] at hq
    obtain ⟨t, ht, rfl⟩ := mem_modifyRow.mp hq
    by_cases hof : t.id = d.id
    · rw [if_pos hof] at hdirection
      obtain rfl := hk.transfer_eq ht hd hof
      exact absurd (hdirection.symm.trans hinbound) (by decide)
    · rw [if_neg hof] at hdirection hclosed ⊢
      exact ⟨t, ht, rfl, hdirection, Or.inl hclosed⟩
  -- The statuses of a report are known by the marks of the transfers.
  | reported d _ _ _ numbers hview =>
    have hitems : db'.transferItems.map (·.marks) = (db.transferItems.map (·.marks)).map
        (ItemMarks.report d.id numbers) := congrArg ReceiptView.items hview
    have htransfers : db'.transfers.map (·.marks) = (db.transfers.map (·.marks)).map
        (ReceiptView.settled
            ((db.transferItems.map (·.marks)).map (ItemMarks.report d.id numbers)) d.id) :=
      congrArg ReceiptView.transfers hview
    have hmem : q.marks ∈ db'.transfers.map (·.marks) := List.mem_map_of_mem hq
    rw [htransfers, ← hitems] at hmem
    obtain ⟨m, hm, he⟩ := List.mem_map.mp hmem
    obtain ⟨t, ht, rfl⟩ := List.mem_map.mp hm
    unfold ReceiptView.settled at he
    by_cases hof : t.id = d.id
    · rw [if_pos (show t.marks.id = d.id from hof)] at he
      have hid : t.id = q.id := congrArg TransferMarks.id he
      have hsame : t.direction = q.direction := congrArg TransferMarks.direction he
      have hstatus : receiptStatus
          (ReceiptView.flags (db'.transferItems.map (·.marks)) d.id) t.status
          = q.status := congrArg TransferMarks.status he
      refine ⟨t, ht, hid, hsame.trans hdirection, ?_⟩
      by_cases hopen : t.status ∈ openOutboundStatuses
      · rw [← hstatus] at hclosed
        have hall := receiptStatus_closed hopen hclosed
        exact Or.inr fun i hi hitem => flags_all hall hi (hitem.trans (hid.symm.trans hof))
      · exact Or.inl hopen
    · rw [if_neg (show ¬ t.marks.id = d.id from hof)] at he
      have hid : t.id = q.id := congrArg TransferMarks.id he
      have hsame : t.direction = q.direction := congrArg TransferMarks.direction he
      have hstatus : t.status = q.status := congrArg TransferMarks.status he
      exact ⟨t, ht, hid, hsame.trans hdirection, Or.inl (hstatus ▸ hclosed)⟩

/-- A transfer that is received has received all its items, after a step, too. -/
theorem TransfersAfter.closedReceived (hk : db.Keyed) (h : db.ClosedReceived)
    (hstep : TransfersAfter db db') : db'.ClosedReceived := by
  intro q hq hdirection hclosed i hi hof
  obtain ⟨t, ht, hid, hout, hbefore⟩ := hstep.closed_transfer hk hq hdirection hclosed
  rcases hbefore with hbefore | hall
  · -- Nothing unreceived came to a transfer that was closed before.
    by_contra hreceived
    have hunreceived : i.received = false := by simpa using hreceived
    rcases hstep.unreceived_item hk hi hunreceived with
      ⟨j, hj, htransfer, -, hwaits⟩ | ⟨-, -, -, -, hdraft⟩
    · have hold := h t ht hout hbefore j hj (htransfer.trans (hof.trans hid.symm))
      exact absurd (hwaits.symm.trans hold) (by decide)
    · have hopen : t.status = .draft := hdraft t ht (hid.trans hof.symm)
      rw [hopen] at hbefore
      exact absurd (by decide) hbefore
  · exact hall i hi hof

/-- A step keeps what outgoing transfers wait for, or adds to one of them what none waits for. -/
theorem TransfersAfter.waiting (hk : db.Keyed) (hk' : db'.Keyed) (hclosed : db.ClosedReceived)
    (h : Relator.LeftUnique (WaitsFor db)) (hfree : AddsFree db db')
    (hstep : TransfersAfter db db') :
    Relator.LeftUnique (WaitsFor db') := by
  -- What was waited for before the step still is, by the same transfer.
  have hstays : ∀ t n, WaitsFor db' t n → WaitsFor db t n ∨ ∃ new,
      db'.transferItems = db.transferItems ++ new ∧ ∃ i ∈ new, i.serialId = some n ∧
        OpenOutbound db' i ∧ ∀ j ∈ new, j.transferId = t := by
    rintro t n ⟨i, hi, rfl, hserial, hunreceived, hopen⟩
    rcases hstep.unreceived_item hk hi hunreceived with ⟨j, hj, htransfer, hsame, hwaits⟩ |
      ⟨new, hitems, hnew, hone, -⟩
    · obtain ⟨q, hq, hid, hdirection, -⟩ := hopen
      obtain ⟨t, ht, htid⟩ := hk.item_transfer hj
      obtain ⟨q', hq', hqid, -, hqdirection⟩ := hstep.stillThere ⟨t, ht, rfl, rfl, rfl⟩
      obtain rfl :=
        hk'.transfer_eq hq hq' (hid.trans (htransfer.symm.trans (htid.symm.trans hqid.symm)))
      refine Or.inl
        ((waitsFor_iff hclosed).mpr ⟨j, hj, htransfer, hsame.trans hserial, hwaits, t, ht, ?_, ?_⟩)
      · exact htid.trans htransfer
      · exact hqdirection.symm.trans hdirection
    · exact Or.inr ⟨new, hitems, i, hnew, hserial, hopen, hone⟩
  by_cases hadds : ∃ t n, WaitsFor db' t n ∧ ¬ WaitsFor db t n
  · obtain ⟨c, m, hc, hnot⟩ := hadds
    obtain ⟨new, hitems, i, hi, -, -, hone⟩ := (hstays c m hc).resolve_left hnot
    refine leftUnique_of_step h c fun t n hwaits => ?_
    rcases hstays t n hwaits with hold | ⟨new', hitems', j, hj, hserial, hopen, hone'⟩
    · exact Or.inl hold
    · obtain rfl := List.append_cancel_left (hitems.symm.trans hitems')
      refine Or.inr ⟨(hone' i hi).symm.trans (hone i hi), fun other hother => ?_⟩
      obtain ⟨k, hk, rfl, hkserial, -, hkopen⟩ := hother
      exact absurd hkopen
        (reservedItem_none.mp (hfree new hitems j hj hopen n hserial) k hk hkserial)
  · refine leftUnique_of_step h 0 fun t n hwaits => Or.inl ?_
    by_contra hnot
    exact hadds ⟨t, n, hwaits, hnot⟩

/-! ### What is added -/

/-- What keeps the number of items adds none. -/
private theorem addsFree_of_length (h : db'.transferItems.length ≤ db.transferItems.length) :
    AddsFree db db' := by
  intro new hitems i hi
  rw [hitems, List.length_append] at h
  have hpos := List.length_pos_of_mem hi
  omega

private theorem addsFree_of_keeps {α : Type} {x : Tx α} {r : Except PyError α}
    (hx : Tx.Keeps (fun db : Db => db.transferItems.length) x) (h : x db = (r, db')) :
    AddsFree db db' := by
  have hlength := hx db
  rw [h] at hlength
  exact addsFree_of_length (le_of_eq hlength)

private theorem marksItems_length : MarksItems fun db : Db => db.transferItems.length :=
  fun _ _ => .modify fun _ => List.length_map _

theorem ready_addsFree {c : StockCommit} {u : PUnit} (hready : Ready rt c db)
    (hx : writesOf c db = (.ok u, db')) : AddsFree db db' := by
  by_cases hadd : ∃ row, c = .addTransferItem row
  · obtain ⟨row, rfl⟩ := hadd
    obtain ⟨i, db₁, hinsert, hx⟩ := Tx.bind_ok.mp hx
    obtain ⟨-, rfl⟩ := Tx.pure_ok.mp hx
    obtain ⟨t, serial, product, -, -, -, rfl, -, -, -, hfree⟩ := hready
    obtain ⟨rfl, -, rfl⟩ := insertTransferItem_ok hinsert
    intro new hitems j hj _ n hn
    obtain rfl := List.append_cancel_left hitems
    rw [List.mem_singleton.mp hj] at hn
    obtain rfl := Option.some.inj hn
    exact hfree
  by_cases hremove : ∃ itemId, c = .removeTransferItem itemId
  · obtain ⟨itemId, rfl⟩ := hremove
    obtain rfl := Tx.modify_ok.mp (show deleteTransferItem itemId db = _ from hx)
    exact addsFree_of_length (List.length_filter_le _ _)
  · refine addsFree_of_keeps
      (writesOf_keeps (.of_frame fun _ _ => rfl) marksItems_length (fun _ _ => rfl)
      (fun _ _ => rfl) (fun _ _ => rfl) (fun _ _ => rfl) (fun _ _ => rfl)
      (fun _ _ _ => rfl) c ?_ ?_) hx
    · exact fun row h => absurd ⟨row, h⟩ hadd
    · exact fun itemId h => absurd ⟨itemId, h⟩ hremove

/-- Master's commands add items to incoming transfers only. -/
theorem handled_addsFree {parts : CommandParts} (h : Handled rt st now uuid parts db db') :
    AddsFree db db' := by
  obtain ⟨before, after, db₁, hran, rfl⟩ := h
  -- A handler that adds no item reserves nothing.
  have hkept : ∀ {x : Tx PUnit}, Tx.Keeps (fun db : Db => db.transferItems.length) x →
      x { db with inbox := before } = (.ok ⟨⟩, db₁) → AddsFree db { db₁ with inbox := after } := by
    intro x hx hrun
    have hfree : AddsFree { db with inbox := before } db₁ := addsFree_of_keeps hx hrun
    exact hfree
  cases runHandler_ok hran with
  | available _ hrun =>
    -- An incoming transfer is filled, but it is inbound and reserves nothing.
    obtain ⟨data, manifest, -, rfl | ⟨incoming, transfer, -, hrow, -, hloop⟩⟩ :=
      applyTransferAvailableCommand_ok hrun
    · exact addsFree_of_length le_rfl
    · obtain ⟨htransfers, new, hitems, hnew⟩ := receiveManifest_items hloop
      intro new' hitems' i hi hopen
      obtain rfl := List.append_cancel_left (hitems'.symm.trans hitems)
      obtain ⟨t, ht, hid, hdirection, -⟩ := hopen
      have hof : t.id = transfer.id := hid.trans (hnew i hi).1
      have hstored : t ∈ db₁.transfers := ht
      rw [htransfers] at hstored
      rcases List.mem_append.mp hstored with hold | hnew'
      · rw [hrow] at hof
        exact absurd hof (nextId_fresh hold)
      · rw [List.mem_singleton.mp hnew', hrow] at hdirection
        cases hdirection
  | receipt _ hrun =>
    exact hkept (receipt_keeps marksItems_length (fun _ => updateSerial_keeps (fun _ _ => rfl) _ _)
      (fun _ _ => updateTransfer_keeps (fun _ _ => rfl) _ _) rt now _) hrun
  | reviewed _ hrun => exact hkept (applyReceiptReviewCommand_keeps (fun _ _ => rfl) rt _) hrun
  | allocated _ hrun =>
    exact hkept (applyQrAllocatedCommand_keeps (fun _ _ => rfl) (fun _ _ => rfl) rt st now _) hrun
  | replaced _ hrun =>
    exact hkept (applyQrReplaceCommand_keeps (fun _ _ => rfl) (fun _ _ _ => rfl) st now uuid _ _)
      hrun
  | upserted _ hrun => exact hkept (applyProductUpsertCommand_keeps (fun _ _ => rfl) rt st _) hrun

end Waiting

/-! ## Runs -/

/-- From any state in which no serial is reserved twice, no run of the node reserves one twice. -/
theorem one_reservation (rt : Runtime) (st : Settings) {start : Db} (hkeyed : start.Keyed)
    (hclosed : start.ClosedReceived) (h : OneReservation start) (as : List StockAction) (db : Db)
    (hexec : exec (stockMachine rt st) start as = some db) : OneReservation db := by
  -- What is carried: a received transfer holds no open reservation, and none is double.
  let I (db : Db) : Prop := db.ClosedReceived ∧ OneReservation db
  have htransfers : ∀ db db', db.Keyed → db'.Keyed → I db → AddsFree db db' →
      TransfersAfter db db' →
      db'.ClosedReceived ∧ Relator.LeftUnique (WaitsFor db') := fun db db' hk hk' hI hfree hstep =>
    ⟨hstep.closedReceived hk hI.1, hstep.waiting hk hk' hI.1 hI.2.transfers hfree⟩
  have hend : db.Keyed ∧ I db := by
    refine keyed_invariant (I := I) (P := fun _ => True) ?_ ?_ ?_ (fun _ _ => trivial) hkeyed
      ⟨hclosed, h⟩ hexec
    -- A write of a request adds a unit only where no draft or transfer has it.
    · intro c db db' hk hI hready hx
      obtain ⟨hclosed', hwaiting⟩ := htransfers db db' hk (ready_keyed hk hready hx) hI
        (ready_addsFree hready hx) (ready_transfersAfter hk hready hx)
      exact ⟨hclosed', drafts_step hk hI.2.batches hready hx, hwaiting⟩
    · intro m db db' u hk hI hx
      have hkept := relocateStock_keeps
        (f := fun db => ((db.batches, db.batchItems), db.transfers, db.transferItems))
        (.of_frame fun _ _ => rfl) (fun _ _ => rfl) (fun _ _ => rfl) (fun _ _ => rfl)
        (fun _ _ => rfl)
        (fun _ _ _ => rfl) st m db
      rw [hx] at hkept
      obtain ⟨hbatches, htables⟩ := Prod.mk.inj hkept
      obtain ⟨hrows, hitems⟩ := Prod.mk.inj htables
      obtain ⟨hclosed', hwaiting⟩ :=
        htransfers db db' hk (relocateStock_keyed st m db db' u hk hx) hI
        (addsFree_of_length (le_of_eq (congrArg List.length hitems))) (.kept hrows hitems)
      exact ⟨hclosed', drafts_of_tables hI.2.batches hbatches, hwaiting⟩
    -- A command, by its handler.
    · intro now uuid fields db db' row _ hk hI hx
      have htables : (db'.batches, db'.batchItems, db'.scanLogs) =
          (db.batches, db.batchItems, db.scanLogs) :=
        applyMasterCommand_tables now uuid fields db db' row rfl hx
      have hdrafts : Relator.LeftUnique (InDraft db') := by
        obtain ⟨hbatches, hrest⟩ := Prod.mk.inj htables
        exact drafts_of_tables hI.2.batches (Prod.ext hbatches (Prod.mk.inj hrest).1)
      obtain ⟨parts, -, rfl | hhandled⟩ := applyMasterCommand_ran hx
      · exact hI
      · obtain ⟨hclosed', hwaiting⟩ := htransfers db db' hk
          (applyMasterCommand_keyed rt st now uuid fields db db' row hk hx) hI
            (handled_addsFree hhandled)
          (handled_transfersAfter hk hhandled)
        exact ⟨hclosed', hdrafts, hwaiting⟩
  exact hend.2.2

/-- The unit that came back is scanned into a draft, and then into another one. -/
def twoDrafts : List StockAction :=
  [.order (.openBatch storeClerk
    ⟨.audit, none, none, none, none, none, none, none, none, none, none, none, none⟩
      63900000000000005),
    .order (.scan 1 storeClerk (py "LAMP-1") false 63900000000000006),
    .order (.openBatch storeClerk
      ⟨.audit, none, none, none, none, none, none, none, none, none, none, none, none⟩
      63900000000000007),
    .order (.scan 2 storeClerk (py "LAMP-1") false 63900000000000008)]

/-- Two units leave and one comes back: the transfer they left with still waits for the other,
and no transfer besides it. The first draft has the one that came back, and the second not. -/
theorem one_reservation_lamps :
    ∃ db, exec (stockMachine .plain homeSettings) lampsDb (lampReturns ++ twoDrafts) = some db ∧
      db.batches.length = 2 ∧ InDraft db 1 1 ∧ ¬ InDraft db 2 1 ∧ WaitsFor db 1 2 ∧
      OneReservation db := by
  have hrun : (exec (stockMachine .plain homeSettings) lampsDb (lampReturns ++ twoDrafts)).map
      (fun db =>
      decide (db.batches.length = 2 ∧ InDraft db 1 1 ∧ WaitsFor db 1 2)) = some true := by
    decide +kernel
  have hclosed : lampsDb.ClosedReceived := by
    intro t ht
    cases ht
  have hnone : OneReservation lampsDb := by
    refine ⟨?_, ?_⟩
    · rintro b b' n ⟨⟨batch, hbatch, -⟩, -⟩
      cases hbatch
    · rintro t t' n ⟨i, hi, -⟩
      cases hi
  obtain ⟨db, hdb, hfacts⟩ := Option.map_eq_some_iff.mp hrun
  obtain ⟨htwo, hdraft, hwaits⟩ := of_decide_eq_true hfacts
  have hone := one_reservation .plain homeSettings lampsDb_valid.1 hclosed hnone _ db hdb
  exact ⟨db, hdb, htwo, hdraft, fun hother => absurd (hone.batches hdraft hother) (by decide),
    hwaits, hone⟩

end SetuoraLite
