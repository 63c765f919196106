import SetuoraLite.Stock.Receipts
import SetuoraLite.Stock.TransferMoves
import SetuoraLite.Stock.Reservations

/-!
# Receipts converge

`TransfersAfter` is everything an action of a node can do to transfers and their items.
From it follow the two facts that every run keeps: the status of a dispatched outgoing
transfer is the one its items give it (`Tracked`), and what was received stays received.

`receipts_confluent`: what receipts leave behind is decided by the numbers they report
together, and a serial that has come back is not touched again.
-/

namespace SetuoraLite

open Lib

variable {rt : Runtime} {st : Settings} {now : Instant} {uuid : PyStr} {db db' : Db}

/-! ## What an action does to transfers -/

/-- An outgoing transfer that is a draft. -/
structure OutgoingDraft (db : Db) (t : LocalTransfer) : Prop where
  mem : t ∈ db.transfers
  direction : t.direction = .outbound
  draft : t.status = .draft

/-- The items of the transfer, and no others. -/
def ItemsOf (db : Db) (t : LocalTransfer) (ids : List Nat) : Prop :=
  ∀ i ∈ db.transferItems, i.id ∈ ids → i.transferId = t.id

/-- What an action may do to transfers and their items. -/
inductive TransfersAfter (db db' : Db) : Prop
  | kept (htransfers : db'.transfers = db.transfers) (hitems : db'.transferItems = db.transferItems)
  /-- A draft without items, or an incoming transfer with its manifest. -/
  | opened (t : LocalTransfer) (items : List LocalTransferItem)
      (hid : t.id = nextId (·.id) db.transfers)
      (hnew : t.direction = .outbound → t.status = .draft)
      (hofNew : ∀ i ∈ items, i.transferId = t.id ∧ i.received = false)
      (htransfers : db'.transfers = db.transfers ++ [t])
      (hitems : db'.transferItems = db.transferItems ++ items)
  | added (t : LocalTransfer) (ht : OutgoingDraft db t) (i : LocalTransferItem)
      (hof : i.transferId = t.id)
      (hunreceived : i.received = false) (htransfers : db'.transfers = db.transfers)
      (hitems : db'.transferItems = db.transferItems ++ [i])
  | removed (t : LocalTransfer) (ht : OutgoingDraft db t) (itemId : Nat)
      (hof : ItemsOf db t [itemId])
      (htransfers : db'.transfers = db.transfers)
      (hitems : db'.transferItems = db.transferItems.filter fun i => i.id ≠ itemId)
  | dispatched (t : LocalTransfer) (ht : OutgoingDraft db t) (now : Instant)
      (hsome : db.transferItemsOf t.id ≠ [])
      (htransfers : db'.transfers = modifyRow (·.id) t.id
        (LocalTransfer.changed (LocalTransfer.dispatchedAs now)) db.transfers)
      (hitems : db'.transferItems = db.transferItems)
  /-- The items of an incoming transfer are scanned or received. -/
  | marked (t : LocalTransfer) (ht : t ∈ db.transfers) (hdirection : t.direction = .inbound)
      (ids : List Nat) (hof : ItemsOf db t ids) (mark : LocalTransferItem → LocalTransferItem)
      (hmark : ∀ i, i.received = true → (mark i).received = true)
      (change : LocalTransfer → LocalTransfer)
      (htransfers : db'.transfers =
        modifyRow (·.id) t.id (LocalTransfer.changed change) db.transfers)
      (hitems : db'.transferItems =
        modifyRows (·.id) ids (LocalTransferItem.changed mark) db.transferItems)
  | reported (t : LocalTransfer) (ht : t ∈ db.transfers) (hdirection : t.direction = .outbound)
      (hdispatched : t.status ≠ .draft) (numbers : List PyStr)
      (hview : db'.receiptView = db.receiptView.report t.id numbers)

private abbrev transferTables (db : Db) : List LocalTransfer × List LocalTransferItem :=
  (db.transfers, db.transferItems)

private theorem kept_of_keeps {α : Type} {x : Tx α} {r : Except PyError α}
    (hx : Tx.Keeps transferTables x) (h : x db = (r, db')) : TransfersAfter db db' := by
  have hkept := hx db
  rw [h] at hkept
  obtain ⟨htransfers, hitems⟩ := Prod.mk.inj hkept
  exact .kept htransfers hitems

private theorem movesSerials_tables : MovesSerials transferTables := .of_frame fun _ _ => rfl

/-- A transfer that was loaded is the one that is stored, with its items. -/
private theorem loaded_items {loaded : LoadedTransfer} (hfrom : loaded.From db)
    {ids : List Nat} (hids : ∀ n ∈ ids, n ∈ loaded.items.map (·.item.id)) (hk : db.Keyed) :
    ItemsOf db loaded.transfer ids := by
  intro i hi hin
  obtain ⟨l, hl, hid⟩ := List.mem_map.mp (hids _ hin)
  have hmem : l.item ∈ db.transferItemsOf loaded.transfer.id := by
    rw [← hfrom.items]
    exact List.mem_map_of_mem hl
  obtain ⟨hstored, hof⟩ := List.mem_filter.mp hmem
  obtain rfl := eq_of_key_eq hk.transferItems hstored hi hid
  simpa using hof

/-- A write that is ready changes them in one of these ways. -/
theorem ready_transfersAfter {c : StockCommit} {u : PUnit} (hk : db.Keyed) (hready : Ready rt c db)
    (hx : writesOf c db = (.ok u, db')) : TransfersAfter db db' := by
  -- The writes of a batch leave transfers and their items alone.
  by_cases hc : c.ofTransfers = false
  · exact kept_of_keeps (batchWrites_keeps movesSerials_tables (fun _ _ => rfl) (fun _ _ => rfl)
      (fun _ _ => rfl) (fun _ _ => rfl) (fun _ _ _ => rfl) hc) hx
  -- Six writes of transfers are left.
  cases c with
  | createTransfer row =>
    obtain ⟨t, db₁, hinsert, hx⟩ := Tx.bind_ok.mp hx
    obtain ⟨-, rfl⟩ := Tx.pure_ok.mp hx
    obtain ⟨rfl, -, rfl⟩ := insertTransfer_ok hinsert
    exact .opened { row with id := nextId (·.id) db.transfers } [] rfl (fun _ => hready.2)
      (by simp) rfl
      (List.append_nil _).symm
  | addTransferItem row =>
    obtain ⟨i, db₁, hinsert, hx⟩ := Tx.bind_ok.mp hx
    obtain ⟨-, rfl⟩ := Tx.pure_ok.mp hx
    obtain ⟨t, serial, product, ht, hdirection, hdraft, rfl, -⟩ := hready
    obtain ⟨rfl, -, rfl⟩ := insertTransferItem_ok hinsert
    exact .added t ⟨(lookup_some ht).1, hdirection, hdraft⟩ _ rfl rfl rfl rfl
  | removeTransferItem itemId =>
    obtain ⟨t, item, ht, hdirection, hdraft, hitem, rfl, hof⟩ := hready
    obtain rfl := Tx.modify_ok.mp (show deleteTransferItem item.id db = _ from hx)
    refine .removed t ⟨(lookup_some ht).1, hdirection, hdraft⟩ item.id ?_ rfl rfl
    intro i hi hin
    obtain rfl := eq_of_key_eq hk.transferItems hi hitem (List.mem_singleton.mp hin)
    exact hof
  | dispatch s loaded =>
    obtain ⟨hfrom, hdirection, hdraft, hsome⟩ := hready
    -- The rows of a dispatch are those of its moves; the event only adds to the outbox.
    obtain ⟨serials, logs, db₁, items, row, hmoved, hqueued⟩ := (dispatch_ok hx).rows
    obtain rfl := hmoved.rows
    refine .dispatched loaded.transfer ⟨(lookup_some hfrom.transfer).1, hdirection, hdraft⟩
      s.now ?_ ?_ ?_
    · rw [← hfrom.items]
      simpa using hsome
    · rw [hqueued.appended]
    · rw [hqueued.appended]
      rfl
  -- The unit scanned is looked up before it is marked.
  | scanTransferItem item now =>
    obtain ⟨t, ht, hdirection, -, hitem, hof⟩ := hready
    obtain ⟨seen, db₁, h₁, hx⟩ := Tx.bind_ok.mp hx
    obtain ⟨rfl, rfl⟩ := Tx.reads_ok.mp h₁
    obtain ⟨_, db₂, h₂, hx⟩ := Tx.bind_ok.mp hx
    obtain ⟨-, rfl⟩ := Tx.raiseIf_ok.mp h₂
    obtain rfl := Tx.modify_ok.mp hx
    refine .marked t (lookup_some ht).1 hdirection [item.id] ?_
      (fun i => { i with scanned := true, scannedAt := some now }) (fun _ h => h) id
      (modifyRow_same fun _ => rfl).symm modifyRows_singleton.symm
    intro i hi hin
    obtain rfl := eq_of_key_eq hk.transferItems hi hitem (List.mem_singleton.mp hin)
    exact hof
  | receive s loaded =>
    obtain ⟨hfrom, hdirection, -, -⟩ := hready
    obtain ⟨serials, logs, db₁, items, row, hmoved, hqueued⟩ := (receive_ok hx).rows
    obtain rfl := hmoved.rows
    refine .marked loaded.transfer (lookup_some hfrom.transfer).1 hdirection
      (loaded.receiptItems.map (·.item.id)) (loaded_items hfrom ?_ hk)
      (LocalTransferItem.receivedAs s.now)
      (fun _ _ => rfl) (LocalTransfer.afterReceipt s.now loaded.items) ?_ ?_
    · intro n hn
      obtain ⟨l, hl, rfl⟩ := List.mem_map.mp hn
      exact List.mem_map_of_mem (List.mem_of_mem_filter hl)
    · rw [hqueued.appended]
    · rw [hqueued.appended]
      rfl
  | _ => exact absurd rfl hc

/-- The manifest loop adds items of its transfer, none of them received. -/
theorem receiveManifest_items {transferId : Nat} {items : List Json} {seen : List PyStr} {u : PUnit}
    (h : receiveManifest rt now transferId seen items db = (.ok u, db')) :
    db'.transfers = db.transfers ∧ ∃ new, db'.transferItems = db.transferItems ++ new ∧
      ∀ i ∈ new, i.transferId = transferId ∧ i.received = false := by
  let I (t : Db) : Prop :=
    t.transfers = db.transfers ∧ ∃ new, t.transferItems = db.transferItems ++ new ∧
    ∀ i ∈ new, i.transferId = transferId ∧ i.received = false
  have hend : I db' := by
    refine receiveManifest_invariant (I := I) ?_ items seen db db' u ⟨rfl, [], by simp, by simp⟩ h
    intro number t t' ht hstep
    obtain ⟨htransfers, new, hitems, hnew⟩ := ht
    obtain ⟨⟨products, serials, s, p, -, -, rfl⟩, -⟩ := hstep
    refine ⟨htransfers,
      new ++ [transferItemRow transferId s p (nextId (·.id) t.transferItems)], ?_, ?_⟩
    · show t.transferItems ++ [_] = _
      rw [hitems, List.append_assoc]
    · intro i hi
      rcases List.mem_append.mp hi with hi | hi
      · exact hnew i hi
      · rw [List.mem_singleton.mp hi]
        exact ⟨rfl, rfl⟩
  exact hend

theorem handled_transfersAfter {parts : CommandParts} (hk : db.Keyed)
    (h : Handled rt st now uuid parts db db') : TransfersAfter db db' := by
  obtain ⟨before, after, db₁, hran, rfl⟩ := h
  -- A handler that keeps both tables.
  have hkept : ∀ {x : Tx PUnit}, Tx.Keeps transferTables x →
      x { db with inbox := before } = (.ok ⟨⟩, db₁) →
      TransfersAfter db { db₁ with inbox := after } := by
    intro x hx hrun
    have htables := hx { db with inbox := before }
    rw [hrun] at htables
    obtain ⟨htransfers, hitems⟩ := Prod.mk.inj htables
    exact .kept htransfers hitems
  cases runHandler_ok hran with
  | available _ hrun =>
    obtain ⟨data, manifest, -, rfl | ⟨incoming, transfer, -, hrow, -, hloop⟩⟩ :=
      applyTransferAvailableCommand_ok hrun
    · exact .kept rfl rfl
    · obtain ⟨htransfers, new, hitems, hnew⟩ := receiveManifest_items hloop
      refine .opened transfer new ?_ ?_ hnew htransfers hitems
      · rw [hrow]
        rfl
      · intro hdirection
        rw [hrow] at hdirection
        cases hdirection
  | receipt _ hrun =>
    let c : ReceiptCommand := ⟨now, parts.payload⟩
    obtain ⟨t, ht, hfor⟩ := applyTransferReceiptCommand_found (c := c) hrun
    have hkInbox : Db.Keyed { db with inbox := before } := hk
    obtain ⟨hdirection, hdispatched, hview⟩ :=
      applyTransferReceiptCommand_view (c := c) hkInbox ht hfor hrun
    exact .reported t ht hdirection hdispatched _ hview
  | reviewed _ hrun => exact hkept (applyReceiptReviewCommand_keeps (fun _ _ => rfl) rt _) hrun
  | allocated _ hrun =>
    exact hkept (applyQrAllocatedCommand_keeps (fun _ _ => rfl) (fun _ _ => rfl) rt st now _) hrun
  | replaced _ hrun =>
    exact hkept (applyQrReplaceCommand_keeps (fun _ _ => rfl) (fun _ _ _ => rfl) st now uuid _ _)
      hrun
  | upserted _ hrun => exact hkept (applyProductUpsertCommand_keeps (fun _ _ => rfl) rt st _) hrun

/-! ## The status of an outgoing transfer -/

/-- The status of an outgoing transfer is the one its items give it; no item of a draft is
received. -/
def TransferMarks.Agrees (items : List ItemMarks) (t : TransferMarks) : Prop :=
  t.direction = .outbound →
    if t.status = .draft then true ∉ ReceiptView.flags items t.id
    else receiptStatus (ReceiptView.flags items t.id) t.status = t.status

/-- The status of every outgoing transfer agrees with its items. -/
def Db.Tracked (db : Db) : Prop :=
  ∀ t ∈ db.transfers, t.marks.Agrees (db.transferItems.map (·.marks))

/-- A new installation has no transfers. -/
example : Db.empty.Tracked := by
  intro t ht
  cases ht

namespace ReceiptView

/-- The flags of a longer list. -/
theorem flags_append (items new : List ItemMarks) (id : Nat) :
    flags (items ++ new) id = flags items id ++ flags new id := by
  unfold flags
  rw [List.filter_append, List.map_append]

/-- The items of other transfers do not count. -/
theorem flags_append_of_ne {items new : List ItemMarks} {id : Nat}
    (h : ∀ m ∈ new, m.transferId ≠ id) :
    flags (items ++ new) id = flags items id := by
  have hnone : flags new id = [] := by
    unfold flags
    rw [List.filter_eq_nil_iff.mpr fun m hm => by simpa using h m hm]
    rfl
  rw [flags_append, hnone, List.append_nil]

theorem flags_cons (m : ItemMarks) (items : List ItemMarks) (id : Nat) :
    flags (m :: items) id =
      if m.transferId = id then m.received :: flags items id else flags items id := by
  unfold flags
  rw [List.filter_cons]
  by_cases hid : m.transferId = id <;> simp [hid]

/-- Marks of other transfers' items do not count. -/
theorem flags_map {items : List ItemMarks} {id : Nat} {f : ItemMarks → ItemMarks}
    (htransfer : ∀ m ∈ items, (f m).transferId = m.transferId)
    (hsame : ∀ m ∈ items, m.transferId = id → (f m).received = m.received) :
    flags (items.map f) id = flags items id := by
  induction items with
  | nil => rfl
  | cons m items ih =>
    have hrest := ih (fun m hm => htransfer m (List.mem_cons_of_mem _ hm))
      fun m hm => hsame m (List.mem_cons_of_mem _ hm)
    rw [List.map_cons, flags_cons, flags_cons, hrest, htransfer m List.mem_cons_self]
    by_cases hid : m.transferId = id
    · rw [if_pos hid, if_pos hid, hsame m List.mem_cons_self hid]
    · rw [if_neg hid, if_neg hid]

end ReceiptView

open ReceiptView

/-- A flag is set when an item of the transfer is received. -/
theorem mem_flags {id : Nat} : true ∈ flags (db.transferItems.map (·.marks)) id ↔
    ∃ i ∈ db.transferItems, i.transferId = id ∧ i.received = true := by
  unfold flags
  simp [List.mem_map, List.mem_filter, LocalTransferItem.marks, and_assoc]

private theorem flags_modifyRows {id : Nat} {ids : List Nat}
    {mark : LocalTransferItem → LocalTransferItem} {items : List LocalTransferItem}
    (h : ∀ i ∈ items, i.id ∈ ids → i.transferId ≠ id) :
    flags ((modifyRows (·.id) ids (LocalTransferItem.changed mark) items).map (·.marks)) id
      = flags (items.map (·.marks)) id := by
  induction items with
  | nil => rfl
  | cons i items ih =>
    have hrest := ih fun i hi => h i (List.mem_cons_of_mem _ hi)
    have hcons : modifyRows (·.id) ids (LocalTransferItem.changed mark) (i :: items)
        = (if i.id ∈ ids then i.changed mark else i)
          :: modifyRows (·.id) ids (LocalTransferItem.changed mark) items := rfl
    rw [hcons, List.map_cons, List.map_cons, flags_cons, flags_cons, hrest]
    by_cases hin : i.id ∈ ids
    · have hne : ¬ i.marks.transferId = id := h i List.mem_cons_self hin
      have hne' : ¬ (i.changed mark).marks.transferId = id := hne
      rw [if_pos hin, if_neg hne, if_neg hne']
    · rw [if_neg hin]

/-- No item of a draft is received. -/
theorem Db.Tracked.unreceived (h : db.Tracked) {t : LocalTransfer} (ht : OutgoingDraft db t)
    {i : LocalTransferItem} (hi : i ∈ db.transferItems) (hof : i.transferId = t.id) :
    i.received = false := by
  have hagrees := h t ht.mem ht.direction
  rw [if_pos (show t.marks.status = .draft from ht.draft)] at hagrees
  by_contra hreceived
  exact hagrees (mem_flags.mpr ⟨i, hi, hof, by simpa using hreceived⟩)

/-- Agreement is about the items of the transfer itself. -/
theorem TransferMarks.Agrees.of_flags {items items' : List ItemMarks} {t : TransferMarks}
    (h : t.Agrees items) (hflags : flags items' t.id = flags items t.id) : t.Agrees items' := by
  intro hdirection
  rw [hflags]
  exact h hdirection

/-- Other transfers than the one an action is for keep their row and their items. -/
private theorem agrees_of_ne {t : LocalTransfer} {items' : List ItemMarks} (h : db.Tracked)
    (ht : t ∈ db.transfers)
    (hflags : flags items' t.id = flags (db.transferItems.map (·.marks)) t.id) :
    t.marks.Agrees items' :=
  (h t ht).of_flags hflags

/-- A draft agrees with items of which none is received. -/
private theorem agrees_of_draft {t : LocalTransfer} {items : List ItemMarks}
    (hdraft : t.status = .draft) (hnone : true ∉ flags items t.id) : t.marks.Agrees items := by
  intro _
  rw [if_pos (show t.marks.status = .draft from hdraft)]
  exact hnone

/-- A step keeps the statuses true to the items. -/
theorem TransfersAfter.tracked (hk : db.Keyed) (h : db.Tracked) (hstep : TransfersAfter db db') :
    db'.Tracked := by
  cases hstep with
  | kept htransfers hitems =>
    intro t ht
    rw [htransfers] at ht
    rw [hitems]
    exact h t ht
  | opened new items hid hnew hof htransfers hitems =>
    intro t ht
    rw [htransfers] at ht
    rw [hitems, List.map_append]
    rcases List.mem_append.mp ht with ht | ht
    · -- The new items are of a transfer with a new id.
      refine agrees_of_ne h ht (flags_append_of_ne fun m hm he => ?_)
      obtain ⟨i, hi, rfl⟩ := List.mem_map.mp hm
      have hof' : i.transferId = new.id := (hof i hi).1
      exact nextId_fresh ht (he.symm.trans (hof'.trans hid))
    · obtain rfl := List.mem_singleton.mp ht
      intro hdirection
      refine agrees_of_draft (hnew hdirection) ?_ hdirection
      intro hmem
      rw [flags_append, List.mem_append] at hmem
      rcases hmem with hold | hnewItem
      · obtain ⟨i, hi, hofOld, -⟩ := mem_flags.mp hold
        obtain ⟨q, hq, hqid⟩ := hk.item_transfer hi
        exact nextId_fresh hq (hqid.trans (hofOld.trans hid))
      · obtain ⟨m, hm, hreceived⟩ := List.mem_map.mp hnewItem
        obtain ⟨i, hi, rfl⟩ := List.mem_map.mp (List.mem_of_mem_filter hm)
        have hunreceived : i.received = false := (hof i hi).2
        exact absurd (hunreceived.symm.trans hreceived) (by decide)
  | added d hd new hof hunreceived htransfers hitems =>
    intro t ht
    rw [htransfers] at ht
    rw [hitems, List.map_append]
    by_cases hid : t.id = d.id
    · obtain rfl := hk.transfer_eq ht hd.mem hid
      refine agrees_of_draft hd.draft ?_
      rw [flags_append, List.mem_append]
      rintro (hold | hnewItem)
      · obtain ⟨i, hi, hofOld, hreceived⟩ := mem_flags.mp hold
        rw [h.unreceived hd hi hofOld] at hreceived
        cases hreceived
      · obtain ⟨m, hm, hreceived⟩ := List.mem_map.mp hnewItem
        obtain ⟨i, hi, rfl⟩ := List.mem_map.mp (List.mem_of_mem_filter hm)
        obtain rfl := List.mem_singleton.mp hi
        exact absurd (hunreceived.symm.trans hreceived) (by decide)
    · refine agrees_of_ne h ht (flags_append_of_ne fun m hm he => ?_)
      obtain ⟨i, hi, rfl⟩ := List.mem_map.mp hm
      obtain rfl := List.mem_singleton.mp hi
      exact hid (he.symm.trans hof)
  | removed d hd itemId hof htransfers hitems =>
    intro t ht
    rw [htransfers] at ht
    have hsub : (db'.transferItems.map (·.marks)).Sublist (db.transferItems.map (·.marks)) := by
      rw [hitems]
      exact List.filter_sublist.map _
    by_cases hid : t.id = d.id
    · obtain rfl := hk.transfer_eq ht hd.mem hid
      refine agrees_of_draft hd.draft fun hmem => ?_
      have hbefore : true ∈ flags (db.transferItems.map (·.marks)) t.id :=
        ((hsub.filter _).map _).subset hmem
      obtain ⟨i, hi, hofOld, hreceived⟩ := mem_flags.mp hbefore
      rw [h.unreceived hd hi hofOld] at hreceived
      cases hreceived
    · refine agrees_of_ne h ht ?_
      unfold flags
      rw [hitems, List.filter_map, List.filter_map, List.filter_filter]
      congr 2
      apply List.filter_congr
      intro i hi
      by_cases hi' : i.id = itemId
      · have hofItem := hof i hi (List.mem_singleton.mpr hi')
        have hne : ¬ i.marks.transferId = t.id := fun he => hid (he.symm.trans hofItem)
        simp [hi', hne]
      · simp [hi']
  | dispatched d hd now hsome htransfers hitems =>
    intro t ht
    rw [htransfers] at ht
    rw [hitems]
    obtain ⟨t₀, ht₀, rfl⟩ := mem_modifyRow.mp ht
    by_cases hid : t₀.id = d.id
    · obtain rfl := hk.transfer_eq ht₀ hd.mem hid
      rw [if_pos rfl]
      intro _
      -- The items of a draft are not received, and there are some.
      have hnone : ∀ b ∈ flags (db.transferItems.map (·.marks)) t₀.id, b = false := by
        intro b hb
        cases b with
        | false => rfl
        | true =>
          obtain ⟨i, hi, hof, hreceived⟩ := mem_flags.mp hb
          rw [h.unreceived hd hi hof] at hreceived
          cases hreceived
      have hflags : flags (db.transferItems.map (·.marks)) t₀.id ≠ [] := by
        unfold flags
        rw [List.filter_map, List.map_map]
        simpa [Db.transferItemsOf, LocalTransferItem.marks] using hsome
      obtain ⟨b, rest, hcons⟩ := List.exists_cons_of_ne_nil hflags
      rw [if_neg (show ¬ (t₀.changed (LocalTransfer.dispatchedAs now)).marks.status =
        .draft from nofun)]
      have hb := hnone b (hcons ▸ List.mem_cons_self)
      show receiptStatus (flags (db.transferItems.map (·.marks)) t₀.id) .dispatched = .dispatched
      unfold receiptStatus
      have hall : ¬ (flags (db.transferItems.map (·.marks)) t₀.id).all id = true := by
        rw [hcons, hb]
        simp
      have hany : ¬ (flags (db.transferItems.map (·.marks)) t₀.id).any id = true := by
        intro hany
        obtain ⟨b, hb, htrue⟩ := List.any_eq_true.mp hany
        rw [hnone b hb] at htrue
        cases htrue
      rw [if_neg hall, if_neg hany]
    · rw [if_neg hid]
      exact h t₀ ht₀
  | marked d hd hdirection ids hof mark hmark change htransfers hitems =>
    intro t ht hout
    rw [htransfers] at ht
    obtain ⟨t₀, ht₀, rfl⟩ := mem_modifyRow.mp ht
    by_cases hid : t₀.id = d.id
    · obtain rfl := hk.transfer_eq ht₀ hd hid
      rw [if_pos rfl] at hout
      exact absurd (hdirection.symm.trans hout) (by decide)
    · rw [if_neg hid] at hout ⊢
      refine agrees_of_ne h ht₀ ?_ hout
      rw [hitems]
      exact flags_modifyRows (fun i hi hin he => hid (he.symm.trans (hof i hi hin)))
  | reported d hd hdirection hdispatched numbers hview =>
    have hitems : db'.transferItems.map (·.marks) = (db.transferItems.map (·.marks)).map
        (ItemMarks.report d.id numbers) := congrArg ReceiptView.items hview
    have htransfers : db'.transfers.map (·.marks) = (db.transfers.map (·.marks)).map
        (settled ((db.transferItems.map (·.marks)).map (ItemMarks.report d.id numbers)) d.id) :=
      congrArg ReceiptView.transfers hview
    intro t ht
    have hmem : t.marks ∈ db'.transfers.map (·.marks) := List.mem_map_of_mem ht
    rw [htransfers] at hmem
    obtain ⟨m, hm, he⟩ := List.mem_map.mp hmem
    obtain ⟨t₀, ht₀, rfl⟩ := List.mem_map.mp hm
    rw [hitems, ← he]
    by_cases hid : t₀.id = d.id
    · obtain rfl := hk.transfer_eq ht₀ hd hid
      have hsettled : settled
          ((db.transferItems.map (·.marks)).map (ItemMarks.report t₀.id numbers)) t₀.id t₀.marks =
            { t₀.marks with
              status := receiptStatus (flags ((db.transferItems.map (·.marks)).map
                (ItemMarks.report t₀.id numbers)) t₀.id) t₀.status } := if_pos rfl
      rw [hsettled]
      intro _
      have hstill : ∀ flags : List Bool, receiptStatus flags t₀.status ≠ .draft := by
        intro flags
        unfold receiptStatus
        split
        · decide
        · split
          · decide
          · exact hdispatched
      rw [if_neg (hstill _)]
      exact receiptStatus_mono id id
    · have hother : settled
          ((db.transferItems.map (·.marks)).map (ItemMarks.report d.id numbers)) d.id
          t₀.marks = t₀.marks := if_neg hid
      rw [hother]
      refine agrees_of_ne h ht₀
        (flags_map (fun _ _ => ItemMarks.report_transferId) fun m hm hof => ?_)
      have hnot : ¬ m.Named d.id numbers := fun hnamed => hid (hof.symm.trans hnamed.1)
      unfold ItemMarks.report
      rw [if_neg hnot]

/-! ## What is received stays received -/

/-- The item is still there, for the same serial, and received. -/
def StillReceived (i : LocalTransferItem) (db : Db) : Prop :=
  ∃ q ∈ db.transferItems, q.id = i.id ∧ q.transferId = i.transferId ∧ q.serialId = i.serialId ∧
    q.manifestSerialNumber = i.manifestSerialNumber ∧ q.received = true

/-- The transfer is still there. -/
def StillThere (t : LocalTransfer) (db : Db) : Prop :=
  ∃ q ∈ db.transfers, q.id = t.id ∧ q.transferUuid = t.transferUuid ∧ q.direction = t.direction

theorem TransfersAfter.stillReceived {i : LocalTransferItem} (h : db.Tracked)
    (hi : StillReceived i db) (hstep : TransfersAfter db db') : StillReceived i db' := by
  obtain ⟨q, hq, hid, htransfer, hserial, hnumber, hreceived⟩ := hi
  cases hstep with
  | kept _ hitems => exact ⟨q, hitems ▸ hq, hid, htransfer, hserial, hnumber, hreceived⟩
  | opened _ _ _ _ _ _ hitems =>
    exact ⟨q, hitems ▸ List.mem_append_left _ hq, hid, htransfer, hserial, hnumber, hreceived⟩
  | added _ _ _ _ _ _ hitems =>
    exact ⟨q, hitems ▸ List.mem_append_left _ hq, hid, htransfer, hserial, hnumber, hreceived⟩
  | removed d hd itemId hof _ hitems =>
    refine ⟨q, hitems ▸ List.mem_filter.mpr ⟨hq, ?_⟩, hid, htransfer, hserial, hnumber, hreceived⟩
    -- Only items of drafts are removed, and none of those is received.
    have hne : q.id ≠ itemId := by
      intro he
      rw [h.unreceived hd hq (hof q hq (List.mem_singleton.mpr he))] at hreceived
      cases hreceived
    simpa using hne
  | dispatched _ _ _ _ _ hitems =>
    exact ⟨q, hitems ▸ hq, hid, htransfer, hserial, hnumber, hreceived⟩
  | marked _ _ _ ids _ mark hmark _ _ hitems =>
    refine ⟨if q.id ∈ ids then q.changed mark else q, ?_, ?_⟩
    · rw [hitems]
      exact mem_modifyRows.mpr ⟨q, hq, rfl⟩
    · by_cases hin : q.id ∈ ids
      · rw [if_pos hin]
        exact ⟨hid, htransfer, hserial, hnumber, hmark q hreceived⟩
      · rw [if_neg hin]
        exact ⟨hid, htransfer, hserial, hnumber, hreceived⟩
  | reported d _ _ _ numbers hview =>
    have hitems : db'.transferItems.map (·.marks) = (db.transferItems.map (·.marks)).map
        (ItemMarks.report d.id numbers) := congrArg ReceiptView.items hview
    have hmem : q.marks.report d.id numbers ∈ db'.transferItems.map (·.marks) := by
      rw [hitems]
      exact List.mem_map_of_mem (List.mem_map_of_mem hq)
    obtain ⟨q', hq', he⟩ := List.mem_map.mp hmem
    have hkept : q'.marks.received = true := by
      rw [he]
      exact ItemMarks.report_received.mpr (Or.inl hreceived)
    refine ⟨q', hq', ?_, ?_, ?_, ?_, hkept⟩
    · exact (congrArg ItemMarks.id he).trans (ItemMarks.report_id.trans hid)
    · exact (congrArg ItemMarks.transferId he).trans (ItemMarks.report_transferId.trans htransfer)
    · exact (congrArg ItemMarks.serialId he).trans (ItemMarks.report_serialId.trans hserial)
    · exact (congrArg ItemMarks.number he).trans (ItemMarks.report_number.trans hnumber)

private theorem stillThere_modifyRow {t q : LocalTransfer} {id : Nat}
    {change : LocalTransfer → LocalTransfer} (hq : q ∈ db.transfers)
    (h : q.id = t.id ∧ q.transferUuid = t.transferUuid ∧ q.direction = t.direction)
    (htransfers : db'.transfers = modifyRow (·.id) id (LocalTransfer.changed change) db.transfers) :
    StillThere t db' := by
  refine ⟨if q.id = id then q.changed change else q, ?_, ?_⟩
  · rw [htransfers]
    exact mem_modifyRow.mpr ⟨q, hq, rfl⟩
  · split <;> exact h

/-- The marks of a transfer after a report. -/
private theorem settled_same (items : List ItemMarks) (transferId : Nat) (t : TransferMarks) :
    (settled items transferId t).id = t.id ∧ (settled items transferId t).uuid = t.uuid ∧
      (settled items transferId t).direction = t.direction := by
  unfold settled
  split <;> exact ⟨rfl, rfl, rfl⟩

private theorem stillThere_report {t q : LocalTransfer} {transferId : Nat} {numbers : List PyStr}
    (hq : q ∈ db.transfers)
    (h : q.id = t.id ∧ q.transferUuid = t.transferUuid ∧ q.direction = t.direction)
    (hview : db'.receiptView = db.receiptView.report transferId numbers) : StillThere t db' := by
  have htransfers : db'.transfers.map (·.marks) = (db.transfers.map (·.marks)).map
      (settled ((db.transferItems.map (·.marks)).map (ItemMarks.report transferId numbers))
          transferId) :=
    congrArg ReceiptView.transfers hview
  have hmem := List.mem_map_of_mem (f := settled ((db.transferItems.map (·.marks)).map
    (ItemMarks.report transferId numbers)) transferId) (List.mem_map_of_mem (f := (·.marks)) hq)
  rw [← htransfers] at hmem
  obtain ⟨q', hq', he⟩ := List.mem_map.mp hmem
  obtain ⟨hid, huuid, hdirection⟩ := settled_same ((db.transferItems.map (·.marks)).map
    (ItemMarks.report transferId numbers)) transferId q.marks
  exact ⟨q', hq', (congrArg TransferMarks.id he).trans (hid.trans h.1),
    (congrArg TransferMarks.uuid he).trans (huuid.trans h.2.1),
    (congrArg TransferMarks.direction he).trans (hdirection.trans h.2.2)⟩

theorem TransfersAfter.stillThere {t : LocalTransfer} (ht : StillThere t db)
    (hstep : TransfersAfter db db') : StillThere t db' := by
  obtain ⟨q, hq, hsame⟩ := ht
  cases hstep with
  | kept htransfers => exact ⟨q, htransfers ▸ hq, hsame⟩
  | opened _ _ _ _ _ htransfers => exact ⟨q, htransfers ▸ List.mem_append_left _ hq, hsame⟩
  | added _ _ _ _ _ htransfers => exact ⟨q, htransfers ▸ hq, hsame⟩
  | removed _ _ _ _ htransfers => exact ⟨q, htransfers ▸ hq, hsame⟩
  | dispatched _ _ _ _ htransfers => exact stillThere_modifyRow hq hsame htransfers
  | marked _ _ _ _ _ _ _ _ htransfers => exact stillThere_modifyRow hq hsame htransfers
  | reported _ _ _ _ _ hview => exact stillThere_report hq hsame hview

/-! ## Runs -/

/-- What every action of a node keeps of its transfers, every run keeps. -/
theorem transfers_invariant {I : Db → Prop}
    (hstep : ∀ db db', db.Keyed → I db → TransfersAfter db db' → I db') {as : List StockAction}
    (hk : db.Keyed) (h : I db) (hexec : exec (stockMachine rt st) db as = some db') :
    db'.Keyed ∧ I db' := by
  refine keyed_invariant (P := fun _ => True) ?_ ?_ ?_ (fun _ _ => trivial) hk h hexec
  · exact fun c db db' hk h hready hx => hstep db db' hk h (ready_transfersAfter hk hready hx)
  · intro m db db' u hk h hx
    exact hstep db db' hk h (kept_of_keeps (relocateStock_keeps movesSerials_tables (fun _ _ => rfl)
      (fun _ _ => rfl) (fun _ _ => rfl) (fun _ _ => rfl) (fun _ _ _ => rfl) st m) hx)
  · intro now uuid fields db db' row _ hk h hx
    obtain ⟨parts, -, rfl | hhandled⟩ := applyMasterCommand_ran hx
    · exact h
    · exact hstep db db' hk h (handled_transfersAfter hk hhandled)

theorem stock_tracked {as : List StockAction} (hk : db.Keyed) (h : db.Tracked)
    (hexec : exec (stockMachine rt st) db as = some db') : db'.Tracked :=
  (transfers_invariant (I := Db.Tracked) (fun _ _ hk h hstep => hstep.tracked hk h) hk h hexec).2

/-! ## Sequences of receipts -/

/-- Receipt commands, one after the other. -/
def applyReceipts (rt : Runtime) (cs : List ReceiptCommand) : Tx PUnit :=
  Tx.each (ReceiptCommand.apply rt) cs

/-- The numbers that some commands report together. -/
def reportedBy (rt : Runtime) (manifest : List PyStr) (cs : List ReceiptCommand) : List PyStr :=
  cs.flatMap (ReceiptCommand.reported rt manifest)

/-- The commands are for the transfer. -/
def ForTransfer (rt : Runtime) (t : LocalTransfer) (cs : List ReceiptCommand) : Prop :=
  ∀ c ∈ cs, c.transferUuid rt = some t.transferUuid

/-- A sequence of receipts is one report of all their numbers. -/
theorem applyReceipts_view {t : LocalTransfer} {cs : List ReceiptCommand} (hk : db.Keyed)
    (ht : StillThere t db) (hsettled : db.receiptView.Settled t.id) (hfor : ForTransfer rt t cs)
    {u : PUnit} (h : applyReceipts rt cs db = (.ok u, db')) :
    db'.receiptView =
        db.receiptView.report t.id (reportedBy rt (db.receiptView.manifest t.id) cs) := by
  induction cs generalizing db with
  | nil =>
    obtain ⟨-, rfl⟩ := Tx.pure_ok.mp h
    exact (report_nil hsettled).symm
  | cons c cs ih =>
    obtain ⟨_, db₁, hfirst, hrest⟩ := Tx.bind_ok.mp h
    obtain ⟨q, hq, hsame⟩ := ht
    have huuid : c.transferUuid rt = some q.transferUuid := by
      rw [hsame.2.1]
      exact hfor c List.mem_cons_self
    obtain ⟨-, -, hview⟩ := applyTransferReceiptCommand_view hk hq huuid hfirst
    rw [hsame.1] at hview
    have hk₁ : db₁.Keyed := keyed_of_keeps (receipt_keeps updateTransferItem_keys
      (fun _ => updateSerial_keys _ _) updateTransfer_keys rt c.now c.payload) db db₁ _ hk hfirst
    have hview' := ih hk₁ (stillThere_report hq hsame hview) (hview ▸ report_settled)
      (fun c' hc' => hfor c' (List.mem_cons_of_mem c hc')) hrest
    rw [hview', hview, report_manifest, report_report]
    rfl

/-- The status of a dispatched transfer is up to date. -/
theorem Db.Tracked.settled (h : db.Tracked) (hk : db.Keyed) {t : LocalTransfer}
    (ht : t ∈ db.transfers)
    (hdirection : t.direction = .outbound) (hdispatched : t.status ≠ .draft) :
    db.receiptView.Settled t.id := by
  intro m hm hid
  obtain ⟨q, hq, rfl⟩ := List.mem_map.mp hm
  obtain rfl := hk.transfer_eq hq ht hid
  have hagrees := h q hq hdirection
  rwa [if_neg (show ¬ q.marks.status = .draft from hdispatched)] at hagrees

/-- A transfer with a received item is not a draft. -/
theorem Db.Tracked.dispatched_of_received (h : db.Tracked) {t : LocalTransfer}
    (ht : t ∈ db.transfers)
    (hdirection : t.direction = .outbound) {i : LocalTransferItem} (hi : i ∈ db.transferItems)
    (hof : i.transferId = t.id) (hreceived : i.received = true) : t.status ≠ .draft := by
  intro hdraft
  rw [h.unreceived ⟨ht, hdirection, hdraft⟩ hi hof] at hreceived
  cases hreceived

/-- A receipt leaves the serial of a received item alone, wherever it is by now. -/
private theorem applyReceipts_keeps_serial {t : LocalTransfer} {i : LocalTransferItem}
    {cs : List ReceiptCommand} (hk : db.Keyed) (hn : db.Named) (htracked : db.Tracked)
    (ht : StillThere t db) (hdirection : t.direction = .outbound) (hof : i.transferId = t.id)
    (hi : StillReceived i db) (hfor : ForTransfer rt t cs) {u : PUnit}
    (h : applyReceipts rt cs db = (.ok u, db')) {s : Serial} (hs : s ∈ db.serials)
    (hserial : i.serialId = some s.id) : s ∈ db'.serials := by
  obtain ⟨t', ht', hid, huuid, hdirection'⟩ := ht
  obtain ⟨q, hq, -, hqof, hqserial, -, hreceived⟩ := hi
  have hqt : q.transferId = t'.id := hqof.trans (hof.trans hid.symm)
  have hdispatched :=
    htracked.dispatched_of_received ht' (hdirection'.trans hdirection) hq hqt hreceived
  have hsettled := htracked.settled hk ht' (hdirection'.trans hdirection) hdispatched
  have hview := applyReceipts_view hk ⟨t', ht', hid, huuid, hdirection'⟩ (hid ▸ hsettled) hfor h
  have hserials : db'.serials = (db.receiptView.report t.id (reportedBy rt
      (db.receiptView.manifest t.id) cs)).serials := congrArg ReceiptView.serials hview
  rw [hserials]
  refine report_keeps_serial hs fun m hm hmof hmserial => ?_
  -- Two items of one transfer for one serial carry its number, so they are one item.
  obtain ⟨q', hq', rfl⟩ := List.mem_map.mp hm
  have hnumber := hn.item_number hk hq hs (hqserial.trans hserial)
  have hnumber' := hn.item_number hk hq' hs hmserial
  have hkey : (q'.transferId, q'.manifestSerialNumber) =
      (q.transferId, q.manifestSerialNumber) := by
    have hof' : q'.transferId = t.id := hmof
    rw [hnumber, hnumber', hof', hqof, hof]
  have hsame : q' = q := eq_of_key_eq hk.manifests hq' hq hkey
  rw [hsame]
  exact hreceived

/-- From any state whose constraints, names and transfers are in order, in every state a run
reaches and for every dispatched outgoing transfer: receipts that report the same numbers
leave the same marks, serials and statuses; they take nothing back; and once an item is
received, it stays so in every run, and no receipt for its transfer changes its serial. -/
theorem receipts_confluent (rt : Runtime) (st : Settings) {start : Db} (hkeyed : start.Keyed)
    (hnamed : start.Named) (htracked : start.Tracked) (as : List StockAction) (db : Db)
    (hexec : exec (stockMachine rt st) start as = some db) (t : LocalTransfer)
    (ht : t ∈ db.transfers)
    (hdirection : t.direction = .outbound) (hdispatched : t.status ≠ .draft) :
    (∀ cs cs' db₁ db₂, ForTransfer rt t cs → ForTransfer rt t cs' →
      applyReceipts rt cs db = (.ok ⟨⟩, db₁) → applyReceipts rt cs' db = (.ok ⟨⟩, db₂) →
      (∀ number, number ∈ reportedBy rt (db.receiptView.manifest t.id) cs ↔
        number ∈ reportedBy rt (db.receiptView.manifest t.id) cs') →
      db₁.receiptView = db₂.receiptView) ∧
    (∀ cs db₁, ForTransfer rt t cs → applyReceipts rt cs db = (.ok ⟨⟩, db₁) →
      ∀ i ∈ db.transferItems, i.received = true → StillReceived i db₁) ∧
    (∀ i ∈ db.transferItemsOf t.id, i.received = true → ∀ bs db₁,
      exec (stockMachine rt st) db bs = some db₁ → StillReceived i db₁ ∧
        ∀ cs db₂, ForTransfer rt t cs → applyReceipts rt cs db₁ = (.ok ⟨⟩, db₂) →
          ∀ s ∈ db₁.serials, i.serialId = some s.id → s ∈ db₂.serials) := by
  obtain ⟨hk, hn⟩ := stock_named hkeyed hnamed hexec
  -- In every state of a run the statuses track the items, so the transfer is settled.
  have htr := stock_tracked hkeyed htracked hexec
  have hthere : StillThere t db := ⟨t, ht, rfl, rfl, rfl⟩
  have hsettled := htr.settled hk ht hdirection hdispatched
  refine ⟨?_, ?_, ?_⟩
  · intro cs cs' db₁ db₂ hfor hfor' h h' hunion
    rw [applyReceipts_view hk hthere hsettled hfor h,
      applyReceipts_view hk hthere hsettled hfor' h',
      report_congr hunion]
  · intro cs db₁ hfor h i hi hreceived
    have hview := applyReceipts_view hk hthere hsettled hfor h
    exact TransfersAfter.stillReceived htr ⟨i, hi, rfl, rfl, rfl, rfl, hreceived⟩
      (.reported t ht hdirection hdispatched _ hview)
  · intro i hi hreceived bs db₁ hruns
    obtain ⟨hitem, hof⟩ := List.mem_filter.mp hi
    obtain ⟨hk₁, hn₁⟩ := stock_named hk hn hruns
    -- What is received stays received over the steps in between.
    have hkept : db₁.Tracked ∧ StillReceived i db₁ ∧ StillThere t db₁ := by
      refine (transfers_invariant (I := fun db => db.Tracked ∧ StillReceived i db ∧ StillThere t db)
        ?_ hk ⟨htr, ⟨i, hitem, rfl, rfl, rfl, rfl, hreceived⟩, hthere⟩ hruns).2
      intro _ _ hk h hstep
      exact ⟨hstep.tracked hk h.1, hstep.stillReceived h.1 h.2.1, hstep.stillThere h.2.2⟩
    refine ⟨hkept.2.1, fun cs db₂ hfor h s hs hserial => ?_⟩
    exact applyReceipts_keeps_serial hk₁ hn₁ hkept.1 hkept.2.2 hdirection (by simpa using hof)
      hkept.2.1 hfor
      h hs hserial

/-- Two lamps on their way: receipts in any order end alike. -/
theorem receipts_confluent_lamps :
    ∃ db t, exec (stockMachine .plain homeSettings) lampsDb (lampReturns.take 4) = some db ∧
      t ∈ db.transfers ∧ t.transferUuid = py "T-1" ∧
      ∀ cs cs' db₁ db₂, ForTransfer .plain t cs → ForTransfer .plain t cs' →
        applyReceipts .plain cs db = (.ok ⟨⟩, db₁) → applyReceipts .plain cs' db = (.ok ⟨⟩, db₂) →
        (∀ number, number ∈ reportedBy .plain (db.receiptView.manifest t.id) cs ↔
          number ∈ reportedBy .plain (db.receiptView.manifest t.id) cs') →
        db₁.receiptView = db₂.receiptView := by
  have hrun : (exec (stockMachine .plain homeSettings) lampsDb (lampReturns.take 4)).map
      (fun db => decide
      (∃ t ∈ db.transfers, t.transferUuid = py "T-1" ∧ t.direction = .outbound ∧
        t.status ≠ .draft)) =
        some true := by
    decide +kernel
  obtain ⟨db, hdb, hfacts⟩ := Option.map_eq_some_iff.mp hrun
  obtain ⟨t, ht, huuid, hdirection, hdispatched⟩ := of_decide_eq_true hfacts
  have htracked : lampsDb.Tracked := fun t ht => absurd ht List.not_mem_nil
  exact ⟨db, t, hdb, ht, huuid,
    (receipts_confluent .plain homeSettings lampsDb_valid.1 lampsDb_valid.2 htracked
    _ db hdb t ht hdirection hdispatched).1⟩

end SetuoraLite
