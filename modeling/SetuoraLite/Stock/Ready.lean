import SetuoraLite.Stock.Machine

/-!
# A request alone is ready

One lemma for each service: served alone, every transaction it commits is `Ready`. The
proofs follow the requests read by read; each read is of the one database there is, so
what was loaded first still holds at the commit.
-/

namespace SetuoraLite

open Lib

variable {rt : Runtime} {db : Db} {Q : StockCommit → Db → Prop}

section Loading

/-! What only reads has the same outcome whatever is asked of the commits. -/

/-- A batch that was loaded is stored as it was loaded. -/
theorem getBatch_ready (batchId : Nat) :
    (getBatch batchId).Spec Eq Q (fun batch t => db = t ∧ t.batch batchId = some batch) db := by
  apply Request.Spec.bind_reads
  refine (Request.Spec.lift _ db).imp (fun _ _ h => h) fun batch t ht => ?_
  obtain ⟨rfl, hbatch⟩ := ht
  exact ⟨rfl, elim_ok hbatch⟩

/-- A batch that was loaded goes on in the database it was loaded from. -/
theorem getBatch_bind_ready {batchId : Nat} {g : Batch → StockRequest PUnit}
    (h : ∀ batch, db.batch batch.id = some batch → batch.id = batchId → (g batch).Commits Eq Q db) :
    (getBatch batchId >>= g).Commits Eq Q db := by
  refine (getBatch_ready batchId).bind fun batch t ht => ?_
  obtain ⟨rfl, hbatch⟩ := ht
  have hid : batch.id = batchId := (lookup_some hbatch).2
  exact h batch (hid ▸ hbatch) hid

/-- Rows read one list after the other, put side by side. -/
theorem zip_forall {items : List BatchItem} {serials : List Serial} {products : List Product}
    (hs : List.Forall₂ (fun i s => found (db.serial i.serialId) = .ok s) items serials)
    (hp : List.Forall₂ (fun s p => found (db.product s.productId) = .ok p) serials products) :
    (((items.zip serials).zip products).map fun p => (⟨p.1.1, p.1.2, p.2⟩ : LoadedItem)).map
      (·.item)
        = items ∧
      ∀ l ∈ ((items.zip serials).zip products).map fun p => (⟨p.1.1, p.1.2, p.2⟩ : LoadedItem),
        db.serial l.item.serialId = some l.serial ∧
        db.product l.serial.productId = some l.product := by
  induction hs generalizing products with
  | nil => simp
  | cons hi _ ih =>
    cases hp with
    | cons hproduct hp =>
      obtain ⟨hitems, hrows⟩ := ih hp
      refine ⟨?_, ?_⟩
      · simpa using hitems
      · intro l hl
        rcases List.mem_cons.mp hl with rfl | hl
        · exact ⟨elim_ok hi, elim_ok hproduct⟩
        · exact hrows l hl

/-- Loaded items are stored as they were loaded. -/
theorem loadItems_ready (batchId : Nat) :
    (loadItems batchId).Spec Eq Q (fun items t => db = t ∧ LoadedFrom t batchId items) db := by
  apply Request.Spec.bind_reads
  apply Request.Spec.bind_reads
  refine Request.Spec.bind_lift fun serials hserials => ?_
  apply Request.Spec.bind_reads
  refine Request.Spec.bind_lift fun products hproducts => ?_
  obtain ⟨hmap, hrows⟩ := zip_forall (except_mapM_ok hserials) (except_mapM_ok hproducts)
  exact Request.Spec.pure ⟨rfl, hmap, fun l hl => (hrows l hl).1, fun l hl => (hrows l hl).2⟩

/-- What comes after loading the items knows that they are stored. -/
theorem loadItems_bind_ready {batchId : Nat} {g : List LoadedItem → StockRequest PUnit}
    (h : ∀ items, LoadedFrom db batchId items → (g items).Commits Eq Q db) :
    (loadItems batchId >>= g).Commits Eq Q db := by
  refine (loadItems_ready batchId).bind fun items t ht => ?_
  obtain ⟨rfl, hitems⟩ := ht
  exact h items hitems

/-- A transfer that was loaded is the transfer that is stored. -/
theorem getTransfer_bind_ready {transferId : Nat} {g : LoadedTransfer → StockRequest PUnit}
    (h : ∀ loaded, loaded.From db → loaded.transfer.id = transferId → (g loaded).Commits Eq Q db) :
    (getTransfer transferId >>= g).Commits Eq Q db := by
  have hget : (getTransfer transferId).Spec Eq Q
      (fun loaded t => db = t ∧ loaded.From t ∧ loaded.transfer.id = transferId) db := by
    apply Request.Spec.bind_reads
    refine Request.Spec.bind_lift fun transfer htransfer => ?_
    apply Request.Spec.bind_reads
    apply Request.Spec.bind_reads
    have hrow := elim_ok htransfer
    have hid : transfer.id = transferId := (lookup_some hrow).2
    refine Request.Spec.pure ⟨rfl, ⟨hid ▸ hrow, ?_, ?_⟩, hid⟩
    · rw [List.map_map, hid]
      exact List.map_id _
    · intro i hi
      obtain ⟨item, -, rfl⟩ := List.mem_map.mp hi
      rfl
  refine hget.bind fun loaded t ht => ?_
  obtain ⟨rfl, hfrom, hid⟩ := ht
  exact h loaded hfrom hid

end Loading

/-! ## Batches -/

/-- A form's batch is a draft. -/
private theorem row_draft {form : BatchForm} {user : User} {row : Batch}
    (h : form.row user = .ok row) :
    row.status = .draft := by
  obtain ⟨_, -, h⟩ := except_bind_ok.mp h
  obtain ⟨_, -, h⟩ := except_bind_ok.mp h
  obtain ⟨_, -, h⟩ := except_bind_ok.mp h
  obtain rfl := Except.ok.inj h
  rfl

/-- Opening a batch, in five attempts at a number. -/
theorem createBatch_ready (user : User) (form : BatchForm) (now : Instant) :
    (createBatch user form now).Commits Eq (Ready rt) db := by
  refine Request.Spec.bind_lift fun row hrow => ?_
  have hdraft : row.status = .draft := row_draft hrow
  have hattempts : ∀ (n : Nat) (db : Db),
      (createBatchAttempts row now n).Commits Eq (Ready rt) db := by
    intro n
    induction n with
    | zero => exact fun db => Request.Spec.raise _ db
    | succ n ih =>
      intro db
      apply Request.Spec.bind_reads
      refine (Request.Spec.attempt fun _ _ => hdraft).bind fun outcome t _ => ?_
      cases outcome with
      | ok _ => exact Request.Spec.pure trivial
      | error e =>
        dsimp only
        split
        · exact ih t
        · exact Request.Spec.raise _ t
  exact hattempts 5 db

/-- A refused scan only logs. -/
theorem rejectScan_ready (batch : Batch) (user : User) (now : Instant) (serial : Option Serial)
    (raw : PyStr) (e : PyError) (db : Db) :
    (rejectScan batch user now serial raw e).Commits Eq (Ready rt) db :=
  (Request.Spec.commits fun _ _ => rfl).bind fun _ t _ => Request.Spec.raise _ t

/-- The assignment that an audit is for. -/
def Db.assignmentOf (db : Db) (batch : Batch) : Option AuditAssignment :=
  if batch.batchType = .audit
    then batch.auditAssignmentId.bind fun id => lookup (·.id) id db.assignments
  else none

/-- What the checks of a scan have found out when they pass. -/
theorem scanChecks_ready (batch : Batch) (user : User) (serial : Serial) (now : Instant) :
    (scanChecks batch user serial now).Spec Eq Q (fun outcome t => db = t ∧ (outcome = .ok () →
        serialAllowedForBatch serial batch.batchType = .ok () ∧
          validateAssignmentScan (t.assignmentOf batch)
            ((t.assignmentOf batch).bind fun a => t.product a.productId) user serial now = .ok () ∧
          t.inBatch batch.id serial.id = false ∧
          t.inOtherDraft batch.id serial.id = false)) db := by
  unfold scanChecks
  -- By the checks in the order of the source.
  cases hallowed : serialAllowedForBatch serial batch.batchType with
  | error e => exact Request.Spec.pure ⟨rfl, by simp⟩
  | ok _ =>
    dsimp only
    apply Request.Spec.bind_reads
    apply Request.Spec.bind_reads
    split
    next e => exact Request.Spec.pure ⟨rfl, by simp⟩
    next hassigned =>
      have hfefo : (validateFefoScan batch serial).Spec Eq Q (fun _ t => db = t) db := by
        unfold validateFefoScan
        dsimp only
        split
        · exact Request.Spec.pure rfl
        · exact Request.Spec.bind_reads (Request.Spec.pure rfl)
      refine hfefo.bind fun verdict t ht => ?_
      subst ht
      cases verdict with
      | some text => exact Request.Spec.pure ⟨rfl, by simp⟩
      | none =>
        apply Request.Spec.bind_reads
        by_cases hexisting : db.inBatch batch.id serial.id = true
        · rw [if_pos hexisting]
          exact Request.Spec.pure ⟨rfl, by simp⟩
        · rw [if_neg hexisting]
          apply Request.Spec.bind_reads
          by_cases hother : db.inOtherDraft batch.id serial.id = true
          · rw [if_pos hother]
            exact Request.Spec.pure ⟨rfl, by simp⟩
          · rw [if_neg hother]
            exact Request.Spec.pure ⟨rfl, fun _ =>
              ⟨rfl, hassigned, by simpa using hexisting, by simpa using hother⟩⟩

/-- A scan commits an item of a serial that no other draft has. -/
theorem addSerialToBatch_ready {batch : Batch} (hbatch : db.batch batch.id = some batch)
    (user : User) (serialNumber : PyStr) (now : Instant) :
    (addSerialToBatch batch user serialNumber now).Commits Eq (Ready rt) db := by
  refine Request.Spec.bind_raiseIf fun hdraft => ?_
  apply Request.Spec.bind_reads
  split
  next => exact rejectScan_ready _ _ _ _ _ _ _
  next serial hserial =>
    refine (scanChecks_ready batch user serial now).bind fun outcome t ht => ?_
    obtain ⟨rfl, hchecks⟩ := ht
    cases outcome with
    | error e =>
      dsimp only
      split
      · exact rejectScan_ready _ _ _ _ _ _ _
      · exact Request.Spec.raise _ _
    | ok _ =>
      obtain ⟨hallowed, -, hexisting, hother⟩ := hchecks rfl
      have hstored : serial ∈ db.serials := (lookup_some hserial).1
      refine (Request.Spec.attempt fun t ht => ?_).bind fun outcome t _ => ?_
      · subst ht
        exact ⟨batch, serial, ⟨hbatch, not_not.mp hdraft⟩, rfl, hstored, hallowed, hexisting,
          hother, rfl⟩
      cases outcome with
      | ok _ => exact Request.Spec.pure trivial
      | error e =>
        dsimp only
        split
        · exact rejectScan_ready _ _ _ _ _ _ _
        · exact Request.Spec.raise _ _

/-! ## Picks -/

/-- Picked serials, put into rows of a batch. -/
theorem pickItems_ready {batch : Batch} (hbatch : DraftBatch db batch)
    (htype : batch.batchType ∈ fefoBatchTypes) {serials : List Serial}
    (hnodup : (serials.map (·.id)).Nodup)
    (hpicked : ∀ s ∈ serials, ∃ productId, s ∈ db.serials ∧
      isFefoCandidate db productId
        (availableStatuses (fefoAvailableStatuses batch.batchType)) s = true)
    {picks : List (BatchItem × ScanLog)}
    (hserials : picks.map (fun p => p.1.serialId) = serials.map (·.id))
    (hrows : ∀ p ∈ picks, p.1.batchId = batch.id ∧ p.1.shelfVerifiedAt = none ∧
      (p.2.status = py "FEFO_PICKED" ∨ p.2.status = py "EXCEL_IMPORTED")) :
    Ready rt (.pickItems picks) db := by
  refine ⟨batch, hbatch, hserials ▸ hnodup, fun p hp => ?_⟩
  obtain ⟨hbatchId, hverified, hstatus⟩ := hrows p hp
  have hmem : p.1.serialId ∈ serials.map (·.id) := by
    rw [← hserials]
    exact List.mem_map_of_mem hp
  obtain ⟨s, hs, hid⟩ := List.mem_map.mp hmem
  obtain ⟨productId, hstored, hcandidate⟩ := hpicked s hs
  rw [availableStatuses_fefo htype] at hcandidate
  unfold isFefoCandidate at hcandidate
  simp only [Bool.and_eq_true, decide_eq_true_eq, Bool.not_eq_true'] at hcandidate
  obtain ⟨⟨⟨hactive, -⟩, hserial⟩, hdraft⟩ := hcandidate
  exact ⟨hbatchId, hverified, ⟨s, hstored, hid, hactive, hserial⟩, hid ▸ hdraft, hstatus⟩

/-- A pick commits as many candidates as it was asked for, first expiry first. -/
theorem fefoPickIntoBatch_ready (hids : (db.serials.map (·.id)).Nodup) (batchId : Nat) (user : User)
    (productId : Nat) (quantity : Int) (now : Instant) :
    (fefoPickIntoBatch batchId user productId quantity now).Commits Eq (Ready rt) db := by
  refine getBatch_bind_ready fun batch hbatch _ => ?_
  refine Request.Spec.bind_raiseIf fun hdraft => ?_
  refine Request.Spec.bind_raiseIf fun htype => ?_
  apply Request.Spec.bind_reads
  refine Request.Spec.bind_raiseIf fun _ => ?_
  apply Request.Spec.commits_alone
  have hnodup := @fefoCandidateSerials_nodup db productId quantity.toNat
    (fefoAvailableStatuses batch.batchType) hids
  refine pickItems_ready ⟨hbatch, not_not.mp hdraft⟩ (not_not.mp htype) hnodup
    (fun s hs => ⟨productId, mem_fefoCandidateSerials hs⟩) ?_ ?_
  · rw [List.map_map]
    rfl
  · intro p hp
    obtain ⟨s, -, rfl⟩ := List.mem_map.mp hp
    exact ⟨rfl, rfl, Or.inl rfl⟩

/-- The serials that the lines of an import picked. -/
def pickedSerials (picked : List (AssignmentLine × List Serial)) : List Serial :=
  (picked.map Prod.snd).flatten

/-- The lines of an import pick different serials, each a candidate of its line. -/
theorem pickImportSerials_ready (hids : (db.serials.map (·.id)).Nodup)
    (statuses : List SerialStatus) (lines : List AssignmentLine) :
    ∀ selected : List Serial, (selected.map (·.id)).Nodup →
      (pickImportSerials statuses selected lines).Spec Eq Q (fun picked t => db = t ∧
          ((selected ++ pickedSerials picked).map (·.id)).Nodup ∧
          ∀ s ∈ pickedSerials picked, ∃ productId, s ∈ t.serials ∧
            isFefoCandidate t productId (availableStatuses statuses) s = true) db := by
  induction lines with
  | nil =>
    intro selected hnodup
    refine Request.Spec.pure ⟨rfl, ?_, ?_⟩
    · simpa [pickedSerials] using hnodup
    · intro s hs
      simp [pickedSerials] at hs
  | cons line lines ih =>
    intro selected hnodup
    apply Request.Spec.bind_reads
    dsimp only
    refine Request.Spec.bind_raiseIf fun _ => ?_
    -- What the line takes: candidates that no line before it has taken.
    generalize hfetched : fefoCandidateSerials db line.product.id (line.quantity + selected.length)
      statuses = fetched
    generalize hcandidates : (fetched.filter fun s => s.id ∉ selected.map (·.id)).take line.quantity
      = candidates
    have hsub : candidates.Sublist (fetched.filter fun s => s.id ∉ selected.map (·.id)) :=
      hcandidates ▸ List.take_sublist _ _
    have htaken : ∀ s ∈ candidates, s ∈ fetched ∧ s.id ∉ selected.map (·.id) := by
      intro s hs
      have := List.mem_filter.mp (hsub.subset hs)
      simpa using this
    have hfresh : ((selected ++ candidates).map (·.id)).Nodup := by
      rw [List.map_append, List.nodup_append]
      refine ⟨hnodup, ?_, ?_⟩
      · have hall : (fetched.map (·.id)).Nodup := hfetched ▸ fefoCandidateSerials_nodup hids
        exact hall.sublist ((hsub.trans List.filter_sublist).map _)
      · rintro id hid id' hid' rfl
        obtain ⟨s, hs, rfl⟩ := List.mem_map.mp hid'
        exact (htaken s hs).2 hid
    refine (ih (selected ++ candidates) hfresh).bind fun picked t ht => ?_
    obtain ⟨rfl, hrest, hpicked⟩ := ht
    refine Request.Spec.pure ⟨rfl, ?_, ?_⟩
    · simpa [pickedSerials] using hrest
    · intro s hs
      rcases List.mem_append.mp (show s ∈ candidates ++ pickedSerials picked from by
        simpa [pickedSerials] using hs) with hs | hs
      · have hmem := (htaken s hs).1
        rw [← hfetched] at hmem
        exact ⟨line.product.id, mem_fefoCandidateSerials hmem⟩
      · exact hpicked s hs

/-- The rows of an import are rows of its picked serials. -/
theorem importedRows_spec {batch : Batch} {user : User} {now : Instant}
    {picked : List (AssignmentLine × List Serial)} {rows : List (List (BatchItem × ScanLog))}
    (h : picked.mapM (importedRows batch user now) = .ok rows) :
    rows.flatten.map (fun p => p.1.serialId) = (pickedSerials picked).map (·.id) ∧
      ∀ p ∈ rows.flatten, p.1.batchId = batch.id ∧ p.1.shelfVerifiedAt = none ∧
        (p.2.status = py "FEFO_PICKED" ∨ p.2.status = py "EXCEL_IMPORTED") := by
  have hpairs := except_mapM_ok h
  clear h
  induction hpairs with
  | nil => simp [pickedSerials]
  | @cons line row picked rows hrow _ ih =>
    obtain ⟨hmap, hrest⟩ := ih
    obtain ⟨rate, -, hrow⟩ := except_bind_ok.mp hrow
    obtain rfl := Except.ok.inj hrow
    constructor
    · simp only [List.flatten_cons, List.map_append, List.map_map, hmap]
      simp only [pickedSerials, List.map_cons, List.flatten_cons, List.map_append]
      rfl
    · intro p hp
      rcases List.mem_append.mp hp with hp | hp
      · obtain ⟨s, -, rfl⟩ := List.mem_map.mp hp
        exact ⟨rfl, rfl, Or.inr rfl⟩
      · exact hrest p hp

/-- A check of pending returns reads, and no more. -/
theorem ensureSaleScanAllowed_ready (batch : Batch) :
    (ensureSaleScanAllowed batch).Spec Eq Q
      (fun _ t => db = t ∧ (batch.batchType = .sale → pendingSaleReturnLogs batch.id t = []))
          db := by
  unfold ensureSaleScanAllowed
  split
  · apply Request.Spec.bind_reads
    refine (Request.Spec.raiseIf _ _ db).imp (fun _ _ h => h) fun _ t ht => ?_
    obtain ⟨rfl, hpending⟩ := ht
    exact ⟨rfl, fun _ => not_not.mp hpending⟩
  next htype => exact Request.Spec.pure ⟨rfl, fun h => absurd h htype⟩

/-- An import commits the picks of all lines at once. -/
theorem importTallyExcel_ready (hids : (db.serials.map (·.id)).Nodup) (batchId : Nat) (user : User)
    (parse : Db → Except PyError (List AssignmentLine)) (now : Instant) :
    (importTallyExcel batchId user parse now).Commits Eq (Ready rt) db := by
  refine getBatch_bind_ready fun batch hbatch _ => ?_
  refine Request.Spec.bind_raiseIf fun hdraft => ?_
  refine Request.Spec.bind_raiseIf fun htype => ?_
  refine (ensureSaleScanAllowed_ready batch).bind fun _ t ht => ?_
  obtain ⟨rfl, -⟩ := ht
  apply Request.Spec.bind_reads
  refine Request.Spec.bind_lift fun lines _ => ?_
  refine Request.Spec.bind_raiseIf fun _ => ?_
  refine Request.Spec.bind_raiseIf fun _ => ?_
  refine (pickImportSerials_ready hids _ lines [] List.nodup_nil).bind fun picked t ht => ?_
  obtain ⟨rfl, hnodup, hpicked⟩ := ht
  refine Request.Spec.bind_lift fun rows hrows => ?_
  obtain ⟨hserials, hspec⟩ := importedRows_spec hrows
  apply Request.Spec.commits_alone
  exact pickItems_ready ⟨hbatch, not_not.mp hdraft⟩ (not_not.mp htype) hnodup hpicked hserials hspec

/-! ## Edits -/

/-- The item of a removal or a new rate is an item of the batch. -/
theorem item_of_batch {batch : Batch} {itemId : Nat}
    (h : ¬ ∀ i ∈ db.batchItem itemId, i.batchId ≠ batch.id) :
    ∃ item, db.batchItem itemId = some item ∧ item ∈ db.batchItems ∧ item.id = itemId ∧
      item.batchId = batch.id := by
  cases hitem : db.batchItem itemId with
  | none =>
    rw [hitem] at h
    simp at h
  | some item =>
    rw [hitem] at h
    obtain ⟨hmem, hid⟩ := lookup_some hitem
    exact ⟨item, rfl, hmem, hid, by simpa using h⟩

/-- Removing an item of a draft. -/
theorem deleteBatchItemRoute_ready (batchId itemId : Nat) :
    (deleteBatchItemRoute batchId itemId).Commits Eq (Ready rt) db := by
  refine getBatch_bind_ready fun batch hbatch _ => ?_
  refine Request.Spec.bind_raiseIf fun hdraft => ?_
  apply Request.Spec.bind_reads
  refine Request.Spec.bind_raiseIf fun hitem => ?_
  obtain ⟨item, -, hmem, hid, hof⟩ := item_of_batch hitem
  apply Request.Spec.commits_alone
  exact ⟨batch, ⟨hbatch, not_not.mp hdraft⟩, item, hmem, hid, hof⟩

/-- A new rate for one item of a draft. -/
theorem updateItemRate_ready (batchId itemId : Nat) (rate : PyFloat) :
    (updateItemRate batchId itemId rate).Commits Eq (Ready rt) db := by
  refine getBatch_bind_ready fun batch hbatch _ => ?_
  refine Request.Spec.bind_raiseIf fun hdraft => ?_
  refine Request.Spec.bind_raiseIf fun _ => ?_
  apply Request.Spec.bind_reads
  refine Request.Spec.bind_raiseIf fun hitem => ?_
  obtain ⟨item, hrow, hmem, -, hof⟩ := item_of_batch hitem
  apply Request.Spec.commits_alone
  refine ⟨batch, ⟨hbatch, not_not.mp hdraft⟩, fun i hi => ?_⟩
  rw [hrow] at hi
  obtain rfl : i = item := by simpa using hi
  exact ⟨hmem, hof⟩

/-- A loaded item is a stored item of the batch. -/
theorem LoadedFrom.stored {batchId : Nat} {loaded : List LoadedItem}
    (h : LoadedFrom db batchId loaded) {l : LoadedItem}
    (hl : l ∈ loaded) : l.item ∈ db.batchItems ∧ l.item.batchId = batchId := by
  have hmem : l.item ∈ db.itemsOf batchId := by
    rw [← h.items]
    exact List.mem_map_of_mem hl
  have := List.mem_filter.mp hmem
  simpa using this

/-- A new rate for the items of one product. -/
theorem updateProductRate_ready (batchId productId : Nat) (rate : PyFloat) :
    (updateProductRate batchId productId rate).Commits Eq (Ready rt) db := by
  refine getBatch_bind_ready fun batch hbatch hid => ?_
  refine loadItems_bind_ready fun items hitems => ?_
  refine Request.Spec.bind_raiseIf fun hdraft => ?_
  refine Request.Spec.bind_raiseIf fun _ => ?_
  refine Request.Spec.bind_raiseIf fun _ => ?_
  apply Request.Spec.commits_alone
  refine ⟨batch, ⟨hbatch, not_not.mp hdraft⟩, fun i hi => ?_⟩
  obtain ⟨l, hl, rfl⟩ := List.mem_map.mp hi
  rw [hid]
  exact hitems.stored (List.mem_of_mem_filter hl)

/-! ## Shelves -/

/-- The scan of a location verifies the pending items of the batch. -/
theorem verifyPendingItemsOnShelf_ready {batch : Batch} (hbatch : db.batch batch.id = some batch)
    {location : StorageLocation} (hlocation : location ∈ db.locations) (user : User)
    (now : Instant) :
    (verifyPendingItemsOnShelf batch location user now).Commits Eq (Ready rt) db := by
  refine Request.Spec.bind_raiseIf fun hdraft => ?_
  refine Request.Spec.bind_raiseIf fun htype => ?_
  refine loadItems_bind_ready fun items hitems => ?_
  refine Request.Spec.bind_raiseIf fun _ => ?_
  apply Request.Spec.commits_alone
  exact ⟨⟨hbatch, not_not.mp hdraft⟩, not_not.mp htype, hlocation, items, hitems, rfl⟩

/-- The checks that open a return. -/
theorem ensureDraftSale_ready (batch : Batch) :
    (ensureDraftSale batch).Spec Eq Q
      (fun _ t => db = t ∧ batch.batchType = .sale ∧ batch.status = .draft) db := by
  refine Request.Spec.bind_raiseIf fun htype => ?_
  refine (Request.Spec.raiseIf _ _ db).imp (fun _ _ h => h) fun _ t ht => ?_
  exact ⟨ht.1.symm, not_not.mp htype, not_not.mp ht.2⟩

/-- A refused return only logs. -/
theorem rejectSaleReturn_ready (batch : Batch) (user : User) (now : Instant)
    (serial : Option Serial) (number message : PyStr) (db : Db) :
    (rejectSaleReturn batch user now serial number message).Commits Eq (Ready rt) db :=
  (Request.Spec.commits fun _ _ => rfl).bind fun _ t _ => Request.Spec.raise _ t

/-- A returned unit leaves the batch it was in and waits for its location. -/
theorem scanSaleReturnProduct_ready {batch : Batch} (hbatch : db.batch batch.id = some batch)
    (user : User) (serialNumber : PyStr) (now : Instant) :
    (scanSaleReturnProduct batch user serialNumber now).Commits Eq (Ready rt) db := by
  refine (ensureDraftSale_ready batch).bind fun _ t ht => ?_
  obtain ⟨rfl, htype, hdraft⟩ := ht
  apply Request.Spec.bind_reads
  refine Request.Spec.bind_raiseIf fun _ => ?_
  apply Request.Spec.bind_reads
  split
  next => exact rejectSaleReturn_ready _ _ _ _ _ _ _
  next serial hserial =>
    split
    next => exact rejectSaleReturn_ready _ _ _ _ _ _ _
    next =>
      apply Request.Spec.bind_reads
      split
      next => exact rejectSaleReturn_ready _ _ _ _ _ _ _
      next item hitem =>
        have hmem := List.mem_of_find?_eq_some hitem
        have hkeys := List.find?_some hitem
        simp only [Bool.and_eq_true, decide_eq_true_eq] at hkeys
        apply Request.Spec.commits_alone
        exact ⟨batch, serial, item, ⟨hbatch, hdraft⟩, htype, rfl, hmem, hkeys.1, hkeys.2,
          (lookup_some hserial).1, rfl, rfl⟩

/-- The scan of a location places the returned units. -/
theorem verifySaleReturnOnShelf_ready {batch : Batch} (hbatch : db.batch batch.id = some batch)
    {location : StorageLocation} (hlocation : location ∈ db.locations) (user : User)
    (now : Instant) :
    (verifySaleReturnOnShelf batch location user now).Commits Eq (Ready rt) db := by
  refine (ensureDraftSale_ready batch).bind fun _ t ht => ?_
  obtain ⟨rfl, htype, hdraft⟩ := ht
  apply Request.Spec.bind_reads
  refine Request.Spec.bind_raiseIf fun _ => ?_
  apply Request.Spec.commits_alone
  exact ⟨⟨hbatch, hdraft⟩, htype, rfl, hlocation⟩

/-- A check of pending shelves reads, and no more. -/
theorem ensureProductScanAllowed_ready (batch : Batch) :
    (ensureProductScanAllowed batch).Spec Eq Q (fun _ t => db = t ∧
      (batch.batchType ∈ shelfControlledBatchTypes → ∃ items, LoadedFrom t batch.id items ∧
        shelfRequired (pendingShelfItems batch items) = false)) db := by
  unfold ensureProductScanAllowed
  split
  · refine (loadItems_ready batch.id).bind fun items t ht => ?_
    obtain ⟨rfl, hitems⟩ := ht
    refine (Request.Spec.raiseIf _ _ db).imp (fun _ _ h => h) fun _ t ht => ?_
    obtain ⟨rfl, hshelf⟩ := ht
    exact ⟨rfl, fun _ => ⟨items, hitems, by simpa using hshelf⟩⟩
  next htype => exact Request.Spec.pure ⟨rfl, fun h => absurd h htype⟩

/-- A scan is of a location or of a unit, and of a return or not. -/
theorem scanIntoBatch_ready (batchId : Nat) (user : User) (serialNumber : PyStr) (returning : Bool)
    (now : Instant) :
    (scanIntoBatch batchId user serialNumber returning now).Commits Eq (Ready rt) db := by
  refine getBatch_bind_ready fun batch hbatch _ => ?_
  apply Request.Spec.bind_reads
  split
  next location hlocation =>
    have hmem : location ∈ db.locations := List.mem_of_find?_eq_some hlocation
    split
    · exact verifySaleReturnOnShelf_ready hbatch hmem user now
    · exact verifyPendingItemsOnShelf_ready hbatch hmem user now
  next =>
    split
    · exact scanSaleReturnProduct_ready hbatch user serialNumber now
    · refine (ensureSaleScanAllowed_ready batch).bind fun _ t ht => ?_
      obtain ⟨rfl, -⟩ := ht
      refine (ensureProductScanAllowed_ready batch).bind fun _ t ht => ?_
      obtain ⟨rfl, -⟩ := ht
      exact addSerialToBatch_ready hbatch user serialNumber now

/-! ## Submission -/

/-- Only a sale without a pending return is submitted. -/
theorem validateSaleReturnsComplete_ready (batch : Batch) :
    (validateSaleReturnsComplete batch).Spec Eq Q
      (fun _ t => db = t ∧ (batch.batchType = .sale → pendingSaleReturnLogs batch.id t = []))
          db := by
  unfold validateSaleReturnsComplete
  split
  next htype => exact Request.Spec.pure ⟨rfl, fun h => absurd h htype⟩
  next =>
    apply Request.Spec.bind_reads
    refine (Request.Spec.raiseIf _ _ db).imp (fun _ _ h => h) fun _ t ht => ?_
    obtain ⟨rfl, hpending⟩ := ht
    exact ⟨rfl, fun _ => not_not.mp hpending⟩

/-- A submission commits the batch as it was loaded and checked. -/
theorem submitBatch_ready (batchId : Nat) (s : Submitter) :
    (submitBatch rt batchId s).Commits Eq (Ready rt) db := by
  refine getBatch_bind_ready fun batch hbatch hid => ?_
  refine loadItems_bind_ready fun items hitems => ?_
  dsimp only
  split
  · exact Request.Spec.pure trivial
  · next hdraft =>
    refine (validateSaleReturnsComplete_ready batch).bind fun _ t ht => ?_
    obtain ⟨rfl, hpending⟩ := ht
    refine Request.Spec.bind_lift fun _ hpriced => ?_
    refine Request.Spec.bind_lift fun _ hstatuses => ?_
    apply Request.Spec.commits_alone
    exact ⟨⟨hbatch, not_not.mp hdraft⟩, hid ▸ hitems, hstatuses, hpriced, hpending⟩

/-! ## Transfers -/

/-- A transfer of the wrong direction is refused. -/
theorem resolveTransfer_ok {transfer : LocalTransfer} {direction : TransferDirection} {u : Unit}
    (h : resolveTransfer transfer direction = .ok u) : transfer.direction = direction := by
  unfold resolveTransfer at h
  by_cases hdirection : transfer.direction = direction
  · exact hdirection
  · rw [if_pos hdirection] at h
    cases h

/-- Opening a transfer. -/
theorem createOutboundTransfer_ready (st : Settings) (user : User) (peerCode : PyStr)
    (notes : Option PyStr) (uuid : PyStr) :
    (createOutboundTransfer st user peerCode notes uuid).Commits Eq (Ready rt) db := by
  refine Request.Spec.bind_raiseIf fun _ => ?_
  refine Request.Spec.bind_raiseIf fun _ => ?_
  refine Request.Spec.bind_lift fun _ _ => ?_
  refine Request.Spec.bind_raiseIf fun _ => ?_
  exact Request.Spec.commits_alone ⟨rfl, rfl⟩

/-- A unit is added that no open transfer has. -/
theorem addOutboundSerial_ready (transferId : Nat) (serialNumber : PyStr) :
    (addOutboundSerial transferId serialNumber).Commits Eq (Ready rt) db := by
  refine getTransfer_bind_ready fun loaded hfrom _ => ?_
  refine Request.Spec.bind_lift fun _ hdirection => ?_
  refine Request.Spec.bind_raiseIf fun hdraft => ?_
  apply Request.Spec.bind_reads
  refine Request.Spec.bind_lift fun serial hserial => ?_
  refine Request.Spec.bind_raiseIf fun hstock => ?_
  apply Request.Spec.bind_reads
  refine Request.Spec.bind_raiseIf fun _ => ?_
  refine Request.Spec.bind_raiseIf fun hreserved => ?_
  apply Request.Spec.bind_reads
  refine Request.Spec.bind_lift fun product _ => ?_
  apply Request.Spec.commits_alone
  obtain ⟨hactive, hstatus⟩ := not_or.mp hstock
  exact ⟨loaded.transfer, serial, product, hfrom.transfer, resolveTransfer_ok hdirection,
    not_not.mp hdraft, rfl, (lookup_some (elim_ok hserial)).1, by simpa using hactive,
    not_not.mp hstatus, not_not.mp hreserved⟩

/-- Removing an item of a draft transfer. -/
theorem removeOutboundSerial_ready (transferId itemId : Nat) :
    (removeOutboundSerial transferId itemId).Commits Eq (Ready rt) db := by
  refine getTransfer_bind_ready fun loaded hfrom _ => ?_
  refine Request.Spec.bind_lift fun _ hdirection => ?_
  refine Request.Spec.bind_raiseIf fun hdraft => ?_
  apply Request.Spec.bind_reads
  refine Request.Spec.bind_raiseIf fun hitem => ?_
  apply Request.Spec.commits_alone
  cases hrow : lookup (·.id) itemId db.transferItems with
  | none =>
    rw [hrow] at hitem
    simp at hitem
  | some item =>
    rw [hrow] at hitem
    obtain ⟨hmem, hid⟩ := lookup_some hrow
    exact ⟨loaded.transfer, item, hfrom.transfer, resolveTransfer_ok hdirection, not_not.mp hdraft,
      hmem, hid, by simpa using hitem⟩

/-- A dispatch commits the transfer as it was loaded and checked. -/
theorem dispatchOutboundTransfer_ready (transferId : Nat) (s : Submitter) :
    (dispatchOutboundTransfer transferId s).Commits Eq (Ready rt) db := by
  refine getTransfer_bind_ready fun loaded hfrom _ => ?_
  refine Request.Spec.bind_lift fun _ hdirection => ?_
  refine Request.Spec.bind_raiseIf fun hdraft => ?_
  refine Request.Spec.bind_raiseIf fun hitems => ?_
  refine Request.Spec.bind_raiseIf fun _ => ?_
  apply Request.Spec.commits_alone
  exact ⟨hfrom, resolveTransfer_ok hdirection, not_not.mp hdraft, hitems⟩

/-- A scan at receipt marks an item of the transfer. -/
theorem scanInboundTransferItem_ready (transferId : Nat) (serialNumber : PyStr) (now : Instant) :
    (scanInboundTransferItem transferId serialNumber now).Commits Eq (Ready rt) db := by
  refine getTransfer_bind_ready fun loaded hfrom _ => ?_
  refine Request.Spec.bind_lift fun _ hdirection => ?_
  refine Request.Spec.bind_raiseIf fun hstatus => ?_
  apply Request.Spec.bind_reads
  refine Request.Spec.bind_lift fun item hitem => ?_
  refine Request.Spec.bind_raiseIf fun _ => ?_
  refine Request.Spec.bind_raiseIf fun _ => ?_
  apply Request.Spec.commits_alone
  have hrow := elim_ok hitem
  have hkeys := List.find?_some hrow
  simp only [Bool.and_eq_true, decide_eq_true_eq] at hkeys
  exact ⟨loaded.transfer, hfrom.transfer, resolveTransfer_ok hdirection, not_not.mp hstatus,
    List.mem_of_find?_eq_some hrow, hkeys.1⟩

/-- A receipt commits the transfer as it was loaded and checked. -/
theorem finalizeInboundReceipt_ready (transferId : Nat) (s : Submitter) :
    (finalizeInboundReceipt transferId s).Commits Eq (Ready rt) db := by
  refine getTransfer_bind_ready fun loaded hfrom _ => ?_
  refine Request.Spec.bind_lift fun _ hdirection => ?_
  refine Request.Spec.bind_raiseIf fun hstatus => ?_
  refine Request.Spec.bind_raiseIf fun hitems => ?_
  apply Request.Spec.commits_alone
  exact ⟨hfrom, resolveTransfer_ok hdirection, not_not.mp hstatus, hitems⟩

/-! ## All of them -/

/-- Whatever is ordered: a request that is alone commits what it has checked. -/
theorem request_ready (st : Settings) (hids : (db.serials.map (·.id)).Nodup) (o : StockOrder) :
    (o.request rt st).Commits Eq (Ready rt) db := by
  cases o with
  | openBatch user form now => exact createBatch_ready user form now
  | scan batchId user serialNumber returning now =>
    exact scanIntoBatch_ready batchId user serialNumber returning now
  | fefoPick batchId user productId quantity now =>
    exact fefoPickIntoBatch_ready hids batchId user productId quantity now
  | importExcel batchId user parse now => exact importTallyExcel_ready hids batchId user parse now
  | removeItem batchId itemId => exact deleteBatchItemRoute_ready batchId itemId
  | setItemRate batchId itemId rate => exact updateItemRate_ready batchId itemId rate
  | setProductRate batchId productId rate => exact updateProductRate_ready batchId productId rate
  | submit batchId actor => exact submitBatch_ready batchId (actor.on st)
  | openTransfer user peerCode notes uuid =>
    exact createOutboundTransfer_ready st user peerCode notes uuid
  | addSerial transferId serialNumber => exact addOutboundSerial_ready transferId serialNumber
  | removeSerial transferId itemId => exact removeOutboundSerial_ready transferId itemId
  | dispatch transferId actor => exact dispatchOutboundTransfer_ready transferId (actor.on st)
  | scanReceipt transferId serialNumber now =>
    exact scanInboundTransferItem_ready transferId serialNumber now
  | receive transferId actor => exact finalizeInboundReceipt_ready transferId (actor.on st)

/-- What the commits of an action, a relocation and a command keep, the action keeps. -/
theorem stockStep_invariant {st : Settings} {I : Db → Prop} {a : StockAction}
    (hrequest : ∀ o, a = .order o → (o.request rt st).Commits Eq Q db)
    (hcommit : ∀ c db db', I db → Q c db → writesOf c db = (.ok ⟨⟩, db') → I db')
    (hrelocate : ∀ m, Tx.Preserves I (relocateStock st m))
    (hcommand : ∀ now uuid command, a = .command now uuid command →
      Tx.Preserves I (applyMasterCommand rt st now uuid command))
    (h : I db) : I (stockStep rt st db a) := by
  cases a with
  | order o =>
    refine Request.serve_invariant (fun t c hI hc => ?_) h (hrequest o rfl)
    rcases Tx.atomically_cases (writesOf c) t with ⟨u, t', hwrites, hrun⟩ | ⟨e, t', hwrites, hrun⟩
    · show I (Tx.atomically (writesOf c) t).2
      rw [hrun]
      exact hcommit c t t' hI hc hwrites
    · show I (Tx.atomically (writesOf c) t).2
      rw [hrun]
      exact hI
  | relocate m => exact (hrelocate m).atomically h
  | command now uuid command => exact (hcommand now uuid command rfl).atomically h

/-- What every ready commit, every relocation and every command of a run keeps, the run
keeps; `P` is what its actions have in common. -/
theorem stock_invariant {st : Settings} {I : Db → Prop} {P : StockAction → Prop}
    (hids : ∀ db, I db → (db.serials.map (·.id)).Nodup)
    (hcommit : ∀ c db db', I db → Ready rt c db → writesOf c db = (.ok ⟨⟩, db') → I db')
    (hrelocate : ∀ m, Tx.Preserves I (relocateStock st m))
    (hcommand : ∀ now uuid command, P (.command now uuid command) →
      Tx.Preserves I (applyMasterCommand rt st now uuid command))
    {as : List StockAction} {db' : Db} (has : ∀ a ∈ as, P a) (h : I db)
    (hexec : exec (stockMachine rt st) db as = some db') : I db' := by
  refine guarded_invariant (m := stockMachine rt st) (C := fun _ a => P a)
    (fun db a db' hI hP hstep => ?_) h (guarded_of_mem has) hexec
  obtain rfl := Option.some.inj hstep
  refine stockStep_invariant (fun o _ => request_ready st (hids db hI) o) hcommit hrelocate ?_ hI
  rintro now uuid command rfl
  exact hcommand now uuid command hP

end SetuoraLite
