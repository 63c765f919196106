import SetuoraLite.Stock.FirstOut

/-!
# What an order commits

`Ready` says what a transaction knows of the database, whoever asked for it. `Asks` says
it of the order: which transactions a request can end in, into which batch, and which of
its checks have passed on the database it started from. `request_asks` is the one walk
through the requests; facts about single routes are read off `Asks`.
-/

namespace SetuoraLite

open Lib

/-! ## Transactions of an order -/

/-- A scan of this number into the batch has passed every check. -/
structure ScanAdmitted (db : Db) (batch : Batch) (user : User) (serialNumber : PyStr)
    (serial : Serial) (now : Instant) : Prop where
  stored : db.batch batch.id = some batch
  draft : batch.status = .draft
  noLocation : findLocationByCode serialNumber db = none
  noReturn : batch.batchType = .sale → pendingSaleReturnLogs batch.id db = []
  noShelf : batch.batchType ∈ shelfControlledBatchTypes → ∃ items, LoadedFrom db batch.id items ∧
    shelfRequired (pendingShelfItems batch items) = false
  numbered : db.serialNumbered (upper (strip serialNumber)) = some serial
  allowed : serialAllowedForBatch serial batch.batchType = .ok ()
  assigned : validateAssignmentScan (db.assignmentOf batch)
    ((db.assignmentOf batch).bind fun a => db.product a.productId) user serial now = .ok ()
  fresh : db.inBatch batch.id serial.id = false
  free : db.inOtherDraft batch.id serial.id = false

/-- What a scan into a batch commits. -/
def ScanAsks (db : Db) (batchId : Nat) (user : User) (serialNumber : PyStr) (now : Instant) :
    StockCommit → Prop
  | .logScan _ => True
  | .scanItem item _ => ∃ batch serial, batch.id = batchId ∧
      ScanAdmitted db batch user serialNumber serial now ∧
      item = newBatchItem batch serial none false
  | .returnItem _ log => log.batchId = some batchId ∧ pendingSaleReturnLogs batchId db = []
  | .verifyReturn batch _ _ _ _ => batch.id = batchId ∧ findLocationByCode serialNumber db ≠ none
  | .verifyShelf batch _ _ _ _ => batch.id = batchId ∧ findLocationByCode serialNumber db ≠ none
  | _ => False

/-- What a pick or an import into a batch commits. -/
def PickAsks (db : Db) (batchId : Nat) (enough : Batch → Prop) : StockCommit → Prop
  | .pickItems picks => ∃ batch, db.batch batchId = some batch ∧ batch.batchType ∈ fefoBatchTypes ∧
      (∀ p ∈ picks, p.1.batchId = batchId) ∧ (picks ≠ [] → enough batch)
  | _ => False

/-- The transactions that an order can end in. -/
def StockOrder.Asks (db : Db) : StockOrder → StockCommit → Prop
  | .openBatch _ form _ => fun
    | .createBatch row =>
      row.batchType = form.batchType ∧ row.auditAssignmentId = form.auditAssignmentId
    | _ => False
  | .scan batchId user serialNumber _ now => ScanAsks db batchId user serialNumber now
  | .fefoPick batchId _ productId quantity _ => PickAsks db batchId fun batch =>
    1 ≤ quantity ∧ quantity ≤ (available db batch.batchType productId).length
  | .importExcel batchId _ _ _ => PickAsks db batchId fun batch =>
    batch.batchType = .sale → pendingSaleReturnLogs batchId db = []
  | .removeItem batchId itemId => fun
    | .removeItem id => id = itemId ∧ ∃ item ∈ db.batchItems, item.id = id ∧ item.batchId = batchId
    | _ => False
  | .setItemRate _ _ _ => fun
    | .setRates _ _ => True
    | _ => False
  | .setProductRate _ _ _ => fun
    | .setRates _ _ => True
    | _ => False
  | .submit batchId _ => fun
    | .submit _ loaded => loaded.batch.id = batchId
    | _ => False
  | .openTransfer _ _ _ _ => fun
    | .createTransfer _ => True
    | _ => False
  | .addSerial _ _ => fun
    | .addTransferItem _ => True
    | _ => False
  | .removeSerial _ _ => fun
    | .removeTransferItem _ => True
    | _ => False
  | .dispatch _ _ => fun
    | .dispatch _ _ => True
    | _ => False
  | .scanReceipt _ _ _ => fun
    | .scanTransferItem _ _ => True
    | _ => False
  | .receive _ _ => fun
    | .receive _ _ => True
    | _ => False

/-- Nothing was committed before this by its request: only the log of a refusal and a batch
under another number can come second. -/
def StockCommit.First : StockCommit → Prop
  | .logScan _ | .createBatch _ => False
  | _ => True

/-- A commit of the order, and the database that its checks have seen. -/
def StockOrder.Asked (o : StockOrder) (db : Db) (c : StockCommit) (t : Db) : Prop :=
  o.Asks db c ∧ (c.First → t = db)

variable {rt : Runtime} {db : Db}

/-! ## Scans -/

section Scans

/-- A commit of a scan into the batch. -/
private abbrev ScanAsked (db : Db) (batchId : Nat) (user : User) (serialNumber : PyStr)
    (now : Instant) (c : StockCommit) (t : Db) : Prop :=
  ScanAsks db batchId user serialNumber now c ∧ (c.First → t = db)

/-- A refused scan asks for nothing but its log. -/
theorem rejectScan_asks (batchId : Nat) (scanner : User) (number : PyStr) (moment : Instant)
    (batch : Batch) (user : User) (now : Instant) (serial : Option Serial) (raw : PyStr)
    (e : PyError) (t : Db) :
    (rejectScan batch user now serial raw e).Commits Eq
        (ScanAsked db batchId scanner number moment) t :=
  (Request.Spec.commits fun _ _ => ⟨trivial, fun h => h.elim⟩).bind fun _ t _ =>
    Request.Spec.raise _ t

/-- A scan of a unit, when no location is scanned and none is waited for. -/
theorem addSerialToBatch_asks {batch : Batch} {user : User} {serialNumber : PyStr} {now : Instant}
    (hbatch : db.batch batch.id = some batch)
    (hlocation : findLocationByCode serialNumber db = none)
    (hreturn : batch.batchType = .sale → pendingSaleReturnLogs batch.id db = [])
    (hshelf : batch.batchType ∈ shelfControlledBatchTypes → ∃ items, LoadedFrom db batch.id items ∧
      shelfRequired (pendingShelfItems batch items) = false) :
    (addSerialToBatch batch user serialNumber now).Commits Eq
      (ScanAsked db batch.id user serialNumber now) db := by
  refine Request.Spec.bind_raiseIf fun hdraft => ?_
  apply Request.Spec.bind_reads
  -- An unknown number is logged and refused.
  split
  next => exact rejectScan_asks _ _ _ _ _ _ _ _ _ _ _
  next serial hserial =>
    refine (scanChecks_ready batch user serial now).bind fun outcome t ht => ?_
    obtain ⟨rfl, hchecks⟩ := ht
    -- A refused scan leaves a log and nothing else, an accepted one its item.
    cases outcome with
    | error e =>
      dsimp only
      split
      · exact rejectScan_asks _ _ _ _ _ _ _ _ _ _ _
      · exact Request.Spec.raise _ _
    | ok _ =>
      obtain ⟨hallowed, hassigned, hfresh, hfree⟩ := hchecks rfl
      refine (Request.Spec.attempt fun t ht => ?_).bind fun outcome t _ => ?_
      · subst ht
        exact ⟨⟨batch, serial, rfl, ⟨hbatch, not_not.mp hdraft, hlocation, hreturn, hshelf, hserial,
          hallowed, hassigned, hfresh, hfree⟩, rfl⟩, fun _ => rfl⟩
      cases outcome with
      | ok _ => exact Request.Spec.pure trivial
      | error e =>
        dsimp only
        split
        · exact rejectScan_asks _ _ _ _ _ _ _ _ _ _ _
        · exact Request.Spec.raise _ _

/-- The scan of a returned unit. -/
theorem scanSaleReturnProduct_asks (batch : Batch) (user : User) (serialNumber : PyStr)
    (now : Instant) :
    (scanSaleReturnProduct batch user serialNumber now).Commits Eq
      (ScanAsked db batch.id user serialNumber now) db := by
  have hreject : ∀ serial number message t, (rejectSaleReturn batch user now serial number
      message).Commits Eq (ScanAsked db batch.id user serialNumber now) t := fun _ _ _ _ =>
    (Request.Spec.commits fun _ _ => ⟨trivial, fun h => h.elim⟩).bind fun _ t _ =>
      Request.Spec.raise _ t
  refine (ensureDraftSale_ready batch).bind fun _ t ht => ?_
  obtain ⟨rfl, -, -⟩ := ht
  apply Request.Spec.bind_reads
  refine Request.Spec.bind_raiseIf fun hpending => ?_
  apply Request.Spec.bind_reads
  split
  next => exact hreject _ _ _ _
  next serial _ =>
    split
    next => exact hreject _ _ _ _
    next =>
      apply Request.Spec.bind_reads
      split
      next => exact hreject _ _ _ _
      next => exact Request.Spec.commits_alone ⟨⟨rfl, not_not.mp hpending⟩, fun _ => rfl⟩

/-- A scan of any kind. -/
theorem scanIntoBatch_asks (batchId : Nat) (user : User) (serialNumber : PyStr) (returning : Bool)
    (now : Instant) :
    (scanIntoBatch batchId user serialNumber returning now).Commits Eq
      ((StockOrder.scan batchId user serialNumber returning now).Asked db) db := by
  refine getBatch_bind_ready fun batch hbatch hid => ?_
  subst hid
  apply Request.Spec.bind_reads
  split
  next location hlocation =>
    have hfound : findLocationByCode serialNumber db ≠ none := by
      rw [hlocation]
      exact Option.some_ne_none _
    split
    · refine (ensureDraftSale_ready batch).bind fun _ t ht => ?_
      obtain ⟨rfl, -, -⟩ := ht
      apply Request.Spec.bind_reads
      exact Request.Spec.bind_raiseIf fun _ =>
        Request.Spec.commits_alone ⟨⟨rfl, hfound⟩, fun _ => rfl⟩
    · refine Request.Spec.bind_raiseIf fun _ => ?_
      refine Request.Spec.bind_raiseIf fun _ => ?_
      refine loadItems_bind_ready fun items _ => ?_
      exact Request.Spec.bind_raiseIf fun _ =>
        Request.Spec.commits_alone ⟨⟨rfl, hfound⟩, fun _ => rfl⟩
  next hlocation =>
    split
    · exact scanSaleReturnProduct_asks batch user serialNumber now
    · refine (ensureSaleScanAllowed_ready batch).bind fun _ t ht => ?_
      obtain ⟨rfl, hreturn⟩ := ht
      refine (ensureProductScanAllowed_ready batch).bind fun _ t ht => ?_
      obtain ⟨rfl, hshelf⟩ := ht
      exact addSerialToBatch_asks hbatch hlocation hreturn hshelf

end Scans

/-! ## Picks -/

/-- A pick by first expiry. -/
theorem fefoPickIntoBatch_asks (batchId : Nat) (user : User) (productId : Nat) (quantity : ℤ)
    (now : Instant) :
    (fefoPickIntoBatch batchId user productId quantity now).Commits Eq
      ((StockOrder.fefoPick batchId user productId quantity now).Asked db) db := by
  refine getBatch_bind_ready fun batch hbatch hid => ?_
  refine Request.Spec.bind_raiseIf fun _ => ?_
  refine Request.Spec.bind_raiseIf fun htype => ?_
  apply Request.Spec.bind_reads
  refine Request.Spec.bind_raiseIf fun henough => ?_
  apply Request.Spec.commits_alone
  refine ⟨⟨batch, hid ▸ hbatch, not_not.mp htype, fun p hp => ?_, fun hpicks => ?_⟩, fun _ => rfl⟩
  · obtain ⟨s, -, rfl⟩ := List.mem_map.mp hp
    exact hid
  · -- Something was picked, so the limit is positive and was reached.
    have hlength : (fefoSequence db batch.batchType productId).length
        = (available db batch.batchType productId).length := fefoSequence_perm.length_eq
    rw [fefoCandidateSerials_eq] at hpicks henough
    have hpos := List.length_pos_of_ne_nil fun hnil => hpicks (congrArg (List.map _) hnil)
    rw [List.length_take] at henough hpos
    omega

/-- An import picks for its lines only. -/
theorem importTallyExcel_asks (hids : (db.serials.map (·.id)).Nodup) (batchId : Nat) (user : User)
    (parse : Db → Except PyError (List AssignmentLine)) (now : Instant) :
    (importTallyExcel batchId user parse now).Commits Eq
      ((StockOrder.importExcel batchId user parse now).Asked db) db := by
  refine getBatch_bind_ready fun batch hbatch hid => ?_
  subst hid
  refine Request.Spec.bind_raiseIf fun _ => ?_
  refine Request.Spec.bind_raiseIf fun htype => ?_
  refine (ensureSaleScanAllowed_ready batch).bind fun _ t ht => ?_
  obtain ⟨rfl, hpending⟩ := ht
  apply Request.Spec.bind_reads
  refine Request.Spec.bind_lift fun lines _ => ?_
  refine Request.Spec.bind_raiseIf fun _ => ?_
  refine Request.Spec.bind_raiseIf fun _ => ?_
  refine (pickImportSerials_ready hids _ lines [] List.nodup_nil).bind fun picked t ht => ?_
  obtain ⟨rfl, -, -⟩ := ht
  refine Request.Spec.bind_lift fun rows hrows => ?_
  apply Request.Spec.commits_alone
  exact ⟨⟨batch, hbatch, not_not.mp htype, fun p hp => ((importedRows_spec hrows).2 p hp).1,
    fun _ => hpending⟩, fun _ => rfl⟩

/-! ## All of them -/

/-- What a form's batch is filed under. -/
theorem row_assignment {form : BatchForm} {user : User} {row : Batch}
    (h : form.row user = .ok row) :
    row.batchType = form.batchType ∧ row.auditAssignmentId = form.auditAssignmentId := by
  obtain ⟨_, -, h⟩ := except_bind_ok.mp h
  obtain ⟨_, -, h⟩ := except_bind_ok.mp h
  obtain ⟨_, -, h⟩ := except_bind_ok.mp h
  obtain rfl := Except.ok.inj h
  exact ⟨rfl, rfl⟩

/-- A form opens its own batch. -/
theorem createBatch_asks (user : User) (form : BatchForm) (now : Instant) :
    (createBatch user form now).Commits Eq ((StockOrder.openBatch user form now).Asked db) db := by
  refine Request.Spec.bind_lift fun row hrow => ?_
  have hform := row_assignment hrow
  have hattempts : ∀ (n : Nat) (t : Db), (createBatchAttempts row now n).Commits Eq
      ((StockOrder.openBatch user form now).Asked db) t := by
    intro n
    induction n with
    | zero => exact fun t => Request.Spec.raise _ t
    | succ n ih =>
      intro t
      apply Request.Spec.bind_reads
      refine (Request.Spec.attempt fun _ _ => ⟨hform, fun h => h.elim⟩).bind fun outcome t _ => ?_
      cases outcome with
      | ok _ => exact Request.Spec.pure trivial
      | error e =>
        dsimp only
        split
        · exact ih t
        · exact Request.Spec.raise _ t
  exact hattempts 5 db

/-- What is committed for an order is what the order asks for. -/
theorem request_asks {st : Settings} (hids : (db.serials.map (·.id)).Nodup) (o : StockOrder) :
    (o.request rt st).Commits Eq (o.Asked db) db := by
  -- Each request asks for the writes at its end, and only where its checks let it come.
  cases o with
  | openBatch user form now => exact createBatch_asks user form now
  | scan batchId user serialNumber returning now =>
    exact scanIntoBatch_asks batchId user serialNumber returning now
  | fefoPick batchId user productId quantity now =>
    exact fefoPickIntoBatch_asks batchId user productId quantity now
  | importExcel batchId user parse now => exact importTallyExcel_asks hids batchId user parse now
  | removeItem batchId itemId =>
    refine getBatch_bind_ready fun batch _ hid => ?_
    subst hid
    refine Request.Spec.bind_raiseIf fun _ => ?_
    apply Request.Spec.bind_reads
    refine Request.Spec.bind_raiseIf fun hitem => ?_
    obtain ⟨item, -, hmem, hid, hof⟩ := item_of_batch hitem
    exact Request.Spec.commits_alone ⟨⟨rfl, item, hmem, hid, hof⟩, fun _ => rfl⟩
  | setItemRate batchId itemId rate =>
    refine getBatch_bind_ready fun batch _ _ => ?_
    refine Request.Spec.bind_raiseIf fun _ => ?_
    refine Request.Spec.bind_raiseIf fun _ => ?_
    apply Request.Spec.bind_reads
    exact Request.Spec.bind_raiseIf fun _ => Request.Spec.commits_alone ⟨trivial, fun _ => rfl⟩
  | setProductRate batchId productId rate =>
    refine getBatch_bind_ready fun batch _ _ => ?_
    refine loadItems_bind_ready fun items _ => ?_
    refine Request.Spec.bind_raiseIf fun _ => ?_
    refine Request.Spec.bind_raiseIf fun _ => ?_
    exact Request.Spec.bind_raiseIf fun _ => Request.Spec.commits_alone ⟨trivial, fun _ => rfl⟩
  | submit batchId actor =>
    refine getBatch_bind_ready fun batch _ hid => ?_
    refine loadItems_bind_ready fun items _ => ?_
    dsimp only
    split
    · exact Request.Spec.pure trivial
    · refine (validateSaleReturnsComplete_ready batch).bind fun _ t ht => ?_
      obtain ⟨rfl, -⟩ := ht
      refine Request.Spec.bind_lift fun _ _ => ?_
      exact Request.Spec.bind_lift fun _ _ => Request.Spec.commits_alone ⟨hid, fun _ => rfl⟩
  | openTransfer user peerCode notes uuid =>
    refine Request.Spec.bind_raiseIf fun _ => ?_
    refine Request.Spec.bind_raiseIf fun _ => ?_
    refine Request.Spec.bind_lift fun _ _ => ?_
    exact Request.Spec.bind_raiseIf fun _ => Request.Spec.commits_alone ⟨trivial, fun _ => rfl⟩
  | addSerial transferId serialNumber =>
    refine getTransfer_bind_ready fun loaded _ _ => ?_
    refine Request.Spec.bind_lift fun _ _ => ?_
    refine Request.Spec.bind_raiseIf fun _ => ?_
    apply Request.Spec.bind_reads
    refine Request.Spec.bind_lift fun serial _ => ?_
    refine Request.Spec.bind_raiseIf fun _ => ?_
    apply Request.Spec.bind_reads
    refine Request.Spec.bind_raiseIf fun _ => ?_
    refine Request.Spec.bind_raiseIf fun _ => ?_
    apply Request.Spec.bind_reads
    exact Request.Spec.bind_lift fun _ _ => Request.Spec.commits_alone ⟨trivial, fun _ => rfl⟩
  | removeSerial transferId itemId =>
    refine getTransfer_bind_ready fun loaded _ _ => ?_
    refine Request.Spec.bind_lift fun _ _ => ?_
    refine Request.Spec.bind_raiseIf fun _ => ?_
    apply Request.Spec.bind_reads
    exact Request.Spec.bind_raiseIf fun _ => Request.Spec.commits_alone ⟨trivial, fun _ => rfl⟩
  | dispatch transferId actor =>
    refine getTransfer_bind_ready fun loaded _ _ => ?_
    refine Request.Spec.bind_lift fun _ _ => ?_
    refine Request.Spec.bind_raiseIf fun _ => ?_
    refine Request.Spec.bind_raiseIf fun _ => ?_
    exact Request.Spec.bind_raiseIf fun _ => Request.Spec.commits_alone ⟨trivial, fun _ => rfl⟩
  | scanReceipt transferId serialNumber now =>
    refine getTransfer_bind_ready fun loaded _ _ => ?_
    refine Request.Spec.bind_lift fun _ _ => ?_
    refine Request.Spec.bind_raiseIf fun _ => ?_
    apply Request.Spec.bind_reads
    refine Request.Spec.bind_lift fun item _ => ?_
    refine Request.Spec.bind_raiseIf fun _ => ?_
    exact Request.Spec.bind_raiseIf fun _ => Request.Spec.commits_alone ⟨trivial, fun _ => rfl⟩
  | receive transferId actor =>
    refine getTransfer_bind_ready fun loaded _ _ => ?_
    refine Request.Spec.bind_lift fun _ _ => ?_
    refine Request.Spec.bind_raiseIf fun _ => ?_
    exact Request.Spec.bind_raiseIf fun _ => Request.Spec.commits_alone ⟨trivial, fun _ => rfl⟩

end SetuoraLite
