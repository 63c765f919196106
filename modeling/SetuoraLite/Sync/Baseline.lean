import SetuoraLite.Lib.Python
import SetuoraLite.Sync.Outbox

/-!
# The inventory baseline

The first events of a node describe all its available stock:
`enqueue_initial_inventory_snapshot` packs one item for each available serial into
as few requests as Master's limits allow, and queues them as PART-1, PART-2 and so
on; a node without stock queues one event without items.

The function checks that the outbox is empty, reads the stock, and then writes. The
three parts are three definitions here, because other transactions may commit in
between: `requireEmptyOutbox`, `initialInventoryItems` and `enqueueInitialInventory`.

`Extends` is what queueing does to the outbox, one event or many: new rows at the
end, with the next ids in order. `enqueueInitialInventory_ok` is the specification
of the last part.
-/

namespace SetuoraLite

open Lib

/-! ## Items -/

/-- A nullable text. -/
def optStr : Option PyStr → Json
  | some s => .str s
  | none => .null

/-- `_iso` of a nullable date. -/
def isoOpt : Option Date → Json
  | some d => .str (isoDate d)
  | none => .null

/-- The members of `network_event_item`. -/
def networkEventMembers (product : Product) (serial : Serial)
    (rate salesDiscountRate : Option PyFloat)
    (status : Option SerialStatus) : List (PyStr × Json) :=
  [(py "serial_number", .str serial.serialNumber),
    (py "product_code", .str product.productCode),
    (py "product_name", .str product.productName),
    (py "tally_stock_item_name", .str product.tallyStockItemName),
    (py "hsn", .str product.hsn),
    (py "gst_rate", .float product.gstRate.orZero),
    (py "sales_discount_rate", .float (salesDiscountRate.getD product.salesDiscountRate.orZero)),
    (py "unit", .str product.unit),
    (py "rate", .float (rate.getD product.defaultRate.orZero)),
    (py "status", .str (status.getD serial.status).value),
    (py "product_batch_number", optStr serial.productBatchNumber),
    (py "mfg_date", isoOpt serial.mfgDate),
    (py "expiry_date", isoOpt serial.expiryDate),
    (py "warehouse", optStr serial.warehouse)]

theorem optStr_wf (s : Option PyStr) : (optStr s).WF := by
  cases s <;> trivial

private theorem isoOpt_wf (d : Option Date) : (isoOpt d).WF := by
  cases d <;> trivial

/-- `network_event_item`. -/
def networkEventItem (product : Product) (serial : Serial) (rate salesDiscountRate : Option PyFloat)
    (status : Option SerialStatus) : JsonDict where
  entries := networkEventMembers product serial rate salesDiscountRate status
  wf := by
    refine ⟨?_, ?_⟩
    · show [py "serial_number", py "product_code", py "product_name", py "tally_stock_item_name",
        py "hsn", py "gst_rate", py "sales_discount_rate", py "unit", py "rate", py "status",
        py "product_batch_number", py "mfg_date", py "expiry_date", py "warehouse"].Nodup
      decide
    · exact ⟨trivial, trivial, trivial, trivial, trivial, trivial, trivial, trivial,
        trivial, trivial,
        optStr_wf _, isoOpt_wf _, isoOpt_wf _, optStr_wf _, trivial⟩

/-- `AttributeError`, from a column of a missing row. -/
def PyError.noneType : PyError := ⟨.other, py "'NoneType' object has no attribute"⟩

/-- `network_event_item(serial, …)`, with the product that the serial refers to. -/
def networkItemOf (db : Db) (serial : Serial) (rate salesDiscountRate : Option PyFloat)
    (status : Option SerialStatus) : Except PyError JsonDict :=
  match db.product serial.productId with
  | some product => .ok (networkEventItem product serial rate salesDiscountRate status)
  | none => .error .noneType

/-! ## Packing -/

/-- `_initial_inventory_reference`. -/
def initialInventoryReference (code : PyStr) (partNumber : Nat) : PyStr :=
  code ++ py ":" ++ initialInventoryReferenceSegment ++ py ":PART-" ++ decDigits partNumber

/-- The reference of the event of a node without stock. -/
def emptyInventoryReference (code : PyStr) : PyStr :=
  code ++ py ":" ++ initialInventoryReferenceSegment ++ py ":EMPTY"

/-- `_initial_inventory_payload`; the actor is a user's name. -/
def initialInventoryPayload (reference : PyStr) (actor : Option PyStr) (items : List JsonDict) :
    JsonDict where
  entries := [(py "reference", .str reference), (py "actor", optStr actor),
    (py "reason_code", .str (py "INITIAL_ENROLLMENT")),
    (py "items", .arr (items.map fun item => .obj item.entries))]
  wf := by
    have hkeys : [py "reference", py "actor", py "reason_code", py "items"].Nodup := by decide
    refine ⟨hkeys, trivial, optStr_wf actor, trivial, ?_, trivial⟩
    refine Json.allWF_iff.mpr fun v hv => ?_
    obtain ⟨item, -, rfl⟩ := List.mem_map.mp hv
    exact item.wf

/-- `_utf8_size(canonical_json(value))`. -/
def canonicalSize (v : Json) : Except PyError Nat := do
  let text ← canonicalJson v
  let bytes ← encodeText text
  .ok bytes.length

/-- `_EVENT_ID_SIZE_PLACEHOLDER`. -/
def eventIdSizePlaceholder : PyStr := py "00000000-0000-0000-0000-000000000000"

/-- `_conservative_initial_inventory_body_size`. -/
def conservativeInitialInventoryBodySize (reference : PyStr) (actor : Option PyStr)
    (occurredAt : Instant) (itemJsonSizes : List Nat) : Except PyError Nat := do
  let text ← frozenEventJson eventIdSizePlaceholder maxSqliteSequence
    (py "STOCK_SNAPSHOT") reference
    (initialInventoryPayload reference actor []).entries occurredAt eventSchemaVersion
  let bytes ← encodeText text
  .ok (bytes.length + itemJsonSizes.sum + (itemJsonSizes.length - 1))

/-- The variables of the packing loop. -/
structure Packing where
  chunks : List (List JsonDict)
  currentItems : List JsonDict
  currentContentSize : Nat
  partNumber : Nat
  envelopeSize : Nat

/-- The end of one round: the item goes into the current chunk. -/
def Packing.place (s : Packing) (item : JsonDict) (itemSize itemAddition : Nat) :
    Except PyError Packing :=
  if s.currentItems.isEmpty = true ∧ masterEventMaxBodyBytes < s.envelopeSize + itemSize then
    .error (masterSyncError (py "One initial-inventory item exceeds Master's UTF-8 request " ++
      py "size limit. Shorten its product or stock text before retrying."))
  else .ok { s with
    currentItems := s.currentItems ++ [item]
    currentContentSize := s.currentContentSize + itemAddition }

/-- One round of `_partition_initial_inventory_items`. -/
def packItem (code : PyStr) (actor : Option PyStr) (occurredAt : Instant) (s : Packing)
    (item : JsonDict) : Except PyError Packing := do
  let itemSize ← canonicalSize (.obj item.entries)
  let itemAddition := itemSize + (if s.currentItems.isEmpty then 0 else 1)
  if s.currentItems.isEmpty = false ∧ ¬ (s.currentItems.length + 1 ≤ masterEventMaxItems ∧
      s.envelopeSize + s.currentContentSize + itemAddition ≤ masterEventMaxBodyBytes) then do
    let envelopeSize ← conservativeInitialInventoryBodySize
      (initialInventoryReference code (s.partNumber + 1)) actor occurredAt []
    Packing.place ⟨s.chunks ++ [s.currentItems], [], 0, s.partNumber + 1, envelopeSize⟩ item
      itemSize itemSize
  else s.place item itemSize itemAddition

/-- `_partition_initial_inventory_items`. -/
def partitionInitialInventoryItems (items : List JsonDict) (code : PyStr) (actor : Option PyStr)
    (occurredAt : Instant) : Except PyError (List (List JsonDict)) := do
  let envelopeSize ← conservativeInitialInventoryBodySize (initialInventoryReference code 1) actor
    occurredAt []
  let s ← items.foldlM (packItem code actor occurredAt) ⟨[], [], 0, 1, envelopeSize⟩
  .ok (if s.currentItems.isEmpty then s.chunks else s.chunks ++ [s.currentItems])

/-! ## Queueing the baseline -/

/-- The first check of `enqueue_initial_inventory_snapshot`. -/
def requireEmptyOutbox (db : Db) : Except PyError Unit :=
  if db.outbox = [] then .ok ()
  else .error (masterSyncError
    (py "Initial inventory can only be queued before the first outbox event."))

/-- The stock that the baseline describes, by serial id. -/
def availableSerials (db : Db) : List Serial :=
  (db.serials.filter fun s =>
    s.active && (s.status == .generated || s.status == .inStock)).insertionSort
    fun a b => a.id ≤ b.id

/-- The items of the baseline. -/
def initialInventoryItems (db : Db) : Except PyError (List JsonDict) :=
  (availableSerials db).mapM fun serial => networkItemOf db serial none none none

/-- The event of a node without stock. -/
def emptyInventoryRequest (code : PyStr) (actor : Option PyStr) (occurredAt : Instant) :
    EnqueueRequest where
  eventType := py "HEARTBEAT"
  aggregateType := initialInventoryAggregateType
  aggregateId := emptyInventoryReference code
  payload := initialInventoryPayload (emptyInventoryReference code) actor []
  occurredAt := some occurredAt
  schemaVersion := eventSchemaVersion
  batchId := none
  initialInventory := true

/-- The event of one part. -/
def partRequest (code : PyStr) (actor : Option PyStr) (occurredAt : Instant) (partNumber : Nat)
    (chunk : List JsonDict) : EnqueueRequest where
  eventType := py "STOCK_SNAPSHOT"
  aggregateType := initialInventoryAggregateType
  aggregateId := initialInventoryReference code partNumber
  payload := initialInventoryPayload (initialInventoryReference code partNumber) actor chunk
  occurredAt := some occurredAt
  schemaVersion := eventSchemaVersion
  batchId := none
  initialInventory := true

/-- Queue the parts, the first one as number `partNumber`; `uuids` are the draws of
`uuid4()`. -/
def enqueueParts (st : Settings) (uuids : Nat → PyStr) (code : PyStr) (actor : Option PyStr)
    (occurredAt : Instant) : Nat → List (List JsonDict) → Tx PUnit
  | _, [] => pure ⟨⟩
  | partNumber, chunk :: chunks => do
    let _ ← enqueueOutboxEvent st (uuids partNumber) occurredAt
      (partRequest code actor occurredAt partNumber chunk)
    enqueueParts st uuids code actor occurredAt (partNumber + 1) chunks

/-- `enqueue_initial_inventory_snapshot` after it has read the stock: queue the
events; the result is their number. -/
def enqueueInitialInventory (st : Settings) (uuids : Nat → PyStr) (code : PyStr)
    (actor : Option PyStr) (occurredAt : Instant) (items : List JsonDict) : Tx Nat :=
  if items.isEmpty then do
    let _ ← enqueueOutboxEvent st (uuids 1) occurredAt (emptyInventoryRequest code actor occurredAt)
    pure 1
  else do
    let chunks ← Tx.lift (partitionInitialInventoryItems items code actor occurredAt)
    enqueueParts st uuids code actor occurredAt 1 chunks
    pure chunks.length

/-! ## What queueing does to the outbox -/

/-- New rows at the end of the outbox, with the next ids in order; nothing else. -/
structure Extends (db : Db) (rows : List MasterOutboxEvent) (db' : Db) : Prop where
  state : db' = { db with outbox := db.outbox ++ rows, outboxSequence := db'.outboxSequence }
  ids : rows.map (·.id) = List.range' (nextOutboxId db) rows.length
  next : nextOutboxId db' = nextOutboxId db + rows.length
  same : rows = [] → db' = db
  used : rows ≠ [] → nextOutboxId db' = db'.outboxSequence + 1

theorem Extends.refl (db : Db) : Extends db [] db :=
  ⟨by rw [List.append_nil], rfl, rfl, fun _ => rfl, fun h => absurd rfl h⟩

theorem Extends.outbox {db db' : Db} {rows : List MasterOutboxEvent} (h : Extends db rows db') :
    db'.outbox = db.outbox ++ rows := by rw [h.state]

theorem Extends.trans {db db₁ db₂ : Db} {rows₁ rows₂ : List MasterOutboxEvent}
    (h₁ : Extends db rows₁ db₁) (h₂ : Extends db₁ rows₂ db₂) : Extends db (rows₁ ++ rows₂) db₂ := by
  refine ⟨?_, ?_, ?_, ?_, ?_⟩
  · rw [h₂.state, h₁.state, List.append_assoc]
  · rw [List.map_append, h₁.ids, h₂.ids, h₁.next, List.length_append, List.range'_append_1]
  · rw [h₂.next, h₁.next, List.length_append]
    omega
  · intro he
    obtain ⟨he₁, he₂⟩ := List.append_eq_nil_iff.mp he
    rw [h₂.same he₂, h₁.same he₁]
  · intro hne
    by_cases he : rows₂ = []
    · rw [he, List.append_nil] at hne
      rw [h₂.same he]
      exact h₁.used hne
    · exact h₂.used he

/-- The largest id of a list that ends with a larger row. -/
private theorem maxId_append_row {rows : List MasterOutboxEvent} {row : MasterOutboxEvent}
    (h : ∀ r ∈ rows, r.id < row.id) : maxId (·.id) (rows ++ [row]) = row.id := by
  apply Nat.le_antisymm
  · refine maxId_le fun r hr => ?_
    rcases List.mem_append.mp hr with hr | hr
    · exact Nat.le_of_lt (h r hr)
    · obtain rfl := List.mem_singleton.mp hr
      exact Nat.le_refl _
  · exact le_maxId (fun row : MasterOutboxEvent => row.id)
      (List.mem_append_right rows List.mem_cons_self)

/-- One queued event. -/
theorem Enqueued.extends {st : Settings} {uuid : PyStr} {now : Instant} {r : EnqueueRequest}
    {db db' : Db} {row : MasterOutboxEvent} (h : Enqueued st uuid now r db row db') :
    Extends db [row] db' := by
  have hid : row.id = nextOutboxId db := by rw [h.columns]; rfl
  have hmax : maxId (·.id) (db.outbox ++ [row]) = row.id :=
    maxId_append_row fun r hr => hid ▸ lt_nextOutboxId hr
  have hnext : nextOutboxId db' = row.id + 1 := by
    rw [h.appended]
    unfold nextOutboxId
    simp only [hmax, Nat.max_self]
  refine ⟨?_, ?_, ?_, fun he => absurd he (by simp), ?_⟩
  · rw [h.appended]
  · simp [hid]
  · rw [hnext, hid]
    rfl
  · intro _
    rw [hnext, h.appended]

/-- The rows of a baseline, in order: their references under one franchise code. -/
def IsBaseline (rows : List MasterOutboxEvent) : Prop :=
  (∀ r ∈ rows, r.aggregateType = initialInventoryAggregateType) ∧
  ∃ code, rows.map (·.aggregateId) = [emptyInventoryReference code] ∨
    (rows ≠ [] ∧
      rows.map (·.aggregateId) = (List.range' 1 rows.length).map (initialInventoryReference code))

/-- The rows of a baseline of one franchise code. -/
def IsBaselineOf (code : PyStr) (rows : List MasterOutboxEvent) : Prop :=
  (∀ r ∈ rows, r.aggregateType = initialInventoryAggregateType) ∧
  (rows.map (·.aggregateId) = [emptyInventoryReference code] ∨
    (rows ≠ [] ∧
      rows.map (·.aggregateId) = (List.range' 1 rows.length).map (initialInventoryReference code)))

theorem IsBaselineOf.isBaseline {code : PyStr} {rows : List MasterOutboxEvent}
    (h : IsBaselineOf code rows) : IsBaseline rows := ⟨h.1, code, h.2⟩

private theorem enqueueParts_ok {st : Settings} {uuids : Nat → PyStr} {code : PyStr}
    {actor : Option PyStr} {occurredAt : Instant} {chunks : List (List JsonDict)} :
    ∀ {partNumber : Nat} {db db' : Db} {u : PUnit},
      enqueueParts st uuids code actor occurredAt partNumber chunks db = (.ok u, db') →
      ∃ rows, Extends db rows db' ∧ rows.length = chunks.length ∧
        (∀ r ∈ rows, r.aggregateType = initialInventoryAggregateType) ∧
        rows.map (·.aggregateId)
          = (List.range' partNumber chunks.length).map (initialInventoryReference code) := by
  -- Over the parts: one row each, which carries its number in the reference.
  induction chunks with
  | nil =>
    intro partNumber db db' u h
    obtain ⟨-, rfl⟩ := Tx.pure_ok.mp h
    exact ⟨[], Extends.refl db, rfl, fun r hr => absurd hr List.not_mem_nil, rfl⟩
  | cons chunk chunks ih =>
    intro partNumber db db' u h
    unfold enqueueParts at h
    rw [Tx.bind_ok] at h
    obtain ⟨row, t, hrow, h⟩ := h
    have henq := enqueueOutboxEvent_ok hrow
    obtain ⟨rows, hext, hlen, htype, href⟩ := ih h
    have htype' : row.aggregateType = initialInventoryAggregateType := by
      have hbase := henq.baseline
      exact hbase
    have href' : row.aggregateId = initialInventoryReference code partNumber := by
      rw [henq.columns]
      rfl
    refine ⟨row :: rows,
      henq.extends.trans hext, by rw [List.length_cons, hlen, List.length_cons], ?_, ?_⟩
    · intro r hr
      rcases List.mem_cons.mp hr with rfl | hr
      · exact htype'
      · exact htype r hr
    · rw [List.map_cons, href, href', List.length_cons, List.range'_succ, List.map_cons]

/-- A round of the packing loop leaves an item in the current chunk. -/
private theorem packItem_ok {code : PyStr} {actor : Option PyStr} {occurredAt : Instant}
    {s s' : Packing} {item : JsonDict} (h : packItem code actor occurredAt s item = .ok s') :
    s'.currentItems.isEmpty = false := by
  have hplace : ∀ {s₀ : Packing} {a b : Nat}, s₀.place item a b = .ok s' →
      s'.currentItems.isEmpty = false := by
    intro s₀ a b hp
    unfold Packing.place at hp
    split at hp
    · exact absurd hp (by simp)
    · obtain rfl := Except.ok.inj hp
      simp
  unfold packItem at h
  obtain ⟨itemSize, -, h⟩ := except_bind_ok.mp h
  by_cases hfull : s.currentItems.isEmpty = false ∧
    ¬ (s.currentItems.length + 1 ≤ masterEventMaxItems ∧
      s.envelopeSize + s.currentContentSize + (itemSize + if s.currentItems.isEmpty then 0 else 1)
        ≤ masterEventMaxBodyBytes)
  · rw [if_pos hfull] at h
    obtain ⟨envelopeSize, -, h⟩ := except_bind_ok.mp h
    exact hplace h
  · rw [if_neg hfull] at h
    exact hplace h

private theorem foldlM_packItem_ok {code : PyStr} {actor : Option PyStr} {occurredAt : Instant}
    {items : List JsonDict} : ∀ {s s' : Packing}, items ≠ [] →
      items.foldlM (packItem code actor occurredAt) s = .ok s' →
      s'.currentItems.isEmpty = false := by
  induction items with
  | nil => exact fun hne => absurd rfl hne
  | cons item items ih =>
    intro s s' _ h
    rw [List.foldlM_cons] at h
    obtain ⟨t, hitem, h⟩ := except_bind_ok.mp h
    cases items with
    | nil =>
      obtain rfl := Except.ok.inj h
      exact packItem_ok hitem
    | cons item' items => exact ih (by simp) h

/-- A baseline with items has a part. -/
theorem partition_ne_nil {items : List JsonDict} {code : PyStr} {actor : Option PyStr}
    {occurredAt : Instant} {chunks : List (List JsonDict)} (hne : items ≠ [])
    (h : partitionInitialInventoryItems items code actor occurredAt = .ok chunks) :
    chunks ≠ [] := by
  unfold partitionInitialInventoryItems at h
  obtain ⟨envelopeSize, -, h⟩ := except_bind_ok.mp h
  obtain ⟨s, hfold, h⟩ := except_bind_ok.mp h
  obtain rfl := Except.ok.inj h
  have hlast := foldlM_packItem_ok hne hfold
  simp [hlast]

/-- Queueing the baseline puts one whole baseline at the end of the outbox. -/
theorem enqueueInitialInventory_rows {st : Settings} {uuids : Nat → PyStr} {code : PyStr}
    {actor : Option PyStr} {occurredAt : Instant} {items : List JsonDict} {db db' : Db} {n : Nat}
    (h : enqueueInitialInventory st uuids code actor occurredAt items db = (.ok n, db')) :
    ∃ rows, Extends db rows db' ∧ IsBaselineOf code rows := by
  unfold enqueueInitialInventory at h
  split at h
  next hempty =>
    rw [Tx.bind_ok] at h
    obtain ⟨row, t, hrow, h⟩ := h
    obtain ⟨-, rfl⟩ := Tx.pure_ok.mp h
    have henq := enqueueOutboxEvent_ok hrow
    have hbase := henq.baseline
    refine ⟨[row], henq.extends, ?_, Or.inl ?_⟩
    · intro r hr
      obtain rfl := List.mem_singleton.mp hr
      exact hbase
    · rw [List.map_singleton, henq.columns]
      rfl
  next hitems =>
    rw [Tx.bind_ok] at h
    obtain ⟨chunks, t, hchunks, h⟩ := h
    obtain ⟨hpart, rfl⟩ := Tx.lift_ok.mp hchunks
    rw [Tx.bind_ok] at h
    obtain ⟨u, t, hparts, h⟩ := h
    obtain ⟨-, rfl⟩ := Tx.pure_ok.mp h
    obtain ⟨rows, hext, hlen, htype, href⟩ := enqueueParts_ok hparts
    have hne : chunks ≠ [] := partition_ne_nil (by simpa using hitems) hpart
    refine ⟨rows, hext, htype, Or.inr ⟨?_, by rw [hlen]; exact href⟩⟩
    intro he
    rw [he] at hlen
    exact hne (List.length_eq_zero_iff.mp hlen.symm)

theorem enqueueInitialInventory_ok {st : Settings} {uuids : Nat → PyStr} {code : PyStr}
    {actor : Option PyStr} {occurredAt : Instant} {items : List JsonDict} {db db' : Db} {n : Nat}
    (h : enqueueInitialInventory st uuids code actor occurredAt items db = (.ok n, db')) :
    ∃ rows, Extends db rows db' ∧ IsBaseline rows := by
  obtain ⟨rows, hext, hrows⟩ := enqueueInitialInventory_rows h
  exact ⟨rows, hext, hrows.isBaseline⟩

end SetuoraLite
