import SetuoraLite.Lib.Sha256
import SetuoraLite.Sync.Config

/-!
# The outbox

`enqueue_outbox_event` inserts an empty row, which reserves the `AUTOINCREMENT`
sequence, freezes the canonical envelope with that sequence in it, checks the
envelope against Master's limits and stores it with its SHA-256, all in the
caller's transaction.

The envelope is the caller's payload with the envelope's own fields written over
it, so a payload cannot forge a sequence or an event id. `FrozenRow` says what a
finished row looks like from outside: its text decodes to one event that carries
the row's own columns, within the limits, under its own digest.
`enqueueOutboxEvent_ok` is the specification of the whole function.
-/

namespace SetuoraLite

open Lib

/-- `EVENT_SCHEMA_VERSION`. -/
def eventSchemaVersion : Int := 1

/-- `MASTER_EVENT_MAX_ITEMS`. -/
def masterEventMaxItems : Nat := 5000

/-- `MASTER_EVENT_MAX_BODY_BYTES`. -/
def masterEventMaxBodyBytes : Nat := 5 * 1024 * 1024

/-- `_MAX_SQLITE_SEQUENCE`. -/
def maxSqliteSequence : Nat := 2 ^ 63 - 1

/-- `INITIAL_INVENTORY_AGGREGATE_TYPE`. -/
def initialInventoryAggregateType : PyStr := py "INITIAL_INVENTORY"

/-- `INITIAL_INVENTORY_REFERENCE_SEGMENT`. -/
def initialInventoryReferenceSegment : PyStr := py "INITIAL-INVENTORY"

/-! ## The baseline marker -/

/-- `_initial_inventory_reference_prefix`. -/
def initialInventoryReferencePrefix (code : PyStr) : PyStr :=
  code ++ py ":" ++ initialInventoryReferenceSegment ++ py ":"

/-- `LIKE pattern || '%'`: SQLite ignores the case of ASCII letters, `_` matches any
code point; a franchise code contains no `%`. -/
def likePrefix : PyStr → PyStr → Bool
  | [], _ => true
  | _ :: _, [] => false
  | p :: ps, c :: cs => (p == cp '_' || asciiUpperChar p == asciiUpperChar c) && likePrefix ps cs

/-- A row that marks the baseline of a franchise code. -/
def isBaselineMarker (code : PyStr) (row : MasterOutboxEvent) : Bool :=
  row.aggregateType == initialInventoryAggregateType &&
    likePrefix (initialInventoryReferencePrefix code) row.aggregateId

/-- `initial_inventory_is_queued`. -/
def initialInventoryIsQueued (db : Db) (code : PyStr) : Bool :=
  db.outbox.any (isBaselineMarker code)

/-- `require_initial_inventory_queued`. -/
def requireInitialInventoryQueued (st : Settings) (db : Db) : Except PyError PyStr := do
  let code ← configuredFranchiseCode st (some true)
  if initialInventoryIsQueued db code then .ok code
  else .error (masterSyncError (py "Initialize inventory for franchise " ++ code ++
    py " from Master Connection before recording Lite stock changes."))

/-! ## The envelope -/

/-- A Python `dict` of JSON values: its keys are distinct, at every level. -/
structure JsonDict where
  entries : List (PyStr × Json)
  wf : (Json.obj entries).WF

/-- `canonical_json`. -/
def canonicalJson (v : Json) : Except PyError PyStr :=
  match v.dumps with
  | some t => .ok t
  | none => .error ⟨.value, py "Exceeds the limit (4300 digits) for integer string conversion; " ++
      py "use sys.set_int_max_str_digits() to increase the limit"⟩

/-- `value.encode("utf-8")`. -/
def encodeText (s : PyStr) : Except PyError (List UInt8) :=
  match encodeUtf8 s with
  | some bytes => .ok bytes
  | none => .error .unicodeEncode

/-- `payload_sha256`. -/
def payloadSha256 (payloadJson : PyStr) : Except PyError PyStr :=
  (encodeText payloadJson).map sha256Hex

/-- The fields of the envelope that overwrite the caller's. -/
def envelopeFields (eventId : PyStr) (sequence : Nat) (eventType : PyStr) (occurredAt : Instant)
    (schemaVersion : Int) : List (PyStr × Json) :=
  [(py "schema_version", .int schemaVersion), (py "event_id", .str eventId),
    (py "sequence", .int sequence), (py "type", .str eventType),
    (py "occurred_at", .str (isoInstant occurredAt))]

/-- The event that `_frozen_event_json` puts into the request. -/
def frozenEvent (eventId : PyStr) (sequence : Nat) (eventType aggregateId : PyStr)
    (payload : List (PyStr × Json)) (occurredAt : Instant) (schemaVersion : Int) :
    List (PyStr × Json) :=
  dictSetDefault (py "items") (.arr [])
    (dictSetDefault (py "actor") .null
      (dictSetDefault (py "reference") (.str aggregateId)
        (dictUpdate payload (envelopeFields eventId sequence eventType occurredAt schemaVersion))))

/-- The body of a request with one event. -/
def requestBody (event : List (PyStr × Json)) : Json := .obj [(py "events", .arr [.obj event])]

/-- `_frozen_event_json`. -/
def frozenEventJson (eventId : PyStr) (sequence : Nat) (eventType aggregateId : PyStr)
    (payload : List (PyStr × Json)) (occurredAt : Instant) (schemaVersion : Int) :
    Except PyError PyStr :=
  canonicalJson (requestBody
    (frozenEvent eventId sequence eventType aggregateId payload occurredAt schemaVersion))

/-- Digits with a comma after every third, from the right: `f"{n:,}"`. -/
def groupedDigits (n : Nat) : PyStr :=
  let ds := decDigits n
  (ds.zipIdx).flatMap fun p =>
    if p.2 ≠ 0 ∧ (ds.length - p.2) % 3 = 0 then [cp ',', p.1] else [p.1]

/-- `_validate_frozen_event_request`. -/
def validateFrozenEventRequest (payloadJson : PyStr) (itemCount : Nat) : Except PyError Unit := do
  let bytes ← encodeText payloadJson
  if masterEventMaxItems < itemCount then
    .error (masterSyncError (py "Master accepts at most " ++ groupedDigits masterEventMaxItems ++
      py " items in one event. Split this transaction into smaller transactions and retry."))
  else if masterEventMaxBodyBytes < bytes.length then
    .error (masterSyncError (py "Master event request is " ++ groupedDigits bytes.length ++
      py " UTF-8 bytes; the limit is " ++ groupedDigits masterEventMaxBodyBytes ++
      py " bytes. Split this transaction into smaller transactions and retry."))
  else .ok ()

/-- The length of `payload.get("items", [])` when it is a list, else zero. -/
def itemCount (payload : List (PyStr × Json)) : Nat :=
  match dictGet (py "items") payload with
  | some (.arr xs) => xs.length
  | _ => 0

/-! ## Enqueueing -/

/-- The arguments of `enqueue_outbox_event`. -/
structure EnqueueRequest where
  eventType : PyStr
  aggregateType : PyStr
  aggregateId : PyStr
  payload : JsonDict
  occurredAt : Option Instant
  schemaVersion : Int
  batchId : Option Nat
  initialInventory : Bool

/-- The id the outbox's `AUTOINCREMENT` gives out next. -/
def nextOutboxId (db : Db) : Nat := max db.outboxSequence (maxId (·.id) db.outbox) + 1

/-- The texts an insert of a row has to encode. -/
def MasterOutboxEvent.encodable (row : MasterOutboxEvent) : Bool :=
  [row.eventId, row.eventType, row.aggregateType, row.aggregateId].all fun s =>
    (encodeUtf8 s).isSome

/-- `db.add(row)` and its flush: the row gets its id. -/
def insertOutboxRow (row : Nat → MasterOutboxEvent) : Tx MasterOutboxEvent := do
  let id ← Tx.reads nextOutboxId
  let new := row id
  let db ← Tx.reads fun db => db
  Tx.raiseIf (new.encodable = false) .unicodeEncode
  Tx.raiseIf (¬ (-(2 ^ 63) ≤ new.schemaVersion ∧ new.schemaVersion < 2 ^ 63))
    ⟨.other, py "Python int too large to convert to SQLite INTEGER"⟩
  Tx.raiseIf (maxSqliteSequence < id) ⟨.other, py "database or disk is full"⟩
  Tx.raiseIf (∃ r ∈ db.outbox, r.eventId = new.eventId) .integrity
  Tx.raiseIf (∃ b ∈ new.batchId, db.batch b = none) .integrity
  Tx.modify fun db => { db with outbox := db.outbox ++ [new], outboxSequence := id }
  pure new

/-- `prevent_outbox_payload_mutation`: a payload or digest once set is not changed. -/
def payloadMutated (loaded new : MasterOutboxEvent) : Bool :=
  (new.payloadJson != loaded.payloadJson && loaded.payloadJson != []) ||
    (new.payloadSha256 != loaded.payloadSha256 && loaded.payloadSha256 != [])

/-- The first check of `enqueue_outbox_event`: the baseline goes before everything else. -/
def requireBaseline (st : Settings) (r : EnqueueRequest) : Tx PUnit :=
  if r.initialInventory then
    Tx.raiseIf (upper (strip r.aggregateType) ≠ initialInventoryAggregateType)
      (masterSyncError (py "Only an initial-inventory event may bypass Lite initialization."))
  else do
    let db ← Tx.reads fun db => db
    let _ ← Tx.lift (requireInitialInventoryQueued st db)
    pure ⟨⟩

/-- The row as it is first inserted. -/
def reservedRow (uuid : PyStr) (r : EnqueueRequest) (id : Nat) : MasterOutboxEvent :=
  { id := id, eventId := uuid, eventType := upper (strip r.eventType),
    schemaVersion := r.schemaVersion, aggregateType := upper (strip r.aggregateType),
    aggregateId := r.aggregateId, batchId := r.batchId, payloadJson := [], payloadSha256 := [],
    status := .pending, attempts := 0, nextAttemptAt := none, lastError := none,
    sendingAt := none, sentAt := none }

/-- The event of a request, under the sequence its row was given. -/
def requestedEvent (uuid : PyStr) (now : Instant) (r : EnqueueRequest) (id : Nat) :
    List (PyStr × Json) :=
  frozenEvent uuid id (upper (strip r.eventType)) r.aggregateId r.payload.entries
    (r.occurredAt.getD now) r.schemaVersion

/-- `enqueue_outbox_event`, with the `uuid4()` and the `utc_now()` it draws. -/
def enqueueOutboxEvent (st : Settings) (uuid : PyStr) (now : Instant) (r : EnqueueRequest) :
    Tx MasterOutboxEvent := do
  let _ ← Tx.lift (configuredFranchiseCode st (some true))
  requireBaseline st r
  let row ← insertOutboxRow (reservedRow uuid r)
  let payloadJson ← Tx.lift (canonicalJson (requestBody (requestedEvent uuid now r row.id)))
  Tx.lift (validateFrozenEventRequest payloadJson (itemCount r.payload.entries))
  let digest ← Tx.lift (payloadSha256 payloadJson)
  let finished := { row with payloadJson := payloadJson, payloadSha256 := digest }
  Tx.raiseIf (payloadMutated row finished = true)
    ⟨.value, py "Master outbox payloads are immutable after creation."⟩
  Tx.modify fun db => { db with outbox := modifyRow (·.id) row.id (fun _ => finished) db.outbox }
  pure finished

/-- Queueing writes the outbox and its counter only. -/
theorem enqueueOutboxEvent_keeps {γ : Type} {f : Db → γ}
    (hf : ∀ db x n, f { db with outbox := x, outboxSequence := n } = f db) (st : Settings)
    (uuid : PyStr) (now : Instant) (r : EnqueueRequest) :
    Tx.Keeps f (enqueueOutboxEvent st uuid now r) := by
  have hbase : Tx.Keeps f (requireBaseline st r) :=
    .ite (.raiseIf _ _) (.bind (.reads _) fun _ => .bind (.lift _) fun _ => .pure _)
  have hinsert : ∀ row, Tx.Keeps f (insertOutboxRow row) := fun row =>
    .bind (.reads _) fun _ => .bind (.reads _) fun _ => .bind (.raiseIf _ _) fun _ =>
      .bind (.raiseIf _ _) fun _ => .bind (.raiseIf _ _) fun _ => .bind (.raiseIf _ _) fun _ =>
        .bind (.raiseIf _ _) fun _ => .bind (.modify fun db => hf db _ _) fun _ => .pure _
  exact .bind (.lift _) fun _ => .bind hbase fun _ => .bind (hinsert _) fun _ =>
    .bind (.lift _) fun _ =>
    .bind (.lift _) fun _ => .bind (.lift _) fun _ => .bind (.raiseIf _ _) fun _ =>
      .bind (.modify fun db => hf db _ db.outboxSequence) fun _ => .pure _

/-! ## What a finished row carries -/

/-- The event of a row whose text decodes to a request with exactly one. -/
def MasterOutboxEvent.event (row : MasterOutboxEvent) : Option (List (PyStr × Json)) :=
  match decode row.payloadJson with
  | .ok (.obj [(k, .arr [.obj ev])]) => if k = py "events" then some ev else none
  | _ => none

/-- A finished row: one event with the row's own columns, within Master's limits,
under the digest of its own text. -/
structure FrozenRow (row : MasterOutboxEvent) : Prop where
  envelope : ∃ ev, row.event = some ev ∧
    dictGet (py "sequence") ev = some (.int row.id) ∧
    dictGet (py "event_id") ev = some (.str row.eventId) ∧
    dictGet (py "type") ev = some (.str row.eventType) ∧
    dictGet (py "schema_version") ev = some (.int row.schemaVersion) ∧
    ∀ xs, dictGet (py "items") ev = some (.arr xs) → xs.length ≤ masterEventMaxItems
  digest : ∃ bytes, encodeUtf8 row.payloadJson = some bytes ∧
    bytes.length ≤ masterEventMaxBodyBytes ∧ row.payloadSha256 = sha256Hex bytes

/-- The envelope's fields have distinct names. -/
private theorem envelopeFields_nodup (eventId : PyStr) (sequence : Nat) (eventType : PyStr)
    (occurredAt : Instant) (schemaVersion : Int) :
    (dictKeys (envelopeFields eventId sequence eventType occurredAt schemaVersion)).Nodup := by
  show [py "schema_version", py "event_id", py "sequence", py "type", py "occurred_at"].Nodup
  decide

theorem frozenEvent_wf {eventId eventType aggregateId : PyStr} {sequence : Nat}
    {payload : List (PyStr × Json)} {occurredAt : Instant} {schemaVersion : Int}
    (h : (Json.obj payload).WF) :
    (Json.obj (frozenEvent eventId sequence eventType aggregateId payload occurredAt
      schemaVersion)).WF :=
  by
  have hfields : Json.MembersWF
      (envelopeFields eventId sequence eventType occurredAt schemaVersion) :=
    ⟨trivial, trivial, trivial, trivial, trivial, trivial⟩
  have href :=
    (h.dictUpdate hfields).dictSetDefault (k := py "reference") (v := .str aggregateId) trivial
  have hactor := href.dictSetDefault (k := py "actor") (v := .null) trivial
  exact hactor.dictSetDefault (k := py "items") (v := .arr []) trivial

/-- A field of the envelope is the envelope's, whatever the payload says. -/
theorem frozenEvent_envelope {eventId eventType aggregateId : PyStr} {sequence : Nat}
    {payload : List (PyStr × Json)} {occurredAt : Instant} {schemaVersion : Int} {k : PyStr}
    {v : Json}
    (h : dictGet k (envelopeFields eventId sequence eventType occurredAt schemaVersion) = some v)
    (hi : py "items" ≠ k) (ha : py "actor" ≠ k) (hr : py "reference" ≠ k) :
    dictGet k (frozenEvent eventId sequence eventType aggregateId payload occurredAt schemaVersion)
      = some v := by
  unfold frozenEvent
  rw [dictGet_dictSetDefault_ne hi, dictGet_dictSetDefault_ne ha, dictGet_dictSetDefault_ne hr,
    dictGet_dictUpdate (envelopeFields_nodup _ _ _ _ _), h]
  rfl

/-- The other fields are the payload's. -/
theorem frozenEvent_payload {eventId eventType aggregateId : PyStr} {sequence : Nat}
    {payload : List (PyStr × Json)} {occurredAt : Instant} {schemaVersion : Int} {k : PyStr}
    {v : Json} (h : dictGet k payload = some v)
    (hk : k ∉ [py "schema_version", py "event_id", py "sequence", py "type", py "occurred_at"]) :
    dictGet k (frozenEvent eventId sequence eventType aggregateId payload occurredAt schemaVersion)
      = some v := by
  have hbase : dictGet k (dictUpdate payload
      (envelopeFields eventId sequence eventType occurredAt schemaVersion)) = some v := by
    have hnone : dictGet k (envelopeFields eventId sequence eventType occurredAt schemaVersion)
        = none := dictGet_eq_none_iff.mpr hk
    rw [dictGet_dictUpdate (envelopeFields_nodup _ _ _ _ _), hnone, h]
    rfl
  have hdefault : ∀ {k' : PyStr} {w : Json} {kvs : List (PyStr × Json)},
      dictGet k kvs = some v → dictGet k (dictSetDefault k' w kvs) = some v := by
    intro k' w kvs hkvs
    by_cases he : k' = k
    · subst he
      rw [dictGet_dictSetDefault_self, hkvs]
      rfl
    · rw [dictGet_dictSetDefault_ne he, hkvs]
  exact hdefault (hdefault (hdefault hbase))

/-- The event has as many items as the payload. -/
theorem frozenEvent_items (eventId eventType aggregateId : PyStr) (sequence : Nat)
    (payload : List (PyStr × Json)) (occurredAt : Instant) (schemaVersion : Int) :
    dictGet (py "items") (frozenEvent eventId sequence eventType aggregateId payload occurredAt
      schemaVersion) = some ((dictGet (py "items") payload).getD (.arr [])) := by
  have hnone : dictGet (py "items") (envelopeFields eventId sequence eventType occurredAt
      schemaVersion) = none := dictGet_eq_none_iff.mpr (by
    show py "items" ∉
      [py "schema_version", py "event_id", py "sequence", py "type", py "occurred_at"]
    decide)
  unfold frozenEvent
  rw [dictGet_dictSetDefault_self, dictGet_dictSetDefault_ne (by decide),
    dictGet_dictSetDefault_ne (by decide),
    dictGet_dictUpdate (envelopeFields_nodup _ _ _ _ _), hnone]
  rfl

theorem requestBody_wf {ev : List (PyStr × Json)} (hwf : (Json.obj ev).WF) : (requestBody ev).WF :=
  ⟨by simp [dictKeys], ⟨⟨hwf, trivial⟩, trivial⟩⟩

/-- A frozen text decodes to its event, with the keys in order. -/
theorem event_of_frozen {row : MasterOutboxEvent} {ev : List (PyStr × Json)}
    (hwf : (Json.obj ev).WF) (h : (requestBody ev).dumps = some row.payloadJson) :
    row.event = some (Json.sortMembers ev) := by
  have hdec := decode_dumps (requestBody_wf hwf) h
  unfold MasterOutboxEvent.event
  rw [hdec]
  rfl

/-! ## The specification of enqueueing -/

/-- What a successful insert did. -/
theorem insertOutboxRow_ok {mk : Nat → MasterOutboxEvent} {db db' : Db} {row : MasterOutboxEvent}
    (h : insertOutboxRow mk db = (.ok row, db')) :
    row = mk (nextOutboxId db) ∧ row.encodable = true ∧
      (∀ r ∈ db.outbox, r.eventId ≠ row.eventId) ∧ (∀ b ∈ row.batchId, db.batch b ≠ none) ∧
      db' = { db with outbox := db.outbox ++ [row], outboxSequence := nextOutboxId db } := by
  -- The checks in their order; only the last step writes.
  unfold insertOutboxRow at h
  rw [Tx.bind_ok] at h
  obtain ⟨id, t₁, h₁, h⟩ := h
  obtain ⟨rfl, rfl⟩ := Tx.reads_ok.mp h₁
  rw [Tx.bind_ok] at h
  obtain ⟨seen, t₂, h₂, h⟩ := h
  obtain ⟨rfl, rfl⟩ := Tx.reads_ok.mp h₂
  rw [Tx.bind_ok] at h
  obtain ⟨_, t₃, h₃, h⟩ := h
  obtain ⟨henc, rfl⟩ := Tx.raiseIf_ok.mp h₃
  rw [Tx.bind_ok] at h
  obtain ⟨_, t₄, h₄, h⟩ := h
  obtain ⟨-, rfl⟩ := Tx.raiseIf_ok.mp h₄
  rw [Tx.bind_ok] at h
  obtain ⟨_, t₅, h₅, h⟩ := h
  obtain ⟨-, rfl⟩ := Tx.raiseIf_ok.mp h₅
  rw [Tx.bind_ok] at h
  obtain ⟨_, t₆, h₆, h⟩ := h
  obtain ⟨hfresh, rfl⟩ := Tx.raiseIf_ok.mp h₆
  rw [Tx.bind_ok] at h
  obtain ⟨_, t₇, h₇, h⟩ := h
  obtain ⟨hbatch, rfl⟩ := Tx.raiseIf_ok.mp h₇
  rw [Tx.bind_ok] at h
  obtain ⟨_, t₈, h₈, h⟩ := h
  obtain rfl := Tx.modify_ok.mp h₈
  obtain ⟨rfl, rfl⟩ := Tx.pure_ok.mp h
  refine ⟨rfl, by simpa using henc, ?_, ?_, rfl⟩
  · intro r hr he
    exact hfresh ⟨r, hr, he⟩
  · intro b hb he
    exact hbatch ⟨b, hb, he⟩

/-- What a successful `enqueue_outbox_event` did: one new row, with the next
sequence, finished and consistent; nothing else changed. -/
structure Enqueued (st : Settings) (uuid : PyStr) (now : Instant) (r : EnqueueRequest) (db : Db)
    (row : MasterOutboxEvent) (db' : Db) : Prop where
  columns : row = { reservedRow uuid r (nextOutboxId db) with
    payloadJson := row.payloadJson, payloadSha256 := row.payloadSha256 }
  event : row.event = some (Json.sortMembers (requestedEvent uuid now r row.id))
  frozen : FrozenRow row
  appended : db' = { db with outbox := db.outbox ++ [row], outboxSequence := row.id }
  fresh : ∀ old ∈ db.outbox, old.eventId ≠ row.eventId
  batch : ∀ b ∈ row.batchId, db.batch b ≠ none
  baseline : if r.initialInventory then row.aggregateType = initialInventoryAggregateType
    else ∃ code, requireInitialInventoryQueued st db = .ok code

theorem lt_nextOutboxId {db : Db} {row : MasterOutboxEvent} (h : row ∈ db.outbox) :
    row.id < nextOutboxId db := by
  have := le_maxId (fun row : MasterOutboxEvent => row.id) h
  unfold nextOutboxId
  omega

private theorem requireBaseline_ok {st : Settings} {r : EnqueueRequest} {db db' : Db} {u : PUnit}
    (h : requireBaseline st r db = (.ok u, db')) :
    db = db' ∧ if r.initialInventory
      then upper (strip r.aggregateType) = initialInventoryAggregateType
      else ∃ code, requireInitialInventoryQueued st db = .ok code := by
  unfold requireBaseline at h
  split at h
  next hi =>
    obtain ⟨hne, rfl⟩ := Tx.raiseIf_ok.mp h
    rw [if_pos hi]
    exact ⟨rfl, by simpa using hne⟩
  next hi =>
    rw [Tx.bind_ok] at h
    obtain ⟨seen, t₁, h₁, h⟩ := h
    obtain ⟨rfl, rfl⟩ := Tx.reads_ok.mp h₁
    rw [Tx.bind_ok] at h
    obtain ⟨code, t₂, h₂, h⟩ := h
    obtain ⟨hcode, rfl⟩ := Tx.lift_ok.mp h₂
    obtain ⟨-, rfl⟩ := Tx.pure_ok.mp h
    rw [if_neg hi]
    exact ⟨rfl, code, hcode⟩

theorem canonicalJson_ok {v : Json} {t : PyStr} (h : canonicalJson v = .ok t) :
    v.dumps = some t := by
  unfold canonicalJson at h
  split at h
  next hd => rw [hd, Except.ok.inj h]
  next => exact absurd h (by simp)

private theorem encodeText_ok {s : PyStr} {bytes : List UInt8} (h : encodeText s = .ok bytes) :
    encodeUtf8 s = some bytes := by
  unfold encodeText at h
  split at h
  next he => rw [he, Except.ok.inj h]
  next => exact absurd h (by simp)

private theorem validateFrozenEventRequest_ok {t : PyStr} {n : Nat} {u : Unit}
    (h : validateFrozenEventRequest t n = .ok u) :
    n ≤ masterEventMaxItems ∧
      ∃ bytes, encodeUtf8 t = some bytes ∧ bytes.length ≤ masterEventMaxBodyBytes := by
  unfold validateFrozenEventRequest at h
  cases he : encodeText t with
  | error e =>
    rw [he] at h
    exact absurd h (by intro h; cases h)
  | ok bytes =>
    rw [he] at h
    replace h : (if masterEventMaxItems < n then _ else
      if masterEventMaxBodyBytes < bytes.length then _ else Except.ok ()) = Except.ok u := h
    split at h
    · exact absurd h (by intro h; cases h)
    · split at h
      · exact absurd h (by intro h; cases h)
      · exact ⟨by omega, bytes, encodeText_ok he, by omega⟩

private theorem payloadSha256_ok {t digest : PyStr} {bytes : List UInt8}
    (henc : encodeUtf8 t = some bytes) (h : payloadSha256 t = .ok digest) :
    digest = sha256Hex bytes := by
  unfold payloadSha256 encodeText at h
  rw [henc] at h
  exact (Except.ok.inj h).symm

/-- An enqueued payload is frozen under its own envelope. -/
private theorem frozenRow_of_checks {uuid : PyStr} {now : Instant} {r : EnqueueRequest} {id : Nat}
    {t digest : PyStr} (ht : (requestBody (requestedEvent uuid now r id)).dumps = some t)
    (hv : validateFrozenEventRequest t (itemCount r.payload.entries) = .ok ())
    (hd : payloadSha256 t = .ok digest) :
    FrozenRow { reservedRow uuid r id with payloadJson := t, payloadSha256 := digest } := by
  -- The canonical bytes parse back to the event, its members sorted.
  have hwf : (Json.obj (requestedEvent uuid now r id)).WF := frozenEvent_wf r.payload.wf
  have hget : ∀ k v, dictGet k (requestedEvent uuid now r id) = some v →
      dictGet k (Json.sortMembers (requestedEvent uuid now r id)) = some v.sortKeys := by
    intro k v hk
    rw [dictGet_sortMembers hwf.1, hk]
    rfl
  -- The two limits were checked on these bytes.
  obtain ⟨hcount, bytes, henc, hlen⟩ := validateFrozenEventRequest_ok hv
  refine ⟨⟨Json.sortMembers (requestedEvent uuid now r id), event_of_frozen hwf ht, ?_, ?_,
    ?_, ?_, ?_⟩,
    bytes, henc, hlen, payloadSha256_ok henc hd⟩
  · exact hget (py "sequence") (.int id)
      (frozenEvent_envelope rfl (by decide) (by decide) (by decide))
  · exact hget (py "event_id") (.str uuid)
      (frozenEvent_envelope rfl (by decide) (by decide) (by decide))
  · exact hget (py "type") (.str (upper (strip r.eventType)))
      (frozenEvent_envelope rfl (by decide) (by decide) (by decide))
  · exact hget (py "schema_version") (.int r.schemaVersion)
      (frozenEvent_envelope rfl (by decide) (by decide) (by decide))
  -- The items of the event are those of the payload, if it has any.
  · intro xs hxs
    have hitems := hget _ _ (frozenEvent_items uuid (upper (strip r.eventType)) r.aggregateId id
      r.payload.entries (r.occurredAt.getD now) r.schemaVersion)
    rw [hitems] at hxs
    unfold itemCount at hcount
    cases hi : dictGet (py "items") r.payload.entries with
    | none =>
      rw [hi] at hxs
      simp only [Option.getD_none, Json.sortKeys, Json.sortAll, Option.some.injEq, Json.arr.injEq]
        at hxs
      rw [← hxs]
      exact Nat.zero_le _
    | some v =>
      rw [hi] at hxs hcount
      cases v with
      | arr ys =>
        simp only [Option.getD_some, Json.sortKeys, Option.some.injEq, Json.arr.injEq,
          Json.sortAll_eq_map] at hxs
        rw [← hxs, List.length_map]
        exact hcount
      | _ => simp [Json.sortKeys] at hxs

theorem enqueueOutboxEvent_ok {st : Settings} {uuid : PyStr} {now : Instant} {r : EnqueueRequest}
    {db db' : Db} {row : MasterOutboxEvent}
    (h : enqueueOutboxEvent st uuid now r db = (.ok row, db')) :
    Enqueued st uuid now r db row db' := by
  unfold enqueueOutboxEvent at h
  rw [Tx.bind_ok] at h
  obtain ⟨code, t₁, h₁, h⟩ := h
  obtain ⟨-, rfl⟩ := Tx.lift_ok.mp h₁
  rw [Tx.bind_ok] at h
  obtain ⟨_, t₂, h₂, h⟩ := h
  obtain ⟨rfl, hbase⟩ := requireBaseline_ok h₂
  rw [Tx.bind_ok] at h
  obtain ⟨reserved, t₃, h₃, h⟩ := h
  obtain ⟨rfl, henc, hfresh, hbatch, rfl⟩ := insertOutboxRow_ok h₃
  rw [Tx.bind_ok] at h
  obtain ⟨text, t₄, h₄, h⟩ := h
  obtain ⟨htext, rfl⟩ := Tx.lift_ok.mp h₄
  rw [Tx.bind_ok] at h
  obtain ⟨_, t₅, h₅, h⟩ := h
  obtain ⟨hvalid, rfl⟩ := Tx.lift_ok.mp h₅
  rw [Tx.bind_ok] at h
  obtain ⟨digest, t₆, h₆, h⟩ := h
  obtain ⟨hdigest, rfl⟩ := Tx.lift_ok.mp h₆
  rw [Tx.bind_ok] at h
  obtain ⟨_, t₇, h₇, h⟩ := h
  obtain ⟨-, rfl⟩ := Tx.raiseIf_ok.mp h₇
  rw [Tx.bind_ok] at h
  obtain ⟨_, t₈, h₈, h⟩ := h
  obtain rfl := Tx.modify_ok.mp h₈
  obtain ⟨rfl, rfl⟩ := Tx.pure_ok.mp h
  have hdumps := canonicalJson_ok htext
  refine ⟨rfl, event_of_frozen (frozenEvent_wf r.payload.wf) hdumps,
    frozenRow_of_checks hdumps hvalid hdigest, ?_, hfresh, hbatch, hbase⟩
  -- The finished row replaces the reserved one, which is the only row with its id.
  have hne : ∀ old ∈ db.outbox, old.id ≠ nextOutboxId db :=
    fun old hold => Nat.ne_of_lt (lt_nextOutboxId hold)
  have hnew : modifyRow (·.id) (nextOutboxId db)
      (fun _ => { reservedRow uuid r (nextOutboxId db) with
        payloadJson := text, payloadSha256 := digest })
      (db.outbox ++ [reservedRow uuid r (nextOutboxId db)]) = db.outbox ++ _ :=
    modifyRow_append_self hne rfl
  exact congrArg
    (fun rows => ({ db with outbox := rows, outboxSequence := nextOutboxId db } : Db)) hnew

end SetuoraLite
