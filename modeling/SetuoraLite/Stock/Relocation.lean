import SetuoraLite.Stock.Submission

/-!
# Relocation

`relocate_stock` moves stock from one storage location to another, first expiry first,
in one transaction: it picks the serials of each line, places them, records where they
were and are, and queues the moved serials as stock snapshots of at most 5,000 items. A move
changes no status, and its log says so.
-/

namespace SetuoraLite

open Lib

/-- `RelocationError(text)`. -/
def relocationError (text : PyStr) : PyError := ⟨.relocation, text⟩

structure MoveItem where
  productId : Nat
  quantity : Int
  productBatchNumber : Option PyStr
  sourceLocationId : Option Nat
  legacyWarehouse : Option PyStr
  serialId : Option Nat

/-- A relocation request; each line comes with the reference it draws, each event with
its UUID. -/
structure Move where
  user : User
  now : Instant
  destinationId : Nat
  items : List (MoveItem × PyStr)
  reason : Option PyStr
  deviceUsed : PyStr
  uuids : Nat → PyStr

/-- `trim` and `upper` of SQLite: blanks and ASCII letters only. -/
def sqlCleaned (s : PyStr) : PyStr :=
  asciiUpper ((s.dropWhile fun c => c == cp ' ').rdropWhile fun c => c == cp ' ')

/-- `_clean`. -/
def clean (value : Option PyStr) : PyStr := upper (strip (value.getD []))

/-- A nullable text that Python takes for true. -/
def truthyText (s : Option PyStr) : Bool := s.any fun t => t ≠ []

/-- The warehouse condition of a serial without a location. -/
def MoveItem.matchesWarehouse (item : MoveItem) (s : Serial) : Bool :=
  if truthyText item.legacyWarehouse then
    s.warehouse.any fun w => sqlCleaned w = clean item.legacyWarehouse
  else s.warehouse.all fun w => sqlCleaned w = []

/-- The conditions of `_candidate_query`. -/
def MoveItem.selects (item : MoveItem) (s : Serial) : Bool :=
  s.active && s.status ∈ stockStatuses && s.productId = item.productId &&
    item.serialId.all (fun id => s.id = id) &&
    (if truthyText item.productBatchNumber then s.productBatchNumber = item.productBatchNumber
      else s.productBatchNumber = none) &&
    (if item.sourceLocationId.isSome then s.locationId = item.sourceLocationId
      else s.locationId = none && item.matchesWarehouse s)

/-- `_source_text`. -/
def sourceText (db : Db) (s : Serial) : PyStr :=
  match s.locationId.bind db.location with
  | some l => l.fullPath
  | none => if truthyText s.warehouse then upper (strip (s.warehouse.getD [])) else py "UNASSIGNED"

/-- The serials of a line: the first that no line before has claimed. -/
def moveCandidates (db : Db) (claimed : List Nat) (item : MoveItem) : List Serial :=
  ((((db.serials.filter item.selects).insertionSort fefoOrder).take
      (item.quantity.toNat + claimed.length)).filter fun s =>
        s.id ∉ claimed).take item.quantity.toNat

/-- The checks of a line before its query. -/
def checkMoveItem (destination : StorageLocation) (item : MoveItem) : Except PyError Unit :=
  if item.quantity < 1 then .error (relocationError (py "Move quantity must be at least 1"))
  else if item.serialId.isSome ∧ item.quantity ≠ 1 then
    .error (relocationError (py "A scanned serial can only move one unit"))
  else if item.sourceLocationId = some destination.id then
    .error (relocationError (py "The destination must be different from the current location"))
  else .ok ()

/-- `reason.strip() if reason and reason.strip() else None`. -/
def nonBlank (text : Option PyStr) : Option PyStr := (text.map strip).filter fun s => s ≠ []

/-- The relocation row of a line. -/
def relocationRow (m : Move) (destination : StorageLocation) (item : MoveItem) (reference : PyStr)
    (first : Option Serial) (previous : PyStr) : StockRelocation :=
  let device := strip m.deviceUsed
  { id := 0, referenceNumber := reference, productId := item.productId,
    productBatchNumber := first.bind (·.productBatchNumber), quantity := item.quantity.toNat,
    previousLocationId := item.sourceLocationId, newLocationId := destination.id,
    previousLocationSnapshot := previous, newLocationSnapshot := destination.fullPath,
    userId := m.user.id, reason := nonBlank m.reason,
    deviceUsed := (if device = [] then py "Unknown device" else device).take 240 }

/-- What is written for one moved serial. -/
def moveSerial (m : Move) (destination : StorageLocation) (relocationId : Nat)
    (reference note : PyStr) (s : Serial) : Tx PUnit := do
  updateSerial s.id (Serial.placedAt destination)
  insertRelocationSerial relocationId s.id
  insertScanLog
    { id := 0, serialId := some s.id, serialNumberRaw := s.serialNumber, userId := m.user.id,
      action := py "RELOCATION", batchId := none, status := py "MOVED", message := some note,
      tallyReference := none, createdAt := m.now }
  insertInventoryTransaction
    { id := 0, transactionType := .relocation, serialId := some s.id, productId := some s.productId,
      batchId := none, userId := m.user.id, serialNumber := some s.serialNumber,
      statusFrom := some s.status, statusTo := some s.status, reasonCode := none,
      tallyReference := none, referenceNumber := some reference, notes := some note }

/-- One round of the loop of `relocate_stock`: the serials it moved. -/
def moveLine (m : Move) (destination : StorageLocation) (claimed : List Nat) (item : MoveItem)
    (reference : PyStr) : Tx (List Serial) := do
  Tx.lift (checkMoveItem destination item)
  let db ← Tx.reads fun db => db
  let serials := moveCandidates db claimed item
  Tx.raiseIf (serials.length ≠ item.quantity.toNat) (relocationError
    (py "Some selected stock is no longer available. Search again and retry"))
  let previous := (serials.head?.map (sourceText db)).getD []
  Tx.raiseIf (∃ s ∈ serials, sourceText db s ≠ previous)
    (relocationError (py "Selected stock must come from one current location"))
  let relocationId ← insertRelocation
    (relocationRow m destination item reference serials.head? previous)
  -- The conditional update of the claim finds what the query has just found.
  Tx.each (moveSerial m destination relocationId reference
    (previous ++ py " -> " ++ destination.fullPath)) serials
  pure serials

/-- The loop of `relocate_stock`; `claimed` are the serials of the lines before. -/
def moveLines (m : Move) (destination : StorageLocation) :
    List Serial → List (MoveItem × PyStr) → Tx (List Serial)
  | claimed, [] => pure claimed
  | claimed, (item, reference) :: items => do
    let moved ← moveLine m destination (claimed.map (·.id)) item reference
    moveLines m destination (claimed ++ moved) items

/-- At most `n` elements at a time, with fuel. -/
def chunksOf {α : Type} (n : Nat) : Nat → List α → List (List α)
  | 0, _ => []
  | _ + 1, [] => []
  | fuel + 1, x :: xs => (x :: xs).take n :: chunksOf n fuel ((x :: xs).drop n)

/-- The payload of a relocation event. -/
def relocationPayload (user : User) (reference : PyStr) (items : List JsonDict) : JsonDict where
  entries := [(py "reference", .str reference), (py "actor", .str user.username),
    (py "reason_code", .str (py "RELOCATION")),
    (py "items", .arr (items.map fun item => .obj item.entries))]
  wf := by
    have hkeys : [py "reference", py "actor", py "reason_code", py "items"].Nodup := by decide
    have hitems : (Json.arr (items.map fun item => .obj item.entries)).WF := by
      apply Json.allWF_iff.mpr
      intro v hv
      obtain ⟨item, -, rfl⟩ := List.mem_map.mp hv
      exact item.wf
    exact ⟨hkeys, trivial, trivial, trivial, hitems, trivial⟩

/-- The event of one chunk. -/
def relocationRequest (m : Move) (reference : PyStr) (part : Nat) (items : List JsonDict) :
    EnqueueRequest where
  eventType := py "STOCK_SNAPSHOT"
  aggregateType := py "RELOCATION"
  aggregateId := reference ++ py ":PART-" ++ decDigits (part + 1)
  payload := relocationPayload m.user (reference ++ py ":PART-" ++ decDigits (part + 1)) items
  occurredAt := none
  schemaVersion := eventSchemaVersion
  batchId := none
  initialInventory := false

/-- Queue the moved serials, chunk by chunk. -/
def enqueueMoved (st : Settings) (m : Move) (destination : StorageLocation) (reference : PyStr) :
    Nat → List (List Serial) → Tx PUnit
  | _, [] => pure ⟨⟩
  | part, chunk :: chunks => do
    let db ← Tx.reads fun db => db
    let items ← Tx.lift (chunk.mapM fun s =>
      networkItemOf db (Serial.placedAt destination s) none none none)
    let _ ← enqueueOutboxEvent st (m.uuids part) m.now (relocationRequest m reference part items)
    enqueueMoved st m destination reference (part + 1) chunks

/-- Every exception becomes a `RelocationError`. -/
def asRelocationError (e : PyError) : PyError :=
  match e.cls with
  | .relocation => e
  | .masterSync => relocationError e.message
  | _ => relocationError (py "The relocation could not be completed. No stock was moved")

/-- `relocate_stock`. -/
def relocateStock (st : Settings) (m : Move) : Tx PUnit := do
  let db ← Tx.reads fun db => db
  let destination ← Tx.lift (((db.location m.destinationId).filter fun l => l.active).elim
    (.error (relocationError (py "The destination location is invalid or inactive"))) .ok)
  Tx.raiseIf (m.items = []) (relocationError (py "Add at least one product to the move"))
  Tx.mapError asRelocationError do
    let moved ← moveLines m destination [] m.items
    let reference := (m.items.head?.map Prod.snd).getD []
    enqueueMoved st m destination reference 0 (chunksOf masterEventMaxItems moved.length moved)

end SetuoraLite
