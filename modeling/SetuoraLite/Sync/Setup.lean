import SetuoraLite.Sync.Baseline
import SetuoraLite.Sync.PushFinal

/-!
# Connecting a node

`connect_to_master`, `initialize_inventory` and the database reset as a machine
beside the passes, retries and ordinary events of `pushMachine`. A request is cut
where another transaction can commit between two of its statements: each read of
the database is a step, the exchange with Master is a step, and the transaction
that writes is a step. The process may be stopped between any two.

`connect` holds a lock from its first read until its own sync run is over;
`initialize` takes none. The texts of the form are parsed and checked by pure
functions before the lock is taken: a `Proposal` is what they leave, and nothing
is assumed of it.
-/

namespace SetuoraLite

open Lib

/-! ## The enrolment check -/

/-- `verify_master_enrollment_identity` after the cursor checks of `data`. -/
def checkCursor (expectedCode : PyStr) (minLast maxLast : Nat) (data : List (PyStr × Json)) :
    Except PyError (List (PyStr × Json)) :=
  let malformed := masterSyncError (py "Master returned a malformed GET /api/v1/node response.")
  match getItem data (py "code") with
  | .str returnedCode =>
    if returnedCode ≠ expectedCode then
      .error (masterSyncError (py "Master authenticated a different franchise code (expected " ++
        expectedCode ++ py ", returned " ++ returnedCode ++
        py "). Correct MASTER_API_KEY before initializing inventory."))
    else
      match getItem data (py "last_sequence"), getItem data (py "next_sequence") with
      | .int lastSequence, .int nextSequence =>
        if minLast = 0 ∧ maxLast = 0 ∧ (lastSequence ≠ 0 ∨ nextSequence ≠ 1) then
          .error (masterSyncError (py "Master node " ++ expectedCode ++
            py " is not empty (expected cursor 0/1, returned " ++ intStr lastSequence ++ py "/" ++
            intStr nextSequence ++ py "). Inventory initialization was blocked."))
        else if ¬ ((minLast : Int) ≤ lastSequence ∧ lastSequence ≤ (maxLast : Int)) ∨
            nextSequence ≠ lastSequence + 1 then
          .error (masterSyncError
            (py "Master's inventory history does not match this Lite installation. " ++
              py "Ask the administrator to check the franchise connection before continuing."))
        else .ok data
      | _, _ => .error malformed
  | _ => .error malformed

/-- `verify_master_enrollment_identity`, on the reply to its request. -/
def verifyMasterEnrollmentIdentity (rt : Runtime) (apiKey expectedCode : PyStr)
    (minLast maxLast : Nat) : Reply → Except PyError (List (PyStr × Json))
  | .httpError status _ => .error (masterSyncError (safeHttpError apiKey status))
  | .networkError text => .error (masterSyncError (safeError apiKey text))
  | .otherError text => .error ⟨.other, text⟩
  | .response status body =>
    if masterResponseMaxBodyBytes < body.length then
      .error (masterSyncError (py "Setuora Master response exceeded the 5 MiB safety limit."))
    else if ¬ (200 ≤ status ∧ status < 300) then
      .error (masterSyncError (py "Master returned HTTP " ++ intStr status ++
        py " while verifying franchise enrollment."))
    else do
      let malformed := masterSyncError (py "Master returned a malformed GET /api/v1/node response.")
      match ← loadsBytes rt body with
      | some (.obj response) =>
        match getItem response (py "data") with
        | .obj data => checkCursor expectedCode minLast maxLast data
        | _ => .error malformed
      | _ => .error malformed

/-! ## The saved connection -/

def connectionNodeKey : PyStr := py "_master_connection_node_id"

def connectionOriginKey : PyStr := py "_master_connection_origin"

def connectionCheckKey : PyStr := py "_master_connection_checked_at"

def connectionResultKey : PyStr := py "_master_connection_check_result"

/-- `_saved_connection_value`. -/
def savedConnectionValue (db : Db) (key : PyStr) : PyStr :=
  ((lookup (·.key) key db.settings).map (·.value)).getD []

/-- `_store_connection_value`. -/
def storeConnectionValue (key value : PyStr) (settings : List Setting) : List Setting :=
  match lookup (·.key) key settings with
  | none => settings ++ [⟨key, value⟩]
  | some _ => modifyRow (·.key) key (fun row => { row with value := value }) settings

/-- `_normalized_origin`. -/
def normalizedOrigin (rt : Runtime) (value : PyStr) : PyStr :=
  rt.lower ((strip value).rdropWhile fun c => c == cp '/')

/-- What the connection form asks for. -/
structure Proposal where
  code : PyStr
  origin : PyStr
  credential : PyStr
  requestTimeoutSeconds : Int
deriving DecidableEq

/-- The settings that `save_master_connection_settings` writes. -/
def Proposal.saved (p : Proposal) (st : Settings) : Settings :=
  { st with
    masterSyncEnabled := true
    franchiseCode := p.code
    masterUrl := p.origin
    masterApiKey := p.credential
    masterRequestTimeoutSeconds := p.requestTimeoutSeconds }

/-- The checks of `_validate_connection_identity` that depend on what is stored:
`first` says that there is an event, `queued` that the proposed code has a baseline. -/
def validateConnectionIdentity (p : Proposal) (current : Settings) (savedOrigin : PyStr)
    (first queued : Bool) : Except PyError Unit :=
  if first = true ∧ (p.code ≠ current.franchiseCode ∨ queued = false) then
    .error (masterSyncError
      (py "Franchise code is locked because this node already has outbox events."))
  else if first = true ∧ p.origin ≠ savedOrigin then
    .error (masterSyncError
      (py "This Lite installation is already linked to a different Master address. " ++
        py "Ask the administrator to migrate the connection."))
  else if p.credential = current.masterApiKey ∧ current.masterApiKey ≠ [] ∧
    p.origin ≠ savedOrigin then
    .error (masterSyncError
      (py "A saved credential cannot be reused at a different Master address. " ++
        py "Copy new setup details from Master."))
  else .ok ()

/-- The rows that a connection leaves. -/
def connectionSettings (p : Proposal) (nodeId : PyStr) (now : Instant) (settings : List Setting) :
    List Setting :=
  storeConnectionValue connectionResultKey (py "pending")
    (storeConnectionValue connectionCheckKey (isoInstant (now - now % seconds 1))
      (storeConnectionValue connectionOriginKey p.origin
        (storeConnectionValue connectionNodeKey nodeId settings)))

def storeConnection (p : Proposal) (nodeId : PyStr) (now : Instant) : Tx PUnit :=
  Tx.modify fun db => { db with settings := connectionSettings p nodeId now db.settings }

/-! ## Requests -/

/-- Where a request of `connect` or `initialize` stands, with what it has read. An
`Option Proposal` is the proposal of `connect` and `none` for `initialize`. -/
inductive Setup
  /-- Took the lock. -/
  | opened (p : Proposal) (actor : PyStr) (current : Settings)
  /-- Read the first event. -/
  | firstRead (p : Proposal) (actor : PyStr) (current : Settings) (first : Bool)
  /-- Read the saved address. -/
  | originRead (p : Proposal) (actor : PyStr) (current : Settings) (first : Bool)
      (savedOrigin : PyStr)
  /-- Passed `_validate_connection_identity`. -/
  | identified (p : Proposal) (actor : PyStr)
  /-- Read the latest sequence. -/
  | latestRead (p : Proposal) (actor : PyStr) (latest : Nat)
  /-- The enrolment check is on its way. -/
  | asked (p : Option Proposal) (actor : PyStr) (code apiKey : PyStr) (minLast maxLast : Nat)
  /-- Master's node is the proposed one. -/
  | answered (p : Proposal) (actor : PyStr) (latest : Nat) (nodeId : PyStr)
  /-- The installation was not linked to another node; the settings are not saved. -/
  | nodeRead (p : Proposal) (actor : PyStr) (latest : Nat) (nodeId : PyStr)
  /-- In `enqueue_initial_inventory_snapshot`, before its check. -/
  | verified (p : Option (Proposal × PyStr)) (actor : PyStr)
  /-- Found the outbox empty. -/
  | checked (p : Option (Proposal × PyStr)) (actor : PyStr)
  /-- Read the stock; the transaction that queues the baseline comes next. -/
  | collected (p : Option (Proposal × PyStr)) (actor : PyStr) (code : PyStr) (items : List JsonDict)
      (occurredAt : Instant)
  /-- Connects an installation that has events; nothing is queued. -/
  | storing (p : Proposal) (nodeId : PyStr)
  /-- Connected, and in its own sync run. -/
  | syncing

/-- A node: the outbox and its passes, the setup lock and the setup requests. -/
structure Node where
  push : World
  lock : Option Nat
  requests : Nat → Option Setup

/-- A node with nothing in progress. -/
def Node.idle (db : Db) (st : Settings) : Node := ⟨World.idle db st, none, fun _ => none⟩

inductive NodeAction
  /-- A step of the passes, a retry, an ordinary event or a change of the settings. -/
  | push (a : Action)
  /-- `connect_to_master` takes the lock. -/
  | connect (r : Nat) (p : Proposal) (actor : PyStr)
  /-- `initialize_inventory` asks Master about the node. -/
  | initializeInventory (r : Nat) (actor : PyStr)
  /-- The next step of a request, at an instant, with the `uuid4()` draws. -/
  | setup (r : Nat) (reply : Option Reply) (now : Instant) (uuids : Nat → PyStr)
  /-- A request ends: its sync run is over, or its process stops. -/
  | leave (r : Nat)
  /-- `reset_database`; the transaction may still raise. -/
  | reset (raises : Bool)

/-- An event that is not part of a baseline; every caller but the baseline queues such. -/
def EnqueueRequest.ordinary (r : EnqueueRequest) : Bool :=
  !r.initialInventory && upper (strip r.aggregateType) != initialInventoryAggregateType

/-- The actions of the push machine that a node offers. -/
def Action.ordinary : Action → Bool
  | .enqueue _ _ request => request.ordinary
  | _ => true

/-! ## Steps -/

def Node.stand (n : Node) (r : Nat) (phase : Setup) : Node :=
  { n with requests := Function.update n.requests r (some phase) }

/-- A request ends and gives its lock back. -/
def Node.leave (n : Node) (r : Nat) : Node :=
  { n with requests := Function.update n.requests r none,
           lock := if n.lock = some r then none else n.lock }

/-- Stand in the phase that was computed; an exception ends the request. -/
def Node.proceed (n : Node) (r : Nat) : Except PyError Setup → Node
  | .ok phase => n.stand r phase
  | .error _ => n.leave r

/-- Commit, then stand in a phase or end; a transaction that raises is rolled back
and ends the request. -/
def Node.commit (n : Node) (r : Nat) (x : Tx PUnit) (next : Option Setup) : Node :=
  match Tx.atomically x n.push.db, next with
  | (.ok _, db), some phase => { n with push := { n.push with db := db } }.stand r phase
  | (.ok _, db), none => { n with push := { n.push with db := db } }.leave r
  | (.error _, _), _ => n.leave r

/-- The transaction that queues a baseline, and links the node when it connects. -/
def baselineTransaction (st : Settings) (uuids : Nat → PyStr) (p : Option (Proposal × PyStr))
    (code actor : PyStr) (occurredAt : Instant) (items : List JsonDict) (now : Instant) :
    Tx PUnit := do
  let _ ← enqueueInitialInventory st uuids code (some actor) occurredAt items
  match p with
  | some (p, nodeId) => storeConnection p nodeId now
  | none => pure ⟨⟩

/-- The id of the node that Master described. -/
def answeredNode (rt : Runtime) (data : List (PyStr × Json)) : Except PyError PyStr :=
  match rt.uuidOfText (((dictGet (py "public_id") data).getD (.str [])).pyStr rt) with
  | some nodeId => .ok nodeId
  | none => .error (masterSyncError (py "Master returned incomplete franchise details. " ++
      py "Ask its administrator to check the server version."))

/-- What follows a successful enrolment check. -/
def afterCheck (rt : Runtime) (p : Option Proposal) (actor : PyStr) (latest : Nat)
    (data : List (PyStr × Json)) : Except PyError Setup :=
  match p with
  | none => .ok (.verified none actor)
  | some p => (answeredNode rt data).map fun nodeId => .answered p actor latest nodeId

/-- The next step of a request; `none` when it waits. -/
def setupStep (rt : Runtime) (n : Node) (r : Nat) (reply : Option Reply) (now : Instant)
    (uuids : Nat → PyStr) : Setup → Option Node
  | .opened p actor current =>
    some (n.stand r (.firstRead p actor current (!n.push.db.outbox.isEmpty)))
  | .firstRead p actor current first =>
    let saved := savedConnectionValue n.push.db connectionOriginKey
    some (n.stand r (.originRead p actor current first
      (if saved = [] then normalizedOrigin rt current.masterUrl else saved)))
  | .originRead p actor current first savedOrigin =>
    some (n.proceed r ((validateConnectionIdentity p current savedOrigin first
      (initialInventoryIsQueued n.push.db p.code)).map fun _ => .identified p actor))
  | .identified p actor => some (n.stand r (.latestRead p actor (maxId (·.id) n.push.db.outbox)))
  | .latestRead p actor latest =>
    let sent := maxId (·.id) (n.push.db.outbox.filter fun row => row.status = .sent)
    some (n.stand r (.asked (some p) actor p.code p.credential sent latest))
  | .asked p actor code apiKey minLast maxLast =>
    reply.map fun reply => n.proceed r do
      let data ← verifyMasterEnrollmentIdentity rt apiKey code minLast maxLast reply
      afterCheck rt p actor maxLast data
  | .answered p actor latest nodeId =>
    let saved := savedConnectionValue n.push.db connectionNodeKey
    some (if saved ≠ [] ∧
      saved ≠ nodeId then n.leave r else n.stand r (.nodeRead p actor latest nodeId))
  | .nodeRead p actor latest nodeId =>
    let phase := if latest = 0 then .verified (some (p, nodeId)) actor else .storing p nodeId
    some ({ n with push := { n.push with settings := p.saved n.push.settings } }.stand r phase)
  | .verified p actor =>
    some (n.proceed r ((requireEmptyOutbox n.push.db).map fun _ => .checked p actor))
  | .checked p actor => some (n.proceed r do
      let code ← configuredFranchiseCode n.push.settings (some true)
      let items ← initialInventoryItems n.push.db
      .ok (.collected p actor code items now))
  | .collected p actor code items occurredAt =>
    some (n.commit r
      (baselineTransaction n.push.settings uuids p code actor occurredAt items now)
      (p.map fun _ => .syncing))
  | .storing p nodeId => some (n.commit r (storeConnection p nodeId now) (some .syncing))
  | .syncing => none

/-- `DEFAULT_SETTINGS`. -/
def defaultSettings : List Setting :=
  [⟨py "company_name", []⟩, ⟨py "tally_enabled", py "false"⟩,
    ⟨py "tally_purchase_enabled", py "false"⟩, ⟨py "tally_sales_enabled", py "false"⟩,
    ⟨py "tally_host", py "127.0.0.1"⟩, ⟨py "tally_port", py "9000"⟩,
    ⟨py "tally_stock_location", py "Main Location"⟩, ⟨py "sales_voucher_type", []⟩,
    ⟨py "purchase_voucher_type", []⟩, ⟨py "sales_ledger_name", []⟩,
    ⟨py "purchase_ledger_name", []⟩, ⟨py "cgst_ledger_name", []⟩, ⟨py "sgst_ledger_name", []⟩,
    ⟨py "sales_gst_ledger_mappings", []⟩, ⟨py "round_off_ledger_name", []⟩,
    ⟨py "retry_interval_seconds", py "180"⟩, ⟨py "movement_analysis_days", py "90"⟩,
    ⟨py "movement_dead_below_pct", py "10"⟩, ⟨py "movement_slow_below_pct", py "40"⟩,
    ⟨py "movement_medium_up_to_pct", py "80"⟩, ⟨py "_tally_gateway_check_state", py "\x7b\x7d"⟩]

/-- `reset_database_and_cache`: every listed table is emptied. Deleting the rows
leaves the outbox's counter in `sqlite_sequence`, and so does `VACUUM`; the receipts
are not in the list. -/
def resetDatabase (db : Db) : Db :=
  { Db.empty with
    outboxSequence := db.outboxSequence
    receipts := db.receipts
    settings := defaultSettings }

/-- `_deny_connected_lite_destructive_maintenance`. -/
def resetDenied (st : Settings) : Bool := st.lite && (st.sftpSyncEnabled || st.masterSyncEnabled)

/-- One step of a node. -/
def nodeMachine (rt : Runtime) : Machine Node NodeAction
  | n, .push a =>
    if a.ordinary then (pushMachine rt n.push a).map fun w => { n with push := w } else none
  | n, .connect r p actor =>
    if (n.requests r).isNone && n.lock.isNone then
      some { n.stand r (.opened p actor n.push.settings) with lock := some r }
    else none
  | n, .initializeInventory r actor =>
    if (n.requests r).isNone then
      match configuredFranchiseCode n.push.settings (some true),
        masterCredentials n.push.settings with
      | .ok code, .ok (_, apiKey) => some (n.stand r (.asked none actor code apiKey 0 0))
      | _, _ => some n
    else none
  | n, .setup r reply now uuids => (n.requests r).bind (setupStep rt n r reply now uuids)
  | n, .leave r => some (n.leave r)
  | n, .reset raises =>
    if resetDenied n.push.settings || raises then some n
    else some { n with push := { n.push with db := resetDatabase n.push.db } }

end SetuoraLite
