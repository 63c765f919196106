import Mathlib.Logic.Function.Basic
import SetuoraLite.Lib.Machine
import SetuoraLite.Sync.RemoteError
import SetuoraLite.Sync.Session

/-!
# Pushing the outbox

`push_pending_events` as a machine of any number of passes, beside the
administrator's retries, new events and changes of the settings. A pass is cut
where the database or the network is between two of its statements: every read is
a step, every commit is a step, every request and every reply is a step, and the
process may be killed between any two. Two passes share nothing but the database.

A `Phase` holds exactly what the pass has in hand: the event as it loaded it (or
only its id, when the commit before expired it), the instant it read from the
clock, the batch it loaded for the commit that comes next. `passStep` is the next
step of a pass; what is not the program's choice, the clock and Master's reply, is
its argument.

`World.log` records what left for Master and what was settled, in order.
-/

namespace SetuoraLite

open Lib

/-! ## What a pass computes -/

/-- `_oldest_unsent_event`. -/
def oldestUnsentEvent : List MasterOutboxEvent → Option MasterOutboxEvent
  | [] => none
  | r :: rest =>
    match oldestUnsentEvent rest with
    | none => if r.status ≠ .sent then some r else none
    | some e => if r.status ≠ .sent ∧ r.id ≤ e.id then some r else some e

/-- A delivery that has been in progress for this long is taken to be interrupted. -/
def staleAfter (st : Settings) : Nat := seconds (max 60 (requestTimeout st * 2))

/-- `_retry_delay`. -/
def retryDelay (attempts : Nat) : Nat := seconds (min 3600 (2 ^ min (max attempts 1) 11))

/-- The recovery of an interrupted delivery. -/
def recoveredEvent (event : MasterOutboxEvent) (now : Instant) : MasterOutboxEvent :=
  { event with
    status := .failed
    lastError := some (py "Recovered an interrupted Master delivery.")
    nextAttemptAt := some now
    sendingAt := none }

/-- The claim of an event for delivery. -/
def claimedEvent (event : MasterOutboxEvent) (now : Instant) : MasterOutboxEvent :=
  { event with
    status := .sending
    attempts := event.attempts + 1
    sendingAt := some now
    nextAttemptAt := none
    lastError := none }

/-- Why a delivery failed, and whether to try again by itself. -/
structure Failure where
  message : PyStr
  retryable : Bool
deriving DecidableEq

/-- `_fail_outbox_event`, on the event. -/
def failedEvent (event : MasterOutboxEvent) (failure : Failure) (now : Instant) :
    MasterOutboxEvent :=
  { event with
    status := .failed
    lastError := some failure.message
    sendingAt := none
    nextAttemptAt := if failure.retryable then some (now + retryDelay event.attempts) else none }

/-- The acknowledged event. -/
def sentEvent (event : MasterOutboxEvent) (now : Instant) : MasterOutboxEvent :=
  { event with
    status := .sent
    sentAt := some now
    sendingAt := none
    nextAttemptAt := none
    lastError := none }

/-- `retry_failed_event`, on the event. -/
def retriedEvent (event : MasterOutboxEvent) : MasterOutboxEvent :=
  { event with status := .pending, nextAttemptAt := none, sendingAt := none, lastError := none }

/-- The frozen payload is under its own digest; a stored text always has an encoding. -/
def payloadIntact (event : MasterOutboxEvent) : Prop :=
  payloadSha256 event.payloadJson = .ok event.payloadSha256

instance (event : MasterOutboxEvent) : Decidable (payloadIntact event) := by
  unfold payloadIntact
  exact inferInstance

/-- The batch that a delivery moves along, as a read finds it. -/
def eventBatch (db : Db) (event : MasterOutboxEvent) : Option Batch :=
  if event.aggregateType = py "BATCH" then event.batchId.bind db.batch else none

/-- The receipt that an acknowledgement marks, as a read finds it. -/
def eventReceipt (db : Db) (event : MasterOutboxEvent) : Option Receipt :=
  if event.aggregateType = py "BATCH" ∧ event.batchId ≠ none then none
  else if event.aggregateType = py "RECEIPT" then
    lookup (·.receiptUuid) event.aggregateId db.receipts
  else none

/-! ## Replies -/

/-- How an HTTP exchange with Master ends, when it ends. -/
inductive Reply
  /-- `urlopen` raised `HTTPError`. -/
  | httpError (status : Int) (body : List UInt8)
  /-- It raised `URLError`, a time-out, a connection or a protocol error. -/
  | networkError (text : PyStr)
  /-- It raised anything else. -/
  | otherError (text : PyStr)
  /-- It returned. -/
  | response (status : Int) (body : List UInt8)
deriving DecidableEq

/-- What a pass makes of a reply. -/
inductive Verdict
  | failed (failure : Failure)
  | acknowledged (status : Int) (body : List UInt8)
deriving DecidableEq

/-- A status that is not a success, with its body. -/
def rejected (rt : Runtime) (apiKey : PyStr) (status : Int) (body : List UInt8) :
    Except PyError Verdict := do
  let errorCode ← masterHttpErrorCode rt body
  let message ← masterHttpErrorSummary rt status body apiKey
  .ok (.failed ⟨message.take 1000, httpStatusIsRetryable status errorCode⟩)

/-- The reply to a POST of an event; `.error` is an exception that ends the pass. -/
def judge (rt : Runtime) (apiKey : PyStr) (event : MasterOutboxEvent) :
    Reply → Except PyError Verdict
  | .httpError status body => rejected rt apiKey status (body.take (masterErrorMaxBodyBytes + 1))
  | .networkError text => .ok (.failed ⟨safeError apiKey text, true⟩)
  | .otherError text => .ok (.failed ⟨safeError apiKey text, false⟩)
  | .response status body =>
    if masterResponseMaxBodyBytes < body.length then
      .ok (.failed ⟨safeError apiKey
        (py "Setuora Master response exceeded the 5 MiB safety limit."), false⟩)
    else if ¬ (200 ≤ status ∧ status < 300) then rejected rt apiKey status body
    else
      match validateEventAcknowledgement rt body event with
      | .ok () => .ok (.acknowledged status body)
      | .error e => .ok (.failed ⟨safeError apiKey e.message, true⟩)

/-! ## Passes and retries -/

/-- Where a pass stands, with what it has in hand. -/
inductive Phase
  /-- At the head of the loop. -/
  | head
  /-- Found an interrupted delivery; the recovery is not committed. -/
  | recovering (event : MasterOutboxEvent) (now : Instant)
  /-- Committed the recovery; the event has to be read again. -/
  | reloading (id : Nat) (now : Instant)
  /-- Decided to deliver; the batch is not read. -/
  | claiming (event : MasterOutboxEvent) (now : Instant)
  /-- Ready to commit the claim. -/
  | claimReady (event : MasterOutboxEvent) (now : Instant) (batch : Option Batch)
  /-- Committed the claim; the event has to be read again. -/
  | claimed (id : Nat)
  /-- The request is on its way. -/
  | posted (event : MasterOutboxEvent)
  /-- The delivery failed; the batch is not read. -/
  | failing (event : MasterOutboxEvent) (failure : Failure)
  /-- Ready to commit the failure. -/
  | failReady (event : MasterOutboxEvent) (failure : Failure) (batch : Option Batch)
  /-- Acknowledged; the batch or receipt is not read. -/
  | acked (event : MasterOutboxEvent) (status : Int) (body : List UInt8)
  /-- Ready to commit the acknowledgement. -/
  | ackReady (event : MasterOutboxEvent) (status : Int) (body : List UInt8)
      (batch : Option Batch) (receipt : Option Receipt)
deriving DecidableEq

/-- A call of `push_pending_events` in progress. -/
structure Pass where
  apiKey : PyStr
  limit : Nat
  sentCount : Nat
  phase : Phase
deriving DecidableEq

/-- A call of `retry_failed_event` that passed its checks. -/
inductive Retry
  | loaded (event : MasterOutboxEvent)
  | ready (event : MasterOutboxEvent) (batch : Option Batch)
deriving DecidableEq

/-- What is recorded of a run. -/
inductive Entry
  /-- An event left for Master. -/
  | posted (event : MasterOutboxEvent)
  /-- An acknowledgement was committed; `stored` is the row afterwards. -/
  | settled (event : MasterOutboxEvent) (status : Int) (body : List UInt8)
      (stored : Option MasterOutboxEvent)
deriving DecidableEq

structure World where
  db : Db
  settings : Settings
  passes : Nat → Option Pass
  retries : Nat → Option Retry
  log : List Entry

/-- The installation with nothing in progress. -/
def World.idle (db : Db) (st : Settings) : World :=
  ⟨db, st, fun _ => none, fun _ => none, []⟩

inductive Action
  /-- `push_pending_events(limit)` is called. -/
  | begin (p : Nat) (limit : Nat)
  /-- The next step of a pass, at an instant; `reply` is used when one is awaited. -/
  | pass (p : Nat) (now : Instant) (reply : Option Reply)
  /-- The process of a pass stops. -/
  | kill (p : Nat)
  /-- `retry_failed_event(id)` is called. -/
  | askRetry (q : Nat) (id : Nat)
  /-- The next step of a retry. -/
  | retry (q : Nat)
  /-- The process of a retry stops. -/
  | dropRetry (q : Nat)
  /-- A transaction queues an event. -/
  | enqueue (uuid : PyStr) (now : Instant) (request : EnqueueRequest)
  /-- The settings change. -/
  | configure (st : Settings)

/-! ## Steps -/

def World.setPass (w : World) (p : Nat) (pass : Option Pass) : World :=
  { w with passes := Function.update w.passes p pass }

def World.setRetry (w : World) (q : Nat) (retry : Option Retry) : World :=
  { w with retries := Function.update w.retries q retry }

def World.record (w : World) (entry : Entry) : World := { w with log := w.log ++ [entry] }

/-- Write back an object, if there is one. -/
def flushSome {α : Type} (flush : α → α → Tx PUnit) : Option (α × α) → Tx PUnit
  | some p => flush p.1 p.2
  | none => pure ⟨⟩

/-- Write back the objects of a session. -/
def flushAll (event : MasterOutboxEvent × MasterOutboxEvent) (batch : Option (Batch × Batch))
    (receipt : Option (Receipt × Receipt)) : Tx PUnit := do
  flushSome flushBatch batch
  flushSome flushReceipt receipt
  flushEvent event.1 event.2

/-- Commit, record it, and stand in a new phase; a commit that raises is rolled
back and ends the pass. -/
def World.commit (w : World) (p : Nat) (x : Tx PUnit) (next : Option Pass)
    (entries : Db → List Entry) : World :=
  match Tx.atomically x w.db with
  | (.ok _, db) => { w.setPass p next with db := db, log := w.log ++ entries db }
  | (.error _, db) => { w.setPass p none with db := db }

/-- The checks between loading an event and claiming it. -/
def admission (apiKey : PyStr) (event : MasterOutboxEvent) (now : Instant) : Option Phase :=
  if event.status = .failed ∧ ¬ (∃ t ∈ event.nextAttemptAt, t ≤ now) then none
  else if ¬ payloadIntact event then
    some (.failing event
      ⟨safeError apiKey (py "Master outbox payload integrity check failed."), false⟩)
  else some (.claiming event now)

/-- The phase after looking for the oldest unsent event; `none` ends the pass. -/
def selectEvent (w : World) (apiKey : PyStr) (now : Instant) : Option Phase :=
  match oldestUnsentEvent w.db.outbox with
  | none => none
  | some event =>
    if event.status = .sending then
      if ∃ t ∈ event.sendingAt, now < t + staleAfter w.settings then none
      else some (.recovering event now)
    else admission apiKey event now

/-- The next step of a pass; `none` when it waits for Master. -/
def passStep (rt : Runtime) (w : World) (p : Nat) (pass : Pass) (now : Instant)
    (reply : Option Reply) : Option World :=
  let stand (phase : Phase) : Option Pass := some { pass with phase := phase }
  match pass.phase with
  | .head =>
    if pass.limit ≤ pass.sentCount then some (w.setPass p none)
    else some (w.setPass p ((selectEvent w pass.apiKey now).bind stand))
  | .recovering event readAt =>
    some (w.commit p (flushAll (event, recoveredEvent event readAt) none none)
      (stand (.reloading event.id readAt)) fun _ => [])
  | .reloading id readAt =>
    some (w.setPass p
      ((w.db.event id).bind fun event => (admission pass.apiKey event readAt).bind stand))
  | .claiming event readAt =>
    some (w.setPass p (stand (.claimReady event readAt (eventBatch w.db event))))
  | .claimReady event readAt batch =>
    some (w.commit p
      (flushAll (event, claimedEvent event readAt)
        (batch.map fun b => (b, { b with status := .syncing, lastError := none })) none)
      (stand (.claimed event.id)) fun _ => [])
  | .claimed id =>
    match w.db.event id with
    | none => some (w.setPass p none)
    | some event => some ((w.setPass p (stand (.posted event))).record (.posted event))
  | .posted event =>
    match reply with
    | none => none
    | some reply =>
      match judge rt pass.apiKey event reply with
      | .error _ => some (w.setPass p none)
      | .ok (.failed failure) => some (w.setPass p (stand (.failing event failure)))
      | .ok (.acknowledged status body) => some (w.setPass p (stand (.acked event status body)))
  | .failing event failure =>
    some (w.setPass p (stand (.failReady event failure (eventBatch w.db event))))
  | .failReady event failure batch =>
    some (w.commit p
      (flushAll (event, failedEvent event failure now)
        (batch.map fun b => (b, { b with status := .failed, lastError := some failure.message }))
          none)
      none fun _ => [])
  | .acked event status body =>
    some (w.setPass p (stand (.ackReady event status body (eventBatch w.db event)
      (eventReceipt w.db event))))
  | .ackReady event status body batch receipt =>
    some (w.commit p
      (flushAll (event, sentEvent event now)
        (batch.map fun b =>
          (b, { b with status := .synced, syncedAt := some now, lastError := none }))
        (receipt.map fun r => (r, { r with syncedAt := some now })))
      (some { pass with phase := .head, sentCount := pass.sentCount + 1 })
      fun db => [.settled event status body (db.event event.id)])

/-- The next step of a retry. -/
def retryStep (w : World) (q : Nat) : Retry → World
  | .loaded event => w.setRetry q (some (.ready event (event.batchId.bind w.db.batch)))
  | .ready event batch =>
    let x := flushAll (event, retriedEvent event)
      (batch.map fun b => (b, { b with status := .pendingSync, lastError := none })) none
    { w with db := (Tx.atomically x w.db).2 }.setRetry q none

/-- `push_pending_events` up to its loop: the pass, unless it returns or raises. -/
def beginPass (w : World) (limit : Nat) : Option Pass :=
  if w.settings.masterSyncEnabled = false ∨ limit < 1 then none
  else
    match requireInitialInventoryQueued w.settings w.db, masterCredentials w.settings with
    | .ok _, .ok (_, apiKey) => some ⟨apiKey, limit, 0, .head⟩
    | _, _ => none

/-- One step of the installation. -/
def pushMachine (rt : Runtime) : Machine World Action
  | w, .begin p limit =>
    if w.passes p = none then some (w.setPass p (beginPass w limit)) else none
  | w, .pass p now reply => (w.passes p).bind fun pass => passStep rt w p pass now reply
  | w, .kill p => some (w.setPass p none)
  | w, .askRetry q id =>
    if w.retries q = none then
      match w.db.event id with
      | none => some w
      | some event =>
        if event.status = .failed ∧
          payloadIntact event then some (w.setRetry q (some (.loaded event)))
        else some w
    else none
  | w, .retry q => (w.retries q).map (retryStep w q)
  | w, .dropRetry q => some (w.setRetry q none)
  | w, .enqueue uuid now request =>
    some { w with db := (Tx.atomically (enqueueOutboxEvent w.settings uuid now request) w.db).2 }
  | w, .configure st => some { w with settings := st }

end SetuoraLite
