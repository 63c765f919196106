import SetuoraLite.Commands.Transfer

/-!
# The inbox

`apply_master_command` runs one command of Master in the caller's transaction. The
inbox keeps one row for each command id with a digest of the payload: a command
that is already `APPLIED` is not run again, one that disagrees with its row is
refused, and any other one is run and its row marked `APPLIED` in the same
transaction. `_persist_failed_command` records a failure after the rollback.
-/

namespace SetuoraLite

open Lib

def commandSchemaVersion : Int := 1

/-! ## Receipt reviews -/

/-- The fields of a review. -/
structure ReceiptReview where
  receiptId : PyStr
  status : ReceiptStatus
  remarks : PyStr
  reviewedBy : Option PyStr

/-- The checks of `apply_receipt_review_command` before it reads. -/
def parseReview (rt : Runtime) (payload : List (PyStr × Json)) : Except PyError ReceiptReview :=
  let receiptId := strip ((getItem payload (py "receipt_id")).textOrEmpty rt)
  let status := upper (strip ((getItem payload (py "status")).textOrEmpty rt))
  let remarks := joinWith (py " ")
    (splitWords ((getItem payload (py "rejection_remarks")).textOrEmpty rt))
  let reviewedBy := textOrNone
    ((strip ((getItem payload (py "reviewed_by")).textOrEmpty rt)).take 120)
  if receiptId = [] then
    .error (masterSyncError (py "Receipt review command is missing receipt_id."))
  else
    match [ReceiptStatus.approved, .denied].find? fun s => s.value = status with
    | none => .error (masterSyncError (py "Receipt review command has an invalid status."))
    | some decision =>
      if decision = .denied ∧ remarks = [] then
        .error (masterSyncError (py "A denied receipt requires rejection remarks."))
      else if 1000 < remarks.length then
        .error (masterSyncError (py "Rejection remarks must be 1,000 characters or fewer."))
      else .ok ⟨receiptId, decision, remarks, reviewedBy⟩

/-- The receipt that a review is about. -/
def reviewedReceipt (db : Db) (review : ReceiptReview) : Except PyError Receipt :=
  match lookup (·.receiptUuid) review.receiptId db.receipts with
  | none => .error (masterSyncError (py "Receipt " ++ review.receiptId ++
      py " was not found on this Lite node."))
  | some receipt =>
    if receipt.status ≠ .pending ∧ receipt.status ≠ review.status then
      .error (masterSyncError (py "Receipt has already received a different review decision."))
    else .ok receipt

/-- The receipt under a review. -/
def ReceiptReview.over (review : ReceiptReview) (reviewedAt : Instant)
    (receipt : Receipt) : Receipt :=
  { receipt with
    status := review.status
    rejectionRemarks := if review.status = .denied then some review.remarks else none
    reviewedBy := review.reviewedBy
    reviewedAt := some reviewedAt }

/-- `apply_receipt_review_command`. -/
def applyReceiptReviewCommand (rt : Runtime) (payload : List (PyStr × Json)) : Tx PUnit := do
  let review ← Tx.lift (parseReview rt payload)
  let db ← Tx.reads fun db => db
  let receipt ← Tx.lift (reviewedReceipt db review)
  let reviewedAt ← Tx.lift ((rt.instantOfText ((getItem payload (py "reviewed_at")).pyStr rt)).elim
    (.error (masterSyncError (py "Receipt review command has an invalid reviewed_at value."))) .ok)
  Tx.raiseIf (encodable ([review.remarks] ++ review.reviewedBy.toList) = false) .unicodeEncode
  Tx.modify fun db =>
    { db with receipts := modifyRow (·.id) receipt.id (review.over reviewedAt) db.receipts }

/-- A review writes receipts only. -/
theorem applyReceiptReviewCommand_keeps {γ : Type} {f : Db → γ}
    (hr : ∀ db x, f { db with receipts := x } = f db) (rt : Runtime)
    (payload : List (PyStr × Json)) :
    Tx.Keeps f (applyReceiptReviewCommand rt payload) :=
  .bind (.lift _) fun _ => .bind (.reads _) fun _ => .bind (.lift _) fun _ =>
    .bind (.lift _) fun _ =>
    .bind (.raiseIf _ _) fun _ => .modify fun db => hr db _

/-! ## The parts of a command -/

/-- What `_command_parts` returns. -/
structure CommandParts where
  commandId : PyStr
  commandType : PyStr
  schemaVersion : Int
  payload : List (PyStr × Json)

/-- `_command_parts`. -/
def commandParts (rt : Runtime) (command : List (PyStr × Json)) : Except PyError CommandParts :=
  let commandId :=
    strip ((firstTruthy [getItem command (py "command_id"), getItem command (py "id"),
    .str []]).pyStr rt)
  let commandType := upper (strip ((firstTruthy [getItem command (py "command_type"),
    getItem command (py "type"), .str []]).pyStr rt))
  if commandId = [] then .error (masterSyncError (py "Master command is missing command_id."))
  else if commandType = [] then
    .error (masterSyncError (py "Master command " ++ commandId ++ py " is missing command_type."))
  else
    match (getOr command (py "schema_version") (.int commandSchemaVersion)).toInt rt with
    | .error .invalid => .error (masterSyncError (py "Master command " ++ commandId ++
        py " has an invalid schema version."))
    | .error .overflow => .error ⟨.other, py "cannot convert float infinity to integer"⟩
    | .ok schemaVersion =>
      match getOr command (py "payload") (getOr command (py "data") (.obj [])) with
      | .obj payload => .ok ⟨commandId, commandType, schemaVersion, payload⟩
      | _ => .error (masterSyncError (py "Master command " ++ commandId ++
          py " payload must be an object."))

/-- The canonical text of a payload and its digest. -/
def frozenPayload (payload : List (PyStr × Json)) : Except PyError (PyStr × PyStr) := do
  let text ← canonicalJson (.obj payload)
  let digest ← payloadSha256 text
  .ok (text, digest)

/-! ## Inbox rows -/

/-- The row of a command id. -/
def Db.command (db : Db) (commandId : PyStr) : Option MasterInboxCommand :=
  lookup (·.commandId) commandId db.inbox

/-- `db.add(MasterInboxCommand(…))` and its flush. -/
def insertCommand (row : Nat → MasterInboxCommand) : Tx MasterInboxCommand := do
  let db ← Tx.reads fun db => db
  let new := row (nextId (·.id) db.inbox)
  Tx.raiseIf (encodable ([new.commandId, new.commandType] ++ new.lastError.toList) = false)
    .unicodeEncode
  Tx.raiseIf (¬ (-(2 ^ 63) ≤ new.schemaVersion ∧ new.schemaVersion < 2 ^ 63))
    ⟨.other, py "Python int too large to convert to SQLite INTEGER"⟩
  Tx.raiseIf (∃ r ∈ db.inbox, r.commandId = new.commandId) .integrity
  Tx.modify fun db => { db with inbox := db.inbox ++ [new] }
  pure new

/-- The stored row with a new outcome; nothing writes what identifies the command. -/
def MasterInboxCommand.changed (change : MasterInboxCommand → MasterInboxCommand)
    (stored : MasterInboxCommand) : MasterInboxCommand :=
  { stored with
    status := (change stored).status
    attempts := (change stored).attempts
    lastError := (change stored).lastError
    appliedAt := (change stored).appliedAt }

/-- The inbox with a changed row. -/
def withCommand (id : Nat) (change : MasterInboxCommand → MasterInboxCommand) (db : Db) : Db :=
  { db with inbox := modifyRow (·.id) id (MasterInboxCommand.changed change) db.inbox }

/-- A row for a command that is new. -/
def newCommand (parts : CommandParts) (text digest : PyStr) (id : Nat) : MasterInboxCommand :=
  { id := id, commandId := parts.commandId, commandType := parts.commandType,
    schemaVersion := parts.schemaVersion, payloadJson := text, payloadSha256 := digest,
    status := .received, attempts := 0, lastError := none, appliedAt := none }

/-- The row while its command runs. -/
def MasterInboxCommand.attempted (row : MasterInboxCommand) : MasterInboxCommand :=
  { row with attempts := row.attempts + 1, status := .received, lastError := none }

/-- The row of a command that failed; the attempt is counted where the failure is kept. -/
def MasterInboxCommand.failedWith (error : PyError) (row : MasterInboxCommand) :
    MasterInboxCommand :=
  { row with status := .failed, lastError := some (safeError [] error.message) }

/-- The row of a command that succeeded. -/
def MasterInboxCommand.appliedOn (now : Instant) (row : MasterInboxCommand) : MasterInboxCommand :=
  { row with status := .applied, appliedAt := some now }

/-! ## Applying -/

/-- The command's handler. -/
def runHandler (rt : Runtime) (st : Settings) (now : Instant) (uuid : PyStr)
    (parts : CommandParts) :
    Tx PUnit :=
  if parts.commandType = py "TRANSFER_AVAILABLE" ∨ parts.commandType = py "TRANSFER_INCOMING" then
    applyTransferAvailableCommand rt st now parts.payload
  else if parts.commandType = py "TRANSFER_RECEIPT" ∨
      parts.commandType = py "TRANSFER_RECEIPT_STATUS" then
    applyTransferReceiptCommand rt now parts.payload
  else if parts.commandType = py "RECEIPT_REVIEWED" then applyReceiptReviewCommand rt parts.payload
  else if parts.commandType = py "QR_ALLOCATED" then applyQrAllocatedCommand rt st now parts.payload
  else if parts.commandType = py "QR_REPLACE" then
    applyQrReplaceCommand st now uuid parts.payload parts.commandId
  else if parts.commandType = py "PRODUCT_UPSERT" then applyProductUpsertCommand rt st parts.payload
  else Tx.raise
    (masterSyncError (py "Unsupported Master command type: " ++ parts.commandType ++ py "."))

/-- The part of `apply_master_command` that runs a command under its row. -/
def runCommand (rt : Runtime) (st : Settings) (now : Instant) (uuid : PyStr) (parts : CommandParts)
    (row : MasterInboxCommand) : Tx MasterInboxCommand := do
  Tx.modify (withCommand row.id MasterInboxCommand.attempted)
  Tx.onError (runHandler rt st now uuid parts) fun e => withCommand row.id (.failedWith e)
  Tx.modify (withCommand row.id (.appliedOn now))
  pure (row.attempted.appliedOn now)

/-- `apply_master_command`, with the `utc_now()` and the `uuid4()` it draws. -/
def applyMasterCommand (rt : Runtime) (st : Settings) (now : Instant) (uuid : PyStr)
    (command : List (PyStr × Json)) : Tx MasterInboxCommand := do
  let parts ← Tx.lift (commandParts rt command)
  Tx.raiseIf (parts.schemaVersion ≠ commandSchemaVersion) (masterSyncError
    (py "Unsupported Master command schema version: " ++ intStr parts.schemaVersion ++ py "."))
  let (text, digest) ← Tx.lift (frozenPayload parts.payload)
  Tx.raiseIf (encodable [parts.commandId] = false) .unicodeEncode
  let db ← Tx.reads fun db => db
  match db.command parts.commandId with
  | some row => do
    Tx.raiseIf (row.payloadSha256 ≠ digest ∨ row.commandType ≠ parts.commandType ∨
        row.schemaVersion ≠ parts.schemaVersion) (masterSyncError (py "Master command " ++
      parts.commandId ++ py " conflicts with an existing command."))
    if row.status = .applied then pure row else runCommand rt st now uuid parts row
  | none => do
    let row ← insertCommand (newCommand parts text digest)
    runCommand rt st now uuid parts row

/-- `_persist_failed_command`, up to its commit. -/
def persistFailedCommand (rt : Runtime) (command : List (PyStr × Json)) (error : PyError) :
    Tx PUnit := do
  let parts ← Tx.lift (commandParts rt command)
  let (text, digest) ← Tx.lift (frozenPayload parts.payload)
  Tx.raiseIf (encodable [parts.commandId] = false) .unicodeEncode
  let failed (row : MasterInboxCommand) : MasterInboxCommand := row.attempted.failedWith error
  let db ← Tx.reads fun db => db
  match db.command parts.commandId with
  | some row =>
    if row.status = .applied then pure ⟨⟩
    else do
      Tx.raiseIf (encodable [safeError [] error.message] = false) .unicodeEncode
      Tx.modify (withCommand row.id failed)
  | none => do
    let _ ← insertCommand fun id => failed (newCommand parts text digest id)
    pure ⟨⟩

/-! ## What they change -/

/-- No handler touches the inbox. -/
theorem runHandler_keeps_inbox (rt : Runtime) (st : Settings) (now : Instant) (uuid : PyStr)
    (parts : CommandParts) : Tx.Keeps (·.inbox) (runHandler rt st now uuid parts) := by
  unfold runHandler
  split
  · exact applyTransferAvailableCommand_keeps (fun _ _ => rfl) (fun _ _ => rfl) (fun _ _ => rfl)
      (fun _ _ => rfl) rt st now parts.payload
  split
  · exact applyTransferReceiptCommand_keeps (fun _ _ => rfl) (fun _ _ => rfl)
      (fun _ _ => rfl) rt now
      parts.payload
  split
  · exact applyReceiptReviewCommand_keeps (fun _ _ => rfl) rt parts.payload
  split
  · exact applyQrAllocatedCommand_keeps (fun _ _ => rfl) (fun _ _ => rfl) rt st now parts.payload
  split
  · exact applyQrReplaceCommand_keeps (fun _ _ => rfl) (fun _ _ _ => rfl) st now uuid parts.payload
      parts.commandId
  split
  · exact applyProductUpsertCommand_keeps (fun _ _ => rfl) rt st parts.payload
  · exact .raise _

theorem insertCommand_ok {mk : Nat → MasterInboxCommand} {db db' : Db} {row : MasterInboxCommand}
    (h : insertCommand mk db = (.ok row, db')) :
    row = mk (nextId (·.id) db.inbox) ∧ (∀ r ∈ db.inbox, r.commandId ≠ row.commandId) ∧
      db' = { db with inbox := db.inbox ++ [row] } := by
  unfold insertCommand at h
  rw [Tx.bind_ok] at h
  obtain ⟨seen, t₁, h₁, h⟩ := h
  obtain ⟨rfl, rfl⟩ := Tx.reads_ok.mp h₁
  rw [Tx.bind_ok] at h
  obtain ⟨_, t₂, h₂, h⟩ := h
  obtain ⟨-, rfl⟩ := Tx.raiseIf_ok.mp h₂
  rw [Tx.bind_ok] at h
  obtain ⟨_, t₃, h₃, h⟩ := h
  obtain ⟨-, rfl⟩ := Tx.raiseIf_ok.mp h₃
  rw [Tx.bind_ok] at h
  obtain ⟨_, t₄, h₄, h⟩ := h
  obtain ⟨hfresh, rfl⟩ := Tx.raiseIf_ok.mp h₄
  rw [Tx.bind_ok] at h
  obtain ⟨_, t₅, h₅, h⟩ := h
  obtain rfl := Tx.modify_ok.mp h₅
  obtain ⟨rfl, rfl⟩ := Tx.pure_ok.mp h
  exact ⟨rfl, fun r hr he => hfresh ⟨r, hr, he⟩, rfl⟩

/-- The inbox has one row for an id and for a command id. -/
structure InboxKeys (inbox : List MasterInboxCommand) : Prop where
  ids : (inbox.map (·.id)).Nodup
  commandIds : (inbox.map (·.commandId)).Nodup

/-- The rows of the other commands. -/
def otherCommands (commandId : PyStr) (inbox : List MasterInboxCommand) : List MasterInboxCommand :=
  inbox.filter fun row => row.commandId ≠ commandId

/-- The row of one command was written: the other rows are as they were. -/
structure CommandWritten (commandId : PyStr) (status : InboxStatus)
    (before after : List MasterInboxCommand) : Prop where
  keys : InboxKeys after
  others : otherCommands commandId after = otherCommands commandId before
  written : ∃ row ∈ after, row.commandId = commandId ∧ row.status = status

/-- A change of the row of a command writes that row. -/
private theorem commandWritten_changed {inbox : List MasterInboxCommand} {row : MasterInboxCommand}
    (hk : InboxKeys inbox) (hrow : row ∈ inbox) {g : MasterInboxCommand → MasterInboxCommand}
    (hid : ∀ r, (g r).id = r.id) (hcommand : ∀ r, (g r).commandId = r.commandId) :
    CommandWritten row.commandId (g row).status inbox (modifyRow (·.id) row.id g inbox) := by
  refine ⟨⟨?_, ?_⟩, ?_, g row, ?_, hcommand row, rfl⟩
  · rw [map_modifyRow fun r _ _ => hid r]
    exact hk.ids
  · rw [map_modifyRow fun r _ _ => hcommand r]
    exact hk.commandIds
  · refine filter_modifyRow fun r hr he => ?_
    obtain rfl := eq_of_key_eq hk.ids hr hrow he
    simp [hcommand]
  · exact mem_modifyRow.mpr ⟨row, hrow, by simp⟩

/-- A new row has keys of its own. -/
private theorem inboxKeys_append {inbox : List MasterInboxCommand} {row : MasterInboxCommand}
    (hk : InboxKeys inbox) (hid : row.id = nextId (·.id) inbox)
    (hcommand : ∀ r ∈ inbox, r.commandId ≠ row.commandId) : InboxKeys (inbox ++ [row]) := by
  have hfresh : ∀ r ∈ inbox, r.id ≠ row.id := by
    intro r hr
    rw [hid]
    exact nextId_fresh hr
  constructor
  · rw [List.map_append, List.nodup_append]
    exact ⟨hk.ids, by simp, by simpa using hfresh⟩
  · rw [List.map_append, List.nodup_append]
    exact ⟨hk.commandIds, by simp, by simpa using hcommand⟩

/-- A write of the row that was just inserted is a write of a new row. -/
private theorem CommandWritten.of_append {commandId : PyStr} {status : InboxStatus}
    {inbox after : List MasterInboxCommand} {row : MasterInboxCommand}
    (hid : row.commandId = commandId) (h : CommandWritten commandId status (inbox ++ [row]) after) :
    CommandWritten commandId status inbox after := by
  refine ⟨h.keys, h.others.trans ?_, h.written⟩
  simp [otherCommands, hid]

/-- A command that ran: its row is `APPLIED`. -/
private theorem runCommand_ok {rt : Runtime} {st : Settings} {now : Instant} {uuid : PyStr}
    {parts : CommandParts} {row r : MasterInboxCommand} {db db' : Db} (hk : InboxKeys db.inbox)
    (hrow : row ∈ db.inbox) (h : runCommand rt st now uuid parts row db = (.ok r, db')) :
    r.commandId = row.commandId ∧ CommandWritten row.commandId .applied db.inbox db'.inbox := by
  unfold runCommand at h
  rw [Tx.bind_ok] at h
  obtain ⟨_, t₁, h₁, h⟩ := h
  obtain rfl := Tx.modify_ok.mp h₁
  rw [Tx.bind_ok] at h
  obtain ⟨_, t₂, h₂, h⟩ := h
  rw [Tx.onError_ok] at h₂
  have hkept := runHandler_keeps_inbox rt st now uuid parts (withCommand row.id .attempted db)
  rw [h₂] at hkept
  rw [Tx.bind_ok] at h
  obtain ⟨_, t₃, h₃, h⟩ := h
  obtain rfl := Tx.modify_ok.mp h₃
  obtain ⟨rfl, rfl⟩ := Tx.pure_ok.mp h
  refine ⟨rfl, ?_⟩
  have hinbox : (withCommand row.id (.appliedOn now) t₂).inbox = modifyRow (·.id) row.id
      (fun r => (r.changed .attempted).changed (.appliedOn now)) db.inbox := by
    show modifyRow (·.id) row.id _ t₂.inbox = _
    rw [show t₂.inbox = _ from hkept]
    exact modifyRow_modifyRow fun r _ he => he
  rw [hinbox]
  exact commandWritten_changed
    (g := fun r => (r.changed .attempted).changed (.appliedOn now)) hk hrow
    (fun _ => rfl) (fun _ => rfl)

/-- The command has an `APPLIED` row. -/
def AppliedIn (commandId : PyStr) (inbox : List MasterInboxCommand) : Prop :=
  ∃ row ∈ inbox, row.commandId = commandId ∧ row.status = .applied

/-- The row found for a command is its only one. -/
private theorem not_appliedIn {db : Db} {commandId : PyStr} {row : MasterInboxCommand}
    (hk : InboxKeys db.inbox) (h : db.command commandId = some row) (hrow : row.status ≠ .applied) :
    ¬ AppliedIn commandId db.inbox := by
  rintro ⟨r, hr, hid, happlied⟩
  obtain ⟨hmem, hid'⟩ := lookup_some h
  obtain rfl := eq_of_key_eq hk.commandIds hmem hr (hid'.trans hid.symm)
  exact hrow happlied

/-- A command that was accepted was `APPLIED` before and changed nothing, or became
`APPLIED` now. -/
theorem applyMasterCommand_ok {rt : Runtime} {st : Settings} {now : Instant} {uuid : PyStr}
    {command : List (PyStr × Json)} {db db' : Db} {row : MasterInboxCommand}
    (hk : InboxKeys db.inbox) (h : applyMasterCommand rt st now uuid command db = (.ok row, db')) :
    ∃ parts, commandParts rt command = .ok parts ∧ row.commandId = parts.commandId ∧
      (db' = db ∧ AppliedIn parts.commandId db.inbox ∨
        ¬ AppliedIn parts.commandId db.inbox ∧
          CommandWritten parts.commandId .applied db.inbox db'.inbox) := by
  unfold applyMasterCommand at h
  rw [Tx.bind_ok] at h
  obtain ⟨parts, t₁, h₁, h⟩ := h
  obtain ⟨hparts, rfl⟩ := Tx.lift_ok.mp h₁
  rw [Tx.bind_ok] at h
  obtain ⟨_, t₂, h₂, h⟩ := h
  obtain ⟨-, rfl⟩ := Tx.raiseIf_ok.mp h₂
  rw [Tx.bind_ok] at h
  obtain ⟨⟨text, digest⟩, t₃, h₃, h⟩ := h
  obtain ⟨-, rfl⟩ := Tx.lift_ok.mp h₃
  dsimp only at h
  rw [Tx.bind_ok] at h
  obtain ⟨_, t₄, h₄, h⟩ := h
  obtain ⟨-, rfl⟩ := Tx.raiseIf_ok.mp h₄
  rw [Tx.bind_ok] at h
  obtain ⟨seen, t₅, h₅, h⟩ := h
  obtain ⟨rfl, rfl⟩ := Tx.reads_ok.mp h₅
  -- The checks are passed. Then a known command is replayed or tried again, and a new one is
  -- inserted first.
  refine ⟨parts, hparts, ?_⟩
  cases hfound : db.command parts.commandId with
  | some found =>
    rw [hfound] at h
    obtain ⟨hmem, hid⟩ := lookup_some hfound
    rw [Tx.bind_ok] at h
    obtain ⟨_, t₆, h₆, h⟩ := h
    obtain ⟨-, rfl⟩ := Tx.raiseIf_ok.mp h₆
    split at h
    next happlied =>
      obtain ⟨rfl, rfl⟩ := Tx.pure_ok.mp h
      exact ⟨hid, Or.inl ⟨rfl, found, hmem, hid, happlied⟩⟩
    next hnot =>
      obtain ⟨hrow, hwritten⟩ := runCommand_ok hk hmem h
      rw [hid] at hrow hwritten
      exact ⟨hrow, Or.inr ⟨not_appliedIn hk hfound hnot, hwritten⟩⟩
  | none =>
    rw [hfound] at h
    rw [Tx.bind_ok] at h
    obtain ⟨new, t₆, h₆, h⟩ := h
    obtain ⟨hnew, hfresh, rfl⟩ := insertCommand_ok h₆
    have hid : new.commandId = parts.commandId := by rw [hnew]; rfl
    have hkeys := inboxKeys_append hk (by rw [hnew]; rfl) hfresh
    obtain ⟨hrow, hwritten⟩ := runCommand_ok hkeys (by simp) h
    rw [hid] at hrow hwritten hfresh
    refine ⟨hrow, Or.inr ⟨?_, hwritten.of_append hid⟩⟩
    rintro ⟨r, hr, he, -⟩
    exact hfresh r hr he

/-- A recorded failure writes the command's own row, unless that is `APPLIED`. -/
theorem persistFailedCommand_ok {rt : Runtime} {command : List (PyStr × Json)} {error : PyError}
    {db db' : Db} {u : PUnit} (hk : InboxKeys db.inbox)
    (h : persistFailedCommand rt command error db = (.ok u, db')) :
    ∃ parts, commandParts rt command = .ok parts ∧
      (db' = db ∧ AppliedIn parts.commandId db.inbox ∨
        ¬ AppliedIn parts.commandId db.inbox ∧ { db' with inbox := db.inbox } = db ∧
          CommandWritten parts.commandId .failed db.inbox db'.inbox) := by
  unfold persistFailedCommand at h
  rw [Tx.bind_ok] at h
  obtain ⟨parts, t₁, h₁, h⟩ := h
  obtain ⟨hparts, rfl⟩ := Tx.lift_ok.mp h₁
  rw [Tx.bind_ok] at h
  obtain ⟨⟨text, digest⟩, t₂, h₂, h⟩ := h
  obtain ⟨-, rfl⟩ := Tx.lift_ok.mp h₂
  dsimp only at h
  rw [Tx.bind_ok] at h
  obtain ⟨_, t₃, h₃, h⟩ := h
  obtain ⟨-, rfl⟩ := Tx.raiseIf_ok.mp h₃
  rw [Tx.bind_ok] at h
  obtain ⟨seen, t₄, h₄, h⟩ := h
  obtain ⟨rfl, rfl⟩ := Tx.reads_ok.mp h₄
  -- A command that was applied is left alone, whatever failed after it.
  refine ⟨parts, hparts, ?_⟩
  cases hfound : db.command parts.commandId with
  | some found =>
    rw [hfound] at h
    obtain ⟨hmem, hid⟩ := lookup_some hfound
    dsimp only at h
    by_cases happlied : found.status = .applied
    · rw [if_pos happlied] at h
      obtain ⟨-, rfl⟩ := Tx.pure_ok.mp h
      exact Or.inl ⟨rfl, found, hmem, hid, happlied⟩
    · rw [if_neg happlied] at h
      rw [Tx.bind_ok] at h
      obtain ⟨_, t₅, h₅, h⟩ := h
      obtain ⟨-, rfl⟩ := Tx.raiseIf_ok.mp h₅
      obtain rfl := Tx.modify_ok.mp h
      refine Or.inr ⟨not_appliedIn hk hfound happlied, rfl, ?_⟩
      rw [← hid]
      exact commandWritten_changed
        (g := MasterInboxCommand.changed fun row => row.attempted.failedWith error) hk hmem
        (fun _ => rfl) (fun _ => rfl)
  | none =>
    rw [hfound] at h
    rw [Tx.bind_ok] at h
    obtain ⟨new, t₅, h₅, h⟩ := h
    obtain ⟨hnew, hfresh, rfl⟩ := insertCommand_ok h₅
    obtain ⟨-, rfl⟩ := Tx.pure_ok.mp h
    have hid : new.commandId = parts.commandId := by rw [hnew]; rfl
    refine Or.inr
        ⟨?_, rfl, inboxKeys_append hk (by rw [hnew]; rfl) hfresh, by simp [otherCommands, hid],
      new, by simp, hid, by rw [hnew]; rfl⟩
    rintro ⟨r, hr, he, -⟩
    exact hfresh r hr (he.trans hid.symm)

end SetuoraLite
