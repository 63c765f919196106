import SetuoraLite.Sync.Outbox

/-!
# Sessions

How a database session writes back an object it loaded earlier. The session keeps
the object as loaded; at commit it writes the columns whose new value differs from
the loaded one, and only those (`column`). A row that changed in between therefore
keeps its own value in every column the session did not touch, and the session's
value wins in the others. Nothing compares the row with what was loaded.

An update that finds no row raises, a text that has no UTF-8 encoding raises, and
the outbox refuses a new payload.
-/

namespace SetuoraLite

open Lib

/-- What an update leaves in one column. -/
def column {α : Type} [DecidableEq α] (loaded new stored : α) : α :=
  if new = loaded then stored else new

/-- A column that was not changed keeps what is stored. -/
theorem column_same {α : Type} [DecidableEq α] (a stored : α) : column a a stored = stored :=
  if_pos rfl

/-- The column holds what it held or what the session wrote. -/
theorem column_cases {α : Type} [DecidableEq α] (loaded new stored : α) :
    (new = loaded ∧ column loaded new stored = stored) ∨
      (new ≠ loaded ∧ column loaded new stored = new) := by
  unfold column
  split
  next h => exact Or.inl ⟨h, rfl⟩
  next h => exact Or.inr ⟨h, rfl⟩

/-- A nullable text column can be stored. -/
def encodableText (s : Option PyStr) : Bool := s.all fun t => (encodeUtf8 t).isSome

/-- `StaleDataError`: the row to update is gone. -/
def staleData : PyError := ⟨.other, py "UPDATE statement on table expected to update 1 row(s)"⟩

/-- The row after the update of an outbox event. -/
def mergedEvent (loaded new stored : MasterOutboxEvent) : MasterOutboxEvent :=
  { stored with
    payloadJson := column loaded.payloadJson new.payloadJson stored.payloadJson
    payloadSha256 := column loaded.payloadSha256 new.payloadSha256 stored.payloadSha256
    status := column loaded.status new.status stored.status
    attempts := column loaded.attempts new.attempts stored.attempts
    nextAttemptAt := column loaded.nextAttemptAt new.nextAttemptAt stored.nextAttemptAt
    lastError := column loaded.lastError new.lastError stored.lastError
    sendingAt := column loaded.sendingAt new.sendingAt stored.sendingAt
    sentAt := column loaded.sentAt new.sentAt stored.sentAt }

/-- Write back an outbox event. -/
def flushEvent (loaded new : MasterOutboxEvent) : Tx PUnit :=
  if new = loaded then pure ⟨⟩
  else do
    Tx.raiseIf (payloadMutated loaded new = true)
      ⟨.value, py "Master outbox payloads are immutable after creation."⟩
    Tx.raiseIf (encodableText new.lastError = false) .unicodeEncode
    let db ← Tx.reads fun db => db
    Tx.raiseIf (db.event loaded.id = none) staleData
    Tx.modify fun db =>
      { db with outbox := modifyRow (·.id) loaded.id (mergedEvent loaded new) db.outbox }

/-- The row after the update of a batch, in the columns that the sync code writes. -/
def mergedBatch (loaded new stored : Batch) : Batch :=
  { stored with
    status := column loaded.status new.status stored.status
    lastError := column loaded.lastError new.lastError stored.lastError
    syncedAt := column loaded.syncedAt new.syncedAt stored.syncedAt }

/-- Write back a batch. -/
def flushBatch (loaded new : Batch) : Tx PUnit :=
  if new = loaded then pure ⟨⟩
  else do
    Tx.raiseIf (encodableText new.lastError = false) .unicodeEncode
    let db ← Tx.reads fun db => db
    Tx.raiseIf (db.batch loaded.id = none) staleData
    Tx.modify fun db =>
      { db with batches := modifyRow (·.id) loaded.id (mergedBatch loaded new) db.batches }

/-- The row after the update of a receipt, in the column that the sync code writes. -/
def mergedReceipt (loaded new stored : Receipt) : Receipt :=
  { stored with syncedAt := column loaded.syncedAt new.syncedAt stored.syncedAt }

/-- Write back a receipt. -/
def flushReceipt (loaded new : Receipt) : Tx PUnit :=
  if new = loaded then pure ⟨⟩
  else do
    let db ← Tx.reads fun db => db
    Tx.raiseIf (lookup (·.id) loaded.id db.receipts = none) staleData
    Tx.modify fun db =>
      { db with receipts := modifyRow (·.id) loaded.id (mergedReceipt loaded new) db.receipts }

/-! ## What a write-back does -/

/-- The merge of an unchanged object changes nothing. -/
theorem mergedEvent_same (e stored : MasterOutboxEvent) : mergedEvent e e stored = stored := by
  simp only [mergedEvent, column_same]

/-- A batch that was not changed keeps what is stored. -/
theorem mergedBatch_same (b stored : Batch) : mergedBatch b b stored = stored := by
  simp only [mergedBatch, column_same]

theorem mergedReceipt_same (r stored : Receipt) : mergedReceipt r r stored = stored := by
  simp only [mergedReceipt, column_same]

private theorem modifyRow_id {ρ : Type} {key : ρ → Nat} {k : Nat} {g : ρ → ρ} (rows : List ρ)
    (h : ∀ r, g r = r) : modifyRow key k g rows = rows := by
  unfold modifyRow
  rw [List.map_congr_left (g := id)]
  · exact List.map_id rows
  · intro r _
    split
    · exact h r
    · rfl

/-- A successful write-back merges the object into its row. -/
theorem flushEvent_ok {loaded new : MasterOutboxEvent} {db db' : Db} {u : PUnit}
    (h : flushEvent loaded new db = (.ok u, db')) :
    db' = { db with outbox := modifyRow (·.id) loaded.id (mergedEvent loaded new) db.outbox } := by
  unfold flushEvent at h
  split at h
  next he =>
    subst he
    obtain ⟨-, rfl⟩ := Tx.pure_ok.mp h
    rw [modifyRow_id db.outbox (mergedEvent_same new)]
  next he =>
    rw [Tx.bind_ok] at h
    obtain ⟨_, t₁, h₁, h⟩ := h
    obtain ⟨-, rfl⟩ := Tx.raiseIf_ok.mp h₁
    rw [Tx.bind_ok] at h
    obtain ⟨_, t₂, h₂, h⟩ := h
    obtain ⟨-, rfl⟩ := Tx.raiseIf_ok.mp h₂
    rw [Tx.bind_ok] at h
    obtain ⟨_, t₃, h₃, h⟩ := h
    obtain ⟨-, rfl⟩ := Tx.reads_ok.mp h₃
    rw [Tx.bind_ok] at h
    obtain ⟨_, t₄, h₄, h⟩ := h
    obtain ⟨-, rfl⟩ := Tx.raiseIf_ok.mp h₄
    exact (Tx.modify_ok.mp h).symm

theorem flushBatch_ok {loaded new : Batch} {db db' : Db} {u : PUnit}
    (h : flushBatch loaded new db = (.ok u, db')) :
    db' = { db with
      batches := modifyRow (·.id) loaded.id (mergedBatch loaded new) db.batches } := by
  unfold flushBatch at h
  split at h
  next he =>
    subst he
    obtain ⟨-, rfl⟩ := Tx.pure_ok.mp h
    rw [modifyRow_id db.batches (mergedBatch_same new)]
  next he =>
    rw [Tx.bind_ok] at h
    obtain ⟨_, t₁, h₁, h⟩ := h
    obtain ⟨-, rfl⟩ := Tx.raiseIf_ok.mp h₁
    rw [Tx.bind_ok] at h
    obtain ⟨_, t₂, h₂, h⟩ := h
    obtain ⟨-, rfl⟩ := Tx.reads_ok.mp h₂
    rw [Tx.bind_ok] at h
    obtain ⟨_, t₃, h₃, h⟩ := h
    obtain ⟨-, rfl⟩ := Tx.raiseIf_ok.mp h₃
    exact (Tx.modify_ok.mp h).symm

theorem flushReceipt_ok {loaded new : Receipt} {db db' : Db} {u : PUnit}
    (h : flushReceipt loaded new db = (.ok u, db')) :
    db' = { db with
      receipts := modifyRow (·.id) loaded.id (mergedReceipt loaded new) db.receipts } := by
  unfold flushReceipt at h
  split at h
  next he =>
    subst he
    obtain ⟨-, rfl⟩ := Tx.pure_ok.mp h
    rw [modifyRow_id db.receipts (mergedReceipt_same new)]
  next he =>
    rw [Tx.bind_ok] at h
    obtain ⟨_, t₁, h₁, h⟩ := h
    obtain ⟨-, rfl⟩ := Tx.reads_ok.mp h₁
    rw [Tx.bind_ok] at h
    obtain ⟨_, t₂, h₂, h⟩ := h
    obtain ⟨-, rfl⟩ := Tx.raiseIf_ok.mp h₂
    exact (Tx.modify_ok.mp h).symm

end SetuoraLite
