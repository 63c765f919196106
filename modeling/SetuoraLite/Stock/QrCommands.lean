import SetuoraLite.Stock.Keys

/-!
# What Master's QR commands write

A command that was accepted ran its handler once, between two updates of its inbox row,
or it had been applied before and did nothing (`applyMasterCommand_ran`). An allocation
appends its serials; a replacement appends one serial and retires another, in place.
-/

namespace SetuoraLite

open Lib

variable {rt : Runtime} {st : Settings} {now : Instant} {uuid : PyStr} {db db' : Db}

/-! ## The handler -/

/-- The handler that ran, by the type of the command. -/
inductive HandlerRan (rt : Runtime) (st : Settings) (now : Instant) (uuid : PyStr)
    (parts : CommandParts) (db db' : Db) : Prop
  | available (htype : parts.commandType = py "TRANSFER_AVAILABLE" ∨
    parts.commandType = py "TRANSFER_INCOMING")
      (h : applyTransferAvailableCommand rt st now parts.payload db = (.ok ⟨⟩, db'))
  | receipt (htype : parts.commandType = py "TRANSFER_RECEIPT" ∨
        parts.commandType = py "TRANSFER_RECEIPT_STATUS")
      (h : applyTransferReceiptCommand rt now parts.payload db = (.ok ⟨⟩, db'))
  | reviewed (htype : parts.commandType = py "RECEIPT_REVIEWED")
      (h : applyReceiptReviewCommand rt parts.payload db = (.ok ⟨⟩, db'))
  | allocated (htype : parts.commandType = py "QR_ALLOCATED")
      (h : applyQrAllocatedCommand rt st now parts.payload db = (.ok ⟨⟩, db'))
  | replaced (htype : parts.commandType = py "QR_REPLACE")
      (h : applyQrReplaceCommand st now uuid parts.payload parts.commandId db = (.ok ⟨⟩, db'))
  | upserted (htype : parts.commandType = py "PRODUCT_UPSERT")
      (h : applyProductUpsertCommand rt st parts.payload db = (.ok ⟨⟩, db'))

/-- A handler that succeeds is one of the six. -/
theorem runHandler_ok {parts : CommandParts}
    (h : runHandler rt st now uuid parts db = (.ok ⟨⟩, db')) :
    HandlerRan rt st now uuid parts db db' := by
  unfold runHandler at h
  by_cases havailable : parts.commandType = py "TRANSFER_AVAILABLE" ∨
      parts.commandType = py "TRANSFER_INCOMING"
  · rw [if_pos havailable] at h
    exact .available havailable h
  rw [if_neg havailable] at h
  by_cases hreceipt : parts.commandType = py "TRANSFER_RECEIPT" ∨
      parts.commandType = py "TRANSFER_RECEIPT_STATUS"
  · rw [if_pos hreceipt] at h
    exact .receipt hreceipt h
  rw [if_neg hreceipt] at h
  by_cases hreviewed : parts.commandType = py "RECEIPT_REVIEWED"
  · rw [if_pos hreviewed] at h
    exact .reviewed hreviewed h
  rw [if_neg hreviewed] at h
  by_cases hallocated : parts.commandType = py "QR_ALLOCATED"
  · rw [if_pos hallocated] at h
    exact .allocated hallocated h
  rw [if_neg hallocated] at h
  by_cases hreplaced : parts.commandType = py "QR_REPLACE"
  · rw [if_pos hreplaced] at h
    exact .replaced hreplaced h
  rw [if_neg hreplaced] at h
  by_cases hupserted : parts.commandType = py "PRODUCT_UPSERT"
  · rw [if_pos hupserted] at h
    exact .upserted hupserted h
  · rw [if_neg hupserted] at h
    exact absurd h Tx.raise_ok

/-- What a handler does, between two updates of the inbox. -/
def Handled (rt : Runtime) (st : Settings) (now : Instant) (uuid : PyStr) (parts : CommandParts)
    (db db' : Db) : Prop :=
  ∃ before after db₁, runHandler rt st now uuid parts { db with inbox := before } = (.ok ⟨⟩, db₁) ∧
    db' = { db₁ with inbox := after }

/-- A command that is handled was run by its handler. -/
private theorem runCommand_handled {parts : CommandParts} {row r : MasterInboxCommand}
    (h : runCommand rt st now uuid parts row db = (.ok r, db')) :
    Handled rt st now uuid parts db db' := by
  obtain ⟨_, t₁, h₁, h⟩ := Tx.bind_ok.mp h
  obtain rfl := Tx.modify_ok.mp h₁
  obtain ⟨_, t₂, h₂, h⟩ := Tx.bind_ok.mp h
  rw [Tx.onError_ok] at h₂
  obtain ⟨_, t₃, h₃, h⟩ := Tx.bind_ok.mp h
  obtain rfl := Tx.modify_ok.mp h₃
  obtain ⟨-, rfl⟩ := Tx.pure_ok.mp h
  exact ⟨_, _, t₂, h₂, rfl⟩

/-- An accepted command did nothing, or its handler ran. -/
theorem applyMasterCommand_ran {command : List (PyStr × Json)} {row : MasterInboxCommand}
    (h : applyMasterCommand rt st now uuid command db = (.ok row, db')) :
    ∃ parts, commandParts rt command = .ok parts ∧
      (db' = db ∨ Handled rt st now uuid parts db db') := by
  obtain ⟨parts, t₁, h₁, h⟩ := Tx.bind_ok.mp h
  obtain ⟨hparts, rfl⟩ := Tx.lift_ok.mp h₁
  obtain ⟨_, t₂, h₂, h⟩ := Tx.bind_ok.mp h
  obtain ⟨-, rfl⟩ := Tx.raiseIf_ok.mp h₂
  obtain ⟨⟨text, digest⟩, t₃, h₃, h⟩ := Tx.bind_ok.mp h
  obtain ⟨-, rfl⟩ := Tx.lift_ok.mp h₃
  obtain ⟨_, t₄, h₄, h⟩ := Tx.bind_ok.mp h
  obtain ⟨-, rfl⟩ := Tx.raiseIf_ok.mp h₄
  obtain ⟨seen, t₅, h₅, h⟩ := Tx.bind_ok.mp h
  obtain ⟨rfl, rfl⟩ := Tx.reads_ok.mp h₅
  refine ⟨parts, hparts, ?_⟩
  cases hfound : db.command parts.commandId with
  | some found =>
    rw [hfound] at h
    obtain ⟨_, t₆, h₆, h⟩ := Tx.bind_ok.mp h
    obtain ⟨-, rfl⟩ := Tx.raiseIf_ok.mp h₆
    by_cases happlied : found.status = .applied
    · rw [if_pos happlied] at h
      exact Or.inl (Tx.pure_ok.mp h).2.symm
    · rw [if_neg happlied] at h
      exact Or.inr (runCommand_handled h)
  | none =>
    rw [hfound] at h
    obtain ⟨new, t₆, h₆, h⟩ := Tx.bind_ok.mp h
    obtain ⟨-, -, rfl⟩ := insertCommand_ok h₆
    obtain ⟨before, after, db₁, hran, rfl⟩ := runCommand_handled h
    exact Or.inr ⟨before, after, db₁, hran, rfl⟩

/-! ## Allocation -/

/-- New serials under the numbers of a list: active, and in nobody's place. -/
structure Allocated (numbers : List PyStr) (new : List Serial) : Prop where
  numbers : new.map (·.serialNumber) = numbers
  active : ∀ s ∈ new, s.active = true
  unreplaced : ∀ s ∈ new, s.replacedById = none

private theorem allocatedProduct_serials (rt : Runtime) (a : AllocatedProduct) :
    Tx.Keeps (fun db : Db => db.serials) (allocatedProduct rt a) := by
  refine .bind (.reads _) fun db => ?_
  split
  · exact insertProduct_keeps (fun _ _ => rfl) _
  · exact .bind (.lift _) fun _ => .bind (updateProduct_keeps (fun _ _ => rfl) _) fun _ => .pure _
  · exact .raise _

/-- An allocation adds exactly the serials it lists. -/
theorem applyQrAllocatedCommand_ok {payload : List (PyStr × Json)} {u : PUnit}
    (h : applyQrAllocatedCommand rt st now payload db = (.ok u, db')) :
    ∃ listed new, parseAllocatedSerials rt payload = .ok listed ∧
      Allocated (listed.map (·.serialNumber)) new ∧ db'.serials = db.serials ++ new := by
  obtain ⟨_, t₁, h₁, h⟩ := Tx.bind_ok.mp h
  obtain ⟨-, rfl⟩ := Tx.lift_ok.mp h₁
  obtain ⟨product, t₂, h₂, h⟩ := Tx.bind_ok.mp h
  obtain ⟨-, rfl⟩ := Tx.lift_ok.mp h₂
  obtain ⟨listed, t₃, h₃, h⟩ := Tx.bind_ok.mp h
  obtain ⟨hlisted, rfl⟩ := Tx.lift_ok.mp h₃
  obtain ⟨seen, t₄, h₄, h⟩ := Tx.bind_ok.mp h
  obtain ⟨rfl, rfl⟩ := Tx.reads_ok.mp h₄
  obtain ⟨_, t₅, h₅, h⟩ := Tx.bind_ok.mp h
  obtain ⟨-, rfl⟩ := Tx.lift_ok.mp h₅
  obtain ⟨stored, t₆, h₆, h⟩ := Tx.bind_ok.mp h
  have hserials : t₆.serials = db.serials := by
    have := allocatedProduct_serials rt product db
    rwa [h₆] at this
  -- After some rounds the serials of those rounds are stored.
  obtain ⟨new, hnew, hend⟩ := Tx.each_prefix
    (I := fun done t => ∃ new, Allocated (done.map (·.serialNumber)) new ∧
      t.serials = db.serials ++ new)
    (fun done parsed rest _ t t' _ hI hround => by
      obtain ⟨new, hnew, ht⟩ := hI
      obtain ⟨s, t'', hinsert, hround⟩ := Tx.bind_ok.mp hround
      obtain ⟨rfl, -, rfl⟩ := insertSerial_ok hinsert
      obtain ⟨-, rfl⟩ := Tx.pure_ok.mp hround
      refine ⟨new ++ [parsed.row stored.id now (nextId (·.id) t.serials)], ⟨?_, ?_, ?_⟩, ?_⟩
      · rw [List.map_append, List.map_append, hnew.numbers]
        rfl
      · intro s hs
        rcases List.mem_append.mp hs with hs | hs
        · exact hnew.active s hs
        · rw [List.mem_singleton.mp hs]
          rfl
      · intro s hs
        rcases List.mem_append.mp hs with hs | hs
        · exact hnew.unreplaced s hs
        · rw [List.mem_singleton.mp hs]
          rfl
      · show t.serials ++ [_] = _
        rw [ht, List.append_assoc])
    ⟨[], ⟨rfl, fun _ hs => absurd hs List.not_mem_nil, fun _ hs => absurd hs List.not_mem_nil⟩,
      by rw [hserials, List.append_nil]⟩ h
  exact ⟨listed, new, hlisted, hnew, hend⟩

/-! ## Replacement -/

/-- The serial as a replacement leaves it. -/
def Serial.retiredBy (replacementId : Nat) (s : Serial) : Serial :=
  { s with status := .invalid, active := false, replacedById := some replacementId }

/-- The stored serial that a replacement retires: it is active, under the old number and
in the expected status, and no serial has the new number. -/
structure Retires (db : Db) (r : ReplaceRequest) (old : Serial) : Prop where
  mem : old ∈ db.serials
  number : old.serialNumber = r.oldNumber
  active : old.active = true
  status : old.status = r.expectedStatus
  unused : ∀ s ∈ db.serials, s.serialNumber ≠ r.newNumber

private theorem replaceable_ok {r : ReplaceRequest} {old : Serial}
    (h : replaceable db r = .ok old) :
    Retires db r old := by
  unfold replaceable at h
  split at h
  next stored hfound =>
    by_cases hstate : stored.active = true ∧ stored.status = r.expectedStatus
    · rw [if_pos hstate] at h
      cases hnew : db.serialNumbered r.newNumber with
      | some s => rw [hnew] at h; cases h
      | none =>
        rw [hnew] at h
        obtain rfl := Except.ok.inj h
        obtain ⟨hmem, hnumber⟩ := lookup_some hfound
        exact ⟨hmem, hnumber, hstate.1, hstate.2, lookup_none.mp hnew⟩
    · rw [if_neg hstate] at h
      cases h
  next => cases h

/-- A replacement retires one serial and adds one in its place. -/
theorem applyQrReplaceCommand_ok {payload : List (PyStr × Json)} {commandId : PyStr} {u : PUnit}
    (h : applyQrReplaceCommand st now uuid payload commandId db = (.ok u, db')) :
    ∃ request old status, parseReplace payload = .ok request ∧ Retires db request old ∧
      db'.serials = modifyRow (·.id) old.id
        (Serial.changed fun _ => old.retiredBy (nextId (·.id) db.serials))
        (db.serials ++
            [replacementRow old request.newNumber status now (nextId (·.id) db.serials)]) := by
  obtain ⟨_, t₁, h₁, h⟩ := Tx.bind_ok.mp h
  obtain ⟨-, rfl⟩ := Tx.lift_ok.mp h₁
  obtain ⟨request, t₂, h₂, h⟩ := Tx.bind_ok.mp h
  obtain ⟨hrequest, rfl⟩ := Tx.lift_ok.mp h₂
  obtain ⟨seen, t₃, h₃, h⟩ := Tx.bind_ok.mp h
  obtain ⟨rfl, rfl⟩ := Tx.reads_ok.mp h₃
  obtain ⟨old, t₄, h₄, h⟩ := Tx.bind_ok.mp h
  obtain ⟨hold, rfl⟩ := Tx.lift_ok.mp h₄
  obtain ⟨replacement, t₅, h₅, h⟩ := Tx.bind_ok.mp h
  obtain ⟨rfl, -, rfl⟩ := insertSerial_ok h₅
  obtain ⟨_, t₆, h₆, h⟩ := Tx.bind_ok.mp h
  obtain rfl := Tx.modify_ok.mp h₆
  obtain ⟨seen, t₇, h₇, h⟩ := Tx.bind_ok.mp h
  obtain ⟨rfl, rfl⟩ := Tx.reads_ok.mp h₇
  obtain ⟨retiredItem, t₈, h₈, h⟩ := Tx.bind_ok.mp h
  obtain ⟨-, rfl⟩ := Tx.lift_ok.mp h₈
  obtain ⟨replacementItem, t₉, h₉, h⟩ := Tx.bind_ok.mp h
  obtain ⟨-, rfl⟩ := Tx.lift_ok.mp h₉
  obtain ⟨event, t₁₀, h₁₀, h⟩ := Tx.bind_ok.mp h
  obtain ⟨-, rfl⟩ := Tx.pure_ok.mp h
  exact ⟨request, old, _, hrequest,
    replaceable_ok hold, by rw [(enqueueOutboxEvent_ok h₁₀).appended]; rfl⟩

end SetuoraLite
