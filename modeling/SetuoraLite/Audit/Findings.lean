import Mathlib.Data.Finset.Card
import SetuoraLite.Stock.BatchMoves

/-!
# Audits and their findings

An audit is a batch whose items are the serials that were found. A free audit is compared
with all stock when it is submitted. An assigned one is for a product and a window of
time: what it expects was fixed when it was assigned, several batches may belong to it,
and its findings are computed again and again, when a batch is submitted, when the
deadline is extended, and when a report finds that the deadline has passed.

Findings are derived: `reconcileAuditAssignment` deletes what the assignment had and
writes it anew, with new ids and a new `created_at`.
-/

namespace SetuoraLite

open Lib

/-! ## Rows -/

/-- `AuditAssignmentItem`: a serial that an assignment expects. -/
structure AuditAssignmentItem where
  id : Nat
  assignmentId : Nat
  serialId : Nat
deriving DecidableEq

inductive FindingType
  | verified | missing | extra | pending
deriving DecidableEq

structure AuditFinding where
  id : Nat
  batchId : Nat
  serialId : Nat
  serialNumber : PyStr
  productCode : Option PyStr
  productName : Option PyStr
  findingType : FindingType
  expectedStatus : SerialStatus
  scannedStatus : Option SerialStatus
  createdAt : Instant
deriving DecidableEq

/-- The database with what audits add to it: the `created_at` of batches and of their items,
what assignments expect, and the findings. -/
structure AuditDb where
  db : Db
  batchTimes : Nat → Instant
  itemTimes : Nat → Instant
  expected : List AuditAssignmentItem
  findings : List AuditFinding

/-- A new installation. -/
def AuditDb.empty : AuditDb := ⟨Db.empty, fun _ => 0, fun _ => 0, [], []⟩

/-- `assignment.batches`. -/
def Db.auditBatches (db : Db) (assignmentId : Nat) : List Batch :=
  db.batches.filter fun b => b.auditAssignmentId = some assignmentId

namespace AuditDb

variable (s : AuditDb)

/-- The findings of an assignment: those of its batches. -/
def findingsOf (assignmentId : Nat) : List AuditFinding :=
  s.findings.filter fun f => f.batchId ∈ (s.db.auditBatches assignmentId).map (·.id)

/-- `assignment.expected_items`, as the keys of a dict by serial. -/
def expectedIds (assignmentId : Nat) : List Nat :=
  ((s.expected.filter fun i => i.assignmentId = assignmentId).map (·.serialId)).dedup

/-- The item was scanned for the assignment, within its window. -/
def inWindow (a : AuditAssignment) (i : BatchItem) : Bool :=
  i.batchId ∈ (s.db.auditBatches a.id).map (·.id) &&
    decide (a.startsAt ≤ s.itemTimes i.id ∧ s.itemTimes i.id ≤ a.endsAt)

/-- The serials scanned for an assignment within its window. -/
def scannedIds (a : AuditAssignment) : List Nat :=
  ((s.db.batchItems.filter (s.inWindow a)).map (·.serialId)).dedup

/-! ## Progress -/

def verifiedIds (a : AuditAssignment) : Finset Nat :=
  (s.expectedIds a.id).toFinset ∩ (s.scannedIds a).toFinset

def pendingIds (a : AuditAssignment) : Finset Nat :=
  (s.expectedIds a.id).toFinset \ (s.scannedIds a).toFinset

def extraIds (a : AuditAssignment) : Finset Nat :=
  (s.scannedIds a).toFinset \ (s.expectedIds a.id).toFinset

end AuditDb

/-- What `audit_assignment_state` returns. -/
inductive AssignmentState
  | complete | upcoming | active | expired
deriving DecidableEq

/-- `audit_assignment_state`. -/
def auditAssignmentState (a : AuditAssignment) (now : Instant) (verified expected : Nat) :
    AssignmentState :=
  if expected ≠ 0 ∧ expected ≤ verified then .complete
  else if now < a.startsAt then .upcoming
  else if now ≤ a.endsAt then .active
  else .expired

/-- What `assignment_progress` returns. -/
structure AssignmentProgress where
  expected : Nat
  verified : Nat
  pending : Nat
  extra : Nat
  state : AssignmentState
deriving DecidableEq

/-- `assignment_progress`. -/
def assignmentProgress (s : AuditDb) (a : AuditAssignment) (now : Instant) : AssignmentProgress :=
  let expected := (s.expectedIds a.id).toFinset.card
  let verified := (s.verifiedIds a).card
  { expected := expected, verified := verified, pending := (s.pendingIds a).card,
    extra := (s.extraIds a).card, state := auditAssignmentState a now verified expected }

/-! ## Writing findings -/

/-- What a finding says of a serial. -/
structure AuditVerdict where
  serialId : Nat
  findingType : FindingType
  scannedStatus : Option SerialStatus

/-- `make_finding`; the serial and its product are there (foreign keys). -/
def makeFinding (db : Db) (batchId : Nat) (stamp : Instant) (v : AuditVerdict) (id : Nat) :
    AuditFinding :=
  let serial := db.serial v.serialId
  let product := serial.bind fun s => db.product s.productId
  { id := id, batchId := batchId, serialId := v.serialId,
    serialNumber := (serial.map (·.serialNumber)).getD [],
    productCode := product.map (·.productCode), productName := product.map (·.productName),
    findingType := v.findingType, expectedStatus := .inStock, scannedStatus := v.scannedStatus,
    createdAt := stamp }

/-- The findings on some verdicts, as their flush numbers them. -/
def makeFindings (db : Db) (batchId : Nat) (stamp : Instant) : Nat → List AuditVerdict →
    List AuditFinding
  | _, [] => []
  | id, v :: verdicts =>
    makeFinding db batchId stamp v id :: makeFindings db batchId stamp (id + 1) verdicts

/-- What a reconciliation returns. -/
structure AuditSummary where
  verified : Nat
  missing : Nat
  extra : Nat
  pending : Nat
  total : Nat
deriving DecidableEq

/-- `_summary`. -/
def auditSummary (findings : List AuditFinding) : AuditSummary where
  verified := findings.countP fun f => f.findingType = .verified
  missing := findings.countP fun f => f.findingType = .missing
  extra := findings.countP fun f => f.findingType = .extra
  pending := findings.countP fun f => f.findingType = .pending
  total := findings.length

/-- The status of a serial that was scanned. -/
def Db.statusOf (db : Db) (serialId : Nat) : Option SerialStatus :=
  (db.serial serialId).map (·.status)

/-- The verdicts on an assignment. -/
def assignmentVerdicts (s : AuditDb) (a : AuditAssignment) (now : Instant) : List AuditVerdict :=
  let scanned := s.scannedIds a
  let expected := s.expectedIds a.id
  (expected.map fun id =>
    if id ∈ scanned then ⟨id, .verified, s.db.statusOf id⟩
    else ⟨id, if a.endsAt < now then .missing else .pending, none⟩) ++
  (scanned.filter fun id => id ∉ expected).map fun id => ⟨id, .extra, s.db.statusOf id⟩

/-- `reconcile_audit_assignment`; the findings are filed under one of its batches. -/
def reconcileAuditAssignment (s : AuditDb) (a : AuditAssignment) (anchor : Batch)
    (now stamp : Instant) :
    AuditSummary × AuditDb :=
  let kept := s.findings.filter fun f => f.batchId ∉ (s.db.auditBatches a.id).map (·.id)
  let findings :=
    makeFindings s.db anchor.id stamp (nextId (·.id) kept) (assignmentVerdicts s a now)
  (auditSummary findings, { s with findings := kept ++ findings })

/-- The verdicts on a free audit: everything in stock is expected. -/
def freeVerdicts (s : AuditDb) (batch : Batch) : List AuditVerdict :=
  let scanned := (s.db.itemsOf batch.id).map (·.serialId)
  let expected := (s.db.serials.filter fun q => q.status = .inStock && q.active).map (·.id)
  (expected.map fun id =>
    if id ∈ scanned then ⟨id, .verified, s.db.statusOf id⟩ else ⟨id, .missing, none⟩) ++
  (scanned.filter fun id => id ∉ expected).map fun id => ⟨id, .extra, s.db.statusOf id⟩

/-- `reconcile_audit_batch`. -/
def reconcileAuditBatch (s : AuditDb) (batch : Batch) (now stamp : Instant) :
    AuditSummary × AuditDb :=
  if batch.batchType ≠ .audit then (⟨0, 0, 0, 0, 0⟩, s)
  else
    match batch.auditAssignmentId.bind fun id => lookup (·.id) id s.db.assignments with
    | some a => reconcileAuditAssignment s a batch now stamp
    | none =>
      let kept := s.findings.filter fun f => f.batchId ≠ batch.id
      let findings := makeFindings s.db batch.id stamp (nextId (·.id) kept) (freeVerdicts s batch)
      (auditSummary findings, { s with findings := kept ++ findings })

/-- `max(assignment.batches, key=lambda row: (row.created_at, row.id))`. -/
def AuditDb.latestBatch (s : AuditDb) (assignmentId : Nat) : Option Batch :=
  (s.db.auditBatches assignmentId).foldl (fun best b =>
    match best with
    | none => some b
    | some m =>
      if s.batchTimes m.id < s.batchTimes b.id ∨
        (s.batchTimes m.id = s.batchTimes b.id ∧ m.id < b.id)
      then some b else some m) none

/-! ## Deadlines -/

/-- `extend_audit_assignment_deadline`; what it refuses changes nothing. -/
def extendAuditAssignmentDeadline (s : AuditDb) (assignmentId : Nat) (endsAt now stamp : Instant) :
    AuditDb :=
  match lookup (·.id) assignmentId s.db.assignments with
  | none => s
  | some a =>
    if endsAt ≤ a.startsAt ∨ endsAt ≤ a.endsAt ∨ endsAt ≤ now then s
    else
      let extended := { a with endsAt := endsAt }
      let s : AuditDb := { s with db := { s.db with
        assignments := modifyRow (·.id) assignmentId (fun _ => extended) s.db.assignments } }
      match s.latestBatch assignmentId with
      | some latest => (reconcileAuditAssignment s extended latest now stamp).2
      | none => s

/-- The refresh of one assignment: only while something is pending, or nothing is stored. -/
def refreshAssignment (s : AuditDb) (a : AuditAssignment) (now stamp : Instant) : AuditDb :=
  match s.latestBatch a.id with
  | none => s
  | some latest =>
    if (s.findingsOf a.id).any (fun f => f.findingType = .pending) = true ∨
      s.findingsOf a.id = [] then
      (reconcileAuditAssignment s a latest now stamp).2
    else s

/-- `refresh_expired_audit_assignments`; it raises, and writes nothing, when one of the
assignments has no batch. -/
def refreshExpiredAuditAssignments (s : AuditDb) (now stamp : Instant) : AuditDb :=
  let expired := s.db.assignments.filter fun a => a.endsAt < now
  if expired.any (fun a => (s.latestBatch a.id).isNone) then s
  else expired.foldl (fun s a => refreshAssignment s a now stamp) s

/-! ## Missing stock -/

/-- Of two findings, the other one is newer. -/
def AuditFinding.newerThan (g f : AuditFinding) : Bool :=
  decide (f.createdAt < g.createdAt) || (decide (g.createdAt = f.createdAt) && decide (f.id < g.id))

/-- `current_missing_stock_findings_query`, without its order. -/
def currentMissingStockFindings (s : AuditDb) : List AuditFinding :=
  s.findings.filter fun f =>
    f.findingType = .missing &&
    (s.db.serial f.serialId).any (fun q => q.active && decide (q.status ∈ stockStatuses)) &&
    !s.findings.any fun g => g.serialId = f.serialId && g.newerThan f

/-! ## Assigning and opening -/

/-- The form of an assignment; whether the auditor is an active one is looked up with it. -/
structure AssignmentForm where
  productId : Nat
  auditor : User
  eligible : Bool
  startsAt : Instant
  endsAt : Instant
  notes : Option PyStr

/-- The form of an audit's batch. -/
def auditForm (productName : PyStr) (notes : Option PyStr) (assignmentId : Nat) : BatchForm where
  batchType := .audit
  partyName := some productName
  notes := notes
  reasonCode := none
  partyState := none
  partyGstRegistrationType := none
  partyGstName := none
  partyGstin := none
  gstTreatment := none
  gstCgstRate := none
  gstSgstRate := none
  gstIgstRate := none
  auditAssignmentId := some assignmentId

/-- The database afterwards; what is new in it was created at `stamp`. -/
def AuditDb.stored (s : AuditDb) (db : Db) (stamp : Instant) : AuditDb :=
  { s with
    db := db
    batchTimes := fun id => if id ∈ s.db.batches.map (·.id) then s.batchTimes id else stamp
    itemTimes := fun id => if id ∈ s.db.batchItems.map (·.id) then s.itemTimes id else stamp }

/-- The items of a new assignment, by serial number. -/
def expectedItems (assignmentId : Nat) :
    List AuditAssignmentItem → List Serial → List AuditAssignmentItem
  | items, [] => items
  | items, q :: serials =>
    expectedItems assignmentId (items ++ [⟨nextId (·.id) items, assignmentId, q.id⟩]) serials

/-- The transaction of `create_audit_assignment`: the assignment and its first batch. -/
def insertAssignment (form : AssignmentForm) (product : Product) (now : Instant) : Tx PUnit := do
  let db ← Tx.reads fun db => db
  let id := nextId (·.id) db.assignments
  Tx.modify fun db => { db with
    assignments :=
      db.assignments ++ [⟨id, form.productId, form.auditor.id, form.startsAt, form.endsAt⟩] }
  let row ← Tx.lift ((auditForm product.productName form.notes id).row form.auditor)
  insertBatch { row with batchNumber := nextBatchNumber .audit now db }

/-- `create_audit_assignment`, behind the route's look at the product; what it refuses changes
nothing. -/
def createAuditAssignment (s : AuditDb) (form : AssignmentForm) (now stamp : Instant) : AuditDb :=
  match s.db.product form.productId with
  | none => s
  | some product =>
    let serials := (s.db.serials.filter fun q => q.productId = product.id && q.active &&
      decide (q.status = .inStock)).insertionSort fun a b => strLe a.serialNumber b.serialNumber
    if product.active = false ∨ form.eligible = false ∨ form.endsAt ≤ form.startsAt ∨
      form.endsAt ≤ now ∨
        serials = [] then s
    else
      match Tx.atomically (insertAssignment form product now) s.db with
      | (.error _, _) => s
      | (.ok _, db) =>
        { s.stored db stamp with
          expected := expectedItems (nextId (·.id) s.db.assignments) s.expected serials }

/-- `create_batch_route` for an audit: the auditor's own assignment, within its window and
without a draft. -/
def openAudit (s : AuditDb) (assignmentId : Nat) (user : User) (notes : Option PyStr)
    (now stamp : Instant) : AuditDb :=
  match lookup (·.id) assignmentId s.db.assignments with
  | none => s
  | some a =>
    if a.auditorId ≠ user.id ∨ now < a.startsAt ∨ a.endsAt < now then s
    else if (s.db.auditBatches assignmentId).any (fun b => b.status = .draft) then s
    else
      let productName := ((s.db.product a.productId).map (·.productName)).getD []
      s.stored ((createBatch user (auditForm productName notes assignmentId) now).serve
        commitStock s.db).2
        stamp

/-! ## The machine -/

/-- What happens on a node with audits. -/
inductive AuditAction
  | stock (action : StockAction) (stamp : Instant)
  | assign (form : AssignmentForm) (now stamp : Instant)
  | open (assignmentId : Nat) (user : User) (notes : Option PyStr) (now stamp : Instant)
  | extend (assignmentId : Nat) (endsAt now stamp : Instant)
  | refresh (now stamp : Instant)

/-- An order opens a batch for an assignment only through `openAudit`. -/
def StockAction.allowed : StockAction → Bool
  | .order (.openBatch _ form _) => form.auditAssignmentId.isNone
  | _ => true

/-- The audit that the action has submitted, if any, and when. -/
def submittedAudit (db db' : Db) : StockAction → Option (Batch × Instant)
  | .order (.submit batchId actor) =>
    ((db.batch batchId).filter fun b => b.batchType = .audit && b.status = .draft &&
      (db'.batch batchId).any fun b' => b'.status ≠ .draft).map fun b => (b, actor.now)
  | _ => none

/-- A stock action; the submission of an audit reconciles it in the same transaction. -/
def stockedStep (rt : Runtime) (st : Settings) (s : AuditDb) (action : StockAction)
    (stamp : Instant) :
    AuditDb :=
  let db := stockStep rt st s.db action
  match submittedAudit s.db db action with
  | some (batch, now) => (reconcileAuditBatch (s.stored db stamp) batch now stamp).2
  | none => s.stored db stamp

/-- The runs of a node with audits. -/
def auditMachine (rt : Runtime) (st : Settings) : Machine AuditDb AuditAction := fun s a =>
  match a with
  | .stock action stamp => if action.allowed then some (stockedStep rt st s action stamp) else none
  | .assign form now stamp => some (createAuditAssignment s form now stamp)
  | .open assignmentId user notes now stamp => some (openAudit s assignmentId user notes now stamp)
  | .extend assignmentId endsAt now stamp =>
    some (extendAuditAssignmentDeadline s assignmentId endsAt now stamp)
  | .refresh now stamp => some (refreshExpiredAuditAssignments s now stamp)

end SetuoraLite
