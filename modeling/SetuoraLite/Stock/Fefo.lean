import Mathlib.Data.List.Sort
import SetuoraLite.Stock.Requests

/-!
# First expiry, first out

Which serials a batch may take, and in which order: `fefo_candidate_serials`, the
query behind the automatic pick, the Excel import and the check of a manual scan. A
serial that is an item of any draft batch is not a candidate.
-/

namespace SetuoraLite

open Lib

/-- `STOCK_STATUSES`. -/
def stockStatuses : List SerialStatus := [.inStock, .returned]

/-- `FEFO_BATCH_TYPES`. -/
def fefoBatchTypes : List BatchType := [.sale, .issue, .purchaseReturn]

/-- `fefo_available_statuses`. -/
def fefoAvailableStatuses (batchType : BatchType) : List SerialStatus :=
  if batchType = .issue then [.inStock]
  else if batchType ∈ fefoBatchTypes then stockStatuses
  else []

/-- The serial is an item of a draft batch. -/
def Db.inDraftBatch (db : Db) (serialId : Nat) : Bool :=
  db.batchItems.any fun i => i.serialId = serialId &&
    db.batches.any fun b => b.id = i.batchId && b.status = .draft

/-- `(expiry_date is None, expiry_date)`, compared. -/
def expiryBefore (a b : Option Date) : Bool :=
  match a, b with
  | some a, some b => a.before b
  | some _, none => true
  | none, _ => false

/-- `ORDER BY expiry_date IS NULL, expiry_date, created_at, id`. -/
def fefoOrder (a b : Serial) : Prop :=
  expiryBefore a.expiryDate b.expiryDate = true ∨
    (expiryBefore b.expiryDate a.expiryDate = false ∧
      (a.createdAt < b.createdAt ∨ (a.createdAt = b.createdAt ∧ a.id ≤ b.id)))

instance (a b : Serial) : Decidable (fefoOrder a b) :=
  inferInstanceAs (Decidable (_ ∨ (_ ∧ (_ ∨ (_ ∧ _)))))

/-- What the candidate query selects. -/
def isFefoCandidate (db : Db) (productId : Nat) (statuses : List SerialStatus)
    (s : Serial) : Bool :=
  s.active && s.productId = productId && s.status ∈ statuses && !db.inDraftBatch s.id

/-- `statuses or STOCK_STATUSES`. -/
def availableStatuses (statuses : List SerialStatus) : List SerialStatus :=
  if statuses = [] then stockStatuses else statuses

/-- `fefo_candidate_serials`. -/
def fefoCandidateSerials (db : Db) (productId quantity : Nat) (statuses : List SerialStatus) :
    List Serial :=
  ((db.serials.filter (isFefoCandidate db productId (availableStatuses statuses))).insertionSort
    fefoOrder).take quantity

/-- A month's name in `strftime("%b")`. -/
def monthAbbreviation (month : Nat) : PyStr :=
  [py "Jan", py "Feb", py "Mar", py "Apr", py "May", py "Jun", py "Jul", py "Aug",
    py "Sep", py "Oct",
    py "Nov", py "Dec"].getD (month - 1) []

/-- `strftime("%d %b %Y")`. -/
def shortDate (d : Date) : PyStr :=
  padded 2 d.day ++ py " " ++ monthAbbreviation d.month ++ py " " ++ decDigits d.year

/-- `validate_fefo_scan`, on the first candidate. -/
def fefoError (earliest : Option Serial) (serial : Serial) : Option PyStr :=
  match earliest with
  | none => none
  | some earliest =>
    if earliest.id = serial.id then none
    -- Only an earlier expiry blocks the scan.
    else if expiryBefore earliest.expiryDate serial.expiryDate then
      some (py "FEFO requires " ++ earliest.serialNumber ++ py " first; it expires on " ++
        (earliest.expiryDate.elim (py "no expiry date") shortDate))
    else none

/-- `validate_fefo_scan`. -/
def validateFefoScan (batch : Batch) (serial : Serial) : StockRequest (Option PyStr) :=
  let statuses := fefoAvailableStatuses batch.batchType
  if batch.batchType ∉ fefoBatchTypes ∨ serial.status ∉ statuses then pure none
  else do
    let candidates ← Request.reads fun db => fefoCandidateSerials db serial.productId 1 statuses
    pure (fefoError candidates.head? serial)

/-! ## Candidates -/

/-- A batch that picks has statuses of its own. -/
theorem availableStatuses_fefo {batchType : BatchType} (h : batchType ∈ fefoBatchTypes) :
    availableStatuses (fefoAvailableStatuses batchType) = fefoAvailableStatuses batchType := by
  unfold availableStatuses fefoAvailableStatuses
  by_cases hissue : batchType = .issue
  · rw [if_pos hissue, if_neg (by decide)]
  · rw [if_neg hissue, if_pos h, if_neg (by decide)]

variable {db : Db} {productId quantity : Nat} {statuses : List SerialStatus}

theorem mem_fefoCandidateSerials {s : Serial}
    (h : s ∈ fefoCandidateSerials db productId quantity statuses) :
    s ∈ db.serials ∧ isFefoCandidate db productId (availableStatuses statuses) s = true := by
  have hsorted := List.mem_of_mem_take h
  rw [List.mem_insertionSort] at hsorted
  exact List.mem_filter.mp hsorted

/-- The candidates are different serials. -/
theorem fefoCandidateSerials_nodup (hids : (db.serials.map (·.id)).Nodup) :
    ((fefoCandidateSerials db productId quantity statuses).map (·.id)).Nodup := by
  set candidates := db.serials.filter (isFefoCandidate db productId (availableStatuses statuses))
  have hperm := candidates.perm_insertionSort fefoOrder
  have hfilter : (candidates.map (·.id)).Nodup := hids.sublist (List.filter_sublist.map _)
  have hsorted := (hperm.map (·.id)).nodup_iff.mpr hfilter
  exact hsorted.sublist ((List.take_sublist _ _).map _)

/-- An item of a draft batch is no candidate. -/
theorem inDraftBatch_eq_true {serialId : Nat} :
    db.inDraftBatch serialId = true ↔
      ∃ i ∈ db.batchItems, i.serialId = serialId ∧
        ∃ b ∈ db.batches, b.id = i.batchId ∧ b.status = .draft := by
  simp [Db.inDraftBatch]

end SetuoraLite
