import Mathlib.Data.Prod.Lex
import Mathlib.Order.WithBot
import SetuoraLite.Stock.Keys

/-!
# What goes out first

The three ways into an outgoing batch, a scan, the automatic pick and the Excel import,
each served alone from any state of the stock. `first_expiry_first_out` says that none of
them passes over an available serial that expires earlier.

`fefoOrder` is the order of a key (`fefoRank`), and so the candidates come sorted. A pick
takes a beginning of them; an import does so line by line, and for each product its lines
together have taken a beginning.
-/

namespace SetuoraLite

open Lib

/-! ## The order -/

/-- An expiry date as a rank; no date is last. -/
def expiryRank (d : Option Date) : WithTop (ℕ ×ₗ ℕ ×ₗ ℕ) :=
  d.elim ⊤ fun d => ((toLex (d.year, toLex (d.month, d.day)) : ℕ ×ₗ ℕ ×ₗ ℕ) : WithTop (ℕ ×ₗ ℕ ×ₗ ℕ))

/-- What the candidates are sorted by. -/
def fefoRank (s : Serial) : WithTop (ℕ ×ₗ ℕ ×ₗ ℕ) ×ₗ ℕ ×ₗ ℕ :=
  toLex (expiryRank s.expiryDate, toLex (s.createdAt, s.id))

/-- The order of the expiries is that of their ranks. -/
theorem expiryBefore_iff (a b : Option Date) : expiryBefore a b = true ↔
    expiryRank a < expiryRank b := by
  cases a with
  | none =>
    unfold expiryBefore expiryRank
    simp
  | some a =>
    cases b with
    | none =>
      unfold expiryBefore expiryRank
      simp
    | some b =>
      unfold expiryBefore expiryRank
      simp only [Option.elim_some, WithTop.coe_lt_coe, Prod.Lex.lt_iff, ofLex_toLex, Date.before,
        Bool.or_eq_true, Bool.and_eq_true, decide_eq_true_eq, beq_iff_eq]

/-- The order of the units is that of their ranks. -/
theorem fefoOrder_iff (a b : Serial) : fefoOrder a b ↔ fefoRank a ≤ fefoRank b := by
  unfold fefoOrder fefoRank
  rw [Prod.Lex.le_iff, Prod.Lex.le_iff, ← Bool.not_eq_true, expiryBefore_iff, expiryBefore_iff]
  simp only [ofLex_toLex, not_lt]
  rcases lt_trichotomy (expiryRank a.expiryDate) (expiryRank b.expiryDate) with h | h | h
  · simp [h]
  · simp [h]
  · simp [h.not_gt, h.ne', h.not_ge]

instance : Std.Total fefoOrder where
  total a b := by
    rw [fefoOrder_iff, fefoOrder_iff]
    exact le_total _ _

instance : IsTrans Serial fefoOrder where
  trans a b c hab hbc := by
    rw [fefoOrder_iff] at *
    exact le_trans hab hbc

/-- A serial that comes later does not expire before. -/
theorem not_expiryBefore_of_fefoOrder {a b : Serial} (h : fefoOrder a b) :
    expiryBefore b.expiryDate a.expiryDate ≠ true := by
  intro hbefore
  rcases h with hlt | ⟨hle, -⟩
  · rw [expiryBefore_iff] at hlt hbefore
    exact lt_asymm hlt hbefore
  · rw [hle] at hbefore
    exact absurd hbefore (by simp)

/-! ## What is available -/

/-- The serials of a product that a batch may take. -/
def available (db : Db) (batchType : BatchType) (productId : Nat) : List Serial :=
  db.serials.filter
    (isFefoCandidate db productId (availableStatuses (fefoAvailableStatuses batchType)))

/-- The serials are the first of the others: sorted, and before what is left. -/
def Leads (picked all : List Serial) : Prop :=
  ∃ rest, (picked ++ rest).Perm all ∧ (picked ++ rest).Pairwise fefoOrder

/-- No other available serial of a picked serial's product expires earlier. -/
def FirstOut (db : Db) (batchType : BatchType) (picked : List Serial) : Prop :=
  ∀ s ∈ picked, ∀ other ∈ available db batchType s.productId, other ∉ picked →
    expiryBefore other.expiryDate s.expiryDate ≠ true

/-- The candidates without a limit. -/
def fefoSequence (db : Db) (batchType : BatchType) (productId : Nat) : List Serial :=
  (available db batchType productId).insertionSort fefoOrder

/-- The candidates are the first of the sequence. -/
theorem fefoCandidateSerials_eq (db : Db) (batchType : BatchType) (productId quantity : Nat) :
    fefoCandidateSerials db productId quantity (fefoAvailableStatuses batchType)
      = (fefoSequence db batchType productId).take quantity := rfl

variable {db : Db} {batchType : BatchType} {productId : Nat}

theorem fefoSequence_sorted : (fefoSequence db batchType productId).Pairwise fefoOrder :=
  List.pairwise_insertionSort fefoOrder _

/-- The sequence has the available units of the product, each once. -/
theorem fefoSequence_perm :
    (fefoSequence db batchType productId).Perm (available db batchType productId) :=
  List.perm_insertionSort fefoOrder _

/-- A beginning of the candidates leads them. -/
theorem take_leads (n : Nat) :
    Leads ((fefoSequence db batchType productId).take n) (available db batchType productId) := by
  refine ⟨(fefoSequence db batchType productId).drop n, ?_, ?_⟩
  · rw [List.take_append_drop]
    exact fefoSequence_perm
  · rw [List.take_append_drop]
    exact fefoSequence_sorted

theorem mem_available_product {s : Serial} (h : s ∈ available db batchType productId) :
    s ∈ db.serials ∧ s.productId = productId := by
  obtain ⟨hs, hcandidate⟩ := List.mem_filter.mp h
  unfold isFefoCandidate at hcandidate
  simp only [Bool.and_eq_true, decide_eq_true_eq] at hcandidate
  exact ⟨hs, hcandidate.1.1.2⟩

/-- Serials that lead those of each of their products go out first. -/
theorem firstOut_of_leads {picked : List Serial}
    (h : ∀ s ∈ picked, Leads (picked.filter fun p => p.productId = s.productId)
      (available db batchType s.productId)) : FirstOut db batchType picked := by
  intro s hs other hother hnot
  obtain ⟨rest, hperm, hsorted⟩ := h s hs
  apply not_expiryBefore_of_fefoOrder
  apply (List.pairwise_append.mp hsorted).2.2 s _ other _
  · exact List.mem_filter.mpr ⟨hs, decide_eq_true rfl⟩
  · rcases List.mem_append.mp (hperm.mem_iff.mpr hother) with hmem | hmem
    · exact absurd (List.mem_of_mem_filter hmem) hnot
    · exact hmem

/-! ## A scan -/

/-- A scan whose first-expiry check passes goes out first. -/
theorem firstOut_of_fefoError {s : Serial} (hkeyed : db.Keyed) (hs : s ∈ db.serials)
    (h : fefoError (fefoCandidateSerials db s.productId 1 (fefoAvailableStatuses batchType)).head?
        s = none) :
    FirstOut db batchType [s] := by
  intro s' hs' other hother hnot
  obtain rfl := List.mem_singleton.mp hs'
  rw [fefoCandidateSerials_eq] at h
  have hmem := fefoSequence_perm.mem_iff.mpr hother
  have hsorted := @fefoSequence_sorted db batchType s'.productId
  have hperm := @fefoSequence_perm db batchType s'.productId
  cases hseq : fefoSequence db batchType s'.productId with
  | nil =>
    rw [hseq] at hmem
    exact absurd hmem List.not_mem_nil
  | cons earliest rest =>
    rw [hseq] at h hmem hsorted hperm
    have hearliest : earliest ∈ db.serials :=
      (mem_available_product (hperm.mem_iff.mp List.mem_cons_self)).1
    unfold fefoError at h
    simp only [List.take_succ_cons, List.take_zero, List.head?_cons] at h
    have hfirst : other = earliest ∨ fefoOrder earliest other := by
      rcases List.mem_cons.mp hmem with rfl | hrest
      · exact Or.inl rfl
      · exact Or.inr ((List.pairwise_cons.mp hsorted).1 other hrest)
    split at h
    next hid =>
      -- The scanned serial is the first candidate itself.
      obtain rfl := hkeyed.serial_eq hearliest hs hid
      rcases hfirst with rfl | horder
      · exact absurd List.mem_cons_self hnot
      · exact not_expiryBefore_of_fefoOrder horder
    next hid =>
      split at h
      · exact absurd h (by simp)
      next hnone =>
        intro hbefore
        rcases hfirst with rfl | horder
        · exact hnone hbefore
        · have hearlier := not_expiryBefore_of_fefoOrder horder
          rw [ne_eq, expiryBefore_iff, not_lt] at hearlier
          rw [expiryBefore_iff] at hnone hbefore
          exact hnone (lt_of_le_of_lt hearlier hbefore)

/-- The batch has gained an item for each of the serials. -/
def Added (db db' : Db) (batch : Batch) (picked : List Serial) : Prop :=
  ∃ items, db'.batchItems = db.batchItems ++ items ∧
    items.map (·.serialId) = picked.map (·.id) ∧ ∀ i ∈ items, i.batchId = batch.id

theorem addItem_ok {item : BatchItem} {log : ScanLog} {db' : Db} {u : PUnit}
    (h : addItem item log db = (.ok u, db')) :
    db'.batchItems = db.batchItems ++ [{ item with id := nextId (·.id) db.batchItems }] := by
  obtain ⟨_, t, hitem, h⟩ := Tx.bind_ok.mp h
  obtain ⟨-, -, rfl⟩ := insertBatchItem_ok hitem
  rw [insertScanLog_ok h]

theorem addItems_ok {batch : Batch} {picks : List (BatchItem × ScanLog)} {picked : List Serial}
    {db' : Db} {u : PUnit} (hserials : picks.map (fun p => p.1.serialId) = picked.map (·.id))
    (hbatch : ∀ p ∈ picks, p.1.batchId = batch.id) (h : addItems picks db = (.ok u, db')) :
    Added db db' batch picked := by
  have hall := Tx.each_prefix
    (I := fun done (t : Db) => ∃ items, t.batchItems = db.batchItems ++ items ∧
      items.map (·.serialId) = done.map (fun p : BatchItem × ScanLog => p.1.serialId) ∧
      ∀ i ∈ items, i.batchId = batch.id)
    (by
      intro done p rest has t t' u hbefore hstep
      obtain ⟨items, hitems, hmap, hids⟩ := hbefore
      refine ⟨items ++ [{ p.1 with id := nextId (·.id) t.batchItems }], ?_, ?_, ?_⟩
      · rw [addItem_ok hstep, hitems, List.append_assoc]
      · rw [List.map_append, List.map_append, hmap]
        rfl
      · intro i hi
        rcases List.mem_append.mp hi with hi | hi
        · exact hids i hi
        · obtain rfl := List.mem_singleton.mp hi
          exact hbatch p (by rw [has]; simp))
    ⟨[], by simp, rfl, fun i hi => absurd hi List.not_mem_nil⟩ h
  rw [hserials] at hall
  exact hall

theorem rejectScan_serves {P : PUnit → Db → Prop} (batch : Batch) (user : User) (now : Instant)
    (serial : Option Serial) (raw : PyStr) (e : PyError) {t : Db}
    (ht : t.batchItems = db.batchItems) :
    (rejectScan batch user now serial raw e).Serves commitStock P
      (fun _ t => t.batchItems = db.batchItems) t := by
  have hkeeps : ∀ log : ScanLog,
      (commitStock (.logScan log) t).2.batchItems = t.batchItems := fun log =>
    (insertScanLog_keeps (fun _ _ => rfl) log : Tx.Keeps Db.batchItems _).atomically t
  have hlogs : (Request.commits (.logScan (batchScanLog batch user now serial raw
      batch.batchType.value (py "REJECTED") (some e.message))) : StockRequest PUnit).Serves
        commitStock
        (fun _ t => t.batchItems = db.batchItems) (fun _ t => t.batchItems = db.batchItems) t := by
    apply Request.Serves.commits
    · intro t' hcommit
      rw [← ht, ← hkeeps, hcommit]
    · intro e' t' hcommit
      rw [← ht, ← hkeeps, hcommit]
  exact hlogs.bind fun _ _ ht => Request.Serves.raise ht

/-- What an outgoing batch may scan, it may pick. -/
theorem status_of_allowed {s : Serial} (htype : batchType ∈ fefoBatchTypes)
    (h : serialAllowedForBatch s batchType = .ok ()) :
    s.status ∈ fefoAvailableStatuses batchType := by
  unfold serialAllowedForBatch at h
  dsimp only at h
  split at h
  · exact absurd h (by simp)
  · split at h
    · exact absurd h (by simp)
    · cases batchType with
      | sale =>
        dsimp only at h
        split at h
        · exact absurd h (by simp)
        next hmem => exact not_not.mp hmem
      | purchaseReturn =>
        dsimp only at h
        split at h
        · exact absurd h (by simp)
        next hmem => exact not_not.mp hmem
      | issue =>
        dsimp only at h
        split at h
        · exact absurd h (by simp)
        next heq =>
          rw [not_not.mp heq]
          decide
      | _ => exact absurd htype (by decide)

theorem scanChecks_serves (batch : Batch) (htype : batch.batchType ∈ fefoBatchTypes) (user : User)
    (serial : Serial) (now : Instant) :
    (scanChecks batch user serial now).Serves commitStock
      (fun outcome t => t = db ∧ (outcome = .ok () →
        fefoError (fefoCandidateSerials db serial.productId 1
          (fefoAvailableStatuses batch.batchType)).head? serial = none))
      (fun _ t => t = db) db := by
  -- The checks in the order of the source, each of which may refuse the scan.
  unfold scanChecks
  cases hallowed : serialAllowedForBatch serial batch.batchType with
  | error e => exact Request.Serves.pure ⟨rfl, by simp⟩
  | ok _ =>
    have hstatus := status_of_allowed htype hallowed
    dsimp only
    apply Request.Serves.bind_reads
    apply Request.Serves.bind_reads
    split
    next e => exact Request.Serves.pure ⟨rfl, by simp⟩
    next =>
      have hfefo : (validateFefoScan batch serial).Serves commitStock
          (fun verdict t => t = db ∧ verdict = fefoError (fefoCandidateSerials db serial.productId 1
            (fefoAvailableStatuses batch.batchType)).head? serial) (fun _ t => t = db) db := by
        unfold validateFefoScan
        dsimp only
        rw [if_neg (by simp [htype, hstatus])]
        apply Request.Serves.bind_reads
        exact Request.Serves.pure ⟨rfl, rfl⟩
      refine hfefo.bind fun verdict t ht => ?_
      obtain ⟨rfl, hverdict⟩ := ht
      cases verdict with
      | some text => exact Request.Serves.pure ⟨rfl, by simp⟩
      | none =>
        apply Request.Serves.bind_reads
        split
        · exact Request.Serves.pure ⟨rfl, by simp⟩
        · apply Request.Serves.bind_reads
          split
          · exact Request.Serves.pure ⟨rfl, by simp⟩
          · exact Request.Serves.pure ⟨rfl, fun _ => hverdict.symm⟩

/-- A scan adds an item that goes out first, or none. -/
theorem addSerialToBatch_serves (hkeyed : db.Keyed) (batch : Batch)
    (htype : batch.batchType ∈ fefoBatchTypes) (user : User) (number : PyStr) (now : Instant) :
    (addSerialToBatch batch user number now).Serves commitStock
      (fun _ t => ∃ serial ∈ db.serials, Added db t batch [serial] ∧
        FirstOut db batch.batchType [serial])
      (fun _ t => t.batchItems = db.batchItems) db := by
  unfold addSerialToBatch
  refine Request.Serves.bind_raiseIf (fun _ => rfl) fun _ => ?_
  apply Request.Serves.bind_reads
  split
  -- No such unit: the scan is logged and refused.
  next => exact rejectScan_serves _ _ _ _ _ _ rfl
  next serial hserial =>
    have hstored : serial ∈ db.serials := (lookup_some hserial).1
    refine ((scanChecks_serves batch htype user serial now).imp (fun _ _ h => h) fun _ t ht =>
      congrArg Db.batchItems ht).bind fun outcome t ht => ?_
    obtain ⟨rfl, hchecks⟩ := ht
    -- A refused scan writes a log; an accepted one the item.
    cases outcome with
    | error e =>
      dsimp only
      split
      · exact rejectScan_serves _ _ _ _ _ _ rfl
      · exact Request.Serves.raise rfl
    | ok _ =>
      dsimp only
      refine Request.Serves.bind_attempt fun outcome t' hcommit => ?_
      cases outcome with
      | ok _ =>
        have hrun := Tx.atomically_ok.mp hcommit
        apply Request.Serves.pure
        refine ⟨serial, hstored, ⟨_, addItem_ok hrun, rfl, ?_⟩,
          firstOut_of_fefoError hkeyed hstored (hchecks rfl)⟩
        intro i hi
        obtain rfl := List.mem_singleton.mp hi
        rfl
      | error e =>
        have hsame : t'.batchItems = t.batchItems :=
          congrArg Db.batchItems (Tx.atomically_error hcommit)
        dsimp only
        split
        · exact rejectScan_serves _ _ _ _ _ _ hsame
        · exact Request.Serves.raise hsame

/-! ## The automatic pick -/

/-- A beginning of the candidates of one product goes out first. -/
private theorem firstOut_take (n : Nat) :
    FirstOut db batchType ((fefoSequence db batchType productId).take n) := by
  have hproduct : ∀ s ∈ (fefoSequence db batchType productId).take n, s.productId = productId :=
    fun s hs => (mem_available_product (fefoSequence_perm.mem_iff.mp (List.mem_of_mem_take hs))).2
  apply firstOut_of_leads
  intro s hs
  rw [hproduct s hs, List.filter_eq_self.mpr fun p hp => decide_eq_true (hproduct p hp)]
  exact take_leads n

/-- The automatic pick adds the first serials of the order, as many as asked for, or none. -/
theorem addFefoSerialsToBatch_serves (batch : Batch) (user : User) (productId : Nat) (quantity : ℤ)
    (hquantity : 1 ≤ quantity) (now : Instant) :
    (addFefoSerialsToBatch batch user productId quantity now).Serves commitStock
      (fun _ t => ∃ picked, Added db t batch picked ∧ (picked.length : ℤ) = quantity ∧
        Leads picked (available db batch.batchType productId) ∧ FirstOut db batch.batchType picked)
      (fun _ t => t = db) db := by
  unfold addFefoSerialsToBatch
  refine Request.Serves.bind_raiseIf (fun _ => rfl) fun _ => ?_
  refine Request.Serves.bind_raiseIf (fun _ => rfl) fun _ => ?_
  apply Request.Serves.bind_reads
  refine Request.Serves.bind_raiseIf (fun _ => rfl) fun henough => ?_
  rw [fefoCandidateSerials_eq] at henough ⊢
  apply Request.Serves.commits
  · intro t hcommit
    refine ⟨(fefoSequence db batch.batchType productId).take quantity.toNat, ?_, ?_, take_leads _,
      firstOut_take _⟩
    · apply addItems_ok _ _ (Tx.atomically_ok.mp hcommit)
      · rw [List.map_map]
        rfl
      · intro p hp
        obtain ⟨s, -, rfl⟩ := List.mem_map.mp hp
        rfl
    · have hle := List.length_take_le quantity.toNat (fefoSequence db batch.batchType productId)
      omega
  · intro e t hcommit
    exact Tx.atomically_error hcommit

/-! ## The import -/

/-- For each product the serials are a beginning of its candidates. -/
def Beginnings (db : Db) (batchType : BatchType) (selected : List Serial) : Prop :=
  ∀ productId,
    selected.filter (fun s => s.productId = productId) <+: fefoSequence db batchType productId

theorem fefoSequence_nodup (hkeyed : db.Keyed) : (fefoSequence db batchType productId).Nodup := by
  have hserials : db.serials.Nodup := List.Nodup.of_map _ hkeyed.serials
  exact fefoSequence_perm.nodup_iff.mpr (hserials.filter _)

theorem mem_fefoSequence {s : Serial} (h : s ∈ fefoSequence db batchType productId) :
    s ∈ db.serials ∧ s.productId = productId :=
  mem_available_product (fefoSequence_perm.mem_iff.mp h)

private theorem Beginnings.stored {selected : List Serial} (h : Beginnings db batchType selected)
    {s : Serial} (hs : s ∈ selected) : s ∈ db.serials := by
  have hmem : s ∈ selected.filter fun s' => s'.productId = s.productId :=
    List.mem_filter.mpr ⟨hs, decide_eq_true rfl⟩
  exact (mem_fefoSequence ((h s.productId).subset hmem)).1

/-- What a line takes are the next candidates of its product. -/
private theorem importLine_eq (hkeyed : db.Keyed) {selected later : List Serial}
    (hselected : Beginnings db batchType selected) {productId : Nat} (quantity : Nat)
    (hlater : selected.filter (fun s => s.productId = productId) ++ later
      = fefoSequence db batchType productId) :
    ((fefoCandidateSerials db productId (quantity + selected.length)
      (fefoAvailableStatuses batchType)).filter fun s => s.id ∉ selected.map (·.id)).take quantity
        = later.take quantity := by
  have hnodup := @fefoSequence_nodup db batchType productId hkeyed
  have hmem : ∀ s ∈ later, s ∈ db.serials ∧ s.productId = productId := fun s hs =>
    mem_fefoSequence (hlater ▸ List.mem_append_right _ hs)
  rw [← hlater] at hnodup
  have hlength :=
    List.length_filter_le (fun s : Serial => decide (s.productId = productId)) selected
  have hwhole : (selected.filter fun s => s.productId = productId).take (quantity + selected.length)
      = selected.filter fun s => s.productId = productId := List.take_of_length_le (by omega)
  rw [fefoCandidateSerials_eq, ← hlater, List.take_append, hwhole, List.filter_append]
  -- What is selected already drops out, and nothing else does.
  have hselectedOut : (selected.filter fun s => s.productId = productId).filter
      (fun s => s.id ∉ selected.map (·.id)) = [] := by
    apply List.filter_eq_nil_iff.mpr
    intro s hs
    have hin : s.id ∈ selected.map (·.id) := List.mem_map_of_mem (List.mem_of_mem_filter hs)
    simpa using hin
  have hlaterIn : ∀ n,
      (later.take n).filter (fun s => s.id ∉ selected.map (·.id)) = later.take n := by
    intro n
    apply List.filter_eq_self.mpr
    intro s hs
    have hs := List.mem_of_mem_take hs
    apply decide_eq_true
    intro hin
    obtain ⟨s', hs', hid⟩ := List.mem_map.mp hin
    obtain rfl := hkeyed.serial_eq (hselected.stored hs') (hmem s hs).1 hid
    have hfirst : s' ∈ selected.filter fun s => s.productId = productId :=
      List.mem_filter.mpr ⟨hs', decide_eq_true (hmem s' hs).2⟩
    exact (List.nodup_append.mp hnodup).2.2 s' hfirst s' hs rfl
  rw [hselectedOut, hlaterIn, List.nil_append, List.take_take]
  congr 1
  omega

/-- A line leaves a beginning for each product. -/
private theorem importLine_take (hkeyed : db.Keyed) {selected : List Serial}
    (hselected : Beginnings db batchType selected) (productId quantity : Nat) :
    Beginnings db batchType (selected ++
      ((fefoCandidateSerials db productId (quantity + selected.length)
        (fefoAvailableStatuses batchType)).filter fun s =>
            s.id ∉ selected.map (·.id)).take quantity) := by
  obtain ⟨later, hlater⟩ := hselected productId
  rw [importLine_eq hkeyed hselected quantity hlater]
  have hproduct : ∀ s ∈ later.take quantity, s.productId = productId := fun s hs =>
    (mem_fefoSequence (hlater ▸ List.mem_append_right _ (List.mem_of_mem_take hs))).2
  intro other
  rw [List.filter_append]
  by_cases hother : other = productId
  · subst hother
    rw [List.filter_eq_self.mpr fun s hs => decide_eq_true (hproduct s hs), ← hlater]
    exact (List.prefix_append_right_inj _).mpr (List.take_prefix _ _)
  · have hnone : (later.take quantity).filter (fun s => s.productId = other) = [] := by
      apply List.filter_eq_nil_iff.mpr
      intro s hs
      rw [hproduct s hs]
      simpa using fun h : productId = other => hother h.symm
    rw [hnone, List.append_nil]
    exact hselected other

theorem firstOut_of_beginnings {selected : List Serial} (h : Beginnings db batchType selected) :
    FirstOut db batchType selected := by
  apply firstOut_of_leads
  intro s _
  rw [List.prefix_iff_eq_take.mp (h s.productId)]
  exact take_leads _

/-- What the lines ask of a product. -/
def demandOf (productId : Nat) (lines : List AssignmentLine) : Nat :=
  ((lines.filter fun line => line.product.id = productId).map (·.quantity)).sum

/-- The lines ask for more of some product than is left behind the selected serials. -/
def Short (db : Db) (batchType : BatchType) (selected : List Serial)
    (lines : List AssignmentLine) : Prop :=
  ∃ productId, (fefoSequence db batchType productId).length
    < (selected.filter fun s => s.productId = productId).length + demandOf productId lines

/-- Each line has as many serials of its product as it asks for. -/
def LinesFilled (lines : List AssignmentLine)
    (picked : List (AssignmentLine × List Serial)) : Prop :=
  picked.map Prod.fst = lines ∧
    ∀ p ∈ picked, p.2.length = p.1.quantity ∧ ∀ s ∈ p.2, s.productId = p.1.product.id

theorem demandOf_cons (productId : Nat) (line : AssignmentLine) (lines : List AssignmentLine) :
    demandOf productId (line :: lines)
      = (if line.product.id = productId then line.quantity else 0) + demandOf productId lines := by
  unfold demandOf
  by_cases h : line.product.id = productId <;> simp [h]

/-- A pick of `quantity` serials of a product, counted. -/
theorem pick_count {picked : List Serial} {product quantity : Nat}
    (hproduct : ∀ s ∈ picked, s.productId = product) (hlength : picked.length = quantity)
    (productId : Nat) :
    (picked.filter fun s => s.productId = productId).length =
      if product = productId then quantity else 0 := by
  by_cases h : product = productId
  · rw [if_pos h,
      List.filter_eq_self.mpr fun s hs => decide_eq_true ((hproduct s hs).trans h), hlength]
  · rw [if_neg h, List.length_eq_zero_iff]
    apply List.filter_eq_nil_iff.mpr
    intro s hs
    rw [hproduct s hs]
    simpa using h

/-- The lines are filled with the next candidates of their products, unless a product is short. -/
theorem pickImportSerials_serves (hkeyed : db.Keyed) (lines : List AssignmentLine) :
    ∀ selected : List Serial, Beginnings db batchType selected →
      (pickImportSerials (fefoAvailableStatuses batchType) selected lines).Serves commitStock
        (fun picked t => t = db ∧ Beginnings db batchType (selected ++ pickedSerials picked) ∧
          LinesFilled lines picked)
        (fun _ t => t = db ∧ Short db batchType selected lines) db := by
  induction lines with
  | nil =>
    intro selected hselected
    apply Request.Serves.pure
    refine ⟨rfl, ?_, rfl, fun p hp => absurd hp List.not_mem_nil⟩
    simpa [pickedSerials] using hselected
  | cons line lines ih =>
    intro selected hselected
    obtain ⟨later, hlater⟩ := hselected line.product.id
    have hnext := importLine_eq hkeyed hselected line.quantity hlater
    have hbeginnings := importLine_take hkeyed hselected line.product.id line.quantity
    have hlength := congrArg List.length hlater
    rw [List.length_append] at hlength
    unfold pickImportSerials
    apply Request.Serves.bind_reads
    dsimp only
    rw [hnext] at hbeginnings ⊢
    have hproduct : ∀ s ∈ later.take line.quantity, s.productId = line.product.id := fun s hs =>
      (mem_fefoSequence (hlater ▸ List.mem_append_right _ (List.mem_of_mem_take hs))).2
    refine Request.Serves.bind_raiseIf (fun hfew => ⟨rfl, line.product.id, ?_⟩) fun henough => ?_
    · rw [demandOf_cons, if_pos rfl]
      rw [List.length_take] at hfew
      omega
    · have htaken : (later.take line.quantity).length = line.quantity := by
        have hle := List.length_take_le line.quantity later
        omega
      refine ((ih _ hbeginnings).imp (fun _ _ h => h) fun e t ht => ?_).bind fun picked t ht => ?_
      · -- What is short for the other lines is short for all of them.
        obtain ⟨rfl, productId, hshort⟩ := ht
        refine ⟨rfl, productId, ?_⟩
        rw [List.filter_append, List.length_append, pick_count hproduct htaken] at hshort
        rw [demandOf_cons]
        omega
      · obtain ⟨rfl, hpicked, hlines, hfilled⟩ := ht
        apply Request.Serves.pure
        refine ⟨rfl, ?_, congrArg (line :: ·) hlines, fun p hp => ?_⟩
        · simpa [pickedSerials] using hpicked
        · rcases List.mem_cons.mp hp with rfl | hp
          · exact ⟨htaken, hproduct⟩
          · exact hfilled p hp

/-- Before it picks, the import reads and may raise. -/
theorem importTallyExcel_lines {P : PUnit → Db → Prop} {E : PyError → Db → Prop} {batch : Batch}
    (hbatch : db.batch batch.id = some batch) (user : User)
    (parse : Db → Except PyError (List AssignmentLine)) (now : Instant) (hraise : ∀ e, E e db)
    (h : ∀ lines, parse db = .ok lines → (do
      let picked ← pickImportSerials (fefoAvailableStatuses batch.batchType) [] lines
      let rows ← Request.lift (picked.mapM (importedRows batch user now))
      Request.commits (.pickItems rows.flatten) : StockRequest PUnit).Serves commitStock P E db) :
    (importTallyExcel batch.id user parse now).Serves commitStock P E db := by
  have hget : (getBatch batch.id).Serves commitStock (fun b t => t = db ∧ b = batch) E db := by
    unfold getBatch
    apply Request.Serves.bind_reads
    rw [hbatch]
    exact ⟨rfl, rfl⟩
  -- Every refusal before the lines keeps the state; what is left is what `h` says of the lines.
  unfold importTallyExcel
  refine hget.bind fun b t ht => ?_
  obtain ⟨rfl, rfl⟩ := ht
  refine Request.Serves.bind_raiseIf (fun _ => hraise _) fun _ => ?_
  refine Request.Serves.bind_raiseIf (fun _ => hraise _) fun _ => ?_
  have hallowed : (ensureSaleScanAllowed b).Serves commitStock (fun _ t' => t' = t) E t := by
    unfold ensureSaleScanAllowed
    split
    · apply Request.Serves.bind_reads
      unfold Request.raiseIf
      split
      · exact Request.Serves.raise (hraise _)
      · exact Request.Serves.pure rfl
    · exact Request.Serves.pure rfl
  refine hallowed.bind fun _ t' ht' => ?_
  subst ht'
  apply Request.Serves.bind_reads
  refine Request.Serves.bind_lift (fun _ _ => hraise _) fun lines hlines => ?_
  dsimp only
  refine Request.Serves.bind_raiseIf (fun _ => hraise _) fun _ => ?_
  refine Request.Serves.bind_raiseIf (fun _ => hraise _) fun _ => ?_
  exact h lines hlines

/-- The import adds serials that go out first, or none. -/
theorem importTallyExcel_serves (hkeyed : db.Keyed) {batch : Batch}
    (hbatch : db.batch batch.id = some batch) (user : User)
    (parse : Db → Except PyError (List AssignmentLine)) (now : Instant) :
    (importTallyExcel batch.id user parse now).Serves commitStock
      (fun _ t => ∃ picked, Added db t batch picked ∧ FirstOut db batch.batchType picked)
      (fun _ t => t = db) db := by
  refine importTallyExcel_lines hbatch user parse now (fun _ => rfl) fun lines _ => ?_
  have hnothing : Beginnings db batch.batchType [] := fun _ => List.nil_prefix
  refine ((pickImportSerials_serves hkeyed lines [] hnothing).imp (fun _ _ h => h)
    fun _ _ h => h.1).bind
    fun picked t ht => ?_
  obtain ⟨rfl, hpicked, -⟩ := ht
  refine Request.Serves.bind_lift (fun _ _ => rfl) fun rows hrows => ?_
  obtain ⟨hserials, hitems⟩ := importedRows_spec hrows
  apply Request.Serves.commits
  · intro t' hcommit
    exact ⟨pickedSerials picked,
      addItems_ok hserials (fun p hp => (hitems p hp).1) (Tx.atomically_ok.mp hcommit),
      firstOut_of_beginnings hpicked⟩
  · intro e t' hcommit
    exact Tx.atomically_error hcommit

/-! ## First expiry, first out -/

/-- From any state of the stock, for a draft sale, issue or purchase return: a scan that is
accepted, an automatic pick and an import add serials than which no other available serial of
their product expires earlier; and the pick adds the first serials of the order, as many as
asked for, or adds nothing and raises. -/
theorem first_expiry_first_out (db : Db) (hkeyed : db.Keyed) (batch : Batch)
    (hdraft : DraftBatch db batch) (htype : batch.batchType ∈ fefoBatchTypes) (user : User)
    (now : Instant) :
    (∀ number, (addSerialToBatch batch user number now).Serves commitStock
      (fun _ db' => ∃ serial ∈ db.serials, Added db db' batch [serial] ∧
        FirstOut db batch.batchType [serial])
      (fun _ db' => db'.batchItems = db.batchItems) db) ∧
    (∀ productId (quantity : ℤ), 1 ≤ quantity →
      (addFefoSerialsToBatch batch user productId quantity now).Serves commitStock
        (fun _ db' => ∃ picked, Added db db' batch picked ∧ (picked.length : ℤ) = quantity ∧
          Leads picked (available db batch.batchType productId) ∧
          FirstOut db batch.batchType picked)
        (fun _ db' => db' = db) db) ∧
    ∀ parse, (importTallyExcel batch.id user parse now).Serves commitStock
      (fun _ db' => ∃ picked, Added db db' batch picked ∧ FirstOut db batch.batchType picked)
      (fun _ db' => db' = db) db :=
  ⟨fun number => addSerialToBatch_serves hkeyed batch htype user number now,
    fun productId quantity hquantity =>
      addFefoSerialsToBatch_serves batch user productId quantity hquantity now,
    fun parse => importTallyExcel_serves hkeyed hdraft.1 user parse now⟩

/-- A draft sale. -/
def bottleSale : Batch :=
  { id := 1, batchNumber := py "SAL-1", batchType := .sale, partyName := none, partyState := none,
    partyGstRegistrationType := none, partyGstName := none, partyGstin := none,
    gstTreatment := none,
    gstCgstRate := none, gstSgstRate := none, gstIgstRate := none, reasonCode := none, userId := 1,
    auditAssignmentId := none, status := .draft, tallyReference := none, notes := none,
    lastError := none, submittedAt := none, syncedAt := none }

/-- A bottle in stock. -/
def bottle (id : Nat) (expiryDate : Option Date) : Serial :=
  { id := id, serialNumber := py "BOTTLE-" ++ decDigits id, productId := 1, status := .inStock,
    active := true, createdAt := id, replacedById := none, productBatchNumber := none,
    mfgDate := none,
    expiryDate := expiryDate, warehouse := none, warehouseLevel := .companyWarehouse,
    locationId := none }

/-- A stock of three bottles, the last of which expires first. -/
def bottleDb : Db :=
  { Db.empty with
    serials := [bottle 1 none, bottle 2 (some ⟨2027, 1, 31⟩), bottle 3 (some ⟨2026, 12, 31⟩)]
    batches := [bottleSale] }

/-- The guarantee for a pick of two bottles. -/
theorem first_expiry_first_out_bottles :
    (addFefoSerialsToBatch bottleSale ⟨1, py "office"⟩ 1 2 0).Serves commitStock
      (fun _ db' => ∃ picked, Added bottleDb db' bottleSale picked ∧ (picked.length : ℤ) = 2 ∧
        Leads picked (available bottleDb .sale 1) ∧ FirstOut bottleDb .sale picked)
      (fun _ db' => db' = bottleDb) bottleDb := by
  have hkeyed : bottleDb.Keyed := by
    constructor <;> decide +kernel
  have hdraft : DraftBatch bottleDb bottleSale := ⟨by decide +kernel, rfl⟩
  exact (first_expiry_first_out bottleDb hkeyed bottleSale hdraft (by decide)
    ⟨1, py "office"⟩ 0).2.1
    1 2 (by decide)

/-- The two bottles with a date are picked, the one that expires first before the other. -/
example : (fefoCandidateSerials bottleDb 1 2 (fefoAvailableStatuses .sale)).map (·.id) =
    [3, 2] := by
  decide +kernel

end SetuoraLite
