import SetuoraLite.Audit.Findings

/-!
# Reconciliation is exact

What `reconcile_audit_assignment` leaves: one finding for each serial that is expected or
was scanned in the window, with the verdict that those two facts and the deadline decide,
and the counts of `assignment_progress`. It deletes before it writes, so a second run
finds the state of the first; and it looks at the scans only as a set of serials, so it does
not matter which batches hold them, in which order, or what was found before.
-/

namespace SetuoraLite

open Lib

/-! ## What it should find -/

/-- The assignment expects the serial. -/
def Expected (s : AuditDb) (a : AuditAssignment) (serialId : Nat) : Prop :=
  ∃ i ∈ s.expected, i.assignmentId = a.id ∧ i.serialId = serialId

/-- The serial was scanned into some batch of the assignment, within the window. -/
def ScannedInWindow (s : AuditDb) (a : AuditAssignment) (serialId : Nat) : Prop :=
  ∃ i ∈ s.db.batchItems, i.serialId = serialId ∧ (∃ b ∈ s.db.auditBatches a.id, b.id = i.batchId) ∧
    a.startsAt ≤ s.itemTimes i.id ∧ s.itemTimes i.id ≤ a.endsAt

/-- The finding type of a serial. -/
inductive Finds (s : AuditDb) (a : AuditAssignment) (now : Instant) (n : Nat) : FindingType → Prop
  | verified : Expected s a n → ScannedInWindow s a n → Finds s a now n .verified
  | missing : Expected s a n → ¬ ScannedInWindow s a n → a.endsAt < now → Finds s a now n .missing
  | pending : Expected s a n → ¬ ScannedInWindow s a n → now ≤ a.endsAt → Finds s a now n .pending
  | extra : ¬ Expected s a n → ScannedInWindow s a n → Finds s a now n .extra

/-- The findings of an assignment are exact, and a summary counts them as the progress does. -/
structure Exact (s : AuditDb) (a : AuditAssignment) (now : Instant) (findings : List AuditFinding)
    (summary : AuditSummary) : Prop where
  once : (findings.map (·.serialId)).Nodup
  covers : ∀ n, n ∈ findings.map (·.serialId) ↔ Expected s a n ∨ ScannedInWindow s a n
  types : ∀ f ∈ findings, Finds s a now f.serialId f.findingType
  verified : summary.verified = (assignmentProgress s a now).verified
  unscanned : summary.missing + summary.pending = (assignmentProgress s a now).pending
  extra : summary.extra = (assignmentProgress s a now).extra
  total : summary.total = findings.length

/-- What a finding says, without its id, its batch and its time. -/
def AuditFinding.unfiled (f : AuditFinding) : AuditFinding :=
  { f with id := 0, batchId := 0, createdAt := 0 }

/-- What a finding says, without its id and its time. -/
def AuditFinding.undated (f : AuditFinding) : AuditFinding := { f with id := 0, createdAt := 0 }

/-- Two states agree on what the assignment expects, on the serials scanned for it in its
window, and on the rows of serials and products. -/
structure SameScans (a : AuditAssignment) (s t : AuditDb) : Prop where
  expected : ∀ n, Expected s a n ↔ Expected t a n
  scanned : ∀ n, ScannedInWindow s a n ↔ ScannedInWindow t a n
  serials : ∀ n, s.db.serial n = t.db.serial n
  products : ∀ n, s.db.product n = t.db.product n

/-! ## The lists of the program -/

variable {s t : AuditDb} {a : AuditAssignment} {now : Instant}

theorem mem_expectedIds {n : Nat} : n ∈ s.expectedIds a.id ↔ Expected s a n := by
  unfold AuditDb.expectedIds Expected
  simp only [List.mem_dedup, List.mem_map, List.mem_filter, decide_eq_true_eq, and_assoc]

theorem mem_scannedIds {n : Nat} : n ∈ s.scannedIds a ↔ ScannedInWindow s a n := by
  unfold AuditDb.scannedIds ScannedInWindow AuditDb.inWindow
  simp only [List.mem_dedup, List.mem_map, List.mem_filter, Bool.and_eq_true, decide_eq_true_eq]
  constructor
  · rintro ⟨i, ⟨hi, hbatch, hwindow⟩, he⟩
    exact ⟨i, hi, he, hbatch, hwindow⟩
  · rintro ⟨i, hi, he, hbatch, hwindow⟩
    exact ⟨i, ⟨hi, hbatch, hwindow⟩, he⟩

theorem expectedIds_nodup (s : AuditDb) (id : Nat) : (s.expectedIds id).Nodup := List.nodup_dedup _

theorem scannedIds_nodup (s : AuditDb) (a : AuditAssignment) : (s.scannedIds a).Nodup :=
  List.nodup_dedup _

section Verdicts

variable {expected scanned : List Nat} {f g : Nat → AuditVerdict}

/-- The serials of verdicts on what is expected, and on what else was scanned. -/
theorem verdicts_serials (hf : ∀ n, (f n).serialId = n) (hg : ∀ n, (g n).serialId = n) :
    (expected.map f ++ (scanned.filter fun n => n ∉ expected).map g).map (·.serialId)
      = expected ++ scanned.filter fun n => n ∉ expected := by
  have hserials {f : Nat → AuditVerdict} (hf : ∀ n, (f n).serialId = n) (l : List Nat) :
      (l.map f).map (·.serialId) = l := by
    rw [List.map_map]
    conv_rhs => rw [← List.map_id l]
    exact List.map_congr_left fun n _ => hf n
  rw [List.map_append, hserials hf, hserials hg]

/-- A serial has one verdict. -/
theorem verdicts_nodup (hf : ∀ n, (f n).serialId = n) (hg : ∀ n, (g n).serialId = n)
    (hexpected : expected.Nodup) (hscanned : scanned.Nodup) :
    ((expected.map f ++ (scanned.filter fun n => n ∉ expected).map g).map (·.serialId)).Nodup := by
  rw [verdicts_serials hf hg, List.nodup_append]
  refine ⟨hexpected, hscanned.filter _, ?_⟩
  intro n hn m hm he
  have hout := (List.mem_filter.mp hm).2
  rw [decide_eq_true_eq] at hout
  exact hout (he ▸ hn)

end Verdicts

/-- The serials of the verdicts on an assignment. -/
theorem assignmentVerdicts_serials (s : AuditDb) (a : AuditAssignment) (now : Instant) :
    (assignmentVerdicts s a now).map (·.serialId)
      = s.expectedIds a.id ++ (s.scannedIds a).filter fun n => n ∉ s.expectedIds a.id :=
  verdicts_serials (fun n => by split <;> rfl) fun _ => rfl

/-- A serial has one verdict of an assignment. -/
theorem assignmentVerdicts_nodup (s : AuditDb) (a : AuditAssignment) (now : Instant) :
    ((assignmentVerdicts s a now).map (·.serialId)).Nodup :=
  verdicts_nodup (fun n => by split <;> rfl) (fun _ => rfl) (expectedIds_nodup s a.id)
    (scannedIds_nodup s a)

/-- A verdict says what the two facts and the deadline decide. -/
theorem assignmentVerdicts_finds {v : AuditVerdict} (hv : v ∈ assignmentVerdicts s a now) :
    Finds s a now v.serialId v.findingType := by
  unfold assignmentVerdicts at hv
  rcases List.mem_append.mp hv with hv | hv
  · obtain ⟨n, hn, rfl⟩ := List.mem_map.mp hv
    have hexpected := mem_expectedIds.mp hn
    by_cases hscanned : n ∈ s.scannedIds a
    · rw [if_pos hscanned]
      exact .verified hexpected (mem_scannedIds.mp hscanned)
    · have hout : ¬ ScannedInWindow s a n := fun h => hscanned (mem_scannedIds.mpr h)
      rw [if_neg hscanned]
      show Finds s a now n (if a.endsAt < now then .missing else .pending)
      by_cases hlate : a.endsAt < now
      · rw [if_pos hlate]
        exact .missing hexpected hout hlate
      · rw [if_neg hlate]
        exact .pending hexpected hout (not_lt.mp hlate)
  · obtain ⟨n, hn, rfl⟩ := List.mem_map.mp hv
    obtain ⟨hscanned, hout⟩ := List.mem_filter.mp hn
    rw [decide_eq_true_eq] at hout
    exact .extra (fun h => hout (mem_expectedIds.mpr h)) (mem_scannedIds.mp hscanned)

/-! ## The findings -/

section MakeFindings

variable (db : Db) (batchId : Nat) (stamp : Instant)

theorem makeFindings_map {β : Type} (f : AuditFinding → β) (g : AuditVerdict → β)
    (h : ∀ v id, f (makeFinding db batchId stamp v id) = g v) (id : Nat)
    (verdicts : List AuditVerdict) :
    (makeFindings db batchId stamp id verdicts).map f = verdicts.map g := by
  induction verdicts generalizing id with
  | nil => rfl
  | cons v verdicts ih =>
    rw [makeFindings, List.map_cons, List.map_cons, h, ih]

theorem mem_makeFindings {id : Nat} {verdicts : List AuditVerdict} {f : AuditFinding}
    (hf : f ∈ makeFindings db batchId stamp id verdicts) :
    ∃ v ∈ verdicts, ∃ id', f = makeFinding db batchId stamp v id' := by
  induction verdicts generalizing id with
  | nil => exact absurd hf List.not_mem_nil
  | cons v verdicts ih =>
    rcases List.mem_cons.mp hf with rfl | hf
    · exact ⟨v, List.mem_cons_self, id, rfl⟩
    · obtain ⟨w, hw, id', he⟩ := ih hf
      exact ⟨w, List.mem_cons_of_mem v hw, id', he⟩

/-- Counting types of findings is counting types of verdicts. -/
theorem countP_makeFindings (id : Nat) (verdicts : List AuditVerdict) (type : FindingType) :
    (makeFindings db batchId stamp id verdicts).countP (fun f => f.findingType = type)
      = verdicts.countP fun v => v.findingType = type := by
  have hmap :=
    makeFindings_map db batchId stamp (·.findingType) (·.findingType) (fun _ _ => rfl) id verdicts
  have hcount := congrArg (List.countP fun x => decide (x = type)) hmap
  rwa [List.countP_map, List.countP_map] at hcount

end MakeFindings

/-- A summary reads the types only, in any order. -/
private theorem summary_of_perm {fs gs : List AuditFinding}
    (h : (fs.map AuditFinding.unfiled).Perm (gs.map AuditFinding.unfiled)) :
    auditSummary fs = auditSummary gs := by
  have htypes : (fs.map (·.findingType)).Perm (gs.map (·.findingType)) := by
    have := h.map (·.findingType)
    rwa [List.map_map, List.map_map] at this
  have hcount : ∀ type, fs.countP (fun f => decide (f.findingType = type))
      = gs.countP fun f => decide (f.findingType = type) := by
    intro type
    have := htypes.countP_eq fun x => decide (x = type)
    rwa [List.countP_map, List.countP_map] at this
  have hlength : fs.length = gs.length := by
    have := h.length_eq
    rwa [List.length_map, List.length_map] at this
  unfold auditSummary
  rw [hcount, hcount, hcount, hcount, hlength]

/-- The findings that a reconciliation writes. -/
def freshFindings (s : AuditDb) (a : AuditAssignment) (anchor : Batch) (now stamp : Instant) :
    List AuditFinding :=
  makeFindings s.db anchor.id stamp
    (nextId (·.id) (s.findings.filter fun f => f.batchId ∉ (s.db.auditBatches a.id).map (·.id)))
    (assignmentVerdicts s a now)

/-- Afterwards the assignment has the new findings, and no others. -/
theorem findingsOf_reconciled {anchor : Batch} (now stamp : Instant)
    (hanchor : anchor ∈ s.db.auditBatches a.id) :
    (reconcileAuditAssignment s a anchor now stamp).2.findingsOf a.id =
        freshFindings s a anchor now stamp := by
  show (s.findings.filter _ ++ freshFindings s a anchor now stamp).filter
    (fun f => f.batchId ∈ (s.db.auditBatches a.id).map (·.id)) = _
  rw [List.filter_append, List.filter_filter]
  have hkept : s.findings.filter
      (fun f => decide (f.batchId ∈ (s.db.auditBatches a.id).map (·.id)) &&
      decide (f.batchId ∉ (s.db.auditBatches a.id).map (·.id))) = [] := by
    apply List.filter_eq_nil_iff.mpr
    intro f _
    by_cases hf : f.batchId ∈ (s.db.auditBatches a.id).map (·.id) <;> simp [hf]
  have hnew : (freshFindings s a anchor now stamp).filter
      (fun f => f.batchId ∈ (s.db.auditBatches a.id).map (·.id)) =
          freshFindings s a anchor now stamp := by
    apply List.filter_eq_self.mpr
    intro f hf
    obtain ⟨v, -, id, rfl⟩ := mem_makeFindings _ _ _ hf
    exact decide_eq_true (List.mem_map_of_mem hanchor)
  rw [hkept, hnew, List.nil_append]

/-! ## Counts -/

/-- The verdicts of one type on what is expected: counted by what tells them apart. -/
private theorem countP_verdicts (s : AuditDb) (a : AuditAssignment) (now : Instant)
    (type : FindingType) :
    (assignmentVerdicts s a now).countP (fun v => v.findingType = type)
      = (s.expectedIds a.id).countP (fun n => (if n ∈ s.scannedIds a then FindingType.verified
          else if a.endsAt < now then .missing else .pending) = type)
        + if type = .extra then ((s.scannedIds a).filter fun n => n ∉ s.expectedIds a.id).length
            else 0 := by
  unfold assignmentVerdicts
  dsimp only
  rw [List.countP_append, List.countP_map, List.countP_map]
  congr 1
  · apply List.countP_congr
    intro n _
    by_cases hscanned : n ∈ s.scannedIds a <;> simp [hscanned]
  · by_cases htype : type = .extra
    · rw [if_pos htype, List.countP_eq_length]
      intro n _
      simp [htype]
    · rw [if_neg htype, List.countP_eq_zero]
      intro n _
      simpa [eq_comm] using htype

private theorem card_of_nodup {l : List Nat} {P : Finset Nat} (hnd : l.Nodup)
    (h : ∀ n, n ∈ l ↔ n ∈ P) :
    l.length = P.card := by
  rw [← List.toFinset_card_of_nodup hnd]
  congr 1
  ext n
  rw [List.mem_toFinset, h]

/-- The counts of the summary are the counts of the progress. -/
private theorem summary_progress (s : AuditDb) (a : AuditAssignment) (anchor : Batch)
    (now stamp : Instant) :
    let summary := auditSummary (freshFindings s a anchor now stamp)
    summary.verified = (assignmentProgress s a now).verified ∧
      summary.missing + summary.pending = (assignmentProgress s a now).pending ∧
      summary.extra = (assignmentProgress s a now).extra := by
  have hcount : ∀ type, (freshFindings s a anchor now stamp).countP (fun f => f.findingType = type)
      = _ := fun type => (countP_makeFindings _ _ _ _ _ type).trans (countP_verdicts s a now type)
  -- The verdicts on what is expected: the count of a type that is not extra.
  have hexpected : ∀ type, type ≠ .extra →
      (freshFindings s a anchor now stamp).countP (fun f => f.findingType = type)
        = (s.expectedIds a.id).countP fun n => (if n ∈ s.scannedIds a then FindingType.verified
          else if a.endsAt < now then .missing else .pending) = type := by
    intro type htype
    rw [hcount, if_neg htype, Nat.add_zero]
  have hverified : (s.expectedIds a.id).countP (fun n => decide (n ∈ s.scannedIds a))
      = (s.verifiedIds a).card := by
    rw [List.countP_eq_length_filter]
    apply card_of_nodup ((expectedIds_nodup s a.id).filter _)
    intro n
    simp [AuditDb.verifiedIds]
  have hpending : (s.expectedIds a.id).countP (fun n => decide (n ∉ s.scannedIds a))
      = (s.pendingIds a).card := by
    rw [List.countP_eq_length_filter]
    apply card_of_nodup ((expectedIds_nodup s a.id).filter _)
    intro n
    simp [AuditDb.pendingIds]
  refine ⟨?_, ?_, ?_⟩
  · show (freshFindings s a anchor now stamp).countP (fun f => f.findingType = .verified) = _
    rw [hexpected _ (by decide)]
    refine Eq.trans (List.countP_congr fun n _ => ?_) hverified
    by_cases hscanned : n ∈ s.scannedIds a
    · simp [hscanned]
    · by_cases hlate : a.endsAt < now <;> simp [hscanned, hlate]
  · show (freshFindings s a anchor now stamp).countP (fun f => f.findingType = .missing)
      + (freshFindings s a anchor now stamp).countP (fun f => f.findingType = .pending) = _
    rw [hexpected _ (by decide), hexpected _ (by decide)]
    -- Either the deadline has passed and nothing is pending, or it has not and nothing is missing.
    by_cases hlate : a.endsAt < now
    · refine Eq.trans (congrArg₂ (· + ·) (List.countP_congr fun n _ => ?_)
        (List.countP_eq_zero.mpr fun n _ => ?_)) ((Nat.add_zero _).trans hpending)
      · by_cases hscanned : n ∈ s.scannedIds a <;> simp [hscanned, hlate]
      · by_cases hscanned : n ∈ s.scannedIds a <;> simp [hscanned, hlate]
    · refine Eq.trans (congrArg₂ (· + ·) (List.countP_eq_zero.mpr fun n _ => ?_)
        (List.countP_congr fun n _ => ?_)) ((Nat.zero_add _).trans hpending)
      · by_cases hscanned : n ∈ s.scannedIds a <;> simp [hscanned, hlate]
      · by_cases hscanned : n ∈ s.scannedIds a <;> simp [hscanned, hlate]
  · show (freshFindings s a anchor now stamp).countP (fun f => f.findingType = .extra) = _
    rw [hcount, if_pos rfl]
    have hnone : (s.expectedIds a.id).countP (fun n => decide ((if n ∈ s.scannedIds a then
        FindingType.verified else if a.endsAt < now then .missing
            else .pending) = .extra)) = 0 := by
      rw [List.countP_eq_zero]
      intro n _
      by_cases hscanned : n ∈ s.scannedIds a
      · simp [hscanned]
      · by_cases hlate : a.endsAt < now <;> simp [hscanned, hlate]
    rw [hnone, Nat.zero_add]
    show ((s.scannedIds a).filter fun n => decide (n ∉ s.expectedIds a.id)).length =
      (s.extraIds a).card
    apply card_of_nodup ((scannedIds_nodup s a).filter _)
    intro n
    simp [AuditDb.extraIds]

/-! ## The result -/

theorem freshFindings_exact (s : AuditDb) (a : AuditAssignment) (anchor : Batch)
    (now stamp : Instant) :
    Exact s a now (freshFindings s a anchor now stamp)
        (auditSummary (freshFindings s a anchor now stamp)) := by
  have hserials : (freshFindings s a anchor now stamp).map (·.serialId)
      = (assignmentVerdicts s a now).map (·.serialId) :=
    makeFindings_map _ _ _ _ _ (fun _ _ => rfl) _ _
  obtain ⟨hverified, hunscanned, hextra⟩ := summary_progress s a anchor now stamp
  refine ⟨?_, ?_, ?_, hverified, hunscanned, hextra, rfl⟩
  · rw [hserials]
    exact assignmentVerdicts_nodup s a now
  · intro n
    rw [hserials, assignmentVerdicts_serials, List.mem_append, List.mem_filter, decide_eq_true_eq,
      mem_expectedIds, mem_scannedIds]
    constructor
    · rintro (h | ⟨h, -⟩)
      · exact Or.inl h
      · exact Or.inr h
    · intro h
      by_cases hexpected : Expected s a n
      · exact Or.inl hexpected
      · exact Or.inr ⟨h.resolve_left hexpected, hexpected⟩
  · intro f hf
    obtain ⟨v, hv, id, rfl⟩ := mem_makeFindings _ _ _ hf
    exact assignmentVerdicts_finds hv

/-- States that agree on the scans agree on the verdicts, up to their order. -/
theorem assignmentVerdicts_perm (h : SameScans a s t) (now : Instant) :
    (assignmentVerdicts s a now).Perm (assignmentVerdicts t a now) := by
  have hexpected : ∀ n, n ∈ s.expectedIds a.id ↔ n ∈ t.expectedIds a.id := by
    intro n
    rw [mem_expectedIds, mem_expectedIds, h.expected]
  have hscanned : ∀ n, n ∈ s.scannedIds a ↔ n ∈ t.scannedIds a := by
    intro n
    rw [mem_scannedIds, mem_scannedIds, h.scanned]
  have hstatus : ∀ n, s.db.statusOf n = t.db.statusOf n := by
    intro n
    unfold Db.statusOf
    rw [h.serials]
  unfold assignmentVerdicts
  dsimp only
  apply List.Perm.append
  -- The expected units of both states are the same, in another order perhaps.
  · have hperm :=
      (List.perm_ext_iff_of_nodup (expectedIds_nodup s a.id) (expectedIds_nodup t a.id)).mpr
      hexpected
    have hmap := hperm.map fun n => if n ∈ s.scannedIds a then
      (⟨n, .verified, s.db.statusOf n⟩ : AuditVerdict)
      else ⟨n, if a.endsAt < now then .missing else .pending, none⟩
    refine hmap.trans (List.Perm.of_eq (List.map_congr_left fun n _ => ?_))
    rw [hstatus n]
    simp only [hscanned n]
  -- And so are those that were scanned without being expected.
  · have hperm : ((s.scannedIds a).filter fun n => n ∉ s.expectedIds a.id).Perm
        ((t.scannedIds a).filter fun n => n ∉ t.expectedIds a.id) := by
      apply (List.perm_ext_iff_of_nodup ((scannedIds_nodup s a).filter _)
        ((scannedIds_nodup t a).filter _)).mpr
      intro n
      simp only [List.mem_filter, hscanned n, hexpected n]
    have hmap := hperm.map fun n => (⟨n, .extra, s.db.statusOf n⟩ : AuditVerdict)
    refine hmap.trans (List.Perm.of_eq (List.map_congr_left fun n _ => ?_))
    rw [hstatus n]

/-- A finding says the same of the same rows. -/
private theorem makeFinding_unfiled (h : SameScans a s t) (v : AuditVerdict)
    (batchId batchId' : Nat) (stamp stamp' : Instant) (id id' : Nat) :
    (makeFinding s.db batchId stamp v id).unfiled =
        (makeFinding t.db batchId' stamp' v id').unfiled := by
  have hproduct : ((s.db.serial v.serialId).bind fun q => s.db.product q.productId)
      = (t.db.serial v.serialId).bind fun q => t.db.product q.productId := by
    rw [h.serials]
    congr 1
    funext q
    exact h.products q.productId
  unfold makeFinding AuditFinding.unfiled
  dsimp only
  rw [hproduct, h.serials]

/-- Reconciliation is exact: its findings are those of the serials that are expected or were
scanned in the window, once each, and its summary has the counts of the progress; what is
filed elsewhere stays. Run again, it changes no more than times. And states that agree on the
scans as sets of serials get the same findings, wherever they file them. -/
theorem assignment_reconciled (s : AuditDb) (a : AuditAssignment) (anchor : Batch)
    (now stamp : Instant) (hanchor : anchor ∈ s.db.auditBatches a.id) :
    let r := reconcileAuditAssignment s a anchor now stamp
    Exact s a now (r.2.findingsOf a.id) r.1 ∧
      (r.2 = { s with findings := r.2.findings } ∧
        r.2.findings.filter (fun f => f.batchId ∉ (s.db.auditBatches a.id).map (·.id))
          = s.findings.filter fun f => f.batchId ∉ (s.db.auditBatches a.id).map (·.id)) ∧
      (∀ stamp', let again := reconcileAuditAssignment r.2 a anchor now stamp'
        again.1 = r.1 ∧ again.2 = { r.2 with findings := again.2.findings } ∧
          again.2.findings.map AuditFinding.undated = r.2.findings.map AuditFinding.undated) ∧
      ∀ t anchor' stamp', SameScans a s t → anchor' ∈ t.db.auditBatches a.id →
        let other := reconcileAuditAssignment t a anchor' now stamp'
        other.1 = r.1 ∧ ((other.2.findingsOf a.id).map AuditFinding.unfiled).Perm
          ((r.2.findingsOf a.id).map AuditFinding.unfiled) := by
  dsimp only
  have hfindings := findingsOf_reconciled now stamp hanchor
  have hkept : (reconcileAuditAssignment s a anchor now stamp).2.findings.filter
        (fun f => f.batchId ∉ (s.db.auditBatches a.id).map (·.id))
      = s.findings.filter fun f => f.batchId ∉ (s.db.auditBatches a.id).map (·.id) := by
    show (s.findings.filter _ ++ freshFindings s a anchor now stamp).filter _ = _
    have hnew : (freshFindings s a anchor now stamp).filter
        (fun f => f.batchId ∉ (s.db.auditBatches a.id).map (·.id)) = [] := by
      apply List.filter_eq_nil_iff.mpr
      intro f hf
      obtain ⟨v, -, id, rfl⟩ := mem_makeFindings _ _ _ hf
      have hin : anchor.id ∈ (s.db.auditBatches a.id).map (·.id) := List.mem_map_of_mem hanchor
      simpa [makeFinding] using hin
    rw [List.filter_append, hnew, List.append_nil, List.filter_filter]
    simp only [Bool.and_self]
  refine ⟨?_, ⟨rfl, hkept⟩, fun stamp' => ?_, fun t anchor' stamp' hsame hanchor' => ?_⟩
  · rw [hfindings]
    exact freshFindings_exact s a anchor now stamp
  · -- The second run deletes what the first wrote, and numbers its own the same.
    have hfresh : freshFindings (reconcileAuditAssignment s a anchor now stamp).2 a
        anchor now stamp'
        = makeFindings s.db anchor.id stamp'
          (nextId (·.id)
            (s.findings.filter fun f => f.batchId ∉ (s.db.auditBatches a.id).map (·.id)))
          (assignmentVerdicts s a now) := by
      unfold freshFindings
      show makeFindings s.db anchor.id stamp' (nextId (·.id)
        ((reconcileAuditAssignment s a anchor now stamp).2.findings.filter
          fun f => f.batchId ∉
            (s.db.auditBatches a.id).map (·.id))) (assignmentVerdicts s a now) = _
      rw [hkept]
    have hundated :
        (freshFindings (reconcileAuditAssignment s a anchor now stamp).2 a anchor now stamp').map
          AuditFinding.undated = (freshFindings s a anchor now stamp).map AuditFinding.undated := by
      rw [hfresh]
      exact (makeFindings_map s.db anchor.id stamp' _
        (fun v => (makeFinding s.db anchor.id 0 v 0).undated) (fun _ _ => rfl) _ _).trans
        (makeFindings_map s.db anchor.id stamp _
          (fun v => (makeFinding s.db anchor.id 0 v 0).undated) (fun _ _ => rfl) _ _).symm
    refine ⟨?_, rfl, ?_⟩
    · show auditSummary (freshFindings _ a anchor now stamp') =
        auditSummary (freshFindings s a anchor now stamp)
      apply summary_of_perm
      have := congrArg (List.map AuditFinding.unfiled) hundated
      rw [List.map_map, List.map_map] at this
      exact List.Perm.of_eq this
    · show (List.filter _ (reconcileAuditAssignment s a anchor now stamp).2.findings
        ++ freshFindings _ a anchor now stamp').map AuditFinding.undated = (List.filter _ s.findings
        ++ freshFindings s a anchor now stamp).map AuditFinding.undated
      rw [List.map_append, List.map_append, hundated]
      congr 2
  · have hother := findingsOf_reconciled now stamp' hanchor'
    have hperm : ((freshFindings t a anchor' now stamp').map AuditFinding.unfiled).Perm
        ((freshFindings s a anchor now stamp).map AuditFinding.unfiled) := by
      have ht : (freshFindings t a anchor' now stamp').map AuditFinding.unfiled
          = (assignmentVerdicts t a now).map fun v => (makeFinding s.db 0 0 v 0).unfiled :=
        makeFindings_map _ _ _ _ _ (fun v id => (makeFinding_unfiled hsame v 0 _ 0 _ 0 id).symm) _ _
      have hs : (freshFindings s a anchor now stamp).map AuditFinding.unfiled
          = (assignmentVerdicts s a now).map fun v => (makeFinding s.db 0 0 v 0).unfiled :=
        makeFindings_map _ _ _ _ _ (fun _ _ => rfl) _ _
      rw [ht, hs]
      exact ((assignmentVerdicts_perm hsame now).symm).map _
    rw [hother, hfindings]
    exact ⟨summary_of_perm hperm, hperm⟩

/-- An audit of two bottles, a third one found: the first was scanned at the start of the
window into one batch and again into another, the second only after its end. -/
def bottlesAudited : AuditDb :=
  let batch (id : Nat) : Batch :=
    { id := id, batchNumber := decDigits id, batchType := .audit, partyName := none,
      partyState := none, partyGstRegistrationType := none, partyGstName := none,
      partyGstin := none, gstTreatment := none, gstCgstRate := none, gstSgstRate := none,
      gstIgstRate := none, reasonCode := none, userId := 1, auditAssignmentId := some 1,
      status := .draft, tallyReference := none, notes := none, lastError := none,
      submittedAt := none, syncedAt := none }
  let item (id batchId serialId : Nat) : BatchItem :=
    ⟨id, batchId, serialId, none, none, false, none, none, none⟩
  let bottle : Product :=
    { id := 1, productCode := py "BOTTLE", productName := py "Bottle", nickname := none,
      category := none, brand := none, hsn := py "7010", gstRate := .zero, unit := py "Pcs",
      defaultRate := .zero, salesDiscountRate := .zero, shelfVerificationInterval := 1,
      tallyStockItemName := py "Bottle", alternateTallyStockItemName := none, active := true }
  let serial (id : Nat) : Serial :=
    { id := id, serialNumber := py "BOTTLE-" ++ decDigits id, productId := 1, status := .inStock,
      active := true, createdAt := 0, replacedById := none, productBatchNumber := none,
      mfgDate := none, expiryDate := none, warehouse := some (py "Main"),
      warehouseLevel := .homeFranchise, locationId := none }
  { db := { Db.empty with
      products := [bottle]
      serials := [serial 1, serial 2, serial 3]
      batches := [batch 1, batch 2]
      batchItems := [item 1 1 1, item 2 1 3, item 3 2 1, item 4 2 2]
      assignments := [⟨1, 1, 1, 100, 200⟩] }
    batchTimes := fun _ => 100
    itemTimes :=
      fun id => if id = 1 then 100 else if id = 2 then 150 else if id = 3 then 200 else 201
    expected := [⟨1, 1, 1⟩, ⟨2, 1, 2⟩]
    findings := [] }

/-- At the deadline the second bottle is still pending; a moment later it is missing. -/
theorem assignment_reconciled_bottles :
    (∀ anchor ∈ bottlesAudited.db.auditBatches 1, ∀ now stamp,
      Exact bottlesAudited ⟨1, 1, 1, 100, 200⟩ now
        ((reconcileAuditAssignment bottlesAudited ⟨1, 1, 1, 100, 200⟩ anchor now stamp).2.findingsOf
          1)
        (reconcileAuditAssignment bottlesAudited ⟨1, 1, 1, 100, 200⟩ anchor now stamp).1) ∧
    ∀ anchor ∈ bottlesAudited.db.auditBatches 1,
      (reconcileAuditAssignment bottlesAudited ⟨1, 1, 1, 100, 200⟩ anchor 200 0).1 =
          ⟨1, 0, 1, 1, 3⟩ ∧
      (reconcileAuditAssignment bottlesAudited ⟨1, 1, 1, 100, 200⟩ anchor 201 0).1 =
          ⟨1, 1, 1, 0, 3⟩ := by
  constructor
  · intro anchor hanchor now stamp
    exact (assignment_reconciled bottlesAudited ⟨1, 1, 1, 100, 200⟩ anchor now stamp hanchor).1
  · decide +kernel

end SetuoraLite
