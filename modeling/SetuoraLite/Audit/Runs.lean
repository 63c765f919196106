import SetuoraLite.Audit.Reconcile
import SetuoraLite.Stock.Keys

/-!
# Audits over whole runs

What a run of a node with audits keeps (`FindingsKept`): findings are filed under batches of
audits, and a serial has one finding in an audit, however many batches the audit has. Batches
only grow in number and keep what they are filed under (`BatchesGrow`), so a finding stays
where it is until its audit is reconciled again, which replaces all findings of the audit.

From it follows that the report of missing stock lists a serial once (`missing_stock_once`),
that findings are exact after the submission of an audit and after a later deadline
(`assignment_submission_exact`, `free_submission_exact`, `extension_exact`), and that the refresh
goes through and leaves nothing pending that is over (`refresh_settles`).
-/

namespace SetuoraLite

open Lib

/-! ## Batches -/

/-- What a batch is filed under. -/
def Batch.filing (b : Batch) : Nat × BatchType × Option Nat :=
  (b.id, b.batchType, b.auditAssignmentId)

/-- What the batches are filed under. -/
def Db.filings (db : Db) : List (Nat × BatchType × Option Nat) := db.batches.map Batch.filing

/-- A batch that is filed under an assignment is an audit, and the assignment is there. -/
def FiledUnder (db : Db) (k : Nat × BatchType × Option Nat) : Prop :=
  ∀ id ∈ k.2.2, k.2.1 = .audit ∧ id ∈ db.assignments.map (·.id)

/-- Batches and assignments stay; a new batch has a new id, and a new assignment has a batch. -/
structure BatchesGrow (db db' : Db) : Prop where
  kept : ∀ k ∈ db.filings, k ∈ db'.filings
  origin : ∀ k ∈ db'.filings, k ∈ db.filings ∨ (∀ b ∈ db.batches, b.id ≠ k.1) ∧ FiledUnder db' k
  assignments : ∀ id ∈ db.assignments.map (·.id), id ∈ db'.assignments.map (·.id)
  begun : ∀ id ∈ db'.assignments.map (·.id),
    id ∈ db.assignments.map (·.id) ∨ ∃ k ∈ db'.filings, k.2.2 = some id

/-- Two batches belong to one audit: they are the same, or batches of one assignment. -/
def SameAudit (db : Db) (m n : Nat) : Prop :=
  m = n ∨ ∃ a, m ∈ (db.auditBatches a).map (·.id) ∧ n ∈ (db.auditBatches a).map (·.id)

theorem mem_auditBatches {db : Db} {a n : Nat} :
    n ∈ (db.auditBatches a).map (·.id) ↔ ∃ type, (n, type, some a) ∈ db.filings := by
  unfold Db.auditBatches Db.filings
  simp only [List.mem_map, List.mem_filter, decide_eq_true_eq]
  constructor
  · rintro ⟨b, ⟨hb, ha⟩, rfl⟩
    exact ⟨b.batchType, b, hb, by rw [Batch.filing, ha]⟩
  · rintro ⟨type, b, hb, he⟩
    simp only [Batch.filing, Prod.mk.injEq] at he
    exact ⟨b, ⟨hb, he.2.2⟩, he.1⟩

theorem BatchesGrow.refl (db : Db) : BatchesGrow db db :=
  ⟨fun _ h => h, fun _ h => .inl h, fun _ h => h, fun _ h => .inl h⟩

/-- Nothing changes what batches are filed under. -/
theorem BatchesGrow.of_same {db db' : Db} (hfilings : db'.filings = db.filings)
    (hassignments : db'.assignments.map (·.id) = db.assignments.map (·.id)) : BatchesGrow db db' :=
  ⟨fun _ h => hfilings ▸ h, fun _ h => .inl (hfilings ▸ h), fun _ h => hassignments ▸ h,
    fun _ h => .inl (hassignments ▸ h)⟩

/-- A batch that is there, by what it is filed under. -/
private theorem mem_filings {db : Db} {b : Batch} (hb : b ∈ db.batches) : b.filing ∈ db.filings :=
  List.mem_map_of_mem hb

theorem BatchesGrow.trans {db db' db'' : Db} (h : BatchesGrow db db') (h' : BatchesGrow db' db'') :
    BatchesGrow db db'' := by
  refine ⟨fun k hk => h'.kept k (h.kept k hk), fun k hk => ?_,
    fun id hid => h'.assignments id (h.assignments id hid), fun id hid => ?_⟩
  · rcases h'.origin k hk with hold | ⟨hfresh, hfiled⟩
    · rcases h.origin k hold with hfirst | ⟨hfresh, hfiled⟩
      · exact .inl hfirst
      · refine .inr ⟨hfresh, fun id hid => ?_⟩
        exact ⟨(hfiled id hid).1, h'.assignments id (hfiled id hid).2⟩
    · refine .inr ⟨fun b hb => ?_, hfiled⟩
      obtain ⟨b', hb', he⟩ := List.mem_map.mp (h.kept _ (mem_filings hb))
      have hid : b'.id = b.id := congrArg Prod.fst he
      exact hid ▸ hfresh b' hb'
  · rcases h'.begun id hid with hold | hnew
    · exact (h.begun id hold).imp (fun h => h) fun ⟨k, hk, he⟩ => ⟨k, h'.kept k hk, he⟩
    · exact .inr hnew

/-- One more batch. -/
theorem BatchesGrow.opened {db db' : Db} {row : Batch}
    (hbatches : db'.batches = db.batches ++ [row]) (hfresh : row.id = nextId (·.id) db.batches)
    (hassignments : ∀ id ∈ db.assignments.map (·.id), id ∈ db'.assignments.map (·.id))
    (hbegun : ∀ id ∈ db'.assignments.map (·.id),
      id ∈ db.assignments.map (·.id) ∨ row.auditAssignmentId = some id)
    (hfiled : FiledUnder db' row.filing) : BatchesGrow db db' := by
  have hfilings : db'.filings = db.filings ++ [row.filing] := by
    unfold Db.filings
    rw [hbatches, List.map_append]
    rfl
  refine ⟨fun k hk => ?_, fun k hk => ?_, hassignments, fun id hid => ?_⟩
  · rw [hfilings]
    exact List.mem_append_left _ hk
  · rw [hfilings] at hk
    rcases List.mem_append.mp hk with hk | hk
    · exact .inl hk
    · obtain rfl := List.mem_singleton.mp hk
      refine .inr ⟨fun b hb => ?_, hfiled⟩
      show b.id ≠ row.id
      rw [hfresh]
      exact nextId_fresh hb
  · refine (hbegun id hid).imp_right fun he => ⟨row.filing, ?_, he⟩
    rw [hfilings]
    exact List.mem_append_right _ List.mem_cons_self

section Steps

variable {rt : Runtime} {db : Db}

/-- No transaction of a request touches the assignments. -/
private theorem writesOf_assignments (c : StockCommit) : Tx.Keeps Db.assignments (writesOf c) :=
  writesOf_keeps (.of_frame fun _ _ => rfl) (marksItems_of_frame fun _ _ => rfl) (fun _ _ => rfl)
    (fun _ _ => rfl) (fun _ _ => rfl) (fun _ _ => rfl) (fun _ _ => rfl) (fun _ _ _ => rfl) c
    (fun _ hc => by
      subst hc
      exact .bind (insertTransferItem_keeps (fun _ _ => rfl) _) fun _ => .pure _)
    (fun _ hc => by
      subst hc
      exact deleteTransferItem_keeps (fun _ _ => rfl) _)

/-- A commit of an order lets batches grow, when a batch that the order opens is filed under
an assignment that is there. -/
private theorem commit_grows {o : StockOrder} {c : StockCommit} {t t' : Db} {u : PUnit}
    (hopen : ∀ user form now, o = .openBatch user form now →
      ∀ id ∈ form.auditAssignmentId, form.batchType = .audit ∧ id ∈ db.assignments.map (·.id))
    (hgrown : BatchesGrow db t) (hready : Ready rt c t) (hasked : o.Asked db c t)
    (hx : writesOf c t = (.ok u, t')) : BatchesGrow t t' := by
  have hassignments : t'.assignments = t.assignments := by
    have hkept := writesOf_assignments c t
    rwa [hx] at hkept
  have hsame (h : t'.batches = t.batches) : BatchesGrow t t' :=
    .of_same (by unfold Db.filings; rw [h]) (by rw [hassignments])
  cases writesOf_batchMove hready hx with
  | kept batches items => exact hsame batches
  | added batch draft keys rows batches items => exact hsame batches
  | removed batch draft item stored batchId drops batches items => exact hsame batches
  | submitted s loaded submits draft batches items =>
    refine .of_same ?_ (by rw [hassignments])
    unfold Db.filings
    rw [batches]
    exact map_modifyRow fun _ _ _ => rfl
  | opened row draft fresh opens batches items =>
    obtain ⟨new, rfl, htype, hassigned⟩ := opens
    refine .opened batches fresh (fun id hid => by rw [hassignments]; exact hid)
      (fun id hid => .inl (by rw [hassignments] at hid; exact hid)) ?_
    intro id hid
    -- Only the order that opens a batch commits one.
    cases o with
    | openBatch user form now =>
      obtain ⟨hformType, hformAssigned⟩ := hasked.1
      have hform : id ∈ form.auditAssignmentId := by
        rw [← hformAssigned, ← hassigned]
        exact hid
      obtain ⟨haudit, hthere⟩ := hopen user form now rfl id hform
      refine ⟨htype.trans (hformType.trans haudit), ?_⟩
      rw [hassignments]
      exact hgrown.assignments id hthere
    | _ => exact absurd hasked.1 (by simp [StockOrder.Asks, ScanAsks, PickAsks])

/-- A stock action keeps the keys and lets batches grow. -/
theorem stockStep_grows (rt : Runtime) (st : Settings) (a : StockAction) (hk : db.Keyed)
    (hopen : ∀ user form now, a = .order (.openBatch user form now) →
      ∀ id ∈ form.auditAssignmentId, form.batchType = .audit ∧ id ∈ db.assignments.map (·.id)) :
    (stockStep rt st db a).Keyed ∧ BatchesGrow db (stockStep rt st db a) := by
  let I (t : Db) : Prop := t.Keyed ∧ BatchesGrow db t
  have hsame {t t' : Db} (h : (t'.batches, t'.assignments) = (t.batches, t.assignments)) :
      BatchesGrow t t' := by
    obtain ⟨hbatches, hassignments⟩ := Prod.mk.inj h
    exact .of_same (by unfold Db.filings; rw [hbatches]) (by rw [hassignments])
  refine stockStep_invariant (I := I)
    (Q := fun c t => Ready rt c t ∧ ∃ o : StockOrder, a = .order o ∧ o.Asked db c t)
    (fun o ho => ?_) (fun c t t' ht hc hx => ?_) (fun m => ?_) (fun now uuid command _ => ?_)
    ⟨hk, .refl db⟩
  -- A commit of a request, a move, a command of Master.
  · exact ((request_ready st hk.serials o).and (request_asks hk.serials o)).imp
      (fun c t hc => ⟨hc.1, o, ho, hc.2⟩) fun _ _ h => h
  · obtain ⟨hready, o, rfl, hasked⟩ := hc
    refine ⟨ready_keyed ht.1 hready hx, ht.2.trans ?_⟩
    refine commit_grows (fun user form now ho => ?_) ht.2 hready hasked hx
    exact hopen user form now (congrArg StockAction.order ho)
  · refine (relocateStock_keyed st m).and fun t t' u _ hI hx => ?_
    have hkept := relocateStock_keeps (f := fun d : Db => (d.batches, d.assignments))
      (.of_frame fun _ _ => rfl) (fun _ _ => rfl) (fun _ _ => rfl) (fun _ _ => rfl)
      (fun _ _ => rfl) (fun _ _ _ => rfl) st m t
    rw [hx] at hkept
    exact hI.trans (hsame hkept)
  -- No handler writes the batches or the assignments.
  · refine (applyMasterCommand_keyed rt st now uuid command).and fun t t' u _ hI hx => ?_
    have hkept := applyMasterCommand_same (f := fun d : Db => (d.batches, d.assignments))
      (fun _ _ => rfl) (fun _ _ => rfl) (fun _ _ => rfl) (fun _ _ => rfl) (fun _ _ => rfl)
      (fun _ _ => rfl) (fun _ _ _ => rfl) rt st now uuid command t
    exact hI.trans (hsame (hkept t t' u rfl hx))

end Steps

/-! ## Findings -/

/-- What a node with audits keeps. -/
structure FindingsKept (s : AuditDb) : Prop where
  keyed : s.db.Keyed
  assigned : ∀ k ∈ s.db.filings, FiledUnder s.db k
  begun : ∀ id ∈ s.db.assignments.map (·.id), ∃ k ∈ s.db.filings, k.2.2 = some id
  ids : (s.findings.map (·.id)).Nodup
  filed : ∀ f ∈ s.findings, ∃ k ∈ s.db.filings, k.1 = f.batchId ∧ k.2.1 = .audit
  once : ∀ f ∈ s.findings, ∀ g ∈ s.findings, SameAudit s.db f.batchId g.batchId →
    f.serialId = g.serialId → f = g

theorem findingsKept_empty : FindingsKept AuditDb.empty where
  keyed := by constructor <;> simp [Db.keys, AuditDb.empty, Db.empty]
  assigned _ hk := absurd hk List.not_mem_nil
  begun _ hid := absurd hid List.not_mem_nil
  ids := List.nodup_nil
  filed _ hf := absurd hf List.not_mem_nil
  once _ hf := absurd hf List.not_mem_nil

/-- Batches that were there before are not brought together. -/
theorem BatchesGrow.sameAudit {db db' : Db} (h : BatchesGrow db db') {m n : Nat}
    (hm : ∃ k ∈ db.filings, k.1 = m) (hn : ∃ k ∈ db.filings, k.1 = n) (hsame : SameAudit db' m n) :
    SameAudit db m n := by
  have hback {a i : Nat} (hi : ∃ k ∈ db.filings, k.1 = i)
      (hin : i ∈ (db'.auditBatches a).map (·.id)) :
      i ∈ (db.auditBatches a).map (·.id) := by
    obtain ⟨type, hk⟩ := mem_auditBatches.mp hin
    rcases h.origin _ hk with hold | ⟨hfresh, -⟩
    · exact mem_auditBatches.mpr ⟨type, hold⟩
    · obtain ⟨_, hold, rfl⟩ := hi
      obtain ⟨b, hb, rfl⟩ := List.mem_map.mp hold
      exact absurd rfl (hfresh b hb)
  rcases hsame with rfl | ⟨a, hm', hn'⟩
  · exact .inl rfl
  · exact .inr ⟨a, hback hm hm', hback hn hn'⟩

/-- What writes no finding keeps them, when it lets batches grow. -/
theorem FindingsKept.grown {s s' : AuditDb} (h : FindingsKept s) (hk : s'.db.Keyed)
    (hgrow : BatchesGrow s.db s'.db) (hfindings : s'.findings = s.findings) : FindingsKept s' where
  keyed := hk
  assigned k hk := by
    rcases hgrow.origin k hk with hold | ⟨-, hfiled⟩
    · intro id hid
      exact ⟨(h.assigned k hold id hid).1, hgrow.assignments id (h.assigned k hold id hid).2⟩
    · exact hfiled
  begun id hid := by
    rcases hgrow.begun id hid with hold | hnew
    · obtain ⟨k, hk, he⟩ := h.begun id hold
      exact ⟨k, hgrow.kept k hk, he⟩
    · exact hnew
  ids := hfindings ▸ h.ids
  filed f hf := by
    obtain ⟨k, hk, he⟩ := h.filed f (hfindings ▸ hf)
    exact ⟨k, hgrow.kept k hk, he⟩
  once f hf g hg hsame hserial := by
    rw [hfindings] at hf hg
    have hthere {f : AuditFinding} (hf : f ∈ s.findings) : ∃ k ∈ s.db.filings, k.1 = f.batchId := by
      obtain ⟨k, hk, he, -⟩ := h.filed f hf
      exact ⟨k, hk, he⟩
    exact h.once f hf g hg (hgrow.sameAudit (hthere hf) (hthere hg) hsame) hserial

/-- An assignment has a batch. -/
theorem FindingsKept.batches_ne_nil {s : AuditDb} (h : FindingsKept s) {a : AuditAssignment}
    (ha : a ∈ s.db.assignments) : s.db.auditBatches a.id ≠ [] := by
  obtain ⟨⟨m, type, _⟩, hfiling, rfl⟩ := h.begun a.id (List.mem_map_of_mem ha)
  have hin := mem_auditBatches.mpr ⟨type, hfiling⟩
  intro hnone
  rw [hnone] at hin
  exact List.not_mem_nil hin

/-- A batch is filed in one place. -/
theorem FindingsKept.filing_eq {s : AuditDb} (h : FindingsKept s)
    {k k' : Nat × BatchType × Option Nat} (hk : k ∈ s.db.filings) (hk' : k' ∈ s.db.filings)
    (he : k.1 = k'.1) : k = k' := by
  obtain ⟨b, hb, rfl⟩ := List.mem_map.mp hk
  obtain ⟨b', hb', rfl⟩ := List.mem_map.mp hk'
  rw [h.keyed.batch_eq hb hb' he]

/-! ## What a reconciliation keeps -/

section Reconciliation

variable {s : AuditDb}

/-- New findings are numbered upwards. -/
private theorem makeFindings_ids (db : Db) (batchId : Nat) (stamp : Instant) (id : Nat)
    (verdicts : List AuditVerdict) :
    (makeFindings db batchId stamp id verdicts).map (·.id) = List.range' id verdicts.length := by
  induction verdicts generalizing id with
  | nil => rfl
  | cons v verdicts ih =>
    rw [makeFindings, List.map_cons, ih, List.length_cons, List.range'_succ]
    rfl

/-- The findings of an audit are replaced by one for each serial; `kept` tells which batches
are not the audit's. -/
theorem FindingsKept.replaced (h : FindingsKept s) (kept : Nat → Bool) {anchor : Nat}
    {verdicts : List AuditVerdict} (stamp : Instant)
    (hanchor : ∃ k ∈ s.db.filings, k.1 = anchor ∧ k.2.1 = .audit)
    (hkept : ∀ n, SameAudit s.db n anchor → kept n = false)
    (hverdicts : (verdicts.map (·.serialId)).Nodup) :
    FindingsKept
      { s with
        findings := s.findings.filter (fun f => kept f.batchId) ++
          makeFindings s.db anchor stamp (nextId (·.id) (s.findings.filter fun f => kept f.batchId))
            verdicts } := by
  set old := s.findings.filter fun f => kept f.batchId with hold
  set new := makeFindings s.db anchor stamp (nextId (·.id) old) verdicts with hnew
  have hfiled {f : AuditFinding} (hf : f ∈ new) : f.batchId = anchor := by
    obtain ⟨v, -, id, rfl⟩ := mem_makeFindings _ _ _ hf
    rfl
  have hserials : (new.map (·.serialId)).Nodup := by
    have hmap := makeFindings_map s.db anchor stamp (·.serialId) (·.serialId) (fun _ _ => rfl)
      (nextId (·.id) old) verdicts
    rw [hnew, hmap]
    exact hverdicts
  -- A kept finding and a new one are of different audits.
  have hapart {f g : AuditFinding} (hf : f ∈ old) (hg : g ∈ new) : ¬ SameAudit s.db f.batchId
      g.batchId := by
    intro hsame
    have hout := hkept f.batchId (hfiled hg ▸ hsame)
    rw [(List.mem_filter.mp hf).2] at hout
    exact Bool.noConfusion hout
  refine ⟨h.keyed, h.assigned, h.begun, ?_, ?_, ?_⟩
  · show ((old ++ new).map (·.id)).Nodup
    rw [List.map_append, List.nodup_append]
    refine ⟨(List.filter_sublist.map _).nodup h.ids, ?_, ?_⟩
    · rw [hnew, makeFindings_ids]
      exact List.nodup_range'
    · intro i hi j hj
      obtain ⟨f, hf, rfl⟩ := List.mem_map.mp hi
      rw [hnew, makeFindings_ids, List.mem_range'_1] at hj
      have hle := le_maxId (·.id) hf
      unfold nextId at hj
      omega
  · intro f hf
    rcases List.mem_append.mp hf with hf | hf
    · exact h.filed f (List.mem_of_mem_filter hf)
    · rw [hfiled hf]
      exact hanchor
  · intro f hf g hg hsame hserial
    rcases List.mem_append.mp hf with hf | hf <;> rcases List.mem_append.mp hg with hg | hg
    · exact h.once f (List.mem_of_mem_filter hf) g (List.mem_of_mem_filter hg) hsame hserial
    · exact absurd hsame (hapart hf hg)
    · refine absurd ?_ (hapart hg hf)
      rcases hsame with he | ⟨a, hm, hn⟩
      · exact .inl he.symm
      · exact .inr ⟨a, hn, hm⟩
    · exact eq_of_key_eq hserials hf hg hserial

/-- The reconciliation of an assignment. -/
theorem FindingsKept.assignment (h : FindingsKept s) {a : AuditAssignment} {anchor : Batch}
    (now stamp : Instant) (hanchor : anchor.id ∈ (s.db.auditBatches a.id).map (·.id)) :
    FindingsKept (reconcileAuditAssignment s a anchor now stamp).2 := by
  obtain ⟨type, hfiling⟩ := mem_auditBatches.mp hanchor
  refine h.replaced (fun n => decide (n ∉ (s.db.auditBatches a.id).map (·.id))) stamp
    ⟨_, hfiling, rfl, (h.assigned _ hfiling a.id rfl).1⟩ (fun n hsame => ?_)
    (assignmentVerdicts_nodup s a now)
  rw [decide_eq_false_iff_not, not_not]
  rcases hsame with rfl | ⟨a', hn, hanchor'⟩
  · exact hanchor
  · obtain ⟨type', hfiling'⟩ := mem_auditBatches.mp hanchor'
    have he := h.filing_eq hfiling hfiling' rfl
    have hid : a.id = a' := Option.some.inj (congrArg (fun k => k.2.2) he)
    rw [hid]
    exact hn

/-- Whether findings are exact does not depend on what is stored as findings. -/
theorem Exact.refiled {a : AuditAssignment} {now : Instant} {findings : List AuditFinding}
    {summary : AuditSummary} (h : Exact s a now findings summary) (stored : List AuditFinding) :
    Exact { s with findings := stored } a now findings summary where
  once := h.once
  covers := h.covers
  types f hf := by
    have hfinds := h.types f hf
    generalize f.findingType = type at hfinds ⊢
    cases hfinds with
    | verified hexpected hscanned => exact .verified hexpected hscanned
    | missing hexpected hscanned hlate => exact .missing hexpected hscanned hlate
    | pending hexpected hscanned hearly => exact .pending hexpected hscanned hearly
    | extra hexpected hscanned => exact .extra hexpected hscanned
  verified := h.verified
  unscanned := h.unscanned
  extra := h.extra
  total := h.total

/-- A reconciliation is exact in the state that it leaves, whatever is stored of its anchor. -/
theorem reconciled_exact {a : AuditAssignment} {anchor : Batch} (now stamp : Instant)
    (hanchor : anchor.id ∈ (s.db.auditBatches a.id).map (·.id)) :
    let s' := (reconcileAuditAssignment s a anchor now stamp).2
    Exact s' a now (s'.findingsOf a.id) (auditSummary (s'.findingsOf a.id)) := by
  obtain ⟨b, hb, he⟩ := List.mem_map.mp hanchor
  have hsame : reconcileAuditAssignment s a anchor now stamp =
      reconcileAuditAssignment s a b now stamp := by
    unfold reconcileAuditAssignment
    rw [he]
  dsimp only
  rw [hsame, findingsOf_reconciled now stamp hb]
  exact (freshFindings_exact s a b now stamp).refiled _

/-- A free audit has one verdict on a serial. -/
theorem freeVerdicts_nodup (hk : s.db.Keyed) (batch : Batch) :
    ((freeVerdicts s batch).map (·.serialId)).Nodup := by
  refine verdicts_nodup (fun n => by split <;> rfl) (fun _ => rfl)
    ((List.filter_sublist.map _).nodup hk.serials) ?_
  -- A batch has one item for a serial.
  have hitems : ((s.db.itemsOf batch.id).map fun i => (i.batchId, i.serialId)).Nodup :=
    (List.filter_sublist.map _).nodup hk.itemSerials
  have hpairs : (s.db.itemsOf batch.id).map (fun i => (i.batchId, i.serialId))
      = ((s.db.itemsOf batch.id).map (·.serialId)).map fun n => (batch.id, n) := by
    rw [List.map_map]
    apply List.map_congr_left
    intro i hi
    have hbatch : i.batchId = batch.id := of_decide_eq_true (List.mem_filter.mp hi).2
    rw [Function.comp_apply, hbatch]
  rw [hpairs] at hitems
  exact hitems.of_map _

/-- A free audit looks at what is in stock. -/
def Stocked (db : Db) (n : Nat) : Prop :=
  ∃ q ∈ db.serials, q.id = n ∧ q.status = .inStock ∧ q.active = true

/-- The serial was scanned into the batch. -/
def FoundIn (db : Db) (batchId n : Nat) : Prop := ∃ i ∈ db.itemsOf batchId, i.serialId = n

/-- What a free audit says of a serial. -/
inductive FreeFinds (db : Db) (batchId n : Nat) : FindingType → Prop
  | verified : Stocked db n → FoundIn db batchId n → FreeFinds db batchId n .verified
  | missing : Stocked db n → ¬ FoundIn db batchId n → FreeFinds db batchId n .missing
  | extra : ¬ Stocked db n → FoundIn db batchId n → FreeFinds db batchId n .extra

theorem mem_stocked {db : Db} {n : Nat} :
    n ∈ (db.serials.filter fun q => q.status = .inStock && q.active).map (·.id) ↔ Stocked db n := by
  unfold Stocked
  simp only [List.mem_map, List.mem_filter, Bool.and_eq_true, decide_eq_true_eq]
  constructor
  · rintro ⟨q, ⟨hq, hstatus⟩, rfl⟩
    exact ⟨q, hq, rfl, hstatus⟩
  · rintro ⟨q, hq, rfl, hstatus⟩
    exact ⟨q, ⟨hq, hstatus⟩, rfl⟩

theorem mem_foundIn {db : Db} {batchId n : Nat} :
    n ∈ (db.itemsOf batchId).map (·.serialId) ↔ FoundIn db batchId n := List.mem_map

theorem freeVerdicts_serials (s : AuditDb) (batch : Batch) :
    (freeVerdicts s batch).map (·.serialId)
      = (s.db.serials.filter fun q => q.status = .inStock && q.active).map (·.id) ++
        ((s.db.itemsOf batch.id).map (·.serialId)).filter fun n =>
          n ∉ (s.db.serials.filter fun q => q.status = .inStock && q.active).map (·.id) :=
  verdicts_serials (fun n => by split <;> rfl) fun _ => rfl

theorem freeVerdicts_finds {batch : Batch} {v : AuditVerdict} (hv : v ∈ freeVerdicts s batch) :
    FreeFinds s.db batch.id v.serialId v.findingType := by
  unfold freeVerdicts at hv
  rcases List.mem_append.mp hv with hv | hv
  · obtain ⟨n, hn, rfl⟩ := List.mem_map.mp hv
    have hstocked := mem_stocked.mp hn
    by_cases hfound : n ∈ (s.db.itemsOf batch.id).map (·.serialId)
    · rw [if_pos hfound]
      exact .verified hstocked (mem_foundIn.mp hfound)
    · rw [if_neg hfound]
      exact .missing hstocked fun h => hfound (mem_foundIn.mpr h)
  · obtain ⟨n, hn, rfl⟩ := List.mem_map.mp hv
    obtain ⟨hfound, hout⟩ := List.mem_filter.mp hn
    rw [decide_eq_true_eq] at hout
    exact .extra (fun h => hout (mem_stocked.mpr h)) (mem_foundIn.mp hfound)

/-- What a free audit's batch has afterwards. -/
theorem findingsOf_free {batch : Batch} (now stamp : Instant) (htype : batch.batchType = .audit)
    (hfree : batch.auditAssignmentId = none) :
    ((reconcileAuditBatch s batch now stamp).2.findings.filter fun f => f.batchId = batch.id)
      = makeFindings s.db batch.id stamp
          (nextId (·.id) (s.findings.filter fun f => f.batchId ≠ batch.id))
          (freeVerdicts s batch) := by
  unfold reconcileAuditBatch
  rw [if_neg (not_not.mpr htype), hfree]
  show List.filter _ (s.findings.filter _ ++ makeFindings _ _ _ _ _) = _
  rw [List.filter_append]
  have hold : (s.findings.filter fun f => decide (f.batchId ≠ batch.id)).filter
      (fun f => decide (f.batchId = batch.id)) = [] := by
    apply List.filter_eq_nil_iff.mpr
    intro f hf
    rw [decide_eq_true_eq]
    exact of_decide_eq_true (List.mem_filter.mp hf).2
  have hnew : ∀ id, (makeFindings s.db batch.id stamp id (freeVerdicts s batch)).filter
      (fun f => decide (f.batchId = batch.id)) =
          makeFindings s.db batch.id stamp id (freeVerdicts s batch) := by
    intro id
    apply List.filter_eq_self.mpr
    intro f hf
    obtain ⟨v, -, _, rfl⟩ := mem_makeFindings _ _ _ hf
    exact decide_eq_true rfl
  rw [hold, hnew, List.nil_append]

/-- The assignment that an audit's batch belongs to is stored. -/
theorem FindingsKept.assignment_of (h : FindingsKept s) {batch : Batch}
    (hbatch : batch.filing ∈ s.db.filings) {id : Nat} (hid : batch.auditAssignmentId = some id) :
    ∃ a, lookup (·.id) id s.db.assignments = some a ∧ a.id = id ∧
      batch.id ∈ (s.db.auditBatches a.id).map (·.id) := by
  obtain ⟨-, hthere⟩ := h.assigned _ hbatch id hid
  cases hfound : lookup (·.id) id s.db.assignments with
  | none =>
    obtain ⟨a, ha, he⟩ := List.mem_map.mp hthere
    exact absurd he (lookup_none.mp hfound a ha)
  | some a =>
    obtain ⟨-, rfl⟩ := lookup_some hfound
    refine ⟨a, rfl, rfl, mem_auditBatches.mpr ⟨batch.batchType, ?_⟩⟩
    rw [← hid]
    exact hbatch

/-- The reconciliation of any audit. -/
theorem FindingsKept.batch (h : FindingsKept s) {batch : Batch} (now stamp : Instant)
    (hbatch : batch.filing ∈ s.db.filings) :
    FindingsKept (reconcileAuditBatch s batch now stamp).2 := by
  unfold reconcileAuditBatch
  split_ifs with htype
  · exact h
  · cases hid : batch.auditAssignmentId with
    | some id =>
      obtain ⟨a, hfound, -, hanchor⟩ := h.assignment_of hbatch hid
      rw [Option.bind_some, hfound]
      exact h.assignment now stamp hanchor
    | none =>
      refine h.replaced (fun n => decide (n ≠ batch.id)) stamp
        ⟨_, hbatch, rfl, not_not.mp htype⟩ (fun n hsame => ?_) (freeVerdicts_nodup h.keyed batch)
      rw [decide_eq_false_iff_not, not_not]
      rcases hsame with rfl | ⟨a, -, hfiled⟩
      · rfl
      · -- A free audit belongs to no assignment.
        obtain ⟨type, hfiling⟩ := mem_auditBatches.mp hfiled
        have he := h.filing_eq hbatch hfiling rfl
        have hnone : batch.auditAssignmentId = some a := congrArg (fun k => k.2.2) he
        rw [hid] at hnone
        exact absurd hnone (Option.some_ne_none a).symm

/-- The latest batch is a batch of the assignment. -/
theorem latestBatch_mem {id : Nat} {latest : Batch} (h : s.latestBatch id = some latest) :
    latest ∈ s.db.auditBatches id := by
  unfold AuditDb.latestBatch at h
  refine List.foldlRecOn (motive := fun best => ∀ b, best = some b → b ∈ s.db.auditBatches id)
    _ _ (fun b hb => absurd hb.symm (Option.some_ne_none b))
      (fun best hbest b hb m hm => ?_) latest h
  cases best with
  | none => exact Option.some.inj hm ▸ hb
  | some old =>
    dsimp only at hm
    split_ifs at hm with hnewer
    · exact Option.some.inj hm ▸ hb
    · exact hbest m hm

/-- An assignment with a batch has a latest one. -/
theorem latestBatch_some {id : Nat} (h : s.db.auditBatches id ≠ []) : s.latestBatch id ≠ none := by
  unfold AuditDb.latestBatch
  obtain ⟨b, rest, he⟩ := List.exists_cons_of_ne_nil h
  rw [he, List.foldl_cons]
  refine List.foldlRecOn (motive := fun best => best ≠ none) _ _ (Option.some_ne_none b)
    fun best hbest b _ => ?_
  cases best with
  | none => exact absurd rfl hbest
  | some old =>
    dsimp only
    split_ifs <;> exact Option.some_ne_none _

end Reconciliation

/-! ## What each action keeps -/

section Actions

variable {s : AuditDb}

/-- A new deadline. -/
theorem FindingsKept.extended (h : FindingsKept s) (assignmentId : Nat)
    (endsAt now stamp : Instant) :
    FindingsKept (extendAuditAssignmentDeadline s assignmentId endsAt now stamp) := by
  unfold extendAuditAssignmentDeadline
  split
  next => exact h
  next a ha =>
    obtain ⟨-, rfl⟩ := lookup_some ha
    split_ifs with hrefused
    · exact h
    · have hids : (modifyRow (·.id) a.id (fun _ => { a with endsAt := endsAt })
          s.db.assignments).map (·.id) = s.db.assignments.map (·.id) :=
        map_modifyRow fun _ _ hr => hr.symm
      have hkept : FindingsKept { s with db := { s.db with
          assignments := modifyRow (·.id) a.id (fun _ => { a with endsAt := endsAt })
            s.db.assignments } } :=
        h.grown h.keyed (.of_same rfl hids) rfl
      dsimp only
      split
      next latest hlatest =>
        exact hkept.assignment now stamp (List.mem_map_of_mem (latestBatch_mem hlatest))
      next => exact hkept

/-- The refresh of one assignment. -/
theorem FindingsKept.refreshed (h : FindingsKept s) (a : AuditAssignment) (now stamp : Instant) :
    FindingsKept (refreshAssignment s a now stamp) := by
  unfold refreshAssignment
  split
  next => exact h
  next latest hlatest =>
    split_ifs
    · exact h.assignment now stamp (List.mem_map_of_mem (latestBatch_mem hlatest))
    · exact h

/-- The refresh of all that are over. -/
theorem FindingsKept.refreshedAll (h : FindingsKept s) (now stamp : Instant) :
    FindingsKept (refreshExpiredAuditAssignments s now stamp) := by
  unfold refreshExpiredAuditAssignments
  dsimp only
  split_ifs
  · exact h
  · exact List.foldlRecOn (motive := FindingsKept) _ _ h fun _ ht a _ => ht.refreshed a now stamp

/-- A new assignment and its first batch. -/
theorem insertAssignment_grows {form : AssignmentForm} {product : Product} {now : Instant}
    {db db' : Db} {u : PUnit} (hk : db.Keyed)
    (h : insertAssignment form product now db = (.ok u, db')) :
    db'.Keyed ∧ BatchesGrow db db' := by
  obtain ⟨seen, t₁, h₁, h⟩ := Tx.bind_ok.mp h
  obtain ⟨rfl, rfl⟩ := Tx.reads_ok.mp h₁
  obtain ⟨_, t₂, h₂, h⟩ := Tx.bind_ok.mp h
  obtain rfl := Tx.modify_ok.mp h₂
  obtain ⟨row, t₃, h₃, h⟩ := Tx.bind_ok.mp h
  obtain ⟨hrow, rfl⟩ := Tx.lift_ok.mp h₃
  obtain ⟨htype, hassigned⟩ := row_assignment hrow
  refine ⟨insertBatch_keyed _ _ _ _ ?_ h, ?_⟩
  · exact hk
  obtain ⟨-, rfl⟩ := insertBatch_ok h
  refine .opened rfl rfl (fun id hid => ?_) (fun id hid => ?_) fun id hid => ?_
  · show id ∈ (db.assignments ++ [_]).map _
    rw [List.map_append]
    exact List.mem_append_left _ hid
  · rw [List.map_append, List.mem_append] at hid
    refine hid.imp_right fun hnew => ?_
    rw [List.map_singleton, List.mem_singleton] at hnew
    rw [hnew]
    exact hassigned
  · obtain rfl := Option.some.inj (hassigned.symm.trans hid)
    refine ⟨htype, ?_⟩
    show _ ∈ (db.assignments ++ [_]).map _
    rw [List.map_append]
    exact List.mem_append_right _ List.mem_cons_self

theorem FindingsKept.assigns (h : FindingsKept s) (form : AssignmentForm) (now stamp : Instant) :
    FindingsKept (createAuditAssignment s form now stamp) := by
  unfold createAuditAssignment
  split
  next => exact h
  next product _ =>
    dsimp only
    split_ifs
    · exact h
    · rcases Tx.atomically_cases (insertAssignment form product now) s.db with
        ⟨u, db, hwrites, hrun⟩ | ⟨e, t, hwrites, hrun⟩
      · rw [hrun]
        obtain ⟨hk, hgrow⟩ := insertAssignment_grows h.keyed hwrites
        exact h.grown hk hgrow rfl
      · rw [hrun]
        exact h

/-- Another batch of an assignment. -/
theorem FindingsKept.opens (rt : Runtime) (st : Settings) (h : FindingsKept s) (assignmentId : Nat)
    (user : User) (notes : Option PyStr) (now stamp : Instant) :
    FindingsKept (openAudit s assignmentId user notes now stamp) := by
  unfold openAudit
  split
  next => exact h
  next a ha =>
    split_ifs
    · exact h
    · exact h
    · dsimp only
      set form :=
        auditForm (((s.db.product a.productId).map (·.productName)).getD []) notes assignmentId
      have hstep := stockStep_grows rt st (.order (.openBatch user form now)) h.keyed
        fun user' form' now' he id hid => by
          obtain ⟨rfl, rfl, rfl⟩ := StockOrder.openBatch.inj (StockAction.order.inj he)
          obtain rfl := Option.some.inj hid
          obtain ⟨hmem, hkey⟩ := lookup_some ha
          exact ⟨rfl, List.mem_map.mpr ⟨a, hmem, hkey⟩⟩
      exact h.grown hstep.1 hstep.2 rfl

/-- The batch that a stock action has submitted was there before. -/
theorem submittedAudit_stored {db db' : Db} {action : StockAction} {batch : Batch} {now : Instant}
    (h : submittedAudit db db' action = some (batch, now)) :
    batch ∈ db.batches ∧ batch.batchType = .audit := by
  unfold submittedAudit at h
  split at h
  next batchId actor =>
    obtain ⟨found, hfound, he⟩ := Option.map_eq_some_iff.mp h
    obtain rfl : found = batch := congrArg Prod.fst he
    obtain ⟨hbatch, hdraft⟩ := Option.filter_eq_some_iff.mp hfound
    rw [Bool.and_eq_true, Bool.and_eq_true, decide_eq_true_eq, decide_eq_true_eq] at hdraft
    exact ⟨(lookup_some hbatch).1, hdraft.1.1⟩
  next => exact absurd h.symm (Option.some_ne_none _)

/-- An action of the stock, before what it has submitted is reconciled. -/
theorem FindingsKept.stored (rt : Runtime) (st : Settings) (h : FindingsKept s)
    {action : StockAction} (hallowed : action.allowed = true) (stamp : Instant) :
    FindingsKept (s.stored (stockStep rt st s.db action) stamp) ∧
      BatchesGrow s.db (stockStep rt st s.db action) := by
  have hstep := stockStep_grows rt st action h.keyed fun user form now he id hid => by
    subst he
    have hfree : form.auditAssignmentId = none := Option.isNone_iff_eq_none.mp hallowed
    rw [hfree] at hid
    exact absurd hid.symm (Option.some_ne_none id)
  exact ⟨h.grown hstep.1 hstep.2 rfl, hstep.2⟩

theorem reconcileAuditBatch_db (s : AuditDb) (batch : Batch) (now stamp : Instant) :
    (reconcileAuditBatch s batch now stamp).2.db = s.db := by
  unfold reconcileAuditBatch
  split_ifs
  · rfl
  · split <;> rfl

theorem stockedStep_db (rt : Runtime) (st : Settings) (s : AuditDb) (action : StockAction)
    (stamp : Instant) :
    (stockedStep rt st s action stamp).db = stockStep rt st s.db action := by
  unfold stockedStep
  dsimp only
  split
  · exact reconcileAuditBatch_db _ _ _ _
  · rfl

/-- An action of the stock. -/
theorem FindingsKept.stocked (rt : Runtime) (st : Settings) (h : FindingsKept s)
    {action : StockAction} (hallowed : action.allowed = true) (stamp : Instant) :
    FindingsKept (stockedStep rt st s action stamp) := by
  obtain ⟨hstored, hgrow⟩ := h.stored rt st hallowed stamp
  unfold stockedStep
  dsimp only
  split
  next batch now hsubmitted =>
    obtain ⟨hbatch, -⟩ := submittedAudit_stored hsubmitted
    exact hstored.batch now stamp (hgrow.kept _ (mem_filings hbatch))
  next => exact hstored

end Actions

/-! ## Runs -/

section Runs

variable {rt : Runtime} {st : Settings} {actions : List AuditAction} {s : AuditDb}

/-- One action. -/
theorem FindingsKept.step (h : FindingsKept s) {a : AuditAction} {s' : AuditDb}
    (hstep : auditMachine rt st s a = some s') : FindingsKept s' := by
  cases a with
  | stock action stamp =>
    unfold auditMachine at hstep
    dsimp only at hstep
    split_ifs at hstep with hallowed
    exact Option.some.inj hstep ▸ h.stocked rt st hallowed stamp
  | assign form now stamp => exact Option.some.inj hstep ▸ h.assigns form now stamp
  | «open» assignmentId user notes now stamp =>
    exact Option.some.inj hstep ▸ h.opens rt st assignmentId user notes now stamp
  | extend assignmentId endsAt now stamp =>
    exact Option.some.inj hstep ▸ h.extended assignmentId endsAt now stamp
  | refresh now stamp => exact Option.some.inj hstep ▸ h.refreshedAll now stamp

/-- In every state of a run, findings are filed under audits, and an audit has one for a
serial. -/
theorem audit_findings_kept (hrun : exec (auditMachine rt st) .empty actions = some s) :
    FindingsKept s :=
  exec_invariant (fun _ _ _ h hstep => h.step hstep) findingsKept_empty hrun

/-- The report of missing stock lists a serial once. -/
theorem missing_stock_once (hrun : exec (auditMachine rt st) .empty actions = some s) :
    ((currentMissingStockFindings s).map (·.serialId)).Nodup := by
  have hids := (audit_findings_kept hrun).ids
  refine List.Nodup.map_on (fun f hf g hg hserial => ?_) (hids.of_map.filter _)
  have hlatest {f g : AuditFinding} (hf : f ∈ currentMissingStockFindings s)
      (hg : g ∈ currentMissingStockFindings s)
      (he : g.serialId = f.serialId) : g.newerThan f = false := by
    obtain ⟨-, hreported⟩ := List.mem_filter.mp hf
    have hnone := (Bool.and_eq_true_iff.mp hreported).2
    rw [Bool.not_eq_true', List.any_eq_false] at hnone
    have hnot := hnone g (List.mem_of_mem_filter hg)
    rw [decide_eq_true he, Bool.true_and, Bool.not_eq_true] at hnot
    exact hnot
  have hfg := hlatest hf hg hserial.symm
  have hgf := hlatest hg hf hserial
  -- Neither is newer, so both have one time and one id.
  have hid : f.id = g.id := by
    simp only [AuditFinding.newerThan, Bool.or_eq_false_iff, Bool.and_eq_false_iff,
      decide_eq_false_iff_not] at hfg hgf
    have htimes : f.createdAt = g.createdAt := le_antisymm (not_lt.mp hgf.1) (not_lt.mp hfg.1)
    have hle := hfg.2.resolve_left (not_not.mpr htimes.symm)
    have hge := hgf.2.resolve_left (not_not.mpr htimes)
    omega
  exact eq_of_key_eq hids (List.mem_of_mem_filter hf) (List.mem_of_mem_filter hg) hid

/-- A step that submits an audit reconciles it. -/
private theorem submission_step {s' : AuditDb} {action : StockAction} {stamp now : Instant}
    {batch : Batch} (hkept : FindingsKept s)
    (hstep : auditMachine rt st s (.stock action stamp) = some s')
    (hsubmitted : submittedAudit s.db s'.db action = some (batch, now)) :
    ∃ t, t.db = s'.db ∧ FindingsKept t ∧ batch.filing ∈ t.db.filings ∧ batch.batchType = .audit ∧
      s' = (reconcileAuditBatch t batch now stamp).2 := by
  unfold auditMachine at hstep
  dsimp only at hstep
  split_ifs at hstep with hallowed
  obtain rfl := Option.some.inj hstep
  obtain ⟨hstored, hgrow⟩ := hkept.stored rt st hallowed stamp
  obtain ⟨hbatch, htype⟩ := submittedAudit_stored hsubmitted
  refine ⟨_, (stockedStep_db rt st s action stamp).symm, hstored,
    hgrow.kept _ (mem_filings hbatch), htype, ?_⟩
  rw [stockedStep_db] at hsubmitted
  unfold stockedStep
  dsimp only
  rw [hsubmitted]

/-- The submission of an assignment's batch leaves exact findings. -/
theorem assignment_submission_exact {s' : AuditDb} {action : StockAction} {stamp now : Instant}
    {batch : Batch} {id : Nat} (hrun : exec (auditMachine rt st) .empty actions = some s)
    (hstep : auditMachine rt st s (.stock action stamp) = some s')
    (hsubmitted : submittedAudit s.db s'.db action = some (batch, now))
    (hassigned : batch.auditAssignmentId = some id) :
    ∃ a ∈ s'.db.assignments, a.id = id ∧
      Exact s' a now (s'.findingsOf id) (auditSummary (s'.findingsOf id)) := by
  obtain ⟨t, -, ht, hfiling, htype, rfl⟩ :=
    submission_step (audit_findings_kept hrun) hstep hsubmitted
  obtain ⟨a, hfound, rfl, hanchor⟩ := ht.assignment_of hfiling hassigned
  refine ⟨a, ?_, rfl, ?_⟩
  · rw [reconcileAuditBatch_db]
    exact (lookup_some hfound).1
  · have hreconciled : reconcileAuditBatch t batch now stamp
        = reconcileAuditAssignment t a batch now stamp := by
      unfold reconcileAuditBatch
      rw [if_neg (not_not.mpr htype), hassigned, Option.bind_some, hfound]
    rw [hreconciled]
    exact reconciled_exact now stamp hanchor

/-- The submission of a free audit leaves one finding for each serial that is in stock or was
scanned. -/
theorem free_submission_exact {s' : AuditDb} {action : StockAction} {stamp now : Instant}
    {batch : Batch} (hrun : exec (auditMachine rt st) .empty actions = some s)
    (hstep : auditMachine rt st s (.stock action stamp) = some s')
    (hsubmitted : submittedAudit s.db s'.db action = some (batch, now))
    (hfree : batch.auditAssignmentId = none) :
    let findings := s'.findings.filter fun f => f.batchId = batch.id
    (findings.map (·.serialId)).Nodup ∧
      (∀ n, n ∈ findings.map (·.serialId) ↔ Stocked s'.db n ∨ FoundIn s'.db batch.id n) ∧
      ∀ f ∈ findings, FreeFinds s'.db batch.id f.serialId f.findingType := by
  obtain ⟨t, hdb, ht, -, htype, rfl⟩ := submission_step (audit_findings_kept hrun) hstep hsubmitted
  rw [← hdb]
  have hfindings := findingsOf_free (s := t) now stamp htype hfree
  dsimp only
  rw [hfindings]
  have hserials : (makeFindings t.db batch.id stamp
      (nextId (·.id) (t.findings.filter fun f => f.batchId ≠ batch.id)) (freeVerdicts t batch)).map
        (·.serialId) = (freeVerdicts t batch).map (·.serialId) :=
    makeFindings_map _ _ _ _ _ (fun _ _ => rfl) _ _
  refine ⟨?_, fun n => ?_, fun f hf => ?_⟩
  · rw [hserials]
    exact freeVerdicts_nodup ht.keyed batch
  · rw [hserials, freeVerdicts_serials, List.mem_append, List.mem_filter, decide_eq_true_eq,
      mem_stocked, mem_foundIn]
    constructor
    · exact fun h => h.imp_right And.left
    · intro h
      by_cases hstocked : Stocked t.db n
      · exact .inl hstocked
      · exact .inr ⟨h.resolve_left hstocked, hstocked⟩
  · obtain ⟨v, hv, id, rfl⟩ := mem_makeFindings _ _ _ hf
    exact freeVerdicts_finds hv

/-- A later deadline leaves exact findings for it. -/
theorem extension_exact (hrun : exec (auditMachine rt st) .empty actions = some s)
    {a : AuditAssignment} {endsAt now stamp : Instant}
    (ha : lookup (·.id) a.id s.db.assignments = some a)
    (hlater : a.startsAt < endsAt ∧ a.endsAt < endsAt ∧ now < endsAt) :
    let s' := extendAuditAssignmentDeadline s a.id endsAt now stamp
    Exact s' { a with endsAt := endsAt } now (s'.findingsOf a.id)
        (auditSummary (s'.findingsOf a.id)) := by
  obtain ⟨hmem, -⟩ := lookup_some ha
  have hbatches := (audit_findings_kept hrun).batches_ne_nil hmem
  unfold extendAuditAssignmentDeadline
  rw [ha]
  dsimp only
  have haccepted : ¬ (endsAt ≤ a.startsAt ∨ endsAt ≤ a.endsAt ∨ endsAt ≤ now) := by
    rintro (hle | hle | hle)
    · exact not_lt.mpr hle hlater.1
    · exact not_lt.mpr hle hlater.2.1
    · exact not_lt.mpr hle hlater.2.2
  rw [if_neg haccepted]
  set extended : AuditAssignment := { a with endsAt := endsAt } with hextended
  set s' : AuditDb := { s with db := { s.db with
    assignments := modifyRow (·.id) a.id (fun _ => extended) s.db.assignments } } with hs'
  have hsome : s'.latestBatch a.id ≠ none := latestBatch_some (s := s') hbatches
  cases hlatest : s'.latestBatch a.id with
  | none => exact absurd hlatest hsome
  | some latest =>
    exact reconciled_exact (a := extended) now stamp (List.mem_map_of_mem (latestBatch_mem hlatest))

/-- The refresh of one assignment writes no pending finding once it is over, and leaves it none. -/
private theorem refreshAssignment_pending {t : AuditDb} {b : AuditAssignment} {now : Instant}
    (stamp : Instant) (hover : b.endsAt < now) (hbatches : t.db.auditBatches b.id ≠ []) :
    (refreshAssignment t b now stamp).db = t.db ∧
      (∀ f ∈ (refreshAssignment t b now stamp).findings, f.findingType = .pending →
        f ∈ t.findings) ∧
      ∀ f ∈ (refreshAssignment t b now stamp).findingsOf b.id, f.findingType ≠ .pending := by
  have hfresh {anchor : Batch} {f : AuditFinding} (hf : f ∈ freshFindings t b anchor now stamp) :
      f.findingType ≠ .pending := by
    intro hpending
    have hfinds := (freshFindings_exact t b anchor now stamp).types f hf
    rw [hpending] at hfinds
    cases hfinds with
    | pending _ _ hearly => exact absurd hover (not_lt.mpr hearly)
  unfold refreshAssignment
  cases hfound : t.latestBatch b.id with
  | none => exact absurd hfound (latestBatch_some hbatches)
  | some latest =>
    dsimp only
    split_ifs with hwork
    · refine ⟨rfl, fun f hf hpending => ?_, fun f hf => ?_⟩
      · rcases List.mem_append.mp hf with hf | hf
        · exact List.mem_of_mem_filter hf
        · exact absurd hpending (hfresh hf)
      · rw [findingsOf_reconciled now stamp (latestBatch_mem hfound)] at hf
        exact hfresh hf
    · refine ⟨rfl, fun f hf _ => hf, fun f hf hpending => hwork (.inl ?_)⟩
      exact List.any_eq_true.mpr ⟨f, hf, decide_eq_true hpending⟩

/-- The refreshes of assignments that are over, one after another. -/
private theorem refreshAll_pending {now : Instant} (stamp : Instant) :
    ∀ {l : List AuditAssignment} {t : AuditDb},
      (∀ a ∈ l, a.endsAt < now ∧ t.db.auditBatches a.id ≠ []) →
      let t' := l.foldl (fun t a => refreshAssignment t a now stamp) t
      t'.db = t.db ∧ (∀ f ∈ t'.findings, f.findingType = .pending → f ∈ t.findings) ∧
        ∀ a ∈ l, ∀ f ∈ t'.findingsOf a.id, f.findingType ≠ .pending := by
  intro l
  induction l with
  | nil => exact fun _ => ⟨rfl, fun f hf _ => hf, fun a ha => absurd ha List.not_mem_nil⟩
  | cons b l ih =>
    intro t hl
    obtain ⟨hover, hbatches⟩ := hl b List.mem_cons_self
    obtain ⟨hdb, hkept, hdone⟩ := refreshAssignment_pending stamp hover hbatches
    have hrest : ∀ a ∈ l, a.endsAt < now ∧
        (refreshAssignment t b now stamp).db.auditBatches a.id ≠ [] := by
      intro a ha
      rw [hdb]
      exact hl a (List.mem_cons_of_mem b ha)
    obtain ⟨hdb', hkept', hdone'⟩ := ih hrest
    refine ⟨hdb'.trans hdb, fun f hf hpending => hkept f (hkept' f hf hpending) hpending,
      fun a ha => ?_⟩
    rcases List.mem_cons.mp ha with rfl | ha
    · -- What is pending at the end was pending after its own refresh.
      intro f hf hpending
      obtain ⟨hf, hfiled⟩ := List.mem_filter.mp hf
      rw [List.foldl_cons, hdb'] at hfiled
      exact hdone f (List.mem_filter.mpr ⟨hkept' f hf hpending, hfiled⟩) hpending
    · exact hdone' a ha

/-- In every state of a run the refresh goes through, and nothing of an assignment that is over
stays pending. -/
theorem refresh_settles (hrun : exec (auditMachine rt st) .empty actions = some s)
    (now stamp : Instant) :
    let s' := refreshExpiredAuditAssignments s now stamp
    ∀ a ∈ s'.db.assignments, a.endsAt < now →
      ∀ f ∈ s'.findingsOf a.id, f.findingType ≠ .pending := by
  have hbatches : ∀ a ∈ s.db.assignments, s.db.auditBatches a.id ≠ [] :=
    fun _ ha => (audit_findings_kept hrun).batches_ne_nil ha
  set expired := s.db.assignments.filter fun a => a.endsAt < now with hexpired
  have hnone : ¬ expired.any (fun a => (s.latestBatch a.id).isNone) = true := by
    rw [List.any_eq_true]
    rintro ⟨a, ha, hisNone⟩
    exact latestBatch_some (hbatches a (List.mem_of_mem_filter ha))
      (Option.isNone_iff_eq_none.mp hisNone)
  have hgoes : refreshExpiredAuditAssignments s now stamp
      = expired.foldl (fun t a => refreshAssignment t a now stamp) s := by
    unfold refreshExpiredAuditAssignments
    dsimp only
    rw [if_neg hnone]
  dsimp only
  rw [hgoes]
  obtain ⟨hdb, -, hdone⟩ := refreshAll_pending (l := expired) (t := s) stamp fun a ha =>
    ⟨of_decide_eq_true (List.mem_filter.mp ha).2, hbatches a (List.mem_of_mem_filter ha)⟩
  intro a ha hover
  rw [hdb] at ha
  exact hdone a (List.mem_filter.mpr ⟨ha, decide_eq_true hover⟩)

end Runs

end SetuoraLite
