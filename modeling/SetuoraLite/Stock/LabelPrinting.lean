import SetuoraLite.Lib.Json
import SetuoraLite.Lib.Request
import SetuoraLite.Lib.Table
import SetuoraLite.Store.Models

/-!
# Printing labels once

A label may be printed once. A call looks whether any of its serials is printed and then
marks them all by one conditional `UPDATE`; when that matches fewer rows than it should,
somebody else was faster, and the call rolls back and raises.

Calls run side by side: each reads, and commits or rolls back its one transaction, in any
order with the others (`poolMachine`). `labels_printed_once`: every serial is marked by at
most one call, that call returns, and it has marked all its serials; a mark never changes.
-/

namespace SetuoraLite

open Lib

/-! ## The calls -/

/-- The label columns of a serial. -/
structure SerialLabel where
  id : Nat
  serialNumber : PyStr
  labelPrintedAt : Option Instant
  labelPrintedById : Option Nat
deriving DecidableEq

/-- The arguments of a call, and the time it draws. -/
structure LabelCall where
  user : User
  serialIds : List ℤ
  printedAt : Instant

/-- `list(dict.fromkeys(serial_ids))`. -/
def LabelCall.ids (c : LabelCall) : List ℤ := c.serialIds.eraseDups

/-- The row after the `UPDATE` of the call. -/
def SerialLabel.markedBy (c : LabelCall) (s : SerialLabel) : SerialLabel :=
  { s with labelPrintedAt := some c.printedAt, labelPrintedById := some c.user.id }

/-- The rows that the `UPDATE` matches. -/
def LabelCall.matching (c : LabelCall) (s : SerialLabel) : Bool :=
  (s.id : ℤ) ∈ c.ids && s.labelPrintedAt.isNone

/-- `LabelPrintError(text)`. -/
def labelPrintError (text : PyStr) : PyError := ⟨.value, text⟩

/-- The serials that are printed already, named. -/
def printedError (serials : List SerialLabel) : PyError :=
  let alreadyPrinted := (serials.filter fun s => s.labelPrintedAt.isSome).map (·.serialNumber)
  labelPrintError (py "Print option already used for " ++
    joinWith (py ", ") ((alreadyPrinted.insertionSort fun a b => strLe a b = true).take 5) ++
      if 5 < alreadyPrinted.length then py "..." else [])

/-- The write transaction: the conditional `UPDATE`, and its `COMMIT` when it has matched every
id, else the `ROLLBACK`. -/
def commitLabels (c : LabelCall) (serials : List SerialLabel) :
    Except PyError PUnit × List SerialLabel :=
  if (serials.filter c.matching).length ≠ c.ids.length then (.error (labelPrintError []), serials)
  else (.ok ⟨⟩, serials.map fun s => if c.matching s then s.markedBy c else s)

/-- `select(Serial).where(Serial.id.in_(ids))`. -/
def LabelCall.selected (c : LabelCall) (serials : List SerialLabel) : List SerialLabel :=
  serials.filter fun s => (s.id : ℤ) ∈ c.ids

/-- `mark_serial_labels_printed_once`. -/
def markSerialLabelsPrintedOnce (c : LabelCall) :
    Request (List SerialLabel) LabelCall PyError (List SerialLabel) := do
  Request.raiseIf (c.ids = []) (labelPrintError (py "No labels selected"))
  let serials ← Request.reads c.selected
  Request.raiseIf (serials.length ≠ c.ids.length)
    (labelPrintError (py "Some labels were not found"))
  Request.raiseIf (serials.any fun s => s.labelPrintedAt.isSome) (printedError serials)
  match ← Request.attempt c with
  | .ok _ => Request.reads c.selected
  | .error _ => do
    let serials ← Request.reads c.selected
    Request.raise (let e := printedError serials; { e with message := strip e.message })

/-- Calls side by side. -/
def labelMachine :
    Machine (Pool (List SerialLabel) LabelCall PyError (List SerialLabel)) (PoolAction LabelCall) :=
  poolMachine commitLabels markSerialLabelsPrintedOnce

/-- The call that arrived as the `n`-th has marked its serials, and returns. -/
def PrintsLabels (calls : List LabelCall)
    (p : Pool (List SerialLabel) LabelCall PyError (List SerialLabel)) (n : Nat)
    (c : LabelCall) : Prop :=
  calls[n]? = some c ∧ ∃ r, p.requests[n]? = some r ∧ r.WillReturn

/-! ## One call -/

/-- The rest of a call after its transaction. -/
def LabelCall.answer (c : LabelCall) :
    Except PyError Unit → Request (List SerialLabel) LabelCall PyError (List SerialLabel)
  | .ok _ => Request.reads c.selected
  | .error _ => do
    let serials ← Request.reads c.selected
    Request.raise (let e := printedError serials; { e with message := strip e.message })

/-- A call after its first read: it is refused, or about to commit. -/
def LabelCall.checked (c : LabelCall) (rows : List SerialLabel) :
    Request (List SerialLabel) LabelCall PyError (List SerialLabel) :=
  if (c.selected rows).length ≠ c.ids.length
    then .raise (labelPrintError (py "Some labels were not found"))
  else if (c.selected rows).any fun s => s.labelPrintedAt.isSome
    then .raise (printedError (c.selected rows))
  else .commit c c.answer

theorem markSerialLabelsPrintedOnce_eq (c : LabelCall) :
    markSerialLabelsPrintedOnce c =
      if c.ids = [] then .raise (labelPrintError (py "No labels selected"))
          else .read c.checked := by
  unfold markSerialLabelsPrintedOnce
  rw [Request.raiseIf_bind]
  refine if_congr Iff.rfl rfl ?_
  show Request.read _ = _
  congr 1
  funext rows
  show (Request.raiseIf _ _ >>= fun _ => _) = _
  rw [Request.raiseIf_bind]
  refine if_congr Iff.rfl rfl ?_
  rw [Request.raiseIf_bind]
  refine if_congr Iff.rfl rfl ?_
  show Request.commit c _ = Request.commit c c.answer
  congr 1

theorem answer_ok (c : LabelCall) : (c.answer (.ok ⟨⟩)).WillReturn := fun _ => trivial

theorem answer_error (c : LabelCall) (e : PyError) : (c.answer (.error e)).WillRaise :=
  fun _ => trivial

/-- How far a call has come. -/
inductive LabelStage (c : LabelCall) :
    Request (List SerialLabel) LabelCall PyError (List SerialLabel) → Prop
  | arrived : LabelStage c (markSerialLabelsPrintedOnce c)
  | checked : LabelStage c (.commit c c.answer)
  | returns {r} (h : r.WillReturn) : LabelStage c r
  | raises {r} (h : r.WillRaise) : LabelStage c r

theorem checked_stage (c : LabelCall) (rows : List SerialLabel) :
    LabelStage c (c.checked rows) ∧ ¬ (c.checked rows).WillReturn := by
  unfold LabelCall.checked
  split
  · exact ⟨.raises trivial, id⟩
  · split
    · exact ⟨.raises trivial, id⟩
    · exact ⟨.checked, id⟩

/-- A call that has just arrived has not decided to return. -/
theorem arrived_not_willReturn (c : LabelCall) : ¬ (markSerialLabelsPrintedOnce c).WillReturn := by
  rw [markSerialLabelsPrintedOnce_eq]
  by_cases hids : c.ids = []
  · rw [if_pos hids]
    exact id
  · rw [if_neg hids]
    exact fun h => (checked_stage c []).2 (h [])

/-- The rows after the `UPDATE` of the call. -/
def LabelCall.marked (c : LabelCall) (rows : List SerialLabel) : List SerialLabel :=
  rows.map fun s => if c.matching s then s.markedBy c else s

/-- One step of a call changes no row and decides nothing, or marks all its serials and decides
to return. -/
theorem LabelStage.step {c : LabelCall}
    {r : Request (List SerialLabel) LabelCall PyError (List SerialLabel)} (h : LabelStage c r)
    (rows : List SerialLabel) :
    LabelStage c (r.step commitLabels rows).1 ∧
      (((r.step commitLabels rows).2 = rows ∧
        ((r.step commitLabels rows).1.WillReturn → r.WillReturn)) ∨
        ((rows.filter c.matching).length = c.ids.length ∧
          (r.step commitLabels rows).2 = c.marked rows ∧
          (r.step commitLabels rows).1.WillReturn)) := by
  cases h with
  | arrived =>
    rw [markSerialLabelsPrintedOnce_eq]
    -- Without ids the request ends here.
    by_cases hids : c.ids = []
    · rw [if_pos hids]
      exact ⟨.raises trivial, .inl ⟨rfl, id⟩⟩
    · rw [if_neg hids]
      obtain ⟨hstage, hnot⟩ := checked_stage c rows
      exact ⟨hstage, .inl ⟨rfl, fun hreturn => absurd hreturn hnot⟩⟩
  | checked =>
    -- All the labels asked for are still unprinted, or the update is rolled back.
    by_cases hcount : (rows.filter c.matching).length = c.ids.length
    · have hrun : commitLabels c rows = (.ok ⟨⟩, c.marked rows) := by
        unfold commitLabels
        rw [if_neg (not_not.mpr hcount)]
        rfl
      have hstep : (Request.commit c c.answer).step commitLabels rows =
          (c.answer (.ok ⟨⟩), c.marked rows) := by
        show (c.answer (commitLabels c rows).1, (commitLabels c rows).2) = _
        rw [hrun]
      rw [hstep]
      exact ⟨.returns (answer_ok c), .inr ⟨hcount, rfl, answer_ok c⟩⟩
    · have hrun : commitLabels c rows = (.error (labelPrintError []), rows) := by
        unfold commitLabels
        rw [if_pos hcount]
      have hstep : (Request.commit c c.answer).step commitLabels rows
          = (c.answer (.error (labelPrintError [])), rows) := by
        show (c.answer (commitLabels c rows).1, (commitLabels c rows).2) = _
        rw [hrun]
      rw [hstep]
      have hraise := answer_error c (labelPrintError [])
      exact ⟨.raises hraise, .inl ⟨rfl, fun h => absurd h hraise.not_willReturn⟩⟩
  | returns h =>
    have hstep : (r.step commitLabels rows).1.WillReturn ∧ _ := h.step rows
    obtain ⟨hreturn, hrows⟩ := hstep
    exact ⟨.returns hreturn, .inl ⟨hrows, fun _ => h⟩⟩
  | raises h =>
    have hstep : (r.step commitLabels rows).1.WillRaise ∧ _ := h.step rows
    obtain ⟨hraise, hrows⟩ := hstep
    exact ⟨.raises hraise, .inl ⟨hrows, fun hreturn => absurd hreturn hraise.not_willReturn⟩⟩

/-! ## All of its serials or none -/

/-- When the `UPDATE` matches as many rows as there are ids, it matches a row for each id. -/
theorem all_matched {c : LabelCall} {rows : List SerialLabel} (hids : (rows.map (·.id)).Nodup)
    (hcount : (rows.filter c.matching).length = c.ids.length) {i : ℤ} (hi : i ∈ c.ids) :
    ∃ s ∈ rows, (s.id : ℤ) = i ∧ s.labelPrintedAt = none := by
  let found : List ℤ := ((rows.filter c.matching).map (·.id)).map Int.ofNat
  have hfound : found.Nodup := (hids.sublist (List.filter_sublist.map _)).map Int.ofNat_injective
  have hsubset : found ⊆ c.ids := by
    intro j hj
    obtain ⟨k, hk, rfl⟩ := List.mem_map.mp hj
    obtain ⟨s, hs, rfl⟩ := List.mem_map.mp hk
    have hmatch := (List.mem_filter.mp hs).2
    simp only [LabelCall.matching, Bool.and_eq_true, decide_eq_true_eq] at hmatch
    exact hmatch.1
  have hlength : c.ids.length ≤ found.length := by
    rw [List.length_map, List.length_map, hcount]
  -- Distinct ids among the call's ids, and as many: all of them.
  have hperm : found.Perm c.ids := (List.subperm_of_subset hfound hsubset).perm_of_length_le hlength
  obtain ⟨k, hk, rfl⟩ := List.mem_map.mp (hperm.mem_iff.mpr hi)
  obtain ⟨s, hs, rfl⟩ := List.mem_map.mp hk
  obtain ⟨hrow, hmatch⟩ := List.mem_filter.mp hs
  simp only [LabelCall.matching, Bool.and_eq_true, decide_eq_true_eq, Option.isNone_iff_eq_none]
    at hmatch
  exact ⟨s, hrow, rfl, hmatch.2⟩

/-! ## Calls in company -/

/-- The row of a serial when `who` says which call has marked it. -/
def stamped (calls : List LabelCall) (who : Nat → Option Nat) (s : SerialLabel) : SerialLabel :=
  match (who s.id).bind fun n => calls[n]? with
  | some c => s.markedBy c
  | none => s

/-- The rows are those of the start with the marks of the calls that return; these have marked
all their serials. -/
structure LabelsMarked (start : List SerialLabel) (calls : List LabelCall)
    (p : Pool (List SerialLabel) LabelCall PyError (List SerialLabel)) (who : Nat → Option Nat) :
    Prop where
  rows : p.state = start.map (stamped calls who)
  count : p.requests.length = calls.length
  stage : ∀ (n : Nat) c r, calls[n]? = some c → p.requests[n]? = some r → LabelStage c r
  marked : ∀ s ∈ start, ∀ n, who s.id = some n →
    s.labelPrintedAt = none ∧ ∃ c, PrintsLabels calls p n c ∧ (s.id : ℤ) ∈ c.ids
  all : ∀ n c, PrintsLabels calls p n c →
    ∀ i ∈ c.ids, ∃ s ∈ start, (s.id : ℤ) = i ∧ who s.id = some n

theorem stamped_id (calls : List LabelCall) (who : Nat → Option Nat) (s : SerialLabel) :
    (stamped calls who s).id = s.id := by
  unfold stamped
  split <;> rfl

theorem stamped_some {calls : List LabelCall} {who : Nat → Option Nat} {s : SerialLabel} {n : Nat}
    {c : LabelCall} (hwho : who s.id = some n) (hcall : calls[n]? = some c) :
    stamped calls who s = s.markedBy c := by
  simp [stamped, hwho, hcall]

theorem stamped_none {calls : List LabelCall} {who : Nat → Option Nat} {s : SerialLabel}
    (hwho : who s.id = none) : stamped calls who s = s := by
  simp [stamped, hwho]

section Step

variable {start : List SerialLabel} {calls : List LabelCall} {who : Nat → Option Nat}
variable {p : Pool (List SerialLabel) LabelCall PyError (List SerialLabel)}

/-- A call arrives. -/
theorem LabelsMarked.arrive (h : LabelsMarked start calls p who) (c : LabelCall) :
    LabelsMarked start (calls ++ [c])
      { p with requests := p.requests ++ [markSerialLabelsPrintedOnce c] } who := by
  -- The new call is the last one, and has not decided to return.
  have hold : ∀ n d, PrintsLabels (calls ++ [c])
      { p with requests := p.requests ++ [markSerialLabelsPrintedOnce c] } n d ↔
        PrintsLabels calls p n d := by
    intro n d
    unfold PrintsLabels
    dsimp only
    by_cases hlt : n < calls.length
    · rw [List.getElem?_append_left hlt, List.getElem?_append_left (h.count ▸ hlt)]
    · constructor
      · rintro ⟨-, r, hr, hreturn⟩
        rw [List.getElem?_append_right (h.count ▸ Nat.le_of_not_lt hlt)] at hr
        obtain rfl := List.mem_singleton.mp (List.mem_of_getElem? hr)
        exact absurd hreturn (arrived_not_willReturn c)
      · rintro ⟨hd, -⟩
        exact absurd (List.getElem?_eq_some_iff.mp hd).1 hlt
  refine ⟨?_, ?_, ?_, ?_, ?_⟩
  · show p.state = _
    rw [h.rows]
    refine List.map_congr_left fun s hs => ?_
    cases hwho : who s.id with
    | none => rw [stamped_none hwho, stamped_none hwho]
    | some n =>
      obtain ⟨-, d, hprints, -⟩ := h.marked s hs n hwho
      rw [stamped_some hwho hprints.1, stamped_some hwho ((hold n d).mpr hprints).1]
  · simp [h.count]
  · intro n d r hd hr
    by_cases hlt : n < calls.length
    · rw [List.getElem?_append_left hlt] at hd
      rw [List.getElem?_append_left (h.count ▸ hlt)] at hr
      exact h.stage n d r hd hr
    · rw [List.getElem?_append_right (Nat.le_of_not_lt hlt)] at hd
      rw [List.getElem?_append_right (h.count ▸ Nat.le_of_not_lt hlt)] at hr
      obtain rfl := List.mem_singleton.mp (List.mem_of_getElem? hd)
      obtain rfl := List.mem_singleton.mp (List.mem_of_getElem? hr)
      exact .arrived
  · intro s hs n hwho
    obtain ⟨hnone, d, hprints, hd⟩ := h.marked s hs n hwho
    exact ⟨hnone, d, (hold n d).mpr hprints, hd⟩
  · exact fun n d hprints => h.all n d ((hold n d).mp hprints)

/-- The request at work as the `n`-th is replaced by one that has not decided to return unless
it had before. -/
theorem printsLabels_set {n : Nat}
    {r r' : Request (List SerialLabel) LabelCall PyError (List SerialLabel)}
    {rows : List SerialLabel} (hr : p.requests[n]? = some r)
    (hreturn : r'.WillReturn → r.WillReturn) {m : Nat} {d : LabelCall}
    (h : PrintsLabels calls ⟨rows, p.requests.set n r'⟩ m d) :
    PrintsLabels calls p m d := by
  obtain ⟨hd, q, hq, hq'⟩ := h
  by_cases hm : m = n
  · subst hm
    dsimp only at hq
    rw [List.getElem?_set_self (List.getElem?_eq_some_iff.mp hr).1] at hq
    obtain rfl := Option.some.inj hq
    exact ⟨hd, r, hr, hreturn hq'⟩
  · dsimp only at hq
    rw [List.getElem?_set_ne (Ne.symm hm)] at hq
    exact ⟨hd, q, hq, hq'⟩

/-- A call that returns goes on returning. -/
theorem printsLabels_kept {n : Nat}
    {r r' : Request (List SerialLabel) LabelCall PyError (List SerialLabel)}
    {rows : List SerialLabel} (hr : p.requests[n]? = some r)
    (hreturn : r.WillReturn → r'.WillReturn) {m : Nat} {d : LabelCall}
    (h : PrintsLabels calls p m d) :
    PrintsLabels calls ⟨rows, p.requests.set n r'⟩ m d := by
  obtain ⟨hd, q, hq, hq'⟩ := h
  refine ⟨hd, ?_⟩
  dsimp only
  by_cases hm : m = n
  · subst hm
    rw [List.getElem?_set_self (List.getElem?_eq_some_iff.mp hr).1]
    obtain rfl := Option.some.inj (hr.symm.trans hq)
    exact ⟨r', rfl, hreturn hq'⟩
  · rw [List.getElem?_set_ne (Ne.symm hm)]
    exact ⟨q, hq, hq'⟩

/-- The stages after a step of the `n`-th request. -/
theorem LabelsMarked.stage_set (h : LabelsMarked start calls p who) {n : Nat} {c : LabelCall}
    {r' : Request (List SerialLabel) LabelCall PyError (List SerialLabel)} (hc : calls[n]? = some c)
    (hstage : LabelStage c r') (m : Nat) (d : LabelCall)
    (q : Request (List SerialLabel) LabelCall PyError (List SerialLabel)) (hd : calls[m]? = some d)
    (hq : (p.requests.set n r')[m]? = some q) : LabelStage d q := by
  by_cases hm : m = n
  · subst hm
    obtain rfl := Option.some.inj (hc.symm.trans hd)
    have hlt : m < p.requests.length := by
      rw [h.count]
      exact (List.getElem?_eq_some_iff.mp hc).1
    rw [List.getElem?_set_self hlt] at hq
    obtain rfl := Option.some.inj hq
    exact hstage
  · rw [List.getElem?_set_ne (Ne.symm hm)] at hq
    exact h.stage m d q hd hq

/-- A serial that the `UPDATE` matches carries no mark yet. -/
theorem LabelsMarked.unmarked (h : LabelsMarked start calls p who) (hids : (start.map (·.id)).Nodup)
    {c : LabelCall} (hcount : (p.state.filter c.matching).length = c.ids.length) {i : ℤ}
    (hi : i ∈ c.ids) :
    ∃ s ∈ start, (s.id : ℤ) = i ∧ who s.id = none ∧ s.labelPrintedAt = none := by
  have hstate : (p.state.map (·.id)).Nodup := by
    rw [h.rows, List.map_map]
    simpa [Function.comp_def, stamped_id] using hids
  obtain ⟨t, ht, hid, hnone⟩ := all_matched hstate hcount hi
  rw [h.rows] at ht
  obtain ⟨s, hs, rfl⟩ := List.mem_map.mp ht
  rw [stamped_id] at hid
  cases hwho : who s.id with
  | none =>
    rw [stamped_none hwho] at hnone
    exact ⟨s, hs, hid, hwho, hnone⟩
  | some n =>
    obtain ⟨-, d, hprints, -⟩ := h.marked s hs n hwho
    rw [stamped_some hwho hprints.1] at hnone
    exact absurd hnone (Option.some_ne_none _)

/-- One request takes a step. -/
theorem LabelsMarked.step (h : LabelsMarked start calls p who) (hids : (start.map (·.id)).Nodup)
    {n : Nat} {r : Request (List SerialLabel) LabelCall PyError (List SerialLabel)}
    (hr : p.requests[n]? = some r) :
    ∃ who', LabelsMarked start calls
      ⟨(r.step commitLabels p.state).2, p.requests.set n (r.step commitLabels p.state).1⟩ who' := by
  obtain ⟨c, hc⟩ : ∃ c, calls[n]? = some c := by
    have hlt := (List.getElem?_eq_some_iff.mp hr).1
    rw [h.count] at hlt
    exact ⟨calls[n], List.getElem?_eq_getElem hlt⟩
  obtain ⟨hstage, hcase⟩ := (h.stage n c r hc hr).step p.state
  have hkept : r.WillReturn → (r.step commitLabels p.state).1.WillReturn :=
    fun hold => (hold.step p.state).1
  rcases hcase with ⟨hstate, hreturn⟩ | ⟨hcount, hstate, hreturn⟩
  · refine ⟨who, hstate.trans h.rows, ?_, h.stage_set hc hstage, ?_, ?_⟩
    · simpa using h.count
    · intro s hs m hwho
      obtain ⟨hnone, d, hprints, hd⟩ := h.marked s hs m hwho
      exact ⟨hnone, d, printsLabels_kept hr hkept hprints, hd⟩
    · exact fun m d hprints => h.all m d (printsLabels_set hr hreturn hprints)
  · -- The call marks all its serials; none of them carried a mark.
    have hfree : ∀ s ∈ start, (s.id : ℤ) ∈ c.ids → who s.id = none ∧ s.labelPrintedAt = none := by
      intro s hs hi
      obtain ⟨t, ht, hid, hwho, hnone⟩ := h.unmarked hids hcount hi
      obtain rfl := eq_of_key_eq hids ht hs (Int.ofNat.inj hid)
      exact ⟨hwho, hnone⟩
    have hprints : PrintsLabels calls
        ⟨(r.step commitLabels p.state).2, p.requests.set n (r.step commitLabels p.state).1⟩ n
            c := by
      refine ⟨hc, _, ?_, hreturn⟩
      exact List.getElem?_set_self (List.getElem?_eq_some_iff.mp hr).1
    refine ⟨fun id => if (id : ℤ) ∈ c.ids then some n else who id, ?_, ?_,
      h.stage_set hc hstage, ?_, ?_⟩
    · show (r.step commitLabels p.state).2 = _
      rw [hstate, h.rows]
      unfold LabelCall.marked
      rw [List.map_map]
      refine List.map_congr_left fun s hs => ?_
      by_cases hi : (s.id : ℤ) ∈ c.ids
      · obtain ⟨hwho, hnone⟩ := hfree s hs hi
        have hmatch : c.matching s = true := by simp [LabelCall.matching, hi, hnone]
        rw [Function.comp_apply, stamped_none hwho, if_pos hmatch, stamped_some (if_pos hi) hc]
      · have hmatch : c.matching (stamped calls who s) = false := by
          simp [LabelCall.matching, stamped_id, hi]
        rw [Function.comp_apply, hmatch, if_neg Bool.false_ne_true]
        simp [stamped, hi]
    · simpa using h.count
    · intro s hs m hwho
      by_cases hi : (s.id : ℤ) ∈ c.ids
      · rw [if_pos hi] at hwho
        obtain rfl := Option.some.inj hwho
        exact ⟨(hfree s hs hi).2, c, hprints, hi⟩
      · rw [if_neg hi] at hwho
        obtain ⟨hnone, d, hold, hd⟩ := h.marked s hs m hwho
        exact ⟨hnone, d, printsLabels_kept hr hkept hold, hd⟩
    · intro m d hnew i hi
      by_cases hm : m = n
      · subst hm
        obtain rfl := Option.some.inj (hc.symm.trans hnew.1)
        obtain ⟨s, hs, rfl, -⟩ := h.unmarked hids hcount hi
        exact ⟨s, hs, rfl, if_pos hi⟩
      · have hold : PrintsLabels calls p m d := by
          obtain ⟨hd, q, hq, hq'⟩ := hnew
          dsimp only at hq
          rw [List.getElem?_set_ne (Ne.symm hm)] at hq
          exact ⟨hd, q, hq, hq'⟩
        obtain ⟨s, hs, rfl, hwho⟩ := h.all m d hold i hi
        refine ⟨s, hs, rfl, ?_⟩
        -- A serial that is marked already is not among those of this call.
        have hother : (s.id : ℤ) ∉ c.ids := fun hmem => by
          rw [(hfree s hs hmem).1] at hwho
          exact absurd hwho (Option.some_ne_none m).symm
        rw [if_neg hother, hwho]

end Step

/-- Before anybody calls. -/
theorem labelsMarked_nil (start : List SerialLabel) :
    LabelsMarked start [] ⟨start, []⟩ fun _ => none := by
  refine ⟨?_, rfl, ?_, ?_, ?_⟩
  · show start = start.map (stamped [] fun _ => none)
    rw [List.map_congr_left fun s _ =>
        stamped_none (rfl : (fun _ => none : Nat → Option Nat) s.id = none),
      List.map_id']
  · intro n c r hc
    exact absurd hc (by simp)
  · intro s _ n hwho
    exact absurd hwho (Option.some_ne_none n).symm
  · intro n c hprints
    exact absurd hprints.1 (by simp)

/-- Every run marks serials for calls that return, and for one call each. -/
theorem labelsMarked_of_exec {start : List SerialLabel} (hids : (start.map (·.id)).Nodup)
    {as : List (PoolAction LabelCall)}
    {p : Pool (List SerialLabel) LabelCall PyError (List SerialLabel)}
    (hexec : exec labelMachine ⟨start, []⟩ as = some p) :
    ∃ who, LabelsMarked start (arrivals as) p who := by
  induction as using List.reverseRecOn generalizing p with
  | nil =>
    obtain rfl := Option.some.inj hexec
    exact ⟨_, labelsMarked_nil start⟩
  | append_singleton as a ih =>
    obtain ⟨q, hq, hstep⟩ := exec_snoc.mp hexec
    obtain ⟨who, hmarked⟩ := ih hq
    have harrivals : arrivals (as ++ [a]) = arrivals as ++ arrivals [a] := List.filterMap_append
    rw [harrivals]
    cases a with
    | arrive c =>
      obtain rfl := Option.some.inj hstep
      exact ⟨who, hmarked.arrive c⟩
    | step n =>
      obtain ⟨r, hr, rfl⟩ := Option.map_eq_some_iff.mp hstep
      have hnone : arrivals [PoolAction.step n] = ([] : List LabelCall) := rfl
      rw [hnone, List.append_nil]
      exact hmarked.step hids hr

/-- A transaction leaves the marked rows as they are. -/
theorem commitLabels_kept {c : LabelCall} {rows : List SerialLabel} {s : SerialLabel}
    (hs : s ∈ rows) (hmarked : s.labelPrintedAt ≠ none) : s ∈ (commitLabels c rows).2 := by
  unfold commitLabels
  split
  · exact hs
  · refine List.mem_map.mpr ⟨s, hs, if_neg ?_⟩
    simp [LabelCall.matching, hmarked]

/-- A mark never changes. -/
theorem labels_never_remarked {p p' : Pool (List SerialLabel) LabelCall PyError (List SerialLabel)}
    {as : List (PoolAction LabelCall)} (hexec : exec labelMachine p as = some p') {s : SerialLabel}
    (hs : s ∈ p.state) (hmarked : s.labelPrintedAt ≠ none) : s ∈ p'.state := by
  refine exec_invariant (m := labelMachine) (I := fun q => s ∈ q.state) ?_ hs hexec
  intro q a q' hmem hstep
  cases a with
  | arrive c =>
    obtain rfl := Option.some.inj hstep
    exact hmem
  | step n =>
    obtain ⟨r, -, rfl⟩ := Option.map_eq_some_iff.mp hstep
    cases r with
    | done r => exact hmem
    | read next => exact hmem
    | commit c next => exact commitLabels_kept hmem hmarked

/-- Calls run side by side in any order. A serial is untouched, and no call that returns has it;
or it was not printed before, exactly one call that returns has it, and carries that call's
mark. A call that returns has marked every serial it names. No mark changes later. -/
theorem labels_printed_once (start : List SerialLabel) (hids : (start.map (·.id)).Nodup)
    (as : List (PoolAction LabelCall))
    (p : Pool (List SerialLabel) LabelCall PyError (List SerialLabel))
    (hexec : exec labelMachine ⟨start, []⟩ as = some p) :
    List.Forall₂ (fun s t =>
        (t = s ∧ ∀ n c, PrintsLabels (arrivals as) p n c → (s.id : ℤ) ∉ c.ids) ∨
        (s.labelPrintedAt = none ∧ ∃ n c, PrintsLabels (arrivals as) p n c ∧ (s.id : ℤ) ∈ c.ids ∧
          t = s.markedBy c ∧
          ∀ m d, PrintsLabels (arrivals as) p m d → (s.id : ℤ) ∈ d.ids → m = n)) start p.state ∧
      (∀ n c, PrintsLabels (arrivals as) p n c → ∀ i ∈ c.ids,
        ∃ s ∈ start, (s.id : ℤ) = i ∧ s.labelPrintedAt = none ∧ s.markedBy c ∈ p.state) ∧
      ∀ bs p', exec labelMachine p bs = some p' →
        ∀ t ∈ p.state, t.labelPrintedAt ≠ none → t ∈ p'.state := by
  obtain ⟨who, h⟩ := labelsMarked_of_exec hids hexec
  -- A call that returns and has the serial is the one that `who` names.
  have hwho : ∀ s ∈ start, ∀ n c, PrintsLabels (arrivals as) p n c → (s.id : ℤ) ∈ c.ids →
      who s.id = some n := by
    intro s hs n c hprints hi
    obtain ⟨t, ht, hid, hwho⟩ := h.all n c hprints _ hi
    obtain rfl := eq_of_key_eq hids ht hs (Int.ofNat.inj hid)
    exact hwho
  refine ⟨?_, ?_, fun bs p' hrun t ht hmarked => labels_never_remarked hrun ht hmarked⟩
  · rw [h.rows, List.forall₂_map_right_iff, List.forall₂_same]
    intro s hs
    cases hcall : who s.id with
    | none =>
      refine .inl ⟨stamped_none hcall, fun n c hprints hi => ?_⟩
      rw [hwho s hs n c hprints hi] at hcall
      exact absurd hcall (Option.some_ne_none n)
    | some n =>
      obtain ⟨hnone, c, hprints, hi⟩ := h.marked s hs n hcall
      refine .inr ⟨hnone, n, c, hprints, hi, stamped_some hcall hprints.1, fun m d hm hd => ?_⟩
      exact Option.some.inj ((hwho s hs m d hm hd).symm.trans hcall)
  · intro n c hprints i hi
    obtain ⟨s, hs, rfl, hcall⟩ := h.all n c hprints i hi
    refine ⟨s, hs, rfl, (h.marked s hs n hcall).1, ?_⟩
    rw [h.rows]
    exact List.mem_map.mpr ⟨s, hs, stamped_some hcall hprints.1⟩

/-- A serial without a label. -/
def bareLabel (id : Nat) (serialNumber : PyStr) : SerialLabel := ⟨id, serialNumber, none, none⟩

/-- Two calls share a serial, and each finds it unprinted. -/
def sharedLabelCalls : List LabelCall :=
  [⟨⟨1, py "asha"⟩, [1, 2, 1], 100⟩, ⟨⟨2, py "ravi"⟩, [2, 3], 200⟩]

/-- Both read before either commits; the second commits first. -/
def sharedLabelRun : List (PoolAction LabelCall) :=
  sharedLabelCalls.map .arrive ++ [.step 0, .step 1, .step 1, .step 0, .step 0]

/-- The faster call marks its two serials; the slower one marks nothing. -/
theorem labels_printed_once_shared :
    ∃ p, exec labelMachine ⟨[bareLabel 1 (py "A"), bareLabel 2 (py "B"), bareLabel 3 (py "C")], []⟩
        sharedLabelRun = some p ∧
      p.state = [bareLabel 1 (py "A"), ⟨2, py "B", some 200, some 2⟩,
        ⟨3, py "C", some 200, some 2⟩] ∧
      ∀ bs p', exec labelMachine p bs = some p' →
        ∀ t ∈ p.state, t.labelPrintedAt ≠ none → t ∈ p'.state :=
  ⟨_, rfl, by decide +kernel, (labels_printed_once _ (by decide) sharedLabelRun _ rfl).2.2⟩

end SetuoraLite
