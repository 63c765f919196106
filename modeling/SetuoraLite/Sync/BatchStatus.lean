import SetuoraLite.Sync.PushFinal

/-!
# A batch and its event

A submitted batch carries the status of its event in its own words. Every commit of a
delivery, of a failed delivery and of a retry writes both rows, so while one pass or
retry runs at a time the two agree in every committed state.

The recovery of an interrupted delivery is the exception: it commits the event as
`FAILED` and leaves the batch `SYNCING`. A process that stops there leaves the two
apart, as `interrupted_twice` shows. `batch_mirrors_event` is about each event that is
not recovered so.
-/

namespace SetuoraLite

open Lib

/-- The status of a batch whose event has a status. -/
def OutboxStatus.batchStatus : OutboxStatus → BatchStatus
  | .pending => .pendingSync
  | .sending => .syncing
  | .sent => .synced
  | .failed => .failed

/-- The batch of the event `id` has the status of the event. -/
def Mirrors (db : Db) (id : Nat) : Prop :=
  ∀ row ∈ db.outbox, row.id = id → ∀ b ∈ row.batchId, ∀ batch ∈ db.batch b,
    batch.status = row.status.batchStatus

/-- An event with a batch is queued as the submission of the batch does it: as a `BATCH`,
once, while the batch waits. -/
def Submitted (db : Db) (request : EnqueueRequest) : Prop :=
  ∀ b ∈ request.batchId, upper (strip request.aggregateType) = py "BATCH" ∧
    (∀ batch ∈ db.batch b, batch.status = .pendingSync) ∧ ∀ row ∈ db.outbox, row.batchId ≠ some b

/-- One at a time: a pass or a retry starts while no other is under way. -/
def OneAtATime (w : World) : Action → Prop
  | .begin p _ => (∀ p', p' ≠ p → w.passes p' = none) ∧ ∀ q, w.retries q = none
  | .askRetry q _ => (∀ p, w.passes p = none) ∧ ∀ q', q' ≠ q → w.retries q' = none
  | .enqueue _ _ request => Submitted w.db request
  | _ => True

/-- The interrupted delivery that a pass is about to recover. -/
def Phase.recovers : Phase → Option MasterOutboxEvent
  | .recovering event _ => some event
  | _ => none

/-- The step does not commit the recovery of an interrupted delivery of the event `id`,
or the event has no batch. -/
def Unrecovered (id : Nat) (w : World) : Action → Prop
  | .pass p _ _ => ∀ pass ∈ w.passes p, ∀ event ∈ pass.phase.recovers, event.id = id →
      eventBatch w.db event = none
  | _ => True

instance decidableUnrecovered (id : Nat) (w : World) : ∀ a, Decidable (Unrecovered id w a)
  | .pass p _ _ => inferInstanceAs (Decidable (∀ pass ∈ w.passes p, ∀ event ∈ pass.phase.recovers,
      event.id = id → eventBatch w.db event = none))
  | .begin .. | .kill _ | .askRetry .. | .retry _ | .dropRetry _ | .enqueue .. | .configure _ =>
    .isTrue trivial

/-! ## The invariant -/

/-- Only a batch's event has a batch. -/
def BatchEvents (db : Db) : Prop :=
  ∀ row ∈ db.outbox, row.batchId ≠ none → row.aggregateType = py "BATCH"

/-- The statuses of a batch and of its event agree; or the event is one of those that a
recovery may have left apart. -/
def Agree (apart : Nat → Prop) (row : MasterOutboxEvent) (batch : Batch) : Prop :=
  batch.status = row.status.batchStatus ∨
    (apart row.id ∧ row.status = .failed ∧ batch.status = .syncing)

/-- What a pass has in hand is in the database as it is. -/
def Phase.Current (db : Db) : Phase → Prop
  | .head | .reloading .. | .claimed _ => True
  | .recovering e _ => e ∈ db.outbox ∧ e.status = .sending
  | .claiming e _ | .posted e | .failing e _ | .acked e _ _ => e ∈ db.outbox
  | .claimReady e _ batch | .failReady e _ batch | .ackReady e _ _ batch _ =>
    e ∈ db.outbox ∧ batch = eventBatch db e

/-- What a retry has in hand is in the database as it is. -/
def Retry.Current (db : Db) : Retry → Prop
  | .loaded e => e ∈ db.outbox
  | .ready e batch => e ∈ db.outbox ∧ batch = eventBatch db e

/-- At most one pass or retry is under way. -/
def Alone (w : World) : Prop :=
  ((∃ p, ∀ p', p' ≠ p → w.passes p' = none) ∧ ∀ q, w.retries q = none) ∨
    ((∀ p, w.passes p = none) ∧ ∃ q, ∀ q', q' ≠ q → w.retries q' = none)

/-- The rows of a serialized run. -/
structure InStep (apart : Nat → Prop) (db : Db) : Prop where
  keys : (db.outbox.map (·.id)).Nodup
  once : BatchesOnce db
  kind : BatchEvents db
  agree : ∀ row ∈ db.outbox, ∀ b ∈ row.batchId, ∀ batch ∈ db.batch b, Agree apart row batch

/-- The invariant of a serialized run. -/
structure Serialized (apart : Nat → Prop) (w : World) : Prop where
  rows : InStep apart w.db
  alone : Alone w
  passes : ∀ p pass, w.passes p = some pass → pass.phase.Current w.db
  retries : ∀ q retry, w.retries q = some retry → retry.Current w.db

private theorem Alone.pass {w : World} (h : Alone w) {p : Nat} {pass : Pass}
    (hp : w.passes p = some pass) : (∀ p', p' ≠ p → w.passes p' = none) ∧
      ∀ q, w.retries q = none := by
  rcases h with ⟨⟨p₀, hother⟩, hq⟩ | ⟨hnone, -⟩
  · have hsame : p = p₀ := by
      by_contra hne
      rw [hother p hne] at hp
      exact absurd hp (by simp)
    exact ⟨hsame ▸ hother, hq⟩
  · rw [hnone p] at hp
    exact absurd hp (by simp)

private theorem Alone.retry {w : World} (h : Alone w) {q : Nat} {retry : Retry}
    (hq : w.retries q = some retry) :
    (∀ p, w.passes p = none) ∧ ∀ q', q' ≠ q → w.retries q' = none := by
  rcases h with ⟨-, hnone⟩ | ⟨hp, ⟨q₀, hother⟩⟩
  · rw [hnone q] at hq
    exact absurd hq (by simp)
  · have hsame : q = q₀ := by
      by_contra hne
      rw [hother q hne] at hq
      exact absurd hq (by simp)
    exact ⟨hp, hsame ▸ hother⟩

/-- The pass `p` may change while no other is under way. -/
private theorem alone_setPass {w : World} {p : Nat} {new : Option Pass}
    (hp : ∀ p', p' ≠ p → w.passes p' = none) (hq : ∀ q, w.retries q = none) :
    Alone (w.setPass p new) := by
  refine Or.inl ⟨⟨p, fun p' hne => ?_⟩, hq⟩
  show Function.update w.passes p new p' = none
  rw [Function.update_of_ne hne]
  exact hp p' hne

private theorem alone_setRetry {w : World} {q : Nat} {new : Option Retry}
    (hp : ∀ p, w.passes p = none) (hq : ∀ q', q' ≠ q → w.retries q' = none) :
    Alone (w.setRetry q new) := by
  refine Or.inr ⟨hp, ⟨q, fun q' hne => ?_⟩⟩
  show Function.update w.retries q new q' = none
  rw [Function.update_of_ne hne]
  exact hq q' hne

/-- A pass that ends leaves at most one under way. -/
private theorem Alone.ended {w : World} (h : Alone w) (p : Nat) : Alone (w.setPass p none) := by
  have hnone : ∀ p', w.passes p' = none → (w.setPass p none).passes p' = none := by
    intro p' hp'
    show Function.update w.passes p none p' = none
    by_cases he : p' = p
    · subst he
      exact Function.update_self _ _ _
    · rw [Function.update_of_ne he]
      exact hp'
  rcases h with ⟨⟨p₀, hother⟩, hq⟩ | ⟨hp, hq⟩
  · exact Or.inl ⟨⟨p₀, fun p' hne => hnone p' (hother p' hne)⟩, hq⟩
  · exact Or.inr ⟨fun p' => hnone p' (hp p'), hq⟩

private theorem Alone.retryEnded {w : World} (h : Alone w) (q : Nat) :
    Alone (w.setRetry q none) := by
  have hnone : ∀ q', w.retries q' = none → (w.setRetry q none).retries q' = none := by
    intro q' hq'
    show Function.update w.retries q none q' = none
    by_cases he : q' = q
    · subst he
      exact Function.update_self _ _ _
    · rw [Function.update_of_ne he]
      exact hq'
  rcases h with ⟨hp, hq⟩ | ⟨hp, ⟨q₀, hother⟩⟩
  · exact Or.inl ⟨hp, fun q' => hnone q' (hq q')⟩
  · exact Or.inr ⟨hp, ⟨q₀, fun q' hne => hnone q' (hother q' hne)⟩⟩

/-! ## Moves -/

private theorem admission_current {db : Db} {apiKey : PyStr} {e : MasterOutboxEvent} {now : Instant}
    {phase : Phase} (he : e ∈ db.outbox) (h : admission apiKey e now = some phase) :
    phase.Current db := by
  unfold admission at h
  split at h
  · exact absurd h (by simp)
  · split at h <;>
    · obtain rfl := Option.some.inj h
      exact he

/-- A move takes what it has in hand from the database. -/
theorem Phase.Moves.current {rt : Runtime} {db : Db} {phase phase' : Phase} {entries : List Entry}
    (h : phase.Moves rt db phase' entries) (hc : phase.Current db) : phase'.Current db := by
  cases h with
  | foundStale hsel hsending => exact ⟨(oldestUnsentEvent_some hsel).1, hsending⟩
  | found hsel _ hadm => exact admission_current (oldestUnsentEvent_some hsel).1 hadm
  | reloaded hev hadm => exact admission_current (lookup_some hev).1 hadm
  | readForClaim => exact ⟨hc, rfl⟩
  | sent hev => exact (lookup_some hev).1
  | refused => exact hc
  | accepted _ _ _ => exact hc
  | readForFailure => exact ⟨hc, rfl⟩
  | readForAck => exact ⟨hc, rfl⟩

/-! ## Commits -/

/-- A column that holds what was loaded holds what the session wrote. -/
private theorem column_loaded {α : Type} [DecidableEq α] (loaded new : α) :
    column loaded new loaded = new := by
  rcases column_cases loaded new loaded with ⟨he, hc⟩ | ⟨-, hc⟩
  · rw [hc, he]
  · exact hc

/-- What is committed of an event and its batch: both with one status; or the event
alone, from `SENDING` to `FAILED`, when it may be left apart or has no batch. -/
def Together (apart : Nat → Prop) (db : Db) (event : MasterOutboxEvent × MasterOutboxEvent)
    (batch : Option (Batch × Batch)) : Prop :=
  (batch.map (·.1) = eventBatch db event.1 ∧ ∀ p ∈ batch, p.2.status = event.2.status.batchStatus) ∨
    (batch = none ∧ event.1.status = .sending ∧ event.2.status = .failed ∧
      (apart event.1.id ∨ eventBatch db event.1 = none))

private theorem eventBatch_of_kind {db : Db} (h : BatchEvents db) {e : MasterOutboxEvent}
    (he : e ∈ db.outbox) : eventBatch db e = e.batchId.bind db.batch := by
  unfold eventBatch
  split
  next => rfl
  next hne =>
    cases hb : e.batchId with
    | none => rfl
    | some b => exact absurd (h e he (by simp [hb])) hne

private theorem batch_merged_other {event : MasterOutboxEvent × MasterOutboxEvent}
    {batch : Option (Batch × Batch)} {receipt : Option (Receipt × Receipt)} {db : Db} {b : Nat}
    (h : ∀ p ∈ batch, p.1.id ≠ b) : (mergedDb event batch receipt db).batch b = db.batch b := by
  cases batch with
  | none => rfl
  | some p =>
    show lookup (·.id) b (modifyRow (·.id) p.1.id (mergedBatch p.1 p.2) db.batches) = _
    exact lookup_modifyRow_ne (Ne.symm (h p rfl)) fun _ _ hr => hr

/-- A commit that writes both rows keeps every batch in step with its event. -/
theorem InStep.commit {apart : Nat → Prop} {db : Db} {event : MasterOutboxEvent × MasterOutboxEvent}
    {batch : Option (Batch × Batch)} {receipt : Option (Receipt × Receipt)} (h : InStep apart db)
    (he : event.1 ∈ db.outbox) (ht : Together apart db event batch) :
    InStep apart (mergedDb event batch receipt db) := by
  have hback : ∀ row ∈ (mergedDb event batch receipt db).outbox, ∃ old ∈ db.outbox,
      old.id = row.id ∧ old.batchId = row.batchId ∧ old.aggregateType = row.aggregateType ∧
        ((old = event.1 ∧ row.status = event.2.status) ∨ (old.id ≠ event.1.id ∧ row = old)) := by
    intro row hrow
    obtain ⟨old, hold, rfl⟩ := mem_modifyRow.mp hrow
    by_cases hid : old.id = event.1.id
    · rw [if_pos hid]
      obtain rfl := eq_of_key_eq h.keys hold he hid
      exact ⟨_, hold, rfl, rfl, rfl, Or.inl ⟨rfl, column_loaded _ _⟩⟩
    · rw [if_neg hid]
      exact ⟨old, hold, rfl, rfl, rfl, Or.inr ⟨hid, rfl⟩⟩
  have hloaded : ∀ p ∈ batch, event.1.batchId = some p.1.id ∧ db.batch p.1.id = some p.1 := by
    intro p hp
    rcases ht with ⟨hread, -⟩ | ⟨hnone, -⟩
    · have hsome : eventBatch db event.1 = some p.1 := by rw [← hread, hp]; rfl
      rw [eventBatch_of_kind h.kind he] at hsome
      obtain ⟨b, hb, hlook⟩ := Option.bind_eq_some_iff.mp hsome
      have hid : p.1.id = b := (lookup_some hlook).2
      rw [hid]
      exact ⟨hb, hlook⟩
    · rw [hnone] at hp
      exact absurd hp (by simp)
  refine ⟨?_, ?_, ?_, ?_⟩
  · show ((modifyRow (·.id) event.1.id (mergedEvent event.1 event.2) db.outbox).map (·.id)).Nodup
    have hids : (modifyRow (·.id) event.1.id (mergedEvent event.1 event.2) db.outbox).map (·.id)
        = db.outbox.map (·.id) := map_modifyRow fun _ _ _ => rfl
    rw [hids]
    exact h.keys
  · intro r₁ h₁ r₂ h₂ b hb₁ hb₂
    obtain ⟨o₁, ho₁, hid₁, hob₁, -⟩ := hback r₁ h₁
    obtain ⟨o₂, ho₂, hid₂, hob₂, -⟩ := hback r₂ h₂
    rw [← hid₁, ← hid₂]
    exact h.once o₁ ho₁ o₂ ho₂ b (hob₁.trans hb₁) (hob₂.trans hb₂)
  · intro row hrow hb
    obtain ⟨old, hold, -, hob, hok, -⟩ := hback row hrow
    rw [← hok]
    exact h.kind old hold (by rwa [hob])
  · intro row hrow b hb stored hstored
    obtain ⟨old, hold, hid, hob, -, hcase⟩ := hback row hrow
    rw [← hob] at hb
    rcases hcase with ⟨rfl, hstatus⟩ | ⟨hne, rfl⟩
    · -- The row that is committed.
      rcases ht with ⟨hread, hboth⟩ | ⟨rfl, hsending, hfailed, hapart⟩
      · cases hbatch : batch with
        | none =>
          rw [hbatch, eventBatch_of_kind h.kind he, hb] at hread
          rw [batch_merged_other (by simp [hbatch]), ← Option.bind_some (f := db.batch), ← hread]
            at hstored
          exact absurd hstored (by simp)
        | some p =>
          obtain ⟨hpb, hlook⟩ := hloaded p hbatch
          obtain rfl : p.1.id = b := Option.some.inj (hpb.symm.trans hb)
          have hfound : (mergedDb event batch receipt db).batch p.1.id
              = some (mergedBatch p.1 p.2 p.1) := by
            have hkey : ∀ r ∈ db.batches, r.id = p.1.id → (mergedBatch p.1 p.2 r).id = p.1.id :=
              fun _ _ hr => hr
            rw [hbatch]
            exact (lookup_modifyRow_self hkey).trans (congrArg (Option.map _) hlook)
          obtain rfl := Option.some.inj (hfound.symm.trans hstored)
          refine Or.inl ?_
          rw [hstatus, ← hboth p hbatch]
          exact column_loaded _ _
      · have hstored' : db.batch b = some stored := hstored
        rcases hapart with hid' | hnone
        · refine Or.inr ⟨hid ▸ hid', hstatus.trans hfailed, ?_⟩
          rcases h.agree _ he b hb stored hstored' with hsame | ⟨-, hf, -⟩
          · rw [hsame, hsending]
            rfl
          · rw [hsending] at hf
            exact absurd hf (by simp)
        · rw [eventBatch_of_kind h.kind he, hb, Option.bind_some, hstored'] at hnone
          exact absurd hnone (by simp)
    · -- Another row: its batch is another one.
      have hother : ∀ p ∈ batch, p.1.id ≠ b := by
        intro p hp hpb
        have hpe := (hloaded p hp).1
        rw [hpb] at hpe
        exact hne (h.once _ hold _ he b hb hpe)
      rw [batch_merged_other hother] at hstored
      exact h.agree _ hold b hb stored hstored

/-- A queued event waits with its batch. -/
private theorem InStep.enqueue {apart : Nat → Prop} {w : World} {uuid : PyStr} {now : Instant}
    {request : EnqueueRequest} {row : MasterOutboxEvent} {db : Db} (h : InStep apart w.db)
    (hone : Submitted w.db request)
    (henq : Enqueued w.settings uuid now request w.db row db) : InStep apart db := by
  -- The table with the new row; the batches are those of before.
  have hdb : db.outbox = w.db.outbox ++ [row] := by rw [henq.appended]
  have hbatches : ∀ b, db.batch b = w.db.batch b := by
    intro b
    rw [henq.appended]
    rfl
  have hid : row.id = nextOutboxId w.db := by rw [henq.columns]; rfl
  have hbatch : row.batchId = request.batchId := by rw [henq.columns]; rfl
  have hkind : row.aggregateType = upper (strip request.aggregateType) := by rw [henq.columns]; rfl
  have hstatus : row.status = .pending := by rw [henq.columns]; rfl
  -- The batch of the new row has no event yet, by the condition.
  have hnew : ∀ r ∈ w.db.outbox, ∀ b, r.batchId = some b → row.batchId ≠ some b := by
    intro r hr b hb hb'
    exact (hone b (hbatch ▸ hb')).2.2 r hr hb
  -- The invariant, field by field, over the old rows and the new one.
  refine ⟨?_, ?_, ?_, ?_⟩
  · rw [hdb, List.map_append, List.nodup_append]
    refine ⟨h.keys, by simp, ?_⟩
    intro k hk k' hk' he
    obtain ⟨old, hold, rfl⟩ := List.mem_map.mp hk
    simp only [List.map_singleton, List.mem_singleton] at hk'
    have := lt_nextOutboxId hold
    omega
  · intro r₁ h₁ r₂ h₂ b hb₁ hb₂
    rw [hdb, List.mem_append, List.mem_singleton] at h₁ h₂
    rcases h₁ with h₁ | rfl <;> rcases h₂ with h₂ | rfl
    · exact h.once r₁ h₁ r₂ h₂ b hb₁ hb₂
    · exact absurd hb₂ (hnew r₁ h₁ b hb₁)
    · exact absurd hb₁ (hnew r₂ h₂ b hb₂)
    · rfl
  · intro r hr hb
    rw [hdb, List.mem_append, List.mem_singleton] at hr
    rcases hr with hr | rfl
    · exact h.kind r hr hb
    · obtain ⟨b, hb'⟩ := Option.ne_none_iff_exists'.mp hb
      rw [hkind]
      exact (hone b (hbatch ▸ hb')).1
  · intro r hr b hb batch hfound
    rw [hbatches] at hfound
    rw [hdb, List.mem_append, List.mem_singleton] at hr
    rcases hr with hr | rfl
    · exact h.agree r hr b hb batch hfound
    · refine Or.inl ?_
      rw [hstatus, (hone b (hbatch ▸ hb)).2.1 batch hfound]
      rfl

/-- What a pass commits is committed together. -/
private theorem Phase.Commits.together {apart : Nat → Prop} {db : Db} {phase : Phase}
    {event : MasterOutboxEvent × MasterOutboxEvent} {batch : Option (Batch × Batch)}
    {receipt : Option (Receipt × Receipt)} {next : Option Phase}
    (h : phase.Commits event batch receipt next) (hc : phase.Current db)
    (hrecovery : ∀ e ∈ phase.recovers, apart e.id ∨ eventBatch db e = none) :
    event.1 ∈ db.outbox ∧ Together apart db event batch ∧
      ∀ phase', next = some phase' → ∀ db', phase'.Current db' := by
  -- Whatever batch was loaded, it is written with the status of the event.
  have hmap : ∀ {loaded : Option Batch} {g : Batch → Batch},
      (loaded.map fun b => (b, g b)).map (·.1) = loaded := by
    intro loaded g
    cases loaded <;> rfl
  have hwrites : ∀ {loaded : Option Batch} {g : Batch → Batch} {st : BatchStatus},
      (∀ b, (g b).status = st) → ∀ p ∈ loaded.map fun b => (b, g b), p.2.status = st := by
    intro loaded g st hg p hp
    obtain ⟨b, -, rfl⟩ := Option.map_eq_some_iff.mp hp
    exact hg b
  -- By the phase; a recovery alone leaves the batch, and its condition covers that.
  cases h with
  | recovery =>
    refine ⟨hc.1, Or.inr ⟨rfl, hc.2, rfl, hrecovery _ rfl⟩, fun phase' hn db' => ?_⟩
    obtain rfl := Option.some.inj hn
    trivial
  | claim =>
    refine ⟨hc.1, Or.inl ⟨hmap.trans hc.2, hwrites fun _ => rfl⟩, fun phase' hn db' => ?_⟩
    obtain rfl := Option.some.inj hn
    trivial
  | failure =>
    exact ⟨hc.1, Or.inl ⟨hmap.trans hc.2, hwrites fun _ => rfl⟩,
      fun phase' hn => absurd hn (by simp)⟩
  | acknowledgement =>
    refine ⟨hc.1, Or.inl ⟨hmap.trans hc.2, hwrites fun _ => rfl⟩, fun phase' hn db' => ?_⟩
    obtain rfl := Option.some.inj hn
    trivial

/-- Every step of a serialized run keeps the invariant, where the events it recovers may
be left apart. -/
theorem Serialized.step {apart : Nat → Prop} {rt : Runtime} {w w' : World} {a : Action}
    (h : Serialized apart w) (hone : OneAtATime w a)
    (hrecovery : ∀ id, ¬ apart id → Unrecovered id w a) (hstep : PushStep rt w a w') :
    Serialized apart w' := by
  -- The passes after a step: the one that moved, and those that did not.
  have hset : ∀ {p p' : Nat} {new : Option Pass} {pass : Pass} {db : Db},
      (w.setPass p new).passes p' = some pass → (∀ pass, new = some pass → pass.phase.Current db) →
      (p' ≠ p → w.passes p' = some pass → pass.phase.Current db) → pass.phase.Current db := by
    intro p p' new pass db hp' hnew hold
    rcases setPass_cases hp' with ⟨-, hn⟩ | ⟨hne, hp'⟩
    · exact hnew pass hn
    · exact hold hne hp'
  cases hstep with
  | configured st => exact ⟨h.rows, h.alone, h.passes, h.retries⟩
  | ended p =>
    refine ⟨h.rows, h.alone.ended p, fun p' pass hp' => ?_, h.retries⟩
    exact hset hp' (fun _ hn => absurd hn (by simp)) fun _ hold => h.passes p' pass hold
  | retryEnded q =>
    refine ⟨h.rows, h.alone.retryEnded q, h.passes, fun q' retry hq' => ?_⟩
    rcases setRetry_cases hq' with ⟨-, hn⟩ | ⟨-, hq'⟩
    · exact absurd hn (by simp)
    · exact h.retries q' retry hq'
  | started p apiKey limit hact hfree =>
    subst hact
    refine ⟨h.rows, alone_setPass hone.1 hone.2, fun p' pass hp' => ?_, h.retries⟩
    refine hset hp' (fun pass hn => ?_) fun _ hold => h.passes p' pass hold
    obtain rfl := Option.some.inj hn
    trivial
  -- A move writes nothing, so only the pass itself is new.
  | moved p pass phase entries hp hm =>
    obtain ⟨hothers, hnone⟩ := h.alone.pass hp
    refine ⟨h.rows, alone_setPass hothers hnone, fun p' pass' hp' => ?_, h.retries⟩
    refine hset hp' (fun pass' hn => ?_) fun _ hold => h.passes p' pass' hold
    obtain rfl := Option.some.inj hn
    exact hm.current (h.passes p pass hp)
  -- A commit writes the event it loaded, which no other pass or retry holds.
  | committed p pass event batch receipt next n db hact hp hcommit hflush =>
    obtain rfl := flushAll_ok hflush
    obtain ⟨now, reply, rfl⟩ := hact
    obtain ⟨hothers, hnone⟩ := h.alone.pass hp
    have hleft : ∀ e ∈ pass.phase.recovers, apart e.id ∨ eventBatch w.db e = none := by
      intro e he
      by_cases hapart : apart e.id
      · exact Or.inl hapart
      · exact Or.inr (hrecovery e.id hapart pass hp e he rfl)
    obtain ⟨hmem, htogether, hnext⟩ := hcommit.together (h.passes p pass hp) hleft
    refine ⟨h.rows.commit hmem htogether, alone_setPass hothers hnone, fun p' pass' hp' => ?_,
      fun q retry hq => ?_⟩
    · refine hset hp' (fun pass' hn => ?_) fun hne hold => ?_
      · obtain ⟨phase', hphase', rfl⟩ := Option.map_eq_some_iff.mp hn
        exact hnext phase' hphase' _
      · rw [hothers p' hne] at hold
        exact absurd hold (by simp)
    · have hq' : w.retries q = some retry := hq
      rw [hnone q] at hq'
      exact absurd hq' (by simp)
  | retryLoaded q id event hact hfree hev hfailed =>
    subst hact
    refine ⟨h.rows, alone_setRetry hone.1 hone.2, h.passes, fun q' retry hq' => ?_⟩
    rcases setRetry_cases hq' with ⟨-, hn⟩ | ⟨-, hq'⟩
    · obtain rfl := Option.some.inj hn
      exact (lookup_some hev).1
    · exact h.retries q' retry hq'
  | retryRead q event hq =>
    obtain ⟨hnone, hothers⟩ := h.alone.retry hq
    refine ⟨h.rows, alone_setRetry hnone hothers, h.passes, fun q' retry hq' => ?_⟩
    rcases setRetry_cases hq' with ⟨-, hn⟩ | ⟨-, hq'⟩
    · obtain rfl := Option.some.inj hn
      have hmem : event ∈ w.db.outbox := h.retries q _ hq
      exact ⟨hmem, (eventBatch_of_kind h.rows.kind hmem).symm⟩
    · exact h.retries q' retry hq'
  -- A retry writes event and batch together.
  | retried q event batch db hq hflush =>
    obtain rfl := flushAll_ok hflush
    obtain ⟨hnone, hothers⟩ := h.alone.retry hq
    obtain ⟨hmem, rfl⟩ := h.retries q _ hq
    have htogether : Together apart w.db (event, retriedEvent event)
        ((eventBatch w.db event).map fun b =>
            (b, { b with status := .pendingSync, lastError := none })) := by
      refine Or.inl ⟨?_, fun p hp => ?_⟩
      · rw [Option.map_map]
        exact Option.map_id'
      · obtain ⟨b, -, rfl⟩ := Option.map_eq_some_iff.mp hp
        rfl
    refine ⟨h.rows.commit hmem htogether, alone_setRetry hnone hothers, fun p pass hp => ?_,
      fun q' retry hq' => ?_⟩
    · have hp' : w.passes p = some pass := hp
      rw [hnone p] at hp'
      exact absurd hp' (by simp)
    · have hset' : (w.setRetry q none).retries q' = some retry := hq'
      rcases setRetry_cases hset' with ⟨-, hn⟩ | ⟨hne, hq''⟩
      · exact absurd hn (by simp)
      · rw [hothers q' hne] at hq''
        exact absurd hq'' (by simp)
  -- Those under way stay current: the old rows stay.
  | enqueued uuid now request row db hact henq =>
    subst hact
    have hsub : ∀ e ∈ w.db.outbox, e ∈ db.outbox := by
      intro e he
      rw [henq.appended]
      exact List.mem_append_left _ he
    have hread : ∀ e, eventBatch db e = eventBatch w.db e := by
      intro e
      rw [henq.appended]
      rfl
    refine ⟨h.rows.enqueue hone henq, h.alone, fun p pass hp => ?_, fun q retry hq => ?_⟩
    · have hold := h.passes p pass hp
      revert hold
      cases pass.phase <;> simp only [Phase.Current, hread] <;> grind
    · have hold := h.retries q retry hq
      revert hold
      cases retry <;> simp only [Retry.Current, hread] <;> grind

/-- In every state of a serialized run the batch of an event that was not recovered from
an interrupted delivery has the status of the event; a recovered one may be `FAILED`
while its batch is still `SYNCING`, and no other difference is possible. -/
theorem batch_mirrors_event (rt : Runtime) (db : Db) (st : Settings)
    (hkeys : (db.outbox.map (·.id)).Nodup) (honce : BatchesOnce db) (hkind : BatchEvents db)
    (hstart : ∀ id, Mirrors db id) (as : List Action) (w : World)
    (hw : exec (pushMachine rt) (World.idle db st) as = some w)
    (hone : Guarded (pushMachine rt) OneAtATime (World.idle db st) as) :
    (∀ id, Guarded (pushMachine rt) (Unrecovered id) (World.idle db st) as → Mirrors w.db id) ∧
    ∀ row ∈ w.db.outbox, ∀ b ∈ row.batchId, ∀ batch ∈ w.db.batch b,
      batch.status = row.status.batchStatus ∨ (row.status = .failed ∧ batch.status = .syncing) := by
  have hidle : ∀ apart, Serialized apart (World.idle db st) := by
    intro apart
    refine ⟨⟨hkeys, honce, hkind, fun row hrow b hb batch hbatch => ?_⟩,
      Or.inl ⟨⟨0, fun _ _ => rfl⟩, fun _ => rfl⟩, fun p pass hp => absurd hp (by simp [World.idle]),
      fun q retry hq => absurd hq (by simp [World.idle])⟩
    exact Or.inl (hstart row.id row hrow rfl b hb batch hbatch)
  constructor
  · intro id hid row hrow hrid b hb batch hbatch
    -- Every event but this one may be left apart.
    have hend := guarded_invariant (I := Serialized (· ≠ id))
      (fun s a s' hI hC hm => hI.step hC.1
        (fun id' hne => by
          obtain rfl : id' = id := not_not.mp hne
          exact hC.2) (pushMachine_cases hm)) (hidle _) (hone.and hid) hw
    rcases hend.rows.agree row hrow b hb batch hbatch with hsame | ⟨hne, -⟩
    · exact hsame
    · exact absurd hrid hne
  · intro row hrow b hb batch hbatch
    have hend := guarded_invariant (I := Serialized fun _ => True)
      (fun s a s' hI hC hm => hI.step hC (fun id' hne => absurd trivial hne) (pushMachine_cases hm))
      (hidle _) hone hw
    rcases hend.rows.agree row hrow b hb batch hbatch with hsame | ⟨-, hapart⟩
    · exact Or.inl hsame
    · exact Or.inr hapart

/-! ## One pass at a time -/

/-- The action is pass 0's, queues an event without a batch or changes the settings. -/
def Action.solo : Action → Bool
  | .begin p _ | .pass p _ _ | .kill p => p = 0
  | .askRetry .. | .retry _ | .dropRetry _ => false
  | .enqueue _ _ request => request.batchId = none
  | .configure _ => true

/-- Delivering one event at a time is one at a time. -/
theorem solo_oneAtATime {rt : Runtime} {db : Db} {st : Settings} {as : List Action}
    (h : as.all Action.solo = true) :
    Guarded (pushMachine rt) OneAtATime (World.idle db st) as := by
  refine guarded_of_guarded (I := Few 1 0) (D := fun _ (a : Action) => a.solo = true)
    (fun _ a _ hI hP hm => hI.step ?_ (pushMachine_cases hm))
    (fun w a hI hP => ?_) Few.idle (guarded_of_mem (List.all_eq_true.mp h))
  · cases a with
    | begin p limit =>
      obtain rfl : p = 0 := by simpa [Action.solo] using hP
      rfl
    | askRetry q id => exact absurd hP (by simp [Action.solo])
    | _ => rfl
  · cases a with
    | begin p limit =>
      obtain rfl : p = 0 := by simpa [Action.solo] using hP
      exact ⟨fun p' hp' => hI.passes p' (Nat.pos_of_ne_zero hp'),
        fun q => hI.retries q (Nat.zero_le q)⟩
    | askRetry q id => exact absurd hP (by simp [Action.solo])
    | enqueue uuid now request =>
      intro b hb
      have hnone : request.batchId = none := by simpa [Action.solo] using hP
      rw [hnone] at hb
      exact absurd hb (by simp)
    | _ => trivial

/-- A batch that waits for its delivery. -/
def waitingBatch : Batch :=
  { id := 1, batchNumber := py "SAL-1", batchType := .sale, partyName := none, partyState := none,
    partyGstRegistrationType := none, partyGstName := none, partyGstin := none,
    gstTreatment := none,
    gstCgstRate := none, gstSgstRate := none, gstIgstRate := none, reasonCode := none, userId := 1,
    auditAssignmentId := none, status := .pendingSync, tallyReference := none, notes := none,
    lastError := none, submittedAt := some 63900000002500000, syncedAt := none }

/-- A stored event under the digest of its payload. -/
def storedEvent (id : Nat) (aggregateType aggregateId : PyStr) (batchId : Option Nat)
    (payloadJson : PyStr) (status : OutboxStatus) (sentAt : Option Instant) : MasterOutboxEvent :=
  { id := id, eventId := py "11111111-1111-4111-8111-11111111111" ++ intStr id,
    eventType := py "STOCK_SNAPSHOT", schemaVersion := 1, aggregateType := aggregateType,
    aggregateId := aggregateId, batchId := batchId, payloadJson := payloadJson,
    payloadSha256 := (payloadSha256 payloadJson).toOption.getD [], status := status, attempts := 0,
    nextAttemptAt := none, lastError := none, sendingAt := none, sentAt := sentAt }

/-- An installation whose baseline is delivered, and whose first sale waits. -/
def waitingDb : Db :=
  { Db.empty with
    batches := [waitingBatch]
    outbox := [storedEvent 1 (py "INITIAL_INVENTORY") (py "HOME:INITIAL-INVENTORY:1") none
        (py "\x7b\"event\":\x7b\"sequence\":1\x7d\x7d") .sent (some 63900000001000000),
      storedEvent 2 (py "BATCH") (py "HOME:SAL-1") (some 1)
        (py "\x7b\"event\":\x7b\"sequence\":2\x7d\x7d") .pending none]
    outboxSequence := 2 }

/-- The claim of the sale's event is committed. -/
def claimedDelivery : List Action :=
  [.begin 0 100, .pass 0 63900000004000000 none, .pass 0 0 none, .pass 0 0 none]

/-- The delivery goes on, and times out. -/
def lostDelivery : List Action :=
  claimedDelivery ++
    [.pass 0 0 none, .pass 0 0 (some (.networkError (py "timed out"))), .pass 0 0 none,
      .pass 0 63900000005000000 none]

/-- The process stops, a later pass commits the recovery, and it stops again. -/
def interruptedTwice : List Action :=
  claimedDelivery ++
    [.kill 0, .begin 0 100, .pass 0 63900000064000000 none, .pass 0 0 none, .kill 0]

/-- The status of the batch 1, and the rows of the outbox. -/
def World.delivery (w : World) : Option BatchStatus × List (Nat × Option Nat × OutboxStatus) :=
  ((w.db.batch 1).map (·.status), w.db.outbox.map fun row => (row.id, row.batchId, row.status))

private theorem waitingDb_once : BatchesOnce waitingDb := by
  intro r₁ h₁ r₂ h₂ b hb₁ hb₂
  simp only [waitingDb, List.mem_cons, List.not_mem_nil, or_false] at h₁ h₂
  rcases h₁ with rfl | rfl <;> rcases h₂ with rfl | rfl <;> simp_all [storedEvent]

/-- The guarantee at a delivery that times out. -/
theorem batch_mirrors_event_lost :
    ∃ w, exec (pushMachine .plain) (World.idle waitingDb homeSettings) lostDelivery = some w ∧
      w.delivery = (some .failed, [(1, none, .sent), (2, some 1, .failed)]) ∧ Mirrors w.db 2 := by
  have hrun : (exec (pushMachine .plain) (World.idle waitingDb homeSettings) lostDelivery).map
      (·.delivery)
      = some (some .failed, [(1, none, .sent), (2, some 1, .failed)]) := by decide +kernel
  have hstart : ∀ row ∈ waitingDb.outbox, ∀ b ∈ row.batchId, ∀ batch ∈ waitingDb.batch b,
      batch.status = row.status.batchStatus := by decide +kernel
  have hkind : ∀ row ∈ waitingDb.outbox, row.batchId ≠ none → row.aggregateType = py "BATCH" := by
    decide +kernel
  obtain ⟨w, hw, hdelivery⟩ := Option.map_eq_some_iff.mp hrun
  have hmirrors := batch_mirrors_event .plain waitingDb homeSettings (by decide) waitingDb_once
    hkind (fun _ row hrow _ => hstart row hrow) lostDelivery w hw
    (solo_oneAtATime (by decide))
  exact ⟨w, hw, hdelivery, hmirrors.1 2 (by decide +kernel)⟩

/-- A recovery leaves the batch `SYNCING` under an event that has `FAILED`, and a process
that stops then leaves it so. -/
theorem interrupted_twice :
    ∃ w, exec (pushMachine .plain) (World.idle waitingDb homeSettings) interruptedTwice = some w ∧
      Guarded (pushMachine .plain) OneAtATime (World.idle waitingDb homeSettings) interruptedTwice ∧
      w.delivery = (some .syncing, [(1, none, .sent), (2, some 1, .failed)]) ∧
      ¬ Mirrors w.db 2 := by
  have hrun : (exec (pushMachine .plain) (World.idle waitingDb homeSettings) interruptedTwice).map
      (·.delivery)
      = some (some .syncing, [(1, none, .sent), (2, some 1, .failed)]) := by decide +kernel
  obtain ⟨w, hw, hdelivery⟩ := Option.map_eq_some_iff.mp hrun
  refine ⟨w, hw, solo_oneAtATime (by decide), hdelivery, fun hmirrors => ?_⟩
  obtain ⟨hbatch, hrows⟩ := Prod.mk.inj hdelivery
  obtain ⟨batch, hfound, hsyncing⟩ := Option.map_eq_some_iff.mp hbatch
  obtain ⟨row, hrow, hcolumns⟩ : ∃ row ∈ w.db.outbox, (row.id, row.batchId, row.status)
      = (2, some 1, OutboxStatus.failed) :=
    List.mem_map.mp (hrows ▸ List.mem_cons_of_mem _ List.mem_cons_self)
  simp only [Prod.mk.injEq] at hcolumns
  have hsame := hmirrors row hrow hcolumns.1 1 hcolumns.2.1 batch hfound
  rw [hsyncing, hcolumns.2.2] at hsame
  exact absurd hsame (by decide)

end SetuoraLite
