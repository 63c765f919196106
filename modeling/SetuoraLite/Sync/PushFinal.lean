import SetuoraLite.Sync.PushOrder

/-!
# Where `SENT` is final

A delivery writes its outcome without looking at the row again. Two passes that
selected the same event therefore both deliver it, and when the second one fails
after the first one was acknowledged, the failure replaces `SENT`:
`late_failure_reopens_sent` is such a run.

What keeps `SENT` final is that nobody else is at work on the event when its
acknowledgement is committed, and that no two events move one batch along
(`Careful`). Under this condition nobody ever takes hold of a sent event again,
because a pass selects only unsent events and a retry only failed ones
(`Settling.final`), so nothing can reopen it or its batch.
-/

namespace SetuoraLite

open Lib

/-! ## Who is at work on an event -/

/-- The event that a pass may still write as anything but `SENT`. -/
def Phase.threat : Phase → Option Nat
  | .head | .acked .. | .ackReady .. => none
  | .recovering e _ | .claiming e _ | .claimReady e _ _ | .posted e | .failing e _
  | .failReady e _ _ => some e.id
  | .reloading id _ | .claimed id => some id

/-- The event and the batch that a pass has loaded. -/
def Phase.session : Phase → Option (MasterOutboxEvent × Option Batch)
  | .head | .reloading .. | .claimed _ => none
  | .recovering e _ | .claiming e _ | .posted e | .failing e _ | .acked e _ _ => some (e, none)
  | .claimReady e _ batch | .failReady e _ batch | .ackReady e _ _ batch _ => some (e, batch)

/-- The event and the batch that a retry has loaded. -/
def Retry.session : Retry → MasterOutboxEvent × Option Batch
  | .loaded e => (e, none)
  | .ready e batch => (e, batch)

/-- A pass or a retry is about to write the event as something else than `SENT`. -/
def World.threatens (w : World) (id : Nat) : Prop :=
  (∃ p pass, w.passes p = some pass ∧ pass.phase.threat = some id) ∨
  (∃ q retry, w.retries q = some retry ∧ retry.session.1.id = id)

/-- An acknowledgement is committed only while nobody else is at work on its event,
and an event is queued only for a batch that no event has. -/
def Careful (w : World) : Action → Prop
  | .pass p _ _ => ∀ pass event status body batch receipt, w.passes p = some pass →
      pass.phase = .ackReady event status body batch receipt → ¬ w.threatens event.id
  | .enqueue _ _ request => ∀ b ∈ request.batchId, ∀ row ∈ w.db.outbox, row.batchId ≠ some b
  | _ => True

/-- A loaded event is a row of the outbox, and a loaded batch is its batch. -/
def Holding (db : Db) (s : MasterOutboxEvent × Option Batch) : Prop :=
  s.1.envelope ∈ db.envelopes ∧ ∀ batch ∈ s.2, s.1.batchId = some batch.id

/-- No two events have one batch. -/
def BatchesOnce (db : Db) : Prop :=
  ∀ r₁ ∈ db.outbox, ∀ r₂ ∈ db.outbox, ∀ b, r₁.batchId = some b → r₂.batchId = some b → r₁.id = r₂.id

/-- The invariant of a careful run. -/
structure Settling (w : World) : Prop where
  keys : (w.db.outbox.map (·.id)).Nodup
  once : BatchesOnce w.db
  passes : ∀ p pass, w.passes p = some pass → ∀ s, pass.phase.session = some s → Holding w.db s
  retries : ∀ q retry, w.retries q = some retry → Holding w.db retry.session
  final : ∀ row ∈ w.db.outbox, row.status = .sent → ¬ w.threatens row.id

/-! ## What a phase loads and commits -/

/-- An event that was just read is held as it is stored. -/
private theorem holding_loaded {db : Db} {e : MasterOutboxEvent} (h : e ∈ db.outbox) :
    Holding db (e, none) :=
  ⟨List.mem_map_of_mem h, fun _ hb => absurd hb (by simp)⟩

private theorem batch_id {db : Db} {e : MasterOutboxEvent} {batch : Batch}
    (h : e.batchId.bind db.batch = some batch) : e.batchId = some batch.id := by
  obtain ⟨b, hb, hlook⟩ := Option.bind_eq_some_iff.mp h
  rw [hb, (lookup_some hlook).2]

private theorem holding_batch {db : Db} {e : MasterOutboxEvent} (h : Holding db (e, none)) :
    Holding db (e, eventBatch db e) := by
  refine ⟨h.1, fun batch hb => ?_⟩
  unfold eventBatch at hb
  split at hb
  · exact batch_id hb
  · exact absurd hb (by simp)

/-- What is held stays held while the rows keep their ids. -/
theorem Holding.mono {db db' : Db} {s : MasterOutboxEvent × Option Batch}
    (hsub : ∀ e ∈ db.envelopes, e ∈ db'.envelopes) (h : Holding db s) : Holding db' s :=
  ⟨hsub _ h.1, h.2⟩

private theorem admit_threat {apiKey : PyStr} {e : MasterOutboxEvent} {now : Instant}
    {phase : Phase} (h : admission apiKey e now = some phase) :
    phase.threat = some e.id ∧ phase.session = some (e, none) := by
  unfold admission at h
  split at h
  · exact absurd h (by simp)
  · split at h <;>
    · obtain rfl := Option.some.inj h
      exact ⟨rfl, rfl⟩

/-- A move loads rows of the outbox. -/
theorem Phase.Moves.holding {rt : Runtime} {db : Db} {phase phase' : Phase} {entries : List Entry}
    (h : phase.Moves rt db phase' entries) (hs : ∀ s, phase.session = some s → Holding db s) :
    ∀ s, phase'.session = some s → Holding db s := by
  have hadmit : ∀ {e : MasterOutboxEvent} {k : PyStr} {now : Instant} {p : Phase},
      e ∈ db.outbox → admission k e now = some p → ∀ s, p.session = some s → Holding db s := by
    intro e k now p hmem hadm s hsess
    rw [(admit_threat hadm).2] at hsess
    obtain rfl := Option.some.inj hsess
    exact holding_loaded hmem
  have hsame : ∀ {s : MasterOutboxEvent × Option Batch}, Holding db s →
      ∀ s', some s = some s' → Holding db s' := by
    intro s hold s' he
    obtain rfl := Option.some.inj he
    exact hold
  cases h with
  | foundStale hsel _ => exact hsame (holding_loaded (oldestUnsentEvent_some hsel).1)
  | found hsel _ hadm => exact hadmit (oldestUnsentEvent_some hsel).1 hadm
  | reloaded hev hadm => exact hadmit (lookup_some hev).1 hadm
  | readForClaim => exact hsame (holding_batch (hs _ rfl))
  | sent hev => exact hsame (holding_loaded (lookup_some hev).1)
  | refused => exact hsame (hs _ rfl)
  | accepted _ _ _ => exact hsame (hs _ rfl)
  | readForFailure => exact hsame (holding_batch (hs _ rfl))
  | readForAck => exact hsame (holding_batch (hs _ rfl))

/-- A move takes hold of unsent events only. -/
theorem Phase.Moves.threat {rt : Runtime} {db : Db} {phase phase' : Phase} {entries : List Entry}
    (h : phase.Moves rt db phase' entries) {id : Nat} (hid : phase'.threat = some id) :
    phase.threat = some id ∨ ∃ row ∈ db.outbox, row.id = id ∧ row.status ≠ .sent := by
  cases h with
  | foundStale hsel _ =>
    obtain ⟨hmem, hunsent, -⟩ := oldestUnsentEvent_some hsel
    exact Or.inr ⟨_, hmem, Option.some.inj hid, hunsent⟩
  | found hsel _ hadm =>
    obtain ⟨hmem, hunsent, -⟩ := oldestUnsentEvent_some hsel
    rw [(admit_threat hadm).1] at hid
    exact Or.inr ⟨_, hmem, Option.some.inj hid, hunsent⟩
  | reloaded hev hadm =>
    rw [(admit_threat hadm).1, (lookup_some hev).2] at hid
    exact Or.inl hid
  | sent hev =>
    refine Or.inl ?_
    rw [← hid]
    exact congrArg some (lookup_some hev).2.symm
  | readForClaim => exact Or.inl hid
  | refused => exact Or.inl hid
  | accepted _ _ _ => exact absurd hid (by simp [Phase.threat])
  | readForFailure => exact Or.inl hid
  | readForAck => exact absurd hid (by simp [Phase.threat])

/-- What a commit writes: something else than `SENT`, by a pass that goes on with
the same event if at all, or the outcome of an acknowledgement. -/
theorem Phase.Commits.outcome {phase : Phase} {event : MasterOutboxEvent × MasterOutboxEvent}
    {batch : Option (Batch × Batch)} {receipt : Option (Receipt × Receipt)} {next : Option Phase}
    (h : phase.Commits event batch receipt next) :
    (phase.threat = some event.1.id ∧ event.2.status ≠ .sent ∧
      ∀ phase', next = some phase' → phase'.threat = phase.threat ∧ phase'.session = none) ∨
    ((∃ status body b r, phase = .ackReady event.1 status body b r) ∧ event.2.status = .sent ∧
      (∀ p ∈ batch, p.2.status = .synced) ∧ next = some .head) := by
  cases h with
  | recovery =>
    refine Or.inl ⟨rfl, by simp [recoveredEvent], fun phase' hn => ?_⟩
    obtain rfl := Option.some.inj hn
    exact ⟨rfl, rfl⟩
  | claim =>
    refine Or.inl ⟨rfl, by simp [claimedEvent], fun phase' hn => ?_⟩
    obtain rfl := Option.some.inj hn
    exact ⟨rfl, rfl⟩
  | failure => exact Or.inl ⟨rfl, by simp [failedEvent], fun phase' hn => absurd hn (by simp)⟩
  | acknowledgement =>
    refine Or.inr ⟨⟨_, _, _, _, rfl⟩, rfl, ?_, rfl⟩
    intro p hp
    obtain ⟨b, -, rfl⟩ := Option.map_eq_some_iff.mp hp
    rfl

/-- A commit writes the batch it loaded, and a receipt only as synced. -/
theorem Phase.Commits.session {phase : Phase} {event : MasterOutboxEvent × MasterOutboxEvent}
    {batch : Option (Batch × Batch)} {receipt : Option (Receipt × Receipt)} {next : Option Phase}
    (h : phase.Commits event batch receipt next) :
    phase.session = some (event.1, batch.map (·.1)) ∧ ∀ p ∈ receipt, p.2.syncedAt ≠ none := by
  cases h with
  | recovery => exact ⟨rfl, fun p hp => absurd hp (by simp)⟩
  | claim =>
    exact ⟨by simp [Phase.session, Option.map_map,
      Function.comp_def], fun p hp => absurd hp (by simp)⟩
  | failure =>
    exact ⟨by simp [Phase.session, Option.map_map,
      Function.comp_def], fun p hp => absurd hp (by simp)⟩
  | acknowledgement =>
    refine ⟨by simp [Phase.session, Option.map_map, Function.comp_def], fun p hp => ?_⟩
    obtain ⟨r, -, rfl⟩ := Option.map_eq_some_iff.mp hp
    simp

/-! ## One careful step -/

private theorem threatens_of_setPass {w : World} {p : Nat} {new : Option Pass} {id : Nat}
    (h : (w.setPass p new).threatens id) :
    w.threatens id ∨ ∃ pass, new = some pass ∧ pass.phase.threat = some id := by
  rcases h with ⟨p', pass, hp, ht⟩ | hq
  · rcases setPass_cases hp with ⟨-, hnew⟩ | ⟨-, hold⟩
    · exact Or.inr ⟨pass, hnew, ht⟩
    · exact Or.inl (Or.inl ⟨p', pass, hold, ht⟩)
  · exact Or.inl (Or.inr hq)

/-- A retry after a change of one retry is the new one or an old one. -/
theorem setRetry_cases {w : World} {q q' : Nat} {new : Option Retry} {retry : Retry}
    (h : (w.setRetry q new).retries q' = some retry) :
    (q' = q ∧ new = some retry) ∨ (q' ≠ q ∧ w.retries q' = some retry) := by
  replace h : Function.update w.retries q new q' = some retry := h
  by_cases he : q' = q
  · subst he
    rw [Function.update_self] at h
    exact Or.inl ⟨rfl, h⟩
  · rw [Function.update_of_ne he] at h
    exact Or.inr ⟨he, h⟩

private theorem threatens_of_setRetry {w : World} {q : Nat} {new : Option Retry} {id : Nat}
    (h : (w.setRetry q new).threatens id) :
    w.threatens id ∨ ∃ retry, new = some retry ∧ retry.session.1.id = id := by
  rcases h with hp | ⟨q', retry, hq, ht⟩
  · exact Or.inl (Or.inl hp)
  · rcases setRetry_cases hq with ⟨-, hnew⟩ | ⟨-, hold⟩
    · exact Or.inr ⟨retry, hnew, ht⟩
    · exact Or.inl (Or.inr ⟨q', retry, hold, ht⟩)

/-- A row that is sent after a commit was sent before, or the commit sent it. -/
private theorem sent_before {event : MasterOutboxEvent × MasterOutboxEvent}
    {batch : Option (Batch × Batch)} {receipt : Option (Receipt × Receipt)} {db : Db}
    {row : MasterOutboxEvent} (hrow : row ∈ (mergedDb event batch receipt db).outbox)
    (hs : row.status = .sent) :
    (∃ old ∈ db.outbox, old.id = row.id ∧ old.status = .sent) ∨
      (row.id = event.1.id ∧ event.2.status = .sent) := by
  obtain ⟨old, hold, rfl⟩ := mem_modifyRow.mp hrow
  split at hs
  next hid =>
    rw [if_pos hid]
    rcases column_cases event.1.status event.2.status old.status with ⟨-, hc⟩ | ⟨-, hc⟩
    · exact Or.inl ⟨old, hold, rfl, hc.symm.trans hs⟩
    · exact Or.inr ⟨hid, hc.symm.trans hs⟩
  next hid =>
    rw [if_neg hid]
    exact Or.inl ⟨old, hold, rfl, hs⟩

private theorem keys_of_envelopes {db db' : Db} (h : db'.envelopes = db.envelopes) :
    db'.outbox.map (·.id) = db.outbox.map (·.id) := by
  have hmap : ∀ d : Db, d.outbox.map (·.id) = d.envelopes.map Prod.fst := by
    intro d
    unfold Db.envelopes
    rw [List.map_map]
    rfl
  rw [hmap, hmap, h]

private theorem once_of_envelopes {db db' : Db} (h : db'.envelopes = db.envelopes)
    (hb : BatchesOnce db) : BatchesOnce db' := by
  have hback : ∀ r ∈ db'.outbox, ∃ old ∈ db.outbox, old.id = r.id ∧ old.batchId = r.batchId := by
    intro r hr
    have hmem : r.envelope ∈ db.envelopes := h ▸ List.mem_map_of_mem hr
    obtain ⟨old, hold, he⟩ := List.mem_map.mp hmem
    simp only [MasterOutboxEvent.envelope, Prod.mk.injEq] at he
    exact ⟨old, hold, he.1, he.2.2.2.2.2.2.1⟩
  intro r₁ h₁ r₂ h₂ b hb₁ hb₂
  obtain ⟨o₁, ho₁, hid₁, hob₁⟩ := hback r₁ h₁
  obtain ⟨o₂, ho₂, hid₂, hob₂⟩ := hback r₂ h₂
  rw [← hid₁, ← hid₂]
  exact hb o₁ ho₁ o₂ ho₂ b (hob₁.trans hb₁) (hob₂.trans hb₂)

/-- A step that changes neither an envelope nor a status. -/
private theorem Settling.quiet {w w' : World} (h : Settling w) (hdb : w'.db = w.db)
    (hp : ∀ p pass, w'.passes p = some pass → ∀ s, pass.phase.session = some s → Holding w.db s)
    (hq : ∀ q retry, w'.retries q = some retry → Holding w.db retry.session)
    (hthreat : ∀ id, w'.threatens id → w.threatens id ∨
      ∃ row ∈ w.db.outbox, row.id = id ∧ row.status ≠ .sent) : Settling w' := by
  refine ⟨hdb ▸ h.keys, hdb ▸ h.once, hdb ▸ hp, hdb ▸ hq, ?_⟩
  intro row hrow hs ht
  rw [hdb] at hrow
  rcases hthreat row.id ht with hold | ⟨other, hmem, hid, hunsent⟩
  · exact h.final row hrow hs hold
  · obtain rfl := eq_of_key_eq h.keys hmem hrow hid
    exact hunsent hs

/-- A commit that may only send the event `id`, which nobody else is at work on then. -/
private theorem Settling.commit {w w' : World} {event : MasterOutboxEvent × MasterOutboxEvent}
    {batch : Option (Batch × Batch)} {receipt : Option (Receipt × Receipt)} (h : Settling w)
    (hdb : w'.db = mergedDb event batch receipt w.db)
    (henv : event.2.payloadJson = event.1.payloadJson ∧
      event.2.payloadSha256 = event.1.payloadSha256)
    (hp : ∀ p pass, w'.passes p = some pass → w.passes p = some pass ∨ pass.phase.session = none)
    (hq : ∀ q retry, w'.retries q = some retry → w.retries q = some retry)
    (hthreat : ∀ id, w'.threatens id → w.threatens id)
    (hnew : event.2.status = .sent → ¬ w.threatens event.1.id) : Settling w' := by
  have heq : w'.db.envelopes = w.db.envelopes := by
    rw [hdb]
    exact mergedDb_envelopes henv.1 henv.2
  refine ⟨?_, once_of_envelopes heq h.once, ?_, ?_, ?_⟩
  · rw [keys_of_envelopes heq]
    exact h.keys
  · intro p pass hpass s hs
    rcases hp p pass hpass with hold | hnone
    · exact (h.passes p pass hold s hs).mono fun _ he => heq ▸ he
    · rw [hnone] at hs
      exact absurd hs (by simp)
  · intro q retry hretry
    exact (h.retries q retry (hq q retry hretry)).mono fun _ he => heq ▸ he
  · intro row hrow hs ht
    rw [hdb] at hrow
    rcases sent_before hrow hs with ⟨old, hold, hid, holds⟩ | ⟨hid, hsent⟩
    · exact h.final old hold holds (hid ▸ hthreat row.id ht)
    · exact hnew hsent (hid ▸ hthreat row.id ht)

/-- Every careful step keeps the invariant. -/
theorem Settling.step {rt : Runtime} {w w' : World} {a : Action} (h : Settling w)
    (hc : Careful w a) (hstep : PushStep rt w a w') : Settling w' := by
  have hold : ∀ id, w.threatens id → w.threatens id ∨
      ∃ row ∈ w.db.outbox, row.id = id ∧ row.status ≠ .sent := fun _ ht => Or.inl ht
  have hend : ∀ (p p' : Nat) (pass : Pass), (w.setPass p none).passes p' = some pass →
      w.passes p' = some pass := by
    intro p p' pass hp
    rcases setPass_cases hp with ⟨-, hn⟩ | ⟨-, hp'⟩
    · exact absurd hn (by simp)
    · exact hp'
  cases hstep with
  | configured st => exact h.quiet rfl h.passes h.retries hold
  | ended p =>
    refine h.quiet rfl (fun p' pass hp => h.passes p' pass (hend p p' pass hp)) h.retries ?_
    intro id ht
    rcases threatens_of_setPass ht with ht' | ⟨_, hn, -⟩
    · exact Or.inl ht'
    · exact absurd hn (by simp)
  | retryEnded q =>
    refine h.quiet rfl h.passes ?_ ?_
    · intro q' retry hr
      rcases setRetry_cases hr with ⟨-, hn⟩ | ⟨-, hr'⟩
      · exact absurd hn (by simp)
      · exact h.retries q' retry hr'
    · intro id ht
      rcases threatens_of_setRetry ht with ht' | ⟨_, hn, -⟩
      · exact Or.inl ht'
      · exact absurd hn (by simp)
  | started p apiKey limit hact hfree =>
    refine h.quiet rfl ?_ h.retries ?_
    · intro p' pass hp s hs
      rcases setPass_cases hp with ⟨-, hn⟩ | ⟨-, hp'⟩
      · obtain rfl := Option.some.inj hn
        exact absurd hs (by simp [Phase.session])
      · exact h.passes p' pass hp' s hs
    · intro id ht
      rcases threatens_of_setPass ht with ht' | ⟨_, hn, hthreat⟩
      · exact Or.inl ht'
      · obtain rfl := Option.some.inj hn
        exact absurd hthreat (by simp [Phase.threat])
  | moved p pass phase entries hp hm =>
    refine h.quiet rfl ?_ h.retries ?_
    · intro p' pass' hp' s hs
      rcases setPass_cases hp' with ⟨-, hn⟩ | ⟨-, hp'⟩
      · obtain rfl := Option.some.inj hn
        exact hm.holding (h.passes p pass hp) s hs
      · exact h.passes p' pass' hp' s hs
    · intro id ht
      rcases threatens_of_setPass ht with ht' | ⟨_, hn, hthreat⟩
      · exact Or.inl ht'
      · obtain rfl := Option.some.inj hn
        rcases hm.threat hthreat with hbefore | hrow
        · exact Or.inl (Or.inl ⟨p, pass, hp, hbefore⟩)
        · exact Or.inr hrow
  | committed p pass event batch receipt next n db hact hp hcommit hflush =>
    obtain rfl := flushAll_ok hflush
    obtain ⟨now, reply, rfl⟩ := hact
    have houtcome := hcommit.outcome
    refine h.commit rfl hcommit.envelope ?_ (fun _ _ hq => hq) ?_ ?_
    · intro p' pass' hp'
      rcases setPass_cases hp' with ⟨-, hn⟩ | ⟨-, hp'⟩
      · obtain ⟨phase', hnext, rfl⟩ := Option.map_eq_some_iff.mp hn
        rcases houtcome with ⟨-, -, hcont⟩ | ⟨-, -, -, hhead⟩
        · exact Or.inr (hcont phase' hnext).2
        · obtain rfl := Option.some.inj (hnext.symm.trans hhead)
          exact Or.inr rfl
      · exact Or.inl hp'
    · intro id ht
      rcases threatens_of_setPass ht with ht' | ⟨_, hn, hthreat⟩
      · exact ht'
      · obtain ⟨phase', hnext, rfl⟩ := Option.map_eq_some_iff.mp hn
        rcases houtcome with ⟨-, -, hcont⟩ | ⟨-, -, -, hhead⟩
        · rw [(hcont phase' hnext).1] at hthreat
          exact Or.inl ⟨p, pass, hp, hthreat⟩
        · obtain rfl := Option.some.inj (hnext.symm.trans hhead)
          exact absurd hthreat (by simp [Phase.threat])
    · intro hsent
      rcases houtcome with ⟨-, hunsent, -⟩ | ⟨⟨status, body, b, r, hphase⟩, -⟩
      · exact absurd hsent hunsent
      · exact hc pass event.1 status body b r hp hphase
  | retryLoaded q id event hact hfree hev hfailed =>
    obtain ⟨hmem, hid⟩ := lookup_some hev
    refine h.quiet rfl h.passes ?_ ?_
    · intro q' retry hr
      rcases setRetry_cases hr with ⟨-, hn⟩ | ⟨-, hr'⟩
      · obtain rfl := Option.some.inj hn
        exact holding_loaded hmem
      · exact h.retries q' retry hr'
    · intro id' ht
      rcases threatens_of_setRetry ht with ht' | ⟨_, hn, hthreat⟩
      · exact Or.inl ht'
      · obtain rfl := Option.some.inj hn
        exact Or.inr ⟨event, hmem, hthreat, by rw [hfailed]; simp⟩
  | retryRead q event hq =>
    refine h.quiet rfl h.passes ?_ ?_
    · intro q' retry hr
      rcases setRetry_cases hr with ⟨-, hn⟩ | ⟨-, hr'⟩
      · obtain rfl := Option.some.inj hn
        exact ⟨(h.retries q _ hq).1, fun batch hb => batch_id hb⟩
      · exact h.retries q' retry hr'
    · intro id' ht
      rcases threatens_of_setRetry ht with ht' | ⟨_, hn, hthreat⟩
      · exact Or.inl ht'
      · obtain rfl := Option.some.inj hn
        exact Or.inl (Or.inr ⟨q, _, hq, hthreat⟩)
  | retried q event batch db hq hflush =>
    obtain rfl := flushAll_ok hflush
    refine h.commit rfl ⟨rfl, rfl⟩ (fun _ _ hp => Or.inl hp) ?_ ?_ ?_
    · intro q' retry hr
      rcases setRetry_cases hr with ⟨-, hn⟩ | ⟨-, hr'⟩
      · exact absurd hn (by simp)
      · exact hr'
    · intro id ht
      have hset : (w.setRetry q none).threatens id := ht
      rcases threatens_of_setRetry hset with ht' | ⟨_, hn, -⟩
      · exact ht'
      · exact absurd hn (by simp)
    · intro hsent
      exact absurd hsent (by simp [retriedEvent])
  | enqueued uuid now request row db hact henq =>
    subst hact
    have hdb : db.outbox = w.db.outbox ++ [row] := by rw [henq.appended]
    have henv : db.envelopes = w.db.envelopes ++ [row.envelope] := by
      unfold Db.envelopes
      rw [hdb, List.map_append]
      rfl
    have hid : row.id = nextOutboxId w.db := by rw [henq.columns]; rfl
    have hbatch : row.batchId = request.batchId := by rw [henq.columns]; rfl
    have hsub : ∀ e ∈ w.db.envelopes, e ∈ db.envelopes := by
      intro e he
      rw [henv]
      exact List.mem_append_left _ he
    refine ⟨?_, ?_, fun p pass hp s hs => (h.passes p pass hp s hs).mono hsub,
      fun q retry hq => (h.retries q retry hq).mono hsub, ?_⟩
    · show (db.outbox.map (·.id)).Nodup
      rw [hdb, List.map_append, List.nodup_append]
      refine ⟨h.keys, by simp, ?_⟩
      intro k hk k' hk' he
      obtain ⟨old, hold', rfl⟩ := List.mem_map.mp hk
      simp only [List.map_singleton, List.mem_singleton] at hk'
      have := lt_nextOutboxId hold'
      omega
    · -- The new event's batch has no other event: the step is careful.
      have hnew : ∀ r ∈ w.db.outbox, ∀ b, r.batchId = some b → row.batchId ≠ some b := by
        intro r hr b hb hb'
        exact hc b (hbatch ▸ hb') r hr hb
      intro r₁ h₁ r₂ h₂ b hb₁ hb₂
      replace h₁ : r₁ ∈ db.outbox := h₁
      replace h₂ : r₂ ∈ db.outbox := h₂
      rw [hdb, List.mem_append, List.mem_singleton] at h₁ h₂
      rcases h₁ with h₁ | rfl <;> rcases h₂ with h₂ | rfl
      · exact h.once r₁ h₁ r₂ h₂ b hb₁ hb₂
      · exact absurd hb₂ (hnew r₁ h₁ b hb₁)
      · exact absurd hb₁ (hnew r₂ h₂ b hb₂)
      · rfl
    · intro r hr hs ht
      replace hr : r ∈ db.outbox := hr
      rw [hdb, List.mem_append, List.mem_singleton] at hr
      rcases hr with hr | rfl
      · exact h.final r hr hs ht
      · rw [henq.columns] at hs
        exact absurd hs (by simp [reservedRow])

/-! ## What stays -/

/-- The event `id` is sent; `b` is its batch, if it has one. -/
def SentAt (db : Db) (id : Nat) (b : Option Nat) : Prop :=
  ∃ row ∈ db.outbox, row.id = id ∧ row.batchId = b ∧ row.status = .sent

/-- The batch is synced. -/
def SyncedBatch (db : Db) (b : Nat) : Prop :=
  ∃ batch, db.batch b = some batch ∧ batch.status = .synced

/-- The receipt is marked synced. -/
def SyncedReceipt (db : Db) (id : Nat) : Prop := ∃ r ∈ db.receipts, r.id = id ∧ r.syncedAt ≠ none

/-- A commit to a row that nobody threatens writes it as `SENT` or not at all. -/
private theorem sentAt_merged {event : MasterOutboxEvent × MasterOutboxEvent}
    {batch : Option (Batch × Batch)} {receipt : Option (Receipt × Receipt)} {db : Db} {id : Nat}
    {b : Option Nat} (hnew : event.1.id = id → event.2.status = .sent) (h : SentAt db id b) :
    SentAt (mergedDb event batch receipt db) id b := by
  obtain ⟨row, hrow, rfl, rfl, hs⟩ := h
  refine ⟨_, mem_modifyRow.mpr ⟨row, hrow, rfl⟩, ?_⟩
  split
  next hid =>
    refine ⟨rfl, rfl, ?_⟩
    rcases column_cases event.1.status event.2.status row.status with ⟨-, hc⟩ | ⟨-, hc⟩
    · exact hc.trans hs
    · exact hc.trans (hnew hid.symm)
  next => exact ⟨rfl, rfl, hs⟩

private theorem syncedBatch_merged {event : MasterOutboxEvent × MasterOutboxEvent}
    {batch : Option (Batch × Batch)} {receipt : Option (Receipt × Receipt)} {db : Db} {b : Nat}
    (hnew : ∀ p ∈ batch, p.1.id = b → p.2.status = .synced) (h : SyncedBatch db b) :
    SyncedBatch (mergedDb event batch receipt db) b := by
  obtain ⟨stored, hstored, hs⟩ := h
  cases batch with
  | none => exact ⟨stored, hstored, hs⟩
  | some p =>
    unfold Db.batch at hstored
    have hkey : ∀ r ∈ db.batches, r.id = p.1.id → (mergedBatch p.1 p.2 r).id = p.1.id :=
      fun _ _ hr => hr
    by_cases hid : p.1.id = b
    · refine ⟨mergedBatch p.1 p.2 stored, ?_, ?_⟩
      · show lookup (·.id) b (modifyRow (·.id) p.1.id (mergedBatch p.1 p.2) db.batches) = _
        rw [← hid, lookup_modifyRow_self hkey, hid, hstored]
        rfl
      · rcases column_cases p.1.status p.2.status stored.status with ⟨-, hc⟩ | ⟨-, hc⟩
        · exact hc.trans hs
        · exact hc.trans (hnew p rfl hid)
    · refine ⟨stored, ?_, hs⟩
      show lookup (·.id) b (modifyRow (·.id) p.1.id (mergedBatch p.1 p.2) db.batches) = _
      rw [lookup_modifyRow_ne (Ne.symm hid) hkey, hstored]

private theorem syncedReceipt_merged {event : MasterOutboxEvent × MasterOutboxEvent}
    {batch : Option (Batch × Batch)} {receipt : Option (Receipt × Receipt)} {db : Db} {id : Nat}
    (hnew : ∀ p ∈ receipt, p.2.syncedAt ≠ none) (h : SyncedReceipt db id) :
    SyncedReceipt (mergedDb event batch receipt db) id := by
  obtain ⟨r, hr, hid, hs⟩ := h
  cases receipt with
  | none => exact ⟨r, hr, hid, hs⟩
  | some p =>
    refine ⟨_, mem_modifyRow.mpr ⟨r, hr, rfl⟩, ?_⟩
    split
    next =>
      refine ⟨hid, ?_⟩
      rcases column_cases p.1.syncedAt p.2.syncedAt r.syncedAt with ⟨-, hc⟩ | ⟨-, hc⟩
      · exact fun hn => hs (hc.symm.trans hn)
      · exact fun hn => hnew p rfl (hc.symm.trans hn)
    next => exact ⟨hid, hs⟩

/-- The commits of a step: it changes nothing that matters here, or it merges rows,
and then it writes a threatened event or the outcome of an acknowledgement. -/
private theorem PushStep.merges {rt : Runtime} {w w' : World} {a : Action} (hw : Settling w)
    (h : PushStep rt w a w') :
    (w'.db.batches = w.db.batches ∧ w'.db.receipts = w.db.receipts ∧
      ∀ row ∈ w.db.outbox, row ∈ w'.db.outbox) ∨
    ∃ event batch receipt, w'.db = mergedDb event batch receipt w.db ∧
      Holding w.db (event.1, batch.map (·.1)) ∧ (∀ p ∈ receipt, p.2.syncedAt ≠ none) ∧
      (w.threatens event.1.id ∨ (event.2.status = .sent ∧ ∀ p ∈ batch, p.2.status = .synced)) := by
  cases h with
  | committed p pass event batch receipt next n db hact hp hcommit hflush =>
    obtain rfl := flushAll_ok hflush
    obtain ⟨hsession, hreceipt⟩ := hcommit.session
    refine Or.inr ⟨event, batch, receipt, rfl, hw.passes p pass hp _ hsession, hreceipt, ?_⟩
    rcases hcommit.outcome with ⟨hthreat, -, -⟩ | ⟨-, hsent, hsynced, -⟩
    · exact Or.inl (Or.inl ⟨p, pass, hp, hthreat⟩)
    · exact Or.inr ⟨hsent, hsynced⟩
  | retried q event batch db hq hflush =>
    obtain rfl := flushAll_ok hflush
    refine Or.inr
      ⟨_, _, none, rfl, ?_, fun p hp => absurd hp (by simp), Or.inl (Or.inr ⟨q, _, hq, rfl⟩)⟩
    have hold := hw.retries q _ hq
    rw [Option.map_map]
    simpa [Retry.session, Function.comp_def] using hold
  | enqueued uuid now request row db hact henq =>
    refine Or.inl ?_
    rw [henq.appended]
    exact ⟨rfl, rfl, fun r hr => List.mem_append_left _ hr⟩
  | _ => exact Or.inl ⟨rfl, rfl, fun _ hr => hr⟩

/-- A sent event stays sent, and its synced batch stays synced. -/
private theorem sent_step {rt : Runtime} {w w' : World} {a : Action} (hw : Settling w)
    (h : PushStep rt w a w') {id : Nat} {b : Option Nat} (hs : SentAt w.db id b) :
    SentAt w'.db id b ∧ ∀ k ∈ b, SyncedBatch w.db k → SyncedBatch w'.db k := by
  obtain ⟨row, hrow, hid, hb, hsent⟩ := hs
  have hfree : ¬ w.threatens id := hid ▸ hw.final row hrow hsent
  rcases h.merges hw with ⟨hbatches, -, hkept⟩ | ⟨event, batch, receipt, hdb, hold, -, hkind⟩
  · refine ⟨⟨row, hkept row hrow, hid, hb, hsent⟩, fun k _ hk => ?_⟩
    unfold SyncedBatch Db.batch at hk ⊢
    rwa [hbatches]
  · rw [hdb]
    refine ⟨sentAt_merged ?_ ⟨row, hrow, hid, hb, hsent⟩, fun k hk hsynced => ?_⟩
    · intro he
      rcases hkind with ht | ⟨hwrites, -⟩
      · exact absurd (he ▸ ht) hfree
      · exact hwrites
    · refine syncedBatch_merged (fun p hp hpk => ?_) hsynced
      rcases hkind with ht | ⟨-, hwrites⟩
      · -- The batch has only one event, and that is the one at rest.
        have hbatch : event.1.batchId = some p.1.id :=
          hold.2 p.1 (by rw [hp]; rfl)
        obtain ⟨other, hother, he⟩ := List.mem_map.mp hold.1
        simp only [MasterOutboxEvent.envelope, Prod.mk.injEq] at he
        have hsame : other.id = row.id := hw.once other hother row hrow k
          (by rw [he.2.2.2.2.2.2.1, hbatch, hpk]) (by rw [hb]; exact hk)
        exact absurd (by rwa [← he.1, hsame, hid] at ht) hfree
      · exact hwrites p hp

/-- A receipt once marked synced stays so. -/
private theorem receipt_step {rt : Runtime} {w w' : World} {a : Action} (hw : Settling w)
    (h : PushStep rt w a w') {id : Nat} (hs : SyncedReceipt w.db id) : SyncedReceipt w'.db id := by
  rcases h.merges hw with ⟨-, hreceipts, -⟩ | ⟨event, batch, receipt, hdb, -, hmarks, -⟩
  · unfold SyncedReceipt at hs ⊢
    rwa [hreceipts]
  · rw [hdb]
    exact syncedReceipt_merged hmarks hs

/-- An idle installation whose events have a batch each satisfies the invariant. -/
theorem Settling.idle {db : Db} (hkeys : (db.outbox.map (·.id)).Nodup) (honce : BatchesOnce db)
    (st : Settings) : Settling (World.idle db st) := by
  refine ⟨hkeys, honce, fun p pass hp => absurd hp (by simp [World.idle]),
    fun q retry hq => absurd hq (by simp [World.idle]), ?_⟩
  intro row _ _ ht
  rcases ht with ⟨p, pass, hp, -⟩ | ⟨q, retry, hq, -⟩
  · exact absurd hp (by simp [World.idle])
  · exact absurd hq (by simp [World.idle])

/-- Where every step of a run is careful, `SENT` is final: whatever was sent, synced
or marked at some point of the run is so at every later point. -/
theorem sent_is_final (rt : Runtime) (db : Db) (st : Settings)
    (hkeys : (db.outbox.map (·.id)).Nodup) (honce : BatchesOnce db) (as bs : List Action)
    (u v : World) (hu : exec (pushMachine rt) (World.idle db st) as = some u)
    (hv : exec (pushMachine rt) u bs = some v)
    (hc : Guarded (pushMachine rt) Careful (World.idle db st) (as ++ bs)) :
    (∀ id b, SentAt u.db id b → SentAt v.db id b ∧
      ∀ k ∈ b, SyncedBatch u.db k → SyncedBatch v.db k) ∧
    (∀ id, SyncedReceipt u.db id → SyncedReceipt v.db id) := by
  obtain ⟨hcu, hcv⟩ := guarded_append.mp hc
  have hstep : ∀ s a s', Settling s → Careful s a → pushMachine rt s a = some s' → Settling s' :=
    fun _ _ _ hI hC hm => hI.step hC (pushMachine_cases hm)
  have hset : Settling u := guarded_invariant hstep (Settling.idle hkeys honce st) hcu hu
  refine ⟨fun id b hs => ?_, fun id hs => ?_⟩
  · have hsent := guarded_invariant (I := fun w => Settling w ∧ SentAt w.db id b)
      (fun s a s' hI hC hm => ⟨hstep s a s' hI.1 hC hm,
        (sent_step hI.1 (pushMachine_cases hm) hI.2).1⟩) ⟨hset, hs⟩ (hcv u hu) hv
    refine ⟨hsent.2, fun k hk hsynced => ?_⟩
    have hbatch := guarded_invariant
      (I := fun w => Settling w ∧ SentAt w.db id b ∧ SyncedBatch w.db k)
      (fun s a s' hI hC hm => by
        have hnext := sent_step hI.1 (pushMachine_cases hm) hI.2.1
        exact ⟨hstep s a s' hI.1 hC hm, hnext.1, hnext.2 k hk hI.2.2⟩)
      ⟨hset, hs, hsynced⟩ (hcv u hu) hv
    exact hbatch.2.2
  · have hreceipt := guarded_invariant (I := fun w => Settling w ∧ SyncedReceipt w.db id)
      (fun s a s' hI hC hm => ⟨hstep s a s' hI.1 hC hm,
        receipt_step hI.1 (pushMachine_cases hm) hI.2⟩) ⟨hset, hs⟩ (hcv u hu) hv
    exact hreceipt.2

/-! ## A few deliveries at a time -/

/-- Only the first `n` passes and the first `m` retries are under way. -/
structure Few (n m : Nat) (w : World) : Prop where
  passes : ∀ p, n ≤ p → w.passes p = none
  retries : ∀ q, m ≤ q → w.retries q = none

/-- The action starts one of the first `n` passes or of the first `m` retries, or none. -/
def Action.few (n m : Nat) : Action → Bool
  | .begin p _ => p < n
  | .askRetry q _ => q < m
  | .pass .. | .kill _ | .retry _ | .dropRetry _ | .enqueue .. | .configure _ => true

/-- At the start nothing is under way. -/
theorem Few.idle {n m : Nat} {db : Db} {st : Settings} : Few n m (World.idle db st) :=
  ⟨fun _ _ => rfl, fun _ _ => rfl⟩

/-- A pass under way is one of the first. -/
theorem Few.lt {n m : Nat} {w : World} {p : Nat} {pass : Pass} (h : Few n m w)
    (hp : w.passes p = some pass) : p < n := by
  by_contra hle
  rw [h.passes p (Nat.le_of_not_lt hle)] at hp
  exact absurd hp (by simp)

theorem Few.lt_retry {n m : Nat} {w : World} {q : Nat} {retry : Retry} (h : Few n m w)
    (hq : w.retries q = some retry) : q < m := by
  by_contra hle
  rw [h.retries q (Nat.le_of_not_lt hle)] at hq
  exact absurd hq (by simp)

private theorem Few.setPass {n m : Nat} {w : World} (h : Few n m w) {p : Nat} {new : Option Pass}
    (hp : p < n ∨ new = none) : ∀ p', n ≤ p' → (w.setPass p new).passes p' = none := by
  intro p' hp'
  show Function.update w.passes p new p' = none
  by_cases he : p' = p
  · subst he
    rw [Function.update_self]
    exact hp.resolve_left (Nat.not_lt.mpr hp')
  · rw [Function.update_of_ne he]
    exact h.passes p' hp'

private theorem Few.setRetry {n m : Nat} {w : World} (h : Few n m w) {q : Nat} {new : Option Retry}
    (hq : q < m ∨ new = none) : ∀ q', m ≤ q' → (w.setRetry q new).retries q' = none := by
  intro q' hq'
  show Function.update w.retries q new q' = none
  by_cases he : q' = q
  · subst he
    rw [Function.update_self]
    exact hq.resolve_left (Nat.not_lt.mpr hq')
  · rw [Function.update_of_ne he]
    exact h.retries q' hq'

/-- A step of the first few leaves the rest idle. -/
theorem Few.step {n m : Nat} {rt : Runtime} {w w' : World} {a : Action} (h : Few n m w)
    (ha : a.few n m = true) (hstep : PushStep rt w a w') : Few n m w' := by
  cases hstep with
  | configured st => exact ⟨h.passes, h.retries⟩
  | ended p => exact ⟨h.setPass (Or.inr rfl), h.retries⟩
  | retryEnded q => exact ⟨h.passes, h.setRetry (Or.inr rfl)⟩
  | started p apiKey limit hact hfree =>
    subst hact
    exact ⟨h.setPass (Or.inl (by simpa [Action.few] using ha)), h.retries⟩
  | moved p pass phase entries hp hm => exact ⟨h.setPass (Or.inl (h.lt hp)), h.retries⟩
  | committed p pass event batch receipt next n db hact hp hcommit hflush =>
    exact ⟨h.setPass (Or.inl (h.lt hp)), h.retries⟩
  | retryLoaded q id event hact hfree hev hfailed =>
    subst hact
    exact ⟨h.passes, h.setRetry (Or.inl (by simpa [Action.few] using ha))⟩
  | retryRead q event hq => exact ⟨h.passes, h.setRetry (Or.inl (h.lt_retry hq))⟩
  | retried q event batch db hq hflush => exact ⟨h.passes, h.setRetry (Or.inr rfl)⟩
  | enqueued uuid now request row db hact henq => exact ⟨h.passes, h.retries⟩

/-- The event whose acknowledgement a pass is about to commit. -/
def Phase.acknowledges : Phase → Option Nat
  | .ackReady event _ _ _ _ => some event.id
  | _ => none

/-- `World.threatens`, of the passes and the retries that can be under way. -/
def World.fewThreaten (n m : Nat) (w : World) (id : Nat) : Bool :=
  ((List.range n).any fun p => (w.passes p).any fun pass => pass.phase.threat = some id) ||
  ((List.range m).any fun q => (w.retries q).any fun retry => retry.session.1.id = id)

/-- `Careful`, as a test, where no batch is queued for. -/
def Action.carefulFew (n m : Nat) (w : World) : Action → Bool
  | .pass p _ _ => ((w.passes p).bind fun pass => pass.phase.acknowledges).all fun id =>
      !w.fewThreaten n m id
  | .enqueue _ _ request => request.batchId = none
  | _ => true

/-- A threat is one of the first few. -/
theorem Few.threatens {n m : Nat} {w : World} {id : Nat} (h : Few n m w) (ht : w.threatens id) :
    w.fewThreaten n m id = true := by
  unfold World.fewThreaten
  rw [Bool.or_eq_true, List.any_eq_true, List.any_eq_true]
  rcases ht with ⟨p, pass, hp, hthreat⟩ | ⟨q, retry, hq, hid⟩
  · exact Or.inl ⟨p, List.mem_range.mpr (h.lt hp), by simp [hp, hthreat]⟩
  · exact Or.inr ⟨q, List.mem_range.mpr (h.lt_retry hq), by simp [hq, hid]⟩

theorem Few.careful {n m : Nat} {w : World} {a : Action} (h : Few n m w)
    (ha : a.carefulFew n m w = true) : Careful w a := by
  cases a with
  | pass p now reply =>
    intro pass event status body batch receipt hp hphase ht
    have hack : ((w.passes p).bind fun pass => pass.phase.acknowledges) = some event.id := by
      rw [hp, Option.bind_some, hphase, Phase.acknowledges]
    change Option.all _ ((w.passes p).bind fun pass => pass.phase.acknowledges) = true at ha
    rw [hack, Option.all_some, h.threatens ht] at ha
    exact absurd ha (by decide)
  | enqueue uuid now request =>
    intro b hb
    have hnone : request.batchId = none := by simpa [Action.carefulFew] using ha
    rw [hnone] at hb
    exact absurd hb (by simp)
  | _ => trivial

/-- A run that passes the test at every step is careful. -/
theorem few_guarded {n m : Nat} {rt : Runtime} {db : Db} {st : Settings} {as : List Action}
    (h : Guarded (pushMachine rt)
      (fun w (a : Action) => a.few n m = true ∧ a.carefulFew n m w = true)
      (World.idle db st) as) : Guarded (pushMachine rt) Careful (World.idle db st) as :=
  guarded_of_guarded (I := Few n m)
    (fun _ _ _ hI hP hm => hI.step hP.1 (pushMachine_cases hm))
    (fun _ _ hI hP => hI.careful hP.2) Few.idle h

/-- Two passes deliver the baseline at once; the second times out before the first is
acknowledged. -/
def sharedDelivery : List Action :=
  [.enqueue (py "11111111-1111-4111-8111-111111111111") 63900000000000000 emptyBaseline,
    .begin 0 100, .begin 1 100, .pass 0 63900000001000000 none, .pass 1 63900000001000000 none,
    .pass 0 0 none, .pass 0 0 none, .pass 0 0 none, .pass 1 0 none, .pass 1 0 none, .pass 1 0 none,
    .pass 1 0 (some (.networkError (py "timed out"))), .pass 1 0 none,
    .pass 1 63900000001500000 none,
    .pass 0 0 (some (.response 200 firstAcknowledgement)), .pass 0 0 none,
    .pass 0 63900000002000000 none]

/-- The same passes find nothing to deliver but a new event, and lose it; it is retried. -/
def laterDelivery : List Action :=
  [.enqueue (py "22222222-2222-4222-8222-222222222222") 63900000003000000 emptySnapshot,
    .begin 1 100, .pass 0 63900000004000000 none, .pass 1 63900000004000000 none,
    .pass 0 0 none, .pass 0 0 none, .pass 0 0 none,
    .pass 0 0 (some (.networkError (py "timed out"))), .pass 0 0 none,
    .pass 0 63900000005000000 none,
    .askRetry 0 2, .retry 0, .retry 0]

/-- The guarantee at a baseline that one of two passes delivered, before a later event failed and
was retried. -/
theorem sent_is_final_home :
    ∃ u v, exec (pushMachine .plain) (World.idle .empty homeSettings) sharedDelivery = some u ∧
      exec (pushMachine .plain) u laterDelivery = some v ∧ SentAt u.db 1 none ∧
      SentAt v.db 1 none := by
  have hrun : ((exec (pushMachine .plain) (World.idle .empty homeSettings) sharedDelivery).bind
      fun u => (exec (pushMachine .plain) u laterDelivery).map fun _ =>
        u.db.outbox.map fun row =>
            (row.id, row.batchId, row.status)) = some [(1, none, .sent)] := by
    decide +kernel
  obtain ⟨u, hu, hrest⟩ := Option.bind_eq_some_iff.mp hrun
  obtain ⟨v, huv, hrows⟩ := Option.map_eq_some_iff.mp hrest
  obtain ⟨row, hrow, hcolumns⟩ : ∃ row ∈ u.db.outbox, (row.id, row.batchId, row.status)
      = (1, none, OutboxStatus.sent) := List.mem_map.mp (hrows ▸ List.mem_cons_self)
  simp only [Prod.mk.injEq] at hcolumns
  have hu₁ : SentAt u.db 1 none := ⟨row, hrow, hcolumns⟩
  have hfinal := sent_is_final .plain .empty homeSettings (by decide)
    (fun r hr => absurd hr List.not_mem_nil) sharedDelivery laterDelivery u v hu huv
    (few_guarded (n := 2) (m := 1) (by decide +kernel))
  exact ⟨u, v, hu, huv, hu₁, (hfinal.1 1 none hu₁).1⟩

/-! ## A late failure -/

/-- Two passes deliver the baseline at once, and the first one is acknowledged. -/
def racedDelivery : List Action :=
  [.enqueue (py "11111111-1111-4111-8111-111111111111") 63900000000000000 emptyBaseline,
    .begin 0 100, .begin 1 100, .pass 0 63900000001000000 none, .pass 1 63900000001000000 none,
    .pass 0 0 none, .pass 0 0 none, .pass 0 0 none, .pass 1 0 none, .pass 1 0 none, .pass 1 0 none,
    .pass 0 0 (some (.response 200 firstAcknowledgement)), .pass 0 0 none,
    .pass 0 63900000002000000 none]

/-- The second one times out. -/
def lateFailure : List Action :=
  [.pass 1 0 (some (.networkError (py "timed out"))), .pass 1 0 none,
    .pass 1 63900000016000000 none]

/-- `SENT` is not final in every run: a delivery that fails late reopens an event
that another pass delivered. -/
theorem late_failure_reopens_sent :
    ∃ u v, exec (pushMachine .plain) (World.idle .empty homeSettings) racedDelivery = some u ∧
      exec (pushMachine .plain) u lateFailure = some v ∧
      u.db.outbox.map (fun row => (row.id, row.status)) = [(1, .sent)] ∧
      v.db.outbox.map (fun row => (row.id, row.status)) = [(1, .failed)] := by
  have hrun : ((exec (pushMachine .plain) (World.idle .empty homeSettings) racedDelivery).bind
      fun u => (exec (pushMachine .plain) u lateFailure).map fun v =>
        (u.db.outbox.map (fun row => (row.id, row.status)),
          v.db.outbox.map (fun row => (row.id, row.status)))) = some ([(1, .sent)],
            [(1, .failed)]) := by
    decide +kernel
  obtain ⟨u, hu, hrest⟩ := Option.bind_eq_some_iff.mp hrun
  obtain ⟨v, huv, hrows⟩ := Option.map_eq_some_iff.mp hrest
  obtain ⟨hfirst, hlast⟩ := Prod.mk.inj hrows
  exact ⟨u, v, hu, huv, hfirst, hlast⟩

end SetuoraLite
