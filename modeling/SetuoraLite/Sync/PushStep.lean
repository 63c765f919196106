import SetuoraLite.Sync.Push

/-!
# What one step of the push machine can do

`pushMachine_cases` says it once: a step ends, starts or moves a pass or a retry
without touching the database, or it commits what a phase had ready, or it queues
an event. `Phase.Moves` lists the moves and `Phase.Commits` the commits, each with
the guards the program checked. The invariants of a run are derived from these
lists and never look at `passStep` again.

`flushAll_ok` is the database after a commit, `oldestUnsentEvent_some` the event
that a pass selects.
-/

namespace SetuoraLite

open Lib

/-! ## Selecting -/

/-- The selected event is unsent, and no unsent event is older. -/
theorem oldestUnsentEvent_some {rows : List MasterOutboxEvent} {e : MasterOutboxEvent}
    (h : oldestUnsentEvent rows = some e) :
    e ∈ rows ∧ e.status ≠ .sent ∧ ∀ r ∈ rows, r.status ≠ .sent → e.id ≤ r.id := by
  -- Down the rows: the head is unsent, or it is final and the tail is asked.
  induction rows generalizing e with
  | nil => exact absurd h (by simp [oldestUnsentEvent])
  | cons r rest ih =>
    unfold oldestUnsentEvent at h
    split at h
    next hnone =>
      split at h
      next hr =>
        obtain rfl := Option.some.inj h
        refine ⟨List.mem_cons_self, hr, ?_⟩
        intro r' hr' hunsent
        rcases List.mem_cons.mp hr' with rfl | hmem
        · exact Nat.le_refl _
        · exact absurd hunsent (fun hne => oldestUnsentEvent_none_aux hnone r' hmem hne)
      next => exact absurd h (by simp)
    next e' hsome =>
      obtain ⟨hmem, hne, hmin⟩ := ih hsome
      split at h
      next hr =>
        obtain rfl := Option.some.inj h
        refine ⟨List.mem_cons_self, hr.1, ?_⟩
        intro r' hr' hunsent
        rcases List.mem_cons.mp hr' with rfl | hmem'
        · exact Nat.le_refl _
        · exact Nat.le_trans hr.2 (hmin r' hmem' hunsent)
      next hr =>
        obtain rfl := Option.some.inj h
        refine ⟨List.mem_cons_of_mem r hmem, hne, ?_⟩
        intro r' hr' hunsent
        rcases List.mem_cons.mp hr' with rfl | hmem'
        · have : ¬ r'.id ≤ e'.id := fun hle => hr ⟨hunsent, hle⟩
          omega
        · exact hmin r' hmem' hunsent
where
  oldestUnsentEvent_none_aux : ∀ {rows : List MasterOutboxEvent}, oldestUnsentEvent rows = none →
      ∀ r ∈ rows, ¬ r.status ≠ .sent := by
    intro rows
    induction rows with
    | nil => intro _ r hr; exact absurd hr List.not_mem_nil
    | cons r rest ih =>
      intro h r' hr'
      unfold oldestUnsentEvent at h
      split at h
      next hnone =>
        split at h
        next => exact absurd h (by simp)
        next hr =>
          rcases List.mem_cons.mp hr' with rfl | hmem
          · exact hr
          · exact ih hnone r' hmem
      next =>
        split at h <;> exact absurd h (by simp)

/-! ## Moves and commits -/

/-- The moves of a pass that do not touch the database, and what they record. -/
inductive Phase.Moves (rt : Runtime) (db : Db) : Phase → Phase → List Entry → Prop
  | foundStale {event : MasterOutboxEvent} {now : Instant} :
      oldestUnsentEvent db.outbox = some event → event.status = .sending →
      Moves rt db .head (.recovering event now) []
  | found {event : MasterOutboxEvent} {apiKey : PyStr} {now : Instant} {phase : Phase} :
      oldestUnsentEvent db.outbox = some event → event.status ≠ .sending →
      admission apiKey event now = some phase → Moves rt db .head phase []
  | reloaded {id : Nat} {now : Instant} {event : MasterOutboxEvent} {apiKey : PyStr}
      {phase : Phase} :
      db.event id = some event → admission apiKey event now = some phase →
      Moves rt db (.reloading id now) phase []
  | readForClaim {event : MasterOutboxEvent} {now : Instant} :
      Moves rt db (.claiming event now) (.claimReady event now (eventBatch db event)) []
  | sent {id : Nat} {event : MasterOutboxEvent} :
      db.event id = some event → Moves rt db (.claimed id) (.posted event) [.posted event]
  | refused {event : MasterOutboxEvent} {failure : Failure} :
      Moves rt db (.posted event) (.failing event failure) []
  | accepted {event : MasterOutboxEvent} {status : Int} {body : List UInt8} :
      200 ≤ status → status < 300 → validateEventAcknowledgement rt body event = .ok () →
      Moves rt db (.posted event) (.acked event status body) []
  | readForFailure {event : MasterOutboxEvent} {failure : Failure} :
      Moves rt db (.failing event failure) (.failReady event failure (eventBatch db event)) []
  | readForAck {event : MasterOutboxEvent} {status : Int} {body : List UInt8} :
      Moves rt db (.acked event status body)
        (.ackReady event status body (eventBatch db event) (eventReceipt db event)) []

/-- What a phase has ready to commit: the event, the batch and the receipt with
their new values, and the phase afterwards. -/
inductive Phase.Commits : Phase → MasterOutboxEvent × MasterOutboxEvent →
    Option (Batch × Batch) → Option (Receipt × Receipt) → Option Phase → Prop
  | recovery {event : MasterOutboxEvent} {now : Instant} :
      Commits (.recovering event now) (event, recoveredEvent event now) none none
        (some (.reloading event.id now))
  | claim {event : MasterOutboxEvent} {now : Instant} {batch : Option Batch} :
      Commits (.claimReady event now batch) (event, claimedEvent event now)
        (batch.map fun b => (b, { b with status := .syncing, lastError := none })) none
        (some (.claimed event.id))
  | failure {event : MasterOutboxEvent} {failure : Failure} {batch : Option Batch} {now : Instant} :
      Commits (.failReady event failure batch) (event, failedEvent event failure now)
        (batch.map fun b => (b, { b with status := .failed, lastError := some failure.message }))
        none none
  | acknowledgement {event : MasterOutboxEvent} {status : Int} {body : List UInt8}
      {batch : Option Batch} {receipt : Option Receipt} {now : Instant} :
      Commits (.ackReady event status body batch receipt) (event, sentEvent event now)
        (batch.map fun b =>
          (b, { b with status := .synced, syncedAt := some now, lastError := none }))
        (receipt.map fun r => (r, { r with syncedAt := some now })) (some .head)

/-- What a commit records. -/
def Phase.settledEntry (db : Db) : Phase → List Entry
  | .ackReady event status body _ _ => [.settled event status body (db.event event.id)]
  | _ => []

/-- One step of the push machine. -/
inductive PushStep (rt : Runtime) (w : World) (a : Action) : World → Prop
  | configured (st : Settings) : PushStep rt w a { w with settings := st }
  | ended (p : Nat) : PushStep rt w a (w.setPass p none)
  | retryEnded (q : Nat) : PushStep rt w a (w.setRetry q none)
  | started (p : Nat) (apiKey : PyStr) (limit : Nat) : a = .begin p limit → w.passes p = none →
      PushStep rt w a (w.setPass p (some ⟨apiKey, limit, 0, .head⟩))
  | moved (p : Nat) (pass : Pass) (phase : Phase) (entries : List Entry) :
      w.passes p = some pass → pass.phase.Moves rt w.db phase entries →
      PushStep rt w a
        { w.setPass p (some { pass with phase := phase }) with log := w.log ++ entries }
  | committed (p : Nat) (pass : Pass) (event : MasterOutboxEvent × MasterOutboxEvent)
      (batch : Option (Batch × Batch)) (receipt : Option (Receipt × Receipt)) (next : Option Phase)
      (sentCount : Nat) (db : Db) :
      (∃ now reply, a = .pass p now reply) → w.passes p = some pass →
      pass.phase.Commits event batch receipt next →
      flushAll event batch receipt w.db = (.ok ⟨⟩, db) →
      PushStep rt w a { w.setPass p (next.map fun phase =>
        { pass with phase := phase, sentCount := sentCount }) with
        db := db, log := w.log ++ pass.phase.settledEntry db }
  | retryLoaded (q : Nat) (id : Nat) (event : MasterOutboxEvent) :
      a = .askRetry q id → w.retries q = none → w.db.event id = some event →
      event.status = .failed →
      PushStep rt w a (w.setRetry q (some (.loaded event)))
  | retryRead (q : Nat) (event : MasterOutboxEvent) : w.retries q = some (.loaded event) →
      PushStep rt w a (w.setRetry q (some (.ready event (event.batchId.bind w.db.batch))))
  | retried (q : Nat) (event : MasterOutboxEvent) (batch : Option Batch) (db : Db) :
      w.retries q = some (.ready event batch) →
      flushAll (event, retriedEvent event)
        (batch.map fun b => (b, { b with status := .pendingSync, lastError := none })) none w.db
        = (.ok ⟨⟩, db) →
      PushStep rt w a { w.setRetry q none with db := db }
  | enqueued (uuid : PyStr) (now : Instant) (request : EnqueueRequest) (row : MasterOutboxEvent)
      (db : Db) : a = .enqueue uuid now request → Enqueued w.settings uuid now request w.db row db →
      PushStep rt w a { w with db := db }

/-- A move that logs nothing leaves the log. -/
private theorem setPass_log (w : World) (p : Nat) (pass : Option Pass) :
    { w.setPass p pass with log := w.log ++ [] } = w.setPass p pass := by
  rw [List.append_nil]
  rfl

/-- A move that records nothing. -/
private theorem PushStep.move {rt : Runtime} {w : World} {a : Action} {p : Nat} {pass : Pass}
    {phase : Phase} (hp : w.passes p = some pass) (hm : pass.phase.Moves rt w.db phase []) :
    PushStep rt w a (w.setPass p (some { pass with phase := phase })) := by
  have h := PushStep.moved (a := a) p pass phase [] hp hm
  rwa [setPass_log] at h

/-- A commit succeeds or rolls back. -/
private theorem PushStep.commit {rt : Runtime} {w : World} {p : Nat} {pass : Pass} {now : Instant}
    {reply : Option Reply}
    {event : MasterOutboxEvent × MasterOutboxEvent} {batch : Option (Batch × Batch)}
    {receipt : Option (Receipt × Receipt)} {next : Option Phase} {n : Nat}
    (hp : w.passes p = some pass) (hc : pass.phase.Commits event batch receipt next) :
    PushStep rt w (.pass p now reply) (w.commit p (flushAll event batch receipt)
      (next.map fun phase => { pass with phase := phase, sentCount := n })
      pass.phase.settledEntry) := by
  unfold World.commit
  rcases Tx.atomically_cases (flushAll event batch receipt) w.db with
    ⟨u, db, hx, ha⟩ | ⟨e, db, hx, ha⟩
  · rw [ha]
    exact PushStep.committed p pass event batch receipt next n db ⟨now, reply, rfl⟩ hp hc hx
  · rw [ha]
    exact PushStep.ended p

private theorem selectEvent_some {rt : Runtime} {w : World} {apiKey : PyStr} {now : Instant}
    {phase : Phase} (h : selectEvent w apiKey now = some phase) :
    Phase.Moves rt w.db .head phase [] := by
  unfold selectEvent at h
  split at h
  next => exact absurd h (by simp)
  next event hsel =>
    split at h
    next hsending =>
      split at h
      next => exact absurd h (by simp)
      next =>
        obtain rfl := Option.some.inj h
        exact .foundStale hsel hsending
    next hsending => exact .found hsel hsending h

private theorem judge_acknowledged {rt : Runtime} {apiKey : PyStr} {event : MasterOutboxEvent}
    {reply : Reply} {status : Int} {body : List UInt8}
    (h : judge rt apiKey event reply = .ok (.acknowledged status body)) :
    200 ≤ status ∧ status < 300 ∧ validateEventAcknowledgement rt body event = .ok () := by
  have hrejected : ∀ s b, rejected rt apiKey s b ≠ .ok (.acknowledged status body) := by
    intro s b he
    unfold rejected at he
    cases hc : masterHttpErrorCode rt b with
    | error e => rw [hc] at he; cases he
    | ok code =>
      cases hm : masterHttpErrorSummary rt s b apiKey with
      | error e => rw [hc, hm] at he; cases he
      | ok message => rw [hc, hm] at he; cases he
  cases reply with
  | httpError s b => exact absurd h (hrejected _ _)
  | networkError text => cases h
  | otherError text => cases h
  | response s b =>
    simp only [judge] at h
    split at h
    · cases h
    · split at h
      · exact absurd h (hrejected _ _)
      next hstatus =>
        split at h
        next hvalid =>
          cases h
          exact ⟨by omega, by omega, hvalid⟩
        next => cases h

private theorem passStep_cases {rt : Runtime} {w w' : World} {p : Nat} {pass : Pass} {now : Instant}
    {reply : Option Reply} (hp : w.passes p = some pass)
    (h : passStep rt w p pass now reply = some w') : PushStep rt w (.pass p now reply) w' := by
  obtain ⟨apiKey, limit, sentCount, phase⟩ := pass
  -- By the phase, in the order of a pass.
  cases phase with
  | head =>
    simp only [passStep] at h
    split at h
    next =>
      obtain rfl := Option.some.inj h
      exact .ended p
    next =>
      obtain rfl := Option.some.inj h
      cases hsel : selectEvent w apiKey now with
      | none => exact .ended p
      | some phase => exact .move hp (selectEvent_some hsel)
  | recovering event readAt =>
    obtain rfl := Option.some.inj h
    exact .commit hp .recovery
  | reloading id readAt =>
    obtain rfl := Option.some.inj h
    cases hev : w.db.event id with
    | none => exact .ended p
    | some event =>
      cases hadm : admission apiKey event readAt with
      | none =>
        simp only [Option.bind_some, hadm, Option.bind_none]
        exact .ended p
      | some phase =>
        simp only [Option.bind_some, hadm]
        exact .move hp (.reloaded hev hadm)
  | claiming event readAt =>
    obtain rfl := Option.some.inj h
    exact .move hp .readForClaim
  | claimReady event readAt batch =>
    obtain rfl := Option.some.inj h
    exact .commit hp .claim
  -- The row is read again; it may be gone.
  | claimed id =>
    simp only [passStep] at h
    split at h
    next =>
      obtain rfl := Option.some.inj h
      exact .ended p
    next event hev =>
      obtain rfl := Option.some.inj h
      exact .moved p _ _ _ hp (.sent hev)
  -- With a reply the event is judged; without one the step waits.
  | posted event =>
    simp only [passStep] at h
    split at h
    next => exact absurd h (by simp)
    next reply =>
      split at h
      next =>
        obtain rfl := Option.some.inj h
        exact .ended p
      next failure _ =>
        obtain rfl := Option.some.inj h
        exact .move hp .refused
      next status body hj =>
        obtain rfl := Option.some.inj h
        obtain ⟨hlo, hhi, hvalid⟩ := judge_acknowledged hj
        exact .move hp (.accepted hlo hhi hvalid)
  | failing event failure =>
    obtain rfl := Option.some.inj h
    exact .move hp .readForFailure
  | failReady event failure batch =>
    obtain rfl := Option.some.inj h
    exact .commit (n := 0) hp .failure
  | acked event status body =>
    obtain rfl := Option.some.inj h
    exact .move hp .readForAck
  | ackReady event status body batch receipt =>
    obtain rfl := Option.some.inj h
    exact .commit hp .acknowledgement

/-- Every step of the machine is one of the listed ones. -/
theorem pushMachine_cases {rt : Runtime} {w w' : World} {a : Action}
    (h : pushMachine rt w a = some w') : PushStep rt w a w' := by
  -- By the action; passes and retries start only where the gate is free.
  cases a with
  | begin p limit =>
    simp only [pushMachine] at h
    split at h
    next hfree =>
      obtain rfl := Option.some.inj h
      unfold beginPass
      split
      · exact .ended p
      · split
        · exact .started p _ limit rfl hfree
        · exact .ended p
    next => exact absurd h (by simp)
  | pass p now reply =>
    simp only [pushMachine, Option.bind_eq_some_iff] at h
    obtain ⟨pass, hp, hstep⟩ := h
    exact passStep_cases hp hstep
  | kill p =>
    obtain rfl := Option.some.inj h
    exact .ended p
  | askRetry q id =>
    simp only [pushMachine] at h
    split at h
    next hfree =>
      split at h
      next =>
        obtain rfl := Option.some.inj h
        exact .configured w.settings
      next event hev =>
        split at h
        next hok =>
          obtain rfl := Option.some.inj h
          exact .retryLoaded q id event rfl hfree hev hok.1
        next =>
          obtain rfl := Option.some.inj h
          exact .configured w.settings
    next => exact absurd h (by simp)
  -- A retry reads the batch, then writes both.
  | retry q =>
    simp only [pushMachine, Option.map_eq_some_iff] at h
    obtain ⟨retry, hq, rfl⟩ := h
    cases retry with
    | loaded event => exact .retryRead q event hq
    | ready event batch =>
      unfold retryStep
      rcases Tx.atomically_cases (flushAll (event, retriedEvent event)
        (batch.map fun b => (b, { b with status := .pendingSync, lastError := none }))
          none) w.db with
        ⟨u, db, hx, ha⟩ | ⟨e, db, hx, ha⟩
      · simp only [ha]
        exact .retried q event batch db hq hx
      · simp only [ha]
        exact .retryEnded q
  | dropRetry q =>
    obtain rfl := Option.some.inj h
    exact .retryEnded q
  | enqueue uuid now request =>
    obtain rfl := Option.some.inj h
    rcases Tx.atomically_cases (enqueueOutboxEvent w.settings uuid now request) w.db with
      ⟨row, db, hx, ha⟩ | ⟨e, db, hx, ha⟩
    · rw [ha]
      exact .enqueued uuid now request row db rfl (enqueueOutboxEvent_ok hx)
    · rw [ha]
      exact .configured w.settings
  | configure st =>
    obtain rfl := Option.some.inj h
    exact .configured st

/-- A pass after a change of one pass is the new one or an old one. -/
theorem setPass_cases {w : World} {p p' : Nat} {new : Option Pass} {pass : Pass}
    (h : (w.setPass p new).passes p' = some pass) :
    (p' = p ∧ new = some pass) ∨ (p' ≠ p ∧ w.passes p' = some pass) := by
  replace h : Function.update w.passes p new p' = some pass := h
  by_cases he : p' = p
  · subst he
    rw [Function.update_self] at h
    exact Or.inl ⟨rfl, h⟩
  · rw [Function.update_of_ne he] at h
    exact Or.inr ⟨he, h⟩

/-- The only entry that a move records is a POST. -/
theorem Phase.Moves.entries {rt : Runtime} {db : Db} {phase phase' : Phase} {entries : List Entry}
    (h : phase.Moves rt db phase' entries) :
    entries = [] ∨ ∃ e, phase' = .posted e ∧ entries = [.posted e] := by
  cases h with
  | sent hev => exact Or.inr ⟨_, rfl, rfl⟩
  | _ => exact Or.inl rfl

/-- What a phase settles is no post. -/
theorem posted_not_settled (phase : Phase) (db : Db) (e : MasterOutboxEvent) :
    Entry.posted e ∉ phase.settledEntry db := by
  cases phase <;> simp [Phase.settledEntry]

/-! ## The database after a commit -/

private theorem flushSome_ok {α : Type} {flush : α → α → Tx PUnit} {write : α → α → Db → Db}
    (hok : ∀ {a b : α} {s s' : Db} {u : PUnit}, flush a b s = (.ok u, s') → s' = write a b s)
    {x : Option (α × α)} {db db' : Db} {u : PUnit} (h : flushSome flush x db = (.ok u, db')) :
    db' = x.elim db fun p => write p.1 p.2 db := by
  cases x with
  | none => exact (Tx.pure_ok.mp h).2.symm
  | some p => exact hok h

/-- The rows that a commit leaves. -/
def mergedDb (event : MasterOutboxEvent × MasterOutboxEvent) (batch : Option (Batch × Batch))
    (receipt : Option (Receipt × Receipt)) (db : Db) : Db :=
  { db with
    batches := batch.elim db.batches fun b =>
      modifyRow (·.id) b.1.id (mergedBatch b.1 b.2) db.batches
    receipts := receipt.elim db.receipts fun r =>
      modifyRow (·.id) r.1.id (mergedReceipt r.1 r.2) db.receipts
    outbox := modifyRow (·.id) event.1.id (mergedEvent event.1 event.2) db.outbox }

/-- A commit writes event, batch and receipt. -/
theorem flushAll_ok {event : MasterOutboxEvent × MasterOutboxEvent} {batch : Option (Batch × Batch)}
    {receipt : Option (Receipt × Receipt)} {db db' : Db} {u : PUnit}
    (h : flushAll event batch receipt db = (.ok u, db')) :
    db' = mergedDb event batch receipt db := by
  unfold flushAll at h
  rw [Tx.bind_ok] at h
  obtain ⟨_, t₁, h₁, h⟩ := h
  rw [Tx.bind_ok] at h
  obtain ⟨_, t₂, h₂, h⟩ := h
  have hb := flushSome_ok flushBatch_ok h₁
  have hr := flushSome_ok flushReceipt_ok h₂
  have he := flushEvent_ok h
  subst hb
  rw [he, hr]
  cases batch <;> cases receipt <;> rfl

/-- A commit never writes the envelope of an event. -/
theorem Phase.Commits.envelope {phase : Phase} {event : MasterOutboxEvent × MasterOutboxEvent}
    {batch : Option (Batch × Batch)} {receipt : Option (Receipt × Receipt)} {next : Option Phase}
    (h : phase.Commits event batch receipt next) :
    event.2.payloadJson = event.1.payloadJson ∧ event.2.payloadSha256 = event.1.payloadSha256 := by
  cases h <;> exact ⟨rfl, rfl⟩

end SetuoraLite
