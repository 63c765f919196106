import SetuoraLite.Sync.Setup

/-!
# The baseline comes first, under sequence 1

Two properties of the outbox over whole runs of a node.

* The outbox begins with one baseline and holds no other (`BaselineFirst`). The
  check for an empty outbox and the transaction that relies on it are separate, and
  `initialize` takes no lock, so two requests that both found the outbox empty queue
  two baselines: `second_baseline`. The property holds wherever a baseline is only
  written into an outbox that is still empty (`Undisturbed`).
* The sequences are consecutive (`Consecutive`). They go on where the counter of the
  outbox stands, and a reset empties the outbox without resetting the counter: after
  it a fresh enrolment starts above 1 (`enrolment_after_reset`). A baseline starts
  at 1 exactly when it is the first one ever committed in the database file.

`NodeStep` says once what a step does to the database.
-/

namespace SetuoraLite

open Lib

/-! ## What a step does to the database -/

/-- The outbox and its counter are the same. -/
structure SameOutbox (db db' : Db) : Prop where
  outbox : db'.envelopes = db.envelopes
  counter : db'.outboxSequence = db.outboxSequence

/-- A step of the push machine queues an event, or leaves the outbox its events. -/
theorem PushStep.outbox {rt : Runtime} {w w' : World} {a : Action} (h : PushStep rt w a w') :
    SameOutbox w.db w'.db ∨ ∃ uuid now request row, a = .enqueue uuid now request ∧
      Enqueued w.settings uuid now request w.db row w'.db := by
  cases h with
  | committed p pass event batch receipt next n db hact hp hc hflush =>
    obtain rfl := flushAll_ok hflush
    exact Or.inl ⟨mergedDb_envelopes hc.envelope.1 hc.envelope.2, rfl⟩
  | retried q event batch db hq hflush =>
    obtain rfl := flushAll_ok hflush
    exact Or.inl ⟨mergedDb_envelopes rfl rfl, rfl⟩
  | enqueued uuid now request row db hact henq => exact Or.inr ⟨uuid, now, request, row, hact, henq⟩
  | _ => exact Or.inl ⟨rfl, rfl⟩

/-- The next step is the transaction that queues a baseline. -/
def Setup.writes : Setup → Bool
  | .collected .. => true
  | _ => false

/-- The request is about to write a baseline. -/
def Node.writing (n : Node) (r : Nat) : Prop := (n.requests r).any Setup.writes = true

instance (n : Node) (r : Nat) : Decidable (n.writing r) := inferInstanceAs (Decidable (_ = true))

/-- What one step does to the outbox. -/
inductive NodeStep (n : Node) (a : NodeAction) (db' : Db) : Prop
  | same : SameOutbox n.push.db db' → NodeStep n a db'
  | queued (uuid : PyStr) (now : Instant) (request : EnqueueRequest) (row : MasterOutboxEvent) :
      request.ordinary = true → Enqueued n.push.settings uuid now request n.push.db row db' →
      NodeStep n a db'
  | baseline (r : Nat) (reply : Option Reply) (now : Instant) (uuids : Nat → PyStr)
      (rows : List MasterOutboxEvent) (db₁ : Db) : a = .setup r reply now uuids → n.writing r →
      Extends n.push.db rows db₁ → IsBaseline rows → SameOutbox db₁ db' → db'.outbox = db₁.outbox →
      NodeStep n a db'
  | reset : db' = resetDatabase n.push.db → NodeStep n a db'

/-- A step may leave the rows alone. -/
private theorem NodeStep.unchanged {n : Node} {a : NodeAction} : NodeStep n a n.push.db :=
  .same ⟨rfl, rfl⟩

private theorem proceed_db (n : Node) (r : Nat) (x : Except PyError Setup) :
    (n.proceed r x).push.db = n.push.db := by
  cases x <;> rfl

/-- A commit leaves the database of its transaction, or the old one. -/
private theorem commit_db (n : Node) (r : Nat) (x : Tx PUnit) (next : Option Setup) :
    (∃ u db, x n.push.db = (.ok u, db) ∧ (n.commit r x next).push.db = db) ∨
      (n.commit r x next).push.db = n.push.db := by
  unfold Node.commit
  rcases Tx.atomically_cases x n.push.db with ⟨u, db, hx, ha⟩ | ⟨e, db, hx, ha⟩
  · rw [ha]
    refine Or.inl ⟨u, db, hx, ?_⟩
    cases next <;> rfl
  · rw [ha]
    exact Or.inr rfl

private theorem storeConnection_ok {p : Proposal} {nodeId : PyStr} {now : Instant} {db db' : Db}
    {u : PUnit} (h : storeConnection p nodeId now db = (.ok u, db')) :
    SameOutbox db db' ∧ db'.outbox = db.outbox := by
  obtain rfl := Tx.modify_ok.mp h
  exact ⟨⟨rfl, rfl⟩, rfl⟩

private theorem baselineTransaction_ok {st : Settings} {uuids : Nat → PyStr}
    {p : Option (Proposal × PyStr)} {code actor : PyStr} {occurredAt now : Instant}
    {items : List JsonDict} {db db' : Db} {u : PUnit}
    (h : baselineTransaction st uuids p code actor occurredAt items now db = (.ok u, db')) :
    ∃ rows db₁, Extends db rows db₁ ∧ IsBaseline rows ∧ SameOutbox db₁ db' ∧
      db'.outbox = db₁.outbox := by
  unfold baselineTransaction at h
  rw [Tx.bind_ok] at h
  obtain ⟨count, db₁, hbase, h⟩ := h
  obtain ⟨rows, hext, hrows⟩ := enqueueInitialInventory_ok hbase
  refine ⟨rows, db₁, hext, hrows, ?_⟩
  cases p with
  | none =>
    obtain ⟨-, rfl⟩ := Tx.pure_ok.mp h
    exact ⟨⟨rfl, rfl⟩, rfl⟩
  | some p => exact storeConnection_ok h

private theorem setupStep_cases {rt : Runtime} {n n' : Node} {r : Nat} {reply : Option Reply}
    {now : Instant} {uuids : Nat → PyStr} {phase : Setup} (hr : n.requests r = some phase)
    (h : setupStep rt n r reply now uuids phase = some n') :
    NodeStep n (.setup r reply now uuids) n'.push.db := by
  -- The two phases that commit come first; the others ask, read and check.
  cases phase with
  | collected p actor code items occurredAt =>
    obtain rfl := Option.some.inj h
    rcases commit_db n r
      (baselineTransaction n.push.settings uuids p code actor occurredAt items now)
      (p.map fun _ => .syncing) with ⟨u, db, hx, hdb⟩ | hdb
    · rw [hdb]
      obtain ⟨rows, db₁, hext, hrows, hsame, hout⟩ := baselineTransaction_ok hx
      have hwriting : n.writing r := by
        unfold Node.writing
        rw [hr]
        rfl
      exact .baseline r reply now uuids rows db₁ rfl hwriting hext hrows hsame hout
    · rw [hdb]
      exact .unchanged
  | storing p nodeId =>
    obtain rfl := Option.some.inj h
    rcases commit_db n r (storeConnection p nodeId now) (some .syncing) with ⟨u, db, hx, hdb⟩ | hdb
    · rw [hdb]
      exact .same (storeConnection_ok hx).1
    · rw [hdb]
      exact .unchanged
  | asked p actor code apiKey minLast maxLast =>
    obtain ⟨reply, -, rfl⟩ := Option.map_eq_some_iff.mp h
    rw [proceed_db]
    exact .unchanged
  -- The answer may end the request, but it writes nothing.
  | answered p actor latest nodeId =>
    obtain rfl := Option.some.inj h
    have hdb : ∀ saved : PyStr, (if saved ≠ [] ∧ saved ≠ nodeId then n.leave r
        else n.stand r (.nodeRead p actor latest nodeId)).push.db = n.push.db := by
      intro saved
      split <;> rfl
    rw [hdb]
    exact .unchanged
  | originRead p actor current first savedOrigin =>
    obtain rfl := Option.some.inj h
    rw [proceed_db]
    exact .unchanged
  | verified p actor =>
    obtain rfl := Option.some.inj h
    rw [proceed_db]
    exact .unchanged
  | checked p actor =>
    obtain rfl := Option.some.inj h
    rw [proceed_db]
    exact .unchanged
  | syncing => exact absurd h (by simp [setupStep])
  | _ =>
    obtain rfl := Option.some.inj h
    exact .unchanged

/-- Every step is one of the listed ones. -/
theorem nodeMachine_cases {rt : Runtime} {n n' : Node} {a : NodeAction}
    (h : nodeMachine rt n a = some n') : NodeStep n a n'.push.db := by
  -- By the action, most of which leave the rows as they are.
  cases a with
  | push b =>
    simp only [nodeMachine] at h
    split at h
    next hord =>
      obtain ⟨w, hw, rfl⟩ := Option.map_eq_some_iff.mp h
      rcases (pushMachine_cases hw).outbox with hsame | ⟨uuid, now, request, row, rfl, henq⟩
      · exact .same hsame
      · exact .queued uuid now request row hord henq
    next => exact absurd h (by simp)
  | connect r p actor =>
    simp only [nodeMachine] at h
    split at h
    · obtain rfl := Option.some.inj h
      exact .unchanged
    · exact absurd h (by simp)
  | initializeInventory r actor =>
    simp only [nodeMachine] at h
    split at h
    · split at h <;>
      · obtain rfl := Option.some.inj h
        exact .unchanged
    · exact absurd h (by simp)
  | setup r reply now uuids =>
    obtain ⟨phase, hr, hstep⟩ := Option.bind_eq_some_iff.mp h
    exact setupStep_cases hr hstep
  | leave r =>
    obtain rfl := Option.some.inj h
    exact .unchanged
  | reset raises =>
    simp only [nodeMachine] at h
    split at h
    · obtain rfl := Option.some.inj h
      exact .unchanged
    · obtain rfl := Option.some.inj h
      exact .reset rfl

/-! ## One baseline, in front -/

/-- The outbox is empty, or begins with exactly one baseline; every other event is
an ordinary one with a higher sequence than the whole baseline. -/
def BaselineFirst (db : Db) : Prop :=
  db.outbox = [] ∨ ∃ base rest, db.outbox = base ++ rest ∧ IsBaseline base ∧
    (∀ r ∈ rest, r.aggregateType ≠ initialInventoryAggregateType) ∧
    ∀ b ∈ base, ∀ r ∈ rest, b.id < r.id

private theorem aggregates_of_envelopes {rows rows' : List MasterOutboxEvent}
    (h : rows'.map MasterOutboxEvent.envelope = rows.map MasterOutboxEvent.envelope) :
    ∀ r' ∈ rows', ∃ r ∈ rows, r.id = r'.id ∧ r.aggregateType = r'.aggregateType := by
  intro r' hr'
  have hmem : r'.envelope ∈ rows.map MasterOutboxEvent.envelope := h ▸ List.mem_map_of_mem hr'
  obtain ⟨r, hr, he⟩ := List.mem_map.mp hmem
  simp only [MasterOutboxEvent.envelope, Prod.mk.injEq] at he
  exact ⟨r, hr, he.1, he.2.2.2.2.1⟩

private theorem IsBaseline.of_envelopes {rows rows' : List MasterOutboxEvent}
    (h : rows'.map MasterOutboxEvent.envelope = rows.map MasterOutboxEvent.envelope)
    (hb : IsBaseline rows) : IsBaseline rows' := by
  have hlen : rows'.length = rows.length := by
    rw [← List.length_map MasterOutboxEvent.envelope, h, List.length_map]
  have href : rows'.map (·.aggregateId) = rows.map (·.aggregateId) := by
    have hmap : ∀ l : List MasterOutboxEvent, l.map (·.aggregateId)
        = (l.map MasterOutboxEvent.envelope).map fun e => e.2.2.2.2.2.1 := by
      intro l
      rw [List.map_map]
      rfl
    rw [hmap, hmap, h]
  obtain ⟨htype, code, hcode⟩ := hb
  refine ⟨?_, code, ?_⟩
  · intro r' hr'
    obtain ⟨r, hr, -, he⟩ := aggregates_of_envelopes h r' hr'
    exact he.symm.trans (htype r hr)
  · rw [href, hlen]
    refine hcode.imp_right fun hparts => ⟨?_, hparts.2⟩
    intro he
    rw [he] at hlen
    exact hparts.1 (List.length_eq_zero_iff.mp hlen.symm)

/-- That the baseline comes first is read off the outbox. -/
theorem BaselineFirst.of_sameOutbox {db db' : Db} (h : SameOutbox db db') (hb : BaselineFirst db) :
    BaselineFirst db' := by
  have henv : db'.outbox.map MasterOutboxEvent.envelope
      = db.outbox.map MasterOutboxEvent.envelope := h.outbox
  rcases hb with he | ⟨base, rest, hsplit, hbase, hrest, hlt⟩
  · refine Or.inl ?_
    rw [he] at henv
    exact List.map_eq_nil_iff.mp henv
  · rw [hsplit, List.map_append] at henv
    obtain ⟨base', rest', hsplit', hbase', hrest'⟩ := List.map_eq_append_iff.mp henv
    refine Or.inr ⟨base', rest', hsplit', hbase.of_envelopes hbase', ?_, ?_⟩
    · intro r' hr'
      obtain ⟨r, hr, -, he⟩ := aggregates_of_envelopes hrest' r' hr'
      exact he ▸ hrest r hr
    · intro b' hb' r' hr'
      obtain ⟨b, hb, hbid, -⟩ := aggregates_of_envelopes hbase' b' hb'
      obtain ⟨r, hr, hrid, -⟩ := aggregates_of_envelopes hrest' r' hr'
      rw [← hbid, ← hrid]
      exact hlt b hb r hr

/-- The first event of a node cannot be an ordinary one. -/
private theorem Enqueued.outbox_ne_nil {st : Settings} {uuid : PyStr} {now : Instant}
    {r : EnqueueRequest} {db db' : Db} {row : MasterOutboxEvent}
    (h : Enqueued st uuid now r db row db') (hord : r.ordinary = true) : db.outbox ≠ [] := by
  have hinit : r.initialInventory = false := by
    simp only [EnqueueRequest.ordinary, Bool.and_eq_true, Bool.not_eq_true'] at hord
    exact hord.1
  have hbase := h.baseline
  rw [hinit] at hbase
  obtain ⟨code, hcode⟩ := hbase
  intro he
  unfold requireInitialInventoryQueued at hcode
  obtain ⟨c, -, hcode⟩ := except_bind_ok.mp hcode
  simp [initialInventoryIsQueued, he] at hcode

/-- A baseline is written only into an outbox that is still empty. -/
def Undisturbed (n : Node) : NodeAction → Prop
  | .setup r _ _ _ => n.writing r → n.push.db.outbox = []
  | _ => True

instance (n : Node) (a : NodeAction) : Decidable (Undisturbed n a) := by
  cases a <;> unfold Undisturbed <;> infer_instance

/-- An undisturbed step keeps the baseline first. -/
theorem BaselineFirst.step {n : Node} {a : NodeAction} {db' : Db} (hb : BaselineFirst n.push.db)
    (hc : Undisturbed n a) (h : NodeStep n a db') : BaselineFirst db' := by
  cases h with
  | same hsame => exact hb.of_sameOutbox hsame
  | queued uuid now request row hord henq =>
    have hne := henq.outbox_ne_nil hord
    -- The queue is not empty, so the baseline came first; the row goes to its end.
    obtain ⟨base, rest, hsplit, hbase, hrest, hlt⟩ := hb.resolve_left hne
    have hout : db'.outbox = base ++ (rest ++ [row]) := by
      rw [henq.appended, ← List.append_assoc, ← hsplit]
    have hid : row.id = nextOutboxId n.push.db := by rw [henq.columns]; rfl
    refine Or.inr ⟨base, rest ++ [row], hout, hbase, ?_, ?_⟩
    · intro r hr
      rcases List.mem_append.mp hr with hr | hr
      · exact hrest r hr
      · have htype : row.aggregateType = upper (strip request.aggregateType) := by
          rw [henq.columns]
          rfl
        simp only [EnqueueRequest.ordinary, Bool.and_eq_true, bne_iff_ne] at hord
        rw [List.mem_singleton.mp hr, htype]
        exact hord.2
    · intro b hb' r hr
      rcases List.mem_append.mp hr with hr | hr
      · exact hlt b hb' r hr
      · rw [List.mem_singleton.mp hr, hid]
        exact lt_nextOutboxId (hsplit ▸ List.mem_append_left rest hb')
  -- A baseline is written to an empty queue, by the condition.
  | baseline r reply now uuids rows db₁ hact hwriting hext hrows hsame hout =>
    subst hact
    have hempty := hc hwriting
    refine Or.inr ⟨rows, [], ?_, hrows, fun r hr => absurd hr List.not_mem_nil,
      fun _ _ r hr => absurd hr List.not_mem_nil⟩
    rw [hout, hext.outbox, hempty, List.nil_append, List.append_nil]
  | reset hdb => exact Or.inl (by rw [hdb]; rfl)

/-- The baseline is queued at most once and first, in every reachable state of every
run that writes baselines only into an outbox that is still empty. -/
theorem baseline_once_and_first (rt : Runtime) (db : Db) (st : Settings) (hdb : BaselineFirst db)
    (as : List NodeAction) (n : Node) (h : exec (nodeMachine rt) (Node.idle db st) as = some n)
    (hc : Guarded (nodeMachine rt) Undisturbed (Node.idle db st) as) : BaselineFirst n.push.db :=
  guarded_invariant (I := fun n : Node => BaselineFirst n.push.db)
    (fun _ _ _ hI hC hm => hI.step hC (nodeMachine_cases hm)) hdb hc h

/-! ## Consecutive sequences -/

/-- The sequences of the outbox are consecutive and end at its counter. -/
def Consecutive (db : Db) : Prop :=
  db.outbox.length ≤ db.outboxSequence ∧ db.outbox.map (·.id)
    = List.range' (db.outboxSequence + 1 - db.outbox.length) db.outbox.length

private theorem ids_of_envelopes {db db' : Db} (h : db'.envelopes = db.envelopes) :
    db'.outbox.map (·.id) = db.outbox.map (·.id) ∧ db'.outbox.length = db.outbox.length := by
  have hmap : ∀ d : Db, d.outbox.map (·.id) = d.envelopes.map Prod.fst := by
    intro d
    unfold Db.envelopes
    rw [List.map_map]
    rfl
  refine ⟨by rw [hmap, hmap, h], ?_⟩
  have hlen := congrArg List.length h
  simpa [Db.envelopes] using hlen

/-- Sequences stay consecutive while envelopes and counter stay. -/
theorem Consecutive.of_sameOutbox {db db' : Db} (h : SameOutbox db db') (hc : Consecutive db) :
    Consecutive db' := by
  obtain ⟨hids, hlen⟩ := ids_of_envelopes h.outbox
  unfold Consecutive at hc ⊢
  rw [hids, hlen, h.counter]
  exact hc

/-- The next sequence is the one after the counter. -/
theorem Consecutive.next {db : Db} (h : Consecutive db) :
    nextOutboxId db = db.outboxSequence + 1 := by
  have hmax : maxId (·.id) db.outbox ≤ db.outboxSequence := by
    refine maxId_le fun r hr => ?_
    have hmem : r.id ∈ db.outbox.map (·.id) := List.mem_map_of_mem hr
    rw [h.2, List.mem_range'_1] at hmem
    have := h.1
    omega
  unfold nextOutboxId
  omega

/-- Every queued event takes one number of the counter. -/
theorem Extends.counter {db db' : Db} {rows : List MasterOutboxEvent} (hext : Extends db rows db')
    (h : Consecutive db) : db'.outboxSequence = db.outboxSequence + rows.length := by
  by_cases he : rows = []
  · rw [hext.same he, he]
    rfl
  · have h₁ := hext.used he
    have h₂ := hext.next
    rw [h.next] at h₂
    omega

/-- New rows take the next sequences. -/
theorem Consecutive.extends {db db' : Db} {rows : List MasterOutboxEvent} (h : Consecutive db)
    (hext : Extends db rows db') : Consecutive db' := by
  by_cases he : rows = []
  · rw [hext.same he]
    exact h
  · have hcounter := hext.counter h
    have hle := h.1
    have hlen : db'.outbox.length = db.outbox.length + rows.length := by
      rw [hext.outbox, List.length_append]
    refine ⟨by omega, ?_⟩
    have hstart : db.outboxSequence + rows.length + 1 - (db.outbox.length + rows.length)
        = db.outboxSequence + 1 - db.outbox.length := by omega
    have hnext : db.outboxSequence + 1
        = db.outboxSequence + 1 - db.outbox.length + db.outbox.length := by omega
    rw [hlen, hcounter, hext.outbox, List.map_append, h.2, hext.ids, h.next, hstart,
      ← List.range'_append_1, ← hnext]

/-- Every step keeps the sequences consecutive. -/
theorem Consecutive.step {n : Node} {a : NodeAction} {db' : Db} (hc : Consecutive n.push.db)
    (h : NodeStep n a db') : Consecutive db' := by
  cases h with
  | same hsame => exact hc.of_sameOutbox hsame
  | queued uuid now request row hord henq => exact hc.extends henq.extends
  | baseline r reply now uuids rows db₁ hact hwriting hext hrows hsame hout =>
    exact (hc.extends hext).of_sameOutbox hsame
  | reset hdb =>
    rw [hdb]
    exact ⟨Nat.zero_le _, rfl⟩

/-- The first event that a step queues gets the next sequence. -/
private theorem NodeStep.first_id {n : Node} {a : NodeAction} {db' : Db} (h : NodeStep n a db')
    {first : MasterOutboxEvent} {rest : List MasterOutboxEvent}
    (hout : db'.outbox = n.push.db.outbox ++ first :: rest) :
    first.id = nextOutboxId n.push.db := by
  cases h with
  | same hsame =>
    have hlen := (ids_of_envelopes hsame.outbox).2
    rw [hout, List.length_append, List.length_cons] at hlen
    omega
  | queued uuid now request row hord henq =>
    have hrow : [row] = first :: rest := by
      rw [henq.extends.outbox] at hout
      exact List.append_cancel_left hout
    obtain rfl := (List.cons.inj hrow).1
    rw [henq.columns]
    rfl
  | baseline r reply now uuids rows db₁ hact hwriting hext hrows hsame hsameOut =>
    have hrow : rows = first :: rest := by
      rw [hsameOut, hext.outbox] at hout
      exact List.append_cancel_left hout
    have hids := hext.ids
    rw [hrow, List.map_cons, List.length_cons, List.range'_succ] at hids
    exact (List.cons.inj hids).1
  | reset hdb =>
    rw [hdb] at hout
    exact absurd hout (by simp [resetDatabase, Db.empty])

/-! ## The counter and the history of the file -/

/-- The step commits events to the outbox. -/
def commitsEvents (rt : Runtime) (n : Node) (a : NodeAction) : Bool :=
  (nodeMachine rt n a).any fun n' => n.push.db.outbox.length < n'.push.db.outbox.length

/-- The step is the one in which a request of `connect` or `initialize` commits its
baseline. -/
def enrols (rt : Runtime) (n : Node) : NodeAction → Bool
  | .setup r reply now uuids => commitsEvents rt n (.setup r reply now uuids)
  | _ => false

private theorem commitsEvents_iff {rt : Runtime} {n n' : Node} {a : NodeAction}
    (h : nodeMachine rt n a = some n') :
    commitsEvents rt n a = true ↔ n.push.db.outbox.length < n'.push.db.outbox.length := by
  unfold commitsEvents
  rw [h]
  simp

private theorem commitsEvents_of_enrols {rt : Runtime} {n : Node} {a : NodeAction}
    (h : enrols rt n a = true) : commitsEvents rt n a = true := by
  cases a with
  | setup r reply now uuids => exact h
  | _ => exact absurd h (by simp [enrols])

/-- No step lowers the counter; a reset leaves it where it is. -/
theorem NodeStep.counter_le {n : Node} {a : NodeAction} {db' : Db} (hc : Consecutive n.push.db)
    (h : NodeStep n a db') : n.push.db.outboxSequence ≤ db'.outboxSequence := by
  cases h with
  | same hsame => rw [hsame.counter]
  | queued uuid now request row hord henq =>
    rw [henq.extends.counter hc]
    exact Nat.le_add_right _ _
  | baseline r reply now uuids rows db₁ hact hwriting hext hrows hsame hout =>
    rw [hsame.counter, hext.counter hc]
    exact Nat.le_add_right _ _
  | reset hdb =>
    rw [hdb]
    exact Nat.le_refl _

private theorem Consecutive.empty_of_counter {db : Db} (h : Consecutive db)
    (hzero : db.outboxSequence = 0) : db.outbox = [] :=
  List.length_eq_zero_iff.mp (Nat.le_zero.mp (hzero ▸ h.1))

/-- A step that leaves the counter at 0 commits no event. -/
private theorem not_commits_of_counter {rt : Runtime} {n n' : Node} {a : NodeAction}
    (hc : Consecutive n.push.db) (h : nodeMachine rt n a = some n')
    (hzero : n'.push.db.outboxSequence = 0) :
    n.push.db.outboxSequence = 0 ∧ ¬ commitsEvents rt n a = true := by
  have hstep := nodeMachine_cases h
  have hle := hstep.counter_le hc
  refine ⟨by omega, ?_⟩
  rw [commitsEvents_iff h, (hc.step hstep).empty_of_counter hzero]
  exact Nat.not_lt_zero _

/-- Only the commit of a baseline takes the counter away from 0: an ordinary event
needs a baseline in front of it. -/
private theorem counter_of_not_enrols {rt : Runtime} {n n' : Node} {a : NodeAction}
    (hc : Consecutive n.push.db) (hzero : n.push.db.outboxSequence = 0)
    (hnot : ¬ enrols rt n a = true) (h : nodeMachine rt n a = some n') :
    n'.push.db.outboxSequence = 0 := by
  have hempty := hc.empty_of_counter hzero
  cases nodeMachine_cases h with
  | same hsame => rw [hsame.counter, hzero]
  | queued uuid now request row hord henq => exact absurd hempty (henq.outbox_ne_nil hord)
  | baseline r reply now uuids rows db₁ hact hwriting hext hrows hsame hout =>
    subst hact
    have hnone : rows = [] := by
      by_contra hne
      refine hnot ((commitsEvents_iff h).mpr ?_)
      rw [hout, hext.outbox, List.length_append]
      have := List.length_pos_iff.mpr hne
      omega
    rw [hsame.counter, hext.counter hc, hzero, hnone]
    rfl
  | reset hdb =>
    rw [hdb]
    exact hzero

/-- The counter is 0 exactly when no event was committed since the file was new,
deleted ones included, and exactly when no request has committed its baseline. -/
private theorem counter_zero_iff {rt : Runtime} {s n : Node} {as : List NodeAction}
    (hc : Consecutive s.push.db) (hzero : s.push.db.outboxSequence = 0)
    (h : exec (nodeMachine rt) s as = some n) :
    (n.push.db.outboxSequence = 0 ↔
      Guarded (nodeMachine rt) (fun m a => ¬ commitsEvents rt m a = true) s as) ∧
    (n.push.db.outboxSequence = 0 ↔
      Guarded (nodeMachine rt) (fun m a => ¬ enrols rt m a = true) s as) := by
  have hkept : ∀ (m : Node) a m', Consecutive m.push.db → nodeMachine rt m a = some m' →
      Consecutive m'.push.db := fun _ _ _ hI hm => hI.step (nodeMachine_cases hm)
  have hforward (hfree : Guarded (nodeMachine rt) (fun m a => ¬ enrols rt m a = true) s as) :
      n.push.db.outboxSequence = 0 :=
    (guarded_invariant
      (I := fun m : Node => Consecutive m.push.db ∧ m.push.db.outboxSequence = 0)
      (fun m a m' hI hC hm =>
        ⟨hkept m a m' hI.1 hm, counter_of_not_enrols hI.1 hI.2 hC hm⟩) ⟨hc, hzero⟩ hfree h).2
  have hbackward (hlast : n.push.db.outboxSequence = 0) :
      Guarded (nodeMachine rt) (fun m a => ¬ commitsEvents rt m a = true) s as :=
    (guarded_of_last (I := fun m : Node => Consecutive m.push.db)
      (J := fun m : Node => m.push.db.outboxSequence = 0) hkept
      (fun _ _ _ hI hm hJ => not_commits_of_counter hI hm hJ) hc h hlast).2
  have hweaken (hfree : Guarded (nodeMachine rt) (fun m a => ¬ commitsEvents rt m a = true) s as) :
      Guarded (nodeMachine rt) (fun m a => ¬ enrols rt m a = true) s as :=
    guarded_of_guarded (I := fun _ => True) (fun _ _ _ _ _ _ => trivial)
      (fun _ _ _ hC henrols => hC (commitsEvents_of_enrols henrols)) trivial hfree
  exact ⟨⟨hbackward, fun hfree => hforward (hweaken hfree)⟩,
    ⟨fun hlast => hweaken (hbackward hlast), hforward⟩⟩

/-- A database file that has just been created: no event, and a counter that
`sqlite_sequence` does not hold yet. -/
def Db.NewFile (db : Db) : Prop := db.outbox = [] ∧ db.outboxSequence = 0

/-- In every state that a run reaches from a new database file the sequences of the
outbox are consecutive; the counter is 0 exactly when no step of the run, before or
after a reset, committed an event; and a setup request that queues events now gives
the first one sequence 1 exactly when no request of the run has committed a baseline
before, whether or not a reset has deleted it since. -/
theorem enrolment_starts_at_one (rt : Runtime) (db : Db) (st : Settings) (hnew : db.NewFile)
    (as : List NodeAction) (n : Node) (h : exec (nodeMachine rt) (Node.idle db st) as = some n) :
    (∃ start, n.push.db.outbox.map (·.id) = List.range' start n.push.db.outbox.length) ∧
    (n.push.db.outboxSequence = 0 ↔ Guarded (nodeMachine rt)
      (fun m a => ¬ commitsEvents rt m a = true) (Node.idle db st) as) ∧
    ∀ r reply now uuids n' first rest,
      nodeMachine rt n (.setup r reply now uuids) = some n' →
      n'.push.db.outbox = n.push.db.outbox ++ first :: rest →
      (first.id = 1 ↔ Guarded (nodeMachine rt)
        (fun m a => ¬ enrols rt m a = true) (Node.idle db st) as) := by
  have hstart : Consecutive (Node.idle db st).push.db := by
    change Consecutive db
    unfold Consecutive
    rw [hnew.1]
    exact ⟨Nat.zero_le _, rfl⟩
  have hinv : Consecutive n.push.db :=
    exec_invariant (I := fun n : Node => Consecutive n.push.db)
      (fun _ _ _ hI hm => hI.step (nodeMachine_cases hm)) hstart h
  have hcounter := counter_zero_iff hstart hnew.2 h
  refine ⟨⟨_, hinv.2⟩, hcounter.1, ?_⟩
  intro r reply now uuids n' first rest hstep hqueued
  rw [← hcounter.2, (nodeMachine_cases hstep).first_id hqueued, hinv.next]
  omega

/-! ## Runs at a node -/

/-- Master's answer about a node at cursor 0/1. -/
def freshNodeReply : Reply :=
  .response 200
    ((encodeUtf8 (py "\x7b\"data\":\x7b\"code\":\"HOME\",\"last_sequence\":0," ++
      py "\"next_sequence\":1\x7d\x7d")).getD [])

/-- A draw of `uuid4()` for each part. -/
def drawn (digit : PyStr) : Nat → PyStr :=
  fun _ => digit ++ py "1111111-1111-4111-8111-111111111111"

/-- `initialize_inventory` up to the transaction that writes. -/
def initializing (r : Nat) : List NodeAction :=
  [.initializeInventory r (py "admin"), .setup r (some freshNodeReply) 0 (drawn []),
    .setup r none 0 (drawn []),
    .setup r none 63900000000000000 (drawn [])]

/-- The last step of `initialize_inventory`. -/
def writing (r : Nat) (digit : PyStr) : NodeAction := .setup r none 63900000000000000 (drawn digit)

/-- A node without stock, initialized once, whose baseline stands alone. -/
theorem baseline_once_and_first_home :
    ∃ n, exec (nodeMachine .plain) (Node.idle .empty homeSettings)
        (initializing 0 ++ [writing 0 (py "1")]) = some n ∧
      n.push.db.outbox.length = 1 ∧ BaselineFirst n.push.db := by
  have hrun : (exec (nodeMachine .plain) (Node.idle .empty homeSettings)
      (initializing 0 ++ [writing 0 (py "1")])).map (fun n =>
          n.push.db.outbox.length) = some 1 := by
    decide +kernel
  obtain ⟨n, hn, hlen⟩ := Option.map_eq_some_iff.mp hrun
  exact ⟨n, hn, hlen, baseline_once_and_first .plain .empty homeSettings (Or.inl rfl) _ n hn
    (by decide +kernel)⟩

/-- Two requests that both found the outbox empty queue two baselines. -/
theorem second_baseline :
    ∃ n, exec (nodeMachine .plain) (Node.idle .empty homeSettings)
        (initializing 0 ++ initializing 1 ++ [writing 0 (py "1"), writing 1 (py "2")]) = some n ∧
      ¬ BaselineFirst n.push.db := by
  have hrun : (exec (nodeMachine .plain) (Node.idle .empty homeSettings)
      (initializing 0 ++ initializing 1 ++ [writing 0 (py "1"), writing 1 (py "2")])).map
        (fun n => n.push.db.outbox.map fun r => (r.aggregateType, r.aggregateId))
      = some [(initialInventoryAggregateType, emptyInventoryReference (py "HOME")),
        (initialInventoryAggregateType, emptyInventoryReference (py "HOME"))] := by
    decide +kernel
  obtain ⟨n, hn, hrows⟩ := Option.map_eq_some_iff.mp hrun
  refine ⟨n, hn, ?_⟩
  rintro (hempty | ⟨base, rest, hsplit, hbase, hrest, -⟩)
  · rw [hempty] at hrows
    exact absurd hrows (by simp)
  · have htypes : n.push.db.outbox.map (·.aggregateType)
        = [initialInventoryAggregateType, initialInventoryAggregateType] := by
      have := congrArg (List.map Prod.fst) hrows
      rwa [List.map_map] at this
    have hrefs : n.push.db.outbox.map (·.aggregateId)
        = [emptyInventoryReference (py "HOME"), emptyInventoryReference (py "HOME")] := by
      have := congrArg (List.map Prod.snd) hrows
      rwa [List.map_map] at this
    -- Every event is a baseline event, so the baseline in front would be the whole outbox.
    obtain rfl : rest = [] := by
      refine List.eq_nil_iff_forall_not_mem.mpr fun r hr => hrest r hr ?_
      have hmem : r.aggregateType ∈ n.push.db.outbox.map (·.aggregateType) :=
        List.mem_map_of_mem (hsplit ▸ List.mem_append_right base hr)
      rw [htypes] at hmem
      simpa using hmem
    rw [List.append_nil] at hsplit
    rw [hsplit] at hrefs
    obtain ⟨-, code, hone | ⟨-, hparts⟩⟩ := hbase
    · rw [hone] at hrefs
      exact absurd hrefs (by simp)
    · have hlen : base.length = 2 := by
        have := congrArg List.length hrefs
        simpa using this
      rw [hparts, hlen] at hrefs
      obtain ⟨h₁, h₂⟩ := List.cons.inj hrefs
      have heq : initialInventoryReference code 1 = initialInventoryReference code 2 :=
        h₁.trans (List.cons.inj h₂).1.symm
      exact absurd (List.append_cancel_left heq) (by decide)

/-- A node that is initialized for the first time: nothing was committed before, and
its first event gets sequence 1. -/
theorem enrolment_starts_at_one_home :
    ∃ n n' first,
      exec (nodeMachine .plain) (Node.idle .empty homeSettings) (initializing 0) = some n ∧
      nodeMachine .plain n (writing 0 (py "1")) = some n' ∧
      n'.push.db.outbox = n.push.db.outbox ++ [first] ∧
      Guarded (nodeMachine .plain) (fun m a => ¬ commitsEvents .plain m a = true)
        (Node.idle .empty homeSettings) (initializing 0) ∧
      first.id = 1 := by
  have hrun : ((exec (nodeMachine .plain) (Node.idle .empty homeSettings) (initializing 0)).bind
      fun n => (nodeMachine .plain n (writing 0 (py "1"))).map fun n' =>
        (n.push.db.outboxSequence, n.push.db.outbox, n'.push.db.outbox.length))
      = some (0, [], 1) := by
    decide +kernel
  obtain ⟨n, hn, hrest⟩ := Option.bind_eq_some_iff.mp hrun
  obtain ⟨n', hn', hfacts⟩ := Option.map_eq_some_iff.mp hrest
  obtain ⟨hzero, hfacts⟩ := Prod.mk.inj hfacts
  obtain ⟨hempty, hlen⟩ := Prod.mk.inj hfacts
  obtain ⟨first, hfirst⟩ := List.length_eq_one_iff.mp hlen
  have hqueued : n'.push.db.outbox = n.push.db.outbox ++ [first] := by
    rw [hempty, hfirst]
    rfl
  obtain ⟨-, hhistory, hfirstId⟩ :=
    enrolment_starts_at_one .plain .empty homeSettings ⟨rfl, rfl⟩ (initializing 0) n hn
  exact ⟨n, n', first, hn, hn', hqueued, hhistory.mp hzero,
    (hfirstId 0 none _ _ n' first [] hn' hqueued).mpr (by decide +kernel)⟩

/-- The reset of a paused node whose baseline was queued, and its second enrolment. -/
def enrolledAgain : List NodeAction :=
  initializing 0 ++ [writing 0 (py "1"),
    .push (.configure { homeSettings with masterSyncEnabled := false }),
    .reset false, .push (.configure homeSettings)] ++ initializing 1

/-- After a reset the first event of a fresh enrolment does not get sequence 1. -/
theorem enrolment_after_reset :
    ∃ n n', exec (nodeMachine .plain) (Node.idle .empty homeSettings) enrolledAgain = some n ∧
      n.push.db.outbox = [] ∧ nodeMachine .plain n (writing 1 (py "2")) = some n' ∧
      n'.push.db.outbox.map (·.id) = [2] := by
  have hrun : ((exec (nodeMachine .plain) (Node.idle .empty homeSettings) enrolledAgain).bind
      fun n => (nodeMachine .plain n (writing 1 (py "2"))).map fun n' =>
        (n.push.db.outbox, n'.push.db.outbox.map (·.id))) = some ([], [2]) := by
    decide +kernel
  obtain ⟨n, hn, hrest⟩ := Option.bind_eq_some_iff.mp hrun
  obtain ⟨n', hn', hfacts⟩ := Option.map_eq_some_iff.mp hrest
  obtain ⟨hempty, hids⟩ := Prod.mk.inj hfacts
  exact ⟨n, n', hn, hempty, hn', hids⟩

end SetuoraLite
