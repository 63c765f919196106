import SetuoraLite.Sync.PushStep

/-!
# The outbox is frozen

Deliveries, retries and recoveries only write the delivery columns of an event.
The other columns, `MasterOutboxEvent.envelope`, never change, and no row goes
away: along a run the list of envelopes only grows at its end
(`envelopes_grow`). A new row is finished and consistent when its transaction
commits (`FrozenRow`), and stays so because `FrozenRow` only reads the envelope.
-/

namespace SetuoraLite

open Lib

/-- The columns of an event that no delivery writes. -/
def MasterOutboxEvent.envelope (r : MasterOutboxEvent) :
    Nat × PyStr × PyStr × Int × PyStr × PyStr × Option Nat × PyStr × PyStr :=
  (r.id, r.eventId, r.eventType, r.schemaVersion, r.aggregateType, r.aggregateId, r.batchId,
    r.payloadJson, r.payloadSha256)

/-- The envelopes of the outbox, in order. -/
def Db.envelopes (db : Db) :
    List (Nat × PyStr × PyStr × Int × PyStr × PyStr × Option Nat × PyStr × PyStr) :=
  db.outbox.map MasterOutboxEvent.envelope

theorem mergedEvent_envelope {loaded new stored : MasterOutboxEvent}
    (hj : new.payloadJson = loaded.payloadJson) (hs : new.payloadSha256 = loaded.payloadSha256) :
    (mergedEvent loaded new stored).envelope = stored.envelope := by
  simp only [mergedEvent, MasterOutboxEvent.envelope, hj, hs, column_same]

theorem FrozenRow.of_envelope {r r' : MasterOutboxEvent} (h : r.envelope = r'.envelope)
    (hr : FrozenRow r) : FrozenRow r' := by
  simp only [MasterOutboxEvent.envelope, Prod.mk.injEq] at h
  obtain ⟨hid, hev, htype, hschema, -, -, -, hjson, hsha⟩ := h
  obtain ⟨ev, hevent, hrest⟩ := hr.envelope
  refine ⟨⟨ev, ?_, ?_⟩, ?_⟩
  · unfold MasterOutboxEvent.event at hevent ⊢
    rwa [hjson] at hevent
  · rwa [hid, hev, htype, hschema] at hrest
  · have := hr.digest
    rwa [hjson, hsha] at this

/-- A commit changes no envelope. -/
theorem mergedDb_envelopes {event : MasterOutboxEvent × MasterOutboxEvent}
    {batch : Option (Batch × Batch)} {receipt : Option (Receipt × Receipt)} {db : Db}
    (hj : event.2.payloadJson = event.1.payloadJson)
    (hs : event.2.payloadSha256 = event.1.payloadSha256) :
    (mergedDb event batch receipt db).envelopes = db.envelopes :=
  map_modifyRow fun _ _ _ => mergedEvent_envelope hj hs

/-- One step keeps the envelopes, or adds one at the end. -/
theorem PushStep.envelopes {rt : Runtime} {w w' : World} {a : Action} (h : PushStep rt w a w') :
    w'.db.envelopes = w.db.envelopes ∨
      ∃ row, FrozenRow row ∧ w'.db.outbox = w.db.outbox ++ [row] := by
  cases h with
  | configured st => exact Or.inl rfl
  | ended p => exact Or.inl rfl
  | retryEnded q => exact Or.inl rfl
  | started p apiKey limit hact hfree => exact Or.inl rfl
  | moved p pass phase entries hp hm => exact Or.inl rfl
  | committed p pass event batch receipt next n db ha hp hc hflush =>
    obtain rfl := flushAll_ok hflush
    exact Or.inl (mergedDb_envelopes hc.envelope.1 hc.envelope.2)
  | retryLoaded q id event hact hfree hev hfailed => exact Or.inl rfl
  | retryRead q event hq => exact Or.inl rfl
  | retried q event batch db hq hflush =>
    obtain rfl := flushAll_ok hflush
    exact Or.inl (mergedDb_envelopes rfl rfl)
  | enqueued uuid now request row db ha henq =>
    refine Or.inr ⟨row, henq.frozen, ?_⟩
    show db.outbox = _
    rw [henq.appended]

/-- Along a run no envelope changes or goes away. -/
theorem envelopes_grow {rt : Runtime} {w w' : World} {as : List Action}
    (h : exec (pushMachine rt) w as = some w') : w.db.envelopes <+: w'.db.envelopes := by
  refine exec_relation (R := fun w w' : World => w.db.envelopes <+: w'.db.envelopes)
    (fun w => List.prefix_refl _) (fun _ _ _ h₁ h₂ => h₁.trans h₂) ?_ h
  intro w a w' hstep
  rcases (pushMachine_cases hstep).envelopes with heq | ⟨row, -, happ⟩
  · exact heq.symm ▸ List.prefix_refl _
  · unfold Db.envelopes
    rw [happ, List.map_append]
    exact List.prefix_append _ _

/-- A row of a state that differs from a frozen state's rows in no envelope is frozen. -/
private theorem frozen_of_envelopes {rows rows' : List MasterOutboxEvent}
    (heq : rows'.map MasterOutboxEvent.envelope = rows.map MasterOutboxEvent.envelope)
    (h : ∀ row ∈ rows, FrozenRow row) : ∀ row ∈ rows', FrozenRow row := by
  intro row hrow
  have hmem : row.envelope ∈ rows.map MasterOutboxEvent.envelope := by
    rw [← heq]
    exact List.mem_map_of_mem hrow
  obtain ⟨old, hold, he⟩ := List.mem_map.mp hmem
  exact (h old hold).of_envelope he

/-- Every reachable row is frozen. -/
theorem rows_frozen {rt : Runtime} {w w' : World} {as : List Action}
    (h : exec (pushMachine rt) w as = some w') (hw : ∀ row ∈ w.db.outbox, FrozenRow row) :
    ∀ row ∈ w'.db.outbox, FrozenRow row := by
  refine exec_invariant (I := fun w : World => ∀ row ∈ w.db.outbox, FrozenRow row) ?_ hw h
  intro w a w' hI hstep
  rcases (pushMachine_cases hstep).envelopes with heq | ⟨new, hnew, happ⟩
  · exact frozen_of_envelopes heq hI
  · intro row hrow
    rw [happ] at hrow
    rcases List.mem_append.mp hrow with hrow | hrow
    · exact hI row hrow
    · obtain rfl := List.mem_singleton.mp hrow
      exact hnew

/-- An enqueue either raises, and then the commit leaves the database as it was, or
it adds exactly one finished row. -/
theorem enqueue_all_or_nothing (st : Settings) (uuid : PyStr) (now : Instant) (r : EnqueueRequest)
    (db : Db) :
    (∃ e, Tx.atomically (enqueueOutboxEvent st uuid now r) db = (.error e, db)) ∨
    (∃ row, Tx.atomically (enqueueOutboxEvent st uuid now r) db
        = (.ok row, { db with outbox := db.outbox ++ [row], outboxSequence := row.id }) ∧
      FrozenRow row) := by
  rcases Tx.atomically_cases (enqueueOutboxEvent st uuid now r) db with
    ⟨row, t, hx, ha⟩ | ⟨e, t, hx, ha⟩
  · have henq := enqueueOutboxEvent_ok hx
    exact Or.inr ⟨row, by rw [ha, henq.appended], henq.frozen⟩
  · exact Or.inl ⟨e, ha⟩

/-- Outbox rows are self-consistent and frozen: in every run from an outbox of
finished rows, every committed row carries exactly one event with the row's own
columns, within Master's limits and under its own digest; no later step changes a
payload or a digest; and an enqueue that cannot meet this raises and commits
nothing. -/
theorem outbox_rows_frozen (rt : Runtime) (w : World) (hw : ∀ row ∈ w.db.outbox, FrozenRow row)
    (as bs : List Action) (u v : World) (hu : exec (pushMachine rt) w as = some u)
    (hv : exec (pushMachine rt) u bs = some v) :
    (∀ row ∈ u.db.outbox, FrozenRow row) ∧
    (∀ row ∈ u.db.outbox, ∃ row' ∈ v.db.outbox, row'.id = row.id ∧
      row'.payloadJson = row.payloadJson ∧ row'.payloadSha256 = row.payloadSha256) ∧
    u.db.envelopes <+: v.db.envelopes ∧
    (∀ uuid now request,
      (∃ e, Tx.atomically (enqueueOutboxEvent u.settings uuid now request) u.db =
          (.error e, u.db)) ∨
      (∃ row, Tx.atomically (enqueueOutboxEvent u.settings uuid now request) u.db
          = (.ok row, { u.db with outbox := u.db.outbox ++ [row], outboxSequence := row.id }) ∧
        FrozenRow row)) := by
  have hgrow := envelopes_grow hv
  refine ⟨rows_frozen hu hw, ?_, hgrow, fun uuid now request =>
    enqueue_all_or_nothing u.settings uuid now request u.db⟩
  intro row hrow
  have hmem : row.envelope ∈ v.db.envelopes := hgrow.subset (List.mem_map_of_mem hrow)
  obtain ⟨row', hrow', he⟩ := List.mem_map.mp hmem
  simp only [MasterOutboxEvent.envelope, Prod.mk.injEq] at he
  exact ⟨row', hrow', he.1, he.2.2.2.2.2.2.2.1, he.2.2.2.2.2.2.2.2⟩

/-- The baseline of a node without stock. -/
def emptyBaseline : EnqueueRequest where
  eventType := py "HEARTBEAT"
  aggregateType := py "INITIAL_INVENTORY"
  aggregateId := py "HOME:INITIAL-INVENTORY:EMPTY"
  payload := ⟨[(py "reference", .str (py "HOME:INITIAL-INVENTORY:EMPTY")), (py "actor", .null),
    (py "reason_code", .str (py "INITIAL_ENROLLMENT")), (py "items", .arr []),
    (py "sequence", .int 77)], by
      refine ⟨by decide, trivial, trivial, trivial, trivial, trivial, trivial⟩⟩
  occurredAt := none
  schemaVersion := 1
  batchId := none
  initialInventory := true

/-- The guarantee at a node that queues its baseline, with a forged sequence in the
payload, and delivers it into a time-out. -/
theorem outbox_rows_frozen_home :
    ∃ u v, exec (pushMachine .plain) (World.idle .empty homeSettings)
        [.enqueue (py "11111111-1111-4111-8111-111111111111") 63900000000000000 emptyBaseline] =
            some u ∧
      exec (pushMachine .plain) u [.begin 0 100, .pass 0 63900000001000000 none,
        .pass 0 0 none, .pass 0 0 none, .pass 0 0 none,
        .pass 0 0 (some (.networkError (py "timed out")))] = some v ∧
      u.db.outbox.length = 1 ∧
      (∀ row ∈ u.db.outbox, FrozenRow row) ∧
      ∀ row ∈ u.db.outbox, ∃ row' ∈ v.db.outbox, row'.id = row.id ∧
        row'.payloadJson = row.payloadJson ∧ row'.payloadSha256 = row.payloadSha256 := by
  have hrun : (exec (pushMachine .plain) (World.idle .empty homeSettings)
      ([.enqueue (py "11111111-1111-4111-8111-111111111111") 63900000000000000 emptyBaseline] ++
        [.begin 0 100, .pass 0 63900000001000000 none,
          .pass 0 0 none, .pass 0 0 none, .pass 0 0 none,
          .pass 0 0 (some (.networkError (py "timed out")))])).isSome = true := by
    decide +kernel
  have hone : (exec (pushMachine .plain) (World.idle .empty homeSettings)
      [.enqueue (py "11111111-1111-4111-8111-111111111111") 63900000000000000 emptyBaseline]).map
        (fun u => u.db.outbox.length) = some 1 := by
    decide +kernel
  obtain ⟨v, hv⟩ := Option.isSome_iff_exists.mp hrun
  obtain ⟨u, hu, huv⟩ := exec_append.mp hv
  have h := outbox_rows_frozen .plain (World.idle .empty homeSettings)
    (by intro row hrow; exact absurd hrow List.not_mem_nil) _ _ u v hu huv
  rw [hu] at hone
  exact ⟨u, v, hu, huv, Option.some.inj hone, h.1, h.2.1⟩

end SetuoraLite
