import SetuoraLite.Sync.Frozen

/-!
# Strict order

An event leaves for Master only after every event with a lower sequence was
acknowledged and committed as sent. The argument has three parts.

* An event is `SENT` only through the commit of an acknowledgement, which the log
  records: `Done` says that an event was sent when the run began or that such an
  entry exists.
* A pass that has an event in hand selected it when every older event was sent,
  so every older event is done; new events are younger (`PhaseOk`).
* Hence at the moment of the POST every older event is done (`InOrder.posted`).

The log only grows, so what is done stays done, even where a later step takes an
event out of `SENT` again.
-/

namespace SetuoraLite

open Lib

/-- The sequence and the event id of every row. -/
def Db.identities (db : Db) : List (Nat × PyStr) := db.outbox.map fun r => (r.id, r.eventId)

/-- A success status with a body that acknowledges the event. -/
def Accepted (rt : Runtime) (event : MasterOutboxEvent) (status : Int) (body : List UInt8) : Prop :=
  200 ≤ status ∧ status < 300 ∧ validateEventAcknowledgement rt body event = .ok ()

/-- The event was sent when the run began, or a valid acknowledgement of it was
committed and left it `SENT`. -/
def Done (rt : Runtime) (start : Db) (log : List Entry) (k : Nat × PyStr) : Prop :=
  (∃ row ∈ start.outbox, row.id = k.1 ∧ row.status = .sent) ∨
  (∃ event status body stored, Entry.settled event status body (some stored) ∈ log ∧
    (event.id, event.eventId) = k ∧ Accepted rt event status body ∧
    (stored.id, stored.eventId) = k ∧ stored.status = .sent)

/-- The sequence of the event that a phase is about. -/
def Phase.holds : Phase → Option Nat
  | .head => none
  | .recovering e _ | .claiming e _ | .claimReady e _ _ | .posted e | .failing e _
  | .failReady e _ _ | .acked e _ _ | .ackReady e _ _ _ _ => some e.id
  | .reloading id _ | .claimed id => some id

/-- The event that a phase has loaded. -/
def Phase.event : Phase → Option MasterOutboxEvent
  | .head | .reloading _ _ | .claimed _ => none
  | .recovering e _ | .claiming e _ | .claimReady e _ _ | .posted e | .failing e _
  | .failReady e _ _ | .acked e _ _ | .ackReady e _ _ _ _ => some e

/-- The acknowledgement that a phase has in hand. -/
def Phase.acknowledgement : Phase → Option (MasterOutboxEvent × Int × List UInt8)
  | .acked e status body | .ackReady e status body _ _ => some (e, status, body)
  | _ => none

/-- What a pass in a phase knows. -/
structure PhaseOk (rt : Runtime) (start db : Db) (log : List Entry) (phase : Phase) : Prop where
  exists_row : ∀ id, phase.holds = some id → ∃ k ∈ db.identities, k.1 = id
  older : ∀ id, phase.holds = some id → ∀ k ∈ db.identities, k.1 < id → Done rt start log k
  loaded : ∀ e, phase.event = some e → (e.id, e.eventId) ∈ db.identities
  accepted : ∀ e status body, phase.acknowledgement = some (e, status, body) →
    Accepted rt e status body

/-- The invariant of a run that began with the database `start`. -/
structure InOrder (rt : Runtime) (start : Db) (w : World) : Prop where
  keys : (w.db.outbox.map (·.id)).Nodup
  sent : ∀ row ∈ w.db.outbox, row.status = .sent → Done rt start w.log (row.id, row.eventId)
  passes : ∀ p pass, w.passes p = some pass → PhaseOk rt start w.db w.log pass.phase
  posted : ∀ pre e post, w.log = pre ++ .posted e :: post →
    (∃ k ∈ w.db.identities, k.1 = e.id) ∧
    ∀ k ∈ w.db.identities, k.1 < e.id → Done rt start pre k

/-! ## Growing -/

theorem Done.mono {rt : Runtime} {start : Db} {log log' : List Entry} {k : Nat × PyStr}
    (hsub : log ⊆ log') (h : Done rt start log k) : Done rt start log' k := by
  rcases h with h | ⟨event, status, body, stored, hmem, hrest⟩
  · exact Or.inl h
  · exact Or.inr ⟨event, status, body, stored, hsub hmem, hrest⟩

/-- New rows are younger than every row. -/
structure Younger (db db' : Db) : Prop where
  kept : ∀ k ∈ db.identities, k ∈ db'.identities
  new : ∀ k ∈ db'.identities, k ∈ db.identities ∨ ∀ j ∈ db.identities, j.1 < k.1

theorem Younger.of_eq {db db' : Db} (h : db'.identities = db.identities) : Younger db db' :=
  ⟨fun _ hk => h ▸ hk, fun _ hk => Or.inl (h ▸ hk)⟩

theorem PhaseOk.mono {rt : Runtime} {start db db' : Db} {log log' : List Entry} {phase : Phase}
    (hy : Younger db db') (hsub : log ⊆ log') (h : PhaseOk rt start db log phase) :
    PhaseOk rt start db' log' phase := by
  refine ⟨?_, ?_, fun e he => hy.kept _ (h.loaded e he), h.accepted⟩
  · intro id hid
    obtain ⟨k, hk, he⟩ := h.exists_row id hid
    exact ⟨k, hy.kept k hk, he⟩
  · intro id hid k hk hlt
    rcases hy.new k hk with hold | hnew
    · exact (h.older id hid k hold hlt).mono hsub
    · obtain ⟨j, hj, he⟩ := h.exists_row id hid
      have := hnew j hj
      omega

/-- The recorded posts stay in order when nothing is posted. -/
private theorem posted_append {rt : Runtime} {start db db' : Db} {log entries : List Entry}
    (hy : Younger db db')
    (h : ∀ pre e post, log = pre ++ .posted e :: post →
      (∃ k ∈ db.identities, k.1 = e.id) ∧ ∀ k ∈ db.identities, k.1 < e.id → Done rt start pre k)
    (hnone : ∀ e, Entry.posted e ∉ entries) :
    ∀ pre e post, log ++ entries = pre ++ .posted e :: post →
      (∃ k ∈ db'.identities, k.1 = e.id) ∧ ∀ k ∈ db'.identities, k.1 < e.id →
      Done rt start pre k := by
  intro pre e post heq
  have hsplit : ∃ post', log = pre ++ .posted e :: post' := by
    rcases List.append_eq_append_iff.mp heq with ⟨as, hpre, hent⟩ | ⟨bs, hlog, hent⟩
    · exact absurd (hent ▸ List.mem_append_right as List.mem_cons_self) (hnone e)
    · cases bs with
      | nil =>
        rw [List.nil_append] at hent
        exact absurd (hent ▸ List.mem_cons_self) (hnone e)
      | cons b bs =>
        rw [List.cons_append] at hent
        obtain ⟨rfl, -⟩ := List.cons.inj hent
        exact ⟨bs, hlog⟩
  obtain ⟨post', hlog⟩ := hsplit
  obtain ⟨⟨j, hj, he⟩, hdone⟩ := h pre e post' hlog
  refine ⟨⟨j, hy.kept j hj, he⟩, ?_⟩
  intro k hk hlt
  rcases hy.new k hk with hold | hnew
  · exact hdone k hold hlt
  · have := hnew j hj
    omega

/-! ## One step -/

private theorem event_identity {db : Db} {id : Nat} {e : MasterOutboxEvent}
    (h : db.event id = some e) : e.id = id ∧ (e.id, e.eventId) ∈ db.identities := by
  obtain ⟨hmem, hid⟩ := lookup_some h
  exact ⟨hid, List.mem_map.mpr ⟨e, hmem, rfl⟩⟩

private theorem admit_event {apiKey : PyStr} {e : MasterOutboxEvent} {now : Instant} {phase : Phase}
    (h : admission apiKey e now = some phase) :
    phase.holds = some e.id ∧ phase.event = some e ∧ phase.acknowledgement = none := by
  unfold admission at h
  split at h
  · exact absurd h (by simp)
  · split at h <;>
    · obtain rfl := Option.some.inj h
      exact ⟨rfl, rfl, rfl⟩

/-- What the selection of an event tells about the older ones. -/
private theorem selected_ok {rt : Runtime} {start db : Db} {log : List Entry}
    (hsent : ∀ row ∈ db.outbox, row.status = .sent → Done rt start log (row.id, row.eventId))
    {e : MasterOutboxEvent} (hsel : oldestUnsentEvent db.outbox = some e) {phase : Phase}
    (hholds : phase.holds = some e.id) (hevent : phase.event = some e)
    (hack : phase.acknowledgement = none) : PhaseOk rt start db log phase := by
  obtain ⟨hmem, -, hmin⟩ := oldestUnsentEvent_some hsel
  have hid : (e.id, e.eventId) ∈ db.identities := List.mem_map.mpr ⟨e, hmem, rfl⟩
  refine ⟨?_, ?_, ?_, ?_⟩
  · intro id h
    rw [hholds] at h
    exact ⟨_, hid, Option.some.inj h⟩
  · intro id h k hk hlt
    rw [hholds] at h
    obtain rfl := Option.some.inj h
    obtain ⟨row, hrow, rfl⟩ := List.mem_map.mp hk
    apply hsent row hrow
    by_contra hunsent
    have := hmin row hrow hunsent
    simp only at hlt
    omega
  · intro e' h
    rw [hevent] at h
    obtain rfl := Option.some.inj h
    exact hid
  · intro e' status body h
    rw [hack] at h
    exact absurd h (by simp)

/-- A phase about the same event knows as much. -/
private theorem PhaseOk.next {rt : Runtime} {start db : Db} {log : List Entry}
    {phase phase' : Phase} (h : PhaseOk rt start db log phase) (hholds : phase'.holds = phase.holds)
    (hevent : ∀ e, phase'.event = some e → (e.id, e.eventId) ∈ db.identities)
    (hack : ∀ e status body, phase'.acknowledgement = some (e, status, body) →
      Accepted rt e status body) : PhaseOk rt start db log phase' :=
  ⟨hholds ▸ h.exists_row, hholds ▸ h.older, hevent, hack⟩

/-- A move keeps what a pass knows. -/
private theorem PhaseOk.move {rt : Runtime} {start db : Db} {log entries : List Entry}
    {phase phase' : Phase}
    (hsent : ∀ row ∈ db.outbox, row.status = .sent → Done rt start log (row.id, row.eventId))
    (h : PhaseOk rt start db log phase) (hm : phase.Moves rt db phase' entries) :
    PhaseOk rt start db log phase' := by
  -- A move that reads an event gets the row; one that reads a batch keeps what it had.
  cases hm with
  | foundStale hsel _ => exact selected_ok hsent hsel rfl rfl rfl
  | found hsel _ hadm =>
    obtain ⟨hh, he, ha⟩ := admit_event hadm
    exact selected_ok hsent hsel hh he ha
  | reloaded hev hadm =>
    obtain ⟨hh, he, ha⟩ := admit_event hadm
    obtain ⟨hid, hmem⟩ := event_identity hev
    refine h.next (by rw [hh, hid]; rfl) ?_ ?_
    · intro e' h'
      rw [he] at h'
      obtain rfl := Option.some.inj h'
      exact hmem
    · intro e' status body h'
      rw [ha] at h'
      exact absurd h' (by simp)
  | readForClaim => exact h.next rfl h.loaded h.accepted
  | sent hev =>
    obtain ⟨hid, hmem⟩ := event_identity hev
    refine h.next (congrArg some hid) ?_ ?_
    · intro e' h'
      obtain rfl := Option.some.inj h'
      exact hmem
    · intro e' status body h'
      exact absurd h' (by simp [Phase.acknowledgement])
  | refused =>
    refine h.next rfl h.loaded ?_
    intro e' status body h'
    exact absurd h' (by simp [Phase.acknowledgement])
  -- The answer was accepted: the status is in range and the body valid.
  | accepted hlo hhi hvalid =>
    refine h.next rfl h.loaded ?_
    intro e' status' body' h'
    simp only [Phase.acknowledgement, Option.some.injEq, Prod.mk.injEq] at h'
    obtain ⟨rfl, rfl, rfl⟩ := h'
    exact ⟨hlo, hhi, hvalid⟩
  | readForFailure => exact h.next rfl h.loaded h.accepted
  | readForAck => exact h.next rfl h.loaded h.accepted

/-- Only an acknowledgement writes `SENT`. -/
theorem Phase.Commits.sent {phase : Phase} {event : MasterOutboxEvent × MasterOutboxEvent}
    {batch : Option (Batch × Batch)} {receipt : Option (Receipt × Receipt)} {next : Option Phase}
    (h : phase.Commits event batch receipt next) (hsent : event.2.status = .sent) :
    ∃ status body b r, phase = .ackReady event.1 status body b r := by
  cases h with
  | recovery => exact absurd hsent (by simp [recoveredEvent])
  | claim => exact absurd hsent (by simp [claimedEvent])
  | failure => exact absurd hsent (by simp [failedEvent])
  | acknowledgement => exact ⟨_, _, _, _, rfl⟩

/-- The event of a commit is the event of its phase, and the next phase is about it. -/
theorem Phase.Commits.phases {phase : Phase} {event : MasterOutboxEvent × MasterOutboxEvent}
    {batch : Option (Batch × Batch)} {receipt : Option (Receipt × Receipt)} {next : Option Phase}
    (h : phase.Commits event batch receipt next) :
    phase.event = some event.1 ∧ phase.holds = some event.1.id ∧
    ∀ phase', next = some phase' → phase' = .head ∨
      (phase'.holds = phase.holds ∧ phase'.event = none ∧ phase'.acknowledgement = none) := by
  cases h with
  | recovery =>
    refine ⟨rfl, rfl, fun phase' hn => Or.inr ?_⟩
    obtain rfl := Option.some.inj hn
    exact ⟨rfl, rfl, rfl⟩
  | claim =>
    refine ⟨rfl, rfl, fun phase' hn => Or.inr ?_⟩
    obtain rfl := Option.some.inj hn
    exact ⟨rfl, rfl, rfl⟩
  | failure => exact ⟨rfl, rfl, fun phase' hn => absurd hn (by simp)⟩
  | acknowledgement => exact ⟨rfl, rfl, fun phase' hn => Or.inl (Option.some.inj hn).symm⟩

private theorem identities_of_envelopes {db db' : Db} (h : db'.envelopes = db.envelopes) :
    db'.identities = db.identities := by
  have hmap : ∀ d : Db, d.identities = d.envelopes.map fun e => (e.1, e.2.1) := by
    intro d
    unfold Db.identities Db.envelopes
    rw [List.map_map]
    rfl
  rw [hmap, hmap, h]

private theorem ids_of_identities {db db' : Db} (h : db'.identities = db.identities) :
    db'.outbox.map (·.id) = db.outbox.map (·.id) := by
  have hmap : ∀ d : Db, d.outbox.map (·.id) = d.identities.map Prod.fst := by
    intro d
    unfold Db.identities
    rw [List.map_map]
    rfl
  rw [hmap, hmap, h]

/-- A commit of a phase keeps every sent event done. -/
private theorem sent_after_commit {rt : Runtime} {start db : Db} {log entries : List Entry}
    {event : MasterOutboxEvent × MasterOutboxEvent} {batch : Option (Batch × Batch)}
    {receipt : Option (Receipt × Receipt)} (hkeys : (db.outbox.map (·.id)).Nodup)
    (hsent : ∀ row ∈ db.outbox, row.status = .sent → Done rt start log (row.id, row.eventId))
    (henv : (mergedDb event batch receipt db).envelopes = db.envelopes)
    (hnew : event.2.status = .sent → (event.1.id, event.1.eventId) ∈ db.identities ∧
      ∃ status body, Accepted rt event.1 status body ∧ entries =
          [.settled event.1 status body ((mergedDb event batch receipt db).event event.1.id)]) :
    ∀ row ∈ (mergedDb event batch receipt db).outbox, row.status = .sent →
      Done rt start (log ++ entries) (row.id, row.eventId) := by
  intro row hrow hstatus
  obtain ⟨old, hold, heq⟩ := mem_modifyRow.mp hrow
  split at heq
  next hid =>
    rcases column_cases event.1.status event.2.status old.status with ⟨-, hc⟩ | ⟨-, hc⟩
    · have holdsent : old.status = .sent := by
        rw [heq] at hstatus
        exact hc.symm.trans hstatus
      have hdone := hsent old hold holdsent
      rw [heq]
      exact hdone.mono (List.subset_append_left _ _)
    · have hnewsent : event.2.status = .sent := by
        rw [heq] at hstatus
        exact hc.symm.trans hstatus
      obtain ⟨hloaded, status, body, hacc, rfl⟩ := hnew hnewsent
      have hnodup : ((mergedDb event batch receipt db).outbox.map (·.id)).Nodup := by
        rw [ids_of_identities (identities_of_envelopes henv)]
        exact hkeys
      have hrowid : row.id = event.1.id := by rw [heq]; exact hid
      have hfound : (mergedDb event batch receipt db).event event.1.id = some row := by
        rw [← hrowid]
        exact lookup_of_mem hnodup hrow
      -- The row that was loaded has the event id of the row that is stored.
      have hident : (event.1.id, event.1.eventId) = (row.id, row.eventId) := by
        obtain ⟨orig, horig, ho⟩ := List.mem_map.mp hloaded
        simp only [Prod.mk.injEq] at ho
        have hsame : orig = old := eq_of_key_eq hkeys horig hold (by rw [ho.1, hid])
        rw [hsame] at ho
        rw [heq]
        simp only [Prod.mk.injEq]
        exact ⟨ho.1.symm, ho.2.symm⟩
      refine Or.inr ⟨event.1, status, body, row, ?_, hident, hacc, rfl, hstatus⟩
      rw [hfound]
      exact List.mem_append_right _ List.mem_cons_self
  next => exact heq ▸ (hsent old hold (heq ▸ hstatus)).mono (List.subset_append_left _ _)

/-- A step that leaves the database and the log alone. -/
private theorem InOrder.quiet {rt : Runtime} {start : Db} {w w' : World} (h : InOrder rt start w)
    (hdb : w'.db = w.db) (hlog : w'.log = w.log)
    (hp : ∀ p pass, w'.passes p = some pass → PhaseOk rt start w.db w.log pass.phase) :
    InOrder rt start w' :=
  ⟨hdb ▸ h.keys, by rw [hdb, hlog]; exact h.sent, by rw [hdb, hlog]; exact hp,
    by rw [hdb, hlog]; exact h.posted⟩

private theorem phaseOk_head (rt : Runtime) (start db : Db) (log : List Entry) :
    PhaseOk rt start db log .head :=
  ⟨fun _ h => absurd h (by simp [Phase.holds]), fun _ h => absurd h (by simp [Phase.holds]),
    fun _ h => absurd h (by simp [Phase.event]),
    fun _ _ _ h => absurd h (by simp [Phase.acknowledgement])⟩

/-- Every step keeps the order. -/
theorem InOrder.step {rt : Runtime} {start : Db} {w w' : World} {a : Action}
    (h : InOrder rt start w) (hstep : PushStep rt w a w') : InOrder rt start w' := by
  have hend : ∀ (p : Nat) (p' : Nat) (pass : Pass), (w.setPass p none).passes p' = some pass →
      PhaseOk rt start w.db w.log pass.phase := by
    intro p p' pass hp
    rcases setPass_cases hp with ⟨-, h'⟩ | ⟨-, h'⟩
    · exact absurd h' (by simp)
    · exact h.passes p' pass h'
  cases hstep with
  | configured st => exact h.quiet rfl rfl h.passes
  | ended p => exact h.quiet rfl rfl (hend p)
  | retryEnded q => exact h.quiet rfl rfl h.passes
  | started p apiKey limit hact hfree =>
    refine h.quiet rfl rfl ?_
    intro p' pass hp
    rcases setPass_cases hp with ⟨-, h'⟩ | ⟨-, h'⟩
    · obtain rfl := Option.some.inj h'
      exact phaseOk_head rt start w.db w.log
    · exact h.passes p' pass h'
  | moved p pass phase entries hp hm =>
    have hphase := (h.passes p pass hp).move h.sent hm
    refine ⟨h.keys,
      fun row hrow hs => (h.sent row hrow hs).mono (List.subset_append_left _ _), ?_, ?_⟩
    · intro p' pass' hp'
      rcases setPass_cases hp' with ⟨-, h'⟩ | ⟨-, h'⟩
      · obtain rfl := Option.some.inj h'
        exact hphase.mono (Younger.of_eq rfl) (List.subset_append_left _ _)
      · exact (h.passes p' pass' h').mono (Younger.of_eq rfl) (List.subset_append_left _ _)
    · rcases hm.entries with rfl | ⟨e', rfl, rfl⟩
      · exact posted_append (Younger.of_eq rfl) h.posted fun e hmem => absurd hmem List.not_mem_nil
      · -- The new entry is the last one; before it stands the whole log so far.
        intro pre e post heq
        rcases List.eq_nil_or_concat post with rfl | ⟨post', x, rfl⟩
        · obtain ⟨rfl, he⟩ := List.append_inj' heq rfl
          obtain rfl := Entry.posted.inj (List.cons.inj he).1
          exact ⟨hphase.exists_row _ rfl, hphase.older _ rfl⟩
        · rw [List.concat_eq_append, ← List.cons_append, ← List.append_assoc] at heq
          exact h.posted pre e post' (List.append_inj' heq rfl).1
  | committed p pass event batch receipt next n db ha hp hc hflush =>
    obtain rfl := flushAll_ok hflush
    have hok := h.passes p pass hp
    have henv : (mergedDb event batch receipt w.db).envelopes = w.db.envelopes :=
      mergedDb_envelopes hc.envelope.1 hc.envelope.2
    have hy : Younger w.db (mergedDb event batch receipt w.db) :=
      Younger.of_eq (identities_of_envelopes henv)
    obtain ⟨hevent, hholds, hnext⟩ := hc.phases
    refine ⟨?_, ?_, ?_, ?_⟩
    · show ((mergedDb event batch receipt w.db).outbox.map (·.id)).Nodup
      rw [ids_of_identities (identities_of_envelopes henv)]
      exact h.keys
    · refine sent_after_commit h.keys h.sent henv ?_
      intro hs
      obtain ⟨status, body, b, r, hphase⟩ := hc.sent hs
      refine ⟨hok.loaded _ hevent, status, body, hok.accepted _ _ _ (by rw [hphase]; rfl), ?_⟩
      rw [hphase]
      rfl
    · intro p' pass' hp'
      rcases setPass_cases hp' with ⟨-, h'⟩ | ⟨-, h'⟩
      · cases hn : next with
        | none =>
          rw [hn] at h'
          exact absurd h' (by simp)
        | some phase' =>
          rw [hn] at h'
          obtain rfl := Option.some.inj h'
          rcases hnext phase' hn with rfl | ⟨hh, he, ha⟩
          · exact phaseOk_head rt start _ _
          · refine (hok.next hh ?_ ?_).mono hy (List.subset_append_left _ _)
            · intro e' h''
              rw [he] at h''
              exact absurd h'' (by simp)
            · intro e' status body h''
              rw [ha] at h''
              exact absurd h'' (by simp)
      · exact (h.passes p' pass' h').mono hy (List.subset_append_left _ _)
    · exact posted_append hy h.posted (posted_not_settled pass.phase _)
  | retryLoaded q id event hact hfree hev hfailed => exact h.quiet rfl rfl h.passes
  | retryRead q event hq => exact h.quiet rfl rfl h.passes
  | retried q event batch db hq hflush =>
    obtain rfl := flushAll_ok hflush
    have henv : (mergedDb (event, retriedEvent event) (batch.map fun b =>
        (b, { b with status := .pendingSync, lastError := none })) none w.db).envelopes
        = w.db.envelopes := mergedDb_envelopes rfl rfl
    have hy := Younger.of_eq (identities_of_envelopes henv)
    refine ⟨?_, ?_, fun p pass hp => (h.passes p pass hp).mono hy (List.Subset.refl _), ?_⟩
    · rw [ids_of_identities (identities_of_envelopes henv)]
      exact h.keys
    · have hsent : ∀ row ∈ (mergedDb _ _ _ w.db).outbox, row.status = .sent →
          Done rt start (w.log ++ []) (row.id, row.eventId) :=
        sent_after_commit h.keys h.sent henv (fun hs => absurd hs (by simp [retriedEvent]))
      rwa [List.append_nil] at hsent
    · have hposted := posted_append hy h.posted (fun e hmem => absurd hmem (List.not_mem_nil))
      rwa [List.append_nil] at hposted
  | enqueued uuid now request row db ha henq =>
    have hid : row.id = nextOutboxId w.db := by rw [henq.columns]; rfl
    have hy : Younger w.db db := by
      rw [henq.appended]
      refine ⟨?_, ?_⟩
      · intro k hk
        simp only [Db.identities, List.map_append, List.mem_append]
        exact Or.inl hk
      · intro k hk
        simp only [Db.identities, List.map_append, List.mem_append, List.map_singleton,
          List.mem_singleton] at hk
        rcases hk with hk | rfl
        · exact Or.inl hk
        · refine Or.inr fun j hj => ?_
          obtain ⟨old, hold, rfl⟩ := List.mem_map.mp hj
          have := lt_nextOutboxId hold
          simp only
          omega
    refine ⟨?_, ?_, fun p pass hp => (h.passes p pass hp).mono hy (List.Subset.refl _), ?_⟩
    · show (db.outbox.map (·.id)).Nodup
      rw [henq.appended, List.map_append, List.nodup_append]
      refine ⟨h.keys, by simp, ?_⟩
      intro a ha b hb he
      obtain ⟨old, hold, rfl⟩ := List.mem_map.mp ha
      simp only [List.map_singleton, List.mem_singleton] at hb
      have := lt_nextOutboxId hold
      omega
    · intro r hr hs
      replace hr : r ∈ db.outbox := hr
      rw [henq.appended] at hr
      rcases List.mem_append.mp hr with hr | hr
      · exact h.sent r hr hs
      · obtain rfl := List.mem_singleton.mp hr
        rw [henq.columns] at hs
        exact absurd hs (by simp [reservedRow])
    · have hposted := posted_append hy h.posted (fun e hmem => absurd hmem (List.not_mem_nil))
      rwa [List.append_nil] at hposted

/-! ## Runs -/

/-- An idle installation is in order. -/
theorem InOrder.idle (rt : Runtime) {db : Db} (hkeys : (db.outbox.map (·.id)).Nodup)
    (st : Settings) : InOrder rt db (World.idle db st) := by
  refine ⟨hkeys, ?_, ?_, ?_⟩
  · intro row hrow hs
    exact Or.inl ⟨row, hrow, rfl, hs⟩
  · intro p pass hp
    exact absurd hp (by simp [World.idle])
  · intro pre e post heq
    exact absurd heq (by simp [World.idle])

/-- Every reachable state is in order. -/
theorem reachable_inOrder {rt : Runtime} {db : Db} {st : Settings} {w : World} {as : List Action}
    (hkeys : (db.outbox.map (·.id)).Nodup)
    (h : exec (pushMachine rt) (World.idle db st) as = some w) : InOrder rt db w :=
  exec_invariant (I := fun w => InOrder rt db w)
    (fun _ _ _ hI hstep => hI.step (pushMachine_cases hstep)) (InOrder.idle rt hkeys st) h

/-- The outbox is delivered in strict order: wherever a run posted an event, every
row with a lower sequence was already `SENT` when the run began, or the log before
the post holds the commit of a valid 2xx acknowledgement of it. -/
theorem events_posted_in_order (rt : Runtime) (db : Db) (st : Settings)
    (hkeys : (db.outbox.map (·.id)).Nodup) (as : List Action) (w : World)
    (h : exec (pushMachine rt) (World.idle db st) as = some w) (pre post : List Entry)
    (e : MasterOutboxEvent) (hlog : w.log = pre ++ .posted e :: post) :
    ∀ row ∈ w.db.outbox, row.id < e.id →
      (∃ row₀ ∈ db.outbox, row₀.id = row.id ∧ row₀.status = .sent) ∨
      (∃ event status body stored, Entry.settled event status body (some stored) ∈ pre ∧
        event.id = row.id ∧ event.eventId = row.eventId ∧
        200 ≤ status ∧ status < 300 ∧ validateEventAcknowledgement rt body event = .ok () ∧
        stored.id = row.id ∧ stored.eventId = row.eventId ∧ stored.status = .sent) := by
  intro row hrow hlt
  have hdone := ((reachable_inOrder hkeys h).posted pre e post hlog).2 (row.id, row.eventId)
    (List.mem_map.mpr ⟨row, hrow, rfl⟩) hlt
  rcases hdone with hold | ⟨event, status, body, stored, hmem, hk, hacc, hstored, hs⟩
  · exact Or.inl hold
  · simp only [Prod.mk.injEq] at hk hstored
    exact Or.inr ⟨event, status, body, stored, hmem, hk.1, hk.2, hacc.1, hacc.2.1, hacc.2.2,
      hstored.1, hstored.2, hs⟩

/-- A stock event without items, to stand behind the baseline. -/
def emptySnapshot : EnqueueRequest where
  eventType := py "STOCK_SNAPSHOT"
  aggregateType := py "RELOCATION"
  aggregateId := py "REL-1"
  payload := ⟨[], by refine ⟨by decide, trivial⟩⟩
  occurredAt := none
  schemaVersion := 1
  batchId := none
  initialInventory := false

/-- The body of Master's acknowledgement of the event 1111… at sequence 1. -/
def firstAcknowledgement : List UInt8 :=
  (encodeUtf8 (py "\x7b\"data\":\x7b\"acknowledgements\":[\x7b" ++
    py "\"event_id\":\"11111111-1111-4111-8111-111111111111\",\"sequence\":1\x7d]," ++
    py "\"last_sequence\":1\x7d\x7d")).getD []

/-- Two events queued, the first one delivered, the second one on its way. -/
def deliveryInOrder : List Action :=
  [.enqueue (py "11111111-1111-4111-8111-111111111111") 63900000000000000 emptyBaseline,
    .enqueue (py "22222222-2222-4222-8222-222222222222") 63900000000000001 emptySnapshot,
    .begin 0 100, .pass 0 63900000001000000 none, .pass 0 0 none, .pass 0 0 none, .pass 0 0 none,
    .pass 0 0 (some (.response 200 firstAcknowledgement)), .pass 0 0 none,
    .pass 0 63900000002000000 none, .pass 0 63900000003000000 none, .pass 0 0 none, .pass 0 0 none,
    .pass 0 0 none]

/-- The sequence of a posted event. -/
def Entry.postedId : Entry → Option Nat
  | .posted e => some e.id
  | .settled .. => none

/-- The guarantee at a run that posts the second event. -/
theorem events_posted_in_order_home :
    ∃ w pre post e,
      exec (pushMachine .plain) (World.idle .empty homeSettings) deliveryInOrder = some w ∧
      w.log = pre ++ .posted e :: post ∧ e.id = 2 ∧ ∃ row ∈ w.db.outbox, row.id = 1 ∧
        ∃ event status body stored, Entry.settled event status body (some stored) ∈ pre ∧
          event.id = row.id ∧ stored.status = .sent := by
  have hrun : (exec (pushMachine .plain) (World.idle .empty homeSettings) deliveryInOrder).map
      (fun w => ((w.log.drop 2).map Entry.postedId, w.db.outbox.map (·.id)))
      = some ([some 2], [1, 2]) := by
    decide +kernel
  obtain ⟨w, hw, hfacts⟩ := Option.map_eq_some_iff.mp hrun
  obtain ⟨hlast, hids⟩ := Prod.mk.inj hfacts
  obtain ⟨entry, hdrop, hentry⟩ := List.map_eq_singleton_iff.mp hlast
  cases entry with
  | settled event status body stored => exact absurd hentry (by simp [Entry.postedId])
  | posted e =>
    have hlog : w.log = w.log.take 2 ++ .posted e :: [] := by
      rw [← hdrop, List.take_append_drop]
    have he : e.id = 2 := Option.some.inj hentry
    obtain ⟨row, hrow, hid⟩ : ∃ row ∈ w.db.outbox, row.id = 1 :=
      List.mem_map.mp (hids ▸ List.mem_cons_self)
    have hdone := events_posted_in_order .plain .empty homeSettings (by decide) deliveryInOrder w hw
      (w.log.take 2) [] e hlog row hrow (by omega)
    rcases hdone with
      ⟨row₀, hmem, -⟩ | ⟨event, status, body, stored, hmem, hk, -, -, -, -, -, -, hs⟩
    · exact absurd hmem List.not_mem_nil
    · exact ⟨w, _, _, e, hw, hlog, he, row, hrow, hid, event, status, body, stored, hmem, hk, hs⟩

end SetuoraLite
