import SetuoraLite.Commands.Poll

/-!
# Commands are applied exactly once

What the inbox guarantees over any sequence of polls, with redelivered, reordered
and altered commands, lost replies and stops at any point. `Delivered` is the
invariant behind it: a command whose transaction was ever committed has an `APPLIED`
row now, so its next transaction commits no change. `commands_applied_once` states
the guarantee.
-/

namespace SetuoraLite

open Lib

/-- A commit of the command that changed something. -/
def PollEntry.effective (commandId : PyStr) : PollEntry → Bool
  | .committed id before after => decide (id = commandId ∧ before ≠ after)
  | _ => false

/-- A command failed in the latest poll. -/
def stopped (log : List PollEntry) : Bool :=
  log.foldl (fun seen e => match e with | .began => false | .failed _ => true | _ => seen) false

/-- What comes before an acknowledgement or a commit. -/
def Admissible (before : List PollEntry) : PollEntry → Prop
  | .acknowledged id => ∃ old new, .committed id old new ∈ before ∧ AppliedIn id new.inbox
  | .committed .. => stopped before = false
  | _ => True

/-- The change touches the command's own inbox row only, or nothing. -/
def OwnRowOnly (rt : Runtime) (command : List (PyStr × Json)) (before after : Db) : Prop :=
  match commandParts rt command with
  | .ok parts => { after with inbox := before.inbox } = before ∧
      otherCommands parts.commandId after.inbox = otherCommands parts.commandId before.inbox
  | .error _ => after = before

/-- The invariant of the polls. -/
structure Delivered (w : PollWorld) : Prop where
  keys : InboxKeys w.db.inbox
  applied : ∀ id before after, .committed id before after ∈ w.log →
    AppliedIn id w.db.inbox ∧ AppliedIn id after.inbox
  once : ∀ id, w.log.countP (PollEntry.effective id) ≤ 1
  admissible : Disciplined Admissible w.log
  pending : ∀ poll id rest, w.poll = some poll → poll.phase = .committed id rest →
    ∃ before after, .committed id before after ∈ w.log
  running : ∀ poll, w.poll = some poll →
    stopped w.log = false ∨ ∃ command error, poll.phase = .failing command error

/-! ## The inbox keeps what is applied -/

/-- The row of another command stays. -/
theorem CommandWritten.mem_of_ne {commandId : PyStr} {status : InboxStatus}
    {before after : List MasterInboxCommand} (h : CommandWritten commandId status before after)
    {row : MasterInboxCommand} (hrow : row ∈ before) (hne : row.commandId ≠ commandId) :
    row ∈ after := by
  have : row ∈ otherCommands commandId before := List.mem_filter.mpr ⟨hrow, by simpa using hne⟩
  rw [← h.others] at this
  exact (List.mem_filter.mp this).1

/-- An `APPLIED` row outlives every step. -/
theorem applied_row_step {rt : Runtime} {w w' : PollWorld} {a : PollAction}
    (hk : InboxKeys w.db.inbox) (h : PollStep rt w a w') {row : MasterInboxCommand}
    (hrow : row ∈ w.db.inbox) (happlied : row.status = .applied) : row ∈ w'.db.inbox := by
  cases h with
  | applied _ _ happly _ =>
    obtain ⟨parts, -, -, hcases⟩ := applyMasterCommand_ok hk happly
    rcases hcases with ⟨rfl, -⟩ | ⟨hnot, hwritten⟩
    · exact hrow
    · exact hwritten.mem_of_ne hrow fun he => hnot ⟨row, hrow, he, happlied⟩
  | recorded _ _ hpersist _ =>
    obtain ⟨parts, -, hcases⟩ := persistFailedCommand_ok hk hpersist
    rcases hcases with ⟨rfl, -⟩ | ⟨hnot, -, hwritten⟩
    · exact hrow
    · exact hwritten.mem_of_ne hrow fun he => hnot ⟨row, hrow, he, happlied⟩
  | elsewhere hinbox =>
    rw [← hinbox] at hrow
    exact hrow
  | _ => exact hrow

theorem inboxKeys_step {rt : Runtime} {w w' : PollWorld} {a : PollAction}
    (hk : InboxKeys w.db.inbox) (h : PollStep rt w a w') : InboxKeys w'.db.inbox := by
  cases h with
  | applied _ _ happly _ =>
    obtain ⟨parts, -, -, hcases⟩ := applyMasterCommand_ok hk happly
    rcases hcases with ⟨rfl, -⟩ | ⟨-, hwritten⟩
    · exact hk
    · exact hwritten.keys
  | recorded _ _ hpersist _ =>
    obtain ⟨parts, -, hcases⟩ := persistFailedCommand_ok hk hpersist
    rcases hcases with ⟨rfl, -⟩ | ⟨-, -, hwritten⟩
    · exact hk
    · exact hwritten.keys
  | elsewhere hinbox =>
    show InboxKeys _
    rw [hinbox]
    exact hk
  | _ => exact hk

private theorem appliedIn_step {rt : Runtime} {w w' : PollWorld} {a : PollAction}
    (hk : InboxKeys w.db.inbox) (h : PollStep rt w a w') {id : PyStr}
    (hid : AppliedIn id w.db.inbox) :
    AppliedIn id w'.db.inbox := by
  obtain ⟨row, hrow, he, happlied⟩ := hid
  exact ⟨row, applied_row_step hk h hrow happlied, he, happlied⟩

/-! ## The log -/

theorem stopped_append (log entries : List PollEntry) :
    stopped (log ++ entries) =
      entries.foldl (fun seen e => match e with | .began => false | .failed _ => true | _ => seen)
        (stopped log) := List.foldl_append

/-- Without a new poll, a failure stays the latest one. -/
private theorem foldl_stopped {entries : List PollEntry} (h : .began ∉ entries) :
    entries.foldl
      (fun seen e => match e with | .began => false | .failed _ => true | _ => seen) true
      = true := by
  induction entries with
  | nil => rfl
  | cons e entries ih =>
    have hrest := ih fun hmem => h (List.mem_cons_of_mem e hmem)
    cases e with
    | began => exact absurd List.mem_cons_self h
    | _ => exact hrest

/-- A failure stops its poll. -/
theorem stopped_of_failed {before rest : List PollEntry} {command : Json} (h : .began ∉ rest) :
    stopped (before ++ .failed command :: rest) = true := by
  rw [stopped_append, List.foldl_cons]
  exact foldl_stopped h

private theorem ends_spec {e : PollEntry} (h : e.ends = true) :
    (∀ id before after, e ≠ .committed id before after) ∧ (∀ id, e.effective id = false) ∧
      ∀ pre, Admissible pre e := by
  cases e with
  | failed command => exact ⟨by simp, fun _ => rfl, fun _ => trivial⟩
  | finished result => exact ⟨by simp, fun _ => rfl, fun _ => trivial⟩
  | _ => exact absurd h (by simp [PollEntry.ends])

/-- Entries that commit and acknowledge nothing keep the invariant. -/
private theorem Delivered.grow {w w' : PollWorld} (h : Delivered w) (hkeys : InboxKeys w'.db.inbox)
    (hkept : ∀ id, AppliedIn id w.db.inbox → AppliedIn id w'.db.inbox) {entries : List PollEntry}
    (hlog : w'.log = w.log ++ entries)
    (hentries : ∀ e ∈ entries, (∀ id before after, e ≠ .committed id before after) ∧
      (∀ id, e.effective id = false) ∧ ∀ pre, Admissible pre e)
    (hpending : ∀ poll id rest, w'.poll = some poll → poll.phase = .committed id rest →
      w.poll = some poll)
    (hrunning : ∀ poll, w'.poll = some poll →
      stopped w'.log = false ∨ ∃ command error, poll.phase = .failing command error) :
    Delivered w' := by
  refine ⟨hkeys, ?_, ?_, ?_, ?_, hrunning⟩
  · intro id before after hmem
    rw [hlog] at hmem
    rcases List.mem_append.mp hmem with hold | hnew
    · obtain ⟨hnow, hthen⟩ := h.applied id before after hold
      exact ⟨hkept id hnow, hthen⟩
    · exact absurd rfl ((hentries _ hnew).1 id before after)
  · intro id
    have hzero : entries.countP (PollEntry.effective id) = 0 :=
      List.countP_eq_zero.mpr fun e he => by simp [(hentries e he).2.1 id]
    rw [hlog, List.countP_append, hzero]
    exact h.once id
  · rw [hlog]
    exact h.admissible.append fun e he => (hentries e he).2.2
  · intro poll id rest hpoll hphase
    obtain ⟨before, after, hmem⟩ :=
      h.pending poll id rest (hpending poll id rest hpoll hphase) hphase
    exact ⟨before, after, hlog ▸ List.mem_append_left entries hmem⟩

/-! ## One step -/

/-- A poll that stands at no failure has not stopped. -/
private theorem Delivered.not_stopped {w : PollWorld} (h : Delivered w) {poll : Poll}
    (hpoll : w.poll = some poll) (hphase : ∀ command error, poll.phase ≠ .failing command error) :
    stopped w.log = false := by
  rcases h.running poll hpoll with hrun | ⟨command, error, hat⟩
  · exact hrun
  · exact absurd hat (hphase command error)

/-- A commit of a command. -/
private theorem Delivered.commit {rt : Runtime} {w : PollWorld} {now : Instant} {uuid : PyStr}
    {poll poll' : Poll} {command : List (PyStr × Json)} {rest : List Json}
    {row : MasterInboxCommand} {db : Db} (h : Delivered w) (hpoll : w.poll = some poll)
    (hat : poll.phase = .working (.obj command :: rest))
    (happly : applyMasterCommand rt w.settings now uuid command w.db = (.ok row, db))
    (hphase : poll'.phase = .committed row.commandId rest) :
    Delivered ⟨db, w.settings, some poll', w.log ++ [.committed row.commandId w.db db]⟩ := by
  have hstep := PollStep.applied hpoll hat happly hphase
  have hrun : stopped w.log = false := h.not_stopped hpoll (by simp [hat])
  obtain ⟨parts, -, hid, hcases⟩ := applyMasterCommand_ok h.keys happly
  have hnow : AppliedIn row.commandId db.inbox := by
    rw [hid]
    rcases hcases with ⟨rfl, happlied⟩ | ⟨-, hwritten⟩
    · exact happlied
    · exact hwritten.written
  refine ⟨inboxKeys_step h.keys hstep, ?_, ?_, h.admissible.snoc hrun, ?_, ?_⟩
  · intro id before after hmem
    rcases List.mem_append.mp hmem with hold | hnew
    · obtain ⟨hthen, hafter⟩ := h.applied id before after hold
      exact ⟨appliedIn_step h.keys hstep hthen, hafter⟩
    · obtain ⟨rfl, rfl, rfl⟩ : id = row.commandId ∧ before = w.db ∧ after = db := by
        simpa using hnew
      exact ⟨hnow, hnow⟩
  · intro id
    rw [List.countP_append, List.countP_singleton]
    rcases hcases with ⟨rfl, -⟩ | ⟨hnot, -⟩
    · -- A replay commits no change.
      simpa [PollEntry.effective] using h.once id
    · by_cases he : row.commandId = id
      · -- No earlier commit of this command: it would have left an `APPLIED` row.
        have hzero : w.log.countP (PollEntry.effective id) = 0 := by
          refine List.countP_eq_zero.mpr fun e hmem heff => ?_
          cases e with
          | committed id' before after =>
            have hid' : id' = id := by
              have := of_decide_eq_true heff
              exact this.1
            rw [hid', ← he, hid] at hmem
            exact hnot (h.applied _ before after hmem).1
          | _ => exact absurd heff (by simp [PollEntry.effective])
        rw [hzero]
        split <;> omega
      · simpa [PollEntry.effective, he] using h.once id
  · intro poll'' id rest' hp hat'
    obtain rfl := Option.some.inj hp
    rw [hphase] at hat'
    obtain ⟨rfl, rfl⟩ := PollPhase.committed.inj hat'
    exact ⟨w.db, db, by simp⟩
  · intro poll'' _
    refine Or.inl ?_
    rw [stopped_append]
    exact hrun

/-- An acknowledgement. -/
private theorem Delivered.acknowledge {w : PollWorld} {poll poll' : Poll} {commandId : PyStr}
    {rest : List Json} (h : Delivered w) (hpoll : w.poll = some poll)
    (hat : poll.phase = .committed commandId rest) (hphase : poll'.phase = .acknowledging rest) :
    Delivered { w with poll := some poll', log := w.log ++ [.acknowledged commandId] } := by
  obtain ⟨before, after, hmem⟩ := h.pending poll commandId rest hpoll hat
  refine ⟨h.keys, ?_, ?_, h.admissible.snoc ⟨before, after, hmem, (h.applied _ _ _ hmem).2⟩, ?_, ?_⟩
  · intro id old new hnew
    refine h.applied id old new ?_
    simpa using hnew
  · intro id
    simpa [PollEntry.effective] using h.once id
  · intro poll'' id rest' hp hat'
    obtain rfl := Option.some.inj hp
    simp [hphase] at hat'
  · intro poll'' _
    refine Or.inl ?_
    rw [stopped_append]
    exact h.not_stopped hpoll (by simp [hat])

/-- Every step keeps the invariant. -/
theorem Delivered.step {rt : Runtime} {w w' : PollWorld} {a : PollAction} (h : Delivered w)
    (hstep : PollStep rt w a w') : Delivered w' := by
  have hkeys := inboxKeys_step h.keys hstep
  have hkept : ∀ id, AppliedIn id w.db.inbox → AppliedIn id w'.db.inbox :=
    fun id => appliedIn_step h.keys hstep
  cases hstep with
  | began hpoll hphase hentries =>
    refine h.grow hkeys hkept rfl ?_ ?_ ?_
    · intro e he
      rcases List.mem_cons.mp he with rfl | he
      · exact ⟨by simp, fun _ => rfl, fun _ => trivial⟩
      · exact ends_spec (hentries e he)
    · intro poll id rest hp hat
      simp [(hphase poll hp).1] at hat
    · intro poll hp
      refine Or.inl ?_
      obtain ⟨-, rfl⟩ := hphase poll hp
      exact stopped_append _ _
  | ended hentries =>
    -- What ends a poll applies nothing.
    refine h.grow hkeys hkept rfl (fun e he => ends_spec (hentries e he)) ?_ ?_
    · intro poll id rest hp
      exact absurd hp (by simp)
    · intro poll hp
      exact absurd hp (by simp)
  | replied hpoll hwaits hphase =>
    refine h.grow hkeys hkept (List.append_nil _).symm (by simp) ?_ ?_
    · intro poll id rest hp hat
      obtain rfl := Option.some.inj hp
      simp [hphase] at hat
    · intro poll hp
      refine Or.inl (h.not_stopped hpoll ?_)
      intro command error hat
      rcases hwaits with hw | ⟨rest, hw⟩ <;> simp [hw] at hat
  -- The only step that adds an application to the log.
  | applied hpoll hat happly hphase => exact h.commit hpoll hat happly hphase
  | rolledBack hpoll hat hphase =>
    refine h.grow hkeys hkept rfl ?_ ?_ ?_
    · intro e he
      obtain rfl := List.mem_singleton.mp he
      exact ends_spec rfl
    · intro poll id rest hp hat'
      obtain rfl := Option.some.inj hp
      simp [hphase] at hat'
    · intro poll hp
      obtain rfl := Option.some.inj hp
      exact Or.inr ⟨_, _, hphase⟩
  -- A failure is recorded; the row of an applied command stays.
  | recorded hpoll hat hpersist hentries =>
    refine h.grow hkeys hkept rfl (fun e he => ends_spec (hentries e he)) ?_ ?_
    · intro poll id rest hp
      exact absurd hp (by simp)
    · intro poll hp
      exact absurd hp (by simp)
  | acknowledged hpoll hat hphase => exact h.acknowledge hpoll hat hphase
  | elsewhere hinbox =>
    exact h.grow hkeys hkept (List.append_nil _).symm (by simp) (fun _ _ _ hp _ => hp) h.running
  | configured =>
    exact h.grow hkeys hkept (List.append_nil _).symm (by simp) (fun _ _ _ hp _ => hp) h.running

/-! ## The guarantee -/

theorem Delivered.idle {db : Db} (hkeys : InboxKeys db.inbox) (st : Settings) :
    Delivered (PollWorld.idle db st) where
  keys := hkeys
  applied := by simp [PollWorld.idle]
  once := by simp [PollWorld.idle]
  admissible := Disciplined.nil
  pending := by simp [PollWorld.idle]
  running := by simp [PollWorld.idle]

theorem reachable_delivered {rt : Runtime} {db : Db} {st : Settings} {w : PollWorld}
    {as : List PollAction} (hkeys : InboxKeys db.inbox)
    (h : exec (pollMachine rt) (PollWorld.idle db st) as = some w) : Delivered w :=
  exec_invariant (I := Delivered) (fun _ _ _ hI hstep => hI.step (pollMachine_cases hstep))
    (Delivered.idle hkeys st) h

/-- `APPLIED` rows outlive every run. -/
private theorem applied_row_run {rt : Runtime} {w w' : PollWorld} {as : List PollAction}
    (hk : InboxKeys w.db.inbox) (h : exec (pollMachine rt) w as = some w')
    {row : MasterInboxCommand} (hrow : row ∈ w.db.inbox)
    (happlied : row.status = .applied) : row ∈ w'.db.inbox := by
  refine (exec_invariant (I := fun v => InboxKeys v.db.inbox ∧ row ∈ v.db.inbox) ?_ ⟨hk, hrow⟩ h).2
  rintro v a v' ⟨hkv, hmem⟩ hstep
  have hcases := pollMachine_cases hstep
  exact ⟨inboxKeys_step hkv hcases, applied_row_step hkv hcases hmem happlied⟩

private theorem current_working {w : PollWorld} {poll : Poll} {command : List (PyStr × Json)}
    {rest : List Json} (hpoll : w.poll = some poll)
    (hat : poll.phase = .working (.obj command :: rest)) :
    w.current = some command := by
  obtain ⟨apiKey, limit, count, phase⟩ := poll
  obtain rfl : phase = .working (.obj command :: rest) := hat
  simp only [PollWorld.current, hpoll]

private theorem current_failing {w : PollWorld} {poll : Poll} {command : List (PyStr × Json)}
    {error : PyError} (hpoll : w.poll = some poll) (hat : poll.phase = .failing command error) :
    w.current = some command := by
  obtain ⟨apiKey, limit, count, phase⟩ := poll
  obtain rfl : phase = .failing command error := hat
  simp only [PollWorld.current, hpoll]

/-- A step of the poll at a command commits it or touches its own inbox row; every
other step of a poll leaves the database alone. -/
private theorem step_change {rt : Runtime} {w w' : PollWorld} {a : PollAction}
    (hk : InboxKeys w.db.inbox) (h : PollStep rt w a w') (ha : ∀ db, a ≠ .elsewhere db) :
    w'.db = w.db ∨ ∃ command, w.current = some command ∧
      ((∃ id, w'.log = w.log ++ [.committed id w.db w'.db]) ∨
        OwnRowOnly rt command w.db w'.db) := by
  cases h with
  | @applied now uuid poll poll' command rest row db hpoll hat happly _ =>
    exact Or.inr ⟨command, current_working hpoll hat, Or.inl ⟨row.commandId, rfl⟩⟩
  | @recorded now uuid poll command error db u entries hpoll hat hpersist _ =>
    obtain ⟨parts, hparts, hcases⟩ := persistFailedCommand_ok hk hpersist
    rcases hcases with ⟨rfl, -⟩ | ⟨-, hframe, hwritten⟩
    · exact Or.inl rfl
    · refine Or.inr ⟨command, current_failing hpoll hat, Or.inr ?_⟩
      unfold OwnRowOnly
      rw [hparts]
      exact ⟨hframe, hwritten.others⟩
  | elsewhere hinbox => exact absurd rfl (ha _)
  | _ => exact Or.inl rfl

/-- A step at a command that is `APPLIED` changes nothing. -/
private theorem replay_noop {rt : Runtime} {w w' : PollWorld} {a : PollAction}
    (hk : InboxKeys w.db.inbox) (h : PollStep rt w a w') (ha : ∀ db, a ≠ .elsewhere db)
    {command : List (PyStr × Json)} {parts : CommandParts} (hcurrent : w.current = some command)
    (hparts : commandParts rt command = .ok parts)
    (happlied : AppliedIn parts.commandId w.db.inbox) :
    w'.db = w.db := by
  cases h with
  | applied hpoll hat happly _ =>
    obtain rfl := Option.some.inj ((current_working hpoll hat).symm.trans hcurrent)
    obtain ⟨parts', hparts', -, hcases⟩ := applyMasterCommand_ok hk happly
    obtain rfl := Except.ok.inj (hparts'.symm.trans hparts)
    rcases hcases with ⟨hsame, -⟩ | ⟨hnot, -⟩
    · exact hsame
    · exact absurd happlied hnot
  | recorded hpoll hat hpersist _ =>
    obtain rfl := Option.some.inj ((current_failing hpoll hat).symm.trans hcurrent)
    obtain ⟨parts', hparts', hcases⟩ := persistFailedCommand_ok hk hpersist
    obtain rfl := Except.ok.inj (hparts'.symm.trans hparts)
    rcases hcases with ⟨hsame, -⟩ | ⟨hnot, -⟩
    · exact hsame
    · exact absurd happlied hnot
  | elsewhere hinbox => exact absurd rfl (ha _)
  | _ => rfl

/-- Commands are applied exactly once, over any sequence of polls: a command commits
a change at most once; an `APPLIED` row stays as it is; at a command that is
`APPLIED` no step of a poll changes a row, whatever the command says; a step of a
poll commits the command it is at or changes at most that command's own inbox row;
a command is acknowledged only after a commit that left it `APPLIED`; and after a
failure nothing is committed until the next poll. -/
theorem commands_applied_once (rt : Runtime) (db : Db) (st : Settings) (hkeys : InboxKeys db.inbox)
    (as : List PollAction) (w : PollWorld)
    (h : exec (pollMachine rt) (PollWorld.idle db st) as = some w) :
    (∀ id, w.log.countP (PollEntry.effective id) ≤ 1) ∧
    (∀ bs w', exec (pollMachine rt) w bs = some w' → ∀ row ∈ w.db.inbox, row.status = .applied →
      row ∈ w'.db.inbox) ∧
    (∀ a w', pollMachine rt w a = some w' → (∀ db, a ≠ .elsewhere db) → ∀ command parts,
      w.current = some command → commandParts rt command = .ok parts →
      AppliedIn parts.commandId w.db.inbox → w'.db = w.db) ∧
    (∀ a w', pollMachine rt w a = some w' → (∀ db, a ≠ .elsewhere db) →
      w'.db = w.db ∨ ∃ command, w.current = some command ∧
        ((∃ id, w'.log = w.log ++ [.committed id w.db w'.db]) ∨ OwnRowOnly rt command w.db w'.db)) ∧
    (∀ pre id post, w.log = pre ++ .acknowledged id :: post →
      ∃ before after, .committed id before after ∈ pre ∧ AppliedIn id after.inbox) ∧
    (∀ pre command mid id before after post,
      w.log = pre ++ .failed command :: mid ++ .committed id before after :: post →
      .began ∈ mid) := by
  have hw := reachable_delivered hkeys h
  refine ⟨hw.once, ?_, ?_, ?_, ?_, ?_⟩
  -- An applied row stays applied; a replay changes nothing; a failure stops its poll.
  · intro bs w' hrun row hrow happlied
    exact applied_row_run hw.keys hrun hrow happlied
  · intro a w' hstep ha command parts hcurrent hparts happlied
    exact replay_noop hw.keys (pollMachine_cases hstep) ha hcurrent hparts happlied
  · intro a w' hstep ha
    exact step_change hw.keys (pollMachine_cases hstep) ha
  · intro pre id post hlog
    exact hw.admissible pre _ post hlog
  · intro pre command mid id before after post hlog
    by_contra hbegan
    have hrun : stopped (pre ++ .failed command :: mid) = false := hw.admissible _ _ post hlog
    rw [stopped_of_failed hbegan] at hrun
    exact absurd hrun (by simp)

/-- An installation of `HOME` with its baseline queued, and nothing else. -/
def homeInstallation : Db :=
  { Db.empty with
    outbox := [⟨1, py "11111111-1111-4111-8111-111111111111", py "HEARTBEAT", 1,
      py "INITIAL_INVENTORY", py "HOME:INITIAL-INVENTORY:EMPTY", none, [], [], .sent, 1, none, none,
      none, none⟩]
    outboxSequence := 1 }

/-- Master's answer to a poll: a product, and the same command under another schema version. -/
def productTwice : List UInt8 :=
  let product := py ("\x7b\"product_code\":\"P-1\",\"product_name\":\"Tea\",\"hsn\":\"0902\"," ++
    "\"tally_stock_item_name\":\"Tea\",\"gst_rate\":5\x7d")
  let payload :=
    py "\x7b\"version\":1,\"franchise_code\":\"HOME\",\"product\":" ++ product ++ py "\x7d"
  let command :=
    py "\x7b\"command_id\":\"C-1\",\"command_type\":\"PRODUCT_UPSERT\",\"payload\":" ++ payload
  (encodeUtf8 (py "\x7b\"commands\":[" ++ command ++ py "\x7d," ++ command ++
    py ",\"schema_version\":2\x7d]\x7d")).getD []

/-- A poll that applies the first command and refuses the second. -/
def pollTwice : List PollAction :=
  [.begin 100, .reply (.response 200 productTwice), .step 63900000000000000 (py "u-1"),
    .step 0 [], .reply (.response 200 []), .step 63900000001000000 (py "u-2"),
    .step 63900000002000000 []]

/-- The guarantee at a poll that brings a command twice. -/
theorem commands_applied_once_home :
    ∃ w row, exec (pollMachine .plain) (PollWorld.idle homeInstallation homeSettings)
        pollTwice = some w ∧
      w.log.countP (PollEntry.effective (py "C-1")) = 1 ∧ row ∈ w.db.inbox ∧
      row.commandId = py "C-1" ∧ ∀ bs w', exec (pollMachine .plain) w bs = some w' →
      row ∈ w'.db.inbox := by
  have hrun : (exec (pollMachine .plain) (PollWorld.idle homeInstallation homeSettings)
      pollTwice).map
      (fun w => (w.log.map (PollEntry.effective (py "C-1")),
        w.db.inbox.map fun row => (row.commandId, row.status)))
      = some ([false, true, false, false, false], [(py "C-1", .applied)]) := by
    decide +kernel
  obtain ⟨w, hw, hfacts⟩ := Option.map_eq_some_iff.mp hrun
  obtain ⟨hlog, hinbox⟩ := Prod.mk.inj hfacts
  obtain ⟨row, hrows, hrow⟩ := List.map_eq_singleton_iff.mp hinbox
  obtain ⟨hid, happlied⟩ := Prod.mk.inj hrow
  have hmem : row ∈ w.db.inbox := hrows ▸ List.mem_singleton_self row
  obtain ⟨honce, hstays, -⟩ := commands_applied_once .plain homeInstallation homeSettings
    ⟨by decide, by decide⟩ pollTwice w hw
  have hsome : 0 < w.log.countP (PollEntry.effective (py "C-1")) := by
    have htrue : true ∈ w.log.map (PollEntry.effective (py "C-1")) := by rw [hlog]; simp
    obtain ⟨e, he, heff⟩ := List.mem_map.mp htrue
    exact List.countP_pos_iff.mpr ⟨e, he, heff⟩
  have hle := honce (py "C-1")
  exact ⟨w, row, hw, by omega, hmem, hid, fun bs w' hrest => hstays bs w' hrest row hmem happlied⟩

end SetuoraLite
