import SetuoraLite.Commands.Inbox
import SetuoraLite.Lib.Machine
import SetuoraLite.Sync.Push

/-!
# Polling

`poll_master_commands` as a machine, one poll at a time. A poll fetches a list of
commands, and for each one applies it and commits, then acknowledges it; a command
that fails is rolled back, its failure recorded in a transaction of its own, and the
poll ends. Commits, requests and replies are steps of their own, the process may
stop between any two, and in between the rest of the program may change anything
but the inbox.

`PollWorld.log` records what was committed, what failed and what was acknowledged.
-/

namespace SetuoraLite

open Lib

/-! ## Replies -/

/-- The body of a successful exchange; anything else raises. -/
def replyBody (apiKey : PyStr) : Reply → Except PyError (List UInt8)
  | .httpError status _ => .error (masterSyncError (safeHttpError apiKey status))
  | .networkError text => .error (masterSyncError (safeError apiKey text))
  | .otherError text => .error ⟨.other, text⟩
  | .response status body =>
    if masterResponseMaxBodyBytes < body.length then
      .error (masterSyncError (py "Setuora Master response exceeded the 5 MiB safety limit."))
    else if ¬ (200 ≤ status ∧ status < 300) then
      .error (masterSyncError (safeHttpError apiKey status))
    else .ok body

/-- The list of commands in a decoded response. -/
def commandsOf : Json → Except PyError (List Json)
  | .null => .ok []
  | .arr commands => .ok commands
  | .obj decoded =>
    match getItem decoded (py "commands"), getItem decoded (py "data") with
    | .arr commands, _ => .ok commands
    | _, .obj data =>
      match getItem data (py "commands") with
      | .arr commands => .ok commands
      | _ => .error (masterSyncError (py "Master command response must contain a commands list."))
    | _, _ => .error (masterSyncError (py "Master command response must contain a commands list."))
  | _ => .error (masterSyncError (py "Master command response must contain a commands list."))

/-- The commands a poll will go through. -/
def fetchedCommands (rt : Runtime) (apiKey : PyStr) (limit : Nat) (reply : Reply) :
    Except PyError (List Json) := do
  let body ← replyBody apiKey reply
  let decoded ← decodeJsonResponse rt body
  let commands ← commandsOf decoded
  .ok (commands.take limit)

/-! ## The machine -/

/-- Where a poll stands. -/
inductive PollPhase
  /-- The request for commands is on its way. -/
  | fetching
  /-- At the head of the loop, with the commands that are left. -/
  | working (commands : List Json)
  /-- A command was rolled back; its failure is not recorded. -/
  | failing (command : List (PyStr × Json)) (error : PyError)
  /-- A command was committed and is not acknowledged. -/
  | committed (commandId : PyStr) (rest : List Json)
  /-- The acknowledgement is on its way. -/
  | acknowledging (rest : List Json)

/-- A call of `poll_master_commands` in progress. -/
structure Poll where
  apiKey : PyStr
  limit : Nat
  appliedCount : Nat
  phase : PollPhase

/-- What is recorded of the polls. -/
inductive PollEntry
  /-- A poll began. -/
  | began
  /-- The transaction of a command was committed. -/
  | committed (commandId : PyStr) (before after : Db)
  /-- A command failed. -/
  | failed (command : Json)
  /-- A command was acknowledged to Master. -/
  | acknowledged (commandId : PyStr)
  /-- A poll returned the number of commands it applied, or raised. -/
  | finished (result : Except PyError Nat)

structure PollWorld where
  db : Db
  settings : Settings
  poll : Option Poll
  log : List PollEntry

/-- The installation with no poll in progress. -/
def PollWorld.idle (db : Db) (st : Settings) : PollWorld := ⟨db, st, none, []⟩

inductive PollAction
  /-- `poll_master_commands(limit)` is called. -/
  | begin (limit : Int)
  /-- Master's reply arrives. -/
  | reply (reply : Reply)
  /-- The next step of the poll, with the clock and the `uuid4()` it draws. -/
  | step (now : Instant) (uuid : PyStr)
  /-- The process stops. -/
  | kill
  /-- The rest of the program commits a transaction. -/
  | elsewhere (db : Db)
  /-- The settings change. -/
  | configure (st : Settings)

/-- The poll goes on. -/
def PollWorld.goOn (w : PollWorld) (poll : Poll) (phase : PollPhase) (entries : List PollEntry) :
    PollWorld :=
  { w with poll := some { poll with phase := phase }, log := w.log ++ entries }

/-- The poll returns or raises. -/
def PollWorld.finish (w : PollWorld) (entries : List PollEntry) (result : Except PyError Nat) :
    PollWorld :=
  { w with poll := none, log := w.log ++ entries ++ [.finished result] }

/-- `poll_master_commands` up to its request. -/
def beginPoll (w : PollWorld) (limit : Int) : PollWorld :=
  if w.settings.masterSyncEnabled = false ∨ limit < 1 then w.finish [.began] (.ok 0)
  else
    match requireInitialInventoryQueued w.settings w.db, masterCredentials w.settings with
    | .error e, _ | _, .error e => w.finish [.began] (.error e)
    | .ok _, .ok (_, apiKey) => w.goOn ⟨apiKey, limit.toNat, 0, .fetching⟩ .fetching [.began]

/-- A reply arrives. -/
def pollReply (rt : Runtime) (w : PollWorld) (poll : Poll) (reply : Reply) : Option PollWorld :=
  match poll.phase with
  | .fetching =>
    match fetchedCommands rt poll.apiKey poll.limit reply with
    | .ok commands => some (w.goOn poll (.working commands) [])
    | .error e => some (w.finish [] (.error e))
  | .acknowledging rest =>
    match replyBody poll.apiKey reply with
    | .ok _ => some (w.goOn { poll with appliedCount := poll.appliedCount + 1 } (.working rest) [])
    | .error e => some (w.finish [] (.error e))
  | _ => none

/-- Apply a command and commit. -/
def applyAndCommit (rt : Runtime) (w : PollWorld) (poll : Poll) (now : Instant) (uuid : PyStr)
    (command : List (PyStr × Json)) (rest : List Json) : PollWorld :=
  match Tx.atomically (applyMasterCommand rt w.settings now uuid command) w.db with
  | (.ok row, db) =>
    { w with db := db }.goOn poll (.committed row.commandId rest) [.committed row.commandId w.db db]
  | (.error e, db) => { w with db := db }.goOn poll (.failing command e) [.failed (.obj command)]

/-- Record a failure and end. -/
def recordFailure (rt : Runtime) (w : PollWorld) (poll : Poll) (command : List (PyStr × Json))
    (error : PyError) : PollWorld :=
  match Tx.atomically (persistFailedCommand rt command error) w.db with
  | (.ok _, db) => { w with db := db }.finish [] (.ok poll.appliedCount)
  | (.error e, db) => { w with db := db }.finish [] (.error e)

/-- The next step of a poll; `none` when it waits for Master. -/
def pollStep (rt : Runtime) (w : PollWorld) (poll : Poll) (now : Instant) (uuid : PyStr) :
    Option PollWorld :=
  match poll.phase with
  | .working [] => some (w.finish [] (.ok poll.appliedCount))
  | .working (.obj command :: rest) => some (applyAndCommit rt w poll now uuid command rest)
  | .working (command :: _) =>
    some (w.finish [.failed command]
      (.error (masterSyncError (py "Master returned a malformed command."))))
  | .failing command error => some (recordFailure rt w poll command error)
  | .committed commandId rest => some (w.goOn poll (.acknowledging rest) [.acknowledged commandId])
  | _ => none

/-- One step of the installation. -/
def pollMachine (rt : Runtime) : Machine PollWorld PollAction
  | w, .begin limit => if w.poll.isNone then some (beginPoll w limit) else none
  | w, .reply reply => w.poll.bind fun poll => pollReply rt w poll reply
  | w, .step now uuid => w.poll.bind fun poll => pollStep rt w poll now uuid
  | w, .kill => some { w with poll := none }
  | w, .elsewhere db => if db.inbox = w.db.inbox then some { w with db := db } else none
  | w, .configure st => some { w with settings := st }

/-- The command that the poll is at: the next one, or the one that was rolled back. -/
def PollWorld.current (w : PollWorld) : Option (List (PyStr × Json)) :=
  match w.poll with
  | some ⟨_, _, _, .working (.obj command :: _)⟩ => some command
  | some ⟨_, _, _, .failing command _⟩ => some command
  | _ => none

/-! ## What a step can do -/

/-- An entry that marks the end of a poll. -/
def PollEntry.ends : PollEntry → Bool
  | .failed _ | .finished _ => true
  | _ => false

/-- The effects of a step, by kind. -/
inductive PollStep (rt : Runtime) (w : PollWorld) : PollAction → PollWorld → Prop
  /-- A poll began, and may have ended at once. -/
  | began {limit : Int} {poll : Option Poll} {entries : List PollEntry} (hpoll : w.poll = none)
      (hphase : ∀ p, poll = some p → p.phase = .fetching ∧ entries = [])
      (hentries : ∀ e ∈ entries, e.ends = true) :
      PollStep rt w (.begin limit) { w with poll := poll, log := w.log ++ .began :: entries }
  /-- The poll ended or the process stopped. -/
  | ended {a : PollAction} {entries : List PollEntry} (hentries : ∀ e ∈ entries, e.ends = true) :
      PollStep rt w a { w with poll := none, log := w.log ++ entries }
  /-- A reply came, and the poll stands at the head of its loop. -/
  | replied {r : Reply} {poll poll' : Poll} {commands : List Json} (hpoll : w.poll = some poll)
      (hwaits : poll.phase = .fetching ∨ ∃ rest, poll.phase = .acknowledging rest)
      (hphase : poll'.phase = .working commands) :
      PollStep rt w (.reply r) { w with poll := some poll' }
  /-- A command was applied and committed. -/
  | applied {now : Instant} {uuid : PyStr} {poll poll' : Poll} {command : List (PyStr × Json)}
      {rest : List Json} {row : MasterInboxCommand} {db : Db} (hpoll : w.poll = some poll)
      (hat : poll.phase = .working (.obj command :: rest))
      (happly : applyMasterCommand rt w.settings now uuid command w.db = (.ok row, db))
      (hphase : poll'.phase = .committed row.commandId rest) :
      PollStep rt w (.step now uuid)
        ⟨db, w.settings, some poll', w.log ++ [.committed row.commandId w.db db]⟩
  /-- A command failed and was rolled back. -/
  | rolledBack {now : Instant} {uuid : PyStr} {poll poll' : Poll} {command : List (PyStr × Json)}
      {rest : List Json} {error : PyError} (hpoll : w.poll = some poll)
      (hat : poll.phase = .working (.obj command :: rest))
      (hphase : poll'.phase = .failing command error) :
      PollStep rt w (.step now uuid)
        { w with poll := some poll', log := w.log ++ [.failed (.obj command)] }
  /-- A failure was recorded. -/
  | recorded {now : Instant} {uuid : PyStr} {poll : Poll} {command : List (PyStr × Json)}
      {error : PyError} {db : Db} {u : PUnit} {entries : List PollEntry}
      (hpoll : w.poll = some poll)
      (hat : poll.phase = .failing command error)
      (hpersist : persistFailedCommand rt command error w.db = (.ok u, db))
      (hentries : ∀ e ∈ entries, e.ends = true) :
      PollStep rt w (.step now uuid) ⟨db, w.settings, none, w.log ++ entries⟩
  /-- An acknowledgement left. -/
  | acknowledged {now : Instant} {uuid : PyStr} {poll poll' : Poll} {commandId : PyStr}
      {rest : List Json} (hpoll : w.poll = some poll) (hat : poll.phase = .committed commandId rest)
      (hphase : poll'.phase = .acknowledging rest) :
      PollStep rt w (.step now uuid)
        { w with poll := some poll', log := w.log ++ [.acknowledged commandId] }
  /-- The rest of the program wrote. -/
  | elsewhere {db : Db} (hinbox : db.inbox = w.db.inbox) :
      PollStep rt w (.elsewhere db) { w with db := db }
  /-- The settings changed. -/
  | configured {st : Settings} : PollStep rt w (.configure st) { w with settings := st }

private theorem finish_eq (w : PollWorld) (entries : List PollEntry) (result : Except PyError Nat) :
    w.finish entries result =
        { w with poll := none, log := w.log ++ (entries ++ [.finished result]) } := by
  unfold PollWorld.finish
  rw [List.append_assoc]

private theorem pollReply_cases {rt : Runtime} {w w' : PollWorld} {poll : Poll} {reply : Reply}
    (hpoll : w.poll = some poll) (h : pollReply rt w poll reply = some w') :
    PollStep rt w (.reply reply) w' := by
  unfold pollReply at h
  split at h
  next hat =>
    split at h
    next commands _ =>
      obtain rfl := Option.some.inj h
      unfold PollWorld.goOn
      rw [List.append_nil]
      exact .replied hpoll (Or.inl hat) rfl
    next =>
      obtain rfl := Option.some.inj h
      rw [finish_eq]
      exact .ended (by simp [PollEntry.ends])
  next rest hat =>
    split at h
    next =>
      obtain rfl := Option.some.inj h
      unfold PollWorld.goOn
      rw [List.append_nil]
      exact .replied hpoll (Or.inr ⟨rest, hat⟩) rfl
    next =>
      obtain rfl := Option.some.inj h
      rw [finish_eq]
      exact .ended (by simp [PollEntry.ends])
  next => exact absurd h (by simp)

private theorem pollStep_cases {rt : Runtime} {w w' : PollWorld} {poll : Poll} {now : Instant}
    {uuid : PyStr} (hpoll : w.poll = some poll) (h : pollStep rt w poll now uuid = some w') :
    PollStep rt w (.step now uuid) w' := by
  unfold pollStep at h
  split at h
  next =>
    obtain rfl := Option.some.inj h
    rw [finish_eq]
    exact .ended (by simp [PollEntry.ends])
  next command rest hat =>
    obtain rfl := Option.some.inj h
    unfold applyAndCommit
    -- The transaction of the command commits or is rolled back.
    rcases Tx.atomically_cases (applyMasterCommand rt w.settings now uuid command) w.db with
      ⟨row, db, hx, ha⟩ | ⟨e, db, hx, ha⟩
    · rw [ha]
      exact .applied hpoll hat hx rfl
    · rw [ha]
      exact .rolledBack hpoll hat rfl
  next =>
    obtain rfl := Option.some.inj h
    rw [finish_eq]
    exact .ended (by simp [PollEntry.ends])
  next command error hat =>
    obtain rfl := Option.some.inj h
    unfold recordFailure
    rcases Tx.atomically_cases (persistFailedCommand rt command error) w.db with
      ⟨u, db, hx, ha⟩ | ⟨e, db, hx, ha⟩
    · rw [ha]
      dsimp only
      rw [finish_eq]
      exact .recorded hpoll hat hx (by simp [PollEntry.ends])
    · rw [ha]
      dsimp only
      rw [finish_eq]
      exact .ended (by simp [PollEntry.ends])
  next commandId rest hat =>
    obtain rfl := Option.some.inj h
    exact .acknowledged hpoll hat rfl
  next => exact absurd h (by simp)

/-- Every step is of one of the kinds. -/
theorem pollMachine_cases {rt : Runtime} {w w' : PollWorld} {a : PollAction}
    (h : pollMachine rt w a = some w') : PollStep rt w a w' := by
  cases a with
  | «begin» limit =>
    simp only [pollMachine] at h
    split at h
    next hnone =>
      obtain rfl := Option.some.inj h
      have hpoll : w.poll = none := by simpa using hnone
      unfold beginPoll
      split
      · rw [finish_eq]
        exact .began hpoll (by simp) (by simp [PollEntry.ends])
      · split
        · rw [finish_eq]
          exact .began hpoll (by simp) (by simp [PollEntry.ends])
        · rw [finish_eq]
          exact .began hpoll (by simp) (by simp [PollEntry.ends])
        · exact .began hpoll (by simp) (by simp)
    next => exact absurd h (by simp)
  | reply reply =>
    obtain ⟨poll, hpoll, h⟩ := Option.bind_eq_some_iff.mp h
    exact pollReply_cases hpoll h
  | step now uuid =>
    obtain ⟨poll, hpoll, h⟩ := Option.bind_eq_some_iff.mp h
    exact pollStep_cases hpoll h
  -- A poll that is killed leaves nothing on record.
  | kill =>
    obtain rfl := Option.some.inj h
    have hended : PollStep rt w .kill { w with poll := none, log := w.log ++ [] } :=
      .ended (by simp)
    rwa [List.append_nil] at hended
  | elsewhere db =>
    simp only [pollMachine] at h
    split at h
    next hinbox =>
      obtain rfl := Option.some.inj h
      exact .elsewhere hinbox
    next => exact absurd h (by simp)
  | configure st =>
    obtain rfl := Option.some.inj h
    exact .configured

end SetuoraLite
