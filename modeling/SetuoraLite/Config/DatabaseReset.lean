import SetuoraLite.Access.Users
import SetuoraLite.Lib.ForeignKeys
import SetuoraLite.Sync.Setup

/-!
# Resetting the database

`reset_database_and_cache` empties the tables one after the other and keeps the account of the
super admin. The tables here are all the mapped ones, with every foreign key of the models; a
row's other columns are kept where the reset reads or writes them, and the image of a receipt.

The driver opens a transaction at the first statement that changes rows. `DROP TRIGGER` comes
before that, so it is stored at once and `rollback` does not bring the trigger back.
-/

namespace SetuoraLite

open Lib

/-- The mapped tables. -/
inductive MappedTable
  | users | products | storageLocations | serials | stockRelocations | relocationSerials
  | auditAssignments | auditAssignmentItems | batches | batchItems | scanLogs
    | inventoryTransactions
  | syncAttempts | tallyDataJobs | masterOutboxEvents | masterInboxCommands | receipts
    | tallySftpExchanges
  | localTransfers | localTransferItems | settings | changeAudit | companies | userTallyAccess
  | tallyLedgerCache | tallySalesVoucherCache | loginAudit | tallyMasterConfirmations
    | auditFindings
deriving DecidableEq

/-- The columns that hold the id of another row. -/
inductive KeyColumn
  | productId | replacedById | labelPrintedById | locationId | previousLocationId | newLocationId
  | userId | relocationId | serialId | auditorId | assignedById | assignmentId | auditAssignmentId
  | batchId | shelfLocationId | shelfVerifiedById | companyId | requestedById | createdById
    | transferId
  | actorId | confirmedById
deriving DecidableEq

/-- The foreign keys of the models. -/
def foreignKeys : List (ForeignKey MappedTable KeyColumn) := [
  ⟨.serials, .productId, .products, .restrict⟩, ⟨.serials, .replacedById, .serials, .restrict⟩,
  ⟨.serials, .labelPrintedById, .users, .restrict⟩,
    ⟨.serials, .locationId, .storageLocations, .restrict⟩,
  ⟨.stockRelocations, .productId, .products, .restrict⟩,
  ⟨.stockRelocations, .previousLocationId, .storageLocations, .restrict⟩,
  ⟨.stockRelocations, .newLocationId, .storageLocations, .restrict⟩,
  ⟨.stockRelocations, .userId, .users, .restrict⟩,
  ⟨.relocationSerials, .relocationId, .stockRelocations, .restrict⟩,
  ⟨.relocationSerials, .serialId, .serials, .restrict⟩,
  ⟨.auditAssignments, .productId, .products, .restrict⟩,
    ⟨.auditAssignments, .auditorId, .users, .restrict⟩,
  ⟨.auditAssignments, .assignedById, .users, .restrict⟩,
  ⟨.auditAssignmentItems, .assignmentId, .auditAssignments, .restrict⟩,
  ⟨.auditAssignmentItems, .serialId, .serials, .restrict⟩,
  ⟨.batches, .userId, .users, .restrict⟩,
    ⟨.batches, .auditAssignmentId, .auditAssignments, .restrict⟩,
  ⟨.batchItems, .batchId, .batches, .restrict⟩, ⟨.batchItems, .serialId, .serials, .restrict⟩,
  ⟨.batchItems, .shelfLocationId, .storageLocations, .restrict⟩,
  ⟨.batchItems, .shelfVerifiedById, .users, .restrict⟩,
  ⟨.scanLogs, .serialId, .serials, .restrict⟩, ⟨.scanLogs, .userId, .users, .restrict⟩,
  ⟨.scanLogs, .batchId, .batches, .restrict⟩,
  ⟨.inventoryTransactions, .serialId, .serials, .restrict⟩,
  ⟨.inventoryTransactions, .productId, .products, .restrict⟩,
  ⟨.inventoryTransactions, .batchId, .batches, .restrict⟩,
  ⟨.inventoryTransactions, .userId, .users, .restrict⟩,
  ⟨.syncAttempts, .batchId, .batches, .restrict⟩,
  ⟨.tallyDataJobs, .companyId, .companies, .cascade⟩,
    ⟨.tallyDataJobs, .requestedById, .users, .setNull⟩,
  ⟨.masterOutboxEvents, .batchId, .batches, .restrict⟩,
  ⟨.receipts, .createdById, .users, .setNull⟩,
  ⟨.localTransfers, .createdById, .users, .restrict⟩,
  ⟨.localTransferItems, .transferId, .localTransfers, .restrict⟩,
  ⟨.localTransferItems, .serialId, .serials, .restrict⟩,
  ⟨.changeAudit, .actorId, .users, .setNull⟩,
  ⟨.userTallyAccess, .userId, .users, .cascade⟩,
    ⟨.userTallyAccess, .companyId, .companies, .cascade⟩,
  ⟨.tallyLedgerCache, .companyId, .companies, .cascade⟩,
  ⟨.tallySalesVoucherCache, .companyId, .companies, .cascade⟩,
  ⟨.tallyMasterConfirmations, .confirmedById, .users, .restrict⟩,
  ⟨.auditFindings, .batchId, .batches, .restrict⟩, ⟨.auditFindings, .serialId, .serials, .restrict⟩]

/-- What a row holds beside its keys. -/
inductive RowData
  | account (username role : PyStr) (active : Bool) (deletedAt : Option Instant)
  | setting (key value : PyStr)
  | receipt (receiptUuid : PyStr) (proofImage : List UInt8)
  | other
deriving DecidableEq

/-- The key of a setting. -/
def RowData.settingKey : RowData → Option PyStr
  | .setting key _ => some key
  | _ => none

/-- A row of a mapped table. -/
abbrev MappedRow := Row KeyColumn RowData

/-- The triggers that guard the history of relocations. -/
inductive Trigger
  | preventRelocationSerialsDelete | preventRelocationSerialsUpdate
  | preventStockRelocationsDelete | preventStockRelocationsUpdate
deriving DecidableEq

/-- A database file: its rows and its triggers. -/
structure DbFile where
  rows : Tables MappedTable KeyColumn RowData
  triggers : List Trigger

/-! ## The constants -/

/-- `DELETE_ALL_MODELS`. -/
def deleteAllModels : List MappedTable := [
  .masterInboxCommands, .masterOutboxEvents, .localTransferItems, .localTransfers, .auditFindings,
  .syncAttempts, .tallyDataJobs, .batchItems, .auditAssignmentItems, .relocationSerials,
  .inventoryTransactions, .scanLogs, .tallyMasterConfirmations, .userTallyAccess,
  .tallySalesVoucherCache, .tallyLedgerCache, .stockRelocations, .batches,
    .auditAssignments, .serials,
  .storageLocations, .products, .changeAudit, .loginAudit, .companies, .settings]

/-- `SQLITE_RESET_DELETE_GUARDS`. -/
def sqliteResetDeleteGuards : List (Trigger × MappedTable) := [
  (.preventRelocationSerialsDelete, .relocationSerials),
  (.preventStockRelocationsDelete, .stockRelocations)]

/-- The rows of the default settings, with their row numbers. -/
def defaultSettingRows : List MappedRow :=
  defaultSettings.zipIdx.map fun item => ⟨item.2 + 1, [], .setting item.1.key item.1.value⟩

/-! ## Statements -/

/-- The statements of a reset. -/
inductive Sql
  | dropTrigger (trigger : Trigger)
  | deleteAll (table : MappedTable)
  | deleteOtherUsers (superAdminId : Nat)
  | requireUser (superAdminId : Nat)
  | createTrigger (trigger : Trigger)
  | insertSettings
  | commit

/-- How a reset may fail. -/
inductive ResetError
  | superAdminRequired | notPreserved | historyPermanent | constraint | database
deriving DecidableEq

/-- A connection: the file as stored, and as seen from the open transaction. `deletedRows` are
the counts that the reset collects. -/
structure Connection where
  stored : DbFile
  working : DbFile
  inTransaction : Bool
  deletedRows : List (MappedTable × Nat)

/-- A statement that changes rows, which opens a transaction. -/
def Connection.change (c : Connection) (file : DbFile) : Connection :=
  { c with working := file, inTransaction := true }

/-- A statement that changes the schema, which is stored at once outside a transaction. -/
def Connection.define (c : Connection) (file : DbFile) : Connection :=
  if c.inTransaction then { c with working := file } else { c with stored := file, working := file }

/-- What was not committed is gone. -/
def Connection.rollback (c : Connection) : Connection :=
  { c with working := c.stored, inTransaction := false }

/-- A row of the table may not be deleted. -/
def DbFile.guards (file : DbFile) (table : MappedTable) : Bool :=
  sqliteResetDeleteGuards.any fun guard => guard.2 = table && decide (guard.1 ∈ file.triggers)

/-- `DELETE FROM table WHERE p`, with the count of the deleted rows. -/
def Connection.delete (c : Connection) (table : MappedTable) (p : MappedRow → Bool) :
    Except ResetError Connection :=
  let dead := (c.working.rows table).filter p
  if c.working.guards table ∧ dead ≠ [] then .error .historyPermanent else
  match deleteWhere foreignKeys c.working.rows table p with
  | none => .error .constraint
  | some rows =>
    let after := c.change { c.working with rows := rows }
    .ok { after with deletedRows := c.deletedRows ++ [(table, dead.length)] }

/-- `db.get(User, id)`. -/
def DbFile.user (file : DbFile) (id : Nat) : Option MappedRow :=
  (file.rows .users).find? (·.id = id)

/-- One statement. -/
def Connection.run (c : Connection) : Sql → Except ResetError Connection
  | .dropTrigger trigger =>
    .ok (c.define { c.working with triggers := c.working.triggers.filter (· ≠ trigger) })
  | .deleteAll table => c.delete table fun _ => true
  | .deleteOtherUsers superAdminId => c.delete .users fun r => r.id ≠ superAdminId
  | .requireUser superAdminId =>
    if (c.working.user superAdminId).isSome then .ok c else .error .notPreserved
  | .createTrigger trigger =>
    if trigger ∈ c.working.triggers then .ok c
    else .ok (c.define { c.working with triggers := c.working.triggers ++ [trigger] })
  | .insertSettings =>
    -- The key of a setting is its primary key.
    let settings := c.working.rows .settings
    if settings.any fun r =>
      decide (r.data.settingKey ∈ defaultSettings.map fun item => some item.key) then
      .error .constraint
    else
      let rows := fun table => if table = .settings then settings ++ defaultSettingRows
        else c.working.rows table
      .ok (c.change { c.working with rows := rows })
  | .commit => .ok { c with stored := c.working, inTransaction := false }

/-- The statements of `reset_database_and_cache` in their order. The settings are added to the
session and written by the flush of the commit. -/
def resetStatements (superAdminId : Nat) : List Sql :=
  sqliteResetDeleteGuards.map (fun guard => .dropTrigger guard.1) ++
    deleteAllModels.map .deleteAll ++
    [.deleteOtherUsers superAdminId, .requireUser superAdminId] ++
    sqliteResetDeleteGuards.map (fun guard => .createTrigger guard.1) ++ [.insertSettings, .commit]

/-- Statements in a row, the transaction rolled back on an error. `fault` is the position of a
statement at which the database itself fails, if there is one. -/
def Connection.runAll : Option Nat → List Sql → Connection → Connection × Option ResetError
  | _, [], c => (c, none)
  | fault, sql :: rest, c =>
    if fault = some 0 then (c.rollback, some .database) else
    match c.run sql with
    | .ok c => Connection.runAll (fault.map (· - 1)) rest c
    | .error e => (c.rollback, some e)

/-- What a reset reports. -/
structure ResetSummary where
  deletedRows : List (MappedTable × Nat)
  preservedSuperAdminId : Nat
deriving DecidableEq

/-- The account can reset the database: active, not deleted, and a super admin. -/
def RowData.isLiveSuperAdmin : RowData → Bool
  | .account _ role active deletedAt => active && deletedAt.isNone && hasRole role .superAdmin
  | _ => false

/-- `reset_database_and_cache`: the stored file, and what is returned or raised. The compaction
of the file, which is done after the commit and ignores its errors, changes no row. -/
def resetDatabaseAndCache (file : DbFile) (superAdminId : Nat) (fault : Option Nat) :
    DbFile × Except ResetError ResetSummary :=
  match (file.user superAdminId).filter (·.data.isLiveSuperAdmin) with
  | none => (file, .error .superAdminRequired)
  | some _ =>
    let start : Connection :=
      { stored := file, working := file, inTransaction := false, deletedRows := [] }
    match start.runAll fault (resetStatements superAdminId) with
    | (c, none) => (c.stored, .ok ⟨c.deletedRows, superAdminId⟩)
    | (c, some e) => (c.stored, .error e)

/-! ## Statements after each other -/

section Run

variable {c c' : Connection} {sql : Sql} {rest : List Sql} {fault : Option Nat}

theorem Connection.runAll_cons : c.runAll fault (sql :: rest) =
    if fault = some 0 then (c.rollback, some .database) else
    match c.run sql with
    | .ok c => c.runAll (fault.map (· - 1)) rest
    | .error e => (c.rollback, some e) := by
  rw [Connection.runAll]

theorem Connection.runAll_ok (h : c.run sql = .ok c') :
    c.runAll none (sql :: rest) = c'.runAll none rest := by
  rw [Connection.runAll_cons, if_neg (by simp), h]
  rfl

theorem Connection.runAll_append (front : List Sql) :
    ∀ (fault : Option Nat) (c : Connection), c.runAll fault (front ++ rest) =
      match c.runAll fault front with
      | (c', none) => c'.runAll (fault.map (· - front.length)) rest
      | out => out := by
  induction front with
  | nil =>
    intro fault c
    cases fault <;> rfl
  | cons sql front ih =>
    intro fault c
    rw [List.cons_append, Connection.runAll_cons, Connection.runAll_cons]
    by_cases hfault : fault = some 0
    · rw [if_pos hfault, if_pos hfault]
    · rw [if_neg hfault, if_neg hfault]
      cases c.run sql with
      | error e => rfl
      | ok c' =>
        dsimp only
        rw [ih]
        cases fault with
        | none => rfl
        | some n =>
          have hn : n - 1 - front.length = n - (sql :: front).length := by
            rw [List.length_cons]
            omega
          simp only [Option.map_some, hn]

/-- The database fails at one of the statements, none of which fails by itself. -/
theorem Connection.runAll_fault :
    ∀ {rest : List Sql} {n : Nat} {c : Connection}, n < rest.length →
      (c.runAll none rest).2 = none →
      (c.runAll (some n) rest).2 = some .database := by
  intro rest
  induction rest with
  | nil => intro n c hn _; exact absurd hn (Nat.not_lt_zero n)
  | cons sql rest ih =>
    intro n c hn hthrough
    rw [Connection.runAll_cons] at hthrough ⊢
    cases n with
    | zero => rw [if_pos rfl]
    | succ n =>
      rw [if_neg (by simp)] at hthrough ⊢
      cases hrun : c.run sql with
      | error e =>
        rw [hrun] at hthrough
        exact absurd hthrough (by simp)
      | ok c' =>
        rw [hrun] at hthrough
        exact ih (Nat.lt_of_succ_lt_succ hn) hthrough

/-- The database fails at none of the statements. -/
theorem Connection.runAll_missed :
    ∀ {rest : List Sql} {n : Nat} {c : Connection}, rest.length ≤ n →
      c.runAll (some n) rest = c.runAll none rest := by
  intro rest
  induction rest with
  | nil => intro n c _; rfl
  | cons sql rest ih =>
    intro n c hn
    cases n with
    | zero => exact absurd hn (Nat.not_succ_le_zero _)
    | succ n =>
      rw [Connection.runAll_cons, Connection.runAll_cons, if_neg (by simp), if_neg (by simp)]
      cases c.run sql with
      | error e => rfl
      | ok c' => exact ih (Nat.le_of_succ_le_succ hn)

theorem Connection.delete_ok {table : MappedTable} {p : MappedRow → Bool}
    (h : c.delete table p = .ok c') :
    c'.stored = c.stored ∧ c'.inTransaction = true := by
  unfold Connection.delete at h
  dsimp only at h
  split at h
  · cases h
  · split at h
    · cases h
    · obtain rfl := Except.ok.inj h
      exact ⟨rfl, rfl⟩

/-- Inside a transaction nothing is stored before the commit. -/
theorem Connection.run_stored (hopen : c.inTransaction = true) (hcommit : sql ≠ .commit)
    (h : c.run sql = .ok c') :
    c'.stored = c.stored ∧ c'.inTransaction = true := by
  -- A statement about triggers touches no rows.
  have hdefine : ∀ file, (c.define file).stored = c.stored ∧
      (c.define file).inTransaction = true := by
    intro file
    unfold Connection.define
    rw [if_pos hopen]
    exact ⟨rfl, hopen⟩
  cases sql with
  | dropTrigger trigger =>
    obtain rfl := Except.ok.inj h
    exact hdefine _
  | deleteAll table =>
    rw [Connection.run] at h
    exact Connection.delete_ok h
  | deleteOtherUsers id =>
    rw [Connection.run] at h
    exact Connection.delete_ok h
  -- The check that the kept account is there reads only.
  | requireUser id =>
    rw [Connection.run] at h
    split at h
    · obtain rfl := Except.ok.inj h
      exact ⟨rfl, hopen⟩
    · cases h
  | createTrigger trigger =>
    rw [Connection.run] at h
    split at h
    · obtain rfl := Except.ok.inj h
      exact ⟨rfl, hopen⟩
    · obtain rfl := Except.ok.inj h
      exact hdefine _
  | insertSettings =>
    rw [Connection.run] at h
    dsimp only at h
    split at h
    · cases h
    · obtain rfl := Except.ok.inj h
      exact ⟨rfl, rfl⟩
  | commit => exact absurd rfl hcommit

theorem Connection.runAll_stored :
    ∀ {rest : List Sql} {fault : Option Nat} {c : Connection}, c.inTransaction = true →
      (∀ sql ∈ rest, sql ≠ .commit) →
      (c.runAll fault rest).1.stored = c.stored := by
  intro rest
  induction rest with
  | nil => intro fault c _ _; rfl
  | cons sql rest ih =>
    intro fault c hopen hcommit
    rw [Connection.runAll_cons]
    split
    · rfl
    · cases hrun : c.run sql with
      | error e => rfl
      | ok c' =>
        obtain ⟨hstored, hopen'⟩ :=
          Connection.run_stored hopen (hcommit sql List.mem_cons_self) hrun
        exact (ih hopen' fun sql hsql => hcommit sql (List.mem_cons_of_mem _ hsql)).trans hstored

/-- Statements that begin with a deletion and end with the commit store nothing when they fail. -/
theorem Connection.runAll_failed {table : MappedTable} (hcommit : ∀ sql ∈ rest, sql ≠ .commit)
    (h : (c.runAll fault (.deleteAll table :: rest ++ [.commit])).2 ≠ none) :
    (c.runAll fault (.deleteAll table :: rest ++ [.commit])).1.stored = c.stored := by
  have hfront : (c.runAll fault (.deleteAll table :: rest)).1.stored = c.stored := by
    rw [Connection.runAll_cons]
    split
    · rfl
    · cases hrun : c.run (.deleteAll table) with
      | error e => rfl
      | ok c' =>
        obtain ⟨hstored, hopen⟩ := Connection.delete_ok hrun
        exact (Connection.runAll_stored hopen hcommit).trans hstored
  rw [Connection.runAll_append] at h ⊢
  generalize c.runAll fault (.deleteAll table :: rest) = out at h hfront ⊢
  obtain ⟨c', error⟩ := out
  cases error with
  | some e => exact hfront
  | none =>
    -- The commit itself: it fails only when the database does.
    dsimp only at h hfront ⊢
    rw [Connection.runAll_cons] at h ⊢
    split at h
    next hfault =>
      rw [if_pos hfault]
      exact hfront
    next => exact absurd rfl h

end Run

/-! ## A reset that runs through -/

/-- What SQLite keeps of a stored file: the references and the primary key of the users.
The delete guards are not among it: a reset that failed may have dropped them. -/
structure DbFile.Sound (file : DbFile) : Prop where
  consistent : Consistent foreignKeys file.rows
  users : ((file.rows .users).map (·.id)).Nodup

/-- The rows after the deletions: what the list of tables forgets is still there. -/
structure Deleted (file : DbFile) (row : MappedRow)
    (left : Tables MappedTable KeyColumn RowData) : Prop where
  users : left .users = [row]
  gone : ∀ table ∈ deleteAllModels, left table = []
  receipts : (left .receipts).map (·.id) = (file.rows .receipts).map (·.id)
  exchanges : left .tallySftpExchanges = file.rows .tallySftpExchanges

theorem cascadesEnd_foreignKeys : CascadesEnd foreignKeys := by decide

/-- The order of the deletions respects every foreign key. -/
theorem respects_deleteAllModels : Respects foreignKeys [] deleteAllModels := by decide

section Through

variable {file : DbFile} {superAdminId : Nat} {row : MappedRow}

theorem rows_after_deletes (hsound : file.Sound) (huser : file.user superAdminId = some row) :
    ∃ emptied left, deleteAlls foreignKeys deleteAllModels file.rows = some emptied ∧
      deleteWhere foreignKeys emptied .users (fun r => r.id ≠ superAdminId) = some left ∧
      Deleted file row left := by
  obtain ⟨emptied, hemptied, hconsistent, -, hgone, hfree⟩ :=
    deleteAlls_spec cascadesEnd_foreignKeys respects_deleteAllModels hsound.consistent
      fun t ht => absurd ht List.not_mem_nil
  have hleft : deleteWhere foreignKeys emptied .users (fun r => r.id ≠ superAdminId)
      = some (afterDelete foreignKeys emptied .users fun r => r.id ≠ superAdminId) := by
    refine (deleteWhere_some cascadesEnd_foreignKeys hconsistent ?_).1
    -- Every table whose rows are held to a user is empty.
    intro fk hfk htarget hon r hr
    have hmem : fk.child ∈ deleteAllModels := by
      have hall : ∀ fk ∈ foreignKeys, fk.target = .users → fk.onDelete = .restrict →
          fk.child ∈ deleteAllModels := by
        decide
      exact hall fk hfk htarget hon
    rw [afterDelete_nil (hgone fk.child hmem)] at hr
    exact absurd hr List.not_mem_nil
  refine ⟨emptied, _, hemptied, hleft, ⟨?_, ?_, ?_, ?_⟩⟩
  · have hid : row.id = superAdminId := by simpa using List.find?_some huser
    have hrow : row ∈ file.rows .users := List.mem_of_find?_eq_some huser
    have hothers : (file.rows .users).filter (fun r => !decide (r.id ≠ superAdminId))
        = (file.rows .users).filter (fun r => r.id = row.id) := by
      rw [hid]
      exact List.filter_congr fun r _ => by simp
    rw [afterDelete_free (by decide), if_pos rfl, hfree .users (by decide) (by decide), hothers]
    exact filter_key_eq hsound.users hrow
  · intro table htable
    exact afterDelete_nil (hgone table htable)
  · rw [afterDelete_ids (by decide) (by decide), hfree .receipts (by decide) (by decide)]
  · rw [afterDelete_free (by decide), if_neg (by decide),
      hfree .tallySftpExchanges (by decide) (by decide)]

theorem Connection.delete_some {c : Connection} {table : MappedTable} {p : MappedRow → Bool}
    {rows : Tables MappedTable KeyColumn RowData} (hguard : c.working.guards table = false)
    (h : deleteWhere foreignKeys c.working.rows table p = some rows) :
    ∃ c', c.delete table p = .ok c' ∧ c'.working = { c.working with rows := rows } := by
  unfold Connection.delete
  dsimp only
  rw [hguard, if_neg (by simp), h]
  exact ⟨_, rfl, rfl⟩

theorem Connection.runAll_deletes :
    ∀ {tables : List MappedTable} {c : Connection} {after : Tables MappedTable KeyColumn RowData},
      (∀ table, c.working.guards table = false) →
      deleteAlls foreignKeys tables c.working.rows = some after →
      ∃ c', c.runAll none (tables.map .deleteAll) = (c', none) ∧
      c'.working = { c.working with rows := after } := by
  intro tables
  induction tables with
  | nil =>
    intro c after _ h
    obtain rfl := Option.some.inj h
    exact ⟨c, rfl, rfl⟩
  | cons table tables ih =>
    intro c after hguard h
    obtain ⟨rows, hrows, hrest⟩ := Option.bind_eq_some_iff.mp h
    obtain ⟨c₁, hdelete, hworking⟩ := Connection.delete_some (hguard table) hrows
    have hguard₁ : ∀ t, c₁.working.guards t = false := by
      rw [hworking]
      exact hguard
    obtain ⟨c₂, hrun, hworking₂⟩ := ih hguard₁ (by rw [hworking]; exact hrest)
    have hfirst : c.run (.deleteAll table) = .ok c₁ := by
      rw [Connection.run]
      exact hdelete
    refine ⟨c₂, ?_, ?_⟩
    · rw [List.map_cons, Connection.runAll_ok hfirst]
      exact hrun
    · rw [hworking₂, hworking]

theorem Connection.run_createTrigger (c : Connection) (trigger : Trigger) :
    ∃ c', c.run (.createTrigger trigger) = .ok c' ∧ c'.working.rows = c.working.rows ∧
      trigger ∈ c'.working.triggers ∧
      ∀ other ∈ c.working.triggers, other ∈ c'.working.triggers := by
  rw [Connection.run]
  by_cases hthere : trigger ∈ c.working.triggers
  · rw [if_pos hthere]
    exact ⟨c, rfl, rfl, hthere, fun _ h => h⟩
  · have hdefine : ∀ file, (c.define file).working = file := by
      intro file
      unfold Connection.define
      split <;> rfl
    rw [if_neg hthere]
    refine ⟨_, rfl, ?_, ?_, ?_⟩
    · rw [hdefine]
    · rw [hdefine]
      exact List.mem_append_right _ List.mem_cons_self
    · intro other hother
      rw [hdefine]
      exact List.mem_append_left _ hother

/-- With no failure of the database the reset completes. -/
theorem runAll_resetStatements (hsound : file.Sound) (huser : file.user superAdminId = some row) :
    ∃ (c' : Connection) (left : Tables MappedTable KeyColumn RowData),
      Connection.runAll none (resetStatements superAdminId) ⟨file, file, false, []⟩ = (c', none) ∧
      (∀ guard ∈ sqliteResetDeleteGuards, guard.1 ∈ c'.stored.triggers) ∧
      (∀ table, c'.stored.rows table =
        if table = .settings then defaultSettingRows else left table) ∧
      Deleted file row left := by
  obtain ⟨emptied, left, hemptied, hleft, hdeleted⟩ := rows_after_deletes hsound huser
  -- The guards are dropped, outside of a transaction.
  let dropped : DbFile := { file with
    triggers := (file.triggers.filter (· ≠ .preventRelocationSerialsDelete)).filter
      (· ≠ .preventStockRelocationsDelete) }
  let start : Connection := ⟨dropped, dropped, false, []⟩
  have hguards : ∀ table, start.working.guards table = false := by
    intro table
    unfold DbFile.guards
    simp [sqliteResetDeleteGuards, start, dropped]
  obtain ⟨c₁, hdeletes, hworking₁⟩ : ∃ c',
    start.runAll none (deleteAllModels.map .deleteAll) = (c', none) ∧
      c'.working = { start.working with rows := emptied } :=
        Connection.runAll_deletes hguards hemptied
  obtain ⟨c₂, hothers, hworking₂⟩ : ∃ c', c₁.delete .users (fun r => r.id ≠ superAdminId) = .ok c' ∧
      c'.working = { c₁.working with rows := left } := by
    refine Connection.delete_some ?_ ?_
    · rw [hworking₁]
      exact hguards .users
    · rw [hworking₁]
      exact hleft
  have hrows₂ : c₂.working.rows = left := by rw [hworking₂]
  have hkept : (c₂.working.user superAdminId).isSome = true := by
    unfold DbFile.user
    rw [hrows₂, hdeleted.users]
    have hid : row.id = superAdminId := by simpa using List.find?_some huser
    simp [hid]
  -- The guards are restored and the settings written.
  obtain ⟨c₃, hfirst, hrows₃, hguard₃, -⟩ := c₂.run_createTrigger .preventRelocationSerialsDelete
  obtain ⟨c₄, hsecond, hrows₄, hguard₄, hkeep₄⟩ :=
    c₃.run_createTrigger .preventStockRelocationsDelete
  have hrows : c₄.working.rows = left := by rw [hrows₄, hrows₃, hrows₂]
  have hsettings : left .settings = [] := hdeleted.gone .settings (by decide)
  let c₅ : Connection := c₄.change { c₄.working with
    rows := fun table => if table = .settings then defaultSettingRows else left table }
  have hinsert : c₄.run .insertSettings = .ok c₅ := by
    rw [Connection.run]
    dsimp only
    rw [hrows, hsettings]
    rfl
  have hstatements : resetStatements superAdminId = .dropTrigger .preventRelocationSerialsDelete ::
      .dropTrigger .preventStockRelocationsDelete :: (deleteAllModels.map .deleteAll ++
        [.deleteOtherUsers superAdminId, .requireUser superAdminId,
          .createTrigger .preventRelocationSerialsDelete,
          .createTrigger .preventStockRelocationsDelete,
          .insertSettings, .commit]) := rfl
  have hother : c₁.run (.deleteOtherUsers superAdminId) = .ok c₂ := by
    rw [Connection.run]
    exact hothers
  have hrequire : c₂.run (.requireUser superAdminId) = .ok c₂ := by
    rw [Connection.run, if_pos hkept]
  have hdrop : ∀ file' : DbFile, ∀ trigger,
      Connection.run ⟨file', file', false, []⟩ (.dropTrigger trigger) =
      .ok ⟨{ file' with triggers := file'.triggers.filter (· ≠ trigger) },
        { file' with triggers := file'.triggers.filter (· ≠ trigger) }, false, []⟩ := by
    intro file' trigger
    rw [Connection.run]
    rfl
  refine ⟨{ c₅ with stored := c₅.working, inTransaction := false }, left, ?_, ?_,
    fun table => rfl, hdeleted⟩
  · rw [hstatements, Connection.runAll_ok (hdrop file _), Connection.runAll_ok (hdrop _ _),
      Connection.runAll_append]
    show (match start.runAll none (deleteAllModels.map .deleteAll) with
      | (c', none) => c'.runAll none _
      | out => out) = _
    rw [hdeletes]
    dsimp only
    rw [Connection.runAll_ok hother, Connection.runAll_ok hrequire, Connection.runAll_ok hfirst,
      Connection.runAll_ok hsecond, Connection.runAll_ok hinsert, Connection.runAll_cons,
      if_neg (by simp),
      Connection.run]
    rfl
  · intro guard hguard
    rcases List.mem_cons.mp hguard with rfl | hguard
    · exact hkeep₄ _ hguard₃
    · obtain rfl := List.mem_singleton.mp hguard
      exact hguard₄

/-- The file without the triggers of some of the guards. -/
def DbFile.without (file : DbFile) (guards : List (Trigger × MappedTable)) : DbFile :=
  { file with triggers := file.triggers.filter fun trigger => trigger ∉ guards.map (·.1) }

theorem DbFile.without_eq_self_iff {guards : List (Trigger × MappedTable)} :
    file.without guards = file ↔ ∀ guard ∈ guards, guard.1 ∉ file.triggers := by
  have hself : file.without guards = file ↔
      file.triggers.filter (fun trigger => trigger ∉ guards.map (·.1)) = file.triggers := by
    constructor
    · exact fun h => congrArg DbFile.triggers h
    · intro h
      unfold DbFile.without
      rw [h]
  rw [hself, List.filter_eq_self]
  constructor
  · intro h guard hguard hmem
    have hnot := h guard.1 hmem
    rw [decide_eq_true_eq] at hnot
    exact hnot (List.mem_map_of_mem hguard)
  · intro h trigger hmem
    rw [decide_eq_true_eq]
    intro hguard
    obtain ⟨guard, hin, rfl⟩ := List.mem_map.mp hguard
    exact h guard hin hmem

/-- A failure of the database at a statement: the guards that were dropped before it are
gone, and nothing else has changed. -/
theorem runAll_faulty (file : DbFile) {n : Nat}
    (hthrough : (Connection.runAll none (resetStatements superAdminId) ⟨file, file, false, []⟩).2 =
      none)
    (hlast : n < (resetStatements superAdminId).length) :
    (Connection.runAll (some n) (resetStatements superAdminId) ⟨file, file, false, []⟩).2
        = some .database ∧
      (Connection.runAll (some n) (resetStatements superAdminId) ⟨file, file, false, []⟩).1.stored
        = file.without (sqliteResetDeleteGuards.take n) := by
  have herror := Connection.runAll_fault hlast hthrough
  refine ⟨herror, ?_⟩
  let body : List Sql := deleteAllModels.tail.map .deleteAll ++
    [.deleteOtherUsers superAdminId, .requireUser superAdminId,
      .createTrigger .preventRelocationSerialsDelete, .createTrigger .preventStockRelocationsDelete,
      .insertSettings]
  have hbody : ∀ sql ∈ body, sql ≠ .commit := by
    intro sql hsql heq
    rw [heq] at hsql
    simp [body, deleteAllModels] at hsql
  have hstatements : resetStatements superAdminId = .dropTrigger .preventRelocationSerialsDelete ::
      .dropTrigger .preventStockRelocationsDelete ::
        (.deleteAll .masterInboxCommands :: body ++ [.commit]) := rfl
  rw [hstatements] at herror ⊢
  cases n with
  | zero =>
    rw [Connection.runAll_cons, if_pos rfl]
    exact (DbFile.without_eq_self_iff.mpr fun _ h => absurd h List.not_mem_nil).symm
  | succ n =>
    -- The first guard is dropped at once.
    rw [Connection.runAll_cons, if_neg (by simp), Connection.run] at herror ⊢
    dsimp only [Connection.define, Option.map_some] at herror ⊢
    rw [if_neg (by simp), Nat.add_sub_cancel, Connection.runAll_cons] at herror ⊢
    cases n with
    | zero =>
      rw [if_pos rfl]
      exact congrArg (DbFile.mk file.rows) (List.filter_congr fun trigger _ => by
        simp [sqliteResetDeleteGuards])
    | succ n =>
      -- The second guard too; the deletions and what follows are in the transaction.
      rw [if_neg (by simp), Connection.run] at herror ⊢
      dsimp only [Connection.define, Option.map_some] at herror ⊢
      rw [if_neg (by simp), Nat.add_sub_cancel] at herror ⊢
      rw [Connection.runAll_failed hbody (by rw [herror]; simp)]
      dsimp only
      rw [List.filter_filter]
      exact congrArg (DbFile.mk file.rows) (List.filter_congr fun trigger _ => by
        simp [sqliteResetDeleteGuards, Bool.and_comm])

end Through

/-! ## What a reset promises -/

/-- The account and the default settings, and nothing else. -/
def onlyPreserved (row : MappedRow) : Tables MappedTable KeyColumn RowData
  | .users => [row]
  | .settings => defaultSettingRows
  | _ => []

/-- The reset leaves the account and the default settings, with the guards in place; or the
database has failed, and the file is as it was. -/
@[irreducible]
def ResetSound (file : DbFile) (superAdminId : Nat) (fault : Option Nat) : Prop :=
  match resetDatabaseAndCache file superAdminId fault with
  | (after, .ok _) =>
    (∃ row, file.user superAdminId = some row ∧
      ∀ table, after.rows table = onlyPreserved row table) ∧
      ∀ guard ∈ sqliteResetDeleteGuards, guard.1 ∈ after.triggers
  | (after, .error e) => e = .database ∧ after = file

/-- A reset is as promised exactly when there are neither receipts nor exchange records and the
database fails at no statement, or when it fails at one before which no guard that the file has
was dropped: at the first one, unless an earlier reset that failed has dropped them already. -/
theorem reset_sound_iff {file : DbFile} {superAdminId : Nat} {row : MappedRow} (fault : Option Nat)
    (hsound : file.Sound) (huser : file.user superAdminId = some row)
    (hlive : row.data.isLiveSuperAdmin = true) :
    ResetSound file superAdminId fault ↔
      ((∀ n, fault = some n → (resetStatements superAdminId).length ≤ n) ∧
        file.rows .receipts = [] ∧ file.rows .tallySftpExchanges = []) ∨
      ∃ n, fault = some n ∧ n < (resetStatements superAdminId).length ∧
        ∀ guard ∈ sqliteResetDeleteGuards.take n, guard.1 ∉ file.triggers := by
  have haccount : (file.user superAdminId).filter (·.data.isLiveSuperAdmin) = some row := by
    rw [huser]
    exact if_pos hlive
  unfold ResetSound resetDatabaseAndCache
  rw [haccount]
  dsimp only
  obtain ⟨c', left, hrun, hguards, hrows, hdeleted⟩ := runAll_resetStatements hsound huser
  -- The whole reset, when no statement fails.
  have hthrough :
      ((∃ r, file.user superAdminId = some r ∧
        ∀ table, c'.stored.rows table = onlyPreserved r table) ∧
      ∀ guard ∈ sqliteResetDeleteGuards, guard.1 ∈ c'.stored.triggers) ↔
      file.rows .receipts = [] ∧ file.rows .tallySftpExchanges = [] := by
    constructor
    · rintro ⟨⟨r, -, hall⟩, -⟩
      have hreceipts : left .receipts = [] := by simpa [hrows, onlyPreserved] using hall .receipts
      have hexchanges : left .tallySftpExchanges = [] := by
        simpa [hrows, onlyPreserved] using hall .tallySftpExchanges
      have hids := hdeleted.receipts
      rw [hreceipts] at hids
      exact ⟨List.map_eq_nil_iff.mp hids.symm, hdeleted.exchanges ▸ hexchanges⟩
    · rintro ⟨hreceipts, hexchanges⟩
      refine ⟨⟨row, huser, fun table => ?_⟩, hguards⟩
      have hids := hdeleted.receipts
      rw [hreceipts] at hids
      have hleft : left .receipts = [] := List.map_eq_nil_iff.mp hids
      rw [hrows]
      cases table
      case users => exact hdeleted.users
      case settings => rfl
      case receipts => exact hleft
      case tallySftpExchanges => exact hdeleted.exchanges.trans hexchanges
      all_goals exact hdeleted.gone _ (by decide)
  cases fault with
  | none =>
    rw [hrun]
    refine hthrough.trans ⟨fun h => .inl ⟨fun n hn => (nomatch hn), h⟩, ?_⟩
    rintro (h | ⟨n, hn, -⟩)
    · exact h.2
    · cases hn
  | some n =>
    by_cases hlast : (resetStatements superAdminId).length ≤ n
    · rw [Connection.runAll_missed hlast, hrun]
      refine hthrough.trans ⟨fun h => .inl ⟨fun m hm => ?_, h⟩, ?_⟩
      · obtain rfl := Option.some.inj hm
        exact hlast
      · rintro (h | ⟨m, hm, hlt, -⟩)
        · exact h.2
        · obtain rfl := Option.some.inj hm
          exact absurd hlt (Nat.not_lt.mpr hlast)
    · obtain ⟨herror, hstored⟩ := runAll_faulty file (by rw [hrun]) (Nat.lt_of_not_le hlast)
      generalize Connection.runAll (some n) (resetStatements superAdminId)
        ⟨file, file, false, []⟩ = out
        at herror hstored ⊢
      obtain ⟨c, error⟩ := out
      obtain rfl : error = some .database := herror
      have hfile : c.stored = file.without (sqliteResetDeleteGuards.take n) := hstored
      dsimp only
      rw [hfile, DbFile.without_eq_self_iff]
      constructor
      · exact fun h => .inr ⟨n, rfl, Nat.lt_of_not_le hlast, h.2⟩
      · rintro (h | ⟨m, hm, -, hfree⟩)
        · exact absurd (h.1 n rfl) hlast
        · obtain rfl := Option.some.inj hm
          exact ⟨rfl, hfree⟩

/-- One super admin; the shop has taken a payment proof. -/
def receiptFile : DbFile where
  rows
    | .users => [⟨1, [], .account (py "root") (py "super_admin") true none⟩]
    | .receipts => [⟨1, [(.createdById, 1)], .receipt (py "r-1") [137, 80, 78, 71]⟩]
    | _ => []
  triggers := [.preventRelocationSerialsUpdate, .preventRelocationSerialsDelete,
    .preventStockRelocationsUpdate, .preventStockRelocationsDelete]

/-- The same shop without a receipt, but with another user and a login record. -/
def officeFile : DbFile where
  rows
    | .users => [⟨1, [], .account (py "root") (py "super_admin") true none⟩,
      ⟨2, [], .account (py "sam") (py "sales") true none⟩]
    | .loginAudit => [⟨1, [], .other⟩]
    | _ => []
  triggers := receiptFile.triggers

theorem reset_sound_office : ResetSound officeFile 1 none :=
  have huser : officeFile.user 1 =
      some ⟨1, [], .account (py "root") (py "super_admin") true none⟩ := by
    decide +kernel
  have hsound : officeFile.Sound := ⟨by decide +kernel, by decide +kernel⟩
  (reset_sound_iff none hsound huser (by decide +kernel)).mpr
    (.inl ⟨fun n hn => (nomatch hn), by decide +kernel, by decide +kernel⟩)

theorem ResetSound.stored {file : DbFile} {superAdminId : Nat} {fault : Option Nat}
    (h : ResetSound file superAdminId fault) :
    ((resetDatabaseAndCache file superAdminId fault).2.isOk = true →
      (resetDatabaseAndCache file superAdminId fault).1.rows .receipts = []) ∧
    ((resetDatabaseAndCache file superAdminId fault).2.isOk = false →
      (resetDatabaseAndCache file superAdminId fault).1.triggers = file.triggers) := by
  unfold ResetSound at h
  generalize resetDatabaseAndCache file superAdminId fault = out at h ⊢
  obtain ⟨after, result⟩ := out
  cases result with
  | ok summary =>
    obtain ⟨⟨row, -, hall⟩, -⟩ := h
    exact ⟨fun _ => hall .receipts, fun hok => nomatch hok⟩
  | error e => exact ⟨fun hok => (nomatch hok), fun _ => congrArg DbFile.triggers h.2⟩

/-- The receipt is still there after the reset; and when the database fails at the seventh
statement the guard is gone. -/
theorem reset_keeps_receipt : receiptFile.Sound ∧
    (resetDatabaseAndCache receiptFile 1 none).1.rows .receipts = receiptFile.rows .receipts ∧
    .preventRelocationSerialsDelete ∉ (resetDatabaseAndCache receiptFile 1 (some 6)).1.triggers ∧
    ¬ ResetSound receiptFile 1 none ∧ ¬ ResetSound receiptFile 1 (some 6) := by
  have hkept : (resetDatabaseAndCache receiptFile 1 none).1.rows .receipts =
      receiptFile.rows .receipts := by
    decide +kernel
  have hlost : .preventRelocationSerialsDelete ∉
      (resetDatabaseAndCache receiptFile 1 (some 6)).1.triggers := by
    decide +kernel
  have hok : (resetDatabaseAndCache receiptFile 1 none).2.isOk = true := by decide +kernel
  have herror : (resetDatabaseAndCache receiptFile 1 (some 6)).2.isOk = false := by decide +kernel
  refine ⟨⟨by decide +kernel, by decide +kernel⟩, hkept, hlost, fun h => ?_, fun h => ?_⟩
  · have hempty : receiptFile.rows .receipts = [] := hkept.symm.trans (h.stored.1 hok)
    exact absurd hempty (by decide +kernel)
  · rw [h.stored.2 herror] at hlost
    exact hlost (by decide +kernel)

end SetuoraLite
