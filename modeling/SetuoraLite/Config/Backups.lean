import SetuoraLite.Lib.Calendar
import SetuoraLite.Lib.Counter
import SetuoraLite.Lib.NewestFirst
import SetuoraLite.Lib.Table
import SetuoraLite.Lib.Text

/-!
# Backup rotation

`create_scheduled_backup` writes a verified copy of the database into the backup folder, and to
the off-machine folder, and then removes all but the newest backups of each. Newest is by the
modification time of the files and not by the stamp in the name.

SQLite itself is a parameter: the bytes of the copy that its backup makes, and the verdict of
its checks. Folders are on a disk by their resolved paths.
-/

namespace SetuoraLite

open Lib

/-! ## Folders -/

/-- An entry of a folder. `mtime` is `st_mtime`, of which only the order counts. -/
structure FolderEntry where
  name : PyStr
  isFile : Bool
  mtime : Int
  data : List UInt8
deriving DecidableEq

/-- A folder: no two entries have the same name. -/
structure Folder where
  entries : List FolderEntry
  names : (entries.map (·.name)).Nodup

/-- The file takes the place of the entry with its name. -/
def Folder.put (folder : Folder) (file : FolderEntry) : Folder where
  entries := folder.entries.filter (·.name ≠ file.name) ++ [file]
  names := by
    rw [List.map_append]
    refine List.Nodup.append (folder.names.sublist (List.filter_sublist.map _))
      (List.nodup_singleton _) ?_
    intro name hname hfile
    obtain ⟨e, he, rfl⟩ := List.mem_map.mp hname
    have hne := (List.mem_filter.mp he).2
    rw [List.map_cons, List.map_nil, List.mem_singleton] at hfile
    simp [hfile] at hne

/-- `unlink(missing_ok=True)` of each name. -/
def Folder.unlink (folder : Folder) (names : List PyStr) : Folder where
  entries := folder.entries.filter (·.name ∉ names)
  names := folder.names.sublist (List.filter_sublist.map _)

abbrev Disk := PyStr → Folder

/-! ## The backup service -/

/-- What SQLite does: the copy of a database, and the checks of `verify_sqlite_backup` and of
`verify_setuora_backup`. -/
structure Sqlite where
  copy : List UInt8 → List UInt8
  verifySqliteBackup : List UInt8 → Bool
  verifySetuoraBackup : List UInt8 → Bool

/-- The settings that are read. The folders are resolved; a blank off-machine folder is none. -/
structure BackupSettings where
  backupDirectory : PyStr
  backupOffsiteDirectory : Option PyStr
  backupRetentionCount : Int

/-- What the clock and the file system give a backup: the text of the stamp, the modification
time of the written copy, and the time at the end. -/
structure BackupMoment where
  stamp : PyStr
  mtime : Int
  verifiedAt : Instant

inductive BackupError
  | databaseMissing | verification | notSetuora | isADirectory | fileNotFound
deriving DecidableEq

structure BackupFileInfo where
  filename : PyStr
  path : PyStr × PyStr
  sizeBytes : Nat
  verifiedAt : Instant
  offsitePath : Option (PyStr × PyStr)
deriving DecidableEq

structure RestoreInfo where
  safetyBackupPath : PyStr × PyStr
  restoredAt : Instant
deriving DecidableEq

/-- `BACKUP_FILE_PATTERNS`: what stands before and after the star. -/
def backupFilePatterns : List (PyStr × PyStr) :=
  [(py "setuora-backup-", py ".db"), (py "setu-backup-", py ".db")]

/-- A name that the pattern matches. -/
def matchesPattern (name : PyStr) (pattern : PyStr × PyStr) : Bool :=
  pattern.1.isPrefixOf name && pattern.2.isSuffixOf name &&
    decide (pattern.1.length + pattern.2.length ≤ name.length)

def FolderEntry.isBackup (e : FolderEntry) : Bool :=
  backupFilePatterns.any (matchesPattern e.name) && e.isFile

/-- `_backup_files`. The paths are collected in a set, which is gone through in some order. -/
def backupFiles (sets : SetOrder FolderEntry) (folder : Folder) : List FolderEntry :=
  newestFirst (·.mtime) (sets.order (folder.entries.filter (·.isBackup)))

/-- `max(1, int(retention_count))`. -/
def BackupSettings.keep (settings : BackupSettings) : Nat :=
  (max 1 settings.backupRetentionCount).toNat

/-- `_prune_backups`. -/
def pruneBackups (sets : SetOrder FolderEntry) (keep : Nat) (folder : Folder) : Folder :=
  folder.unlink (((backupFiles sets folder).drop keep).map (·.name))

/-- A directory stands at the name, where no file can be put. -/
def Folder.blocks (folder : Folder) (name : PyStr) : Bool :=
  folder.entries.any fun e => e.name = name && !e.isFile

/-- The name under which a file is written before it takes its place. -/
def temporaryName (filename : PyStr) : PyStr := py "." ++ filename ++ py ".tmp"

/-- A temporary name is longer than the name. -/
theorem temporaryName_ne (filename : PyStr) : temporaryName filename ≠ filename := by
  intro h
  have hlength := congrArg List.length h
  simp only [temporaryName, List.length_append] at hlength
  have hdot : (py ".").length = 1 := by decide
  omega

/-- The file under its temporary name. -/
def FolderEntry.temporary (file : FolderEntry) : FolderEntry :=
  { file with name := temporaryName file.name }

/-- The folder once the file has been moved from its temporary name into its place. -/
def Folder.place (folder : Folder) (file : FolderEntry) : Folder :=
  (folder.unlink [temporaryName file.name]).put file

/-- The steps that both copies share: what stands at the temporary name is unlinked, the
copy is written there, verified, and replaces the destination. -/
def placeFile (sqlite : Sqlite) (directory : PyStr) (file : FolderEntry) (disk : Disk) :
    Disk × Except BackupError Unit :=
  if (disk directory).blocks (temporaryName file.name) then (disk, .error .isADirectory) else
  let written : Disk := Function.update disk directory ((disk directory).put file.temporary)
  if sqlite.verifySqliteBackup file.data = false then (written, .error .verification) else
  if (written directory).blocks file.name then (written, .error .isADirectory) else
  (Function.update disk directory ((written directory).place file), .ok ())

def Disk.prune (disk : Disk) (sets : SetOrder FolderEntry) (settings : BackupSettings)
    (directory : PyStr) : Disk :=
  Function.update disk directory (pruneBackups sets settings.keep (disk directory))

/-- `_copy_to_offsite`. The copy keeps the modification time. -/
def copyToOffsite (sqlite : Sqlite) (settings : BackupSettings) (file : FolderEntry) (disk : Disk) :
    Disk × Except BackupError Unit :=
  match settings.backupOffsiteDirectory with
  | none => (disk, .ok ())
  | some directory => placeFile sqlite directory file disk

def backupFilename (stamp : PyStr) : PyStr := py "setuora-backup-" ++ stamp ++ py ".db"

/-- The file that a backup of the database with the bytes `source` writes. -/
def backupFile (sqlite : Sqlite) (moment : BackupMoment) (source : List UInt8) : FolderEntry :=
  ⟨backupFilename moment.stamp, true, moment.mtime, sqlite.copy source⟩

/-- `create_scheduled_backup` of a database with the bytes `database`: the disk, and what is
returned or raised. -/
def createScheduledBackup (sqlite : Sqlite) (sets : SetOrder FolderEntry)
    (settings : BackupSettings) (moment : BackupMoment) (database : Option (List UInt8))
    (disk : Disk) :
    Disk × Except BackupError BackupFileInfo :=
  match database with
  | none => (disk, .error .databaseMissing)
  | some source =>
    let directory := settings.backupDirectory
    let file := backupFile sqlite moment source
    match placeFile sqlite directory file disk with
    | (left, .error e) => (left, .error e)
    | (stored, .ok _) =>
      match copyToOffsite sqlite settings file stored with
      | (left, .error e) => (left, .error e)
      | (copied, .ok _) =>
        let pruned := copied.prune sets settings directory
        let pruned := match settings.backupOffsiteDirectory with
          | none => pruned
          | some offsite => pruned.prune sets settings offsite
        -- `destination.stat()` raises when the file is not there.
        match (pruned directory).entries.find? (·.name = file.name) with
        | none => (pruned, .error .fileNotFound)
        | some entry => (pruned, .ok {
            filename := file.name
            path := (directory, file.name)
            sizeBytes := entry.data.length
            verifiedAt := moment.verifiedAt
            offsitePath :=
              settings.backupOffsiteDirectory.map fun offsite => (offsite, file.name) })

/-- `restore_sqlite_backup_file` from a file with the bytes `backup`: the disk, the database,
and what is returned or raised. -/
def restoreSqliteBackupFile (sqlite : Sqlite) (sets : SetOrder FolderEntry)
    (settings : BackupSettings) (moment : BackupMoment) (database : Option (List UInt8))
    (disk : Disk) (backup : List UInt8) :
    Disk × Option (List UInt8) × Except BackupError RestoreInfo :=
  if database = none then (disk, database, .error .databaseMissing) else
  if sqlite.verifySetuoraBackup backup = false then (disk, database, .error .notSetuora) else
  match createScheduledBackup sqlite sets settings moment database disk with
  | (after, .error e) => (after, database, .error e)
  | (after, .ok info) => (after, some backup, .ok ⟨info.path, moment.verifiedAt⟩)

/-! ## Folders after a step -/

section Folders

variable {sets : SetOrder FolderEntry} {folder : Folder} {file e e' : FolderEntry} {keep : Nat}

@[ext]
theorem Folder.ext {folder folder' : Folder} (h : folder.entries = folder'.entries) :
    folder = folder' := by
  obtain ⟨entries, names⟩ := folder
  obtain ⟨entries', names'⟩ := folder'
  obtain rfl : entries = entries' := h
  rfl

theorem Folder.mem_put : e ∈ (folder.put file).entries ↔
    (e ∈ folder.entries ∧ e.name ≠ file.name) ∨ e = file := by
  simp [Folder.put]

theorem Folder.mem_unlink {names : List PyStr} : e ∈ (folder.unlink names).entries ↔
    e ∈ folder.entries ∧ e.name ∉ names := by
  simp [Folder.unlink]

/-- Putting the same file again changes nothing. -/
theorem Folder.put_put : (folder.put file).put file = folder.put file := by
  ext1
  simp [Folder.put, List.filter_append, List.filter_filter]

/-- Removing a name undoes a file that was put under it. -/
theorem Folder.unlink_put : (folder.put file).unlink [file.name] = folder.unlink [file.name] := by
  ext1
  simp [Folder.put, Folder.unlink, List.filter_append, List.filter_filter]

/-- A copy at the temporary name is gone once the file is in its place. -/
theorem Folder.place_put : (folder.put file.temporary).place file = folder.place file := by
  have hgone : (folder.put file.temporary).unlink [temporaryName file.name]
      = folder.unlink [temporaryName file.name] := Folder.unlink_put
  unfold Folder.place
  rw [hgone]

/-- Placing the same file again changes nothing. -/
theorem Folder.place_place : (folder.place file).place file = folder.place file := by
  have hgone : (folder.place file).unlink [temporaryName file.name] = folder.place file := by
    ext1
    refine List.filter_eq_self.mpr fun e he => ?_
    rw [decide_eq_true_eq, List.mem_singleton]
    rcases Folder.mem_put.mp he with ⟨hmem, -⟩ | rfl
    · simpa using (Folder.mem_unlink.mp hmem).2
    · exact (temporaryName_ne _).symm
  calc (folder.place file).place file
      = ((folder.place file).unlink [temporaryName file.name]).put file := rfl
    _ = (folder.place file).put file := by rw [hgone]
    _ = folder.place file := Folder.put_put

/-- What a placed file leaves: the other entries, less what stood at its temporary name. -/
theorem Folder.mem_place : e ∈ (folder.place file).entries ↔
    (e ∈ folder.entries ∧ e.name ≠ temporaryName file.name ∧ e.name ≠ file.name) ∨ e = file := by
  unfold Folder.place
  rw [Folder.mem_put, Folder.mem_unlink, List.mem_singleton, and_assoc]

theorem mem_backupFiles : e ∈ backupFiles sets folder ↔ e ∈ folder.entries ∧ e.isBackup = true := by
  unfold backupFiles
  rw [mem_newestFirst, (sets.perm _).mem_iff, List.mem_filter]

theorem nodup_order : (sets.order (folder.entries.filter (·.isBackup))).Nodup :=
  (sets.perm _).nodup_iff.mpr ((List.Nodup.of_map _ folder.names).filter _)

theorem nodup_backupFiles : (backupFiles sets folder).Nodup :=
  newestFirst_perm.nodup_iff.mpr nodup_order

/-- A backup is left exactly when it is among the first. -/
theorem mem_prune : e ∈ (pruneBackups sets keep folder).entries ↔
    e ∈ folder.entries ∧ (e.isBackup = true → e ∈ (backupFiles sets folder).take keep) := by
  have hsplit := List.take_append_drop keep (backupFiles sets folder)
  have hnodup : (backupFiles sets folder).Nodup := nodup_backupFiles
  rw [← hsplit, List.nodup_append] at hnodup
  unfold pruneBackups
  rw [Folder.mem_unlink]
  refine and_congr_right fun he => ⟨fun hname hbackup => ?_, fun htake hname => ?_⟩
  · have hmem : e ∈ backupFiles sets folder := mem_backupFiles.mpr ⟨he, hbackup⟩
    rw [← hsplit] at hmem
    rcases List.mem_append.mp hmem with htake | hdrop
    · exact htake
    · exact absurd (List.mem_map_of_mem hdrop) hname
  · -- The entry that was dropped has the name, so it is this one.
    obtain ⟨e', hdrop, heq⟩ := List.mem_map.mp hname
    have he' := mem_backupFiles.mp (List.mem_of_mem_drop hdrop)
    obtain rfl : e' = e := eq_of_key_eq folder.names he'.1 he heq
    exact hnodup.2.2 e' (htake he'.2) e' hdrop rfl

/-- At most `keep` backups are left. -/
theorem length_prune :
    ((pruneBackups sets keep folder).entries.filter (·.isBackup)).length ≤ keep := by
  have hsub : (pruneBackups sets keep folder).entries.filter (·.isBackup) ⊆
      (backupFiles sets folder).take keep := by
    intro e he
    obtain ⟨hmem, hbackup⟩ := List.mem_filter.mp he
    exact (mem_prune.mp hmem).2 hbackup
  have hnodup : ((pruneBackups sets keep folder).entries.filter (·.isBackup)).Nodup :=
    (List.Nodup.of_map _ (pruneBackups sets keep folder).names).filter _
  exact (List.subperm_of_subset hnodup hsub).length_le.trans (List.length_take_le keep _)

/-- A folder with few enough backups is left alone. -/
theorem prune_few (h : (folder.entries.filter (·.isBackup)).length ≤ keep) :
    pruneBackups sets keep folder = folder := by
  have hlength : (backupFiles sets folder).length =
      (folder.entries.filter (·.isBackup)).length := by
    unfold backupFiles
    rw [newestFirst_perm.length_eq, (sets.perm _).length_eq]
  unfold pruneBackups
  rw [List.drop_eq_nil_of_le (hlength ▸ h)]
  ext1
  simp [Folder.unlink]

/-- The backups that go are no newer than one that stays. -/
theorem prune_removed (hkept : e ∈ (backupFiles sets folder).take keep) (he' : e' ∈ folder.entries)
    (hgone : e' ∉ (pruneBackups sets keep folder).entries) : e'.isBackup = true ∧
      e'.mtime ≤ e.mtime := by
  rw [mem_prune] at hgone
  have hbackup : e'.isBackup = true := by
    by_contra hnot
    exact hgone ⟨he', fun h => absurd h hnot⟩
  refine ⟨hbackup, ?_⟩
  have hmem : e' ∈ backupFiles sets folder := mem_backupFiles.mpr ⟨he', hbackup⟩
  rw [← List.take_append_drop keep (backupFiles sets folder)] at hmem
  rcases List.mem_append.mp hmem with htake | hdrop
  · exact absurd ⟨he', fun _ => htake⟩ hgone
  · exact le_of_mem_drop_newestFirst hkept hdrop

end Folders

/-! ## Rotation -/

section Rotation

variable (sqlite : Sqlite) (sets : SetOrder FolderEntry) (settings : BackupSettings)
    (moment : BackupMoment)
  (source : List UInt8) (disk : Disk)

/-- The backup folder when the file is written, before it is pruned. -/
def writtenFolder : Folder :=
  (disk settings.backupDirectory).place (backupFile sqlite moment source)

/-- The new backup is there at the returned path with at most `keep` backups in the folder, what
went, besides a temporary file left at the new name, are backups that are no newer, and a
restore has it as its safety backup. -/
def RotationSound : Prop :=
  match createScheduledBackup sqlite sets settings moment (some source) disk with
  | (_, .error _) => False
  | (after, .ok info) =>
    info.path = (settings.backupDirectory, info.filename) ∧
    (∃ file ∈ (after settings.backupDirectory).entries, file.name = info.filename ∧
      file.isFile = true ∧
      file.data = sqlite.copy source) ∧
    ((after settings.backupDirectory).entries.filter (·.isBackup)).length ≤ settings.keep ∧
    (∀ e ∈ (disk settings.backupDirectory).entries,
      e.name ∉ (after settings.backupDirectory).entries.map (·.name) →
        e.name = temporaryName info.filename ∨ e.isBackup = true ∧ e.mtime ≤ moment.mtime) ∧
    ∀ backup, sqlite.verifySetuoraBackup backup = true →
      restoreSqliteBackupFile sqlite sets settings moment (some source) disk backup
        = (after, some backup, .ok ⟨info.path, moment.verifiedAt⟩)

/-- The backups that are ahead of the new one in the order of the pruning: those modified later,
and those modified at the same time that the set gives earlier. -/
def newerBackups : List FolderEntry :=
  ahead (·.mtime) (backupFile sqlite moment source)
    (sets.order ((writtenFolder sqlite settings moment source disk).entries.filter (·.isBackup)))

variable {sqlite sets settings moment source disk}

theorem isBackup_backupFile : (backupFile sqlite moment source).isBackup = true := by
  have hmatches : matchesPattern (backupFilename moment.stamp)
      (py "setuora-backup-", py ".db") = true := by
    unfold matchesPattern backupFilename
    simp only [Bool.and_eq_true, decide_eq_true_eq, List.isPrefixOf_iff_prefix,
      List.isSuffixOf_iff_suffix]
    refine ⟨⟨⟨moment.stamp ++ py ".db", by simp⟩, ⟨py "setuora-backup-" ++ moment.stamp, rfl⟩⟩, ?_⟩
    simp only [List.length_append]
    omega
  unfold FolderEntry.isBackup backupFilePatterns
  rw [Bool.and_eq_true]
  exact ⟨List.any_eq_true.mpr ⟨_, List.mem_cons_self, hmatches⟩, rfl⟩

/-- The new backup is kept exactly when fewer than `keep` others are ahead of it. -/
theorem backupFile_kept (keep : Nat) : backupFile sqlite moment source ∈
      (pruneBackups sets keep (writtenFolder sqlite settings moment source disk)).entries ↔
    (newerBackups sqlite sets settings moment source disk).length < keep := by
  have hmem : backupFile sqlite moment source ∈
      (writtenFolder sqlite settings moment source disk).entries :=
    Folder.mem_put.mpr (.inr rfl)
  have hbackup : (backupFile sqlite moment source).isBackup = true := isBackup_backupFile
  have horder : backupFile sqlite moment source ∈
      sets.order ((writtenFolder sqlite settings moment source disk).entries.filter (·.isBackup)) :=
    (sets.perm _).mem_iff.mpr (List.mem_filter.mpr ⟨hmem, hbackup⟩)
  rw [mem_prune]
  exact ⟨fun h => (mem_take_newestFirst nodup_order horder).mp (h.2 hbackup),
    fun h => ⟨hmem, fun _ => (mem_take_newestFirst nodup_order horder).mpr h⟩⟩

/-- Nothing stands in the way of the new file or of its temporary name. -/
def Unblocked (settings : BackupSettings) (moment : BackupMoment) (disk : Disk) : Prop :=
  ∀ directory,
    directory = settings.backupDirectory ∨ settings.backupOffsiteDirectory = some directory →
    (disk directory).blocks (backupFilename moment.stamp) = false ∧
      (disk directory).blocks (temporaryName (backupFilename moment.stamp)) = false

/-- A file put under one name stands in the way of no other name, and not of its own. -/
theorem blocks_put (folder : Folder) {file : FolderEntry} (hfile : file.isFile = true)
    (name : PyStr) :
    (folder.put file).blocks name = (decide (name ≠ file.name) && folder.blocks name) := by
  unfold Folder.blocks
  rw [Bool.eq_iff_iff, List.any_eq_true, Bool.and_eq_true, List.any_eq_true, decide_eq_true_eq]
  simp only [Bool.and_eq_true, decide_eq_true_eq, Bool.not_eq_true', Folder.mem_put]
  constructor
  · rintro ⟨e, ⟨hmem, hne⟩ | rfl, rfl, hdir⟩
    · exact ⟨hne, e, hmem, rfl, hdir⟩
    · exact absurd hfile (by simp [hdir])
  · rintro ⟨hne, e, hmem, rfl, hdir⟩
    exact ⟨e, .inl ⟨hmem, hne⟩, rfl, hdir⟩

/-- Nothing blocks a file that is in its place, nor its temporary name. -/
theorem blocks_place (folder : Folder) {file : FolderEntry} (hfile : file.isFile = true)
    (htemporary : folder.blocks (temporaryName file.name) = false) :
    (folder.place file).blocks file.name = false ∧
      (folder.place file).blocks (temporaryName file.name) = false := by
  unfold Folder.place
  rw [blocks_put _ hfile, blocks_put _ hfile]
  refine ⟨by simp, ?_⟩
  rw [Bool.and_eq_false_imp]
  intro _
  unfold Folder.blocks at htemporary ⊢
  rw [List.any_eq_false] at htemporary ⊢
  exact fun e he => htemporary e (Folder.mem_unlink.mp he).1

/-- A copy that verifies and finds its names free takes its place. -/
theorem placeFile_ok {directory : PyStr} {file : FolderEntry} (hfile : file.isFile = true)
    (hverified : sqlite.verifySqliteBackup file.data = true)
    (hname : (disk directory).blocks file.name = false)
    (htemporary : (disk directory).blocks (temporaryName file.name) = false) :
    placeFile sqlite directory file disk
      = (Function.update disk directory ((disk directory).place file), .ok ()) := by
  unfold placeFile
  dsimp only
  have hput : ((disk directory).put file.temporary).blocks file.name = false := by
    have htemporaryFile : file.temporary.isFile = true := hfile
    rw [blocks_put _ htemporaryFile, hname, Bool.and_false]
  rw [if_neg (by simp [htemporary]), if_neg (by simp [hverified]), Function.update_self,
    if_neg (by simp [hput])]
  rw [Folder.place_put]

/-- A copy whose name or temporary name is taken by a directory raises. -/
theorem placeFile_blocked {directory : PyStr} {file : FolderEntry} (hfile : file.isFile = true)
    (h : ¬ ((disk directory).blocks file.name = false ∧
      (disk directory).blocks (temporaryName file.name) = false)) :
    ∃ left e, placeFile sqlite directory file disk = (left, .error e) := by
  unfold placeFile
  dsimp only
  by_cases htemporary : (disk directory).blocks (temporaryName file.name) = true
  · rw [if_pos htemporary]
    exact ⟨_, _, rfl⟩
  · rw [if_neg htemporary]
    have hname : (disk directory).blocks file.name = true := by
      by_contra hname
      exact h ⟨by simpa using hname, by simpa using htemporary⟩
    have hput : ((disk directory).put file.temporary).blocks file.name = true := by
      have hne : file.name ≠ file.temporary.name := (temporaryName_ne file.name).symm
      have htemporaryFile : file.temporary.isFile = true := hfile
      rw [blocks_put _ htemporaryFile, hname, decide_eq_true hne]
      rfl
    split
    · exact ⟨_, _, rfl⟩
    · rw [Function.update_self, if_pos hput]
      exact ⟨_, _, rfl⟩

/-- The run of a backup that nothing blocks: the backup folder is pruned with the new file in it,
whether the off-machine folder is another one or the same. -/
theorem createScheduledBackup_spec (sets : SetOrder FolderEntry)
    (hverified : sqlite.verifySqliteBackup (sqlite.copy source) = true)
    (hfree : Unblocked settings moment disk) : ∃ after : Disk,
      after settings.backupDirectory
        = pruneBackups sets settings.keep (writtenFolder sqlite settings moment source disk) ∧
      createScheduledBackup sqlite sets settings moment (some source) disk =
        match (after settings.backupDirectory).entries.find?
          (·.name = backupFilename moment.stamp) with
        | none => (after, .error .fileNotFound)
        | some entry => (after, .ok {
            filename := backupFilename moment.stamp
            path := (settings.backupDirectory, backupFilename moment.stamp)
            sizeBytes := entry.data.length
            verifiedAt := moment.verifiedAt
            offsitePath := settings.backupOffsiteDirectory.map fun offsite =>
              (offsite, backupFilename moment.stamp) }) := by
  let file := backupFile sqlite moment source
  have hfile : file.isFile = true := rfl
  have hpass : sqlite.verifySqliteBackup file.data = true := hverified
  let stored : Disk := Function.update disk settings.backupDirectory
    (writtenFolder sqlite settings moment source disk)
  have hown := hfree settings.backupDirectory (.inl rfl)
  have hstored : placeFile sqlite settings.backupDirectory file disk = (stored, .ok ()) :=
    placeFile_ok hfile hpass hown.1 hown.2
  have hwritten : stored settings.backupDirectory
      = writtenFolder sqlite settings moment source disk :=
    Function.update_self ..
  unfold createScheduledBackup
  dsimp only
  rw [hstored]
  dsimp only
  unfold copyToOffsite
  cases hoffsite : settings.backupOffsiteDirectory with
  | none =>
    refine ⟨stored.prune sets settings settings.backupDirectory, ?_, rfl⟩
    rw [← hwritten]
    exact Function.update_self ..
  | some offsite =>
    dsimp only
    by_cases hsame : offsite = settings.backupDirectory
    · -- The copy is the file again, and the second pruning finds few enough backups.
      subst hsame
      have hput : placeFile sqlite settings.backupDirectory file stored = (stored, .ok ()) := by
        have hblocks : (stored settings.backupDirectory).blocks file.name = false ∧
            (stored settings.backupDirectory).blocks (temporaryName file.name) = false := by
          rw [hwritten]
          exact blocks_place (disk settings.backupDirectory) hfile hown.2
        have hagain : (stored settings.backupDirectory).place file
            = stored settings.backupDirectory := by
          rw [hwritten]
          exact Folder.place_place
        rw [placeFile_ok hfile hpass hblocks.1 hblocks.2, hagain, Function.update_eq_self]
      rw [hput]
      refine ⟨(stored.prune sets settings settings.backupDirectory).prune sets settings
        settings.backupDirectory, ?_, rfl⟩
      unfold Disk.prune
      rw [Function.update_self, Function.update_self, prune_few length_prune, hwritten]
    · have hother : stored offsite = disk offsite := Function.update_of_ne hsame ..
      let copied : Disk := Function.update stored offsite ((stored offsite).place file)
      have hput : placeFile sqlite offsite file stored = (copied, .ok ()) := by
        have hoff := hfree offsite (.inr hoffsite)
        rw [← hother] at hoff
        exact placeFile_ok hfile hpass hoff.1 hoff.2
      rw [hput]
      refine ⟨(copied.prune sets settings settings.backupDirectory).prune sets settings offsite,
        ?_, rfl⟩
      have hcopied : copied settings.backupDirectory = stored settings.backupDirectory :=
        Function.update_of_ne (Ne.symm hsame) ..
      unfold Disk.prune
      rw [Function.update_of_ne (Ne.symm hsame), Function.update_self, hcopied, hwritten]

/-- A backup that is blocked raises. -/
theorem createScheduledBackup_blocked (sets : SetOrder FolderEntry)
    (hverified : sqlite.verifySqliteBackup (sqlite.copy source) = true)
    (hblocked : ¬ Unblocked settings moment disk) :
    ∃ after e,
      createScheduledBackup sqlite sets settings moment (some source) disk = (after, .error e) := by
  have hfile : (backupFile sqlite moment source).isFile = true := rfl
  unfold createScheduledBackup
  dsimp only
  by_cases hown : (disk settings.backupDirectory).blocks (backupFile sqlite moment source).name
        = false ∧
      (disk settings.backupDirectory).blocks
        (temporaryName (backupFile sqlite moment source).name) = false
  · rw [placeFile_ok hfile hverified hown.1 hown.2]
    dsimp only
    -- Only the off-machine folder is left to be in the way.
    unfold Unblocked at hblocked
    push Not at hblocked
    obtain ⟨directory, hdirectory, hblocks⟩ := hblocked
    have hne : directory ≠ settings.backupDirectory := by
      rintro rfl
      exact hblocks hown.1 hown.2
    have hoffsite := hdirectory.resolve_left hne
    unfold copyToOffsite
    rw [hoffsite]
    dsimp only
    have hplace : ∃ left e, placeFile sqlite directory (backupFile sqlite moment source)
        (Function.update disk settings.backupDirectory
          ((disk settings.backupDirectory).place (backupFile sqlite moment source)))
        = (left, .error e) := by
      refine placeFile_blocked hfile ?_
      rw [Function.update_of_ne hne]
      exact fun h => hblocks h.1 h.2
    obtain ⟨left, e, hplace⟩ := hplace
    rw [hplace]
    exact ⟨_, _, rfl⟩
  · obtain ⟨left, e, hplace⟩ := placeFile_blocked hfile hown
    rw [hplace]
    exact ⟨_, _, rfl⟩

/-- A run that returns has found the new file in the pruned folder. -/
theorem find_pruned (keep : Nat) :
    ((pruneBackups sets keep (writtenFolder sqlite settings moment source disk)).entries.find?
      (·.name = backupFilename moment.stamp)) =
      if (newerBackups sqlite sets settings moment source disk).length < keep
      then some (backupFile sqlite moment source) else none := by
  split
  next hkept =>
    have hmem := (backupFile_kept keep).mpr hkept
    cases hfind :
      (pruneBackups sets keep (writtenFolder sqlite settings moment source disk)).entries.find?
        (·.name = backupFilename moment.stamp) with
    | none =>
      exact absurd (decide_eq_true rfl) (List.find?_eq_none.mp hfind _ hmem)
    | some e =>
      have hname : e.name = backupFilename moment.stamp := by simpa using List.find?_some hfind
      have he := List.mem_of_find?_eq_some hfind
      rw [eq_of_key_eq
        (pruneBackups sets keep (writtenFolder sqlite settings moment source disk)).names he
        hmem hname]
  next hgone =>
    refine List.find?_eq_none.mpr fun e he => ?_
    intro hname
    have hname : e.name = backupFilename moment.stamp := by simpa using hname
    have hwritten : e ∈ (writtenFolder sqlite settings moment source disk).entries :=
      (mem_prune.mp he).1
    rcases Folder.mem_put.mp hwritten with ⟨-, hne⟩ | rfl
    · exact hne hname
    · exact hgone ((backupFile_kept keep).mp he)

end Rotation

/-- The rotation is as promised exactly when nothing blocks the new file and fewer backups than
are kept are ahead of it: modified later than it, or at the same time and earlier in the set. -/
theorem rotation_sound_iff {sqlite : Sqlite} {source : List UInt8} (sets : SetOrder FolderEntry)
    (settings : BackupSettings) (moment : BackupMoment) (disk : Disk)
    (hverified : sqlite.verifySqliteBackup (sqlite.copy source) = true) :
    RotationSound sqlite sets settings moment source disk ↔
      Unblocked settings moment disk ∧
        (newerBackups sqlite sets settings moment source disk).length < settings.keep := by
  unfold RotationSound
  by_cases hfree : Unblocked settings moment disk
  · obtain ⟨after, hafter, hrun⟩ := createScheduledBackup_spec sets hverified hfree
    rw [hafter, find_pruned] at hrun
    by_cases hkept : (newerBackups sqlite sets settings moment source disk).length < settings.keep
    · rw [if_pos hkept] at hrun
      have hmem := (backupFile_kept settings.keep).mpr hkept
      have hfirst := (mem_prune.mp hmem).2 isBackup_backupFile
      rw [hrun]
      refine ⟨fun _ => ⟨hfree, hkept⟩, fun _ => ⟨rfl, ?_, ?_, ?_, ?_⟩⟩
      · rw [hafter]
        exact ⟨backupFile sqlite moment source, hmem, rfl, rfl, rfl⟩
      · rw [hafter]
        exact length_prune
      · intro e he hname
        rw [hafter] at hname
        -- An entry whose name is gone was not the one that the new file replaces.
        have hne : e.name ≠ backupFilename moment.stamp :=
          fun heq => hname (List.mem_map.mpr ⟨backupFile sqlite moment source, hmem, heq.symm⟩)
        by_cases htemporary : e.name = temporaryName (backupFilename moment.stamp)
        · exact .inl htemporary
        · have hwritten : e ∈ (writtenFolder sqlite settings moment source disk).entries :=
            Folder.mem_place.mpr (.inl ⟨he, htemporary, hne⟩)
          exact .inr (prune_removed hfirst hwritten fun hin => hname (List.mem_map_of_mem hin))
      · intro backup hbackup
        unfold restoreSqliteBackupFile
        rw [if_neg (by simp), if_neg (by simp [hbackup]), hrun]
    · rw [if_neg hkept] at hrun
      rw [hrun]
      exact ⟨fun h => h.elim, fun h => absurd h.2 hkept⟩
  · obtain ⟨after, e, hrun⟩ := createScheduledBackup_blocked sets hverified hfree
    rw [hrun]
    exact ⟨fun h => h.elim, fun h => absurd h.1 hfree⟩

/-- An empty database file, which SQLite copies and checks as it is. -/
def emptySqlite : Sqlite where
  copy data := data
  verifySqliteBackup data := data.isEmpty
  verifySetuoraBackup _ := false

/-- A set that is gone through as it was filled. -/
def filledOrder : SetOrder FolderEntry := ⟨id, List.Perm.refl⟩

/-- A backup folder with one backup, modified at `mtime`. -/
def oneBackup (mtime : Int) : Disk := fun directory =>
  if directory = py "backups" then
    ⟨[⟨py "setuora-backup-20260709-153824-133945.db", true, mtime, []⟩], List.nodup_singleton _⟩
  else ⟨[], List.nodup_nil⟩

def oneBackupSettings : BackupSettings := ⟨py "backups", none, 1⟩

def laterMoment : BackupMoment := ⟨py "20260710-090000-000000", 100, 101⟩

theorem rotation_sound_older :
    RotationSound emptySqlite filledOrder oneBackupSettings laterMoment [] (oneBackup 50) :=
  have hfree : Unblocked oneBackupSettings laterMoment (oneBackup 50) := by
    intro directory hdirectory
    rcases hdirectory with rfl | h
    · decide +kernel
    · cases h
  (rotation_sound_iff filledOrder oneBackupSettings laterMoment (oneBackup 50) rfl).mpr
    ⟨hfree, by decide +kernel⟩

/-- The kept backup has a modification time in the future; the new backup is discarded. -/
theorem rotation_discards_new :
    ((createScheduledBackup emptySqlite filledOrder oneBackupSettings laterMoment (some [])
      (oneBackup 500)).1
      (py "backups")).entries = (oneBackup 500 (py "backups")).entries ∧
    ¬ RotationSound emptySqlite filledOrder oneBackupSettings laterMoment [] (oneBackup 500) := by
  refine ⟨by decide +kernel, fun h => ?_⟩
  have hraises :
      (createScheduledBackup emptySqlite filledOrder oneBackupSettings laterMoment (some [])
      (oneBackup 500)).2.isOk = false := by decide +kernel
  unfold RotationSound at h
  generalize createScheduledBackup emptySqlite filledOrder oneBackupSettings laterMoment (some [])
    (oneBackup 500) = out at h hraises
  obtain ⟨after, result⟩ := out
  cases result with
  | error e => exact h
  | ok info => cases hraises

end SetuoraLite
