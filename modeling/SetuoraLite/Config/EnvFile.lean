import Mathlib.Data.List.Infix
import Mathlib.Data.List.Sort
import SetuoraLite.Lib.Json
import SetuoraLite.Lib.Lines
import SetuoraLite.Store.Writes

/-!
# Settings files

`_read_env_file` and the three writers of files it reads: the connection to Master,
the connection to the SFTP server, and the backup settings, which are written into
the lines of the file that is there. A file is its text, `none` when there is none.

The reader strips, takes one pair of quotes off and undoes two escapes; a writer of a
connection writes the value as it is, the writer of the backup settings puts quotes
around a value with white space and escapes nothing. So a value comes back if the line
carries it (`ConnectionTextCarried`, `BackupTextCarried`), which is the condition of
`settings_files_round_trip`.
-/

namespace SetuoraLite

open Lib

/-! ## The reader -/

/-- A dict from keys to texts. -/
abbrev EnvValues := PyStr → Option PyStr

/-- The byte order mark. -/
def bom : CodePoint := Fin.ofNat 0x110000 0xFEFF

def singleQuote : CodePoint := Fin.ofNat 0x110000 39

/-- A stripped line that assigns a key. -/
def Assigns (line : PyStr) : Prop := line ≠ [] ∧ line.head? ≠ some (cp '#') ∧ cp '=' ∈ line

instance (line : PyStr) : Decidable (Assigns line) := inferInstanceAs (Decidable (_ ∧ _))

/-- The key of a stripped line. -/
def assignedKey (line : PyStr) : PyStr :=
  let key := (strip (line.takeWhile fun c => c ≠ cp '=')).dropWhile fun c => c == bom
  if (py "export ").isPrefixOf key then strip (key.drop 7) else key

/-- `re.sub(r'\\(["\\])', r"\1", value)`. -/
def unescape : PyStr → PyStr
  | [] => []
  | [c] => [c]
  | c :: d :: cs =>
    if c = cp '\\' ∧ (d = cp '"' ∨ d = cp '\\') then d :: unescape cs else c :: unescape (d :: cs)

/-- The text stands between two of these quotes. -/
def Wrapped (quote : CodePoint) (value : PyStr) : Prop :=
  2 ≤ value.length ∧ value.head? = some quote ∧ value.getLast? = some quote

instance (quote : CodePoint) (value : PyStr) : Decidable (Wrapped quote value) :=
  inferInstanceAs (Decidable (_ ∧ _))

/-- What the reader makes of a stripped value. -/
def unquote (value : PyStr) : PyStr :=
  -- Only the escapes that the Windows environment writer emits are decoded.
  if Wrapped (cp '"') value then unescape (value.drop 1).dropLast
  else if Wrapped singleQuote value then (value.drop 1).dropLast
  else value

/-- One round of `_read_env_file`: the key and the value of a line that counts. -/
def readEnvLine (allowedKeys : Option (List PyStr)) (rawLine : PyStr) : Option (PyStr × PyStr) :=
  let line := strip rawLine
  if ¬ Assigns line then none
  else
    let key := assignedKey line
    if key = [] ∨ (∃ allowed ∈ allowedKeys, key ∉ allowed) then none
    else some (key, unquote (strip ((line.dropWhile fun c => c ≠ cp '=').drop 1)))

/-- `values[key] = value` for a line that counts. -/
def storeLine (allowedKeys : Option (List PyStr)) (values : EnvValues) (rawLine : PyStr) :
    EnvValues :=
  match readEnvLine allowedKeys rawLine with
  | some (key, value) => Function.update values key (some value)
  | none => values

/-- The loop of `_read_env_file`. -/
def readEnvLines (allowedKeys : Option (List PyStr)) (lines : List PyStr) : EnvValues :=
  lines.foldl (storeLine allowedKeys) fun _ => none

/-- `_read_env_file`. -/
def readEnvFile (allowedKeys : Option (List PyStr)) : Option PyStr → EnvValues
  | none => fun _ => none
  | some text => readEnvLines allowedKeys (splitlines (universalNewlines text))

/-! ## The connection files -/

/-- A dict that is written: each key once. -/
structure EnvDict where
  items : List (PyStr × PyStr)
  keysNodup : (items.map Prod.fst).Nodup

/-- The value of a key of the dictionary. -/
def EnvDict.get (values : EnvDict) : EnvValues := fun key =>
  (lookup Prod.fst key values.items).map Prod.snd

/-- `MASTER_CONNECTION_RUNTIME_ENV_KEYS`. -/
def masterConnectionRuntimeEnvKeys : List PyStr :=
  [py "FRANCHISE_CODE", py "MASTER_SYNC_ENABLED", py "MASTER_URL", py "MASTER_API_KEY",
   py "MASTER_SYNC_INTERVAL_SECONDS", py "MASTER_REQUEST_TIMEOUT_SECONDS", py "MASTER_TLS_VERIFY"]

/-- `SFTP_CONNECTION_RUNTIME_ENV_KEYS`. -/
def sftpConnectionRuntimeEnvKeys : List PyStr :=
  [py "FRANCHISE_CODE", py "SFTP_SYNC_ENABLED", py "SFTP_HOST", py "SFTP_PORT", py "SFTP_USERNAME",
   py "SFTP_PASSWORD", py "SFTP_HOST_KEY_SHA256", py "SFTP_SYNC_INTERVAL_SECONDS",
   py "SFTP_CONNECT_TIMEOUT_SECONDS", py "SFTP_MAX_XML_BYTES"]

/-- `\n` or `\r` in a text. -/
def hasLineEnd (value : PyStr) : Bool := value.any fun c => c == cp '\n' || c == cp '\r'

/-- `sorted(texts)`. -/
def sortedKeys (texts : List PyStr) : List PyStr := texts.insertionSort fun a b => strLe a b = true

/-- `key=value`. -/
def envLine (key text : PyStr) : PyStr := key ++ py "=" ++ text

/-- The writer of a connection file; the result is the file's new text. -/
def saveConnectionSettings (name : PyStr) (allowedKeys : List PyStr) (values : EnvDict) :
    Except PyError PyStr :=
  let unexpected := (values.items.map Prod.fst).filter fun key => key ∉ allowedKeys
  if unexpected ≠ [] then
    .error ⟨.value, py "Unsupported " ++ name ++ py " setting(s): " ++
      joinWith (py ", ") (sortedKeys unexpected)⟩
  else if values.items.any (fun e => hasLineEnd e.2) then
    .error ⟨.value, name ++ py " settings cannot contain line breaks."⟩
  else
    let content := writeLines
      ((values.items.insertionSort fun a b => strLe a.1 b.1 = true).map fun e => envLine e.1 e.2)
    if encodable [content] = false then .error .unicodeEncode else .ok content

/-- `save_master_connection_settings`. -/
def saveMasterConnectionSettings (values : EnvDict) : Except PyError PyStr :=
  saveConnectionSettings (py "Master") masterConnectionRuntimeEnvKeys values

/-- `save_sftp_connection_settings`. -/
def saveSftpConnectionSettings (values : EnvDict) : Except PyError PyStr :=
  saveConnectionSettings (py "SFTP") sftpConnectionRuntimeEnvKeys values

/-! ## The backup settings -/

/-- `BACKUP_ENV_KEYS`. -/
def backupEnvKeys : List PyStr :=
  [py "AUTOMATIC_BACKUPS_ENABLED", py "BACKUP_DIRECTORY", py "BACKUP_OFFSITE_DIRECTORY",
   py "BACKUP_INTERVAL_MINUTES", py "BACKUP_RETENTION_COUNT"]

/-- `LEGACY_BACKUP_ENV_KEYS`: dropped from the settings file on save. -/
def legacyBackupEnvKeys : List PyStr := [py "BACKUP_INTERVAL_HOURS"]

/-- The values that `_persist_env_values` is called with, one for each key. -/
structure BackupValues where
  automaticBackupsEnabled : PyStr
  backupDirectory : PyStr
  backupOffsiteDirectory : PyStr
  backupIntervalMinutes : PyStr
  backupRetentionCount : PyStr
deriving DecidableEq

/-- The five texts of the settings. -/
def BackupValues.texts (values : BackupValues) : List PyStr :=
  [values.automaticBackupsEnabled, values.backupDirectory, values.backupOffsiteDirectory,
   values.backupIntervalMinutes, values.backupRetentionCount]

/-- The settings under their keys. -/
def BackupValues.items (values : BackupValues) : List (PyStr × PyStr) :=
  backupEnvKeys.zip values.texts

def BackupValues.get (values : BackupValues) : EnvValues := fun key =>
  (lookup Prod.fst key values.items).map Prod.snd

/-- `_env_line_key`. -/
def envLineKey (rawLine : PyStr) : Option PyStr :=
  let line := strip rawLine
  if ¬ Assigns line then none
  else if assignedKey line = [] then none
  else some (assignedKey line)

/-- `_format_env_value`. -/
def formatEnvValue (value : PyStr) : Except PyError PyStr :=
  if hasLineEnd value = true then .error ⟨.value, py "Backup settings cannot contain line breaks."⟩
  else if cp '"' ∈ value then .error ⟨.value, py "Backup settings cannot contain double quotes."⟩
  else if value = [] then .ok []
  else if strip value ≠ value ∨ value.any isSpace = true then .ok (py "\"" ++ value ++ py "\"")
  else .ok value

/-- The line of a key with its new value. -/
def formattedLine (key value : PyStr) : Except PyError PyStr := do
  let text ← formatEnvValue value
  return envLine key text

/-- What becomes of one line of the file. -/
def rewriteLine (values : BackupValues) (rawLine : PyStr) : Except PyError (List PyStr) :=
  match envLineKey rawLine with
  | none => .ok [rawLine]
  | some key =>
    if key ∈ legacyBackupEnvKeys then .ok []
    else
      match values.get key with
      | some value => do
        let line ← formattedLine key value
        return [line]
      | none => .ok [rawLine]

/-- `_persist_env_values`; the result is the file's new text. -/
def persistEnvValues (file : Option PyStr) (values : BackupValues) : Except PyError PyStr := do
  let lines := match file with
    | none => []
    | some text => splitlines (universalNewlines text)
  let seen := lines.filterMap envLineKey
  let output := (← lines.mapM (rewriteLine values)).flatten
  let blank := match output.getLast? with
    | some last => if strip last ≠ [] then [[]] else []
    | none => []
  let missing ← (values.items.filter fun e => e.1 ∉ seen).mapM fun e => formattedLine e.1 e.2
  let content := rstrip (joinWith (py "\n") (output ++ blank ++ missing)) ++ py "\n"
  if encodable [content] = false then .error .unicodeEncode else .ok content

/-! ## What a line carries -/

/-- A value that comes back from a line where it stands as it is. -/
structure ConnectionTextCarried (value : PyStr) : Prop where
  stripped : strip value = value
  oneLine : BreakFree value
  noQuotes : ¬ Wrapped (cp '"') value ∧ ¬ Wrapped singleQuote value

/-- A value that comes back from a line of the backup settings: with white space it stands
between quotes, where two backslashes in a row are read as one; without, single quotes
around it are taken off. -/
def BackupTextCarried (value : PyStr) : Prop :=
  if value.any isSpace = true then BreakFree value ∧ ¬ py "\\\\" <:+: value
  else ¬ Wrapped singleQuote value

/-! ## Reading one line -/

/-- A text without a quote and without two backslashes in a row reads back as it is. -/
theorem unescape_carried : ∀ {value : PyStr}, cp '"' ∉ value → ¬ py "\\\\" <:+: value →
    unescape value = value
  | [], _, _ => rfl
  | [c], _, _ => rfl
  | c :: d :: cs, hq, hb => by
    have hpair : ¬ (c = cp '\\' ∧ (d = cp '"' ∨ d = cp '\\')) := by
      rintro ⟨rfl, rfl | rfl⟩
      · exact hq (List.mem_cons_of_mem _ List.mem_cons_self)
      · exact hb ⟨[], cs, rfl⟩
    have htail : ¬ py "\\\\" <:+: d :: cs := by
      rintro ⟨front, back, h⟩
      exact hb ⟨c :: front, back, by rw [List.cons_append, List.cons_append, h]⟩
    unfold unescape
    rw [if_neg hpair, unescape_carried (fun h => hq (List.mem_cons_of_mem _ h)) htail]

/-- Letters, digits and the underscore. -/
def plainKey (key : PyStr) : Bool :=
  !key.isEmpty && key.all fun c =>
    (65 ≤ c.val && c.val ≤ 90) || (48 ≤ c.val && c.val ≤ 57) || c.val == 95

/-- The keys of the connection settings are plain. -/
theorem plainKey_connection :
    (masterConnectionRuntimeEnvKeys ++ sftpConnectionRuntimeEnvKeys ++ backupEnvKeys).all
        plainKey = true := by
  decide +kernel

/-- What a code point of a plain key is not. -/
theorem plainKey_mem {key : PyStr} (h : plainKey key = true) {c : CodePoint} (hc : c ∈ key) :
    isSpace c = false ∧ isLineBreak c = false ∧ c ≠ cp '=' ∧ c ≠ cp '#' ∧ c ≠ bom ∧ c ≠ cp 'e' := by
  have hall : (65 ≤ c.val ∧ c.val ≤ 90) ∨ (48 ≤ c.val ∧ c.val ≤ 57) ∨ c.val = 95 := by
    have := List.all_eq_true.mp (Bool.and_eq_true_iff.mp h).2 c hc
    simpa [Bool.or_eq_true, or_assoc] using this
  have hne : ∀ d : CodePoint, (d.val < 48 ∨ 95 < d.val ∨ (57 < d.val ∧ d.val < 65)) → c ≠ d := by
    rintro d hd rfl
    omega
  have hspace : isSpace c = false := by
    unfold isSpace
    simp only [Bool.or_eq_false_iff, Bool.and_eq_false_iff, decide_eq_false_iff_not,
      beq_eq_false_iff_ne]
    omega
  refine ⟨hspace, ?_, ?_, ?_, ?_, ?_⟩
  · rw [Bool.eq_false_iff]
    intro hbreak
    rw [isSpace_of_isLineBreak hbreak] at hspace
    cases hspace
  · exact hne _ (by decide)
  · exact hne _ (by decide)
  · exact hne _ (by decide)
  · exact hne _ (by decide)

/-- A text without white space is its own strip. -/
theorem strip_of_all {s : PyStr} (h : ∀ c ∈ s, isSpace c = false) : strip s = s := by
  have hdrop : s.dropWhile isSpace = s := by
    cases s with
    | nil => rfl
    | cons c s => exact List.dropWhile_cons_of_neg (by simp [h c List.mem_cons_self])
  unfold strip
  rw [hdrop]
  cases s using List.reverseRecOn with
  | nil => rfl
  | append_singleton s c =>
    exact List.rdropWhile_concat_neg
      _ _ _ (by simp [h c (List.mem_append_right _ List.mem_cons_self)])

/-- The end of a stripped text is stripped. -/
theorem rstrip_of_strip {s : PyStr} (h : strip s = s) : rstrip s = s := by
  have hidem : rstrip (strip s) = strip s := List.rdropWhile_idempotent _ _
  rwa [h] at hidem

/-- A line whose key is plain and whose value is stripped is stripped. -/
theorem strip_envLine {key text : PyStr} (hkey : plainKey key = true) (htext : strip text = text) :
    strip (envLine key text) = envLine key text := by
  have hne : key ≠ [] := by
    rintro rfl
    cases hkey
  obtain ⟨c, cs, rfl⟩ := List.exists_cons_of_ne_nil hne
  have hc := (plainKey_mem hkey List.mem_cons_self).1
  have hend : rstrip (py "=" ++ text) = py "=" ++ text := by
    by_cases hall : ∀ d ∈ text, isSpace d = true
    · have hnil : text = [] := by
        unfold strip at htext
        rwa [List.dropWhile_eq_nil_iff.mpr hall, eq_comm] at htext
      rw [hnil]
      decide
    · rw [rstrip_append_of_not hall, rstrip_of_strip htext]
  have hnot : ¬ ∀ d ∈ py "=" ++ text, isSpace d = true := by
    intro hall
    have := hall (cp '=') (List.mem_append_left _ (by decide))
    exact absurd this (by decide)
  have hstart : (envLine (c :: cs) text).dropWhile isSpace = envLine (c :: cs) text := by
    unfold envLine
    rw [List.append_assoc, List.cons_append]
    exact List.dropWhile_cons_of_neg (by simp [hc])
  unfold strip
  rw [hstart]
  show rstrip (envLine (c :: cs) text) = _
  unfold envLine
  rw [List.append_assoc, rstrip_append_of_not hnot, hend]

/-- A written line splits at its first equals sign. -/
theorem envLine_parts {key : PyStr} (hkey : plainKey key = true) (text : PyStr) :
    (envLine key text).takeWhile (fun c => c ≠ cp '=') = key ∧
      ((envLine key text).dropWhile fun c => c ≠ cp '=').drop 1 = text := by
  have hall : ∀ c ∈ key, decide (c ≠ cp '=') = true := fun c hc => by
    simpa using (plainKey_mem hkey hc).2.2.1
  unfold envLine
  rw [List.append_assoc, List.takeWhile_append_of_pos hall, List.dropWhile_append_of_pos hall]
  have hsep : py "=" ++ text = cp '=' :: text := rfl
  rw [hsep]
  simp

/-- A written line assigns its key. -/
theorem assignedKey_envLine {key : PyStr} (hkey : plainKey key = true) (text : PyStr) :
    assignedKey (envLine key text) = key := by
  have hne : key ≠ [] := by
    rintro rfl
    cases hkey
  obtain ⟨c, cs, rfl⟩ := List.exists_cons_of_ne_nil hne
  obtain ⟨-, -, -, -, hbom, he⟩ := plainKey_mem hkey List.mem_cons_self
  have hstrip : strip (c :: cs) = c :: cs := strip_of_all fun d hd => (plainKey_mem hkey hd).1
  have hlead : (py "export ").isPrefixOf (c :: cs) = false := by
    have hhead : py "export " = cp 'e' :: py "xport " := by decide
    rw [hhead, List.isPrefixOf_cons_cons]
    simp [he.symm]
  unfold assignedKey
  rw [(envLine_parts hkey text).1, hstrip, List.dropWhile_cons_of_neg (by simp [hbom])]
  dsimp only
  rw [hlead]
  rfl

/-- A line of a plain key reads as the key with the value taken out of its quotes. -/
theorem readEnvLine_envLine {key text : PyStr} {allowedKeys : Option (List PyStr)}
    (hkey : plainKey key = true) (hallowed : ∀ allowed ∈ allowedKeys, key ∈ allowed)
    (htext : strip text = text) :
    readEnvLine allowedKeys (envLine key text) = some (key, unquote text) := by
  have hne : key ≠ [] := by
    rintro rfl
    cases hkey
  have hassigns : Assigns (envLine key text) := by
    obtain ⟨c, cs, rfl⟩ := List.exists_cons_of_ne_nil hne
    refine ⟨by simp [envLine], ?_, ?_⟩
    · intro h
      exact (plainKey_mem hkey List.mem_cons_self).2.2.2.1 (Option.some.inj h)
    · exact List.mem_append_left _ (List.mem_append_right _ (by decide))
  have hrefused : ¬ (key = [] ∨ ∃ allowed ∈ allowedKeys, key ∉ allowed) := by
    rintro (h | ⟨allowed, hmem, hnot⟩)
    · exact hne h
    · exact hnot (hallowed allowed hmem)
  unfold readEnvLine
  rw [strip_envLine hkey htext]
  dsimp only
  rw [if_neg (not_not.mpr hassigns), assignedKey_envLine hkey, if_neg hrefused,
    (envLine_parts hkey text).2, htext]

/-- White space at the end of a line does not matter. -/
theorem readEnvLine_rstrip (allowedKeys : Option (List PyStr)) (rawLine : PyStr) :
    readEnvLine allowedKeys (rstrip rawLine) = readEnvLine allowedKeys rawLine := by
  unfold readEnvLine
  rw [strip_rstrip]

theorem readEnvLine_blank (allowedKeys : Option (List PyStr)) {rawLine : PyStr}
    (h : strip rawLine = []) :
    readEnvLine allowedKeys rawLine = none := by
  unfold readEnvLine
  rw [h]
  rfl

/-! ## Reading lines -/

section Lines

variable {allowedKeys : Option (List PyStr)} {key : PyStr}

/-- A line that does not set the key keeps its value. -/
theorem storeLine_of_ne {values : EnvValues} {rawLine : PyStr}
    (h : ∀ value, readEnvLine allowedKeys rawLine ≠ some (key, value)) :
    storeLine allowedKeys values rawLine key = values key := by
  unfold storeLine
  cases hline : readEnvLine allowedKeys rawLine with
  | none => rfl
  | some e =>
    have hne : key ≠ e.1 := by
      intro he
      exact h e.2 (by rw [hline, he])
    exact Function.update_of_ne hne _ _

/-- A line that sets the key sets its value. -/
theorem storeLine_of_eq {values : EnvValues} {rawLine value : PyStr}
    (h : readEnvLine allowedKeys rawLine = some (key, value)) :
    storeLine allowedKeys values rawLine key = some value := by
  unfold storeLine
  rw [h]
  exact Function.update_self key (some value) values

/-- What a line leaves under a key depends on what was under the key. -/
theorem storeLine_congr {values values' : EnvValues} (h : values key = values' key)
    (rawLine : PyStr) :
    storeLine allowedKeys values rawLine key = storeLine allowedKeys values' rawLine key := by
  by_cases hline : ∃ value, readEnvLine allowedKeys rawLine = some (key, value)
  · obtain ⟨value, hline⟩ := hline
    rw [storeLine_of_eq hline, storeLine_of_eq hline]
  · have hne : ∀ value, readEnvLine allowedKeys rawLine ≠ some (key, value) := fun value h =>
      hline ⟨value, h⟩
    rw [storeLine_of_ne hne, storeLine_of_ne hne, h]

/-- Lines that do not name the key leave what was under it. -/
theorem foldl_storeLine_of_ne {lines : List PyStr}
    (h : ∀ line ∈ lines, ∀ value, readEnvLine allowedKeys line ≠ some (key, value))
    (values : EnvValues) :
    lines.foldl (storeLine allowedKeys) values key = values key := by
  induction lines generalizing values with
  | nil => rfl
  | cons line lines ih =>
    rw [List.foldl_cons, ih fun l hl => h l (List.mem_cons_of_mem _ hl)]
    exact storeLine_of_ne (h line List.mem_cons_self)

/-- Lines that name the key with one value, at least one of them, leave that value. -/
theorem foldl_storeLine_of_eq {lines : List PyStr} {value : PyStr}
    (hall : ∀ line ∈ lines, ∀ v, readEnvLine allowedKeys line = some (key, v) → v = value)
    (hex : ∃ line ∈ lines, readEnvLine allowedKeys line = some (key, value)) (values : EnvValues) :
    lines.foldl (storeLine allowedKeys) values key = some value := by
  induction lines generalizing values with
  | nil =>
    obtain ⟨line, hline, -⟩ := hex
    exact absurd hline List.not_mem_nil
  | cons line lines ih =>
    have hrest : ∀ l ∈ lines, ∀ v, readEnvLine allowedKeys l = some (key, v) → v = value :=
      fun l hl => hall l (List.mem_cons_of_mem _ hl)
    rw [List.foldl_cons]
    by_cases hlater : ∃ l ∈ lines, readEnvLine allowedKeys l = some (key, value)
    · exact ih hrest hlater _
    · -- The first line is the last one with the key.
      have hnone : ∀ l ∈ lines, ∀ v, readEnvLine allowedKeys l ≠ some (key, v) := by
        intro l hl v hv
        obtain rfl := hrest l hl v hv
        exact hlater ⟨l, hl, hv⟩
      rw [foldl_storeLine_of_ne hnone]
      obtain ⟨l, hl, hv⟩ := hex
      rcases List.mem_cons.mp hl with rfl | hl
      · exact storeLine_of_eq hv
      · exact absurd hv (hnone l hl value)

/-- Blank lines and white space at the end of the text change nothing. -/
theorem readEnvLines_rstrip_join {lines : List PyStr} (h : ∀ line ∈ lines, BreakFree line) :
    readEnvLines allowedKeys (splitlines (rstrip (joinWith (py "\n") lines) ++ py "\n")) =
      readEnvLines allowedKeys lines := by
  have hskip : ∀ (blank : List PyStr) (values : EnvValues), (∀ line ∈ blank, strip line = []) →
      blank.foldl (storeLine allowedKeys) values = values := by
    intro blank values hblank
    funext k
    apply foldl_storeLine_of_ne
    intro line hline value hvalue
    rw [readEnvLine_blank _ (hblank line hline)] at hvalue
    cases hvalue
  have hlast : ∀ (values : EnvValues) (last : PyStr),
      storeLine allowedKeys values (rstrip last) = storeLine allowedKeys values last := by
    intro values last
    unfold storeLine
    rw [readEnvLine_rstrip]
  obtain ⟨kept, blank, hblank, ⟨hlines, hsplit, hkept⟩ | ⟨last, hlines, hsplit⟩⟩ :=
    splitlines_rstrip_join h
  · subst hkept
    rw [hsplit, hlines, List.nil_append]
    unfold readEnvLines
    rw [hskip blank _ hblank, hskip [[]] _ (by decide)]
  · rw [hsplit, hlines]
    unfold readEnvLines
    rw [List.foldl_append, List.foldl_append, List.foldl_cons, List.foldl_cons,
      hskip blank _ hblank]
    exact hlast _ _

end Lines

/-- Reading with a list of keys reads line by line. -/
theorem readEnvFile_some (allowedKeys : Option (List PyStr)) (text : PyStr) :
    readEnvFile allowedKeys (some text) = readEnvLines allowedKeys (splitlines text) := by
  show readEnvLines allowedKeys (splitlines (universalNewlines text)) = _
  rw [splitlines_universalNewlines]

theorem breakFree_envLine {key text : PyStr} (hkey : plainKey key = true) (htext : BreakFree text) :
    BreakFree (envLine key text) := by
  intro c hc
  rcases List.mem_append.mp hc with hc | hc
  · rcases List.mem_append.mp hc with hc | hc
    · exact (plainKey_mem hkey hc).2.1
    · rw [List.mem_singleton.mp (show c ∈ [cp '='] from hc)]
      decide
  · exact htext c hc

/-! ## The connection files -/

theorem unquote_plain {value : PyStr}
    (h : ¬ Wrapped (cp '"') value ∧ ¬ Wrapped singleQuote value) : unquote value = value := by
  unfold unquote
  rw [if_neg h.1, if_neg h.2]

theorem EnvDict.get_of_mem (values : EnvDict) {e : PyStr × PyStr} (h : e ∈ values.items) :
    values.get e.1 = some e.2 := by
  unfold EnvDict.get
  rw [lookup_of_mem values.keysNodup h]
  rfl

theorem EnvDict.get_none (values : EnvDict) {key : PyStr} (h : ∀ e ∈ values.items, e.1 ≠ key) :
    values.get key = none := by
  unfold EnvDict.get
  rw [lookup_none.mpr h]
  rfl

/-- What a connection writer leaves reads as the values it was given. -/
theorem saveConnectionSettings_read {name text : PyStr} {allowed : List PyStr} {values : EnvDict}
    (hplain : ∀ key ∈ allowed, plainKey key = true)
    (h : saveConnectionSettings name allowed values = .ok text)
    (hcarried : ∀ e ∈ values.items, ConnectionTextCarried e.2) {allowedKeys : Option (List PyStr)}
    (hallowed : ∀ keys ∈ allowedKeys, allowed ⊆ keys) :
    readEnvFile allowedKeys (some text) = values.get := by
  unfold saveConnectionSettings at h
  dsimp only at h
  -- The checks of the source are passed, one after another.
  by_cases hunexpected : (values.items.map Prod.fst).filter (fun key => key ∉ allowed) ≠ []
  · rw [if_pos hunexpected] at h
    cases h
  rw [if_neg hunexpected] at h
  by_cases hends : (values.items.any fun e => hasLineEnd e.2) = true
  · rw [if_pos hends] at h
    cases h
  rw [if_neg hends] at h
  -- The lines are written by key; which comes first does not matter for a reader of one key.
  set sorted := values.items.insertionSort fun a b => strLe a.1 b.1 = true with hsorted
  have hmem : ∀ e, e ∈ sorted ↔ e ∈ values.items := fun e =>
    (List.perm_insertionSort _ values.items).mem_iff
  have hkey : ∀ e ∈ values.items, e.1 ∈ allowed := by
    intro e he
    have hnil := not_not.mp hunexpected
    by_contra hnot
    have := List.filter_eq_nil_iff.mp hnil e.1 (List.mem_map_of_mem he)
    simp [hnot] at this
  by_cases hencode : encodable [writeLines (sorted.map fun e => envLine e.1 e.2)] = false
  · rw [if_pos hencode] at h
    cases h
  rw [if_neg hencode] at h
  obtain rfl := Except.ok.inj h
  have hfree : ∀ line ∈ sorted.map (fun e => envLine e.1 e.2), BreakFree line := by
    intro line hline
    obtain ⟨e, he, rfl⟩ := List.mem_map.mp hline
    have he := (hmem e).mp he
    exact breakFree_envLine (hplain _ (hkey e he)) (hcarried e he).oneLine
  have hread : ∀ e ∈ values.items, readEnvLine allowedKeys (envLine e.1 e.2) = some (e.1, e.2) := by
    intro e he
    rw [readEnvLine_envLine (hplain _ (hkey e he)) (fun keys hk => hallowed keys hk (hkey e he))
      (hcarried e he).stripped, unquote_plain (hcarried e he).noQuotes]
  rw [readEnvFile_some, splitlines_writeLines hfree]
  -- A key that was saved is read from its line, every other key from none.
  funext key
  by_cases hex : ∃ e ∈ values.items, e.1 = key
  · obtain ⟨e, he, rfl⟩ := hex
    rw [values.get_of_mem he]
    apply foldl_storeLine_of_eq
    · intro line hline v hv
      obtain ⟨e', he', rfl⟩ := List.mem_map.mp hline
      have he' := (hmem e').mp he'
      rw [hread e' he'] at hv
      obtain ⟨hk, rfl⟩ := Prod.mk.inj (Option.some.inj hv)
      rw [eq_of_key_eq values.keysNodup he' he hk]
    · exact ⟨_, List.mem_map_of_mem ((hmem e).mpr he), hread e he⟩
  · have hnone : ∀ e ∈ values.items, e.1 ≠ key := fun e he hk => hex ⟨e, he, hk⟩
    rw [values.get_none hnone]
    apply foldl_storeLine_of_ne
    intro line hline v hv
    obtain ⟨e, he, rfl⟩ := List.mem_map.mp hline
    have he := (hmem e).mp he
    rw [hread e he] at hv
    exact hnone e he (Prod.mk.inj (Option.some.inj hv)).1

/-! ## The backup settings -/

/-- What the writer makes of a carried value: a text that reads as the value. -/
theorem formatEnvValue_carried {value text : PyStr} (h : formatEnvValue value = .ok text)
    (hcarried : BackupTextCarried value) :
    strip text = text ∧ BreakFree text ∧ unquote text = value := by
  unfold formatEnvValue at h
  unfold BackupTextCarried at hcarried
  by_cases hends : hasLineEnd value = true
  · rw [if_pos hends] at h
    cases h
  rw [if_neg hends] at h
  by_cases hquote : cp '"' ∈ value
  · rw [if_pos hquote] at h
    cases h
  rw [if_neg hquote] at h
  have hnone : ¬ Wrapped (cp '"') value := fun hw => hquote (List.mem_of_mem_head? hw.2.1)
  by_cases hempty : value = []
  · rw [if_pos hempty] at h
    obtain rfl := Except.ok.inj h
    rw [hempty]
    exact ⟨rfl, fun c hc => absurd hc List.not_mem_nil, rfl⟩
  rw [if_neg hempty] at h
  by_cases hspace : value.any isSpace = true
  · -- Between quotes.
    rw [if_pos hspace] at hcarried
    rw [if_pos (Or.inr hspace)] at h
    obtain rfl := Except.ok.inj h
    obtain ⟨hfree, hpair⟩ := hcarried
    have hshape : py "\"" ++ value ++ py "\"" = cp '"' :: (value ++ [cp '"']) := rfl
    rw [hshape]
    refine ⟨?_, ?_, ?_⟩
    · have hq : isSpace (cp '"') = false := by decide
      unfold strip
      rw [List.dropWhile_cons_of_neg (by simp [hq]), ← List.cons_append,
        List.rdropWhile_concat_neg _ _ _ (by simp [hq])]
    · intro c hc
      rcases List.mem_cons.mp hc with rfl | hc
      · decide
      · rcases List.mem_append.mp hc with hc | hc
        · exact hfree c hc
        · rw [List.mem_singleton.mp hc]
          decide
    · have hwrapped : Wrapped (cp '"') (cp '"' :: (value ++ [cp '"'])) := by
        refine ⟨by simp, rfl, ?_⟩
        rw [← List.cons_append, List.getLast?_concat]
      unfold unquote
      rw [if_pos hwrapped, List.drop_one, List.tail_cons, List.dropLast_concat]
      exact unescape_carried hquote hpair
  · rw [if_neg hspace] at hcarried
    have hall : ∀ c ∈ value, isSpace c = false := by
      intro c hc
      rw [Bool.eq_false_iff]
      exact fun hc' => hspace (List.any_eq_true.mpr ⟨c, hc, hc'⟩)
    have hstrip := strip_of_all hall
    have hbare : ¬ (strip value ≠ value ∨ value.any isSpace = true) := by
      rintro (h' | h')
      · exact h' hstrip
      · exact hspace h'
    rw [if_neg hbare] at h
    obtain rfl := Except.ok.inj h
    refine ⟨hstrip, ?_, unquote_plain ⟨hnone, hcarried⟩⟩
    intro c hc
    rw [Bool.eq_false_iff]
    intro hbreak
    have hclear := hall c hc
    rw [isSpace_of_isLineBreak hbreak] at hclear
    cases hclear

theorem backupKeys_nodup (values : BackupValues) : (values.items.map Prod.fst).Nodup := by
  show backupEnvKeys.Nodup
  decide +kernel

theorem BackupValues.get_of_mem (values : BackupValues) {e : PyStr × PyStr} (h : e ∈ values.items) :
    values.get e.1 = some e.2 := by
  unfold BackupValues.get
  rw [lookup_of_mem (backupKeys_nodup values) h]
  rfl

theorem BackupValues.mem_of_get (values : BackupValues) {key value : PyStr}
    (h : values.get key = some value) : (key, value) ∈ values.items := by
  unfold BackupValues.get at h
  obtain ⟨e, he, rfl⟩ := Option.map_eq_some_iff.mp h
  obtain ⟨hmem, rfl⟩ := lookup_some he
  exact hmem

/-- A key that has a value is one of the five. -/
theorem BackupValues.key_of_get (values : BackupValues) {key value : PyStr}
    (h : values.get key = some value) : key ∈ backupEnvKeys :=
  (List.of_mem_zip (values.mem_of_get h)).1

theorem plainKey_backup {key : PyStr} (h : key ∈ backupEnvKeys) : plainKey key = true :=
  List.all_eq_true.mp plainKey_connection key (List.mem_append_right _ h)

/-- A line that counts is a line of its key. -/
theorem envLineKey_of_read {allowedKeys : Option (List PyStr)} {rawLine key value : PyStr}
    (h : readEnvLine allowedKeys rawLine = some (key, value)) : envLineKey rawLine = some key := by
  unfold readEnvLine at h
  unfold envLineKey
  dsimp only at h ⊢
  by_cases hassigns : ¬ Assigns (strip rawLine)
  · rw [if_pos hassigns] at h
    cases h
  rw [if_neg hassigns] at h ⊢
  by_cases hrefused : assignedKey (strip rawLine) = [] ∨
      ∃ allowed ∈ allowedKeys, assignedKey (strip rawLine) ∉ allowed
  · rw [if_pos hrefused] at h
    cases h
  rw [if_neg hrefused] at h
  rw [if_neg fun hnil => hrefused (Or.inl hnil)]
  obtain ⟨hkey, -⟩ := Prod.mk.inj (Option.some.inj h)
  exact congrArg some hkey

section Persist

variable {values : BackupValues} {allowedKeys : Option (List PyStr)}

/-- A new line: it reads as its key and value. -/
theorem formattedLine_read (hcarried : ∀ e ∈ values.items, BackupTextCarried e.2)
    (hallowed : ∀ keys ∈ allowedKeys, backupEnvKeys ⊆ keys) {key value line : PyStr}
    (hvalue : values.get key = some value) (h : formattedLine key value = .ok line) :
    readEnvLine allowedKeys line = some (key, value) ∧ BreakFree line := by
  obtain ⟨text, htext, h⟩ := except_bind_ok.mp h
  obtain rfl := Except.ok.inj h
  obtain ⟨hstrip, hfree, hread⟩ :=
    formatEnvValue_carried htext (hcarried _ (values.mem_of_get hvalue))
  have hkey := values.key_of_get hvalue
  have hplain := plainKey_backup hkey
  rw [readEnvLine_envLine hplain (fun keys hk => hallowed keys hk hkey) hstrip, hread]
  exact ⟨rfl, breakFree_envLine hplain hfree⟩

/-- What becomes of a line: a retired key's goes, one of the five gets its new value, any
other stays. -/
theorem rewriteLine_cases {rawLine : PyStr} {out : List PyStr}
    (h : rewriteLine values rawLine = .ok out) :
    (∃ key ∈ legacyBackupEnvKeys, envLineKey rawLine = some key ∧ out = []) ∨
    (∃ key value line, envLineKey rawLine = some key ∧ values.get key = some value ∧
      formattedLine key value = .ok line ∧ out = [line]) ∨
    ((∀ key, envLineKey rawLine = some key → values.get key = none ∧ key ∉ legacyBackupEnvKeys) ∧
      out = [rawLine]) := by
  unfold rewriteLine at h
  cases hkey : envLineKey rawLine with
  | none =>
    rw [hkey] at h
    obtain rfl := Except.ok.inj h
    refine Or.inr (Or.inr ⟨?_, rfl⟩)
    intro key hnone
    cases hnone
  | some key =>
    -- A retired key goes; a key that is saved gets its new line; every other line stays.
    rw [hkey] at h
    dsimp only at h
    by_cases hlegacy : key ∈ legacyBackupEnvKeys
    · rw [if_pos hlegacy] at h
      obtain rfl := Except.ok.inj h
      exact Or.inl ⟨key, hlegacy, rfl, rfl⟩
    rw [if_neg hlegacy] at h
    cases hvalue : values.get key with
    | none =>
      rw [hvalue] at h
      obtain rfl := Except.ok.inj h
      refine Or.inr (Or.inr ⟨?_, rfl⟩)
      intro key' hkey'
      obtain rfl := Option.some.inj hkey'
      exact ⟨hvalue, hlegacy⟩
    | some value =>
      rw [hvalue] at h
      obtain ⟨line, hline, h⟩ := except_bind_ok.mp h
      obtain rfl := Except.ok.inj h
      exact Or.inr (Or.inl ⟨key, value, line, rfl, hvalue, hline, rfl⟩)

theorem legacy_not_backup {key : PyStr} (h : key ∈ backupEnvKeys) : key ∉ legacyBackupEnvKeys := by
  have hall : ∀ k ∈ backupEnvKeys, k ∉ legacyBackupEnvKeys := by decide +kernel
  exact hall key h

/-- The rewritten lines leave under any other key what the lines leave. -/
theorem foldl_rewritten (hcarried : ∀ e ∈ values.items, BackupTextCarried e.2)
    (hallowed : ∀ keys ∈ allowedKeys, backupEnvKeys ⊆ keys) {key : PyStr}
    (hvalue : values.get key = none) (hlegacy : key ∉ legacyBackupEnvKeys) {lines : List PyStr}
    {outs : List (List PyStr)}
    (houts : List.Forall₂ (fun rawLine out => rewriteLine values rawLine = .ok out) lines outs)
    {before after : EnvValues} (hsame : after key = before key) :
    outs.flatten.foldl (storeLine allowedKeys) after key =
      lines.foldl (storeLine allowedKeys) before key := by
  induction houts generalizing before after with
  | nil => exact hsame
  | @cons rawLine out lines outs hr _ ih =>
    rw [List.flatten_cons, List.foldl_append, List.foldl_cons]
    apply ih
    rcases rewriteLine_cases hr with ⟨k, hk, hk', rfl⟩ | ⟨k, w, l, hk', hw, hl, rfl⟩ | ⟨_, rfl⟩
    · -- A retired key's line is not one of this key.
      have hne : ∀ v, readEnvLine allowedKeys rawLine ≠ some (key, v) := by
        intro v hv
        rw [envLineKey_of_read hv] at hk'
        obtain rfl := Option.some.inj hk'
        exact hlegacy hk
      rw [storeLine_of_ne hne]
      exact hsame
    · have hother : key ≠ k := by
        rintro rfl
        rw [hvalue] at hw
        cases hw
      have hne : ∀ v, readEnvLine allowedKeys rawLine ≠ some (key, v) := by
        intro v hv
        rw [envLineKey_of_read hv] at hk'
        exact hother (Option.some.inj hk')
      have hne' : ∀ v, readEnvLine allowedKeys l ≠ some (key, v) := by
        intro v hv
        rw [(formattedLine_read hcarried hallowed hw hl).1] at hv
        exact hother (Prod.mk.inj (Option.some.inj hv)).1.symm
      rw [storeLine_of_ne hne, List.foldl_cons, List.foldl_nil, storeLine_of_ne hne']
      exact hsame
    · exact storeLine_congr hsame rawLine

/-- Reading the file that `_persist_env_values` writes: the new values under the five keys,
nothing under a retired key, and what was there under any other. -/
theorem persistEnvValues_read {file : Option PyStr} {text : PyStr}
    (h : persistEnvValues file values = .ok text)
    (hcarried : ∀ e ∈ values.items, BackupTextCarried e.2)
    (hallowed : ∀ keys ∈ allowedKeys, backupEnvKeys ⊆ keys) (key : PyStr) :
    readEnvFile allowedKeys (some text) key =
      match values.get key with
      | some value => some value
      | none => if key ∈ legacyBackupEnvKeys then none else readEnvFile allowedKeys file key := by
  unfold persistEnvValues at h
  set lines := (match file with
    | none => []
    | some text => splitlines (universalNewlines text)) with hlines
  have hfile : readEnvFile allowedKeys file = readEnvLines allowedKeys lines := by
    cases file <;> rfl
  have hfree : ∀ line ∈ lines, BreakFree line := by
    rw [hlines]
    cases file with
    | none => exact fun _ h => absurd h List.not_mem_nil
    | some t => exact breakFree_splitlines _
  obtain ⟨outs, houts, h⟩ := except_bind_ok.mp h
  obtain ⟨missing, hmissing, h⟩ := except_bind_ok.mp h
  dsimp only at h
  set blank : List PyStr := (match outs.flatten.getLast? with
    | some last => if strip last ≠ [] then [[]] else []
    | none => []) with hblank
  have hblank : ∀ line ∈ blank, line = [] := by
    rw [hblank]
    cases outs.flatten.getLast? with
    | none => simp
    | some last =>
      dsimp only
      split <;> simp
  by_cases hencode : encodable
    [rstrip (joinWith (py "\n") (outs.flatten ++ blank ++ missing)) ++ py "\n"] = false
  · rw [if_pos hencode] at h
    cases h
  rw [if_neg hencode] at h
  obtain rfl := Except.ok.inj h
  -- Where the lines of the result come from, and what they read as.
  have hnew : ∀ line ∈ missing, ∃ e ∈ values.items, e.1 ∉ lines.filterMap envLineKey ∧
      readEnvLine allowedKeys line = some e ∧ BreakFree line := by
    intro line hline
    obtain ⟨e, he, hline⟩ := (except_mapM_mem hmissing).1 line hline
    obtain ⟨hitem, hunseen⟩ := List.mem_filter.mp he
    exact ⟨e, hitem, by simpa using hunseen,
      formattedLine_read hcarried hallowed (values.get_of_mem hitem) hline⟩
  have hold : ∀ line ∈ outs.flatten, ∃ rawLine ∈ lines, ∃ out,
      rewriteLine values rawLine = .ok out ∧
      line ∈ out := by
    intro line hline
    obtain ⟨out, hout, hline⟩ := List.mem_flatten.mp hline
    obtain ⟨rawLine, hraw, hr⟩ := (except_mapM_mem houts).1 out hout
    exact ⟨rawLine, hraw, out, hr, hline⟩
  have hall : ∀ line ∈ outs.flatten ++ blank ++ missing, BreakFree line := by
    intro line hline
    rcases List.mem_append.mp hline with hline | hline
    · rcases List.mem_append.mp hline with hline | hline
      · obtain ⟨rawLine, hraw, out, hr, hline⟩ := hold line hline
        rcases rewriteLine_cases hr with ⟨_, _, _, rfl⟩ | ⟨_, _, l, _, hv, hl, rfl⟩ | ⟨_, rfl⟩
        · exact absurd hline List.not_mem_nil
        · rw [List.mem_singleton.mp hline]
          exact (formattedLine_read hcarried hallowed hv hl).2
        · rw [List.mem_singleton.mp hline]
          exact hfree rawLine hraw
      · rw [hblank line hline]
        exact fun c hc => absurd hc List.not_mem_nil
    · obtain ⟨e, _, _, _, hline⟩ := hnew line hline
      exact hline
  have hblankRead : ∀ line ∈ blank, ∀ v, readEnvLine allowedKeys line ≠ some (key, v) := by
    intro line hline v hv
    rw [hblank line hline] at hv
    cases hv
  rw [readEnvFile_some, readEnvLines_rstrip_join hall, hfile]
  cases hvalue : values.get key with
  | some value =>
    -- Every line of the key has the value, and one is there: rewritten or added.
    apply foldl_storeLine_of_eq
    · intro line hline v hv
      rcases List.mem_append.mp hline with hline | hline
      · rcases List.mem_append.mp hline with hline | hline
        · obtain ⟨rawLine, hraw, out, hr, hline⟩ := hold line hline
          rcases rewriteLine_cases hr with ⟨_, _, _, rfl⟩ | ⟨k, w, l, _, hw, hl, rfl⟩ | ⟨hstay, rfl⟩
          · exact absurd hline List.not_mem_nil
          · rw [List.mem_singleton.mp hline, (formattedLine_read hcarried hallowed hw hl).1] at hv
            obtain ⟨rfl, rfl⟩ := Prod.mk.inj (Option.some.inj hv)
            rw [hvalue] at hw
            exact (Option.some.inj hw).symm
          · rw [List.mem_singleton.mp hline] at hv
            obtain ⟨hno, -⟩ := hstay key (envLineKey_of_read hv)
            rw [hvalue] at hno
            cases hno
        · exact absurd hv (hblankRead line hline v)
      · obtain ⟨e, hitem, _, hread, _⟩ := hnew line hline
        rw [hread] at hv
        obtain rfl := Option.some.inj hv
        have := values.get_of_mem hitem
        rw [hvalue] at this
        exact (Option.some.inj this).symm
    · by_cases hseen : key ∈ lines.filterMap envLineKey
      · obtain ⟨rawLine, hraw, hkey⟩ := List.mem_filterMap.mp hseen
        obtain ⟨out, hout, hr⟩ := (except_mapM_mem houts).2 rawLine hraw
        rcases rewriteLine_cases hr with ⟨k, hk, hk', _⟩ | ⟨k, w, l, hk, hw, hl, rfl⟩ | ⟨hstay, rfl⟩
        · rw [hkey] at hk'
          obtain rfl := Option.some.inj hk'
          exact absurd hk (legacy_not_backup (values.key_of_get hvalue))
        · rw [hkey] at hk
          obtain rfl := Option.some.inj hk
          rw [hvalue] at hw
          obtain rfl := Option.some.inj hw
          refine ⟨l, ?_, (formattedLine_read hcarried hallowed hvalue hl).1⟩
          exact List.mem_append_left _ (List.mem_append_left _
            (List.mem_flatten.mpr ⟨[l], hout, List.mem_singleton.mpr rfl⟩))
        · obtain ⟨hno, -⟩ := hstay key hkey
          rw [hvalue] at hno
          cases hno
      · have hitem := values.mem_of_get hvalue
        obtain ⟨line, hline, hl⟩ := (except_mapM_mem hmissing).2 (key, value)
          (List.mem_filter.mpr ⟨hitem, by simpa using hseen⟩)
        exact ⟨line, List.mem_append_right _ hline,
          (formattedLine_read hcarried hallowed hvalue hl).1⟩
  | none =>
    -- No added line has the key.
    have hmissingRead : ∀ line ∈ missing, ∀ v, readEnvLine allowedKeys line ≠ some (key, v) := by
      intro line hline v hv
      obtain ⟨e, hitem, _, hread, _⟩ := hnew line hline
      rw [hread] at hv
      obtain rfl := Option.some.inj hv
      have := values.get_of_mem hitem
      rw [hvalue] at this
      cases this
    dsimp only
    unfold readEnvLines
    rw [List.foldl_append, List.foldl_append, foldl_storeLine_of_ne hmissingRead,
      foldl_storeLine_of_ne hblankRead]
    by_cases hlegacy : key ∈ legacyBackupEnvKeys
    · rw [if_pos hlegacy]
      apply foldl_storeLine_of_ne
      intro line hline v hv
      obtain ⟨rawLine, hraw, out, hr, hline⟩ := hold line hline
      rcases rewriteLine_cases hr with ⟨_, _, _, rfl⟩ | ⟨k, w, l, _, hw, hl, rfl⟩ | ⟨hstay, rfl⟩
      · exact absurd hline List.not_mem_nil
      · rw [List.mem_singleton.mp hline, (formattedLine_read hcarried hallowed hw hl).1] at hv
        obtain ⟨rfl, rfl⟩ := Prod.mk.inj (Option.some.inj hv)
        rw [hvalue] at hw
        cases hw
      · rw [List.mem_singleton.mp hline] at hv
        exact (hstay key (envLineKey_of_read hv)).2 hlegacy
    · rw [if_neg hlegacy]
      exact foldl_rewritten hcarried hallowed hvalue hlegacy (except_mapM_ok houts) rfl

end Persist

/-- A key that the reader is not asked for is not read. -/
theorem readEnvFile_of_not_mem {allowed : List PyStr} {key : PyStr} (h : key ∉ allowed)
    (file : Option PyStr) : readEnvFile (some allowed) file key = none := by
  have hline : ∀ (rawLine value : PyStr),
      readEnvLine (some allowed) rawLine ≠ some (key, value) := by
    intro rawLine value hread
    unfold readEnvLine at hread
    dsimp only at hread
    by_cases hassigns : ¬ Assigns (strip rawLine)
    · rw [if_pos hassigns] at hread
      cases hread
    rw [if_neg hassigns] at hread
    by_cases hrefused : assignedKey (strip rawLine) = [] ∨
        ∃ keys ∈ some allowed, assignedKey (strip rawLine) ∉ keys
    · rw [if_pos hrefused] at hread
      cases hread
    rw [if_neg hrefused] at hread
    obtain ⟨hkey, -⟩ := Prod.mk.inj (Option.some.inj hread)
    exact hrefused (Or.inr ⟨allowed, rfl, hkey ▸ h⟩)
  cases file with
  | none => rfl
  | some text => exact foldl_storeLine_of_ne (fun line _ => hline line) _

theorem subset_of_mem_some {keys : List PyStr} : ∀ allowed ∈ some keys, keys ⊆ allowed := by
  intro allowed hmem
  obtain rfl := Option.mem_some.mp hmem
  exact List.Subset.refl _

/-! ## The round trip -/

theorem plainKey_master {key : PyStr} (h : key ∈ masterConnectionRuntimeEnvKeys) :
    plainKey key = true :=
  List.all_eq_true.mp plainKey_connection key
    (List.mem_append_left _ (List.mem_append_left _ h))

theorem plainKey_sftp {key : PyStr} (h : key ∈ sftpConnectionRuntimeEnvKeys) :
    plainKey key = true :=
  List.all_eq_true.mp plainKey_connection key
    (List.mem_append_left _ (List.mem_append_right _ h))

/-- What each writer wrote is what the reader reads, when each value is one that its line
carries: the values under their keys and nothing else, for the backup settings whatever the
file held before. There any other key keeps the value it had, save the retired one. -/
theorem settings_files_round_trip :
    (∀ (values : EnvDict) (text : PyStr), saveMasterConnectionSettings values = .ok text →
      (∀ e ∈ values.items, ConnectionTextCarried e.2) →
      readEnvFile (some masterConnectionRuntimeEnvKeys) (some text) = values.get ∧
        readEnvFile none (some text) = values.get) ∧
    (∀ (values : EnvDict) (text : PyStr), saveSftpConnectionSettings values = .ok text →
      (∀ e ∈ values.items, ConnectionTextCarried e.2) →
      readEnvFile (some sftpConnectionRuntimeEnvKeys) (some text) = values.get ∧
        readEnvFile none (some text) = values.get) ∧
    (∀ (file : Option PyStr) (values : BackupValues) (text : PyStr),
      persistEnvValues file values = .ok text → (∀ e ∈ values.items, BackupTextCarried e.2) →
      readEnvFile (some backupEnvKeys) (some text) = values.get ∧
        (∀ key ∈ backupEnvKeys, readEnvFile none (some text) key = values.get key) ∧
        ∀ key, key ∉ backupEnvKeys → readEnvFile none (some text) key =
          if key ∈ legacyBackupEnvKeys then none else readEnvFile none file key) := by
  refine ⟨?_, ?_, ?_⟩
  · intro values text h hcarried
    constructor
    · apply saveConnectionSettings_read (fun _ => plainKey_master) h hcarried
      exact subset_of_mem_some
    · apply saveConnectionSettings_read (fun _ => plainKey_master) h hcarried
      rintro keys ⟨⟩
  · intro values text h hcarried
    constructor
    · apply saveConnectionSettings_read (fun _ => plainKey_sftp) h hcarried
      exact subset_of_mem_some
    · apply saveConnectionSettings_read (fun _ => plainKey_sftp) h hcarried
      rintro keys ⟨⟩
  · intro file values text h hcarried
    have hread : ∀ key, readEnvFile none (some text) key = match values.get key with
        | some value => some value
        | none => if key ∈ legacyBackupEnvKeys then none else readEnvFile none file key := by
      apply persistEnvValues_read h hcarried
      rintro keys ⟨⟩
    have hfive : ∀ key ∈ backupEnvKeys, ∃ value, values.get key = some value := by
      intro key hkey
      have hmem : key ∈ values.items.map Prod.fst := hkey
      obtain ⟨e, he, rfl⟩ := List.mem_map.mp hmem
      exact ⟨e.2, values.get_of_mem he⟩
    refine ⟨?_, ?_, ?_⟩
    · funext key
      rw [persistEnvValues_read h hcarried subset_of_mem_some]
      cases hvalue : values.get key with
      | some value => rfl
      | none =>
        -- Asked for the five keys only, the reader passes over every other line.
        have hother : key ∉ backupEnvKeys := by
          intro hkey
          obtain ⟨value, hsome⟩ := hfive key hkey
          rw [hvalue] at hsome
          cases hsome
        dsimp only
        rw [readEnvFile_of_not_mem hother, ite_self]
    · intro key hkey
      obtain ⟨value, hvalue⟩ := hfive key hkey
      rw [hread key, hvalue]
    · intro key hkey
      have hnone : values.get key = none := by
        cases hvalue : values.get key with
        | none => rfl
        | some value => exact absurd (values.key_of_get hvalue) hkey
      rw [hread key, hnone]

/-! ## Files -/

/-- A folder with a blank in its name, all other values as the installation sets them. -/
def plainBackup (directory : PyStr) : BackupValues :=
  ⟨py "true", directory, [], py "30", py "14"⟩

/-- The settings of a connection to Master. -/
def plainConnection : EnvDict :=
  ⟨[(py "MASTER_URL", py "https://master.example"), (py "FRANCHISE_CODE", py "HF-1")], by decide⟩

def plainHost : EnvDict := ⟨[(py "SFTP_HOST", py "files.example")], by decide⟩

instance (value : PyStr) : Decidable (BreakFree value) :=
  decidable_of_iff ((value.all fun c => !isLineBreak c) = true) (by simp [BreakFree])

instance (value : PyStr) : Decidable (BackupTextCarried value) := by
  unfold BackupTextCarried
  infer_instance

theorem plainText_carried {value : PyStr} (hspace : value.any isSpace = false)
    (hdouble : ¬ Wrapped (cp '"') value) (hsingle : ¬ Wrapped singleQuote value) :
    ConnectionTextCarried value := by
  have hall : ∀ c ∈ value, isSpace c = false := by simpa using hspace
  refine ⟨strip_of_all hall, ?_, hdouble, hsingle⟩
  intro c hc
  rw [Bool.eq_false_iff]
  intro hbreak
  have hclear := hall c hc
  rw [isSpace_of_isLineBreak hbreak] at hclear
  cases hclear

theorem settings_files_round_trip_home :
    (∃ text, saveMasterConnectionSettings plainConnection = .ok text ∧
      readEnvFile none (some text) (py "FRANCHISE_CODE") = some (py "HF-1")) ∧
    (∃ text, saveSftpConnectionSettings plainHost = .ok text ∧
      readEnvFile none (some text) (py "SFTP_HOST") = some (py "files.example")) ∧
    ∃ text, persistEnvValues (some (py "NOTE='a b'\nBACKUP_DIRECTORY=/old\n"))
      (plainBackup (py "/my data")) =
        .ok text ∧
      readEnvFile none (some text) (py "BACKUP_DIRECTORY") = some (py "/my data") ∧
      readEnvFile none (some text) (py "NOTE") = some (py "a b") := by
  obtain ⟨hmaster, hsftp, hbackup⟩ := settings_files_round_trip
  refine ⟨?_, ?_, ?_⟩
  -- The three files of the settings, each saved and read once.
  · cases h : saveMasterConnectionSettings plainConnection with
    | error e =>
      have hok : (saveMasterConnectionSettings plainConnection).toOption.isSome = true := by
        decide +kernel
      rw [h] at hok
      cases hok
    | ok text =>
      refine ⟨text, rfl, ?_⟩
      have hcarried : ∀ e ∈ plainConnection.items, ConnectionTextCarried e.2 := by
        intro e he
        have hall : ∀ e ∈ plainConnection.items, e.2.any isSpace = false ∧
            ¬ Wrapped (cp '"') e.2 ∧ ¬ Wrapped singleQuote e.2 := by decide +kernel
        obtain ⟨h₁, h₂, h₃⟩ := hall e he
        exact plainText_carried h₁ h₂ h₃
      rw [(hmaster _ _ h hcarried).2]
      decide +kernel
  · cases h : saveSftpConnectionSettings plainHost with
    | error e =>
      have hok : (saveSftpConnectionSettings plainHost).toOption.isSome = true := by decide +kernel
      rw [h] at hok
      cases hok
    | ok text =>
      refine ⟨text, rfl, ?_⟩
      have hcarried : ∀ e ∈ plainHost.items, ConnectionTextCarried e.2 := by
        intro e he
        have hall : ∀ e ∈ plainHost.items, e.2.any isSpace = false ∧
            ¬ Wrapped (cp '"') e.2 ∧ ¬ Wrapped singleQuote e.2 := by decide +kernel
        obtain ⟨h₁, h₂, h₃⟩ := hall e he
        exact plainText_carried h₁ h₂ h₃
      rw [(hsftp _ _ h hcarried).2]
      decide +kernel
  · cases h : persistEnvValues (some (py "NOTE='a b'\nBACKUP_DIRECTORY=/old\n"))
      (plainBackup (py "/my data")) with
    | error e =>
      have hok : (persistEnvValues (some (py "NOTE='a b'\nBACKUP_DIRECTORY=/old\n"))
          (plainBackup (py "/my data"))).toOption.isSome = true := by decide +kernel
      rw [h] at hok
      cases hok
    | ok text =>
      refine ⟨text, rfl, ?_⟩
      obtain ⟨-, hfive, hother⟩ := hbackup _ _ _ h (by decide +kernel)
      rw [hfive _ (by decide +kernel), hother _ (by decide +kernel)]
      constructor <;> decide +kernel

theorem ok_of_toOption {x : Except PyError PyStr} {text : PyStr} (h : text ∈ x.toOption) :
    x = .ok text := by
  cases x with
  | error e => cases h
  | ok t =>
    obtain rfl := Option.some.inj h
    rfl

/-- The retired key is dropped on purpose. A share's path with a blank in it loses a
backslash, and an SFTP password its blank. -/
theorem settings_lost :
    (∃ text, persistEnvValues (some (py "BACKUP_INTERVAL_HOURS=6\n"))
        (plainBackup (py "/data")) = .ok text ∧
      readEnvFile none (some (py "BACKUP_INTERVAL_HOURS=6\n")) (py "BACKUP_INTERVAL_HOURS") =
          some (py "6") ∧
      readEnvFile none (some text) (py "BACKUP_INTERVAL_HOURS") = none) ∧
    (∃ text, persistEnvValues none (plainBackup (py "\\\\server\\my share")) = .ok text ∧
      readEnvFile none (some text) (py "BACKUP_DIRECTORY") = some (py "\\server\\my share")) ∧
    ∃ text, saveSftpConnectionSettings
        ⟨[(py "SFTP_PASSWORD", py "secret ")], by decide⟩ = .ok text ∧
      readEnvFile none (some text) (py "SFTP_PASSWORD") = some (py "secret") := by
  have hfirst : ∃ text ∈ (persistEnvValues (some (py "BACKUP_INTERVAL_HOURS=6\n"))
      (plainBackup (py "/data"))).toOption,
      readEnvFile none (some text) (py "BACKUP_INTERVAL_HOURS") = none := by decide +kernel
  have hsecond : ∃ text ∈
      (persistEnvValues none (plainBackup (py "\\\\server\\my share"))).toOption,
      readEnvFile none (some text) (py "BACKUP_DIRECTORY") = some (py "\\server\\my share") := by
    decide +kernel
  have hthird : ∃ text ∈ (saveSftpConnectionSettings
      ⟨[(py "SFTP_PASSWORD", py "secret ")], by decide⟩).toOption,
      readEnvFile none (some text) (py "SFTP_PASSWORD") = some (py "secret") := by decide +kernel
  refine ⟨?_, ?_, ?_⟩
  · obtain ⟨text, htext, hread⟩ := hfirst
    exact ⟨text, ok_of_toOption htext, by decide +kernel, hread⟩
  · obtain ⟨text, htext, hread⟩ := hsecond
    exact ⟨text, ok_of_toOption htext, hread⟩
  · obtain ⟨text, htext, hread⟩ := hthird
    exact ⟨text, ok_of_toOption htext, hread⟩

end SetuoraLite
