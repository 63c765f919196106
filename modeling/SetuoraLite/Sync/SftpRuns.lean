import Mathlib.Data.List.Chain
import SetuoraLite.Lib.Sha256
import SetuoraLite.Sync.SftpExchange

/-!
# The SFTP exchange over a run

`SftpKept` is what every call of a cycle keeps, wherever the cycle is cut off and whatever
Master, the server and Tally do: a file is posted until its import is recorded and not after
that, always with one content; Master is told of an import only once it is recorded; an
upload appears once, and differs from the one before.

Main results: `acknowledged_was_imported`, `posted_until_imported` and `uploads_differ`, over
every run of `sftpMachine`, and `unchanged_export_stays`: an upload is not tried again, even
one that failed, while Tally exports the same.
-/

namespace SetuoraLite

open Lib

variable {st : SftpSettings} {b : SftpBook} {e : TallySftpExchange}

/-! ## What is kept -/

/-- The import of the file is recorded. -/
def TallySftpExchange.Imported (e : TallySftpExchange) : Prop :=
  e.status = .imported ∨ e.status = .acknowledged

/-- How often a file was posted. -/
def postCount (filename : PyStr) (log : List SftpEntry) : Nat :=
  log.countP fun
    | .posted f _ _ => f = filename
    | _ => false

/-- What an entry needs before it. -/
def Follows (st : SftpSettings) (pre : List SftpEntry) : SftpEntry → Prop
  | .posted filename payload _ => .imported filename ∉ pre ∧
      ∀ payload' c, .posted filename payload' c ∈ pre → st.digest payload' = st.digest payload
  | .imported filename => ∃ payload, .posted filename payload true ∈ pre
  | .published (.ack, name) => ∃ filename, name = ackName filename ∧ .imported filename ∈ pre
  | .published (.inbox, name) => .published (.inbox, name) ∉ pre
  | .published (.outbox, _) => False

/-- The digests of the uploads, in the order they were stored. -/
def uploadDigests (rows : List TallySftpExchange) : List PyStr :=
  (rows.filter fun e => e.direction = .upload).map (·.fileSha256)

/-- The invariant: what the rows and the log say about each other. -/
structure SftpKept (st : SftpSettings) (b : SftpBook) : Prop where
  ids : (b.exchanges.map (·.id)).Pairwise (· < ·)
  names : (b.exchanges.map fun e => (e.direction, e.remoteFilename)).Nodup
  /-- No upload repeats the one before it. -/
  changed : (uploadDigests b.exchanges).IsChain (· ≠ ·)
  log : Disciplined (Follows st) b.log
  posts : ∀ f p c, .posted f p c ∈ b.log →
    ∃ e ∈ b.exchanges, e.direction = .download ∧ e.remoteFilename = f ∧ e.fileSha256 = st.digest p
  counts : ∀ e ∈ b.exchanges, e.direction = .download →
    postCount e.remoteFilename b.log ≤ e.attempts
  imports : ∀ e ∈ b.exchanges, e.direction = .download →
    (.imported e.remoteFilename ∈ b.log ↔ e.Imported)
  uploads : ∀ n, .published (.inbox, n) ∈ b.log →
    ∃ e ∈ b.exchanges, e.direction = .upload ∧ e.remoteFilename = n

/-- A row is known by its direction and file name. -/
theorem SftpKept.row_eq (h : SftpKept st b) {e e' : TallySftpExchange} (he : e ∈ b.exchanges)
    (he' : e' ∈ b.exchanges) (hdirection : e.direction = e'.direction)
    (hname : e.remoteFilename = e'.remoteFilename) : e = e' :=
  eq_of_key_eq h.names he he' (Prod.ext hdirection hname)

/-- The ids ascend, so no two rows have one. -/
theorem SftpKept.nodup (h : SftpKept st b) : (b.exchanges.map (·.id)).Nodup :=
  h.ids.imp fun hlt => Nat.ne_of_lt hlt

/-- What is imported was posted before, and Tally said that it took it. -/
theorem SftpKept.posted_of_imported (h : SftpKept st b) {f : PyStr} (hf : .imported f ∈ b.log) :
    ∃ p, .posted f p true ∈ b.log := by
  obtain ⟨pre, post, hlog⟩ := List.append_of_mem hf
  obtain ⟨p, hp⟩ := h.log pre _ post hlog
  exact ⟨p, hlog ▸ List.mem_append_left _ hp⟩

/-! ## Rows that change -/

/-- What a change of a row may not touch. -/
structure TallySftpExchange.Same (e e' : TallySftpExchange) : Prop where
  id : e'.id = e.id
  direction : e'.direction = e.direction
  remoteFilename : e'.remoteFilename = e.remoteFilename
  fileSha256 : e'.fileSha256 = e.fileSha256
  attempts : e.attempts ≤ e'.attempts

/-- A row that is left as it is. -/
theorem TallySftpExchange.Same.refl (e : TallySftpExchange) : e.Same e :=
  ⟨rfl, rfl, rfl, rfl, Nat.le_refl _⟩

/-- A change of the rows that is none of their names and digests. -/
theorem uploadDigests_map {rows : List TallySftpExchange}
    {g : TallySftpExchange → TallySftpExchange}
    (hg : ∀ e ∈ rows, e.Same (g e)) : uploadDigests (rows.map g) = uploadDigests rows := by
  induction rows with
  | nil => rfl
  | cons e rows ih =>
    have hrest := ih fun e' he' => hg e' (List.mem_cons_of_mem e he')
    have hsame := hg e List.mem_cons_self
    unfold uploadDigests at hrest ⊢
    rw [List.map_cons, List.filter_cons, List.filter_cons, hsame.direction]
    by_cases hup : e.direction = .upload
    · simp [hup, hsame.fileSha256, hrest]
    · simp [hup, hrest]

/-- Entries that are no posts of the file. -/
theorem postCount_append {f : PyStr} {log entries : List SftpEntry}
    (h : ∀ x ∈ entries, ∀ p c, x ≠ .posted f p c) :
    postCount f (log ++ entries) = postCount f log := by
  unfold postCount
  rw [List.countP_append]
  have hnone : entries.countP (fun | .posted g _ _ => decide (g = f) | _ => false) = 0 := by
    refine List.countP_eq_zero.mpr fun x hx => ?_
    cases x with
    | posted g p c =>
      have hne : g ≠ f := fun he => h _ hx p c (he ▸ rfl)
      simp [hne]
    | imported g => simp
    | published path => simp
  rw [hnone]
  rfl

/-- Changed rows, with imports recorded or not. -/
theorem SftpKept.rows (h : SftpKept st b) {g : TallySftpExchange → TallySftpExchange}
    (hg : ∀ e ∈ b.exchanges, e.Same (g e)) {entries : List SftpEntry}
    (hentries : ∀ x ∈ entries, ∃ f, x = .imported f)
    (hlog : Disciplined (Follows st) (b.log ++ entries))
    (himports : ∀ e ∈ b.exchanges, e.direction = .download →
      (.imported e.remoteFilename ∈ b.log ++ entries ↔ (g e).Imported)) :
    SftpKept st ⟨b.exchanges.map g, b.log ++ entries⟩ := by
  -- The entries are imports, so no other entry is new.
  have hold : ∀ x, (∀ f, x ≠ .imported f) → x ∈ b.log ++ entries → x ∈ b.log := by
    intro x hx hmem
    rcases List.mem_append.mp hmem with hmem | hmem
    · exact hmem
    · obtain ⟨f, hf⟩ := hentries x hmem
      exact absurd hf (hx f)
  -- The rows are the old ones, changed within what `Same` allows.
  have hrow : ∀ e' ∈ b.exchanges.map g, ∃ e ∈ b.exchanges, e.Same e' ∧ e' = g e := by
    intro e' he'
    obtain ⟨e, he, rfl⟩ := List.mem_map.mp he'
    exact ⟨e, he, hg e he, rfl⟩
  constructor
  · have hids : (b.exchanges.map g).map (·.id) = b.exchanges.map (·.id) := by
      rw [List.map_map]
      exact List.map_congr_left fun e he => (hg e he).id
    show ((b.exchanges.map g).map (·.id)).Pairwise (· < ·)
    rw [hids]
    exact h.ids
  · have hnames : (b.exchanges.map g).map (fun e => (e.direction, e.remoteFilename)) =
        b.exchanges.map fun e => (e.direction, e.remoteFilename) := by
      rw [List.map_map]
      exact List.map_congr_left fun e he => Prod.ext (hg e he).direction (hg e he).remoteFilename
    show ((b.exchanges.map g).map fun e => (e.direction, e.remoteFilename)).Nodup
    rw [hnames]
    exact h.names
  · show (uploadDigests (b.exchanges.map g)).IsChain (· ≠ ·)
    rw [uploadDigests_map hg]
    exact h.changed
  · exact hlog
  -- A post was written in the name of its row, which still holds the digest.
  · intro f p c hmem
    obtain ⟨e, he, hdown, hname, hsha⟩ := h.posts f p c (hold _ (by simp) hmem)
    have hsame := hg e he
    exact ⟨g e, List.mem_map_of_mem he, hsame.direction.trans hdown,
      hsame.remoteFilename.trans hname,
      hsame.fileSha256.trans hsha⟩
  · intro e' he' hdown
    obtain ⟨e, he, hsame, -⟩ := hrow e' he'
    have hcount := h.counts e he (hsame.direction.symm.trans hdown)
    have hposts : postCount e.remoteFilename (b.log ++ entries) =
        postCount e.remoteFilename b.log := by
      refine postCount_append fun x hx p c hposted => ?_
      obtain ⟨f, hf⟩ := hentries x hx
      exact absurd (hf.symm.trans hposted) (by simp)
    show postCount e'.remoteFilename (b.log ++ entries) ≤ e'.attempts
    rw [hsame.remoteFilename, hposts]
    exact Nat.le_trans hcount hsame.attempts
  -- An import is recorded only with the entry beside it.
  · intro e' he' hdown
    obtain ⟨e, he, hsame, rfl⟩ := hrow e' he'
    show .imported (g e).remoteFilename ∈ b.log ++ entries ↔ (g e).Imported
    rw [hsame.remoteFilename]
    exact himports e he (hsame.direction.symm.trans hdown)
  · intro n hmem
    obtain ⟨e, he, hup, hname⟩ := h.uploads n (hold _ (by simp) hmem)
    have hsame := hg e he
    exact ⟨g e, List.mem_map_of_mem he, hsame.direction.trans hup, hsame.remoteFilename.trans hname⟩

variable {change : TallySftpExchange → TallySftpExchange}

/-- The row with an id changes, and stays imported or not imported. -/
theorem SftpKept.changeRow (h : SftpKept st b) {id : Nat}
    (hsame : ∀ e, TallySftpExchange.Same e (change e))
    (hstatus : ∀ e ∈ b.exchanges, e.id = id → e.direction = .download →
      ((change e).Imported ↔ e.Imported)) :
    SftpKept st (b.save (modifyRow (·.id) id change b.exchanges)) := by
  have hrows : SftpKept st
      ⟨b.exchanges.map fun r => if r.id = id then change r else r, b.log ++ []⟩ := by
    refine h.rows (fun r _ => ?_) (by simp) (by simpa using h.log) fun r hr hdown => ?_
    · split
      · exact hsame r
      · exact .refl r
    · rw [List.append_nil, h.imports r hr hdown]
      split
      next hid => exact (hstatus r hr hid hdown).symm
      next => rfl
  rw [List.append_nil] at hrows
  exact hrows

/-- What a save of a stored row does to the book. -/
theorem SftpKept.saveRow_eq (h : SftpKept st b) (he : e ∈ b.exchanges) :
    b.saveRow e.id change =
        ⟨modifyRow (·.id) e.id change b.exchanges, b.log ++ importEntries change e⟩ := by
  unfold SftpBook.saveRow
  rw [lookup_of_mem h.nodup he]
  rfl

/-- The changed row is stored. -/
theorem mem_changed (he : e ∈ b.exchanges) : change e ∈ modifyRow (·.id) e.id change b.exchanges :=
  mem_modifyRow.mpr ⟨e, he, (if_pos rfl).symm⟩

/-- A row is saved that stays imported, or not imported. -/
theorem SftpKept.saveRow (h : SftpKept st b) (he : e ∈ b.exchanges)
    (hsame : ∀ e, TallySftpExchange.Same e (change e)) (hentries : importEntries change e = [])
    (hstatus : e.direction = .download → ((change e).Imported ↔ e.Imported)) :
    SftpKept st (b.saveRow e.id change) ∧ change e ∈ (b.saveRow e.id change).exchanges ∧
      (b.saveRow e.id change).log = b.log := by
  rw [h.saveRow_eq he, hentries, List.append_nil]
  refine ⟨h.changeRow hsame fun r hr hid hdown => ?_, mem_changed he, rfl⟩
  obtain rfl := eq_of_key_eq h.nodup hr he hid
  exact hstatus hdown

/-- The import of a file is recorded after Tally took it. -/
theorem SftpKept.saveImport (h : SftpKept st b) (he : e ∈ b.exchanges)
    (hdown : e.direction = .download) (hsame : ∀ e, TallySftpExchange.Same e (change e))
    (hnew : ¬ e.Imported) (himported : (change e).status = .imported)
    (hposted : ∃ p, .posted e.remoteFilename p true ∈ b.log) :
    SftpKept st (b.saveRow e.id change) ∧ change e ∈ (b.saveRow e.id change).exchanges := by
  have hentries : importEntries change e = [.imported e.remoteFilename] :=
    if_pos ⟨fun hstatus => hnew (Or.inl hstatus), himported⟩
  rw [h.saveRow_eq he, hentries]
  refine ⟨h.rows (fun r _ => ?_) (fun x hx => ⟨_, List.mem_singleton.mp hx⟩) (h.log.snoc hposted)
    fun r hr hdown' => ?_, mem_changed he⟩
  · split
    · exact hsame r
    · exact .refl r
  · rw [List.mem_append, h.imports r hr hdown', List.mem_singleton]
    by_cases hid : r.id = e.id
    · obtain rfl := eq_of_key_eq h.nodup hr he hid
      rw [if_pos rfl]
      exact ⟨fun _ => Or.inl himported, fun _ => Or.inr rfl⟩
    · rw [if_neg hid]
      constructor
      · intro hor
        refine hor.resolve_right fun hname => hid ?_
        rw [h.row_eq hr he (hdown'.trans hdown.symm) (SftpEntry.imported.inj hname)]
      · exact Or.inl

/-- The latest upload is one of the uploads. -/
theorem latestUploadOf_some {rows : List TallySftpExchange} (h : latestUploadOf rows = some e) :
    e ∈ rows ∧ e.direction = .upload := by
  have hmem := List.mem_of_getLast? h
  simpa using List.mem_filter.mp hmem

/-- The rows after an acknowledgement of Master. -/
theorem SftpKept.acknowledge (h : SftpKept st b) (he : e ∈ b.exchanges) (himported : e.Imported)
    (now : Instant) :
    SftpKept st (b.save (acknowledgedExchanges e.id now b.exchanges)) := by
  have hmarked : SftpKept st
      (b.save (modifyRow (·.id) e.id (TallySftpExchange.acknowledgedAs now) b.exchanges)) := by
    refine h.changeRow (fun e => ⟨rfl, rfl, rfl, rfl, Nat.le_refl _⟩) fun r hr hid _ => ?_
    obtain rfl := eq_of_key_eq h.nodup hr he hid
    exact ⟨fun _ => himported, fun _ => Or.inr rfl⟩
  unfold acknowledgedExchanges
  cases hlatest : latestUploadOf b.exchanges with
  | none => exact hmarked
  | some upload =>
    refine hmarked.changeRow (fun e => ⟨rfl, rfl, rfl, rfl, Nat.le_refl _⟩) fun r hr hid hdown => ?_
    -- The latest upload is no download.
    obtain ⟨hmem, hup⟩ := latestUploadOf_some hlatest
    obtain ⟨q, hq, rfl⟩ := mem_modifyRow.mp hr
    have hq' : (if q.id = e.id then q.acknowledgedAs now else q).id = q.id ∧
        (if q.id = e.id then q.acknowledgedAs now else q).direction = q.direction := by
      split <;> exact ⟨rfl, rfl⟩
    obtain rfl := eq_of_key_eq h.nodup hq hmem (hq'.1.symm.trans hid)
    rw [hq'.2, hup] at hdown
    exact absurd hdown (by decide)

/-! ## New rows and new entries -/

/-- A new row, of a name that has none. -/
theorem SftpKept.insert (h : SftpKept st b) {row stored : TallySftpExchange} {b' : SftpBook}
    (hinsert : insertExchange b row = (.ok stored, b')) (hstatus : row.status = .pending)
    (hchanged : row.direction = .upload →
      (latestUploadOf b.exchanges).map (·.fileSha256) ≠ some row.fileSha256) :
    SftpKept st b' ∧ stored ∈ b'.exchanges ∧ b'.log = b.log ∧
      (∀ e ∈ b.exchanges, ¬ (e.direction = row.direction ∧ e.remoteFilename = row.remoteFilename)) ∧
      stored = { row with id := stored.id } := by
  unfold insertExchange at hinsert
  by_cases hany : b.exchanges.any
    (fun e => e.direction = row.direction ∧ e.remoteFilename = row.remoteFilename) = true
  · rw [if_pos hany] at hinsert
    exact absurd (Prod.mk.inj hinsert).1 (by simp)
  rw [if_neg hany] at hinsert
  obtain ⟨hstored, rfl⟩ := Prod.mk.inj hinsert
  obtain rfl := Except.ok.inj hstored
  have hfresh : ∀ e ∈ b.exchanges,
      ¬ (e.direction = row.direction ∧ e.remoteFilename = row.remoteFilename) :=
    fun e he hboth => hany (List.any_eq_true.mpr ⟨e, he, by simpa using hboth⟩)
  refine ⟨?_, List.mem_append_right _ (List.mem_singleton.mpr rfl), rfl, hfresh, rfl⟩
  -- A file without a row was never posted.
  have hnever : row.direction = .download → ∀ p c, .posted row.remoteFilename p c ∉ b.log := by
    intro hdown p c hposted
    obtain ⟨e, he, hedown, hname, -⟩ := h.posts _ p c hposted
    exact hfresh e he ⟨hedown.trans hdown.symm, hname⟩
  constructor
  · show ((b.exchanges ++ [_]).map TallySftpExchange.id).Pairwise (· < ·)
    rw [List.map_append]
    exact sorted_append_nextId h.ids
  · show ((b.exchanges ++ [_]).map fun e : TallySftpExchange =>
      (e.direction, e.remoteFilename)).Nodup
    rw [List.map_append]
    refine nodup_snoc h.names fun hmem => ?_
    obtain ⟨e, he, hkey⟩ := List.mem_map.mp hmem
    exact hfresh e he (Prod.mk.inj hkey)
  · show (uploadDigests (b.exchanges ++ [_])).IsChain (· ≠ ·)
    unfold uploadDigests
    rw [List.filter_append, List.map_append]
    by_cases hup : row.direction = .upload
    · refine h.changed.append (by simp [hup]) fun x hx y hy => ?_
      have hy : row.fileSha256 = y := by simpa [hup] using hy
      rw [← hy]
      intro he
      refine hchanged hup ?_
      rw [← he]
      unfold latestUploadOf
      rw [← List.getLast?_map]
      exact hx
    · have hnone : ([{ row with id := nextId (·.id) b.exchanges }] : List TallySftpExchange).filter
          (fun e => decide (e.direction = .upload)) = [] := by simp [hup]
      rw [hnone, List.map_nil, List.append_nil]
      exact h.changed
  · exact h.log
  · intro f p c hposted
    obtain ⟨e, he, hrest⟩ := h.posts f p c hposted
    exact ⟨e, List.mem_append_left _ he, hrest⟩
  · intro e he hdown
    rcases List.mem_append.mp he with he | he
    · exact h.counts e he hdown
    · obtain rfl := List.mem_singleton.mp he
      have hzero : postCount row.remoteFilename b.log = 0 := by
        refine List.countP_eq_zero.mpr fun x hx => ?_
        cases x with
        | posted g p c =>
          have hne : g ≠ row.remoteFilename := fun heq => hnever hdown p c (heq ▸ hx)
          simp [hne]
        | imported g => simp
        | published path => simp
      show postCount row.remoteFilename b.log ≤ row.attempts
      rw [hzero]
      exact Nat.zero_le _
  · intro e he hdown
    rcases List.mem_append.mp he with he | he
    · exact h.imports e he hdown
    · obtain rfl := List.mem_singleton.mp he
      constructor
      · intro himported
        obtain ⟨p, hp⟩ := h.posted_of_imported himported
        exact absurd hp (hnever hdown p true)
      · intro himported
        rcases himported with himported | himported
        · exact absurd (hstatus.symm.trans himported) (by decide)
        · exact absurd (hstatus.symm.trans himported) (by decide)
  · intro n hpublished
    obtain ⟨e, he, hrest⟩ := h.uploads n hpublished
    exact ⟨e, List.mem_append_left _ he, hrest⟩

/-- A file is posted that was attempted once more than it was posted. -/
theorem SftpKept.post (h : SftpKept st b) (he : e ∈ b.exchanges) (hdown : e.direction = .download)
    (hnew : ¬ e.Imported) {payload : List UInt8} (hsha : e.fileSha256 = st.digest payload)
    (hcount : postCount e.remoteFilename b.log < e.attempts) (c : Bool) :
    SftpKept st (b.record (.posted e.remoteFilename payload c)) := by
  -- A post is the one new entry.
  have hold : ∀ x, (∀ f p c, x ≠ .posted f p c) →
      (x ∈ b.log ++ [.posted e.remoteFilename payload c] ↔ x ∈ b.log) := by
    intro x hx
    rw [List.mem_append, List.mem_singleton]
    exact or_iff_left (hx _ _ _)
  constructor
  · exact h.ids
  · exact h.names
  · exact h.changed
  -- Two posts of one file carry one digest: that of its row.
  · refine h.log.snoc
      ⟨fun himported => hnew ((h.imports e he hdown).mp himported), fun p c hposted => ?_⟩
    obtain ⟨r, hr, hrdown, hname, hrsha⟩ := h.posts _ p c hposted
    obtain rfl := h.row_eq hr he (hrdown.trans hdown.symm) hname
    exact hrsha.symm.trans hsha
  · intro f p c' hposted
    rcases List.mem_append.mp hposted with hposted | hposted
    · exact h.posts f p c' hposted
    · obtain ⟨rfl, rfl, -⟩ := SftpEntry.posted.inj (List.mem_singleton.mp hposted)
      exact ⟨e, he, hdown, rfl, hsha⟩
  -- The row posted counts one attempt more.
  · intro r hr hrdown
    show postCount r.remoteFilename (b.log ++ [_]) ≤ r.attempts
    unfold postCount at hcount ⊢
    rw [List.countP_append, List.countP_singleton]
    by_cases hname : e.remoteFilename = r.remoteFilename
    · obtain rfl := h.row_eq hr he (hrdown.trans hdown.symm) hname.symm
      rw [if_pos (by simp)]
      exact hcount
    · rw [if_neg (by simpa using hname)]
      exact h.counts r hr hrdown
  · intro r hr hrdown
    exact (hold _ (by simp)).trans (h.imports r hr hrdown)
  · intro n hpublished
    exact h.uploads n ((hold _ (by simp)).mp hpublished)

/-- A remote file appears. -/
theorem SftpKept.publish (h : SftpKept st b) {path : RemotePath}
    (hfollows : Follows st b.log (.published path))
    (hrow : path.1 = .inbox →
      ∃ e ∈ b.exchanges, e.direction = .upload ∧ e.remoteFilename = path.2) :
    SftpKept st (b.record (.published path)) := by
  have hold : ∀ x, (∀ path, x ≠ .published path) →
      (x ∈ b.log ++ [.published path] ↔ x ∈ b.log) := by
    intro x hx
    rw [List.mem_append, List.mem_singleton]
    exact or_iff_left (hx _)
  constructor
  · exact h.ids
  · exact h.names
  · exact h.changed
  · exact h.log.snoc hfollows
  · intro f p c hposted
    exact h.posts f p c ((hold _ (by simp)).mp hposted)
  · intro r hr hdown
    show postCount r.remoteFilename (b.log ++ [_]) ≤ r.attempts
    rw [postCount_append (by simp)]
    exact h.counts r hr hdown
  · intro r hr hdown
    exact (hold _ (by simp)).trans (h.imports r hr hdown)
  · intro n hpublished
    rcases List.mem_append.mp hpublished with hpublished | hpublished
    · exact h.uploads n hpublished
    · obtain rfl := SftpEntry.published.inj (List.mem_singleton.mp hpublished)
      exact hrow rfl

/-! ## What the calls do to the book -/

section Calls

variable {w t : SftpWorld} {i : SftpFate}

/-- A path that was accepted is the name in its directory. -/
theorem remotePath_ok {directory : RemoteDirectory} {filename : PyStr} {path : RemotePath}
    (h : remotePath directory filename = .ok path) : path = (directory, filename) := by
  unfold remotePath at h
  split at h
  · exact absurd h (by simp)
  · exact (Except.ok.inj h).symm

/-- Master only touches the remote files. -/
theorem masterMoves_book (w : SftpWorld) (g : MasterMove) (t : SftpWorld)
    (h : masterMoves w g = some t) :
    t.book = w.book := by
  cases g <;> (obtain rfl := Option.some.inj h; rfl)

/-- The calls that do not touch the book. -/
def SftpCall.quiet : SftpCall → Bool
  | .rename _ _ => false
  | .post _ _ => false
  | .insert _ => false
  | .save _ _ => false
  | .acknowledge _ _ => false
  | _ => true

/-- A quiet call, however it ends, leaves the book. -/
theorem book_of_quiet {o : SftpCall} {a : o.Answer} (ho : o.quiet = true)
    (h : sftpServer w o i = some (a, t)) :
    t.book = w.book := by
  cases o with
  | rename source destination => exact absurd ho (by simp [SftpCall.quiet])
  | post filename payload => exact absurd ho (by simp [SftpCall.quiet])
  | insert row => exact absurd ho (by simp [SftpCall.quiet])
  | save id change => exact absurd ho (by simp [SftpCall.quiet])
  | acknowledge id now => exact absurd ho (by simp [SftpCall.quiet])
  | listdir directory =>
    cases i with
    | listed names =>
      unfold sftpServer at h
      dsimp only at h
      split at h
      · obtain ⟨-, rfl⟩ := Prod.mk.inj (Option.some.inj h)
        rfl
      · exact absurd h (by simp)
    | fails e =>
      obtain ⟨-, rfl⟩ := Prod.mk.inj (Option.some.inj h)
      rfl
    | _ => cases h
  | _ =>
    cases i <;> first
      | (cases h; done)
      | (obtain ⟨-, rfl⟩ := Prod.mk.inj (Option.some.inj h); rfl)

/-- A file that moves is published. -/
theorem moved_book {source destination : RemotePath} (h : w.moved source destination = some t) :
    t.book = w.book.record (.published destination) := by
  obtain ⟨payload, -, rfl⟩ := Option.map_eq_some_iff.mp h
  rfl

/-- A rename that fails may have published its file, too. -/
theorem renamed_book {source destination : RemotePath} {a : Except SftpError PUnit}
    (h : sftpServer w (.rename source destination) i = some (a, t)) :
    (∃ e, a = .error e) ∧ t.book = w.book ∨ t.book = w.book.record (.published destination) := by
  cases i with
  | ok =>
    have hrenamed := Option.some.inj h
    -- There may be no file to move.
    cases hmoved : w.moved source destination with
    | none =>
      rw [hmoved] at hrenamed
      obtain ⟨rfl, rfl⟩ := Prod.mk.inj hrenamed
      exact Or.inl ⟨⟨_, rfl⟩, rfl⟩
    | some u =>
      rw [hmoved] at hrenamed
      obtain ⟨-, rfl⟩ := Prod.mk.inj hrenamed
      exact Or.inr (moved_book hmoved)
  | late e =>
    obtain ⟨rfl, rfl⟩ := Prod.mk.inj (Option.some.inj h)
    cases hmoved : w.moved source destination with
    | none => exact Or.inl ⟨⟨e, rfl⟩, rfl⟩
    | some u => exact Or.inr (moved_book hmoved)
  | fails e =>
    obtain ⟨rfl, rfl⟩ := Prod.mk.inj (Option.some.inj h)
    exact Or.inl ⟨⟨e, rfl⟩, rfl⟩
  | _ => cases h

/-- A post is on record whether it succeeds or not. -/
theorem posted_book {filename : PyStr} {payload : List UInt8} {a : Except PyStr PyStr}
    (h : sftpServer w (.post filename payload) i = some (a, t)) :
    t.book = w.book.record (.posted filename payload a.isOk) := by
  cases i with
  | replied reply =>
    obtain ⟨rfl, rfl⟩ := Prod.mk.inj (Option.some.inj h)
    rfl
  | _ => cases h

/-- A save is done at once. -/
theorem saved_book {id : Nat} {a : PUnit} (h : sftpServer w (.save id change) i = some (a, t)) :
    t.book = w.book.saveRow id change := by
  obtain ⟨-, rfl⟩ := Prod.mk.inj (Option.some.inj h)
  rfl

end Calls

/-! ## The walk through a cycle -/

/-- Every call of the work keeps what is kept, and every outcome meets `P`. -/
abbrev Walks {α : Type} (st : SftpSettings) (P : Except SftpError α → SftpBook → Prop)
    (x : SftpWork α) (b : SftpBook) : Prop :=
  x.Keeps sftpServer SftpWorld.book (SftpKept st) P b

section Walk

variable {α β : Type} {P : Except SftpError β → SftpBook → Prop}

/-- A quiet call is followed by the rest of the cycle, in the same book. -/
theorem walk_quiet {o : SftpCall} {f : o.Answer → SftpWork β} (ho : o.quiet = true)
    (h : ∀ a, Walks st P (f a) b) :
    Walks st P (Work.perform o >>= f) b := by
  refine Work.Keeps.bind_perform fun s i a t hs hI hstep => ?_
  rw [book_of_quiet ho hstep, hs]
  exact ⟨hI, h a⟩

/-- A call that may raise. -/
theorem walk_quiet_lift {o : SftpCall} {unpack : o.Answer → Except SftpError α} {f : α → SftpWork β}
    (ho : o.quiet = true) (herror : ∀ e, P (.error e) b) (h : ∀ a, Walks st P (f a) b) :
    Walks st P (Work.perform o >>= fun a => Work.lift (unpack a) >>= f) b :=
  walk_quiet ho fun _ => Work.Keeps.bind_lift (fun e _ => herror e) fun a _ => h a

/-- A row is saved that stays imported, or not imported. -/
theorem walk_save {f : PUnit → SftpWork β} (he : e ∈ b.exchanges)
    (hsame : ∀ e, TallySftpExchange.Same e (change e)) (hentries : importEntries change e = [])
    (hstatus : e.direction = .download → ((change e).Imported ↔ e.Imported))
    (h : ∀ b', SftpKept st b → change e ∈ b'.exchanges → b'.log = b.log → Walks st P (f ⟨⟩) b') :
    Walks st P (Work.perform (.save e.id change) >>= f) b := by
  refine Work.Keeps.bind_perform fun s i a t hs hI hstep => ?_
  obtain ⟨hkept, hmem, hlog⟩ := hI.saveRow he hsame hentries hstatus
  rw [saved_book hstep, hs]
  exact ⟨hkept, h _ hI hmem hlog⟩

/-- Removing a remote file, or not. -/
theorem removeIfThere_walks (path : RemotePath) :
    Walks st (fun _ b' => b' = b) (removeIfThere path) b := by
  refine walk_quiet rfl fun a => ?_
  cases a with
  | ok u => exact rfl
  | error e => cases e <;> exact rfl

/-- What follows a rename that failed. -/
theorem removeAndRaise_walks {rows : List TallySftpExchange} (hrows : b.exchanges = rows)
    (path : RemotePath) (e : SftpError) : Walks st (fun _ b' => b'.exchanges = rows)
      (removeIfThere path >>= fun _ => (Work.raise e : SftpWork PUnit)) b :=
  (removeIfThere_walks path).bind (fun _ _ hb => hb ▸ hrows) fun _ _ hb => hb ▸ hrows

/-- Listing a remote directory. -/
theorem xmlNames_walks (directory : RemoteDirectory) :
    Walks st (fun _ b' => b' = b) (xmlNames st directory) b :=
  walk_quiet_lift rfl (fun _ => rfl) fun _ => Work.Keeps.bind_raiseIf (fun _ => rfl) fun _ => rfl

/-- Reading a remote file. -/
theorem readRemoteXml_walks (path : RemotePath) :
    Walks st (fun _ b' => b' = b) (readRemoteXml st path) b :=
  walk_quiet_lift rfl (fun _ => rfl) fun _ => Work.Keeps.bind_raiseIf (fun _ => rfl) fun _ =>
    walk_quiet_lift rfl (fun _ => rfl) fun _ => Work.Keeps.bind_raiseIf (fun _ => rfl) fun _ =>
      Work.Keeps.bind_raiseIf (fun _ => rfl) fun _ => rfl

/-- A file is published, or the book is left alone. -/
theorem writeRemoteAtomic_walks {destination : RemotePath} (payload : List UInt8)
    (hfollows : SftpKept st b → Follows st b.log (.published destination))
    (hrow : destination.1 = .inbox →
      ∃ e ∈ b.exchanges, e.direction = .upload ∧ e.remoteFilename = destination.2) :
    Walks st (fun _ b' => b'.exchanges = b.exchanges)
        (writeRemoteAtomic destination payload) b := by
  refine (removeIfThere_walks _).bind (fun _ b' hb => ?_) fun _ b' hb => hb ▸ rfl
  obtain rfl := hb
  refine walk_quiet_lift rfl (fun _ => rfl) fun _ => ?_
  refine Work.Keeps.bind_perform fun s i a t hs hI hstep => ?_
  rcases renamed_book hstep with ⟨⟨e, rfl⟩, hbook⟩ | hbook
  · rw [hbook, hs]
    exact ⟨hI, removeAndRaise_walks rfl _ e⟩
  · rw [hbook, hs]
    refine ⟨hI.publish (hfollows hI) hrow, ?_⟩
    cases a with
    | ok u => exact rfl
    | error e => exact removeAndRaise_walks rfl _ e

/-- A row is inserted, unless there is one of its name. -/
theorem walk_insert {row : TallySftpExchange} {g : Except SftpError TallySftpExchange → SftpWork β}
    (hstatus : row.status = .pending) (hchanged : row.direction = .upload →
      (latestUploadOf b.exchanges).map (·.fileSha256) ≠ some row.fileSha256)
    (herror : ∀ e, Walks st P (g (.error e)) b)
    (h : ∀ stored b', SftpKept st b → stored ∈ b'.exchanges → b'.log = b.log →
      (∀ e ∈ b.exchanges, ¬ (e.direction = row.direction ∧ e.remoteFilename = row.remoteFilename)) →
      stored = { row with id := stored.id } → Walks st P (g (.ok stored)) b') :
    Walks st P (sftp (.insert row) >>= g) b := by
  refine Work.Keeps.bind_perform fun s i a t hs hI hstep => ?_
  obtain ⟨hstored, rfl⟩ := Prod.mk.inj (Option.some.inj hstep)
  show SftpKept st (insertExchange s.book row).2 ∧ Walks st P _ (insertExchange s.book row).2
  rw [hs] at hstored ⊢
  cases hinsert : insertExchange b row with
  | mk outcome b' =>
    rw [hinsert] at hstored
    obtain rfl : outcome = a := hstored
    cases outcome with
    | error e =>
      have hsame : b' = b := by
        unfold insertExchange at hinsert
        split at hinsert
        · exact (Prod.mk.inj hinsert).2.symm
        · exact absurd (Prod.mk.inj hinsert).1 (by simp)
      rw [hsame]
      exact ⟨hI, herror e⟩
    | ok stored =>
      obtain ⟨hkept, hmem, hlog, hfresh, heq⟩ := hI.insert hinsert hstatus hchanged
      exact ⟨hkept, h stored b' hI hmem hlog hfresh heq⟩

/-- The row of a remote file. -/
theorem recordForRemoteFile_walks (filename digest : PyStr) :
    Walks st (fun r b' => ∀ record, r = .ok record →
      record ∈ b'.exchanges ∧ record.direction = .download ∧ record.remoteFilename = filename ∧
        record.fileSha256 = digest) (recordForRemoteFile filename digest) b := by
  refine Work.Keeps.bind_perform fun s i a t hs hI hstep => ?_
  obtain ⟨hfound, rfl⟩ := Prod.mk.inj (Option.some.inj hstep)
  rw [hs] at hfound ⊢
  refine ⟨hI, ?_⟩
  cases a with
  | some record =>
    refine Work.Keeps.bind_raiseIf (fun _ _ h => absurd h (by simp)) fun hsame => ?_
    intro r hr
    obtain rfl := Except.ok.inj hr
    have hkey := List.find?_some hfound
    simp only [decide_eq_true_eq] at hkey
    exact ⟨List.mem_of_find?_eq_some hfound, hkey.1, hkey.2, not_not.mp hsame⟩
  | none =>
    refine walk_insert ?_ ?_ ?_ fun stored b' _ hmem _ _ heq => ?_
    · rfl
    · exact fun hup => absurd hup (by simp [newExchange])
    · exact fun _ _ h => absurd h (by simp)
    · intro r hr
      obtain rfl := Except.ok.inj hr
      rw [heq] at hmem ⊢
      exact ⟨hmem, rfl, rfl, rfl⟩

/-- A post to Tally, if the payload is text. -/
theorem postToTally_walks {payload : List UInt8} (he : e ∈ b.exchanges)
    (hdown : e.direction = .download) (hnew : ¬ e.Imported)
    (hsha : e.fileSha256 = st.digest payload)
    (hcount : postCount e.remoteFilename b.log < e.attempts) :
    Walks st (fun r b' => b'.exchanges = b.exchanges ∧ ∀ reference, r = .ok (.ok reference) →
      ∃ p, .posted e.remoteFilename p true ∈ b'.log) (postToTally e.remoteFilename payload) b := by
  unfold postToTally
  split
  · exact ⟨rfl, fun _ h => absurd h (by simp)⟩
  · intro s i a t hs hI hstep
    rw [posted_book hstep, hs]
    refine ⟨hI.post he hdown hnew hsha hcount _, rfl, fun reference hr => ?_⟩
    obtain rfl := Except.ok.inj hr
    exact ⟨payload, List.mem_append_right _ (List.mem_singleton.mpr rfl)⟩

/-- A post and its record: when it is done, the row says so. -/
theorem importOnce_walks {payload : List UInt8} (he : e ∈ b.exchanges)
    (hdown : e.direction = .download) (hnew : ¬ e.Imported)
    (hsha : e.fileSha256 = st.digest payload) :
    Walks st (fun r b' => r = .ok ⟨⟩ →
      ∃ e' ∈ b'.exchanges, e'.id = e.id ∧ e'.remoteFilename = e.remoteFilename ∧
      e'.direction = .download ∧ e'.Imported) (importOnce e e.remoteFilename payload) b := by
  refine walk_save he (fun e => ⟨rfl, rfl, rfl, rfl, Nat.le_succ _⟩) (if_neg fun h => h.1 h.2)
    (fun _ => Iff.rfl)
    fun b₁ hI hmem hlog => ?_
  -- The attempt is counted before the post, so the bound stays.
  have hcount : postCount e.remoteFilename b₁.log < e.attempted.attempts := by
    rw [hlog]
    exact Nat.lt_succ_of_le (hI.counts e he hdown)
  refine (postToTally_walks (e := e.attempted) hmem hdown hnew hsha hcount).bind
    (fun reply b₂ h => ?_)
    fun _ _ _ h => absurd h (by simp)
  obtain ⟨hrows, hposted⟩ := h
  -- A refusal is recorded; an import with the reference it was answered.
  cases reply with
  | error message =>
    refine walk_save (e := e.attempted) (hrows ▸ hmem)
      (fun e => ⟨rfl, rfl, rfl, rfl, Nat.le_refl _⟩)
      (if_neg fun h => absurd h.2 (by simp [TallySftpExchange.refused]))
      (fun _ => ⟨fun h => ?_, fun h => absurd h hnew⟩)
      fun b₃ _ _ _ h => absurd h (by simp)
    rcases h with h | h <;> exact absurd h (by simp [TallySftpExchange.refused])
  | ok reference =>
    intro s i a t hs hI' hstep
    have hsame (e : TallySftpExchange) : e.Same (e.importedAs reference) :=
      ⟨rfl, rfl, rfl, rfl, Nat.le_refl _⟩
    have hmem₂ : e.attempted ∈ b₂.exchanges := hrows ▸ hmem
    obtain ⟨hkept, hsaved⟩ := hI'.saveImport hmem₂ hdown hsame hnew rfl (hposted reference rfl)
    rw [saved_book hstep, hs]
    exact ⟨hkept, fun _ => ⟨_, hsaved, rfl, rfl, hdown, Or.inl rfl⟩⟩

/-- An acknowledgement is uploaded for an import that is on record. -/
theorem acknowledgeOnce_walks (now : Instant) {record : TallySftpExchange} (he : e ∈ b.exchanges)
    (hid : e.id = record.id) (hdown : e.direction = .download) (himported : e.Imported) :
    Walks st (fun _ _ => True) (acknowledgeOnce now record e.remoteFilename) b := by
  have hack : Walks st (fun _ b' => b'.exchanges = b.exchanges) (uploadAck e.remoteFilename) b := by
    refine Work.Keeps.bind_lift (fun _ _ => rfl) fun destination hdestination => ?_
    obtain rfl := remotePath_ok hdestination
    exact writeRemoteAtomic_walks [] (fun hI => ⟨_, rfl, (hI.imports e he hdown).mpr himported⟩)
      fun h => absurd h (by simp)
  refine hack.bind_attempt fun r b' hrows => ?_
  rw [← hid]
  cases r with
  | error err =>
    refine walk_save (hrows ▸ he) (fun e => ⟨rfl, rfl, rfl, rfl, Nat.le_refl _⟩)
      (if_neg fun h => h.1 h.2)
      (fun _ => Iff.rfl) fun _ _ _ _ => trivial
  | ok u =>
    intro s i a t hs hI hstep
    obtain ⟨-, rfl⟩ := Prod.mk.inj (Option.some.inj hstep)
    show SftpKept st (s.book.save (acknowledgedExchanges e.id now s.book.exchanges)) ∧ True
    rw [hs]
    exact ⟨hI.acknowledge (hrows ▸ he) himported now, trivial⟩

/-- The import of a file that is not acknowledged: it is posted unless it was recorded. -/
theorem importUnlessRecorded_walks {payload : List UInt8} (he : e ∈ b.exchanges)
    (hdown : e.direction = .download) (hopen : e.status ≠ .acknowledged)
    (hsha : e.fileSha256 = st.digest payload) :
    Walks st (fun r b' => r = .ok ⟨⟩ →
      ∃ e' ∈ b'.exchanges, e'.id = e.id ∧ e'.remoteFilename = e.remoteFilename ∧
      e'.direction = .download ∧
      e'.Imported) (importUnlessRecorded e e.remoteFilename payload) b := by
  unfold importUnlessRecorded
  by_cases himported : e.status = .imported
  · rw [if_pos himported]
    exact fun _ => ⟨e, he, rfl, rfl, hdown, Or.inl himported⟩
  · rw [if_neg himported]
    exact importOnce_walks he hdown (fun h => h.elim himported hopen) hsha

/-- The first part of a cycle: a file of Master, from its name to its acknowledgement. -/
theorem importMasterFile_walks (now : Instant) (filename : PyStr) :
    Walks st (fun _ _ => True) (importMasterFile st now filename) b := by
  refine Work.Keeps.bind_lift (fun _ _ => trivial) fun path _ => ?_
  refine (readRemoteXml_walks path).bind (fun payload _ _ => ?_) fun _ _ _ => trivial
  refine Work.Keeps.bind_lift (fun _ _ => trivial) fun _ _ => ?_
  refine (recordForRemoteFile_walks filename (st.digest payload)).bind (fun record b₁ h => ?_)
    fun _ _ _ => trivial
  obtain ⟨hmem, hdown, rfl, hsha⟩ := h record rfl
  by_cases hacknowledged : record.status = .acknowledged
  · rw [if_pos hacknowledged]
    exact trivial
  rw [if_neg hacknowledged]
  refine (importUnlessRecorded_walks hmem hdown hacknowledged hsha).bind (fun _ b₂ h => ?_)
    fun _ _ _ => trivial
  obtain ⟨e, he, hid, hname, hedown, himported⟩ := h rfl
  rw [← hname]
  exact (acknowledgeOnce_walks now he hid hedown himported).bind (fun _ _ _ => trivial)
    fun _ _ _ => trivial

/-- The other part: the export, unless the latest upload has its digest. -/
theorem uploadTallyExport_walks (now : Instant) :
    Walks st (fun _ _ => True) (uploadTallyExport st now) b := by
  refine walk_quiet rfl fun a => ?_
  cases a with
  | error message => exact trivial
  | ok payload =>
    refine Work.Keeps.bind_raiseIf (fun _ => trivial) fun _ => ?_
    refine Work.Keeps.bind_perform fun s i previous t hs hI hstep => ?_
    obtain ⟨hlatest, rfl⟩ := Prod.mk.inj (Option.some.inj hstep)
    rw [hs] at hlatest ⊢
    refine ⟨hI, ?_⟩
    by_cases hsame : previous.map (·.fileSha256) = some (st.digest payload)
    · rw [if_pos hsame]
      exact trivial
    rw [if_neg hsame]
    refine walk_insert rfl (fun _ => hlatest ▸ hsame) (fun _ => trivial) fun stored b' hkept hmem
      hlog hfresh heq => ?_
    have hup : stored.direction = .upload := by rw [heq]; rfl
    have hname : stored.remoteFilename = uploadName st now (st.digest payload) := by rw [heq]; rfl
    have hwrite : Walks st (fun _ b'' => b''.exchanges = b'.exchanges)
        (writeToInbox (uploadName st now (st.digest payload)) payload) b' := by
      refine Work.Keeps.bind_lift (fun _ _ => rfl) fun destination hdestination => ?_
      obtain rfl := remotePath_ok hdestination
      refine writeRemoteAtomic_walks payload (fun _ hpublished => ?_) fun _ =>
        ⟨stored, hmem, hup, hname⟩
      -- A file of this name would have had a row before.
      rw [hlog] at hpublished
      obtain ⟨r, hr, hrup, hrname⟩ := hkept.uploads _ hpublished
      exact hfresh r hr ⟨hrup, hrname⟩
    refine hwrite.bind_attempt fun r b'' hrows => ?_
    cases r with
    | error err =>
      exact walk_save (hrows ▸ hmem) (fun e => ⟨rfl, rfl, rfl, rfl, Nat.le_refl _⟩)
        (if_neg fun h => absurd h.2 (by simp [TallySftpExchange.refused]))
        (fun hdown => absurd (hup.symm.trans hdown) (by decide)) fun _ _ _ _ => trivial
    | ok u =>
      exact walk_save (hrows ▸ hmem) (fun e => ⟨rfl, rfl, rfl, rfl, Nat.le_refl _⟩)
        (if_neg fun h => absurd h.2 (by simp [TallySftpExchange.uploadedAs]))
        (fun hdown => absurd (hup.symm.trans hdown) (by decide)) fun _ _ _ _ => trivial

/-- One cycle keeps what is kept, call by call. -/
theorem runSftpTallySyncCycle_walks (now : Instant) :
    Walks st (fun _ _ => True) (runSftpTallySyncCycle st now) b := by
  refine (xmlNames_walks .outbox).bind (fun outbound _ _ => ?_) fun _ _ _ => trivial
  cases outbound with
  | cons filename rest => exact importMasterFile_walks now filename
  | nil =>
    refine (xmlNames_walks .inbox).bind (fun inbound _ _ => ?_) fun _ _ _ => trivial
    cases inbound with
    | cons filename rest => exact trivial
    | nil => exact uploadTallyExport_walks now

end Walk

/-! ## Every run -/

section Runs

variable {files : List (RemotePath × List UInt8)}
variable {as : List (WorkAction Instant SftpFate MasterMove)}
    {w : Bench SftpWorld SftpCall SftpCall.Answer SftpError PyStr}

/-- A new installation has no rows and no log. -/
theorem sftpKept_new : SftpKept st ⟨[], []⟩ := by
  constructor
  · exact List.Pairwise.nil
  · exact List.nodup_nil
  · exact List.IsChain.nil
  · exact .nil
  all_goals simp

/-- Every state of every run keeps the invariant. -/
theorem sftpKept_run (hexec : exec (sftpMachine st) ⟨⟨⟨[], []⟩, files⟩, none⟩ as = some w) :
    SftpKept st w.state.book :=
  work_invariant (fun now _ _ => runSftpTallySyncCycle_walks now) masterMoves_book
    sftpKept_new hexec

/-- A row says that a file was imported only if Tally confirmed it for the row's content, and
Master finds an acknowledgement only after that was recorded. -/
theorem acknowledged_was_imported
    (hexec : exec (sftpMachine st) ⟨⟨⟨[], []⟩, files⟩, none⟩ as = some w) :
    (∀ e ∈ w.state.book.exchanges, e.direction = .download → e.Imported →
      ∃ payload, .posted e.remoteFilename payload true ∈ w.state.book.log ∧
      st.digest payload = e.fileSha256) ∧
    ∀ pre name post, w.state.book.log = pre ++ .published (.ack, name) :: post →
      ∃ filename payload, name = ackName filename ∧ .imported filename ∈ pre ∧
      .posted filename payload true ∈ pre := by
  have hkept := sftpKept_run hexec
  constructor
  · intro e he hdown himported
    obtain ⟨payload, hposted⟩ := hkept.posted_of_imported ((hkept.imports e he hdown).mpr himported)
    obtain ⟨r, hr, hrdown, hname, hsha⟩ := hkept.posts _ payload true hposted
    obtain rfl := hkept.row_eq hr he (hrdown.trans hdown.symm) hname
    exact ⟨payload, hposted, hsha.symm⟩
  · intro pre name post hlog
    obtain ⟨filename, hname, himported⟩ := hkept.log pre _ post hlog
    -- The record of the import has the post before it.
    obtain ⟨first, rest, hpre⟩ := List.append_of_mem himported
    obtain ⟨payload, hposted⟩ :=
      hkept.log first (.imported filename) (rest ++ .published (.ack, name) :: post)
      (by rw [hlog, hpre]; simp)
    exact ⟨filename, payload, hname, himported, hpre ▸ List.mem_append_left _ hposted⟩

/-- A file of Master is given to Tally until its import is recorded and never after that,
always with one content, and each time is counted. -/
theorem posted_until_imported
    (hexec : exec (sftpMachine st) ⟨⟨⟨[], []⟩, files⟩, none⟩ as = some w) :
    (∀ pre filename payload c post, w.state.book.log = pre ++ .posted filename payload c :: post →
      .imported filename ∉ pre) ∧
    (∀ filename payload payload' c c', .posted filename payload c ∈ w.state.book.log →
      .posted filename payload' c' ∈ w.state.book.log → st.digest payload = st.digest payload') ∧
    ∀ e ∈ w.state.book.exchanges, e.direction = .download →
      postCount e.remoteFilename w.state.book.log ≤ e.attempts := by
  have hkept := sftpKept_run hexec
  refine ⟨fun pre filename payload c post hlog => (hkept.log pre _ post hlog).1, ?_, hkept.counts⟩
  intro filename payload payload' c c' h h'
  obtain ⟨e, he, hdown, hname, hsha⟩ := hkept.posts _ payload c h
  obtain ⟨r, hr, hrdown, hrname, hrsha⟩ := hkept.posts _ payload' c' h'
  obtain rfl := hkept.row_eq he hr (hdown.trans hrdown.symm) (hname.trans hrname.symm)
  exact hsha.symm.trans hrsha

/-- An upload differs from the one before it, and appears in the inbox of Master once at most. -/
theorem uploads_differ (hexec : exec (sftpMachine st) ⟨⟨⟨[], []⟩, files⟩, none⟩ as = some w) :
    (uploadDigests w.state.book.exchanges).IsChain (· ≠ ·) ∧
    ∀ pre name post, w.state.book.log = pre ++ .published (.inbox, name) :: post →
      .published (.inbox, name) ∉ pre ∧
      ∃ e ∈ w.state.book.exchanges, e.direction = .upload ∧ e.remoteFilename = name := by
  have hkept := sftpKept_run hexec
  refine ⟨hkept.changed,
    fun pre name post hlog => ⟨hkept.log pre _ post hlog, hkept.uploads name ?_⟩⟩
  rw [hlog]
  exact List.mem_append_right _ List.mem_cons_self

end Runs

/-! ## An export that does not change -/

section Unchanged

variable {d : PyStr} {digests names : List PyStr}

/-- The files that appeared in the inbox of Master. -/
def inboxOf (log : List SftpEntry) : List PyStr :=
  log.filterMap fun
    | .published (.inbox, name) => some name
    | _ => none

/-- The call leaves the uploads alone. -/
def SftpCall.Away : SftpCall → Prop
  | .rename _ destination => destination.1 ≠ .inbox
  | .insert row => row.direction ≠ .upload
  | .save _ change => ∀ e, TallySftpExchange.Same e (change e)
  | _ => True

/-- What Tally exports has the digest. -/
def SftpFate.Repeats (st : SftpSettings) (d : PyStr) : SftpFate → Prop
  | .exported reply => ∀ payload, reply = .ok payload → st.digest payload = d
  | _ => True

/-- The export has the digest that the latest upload has. -/
def Repeats (st : SftpSettings) (d : PyStr) : (o : SftpCall) → o.Answer → Prop
  | .exportParties, reply => ∀ payload, reply = Except.ok payload → st.digest payload = d
  | .latestUpload, upload => Option.map TallySftpExchange.fileSha256 upload = some d
  | _, _ => True

/-- The uploads are what they were. -/
structure SftpBook.Stays (digests names : List PyStr) (b : SftpBook) : Prop where
  rows : uploadDigests b.exchanges = digests
  files : inboxOf b.log = names

/-- Entries that publish nothing in the inbox. -/
theorem inboxOf_append {log entries : List SftpEntry}
    (h : ∀ x ∈ entries, ∀ name, x ≠ .published (.inbox, name)) :
    inboxOf (log ++ entries) = inboxOf log := by
  have hnone : inboxOf entries = [] := by
    refine List.filterMap_eq_nil_iff.mpr fun x hx => ?_
    split
    next name => exact absurd rfl (h _ hx name)
    next => rfl
  have happend : inboxOf (log ++ entries) = inboxOf log ++ inboxOf entries := List.filterMap_append
  rw [happend, hnone, List.append_nil]

/-- A changed row keeps its direction and its digest. -/
theorem uploadDigests_modifyRow {rows : List TallySftpExchange} {id : Nat}
    (hsame : ∀ e, TallySftpExchange.Same e (change e)) :
    uploadDigests (modifyRow (·.id) id change rows) = uploadDigests rows := by
  refine uploadDigests_map fun e _ => ?_
  split
  · exact hsame e
  · exact .refl e

/-- An acknowledgement changes no digest. -/
theorem uploadDigests_acknowledged (id : Nat) (now : Instant) (rows : List TallySftpExchange) :
    uploadDigests (acknowledgedExchanges id now rows) = uploadDigests rows := by
  have hmarked : uploadDigests (modifyRow (·.id) id (TallySftpExchange.acknowledgedAs now) rows) =
      uploadDigests rows := uploadDigests_modifyRow fun e => ⟨rfl, rfl, rfl, rfl, Nat.le_refl _⟩
  unfold acknowledgedExchanges
  cases latestUploadOf rows with
  | none => exact hmarked
  | some upload =>
    refine (uploadDigests_modifyRow fun e => ?_).trans hmarked
    exact ⟨rfl, rfl, rfl, rfl, Nat.le_refl _⟩

/-- A call away from the inbox leaves the uploads as they were. -/
theorem SftpCall.Away.stays {o : SftpCall} {w t : SftpWorld} {i : SftpFate} {a : o.Answer}
    (ho : o.Away) (h : w.book.Stays digests names) (hstep : sftpServer w o i = some (a, t)) :
    t.book.Stays digests names := by
  -- By the operation; the name of the file appears in none of what is written.
  cases o with
  | rename source destination =>
    rcases renamed_book hstep with ⟨-, hbook⟩ | hbook
    · rw [hbook]
      exact h
    · rw [hbook]
      refine ⟨h.rows, (inboxOf_append fun x hx name hname => ho ?_).trans h.files⟩
      rw [List.mem_singleton.mp hx] at hname
      rw [SftpEntry.published.inj hname]
  | post filename payload =>
    rw [posted_book hstep]
    exact ⟨h.rows, (inboxOf_append fun x hx name hname => by simp_all).trans h.files⟩
  | insert row =>
    obtain ⟨-, rfl⟩ := Prod.mk.inj (Option.some.inj hstep)
    show (insertExchange w.book row).2.Stays digests names
    unfold insertExchange
    split
    · exact h
    · refine ⟨?_, h.files⟩
      have hnone : uploadDigests
          (w.book.exchanges ++ [{ row with id := nextId (·.id) w.book.exchanges }]) =
          uploadDigests w.book.exchanges := by
        have hdown : row.direction ≠ .upload := ho
        unfold uploadDigests
        simp [hdown]
      exact hnone.trans h.rows
  | save id change =>
    rw [saved_book hstep]
    refine ⟨(uploadDigests_modifyRow ho).trans h.rows,
      (inboxOf_append fun x hx name hname => ?_).trans h.files⟩
    cases hrow : lookup (·.id) id w.book.exchanges with
    | none => simp [hrow] at hx
    | some row =>
      rw [hrow] at hx
      have hx : x ∈ importEntries change row := hx
      unfold importEntries at hx
      split at hx
      · exact absurd ((List.mem_singleton.mp hx).symm.trans hname) (by simp)
      · exact absurd hx List.not_mem_nil
  | acknowledge id now =>
    obtain ⟨-, rfl⟩ := Prod.mk.inj (Option.some.inj hstep)
    exact ⟨(uploadDigests_acknowledged id now _).trans h.rows, h.files⟩
  | _ =>
    rw [book_of_quiet rfl hstep]
    exact h

/-- The latest upload is the last one listed. -/
theorem latestUploadOf_sha (rows : List TallySftpExchange) :
    (latestUploadOf rows).map TallySftpExchange.fileSha256 = (uploadDigests rows).getLast? := by
  unfold latestUploadOf uploadDigests
  rw [List.getLast?_map]

/-- What the world answers while the export and the latest upload stay. -/
theorem repeats_of_stays {o : SftpCall} {w t : SftpWorld} {i : SftpFate} {a : o.Answer}
    (h : w.book.Stays digests names) (hlast : digests.getLast? = some d) (hi : i.Repeats st d)
    (hstep : sftpServer w o i = some (a, t)) : Repeats st d o a := by
  cases o with
  | exportParties =>
    cases i with
    | exported reply =>
      obtain ⟨rfl, -⟩ := Prod.mk.inj (Option.some.inj hstep)
      exact hi
    | _ => cases hstep
  | latestUpload =>
    obtain ⟨rfl, -⟩ := Prod.mk.inj (Option.some.inj hstep)
    show (latestUploadOf w.book.exchanges).map TallySftpExchange.fileSha256 = some d
    rw [latestUploadOf_sha, h.rows, hlast]
  | _ => trivial

/-- The calls of the work leave the uploads alone while the export repeats the latest one. -/
abbrev StaysAway {α : Type} (st : SftpSettings) (d : PyStr) (x : SftpWork α) : Prop :=
  x.Calls SftpCall.Away (Repeats st d)

/-- Removing a remote file puts nothing in the inbox. -/
theorem removeIfThere_away (path : RemotePath) : StaysAway st d (removeIfThere path) := by
  refine Work.Calls.bind_perform trivial fun a _ => ?_
  cases a with
  | ok u => trivial
  | error e => cases e <;> trivial

/-- Nor does a listing. -/
theorem xmlNames_away (directory : RemoteDirectory) : StaysAway st d (xmlNames st directory) :=
  Work.Calls.bind_perform trivial fun _ _ => Work.Calls.bind_lift fun _ _ =>
    Work.Calls.bind_raiseIf trivial

/-- Nor does a read. -/
theorem readRemoteXml_away (path : RemotePath) : StaysAway st d (readRemoteXml st path) :=
  Work.Calls.bind_perform trivial fun _ _ => Work.Calls.bind_lift fun _ _ =>
    Work.Calls.bind_raiseIf <|
    Work.Calls.bind_perform trivial fun _ _ => Work.Calls.bind_lift fun _ _ =>
      Work.Calls.bind_raiseIf <|
      Work.Calls.bind_raiseIf trivial

/-- Nor the row of a download. -/
theorem recordForRemoteFile_away (filename digest : PyStr) :
    StaysAway st d (recordForRemoteFile filename digest) := by
  refine Work.Calls.bind_perform trivial fun a _ => ?_
  cases a with
  | some record => exact Work.Calls.bind_raiseIf trivial
  | none => exact Work.Calls.bind_perform (by simp [SftpCall.Away, newExchange]) fun _ _ => trivial

/-- An acknowledgement goes to another directory. -/
theorem uploadAck_away (filename : PyStr) : StaysAway st d (uploadAck filename) := by
  refine Work.Calls.bind_lift fun destination hdestination => ?_
  obtain rfl := remotePath_ok hdestination
  refine (removeIfThere_away _).bind fun _ => ?_
  refine Work.Calls.bind_perform trivial fun _ _ => Work.Calls.bind_lift fun _ _ => ?_
  refine Work.Calls.bind_perform (by simp [SftpCall.Away]) fun a _ => ?_
  cases a with
  | ok u => trivial
  | error e => exact (removeIfThere_away _).bind fun _ => trivial

/-- An import stores no upload. -/
theorem importUnlessRecorded_away (record : TallySftpExchange) (filename : PyStr)
    (payload : List UInt8) :
    StaysAway st d (importUnlessRecorded record filename payload) := by
  unfold importUnlessRecorded
  split
  · trivial
  refine Work.Calls.bind_perform (fun e => ⟨rfl, rfl, rfl, rfl, Nat.le_succ _⟩) fun _ _ => ?_
  have hpost : StaysAway st d (postToTally filename payload) := by
    unfold postToTally
    split
    · trivial
    · exact ⟨trivial, fun _ _ => trivial⟩
  refine hpost.bind fun reply => ?_
  cases reply with
  | error message =>
    exact Work.Calls.bind_perform (fun e => ⟨rfl, rfl, rfl, rfl, Nat.le_refl _⟩) fun _ _ => trivial
  | ok reference => exact ⟨fun e => ⟨rfl, rfl, rfl, rfl, Nat.le_refl _⟩, fun _ _ => trivial⟩

/-- Nor does an acknowledgement, which marks the latest one. -/
theorem acknowledgeOnce_away (now : Instant) (record : TallySftpExchange) (filename : PyStr) :
    StaysAway st d (acknowledgeOnce now record filename) := by
  refine (uploadAck_away filename).attempt.bind fun r => ?_
  cases r with
  | error e =>
    exact Work.Calls.bind_perform (fun e => ⟨rfl, rfl, rfl, rfl, Nat.le_refl _⟩) fun _ _ => trivial
  | ok u => exact ⟨trivial, fun _ _ => trivial⟩

/-- A cycle that imports stays away from the inbox. -/
theorem importMasterFile_away (now : Instant) (filename : PyStr) :
    StaysAway st d (importMasterFile st now filename) := by
  refine Work.Calls.bind_lift fun path _ => (readRemoteXml_away path).bind fun payload => ?_
  refine Work.Calls.bind_lift fun _ _ => (recordForRemoteFile_away filename _).bind fun record => ?_
  split
  · trivial
  · exact (importUnlessRecorded_away record filename payload).bind fun _ =>
      (acknowledgeOnce_away now record filename).bind fun _ => trivial

/-- An export that repeats the latest upload is not stored, nor written. -/
theorem uploadTallyExport_away (now : Instant) : StaysAway st d (uploadTallyExport st now) := by
  refine Work.Calls.bind_perform trivial fun a ha => ?_
  cases a with
  | error message => trivial
  | ok payload =>
    refine Work.Calls.bind_raiseIf <| Work.Calls.bind_perform trivial fun previous hprevious => ?_
    have hdigest : st.digest payload = d := ha payload rfl
    have hrepeats : Option.map TallySftpExchange.fileSha256 previous =
        some (st.digest payload) := by
      rw [hdigest]
      exact hprevious
    rw [if_pos hrepeats]
    trivial

/-- Every cycle does: an export is compared with the latest upload first. -/
theorem runSftpTallySyncCycle_away (now : Instant) :
    StaysAway st d (runSftpTallySyncCycle st now) := by
  refine (xmlNames_away .outbox).bind fun outbound => ?_
  cases outbound with
  | cons filename rest => exact importMasterFile_away now filename
  | nil =>
    refine (xmlNames_away .inbox).bind fun inbound => ?_
    cases inbound with
    | cons filename rest => trivial
    | nil => exact uploadTallyExport_away now

/-- As long as Tally exports what the latest upload is for, nothing is uploaded, also when
that upload failed. -/
theorem unchanged_export_stays {s : SftpWorld}
    (hlatest : (latestUploadOf s.book.exchanges).map (·.fileSha256) = some d)
    {as : List (WorkAction Instant SftpFate MasterMove)}
    (has : ∀ a ∈ as, a.Takes (SftpFate.Repeats st d))
    {w : Bench SftpWorld SftpCall SftpCall.Answer SftpError PyStr}
    (hexec : exec (sftpMachine st) ⟨s, none⟩ as = some w) :
    inboxOf w.state.book.log = inboxOf s.book.log ∧
      uploadDigests w.state.book.exchanges = uploadDigests s.book.exchanges := by
  have hlast : (uploadDigests s.book.exchanges).getLast? = some d := by
    rw [← latestUploadOf_sha]
    exact hlatest
  have hstays : w.state.book.Stays (uploadDigests s.book.exchanges) (inboxOf s.book.log) := by
    have haway (now : Instant) : StaysAway st d (runSftpTallySyncCycle st now) :=
      runSftpTallySyncCycle_away now
    refine calls_invariant haway (fun s o i a t h hi ho hstep => ?_) masterMoves_book
      ⟨rfl, rfl⟩ has hexec
    exact ⟨ho.stays h hstep, repeats_of_stays h hlast hi hstep⟩
  exact ⟨hstays.files, hstays.rows⟩

end Unchanged

/-! ## A file whose import is recorded on the second try -/

/-- A node that takes every file for an import. -/
def southSftp : SftpSettings where
  runtime := .plain
  maxXmlBytes := 100
  franchiseCode := py "BLR-01"
  parse := fun _ => some (⟨py "ENVELOPE", []⟩, [⟨py "TALLYREQUEST", py "Import Data"⟩])
  digest := sha256Hex

/-- What Master leaves: `<x/>`. -/
def mastersXml : List UInt8 := [60, 120, 47, 62]

/-- One file in the outbox. -/
def mastersFile : List (RemotePath × List UInt8) := [((.outbox, py "A.xml"), mastersXml)]

/-- A cycle up to the post to Tally. -/
def upToPost (now : Instant) : List (WorkAction Instant SftpFate MasterMove) :=
  [.start now, .call (.listed [py "A.xml"]), .call .ok, .call .ok, .call .ok]

/-- The first cycle is cut off before it records that Tally took the file. The second one posts it
again and acknowledges it. Master takes the file, and the next cycle uploads an export. -/
def importedTwice : List (WorkAction Instant SftpFate MasterMove) :=
  upToPost 0 ++ [.call .ok, .call .ok, .call (.replied (.ok (py "CREATED=1"))), .cut] ++
  upToPost 0 ++
      [.call .ok, .call (.replied (.ok (py "CREATED=1"))), .call .ok, .call .ok,
        .call .ok, .call .ok,
    .call .ok, .cut, .others (.takes (.outbox, py "A.xml")),
    .start 0, .call (.listed []), .call (.listed []), .call (.exported (.ok mastersXml)),
    .call .ok, .call .ok,
    .call .ok, .call .ok, .call .ok, .call .ok, .cut]

/-- The name of the export, with its time and its digest. -/
def uploadedName : PyStr := py "setuora-BLR-01-debtors-creditors-00010101T000000Z-2a31f44d.xml"

/-- What is on record after `importedTwice`. -/
def importedTwiceLog : List SftpEntry :=
  [.posted (py "A.xml") mastersXml true, .posted (py "A.xml") mastersXml true,
    .imported (py "A.xml"),
    .published (.ack, py "A.ack"), .published (.inbox, uploadedName)]

/-- The run goes through, and leaves that log. -/
theorem importedTwice_ran :
    ∃ w, exec (sftpMachine southSftp) ⟨⟨⟨[], []⟩, mastersFile⟩, none⟩ importedTwice = some w ∧
    w.state.book.log = importedTwiceLog := by
  have hrun : (exec (sftpMachine southSftp) ⟨⟨⟨[], []⟩, mastersFile⟩, none⟩ importedTwice).map
      (fun w => decide
      (w.state.book.log = importedTwiceLog)) = some true := by
    decide +kernel
  obtain ⟨w, hw, hlog⟩ := Option.map_eq_some_iff.mp hrun
  exact ⟨w, hw, of_decide_eq_true hlog⟩

/-- The acknowledgement of the run, and the import before it. -/
theorem acknowledged_was_imported_twice : ∃ w,
    exec (sftpMachine southSftp) ⟨⟨⟨[], []⟩, mastersFile⟩, none⟩ importedTwice = some w ∧
      ∃ filename payload, py "A.ack" = ackName filename ∧
        .imported filename ∈ importedTwiceLog.take 3 ∧
        .posted filename payload true ∈ importedTwiceLog.take 3 := by
  obtain ⟨w, hw, hlog⟩ := importedTwice_ran
  exact ⟨w, hw, (acknowledged_was_imported hw).2 (importedTwiceLog.take 3) (py "A.ack") _ hlog⟩

/-- The file is posted twice: the first time Tally's answer is lost. -/
theorem posted_until_imported_twice : ∃ w,
    exec (sftpMachine southSftp) ⟨⟨⟨[], []⟩, mastersFile⟩, none⟩ importedTwice = some w ∧
      postCount (py "A.xml") w.state.book.log = 2 ∧
      ∀ e ∈ w.state.book.exchanges, e.direction = .download →
        postCount e.remoteFilename w.state.book.log ≤ e.attempts := by
  obtain ⟨w, hw, hlog⟩ := importedTwice_ran
  refine ⟨w, hw, ?_, (posted_until_imported hw).2.2⟩
  rw [hlog]
  decide

/-- The one upload of the run. -/
theorem uploads_differ_twice : ∃ w,
    exec (sftpMachine southSftp) ⟨⟨⟨[], []⟩, mastersFile⟩, none⟩ importedTwice = some w ∧
      ∃ e ∈ w.state.book.exchanges, e.direction = .upload ∧ e.remoteFilename = uploadedName := by
  obtain ⟨w, hw, hlog⟩ := importedTwice_ran
  exact ⟨w, hw, ((uploads_differ hw).2 (importedTwiceLog.take 4) uploadedName [] hlog).2⟩

/-! ## An upload that failed -/

/-- A cycle that finds no files, up to what it does with the export of Tally. -/
def upToExport : List (WorkAction Instant SftpFate MasterMove) :=
  [.start 0, .call (.listed []), .call (.listed []), .call (.exported (.ok mastersXml)), .call .ok]

/-- The bytes do not get through. -/
def failedUpload : List (WorkAction Instant SftpFate MasterMove) :=
  upToExport ++ [.call .ok, .call .ok, .call (.fails (.os (py "OSError"))), .call .ok, .cut]

/-- An upload that failed is not tried again. -/
theorem unchanged_export_stays_failed : ∃ v w,
    exec (sftpMachine southSftp) ⟨⟨⟨[], []⟩, []⟩, none⟩ failedUpload = some v ∧
      (v.state.book.exchanges.map (·.status)) = [.failed] ∧
      exec (sftpMachine southSftp) ⟨v.state, none⟩ upToExport = some w ∧
      inboxOf w.state.book.log = inboxOf v.state.book.log := by
  have hrun : ((exec (sftpMachine southSftp) ⟨⟨⟨[], []⟩, []⟩, none⟩ failedUpload).bind fun v =>
      (exec (sftpMachine southSftp) ⟨v.state, none⟩ upToExport).map fun _ => decide
        (v.state.book.exchanges.map (·.status) = [.failed] ∧
          (latestUploadOf v.state.book.exchanges).map (·.fileSha256) =
              some (sha256Hex mastersXml))) = some true := by
    decide +kernel
  obtain ⟨v, hv, hagain⟩ := Option.bind_eq_some_iff.mp hrun
  obtain ⟨w, hw, hfailed⟩ := Option.map_eq_some_iff.mp hagain
  obtain ⟨hstatus, hlatest⟩ := of_decide_eq_true hfailed
  refine ⟨v, w, hv, hstatus, hw, (unchanged_export_stays hlatest (fun a ha => ?_) hw).1⟩
  simp only [upToExport, List.mem_cons, List.not_mem_nil, or_false] at ha
  rcases ha with rfl | rfl | rfl | rfl | rfl
  · trivial
  · trivial
  · trivial
  · intro payload hpayload
    rw [← Except.ok.inj hpayload]
    rfl
  · trivial

end SetuoraLite
