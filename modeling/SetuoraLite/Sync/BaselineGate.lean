import SetuoraLite.Sync.Baseline

/-!
# The baseline gate

Ordinary events wait for the baseline of the configured franchise code:
`initial_inventory_is_queued` looks for a baseline event whose reference starts with
the code. The search is SQL's `LIKE`, the code is the pattern, and a code may contain
`_`, which `LIKE` takes for any one character.

`codeMatches` is what the pattern makes of two codes. The colon behind the code is no
wildcard and a code contains none, so codes of different lengths never match; codes of
one length match when they differ only where the asking code has an underscore.
-/

namespace SetuoraLite

open Lib

/-! ## Codes -/

/-- `FRANCHISE_CODE_PATTERN.fullmatch`: `[A-Z0-9][A-Z0-9_-]{0,19}`. -/
def franchiseCodePattern : PyStr → Bool
  | [] => false
  | c :: cs =>
    ((65 ≤ c.val && c.val ≤ 90) || isDigit c) && cs.all isCodeChar && decide (cs.length ≤ 19)

/-- The codes are equal but for places where the first one has an underscore. -/
def codeMatches : PyStr → PyStr → Bool
  | [], [] => true
  | p :: ps, c :: cs => (p == cp '_' || p == c) && codeMatches ps cs
  | _, _ => false

/-- A code that is accepted: not empty, at most twenty characters of the alphabet. -/
theorem franchiseCodePattern_ok {code : PyStr} (h : franchiseCodePattern code = true) :
    0 < code.length ∧ code.length ≤ 20 ∧ ∀ c ∈ code, isCodeChar c = true := by
  cases code with
  | nil => exact absurd h (by decide)
  | cons c cs =>
    simp only [franchiseCodePattern, Bool.and_eq_true, decide_eq_true_eq, List.all_eq_true] at h
    obtain ⟨⟨hstart, hrest⟩, hlength⟩ := h
    refine ⟨Nat.succ_pos _, Nat.succ_le_succ hlength, fun d hd => ?_⟩
    rcases List.mem_cons.mp hd with rfl | hd
    · unfold isCodeChar
      rcases Bool.or_eq_true_iff.mp hstart with hletter | hdigit
      · simp [hletter]
      · simp [hdigit]
    · exact hrest d hd

theorem codeMatches_length {p o : PyStr} (h : codeMatches p o = true) : p.length = o.length := by
  induction p generalizing o with
  | nil =>
    cases o with
    | nil => rfl
    | cons c cs => exact absurd h (by simp [codeMatches])
  | cons q ps ih =>
    cases o with
    | nil => exact absurd h (by simp [codeMatches])
    | cons c cs =>
      obtain ⟨-, hrest⟩ := (Bool.and_eq_true _ _).mp h
      rw [List.length_cons, List.length_cons, ih hrest]

/-- SQLite folds no character of the alphabet. -/
private theorem asciiUpperChar_code {c : CodePoint} (h : isCodeChar c = true) :
    asciiUpperChar c = c := by
  unfold asciiUpperChar
  by_cases hlower : 97 ≤ c.val ∧ c.val ≤ 122
  · have hvals : isCodeChar c = false := by
      have hund : (c == cp '_') = false := by
        apply beq_eq_false_iff_ne.mpr
        rintro rfl
        exact absurd hlower (by decide)
      have hdash : (c == cp '-') = false := by
        apply beq_eq_false_iff_ne.mpr
        rintro rfl
        exact absurd hlower (by decide)
      unfold isCodeChar isDigit
      rw [hund, hdash]
      simp only [Bool.or_false, Bool.or_eq_false_iff, Bool.and_eq_false_iff,
        decide_eq_false_iff_not]
      omega
    rw [h] at hvals
    exact absurd hvals (by decide)
  · rw [if_neg hlower]

/-! ## The pattern -/

/-- A pattern of the same length in front of both sides. -/
private theorem likePrefix_append {p s : PyStr} (hlen : p.length = s.length) (p' s' : PyStr) :
    likePrefix (p ++ p') (s ++ s') = (likePrefix p s && likePrefix p' s') := by
  induction p generalizing s with
  | nil =>
    obtain rfl := List.length_eq_zero_iff.mp hlen.symm
    simp [likePrefix]
  | cons c cs ih =>
    cases s with
    | nil => exact absurd hlen (by simp)
    | cons d ds =>
      rw [List.cons_append, List.cons_append, likePrefix, likePrefix, ih (by simpa using hlen),
        Bool.and_assoc]

private theorem likePrefix_refl (s t : PyStr) : likePrefix s (s ++ t) = true := by
  induction s with
  | nil => rfl
  | cons c cs ih => simp [likePrefix, ih]

/-- Each character of a pattern that matches meets one of the text. -/
private theorem likePrefix_get {p s : PyStr} (h : likePrefix p s = true) {i : Nat} {c : CodePoint}
    (hc : p[i]? = some c) : ∃ d, s[i]? = some d ∧
      (c = cp '_' ∨ asciiUpperChar c = asciiUpperChar d) := by
  induction p generalizing s i with
  | nil => exact absurd hc (by simp)
  | cons q ps ih =>
    cases s with
    | nil => exact absurd h (by simp [likePrefix])
    | cons d ds =>
      obtain ⟨hhead, htail⟩ := (Bool.and_eq_true _ _).mp h
      cases i with
      | zero =>
        obtain rfl : q = c := by simpa using hc
        refine ⟨d, rfl, ?_⟩
        simpa using hhead
      | succ i => exact ih htail (by simpa using hc)

/-- On two codes of one length the pattern compares them. -/
private theorem likePrefix_codes {p o : PyStr} (hp : ∀ c ∈ p, isCodeChar c = true)
    (ho : ∀ c ∈ o, isCodeChar c = true) (hlen : p.length = o.length) :
    likePrefix p o = codeMatches p o := by
  induction p generalizing o with
  | nil =>
    obtain rfl := List.length_eq_zero_iff.mp hlen.symm
    rfl
  | cons q ps ih =>
    cases o with
    | nil => exact absurd hlen (by simp)
    | cons c cs =>
      have hq := asciiUpperChar_code (hp q List.mem_cons_self)
      have hc := asciiUpperChar_code (ho c List.mem_cons_self)
      rw [likePrefix, codeMatches, hq, hc, ih (fun x hx => hp x (List.mem_cons_of_mem _ hx))
        (fun x hx => ho x (List.mem_cons_of_mem _ hx)) (by simpa using hlen)]

/-- What follows the code in the reference of a baseline event. -/
private theorem reference_shape {code reference : PyStr}
    (h : reference = emptyInventoryReference code ∨
      ∃ n, reference = initialInventoryReference code n) :
    ∃ x rest, (x = cp 'E' ∨ x = cp 'P') ∧
      reference = code ++ (py ":INITIAL-INVENTORY:" ++ x :: rest) := by
  rcases h with rfl | ⟨n, rfl⟩
  · refine ⟨cp 'E', py "MPTY", Or.inl rfl, ?_⟩
    unfold emptyInventoryReference
    rw [List.append_assoc, List.append_assoc]
    rfl
  · refine ⟨cp 'P', py "ART-" ++ decDigits n, Or.inr rfl, ?_⟩
    unfold initialInventoryReference
    rw [List.append_assoc, List.append_assoc, List.append_assoc]
    rfl

/-- The colons behind the code stand behind the first code point and the eighteenth after it. -/
private theorem colon_places {x : CodePoint} (hx : x = cp 'E' ∨ x = cp 'P') (rest : PyStr) {j : Nat}
    (hj : j ≤ 19) (h : (py ":INITIAL-INVENTORY:" ++ x :: rest)[j]? = some (cp ':')) :
    j = 0 ∨ j = 18 := by
  by_cases hlow : j < 19
  · rw [List.getElem?_append_left (by simpa [py] using hlow)] at h
    have hplaces : ∀ i < 19, (py ":INITIAL-INVENTORY:")[i]? = some (cp ':') → i = 0 ∨ i = 18 := by
      decide
    exact hplaces j hlow h
  · obtain rfl : j = 19 := by omega
    have hfirst : some x = some (cp ':') := h
    obtain rfl := Option.some.inj hfirst
    exact absurd hx (by decide)

/-- A pattern that matches the reference of another code has that code's length. -/
private theorem length_of_match {code other reference : PyStr}
    (hcode : franchiseCodePattern code = true) (hother : franchiseCodePattern other = true)
    (href : reference = emptyInventoryReference other ∨
      ∃ n, reference = initialInventoryReference other n)
    (h : likePrefix (initialInventoryReferencePrefix code) reference = true) :
    code.length = other.length := by
  obtain ⟨-, hshort, -⟩ := franchiseCodePattern_ok hcode
  obtain ⟨hpos, -, halphabet⟩ := franchiseCodePattern_ok hother
  obtain ⟨x, rest, hx, rfl⟩ := reference_shape href
  have hlead : initialInventoryReferencePrefix code = code ++ (py ":INITIAL-INVENTORY:") := by
    unfold initialInventoryReferencePrefix
    rw [List.append_assoc, List.append_assoc]
    rfl
  rw [hlead] at h
  have hat : ∀ j,
      (code ++ py ":INITIAL-INVENTORY:")[code.length + j]? = (py ":INITIAL-INVENTORY:")[j]? := by
    intro j
    rw [List.getElem?_append_right (by omega), Nat.add_sub_cancel_left]
  -- The colon behind the code meets a colon of the reference.
  obtain ⟨d, hd, hmeets⟩ := likePrefix_get (c := cp ':') h (hat 0)
  have hcolon : d = cp ':' := by
    rcases hmeets with hwild | hsame
    · exact absurd hwild (by decide)
    · unfold asciiUpperChar at hsame
      rw [if_neg (by decide)] at hsame
      split at hsame
      · next hlower =>
        have hval := congrArg Fin.val hsame
        have : (cp ':').val = 58 := by decide
        dsimp only at hval
        omega
      · exact hsame.symm
  subst hcolon
  rw [Nat.add_zero] at hd
  by_cases hlt : code.length < other.length
  · -- Inside the other code there is no colon.
    rw [List.getElem?_append_left hlt] at hd
    exact absurd (halphabet _ (List.mem_of_getElem? hd)) (by decide)
  · rw [List.getElem?_append_right (by omega)] at hd
    rcases colon_places hx rest (by omega) hd with hzero | heighteen
    · omega
    · -- Behind the second colon the pattern goes on with `I`.
      obtain ⟨d, hd, hmeets⟩ := likePrefix_get (c := cp 'I') h (hat 1)
      rw [List.getElem?_append_right (by omega), show code.length + 1 - other.length = 19 by omega]
        at hd
      obtain rfl : x = d := Option.some.inj hd
      rcases hx with rfl | rfl
      · exact absurd hmeets (by decide)
      · exact absurd hmeets (by decide)

/-- The pattern of a code finds the baseline of another code exactly when the codes match. -/
theorem likePrefix_reference {code other reference : PyStr}
    (hcode : franchiseCodePattern code = true) (hother : franchiseCodePattern other = true)
    (href : reference = emptyInventoryReference other ∨
      ∃ n, reference = initialInventoryReference other n) :
    likePrefix (initialInventoryReferencePrefix code) reference = codeMatches code other := by
  obtain ⟨-, -, hcodeChars⟩ := franchiseCodePattern_ok hcode
  obtain ⟨-, -, hotherChars⟩ := franchiseCodePattern_ok hother
  by_cases hlen : code.length = other.length
  · obtain ⟨x, rest, -, rfl⟩ := reference_shape href
    have hlead : initialInventoryReferencePrefix code = code ++ py ":INITIAL-INVENTORY:" := by
      unfold initialInventoryReferencePrefix
      rw [List.append_assoc, List.append_assoc]
      rfl
    rw [hlead, likePrefix_append hlen, likePrefix_refl, Bool.and_true,
      likePrefix_codes hcodeChars hotherChars hlen]
  · have hcodes : codeMatches code other = false := by
      apply Bool.eq_false_iff.mpr
      exact fun h => hlen (codeMatches_length h)
    rw [hcodes]
    apply Bool.eq_false_iff.mpr
    exact fun h => hlen (length_of_match hcode hother href h)

/-! ## The outbox -/

/-- A baseline event that was queued for exactly this code. -/
def QueuedFor (code : PyStr) (row : MasterOutboxEvent) : Prop :=
  row.aggregateType = initialInventoryAggregateType ∧
    (row.aggregateId = emptyInventoryReference code ∨
      ∃ n, row.aggregateId = initialInventoryReference code n)

/-- A database whose baseline events were all queued by
`enqueue_initial_inventory_snapshot` under accepted codes. -/
inductive BaselinesQueued : Db → Prop
  /-- No baseline event yet. -/
  | start {db : Db} (h : ∀ r ∈ db.outbox, r.aggregateType ≠ initialInventoryAggregateType) :
      BaselinesQueued db
  /-- A baseline is queued under the code that is configured now. -/
  | queue {db db' : Db} {st : Settings} {uuids : Nat → PyStr} {actor : Option PyStr}
      {occurredAt : Instant} {items : List JsonDict} {code : PyStr} {n : Nat}
      (h : BaselinesQueued db)
      (hcode : configuredFranchiseCode st (some true) = .ok code)
      (hpattern : franchiseCodePattern code = true)
      (hqueue : enqueueInitialInventory st uuids code actor occurredAt items db = (.ok n, db')) :
      BaselinesQueued db'
  /-- Anything else happens: no baseline event comes from elsewhere. -/
  | other {db db' : Db} (h : BaselinesQueued db)
      (hsame : ∀ r ∈ db'.outbox, r.aggregateType = initialInventoryAggregateType →
        ∃ r₀ ∈ db.outbox, r₀.aggregateType = r.aggregateType ∧ r₀.aggregateId = r.aggregateId) :
      BaselinesQueued db'

/-- A baseline event belongs to an accepted code. -/
private theorem BaselinesQueued.queuedFor {db : Db} (h : BaselinesQueued db) :
    ∀ r ∈ db.outbox, r.aggregateType = initialInventoryAggregateType →
      ∃ code, franchiseCodePattern code = true ∧ QueuedFor code r := by
  induction h with
  | start h => exact fun r hr htype => absurd htype (h r hr)
  | queue _ hcode hpattern hqueue ih =>
    obtain ⟨rows, hext, htypes, hrefs⟩ := enqueueInitialInventory_rows hqueue
    intro r hr htype
    rw [hext.outbox] at hr
    rcases List.mem_append.mp hr with hold | hnew
    · exact ih r hold htype
    · refine ⟨_, hpattern, htypes r hnew, ?_⟩
      have href := List.mem_map_of_mem (f := (·.aggregateId)) hnew
      rcases hrefs with hempty | ⟨-, hparts⟩
      · rw [hempty] at href
        exact Or.inl (List.mem_singleton.mp href)
      · rw [hparts] at href
        obtain ⟨n, -, hn⟩ := List.mem_map.mp href
        exact Or.inr ⟨n, hn.symm⟩
  | other _ hsame ih =>
    intro r hr htype
    obtain ⟨r₀, hr₀, htype₀, hid⟩ := hsame r hr htype
    obtain ⟨code, hpattern, hqueued⟩ := ih r₀ hr₀ (htype₀.trans htype)
    refine ⟨code, hpattern, htype, ?_⟩
    rw [← hid]
    exact hqueued.2

/-- The gate opens for a code exactly when some queued code matches it. -/
private theorem isQueued_iff {db : Db} (h : BaselinesQueued db) {code : PyStr}
    (hcode : franchiseCodePattern code = true) :
    initialInventoryIsQueued db code = true ↔ ∃ r ∈ db.outbox, ∃ other,
      franchiseCodePattern other = true ∧ QueuedFor other r ∧ codeMatches code other = true := by
  unfold initialInventoryIsQueued isBaselineMarker
  simp only [List.any_eq_true, Bool.and_eq_true, beq_iff_eq]
  constructor
  · rintro ⟨r, hr, htype, hlike⟩
    obtain ⟨other, hother, hqueued⟩ := h.queuedFor r hr htype
    refine ⟨r, hr, other, hother, hqueued, ?_⟩
    rwa [← likePrefix_reference hcode hother hqueued.2]
  · rintro ⟨r, hr, other, hother, hqueued, hmatch⟩
    refine ⟨r, hr, hqueued.1, ?_⟩
    rwa [likePrefix_reference hcode hother hqueued.2]

private theorem codeMatches_refl (code : PyStr) : codeMatches code code = true := by
  induction code with
  | nil => rfl
  | cons c cs ih => simp [codeMatches, ih]

/-- No baseline of another code that this code, read as a pattern, matches, unless the
code has its own. -/
def NoLookalike (db : Db) (code : PyStr) : Prop :=
  (∃ r ∈ db.outbox, QueuedFor code r) ∨
    ∀ r ∈ db.outbox, ∀ other, franchiseCodePattern other = true → QueuedFor other r →
      codeMatches code other = false

/-- The gate tells whether the code's own baseline is queued exactly when there is no
lookalike; then an ordinary event passes it only behind that baseline. -/
theorem baseline_gate_iff (db : Db) (h : BaselinesQueued db) (code : PyStr)
    (hcode : franchiseCodePattern code = true) :
    ((initialInventoryIsQueued db code = true ↔ ∃ r ∈ db.outbox, QueuedFor code r) ↔
        NoLookalike db code) ∧
      (NoLookalike db code → ∀ st, requireInitialInventoryQueued st db = .ok code →
        ∃ r ∈ db.outbox, QueuedFor code r) := by
  -- The franchise's own baseline opens the gate by itself.
  have hown : (∃ r ∈ db.outbox, QueuedFor code r) → initialInventoryIsQueued db code = true := by
    rintro ⟨r, hr, hqueued⟩
    exact (isQueued_iff h hcode).mpr ⟨r, hr, code, hcode, hqueued, codeMatches_refl code⟩
  -- Without a lookalike a matching row is one of the franchise's own.
  have hgate : NoLookalike db code → initialInventoryIsQueued db code = true →
      ∃ r ∈ db.outbox, QueuedFor code r := by
    rintro (hqueued | hnone) hopen
    · exact hqueued
    · obtain ⟨r, hr, other, hother, hqueued, hmatch⟩ := (isQueued_iff h hcode).mp hopen
      exact absurd hmatch (by simp [hnone r hr other hother hqueued])
  refine ⟨⟨?_, fun hno => ⟨hgate hno, hown⟩⟩, ?_⟩
  · intro hiff
    by_cases hqueued : ∃ r ∈ db.outbox, QueuedFor code r
    · exact Or.inl hqueued
    · refine Or.inr fun r hr other hother hfor => ?_
      apply Bool.eq_false_iff.mpr
      exact fun hmatch => hqueued
        (hiff.mp ((isQueued_iff h hcode).mpr ⟨r, hr, other, hother, hfor, hmatch⟩))
  · intro hno st hok
    refine hgate hno ?_
    unfold requireInitialInventoryQueued at hok
    obtain ⟨configured, -, hok⟩ := except_bind_ok.mp hok
    split at hok
    · next hopen =>
      obtain rfl := Except.ok.inj hok
      exact hopen
    · exact absurd hok (by simp)

/-! ## Witnesses -/

/-- The settings of a node under a franchise code. -/
def settingsOf (code : PyStr) : Settings := { homeSettings with franchiseCode := code }

/-- The outbox of a node without stock that queued its baseline under a code. -/
def baselineUnder (code : PyStr) : Db :=
  (enqueueInitialInventory (settingsOf code) (fun _ => py "E-1") code none 63900000000000000
    [] .empty).2

private theorem baselineUnder_queued {code : PyStr}
    (hcode : configuredFranchiseCode (settingsOf code) (some true) = .ok code)
    (hpattern : franchiseCodePattern code = true)
    (hok : (enqueueInitialInventory (settingsOf code) (fun _ => py "E-1") code none
      63900000000000000 [] .empty).1.toOption = some 1) : BaselinesQueued (baselineUnder code) := by
  have hstart : BaselinesQueued .empty := .start fun r hr => absurd hr List.not_mem_nil
  unfold baselineUnder
  cases hrun : enqueueInitialInventory (settingsOf code) (fun _ => py "E-1") code none
      63900000000000000 [] .empty with
  | mk result db =>
    rw [hrun] at hok
    cases result with
    | error e => exact absurd hok (by simp [Except.toOption])
    | ok n => exact .queue hstart hcode hpattern hrun

/-- The equivalence at a node whose only baseline is its own. -/
theorem baseline_gate_iff_home :
    (initialInventoryIsQueued (baselineUnder (py "HOME")) (py "HOME") = true ↔
      ∃ r ∈ (baselineUnder (py "HOME")).outbox, QueuedFor (py "HOME") r) ↔
        NoLookalike (baselineUnder (py "HOME")) (py "HOME") :=
  (baseline_gate_iff _ (baselineUnder_queued rfl (by decide) (by decide +kernel)) (py "HOME")
    (by decide)).1

/-- With the baseline of `AXB` queued, the gate is open for the code `A_B`, which has none. -/
theorem underscore_opens_gate :
    franchiseCodePattern (py "A_B") = true ∧ BaselinesQueued (baselineUnder (py "AXB")) ∧
      initialInventoryIsQueued (baselineUnder (py "AXB")) (py "A_B") = true ∧
      ¬ ∃ r ∈ (baselineUnder (py "AXB")).outbox, QueuedFor (py "A_B") r := by
  have hids : (baselineUnder (py "AXB")).outbox.map (·.aggregateId)
      = [emptyInventoryReference (py "AXB")] := by
    decide +kernel
  refine ⟨by decide, baselineUnder_queued rfl (by decide) (by
    decide +kernel), by decide +kernel, ?_⟩
  rintro ⟨r, hr, -, href⟩
  have hid := List.mem_map_of_mem (f := (·.aggregateId)) hr
  rw [hids] at hid
  have hown := List.mem_singleton.mp hid
  -- The second character tells the references apart.
  rcases href with hempty | ⟨n, hpart⟩
  · exact absurd (congrArg (·[1]?) (hown.symm.trans hempty)) (by decide)
  · exact absurd (congrArg (·[1]?) (hown.symm.trans hpart)) (by
      show (emptyInventoryReference (py "AXB"))[1]? ≠ some (cp '_')
      decide)

end SetuoraLite
