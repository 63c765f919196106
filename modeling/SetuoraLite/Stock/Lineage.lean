import SetuoraLite.Lib.Chains
import SetuoraLite.Stock.QrCommands

/-!
# Units and their QR codes

A replaced QR points at the one that took its place. `Lineage` is the invariant of these
links: a replacement is a later serial of the same product, no serial takes the place of
two, and a serial is active until it is replaced. Batches, transfers and relocations do
not touch any of it, so only the QR commands have to be looked at; an incoming transfer
or a receipt from Master also changes which serials are active, and is left out of the
runs here (`Action.keepsActive`).

From the invariant, the links fall into chains of which the last serial is the active one
(`Lineage.intact`).
-/

namespace SetuoraLite

open Lib

variable {rt : Runtime} {st : Settings} {db db' : Db}

/-! ## The links -/

/-- The second serial took the place of the first. -/
def Replaces (db : Db) (s t : Serial) : Prop :=
  s ∈ db.serials ∧ t ∈ db.serials ∧ s.replacedById = some t.id

/-- The links of a database: chains without cycles, forks or joins, whose last serial is
the only active one; the product stays the same, and every number is used once. -/
structure UnitsIntact (db : Db) : Prop where
  chains : Chains (Replaces db)
  product : ∀ s t, Replaces db s t → s.productId = t.productId
  last : ∀ s ∈ db.serials, ∃ last ∈ db.serials, SameChain (Replaces db) s last ∧
    ∀ t ∈ db.serials, SameChain (Replaces db) s t → (t.active = true ↔ t = last)
  numbers : (db.serials.map (·.serialNumber)).Nodup

/-- The active serials of a product. -/
def Db.activeCount (db : Db) (productId : Nat) : Nat :=
  db.serials.countP fun s => s.active && s.productId = productId

/-- The command types that change which serials are active, besides the QR commands. -/
def transferCommands : List PyStr :=
  [py "TRANSFER_AVAILABLE", py "TRANSFER_INCOMING", py "TRANSFER_RECEIPT",
    py "TRANSFER_RECEIPT_STATUS"]

/-- The action is not a transfer command of Master's. -/
def StockAction.keepsActive (rt : Runtime) : StockAction → Prop
  | .command _ _ fields => ∀ parts, commandParts rt fields = .ok parts →
      parts.commandType ∉ transferCommands
  | _ => True

/-! ## The invariant -/

/-- What replacements leave. -/
structure Lineage (serials : List Serial) : Prop where
  forward : ∀ s ∈ serials, ∀ r ∈ s.replacedById, ∃ t ∈ serials, t.id = r ∧ s.id < t.id ∧
    t.productId = s.productId
  once : ∀ s ∈ serials, ∀ t ∈ serials, ∀ r, s.replacedById = some r → t.replacedById = some r →
    s.id = t.id
  active : ∀ s ∈ serials, s.active = true ↔ s.replacedById = none

/-- What the links can be read off. -/
def Serial.line (s : Serial) : Nat × Nat × Bool × Option Nat :=
  (s.id, s.productId, s.active, s.replacedById)

def Db.lines (db : Db) : List (Nat × Nat × Bool × Option Nat) := db.serials.map Serial.line

private theorem line_of_map {serials serials' : List Serial}
    (h : serials'.map Serial.line = serials.map Serial.line) {s : Serial} (hs : s ∈ serials') :
    ∃ s₀ ∈ serials, s₀.id = s.id ∧ s₀.productId = s.productId ∧ s₀.active = s.active ∧
      s₀.replacedById = s.replacedById := by
  obtain ⟨s₀, hs₀, he⟩ :=
    List.mem_map.mp (h ▸ List.mem_map_of_mem hs : s.line ∈ serials.map Serial.line)
  simp only [Serial.line, Prod.mk.injEq] at he
  exact ⟨s₀, hs₀, he⟩

/-- The invariant reads the lines only. -/
theorem Lineage.of_lines {serials serials' : List Serial}
    (h : serials'.map Serial.line = serials.map Serial.line) (hl : Lineage serials) :
    Lineage serials' := by
  constructor
  · intro s hs r hr
    obtain ⟨s₀, hs₀, hid, hproduct, -, hreplaced⟩ := line_of_map h hs
    obtain ⟨t₀, ht₀, rfl, hless, hsame⟩ := hl.forward s₀ hs₀ r (hreplaced.trans hr)
    obtain ⟨t, ht, hid', hproduct', -, -⟩ := line_of_map h.symm ht₀
    exact ⟨t, ht, hid', by omega, hproduct'.trans (hsame.trans hproduct)⟩
  · intro s hs t ht r hr hr'
    obtain ⟨s₀, hs₀, hid, -, -, hreplaced⟩ := line_of_map h hs
    obtain ⟨t₀, ht₀, hid', -, -, hreplaced'⟩ := line_of_map h ht
    have := hl.once s₀ hs₀ t₀ ht₀ r (hreplaced.trans hr) (hreplaced'.trans hr')
    omega
  · intro s hs
    obtain ⟨s₀, hs₀, -, -, hactive, hreplaced⟩ := line_of_map h hs
    rw [← hactive, ← hreplaced]
    exact hl.active s₀ hs₀

/-- From the invariant to the chains. -/
theorem Lineage.intact (hk : db.Keyed) (h : Lineage db.serials) : UnitsIntact db := by
  have hrank : ∀ s t, Replaces db s t → s.id < t.id ∧ t.id < nextId (·.id) db.serials := by
    intro s t ⟨hs, ht, hr⟩
    obtain ⟨t', ht', hid, hless, -⟩ := h.forward s hs t.id hr
    refine ⟨by omega, ?_⟩
    have hle : t.id ≤ maxId (fun s : Serial => s.id) db.serials := le_maxId _ ht
    show t.id < maxId _ db.serials + 1
    omega
  have hchains : Chains (Replaces db) := by
    refine Chains.of_rank (fun s t hst => (hrank s t hst).1) ?_ ?_
    · intro s t t' ⟨_, ht, hr⟩ ⟨_, ht', hr'⟩
      exact hk.serial_eq ht ht' (Option.some.inj (hr.symm.trans hr'))
    · intro s s' t ⟨hs, _, hr⟩ ⟨hs', _, hr'⟩
      exact hk.serial_eq hs hs' (h.once s hs s' hs' t.id hr hr')
  -- The last serials are those that nothing replaced.
  have hlast : ∀ s ∈ db.serials, Last (Replaces db) s ↔ s.active = true := by
    intro s hs
    rw [h.active s hs]
    constructor
    · intro hend
      cases hr : s.replacedById with
      | none => rfl
      | some r =>
        obtain ⟨t, ht, rfl, -, -⟩ := h.forward s hs r hr
        exact absurd ⟨hs, ht, hr⟩ (hend t)
    · intro hnone t ⟨_, _, hr⟩
      rw [hnone] at hr
      exact absurd hr (by simp)
  refine ⟨hchains, ?_, ?_, hk.serialNumbers⟩
  · intro s t ⟨hs, ht, hr⟩
    obtain ⟨t', ht', hid, -, hproduct⟩ := h.forward s hs t.id hr
    rw [← hk.serial_eq ht' ht hid]
    exact hproduct.symm
  · intro s hs
    obtain ⟨last, hreach, honly⟩ := hchains.lastOfChain hrank s
    have hmem : last ∈ db.serials := by
      rcases Relation.ReflTransGen.cases_tail hreach with rfl | ⟨t, -, -, hlast', -⟩
      · exact hs
      · exact hlast'
    refine ⟨last, hmem, Or.inl hreach, fun t ht hst => ?_⟩
    rw [← hlast t ht]
    exact honly t hst

/-! ## The commands -/

/-- Allocated serials are new units. -/
theorem Lineage.allocate {numbers : List PyStr} {new : List Serial} (h : Lineage db.serials)
    (hnew : Allocated numbers new) (hserials : db'.serials = db.serials ++ new) :
    Lineage db'.serials := by
  have hold : ∀ s ∈ db'.serials, ∀ r, s.replacedById = some r → s ∈ db.serials := by
    intro s hs r hr
    rw [hserials] at hs
    rcases List.mem_append.mp hs with hs | hs
    · exact hs
    · rw [hnew.unreplaced s hs] at hr
      exact absurd hr (by simp)
  constructor
  · intro s hs r hr
    obtain ⟨t, ht, hid, hless, hproduct⟩ := h.forward s (hold s hs r hr) r hr
    exact ⟨t, hserials ▸ List.mem_append_left _ ht, hid, hless, hproduct⟩
  · intro s hs t ht r hr hr'
    exact h.once s (hold s hs r hr) t (hold t ht r hr') r hr hr'
  · intro s hs
    rw [hserials] at hs
    rcases List.mem_append.mp hs with hs | hs
    · exact h.active s hs
    · simp [hnew.active s hs, hnew.unreplaced s hs]

/-- The serials after a replacement. -/
private theorem mem_replaced {old : Serial} {number : PyStr} {status : SerialStatus} {now : Instant}
    {serials : List Serial} (hold : old ∈ db.serials)
    (hserials : serials = modifyRow (·.id) old.id
      (Serial.changed fun _ => old.retiredBy (nextId (·.id) db.serials))
      (db.serials ++ [replacementRow old number status now (nextId (·.id) db.serials)]))
    {s : Serial} (hs : s ∈ serials) (hk : db.Keyed) :
    s = old.retiredBy (nextId (·.id) db.serials) ∨ (s ∈ db.serials ∧ s.id ≠ old.id) ∨
      s = replacementRow old number status now (nextId (·.id) db.serials) := by
  rw [hserials] at hs
  obtain ⟨s₀, hs₀, rfl⟩ := mem_modifyRow.mp hs
  by_cases hid : s₀.id = old.id
  · rw [if_pos hid]
    rcases List.mem_append.mp hs₀ with hs₀ | hs₀
    · obtain rfl := hk.serial_eq hs₀ hold hid
      exact Or.inl rfl
    · rw [List.mem_singleton.mp hs₀] at hid
      exact absurd hid.symm (nextId_fresh hold)
  · rw [if_neg hid]
    rcases List.mem_append.mp hs₀ with hs₀ | hs₀
    · exact Or.inr (Or.inl ⟨hs₀, hid⟩)
    · exact Or.inr (Or.inr (List.mem_singleton.mp hs₀))

/-- A replacement adds one link, from a serial that had none to a new one. -/
theorem Lineage.replace {old : Serial} {number : PyStr} {status : SerialStatus} {now : Instant}
    (hk : db.Keyed) (h : Lineage db.serials) (hold : old ∈ db.serials) (hactive : old.active = true)
    (hserials : db'.serials = modifyRow (·.id) old.id
      (Serial.changed fun _ => old.retiredBy (nextId (·.id) db.serials))
      (db.serials ++ [replacementRow old number status now (nextId (·.id) db.serials)])) :
    Lineage db'.serials := by
  let next := nextId (fun s : Serial => s.id) db.serials
  have hless : ∀ s ∈ db.serials, s.id < next := by
    intro s hs
    have hle : s.id ≤ maxId (fun s : Serial => s.id) db.serials := le_maxId _ hs
    show s.id < maxId _ db.serials + 1
    omega
  have hmem : ∀ s ∈ db.serials, s.id ≠ old.id → s ∈ db'.serials := by
    intro s hs hne
    rw [hserials]
    exact mem_modifyRow.mpr ⟨s, List.mem_append_left _ hs, (if_neg hne).symm⟩
  have hretired : old.retiredBy next ∈ db'.serials := by
    rw [hserials]
    exact mem_modifyRow.mpr ⟨old, List.mem_append_left _ hold, (if_pos rfl).symm⟩
  have hnew : replacementRow old number status now next ∈ db'.serials := by
    rw [hserials]
    refine mem_modifyRow.mpr ⟨_, List.mem_append_right _ (List.mem_singleton_self _), ?_⟩
    exact (if_neg (nextId_fresh hold).symm).symm
  -- No older serial points at the new one.
  have hfree : ∀ s ∈ db.serials, s.replacedById ≠ some next := by
    intro s hs hr
    obtain ⟨t, ht, hid, -, -⟩ := h.forward s hs next hr
    have := hless t ht
    omega
  constructor
  · intro s hs r hr
    rcases mem_replaced hold hserials hs hk with rfl | ⟨hs, hne⟩ | rfl
    · obtain rfl : next = r := Option.some.inj hr
      exact ⟨_, hnew, rfl, hless old hold, rfl⟩
    · obtain ⟨t, ht, hid, hlt, hproduct⟩ := h.forward s hs r hr
      by_cases ht' : t.id = old.id
      · obtain rfl := hk.serial_eq ht hold ht'
        exact ⟨_, hretired, hid, hlt, hproduct⟩
      · exact ⟨t, hmem t ht ht', hid, hlt, hproduct⟩
    · exact absurd hr (by simp [replacementRow])
  · intro s hs t ht r hr hr'
    rcases mem_replaced hold hserials hs hk with rfl | ⟨hs, -⟩ | rfl
    · obtain rfl : next = r := Option.some.inj hr
      rcases mem_replaced hold hserials ht hk with rfl | ⟨ht, -⟩ | rfl
      · rfl
      · exact absurd hr' (hfree t ht)
      · exact absurd hr' (by simp [replacementRow])
    · rcases mem_replaced hold hserials ht hk with rfl | ⟨ht, -⟩ | rfl
      · obtain rfl : next = r := Option.some.inj hr'
        exact absurd hr (hfree s hs)
      · exact h.once s hs t ht r hr hr'
      · exact absurd hr' (by simp [replacementRow])
    · exact absurd hr (by simp [replacementRow])
  · intro s hs
    rcases mem_replaced hold hserials hs hk with rfl | ⟨hs, -⟩ | rfl
    · simp [Serial.retiredBy]
    · exact h.active s hs
    · simp [replacementRow]

/-- A replacement takes one active serial of the product away and adds one. -/
theorem activeCount_replace {old : Serial} {number : PyStr} {status : SerialStatus} {now : Instant}
    (hk : db.Keyed) (hold : old ∈ db.serials) (hactive : old.active = true)
    (hserials : db'.serials = modifyRow (·.id) old.id
      (Serial.changed fun _ => old.retiredBy (nextId (·.id) db.serials))
      (db.serials ++ [replacementRow old number status now (nextId (·.id) db.serials)]))
    (productId : Nat) : db'.activeCount productId = db.activeCount productId := by
  have hsplit : db'.serials = modifyRow (·.id) old.id
      (Serial.changed fun _ => old.retiredBy (nextId (·.id) db.serials)) db.serials ++
        [replacementRow old number status now (nextId (·.id) db.serials)] := by
    have hne : ¬ (replacementRow old number status now (nextId (·.id) db.serials)).id = old.id :=
      (nextId_fresh hold).symm
    rw [hserials]
    unfold modifyRow
    rw [List.map_append, List.map_singleton, if_neg hne]
  have hcount :=
    countP_modifyRow (g := Serial.changed fun _ => old.retiredBy (nextId (·.id) db.serials))
    hk.serials hold fun s => s.active && decide (s.productId = productId)
  have hgone : (Serial.changed (fun _ => old.retiredBy (nextId (·.id) db.serials)) old).active =
      false := rfl
  rw [hgone, hactive] at hcount
  unfold Db.activeCount
  rw [hsplit, List.countP_append, List.countP_singleton]
  by_cases hproduct : old.productId = productId
  · simp [replacementRow, hproduct] at hcount ⊢
    omega
  · simp [replacementRow, hproduct] at hcount ⊢
    omega

/-! ## One action -/

/-- What the handler of a command that is no transfer does to the serials. -/
inductive SerialsAfter (rt : Runtime) (parts : CommandParts) (db db' : Db) : Prop
  | kept (h : db'.serials = db.serials)
  | allocated (htype : parts.commandType = py "QR_ALLOCATED") (listed : List ParsedSerial)
      (new : List Serial) (hlisted : parseAllocatedSerials rt parts.payload = .ok listed)
      (hnew : Allocated (listed.map (·.serialNumber)) new) (h : db'.serials = db.serials ++ new)
  | replaced (htype : parts.commandType = py "QR_REPLACE") (request : ReplaceRequest) (old : Serial)
      (status : SerialStatus) (now : Instant) (hold : Retires db request old)
      (h : db'.serials = modifyRow (·.id) old.id
        (Serial.changed fun _ => old.retiredBy (nextId (·.id) db.serials))
        (db.serials ++
          [replacementRow old request.newNumber status now (nextId (·.id) db.serials)]))

private theorem handled_serials {now : Instant} {uuid : PyStr} {parts : CommandParts}
    (htype : parts.commandType ∉ transferCommands) (h : Handled rt st now uuid parts db db') :
    SerialsAfter rt parts db db' := by
  obtain ⟨before, after, db₁, hran, rfl⟩ := h
  simp only [transferCommands, List.mem_cons, List.not_mem_nil, or_false, not_or] at htype
  cases runHandler_ok hran with
  | available ha => exact absurd ha (not_or.mpr ⟨htype.1, htype.2.1⟩)
  | receipt hr => exact absurd hr (not_or.mpr htype.2.2)
  | reviewed _ hrun =>
    have hkept :=
      applyReceiptReviewCommand_keeps (f := fun db : Db => db.serials) (fun _ _ => rfl) rt
      parts.payload { db with inbox := before }
    rw [hrun] at hkept
    exact .kept hkept
  | allocated hallocated hrun =>
    obtain ⟨listed, new, hlisted, hnew, hserials⟩ := applyQrAllocatedCommand_ok hrun
    exact .allocated hallocated listed new hlisted hnew hserials
  | replaced hreplace hrun =>
    obtain ⟨request, old, status, -, hold, hserials⟩ := applyQrReplaceCommand_ok hrun
    exact .replaced hreplace request old status now
      ⟨hold.mem, hold.number, hold.active, hold.status, hold.unused⟩ hserials
  | upserted _ hrun =>
    have hkept :=
      applyProductUpsertCommand_keeps (f := fun db : Db => db.serials) (fun _ _ => rfl) rt st
      parts.payload { db with inbox := before }
    rw [hrun] at hkept
    exact .kept hkept

private theorem lineage_of_keeps {α : Type} {x : Tx α} (h : Tx.Keeps Db.lines x) :
    Tx.Preserves (fun db => Lineage db.serials) x :=
  .of_keeps h fun _ _ he hl => hl.of_lines he

private theorem movesSerials_lines : MovesSerials Db.lines where
  place _ _ := .modify fun _ => map_modifyRow fun _ _ _ => rfl
  claim _ _ _ _ := .bind (.reads _) fun _ => .bind (.raiseIf _ _) fun _ =>
    .modify fun _ => map_modifyRow fun _ _ _ => rfl

/-- Requests do not touch the links. -/
private theorem writesOf_lines (c : StockCommit) : Tx.Keeps Db.lines (writesOf c) := by
  have hitems : ∀ db x, Db.lines { db with transferItems := x } = Db.lines db := fun _ _ => rfl
  refine writesOf_keeps movesSerials_lines (marksItems_of_frame hitems) (fun _ _ => rfl)
    (fun _ _ => rfl)
    (fun _ _ => rfl) (fun _ _ => rfl) (fun _ _ => rfl) (fun _ _ _ => rfl) c ?_ ?_
  · rintro row rfl
    exact .bind (insertTransferItem_keeps hitems _) fun _ => .pure _
  · rintro itemId rfl
    exact deleteTransferItem_keeps hitems _

/-- A command that is no transfer keeps the invariant. -/
private theorem command_lineage {now : Instant} {uuid : PyStr} {fields : List (PyStr × Json)}
    {row : MasterInboxCommand}
    (hactive : ∀ parts, commandParts rt fields = .ok parts → parts.commandType ∉ transferCommands)
    (hk : db.Keyed) (h : Lineage db.serials)
    (hx : applyMasterCommand rt st now uuid fields db = (.ok row, db')) : Lineage db'.serials := by
  obtain ⟨parts, hparts, rfl | hhandled⟩ := applyMasterCommand_ran hx
  · exact h
  · cases handled_serials (hactive parts hparts) hhandled with
    | kept hserials => rwa [hserials]
    | allocated _ listed new _ hnew hserials => exact h.allocate hnew hserials
    | replaced _ request old status now hold hserials =>
      exact h.replace hk hold.mem hold.active hserials

/-! ## Runs -/

/-- From any state whose links are in order, every run without transfer commands leaves
the units intact; and from every state reached, a replacement leaves the number of active
serials of each product as it was, and an allocation adds the serials it lists or
nothing. -/
theorem units_intact (rt : Runtime) (st : Settings) {start : Db} (hkeyed : start.Keyed)
    (hlineage : Lineage start.serials) (as : List StockAction) (has : ∀ a ∈ as, a.keepsActive rt)
    (db : Db) (hexec : exec (stockMachine rt st) start as = some db) :
    UnitsIntact db ∧
    ∀ now uuid fields parts, commandParts rt fields = .ok parts →
      (parts.commandType = py "QR_REPLACE" → ∀ productId,
        (stockStep rt st db (.command now uuid fields)).activeCount productId
          = db.activeCount productId) ∧
      (parts.commandType = py "QR_ALLOCATED" →
        (stockStep rt st db (.command now uuid fields)).serials = db.serials ∨
        ∃ listed new, parseAllocatedSerials rt parts.payload = .ok listed ∧
          Allocated (listed.map (·.serialNumber)) new ∧
          (stockStep rt st db (.command now uuid fields)).serials = db.serials ++ new) := by
  obtain ⟨hk, hl⟩ :=
    keyed_invariant (I := fun db => Lineage db.serials) (P := fun a => a.keepsActive rt)
    (fun c db db' _ hl _ hx => lineage_of_keeps (writesOf_lines c) db db' _ hl hx)
    (fun m db db' u _ hl hx =>
      lineage_of_keeps (relocateStock_keeps movesSerials_lines (fun _ _ => rfl)
      (fun _ _ => rfl) (fun _ _ => rfl) (fun _ _ => rfl) (fun _ _ _ => rfl) st m) db db' u hl hx)
    (fun now uuid fields db db' row hactive hk hl hx => command_lineage hactive hk hl hx)
    has hkeyed hlineage hexec
  refine ⟨hl.intact hk, fun now uuid fields parts hparts => ?_⟩
  -- A command that raises is rolled back; another one ran its handler or did nothing.
  have hstep : ∀ htype : parts.commandType ∉ transferCommands,
      SerialsAfter rt parts db (stockStep rt st db (.command now uuid fields)) := by
    intro htype
    rcases Tx.atomically_cases (applyMasterCommand rt st now uuid fields) db with
      ⟨row, db', hx, hran⟩ | ⟨e, db', hx, hran⟩
    · have hserves : stockStep rt st db (.command now uuid fields) = db' := congrArg Prod.snd hran
      rw [hserves]
      obtain ⟨parts', hparts', hcase⟩ := applyMasterCommand_ran hx
      obtain rfl := Except.ok.inj (hparts.symm.trans hparts')
      rcases hcase with rfl | hhandled
      · exact .kept rfl
      · exact handled_serials htype hhandled
    · have hserves : stockStep rt st db (.command now uuid fields) = db := congrArg Prod.snd hran
      exact .kept (by rw [hserves])
  constructor
  · intro htype productId
    cases hstep (by rw [htype]; decide) with
    | kept hserials => unfold Db.activeCount; rw [hserials]
    | allocated hother => exact absurd (htype.symm.trans hother) (by decide)
    | replaced _ request old status now hold hserials =>
      exact activeCount_replace hk hold.mem hold.active hserials productId
  · intro htype
    cases hstep (by rw [htype]; decide) with
    | kept hserials => exact Or.inl hserials
    | allocated _ listed new hlisted hnew hserials =>
      exact Or.inr ⟨listed, new, hlisted, hnew, hserials⟩
    | replaced hother => exact absurd (htype.symm.trans hother) (by decide)

/-- A product that is labelled with QR codes. -/
def labelledProduct : Product :=
  { id := 1, productCode := py "LAMP", productName := py "Lamp", nickname := none, category := none,
    brand := none, hsn := py "9405", gstRate := .zero, unit := py "Pcs", defaultRate := .zero,
    salesDiscountRate := .zero, shelfVerificationInterval := 1, tallyStockItemName := py "Lamp",
    alternateTallyStockItemName := none, active := true }

/-- One of its units, in stock. -/
def labelledUnit : Serial :=
  { id := 1, serialNumber := py "LAMP-1", productId := 1, status := .inStock, active := true,
    createdAt := 0, replacedById := none, productBatchNumber := none, mfgDate := none,
    expiryDate := none, warehouse := none, warehouseLevel := .companyWarehouse, locationId := none }

/-- A node whose baseline is queued, with one unit. -/
def labelledDb : Db :=
  { Db.empty with
    products := [labelledProduct]
    serials := [labelledUnit]
    outbox := [{
      id := 1, eventId := py "11111111-1111-4111-8111-111111111111",
      eventType := py "STOCK_SNAPSHOT", schemaVersion := 1, aggregateType := py "INITIAL_INVENTORY",
      aggregateId := py "HOME:INITIAL-INVENTORY:PART-1", batchId := none, payloadJson := py "",
      payloadSha256 := py "", status := .sent, attempts := 1, nextAttemptAt := none,
      lastError := none, sendingAt := none, sentAt := some 0 }]
    outboxSequence := 1 }

/-- The command that replaces the unit's code. -/
def replaceFields : List (PyStr × Json) :=
  [(py "command_id", .str (py "1")), (py "command_type", .str (py "QR_REPLACE")),
    (py "payload", .obj [(py "version", .int 1), (py "franchise_code", .str (py "HOME")),
      (py "old_serial_number", .str (py "LAMP-1")),
      (py "new_serial_number", .str (py "SQR-00000000000000000000000000000001")),
      (py "expected_status", .str (py "IN_STOCK"))])]

/-- The unit's code is replaced. -/
def lampReplaced : StockAction :=
  .command 63900000000000000 (py "22222222-2222-4222-8222-222222222222") replaceFields

private theorem keepsActive_of_type {now : Instant} {uuid type : PyStr}
    {fields : List (PyStr × Json)} (h : (commandParts rt fields).map (·.commandType) = .ok type)
    (htype : type ∉ transferCommands) :
    (StockAction.command now uuid fields).keepsActive rt := by
  intro parts hparts
  rw [hparts] at h
  have he : parts.commandType = type := Except.ok.inj h
  rwa [he]

/-- The guarantee after it: the unit has one active code. -/
theorem units_intact_lamp :
    ∃ db, exec (stockMachine .plain homeSettings) labelledDb [lampReplaced] = some db ∧
      db.serials.map Serial.line = [(1, 1, false, some 2), (2, 1, true, none)] ∧
      UnitsIntact db := by
  have hrun : (exec (stockMachine .plain homeSettings) labelledDb [lampReplaced]).map
      (fun db => db.serials.map Serial.line) =
          some [(1, 1, false, some 2), (2, 1, true, none)] := by
    decide +kernel
  have hkeyed : labelledDb.Keyed := by
    constructor <;> decide +kernel
  have hlineage : Lineage labelledDb.serials := by
    constructor <;> simp [labelledDb, labelledUnit]
  have hactions : ∀ a ∈ [lampReplaced], a.keepsActive .plain := by
    intro a ha
    obtain rfl := List.mem_singleton.mp ha
    have htype : (commandParts .plain replaceFields).map (·.commandType) =
        .ok (py "QR_REPLACE") := by
      decide +kernel
    exact keepsActive_of_type htype (by decide)
  obtain ⟨db, hdb, hlines⟩ := Option.map_eq_some_iff.mp hrun
  exact ⟨db, hdb, hlines,
    (units_intact .plain homeSettings hkeyed hlineage [lampReplaced] hactions db hdb).1⟩

end SetuoraLite
