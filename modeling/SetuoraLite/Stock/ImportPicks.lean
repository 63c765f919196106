import SetuoraLite.Stock.FirstOut

/-!
# Picking line by line

The Excel import picks the serials of each line by a query of its own and leaves out by
hand what the lines before have taken. `line_picks_are_one_pick`: what the lines take of a
product is one first-expiry pick of all they ask for, cut into the lines; and an import
that asks for more of a product than there is adds nothing.
-/

namespace SetuoraLite

open Lib

variable {db : Db} {batchType : BatchType}

/-- Filled lines have as many serials of a product as they ask for. -/
theorem LinesFilled.count {lines : List AssignmentLine}
    {picked : List (AssignmentLine × List Serial)} (h : LinesFilled lines picked)
    (productId : Nat) :
    ((pickedSerials picked).filter fun s => s.productId = productId).length =
        demandOf productId lines := by
  obtain ⟨rfl, hfilled⟩ := h
  induction picked with
  | nil => rfl
  | cons p picked ih =>
    obtain ⟨hlength, hproduct⟩ := hfilled p List.mem_cons_self
    have hserials : pickedSerials (p :: picked) = p.2 ++ pickedSerials picked := rfl
    rw [hserials, List.filter_append, List.length_append, pick_count hproduct hlength,
      ih fun q hq => hfilled q (List.mem_cons_of_mem p hq), List.map_cons, demandOf_cons]

/-- Serials that begin the candidates of each of their products are distinct. -/
theorem Beginnings.nodup (hkeyed : db.Keyed) {selected : List Serial}
    (h : Beginnings db batchType selected) :
    selected.Nodup := by
  rw [List.nodup_iff_count_le_one]
  intro s
  have hproduct := (h s.productId).sublist.nodup (fefoSequence_nodup hkeyed)
  have hcount : selected.count s = (selected.filter fun s' => s'.productId = s.productId).count s :=
    (List.count_filter (by simp)).symm
  rw [hcount]
  exact List.nodup_iff_count_le_one.mp hproduct s

/-- What the lines have taken is one pick of each product. -/
theorem Beginnings.one_pick {lines : List AssignmentLine}
    {picked : List (AssignmentLine × List Serial)}
    (h : Beginnings db batchType (pickedSerials picked)) (hfilled : LinesFilled lines picked)
    (productId : Nat) :
    ((pickedSerials picked).filter fun s => s.productId = productId)
      = fefoCandidateSerials db productId (demandOf productId lines)
          (fefoAvailableStatuses batchType) := by
  rw [fefoCandidateSerials_eq, ← hfilled.count productId]
  exact List.prefix_iff_eq_take.mp (h productId)

/-- Lines that were filled did not ask for too much. -/
theorem Beginnings.not_short {lines : List AssignmentLine}
    {picked : List (AssignmentLine × List Serial)}
    (h : Beginnings db batchType (pickedSerials picked)) (hfilled : LinesFilled lines picked)
    (productId : Nat) :
    demandOf productId lines ≤ (available db batchType productId).length := by
  rw [← hfilled.count productId, ← (fefoSequence_perm).length_eq]
  exact (h productId).length_le

/-- For every stock and every list of lines: if the lines are picked, nothing has changed, every
line has exactly its quantity of serials of its product, no serial is in two places, and the
serials of a product, in the order of the lines, are what one selection of all that is asked for
returns. If a product has fewer candidates than that, an import of the lines raises and changes
nothing. -/
theorem line_picks_are_one_pick (db : Db) (hkeyed : db.Keyed) (batchType : BatchType)
    (lines : List AssignmentLine) :
    (∀ picked db',
      (pickImportSerials (fefoAvailableStatuses batchType) [] lines).serve commitStock db
        = (.ok picked, db') →
      db' = db ∧ LinesFilled lines picked ∧ (∀ p ∈ picked, p.2.Nodup) ∧
        (picked.map Prod.snd).Pairwise List.Disjoint ∧
        ∀ productId, ((pickedSerials picked).filter fun s => s.productId = productId)
          = fefoCandidateSerials db productId (demandOf productId lines)
              (fefoAvailableStatuses batchType)) ∧
    ((∃ productId, (available db batchType productId).length < demandOf productId lines) →
      ∀ (batch : Batch) user parse now, db.batch batch.id = some batch →
      batch.batchType = batchType →
        parse db = .ok lines →
        ∃ e, (importTallyExcel batch.id user parse now).serve commitStock db = (.error e, db)) := by
  -- No unit is taken when the lines begin.
  have hnothing : Beginnings db batchType [] := fun _ => List.nil_prefix
  have hpick := pickImportSerials_serves hkeyed lines [] hnothing
  constructor
  · intro picked db' hok
    unfold Request.Serves at hpick
    rw [hok] at hpick
    -- The units picked are beginnings of the orders of their products, so none is picked twice.
    obtain ⟨rfl, hbeginnings, hfilled⟩ := hpick
    have hnodup : (picked.map Prod.snd).flatten.Nodup := hbeginnings.nodup hkeyed
    obtain ⟨hlines, hdisjoint⟩ := List.nodup_flatten.mp hnodup
    exact ⟨rfl, hfilled, fun p hp => hlines p.2 (List.mem_map_of_mem hp), hdisjoint,
      hbeginnings.one_pick hfilled⟩
  · rintro ⟨productId, hshort⟩ batch user parse now hbatch rfl hparse
    -- A shortage is raised by the pick, and the import passes it on.
    have hserves : (importTallyExcel batch.id user parse now).Serves commitStock (fun _ _ => False)
        (fun _ t => t = db) db := by
      refine importTallyExcel_lines hbatch user parse now (fun _ => rfl) fun lines' hlines' => ?_
      obtain rfl := Except.ok.inj (hparse.symm.trans hlines')
      refine (hpick.imp (fun _ _ h => h) fun _ _ h => h.1).bind fun picked t ht => ?_
      obtain ⟨rfl, hbeginnings, hfilled⟩ := ht
      have henough := Beginnings.not_short hbeginnings hfilled productId
      omega
    unfold Request.Serves at hserves
    generalize (importTallyExcel batch.id user parse now).serve commitStock db =
      outcome at hserves ⊢
    obtain ⟨answer, t⟩ := outcome
    cases answer with
    | ok _ => exact hserves.elim
    | error e => exact ⟨e, by rw [hserves]⟩

/-- A line that asks for a number of bottles. -/
def bottleLine (quantity : Nat) : AssignmentLine :=
  { product := { id := 1, productCode := py "BOTTLE", productName := py "Bottle", nickname := none,
                 category := none, brand := none, hsn := py "7010", gstRate := .zero,
                 unit := py "Pcs",
                 defaultRate := .zero, salesDiscountRate := .zero, shelfVerificationInterval := 1,
                 tallyStockItemName := py "Bottle", alternateTallyStockItemName := none,
                 active := true }
    quantity := quantity
    rate := none }

/-- Two lines for one bottle and for two. -/
theorem line_picks_are_one_pick_bottles :
    ∃ picked, (pickImportSerials (fefoAvailableStatuses .sale) []
      [bottleLine 1, bottleLine 2]).serve commitStock
        bottleDb = (.ok picked, bottleDb) ∧
      (picked.map Prod.snd).Pairwise List.Disjoint ∧
      ((pickedSerials picked).filter fun s => s.productId = 1)
        = fefoCandidateSerials bottleDb 1 3 (fefoAvailableStatuses .sale) := by
  have hkeyed : bottleDb.Keyed := by
    constructor <;> decide +kernel
  have hpicks := (line_picks_are_one_pick bottleDb hkeyed .sale [bottleLine 1, bottleLine 2]).1
  cases hserve :
    (pickImportSerials (fefoAvailableStatuses .sale) [] [bottleLine 1, bottleLine 2]).serve
    commitStock
      bottleDb with
  | mk answer db' =>
    cases answer with
    | ok picked =>
      obtain ⟨rfl, -, -, hdisjoint, hone⟩ := hpicks picked db' hserve
      exact ⟨picked, rfl, hdisjoint, hone 1⟩
    | error e =>
      have hok : ((pickImportSerials (fefoAvailableStatuses .sale) []
          [bottleLine 1, bottleLine 2]).serve commitStock
          bottleDb).1.isOk = true := by
        decide +kernel
      rw [hserve] at hok
      cases hok

end SetuoraLite
