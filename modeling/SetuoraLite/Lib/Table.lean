import Mathlib.Data.List.Basic
import Mathlib.Data.List.Nodup

/-!
# Tables

A table is a list of rows in insertion order, each with a key that no other row
has. `lookup` is a read by key, `modifyRow` an update by key, and an insert
appends a row under a key that is not in use: `nextId` for a plain integer primary
key, the caller's own counter for `AUTOINCREMENT`.
-/

namespace Lib

universe u v w

variable {ρ : Type u} {κ : Type v} [DecidableEq κ] {β : Type w}

/-- The row with a key. -/
def lookup (key : ρ → κ) (k : κ) (rows : List ρ) : Option ρ := rows.find? fun r => key r = k

/-- Change the row with a key. -/
def modifyRow (key : ρ → κ) (k : κ) (g : ρ → ρ) (rows : List ρ) : List ρ :=
  rows.map fun r => if key r = k then g r else r

/-- The largest id in use, or zero. -/
def maxId (key : ρ → Nat) (rows : List ρ) : Nat := rows.foldr (fun r n => max (key r) n) 0

/-- The id SQLite gives the next row of a table without `AUTOINCREMENT`. -/
def nextId (key : ρ → Nat) (rows : List ρ) : Nat := maxId key rows + 1

/-- Change the rows whose keys are in a list. -/
def modifyRows (key : ρ → κ) (ks : List κ) (g : ρ → ρ) (rows : List ρ) : List ρ :=
  rows.map fun r => if key r ∈ ks then g r else r

variable {key : ρ → κ} {k : κ} {rows : List ρ}

/-- A row that is found is stored, under the key. -/
theorem lookup_some {r : ρ} (h : lookup key k rows = some r) : r ∈ rows ∧ key r = k :=
  ⟨List.mem_of_find?_eq_some h, by simpa using List.find?_some h⟩

/-- Nothing is found when no row has the key. -/
theorem lookup_none : lookup key k rows = none ↔ ∀ r ∈ rows, key r ≠ k := by
  simp [lookup]

/-- A row is found by its key when no other row has it. -/
theorem lookup_of_mem (hnd : (rows.map key).Nodup) {r : ρ} (h : r ∈ rows) :
    lookup key (key r) rows = some r := by
  induction rows with
  | nil => exact absurd h List.not_mem_nil
  | cons r' rows ih =>
    rw [List.map_cons, List.nodup_cons] at hnd
    rcases List.mem_cons.mp h with rfl | hmem
    · simp [lookup]
    · have hne : key r' ≠ key r := by
        intro he
        exact hnd.1 (he ▸ List.mem_map_of_mem hmem)
      have := ih hnd.2 hmem
      simpa [lookup, hne] using this

/-- Two rows with one key are one row. -/
theorem eq_of_key_eq (hnd : (rows.map key).Nodup) {r r' : ρ} (h : r ∈ rows) (h' : r' ∈ rows)
    (he : key r = key r') : r = r' := by
  have h₁ := lookup_of_mem hnd h
  have h₂ := lookup_of_mem hnd h'
  rw [he, h₂] at h₁
  exact (Option.some.inj h₁).symm

/-- The rows with the key of a row are that row. -/
theorem filter_key_eq (hnd : (rows.map key).Nodup) {r : ρ} (h : r ∈ rows) :
    rows.filter (fun q => key q = key r) = [r] := by
  induction rows with
  | nil => exact absurd h List.not_mem_nil
  | cons q rows ih =>
    rw [List.map_cons, List.nodup_cons] at hnd
    by_cases hq : key q = key r
    · -- No later row has the key, so the first one is the row.
      have hnone : ∀ q' ∈ rows, key q' ≠ key r := by
        intro q' hq' he
        exact hnd.1 (hq.trans he.symm ▸ List.mem_map_of_mem hq')
      have hr : r = q := by
        rcases List.mem_cons.mp h with rfl | hmem
        · rfl
        · exact absurd rfl (hnone r hmem)
      have hrest : rows.filter (fun q' => key q' = key r) = [] := by
        apply List.filter_eq_nil_iff.mpr
        intro q' hq'
        simpa using hnone q' hq'
      rw [List.filter_cons, hrest]
      simp [hq, hr]
    · have hmem : r ∈ rows := by
        rcases List.mem_cons.mp h with rfl | hmem
        · exact absurd rfl hq
        · exact hmem
      simpa [hq] using ih hnd.2 hmem

/-- The rows of the first part are found first. -/
theorem lookup_append (rows' : List ρ) :
    lookup key k (rows ++ rows') = (lookup key k rows).or (lookup key k rows') := by
  simp [lookup, List.find?_append]

/-- A change that a column does not show. -/
theorem map_modifyRow {f : ρ → β} {g : ρ → ρ} (h : ∀ r ∈ rows, key r = k → f (g r) = f r) :
    (modifyRow key k g rows).map f = rows.map f := by
  unfold modifyRow
  rw [List.map_map]
  apply List.map_congr_left
  intro r hr
  show f (if key r = k then g r else r) = f r
  split
  next hk => exact h r hr hk
  next => rfl

/-- The rows after a change, one by one. -/
theorem mem_modifyRow {g : ρ → ρ} {r : ρ} :
    r ∈ modifyRow key k g rows ↔ ∃ r₀ ∈ rows, r = if key r₀ = k then g r₀ else r₀ := by
  unfold modifyRow
  rw [List.mem_map]
  constructor
  · rintro ⟨r₀, h, rfl⟩
    exact ⟨r₀, h, rfl⟩
  · rintro ⟨r₀, h, rfl⟩
    exact ⟨r₀, h, rfl⟩

/-- The changed row is found under its key. -/
theorem lookup_modifyRow_self {g : ρ → ρ} (hg : ∀ r ∈ rows, key r = k → key (g r) = k) :
    lookup key k (modifyRow key k g rows) = (lookup key k rows).map g := by
  induction rows with
  | nil => rfl
  | cons r rows ih =>
    have ih' := ih fun r' hr' => hg r' (List.mem_cons_of_mem r hr')
    unfold lookup modifyRow at ih' ⊢
    rw [List.map_cons]
    by_cases h : key r = k
    · have := hg r List.mem_cons_self h
      simp [h, this]
    · simp [h, ih']

/-- Every other row is found as it was. -/
theorem lookup_modifyRow_ne {g : ρ → ρ} {k' : κ} (hne : k' ≠ k)
    (hg : ∀ r ∈ rows, key r = k → key (g r) = k) :
    lookup key k' (modifyRow key k g rows) = lookup key k' rows := by
  induction rows with
  | nil => rfl
  | cons r rows ih =>
    have ih' := ih fun r' hr' => hg r' (List.mem_cons_of_mem r hr')
    unfold lookup modifyRow at ih' ⊢
    rw [List.map_cons]
    by_cases h : key r = k
    · have h₁ := hg r List.mem_cons_self h
      have h₂ : ¬ k = k' := fun he => hne he.symm
      simp [h, h₁, h₂, ih']
    · by_cases h' : key r = k'
      · simp [h', hne]
      · simp [h, h', ih']

/-- No row, no change. -/
theorem modifyRow_of_ne {g : ρ → ρ} (h : ∀ r ∈ rows, key r ≠ k) :
    modifyRow key k g rows = rows := by
  unfold modifyRow
  rw [List.map_congr_left (g := id)]
  · exact List.map_id _
  · intro r hr
    rw [if_neg (h r hr)]
    rfl

/-- A change of nothing. -/
theorem modifyRow_same {g : ρ → ρ} (h : ∀ r, g r = r) : modifyRow key k g rows = rows := by
  simp [modifyRow, h]

/-- Changing the row just inserted changes no other. -/
theorem modifyRow_append_self {g : ρ → ρ} {r : ρ} (h : ∀ r' ∈ rows, key r' ≠ k) (hr : key r = k) :
    modifyRow key k g (rows ++ [r]) = rows ++ [g r] := by
  have hrows := modifyRow_of_ne (g := g) h
  unfold modifyRow at hrows ⊢
  rw [List.map_append, hrows, List.map_singleton, if_pos hr]

/-- Two changes of a row are one. -/
theorem modifyRow_modifyRow {g g' : ρ → ρ} (h : ∀ r ∈ rows, key r = k → key (g r) = k) :
    modifyRow key k g' (modifyRow key k g rows) = modifyRow key k (fun r => g' (g r)) rows := by
  unfold modifyRow
  rw [List.map_map]
  apply List.map_congr_left
  intro r hr
  by_cases hk : key r = k
  · simp [hk, h r hr hk]
  · simp [hk]

/-- A change of rows that a filter drops, before and after, does not show through it. -/
theorem filter_modifyRow {g : ρ → ρ} {p : ρ → Bool}
    (h : ∀ r ∈ rows, key r = k → p r = false ∧ p (g r) = false) :
    (modifyRow key k g rows).filter p = rows.filter p := by
  induction rows with
  | nil => rfl
  | cons r rows ih =>
    have ih' := ih fun r' hr' => h r' (List.mem_cons_of_mem r hr')
    unfold modifyRow at ih' ⊢
    rw [List.map_cons]
    by_cases hk : key r = k
    · obtain ⟨h₁, h₂⟩ := h r List.mem_cons_self hk
      simp [hk, h₁, h₂, ih']
    · simp [hk, List.filter_cons, ih']

/-- A row that a filter drops once it is changed: no other row comes through. -/
theorem filter_modifyRow_sublist {g : ρ → ρ} {p : ρ → Bool} (h : ∀ r, p (g r) = false) :
    ((modifyRow key k g rows).filter p).Sublist (rows.filter p) := by
  induction rows with
  | nil => exact List.Sublist.refl _
  | cons r rows ih =>
    unfold modifyRow at ih ⊢
    rw [List.map_cons]
    by_cases hk : key r = k
    · rw [if_pos hk, List.filter_cons_of_neg (by simp [h r])]
      exact ih.trans ((List.sublist_cons_self r rows).filter p)
    · rw [if_neg hk]
      by_cases hp : p r = true
      · rw [List.filter_cons_of_pos hp, List.filter_cons_of_pos hp]
        exact ih.cons_cons r
      · rw [List.filter_cons_of_neg hp, List.filter_cons_of_neg hp]
        exact ih

/-- Changing one row changes a count by that row. -/
theorem countP_modifyRow {g : ρ → ρ} (hnd : (rows.map key).Nodup) {r : ρ} (h : r ∈ rows)
    (p : ρ → Bool) : (modifyRow key (key r) g rows).countP p + (if p r then 1 else 0)
      = rows.countP p + if p (g r) then 1 else 0 := by
  induction rows with
  | nil => exact absurd h List.not_mem_nil
  | cons q rows ih =>
    rw [List.map_cons, List.nodup_cons] at hnd
    by_cases hq : key q = key r
    · -- No later row has the key, so the first one is the row.
      have hnone : ∀ q' ∈ rows, key q' ≠ key r := by
        intro q' hq' he
        exact hnd.1 (hq.trans he.symm ▸ List.mem_map_of_mem hq')
      have hr : r = q := by
        rcases List.mem_cons.mp h with rfl | hmem
        · rfl
        · exact absurd rfl (hnone r hmem)
      have hrest := modifyRow_of_ne (g := g) hnone
      subst hr
      unfold modifyRow at hrest ⊢
      rw [List.map_cons, hrest, if_pos rfl, List.countP_cons, List.countP_cons]
      omega
    · have hmem : r ∈ rows := by
        rcases List.mem_cons.mp h with rfl | hmem
        · exact absurd rfl hq
        · exact hmem
      have hrest := ih hnd.2 hmem
      unfold modifyRow at hrest ⊢
      rw [List.map_cons, if_neg hq, List.countP_cons, List.countP_cons]
      omega

/-- A changed row, seen through a function that shows its key and the change. -/
theorem modifyRow_map {f : ρ → β} {key' : β → κ} {g : ρ → ρ} {g' : β → β}
    (hkey : ∀ r, key' (f r) = key r) (hg : ∀ r, f (g r) = g' (f r)) :
    (modifyRow key k g rows).map f = modifyRow key' k g' (rows.map f) := by
  unfold modifyRow
  rw [List.map_map, List.map_map]
  apply List.map_congr_left
  intro r _
  show f (if key r = k then g r else r) = if key' (f r) = k then g' (f r) else f r
  rw [hkey r, ← hg r]
  split <;> rfl

/-! ## Changes of many rows -/

/-- No key, no change. -/
theorem modifyRows_nil {g : ρ → ρ} : modifyRows key [] g rows = rows := by
  simp [modifyRows]

/-- One key. -/
theorem modifyRows_singleton {g : ρ → ρ} : modifyRows key [k] g rows = modifyRow key k g rows := by
  simp [modifyRows, modifyRow]

/-- The rows after a change under several keys, one by one. -/
theorem mem_modifyRows {ks : List κ} {g : ρ → ρ} {r : ρ} :
    r ∈ modifyRows key ks g rows ↔ ∃ r₀ ∈ rows, r = if key r₀ ∈ ks then g r₀ else r₀ := by
  unfold modifyRows
  rw [List.mem_map]
  constructor
  · rintro ⟨r₀, h, rfl⟩
    exact ⟨r₀, h, rfl⟩
  · rintro ⟨r₀, h, rfl⟩
    exact ⟨r₀, h, rfl⟩

/-! What a flag shows when every changed row gets it, or loses it; `f` names the rows. -/

section Flags

variable {ks : List κ} {g : ρ → ρ} {f : ρ → β} {p : ρ → Bool} {x : β}

/-- A flag that the change sets. -/
theorem exists_modifyRows_on (hf : ∀ r, f (g r) = f r)
    (hon : ∀ r ∈ rows, key r ∈ ks → p (g r) = true) :
    (∃ r ∈ modifyRows key ks g rows, f r = x ∧ p r = true) ↔
      (∃ r ∈ rows, f r = x ∧ p r = true) ∨ ∃ r ∈ rows, key r ∈ ks ∧ f r = x := by
  constructor
  · intro ⟨r', hr', hx, hp⟩
    obtain ⟨r, hr, rfl⟩ := mem_modifyRows.mp hr'
    by_cases hk : key r ∈ ks
    · rw [if_pos hk, hf] at hx
      exact Or.inr ⟨r, hr, hk, hx⟩
    · rw [if_neg hk] at hx hp
      exact Or.inl ⟨r, hr, hx, hp⟩
  · intro h
    have hrow : ∀ r ∈ rows, f r = x → p r = true ∨ key r ∈ ks →
        ∃ r ∈ modifyRows key ks g rows, f r = x ∧ p r = true := by
      intro r hr hx hcase
      refine ⟨_, mem_modifyRows.mpr ⟨r, hr, rfl⟩, ?_⟩
      by_cases hk : key r ∈ ks
      · rw [if_pos hk, hf]
        exact ⟨hx, hon r hr hk⟩
      · rw [if_neg hk]
        exact ⟨hx, hcase.resolve_right hk⟩
    rcases h with ⟨r, hr, hx, hp⟩ | ⟨r, hr, hk, hx⟩
    · exact hrow r hr hx (Or.inl hp)
    · exact hrow r hr hx (Or.inr hk)

/-- A flag that the change clears. -/
theorem exists_modifyRows_off [DecidableEq β] (hnd : (rows.map f).Nodup)
    (hoff : ∀ r ∈ rows, key r ∈ ks → p (g r) = false) :
    (∃ r ∈ modifyRows key ks g rows, f r = x ∧ p r = true) ↔
      (∃ r ∈ rows, f r = x ∧ p r = true) ∧ ¬ ∃ r ∈ rows, key r ∈ ks ∧ f r = x := by
  constructor
  · intro ⟨r', hr', hx, hp⟩
    obtain ⟨r, hr, rfl⟩ := mem_modifyRows.mp hr'
    by_cases hk : key r ∈ ks
    · rw [if_pos hk, hoff r hr hk] at hp
      cases hp
    · rw [if_neg hk] at hx hp
      refine ⟨⟨r, hr, hx, hp⟩, fun ⟨q, hq, hqk, hqx⟩ => hk ?_⟩
      rwa [eq_of_key_eq hnd hr hq (hx.trans hqx.symm)]
  · intro ⟨⟨r, hr, hx, hp⟩, hnone⟩
    have hk : key r ∉ ks := fun hk => hnone ⟨r, hr, hk, hx⟩
    refine ⟨_, mem_modifyRows.mpr ⟨r, hr, rfl⟩, ?_⟩
    rw [if_neg hk]
    exact ⟨hx, hp⟩

end Flags

/-- One more row, not changed before. -/
theorem modifyRow_modifyRows {ks : List κ} {g : ρ → ρ} (hg : ∀ r ∈ rows, key (g r) = key r)
    (hk : k ∉ ks) :
    modifyRow key k g (modifyRows key ks g rows) = modifyRows key (ks ++ [k]) g rows := by
  unfold modifyRow modifyRows
  rw [List.map_map]
  apply List.map_congr_left
  intro r hr
  by_cases hin : key r ∈ ks
  · have hne : key r ≠ k := fun he => hk (he ▸ hin)
    simp [hin, hg r hr, hne]
  · by_cases he : key r = k
    · simp [he, hk]
    · simp [hin, he]

/-- Once more a row that may have been changed before, when changing twice is changing once. -/
theorem modifyRow_modifyRows_idem {ks : List κ} {g : ρ → ρ} (hg : ∀ r, key (g r) = key r)
    (hidem : ∀ r, g (g r) = g r) :
    modifyRow key k g (modifyRows key ks g rows) = modifyRows key (ks ++ [k]) g rows := by
  unfold modifyRow modifyRows
  rw [List.map_map]
  apply List.map_congr_left
  intro r _
  by_cases he : key r = k
  · subst he
    by_cases hin : key r ∈ ks
    · simp [hin, hg, hidem]
    · simp [hin]
  · by_cases hin : key r ∈ ks
    · simp [hin, hg, he]
    · simp [hin, he]

/-! ## Ids -/

theorem le_maxId (key : ρ → Nat) {rows : List ρ} {r : ρ} (h : r ∈ rows) :
    key r ≤ maxId key rows := by
  induction rows with
  | nil => exact absurd h List.not_mem_nil
  | cons r' rows ih =>
    unfold maxId at ih ⊢
    rw [List.foldr_cons]
    rcases List.mem_cons.mp h with rfl | hmem
    · exact Nat.le_max_left _ _
    · exact Nat.le_trans (ih hmem) (Nat.le_max_right _ _)

theorem maxId_le {key : ρ → Nat} {rows : List ρ} {n : Nat} (h : ∀ r ∈ rows, key r ≤ n) :
    maxId key rows ≤ n := by
  induction rows with
  | nil => exact Nat.zero_le n
  | cons r rows ih =>
    unfold maxId at ih ⊢
    rw [List.foldr_cons]
    exact Nat.max_le.mpr
      ⟨h r List.mem_cons_self, ih fun r' hr' => h r' (List.mem_cons_of_mem r hr')⟩

theorem nextId_fresh {key : ρ → Nat} {rows : List ρ} {r : ρ} (h : r ∈ rows) :
    key r ≠ nextId key rows := by
  have := le_maxId key h
  unfold nextId
  omega

theorem nextId_notMem (key : ρ → Nat) (rows : List ρ) : nextId key rows ∉ rows.map key := by
  intro h
  obtain ⟨r, hr, he⟩ := List.mem_map.mp h
  exact nextId_fresh hr he

/-- A row inserted under the next id comes after all others. -/
theorem sorted_append_nextId {key : ρ → Nat} {rows : List ρ} (h : (rows.map key).Pairwise (· < ·)) :
    (rows.map key ++ [nextId key rows]).Pairwise (· < ·) := by
  rw [List.pairwise_append]
  refine ⟨h, List.pairwise_singleton _ _, ?_⟩
  intro k hk n hn
  obtain ⟨r, hr, rfl⟩ := List.mem_map.mp hk
  rw [List.mem_singleton.mp hn]
  have := le_maxId key hr
  unfold nextId
  omega

theorem nodup_snoc {α : Type u} {l : List α} {a : α} (h : l.Nodup) (ha : a ∉ l) :
    (l ++ [a]).Nodup := by
  rw [List.nodup_append]
  refine ⟨h, List.nodup_singleton a, ?_⟩
  rintro b hb c hc rfl
  rw [List.mem_singleton.mp hc] at hb
  exact ha hb

/-- A row inserted under the next id shares its id with no other. -/
theorem nodup_append_nextId {key : ρ → Nat} {rows : List ρ} (h : (rows.map key).Nodup) {r : ρ}
    (hr : key r = nextId key rows) : ((rows ++ [r]).map key).Nodup := by
  rw [List.map_append, List.map_singleton, List.nodup_append]
  refine ⟨h, List.nodup_singleton _, ?_⟩
  rintro k hk k' hk' rfl
  obtain ⟨q, hq, rfl⟩ := List.mem_map.mp hk
  have hnext : key q = nextId key rows := (List.mem_singleton.mp hk').trans hr
  exact nextId_fresh hq hnext

end Lib
