import Mathlib.Data.List.Basic

/-!
# Tables and their foreign keys

A database as a family of tables whose rows refer to each other by id. A `DELETE` takes rows
out, does what the foreign keys to the table say (`CASCADE`, `SET NULL`), and fails when
afterwards a row refers to one that is gone.

`deleteAlls_spec`: emptying tables one after the other succeeds when each is emptied after the
tables that hold it. That is a condition on the schema alone (`Respects`).
-/

namespace Lib

/-- What a foreign key does when the row it refers to is deleted. -/
inductive OnDelete
  | restrict | cascade | setNull
deriving DecidableEq

/-- A column of one table that refers to the rows of another. -/
structure ForeignKey (τ κ : Type) where
  child : τ
  column : κ
  target : τ
  onDelete : OnDelete
deriving DecidableEq

/-- A row: its id, the ids in its foreign-key columns, and the rest. -/
structure Row (κ δ : Type) where
  id : Nat
  refs : List (κ × Nat)
  data : δ
deriving DecidableEq

/-- The rows of each table. -/
abbrev Tables (τ κ δ : Type) := τ → List (Row κ δ)

variable {τ κ δ : Type} [DecidableEq τ] [DecidableEq κ]

/-- The row refers to one of the ids through the column. -/
def Row.refersTo (r : Row κ δ) (column : κ) (ids : List Nat) : Bool :=
  r.refs.any fun ref => ref.1 = column && decide (ref.2 ∈ ids)

/-- Every reference is to a row that is there. -/
def Consistent (fks : List (ForeignKey τ κ)) (db : Tables τ κ δ) : Prop :=
  ∀ fk ∈ fks, ∀ r ∈ db fk.child, ∀ ref ∈ r.refs, ref.1 = fk.column →
    ref.2 ∈ (db fk.target).map (·.id)

instance (fks : List (ForeignKey τ κ)) (db : Tables τ κ δ) : Decidable (Consistent fks db) :=
  inferInstanceAs (Decidable (∀ fk ∈ fks, ∀ r ∈ db fk.child, ∀ ref ∈ r.refs,
    ref.1 = fk.column → ref.2 ∈ (db fk.target).map (·.id)))

/-- The row goes with the deleted ones. -/
def cascades (fks : List (ForeignKey τ κ)) (table : τ) (dead : List Nat) (child : τ)
    (r : Row κ δ) : Bool :=
  fks.any fun fk =>
    fk.child = child && fk.target = table && fk.onDelete = .cascade && r.refersTo fk.column dead

/-- The row without its references to the deleted ones that are set to null. -/
def Row.unset (fks : List (ForeignKey τ κ)) (table : τ) (dead : List Nat) (child : τ)
    (r : Row κ δ) : Row κ δ :=
  { r with refs := r.refs.filter fun ref => !(fks.any fun fk =>
      fk.child = child && fk.target = table && fk.onDelete = .setNull && fk.column = ref.1 &&
        decide (ref.2 ∈ dead)) }

/-- The tables after a `DELETE`. Tables whose rows cascade are the target of no foreign key, so
that one round of cascading is all. -/
def afterDelete (fks : List (ForeignKey τ κ)) (db : Tables τ κ δ) (table : τ) (p : Row κ δ → Bool) :
    Tables τ κ δ := fun child =>
  let dead := ((db table).filter p).map (·.id)
  let left := if child = table then (db child).filter fun r => !p r else db child
  (left.filter fun r => !cascades fks table dead child r).map (Row.unset fks table dead child)

/-- `DELETE FROM table WHERE p`; `none` is the failure of a constraint. -/
def deleteWhere (fks : List (ForeignKey τ κ)) (db : Tables τ κ δ) (table : τ) (p : Row κ δ → Bool) :
    Option (Tables τ κ δ) :=
  if Consistent fks (afterDelete fks db table p) then some (afterDelete fks db table p) else none

/-- `DELETE FROM table`, for one table after the other. -/
def deleteAlls (fks : List (ForeignKey τ κ)) : List τ → Tables τ κ δ → Option (Tables τ κ δ)
  | [], db => some db
  | table :: tables, db => (deleteWhere fks db table fun _ => true).bind (deleteAlls fks tables)

/-! ## One deletion -/

section Delete

variable {fks : List (ForeignKey τ κ)} {db : Tables τ κ δ} {table : τ} {p : Row κ δ → Bool}

/-- Tables whose rows cascade are the target of no foreign key. -/
def CascadesEnd (fks : List (ForeignKey τ κ)) : Prop :=
  ∀ fk ∈ fks, fk.onDelete = .cascade → ∀ fk' ∈ fks, fk'.target ≠ fk.child

instance (fks : List (ForeignKey τ κ)) : Decidable (CascadesEnd fks) :=
  inferInstanceAs
    (Decidable (∀ fk ∈ fks, fk.onDelete = .cascade → ∀ fk' ∈ fks, fk'.target ≠ fk.child))

/-- Rows of a table without a cascading key to the other stay. -/
theorem cascades_eq_false {child : τ} {dead : List Nat} {r : Row κ δ}
    (h : ∀ fk ∈ fks, fk.child = child → fk.target = table → fk.onDelete ≠ .cascade) :
    cascades fks table dead child r = false := by
  unfold cascades
  rw [List.any_eq_false]
  intro fk hfk hcase
  simp only [Bool.and_eq_true, decide_eq_true_eq] at hcase
  exact h fk hfk hcase.1.1.1 hcase.1.1.2 hcase.1.2

theorem mem_afterDelete {child : τ} {r : Row κ δ} (h : r ∈ afterDelete fks db table p child) :
    ∃ r₀ ∈ db child, (child = table → p r₀ = false) ∧
      cascades fks table (((db table).filter p).map (·.id)) child r₀ = false ∧
      r = r₀.unset fks table (((db table).filter p).map (·.id)) child := by
  obtain ⟨r₀, hr₀, rfl⟩ := List.mem_map.mp h
  obtain ⟨hleft, hcascade⟩ := List.mem_filter.mp hr₀
  refine ⟨r₀, ?_, ?_, by simpa using hcascade, rfl⟩
  · split at hleft
    · exact (List.mem_filter.mp hleft).1
    · exact hleft
  · intro heq
    rw [if_pos heq] at hleft
    simpa using (List.mem_filter.mp hleft).2

/-- A row that is not deleted keeps its id. -/
theorem id_mem_afterDelete {child : τ} {id : Nat} (hid : id ∈ (db child).map (·.id))
    (hdead : child = table → id ∉ ((db table).filter p).map (·.id))
    (hcascade : ∀ r ∈ db child,
      cascades fks table (((db table).filter p).map (·.id)) child r = false) :
    id ∈ (afterDelete fks db table p child).map (·.id) := by
  obtain ⟨r, hr, rfl⟩ := List.mem_map.mp hid
  refine List.mem_map.mpr ⟨r.unset fks table (((db table).filter p).map (·.id)) child, ?_, rfl⟩
  refine List.mem_map.mpr ⟨r, List.mem_filter.mpr ⟨?_, by simpa using hcascade r hr⟩, rfl⟩
  split
  next heq =>
    refine List.mem_filter.mpr ⟨hr, ?_⟩
    cases hp : p r with
    | true =>
      rw [heq] at hr
      exact absurd (List.mem_map_of_mem (List.mem_filter.mpr ⟨hr, hp⟩)) (hdead heq)
    | false => rfl
  next => exact hr

/-- A deletion succeeds when no row that is left is held to a deleted one. -/
theorem deleteWhere_some (hends : CascadesEnd fks) (hdb : Consistent fks db)
    (hheld : ∀ fk ∈ fks, fk.target = table → fk.onDelete = .restrict →
      ∀ r ∈ afterDelete fks db table p fk.child,
      r.refersTo fk.column (((db table).filter p).map (·.id)) = false) :
    deleteWhere fks db table p = some (afterDelete fks db table p) ∧
      Consistent fks (afterDelete fks db table p) := by
  have hafter : Consistent fks (afterDelete fks db table p) := by
    intro fk hfk r hr ref href hcolumn
    obtain ⟨r₀, hr₀, -, hcascade, heq⟩ := mem_afterDelete hr
    have href₀ : ref ∈ r₀.refs := by
      rw [heq] at href
      exact (List.mem_filter.mp href).1
    have hid := hdb fk hfk r₀ hr₀ ref href₀ hcolumn
    refine id_mem_afterDelete hid ?_ ?_
    · -- A reference to a deleted row is held, goes with the row, or is set to null.
      intro htarget hdead
      generalize ((db table).filter p).map (·.id) = dead at hheld hcascade heq hdead
      cases hon : fk.onDelete with
      | restrict =>
        have hnot := hheld fk hfk htarget hon r hr
        unfold Row.refersTo at hnot
        rw [List.any_eq_false] at hnot
        exact hnot ref href (by simp [hcolumn, hdead])
      | cascade =>
        unfold cascades at hcascade
        rw [List.any_eq_false] at hcascade
        refine hcascade fk hfk ?_
        have hrefers : r₀.refersTo fk.column dead = true :=
          List.any_eq_true.mpr ⟨ref, href₀, by simp [hcolumn, hdead]⟩
        simp [htarget, hon, hrefers]
      | setNull =>
        rw [heq] at href
        have hkept := (List.mem_filter.mp href).2
        rw [Bool.not_eq_true', List.any_eq_false] at hkept
        exact hkept fk hfk (by simp [htarget, hon, hcolumn, hdead])
    · intro r' _
      refine cascades_eq_false fun fk' hfk' hchild _ hon => ?_
      exact hends fk' hfk' hon fk hfk hchild.symm
  exact ⟨if_pos hafter, hafter⟩

theorem afterDelete_nil {child : τ} (h : db child = []) :
    afterDelete fks db table p child = [] := by
  unfold afterDelete
  dsimp only
  rw [h]
  split <;> rfl

/-- The emptied table is empty. -/
theorem afterDelete_all : afterDelete fks db table (fun _ => true) table = [] := by
  have hleft : ((db table).filter fun _ => !true) = [] :=
    List.filter_eq_nil_iff.mpr fun _ _ => by simp
  unfold afterDelete
  dsimp only
  rw [if_pos rfl, hleft]
  rfl

theorem Row.unset_free {child : τ} {dead : List Nat} (r : Row κ δ)
    (hfree : ∀ fk ∈ fks, fk.child = child → fk.target ≠ table) :
    r.unset fks table dead child = r := by
  unfold Row.unset
  have hrefs : (r.refs.filter fun ref => !(fks.any fun fk =>
      fk.child = child && fk.target = table && fk.onDelete = .setNull && fk.column = ref.1 &&
        decide (ref.2 ∈ dead))) = r.refs := by
    refine List.filter_eq_self.mpr fun ref _ => ?_
    rw [Bool.not_eq_true', List.any_eq_false]
    intro fk hfk hcase
    simp only [Bool.and_eq_true, decide_eq_true_eq] at hcase
    exact hfree fk hfk hcase.1.1.1.1 hcase.1.1.1.2
  rw [hrefs]

/-- A table without a key to the other only loses the rows that are deleted from it. -/
theorem afterDelete_free {child : τ} (hfree : ∀ fk ∈ fks, fk.child = child → fk.target ≠ table) :
    afterDelete fks db table p child =
      if child = table then (db child).filter fun r => !p r else db child := by
  have hstays : ∀ dead, ∀ rows : List (Row κ δ),
      (rows.filter fun r => !cascades fks table dead child r) = rows := by
    intro dead rows
    refine List.filter_eq_self.mpr fun r _ => ?_
    rw [cascades_eq_false fun fk hfk hchild htarget _ => hfree fk hfk hchild htarget]
    rfl
  unfold afterDelete
  dsimp only
  rw [hstays, List.map_congr_left fun r _ => r.unset_free hfree, List.map_id']

/-- A table whose rows do not cascade keeps them, up to references. -/
theorem afterDelete_ids {child : τ} (hne : child ≠ table)
    (hkept : ∀ fk ∈ fks, fk.child = child → fk.onDelete ≠ .cascade) :
    (afterDelete fks db table p child).map (·.id) = (db child).map (·.id) := by
  have hstays : ∀ dead,
      ((db child).filter fun r => !cascades fks table dead child r) = db child := by
    intro dead
    refine List.filter_eq_self.mpr fun r _ => ?_
    rw [cascades_eq_false fun fk hfk hchild _ => hkept fk hfk hchild]
    rfl
  unfold afterDelete
  dsimp only
  rw [if_neg hne, hstays, List.map_map]
  rfl

end Delete

/-! ## Tables in their order -/

/-- Each table is emptied after the others that hold it; `done` are emptied already. -/
def Respects (fks : List (ForeignKey τ κ)) : List τ → List τ → Prop
  | _, [] => True
  | done, table :: tables =>
    (∀ fk ∈ fks, fk.target = table → fk.onDelete = .restrict → fk.child ∈ table :: done) ∧
      Respects fks (table :: done) tables

instance decidableRespects (fks : List (ForeignKey τ κ)) :
    ∀ (tables done : List τ), Decidable (Respects fks done tables)
  | [], _ => .isTrue trivial
  | table :: tables, done =>
    have : Decidable (Respects fks (table :: done) tables) :=
      decidableRespects fks tables (table :: done)
    inferInstanceAs (Decidable (_ ∧ _))

/-- Emptying tables in an order that respects the foreign keys succeeds. They are empty then;
the references are good; a table that refers to none of them is as it was. -/
theorem deleteAlls_spec {fks : List (ForeignKey τ κ)} (hends : CascadesEnd fks) :
    ∀ {tables done : List τ} {db : Tables τ κ δ}, Respects fks done tables → Consistent fks db →
      (∀ t ∈ done, db t = []) →
      ∃ after, deleteAlls fks tables db = some after ∧ Consistent fks after ∧
        (∀ t ∈ done, after t = []) ∧ (∀ t ∈ tables, after t = []) ∧
        ∀ t ∉ tables, (∀ fk ∈ fks, fk.child = t → fk.target ∉ tables) → after t = db t := by
  intro tables
  induction tables with
  | nil =>
    intro done db _ hdb hdone
    exact ⟨db, rfl, hdb, hdone, fun t ht => absurd ht List.not_mem_nil, fun t _ _ => rfl⟩
  | cons table tables ih =>
    intro done db hrespects hdb hdone
    obtain ⟨hheld, hrest⟩ := hrespects
    -- What is deleted now stays empty: nothing is inserted.
    have hempty : ∀ t ∈ table :: done, afterDelete fks db table (fun _ => true) t = [] := by
      intro t ht
      rcases List.mem_cons.mp ht with rfl | ht
      · exact afterDelete_all
      · exact afterDelete_nil (hdone t ht)
    have hfirst : deleteWhere fks db table (fun _ => true) =
        some (afterDelete fks db table fun _ => true) ∧
        Consistent fks (afterDelete fks db table fun _ => true) := by
      refine deleteWhere_some hends hdb fun fk hfk htarget hon r hr => ?_
      rw [hempty fk.child (hheld fk hfk htarget hon)] at hr
      exact absurd hr List.not_mem_nil
    -- No row that is left refers to the table, so SQLite lets it be emptied.
    obtain ⟨hdelete, hconsistent⟩ := hfirst
    obtain ⟨after, hafter, hgood, hgone, hall, hfree⟩ := ih hrest hconsistent hempty
    refine ⟨after, ?_, hgood, fun t ht => hgone t (List.mem_cons_of_mem table ht), ?_, ?_⟩
    · unfold deleteAlls
      rw [hdelete]
      exact hafter
    · intro t ht
      rcases List.mem_cons.mp ht with rfl | ht
      · exact hgone t List.mem_cons_self
      · exact hall t ht
    · intro t ht hrefs
      have hout : t ≠ table ∧ t ∉ tables := by simpa using ht
      rw [hfree t hout.2 fun fk hfk hchild hmem =>
        hrefs fk hfk hchild (List.mem_cons_of_mem table hmem)]
      rw [afterDelete_free fun fk hfk hchild heq => hrefs fk hfk hchild (heq ▸ List.mem_cons_self),
        if_neg hout.1]

end Lib
