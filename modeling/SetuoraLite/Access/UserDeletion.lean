import SetuoraLite.Access.Users

/-!
# Deleting a user

`delete_user` removes an account that nothing refers to and only marks the others. It decides
by counting references, by hand, in six columns. Ten columns have a foreign key to users that
restricts a deletion: the four it leaves out make the `DELETE` fail.

`delete_user_iff` says for which accounts the request does what it is for. What the other
foreign keys do (`ON DELETE SET NULL`, `ON DELETE CASCADE`) cannot fail.
-/

namespace SetuoraLite

open Lib

/-! ## The foreign keys -/

/-- The restricting foreign keys to users that `delete_user` counts, with the users that their
columns name. -/
def AccountDb.countedKeys (s : AccountDb) : List (PyStr × List Nat) :=
  [(py "batches.user_id", s.db.batches.map (·.userId)),
    (py "inventory_transactions.user_id", s.db.transactions.map (·.userId)),
    (py "scan_logs.user_id", s.db.scanLogs.map (·.userId)),
    (py "serials.label_printed_by_id", s.labelPrintedBy),
    (py "tally_master_confirmations.confirmed_by_id", s.confirmedBy),
    (py "stock_relocations.user_id", s.db.relocations.map (·.userId))]

/-- Those that it does not. -/
def AccountDb.uncountedKeys (s : AccountDb) : List (PyStr × List Nat) :=
  [(py "batch_items.shelf_verified_by_id", s.db.batchItems.filterMap (·.shelfVerifiedById)),
    (py "local_transfers.created_by_id", s.db.transfers.filterMap (·.createdById)),
    (py "audit_assignments.auditor_id", s.db.assignments.map (·.auditorId)),
    (py "audit_assignments.assigned_by_id", s.assignedBy)]

/-- A row refers to the user through one of the keys. -/
def NamedBy (keys : List (PyStr × List Nat)) (userId : Nat) : Prop := ∃ key ∈ keys, userId ∈ key.2

instance (keys : List (PyStr × List Nat)) (userId : Nat) : Decidable (NamedBy keys userId) :=
  inferInstanceAs (Decidable (∃ key ∈ keys, userId ∈ key.2))

private theorem filter_length_eq_zero {ρ : Type} (column : ρ → Nat) (rows : List ρ) (userId : Nat) :
    (rows.filter fun row => column row = userId).length = 0 ↔ userId ∉ rows.map column := by
  simp [List.filter_eq_nil_iff]

/-- The count is of the rows that name the user. -/
theorem referenceCount_eq_zero (s : AccountDb) (userId : Nat) :
    referenceCount s userId = 0 ↔ ¬ NamedBy s.countedKeys userId := by
  unfold referenceCount
  simp only [Nat.add_eq_zero_iff, filter_length_eq_zero, NamedBy, AccountDb.countedKeys,
    List.mem_cons,
    List.not_mem_nil, or_false, exists_eq_or_imp, exists_eq_left, not_or, and_assoc, List.map_id']

/-- The `DELETE` fails on the keys that were not counted. -/
theorem heldElsewhere_iff (s : AccountDb) (userId : Nat) :
    heldElsewhere s userId = true ↔ NamedBy s.uncountedKeys userId := by
  unfold heldElsewhere NamedBy AccountDb.uncountedKeys
  simp only [Bool.or_eq_true, List.any_eq_true, decide_eq_true_eq, List.contains_eq_mem,
    List.mem_cons, List.not_mem_nil, or_false, exists_eq_or_imp, exists_eq_left, List.mem_map,
    List.mem_filterMap, or_assoc]

/-! ## The outcome -/

/-- The request ends well: the user, whom nothing restricts, is removed, or the row is kept and
marked deleted and inactive. -/
def DeletesSafely (s : AccountDb) (userId : Nat) (now : Instant)
    (outcome : UserResponse × AccountDb) : Prop :=
  (¬ NamedBy (s.countedKeys ++ s.uncountedKeys) userId ∧
    outcome = (.redirect usersPage,
      { s with users := s.users.filter fun user => user.id ≠ userId })) ∨
  outcome = (.redirect usersPage, s.update userId fun user =>
    { user with active := false, deletedAt := some now })

theorem namedBy_append {keys keys' : List (PyStr × List Nat)} {userId : Nat} :
    NamedBy (keys ++ keys') userId ↔ NamedBy keys userId ∨ NamedBy keys' userId := by
  simp only [NamedBy, List.mem_append, or_and_right, exists_or]

/-- The request ends well just when a counted column names the user, or none of the others does. -/
theorem delete_user_iff (s : AccountDb) (current target : UserAccount) (userId : Nat)
    (now : Instant) (hstored : s.user userId = some target) (hother : userId ≠ current.id) :
    DeletesSafely s userId now (deleteUser s current userId now) ↔
      NamedBy s.countedKeys userId ∨ ¬ NamedBy s.uncountedKeys userId := by
  have hid : target.id = userId := (lookup_some hstored).2
  unfold deleteUser
  rw [hstored]
  dsimp only
  rw [if_neg (hid ▸ hother)]
  by_cases hcount : referenceCount s userId ≠ 0
  · rw [if_pos hcount]
    have hcounted : NamedBy s.countedKeys userId := by
      by_contra hnot
      exact hcount ((referenceCount_eq_zero s userId).mpr hnot)
    exact iff_of_true (.inr rfl) (.inl hcounted)
  · rw [if_neg hcount]
    have hcounted : ¬ NamedBy s.countedKeys userId :=
      (referenceCount_eq_zero s userId).mp (not_not.mp hcount)
    by_cases hheld : heldElsewhere s userId = true
    · -- SQLite refuses the `DELETE`.
      rw [if_pos hheld]
      refine iff_of_false ?_ ?_
      · rintro (⟨-, h⟩ | h)
        · exact absurd (congrArg (·.1) h) (by simp)
        · exact absurd (congrArg (·.1) h) (by simp)
      · rintro (h | h)
        · exact hcounted h
        · exact h ((heldElsewhere_iff s userId).mp hheld)
    · rw [if_neg hheld]
      have hfree : ¬ NamedBy s.uncountedKeys userId :=
        fun h => hheld ((heldElsewhere_iff s userId).mpr h)
      refine iff_of_true (.inl ⟨?_, rfl⟩) (.inr hfree)
      rw [namedBy_append]
      exact not_or.mpr ⟨hcounted, hfree⟩

/-- The super admin of the office. -/
def rootAccount : UserAccount := ⟨⟨1, py "root"⟩, py "x", py "super_admin", true, false, 0, none⟩

/-- The office with an audit that is assigned to the administrator, who has done nothing yet. -/
def auditorOffice : AccountDb :=
  { office with db := { office.db with assignments := [⟨1, 1, 2, 0, 0⟩] } }

/-- The auditor's deletion fails on `audit_assignments.auditor_id`. -/
theorem auditor_not_deleted :
    2 ≠ rootAccount.id ∧ (auditorOffice.user 2).isSome = true ∧
      (deleteUser auditorOffice rootAccount 2 0).1 = .failed ∧
      ¬ DeletesSafely auditorOffice 2 0 (deleteUser auditorOffice rootAccount 2 0) := by
  refine ⟨by decide, by decide, by decide, ?_⟩
  rintro (⟨-, h⟩ | h)
  · exact absurd (congrArg (·.1) h) (by decide)
  · exact absurd (congrArg (·.1) h) (by decide)

/-- Without the assignment the administrator is removed. -/
theorem delete_user_iff_office :
    2 ≠ rootAccount.id ∧ DeletesSafely office 2 0 (deleteUser office rootAccount 2 0) :=
  ⟨by decide, (delete_user_iff office rootAccount _ 2 0 rfl (by decide)).mpr (.inr (by decide))⟩

end SetuoraLite
