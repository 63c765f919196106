import Mathlib.Data.List.Basic

/-!
# Ledgers

A store gives values to keys, and a log records changes of these values. The log
*explains* the store (`Explained`) when the changes of each key lead, without a gap, from
the value the key was opened with to the value it holds.

* `Explained.record` is the step that changes a value and records it;
* `Explained.extend` is every other step: keys are opened, or are not held any more, and
  nothing is recorded.
-/

namespace Lib

variable {κ α : Type}

/-- The value of a key changed. -/
structure Change (κ α : Type) where
  key : κ
  before : α
  after : α
deriving DecidableEq

/-- From one value to another: each change starts where the one before it ended. -/
def LeadsTo (a : α) (changes : List (Change κ α)) (b : α) : Prop :=
  a :: changes.map (·.after) = changes.map (·.before) ++ [b]

namespace LeadsTo

variable {a b c : α} {changes changes' : List (Change κ α)}

theorem refl (a : α) : LeadsTo a ([] : List (Change κ α)) a := rfl

/-- One way after another. -/
theorem trans (h : LeadsTo a changes b) (h' : LeadsTo b changes' c) :
    LeadsTo a (changes ++ changes') c := by
  unfold LeadsTo at *
  calc a :: (changes ++ changes').map (·.after)
      = (a :: changes.map (·.after)) ++ changes'.map (·.after) := by
        rw [List.map_append, List.cons_append]
    _ = changes.map (·.before) ++ (b :: changes'.map (·.after)) := by rw [h, List.append_assoc]; rfl
    _ = (changes ++ changes').map (·.before) ++ [c] := by
      rw [h', List.map_append, List.append_assoc]

theorem snoc (h : LeadsTo a changes b) {e : Change κ α} (he : e.before = b) :
    LeadsTo a (changes ++ [e]) e.after :=
  h.trans (by rw [← he]; rfl)

/-- The changes say where they lead to. -/
theorem unique (h : LeadsTo a changes b) (h' : LeadsTo a changes c) : b = c := by
  have hsame : changes.map (·.before) ++ [b] = changes.map (·.before) ++ [c] := h.symm.trans h'
  exact List.singleton_inj.mp (List.append_cancel_left hsame)

end LeadsTo

variable [DecidableEq κ]

/-- The changes of one key. -/
def changesOf (k : κ) (log : List (Change κ α)) : List (Change κ α) := log.filter fun e => e.key = k

theorem changesOf_snoc_self (log : List (Change κ α)) (e : Change κ α) :
    changesOf e.key (log ++ [e]) = changesOf e.key log ++ [e] := by
  simp [changesOf]

theorem changesOf_snoc_ne {k : κ} {e : Change κ α} (h : e.key ≠ k) (log : List (Change κ α)) :
    changesOf k (log ++ [e]) = changesOf k log := by
  simp [changesOf, h]

/-- The log accounts for every key that was opened, and for every value that is held. -/
structure Explained (opened : κ → Option α) (holds : κ → α → Prop)
    (log : List (Change κ α)) : Prop where
  account : ∀ k a, opened k = some a → ∃ b, LeadsTo a (changesOf k log) b
  held : ∀ k b, holds k b → ∃ a, opened k = some a ∧ LeadsTo a (changesOf k log) b
  known : ∀ e ∈ log, (opened e.key).isSome = true

namespace Explained

variable {opened opened' : κ → Option α} {holds holds' : κ → α → Prop} {log : List (Change κ α)}

/-- Before anything is recorded, every key holds what it was opened with. -/
theorem start (h : ∀ k b, holds k b → opened k = some b) : Explained opened holds [] where
  account _ a _ := ⟨a, .refl a⟩
  held k b hb := ⟨b, h k b hb, .refl b⟩
  known _ he := absurd he List.not_mem_nil

/-- A value changes, and the change is recorded. -/
theorem record (h : Explained opened holds log) {e : Change κ α} (hbefore : holds e.key e.before)
    (hself : ∀ b, holds' e.key b → b = e.after)
    (hother : ∀ k b, k ≠ e.key → holds' k b → holds k b) :
    Explained opened holds' (log ++ [e]) := by
  obtain ⟨a, ha, hleads⟩ := h.held e.key e.before hbefore
  have hnew : LeadsTo a (changesOf e.key (log ++ [e])) e.after := by
    rw [changesOf_snoc_self]
    exact hleads.snoc rfl
  constructor
  · intro k a' ha'
    by_cases hk : k = e.key
    · subst hk
      obtain rfl : a = a' := Option.some.inj (ha.symm.trans ha')
      exact ⟨e.after, hnew⟩
    · rw [changesOf_snoc_ne (Ne.symm hk)]
      exact h.account k a' ha'
  · intro k b hb
    by_cases hk : k = e.key
    · subst hk
      obtain rfl := hself b hb
      exact ⟨a, ha, hnew⟩
    · rw [changesOf_snoc_ne (Ne.symm hk)]
      exact h.held k b (hother k b hk hb)
  · intro e' he'
    rcases List.mem_append.mp he' with he' | he'
    · exact h.known e' he'
    · rw [List.mem_singleton.mp he', ha]
      rfl

/-- Nothing is recorded: what is held now was held before, or its key has just been opened. -/
theorem extend (h : Explained opened holds log)
    (hopened : ∀ k a, opened k = some a → opened' k = some a)
    (hheld : ∀ k b, holds' k b → holds k b ∨ opened k = none ∧ opened' k = some b) :
    Explained opened' holds' log := by
  have hnothing : ∀ k, opened k = none → changesOf k log = [] := by
    intro k hk
    refine List.filter_eq_nil_iff.mpr fun e he hkey => ?_
    have hsome := h.known e he
    rw [of_decide_eq_true hkey, hk] at hsome
    cases hsome
  constructor
  · intro k a ha
    cases hk : opened k with
    | none => exact ⟨a, hnothing k hk ▸ .refl a⟩
    | some a' =>
      obtain rfl : a' = a := Option.some.inj ((hopened k a' hk).symm.trans ha)
      exact h.account k a' hk
  · intro k b hb
    rcases hheld k b hb with hb | ⟨hnone, hnew⟩
    · obtain ⟨a, ha, hleads⟩ := h.held k b hb
      exact ⟨a, hopened k a ha, hleads⟩
    · exact ⟨b, hnew, hnothing k hnone ▸ .refl b⟩
  · intro e he
    obtain ⟨a, ha⟩ := Option.isSome_iff_exists.mp (h.known e he)
    rw [hopened e.key a ha]
    rfl

end Explained

end Lib
