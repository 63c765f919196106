import Mathlib.Logic.Relation

/-!
# Chains

A relation in which every element has at most one successor and at most one predecessor
falls into chains. Two elements are on one chain when one leads to the other
(`SameChain`), which is an equivalence, so different chains have no element in common.
Where every step ascends in a rank that is bounded, no chain is a cycle and each has
exactly one last element (`lastOfChain`).
-/

namespace Lib

universe u

variable {α : Type u} {R : α → α → Prop}

/-- One of the two leads to the other. -/
def SameChain (R : α → α → Prop) (a b : α) : Prop :=
  Relation.ReflTransGen R a b ∨ Relation.ReflTransGen R b a

/-- Nothing comes after it. -/
def Last (R : α → α → Prop) (a : α) : Prop := ∀ b, ¬ R a b

/-- No cycle, at most one successor and at most one predecessor. -/
structure Chains (R : α → α → Prop) : Prop where
  acyclic : ∀ a, ¬ Relation.TransGen R a a
  successor : Relator.RightUnique R
  predecessor : Relator.LeftUnique R

/-- A rank that ascends rules out cycles. -/
theorem Chains.of_rank {rank : α → Nat} (hrank : ∀ a b, R a b → rank a < rank b)
    (hsuccessor : Relator.RightUnique R) (hpredecessor : Relator.LeftUnique R) : Chains R := by
  refine ⟨fun a hcycle => ?_, hsuccessor, hpredecessor⟩
  have hless : ∀ a b, Relation.TransGen R a b → rank a < rank b := by
    intro a b hab
    induction hab with
    | single h => exact hrank _ _ h
    | tail _ h ih => exact Nat.lt_trans ih (hrank _ _ h)
  exact Nat.lt_irrefl _ (hless a a hcycle)

theorem SameChain.symm {a b : α} (h : SameChain R a b) : SameChain R b a := Or.symm h

/-- Two elements that lead to a third one are on one chain. -/
theorem Chains.meet (h : Chains R) {a b c : α} (ha : Relation.ReflTransGen R a c)
    (hb : Relation.ReflTransGen R b c) : SameChain R a b := by
  have hflip : Relator.RightUnique (flip R) := fun _ _ _ hx hy => h.predecessor hx hy
  have hback : ∀ {x y : α}, Relation.ReflTransGen R x y → Relation.ReflTransGen (flip R) y x :=
    fun hxy => Relation.reflTransGen_swap.mp hxy
  rcases Relation.ReflTransGen.total_of_right_unique hflip (hback ha) (hback hb) with hab | hba
  · exact Or.inr (Relation.reflTransGen_swap.mpr hab)
  · exact Or.inl (Relation.reflTransGen_swap.mpr hba)

/-- Chains have no element in common. -/
theorem Chains.trans (h : Chains R) {a b c : α} (hab : SameChain R a b) (hbc : SameChain R b c) :
    SameChain R a c := by
  rcases hab with hab | hba <;> rcases hbc with hbc | hcb
  · exact Or.inl (hab.trans hbc)
  · exact h.meet hab hcb
  · exact Relation.ReflTransGen.total_of_right_unique h.successor hba hbc
  · exact Or.inr (hcb.trans hba)

/-- Nothing but itself follows a last element. -/
theorem Last.eq {a b : α} (h : Last R a) (hab : Relation.ReflTransGen R a b) : b = a := by
  rcases Relation.ReflTransGen.cases_head hab with rfl | ⟨c, hac, -⟩
  · rfl
  · exact absurd hac (h c)

/-- A rank that ascends up to a bound leads to a last element. -/
theorem exists_last {rank : α → Nat} {bound : Nat}
    (hrank : ∀ a b, R a b → rank a < rank b ∧ rank b < bound)
    (a : α) : ∃ b, Relation.ReflTransGen R a b ∧ Last R b := by
  by_cases hlast : Last R a
  · exact ⟨a, .refl, hlast⟩
  · have hstep : ∃ c, R a c := by simpa [Last] using hlast
    obtain ⟨c, hac⟩ := hstep
    obtain ⟨hless, hbound⟩ := hrank a c hac
    obtain ⟨b, hcb, hb⟩ := exists_last hrank c
    exact ⟨b, .head hac hcb, hb⟩
termination_by bound - rank a

/-- On each chain there is exactly one last element. -/
theorem Chains.lastOfChain (h : Chains R) {rank : α → Nat} {bound : Nat}
    (hrank : ∀ a b, R a b → rank a < rank b ∧ rank b < bound) (a : α) :
    ∃ b, Relation.ReflTransGen R a b ∧ ∀ c, SameChain R a c → (Last R c ↔ c = b) := by
  obtain ⟨b, hab, hb⟩ := exists_last hrank a
  refine ⟨b, hab, fun c hac => ⟨fun hc => ?_, fun he => he ▸ hb⟩⟩
  -- Both are last on the chain of `a`, and one leads to the other.
  rcases h.trans hac.symm (Or.inl hab) with hcb | hbc
  · exact (hc.eq hcb).symm
  · exact hb.eq hbc

end Lib
