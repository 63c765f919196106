import Mathlib.Data.Set.Basic
import Mathlib.Logic.Function.Basic

/-!
# Custody

Parties hold things and send them to each other in consignments. What a party sends stays
announced for good; a carrier may tell the addressee of an announcement late, twice or in
any order, and the addressee takes the things one by one. No message says that a thing is
gone from somewhere: each party acts on what it knows itself.

A thing is with a party or inside a consignment. `Kept` says that it is in one place only,
and what the announcements have to be for that; `Step.kept` is the one step lemma, over any
parties, consignments, addresses and things.
-/

namespace Lib.Custody

universe u

variable {π υ δ α : Type u}

/-- What a party knows. -/
@[ext]
structure Party (υ δ α : Type u) where
  held : Set α
  /-- The consignments it has opened. -/
  opened : Set υ
  /-- What it announced: in which consignment, to which address. -/
  sent : Set (υ × δ × α)
  /-- What it was told of. -/
  due : Set (υ × α)
  taken : Set (υ × α)

/-- Where a thing is: with a party, or in a consignment that nobody took it from. -/
inductive At (w : π → Party υ δ α) (a : α) : π ⊕ υ → Prop
  | held {p : π} (h : a ∈ (w p).held) : At w a (.inl p)
  | sent {p : π} {u : υ} {d : δ} (h : (u, d, a) ∈ (w p).sent) (hopen : ∀ q, (u, a) ∉ (w q).taken) :
      At w a (.inr u)

/-- Every thing is in one place, and the announcements are in order: a consignment is one
party's and goes to one address, and only its addressee is told of it. -/
structure Kept (addressed : δ → π → Prop) (w : π → Party υ δ α) : Prop where
  one : ∀ {a x y}, At w a x → At w a y → x = y
  opened : ∀ {p u d a}, (u, d, a) ∈ (w p).sent → u ∈ (w p).opened
  owner : ∀ {p q u}, u ∈ (w p).opened → u ∈ (w q).opened → p = q
  address : ∀ {p u d d' a a'}, (u, d, a) ∈ (w p).sent → (u, d', a') ∈ (w p).sent → d = d'
  due : ∀ {p u a}, (u, a) ∈ (w p).due → ∃ q d, (u, d, a) ∈ (w q).sent ∧ addressed d p
  taken : ∀ {p u a}, (u, a) ∈ (w p).taken → (u, a) ∈ (w p).due

/-- Nobody holds anything twice, and nothing is under way: things are kept. -/
theorem kept_of_start {addressed : δ → π → Prop} {w : π → Party υ δ α}
    (hone : ∀ {a p q}, a ∈ (w p).held → a ∈ (w q).held → p = q)
    (howner : ∀ {p q u}, u ∈ (w p).opened → u ∈ (w q).opened → p = q)
    (hsent : ∀ p, (w p).sent = ∅) (hdue : ∀ p, (w p).due = ∅) (htaken : ∀ p, (w p).taken = ∅) :
    Kept addressed w := by
  refine ⟨?_, ?_, howner, ?_, ?_, ?_⟩
  · intro a x y hx hy
    cases hx with
    | sent h => exact absurd (hsent _ ▸ h) (Set.notMem_empty _)
    | held hx =>
      cases hy with
      | sent h => exact absurd (hsent _ ▸ h) (Set.notMem_empty _)
      | held hy => exact congrArg Sum.inl (hone hx hy)
  · exact fun h => absurd (hsent _ ▸ h) (Set.notMem_empty _)
  · exact fun h => absurd (hsent _ ▸ h) (Set.notMem_empty _)
  · exact fun h => absurd (hdue _ ▸ h) (Set.notMem_empty _)
  · exact fun h => absurd (htaken _ ▸ h) (Set.notMem_empty _)

/-- What a party may do. It may always lose things. -/
inductive Step (addressed : δ → π → Prop) (w : π → Party υ δ α) (p : π) (after : Party υ δ α) : Prop
  | keep (hheld : after.held ⊆ (w p).held) (hopened : after.opened = (w p).opened)
      (hsent : after.sent = (w p).sent) (hdue : after.due = (w p).due)
      (htaken : after.taken = (w p).taken)
  /-- Things that are nowhere come into being. -/
  | create (things : Set α) (hnew : ∀ a ∈ things, ∀ x, ¬ At w a x)
      (hheld : after.held ⊆ (w p).held ∪ things)
      (hopened : after.opened = (w p).opened) (hsent : after.sent = (w p).sent)
      (hdue : after.due = (w p).due) (htaken : after.taken = (w p).taken)
  /-- A consignment that nobody has opened. -/
  | openOne (u : υ) (hnew : ∀ q, u ∉ (w q).opened) (hheld : after.held ⊆ (w p).held)
      (hopened : after.opened ⊆ insert u (w p).opened) (hkept : (w p).opened ⊆ after.opened)
      (hsent : after.sent = (w p).sent) (hdue : after.due = (w p).due)
      (htaken : after.taken = (w p).taken)
  /-- A consignment leaves, with things that are here. -/
  | send (u : υ) (d : δ) (things : Set α) (hopen : u ∈ (w p).opened)
      (hfirst : ∀ d a, (u, d, a) ∉ (w p).sent)
      (hhere : things ⊆ (w p).held) (hheld : ∀ a ∈ after.held, a ∈ (w p).held ∧ a ∉ things)
      (hopened : after.opened = (w p).opened)
      (hsent : ∀ v e a, (v, e, a) ∈ after.sent ↔
        (v, e, a) ∈ (w p).sent ∨ v = u ∧ e = d ∧ a ∈ things)
      (hdue : after.due = (w p).due) (htaken : after.taken = (w p).taken)
  /-- The carrier tells an addressee of what somebody announced. -/
  | tell (u : υ) (things : Set α)
      (htold : ∀ a ∈ things, ∃ q d, (u, d, a) ∈ (w q).sent ∧ addressed d p)
      (hheld : after.held ⊆ (w p).held) (hopened : after.opened = (w p).opened)
      (hsent : after.sent = (w p).sent)
      (hdue : ∀ v a, (v, a) ∈ after.due ↔ (v, a) ∈ (w p).due ∨ v = u ∧ a ∈ things)
      (htaken : after.taken = (w p).taken)
  /-- The addressee takes what it was told of, once. -/
  | take (u : υ) (things : Set α)
      (hdueHere : ∀ a ∈ things, (u, a) ∈ (w p).due ∧ (u, a) ∉ (w p).taken)
      (hheld : after.held ⊆ (w p).held ∪ things) (hopened : after.opened = (w p).opened)
      (hsent : after.sent = (w p).sent) (hdue : after.due = (w p).due)
      (htaken : ∀ v a, (v, a) ∈ after.taken ↔ (v, a) ∈ (w p).taken ∨ v = u ∧ a ∈ things)

/-- What is due to two parties from one consignment is due to one. -/
theorem Kept.addressee {addressed : δ → π → Prop} {w : π → Party υ δ α} (h : Kept addressed w)
    (hone : ∀ {d q r}, addressed d q → addressed d r → q = r) {u : υ} {a b : α} {q r : π}
    (hq : (u, a) ∈ (w q).due) (hr : (u, b) ∈ (w r).due) : q = r := by
  obtain ⟨s, d, hs, hd⟩ := h.due hq
  obtain ⟨s', d', hs', hd'⟩ := h.due hr
  obtain rfl := h.owner (h.opened hs) (h.opened hs')
  obtain rfl := h.address hs hs'
  exact hone hd hd'

variable [DecidableEq π] {addressed : δ → π → Prop} {w : π → Party υ δ α} {p : π}
    {after : Party υ δ α}

/-! ## One party changes -/

/-- What holds of every field of the others and of the party that changes, holds of all. -/
theorem update_forall {P : π → Party υ δ α → Prop} (hself : P p after)
    (hrest : ∀ q, q ≠ p → P q (w q)) (q : π) :
    P q (Function.update w p after q) :=
  (Function.forall_update_iff w P).mpr ⟨hself, hrest⟩ q

/-- A field that does not change at the party does not change anywhere. -/
theorem update_field {γ : Type*} {f : Party υ δ α → γ} (h : f after = f (w p)) (q : π) :
    f (Function.update w p after q) = f (w q) :=
  update_forall (P := fun q x => f x = f (w q)) h (fun _ _ => rfl) q

/-- What was taken is taken still. -/
theorem update_taken (h : (w p).taken ⊆ after.taken) (q : π) :
    (w q).taken ⊆ (Function.update w p after q).taken :=
  update_forall (P := fun q x => (w q).taken ⊆ x.taken) h (fun _ _ _ ha => ha) q

/-- No place is new where a party neither gets hold of a thing nor announces it. -/
theorem at_of_update {a : α} {x : π ⊕ υ} (hheld : a ∈ after.held → a ∈ (w p).held)
    (hsent : after.sent = (w p).sent) (htaken : (w p).taken ⊆ after.taken)
    (h : At (Function.update w p after) a x) : At w a x := by
  cases h with
  | @held q h =>
    exact .held (update_forall (P := fun q x => a ∈ x.held → a ∈ (w q).held) hheld
      (fun _ _ ha => ha) q h)
  | @sent q u d h hopen =>
    rw [update_field (f := Party.sent) hsent] at h
    exact .sent h fun r hr => hopen r (update_taken htaken r hr)

/-- A party that announces nothing keeps the announcements in order; the rest is about places. -/
theorem Kept.of_announced (h : Kept addressed w) (hopened : after.opened = (w p).opened)
    (hsent : after.sent = (w p).sent)
    (hdue : ∀ v a, (v, a) ∈ after.due →
      (v, a) ∈ (w p).due ∨ ∃ q d, (v, d, a) ∈ (w q).sent ∧ addressed d p)
    (htaken : ∀ v a, (v, a) ∈ after.taken → (v, a) ∈ after.due)
    (hone : ∀ {a x y}, At (Function.update w p after) a x →
      At (Function.update w p after) a y → x = y) :
    Kept addressed (Function.update w p after) := by
  have hopened' := update_field (f := Party.opened) hopened
  have hsent' := update_field (f := Party.sent) hsent
  constructor
  · exact hone
  · intro q u d a hs
    rw [hsent'] at hs
    rw [hopened']
    exact h.opened hs
  · intro q r u hq hr
    rw [hopened'] at hq hr
    exact h.owner hq hr
  · intro q u d d' a a' hs hs'
    rw [hsent'] at hs hs'
    exact h.address hs hs'
  · intro q u a ha
    have htold : ∃ r d, (u, d, a) ∈ (w r).sent ∧ addressed d q :=
      update_forall (P := fun q x => (u, a) ∈ x.due → ∃ r d, (u, d, a) ∈ (w r).sent ∧ addressed d q)
        (fun ha => (hdue u a ha).elim h.due id) (fun _ _ => h.due) q ha
    obtain ⟨r, d, hs, hd⟩ := htold
    exact ⟨r, d, (hsent' r).symm ▸ hs, hd⟩
  · intro q u a
    exact update_forall (P := fun _ x => (u, a) ∈ x.taken → (u, a) ∈ x.due) (htaken u a)
      (fun _ _ => h.taken) q

/-! ## The steps -/

/-- A party that only loses things. -/
theorem Kept.keep (h : Kept addressed w) (hheld : after.held ⊆ (w p).held)
    (hopened : after.opened = (w p).opened) (hsent : after.sent = (w p).sent)
    (hdue : after.due = (w p).due)
    (htaken : after.taken = (w p).taken) : Kept addressed (Function.update w p after) := by
  refine h.of_announced hopened hsent (fun v a ha => Or.inl (hdue ▸ ha)) ?_ fun hx hy => ?_
  · intro v a ha
    rw [htaken] at ha
    rw [hdue]
    exact h.taken ha
  · exact h.one (at_of_update (fun ha => hheld ha) hsent htaken.ge hx)
      (at_of_update (fun ha => hheld ha) hsent htaken.ge hy)

theorem Kept.create (h : Kept addressed w) {things : Set α} (hnew : ∀ a ∈ things, ∀ x, ¬ At w a x)
    (hheld : after.held ⊆ (w p).held ∪ things) (hopened : after.opened = (w p).opened)
    (hsent : after.sent = (w p).sent) (hdue : after.due = (w p).due)
    (htaken : after.taken = (w p).taken) :
    Kept addressed (Function.update w p after) := by
  refine h.of_announced hopened hsent (fun v a ha => Or.inl (hdue ▸ ha)) ?_ fun {a x y} hx hy => ?_
  · intro v a ha
    rw [htaken] at ha
    rw [hdue]
    exact h.taken ha
  by_cases ha : a ∈ things
  · -- A new thing is with the party that made it, and nowhere else.
    have hmade : ∀ {x}, At (Function.update w p after) a x → x = .inl p := by
      intro x hx
      cases hx with
      | @held q hx =>
        by_contra hq
        rw [Function.update_of_ne fun he => hq (congrArg Sum.inl he)] at hx
        exact hnew a ha _ (.held hx)
      | @sent q u d hs hopen =>
        rw [update_field (f := Party.sent) hsent] at hs
        exact absurd (.sent hs fun r hr => hopen r (update_taken htaken.ge r hr))
          (hnew a ha (.inr u))
    rw [hmade hx, hmade hy]
  · have hold : a ∈ after.held → a ∈ (w p).held := fun hin => (hheld hin).resolve_right ha
    exact h.one (at_of_update hold hsent htaken.ge hx) (at_of_update hold hsent htaken.ge hy)

theorem Kept.openOne (h : Kept addressed w) {u : υ} (hnew : ∀ q, u ∉ (w q).opened)
    (hheld : after.held ⊆ (w p).held) (hopened : after.opened ⊆ insert u (w p).opened)
    (hkept : (w p).opened ⊆ after.opened) (hsent : after.sent = (w p).sent)
    (hdue : after.due = (w p).due)
    (htaken : after.taken = (w p).taken) : Kept addressed (Function.update w p after) := by
  have hsent' := update_field (f := Party.sent) hsent
  have hdue' := update_field (f := Party.due) hdue
  have htaken' := update_field (f := Party.taken) htaken
  have hback : ∀ {q v}, v ∈ (Function.update w p after q).opened →
      v ∈ (w q).opened ∨ v = u ∧ q = p := by
    intro q v
    refine update_forall (P := fun q x => v ∈ x.opened → v ∈ (w q).opened ∨ v = u ∧ q = p) ?_ ?_ q
    · exact fun hv => (hopened hv).symm.imp_right fun he => ⟨he, rfl⟩
    · exact fun _ _ hv => Or.inl hv
  constructor
  -- In turn: one place, one owner of each UUID, one address, what is due was sent, what was taken
  -- was due.
  · intro a x y hx hy
    exact h.one (at_of_update (fun ha => hheld ha) hsent htaken.ge hx)
      (at_of_update (fun ha => hheld ha) hsent htaken.ge hy)
  · intro q v d a hs
    rw [hsent'] at hs
    exact update_forall (P := fun q x => v ∈ (w q).opened → v ∈ x.opened) (fun hv => hkept hv)
      (fun _ _ hv => hv) q (h.opened hs)
  · intro q r v hq hr
    -- The new UUID was nobody's.
    rcases hback hq with hold | ⟨rfl, rfl⟩
    · rcases hback hr with hold' | ⟨rfl, rfl⟩
      · exact h.owner hold hold'
      · exact absurd hold (hnew q)
    · rcases hback hr with hold' | ⟨-, rfl⟩
      · exact absurd hold' (hnew r)
      · rfl
  · intro q v d d' a a' hs hs'
    rw [hsent'] at hs hs'
    exact h.address hs hs'
  · intro q v a ha
    rw [hdue'] at ha
    obtain ⟨r, d, hs, hd⟩ := h.due ha
    exact ⟨r, d, (hsent' r).symm ▸ hs, hd⟩
  · intro q v a ha
    rw [htaken'] at ha
    rw [hdue']
    exact h.taken ha

theorem Kept.send (h : Kept addressed w) {u : υ} {d : δ} {things : Set α} (hopen : u ∈ (w p).opened)
    (hfirst : ∀ d a, (u, d, a) ∉ (w p).sent) (hhere : things ⊆ (w p).held)
    (hheld : ∀ a ∈ after.held, a ∈ (w p).held ∧ a ∉ things) (hopened : after.opened = (w p).opened)
    (hsent : ∀ v e a, (v, e, a) ∈ after.sent ↔ (v, e, a) ∈ (w p).sent ∨ v = u ∧ e = d ∧ a ∈ things)
    (hdue : after.due = (w p).due) (htaken : after.taken = (w p).taken) :
    Kept addressed (Function.update w p after) := by
  have hopened' := update_field (f := Party.opened) hopened
  have hdue' := update_field (f := Party.due) hdue
  have htaken' := update_field (f := Party.taken) htaken
  have hback : ∀ {q v e a}, (v, e, a) ∈ (Function.update w p after q).sent →
      (v, e, a) ∈ (w q).sent ∨ q = p ∧ v = u ∧ e = d ∧ a ∈ things := by
    intro q v e a
    refine update_forall (P := fun q x => (v, e, a) ∈ x.sent → (v, e, a) ∈ (w q).sent ∨
      q = p ∧ v = u ∧ e = d ∧ a ∈ things) ?_ (fun _ _ hs => Or.inl hs) q
    exact fun hs => ((hsent v e a).mp hs).imp_right fun hnew => ⟨rfl, hnew⟩
  -- A place is an old one, or the consignment that leaves with the thing in it.
  have hplace : ∀ {a x}, At (Function.update w p after) a x →
      At w a x ∧ (x = .inl p → a ∉ things) ∨ x = .inr u ∧ a ∈ things := by
    intro a x hx
    cases hx with
    | @held q hx =>
      by_cases hq : q = p
      · subst hq
        rw [Function.update_self] at hx
        exact Or.inl ⟨.held (hheld a hx).1, fun _ => (hheld a hx).2⟩
      · rw [Function.update_of_ne hq] at hx
        exact Or.inl ⟨.held hx, fun he => absurd (Sum.inl.inj he) hq⟩
    | @sent q v e hs hnone =>
      rcases hback hs with hs | ⟨-, rfl, -, ha⟩
      · refine Or.inl ⟨.sent hs fun r hr => hnone r ?_, fun he => nomatch he⟩
        rw [htaken']
        exact hr
      · exact Or.inr ⟨rfl, ha⟩
  constructor
  · intro a x y hx hy
    rcases hplace hx with ⟨hx, hxp⟩ | ⟨rfl, ha⟩ <;> rcases hplace hy with ⟨hy, hyp⟩ | ⟨rfl, ha'⟩
    · exact h.one hx hy
    · exact absurd ha' (hxp (h.one hx (.held (hhere ha'))))
    · exact absurd ha (hyp (h.one hy (.held (hhere ha))))
    · rfl
  · intro q v e a hs
    rw [hopened']
    rcases hback hs with hs | ⟨rfl, rfl, -⟩
    · exact h.opened hs
    · exact hopen
  · intro q r v hq hr
    rw [hopened'] at hq hr
    exact h.owner hq hr
  · intro q v e e' a a' hs hs'
    rcases hback hs with hold | ⟨rfl, rfl, rfl, -⟩
    · rcases hback hs' with hold' | ⟨rfl, rfl, -⟩
      · exact h.address hold hold'
      · exact absurd hold (hfirst _ _)
    · rcases hback hs' with hold' | ⟨-, -, rfl, -⟩
      · exact absurd hold' (hfirst _ _)
      · rfl
  · intro q v a ha
    rw [hdue'] at ha
    obtain ⟨r, e, hs, he⟩ := h.due ha
    exact ⟨r, e, update_forall (P := fun q x => (v, e, a) ∈ (w q).sent → (v, e, a) ∈ x.sent)
      (fun hs => (hsent v e a).mpr (Or.inl hs)) (fun _ _ hs => hs) r hs, he⟩
  · intro q v a ha
    rw [htaken'] at ha
    rw [hdue']
    exact h.taken ha

theorem Kept.tell (h : Kept addressed w) {u : υ} {things : Set α}
    (htold : ∀ a ∈ things, ∃ q d, (u, d, a) ∈ (w q).sent ∧ addressed d p)
    (hheld : after.held ⊆ (w p).held) (hopened : after.opened = (w p).opened)
    (hsent : after.sent = (w p).sent)
    (hdue : ∀ v a, (v, a) ∈ after.due ↔ (v, a) ∈ (w p).due ∨ v = u ∧ a ∈ things)
    (htaken : after.taken = (w p).taken) : Kept addressed (Function.update w p after) := by
  refine h.of_announced hopened hsent (fun v a ha => ?_) (fun v a ha => ?_) fun hx hy => ?_
  · refine ((hdue v a).mp ha).imp_right fun ⟨hv, hin⟩ => ?_
    rw [hv]
    exact htold a hin
  · rw [htaken] at ha
    exact (hdue v a).mpr (Or.inl (h.taken ha))
  · exact h.one (at_of_update (fun ha => hheld ha) hsent htaken.ge hx)
      (at_of_update (fun ha => hheld ha) hsent htaken.ge hy)

theorem Kept.take (h : Kept addressed w) (hone : ∀ {d q r}, addressed d q → addressed d r → q = r)
    {u : υ} {things : Set α} (hdueHere : ∀ a ∈ things, (u, a) ∈ (w p).due ∧ (u, a) ∉ (w p).taken)
    (hheld : after.held ⊆ (w p).held ∪ things) (hopened : after.opened = (w p).opened)
    (hsent : after.sent = (w p).sent) (hdue : after.due = (w p).due)
    (htaken : ∀ v a, (v, a) ∈ after.taken ↔ (v, a) ∈ (w p).taken ∨ v = u ∧ a ∈ things) :
    Kept addressed (Function.update w p after) := by
  have hgrows : (w p).taken ⊆ after.taken := fun ⟨v, a⟩ ha => (htaken v a).mpr (Or.inl ha)
  -- What is taken was still in the consignment: only its addressee could have taken it.
  have hinside : ∀ a ∈ things, At w a (.inr u) := by
    intro a ha
    obtain ⟨hhere, hnot⟩ := hdueHere a ha
    obtain ⟨q, d, hs, -⟩ := h.due hhere
    refine .sent hs fun r hr => ?_
    obtain rfl := h.addressee hone (h.taken hr) hhere
    exact hnot hr
  have hplace : ∀ {a x}, At (Function.update w p after) a x →
      At w a x ∧ (x = .inr u → a ∉ things) ∨ x = .inl p ∧ a ∈ things := by
    intro a x hx
    by_cases ha : a ∈ things
    · cases hx with
      | @held q hx =>
        by_cases hq : q = p
        · exact Or.inr ⟨congrArg Sum.inl hq, ha⟩
        · rw [Function.update_of_ne hq] at hx
          exact Or.inl ⟨.held hx, fun he => nomatch he⟩
      | @sent q v e hs hnone =>
        rw [update_field (f := Party.sent) hsent] at hs
        refine Or.inl ⟨.sent hs fun r hr => hnone r (update_taken hgrows r hr), fun he => ?_⟩
        have htook := hnone p
        rw [Function.update_self] at htook
        exact absurd ((htaken v a).mpr (Or.inr ⟨Sum.inr.inj he, ha⟩)) htook
    · have hold : a ∈ after.held → a ∈ (w p).held := fun hin => (hheld hin).resolve_right ha
      exact Or.inl ⟨at_of_update hold hsent hgrows hx, fun _ => ha⟩
  refine h.of_announced hopened hsent (fun v a ha => Or.inl (hdue ▸ ha)) (fun v a ha => ?_)
    fun hx hy => ?_
  · rw [hdue]
    rcases (htaken v a).mp ha with ha | ⟨rfl, ha⟩
    · exact h.taken ha
    · exact (hdueHere a ha).1
  · rcases hplace hx with ⟨hx, hxu⟩ | ⟨rfl, ha⟩ <;> rcases hplace hy with ⟨hy, hyu⟩ | ⟨rfl, ha'⟩
    · exact h.one hx hy
    · exact absurd ha' (hxu (h.one hx (hinside _ ha')))
    · exact absurd ha (hyu (h.one hy (hinside _ ha)))
    · rfl

/-- Whatever a party does, every thing stays in one place. -/
theorem Step.kept (hstep : Step addressed w p after) (h : Kept addressed w)
    (hone : ∀ {d q r}, addressed d q → addressed d r → q = r) :
    Kept addressed (Function.update w p after) := by
  cases hstep with
  | keep hheld hopened hsent hdue htaken => exact h.keep hheld hopened hsent hdue htaken
  | create things hnew hheld hopened hsent hdue htaken =>
    exact h.create hnew hheld hopened hsent hdue htaken
  | openOne u hnew hheld hopened hkept hsent hdue htaken =>
    exact h.openOne hnew hheld hopened hkept hsent hdue htaken
  | send u d things hopen hfirst hhere hheld hopened hsent hdue htaken =>
    exact h.send hopen hfirst hhere hheld hopened hsent hdue htaken
  | tell u things htold hheld hopened hsent hdue htaken =>
    exact h.tell htold hheld hopened hsent hdue htaken
  | take u things hdueHere hheld hopened hsent hdue htaken =>
    exact h.take hone hdueHere hheld hopened hsent hdue htaken

end Lib.Custody
