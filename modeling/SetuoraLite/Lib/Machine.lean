import Mathlib.Logic.Relation

/-!
# Partial machines and their runs

A `Machine σ α` is a transition function that may refuse: `m s a = none` means
the action `a` is not enabled in state `s`. Everything a scheduler, a network or
a clock decides is part of the action, so a *run* is a list of actions and a
statement over all interleavings is a statement over all lists.

* `exec m s as` runs a list of actions, refusing as soon as one is refused;
* `exec_invariant` is the one induction behind "holds initially, kept by every
  step, so holds wherever a run ends";
* `Guarded m C s as` says that every step of a run meets a condition `C` on the
  state it starts from and on the action, and `guarded_invariant` is the
  induction for facts that only survive steps of that kind.
-/

namespace Lib

universe u v

variable {σ : Type u} {α : Type v}

/-- A transition function that refuses the actions that are not enabled. -/
abbrev Machine (σ : Type u) (α : Type v) := σ → α → Option σ

/-- Run a list of actions from a state. -/
def exec (m : Machine σ α) : σ → List α → Option σ
  | s, [] => some s
  | s, a :: as => (m s a).bind fun s' => exec m s' as

variable {m : Machine σ α}

@[simp] theorem exec_nil (s : σ) : exec m s [] = some s := rfl

theorem exec_cons {s s' : σ} {a : α} {as : List α} :
    exec m s (a :: as) = some s' ↔ ∃ t, m s a = some t ∧ exec m t as = some s' := by
  simp [exec, Option.bind_eq_some_iff]

/-- A run splits at any point. -/
theorem exec_append {s s' : σ} {as bs : List α} :
    exec m s (as ++ bs) = some s' ↔ ∃ t, exec m s as = some t ∧ exec m t bs = some s' := by
  induction as generalizing s with
  | nil => simp
  | cons a as ih =>
    simp only [List.cons_append, exec_cons, ih]
    constructor
    · rintro ⟨t, hst, u, htu, hus⟩
      exact ⟨u, ⟨t, hst, htu⟩, hus⟩
    · rintro ⟨u, ⟨t, hst, htu⟩, hus⟩
      exact ⟨t, hst, u, htu, hus⟩

/-- A run ends with one step from where the rest of it ended. -/
theorem exec_snoc {s s' : σ} {as : List α} {a : α} :
    exec m s (as ++ [a]) = some s' ↔ ∃ t, exec m s as = some t ∧ m t a = some s' := by
  rw [exec_append]
  simp [exec_cons]

/-- A state invariant kept by every step is kept by every run. -/
theorem exec_invariant {I : σ → Prop} (hstep : ∀ s a s', I s → m s a = some s' → I s') :
    ∀ {as : List α} {s s' : σ}, I s → exec m s as = some s' → I s' := by
  intro as
  induction as with
  | nil =>
    intro s s' hI h
    obtain rfl : s = s' := by simpa using h
    exact hI
  | cons a as ih =>
    intro s s' hI h
    obtain ⟨t, hst, hts⟩ := exec_cons.mp h
    exact ih (hstep s a t hI hst) hts

/-- A relation between two states that is reflexive, transitive and holds across
every step holds across every run. -/
theorem exec_relation {R : σ → σ → Prop} (hrefl : ∀ s, R s s)
    (htrans : ∀ s t u, R s t → R t u → R s u)
    (hstep : ∀ s a s', m s a = some s' → R s s') :
    ∀ {as : List α} {s s' : σ}, exec m s as = some s' → R s s' := by
  intro as
  induction as with
  | nil =>
    intro s s' h
    obtain rfl : s = s' := by simpa using h
    exact hrefl s
  | cons a as ih =>
    intro s s' h
    obtain ⟨t, hst, hts⟩ := exec_cons.mp h
    exact htrans s t s' (hstep s a t hst) (ih hts)

/-- Every step of the run meets `C` at the state it starts from. -/
def Guarded (m : Machine σ α) (C : σ → α → Prop) : σ → List α → Prop
  | _, [] => True
  | s, a :: as => C s a ∧ ∀ t, m s a = some t → Guarded m C t as

instance decidableGuarded {C : σ → α → Prop} [∀ s a, Decidable (C s a)] :
    ∀ (as : List α) (s : σ), Decidable (Guarded m C s as)
  | [], _ => .isTrue trivial
  | a :: as, s =>
    match hm : m s a with
    | none => decidable_of_iff (C s a) (by simp [Guarded, hm])
    | some t =>
      have : Decidable (Guarded m C t as) := decidableGuarded as t
      decidable_of_iff (C s a ∧ Guarded m C t as) (by simp [Guarded, hm])

theorem guarded_append {C : σ → α → Prop} {as bs : List α} {s : σ} :
    Guarded m C s (as ++ bs) ↔
      Guarded m C s as ∧ ∀ t, exec m s as = some t → Guarded m C t bs := by
  induction as generalizing s with
  | nil => simp [Guarded]
  | cons a as ih =>
    simp only [List.cons_append, Guarded, ih, exec_cons]
    constructor
    · rintro ⟨hC, h⟩
      exact ⟨⟨hC, fun t ht => (h t ht).1⟩, fun u ⟨t, ht, hu⟩ => (h t ht).2 u hu⟩
    · rintro ⟨⟨hC, h⟩, hrest⟩
      exact ⟨hC, fun t ht => ⟨h t ht, fun u hu => hrest u ⟨t, ht, hu⟩⟩⟩

/-- An invariant kept by every step that meets `C` is kept by every run whose
steps all meet `C`. -/
theorem guarded_invariant {C : σ → α → Prop} {I : σ → Prop}
    (hstep : ∀ s a s', I s → C s a → m s a = some s' → I s') :
    ∀ {as : List α} {s s' : σ}, I s → Guarded m C s as → exec m s as = some s' → I s' := by
  intro as
  induction as with
  | nil =>
    intro s s' hI _ h
    obtain rfl : s = s' := by simpa using h
    exact hI
  | cons a as ih =>
    intro s s' hI hC h
    obtain ⟨t, hst, hts⟩ := exec_cons.mp h
    exact ih (hstep s a t hI hC.1 hst) (hC.2 t hst) hts

/-- Two conditions that guard a run guard it together. -/
theorem Guarded.and {C D : σ → α → Prop} :
    ∀ {as : List α} {s : σ}, Guarded m C s as → Guarded m D s as →
      Guarded m (fun t a => C t a ∧ D t a) s as
  | [], _, _, _ => trivial
  | _ :: _, _, hC, hD => ⟨⟨hC.1, hD.1⟩, fun t ht => (hC.2 t ht).and (hD.2 t ht)⟩

/-- A condition that an invariant implies guards every run that keeps the invariant. -/
theorem guarded_of_guarded {C D : σ → α → Prop} {I : σ → Prop}
    (hstep : ∀ s a s', I s → D s a → m s a = some s' → I s') (hC : ∀ s a, I s → D s a → C s a) :
    ∀ {as : List α} {s : σ}, I s → Guarded m D s as → Guarded m C s as := by
  intro as
  induction as with
  | nil =>
    intro s _ _
    trivial
  | cons a as ih =>
    intro s hI hD
    exact ⟨hC s a hI hD.1, fun t ht => ih (hstep s a t hI hD.1 ht) (hD.2 t ht)⟩

/-- A condition on the actions alone guards a run of such actions. -/
theorem guarded_of_mem {P : α → Prop} :
    ∀ {as : List α} {s : σ}, (∀ a ∈ as, P a) → Guarded m (fun _ a => P a) s as := by
  intro as
  induction as with
  | nil =>
    intro s _
    trivial
  | cons a as ih =>
    intro s hP
    exact ⟨hP a List.mem_cons_self, fun t _ => ih fun b hb => hP b (List.mem_cons_of_mem a hb)⟩

/-- What a property of the last state says about every step before it: where each
step that ends in `J` starts in `J` and meets `C`, a run that ends in `J` is guarded by `C`. -/
theorem guarded_of_last {C : σ → α → Prop} {I J : σ → Prop}
    (hstep : ∀ s a s', I s → m s a = some s' → I s')
    (hback : ∀ s a s', I s → m s a = some s' → J s' → J s ∧ C s a) :
    ∀ {as : List α} {s s' : σ}, I s → exec m s as = some s' → J s' → J s ∧ Guarded m C s as := by
  intro as
  induction as with
  | nil =>
    intro s s' _ h hJ
    obtain rfl : s = s' := by simpa using h
    exact ⟨hJ, trivial⟩
  | cons a as ih =>
    intro s s' hI h hJ
    obtain ⟨t, hst, hts⟩ := exec_cons.mp h
    obtain ⟨hJt, hrest⟩ := ih (hstep s a t hI hst) hts hJ
    obtain ⟨hJs, hC⟩ := hback s a t hI hst hJt
    refine ⟨hJs, hC, ?_⟩
    intro t' ht'
    obtain rfl : t = t' := Option.some.inj (hst.symm.trans ht')
    exact hrest

/-! ## Logs -/

/-- Every entry of a log meets `P` with the entries before it. -/
def Disciplined (P : List α → α → Prop) (log : List α) : Prop :=
  ∀ pre e post, log = pre ++ e :: post → P pre e

theorem Disciplined.nil {P : List α → α → Prop} : Disciplined P [] := by
  intro pre e post h
  simp at h

/-- A log grows by one entry. -/
theorem Disciplined.snoc {P : List α → α → Prop} {log : List α} {e : α} (h : Disciplined P log)
    (he : P log e) : Disciplined P (log ++ [e]) := by
  intro pre x post heq
  rcases List.append_eq_append_iff.mp heq with ⟨rest, hpre, hlast⟩ | ⟨rest, hlog, hlast⟩
  · -- The entry is the new one.
    cases rest with
    | nil =>
      obtain ⟨rfl, -⟩ := List.cons.inj hlast
      rwa [hpre, List.append_nil]
    | cons y rest => simp at hlast
  · cases rest with
    | nil =>
      obtain ⟨rfl, -⟩ := List.cons.inj hlast
      rw [List.append_nil] at hlog
      rw [← hlog]
      exact he
    | cons y rest =>
      obtain ⟨rfl, -⟩ := List.cons.inj hlast
      exact h pre x rest hlog

/-- Entries that need nothing before them may be added. -/
theorem Disciplined.append {P : List α → α → Prop} {log entries : List α} (h : Disciplined P log)
    (hentries : ∀ e ∈ entries, ∀ pre, P pre e) : Disciplined P (log ++ entries) := by
  induction entries generalizing log with
  | nil => rwa [List.append_nil]
  | cons e entries ih =>
    have hsnoc := h.snoc (hentries e List.mem_cons_self log)
    rw [List.append_cons]
    exact ih hsnoc fun e' he' => hentries e' (List.mem_cons_of_mem e he')

end Lib
