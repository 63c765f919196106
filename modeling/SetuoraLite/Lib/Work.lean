import SetuoraLite.Lib.Machine

/-!
# Work that may be cut off

A worker runs a program against a state that outlives it: a database, a remote disk, the
books of somebody else. A `Work` is such a program: a tree of calls, where the answer to a
call decides how it goes on. It may be cut off between any two calls, and all it knew is
lost then. Others change the state in between, except for the part that is the worker's own.

* `workMachine` runs one work after another: one starts, makes a call, ends or is cut off, or
  others act;
* `Keeps I P r b` says that every call `r` can reach, when the own part is `b`, keeps the
  invariant `I`, and that every outcome it can end with meets `P`;
* `work_invariant` is the one induction: what the works keep call by call holds in every
  state of a run, wherever they were cut off;
* `Calls allowed fair r` says that `r` makes only calls that are allowed as long as their
  answers are fair, and `calls_invariant` is the induction for what such calls keep.
-/

namespace Lib

variable {σ τ ο ε α β ι κ γ : Type} {ρ : ο → Type}

/-- A program of calls `ο`, each with an answer of its own type. -/
inductive Work (ο : Type) (ρ : ο → Type) (ε α : Type) : Type
  | done (r : Except ε α)
  | call (o : ο) (next : ρ o → Work ο ρ ε α)

namespace Work

/-- Run `x`, then `f` on its value; an exception skips `f`. -/
protected def bind : Work ο ρ ε α → (α → Work ο ρ ε β) → Work ο ρ ε β
  | .done (.ok a), f => f a
  | .done (.error e), _ => .done (.error e)
  | .call o next, f => .call o fun a => (next a).bind f

instance : Monad (Work ο ρ ε) where
  pure a := .done (.ok a)
  bind := Work.bind

/-- One call. -/
def perform (o : ο) : Work ο ρ ε (ρ o) := .call o fun a => .done (.ok a)

/-- Raise. -/
def raise (e : ε) : Work ο ρ ε α := .done (.error e)

/-- Raise what an expression raised. -/
def lift (r : Except ε α) : Work ο ρ ε α := .done r

/-- `if p: raise e`. -/
def raiseIf (p : Prop) [Decidable p] (e : ε) : Work ο ρ ε PUnit :=
  if p then raise e else .done (.ok ⟨⟩)

/-- `try: x`, with its exception as a value. -/
def attempt : Work ο ρ ε α → Work ο ρ ε (Except ε α)
  | .done r => .done (.ok r)
  | .call o next => .call o fun a => (next a).attempt

end Work

/-- How a state takes a call: as the world decides, or not at all. -/
abbrev Server (σ ο : Type) (ρ : ο → Type) (ι : Type) := σ → (o : ο) → ι → Option (ρ o × σ)

/-! ## What a work keeps -/

section Keeps

variable (server : Server σ ο ρ ι) (own : σ → τ) (I : τ → Prop)

/-- Every call that the work can reach keeps the invariant and every outcome meets `P`,
while only the work changes its own part. -/
def Work.Keeps (P : Except ε α → τ → Prop) : Work ο ρ ε α → τ → Prop
  | .done r, b => P r b
  | .call o next, b => ∀ s i a t, own s = b → I b → server s o i = some (a, t) →
      I (own t) ∧ (next a).Keeps P (own t)

variable {server own I} {P : Except ε α → τ → Prop} {P' : Except ε β → τ → Prop} {b : τ}

namespace Work.Keeps

/-- One work after another. -/
theorem bind {x : Work ο ρ ε α} {f : α → Work ο ρ ε β} (hx : x.Keeps server own I P b)
    (hok : ∀ a b, P (.ok a) b → (f a).Keeps server own I P' b)
    (herror : ∀ e b, P (.error e) b → P' (.error e) b) : (x >>= f).Keeps server own I P' b := by
  show (x.bind f).Keeps server own I P' b
  induction x generalizing b with
  | done r =>
    cases r with
    | ok a => exact hok a b hx
    | error e => exact herror e b hx
  | call o next ih =>
    intro s i a t hs hI hstep
    obtain ⟨hkept, hnext⟩ := hx s i a t hs hI hstep
    exact ⟨hkept, ih a hnext⟩

/-- What is caught is a value. -/
theorem attempt {x : Work ο ρ ε α} (hx : x.Keeps server own I P b) :
    x.attempt.Keeps server own I (fun r b => ∃ r', r = .ok r' ∧ P r' b) b := by
  induction x generalizing b with
  | done r => exact ⟨r, rfl, hx⟩
  | call o next ih =>
    intro s i a t hs hI hstep
    obtain ⟨hkept, hnext⟩ := hx s i a t hs hI hstep
    exact ⟨hkept, ih a hnext⟩

/-- One work, caught, and then another. -/
theorem bind_attempt {x : Work ο ρ ε α} {f : Except ε α → Work ο ρ ε β}
    (hx : x.Keeps server own I P b) (hnext : ∀ r b, P r b → (f r).Keeps server own I P' b) :
    (x.attempt >>= f).Keeps server own I P' b := by
  refine hx.attempt.bind (fun r b h => ?_) fun e b h => ?_
  · obtain ⟨r', hr, h⟩ := h
    obtain rfl := Except.ok.inj hr
    exact hnext r b h
  · obtain ⟨r', hr, -⟩ := h
    exact absurd hr (by simp)

theorem bind_perform {o : ο} {f : ρ o → Work ο ρ ε β}
    (h : ∀ s i a t, own s = b → I b → server s o i = some (a, t) →
      I (own t) ∧ (f a).Keeps server own I P' (own t)) : (Work.perform o >>=
        f).Keeps server own I P' b := h

/-- A check ends the work, or its condition is false. -/
theorem bind_raiseIf {p : Prop} [Decidable p] {e : ε} {f : PUnit → Work ο ρ ε β}
    (hraise : p → P' (.error e) b) (h : ¬ p → (f ⟨⟩).Keeps server own I P' b) :
    (Work.raiseIf p e >>= f).Keeps server own I P' b := by
  unfold Work.raiseIf
  by_cases hp : p
  · rw [if_pos hp]
    exact hraise hp
  · rw [if_neg hp]
    exact h hp

/-- A computation ends the work, or its result is known. -/
theorem bind_lift {r : Except ε α} {f : α → Work ο ρ ε β}
    (hraise : ∀ e, r = .error e → P' (.error e) b)
    (h : ∀ a, r = .ok a → (f a).Keeps server own I P' b) :
    (Work.lift r >>= f).Keeps server own I P' b := by
  cases r with
  | ok a => exact h a rfl
  | error e => exact hraise e rfl

end Work.Keeps

end Keeps

/-! ## What a work calls -/

section Calls

variable {allowed : ο → Prop} {fair : (o : ο) → ρ o → Prop}

/-- The work makes only calls that are allowed, as long as the answers are fair. -/
def Work.Calls (allowed : ο → Prop) (fair : (o : ο) → ρ o → Prop) : Work ο ρ ε α → Prop
  | .done _ => True
  | .call o next => allowed o ∧ ∀ a, fair o a → (next a).Calls allowed fair

namespace Work.Calls

theorem bind {x : Work ο ρ ε α} {f : α → Work ο ρ ε β} (hx : x.Calls allowed fair)
    (hf : ∀ a, (f a).Calls allowed fair) : (x >>= f).Calls allowed fair := by
  show (x.bind f).Calls allowed fair
  induction x with
  | done r =>
    cases r with
    | ok a => exact hf a
    | error e => trivial
  | call o next ih => exact ⟨hx.1, fun a ha => ih a (hx.2 a ha)⟩

theorem attempt {x : Work ο ρ ε α} (hx : x.Calls allowed fair) : x.attempt.Calls allowed fair := by
  induction x with
  | done r => trivial
  | call o next ih => exact ⟨hx.1, fun a ha => ih a (hx.2 a ha)⟩

theorem bind_perform {o : ο} {f : ρ o → Work ο ρ ε β} (ho : allowed o)
    (h : ∀ a, fair o a → (f a).Calls allowed fair) :
    (Work.perform o >>= f).Calls allowed fair := ⟨ho, h⟩

theorem bind_raiseIf {p : Prop} [Decidable p] {e : ε} {f : PUnit → Work ο ρ ε β}
    (h : (f ⟨⟩).Calls allowed fair) : (Work.raiseIf p e >>= f).Calls allowed fair := by
  unfold Work.raiseIf
  split
  · trivial
  · exact h

theorem bind_lift {r : Except ε α} {f : α → Work ο ρ ε β}
    (h : ∀ a, r = .ok a → (f a).Calls allowed fair) :
    (Work.lift r >>= f).Calls allowed fair := by
  cases r with
  | ok a => exact h a rfl
  | error e => trivial

end Work.Calls

end Calls

/-! ## Runs -/

/-- A state and the work that is being done on it. -/
structure Bench (σ ο : Type) (ρ : ο → Type) (ε α : Type) where
  state : σ
  work : Option (Work ο ρ ε α)

/-- A work starts, its next call is taken, it is over or cut off, or others act. -/
inductive WorkAction (κ ι γ : Type)
  | start (k : κ)
  | call (i : ι)
  | cut
  | others (g : γ)

/-- The work that is left after its next call, and the state. -/
def Work.step (server : Server σ ο ρ ι) (s : σ) (i : ι) : Work ο ρ ε α → Option (Work ο ρ ε α × σ)
  | .done _ => none
  | .call o next => (server s o i).map fun x => (next x.1, x.2)

/-- Works are done one at a time. -/
def workMachine (server : Server σ ο ρ ι) (main : κ → Work ο ρ ε α) (others : σ → γ → Option σ) :
    Machine (Bench σ ο ρ ε α) (WorkAction κ ι γ)
  | w, .start k => if w.work.isNone then some ⟨w.state, some (main k)⟩ else none
  | w, .call i => w.work.bind fun x => (x.step server w.state i).map fun y => ⟨y.2, some y.1⟩
  | w, .cut => some ⟨w.state, none⟩
  | w, .others g => (others w.state g).map fun t => ⟨t, w.work⟩

section Runs

variable {server : Server σ ο ρ ι} {own : σ → τ} {I : τ → Prop} {main : κ → Work ο ρ ε α}
    {others : σ → γ → Option σ}

/-- The invariant holds, and the work that is being done keeps it. -/
structure Bench.Good (server : Server σ ο ρ ι) (own : σ → τ) (I : τ → Prop)
    (w : Bench σ ο ρ ε α) : Prop where
  state : I (own w.state)
  work : ∀ x ∈ w.work, x.Keeps server own I (fun _ _ => True) (own w.state)

theorem work_step (hmain : ∀ k b, I b → (main k).Keeps server own I (fun _ _ => True) b)
    (hothers : ∀ s g t, others s g = some t → own t = own s) (w : Bench σ ο ρ ε α)
    (a : WorkAction κ ι γ) (w' : Bench σ ο ρ ε α) (h : w.Good server own I)
    (hstep : workMachine server main others w a = some w') :
    w'.Good server own I := by
  cases a with
  | start k =>
    obtain ⟨-, hstep⟩ := Option.ite_none_right_eq_some.mp hstep
    obtain rfl := Option.some.inj hstep
    refine ⟨h.state, fun x hx => ?_⟩
    obtain rfl := Option.some.inj hx
    exact hmain k _ h.state
  -- A call that returns goes on with its answer.
  | call i =>
    obtain ⟨x, hx, hcall⟩ := Option.bind_eq_some_iff.mp hstep
    obtain ⟨y, hy, rfl⟩ := Option.map_eq_some_iff.mp hcall
    cases x with
    | done r => exact absurd hy (by simp [Work.step])
    | call o next =>
      obtain ⟨answer, hserved, rfl⟩ := Option.map_eq_some_iff.mp hy
      obtain ⟨hkept, hnext⟩ := h.work _ hx w.state i answer.1 answer.2 rfl h.state hserved
      refine ⟨hkept, fun z hz => ?_⟩
      obtain rfl := Option.some.inj hz
      exact hnext
  | cut =>
    obtain rfl := Option.some.inj hstep
    exact ⟨h.state, fun x hx => absurd hx (by simp)⟩
  -- The others change the state, but not what the work looks at.
  | others g =>
    obtain ⟨t, ht, rfl⟩ := Option.map_eq_some_iff.mp hstep
    have hown := hothers w.state g t ht
    refine ⟨?_, fun x hx => ?_⟩
    · show I (own t)
      rw [hown]
      exact h.state
    · show x.Keeps server own I _ (own t)
      rw [hown]
      exact h.work x hx

/-- What every work keeps, call by call, holds wherever a run ends. -/
theorem work_invariant (hmain : ∀ k b, I b → (main k).Keeps server own I (fun _ _ => True) b)
    (hothers : ∀ s g t, others s g = some t → own t = own s) {s : σ} (hs : I (own s))
    {as : List (WorkAction κ ι γ)} {w : Bench σ ο ρ ε α}
    (hexec : exec (workMachine server main others) ⟨s, none⟩ as = some w) : I (own w.state) := by
  have hgood : w.Good server own I := by
    refine exec_invariant (work_step hmain hothers) ⟨hs, fun x hx => ?_⟩ hexec
    exact absurd hx (by simp)
  exact hgood.state

/-- The world takes the calls of the action in a way that meets `C`. -/
def WorkAction.Takes (C : ι → Prop) : WorkAction κ ι γ → Prop
  | .call i => C i
  | _ => True

variable {allowed : ο → Prop} {fair : (o : ο) → ρ o → Prop} {C : ι → Prop}

/-- What every allowed call keeps while the answers are fair, every run of works that make only
such calls keeps. -/
theorem calls_invariant (hmain : ∀ k, (main k).Calls allowed fair)
    (hcall : ∀ s o i a t, I (own s) → C i → allowed o → server s o i = some (a, t) →
      I (own t) ∧ fair o a)
    (hothers : ∀ s g t, others s g = some t → own t = own s) {s : σ} (hs : I (own s))
    {as : List (WorkAction κ ι γ)} (has : ∀ a ∈ as, a.Takes C) {w : Bench σ ο ρ ε α}
    (hexec : exec (workMachine server main others) ⟨s, none⟩ as = some w) : I (own w.state) := by
  have hgood : I (own w.state) ∧ ∀ x ∈ w.work, x.Calls allowed fair := by
    refine guarded_invariant (I := fun w => I (own w.state) ∧ ∀ x ∈ w.work, x.Calls allowed fair)
      (fun w a w' h ha hstep => ?_) ⟨hs, fun x hx => absurd hx (by simp)⟩ (guarded_of_mem has) hexec
    cases a with
    | start k =>
      obtain ⟨-, hstep⟩ := Option.ite_none_right_eq_some.mp hstep
      obtain rfl := Option.some.inj hstep
      refine ⟨h.1, fun x hx => ?_⟩
      obtain rfl := Option.some.inj hx
      exact hmain k
    -- The call was allowed in the state before it.
    | call i =>
      obtain ⟨x, hx, hcalled⟩ := Option.bind_eq_some_iff.mp hstep
      obtain ⟨y, hy, rfl⟩ := Option.map_eq_some_iff.mp hcalled
      cases x with
      | done r => exact absurd hy (by simp [Work.step])
      | call o next =>
        obtain ⟨answer, hserved, rfl⟩ := Option.map_eq_some_iff.mp hy
        obtain ⟨hallowed, hnext⟩ := h.2 _ hx
        obtain ⟨hkept, hfair⟩ := hcall w.state o i answer.1 answer.2 h.1 ha hallowed hserved
        refine ⟨hkept, fun z hz => ?_⟩
        obtain rfl := Option.some.inj hz
        exact hnext _ hfair
    | cut =>
      obtain rfl := Option.some.inj hstep
      exact ⟨h.1, fun x hx => absurd hx (by simp)⟩
    -- The others keep the invariant by assumption.
    | others g =>
      obtain ⟨t, ht, rfl⟩ := Option.map_eq_some_iff.mp hstep
      refine ⟨?_, h.2⟩
      show I (own t)
      rw [hothers w.state g t ht]
      exact h.1
  exact hgood.1

end Runs

end Lib
