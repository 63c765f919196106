import SetuoraLite.Lib.Machine

/-!
# Requests

A server works on many requests at once. Each reads the shared state step by step
and, between two reads, commits whole transactions; what it read may be out of date
when it commits. A `Request` is such a program: a tree of reads and commits, whose
commits are data, so that a condition can look at what is about to be written.

* `serve` runs a request alone, from its first read to its response;
* `poolMachine` runs any number of requests, one read or one commit at a time, in
  any order;
* `Spec R Q P r s` says that every commit `r` can reach from `s` meets `Q`, and every
  value it can end with meets `P`, when others only change the state along `R`. With
  `R` equality it is what a request knows when it is alone; with a weaker `R` it is
  what it still knows in company.
-/

namespace Lib

variable {σ κ ε α β ι : Type}

/-- A program that reads a state `σ` and commits transactions `κ`, step by step. -/
inductive Request (σ κ ε α : Type) : Type
  | done (r : Except ε α)
  | read (next : σ → Request σ κ ε α)
  | commit (c : κ) (next : Except ε PUnit → Request σ κ ε α)

namespace Request

/-- Run `x`, then `f` on its value; an exception skips `f`. -/
protected def bind : Request σ κ ε α → (α → Request σ κ ε β) → Request σ κ ε β
  | .done (.ok a), f => f a
  | .done (.error e), _ => .done (.error e)
  | .read next, f => .read fun s => (next s).bind f
  | .commit c next, f => .commit c fun r => (next r).bind f

instance : Monad (Request σ κ ε) where
  pure a := .done (.ok a)
  bind := Request.bind

/-- Read from the state. -/
def reads (f : σ → α) : Request σ κ ε α := .read fun s => .done (.ok (f s))

/-- Raise. -/
def raise (e : ε) : Request σ κ ε α := .done (.error e)

/-- Raise what an expression raised. -/
def lift (r : Except ε α) : Request σ κ ε α := .done r

/-- `if p: raise e`. -/
def raiseIf (p : Prop) [Decidable p] (e : ε) : Request σ κ ε PUnit :=
  if p then raise e else .done (.ok ⟨⟩)

/-- A check that fails ends the request. -/
theorem raiseIf_bind (p : Prop) [Decidable p] (e : ε) (g : PUnit → Request σ κ ε β) :
    (raiseIf p e >>= g) = if p then raise e else g ⟨⟩ := by
  unfold raiseIf
  by_cases hp : p
  · rw [if_pos hp, if_pos hp]
    rfl
  · rw [if_neg hp, if_neg hp]
    rfl

/-- Commit a transaction; its exception is the request's. -/
def commits (c : κ) : Request σ κ ε PUnit := .commit c .done

/-- Commit a transaction and go on with its outcome. -/
def attempt (c : κ) : Request σ κ ε (Except ε PUnit) := .commit c fun r => .done (.ok r)

/-- Whatever others do, the request returns, and commits nothing before. -/
def WillReturn : Request σ κ ε α → Prop
  | .done (.ok _) => True
  | .done (.error _) => False
  | .read next => ∀ s, (next s).WillReturn
  | .commit _ _ => False

/-- Whatever others do, the request raises, and commits nothing before. -/
def WillRaise : Request σ κ ε α → Prop
  | .done (.ok _) => False
  | .done (.error _) => True
  | .read next => ∀ s, (next s).WillRaise
  | .commit _ _ => False

/-! ## Alone -/

variable (run : κ → σ → Except ε PUnit × σ)

/-- The whole request, with nothing in between its steps. -/
def serve : Request σ κ ε α → σ → Except ε α × σ
  | .done r, s => (r, s)
  | .read next, s => (next s).serve s
  | .commit c next, s => (next (run c s).1).serve (run c s).2

/-- One read or one commit. -/
def step : Request σ κ ε α → σ → Request σ κ ε α × σ
  | .done r, s => (.done r, s)
  | .read next, s => (next s, s)
  | .commit c next, s => (next (run c s).1, (run c s).2)

/-- After a step such a request returns still, and the state is as it was. -/
theorem WillReturn.step {run : κ → σ → Except ε PUnit × σ} {r : Request σ κ ε α} (h : r.WillReturn)
    (s : σ) :
    (r.step run s).1.WillReturn ∧ (r.step run s).2 = s := by
  cases r with
  | done r => exact ⟨h, rfl⟩
  | read next => exact ⟨h s, rfl⟩
  | commit c next => exact h.elim

/-- After a step such a request raises still, and the state is as it was. -/
theorem WillRaise.step {run : κ → σ → Except ε PUnit × σ} {r : Request σ κ ε α} (h : r.WillRaise)
    (s : σ) :
    (r.step run s).1.WillRaise ∧ (r.step run s).2 = s := by
  cases r with
  | done r => exact ⟨h, rfl⟩
  | read next => exact ⟨h s, rfl⟩
  | commit c next => exact h.elim

/-- No request is bound to both. -/
theorem WillRaise.not_willReturn [Nonempty σ] {r : Request σ κ ε α} (h : r.WillRaise) :
    ¬ r.WillReturn := by
  induction r with
  | done r =>
    cases r with
    | ok a => exact h.elim
    | error e => exact id
  | read next ih =>
    obtain ⟨s⟩ := ‹Nonempty σ›
    exact fun hreturn => ih s (h s) (hreturn s)
  | commit c next _ => exact h.elim

/-! ## What a request commits -/

/-- Every commit that the request can reach meets `Q` and every value it ends with meets
`P`, if others change the state along `R` only. After a commit of its own it starts
from anywhere. -/
def Spec (R : σ → σ → Prop) (Q : κ → σ → Prop) (P : α → σ → Prop) : Request σ κ ε α → σ → Prop
  | .done (.ok a), s => P a s
  | .done (.error _), _ => True
  | .read next, s => ∀ t, R s t → (next t).Spec R Q P t
  | .commit c next, s => (∀ t, R s t → Q c t) ∧ ∀ r t, (next r).Spec R Q P t

/-- Every commit that the request can reach meets `Q`. -/
abbrev Commits (R : σ → σ → Prop) (Q : κ → σ → Prop) (r : Request σ κ ε α) (s : σ) : Prop :=
  r.Spec R Q (fun _ _ => True) s

variable {R : σ → σ → Prop} {Q Q' : κ → σ → Prop} {P : α → σ → Prop} {P' : β → σ → Prop} {run}

theorem Spec.pure {a : α} {s : σ} (h : P a s) : (Pure.pure a : Request σ κ ε α).Spec R Q P s := h

theorem Spec.raise (e : ε) (s : σ) : (raise e : Request σ κ ε α).Spec R Q P s := trivial

/-- What was read was true at the time. -/
theorem Spec.reads (f : σ → α) (s : σ) :
    (reads f : Request σ κ ε α).Spec R Q (fun a t => R s t ∧ a = f t) s := fun _ ht => ⟨ht, rfl⟩

theorem Spec.lift (x : Except ε α) (s : σ) :
    (lift x : Request σ κ ε α).Spec R Q (fun a t => t = s ∧ x = .ok a) s := by
  cases x with
  | ok a => exact ⟨rfl, rfl⟩
  | error e => trivial

/-- A check that is passed keeps the state. -/
theorem Spec.raiseIf (p : Prop) [Decidable p] (e : ε) (s : σ) :
    (raiseIf p e : Request σ κ ε PUnit).Spec R Q (fun _ t => t = s ∧ ¬ p) s := by
  unfold Request.raiseIf
  by_cases hp : p
  · rw [if_pos hp]
    exact Spec.raise e s
  · rw [if_neg hp]
    exact ⟨rfl, hp⟩

/-- One request after another. -/
theorem Spec.bind {x : Request σ κ ε α} {g : α → Request σ κ ε β} {s : σ} (hx : x.Spec R Q P s)
    (hg : ∀ a t, P a t → (g a).Spec R Q P' t) : (x >>= g).Spec R Q P' s := by
  show (x.bind g).Spec R Q P' s
  induction x generalizing s with
  | done r =>
    cases r with
    | ok a => exact hg a s hx
    | error e => trivial
  | read next ih => exact fun t ht => ih t (hx t ht)
  | commit c next ih => exact ⟨hx.1, fun r t => ih r (hx.2 r t)⟩

/-- A request that commits asks for its commit alone. -/
theorem Spec.commits {c : κ} {s : σ} (h : ∀ t, R s t → Q c t) :
    (Request.commits c : Request σ κ ε PUnit).Spec R Q (fun _ _ => True) s := by
  refine ⟨h, fun r t => ?_⟩
  cases r <;> trivial

theorem Spec.attempt {c : κ} {s : σ} (h : ∀ t, R s t → Q c t) :
    (Request.attempt c : Request σ κ ε (Except ε PUnit)).Spec R Q (fun _ _ => True) s :=
  ⟨h, fun _ _ => trivial⟩

/-- Alone, what is read is true from then on. -/
theorem Spec.bind_reads {f : σ → α} {g : α → Request σ κ ε β} {s : σ}
    (h : (g (f s)).Spec Eq Q P' s) : (Request.reads f >>= g).Spec Eq Q P' s := by
  refine (Spec.reads f s).bind fun a t ht => ?_
  obtain ⟨rfl, rfl⟩ := ht
  exact h

theorem Spec.bind_raiseIf {p : Prop} [Decidable p] {e : ε} {g : PUnit → Request σ κ ε β} {s : σ}
    (h : ¬ p → (g ⟨⟩).Spec R Q P' s) : (Request.raiseIf p e >>= g).Spec R Q P' s := by
  refine (Spec.raiseIf p e s).bind fun _ t ht => ?_
  obtain ⟨rfl, hp⟩ := ht
  exact h hp

theorem Spec.bind_lift {x : Except ε α} {g : α → Request σ κ ε β} {s : σ}
    (h : ∀ a, x = .ok a → (g a).Spec R Q P' s) : (Request.lift x >>= g).Spec R Q P' s := by
  refine (Spec.lift x s).bind fun a t ht => ?_
  obtain ⟨rfl, hx⟩ := ht
  exact h a hx

/-- The commit of a request that is alone, in the state it is in. -/
theorem Spec.commits_alone {c : κ} {s : σ} (h : Q c s) :
    (Request.commits c : Request σ κ ε PUnit).Spec Eq Q (fun _ _ => True) s :=
  Spec.commits fun _ ht => ht ▸ h

/-- Weaker conditions. -/
theorem Spec.imp {P₂ : α → σ → Prop} (hQ : ∀ c s, Q c s → Q' c s) (hP : ∀ a s, P a s → P₂ a s) :
    ∀ {r : Request σ κ ε α} {s : σ}, r.Spec R Q P s → r.Spec R Q' P₂ s
  | .done (.ok a), s, hr => hP a s hr
  | .done (.error _), _, _ => trivial
  | .read _, _, hr => fun t ht => (hr t ht).imp hQ hP
  | .commit _ _, _, hr => ⟨fun t ht => hQ _ _ (hr.1 t ht), fun r t => (hr.2 r t).imp hQ hP⟩

/-- What two walks through a request found out about its commits. -/
theorem Commits.and : ∀ {r : Request σ κ ε α} {s : σ}, r.Commits R Q s → r.Commits R Q' s →
    r.Commits R (fun c t => Q c t ∧ Q' c t) s
  | .done (.ok _), _, _, _ => trivial
  | .done (.error _), _, _, _ => trivial
  | .read _, _, h, h' => fun t ht => Commits.and (h t ht) (h' t ht)
  | .commit _ _, _, h, h' =>
    ⟨fun t ht => ⟨h.1 t ht, h'.1 t ht⟩, fun r t => Commits.and (h.2 r t) (h'.2 r t)⟩

/-- A request alone keeps what each of its commits keeps. -/
theorem serve_invariant {I : σ → Prop} (hstep : ∀ s c, I s → Q c s → I (run c s).2) :
    ∀ {r : Request σ κ ε α} {s : σ}, I s → r.Commits Eq Q s → I (r.serve run s).2 := by
  intro r
  induction r with
  | done r =>
    intro s hI _
    exact hI
  | read next ih =>
    intro s hI hr
    exact ih s hI (hr s rfl)
  | commit c next ih =>
    intro s hI hr
    exact ih (run c s).1 (hstep s c hI (hr.1 s rfl)) (hr.2 _ _)

/-! ## What a lone request returns -/

/-- Served alone from `s`, the request returns a value and a state in `P`, or raises and
leaves a state in `E`. -/
def Serves (run : κ → σ → Except ε PUnit × σ) (P : α → σ → Prop) (E : ε → σ → Prop)
    (r : Request σ κ ε α) (s : σ) : Prop :=
  match r.serve run s with
  | (.ok a, t) => P a t
  | (.error e, t) => E e t

variable {E : ε → σ → Prop} {P₁ : α → σ → Prop}

theorem serve_bind (x : Request σ κ ε α) (g : α → Request σ κ ε β) (s : σ) :
    (x >>= g).serve run s = match x.serve run s with
      | (.ok a, t) => (g a).serve run t
      | (.error e, t) => (.error e, t) := by
  show (x.bind g).serve run s = _
  induction x generalizing s with
  | done r => cases r <;> rfl
  | read next ih => exact ih s s
  | commit c next ih => exact ih (run c s).1 (run c s).2

/-- One request after another. -/
theorem Serves.bind {x : Request σ κ ε α} {g : α → Request σ κ ε β} {s : σ}
    (hx : x.Serves run P₁ E s) (hg : ∀ a t, P₁ a t → (g a).Serves run P' E t) :
    (x >>= g).Serves run P' E s := by
  unfold Serves at hx ⊢
  rw [serve_bind]
  generalize x.serve run s = outcome at hx ⊢
  obtain ⟨r, t⟩ := outcome
  cases r with
  | ok a => exact hg a t hx
  | error e => exact hx

/-- Weaker conditions. -/
theorem Serves.imp {P₂ : α → σ → Prop} {E₂ : ε → σ → Prop} {x : Request σ κ ε α} {s : σ}
    (hx : x.Serves run P₁ E s) (hP : ∀ a t, P₁ a t → P₂ a t) (hE : ∀ e t, E e t → E₂ e t) :
    x.Serves run P₂ E₂ s := by
  unfold Serves at hx ⊢
  generalize x.serve run s = outcome at hx ⊢
  obtain ⟨r, t⟩ := outcome
  cases r with
  | ok a => exact hP a t hx
  | error e => exact hE e t hx

/-- One value and one state are left. -/
theorem Serves.eq {x : Request σ κ ε α} {s t : σ} {a : α}
    (h : x.Serves run (fun b u => b = a ∧ u = t) (fun _ _ => False) s) :
    x.serve run s = (.ok a, t) := by
  unfold Serves at h
  generalize x.serve run s = outcome at h ⊢
  obtain ⟨r, u⟩ := outcome
  cases r with
  | ok b =>
    obtain ⟨rfl, rfl⟩ := h
    rfl
  | error e => exact h.elim

/-- A request that only reads leaves the state alone and returns what it is known to. -/
theorem Spec.serves {r : Request σ κ ε α} {s : σ} (h : r.Spec Eq (fun _ _ => False) P₁ s) :
    r.Serves run (fun a t => t = s ∧ P₁ a t) (fun _ t => t = s) s := by
  induction r with
  | done r =>
    cases r with
    | ok a => exact ⟨rfl, h⟩
    | error e => exact rfl
  | read next ih => exact ih s (h s rfl)
  | commit c next _ => exact (h.1 s rfl).elim

theorem Serves.pure {a : α} {s : σ} (h : P₁ a s) :
    (Pure.pure a : Request σ κ ε α).Serves run P₁ E s := h

theorem Serves.raise {e : ε} {s : σ} (h : E e s) :
    (raise e : Request σ κ ε α).Serves run P₁ E s := h

theorem Serves.bind_reads {f : σ → α} {g : α → Request σ κ ε β} {s : σ}
    (h : (g (f s)).Serves run P' E s) : (Request.reads f >>= g).Serves run P' E s := h

theorem Serves.bind_raiseIf {p : Prop} [Decidable p] {e : ε} {g : PUnit → Request σ κ ε β} {s : σ}
    (hraise : p → E e s) (h : ¬ p → (g ⟨⟩).Serves run P' E s) :
    (Request.raiseIf p e >>= g).Serves run P' E s := by
  unfold Request.raiseIf
  by_cases hp : p
  · rw [if_pos hp]
    exact hraise hp
  · rw [if_neg hp]
    exact h hp

theorem Serves.bind_lift {x : Except ε α} {g : α → Request σ κ ε β} {s : σ}
    (hraise : ∀ e, x = .error e → E e s) (h : ∀ a, x = .ok a → (g a).Serves run P' E s) :
    (Request.lift x >>= g).Serves run P' E s := by
  cases x with
  | ok a => exact h a rfl
  | error e => exact hraise e rfl

theorem Serves.commits {c : κ} {s : σ} {P₀ : PUnit → σ → Prop}
    (h : ∀ t, run c s = (.ok ⟨⟩, t) → P₀ ⟨⟩ t) (hraise : ∀ e t, run c s = (.error e, t) → E e t) :
    (Request.commits c : Request σ κ ε PUnit).Serves run P₀ E s := by
  have hserve : (Request.commits c : Request σ κ ε PUnit).serve run s = run c s := rfl
  unfold Serves
  rw [hserve]
  cases hrun : run c s with
  | mk r t =>
    cases r with
    | ok u => exact h t hrun
    | error e => exact hraise e t hrun

theorem Serves.bind_attempt {c : κ} {g : Except ε PUnit → Request σ κ ε β} {s : σ}
    (h : ∀ r t, run c s = (r, t) → (g r).Serves run P' E t) :
    (Request.attempt c >>= g).Serves run P' E s := h _ _ rfl

end Request

/-! ## In company -/

/-- A shared state and the requests at work on it. -/
structure Pool (σ κ ε α : Type) where
  state : σ
  requests : List (Request σ κ ε α)

/-- A request arrives, or one at work takes its next step. -/
inductive PoolAction (ι : Type)
  | arrive (i : ι)
  | step (n : Nat)
deriving DecidableEq

/-- Requests come in and take their steps in any order. -/
def poolMachine (run : κ → σ → Except ε PUnit × σ) (request : ι → Request σ κ ε α) :
    Machine (Pool σ κ ε α) (PoolAction ι)
  | p, .arrive i => some { p with requests := p.requests ++ [request i] }
  | p, .step n => p.requests[n]?.map fun r =>
      { state := (r.step run p.state).2, requests := p.requests.set n (r.step run p.state).1 }

/-- The requests that have arrived, in order. -/
def arrivals (as : List (PoolAction ι)) : List ι :=
  as.filterMap fun
    | .arrive i => some i
    | .step _ => none

end Lib
