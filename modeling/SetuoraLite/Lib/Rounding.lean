import Mathlib.Tactic.Linarith
import Mathlib.Tactic.FieldSimp
import SetuoraLite.Lib.DecimalContext

/-!
# What decimal arithmetic returns

The multiples of a power of ten (`OnGrid`) are what a rounding can return, and what it
leaves alone. One operation of the context moves its exact result by half a unit of its
last digit at most (`inContext_near`) and returns a number of 28 digits as it is
(`inContext_exact`).
-/

namespace Lib

/-- A multiple of `10 ^ e`. -/
def OnGrid (e : ℤ) (x : ℚ) : Prop := ∃ n : ℤ, x = n * (10 : ℚ) ^ e

/-- A rounding of `p / q` to a nearest integer. -/
def IsNearest (rounding : ℕ → ℕ → ℕ) : Prop :=
  ∀ p q : ℕ, 0 < q → |(rounding p q : ℚ) - p / q| ≤ 1 / 2

/-- The power that the arithmetic computes with is the usual one. -/
theorem tenPow_eq (e : ℤ) : tenPow e = (10 : ℚ) ^ e := by
  unfold tenPow
  split
  next h => rw [← zpow_natCast, Int.toNat_of_nonneg h]
  next h => rw [one_div, ← zpow_natCast, Int.toNat_of_nonneg (by omega), zpow_neg, inv_inv]

/-- A power of ten is positive. -/
theorem ten_zpow_pos (e : ℤ) : (0 : ℚ) < (10 : ℚ) ^ e := zpow_pos (by norm_num) e

/-- The absolute value of a fraction, by its numerator. -/
private theorem abs_eq_natAbs_div (x : ℚ) : |x| = (x.num.natAbs : ℚ) / x.den := by
  rw [Rat.abs_def, Rat.divInt_eq_div, Int.cast_natCast, Int.cast_natCast]

/-! ## The grid -/

/-- Zero is a multiple of everything. -/
theorem OnGrid.zero (e : ℤ) : OnGrid e 0 := ⟨0, by simp⟩

/-- The negative of a multiple. -/
theorem OnGrid.neg {e : ℤ} {x : ℚ} (h : OnGrid e x) : OnGrid e (-x) := by
  obtain ⟨n, rfl⟩ := h
  exact ⟨-n, by push_cast; ring⟩

/-- The absolute value of a multiple. -/
theorem OnGrid.abs {e : ℤ} {x : ℚ} (h : OnGrid e x) : OnGrid e |x| := by
  rcases abs_choice x with habs | habs
  · rwa [habs]
  · rw [habs]
    exact h.neg

/-- The sum of two multiples. -/
theorem OnGrid.add {e : ℤ} {x y : ℚ} (hx : OnGrid e x) (hy : OnGrid e y) : OnGrid e (x + y) := by
  obtain ⟨m, rfl⟩ := hx
  obtain ⟨n, rfl⟩ := hy
  exact ⟨m + n, by push_cast; ring⟩

/-- The difference of two multiples. -/
theorem OnGrid.sub {e : ℤ} {x y : ℚ} (hx : OnGrid e x) (hy : OnGrid e y) : OnGrid e (x - y) := by
  rw [sub_eq_add_neg]
  exact hx.add hy.neg

/-- The exponents of a product add up. -/
theorem OnGrid.mul {e f : ℤ} {x y : ℚ} (hx : OnGrid e x) (hy : OnGrid f y) :
    OnGrid (e + f) (x * y) := by
  obtain ⟨m, rfl⟩ := hx
  obtain ⟨n, rfl⟩ := hy
  refine ⟨m * n, ?_⟩
  rw [zpow_add₀ (by norm_num)]
  push_cast
  ring

/-- A coarser grid is part of a finer one. -/
theorem OnGrid.finer {e f : ℤ} {x : ℚ} (h : OnGrid f x) (hef : e ≤ f) : OnGrid e x := by
  obtain ⟨n, rfl⟩ := h
  obtain ⟨k, rfl⟩ := Int.le.dest hef
  refine ⟨n * 10 ^ k, ?_⟩
  rw [zpow_add₀ (by norm_num), zpow_natCast]
  push_cast
  ring

/-- Two numbers of a grid that are less than a unit apart are equal. -/
theorem OnGrid.eq_of_near {e : ℤ} {x y : ℚ} (hx : OnGrid e x) (hy : OnGrid e y)
    (h : |x - y| < (10 : ℚ) ^ e) : x = y := by
  obtain ⟨n, hn⟩ := hx.sub hy
  have hpos := ten_zpow_pos e
  rw [hn, abs_mul, abs_of_pos hpos] at h
  have hlt : |(n : ℚ)| < 1 := by
    by_contra hge
    have := mul_le_mul_of_nonneg_right (not_lt.mp hge) hpos.le
    linarith
  have hzero : n = 0 := Int.abs_lt_one_iff.mp (by exact_mod_cast hlt)
  rw [hzero] at hn
  have : x - y = 0 := by simpa using hn
  linarith

/-! ## Rounding -/

/-- The whole part of a quotient and its rest. -/
private theorem quotient_split (p q : ℕ) (hq : 0 < q) :
    (p : ℚ) / q = (p / q : ℕ) + ((p % q : ℕ) : ℚ) / q := by
  have hsplit : (p : ℚ) = q * (p / q : ℕ) + (p % q : ℕ) := by
    exact_mod_cast (Nat.div_add_mod p q).symm
  have hq' : (q : ℚ) ≠ 0 := by exact_mod_cast hq.ne'
  conv_lhs => rw [hsplit]
  field_simp

/-- Rounding half up is to a nearest number. -/
theorem divHalfUp_nearest : IsNearest divHalfUp := by
  intro p q hq
  have hrest : ((p % q : ℕ) : ℚ) < q := by exact_mod_cast Nat.mod_lt p hq
  have hq' : (0 : ℚ) < q := by exact_mod_cast hq
  rw [quotient_split p q hq, abs_le]
  unfold divHalfUp
  split
  next h =>
    have hhalf : 2 * ((p % q : ℕ) : ℚ) < q := by exact_mod_cast h
    have hfrac : ((p % q : ℕ) : ℚ) / q < 1 / 2 := by
      rw [div_lt_div_iff₀ hq' (by norm_num)]
      linarith
    have hnonneg : (0 : ℚ) ≤ ((p % q : ℕ) : ℚ) / q := by positivity
    constructor <;> linarith
  next h =>
    have hhalf : (q : ℚ) ≤ 2 * ((p % q : ℕ) : ℚ) := by exact_mod_cast not_lt.mp h
    have hfrac : 1 / 2 ≤ ((p % q : ℕ) : ℚ) / q := by
      rw [div_le_div_iff₀ (by norm_num) hq']
      linarith
    have hone : ((p % q : ℕ) : ℚ) / q < 1 := (div_lt_one hq').mpr hrest
    push_cast
    constructor <;> linarith

/-- Rounding half to even is, too. -/
theorem divHalfEven_nearest : IsNearest divHalfEven := by
  intro p q hq
  by_cases htie : 2 * (p % q) = q
  · -- A tie goes either way.
    have hq' : (q : ℚ) ≠ 0 := by exact_mod_cast hq.ne'
    have hfrac : ((p % q : ℕ) : ℚ) / q = 1 / 2 := by
      have htwice : ((p % q : ℕ) : ℚ) * 2 = 1 * q := by
        exact_mod_cast (by omega : p % q * 2 = 1 * q)
      exact (div_eq_div_iff hq' (by norm_num)).mpr htwice
    rw [quotient_split p q hq, hfrac, abs_le]
    unfold divHalfEven
    rw [if_neg (by omega), if_neg (by omega)]
    split
    · constructor <;> linarith
    · push_cast
      constructor <;> linarith
  · have hup : divHalfEven p q = divHalfUp p q := by
      unfold divHalfEven divHalfUp
      split
      · rfl
      next h => rw [if_pos (by omega)]
    rw [hup]
    exact divHalfUp_nearest p q hq

section Rounding

variable {rounding : ℕ → ℕ → ℕ}

/-- A rounding works on the magnitude and keeps the sign. -/
private theorem roundAt_parts (rounding : ℕ → ℕ → ℕ) (e : ℤ) (x : ℚ) :
    ∃ (σ : ℤ) (p q : ℕ), |(σ : ℚ)| = 1 ∧ 0 < q ∧ x = σ * (p / q) * (10 : ℚ) ^ e ∧
      roundAt rounding e x = σ * (rounding p q) * (10 : ℚ) ^ e := by
  have hpos := ten_zpow_pos e
  have hscaled : x = x / tenPow e * (10 : ℚ) ^ e := by
    rw [tenPow_eq]
    field_simp
  have habs := abs_eq_natAbs_div (x / tenPow e)
  unfold roundAt
  dsimp only
  rw [tenPow_eq] at *
  by_cases hneg : x < 0
  · refine ⟨-1, (x / (10 : ℚ) ^ e).num.natAbs, _, by norm_num, (x / (10 : ℚ) ^ e).den_pos, ?_, ?_⟩
    · rw [← habs, abs_of_neg (div_neg_of_neg_of_pos hneg hpos)]
      push_cast
      linarith
    · rw [if_pos hneg]
      push_cast
      ring
  · refine ⟨1, (x / (10 : ℚ) ^ e).num.natAbs, _, by norm_num, (x / (10 : ℚ) ^ e).den_pos, ?_, ?_⟩
    · rw [← habs, abs_of_nonneg (div_nonneg (not_lt.mp hneg) hpos.le)]
      push_cast
      linarith
    · rw [if_neg hneg]
      push_cast
      ring

/-- What is rounded at a digit is a multiple of it. -/
theorem roundAt_onGrid (rounding : ℕ → ℕ → ℕ) (e : ℤ) (x : ℚ) :
    OnGrid e (roundAt rounding e x) := by
  obtain ⟨σ, p, q, -, -, -, hround⟩ := roundAt_parts rounding e x
  exact ⟨σ * rounding p q, by rw [hround]; push_cast; ring⟩

/-- A rounding is within half a unit. -/
theorem roundAt_near (h : IsNearest rounding) (e : ℤ) (x : ℚ) :
    |roundAt rounding e x - x| ≤ (10 : ℚ) ^ e / 2 := by
  obtain ⟨σ, p, q, hσ, hq, hx, hround⟩ := roundAt_parts rounding e x
  have hpos := ten_zpow_pos e
  rw [hround]
  calc |(σ : ℚ) * rounding p q * (10 : ℚ) ^ e - x|
      = |σ * (rounding p q - p / q) * (10 : ℚ) ^ e| := by
        conv_lhs => rw [hx]
        congr 1
        ring
    _ = |(rounding p q : ℚ) - p / q| * (10 : ℚ) ^ e := by
        rw [abs_mul, abs_mul, hσ, abs_of_pos hpos, one_mul]
    _ ≤ 1 / 2 * (10 : ℚ) ^ e := mul_le_mul_of_nonneg_right (h p q hq) hpos.le
    _ = (10 : ℚ) ^ e / 2 := by ring

/-- A number of the grid stays as it is. -/
theorem roundAt_of_onGrid (h : IsNearest rounding) {e : ℤ} {x : ℚ} (hx : OnGrid e x) :
    roundAt rounding e x = x := by
  apply (roundAt_onGrid rounding e x).eq_of_near hx
  have hnear := roundAt_near h e x
  have hpos := ten_zpow_pos e
  linarith

/-- And so is its absolute value. -/
theorem abs_roundAt_onGrid (rounding : ℕ → ℕ → ℕ) (e : ℤ) (x : ℚ) :
    OnGrid e |roundAt rounding e x| :=
  (roundAt_onGrid rounding e x).abs

/-- A magnitude of the grid bounds the rounded number from above where it bounds the exact one. -/
theorem abs_roundAt_le (h : IsNearest rounding) {e : ℤ} {x v : ℚ} (hv : OnGrid e v)
    (hle : |x| ≤ v) :
    |roundAt rounding e x| ≤ v := by
  by_contra hlt
  have hnear := roundAt_near h e x
  have hpos := ten_zpow_pos e
  have hdist : |roundAt rounding e x| - |x| ≤ (10 : ℚ) ^ e / 2 :=
    le_trans (abs_sub_abs_le_abs_sub _ _) hnear
  have heq := (abs_roundAt_onGrid rounding e x).eq_of_near hv (by
    rw [abs_of_pos (by linarith)]
    linarith)
  linarith

/-- A magnitude of the grid bounds the rounded number from below where it bounds the exact one. -/
theorem le_abs_roundAt (h : IsNearest rounding) {e : ℤ} {x v : ℚ} (hv : OnGrid e v)
    (hle : v ≤ |x|) :
    v ≤ |roundAt rounding e x| := by
  by_contra hlt
  have hnear := roundAt_near h e x
  have hpos := ten_zpow_pos e
  have hdist : |x| - |roundAt rounding e x| ≤ (10 : ℚ) ^ e / 2 := by
    have := abs_sub_abs_le_abs_sub x (roundAt rounding e x)
    rw [abs_sub_comm] at this
    linarith
  have heq := hv.eq_of_near (abs_roundAt_onGrid rounding e x) (by
    rw [abs_of_pos (by linarith)]
    linarith)
  linarith

end Rounding

/-- A quotient rounds to `m` at most when it is below the next half. -/
theorem divHalfUp_le_iff {p q m : ℕ} (hq : 0 < q) : divHalfUp p q ≤ m ↔
    2 * p < (2 * m + 1) * q := by
  have hsplit := Nat.div_add_mod p q
  have hrest := Nat.mod_lt p hq
  unfold divHalfUp
  -- A quotient and a rest from here on.
  generalize p / q = d at *
  generalize p % q = r at *
  subst hsplit
  have hexpand : (2 * m + 1) * q = 2 * (m * q) + q := by ring
  have hswap : q * d = d * q := Nat.mul_comm q d
  rw [hexpand, hswap]
  split
  -- Down: the quotient itself is compared.
  next hlow =>
    constructor
    · intro hle
      have := Nat.mul_le_mul_right q hle
      omega
    · intro hlt
      by_contra hgt
      have := Nat.mul_le_mul_right q (by omega : m + 1 ≤ d)
      rw [Nat.add_mul] at this
      omega
  -- Up: the next number is.
  next hhigh =>
    constructor
    · intro hle
      have := Nat.mul_le_mul_right q hle
      rw [Nat.add_mul] at this
      omega
    · intro hlt
      by_contra hgt
      have := Nat.mul_le_mul_right q (by omega : m ≤ d)
      omega

/-- The numbers that half-up rounding takes to a magnitude of the grid or below. -/
theorem abs_roundAt_halfUp_le {e : ℤ} {x : ℚ} (m : ℕ) :
    |roundAt divHalfUp e x| ≤ m * (10 : ℚ) ^ e ↔ |x| < (m + 1 / 2) * (10 : ℚ) ^ e := by
  obtain ⟨σ, p, q, hσ, hq, hx, hround⟩ := roundAt_parts divHalfUp e x
  have hpos := ten_zpow_pos e
  have hq' : (0 : ℚ) < q := by exact_mod_cast hq
  have hmagnitude : |x| = p / q * (10 : ℚ) ^ e := by
    conv_lhs => rw [hx]
    rw [abs_mul, abs_mul, hσ, abs_of_pos hpos, one_mul, abs_of_nonneg (by positivity)]
  rw [hround, abs_mul, abs_mul, hσ, abs_of_pos hpos, one_mul, hmagnitude, Nat.abs_cast,
    mul_le_mul_iff_left₀ hpos, mul_lt_mul_iff_left₀ hpos, Nat.cast_le, divHalfUp_le_iff hq,
    div_lt_iff₀ hq']
  constructor
  · intro h
    have : (2 : ℚ) * p < (2 * m + 1) * q := by exact_mod_cast h
    linarith
  · intro h
    have : (2 : ℚ) * p < (2 * m + 1) * q := by linarith
    exact_mod_cast this

/-! ## The context -/

/-- The first digit is where it is said to be. -/
theorem leadingExponent_spec {x : ℚ} (hx : x ≠ 0) :
    (10 : ℚ) ^ leadingExponent x ≤ |x| ∧ |x| < (10 : ℚ) ^ (leadingExponent x + 1) := by
  have hp : x.num.natAbs ≠ 0 := Int.natAbs_ne_zero.mpr (Rat.num_ne_zero.mpr hx)
  have hq : x.den ≠ 0 := x.den_nz
  have habs := abs_eq_natAbs_div x
  generalize hP : x.num.natAbs = p at *
  generalize hQ : x.den = q at *
  have hq' : (0 : ℚ) < q := by exact_mod_cast Nat.pos_of_ne_zero hq
  -- Both parts lie between powers of ten.
  have hdigits : ∀ n : ℕ, n ≠ 0 →
      (10 : ℚ) ^ ((digitCount n : ℤ) - 1) ≤ n ∧ (n : ℚ) < (10 : ℚ) ^ (digitCount n : ℤ) := by
    intro n hn
    have hlow := pow_decDigits_le hn
    have hhigh := lt_pow_decDigits n
    have hlen : 0 < (decDigits n).length := by
      obtain ⟨c, cs, heq, -⟩ := decDigits_eq_cons n
      rw [heq]
      exact Nat.succ_pos _
    unfold digitCount
    constructor
    · have hcast : ((decDigits n).length : ℤ) - 1 = ((decDigits n).length - 1 : ℕ) := by omega
      rw [hcast, zpow_natCast]
      exact_mod_cast hlow
    · rw [zpow_natCast]
      exact_mod_cast hhigh
  obtain ⟨hplow, hphigh⟩ := hdigits p hp
  obtain ⟨hqlow, hqhigh⟩ := hdigits q hq
  have hupper : |x| < (10 : ℚ) ^ ((digitCount p : ℤ) - digitCount q + 1) := by
    rw [habs, div_lt_iff₀ hq']
    calc (p : ℚ) < (10 : ℚ) ^ (digitCount p : ℤ) := hphigh
      _ = (10 : ℚ) ^ ((digitCount p : ℤ) - digitCount q + 1) *
          (10 : ℚ) ^ ((digitCount q : ℤ) - 1) := by
          rw [← zpow_add₀ (by norm_num)]
          congr 1
          ring
      _ ≤ (10 : ℚ) ^ ((digitCount p : ℤ) - digitCount q + 1) * q :=
          mul_le_mul_of_nonneg_left hqlow (ten_zpow_pos _).le
  have hlower : (10 : ℚ) ^ ((digitCount p : ℤ) - digitCount q - 1) ≤ |x| := by
    rw [habs, le_div_iff₀ hq']
    calc (10 : ℚ) ^ ((digitCount p : ℤ) - digitCount q - 1) * q
        ≤ (10 : ℚ) ^ ((digitCount p : ℤ) - digitCount q - 1) * (10 : ℚ) ^ (digitCount q : ℤ) :=
          mul_le_mul_of_nonneg_left hqhigh.le (ten_zpow_pos _).le
      _ = (10 : ℚ) ^ ((digitCount p : ℤ) - 1) := by
          rw [← zpow_add₀ (by norm_num)]
          congr 1
          ring
      _ ≤ p := hplow
  unfold leadingExponent
  dsimp only
  rw [hP, hQ, tenPow_eq]
  split
  next h => exact ⟨h, hupper⟩
  next h => exact ⟨hlower, by simpa using h⟩

/-- A bound on a number bounds the place of its first digit. -/
private theorem leadingExponent_lt {x : ℚ} (hx : x ≠ 0) {k : ℤ} (h : |x| < (10 : ℚ) ^ k) :
    leadingExponent x < k := by
  have hlow := (leadingExponent_spec hx).1
  exact (zpow_lt_zpow_iff_right₀ (by norm_num)).mp (lt_of_le_of_lt hlow h)

/-- One operation of the context is off by half a unit of the last digit at most. -/
theorem inContext_near {x : ℚ} {k : ℤ} (h : |x| < (10 : ℚ) ^ k) :
    |inContext x - x| ≤ (10 : ℚ) ^ (k - 28) / 2 := by
  unfold inContext
  split
  next hzero =>
    subst hzero
    have := ten_zpow_pos (k - 28)
    rw [sub_zero, abs_zero]
    linarith
  next hx =>
    have hlead := leadingExponent_lt hx h
    apply le_trans (roundAt_near divHalfEven_nearest _ x)
    have hmono : (10 : ℚ) ^ (leadingExponent x - (decimalPrecision - 1 : ℤ)) ≤
        (10 : ℚ) ^ (k - 28) := by
      apply zpow_le_zpow_right₀ (by norm_num)
      show leadingExponent x - (28 - 1) ≤ k - 28
      omega
    linarith

/-- A number of at least a power of ten keeps to that power's digits. -/
theorem inContext_onGrid {x : ℚ} {k : ℤ} (h : (10 : ℚ) ^ k ≤ |x|) :
    OnGrid (k - 27) (inContext x) := by
  have hx : x ≠ 0 := by
    intro hzero
    rw [hzero, abs_zero] at h
    have := ten_zpow_pos k
    linarith
  have hhigh := (leadingExponent_spec hx).2
  have hlead : k < leadingExponent x + 1 :=
    (zpow_lt_zpow_iff_right₀ (by norm_num)).mp (lt_of_le_of_lt h hhigh)
  unfold inContext
  rw [if_neg hx]
  apply (roundAt_onGrid _ _ _).finer
  show k - 27 ≤ leadingExponent x - (28 - 1)
  omega

/-- A number of at most 28 digits is returned as it is. -/
theorem inContext_exact {e : ℤ} {x : ℚ} (hx : OnGrid e x) (h : |x| ≤ (10 : ℚ) ^ (e + 28)) :
    inContext x = x := by
  unfold inContext
  split
  next hzero => exact hzero.symm
  next hne =>
    apply roundAt_of_onGrid divHalfEven_nearest
    by_cases hlt : |x| < (10 : ℚ) ^ (e + 28)
    · have hlead := leadingExponent_lt hne hlt
      apply hx.finer
      show leadingExponent x - (28 - 1) ≤ e
      omega
    · -- The power of ten itself has one digit.
      have heq : |x| = (10 : ℚ) ^ (e + 28) := le_antisymm h (not_lt.mp hlt)
      have hlow := (leadingExponent_spec hne).1
      rw [heq] at hlow
      have hlead : leadingExponent x ≤ e + 28 := (zpow_le_zpow_iff_right₀ (by norm_num)).mp hlow
      have hpower : OnGrid (e + 28) x := by
        rcases abs_choice x with habs | habs
        · exact ⟨1, by rw [← habs, heq]; simp⟩
        · exact ⟨-1, by rw [← heq, habs]; simp⟩
      apply hpower.finer
      show leadingExponent x - (28 - 1) ≤ e + 28
      omega

/-- What an operation of the context returns has 28 digits. -/
private theorem inContext_digits {x : ℚ} (hx : x ≠ 0) :
    OnGrid (leadingExponent x - 27) (inContext x) ∧
      |inContext x| ≤ (10 : ℚ) ^ (leadingExponent x + 1) := by
  obtain ⟨hlow, hhigh⟩ := leadingExponent_spec hx
  refine ⟨inContext_onGrid hlow, ?_⟩
  unfold inContext
  rw [if_neg hx]
  apply abs_roundAt_le divHalfEven_nearest _ hhigh.le
  have hself : OnGrid (leadingExponent x + 1) ((10 : ℚ) ^ (leadingExponent x + 1)) := ⟨1, by simp⟩
  apply hself.finer
  show leadingExponent x - (28 - 1) ≤ leadingExponent x + 1
  omega

/-- Moving the point of a result of the context rounds nothing. -/
theorem inContext_div_hundred (x : ℚ) : inContext (inContext x / 100) = inContext x / 100 := by
  by_cases hx : x = 0
  · subst hx
    decide +kernel
  · obtain ⟨hgrid, hle⟩ := inContext_digits hx
    have hhundred : ∀ y : ℚ, y / 100 = y * (10 : ℚ) ^ (-2 : ℤ) := by
      intro y
      norm_num
      ring
    have hpoint : OnGrid (-2) ((10 : ℚ) ^ (-2 : ℤ)) := ⟨1, by simp⟩
    rw [hhundred]
    apply inContext_exact (hgrid.mul hpoint)
    rw [abs_mul, abs_of_pos (ten_zpow_pos (-2))]
    calc |inContext x| * (10 : ℚ) ^ (-2 : ℤ)
        ≤ (10 : ℚ) ^ (leadingExponent x + 1) * (10 : ℚ) ^ (-2 : ℤ) :=
          mul_le_mul_of_nonneg_right hle (ten_zpow_pos _).le
      _ = (10 : ℚ) ^ (leadingExponent x - 27 + -2 + 28) := by
          rw [← zpow_add₀ (by norm_num)]
          congr 1
          ring

/-- The context rounds nothing below a power of ten that it reached. -/
theorem le_abs_inContext {x : ℚ} {k : ℤ} (h : (10 : ℚ) ^ k ≤ |x|) :
    (10 : ℚ) ^ k ≤ |inContext x| := by
  have hx : x ≠ 0 := by
    intro hzero
    rw [hzero, abs_zero] at h
    have := ten_zpow_pos k
    linarith
  have hlead : k < leadingExponent x + 1 :=
    (zpow_lt_zpow_iff_right₀ (by norm_num)).mp (lt_of_le_of_lt h (leadingExponent_spec hx).2)
  have hlow := (leadingExponent_spec hx).1
  unfold inContext
  rw [if_neg hx]
  have hpower : OnGrid (leadingExponent x - (decimalPrecision - 1 : ℤ))
      ((10 : ℚ) ^ leadingExponent x) := by
    have hself : OnGrid (leadingExponent x) ((10 : ℚ) ^ leadingExponent x) := ⟨1, by simp⟩
    apply hself.finer
    show leadingExponent x - (28 - 1) ≤ leadingExponent x
    omega
  calc (10 : ℚ) ^ k ≤ (10 : ℚ) ^ leadingExponent x := zpow_le_zpow_right₀ (by norm_num) (by omega)
    _ ≤ _ := le_abs_roundAt divHalfEven_nearest hpower hlow

/-- What an operation of the context returns is not rounded again. -/
theorem inContext_idem (x : ℚ) : inContext (inContext x) = inContext x := by
  by_cases hx : x = 0
  · subst hx
    rfl
  · obtain ⟨hgrid, hle⟩ := inContext_digits hx
    apply inContext_exact hgrid
    have hplace : leadingExponent x - 27 + 28 = leadingExponent x + 1 := by ring
    rwa [hplace]

/-- The context changes no sign. -/
theorem inContext_nonneg {x : ℚ} (h : 0 ≤ x) : 0 ≤ inContext x := by
  unfold inContext
  split
  · exact le_refl _
  · unfold roundAt
    dsimp only
    rw [if_neg (not_lt.mpr h), tenPow_eq]
    exact mul_nonneg (Nat.cast_nonneg _) (ten_zpow_pos _).le

/-- In either direction. -/
theorem inContext_nonpos {x : ℚ} (h : x ≤ 0) : inContext x ≤ 0 := by
  unfold inContext
  split
  · exact le_refl _
  next hx =>
    unfold roundAt
    dsimp only
    rw [if_pos (lt_of_le_of_ne h hx), tenPow_eq]
    apply mul_nonpos_of_nonpos_of_nonneg _ (ten_zpow_pos _).le
    exact neg_nonpos.mpr (Nat.cast_nonneg _)

/-! ## Quantizing -/

/-- What a quantized number is: near its argument, with the places asked for, and of 28
digits at most. -/
theorem quantizeHalfUp_spec {places : ℕ} {x y : ℚ} (h : quantizeHalfUp places x = some y) :
    OnGrid (-places) y ∧ |y - x| ≤ (10 : ℚ) ^ (-(places : ℤ)) / 2 ∧
      |y| < (10 : ℚ) ^ (28 - (places : ℤ)) := by
  unfold quantizeHalfUp at h
  dsimp only at h
  split at h
  · exact absurd h (by simp)
  next hlt =>
    obtain rfl := Option.some.inj h
    refine ⟨roundAt_onGrid _ _ _, roundAt_near divHalfUp_nearest _ _, ?_⟩
    rw [zpow_sub₀ (by norm_num), lt_div_iff₀ (ten_zpow_pos _), zpow_natCast]
    exact_mod_cast not_le.mp hlt

/-- The numbers that quantizing takes to a magnitude or below it. -/
theorem quantizeHalfUp_le_iff {places : ℕ} {x y : ℚ} (h : quantizeHalfUp places x = some y)
    (m : ℕ) :
    |y| ≤ m * (10 : ℚ) ^ (-(places : ℤ)) ↔ |x| < (m + 1 / 2) * (10 : ℚ) ^ (-(places : ℤ)) := by
  unfold quantizeHalfUp at h
  dsimp only at h
  split at h
  · exact absurd h (by simp)
  · obtain rfl := Option.some.inj h
    exact abs_roundAt_halfUp_le m

/-- Nothing with more than 28 digits is returned. -/
theorem abs_lt_of_quantizeHalfUp {places : ℕ} {x y : ℚ} (h : quantizeHalfUp places x = some y) :
    |x| < (10 : ℚ) ^ (28 - (places : ℤ)) := by
  by_contra hge
  have hpower : OnGrid (-(places : ℤ)) ((10 : ℚ) ^ (28 - (places : ℤ))) := by
    have hself : OnGrid (28 - (places : ℤ)) ((10 : ℚ) ^ (28 - (places : ℤ))) := ⟨1, by simp⟩
    exact hself.finer (by omega)
  have hlarge := le_abs_roundAt divHalfUp_nearest hpower (not_lt.mp hge)
  have hlt := (quantizeHalfUp_spec h).2.2
  unfold quantizeHalfUp at h
  dsimp only at h
  split at h
  · exact absurd h (by simp)
  · obtain rfl := Option.some.inj h
    exact absurd hlt (not_lt.mpr hlarge)

/-- Quantizing raises only where the result has more than 28 digits. -/
theorem quantizeHalfUp_some {places : ℕ} {x : ℚ}
    (h : |x| + (10 : ℚ) ^ (-(places : ℤ)) / 2 < (10 : ℚ) ^ (28 - (places : ℤ))) :
    ∃ y, quantizeHalfUp places x = some y := by
  unfold quantizeHalfUp
  dsimp only
  have hnear := roundAt_near divHalfUp_nearest (-(places : ℤ)) x
  have hsmall : |roundAt divHalfUp (-(places : ℤ)) x| < (10 : ℚ) ^ (28 - (places : ℤ)) := by
    have := abs_sub_abs_le_abs_sub (roundAt divHalfUp (-(places : ℤ)) x) x
    linarith
  rw [zpow_sub₀ (by norm_num), lt_div_iff₀ (ten_zpow_pos _), zpow_natCast] at hsmall
  rw [if_neg (not_le.mpr (by exact_mod_cast hsmall))]
  exact ⟨_, rfl⟩

/-- Quantizing leaves a number with the places asked for alone. -/
theorem quantizeHalfUp_of_onGrid {places : ℕ} {x : ℚ} (hx : OnGrid (-places) x)
    (h : |x| < (10 : ℚ) ^ (28 - (places : ℤ))) : quantizeHalfUp places x = some x := by
  unfold quantizeHalfUp
  dsimp only
  rw [roundAt_of_onGrid divHalfUp_nearest hx]
  rw [zpow_sub₀ (by norm_num), lt_div_iff₀ (ten_zpow_pos _), zpow_natCast] at h
  rw [if_neg (not_le.mpr (by exact_mod_cast h))]

/-! ## Floats -/

/-- Decimals compare like their values. -/
theorem Dec.le_iff {a b : Dec} :
    a.le b = true ↔ (a.digits : ℚ) * 10 ^ a.exp ≤ b.digits * 10 ^ b.exp := by
  have hten : (10 : ℚ) ≠ 0 := by norm_num
  unfold Dec.le
  split
  next hexp =>
    obtain ⟨k, hk⟩ := Int.le.dest hexp
    have hshift : (b.exp - a.exp).toNat = k := by omega
    have hpow : (b.digits : ℚ) * 10 ^ b.exp = ((b.digits * 10 ^ k : ℕ) : ℚ) * 10 ^ a.exp := by
      rw [← hk, zpow_add₀ hten, zpow_natCast]
      push_cast
      ring
    rw [decide_eq_true_eq, hshift, hpow, mul_le_mul_iff_left₀ (ten_zpow_pos a.exp), Nat.cast_le]
  next hexp =>
    obtain ⟨k, hk⟩ := Int.le.dest (le_of_not_ge hexp)
    have hshift : (a.exp - b.exp).toNat = k := by omega
    have hpow : (a.digits : ℚ) * 10 ^ a.exp = ((a.digits * 10 ^ k : ℕ) : ℚ) * 10 ^ b.exp := by
      rw [← hk, zpow_add₀ hten, zpow_natCast]
      push_cast
      ring
    rw [decide_eq_true_eq, hshift, hpow, mul_le_mul_iff_left₀ (ten_zpow_pos b.exp), Nat.cast_le]

/-- Finite floats compare like their values. -/
theorem PyFloat.le_toRat {a b : PyFloat} {x y : ℚ} (ha : a.toRat? = some x)
    (hb : b.toRat? = some y) :
    PyFloat.le a b = true ↔ x ≤ y := by
  cases a with
  | nan => cases ha
  | inf => cases ha
  | finite na da =>
    cases b with
    | nan => cases hb
    | inf => cases hb
    | finite nb db =>
      have hx := Option.some.inj ha
      have hy := Option.some.inj hb
      rw [tenPow_eq, mul_assoc] at hx hy
      have hnonneg : ∀ d : Dec, (0 : ℚ) ≤ d.digits * 10 ^ d.exp := fun d =>
        mul_nonneg (Nat.cast_nonneg _) (ten_zpow_pos _).le
      have ha0 := hnonneg da
      have hb0 := hnonneg db
      have hzero : ∀ d : Dec, (d.digits : ℚ) * 10 ^ d.exp = 0 ↔ d.digits = 0 := by
        intro d
        have hpow : (10 : ℚ) ^ d.exp ≠ 0 := (ten_zpow_pos d.exp).ne'
        simp [hpow]
      subst hx hy
      cases na with
      -- By the two signs.
      | false =>
        cases nb with
        | false => simpa [PyFloat.le] using Dec.le_iff
        | true =>
          have hsum : (da.digits : ℚ) * 10 ^ da.exp ≤ -(db.digits * 10 ^ db.exp) ↔
              (da.digits : ℚ) * 10 ^ da.exp = 0 ∧ (db.digits : ℚ) * 10 ^ db.exp = 0 := by
            constructor
            · intro h
              exact ⟨by linarith, by linarith⟩
            · intro h
              linarith [h.1, h.2]
          simp [PyFloat.le, hsum, hzero]
      | true =>
        cases nb with
        | false =>
          have hle : -((da.digits : ℚ) * 10 ^ da.exp) ≤ db.digits * 10 ^ db.exp := by linarith
          simpa [PyFloat.le] using hle
        | true => simpa [PyFloat.le] using Dec.le_iff

/-- Finite floats are compared as fractions. -/
theorem PyFloat.lt_toRat {a b : PyFloat} {x y : ℚ} (ha : a.toRat? = some x)
    (hb : b.toRat? = some y) :
    PyFloat.lt a b = true ↔ x < y := by
  have hge := PyFloat.le_toRat hb ha
  unfold PyFloat.lt
  rw [Bool.and_eq_true, Bool.not_eq_true', PyFloat.le_toRat ha hb, ← Bool.not_eq_true, hge,
    lt_iff_le_not_ge]

end Lib
