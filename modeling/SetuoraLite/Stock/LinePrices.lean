import SetuoraLite.Lib.Rounding
import SetuoraLite.Lib.Transaction
import SetuoraLite.Stock.Voucher

/-!
# The price of a line

On the sales side a price includes GST: a line takes the tax out of the price and puts it
back in two steps, each rounded to paise. `line_total_near_iff` says when the total of a line
is the price again, up to two paise.

The tax of one rate is exact to half a paisa. A tax in two halves is taken at half the rate
rounded to two places, so a rate such as 0.25 comes back as 0.26: by 0.01 per cent of the
taxable value too much.
-/

namespace SetuoraLite

open Lib

/-- An amount in paise. -/
abbrev TwoPlaces (x : ℚ) : Prop := OnGrid (-2) x

private theorem paisa : (10 : ℚ) ^ (-2 : ℤ) = 1 / 100 := by norm_num

theorem twoPlaces_iff {x : ℚ} : TwoPlaces x ↔ ∃ n : ℤ, x = n / 100 := by
  constructor
  · intro h
    obtain ⟨n, rfl⟩ := h
    exact ⟨n, by rw [paisa]; ring⟩
  · intro h
    obtain ⟨n, rfl⟩ := h
    exact ⟨n, by rw [paisa]; ring⟩

theorem quantized_some {x y : ℚ} (h : quantized x = .ok y) : quantizeHalfUp 2 x = some y := by
  unfold quantized at h
  cases hq : quantizeHalfUp 2 x with
  | none =>
    rw [hq] at h
    exact absurd h (by simp)
  | some z =>
    rw [hq] at h
    exact congrArg some (Except.ok.inj h)

theorem quantized_spec {x y : ℚ} (h : quantized x = .ok y) :
    TwoPlaces y ∧ |y - x| ≤ 1 / 200 ∧ |y| < 10 ^ 26 := by
  obtain ⟨hgrid, hnear, hlt⟩ := quantizeHalfUp_spec (quantized_some h)
  refine ⟨hgrid, ?_, ?_⟩
  · have hhalf : (10 : ℚ) ^ (-((2 : ℕ) : ℤ)) / 2 = 1 / 200 := by norm_num
    rwa [hhalf] at hnear
  · have hpow : (10 : ℚ) ^ (28 - ((2 : ℕ) : ℤ)) = 10 ^ 26 := by norm_num
    rwa [hpow] at hlt

/-- An amount in paise is not rounded. -/
theorem quantized_exact {x y : ℚ} (hx : TwoPlaces x) (h : quantized x = .ok y) : y = x := by
  obtain ⟨hy, hnear, -⟩ := quantized_spec h
  apply hy.eq_of_near hx
  rw [paisa]
  linarith

/-- An exact result in paise comes out as it is, or not at all. -/
theorem quantized_inContext {x y : ℚ} (hx : TwoPlaces x) (h : quantized (inContext x) = .ok y) :
    y = x := by
  have hlt := abs_lt_of_quantizeHalfUp (quantized_some h)
  have hsmall : |x| ≤ (10 : ℚ) ^ (-2 + 28 : ℤ) := by
    by_contra hge
    exact absurd hlt (not_lt.mpr (le_abs_inContext (not_le.mp hge).le))
  rw [inContext_exact hx hsmall] at h
  exact quantized_exact hx h

theorem money_twoPlaces {value : PyFloat} {y : ℚ} (h : money value = .ok y) : TwoPlaces y := by
  unfold money at h
  cases hv : value.toRat? with
  | none =>
    rw [hv] at h
    exact absurd h (by simp)
  | some x =>
    rw [hv] at h
    exact (quantized_spec h).1

/-- Both roundings of a result together: by half a paisa, and a tenth of that more where 28
digits do not reach a further place. -/
theorem quantized_near {x y : ℚ} (hx : |x| < 10 ^ 26) (h : quantized (inContext x) = .ok y) :
    |y - x| ≤ 11 / 2000 := by
  obtain ⟨-, hnear, -⟩ := quantized_spec h
  by_cases hlarge : (10 : ℚ) ^ (25 : ℤ) ≤ |x|
  · -- The context has rounded to paise already.
    have hgrid : TwoPlaces (inContext x) := inContext_onGrid hlarge
    rw [quantized_exact hgrid h]
    have hone := @inContext_near x 26 (by exact_mod_cast hx)
    have hhalf : (10 : ℚ) ^ (26 - 28 : ℤ) / 2 = 1 / 200 := by norm_num
    rw [hhalf] at hone
    linarith
  · have hone := inContext_near (not_le.mp hlarge)
    have hhalf : (10 : ℚ) ^ (25 - 28 : ℤ) / 2 = 1 / 2000 := by norm_num
    rw [hhalf] at hone
    have htriangle := abs_sub_le y (inContext x) x
    linarith

/-- `percentage` is near the exact percentage. -/
theorem percentage_near {value rate y : ℚ} (hvalue : |value| < 10 ^ 26) (hrate : |rate| ≤ 100)
    (h : percentage value rate = .ok y) : TwoPlaces y ∧ |y - value * rate / 100| ≤ 11 / 2000 := by
  unfold percentage at h
  rw [inContext_div_hundred] at h
  obtain ⟨hgrid, hnear, -⟩ := quantized_spec h
  refine ⟨hgrid, ?_⟩
  have hproduct : |value * rate| < (10 : ℚ) ^ (28 : ℤ) := by
    rw [abs_mul]
    calc |value| * |rate| ≤ |value| * 100 := mul_le_mul_of_nonneg_left hrate (abs_nonneg _)
      _ < 10 ^ 26 * 100 := by linarith
      _ = (10 : ℚ) ^ (28 : ℤ) := by norm_num
  have hshift : ∀ z : ℚ, |z / 100 - value * rate / 100| = |z - value * rate| / 100 := by
    intro z
    rw [← sub_div, abs_div]
    norm_num
  by_cases hlarge : (10 : ℚ) ^ (27 : ℤ) ≤ |value * rate|
  · -- The product has been rounded to whole units, a hundredth of it is in paise.
    have hunits : OnGrid 0 (inContext (value * rate)) := inContext_onGrid hlarge
    have hpaise : TwoPlaces (inContext (value * rate) / 100) := by
      obtain ⟨n, hn⟩ := hunits
      exact twoPlaces_iff.mpr ⟨n, by rw [hn]; simp⟩
    rw [quantized_exact hpaise h, hshift]
    have hone := inContext_near hproduct
    have hhalf : (10 : ℚ) ^ (28 - 28 : ℤ) / 2 = 1 / 2 := by norm_num
    rw [hhalf] at hone
    linarith
  · have hone := inContext_near (not_le.mp hlarge)
    have hhalf : (10 : ℚ) ^ (27 - 28 : ℤ) / 2 = 1 / 20 := by norm_num
    rw [hhalf] at hone
    have htriangle := abs_sub_le y (inContext (value * rate) / 100) (value * rate / 100)
    rw [hshift] at htriangle
    linarith

/-- A tax on an amount that is not astronomic is rounded once, half up. -/
theorem percentage_le_iff {value rate y : ℚ} (hv : TwoPlaces value) (hr : TwoPlaces rate)
    (hvalue : |value| ≤ 1000) (hrate : |rate| ≤ 100) (h : percentage value rate = .ok y) (m : ℕ) :
    |y| ≤ m / 100 ↔ |value * rate / 100| < (m + 1 / 2) / 100 := by
  unfold percentage at h
  rw [inContext_div_hundred] at h
  have hgrid : OnGrid (-4) (value * rate) := hv.mul hr
  have hproduct : |value * rate| ≤ (10 : ℚ) ^ (-4 + 28 : ℤ) := by
    rw [abs_mul]
    calc |value| * |rate| ≤ 1000 * 100 := mul_le_mul hvalue hrate (abs_nonneg _) (by norm_num)
      _ ≤ (10 : ℚ) ^ (-4 + 28 : ℤ) := by norm_num
  rw [inContext_exact hgrid hproduct] at h
  have hiff := quantizeHalfUp_le_iff (quantized_some h) m
  have hunit : (10 : ℚ) ^ (-((2 : ℕ) : ℤ)) = 1 / 100 := by norm_num
  rw [hunit, mul_one_div, mul_one_div] at hiff
  exact hiff

/-- `sale_taxable_value` is near the exact value before tax. -/
theorem saleTaxableValue_near {total gstRate t : ℚ} (htotal : TwoPlaces total)
    (hlarge : |total| < 10 ^ 26) (hg : TwoPlaces gstRate) (hg0 : 0 ≤ gstRate)
    (hg100 : gstRate ≤ 100) (h : saleTaxableValue total gstRate = .ok t) :
    TwoPlaces t ∧ |t| < 10 ^ 26 ∧ |t * (1 + gstRate / 100) - total| ≤ 11 / 1000 := by
  unfold saleTaxableValue at h
  split at h
  next hle =>
    obtain rfl : gstRate = 0 := le_antisymm hle hg0
    obtain ⟨hgrid, -, hlt⟩ := quantized_spec h
    rw [quantized_exact htotal h] at hgrid hlt ⊢
    refine ⟨hgrid, hlt, ?_⟩
    norm_num
  next hpos =>
    obtain ⟨hgrid, -, hlt⟩ := quantized_spec h
    refine ⟨hgrid, hlt, ?_⟩
    -- Neither the product nor the sum needs a rounding.
    have hhundred : inContext (total * 100) = total * 100 := by
      have hunit : OnGrid 0 (total * 100) := by
        obtain ⟨n, rfl⟩ := twoPlaces_iff.mp htotal
        exact ⟨n, by simp⟩
      apply inContext_exact hunit
      rw [abs_mul, abs_of_pos (by norm_num : (0 : ℚ) < 100)]
      calc |total| * 100 ≤ 10 ^ 26 * 100 := by linarith
        _ = (10 : ℚ) ^ (0 + 28 : ℤ) := by norm_num
    have hsum : inContext (100 + gstRate) = 100 + gstRate := by
      have hunit : TwoPlaces (100 + gstRate) := (twoPlaces_iff.mpr ⟨10000, by norm_num⟩).add hg
      apply inContext_exact hunit
      rw [abs_of_pos (by linarith)]
      calc 100 + gstRate ≤ 200 := by linarith
        _ ≤ (10 : ℚ) ^ (-2 + 28 : ℤ) := by norm_num
    rw [hhundred, hsum] at h
    have hfactor : 0 < 1 + gstRate / 100 := by linarith
    have hexact : total * 100 / (100 + gstRate) = total / (1 + gstRate / 100) := by
      have h₁ : 100 + gstRate ≠ 0 := by linarith
      field_simp
    rw [hexact] at h
    have hbound : |total / (1 + gstRate / 100)| < 10 ^ 26 := by
      rw [abs_div, abs_of_pos hfactor]
      apply lt_of_le_of_lt (div_le_self (abs_nonneg _) (by linarith)) hlarge
    have hnear := quantized_near hbound h
    calc |t * (1 + gstRate / 100) - total|
        = |(t - total / (1 + gstRate / 100)) * (1 + gstRate / 100)| := by
          congr 1
          field_simp
      _ = |t - total / (1 + gstRate / 100)| * (1 + gstRate / 100) := by
          rw [abs_mul, abs_of_pos hfactor]
      _ ≤ 11 / 2000 * 2 := mul_le_mul hnear (by linarith) hfactor.le (by norm_num)
      _ = 11 / 1000 := by norm_num

/-! ## Half a rate -/

/-- Half a rate, where two places do not hold it, is rounded up. -/
theorem half_rate_up {g half : ℚ} (hg : TwoPlaces g) (hg0 : 0 ≤ g) (hg100 : g ≤ 100)
    (hodd : ¬ TwoPlaces (g / 2)) (h : quantized (inContext (g / 2)) = .ok half) :
    half = (g + 1 / 100) / 2 := by
  obtain ⟨n, rfl⟩ := twoPlaces_iff.mp hg
  obtain ⟨k, hk⟩ : ∃ k : ℕ, n = 2 * k + 1 := by
    have hn0 : 0 ≤ n := by
      have : (0 : ℚ) ≤ n := by linarith
      exact_mod_cast this
    rcases Int.even_or_odd' n with ⟨m, hm | hm⟩
    · exact absurd (twoPlaces_iff.mpr ⟨m, by rw [hm]; push_cast; ring⟩) hodd
    · exact ⟨m.toNat, by omega⟩
  have hgrid : OnGrid (-3) ((n : ℚ) / 100 / 2) := ⟨5 * n, by norm_num; ring⟩
  have hsmall : |(n : ℚ) / 100 / 2| ≤ (10 : ℚ) ^ (-3 + 28 : ℤ) := by
    rw [abs_of_nonneg (by linarith)]
    calc (n : ℚ) / 100 / 2 ≤ 100 := by linarith
      _ ≤ (10 : ℚ) ^ (-3 + 28 : ℤ) := by norm_num
  rw [inContext_exact hgrid hsmall] at h
  obtain ⟨htwo, hnear, -⟩ := quantized_spec h
  obtain ⟨m, hm⟩ := twoPlaces_iff.mp htwo
  -- The half is a tie, and a tie goes up.
  have hup : ¬ |half| ≤ k * (10 : ℚ) ^ (-((2 : ℕ) : ℤ)) := by
    rw [quantizeHalfUp_le_iff (quantized_some h) k, not_lt, abs_of_nonneg (by linarith), hk]
    push_cast
    norm_num
    linarith
  have hunit : (k : ℚ) * (10 : ℚ) ^ (-((2 : ℕ) : ℤ)) = k / 100 := by norm_num; ring
  rw [hunit] at hup
  rw [hk] at hnear ⊢
  push_cast at hnear ⊢
  rw [abs_le] at hnear
  have hnonneg : 0 ≤ half := by
    have hk0 : (0 : ℚ) ≤ k := Nat.cast_nonneg k
    linarith [hnear.1]
  rw [abs_of_nonneg hnonneg, not_le, hm] at hup
  rw [hm] at hnear ⊢
  have hlow : k < m := by
    have : (k : ℚ) < m := by linarith
    exact_mod_cast this
  have hhigh : m ≤ k + 1 := by
    have : (m : ℚ) ≤ k + 1 := by linarith [hnear.2]
    exact_mod_cast this
  obtain rfl : m = k + 1 := by omega
  push_cast
  ring

/-! ## The halves of a tax -/

/-- The exact half of the tax at the rounded-up rate stays below half of the tax that the
price contains, taken down to a whole paisa, and a paisa and a half. -/
def HalvesFit (gstRate amount taxable : ℚ) : Prop :=
  |taxable| * ((gstRate + 1 / 100) / 2) / 100 < (⌊(|amount| - |taxable|) * 100 / 2⌋ + 3 / 2) / 100

/-- Two halves at the rounded-up rate, for a value that is not negative. -/
private theorem halvesFit_iff_of_nonneg {g a t c : ℚ} (ha : TwoPlaces a) (ht : TwoPlaces t)
    (hc : TwoPlaces c) (hg0 : 0 ≤ g) (ht0 : 0 ≤ t)
    (htaxable : |t * (1 + g / 100) - a| ≤ 11 / 1000)
    (hhalf : |c - t * ((g + 1 / 100) / 2) / 100| ≤ 11 / 2000)
    (hup : |t| ≤ 1000 → ∀ m : ℕ, |c| ≤ m / 100 ↔
      |t * ((g + 1 / 100) / 2) / 100| < (m + 1 / 2) / 100) :
    |t + c + c - a| ≤ 2 / 100 ↔ HalvesFit g a t := by
  obtain ⟨A, rfl⟩ := twoPlaces_iff.mp ha
  obtain ⟨T, rfl⟩ := twoPlaces_iff.mp ht
  obtain ⟨C, rfl⟩ := twoPlaces_iff.mp hc
  have hproduct : 0 ≤ (T : ℚ) / 100 * g := mul_nonneg ht0 hg0
  have hexact : (T : ℚ) / 100 * ((g + 1 / 100) / 2) / 100 = (T : ℚ) / 100 * g / 200 +
      T / 2000000 := by
    ring
  have hfactor : (T : ℚ) / 100 * (1 + g / 100) = T / 100 + (T : ℚ) / 100 * g / 100 := by ring
  have hT : 0 ≤ T := by
    have : (0 : ℚ) ≤ T := by linarith
    exact_mod_cast this
  unfold HalvesFit
  rw [abs_of_nonneg ht0] at hup ⊢
  rw [hexact] at hhalf hup ⊢
  rw [hfactor] at htaxable
  generalize (T : ℚ) / 100 * g = tax at *
  have habs : |tax / 200 + (T : ℚ) / 2000000| = tax / 200 + T / 2000000 :=
    abs_of_nonneg (by linarith)
  rw [habs] at hup
  obtain ⟨hlow, hhigh⟩ := abs_le.mp htaxable
  obtain ⟨hclow, hchigh⟩ := abs_le.mp hhalf
  -- In whole paise.
  have hC : 0 ≤ C := by
    have : (-1 : ℚ) < C := by linarith
    have : -1 < C := by exact_mod_cast this
    omega
  have hA : T - 1 ≤ A := by
    have : ((T : ℚ) - 2) < A := by linarith
    have : T - 2 < A := by exact_mod_cast this
    omega
  have hback : -2 ≤ T + 2 * C - A := by
    have : (-3 : ℚ) < T + 2 * C - A := by linarith
    have : -3 < T + 2 * C - A := by exact_mod_cast this
    omega
  have hdistance : |(T : ℚ) / 100 + C / 100 + C / 100 - A / 100| ≤ 2 / 100 ↔ T + 2 * C - A ≤ 2 := by
    have hsum : (T : ℚ) / 100 + C / 100 + C / 100 - A / 100 = ((T + 2 * C - A : ℤ) : ℚ) / 100 := by
      push_cast
      ring
    rw [hsum, abs_div, abs_of_pos (by norm_num : (0 : ℚ) < 100),
      div_le_div_iff_of_pos_right (by norm_num)]
    constructor
    · intro h
      have : T + 2 * C - A ≤ |T + 2 * C - A| := le_abs_self _
      have : |T + 2 * C - A| ≤ 2 := by exact_mod_cast h
      omega
    · intro h
      have : |T + 2 * C - A| ≤ 2 := abs_le.mpr ⟨hback, h⟩
      exact_mod_cast this
  rw [hdistance]
  by_cases hneg : A < 0
  · -- A price of one paisa below zero comes from nothing.
    obtain rfl : A = -1 := by omega
    obtain rfl : T = 0 := by omega
    have hzero : C = 0 := by
      push_cast at hlow hhigh hchigh
      have : (C : ℚ) < 1 := by linarith
      have : C < 1 := by exact_mod_cast this
      omega
    have hfloor : ⌊(|((-1 : ℤ) : ℚ) / 100| - ((0 : ℤ) : ℚ) / 100) * 100 / 2⌋ = 0 := by
      norm_num
    rw [hfloor]
    constructor
    · intro _
      push_cast at hhigh hlow ⊢
      linarith
    · intro _
      omega
  · have hfloor : ⌊(|(A : ℚ) / 100| - (T : ℚ) / 100) * 100 / 2⌋ = (A - T) / 2 := by
      have hA0 : (0 : ℚ) ≤ A := by exact_mod_cast not_lt.mp hneg
      rw [abs_of_nonneg (by linarith)]
      have hquotient : ((A : ℚ) / 100 - T / 100) * 100 / 2 = ((A - T : ℤ) : ℚ) / (2 : ℕ) := by
        push_cast
        ring
      rw [hquotient, Int.floor_div_natCast, Int.floor_intCast]
      rfl
    rw [hfloor]
    have hsplit : T + 2 * C - A ≤ 2 ↔ C ≤ (A - T) / 2 + 1 := by omega
    rw [hsplit]
    obtain ⟨m, hm⟩ : ∃ m : ℕ, (m : ℤ) = (A - T) / 2 + 1 := ⟨((A - T) / 2 + 1).toNat, by omega⟩
    have hbound : (((A - T) / 2 : ℤ) : ℚ) + 3 / 2 = m + 1 / 2 := by
      have : (((A - T) / 2 : ℤ) : ℚ) + 1 = m := by exact_mod_cast hm.symm
      linarith
    rw [hbound, ← hm]
    by_cases hsmall : (T : ℚ) / 100 ≤ 1000
    · have hC0 : (0 : ℚ) ≤ C := by exact_mod_cast hC
      rw [← hup hsmall m, abs_of_nonneg (by linarith), div_le_div_iff_of_pos_right (by norm_num)]
      exact_mod_cast Iff.rfl
    · -- A hundredth of a percent of so much is more than all roundings together.
      have hmle : (m : ℚ) ≤ (A - T) / 2 + 1 := by
        have : 2 * (m : ℤ) ≤ A - T + 2 := by omega
        have : 2 * (m : ℚ) ≤ A - T + 2 := by exact_mod_cast this
        linarith
      constructor
      · intro h
        have : (C : ℚ) ≤ m := by exact_mod_cast h
        linarith
      · intro h
        linarith

/-- The sign of a value is the sign of the price and of both halves. -/
private theorem halvesFit_iff {g a t c : ℚ} (ha : TwoPlaces a) (ht : TwoPlaces t)
    (hc : TwoPlaces c) (hg0 : 0 ≤ g)
    (htaxable : |t * (1 + g / 100) - a| ≤ 11 / 1000)
    (hhalf : |c - t * ((g + 1 / 100) / 2) / 100| ≤ 11 / 2000)
    (hup : |t| ≤ 1000 → ∀ m : ℕ, |c| ≤ m / 100 ↔
      |t * ((g + 1 / 100) / 2) / 100| < (m + 1 / 2) / 100) :
    |t + c + c - a| ≤ 2 / 100 ↔ HalvesFit g a t := by
  rcases le_total 0 t with hpos | hneg
  · exact halvesFit_iff_of_nonneg ha ht hc hg0 hpos htaxable hhalf hup
  · have hmirror := halvesFit_iff_of_nonneg (g := g) ha.neg ht.neg hc.neg hg0 (by linarith)
      (by rw [← abs_neg]; convert htaxable using 2; ring)
      (by rw [← abs_neg]; convert hhalf using 2; ring)
      (by
        intro hsmall m
        rw [abs_neg] at hsmall ⊢
        rw [hup hsmall m, neg_mul, neg_div, abs_neg])
    unfold HalvesFit at hmirror ⊢
    rw [abs_neg, abs_neg] at hmirror
    rw [← hmirror, ← abs_neg]
    ring_nf

/-! ## A line -/

/-- A percentage has the sign of its value. -/
private theorem percentage_sign {value rate y : ℚ} (hrate0 : 0 ≤ rate) (hgrid : TwoPlaces y)
    (hnear : |y - value * rate / 100| ≤ 11 / 2000) : (0 ≤ value → 0 ≤ y) ∧ (value ≤ 0 → y ≤ 0) := by
  obtain ⟨n, rfl⟩ := twoPlaces_iff.mp hgrid
  obtain ⟨hlow, hhigh⟩ := abs_le.mp hnear
  constructor
  · intro hpos
    have hexact : 0 ≤ value * rate := mul_nonneg hpos hrate0
    have : (-1 : ℚ) < n := by linarith
    have : -1 < n := by exact_mod_cast this
    have : (0 : ℚ) ≤ n := by exact_mod_cast (by omega : 0 ≤ n)
    linarith
  · intro hneg
    have hexact : value * rate ≤ 0 := mul_nonpos_of_nonpos_of_nonneg hneg hrate0
    have : (n : ℚ) < 1 := by linarith
    have : n < 1 := by exact_mod_cast this
    have : (n : ℚ) ≤ 0 := by exact_mod_cast (by omega : n ≤ 0)
    linarith

/-- A sum of two amounts of one sign, with one of them rounded by the context before, is exact
or too large. -/
private theorem quantized_of_parts {x c y : ℚ} (hx : TwoPlaces x) (hc : TwoPlaces c)
    (hpos : 0 ≤ x → 0 ≤ c) (hneg : x ≤ 0 → c ≤ 0)
    (h : quantized (inContext (inContext x + c)) = .ok y) : y = x + c := by
  by_cases hsmall : |x| ≤ (10 : ℚ) ^ (-2 + 28 : ℤ)
  · rw [inContext_exact hx hsmall] at h
    exact quantized_inContext (hx.add hc) h
  · -- What is too large stays so.
    exfalso
    have hlarge := le_abs_inContext (not_le.mp hsmall).le
    have hsum : (10 : ℚ) ^ (-2 + 28 : ℤ) ≤ |inContext x + c| := by
      rcases le_total 0 x with h0 | h0
      · have hx0 := inContext_nonneg h0
        rw [abs_of_nonneg hx0] at hlarge
        rw [abs_of_nonneg (add_nonneg hx0 (hpos h0))]
        linarith [hpos h0]
      · have hx0 := inContext_nonpos h0
        rw [abs_of_nonpos hx0] at hlarge
        rw [abs_of_nonpos (add_nonpos hx0 (hneg h0))]
        linarith [hneg h0]
    exact absurd (abs_lt_of_quantizeHalfUp (quantized_some h)) (not_lt.mpr (le_abs_inContext hsum))

private theorem half_bounds {g half : ℚ} (hg : TwoPlaces g) (hg0 : 0 ≤ g) (hg100 : g ≤ 100)
    (h : quantized (inContext (g / 2)) = .ok half) : TwoPlaces half ∧ 0 ≤ half ∧ half ≤ 100 := by
  refine ⟨(quantized_spec h).1, ?_⟩
  by_cases heven : TwoPlaces (g / 2)
  · rw [quantized_inContext heven h]
    constructor <;> linarith
  · rw [half_rate_up hg hg0 hg100 heven h]
    constructor <;> linarith

/-- The total of a taxable value and one tax. -/
private theorem total_of_igst {taxable rate igst total : ℚ} (ht : TwoPlaces taxable)
    (hlarge : |taxable| < 10 ^ 26) (higst : percentage taxable rate = .ok igst)
    (h : quantized (inContext (inContext (inContext (taxable + 0) + 0) + igst)) = .ok total) :
    total = taxable + igst := by
  have hgrid : TwoPlaces igst := (quantized_spec higst).1
  have hself : inContext taxable = taxable := by
    apply inContext_exact ht
    have hpow : (10 : ℚ) ^ (-2 + 28 : ℤ) = 10 ^ 26 := by norm_num
    rw [hpow]
    exact hlarge.le
  rw [add_zero, add_zero, hself, hself] at h
  exact quantized_inContext (ht.add hgrid) h

/-- The total of a taxable value and the two halves of a tax. -/
private theorem total_of_halves {taxable half tax total : ℚ} (ht : TwoPlaces taxable)
    (hlarge : |taxable| < 10 ^ 26) (hhalf0 : 0 ≤ half) (hhalf : half ≤ 100)
    (htax : percentage taxable half = .ok tax)
    (h : quantized (inContext (inContext (inContext (taxable + tax) + tax) + 0)) = .ok total) :
    total = taxable + tax + tax := by
  obtain ⟨hgrid, hnear⟩ := percentage_near hlarge (by rwa [abs_of_nonneg hhalf0]) htax
  obtain ⟨hpos, hneg⟩ := percentage_sign hhalf0 hgrid hnear
  rw [add_zero, inContext_idem] at h
  apply quantized_of_parts (ht.add hgrid) hgrid _ _ h
  · intro hsum
    by_contra hlt
    have := hneg (by
      by_contra ht0
      exact hlt (hpos (not_le.mp ht0).le))
    rcases le_total 0 taxable with h0 | h0
    · exact hlt (hpos h0)
    · linarith
  · intro hsum
    by_contra hgt
    rcases le_total 0 taxable with h0 | h0
    · linarith [hpos h0]
    · exact hgt (hneg h0)

/-- When a line of the sales side comes back to its price. -/
def Reconstructed (batch : Batch) (gstRate amount : ℚ) : Prop :=
  isInterstateSale batch = true ∨ TwoPlaces (gstRate / 2) ∨
    ∃ taxable, saleTaxableValue amount gstRate = .ok taxable ∧ HalvesFit gstRate amount taxable

private theorem within_two_paise {x : ℚ} (hx : TwoPlaces x) (h : |x| < 3 / 100) :
    |x| ≤ 2 / 100 := by
  obtain ⟨n, hn⟩ := twoPlaces_iff.mp hx.abs
  rw [hn] at h ⊢
  have : (n : ℚ) < 3 := by linarith
  have : n < 3 := by exact_mod_cast this
  have : (n : ℚ) ≤ 2 := by exact_mod_cast (by omega : n ≤ 2)
  linarith

/-- One tax at the whole rate gives the price back. -/
private theorem igst_within {g amount taxable igst : ℚ} (hamount : TwoPlaces amount)
    (hlarge : |amount| < 10 ^ 26) (hg : TwoPlaces g) (hg0 : 0 ≤ g) (hg100 : g ≤ 100)
    (htaxable : saleTaxableValue amount g = .ok taxable) (higst : percentage taxable g = .ok igst) :
    |taxable + igst - amount| ≤ 2 / 100 := by
  obtain ⟨ht, htlarge, htnear⟩ := saleTaxableValue_near hamount hlarge hg hg0 hg100 htaxable
  obtain ⟨hi, hinear⟩ := percentage_near htlarge (by rwa [abs_of_nonneg hg0]) higst
  apply within_two_paise ((ht.add hi).sub hamount)
  obtain ⟨h₁, h₂⟩ := abs_le.mp htnear
  obtain ⟨h₃, h₄⟩ := abs_le.mp hinear
  rw [abs_lt]
  constructor <;> linarith

/-- Two taxes at an exact half give the price back, two at a half rounded up where they fit. -/
private theorem halves_within_iff {g amount taxable half tax : ℚ} (hamount : TwoPlaces amount)
    (hlarge : |amount| < 10 ^ 26) (hg : TwoPlaces g) (hg0 : 0 ≤ g) (hg100 : g ≤ 100)
    (htaxable : saleTaxableValue amount g = .ok taxable)
    (hhalf : quantized (inContext (g / 2)) = .ok half) (htax : percentage taxable half = .ok tax) :
    |taxable + tax + tax - amount| ≤ 2 / 100 ↔ TwoPlaces (g / 2) ∨ HalvesFit g amount taxable := by
  obtain ⟨ht, htlarge, htnear⟩ := saleTaxableValue_near hamount hlarge hg hg0 hg100 htaxable
  obtain ⟨hgrid, hhalf0, hhalf100⟩ := half_bounds hg hg0 hg100 hhalf
  have habs : |half| ≤ 100 := by rwa [abs_of_nonneg hhalf0]
  obtain ⟨hc, hcnear⟩ := percentage_near htlarge habs htax
  by_cases heven : TwoPlaces (g / 2)
  · rw [quantized_inContext heven hhalf] at hcnear
    refine ⟨fun _ => Or.inl heven, fun _ => ?_⟩
    apply within_two_paise (((ht.add hc).add hc).sub hamount)
    obtain ⟨h₁, h₂⟩ := abs_le.mp htnear
    obtain ⟨h₃, h₄⟩ := abs_le.mp hcnear
    rw [abs_lt]
    constructor <;> linarith
  · rw [or_iff_right heven]
    have hup := half_rate_up hg hg0 hg100 heven hhalf
    rw [hup] at hcnear
    apply halvesFit_iff hamount ht hc hg0 htnear hcnear
    intro hsmall m
    rw [← hup]
    exact percentage_le_iff ht hgrid hsmall habs htax m

/-- The total of a line of the sales side, whichever rate its tax comes from. -/
theorem lineTax_near_iff {rt : Runtime} {batch : Batch} {productGstRate amount total : ℚ}
    {tax : LineTax} (hsale : isSalesSide batch = true) (hrate : TwoPlaces productGstRate)
    (hamount : TwoPlaces amount) (hlarge : |amount| < 10 ^ 26)
    (h : lineTax rt batch productGstRate amount = .ok tax)
    (hg0 : 0 ≤ tax.gstRate) (hg100 : tax.gstRate ≤ 100)
    (htotal : quantized (inContext (inContext (inContext (tax.taxableValue + tax.cgstAmount) +
      tax.sgstAmount) + tax.igstAmount)) = .ok total) :
    |total - amount| ≤ 2 / 100 ↔ Reconstructed batch tax.gstRate amount := by
  -- Two halves at one rate, from the batch or from the product.
  have hsplit : ∀ gstRate taxable, isInterstateSale batch = false → TwoPlaces gstRate →
      saleTaxableValue amount gstRate = .ok taxable → splitTax gstRate taxable = .ok tax →
      (|total - amount| ≤ 2 / 100 ↔ Reconstructed batch tax.gstRate amount) := by
    intro gstRate taxable hinter hg htaxable hsplit
    unfold splitTax at hsplit
    obtain ⟨half, hhalf, hsplit⟩ := except_bind_ok.mp hsplit
    obtain ⟨halfTax, hhalfTax, hsplit⟩ := except_bind_ok.mp hsplit
    obtain rfl := Except.ok.inj hsplit
    dsimp only at hg0 hg100 htotal ⊢
    obtain ⟨ht, htlarge, -⟩ := saleTaxableValue_near hamount hlarge hg hg0 hg100 htaxable
    obtain ⟨-, hhalf0, hhalf100⟩ := half_bounds hg hg0 hg100 hhalf
    rw [total_of_halves ht htlarge hhalf0 hhalf100 hhalfTax htotal,
      halves_within_iff hamount hlarge hg hg0 hg100 htaxable hhalf hhalfTax]
    unfold Reconstructed
    rw [hinter, htaxable]
    simp
  unfold lineTax at h
  by_cases hinter : isInterstateSale batch = true
  · rw [if_pos hinter] at h
    obtain ⟨igstRate, higstRate, h⟩ := except_bind_ok.mp h
    obtain ⟨taxable, htaxable, h⟩ := except_bind_ok.mp h
    obtain ⟨igst, higst, h⟩ := except_bind_ok.mp h
    obtain rfl := Except.ok.inj h
    dsimp only at hg0 hg100 htotal ⊢
    have hg : TwoPlaces igstRate := by
      cases hentered : batch.gstIgstRate with
      | none =>
        rw [hentered] at higstRate
        obtain rfl := Except.ok.inj higstRate
        exact hrate
      | some rate =>
        rw [hentered] at higstRate
        exact money_twoPlaces higstRate
    obtain ⟨ht, htlarge, -⟩ := saleTaxableValue_near hamount hlarge hg hg0 hg100 htaxable
    rw [total_of_igst ht htlarge higst htotal]
    exact ⟨fun _ => Or.inl hinter, fun _ => igst_within hamount hlarge hg hg0 hg100 htaxable higst⟩
  · rw [if_neg hinter] at h
    have hnot : isInterstateSale batch = false := by simpa using hinter
    split at h
    · obtain ⟨gstRate, hgstRate, h⟩ := except_bind_ok.mp h
      obtain ⟨taxable, htaxable, h⟩ := except_bind_ok.mp h
      exact hsplit gstRate taxable hnot (money_twoPlaces hgstRate) htaxable h
    · obtain ⟨taxable, htaxable, h⟩ := except_bind_ok.mp h
      unfold taxableOf at htaxable
      rw [if_pos hsale] at htaxable
      exact hsplit productGstRate taxable hnot hrate htaxable h

/-- How a line comes about. -/
theorem voucherLine_ok {rt : Runtime} {batch : Batch} {g : ItemGroup} {line : VoucherLine}
    (h : voucherLine rt batch g = .ok line) :
    ∃ productGstRate lineAmount tax, money g.product.gstRate = .ok productGstRate ∧
      TwoPlaces line.grossValue ∧ TwoPlaces line.discountAmount ∧
      quantized (inContext (line.grossValue - line.discountAmount)) = .ok lineAmount ∧
      lineTax rt batch productGstRate lineAmount = .ok tax ∧
      quantized (inContext (inContext (inContext (tax.taxableValue + tax.cgstAmount) +
        tax.sgstAmount) + tax.igstAmount)) = .ok line.lineTotal ∧
      line.gstRate = tax.gstRate ∧ line.taxableValue = tax.taxableValue ∧
      line.cgstAmount = tax.cgstAmount ∧ line.sgstAmount = tax.sgstAmount ∧
      line.igstAmount = tax.igstAmount := by
  unfold voucherLine at h
  obtain ⟨rate, -, h⟩ := except_bind_ok.mp h
  obtain ⟨grossValue, hgross, h⟩ := except_bind_ok.mp h
  obtain ⟨discountRate, -, h⟩ := except_bind_ok.mp h
  obtain ⟨discountAmount, hdiscount, h⟩ := except_bind_ok.mp h
  obtain ⟨lineAmount, hamount, h⟩ := except_bind_ok.mp h
  obtain ⟨productGstRate, hproduct, h⟩ := except_bind_ok.mp h
  obtain ⟨tax, htax, h⟩ := except_bind_ok.mp h
  obtain ⟨lineTotal, htotal, h⟩ := except_bind_ok.mp h
  obtain rfl := Except.ok.inj h
  exact ⟨productGstRate, lineAmount, tax, hproduct, (quantized_spec hgross).1,
    (quantized_spec hdiscount).1, hamount, htax, htotal, rfl, rfl, rfl, rfl, rfl⟩

/-- Every line of a summary is the line of a group. -/
theorem summary_lines {rt : Runtime} {loaded : LoadedBatch} {summary : VoucherSummary}
    (h : calculateVoucherSummary rt loaded = .ok summary) :
    (groupBatchItems loaded.items).mapM (voucherLine rt loaded.batch) = .ok summary.lines := by
  unfold calculateVoucherSummary at h
  obtain ⟨lines, hlines, h⟩ := except_bind_ok.mp h
  dsimp only at h
  obtain ⟨gstTotal, -, h⟩ := except_bind_ok.mp h
  obtain ⟨beforeRoundOff, -, h⟩ := except_bind_ok.mp h
  obtain ⟨finalValue, -, h⟩ := except_bind_ok.mp h
  obtain ⟨roundOff, -, h⟩ := except_bind_ok.mp h
  obtain ⟨taxableValue, -, h⟩ := except_bind_ok.mp h
  obtain ⟨cgstAmount, -, h⟩ := except_bind_ok.mp h
  obtain ⟨sgstAmount, -, h⟩ := except_bind_ok.mp h
  obtain ⟨igstAmount, -, h⟩ := except_bind_ok.mp h
  obtain ⟨finalMoney, -, h⟩ := except_bind_ok.mp h
  obtain rfl := Except.ok.inj h
  exact hlines

/-- The total of a line on the sales side is within two paise of its discounted price exactly
when the line's tax is one tax, or two at an exact half of the rate, or two that fit. -/
theorem line_total_near_iff (rt : Runtime) (loaded : LoadedBatch) (summary : VoucherSummary)
    (hsale : isSalesSide loaded.batch = true)
    (h : calculateVoucherSummary rt loaded = .ok summary) (line : VoucherLine)
    (hline : line ∈ summary.lines) (hg0 : 0 ≤ line.gstRate) (hg100 : line.gstRate ≤ 100) :
    |line.lineTotal - (line.grossValue - line.discountAmount)| ≤ 2 / 100 ↔
      Reconstructed loaded.batch line.gstRate (line.grossValue - line.discountAmount) := by
  obtain ⟨g, -, hg⟩ := (except_mapM_mem (summary_lines h)).1 line hline
  obtain ⟨productGstRate, lineAmount, tax, hproduct, hgross, hdiscount, hamount, htax, htotal,
    hrate, -⟩ := voucherLine_ok hg
  have hexact := quantized_inContext (hgross.sub hdiscount) hamount
  obtain ⟨hgrid, -, hlarge⟩ := quantized_spec hamount
  rw [hrate] at hg0 hg100 ⊢
  rw [← hexact]
  exact lineTax_near_iff hsale (money_twoPlaces hproduct) hgrid hlarge htax hg0 hg100 htotal

/-- The sale of one stone at 1000 rupees, taxed at the product's rate. -/
def gemSale (gstRate : PyFloat) : LoadedBatch where
  batch :=
    { id := 1, batchNumber := py "SAL-1", batchType := .sale, partyName := none, partyState := none,
      partyGstRegistrationType := none, partyGstName := none, partyGstin := none,
      gstTreatment := some (py "INTRA_STATE"), gstCgstRate := none, gstSgstRate := none,
      gstIgstRate := none, reasonCode := none, userId := 1, auditAssignmentId := none,
      status := .draft, tallyReference := none, notes := none, lastError := none,
      submittedAt := none, syncedAt := none }
  items :=
    [{ item := { id := 1, batchId := 1, serialId := 1,
                 rate := some (.finite false (Dec.ofDigits 1000 0)), salesDiscountRate := none,
                 fefoPicked := false, shelfLocationId := none, shelfVerifiedById := none,
                 shelfVerifiedAt := none }
       serial := { id := 1, serialNumber := py "GEM-1", productId := 1, status := .inStock,
                   active := true, createdAt := 0, replacedById := none, productBatchNumber := none,
                   mfgDate := none, expiryDate := none, warehouse := none,
                   warehouseLevel := .companyWarehouse, locationId := none }
       product := { id := 1, productCode := py "GEM", productName := py "Stone", nickname := none,
                    category := none, brand := none, hsn := py "7103", gstRate := gstRate,
                    unit := py "Pcs", defaultRate := .zero, salesDiscountRate := .zero,
                    shelfVerificationInterval := 1, tallyStockItemName := py "Stone",
                    alternateTallyStockItemName := none, active := true } }]

/-- The lines of the sale, as far as they are of interest here. -/
private theorem gemSale_line {gstRate : PyFloat} {g total amount : ℚ}
    (h : (calculateVoucherSummary .plain (gemSale gstRate)).toOption.map (fun s =>
      s.lines.map fun l => (l.gstRate, l.lineTotal, l.grossValue - l.discountAmount))
        = some [(g, total, amount)]) :
    ∃ summary line, calculateVoucherSummary .plain (gemSale gstRate) = .ok summary ∧
      line ∈ summary.lines ∧ line.gstRate = g ∧ line.lineTotal = total ∧
      line.grossValue - line.discountAmount = amount := by
  cases hrun : calculateVoucherSummary .plain (gemSale gstRate) with
  | error e =>
    rw [hrun] at h
    exact absurd h (by simp [Except.toOption])
  | ok summary =>
    rw [hrun] at h
    have hlines : summary.lines.map (fun l =>
        (l.gstRate, l.lineTotal, l.grossValue - l.discountAmount)) = [(g, total, amount)] :=
      Option.some.inj h
    obtain ⟨line, rest, hline⟩ : ∃ line rest, summary.lines = line :: rest := by
      cases hl : summary.lines with
      | nil =>
        rw [hl] at hlines
        exact absurd hlines (by simp)
      | cons line rest => exact ⟨line, rest, rfl⟩
    rw [hline, List.map_cons] at hlines
    have hfields := (List.cons.inj hlines).1
    refine ⟨summary, line, rfl, by rw [hline]; exact List.mem_cons_self, ?_, ?_, ?_⟩
    · exact congrArg (·.1) hfields
    · exact congrArg (·.2.1) hfields
    · exact congrArg (·.2.2) hfields

/-- At 18 per cent the stone costs its price. -/
theorem line_total_near_iff_gem :
    ∃ summary line, calculateVoucherSummary .plain (gemSale (.finite false (Dec.ofDigits 18 0)))
        = .ok summary ∧ line ∈ summary.lines ∧
      (|line.lineTotal - (line.grossValue - line.discountAmount)| ≤ 2 / 100 ↔
        Reconstructed (gemSale (.finite false (Dec.ofDigits 18 0))).batch line.gstRate
          (line.grossValue - line.discountAmount)) := by
  have hlines : (calculateVoucherSummary .plain
      (gemSale (.finite false (Dec.ofDigits 18 0)))).toOption.map (fun s =>
        s.lines.map fun l => (l.gstRate, l.lineTotal, l.grossValue - l.discountAmount))
      = some [(18, 1000, 1000)] := by
    decide +kernel
  obtain ⟨summary, line, hrun, hline, hrate, -, -⟩ := gemSale_line hlines
  refine ⟨summary, line, hrun, hline, ?_⟩
  exact line_total_near_iff .plain _ summary (by decide) hrun line hline
    (by rw [hrate]; norm_num) (by rw [hrate]; norm_num)

/-- At a quarter of a per cent each half is taken at 0.13, and the stone costs eleven paise
more than its price. -/
theorem quarter_per_cent_overcharged :
    ∃ summary line, calculateVoucherSummary .plain (gemSale (.finite false (Dec.ofDigits 25 (-2))))
        = .ok summary ∧ line ∈ summary.lines ∧ line.gstRate = 1 / 4 ∧
      line.grossValue - line.discountAmount = 1000 ∧ line.lineTotal = 1000 + 11 / 100 ∧
      ¬ |line.lineTotal - (line.grossValue - line.discountAmount)| ≤ 2 / 100 := by
  have hlines : (calculateVoucherSummary .plain
      (gemSale (.finite false (Dec.ofDigits 25 (-2))))).toOption.map (fun s =>
        s.lines.map fun l => (l.gstRate, l.lineTotal, l.grossValue - l.discountAmount))
      = some [(1 / 4, 1000 + 11 / 100, 1000)] := by
    decide +kernel
  obtain ⟨summary, line, hrun, hline, hrate, htotal, hamount⟩ := gemSale_line hlines
  refine ⟨summary, line, hrun, hline, hrate, hamount, htotal, ?_⟩
  rw [htotal, hamount]
  norm_num

end SetuoraLite
