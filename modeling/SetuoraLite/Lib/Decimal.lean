import SetuoraLite.Lib.Text
import Mathlib.Tactic.Ring

/-!
# Decimal digits and the text of numbers

The digits of a natural number, most significant first, and their value; and a
model of Python's `float` that follows its text. A finite float is kept as the
decimal that its `repr` denotes: an integer without trailing zeros and a power of
ten (`Dec`), so two floats are equal exactly when they print the same text. The
rounding of a literal of more than seventeen digits to 53 bits is not part of the
model; `nan` and the infinities are.

`floatRepr` is `float.__repr__`: positional between `1e-4` and `1e16`, scientific
outside. `Dec.ofDigits` reads digits and an exponent back.
-/

namespace Lib

/-! ## Digits -/

/-- The digit `d`, for `d < 10`. -/
def digitChar (d : Nat) : CodePoint := Fin.ofNat 0x110000 (48 + d)

/-- An ASCII digit. -/
def isDigit (c : CodePoint) : Bool := 48 ≤ c.val && c.val ≤ 57

/-- The value of a digit string. -/
def digitsVal (s : PyStr) : Nat := s.foldl (fun a c => 10 * a + (c.val - 48)) 0

/-- Put the digits of `n` in front of `acc`, with fuel. -/
def digitsFrom : Nat → Nat → PyStr → PyStr
  | 0, _, acc => acc
  | fuel + 1, n, acc =>
    if n / 10 = 0 then digitChar (n % 10) :: acc
    else digitsFrom fuel (n / 10) (digitChar (n % 10) :: acc)

/-- The decimal digits of `n`, most significant first. -/
def decDigits (n : Nat) : PyStr := digitsFrom (n + 1) n []

/-- A hexadecimal digit. -/
def hexDigit (d : Nat) : CodePoint := Fin.ofNat 0x110000 (if d < 10 then 48 + d else 87 + d)

/-- The digits stand in a row from `0`. -/
theorem digitChar_val {d : Nat} (h : d < 10) : (digitChar d).val = 48 + d := by
  show (48 + d) % 0x110000 = 48 + d
  omega

theorem digitChar_isDigit {d : Nat} (h : d < 10) : isDigit (digitChar d) = true := by
  unfold isDigit
  rw [digitChar_val h]
  simp only [Bool.and_eq_true, decide_eq_true_eq]
  omega

/-- The accumulator of `digitsFrom` is a suffix that it never looks at. -/
private theorem digitsFrom_append :
    ∀ (fuel n : Nat) (acc : PyStr), digitsFrom fuel n acc = digitsFrom fuel n [] ++ acc := by
  intro fuel
  induction fuel with
  | zero => intro n acc; rfl
  | succ fuel ih =>
    intro n acc
    simp only [digitsFrom]
    split
    · rfl
    · rw [ih (n / 10) (digitChar (n % 10) :: acc), ih (n / 10) [digitChar (n % 10)]]
      simp

/-- One digit is split off the end. -/
private theorem digitsFrom_spec :
    ∀ (fuel n : Nat), n < fuel →
      (∀ c ∈ digitsFrom fuel n [], isDigit c = true) ∧
      digitsVal (digitsFrom fuel n []) = n ∧
      ∃ c cs, digitsFrom fuel n [] = c :: cs ∧ (n ≠ 0 → c ≠ digitChar 0) ∧ (n = 0 → cs = []) := by
  intro fuel
  induction fuel with
  | zero => intro n h; omega
  | succ fuel ih =>
    intro n h
    have hd : n % 10 < 10 := Nat.mod_lt _ (by omega)
    simp only [digitsFrom]
    split
    -- The last digit.
    next h0 =>
      refine ⟨?_, ?_, digitChar (n % 10), [], rfl, ?_, fun _ => rfl⟩
      · intro c hc
        obtain rfl : c = digitChar (n % 10) := by simpa using hc
        exact digitChar_isDigit hd
      · show 10 * 0 + ((digitChar (n % 10)).val - 48) = n
        rw [digitChar_val hd]
        omega
      · intro hn he
        have hv := congrArg Fin.val he
        rw [digitChar_val hd, digitChar_val (by omega)] at hv
        omega
    -- The digits of the quotient, then one more.
    next h0 =>
      obtain ⟨hall, hval, c, cs, heq, hne, _⟩ := ih (n / 10) (by omega)
      rw [digitsFrom_append]
      refine ⟨?_, ?_, c, cs ++ [digitChar (n % 10)], by rw [heq]; rfl, fun _ => hne h0, ?_⟩
      · intro x hx
        rcases List.mem_append.mp hx with hx | hx
        · exact hall x hx
        · obtain rfl : x = digitChar (n % 10) := by simpa using hx
          exact digitChar_isDigit hd
      · unfold digitsVal at hval ⊢
        rw [List.foldl_append, hval]
        show 10 * (n / 10) + ((digitChar (n % 10)).val - 48) = n
        rw [digitChar_val hd]
        omega
      · intro hn
        omega

theorem decDigits_isDigit (n : Nat) : ∀ c ∈ decDigits n, isDigit c = true :=
  (digitsFrom_spec (n + 1) n (by omega)).1

theorem digitsVal_decDigits (n : Nat) : digitsVal (decDigits n) = n :=
  (digitsFrom_spec (n + 1) n (by omega)).2.1

/-- There is a first digit; it is zero only for zero itself. -/
theorem decDigits_eq_cons (n : Nat) :
    ∃ c cs, decDigits n = c :: cs ∧ (n ≠ 0 → c ≠ digitChar 0) ∧ (n = 0 → cs = []) :=
  (digitsFrom_spec (n + 1) n (by omega)).2.2

theorem digitsVal_append (s t : PyStr) :
    digitsVal (s ++ t) = digitsVal s * 10 ^ t.length + digitsVal t := by
  have key : ∀ (t : PyStr) (a : Nat),
      t.foldl (fun a c => 10 * a + (c.val - 48)) a = a * 10 ^ t.length + digitsVal t := by
    intro t
    induction t with
    | nil => intro a; simp [digitsVal]
    | cons c t ih =>
      intro a
      have h0 : digitsVal (c :: t) = (c.val - 48) * 10 ^ t.length + digitsVal t := by
        show t.foldl _ (10 * 0 + (c.val - 48)) = _
        rw [ih]
        simp
      rw [List.foldl_cons, ih, h0, List.length_cons]
      ring
  unfold digitsVal
  rw [List.foldl_append, key t]
  rfl

theorem digitsVal_zeros (k : Nat) : digitsVal (List.replicate k (digitChar 0)) = 0 := by
  induction k with
  | zero => rfl
  | succ k ih =>
    rw [List.replicate_succ, show digitChar 0 :: List.replicate k (digitChar 0)
      = [digitChar 0] ++ List.replicate k (digitChar 0) from rfl, digitsVal_append, ih]
    show digitsVal [digitChar 0] * _ + 0 = 0
    have : digitsVal [digitChar 0] = 0 := by decide
    simp [this]

theorem digitsVal_lt {s : PyStr} (h : ∀ c ∈ s, isDigit c = true) : digitsVal s < 10 ^ s.length := by
  induction s using List.reverseRecOn with
  | nil => decide
  | append_singleton s c ih =>
    have hs := ih fun d hd => h d (List.mem_append_left _ hd)
    have hc := h c (by simp)
    have hlast : digitsVal [c] ≤ 9 := by
      unfold isDigit at hc
      simp only [Bool.and_eq_true, decide_eq_true_eq] at hc
      show 10 * 0 + (c.val - 48) ≤ 9
      omega
    rw [digitsVal_append, List.length_append, List.length_singleton, pow_succ]
    omega

theorem lt_pow_decDigits (n : Nat) : n < 10 ^ (decDigits n).length := by
  have h := digitsVal_lt (decDigits_isDigit n)
  rwa [digitsVal_decDigits] at h

/-- The first digit of a number other than zero counts at least once. -/
theorem pow_decDigits_le {n : Nat} (hn : n ≠ 0) : 10 ^ ((decDigits n).length - 1) ≤ n := by
  obtain ⟨c, cs, heq, hfirst, -⟩ := decDigits_eq_cons n
  have hdigit := decDigits_isDigit n c (heq ▸ List.mem_cons_self)
  have hval := digitsVal_decDigits n
  rw [heq, ← List.singleton_append, digitsVal_append] at hval
  have hlead : 1 ≤ digitsVal [c] := by
    have hc : c.val ≠ 48 := fun he => hfirst hn (Fin.ext he)
    unfold isDigit at hdigit
    simp only [Bool.and_eq_true, decide_eq_true_eq] at hdigit
    show 1 ≤ 10 * 0 + (c.val - 48)
    omega
  rw [heq, List.length_cons, Nat.add_sub_cancel]
  calc 10 ^ cs.length ≤ digitsVal [c] * 10 ^ cs.length := Nat.le_mul_of_pos_left _ hlead
    _ ≤ n := by omega

/-! ## Decimals -/

/-- `digits · 10 ^ exp` with no trailing zero in `digits`; zero is `0 · 10 ^ 0`. -/
structure Dec where
  digits : Nat
  exp : Int
  normal : digits % 10 ≠ 0 ∨ (digits = 0 ∧ exp = 0)
deriving DecidableEq

/-- Zero. -/
def Dec.zero : Dec := ⟨0, 0, Or.inr ⟨rfl, rfl⟩⟩

/-- Move trailing zeros of the digits into the exponent, with fuel. -/
def trimZeros : Nat → Nat → Int → Nat × Int
  | 0, n, e => (n, e)
  | fuel + 1, n, e => if n % 10 = 0 then trimZeros fuel (n / 10) (e + 1) else (n, e)

/-- The decimal `n · 10 ^ e`. -/
def Dec.ofDigits (n : Nat) (e : Int) : Dec :=
  let p := trimZeros n n e
  if h : p.1 % 10 ≠ 0 then ⟨p.1, p.2, Or.inl h⟩ else Dec.zero

/-- Trailing zeros are trimmed, whatever fuel is left over. -/
private theorem trimZeros_pow {n : Nat} (hn : n % 10 ≠ 0) :
    ∀ (k fuel : Nat) (e : Int), k ≤ fuel →
      trimZeros fuel (n * 10 ^ k) e = (n, e + k) := by
  intro k
  induction k with
  | zero =>
    intro fuel e _
    cases fuel with
    | zero => simp [trimZeros]
    | succ fuel => simp [trimZeros, hn]
  | succ k ih =>
    intro fuel e hk
    cases fuel with
    | zero => omega
    | succ fuel =>
      have h10 : n * 10 ^ (k + 1) = 10 * (n * 10 ^ k) := by ring
      simp only [trimZeros, h10, Nat.mul_mod_right, if_true,
        Nat.mul_div_cancel_left _ (by omega : 0 < 10)]
      rw [ih fuel (e + 1) (by omega)]
      simp only [Prod.mk.injEq, true_and]
      push_cast
      ring

/-- Reading digits followed by zeros gives back the decimal. -/
theorem Dec.ofDigits_pow (d : Dec) (k : Nat) :
    Dec.ofDigits (d.digits * 10 ^ k) (d.exp - k) = d := by
  rcases d with ⟨n, e, h | ⟨rfl, rfl⟩⟩
  · have hlt : k < 10 ^ k := Nat.lt_pow_self (by omega)
    have hpos : 0 < n := by omega
    have hfuel : k ≤ n * 10 ^ k := Nat.le_trans (Nat.le_of_lt hlt) (Nat.le_mul_of_pos_left _ hpos)
    have htrim := trimZeros_pow h k (n * 10 ^ k) (e - k) hfuel
    unfold Dec.ofDigits
    simp only [htrim]
    rw [dif_pos h]
    simp
  · simp [Dec.ofDigits, trimZeros, Dec.zero]

/-! ## Floats -/

/-- A Python `float`. -/
inductive PyFloat
  | nan
  | inf (neg : Bool)
  | finite (neg : Bool) (d : Dec)
deriving DecidableEq

/-- A minus sign, or nothing. -/
def signText (neg : Bool) : PyStr := if neg then py "-" else []

/-- The exponent of `float.__repr__`: a sign and at least two digits. -/
def exponentText (e : Int) : PyStr :=
  (if e < 0 then py "-" else py "+") ++
    (if e.natAbs < 10 then [digitChar 0] else []) ++ decDigits e.natAbs

/-- `float.__repr__` of a non-negative finite float. -/
def decRepr (d : Dec) : PyStr :=
  let ds := decDigits d.digits
  let point : Int := ds.length + d.exp
  if -4 < point ∧ point ≤ 16 then
    if point ≤ 0 then py "0." ++ List.replicate (-point).toNat (digitChar 0) ++ ds
    else if point < ds.length then ds.take point.toNat ++ py "." ++ ds.drop point.toNat
    else ds ++ List.replicate (point - ds.length).toNat (digitChar 0) ++ py ".0"
  else
    ds.take 1 ++ (if ds.length = 1 then [] else py "." ++ ds.drop 1) ++ py "e" ++
      exponentText (point - 1)

end Lib
