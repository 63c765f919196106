import SetuoraLite.Lib.Decimal

/-!
# Why bytes are no UTF-8

`decodeUtf8` only says that bytes cannot be decoded. `utf8Fault` finds the first ones that
cannot be taken and says why, and `utf8FaultText` is the text of the `UnicodeDecodeError`.
The two agree: there is a fault exactly when nothing is decoded (`utf8Fault_isSome`).
-/

namespace Lib

/-- Bytes that a decoder stops at. -/
structure Utf8Fault where
  position : Nat
  bytes : List UInt8
  reason : PyStr

/-- How many bytes the first byte of a code point asks for, and the range of the next one;
`none` when no code point starts with it. -/
def utf8First (a : Nat) : Option (Nat × Nat × Nat) :=
  if a < 0x80 then some (0, 0x80, 0xBF)
  else if a < 0xC2 then none
  else if a < 0xE0 then some (1, 0x80, 0xBF)
  -- No overlong code points, no surrogates, and none after the last.
  else if a < 0xF0 then some (2, if a = 0xE0 then 0xA0 else 0x80, if a = 0xED then 0x9F else 0xBF)
  else if a < 0xF5 then some (3, if a = 0xF0 then 0x90 else 0x80, if a = 0xF4 then 0x8F else 0xBF)
  else none

/-- The first fault of the bytes at a position, when `read` has been read of a code point that
asks for more bytes, the next of them in a range. -/
def utf8Fault (position : Nat) (read : List UInt8) : Nat → Nat → Nat → List UInt8 → Option Utf8Fault
  | 0, _, _, [] => none
  | _ + 1, _, _, [] => some ⟨position - read.length, read, py "unexpected end of data"⟩
  | 0, _, _, a :: rest =>
    match utf8First a.toNat with
    | none => some ⟨position, [a], py "invalid start byte"⟩
    | some (more, low, high) => utf8Fault (position + 1) [a] more low high rest
  | more + 1, low, high, b :: rest =>
    if low ≤ b.toNat ∧
      b.toNat ≤ high then utf8Fault (position + 1) (read ++ [b]) more 0x80 0xBF rest
    else some ⟨position - read.length, read, py "invalid continuation byte"⟩

/-! ## It is found exactly when nothing is decoded -/

/-- A continuation byte, and the six bits it carries. -/
private theorem utf8Tail_some {b : UInt8} {x : Nat} :
    utf8Tail b = some x ↔ (0x80 ≤ b.toNat ∧ b.toNat ≤ 0xBF) ∧ x = b.toNat - 0x80 := by
  unfold utf8Tail
  split_ifs with h
  · simp only [Option.some.injEq]
    omega
  · simp only [false_iff]
    omega

/-- Every other byte. -/
private theorem utf8Tail_none {b : UInt8} : utf8Tail b = none ↔
    ¬ (0x80 ≤ b.toNat ∧ b.toNat ≤ 0xBF) := by
  unfold utf8Tail
  split_ifs with h
  · simp only [false_iff, not_not]
    omega
  · simp only [true_iff]
    omega

/-- The code points that a sequence may encode: none overlong, no surrogate, none too large. -/
private theorem utf8Point_isSome {least n : Nat} :
    (utf8Point least n).isSome ↔ n < 0x110000 ∧ least ≤ n ∧ ¬ (0xD800 ≤ n ∧ n ≤ 0xDFFF) := by
  unfold utf8Point isSurrogate
  split_ifs with h hpoint
  · simp_all
  · simp_all
  · simp [h]

/-- A code point whose value is all right, before the rest. -/
private theorem point_bind_none {least n : Nat} {rest : List UInt8} :
    ((utf8Point least n).bind fun c => (decodeUtf8 rest).bind fun cs => some (c :: cs)) = none ↔
      ((utf8Point least n).isSome → decodeUtf8 rest = none) := by
  cases utf8Point least n with
  | none => simp
  | some c => cases decodeUtf8 rest <;> simp

section Decode

variable {a b c d : UInt8} {rest : List UInt8}

/-- An ASCII character. -/
private theorem decode_one (ha : a.toNat < 0x80) : decodeUtf8 (a :: rest) = none ↔
    decodeUtf8 rest = none := by
  conv_lhs => unfold decodeUtf8
  rw [if_pos ha]
  simp only [Option.bind_eq_bind, Option.pure_def]
  refine point_bind_none.trans (imp_iff_right ?_)
  rw [utf8Point_isSome]
  omega

/-- Two bytes; the first must not encode an ASCII character. -/
private theorem decode_two (ha : 0xC0 ≤ a.toNat ∧ a.toNat < 0xE0) :
    decodeUtf8 (a :: b :: rest) = none ↔
      (0xC2 ≤ a.toNat ∧ 0x80 ≤ b.toNat ∧ b.toNat ≤ 0xBF → decodeUtf8 rest = none) := by
  rw [decodeUtf8, if_neg (by omega), if_neg (by omega), if_pos ha.2]
  cases hb : utf8Tail b with
  | none => exact iff_of_true rfl fun h => absurd h.2 (utf8Tail_none.mp hb)
  | some x =>
    obtain ⟨hb, hx⟩ := utf8Tail_some.mp hb
    simp only [Option.bind_eq_bind, Option.bind_some, Option.pure_def]
    rw [point_bind_none, utf8Point_isSome]
    refine imp_congr_left ?_
    omega

/-- Three bytes; the first decides the range of the second. -/
private theorem decode_three (ha : 0xE0 ≤ a.toNat ∧ a.toNat < 0xF0) :
    decodeUtf8 (a :: b :: c :: rest) = none ↔
      (((if a.toNat = 0xE0 then 0xA0 else 0x80) ≤ b.toNat ∧
        b.toNat ≤ if a.toNat = 0xED then 0x9F else 0xBF) ∧
        0x80 ≤ c.toNat ∧ c.toNat ≤ 0xBF → decodeUtf8 rest = none) := by
  rw [decodeUtf8, if_neg (by omega), if_neg (by omega), if_neg (by omega), if_pos ha.2]
  dsimp only
  have hrange : 0x80 ≤ (if a.toNat = 0xE0 then 0xA0 else 0x80) ∧
      (if a.toNat = 0xED then 0x9F else 0xBF) ≤ 0xBF := by
    split_ifs <;> omega
  cases hb : utf8Tail b with
  | none =>
    have := utf8Tail_none.mp hb
    exact iff_of_true rfl fun h => absurd h (by omega)
  | some x =>
    cases hc : utf8Tail c with
    | none => exact iff_of_true rfl fun h => absurd h.2 (utf8Tail_none.mp hc)
    | some y =>
      obtain ⟨hb, hx⟩ := utf8Tail_some.mp hb
      obtain ⟨hc, hy⟩ := utf8Tail_some.mp hc
      simp only [Option.bind_eq_bind, Option.bind_some, Option.pure_def]
      rw [point_bind_none, utf8Point_isSome]
      refine imp_congr_left ?_
      split_ifs <;> omega

/-- Four bytes, in the same way. -/
private theorem decode_four (ha : 0xF0 ≤ a.toNat ∧ a.toNat < 0xF8) :
    decodeUtf8 (a :: b :: c :: d :: rest) = none ↔
      (a.toNat < 0xF5 ∧ ((if a.toNat = 0xF0 then 0x90 else 0x80) ≤ b.toNat ∧
          b.toNat ≤ if a.toNat = 0xF4 then 0x8F else 0xBF) ∧
        (0x80 ≤ c.toNat ∧ c.toNat ≤ 0xBF) ∧ 0x80 ≤ d.toNat ∧ d.toNat ≤ 0xBF →
        decodeUtf8 rest = none) := by
  rw [decodeUtf8, if_neg (by omega), if_neg (by omega), if_neg (by omega), if_neg (by omega),
    if_pos ha.2]
  dsimp only
  have hrange : 0x80 ≤ (if a.toNat = 0xF0 then 0x90 else 0x80) ∧
      (if a.toNat = 0xF4 then 0x8F else 0xBF) ≤ 0xBF := by
    split_ifs <;> omega
  cases hb : utf8Tail b with
  | none =>
    have := utf8Tail_none.mp hb
    exact iff_of_true rfl fun h => absurd h (by omega)
  | some x =>
    cases hc : utf8Tail c with
    | none =>
      have := utf8Tail_none.mp hc
      exact iff_of_true rfl fun h => absurd h (by omega)
    | some y =>
      cases hd : utf8Tail d with
      | none => exact iff_of_true rfl fun h => absurd h.2.2.2 (utf8Tail_none.mp hd)
      | some z =>
        obtain ⟨hb, hx⟩ := utf8Tail_some.mp hb
        obtain ⟨hc, hy⟩ := utf8Tail_some.mp hc
        obtain ⟨hd, hz⟩ := utf8Tail_some.mp hd
        -- One at a time: the kernel is slow to see the whole chain unfold at once.
        iterate 3 rw [Option.bind_eq_bind, Option.bind_some]
        simp only [Option.pure_def]
        rw [point_bind_none, utf8Point_isSome]
        refine imp_congr_left ?_
        split_ifs <;> omega

/-- Bytes that do not start a code point, or stop inside one. -/
private theorem decode_short (ha : 0x80 ≤ a.toNat ∧ a.toNat < 0xC0 ∨ 0xF8 ≤ a.toNat ∨
    0xC0 ≤ a.toNat ∧ rest.length < 1 ∨ 0xE0 ≤ a.toNat ∧ rest.length < 2 ∨
    0xF0 ≤ a.toNat ∧ rest.length < 3) : decodeUtf8 (a :: rest) = none := by
  unfold decodeUtf8
  rw [if_neg (by omega)]
  split_ifs with htail htwo hthree hfour
  · rfl
  · rcases rest with _ | ⟨b, rest⟩
    · rfl
    · simp only [List.length_cons] at ha
      omega
  · rcases rest with _ | ⟨b, _ | ⟨c, rest⟩⟩
    · rfl
    · rfl
    · simp only [List.length_cons] at ha
      omega
  · rcases rest with _ | ⟨b, _ | ⟨c, _ | ⟨d, rest⟩⟩⟩
    · rfl
    · rfl
    · rfl
    · simp only [List.length_cons] at ha
      omega
  · rfl

variable {position more low high : Nat} {read : List UInt8}

/-- A byte that was asked for. -/
private theorem fault_more :
    (utf8Fault position read (more + 1) low high (b :: rest)).isSome ↔
      (low ≤ b.toNat ∧ b.toNat ≤ high →
        (utf8Fault (position + 1) (read ++ [b]) more 0x80 0xBF rest).isSome) := by
  rw [utf8Fault]
  split_ifs with h
  · exact (imp_iff_right h).symm
  · exact iff_of_true rfl fun hrange => absurd hrange h

/-- No code point starts with the byte. -/
private theorem decode_invalid (h : utf8First a.toNat = none) : decodeUtf8 (a :: rest) = none := by
  have ha : 0x80 ≤ a.toNat ∧ a.toNat < 0xC2 ∨ 0xF5 ≤ a.toNat := by
    unfold utf8First at h
    split_ifs at h <;> omega
  rcases ha with ha | ha
  · rcases rest with _ | ⟨b, rest⟩
    · exact decode_short (by simp only [List.length_nil]; omega)
    · by_cases htail : a.toNat < 0xC0
      · exact decode_short (.inl ⟨ha.1, htail⟩)
      · exact (decode_two (by omega)).mpr fun h => absurd h.1 (by omega)
  · by_cases hlate : 0xF8 ≤ a.toNat
    · exact decode_short (.inr (.inl hlate))
    · rcases rest with _ | ⟨b, _ | ⟨c, _ | ⟨d, rest⟩⟩⟩
      · exact decode_short (by simp only [List.length_nil]; omega)
      · exact decode_short (by simp only [List.length_cons, List.length_nil]; omega)
      · exact decode_short (by simp only [List.length_cons, List.length_nil]; omega)
      · exact (decode_four (by omega)).mpr fun h => absurd h.1 (by omega)

/-- A byte that starts a code point. -/
private theorem fault_start {owed : Nat × Nat × Nat} (h : utf8First a.toNat = some owed) :
    utf8Fault position read 0 low high (a :: rest)
      = utf8Fault (position + 1) [a] owed.1 owed.2.1 owed.2.2 rest := by
  rw [utf8Fault, h]

end Decode

/-- There is a fault exactly when nothing is decoded. -/
theorem utf8Fault_isSome (bytes : List UInt8) :
    ∀ (position : Nat) (read : List UInt8) (low high : Nat),
    (utf8Fault position read 0 low high bytes).isSome ↔ decodeUtf8 bytes = none := by
  induction hlength : bytes.length using Nat.strong_induction_on generalizing bytes with
  | _ n ih =>
    intro position read low high
    subst hlength
    cases bytes with
    | nil => simp [utf8Fault, decodeUtf8]
    | cons a rest =>
      cases hfirst : utf8First a.toNat with
      | none =>
        rw [utf8Fault, hfirst]
        exact iff_of_true rfl (decode_invalid hfirst)
      | some owed =>
        rw [fault_start hfirst]
        have hrange : a.toNat < 0x80 ∨ (0xC2 ≤ a.toNat ∧ a.toNat < 0xE0) ∨
            (0xE0 ≤ a.toNat ∧ a.toNat < 0xF0) ∨ (0xF0 ≤ a.toNat ∧ a.toNat < 0xF5) := by
          unfold utf8First at hfirst
          split_ifs at hfirst <;> omega
        -- By the length of the code point, and then by how many of its bytes are there.
        rcases hrange with hone | htwo | hthree | hfour
        · rw [utf8First, if_pos hone] at hfirst
          obtain rfl := Option.some.inj hfirst
          rw [decode_one hone]
          exact ih _ (by simp) rest rfl _ _ _ _
        · rw [utf8First, if_neg (by omega), if_neg (by omega), if_pos htwo.2] at hfirst
          obtain rfl := Option.some.inj hfirst
          rcases rest with _ | ⟨b, rest⟩
          · exact iff_of_true rfl (decode_short (by simp only [List.length_nil]; omega))
          · rw [fault_more, decode_two (by omega),
              ih _ (by simp only [List.length_cons]; omega) rest rfl]
            exact imp_congr_left (and_iff_right htwo.1).symm
        · rw [utf8First, if_neg (by omega), if_neg (by omega), if_neg (by omega), if_pos hthree.2]
            at hfirst
          obtain rfl := Option.some.inj hfirst
          rcases rest with _ | ⟨b, _ | ⟨c, rest⟩⟩
          · exact iff_of_true rfl (decode_short (by simp only [List.length_nil]; omega))
          · rw [fault_more]
            exact iff_of_true (fun _ => rfl)
              (decode_short (by simp only [List.length_cons, List.length_nil]; omega))
          · rw [fault_more, fault_more, decode_three hthree,
              ih _ (by simp only [List.length_cons]; omega) rest rfl]
            exact and_imp.symm
        · rw [utf8First, if_neg (by omega), if_neg (by omega), if_neg (by omega), if_neg (by omega),
            if_pos hfour.2] at hfirst
          obtain rfl := Option.some.inj hfirst
          rcases rest with _ | ⟨b, _ | ⟨c, _ | ⟨d, rest⟩⟩⟩
          · exact iff_of_true rfl (decode_short (by simp only [List.length_nil]; omega))
          · rw [fault_more]
            exact iff_of_true (fun _ => rfl)
              (decode_short (by simp only [List.length_cons, List.length_nil]; omega))
          · rw [fault_more, fault_more]
            exact iff_of_true (fun _ _ => rfl)
              (decode_short (by simp only [List.length_cons, List.length_nil]; omega))
          · rw [fault_more, fault_more, fault_more, decode_four (by omega),
              ih _ (by simp only [List.length_cons]; omega) rest rfl]
            rw [and_iff_right hfour.2]
            simp only [and_imp]

/-- `str(exc)` of the `UnicodeDecodeError` of bytes that are not decoded. -/
def utf8FaultText (bytes : List UInt8) (h : decodeUtf8 bytes = none) : PyStr :=
  let fault := (utf8Fault 0 [] 0 0 0 bytes).get ((utf8Fault_isSome bytes 0 [] 0 0).mpr h)
  let place := match fault.bytes with
    | [b] => py "byte 0x" ++ [hexDigit (b.toNat / 16), hexDigit (b.toNat % 16)] ++
        py " in position " ++ decDigits fault.position
    | _ => py "bytes in position " ++ decDigits fault.position ++ py "-" ++
        decDigits (fault.position + fault.bytes.length - 1)
  py "'utf-8' codec can't decode " ++ place ++ py ": " ++ fault.reason

/-- The second byte of a code point of three is missing. -/
example : utf8FaultText [0x41, 0xE2, 0x82] (by decide +kernel) =
    py "'utf-8' codec can't decode bytes in position 1-2: unexpected end of data" := by
  decide +kernel

end Lib
