import SetuoraLite.Lib.Json

/-!
# Reading JSON

`decode` is Python's `json.loads` on a `str`: white space between tokens, the
constants `NaN`, `Infinity` and `-Infinity`, escapes with surrogate pairs joined,
the last of two equal keys winning, `Extra data` after the value refused. The
ways it can fail are kept apart, because only one of them is a
`JSONDecodeError`: an integer of more than 4,300 digits raises a plain
`ValueError`, and a container inside too many others a `RecursionError`. The
limit on the latter is an argument of `decodeWithin`; `decode` has none.

The parsers take fuel. Every call consumes at least one code point, so the length
of the text is enough.

`decode_render` is the round trip: what `Json.render` prints, `decode` reads back
to the very value, for any value whose dicts have distinct keys.
-/

namespace Lib

/-- Why a text was not decoded. -/
inductive DecodeError
  | invalid
  | intTooLong
  | tooDeep
deriving DecidableEq

/-! ## Tokens -/

/-- JSON's own white space. -/
def isJsonSpace (c : CodePoint) : Bool :=
  c.val == 32 || c.val == 9 || c.val == 10 || c.val == 13

/-- Skip white space. -/
def skipSpace (s : PyStr) : PyStr := s.dropWhile isJsonSpace

/-- The text after a literal word. -/
def afterWord (word s : PyStr) : Option PyStr :=
  if word.isPrefixOf s then some (s.drop word.length) else none

/-! ## Strings -/

/-- The value of a hexadecimal digit. -/
def hexVal (c : CodePoint) : Option Nat :=
  if isDigit c then some (c.val - 48)
  else if 97 ≤ c.val && c.val ≤ 102 then some (c.val - 87)
  else if 65 ≤ c.val && c.val ≤ 70 then some (c.val - 55)
  else none

/-- The code unit of four hexadecimal digits. -/
def hexQuad (a b c d : CodePoint) : Option CodePoint :=
  (hexVal a).bind fun w => (hexVal b).bind fun x => (hexVal c).bind fun y =>
    (hexVal d).map fun z => Fin.ofNat 0x110000 (w * 4096 + x * 256 + y * 16 + z)

/-- The character of a two-character escape. -/
def simpleEscape (e : CodePoint) : Option CodePoint :=
  if e = cp '"' then some (cp '"')
  else if e = cp '\\' then some (cp '\\')
  else if e = cp '/' then some (cp '/')
  else if e = cp 'b' then some (Fin.ofNat _ 8)
  else if e = cp 'f' then some (Fin.ofNat _ 12)
  else if e = cp 'n' then some (Fin.ofNat _ 10)
  else if e = cp 'r' then some (Fin.ofNat _ 13)
  else if e = cp 't' then some (Fin.ofNat _ 9)
  else none

/-- The code points of a string up to its closing quote; a code point written as
`\uXXXX` is marked, since only marked surrogates are joined. -/
def scanChars : PyStr → Option (List (Bool × CodePoint) × PyStr)
  | [] => none
  | c :: s =>
    if c = cp '"' then some ([], s)
    else if c = cp '\\' then
      match s with
      | [] => none
      | e :: s' =>
        if e = cp 'u' then
          match s' with
          | w :: x :: y :: z :: s'' =>
            (hexQuad w x y z).bind fun u =>
              (scanChars s'').map fun p => ((true, u) :: p.1, p.2)
          | _ => none
        else
          (simpleEscape e).bind fun u =>
            (scanChars s').map fun p => ((false, u) :: p.1, p.2)
    else if c.val < 32 then none
    else (scanChars s).map fun p => ((false, c) :: p.1, p.2)

/-- A high surrogate. -/
def isHighSurrogate (c : CodePoint) : Bool := 0xD800 ≤ c.val && c.val < 0xDC00

/-- A low surrogate. -/
def isLowSurrogate (c : CodePoint) : Bool := 0xDC00 ≤ c.val && c.val < 0xE000

/-- Two surrogates written as escapes, one after the other, are one code point. -/
def joinSurrogates : List (Bool × CodePoint) → PyStr
  | [] => []
  | [e] => [e.2]
  | e :: f :: es =>
    if e.1 && f.1 && isHighSurrogate e.2 && isLowSurrogate f.2 then
      Fin.ofNat 0x110000 (0x10000 + (e.2.val - 0xD800) * 1024 + (f.2.val - 0xDC00)) ::
        joinSurrogates es
    else e.2 :: joinSurrogates (f :: es)

/-- A string, after its opening quote. -/
def parseString (s : PyStr) : Option (PyStr × PyStr) :=
  (scanChars s).map fun p => (joinSurrogates p.1, p.2)

/-! ## Numbers -/

/-- The integer digits of a number: a lone zero, or digits that do not start with one. -/
def intDigits : PyStr → PyStr × PyStr
  | [] => ([], [])
  | c :: s =>
    if c = digitChar 0 then ([c], s)
    else ((c :: s).takeWhile isDigit, (c :: s).dropWhile isDigit)

/-- The digits after a decimal point; none when there is no digit after it. -/
def fracDigits : PyStr → PyStr × PyStr
  | [] => ([], [])
  | c :: s =>
    if c = cp '.' ∧ s.takeWhile isDigit ≠ [] then (s.takeWhile isDigit, s.dropWhile isDigit)
    else ([], c :: s)

/-- The sign of an exponent and what follows it. -/
def exponentSign : PyStr → Bool × PyStr
  | [] => (false, [])
  | c :: s => if c = cp '-' then (true, s) else if c = cp '+' then (false, s) else (false, c :: s)

/-- A natural number with a sign. -/
def signed (neg : Bool) (n : Nat) : Int := if neg then -(n : Int) else n

/-- The exponent of a number, when there is one. -/
def exponentPart : PyStr → Option Int × PyStr
  | [] => (none, [])
  | c :: s =>
    let p := exponentSign s
    if (c = cp 'e' ∨ c = cp 'E') ∧ p.2.takeWhile isDigit ≠ [] then
      (some (signed p.1 (digitsVal (p.2.takeWhile isDigit))), p.2.dropWhile isDigit)
    else (none, c :: s)

/-- A number after its sign: an `int` when it has neither fraction nor exponent. -/
def parseUnsigned (neg : Bool) (s : PyStr) : Except DecodeError (Json × PyStr) :=
  let i := intDigits s
  let f := fracDigits i.2
  let e := exponentPart f.2
  if i.1 = [] then .error .invalid
  else if f.1 = [] ∧ e.1 = none then
    if i.1.length ≤ maxIntDigits then .ok (.int (signed neg (digitsVal i.1)), e.2)
    else .error .intTooLong
  else
    .ok (.float (.finite neg (Dec.ofDigits (digitsVal (i.1 ++ f.1)) (e.1.getD 0 - f.1.length))),
      e.2)

/-- A number. -/
def parseNumber : PyStr → Except DecodeError (Json × PyStr)
  | [] => .error .invalid
  | c :: s => if c = cp '-' then parseUnsigned true s else parseUnsigned false (c :: s)

/-! ## Values -/

/-- The literal words, each with its value. -/
def words : List (PyStr × Json) :=
  [(py "null", .null), (py "true", .bool true), (py "false", .bool false),
    (py "NaN", .float .nan), (py "Infinity", .float (.inf false)),
    (py "-Infinity", .float (.inf true))]

/-- A literal word at the head of the text. -/
def parseWord (s : PyStr) : List (PyStr × Json) → Option (Json × PyStr)
  | [] => none
  | (word, v) :: rest =>
    match afterWord word s with
    | some s' => some (v, s')
    | none => parseWord s rest

/-- A key, its colon, and what stands before the value. -/
def parseKey (s : PyStr) : Option (PyStr × PyStr) :=
  match s with
  | [] => none
  | c :: s =>
    if c = cp '"' then
      (parseString s).bind fun p =>
        match skipSpace p.2 with
        | c' :: s' => if c' = cp ':' then some (p.1, skipSpace s') else none
        | [] => none
    else none

/-- Open a container: how many more may be opened inside; `none` is no limit. -/
def enter : Option Nat → Except DecodeError (Option Nat)
  | none => .ok none
  | some 0 => .error .tooDeep
  | some (levels + 1) => .ok (some levels)

mutual

/-- A value at the head of the text. -/
def parseValue : Option Nat → Nat → PyStr → Except DecodeError (Json × PyStr)
  | _, 0, _ => .error .invalid
  | levels, fuel + 1, s =>
    match s with
    | [] => .error .invalid
    | c :: r =>
      if c = cp '"' then
        match parseString r with
        | some (t, r') => .ok (.str t, r')
        | none => .error .invalid
      else if c = cp '[' then do
        let levels ← enter levels
        match skipSpace r with
        | [] => .error .invalid
        | c' :: r' =>
          if c' = cp ']' then .ok (.arr [], r')
          else do
            let (x, r₁) ← parseValue levels fuel (c' :: r')
            let (xs, r₂) ← parseElems levels fuel r₁
            return (.arr (x :: xs), r₂)
      else if c = cp '{' then do
        let levels ← enter levels
        match skipSpace r with
        | [] => .error .invalid
        | c' :: r' =>
          if c' = cp '}' then .ok (.obj [], r')
          else
            match parseKey (c' :: r') with
            | none => .error .invalid
            | some (k, r₀) => do
              let (v, r₁) ← parseValue levels fuel r₀
              let (kvs, r₂) ← parseMembers levels fuel r₁
              return (.obj (dictUpdate [] ((k, v) :: kvs)), r₂)
      else
        match parseWord (c :: r) words with
        | some p => .ok p
        | none => parseNumber (c :: r)

/-- The elements after the first, and the closing bracket. -/
def parseElems : Option Nat → Nat → PyStr → Except DecodeError (List Json × PyStr)
  | _, 0, _ => .error .invalid
  | levels, fuel + 1, s =>
    match skipSpace s with
    | [] => .error .invalid
    | c :: r =>
      if c = cp ']' then .ok ([], r)
      else if c = cp ',' then do
        let (x, r₁) ← parseValue levels fuel (skipSpace r)
        let (xs, r₂) ← parseElems levels fuel r₁
        return (x :: xs, r₂)
      else .error .invalid

/-- The members after the first, in the order of the text, and the closing brace. -/
def parseMembers : Option Nat → Nat → PyStr → Except DecodeError (List (PyStr × Json) × PyStr)
  | _, 0, _ => .error .invalid
  | levels, fuel + 1, s =>
    match skipSpace s with
    | [] => .error .invalid
    | c :: r =>
      if c = cp '}' then .ok ([], r)
      else if c = cp ',' then
        match parseKey (skipSpace r) with
        | none => .error .invalid
        | some (k, r₀) => do
          let (v, r₁) ← parseValue levels fuel r₀
          let (kvs, r₂) ← parseMembers levels fuel r₁
          return ((k, v) :: kvs, r₂)
      else .error .invalid

end

/-- `json.loads(s)`, with that many containers inside each other at most. -/
def decodeWithin (levels : Option Nat) (s : PyStr) : Except DecodeError Json :=
  if s.head? = some (Fin.ofNat 0x110000 0xFEFF) then .error .invalid
  else
    match parseValue levels (s.length + 1) (skipSpace s) with
    | .error e => .error e
    | .ok (v, rest) => if skipSpace rest = [] then .ok v else .error .invalid

/-- `json.loads(s)` of a text whose nesting is no concern. -/
def decode (s : PyStr) : Except DecodeError Json := decodeWithin none s

/-! ## Round trip: strings -/

/-- A code point as `scanChars` reports it after `escapeChar` printed it. -/
private def marked (c : CodePoint) : Bool × CodePoint :=
  (decide (c.val < 32 ∧ c.val ≠ 8 ∧ c.val ≠ 9 ∧ c.val ≠ 10 ∧ c.val ≠ 12 ∧ c.val ≠ 13), c)

private theorem hexQuad_control : ∀ n : Fin 32,
    hexQuad (cp '0') (cp '0') (hexChar (n.val / 16)) (hexChar (n.val % 16))
      = some (Fin.ofNat 0x110000 n.val) := by
  decide

private theorem scanChars_hex {w x y z u : CodePoint} {s : PyStr} (h : hexQuad w x y z = some u) :
    scanChars (cp '\\' :: cp 'u' :: w :: x :: y :: z :: s)
      = (scanChars s).map fun p => ((true, u) :: p.1, p.2) := by
  rw [scanChars, if_neg (by decide), if_pos rfl]
  simp only [if_true, h, Option.bind_some]

private theorem scanChars_simple {e u : CodePoint} {s : PyStr} (hu : e ≠ cp 'u')
    (h : simpleEscape e = some u) :
    scanChars (cp '\\' :: e :: s) = (scanChars s).map fun p => ((false, u) :: p.1, p.2) := by
  rw [scanChars.eq_def]
  simp only [if_neg (show cp '\\' ≠ cp '"' by decide), if_true, if_neg hu, h, Option.bind_some]

/-- What `escapeChar` prints is read back as one code point. -/
private theorem scanChars_escapeChar (c : CodePoint) (s : PyStr) :
    scanChars (escapeChar c ++ s) = (scanChars s).map fun p => (marked c :: p.1, p.2) := by
  have hval : ∀ n : Nat, c.val = n → c = Fin.ofNat 0x110000 n := by
    intro n hn
    apply Fin.ext
    show c.val = n % 0x110000
    omega
  -- The two-character escapes, the control characters, and everything else.
  unfold escapeChar
  split
  next h => subst h; exact scanChars_simple (by decide) (by decide)
  next h₁ =>
    split
    next h => subst h; exact scanChars_simple (by decide) (by decide)
    next h₂ =>
      split
      next h => rw [hval _ h]; exact scanChars_simple (by decide) (by decide)
      next h₈ =>
        split
        next h => rw [hval _ h]; exact scanChars_simple (by decide) (by decide)
        next h₉ =>
          split
          next h => rw [hval _ h]; exact scanChars_simple (by decide) (by decide)
          next h₁₀ =>
            split
            next h => rw [hval _ h]; exact scanChars_simple (by decide) (by decide)
            next h₁₂ =>
              split
              next h => rw [hval _ h]; exact scanChars_simple (by decide) (by decide)
              next h₁₃ =>
                split
                next h =>
                  have hq := hexQuad_control ⟨c.val, h⟩
                  have hm : marked c = (true, c) := by
                    simp [marked, h, h₈, h₉, h₁₀, h₁₂, h₁₃]
                  rw [← hval c.val rfl] at hq
                  rw [hm]
                  exact scanChars_hex hq
                next h =>
                  have hm : marked c = (false, c) := by simp [marked, h]
                  rw [hm, List.singleton_append, scanChars.eq_def]
                  simp only [if_neg h₁, if_neg h₂, if_neg h]

/-- Scanning the text of a string gives the string back. -/
private theorem scanChars_strText (s rest : PyStr) :
    scanChars (s.flatMap escapeChar ++ cp '"' :: rest) = some (s.map marked, rest) := by
  induction s with
  | nil =>
    show scanChars (cp '"' :: rest) = _
    rw [scanChars.eq_def]
    simp only [if_true, List.map_nil]
  | cons c s ih =>
    rw [List.flatMap_cons, List.append_assoc, scanChars_escapeChar, ih]
    rfl

/-- Only control characters are printed as `\uXXXX`, so nothing is joined. -/
private theorem joinSurrogates_marked (s : PyStr) : joinSurrogates (s.map marked) = s := by
  induction s with
  | nil => rfl
  | cons c s ih =>
    cases s with
    | nil => rfl
    | cons d s =>
      have hno : ((marked c).1 && (marked d).1 && isHighSurrogate (marked c).2
          && isLowSurrogate (marked d).2) = false := by
        by_cases h : c.val < 32
        · have : isHighSurrogate c = false := by
            unfold isHighSurrogate
            simp only [Bool.and_eq_false_iff, decide_eq_false_iff_not]
            omega
          simp [marked, this]
        · simp [marked, h]
      simp only [List.map_cons] at ih ⊢
      rw [joinSurrogates, hno, ih]
      rfl

theorem parseString_strText (s rest : PyStr) :
    parseString (s.flatMap escapeChar ++ cp '"' :: rest) = some (s, rest) := by
  rw [parseString, scanChars_strText]
  simp only [Option.map_some, joinSurrogates_marked]

/-! ## Round trip: numbers -/

/-- What may follow a number: nothing that could be read as part of it. -/
def NumEnd (rest : PyStr) : Prop :=
  ∀ c r, rest = c :: r → isDigit c = false ∧ c ≠ cp '.' ∧ c ≠ cp 'e' ∧ c ≠ cp 'E'

/-- Digits stop here. -/
private def NoDigit (rest : PyStr) : Prop := ∀ c r, rest = c :: r → isDigit c = false

/-- The digits end where something else begins. -/
private theorem takeWhile_digits {ds rest : PyStr} (hds : ∀ c ∈ ds, isDigit c = true)
    (hrest : NoDigit rest) :
    (ds ++ rest).takeWhile isDigit = ds ∧ (ds ++ rest).dropWhile isDigit = rest := by
  induction ds with
  | nil =>
    cases rest with
    | nil => exact ⟨rfl, rfl⟩
    | cons c r => simp [hrest c r rfl]
  | cons d ds ih =>
    obtain ⟨h₁, h₂⟩ := ih fun c hc => hds c (List.mem_cons_of_mem d hc)
    have hd := hds d (List.mem_cons_self)
    simp [hd, h₁, h₂]

private theorem intDigits_text {c : CodePoint} {ds rest : PyStr}
    (hall : ∀ x ∈ c :: ds, isDigit x = true) (hz : c ≠ digitChar 0 ∨ ds = [])
    (hrest : NoDigit rest) : intDigits (c :: ds ++ rest) = (c :: ds, rest) := by
  show intDigits (c :: (ds ++ rest)) = _
  rw [intDigits]
  split
  next h =>
    rcases hz with hz | rfl
    · exact absurd h hz
    · rfl
  next h =>
    obtain ⟨h₁, h₂⟩ := takeWhile_digits hall hrest
    rw [List.cons_append] at h₁ h₂
    rw [h₁, h₂]

/-- The text of a fraction. -/
private def fracText (fp : PyStr) : PyStr := if fp = [] then [] else cp '.' :: fp

/-- The text of an exponent. -/
private def expText : Option Int → PyStr
  | none => []
  | some e => cp 'e' :: exponentText e

private theorem numEnd_expText {rest : PyStr} (e : Option Int) (h : NumEnd rest) :
    ∀ c r, expText e ++ rest = c :: r → isDigit c = false ∧ c ≠ cp '.' := by
  intro c r heq
  cases e with
  | none => exact ⟨(h c r heq).1, (h c r heq).2.1⟩
  | some e =>
    obtain ⟨rfl, _⟩ := List.cons.inj heq
    decide

private theorem fracDigits_text {fp s : PyStr} (hfp : ∀ c ∈ fp, isDigit c = true)
    (hs : ∀ c r, s = c :: r → isDigit c = false ∧ c ≠ cp '.') :
    fracDigits (fracText fp ++ s) = (fp, s) := by
  unfold fracText
  split
  next h =>
    subst h
    cases s with
    | nil => rfl
    | cons c r =>
      have hc := (hs c r rfl).2
      simp [fracDigits, hc]
  next h =>
    obtain ⟨h₁, h₂⟩ := takeWhile_digits hfp fun c r he => (hs c r he).1
    show fracDigits (cp '.' :: (fp ++ s)) = _
    rw [fracDigits, h₁, h₂, if_pos ⟨rfl, h⟩]

private theorem exponentSign_exponentText (e : Int) (rest : PyStr) :
    exponentSign (exponentText e ++ rest) = (decide (e < 0),
      (if e.natAbs < 10 then [digitChar 0] else []) ++ decDigits e.natAbs ++ rest) := by
  unfold exponentText
  by_cases h : e < 0
  · simp only [h, if_true, decide_true]
    rfl
  · simp only [h, if_false, decide_false]
    rfl

private theorem exponentPart_text {rest : PyStr} (e : Option Int) (h : NumEnd rest) :
    exponentPart (expText e ++ rest) = (e, rest) := by
  cases e with
  -- Without an exponent the rest of the text decides.
  | none =>
    cases rest with
    | nil => rfl
    | cons c r =>
      obtain ⟨_, _, hc₁, hc₂⟩ := h c r rfl
      simp [expText, exponentPart, hc₁, hc₂]
  | some e =>
    -- The zero that pads an exponent of one digit has no value.
    have hz : (digitsVal ((if e.natAbs < 10 then [digitChar 0] else []) ++ decDigits e.natAbs))
        = e.natAbs := by
      rw [digitsVal_append, digitsVal_decDigits]
      split
      · rw [show digitsVal [digitChar 0] = 0 by decide]
        omega
      · rw [show digitsVal [] = 0 by decide]
        omega
    have hall : ∀ c ∈ (if e.natAbs < 10 then [digitChar 0] else []) ++ decDigits e.natAbs,
        isDigit c = true := by
      intro c hc
      rcases List.mem_append.mp hc with hc | hc
      · split at hc
        · obtain rfl := List.mem_singleton.mp hc
          decide
        · exact absurd hc List.not_mem_nil
      · exact decDigits_isDigit _ c hc
    have hne : (if e.natAbs < 10 then [digitChar 0] else []) ++ decDigits e.natAbs ≠ [] := by
      obtain ⟨c, cs, heq, _⟩ := decDigits_eq_cons e.natAbs
      rw [heq]
      simp
    obtain ⟨h₁, h₂⟩ := takeWhile_digits hall fun c r he => (h c r he).1
    show exponentPart (cp 'e' :: (exponentText e ++ rest)) = _
    rw [exponentPart]
    simp only [exponentSign_exponentText, h₁, h₂, hz]
    rw [if_pos ⟨Or.inl trivial, hne⟩]
    have hsigned : signed (decide (e < 0)) e.natAbs = e := by
      unfold signed
      split
      next hneg => have := of_decide_eq_true hneg; omega
      next hneg => have := of_decide_eq_false (Bool.eq_false_iff.mpr hneg); omega
    rw [hsigned]

/-- A number printed from its three parts is read back from them. -/
private theorem parseUnsigned_text (neg : Bool) (fp : PyStr) (e : Option Int) {c : CodePoint}
    {ds rest : PyStr} (hall : ∀ x ∈ c :: ds, isDigit x = true)
    (hz : c ≠ digitChar 0 ∨ ds = []) (hfp : ∀ x ∈ fp, isDigit x = true) (h : NumEnd rest) :
    parseUnsigned neg (c :: ds ++ (fracText fp ++ (expText e ++ rest))) =
      if fp = [] ∧ e = none then
        if (c :: ds).length ≤ maxIntDigits then .ok (.int (signed neg (digitsVal (c :: ds))), rest)
        else .error .intTooLong
      else
        .ok (.float (.finite neg
          (Dec.ofDigits (digitsVal (c :: ds ++ fp)) (e.getD 0 - fp.length))), rest) := by
  have hno : NoDigit (fracText fp ++ (expText e ++ rest)) := by
    intro x r heq
    unfold fracText at heq
    split at heq
    · exact (numEnd_expText e h x r heq).1
    · obtain ⟨rfl, _⟩ := List.cons.inj heq
      decide
  unfold parseUnsigned
  simp only [intDigits_text hall hz hno, fracDigits_text hfp (numEnd_expText e h),
    exponentPart_text e h]
  rw [if_neg (List.cons_ne_nil c ds)]

/-- A text that reads as the decimal `d`: an integer part, a fraction, an
exponent, at least one of the last two. -/
private def FloatText (t : PyStr) (d : Dec) : Prop :=
  ∃ c ds fp e, t = c :: ds ++ (fracText fp ++ expText e) ∧
    (∀ x ∈ c :: ds, isDigit x = true) ∧ (c ≠ digitChar 0 ∨ ds = []) ∧
    (∀ x ∈ fp, isDigit x = true) ∧ ¬ (fp = [] ∧ e = none) ∧
    Dec.ofDigits (digitsVal (c :: ds ++ fp)) (e.getD 0 - fp.length) = d

private theorem zeros_isDigit (k : Nat) :
    ∀ x ∈ List.replicate k (digitChar 0), isDigit x = true := by
  intro x hx
  rw [(List.mem_replicate.mp hx).2]
  decide

private theorem ofDigits_self (d : Dec) : Dec.ofDigits d.digits d.exp = d := by
  have h := Dec.ofDigits_pow d 0
  simpa using h

private theorem digits_lead {d : Dec} {c : CodePoint} {cs : PyStr}
    (hcons : decDigits d.digits = c :: cs) : c ≠ digitChar 0 ∨ (d.digits = 0 ∧ cs = []) := by
  obtain ⟨c', cs', heq, hnz, hzero⟩ := decDigits_eq_cons d.digits
  obtain ⟨rfl, rfl⟩ := List.cons.inj (hcons.symm.trans heq)
  by_cases h : d.digits = 0
  · exact Or.inr ⟨h, hzero h⟩
  · exact Or.inl (hnz h)

/-- `0.000ddd`. -/
private theorem floatText_leading {d : Dec} {c : CodePoint} {cs : PyStr}
    (hcons : decDigits d.digits = c :: cs) {k : Nat}
    (hk : (k : Int) = -((cs.length + 1 : Nat) + d.exp)) :
    FloatText (py "0." ++ List.replicate k (digitChar 0) ++ (c :: cs)) d := by
  have hall := decDigits_isDigit d.digits
  have hval := digitsVal_decDigits d.digits
  rw [hcons] at hall hval
  refine ⟨digitChar 0, [], List.replicate k (digitChar 0) ++ (c :: cs), none, ?_, ?_,
    Or.inr rfl, ?_,
    by simp, ?_⟩
  · rw [fracText, if_neg (by simp)]
    simp only [expText, List.append_nil, List.append_assoc]
    rfl
  · intro x hx
    obtain rfl := List.mem_singleton.mp hx
    decide
  · intro x hx
    rcases List.mem_append.mp hx with hx | hx
    · exact zeros_isDigit k x hx
    · exact hall x hx
  · rw [digitsVal_append, digitsVal_append, digitsVal_zeros, hval,
      show digitsVal [digitChar 0] = 0 by decide]
    have hexp : ((none : Option Int).getD 0
        - ((List.replicate k (digitChar 0) ++ (c :: cs)).length : Nat) : Int) = d.exp := by
      simp only [List.length_append, List.length_replicate, List.length_cons, Option.getD_none]
      omega
    rw [hexp]
    simpa using ofDigits_self d

/-- `dd.ddd`, with `k + 1` digits before the point. -/
private theorem floatText_inner {d : Dec} {c : CodePoint} {cs : PyStr}
    (hcons : decDigits d.digits = c :: cs) {k : Nat}
    (hk : (k + 1 : Int) = (cs.length + 1 : Nat) + d.exp) (hlt : k < cs.length) :
    FloatText ((c :: cs).take (k + 1) ++ py "." ++ (c :: cs).drop (k + 1)) d := by
  have hall := decDigits_isDigit d.digits
  have hval := digitsVal_decDigits d.digits
  have hlead := digits_lead hcons
  rw [hcons] at hall hval
  have hne : cs.drop k ≠ [] := by
    intro he
    have := congrArg List.length he
    simp only [List.length_drop, List.length_nil] at this
    omega
  -- The digits are cut at the point.
  refine ⟨c, cs.take k, cs.drop k, none, ?_, ?_, ?_, ?_, fun h => hne h.1, ?_⟩
  · rw [fracText, if_neg hne, expText]
    simp only [List.take_succ_cons, List.drop_succ_cons, List.append_nil, List.append_assoc]
    rfl
  · intro x hx
    rcases List.mem_cons.mp hx with rfl | hx
    · exact hall _ List.mem_cons_self
    · exact hall x (List.mem_cons_of_mem _ (List.mem_of_mem_take hx))
  · rcases hlead with h | ⟨-, h⟩
    · exact Or.inl h
    · exact Or.inr (by simp [h])
  · intro x hx
    exact hall x (List.mem_cons_of_mem _ (List.mem_of_mem_drop hx))
  · rw [List.cons_append, List.take_append_drop, hval]
    have hexp : ((none : Option Int).getD 0 - ((cs.drop k).length : Nat) : Int) = d.exp := by
      simp only [List.length_drop, Option.getD_none]
      omega
    rw [hexp]
    exact ofDigits_self d

/-- `ddd000.0`. -/
private theorem floatText_trailing {d : Dec} {c : CodePoint} {cs : PyStr}
    (hcons : decDigits d.digits = c :: cs) {k : Nat} (hk : (k : Int) = d.exp) :
    FloatText (c :: cs ++ List.replicate k (digitChar 0) ++ py ".0") d := by
  have hall := decDigits_isDigit d.digits
  have hval := digitsVal_decDigits d.digits
  have hlead := digits_lead hcons
  rw [hcons] at hall hval
  -- The zeros before the point and the one after it are put back.
  refine ⟨c, cs ++ List.replicate k (digitChar 0), [digitChar 0], none, ?_, ?_, ?_, ?_, by simp, ?_⟩
  · rw [fracText, if_neg (by simp), expText]
    simp only [List.cons_append, List.append_nil, List.append_assoc]
    rfl
  · intro x hx
    rcases List.mem_append.mp (show x ∈ (c :: cs) ++ _ from hx) with hx | hx
    · exact hall x hx
    · exact zeros_isDigit k x hx
  · rcases hlead with h | ⟨h, hcs⟩
    · exact Or.inl h
    · have hn := d.normal
      have hk0 : k = 0 := by omega
      rw [hcs, hk0]
      exact Or.inr rfl
  · intro x hx
    obtain rfl := List.mem_singleton.mp hx
    decide
  · have hd : digitsVal (c :: (cs ++ List.replicate k (digitChar 0)) ++ [digitChar 0])
        = d.digits * 10 ^ (k + 1) := by
      rw [show c :: (cs ++ List.replicate k (digitChar 0))
        = (c :: cs) ++ List.replicate k (digitChar 0) from rfl,
        digitsVal_append, digitsVal_append, digitsVal_zeros, hval,
        show digitsVal [digitChar 0] = 0 by decide, List.length_replicate]
      simp only [List.length_cons, List.length_nil, Nat.add_zero, Nat.zero_add, Nat.pow_one]
      rw [Nat.pow_succ, Nat.mul_assoc]
    have hexp : ((none : Option Int).getD 0 - (([digitChar 0] : PyStr).length : Nat) : Int)
        = d.exp - (k + 1 : Nat) := by
      simp only [List.length_cons, List.length_nil, Option.getD_none]
      omega
    rw [hd, hexp]
    exact Dec.ofDigits_pow d (k + 1)

/-- `d.ddde+XX`. -/
private theorem floatText_scientific {d : Dec} {c : CodePoint} {cs : PyStr}
    (hcons : decDigits d.digits = c :: cs) :
    FloatText ((c :: cs).take 1 ++ (if (c :: cs).length = 1 then [] else py "." ++ (c :: cs).drop 1)
      ++ py "e" ++ exponentText ((c :: cs).length + d.exp - 1)) d := by
  have hall := decDigits_isDigit d.digits
  have hval := digitsVal_decDigits d.digits
  rw [hcons] at hall hval
  refine ⟨c, [], cs, some ((c :: cs).length + d.exp - 1), ?_, ?_, Or.inr rfl, ?_, by simp, ?_⟩
  · cases cs with
    | nil => rfl
    | cons c' cs =>
      rw [if_neg (by simp), fracText, if_neg (by simp), expText]
      simp only [List.take_succ_cons, List.take_zero, List.drop_succ_cons, List.drop_zero,
        List.append_assoc]
      rfl
  · intro x hx
    obtain rfl := List.mem_singleton.mp hx
    exact hall _ List.mem_cons_self
  · intro x hx
    exact hall x (List.mem_cons_of_mem _ hx)
  · have hexp : ((some (((c :: cs).length : Nat) + d.exp - 1)).getD 0 - (cs.length : Nat) : Int)
        = d.exp := by
      simp only [Option.getD_some, List.length_cons]
      omega
    rw [List.singleton_append, hval, hexp]
    exact ofDigits_self d

/-- `float.__repr__` prints a text that reads back. -/
private theorem decRepr_text (d : Dec) : FloatText (decRepr d) d := by
  obtain ⟨c, cs, hcons, _⟩ := decDigits_eq_cons d.digits
  have hnorm := d.normal
  unfold decRepr
  simp only [hcons]
  split
  next hpos =>
    split
    next hle =>
      exact floatText_leading hcons (by simp only [List.length_cons] at hle ⊢; omega)
    next hgt =>
      split
      next hin =>
        simp only [List.length_cons] at hin hgt ⊢
        obtain ⟨k, hk⟩ : ∃ k : Nat, ((cs.length + 1 : Nat) + d.exp).toNat = k + 1 :=
          ⟨((cs.length + 1 : Nat) + d.exp).toNat - 1, by omega⟩
        rw [hk]
        exact floatText_inner hcons (by omega) (by omega)
      next hout =>
        exact floatText_trailing hcons (by simp only [List.length_cons] at hout ⊢; omega)
  next hsci => exact floatText_scientific hcons

/-- A signed number is read after its sign. -/
private theorem parseNumber_signed {neg : Bool} {c : CodePoint} {s : PyStr}
    (hc : isDigit c = true) :
    parseNumber (signText neg ++ c :: s) = parseUnsigned neg (c :: s) := by
  cases neg with
  | true => rfl
  | false =>
    have h : c ≠ cp '-' := by
      rintro rfl
      exact absurd hc (by decide)
    show parseNumber (c :: s) = _
    rw [parseNumber, if_neg h]

/-- An integer reads back from its text. -/
private theorem parseNumber_intText {z : Int} {t rest : PyStr} (ht : intText z = some t)
    (h : NumEnd rest) : parseNumber (t ++ rest) = .ok (.int z, rest) := by
  obtain ⟨c, cs, hcons, hnz, hzero⟩ := decDigits_eq_cons z.natAbs
  have hall := decDigits_isDigit z.natAbs
  have hval := digitsVal_decDigits z.natAbs
  have hlead : c ≠ digitChar 0 ∨ cs = [] := by
    by_cases h0 : z.natAbs = 0
    · exact Or.inr (hzero h0)
    · exact Or.inl (hnz h0)
  unfold intText at ht
  rw [hcons] at hall hval ht
  simp only at ht
  split at ht
  next hlen =>
    obtain rfl := Option.some.inj ht
    have hparse := parseUnsigned_text (decide (z < 0)) [] none hall hlead
      (fun x hx => absurd hx List.not_mem_nil) h
    rw [if_pos ⟨rfl, rfl⟩, if_pos hlen, hval] at hparse
    have hsigned : signed (decide (z < 0)) z.natAbs = z := by
      unfold signed
      split
      next hneg => have := of_decide_eq_true hneg; omega
      next hneg => have := of_decide_eq_false (Bool.eq_false_iff.mpr hneg); omega
    rw [hsigned] at hparse
    rw [List.append_assoc, List.cons_append, parseNumber_signed (hall c List.mem_cons_self)]
    exact hparse
  next => exact absurd ht (by simp)

private theorem parseNumber_decRepr (neg : Bool) (d : Dec) {rest : PyStr} (h : NumEnd rest) :
    parseNumber (signText neg ++ decRepr d ++ rest) = .ok (.float (.finite neg d), rest) := by
  obtain ⟨c, ds, fp, e, htext, hall, hz, hfp, hne, hd⟩ := decRepr_text d
  have hparse := parseUnsigned_text neg fp e hall hz hfp h
  rw [if_neg hne, hd] at hparse
  rw [htext]
  simp only [List.append_assoc, List.cons_append] at hparse ⊢
  rw [parseNumber_signed (hall c List.mem_cons_self)]
  exact hparse

/-! ## Round trip: values -/

private theorem parseWord_none {s : PyStr} {ws : List (PyStr × Json)}
    (h : ∀ e ∈ ws, e.1.isPrefixOf s = false) : parseWord s ws = none := by
  induction ws with
  | nil => rfl
  | cons e ws ih =>
    obtain ⟨word, v⟩ := e
    have hword : afterWord word s = none := by
      unfold afterWord
      rw [h (word, v) List.mem_cons_self]
      rfl
    rw [parseWord, hword]
    exact ih fun e he => h e (List.mem_cons_of_mem _ he)

/-- Every literal word starts, after at most a sign, with a letter. -/
private theorem words_head : ∀ e ∈ words,
    e.1.head?.map isDigit = some false ∧
      (e.1.head? = some (cp '-') → e.1.tail.head?.map isDigit = some false) := by
  decide

/-- A number is no literal word. -/
private theorem parseWord_signed (neg : Bool) {c : CodePoint} (s : PyStr) (hc : isDigit c = true) :
    parseWord (signText neg ++ c :: s) words = none := by
  -- No word starts with a digit.
  have hdigit : ∀ w : PyStr, w.head?.map isDigit = some false → w.isPrefixOf (c :: s) = false := by
    intro w hw
    cases w with
    | nil => exact absurd hw (by simp)
    | cons x w =>
      have hx : isDigit x = false := by simpa using hw
      have hne : (x == c) = false := by
        rw [beq_eq_false_iff_ne]
        rintro rfl
        rw [hx] at hc
        exact absurd hc (by decide)
      simp [List.isPrefixOf, hne]
  apply parseWord_none
  intro e he
  obtain ⟨h₁, h₂⟩ := words_head e he
  cases neg with
  | false => exact hdigit e.1 h₁
  -- A sign: the words that have one go on with a letter.
  | true =>
    show e.1.isPrefixOf (cp '-' :: c :: s) = false
    cases hw : e.1 with
    | nil =>
      rw [hw] at h₁
      exact absurd h₁ (by simp)
    | cons x w =>
      by_cases hx : x = cp '-'
      · rw [hw] at h₂
        have := hdigit w (h₂ (by rw [hx]; rfl))
        simp [List.isPrefixOf, this]
      · have hne : (x == cp '-') = false := by simpa using hx
        simp [List.isPrefixOf, hne]

/-- Nothing is skipped before a character that is no space. -/
private theorem skipSpace_cons {c : CodePoint} {s : PyStr} (h : isJsonSpace c = false) :
    skipSpace (c :: s) = c :: s := by
  simp [skipSpace, h]

private theorem dictSet_of_not_mem {k : PyStr} {v : Json} {kvs : List (PyStr × Json)}
    (h : k ∉ dictKeys kvs) : dictSet k v kvs = kvs ++ [(k, v)] := by
  induction kvs with
  | nil => rfl
  | cons e kvs ih =>
    obtain ⟨k', v'⟩ := e
    simp only [dictKeys, List.map_cons, List.mem_cons, not_or] at h
    rw [dictSet, if_neg fun he => h.1 he.symm, ih h.2]
    rfl

/-- Distinct keys are all kept, in order. -/
theorem dictUpdate_of_nodup {acc kvs : List (PyStr × Json)}
    (h : (dictKeys (acc ++ kvs)).Nodup) : dictUpdate acc kvs = acc ++ kvs := by
  induction kvs generalizing acc with
  | nil => simp [dictUpdate]
  | cons e kvs ih =>
    obtain ⟨k, v⟩ := e
    have hk : k ∉ dictKeys acc := by
      intro hm
      unfold dictKeys at h hm
      rw [List.map_append, List.nodup_append] at h
      exact h.2.2 k hm k (by simp) rfl
    show dictUpdate (dictSet k v acc) kvs = _
    rw [dictSet_of_not_mem hk, ih]
    · simp
    · simpa using h

/-- The first code point of a printed value opens no gap and closes no bracket. -/
private theorem render_head {v : Json} {t : PyStr} (ht : v.render = some t) :
    ∃ c r, t = c :: r ∧ isJsonSpace c = false ∧ c ≠ cp ']' ∧ c ≠ cp '}' ∧ c.val < 128 := by
  -- A sign or a digit starts no other kind of value.
  have hsign : ∀ (neg : Bool) (c : CodePoint) (s : PyStr), isDigit c = true →
      ∃ c' r, signText neg ++ c :: s = c' :: r ∧ isJsonSpace c' = false ∧ c' ≠ cp ']' ∧
        c' ≠ cp '}' ∧ c'.val < 128 := by
    intro neg c s hc
    cases neg with
    | true => exact ⟨cp '-', c :: s, rfl, by decide, by decide, by decide, by decide⟩
    | false =>
      simp only [isDigit, Bool.and_eq_true, decide_eq_true_eq] at hc
      refine ⟨c, s, rfl, ?_, ?_, ?_, by omega⟩
      · simp only [isJsonSpace, Bool.or_eq_false_iff, beq_eq_false_iff_ne]
        omega
      · rintro rfl
        exact absurd hc (by decide)
      · rintro rfl
        exact absurd hc (by decide)
  match v with
  | .null =>
    obtain rfl := Option.some.inj ht
    exact ⟨_, _, rfl, by decide, by decide, by decide, by decide⟩
  | .bool true =>
    obtain rfl := Option.some.inj ht
    exact ⟨_, _, rfl, by decide, by decide, by decide, by decide⟩
  | .bool false =>
    obtain rfl := Option.some.inj ht
    exact ⟨_, _, rfl, by decide, by decide, by decide, by decide⟩
  | .int z =>
    simp only [Json.render, intText] at ht
    split at ht
    next =>
      obtain rfl := Option.some.inj ht
      obtain ⟨c, cs, hcons, _⟩ := decDigits_eq_cons z.natAbs
      have hc := decDigits_isDigit z.natAbs c (by rw [hcons]; exact List.mem_cons_self)
      rw [hcons]
      exact hsign _ c cs hc
    next => exact absurd ht (by simp)
  | .float .nan =>
    obtain rfl := Option.some.inj ht
    exact ⟨_, _, rfl, by decide, by decide, by decide, by decide⟩
  | .float (.inf true) =>
    obtain rfl := Option.some.inj ht
    exact ⟨_, _, rfl, by decide, by decide, by decide, by decide⟩
  | .float (.inf false) =>
    obtain rfl := Option.some.inj ht
    exact ⟨_, _, rfl, by decide, by decide, by decide, by decide⟩
  | .float (.finite neg d) =>
    obtain rfl := Option.some.inj ht
    obtain ⟨c, ds, fp, e, htext, hall, _⟩ := decRepr_text d
    show ∃ c r, signText neg ++ decRepr d = c :: r ∧ _
    rw [htext]
    exact hsign neg c _ (hall c List.mem_cons_self)
  | .str s =>
    obtain rfl := Option.some.inj ht
    exact ⟨_, _, rfl, by decide, by decide, by decide, by decide⟩
  | .arr [] =>
    obtain rfl := Option.some.inj ht
    exact ⟨_, _, rfl, by decide, by decide, by decide, by decide⟩
  | .arr (x :: xs) =>
    simp only [Json.render, Option.bind_eq_some_iff, Option.map_eq_some_iff] at ht
    obtain ⟨_, _, _, _, rfl⟩ := ht
    exact ⟨_, _, rfl, by decide, by decide, by decide, by decide⟩
  | .obj [] =>
    obtain rfl := Option.some.inj ht
    exact ⟨_, _, rfl, by decide, by decide, by decide, by decide⟩
  | .obj ((k, w) :: kvs) =>
    simp only [Json.render, Option.bind_eq_some_iff, Option.map_eq_some_iff] at ht
    obtain ⟨_, _, _, _, rfl⟩ := ht
    exact ⟨_, _, rfl, by decide, by decide, by decide, by decide⟩

private theorem parseKey_strText (k : PyStr) {t : PyStr} (h : skipSpace t = t) :
    parseKey (strText k ++ cp ':' :: t) = some (k, t) := by
  have htext : strText k ++ cp ':' :: t
      = cp '"' :: (k.flatMap escapeChar ++ cp '"' :: (cp ':' :: t)) := by
    simp only [strText, List.append_assoc]
    rfl
  rw [htext, parseKey, if_pos rfl, parseString_strText]
  simp only [Option.bind_some, skipSpace_cons (show isJsonSpace (cp ':') = false by decide),
    if_true, h]

private theorem skipSpace_render {v : Json} {t : PyStr} (rest : PyStr) (ht : v.render = some t) :
    skipSpace (t ++ rest) = t ++ rest := by
  obtain ⟨c, r, rfl, hsp, _⟩ := render_head ht
  exact skipSpace_cons hsp

private theorem numEnd_cons {c : CodePoint} {s : PyStr}
    (h : isDigit c = false ∧ c ≠ cp '.' ∧ c ≠ cp 'e' ∧ c ≠ cp 'E') : NumEnd (c :: s) := by
  intro c' r heq
  obtain ⟨rfl, _⟩ := List.cons.inj heq
  exact h

private theorem numEnd_renderElems {xs : List Json} {ts : PyStr} (rest : PyStr)
    (h : Json.renderElems xs = some ts) : NumEnd (ts ++ rest) := by
  cases xs with
  | nil =>
    obtain rfl := Option.some.inj h
    exact numEnd_cons (by decide)
  | cons x xs =>
    simp only [Json.renderElems, Option.bind_eq_some_iff, Option.map_eq_some_iff] at h
    obtain ⟨_, _, _, _, rfl⟩ := h
    exact numEnd_cons (by decide)

private theorem numEnd_renderMembers {kvs : List (PyStr × Json)} {ts : PyStr} (rest : PyStr)
    (h : Json.renderMembers kvs = some ts) : NumEnd (ts ++ rest) := by
  cases kvs with
  | nil =>
    obtain rfl := Option.some.inj h
    exact numEnd_cons (by decide)
  | cons e kvs =>
    obtain ⟨k, v⟩ := e
    simp only [Json.renderMembers, Option.bind_eq_some_iff, Option.map_eq_some_iff] at h
    obtain ⟨_, _, _, _, rfl⟩ := h
    exact numEnd_cons (by decide)

/-- Without a limit every nesting is entered. -/
private theorem enter_none {α : Type} (f : Option Nat → Except DecodeError α) :
    (enter none >>= f) = f none := rfl

/-- A word or a number is read when no bracket or quote opens it. -/
private theorem parseValue_scalar {fuel : Nat} {c : CodePoint} {r : PyStr}
    (h : c ≠ cp '"' ∧ c ≠ cp '[' ∧ c ≠ cp '{') :
    parseValue none (fuel + 1) (c :: r) =
      match parseWord (c :: r) words with
      | some p => .ok p
      | none => parseNumber (c :: r) := by
  rw [parseValue]
  simp only [if_neg h.1, if_neg h.2.1, if_neg h.2.2]

private theorem parseValue_number {fuel : Nat} {neg : Bool} {c : CodePoint} {s : PyStr}
    (hc : isDigit c = true) :
    parseValue none (fuel + 1) (signText neg ++ c :: s) = parseNumber (signText neg ++ c :: s) := by
  have hword := parseWord_signed neg s hc
  have hne : ∀ x : Char, isDigit (cp x) = false → c ≠ cp x := by
    rintro x hx rfl
    rw [hx] at hc
    exact absurd hc (by decide)
  cases neg with
  | true =>
    show parseValue none (fuel + 1) (cp '-' :: c :: s) = _
    rw [parseValue_scalar ⟨by decide, by decide, by decide⟩]
    show (match parseWord (signText true ++ c :: s) words with
      | some p => Except.ok p
      | none => parseNumber (signText true ++ c :: s)) = _
    rw [hword]
  | false =>
    show parseValue none (fuel + 1) (c :: s) = _
    rw [parseValue_scalar ⟨hne '"' (by decide), hne '[' (by decide), hne '{' (by decide)⟩]
    show (match parseWord (signText false ++ c :: s) words with
      | some p => Except.ok p
      | none => parseNumber (signText false ++ c :: s)) = _
    rw [hword]

mutual

/-- A printed value is read back, and what follows it is left. -/
private theorem parseValue_render : ∀ (v : Json) (fuel : Nat) (rest : PyStr) {t : PyStr}, v.WF →
    v.render = some t → t.length ≤ fuel → NumEnd rest →
    parseValue none fuel (t ++ rest) = .ok (v, rest)
  | .null, fuel, rest, t, _, ht, hfuel, _ => by
    obtain rfl := Option.some.inj ht
    obtain ⟨fuel, rfl⟩ := Nat.exists_eq_add_of_le' (Nat.le_trans (by decide : 1 ≤ 4) hfuel)
    rfl
  | .bool true, fuel, rest, t, _, ht, hfuel, _ => by
    obtain rfl := Option.some.inj ht
    obtain ⟨fuel, rfl⟩ := Nat.exists_eq_add_of_le' (Nat.le_trans (by decide : 1 ≤ 4) hfuel)
    rfl
  | .bool false, fuel, rest, t, _, ht, hfuel, _ => by
    obtain rfl := Option.some.inj ht
    obtain ⟨fuel, rfl⟩ := Nat.exists_eq_add_of_le' (Nat.le_trans (by decide : 1 ≤ 5) hfuel)
    rfl
  | .float .nan, fuel, rest, t, _, ht, hfuel, _ => by
    obtain rfl := Option.some.inj ht
    obtain ⟨fuel, rfl⟩ := Nat.exists_eq_add_of_le' (Nat.le_trans (by decide : 1 ≤ 3) hfuel)
    rfl
  | .float (.inf true), fuel, rest, t, _, ht, hfuel, _ => by
    obtain rfl := Option.some.inj ht
    obtain ⟨fuel, rfl⟩ := Nat.exists_eq_add_of_le' (Nat.le_trans (by decide : 1 ≤ 9) hfuel)
    rfl
  | .float (.inf false), fuel, rest, t, _, ht, hfuel, _ => by
    obtain rfl := Option.some.inj ht
    obtain ⟨fuel, rfl⟩ := Nat.exists_eq_add_of_le' (Nat.le_trans (by decide : 1 ≤ 8) hfuel)
    rfl
  | .int z, fuel, rest, t, _, ht, hfuel, hrest => by
    have hparse := parseNumber_intText (z := z) ht hrest
    simp only [Json.render, intText] at ht
    split at ht
    next =>
      obtain rfl := Option.some.inj ht
      obtain ⟨c, cs, hcons, _⟩ := decDigits_eq_cons z.natAbs
      have hc := decDigits_isDigit z.natAbs c (by rw [hcons]; exact List.mem_cons_self)
      rw [hcons] at hparse hfuel ⊢
      rw [List.length_append, List.length_cons] at hfuel
      obtain ⟨fuel, rfl⟩ := Nat.exists_eq_add_of_le' (show 1 ≤ fuel by omega)
      rw [List.append_assoc, List.cons_append] at hparse ⊢
      rw [parseValue_number hc]
      exact hparse
    next => exact absurd ht (by simp)
  | .float (.finite neg d), fuel, rest, t, _, ht, hfuel, hrest => by
    obtain rfl := Option.some.inj ht
    have hparse := parseNumber_decRepr neg d hrest
    obtain ⟨c, ds, fp, e, htext, hall, _⟩ := decRepr_text d
    simp only [floatText] at hfuel ⊢
    rw [htext] at hparse hfuel ⊢
    rw [List.length_append, List.cons_append, List.length_cons] at hfuel
    obtain ⟨fuel, rfl⟩ := Nat.exists_eq_add_of_le' (show 1 ≤ fuel by omega)
    simp only [List.append_assoc, List.cons_append] at hparse ⊢
    rw [parseValue_number (hall c List.mem_cons_self)]
    exact hparse
  | .str s, fuel, rest, t, _, ht, hfuel, _ => by
    obtain rfl := Option.some.inj ht
    have htext : strText s ++ rest = cp '"' :: (s.flatMap escapeChar ++ cp '"' :: rest) := by
      simp only [strText, List.append_assoc]
      rfl
    have hlen : 1 ≤ fuel := by
      simp only [strText, List.length_append, show (py "\"").length = 1 from rfl] at hfuel
      omega
    obtain ⟨fuel, rfl⟩ := Nat.exists_eq_add_of_le' hlen
    rw [htext, parseValue]
    simp only [if_true, parseString_strText]
  -- An empty list, an empty object, and those with a first element.
  | .arr [], fuel, rest, t, _, ht, hfuel, _ => by
    obtain rfl := Option.some.inj ht
    obtain ⟨fuel, rfl⟩ := Nat.exists_eq_add_of_le' (Nat.le_trans (by decide : 1 ≤ 2) hfuel)
    rfl
  | .obj [], fuel, rest, t, _, ht, hfuel, _ => by
    obtain rfl := Option.some.inj ht
    obtain ⟨fuel, rfl⟩ := Nat.exists_eq_add_of_le' (Nat.le_trans (by decide : 1 ≤ 2) hfuel)
    rfl
  | .arr (x :: xs), fuel, rest, t, hwf, ht, hfuel, _ => by
    simp only [Json.render, Option.bind_eq_some_iff, Option.map_eq_some_iff] at ht
    obtain ⟨t₁, ht₁, ts, hts, rfl⟩ := ht
    simp only [List.length_append, show (py "[").length = 1 from rfl] at hfuel
    obtain ⟨fuel, rfl⟩ := Nat.exists_eq_add_of_le' (show 1 ≤ fuel by omega)
    have hx := parseValue_render x fuel _ hwf.1 ht₁ (by omega)
      (numEnd_renderElems rest hts)
    have hxs := parseElems_render xs fuel rest hwf.2 hts (by omega)
    have hskip := skipSpace_render (ts ++ rest) ht₁
    obtain ⟨c, r, rfl, _, hc, _⟩ := render_head ht₁
    show parseValue none (fuel + 1) (cp '[' :: (c :: r ++ ts ++ rest)) = _
    rw [List.append_assoc, parseValue]
    simp only [if_neg (show cp '[' ≠ cp '"' by decide), if_true, enter_none, hskip]
    show (if c = cp ']' then _ else _) = _
    rw [if_neg hc]
    show (do let (x, r₁) ← parseValue none fuel (c :: r ++ (ts ++ rest)); _) = _
    rw [hx]
    show (do let (xs, r₂) ← parseElems none fuel (ts ++ rest); _) = _
    rw [hxs]
    rfl
  -- A key is read up to its colon, then its value, then the other members.
  | .obj ((k, v) :: kvs), fuel, rest, t, hwf, ht, hfuel, _ => by
    simp only [Json.render, Option.bind_eq_some_iff, Option.map_eq_some_iff] at ht
    obtain ⟨t₁, ht₁, ts, hts, rfl⟩ := ht
    simp only [List.length_append, show (py "\x7b").length = 1 from rfl] at hfuel
    obtain ⟨fuel, rfl⟩ := Nat.exists_eq_add_of_le' (show 1 ≤ fuel by omega)
    have hv := parseValue_render v fuel _ hwf.2.1 ht₁ (by omega)
      (numEnd_renderMembers rest hts)
    have hkvs := parseMembers_render kvs fuel rest hwf.2.2 hts (by omega)
    have hkey := parseKey_strText k (skipSpace_render (ts ++ rest) ht₁)
    have hdict : dictUpdate [] ((k, v) :: kvs) = (k, v) :: kvs := dictUpdate_of_nodup hwf.1
    have htext : py "\x7b" ++ strText k ++ py ":" ++ t₁ ++ ts ++ rest
        = cp '{' :: (strText k ++ cp ':' :: (t₁ ++ (ts ++ rest))) := by
      simp only [List.append_assoc]
      rfl
    rw [htext, parseValue]
    simp only [if_neg (show cp '{' ≠ cp '"' by decide), if_neg (show cp '{' ≠ cp '[' by decide),
      if_true]
    have hopen : skipSpace (strText k ++ cp ':' :: (t₁ ++ (ts ++ rest)))
        = cp '"' :: (k.flatMap escapeChar ++ py "\"" ++ cp ':' :: (t₁ ++ (ts ++ rest))) :=
      skipSpace_cons (by decide)
    rw [enter_none, hopen]
    show (if cp '"' = cp '}' then _ else _) = _
    rw [if_neg (by decide)]
    show (match parseKey (strText k ++ cp ':' :: (t₁ ++ (ts ++ rest))) with
      | none => _
      | some (k, r₀) => _) = _
    rw [hkey]
    show (do let (v, r₁) ← parseValue none fuel (t₁ ++ (ts ++ rest)); _) = _
    rw [hv]
    show (do let (kvs, r₂) ← parseMembers none fuel (ts ++ rest); _) = _
    rw [hkvs]
    show Except.ok (Json.obj (dictUpdate [] ((k, v) :: kvs)), rest) = _
    rw [hdict]

private theorem parseElems_render : ∀ (xs : List Json) (fuel : Nat) (rest : PyStr) {ts : PyStr},
    Json.AllWF xs → Json.renderElems xs = some ts → ts.length ≤ fuel →
    parseElems none fuel (ts ++ rest) = .ok (xs, rest)
  | [], fuel, rest, ts, _, ht, hfuel => by
    obtain rfl := Option.some.inj ht
    obtain ⟨fuel, rfl⟩ := Nat.exists_eq_add_of_le' hfuel
    rfl
  | x :: xs, fuel, rest, ts, hwf, ht, hfuel => by
    simp only [Json.renderElems, Option.bind_eq_some_iff, Option.map_eq_some_iff] at ht
    obtain ⟨t₁, ht₁, ts, hts, rfl⟩ := ht
    simp only [List.length_append, show (py ",").length = 1 from rfl] at hfuel
    obtain ⟨fuel, rfl⟩ := Nat.exists_eq_add_of_le' (show 1 ≤ fuel by omega)
    have hx := parseValue_render x fuel _ hwf.1 ht₁ (by omega)
      (numEnd_renderElems rest hts)
    have hxs := parseElems_render xs fuel rest hwf.2 hts (by omega)
    have htext : py "," ++ t₁ ++ ts ++ rest = cp ',' :: (t₁ ++ (ts ++ rest)) := by
      simp only [List.append_assoc]
      rfl
    rw [htext, parseElems, skipSpace_cons (by decide)]
    simp only [if_neg (show cp ',' ≠ cp ']' by decide), if_true, skipSpace_render _ ht₁, hx]
    show (do let (xs, r₂) ← parseElems none fuel (ts ++ rest); _) = _
    rw [hxs]
    rfl

private theorem parseMembers_render :
    ∀ (kvs : List (PyStr × Json)) (fuel : Nat) (rest : PyStr) {ts : PyStr},
    Json.MembersWF kvs → Json.renderMembers kvs = some ts → ts.length ≤ fuel →
    parseMembers none fuel (ts ++ rest) = .ok (kvs, rest)
  | [], fuel, rest, ts, _, ht, hfuel => by
    obtain rfl := Option.some.inj ht
    obtain ⟨fuel, rfl⟩ := Nat.exists_eq_add_of_le' hfuel
    rfl
  | (k, v) :: kvs, fuel, rest, ts, hwf, ht, hfuel => by
    simp only [Json.renderMembers, Option.bind_eq_some_iff, Option.map_eq_some_iff] at ht
    obtain ⟨t₁, ht₁, ts, hts, rfl⟩ := ht
    simp only [List.length_append, show (py ",").length = 1 from rfl] at hfuel
    obtain ⟨fuel, rfl⟩ := Nat.exists_eq_add_of_le' (show 1 ≤ fuel by omega)
    have hv := parseValue_render v fuel _ hwf.1 ht₁ (by omega)
      (numEnd_renderMembers rest hts)
    have hkvs := parseMembers_render kvs fuel rest hwf.2 hts (by omega)
    have hkey := parseKey_strText k (skipSpace_render (ts ++ rest) ht₁)
    have htext : py "," ++ strText k ++ py ":" ++ t₁ ++ ts ++ rest
        = cp ',' :: (strText k ++ cp ':' :: (t₁ ++ (ts ++ rest))) := by
      simp only [List.append_assoc]
      rfl
    have hskip : skipSpace (strText k ++ cp ':' :: (t₁ ++ (ts ++ rest)))
        = strText k ++ cp ':' :: (t₁ ++ (ts ++ rest)) := skipSpace_cons (by decide)
    rw [htext, parseMembers, skipSpace_cons (by decide)]
    simp only [if_neg (show cp ',' ≠ cp '}' by decide), if_true, hskip, hkey, hv]
    show (do let (kvs, r₂) ← parseMembers none fuel (ts ++ rest); _) = _
    rw [hkvs]
    rfl

end

/-- What `render` prints, `decode` reads back. -/
theorem decode_render {v : Json} {t : PyStr} (hwf : v.WF) (ht : v.render = some t) :
    decode t = .ok v := by
  have hparse := parseValue_render v (t.length + 1) [] hwf ht (by omega)
    (by intro c r h; cases h)
  have hskip := skipSpace_render [] ht
  rw [List.append_nil] at hparse hskip
  obtain ⟨c, r, rfl, _, _, _, hc⟩ := render_head ht
  unfold decode decodeWithin
  rw [if_neg, hskip, hparse]
  · rfl
  · intro h
    have hv := congrArg Fin.val (Option.some.inj h)
    rw [show (Fin.ofNat 0x110000 0xFEFF).val = 0xFEFF from rfl] at hv
    omega

/-- What `json.dumps` writes, `json.loads` reads back, with the keys in order. -/
theorem decode_dumps {v : Json} {t : PyStr} (hwf : v.WF) (ht : v.dumps = some t) :
    decode t = .ok v.sortKeys :=
  decode_render hwf.sortKeys ht

end Lib
