import Mathlib.Algebra.GroupWithZero.Nat
import Mathlib.Data.List.DropRight
import Mathlib.Data.List.Basic

/-!
# Text as a list of code points

A Python `str` is a sequence of code points, lone surrogates included: a JSON
escape such as `\ud800` produces one. Such a text can be compared, cut and
searched, but it has no UTF-8 encoding, and that difference is observable (the
encoder raises). So `PyStr` is a list of code points below `0x110000`, with
`encodeUtf8` partial.

The operations are the ones of `str` that depend on no Unicode table beyond the
white-space property: `strip`, `split()`, `join`, `replace`, slicing by `take`.
-/

namespace Lib

/-- A Unicode code point; surrogates are code points. -/
abbrev CodePoint := Fin 0x110000

/-- A Python `str`. -/
abbrev PyStr := List CodePoint

instance neZeroCodePoints : NeZero 0x110000 := ⟨by decide⟩

instance : LawfulBEq PyStr := inferInstance

/-- The code point of a character. -/
def cp (c : Char) : CodePoint :=
  ⟨c.toNat, by
    have h : c.toNat < 0xD800 ∨ (0xDFFF < c.toNat ∧ c.toNat < 0x110000) := c.valid
    omega⟩

/-- A string literal as a `PyStr`. -/
def py (s : String) : PyStr := s.toList.map cp

/-! ## White space -/

/-- `str.isspace` of one code point. -/
def isSpace (c : CodePoint) : Bool :=
  (9 ≤ c.val && c.val ≤ 13) || (28 ≤ c.val && c.val ≤ 32) || c.val == 133 || c.val == 160 ||
    c.val == 5760 || (8192 ≤ c.val && c.val ≤ 8202) || c.val == 8232 || c.val == 8233 ||
    c.val == 8239 || c.val == 8287 || c.val == 12288

/-- `str.strip()`. -/
def strip (s : PyStr) : PyStr := (s.dropWhile isSpace).rdropWhile isSpace

/-- The words of `str.split()`; `word` holds the current one, reversed. -/
def splitWordsFrom : PyStr → PyStr → List PyStr
  | word, [] => if word.isEmpty then [] else [word.reverse]
  | word, c :: cs =>
    if isSpace c then
      if word.isEmpty then splitWordsFrom [] cs else word.reverse :: splitWordsFrom [] cs
    else splitWordsFrom (c :: word) cs

/-- `str.split()`. -/
def splitWords (s : PyStr) : List PyStr := splitWordsFrom [] s

/-- `sep.join(parts)`. -/
def joinWith (sep : PyStr) (parts : List PyStr) : PyStr := List.intercalate sep parts

/-- `str.replace` with the number of code points of the current match still to skip. -/
def replaceFrom (old new : PyStr) : Nat → PyStr → PyStr
  | _, [] => []
  | skip + 1, _ :: cs => replaceFrom old new skip cs
  | 0, c :: cs =>
    if old.isPrefixOf (c :: cs) then new ++ replaceFrom old new (old.length - 1) cs
    else c :: replaceFrom old new 0 cs

/-- `s.replace(old, new)` for a non-empty `old`. -/
def replaceAll (old new s : PyStr) : PyStr := replaceFrom old new 0 s

/-! ## UTF-8 -/

/-- A surrogate has no UTF-8 encoding. -/
def isSurrogate (c : CodePoint) : Bool := 0xD800 ≤ c.val && c.val ≤ 0xDFFF

/-- The UTF-8 bytes of one code point. -/
def utf8Char (c : CodePoint) : Option (List UInt8) :=
  let n := c.val
  if n < 0x80 then some [UInt8.ofNat n]
  else if n < 0x800 then
    some [UInt8.ofNat (0xC0 + n / 64), UInt8.ofNat (0x80 + n % 64)]
  else if isSurrogate c then none
  else if n < 0x10000 then
    some [UInt8.ofNat (0xE0 + n / 4096), UInt8.ofNat (0x80 + n / 64 % 64),
      UInt8.ofNat (0x80 + n % 64)]
  else
    some [UInt8.ofNat (0xF0 + n / 262144), UInt8.ofNat (0x80 + n / 4096 % 64),
      UInt8.ofNat (0x80 + n / 64 % 64), UInt8.ofNat (0x80 + n % 64)]

/-- `s.encode("utf-8")`; `none` is `UnicodeEncodeError`. -/
def encodeUtf8 : PyStr → Option (List UInt8)
  | [] => some []
  | c :: cs => (utf8Char c).bind fun b => (encodeUtf8 cs).map fun bs => b ++ bs

/-- A continuation byte's six bits. -/
def utf8Tail (b : UInt8) : Option Nat :=
  if 0x80 ≤ b.toNat ∧ b.toNat < 0xC0 then some (b.toNat - 0x80) else none

/-- A decoded code point, when it is in range, not a surrogate and not overlong. -/
def utf8Point (least n : Nat) : Option CodePoint :=
  if h : n < 0x110000 then
    if least ≤ n ∧ isSurrogate ⟨n, h⟩ = false then some ⟨n, h⟩ else none
  else none

/-- `b.decode("utf-8")`; `none` is `UnicodeDecodeError`. -/
def decodeUtf8 : List UInt8 → Option PyStr
  | [] => some []
  | a :: rest =>
    if a.toNat < 0x80 then do
      let c ← utf8Point 0 a.toNat
      return c :: (← decodeUtf8 rest)
    else if a.toNat < 0xC0 then none
    else if a.toNat < 0xE0 then
      match rest with
      | b :: rest => do
        let x ← utf8Tail b
        let c ← utf8Point 0x80 ((a.toNat - 0xC0) * 64 + x)
        return c :: (← decodeUtf8 rest)
      | _ => none
    else if a.toNat < 0xF0 then
      match rest with
      | b :: c :: rest => do
        let x ← utf8Tail b
        let y ← utf8Tail c
        let p ← utf8Point 0x800 ((a.toNat - 0xE0) * 4096 + x * 64 + y)
        return p :: (← decodeUtf8 rest)
      | _ => none
    else if a.toNat < 0xF8 then
      match rest with
      | b :: c :: d :: rest => do
        let x ← utf8Tail b
        let y ← utf8Tail c
        let z ← utf8Tail d
        let p ← utf8Point 0x10000 ((a.toNat - 0xF0) * 262144 + x * 4096 + y * 64 + z)
        return p :: (← decodeUtf8 rest)
      | _ => none
    else none

/-! ## What has an encoding -/

end Lib
