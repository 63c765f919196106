import SetuoraLite.Lib.Calendar
import SetuoraLite.Lib.JsonDecode

/-!
# Python's view of a JSON value

Truth, `str()`, `==` with an integer and the ordering of floats, on the values
that `json.loads` can produce.

`Runtime` collects the functions of CPython and SQLite whose tables or rounding
the development does not reproduce. Nothing is assumed of them, so a theorem that
takes a `Runtime` holds of the real one.
-/

namespace Lib

/-- Functions of the interpreter that are left open. -/
structure Runtime where
  /-- `str(value)` of a list or a dict. -/
  containerText : Json → PyStr
  /-- `str.casefold()`. -/
  casefold : PyStr → PyStr
  /-- `str.lower()`. -/
  lower : PyStr → PyStr
  /-- `str(UUID(text))`; `none` is its `ValueError`. -/
  uuidOfText : PyStr → Option PyStr
  /-- `int(text)`; `none` is its `ValueError`. -/
  intOfText : PyStr → Option Int
  /-- `float(text)`; `none` is its `ValueError`. -/
  floatOfText : PyStr → Option PyFloat
  /-- `float(n)`; `none` is its `OverflowError`. -/
  floatOfInt : Int → Option PyFloat
  /-- `a - b` on floats. -/
  floatSub : PyFloat → PyFloat → PyFloat
  /-- `date.fromisoformat(text)`; `none` is its `ValueError`. -/
  dateOfText : PyStr → Option Date
  /-- `datetime.fromisoformat(text)`; `none` is its `ValueError`. -/
  instantOfText : PyStr → Option Instant
  /-- The text SQLite stores for a float in a text column. -/
  sqliteReal : PyFloat → PyStr
  /-- How many containers `json.loads` opens inside each other before its `RecursionError`. -/
  jsonLevels : Nat

/-! ## Texts -/

/-- `str(z)`. -/
def intStr (z : Int) : PyStr := signText (decide (z < 0)) ++ decDigits z.natAbs

/-- `str(f)`. -/
def floatStr : PyFloat → PyStr
  | .nan => py "nan"
  | .inf neg => signText neg ++ py "inf"
  | .finite neg d => signText neg ++ decRepr d

/-- `str(value)`. -/
def Json.pyStr (rt : Runtime) : Json → PyStr
  | .null => py "None"
  | .bool true => py "True"
  | .bool false => py "False"
  | .int z => intStr z
  | .float f => floatStr f
  | .str s => s
  | v => rt.containerText v

/-- `bool(value)`. -/
def Json.truthy : Json → Bool
  | .null => false
  | .bool b => b
  | .int z => z ≠ 0
  | .float (.finite _ d) => d.digits ≠ 0
  | .float _ => true
  | .str s => !s.isEmpty
  | .arr xs => !xs.isEmpty
  | .obj kvs => !kvs.isEmpty

/-- `d.get(k)`: `None` when the key is missing. -/
def getItem (kvs : List (PyStr × Json)) (k : PyStr) : Json := (dictGet k kvs).getD .null

/-- `a or b`. -/
def Json.orElse (a b : Json) : Json := if a.truthy then a else b

/-- `str(value or "")`. -/
def Json.textOrEmpty (rt : Runtime) (v : Json) : PyStr := if v.truthy then v.pyStr rt else []

/-! ## Numbers -/

/-- The value of an `int`; a `bool` is one. -/
def Json.asInt? : Json → Option Int
  | .int z => some z
  | .bool b => some (if b then 1 else 0)
  | _ => none

/-- `value == n` for an integer `n`. -/
def Json.eqInt (v : Json) (n : Int) : Bool :=
  match v with
  | .float (.finite neg d) => 0 ≤ d.exp && signed neg (d.digits * 10 ^ d.exp.toNat) == n
  | v => v.asInt? == some n

/-- Why a conversion to a number raised: `TypeError` or `ValueError`, or `OverflowError`. -/
inductive NumberError
  | invalid | overflow
deriving DecidableEq

/-- `int(value)`; a float is truncated. -/
def Json.toInt (rt : Runtime) : Json → Except NumberError Int
  | .int z => .ok z
  | .bool b => .ok (if b then 1 else 0)
  | .float (.finite neg d) => .ok (signed neg
      (if 0 ≤ d.exp then d.digits * 10 ^ d.exp.toNat else d.digits / 10 ^ (-d.exp).toNat))
  | .float .nan => .error .invalid
  | .float (.inf _) => .error .overflow
  | .str s => (rt.intOfText s).elim (.error .invalid) .ok
  | _ => .error .invalid

/-- `float(value)`. -/
def Json.toFloat (rt : Runtime) : Json → Except NumberError PyFloat
  | .float f => .ok f
  | .int z => (rt.floatOfInt z).elim (.error .overflow) .ok
  | .bool b => (rt.floatOfInt (if b then 1 else 0)).elim (.error .overflow) .ok
  | .str s => (rt.floatOfText s).elim (.error .invalid) .ok
  | _ => .error .invalid

/-- `math.isfinite(f)`. -/
def PyFloat.isFinite : PyFloat → Bool
  | .finite .. => true
  | _ => false

/-- `a ≤ b` on decimals. -/
def Dec.le (a b : Dec) : Bool :=
  if a.exp ≤ b.exp then a.digits ≤ b.digits * 10 ^ (b.exp - a.exp).toNat
  else a.digits * 10 ^ (a.exp - b.exp).toNat ≤ b.digits

/-- `a <= b` on floats. -/
def PyFloat.le : PyFloat → PyFloat → Bool
  | .nan, _ => false
  | _, .nan => false
  | .inf true, _ => true
  | _, .inf false => true
  | .inf false, _ => false
  | _, .inf true => false
  | .finite false a, .finite false b => a.le b
  | .finite true a, .finite true b => b.le a
  | .finite true _, .finite false _ => true
  | .finite false a, .finite true b => a.digits == 0 && b.digits == 0

/-- `a < b` on floats. -/
def PyFloat.lt (a b : PyFloat) : Bool := PyFloat.le a b && !PyFloat.le b a

/-- `abs(f)`. -/
def PyFloat.abs : PyFloat → PyFloat
  | .nan => .nan
  | .inf _ => .inf false
  | .finite _ d => .finite false d

/-- `0.0`. -/
def PyFloat.zero : PyFloat := .finite false Dec.zero

/-- `0.0001`. -/
def PyFloat.tenThousandth : PyFloat := .finite false (Dec.ofDigits 1 (-4))

/-- `math.isclose(a, b, rel_tol=0, abs_tol=0.0001)`. -/
def PyFloat.close (rt : Runtime) (a b : PyFloat) : Bool :=
  (PyFloat.le a b && PyFloat.le b a) ||
    (a.isFinite && b.isFinite && PyFloat.le (rt.floatSub a b).abs .tenThousandth)

/-- `f or 0` for a float. -/
def PyFloat.orZero (f : PyFloat) : PyFloat := if (Json.float f).truthy then f else .zero

/-! ## A concrete runtime -/

mutual

/-- `repr` of a value whose texts need no escape. -/
def plainRepr : Json → PyStr
  | .null => py "None"
  | .bool true => py "True"
  | .bool false => py "False"
  | .int z => intStr z
  | .float f => floatStr f
  | .str s => py "'" ++ s ++ py "'"
  | .arr xs => py "[" ++ joinWith (py ", ") (plainReprs xs) ++ py "]"
  | .obj kvs => py "\x7b" ++ joinWith (py ", ") (plainMembers kvs) ++ py "\x7d"

/-- `plainRepr` of every element. -/
def plainReprs : List Json → List PyStr
  | [] => []
  | x :: xs => plainRepr x :: plainReprs xs

/-- `'key': value` for every member. -/
def plainMembers : List (PyStr × Json) → List PyStr
  | [] => []
  | (k, v) :: kvs => (py "'" ++ k ++ py "': " ++ plainRepr v) :: plainMembers kvs

end

/-- The number that a run of ASCII digits denotes. -/
def plainNat (s : PyStr) : Option Nat :=
  if s ≠ [] ∧ s.all isDigit = true then some (digitsVal s) else none

/-- `int(text)` of an ASCII decimal. -/
def plainInt (text : PyStr) : Option Int :=
  match strip text with
  | [] => none
  | c :: cs =>
    if c = cp '-' then (plainNat cs).map fun n => -(n : Int)
    else if c = cp '+' then (plainNat cs).map fun n => (n : Int)
    else (plainNat (c :: cs)).map fun n => (n : Int)

/-- The float nearest to an integer that a float holds exactly. -/
def plainFloat (z : Int) : PyFloat := .finite (decide (z < 0)) (Dec.ofDigits z.natAbs 0)

/-- The difference of two finite decimals. -/
def plainSub : PyFloat → PyFloat → PyFloat
  | .finite na a, .finite nb b =>
    let e := min a.exp b.exp
    let z :=
      signed na (a.digits * 10 ^ (a.exp - e).toNat) - signed nb (b.digits * 10 ^ (b.exp - e).toNat)
    .finite (decide (z < 0)) (Dec.ofDigits z.natAbs e)
  | _, _ => .nan

/-- `date.fromisoformat` of `YYYY-MM-DD`. -/
def plainDate (s : PyStr) : Option Date :=
  if s.length = 10 ∧ s[4]? = some (cp '-') ∧ s[7]? = some (cp '-') then
    (plainNat (s.take 4)).bind fun y => (plainNat ((s.drop 5).take 2)).bind fun m =>
      (plainNat (s.drop 8)).bind fun d =>
        if 1 ≤ y ∧ 1 ≤ m ∧ m ≤ 12 ∧ 1 ≤ d ∧ d ≤ daysInMonth y m then some ⟨y, m, d⟩ else none
  else none

/-- `datetime.fromisoformat` of `YYYY-MM-DDTHH:MM:SS+00:00`. -/
def plainInstant (s : PyStr) : Option Instant :=
  if s.length = 25 ∧ s[10]? = some (cp 'T') ∧ s.drop 19 = py "+00:00" then
    (plainDate (s.take 10)).bind fun d => (plainNat ((s.drop 11).take 2)).bind fun hh =>
      (plainNat ((s.drop 14).take 2)).bind fun mm => (plainNat ((s.drop 17).take 2)).map fun ss =>
        let days := daysBeforeYear d.year + d.day - 1 +
          ((List.range (d.month - 1)).map fun i => daysInMonth d.year (i + 1)).sum
        seconds (days * 86400 + hh * 3600 + mm * 60 + ss)
  else none

/-- `str.lower()` of an ASCII text. -/
def plainLower (s : PyStr) : PyStr :=
  s.map fun c => if 65 ≤ c.val ∧ c.val ≤ 90 then Fin.ofNat 0x110000 (c.val + 32) else c

/-- `str(UUID(text))` of 32 hexadecimal digits with hyphens after 8, 12, 16 and 20. -/
def plainUuid (s : PyStr) : Option PyStr :=
  let t := plainLower s
  let groups := [t.take 8, (t.drop 9).take 4, (t.drop 14).take 4, (t.drop 19).take 4, t.drop 24]
  if t.length = 36 ∧ [t[8]?, t[13]?, t[18]?, t[23]?].all (· == some (cp '-')) = true ∧
      groups.all (fun g => g.all fun c => isDigit c || (97 ≤ c.val && c.val ≤ 102)) = true
  then some t else none

/-- The runtime on ASCII texts, small integers and plain dates, where it computes
what CPython and SQLite compute. -/
def Runtime.plain : Runtime where
  containerText := plainRepr
  casefold := plainLower
  lower := plainLower
  uuidOfText := plainUuid
  intOfText := plainInt
  floatOfText := fun s => (plainInt s).map plainFloat
  floatOfInt := fun z => some (plainFloat z)
  floatSub := plainSub
  dateOfText := plainDate
  instantOfText := plainInstant
  sqliteReal := floatStr
  jsonLevels := 900

end Lib
