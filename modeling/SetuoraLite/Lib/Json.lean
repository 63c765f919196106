import SetuoraLite.Lib.Decimal
import Mathlib.Data.List.Sort
import Mathlib.Data.List.Perm.Basic

/-!
# JSON values, as Python holds them

A `Json` is what `json.loads` produces and `json.dumps` accepts: `None`, `bool`,
`int`, `float`, `str`, `list` and `dict`. A `dict` is an association list in
insertion order; `Json.WF` says that its keys are distinct, at every level, which
is what makes the list a dict.

`Json.dumps` is `json.dumps(v, ensure_ascii=False, sort_keys=True,
separators=(",", ":"))`: `sortKeys` orders every object by key, `render` prints.
Printing fails on an integer of more than 4,300 digits, where CPython raises.
-/

namespace Lib

/-- A JSON value. -/
inductive Json
  | null
  | bool (b : Bool)
  | int (z : Int)
  | float (f : PyFloat)
  | str (s : PyStr)
  | arr (xs : List Json)
  | obj (kvs : List (PyStr × Json))

/-! ## Dicts -/

/-- `d.get(k)` on an association list with distinct keys. -/
def dictGet (k : PyStr) : List (PyStr × Json) → Option Json
  | [] => none
  | (k', v) :: kvs => if k' = k then some v else dictGet k kvs

/-- `d[k] = v`: an existing key keeps its place, a new one goes last. -/
def dictSet (k : PyStr) (v : Json) : List (PyStr × Json) → List (PyStr × Json)
  | [] => [(k, v)]
  | (k', v') :: kvs => if k' = k then (k', v) :: kvs else (k', v') :: dictSet k v kvs

/-- `d.update(entries)`. -/
def dictUpdate (kvs entries : List (PyStr × Json)) : List (PyStr × Json) :=
  entries.foldl (fun acc e => dictSet e.1 e.2 acc) kvs

/-- `d.setdefault(k, v)`. -/
def dictSetDefault (k : PyStr) (v : Json) (kvs : List (PyStr × Json)) : List (PyStr × Json) :=
  match dictGet k kvs with
  | some _ => kvs
  | none => kvs ++ [(k, v)]

/-- The keys of a dict. -/
def dictKeys (kvs : List (PyStr × Json)) : List PyStr := kvs.map Prod.fst

/-- A key that was set is found. -/
theorem dictGet_dictSet_self (k : PyStr) (v : Json) (kvs : List (PyStr × Json)) :
    dictGet k (dictSet k v kvs) = some v := by
  induction kvs with
  | nil => simp [dictSet, dictGet]
  | cons e kvs ih =>
    obtain ⟨k', v'⟩ := e
    simp only [dictSet]
    split
    next h => simp [dictGet, h]
    next h => simp [dictGet, h, ih]

theorem dictGet_dictSet_ne {k k' : PyStr} (h : k' ≠ k) (v : Json) (kvs : List (PyStr × Json)) :
    dictGet k (dictSet k' v kvs) = dictGet k kvs := by
  induction kvs with
  | nil => simp [dictSet, dictGet, h]
  | cons e kvs ih =>
    obtain ⟨k'', v''⟩ := e
    simp only [dictSet]
    split
    next he =>
      subst he
      simp [dictGet, h]
    next he => simp only [dictGet, ih]

/-- Setting a key adds it at the end, or leaves the keys as they are. -/
theorem dictKeys_dictSet (k : PyStr) (v : Json) (kvs : List (PyStr × Json)) :
    dictKeys (dictSet k v kvs) =
      if k ∈ dictKeys kvs then dictKeys kvs else dictKeys kvs ++ [k] := by
  induction kvs with
  | nil => simp [dictSet, dictKeys]
  | cons e kvs ih =>
    obtain ⟨k', v'⟩ := e
    simp only [dictSet]
    by_cases h : k' = k
    · simp [dictKeys, h]
    · have hk : k ≠ k' := fun he => h he.symm
      rw [if_neg h]
      show k' :: dictKeys (dictSet k v kvs) = _
      rw [ih]
      by_cases hm : k ∈ dictKeys kvs
      · simp only [dictKeys] at hm
        simp [dictKeys, hm]
      · simp only [dictKeys] at hm
        simp [dictKeys, hm, hk]

/-- Setting keys keeps them distinct. -/
theorem dictKeys_dictSet_nodup (k : PyStr) (v : Json) {kvs : List (PyStr × Json)}
    (h : (dictKeys kvs).Nodup) : (dictKeys (dictSet k v kvs)).Nodup := by
  rw [dictKeys_dictSet]
  split
  next => exact h
  next hm =>
    rw [List.nodup_append]
    refine ⟨h, by simp, fun a ha b hb he => ?_⟩
    rw [List.mem_singleton] at hb
    exact hm (hb ▸ he ▸ ha)

/-- A key is not found when it is none of the keys. -/
theorem dictGet_eq_none_iff {k : PyStr} {kvs : List (PyStr × Json)} :
    dictGet k kvs = none ↔ k ∉ dictKeys kvs := by
  induction kvs with
  | nil => simp [dictGet, dictKeys]
  | cons e kvs ih =>
    obtain ⟨k', v'⟩ := e
    by_cases h : k' = k
    · simp [dictGet, dictKeys, h]
    · have hk : ¬ k = k' := fun he => h he.symm
      simp only [dictKeys] at ih
      simp [dictGet, dictKeys, h, hk, ih]

/-- A dict returns an entry exactly when it holds it. -/
theorem dictGet_eq_some_iff {k : PyStr} {v : Json} {kvs : List (PyStr × Json)}
    (hnd : (dictKeys kvs).Nodup) : dictGet k kvs = some v ↔ (k, v) ∈ kvs := by
  induction kvs with
  | nil => simp [dictGet]
  | cons e kvs ih =>
    obtain ⟨k', v'⟩ := e
    obtain ⟨hnot, hrest⟩ := List.nodup_cons.mp hnd
    simp only [dictGet, List.mem_cons, Prod.mk.injEq]
    by_cases h : k' = k
    · subst h
      simp only [if_true, Option.some.injEq, true_and]
      constructor
      · intro he
        exact Or.inl he.symm
      · rintro (he | hmem)
        · exact he.symm
        · exact absurd (List.mem_map_of_mem hmem) hnot
    · have hk : ¬ k = k' := fun he => h he.symm
      simp [h, hk, ih hrest]

/-- Reading a dict does not depend on the order of its entries. -/
theorem dictGet_perm {k : PyStr} {kvs kvs' : List (PyStr × Json)} (hp : kvs.Perm kvs')
    (hnd : (dictKeys kvs).Nodup) : dictGet k kvs = dictGet k kvs' := by
  have hnd' : (dictKeys kvs').Nodup := (hp.map Prod.fst).nodup_iff.mp hnd
  apply Option.ext
  intro v
  rw [dictGet_eq_some_iff hnd, dictGet_eq_some_iff hnd', hp.mem_iff]

/-- The entries of an update win over the ones that were there. -/
theorem dictGet_dictUpdate {k : PyStr} {kvs entries : List (PyStr × Json)}
    (hnd : (dictKeys entries).Nodup) :
    dictGet k (dictUpdate kvs entries) = (dictGet k entries).or (dictGet k kvs) := by
  induction entries generalizing kvs with
  | nil => simp [dictUpdate, dictGet]
  | cons e entries ih =>
    obtain ⟨k', v'⟩ := e
    obtain ⟨hnot, hrest⟩ := List.nodup_cons.mp hnd
    show dictGet k (dictUpdate (dictSet k' v' kvs) entries) = _
    rw [ih hrest]
    by_cases h : k' = k
    · subst h
      have hnone : dictGet k' entries = none := dictGet_eq_none_iff.mpr hnot
      simp [hnone, dictGet, dictGet_dictSet_self]
    · simp [dictGet, h, dictGet_dictSet_ne h]

/-- A default for one key leaves the others as they are. -/
theorem dictGet_dictSetDefault_ne {k k' : PyStr} (h : k' ≠ k) (v : Json)
    (kvs : List (PyStr × Json)) : dictGet k (dictSetDefault k' v kvs) = dictGet k kvs := by
  unfold dictSetDefault
  split
  · rfl
  · clear * - h
    induction kvs with
    | nil => simp [dictGet, h]
    | cons e kvs ih =>
      obtain ⟨k'', v''⟩ := e
      simp only [List.cons_append, dictGet, ih]

/-- A default is used where the key is not found. -/
theorem dictGet_dictSetDefault_self (k : PyStr) (v : Json) (kvs : List (PyStr × Json)) :
    dictGet k (dictSetDefault k v kvs) = some ((dictGet k kvs).getD v) := by
  unfold dictSetDefault
  split
  next w hw => rw [hw, Option.getD_some]
  next hnone =>
    rw [hnone, Option.getD_none]
    clear * - hnone
    induction kvs with
    | nil => simp [dictGet]
    | cons e kvs ih =>
      obtain ⟨k', v'⟩ := e
      simp only [List.cons_append, dictGet] at hnone ⊢
      split at hnone
      · exact absurd hnone (by simp)
      next h => rw [if_neg h, ih hnone]

/-! ## Well-formed values -/

mutual

/-- Every object of the value has distinct keys. -/
def Json.WF : Json → Prop
  | .arr xs => Json.AllWF xs
  | .obj kvs => (dictKeys kvs).Nodup ∧ Json.MembersWF kvs
  | _ => True

/-- `Json.WF` of every element. -/
def Json.AllWF : List Json → Prop
  | [] => True
  | x :: xs => x.WF ∧ Json.AllWF xs

/-- `Json.WF` of every member. -/
def Json.MembersWF : List (PyStr × Json) → Prop
  | [] => True
  | (_, v) :: kvs => v.WF ∧ Json.MembersWF kvs

end

/-- A list is well formed when its values are. -/
theorem Json.allWF_iff {xs : List Json} : Json.AllWF xs ↔ ∀ x ∈ xs, x.WF := by
  induction xs with
  | nil => simp [Json.AllWF]
  | cons x xs ih => simp [Json.AllWF, ih]

/-- The members of an object are well formed when their values are. -/
theorem Json.membersWF_iff {kvs : List (PyStr × Json)} :
    Json.MembersWF kvs ↔ ∀ e ∈ kvs, e.2.WF := by
  induction kvs with
  | nil => simp [Json.MembersWF]
  | cons e kvs ih =>
    obtain ⟨k, v⟩ := e
    simp [Json.MembersWF, ih]

/-- Setting a key keeps an object well formed. -/
theorem Json.WF.dictSet {k : PyStr} {v : Json} {kvs : List (PyStr × Json)}
    (h : (Json.obj kvs).WF) (hv : v.WF) : (Json.obj (dictSet k v kvs)).WF := by
  refine ⟨dictKeys_dictSet_nodup k v h.1, ?_⟩
  have hkvs := h.2
  clear h
  induction kvs with
  | nil => exact ⟨hv, trivial⟩
  | cons e kvs ih =>
    obtain ⟨k', v'⟩ := e
    simp only [Lib.dictSet]
    split
    · exact ⟨hv, hkvs.2⟩
    · exact ⟨hkvs.1, ih hkvs.2⟩

theorem Json.WF.dictUpdate {kvs entries : List (PyStr × Json)} (h : (Json.obj kvs).WF)
    (he : Json.MembersWF entries) : (Json.obj (dictUpdate kvs entries)).WF := by
  induction entries generalizing kvs with
  | nil => exact h
  | cons e entries ih =>
    obtain ⟨k, v⟩ := e
    exact ih (Json.WF.dictSet h he.1) he.2

theorem Json.WF.dictSetDefault {k : PyStr} {v : Json} {kvs : List (PyStr × Json)}
    (h : (Json.obj kvs).WF) (hv : v.WF) : (Json.obj (dictSetDefault k v kvs)).WF := by
  unfold Lib.dictSetDefault
  split
  · exact h
  next hnone =>
    have hk := dictGet_eq_none_iff.mp hnone
    refine ⟨?_, ?_⟩
    · have := dictKeys_dictSet_nodup k v h.1
      rw [dictKeys_dictSet, if_neg hk] at this
      simpa [dictKeys] using this
    · rw [Json.membersWF_iff]
      intro e he
      rcases List.mem_append.mp he with he | he
      · exact Json.membersWF_iff.mp h.2 e he
      · obtain rfl := List.mem_singleton.mp he
        exact hv

/-! ## Sorted objects -/

/-- Python's order on `str`: by code points, a prefix first. -/
def strLe : PyStr → PyStr → Bool
  | [], _ => true
  | _ :: _, [] => false
  | a :: s, b :: t => a < b || (a == b && strLe s t)

/-- Insert a member before the first one with a larger key. -/
def insertMember (e : PyStr × Json) : List (PyStr × Json) → List (PyStr × Json)
  | [] => [e]
  | e' :: kvs => if strLe e.1 e'.1 then e :: e' :: kvs else e' :: insertMember e kvs

mutual

/-- Order the members of every object by key. -/
def Json.sortKeys : Json → Json
  | .arr xs => .arr (Json.sortAll xs)
  | .obj kvs => .obj (Json.sortMembers kvs)
  | v => v

/-- `Json.sortKeys` of every element. -/
def Json.sortAll : List Json → List Json
  | [] => []
  | x :: xs => x.sortKeys :: Json.sortAll xs

/-- The members in key order, each with its value sorted. -/
def Json.sortMembers : List (PyStr × Json) → List (PyStr × Json)
  | [] => []
  | (k, v) :: kvs => insertMember (k, v.sortKeys) (Json.sortMembers kvs)

end

/-- Sorting a member in reorders the members. -/
theorem insertMember_perm (e : PyStr × Json) (kvs : List (PyStr × Json)) :
    (insertMember e kvs).Perm (e :: kvs) := by
  induction kvs with
  | nil => exact List.Perm.refl _
  | cons e' kvs ih =>
    simp only [insertMember]
    split
    · exact List.Perm.refl _
    · exact (List.Perm.cons e' ih).trans (List.Perm.swap e e' kvs)

theorem Json.sortAll_eq_map (xs : List Json) : Json.sortAll xs = xs.map Json.sortKeys := by
  induction xs with
  | nil => rfl
  | cons x xs ih => rw [Json.sortAll, ih, List.map_cons]

/-- Sorting permutes the members and sorts each value. -/
theorem Json.sortMembers_perm (kvs : List (PyStr × Json)) :
    (Json.sortMembers kvs).Perm (kvs.map fun e => (e.1, e.2.sortKeys)) := by
  induction kvs with
  | nil => exact List.Perm.refl _
  | cons e kvs ih =>
    obtain ⟨k, v⟩ := e
    rw [Json.sortMembers, List.map_cons]
    exact (insertMember_perm _ _).trans (List.Perm.cons _ ih)

/-- The keys of the sorted members are the keys of the members. -/
theorem Json.dictKeys_sortMembers (kvs : List (PyStr × Json)) :
    (dictKeys (Json.sortMembers kvs)).Perm (dictKeys kvs) := by
  have h := (Json.sortMembers_perm kvs).map Prod.fst
  rw [List.map_map] at h
  exact h

mutual

/-- Sorting keeps a value well formed. -/
theorem Json.WF.sortKeys : ∀ {v : Json}, v.WF → v.sortKeys.WF
  | .null, _ | .bool _, _ | .int _, _ | .float _, _ | .str _, _ => trivial
  | .arr _, h => Json.AllWF.sortAll h
  | .obj kvs, h =>
    ⟨(Json.dictKeys_sortMembers kvs).nodup_iff.mpr h.1, Json.MembersWF.sortMembers h.2⟩

theorem Json.AllWF.sortAll : ∀ {xs : List Json}, Json.AllWF xs → Json.AllWF (Json.sortAll xs)
  | [], _ => trivial
  | _ :: _, h => ⟨h.1.sortKeys, Json.AllWF.sortAll h.2⟩

theorem Json.MembersWF.sortMembers : ∀ {kvs : List (PyStr × Json)},
    Json.MembersWF kvs → Json.MembersWF (Json.sortMembers kvs)
  | [], _ => trivial
  | (k, v) :: kvs, h => by
    rw [Json.sortMembers, Json.membersWF_iff]
    intro e he
    rcases List.mem_cons.mp ((insertMember_perm _ _).mem_iff.mp he) with rfl | hmem
    · exact Json.WF.sortKeys h.1
    · exact Json.membersWF_iff.mp (Json.MembersWF.sortMembers h.2) e hmem

end

/-! ## Strict values

JSON has no token for an infinite number or for `nan`; `json.dumps` writes `Infinity`
and `NaN` all the same. -/

mutual

/-- Every number of the value is finite: its text is JSON in the strict sense. -/
def Json.Strict : Json → Prop
  | .float (.finite _ _) => True
  | .float _ => False
  | .arr xs => Json.AllStrict xs
  | .obj kvs => Json.MembersStrict kvs
  | _ => True

/-- `Json.Strict` of every element. -/
def Json.AllStrict : List Json → Prop
  | [] => True
  | x :: xs => x.Strict ∧ Json.AllStrict xs

/-- `Json.Strict` of every member. -/
def Json.MembersStrict : List (PyStr × Json) → Prop
  | [] => True
  | (_, v) :: kvs => v.Strict ∧ Json.MembersStrict kvs

end

mutual

instance Json.decidableStrict : (v : Json) → Decidable v.Strict
  | .float (.finite _ _) => .isTrue trivial
  | .float (.inf _) => .isFalse fun h => h
  | .float .nan => .isFalse fun h => h
  | .arr xs => Json.decidableAllStrict xs
  | .obj kvs => Json.decidableMembersStrict kvs
  | .null => .isTrue trivial
  | .bool _ => .isTrue trivial
  | .int _ => .isTrue trivial
  | .str _ => .isTrue trivial

instance Json.decidableAllStrict : (xs : List Json) → Decidable (Json.AllStrict xs)
  | [] => .isTrue trivial
  | x :: xs =>
    have : Decidable x.Strict := Json.decidableStrict x
    have : Decidable (Json.AllStrict xs) := Json.decidableAllStrict xs
    inferInstanceAs (Decidable (x.Strict ∧ Json.AllStrict xs))

instance Json.decidableMembersStrict : (kvs : List (PyStr × Json)) →
    Decidable (Json.MembersStrict kvs)
  | [] => .isTrue trivial
  | (_, v) :: kvs =>
    have : Decidable v.Strict := Json.decidableStrict v
    have : Decidable (Json.MembersStrict kvs) := Json.decidableMembersStrict kvs
    inferInstanceAs (Decidable (v.Strict ∧ Json.MembersStrict kvs))

end

/-- The members of an object are strict when their values are. -/
theorem Json.membersStrict_iff {kvs : List (PyStr × Json)} :
    Json.MembersStrict kvs ↔ ∀ e ∈ kvs, e.2.Strict := by
  induction kvs with
  | nil => simp [Json.MembersStrict]
  | cons e kvs ih =>
    obtain ⟨k, v⟩ := e
    simp [Json.MembersStrict, ih]

theorem Json.allStrict_iff {xs : List Json} : Json.AllStrict xs ↔ ∀ x ∈ xs, x.Strict := by
  induction xs with
  | nil => simp [Json.AllStrict]
  | cons x xs ih => simp [Json.AllStrict, ih]

theorem Json.MembersStrict.dictSet {k : PyStr} {v : Json} {kvs : List (PyStr × Json)}
    (h : Json.MembersStrict kvs) (hv : v.Strict) : Json.MembersStrict (dictSet k v kvs) := by
  induction kvs with
  | nil => exact ⟨hv, trivial⟩
  | cons e kvs ih =>
    obtain ⟨k', v'⟩ := e
    unfold Lib.dictSet
    split
    · exact ⟨hv, h.2⟩
    · exact ⟨h.1, ih h.2⟩

theorem Json.MembersStrict.dictUpdate {kvs entries : List (PyStr × Json)}
    (h : Json.MembersStrict kvs)
    (he : Json.MembersStrict entries) : Json.MembersStrict (dictUpdate kvs entries) := by
  induction entries generalizing kvs with
  | nil => exact h
  | cons e entries ih =>
    obtain ⟨k, v⟩ := e
    exact ih (h.dictSet he.1) he.2

theorem Json.MembersStrict.dictSetDefault {k : PyStr} {v : Json} {kvs : List (PyStr × Json)}
    (h : Json.MembersStrict kvs) (hv : v.Strict) : Json.MembersStrict (dictSetDefault k v kvs) := by
  unfold Lib.dictSetDefault
  split
  · exact h
  · refine Json.membersStrict_iff.mpr fun e he => ?_
    rcases List.mem_append.mp he with hold | hnew
    · exact Json.membersStrict_iff.mp h e hold
    · obtain rfl := List.mem_singleton.mp hnew
      exact hv

mutual

theorem Json.Strict.sortKeys : ∀ {v : Json}, v.Strict → v.sortKeys.Strict
  | .null, _ | .bool _, _ | .int _, _ | .str _, _ => trivial
  | .float _, h => h
  | .arr _, h => Json.AllStrict.sortAll h
  | .obj _, h => Json.MembersStrict.sortMembers h

theorem Json.AllStrict.sortAll : ∀ {xs : List Json}, Json.AllStrict xs →
    Json.AllStrict (Json.sortAll xs)
  | [], _ => trivial
  | _ :: _, h => ⟨h.1.sortKeys, Json.AllStrict.sortAll h.2⟩

theorem Json.MembersStrict.sortMembers : ∀ {kvs : List (PyStr × Json)},
    Json.MembersStrict kvs → Json.MembersStrict (Json.sortMembers kvs)
  | [], _ => trivial
  | (k, v) :: kvs, h => by
    rw [Json.sortMembers, Json.membersStrict_iff]
    intro e he
    rcases List.mem_cons.mp ((insertMember_perm _ _).mem_iff.mp he) with rfl | hmem
    · exact Json.Strict.sortKeys h.1
    · exact Json.membersStrict_iff.mp (Json.MembersStrict.sortMembers h.2) e hmem

end

/-- A key of a sorted dict holds the sorted value. -/
theorem dictGet_sortMembers {k : PyStr} {kvs : List (PyStr × Json)} (hnd : (dictKeys kvs).Nodup) :
    dictGet k (Json.sortMembers kvs) = (dictGet k kvs).map Json.sortKeys := by
  have hnd' : (dictKeys (Json.sortMembers kvs)).Nodup :=
    (Json.dictKeys_sortMembers kvs).nodup_iff.mpr hnd
  rw [dictGet_perm (Json.sortMembers_perm kvs) hnd']
  clear hnd hnd'
  induction kvs with
  | nil => rfl
  | cons e kvs ih =>
    obtain ⟨k', v'⟩ := e
    simp only [List.map_cons, dictGet]
    split
    · rfl
    · exact ih

/-! ## Printing -/

/-- The hexadecimal digit `d`, for `d < 16`. -/
def hexChar (d : Nat) : CodePoint :=
  if d < 10 then digitChar d else Fin.ofNat 0x110000 (87 + d)

/-- The printed form of one code point inside a string. -/
def escapeChar (c : CodePoint) : PyStr :=
  if c = cp '"' then py "\\\""
  else if c = cp '\\' then py "\\\\"
  else if c.val = 8 then py "\\b"
  else if c.val = 9 then py "\\t"
  else if c.val = 10 then py "\\n"
  else if c.val = 12 then py "\\f"
  else if c.val = 13 then py "\\r"
  else if c.val < 32 then py "\\u00" ++ [hexChar (c.val / 16), hexChar (c.val % 16)]
  else [c]

/-- A string literal. -/
def strText (s : PyStr) : PyStr := py "\"" ++ s.flatMap escapeChar ++ py "\""

/-- CPython's limit on the digits of an integer's text. -/
def maxIntDigits : Nat := 4300

/-- An integer literal; `none` is CPython's `ValueError` on too many digits. -/
def intText (z : Int) : Option PyStr :=
  let ds := decDigits z.natAbs
  if ds.length ≤ maxIntDigits then some (signText (decide (z < 0)) ++ ds) else none

/-- A float literal. -/
def floatText : PyFloat → PyStr
  | .nan => py "NaN"
  | .inf neg => signText neg ++ py "Infinity"
  | .finite neg d => signText neg ++ decRepr d

mutual

/-- The text of a value, in the order of its members. -/
def Json.render : Json → Option PyStr
  | .null => some (py "null")
  | .bool true => some (py "true")
  | .bool false => some (py "false")
  | .int z => intText z
  | .float f => some (floatText f)
  | .str s => some (strText s)
  | .arr [] => some (py "[]")
  | .arr (x :: xs) =>
    x.render.bind fun t => (Json.renderElems xs).map fun ts => py "[" ++ t ++ ts
  | .obj [] => some (py "\x7b\x7d")
  | .obj ((k, v) :: kvs) =>
    v.render.bind fun t =>
      (Json.renderMembers kvs).map fun ts => py "\x7b" ++ strText k ++ py ":" ++ t ++ ts

/-- The elements after the first, and the closing bracket. -/
def Json.renderElems : List Json → Option PyStr
  | [] => some (py "]")
  | x :: xs => x.render.bind fun t => (Json.renderElems xs).map fun ts => py "," ++ t ++ ts

/-- The members after the first, and the closing brace. -/
def Json.renderMembers : List (PyStr × Json) → Option PyStr
  | [] => some (py "\x7d")
  | (k, v) :: kvs =>
    v.render.bind fun t =>
      (Json.renderMembers kvs).map fun ts => py "," ++ strText k ++ py ":" ++ t ++ ts

end

/-- `json.dumps(v, ensure_ascii=False, sort_keys=True, separators=(",", ":"))`. -/
def Json.dumps (v : Json) : Option PyStr := v.sortKeys.render

end Lib
