import SetuoraLite.Lib.JsonDecode
import SetuoraLite.Lib.Transaction

/-!
# Dicts with the default separators

`json.dumps` without separators puts a blank after each comma and colon. `ReadsAs`: a text that
`json.loads` reads as a value wherever it stands; texts do, and a dict does when its values do
and one more container may be opened.

`decodeWithin_nested`: a text with too many open brackets is a `RecursionError`, whatever
follows them.
-/

namespace Lib

/-- `json.dumps` of a dict of texts with its default separators, the members given. -/
def spacedObject (members : List (PyStr × PyStr)) : PyStr :=
  py "\x7b" ++ joinWith (py ", ") (members.map fun e => strText e.1 ++ py ": " ++ e.2) ++ py "\x7d"

/-- The text is read as the value, and what follows it is left. -/
structure ReadsAs (levels : Option Nat) (t : PyStr) (v : Json) : Prop where
  head : ∃ c r, t = c :: r ∧ isJsonSpace c = false ∧ c.val < 128
  reads : ∀ fuel rest, t.length ≤ fuel → parseValue levels fuel (t ++ rest) = .ok (v, rest)

/-- A member of a dict: its key, the text of its value, and the value. -/
structure SpacedMember where
  key : PyStr
  text : PyStr
  value : Json

variable {levels inner : Option Nat}

/-- A printed string is read as the string. -/
theorem readsAs_strText (s : PyStr) : ReadsAs levels (strText s) (.str s) where
  head := ⟨cp '"', _, rfl, by decide, by decide⟩
  reads := by
    intro fuel rest hfuel
    have htext : strText s ++ rest = cp '"' :: (s.flatMap escapeChar ++ cp '"' :: rest) := by
      simp only [strText, List.append_assoc]
      rfl
    have hlen : 1 ≤ fuel := by
      simp only [strText, List.length_append, show (py "\"").length = 1 from rfl] at hfuel
      omega
    obtain ⟨fuel, rfl⟩ := Nat.exists_eq_add_of_le' hlen
    rw [htext, parseValue]
    simp only [if_true, parseString_strText]

/-- A text that is read as a value starts with no space. -/
theorem ReadsAs.skipSpace {t : PyStr} {v : Json} (h : ReadsAs levels t v) (rest : PyStr) :
    skipSpace (t ++ rest) = t ++ rest := by
  obtain ⟨c, r, rfl, hspace, -⟩ := h.head
  exact List.dropWhile_cons_of_neg (by simp [hspace])

/-- The members after the first, and the closing brace. -/
def spacedTail (members : List SpacedMember) : PyStr :=
  members.flatMap (fun m => py ", " ++ (strText m.key ++ py ": " ++ m.text)) ++ py "\x7d"

/-- The text of an object with one member more. -/
theorem spacedObject_cons (m : SpacedMember) (members : List SpacedMember) :
    spacedObject ((m :: members).map fun m => (m.key, m.text))
      = cp '{' :: (strText m.key ++ cp ':' :: cp ' ' :: (m.text ++ spacedTail members)) := by
  have hjoin : ∀ (x : PyStr) (xs : List PyStr), joinWith (py ", ") (x :: xs)
      = x ++ xs.flatMap fun y => py ", " ++ y := by
    intro x xs
    unfold joinWith
    induction xs generalizing x with
    | nil => simp [List.intercalate]
    | cons y ys ih =>
      rw [List.flatMap_cons, List.append_assoc, ← ih y]
      simp [List.intercalate, List.intersperse]
  unfold spacedObject spacedTail
  rw [List.map_map, List.map_cons, hjoin, List.flatMap_map]
  simp only [Function.comp, List.append_assoc]
  rfl

/-- A printed key is read, with the colon and the space after it. -/
theorem parseKey_spaced (k : PyStr) {t : PyStr} (h : skipSpace t = t) :
    parseKey (strText k ++ cp ':' :: cp ' ' :: t) = some (k, t) := by
  have htext : strText k ++ cp ':' :: cp ' ' :: t
      = cp '"' :: (k.flatMap escapeChar ++ cp '"' :: (cp ':' :: cp ' ' :: t)) := by
    simp only [strText, List.append_assoc]
    rfl
  have hcolon : skipSpace (cp ':' :: cp ' ' :: t) = cp ':' :: cp ' ' :: t :=
    List.dropWhile_cons_of_neg (by decide)
  have hblank : skipSpace (cp ' ' :: t) = t := by
    have hskip : skipSpace (cp ' ' :: t) = skipSpace t := List.dropWhile_cons_of_pos (by decide)
    rw [hskip, h]
  rw [htext, parseKey, if_pos rfl, parseString_strText]
  simp only [Option.bind_some, hcolon, if_true, hblank]

/-- The members are read one by one. -/
theorem parseMembers_spaced : ∀ (members : List SpacedMember) (fuel : Nat) (rest : PyStr),
    (∀ m ∈ members, ReadsAs levels m.text m.value) → (spacedTail members).length ≤ fuel →
    parseMembers levels fuel (spacedTail members ++ rest) =
        .ok (members.map fun m => (m.key, m.value), rest) := by
  intro members
  induction members with
  | nil =>
    intro fuel rest _ hfuel
    obtain ⟨fuel, rfl⟩ := Nat.exists_eq_add_of_le' (show 1 ≤ fuel from hfuel)
    rfl
  | cons m members ih =>
    intro fuel rest hreads hfuel
    have hm := hreads m List.mem_cons_self
    have htext : spacedTail (m :: members)
        = cp ',' :: cp ' ' ::
            (strText m.key ++ cp ':' :: cp ' ' :: (m.text ++ spacedTail members)) := by
      unfold spacedTail
      rw [List.flatMap_cons]
      simp only [List.append_assoc]
      rfl
    rw [htext] at hfuel ⊢
    simp only [List.length_cons, List.length_append] at hfuel
    obtain ⟨fuel, rfl⟩ := Nat.exists_eq_add_of_le' (show 1 ≤ fuel by omega)
    have hvalue := hm.reads fuel (spacedTail members ++ rest) (by omega)
    have hrest := ih fuel rest (fun m' h => hreads m' (List.mem_cons_of_mem m h)) (by omega)
    have hkey := parseKey_spaced m.key (hm.skipSpace (spacedTail members ++ rest))
    have hassoc : cp ',' :: cp ' ' ::
        (strText m.key ++ cp ':' :: cp ' ' :: (m.text ++ spacedTail members)) ++ rest
        = cp ',' :: cp ' ' ::
            (strText m.key ++ cp ':' :: cp ' ' :: (m.text ++ (spacedTail members ++ rest))) := by
      simp only [List.cons_append, List.append_assoc]
    -- After a comma and a colon comes one space, which is skipped.
    have hcomma : ∀ s, skipSpace (cp ',' :: s) = cp ',' :: s :=
      fun s => List.dropWhile_cons_of_neg (by decide)
    have hquote : ∀ s, skipSpace (cp ' ' :: (strText m.key ++ s)) = strText m.key ++ s := by
      intro s
      have hskip : skipSpace (cp ' ' :: (strText m.key ++ s)) = skipSpace (strText m.key ++ s) :=
        List.dropWhile_cons_of_pos (by decide)
      have hreads : ReadsAs levels (strText m.key) (.str m.key) := readsAs_strText m.key
      rw [hskip, hreads.skipSpace s]
    rw [hassoc, parseMembers, hcomma]
    simp only [if_neg (show cp ',' ≠ cp '}' by decide), if_true, hquote, hkey, hvalue]
    refine (except_bind_of_ok hrest _).trans ?_
    rfl

/-- A dict is read when its values are, one container further in. -/
theorem readsAs_spacedObject (henter : enter levels = .ok inner) {members : List SpacedMember}
    (hreads : ∀ m ∈ members, ReadsAs inner m.text m.value) (hnodup : (members.map (·.key)).Nodup) :
    ReadsAs levels (spacedObject (members.map fun m => (m.key, m.text)))
      (.obj (members.map fun m => (m.key, m.value))) where
  head := ⟨cp '{', _, rfl, by decide, by decide⟩
  reads := by
    intro fuel rest hfuel
    cases members with
    -- The empty object has no space in it.
    | nil =>
      obtain ⟨fuel, rfl⟩ := Nat.exists_eq_add_of_le' (Nat.le_trans (by decide : 1 ≤ 2) hfuel)
      refine (except_bind_of_ok henter _).trans ?_
      rfl
    | cons m members =>
      have hm := hreads m List.mem_cons_self
      rw [spacedObject_cons] at hfuel ⊢
      simp only [List.length_cons, List.length_append] at hfuel
      obtain ⟨fuel, rfl⟩ := Nat.exists_eq_add_of_le' (show 1 ≤ fuel by omega)
      have hvalue := hm.reads fuel (spacedTail members ++ rest) (by omega)
      have hrest := parseMembers_spaced members fuel rest
        (fun m' h => hreads m' (List.mem_cons_of_mem m h)) (by omega)
      have hkey := parseKey_spaced m.key (hm.skipSpace (spacedTail members ++ rest))
      have hassoc : cp '{' ::
          (strText m.key ++ cp ':' :: cp ' ' :: (m.text ++ spacedTail members)) ++ rest
          = cp '{' :: (strText m.key ++ cp ':' :: cp ' ' ::
              (m.text ++ (spacedTail members ++ rest))) := by
        simp only [List.cons_append, List.append_assoc]
      have hdict : dictUpdate [] ((m :: members).map fun m => (m.key, m.value))
          = (m :: members).map fun m => (m.key, m.value) := by
        have hkeys : (dictKeys ((m :: members).map fun m => (m.key, m.value))).Nodup := by
          unfold dictKeys
          rw [List.map_map]
          exact hnodup
        exact dictUpdate_of_nodup hkeys
      have hopen : skipSpace
          (strText m.key ++ cp ':' :: cp ' ' :: (m.text ++ (spacedTail members ++ rest)))
          = cp '"' :: (m.key.flatMap escapeChar ++ py "\"" ++
              cp ':' :: cp ' ' :: (m.text ++ (spacedTail members ++ rest))) :=
        List.dropWhile_cons_of_neg (by decide)
      have hbind : ∀ f : Option Nat →
          Except DecodeError (Json × PyStr), (enter levels >>= f) = f inner := by
        intro f
        rw [henter]
        rfl
      rw [hassoc, parseValue]
      simp only [if_neg (show cp '{' ≠ cp '"' by decide),
        if_neg (show cp '{' ≠ cp '[' by decide), if_true]
      rw [hbind, hopen]
      show (if cp '"' = cp '}' then _ else _) = _
      rw [if_neg (by decide)]
      rw [← show strText m.key ++ cp ':' :: cp ' ' :: (m.text ++ (spacedTail members ++ rest))
        = cp '"' :: (m.key.flatMap escapeChar ++ py "\"" ++
            cp ':' :: cp ' ' :: (m.text ++ (spacedTail members ++ rest))) from rfl, hkey]
      refine (except_bind_of_ok hvalue _).trans ?_
      refine (except_bind_of_ok hrest _).trans ?_
      show Except.ok
        (Json.obj (dictUpdate [] ((m :: members).map fun m => (m.key, m.value))), rest) = _
      rw [hdict]

/-- The same for a dict and a way to print its values. -/
theorem readsAs_dict (henter : enter levels = .ok inner) {members : List (PyStr × Json)}
    (text : Json → PyStr) (hreads : ∀ e ∈ members, ReadsAs inner (text e.2) e.2)
    (hnodup : (dictKeys members).Nodup) :
    ReadsAs levels (spacedObject (members.map fun e => (e.1, text e.2))) (.obj members) := by
  let spaced : List SpacedMember := members.map fun e => ⟨e.1, text e.2, e.2⟩
  have hspaced : ∀ m ∈ spaced, ReadsAs inner m.text m.value := by
    intro m hm
    obtain ⟨e, he, rfl⟩ := List.mem_map.mp hm
    exact hreads e he
  have hkeys : (spaced.map (·.key)).Nodup := by
    rw [List.map_map]
    exact hnodup
  have h := readsAs_spacedObject henter hspaced hkeys
  rw [List.map_map, List.map_map] at h
  have hvalues : members.map
      ((fun m : SpacedMember => (m.key, m.value)) ∘ fun e => ⟨e.1, text e.2, e.2⟩) = members :=
    List.map_id' members
  rw [hvalues] at h
  exact h

/-- A text that is read as a value is decoded to it. -/
theorem ReadsAs.decode {t : PyStr} {v : Json} (h : ReadsAs levels t v) :
    decodeWithin levels t = .ok v := by
  have hparse := h.reads (t.length + 1) [] (by omega)
  have hskip := h.skipSpace []
  rw [List.append_nil] at hparse hskip
  obtain ⟨c, r, rfl, -, hc⟩ := h.head
  unfold decodeWithin
  rw [if_neg, hskip, hparse]
  · rfl
  · intro heq
    have hv := congrArg Fin.val (Option.some.inj heq)
    rw [show (Fin.ofNat 0x110000 0xFEFF).val = 0xFEFF from rfl] at hv
    omega

/-- One bracket more than the interpreter opens. -/
theorem parseValue_nested : ∀ (n fuel : Nat) (rest : PyStr), n < fuel →
    parseValue (some n) fuel (List.replicate (n + 1) (cp '[') ++ rest) = .error .tooDeep := by
  intro n
  induction n with
  | zero =>
    intro fuel rest hfuel
    obtain ⟨fuel, rfl⟩ := Nat.exists_eq_add_of_le' (show 1 ≤ fuel from hfuel)
    rfl
  | succ n ih =>
    intro fuel rest hfuel
    obtain ⟨fuel, rfl⟩ := Nat.exists_eq_add_of_le' (show 1 ≤ fuel by omega)
    have hdeep := ih fuel rest (by omega)
    rw [List.replicate_succ, List.cons_append, parseValue]
    simp only [if_neg (show cp '[' ≠ cp '"' by decide), if_true]
    have hopen : skipSpace (List.replicate (n + 1) (cp '[') ++ rest) = cp '[' ::
        (List.replicate n (cp '[') ++ rest) :=
      List.dropWhile_cons_of_neg (by decide)
    have henter : ∀ f : Option Nat → Except DecodeError (Json × PyStr),
        (enter (some (n + 1)) >>= f) = f (some n) := fun _ => rfl
    rw [henter, hopen]
    show (if cp '[' = cp ']' then _ else _) = _
    rw [if_neg (by decide)]
    exact except_bind_of_error hdeep _

/-- One bracket more than the parser may go into. -/
theorem decodeWithin_nested (n : Nat) (rest : PyStr) :
    decodeWithin (some n) (List.replicate (n + 1) (cp '[') ++ rest) = .error .tooDeep := by
  have hparse :=
    parseValue_nested n ((List.replicate (n + 1) (cp '[') ++ rest).length + 1) rest (by simp; omega)
  have hskip : skipSpace (List.replicate (n + 1) (cp '[') ++ rest) =
      List.replicate (n + 1) (cp '[') ++ rest := by
    rw [List.replicate_succ, List.cons_append]
    exact List.dropWhile_cons_of_neg (by decide)
  unfold decodeWithin
  rw [if_neg, hskip, hparse]
  rw [List.replicate_succ, List.cons_append, List.head?_cons]
  decide

end Lib
