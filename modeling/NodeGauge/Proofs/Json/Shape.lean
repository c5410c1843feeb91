/-
Module: NodeGauge.Proofs.Json.Shape
Purpose: The slots of a structure and the steps of its reader: what one key, one member and the end
  of an object bring.
Main exports: Json.Shape.eq_of_key_eq, Json.Shape.Slots.holding, Json.Shape.Slots.complete_holding,
  Json.Shape.readMember_key, Json.Shape.readMembers_key
-/
import Mathlib.Data.List.Nodup
import NodeGauge.Json.Shape
import NodeGauge.Proofs.Json.Reader

namespace NodeGauge.Json.Shape

variable {shape : Shape}

/-! ### Fields and keys -/

/-- A key belongs to one field. -/
theorem eq_of_key_eq {f g : shape.Field} (same : shape.key f = shape.key g) : f = g :=
  List.inj_on_of_nodup_map shape.nodup_keys (shape.mem_fields f) (shape.mem_fields g) same

/-- The key of a field finds that field. -/
theorem find?_key (f : shape.Field) :
    shape.fields.find? (fun g => shape.key g = shape.key f) = some f := by
  cases found : shape.fields.find? (fun g => shape.key g = shape.key f) with
  | none =>
      have unlike := List.find?_eq_none.1 found f (shape.mem_fields f)
      simp at unlike
  | some g =>
      have same : shape.key g = shape.key f := by simpa using List.find?_some found
      rw [eq_of_key_eq same]

/-- The fields whose keys are among some names. -/
def among (names : List Text) : List shape.Field :=
  shape.fields.filter fun f => names.contains (shape.key f)

theorem mem_among {names : List Text} {f : shape.Field} :
    f ∈ among names ↔ shape.key f ∈ names := by
  simp [among, shape.mem_fields f]

/-! ### Slots -/

namespace Slots

variable (contents : shape.Contents)

/-- The slots in which some fields have their contents and no other field has any. -/
def holding (fields : List shape.Field) : shape.Slots :=
  fun f => if f ∈ fields then some (contents f) else none

theorem holding_nil : holding contents [] = empty := by
  funext f
  simp [holding, empty]

theorem holding_among_nil : holding contents (among []) = empty := by
  funext f
  exact if_neg (mt mem_among.1 List.not_mem_nil)

theorem holding_congr {fields others : List shape.Field}
    (same : ∀ f, f ∈ fields ↔ f ∈ others) : holding contents fields = holding contents others := by
  funext f
  simp only [holding, same f]

theorem holding_eq_none {fields : List shape.Field} {f : shape.Field} (new : f ∉ fields) :
    holding contents fields f = none :=
  if_neg new

theorem put_holding (fields : List shape.Field) (f : shape.Field) :
    (holding contents fields).put f (contents f) = holding contents (f :: fields) := by
  funext g
  by_cases same : f = g
  · subst same
    simp [put, holding]
  · simp [put, holding, same, Ne.symm same]

/-- Slots are complete if no field is missing but those that stand for what they have. -/
theorem complete_holding {fields : List shape.Field}
    (full : ∀ f, f ∈ fields ∨ shape.default? f = some (contents f)) :
    (holding contents fields).complete = .ok contents := by
  have content (f : shape.Field) : (holding contents fields).content? f = some (contents f) := by
    by_cases held : f ∈ fields
    · simp [content?, holding, held]
    · simp [content?, holding, held, (full f).resolve_left held]
  unfold complete
  split
  · next f missing =>
      have none := List.find?_some missing
      rw [content f] at none
      cases none
  · congr
    funext f
    simp only [content f, Option.get_some]

end Slots

/-! ### Members -/

theorem nextKey_gap (first : Bool) {gap : Text} (blank : IsGap gap) (s : Text) :
    nextKey first (gap ++ s) = nextKey first s := by
  rw [nextKey, nextKey, skipBlank_gap blank]

theorem readColon_gap {gap : Text} (blank : IsGap gap) (s : Text) :
    readColon (gap ++ s) = readColon s := by
  rw [readColon, readColon, skipBlank_gap blank]

section key

variable {gap key name : Text} (blank : IsGap gap) (string : IsString key name) (rest : Text)
include blank string

theorem nextKey_first_spaced :
    nextKey true (gap ++ (key ++ rest)) = .ok (.key name rest) := by
  obtain ⟨body, rfl, read⟩ := string.exists_body
  have mark (s : Text) : skipBlank ('"' :: s) = '"' :: s := skipBlank_cons (by decide) s
  have noEnd : ¬ '"' = '\x7d' := by decide
  rw [nextKey_gap true blank, List.cons_append]
  simp only [nextKey, mark, if_neg noEnd, if_true, readKey, read, Except.map]

theorem nextKey_comma_spaced {before : Text} (blankBefore : IsGap before) :
    nextKey false (before ++ ',' :: (gap ++ (key ++ rest))) = .ok (.key name rest) := by
  obtain ⟨body, rfl, read⟩ := string.exists_body
  have mark (s : Text) : skipBlank ('"' :: s) = '"' :: s := skipBlank_cons (by decide) s
  have comma (s : Text) : skipBlank (',' :: s) = ',' :: s := skipBlank_cons (by decide) s
  have noEnd : ¬ ',' = '\x7d' := by decide
  rw [nextKey_gap false blankBefore, List.cons_append]
  simp only [nextKey, comma, skipBlank_gap blank, mark, if_neg noEnd, if_true, Bool.false_eq_true,
    if_false, readKey, read, Except.map]

end key

theorem nextKey_end (first : Bool) (rest : Text) :
    nextKey first ('\x7d' :: rest) = .ok (.finished rest) := by
  have brace : skipBlank ('\x7d' :: rest) = '\x7d' :: rest := skipBlank_cons (by decide) rest
  simp only [nextKey, brace, if_true]

theorem readColon_cons (rest : Text) : readColon (':' :: rest) = .ok rest := by
  have colon : skipBlank (':' :: rest) = ':' :: rest := skipBlank_cons (by decide) rest
  simp only [readColon, colon, if_true]

/-- The content of a field that has none yet goes into its slot. -/
theorem readMember_key {slots : shape.Slots} {f : shape.Field} {v : shape.Content f}
    {s after rest : Text} (free : slots f = none) (colon : readColon s = .ok after)
    (read : shape.readContent f after = .ok (v, rest)) :
    readMember slots (shape.key f) s = .ok (slots.put f v, rest) := by
  simp only [readMember, find?_key, free, Option.isSome_none, Bool.false_eq_true, if_false, colon,
    read, Except.map]

theorem readMembers_key {first : Bool} {slots filled : shape.Slots} {s name after rest : Text}
    (found : nextKey first s = .ok (.key name after))
    (read : readMember slots name after = .ok (filled, rest)) :
    readMembers first slots s = readMembers false filled rest := by
  rw [readMembers]
  split
  · next other => cases found.symm.trans other
  · next other => cases found.symm.trans other
  · next other =>
      cases found.symm.trans other
      split
      · next other => cases read.symm.trans other
      · next other =>
          cases read.symm.trans other
          rfl

theorem readMembers_finished {first : Bool} {slots : shape.Slots} {s rest : Text}
    (found : nextKey first s = .ok (.finished rest)) :
    readMembers first slots s = .ok (slots, rest) := by
  rw [readMembers]
  split
  · next other => cases found.symm.trans other
  · next other =>
      cases found.symm.trans other
      rfl
  · next other => cases found.symm.trans other

end NodeGauge.Json.Shape
