/-
Module: NodeGauge.Proofs.Gres.Grammar
Purpose: Which texts are descriptors of GPUs and of what, and which fault every other text has.
Main exports: Gres.HasShape, Gres.Describes, Gres.DescriptorFault, Gres.Descriptor.read_eq_ok_iff,
  Gres.Descriptor.read_eq_error_iff, Gres.Descriptor.indexList?_eq_some_iff, Gres.HasShape.unique,
  Gres.describes_iff, Gres.Descriptor.read_follows_grammar
-/
import NodeGauge.Proofs.Gres.Descriptor

namespace NodeGauge.Gres

/-- A text has the shape of a descriptor: the resource, a type and a count with colons between, and
behind them one group in parentheses, or none.  The count need not be a number, and the group is
closed at the very end of the text. -/
structure HasShape (raw gpuType count : Text) (group : Option Text) : Prop where
  whole : raw = "gpu:".toList ++ gpuType ++ ':' :: count ++ Descriptor.writeGroup group
  typed : gpuType ≠ []
  typeNoColon : ':' ∉ gpuType
  typeNoGroup : '(' ∉ gpuType
  countNoColon : ':' ∉ count
  countNoGroup : '(' ∉ count

/-- A text is a descriptor: it has the shape of one, and its count is a number. -/
def Describes (raw : Text) (d : Descriptor) : Prop :=
  ∃ count, HasShape raw d.gpuType count d.group ∧ Numeral.Denotes count d.count

/-- Why a text is no descriptor. -/
inductive DescriptorFault (raw : Text) : Fault → Prop where
  | malformed (shapeless : ∀ gpuType count group, ¬HasShape raw gpuType count group) :
      DescriptorFault raw (.malformed raw)
  | count {gpuType count : Text} {group : Option Text} (shape : HasShape raw gpuType count group)
      (noNumber : ∀ n, ¬Numeral.Denotes count n) : DescriptorFault raw (.countNotNumber count)

namespace Descriptor

theorem eq_of_splitGroup {raw head : Text} {group : Option Text}
    (split : splitGroup raw = .ok (head, group)) :
    '(' ∉ head ∧ raw = head ++ writeGroup group := by
  rw [splitGroup] at split
  cases cut : raw.cut '(' with
  | none =>
      rw [cut] at split
      obtain ⟨rfl, rfl⟩ : raw = head ∧ none = group := by simpa using split
      exact ⟨Text.cut_eq_none_iff.1 cut, by simp [writeGroup]⟩
  | some parts =>
      obtain ⟨front, rest⟩ := parts
      obtain ⟨whole, noGroup⟩ := Text.cut_eq_some_iff.1 cut
      rw [cut] at split
      simp only at split
      split at split
      · next closed =>
          obtain ⟨rfl, rfl⟩ : front = head ∧ some rest.dropLast = group := by simpa using split
          obtain ⟨inner, rfl⟩ := List.getLast?_eq_some_iff.1 closed
          exact ⟨noGroup, by simp [whole, writeGroup]⟩
      · cases split

theorem splitGroup_eq_ok_iff {raw head : Text} {group : Option Text} :
    splitGroup raw = .ok (head, group) ↔ '(' ∉ head ∧ raw = head ++ writeGroup group := by
  constructor
  · exact eq_of_splitGroup
  · rintro ⟨noGroup, rfl⟩
    exact splitGroup_append noGroup group

theorem splitGroup_eq_error {raw : Text} {fault : Fault} (refused : splitGroup raw = .error fault) :
    fault = .malformed raw := by
  rw [splitGroup] at refused
  split at refused
  · cases refused
  · split at refused
    · cases refused
    · exact (Except.error.inj refused).symm

/-- A text has the shape of a descriptor if its group and the parts of its head are found. -/
theorem hasShape_iff {raw gpuType count : Text} {group : Option Text} :
    HasShape raw gpuType count group ↔
      ∃ head, splitGroup raw = .ok (head, group) ∧
        head.splitOn ':' = ["gpu".toList, gpuType, count] ∧ gpuType ≠ [] := by
  simp only [splitGroup_eq_ok_iff, splitOn_head_iff]
  constructor
  · intro shape
    have noGroup : '(' ∉ "gpu:".toList ++ gpuType ++ ':' :: count := by
      simp [shape.typeNoGroup, shape.countNoGroup]
    exact ⟨_, ⟨noGroup, shape.whole⟩, ⟨shape.typeNoColon, shape.countNoColon, rfl⟩, shape.typed⟩
  · rintro ⟨_, ⟨noGroup, whole⟩, ⟨typeNoColon, countNoColon, rfl⟩, typed⟩
    simp only [List.mem_append, List.mem_cons, not_or] at noGroup
    obtain ⟨⟨-, typeNoGroup⟩, -, countNoGroup⟩ := noGroup
    exact ⟨whole, typed, typeNoColon, typeNoGroup, countNoColon, countNoGroup⟩

theorem read_of_hasShape {raw gpuType count : Text} {group : Option Text}
    (shape : HasShape raw gpuType count group) :
    read raw = match Numeral.read? count with
      | some n => .ok ⟨gpuType, n, group⟩
      | none => .error (.countNotNumber count) := by
  obtain ⟨head, split, parts, typed⟩ := hasShape_iff.1 shape
  have full : gpuType.isEmpty = false := by simpa using typed
  rw [read, split]
  simp only [bind, Except.bind, parts]
  cases number : Numeral.read? count <;> simp [full, number]

theorem read_of_shapeless {raw : Text}
    (shapeless : ∀ gpuType count group, ¬HasShape raw gpuType count group) :
    read raw = .error (.malformed raw) := by
  rw [read]
  cases split : splitGroup raw with
  | error fault =>
      obtain rfl := splitGroup_eq_error split
      rfl
  | ok found =>
      obtain ⟨head, group⟩ := found
      simp only [bind, Except.bind]
      split
      · next gpuType count parts =>
          have untyped : gpuType.isEmpty = true := by
            by_contra typed
            refine shapeless gpuType count group (hasShape_iff.2 ⟨head, split, parts, ?_⟩)
            simpa using typed
          rw [if_pos untyped]
      · rfl

/-- A text is read as the descriptor that it is. -/
theorem read_eq_ok_iff {raw : Text} {d : Descriptor} : read raw = .ok d ↔ Describes raw d := by
  constructor
  · intro ok
    by_cases shaped : ∃ gpuType count group, HasShape raw gpuType count group
    · obtain ⟨gpuType, count, group, shape⟩ := shaped
      rw [read_of_hasShape shape] at ok
      cases number : Numeral.read? count with
      | none => simp [number] at ok
      | some n =>
          rw [number] at ok
          obtain rfl := Except.ok.inj ok
          exact ⟨count, shape, Numeral.read?_eq_some_iff.1 number⟩
    · rw [read_of_shapeless (by simpa using shaped)] at ok
      cases ok
  · rintro ⟨count, shape, denotes⟩
    rw [read_of_hasShape shape, Numeral.read?_eq_some_iff.2 denotes]

/-- A text that is no descriptor is refused for what is wrong with it. -/
theorem read_eq_error_iff {raw : Text} {fault : Fault} :
    read raw = .error fault ↔ DescriptorFault raw fault := by
  constructor
  · intro refused
    by_cases shaped : ∃ gpuType count group, HasShape raw gpuType count group
    · obtain ⟨gpuType, count, group, shape⟩ := shaped
      rw [read_of_hasShape shape] at refused
      cases number : Numeral.read? count with
      | some n => simp [number] at refused
      | none =>
          rw [number] at refused
          obtain rfl := Except.error.inj refused
          exact .count shape (Numeral.read?_eq_none_iff.1 number)
    · have shapeless : ∀ gpuType count group, ¬HasShape raw gpuType count group := by
        simpa using shaped
      rw [read_of_shapeless shapeless] at refused
      obtain rfl := Except.error.inj refused
      exact .malformed shapeless
  · intro bad
    cases bad with
    | malformed shapeless => exact read_of_shapeless shapeless
    | count shape noNumber =>
        rw [read_of_hasShape shape, Numeral.read?_eq_none_iff.2 noNumber]

/-- A descriptor lists indices if its group says so in front. -/
theorem indexList?_eq_some_iff {d : Descriptor} {list : Text} :
    d.indexList? = some list ↔ d.group = some ("IDX:".toList ++ list) := by
  rw [indexList?]
  split
  · next found group => simp [group]
  · next none =>
      simp only [reduceCtorEq, false_iff]
      exact none list

end Descriptor

section unique

variable {raw : Text}

theorem Describes.unique {d e : Descriptor} (one : Describes raw d) (two : Describes raw e) :
    d = e := by
  rw [← Descriptor.read_eq_ok_iff] at one two
  exact Except.ok.inj (one.symm.trans two)

theorem DescriptorFault.unique {fault other : Fault} (one : DescriptorFault raw fault)
    (two : DescriptorFault raw other) : fault = other := by
  rw [← Descriptor.read_eq_error_iff] at one two
  exact Except.error.inj (one.symm.trans two)

theorem DescriptorFault.not_describes {fault : Fault} (bad : DescriptorFault raw fault)
    (d : Descriptor) : ¬Describes raw d := by
  rw [← Descriptor.read_eq_ok_iff, Descriptor.read_eq_error_iff.2 bad]
  simp

/-- A text has one shape at most. -/
theorem HasShape.unique {gpuType count otherType otherCount : Text} {group other : Option Text}
    (one : HasShape raw gpuType count group) (two : HasShape raw otherType otherCount other) :
    gpuType = otherType ∧ count = otherCount ∧ group = other := by
  obtain ⟨head, split, parts, -⟩ := Descriptor.hasShape_iff.1 one
  obtain ⟨otherHead, otherSplit, otherParts, -⟩ := Descriptor.hasShape_iff.1 two
  obtain ⟨rfl, rfl⟩ : head = otherHead ∧ group = other := by
    simpa using split.symm.trans otherSplit
  obtain ⟨rfl, rfl⟩ : gpuType = otherType ∧ count = otherCount := by
    simpa using parts.symm.trans otherParts
  exact ⟨rfl, rfl, rfl⟩

end unique

/-! ### The grammar as a whole -/

/-- Neither a colon nor a parenthesis stands in a number, so of a descriptor only the type needs to
be free of them. -/
theorem describes_iff {raw : Text} {d : Descriptor} :
    Describes raw d ↔ ∃ digits,
      raw = "gpu:".toList ++ d.gpuType ++ ':' :: digits ++ Descriptor.writeGroup d.group ∧
        d.WellFormed ∧ Numeral.Denotes digits d.count := by
  constructor
  · rintro ⟨digits, shape, denotes⟩
    exact ⟨digits, shape.whole, ⟨shape.typed, shape.typeNoColon, shape.typeNoGroup⟩, denotes⟩
  · rintro ⟨digits, whole, wellFormed, denotes⟩
    have noColon : ':' ∉ digits := denotes.not_mem (by decide) (by decide)
    have noGroup : '(' ∉ digits := denotes.not_mem (by decide) (by decide)
    exact ⟨digits, ⟨whole, wellFormed.ne_nil, wellFormed.noColon, wellFormed.noGroup, noColon,
      noGroup⟩, denotes⟩

/-- A group is closed at the very end of the text. -/
theorem HasShape.getLast? {raw gpuType count : Text} {group : Option Text}
    (shape : HasShape raw gpuType count group) (opened : '(' ∈ raw) : raw.getLast? = some ')' := by
  have noGroup : '(' ∉ "gpu:".toList ++ gpuType ++ ':' :: count := by
    simp [shape.typeNoGroup, shape.countNoGroup]
  cases group with
  | none =>
      rw [shape.whole, Descriptor.writeGroup, List.append_nil] at opened
      exact absurd opened noGroup
  | some inner =>
      have closed : raw = "gpu:".toList ++ gpuType ++ ':' :: count ++ '(' :: inner ++ [')'] := by
        rw [shape.whole, Descriptor.writeGroup, ← List.append_assoc]
      rw [closed, List.getLast?_concat]

namespace Descriptor

theorem read_eq_countNotNumber_iff {raw count : Text} :
    read raw = .error (.countNotNumber count) ↔
      (∃ gpuType group, HasShape raw gpuType count group) ∧ ∀ n, ¬Numeral.Denotes count n := by
  rw [read_eq_error_iff]
  constructor
  · intro bad
    cases bad with
    | count shape noNumber => exact ⟨⟨_, _, shape⟩, noNumber⟩
  · rintro ⟨⟨_, _, shape⟩, noNumber⟩
    exact .count shape noNumber

theorem read_eq_malformed_iff {raw : Text} :
    read raw = .error (.malformed raw) ↔
      ∀ gpuType count group, ¬HasShape raw gpuType count group := by
  rw [read_eq_error_iff]
  constructor
  · intro bad
    cases bad with
    | malformed shapeless => exact shapeless
  · exact .malformed

/-- A text is read just if it is the resource, a type and a number with colons between, and behind
them one group in parentheses, or none; and then into these parts.  A text has no second reading,
not even if the count is left open.  If the count is no number, then the count is at fault, and in
every other case the whole text, such as when a group is opened that the last character does not
close. -/
theorem read_follows_grammar (raw : Text) :
    (∀ d, read raw = .ok d ↔ ∃ digits,
        raw = "gpu:".toList ++ d.gpuType ++ ':' :: digits ++ writeGroup d.group ∧
          d.WellFormed ∧ Numeral.Denotes digits d.count) ∧
      (∀ gpuType count group otherType otherCount other,
        HasShape raw gpuType count group → HasShape raw otherType otherCount other →
          gpuType = otherType ∧ count = otherCount ∧ group = other) ∧
      (∀ d list, read raw = .ok d →
        (d.indexList? = some list ↔ d.group = some ("IDX:".toList ++ list))) ∧
      (∀ count, read raw = .error (.countNotNumber count) ↔
        (∃ gpuType group, HasShape raw gpuType count group) ∧ ∀ n, ¬Numeral.Denotes count n) ∧
      (∀ fault, read raw = .error fault →
        (∃ count, fault = .countNotNumber count) ∨ fault = .malformed raw) ∧
      (read raw = .error (.malformed raw) ↔
        ∀ gpuType count group, ¬HasShape raw gpuType count group) ∧
      ('(' ∈ raw → raw.getLast? ≠ some ')' → read raw = .error (.malformed raw)) := by
  refine ⟨?_, ?_, ?_, fun _ => read_eq_countNotNumber_iff, ?_, read_eq_malformed_iff, ?_⟩
  · intro d
    rw [read_eq_ok_iff, describes_iff]
  · intro gpuType count group otherType otherCount other one two
    exact one.unique two
  · intro d list _
    exact indexList?_eq_some_iff
  · intro fault refused
    cases read_eq_error_iff.1 refused with
    | malformed => exact Or.inr rfl
    | count => exact Or.inl ⟨_, rfl⟩
  · intro opened notClosed
    apply read_eq_malformed_iff.2
    intro gpuType count group shape
    exact notClosed (shape.getLast? opened)

/-- Parentheses and colons that are not marks; a count of 64 bits and one more; and a group that is
not closed, so that its count is not looked at. -/
theorem read_follows_grammar_marks :
    read "gpu:a):+7((IDX:0)))".toList = .ok ⟨"a)".toList, 7, some "(IDX:0))".toList⟩ ∧
      read "gpu:a:18446744073709551616()".toList =
        .error (.countNotNumber "18446744073709551616".toList) ∧
      read "gpu:a:x(S:0-1".toList = .error (.malformed "gpu:a:x(S:0-1".toList) := by
  obtain ⟨accepted, -⟩ := read_follows_grammar "gpu:a):+7((IDX:0)))".toList
  obtain ⟨-, -, -, count, -⟩ := read_follows_grammar "gpu:a:18446744073709551616()".toList
  obtain ⟨-, -, -, -, -, -, malformed⟩ := read_follows_grammar "gpu:a:x(S:0-1".toList
  refine ⟨?_, ?_, malformed (by decide) (by decide)⟩
  · have denotes : Numeral.Denotes "+7".toList 7 := Numeral.read?_eq_some_iff.1 (by decide)
    exact (accepted _).2 ⟨_, rfl, by constructor <;> decide, denotes⟩
  · have noNumber := Numeral.read?_eq_none_iff.1
      (show Numeral.read? "18446744073709551616".toList = none by decide)
    have shape : HasShape "gpu:a:18446744073709551616()".toList "a".toList
        "18446744073709551616".toList (some []) := by
      constructor <;> decide
    exact (count _).2 ⟨⟨_, _, shape⟩, noNumber⟩

end Descriptor

end NodeGauge.Gres
