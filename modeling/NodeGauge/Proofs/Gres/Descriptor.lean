/-
Module: NodeGauge.Proofs.Gres.Descriptor
Purpose: The text of a descriptor, which reads back as the descriptor.
Main exports: Gres.Descriptor.write, Gres.Descriptor.WellFormed, Gres.Descriptor.splitGroup_append,
  Gres.Descriptor.splitOn_head_iff, Gres.Descriptor.read_write
-/
import NodeGauge.Gres.Descriptor
import NodeGauge.Proofs.Number.Numeral

namespace NodeGauge.Gres.Descriptor

/-- A group between its parentheses, or nothing. -/
def writeGroup : Option Text → Text
  | none => []
  | some group => '(' :: group ++ [')']

/-- The text of a descriptor: the resource, the type and the count with colons between, and the
group behind them. -/
def write (d : Descriptor) : Text :=
  "gpu:".toList ++ d.gpuType ++ ':' :: Numeral.write d.count ++ writeGroup d.group

/-- A type that can stand in a descriptor. -/
structure WellFormed (d : Descriptor) : Prop where
  ne_nil : d.gpuType ≠ []
  noColon : ':' ∉ d.gpuType
  noGroup : '(' ∉ d.gpuType

/-- The part of a descriptor in front of its group. -/
def head (d : Descriptor) : Text := "gpu:".toList ++ d.gpuType ++ ':' :: Numeral.write d.count

theorem noGroup_head {d : Descriptor} (wellFormed : d.WellFormed) : '(' ∉ d.head := by
  have count : '(' ∉ Numeral.write d.count := Numeral.not_mem_ofNat (by decide) _
  simp [head, wellFormed.noGroup, count]

/-- A group is found behind any text without an opening parenthesis. -/
theorem splitGroup_append {head : Text} (noGroup : '(' ∉ head) (group : Option Text) :
    splitGroup (head ++ writeGroup group) = .ok (head, group) := by
  cases group with
  | none => rw [splitGroup, writeGroup, List.append_nil, Text.cut_eq_none_iff.2 noGroup]
  | some inner =>
      have cut : (head ++ writeGroup (some inner)).cut '(' = some (head, inner ++ [')']) :=
        Text.cut_eq_some_iff.2 ⟨by simp [writeGroup], noGroup⟩
      rw [splitGroup, cut]
      simp

/-- The three parts of a head. -/
theorem splitOn_head_iff {head gpuType count : Text} :
    head.splitOn ':' = ["gpu".toList, gpuType, count] ↔
      ':' ∉ gpuType ∧ ':' ∉ count ∧ head = "gpu:".toList ++ gpuType ++ ':' :: count := by
  rw [Text.splitOn_eq_iff (by simp)]
  simp [and_assoc]

/-- A well-formed descriptor is read from its text. -/
theorem read_write {d : Descriptor} (wellFormed : d.WellFormed) : read d.write = .ok d := by
  have full : d.gpuType.isEmpty = false := by simpa using wellFormed.ne_nil
  have group : splitGroup d.write = .ok (d.head, d.group) :=
    splitGroup_append (noGroup_head wellFormed) d.group
  have parts : d.head.splitOn ':' = ["gpu".toList, d.gpuType, Numeral.write d.count] :=
    splitOn_head_iff.2 ⟨wellFormed.noColon, Numeral.not_mem_ofNat (by decide) _, rfl⟩
  rw [read, group]
  simp only [bind, Except.bind, parts]
  simp [full, Numeral.read?_write]

end NodeGauge.Gres.Descriptor
