/-
Module: NodeGauge.Proofs.Listing.Resources
Purpose: Whether the resource columns of a row with GPUs are single descriptors.  The column of the
  GPUs in use always is one.  Of the column of all GPUs only the front is read, so that a list of
  descriptors passes for its first one.
Main exports: Gres.IsSingle, Gres.Lists, Gres.HasOneGroup, Gres.Describes.isSingle_iff,
  Gres.Lists.describes, Listing.Row.decode_congr_gres, Listing.Row.resource_columns_single,
  Listing.Row.gres_column_not_single
-/
import NodeGauge.Proofs.Listing.Checks

namespace NodeGauge.Gres

/-! ### Single descriptors -/

/-- A text is one descriptor and no more: there is no parenthesis inside its group. -/
structure IsSingle (raw : Text) (d : Descriptor) : Prop where
  describes : Describes raw d
  flat : ∀ group, d.group = some group → '(' ∉ group ∧ ')' ∉ group

/-- What stands behind the first opening parenthesis of a text has no parenthesis in it but the one
at its end. -/
def HasOneGroup (raw : Text) : Prop :=
  ∀ front group, raw = front ++ '(' :: group ++ [')'] → '(' ∉ front →
    '(' ∉ group ∧ ')' ∉ group

/-- A column lists descriptors, each with a group of its own, with commas between. -/
inductive Lists : Text → List Descriptor → Prop where
  | one {entry : Text} {d : Descriptor} (describes : Describes entry d)
      (grouped : d.group.isSome) : Lists entry [d]
  | cons {entry rest : Text} {d : Descriptor} {later : List Descriptor}
      (describes : Describes entry d) (grouped : d.group.isSome) (lists : Lists rest later) :
      Lists (entry ++ ',' :: rest) (d :: later)

/-- The front of a descriptor makes another one with any other group. -/
theorem Describes.exists_head {raw : Text} {d : Descriptor} (describes : Describes raw d) :
    ∃ head, raw = head ++ Descriptor.writeGroup d.group ∧ '(' ∉ head ∧
      ∀ group, Describes (head ++ Descriptor.writeGroup group) { d with group := group } := by
  obtain ⟨count, shape, denotes⟩ := describes
  refine ⟨"gpu:".toList ++ d.gpuType ++ ':' :: count, shape.whole, ?_, ?_⟩
  · simp [shape.typeNoGroup, shape.countNoGroup]
  · intro group
    exact ⟨count, { shape with whole := rfl }, denotes⟩

/-- A descriptor with a group ends with it, and may end with any other group. -/
theorem Describes.exists_group {raw : Text} {d : Descriptor} (describes : Describes raw d)
    (grouped : d.group.isSome) :
    ∃ head group, raw = head ++ '(' :: group ++ [')'] ∧
      ∀ other, Describes (head ++ '(' :: other ++ [')']) { d with group := some other } := by
  obtain ⟨group, present⟩ := Option.isSome_iff_exists.1 grouped
  obtain ⟨head, whole, -, others⟩ := describes.exists_head
  refine ⟨head, group, ?_, fun other => ?_⟩
  · rw [whole, present, Descriptor.writeGroup, ← List.append_assoc]
  · have described := others (some other)
    rwa [Descriptor.writeGroup, ← List.append_assoc] at described

/-- A descriptor is single if there is but one group. -/
theorem Describes.isSingle_iff {raw : Text} {d : Descriptor} (describes : Describes raw d) :
    IsSingle raw d ↔ HasOneGroup raw := by
  obtain ⟨head, whole, noGroup, -⟩ := describes.exists_head
  constructor
  · intro single front group closed noGroupFront
    have split : Descriptor.splitGroup raw = .ok (front, some group) := by
      apply Descriptor.splitGroup_eq_ok_iff.2
      exact ⟨noGroupFront, by rw [closed, Descriptor.writeGroup, ← List.append_assoc]⟩
    have same := split.symm.trans (Descriptor.splitGroup_eq_ok_iff.2 ⟨noGroup, whole⟩)
    obtain ⟨-, grouped⟩ : front = head ∧ some group = d.group := by simpa using same
    exact single.flat group grouped.symm
  · intro one
    refine ⟨describes, fun group grouped => one head group ?_ noGroup⟩
    rw [whole, grouped, Descriptor.writeGroup, ← List.append_assoc]

/-! ### Lists of descriptors -/

/-- A list ends with the group of its last descriptor. -/
theorem Lists.exists_closed {column : Text} {ds : List Descriptor} (lists : Lists column ds) :
    ∃ front, column = front ++ [')'] := by
  induction lists with
  | one describes grouped =>
      obtain ⟨head, group, whole, -⟩ := describes.exists_group grouped
      exact ⟨_, whole⟩
  | @cons entry rest d later describes grouped lists ih =>
      obtain ⟨front, rfl⟩ := ih
      exact ⟨entry ++ ',' :: front, by simp⟩

/-- A list of several descriptors reads as its first one, with a group that goes on through all the
others. -/
theorem Lists.describes {column : Text} {first second : Descriptor} {later : List Descriptor}
    (lists : Lists column (first :: second :: later)) :
    ∃ group, Describes column { first with group := some group } ∧ ')' ∈ group := by
  cases lists with
  | cons describes grouped lists =>
      obtain ⟨head, group, rfl, others⟩ := describes.exists_group grouped
      obtain ⟨front, rfl⟩ := lists.exists_closed
      refine ⟨group ++ ')' :: ',' :: front, ?_, by simp⟩
      have through := others (group ++ ')' :: ',' :: front)
      simpa using through

/-- A list of several descriptors is not a single one. -/
theorem Lists.not_isSingle {column : Text} {first second : Descriptor} {later : List Descriptor}
    (lists : Lists column (first :: second :: later)) (d : Descriptor) : ¬IsSingle column d := by
  obtain ⟨group, describes, closed⟩ := lists.describes
  intro single
  obtain rfl := single.describes.unique describes
  exact (single.flat group rfl).2 closed

/-- A list of indices that has a meaning is made of digits, plus signs, dashes and commas, or it is
the word for no index. -/
theorem Expands.not_mem {devices : UInt64} {list : Text} {bitmap : Bitmap}
    (expands : Expands devices list bitmap) {c : Char} (noDigit : Numeral.isDigit c = false)
    (noSign : c ≠ '+') (noDash : c ≠ '-') (noComma : c ≠ ',') (noWord : c ∉ "N/A".toList) :
    c ∉ list := by
  cases expands with
  | noIndices => exact noWord
  | listed good =>
      intro inside
      have joined : [','].intercalate (list.splitOn ',') = list := List.intercalate_splitOn ','
      rw [← joined] at inside
      rcases Text.mem_of_mem_intercalate inside with same | ⟨item, among, inItem⟩
      · exact noComma same
      · exact (good item among).not_mem noDigit noSign noDash inItem

end NodeGauge.Gres

namespace NodeGauge.Listing.Row

open Gres (Describes Descriptor HasOneGroup IsSingle Lists)
open Node (GpuSection Record)

/-! ### The columns of a row -/

/-- What says that there are no GPUs does not describe any. -/
theorem ne_noResource {raw : Text} {d : Descriptor} (describes : Describes raw d) :
    raw ≠ Gres.noResource := by
  obtain ⟨count, shape, -⟩ := describes
  have first : raw.head? = some 'g' := by
    rw [shape.whole]
    rfl
  rintro rfl
  exact absurd first (by decide)

/-- Of the column of all GPUs only the count matters. -/
theorem decode_congr_gres {row : Row} {other : Text} {d e : Descriptor}
    (describes : Describes row.gres d) (describesOther : Describes other e)
    (same : e.count = d.count) : { row with gres := other }.decode = row.decode := by
  have gpu : readGpu other row.gresUsed = readGpu row.gres row.gresUsed := by
    rw [readGpu, readGpu, Descriptor.read_eq_ok_iff.2 describes,
      Descriptor.read_eq_ok_iff.2 describesOther]
    simp only [bind, Except.bind, same]
  have resources : readResources other row.gresUsed = readResources row.gres row.gresUsed := by
    rw [readResources, readResources, if_neg (ne_noResource describes),
      if_neg (ne_noResource describesOther), gpu]
  rw [decode, decode, resources]

/-- The column of the GPUs in use is a single descriptor, with the list of their indices. -/
theorem isSingle_of_givesGpu {row : Row} {gpu : GpuSection} (gives : row.GivesGpu (some gpu)) :
    ∃ used list, IsSingle row.gresUsed used ∧ used.group = some ("IDX:".toList ++ list) := by
  cases gives with
  | @some all used list bitmap lists few expands =>
      refine ⟨used, list, ⟨lists.describesUsed, ?_⟩, lists.group⟩
      intro group grouped
      obtain rfl := Option.some.inj (lists.group.symm.trans grouped)
      have noOpening : '(' ∉ list := by apply expands.not_mem <;> decide
      have noClosing : ')' ∉ list := by apply expands.not_mem <;> decide
      simp [noOpening, noClosing]

/-- The GPUs of a row are as many as the column of all GPUs counts. -/
theorem describes_of_givesGpu {row : Row} {gpu : GpuSection} (gives : row.GivesGpu (some gpu)) :
    ∃ all, Describes row.gres all ∧ gpu.total = all.count.toNat := by
  cases gives with
  | @some all used list bitmap lists few expands => exact ⟨all, lists.describesAll, expands.length⟩

/-- In a row with GPUs the column of those in use is a single descriptor with an index list, and not
a list of several.  The column of all GPUs is one just if it has but one group.  If it lists several
descriptors, then the row is decoded as if only the first of them stood there, and the GPUs of the
others are not among those of the node. -/
theorem resource_columns_single {row : Row} {r : Record} {gpu : GpuSection}
    (ok : row.decode = .ok r) (present : r.gpu = some gpu) :
    (∃ used list, IsSingle row.gresUsed used ∧ used.group = some ("IDX:".toList ++ list)) ∧
      (∀ first second later, ¬Lists row.gresUsed (first :: second :: later)) ∧
      (∃ all, Describes row.gres all ∧ (IsSingle row.gres all ↔ HasOneGroup row.gres)) ∧
      ∀ first second later, Lists row.gres (first :: second :: later) →
        gpu.total = first.count.toNat ∧
          ∀ entry, Describes entry first → { row with gres := entry }.decode = .ok r := by
  have gives := (gives_of_decode ok).gpu
  rw [present] at gives
  obtain ⟨used, list, single, group⟩ := isSingle_of_givesGpu gives
  obtain ⟨all, describes, total⟩ := describes_of_givesGpu gives
  refine ⟨⟨used, list, single, group⟩, ?_, ⟨all, describes, describes.isSingle_iff⟩, ?_⟩
  · intro first second later lists
    exact lists.not_isSingle used single
  · intro first second later lists
    obtain ⟨through, describesFirst, -⟩ := lists.describes
    obtain rfl := describes.unique describesFirst
    refine ⟨total, fun entry describesEntry => ?_⟩
    rw [decode_congr_gres describes describesEntry rfl, ok]

/-- Two descriptors, each with its own group, in the column of all GPUs. -/
theorem decode_two_descriptors :
    decode ⟨"n1".toList, "1024".toList, "2048".toList, "4/2/0/6".toList, "mixed".toList,
      "gpu:a100:4(S:0),gpu:v100:4(S:1)".toList, "gpu:a100:1(IDX:0)".toList⟩ =
    .ok ⟨"n1".toList, "mixed".toList, ⟨4, 2, 0, 6⟩, ⟨1024, 2048⟩,
      some ⟨"a100".toList, 1, [true, false, false, false]⟩⟩ := by
  decide

/-- Four of eight GPUs are lost. -/
theorem resource_columns_single_two :
    let row : Row := ⟨"n1".toList, "1024".toList, "2048".toList, "4/2/0/6".toList, "mixed".toList,
      "gpu:a100:4(S:0),gpu:v100:4(S:1)".toList, "gpu:a100:1(IDX:0)".toList⟩
    let gpu : GpuSection := ⟨"a100".toList, 1, [true, false, false, false]⟩
    let r : Record := ⟨"n1".toList, "mixed".toList, ⟨4, 2, 0, 6⟩, ⟨1024, 2048⟩, some gpu⟩
    row.decode = .ok r ∧ gpu.total = 4 ∧
      (∃ used list, IsSingle row.gresUsed used ∧ used.group = some ("IDX:".toList ++ list)) ∧
      { row with gres := "gpu:a100:4(S:0)".toList }.decode = .ok r := by
  intro row gpu r
  have first : Describes "gpu:a100:4(S:0)".toList ⟨"a100".toList, 4, some "S:0".toList⟩ :=
    Descriptor.read_eq_ok_iff.1 (by decide)
  have second : Describes "gpu:v100:4(S:1)".toList ⟨"v100".toList, 4, some "S:1".toList⟩ :=
    Descriptor.read_eq_ok_iff.1 (by decide)
  have lists : Lists row.gres
      [⟨"a100".toList, 4, some "S:0".toList⟩, ⟨"v100".toList, 4, some "S:1".toList⟩] :=
    .cons first rfl (.one second rfl)
  obtain ⟨used, -, -, lost⟩ := resource_columns_single decode_two_descriptors rfl
  obtain ⟨total, alike⟩ := lost _ _ _ lists
  exact ⟨decode_two_descriptors, total, used, alike _ first⟩

/-- A column of all GPUs that is no single descriptor is not refused. -/
theorem gres_column_not_single :
    ∃ (row : Row) (r : Record) (gpu : GpuSection), row.decode = .ok r ∧ r.gpu = some gpu ∧
      row.gres = "gpu:a100:4(S:0),gpu:v100:4(S:1)".toList ∧ ∀ d, ¬IsSingle row.gres d := by
  have all : Describes "gpu:a100:4(S:0),gpu:v100:4(S:1)".toList
      ⟨"a100".toList, 4, some "S:0),gpu:v100:4(S:1".toList⟩ :=
    Descriptor.read_eq_ok_iff.1 (by decide)
  refine ⟨_, _, _, decode_two_descriptors, rfl, rfl, fun d single => ?_⟩
  obtain rfl := single.describes.unique all
  exact (single.flat _ rfl).1 (by decide)

end NodeGauge.Listing.Row
