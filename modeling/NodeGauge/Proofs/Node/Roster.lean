/-
Module: NodeGauge.Proofs.Node.Roster
Purpose: A roster as a map from names to records: what a name finds, what adding a record changes,
  and that the map determines the roster.
Main exports: Node.Roster.find?_eq_some_iff, Node.Roster.find?_insert, Node.Roster.perm_insert,
  Node.Roster.find?_ofList, Node.Roster.eq_of_find?_eq
-/
import NodeGauge.Node.Roster
import NodeGauge.Proofs.Text.Order

namespace NodeGauge.Node.Roster

/-! ### What a name finds -/

theorem find?_empty (name : Text) : empty.find? name = none := rfl

/-- A name finds its own record. -/
theorem name_of_find? {r : Roster} {name : Text} {record : Record}
    (found : r.find? name = some record) : record.name = name := by
  have named := List.find?_some found
  simpa using named

theorem mem_of_find? {r : Roster} {name : Text} {record : Record}
    (found : r.find? name = some record) : record ∈ r.records :=
  List.mem_of_find?_eq_some found

/-- In ascending order of names, the name of a record finds that record and no other. -/
private theorem find?_of_mem {records : List Record} {record : Record}
    (ascending : records.Pairwise fun a b => a.name < b.name) (member : record ∈ records) :
    records.find? (·.name = record.name) = some record := by
  induction records with
  | nil => simp at member
  | cons first rest ih =>
      obtain ⟨least, ascending⟩ := List.pairwise_cons.1 ascending
      rcases List.mem_cons.1 member with rfl | later
      · simp
      · have differ : first.name ≠ record.name := fun same =>
          List.lt_irrefl _ (same ▸ least record later)
        rw [List.find?_cons_of_neg (by simpa using differ)]
        exact ih ascending later

theorem find?_eq_some_iff {r : Roster} {name : Text} {record : Record} :
    r.find? name = some record ↔ record ∈ r.records ∧ record.name = name := by
  constructor
  · intro found
    exact ⟨mem_of_find? found, name_of_find? found⟩
  · rintro ⟨member, rfl⟩
    exact find?_of_mem r.ascending member

theorem find?_eq_none_iff {r : Roster} {name : Text} :
    r.find? name = none ↔ ∀ record ∈ r.records, record.name ≠ name := by
  simp [find?]

/-! ### Adding a record -/

/-- A record of a new name comes among the others, and a known name changes nothing. -/
private theorem perm_place {record : Record} {records : List Record}
    (new : ∀ other ∈ records, other.name ≠ record.name) :
    (place record records).Perm (record :: records) := by
  induction records with
  | nil => exact List.Perm.refl _
  | cons first rest ih =>
      have differ : record.name ≠ first.name := Ne.symm (new first List.mem_cons_self)
      have later : (place record rest).Perm (record :: rest) :=
        ih fun other member => new other (List.mem_cons_of_mem _ member)
      simp only [place, differ, if_false]
      split
      · exact List.Perm.refl _
      · exact (later.cons first).trans (List.Perm.swap record first rest)

private theorem place_of_mem {record : Record} {records : List Record}
    (ascending : records.Pairwise fun a b => a.name < b.name)
    (known : ∃ other ∈ records, other.name = record.name) : place record records = records := by
  induction records with
  | nil => simp at known
  | cons first rest ih =>
      obtain ⟨least, ascending⟩ := List.pairwise_cons.1 ascending
      obtain ⟨other, member, same⟩ := known
      simp only [place]
      rcases List.mem_cons.1 member with rfl | later
      · rw [if_neg (same ▸ List.lt_irrefl _), if_pos same.symm]
      · have greater : first.name < record.name := same ▸ least other later
        have notLess : ¬ record.name < first.name := List.lt_asymm greater
        have differ : record.name ≠ first.name := fun equal =>
          List.lt_irrefl _ (equal ▸ greater)
        rw [if_neg notLess, if_neg differ, ih ascending ⟨other, later, same⟩]

theorem insert_of_find?_some {r : Roster} {record other : Record}
    (known : r.find? record.name = some other) : r.insert record = r := by
  obtain ⟨member, same⟩ := find?_eq_some_iff.1 known
  exact ext (place_of_mem r.ascending ⟨other, member, same⟩)

theorem perm_insert {r : Roster} {record : Record} (new : r.find? record.name = none) :
    (r.insert record).records.Perm (record :: r.records) :=
  perm_place (find?_eq_none_iff.1 new)

/-- Adding a record gives it to its name unless the name has one, and touches no other name. -/
theorem find?_insert (r : Roster) (record : Record) (name : Text) :
    (r.insert record).find? name =
      if record.name = name then (r.find? name).or (some record) else r.find? name := by
  cases known : r.find? record.name with
  | some other =>
      rw [insert_of_find?_some known]
      split
      · next same => rw [← same, known, Option.some_or]
      · rfl
  | none =>
      have members (other : Record) := (perm_insert known).mem_iff (a := other)
      apply Option.ext
      intro found
      rw [find?_eq_some_iff, members, List.mem_cons]
      split
      · next same =>
          rw [← same, known, Option.none_or, Option.some.injEq]
          constructor
          · rintro ⟨rfl | member, named⟩
            · rfl
            · exact absurd named (find?_eq_none_iff.1 known found member)
          · rintro rfl
            exact ⟨Or.inl rfl, rfl⟩
      · next differ =>
          rw [find?_eq_some_iff]
          constructor
          · rintro ⟨rfl | member, named⟩
            · exact absurd named differ
            · exact ⟨member, named⟩
          · rintro ⟨member, named⟩
            exact ⟨Or.inr member, named⟩

/-! ### Rosters of lists -/

theorem ofList_append (records : List Record) (record : Record) :
    ofList (records ++ [record]) = (ofList records).insert record := by
  simp [ofList]

private theorem find?_foldl_insert (records : List Record) (r : Roster) (name : Text) :
    (records.foldl insert r).find? name =
      (r.find? name).or (records.find? (·.name = name)) := by
  induction records generalizing r with
  | nil => simp
  | cons record records ih =>
      rw [List.foldl_cons, ih, find?_insert]
      by_cases same : record.name = name
      · simp [same]
      · simp [same]

/-- The first record of a name is the one that stays. -/
theorem find?_ofList (records : List Record) (name : Text) :
    (ofList records).find? name = records.find? (·.name = name) := by
  rw [ofList, find?_foldl_insert, find?_empty, Option.none_or]

/-! ### Rosters as maps -/

theorem nodup_names (r : Roster) : (r.records.map Record.name).Nodup :=
  Text.nodup_of_pairwise (List.pairwise_map.2 r.ascending)

theorem nodup_records (r : Roster) : r.records.Nodup := by
  apply List.Pairwise.imp _ (List.pairwise_map.1 r.nodup_names)
  intro a b differ same
  exact differ (congrArg Record.name same)

/-- Two rosters in which every name finds the same are one. -/
theorem eq_of_find?_eq {a b : Roster} (same : ∀ name, a.find? name = b.find? name) : a = b := by
  have members (record : Record) : record ∈ a.records ↔ record ∈ b.records := by
    have found := same record.name
    constructor
    · intro member
      rw [find?_eq_some_iff.2 ⟨member, rfl⟩] at found
      exact mem_of_find? found.symm
    · intro member
      rw [find?_eq_some_iff.2 ⟨member, rfl⟩] at found
      exact mem_of_find? found
  have perm : a.records.Perm b.records :=
    (List.perm_ext_iff_of_nodup a.nodup_records b.nodup_records).2 members
  apply ext
  apply List.Perm.eq_of_pairwise _ a.ascending b.ascending perm
  intro first second _ _ less greater
  exact absurd greater (List.lt_asymm less)

end NodeGauge.Node.Roster
