/-
Module: NodeGauge.Proofs.Listing.Merge
Purpose: Two listings one behind the other say what each of them says: no node is lost, the lesser
  row stands for a node that both report, and rows that cannot be read change nothing but the
  rejections.
Main exports: Listing.joined, Listing.Survives, Listing.Merges, Listing.find?_eq_some_iff_survives,
  Listing.survey_of_joined_merges
-/
import NodeGauge.Proofs.Listing.Account
import NodeGauge.Proofs.Listing.Rows

namespace NodeGauge.Listing

open Node (Record Roster)

/-- Two listings one behind the other, with a line feed between them. -/
def joined (first second : Octets) : Octets := first ++ Octets.feed :: second

/-- The row text that stands for a node: the least line that reports the node. -/
def Survives (listing : Octets) (name line : Text) : Prop := IsFirst (linesOf listing) name line

/-- A row that gives no record. -/
def Unreadable (row : Octets) : Prop := ∀ record, readLine (lineOf row) ≠ .ok record

/-- What two listings say when they are taken together. -/
structure Merges (first second both : Octets) : Prop where
  has_iff : ∀ name, ((survey both).roster.find? name).isSome ↔
    ((survey first).roster.find? name).isSome ∨ ((survey second).roster.find? name).isSome
  /-- The lesser of the two row texts stands for a node, or the only one if one listing has none. -/
  survives_iff : ∀ name line, Survives both name line ↔
    Survives first name line ∧ (∀ other, Survives second name other → ¬other.utf8 < line.utf8) ∨
    Survives second name line ∧ ∀ other, Survives first name other → ¬other.utf8 < line.utf8
  rejected_ascending :
    (survey both).rejected.Pairwise fun one other => one.line.utf8 < other.line.utf8
  rejected_iff : ∀ r, r ∈ (survey both).rejected ↔
    r ∈ (survey first).rejected ∨ r ∈ (survey second).rejected
  conflict_iff : ∀ name, name ∈ (survey both).conflicts ↔
    name ∈ (survey first).conflicts ∨ name ∈ (survey second).conflicts ∨
    ∃ one other, Survives first name one ∧ Survives second name other ∧ one ≠ other

/-! ### Least lines -/

section least

variable {lines : List Text} {name line other : Text}

theorem IsFirst.not_lt (isFirst : IsFirst lines name line) (member : other ∈ lines)
    (reports : Reports other name) : ¬other < line := by
  cases isFirst.least other member reports with
  | inl same => exact same ▸ List.lt_irrefl _
  | inr less => exact List.lt_asymm (Text.utf8_lt_utf8_iff.1 less)

theorem isFirst_of_not_lt (member : line ∈ lines) (reports : Reports line name)
    (least : ∀ other ∈ lines, Reports other name → ¬other < line) : IsFirst lines name line := by
  refine ⟨member, reports, ?_⟩
  intro other among reportsOther
  have notBelow := least other among reportsOther
  by_cases above : line < other
  · exact Or.inr (Text.utf8_lt_utf8 above)
  · exact Or.inl (Text.eq_of_not_lt above notBelow)

theorem IsFirst.unique (one : IsFirst lines name line) (two : IsFirst lines name other) :
    line = other :=
  Text.eq_of_not_lt (one.not_lt two.mem two.reports) (two.not_lt one.mem one.reports)

end least

/-! ### Surveys and their rows -/

section survey

variable {listing : Octets} {name line : Text}

/-- A node that some line reports has a least such line. -/
theorem exists_survives (member : line ∈ linesOf listing) (reports : Reports line name) :
    ∃ least, Survives listing name least := by
  have keeps := (accounts_survey listing).roster
  have has := (keeps.has_iff name).2 ⟨line, member, reports⟩
  obtain ⟨record, found⟩ := Option.isSome_iff_exists.1 has
  obtain ⟨-, least, isFirst, -⟩ := keeps.first name record found
  exact ⟨least, isFirst⟩

/-- A survey keeps the record of the row text that stands for a node. -/
theorem find?_eq_some_iff_survives {record : Record} :
    (survey listing).roster.find? name = some record ↔
      ∃ line, Survives listing name line ∧ readLine line = .ok record := by
  have keeps := (accounts_survey listing).roster
  constructor
  · intro found
    obtain ⟨-, least, isFirst, read⟩ := keeps.first name record found
    exact ⟨least, isFirst, read⟩
  · rintro ⟨line, isFirst, read⟩
    have has := (keeps.has_iff name).2 ⟨line, isFirst.mem, isFirst.reports⟩
    obtain ⟨kept, found⟩ := Option.isSome_iff_exists.1 has
    obtain ⟨-, least, isLeast, readLeast⟩ := keeps.first name kept found
    obtain rfl := isLeast.unique isFirst
    rw [read, Except.ok.injEq] at readLeast
    rw [found, readLeast]

end survey

/-! ### Two listings taken together -/

section joined

variable (first second : Octets)

theorem rowsOf_joined : rowsOf (joined first second) = rowsOf first ++ rowsOf second :=
  List.splitOn_append_cons_self first second

theorem mem_linesOf_joined {line : Text} :
    line ∈ linesOf (joined first second) ↔ line ∈ linesOf first ∨ line ∈ linesOf second := by
  simp only [mem_linesOf_iff, rowsOf_joined, List.mem_append, or_and_right, exists_or, and_or_left]

variable {first second} {name line : Text}

theorem survives_joined_iff : Survives (joined first second) name line ↔
    Survives first name line ∧ (∀ other, Survives second name other → ¬other < line) ∨
    Survives second name line ∧ ∀ other, Survives first name other → ¬other < line := by
  have members {line : Text} : line ∈ linesOf (joined first second) ↔
      line ∈ linesOf first ∨ line ∈ linesOf second := mem_linesOf_joined first second
  constructor
  · intro least
    have below {other : Text} (among : other ∈ linesOf first ∨ other ∈ linesOf second)
        (reports : Reports other name) : ¬other < line :=
      least.not_lt (members.2 among) reports
    cases members.1 least.mem with
    | inl inFirst =>
        left
        constructor
        · exact isFirst_of_not_lt inFirst least.reports fun other among => below (Or.inl among)
        · intro other survives
          exact below (Or.inr survives.mem) survives.reports
    | inr inSecond =>
        right
        constructor
        · exact isFirst_of_not_lt inSecond least.reports fun other among => below (Or.inr among)
        · intro other survives
          exact below (Or.inl survives.mem) survives.reports
  · have below {listing : Octets} {other : Text}
        (bound : ∀ other, Survives listing name other → ¬other < line)
        (among : other ∈ linesOf listing) (reports : Reports other name) : ¬other < line := by
      -- No line of a listing is below its survivor, to which alone the bound refers.
      obtain ⟨least, survives⟩ := exists_survives among reports
      exact Text.not_lt_trans (bound least survives) (survives.not_lt among reports)
    intro either
    cases either with
    | inl ofFirst =>
        obtain ⟨survives, bound⟩ := ofFirst
        apply isFirst_of_not_lt (members.2 (Or.inl survives.mem)) survives.reports
        intro other among reports
        cases members.1 among with
        | inl inFirst => exact survives.not_lt inFirst reports
        | inr inSecond => exact below bound inSecond reports
    | inr ofSecond =>
        obtain ⟨survives, bound⟩ := ofSecond
        apply isFirst_of_not_lt (members.2 (Or.inr survives.mem)) survives.reports
        intro other among reports
        cases members.1 among with
        | inl inFirst => exact below bound inFirst reports
        | inr inSecond => exact survives.not_lt inSecond reports

theorem has_joined_iff : ((survey (joined first second)).roster.find? name).isSome ↔
    ((survey first).roster.find? name).isSome ∨ ((survey second).roster.find? name).isSome := by
  simp only [(accounts_survey _).roster.has_iff, mem_linesOf_joined, or_and_right, exists_or]

theorem mem_rejected_joined_iff {r : Rejection} :
    r ∈ (survey (joined first second)).rejected ↔
      r ∈ (survey first).rejected ∨ r ∈ (survey second).rejected := by
  obtain ⟨line, fault⟩ := r
  simp only [(accounts_survey _).rejected.mem_iff, mem_linesOf_joined, or_and_right]

/-- The rejections of a listing are in ascending order of their lines, each once. -/
theorem rejected_ascending (listing : Octets) :
    (survey listing).rejected.Pairwise fun one other => one.line.utf8 < other.line.utf8 := by
  have sublist := (accounts_survey listing).rejected.sublist
  have ascending := (isLinesOf_linesOf listing).ascending.sublist sublist
  rw [List.pairwise_map] at ascending
  exact ascending

/-- Two different lines of a node make a conflict. -/
theorem conflict_of_ne {listing : Octets} {one other : Text} (oneMem : one ∈ linesOf listing)
    (otherMem : other ∈ linesOf listing) (differ : one ≠ other) (oneReports : Reports one name)
    (otherReports : Reports other name) : name ∈ (survey listing).conflicts :=
  ((accounts_survey listing).conflicts.mem_iff name).2
    ⟨one, oneMem, other, otherMem, differ, oneReports, otherReports⟩

/-- A node that each listing reports, by lines that are not all the same, is a conflict of one of
them, or they keep different lines for it. -/
theorem conflict_across {one other : Text} (oneMem : one ∈ linesOf first)
    (otherMem : other ∈ linesOf second) (differ : one ≠ other) (oneReports : Reports one name)
    (otherReports : Reports other name) :
    name ∈ (survey first).conflicts ∨ name ∈ (survey second).conflicts ∨
      ∃ one other, Survives first name one ∧ Survives second name other ∧ one ≠ other := by
  obtain ⟨kept, survives⟩ := exists_survives oneMem oneReports
  obtain ⟨keptOther, survivesOther⟩ := exists_survives otherMem otherReports
  by_cases same : kept = keptOther
  · subst same
    by_cases isKept : one = kept
    · subst isKept
      exact Or.inr (Or.inl
        (conflict_of_ne survivesOther.mem otherMem differ oneReports otherReports))
    · exact Or.inl (conflict_of_ne oneMem survives.mem isKept oneReports survives.reports)
  · exact Or.inr (Or.inr ⟨kept, keptOther, survives, survivesOther, same⟩)

theorem mem_conflicts_joined_iff : name ∈ (survey (joined first second)).conflicts ↔
    name ∈ (survey first).conflicts ∨ name ∈ (survey second).conflicts ∨
      ∃ one other, Survives first name one ∧ Survives second name other ∧ one ≠ other := by
  have members {line : Text} : line ∈ linesOf (joined first second) ↔
      line ∈ linesOf first ∨ line ∈ linesOf second := mem_linesOf_joined first second
  constructor
  · intro conflict
    obtain ⟨one, oneMem, other, otherMem, differ, oneReports, otherReports⟩ :=
      ((accounts_survey _).conflicts.mem_iff name).1 conflict
    cases members.1 oneMem with
    | inl oneFirst =>
        cases members.1 otherMem with
        | inl otherFirst =>
            exact Or.inl (conflict_of_ne oneFirst otherFirst differ oneReports otherReports)
        | inr otherSecond =>
            exact conflict_across oneFirst otherSecond differ oneReports otherReports
    | inr oneSecond =>
        cases members.1 otherMem with
        | inl otherFirst =>
            exact conflict_across otherFirst oneSecond differ.symm otherReports oneReports
        | inr otherSecond =>
            exact Or.inr (Or.inl
              (conflict_of_ne oneSecond otherSecond differ oneReports otherReports))
  · have among {listing : Octets}
        (within : ∀ line ∈ linesOf listing, line ∈ linesOf (joined first second))
        (conflict : name ∈ (survey listing).conflicts) :
        name ∈ (survey (joined first second)).conflicts := by
      obtain ⟨one, oneMem, other, otherMem, differ, oneReports, otherReports⟩ :=
        ((accounts_survey listing).conflicts.mem_iff name).1 conflict
      exact conflict_of_ne (within one oneMem) (within other otherMem) differ oneReports
        otherReports
    rintro (ofFirst | ofSecond | ⟨one, other, survives, survivesOther, differ⟩)
    · exact among (fun line member => members.2 (Or.inl member)) ofFirst
    · exact among (fun line member => members.2 (Or.inr member)) ofSecond
    · exact conflict_of_ne (members.2 (Or.inl survives.mem)) (members.2 (Or.inr survivesOther.mem))
        differ survives.reports survivesOther.reports

theorem merges_joined (first second : Octets) : Merges first second (joined first second) where
  has_iff name := has_joined_iff
  survives_iff name line := by
    simp only [Text.utf8_lt_utf8_iff]
    exact survives_joined_iff
  rejected_ascending := rejected_ascending _
  rejected_iff r := mem_rejected_joined_iff
  conflict_iff name := mem_conflicts_joined_iff

end joined

/-! ### Rows that cannot be read -/

/-- The records that some lines give, in their order. -/
def recordsOf (lines : List Text) : List Record :=
  lines.filterMap fun line => (readLine line).toOption

theorem mem_filter_readable_iff {lines : List Text} {line : Text} :
    line ∈ lines.filter (fun line => (readLine line).toOption.isSome) ↔
      line ∈ lines ∧ ∃ record, readLine line = .ok record := by
  rw [List.mem_filter]
  cases readLine line <;> simp [Except.toOption]

/-- Ascending lines give the same records if the readable ones among them are the same. -/
theorem recordsOf_eq {lines others : List Text} (ascending : lines.Pairwise (· < ·))
    (othersAscending : others.Pairwise (· < ·))
    (same : ∀ line record, readLine line = .ok record → (line ∈ lines ↔ line ∈ others)) :
    recordsOf lines = recordsOf others := by
  have readable : lines.filter (fun line => (readLine line).toOption.isSome) =
      others.filter (fun line => (readLine line).toOption.isSome) := by
    apply Text.eq_of_pairwise_of_mem_iff
    · exact ascending.filter _
    · exact othersAscending.filter _
    · intro line
      rw [mem_filter_readable_iff, mem_filter_readable_iff]
      apply and_congr_left
      rintro ⟨record, read⟩
      exact same line record read
  have own (lines : List Text) : recordsOf (lines.filter fun line =>
      (readLine line).toOption.isSome) = recordsOf lines := by
    have kept : (fun line => if (readLine line).toOption.isSome then (readLine line).toOption
        else none) = fun line => (readLine line).toOption := by
      funext line
      cases readLine line <;> rfl
    rw [recordsOf, List.filterMap_filter, kept, recordsOf]
  rw [← own lines, ← own others, readable]

theorem recordsOf_joined_unreadable (first : Octets) {second : Octets}
    (unreadable : ∀ row ∈ rowsOf second, Unreadable row) :
    recordsOf (linesOf (joined first second)) = recordsOf (linesOf first) := by
  apply recordsOf_eq (ascending_linesOf _) (ascending_linesOf _)
  intro line record read
  rw [mem_linesOf_joined]
  constructor
  · rintro (inFirst | inSecond)
    · exact inFirst
    · obtain ⟨-, row, member, rfl⟩ := mem_linesOf_iff.1 inSecond
      exact absurd read (unreadable row member record)
  · exact Or.inl

/-! ### What two listings say together -/

/-- Two listings one behind the other say what both of them say, and the record of a node is that of
its surviving row text.  If no row of the second can be read, then the records, and the conflicts in
their order, are those of the first. -/
theorem survey_of_joined_merges :
    (∀ first second, Merges first second (joined first second)) ∧
    (∀ listing name record, (survey listing).roster.find? name = some record ↔
      ∃ line, Survives listing name line ∧ readLine line = .ok record) ∧
    ∀ first second, (∀ row ∈ rowsOf second, Unreadable row) →
      (survey (joined first second)).roster = (survey first).roster ∧
      (survey (joined first second)).conflicts = (survey first).conflicts := by
  refine ⟨merges_joined, ?_, ?_⟩
  · intro listing name record
    exact find?_eq_some_iff_survives
  · intro first second unreadable
    have records := recordsOf_joined_unreadable first unreadable
    constructor
    · exact congrArg Roster.ofList records
    · exact congrArg (fun records => repeated (records.map Record.name)) records

/-- A row of too few columns and a row whose processor column is none, behind two rows that conflict
over the node that both bad rows name. -/
theorem survey_of_joined_merges_unreadable :
    let first : Octets := Text.utf8 ("n 0 8 0/2/0/2 idle (null) (null)".toList ++
      '\n' :: "n 0 9 0/2/0/2 idle (null) (null)".toList)
    let second : Octets := Text.utf8 ("n".toList ++
      '\n' :: "n 0 8 bogus idle (null) (null)".toList)
    (∀ row ∈ rowsOf second, Unreadable row) ∧
      (survey (joined first second)).roster = (survey first).roster ∧
      (survey (joined first second)).conflicts = (survey first).conflicts := by
  intro first second
  have rows : rowsOf second =
      [Text.utf8 "n".toList, Text.utf8 "n 0 8 bogus idle (null) (null)".toList] := by decide
  have unreadable : ∀ row ∈ rowsOf second, Unreadable row := by
    have short : readLine (Text.trim "n".toList) = .error (.wrongColumnCount 1) := rfl
    have bogus : readLine (Text.trim "n 0 8 bogus idle (null) (null)".toList) =
        .error (.malformedCpu "bogus".toList) := rfl
    rw [rows]
    simp only [List.forall_mem_cons, Unreadable, lineOf, Octets.decode_utf8, short, bogus]
    simp
  exact ⟨unreadable, survey_of_joined_merges.2.2 first second unreadable⟩

end NodeGauge.Listing
