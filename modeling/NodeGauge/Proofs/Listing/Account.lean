/-
Module: NodeGauge.Proofs.Listing.Account
Purpose: What a survey says, line by line: which lines it rejects, which record it keeps for a node,
  and which nodes it names as conflicts.  A survey is taken in one pass over the lines, and one more
  line keeps the account right.
Main exports: Listing.IsLinesOf, Listing.Reports, Listing.IsFirst, Listing.IsSecond,
  Listing.Accounts, Listing.Survey.absorb, Listing.Survey.ofLines_eq_foldl,
  Listing.survey_accounts_for_lines
-/
import NodeGauge.Listing.Survey
import NodeGauge.Proofs.Node.Roster
import NodeGauge.Proofs.Text.Decoding
import NodeGauge.Proofs.Text.Order
import NodeGauge.Proofs.Text.Trimming

namespace NodeGauge.Listing

open Node (Record Roster)

/-! ### What the parts of a survey mean -/

/-- The lines of a listing: what stands between the line feeds of its text, without the white space
at its ends and without the empty texts, each text once, in ascending order of octets. -/
structure IsLinesOf (listing : Octets) (lines : List Text) : Prop where
  ascending : lines.Pairwise fun a b => a.utf8 < b.utf8
  mem_iff : ∀ line, line ∈ lines ↔ line ≠ [] ∧ ∃ text, listing.Decodes text ∧
    ∃ piece ∈ text.splitOn '\n', Text.IsTrimmed piece line

/-- A line reports the node whose record it gives. -/
def Reports (line name : Text) : Prop := ∃ record, readLine line = .ok record ∧ record.name = name

/-- The least of the lines that report a node. -/
structure IsFirst (lines : List Text) (name line : Text) : Prop where
  mem : line ∈ lines
  reports : Reports line name
  least : ∀ other ∈ lines, Reports other name → other = line ∨ line.utf8 < other.utf8

/-- The second-least of the lines that report a node. -/
structure IsSecond (lines : List Text) (name line : Text) : Prop where
  mem : line ∈ lines
  reports : Reports line name
  least : ∃ first, IsFirst lines name first ∧ first.utf8 < line.utf8 ∧
    ∀ other ∈ lines, Reports other name → other = first ∨ other = line ∨ line.utf8 < other.utf8

/-- The rejections are the lines that cannot be read, in their order, each with its own fault. -/
structure RejectsExactly (lines : List Text) (rejected : List Rejection) : Prop where
  sublist : (rejected.map Rejection.line).Sublist lines
  mem_iff : ∀ line fault, ⟨line, fault⟩ ∈ rejected ↔ line ∈ lines ∧ readLine line = .error fault

/-- A name has a record when a line reports it, and the record is that of the least such line. -/
structure KeepsExactly (lines : List Text) (roster : Roster) : Prop where
  has_iff : ∀ name, (roster.find? name).isSome ↔ ∃ line ∈ lines, Reports line name
  first : ∀ name record, roster.find? name = some record →
    record.name = name ∧ ∃ line, IsFirst lines name line ∧ readLine line = .ok record

/-- The conflicts are the names that two lines report, each once, in the order of the second-least
line of each. -/
structure ConflictsExactly (lines : List Text) (conflicts : List Text) : Prop where
  nodup : conflicts.Nodup
  mem_iff : ∀ name, name ∈ conflicts ↔
    ∃ first ∈ lines, ∃ second ∈ lines, first ≠ second ∧ Reports first name ∧ Reports second name
  seconds : ∃ named : List (Text × Text), named.map Prod.fst = conflicts ∧
    (named.map Prod.snd).Sublist lines ∧ ∀ entry ∈ named, IsSecond lines entry.1 entry.2

/-- Every line is rejected, kept as the record of its node, or dropped behind the line that is kept
for its node. -/
structure Parted (lines : List Text) (s : Survey) (kept dropped : List Text) : Prop where
  perm : lines.Perm (s.rejected.map Rejection.line ++ (kept ++ dropped))
  kept_records : (kept.map readLine).Perm (s.roster.records.map Except.ok)
  kept_first : ∀ line ∈ kept, ∃ name, IsFirst lines name line
  dropped_later : ∀ line ∈ dropped, ∃ name ∈ s.conflicts, Reports line name ∧
    ∃ first, IsFirst lines name first ∧ first.utf8 < line.utf8

/-- What a survey says is what its lines mean. -/
structure Accounts (lines : List Text) (s : Survey) : Prop where
  rejected : RejectsExactly lines s.rejected
  roster : KeepsExactly lines s.roster
  conflicts : ConflictsExactly lines s.conflicts
  parted : ∃ kept dropped, Parted lines s kept dropped

/-! ### A survey in one pass -/

namespace Survey

/-- What some lines say when there are none. -/
def empty : Survey := ⟨Roster.empty, [], []⟩

/-- What one more line adds to a survey. -/
def absorb (s : Survey) (line : Text) : Survey :=
  match readLine line with
  | .error fault => { s with rejected := s.rejected ++ [⟨line, fault⟩] }
  | .ok record =>
      if (s.roster.find? record.name).isSome then
        if s.conflicts.contains record.name then s
        else { s with conflicts := s.conflicts ++ [record.name] }
      else { s with roster := s.roster.insert record }

section absorb

variable {s : Survey} {line : Text}

theorem absorb_unreadable {fault : Fault} (unreadable : readLine line = .error fault) :
    s.absorb line = { s with rejected := s.rejected ++ [⟨line, fault⟩] } := by
  simp [absorb, unreadable]

variable {record other : Record} (read : readLine line = .ok record)
include read

theorem absorb_new (new : s.roster.find? record.name = none) :
    s.absorb line = { s with roster := s.roster.insert record } := by
  simp [absorb, read, new]

theorem absorb_second (known : s.roster.find? record.name = some other)
    (once : record.name ∉ s.conflicts) :
    s.absorb line = { s with conflicts := s.conflicts ++ [record.name] } := by
  simp [absorb, read, known, once]

theorem absorb_again (known : s.roster.find? record.name = some other)
    (again : record.name ∈ s.conflicts) : s.absorb line = s := by
  simp [absorb, read, known, again]

end absorb

end Survey

/-- One more name is a repetition when it has occurred, unless it was one already. -/
private theorem repeatedFrom_append (once again names : List Text) (name : Text) :
    repeatedFrom once again (names ++ [name]) =
      if name ∈ again ∨ name ∈ repeatedFrom once again names then repeatedFrom once again names
      else if name ∈ once ∨ name ∈ names then repeatedFrom once again names ++ [name]
      else repeatedFrom once again names := by
  induction names generalizing once again with
  | nil => simp [repeatedFrom]
  | cons first names ih =>
      simp only [List.cons_append, repeatedFrom]
      by_cases inAgain : first ∈ again
      · simp only [inAgain, if_true]
        rw [ih]
        grind
      · by_cases inOnce : first ∈ once
        · simp only [inAgain, inOnce, if_true, if_false]
          rw [ih]
          grind
        · simp only [inAgain, inOnce, if_false]
          rw [ih]
          grind

section repetition

variable {names : List Text} {name : Text}

theorem repeated_append_new (new : name ∉ names) : repeated (names ++ [name]) = repeated names := by
  simp [repeated, repeatedFrom_append, new]

theorem repeated_append_second (known : name ∈ names) (once : name ∉ repeated names) :
    repeated (names ++ [name]) = repeated names ++ [name] := by
  rw [repeated] at once
  simp [repeated, repeatedFrom_append, known, once]

theorem repeated_append_again (again : name ∈ repeated names) :
    repeated (names ++ [name]) = repeated names := by
  rw [repeated] at again
  simp [repeated, repeatedFrom_append, again]

end repetition

/-- The roster of some records finds the names that occur among them. -/
theorem find?_ofList_eq_none_iff (records : List Record) (name : Text) :
    (Roster.ofList records).find? name = none ↔ name ∉ records.map Record.name := by
  simp [Roster.find?_ofList]

namespace Survey

/-- The survey of one line more is the survey with that line absorbed. -/
theorem ofLines_append (lines : List Text) (line : Text) :
    ofLines (lines ++ [line]) = (ofLines lines).absorb line := by
  cases read : readLine line with
  | error fault =>
      rw [absorb_unreadable read]
      simp [ofLines, read, rejection?, Except.toOption]
  | ok record =>
      let records := lines.filterMap fun line => (readLine line).toOption
      have more : ofLines (lines ++ [line]) =
          ⟨(Roster.ofList records).insert record, (ofLines lines).rejected,
            repeated (records.map Record.name ++ [record.name])⟩ := by
        simp [ofLines, read, rejection?, Except.toOption, Roster.ofList_append, records]
      cases known : (Roster.ofList records).find? record.name with
      | none =>
          have new := (find?_ofList_eq_none_iff records record.name).1 known
          rw [more, absorb_new read known, repeated_append_new new]
          rfl
      | some other =>
          have mem : record.name ∈ records.map Record.name := by
            apply Decidable.byContradiction
            intro new
            rw [(find?_ofList_eq_none_iff records record.name).2 new] at known
            simp at known
          rw [more, Roster.insert_of_find?_some known]
          by_cases again : record.name ∈ repeated (records.map Record.name)
          · rw [absorb_again read known again, repeated_append_again again]
            rfl
          · rw [absorb_second read known again, repeated_append_second mem again]
            rfl

/-- A survey is taken in one pass over its lines. -/
theorem ofLines_eq_foldl (lines : List Text) : ofLines lines = lines.foldl absorb empty := by
  have more (rest done : List Text) :
      ofLines (done ++ rest) = rest.foldl absorb (ofLines done) := by
    induction rest generalizing done with
    | nil => simp
    | cons line rest ih => simp [← ofLines_append, ← ih]
  exact more lines []

end Survey

/-! ### One more line -/

section step

variable {lines : List Text} {line name : Text}

/-- A line that comes after some lines in the order of octets. -/
def Follows (lines : List Text) (line : Text) : Prop := ∀ other ∈ lines, other.utf8 < line.utf8

theorem reports_iff {record : Record} (read : readLine line = .ok record) :
    Reports line name ↔ record.name = name := by
  constructor
  · rintro ⟨other, readOther, named⟩
    rw [read, Except.ok.injEq] at readOther
    exact readOther ▸ named
  · intro named
    exact ⟨record, read, named⟩

theorem not_reports {fault : Fault} (unreadable : readLine line = .error fault) :
    ¬ Reports line name := by
  rintro ⟨record, read, _⟩
  rw [unreadable] at read
  cases read

theorem Reports.unique {other : Text} (one : Reports line name) (two : Reports line other) :
    name = other := by
  obtain ⟨record, read, rfl⟩ := one
  exact (reports_iff read).1 two

theorem exists_reports_append :
    (∃ other ∈ lines ++ [line], Reports other name) ↔
      (∃ other ∈ lines, Reports other name) ∨ Reports line name := by
  simp [or_and_right, exists_or]

theorem IsFirst.append {first : Text} (isFirst : IsFirst lines name first)
    (follows : Follows lines line) : IsFirst (lines ++ [line]) name first := by
  refine ⟨List.mem_append_left _ isFirst.mem, isFirst.reports, ?_⟩
  intro other member reports
  rcases List.mem_append.1 member with before | last
  · exact isFirst.least other before reports
  · rw [List.mem_singleton.1 last]
    exact Or.inr (follows first isFirst.mem)

theorem IsSecond.append {second : Text} (isSecond : IsSecond lines name second)
    (follows : Follows lines line) : IsSecond (lines ++ [line]) name second := by
  obtain ⟨first, isFirst, less, least⟩ := isSecond.least
  refine ⟨List.mem_append_left _ isSecond.mem, isSecond.reports,
    first, isFirst.append follows, less, ?_⟩
  intro other member reports
  rcases List.mem_append.1 member with before | last
  · exact least other before reports
  · rw [List.mem_singleton.1 last]
    exact Or.inr (Or.inr (follows second isSecond.mem))

/-- The first report of a node stands for it. -/
theorem IsFirst.of_new (new : ∀ other ∈ lines, ¬ Reports other name)
    (reports : Reports line name) : IsFirst (lines ++ [line]) name line := by
  refine ⟨List.mem_append_right _ (List.mem_singleton_self line), reports, ?_⟩
  intro other member reportsOther
  rcases List.mem_append.1 member with before | last
  · exact absurd reportsOther (new other before)
  · exact Or.inl (List.mem_singleton.1 last)

/-- The report behind the only one so far is the second. -/
theorem IsSecond.of_once {first : Text} (isFirst : IsFirst lines name first)
    (once : ∀ other ∈ lines, Reports other name → other = first) (follows : Follows lines line)
    (reports : Reports line name) : IsSecond (lines ++ [line]) name line := by
  refine ⟨List.mem_append_right _ (List.mem_singleton_self line), reports,
    first, isFirst.append follows, follows first isFirst.mem, ?_⟩
  intro other member reportsOther
  rcases List.mem_append.1 member with before | last
  · exact Or.inl (once other before reportsOther)
  · exact Or.inr (Or.inl (List.mem_singleton.1 last))

/-! #### Rejections -/

theorem RejectsExactly.readable {rejected : List Rejection} {record : Record}
    (exactly : RejectsExactly lines rejected) (read : readLine line = .ok record) :
    RejectsExactly (lines ++ [line]) rejected := by
  constructor
  · exact exactly.sublist.trans (List.sublist_append_left lines [line])
  · intro other fault
    rw [exactly.mem_iff, List.mem_append, List.mem_singleton]
    constructor
    · rintro ⟨member, unreadable⟩
      exact ⟨Or.inl member, unreadable⟩
    · rintro ⟨member | rfl, unreadable⟩
      · exact ⟨member, unreadable⟩
      · rw [read] at unreadable
        cases unreadable

theorem RejectsExactly.unreadable {rejected : List Rejection} {fault : Fault}
    (exactly : RejectsExactly lines rejected) (unreadable : readLine line = .error fault) :
    RejectsExactly (lines ++ [line]) (rejected ++ [⟨line, fault⟩]) := by
  constructor
  · rw [List.map_append]
    exact exactly.sublist.append (List.Sublist.refl _)
  · intro other otherFault
    rw [List.mem_append, exactly.mem_iff, List.mem_append, List.mem_singleton, List.mem_singleton,
      Rejection.mk.injEq]
    constructor
    · rintro (⟨member, unread⟩ | ⟨rfl, rfl⟩)
      · exact ⟨Or.inl member, unread⟩
      · exact ⟨Or.inr rfl, unreadable⟩
    · rintro ⟨member | rfl, unread⟩
      · exact Or.inl ⟨member, unread⟩
      · rw [unreadable, Except.error.injEq] at unread
        exact Or.inr ⟨rfl, unread.symm⟩

/-! #### Records -/

/-- A line that cannot be read, or reports a node that has a record, changes no record. -/
theorem KeepsExactly.known {roster : Roster} (exactly : KeepsExactly lines roster)
    (follows : Follows lines line)
    (known : ∀ name, Reports line name → (roster.find? name).isSome) :
    KeepsExactly (lines ++ [line]) roster := by
  constructor
  · intro name
    rw [exists_reports_append, ← exactly.has_iff]
    constructor
    · exact Or.inl
    · rintro (has | reports)
      · exact has
      · exact known name reports
  · intro name record found
    obtain ⟨named, first, isFirst, read⟩ := exactly.first name record found
    exact ⟨named, first, isFirst.append follows, read⟩

/-- The first line of a node brings its record in. -/
theorem KeepsExactly.new {roster : Roster} {record : Record} (exactly : KeepsExactly lines roster)
    (follows : Follows lines line) (read : readLine line = .ok record)
    (new : roster.find? record.name = none) :
    KeepsExactly (lines ++ [line]) (roster.insert record) := by
  have unreported : ∀ other ∈ lines, ¬ Reports other record.name := by
    intro other member reports
    have has := (exactly.has_iff record.name).2 ⟨other, member, reports⟩
    rw [new] at has
    simp at has
  constructor
  · intro name
    rw [exists_reports_append, ← exactly.has_iff, reports_iff read, Roster.find?_insert]
    split
    · next same => simp [same]
    · next differ => simp [differ]
  · intro name other found
    rw [Roster.find?_insert] at found
    split at found
    · next same =>
        subst same
        rw [new, Option.none_or, Option.some.injEq] at found
        subst found
        exact ⟨rfl, line, IsFirst.of_new unreported ⟨record, read, rfl⟩, read⟩
    · obtain ⟨named, first, isFirst, readFirst⟩ := exactly.first name other found
      exact ⟨named, first, isFirst.append follows, readFirst⟩

/-! #### Conflicts -/

theorem seconds_append {named : List (Text × Text)} (follows : Follows lines line)
    (seconds : ∀ entry ∈ named, IsSecond lines entry.1 entry.2) :
    ∀ entry ∈ named, IsSecond (lines ++ [line]) entry.1 entry.2 :=
  fun entry member => (seconds entry member).append follows

/-- A line of a node that is new or a conflict already makes no conflict. -/
theorem ConflictsExactly.settled {conflicts : List Text}
    (exactly : ConflictsExactly lines conflicts) (follows : Follows lines line)
    (settled : ∀ name, Reports line name →
      name ∈ conflicts ∨ ∀ other ∈ lines, ¬ Reports other name) :
    ConflictsExactly (lines ++ [line]) conflicts := by
  refine ⟨exactly.nodup, ?_, ?_⟩
  · intro name
    rw [exactly.mem_iff]
    constructor
    · rintro ⟨a, aMem, b, bMem, differ, reports⟩
      exact ⟨a, List.mem_append_left _ aMem, b, List.mem_append_left _ bMem, differ, reports⟩
    · rintro ⟨a, aMem, b, bMem, differ, aReports, bReports⟩
      rw [← exactly.mem_iff]
      rcases List.mem_append.1 aMem with aBefore | aLast
      · rcases List.mem_append.1 bMem with bBefore | bLast
        · exact (exactly.mem_iff name).2 ⟨a, aBefore, b, bBefore, differ, aReports, bReports⟩
        · rw [List.mem_singleton.1 bLast] at bReports
          exact (settled name bReports).resolve_right fun none => none a aBefore aReports
      · rw [List.mem_singleton.1 aLast] at aReports differ
        rcases List.mem_append.1 bMem with bBefore | bLast
        · exact (settled name aReports).resolve_right fun none => none b bBefore bReports
        · exact absurd (List.mem_singleton.1 bLast).symm differ
  · obtain ⟨named, names, sublist, seconds⟩ := exactly.seconds
    exact ⟨named, names, sublist.trans (List.sublist_append_left lines [line]),
      seconds_append follows seconds⟩

/-- The second line of a node makes it a conflict. -/
theorem ConflictsExactly.second {conflicts : List Text} {first : Text}
    (exactly : ConflictsExactly lines conflicts) (follows : Follows lines line)
    (isFirst : IsFirst lines name first) (reports : Reports line name) (once : name ∉ conflicts) :
    ConflictsExactly (lines ++ [line]) (conflicts ++ [name]) := by
  have only : ∀ other ∈ lines, Reports other name → other = first := by
    intro other member reportsOther
    apply Decidable.byContradiction
    intro differ
    exact once ((exactly.mem_iff name).2
      ⟨other, member, first, isFirst.mem, differ, reportsOther, isFirst.reports⟩)
  refine ⟨?_, ?_, ?_⟩
  · rw [List.nodup_append]
    refine ⟨exactly.nodup, List.pairwise_singleton _ _, ?_⟩
    rintro other member _ last rfl
    exact once (List.mem_singleton.1 last ▸ member)
  · intro other
    rw [List.mem_append, List.mem_singleton, exactly.mem_iff]
    constructor
    · rintro (⟨a, aMem, b, bMem, differ, both⟩ | rfl)
      · exact ⟨a, List.mem_append_left _ aMem, b, List.mem_append_left _ bMem, differ, both⟩
      · exact ⟨first, List.mem_append_left _ isFirst.mem, line,
          List.mem_append_right _ (List.mem_singleton_self line),
          fun same => List.lt_irrefl _ (same ▸ follows first isFirst.mem),
          isFirst.reports, reports⟩
    · rintro ⟨a, aMem, b, bMem, differ, aReports, bReports⟩
      rcases List.mem_append.1 aMem with aBefore | aLast
      · rcases List.mem_append.1 bMem with bBefore | bLast
        · exact Or.inl ⟨a, aBefore, b, bBefore, differ, aReports, bReports⟩
        · rw [List.mem_singleton.1 bLast] at bReports
          exact Or.inr (Reports.unique bReports reports)
      · rw [List.mem_singleton.1 aLast] at aReports
        exact Or.inr (Reports.unique aReports reports)
  · obtain ⟨named, names, sublist, seconds⟩ := exactly.seconds
    refine ⟨named ++ [(name, line)], ?_, ?_, ?_⟩
    · simp [names]
    · rw [List.map_append]
      exact sublist.append (List.Sublist.refl _)
    · intro entry member
      rcases List.mem_append.1 member with before | last
      · exact seconds_append follows seconds entry before
      · rw [List.mem_singleton.1 last]
        exact IsSecond.of_once isFirst only follows reports

/-! #### Every line -/

section parted

variable {s : Survey} {kept dropped : List Text}

theorem kept_first_append (follows : Follows lines line)
    (first : ∀ l ∈ kept, ∃ name, IsFirst lines name l) :
    ∀ l ∈ kept, ∃ name, IsFirst (lines ++ [line]) name l := by
  intro l member
  obtain ⟨name, isFirst⟩ := first l member
  exact ⟨name, isFirst.append follows⟩

theorem dropped_later_append {conflicts : List Text} (more : List Text)
    (follows : Follows lines line)
    (later : ∀ l ∈ dropped, ∃ name ∈ conflicts, Reports l name ∧
      ∃ first, IsFirst lines name first ∧ first.utf8 < l.utf8) :
    ∀ l ∈ dropped, ∃ name ∈ conflicts ++ more, Reports l name ∧
      ∃ first, IsFirst (lines ++ [line]) name first ∧ first.utf8 < l.utf8 := by
  intro l member
  obtain ⟨name, conflict, reports, first, isFirst, less⟩ := later l member
  exact ⟨name, List.mem_append_left _ conflict, reports, first, isFirst.append follows, less⟩

private theorem perm_append_middle (line : Text) {front back : List Text}
    (perm : lines.Perm (front ++ back)) :
    (lines ++ [line]).Perm (front ++ line :: back) :=
  (List.perm_append_singleton line lines).trans ((perm.cons line).trans List.perm_middle.symm)

theorem Parted.reject (parted : Parted lines s kept dropped) (follows : Follows lines line)
    (fault : Fault) :
    Parted (lines ++ [line]) { s with rejected := s.rejected ++ [⟨line, fault⟩] } kept dropped := by
  refine ⟨?_, parted.kept_records, kept_first_append follows parted.kept_first, ?_⟩
  · have perm := perm_append_middle line parted.perm
    simpa using perm
  · simpa using dropped_later_append [] follows parted.dropped_later

theorem Parted.keep {record : Record} (parted : Parted lines s kept dropped)
    (follows : Follows lines line) (read : readLine line = .ok record)
    (new : s.roster.find? record.name = none) (first : IsFirst (lines ++ [line]) record.name line) :
    Parted (lines ++ [line]) { s with roster := s.roster.insert record }
      (kept ++ [line]) dropped := by
  refine ⟨?_, ?_, ?_, ?_⟩
  · have perm := parted.perm
    rw [← List.append_assoc] at perm
    simpa using perm_append_middle line perm
  · have inserted := ((Roster.perm_insert new).map fun record =>
      (Except.ok record : Except Fault Record)).symm
    rw [List.map_append, List.map_singleton, read]
    exact (List.perm_append_singleton _ _).trans
      ((parted.kept_records.cons (Except.ok record)).trans inserted)
  · intro l member
    rcases List.mem_append.1 member with before | last
    · exact kept_first_append follows parted.kept_first l before
    · exact ⟨record.name, (List.mem_singleton.1 last) ▸ first⟩
  · simpa using dropped_later_append [] follows parted.dropped_later

theorem Parted.drop {first : Text} (more : List Text) (parted : Parted lines s kept dropped)
    (follows : Follows lines line) (isFirst : IsFirst lines name first)
    (reports : Reports line name) (conflict : name ∈ s.conflicts ++ more) :
    Parted (lines ++ [line]) { s with conflicts := s.conflicts ++ more }
      kept (dropped ++ [line]) := by
  refine ⟨?_, parted.kept_records, kept_first_append follows parted.kept_first, ?_⟩
  · have perm := parted.perm
    rw [← List.append_nil (_ ++ (kept ++ dropped))] at perm
    simpa using perm_append_middle line perm
  · intro l member
    rcases List.mem_append.1 member with before | last
    · exact dropped_later_append more follows parted.dropped_later l before
    · rw [List.mem_singleton.1 last]
      exact ⟨name, conflict, reports, first, isFirst.append follows, follows first isFirst.mem⟩

end parted

/-! #### The whole survey -/

/-- Nothing said of no lines is right. -/
theorem Accounts.empty : Accounts [] Survey.empty := by
  refine ⟨⟨?_, ?_⟩, ⟨?_, ?_⟩, ⟨?_, ?_, ?_⟩, [], [], ?_, ?_, ?_, ?_⟩
  all_goals simp [Survey.empty, Roster.empty, Roster.find?]

/-- A line behind all others keeps the account right. -/
theorem Accounts.absorb {s : Survey} (accounts : Accounts lines s) (follows : Follows lines line) :
    Accounts (lines ++ [line]) (s.absorb line) := by
  obtain ⟨kept, dropped, parted⟩ := accounts.parted
  cases read : readLine line with
  | error fault =>
      have silent (name : Text) : ¬ Reports line name := not_reports read
      rw [Survey.absorb_unreadable read]
      exact
        { rejected := accounts.rejected.unreadable read
          roster := accounts.roster.known follows fun name reports => absurd reports (silent name)
          conflicts := accounts.conflicts.settled follows fun name reports =>
            absurd reports (silent name)
          parted := ⟨kept, dropped, parted.reject follows fault⟩ }
  | ok record =>
      have reports : Reports line record.name := ⟨record, read, rfl⟩
      cases known : s.roster.find? record.name with
      | none =>
          have unreported : ∀ other ∈ lines, ¬ Reports other record.name := by
            intro other member reportsOther
            have has := (accounts.roster.has_iff record.name).2 ⟨other, member, reportsOther⟩
            rw [known] at has
            simp at has
          have first := IsFirst.of_new unreported reports
          rw [Survey.absorb_new read known]
          exact
            { rejected := accounts.rejected.readable read
              roster := accounts.roster.new follows read known
              conflicts := accounts.conflicts.settled follows fun name reportsName =>
                Or.inr (Reports.unique reports reportsName ▸ unreported)
              parted := ⟨kept ++ [line], dropped, parted.keep follows read known first⟩ }
      | some other =>
          obtain ⟨_, first, isFirst, _⟩ := accounts.roster.first _ _ known
          have roster := accounts.roster.known follows fun name reportsName => by
            rw [← Reports.unique reports reportsName, known]
            rfl
          have rejected := accounts.rejected.readable read
          by_cases again : record.name ∈ s.conflicts
          · rw [Survey.absorb_again read known again]
            have conflicts := accounts.conflicts.settled follows fun name reportsName =>
              Or.inl (Reports.unique reports reportsName ▸ again)
            have more := parted.drop [] follows isFirst reports (by simpa using again)
            rw [List.append_nil] at more
            exact ⟨rejected, roster, conflicts, kept, dropped ++ [line], more⟩
          · rw [Survey.absorb_second read known again]
            exact
              { rejected := rejected
                roster := roster
                conflicts := accounts.conflicts.second follows isFirst reports again
                parted := ⟨kept, dropped ++ [line],
                  parted.drop [record.name] follows isFirst reports (by simp)⟩ }

end step

/-- Surveys of ascending lines give the right account of them. -/
theorem accounts_ofLines {lines : List Text}
    (ascending : lines.Pairwise fun a b => a.utf8 < b.utf8) :
    Accounts lines (Survey.ofLines lines) := by
  have pass (rest done : List Text) (s : Survey) (accounts : Accounts done s)
      (ascending : (done ++ rest).Pairwise fun a b => a.utf8 < b.utf8) :
      Accounts (done ++ rest) (rest.foldl Survey.absorb s) := by
    induction rest generalizing done s with
    | nil => simpa using accounts
    | cons line rest ih =>
        have follows : Follows done line := fun other member =>
          (List.pairwise_append.1 ascending).2.2 other member line List.mem_cons_self
        have next := ih (done ++ [line]) (s.absorb line) (accounts.absorb follows)
          (by simpa using ascending)
        simpa using next
  rw [Survey.ofLines_eq_foldl]
  exact pass lines [] Survey.empty Accounts.empty ascending

theorem mem_linesOf {listing : Octets} {line : Text} :
    line ∈ linesOf listing ↔
      line ≠ [] ∧ ∃ piece ∈ listing.decode.splitOn '\n', Text.trim piece = line := by
  rw [linesOf, Text.mem_distinctSorted, List.mem_filter, List.mem_map]
  constructor
  · rintro ⟨⟨piece, member, rfl⟩, full⟩
    exact ⟨by simpa using full, piece, member, rfl⟩
  · rintro ⟨full, piece, member, rfl⟩
    exact ⟨⟨piece, member, rfl⟩, by simpa using full⟩

/-- The lines that a survey is taken of are those of its listing. -/
theorem isLinesOf_linesOf (listing : Octets) : IsLinesOf listing (linesOf listing) := by
  constructor
  · exact (Text.pairwise_distinctSorted _).imp Text.utf8_lt_utf8
  · intro line
    simp only [Octets.decodes_iff, Text.isTrimmed_iff, exists_eq_left', mem_linesOf]

theorem IsLinesOf.unique {listing : Octets} {lines other : List Text}
    (isLines : IsLinesOf listing lines) (isOther : IsLinesOf listing other) : other = lines := by
  apply Text.eq_of_pairwise_of_mem_iff
  · exact isOther.ascending.imp Text.utf8_lt_utf8_iff.1
  · exact isLines.ascending.imp Text.utf8_lt_utf8_iff.1
  · intro line
    rw [isOther.mem_iff, isLines.mem_iff]

theorem accounts_survey (listing : Octets) : Accounts (linesOf listing) (survey listing) :=
  accounts_ofLines (isLinesOf_linesOf listing).ascending

/-- A listing has its lines, and its survey says what they mean: it rejects the lines that cannot be
read, keeps for each node the record of the least line that reports it, names as conflicts the nodes
that two lines report, and leaves no line out. -/
theorem survey_accounts_for_lines (listing : Octets) :
    ∃ lines, IsLinesOf listing lines ∧ (∀ other, IsLinesOf listing other → other = lines) ∧
      Accounts lines (survey listing) := by
  have isLines := isLinesOf_linesOf listing
  refine ⟨linesOf listing, isLines, ?_, ?_⟩
  · intro other isOther
    exact isLines.unique isOther
  · exact accounts_ofLines isLines.ascending

end NodeGauge.Listing
