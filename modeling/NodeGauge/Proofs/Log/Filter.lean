/-
Module: NodeGauge.Proofs.Log.Filter
Purpose: The most specific directive about an event decides whether it is written, and of a list of
  targets with levels that is the one with the longest target.
Main exports: Log.Filter.Decides, Log.Filter.admits_iff, Log.Filter.admits_of_important, Log.Rule,
  Log.Filter.ofText_rules, Log.Filter.admits_rules_iff, Log.Filter.admits_level_iff
-/
import NodeGauge.Log.Filter
import NodeGauge.Proofs.Choice
import NodeGauge.Proofs.Text.Trimming
import NodeGauge.Proofs.Text.Utf8

namespace NodeGauge.Log

/-! ### The directive that decides -/

theorem Directive.compareBySpecificity_eq :
    compareBySpecificity = compareLex (compareOn fun d : Directive => d.target.map width)
      (compareLex (compareOn fun d => d.field.isSome)
        (compareLex (compareOn fun d => d.target) (compareOn fun d => d.field))) := rfl

instance : Std.TransCmp Directive.compareBySpecificity := by
  rw [Directive.compareBySpecificity_eq]
  infer_instance

namespace Filter

/-- A directive decides about an event if it is about it, none before it that is about it is more
specific, and all behind it that are about it are less specific. -/
def Decides (f : Filter) (e : Event) (d : Directive) : Prop :=
  ∃ before after, f.directives = before ++ d :: after ∧ d.concerns e = true ∧
    (∀ b ∈ before, b.concerns e = true → d.compareBySpecificity b ≠ .lt) ∧
    ∀ a ∈ after, a.concerns e = true → a.compareBySpecificity d = .lt

theorem overrides_total (a b : Directive) (loses : overrides a b = false) :
    overrides b a = true := by
  have less : a.compareBySpecificity b = .lt := by simpa [overrides] using loses
  have greater := Std.OrientedCmp.gt_of_lt less
  simp [overrides, greater]

theorem overrides_trans (a b c : Directive) (first : overrides a b = true)
    (second : overrides b c = true) : overrides a c = true := by
  have isGE (x y : Directive) : overrides x y = (x.compareBySpecificity y).isGE := by
    cases h : x.compareBySpecificity y <;> simp [overrides, h]
  rw [isGE] at first second ⊢
  exact Std.TransCmp.isGE_trans first second

theorem decides_iff {f : Filter} {e : Event} {d : Directive} :
    f.Decides e d ↔ (f.directives.filter (·.concerns e)).foldl (pick overrides) none = some d := by
  rw [foldl_pick_eq_some_iff overrides_total overrides_trans]
  constructor
  · rintro ⟨before, after, whole, about, least, greatest⟩
    refine ⟨before.filter (·.concerns e), after.filter (·.concerns e), ?_, ?_, ?_⟩
    · rw [whole, List.filter_append, List.filter_cons, if_pos about]
    · intro b member
      obtain ⟨among, concerned⟩ := List.mem_filter.1 member
      simpa [overrides] using least b among concerned
    · intro a member
      obtain ⟨among, concerned⟩ := List.mem_filter.1 member
      simpa [overrides] using greatest a among concerned
  · rintro ⟨front, back, whole, least, greatest⟩
    obtain ⟨before, rest, split, rfl, behind⟩ := List.filter_eq_append_iff.1 whole
    obtain ⟨between, after, rfl, others, about, rfl⟩ := List.filter_eq_cons_iff.1 behind
    refine ⟨before ++ between, after, by simpa using split, about, ?_, ?_⟩
    · intro b member concerned
      rcases List.mem_append.1 member with among | unconcerned
      · simpa [overrides] using least b (List.mem_filter.2 ⟨among, concerned⟩)
      · exact absurd concerned (others b unconcerned)
    · intro a member concerned
      simpa [overrides] using greatest a (List.mem_filter.2 ⟨member, concerned⟩)

theorem Decides.unique {f : Filter} {e : Event} {d other : Directive} (one : f.Decides e d)
    (two : f.Decides e other) : d = other := by
  rw [decides_iff] at one two
  exact Option.some.inj (one.symm.trans two)

/-- An event is written if its level is within the threshold of the directive that decides. -/
theorem admits_iff {f : Filter} {e : Event} :
    f.admits e = true ↔ ∃ d, f.Decides e d ∧ e.level.rank ≤ d.threshold := by
  simp only [decides_iff]
  rw [admits]
  split
  · next d kept =>
      have decides : (f.directives.filter (·.concerns e)).foldl (pick overrides) none = some d := by
        rw [← kept]
        congr 1
        funext best next
        cases best <;> rfl
      simp [decides]
  · next kept =>
      have nobody : (f.directives.filter (·.concerns e)).foldl (pick overrides) none = none := by
        rw [← kept]
        congr 1
        funext best next
        cases best <;> rfl
      simp [nobody]

/-- Whoever sees an event sees every more important one from the same place with the same fields. -/
theorem admits_of_important {f : Filter} {e : Event} {level : Level}
    (important : level.rank ≤ e.level.rank) (admitted : f.admits e = true) :
    f.admits { e with level } = true := by
  obtain ⟨d, decides, within⟩ := admits_iff.1 admitted
  exact admits_iff.2 ⟨d, decides, Nat.le_trans important within⟩

end Filter

/-! ### Levels by target -/

theorem threshold?_word (level : Level) : threshold? level.word = some level.rank := by
  cases level <;> decide

theorem Level.isWord_word (level : Level) : Text.IsWord level.word := by
  cases level <;> decide

theorem bounds_of_isAlphanum {c : Char} (alphanum : c.isAlphanum = true) :
    0x20 < c.toNat ∧ c.toNat < 0x80 := by
  have bounds {first last : Char} (least : c.val ≥ first.val) (greatest : c.val ≤ last.val)
      (above : 0x20 < first.toNat) (below : last.toNat < 0x80) : 0x20 < c.toNat ∧ c.toNat < 0x80 :=
    ⟨Nat.lt_of_lt_of_le above (UInt32.le_iff_toNat_le.1 least),
      Nat.lt_of_le_of_lt (UInt32.le_iff_toNat_le.1 greatest) below⟩
  rcases Bool.or_eq_true_iff.1 alphanum with letter | digit
  · rcases Bool.or_eq_true_iff.1 letter with upper | lower
    · obtain ⟨least, greatest⟩ := of_decide_eq_true upper
      exact bounds least greatest (by decide) (by decide)
    · obtain ⟨least, greatest⟩ := Bool.and_eq_true_iff.1 lower
      exact bounds (of_decide_eq_true least) (of_decide_eq_true greatest) (by decide) (by decide)
  · obtain ⟨least, greatest⟩ := Bool.and_eq_true_iff.1 digit
    exact bounds (of_decide_eq_true least) (of_decide_eq_true greatest) (by decide) (by decide)

/-- A text that can name a part of a program: ASCII letters and digits, underscores and colons. -/
structure IsPath (s : Text) : Prop where
  ne_nil : s ≠ []
  plain : ∀ c ∈ s, c.isAlphanum = true ∨ c = '_' ∨ c = ':'

namespace IsPath

variable {s : Text}

theorem not_mem {mark : Char} (path : IsPath s) (special : mark.isAlphanum = false)
    (underscore : mark ≠ '_') (colon : mark ≠ ':') : mark ∉ s := by
  intro member
  rcases path.plain mark member with alphanum | same | same
  · rw [special] at alphanum
    cases alphanum
  · exact underscore same
  · exact colon same

theorem inTarget (path : IsPath s) : ∀ c ∈ s, (c != '=' && c != '[') = true := by
  intro c member
  have other {mark : Char} (special : mark.isAlphanum = false) (underscore : mark ≠ '_')
      (colon : mark ≠ ':') : c ≠ mark := by
    rintro rfl
    exact path.not_mem special underscore colon member
  have equals : c ≠ '=' := other (by decide) (by decide) (by decide)
  have bracket : c ≠ '[' := other (by decide) (by decide) (by decide)
  simp [equals, bracket]

theorem startsTarget (path : IsPath s) {c : Char} (member : c ∈ s) :
    Directive.startsTarget c = true := by
  rcases path.plain c member with alphanum | rfl | rfl
  · simp [Directive.startsTarget, Text.isAlphanumeric_of_isAlphanum alphanum]
  · simp [Directive.startsTarget]
  · simp [Directive.startsTarget]

theorem toNat_lt (path : IsPath s) {c : Char} (member : c ∈ s) :
    0x20 < c.toNat ∧ c.toNat < 0x80 := by
  rcases path.plain c member with alphanum | rfl | rfl
  · exact bounds_of_isAlphanum alphanum
  · decide
  · decide

theorem noBlank (path : IsPath s) : Text.NoBlank s := by
  intro c member
  have bounds := path.toNat_lt member
  simp [Text.isBlank]
  omega

theorem width_eq (path : IsPath s) : Directive.width s = s.length := by
  have single : ∀ c ∈ s, (String.utf8EncodeChar c).length = 1 := by
    intro c member
    have bounds := path.toNat_lt member
    have small : c.val.toNat ≤ 127 := by
      have value : c.val.toNat = c.toNat := rfl
      omega
    rw [String.length_utf8EncodeChar, Char.utf8Size_eq_one_iff, UInt32.le_iff_toNat_le]
    exact small
  rw [Directive.width, Text.utf8, List.length_flatMap, List.map_congr_left single]
  simp

end IsPath

/-- A target with the least important level that is written of it. -/
structure Rule where
  target : Text
  level : Level
  isPath : IsPath target

namespace Rule

/-- How a rule is written: the target, an equals sign, and the word for the level. -/
def written (r : Rule) : Text := r.target ++ '=' :: r.level.word

/-- What a rule says. -/
def directive (r : Rule) : Directive := ⟨some r.target, r.level.rank, false, none⟩

theorem isWord_written (r : Rule) : Text.IsWord r.written := by
  refine ⟨by simp [written], ?_⟩
  simp only [written, Text.noBlank_append, Text.noBlank_cons]
  exact ⟨r.isPath.noBlank, by decide, r.level.isWord_word.noBlank⟩

theorem head_mem (r : Rule) {c : Char} {rest : Text}
    (front : r.target ++ '=' :: r.level.word = c :: rest) : c ∈ r.target := by
  obtain ⟨d, tail, path⟩ := List.exists_cons_of_ne_nil r.isPath.ne_nil
  rw [path, List.cons_append] at front
  rw [path, (List.cons.inj front).1]
  exact List.mem_cons_self

theorem comma_not_mem_written (r : Rule) : ',' ∉ r.written := by
  have noComma : ',' ∉ r.level.word := by cases r.level <;> decide
  simp [written, noComma, r.isPath.not_mem]

end Rule

/-! ### Reading rules -/

namespace Directive

theorem width_append (s t : Text) : width (s ++ t) = width s + width t := by
  simp [width, Text.utf8]

/-- What stands between two places is found by how much stands before them. -/
theorem part_append (before inside after : Text) :
    part (before ++ inside ++ after) (width before) (width (before ++ inside)) = inside := by
  have octets (s t : Text) : (s ++ t).utf8 = s.utf8 ++ t.utf8 := by simp [Text.utf8]
  have front : ((before ++ inside ++ after).utf8).take (width (before ++ inside)) =
      before.utf8 ++ inside.utf8 := by
    rw [octets, width, List.take_left, octets]
  rw [part, front, width, List.drop_left, Octets.decode_utf8]

/-- The threshold behind an equals sign is read from the word for a level. -/
theorem readEnd?_level (d : Directive) (before : Text) (level : Level) :
    d.readEnd? (before ++ '=' :: level.word) (width before) ('=' :: level.word) =
      some { d with threshold := level.rank } := by
  have behind : part (before ++ '=' :: level.word) (width before + 1)
      (width (before ++ '=' :: level.word)) = level.word := by
    have found := part_append (before ++ ['=']) level.word []
    rwa [width_append, List.append_nil, List.append_assoc] at found
  have threshold : thresholdBehind? level.word = some level.rank := by
    rw [thresholdBehind?, if_neg (by simpa using level.isWord_word.ne_nil), threshold?_word]
  rw [readEnd?, behind, threshold]
  rfl

/-- A rule is read as what it says. -/
theorem read?_written (r : Rule) : read? r.written = some r.directive := by
  have blank {c : Char} (member : c ∈ r.written) : Text.isBlank c = false :=
    r.isWord_written.noBlank c member
  have trimmed : r.written.trim = r.target ++ '=' :: r.level.word :=
    Text.trim_eq_self (fun c first => blank (List.mem_of_head? first))
      (fun c last => blank (List.mem_of_getLast? last))
  have target : part r.written 0 (width r.target) = r.target :=
    part_append [] r.target ('=' :: r.level.word)
  have taken : (r.target ++ '=' :: r.level.word).takeWhile (fun c => c != '=' && c != '[') =
      r.target :=
    Text.takeWhile_append_cons r.isPath.inTarget (by decide) r.level.word
  have dropped : (r.target ++ '=' :: r.level.word).dropWhile (fun c => c != '=' && c != '[') =
      '=' :: r.level.word :=
    Text.dropWhile_append_cons r.isPath.inTarget (by decide) r.level.word
  rw [read?, trimmed]
  split
  · next none => simp at none
  · next rest front =>
      exact absurd (r.head_mem front) (r.isPath.not_mem (by decide) (by decide) (by decide))
  · next c rest _ front =>
      rw [r.isPath.startsTarget (r.head_mem front), ← front]
      simp only [Bool.not_true, Bool.false_eq_true, if_false, taken, dropped, target]
      exact readEnd?_level _ r.target r.level

end Directive

namespace Filter

/-- Rules with commas between are read as what they say. -/
theorem ofText_rules {rules : List Rule} (full : rules ≠ []) :
    ofText ([','].intercalate (rules.map Rule.written)) = ⟨rules.map Rule.directive⟩ := by
  have pieces : ([','].intercalate (rules.map Rule.written)).splitOn ',' =
      rules.map Rule.written := by
    rw [Text.splitOn_eq_iff (by simpa using full)]
    refine ⟨fun piece among => ?_, rfl⟩
    obtain ⟨r, -, rfl⟩ := List.mem_map.1 among
    exact r.comma_not_mem_written
  have kept : (rules.map Rule.written).filter (fun piece => !piece.isEmpty) =
      rules.map Rule.written := by
    rw [List.filter_eq_self]
    intro piece among
    obtain ⟨r, -, rfl⟩ := List.mem_map.1 among
    simpa using r.isWord_written.ne_nil
  have read (rules : List Rule) :
      (rules.map Rule.written).mapM Directive.read? = some (rules.map Rule.directive) := by
    induction rules with
    | nil => rfl
    | cons r rules ih => simp [List.mapM_cons, Directive.read?_written, ih]
  rw [ofText, pieces, kept, read]
  cases rules with
  | nil => exact absurd rfl full
  | cons r rules => rfl

end Filter

namespace Rule

theorem concerns_directive (r : Rule) (e : Event) :
    r.directive.concerns e = true ↔ r.target <+: e.target := by
  simp [Directive.concerns, directive]

/-- Of two rules about one event the one with the longer target is more specific. -/
theorem compare_directive {r s : Rule} {t : Text} (about : r.target <+: t)
    (aboutToo : s.target <+: t) :
    r.directive.compareBySpecificity s.directive = compare r.target.length s.target.length := by
  have octets (r : Rule) : Directive.width r.target = r.target.length := r.isPath.width_eq
  have parts : r.directive.compareBySpecificity s.directive =
      (compare (Directive.width r.target) (Directive.width s.target)).then
        ((compare r.target s.target).then .eq) := rfl
  rw [parts, octets, octets]
  cases order : compare r.target.length s.target.length with
  | lt => rfl
  | gt => rfl
  | eq =>
      have same : r.target = s.target :=
        (List.prefix_of_prefix_length_le about aboutToo
          (Nat.le_of_eq (Nat.compare_eq_eq.1 order))).eq_of_length (Nat.compare_eq_eq.1 order)
      simp [same]

end Rule

namespace Filter

/-- Of rules the one with the longest target that the event's target starts with decides, and of
equally long ones the last. -/
theorem admits_rules_iff {rules : List Rule} (full : rules ≠ []) {e : Event} :
    (ofText ([','].intercalate (rules.map Rule.written))).admits e = true ↔
      ∃ before r after, rules = before ++ r :: after ∧ r.target <+: e.target ∧
        (∀ b ∈ before, b.target <+: e.target → b.target.length ≤ r.target.length) ∧
        (∀ a ∈ after, a.target <+: e.target → a.target.length < r.target.length) ∧
        e.level.rank ≤ r.level.rank := by
  rw [ofText_rules full, admits_iff]
  constructor
  · rintro ⟨d, ⟨front, back, whole, about, least, greatest⟩, within⟩
    obtain ⟨before, rest, rfl, rfl, behind⟩ := List.map_eq_append_iff.1 whole
    obtain ⟨r, after, rfl, rfl, rfl⟩ := List.map_eq_cons_iff.1 behind
    rw [r.concerns_directive] at about
    refine ⟨before, r, after, rfl, about, ?_, ?_, within⟩
    · intro b member concerned
      have longest := least b.directive (List.mem_map_of_mem member)
        ((b.concerns_directive e).2 concerned)
      rw [Rule.compare_directive about concerned] at longest
      simpa [Nat.compare_eq_lt] using longest
    · intro a member concerned
      have longest := greatest a.directive (List.mem_map_of_mem member)
        ((a.concerns_directive e).2 concerned)
      rwa [Rule.compare_directive concerned about, Nat.compare_eq_lt] at longest
  · rintro ⟨before, r, after, rfl, about, least, greatest, within⟩
    refine ⟨r.directive, ⟨before.map Rule.directive, after.map Rule.directive, by simp,
      (r.concerns_directive e).2 about, ?_, ?_⟩, within⟩
    · intro d member concerned
      obtain ⟨b, among, rfl⟩ := List.mem_map.1 member
      rw [b.concerns_directive] at concerned
      rw [Rule.compare_directive about concerned]
      simpa [Nat.compare_eq_lt] using least b among concerned
    · intro d member concerned
      obtain ⟨a, among, rfl⟩ := List.mem_map.1 member
      rw [a.concerns_directive] at concerned
      rw [Rule.compare_directive concerned about, Nat.compare_eq_lt]
      exact greatest a among concerned

/-- The word for a level alone lets through what matters as much as the level, wherever it comes
from. -/
theorem admits_level_iff {level : Level} {e : Event} :
    (ofText level.word).admits e = true ↔ e.level.rank ≤ level.rank := by
  have read : ofText level.word = ⟨[{ Directive.everything with threshold := level.rank }]⟩ := by
    cases level <;> rfl
  have concerned : ({ Directive.everything with threshold := level.rank }).concerns e = true := by
    simp [Directive.concerns, Directive.everything]
  simp [read, admits_iff, decides_iff, concerned, pick]

end Filter

end NodeGauge.Log
