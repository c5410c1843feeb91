/-
Module: NodeGauge.Proofs.Text.Layout
Purpose: Every line is laid out in just one way as words with gaps of blanks around and between
  them, and these words are its longest runs without blanks.
Main exports: Text.IsGap, Text.LaidOut, Text.LaidOut.words_eq, Text.exists_laidOut,
  Text.LaidOut.unique, Text.Run, Text.ncard_runs
-/
import Mathlib.Data.Set.Card
import NodeGauge.Proofs.Text.Words

namespace NodeGauge.Text

/-- Blanks only, or nothing. -/
def IsGap (s : Text) : Prop := ∀ c ∈ s, isBlank c = true

instance (s : Text) : Decidable (IsGap s) :=
  decidable_of_iff (s.all isBlank = true) (by simp [IsGap])

/-- A line is laid out as words and gaps by turns, from a gap in front of the first word to one
behind the last.  Only these two gaps may be empty. -/
inductive LaidOut : Text → List Text → List Text → Prop where
  /-- What stands behind the last word. -/
  | last {gap : Text} (blank : IsGap gap) : LaidOut gap [] [gap]
  /-- A word, with the gap in front of it and what follows. -/
  | word {gap word rest next : Text} {words gaps : List Text} (blank : IsGap gap)
      (isWord : IsWord word) (apart : words ≠ [] → next ≠ [])
      (laidOut : LaidOut rest words (next :: gaps)) :
      LaidOut (gap ++ word ++ rest) (word :: words) (gap :: next :: gaps)

/-! ### Where words end -/

/-- What follows a word is blank at its front, if anything follows. -/
def Stops (s : Text) : Prop := ∀ c, s.head? = some c → isBlank c = true

theorem word_append_inj {word other rest more : Text} (noBlank : NoBlank word)
    (noBlankOther : NoBlank other) (stops : Stops rest) (stopsOther : Stops more)
    (same : word ++ rest = other ++ more) : word = other ∧ rest = more := by
  apply append_inj_of_class (p := fun c => !isBlank c) _ _ _ _ same
  · simpa [NoBlank] using noBlank
  · simpa [NoBlank] using noBlankOther
  · simpa [Stops] using stops
  · simpa [Stops] using stopsOther

/-- A word starts with a character that is no blank. -/
theorem IsWord.not_blank_of_head? {word : Text} (isWord : IsWord word) (rest : Text) :
    ∀ c, (word ++ rest).head? = some c → isBlank c = false := by
  intro c first
  rw [List.head?_append_of_ne_nil _ isWord.ne_nil] at first
  exact isWord.noBlank c (List.mem_of_head? first)

theorem gap_append_inj {gap other rest more word otherWord : Text} (blank : IsGap gap)
    (blankOther : IsGap other) (isWord : IsWord word) (isWordOther : IsWord otherWord)
    (same : gap ++ (word ++ rest) = other ++ (otherWord ++ more)) :
    gap = other ∧ word ++ rest = otherWord ++ more :=
  append_inj_of_class blank blankOther (isWord.not_blank_of_head? rest)
    (isWordOther.not_blank_of_head? more) same

/-- A gap holds no word. -/
theorem IsGap.ne_append {gap front word rest : Text} (blank : IsGap gap) (isWord : IsWord word) :
    gap ≠ front ++ word ++ rest := by
  rintro rfl
  obtain ⟨c, inside⟩ := List.exists_mem_of_ne_nil _ isWord.ne_nil
  have isBlank := blank c (by simp [inside])
  rw [isWord.noBlank c inside] at isBlank
  cases isBlank

/-! ### The layout of a line -/

namespace LaidOut

variable {line : Text} {words gaps : List Text}

/-- Behind a word there is a blank, or the end of the line. -/
theorem stops {next : Text} (laidOut : LaidOut line words (next :: gaps))
    (apart : words ≠ [] → next ≠ []) : Stops line := by
  intro c first
  cases laidOut with
  | last blank => exact blank c (List.mem_of_head? first)
  | word blank isWord _ _ =>
      have full := apart (by simp)
      rw [List.append_assoc, List.head?_append_of_ne_nil _ full] at first
      exact blank c (List.mem_of_head? first)

end LaidOut

theorem words_gap_append {gap : Text} (blank : IsGap gap) (s : Text) :
    words (gap ++ s) = words s := by
  induction gap with
  | nil => rfl
  | cons c gap ih =>
      rw [IsGap, List.forall_mem_cons] at blank
      have front := words_append_blank blank.1 [] (gap ++ s)
      rw [List.cons_append, ← ih blank.2]
      simpa [words] using front

theorem words_of_isGap {gap : Text} (blank : IsGap gap) : words gap = [] := by
  have none : words (gap ++ []) = words [] := words_gap_append blank []
  simpa [words] using none

theorem words_word_append {word rest : Text} (isWord : IsWord word) (stops : Stops rest) :
    words (word ++ rest) = word :: words rest := by
  cases rest with
  | nil => simpa [words] using words_of_isWord isWord
  | cons c rest =>
      have blank := stops c rfl
      have behind := words_append_blank blank [] rest
      rw [words_append_blank blank, words_of_isWord isWord]
      simpa [words] using behind.symm

/-- A line that is laid out has the words that it is laid out of. -/
theorem LaidOut.words_eq {line : Text} {words gaps : List Text}
    (laidOut : LaidOut line words gaps) :
    line.words = words := by
  induction laidOut with
  | last blank => exact words_of_isGap blank
  | word blank isWord apart laidOut ih =>
      rw [List.append_assoc, words_gap_append blank,
        words_word_append isWord (laidOut.stops apart), ih]

/-- Every line is laid out in some way. -/
theorem exists_laidOut (line : Text) : ∃ words gaps, LaidOut line words gaps := by
  -- A character more in front lengthens the first gap, or the first word, or begins a word.
  induction line with
  | nil => exact ⟨[], [[]], .last (by simp [IsGap])⟩
  | cons c line ih =>
      obtain ⟨words, gaps, laidOut⟩ := ih
      cases blankness : isBlank c with
      | true =>
          have longer {gap : Text} (blank : IsGap gap) : IsGap (c :: gap) := by
            simpa [IsGap, blankness] using blank
          cases laidOut with
          | last blank => exact ⟨_, _, .last (longer blank)⟩
          | word blank isWord apart laidOut =>
              exact ⟨_, _, .word (longer blank) isWord apart laidOut⟩
      | false =>
          have noGap : IsGap [] := by simp [IsGap]
          have single : IsWord [c] := ⟨by simp, by simp [blankness]⟩
          cases laidOut with
          | last blank => exact ⟨_, _, .word noGap single (by simp) (.last blank)⟩
          | @word gap word rest next words gaps blank isWord apart laidOut =>
              cases gap with
              | nil =>
                  have longer : IsWord (c :: word) := ⟨by simp, by simp [blankness, isWord.noBlank]⟩
                  exact ⟨_, _, .word noGap longer apart laidOut⟩
              | cons d gap =>
                  exact ⟨_, _, .word noGap single (by simp) (.word blank isWord apart laidOut)⟩

theorem exists_laidOut_words (line : Text) : ∃ gaps, LaidOut line line.words gaps := by
  obtain ⟨words, gaps, laidOut⟩ := exists_laidOut line
  obtain rfl := laidOut.words_eq
  exact ⟨gaps, laidOut⟩

/-- A line is laid out in one way at most. -/
theorem LaidOut.unique {line : Text} {words otherWords gaps otherGaps : List Text}
    (one : LaidOut line words gaps) (two : LaidOut line otherWords otherGaps) :
    words = otherWords ∧ gaps = otherGaps := by
  refine ⟨one.words_eq.symm.trans two.words_eq, ?_⟩
  induction one generalizing otherWords otherGaps with
  | last blank =>
      cases two with
      | last => rfl
      | word _ isWord => exact absurd rfl (blank.ne_append isWord)
  | @word gap word rest next words gaps blank isWord apart laidOut ih =>
      generalize same : gap ++ word ++ rest = line at two
      cases two with
      | last blankAll => exact absurd same.symm (blankAll.ne_append isWord)
      | word blankOther isWordOther apartOther laidOutOther =>
          rw [List.append_assoc, List.append_assoc] at same
          obtain ⟨rfl, behind⟩ := gap_append_inj blank blankOther isWord isWordOther same
          obtain ⟨-, rfl⟩ := word_append_inj isWord.noBlank isWordOther.noBlank
            (laidOut.stops apart) (laidOutOther.stops apartOther) behind
          rw [ih laidOutOther]

/-! ### Longest runs -/

/-- A part of a line where it stands: what is in front of it, the part, and what is behind it. -/
structure Run where
  front : Text
  text : Text
  back : Text
deriving DecidableEq

namespace Run

/-- A part of a line is a longest run without blanks: it has no blank in it, and on either side
there is a blank or the end of the line. -/
structure IsIn (run : Run) (line : Text) : Prop where
  whole : line = run.front ++ run.text ++ run.back
  isWord : IsWord run.text
  opens : ∀ c, run.front.getLast? = some c → isBlank c = true
  closes : ∀ c, run.back.head? = some c → isBlank c = true

/-- A part of a line behind some more in front. -/
def behind (more : Text) (run : Run) : Run := { run with front := more ++ run.front }

theorem behind_injective (more : Text) : Function.Injective (behind more) := by
  rintro ⟨front, text, back⟩ ⟨otherFront, otherText, otherBack⟩ same
  simpa [behind] using same

section word

variable {run : Run} {gap word rest : Text} (blank : IsGap gap) (isWord : IsWord word)
  (stops : Stops rest)
include blank isWord stops

/-- A run in a line that starts with a gap and a word is that word, or it stands in the rest. -/
theorem IsIn.eq_or_behind (isIn : run.IsIn (gap ++ word ++ rest)) :
    run = ⟨gap, word, rest⟩ ∨
      ∃ later : Run, later.IsIn rest ∧ run = later.behind (gap ++ word) := by
  obtain ⟨front, text, back⟩ := run
  obtain ⟨whole, isWordText, opens, closes⟩ := isIn
  simp only [List.append_assoc] at whole isWordText opens closes
  have first (same : word ++ rest = text ++ back) : word = text ∧ rest = back :=
    word_append_inj isWord.noBlank isWordText.noBlank stops closes same
  rcases List.append_eq_append_iff.1 whole with ⟨more, rfl, after⟩ | ⟨more, rfl, after⟩
  · rcases List.eq_nil_or_concat' more with rfl | ⟨inner, c, rfl⟩
    · obtain ⟨rfl, rfl⟩ := first after
      exact Or.inl (by simp)
    · have isBlank : isBlank c = true := opens c (by simp)
      rcases List.append_eq_append_iff.1 after with ⟨later, more, rfl⟩ | ⟨later, rfl, -⟩
      · refine Or.inr ⟨⟨later, text, back⟩, ⟨by simp, isWordText, ?_, closes⟩, ?_⟩
        · intro d last
          apply opens
          rw [more]
          simp only [List.getLast?_append, last, Option.some_or]
        · simp only [Run.behind, more, List.append_assoc]
      · have noBlank := isWord.noBlank c (by simp)
        rw [isBlank] at noBlank
        cases noBlank
  · cases more with
    | nil =>
        obtain ⟨rfl, rfl⟩ := first after.symm
        exact Or.inl (by simp)
    | cons c more =>
        have noBlank := isWordText.not_blank_of_head? back c (by rw [after]; rfl)
        rw [blank c (by simp)] at noBlank
        cases noBlank

theorem isIn_first : IsIn ⟨gap, word, rest⟩ (gap ++ word ++ rest) :=
  ⟨rfl, isWord, fun c last => blank c (List.mem_of_getLast? last), stops⟩

omit blank isWord in
theorem IsIn.behind (isIn : run.IsIn rest) :
    (run.behind (gap ++ word)).IsIn (gap ++ word ++ rest) := by
  refine ⟨by simp [Run.behind, isIn.whole], isIn.isWord, ?_, isIn.closes⟩
  intro c last
  -- The run does not start the rest, for the rest starts with a blank.
  have full : run.front ≠ [] := by
    intro empty
    obtain ⟨d, text, start⟩ := List.exists_cons_of_ne_nil isIn.isWord.ne_nil
    have isBlank := stops d (by rw [isIn.whole, empty, start]; rfl)
    rw [isIn.isWord.noBlank d (by simp [start])] at isBlank
    cases isBlank
  apply isIn.opens
  rwa [Run.behind, List.getLast?_append_of_ne_nil _ full] at last

end word

end Run

/-- The longest runs of a line are the words that it is laid out of, each at one place. -/
theorem LaidOut.exists_runs {line : Text} {words gaps : List Text}
    (laidOut : LaidOut line words gaps) :
    ∃ runs : List Run, runs.Nodup ∧ (∀ run, run ∈ runs ↔ run.IsIn line) ∧
      runs.map Run.text = words := by
  induction laidOut with
  | last blank =>
      refine ⟨[], List.nodup_nil, fun run => ?_, rfl⟩
      simp only [List.not_mem_nil, false_iff]
      intro isIn
      exact blank.ne_append isIn.isWord isIn.whole
  | @word gap word rest next words gaps blank isWord apart laidOut ih =>
      obtain ⟨runs, nodup, members, rfl⟩ := ih
      have stops := laidOut.stops apart
      refine ⟨⟨gap, word, rest⟩ :: runs.map (Run.behind (gap ++ word)), ?_, fun run => ?_, ?_⟩
      · refine List.nodup_cons.2 ⟨?_, nodup.map (Run.behind_injective _)⟩
        intro again
        obtain ⟨later, -, same⟩ := List.mem_map.1 again
        have front := congrArg Run.front same
        simp [Run.behind, isWord.ne_nil] at front
      · rw [List.mem_cons, List.mem_map]
        constructor
        · rintro (rfl | ⟨later, among, rfl⟩)
          · exact Run.isIn_first blank isWord stops
          · exact ((members later).1 among).behind stops
        · intro isIn
          rcases isIn.eq_or_behind blank isWord stops with same | ⟨later, inRest, rfl⟩
          · exact Or.inl same
          · exact Or.inr ⟨later, (members later).2 inRest, rfl⟩
      · simp [Run.behind]

/-- There are as many longest runs in a line as it has words. -/
theorem ncard_runs (line : Text) : {run : Run | run.IsIn line}.ncard = line.words.length := by
  obtain ⟨gaps, laidOut⟩ := exists_laidOut_words line
  obtain ⟨runs, nodup, members, texts⟩ := laidOut.exists_runs
  have listed : {run : Run | run.IsIn line} = (runs.toFinset : Set Run) := by
    ext run
    simp [members]
  rw [listed, Set.ncard_coe_finset, List.toFinset_card_of_nodup nodup, ← texts, List.length_map]

end NodeGauge.Text
