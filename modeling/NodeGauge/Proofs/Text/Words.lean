/-
Module: NodeGauge.Proofs.Text.Words
Purpose: Words are what stands between blanks, and joined by spaces they are read back.
Main exports: Text.NoBlank, Text.IsWord, Text.append_inj_of_class, Text.isWord_of_mem_words,
  Text.words_intercalate
-/
import NodeGauge.Text.Blank

namespace NodeGauge.Text

/-- A text without blanks. -/
def NoBlank (s : Text) : Prop := ∀ c ∈ s, isBlank c = false

instance (s : Text) : Decidable (NoBlank s) :=
  decidable_of_iff ((s.all fun c => !isBlank c) = true) (by simp [NoBlank])

/-- A text that can be a word of a line. -/
structure IsWord (s : Text) : Prop where
  ne_nil : s ≠ []
  noBlank : NoBlank s

instance (s : Text) : Decidable (IsWord s) :=
  decidable_of_iff (s ≠ [] ∧ NoBlank s)
    ⟨fun ⟨full, noBlank⟩ => ⟨full, noBlank⟩, fun ⟨full, noBlank⟩ => ⟨full, noBlank⟩⟩

/-! ### Texts without blanks -/

@[simp] theorem noBlank_nil : NoBlank [] := by simp [NoBlank]

@[simp] theorem noBlank_cons {c : Char} {s : Text} :
    NoBlank (c :: s) ↔ isBlank c = false ∧ NoBlank s := by
  simp [NoBlank]

@[simp] theorem noBlank_append {s t : Text} : NoBlank (s ++ t) ↔ NoBlank s ∧ NoBlank t := by
  simp [NoBlank, or_imp, forall_and]

theorem mem_of_mem_intercalate {mark c : Char} {parts : List Text}
    (member : c ∈ [mark].intercalate parts) : c = mark ∨ ∃ part ∈ parts, c ∈ part := by
  induction parts with
  | nil => simp at member
  | cons part parts ih =>
      cases parts with
      | nil => exact Or.inr ⟨part, List.mem_cons_self, by simpa using member⟩
      | cons next parts =>
          rw [List.intercalate_cons_cons, List.append_assoc, List.singleton_append] at member
          rcases List.mem_append.1 member with first | behind
          · exact Or.inr ⟨part, List.mem_cons_self, first⟩
          · rcases List.mem_cons.1 behind with same | later
            · exact Or.inl same
            · rcases ih later with same | ⟨other, among, inside⟩
              · exact Or.inl same
              · exact Or.inr ⟨other, List.mem_cons_of_mem _ among, inside⟩

theorem noBlank_intercalate {mark : Char} {parts : List Text} (markNoBlank : isBlank mark = false)
    (partsNoBlank : ∀ part ∈ parts, NoBlank part) : NoBlank ([mark].intercalate parts) := by
  intro c member
  rcases mem_of_mem_intercalate member with rfl | ⟨part, among, inside⟩
  · exact markNoBlank
  · exact partsNoBlank part among c inside

theorem not_mem_of_noBlank {c : Char} {s : Text} (noBlank : NoBlank s) (blank : isBlank c = true) :
    c ∉ s := by
  intro member
  rw [noBlank c member] at blank
  exact Bool.noConfusion blank

/-! ### Where a class of characters ends -/

/-- A list that starts with members of a class, up to the first one that is not of it, is parted
there in one way. -/
theorem append_inj_of_class {α : Type} {p : α → Bool} {front other rest more : List α}
    (inside : ∀ c ∈ front, p c = true) (insideOther : ∀ c ∈ other, p c = true)
    (stops : ∀ c, rest.head? = some c → p c = false)
    (stopsOther : ∀ c, more.head? = some c → p c = false) (same : front ++ rest = other ++ more) :
    front = other ∧ rest = more := by
  induction front generalizing other with
  | nil =>
      cases other with
      | nil => exact ⟨rfl, same⟩
      | cons c other =>
          have stop := stops c (by rw [← List.nil_append rest, same]; rfl)
          rw [insideOther c List.mem_cons_self] at stop
          cases stop
  | cons c front ih =>
      cases other with
      | nil =>
          have stop := stopsOther c (by rw [← List.nil_append more, ← same]; rfl)
          rw [inside c List.mem_cons_self] at stop
          cases stop
      | cons d other =>
          rw [List.forall_mem_cons] at inside insideOther
          obtain ⟨rfl, behind⟩ := List.cons.inj same
          obtain ⟨rfl, rest⟩ := ih inside.2 insideOther.2 behind
          exact ⟨rfl, rest⟩

/-- Taking the members of a class ends at the first one that is not of it. -/
theorem takeWhile_append_cons {α : Type} {p : α → Bool} {front : List α} {stop : α}
    (inside : ∀ c ∈ front, p c = true) (stops : p stop = false) (rest : List α) :
    (front ++ stop :: rest).takeWhile p = front := by
  have ends : ¬p stop = true := by simp [stops]
  rw [List.takeWhile_append_of_pos inside, List.takeWhile_cons_of_neg ends, List.append_nil]

theorem dropWhile_append_cons {α : Type} {p : α → Bool} {front : List α} {stop : α}
    (inside : ∀ c ∈ front, p c = true) (stops : p stop = false) (rest : List α) :
    (front ++ stop :: rest).dropWhile p = stop :: rest := by
  have ends : ¬p stop = true := by simp [stops]
  rw [List.dropWhile_append_of_pos inside, List.dropWhile_cons_of_neg ends]

/-! ### Words of a line -/

theorem not_of_mem_splitOnP {α : Type} {p : α → Bool} {s : List α} :
    ∀ piece ∈ s.splitOnP p, ∀ c ∈ piece, p c = false := by
  induction s with
  | nil => simp
  | cons a s ih =>
      rw [List.splitOnP_cons_eq_if_modifyHead]
      cases pieces : s.splitOnP p with
      | nil => exact absurd pieces (List.splitOnP_ne_nil p s)
      | cons first rest =>
          rw [pieces] at ih
          cases mark : p a with
          | true => simpa using ih
          | false => simpa [mark] using ih

/-- The pieces of a text are the texts without the mark that it joins. -/
theorem splitOn_eq_iff {mark : Char} {s : Text} {pieces : List Text} (some : pieces ≠ []) :
    s.splitOn mark = pieces ↔ (∀ piece ∈ pieces, mark ∉ piece) ∧ s = [mark].intercalate pieces := by
  constructor
  · rintro rfl
    refine ⟨?_, (List.intercalate_splitOn mark).symm⟩
    intro piece among inside
    rw [List.splitOn_eq_splitOnP] at among
    exact absurd (not_of_mem_splitOnP piece among mark inside) (by simp)
  · rintro ⟨noMark, rfl⟩
    exact List.splitOn_intercalate mark noMark some

theorem isWord_of_mem_words {s word : Text} (member : word ∈ s.words) : IsWord word := by
  obtain ⟨piece, full⟩ := List.mem_filter.1 member
  exact ⟨by simpa using full, not_of_mem_splitOnP word piece⟩

theorem words_append_blank {c : Char} (blank : isBlank c = true) (s t : Text) :
    words (s ++ c :: t) = words s ++ words t := by
  rw [words, List.splitOnP_append_cons s t blank, List.filter_append]
  rfl

theorem words_of_isWord {s : Text} (word : IsWord s) : words s = [s] := by
  rw [words, List.splitOnP_eq_singleton word.noBlank]
  simp [word.ne_nil]

/-- Words with single spaces between them are read back. -/
theorem words_intercalate {parts : List Text} (isWord : ∀ part ∈ parts, IsWord part) :
    words ([' '].intercalate parts) = parts := by
  induction parts with
  | nil => simp [words]
  | cons part parts ih =>
      have first := words_of_isWord (isWord part List.mem_cons_self)
      have later := ih fun other member => isWord other (List.mem_cons_of_mem _ member)
      cases parts with
      | nil => simpa using first
      | cons next parts =>
          rw [List.intercalate_cons_cons, List.append_assoc, List.singleton_append,
            words_append_blank (by decide), first, later, List.singleton_append]

end NodeGauge.Text
