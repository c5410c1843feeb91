/-
Module: NodeGauge.Proofs.Text.Similarity
Purpose: Two texts are compared by matching their characters one to one, and what is suggested for
  a text is a candidate that is alike enough.
Main exports: Text.taken, Text.takeMatches_perm, Text.closest?_eq_none_iff, Text.closest?_eq_some
-/
import NodeGauge.Proofs.Choice
import NodeGauge.Text.Similarity

namespace NodeGauge.Text

/-! ### Matches -/

/-- The characters of a marked text that are taken. -/
def taken (marked : List (Char × Bool)) : Text := (marked.filter (·.2)).map (·.1)

/-- A match is a character that was free and stands within the bounds, and nothing else changes. -/
theorem takeMatch_eq_some {c : Char} {least bound place : Nat} {other marked : List (Char × Bool)}
    (found : takeMatch c least bound place other = some marked) :
    ∃ front back, other = front ++ (c, false) :: back ∧ marked = front ++ (c, true) :: back ∧
      least ≤ place + front.length ∧ place + front.length < bound := by
  induction other generalizing place marked with
  | nil => cases found
  | cons entry other ih =>
      obtain ⟨d, isTaken⟩ := entry
      rw [takeMatch] at found
      split at found
      · cases found
      · next inside =>
          split at found
          · next here =>
              simp only [Bool.and_eq_true, decide_eq_true_eq, beq_iff_eq, Bool.not_eq_true'] at here
              obtain ⟨⟨reached, rfl⟩, rfl⟩ := here
              obtain rfl := Option.some.inj found
              exact ⟨[], other, rfl, rfl, reached, by simpa using inside⟩
          · obtain ⟨later, foundLater, rfl⟩ := Option.map_eq_some_iff.1 found
            obtain ⟨front, back, rfl, rfl, reached, bounded⟩ := ih foundLater
            refine ⟨(d, isTaken) :: front, back, rfl, rfl, ?_, ?_⟩
            · rw [List.length_cons]
              omega
            · rw [List.length_cons]
              omega

theorem taken_append (front back : List (Char × Bool)) :
    taken (front ++ back) = taken front ++ taken back := by
  simp [taken]

/-- Matches are one to one: those found in a text are, in another order, those newly taken of the
other one, whose characters stay what they are. -/
theorem takeMatches_perm {reach place : Nat} {s : Text} {other : List (Char × Bool)} :
    (takeMatches reach place s other).1.Sublist s ∧
      (takeMatches reach place s other).2.map Prod.fst = other.map Prod.fst ∧
      (taken (takeMatches reach place s other).2).Perm
        ((takeMatches reach place s other).1 ++ taken other) := by
  induction s generalizing place other with
  | nil => exact ⟨List.Sublist.refl [], rfl, List.Perm.refl _⟩
  | cons c s ih =>
      rw [takeMatches]
      cases found : takeMatch c (place - reach) (place + reach + 1) 0 other with
      | none =>
          obtain ⟨sublist, same, perm⟩ := @ih (place + 1) other
          exact ⟨sublist.cons c, same, perm⟩
      | some marked =>
          obtain ⟨front, back, rfl, rfl, -, -⟩ := takeMatch_eq_some found
          obtain ⟨sublist, same, perm⟩ := @ih (place + 1) (front ++ (c, true) :: back)
          refine ⟨sublist.cons_cons c, ?_, perm.trans ?_⟩
          · rw [same]
            simp
          · -- The match moves from its place in the other text to the front.
            simp only [taken_append]
            have one : taken ((c, true) :: back) = c :: taken back := rfl
            have free : taken ((c, false) :: back) = taken back := rfl
            rw [one, free, List.cons_append, ← List.append_assoc, ← List.append_assoc]
            exact List.perm_middle

/-- Of two texts the matched parts are rearrangements of each other, and parts of both. -/
theorem matched_perm (reach : Nat) (a b : Text) :
    let matched := takeMatches reach 0 a (b.map fun c => (c, false))
    matched.1.Sublist a ∧ (taken matched.2).Sublist b ∧ (taken matched.2).Perm matched.1 := by
  intro matched
  obtain ⟨sublist, same, perm⟩ :=
    @takeMatches_perm reach 0 a (b.map fun c => (c, false))
  have none : taken (b.map fun c => (c, false)) = [] := by simp [taken]
  have characters : (b.map fun c => (c, false)).map Prod.fst = b := by
    simp [Function.comp_def]
  refine ⟨sublist, ?_, ?_⟩
  · have inside : (taken matched.2).Sublist (matched.2.map Prod.fst) :=
      List.filter_sublist.map Prod.fst
    rwa [same, characters] at inside
  · rwa [none, List.append_nil] at perm

/-! ### Suggestions -/

/-- The candidates that are alike enough, each with how alike it is. -/
def scored (candidates : List Text) (s : Text) : List (Float × Text) :=
  (candidates.map fun c => (alikeness s c, c)).filter fun (score, _) => leastAlikeness < score

theorem mem_scored {candidates : List Text} {s c : Text} {score : Float} :
    (score, c) ∈ scored candidates s ↔
      c ∈ candidates ∧ score = alikeness s c ∧ leastAlikeness < score := by
  simp only [scored, List.mem_filter, List.mem_map, Prod.mk.injEq, decide_eq_true_eq]
  constructor
  · rintro ⟨⟨_, among, rfl, rfl⟩, enough⟩
    exact ⟨among, rfl, enough⟩
  · rintro ⟨among, rfl, enough⟩
    exact ⟨⟨c, among, rfl, rfl⟩, enough⟩

theorem closest?_eq (candidates : List Text) (s : Text) :
    closest? candidates s =
      ((scored candidates s).foldl (pick fun next current => decide (current.1 ≤ next.1))
        none).map Prod.snd := by
  rw [closest?, ← scored]
  congr 2
  funext best next
  cases best <;> simp [pick]

/-- There is a suggestion if any candidate is alike enough. -/
theorem closest?_eq_none_iff {candidates : List Text} {s : Text} :
    closest? candidates s = none ↔ ∀ c ∈ candidates, ¬leastAlikeness < alikeness s c := by
  rw [closest?_eq, Option.map_eq_none_iff, foldl_pick_eq_none_iff,
    List.eq_nil_iff_forall_not_mem]
  constructor
  · intro none c among enough
    exact none (alikeness s c, c) (mem_scored.2 ⟨among, rfl, enough⟩)
  · rintro few ⟨score, c⟩ member
    obtain ⟨among, rfl, enough⟩ := mem_scored.1 member
    exact few c among enough

/-- A suggestion is one of the candidates, and alike enough. -/
theorem closest?_eq_some {candidates : List Text} {s c : Text}
    (suggested : closest? candidates s = some c) :
    c ∈ candidates ∧ leastAlikeness < alikeness s c := by
  rw [closest?_eq] at suggested
  obtain ⟨⟨score, d⟩, kept, rfl⟩ := Option.map_eq_some_iff.1 suggested
  obtain ⟨among, rfl, enough⟩ := mem_scored.1 (mem_of_foldl_pick kept)
  exact ⟨among, enough⟩

end NodeGauge.Text
