/-
Module: NodeGauge.Proofs.Choice
Purpose: One pass over a list keeps the candidate that no other one beats, and of equally good ones
  the last.
Main exports: pick, mem_of_foldl_pick, foldl_pick_eq_none_iff, foldl_pick_eq_some_iff
-/
import Mathlib.Data.List.Induction

namespace NodeGauge

/-- Keep the better of two candidates.  A later one that is as good beats an earlier one. -/
def pick {α : Type} (beats : α → α → Bool) (best : Option α) (next : α) : Option α :=
  match best with
  | none => some next
  | some current => if beats next current then some next else best

section pick

variable {α : Type} {beats : α → α → Bool} {items : List α} {x : α}

theorem foldl_pick_some (beats : α → α → Bool) (items : List α) (current : α) :
    ∃ x, items.foldl (pick beats) (some current) = some x ∧ (x = current ∨ x ∈ items) := by
  induction items generalizing current with
  | nil => exact ⟨current, rfl, Or.inl rfl⟩
  | cons item items ih =>
      have step : pick beats (some current) item = some item ∨
          pick beats (some current) item = some current := by
        simp only [pick]
        split
        · exact Or.inl rfl
        · exact Or.inr rfl
      rw [List.foldl_cons]
      rcases step with later | earlier
      · obtain ⟨x, kept, origin⟩ := ih item
        exact ⟨x, by rw [later, kept], Or.inr (List.mem_cons.2 origin)⟩
      · obtain ⟨x, kept, origin⟩ := ih current
        exact ⟨x, by rw [earlier, kept], origin.imp id (List.mem_cons_of_mem item)⟩

/-- What is kept is one of the candidates. -/
theorem mem_of_foldl_pick (kept : items.foldl (pick beats) none = some x) : x ∈ items := by
  cases items with
  | nil => cases kept
  | cons item items =>
      obtain ⟨y, found, origin⟩ := foldl_pick_some beats items item
      obtain rfl := Option.some.inj (found.symm.trans kept)
      exact List.mem_cons.2 origin

/-- Something is kept of any candidates. -/
theorem foldl_pick_eq_none_iff : items.foldl (pick beats) none = none ↔ items = [] := by
  cases items with
  | nil => exact ⟨fun _ => rfl, fun _ => rfl⟩
  | cons item items =>
      obtain ⟨y, found, -⟩ := foldl_pick_some beats items item
      have kept : (item :: items).foldl (pick beats) none = some y := found
      simp [kept]

theorem foldl_pick_unbeaten (unbeaten : ∀ later ∈ items, beats later x = false) :
    items.foldl (pick beats) (some x) = some x := by
  induction items with
  | nil => rfl
  | cons item items ih =>
      rw [List.forall_mem_cons] at unbeaten
      have stays : pick beats (some x) item = some x := by simp [pick, unbeaten.1]
      rw [List.foldl_cons, stays, ih unbeaten.2]

/-- If any two candidates can be compared, the one that is kept beats all before it and is beaten by
none behind it. -/
theorem foldl_pick_eq_some_iff (total : ∀ a b, beats a b = false → beats b a = true)
    (trans : ∀ a b c, beats a b = true → beats b c = true → beats a c = true) :
    items.foldl (pick beats) none = some x ↔
      ∃ before after, items = before ++ x :: after ∧ (∀ b ∈ before, beats x b = true) ∧
        ∀ a ∈ after, beats a x = false := by
  constructor
  · intro kept
    -- The pass is followed from its end: the last candidate wins, or the one before it stays.
    induction items using List.reverseRecOn generalizing x with
    | nil => cases kept
    | append_singleton items last ih =>
        rw [List.foldl_append, List.foldl_cons, List.foldl_nil] at kept
        cases earlier : items.foldl (pick beats) none with
        | none =>
            rw [earlier] at kept
            obtain rfl := foldl_pick_eq_none_iff.1 earlier
            obtain rfl := Option.some.inj kept
            exact ⟨[], [], rfl, by simp, by simp⟩
        | some current =>
            obtain ⟨before, after, rfl, beaten, unbeaten⟩ := ih earlier
            rw [earlier, pick] at kept
            cases wins : beats last current with
            | true =>
                rw [if_pos wins] at kept
                obtain rfl := Option.some.inj kept
                refine ⟨before ++ current :: after, [], rfl, ?_, by simp⟩
                intro b member
                rcases List.mem_append.1 member with inFront | behind
                · exact trans last current b wins (beaten b inFront)
                · rcases List.mem_cons.1 behind with rfl | later
                  · exact wins
                  · exact trans last current b wins (total b current (unbeaten b later))
            | false =>
                rw [if_neg (by simp [wins])] at kept
                obtain rfl := Option.some.inj kept
                refine ⟨before, after ++ [last], by simp, beaten, ?_⟩
                intro a member
                rcases List.mem_append.1 member with inside | same
                · exact unbeaten a inside
                · rw [List.mem_singleton.1 same, wins]
  · rintro ⟨before, after, rfl, beaten, unbeaten⟩
    rw [List.foldl_append, List.foldl_cons]
    cases earlier : before.foldl (pick beats) none with
    | none => exact foldl_pick_unbeaten unbeaten
    | some current =>
        have wins : pick beats (some current) x = some x := by
          simp [pick, beaten current (mem_of_foldl_pick earlier)]
        rw [wins, foldl_pick_unbeaten unbeaten]

end pick

end NodeGauge
