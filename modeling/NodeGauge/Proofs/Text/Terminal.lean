/-
Module: NodeGauge.Proofs.Text.Terminal
Purpose: What is left of a text cannot steer a terminal, a text that could not stays as it is, and
  marks are all that is lost of one that is set off by them.
Main exports: Terminal.Harmless, Terminal.harmless_visible, Terminal.harmless_visibleInStream,
  Terminal.visible_eq_self, Terminal.visibleInStream_eq_self, Terminal.visible_marked,
  Terminal.visibleInStream_marked
-/
import NodeGauge.Text.Terminal

namespace NodeGauge.Terminal

/-- A text in which every character is shown. -/
def Harmless (s : Text) : Prop := ∀ c ∈ s, isShown c = true

instance (s : Text) : Decidable (Harmless s) :=
  decidable_of_iff (s.all isShown = true) (by simp [Harmless])

@[simp] theorem harmless_nil : Harmless [] := by simp [Harmless]

@[simp] theorem harmless_cons {c : Char} {s : Text} :
    Harmless (c :: s) ↔ isShown c = true ∧ Harmless s := by
  simp [Harmless]

@[simp] theorem harmless_append {s t : Text} : Harmless (s ++ t) ↔ Harmless s ∧ Harmless t := by
  simp [Harmless, or_imp, forall_and]

/-! ### What is left -/

/-- In every mode only characters are shown that are shown where nothing is in progress. -/
theorem Mode.isShown_of_shows {m : Mode} {c : Char} (shows : m.shows c = true) :
    isShown c = true := by
  cases m <;> simp_all [Mode.shows, isShown]

theorem harmless_visibleFrom (m : Mode) (s : Text) : Harmless (visibleFrom m s) := by
  induction s generalizing m with
  | nil => exact harmless_nil
  | cons c s ih =>
      rw [visibleFrom]
      split
      · next shows => exact harmless_cons.2 ⟨Mode.isShown_of_shows shows, ih _⟩
      · exact ih _

/-- Nothing is left of a text but characters that are shown. -/
theorem harmless_visible (s : Text) : Harmless (visible s) := harmless_visibleFrom .ground s

theorem harmless_visibleInStreamFrom (m : Mode) (showing : Bool) (s : Text) :
    Harmless (visibleInStreamFrom m showing s) := by
  induction s generalizing m showing with
  | nil => exact harmless_nil
  | cons c s ih =>
      rw [visibleInStreamFrom]
      split
      · next shows =>
          refine harmless_cons.2 ⟨?_, ih _ _⟩
          rcases Bool.or_eq_true_iff.1 shows with goesOn | starts
          · exact (Bool.and_eq_true_iff.1 goesOn).2
          · exact Mode.isShown_of_shows starts
      · exact ih _ _

/-- Nothing is left in a stream but characters that are shown. -/
theorem harmless_visibleInStream (s : Text) : Harmless (visibleInStream s) :=
  harmless_visibleInStreamFrom .ground false s

/-! ### What stays -/

theorem visibleFrom_append {s : Text} (harmless : Harmless s) (rest : Text) :
    visibleFrom .ground (s ++ rest) = s ++ visibleFrom .ground rest := by
  induction s with
  | nil => rfl
  | cons c s ih =>
      rw [harmless_cons] at harmless
      have shows : Mode.ground.shows c = true := harmless.1
      rw [List.cons_append, visibleFrom, if_pos shows, ih harmless.2, List.cons_append]

/-- A text in which every character is shown goes through a stream, whatever was shown before it. -/
theorem visibleInStreamFrom_append {s : Text} (harmless : Harmless s) (showing : Bool)
    (rest : Text) : ∃ after, visibleInStreamFrom .ground showing (s ++ rest) =
      s ++ visibleInStreamFrom .ground after rest := by
  induction s generalizing showing with
  | nil => exact ⟨showing, rfl⟩
  | cons c s ih =>
      rw [harmless_cons] at harmless
      have shows : ((showing && isShown c) || Mode.ground.shows c) = true := by
        simp [Mode.shows, harmless.1]
      obtain ⟨after, behind⟩ := ih harmless.2 true
      refine ⟨after, ?_⟩
      rw [List.cons_append, visibleInStreamFrom, if_pos shows, ite_self, behind, List.cons_append]

/-- A text in which every character is shown stays as it is. -/
theorem visible_eq_self {s : Text} (harmless : Harmless s) : visible s = s := by
  have whole := visibleFrom_append harmless []
  simpa [visible, visibleFrom] using whole

/-- A text in which every character is shown stays as it is in a stream. -/
theorem visibleInStream_eq_self {s : Text} (harmless : Harmless s) : visibleInStream s = s := by
  obtain ⟨after, whole⟩ := visibleInStreamFrom_append harmless false []
  simpa [visibleInStream, visibleInStreamFrom] using whole

/-! ### Marks -/

/-- A mark is not shown, and whatever has been begun before it is given up. -/
theorem visibleFrom_mark (m : Mode) (rest : Text) :
    visibleFrom m (mark ++ rest) = visibleFrom .ground rest := by
  cases m <;> rfl

theorem visibleInStreamFrom_mark (m : Mode) (showing : Bool) (rest : Text) :
    visibleInStreamFrom m showing (mark ++ rest) = visibleInStreamFrom .ground false rest := by
  cases m <;> cases showing <;> rfl

section marked

variable {front s back : Text} (inFront : Harmless front) (harmless : Harmless s)
  (behind : Harmless back)
include inFront harmless behind

/-- Of a text that is set off, its marks are all that is lost. -/
theorem visible_marked : visible (front ++ marked s ++ back) = front ++ s ++ back := by
  simp only [visible, marked, List.append_assoc]
  rw [visibleFrom_append inFront, visibleFrom_mark, visibleFrom_append harmless, visibleFrom_mark]
  exact congrArg (fun rest => front ++ (s ++ rest)) (visible_eq_self behind)

/-- Of a text that is set off in a stream, its marks are all that is lost. -/
theorem visibleInStream_marked :
    visibleInStream (front ++ marked s ++ back) = front ++ s ++ back := by
  simp only [visibleInStream, marked, List.append_assoc]
  obtain ⟨showing, first⟩ :=
    visibleInStreamFrom_append inFront false (mark ++ (s ++ (mark ++ back)))
  obtain ⟨shown, second⟩ := visibleInStreamFrom_append harmless false (mark ++ back)
  rw [first, visibleInStreamFrom_mark, second, visibleInStreamFrom_mark]
  exact congrArg (fun rest => front ++ (s ++ rest)) (visibleInStream_eq_self behind)

end marked

end NodeGauge.Terminal
