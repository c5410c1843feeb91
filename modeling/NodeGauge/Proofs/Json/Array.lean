/-
Module: NodeGauge.Proofs.Json.Array
Purpose: An array is read from every text of it, whatever blanks stand between its tokens, if each
  of its items is read.
Main exports: Json.readListFrom_spaced, Json.IsArray.readsAnywhere, Json.readsAnywhere_arrayText
-/
import NodeGauge.Proofs.Json.Reader

namespace NodeGauge.Json

/-! ### The next item -/

theorem nextItem_first {s : Text} (starts : StartsValue s) : nextItem true s = .ok (.item s) := by
  obtain ⟨c, tail, rfl, shown, notEnd⟩ := starts
  simp only [nextItem, skipBlank_cons shown, if_neg notEnd, if_true]

theorem nextItem_comma {s : Text} (starts : StartsValue s) :
    nextItem false (',' :: s) = .ok (.item s) := by
  obtain ⟨c, tail, rfl, shown, notEnd⟩ := starts
  have comma : skipBlank (',' :: c :: tail) = ',' :: c :: tail := skipBlank_cons (by decide) _
  have noEnd : ¬ ',' = ']' := by decide
  simp only [nextItem, comma, skipBlank_cons shown, if_neg noEnd, if_neg notEnd, if_true,
    Bool.false_eq_true, if_false]

theorem nextItem_end (first : Bool) (rest : Text) :
    nextItem first (']' :: rest) = .ok (.finished rest) := by
  have bracket : skipBlank (']' :: rest) = ']' :: rest := skipBlank_cons (by decide) _
  simp only [nextItem, bracket, if_true]

theorem nextItem_gap (first : Bool) {gap : Text} (blank : IsGap gap) (s : Text) :
    nextItem first (gap ++ s) = nextItem first s := by
  rw [nextItem, nextItem, skipBlank_gap blank]

theorem nextItem_comma_gap {gap : Text} (blank : IsGap gap) (s : Text) :
    nextItem false (',' :: (gap ++ s)) = nextItem false (',' :: s) := by
  have comma (s : Text) : skipBlank (',' :: s) = ',' :: s := skipBlank_cons (by decide) s
  have noEnd : ¬ ',' = ']' := by decide
  simp only [nextItem, comma, if_neg noEnd, Bool.false_eq_true, if_false, if_true,
    skipBlank_gap blank]

section item

variable {item : Item} (spaced : item.IsSpaced) (starts : StartsValue item.value)
  {gap : Text} (blank : IsGap gap) (rest : Text)
include spaced starts

/-- The first item of an array is found at its value. -/
theorem Item.nextItem_first :
    nextItem true (item.text ++ rest) = .ok (.item (item.value ++ (item.back ++ rest))) := by
  rw [Item.text_append, nextItem_gap true spaced.front]
  exact Json.nextItem_first (starts.append _)

include blank in
/-- A further item is found at its value, behind the blanks, the comma and the blanks before it. -/
theorem Item.nextItem_comma :
    nextItem false (gap ++ ',' :: (item.text ++ rest)) =
      .ok (.item (item.value ++ (item.back ++ rest))) := by
  rw [nextItem_gap false blank, Item.text_append,
    nextItem_comma_gap spaced.front]
  exact Json.nextItem_comma (starts.append _)

end item

/-! ### Items up to the end -/

section array

variable {α : Type} {readItem : Text → Except Fault (α × Text)}
  (shorter : ∀ {s rest v}, readItem s = .ok (v, rest) → rest.length < s.length)

theorem readListFrom_item {first : Bool} {done : List α} {s item rest : Text} {v : α}
    (found : nextItem first s = .ok (.item item)) (read : readItem item = .ok (v, rest)) :
    readListFrom readItem shorter first done s =
      readListFrom readItem shorter false (v :: done) rest := by
  rw [readListFrom]
  split
  · next other => cases found.symm.trans other
  · next other => cases found.symm.trans other
  · next other =>
      cases found.symm.trans other
      split
      · next other => cases read.symm.trans other
      · next other =>
          cases read.symm.trans other
          rfl

theorem readListFrom_finished {first : Bool} {done : List α} {s rest : Text}
    (found : nextItem first s = .ok (.finished rest)) :
    readListFrom readItem shorter first done s = .ok (done.reverse, rest) := by
  rw [readListFrom]
  split
  · next other => cases found.symm.trans other
  · next other =>
      cases found.symm.trans other
      rfl
  · next other => cases found.symm.trans other

/-- Further items, each behind a comma, are read up to the end of their array. -/
theorem readListFrom_spaced {items : List Item} {values : List α}
    (reads : List.Forall₂ (fun item v => ReadsAnywhere readItem item.value v) items values)
    (spaced : ∀ item ∈ items, item.IsSpaced) (done : List α) {gap : Text} (blank : IsGap gap)
    (rest : Text) :
    readListFrom readItem shorter false done
        (gap ++ further (items.map Item.text) ']' rest) =
      .ok (done.reverse ++ values, rest) := by
  -- The blanks in front are those behind the item that was read last.
  induction reads generalizing done gap with
  | nil =>
      have found := (nextItem_gap false blank (']' :: rest)).trans (nextItem_end false rest)
      rw [List.append_nil]
      exact readListFrom_finished shorter found
  | @cons item v items values first _ ih =>
      rw [List.forall_mem_cons] at spaced
      have found := Item.nextItem_comma spaced.1 first.starts blank
        (further (items.map Item.text) ']' rest)
      have ends := endsNumber_further (items.map Item.text) (.inl rfl) rest
      have read := first.toReads _ (spaced.1.back.endsNumber ends)
      rw [List.map_cons, further_cons, readListFrom_item shorter found read,
        ih spaced.2 (v :: done) spaced.1.back]
      simp

theorem readList_gap (gap s : Text) (blank : IsGap gap) :
    readList readItem shorter (gap ++ s) = readList readItem shorter s := by
  rw [readList, readList, skipBlank_gap blank]

/-- An array is read with any blanks in it if each of its items is. -/
theorem IsArray.readsAnywhere {items : List Item} {s : Text} (array : IsArray items s)
    {values : List α}
    (reads : List.Forall₂ (fun item v => ReadsAnywhere readItem item.value v) items values) :
    ReadsAnywhere (readList readItem shorter) s values := by
  refine Reads.anywhere ?_ array.startsValue (readList_gap shorter)
  intro rest _
  have bracket (s : Text) : readList readItem shorter ('[' :: s) =
      readListFrom readItem shorter true [] s := rfl
  cases array with
  | @empty gap blank =>
      cases reads with
      | nil =>
          have found := (nextItem_gap true blank (']' :: rest)).trans (nextItem_end true rest)
          rw [List.cons_append, List.cons_append, List.append_assoc, bracket]
          exact readListFrom_finished shorter found
  | items some spaced =>
      cases reads with
      | nil => exact absurd rfl some
      | @cons item v items values first others =>
          rw [List.forall_mem_cons] at spaced
          have found := Item.nextItem_first spaced.1 first.starts
            (further (items.map Item.text) ']' rest)
          have ends := endsNumber_further (items.map Item.text) (.inl rfl) rest
          have read := first.toReads _ (spaced.1.back.endsNumber ends)
          rw [List.map_cons, arrayText_append, bracket, readListFrom_item shorter found read,
            readListFrom_spaced shorter others spaced.2 [v] spaced.1.back]
          rfl

/-- An array that is written without blanks is read if each of its items is. -/
theorem readsAnywhere_arrayText {write : α → Text} {values : List α}
    (reads : ∀ v ∈ values, ReadsAnywhere readItem (write v) v) :
    ReadsAnywhere (readList readItem shorter) (arrayText (values.map write)) values := by
  refine (isArray_arrayText (values.map write)).readsAnywhere shorter ?_
  rw [List.forall₂_map_left_iff, List.forall₂_map_left_iff, List.forall₂_same]
  exact reads

end array

end NodeGauge.Json
