/-
Module: NodeGauge.Proofs.Text.Order
Purpose: The order of texts is the order of their UTF-8 octets, and what sorting a list of texts
  without repetitions keeps.
Main exports: Text.utf8_lt_utf8_iff, Text.eq_of_not_lt, Text.pairwise_distinctSorted,
  Text.mem_distinctSorted
-/
import NodeGauge.Text.Utf8

namespace NodeGauge.Text

/-! ### Octets and code points -/

/-- The first digit to the base 64 in which two numbers differ decides their order. -/
theorem digits_lt {m n : Nat} (below : m < n) :
    m / 262144 < n / 262144 ∨ m / 262144 = n / 262144 ∧
      (m / 4096 % 64 < n / 4096 % 64 ∨ m / 4096 % 64 = n / 4096 % 64 ∧
        (m / 64 % 64 < n / 64 % 64 ∨ m / 64 % 64 = n / 64 % 64 ∧ m % 64 < n % 64)) := by
  omega

/-- Code points lie below the end of the last plane. -/
theorem toNat_lt (c : Char) : c.val.toNat < 0x110000 := by
  rcases c.valid with low | ⟨_, high⟩
  · have : c.val.toNat < 0xd800 := low
    omega
  · exact high

/-- The octets of a lesser character come before those of a greater one, whatever follows. -/
theorem encodeChar_append_lt {c d : Char} (less : c < d) (x y : Octets) :
    String.utf8EncodeChar c ++ x < String.utf8EncodeChar d ++ y := by
  have below : c.val.toNat < d.val.toNat := less
  have bound : d.val.toNat < 0x110000 := toNat_lt d
  simp only [String.utf8EncodeChar]
  generalize c.val.toNat = m at *
  generalize d.val.toNat = n at *
  by_cases wide : 0xffff < m
  · -- four octets on both sides, one for each digit of the code point
    have lead {k : Nat} (_ : k < 0x110000) :
        (k / 262144 % 8 + 240) % 256 = k / 262144 + 240 := by
      omega
    have tail (k : Nat) : (k % 64 + 128) % 256 = k % 64 + 128 := by
      omega
    have digits := digits_lt below
    have four (k : Nat) (_ : 0xffff < k) : ¬ k ≤ 0x7f ∧ ¬ k ≤ 0x7ff ∧ ¬ k ≤ 0xffff := by
      omega
    have wideToo : 0xffff < n := by
      omega
    simp [four m wide, four n wideToo, List.cons_lt_cons_iff, UInt8.lt_iff_toNat_lt,
      ← UInt8.toNat_inj, lead bound, lead (Nat.lt_trans below bound), tail]
    omega
  · split <;> split <;> (try split) <;> (try split) <;> (try split) <;> (try split) <;> try omega
    all_goals simp [List.cons_lt_cons_iff, UInt8.lt_iff_toNat_lt, ← UInt8.toNat_inj]
    all_goals omega

theorem utf8_cons (c : Char) (s : Text) : utf8 (c :: s) = String.utf8EncodeChar c ++ s.utf8 := rfl

theorem utf8_lt_utf8 {a b : Text} (less : a < b) : a.utf8 < b.utf8 := by
  induction a generalizing b with
  | nil =>
      cases b with
      | nil => exact absurd less (List.lt_irrefl _)
      | cons d bs =>
          cases octets : utf8 (d :: bs) with
          | nil =>
              rw [utf8_cons, List.append_eq_nil_iff] at octets
              exact absurd octets.1 String.utf8EncodeChar_ne_nil
          | cons o os => exact List.nil_lt_cons o os
  | cons c as ih =>
      cases b with
      | nil => simp at less
      | cons d bs =>
          rw [utf8_cons, utf8_cons]
          rcases List.cons_lt_cons_iff.1 less with first | ⟨rfl, rest⟩
          · exact encodeChar_append_lt first _ _
          · exact List.append_left_lt (ih rest)

/-- Texts are ordered as their octets are. -/
theorem utf8_lt_utf8_iff {a b : Text} : a.utf8 < b.utf8 ↔ a < b := by
  constructor
  · intro less
    apply Std.not_le.1
    intro notLess
    by_cases same : a = b
    · exact List.lt_irrefl _ (same ▸ less)
    · have greater : b < a := Std.lt_of_le_of_ne notLess (Ne.symm same)
      exact List.lt_asymm less (utf8_lt_utf8 greater)
  · exact utf8_lt_utf8

/-- A text that is neither below nor above another is that text. -/
theorem eq_of_not_lt {a b : Text} (notAbove : ¬b < a) (notBelow : ¬a < b) : a = b :=
  List.le_antisymm (List.not_lt.1 notAbove) (List.not_lt.1 notBelow)

theorem not_lt_trans {a b c : Text} (first : ¬b < a) (second : ¬c < b) : ¬c < a :=
  List.not_lt.2 (List.le_trans (List.not_lt.1 first) (List.not_lt.1 second))

/-! ### Sorting without repetitions -/

private theorem eraseRepsLoop_eq (a : Text) (texts done : List Text) :
    List.eraseRepsBy.loop (· == ·) a texts done =
      done.reverse ++ List.eraseRepsBy.loop (· == ·) a texts [] := by
  induction texts generalizing a done with
  | nil => simp [List.eraseRepsBy.loop]
  | cons b texts ih =>
      simp only [List.eraseRepsBy.loop]
      split
      · exact ih a done
      · rw [ih b (a :: done), ih b [a]]
        simp

private theorem eraseReps_cons_cons (a b : Text) (texts : List Text) :
    (a :: b :: texts).eraseReps =
      if a = b then (b :: texts).eraseReps else a :: (b :: texts).eraseReps := by
  by_cases same : a = b
  · subst same
    simp [List.eraseReps, List.eraseRepsBy, List.eraseRepsBy.loop]
  · have differ : (a == b) = false := by simpa using same
    simp only [List.eraseReps, List.eraseRepsBy, List.eraseRepsBy.loop, differ, same, if_false]
    rw [eraseRepsLoop_eq]
    rfl

private theorem mem_eraseReps {t : Text} (texts : List Text) : t ∈ texts.eraseReps ↔ t ∈ texts := by
  induction texts with
  | nil => rfl
  | cons a texts ih =>
      cases texts with
      | nil => simp [List.eraseReps, List.eraseRepsBy, List.eraseRepsBy.loop]
      | cons b texts =>
          rw [eraseReps_cons_cons]
          split
          · next same => simp [ih, same]
          · simp only [List.mem_cons (b := a), ih]

/-- Without repetitions, an ascending list ascends strictly. -/
private theorem pairwise_eraseReps {texts : List Text} (sorted : texts.Pairwise fun a b => ¬b < a) :
    texts.eraseReps.Pairwise (· < ·) := by
  induction texts with
  | nil => exact List.Pairwise.nil
  | cons a texts ih =>
      obtain ⟨least, rest⟩ := List.pairwise_cons.1 sorted
      cases texts with
      | nil => simp [List.eraseReps, List.eraseRepsBy, List.eraseRepsBy.loop]
      | cons b texts =>
          rw [eraseReps_cons_cons]
          split
          · exact ih rest
          · next differ =>
              have notGreater := Std.not_lt.1 (least b List.mem_cons_self)
              have less : a < b := Std.lt_of_le_of_ne notGreater differ
              refine List.pairwise_cons.2 ⟨?_, ih rest⟩
              intro t member
              rcases List.mem_cons.1 ((mem_eraseReps _).1 member) with rfl | later
              · exact less
              · exact Std.lt_of_lt_of_le less (Std.not_lt.1 ((List.pairwise_cons.1 rest).1 t later))

theorem mem_distinctSorted {t : Text} {texts : List Text} :
    t ∈ distinctSorted texts ↔ t ∈ texts := by
  rw [distinctSorted, mem_eraseReps, List.mem_mergeSort]

theorem pairwise_distinctSorted (texts : List Text) :
    (distinctSorted texts).Pairwise (· < ·) := by
  apply pairwise_eraseReps
  have sorted : (texts.mergeSort fun a b => !decide (b < a)).Pairwise fun a b =>
      (!decide (b < a)) = true := by
    apply List.pairwise_mergeSort
    · intro a b c ab bc
      simp only [Bool.not_eq_true', decide_eq_false_iff_not, List.not_lt] at *
      exact List.le_trans ab bc
    · intro a b
      simp only [Bool.or_eq_true, Bool.not_eq_true', decide_eq_false_iff_not, List.not_lt]
      exact List.le_total a b
  exact sorted.imp (by simp)

theorem nodup_of_pairwise {texts : List Text} (sorted : texts.Pairwise (· < ·)) : texts.Nodup := by
  apply List.Pairwise.imp _ sorted
  intro a b less same
  exact List.lt_irrefl _ (same ▸ less)

/-- A strictly ascending list is known by its members. -/
theorem eq_of_pairwise_of_mem_iff {xs ys : List Text} (xsSorted : xs.Pairwise (· < ·))
    (ysSorted : ys.Pairwise (· < ·)) (same : ∀ t, t ∈ xs ↔ t ∈ ys) : xs = ys := by
  have perm : xs.Perm ys :=
    (List.perm_ext_iff_of_nodup (nodup_of_pairwise xsSorted) (nodup_of_pairwise ysSorted)).2 same
  apply List.Perm.eq_of_pairwise _ xsSorted ysSorted perm
  intro a b _ _ less greater
  exact absurd greater (List.lt_asymm less)

end NodeGauge.Text
