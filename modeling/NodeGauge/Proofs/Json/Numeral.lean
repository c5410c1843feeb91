/-
Module: NodeGauge.Proofs.Json.Numeral
Purpose: The numeral of a 64-bit number is read back as that number by the reader of JSON numbers,
  unless what follows goes on with the number.
Main exports: Json.EndsNumber, Json.scanNumber_ofNat, Json.absorb_ofNat, Json.readNatural_write
-/
import NodeGauge.Json.Reader
import NodeGauge.Proofs.Number.Numeral

namespace NodeGauge.Json

open Numeral (isDigit digitValue ofNat)

/-- A text that does not go on with a number in front of it. -/
structure EndsNumber (rest : Text) : Prop where
  noDigit : ∀ c tail, rest = c :: tail → isDigit c = false
  noPoint : ∀ tail, rest ≠ '.' :: tail
  noExponent : ∀ c tail, rest = c :: tail → c ≠ 'e' ∧ c ≠ 'E'

theorem endsNumber_nil : EndsNumber [] where
  noDigit _ _ same := by cases same
  noPoint _ same := by cases same
  noExponent _ _ same := by cases same

/-- A mark that is no part of numbers ends them. -/
theorem endsNumber_cons {mark : Char} (noDigit : isDigit mark = false)
    (others : mark ≠ '.' ∧ mark ≠ 'e' ∧ mark ≠ 'E') (rest : Text) : EndsNumber (mark :: rest) where
  noDigit c tail same := by
    cases same
    exact noDigit
  noPoint tail same := by
    cases same
    exact others.1 rfl
  noExponent c tail same := by
    cases same
    exact others.2

/-! ### Digits -/

/-- The digits of a positive number do not start with a zero. -/
theorem head?_ofNat {n : Nat} (positive : 0 < n) : (ofNat n).head? ≠ some '0' := by
  induction n using Nat.strongRecOn with
  | ind n ih =>
      by_cases single : n < 10
      · have digits : ∀ d : Fin 10, 0 < d.val → (ofNat d).head? ≠ some '0' := by decide
        exact digits ⟨n, single⟩ positive
      · have more : ofNat n = ofNat (n / 10) ++ [Nat.digitChar (n % 10)] :=
          Nat.toDigits_of_base_le (by decide) (Nat.not_lt.1 single)
        obtain ⟨d, tail, front⟩ := List.exists_cons_of_ne_nil (Numeral.ofNat_ne_nil (n / 10))
        have smaller := ih (n / 10) (by omega) (by omega)
        rw [front] at more smaller
        rw [more]
        exact smaller

/-- Only the numeral of zero starts with a zero, and it is nothing else. -/
theorem ofNat_ne_leading_zero (n : Nat) (c : Char) (tail : Text) : ofNat n ≠ '0' :: c :: tail := by
  intro same
  cases n with
  | zero =>
      have single : ofNat 0 = ['0'] := rfl
      rw [single] at same
      simp at same
  | succ n => exact head?_ofNat (Nat.succ_pos n) (by rw [same]; rfl)

section digits

variable {rest : Text} (ends : EndsNumber rest) (n : Nat)
include ends

theorem takeWhile_ofNat : (ofNat n ++ rest).takeWhile isDigit = ofNat n := by
  have stop : rest.takeWhile isDigit = [] := by
    cases rest with
    | nil => rfl
    | cons c tail => exact List.takeWhile_cons_of_neg (by simp [ends.noDigit c tail rfl])
  rw [List.takeWhile_append_of_pos fun _ => Numeral.isDigit_of_mem_ofNat, stop, List.append_nil]

theorem dropWhile_ofNat : (ofNat n ++ rest).dropWhile isDigit = rest := by
  have stop : rest.dropWhile isDigit = rest := by
    cases rest with
    | nil => rfl
    | cons c tail => exact List.dropWhile_cons_of_neg (by simp [ends.noDigit c tail rfl])
  rw [List.dropWhile_append_of_pos fun _ => Numeral.isDigit_of_mem_ofNat, stop]

theorem scanDigits_ofNat : scanDigits (ofNat n ++ rest) = .ok (ofNat n, rest) := by
  rw [scanDigits, takeWhile_ofNat ends, dropWhile_ofNat ends]
  split
  · next none => exact absurd none (Numeral.ofNat_ne_nil n)
  · rfl

theorem scanWhole_ofNat : scanWhole (ofNat n ++ rest) = .ok (ofNat n, rest) := by
  rw [scanWhole, scanDigits_ofNat ends]
  split
  · next c tail _ leading =>
      simp only [Except.ok.injEq, Prod.mk.injEq] at leading
      exact absurd leading.1 (ofNat_ne_leading_zero n c tail)
  · rfl

omit n in
theorem scanFraction_of_endsNumber : scanFraction rest = .ok (none, rest) := by
  unfold scanFraction
  split
  · next tail => exact absurd rfl (ends.noPoint tail)
  · rfl

omit n in
theorem scanExponent_of_endsNumber : scanExponent rest = .ok (none, rest) := by
  unfold scanExponent
  split
  · next c tail =>
      have ⟨small, capital⟩ := ends.noExponent c tail rfl
      simp [small, capital]
  · rfl

theorem scanNumber_ofNat : scanNumber (ofNat n ++ rest) = .ok ⟨ofNat n, none, none, rest⟩ := by
  simp only [scanNumber, scanWhole_ofNat ends, scanFraction_of_endsNumber ends,
    scanExponent_of_endsNumber ends]

end digits

/-! ### Values -/

/-- Further digits never make a number smaller. -/
theorem le_foldl_digits (digits : Text) (n : Nat) :
    n ≤ digits.foldl (fun n c => 10 * n + digitValue c) n := by
  induction digits generalizing n with
  | nil => exact Nat.le_refl n
  | cons c digits ih => exact Nat.le_trans (by omega) (ih (10 * n + digitValue c))

/-- Digits are all taken if the number that they make fits in 64 bits. -/
theorem absorb_eq (digits : Text) (n : Nat)
    (fits : digits.foldl (fun n c => 10 * n + digitValue c) n < UInt64.size) :
    absorb n digits = (digits.foldl (fun n c => 10 * n + digitValue c) n, digits.length) := by
  induction digits generalizing n with
  | nil => rfl
  | cons c digits ih =>
      have next : 10 * n + digitValue c < UInt64.size :=
        Nat.lt_of_le_of_lt (le_foldl_digits digits _) fits
      simp only [absorb, if_pos next, ih _ fits, List.foldl_cons, List.length_cons]

theorem absorb_ofNat {n : Nat} (fits : n < UInt64.size) :
    absorb 0 (ofNat n) = (n, (ofNat n).length) := by
  have value : (ofNat n).foldl (fun n c => 10 * n + digitValue c) 0 = n := Numeral.value_ofNat n
  rw [absorb_eq _ _ (by rw [value]; exact fits), value]

/-! ### Numbers -/

theorem readNumber_write (n : UInt64) {rest : Text} (ends : EndsNumber rest) :
    readNumber false (Numeral.write n ++ rest) = .ok (.natural n, rest) := by
  have scanned := scanNumber_ofNat ends n.toNat
  have value : Scanned.value? ⟨ofNat n.toNat, none, none, rest⟩ false = some (.natural n) := by
    simp [Scanned.value?, absorb_ofNat n.toNat_lt]
  rw [readNumber, Numeral.write, scanned]
  simp only [value]

theorem isBlank_of_isDigit {c : Char} (digit : isDigit c = true) : isBlank c = false := by
  apply Bool.eq_false_iff.2
  intro blank
  simp only [isBlank, Bool.or_eq_true, beq_iff_eq] at blank
  rcases blank with ((rfl | rfl) | rfl) | rfl
  all_goals exact absurd digit (by decide)

/-- A 64-bit number is read from the numeral that is written for it. -/
theorem readNatural_write (n : UInt64) {rest : Text} (ends : EndsNumber rest) :
    readNatural (Numeral.write n ++ rest) = .ok (n, rest) := by
  have read := readNumber_write n ends
  obtain ⟨d, tail, front⟩ := List.exists_cons_of_ne_nil (Numeral.ofNat_ne_nil n.toNat)
  rw [Numeral.write, front, List.cons_append] at read ⊢
  have digit : isDigit d = true := by
    apply Numeral.isDigit_of_mem_ofNat (n := n.toNat)
    rw [front]
    exact List.mem_cons_self
  have noSign : d ≠ '-' := by
    rintro rfl
    exact absurd digit (by decide)
  rw [readNatural, skipBlank_cons (isBlank_of_isDigit digit)]
  simp only [if_neg noSign, if_pos digit, readNaturalFrom, read, Number.natural?]

end NodeGauge.Json
