/-
Module: NodeGauge.Proofs.Number.Numeral
Purpose: Numerals as they are written, digits only and read back as the number they are of, and
  all the texts that are read as a number.
Main exports: Numeral.isDigit_of_mem_ofNat, Numeral.not_mem_ofNat, Numeral.value_ofNat,
  Numeral.read?_ofNat, Numeral.read?_write, Numeral.ofNat_append_inj, Numeral.IsDecimal,
  Numeral.Denotes, Numeral.read?_eq_some_iff
-/
import Mathlib.Data.List.Induction
import Mathlib.Data.Nat.Digits.Defs
import NodeGauge.Number.Numeral
import NodeGauge.Proofs.Text.Words

namespace NodeGauge.Numeral

theorem isDigit_of_mem_ofNat {n : Nat} {c : Char} (member : c ∈ ofNat n) : isDigit c = true := by
  have digit := Nat.isDigit_of_mem_toDigits (by decide) (by decide) member
  simpa [Char.isDigit, isDigit, Char.le_def] using digit

/-- What is no digit does not occur in a numeral. -/
theorem not_mem_ofNat {c : Char} (noDigit : isDigit c = false) (n : Nat) : c ∉ ofNat n := by
  intro member
  rw [isDigit_of_mem_ofNat member] at noDigit
  exact Bool.noConfusion noDigit

theorem ofNat_ne_nil (n : Nat) : ofNat n ≠ [] := Nat.toDigits_ne_nil

theorem value_ofNat (n : Nat) : value (ofNat n) = n := Nat.ofDigitChars_ten_toDigits

theorem all_isDigit_ofNat (n : Nat) : (ofNat n).all isDigit = true := by
  rw [List.all_eq_true]
  intro c member
  exact isDigit_of_mem_ofNat member

theorem read?_ofNat {n : Nat} (fits : n < UInt64.size) :
    read? (ofNat n) = some (UInt64.ofNat n) := by
  have noSign (rest : Text) : ofNat n ≠ '+' :: rest := by
    intro sign
    have plus : '+' ∈ ofNat n := by simp [sign]
    exact not_mem_ofNat (by decide) n plus
  rw [read?]
  · simp [ofNat_ne_nil, all_isDigit_ofNat, value_ofNat, fits]
  · exact noSign

/-- A 64-bit number is read from the numeral that is written for it. -/
theorem read?_write (n : UInt64) : read? (write n) = some n := by
  rw [write, read?_ofNat n.toNat_lt, UInt64.ofNat_toNat]

theorem isBlank_of_isDigit {c : Char} (digit : isDigit c = true) : Text.isBlank c = false := by
  simp only [isDigit, Char.le_def, Bool.and_eq_true, decide_eq_true_eq,
    UInt32.le_iff_toNat_le] at digit
  have least : 48 ≤ c.toNat := digit.1
  have greatest : c.toNat ≤ 57 := digit.2
  simp [Text.isBlank]
  omega

theorem isWord_ofNat (n : Nat) : Text.IsWord (ofNat n) :=
  ⟨ofNat_ne_nil n, fun _ member => isBlank_of_isDigit (isDigit_of_mem_ofNat member)⟩

/-! ### Where a numeral ends -/

theorem ofNat_injective : Function.Injective ofNat := by
  intro n m same
  rw [← value_ofNat n, same, value_ofNat]

/-- A numeral is of one number and ends at one place, if no digit follows. -/
theorem ofNat_append_inj {n m : Nat} {rest more : Text}
    (stops : ∀ c, rest.head? = some c → isDigit c = false)
    (stopsOther : ∀ c, more.head? = some c → isDigit c = false)
    (same : ofNat n ++ rest = ofNat m ++ more) : n = m ∧ rest = more := by
  have digits (n : Nat) : ∀ c ∈ ofNat n, isDigit c = true := fun _ => isDigit_of_mem_ofNat
  obtain ⟨numerals, behind⟩ :=
    Text.append_inj_of_class (digits n) (digits m) stops stopsOther same
  exact ⟨ofNat_injective numerals, behind⟩

/-- A mark that is no digit ends the numeral in front of it. -/
theorem stops_cons {mark : Char} (noDigit : isDigit mark = false) (rest : Text) :
    ∀ c, (mark :: rest).head? = some c → isDigit c = false := by
  intro c first
  cases first
  exact noDigit

theorem write_append_inj {n m : UInt64} {rest more : Text}
    (stops : ∀ c, rest.head? = some c → isDigit c = false)
    (stopsOther : ∀ c, more.head? = some c → isDigit c = false)
    (same : write n ++ rest = write m ++ more) : n = m ∧ rest = more := by
  obtain ⟨value, behind⟩ := ofNat_append_inj stops stopsOther same
  exact ⟨UInt64.toNat_inj.1 value, behind⟩

/-- A numeral starts with a digit. -/
theorem isDigit_of_head? {n : Nat} {rest : Text} {c : Char}
    (first : (ofNat n ++ rest).head? = some c) : isDigit c = true := by
  obtain ⟨d, tail, front⟩ := List.exists_cons_of_ne_nil (ofNat_ne_nil n)
  rw [front] at first
  obtain rfl := Option.some.inj first
  exact isDigit_of_mem_ofNat (n := n) (by rw [front]; exact List.mem_cons_self)

/-! ### What reads as a number -/

/-- A text is decimal digits of a number: one or more ASCII digits, of which the last one counts its
own value and every other one ten times what it would count one place behind. -/
structure IsDecimal (digits : Text) (n : Nat) : Prop where
  ne_nil : digits ≠ []
  ascii : ∀ c ∈ digits, '0' ≤ c ∧ c ≤ '9'
  value : Nat.ofDigits 10 (digits.reverse.map fun c => c.toNat - '0'.toNat) = n

/-- A text that stands for a 64-bit number: decimal digits, behind a plus sign or without one. -/
inductive Denotes : Text → UInt64 → Prop where
  | unsigned {digits : Text} {n : UInt64} (decimal : IsDecimal digits n.toNat) : Denotes digits n
  | signed {digits : Text} {n : UInt64} (decimal : IsDecimal digits n.toNat) :
      Denotes ('+' :: digits) n

theorem isDigit_iff {c : Char} : isDigit c = true ↔ '0' ≤ c ∧ c ≤ '9' := by
  simp [isDigit]

theorem value_eq_ofDigits (digits : Text) :
    value digits = Nat.ofDigits 10 (digits.reverse.map digitValue) := by
  induction digits using List.reverseRecOn with
  | nil => rfl
  | append_singleton digits c ih =>
      have last : value (digits ++ [c]) = 10 * value digits + digitValue c := by
        simp [value]
      rw [last, ih, List.reverse_append, List.reverse_singleton, List.singleton_append,
        List.map_cons, Nat.ofDigits_cons, Nat.add_comm]

theorem isDecimal_iff {digits : Text} {n : Nat} :
    IsDecimal digits n ↔ (!digits.isEmpty && digits.all isDigit) = true ∧ value digits = n := by
  rw [value_eq_ofDigits, Bool.and_eq_true, List.all_eq_true, Bool.not_eq_true',
    List.isEmpty_eq_false_iff, and_assoc]
  constructor
  · rintro ⟨full, ascii, value⟩
    exact ⟨full, fun c member => isDigit_iff.2 (ascii c member), value⟩
  · rintro ⟨full, digit, value⟩
    exact ⟨full, fun c member => isDigit_iff.1 (digit c member), value⟩

theorem IsDecimal.not_mem {digits : Text} {n : Nat} (decimal : IsDecimal digits n) {c : Char}
    (noDigit : isDigit c = false) : c ∉ digits := by
  intro member
  have digit := isDigit_iff.2 (decimal.ascii c member)
  rw [noDigit] at digit
  exact Bool.noConfusion digit

theorem denotes_signed_iff {digits : Text} {n : UInt64} :
    Denotes ('+' :: digits) n ↔ IsDecimal digits n.toNat := by
  constructor
  · intro denotes
    cases denotes with
    | unsigned decimal => exact absurd List.mem_cons_self (decimal.not_mem (by decide))
    | signed decimal => exact decimal
  · exact .signed

theorem denotes_unsigned_iff {s : Text} {n : UInt64} (unsigned : ∀ rest, s ≠ '+' :: rest) :
    Denotes s n ↔ IsDecimal s n.toNat := by
  constructor
  · intro denotes
    cases denotes with
    | unsigned decimal => exact decimal
    | signed => exact absurd rfl (unsigned _)
  · exact .unsigned

/-- A text is read as the number that it stands for. -/
theorem read?_eq_some_iff {s : Text} {n : UInt64} : read? s = some n ↔ Denotes s n := by
  have digits (digits : Text) :
      (if !digits.isEmpty && digits.all isDigit then
        if value digits < UInt64.size then some (UInt64.ofNat (value digits)) else none
      else none) = some n ↔ IsDecimal digits n.toNat := by
    rw [isDecimal_iff, Option.ite_none_right_eq_some, Option.ite_none_right_eq_some,
      Option.some.injEq]
    refine and_congr_right fun _ => ⟨?_, ?_⟩
    · rintro ⟨fits, rfl⟩
      exact (UInt64.toNat_ofNat_of_lt' fits).symm
    · intro value
      rw [value, UInt64.ofNat_toNat]
      exact ⟨n.toNat_lt, rfl⟩
  by_cases signed : ∃ rest, s = '+' :: rest
  · obtain ⟨rest, rfl⟩ := signed
    rw [denotes_signed_iff]
    exact digits rest
  · have unsigned (rest : Text) : s ≠ '+' :: rest := fun sign => signed ⟨rest, sign⟩
    rw [denotes_unsigned_iff unsigned, read?]
    · exact digits s
    · exact unsigned

theorem read?_eq_none_iff {s : Text} : read? s = none ↔ ∀ n, ¬Denotes s n := by
  simp only [Option.eq_none_iff_forall_ne_some, ne_eq, read?_eq_some_iff]

theorem Denotes.unique {s : Text} {n m : UInt64} (one : Denotes s n) (two : Denotes s m) :
    n = m := by
  rw [← read?_eq_some_iff] at one two
  exact Option.some.inj (one.symm.trans two)

/-- What is neither a digit nor a plus sign does not occur in a text that stands for a number. -/
theorem Denotes.not_mem {s : Text} {n : UInt64} (denotes : Denotes s n) {c : Char}
    (noDigit : isDigit c = false) (noSign : c ≠ '+') : c ∉ s := by
  cases denotes with
  | unsigned decimal => exact decimal.not_mem noDigit
  | signed decimal => exact List.not_mem_cons_of_ne_of_not_mem noSign (decimal.not_mem noDigit)

end NodeGauge.Numeral
