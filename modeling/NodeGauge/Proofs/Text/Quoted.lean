/-
Module: NodeGauge.Proofs.Text.Quoted
Purpose: A quoted text can be told apart from every other one, whatever follows it, and has no
  control character in it.
Main exports: Text.EscapedAs, Text.EscapedAs.unique, Text.quoted_append_inj, Text.IsOneLine,
  Text.isOneLine_quoted
-/
import NodeGauge.Proofs.Text.Words
import NodeGauge.Text.Quoted

namespace NodeGauge.Text

/-! ### Hexadecimal digits -/

theorem hexadecimal_of_lt {n : Nat} (single : n < 16) : hexadecimal n = [Nat.digitChar n] :=
  Nat.toDigits_of_lt_base single

theorem hexadecimal_of_le {n : Nat} (more : 16 ≤ n) :
    hexadecimal n = hexadecimal (n / 16) ++ [Nat.digitChar (n % 16)] :=
  Nat.toDigits_of_base_le (by decide) more

theorem hexadecimal_ne_nil (n : Nat) : hexadecimal n ≠ [] := Nat.toDigits_ne_nil

theorem digitChar_inj {n m : Nat} (small : n < 16) (smallOther : m < 16)
    (same : Nat.digitChar n = Nat.digitChar m) : n = m := by
  have all : ∀ n m : Fin 16, Nat.digitChar n = Nat.digitChar m → n = m := by decide
  exact congrArg Fin.val (all ⟨n, small⟩ ⟨m, smallOther⟩ same)

/-- A digit stands alone just if the number is below sixteen. -/
theorem hexadecimal_ne_of_lt_of_le {n m : Nat} (single : n < 16) (more : 16 ≤ m) :
    hexadecimal n ≠ hexadecimal m := by
  rw [hexadecimal_of_lt single, hexadecimal_of_le more]
  intro same
  have full := List.length_pos_iff.2 (hexadecimal_ne_nil (m / 16))
  have lengths := congrArg List.length same
  simp only [List.length_append, List.length_singleton] at lengths
  omega

theorem hexadecimal_injective : Function.Injective hexadecimal := by
  intro n m same
  induction n using Nat.strongRecOn generalizing m with
  | ind n ih =>
      rcases Nat.lt_or_ge n 16 with single | more <;> rcases Nat.lt_or_ge m 16 with singleM | moreM
      · rw [hexadecimal_of_lt single, hexadecimal_of_lt singleM] at same
        exact digitChar_inj single singleM (by simpa using same)
      · exact absurd same (hexadecimal_ne_of_lt_of_le single moreM)
      · exact absurd same.symm (hexadecimal_ne_of_lt_of_le singleM more)
      · rw [hexadecimal_of_le more, hexadecimal_of_le moreM] at same
        obtain ⟨front, last⟩ := List.append_inj' same rfl
        have high := ih (n / 16) (by omega) front
        have low := digitChar_inj (n := n % 16) (m := m % 16) (by omega) (by omega)
          (by simpa using last)
        omega

/-- Hexadecimal digits are ten figures and six letters. -/
theorem mem_digits_of_mem_hexadecimal {n : Nat} {c : Char} (member : c ∈ hexadecimal n) :
    c ∈ "0123456789abcdef".toList := by
  have digit : ∀ d : Fin 16, Nat.digitChar d ∈ "0123456789abcdef".toList := by decide
  induction n using Nat.strongRecOn with
  | ind n ih =>
      rcases Nat.lt_or_ge n 16 with single | more
      · rw [hexadecimal_of_lt single, List.mem_singleton] at member
        rw [member]
        exact digit ⟨n, single⟩
      · rw [hexadecimal_of_le more, List.mem_append, List.mem_singleton] at member
        rcases member with front | rfl
        · exact ih (n / 16) (by omega) front
        · exact digit ⟨n % 16, by omega⟩

/-! ### Escapes -/

/-- The character that a letter stands for behind the escape mark. -/
def shortEscape? : Char → Option Char
  | '"' => some '"'
  | '\\' => some '\\'
  | '0' => some '\x00'
  | 't' => some '\t'
  | 'n' => some '\n'
  | 'r' => some '\r'
  | _ => none

/-- The ways to write a character between quotes. -/
inductive EscapedAs (c : Char) : Text → Prop where
  /-- By a letter of its own. -/
  | letter {letter : Char} (stands : shortEscape? letter = some c) : EscapedAs c ['\\', letter]
  /-- By its code point. -/
  | code : EscapedAs c ('\\' :: 'u' :: '\x7b' :: (hexadecimal c.toNat ++ ['\x7d']))
  /-- As itself. -/
  | plain (notQuote : c ≠ '"') (notMark : c ≠ '\\') (visible : isHidden c = false) :
      EscapedAs c [c]

theorem escapedAs_escaped (c : Char) : EscapedAs c (escaped c) := by
  rw [escaped.eq_def]
  split
  · exact .letter rfl
  · exact .letter rfl
  · exact .letter rfl
  · exact .letter rfl
  · exact .letter rfl
  · exact .letter rfl
  · next notQuote notMark _ _ _ _ =>
      split
      · exact .code
      · next visible =>
          rw [Bool.or_eq_true, not_or, Bool.not_eq_true, Bool.not_eq_true] at visible
          exact .plain notQuote notMark visible.2

namespace EscapedAs

variable {c d : Char} {written other rest more : Text}

/-- What is written for a character does not begin like the closing quote. -/
theorem ne_quote (escaped : EscapedAs c written) : written ++ rest ≠ '"' :: more := by
  intro same
  cases escaped with
  | letter => cases same
  | code => cases same
  | plain notQuote => exact notQuote (List.cons.inj same).1

/-- Digits up to the closing brace are of one number. -/
theorem code_inj {n m : Nat}
    (same : hexadecimal n ++ '\x7d' :: rest = hexadecimal m ++ '\x7d' :: more) :
    n = m ∧ rest = more := by
  have noBrace (n : Nat) : ∀ c ∈ hexadecimal n, (c != '\x7d') = true := by
    intro c member
    have digits : ("0123456789abcdef".toList.all fun c => c != '\x7d') = true := by decide
    exact List.all_eq_true.1 digits c (mem_digits_of_mem_hexadecimal member)
  have stops (s : Text) : ∀ c, ('\x7d' :: s).head? = some c → (c != '\x7d') = false := by
    simp
  obtain ⟨digits, behind⟩ := append_inj_of_class (noBrace n) (noBrace m) (stops _) (stops _) same
  exact ⟨hexadecimal_injective digits, (List.cons.inj behind).2⟩

/-- Where one character is written, no other one is, and it ends at one place. -/
theorem unique (one : EscapedAs c written) (two : EscapedAs d other)
    (same : written ++ rest = other ++ more) : c = d ∧ rest = more := by
  cases one with
  | @letter l stands =>
      cases two with
      | letter standsOther =>
          obtain ⟨rfl, rfl⟩ : l = _ ∧ rest = more := by simpa using same
          exact ⟨Option.some.inj (stands.symm.trans standsOther), rfl⟩
      | code =>
          obtain ⟨rfl, -⟩ : l = 'u' ∧ _ := by simpa using same
          cases stands
      | plain _ notMark => exact absurd (List.cons.inj same).1.symm notMark
  | code =>
      cases two with
      | @letter l stands =>
          obtain ⟨rfl, -⟩ : 'u' = l ∧ _ := by simpa using same
          cases stands
      | code =>
          have digits : hexadecimal c.toNat ++ '\x7d' :: rest =
              hexadecimal d.toNat ++ '\x7d' :: more := by
            simpa using same
          obtain ⟨codePoint, rfl⟩ := code_inj digits
          exact ⟨Char.toNat_inj.1 codePoint, rfl⟩
      | plain _ notMark => exact absurd (List.cons.inj same).1.symm notMark
  | plain _ notMark =>
      cases two with
      | letter => exact absurd (List.cons.inj same).1 notMark
      | code => exact absurd (List.cons.inj same).1 notMark
      | plain => exact List.cons.inj same

end EscapedAs

/-! ### Quoted texts -/

theorem flatMap_escaped_inj {s t rest more : Text}
    (same : s.flatMap escaped ++ '"' :: rest = t.flatMap escaped ++ '"' :: more) :
    s = t ∧ rest = more := by
  induction s generalizing t with
  | nil =>
      cases t with
      | nil => exact ⟨rfl, (List.cons.inj same).2⟩
      | cons d t =>
          rw [List.flatMap_cons, List.append_assoc] at same
          exact absurd same.symm (escapedAs_escaped d).ne_quote
  | cons c s ih =>
      rw [List.flatMap_cons, List.append_assoc] at same
      cases t with
      | nil => exact absurd same (escapedAs_escaped c).ne_quote
      | cons d t =>
          rw [List.flatMap_cons, List.append_assoc] at same
          obtain ⟨rfl, behind⟩ := (escapedAs_escaped c).unique (escapedAs_escaped d) same
          obtain ⟨rfl, rest⟩ := ih behind
          exact ⟨rfl, rest⟩

/-- A quoted text is of one text and ends at one place, whatever follows. -/
theorem quoted_append_inj {s t rest more : Text} (same : quoted s ++ rest = quoted t ++ more) :
    s = t ∧ rest = more := by
  apply flatMap_escaped_inj
  simpa [quoted] using same

/-! ### Control characters -/

/-- A text without control characters of the ASCII block, so that it stands on one line. -/
def IsOneLine (s : Text) : Prop := ∀ c ∈ s, 0x20 ≤ c.toNat ∧ c.toNat ≠ 0x7f

instance (s : Text) : Decidable (IsOneLine s) :=
  decidable_of_iff ((s.all fun c => 0x20 ≤ c.toNat && c.toNat != 0x7f) = true)
    (by simp [IsOneLine])

@[simp] theorem isOneLine_nil : IsOneLine [] := by simp [IsOneLine]

@[simp] theorem isOneLine_cons {c : Char} {s : Text} :
    IsOneLine (c :: s) ↔ (0x20 ≤ c.toNat ∧ c.toNat ≠ 0x7f) ∧ IsOneLine s := by
  simp [IsOneLine]

@[simp] theorem isOneLine_append {s t : Text} : IsOneLine (s ++ t) ↔ IsOneLine s ∧ IsOneLine t :=
  List.forall_mem_append

theorem isOneLine_hexadecimal (n : Nat) : IsOneLine (hexadecimal n) := by
  have digits : IsOneLine "0123456789abcdef".toList := by decide
  intro c member
  exact digits c (mem_digits_of_mem_hexadecimal member)

theorem EscapedAs.isOneLine {c : Char} {written : Text} (escaped : EscapedAs c written) :
    IsOneLine written := by
  cases escaped with
  | @letter l stands =>
      have letters : IsOneLine [l] := by
        unfold shortEscape? at stands
        split at stands
        case h_7 => cases stands
        all_goals decide
      simpa using letters
  | code => simp [isOneLine_hexadecimal]
  | plain _ _ visible =>
      rw [isOneLine_cons]
      refine ⟨?_, isOneLine_nil⟩
      by_cases ascii : c.toNat < 0x80
      · have control := isHidden_iff_of_ascii ascii
        rw [visible] at control
        simp only [Bool.false_eq_true, false_iff, not_or] at control
        omega
      · omega

theorem isOneLine_quoted (s : Text) : IsOneLine (quoted s) := by
  have inner : IsOneLine (s.flatMap escaped) := by
    intro c member
    obtain ⟨d, -, inside⟩ := List.mem_flatMap.1 member
    exact (escapedAs_escaped d).isOneLine c inside
  simp [quoted, inner]

end NodeGauge.Text
