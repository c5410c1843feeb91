/-
Module: NodeGauge.Proofs.Json.Quote
Purpose: A JSON string is read as the text that it spells, however its characters are spelled and
  whatever follows, and what is written for a text is a string that spells it.
Main exports: Json.readStringFrom_spells, Json.IsString.exists_body, Json.spells_escaped,
  Json.isString_quote
-/
import NodeGauge.Json.Reader
import NodeGauge.Proofs.Json.Grammar

namespace NodeGauge.Json

/-! ### Escapes -/

theorem IsHexDigit.value {c : Char} {n : Nat} (digit : IsHexDigit c n) :
    Numeral.hexValue? c = some n := by
  have small : n < 16 := by
    rcases digit with digit | digit
    all_goals exact (List.getElem?_eq_some_iff.1 digit).1
  have lower : ∀ i : Fin 16, Numeral.hexValue? ("0123456789abcdef".toList[i]) = some i.val := by
    decide
  have upper : ∀ i : Fin 16, Numeral.hexValue? ("0123456789ABCDEF".toList[i]) = some i.val := by
    decide
  rcases digit with digit | digit
  · obtain ⟨_, rfl⟩ := List.getElem?_eq_some_iff.1 digit
    exact lower ⟨n, small⟩
  · obtain ⟨_, rfl⟩ := List.getElem?_eq_some_iff.1 digit
    exact upper ⟨n, small⟩

/-- An escape stands for one character of the string. -/
theorem readStringFrom_escape {done s rest : Text} {c : Char}
    (read : readEscape s = .ok (c, rest)) :
    readStringFrom done ('\\' :: s) = readStringFrom (c :: done) rest := by
  rw [readStringFrom]
  split
  · next refused =>
      rw [read] at refused
      cases refused
  · next other =>
      rw [read] at other
      cases other
      rfl

theorem readUnit_unit {digits : Text} {n : Nat} (unit : IsCodeUnit digits n) (rest : Text) :
    readUnit (digits ++ rest) = .ok (n, rest) := by
  cases unit with
  | @digits a b c d i j k l first second third fourth =>
      have value : unitValue? a b c d = some (0x1000 * i + 0x100 * j + 0x10 * k + l) := by
        simp only [unitValue?, first.value, second.value, third.value, fourth.value]
        exact congrArg some (by omega)
      simp only [List.cons_append, List.nil_append, readUnit, value]

theorem readEscape_unit {digits : Text} {c : Char} (unit : IsCodeUnit digits c.toNat)
    (rest : Text) : readEscape ('u' :: (digits ++ rest)) = .ok (c, rest) := by
  -- No character has the code point of a surrogate.
  have noSurrogate : c.toNat < 0xd800 ∨ 0xdfff < c.toNat := by
    rcases c.valid with small | ⟨great, _⟩
    · exact .inl small
    · exact .inr great
  have noHigh : ¬ (0xd800 ≤ c.toNat && c.toNat ≤ 0xdbff) = true := by
    simp
    omega
  have noLow : ¬ (0xdc00 ≤ c.toNat && c.toNat ≤ 0xdfff) = true := by
    simp
    omega
  simp only [readEscape, readUnit_unit unit, if_neg noHigh, if_neg noLow, Char.ofNat_toNat]

theorem readEscape_pair {high low : Text} {c : Char} {i j : Nat}
    (first : IsCodeUnit high (0xd800 + i)) (second : IsCodeUnit low (0xdc00 + j))
    (small : i < 0x400 ∧ j < 0x400) (value : c.toNat = 0x10000 + (0x400 * i + j)) (rest : Text) :
    readEscape ('u' :: (high ++ '\\' :: 'u' :: (low ++ rest))) = .ok (c, rest) := by
  have isHigh : (0xd800 ≤ 0xd800 + i && 0xd800 + i ≤ 0xdbff) = true := by
    simp
    omega
  have isLow : (0xdc00 ≤ 0xdc00 + j && 0xdc00 + j ≤ 0xdfff) = true := by
    simp
    omega
  have point : 0x10000 + (0xd800 + i - 0xd800) * 0x400 + (0xdc00 + j - 0xdc00) = c.toNat := by
    omega
  simp only [readEscape, readUnit_unit first, if_pos isHigh, readLowSurrogate,
    readUnit_unit second, if_pos isLow, point, Char.ofNat_toNat]

theorem readEscape_letter {letter c : Char} (escape : (letter, c) ∈ letterEscapes) (rest : Text) :
    readEscape (letter :: rest) = .ok (c, rest) := by
  simp only [letterEscapes, List.mem_cons, Prod.mk.injEq, List.not_mem_nil, or_false] at escape
  rcases escape with ⟨rfl, rfl⟩ | ⟨rfl, rfl⟩ | ⟨rfl, rfl⟩ | ⟨rfl, rfl⟩ | ⟨rfl, rfl⟩ | ⟨rfl, rfl⟩ |
    ⟨rfl, rfl⟩ | ⟨rfl, rfl⟩
  all_goals rfl

/-! ### Strings -/

theorem readStringFrom_plain {done : Text} {c : Char} (notQuote : c ≠ '"') (notMark : c ≠ '\\')
    (shown : 0x20 ≤ c.toNat) (rest : Text) :
    readStringFrom done (c :: rest) = readStringFrom (c :: done) rest := by
  rw [readStringFrom]
  · exact if_neg (Nat.not_lt.2 shown)
  · exact notQuote
  · exact notMark

/-- What spells a character is read as that character. -/
theorem readStringFrom_spells (done : Text) {piece : Text} {c : Char} (spells : Spells piece c)
    (rest : Text) : readStringFrom done (piece ++ rest) = readStringFrom (c :: done) rest := by
  cases spells with
  | plain noQuote noMark noControl => exact readStringFrom_plain noQuote noMark noControl rest
  | letter escape => exact readStringFrom_escape (readEscape_letter escape rest)
  | unit unit => exact readStringFrom_escape (readEscape_unit unit rest)
  | pair first second small value =>
      simp only [List.append_assoc, List.cons_append]
      exact readStringFrom_escape (readEscape_pair first second small value rest)

theorem readStringFrom_pieces (done : Text) {pieces : List Text} {text : Text}
    (spells : List.Forall₂ Spells pieces text) (rest : Text) :
    readStringFrom done (pieces.flatten ++ '"' :: rest) = .ok (done.reverse ++ text, rest) := by
  induction spells generalizing done with
  | nil => simp [readStringFrom]
  | cons first _ ih =>
      rw [List.flatten_cons, List.append_assoc, readStringFrom_spells done first, ih]
      simp

/-- Behind its opening quote a string is read as the text that it spells. -/
theorem IsString.exists_body {s text : Text} (string : IsString s text) :
    ∃ body, s = '"' :: body ∧ ∀ rest, readString (body ++ rest) = .ok (text, rest) := by
  obtain ⟨pieces, spells, rfl⟩ := string
  refine ⟨pieces.flatten ++ ['"'], rfl, fun rest => ?_⟩
  rw [List.append_assoc]
  exact readStringFrom_pieces [] spells rest

/-! ### What is written -/

theorem isHexDigit_hexDigit {n : Nat} (small : n < 16) : IsHexDigit (hexDigit n) n := by
  have all : ∀ n : Fin 16, "0123456789abcdef".toList[n.val]? = some (hexDigit n) := by decide
  exact .inl (all ⟨n, small⟩)

/-- What is written for a character spells that character. -/
theorem spells_escaped (c : Char) : Spells (escaped c) c := by
  have zero : IsHexDigit '0' 0 := .inl rfl
  rw [escaped.eq_def]
  split
  · exact .letter (by decide)
  · exact .letter (by decide)
  · exact .letter (by decide)
  · exact .letter (by decide)
  · exact .letter (by decide)
  · exact .letter (by decide)
  · exact .letter (by decide)
  · next noQuote noMark _ _ _ _ _ =>
      split
      · next control =>
          have point : 0x1000 * 0 + 0x100 * 0 + 0x10 * (c.toNat / 16) + c.toNat % 16 =
              c.toNat := by
            omega
          have third := isHexDigit_hexDigit (n := c.toNat / 16) (by omega)
          have fourth := isHexDigit_hexDigit (n := c.toNat % 16) (by omega)
          have unit := IsCodeUnit.digits zero zero third fourth
          rw [point] at unit
          exact .unit unit
      · next shown => exact .plain noQuote noMark (Nat.not_lt.1 shown)

/-- What is written for a text is a string that spells the text. -/
theorem isString_quote (s : Text) : IsString (quote s) s := by
  refine ⟨s.map escaped, ?_, by rw [quote, List.flatMap]⟩
  rw [List.forall₂_map_left_iff, List.forall₂_same]
  exact fun c _ => spells_escaped c

end NodeGauge.Json
