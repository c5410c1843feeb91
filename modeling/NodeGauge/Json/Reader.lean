/-
Module: NodeGauge.Json.Reader
Purpose: Readers of single JSON values.  A reader takes a value of the type it wants off the front
  of a text, and says what stands there instead if it cannot.
Main exports: Json.readWord, Json.instead, Json.readText, Json.readNatural, Json.readBoolean,
  Json.nextItem, Json.readList, Json.readBooleans, Json.readWhole
-/
import NodeGauge.Json.Numeral
import NodeGauge.Json.Skip

namespace NodeGauge.Json

/-- A text without the blanks before its next token. -/
def skipBlank (s : Text) : Text := s.dropWhile isBlank

/-- A text that starts with its next token has no blanks to skip. -/
theorem skipBlank_cons {c : Char} (shown : isBlank c = false) (s : Text) :
    skipBlank (c :: s) = c :: s :=
  List.dropWhile_cons_of_neg (by simp [shown])

/-- Take the letters of a word off the front of a text. -/
def readWord : Text → Text → Except Fault Text
  | [], s => .ok s
  | _ :: _, [] => .error .truncated
  | letter :: letters, c :: s => if c = letter then readWord letters s else .error .malformed

/-- The fault of finding something else than what is wanted at the front of a text.  What stands
there is read first, and a fault in it counts before its type. -/
def instead (wanted : Wanted) (s : Text) : Fault :=
  let misfit (found : Found) : Fault := .misfit (.wrongType found wanted)
  let word (letters : Text) (found : Found) (s : Text) : Fault :=
    match readWord letters s with
    | .ok _ => misfit found
    | .error fault => fault
  let number (negative : Bool) (s : Text) : Fault :=
    match readNumber negative s with
    | .ok (n, _) => misfit (.number n)
    | .error fault => fault
  match s with
  | [] => .truncated
  | 'n' :: s => word ['u', 'l', 'l'] .null s
  | 't' :: s => word ['r', 'u', 'e'] (.boolean true) s
  | 'f' :: s => word ['a', 'l', 's', 'e'] (.boolean false) s
  | '"' :: s =>
      match readString s with
      | .ok (text, _) => misfit (.string text)
      | .error fault => fault
  | '[' :: _ => misfit .sequence
  | '\x7b' :: _ => misfit .map
  | '-' :: s => number true s
  | c :: rest => if Numeral.isDigit c then number false (c :: rest) else .malformed

/-- Read a string. -/
def readText (s : Text) : Except Fault (Text × Text) :=
  match skipBlank s with
  | '"' :: s => readString s
  | s => .error (instead .string s)

/-- What a number gives where a natural number is wanted. -/
def Number.natural? : Number → Except Misfit UInt64
  | natural n => .ok n
  | negative m => .error (.wrongValue (.number (.negative m)) .natural)
  | float x => .error (.wrongType (.number (.float x)) .natural)

/-- Read a natural number behind its sign. -/
def readNaturalFrom (negative : Bool) (s : Text) : Except Fault (UInt64 × Text) :=
  match readNumber negative s with
  | .error fault => .error fault
  | .ok (n, rest) =>
      match n.natural? with
      | .ok n => .ok (n, rest)
      | .error misfit => .error (.misfit misfit)

/-- Read a natural number. -/
def readNatural (s : Text) : Except Fault (UInt64 × Text) :=
  match skipBlank s with
  | [] => .error (instead .natural [])
  | c :: rest =>
      if c = '-' then readNaturalFrom true rest
      else if Numeral.isDigit c then readNaturalFrom false (c :: rest)
      else .error (instead .natural (c :: rest))

/-- Read a truth value. -/
def readBoolean (s : Text) : Except Fault (Bool × Text) :=
  match skipBlank s with
  | 't' :: s => (readWord ['r', 'u', 'e'] s).map fun rest => (true, rest)
  | 'f' :: s => (readWord ['a', 'l', 's', 'e'] s).map fun rest => (false, rest)
  | s => .error (instead .boolean s)

/-- Read a text that holds one value, and nothing but blanks behind it. -/
def readWhole {α : Type} (reader : Text → Except Fault (α × Text)) (s : Text) : Except Fault α :=
  match reader s with
  | .error fault => .error fault
  | .ok (v, rest) => if (skipBlank rest).isEmpty then .ok v else .error .malformed

/-- Go to the next item of an array, or behind its end.  A comma stands before every item but the
first, and an item behind every comma. -/
inductive Next where
  | item (s : Text)
  | finished (rest : Text)

/-- Find the next item of an array. -/
def nextItem (first : Bool) (s : Text) : Except Fault Next :=
  match skipBlank s with
  | [] => .error .truncated
  | c :: s =>
      if c = ']' then .ok (.finished s)
      else if first then .ok (.item (c :: s))
      else if c = ',' then
        match skipBlank s with
        | [] => .error .truncated
        | c :: s => if c = ']' then .error .malformed else .ok (.item (c :: s))
      else .error .malformed

/-- Dropping blanks gives nothing back. -/
theorem length_skipBlank_le (s : Text) : (skipBlank s).length ≤ s.length :=
  (List.dropWhile_sublist (p := isBlank) (l := s)).length_le

/-- Reading a word gives nothing back. -/
theorem length_of_readWord {letters s rest : Text} (h : readWord letters s = .ok rest) :
    rest.length ≤ s.length := by
  induction letters generalizing s with
  | nil => cases h; exact Nat.le_refl _
  | cons letter letters ih =>
      cases s with
      | nil => cases h
      | cons c s =>
          simp only [readWord] at h
          split at h
          · exact Nat.le_succ_of_le (ih h)
          · cases h

/-- Reading a string gives nothing back. -/
theorem length_of_readStringFrom {done s text rest : Text}
    (h : readStringFrom done s = .ok (text, rest)) : rest.length ≤ s.length := by
  fun_induction readStringFrom done s with
  | case1 => cases h
  | case2 => cases h; simp
  | case3 => cases h
  | case4 done escape c after _ shorter ih => have := ih h; simp; omega
  | case5 => cases h
  | case6 done c s _ _ _ ih => have := ih h; simp; omega

/-- Reading a truth value takes it away. -/
theorem length_of_readBoolean {s rest : Text} {b : Bool} (h : readBoolean s = .ok (b, rest)) :
    rest.length < s.length := by
  have blank := length_skipBlank_le s
  have word {letters s : Text} {b c : Bool}
      (h : (readWord letters s).map (fun rest => (c, rest)) = .ok (b, rest)) :
      rest.length ≤ s.length := by
    cases read : readWord letters s with
    | error fault => simp [read, Except.map] at h
    | ok r =>
        simp only [read, Except.map, Except.ok.injEq, Prod.mk.injEq] at h
        rw [← h.2]; exact length_of_readWord read
  unfold readBoolean at h
  split at h
  · next front => have := word h; rw [front] at blank; simp at blank; omega
  · next front => have := word h; rw [front] at blank; simp at blank; omega
  · cases h

/-- Finding the next item gives nothing back. -/
theorem length_of_nextItem {first : Bool} {s item : Text}
    (h : nextItem first s = .ok (.item item)) : item.length ≤ s.length := by
  have blank := length_skipBlank_le s
  unfold nextItem at h
  split at h
  · cases h
  · next c s front =>
      rw [front] at blank
      split at h
      · cases h
      · split at h
        · cases h; exact blank
        · split at h
          · have inner := length_skipBlank_le s
            split at h
            · cases h
            · next d s front =>
                rw [front] at inner
                split at h
                · cases h
                · cases h; simp at blank inner ⊢; omega
          · cases h

/-- Finding the end of an array gives nothing back. -/
theorem length_of_nextItem_finished {first : Bool} {s rest : Text}
    (h : nextItem first s = .ok (.finished rest)) : rest.length ≤ s.length := by
  have blank := length_skipBlank_le s
  unfold nextItem at h
  split at h
  · cases h
  · next c s front =>
      rw [front] at blank
      split at h
      · cases h; simp at blank; omega
      · split at h
        · cases h
        · split at h
          · split at h
            · cases h
            · split at h <;> cases h
          · cases h

section list

variable {α : Type} (readItem : Text → Except Fault (α × Text))
  (shorter : ∀ {s rest v}, readItem s = .ok (v, rest) → rest.length < s.length)

/-- Read the items of an array up to its end; `done` holds what has been read, last first.  Reading
an item must take something away. -/
def readListFrom (first : Bool) (done : List α) (s : Text) : Except Fault (List α × Text) :=
  match found : nextItem first s with
  | .error fault => .error fault
  | .ok (.finished rest) => .ok (done.reverse, rest)
  | .ok (.item item) =>
      match read : readItem item with
      | .error fault => .error fault
      | .ok (v, rest) =>
          have : rest.length < s.length :=
            Nat.lt_of_lt_of_le (shorter read) (length_of_nextItem found)
          readListFrom false (v :: done) rest
termination_by s.length

/-- Read an array. -/
def readList (s : Text) : Except Fault (List α × Text) :=
  match skipBlank s with
  | '[' :: s => readListFrom readItem shorter true [] s
  | s => .error (instead .sequence s)

end list

/-- Read an array of truth values. -/
def readBooleans : Text → Except Fault (List Bool × Text) :=
  readList readBoolean length_of_readBoolean

/-- Reading a string takes its quotes away. -/
theorem length_of_readText {s text rest : Text} (h : readText s = .ok (text, rest)) :
    rest.length ≤ s.length := by
  have blank := length_skipBlank_le s
  unfold readText at h
  split at h
  · next front =>
      have := length_of_readStringFrom h
      rw [front] at blank; simp at blank; omega
  · cases h

/-- Reading a natural number behind its sign gives nothing back. -/
theorem length_of_readNaturalFrom {negative : Bool} {s rest : Text} {n : UInt64}
    (h : readNaturalFrom negative s = .ok (n, rest)) : rest.length ≤ s.length := by
  unfold readNaturalFrom at h
  split at h
  · cases h
  · next read =>
      split at h
      · cases h; exact Nat.le_of_lt (length_of_readNumber read)
      · cases h

/-- Reading a natural number gives nothing back. -/
theorem length_of_readNatural {s rest : Text} {n : UInt64} (h : readNatural s = .ok (n, rest)) :
    rest.length ≤ s.length := by
  have blank := length_skipBlank_le s
  unfold readNatural at h
  split at h
  · cases h
  · next front =>
      rw [front] at blank
      split at h
      · have := length_of_readNaturalFrom h; simp at blank; omega
      · split at h
        · exact Nat.le_trans (length_of_readNaturalFrom h) blank
        · cases h

/-- Reading items up to the end of their array gives nothing back. -/
theorem length_of_readListFrom {α : Type} {readItem : Text → Except Fault (α × Text)}
    (shorter : ∀ {s rest v}, readItem s = .ok (v, rest) → rest.length < s.length) {first : Bool}
    {done items : List α} {s rest : Text}
    (h : readListFrom readItem shorter first done s = .ok (items, rest)) :
    rest.length ≤ s.length := by
  fun_induction readListFrom readItem shorter first done s with
  | case1 => cases h
  | case2 first done s rest found => cases h; exact length_of_nextItem_finished found
  | case3 => cases h
  | case4 first done s item found v after read shorter ih => have := ih h; omega

/-- Reading an array gives nothing back. -/
theorem length_of_readList {α : Type} {readItem : Text → Except Fault (α × Text)}
    (shorter : ∀ {s rest v}, readItem s = .ok (v, rest) → rest.length < s.length)
    {items : List α} {s rest : Text} (h : readList readItem shorter s = .ok (items, rest)) :
    rest.length ≤ s.length := by
  have blank := length_skipBlank_le s
  unfold readList at h
  split at h
  · next front =>
      have := length_of_readListFrom shorter h
      rw [front] at blank; simp at blank; omega
  · cases h

end NodeGauge.Json
