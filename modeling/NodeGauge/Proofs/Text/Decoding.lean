/-
Module: NodeGauge.Proofs.Text.Decoding
Purpose: What octets are decoded as, told by the octets of characters and not by the decoder: those
  of a character are that character, and what cannot become one is a replacement, up to the octet
  that rules it out.
Main exports: Octets.Begins, Octets.IsBroken, Octets.Decodes, Octets.begins_cons_iff,
  Octets.decodes_iff
-/
import NodeGauge.Proofs.Text.Utf8

namespace NodeGauge.Octets

/-- Octets with which those of some character begin. -/
def Begins (octets : Octets) : Prop := ∃ c, octets <+: String.utf8EncodeChar c

/-- Octets that are no character, in front of the rest. -/
inductive IsBroken : Octets → Octets → Prop where
  /-- An octet with which no character begins. -/
  | stray {b : UInt8} {rest : Octets} (alone : ¬Begins [b]) : IsBroken [b] rest
  /-- The beginning of a character and not all of it, as far as it goes. -/
  | cut {run rest : Octets} (full : run ≠ []) (begins : Begins run)
      (short : ∀ c, run ≠ String.utf8EncodeChar c)
      (stops : ∀ b, rest.head? = some b → ¬Begins (run ++ [b])) : IsBroken run rest

/-- A text is what octets are decoded as: each character stands for its octets, and a replacement
for each run of octets that are none. -/
inductive Decodes : Octets → Text → Prop where
  | nil : Decodes [] []
  | char (c : Char) {rest : Octets} {text : Text} (behind : Decodes rest text) :
      Decodes (String.utf8EncodeChar c ++ rest) (c :: text)
  | broken {run rest : Octets} {text : Text} (isBroken : IsBroken run rest)
      (behind : Decodes rest text) : Decodes (run ++ rest) ('\ufffd' :: text)

/-! ### The octets of a character -/

/-- The number of a character that is made by its number. -/
theorem toNat_ofNat_of_valid {n : Nat} (valid : n.isValidChar) : (Char.ofNat n).val.toNat = n := by
  have value : Char.ofNat n = Char.ofNatAux n valid := dif_pos valid
  rw [value]
  rfl

theorem ofNat_eq_of_toNat {n : Nat} {b : UInt8} (same : n = b.toNat) : UInt8.ofNat n = b := by
  rw [same, UInt8.ofNat_toNat]

theorem tail_bounds {b : UInt8} (admitted : Window.tail.admits b) :
    0x80 ≤ b.toNat ∧ b.toNat ≤ 0xbf :=
  admits_iff.1 admitted

/-- An octet of the ASCII block is that of a character. -/
theorem exists_encodeChar_one {lead : UInt8} (small : lead.toNat < 0x80) :
    ∃ c, String.utf8EncodeChar c = [lead] := by
  have number : (Char.ofNat lead.toNat).val.toNat = lead.toNat :=
    toNat_ofNat_of_valid (by left; omega)
  refine ⟨Char.ofNat lead.toNat, ?_⟩
  simp only [String.utf8EncodeChar, number]
  rw [if_pos (by omega), ofNat_eq_of_toNat rfl]

/-- Two octets of these forms are those of a character. -/
theorem exists_encodeChar_two {lead b : UInt8} (least : 0xc2 ≤ lead.toNat)
    (greatest : lead.toNat < 0xe0) (tail : Window.tail.admits b) :
    ∃ c, String.utf8EncodeChar c = [lead, b] := by
  have ⟨bLeast, bGreatest⟩ := tail_bounds tail
  let n := lead.toNat % 0x20 * 0x40 + b.toNat % 0x40
  have number : (Char.ofNat n).val.toNat = n := toNat_ofNat_of_valid (by left; omega)
  refine ⟨Char.ofNat n, ?_⟩
  simp only [String.utf8EncodeChar, number]
  rw [if_neg (by omega), if_pos (by omega)]
  have first : UInt8.ofNat (n / 64 % 32 + 192) = lead := ofNat_eq_of_toNat (by omega)
  have second : UInt8.ofNat (n % 64 + 128) = b := ofNat_eq_of_toNat (by omega)
  rw [first, second]

/-- Three octets of these forms are those of a character. -/
theorem exists_encodeChar_three {lead b d : UInt8} (least : 0xe0 ≤ lead.toNat)
    (greatest : lead.toNat < 0xf0) (tail : Window.tail.admits b)
    (needed : lead.toNat = 0xe0 → 0xa0 ≤ b.toNat)
    (noSurrogate : lead.toNat = 0xed → b.toNat ≤ 0x9f) (last : Window.tail.admits d) :
    ∃ c, String.utf8EncodeChar c = [lead, b, d] := by
  have ⟨bLeast, bGreatest⟩ := tail_bounds tail
  have ⟨dLeast, dGreatest⟩ := tail_bounds last
  let n := (lead.toNat % 0x10 * 0x40 + b.toNat % 0x40) * 0x40 + d.toNat % 0x40
  have valid : n.isValidChar := by
    unfold Nat.isValidChar
    omega
  have number : (Char.ofNat n).val.toNat = n := toNat_ofNat_of_valid valid
  refine ⟨Char.ofNat n, ?_⟩
  simp only [String.utf8EncodeChar, number]
  rw [if_neg (by omega), if_neg (by omega), if_pos (by omega)]
  have first : UInt8.ofNat (n / 4096 % 16 + 224) = lead := ofNat_eq_of_toNat (by omega)
  have second : UInt8.ofNat (n / 64 % 64 + 128) = b := ofNat_eq_of_toNat (by omega)
  have third : UInt8.ofNat (n % 64 + 128) = d := ofNat_eq_of_toNat (by omega)
  rw [first, second, third]

/-- Four octets of these forms are those of a character. -/
theorem exists_encodeChar_four {lead b d e : UInt8} (least : 0xf0 ≤ lead.toNat)
    (greatest : lead.toNat ≤ 0xf4) (tail : Window.tail.admits b)
    (needed : lead.toNat = 0xf0 → 0x90 ≤ b.toNat)
    (notBeyond : lead.toNat = 0xf4 → b.toNat ≤ 0x8f) (third : Window.tail.admits d)
    (last : Window.tail.admits e) :
    ∃ c, String.utf8EncodeChar c = [lead, b, d, e] := by
  have ⟨bLeast, bGreatest⟩ := tail_bounds tail
  have ⟨dLeast, dGreatest⟩ := tail_bounds third
  have ⟨eLeast, eGreatest⟩ := tail_bounds last
  let n := ((lead.toNat % 0x08 * 0x40 + b.toNat % 0x40) * 0x40 + d.toNat % 0x40) * 0x40 +
    e.toNat % 0x40
  have valid : n.isValidChar := by
    unfold Nat.isValidChar
    omega
  have number : (Char.ofNat n).val.toNat = n := toNat_ofNat_of_valid valid
  refine ⟨Char.ofNat n, ?_⟩
  simp only [String.utf8EncodeChar, number]
  rw [if_neg (by omega), if_neg (by omega), if_neg (by omega)]
  have first : UInt8.ofNat (n / 262144 % 8 + 240) = lead := ofNat_eq_of_toNat (by omega)
  have second : UInt8.ofNat (n / 4096 % 64 + 128) = b := ofNat_eq_of_toNat (by omega)
  have third : UInt8.ofNat (n / 64 % 64 + 128) = d := ofNat_eq_of_toNat (by omega)
  have fourth : UInt8.ofNat (n % 64 + 128) = e := ofNat_eq_of_toNat (by omega)
  rw [first, second, third, fourth]

/-- The lead octets by the number of octets behind them, with what the first window excludes. -/
theorem windowsAfter_eq_some {lead : UInt8} {ws : List Window}
    (windows : windowsAfter lead = some ws) :
    (lead.toNat < 0x80 ∧ ws = []) ∨
    ((0xc2 ≤ lead.toNat ∧ lead.toNat < 0xe0) ∧ ws = [.tail]) ∨
    ((0xe0 ≤ lead.toNat ∧ lead.toNat < 0xf0) ∧ ∃ w, ws = [w, .tail] ∧
      ∀ b, w.admits b → Window.tail.admits b ∧ (lead.toNat = 0xe0 → 0xa0 ≤ b.toNat) ∧
        (lead.toNat = 0xed → b.toNat ≤ 0x9f)) ∨
    ((0xf0 ≤ lead.toNat ∧ lead.toNat ≤ 0xf4) ∧ ∃ w, ws = [w, .tail, .tail] ∧
      ∀ b, w.admits b → Window.tail.admits b ∧ (lead.toNat = 0xf0 → 0x90 ≤ b.toNat) ∧
        (lead.toNat = 0xf4 → b.toNat ≤ 0x8f)) := by
  unfold windowsAfter at windows
  simp only [UInt8.lt_iff_toNat_lt, ← UInt8.toNat_inj, UInt8.reduceToNat] at windows
  simp only [admits_iff, Window.tail, UInt8.reduceToNat]
  repeat' split at windows
  all_goals cases windows
  · exact Or.inl ⟨by omega, rfl⟩
  · exact Or.inr (Or.inl ⟨by omega, rfl⟩)
  · refine Or.inr (Or.inr (Or.inl ⟨by omega, _, rfl, fun b => ?_⟩))
    simp only [UInt8.reduceToNat]
    omega
  · refine Or.inr (Or.inr (Or.inl ⟨by omega, _, rfl, fun b => ?_⟩))
    simp only [UInt8.reduceToNat]
    omega
  · refine Or.inr (Or.inr (Or.inl ⟨by omega, _, rfl, fun b => ?_⟩))
    simp only [Window.tail, UInt8.reduceToNat]
    omega
  · refine Or.inr (Or.inr (Or.inr ⟨by omega, _, rfl, fun b => ?_⟩))
    simp only [UInt8.reduceToNat]
    omega
  · refine Or.inr (Or.inr (Or.inr ⟨by omega, _, rfl, fun b => ?_⟩))
    simp only [Window.tail, UInt8.reduceToNat]
    omega
  · refine Or.inr (Or.inr (Or.inr ⟨by omega, _, rfl, fun b => ?_⟩))
    simp only [UInt8.reduceToNat]
    omega

/-- A lead octet and what its windows admit are the octets of a character. -/
theorem exists_encodeChar {lead : UInt8} {ws : List Window} {tail : Octets}
    (windows : windowsAfter lead = some ws) (admitted : Admitted ws tail) :
    ∃ c, String.utf8EncodeChar c = lead :: tail := by
  obtain ⟨small, rfl⟩ | ⟨range, rfl⟩ | ⟨range, w, rfl, second⟩ | ⟨range, w, rfl, second⟩ :=
    windowsAfter_eq_some windows
  · cases admitted
    exact exists_encodeChar_one small
  · obtain _ | ⟨first, _ | _⟩ := admitted
    exact exists_encodeChar_two range.1 range.2 first
  · obtain _ | ⟨first, _ | ⟨last, _ | _⟩⟩ := admitted
    obtain ⟨isTail, needed, noSurrogate⟩ := second _ first
    exact exists_encodeChar_three range.1 range.2 isTail needed noSurrogate last
  · obtain _ | ⟨first, _ | ⟨third, _ | ⟨last, _ | _⟩⟩⟩ := admitted
    obtain ⟨isTail, needed, notBeyond⟩ := second _ first
    exact exists_encodeChar_four range.1 range.2 isTail needed notBeyond third last

/-- Octets that are admitted behind a lead octet are those of one character only in full. -/
theorem admitted_of_encodeChar_eq {c : Char} {lead : UInt8} {tail : Octets}
    (octets : String.utf8EncodeChar c = lead :: tail) :
    ∃ ws, windowsAfter lead = some ws ∧ Admitted ws tail := by
  obtain ⟨first, behind, ws, written, windows, admitted, -⟩ := admitted_encodeChar c
  obtain ⟨rfl, rfl⟩ := List.cons.inj (written.symm.trans octets)
  exact ⟨ws, windows, admitted⟩

/-! ### The beginnings of characters -/

/-- A window behind a lead octet admits its own least octet. -/
theorem admits_least_of_windowsAfter {lead : UInt8} {ws : List Window}
    (windows : windowsAfter lead = some ws) : ∀ w ∈ ws, w.admits w.least = true := by
  unfold windowsAfter at windows
  repeat' split at windows
  all_goals cases windows
  all_goals decide

/-- A character begins with a lead octet and what its first windows admit. -/
theorem begins_cons_iff {lead : UInt8} {octets : Octets} :
    Begins (lead :: octets) ↔
      ∃ front back, windowsAfter lead = some (front ++ back) ∧ Admitted front octets := by
  constructor
  · rintro ⟨c, more, whole⟩
    obtain ⟨ws, windows, admitted⟩ := admitted_of_encodeChar_eq whole.symm
    refine ⟨ws.take octets.length, ws.drop octets.length, ?_, ?_⟩
    · rw [List.take_append_drop, windows]
    · exact List.forall₂_take_append ws octets more admitted
  · rintro ⟨front, back, windows, admitted⟩
    have least : Admitted back (back.map Window.least) := by
      rw [Admitted, List.forall₂_map_right_iff, List.forall₂_same]
      intro w member
      exact admits_least_of_windowsAfter windows w (List.mem_append_right front member)
    obtain ⟨c, octets⟩ := exists_encodeChar windows (List.rel_append admitted least)
    exact ⟨c, _, octets.symm⟩

/-! ### Octets that are no character -/

/-- The windows admit the octets up to some place: all windows do, or the next one refuses. -/
theorem exists_admitted (ws : List Window) (octets : Octets) :
    (∃ tail rest, octets = tail ++ rest ∧ Admitted ws tail) ∨
    ∃ front w back tail rest, ws = front ++ w :: back ∧ octets = tail ++ rest ∧
      Admitted front tail ∧ ∀ b, rest.head? = some b → w.admits b = false := by
  induction ws generalizing octets with
  | nil => exact Or.inl ⟨[], octets, rfl, .nil⟩
  | cons w ws ih =>
      cases octets with
      | nil => exact Or.inr ⟨[], w, ws, [], [], rfl, rfl, .nil, by simp⟩
      | cons b octets =>
          cases admitted : w.admits b with
          | false => exact Or.inr ⟨[], w, ws, [], b :: octets, rfl, rfl, .nil, by simp [admitted]⟩
          | true =>
              rcases ih octets with ⟨tail, rest, rfl, all⟩ |
                ⟨front, next, back, tail, rest, rfl, rfl, some, refused⟩
              · exact Or.inl ⟨b :: tail, rest, rfl, .cons admitted all⟩
              · exact Or.inr ⟨w :: front, next, back, b :: tail, rest, rfl, rfl,
                  .cons admitted some, refused⟩

/-- Octets are broken where no character begins with them, or where the next window refuses what
follows. -/
theorem isBroken_cons_iff {lead : UInt8} {tail rest : Octets} :
    IsBroken (lead :: tail) rest ↔ (windowsAfter lead = none ∧ tail = []) ∨
      ∃ front w back, windowsAfter lead = some (front ++ w :: back) ∧ Admitted front tail ∧
        ∀ b, rest.head? = some b → w.admits b = false := by
  constructor
  · intro isBroken
    cases isBroken with
    | stray alone =>
        cases windows : windowsAfter lead with
        | none => exact Or.inl ⟨rfl, rfl⟩
        | some ws => exact absurd (begins_cons_iff.2 ⟨[], ws, windows, .nil⟩) alone
    | cut _ begins short stops =>
        obtain ⟨front, back, windows, admitted⟩ := begins_cons_iff.1 begins
        cases back with
        | nil =>
            rw [List.append_nil] at windows
            obtain ⟨c, octets⟩ := exists_encodeChar windows admitted
            exact absurd octets.symm (short c)
        | cons w back =>
            refine Or.inr ⟨front, w, back, windows, admitted, ?_⟩
            intro b next
            by_contra notRefused
            apply stops b next
            have one : Admitted [w] [b] := .cons (by simpa using notRefused) .nil
            rw [List.cons_append, begins_cons_iff]
            exact ⟨front ++ [w], back, by simpa using windows, List.rel_append admitted one⟩
  · rintro (⟨none, rfl⟩ | ⟨front, w, back, windows, admitted, refused⟩)
    · refine .stray ?_
      rw [begins_cons_iff]
      rintro ⟨front, back, windows, -⟩
      rw [none] at windows
      cases windows
    · refine .cut (by simp) (begins_cons_iff.2 ⟨front, w :: back, windows, admitted⟩) ?_ ?_
      · -- All windows of the lead octet would have to admit something.
        intro c octets
        obtain ⟨ws, all, admittedAll⟩ := admitted_of_encodeChar_eq octets.symm
        rw [windows, Option.some.injEq] at all
        have fewer := admitted.length_eq
        have same := admittedAll.length_eq
        rw [← all, List.length_append, List.length_cons] at same
        omega
      · intro b next begins
        rw [List.cons_append, begins_cons_iff] at begins
        obtain ⟨longer, more, others, admittedLonger⟩ := begins
        have lengths := admitted.length_eq
        have whole : longer ++ more = (front ++ [w]) ++ back := by
          rw [windows, Option.some.injEq] at others
          simpa using others.symm
        obtain ⟨rfl, -⟩ := List.append_inj whole (by simpa [lengths] using admittedLonger.length_eq)
        have last : Admitted [w] [b] := by
          simpa [← lengths] using List.forall₂_drop_append _ tail [b] admittedLonger
        obtain _ | ⟨admits, _⟩ := last
        rw [refused b next] at admits
        cases admits

/-! ### Decoding -/

theorem complete_append_of_refused {front back : List Window} {w : Window} {tail rest : Octets}
    (admitted : Admitted front tail) (refused : ∀ b, rest.head? = some b → w.admits b = false)
    (point : Nat) :
    complete point (front ++ w :: back) (tail ++ rest) = (replacement, rest) := by
  induction admitted generalizing point with
  | nil =>
      cases rest with
      | nil => rfl
      | cons b rest => simp [complete, refused b rfl]
  | cons first _ ih => rw [List.cons_append, List.cons_append, complete_cons first, ih]

theorem decode_broken_append {run rest : Octets} (isBroken : IsBroken run rest) :
    decode (run ++ rest) = replacement :: decode rest := by
  cases run with
  | nil => cases isBroken with
    | cut full => exact absurd rfl full
  | cons lead tail =>
      rcases isBroken_cons_iff.1 isBroken with ⟨none, rfl⟩ |
        ⟨front, w, back, windows, admitted, refused⟩
      · rw [List.cons_append, List.nil_append, decode]
        simp [none]
      · rw [List.cons_append, decode_cons windows, complete_append_of_refused admitted refused]

/-- Octets start with those of a character, or with some that are broken. -/
theorem exists_append (lead : UInt8) (octets : Octets) :
    (∃ c rest, lead :: octets = String.utf8EncodeChar c ++ rest) ∨
      ∃ tail rest, octets = tail ++ rest ∧ IsBroken (lead :: tail) rest := by
  cases windows : windowsAfter lead with
  | none => exact Or.inr ⟨[], octets, rfl, isBroken_cons_iff.2 (Or.inl ⟨windows, rfl⟩)⟩
  | some ws =>
      rcases exists_admitted ws octets with ⟨tail, rest, rfl, all⟩ |
        ⟨front, w, back, tail, rest, rfl, rfl, admitted, refused⟩
      · obtain ⟨c, written⟩ := exists_encodeChar windows all
        exact Or.inl ⟨c, rest, by rw [written, List.cons_append]⟩
      · exact Or.inr ⟨tail, rest, rfl,
          isBroken_cons_iff.2 (Or.inr ⟨front, w, back, windows, admitted, refused⟩)⟩

/-- What the decoder gives is what octets are decoded as. -/
theorem decodes_decode (octets : Octets) : Decodes octets (decode octets) := by
  -- A step takes one octet or several, so the induction is on their number.
  induction length : octets.length using Nat.strongRecOn generalizing octets with
  | ind n ih =>
      subst length
      cases octets with
      | nil =>
          rw [decode]
          exact .nil
      | cons lead octets =>
          rcases exists_append lead octets with ⟨c, rest, whole⟩ | ⟨tail, rest, rfl, isBroken⟩
          · have full : String.utf8EncodeChar c ≠ [] := by
              obtain ⟨first, tail, -, written, -⟩ := admitted_encodeChar c
              simp [written]
            have shorter : rest.length < (lead :: octets).length := by
              rw [whole, List.length_append]
              exact Nat.lt_add_of_pos_left (List.length_pos_iff.2 full)
            rw [whole, decode_encodeChar_append]
            exact .char c (ih _ shorter rest rfl)
          · have shorter : rest.length < (lead :: (tail ++ rest)).length := by
              rw [List.length_cons, List.length_append]
              omega
            rw [← List.cons_append, decode_broken_append isBroken]
            exact .broken isBroken (ih _ shorter rest rfl)

/-- The decoder gives the one text that octets are decoded as. -/
theorem decodes_iff {octets : Octets} {text : Text} :
    Decodes octets text ↔ decode octets = text := by
  constructor
  · intro decodes
    induction decodes with
    | nil => rw [decode]
    | char c _ ih => rw [decode_encodeChar_append, ih]
    | broken isBroken _ ih =>
        rw [decode_broken_append isBroken, ih]
        rfl
  · rintro rfl
    exact decodes_decode octets

end NodeGauge.Octets
