/-
Module: NodeGauge.Proofs.Text.Utf8
Purpose: Decoding gives back every text from its octets, and goes on with what stands behind them.
Main exports: Octets.admitted_encodeChar, Octets.decode_utf8_append, Octets.decode_utf8
-/
import Mathlib.Data.List.Forall2
import NodeGauge.Text.Utf8

namespace NodeGauge.Octets

/-! ### The windows behind a lead octet -/

theorem admits_iff {w : Window} {b : UInt8} :
    w.admits b = true ↔ w.least.toNat ≤ b.toNat ∧ b.toNat ≤ w.greatest.toNat := by
  simp [Window.admits, UInt8.le_iff_toNat_le]

/-- The leads of the characters of two octets. -/
theorem windowsAfter_two (lead : UInt8) (least : 0xc2 ≤ lead.toNat)
    (greatest : lead.toNat < 0xe0) : windowsAfter lead = some [.tail] := by
  simp only [windowsAfter, UInt8.lt_iff_toNat_lt, UInt8.reduceToNat]
  rw [if_neg (by omega), if_neg (by omega), if_pos greatest]

/-- The leads of the characters of three octets.  The second octet must not make a longer form than
needed, nor a surrogate. -/
theorem windowsAfter_three (lead : UInt8) {b : UInt8} (least : 0xe0 ≤ lead.toNat)
    (greatest : lead.toNat < 0xf0) (tail : Window.tail.admits b)
    (needed : lead.toNat = 0xe0 → 0xa0 ≤ b.toNat)
    (noSurrogate : lead.toNat = 0xed → b.toNat ≤ 0x9f) :
    ∃ w, windowsAfter lead = some [w, .tail] ∧ w.admits b := by
  have ⟨bLeast, bGreatest⟩ := admits_iff.1 tail
  simp only [windowsAfter, UInt8.lt_iff_toNat_lt, ← UInt8.toNat_inj]
  simp only [Window.tail, UInt8.reduceToNat] at *
  rw [if_neg (by omega), if_neg (by omega), if_neg (by omega)]
  split
  · next least => exact ⟨_, rfl, admits_iff.2 ⟨needed least, bGreatest⟩⟩
  · split
    · next surrogates => exact ⟨_, rfl, admits_iff.2 ⟨bLeast, noSurrogate surrogates⟩⟩
    · exact ⟨_, rfl, tail⟩

/-- The leads of the characters of four octets.  The second octet must not make a longer form than
needed, nor a code point beyond the last plane. -/
theorem windowsAfter_four (lead : UInt8) {b : UInt8} (least : 0xf0 ≤ lead.toNat)
    (greatest : lead.toNat ≤ 0xf4) (tail : Window.tail.admits b)
    (needed : lead.toNat = 0xf0 → 0x90 ≤ b.toNat)
    (notBeyond : lead.toNat = 0xf4 → b.toNat ≤ 0x8f) :
    ∃ w, windowsAfter lead = some [w, .tail, .tail] ∧ w.admits b := by
  have ⟨bLeast, bGreatest⟩ := admits_iff.1 tail
  simp only [windowsAfter, UInt8.lt_iff_toNat_lt, ← UInt8.toNat_inj]
  simp only [Window.tail, UInt8.reduceToNat] at *
  rw [if_neg (by omega), if_neg (by omega), if_neg (by omega), if_neg (by omega),
    if_neg (by omega), if_neg (by omega)]
  split
  · next least => exact ⟨_, rfl, admits_iff.2 ⟨needed least, bGreatest⟩⟩
  · split
    · exact ⟨_, rfl, tail⟩
    · rw [if_pos (by omega)]
      exact ⟨_, rfl, admits_iff.2 ⟨bLeast, notBeyond (by omega)⟩⟩

/-! ### Reading one character -/

theorem decode_cons {lead : UInt8} {ws : List Window} (windows : windowsAfter lead = some ws)
    (rest : Octets) :
    decode (lead :: rest) =
      (complete (leadBits lead ws.length) ws rest).1 ::
        decode (complete (leadBits lead ws.length) ws rest).2 := by
  rw [decode]
  simp [windows]

theorem complete_cons {w : Window} {b : UInt8} (admitted : w.admits b) (point : Nat)
    (ws : List Window) (rest : Octets) :
    complete point (w :: ws) (b :: rest) = complete (point * 0x40 + b.toNat % 0x40) ws rest := by
  simp [complete, admitted]

theorem toNat_tail (n : Nat) : (UInt8.ofNat (n % 0x40 + 0x80)).toNat = n % 0x40 + 0x80 := by
  rw [UInt8.toNat_ofNat']
  omega

theorem admits_tail (n : Nat) : Window.tail.admits (UInt8.ofNat (n % 0x40 + 0x80)) := by
  rw [admits_iff, toNat_tail]
  simp only [Window.tail, UInt8.reduceToNat]
  omega

/-- Octets that windows admit, each in its place. -/
abbrev Admitted (ws : List Window) (octets : Octets) : Prop :=
  List.Forall₂ (fun w b => w.admits b = true) ws octets

/-- The code point whose first bits are known, with the bits that more octets carry. -/
def pointFrom (point : Nat) (octets : Octets) : Nat :=
  octets.foldl (fun point b => point * 0x40 + b.toNat % 0x40) point

/-- Octets that all windows admit are completed to a character. -/
theorem complete_append_of_admitted {ws : List Window} {octets : Octets}
    (admitted : Admitted ws octets) (point : Nat) (rest : Octets) :
    complete point ws (octets ++ rest) = (Char.ofNat (pointFrom point octets), rest) := by
  induction admitted generalizing point with
  | nil => rfl
  | cons first _ ih =>
      rw [List.cons_append, complete_cons first, ih]
      rfl

/-- The octets of a character are a lead octet and what its windows admit, and together they carry
the bits of its code point.  The cases are the four widths. -/
theorem admitted_encodeChar (c : Char) :
    ∃ lead tail ws, String.utf8EncodeChar c = lead :: tail ∧ windowsAfter lead = some ws ∧
      Admitted ws tail ∧ pointFrom (leadBits lead ws.length) tail = c.val.toNat := by
  have valid : c.val.toNat < 0xd800 ∨ 0xdfff < c.val.toNat ∧ c.val.toNat < 0x110000 := c.valid
  simp only [String.utf8EncodeChar]
  generalize c.val.toNat = n at *
  split
  · have bits : (UInt8.ofNat n).toNat = n := by
      rw [UInt8.toNat_ofNat']
      omega
    have lead : windowsAfter (UInt8.ofNat n) = some [] := by
      simp only [windowsAfter, UInt8.lt_iff_toNat_lt, bits, UInt8.reduceToNat]
      rw [if_pos (by omega)]
    exact ⟨_, _, _, rfl, lead, .nil, bits⟩
  · split
    · have bits : (UInt8.ofNat (n / 64 % 0x20 + 0xc0)).toNat = n / 64 + 0xc0 := by
        rw [UInt8.toNat_ofNat']
        omega
      have lead := windowsAfter_two (UInt8.ofNat (n / 64 % 0x20 + 0xc0)) (by omega) (by omega)
      refine ⟨_, _, _, rfl, lead, .cons (admits_tail n) .nil, ?_⟩
      simp only [pointFrom, List.foldl_cons, List.foldl_nil, leadBits, List.length_cons,
        List.length_nil, toNat_tail, bits]
      omega
    · split
      · have bits : (UInt8.ofNat (n / 4096 % 0x10 + 0xe0)).toNat = n / 4096 + 0xe0 := by
          rw [UInt8.toNat_ofNat']
          omega
        obtain ⟨w, lead, second⟩ :=
          windowsAfter_three (UInt8.ofNat (n / 4096 % 0x10 + 0xe0)) (by omega) (by omega)
            (admits_tail (n / 64)) (by rw [toNat_tail]; omega) (by rw [toNat_tail]; omega)
        refine ⟨_, _, _, rfl, lead, .cons second (.cons (admits_tail n) .nil), ?_⟩
        simp only [pointFrom, List.foldl_cons, List.foldl_nil, leadBits, List.length_cons,
          List.length_nil, toNat_tail, bits]
        omega
      · have bits : (UInt8.ofNat (n / 262144 % 0x08 + 0xf0)).toNat = n / 262144 + 0xf0 := by
          rw [UInt8.toNat_ofNat']
          omega
        obtain ⟨w, lead, second⟩ :=
          windowsAfter_four (UInt8.ofNat (n / 262144 % 0x08 + 0xf0)) (by omega) (by omega)
            (admits_tail (n / 4096)) (by rw [toNat_tail]; omega) (by rw [toNat_tail]; omega)
        refine ⟨_, _, _, rfl, lead,
          .cons second (.cons (admits_tail (n / 64)) (.cons (admits_tail n) .nil)), ?_⟩
        simp only [pointFrom, List.foldl_cons, List.foldl_nil, leadBits, List.length_cons,
          List.length_nil, toNat_tail, bits]
        omega

/-- The octets of a character read as that character. -/
theorem decode_encodeChar_append (c : Char) (rest : Octets) :
    decode (String.utf8EncodeChar c ++ rest) = c :: decode rest := by
  obtain ⟨lead, tail, ws, octets, windows, admitted, point⟩ := admitted_encodeChar c
  have whole : Char.ofNat c.val.toNat = c := Char.ofNat_toNat c
  rw [octets, List.cons_append, decode_cons windows, complete_append_of_admitted admitted, point,
    whole]

/-- Decoding reads a text back, whatever follows its octets. -/
theorem decode_utf8_append (s : Text) (rest : Octets) :
    decode (s.utf8 ++ rest) = s ++ decode rest := by
  induction s with
  | nil => rfl
  | cons c s ih =>
      have split : Text.utf8 (c :: s) = String.utf8EncodeChar c ++ Text.utf8 s := rfl
      rw [split, List.append_assoc, decode_encodeChar_append, ih, List.cons_append]

/-- Decoding undoes encoding. -/
theorem decode_utf8 (s : Text) : decode s.utf8 = s := by
  have whole := decode_utf8_append s []
  simpa [decode] using whole

end NodeGauge.Octets
