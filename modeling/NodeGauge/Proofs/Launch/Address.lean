/-
Module: NodeGauge.Proofs.Launch.Address
Purpose: Whatever is read as the address of a host fits into its bits, and every address that is
  written in full is read back.
Main exports: Launch.HostAddress.Fits, Launch.HostAddress.fits_of_ofDotted?,
  Launch.HostAddress.fits_of_ofGrouped?, Launch.HostAddress.fits_of_ofBracketed?,
  Launch.HostAddress.ofDotted?_dotted, Launch.HostAddress.ofGrouped?_grouped
-/
import Mathlib.Data.List.Forall2
import NodeGauge.Launch.Address
import NodeGauge.Proofs.Number.Numeral

namespace NodeGauge

namespace Numeral

/-- The value of digits is less than the power of the base by their number. -/
theorem foldlM_digit_lt {base value result : Nat} {digits : Text}
    (read : digits.foldlM (fun n c => do
      let d ← hexValue? c
      if d < base then some (base * n + d) else none) value = some result) :
    result < (value + 1) * Nat.pow base digits.length := by
  induction digits generalizing value with
  | nil =>
      cases read
      simp
  | cons c digits ih =>
      rw [List.foldlM_cons] at read
      obtain ⟨next, step, further⟩ := Option.bind_eq_some_iff.1 read
      obtain ⟨d, -, within⟩ := Option.bind_eq_some_iff.1 step
      obtain ⟨small, same⟩ := Option.ite_none_right_eq_some.1 within
      cases same
      calc result < (base * value + d + 1) * Nat.pow base digits.length := ih further
        _ ≤ (value + 1) * base * Nat.pow base digits.length := by
            refine Nat.mul_le_mul_right _ ?_
            rw [Nat.add_mul, Nat.one_mul, Nat.mul_comm value base]
            omega
        _ = (value + 1) * Nat.pow base (c :: digits).length := by
            rw [List.length_cons, Nat.mul_assoc, Nat.mul_comm base]
            rfl

theorem valueIn?_lt {base value : Nat} {digits : Text} (read : valueIn? base digits = some value) :
    value < Nat.pow base digits.length := by
  rw [valueIn?] at read
  split at read
  · cases read
  · have bound := foldlM_digit_lt read
    rwa [Nat.zero_add, Nat.one_mul] at bound

end Numeral

namespace Launch.HostAddress

/-- An address that fits into its bits: 32 of them, or eight groups of 16 and a zone of 32. -/
def Fits : HostAddress → Prop
  | short value => value < 0x100000000
  | long groups zone =>
      groups.length = 8 ∧ (∀ g ∈ groups, g < 0x10000) ∧ zone < 0x100000000

/-! ### What is read fits -/

theorem foldl_lt {parts : List Nat} (small : ∀ part ∈ parts, part < 256) (value : Nat) :
    parts.foldl (fun n part => 256 * n + part) value < (value + 1) * Nat.pow 256 parts.length := by
  induction parts generalizing value with
  | nil => simp
  | cons part parts ih =>
      rw [List.forall_mem_cons] at small
      calc (part :: parts).foldl (fun n part => 256 * n + part) value
          < (256 * value + part + 1) * Nat.pow 256 parts.length := ih small.2 _
        _ ≤ (value + 1) * 256 * Nat.pow 256 parts.length := by
            refine Nat.mul_le_mul_right _ ?_
            omega
        _ = (value + 1) * Nat.pow 256 (part :: parts).length := by
            rw [List.length_cons, Nat.mul_assoc, Nat.mul_comm 256]
            rfl

theorem fits_of_ofDotted? {s : Text} {a : HostAddress} (read : ofDotted? s = some a) : a.Fits := by
  obtain ⟨parts, -, within⟩ := Option.bind_eq_some_iff.1 read
  obtain ⟨bounds, same⟩ := Option.ite_none_right_eq_some.1 within
  cases same
  simp only [Bool.and_eq_true, decide_eq_true_eq, List.all_eq_true] at bounds
  obtain ⟨⟨few, small⟩, last⟩ := bounds
  have front := foldl_lt small 0
  rw [Nat.zero_add, Nat.one_mul, List.length_dropLast] at front
  cases count : parts.length with
  | zero =>
      rw [List.length_eq_zero_iff.1 count]
      exact (by decide : 0 < 0x100000000)
  | succ n =>
      rw [count] at few front last
      -- The first parts leave as many places as the last one may fill.
      have room : Nat.pow 256 n * Nat.pow 256 (5 - (n + 1)) = 0x100000000 := by
        have places : ∀ n < 4, Nat.pow 256 n * Nat.pow 256 (5 - (n + 1)) = 0x100000000 := by decide
        exact places n few
      calc _ < _ := Nat.add_lt_add_left last _
        _ ≤ Nat.pow 256 n * Nat.pow 256 (5 - (n + 1)) := by
            rw [← Nat.succ_mul]
            exact Nat.mul_le_mul_right _ front
        _ = 0x100000000 := room

theorem lt_of_group? {s : Text} {g : Nat} (read : group? s = some g) : g < 0x10000 := by
  obtain ⟨short, value⟩ := Option.ite_none_right_eq_some.1 read
  calc g < Nat.pow 16 s.length := Numeral.valueIn?_lt value
    _ ≤ Nat.pow 16 4 := Nat.pow_le_pow_right (by decide) short
    _ = 0x10000 := rfl

theorem lt_of_quad? {s : Text} {groups : List Nat} (read : quad? s = some groups) :
    ∀ g ∈ groups, g < 0x10000 := by
  rw [quad?] at read
  obtain ⟨bounds, split⟩ := Option.ite_none_right_eq_some.1 read
  simp only [Bool.and_eq_true, decide_eq_true_eq, List.all_eq_true] at bounds
  have small : ∀ value ∈ (s.splitOn '.').map Numeral.value, value < 256 := by
    intro value member
    obtain ⟨part, among, rfl⟩ := List.mem_map.1 member
    exact (bounds.2 part among).2
  split at split
  · next a b c d parts =>
      cases split
      rw [parts] at small
      simp only [List.forall_mem_cons] at small ⊢
      obtain ⟨first, second, third, fourth, -⟩ := small
      exact ⟨by omega, by omega, by simp⟩
  · cases split

theorem lt_of_pieces? {dotted : Bool} {pieces : List Text} {groups : List Nat}
    (read : pieces? dotted pieces = some groups) : ∀ g ∈ groups, g < 0x10000 := by
  induction pieces generalizing groups with
  | nil =>
      cases read
      simp
  | cons first pieces ih =>
      cases pieces with
      | nil =>
          rw [pieces?, Option.or_eq_some_iff] at read
          rcases read with single | ⟨-, quad⟩
          · obtain ⟨g, found, rfl⟩ := Option.map_eq_some_iff.1 single
            simpa using lt_of_group? found
          · exact lt_of_quad? (Option.ite_none_right_eq_some.1 quad).2
      | cons next pieces =>
          obtain ⟨g, found, further⟩ := Option.bind_eq_some_iff.1 read
          obtain ⟨rest, later, same⟩ := Option.bind_eq_some_iff.1 further
          cases same
          exact List.forall_mem_cons.2 ⟨lt_of_group? found, ih later⟩

theorem lt_of_groupList? {dotted : Bool} {s : Text} {groups : List Nat}
    (read : groupList? dotted s = some groups) : ∀ g ∈ groups, g < 0x10000 := by
  rw [groupList?] at read
  split at read
  · cases read
    simp
  · exact lt_of_pieces? read

theorem fits_of_groups? {s : Text} {groups : List Nat} (read : groups? s = some groups) :
    groups.length = 8 ∧ ∀ g ∈ groups, g < 0x10000 := by
  rw [groups?] at read
  split at read
  · obtain ⟨found, list, within⟩ := Option.bind_eq_some_iff.1 read
    obtain ⟨eight, same⟩ := Option.ite_none_right_eq_some.1 within
    cases same
    exact ⟨eight, lt_of_groupList? list⟩
  · obtain ⟨front, first, later⟩ := Option.bind_eq_some_iff.1 read
    obtain ⟨back, last, within⟩ := Option.bind_eq_some_iff.1 later
    obtain ⟨few, same⟩ := Option.ite_none_right_eq_some.1 within
    cases same
    refine ⟨?_, ?_⟩
    · simp only [List.length_append, List.length_replicate]
      omega
    · intro g member
      rcases List.mem_append.1 member with inside | inBack
      · rcases List.mem_append.1 inside with inFront | between
        · exact lt_of_groupList? first g inFront
        · rw [(List.mem_replicate.1 between).2]
          decide
      · exact lt_of_groupList? last g inBack

theorem lt_of_zoneNumber? {s : Text} {zone : Nat} (read : zoneNumber? s = some zone) :
    zone < 0x100000000 := by
  obtain ⟨bounds, same⟩ := Option.ite_none_right_eq_some.1 read
  cases same
  simp only [Bool.and_eq_true, decide_eq_true_eq] at bounds
  exact bounds.2

theorem fits_of_ofGrouped? {s : Text} {a : HostAddress} (read : ofGrouped? s = some a) :
    a.Fits := by
  rw [ofGrouped?] at read
  split at read
  · obtain ⟨groups, found, rfl⟩ := Option.map_eq_some_iff.1 read
    exact ⟨(fits_of_groups? found).1, (fits_of_groups? found).2, by decide⟩
  · obtain ⟨groups, found, zone⟩ := Option.bind_eq_some_iff.1 read
    obtain ⟨eight, small⟩ := fits_of_groups? found
    split at zone
    · cases zone
      exact ⟨eight, small, by decide⟩
    · obtain ⟨number, inside, rfl⟩ := Option.map_eq_some_iff.1 zone
      exact ⟨eight, small, lt_of_zoneNumber? inside⟩

theorem fits_of_ofBracketed? {s : Text} {a : HostAddress} (read : ofBracketed? s = some a) :
    a.Fits := by
  rw [ofBracketed?.eq_def] at read
  split at read
  · obtain ⟨-, inside⟩ := Option.ite_none_right_eq_some.1 read
    split at inside
    · obtain ⟨groups, found, rfl⟩ := Option.map_eq_some_iff.1 inside
      exact ⟨(fits_of_groups? found).1, (fits_of_groups? found).2, by decide⟩
    · obtain ⟨groups, found, zone⟩ := Option.bind_eq_some_iff.1 inside
      obtain ⟨number, counted, rfl⟩ := Option.map_eq_some_iff.1 zone
      exact ⟨(fits_of_groups? found).1, (fits_of_groups? found).2, lt_of_zoneNumber? counted⟩
  · cases read

/-! ### Addresses that are written in full -/

/-- Four numbers with dots between. -/
def dotted (a b c d : Nat) : Text := ['.'].intercalate ([a, b, c, d].map Numeral.ofNat)

/-- The four hexadecimal digits of a group. -/
def groupText (g : Nat) : Text :=
  [g / 0x1000, g / 0x100 % 0x10, g / 0x10 % 0x10, g % 0x10].map Nat.digitChar

/-- Groups with colons between. -/
def grouped (groups : List Nat) : Text := [':'].intercalate (groups.map groupText)

theorem part?_ofNat {n : Nat} (small : n < 256) : part? (Numeral.ofNat n) = some n := by
  have all : ∀ n < 256, part? (Numeral.ofNat n) = some n := by decide +kernel
  exact all n small

/-- Four numbers between dots are read as the octets of an address. -/
theorem ofDotted?_dotted {a b c d : Nat} (first : a < 256) (second : b < 256) (third : c < 256)
    (fourth : d < 256) :
    ofDotted? (dotted a b c d) = some (short (256 * (256 * (256 * a + b) + c) + d)) := by
  have pieces : (dotted a b c d).splitOn '.' = [a, b, c, d].map Numeral.ofNat := by
    rw [Text.splitOn_eq_iff (by simp)]
    refine ⟨fun piece among => ?_, rfl⟩
    obtain ⟨n, -, rfl⟩ := List.mem_map.1 among
    exact Numeral.not_mem_ofNat (by decide) n
  rw [ofDotted?, pieces]
  simp [part?_ofNat, first, second, third, fourth]
  omega

theorem group?_groupText {g : Nat} (small : g < 0x10000) : group? (groupText g) = some g := by
  have digits : ∀ n < 16, Numeral.hexValue? (Nat.digitChar n) = some n := by decide
  have first := digits (g / 0x1000) (by omega)
  have second := digits (g / 0x100 % 0x10) (Nat.mod_lt _ (by decide))
  have third := digits (g / 0x10 % 0x10) (Nat.mod_lt _ (by decide))
  have fourth := digits (g % 0x10) (Nat.mod_lt _ (by decide))
  have below : g / 0x1000 < 16 := by omega
  rw [group?, if_pos (by simp [groupText])]
  simp [groupText, Numeral.valueIn?, first, second, third, fourth, below, Nat.mod_lt]
  omega

theorem not_mem_groupText {mark : Char} (noDigit : ∀ n < 16, Nat.digitChar n ≠ mark) {g : Nat}
    (small : g < 0x10000) : mark ∉ groupText g := by
  intro member
  obtain ⟨n, among, same⟩ := List.mem_map.1 member
  refine noDigit n ?_ same
  simp only [List.mem_cons, List.not_mem_nil, or_false] at among
  omega

theorem cutAtGap_append {piece : Text} (noColon : ':' ∉ piece) (rest : Text) :
    cutAtGap (piece ++ rest) =
      (cutAtGap rest).map fun (before, after) => (piece ++ before, after) := by
  induction piece with
  | nil => simp
  | cons c piece ih =>
      rw [List.mem_cons, not_or] at noColon
      rw [List.cons_append, cutAtGap, ih noColon.2]
      · simp [Function.comp_def]
      · exact fun _ colon _ => noColon.1 colon.symm

theorem cutAtGap_grouped {groups : List Nat} (small : ∀ g ∈ groups, g < 0x10000) :
    cutAtGap (grouped groups) = none := by
  induction groups with
  | nil => rfl
  | cons g groups ih =>
      rw [List.forall_mem_cons] at small
      have noColon : ':' ∉ groupText g := not_mem_groupText (by decide) small.1
      cases groups with
      | nil =>
          have single := cutAtGap_append noColon []
          simpa [grouped, cutAtGap] using single
      | cons next groups =>
          have front : grouped (g :: next :: groups) =
              groupText g ++ ':' :: grouped (next :: groups) := by
            simp [grouped, List.intercalate_cons_cons]
          have noGap : ∀ rest, grouped (next :: groups) ≠ ':' :: rest := by
            intro rest colon
            have first : (groupText next).head? = some ':' := by
              have same : (grouped (next :: groups)).head? = (groupText next).head? := by
                cases groups with
                | nil => simp [grouped]
                | cons => simp [grouped, List.intercalate_cons_cons, groupText]
              rw [← same, colon, List.head?_cons]
            exact not_mem_groupText (by decide) (small.2 next List.mem_cons_self)
              (List.mem_of_head? first)
          rw [front, cutAtGap_append noColon, cutAtGap, ih small.2]
          · rfl
          · exact fun rest _ colon => noGap rest colon

theorem pieces?_map_groupText {groups : List Nat} (small : ∀ g ∈ groups, g < 0x10000)
    (isDotted : Bool) : pieces? isDotted (groups.map groupText) = some groups := by
  induction groups with
  | nil => rfl
  | cons g groups ih =>
      rw [List.forall_mem_cons] at small
      cases groups with
      | nil => simp [pieces?, group?_groupText small.1]
      | cons next groups =>
          have rest := ih small.2
          rw [List.map_cons] at rest
          rw [List.map_cons, List.map_cons, pieces?, group?_groupText small.1, rest]
          · rfl
          · simp

/-- Eight groups between colons are read as an address without a zone. -/
theorem ofGrouped?_grouped {groups : List Nat} (eight : groups.length = 8)
    (small : ∀ g ∈ groups, g < 0x10000) : ofGrouped? (grouped groups) = some (long groups 0) := by
  have nonempty : groups ≠ [] := by
    rintro rfl
    cases eight
  have noZone : Text.cut '%' (grouped groups) = none := by
    rw [Text.cut_eq_none_iff]
    intro member
    rcases Text.mem_of_mem_intercalate member with colon | ⟨piece, among, inside⟩
    · cases colon
    · obtain ⟨g, inGroups, rfl⟩ := List.mem_map.1 among
      exact not_mem_groupText (by decide) (small g inGroups) inside
  have pieces : (grouped groups).splitOn ':' = groups.map groupText := by
    rw [Text.splitOn_eq_iff (by simpa using nonempty)]
    refine ⟨fun piece among => ?_, rfl⟩
    obtain ⟨g, inGroups, rfl⟩ := List.mem_map.1 among
    exact not_mem_groupText (by decide) (small g inGroups)
  have full : (grouped groups).isEmpty = false := by
    rw [List.isEmpty_eq_false_iff]
    intro none
    have one := congrArg List.length pieces
    rw [none, List.length_map, eight] at one
    cases one
  have list : groupList? true (grouped groups) = some groups := by
    rw [groupList?, full, pieces]
    exact pieces?_map_groupText small true
  rw [ofGrouped?, noZone]
  simp [groups?, cutAtGap_grouped small, list, eight]

end Launch.HostAddress

end NodeGauge
