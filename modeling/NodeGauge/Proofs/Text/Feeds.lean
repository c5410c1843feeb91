/-
Module: NodeGauge.Proofs.Text.Feeds
Purpose: Decoding goes line by line.  A line feed is decoded as itself and nothing else is decoded
  as one, so octets that are no character reach neither over the end of their line nor into the
  next one.
Main exports: Octets.feed, Octets.decode_append_feed, Octets.feed_not_mem_decode,
  Octets.splitOn_decode
-/
import NodeGauge.Proofs.Text.Utf8
import NodeGauge.Proofs.Text.Words

namespace NodeGauge.Octets

/-- The octet that ends a line. -/
def feed : UInt8 := 0x0a

/-! ### Behind a lead octet -/

/-- No octet of the ASCII block completes a character. -/
theorem least_of_windowsAfter {lead : UInt8} {ws : List Window}
    (windows : windowsAfter lead = some ws) : ∀ w ∈ ws, 0x80 ≤ w.least.toNat := by
  unfold windowsAfter at windows
  repeat' split at windows
  all_goals cases windows
  all_goals decide

theorem not_admits_feed {w : Window} (least : 0x80 ≤ w.least.toNat) : w.admits feed = false := by
  apply Bool.eq_false_iff.2
  intro admitted
  have reached : w.least.toNat ≤ 0x0a := (admits_iff.1 admitted).1
  omega

/-- A line feed ends whatever is not complete before it, and stays in the rest. -/
theorem complete_append_feed {ws : List Window} (closed : ∀ w ∈ ws, 0x80 ≤ w.least.toNat)
    (point : Nat) (octets rest : Octets) :
    complete point ws (octets ++ feed :: rest) =
      ((complete point ws octets).1, (complete point ws octets).2 ++ feed :: rest) := by
  induction ws generalizing point octets with
  | nil => rfl
  | cons w ws ih =>
      obtain ⟨first, later⟩ := List.forall_mem_cons.1 closed
      cases octets with
      | nil => simp [complete, not_admits_feed first]
      | cons b octets =>
          simp only [List.cons_append, complete]
          split
          · exact ih later _ octets
          · rfl

theorem suffix_complete (point : Nat) (ws : List Window) (octets : Octets) :
    (complete point ws octets).2 <:+ octets := by
  induction ws generalizing point octets with
  | nil => exact List.suffix_rfl
  | cons w ws ih =>
      cases octets with
      | nil => exact List.suffix_rfl
      | cons b octets =>
          simp only [complete]
          split
          · exact (ih _ octets).trans (List.suffix_cons b octets)
          · exact List.suffix_rfl

/-! ### Characters of more than one octet -/

/-- A code point that has left the controls before the line feed behind is no line feed. -/
theorem ofNat_ne_feed {point : Nat} (above : 0x10 ≤ point) : Char.ofNat point ≠ '\n' := by
  intro same
  by_cases valid : point.isValidChar
  · have value : Char.ofNat point = Char.ofNatAux point valid := dif_pos valid
    have number : point = 0x0a := congrArg Char.toNat (value.symm.trans same)
    omega
  · have value : Char.ofNat point = '\x00' := dif_neg valid
    exact absurd (value.symm.trans same) (by decide)

theorem replacement_ne_feed : replacement ≠ '\n' := by decide

theorem complete_ne_feed {point : Nat} (above : 0x10 ≤ point) (ws : List Window)
    (octets : Octets) : (complete point ws octets).1 ≠ '\n' := by
  induction ws generalizing point octets with
  | nil => exact ofNat_ne_feed above
  | cons w ws ih =>
      cases octets with
      | nil => exact replacement_ne_feed
      | cons b octets =>
          simp only [complete]
          split
          · exact ih (by omega) octets
          · exact replacement_ne_feed

/-- The first two octets of a character hold a code point beyond the controls: where the lead octet
carries no bits, the window excludes the octets that would make a longer form than needed. -/
theorem above_of_windowsAfter {lead : UInt8} {w : Window} {ws : List Window} {b : UInt8}
    (windows : windowsAfter lead = some (w :: ws)) (admitted : w.admits b) :
    0x10 ≤ leadBits lead (w :: ws).length * 0x40 + b.toNat % 0x40 := by
  have ⟨least, greatest⟩ := admits_iff.1 admitted
  unfold windowsAfter at windows
  simp only [UInt8.lt_iff_toNat_lt, ← UInt8.toNat_inj, UInt8.reduceToNat] at windows
  repeat' split at windows
  all_goals cases windows
  all_goals simp only [Window.tail, UInt8.reduceToNat] at least greatest
  all_goals simp only [leadBits, List.length_cons, List.length_nil]
  all_goals omega

/-- A lead octet that completes a character alone is that character. -/
theorem ne_feed_of_windowsAfter_nil {lead : UInt8} (windows : windowsAfter lead = some [])
    (other : lead ≠ feed) : Char.ofNat (leadBits lead 0) ≠ '\n' := by
  have ascii : lead.toNat < 0x80 := by
    unfold windowsAfter at windows
    split at windows
    · next low => exact UInt8.lt_iff_toNat_lt.1 low
    · repeat' split at windows
      all_goals cases windows
  have valid : (leadBits lead 0).isValidChar := by
    left
    simp only [leadBits]
    omega
  have value : Char.ofNat (leadBits lead 0) = Char.ofNatAux (leadBits lead 0) valid := dif_pos valid
  intro same
  have number : lead.toNat = feed.toNat := congrArg Char.toNat (value.symm.trans same)
  exact other (UInt8.toNat_inj.1 number)

theorem feed_not_mem_decode {octets : Octets} (noFeed : feed ∉ octets) : '\n' ∉ decode octets := by
  fun_induction decode octets with
  | case1 => simp
  | case2 lead rest windows ih =>
      have later := ih fun member => noFeed (List.mem_cons_of_mem lead member)
      simpa [replacement] using later
  | case3 lead rest ws windows next ih =>
      have later := ih fun member =>
        noFeed (List.mem_cons_of_mem lead ((suffix_complete _ ws rest).subset member))
      have here : next.1 ≠ '\n' := by
        cases ws with
        | nil =>
            apply ne_feed_of_windowsAfter_nil windows
            rintro rfl
            exact noFeed List.mem_cons_self
        | cons w ws =>
            cases rest with
            | nil => exact replacement_ne_feed
            | cons b rest =>
                simp only [next, complete]
                split
                · next admitted =>
                    exact complete_ne_feed (above_of_windowsAfter windows admitted) ws rest
                · exact replacement_ne_feed
      simp only [List.mem_cons, not_or]
      exact ⟨here.symm, later⟩

/-! ### Rows -/

/-- Whatever stands in front of a line feed, the decoder starts afresh behind it. -/
theorem decode_append_feed (octets rest : Octets) :
    decode (octets ++ feed :: rest) = decode octets ++ '\n' :: decode rest := by
  fun_induction decode octets with
  | case1 =>
      have alone : windowsAfter feed = some [] := rfl
      exact decode_cons alone rest
  | case2 lead octets windows ih =>
      rw [List.cons_append, decode]
      simp [windows, ih]
  | case3 lead octets ws windows next ih =>
      rw [List.cons_append, decode_cons windows,
        complete_append_feed (least_of_windowsAfter windows)]
      exact congrArg (next.1 :: ·) ih

theorem decode_intercalate (rows : List Octets) :
    decode ([feed].intercalate rows) = ['\n'].intercalate (rows.map decode) := by
  induction rows with
  | nil => simp [decode]
  | cons row rows ih =>
      cases rows with
      | nil => simp
      | cons next rows =>
          rw [List.intercalate_cons_cons, List.append_assoc, List.singleton_append,
            decode_append_feed, ih]
          simp only [List.map_cons, List.intercalate_cons_cons, List.append_assoc,
            List.singleton_append]

theorem feed_not_mem_of_mem_splitOn {octets row : Octets} (member : row ∈ octets.splitOn feed) :
    feed ∉ row := by
  intro inside
  exact absurd (Text.not_of_mem_splitOnP row member feed inside) (by decide)

/-- Cutting the decoded text at its line feeds gives the rows, each decoded on its own. -/
theorem splitOn_decode (octets : Octets) :
    (decode octets).splitOn '\n' = (octets.splitOn feed).map decode := by
  have noFeed : ∀ line ∈ (octets.splitOn feed).map decode, '\n' ∉ line := by
    intro line member
    obtain ⟨row, among, rfl⟩ := List.mem_map.1 member
    exact feed_not_mem_decode (feed_not_mem_of_mem_splitOn among)
  calc (decode octets).splitOn '\n'
      = (decode ([feed].intercalate (octets.splitOn feed))).splitOn '\n' := by
        rw [List.intercalate_splitOn]
    _ = (['\n'].intercalate ((octets.splitOn feed).map decode)).splitOn '\n' := by
        rw [decode_intercalate]
    _ = (octets.splitOn feed).map decode :=
        List.splitOn_intercalate '\n' noFeed (by simp)

end NodeGauge.Octets
