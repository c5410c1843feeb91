/-
Module: NodeGauge.Proofs.Log.Pattern
Purpose: Reading a pattern takes something off the text with each step, so that the number of steps
  never decides; plain texts are patterns, and nested groups are up to the greatest depth.
Main exports: Log.Pattern.readClass_congr, Log.Pattern.State.length_of_step, Log.Pattern.Reads,
  Log.isPattern_iff, Log.isPattern_of_literal, Log.isPattern_nested_iff
-/
import NodeGauge.Log.Pattern

namespace NodeGauge.Log

namespace Pattern

variable {m : Mode} {s rest : Text}

/-! ### What is left is shorter -/

theorem length_afterBlanks_le (comment : Bool) (s : Text) :
    (Mode.afterBlanks comment s).length ≤ s.length := by
  induction s generalizing comment with
  | nil => simp [Mode.afterBlanks]
  | cons c s ih =>
      have shorter (comment : Bool) : (Mode.afterBlanks comment s).length ≤ (c :: s).length :=
        Nat.le_succ_of_le (ih comment)
      rw [Mode.afterBlanks]
      repeat' split
      · exact shorter _
      · exact shorter _
      · exact shorter _
      · exact Nat.le_refl _

theorem length_skip_le (m : Mode) (s : Text) : (m.skip s).length ≤ s.length := by
  rw [Mode.skip]
  split
  · exact length_afterBlanks_le false s
  · exact Nat.le_refl _

theorem length_of_skip_cons {c : Char} (skipped : m.skip s = c :: rest) :
    rest.length < s.length := by
  have bound := length_skip_le m s
  rw [skipped] at bound
  exact bound

theorem length_of_skip_cons_cons {c d : Char} (skipped : m.skip s = c :: d :: rest) :
    rest.length < s.length :=
  Nat.lt_trans (Nat.lt_succ_self _) (length_of_skip_cons skipped)

theorem length_of_readDigits {value wanted result : Nat}
    (read : readDigits m value wanted s = some (result, rest)) : rest.length ≤ s.length := by
  induction wanted generalizing value s with
  | zero =>
      rw [readDigits] at read
      cases read
      exact Nat.le_refl _
  | succ wanted ih =>
      rw [readDigits] at read
      split at read
      · cases read
      · next c behind skipped =>
          obtain ⟨digit, -, further⟩ := Option.bind_eq_some_iff.1 read
          exact Nat.le_of_lt (Nat.lt_of_le_of_lt (ih further) (length_of_skip_cons skipped))

theorem length_of_readNumbered {digits : Nat} {item : Item}
    (read : readNumbered m digits s = some (item, rest)) : rest.length ≤ s.length := by
  obtain ⟨⟨value, behind⟩, found, valid⟩ := Option.bind_eq_some_iff.1 read
  obtain ⟨-, same⟩ := Option.ite_none_right_eq_some.1 valid
  cases same
  exact length_of_readDigits found

theorem length_of_readEscape {item : Item} (read : readEscape m s = some (item, rest)) :
    rest.length < s.length := by
  cases s with
  | nil => cases read
  | cons c s =>
      refine Nat.lt_succ_of_le ?_
      simp only [readEscape] at read
      repeat' split at read
      all_goals first
        | exact length_of_readNumbered read
        | (cases read; exact Nat.le_refl _)
        | cases read

theorem length_of_readItem {item : Item} (read : readItem m s = some (item, rest)) :
    rest.length < s.length := by
  rw [readItem.eq_def] at read
  split at read
  · cases read
  · exact Nat.lt_succ_of_lt (length_of_readEscape read)
  all_goals
    cases read
    exact Nat.lt_succ_self _

theorem length_of_readMember {item : Item} (read : readMember m s = some (item, rest)) :
    rest.length < s.length := by
  rw [readMember.eq_def] at read
  split at read
  · cases read
  · exact Nat.lt_succ_of_lt (length_of_readEscape read)
  · cases read
    exact Nat.lt_succ_self _

theorem length_of_dropWhile_cons_cons {p : Char → Bool} {c d : Char}
    (dropped : s.dropWhile p = c :: d :: rest) : rest.length ≤ s.length := by
  have suffix : s.dropWhile p <:+ s := List.dropWhile_suffix p
  rw [dropped] at suffix
  exact ((List.suffix_append [c, d] rest).trans suffix).length_le

theorem length_of_readFamily? {others : Bool} (read : readFamily? s = some (others, rest)) :
    rest.length < s.length := by
  rw [readFamily?.eq_def] at read
  split at read
  · next s =>
      refine Nat.lt_succ_of_le ?_
      dsimp only at read
      split at read
      · next behind closed =>
          obtain ⟨-, same⟩ := Option.ite_none_right_eq_some.1 read
          cases same
          have inside := length_of_dropWhile_cons_cons closed
          split at inside
          · exact Nat.le_trans inside (by simp)
          · exact inside
      · cases read
  · cases read

theorem length_of_readRange (read : readRange m s = some rest) : rest.length < s.length := by
  obtain ⟨⟨first, behindFirst⟩, foundFirst, further⟩ := Option.bind_eq_some_iff.1 read
  have shorter := length_of_readMember foundFirst
  have single {r : Text} (read : (if first.isUsableInClass m then some behindFirst else none) =
      some r) : r.length < s.length := by
    obtain ⟨-, same⟩ := Option.ite_none_right_eq_some.1 read
    cases same
    exact shorter
  dsimp only at further
  split at further
  · next behind skipped =>
      split at further
      · exact single further
      · obtain ⟨⟨last, behindLast⟩, foundLast, ends⟩ := Option.bind_eq_some_iff.1 further
        obtain ⟨-, same⟩ := Option.ite_none_right_eq_some.1 ends
        cases same
        calc behindLast.length < (m.skip behind).length := length_of_readMember foundLast
          _ ≤ behind.length := length_skip_le m behind
          _ < behindFirst.length := length_of_skip_cons skipped
          _ < s.length := shorter
  · exact single further

theorem length_of_readOpening (read : readOpening m s = some rest) : rest.length ≤ s.length := by
  rw [readOpening] at read
  split at read
  · next behind skipped =>
      split at read
      · cases read
      · cases read
        exact Nat.le_of_lt (length_of_skip_cons skipped)
  · cases read
    exact length_skip_le m s

/-- What one step of reading a class does, however many are left: it fails, ends the class, or goes
on behind what it has read. -/
inductive ClassStep (m : Mode) (s : Text) (read : Nat → Option (Nat × Text)) : Prop where
  | fails (same : ∀ steps, read steps = none)
  | ends {depth : Nat} {rest : Text} (same : ∀ steps, read steps = some (depth, rest))
      (shorter : rest.length < s.length)
  | goesOn {place : ClassPlace} {current : OpenClass} {outer : List OpenClass} {rest : Text}
      (same : ∀ steps, read steps = readClass m steps place current outer rest)
      (shorter : rest.length < s.length)

theorem classStep_member {place : ClassPlace} {current : OpenClass} {outer : List OpenClass}
    (shorter : rest.length < s.length) :
    ClassStep m s fun steps =>
      if m.needsCases then none else readClass m steps place current outer rest := by
  cases cases : m.needsCases with
  | true => exact .fails fun _ => rfl
  | false => exact .goesOn (fun _ => rfl) shorter

theorem classStep_readClass (m : Mode) (place : ClassPlace) (current : OpenClass)
    (outer : List OpenClass) (s : Text) :
    ClassStep m s fun steps => readClass m (steps + 1) place current outer s := by
  simp only [readClass]
  split
  · exact .fails fun _ => rfl
  · next rest skipped => exact classStep_member (length_of_skip_cons skipped)
  · next rest skipped => exact classStep_member (length_of_skip_cons skipped)
  · next rest skipped => exact classStep_member (length_of_skip_cons skipped)
  · next rest skipped =>
      have shorter := length_of_skip_cons skipped
      split
      · next others behind family =>
          have inside := Nat.lt_trans (length_of_readFamily? family) shorter
          split
          · exact .fails fun _ => rfl
          · exact classStep_member inside
      · cases opening : readOpening m rest with
        | none => exact .fails fun _ => rfl
        | some behind =>
            have inside := Nat.lt_of_le_of_lt (length_of_readOpening opening) shorter
            exact .goesOn (fun _ => rfl) inside
  · next rest _ skipped =>
      have shorter := length_of_skip_cons skipped
      cases outer with
      | nil => exact .ends (fun _ => rfl) shorter
      | cons around outer => exact .goesOn (fun _ => rfl) shorter
  · next rest skipped => exact .goesOn (fun _ => rfl) (length_of_skip_cons_cons skipped)
  · next rest skipped => exact .goesOn (fun _ => rfl) (length_of_skip_cons_cons skipped)
  · next rest skipped => exact .goesOn (fun _ => rfl) (length_of_skip_cons_cons skipped)
  · cases range : readRange m (m.skip s) with
    | none => exact .fails fun _ => rfl
    | some rest =>
        have shorter := Nat.lt_of_lt_of_le (length_of_readRange range) (length_skip_le m s)
        exact classStep_member shorter

theorem length_of_readClass {steps : Nat} {place : ClassPlace} {current : OpenClass}
    {outer : List OpenClass} {depth : Nat}
    (read : readClass m steps place current outer s = some (depth, rest)) :
    rest.length < s.length := by
  induction steps generalizing place current outer s with
  | zero => cases read
  | succ steps ih =>
      cases classStep_readClass m place current outer s with
      | fails same => cases (same steps).symm.trans read
      | ends same shorter =>
          cases (same steps).symm.trans read
          exact shorter
      | goesOn same shorter => exact Nat.lt_trans (ih ((same steps).symm.trans read)) shorter

/-- A class is read alike with any two numbers of steps that the text does not exceed. -/
theorem readClass_congr {steps more : Nat} (place : ClassPlace) (current : OpenClass)
    (outer : List OpenClass) (enough : s.length < steps) (enoughToo : s.length < more) :
    readClass m steps place current outer s = readClass m more place current outer s := by
  induction steps generalizing more place current outer s with
  | zero => exact absurd enough (Nat.not_lt_zero _)
  | succ steps ih =>
      obtain ⟨more, rfl⟩ := Nat.exists_eq_succ_of_ne_zero (Nat.ne_zero_of_lt enoughToo)
      cases classStep_readClass m place current outer s with
      | fails same => exact (same steps).trans (same more).symm
      | ends same _ => exact (same steps).trans (same more).symm
      | @goesOn place current outer rest same shorter =>
          rw [same steps, same more]
          exact ih place current outer (by omega) (by omega)

/-! ### Steps through a pattern -/

theorem length_of_readFlags {read flags : Text} {isGroup : Bool}
    (found : readFlags read s = some (flags, isGroup, rest)) : rest.length < s.length := by
  induction s generalizing read with
  | nil => cases found
  | cons c s ih =>
      rw [readFlags] at found
      split at found
      · cases found
        exact Nat.lt_succ_self _
      · split at found
        · cases found
          exact Nat.lt_succ_self _
        · split at found
          · exact Nat.lt_succ_of_lt (ih found)
          · cases found

namespace State

variable {st next : State}

theorem length_of_openNamed (read : st.openNamed s = some (next, rest)) :
    rest.length < s.length := by
  rw [openNamed] at read
  split at read
  · cases read
  · next name behind cut =>
      obtain ⟨-, same⟩ := Option.ite_none_right_eq_some.1 read
      cases same
      obtain ⟨rfl, -⟩ := Text.cut_eq_some_iff.1 cut
      simp
      omega

theorem length_of_readGroup (read : st.readGroup s = some (next, rest)) :
    rest.length ≤ s.length := by
  have left := length_skip_le st.mode s
  rw [readGroup.eq_def] at read
  split at read
  · next behind skipped =>
      rw [skipped] at left
      have shorter := length_of_openNamed read
      simp only [List.length_cons] at left
      omega
  · next behind _ skipped =>
      rw [skipped] at left
      split at read
      · cases read
      · cases read
      · have shorter := length_of_openNamed read
        simp only [List.length_cons] at left
        omega
  · next behind _ _ skipped =>
      obtain ⟨⟨flags, isGroup, inside⟩, found, further⟩ := Option.bind_eq_some_iff.1 read
      have shorter := length_of_readFlags found
      have same : inside = rest := by
        dsimp only at further
        repeat' split at further
        · cases further
        · cases further
          rfl
        · cases further
        · cases further
          rfl
      rw [skipped, List.length_cons] at left
      rw [← same]
      omega
  · cases read
    exact left

/-- Each step reads something. -/
theorem length_of_step (read : st.step s = some (next, rest)) : rest.length < s.length := by
  rw [step.eq_def] at read
  split at read
  · cases read
  · exact Nat.lt_succ_of_le (length_of_readGroup read)
  · split at read
    · cases read
    · cases read
      exact Nat.lt_succ_self _
  · cases read
    exact Nat.lt_succ_self _
  · next behind =>
      obtain ⟨members, opening, further⟩ := Option.bind_eq_some_iff.1 read
      obtain ⟨⟨depth, inside⟩, found, ends⟩ := Option.bind_eq_some_iff.1 further
      cases ends
      have shorter := Nat.lt_of_lt_of_le (length_of_readClass found) (length_of_readOpening opening)
      exact Nat.lt_succ_of_lt shorter
  · cases read
  · next c behind _ _ _ _ _ =>
      split at read
      · obtain ⟨group, -, ends⟩ := Option.bind_eq_some_iff.1 read
        cases ends
        refine Nat.lt_succ_of_le ?_
        split
        · simp
        · exact Nat.le_refl _
      · obtain ⟨⟨item, inside⟩, found, usable⟩ := Option.bind_eq_some_iff.1 read
        obtain ⟨-, same⟩ := Option.ite_none_right_eq_some.1 usable
        cases same
        exact length_of_readItem found

end State

/-- A pattern can be read to its end from some state on. -/
inductive Reads : State → Text → Prop where
  /-- Nothing is left but what is skipped, and the pattern may end. -/
  | ends {st : State} {s : Text} (skipped : st.mode.skip s = []) (mayEnd : st.mayEnd = true) :
      Reads st s
  /-- One part is read, and then the rest. -/
  | part {st next : State} {s rest : Text} (unread : st.mode.skip s ≠ [])
      (step : st.step (st.mode.skip s) = some (next, rest)) (further : Reads next rest) : Reads st s

theorem reads_iff_mayEnd {st : State} {s : Text} (skipped : st.mode.skip s = []) :
    Reads st s ↔ st.mayEnd = true := by
  constructor
  · rintro (⟨-, mayEnd⟩ | ⟨unread, -, -⟩)
    · exact mayEnd
    · exact absurd skipped unread
  · exact .ends skipped

theorem reads_iff_of_step {st next : State} {s rest : Text} (unread : st.mode.skip s ≠ [])
    (step : st.step (st.mode.skip s) = some (next, rest)) : Reads st s ↔ Reads next rest := by
  constructor
  · rintro (⟨skipped, -⟩ | ⟨-, found, further⟩)
    · exact absurd skipped unread
    · cases step.symm.trans found
      exact further
  · exact .part unread step

theorem not_reads_of_step {st : State} {s : Text} (unread : st.mode.skip s ≠ [])
    (step : st.step (st.mode.skip s) = none) : ¬Reads st s := by
  rintro (⟨skipped, -⟩ | ⟨-, found, -⟩)
  · exact unread skipped
  · cases step.symm.trans found

/-- With as many steps as there are characters, and one to end, the rest is accepted if it can be
read. -/
theorem State.accepts_iff {steps : Nat} {st : State} {s : Text} (enough : s.length < steps) :
    st.accepts steps s = true ↔ Reads st s := by
  induction steps generalizing st s with
  | zero => exact absurd enough (Nat.not_lt_zero _)
  | succ steps ih =>
      have left := length_skip_le st.mode s
      rw [accepts.eq_def]
      dsimp only
      split
      · next skipped => exact (reads_iff_mayEnd skipped).symm
      · next unread =>
          cases step : st.step (st.mode.skip s) with
          | none => simp [not_reads_of_step unread step]
          | some read =>
              obtain ⟨next, rest⟩ := read
              have shorter := length_of_step step
              rw [reads_iff_of_step unread step]
              exact ih (by omega)

end Pattern

/-- A text is a pattern if it can be read part by part, with as many steps as that takes. -/
theorem isPattern_iff {s : Text} : isPattern s = true ↔ Pattern.Reads .start s :=
  Pattern.State.accepts_iff (Nat.lt_succ_self _)

/-! ### Characters that stand for themselves, and groups -/

/-- A group with one part is as deep as the part. -/
theorem OpenGroup.depth_add_empty (depth : Nat) : (empty.add depth).depth = depth := by
  simp only [OpenGroup.depth, OpenGroup.add, OpenGroup.empty, Siblings.depth_add_empty]

namespace Pattern

/-- The signs with a meaning of their own. -/
def signs : Text := ['\\', '.', '^', '$', '(', ')', '[', '\x7b', '|', '?', '*', '+']

variable (st : State) {c : Char}

theorem skip_of_plain {m : Mode} (plain : m = .plain) (s : Text) : m.skip s = s := by
  simp [plain, Mode.skip, Mode.plain]

theorem reads_literal_iff (literal : c ∉ signs) (plain : st.mode = .plain) (rest : Text) :
    Reads st (c :: rest) ↔ Reads { st with group := st.group.add 0 } rest := by
  have skipped := skip_of_plain plain
  simp only [signs, List.mem_cons, List.not_mem_nil, or_false, not_or] at literal
  have item : readItem st.mode (c :: rest) = some (.character c false, rest) := by
    simp [readItem, literal]
  have usable : (Item.character c false).isUsable st.mode = true := by
    simp [plain, Item.isUsable, Mode.needsCases, Mode.plain]
  have step : st.step (c :: rest) = some ({ st with group := st.group.add 0 }, rest) := by
    simp [State.step, literal, item, usable]
  exact reads_iff_of_step (by simp [skipped]) (by rw [skipped, step])

theorem reads_open_iff {rest : Text} (plain : st.mode = .plain) (group : rest.head? ≠ some '?') :
    Reads st ('(' :: rest) ↔ Reads (st.openGroup st.mode) rest := by
  have skipped := skip_of_plain plain
  have step : st.step ('(' :: rest) = some (st.openGroup st.mode, rest) := by
    rw [State.step, State.readGroup.eq_def, skipped]
    split
    · exact absurd rfl group
    · exact absurd rfl group
    · exact absurd rfl group
    · rfl
  exact reads_iff_of_step (by simp [skipped]) (by rw [skipped, step])

theorem reads_close_iff (plain : st.mode = .plain) {mode : Mode} {group : OpenGroup}
    {outer : List (Mode × OpenGroup)} (opened : st.outer = (mode, group) :: outer) (rest : Text) :
    Reads st (')' :: rest) ↔
      Reads { st with mode, group := group.add (st.group.depth + 1), outer } rest := by
  have skipped := skip_of_plain plain
  have step : st.step (')' :: rest) =
      some ({ st with mode, group := group.add (st.group.depth + 1), outer }, rest) := by
    simp [State.step, opened]
  exact reads_iff_of_step (by simp [skipped]) (by rw [skipped, step])

/-- A character in so many groups is a part of that depth. -/
theorem reads_nested_iff (literal : c ∉ signs) (n : Nat) (plain : st.mode = .plain)
    (rest : Text) :
    Reads st (List.replicate n '(' ++ c :: (List.replicate n ')' ++ rest)) ↔
      Reads { st with group := st.group.add n } rest := by
  induction n generalizing st rest with
  | zero => exact reads_literal_iff st literal plain rest
  | succ n ih =>
      have front : (List.replicate n '(' ++ c :: (List.replicate n ')' ++ ')' :: rest)).head? ≠
          some '?' := by
        cases n with
        | zero =>
            rintro same
            cases same
            exact literal (by decide)
        | succ n => simp [List.replicate_succ]
      have closing : List.replicate (n + 1) ')' ++ rest = List.replicate n ')' ++ ')' :: rest := by
        rw [List.replicate_succ', List.append_assoc, List.singleton_append]
      have inner := ih (st.openGroup st.mode) plain (')' :: rest)
      have close := reads_close_iff { st.openGroup st.mode with group := OpenGroup.empty.add n }
        plain rfl rest
      rw [OpenGroup.depth_add_empty] at close
      rw [closing, List.replicate_succ, List.cons_append, reads_open_iff st plain front]
      exact inner.trans close

end Pattern

/-- A text without signs is a pattern. -/
theorem isPattern_of_literal {s : Text} (literal : ∀ c ∈ s, c ∉ Pattern.signs) :
    isPattern s = true := by
  rw [isPattern_iff]
  -- Whatever has been read, there is one branch of parts without depth.
  suffices ∀ count last, Pattern.Reads
      { Pattern.State.start with group := ⟨⟨count, 0⟩, last, .empty⟩ } s from this 0 none
  induction s with
  | nil =>
      intro count last
      rw [Pattern.reads_iff_mayEnd (by rfl)]
      have shallow : (Siblings.mk count 0).depth ≤ depthLimit := by
        have one : (Siblings.mk count 0).depth ≤ 1 := by
          rw [Siblings.depth]
          split
          · exact Nat.zero_le 1
          · exact Nat.le_refl 1
        exact Nat.le_trans one (by decide)
      simpa [Pattern.State.mayEnd, Pattern.State.start, OpenGroup.depth] using shallow
  | cons c s ih =>
      intro count last
      rw [List.forall_mem_cons] at literal
      rw [Pattern.reads_literal_iff _ literal.1 rfl]
      exact ih literal.2 (count + 1) (some 0)

/-- A character in groups is a pattern if there are no more groups than the greatest depth. -/
theorem isPattern_nested_iff {c : Char} (literal : c ∉ Pattern.signs) (n : Nat) :
    isPattern (List.replicate n '(' ++ c :: List.replicate n ')') = true ↔ n ≤ depthLimit := by
  have nested := Pattern.reads_nested_iff .start literal n rfl []
  rw [List.append_nil] at nested
  rw [isPattern_iff, nested, Pattern.reads_iff_mayEnd (by rfl)]
  simp [Pattern.State.mayEnd, Pattern.State.start, OpenGroup.depth_add_empty]

end NodeGauge.Log
