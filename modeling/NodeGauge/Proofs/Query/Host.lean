/-
Module: NodeGauge.Proofs.Query.Host
Purpose: Errors of the system are told apart by their messages, the entries of a host are found by
  their paths, and what the stand-in writes is the listing if it ends well.
Main exports: Query.OsError.message_injective, Query.Host.IsTree, Query.Host.find_path,
  Query.Host.isTree_usual, Query.code_of_run, Query.fetch_script_eq_ok_iff, Query.Host.run_usual
-/
import Mathlib.Data.List.Induction
import NodeGauge.Proofs.Number.Numeral
import NodeGauge.Query.Host

namespace NodeGauge.Query

/-! ### Messages -/

namespace OsError

theorem integerText_injective : Function.Injective integerText := by
  intro n m same
  have noSign (k : Nat) (rest : Text) : Numeral.ofNat k ≠ '-' :: rest := by
    intro sign
    have minus : '-' ∈ Numeral.ofNat k := by simp [sign]
    exact Numeral.not_mem_ofNat (by decide) k minus
  rw [integerText, integerText] at same
  split at same
  · next negative =>
      split at same
      · next negativeToo =>
          have values := Numeral.ofNat_injective (List.cons.inj same).2
          omega
      · exact absurd same.symm (noSign _ _)
  · next positive =>
      split at same
      · exact absurd same (noSign _ _)
      · next positiveToo =>
          have values := Numeral.ofNat_injective same
          omega

/-- The signs of an integer: its digits, and a hyphen in front of them. -/
theorem mem_integerText {n : Int} {c : Char} (member : c ∈ integerText n) :
    (Numeral.isDigit c || c == '-') = true := by
  rw [integerText] at member
  split at member
  · rcases List.mem_cons.1 member with rfl | digit
    · rfl
    · simp [Numeral.isDigit_of_mem_ofNat digit]
  · simp [Numeral.isDigit_of_mem_ofNat member]

/-- Two errors with one message are one: the number stands at the end. -/
theorem message_injective : Function.Injective message := by
  intro e other same
  have backwards (e : OsError) : e.message.reverse =
      ')' :: ((integerText e.number).reverse ++
        ((" (os error ".toList).reverse ++ e.description.reverse)) := by
    simp [message]
  have reversed := congrArg List.reverse same
  rw [backwards, backwards] at reversed
  have signs (e : OsError) : ∀ c ∈ (integerText e.number).reverse,
      (Numeral.isDigit c || c == '-') = true :=
    fun c member => mem_integerText (List.mem_reverse.1 member)
  have stops (e : OsError) : ∀ c, ((" (os error ".toList).reverse ++ e.description.reverse).head? =
      some c → (Numeral.isDigit c || c == '-') = false := by
    intro c first
    cases first
    rfl
  have numbers := (Text.append_inj_of_class (signs e) (signs other) (stops e) (stops other)
    (List.cons.inj reversed).2).1
  have values := integerText_injective (List.reverse_inj.1 numbers)
  exact congrArg OsError.mk values

end OsError

/-! ### Paths -/

/-- A text that can be the name of an entry. -/
structure IsEntryName (name : Text) : Prop where
  noStep : Host.isStep name = false
  noSlash : '/' ∉ name
  short : (Text.utf8 name).length ≤ Host.nameLimit

instance (name : Text) : Decidable (IsEntryName name) :=
  decidable_of_iff
    (Host.isStep name = false ∧ '/' ∉ name ∧ (Text.utf8 name).length ≤ Host.nameLimit)
    ⟨fun ⟨noStep, noSlash, short⟩ => ⟨noStep, noSlash, short⟩,
      fun ⟨noStep, noSlash, short⟩ => ⟨noStep, noSlash, short⟩⟩

namespace Host

/-- A host whose entries have names that can be told apart, each in a directory of the host or at
the root. -/
structure IsTree (host : Host) : Prop where
  names : ∀ entry ∈ host.entries, ∀ name ∈ entry.1, IsEntryName name
  parents : ∀ entry ∈ host.entries, entry.1 = [] ∨
    host.entries.lookup entry.1.dropLast = some .directory

variable {host : Host}

theorem walk_cons {reached : List Text} (directory : host.entries.lookup reached = some .directory)
    {name : Text} (isName : IsEntryName name) (names : List Text) :
    host.walk reached (name :: names) = host.walk (reached ++ [name]) names := by
  have noStep := isName.noStep
  simp only [isStep, Bool.or_eq_false_iff, decide_eq_false_iff_not] at noStep
  obtain ⟨⟨full, noDot⟩, noDots⟩ := noStep
  rw [walk, directory]
  simp only [Nat.not_lt.2 isName.short, full, noDot, noDots, if_false, Bool.or_self,
    decide_false, Bool.false_eq_true]

theorem mem_of_lookup {path : List Text} {entry : Entry}
    (found : host.entries.lookup path = some entry) : (path, entry) ∈ host.entries := by
  obtain ⟨before, after, whole, -⟩ := List.lookup_eq_some_iff.1 found
  rw [whole]
  simp

/-- Whoever follows the path of an entry reaches it. -/
theorem walk_path (tree : host.IsTree) {path : List Text} {entry : Entry}
    (found : host.entries.lookup path = some entry) (rest : List Text) :
    host.walk [] (path ++ rest) = host.walk path rest := by
  induction path using List.reverseRecOn generalizing entry rest with
  | nil => rfl
  | append_singleton parents name ih =>
      have member := mem_of_lookup found
      have directory : host.entries.lookup parents = some .directory := by
        rcases tree.parents _ member with none | parent
        · simp at none
        · simpa using parent
      have isName := tree.names _ member name (by simp)
      rw [List.append_assoc, ih directory, List.singleton_append, walk_cons directory isName]

/-- An entry is found by its path from the root. -/
theorem find_path (tree : host.IsTree) {path : List Text} {entry : Entry} (below : path ≠ [])
    (found : host.entries.lookup path = some entry)
    (short : (Text.utf8 ('/' :: ['/'].intercalate path)).length ≤ pathLimit) :
    host.find ('/' :: ['/'].intercalate path) = .ok entry := by
  have pieces : (['/'].intercalate path).splitOn '/' = path := by
    rw [Text.splitOn_eq_iff below]
    exact ⟨fun name among => (tree.names _ (mem_of_lookup found) name among).noSlash, rfl⟩
  have reached := walk_path tree found []
  rw [List.append_nil] at reached
  simp only [find, Nat.not_lt.2 short, if_false, pieces, reached, walk, found]

theorem isTree_usual (listing : Script) : (usual listing).IsTree := by
  have entries : (usual listing).entries = (usual ⟨false, [], [], none⟩).entries := rfl
  constructor
  · rw [entries]
    decide +kernel
  · rw [entries]
    decide +kernel

/-! ### Runs -/

/-- A name alone is searched for among the commands. -/
theorem find_of_lookup {name : Text} (isName : IsEntryName name) {program : Program}
    (found : host.commands.lookup name = some program) :
    host.find name = .ok (.command program) := by
  have short : (Text.utf8 name).length ≤ pathLimit := Nat.le_trans isName.short (by decide)
  have pieces : name.splitOn '/' = [name] := by
    rw [Text.splitOn_eq_iff (by simp)]
    exact ⟨by simpa using isName.noSlash, by simp⟩
  have first : [name].dropWhile isStep = [name] :=
    List.dropWhile_cons_of_neg (by simp [isName.noStep])
  rw [find.eq_def, if_neg (Nat.not_lt.2 short)]
  split
  · exact absurd isName.noStep (by decide)
  · exact absurd List.mem_cons_self isName.noSlash
  · rw [pieces, first]
    simp only [Nat.not_lt.2 isName.short, if_false, found]

theorem run_of_lookup {name : Text} (isName : IsEntryName name) (noNul : '\x00' ∉ name)
    {program : Program} (found : host.commands.lookup name = some program)
    (arguments : List Text) : host.run name arguments = program.run arguments := by
  have plain : name.contains '\x00' = false := by simpa using noNul
  rw [run, plain, find_of_lookup isName found]
  rfl

end Host

/-- Exit codes are of eight bits. -/
theorem code_of_run {program : Program} {arguments : List Text} {code : Int}
    {output errors : Octets} (ended : program.run arguments = .ended (some code) output errors) :
    0 ≤ code ∧ code < 256 := by
  have bounds (n : Int) : 0 ≤ n % 256 ∧ n % 256 < 256 := by omega
  cases program with
  | echo =>
      cases ended
      decide
  | exit n =>
      cases ended
      exact bounds n
  | script s =>
      obtain ⟨n, -, rfl⟩ := Option.map_eq_some_iff.1 (Run.ended.inj ended).1
      exact bounds n

theorem fetch_eq_ok_iff {command : Text} {run : Run} {listing : Octets} :
    (fetch command run).listing = .ok listing ↔ ∃ errors, run = .ended (some 0) listing errors := by
  constructor
  · intro fetched
    rw [fetch.eq_def] at fetched
    split at fetched
    · cases fetched
    · next output errors =>
        cases fetched
        exact ⟨errors, rfl⟩
    · cases fetched
  · rintro ⟨errors, rfl⟩
    rfl

/-- What the stand-in writes is the listing if the last eight bits of its exit code are zero. -/
theorem fetch_script_eq_ok_iff {command : Text} {s : Script} (quiet : s.showArguments = false)
    {arguments : List Text} {listing : Octets} :
    (fetch command (Program.run arguments (.script s))).listing = .ok listing ↔
      (∃ code, s.code = some code ∧ 256 ∣ code) ∧ s.output = listing := by
  rw [fetch_eq_ok_iff]
  simp only [Program.run, quiet, Bool.false_eq_true, if_false, List.nil_append, Run.ended.injEq,
    Option.map_eq_some_iff]
  constructor
  · rintro ⟨errors, ⟨code, ends, zero⟩, same, -⟩
    exact ⟨⟨code, ends, by omega⟩, same⟩
  · rintro ⟨⟨code, ends, divides⟩, same⟩
    exact ⟨s.errors, ⟨code, ends, by omega⟩, same, rfl⟩

/-- The usual host finds the stand-in by the name of the listing command. -/
theorem Host.run_usual (s : Script) (arguments : List Text) :
    (usual s).run "sinfo".toList arguments = Program.run arguments (.script s) :=
  run_of_lookup (by decide) (by decide) rfl arguments

end NodeGauge.Query
