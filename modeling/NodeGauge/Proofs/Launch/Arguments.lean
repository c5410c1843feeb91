/-
Module: NodeGauge.Proofs.Launch.Arguments
Purpose: Options in any order and in either form are read as they are given: the command line goes
  before the environment, and the environment before the defaults.  An option that is given again
  is refused, and what is suggested for a mistyped one is an option.
Main exports: Launch.Given, Launch.Given.arguments, Launch.Progress.readAll_given, Launch.chosen?,
  Launch.readArguments_of_nodup, Launch.readArguments_of_repeated, Launch.option_of_suggested
-/
import Mathlib.Data.List.Nodup
import NodeGauge.Launch.Arguments
import NodeGauge.Proofs.Text.Similarity

namespace NodeGauge.Launch

/-- An option as it is given on a command line. -/
inductive Given where
  /-- With its value behind an equals sign. -/
  | joined (s : Setting) (value : Text)
  /-- With its value as the next argument. -/
  | apart (s : Setting) (value : Text)
  /-- The switch that sets something. -/
  | exitOnFailure
deriving DecidableEq

namespace Given

/-- The option that is given. -/
def option : Given → Known
  | joined s _ | apart s _ => .setting s
  | exitOnFailure => .switch .exitOnFailure

/-- The setting that is given, with its value. -/
def value? : Given → Option (Setting × Text)
  | joined s value | apart s value => some (s, value)
  | exitOnFailure => none

/-- The arguments in which an option is given. -/
def arguments : Given → List Text
  | joined s value => ['-' :: '-' :: (s.name ++ '=' :: value)]
  | apart s value => ['-' :: '-' :: s.name, value]
  | exitOnFailure => ['-' :: '-' :: Switch.exitOnFailure.name]

/-- A value that stands apart does not look like an option. -/
def IsReadable : Given → Prop
  | apart _ value => value.head? ≠ some '-'
  | _ => True

end Given

/-! ### Names of options -/

theorem Known.ofName?_name (k : Known) : Known.ofName? k.name = some k := by
  cases k with
  | setting s => cases s <;> rfl
  | switch s => cases s <;> rfl

theorem Known.equals_not_mem_name (k : Known) : '=' ∉ k.name := by
  cases k with
  | setting s => cases s <;> decide
  | switch s => cases s <;> decide

namespace Progress

variable {p q : Progress}

theorem settle_of_pending_none (settled : p.pending = none) : p.settle = .ok p := by
  rw [settle, settled]

theorem assign_eq (p : Progress) (s : Setting) (value : Text) :
    p.assign s value = if Known.setting s ∈ p.given then
        .error (.refuse (.repeatedOption (.setting s)))
      else .ok { p with given := p.given ++ [.setting s], values := (s, value) :: p.values } := by
  rw [assign, accept]
  split <;> rfl

/-- Behind an option that is accepted nothing is pending. -/
theorem pending_of_settle (ok : p.settle = .ok q) : q.pending = none := by
  rw [settle] at ok
  split at ok
  · next settled =>
      obtain rfl := Except.ok.inj ok
      exact settled
  · cases ok
  · rw [assign_eq] at ok
    split at ok
    · cases ok
    · obtain rfl := Except.ok.inj ok
      rfl

/-! ### One option -/

theorem readArgument_joined (p : Progress) (s : Setting) (value : Text) :
    p.readArgument ('-' :: '-' :: (s.name ++ '=' :: value)) =
      p.settle >>= fun q => q.assign s value := by
  have cut : Text.cut '=' (s.name ++ '=' :: value) = some (s.name, value) :=
    Text.cut_eq_some_iff.2 ⟨rfl, (Known.setting s).equals_not_mem_name⟩
  have known : Known.ofName? s.name = some (.setting s) := (Known.setting s).ofName?_name
  rw [readArgument, readLong, cut]
  simp only [known]

theorem readArgument_apart (p : Progress) (s : Setting) :
    p.readArgument ('-' :: '-' :: s.name) =
      p.settle >>= fun q => .ok { q with pending := some (s, none) } := by
  have cut : Text.cut '=' s.name = none :=
    Text.cut_eq_none_iff.2 (Known.setting s).equals_not_mem_name
  have known : Known.ofName? s.name = some (.setting s) := (Known.setting s).ofName?_name
  rw [readArgument, readLong, cut]
  simp only [known]
  rfl

theorem readArgument_exitOnFailure (p : Progress) :
    p.readArgument ('-' :: '-' :: Switch.exitOnFailure.name) =
      p.settle >>= fun q => q.accept (.switch .exitOnFailure) := rfl

/-- A value that does not look like an option is read as the value of the pending one. -/
theorem readArgument_value {value : Text} (plain : value.head? ≠ some '-') (p : Progress)
    (s : Setting) :
    { p with pending := some (s, none) }.readArgument value =
      .ok { p with pending := some (s, some value) } := by
  cases value with
  | nil => rfl
  | cons c rest =>
      have other : c ≠ '-' := by simpa using plain
      simp [readArgument, readPlain, other]

/-- The first argument of an option, which accepts what has been pending. -/
theorem exists_first (g : Given) : ∃ first more, g.arguments = first :: more ∧
    first ≠ ['-', '-'] ∧ ∀ p : Progress, p.readArgument first =
      p.settle >>= fun q => q.readArgument first := by
  have again {step : Progress → Except Stop Progress} {first : Text}
      (reads : ∀ p : Progress, p.readArgument first = p.settle >>= step) (p : Progress) :
      p.readArgument first = p.settle >>= fun q => q.readArgument first := by
    rw [reads]
    cases settled : p.settle with
    | error stop => rfl
    | ok q =>
        have step := reads q
        rw [settle_of_pending_none (pending_of_settle settled)] at step
        exact step.symm
  cases g with
  | joined s value =>
      exact ⟨_, [], rfl, by simp, again fun p => p.readArgument_joined s value⟩
  | apart s value =>
      refine ⟨_, [value], rfl, ?_, again fun p => p.readArgument_apart s⟩
      cases s <;> decide
  | exitOnFailure => exact ⟨_, [], rfl, by decide, again readArgument_exitOnFailure⟩

/-! ### All options -/

/-- Accept an option as it is given. -/
def give (p : Progress) (g : Given) : Except Stop Progress :=
  if g.option ∈ p.given then .error (.refuse (.repeatedOption g.option))
  else .ok { p with given := p.given ++ [g.option], values := g.value?.toList ++ p.values }

theorem pending_of_give {g : Given} (settled : p.pending = none) (ok : p.give g = .ok q) :
    q.pending = none := by
  rw [give] at ok
  split at ok
  · cases ok
  · obtain rfl := Except.ok.inj ok
    exact settled

theorem readAll_cons {argument : Text} (goesOn : argument ≠ ['-', '-']) (p : Progress)
    (rest : List Text) :
    p.readAll (argument :: rest) = p.readArgument argument >>= fun q => q.readAll rest := by
  simp only [readAll, if_neg goesOn]

/-- What has been pending is accepted by the next option, or at the end. -/
theorem readAll_settle (p : Progress) (options : List Given) :
    p.readAll (options.flatMap Given.arguments) =
      p.settle >>= fun q => q.readAll (options.flatMap Given.arguments) := by
  cases options with
  | nil =>
      show p.settle = p.settle >>= fun q => q.settle
      cases settled : p.settle with
      | error stop => rfl
      | ok q => exact (settle_of_pending_none (pending_of_settle settled)).symm
  | cons g options =>
      obtain ⟨first, more, arguments, goesOn, settles⟩ := exists_first g
      rw [List.flatMap_cons, arguments, List.cons_append, readAll_cons goesOn, settles,
        bind_assoc]
      simp only [readAll_cons goesOn]

/-- Options are accepted one by one in the order in which they are given. -/
theorem readAll_given {options : List Given} (readable : ∀ g ∈ options, g.IsReadable)
    (settled : p.pending = none) :
    p.readAll (options.flatMap Given.arguments) = options.foldlM give p := by
  induction options generalizing p with
  | nil => exact settle_of_pending_none settled
  | cons g options ih =>
      rw [List.forall_mem_cons] at readable
      have goOn (q : Except Stop Progress) (gives : q = p.give g) :
          (q >>= fun q => q.readAll (options.flatMap Given.arguments)) =
            p.give g >>= fun q => options.foldlM give q := by
        subst gives
        cases accepted : p.give g with
        | error stop => rfl
        | ok q => exact ih readable.2 (pending_of_give settled accepted)
      have here : p.settle = .ok p := settle_of_pending_none settled
      rw [List.foldlM_cons, List.flatMap_cons]
      cases g with
      | joined s value =>
          rw [Given.arguments, List.singleton_append, readAll_cons (by simp),
            readArgument_joined, here]
          exact goOn _ (assign_eq p s value)
      | exitOnFailure =>
          rw [Given.arguments, List.singleton_append, readAll_cons (by decide),
            readArgument_exitOnFailure, here]
          exact goOn _ rfl
      | apart s value =>
          have plain : value.head? ≠ some '-' := readable.1
          have name : '-' :: '-' :: s.name ≠ ['-', '-'] := by cases s <;> decide
          have goesOn : value ≠ ['-', '-'] := by
            rintro rfl
            exact plain rfl
          rw [Given.arguments, List.cons_append, List.singleton_append, readAll_cons name,
            readArgument_apart, here]
          show readAll { p with pending := some (s, none) } _ = _
          rw [readAll_cons goesOn, readArgument_value plain]
          show readAll { p with pending := some (s, some value) } _ = _
          rw [readAll_settle]
          have accepted : settle { p with pending := some (s, some value) } = p.assign s value := by
            rw [settle]
            cases p
            cases settled
            rfl
          rw [accepted]
          exact goOn _ (assign_eq p s value)

/-- Options that are all new are all accepted. -/
theorem foldlM_give_of_nodup {options : List Given}
    (nodup : (p.given ++ options.map Given.option).Nodup) :
    options.foldlM give p = .ok { p with
      given := p.given ++ options.map Given.option
      values := (options.filterMap Given.value?).reverse ++ p.values } := by
  induction options generalizing p with
  | nil => simp [pure, Except.pure]
  | cons g options ih =>
      have new : g.option ∉ p.given := by
        intro again
        rw [List.map_cons] at nodup
        exact (List.nodup_append.1 nodup).2.2 _ again _ List.mem_cons_self rfl
      have first : p.give g = .ok { p with
          given := p.given ++ [g.option], values := g.value?.toList ++ p.values } := if_neg new
      rw [List.foldlM_cons, first]
      show options.foldlM give _ = _
      rw [ih (by simpa using nodup)]
      cases value : g.value? <;> simp [value]

/-- The first option that is given again is refused. -/
theorem foldlM_give_of_repeated {before after : List Given} {g : Given}
    (nodup : (p.given ++ before.map Given.option).Nodup)
    (again : g.option ∈ p.given ++ before.map Given.option) :
    (before ++ g :: after).foldlM give p = .error (.refuse (.repeatedOption g.option)) := by
  have refused (q : Progress) (given : q.given = p.given ++ before.map Given.option) :
      q.give g = .error (.refuse (.repeatedOption g.option)) := by
    rw [give, given, if_pos again]
  rw [List.foldlM_append, foldlM_give_of_nodup nodup]
  show (g :: after).foldlM give _ = _
  rw [List.foldlM_cons, refused _ rfl]
  rfl

end Progress

/-! ### The settings -/

/-- The value of a setting, among the options that are given, or else in the environment, or else by
default. -/
def chosen? (environment : Environment) (options : List Given) (s : Setting) : Option Text :=
  ((options.filterMap Given.value?).lookup s).or ((environment s.environmentName).or s.default?)

theorem lookup_reverse_of_nodup {α β : Type} [BEq α] [LawfulBEq α] {entries : List (α × β)}
    (nodup : (entries.map Prod.fst).Nodup) (key : α) :
    entries.reverse.lookup key = entries.lookup key := by
  induction entries with
  | nil => rfl
  | cons entry entries ih =>
      obtain ⟨k, value⟩ := entry
      obtain ⟨new, nodup⟩ := List.nodup_cons.1 nodup
      rw [List.reverse_cons, List.lookup_append, ih nodup]
      cases same : key == k with
      | true =>
          obtain rfl := eq_of_beq same
          have none : entries.lookup key = none := by
            rw [List.lookup_eq_none_iff]
            rintro ⟨other, shown⟩ member
            have among : other ∈ entries.map Prod.fst := List.mem_map_of_mem member
            have apart : key ≠ other := fun same => new (same ▸ among)
            simpa using apart
          simp [none]
      | false => simp [List.lookup_cons, same]

theorem settings_sublist (options : List Given) :
    (((options.filterMap Given.value?).map Prod.fst).map Known.setting).Sublist
      (options.map Given.option) := by
  induction options with
  | nil => exact List.Sublist.refl []
  | cons g options ih =>
      cases g with
      | joined s value => exact ih.cons_cons _
      | apart s value => exact ih.cons_cons _
      | exitOnFailure => exact ih.cons _

/-- Options that are given once each, in any order and form, are the settings.  Where requests are
taken and which command lists the nodes is always known. -/
theorem readArguments_of_nodup (environment : Environment) {options : List Given}
    (readable : ∀ g ∈ options, g.IsReadable) (nodup : (options.map Given.option).Nodup) :
    ∃ settings, readArguments environment (options.flatMap Given.arguments) = .ok settings ∧
      chosen? environment options .listenAddress = some settings.listenAddress ∧
      chosen? environment options .command = some settings.command ∧
      (settings.exitOnFailure = true ↔ .exitOnFailure ∈ options) ∧
      chosen? environment options .traceEndpoint = settings.traceEndpoint ∧
      chosen? environment options .traceToken = settings.traceToken := by
  have read := Progress.readAll_given readable (p := .start) rfl
  rw [Progress.foldlM_give_of_nodup (p := .start) nodup] at read
  have keys : ((options.filterMap Given.value?).map Prod.fst).Nodup :=
    List.Nodup.of_map Known.setting (nodup.sublist (settings_sublist options))
  have looked (s : Setting) : Progress.value? { Progress.start with
      given := Progress.start.given ++ options.map Given.option
      values := (options.filterMap Given.value?).reverse ++ Progress.start.values } environment s =
      chosen? environment options s := by
    rw [Progress.value?, chosen?, ← lookup_reverse_of_nodup keys]
    simp [Progress.start]
  have always {s : Setting} {value : Text} (default : s.default? = some value) :
      chosen? environment options s = some ((chosen? environment options s).getD []) := by
    cases chosen : chosen? environment options s with
    | some value => rfl
    | none =>
        simp only [chosen?, default, Option.or_eq_none_iff] at chosen
        exact absurd chosen.2.2 (by simp)
  have switched : Known.switch .exitOnFailure ∈ options.map Given.option ↔
      .exitOnFailure ∈ options := by
    rw [List.mem_map]
    constructor
    · rintro ⟨g, member, same⟩
      cases g with
      | exitOnFailure => exact member
      | _ => cases same
    · intro member
      exact ⟨_, member, rfl⟩
  have settings : readArguments environment (options.flatMap Given.arguments) = .ok {
      listenAddress := (chosen? environment options .listenAddress).getD []
      command := (chosen? environment options .command).getD []
      exitOnFailure := decide (Known.switch .exitOnFailure ∈ options.map Given.option)
      traceEndpoint := chosen? environment options .traceEndpoint
      traceToken := chosen? environment options .traceToken } := by
    rw [readArguments, read]
    simp only [bind, Except.bind, looked]
    rfl
  exact ⟨_, settings, always rfl, always rfl, by simpa using switched, rfl, rfl⟩

/-- An option that is given again is refused, whatever follows it. -/
theorem readArguments_of_repeated (environment : Environment) {before after : List Given}
    {g : Given} (readable : ∀ given ∈ before ++ g :: after, given.IsReadable)
    (nodup : (before.map Given.option).Nodup) (again : g.option ∈ before.map Given.option) :
    readArguments environment ((before ++ g :: after).flatMap Given.arguments) =
      .error (.refuse (.repeatedOption g.option)) := by
  have read : Progress.start.readAll ((before ++ g :: after).flatMap Given.arguments) =
      (before ++ g :: after).foldlM Progress.give .start :=
    Progress.readAll_given readable rfl
  rw [Progress.foldlM_give_of_repeated (p := .start) nodup again] at read
  rw [readArguments, read]
  rfl

/-! ### Suggestions -/

/-- What is suggested for a mistyped name is an option. -/
theorem option_of_suggested {p : Progress} {name argument similar : Text} {shown : List Known}
    (fault : p.unknownName name = .unknown argument (some similar) shown) :
    ∃ k : Known, k.name = similar := by
  injection fault with _ suggested _
  obtain ⟨k, -, named⟩ := List.mem_map.1 (Text.closest?_eq_some suggested).1
  exact ⟨k, named⟩

end NodeGauge.Launch
