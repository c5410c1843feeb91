/-
Module: NodeGauge.Proofs.Exporter.Signal
Purpose: The signal that stops an exporter.  Behind every run it is the message of the run's last
  failure, if failures stop the exporter, and nothing that an exporter answers, logs or counts
  depends on it.
Main exports: Exporter.Turn.failure?, Exporter.IsLastFailure, Exporter.State.fatal_after,
  Exporter.State.fatal_run, Exporter.signal_tells_last_failure
-/
import Mathlib.Data.List.Induction
import NodeGauge.Proofs.Exporter.Trace

namespace NodeGauge.Exporter

open Query (Failure)

/-! ### Turns that fail -/

/-- Why the query of a turn's cycle fails.  It does not matter what the cycle is for, and a turn
that runs no cycle does not fail. -/
def Turn.failure? (turn : Turn) : Option Failure :=
  match turn.cycle? with
  | some (_, .error failure) => some failure
  | _ => none

/-- The failure of a turn behind which no other turn fails. -/
def IsLastFailure (turns : List Turn) (failure : Failure) : Prop :=
  ∃ before turn later, turns = before ++ turn :: later ∧ turn.failure? = some failure ∧
    ∀ other ∈ later, other.failure? = none

theorem isLastFailure_iff {turns : List Turn} {failure : Failure} :
    IsLastFailure turns failure ↔ (turns.filterMap Turn.failure?).getLast? = some failure := by
  rw [List.getLast?_filterMap, List.findSome?_eq_some_iff]
  constructor
  · rintro ⟨before, turn, later, rfl, fails, others⟩
    refine ⟨later.reverse, turn, before.reverse, by simp, fails, ?_⟩
    intro other member
    exact others other (List.mem_reverse.1 member)
  · rintro ⟨later, turn, before, whole, fails, others⟩
    refine ⟨before.reverse, turn, later.reverse, ?_, fails, ?_⟩
    · rw [← List.reverse_reverse turns, whole]
      simp
    · intro other member
      exact others other (List.mem_reverse.1 member)

/-! ### The signal behind a turn -/

theorem State.exitOnFailure_after (state : State) (turn : Turn) :
    (state.after turn).exitOnFailure = state.exitOnFailure := by
  rw [State.after_eq]
  cases turn.cycle? with
  | none => rfl
  | some run =>
      obtain ⟨cycle, supply⟩ := run
      cases supply <;> rfl

/-- A turn that fails replaces the signal, if failures stop the exporter, and every other turn
leaves it alone. -/
theorem State.fatal_after (state : State) (turn : Turn) :
    (state.after turn).fatal =
      match turn.failure? with
      | none => state.fatal
      | some failure => if state.exitOnFailure then some failure.message else state.fatal := by
  rw [State.after_eq, Turn.failure?]
  cases turn.cycle? with
  | none => rfl
  | some run =>
      obtain ⟨cycle, supply⟩ := run
      cases supply <;> rfl

theorem State.isSome_fatal_after {state : State} (raised : state.fatal.isSome) (turn : Turn) :
    (state.after turn).fatal.isSome := by
  rw [State.fatal_after]
  cases turn.failure? with
  | none => exact raised
  | some failure =>
      cases state.exitOnFailure with
      | true => rfl
      | false => exact raised

/-! ### The signal behind a run -/

theorem State.exitOnFailure_run (state : State) (turns : List Turn) :
    (state.run turns).exitOnFailure = state.exitOnFailure := by
  induction turns generalizing state with
  | nil => rfl
  | cons turn turns ih => rw [State.run_cons, ih, State.exitOnFailure_after]

/-- The signal behind a run comes from the last failure of the run, and from before the run if none
of its turns fails. -/
theorem State.fatal_run (state : State) (turns : List Turn) :
    (state.run turns).fatal =
      if state.exitOnFailure then
        ((turns.filterMap Turn.failure?).getLast?.map Failure.message).or state.fatal
      else state.fatal := by
  induction turns using List.reverseRecOn with
  | nil => simp
  | append_singleton turns turn ih =>
      have last : (state.run (turns ++ [turn])).fatal = ((state.run turns).after turn).fatal := by
        simp [State.run]
      rw [last, State.fatal_after, State.exitOnFailure_run, ih, List.filterMap_append]
      cases failure : turn.failure? with
      | none => simp [failure]
      | some failure' => cases state.exitOnFailure <;> simp [failure]

theorem State.isSome_fatal_run {state : State} (raised : state.fatal.isSome) (turns : List Turn) :
    (state.run turns).fatal.isSome := by
  induction turns generalizing state with
  | nil => exact raised
  | cons turn turns ih => exact ih (State.isSome_fatal_after raised turn)

/-! ### What does not depend on the signal -/

/-- Exporters with the same counters look alike through every run, whatever their signals are. -/
theorem view_trace {s t : State} (same : s.counters = t.counters) (turns : List Turn) :
    (s.trace turns).map Step.view = (t.trace turns).map Step.view := by
  induction turns generalizing s t with
  | nil => rfl
  | cons turn turns ih =>
      have rest := ih (counters_after_congr same turn)
      simp only [State.trace, List.map_cons, view_take same, rest]

/-- Behind every run from the start, and so at every point of one, there is no signal to stop if
failures do not stop the exporter.  If they do, the signal is the message of the last failure, and
there is one as soon as a turn has failed.  It is never taken back, a turn that does not fail leaves
it as it is, and no reply, event or counter of any run depends on it. -/
theorem signal_tells_last_failure :
    (∀ turns : List Turn, ((State.start false).run turns).fatal = none) ∧
    (∀ (turns : List Turn) (reason : Text), ((State.start true).run turns).fatal = some reason ↔
      ∃ failure, IsLastFailure turns failure ∧ failure.message = reason) ∧
    (∀ turns : List Turn, ((State.start true).run turns).fatal.isSome ↔
      ∃ turn ∈ turns, turn.failure?.isSome) ∧
    (∀ (state : State) (turns : List Turn), state.fatal.isSome → (state.run turns).fatal.isSome) ∧
    (∀ (state : State) (turn : Turn), turn.failure? = none →
      (state.after turn).fatal = state.fatal) ∧
    ∀ (first second : State) (turns : List Turn), first.counters = second.counters →
      (first.trace turns).map Step.view = (second.trace turns).map Step.view := by
  have told (turns : List Turn) : ((State.start true).run turns).fatal =
      (turns.filterMap Turn.failure?).getLast?.map Failure.message := by
    rw [State.fatal_run]
    exact Option.or_none
  refine ⟨?_, ?_, ?_, ?_, ?_, ?_⟩
  · intro turns
    rw [State.fatal_run]
    rfl
  · intro turns reason
    simp only [told, Option.map_eq_some_iff, isLastFailure_iff]
  · intro turns
    rw [told, Option.isSome_map, Option.isSome_iff_ne_none, ne_eq, List.getLast?_eq_none_iff,
      List.filterMap_eq_nil_iff]
    simp only [not_forall, exists_prop, Option.isSome_iff_ne_none, ne_eq]
  · intro state turns raised
    exact State.isSome_fatal_run raised turns
  · intro state turn noFailure
    rw [State.fatal_after, noFailure]
  · intro first second turns same
    exact view_trace same turns

/-- A scrape and then an inspection fail, each for its own reason, and the turns behind them do not
fail: a scrape that finds no node, a failing query that no cycle runs, and the check of life. -/
theorem signal_tells_last_failure_twice :
    let first : Failure := .badEnding "sinfo".toList (some 1) "down".toList
    let second : Failure := .notStarted "sinfo".toList "No such file".toList
    let scrape : Turn := .collect .scrape (.error first)
    let inspection : Turn := .request ⟨"HEAD".toList, "/nodes?all".toList, .error second⟩
    let failing : List Turn := [scrape, inspection]
    let later : List Turn :=
      [.request ⟨"GET".toList, "/metrics".toList, .ok []⟩,
       .request ⟨"POST".toList, "/nodes".toList, .error first⟩,
       .request ⟨"GET".toList, "/healthz".toList, .error first⟩]
    let stopping := (State.start true).run (failing ++ later)
    IsLastFailure (failing ++ later) second ∧ stopping.fatal = some second.message ∧
      ((State.start false).run (failing ++ later)).fatal = none ∧
      (stopping.run later).fatal.isSome ∧
      (∀ turn ∈ later, turn.failure? = none ∧ (stopping.after turn).fatal = stopping.fatal) ∧
      ((State.start true).trace failing).map Step.view =
        ((State.start false).trace failing).map Step.view := by
  intro first second scrape inspection failing later stopping
  obtain ⟨off, on, -, stays, still, unseen⟩ := signal_tells_last_failure
  have others : ∀ turn ∈ later, turn.failure? = none := by decide
  have last : IsLastFailure (failing ++ later) second :=
    ⟨[scrape], inspection, later, rfl, rfl, others⟩
  have raised : stopping.fatal = some second.message :=
    (on (failing ++ later) second.message).2 ⟨second, last, rfl⟩
  refine ⟨last, raised, off _, stays stopping later ?_, ?_, unseen _ _ failing rfl⟩
  · rw [raised]
    rfl
  · intro turn among
    exact ⟨others turn among, still stopping turn (others turn among)⟩

end NodeGauge.Exporter
