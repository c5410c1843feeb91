/-
Module: NodeGauge.Proofs.Exporter.Trace
Purpose: Runs of an exporter turn by turn, with what each turn gives back.  What is no scrape leaves
  no mark on the turns behind it, and `HEAD` is `GET` without the body.
Main exports: Exporter.Reply, Exporter.Step, Exporter.State.trace, Exporter.Step.view,
  Exporter.view_take, Exporter.trace_keptAt, Exporter.trace_asHead,
  Exporter.only_scrapes_leave_marks
-/
import NodeGauge.Proofs.Exporter.Run

namespace NodeGauge.Exporter

open Listing (Survey survey)
open Log (Event)
open Query (Failure)

/-! ### Steps and traces -/

/-- What a turn gives back. -/
inductive Reply where
  | answer (r : Response)
  /-- The result of a cycle that was run without a request. -/
  | collected (result : Except Failure Survey)

/-- One turn as it goes. -/
structure Step where
  before : State
  reply : Reply
  events : List Event
  after : State

/-- The step of a turn. -/
def State.take (state : State) : Turn → Step
  | .request r =>
      let answered := state.respond r
      ⟨state, .answer answered.response, answered.events, answered.state⟩
  | .collect cycle supply =>
      let collected := state.collect cycle supply
      ⟨state, .collected collected.result, collected.events, collected.state⟩

@[simp] theorem State.before_take (state : State) (turn : Turn) :
    (state.take turn).before = state := by
  cases turn <;> rfl

@[simp] theorem State.after_take (state : State) (turn : Turn) :
    (state.take turn).after = state.after turn := by
  cases turn <;> rfl

/-- The steps of some turns, each from where the one before it ends. -/
def State.trace (state : State) : List Turn → List Step
  | [] => []
  | turn :: turns => state.take turn :: (state.after turn).trace turns

/-! ### What the outside sees -/

/-- What can be seen of a step from outside: what it gives back, what it logs, and the counters on
both of its sides, hence the change it makes to them. -/
structure View where
  reply : Reply
  events : List Event
  before : Counters
  after : Counters

/-- What can be seen of a step. -/
def Step.view (step : Step) : View :=
  ⟨step.reply, step.events, step.before.counters, step.after.counters⟩

/-- An exporter of which only the counters are known. -/
def State.ofCounters (counters : Counters) : State := ⟨false, counters, none⟩

theorem State.follow_ofCounters (state : State) (route : Route) (supply : Supply) :
    let own := state.follow route supply
    let bare := (State.ofCounters state.counters).follow route supply
    own.response = bare.response ∧ own.events = bare.events ∧
      own.state.counters = bare.state.counters := by
  cases route <;> cases supply <;> exact ⟨rfl, rfl, rfl⟩

/-- Nothing but the counters decides what is seen of a step: neither the signal to stop nor the
setting for it. -/
theorem view_take_ofCounters (state : State) (turn : Turn) :
    (state.take turn).view = ((State.ofCounters state.counters).take turn).view := by
  cases turn with
  | collect cycle supply => cases cycle <;> cases supply <;> rfl
  | request r =>
      simp only [State.take, Step.view, State.respond]
      cases Route.ofTarget? r.target with
      | none => rfl
      | some route =>
          obtain ⟨response, events, counters⟩ := state.follow_ofCounters route r.supply
          by_cases get : r.method = "GET".toList
          · simp only [if_pos get, response, events, counters]
            rfl
          · by_cases head : r.method = "HEAD".toList
            · simp only [if_neg get, if_pos head, response, events, counters]
              rfl
            · simp only [if_neg get, if_neg head]
              rfl

theorem view_take {s t : State} (same : s.counters = t.counters) (turn : Turn) :
    (s.take turn).view = (t.take turn).view := by
  rw [view_take_ofCounters s, view_take_ofCounters t, same]

theorem counters_after_congr {s t : State} (same : s.counters = t.counters) (turn : Turn) :
    (s.after turn).counters = (t.after turn).counters := by
  have seen := congrArg View.after (view_take same turn)
  simpa [Step.view] using seen

/-! ### Turns left out -/

/-- The items at the places that are kept. -/
def keptAt {α : Type} (keep : Nat → Bool) : List α → List α
  | [] => []
  | item :: items =>
      if keep 0 then item :: keptAt (fun i => keep (i + 1)) items
      else keptAt (fun i => keep (i + 1)) items

/-- Leaving out turns that run no scrape leaves out their steps, and all other steps look as they
did. -/
theorem trace_keptAt {s t : State} (same : s.counters = t.counters) {turns : List Turn}
    {keep : Nat → Bool}
    (dropped : ∀ i turn, turns[i]? = some turn → keep i = false → turn.scrape? = none) :
    (t.trace (keptAt keep turns)).map Step.view = keptAt keep ((s.trace turns).map Step.view) := by
  induction turns generalizing s t keep with
  | nil => rfl
  | cons turn turns ih =>
      have later : ∀ i next, turns[i]? = some next → keep (i + 1) = false →
          next.scrape? = none := by
        intro i next found
        exact dropped (i + 1) next found
      simp only [State.trace, List.map_cons, keptAt]
      cases kept : keep 0 with
      | true =>
          have rest := ih (counters_after_congr same turn) later
          simp only [if_true, State.trace, List.map_cons, rest, view_take same]
      | false =>
          have noScrape : turn.scrape? = none := dropped 0 turn rfl kept
          have still : (s.after turn).counters = t.counters := by
            rw [State.counters_after, noScrape]
            exact same
          exact ih still later

/-! ### Requests without bodies -/

/-- A request with `HEAD` in place of `GET`. -/
def Request.asHead (r : Request) : Request :=
  if r.method = "GET".toList then { r with method := "HEAD".toList } else r

/-- A turn with `HEAD` in place of `GET`. -/
def Turn.asHead : Turn → Turn
  | .request r => .request r.asHead
  | .collect cycle supply => .collect cycle supply

/-- A step whose answer, if there is one, has no body. -/
def Step.withoutBody (step : Step) : Step :=
  match step.reply with
  | .answer r => { step with reply := .answer r.withoutBody }
  | .collected _ => step

/-- The answers to other methods have no body anyway. -/
theorem State.respond_asHead (state : State) (r : Request) :
    let answered := state.respond r
    state.respond r.asHead = { answered with response := answered.response.withoutBody } := by
  have notGet : "HEAD".toList ≠ "GET".toList := by decide
  by_cases get : r.method = "GET".toList
  · simp only [Request.asHead, if_pos get, State.respond, if_neg notGet]
    cases Route.ofTarget? r.target <;> rfl
  · simp only [Request.asHead, if_neg get, State.respond]
    cases Route.ofTarget? r.target with
    | none => rfl
    | some route =>
        by_cases head : r.method = "HEAD".toList
        · simp only [if_pos head]
          rfl
        · simp only [if_neg head]
          rfl

theorem State.take_asHead (state : State) (turn : Turn) :
    state.take turn.asHead = (state.take turn).withoutBody := by
  cases turn with
  | collect cycle supply => rfl
  | request r =>
      simp only [Turn.asHead, State.take, State.respond_asHead]
      rfl

theorem State.after_asHead (state : State) (turn : Turn) :
    state.after turn.asHead = state.after turn := by
  have ends := congrArg Step.after (state.take_asHead turn)
  rw [after_take] at ends
  rw [ends, ← after_take]
  cases turn <;> rfl

/-- Asking by `HEAD` changes nothing but the bodies of the answers. -/
theorem trace_asHead (state : State) (turns : List Turn) (switched : Nat → Bool) :
    state.trace (turns.mapIdx fun i turn => if switched i then turn.asHead else turn) =
      (state.trace turns).mapIdx fun i step => if switched i then step.withoutBody else step := by
  induction turns generalizing state switched with
  | nil => rfl
  | cons turn turns ih =>
      have rest := ih (state.after turn) fun i => switched (i + 1)
      simp only [List.mapIdx_cons, State.trace]
      cases switched 0 with
      | true => simp only [if_true, State.take_asHead, State.after_asHead, rest]
      | false => simp only [Bool.false_eq_true, if_false, rest]

/-! ### Traffic that is no scrape -/

/-- Whatever turns are left out of a run, if they run no scrape then every other turn gives the same
reply and the same events and finds and leaves the same counters.  Where requests ask by `HEAD` and
not by `GET`, the run differs in the bodies of their answers only. -/
theorem only_scrapes_leave_marks (state : State) (turns : List Turn) :
    (∀ keep : Nat → Bool,
      (∀ i turn, turns[i]? = some turn → keep i = false → turn.scrape? = none) →
      (state.trace (keptAt keep turns)).map Step.view =
        keptAt keep ((state.trace turns).map Step.view)) ∧
    ∀ switched : Nat → Bool,
      state.trace (turns.mapIdx fun i turn => if switched i then turn.asHead else turn) =
        (state.trace turns).mapIdx fun i step => if switched i then step.withoutBody else step := by
  constructor
  · intro keep dropped
    exact trace_keptAt rfl dropped
  · intro switched
    exact trace_asHead state turns switched

/-- A run from which a failing inspection and a request by another method are left out, and then
its last scrape by `HEAD`. -/
theorem only_scrapes_leave_marks_mixed :
    let listing : Octets := Text.utf8 "a 0 8 0/2/0/2 idle (null) (null)".toList
    let failure : Failure := .badEnding "sinfo".toList (some 1) []
    let scrape : Turn := .collect .scrape (.ok listing)
    let failing : Turn := .request ⟨"GET".toList, "/metrics".toList, .error failure⟩
    let last (method : String) : Turn := .request ⟨method.toList, "/metrics?all".toList, .ok []⟩
    let turns : List Turn :=
      [scrape, .request ⟨"GET".toList, "/nodes".toList, .error failure⟩, failing,
       .request ⟨"POST".toList, "/metrics".toList, .ok listing⟩, last "GET"]
    let keep : Nat → Bool := fun i => i != 1 && i != 3
    let exporter := State.start true
    (∀ i turn, turns[i]? = some turn → keep i = false → turn.scrape? = none) ∧
      (exporter.trace [scrape, failing, last "GET"]).map Step.view =
        keptAt keep ((exporter.trace turns).map Step.view) ∧
      exporter.trace [scrape, failing, last "HEAD"] =
        (exporter.trace [scrape, failing, last "GET"]).mapIdx fun i step =>
          if i == 2 then step.withoutBody else step := by
  intro listing failure scrape failing last turns keep exporter
  have dropped : ∀ i turn, turns[i]? = some turn → keep i = false → turn.scrape? = none := by
    intro i turn found left
    have place : i = 1 ∨ i = 3 := by
      simpa only [keep, Bool.and_eq_false_iff, bne_eq_false_iff_eq] using left
    rcases place with rfl | rfl
    · obtain rfl := Option.some.inj found
      rfl
    · obtain rfl := Option.some.inj found
      rfl
  exact ⟨dropped, (only_scrapes_leave_marks exporter turns).1 keep dropped,
    (only_scrapes_leave_marks exporter [scrape, failing, last "GET"]).2 fun i => i == 2⟩

end NodeGauge.Exporter
