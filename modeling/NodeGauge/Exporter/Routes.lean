/-
Module: NodeGauge.Exporter.Routes
Purpose: The requests that an exporter answers, and its answers.
Main exports: Exporter.Route, Exporter.Route.ofTarget?, Exporter.Response, Exporter.Answered,
  Exporter.State.respond
-/
import NodeGauge.Exporter.Cycle
import NodeGauge.Exposition.Observation
import NodeGauge.Node.Json

namespace NodeGauge.Exporter

open Listing (Survey)
open Log (Event)
open Query (Failure)

/-- What can be asked of an exporter. -/
inductive Route where
  /-- The metrics of a fresh cycle. -/
  | metrics
  /-- The node records of a fresh cycle. -/
  | nodes
  /-- Whether the exporter is alive. -/
  | health
deriving Repr, DecidableEq

namespace Route

/-- The path of a route. -/
def path : Route → Text
  | metrics => "/metrics".toList
  | nodes => "/nodes".toList
  | health => "/healthz".toList

/-- Every route. -/
def all : List Route := [metrics, nodes, health]

/-- A target without the scheme and the host that may stand in front of its path. -/
def behindHost (target : Text) : Text :=
  match target.cut ':' with
  | some (scheme, '/' :: '/' :: rest) =>
      if scheme.contains '/' then target
      else rest.dropWhile fun c => c != '/' && c != '?' && c != '#'
  | _ => target

/-- The route of a request's target.  Its path ends before a query or a fragment and must be the
path of the route letter by letter. -/
def ofTarget? (target : Text) : Option Route :=
  let path := (behindHost target).takeWhile fun c => c != '?' && c != '#'
  all.find? fun route => route.path = path

/-- The cycle that a route runs. -/
def cycle? : Route → Option Cycle
  | metrics => some .scrape
  | nodes => some .inspect
  | health => none

end Route

/-- A request: its method, its target, and what the query gives if a cycle is run for it. -/
structure Request where
  method : Text
  target : Text
  supply : Except Failure Octets

/-- An answer with the headers that clients look at. -/
structure Response where
  status : Nat
  contentType : Option Text
  allow : Option Text
  body : Text
deriving Repr, DecidableEq

namespace Response

/-- A text that is nothing but text. -/
def plainText : Text := "text/plain; charset=utf-8".toList

/-- The answer to a target that is no route. -/
def notFound : Response := ⟨404, none, none, []⟩

/-- The answer to a method that no route takes. -/
def methodNotAllowed : Response := ⟨405, none, some "GET,HEAD".toList, []⟩

/-- The answer of a living exporter. -/
def alive : Response := ⟨200, some plainText, none, "ok".toList⟩

/-- The answer when the query failed. -/
def unavailable (failure : Failure) : Response :=
  ⟨503, some plainText, none, "node source failed: ".toList ++ failure.message ++ ['\n']⟩

/-- The metrics of a survey, with the counters behind them. -/
def metrics (survey : Survey) (counters : Counters) : Response :=
  let page := Exposition.families (Exposition.observe survey.roster) ++ counters.page
  ⟨200, some Exposition.contentType, none, page.render⟩

/-- The records of a survey. -/
def nodes (survey : Survey) : Response :=
  ⟨200, some "application/json".toList, none, survey.roster.toJson⟩

/-- The answer without its body. -/
def withoutBody (r : Response) : Response := { r with body := [] }

end Response

/-- An answer and what giving it leaves behind. -/
structure Answered where
  state : State
  response : Response
  events : List Event

/-- What a finished cycle answers on a route. -/
def answerOf (route : Route) (collected : Collected) : Response :=
  match collected.result with
  | .error failure => .unavailable failure
  | .ok survey =>
      match route with
      | .metrics => .metrics survey collected.state.counters
      | .nodes => .nodes survey
      | .health => .alive

/-- Answer a route, after running its cycle. -/
def State.follow (state : State) (route : Route) (supply : Except Failure Octets) : Answered :=
  match route.cycle? with
  | none => ⟨state, .alive, []⟩
  | some cycle =>
      let collected := state.collect cycle supply
      ⟨collected.state, answerOf route collected, collected.events⟩

/-- Answer a request.  Only routes run cycles, and only for the methods `GET` and `HEAD`; the
second answers as the first does, without the body. -/
def State.respond (state : State) (request : Request) : Answered :=
  match Route.ofTarget? request.target with
  | none => ⟨state, .notFound, []⟩
  | some route =>
      if request.method = "GET".toList then state.follow route request.supply
      else if request.method = "HEAD".toList then
        let answered := state.follow route request.supply
        { answered with response := answered.response.withoutBody }
      else ⟨state, .methodNotAllowed, []⟩

theorem State.respond_get {target : Text} {route : Route}
    (isRoute : Route.ofTarget? target = some route) (state : State)
    (supply : Except Failure Octets) :
    state.respond ⟨"GET".toList, target, supply⟩ = state.follow route supply := by
  simp only [State.respond, isRoute, if_true]

end NodeGauge.Exporter
