/-
Module: NodeGauge.Proofs.Exporter.Run
Purpose: Runs of an exporter, turn by turn, and what its counters say behind a run: they tell the
  scrapes of the run and their results, and nothing else moves them.
Main exports: Exporter.Turn, Exporter.State.run, Exporter.Turn.cycle?, Exporter.State.after_eq,
  Exporter.scrapesOf, Exporter.Counters.Tell, Exporter.counters_tell_scrapes
-/
import Mathlib.Algebra.GroupWithZero.Nat
import NodeGauge.Exporter.Routes
import NodeGauge.Proofs.Listing.Rows

namespace NodeGauge.Exporter

open Listing (survey)
open Query (Failure)

/-! ### Turns and runs -/

/-- What the query gives to a cycle: a listing, or the reason for which there is none. -/
abbrev Supply := Except Failure Octets

/-- One thing that happens to an exporter. -/
inductive Turn where
  | request (r : Request)
  /-- A cycle is run without a request. -/
  | collect (cycle : Cycle) (supply : Supply)

/-- The exporter behind a turn. -/
def State.after (state : State) : Turn → State
  | .request r => (state.respond r).state
  | .collect cycle supply => (state.collect cycle supply).state

/-- The exporter behind some turns. -/
def State.run (state : State) (turns : List Turn) : State := turns.foldl State.after state

@[simp] theorem State.run_nil (state : State) : state.run [] = state := rfl

@[simp] theorem State.run_cons (state : State) (turn : Turn) (turns : List Turn) :
    state.run (turn :: turns) = (state.after turn).run turns := rfl

/-- The path that a request asks for: its target without the host, the query and the fragment. -/
def Request.path (r : Request) : Text :=
  (Route.behindHost r.target).takeWhile fun c => c != '?' && c != '#'

/-- The methods that an exporter serves. -/
def Request.IsRead (r : Request) : Prop := r.method = "GET".toList ∨ r.method = "HEAD".toList

instance (r : Request) : Decidable r.IsRead :=
  inferInstanceAs (Decidable (r.method = "GET".toList ∨ r.method = "HEAD".toList))

/-- The cycle that a turn runs, and what the query gives to it. -/
def Turn.cycle? : Turn → Option (Cycle × Supply)
  | .collect cycle supply => some (cycle, supply)
  | .request r =>
      if r.IsRead then
        if r.path = "/metrics".toList then some (.scrape, r.supply)
        else if r.path = "/nodes".toList then some (.inspect, r.supply)
        else none
      else none

/-- What the query gives to the scrape that a turn runs, if it runs one. -/
def Turn.scrape? (turn : Turn) : Option Supply :=
  match turn.cycle? with
  | some (.scrape, supply) => some supply
  | _ => none

/-- What the query gave to the scrapes of some turns. -/
def scrapesOf (turns : List Turn) : List Supply := turns.filterMap Turn.scrape?

/-- The listings among what a query gave. -/
def listingsOf (supplies : List Supply) : List Octets := supplies.filterMap Except.toOption

/-! ### What a turn does -/

theorem Route.ofTarget?_eq_some_iff {r : Request} {route : Route} :
    Route.ofTarget? r.target = some route ↔ r.path = route.path := by
  have found : ∀ route : Route, Route.all.find? (fun other => other.path = route.path) =
      some route := by
    intro route
    cases route <;> decide
  constructor
  · intro isRoute
    have own := List.find?_some isRoute
    exact (of_decide_eq_true own).symm
  · intro own
    rw [← found route, ← own]
    rfl

theorem Route.ofTarget?_eq_none_iff {r : Request} :
    Route.ofTarget? r.target = none ↔ ∀ route : Route, r.path ≠ route.path := by
  simp only [Option.eq_none_iff_forall_ne_some, ne_eq, Route.ofTarget?_eq_some_iff]

/-- A request does what the cycle of its turn does, and nothing if the turn runs none. -/
theorem State.respond_eq (state : State) (r : Request) :
    ∃ response, state.respond r =
      match (Turn.request r).cycle? with
      | none => ⟨state, response, []⟩
      | some (cycle, supply) =>
          ⟨(state.collect cycle supply).state, response, (state.collect cycle supply).events⟩ := by
  simp only [State.respond, Turn.cycle?]
  cases isRoute : Route.ofTarget? r.target with
  | none =>
      have notMetrics : r.path ≠ "/metrics".toList :=
        Route.ofTarget?_eq_none_iff.1 isRoute .metrics
      have notNodes : r.path ≠ "/nodes".toList := Route.ofTarget?_eq_none_iff.1 isRoute .nodes
      rw [if_neg notMetrics, if_neg notNodes, ite_self]
      exact ⟨_, rfl⟩
  | some route =>
      rw [Route.ofTarget?_eq_some_iff.1 isRoute]
      by_cases get : r.method = "GET".toList
      · have read : r.IsRead := Or.inl get
        simp only [if_pos get, if_pos read]
        cases route <;> exact ⟨_, rfl⟩
      · by_cases head : r.method = "HEAD".toList
        · have read : r.IsRead := Or.inr head
          simp only [if_neg get, if_pos head, if_pos read]
          cases route <;> exact ⟨_, rfl⟩
        · have other : ¬r.IsRead := not_or.2 ⟨get, head⟩
          simp only [if_neg get, if_neg head, if_neg other]
          exact ⟨_, rfl⟩

/-- A turn changes what its cycle changes, and nothing if it runs none. -/
theorem State.after_eq (state : State) (turn : Turn) :
    state.after turn =
      match turn.cycle? with
      | none => state
      | some (cycle, supply) => (state.collect cycle supply).state := by
  cases turn with
  | collect cycle supply => rfl
  | request r =>
      obtain ⟨response, answered⟩ := state.respond_eq r
      rw [State.after, answered]
      cases (Turn.request r).cycle? <;> rfl

/-- The counters behind a turn. -/
theorem State.counters_after (state : State) (turn : Turn) :
    (state.after turn).counters =
      match turn.scrape? with
      | none => state.counters
      | some (.error _) => state.counters.addFailure
      | some (.ok listing) => state.counters.addSurvey (survey listing) := by
  rw [State.after_eq, Turn.scrape?]
  cases turn.cycle? with
  | none => rfl
  | some run =>
      obtain ⟨cycle, supply⟩ := run
      cases cycle <;> cases supply <;> rfl

/-! ### What the counters tell -/

/-- The numbers of an exporter's work, as they follow from what the query gave to its scrapes. -/
structure Counters.Tell (c : Counters) (supplies : List Supply) : Prop where
  scrapes : c.scrapes.toNat = supplies.length % UInt64.size
  failures : c.failures.toNat = (supplies.countP fun supply => !supply.isOk) % UInt64.size
  decodeErrors : c.decodeErrors.toNat =
    ((listingsOf supplies).map fun listing => (survey listing).rejected.length).sum % UInt64.size
  conflicts : c.conflicts.toNat =
    ((listingsOf supplies).map fun listing => (survey listing).conflicts.length).sum % UInt64.size
  /-- Only the last listing counts for the nodes. -/
  nodes : c.nodes.toNat =
    ((listingsOf supplies).getLast?.elim 0 fun listing => (survey listing).roster.size) %
      UInt64.size

/-- A sum is right for what has been added to it. -/
theorem toNat_add_ofNat {sum : UInt64} {n : Nat} (told : sum.toNat = n % UInt64.size) (more : Nat) :
    (sum + UInt64.ofNat more).toNat = (n + more) % UInt64.size := by
  rw [UInt64.toNat_add, UInt64.toNat_ofNat', told, ← Nat.add_mod]

theorem Counters.Tell.zero : Counters.zero.Tell [] := by
  constructor <;> rfl

section step

variable {c : Counters} {supplies : List Supply} (told : c.Tell supplies)
include told

theorem Counters.Tell.addFailure (failure : Failure) :
    c.addFailure.Tell (supplies ++ [.error failure]) := by
  have same : listingsOf (supplies ++ [.error failure]) = listingsOf supplies := by
    simp [listingsOf, Except.toOption]
  constructor
  · rw [List.length_append]
    exact toNat_add_ofNat told.scrapes 1
  · rw [List.countP_append]
    exact toNat_add_ofNat told.failures 1
  · rw [same]
    exact told.decodeErrors
  · rw [same]
    exact told.conflicts
  · rw [same]
    exact told.nodes

theorem Counters.Tell.addSurvey (listing : Octets) :
    (c.addSurvey (survey listing)).Tell (supplies ++ [.ok listing]) := by
  have more : listingsOf (supplies ++ [.ok listing]) = listingsOf supplies ++ [listing] := by
    simp [listingsOf, Except.toOption]
  constructor
  · rw [List.length_append]
    exact toNat_add_ofNat told.scrapes 1
  · rw [List.countP_append]
    exact told.failures
  · rw [more, List.map_append, List.sum_append]
    exact toNat_add_ofNat told.decodeErrors _
  · rw [more, List.map_append, List.sum_append]
    exact toNat_add_ofNat told.conflicts _
  · rw [more, List.getLast?_concat]
    exact UInt64.toNat_ofNat'

end step

/-- One more turn keeps what the counters tell right. -/
theorem Counters.Tell.after {state : State} {turns : List Turn}
    (told : state.counters.Tell (scrapesOf turns)) (turn : Turn) :
    (state.after turn).counters.Tell (scrapesOf (turns ++ [turn])) := by
  rw [State.counters_after]
  cases scrape : turn.scrape? with
  | none =>
      have same : scrapesOf (turns ++ [turn]) = scrapesOf turns := by
        simp [scrapesOf, scrape]
      rw [same]
      exact told
  | some supply =>
      have more : scrapesOf (turns ++ [turn]) = scrapesOf turns ++ [supply] := by
        simp [scrapesOf, scrape]
      rw [more]
      cases supply with
      | error failure => exact told.addFailure failure
      | ok listing => exact told.addSurvey listing

theorem tell_run (exitOnFailure : Bool) (turns : List Turn) :
    ((State.start exitOnFailure).run turns).counters.Tell (scrapesOf turns) := by
  -- The turns that are done stand in front, because the counters tell of all of them.
  have pass (rest done : List Turn) (state : State)
      (told : state.counters.Tell (scrapesOf done)) :
      (state.run rest).counters.Tell (scrapesOf (done ++ rest)) := by
    induction rest generalizing done state with
    | nil => simpa using told
    | cons turn rest ih =>
        have next := ih (done ++ [turn]) (state.after turn) (told.after turn)
        simpa using next
  exact pass turns [] (State.start exitOnFailure) Counters.Tell.zero

/-! ### Nodes of the last listing -/

/-- A listing that can be held in memory. -/
def Fits (listing : Octets) : Prop := listing.length < UInt64.size / 2

instance (listing : Octets) : Decidable (Fits listing) :=
  inferInstanceAs (Decidable (listing.length < UInt64.size / 2))

/-- The nodes of a listing that can be held in memory are counted without a remainder. -/
theorem size_lt_of_fits {listing : Octets} (fits : Fits listing) :
    (survey listing).roster.size < UInt64.size := by
  have size := Listing.size_survey_le listing
  have rows := Listing.length_rowsOf_le listing
  have length : listing.length < UInt64.size / 2 := fits
  omega

/-- Behind every run the counters tell what the query gave to the scrapes of the run.  The nodes are
those of the last listing, all of them, and none if there was no listing.  A turn that runs no
scrape moves no counter. -/
theorem counters_tell_scrapes (exitOnFailure : Bool) (turns : List Turn) :
    let counters := ((State.start exitOnFailure).run turns).counters
    counters.Tell (scrapesOf turns) ∧
    ((listingsOf (scrapesOf turns)).getLast? = none → counters.nodes = 0) ∧
    (∀ listing, (listingsOf (scrapesOf turns)).getLast? = some listing → Fits listing →
      counters.nodes.toNat = (survey listing).roster.size) ∧
    ∀ turn, turn.scrape? = none →
      (((State.start exitOnFailure).run turns).after turn).counters = counters := by
  intro counters
  have told : counters.Tell (scrapesOf turns) := tell_run exitOnFailure turns
  refine ⟨told, ?_, ?_, ?_⟩
  · intro noListing
    have nodes := told.nodes
    rw [noListing] at nodes
    exact UInt64.toNat_inj.1 nodes
  · intro listing isLast fits
    have nodes := told.nodes
    rw [isLast] at nodes
    exact nodes.trans (Nat.mod_eq_of_lt (size_lt_of_fits fits))
  · intro turn noScrape
    rw [State.counters_after, noScrape]

/-- Two scrapes among turns that are none: one without a request that finds a node, and one by
`HEAD` whose query fails. -/
theorem counters_tell_scrapes_mixed :
    let listing : Octets := Text.utf8 "a 0 8 0/2/0/2 idle (null) (null)".toList
    let failure : Failure := .badEnding "sinfo".toList (some 1) []
    let post : Turn := .request ⟨"POST".toList, "/metrics".toList, .ok listing⟩
    let turns : List Turn :=
      [.collect .scrape (.ok listing), .request ⟨"GET".toList, "/nodes".toList, .ok []⟩,
       .request ⟨"HEAD".toList, "/metrics?all".toList, .error failure⟩,
       .collect .inspect (.error failure), .request ⟨"GET".toList, "/metrics/".toList, .ok []⟩]
    let exporter := (State.start true).run turns
    (listingsOf (scrapesOf turns)).getLast? = some listing ∧ Fits listing ∧
      exporter.counters.scrapes.toNat = 2 ∧ exporter.counters.failures.toNat = 1 ∧
      exporter.counters.nodes.toNat = (survey listing).roster.size ∧
      post.scrape? = none ∧ (exporter.after post).counters = exporter.counters := by
  intro listing failure post turns exporter
  have scrapes : scrapesOf turns = [.ok listing, .error failure] := rfl
  have isLast : (listingsOf (scrapesOf turns)).getLast? = some listing := rfl
  have fits : Fits listing := by decide
  have noScrape : post.scrape? = none := rfl
  obtain ⟨told, -, nodes, still⟩ := counters_tell_scrapes true turns
  refine ⟨isLast, fits, ?_, ?_, nodes listing isLast fits, noScrape, still post noScrape⟩
  · exact told.scrapes.trans (by rw [scrapes]; rfl)
  · exact told.failures.trans (by rw [scrapes]; rfl)

end NodeGauge.Exporter
