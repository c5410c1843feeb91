/-
Module: NodeGauge.Proofs.Exposition.ReadBack
Purpose: The page of some observations reads back as these observations, gauge by gauge.  Escaping
  a label's value in one pass is the same as three replacements, and what is escaped stays inside
  its quotes and on its line.
Main exports: Exposition.readObservations, Exposition.regrouped, Exposition.IsRegrouping,
  Exposition.StaysQuoted, Exposition.observations_read_back
-/
import Mathlib.Data.List.Basic
import NodeGauge.Proofs.Exposition.Observation
import NodeGauge.Proofs.Exposition.Reader

namespace NodeGauge.Exposition

/-! ### Escaped values -/

/-- A text with every occurrence of a character replaced. -/
def replaceAll (c : Char) (replacement s : Text) : Text :=
  s.flatMap fun d => if d = c then replacement else [d]

/-- The escaped value, written by three replacements over the whole value.  The escape mark comes
first: the marks that the other two put in are not escaped again. -/
def escapedInPasses (v : Text) : Text :=
  replaceAll '\n' ['\\', 'n'] (replaceAll '"' ['\\', '"'] (replaceAll '\\' ['\\', '\\'] v))

theorem escapedInPasses_eq (v : Text) : escapedInPasses v = v.flatMap escaped := by
  have pieces : ∀ c : Char, escapedInPasses [c] = escaped c := by
    intro c
    rw [escaped.eq_def]
    split
    · rfl
    · rfl
    · rfl
    · next noMark noQuote noFeed =>
        have notMark : c ≠ '\\' := noMark
        have notQuote : c ≠ '"' := noQuote
        have notFeed : c ≠ '\n' := noFeed
        simp [escapedInPasses, replaceAll, notMark, notQuote, notFeed]
  induction v with
  | nil => rfl
  | cons c v ih =>
      have front : escapedInPasses (c :: v) = escapedInPasses [c] ++ escapedInPasses v := by
        simp [escapedInPasses, replaceAll]
      rw [front, pieces, ih, List.flatMap_cons]

/-- What a label's value cannot do from inside its quotes. -/
structure StaysQuoted (v : Text) : Prop where
  /-- The value does not end its line. -/
  oneLine : '\n' ∉ escapedInPasses v
  /-- No part of the value ends the quotes. -/
  inside : ∀ metric labels key front, front <+: escapedInPasses v →
    ∃ s, (Stage.quoted metric labels key []).run front = some s ∧ s.IsInside metric labels key
  /-- The reader takes in the value as it was. -/
  whole : ∀ metric labels key,
    (Stage.quoted metric labels key []).run (escapedInPasses v) =
      some (.quoted metric labels key v)

theorem staysQuoted (v : Text) : StaysQuoted v where
  oneLine := by
    rw [escapedInPasses_eq]
    exact feed_not_mem_flatMap_escaped v
  inside := by
    intro metric labels key front isFront
    rw [escapedInPasses_eq] at isFront
    exact Stage.isInside_of_prefix metric labels isFront
  whole := by
    intro metric labels key
    rw [escapedInPasses_eq, Stage.run_quoted, List.nil_append]

/-! ### Names of gauges -/

theorem Gauge.name_injective {g h : Gauge} (same : g.name = h.name) : g = h := by
  have distinct : ∀ a ∈ all, ∀ b ∈ all, a.name = b.name → a = b := by decide
  exact distinct g (mem_all g) h (mem_all h) same

theorem Gauge.isMetricName_name (g : Gauge) : isMetricName g.name = true := by
  have names : ∀ a ∈ all, isMetricName a.name = true := by decide
  exact names g (mem_all g)

theorem Gauge.feed_not_mem_help (g : Gauge) : '\n' ∉ g.help := by
  have helps : ∀ a ∈ all, '\n' ∉ a.help := by decide
  exact helps g (mem_all g)

/-- The gauge of a name. -/
def Gauge.named? (name : Text) : Option Gauge := all.find? (·.name = name)

theorem Gauge.named?_name (g : Gauge) : named? g.name = some g := by
  have named : ∀ a ∈ all, named? a.name = some a := by decide
  exact named g (mem_all g)

/-! ### Observations read back -/

/-- What a reader sees of an observation. -/
def Observation.reading (o : Observation) : Reading := ⟨o.gauge.name, o.labels, o.value⟩

/-- The observation behind what a reader sees, if its metric is a gauge. -/
def Reading.observation? (r : Reading) : Option Observation :=
  (Gauge.named? r.metric).map fun g => ⟨g, r.labels, r.value⟩

/-- Read the observations of a page. -/
def readObservations (s : Text) : Option (List Observation) :=
  (readSamples s).bind fun readings => readings.mapM Reading.observation?

/-- The keys of the labels are names. -/
def HasLabelNames (observations : List Observation) : Prop :=
  ∀ o ∈ observations, ∀ l ∈ o.labels, isLabelName l.key = true

instance (observations : List Observation) : Decidable (HasLabelNames observations) :=
  inferInstanceAs (Decidable (∀ o ∈ observations, ∀ l ∈ o.labels, isLabelName l.key = true))

/-- The observations gauge by gauge. -/
def regrouped (observations : List Observation) : List Observation :=
  Gauge.all.flatMap fun g => observations.filter (·.gauge = g)

theorem observation?_reading (o : Observation) : o.reading.observation? = some o := by
  simp [Reading.observation?, Observation.reading, Gauge.named?_name]

theorem family?_eq_some {observations : List Observation} {g : Gauge} {f : Family}
    (shown : family? observations g = some f) :
    observations.filter (·.gauge = g) ≠ [] ∧
      f = ⟨g.name, g.help, .gauge,
        (observations.filter (·.gauge = g)).map fun o => ⟨some o.labels, o.value⟩⟩ := by
  simp only [family?] at shown
  split at shown
  · exact absurd shown (by simp)
  · next full => exact ⟨by simpa using full, (Option.some.inj shown).symm⟩

theorem isReadable_of_mem_families {observations : List Observation}
    (hasNames : HasLabelNames observations) : ∀ f ∈ families observations, f.IsReadable := by
  intro f member
  obtain ⟨g, -, shown⟩ := List.mem_filterMap.1 member
  obtain ⟨-, rfl⟩ := family?_eq_some shown
  refine ⟨g.isMetricName_name, g.feed_not_mem_help, ?_⟩
  intro s among own labels
  obtain ⟨o, kept, rfl⟩ := List.mem_map.1 among
  obtain rfl := Option.some.inj labels
  exact hasNames o (List.mem_filter.1 kept).1

theorem gauge_of_mem_filter {observations : List Observation} {g : Gauge} {o : Observation}
    (kept : o ∈ observations.filter (·.gauge = g)) : o.gauge = g :=
  of_decide_eq_true (List.mem_filter.1 kept).2

theorem readings_of_family? {observations : List Observation} {g : Gauge} {f : Family}
    (shown : family? observations g = some f) :
    f.readings = (observations.filter (·.gauge = g)).map Observation.reading := by
  obtain ⟨-, rfl⟩ := family?_eq_some shown
  rw [Family.readings, List.map_map]
  apply List.map_congr_left
  intro o kept
  have own : o.gauge = g := gauge_of_mem_filter kept
  simp [Sample.reading, Observation.reading, own]

theorem readings_families (observations : List Observation) :
    (families observations).flatMap Family.readings =
      (regrouped observations).map Observation.reading := by
  have one : ∀ g, (family? observations g).toList.flatMap Family.readings =
      (observations.filter (·.gauge = g)).map Observation.reading := by
    intro g
    cases shown : family? observations g with
    | none =>
        have empty : observations.filter (·.gauge = g) = [] := by
          simpa [family?] using shown
        rw [empty]
        rfl
    | some f =>
        rw [Option.toList_some, List.flatMap_singleton]
        exact readings_of_family? shown
  rw [families, regrouped, List.map_flatMap, List.filterMap_eq_flatMap_toList, List.flatMap_assoc]
  exact congrArg (Gauge.all.flatMap ·) (funext one)

theorem readObservations_render {observations : List Observation}
    (hasNames : HasLabelNames observations) :
    readObservations (families observations).render = some (regrouped observations) := by
  have back : ((regrouped observations).map Observation.reading).mapM Reading.observation? =
      some ((regrouped observations).map id) :=
    mapM_map fun o _ => observation?_reading o
  rw [readObservations, readSamples_render (isReadable_of_mem_families hasNames),
    readings_families, Option.bind_some, back, List.map_id]

/-! ### Regrouping -/

/-- The result holds the same observations, gauge by gauge, and within a gauge in their order. -/
structure IsRegrouping (observations result : List Observation) : Prop where
  /-- None is lost, and none is shown twice. -/
  perm : result.Perm observations
  /-- The gauges follow each other in the order of pages. -/
  grouped : result.Pairwise fun a b => Gauge.all.idxOf a.gauge ≤ Gauge.all.idxOf b.gauge
  stable : ∀ g, result.filter (·.gauge = g) = observations.filter (·.gauge = g)

theorem filter_regrouped (observations : List Observation) (g : Gauge) :
    (regrouped observations).filter (·.gauge = g) = observations.filter (·.gauge = g) := by
  have one : ∀ h, (observations.filter (·.gauge = h)).filter (·.gauge = g) =
      if h = g then observations.filter (·.gauge = g) else [] := by
    intro h
    rw [List.filter_filter]
    split
    · next same =>
        subst same
        simp
    · next other =>
        apply List.filter_eq_nil_iff.2
        intro o _ both
        simp only [Bool.and_eq_true, decide_eq_true_eq] at both
        exact other (both.2.symm.trans both.1)
  rw [regrouped, List.filter_flatMap, funext one]
  cases g <;> simp [Gauge.all]

theorem perm_of_filter_eq {observations result : List Observation}
    (stable : ∀ g, result.filter (·.gauge = g) = observations.filter (·.gauge = g)) :
    result.Perm observations := by
  rw [List.perm_iff_count]
  intro o
  have own (os : List Observation) : (os.filter (·.gauge = o.gauge)).count o = os.count o := by
    apply List.count_filter
    exact decide_eq_true rfl
  rw [← own result, stable, own]

theorem isRegrouping_regrouped (observations : List Observation) :
    IsRegrouping observations (regrouped observations) where
  perm := perm_of_filter_eq (filter_regrouped observations)
  grouped := by
    rw [regrouped, List.pairwise_flatMap]
    have ascending : Gauge.all.Pairwise fun g h => Gauge.all.idxOf g ≤ Gauge.all.idxOf h := by
      decide
    constructor
    · intro g _
      apply List.pairwise_of_forall_mem_list
      intro a inA b inB
      have gaugeA : a.gauge = g := gauge_of_mem_filter inA
      have gaugeB : b.gauge = g := gauge_of_mem_filter inB
      exact Nat.le_of_eq (by rw [gaugeA, gaugeB])
    · apply ascending.imp
      intro g h before a inA b inB
      have gaugeA : a.gauge = g := gauge_of_mem_filter inA
      have gaugeB : b.gauge = h := gauge_of_mem_filter inB
      rw [gaugeA, gaugeB]
      exact before
  stable := filter_regrouped observations

theorem render_families_eq_iff {first second : List Observation} (firstNames : HasLabelNames first)
    (secondNames : HasLabelNames second) :
    (families first).render = (families second).render ↔
      ∀ g, first.filter (·.gauge = g) = second.filter (·.gauge = g) := by
  constructor
  · intro same g
    have readFirst := readObservations_render firstNames
    rw [same, readObservations_render secondNames] at readFirst
    rw [← filter_regrouped first, ← filter_regrouped second, Option.some.inj readFirst]
  · intro same
    have sameFamily : family? first = family? second := by
      funext g
      simp only [family?, same g]
    rw [families, families, sameFamily]

/-! ### The keys in use -/

theorem hasLabelNames_observe (roster : Node.Roster) : HasLabelNames (observe roster) := by
  have ofNode : ∀ key ∈ nodeKeys, isLabelName key = true := by decide
  have ofGpu : ∀ key ∈ gpuKeys, isLabelName key = true := by decide
  intro o member l among
  have isKey : l.key ∈ o.labels.map Label.key := List.mem_map_of_mem among
  rcases keys_of_mem_observe o member with keys | keys
  · exact ofNode l.key (keys ▸ isKey)
  · exact ofGpu l.key (keys ▸ isKey)

/-! ### The page says neither less nor more -/

/-- The page of some observations reads back as these observations, gauge by gauge, whatever their
labels say; so two pages are the same only if they show the same of each gauge. -/
theorem observations_read_back :
    (∀ roster, HasLabelNames (observe roster)) ∧
    (∀ v, escapedInPasses v = v.flatMap escaped ∧ StaysQuoted v) ∧
    (∀ observations, HasLabelNames observations →
      readObservations (families observations).render = some (regrouped observations) ∧
        IsRegrouping observations (regrouped observations)) ∧
    ∀ first second, HasLabelNames first → HasLabelNames second →
      ((families first).render = (families second).render ↔
        ∀ g, first.filter (·.gauge = g) = second.filter (·.gauge = g)) := by
  refine ⟨hasLabelNames_observe, ?_, ?_, ?_⟩
  · intro v
    exact ⟨escapedInPasses_eq v, staysQuoted v⟩
  · intro observations hasNames
    exact ⟨readObservations_render hasNames, isRegrouping_regrouped observations⟩
  · intro first second firstNames secondNames
    exact render_families_eq_iff firstNames secondNames

/-- A value that tries to end its quotes and its line, and a value that looks like an escaped line
end. -/
theorem observations_read_back_marks :
    let total : Observation := ⟨.gpuTotal, [⟨"node".toList, ['"', '\x7d', '\n', 'a', '\\']⟩], 4⟩
    let idle : Observation := ⟨.cpuIdle, [⟨"node".toList, ['\\', 'n']⟩], 7⟩
    HasLabelNames [total, idle] ∧
      readObservations (families [total, idle]).render = some [idle, total] ∧
      (families [total, idle]).render = (families [idle, total]).render := by
  intro total idle
  have names : HasLabelNames [total, idle] := by decide
  have swapped : HasLabelNames [idle, total] := by decide
  have order : regrouped [total, idle] = [idle, total] := by decide
  refine ⟨names, ?_, ?_⟩
  · rw [(observations_read_back.2.2.1 _ names).1, order]
  · rw [observations_read_back.2.2.2 _ _ names swapped]
    intro g
    cases g <;> decide

end NodeGauge.Exposition
