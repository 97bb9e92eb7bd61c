import FlightStream.Proofs.Dataflow.Unfailing
import FlightStream.Proofs.Graphite.Sink
import FlightStream.Proofs.Number.Binary64

/-!
When the operators that pipelines are built from never fail. Operators without state do not fail on
elements that their functions have an answer for, and windows not on elements that nothing in them
fails on. The origin of watermarks needs times which are in the range of floats together with the
lateness, since it publishes what it sends, and so what it sends can be written; and a sink needs a
metric for each element, and a link that breaks only in ways which are dealt with.
-/

namespace FlightStream

/-- Whole numbers up to the greatest float have a nearest float. -/
theorem Number.exists_toFloat {i : Int} (small : |i| ≤ Binary64.greatest) :
    ∃ x, (Number.int i).toFloat = .ok x := by
  have size : i.natAbs ≤ Binary64.greatest * 1 := by
    rw [Int.abs_eq_natAbs] at small
    rw [Nat.mul_one]
    exact Int.ofNat_le.mp small
  obtain ⟨x, rounded⟩ := Binary64.isSome_ofRatio? (decide (i < 0)) Nat.one_pos size
  refine ⟨x, ?_⟩
  rw [Number.toFloat, Binary64.ofInt?, rounded]

/-- Whole numbers in the range of floats can be written. -/
theorem Writing.writable_int {i : Int} (small : |i| ≤ Binary64.greatest) : Writable (.int i) := by
  have range : Binary64.greatest < (bound : Int) := by decide +kernel
  refine exists_whole_iff.mpr (fits_iff.mpr ?_)
  rw [Int.abs_eq_natAbs] at small
  exact Int.ofNat_lt.mp (small.trans_lt range)

namespace Dataflow.Operators

variable {α : Type} {P Q : α → Prop}

/-! ## One element at a time -/

theorem unfailing_perElement (name : String) {answer : α → Except Fault (List α)}
    (answers : ∀ value, P value → ∃ values, answer value = .ok values ∧ ∀ made ∈ values, Q made) :
    (perElement name answer).Unfailing P Q fun _ => True where
  start := trivial
  element _ state value _ _ ok := by
    obtain ⟨values, answered, good⟩ := answers value ok
    simp only [perElement, answered]
    refine ⟨rfl, rfl, trivial, fun output member => ?_⟩
    obtain ⟨made, present, rfl⟩ := List.mem_map.mp member
    exact good made present
  advanced _ _ _ := Reaction.unfailing_none trivial
  finish _ _ _ := Reaction.unfailing_none trivial

theorem unfailing_map (name : String) {f : α → Except Fault (Option α)}
    (makes : ∀ value, P value → ∃ result, f value = .ok result ∧ ∀ made ∈ result, Q made) :
    (map name f).Unfailing P Q fun _ => True :=
  unfailing_perElement name fun value ok => by
    obtain ⟨result, made, good⟩ := makes value ok
    refine ⟨result.toList, by rw [made]; rfl, fun own member => ?_⟩
    exact good own (Option.mem_toList.mp member)

theorem unfailing_filter (name : String) {p : α → Except Fault Bool}
    (judges : ∀ value, P value → ∃ holds, p value = .ok holds ∧ (holds = true → Q value)) :
    (filter name p).Unfailing P Q fun _ => True :=
  unfailing_perElement name fun value ok => by
    obtain ⟨holds, judged, good⟩ := judges value ok
    refine ⟨if holds then [value] else [], by rw [judged]; rfl, fun made member => ?_⟩
    cases holds with
    | false => cases member
    | true => exact List.mem_singleton.mp member ▸ good rfl

/-! ## The origin of watermarks -/

/-- A clock that has seen only times which are in the range of floats together with the lateness. -/
structure Clock.Within (behind : Int) (c : Clock α) : Prop where
  lateness : c.tracker.lateness = behind
  latest : c.tracker.latest = .negInfinity ∨
    ∃ time : Int, c.tracker.latest = .int time ∧ |time| + behind ≤ Binary64.greatest

/-- A clock that has observed a time tells one in the range of floats, less the lateness. -/
theorem Clock.Within.tracker {behind time : Int} {c : Clock α} (within : c.Within behind)
    (near : |time| + behind ≤ Binary64.greatest) :
    (c.tracker.observe (.int time)).lateness = behind ∧
      ∃ seen : Int, (c.tracker.observe (.int time)).latest = .int seen ∧
        |seen| + behind ≤ Binary64.greatest := by
  unfold WatermarkTracker.observe
  split
  · exact ⟨within.lateness, time, rfl, near⟩
  · rename_i known
    rcases within.latest with bottom | seen
    · rw [bottom] at known
      exact absurd (Number.negInfinity_lt_int _) known
    · exact ⟨within.lateness, seen⟩

theorem Clock.Within.observe {behind time : Int} {c : Clock α} (within : c.Within behind)
    (near : |time| + behind ≤ Binary64.greatest) (name : String) {value : α} (good : Q value) :
    (c.observe name value (.int time)).Unfailing Q (Clock.Within behind) := by
  obtain ⟨lateness, seen, latest, bound⟩ := within.tracker near
  have nonneg : 0 ≤ behind := lateness ▸ (c.tracker.observe (.int time)).lateness_nonneg
  have current : (c.tracker.observe (.int time)).current = .ok (.int (seen - behind)) := by
    rw [WatermarkTracker.current, latest, lateness]
    rfl
  have small : |seen - behind| ≤ Binary64.greatest := by
    refine le_trans (abs_sub _ _) ?_
    rwa [abs_of_nonneg nonneg]
  obtain ⟨x, published⟩ := Number.exists_toFloat small
  have kept : ∀ next : Clock α, next.tracker = c.tracker.observe (.int time) →
      next.Within behind := by
    intro next same
    exact ⟨by rw [same, lateness], .inr ⟨seen, by rw [same, latest], bound⟩⟩
  have sent : (Output.element value).Good Q := good
  have told : (Output.watermark (.int (seen - behind))).Good Q := Writing.writable_int small
  unfold Clock.observe
  simp only [current, published]
  split
  · exact ⟨rfl, rfl, kept _ rfl, List.forall_mem_cons.mpr ⟨sent, List.forall_mem_singleton.mpr told⟩⟩
  · exact ⟨rfl, rfl, kept _ rfl, List.forall_mem_singleton.mpr sent⟩

/-- The origin of watermarks never fails on times in the range of floats. -/
theorem unfailing_insertWatermarks (name : String) {timeOf : Option α → α → Except Fault Number}
    {tracker : WatermarkTracker} (fresh : tracker.latest = .negInfinity)
    (timed : ∀ latest value, P value → ∃ time : Int, timeOf latest value = .ok (.int time) ∧
      |time| + tracker.lateness ≤ Binary64.greatest) :
    (insertWatermarks name timeOf tracker).Unfailing P P (Clock.Within tracker.lateness) where
  start := ⟨rfl, .inl fresh⟩
  element _ c value _ within ok := by
    obtain ⟨time, known, near⟩ := timed c.latest value ok
    simp only [insertWatermarks, known]
    exact within.observe near name ok
  advanced _ _ within := Reaction.unfailing_none within
  finish _ _ within := Reaction.unfailing_none within

/-! ## Windows -/

section Windows

variable {κ σ ρ : Type}

theorem errorFree_windowEffects (name : String) (before after : OpenWindows Int κ σ) :
    Effect.ErrorFree (windowEffects (α := α) name before after) := by
  unfold windowEffects Effect.ErrorFree
  rw [Effect.changes_append]
  split <;> split <;> rfl

/-- Sending the entries of windows that were closed without a failure. -/
theorem unfailing_send (name : String) {A : Int → σ → Prop} {R : TimestampedEntry Int κ ρ → Prop}
    {wrap : TimestampedEntry Int κ ρ → α} (wraps : ∀ entry, R entry → Q (wrap entry))
    (o : OpenWindows Int κ σ)
    {answer : OpenWindows Int κ σ × Except Fault (List (TimestampedEntry Int κ ρ))}
    (good : answer.1.Every A ∧ ∃ entries, answer.2 = .ok entries ∧ ∀ entry ∈ entries, R entry) :
    (window.send name wrap o answer).Unfailing Q (OpenWindows.Every · A) := by
  obtain ⟨next, _⟩ := answer
  obtain ⟨every, entries, rfl, right⟩ := good
  refine ⟨rfl, errorFree_windowEffects name o next, every, fun output member => ?_⟩
  obtain ⟨entry, present, rfl⟩ := List.mem_map.mp member
  exact wraps entry (right entry present)

/-- A windowed operator never fails where nothing in its windows does. -/
theorem unfailing_window [BEq κ] {s : Sliding α κ σ ρ} {reach : Nat} {A : σ → Prop} {R : ρ → Prop}
    (name : String) (unfailing : s.Unfailing reach P A R) {wrap : TimestampedEntry Int κ ρ → α}
    (wraps : ∀ entry, s.Stamped reach R entry → Q (wrap entry)) :
    (window name s.aggregator wrap).Unfailing P Q (OpenWindows.Every · (s.Within reach A)) where
  start := OpenWindows.every_empty
  element time o value shown every ok := by
    obtain ⟨still, took, folded⟩ := unfailing.accumulate ok every (shown rfl)
    have answer : s.aggregator.accumulate time o value =
        ((s.aggregator.accumulate time o value).1, .ok took) := Prod.ext rfl folded
    simp only [window]
    rw [answer]
    exact Reaction.unfailing_silent (errorFree_windowEffects name o _) still
  advanced time o every :=
    unfailing_send name wraps o (s.aggregator.close_of_good unfailing.finishes every _)
  finish _ o every :=
    unfailing_send name wraps o (s.aggregator.close_of_good unfailing.finishes every _)

end Windows

/-! ## Sinks -/

variable {metricOf : α → Except Fault (Option Metric)}

/-- Printing never fails on elements that have a metric, or are known to have none. -/
theorem unfailing_console (name lead : String)
    (metrics : ∀ value, P value → ∃ metric, metricOf value = .ok metric) :
    (console name lead metricOf).Unfailing P Q fun _ => True where
  start := trivial
  element _ _ value _ _ ok := by
    obtain ⟨metric, known⟩ := metrics value ok
    simp only [console, known]
    cases metric with
    | none => exact Reaction.unfailing_none trivial
    | some metric => exact Reaction.unfailing_silent rfl trivial
  advanced _ _ _ := Reaction.unfailing_none trivial
  finish _ _ _ := Reaction.unfailing_none trivial

section Delivering

variable {ω τ : Type} (name : String) (config : Graphite.Config τ)

theorem errorFree_incidents (incidents : List Graphite.Incident) :
    Effect.ErrorFree (α := α) (incidents.flatMap (incidentEffects name config)) := by
  have each : ∀ incident, Effect.ErrorFree (α := α) (incidentEffects name config incident) := by
    intro incident
    unfold incidentEffects Effect.ErrorFree
    rw [Effect.changes_append, Graphite.changes_warned, List.append_nil]
    cases incident <;> rfl
  unfold Effect.ErrorFree Effect.changes
  rw [List.filterMap_flatMap]
  exact List.flatMap_eq_nil_iff.mpr fun incident _ => each incident

theorem unfailing_settle (observe : ω → ω × List Traffic) {step : Graphite.Step ω τ}
    (handled : step.failure = none) :
    (graphite.settle name config observe step).Unfailing Q fun _ => True where
  failure := handled
  effects := by
    unfold graphite.settle Effect.ErrorFree
    rw [Effect.changes_append, Graphite.changes_carried]
    exact errorFree_incidents name config step.incidents
  state := trivial
  sends _ member := absurd member List.not_mem_nil

/-- The delivering sink never fails on elements with metrics, over a link that breaks only in ways
which it deals with. -/
theorem unfailing_graphite [Add τ] [LT τ] [DecidableLT τ] [OfNat τ 0] {link : Graphite.Link ω τ}
    (handled : link.Handled) (network : ω) (observe : ω → ω × List Traffic)
    (metrics : ∀ value, P value → ∃ metric, metricOf value = .ok metric) :
    (graphite name config link network observe metricOf).Unfailing P Q fun _ => True where
  start := trivial
  element _ s value _ _ ok := by
    obtain ⟨metric, known⟩ := metrics value ok
    simp only [graphite, known]
    cases metric with
    | none => exact Reaction.unfailing_none trivial
    | some metric =>
      exact unfailing_settle name config observe
        (Graphite.Delivery.flush_failure handled config _ _)
  advanced _ _ _ := Reaction.unfailing_none trivial
  finish _ s _ := unfailing_settle name config observe
    (Graphite.Delivery.finish_spec handled config s.delivery s.link).2

end Delivering

end Dataflow.Operators

end FlightStream
