import FlightStream.Proofs.Dataflow.Reading
import FlightStream.Proofs.FlightJob.Layout
import FlightStream.Proofs.FlightJob.Windows

/-!
What the places of the flight job have sent, from the source to the three kinds of results. The
sightings that arrive become low-flying aircraft near an airport, `located`; these are gathered
into flights, and the flights into levels and emissions.
-/

namespace FlightStream.FlightJob

open Dataflow

/-- The time of the observation that an element is. -/
def Element.posTime : Element → Int
  | .sighting s => s.report.posTime
  | .located a => a.posTime
  | _ => 0

namespace Plan

variable (p : Plan)

/-- The low-flying aircraft near an airport that a sighting shows, if it shows one. -/
def nearby (s : Sighting) : Option ClassifiedAircraft :=
  if isLowAltitude p.ceiling s.report then (assignAirport p.reference p.radius s).toOption.join
  else none

variable {p}

theorem nearby_spec {s : Sighting} {a : ClassifiedAircraft} (shown : p.nearby s = some a) :
    a.toPositionReport = s.report ∧ IsLow p.ceiling (.located a) := by
  unfold nearby at shown
  split at shown
  · rename_i low
    cases airport : airportFor s.report.lon s.report.lat p.reference.airports p.radius with
    | error fault => simp [assignAirport, airport, bind, Except.bind, Except.toOption] at shown
    | ok name =>
      simp only [assignAirport, airport, bind, Except.bind, pure, Except.pure, Except.toOption,
        Option.join_some, Option.map_eq_some_iff] at shown
      obtain ⟨own, -, rfl⟩ := shown
      have report : (s.withAirport (some own)).toPositionReport = s.report := by cases s <;> rfl
      have named : (s.withAirport (some own)).airport = some own := by cases s <;> rfl
      simp only [isLowAltitude, Bool.and_eq_true, decide_eq_true_eq] at low
      rw [← report] at low
      exact ⟨report, _, rfl, low.1.2, low.2, by rw [named]; rfl⟩
  · cases shown

theorem isLow_of_mem {arrived : List Sighting} {e : Element}
    (member : e ∈ (arrived.filterMap p.nearby).map Element.located) : IsLow p.ceiling e := by
  obtain ⟨a, shown, rfl⟩ := List.mem_map.mp member
  obtain ⟨seen, -, found⟩ := List.mem_filterMap.mp shown
  exact (nearby_spec found).2

theorem posTime_locate {e made : Element} (found : p.locate e = .ok (some made)) :
    made.posTime = e.posTime := by
  cases e with
  | sighting s =>
    cases airport : airportFor s.report.lon s.report.lat p.reference.airports p.radius with
    | error fault => simp [locate, assignAirport, airport, bind, Except.bind, Except.map] at found
    | ok name =>
      simp only [locate, assignAirport, airport, bind, Except.bind, pure, Except.pure, Except.map,
        Except.ok.injEq, Option.map_eq_some_iff] at found
      obtain ⟨_, ⟨own, -, rfl⟩, rfl⟩ := found
      cases s <;> rfl
  | located a => cases found
  | flight entry => cases found
  | noise entry => cases found
  | emission entry => cases found
  | loudest entry => cases found
  | noiseLevel entry => cases found
  | totalEmission entry => cases found

/-- What the low altitude and the airport make of the sightings. -/
theorem flatMap_nearby (arrived : List Sighting) :
    ((arrived.map Element.sighting).flatMap fun e =>
        ((e.report.map (isLowAltitude p.ceiling)).map fun holds =>
          if holds then [e] else []).toOption.getD []).flatMap
      (fun e => ((p.locate e).map Option.toList).toOption.getD []) =
      (arrived.filterMap p.nearby).map .located := by
  rw [List.flatMap_map, List.flatMap_assoc]
  induction arrived with
  | nil => rfl
  | cons first rest ih =>
    rw [List.flatMap_cons, ih, List.filterMap_cons]
    simp only [Element.report, Except.map, Except.toOption, Option.getD_some, nearby]
    cases isLowAltitude p.ceiling first.report with
    | false => rfl
    | true =>
      simp only [if_true, List.flatMap_cons, List.flatMap_nil, List.append_nil, locate]
      cases assignAirport p.reference p.radius first with
      | error fault => rfl
      | ok found => cases found <;> rfl

end Plan

/-! ## From the source to the airport -/

section Places

variable {p : Plan} {σ : Type} {name : String} {script : Script Element}
  {sink : Operator Element σ} {capacity : Nat} {h : History 11 Element}
  (consistent : Consistent (p.network name script sink capacity) h) (room : 0 < capacity)
  (fresh : p.tracker.latest = .negInfinity)
  {arrived : List Sighting} (sent : h.sent 0 = arrived.map .sighting)

include consistent room fresh sent

/-- The origin of watermarks sends the sightings on, and watermarks that they stand to as told. -/
theorem orderly_watermarks (ok : Number → Int → Prop)
    (order : arrived.Pairwise fun a b =>
      ok (.int (a.report.posTime - p.tracker.lateness)) b.report.posTime) :
    Output.Orderly (fun time e => ok time e.posTime) (h.emitted 1) ∧
      h.sent 1 <+: arrived.map .sighting ∧ (h.Still → h.sent 1 = arrived.map .sighting) := by
  have drains := p.drains_network name script sink capacity room
  have sole := p.sole_network name script sink capacity (i := 0) (j := 1) (by decide) (by decide)
  obtain ⟨stream, part, handled, whole⟩ := consistent.exists_taken drains sole
  obtain ⟨-, ⟨closed, source⟩, -⟩ := consistent.exists_script (p.source_network name script sink capacity)
  rw [source, sent] at part
  obtain ⟨taken, done, taken_part, rfl⟩ := Output.exists_of_prefix part
  obtain ⟨first, first_part, rfl⟩ := List.prefix_map_iff.mp taken_part
  have timed : ∀ latest : Option Element, ∀ e ∈ first.map Element.sighting,
      (e.report.map fun r => Number.int r.posTime) = .ok (.int e.posTime) := by
    intro _ e member
    obtain ⟨s, -, rfl⟩ := List.mem_map.mp member
    rfl
  have apart : (first.map Element.sighting).Pairwise fun a b =>
      ok (.int (a.posTime - p.tracker.lateness)) b.posTime :=
    List.pairwise_map.mpr (order.sublist first_part.sublist)
  have ran := consistent.ran 1
  rw [p.role_network name script sink capacity (m := 1) rfl (by decide)] at ran
  obtain ⟨w, -, run⟩ := ran.of_worker
  rw [handled] at run
  have reads : Output.Orderly (fun time e => ok time e.posTime) (h.emitted 1) ∧
      Output.elements (h.emitted 1) = first.map .sighting := by
    have outputs : ((Worker.start p.watermarks 1).run p.watermarks _).outputs = h.emitted 1 :=
      congrArg Move.outputs run
    rw [← outputs]
    exact Operators.orderly_insertWatermarks "InsertWatermarks" fresh timed apart (some 0) done
  refine ⟨reads.1, ?_, fun still => ?_⟩
  · rw [History.sent, reads.2]
    exact first_part.map _
  · have elements := congrArg Output.elements (whole still)
    rw [Output.elements_marked, ← History.sent, sent] at elements
    rw [History.sent, reads.2, elements]

/-- The airport sends the aircraft that the sightings show, in order. -/
theorem orderly_located (ok : Number → Int → Prop)
    (order : arrived.Pairwise fun a b =>
      ok (.int (a.report.posTime - p.tracker.lateness)) b.report.posTime) :
    Output.Orderly (fun time e => ok time e.posTime) (h.emitted 3) ∧
      h.sent 3 <+: (arrived.filterMap p.nearby).map .located ∧
      (h.Still → h.sent 3 = (arrived.filterMap p.nearby).map .located) := by
  have drains := p.drains_network name script sink capacity room
  obtain ⟨first, first_part, first_whole⟩ :=
    orderly_watermarks consistent room fresh sent ok order
  obtain ⟨second, second_part, second_whole⟩ := consistent.answered drains
    (p.sole_network name script sink capacity (i := 1) (j := 2) (by decide) (by decide))
    (p.role_network name script sink capacity (m := 2) rfl (by decide)) first
    (fun time e => ok time e.posTime) fun time e answers told answered made member => by
      rw [Operators.eq_of_mem_filtered answered member]
      exact told
  obtain ⟨third, third_part, third_whole⟩ := consistent.answered drains
    (p.sole_network name script sink capacity (i := 2) (j := 3) (by decide) (by decide))
    (p.role_network name script sink capacity (m := 3) rfl (by decide)) second
    (fun time e => ok time e.posTime) fun time e answers told answered made member => by
      rw [Plan.posTime_locate (Operators.made_of_mem_mapped answered member)]
      exact told
  refine ⟨third, ?_, fun still => ?_⟩
  · rw [← p.flatMap_nearby]
    exact third_part.trans ((second_part.trans (first_part.flatMap _)).flatMap _)
  · rw [third_whole still, second_whole still, first_whole still]
    exact p.flatMap_nearby arrived

end Places

end FlightStream.FlightJob
