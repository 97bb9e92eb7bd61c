import FlightStream.Proofs.FlightJob.Results

/-!
The second pass over windows, `second_pass_complete`. Flights are sent before the watermark that
closed their window, and their stamp is the end of that window. So no flight is ever late where the
levels and the emissions are gathered, and both results are over all flights of an airport.
-/

namespace FlightStream.FlightJob

open Dataflow

theorem Plan.ofSettings_spec {s : Settings} (reference : ReferenceData)
    (slides : 0 < s.windowSlideMs) (fits : s.windowSlideMs ≤ s.windowSizeMs)
    (bounded : 0 ≤ s.allowedLatenessMs) :
    ∃ p : Plan, Plan.ofSettings s reference = .ok p ∧ p.tracker.latest = .negInfinity ∧
      p.tracker.lateness = s.allowedLatenessMs ∧ p.lateness = s.windowAllowedLatenessMs ∧
      p.ceiling = s.lowAltitudeCeilingFt ∧ p.window.size = s.windowSizeMs ∧
      p.window.slide = s.windowSlideMs ∧ p.reference = reference := by
  have positive : 0 < s.windowSizeMs ∧ 0 < s.windowSlideMs := ⟨by omega, slides⟩
  have window : SlidingWindow.define? s.windowSizeMs s.windowSlideMs =
      .ok ⟨s.windowSizeMs, s.windowSlideMs, slides, fits⟩ := by
    rw [SlidingWindow.define?, dif_pos positive, dif_pos fits]
  have tracker : WatermarkTracker.create? s.allowedLatenessMs =
      .ok ⟨s.allowedLatenessMs, .negInfinity, bounded⟩ := by
    rw [WatermarkTracker.create?, dif_pos bounded]
  refine ⟨⟨reference, s.airportRadiusMiles, s.lowAltitudeCeilingFt, ⟨_, _, slides, fits⟩,
    ⟨_, .negInfinity, bounded⟩, s.windowAllowedLatenessMs⟩, ?_, rfl, rfl, rfl, rfl, rfl, rfl, rfl⟩
  rw [Plan.ofSettings, window, tracker]

/-- The results for the airports in a stream of flights: the greatest level and the sum of the
emissions, from left to right, of the flights of the airport in the window; none without flights. -/
structure Totalled (p : Plan) (flights : List Flight)
    (levels : List (TimestampedEntry Int String Int))
    (totals : List (TimestampedEntry Int String Float)) : Prop where
  level : ∀ airport start, p.window.slide ∣ start →
    stamped (p.window.endOf start) (airport ++ Element.noiseEnding) levels =
      ((flightsAt p.window start airport flights).map fun f =>
        lookupNoise p.reference f.value).max?.toList.map fun level =>
          ⟨p.window.endOf start, airport ++ Element.noiseEnding, level⟩
  total : ∀ airport start, p.window.slide ∣ start →
    stamped (p.window.endOf start) (airport ++ Element.emissionEnding) totals =
      if flightsAt p.window start airport flights = [] then []
      else [⟨p.window.endOf start, airport ++ Element.emissionEnding,
        ((flightsAt p.window start airport flights).map fun f =>
          lookupCo2 p.reference f.value.toPositionReport).foldl (· + ·) 0⟩]

/-- What the flight job has come to once nothing can step any more: every flight went through both
branches, and the results are over all flights. -/
structure Delivered (p : Plan) (h : History 11 Element) (flights : List Flight)
    (levels : List (TimestampedEntry Int String Int))
    (totals : List (TimestampedEntry Int String Float)) : Prop where
  flown : h.sent 4 = flights.map .flight
  noise : h.took 6 = flights.map fun f => .noise (f.noise p.reference)
  emission : h.took 9 = flights.map fun f => .emission (f.emission p.reference)
  loudest : h.sent 7 = levels.map .noiseLevel
  summed : h.sent 9 = totals.map .totalEmission
  totalled : Totalled p flights levels totals

/-- The level of an airport and window over flights near airports: the greatest one of the flights
there. -/
theorem level_of_delivers {p : Plan} {flights : List Flight}
    (near : ∀ f ∈ flights, f.value.airport.isSome = true)
    {loud : List (TimestampedEntry Int String (Option NoiseEntry))} {airport : String} {start : Int}
    (aligned : p.window.slide ∣ start)
    (delivers : (FlightJob.loudest p.window p.lateness).Delivers start
      (airport ++ Element.noiseEnding)
      ((flights.map fun f => Element.noise (f.noise p.reference)).filter fun e =>
        (FlightJob.loudest p.window p.lateness).covers e start (airport ++ Element.noiseEnding))
      ((FlightJob.loudest p.window p.lateness).aggregator.entriesAt start
        (airport ++ Element.noiseEnding) loud)) :
    stamped (p.window.endOf start) (airport ++ Element.noiseEnding) (loud.filterMap levelOf?) =
      ((flightsAt p.window start airport flights).map fun f =>
        lookupNoise p.reference f.value).max?.toList.map fun level =>
          ⟨p.window.endOf start, airport ++ Element.noiseEnding, level⟩ := by
  have members : flights.filter (fun f => (FlightJob.loudest p.window p.lateness).covers
      (.noise (f.noise p.reference)) start (airport ++ Element.noiseEnding)) =
      flightsAt p.window start airport flights := by
    refine List.filter_congr fun f member => ?_
    exact covers_airport (s := FlightJob.loudest p.window p.lateness)
      (e := .noise (f.noise p.reference)) rfl rfl (near f member) aligned airport
  rw [stamped_levels_eq delivers, members]

/-- The results over the flights that were sent. -/
theorem totalled {p : Plan} {h : History 11 Element} (still : h.Still) {flights : List Flight}
    (near : ∀ f ∈ flights, f.value.airport.isSome = true)
    {loud : List (TimestampedEntry Int String (Option NoiseEntry))}
    (noise : h.sent 5 = flights.map fun f => .noise (f.noise p.reference))
    (loudest : h.InTime 5 6 "MaxNoise" (FlightJob.loudest p.window p.lateness) .loudest loud)
    {totals : List (TimestampedEntry Int String Float)}
    (emission : h.sent 8 = flights.map fun f => .emission (f.emission p.reference))
    (total : h.InTime 8 9 "TotalCO2" (FlightJob.totals p.window p.lateness) .totalEmission totals) :
    Totalled p flights (loud.filterMap levelOf?) totals where
  level airport start aligned := by
    have delivers := loudest.delivers still start (airport ++ Element.noiseEnding)
    rw [noise] at delivers
    exact level_of_delivers near aligned delivers
  total airport start aligned := by
    have delivers := total.delivers still start (airport ++ Element.emissionEnding)
    have members : flights.filter ((fun e => (FlightJob.totals p.window p.lateness).covers e start
        (airport ++ Element.emissionEnding)) ∘ fun f => .emission (f.emission p.reference)) =
        flightsAt p.window start airport flights := by
      refine List.filter_congr fun f member => ?_
      exact covers_airport (s := FlightJob.totals p.window p.lateness)
        (e := .emission (f.emission p.reference)) rfl rfl (near f member) aligned airport
    rw [emission, List.filter_map, members] at delivers
    exact emissions_of_delivers delivers

/-- No flight is ever late in the second pass. Whatever sightings arrive, in whatever order, and
however the places of the flight job take turns: the noise and emission windows take every flight
into all of its windows and count none as late. Every run comes to an end, and then each airport has
in each window one level and one total over exactly its flights there, or none without flights. -/
theorem second_pass_complete {s : Settings} (reference : ReferenceData)
    (slides : 0 < s.windowSlideMs) (fits : s.windowSlideMs ≤ s.windowSizeMs)
    (bounded : 0 ≤ s.allowedLatenessMs) (ceiling : s.lowAltitudeCeilingFt ≤ Binary64.greatest)
    {script : Script Element} (sightings : ∀ e ∈ script.elements, ∃ seen, e = .sighting seen)
    {σ : Type} (name : String) (sink : Operator Element σ) (capacity : Nat)
    (room : 0 < capacity) :
    ∃ p, Plan.ofSettings s reference = .ok p ∧
      ∀ h, Reached (p.network name script sink capacity) h →
        h.NothingLate 6 "MaxNoise" (noiseWindows p.window p.lateness) .loudest ∧
        h.NothingLate 9 "TotalCO2" (emissionWindows p.window p.lateness) .totalEmission ∧
        (∃ final, Relation.ReflTransGen History.Moves h final ∧ final.Still) ∧
        (h.Still → ∃ flights levels totals, Delivered p h flights levels totals) := by
  obtain ⟨p, planned, fresh, -, -, below, -⟩ := Plan.ofSettings_spec reference slides fits bounded
  refine ⟨p, planned, fun h reached => ?_⟩
  have drains := p.drains_network name script sink capacity room
  have consistent := reached.consistent drains.fresh
  obtain ⟨part, -⟩ := consistent.exists_script (p.source_network name script sink capacity)
  obtain ⟨arrived, sent, -⟩ := exists_map_of_forall (f := Element.sighting) (Q := fun _ => True)
    fun e member => (sightings e (part.subset member)).imp fun _ same => ⟨same, trivial⟩
  obtain ⟨orderly, low_part, -⟩ := orderly_located consistent room fresh sent
    (fun _ _ => True) (List.pairwise_of_forall fun _ _ => trivial)
  have low : ∀ e ∈ h.sent 3, IsLow p.ceiling e := fun e member =>
    Plan.isLow_of_mem (low_part.subset member)
  obtain ⟨flights, gathers, near, -⟩ := flights_sent consistent room (below ▸ ceiling) orderly low
  obtain ⟨-, noise, loud, levels, loudest⟩ := noise_inTime consistent room gathers
  obtain ⟨-, emission, totals, sums, total⟩ := emission_inTime consistent room gathers
  refine ⟨loudest.nothingLate, total.nothingLate, reached.exists_still drains, fun still => ?_⟩
  have sixth := consistent.took_of_still drains
    (p.sole_network name script sink capacity (i := 5) (j := 6) (by decide) (by decide)) still
  have ninth := consistent.took_of_still drains
    (p.sole_network name script sink capacity (i := 8) (j := 9) (by decide) (by decide)) still
  exact ⟨flights, _, totals, ⟨gathers.sent, sixth.trans (noise still),
    ninth.trans (emission still), (levels_sent consistent room levels).2 still, sums.sent,
    totalled still near (noise still) loudest (emission still) total⟩⟩

theorem default_ceiling : ({} : Settings).lowAltitudeCeilingFt ≤ Binary64.greatest := by
  decide +kernel

/-- A sighting of one aircraft near London. -/
def climbing (posTime alt : Int) : Sighting :=
  .plain ⟨42, posTime, 51.5, -0.4, alt, false, .medium, "A320"⟩

/-- An aircraft that climbs. -/
def climb : Script Element :=
  ⟨[⟨[.sighting (climbing 0 1000)], [], false⟩, ⟨[.sighting (climbing 30000 1500)], [], true⟩,
    ⟨[.sighting (climbing 60000 2000)], [], false⟩], none⟩

/-- With the default settings the job comes to an end on the climb, with all its results. -/
theorem second_pass_complete_climb :
    ∃ p, Plan.ofSettings {} .standard = .ok p ∧
      ∃ final, Reached (p.network "climb" climb (Operators.recorder "sink" .never) 100) final ∧
        final.NothingLate 6 "MaxNoise" (noiseWindows p.window p.lateness) .loudest ∧
        ∃ flights levels totals, Delivered p final flights levels totals := by
  have sightings : ∀ e ∈ climb.elements, ∃ seen, e = .sighting seen := by
    intro e member
    have own : e ∈ [climbing 0 1000, climbing 30000 1500, climbing 60000 2000].map .sighting :=
      member
    obtain ⟨seen, -, rfl⟩ := List.mem_map.mp own
    exact ⟨seen, rfl⟩
  obtain ⟨p, planned, all⟩ := second_pass_complete (s := {}) .standard (by decide) (by decide)
    (by decide) default_ceiling sightings "climb" (Operators.recorder "sink" .never) 100
    (by decide)
  obtain ⟨-, -, ⟨final, run, still⟩, -⟩ := all _ .start
  have reached := Reached.start.run run
  exact ⟨p, planned, final, reached, (all final reached).1, (all final reached).2.2.2 still⟩

end FlightStream.FlightJob
