import FlightStream.Proofs.FlightJob.Aggregations
import FlightStream.Proofs.Windows.Folding

/-!
The three windowed aggregations of the flight job, and the elements that they never fail on.
-/

namespace FlightStream.FlightJob

/-- A sighting near an airport, of an aircraft in the air and below the ceiling. -/
def IsLow (ceiling : Int) (e : Element) : Prop :=
  ∃ a : ClassifiedAircraft, e = .located a ∧ 0 < a.alt ∧ a.alt < ceiling ∧ a.airport.isSome

/-- A flight with its noise level. -/
def IsNoise (e : Element) : Prop := ∃ n : NoiseEntry, e = .noise n

/-- A flight with its emission. -/
def IsEmission (e : Element) : Prop := ∃ m : EmissionEntry, e = .emission m

variable (window : SlidingWindow) (lateness : Int)

/-- Flights by aircraft. -/
def flights : Sliding Element Int (List ClassifiedAircraft × LinearTrend) ClassifiedAircraft :=
  ⟨window, lateness, fun e => e.aircraft.map (·.posTime), fun e => e.aircraft.map (·.id),
    onElements flightAggregation Element.aircraft, Writing.whole⟩

/-- The loudest flight by airport. -/
def loudest : Sliding Element String (Option NoiseEntry) (Option NoiseEntry) :=
  ⟨window, lateness, fun e => (noiseOf e).map (·.timestamp),
    fun e => (noiseOf e).map fun n => Element.airportText n.key ++ Element.noiseEnding,
    onElements loudestAggregation noiseOf, fun name => .ok (Text.quoted name)⟩

/-- The total emission by airport. -/
def totals : Sliding Element String Float Float :=
  ⟨window, lateness, fun e => (emissionOf e).map (·.timestamp),
    fun e => (emissionOf e).map fun m => Element.airportText m.key ++ Element.emissionEnding,
    onElements totalAggregation emissionOf, fun name => .ok (Text.quoted name)⟩

/-- Low-flying aircraft always have a flight: one of them, with a direction. -/
theorem run_flights {ceiling : Int} (bound : ceiling ≤ Binary64.greatest) {items : List Element}
    (some_ : items ≠ []) (low : ∀ e ∈ items, IsLow ceiling e) :
    ∃ latest slope, .located latest ∈ items ∧
      (flights window lateness).aggregation.run items =
        .ok (latest.withDirection (.ofSlope slope)) := by
  obtain ⟨aircraft, rfl, all⟩ := exists_map_of_forall low
  have some_' : aircraft ≠ [] := fun none => some_ (by rw [none]; rfl)
  obtain ⟨latest, slope, member, -, -, ran⟩ :=
    run_flight bound some_' fun a present => ⟨(all a present).1, (all a present).2.1⟩
  exact ⟨latest, slope, List.mem_map.mpr ⟨latest, member, rfl⟩,
    (run_onElements flightAggregation (fun _ => rfl) aircraft).trans ran⟩

theorem sound_flights {ceiling : Int} (bound : ceiling ≤ Binary64.greatest) :
    (flights window lateness).Sound (IsLow ceiling) where
  time := by
    rintro e ⟨a, rfl, -⟩
    exact ⟨a.posTime, rfl⟩
  key := by
    rintro e ⟨a, rfl, -⟩
    exact ⟨a.id, rfl⟩
  run items some_ low := by
    obtain ⟨latest, slope, -, ran⟩ := run_flights window lateness bound some_ low
    exact ⟨_, ran⟩

/-- Taking aircraft never fails, whatever their altitude. -/
theorem folds_flights (ceiling : Int) : (flights window lateness).Folds (IsLow ceiling)
    fun acc => ∃ points, acc.2 = LinearTrend.ofPoints points where
  time := by
    rintro e ⟨a, rfl, -⟩
    exact ⟨a.posTime, rfl⟩
  key := by
    rintro e ⟨a, rfl, -⟩
    exact ⟨a.id, rfl⟩
  create := ⟨[], rfl⟩
  step := by
    rintro e ⟨a, rfl, -⟩ ⟨taken, _⟩ ⟨points, rfl⟩
    exact ⟨_, step_flight taken points a, _, rfl⟩

theorem sound_loudest : (loudest window lateness).Sound IsNoise where
  time := by
    rintro e ⟨n, rfl⟩
    exact ⟨n.timestamp, rfl⟩
  key := by
    rintro e ⟨n, rfl⟩
    exact ⟨_, rfl⟩
  run items some_ all := by
    obtain ⟨entries, rfl, -⟩ := exists_map_of_forall (Q := fun _ => True) fun e member =>
      (all e member).imp fun n same => ⟨same, trivial⟩
    have some_' : entries ≠ [] := fun none => some_ (by rw [none]; rfl)
    obtain ⟨kept, -, ran, -⟩ := run_loudest some_'
    exact ⟨_, (run_onElements loudestAggregation (fun _ => rfl) entries).trans ran⟩

theorem sound_totals : (totals window lateness).Sound IsEmission where
  time := by
    rintro e ⟨m, rfl⟩
    exact ⟨m.timestamp, rfl⟩
  key := by
    rintro e ⟨m, rfl⟩
    exact ⟨_, rfl⟩
  run items _ all := by
    obtain ⟨entries, rfl, -⟩ := exists_map_of_forall (Q := fun _ => True) fun e member =>
      (all e member).imp fun m same => ⟨same, trivial⟩
    exact ⟨_, (run_onElements totalAggregation (fun _ => rfl) entries).trans (run_total entries)⟩

theorem folds_loudest : (loudest window lateness).Folds IsNoise fun _ => True where
  time := (sound_loudest window lateness).time
  key := (sound_loudest window lateness).key
  create := trivial
  step := by
    rintro e ⟨n, rfl⟩ (_ | kept) - <;> exact ⟨_, rfl, trivial⟩

theorem folds_totals : (totals window lateness).Folds IsEmission fun _ => True where
  time := (sound_totals window lateness).time
  key := (sound_totals window lateness).key
  create := trivial
  step := by
    rintro e ⟨m, rfl⟩ sum -
    exact ⟨_, rfl, trivial⟩

end FlightStream.FlightJob
