import FlightStream.Proofs.FlightJob.Aggregations
import FlightStream.Proofs.LeastSquares

/-!
The flight of one window: which of its sightings it is, and which direction it has. The sighting is
the last to arrive among those of the greatest time, `exists_latest`, so it depends on the order of
these alone, `latest?_congr`. The direction is that of the line through all sightings and does not
depend on any order.
-/

namespace FlightStream

/-! ## The last of the latest -/

section Latest

variable {α : Type} (timeOf : α → Int)

/-- The latest item is the last of those that have its time. -/
theorem getLast?_latest {items : List α} {latest : α}
    (chosen : latest? timeOf items = some latest) :
    (items.filter fun item => timeOf item = timeOf latest).getLast? = some latest := by
  have some_ : items ≠ [] := by
    rintro rfl
    cases chosen
  obtain ⟨before, last, after, rfl, picked, -, late⟩ := exists_latest timeOf some_
  obtain rfl : last = latest := Option.some.inj (picked.symm.trans chosen)
  have none : after.filter (fun item => timeOf item = timeOf last) = [] := by
    rw [List.filter_eq_nil_iff]
    exact fun item member => by simpa using (late item member).ne
  simp [List.filter_append, none]

/-- Two orders of some items have the same latest item if they agree on the items of the greatest
time. -/
theorem latest?_congr {items others : List α} (same : others.Perm items) {latest : α}
    (chosen : latest? timeOf items = some latest)
    (agree : (others.filter fun item => timeOf item = timeOf latest) =
      items.filter fun item => timeOf item = timeOf latest) :
    latest? timeOf others = some latest := by
  have some_ : items ≠ [] := by
    rintro rfl
    cases chosen
  obtain ⟨one, member, picked, bound⟩ := latest?_spec timeOf some_
  obtain rfl : one = latest := Option.some.inj (picked.symm.trans chosen)
  obtain ⟨other, also, found, limit⟩ :=
    latest?_spec timeOf fun none => some_ (same.symm.trans (none ▸ .nil)).eq_nil
  have tie : timeOf other = timeOf one :=
    le_antisymm (bound other (same.mem_iff.mp also)) (limit one (same.mem_iff.mpr member))
  have last := getLast?_latest timeOf found
  rw [tie, agree, getLast?_latest timeOf chosen] at last
  rw [found, Option.some.inj last]

end Latest

namespace FlightJob

/-- What is chosen and the slope make the flight. -/
theorem run_flight_of_slope {aircraft : List ClassifiedAircraft} {sample : ClassifiedAircraft}
    {slope : Float} (chosen : latest? (fun a => a.posTime) aircraft = some sample)
    (fitted : (LinearTrend.ofPoints (aircraft.map pointOf)).slope = .ok slope) :
    flightAggregation.run aircraft = .ok (sample.withDirection (.ofSlope slope)) := by
  rw [run_flight_eq, fitted]
  simp only [bind, Except.bind, assignVerticalDirection, chosen]
  rfl

/-- The line through aircraft is what `classify` makes of their times and altitudes. -/
theorem classify_aircraft (aircraft : List ClassifiedAircraft) :
    LinearTrend.classify (aircraft.map fun a => (.int a.posTime, .int a.alt)) =
      (LinearTrend.ofPoints (aircraft.map pointOf)).slope.map fun slope =>
        (slope, .ofSlope slope) := by
  have points : (aircraft.map fun a => (.int a.posTime, .int a.alt) : List (Number × Number)) =
      LinearTrend.samples (aircraft.map pointOf) := by
    rw [LinearTrend.samples, List.map_map]
    rfl
  rw [points, LinearTrend.classify, LinearTrend.ofSamples_samples]
  rfl

theorem slope_perm {aircraft others : List ClassifiedAircraft} (same : others.Perm aircraft) :
    (LinearTrend.ofPoints (others.map pointOf)).slope =
      (LinearTrend.ofPoints (aircraft.map pointOf)).slope := by
  have moved := same.map pointOf
  rw [LinearTrend.slope_ofPoints, LinearTrend.slope_ofPoints, LinearTrend.covariance_perm moved,
    LinearTrend.variance_perm moved]

/-- The flight of a window. Of aircraft with altitudes from zero to `2 ^ 63`, in any order, it is
the one of the greatest time, the last to arrive among those that share it, in every field but the
direction, which is the one that `classify` finds for the times and altitudes of all. No order of
them changes the direction, and none that keeps the order among those of the greatest time changes
the flight. -/
theorem flight_of_window {aircraft : List ClassifiedAircraft} (some_ : aircraft ≠ [])
    (inRange : ∀ a ∈ aircraft, 0 ≤ a.alt ∧ a.alt ≤ 2 ^ 63) :
    ∃ before sample after slope direction,
      aircraft = before ++ sample :: after ∧
      (∀ a ∈ before, a.posTime ≤ sample.posTime) ∧ (∀ a ∈ after, a.posTime < sample.posTime) ∧
      LinearTrend.classify (aircraft.map fun a => (.int a.posTime, .int a.alt)) =
        .ok (slope, direction) ∧
      flightAggregation.run aircraft = .ok { sample with direction := direction } ∧
      ∀ others : List ClassifiedAircraft, others.Perm aircraft →
        (∃ flight, flightAggregation.run others = .ok flight ∧ flight.direction = direction) ∧
        ((others.filter fun a => a.posTime = sample.posTime) =
            (aircraft.filter fun a => a.posTime = sample.posTime) →
          flightAggregation.run others = flightAggregation.run aircraft) := by
  have near : ∀ p ∈ aircraft.map pointOf, ∀ q ∈ aircraft.map pointOf,
      |q.2 - p.2| ≤ Binary64.greatest := by
    intro p one q other
    obtain ⟨a, present, rfl⟩ := List.mem_map.mp one
    obtain ⟨b, also, rfl⟩ := List.mem_map.mp other
    have range : (2 ^ 63 : Int) ≤ Binary64.greatest := by decide +kernel
    have := inRange a present
    have := inRange b also
    rw [abs_le]
    simp only [pointOf]
    constructor <;> omega
  obtain ⟨before, sample, after, split, chosen, early, late⟩ :=
    exists_latest (fun a => a.posTime) some_
  obtain ⟨slope, fitted⟩ := LinearTrend.exists_slope near
  have flight := run_flight_of_slope chosen fitted
  refine ⟨before, sample, after, slope, .ofSlope slope, split, early, late, ?_, flight,
    fun others same => ⟨?_, fun agree => ?_⟩⟩
  · rw [classify_aircraft, fitted]
    rfl
  · have some_others : others ≠ [] := fun none => some_ (same.symm.trans (none ▸ .nil)).eq_nil
    obtain ⟨_, other, _, -, picked, -⟩ := exists_latest (fun a => a.posTime) some_others
    exact ⟨_, run_flight_of_slope picked ((slope_perm same).trans fitted), rfl⟩
  · rw [flight]
    exact run_flight_of_slope (latest?_congr _ same chosen agree) ((slope_perm same).trans fitted)

/-- A sighting of an aircraft near Paris. -/
def nearParis (time altitude : Int) : ClassifiedAircraft :=
  ⟨⟨7, time, 48.9, 2.4, altitude, false, .medium, "A320"⟩, some "Paris", .unknown⟩

/-- Of three sightings, two share the greatest time, and the second of these arrives last; between
them comes an early one. -/
def crossing : List ClassifiedAircraft := [nearParis 60 900, nearParis 0 1500, nearParis 60 1000]

/-- The flight is a descent at the altitude that came last. -/
theorem flight_of_window_crossing :
    crossing ≠ [] ∧ (∀ a ∈ crossing, 0 ≤ a.alt ∧ a.alt ≤ 2 ^ 63) ∧
      flightAggregation.run crossing = .ok { nearParis 60 1000 with direction := .descending } ∧
      ∃ flight, flightAggregation.run crossing.reverse = .ok flight ∧
        flight.direction = .descending := by
  have inRange : ∀ a ∈ crossing, 0 ≤ a.alt ∧ a.alt ≤ 2 ^ 63 := by decide +kernel
  have some_ : crossing ≠ [] := List.cons_ne_nil _ _
  obtain ⟨before, sample, after, slope, direction, split, early, late, classified, flight,
    orders⟩ := flight_of_window some_ inRange
  have falls : (LinearTrend.classify
      (crossing.map fun a => (.int a.posTime, .int a.alt))).toOption.map (·.2) =
        some .descending := by decide +kernel
  rw [classified] at falls
  cases falls
  have last : sample = nearParis 60 1000 := by
    rcases before with _ | ⟨one, _ | ⟨other, rest⟩⟩ <;>
      simp only [crossing, List.nil_append, List.cons_append, List.cons.injEq] at split
    · obtain ⟨rfl, rfl⟩ := split
      exact absurd (late (nearParis 60 1000) (by simp)) (by decide +kernel)
    · obtain ⟨rfl, rfl, rfl⟩ := split
      exact absurd (early (nearParis 60 900) (by simp)) (by decide +kernel)
    · obtain ⟨-, -, tail⟩ := split
      rcases rest with _ | ⟨third, rest⟩
      · exact (List.cons.inj tail).1.symm
      · simp at tail
  rw [last] at flight
  exact ⟨some_, inRange, flight, (orders _ (List.reverse_perm _)).1⟩

end FlightJob

end FlightStream
