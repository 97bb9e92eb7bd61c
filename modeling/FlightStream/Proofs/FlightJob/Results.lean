import FlightStream.Proofs.FlightJob.Streams

/-!
The results of the flight job: the flights, and for each airport and window the greatest noise level
and the total emission of the flights of that airport whose stamp lies in the window.
-/

namespace FlightStream.FlightJob

open Dataflow

/-- The flight of an aircraft over one window, stamped with the end of that. -/
abbrev Flight := TimestampedEntry Int Int ClassifiedAircraft

/-- A flight with its noise level. -/
def Flight.noise (reference : ReferenceData) (f : Flight) : NoiseEntry :=
  ⟨f.timestamp, f.value, lookupNoise reference f.value⟩

/-- A flight with its emission. -/
def Flight.emission (reference : ReferenceData) (f : Flight) : EmissionEntry :=
  ⟨f.timestamp, f.value, lookupCo2 reference f.value.toPositionReport⟩

/-- The level of a loudest flight, if there is one. -/
def levelOf? (e : TimestampedEntry Int String (Option NoiseEntry)) :
    Option (TimestampedEntry Int String Int) :=
  e.value.map fun n => ⟨e.timestamp, e.key, n.value⟩

/-- The entries with a stamp and a key. -/
def stamped {κ ρ : Type} [BEq κ] (stamp : Int) (key : κ) (entries : List (TimestampedEntry Int κ ρ)) :
    List (TimestampedEntry Int κ ρ) :=
  entries.filter fun e => e.timestamp == stamp && e.key == key

/-- The flights of an airport in the window with this start. -/
def flightsAt (window : SlidingWindow) (start : Int) (airport : String) (flights : List Flight) :
    List Flight :=
  flights.filter fun f =>
    decide (f.value.airport = some airport ∧ start ≤ f.timestamp ∧ f.timestamp < window.endOf start)

/-! ## Windows over flights -/

section Windows

variable {window : SlidingWindow} {lateness start : Int} {reference : ReferenceData} {key : String}

theorem stamped_levels (loud : List (TimestampedEntry Int String (Option NoiseEntry))) :
    stamped (window.endOf start) key (loud.filterMap levelOf?) =
      ((loudest window lateness).aggregator.entriesAt start key loud).filterMap levelOf? := by
  have stamp : (loudest window lateness).aggregator.windowing.endOf start = window.endOf start :=
    rfl
  unfold stamped WindowAggregator.entriesAt
  rw [List.filter_filterMap, List.filterMap_filter, stamp]
  congr 1
  funext e
  unfold levelOf?
  cases e.value with
  | none => simp
  | some n => simp [Option.filter]

theorem levels_of_delivers {heard : List Flight}
    {entries : List (TimestampedEntry Int String (Option NoiseEntry))}
    (delivers : (loudest window lateness).Delivers start key
      (heard.map fun f => .noise (f.noise reference)) entries) :
    entries.filterMap levelOf? = (heard.map fun f => lookupNoise reference f.value).max?.toList.map
      fun level => ⟨window.endOf start, key, level⟩ := by
  cases heard with
  | nil =>
    have none : entries = [] := delivers
    rw [none]
    rfl
  | cons first rest =>
    obtain ⟨own, value, -, named, ran, rfl⟩ := delivers
    have noises : ((first :: rest).map fun f => Element.noise (f.noise reference)) =
        ((first :: rest).map (Flight.noise reference)).map .noise := by
      rw [List.map_map]
      rfl
    have run : loudestAggregation.run ((first :: rest).map (Flight.noise reference)) =
        .ok value := by
      have item : ∀ n : NoiseEntry, noiseOf (.noise n) = .ok n := fun _ => rfl
      rw [← run_onElements loudestAggregation item, ← noises]
      exact ran
    have some_ : (first :: rest).map (Flight.noise reference) ≠ [] := List.cons_ne_nil _ _
    obtain ⟨kept, -, greatest, level⟩ := run_loudest some_
    rw [greatest] at run
    cases run
    rw [List.map_map] at level
    have levels : ((first :: rest).map fun f => lookupNoise reference f.value).max? =
        some kept.value := level
    rw [levels, eq_of_beq named]
    rfl

/-- The levels with the stamp of a window and a key: the greatest level of the flights there. -/
theorem stamped_levels_eq {flights : List Flight}
    {loud : List (TimestampedEntry Int String (Option NoiseEntry))}
    (delivers : (loudest window lateness).Delivers start key
      ((flights.map fun f => Element.noise (f.noise reference)).filter fun e =>
        (loudest window lateness).covers e start key)
      ((loudest window lateness).aggregator.entriesAt start key loud)) :
    stamped (window.endOf start) key (loud.filterMap levelOf?) =
      ((flights.filter fun f => (loudest window lateness).covers
        (.noise (f.noise reference)) start key).map fun f =>
          lookupNoise reference f.value).max?.toList.map
        fun level => ⟨window.endOf start, key, level⟩ := by
  rw [List.filter_map] at delivers
  have handed : stamped (window.endOf start) key (loud.filterMap levelOf?) =
      ((loudest window lateness).aggregator.entriesAt start key loud).filterMap levelOf? :=
    stamped_levels loud
  rw [handed]
  exact levels_of_delivers delivers

theorem emissions_of_delivers {heard : List Flight}
    {entries : List (TimestampedEntry Int String Float)}
    (delivers : (totals window lateness).Delivers start key
      (heard.map fun f => .emission (f.emission reference)) entries) :
    entries = if heard = [] then [] else [⟨window.endOf start, key,
      (heard.map fun f => lookupCo2 reference f.value.toPositionReport).foldl (· + ·) 0⟩] := by
  cases heard with
  | nil => exact delivers
  | cons first rest =>
    obtain ⟨own, value, -, named, ran, rfl⟩ := delivers
    have emissions : ((first :: rest).map fun f => Element.emission (f.emission reference)) =
        ((first :: rest).map (Flight.emission reference)).map .emission := by
      rw [List.map_map]
      rfl
    have run : totalAggregation.run ((first :: rest).map (Flight.emission reference)) =
        .ok value := by
      have item : ∀ m : EmissionEntry, emissionOf (.emission m) = .ok m := fun _ => rfl
      rw [← run_onElements totalAggregation item, ← emissions]
      exact ran
    rw [run_total, List.map_map] at run
    cases run
    rw [if_neg (List.cons_ne_nil _ _), eq_of_beq named]
    rfl

/-- An element with an airport belongs to the windows around its time, under that airport. -/
theorem covers_airport {σ ρ : Type} {s : Sliding Element String σ ρ} {e : Element} {time : Int}
    {a : ClassifiedAircraft} {ending : String} (timed : s.timeOf e = .ok time)
    (keyed : s.keyOf e = .ok (Element.airportText a ++ ending)) (near : a.airport.isSome = true)
    (aligned : s.window.slide ∣ start) (airport : String) :
    s.covers e start (airport ++ ending) =
      decide (a.airport = some airport ∧ start ≤ time ∧ time < s.window.endOf start) := by
  obtain ⟨own, located⟩ := Option.isSome_iff_exists.mp near
  have text : Element.airportText a = own := by
    unfold Element.airportText
    rw [located]
    rfl
  have named : a.airport = some airport ↔ own = airport := by
    rw [located, Option.some.injEq]
  rw [text] at keyed
  rw [Bool.eq_iff_iff, decide_eq_true_iff, Sliding.covers_iff, named]
  constructor
  · rintro ⟨_, _, known, same, inside, matching⟩
    rw [timed] at known
    rw [keyed] at same
    cases known
    cases same
    have owned : own = airport := (String.append_left_inj ending).mp (eq_of_beq matching)
    exact ⟨owned, (s.window.mem_startsFor.mp inside).2⟩
  · rintro ⟨rfl, within⟩
    exact ⟨time, _, timed, keyed, s.window.mem_startsFor.mpr ⟨aligned, within⟩, BEq.rfl⟩

end Windows

/-! ## The second pass -/

section Places

variable {p : Plan} {σ : Type} {name : String} {script : Script Element}
  {sink : Operator Element σ} {capacity : Nat} {h : History 11 Element}
  (consistent : Consistent (p.network name script sink capacity) h) (room : 0 < capacity)

include consistent room

theorem noise_inTime {flights : List Flight} (gathers : h.Gathers 3 4
      (FlightJob.flights p.window p.lateness) .flight flights) :
    h.sent 5 <+: flights.map (fun f => .noise (f.noise p.reference)) ∧
      (h.Still → h.sent 5 = flights.map fun f => .noise (f.noise p.reference)) ∧
      ∃ loud, h.Gathers 5 6 (FlightJob.loudest p.window p.lateness) .loudest loud ∧
        h.InTime 5 6 "MaxNoise" (FlightJob.loudest p.window p.lateness) .loudest loud :=
  consistent.second_pass (p.drains_network name script sink capacity room)
    (p.sole_network name script sink capacity (i := 4) (j := 5) (by decide) (by decide))
    (p.sole_network name script sink capacity (i := 5) (j := 6) (by decide) (by decide))
    gathers (p.role_network name script sink capacity (m := 5) rfl (by decide)) (fun _ => rfl)
    (p.role_network name script sink capacity (m := 6) rfl (by decide)) (fun _ => rfl) rfl
    (sound_loudest p.window p.lateness) (folds_loudest p.window p.lateness)
    (fun f => ⟨Flight.noise p.reference f, rfl⟩)

theorem emission_inTime {flights : List Flight} (gathers : h.Gathers 3 4
      (FlightJob.flights p.window p.lateness) .flight flights) :
    h.sent 8 <+: flights.map (fun f => .emission (f.emission p.reference)) ∧
      (h.Still → h.sent 8 = flights.map fun f => .emission (f.emission p.reference)) ∧
      ∃ totals, h.Gathers 8 9 (FlightJob.totals p.window p.lateness) .totalEmission totals ∧
        h.InTime 8 9 "TotalCO2" (FlightJob.totals p.window p.lateness) .totalEmission totals :=
  consistent.second_pass (p.drains_network name script sink capacity room)
    (p.sole_network name script sink capacity (i := 4) (j := 8) (by decide) (by decide))
    (p.sole_network name script sink capacity (i := 8) (j := 9) (by decide) (by decide))
    gathers (p.role_network name script sink capacity (m := 8) rfl (by decide)) (fun _ => rfl)
    (p.role_network name script sink capacity (m := 9) rfl (by decide)) (fun _ => rfl) rfl
    (sound_totals p.window p.lateness) (folds_totals p.window p.lateness)
    (fun f => ⟨Flight.emission p.reference f, rfl⟩)

/-- The level place sends the levels of the loudest flights. -/
theorem levels_sent {loud : List (TimestampedEntry Int String (Option NoiseEntry))}
    (gathers : h.Gathers 5 6 (FlightJob.loudest p.window p.lateness) .loudest loud) :
    h.sent 7 <+: (loud.filterMap levelOf?).map .noiseLevel ∧
      (h.Still → h.sent 7 = (loud.filterMap levelOf?).map .noiseLevel) := by
  have made : (loud.map Element.loudest).flatMap (fun e =>
      ((Element.levelOnly e).map Option.toList).toOption.getD []) =
      (loud.filterMap levelOf?).map .noiseLevel := by
    rw [List.flatMap_map, List.map_filterMap, List.filterMap_eq_flatMap_toList]
    refine List.flatMap_congr fun e _ => ?_
    rcases e with ⟨stamp, key, value⟩
    cases value <;> rfl
  have answered := consistent.answered (p.drains_network name script sink capacity room)
    (p.sole_network name script sink capacity (i := 6) (j := 7) (by decide) (by decide))
    (p.role_network name script sink capacity (m := 7) rfl (by decide)) gathers.orderly
    (fun _ _ => True) fun _ _ _ _ _ _ _ => trivial
  rw [gathers.sent, made] at answered
  exact answered.2

/-- The flights that were sent, each of an aircraft near an airport. -/
theorem flights_sent {ceiling : Int} (bound : ceiling ≤ Binary64.greatest) {ok : Number → Element → Prop}
    (orderly : Output.Orderly ok (h.emitted 3)) (low : ∀ e ∈ h.sent 3, IsLow ceiling e) :
    ∃ flights : List Flight, h.Gathers 3 4 (FlightJob.flights p.window p.lateness) .flight flights ∧
      (∀ f ∈ flights, f.value.airport.isSome = true) ∧
      (Output.Orderly (FlightJob.flights p.window p.lateness).Timely (h.emitted 3) →
        h.InTime 3 4 "VerticalDirection" (FlightJob.flights p.window p.lateness) .flight flights) := by
  obtain ⟨flights, gathers, inTime⟩ := consistent.gathers
    (p.drains_network name script sink capacity room)
    (p.sole_network name script sink capacity (i := 3) (j := 4) (by decide) (by decide))
    (p.role_network name script sink capacity (m := 4) rfl (by decide))
    (sound_flights p.window p.lateness bound) (folds_flights p.window p.lateness ceiling) orderly
    low
  refine ⟨flights, gathers, fun f member => ?_, inTime⟩
  obtain ⟨items, some_, came, ran⟩ := gathers.results f member
  obtain ⟨latest, slope, present, result⟩ := run_flights p.window p.lateness bound some_
    fun e present => low e (came e present)
  obtain ⟨a, same, -, -, near⟩ := low _ (came _ present)
  cases same
  rw [result] at ran
  rw [← Except.ok.inj ran]
  exact near

end Places

end FlightStream.FlightJob
