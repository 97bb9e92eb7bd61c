import FlightStream.Proofs.FlightJob.SecondPass

/-!
Bounded disorder, `bounded_disorder`. Sightings that come at most the allowed lateness behind an
earlier one are all in time for the windows of the first pass, so that these hand out the flights
over all of them; and where no aircraft is seen twice at one time, the flights and the levels do not
depend on the order in which the sightings came.
-/

namespace FlightStream

/-! ## Deliveries up to order -/

namespace Sliding

variable {α κ σ ρ : Type} [BEq κ] [LawfulBEq κ] {s : Sliding α κ σ ρ}

/-- Two deliveries of one window and key whose items come to the same are the same. -/
theorem Delivers.unique {start : Int} {key : κ} {items others : List α}
    {entries given : List (TimestampedEntry Int κ ρ)}
    (delivers : s.Delivers start key items entries) (also : s.Delivers start key others given)
    (count : items.length = others.length)
    (same : s.aggregation.run items = s.aggregation.run others) : entries = given := by
  rcases items with _ | ⟨first, rest⟩ <;> rcases others with _ | ⟨second, remainder⟩
  · have none : entries = [] := delivers
    have empty : given = [] := also
    rw [none, empty]
  · cases count
  · cases count
  · obtain ⟨own, value, -, named, ran, rfl⟩ := delivers
    obtain ⟨other, result, -, called, run, rfl⟩ := also
    rw [eq_of_beq named, eq_of_beq called]
    rw [same, run] at ran
    rw [Except.ok.inj ran]

end Sliding

theorem max?_eq_of_perm {xs ys : List Int} (same : xs.Perm ys) : xs.max? = ys.max? := by
  cases greatest : ys.max? with
  | none =>
    rw [List.max?_eq_none_iff] at greatest ⊢
    rw [greatest] at same
    exact same.eq_nil
  | some level =>
    obtain ⟨member, bound⟩ := List.max?_eq_some_iff.mp greatest
    exact List.max?_eq_some_iff.mpr
      ⟨same.mem_iff.mpr member, fun other present => bound other (same.mem_iff.mp present)⟩

namespace FlightJob

open Dataflow

/-- Entries that agree for every stamp and key are the same up to order. -/
theorem perm_of_stamped {κ ρ : Type} [BEq κ] [LawfulBEq κ]
    {entries others : List (TimestampedEntry Int κ ρ)}
    (same : ∀ stamp key, stamped stamp key entries = stamped stamp key others) :
    entries.Perm others := by
  classical
  refine List.perm_iff_count.mpr fun entry => ?_
  have counts : ∀ list : List (TimestampedEntry Int κ ρ),
      list.count entry = (stamped entry.timestamp entry.key list).count entry := by
    intro list
    unfold stamped
    rw [List.count_filter]
    rw [BEq.rfl, BEq.rfl]
    rfl
  rw [counts entries, counts others, same]

/-! ## The first pass -/

section Places

variable {p : Plan} {σ : Type} {name : String} {script : Script Element}
  {sink : Operator Element σ} {capacity : Nat} {h : History 11 Element}

/-- Sightings that come at most the allowed lateness behind an earlier one are in time for the
flights. -/
theorem timely_located (consistent : Consistent (p.network name script sink capacity) h)
    (room : 0 < capacity) (fresh : p.tracker.latest = .negInfinity) {arrived : List Sighting}
    (sent : h.sent 0 = arrived.map .sighting) (lateness : 0 ≤ p.lateness)
    (disorder : arrived.Pairwise fun a b =>
      a.report.posTime ≤ b.report.posTime + p.tracker.lateness) :
    Output.Orderly (FlightJob.flights p.window p.lateness).Timely (h.emitted 3) ∧
      h.sent 3 <+: (arrived.filterMap p.nearby).map .located ∧
      (h.Still → h.sent 3 = (arrived.filterMap p.nearby).map .located) := by
  have order : arrived.Pairwise fun a b =>
      (Number.int (a.report.posTime - p.tracker.lateness)).lt
        (.int (b.report.posTime + p.lateness + 1)) = true := by
    refine disorder.imp fun {a b} behind => ?_
    exact (Number.lt_int_iff _ _).mpr (by omega)
  obtain ⟨orderly, located⟩ := orderly_located consistent room fresh sent
    (fun time own => time.lt (.int (own + p.lateness + 1)) = true) order
  refine ⟨orderly.mono fun time e told own timed => ?_, located⟩
  cases e with
  | located a =>
    cases timed
    exact told
  | sighting s => cases timed
  | flight entry => cases timed
  | noise entry => cases timed
  | emission entry => cases timed
  | loudest entry => cases timed
  | noiseLevel entry => cases timed
  | totalEmission entry => cases timed

/-- Where low altitudes are within the range of floats, so are those near the airports. -/
theorem low_located {arrived : List Sighting} (heights : ∀ seen ∈ arrived,
      seen.report.alt < p.ceiling → seen.report.alt < Binary64.greatest)
    (part : h.sent 3 <+: (arrived.filterMap p.nearby).map .located) :
    ∀ e ∈ h.sent 3, IsLow Binary64.greatest e := by
  intro e member
  obtain ⟨a, shown, rfl⟩ := List.mem_map.mp (part.subset member)
  obtain ⟨seen, came, found⟩ := List.mem_filterMap.mp shown
  obtain ⟨report, other, same, above, below, near⟩ := Plan.nearby_spec found
  cases same
  have altitude : a.alt = seen.report.alt := congrArg PositionReport.alt report
  have low := heights seen came (altitude ▸ below)
  exact ⟨a, rfl, above, altitude ▸ low, near⟩

end Places

/-! ## Two runs -/

section Runs

variable {window : SlidingWindow} {lateness : Int}

/-- The flights over aircraft that are never seen twice at one time do not depend on the order in
which these came. -/
theorem flights_perm {low others : List ClassifiedAircraft}
    (same : low.Perm others)
    (distinct : low.Pairwise fun a b => a.id = b.id → a.posTime ≠ b.posTime)
    {entries given : List Flight}
    (delivers : ∀ start key, (flights window lateness).Delivers start key
      ((low.map Element.located).filter fun e => (flights window lateness).covers e start key)
      ((flights window lateness).aggregator.entriesAt start key entries))
    (also : ∀ start key, (flights window lateness).Delivers start key
      ((others.map Element.located).filter fun e => (flights window lateness).covers e start key)
      ((flights window lateness).aggregator.entriesAt start key given)) :
    entries.Perm given := by
  refine perm_of_stamped fun stamp key => ?_
  have end_ : (flights window lateness).aggregator.windowing.endOf (stamp - window.size) = stamp :=
    Int.sub_add_cancel _ _
  have one := delivers (stamp - window.size) key
  have other := also (stamp - window.size) key
  rw [List.filter_map] at one other
  unfold WindowAggregator.entriesAt at one other
  rw [end_] at one other
  have members := same.filter ((fun e =>
    (flights window lateness).covers e (stamp - window.size) key) ∘ Element.located)
  refine one.unique other (by simpa using members.length_eq) ?_
  have apart : (low.filter ((fun e => (flights window lateness).covers e (stamp - window.size) key) ∘
      Element.located)).Pairwise fun a b => a.posTime ≠ b.posTime := by
    refine (distinct.filter _).imp_of_mem fun {a b} first second apart => apart ?_
    have covered : ∀ c ∈ low.filter ((fun e =>
        (flights window lateness).covers e (stamp - window.size) key) ∘ Element.located),
        c.id = key := by
      intro c member
      have own : (flights window lateness).covers (.located c) (stamp - window.size) key = true :=
        (List.mem_filter.mp member).2
      exact eq_of_beq (Sliding.key_of_covers own rfl)
    exact (covered a first).trans (covered b second).symm
  have item : ∀ a : ClassifiedAircraft, Element.aircraft (.located a) = .ok a := fun _ => rfl
  calc (flights window lateness).aggregation.run _
      = flightAggregation.run _ := run_onElements flightAggregation item _
    _ = flightAggregation.run _ := run_flight_perm members apart
    _ = (flights window lateness).aggregation.run _ :=
      (run_onElements flightAggregation item _).symm

/-- The levels over flights do not depend on the order of these. -/
theorem levels_perm {reference : ReferenceData} {entries given : List Flight}
    (same : entries.Perm given) {loud others : List (TimestampedEntry Int String (Option NoiseEntry))}
    (delivers : ∀ start key, (loudest window lateness).Delivers start key
      ((entries.map fun f => Element.noise (f.noise reference)).filter fun e =>
        (loudest window lateness).covers e start key)
      ((loudest window lateness).aggregator.entriesAt start key loud))
    (also : ∀ start key, (loudest window lateness).Delivers start key
      ((given.map fun f => Element.noise (f.noise reference)).filter fun e =>
        (loudest window lateness).covers e start key)
      ((loudest window lateness).aggregator.entriesAt start key others)) :
    (loud.filterMap levelOf?).Perm (others.filterMap levelOf?) := by
  refine perm_of_stamped fun stamp key => ?_
  have end_ : window.endOf (stamp - window.size) = stamp := Int.sub_add_cancel _ _
  have one := stamped_levels_eq (delivers (stamp - window.size) key)
  have other := stamped_levels_eq (also (stamp - window.size) key)
  rw [end_] at one other
  have levels := (same.filter fun f => (loudest window lateness).covers
    (.noise (f.noise reference)) (stamp - window.size) key).map fun f =>
      lookupNoise reference f.value
  rw [one, other, max?_eq_of_perm levels]

end Runs

/-! ## Disorder -/

theorem Plan.of_ofSettings {s : Settings} {reference : ReferenceData} {p : Plan}
    (planned : Plan.ofSettings s reference = .ok p) :
    p.tracker.latest = .negInfinity ∧ p.tracker.lateness = s.allowedLatenessMs ∧
      p.lateness = s.windowAllowedLatenessMs ∧ p.ceiling = s.lowAltitudeCeilingFt := by
  unfold Plan.ofSettings at planned
  split at planned
  · cases planned
  · split at planned
    · cases planned
    · rename_i tracker created
      unfold WatermarkTracker.create? at created
      split at created
      · cases created
        cases planned
        exact ⟨rfl, rfl, rfl, rfl⟩
      · cases created

/-- The flight job over sightings, at some time of some run into some sink. -/
def Plan.Over (p : Plan) (arrived : List Sighting) (h : History 11 Element) : Prop :=
  ∃ (σ : Type) (name : String) (script : Script Element) (sink : Operator Element σ)
    (capacity : Nat), 0 < capacity ∧ script.elements = arrived.map .sighting ∧
      Reached (p.network name script sink capacity) h

/-- The flight job at the end of a run in which all sightings came. -/
structure Plan.Completes (p : Plan) (arrived : List Sighting) (h : History 11 Element) : Prop where
  ran : p.Over arrived h
  still : h.Still
  whole : h.sent 0 = arrived.map .sighting

/-- Every run that nobody stops completes. -/
theorem Plan.exists_completes (p : Plan) {arrived : List Sighting} {σ : Type} (name : String)
    (script : Script Element) (sink : Operator Element σ) (capacity : Nat) (room : 0 < capacity)
    (elements : script.elements = arrived.map .sighting) {h : History 11 Element}
    (run : Relation.ReflTransGen History.Moves
      (.start (p.network name script sink capacity)) h) :
    ∃ final, Relation.ReflTransGen History.Moves h final ∧ p.Completes arrived final := by
  have drains := p.drains_network name script sink capacity room
  have reached := Reached.start.run run
  obtain ⟨final, onward, still⟩ := reached.exists_still drains
  have reaches := reached.run onward
  have consistent := reaches.consistent drains.fresh
  have fresh : ∀ i, ((p.network name script sink capacity).cell i).role.Unstopped := by
    intro i
    rw [p.cell_network]
    cases (p.parts name script sink capacity).get i with
    | source name script => exact ⟨fun _ => rfl, fun finished => nomatch finished⟩
    | operator op room => trivial
  have unstopped := History.unstopped_run (run.trans onward) fresh 0
  have finished := consistent.finished_of_still drains still 0
  have whole := (consistent.exists_script (p.source_network name script sink capacity)).2.2
    unstopped finished
  exact ⟨final, onward, ⟨σ, name, script, sink, capacity, room, elements, reaches⟩, still,
    whole.trans elements⟩

/-- The flights and levels of a completed run over sightings in bounded disorder: those that the
sightings and the flights come to. -/
theorem Plan.Completes.results {p : Plan} {arrived : List Sighting} {h : History 11 Element}
    (completes : p.Completes arrived h) (fresh : p.tracker.latest = .negInfinity)
    (lateness : 0 ≤ p.lateness)
    (disorder : arrived.Pairwise fun a b =>
      a.report.posTime ≤ b.report.posTime + p.tracker.lateness)
    (heights : ∀ seen ∈ arrived, seen.report.alt < p.ceiling → seen.report.alt < Binary64.greatest) :
    ∃ (flights : List Flight) (loud : List (TimestampedEntry Int String (Option NoiseEntry))),
      (∀ f ∈ flights, f.value.airport.isSome = true) ∧
      h.sent 4 = flights.map .flight ∧ h.sent 7 = (loud.filterMap levelOf?).map .noiseLevel ∧
      (∀ start key, (FlightJob.flights p.window p.lateness).Delivers start key
        (((arrived.filterMap p.nearby).map Element.located).filter fun e =>
          (FlightJob.flights p.window p.lateness).covers e start key)
        ((FlightJob.flights p.window p.lateness).aggregator.entriesAt start key flights)) ∧
      ∀ start key, (FlightJob.loudest p.window p.lateness).Delivers start key
        ((flights.map fun f => Element.noise (f.noise p.reference)).filter fun e =>
          (FlightJob.loudest p.window p.lateness).covers e start key)
        ((FlightJob.loudest p.window p.lateness).aggregator.entriesAt start key loud) := by
  obtain ⟨⟨σ, name, script, sink, capacity, room, -, reached⟩, still, sent⟩ := completes
  have drains := p.drains_network name script sink capacity room
  have consistent := reached.consistent drains.fresh
  obtain ⟨timely, part, whole⟩ := timely_located consistent room fresh sent lateness disorder
  obtain ⟨flights, gathers, near, inTime⟩ := flights_sent consistent room le_rfl timely
    (low_located heights part)
  obtain ⟨-, noise, loud, levels, loudest⟩ := noise_inTime consistent room gathers
  refine ⟨flights, loud, near, gathers.sent, (levels_sent consistent room levels).2 still,
    fun start key => ?_, fun start key => ?_⟩
  · rw [← whole still]
    exact (inTime timely).delivers still start key
  · rw [← noise still]
    exact loudest.delivers still start key

/-- What the flight job makes of sightings: of each aircraft the flight over all its low sightings
near airports in a window, and of each airport the greatest level of its flights in a window. -/
structure Plan.Yields (p : Plan) (arrived : List Sighting) (h : History 11 Element)
    (flights : List Flight) (levels : List (TimestampedEntry Int String Int)) : Prop where
  flown : h.sent 4 = flights.map .flight
  flight : ∀ start id, (FlightJob.flights p.window p.lateness).Delivers start id
    (((arrived.filterMap p.nearby).map Element.located).filter fun e =>
      (FlightJob.flights p.window p.lateness).covers e start id)
    ((FlightJob.flights p.window p.lateness).aggregator.entriesAt start id flights)
  loudest : h.sent 7 = levels.map .noiseLevel
  level : ∀ airport start, p.window.slide ∣ start →
    stamped (p.window.endOf start) (airport ++ Element.noiseEnding) levels =
      ((flightsAt p.window start airport flights).map fun f =>
        lookupNoise p.reference f.value).max?.toList.map fun level =>
          ⟨p.window.endOf start, airport ++ Element.noiseEnding, level⟩

/-- A completed run over sightings in bounded disorder yields what all of these come to. -/
theorem Plan.Completes.yields {p : Plan} {arrived : List Sighting} {h : History 11 Element}
    (completes : p.Completes arrived h) (fresh : p.tracker.latest = .negInfinity)
    (lateness : 0 ≤ p.lateness)
    (disorder : arrived.Pairwise fun a b =>
      a.report.posTime ≤ b.report.posTime + p.tracker.lateness)
    (heights : ∀ seen ∈ arrived, seen.report.alt < p.ceiling → seen.report.alt < Binary64.greatest) :
    ∃ flights levels, p.Yields arrived h flights levels := by
  obtain ⟨flights, loud, near, flown, levels, delivers, loudest⟩ :=
    completes.results fresh lateness disorder heights
  exact ⟨flights, loud.filterMap levelOf?, flown, delivers, levels, fun airport start aligned =>
    level_of_delivers near aligned (loudest start (airport ++ Element.noiseEnding))⟩

/-- Two completed runs over the same sightings, both in bounded disorder, have the same flights and
levels up to order, where no aircraft is seen twice at one time. -/
theorem Plan.Completes.perm {p : Plan} {arrived sorted : List Sighting} {h h' : History 11 Element}
    (one : p.Completes arrived h) (other : p.Completes sorted h')
    (fresh : p.tracker.latest = .negInfinity) (lateness : 0 ≤ p.lateness)
    (disorder : arrived.Pairwise fun a b =>
      a.report.posTime ≤ b.report.posTime + p.tracker.lateness)
    (behind : sorted.Pairwise fun a b =>
      a.report.posTime ≤ b.report.posTime + p.tracker.lateness)
    (heights : ∀ seen ∈ arrived, seen.report.alt < p.ceiling → seen.report.alt < Binary64.greatest)
    (distinct : arrived.Pairwise fun a b =>
      a.report.id = b.report.id → a.report.posTime ≠ b.report.posTime)
    (same : sorted.Perm arrived) : (h.sent 4).Perm (h'.sent 4) ∧ (h.sent 7).Perm (h'.sent 7) := by
  obtain ⟨flights, loud, -, sent, levels, delivers, greatest⟩ :=
    one.results fresh lateness disorder heights
  obtain ⟨flights', loud', -, sent', levels', delivers', greatest'⟩ :=
    other.results fresh lateness behind fun seen member => heights seen (same.mem_iff.mp member)
  have apart : (arrived.filterMap p.nearby).Pairwise fun a b =>
      a.id = b.id → a.posTime ≠ b.posTime := by
    refine distinct.filterMap _ fun seen other apart a shown b also => ?_
    obtain ⟨first, -⟩ := Plan.nearby_spec shown
    obtain ⟨second, -⟩ := Plan.nearby_spec also
    rw [← first, ← second] at apart
    exact apart
  have flown := flights_perm (same.symm.filterMap p.nearby) apart delivers delivers'
  have levelled := levels_perm flown greatest greatest'
  rw [sent, sent', levels, levels']
  exact ⟨flown.map _, levelled.map _⟩

/-- Bounded disorder loses nothing and does not change the results. Sightings that come at most the
allowed lateness behind an earlier one all go into all windows of the first pass, which hold them
from then on. A whole run yields the flights over all of them, and the levels over all flights; and
if no aircraft is seen twice at one time, these are the flights and levels of a run in which the same
sightings came in the order of their times. For the results, altitudes below the ceiling have to be
within the range of floats, as they are below the default ceiling: a slope beyond that range is a
fault, and with it are lost the results of all windows that close at that time. -/
theorem bounded_disorder {s : Settings} {reference : ReferenceData} {p : Plan}
    (planned : Plan.ofSettings s reference = .ok p) (lateness : 0 ≤ s.windowAllowedLatenessMs)
    {arrived : List Sighting} (disorder : arrived.Pairwise fun a b =>
      a.report.posTime ≤ b.report.posTime + s.allowedLatenessMs) :
    (∀ h, p.Over arrived h →
      h.NothingLate 4 "VerticalDirection" (flightWindows p.window p.lateness) .flight) ∧
    (∀ h, p.Completes arrived h → h.took 4 = (arrived.filterMap p.nearby).map .located) ∧
    ((∀ seen ∈ arrived,
        seen.report.alt < s.lowAltitudeCeilingFt → seen.report.alt < Binary64.greatest) →
      (∀ h, p.Completes arrived h → ∃ flights levels, p.Yields arrived h flights levels) ∧
      ((arrived.Pairwise fun a b =>
          a.report.id = b.report.id → a.report.posTime ≠ b.report.posTime) →
        ∀ sorted, sorted.Perm arrived →
          (sorted.Pairwise fun a b => a.report.posTime ≤ b.report.posTime) →
          ∀ h h', p.Completes arrived h → p.Completes sorted h' →
            (h.sent 4).Perm (h'.sent 4) ∧ (h.sent 7).Perm (h'.sent 7))) := by
  obtain ⟨fresh, allowed, own, below⟩ := Plan.of_ofSettings planned
  rw [← own] at lateness
  rw [← allowed] at disorder
  rw [← below]
  refine ⟨fun h ran => ?_, fun h completes => ?_,
    fun heights => ⟨fun h completes => completes.yields fresh lateness disorder heights,
      fun distinct sorted same ascending h h' one other => ?_⟩⟩
  · obtain ⟨σ, name, script, sink, capacity, room, elements, reached⟩ := ran
    have drains := p.drains_network name script sink capacity room
    have consistent := reached.consistent drains.fresh
    have part := (consistent.exists_script (p.source_network name script sink capacity)).1
    rw [elements] at part
    obtain ⟨first, first_part, sent⟩ := List.prefix_map_iff.mp part
    obtain ⟨timely, part, -⟩ := timely_located consistent room fresh sent lateness
      (disorder.sublist first_part.sublist)
    exact consistent.nothingLate drains
      (p.sole_network name script sink capacity (i := 3) (j := 4) (by decide) (by decide))
      (p.role_network name script sink capacity (m := 4) rfl (by decide))
      (folds_flights p.window p.lateness p.ceiling) timely
      fun e member => Plan.isLow_of_mem (part.subset member)
  · obtain ⟨⟨σ, name, script, sink, capacity, room, -, reached⟩, still, sent⟩ := completes
    have drains := p.drains_network name script sink capacity room
    have consistent := reached.consistent drains.fresh
    obtain ⟨-, -, whole⟩ := timely_located consistent room fresh sent lateness disorder
    exact (consistent.took_of_still drains
      (p.sole_network name script sink capacity (i := 3) (j := 4) (by decide) (by decide))
      still).trans (whole still)
  · have behind : sorted.Pairwise fun a b =>
        a.report.posTime ≤ b.report.posTime + p.tracker.lateness :=
      ascending.imp fun before => before.trans (le_add_of_nonneg_right p.tracker.lateness_nonneg)
    exact one.perm other fresh lateness disorder behind heights distinct same

/-- Two sightings, the later first, as far apart as the default lateness allows. -/
def swapped : List Sighting := [climbing 30000 1500, climbing 15000 1000]

/-- The same sightings in the order of their times. -/
def inOrder : List Sighting := [climbing 15000 1000, climbing 30000 1500]

/-- With the default settings both orders have complete runs, and these have the same results. -/
theorem bounded_disorder_swapped :
    ∃ p h h', Plan.ofSettings {} .standard = .ok p ∧ p.Completes swapped h ∧
      p.Completes inOrder h' ∧
      h.NothingLate 4 "VerticalDirection" (flightWindows p.window p.lateness) .flight ∧
      (∃ flights levels, p.Yields swapped h flights levels) ∧
      (h.sent 4).Perm (h'.sent 4) ∧ (h.sent 7).Perm (h'.sent 7) := by
  obtain ⟨p, planned, -⟩ := Plan.ofSettings_spec (s := {}) .standard (by decide) (by decide)
    (by decide)
  have run : ∀ arrived : List Sighting, ∃ h, p.Completes arrived h := by
    intro arrived
    have elements : Script.elements ⟨[⟨arrived.map Element.sighting, [], false⟩], none⟩ =
        arrived.map .sighting := List.append_nil _
    obtain ⟨final, -, completes⟩ := p.exists_completes "sightings" _
      (Operators.recorder "sink" .never) 100 (by decide) elements .refl
    exact ⟨final, completes⟩
  obtain ⟨h, one⟩ := run swapped
  obtain ⟨h', other⟩ := run inOrder
  have disorder : swapped.Pairwise fun a b =>
      a.report.posTime ≤ b.report.posTime + ({} : Settings).allowedLatenessMs := by decide
  have heights : ∀ seen ∈ swapped, seen.report.alt < ({} : Settings).lowAltitudeCeilingFt →
      seen.report.alt < Binary64.greatest := fun seen _ low => low.trans_le default_ceiling
  obtain ⟨early, -, results⟩ := bounded_disorder planned (by decide) disorder
  obtain ⟨yields, same⟩ := results heights
  obtain ⟨flights, levels⟩ := same (by decide) inOrder (.swap ..) (by decide) h h' one other
  exact ⟨p, h, h', planned, one, other, early h one.ran, yields h one, flights, levels⟩

/-- What an operator with one input makes of a stream. -/
def through {σ : Type} (operator : Operator Element σ) (stream : List (Output Element)) :
    List (Output Element) :=
  ((Worker.start operator 1).run operator (stream.map (Output.from (some 0)))).outputs

/-- The flights that the first pass makes of aircraft near airports, seen in this order. -/
def Plan.firstPass (p : Plan) (arrived : List ClassifiedAircraft) : List Element :=
  let seen := arrived.map (fun a => Output.element (.located a)) ++ [.ended]
  Output.elements (through p.direction (through p.lowAltitude (through p.watermarks seen)))

/-- Windows of ten, sightings up to ten late, and a ceiling above all floats. -/
def lofty : Settings :=
  { windowSizeMs := 10, windowSlideMs := 10, allowedLatenessMs := 10,
    lowAltitudeCeilingFt := 10 ^ 310 }

/-- An aircraft near an airport. -/
def near (id posTime alt : Int) : ClassifiedAircraft :=
  ⟨⟨id, posTime, 51.5, -0.4, alt, false, .medium, "A320"⟩, some "London", .unknown⟩

/-- A level flight, and in the next window a climb that is too steep for a float. -/
def soaring : List ClassifiedAircraft := [near 1 5 1000, near 2 11 1, near 2 12 (10 ^ 309)]

/-- Above the range of floats the order matters. If a late sighting comes last, one watermark closes
the windows of the level flight and of the climb, and the flight is lost with the climb; in the order
of their times the window of the flight closes by itself, before that of the climb. -/
theorem soaring_takes_flight :
    let early := soaring ++ [near 3 25 1000, near 3 35 1000]
    let late := soaring ++ [near 3 35 1000, near 3 25 1000]
    early.Perm late ∧ (early.Pairwise fun a b => a.posTime ≤ b.posTime) ∧
      (late.Pairwise fun a b => a.posTime ≤ b.posTime + lofty.allowedLatenessMs) ∧
      (late.Pairwise fun a b => a.id = b.id → a.posTime ≠ b.posTime) ∧
      ∃ p, Plan.ofSettings lofty .standard = .ok p ∧
        ¬(p.firstPass late).Perm (p.firstPass early) := by
  intro early late
  refine ⟨.append_left _ (.swap ..), by decide, by decide, by decide, ?_⟩
  obtain ⟨p, planned, -⟩ := Plan.ofSettings_spec (s := lofty) .standard (by decide) (by decide)
    (by decide)
  refine ⟨p, planned, fun same => ?_⟩
  have sizes : ((Plan.ofSettings lofty .standard).toOption.map fun p =>
      ((p.firstPass late).length, (p.firstPass early).length)) = some (2, 3) := by
    decide +kernel
  rw [planned] at sizes
  obtain ⟨two, three⟩ := Prod.mk.inj (Option.some.inj sizes)
  have equal := same.length_eq
  omega

end FlightJob

end FlightStream
