import FlightStream.Proofs.Dataflow.UnfailingOperators
import FlightStream.Proofs.FlightJob.SecondPass
import FlightStream.Proofs.Reference.NoiseTable

/-!
The flight job never fails on valid reports, `never_fails`. With the settings and the reference data
used by default, no place counts an operator error on sightings whose identity and time are below
`2 ^ 1023`, whatever else they hold and in whatever order they come.

What each place sends is named by `sends`, and each place is shown never to fail on what the places
before it send. The only division is that of the slope: its two sides are sums over pairs of points,
so that the slope is at most the spread of the altitudes, which is below the ceiling. Windows say in a
message what they find late, so identities and times also have to be short enough to be written; the
stamps that the second pass sees are no further from zero than a window is long.
-/

namespace FlightStream

/-- A sighting whose identity and time are below `2 ^ 1023`. -/
def Sighting.InRange (s : Sighting) : Prop :=
  |s.report.id| < 2 ^ 1023 ∧ |s.report.posTime| < 2 ^ 1023

instance (s : Sighting) : Decidable s.InRange := inferInstanceAs (Decidable (_ ∧ _))

namespace FlightJob

open Dataflow

/-! ## The slope -/

/-- An accumulator of the directions: some aircraft, all in the air and below the ceiling, and the
sums over their points. -/
structure IsTrack (ceiling : Int) (acc : List ClassifiedAircraft × LinearTrend) : Prop where
  some_ : acc.1 ≠ []
  low : ∀ a ∈ acc.1, 0 < a.alt ∧ a.alt < ceiling
  sums : acc.2 = .ofPoints (acc.1.map pointOf)

/-- What finishing an accumulator of the directions comes to. At one time only there is no slope. At
several times it is a quotient of two whole numbers, the second not zero, which has a nearest float:
it is at most the spread of the altitudes, and that is below the ceiling. So there is a flight. -/
structure Finishes (ceiling : Int) (acc : List ClassifiedAircraft × LinearTrend) : Prop where
  level : (∀ a ∈ acc.1, ∀ b ∈ acc.1, a.posTime = b.posTime) → acc.2.slope = .ok Binary64.nan
  steep : (∃ a ∈ acc.1, ∃ b ∈ acc.1, a.posTime ≠ b.posTime) →
    LinearTrend.variance (acc.1.map pointOf) ≠ 0 ∧
    ∃ slope, acc.2.slope = .ok slope ∧ Number.divInt (LinearTrend.covariance (acc.1.map pointOf))
      (LinearTrend.variance (acc.1.map pointOf)) = .ok slope
  spread : ∃ lowest highest, (acc.1.map (·.alt)).min? = some lowest ∧
    (acc.1.map (·.alt)).max? = some highest ∧ highest - lowest < ceiling ∧
    ((∃ a ∈ acc.1, ∃ b ∈ acc.1, a.posTime ≠ b.posTime) →
      |LinearTrend.exactSlope (acc.1.map pointOf)| ≤ (highest - lowest : Int))
  flight : ∃ aircraft, flightAggregation.finish acc = .ok aircraft

theorem variance_points {aircraft : List ClassifiedAircraft} :
    LinearTrend.variance (aircraft.map pointOf) = 0 ↔
      ∀ a ∈ aircraft, ∀ b ∈ aircraft, a.posTime = b.posTime := by
  rw [LinearTrend.variance_eq_zero_iff]
  simp only [List.forall_mem_map, pointOf]

/-- Some altitudes have a least and a greatest one among them. -/
theorem exists_altitudes {aircraft : List ClassifiedAircraft} (some_ : aircraft ≠ []) :
    ∃ lowest ∈ aircraft, ∃ highest ∈ aircraft,
      (aircraft.map (·.alt)).min? = some lowest.alt ∧
      (aircraft.map (·.alt)).max? = some highest.alt ∧
      ∀ a ∈ aircraft, lowest.alt ≤ a.alt ∧ a.alt ≤ highest.alt := by
  obtain ⟨highest, above, -, upper⟩ := latest?_spec (fun a => a.alt) some_
  obtain ⟨lowest, below, -, lower⟩ := latest?_spec (fun a => -a.alt) some_
  have between : ∀ a ∈ aircraft, lowest.alt ≤ a.alt ∧ a.alt ≤ highest.alt := fun a member =>
    ⟨neg_le_neg_iff.mp (lower a member), upper a member⟩
  refine ⟨lowest, below, highest, above, ?_, ?_, between⟩
  · exact List.min?_eq_some_iff.mpr ⟨List.mem_map_of_mem below,
      List.forall_mem_map.mpr fun a member => (between a member).1⟩
  · exact List.max?_eq_some_iff.mpr ⟨List.mem_map_of_mem above,
      List.forall_mem_map.mpr fun a member => (between a member).2⟩

namespace IsTrack

variable {ceiling : Int} {acc : List ClassifiedAircraft × LinearTrend}
  (track : IsTrack ceiling acc) (bound : ceiling ≤ Binary64.greatest)

include track bound

theorem finish : ∃ slope aircraft, acc.2.slope = .ok slope ∧
    flightAggregation.finish acc = .ok aircraft := by
  obtain ⟨latest, slope, -, -, divided, ran⟩ := run_flight bound track.some_ track.low
  have whole : acc = (acc.1, LinearTrend.ofPoints (acc.1.map pointOf)) := Prod.ext rfl track.sums
  rw [Aggregation.run, fold_flight, ← whole] at ran
  rw [← track.sums] at divided
  exact ⟨slope, _, divided, ran⟩

/-- Finishing the directions of low-flying aircraft never fails, whatever their times. -/
theorem finishes : Finishes ceiling acc := by
  obtain ⟨slope, aircraft, divided, flight⟩ := track.finish bound
  have slopes := LinearTrend.slope_ofPoints (acc.1.map pointOf)
  rw [← track.sums] at slopes
  have apart : (∃ a ∈ acc.1, ∃ b ∈ acc.1, a.posTime ≠ b.posTime) →
      LinearTrend.variance (acc.1.map pointOf) ≠ 0 := by
    rintro ⟨a, one, b, other, distinct⟩ flat
    exact distinct (variance_points.mp flat a one b other)
  refine ⟨fun same => ?_, fun several => ?_, ?_, aircraft, flight⟩
  · rw [slopes, if_pos (variance_points.mpr same)]
  · rw [if_neg (apart several)] at slopes
    exact ⟨apart several, slope, divided, slopes.symm.trans divided⟩
  · obtain ⟨lowest, below, highest, above, least, greatest, between⟩ :=
      exists_altitudes track.some_
    refine ⟨_, _, least, greatest, ?_, fun several =>
      LinearTrend.abs_exactSlope_le (fun p one q other => ?_) (apart several)⟩
    · have := track.low lowest below
      have := track.low highest above
      omega
    · obtain ⟨a, present, rfl⟩ := List.mem_map.mp one
      obtain ⟨b, also, rfl⟩ := List.mem_map.mp other
      have := between a present
      have := between b also
      rw [abs_le]
      simp only [pointOf]
      constructor <;> omega

end IsTrack

/-! ## What flows between the places -/

/-- A sighting in range. -/
def IsSeen (e : Element) : Prop := ∃ seen : Sighting, e = .sighting seen ∧ seen.InRange

/-- A sighting in range, of an aircraft in the air and below the ceiling. -/
def IsLowSeen (ceiling : Int) (e : Element) : Prop :=
  ∃ seen : Sighting, e = .sighting seen ∧ seen.InRange ∧ isLowAltitude ceiling seen.report = true

/-- The same once the aircraft was looked for near the airports; its identity and time are not further
from zero than `reach`. -/
def IsLocated (ceiling : Int) (reach : Nat) (e : Element) : Prop :=
  ∃ a : ClassifiedAircraft, e = .located a ∧ (a.id.natAbs ≤ reach ∧ a.posTime.natAbs ≤ reach) ∧
    0 < a.alt ∧ a.alt < ceiling

/-- A flight with a stamp not further from zero than `reach`. -/
def IsFlight (reach : Nat) (e : Element) : Prop :=
  ∃ entry, e = .flight entry ∧ entry.timestamp.natAbs ≤ reach

/-- A noise level that has a nearest float. -/
def IsLevel (n : NoiseEntry) : Prop := |n.value| ≤ Binary64.greatest

/-- Such a flight with such a noise level. -/
def IsLevelled (reach : Nat) (e : Element) : Prop :=
  ∃ n, e = .noise n ∧ n.timestamp.natAbs ≤ reach ∧ IsLevel n

/-- Such a flight with its emission. -/
def IsEmitted (reach : Nat) (e : Element) : Prop :=
  ∃ m, e = .emission m ∧ m.timestamp.natAbs ≤ reach

/-- A loudest flight, which is one with such a noise level. -/
def IsLoudest (e : Element) : Prop := ∃ entry, e = .loudest entry ∧ ∃ n, entry.value = some n ∧ IsLevel n

/-- A result that has a metric, or is known to have none. -/
inductive IsResult : Element → Prop
  | flight (entry : TimestampedEntry Int Int ClassifiedAircraft) : IsResult (.flight entry)
  | noiseLevel {entry : TimestampedEntry Int String Int} :
      |entry.value| ≤ Binary64.greatest → IsResult (.noiseLevel entry)
  | totalEmission (entry : TimestampedEntry Int String Float) : IsResult (.totalEmission entry)

theorem IsResult.metric {e : Element} (result : IsResult e) : ∃ metric, e.metric = .ok metric := by
  cases result with
  | flight entry => exact ⟨_, rfl⟩
  | noiseLevel small =>
    obtain ⟨level, rounded⟩ := Number.exists_toFloat small
    simp only [Element.metric, rounded]
    exact ⟨_, rfl⟩
  | totalEmission entry => exact ⟨_, rfl⟩

/-- The sinks of the flight job: one that prints the metrics of results, and one that delivers them
over a link which breaks only in ways that are dealt with. -/
inductive IsSink : {σ : Type} → Operator Element σ → Prop
  | printing (name lead : String) : IsSink (Operators.console name lead Element.metric)
  | delivering {ω τ : Type} [Add τ] [LT τ] [DecidableLT τ] [OfNat τ 0] {link : Graphite.Link ω τ}
      (handled : link.Handled) (name : String) (config : Graphite.Config τ) (network : ω)
      (observe : ω → ω × List Traffic) :
      IsSink (Operators.graphite name config link network observe Element.metric)

theorem IsSink.unfailing {σ : Type} {sink : Operator Element σ} (known : IsSink sink) :
    sink.Unfailing IsResult (fun _ => True) fun _ => True := by
  cases known with
  | printing name lead =>
    exact Operators.unfailing_console name lead fun _ result => result.metric
  | delivering handled name config network observe =>
    exact Operators.unfailing_graphite name config handled network observe
      fun _ result => result.metric

/-- The greatest distance of a stamp from zero: that of the end of a window around a time in range. -/
def Plan.stampReach (p : Plan) : Nat := 2 ^ 1023 + p.window.size.toNat

/-- What each place sends. -/
def sends (p : Plan) : Fin 11 → Element → Prop
  | 0 | 1 => IsSeen
  | 2 => IsLowSeen p.ceiling
  | 3 => IsLocated p.ceiling (2 ^ 1023)
  | 4 => IsFlight p.stampReach
  | 5 => IsLevelled p.stampReach
  | 6 => IsLoudest
  | 8 => IsEmitted p.stampReach
  | _ => IsResult

/-- What each place never fails on. -/
def takes (p : Plan) : Fin 11 → Element → Prop
  | 0 => fun _ => True
  | 1 | 2 => IsSeen
  | 3 => IsLowSeen p.ceiling
  | 4 => IsLocated p.ceiling (2 ^ 1023)
  | 5 | 8 => IsFlight p.stampReach
  | 6 => IsLevelled p.stampReach
  | 7 => IsLoudest
  | 9 => IsEmitted p.stampReach
  | _ => IsResult

/-! ## The windows -/

section Windows

variable (window : SlidingWindow) (lateness : Int) {reach : Nat} (short : reach < Writing.bound)

include short

theorem unfailing_flights {ceiling : Int} (bound : ceiling ≤ Binary64.greatest) :
    (flights window lateness).Unfailing reach (IsLocated ceiling reach) (IsTrack ceiling)
      fun _ => True where
  short := short
  time := by
    rintro e ⟨a, rfl, ⟨-, near⟩, -⟩
    exact ⟨a.posTime, rfl, near⟩
  key := by
    rintro e ⟨a, rfl, ⟨near, -⟩, -⟩
    exact ⟨a.id, rfl, Writing.exists_whole_iff.mpr (Writing.fits_iff.mpr (near.trans_lt short))⟩
  step := by
    rintro e ⟨a, rfl, -, above, below⟩ acc held
    have shape : acc = (acc.1, LinearTrend.ofPoints (acc.1.map pointOf)) ∧
        ∀ b ∈ acc.1, 0 < b.alt ∧ b.alt < ceiling := by
      rcases held with rfl | track
      · exact ⟨rfl, List.forall_mem_nil _⟩
      · exact ⟨Prod.ext rfl track.sums, track.low⟩
    refine ⟨(acc.1 ++ [a], .ofPoints (acc.1.map pointOf ++ [pointOf a])), ?_, by simp, ?_, by simp⟩
    · rw [shape.1]
      exact step_flight acc.1 (acc.1.map pointOf) a
    · intro b member
      rcases List.mem_append.mp member with old | new
      · exact shape.2 b old
      · rw [List.mem_singleton.mp new]
        exact ⟨above, below⟩
  finish acc track := by
    obtain ⟨slope, aircraft, -, flight⟩ := track.finish bound
    exact ⟨aircraft, flight, trivial⟩

theorem unfailing_loudest : (loudest window lateness).Unfailing reach (IsLevelled reach)
    (fun acc => ∃ n, acc = some n ∧ IsLevel n) fun value => ∃ n, value = some n ∧ IsLevel n where
  short := short
  time := by
    rintro e ⟨n, rfl, near, -⟩
    exact ⟨n.timestamp, rfl, near⟩
  key := by
    rintro e ⟨n, rfl, -⟩
    exact ⟨_, rfl, _, rfl⟩
  step := by
    rintro e ⟨n, rfl, -, level⟩ acc (rfl | ⟨kept, rfl, other⟩)
    · exact ⟨_, rfl, n, rfl, level⟩
    · refine ⟨_, rfl, _, rfl, ?_⟩
      split
      · exact level
      · exact other
  finish acc held := ⟨acc, rfl, held⟩

theorem unfailing_totals : (totals window lateness).Unfailing reach (IsEmitted reach) (fun _ => True)
    fun _ => True where
  short := short
  time := by
    rintro e ⟨m, rfl, near⟩
    exact ⟨m.timestamp, rfl, near⟩
  key := by
    rintro e ⟨m, rfl, -⟩
    exact ⟨_, rfl, _, rfl⟩
  step := by
    rintro e ⟨m, rfl, -⟩ sum -
    exact ⟨_, rfl, trivial⟩
  finish sum _ := ⟨sum, rfl, trivial⟩

end Windows

/-! ## The places -/

/-- The box around every airport can be told. -/
theorem exists_airportFor {airports : List Airport}
    (finite : ∀ airport ∈ airports, (airport.lat * BoundingBox.radiansPerDegree).isInf = false)
    (lon lat radius : Float) : ∃ found, airportFor lon lat airports radius = .ok found := by
  induction airports with
  | nil => exact ⟨none, rfl⟩
  | cons airport rest ih =>
    obtain ⟨found, later⟩ := ih fun other member => finite other (List.mem_cons_of_mem _ member)
    have angle := finite airport List.mem_cons_self
    simp only [airportFor, BoundingBox.around, BoundingBox.cosine, angle, later, bind, Except.bind,
      pure, Except.pure, Bool.false_eq_true, if_false]
    split
    · exact ⟨_, rfl⟩
    · exact ⟨_, rfl⟩

/-- A plan whose numbers are in the range of floats, and whose stamps can be written. -/
structure Plan.InRange (p : Plan) : Prop where
  fresh : p.tracker.latest = .negInfinity
  lateness : 2 ^ 1023 + p.tracker.lateness ≤ Binary64.greatest
  ceiling : p.ceiling ≤ Binary64.greatest
  stamps : p.stampReach < Writing.bound
  airports : ∀ lon lat, ∃ found, airportFor lon lat p.reference.airports p.radius = .ok found
  levels : ∀ a, |lookupNoise p.reference a| ≤ Binary64.greatest

namespace Plan

variable {p : Plan}

section InRange

variable (inRange : p.InRange)

include inRange

theorem unfailing_watermarks : p.watermarks.Unfailing IsSeen IsSeen
    (Operators.Clock.Within p.tracker.lateness) := by
  refine Operators.unfailing_insertWatermarks _ inRange.fresh ?_
  rintro - e ⟨seen, rfl, -, near⟩
  refine ⟨seen.report.posTime, rfl, ?_⟩
  have := inRange.lateness
  omega

theorem unfailing_airport :
    p.airport.Unfailing (IsLowSeen p.ceiling) (IsLocated p.ceiling (2 ^ 1023)) fun _ => True := by
  have reach : ∀ {i : Int}, |i| < 2 ^ 1023 → i.natAbs ≤ 2 ^ 1023 := by
    intro i near
    rw [Int.abs_eq_natAbs] at near
    exact_mod_cast near.le
  refine Operators.unfailing_map _ ?_
  rintro e ⟨seen, rfl, ⟨id, time⟩, low⟩
  obtain ⟨found, near⟩ := inRange.airports seen.report.lon seen.report.lat
  have assigned : assignAirport p.reference p.radius seen =
      .ok (found.map fun name => seen.withAirport (some name)) := by
    simp only [assignAirport, near]
    rfl
  refine ⟨_, by rw [Plan.locate, assigned]; rfl, fun made member => ?_⟩
  obtain ⟨a, shown, rfl⟩ := Option.map_eq_some_iff.mp member
  have found : p.nearby seen = some a := by
    rw [Plan.nearby, if_pos low, assigned]
    exact shown
  obtain ⟨report, other, same, above, below, -⟩ := Plan.nearby_spec found
  cases same
  rw [← report] at id time
  exact ⟨a, rfl, ⟨reach id, reach time⟩, above, below⟩

theorem unfailing_direction : p.direction.Unfailing (IsLocated p.ceiling (2 ^ 1023))
    (IsFlight p.stampReach)
    (OpenWindows.Every · ((flights p.window p.lateness).Within (2 ^ 1023) (IsTrack p.ceiling))) := by
  have short : 2 ^ 1023 < Writing.bound := (Nat.le_add_right _ _).trans_lt inRange.stamps
  exact Operators.unfailing_window _ (unfailing_flights p.window p.lateness short inRange.ceiling)
    fun entry stamped => ⟨entry, rfl, stamped.2⟩

theorem unfailing_noise :
    p.noise.Unfailing (IsFlight p.stampReach) (IsLevelled p.stampReach) fun _ => True := by
  refine Operators.unfailing_map _ ?_
  rintro e ⟨entry, rfl, near⟩
  refine ⟨_, rfl, fun made member => ?_⟩
  cases member
  exact ⟨_, rfl, near, inRange.levels entry.value⟩

theorem unfailing_maxNoise : p.loudest.Unfailing (IsLevelled p.stampReach) IsLoudest
    (OpenWindows.Every · ((FlightJob.loudest p.window p.lateness).Within p.stampReach
      fun acc => ∃ n, acc = some n ∧ IsLevel n)) :=
  Operators.unfailing_window _ (unfailing_loudest p.window p.lateness inRange.stamps)
    fun entry stamped => ⟨entry, rfl, stamped.1⟩

theorem unfailing_totalEmission : p.total.Unfailing (IsEmitted p.stampReach) IsResult
    (OpenWindows.Every · ((totals p.window p.lateness).Within p.stampReach fun _ => True)) :=
  Operators.unfailing_window _ (unfailing_totals p.window p.lateness inRange.stamps)
    fun entry _ => .totalEmission entry

end InRange

variable (p)

theorem unfailing_lowAltitude :
    p.lowAltitude.Unfailing IsSeen (IsLowSeen p.ceiling) fun _ => True := by
  refine Operators.unfailing_filter _ ?_
  rintro e ⟨seen, rfl, inRange⟩
  exact ⟨_, rfl, fun low => ⟨seen, rfl, inRange, low⟩⟩

theorem unfailing_level : level.Unfailing IsLoudest IsResult fun _ => True := by
  refine Operators.unfailing_map _ ?_
  rintro e ⟨entry, rfl, n, loud, small⟩
  refine ⟨some (.noiseLevel ⟨entry.timestamp, entry.key, n.value⟩), ?_, fun made member => ?_⟩
  · simp only [Element.levelOnly, loud]
  · cases member
    exact .noiseLevel small

theorem unfailing_emission :
    p.emission.Unfailing (IsFlight p.stampReach) (IsEmitted p.stampReach) fun _ => True := by
  refine Operators.unfailing_map _ ?_
  rintro e ⟨entry, rfl, near⟩
  refine ⟨_, rfl, fun made member => ?_⟩
  cases member
  exact ⟨_, rfl, near⟩

end Plan

/-- A source of valid reports: it sends sightings in range, and counts no operator error itself. -/
structure Reports (script : Script Element) : Prop where
  valid : ∀ e ∈ script.elements, IsSeen e
  quiet : ∀ turn ∈ script.turns, Effect.ErrorFree turn.effects

section Network

variable {p : Plan} (inRange : p.InRange) {σ : Type} (name : String) {script : Script Element}
  (reports : Reports script) (sink : Operator Element σ) (capacity : Nat)

include inRange reports

/-- Each place of the flight job sends only what the places after it never fail on. -/
theorem suited_network :
    (p.network name script sink capacity).Suited (takes p) (sends p) where
  ascending := by
    rw [p.wiring_network]
    decide
  place i := by
    rw [p.wiring_network, p.cell_network]
    intro leads
    fin_cases i
    · exact .source reports.valid reports.quiet
    · exact .worker (Plan.unfailing_watermarks inRange)
    · exact .worker p.unfailing_lowAltitude
    · exact .worker (Plan.unfailing_airport inRange)
    · exact .worker (Plan.unfailing_direction inRange)
    · exact .worker (Plan.unfailing_noise inRange)
    · exact .worker (Plan.unfailing_maxNoise inRange)
    · exact .worker Plan.unfailing_level
    · exact .worker p.unfailing_emission
    · exact .worker (Plan.unfailing_totalEmission inRange)
    · exact absurd rfl leads
  leads i j leads value sent := by
    rw [p.wiring_network] at leads
    fin_cases i
    case «4» =>
      have flight : IsFlight p.stampReach value := sent
      obtain ⟨entry, same, -⟩ := flight
      rcases List.mem_cons.mp leads with rfl | leads
      · exact sent
      · rcases List.mem_cons.mp leads with rfl | leads
        · exact sent
        · cases List.mem_singleton.mp leads
          exact same ▸ .flight entry
    case «10» => cases leads
    all_goals
      cases List.mem_singleton.mp leads
      exact sent

end Network

/-! ## The defaults -/

/-- A level that is looked up stands in one of the tables, or is zero. -/
theorem abs_lookupNoise_le {reference : ReferenceData} {bound : Int} (nonneg : 0 ≤ bound)
    (levels : ∀ direction heavy, ∀ level ∈ (reference.noise.table direction heavy).levels,
      |level| ≤ bound) (a : ClassifiedAircraft) : |lookupNoise reference a| ≤ bound := by
  unfold lookupNoise
  cases found : (reference.noiseTable a.direction a.wake).ceiling? a.alt with
  | none => simpa using nonneg
  | some level => exact levels _ _ level (NoiseTable.mem_levels_of_ceiling? found)

/-- The levels of a table are among those that it was made from. -/
theorem level_of_mem_ofList {levels : List (Int × Int)} {level : Int}
    (member : level ∈ (NoiseTable.ofList levels).levels) : ∃ given ∈ levels, level = given.2 := by
  obtain ⟨entry, sorted, rfl⟩ := List.mem_map.mp member
  exact ⟨entry, (Keyed.mem_ofList_iff.mp (List.mem_mergeSort.mp sorted)).mem, rfl⟩

theorem default_levels : ∀ direction heavy,
    ∀ level ∈ (ReferenceData.defaultNoise.table direction heavy).levels, |level| ≤ 96 := by
  have made : ∀ levels : List (Int × Int), (∀ given ∈ levels, |given.2| ≤ 96) →
      ∀ level ∈ (NoiseTable.ofList levels).levels, |level| ≤ 96 := by
    intro levels small level member
    obtain ⟨given, present, rfl⟩ := level_of_mem_ofList member
    exact small given present
  intro direction heavy
  cases direction <;> cases heavy
  case ascending.false | ascending.true | descending.false | descending.true =>
    exact made _ (by decide)
  all_goals exact List.forall_mem_nil _

/-- The default settings and reference data are in the range of floats. -/
theorem inRange_default : ∃ p, Plan.ofSettings {} .standard = .ok p ∧
    p.ceiling = ({} : Settings).lowAltitudeCeilingFt ∧ p.InRange := by
  refine ⟨_, rfl, rfl, rfl, by decide +kernel, default_ceiling, by decide +kernel, ?_, ?_⟩
  · intro lon lat
    refine exists_airportFor ?_ lon lat _
    decide +kernel
  · intro a
    refine (abs_lookupNoise_le (by decide) default_levels a).trans ?_
    decide +kernel

/-- The flight job never fails on valid reports. With the default settings and reference data,
whatever sightings arrive whose identity and time are below `2 ^ 1023`, in whatever order, and
however the places take turns: no place counts an operator error, the last one included if it is one
of the job's sinks. Every accumulator of the directions, at any time, is that of some low-flying
aircraft; and of any such accumulator, whatever the times in it, the slope can be divided out and
the flight be told. -/
theorem never_fails {script : Script Element} (reports : Reports script) {σ : Type} (name : String)
    (sink : Operator Element σ) (capacity : Nat) :
    ∃ p, Plan.ofSettings {} .standard = .ok p ∧
      (∀ h, Reached (p.network name script sink capacity) h →
        (∀ m, (m = 10 → IsSink sink) → Effect.ErrorFree (h.effects m)) ∧
        ∃ w, (h.network.cell 4).role = .worker p.direction w ∧
          w.state.Every fun _ => IsTrack ({} : Settings).lowAltitudeCeilingFt) ∧
      ∀ acc, IsTrack ({} : Settings).lowAltitudeCeilingFt acc →
        Finishes ({} : Settings).lowAltitudeCeilingFt acc := by
  obtain ⟨p, planned, ceiling, inRange⟩ := inRange_default
  refine ⟨p, planned, fun h reached => ?_, fun acc track => track.finishes default_ceiling⟩
  have fresh := p.fresh_network name script sink capacity
  have suited := suited_network inRange name reports sink capacity
  refine ⟨fun m known => ?_, ?_⟩
  · by_cases last : m = 10
    · subst last
      refine reached.errorFree (Q := fun _ => True) fresh suited ?_
      rw [p.cell_network]
      exact .worker (known rfl).unfailing
    · have leads : ∀ m, m ≠ 10 → layout.downstream m ≠ [] := by decide
      refine reached.errorFree fresh suited (suited.place m ?_)
      rw [p.wiring_network]
      exact leads m last
  · have consistent := reached.consistent fresh
    obtain ⟨w, now, moved⟩ := consistent.moved
      (p.role_network name script sink capacity (m := 4) rfl (by decide))
      (Plan.unfailing_direction inRange) (consistent.takes_of_handled suited 4)
    exact ⟨w, now, ceiling ▸ moved.state.mono fun _ _ held => held.1⟩

theorem reports_climb : Reports climb where
  valid := by
    intro e member
    have own : e ∈ [climbing 0 1000, climbing 30000 1500, climbing 60000 2000].map .sighting :=
      member
    obtain ⟨seen, present, rfl⟩ := List.mem_map.mp own
    have inRange : ∀ s ∈ [climbing 0 1000, climbing 30000 1500, climbing 60000 2000], s.InRange := by
      decide +kernel
    exact ⟨seen, rfl, inRange seen present⟩
  quiet := by
    have none : ∀ turn ∈ climb.turns, turn.effects = [] := by simp [climb]
    exact fun turn member => by
      rw [none turn member]
      rfl

/-- The aircraft of the climb at its first two sightings. -/
def climbed : List ClassifiedAircraft × LinearTrend :=
  let aircraft := [(climbing 0 1000).withAirport (some "London"),
    (climbing 30000 1500).withAirport (some "London")]
  (aircraft, .ofPoints (aircraft.map pointOf))

/-- On the climb no place counts an error, neither with the sink that prints nor with one that
delivers to a receiver which is away at first; and its first two sightings have a slope. -/
theorem never_fails_climb :
    (∃ p, Plan.ofSettings {} .standard = .ok p ∧ ∀ h, Reached (p.network "climb" climb
      (Operators.console "ConsoleSink" "" Element.metric) 100) h →
        ∀ m, Effect.ErrorFree (h.effects m)) ∧
    (∃ p, Plan.ofSettings {} .standard = .ok p ∧ ∀ h, Reached (p.network "climb" climb
      (Operators.graphite "GraphiteSink" Graphite.narrow Graphite.answers [false]
        (fun rest => (rest, [])) Element.metric) 100) h → ∀ m, Effect.ErrorFree (h.effects m)) ∧
    ∃ slope, climbed.2.slope = .ok slope := by
  obtain ⟨p, planned, runs, finishes⟩ := never_fails reports_climb "climb"
    (Operators.console "ConsoleSink" "" Element.metric) 100
  obtain ⟨q, also, delivers, -⟩ := never_fails reports_climb "climb"
    (Operators.graphite "GraphiteSink" Graphite.narrow Graphite.answers [false]
      (fun rest => (rest, [])) Element.metric) 100
  refine ⟨⟨p, planned, fun h reached m => ?_⟩, ⟨q, also, fun h reached m => ?_⟩, ?_⟩
  · exact (runs h reached).1 m fun _ => .printing _ _
  · exact (delivers h reached).1 m fun _ => .delivering Graphite.answers_handled _ _ _ _
  · have track : IsTrack ({} : Settings).lowAltitudeCeilingFt climbed := ⟨by simp [climbed],
      by decide, rfl⟩
    obtain ⟨-, slope, divided, -⟩ := (finishes climbed track).steep (by decide)
    exact ⟨slope, divided⟩

end FlightJob

end FlightStream
