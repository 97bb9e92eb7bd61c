import FlightStream.Proofs.Dataflow.Chain
import FlightStream.Proofs.Dataflow.Clock
import FlightStream.Proofs.Dataflow.UnfailingOperators
import FlightStream.Proofs.Dataflow.Windowed
import Mathlib.Data.Int.CardIntervalMod

/-!
How many windows are open. An open window holds an item, so it starts at or before the latest event
time, and it is not closed under the watermark, so it does not start long before it
(`Tallies.start_bounds`). Starts are multiples of the slide, and few of these fit in between
(`length_le_ceil`). What ties the two ends together is the watermark: the one that an aggregator has
is the one that the origin of event time has told last (`Reads.time_eq_told`), whatever the chain
between them drops, and that is the latest event time less the lateness.
-/

namespace FlightStream

/-! ## Multiples in an interval -/

theorem floor_sub_floor_le (a b : ℚ) : ⌊a⌋ - ⌊b⌋ ≤ ⌈a - b⌉ := by
  have above : a ≤ b + (⌈a - b⌉ : ℤ) := by
    have := Int.le_ceil (a - b)
    linarith
  have floors := Int.floor_le_floor above
  rw [Int.floor_add_intCast] at floors
  omega

/-- Few multiples of a slide are in an interval. -/
theorem length_le_ceil {starts : List Int} {slide low high : Int} (pos : 0 < slide)
    (wide : low ≤ high) (nodup : starts.Nodup)
    (within : ∀ start ∈ starts, slide ∣ start ∧ low < start ∧ start ≤ high) :
    (starts.length : ℤ) ≤ ⌈((high - low : ℤ) : ℚ) / slide⌉ := by
  have sub : starts.toFinset ⊆ (Finset.Ioc low high).filter (slide ∣ ·) := by
    intro start member
    obtain ⟨multiple, after, before⟩ := within start (List.mem_toFinset.mp member)
    exact Finset.mem_filter.mpr ⟨Finset.mem_Ioc.mpr ⟨after, before⟩, multiple⟩
  have count := Finset.card_le_card sub
  rw [List.toFinset_card_of_nodup nodup] at count
  have pos' : (0 : ℚ) < slide := by exact_mod_cast pos
  have nonneg : (0 : ℤ) ≤ ⌈((high - low : ℤ) : ℚ) / slide⌉ :=
    Int.ceil_nonneg (div_nonneg (by exact_mod_cast sub_nonneg.mpr wide) pos'.le)
  have floors := floor_sub_floor_le ((high : ℚ) / slide) ((low : ℚ) / slide)
  rw [← sub_div, ← Int.cast_sub] at floors
  calc (starts.length : ℤ) ≤ ((Finset.Ioc low high).filter (slide ∣ ·)).card := by exact_mod_cast count
    _ = max (⌊(high : ℚ) / slide⌋ - ⌊(low : ℚ) / slide⌋) 0 := by
      exact_mod_cast Int.Ioc_filter_dvd_card low high pos
    _ ≤ ⌈((high - low : ℤ) : ℚ) / slide⌉ := max_le floors nonneg

/-! ## Where open windows start -/

namespace Sliding

variable {α κ σ ρ : Type} [BEq κ] [EquivBEq κ] {s : Sliding α κ σ ρ} {P : α → Prop}
  {arrivals : List (Number × α)} {watermark : Number} {o : OpenWindows Int κ σ}
  {entries : List (TimestampedEntry Int κ ρ)}

/-- An open window is open under the watermark, and has an item. -/
theorem Tallies.item_of_mem_starts (tallies : s.Tallies P arrivals watermark o entries) {start : Int}
    (member : start ∈ o.starts) : s.isOpen watermark start = true ∧
      ∃ a ∈ arrivals, ∃ time, s.timeOf a.2 = .ok time ∧ start ∈ s.window.startsFor time := by
  obtain ⟨keyed, found⟩ := (o.mem_starts_iff start).mp member
  have opened : s.isOpen watermark start = true := by
    by_contra closed
    rw [tallies.holds.shut start (Bool.eq_false_iff.mpr closed)] at found
    cases found
  refine ⟨opened, ?_⟩
  obtain ⟨entry, rest, rfl⟩ :=
    List.exists_cons_of_ne_nil (tallies.holds.tidy.held start keyed found).1
  have pair : o.pair? start entry.1 = some entry := by
    rw [OpenWindows.pair?, found, Option.bind_some, Keyed.pair?, List.find?_cons, BEq.refl]
  rw [tallies.holds.live start entry.1 opened] at pair
  cases items : s.contributions arrivals start entry.1 with
  | nil =>
    rw [items] at pair
    cases pair
  | cons first others =>
    have among : first ∈ s.contributions arrivals start entry.1 := items ▸ List.mem_cons_self
    obtain ⟨a, arrived, rfl, -, covered⟩ := mem_contributions among
    obtain ⟨time, -, timed, -, inside, -⟩ := covers_iff.mp covered
    exact ⟨a, arrived, time, timed, inside⟩

/-- Where the open windows start, if the watermark is a whole time and no item is after some time:
at multiples of the slide up to that time, and not a size and the lateness before the watermark. -/
theorem Tallies.start_bounds {mark latest : Int}
    (tallies : s.Tallies P arrivals (.int mark) o entries)
    (within : ∀ a ∈ arrivals, ∀ time, s.timeOf a.2 = .ok time → time ≤ latest) :
    ∀ start ∈ o.starts, s.window.slide ∣ start ∧
      mark - s.lateness - s.window.size < start ∧ start ≤ latest := by
  intro start member
  obtain ⟨opened, a, arrived, time, timed, inside⟩ := tallies.item_of_mem_starts member
  obtain ⟨multiple, before, -⟩ := s.window.mem_startsFor.mp inside
  rw [isOpen, Number.lt_int_iff, SlidingWindow.endOf] at opened
  refine ⟨multiple, by omega, before.trans (within a arrived time timed)⟩

/-- So not many are open. -/
theorem Tallies.windows_le {mark latest : Int}
    (tallies : s.Tallies P arrivals (.int mark) o entries)
    (within : ∀ a ∈ arrivals, ∀ time, s.timeOf a.2 = .ok time → time ≤ latest)
    (wide : mark - s.lateness - s.window.size ≤ latest) :
    (o.windows.length : ℤ) ≤
      ⌈((latest - (mark - s.lateness - s.window.size) : ℤ) : ℚ) / s.window.slide⌉ := by
  have count := length_le_ceil s.window.slide_pos wide tallies.holds.tidy.starts_nodup
    (tallies.start_bounds within)
  rwa [OpenWindows.starts, List.length_map] at count

end Sliding

namespace Dataflow

variable {α : Type}

/-! ## The watermark of an aggregator -/

/-- The time of an operator that reads a stream is the watermark that the stream told last. -/
theorem Operator.Reads.time_eq_told {σ : Type} {operator : Operator α σ}
    {seen sent : List (Output α)} {time : Number} {state : σ}
    (reads : operator.Reads seen time state sent) : time = Output.told seen := by
  induction reads with
  | start => rfl
  | element value _ ih =>
    rw [Output.told_append]
    exact ih
  | watermark later _ ih =>
    rw [Output.told_append]
    rfl
  | ended _ ih =>
    rw [Output.told_append]
    exact ih

namespace Operators

variable {behind : Int} {timeOf : α → Int} {values : List α}
  {timeIn : Option α → α → Except Fault Number} {tracker : WatermarkTracker}

/-- Half the range of floats, and half of that. -/
theorem two_pow_le_greatest : (2 : ℤ) ^ 1022 + 2 ^ 1022 ≤ Binary64.greatest := by
  decide +kernel

/-- After elements at moderate times, the watermark that the origin of event time told last is the
latest time less the lateness. -/
theorem told_originRun (name : String) (fresh : tracker.latest = .negInfinity)
    (timed : ∀ latest, ∀ value ∈ values, timeIn latest value = .ok (.int (timeOf value)))
    (some_ : values ≠ []) (late : tracker.lateness < 2 ^ 1022)
    (moderate : ∀ value ∈ values, |timeOf value| < 2 ^ 1022) :
    ∃ top ∈ values, (∀ other ∈ values, timeOf other ≤ timeOf top) ∧
      Output.told (originRun name timeIn tracker 1 values).outputs =
        .int (timeOf top - tracker.lateness) := by
  obtain ⟨-, follows⟩ := follows_originRun name 1 fresh timed
  obtain ⟨top, member, greatest, -, watermark⟩ := follows.greatest some_
  have near : |timeOf top - tracker.lateness| ≤ Binary64.greatest := by
    have apart := abs_sub (timeOf top) tracker.lateness
    rw [abs_of_nonneg tracker.lateness_nonneg] at apart
    have half := two_pow_le_greatest
    have small := moderate top member
    generalize (2 : ℤ) ^ 1022 = bound at half small late
    linarith
  obtain ⟨x, float⟩ := Number.exists_toFloat near
  have published : (Number.int (timeOf top - tracker.lateness)).hasFloat = true := by
    rw [Number.hasFloat, float]
    rfl
  rw [← watermark] at published
  exact ⟨top, member, greatest, (follows.told published).trans watermark⟩

/-- What the origin of event time sends for elements is in order. -/
theorem orderly_originRun (name : String) (fresh : tracker.latest = .negInfinity)
    (timed : ∀ latest, ∀ value ∈ values, timeIn latest value = .ok (.int (timeOf value))) :
    Output.Orderly (fun _ _ => True) (originRun name timeIn tracker 1 values).outputs ∧
      .ended ∉ (originRun name timeIn tracker 1 values).outputs := by
  obtain ⟨-, -, -, clocked⟩ := @clocked_run α timeOf (fun _ _ => True) values name timeIn tracker
    fresh timed (List.pairwise_of_forall fun _ _ => trivial)
  exact ⟨clocked.orderly, clocked.opened⟩

/-! ## The bound -/

/-- What each step of a chain keeps of the elements, the chain keeps. -/
theorem composed_keeps {γ : Type} {part : α → γ} {steps : List (Transform α)}
    (keeps : ∀ step ∈ steps, ∀ value made, Transform.image step value = some made →
      part made = part value) {value made : α}
    (became : Transform.composed steps value = some made) : part made = part value := by
  induction steps generalizing value with
  | nil => rw [Option.some.inj became]
  | cons step rest ih =>
    obtain ⟨between, first, others⟩ := Option.bind_eq_some_iff.mp became
    rw [ih (fun later member => keeps later (List.mem_cons_of_mem _ member)) others,
      keeps step List.mem_cons_self value between first]

/-- What reaches the end of a chain after an origin of event time: what becomes of the elements, in
order, with the watermarks that the origin sent. -/
theorem arriving_spec (name : String) (fresh : tracker.latest = .negInfinity)
    (timed : ∀ latest, ∀ value ∈ values, timeIn latest value = .ok (.int (timeOf value)))
    (place : Nat) (steps : List (Transform α)) :
    let marked := (originRun name timeIn tracker 1 values).outputs
    let arriving := (Transform.chain place steps marked).1
    Output.Orderly (fun _ _ => True) arriving ∧ .ended ∉ arriving ∧
      Output.elements arriving = values.filterMap (Transform.composed steps) ∧
      Output.told arriving = Output.told marked := by
  intro marked arriving
  obtain ⟨orderly, opened⟩ := orderly_originRun name fresh timed
  have through : arriving = Output.carriedAll (Transform.composed steps) [] marked :=
    Transform.outputs_chain_going place steps opened orderly
  rw [through]
  refine ⟨Output.orderly_carriedAll opened, Output.ended_not_mem_carriedAll opened, ?_, ?_⟩
  · rw [Output.elements_carriedAll, (follows_originRun name 1 fresh timed).2.elements]
  · rw [Output.told, Output.told, Output.watermarks_carriedAll_of_orderly orderly]

/-- Windows over a stream of any length whose elements come in any order, behind an origin of event
time and a chain of maps and filters that keep the times. As many windows are open as there are
slides in the lateness of the stream, that of the windows and the size together, rounded up; all
of them start at or before the latest time that the origin has seen, and less than this before it. -/
theorem open_windows_bounded {κ σ ρ : Type} [BEq κ] [EquivBEq κ] {s : Sliding α κ σ ρ}
    (marks name : String) (wrap : TimestampedEntry Int κ ρ → α) (place : Nat)
    (steps : List (Transform α)) (fresh : tracker.latest = .negInfinity)
    (late : tracker.lateness < 2 ^ 1022) (some_ : values ≠ [])
    (timed : ∀ latest, ∀ value ∈ values, timeIn latest value = .ok (.int (timeOf value)))
    (moderate : ∀ value ∈ values, |timeOf value| < 2 ^ 1022)
    (keeps : ∀ value ∈ values, ∀ made, Transform.composed steps value = some made →
      s.timeOf made = .ok (timeOf value))
    (sound : s.Sound fun made => made ∈ values.filterMap (Transform.composed steps))
    (lateness : 0 ≤ s.lateness) :
    let marked := (originRun marks timeIn tracker 1 values).outputs
    let arriving := (Transform.chain place steps marked).1
    let o := ((Worker.start (window name s.aggregator wrap) 1).run
      (window name s.aggregator wrap)
      (arriving.map (Output.from (some (place + steps.length))))).worker.state
    ∃ top ∈ values, (∀ other ∈ values, timeOf other ≤ timeOf top) ∧
      (o.windows.length : ℤ) ≤
        ⌈((tracker.lateness + s.lateness + s.window.size : ℤ) : ℚ) / s.window.slide⌉ ∧
      ∀ start ∈ o.starts,
        timeOf top - tracker.lateness - s.lateness - s.window.size < start ∧
          start ≤ timeOf top := by
  intro marked arriving o
  obtain ⟨orderly, opened, elements, told⟩ := arriving_spec marks fresh timed place steps
  obtain ⟨top, member, greatest, marked_⟩ := told_originRun marks fresh timed some_ late moderate
  have clock : (window name s.aggregator wrap).ownClock = none := rfl
  obtain ⟨-, reads⟩ := Worker.listens_run clock (some (place + steps.length)) orderly
  have arrive : ∀ made, .element made ∈ arriving →
      made ∈ values.filterMap (Transform.composed steps) := by
    intro made present
    rw [← elements]
    exact List.mem_filterMap.mpr ⟨_, present, rfl⟩
  obtain ⟨entries, windowed⟩ := reads_window sound reads orderly arrive
  have tallies := windowed.live opened
  rw [reads.time_eq_told, told, marked_] at tallies
  have within : ∀ a ∈ Output.arrivals arriving, ∀ time, s.timeOf a.2 = .ok time →
      time ≤ timeOf top := by
    intro a arrived time known
    obtain ⟨value, present, became⟩ := List.mem_filterMap.mp (arrive _ (mem_of_mem_arrivals arrived))
    rw [keeps value present _ became] at known
    exact Except.ok.inj known ▸ greatest value present
  have bounds := tallies.start_bounds within
  have size := s.window.slide_pos.trans_le s.window.slide_le_size
  have nonneg := tracker.lateness_nonneg
  refine ⟨top, member, greatest, ?_, fun start known => (bounds start known).2⟩
  have count := tallies.windows_le within (by omega)
  have width : timeOf top - (timeOf top - tracker.lateness - s.lateness - s.window.size) =
      tracker.lateness + s.lateness + s.window.size := by ring
  rwa [width] at count

/-- The time of a pair of a time and a key. -/
def pairTime (_ : Option (Int × Nat)) (pair : Int × Nat) : Except Fault Number :=
  .ok (.int pair.1)

/-- Drops the pairs with the key nine, and moves the others to the next key. -/
def rekeyed : List (Transform (Int × Nat)) :=
  [.filter "some" fun pair => .ok (pair.2 != 9),
    .map "next" fun pair => .ok (some (pair.1, pair.2 + 1))]

/-- Pairs in disorder; the one with the latest time has the key nine. -/
def disordered : List (Int × Nat) := [(4, 7), (31, 8), (26, 7), (41, 9)]

/-- The last pair is dropped, and what its watermark is behind is closed still. -/
theorem open_windows_bounded_rekeyed :
    let marked := (originRun "marks" pairTime (atRest 2) 1 disordered).outputs
    let o := ((Worker.start (window "pairs" Sliding.pairs.aggregator fun _ => (0, 0)) 1).run
      (window "pairs" Sliding.pairs.aggregator fun _ => (0, 0))
      ((Transform.chain 0 rekeyed marked).1.map (Output.from (some 2)))).worker.state
    (o.windows.length : ℤ) ≤ 2 ∧ ∀ start ∈ o.starts, 26 < start ∧ start ≤ 41 := by
  have keeps : ∀ step ∈ rekeyed, ∀ pair made, Transform.image step pair = some made →
      made.1 = pair.1 := by
    intro step member pair made became
    simp only [rekeyed, List.mem_cons, List.not_mem_nil, or_false] at member
    rcases member with rfl | rfl
    · by_cases nine : pair.2 = 9 <;>
        simp_all [Transform.image, Transform.answer, Except.map, Except.toOption]
    · simp only [Transform.image, Transform.answer, Except.toOption, Option.join_some,
        Option.some.injEq] at became
      rw [← became]
  have fresh : (atRest 2).latest = .negInfinity := rfl
  have late : (atRest 2).lateness < 2 ^ 1022 := by decide +kernel
  have some_ : disordered ≠ [] := List.cons_ne_nil _ _
  have timed : ∀ latest, ∀ pair ∈ disordered, pairTime latest pair = .ok (.int pair.1) :=
    fun _ _ _ => rfl
  have moderate : ∀ pair ∈ disordered, |pair.1| < 2 ^ 1022 := by decide +kernel
  have sound : Sliding.pairs.Sound fun made =>
      made ∈ disordered.filterMap (Transform.composed rekeyed) :=
    Sliding.pairs.sound_of_total (fun pair => ⟨pair.1, rfl⟩) (fun pair => ⟨pair.2, rfl⟩)
      (fun acc pair => ⟨acc ++ [pair], rfl⟩) (fun acc => ⟨acc, rfl⟩) _
  obtain ⟨top, member, greatest, count, starts⟩ := open_windows_bounded "marks" "pairs"
    (fun _ => (0, 0)) 0 rekeyed fresh late some_ timed moderate
    (fun pair _ made became => congrArg Except.ok (composed_keeps keeps became)) sound (by decide)
  have latest : top.1 = 41 := by
    clear * - member greatest
    have above := greatest (41, 9) (by simp [disordered])
    simp only [disordered, List.mem_cons, List.not_mem_nil, or_false] at member
    rcases member with rfl | rfl | rfl | rfl <;> simp_all
  rw [latest] at starts
  have bound : ⌈(((atRest 2).lateness + Sliding.pairs.lateness + Sliding.pairs.window.size : ℤ) : ℚ) /
      Sliding.pairs.window.slide⌉ = 2 := by
    norm_num [atRest, Sliding.pairs, Int.ceil_eq_iff]
  rw [bound] at count
  exact ⟨count, starts⟩

end Operators

end Dataflow

end FlightStream
