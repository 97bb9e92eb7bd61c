import FlightStream.FlightJob.Pipeline
import FlightStream.Proofs.Aggregation
import FlightStream.Proofs.Trend
import Mathlib.Data.List.Pairwise

/-!
The three aggregations of the flight job. Flights never fail on low-flying aircraft, whatever their
times; the loudest entry has the greatest level; the emission is the sum from left to right.
-/

namespace FlightStream

/-! ## Folds that keep an item -/

/-- A list of images has a list of originals. -/
theorem exists_map_of_forall {α β : Type} {f : α → β} {Q : α → Prop} {items : List β}
    (all : ∀ item ∈ items, ∃ x, item = f x ∧ Q x) :
    ∃ xs : List α, items = xs.map f ∧ ∀ x ∈ xs, Q x := by
  induction items with
  | nil => exact ⟨[], rfl, fun _ member => nomatch member⟩
  | cons first rest ih =>
    obtain ⟨x, rfl, own⟩ := all first List.mem_cons_self
    obtain ⟨xs, rfl, others⟩ := ih fun item member => all item (List.mem_cons_of_mem _ member)
    exact ⟨x :: xs, rfl, List.forall_mem_cons.mpr ⟨own, others⟩⟩

section Latest

variable {α : Type} (timeOf : α → Int)

/-- One more item is the latest unless the latest before it is later. -/
theorem latest?_concat {items : List α} {kept : α} (chosen : latest? timeOf items = some kept)
    (item : α) :
    latest? timeOf (items ++ [item]) = some (if timeOf item < timeOf kept then kept else item) := by
  cases items with
  | nil => cases chosen
  | cons first rest =>
    have same := Option.some.inj chosen
    rw [List.cons_append, latest?, List.foldl_concat, same]

/-- The latest item is none that comes before a later one, and of those that share its time it is
the last. -/
theorem exists_latest {items : List α} (some_ : items ≠ []) :
    ∃ before latest after, items = before ++ latest :: after ∧
      latest? timeOf items = some latest ∧ (∀ item ∈ before, timeOf item ≤ timeOf latest) ∧
      ∀ item ∈ after, timeOf item < timeOf latest := by
  induction items using List.reverseRecOn with
  | nil => exact absurd rfl some_
  | append_singleton items item ih =>
    by_cases none : items = []
    · subst none
      exact ⟨[], item, [], rfl, rfl, by simp, by simp⟩
    · obtain ⟨before, latest, after, rfl, chosen, early, late⟩ := ih none
      rw [latest?_concat timeOf chosen]
      by_cases behind : timeOf item < timeOf latest
      · refine ⟨before, latest, after ++ [item], by simp, by rw [if_pos behind], early, ?_⟩
        intro other member
        rcases List.mem_append.mp member with old | new
        · exact late other old
        · rw [List.mem_singleton.mp new]
          exact behind
      · refine ⟨before ++ latest :: after, item, [], rfl, by rw [if_neg behind], ?_, by simp⟩
        have ahead := not_lt.mp behind
        intro other member
        rcases List.mem_append.mp member with old | new
        · exact (early other old).trans ahead
        · rcases List.mem_cons.mp new with rfl | new
          · exact ahead
          · exact (late other new).le.trans ahead

/-- The latest item is one of the items, and no item is later. -/
theorem latest?_spec {items : List α} (some_ : items ≠ []) :
    ∃ latest ∈ items, latest? timeOf items = some latest ∧
      ∀ item ∈ items, timeOf item ≤ timeOf latest := by
  obtain ⟨before, latest, after, rfl, chosen, early, late⟩ := exists_latest timeOf some_
  refine ⟨latest, by simp, chosen, fun item member => ?_⟩
  rcases List.mem_append.mp member with first | rest
  · exact early item first
  · rcases List.mem_cons.mp rest with rfl | rest
    · exact le_refl _
    · exact (late item rest).le

end Latest

namespace FlightJob

/-- Folding elements made from items is folding the items. -/
theorem fold_onElements {α σ ρ : Type} (a : Aggregation α σ ρ) {item : Element → Except Fault α}
    {make : α → Element} (made : ∀ x, item (make x) = .ok x) (xs : List α) :
    (onElements a item).fold (xs.map make) = a.fold xs := by
  unfold Aggregation.fold
  rw [List.foldlM_map]
  congr 1
  funext acc x
  simp [onElements, made]

theorem run_onElements {α σ ρ : Type} (a : Aggregation α σ ρ) {item : Element → Except Fault α}
    {make : α → Element} (made : ∀ x, item (make x) = .ok x) (xs : List α) :
    (onElements a item).run (xs.map make) = a.run xs := by
  rw [Aggregation.run, fold_onElements a made]
  rfl

/-! ## Flights -/

/-- Time and altitude of an aircraft. -/
def pointOf (a : ClassifiedAircraft) : Int × Int := (a.posTime, a.alt)

/-- An aircraft goes into the list and into the trend. -/
theorem step_flight (taken : List ClassifiedAircraft) (points : List (Int × Int))
    (a : ClassifiedAircraft) :
    (flightAggregation.accumulate (taken, LinearTrend.ofPoints points) a).result =
      .ok (taken ++ [a], LinearTrend.ofPoints (points ++ [pointOf a])) := by
  have trend := LinearTrend.accumulate_ofPoints points (pointOf a)
  simp only [flightAggregation, Aggregation.allOf, Aggregation.toList, Aggregation.linearTrend,
    altitudePoint]
  simp only [pointOf] at trend ⊢
  rw [trend]
  rfl

theorem fold_flight (aircraft : List ClassifiedAircraft) :
    flightAggregation.fold aircraft =
      .ok (aircraft, LinearTrend.ofPoints (aircraft.map pointOf)) := by
  induction aircraft using List.reverseRecOn with
  | nil => rfl
  | append_singleton before last ih =>
    rw [Aggregation.fold_concat, ih, List.map_append]
    exact step_flight before (before.map pointOf) last

/-- The flight of aircraft below a ceiling is the latest of them with a direction. -/
theorem run_flight {ceiling : Int} (bound : ceiling ≤ Binary64.greatest)
    {aircraft : List ClassifiedAircraft} (some_ : aircraft ≠ [])
    (low : ∀ a ∈ aircraft, 0 < a.alt ∧ a.alt < ceiling) :
    ∃ latest slope, latest ∈ aircraft ∧ latest? (fun a => a.posTime) aircraft = some latest ∧
      (LinearTrend.ofPoints (aircraft.map pointOf)).slope = .ok slope ∧
      flightAggregation.run aircraft = .ok (latest.withDirection (.ofSlope slope)) := by
  obtain ⟨latest, member, chosen, -⟩ := latest?_spec (fun a => a.posTime) some_
  have near : ∀ p ∈ aircraft.map pointOf, ∀ q ∈ aircraft.map pointOf,
      |q.2 - p.2| ≤ Binary64.greatest := by
    intro p one q other
    obtain ⟨a, present, rfl⟩ := List.mem_map.mp one
    obtain ⟨b, also, rfl⟩ := List.mem_map.mp other
    have := low a present
    have := low b also
    rw [abs_le]
    simp only [pointOf]
    constructor <;> omega
  obtain ⟨slope, divided⟩ := LinearTrend.exists_slope near
  refine ⟨latest, slope, member, chosen, divided, ?_⟩
  rw [Aggregation.run, fold_flight]
  simp only [bind, Except.bind, flightAggregation, Aggregation.allOf, Aggregation.toList,
    Aggregation.linearTrend, divided, assignVerticalDirection, chosen]
  rfl

theorem run_flight_eq (aircraft : List ClassifiedAircraft) :
    flightAggregation.run aircraft =
      (LinearTrend.ofPoints (aircraft.map pointOf)).slope >>= fun slope =>
        assignVerticalDirection aircraft (.float slope) := by
  rw [Aggregation.run, fold_flight]
  rfl

/-- Where no two items have one time, the latest does not depend on their order. -/
theorem latest?_perm {α : Type} {timeOf : α → Int} {items others : List α}
    (same : items.Perm others) (distinct : items.Pairwise fun a b => timeOf a ≠ timeOf b) :
    latest? timeOf items = latest? timeOf others := by
  by_cases some_ : items = []
  · subst some_
    rw [same.nil_eq]
  · have others_some : others ≠ [] := fun none => some_ (same.trans (none ▸ .nil)).eq_nil
    obtain ⟨one, member, chosen, bound⟩ := latest?_spec timeOf some_
    obtain ⟨other, also, picked, limit⟩ := latest?_spec timeOf others_some
    rw [chosen, picked]
    have tie : timeOf one = timeOf other :=
      le_antisymm (limit one (same.mem_iff.mp member)) (bound other (same.mem_iff.mpr also))
    have : Std.Symm fun a b : α => timeOf a ≠ timeOf b := ⟨fun _ _ => Ne.symm⟩
    congr 1
    by_contra apart
    exact distinct.forall member (same.mem_iff.mpr also) apart tie

/-- The flight of aircraft with different times does not depend on their order. -/
theorem run_flight_perm {aircraft others : List ClassifiedAircraft} (same : aircraft.Perm others)
    (distinct : aircraft.Pairwise fun a b => a.posTime ≠ b.posTime) :
    flightAggregation.run aircraft = flightAggregation.run others := by
  have points : LinearTrend.ofPoints (aircraft.map pointOf) =
      LinearTrend.ofPoints (others.map pointOf) := by
    have moved := same.map pointOf
    simp only [LinearTrend.ofPoints, moved.length_eq, (moved.map (·.1)).sum_eq,
      (moved.map (·.2)).sum_eq, (moved.map fun p => p.1 * p.1).sum_eq,
      (moved.map fun p => p.1 * p.2).sum_eq]
  rw [run_flight_eq, run_flight_eq, points]
  congr 1
  funext slope
  unfold assignVerticalDirection
  rw [latest?_perm same distinct]

/-! ## The loudest flight and the total emission -/

/-- The entry of the greatest level. -/
def loudestAggregation : Aggregation NoiseEntry (Option NoiseEntry) (Option NoiseEntry) :=
  .maxBy fun a b => .ok (decide (b.value < a.value))

/-- The level of the loudest entry is the greatest level. -/
theorem run_loudest {entries : List NoiseEntry} (some_ : entries ≠ []) :
    ∃ kept ∈ entries, loudestAggregation.run entries = .ok (some kept) ∧
      (entries.map (·.value)).max? = some kept.value := by
  obtain ⟨before, kept, after, rfl, folded, early, late⟩ :=
    @Aggregation.fold_maxBy _ entries (fun e => .ok e.value) (fun e => e.value) (fun _ _ => rfl) some_
  refine ⟨kept, by simp, Aggregation.run_iff.mpr ⟨some kept, folded, rfl⟩, ?_⟩
  refine List.max?_eq_some_iff.mpr ⟨List.mem_map.mpr ⟨kept, by simp, rfl⟩, ?_⟩
  intro level present
  obtain ⟨entry, other, rfl⟩ := List.mem_map.mp present
  rcases List.mem_append.mp other with first | rest
  · exact (early entry first).le
  · rcases List.mem_cons.mp rest with rfl | rest
    · exact le_refl _
    · exact late entry rest

/-- The sum of the emissions. -/
def totalAggregation : Aggregation EmissionEntry Float Float := .summing fun e => .ok e.value

theorem run_total (entries : List EmissionEntry) :
    totalAggregation.run entries = .ok ((entries.map (·.value)).foldl (· + ·) 0) := by
  exact Aggregation.run_summing_iff.mpr ⟨_, mapM_of_forall fun _ _ => rfl, rfl⟩

end FlightJob

end FlightStream
