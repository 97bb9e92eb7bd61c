import FlightStream.FlightJob.Pipeline
import FlightStream.Proofs.Aggregation

/-!
Aggregations nested in one another. A `Composite` is any nesting of the five kinds: `aggregation` is
the fold that it builds, with the accumulators of its parts side by side, and `outcome` is what it
stands for, by recursion over the nesting and without accumulators. Where the keys of the items can
be read, the fold returns exactly the outcome, `run_iff_outcome`.
-/

namespace FlightStream

/-- A nesting of aggregations over items `α` with results `ρ`. -/
inductive Composite (α : Type) : Type → Type 1
  | toList : Composite α (List α)
  | linearTrend (point : α → Except Fault (Number × Number)) : Composite α Float
  | maxBy (key : α → Except Fault Int) : Composite α (Option α)
  | summing (value : α → Except Fault Float) : Composite α Float
  | allOf {ρ κ μ : Type} (first : Composite α ρ) (second : Composite α κ)
      (combine : ρ → κ → Except Fault μ) : Composite α μ

namespace Composite

variable {α : Type}

/-- What a nested aggregation accumulates. -/
def Acc {ρ : Type} : Composite α ρ → Type
  | .toList => List α
  | .linearTrend _ => LinearTrend
  | .maxBy _ => Option α
  | .summing _ => Float
  | .allOf first second _ => first.Acc × second.Acc

/-- The fold that a nesting builds. -/
def aggregation {ρ : Type} : (c : Composite α ρ) → Aggregation α c.Acc ρ
  | .toList => .toList
  | .linearTrend point => .linearTrend point
  | .maxBy key => .maxBy (Aggregation.exceedsBy key)
  | .summing value => .summing value
  | .allOf first second combine => .allOf first.aggregation second.aggregation combine

/-- What a nesting stands for: the items in order, the slope of the line through their points, the
earliest item of the greatest key, the sum of the values from the left, or what the function makes
of what the two sides stand for. -/
def outcome {ρ : Type} : Composite α ρ → List α → Except Fault ρ
  | .toList, items => return items
  | .linearTrend point, items => do
    let (slope, _) ← LinearTrend.classify (← items.mapM point)
    return slope
  | .maxBy key, items => do
    return Aggregation.earliestGreatest (← items.mapM fun item => return (← key item, item))
  | .summing value, items => return (← items.mapM value).foldl (· + ·) 0
  | .allOf first second combine, items => do
    combine (← first.outcome items) (← second.outcome items)

/-- Whether the keys of all items can be read. -/
def ReadsKeys {ρ : Type} : Composite α ρ → List α → Prop
  | .toList, _ | .linearTrend _, _ | .summing _, _ => True
  | .maxBy key, items => Reads key items
  | .allOf first second _, items => first.ReadsKeys items ∧ second.ReadsKeys items

/-- Whether no function of a nesting fails on some items: points, keys and values are read, their
sums and the slope exist, and the results of two sides combine. -/
def Quiet {ρ : Type} : Composite α ρ → List α → Prop
  | .toList, _ => True
  | .linearTrend point, items => ∃ points trend slope, items.mapM point = .ok points ∧
      LinearTrend.ofSamples points = .ok trend ∧ trend.slope = .ok slope
  | .maxBy key, items => Reads key items
  | .summing value, items => Reads value items
  | .allOf first second combine, items => first.Quiet items ∧ second.Quiet items ∧
      ∀ one two, first.outcome items = .ok one → second.outcome items = .ok two →
        ∃ result, combine one two = .ok result

/-- Where the keys of the items can be read, the fold of a nesting returns exactly what the nesting
stands for. -/
theorem run_iff_outcome {ρ : Type} (c : Composite α ρ) {items : List α}
    (readable : c.ReadsKeys items) {result : ρ} :
    c.aggregation.run items = .ok result ↔ c.outcome items = .ok result := by
  induction c with
  | toList =>
    rw [show (toList : Composite α (List α)).aggregation.run items = _ from Aggregation.run_toList]
    rfl
  | linearTrend point =>
    refine Aggregation.run_linearTrend_iff.trans ?_
    simp only [outcome, LinearTrend.classify, bind_eq_ok_iff]
    constructor
    · rintro ⟨points, read, trend, summed, divided⟩
      exact ⟨points, read, _, ⟨trend, summed, result, divided, rfl⟩, rfl⟩
    · rintro ⟨points, read, _, ⟨trend, summed, _, divided, ⟨⟩⟩, ⟨⟩⟩
      exact ⟨points, read, trend, summed, divided⟩
  | maxBy key =>
    obtain ⟨keyed, read, ran⟩ := Aggregation.run_maxBy readable
    rw [outcome, read]
    rw [show (maxBy key).aggregation.run items = _ from ran]
    rfl
  | summing value =>
    refine Aggregation.run_summing_iff.trans ?_
    simp only [outcome, bind_eq_ok_iff]
    simp [pure, Except.pure]
  | allOf first second combine one two =>
    refine Aggregation.run_allOf_iff.trans ?_
    simp only [outcome, bind_eq_ok_iff, one readable.1, two readable.2]
    constructor
    · rintro ⟨one, two, ran, also, combined⟩
      exact ⟨one, ran, two, also, combined⟩
    · rintro ⟨one, ran, two, also, combined⟩
      exact ⟨one, two, ran, also, combined⟩

theorem Quiet.readsKeys {ρ : Type} {c : Composite α ρ} {items : List α} (quiet : c.Quiet items) :
    c.ReadsKeys items := by
  induction c with
  | toList | linearTrend | summing => trivial
  | maxBy key => exact quiet
  | allOf first second combine one two => exact ⟨one quiet.1, two quiet.2.1⟩

theorem Quiet.exists_outcome {ρ : Type} {c : Composite α ρ} {items : List α}
    (quiet : c.Quiet items) : ∃ result, c.outcome items = .ok result := by
  induction c with
  | toList => exact ⟨items, rfl⟩
  | linearTrend point =>
    obtain ⟨points, trend, slope, read, summed, divided⟩ := quiet
    refine ⟨slope, ?_⟩
    simp only [outcome, LinearTrend.classify, read, summed, divided, bind, Except.bind]
    rfl
  | maxBy key =>
    obtain ⟨keyed, read, -⟩ := Aggregation.run_maxBy quiet
    exact ⟨_, by rw [outcome, read]; rfl⟩
  | summing value =>
    obtain ⟨f, values⟩ := Reads.exists_eq quiet
    exact ⟨_, by rw [outcome, mapM_of_forall values]; rfl⟩
  | allOf first second combine one two =>
    obtain ⟨left, right, combines⟩ := quiet
    obtain ⟨a, came⟩ := one left
    obtain ⟨b, also⟩ := two right
    obtain ⟨result, combined⟩ := combines a b came also
    exact ⟨result, by simp only [outcome, came, also, bind, Except.bind, combined]⟩

/-- A nesting of aggregations computes what its parts stand for. On items on which none of its
functions fails, it gives a result, and this is the outcome of the nesting. -/
theorem computes_parts {ρ : Type} (c : Composite α ρ) {items : List α} (quiet : c.Quiet items) :
    ∃ result, c.outcome items = .ok result ∧ c.aggregation.run items = .ok result := by
  obtain ⟨result, came⟩ := quiet.exists_outcome
  exact ⟨result, came, (c.run_iff_outcome quiet.readsKeys).mpr came⟩

example (aircraft : List ClassifiedAircraft) : FlightJob.flightAggregation.run aircraft =
    (allOf .toList (.linearTrend FlightJob.altitudePoint) fun events slope =>
      assignVerticalDirection events (.float slope)).aggregation.run aircraft := rfl

/-- The number of the greatest last digit, and all numbers. -/
def digits : Composite Int (Option Int × List Int) :=
  allOf (.maxBy fun n => .ok (n % 10)) .toList fun greatest all => .ok (greatest, all)

/-- The line of slope two through numbers, and their sum. -/
def doubles : Composite Int (Float × Float) :=
  allOf (.linearTrend fun n => .ok (.int n, .int (2 * n)))
    (.summing fun n => (Number.int n).toFloat) fun slope sum => .ok (slope, sum)

/-- One nesting on both sides of another, which holds a third. -/
def nested : Composite Int ((Option Int × List Int) × (Float × Float) × Option Int × List Int) :=
  allOf digits (allOf doubles digits fun one two => .ok (one, two)) fun one two => .ok (one, two)

/-- Two of the numbers have the greatest last digit, and both sides keep the first of them. -/
theorem computes_parts_nested : nested.Quiet [13, 27, 47, 21] ∧
    ∃ result, nested.aggregation.run [13, 27, 47, 21] = .ok result ∧
      result.1 = (some 27, [13, 27, 47, 21]) ∧ result.2.1.1.toBits = 0x4000000000000000 ∧
      result.2.1.2.toBits = 0x405b000000000000 ∧ result.2.2 = result.1 := by
  have reads : digits.Quiet [13, 27, 47, 21] :=
    ⟨fun n _ => ⟨n % 10, rfl⟩, trivial, fun one two _ _ => ⟨(one, two), rfl⟩⟩
  have floats : ∀ n ∈ [13, 27, 47, 21], ∃ x, (Number.int n).toFloat = .ok x := by
    simp only [List.forall_mem_cons]
    exact ⟨⟨_, rfl⟩, ⟨_, rfl⟩, ⟨_, rfl⟩, ⟨_, rfl⟩, by simp⟩
  have sums : doubles.Quiet [13, 27, 47, 21] :=
    ⟨⟨_, _, _, rfl, rfl, rfl⟩, floats, fun one two _ _ => ⟨(one, two), rfl⟩⟩
  have quiet : nested.Quiet [13, 27, 47, 21] :=
    ⟨reads, ⟨sums, reads, fun one two _ _ => ⟨(one, two), rfl⟩⟩,
      fun one two _ _ => ⟨(one, two), rfl⟩⟩
  obtain ⟨result, came, ran⟩ := computes_parts nested quiet
  have parts : (nested.outcome [13, 27, 47, 21]).toOption.map (fun result =>
      (result.1, result.2.1.1.toBits, result.2.1.2.toBits, result.2.2)) =
      some ((some 27, [13, 27, 47, 21]), 0x4000000000000000, 0x405b000000000000,
        (some 27, [13, 27, 47, 21])) := by decide +kernel
  rw [came] at parts
  simp only [Except.toOption, Option.map_some, Option.some.injEq, Prod.mk.injEq] at parts
  obtain ⟨first, slope, sum, second⟩ := parts
  exact ⟨quiet, result, ran, first, slope, sum, second.trans first.symm⟩

end Composite

end FlightStream
