import FlightStream.Aggregation
import FlightStream.Proofs.Computation
import Mathlib.Data.Int.Order.Basic
import Mathlib.Data.List.Induction
import Mathlib.Order.Basic

/-!
What the five kinds of aggregation come to over some items. Points and values are folded as if they
had been read from all items before, `foldlM_read_iff`, and of items with keys the earliest of the
greatest key is kept, `run_maxBy`. Two aggregations side by side do what each does alone,
`fold_allOf_iff`.
-/

namespace FlightStream

namespace Aggregation

/-! ## Two aggregations side by side -/

section SideBySide

variable {α σ τ ρ κ μ : Type} {first : Aggregation α σ ρ} {second : Aggregation α τ κ}
  {combine : ρ → κ → Except Fault μ} {items : List α}

theorem fold_concat (a : Aggregation α σ ρ) (items : List α) (item : α) :
    a.fold (items ++ [item]) = a.fold items >>= fun acc => (a.accumulate acc item).result := by
  simp [fold]

theorem run_iff {a : Aggregation α σ ρ} {result : ρ} :
    a.run items = .ok result ↔ ∃ acc, a.fold items = .ok acc ∧ a.finish acc = .ok result :=
  bind_eq_ok_iff

theorem accumulate_allOf_iff {acc last : σ × τ} {item : α} :
    ((allOf first second combine).accumulate acc item).result = .ok last ↔
      (first.accumulate acc.1 item).result = .ok last.1 ∧
        (second.accumulate acc.2 item).result = .ok last.2 := by
  obtain ⟨one, two⟩ := last
  simp only [allOf]
  cases (first.accumulate acc.1 item).result with
  | error fault => simp
  | ok next => cases (second.accumulate acc.2 item).result <;> simp [Except.map]

/-- Each side folds the items as if the other were not there. -/
theorem fold_allOf_iff {last : σ × τ} :
    (allOf first second combine).fold items = .ok last ↔
      first.fold items = .ok last.1 ∧ second.fold items = .ok last.2 := by
  induction items using List.reverseRecOn generalizing last with
  | nil =>
    obtain ⟨one, two⟩ := last
    simp [fold, allOf, pure, Except.pure]
  | append_singleton items item ih =>
    simp only [fold_concat, bind_eq_ok_iff, accumulate_allOf_iff, ih]
    constructor
    · rintro ⟨acc, ⟨one, two⟩, next, also⟩
      exact ⟨⟨acc.1, one, next⟩, acc.2, two, also⟩
    · rintro ⟨⟨one, folded, next⟩, two, also, last⟩
      exact ⟨(one, two), ⟨folded, also⟩, next, last⟩

/-- The result is what the function makes of the results of the two sides. -/
theorem run_allOf_iff {result : μ} :
    (allOf first second combine).run items = .ok result ↔
      ∃ one two, first.run items = .ok one ∧ second.run items = .ok two ∧
        combine one two = .ok result := by
  have finish_iff : ∀ acc : σ × τ, (allOf first second combine).finish acc = .ok result ↔
      ∃ one, first.finish acc.1 = .ok one ∧ ∃ two, second.finish acc.2 = .ok two ∧
        combine one two = .ok result := by
    intro acc
    simp only [allOf, bind_eq_ok_iff]
  simp only [run_iff, fold_allOf_iff, finish_iff]
  constructor
  · rintro ⟨acc, ⟨folded, also⟩, one, finished, two, last, combined⟩
    exact ⟨one, two, ⟨acc.1, folded, finished⟩, ⟨acc.2, also, last⟩, combined⟩
  · rintro ⟨one, two, ⟨acc, folded, finished⟩, ⟨other, also, last⟩, combined⟩
    exact ⟨(acc, other), ⟨folded, also⟩, one, finished, two, last, combined⟩

end SideBySide

/-! ## The single kinds -/

section Kinds

variable {α : Type} {items : List α}

theorem run_toList : (toList : Aggregation α _ _).run items = .ok items := by
  have folded : (toList : Aggregation α _ _).fold items = .ok items := by
    induction items using List.reverseRecOn with
    | nil => rfl
    | append_singleton items item ih =>
      rw [fold_concat, ih]
      rfl
  exact run_iff.mpr ⟨items, folded, rfl⟩

/-- The slope is that of the sums over the points of all items. -/
theorem run_linearTrend_iff {point : α → Except Fault (Number × Number)} {slope : Float} :
    (linearTrend point).run items = .ok slope ↔ ∃ points, items.mapM point = .ok points ∧
      ∃ trend, LinearTrend.ofSamples points = .ok trend ∧ trend.slope = .ok slope := by
  have step : (fun acc item => ((linearTrend point).accumulate acc item).result) =
      fun acc item => point item >>= fun sample => (acc.accumulate sample.1 sample.2).result := by
    funext acc item
    simp only [linearTrend]
    cases point item <;> rfl
  have folds : ∀ {trend}, (linearTrend point).fold items = .ok trend ↔
      ∃ points, items.mapM point = .ok points ∧ LinearTrend.ofSamples points = .ok trend := by
    intro trend
    rw [fold, step]
    exact foldlM_read_iff
  rw [run_iff]
  constructor
  · rintro ⟨trend, folded, divided⟩
    obtain ⟨points, read, summed⟩ := folds.mp folded
    exact ⟨points, read, trend, summed, divided⟩
  · rintro ⟨points, read, trend, summed, divided⟩
    exact ⟨trend, folds.mpr ⟨points, read, summed⟩, divided⟩

/-- The sum goes over the values of all items from left to right. -/
theorem run_summing_iff {value : α → Except Fault Float} {sum : Float} :
    (summing value).run items = .ok sum ↔
      ∃ values, items.mapM value = .ok values ∧ values.foldl (· + ·) 0 = sum := by
  have step : (fun acc item => ((summing value).accumulate acc item).result) =
      fun acc item => value item >>= fun x => pure (acc + x) := by
    funext acc item
    simp only [summing]
    cases value item <;> rfl
  have folds : ∀ {total}, (summing value).fold items = .ok total ↔
      ∃ values, items.mapM value = .ok values ∧ values.foldl (· + ·) 0 = total := by
    intro total
    rw [fold, step, foldlM_read_iff]
    simp only [List.foldlM_pure]
    simp only [pure, Except.pure, Except.ok.injEq]
    rfl
  rw [run_iff]
  constructor
  · rintro ⟨total, folded, ⟨⟩⟩
    exact folds.mp folded
  · exact fun summed => ⟨sum, folds.mpr summed, rfl⟩

/-- Whether the key of an item is above the key of the item kept. -/
def exceedsBy (key : α → Except Fault Int) (item kept : α) : Except Fault Bool := do
  let above ← key item
  let below ← key kept
  return decide (below < above)

/-- Among items with keys, the fold keeps one that is above all before it and not below any after
it. -/
theorem fold_maxBy {key : α → Except Fault Int} {level : α → Int}
    (levels : ∀ item ∈ items, key item = .ok (level item)) (some_ : items ≠ []) :
    ∃ before kept after, items = before ++ kept :: after ∧
      (maxBy (exceedsBy key)).fold items = .ok (some kept) ∧
      (∀ item ∈ before, level item < level kept) ∧ ∀ item ∈ after, level item ≤ level kept := by
  induction items using List.reverseRecOn with
  | nil => exact absurd rfl some_
  | append_singleton items item ih =>
    obtain ⟨old, own⟩ := List.forall_mem_append.mp levels
    have last := own item List.mem_cons_self
    by_cases none : items = []
    · subst none
      exact ⟨[], item, [], rfl, rfl, by simp, by simp⟩
    · obtain ⟨before, kept, after, split, folded, early, late⟩ := ih old none
      have held := old kept (split ▸ by simp)
      have exceeds : exceedsBy key item kept = .ok (decide (level kept < level item)) := by
        simp only [exceedsBy, last, held]
        rfl
      rw [fold_concat, folded]
      by_cases above : level kept < level item
      · refine ⟨items, item, [], rfl, ?_, ?_, by simp⟩
        · simp [maxBy, bind, Except.bind, exceeds, Except.map, above]
        · subst split
          intro other member
          rcases List.mem_append.mp member with first | rest
          · exact (early other first).trans above
          · rcases List.mem_cons.mp rest with rfl | rest
            · exact above
            · exact (late other rest).trans_lt above
      · refine ⟨before, kept, after ++ [item], by simp [split], ?_, early, ?_⟩
        · simp [maxBy, bind, Except.bind, exceeds, Except.map, above]
        · intro other member
          rcases List.mem_append.mp member with first | rest
          · exact late other first
          · rw [List.mem_singleton.mp rest]
            exact not_lt.mp above

/-- The earliest item of the greatest key, if there is an item. -/
def earliestGreatest (keyed : List (Int × α)) : Option α :=
  (keyed.find? fun pair => keyed.all fun other => decide (other.1 ≤ pair.1)).map (·.2)

/-- An item above all before it and not below any after it is the earliest of the greatest key. -/
theorem earliestGreatest_split {before after : List (Int × α)} {pair : Int × α}
    (early : ∀ other ∈ before, other.1 < pair.1) (late : ∀ other ∈ after, other.1 ≤ pair.1) :
    earliestGreatest (before ++ pair :: after) = some pair.2 := by
  have found : (before ++ pair :: after).find? (fun one =>
      (before ++ pair :: after).all fun other => decide (other.1 ≤ one.1)) = some pair := by
    refine List.find?_eq_some_iff_append.mpr ⟨?_, before, after, rfl, fun one member => ?_⟩
    · simp only [List.all_eq_true, decide_eq_true_eq]
      intro other present
      rcases List.mem_append.mp present with first | rest
      · exact (early other first).le
      · rcases List.mem_cons.mp rest with rfl | rest
        · exact le_refl _
        · exact late other rest
    · simp only [Bool.not_eq_true', List.all_eq_false, decide_eq_true_eq, not_le]
      exact ⟨pair, by simp, early one member⟩
  rw [earliestGreatest, found]
  rfl

/-- Where the keys of the items can be read, what is kept is the earliest item of the greatest
key. -/
theorem run_maxBy {key : α → Except Fault Int} (reads : Reads key items) :
    ∃ keyed, items.mapM (fun item => return (← key item, item)) = .ok keyed ∧
      (maxBy (exceedsBy key)).run items = .ok (earliestGreatest keyed) := by
  obtain ⟨level, levels⟩ := reads.exists_eq
  have read : items.mapM (fun item => return (← key item, item)) =
      .ok (items.map fun item => (level item, item)) := by
    refine mapM_of_forall fun item member => ?_
    rw [levels item member]
    rfl
  refine ⟨_, read, ?_⟩
  by_cases none : items = []
  · subst none
    rfl
  · obtain ⟨before, kept, after, split, folded, early, late⟩ := fold_maxBy levels none
    have chosen : earliestGreatest (items.map fun item => (level item, item)) = some kept := by
      rw [split, List.map_append, List.map_cons]
      refine earliestGreatest_split ?_ ?_
      · simpa using early
      · simpa using late
    rw [chosen]
    exact run_iff.mpr ⟨some kept, folded, rfl⟩

end Kinds

end Aggregation

end FlightStream
