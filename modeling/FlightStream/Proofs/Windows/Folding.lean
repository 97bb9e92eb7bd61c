import FlightStream.Proofs.Windows.Tally

/-!
Items that accumulators never fail on. Such an item goes into all of its windows if it comes in
time, and is not counted as late. This holds whether or not windows fail when they are closed: what
is left open is not touched by that, and nothing is counted.
-/

namespace FlightStream

variable {α κ σ ρ : Type}

/-- All accumulators of open windows satisfy `A`. -/
def OpenWindows.Each [BEq κ] (o : OpenWindows Int κ σ) (A : σ → Prop) : Prop :=
  ∀ start key acc, o.accumulator? start key = some acc → A acc

theorem OpenWindows.accumulator?_store_ensure [BEq κ] [EquivBEq κ] (o : OpenWindows Int κ σ)
    (start other : Int) (key another : κ) (acc : σ) :
    ((o.ensure start).store start key acc).accumulator? other another =
      if start = other ∧ (key == another) = true then some acc
      else o.accumulator? other another := by
  rw [accumulator?_eq, pair?_store_ensure, accumulator?_eq]
  split <;> rfl

namespace WindowAggregator

variable (agg : WindowAggregator Int Int α κ σ ρ) {o : OpenWindows Int κ σ}

theorem late_closeEach (starts : List Int) : (agg.closeEach o starts).1.late = o.late := by
  induction starts generalizing o with
  | nil => rfl
  | cons start rest ih =>
    unfold closeEach
    split
    · rfl
    · exact ih (o := o.discard start)

theorem each_closeEach [BEq κ] {A : σ → Prop} (each : o.Each A) (starts : List Int) :
    (agg.closeEach o starts).1.Each A := by
  have less : ∀ {o : OpenWindows Int κ σ}, o.Each A → ∀ start, (o.discard start).Each A := by
    intro o each start other key acc found
    unfold OpenWindows.accumulator? at found
    rw [OpenWindows.accumulators?_discard] at found
    split at found
    · cases found
    · exact each other key acc found
  induction starts generalizing o with
  | nil => exact each
  | cons start rest ih =>
    unfold closeEach
    split
    · exact less each start
    · exact ih (less each start)

/-- Closing windows counts nothing, and leaves the other accumulators as they are. -/
theorem close_keeps [BEq κ] {A : σ → Prop} (each : o.Each A) (starts : List Int) :
    (agg.close o starts).1.late = o.late ∧ (agg.close o starts).1.Each A := by
  have kept := agg.late_closeEach (o := o) starts
  have still := agg.each_closeEach each starts
  unfold close
  split
  · exact ⟨rfl, each⟩
  · split
    · rename_i failed
      rw [failed] at kept still
      exact ⟨kept, still⟩
    · rename_i closed
      rw [closed] at kept still
      exact ⟨kept, still⟩

end WindowAggregator

namespace Sliding

/-- Taking items that satisfy `P` never fails: each has a time and a key, and goes into any
accumulator that satisfies `A`, as the first one does and all others then do. -/
structure Folds (s : Sliding α κ σ ρ) (P : α → Prop) (A : σ → Prop) : Prop where
  time : ∀ item, P item → ∃ time, s.timeOf item = .ok time
  key : ∀ item, P item → ∃ key, s.keyOf item = .ok key
  create : A s.aggregation.create
  step : ∀ item, P item → ∀ acc, A acc →
    ∃ next, (s.aggregation.accumulate acc item).result = .ok next ∧ A next

variable [BEq κ] [EquivBEq κ] {s : Sliding α κ σ ρ} {P : α → Prop} {A : σ → Prop}
  (folds : s.Folds P A) {watermark : Number} {item : α} (ok : P item) {o : OpenWindows Int κ σ}

include folds ok

/-- Folding into an open window changes the one accumulator. -/
theorem Folds.fold (each : o.Each A) {start : Int}
    (opened : s.aggregator.isClosed watermark start = false) (key : κ) :
    ∃ after acc, s.aggregator.fold watermark o start key item = (after, .ok true) ∧
      after.late = o.late ∧ after.Each A ∧
      (s.aggregation.accumulate ((o.accumulator? start key).getD s.aggregation.create)
        item).result = .ok acc ∧
      ∀ other another, after.accumulator? other another =
        if start = other ∧ (key == another) = true then some acc
        else o.accumulator? other another := by
  have good : A ((o.accumulator? start key).getD s.aggregation.create) := by
    cases present : o.accumulator? start key with
    | none => exact folds.create
    | some acc => exact each start key acc present
  obtain ⟨acc, folded, keeps⟩ := folds.step item ok _ good
  have ran : (s.aggregator.aggregation.accumulate
      (((o.ensure start).accumulator? start key).getD s.aggregator.aggregation.create)
      item).result = .ok acc := by
    rw [OpenWindows.accumulator?_ensure, ← OpenWindows.accumulator?_eq]
    exact folded
  have changed := o.accumulator?_store_ensure start
  refine ⟨(o.ensure start).store start key acc, acc, ?_, o.late_ensure start, ?_, folded,
    fun other another => changed other key another acc⟩
  · unfold WindowAggregator.fold
    simp only [opened, Bool.false_eq_true, if_false, ran]
  · intro other another own found
    rw [changed] at found
    split at found
    · cases found
      exact keeps
    · exact each other another own found

/-- Folding into open windows, each once, changes the accumulator of each. -/
theorem Folds.foldAll (each : o.Each A) {starts : List Int} (nodup : starts.Nodup)
    (opened : ∀ start ∈ starts, s.aggregator.isClosed watermark start = false) (key : κ) :
    ∃ after, s.aggregator.foldAll watermark o key item starts = (after, .ok (!starts.isEmpty)) ∧
      after.late = o.late ∧ after.Each A ∧
      (∀ start ∈ starts, ∃ acc,
        (s.aggregation.accumulate ((o.accumulator? start key).getD s.aggregation.create)
          item).result = .ok acc ∧ after.accumulator? start key = some acc) ∧
      ∀ start ∉ starts, after.accumulator? start key = o.accumulator? start key := by
  induction starts generalizing o with
  | nil => exact ⟨o, rfl, rfl, each, fun _ member => (nomatch member), fun _ _ => rfl⟩
  | cons start rest ih =>
    obtain ⟨fresh, others⟩ := List.nodup_cons.mp nodup
    obtain ⟨between, acc, first, late, good, folded, changed⟩ :=
      folds.fold ok each (opened start List.mem_cons_self) key
    obtain ⟨after, second, later, still, taken, kept⟩ := ih good others fun other member =>
      opened other (List.mem_cons_of_mem _ member)
    refine ⟨after, ?_, later.trans late, still, fun other member => ?_, fun other apart => ?_⟩
    · rw [WindowAggregator.foldAll, first]
      simp only [second]
      rfl
    · rcases List.mem_cons.mp member with rfl | there
      · refine ⟨acc, folded, ?_⟩
        rw [kept other fresh, changed, if_pos ⟨rfl, BEq.rfl⟩]
      · have apart : start ≠ other := fun same => fresh (same ▸ there)
        obtain ⟨next, stepped, stored⟩ := taken other there
        rw [changed, if_neg fun both => apart both.1] at stepped
        exact ⟨next, stepped, stored⟩
    · have here : start ≠ other := (List.ne_of_not_mem_cons apart).symm
      rw [kept other (List.not_mem_of_not_mem_cons apart), changed, if_neg fun both => here both.1]

/-- An item that comes in time goes into all of its windows and is not counted as late. -/
theorem Folds.accumulate (timely : s.Timely watermark item) (each : o.Each A) :
    s.aggregator.TakenByAll watermark o (s.aggregator.accumulate watermark o item).1 item ∧
      (s.aggregator.accumulate watermark o item).1.late = o.late ∧
      (s.aggregator.accumulate watermark o item).1.Each A := by
  obtain ⟨time, timed⟩ := folds.time item ok
  obtain ⟨key, keyed⟩ := folds.key item ok
  have ranked := (Number.ranked_of_lt (timely time timed)).1
  have opened : ∀ start ∈ s.window.startsFor time,
      s.aggregator.isClosed watermark start = false := by
    intro start member
    rw [s.isClosed_eq ranked, timely.isOpen timed member]
    rfl
  obtain ⟨after, folded, late, still, taken, -⟩ :=
    folds.foldAll ok each (s.window.startsFor_nodup time) opened key
  have some_ : (s.window.startsFor time).isEmpty = false :=
    List.isEmpty_eq_false_iff_exists_mem.mpr ⟨_, s.window.lastStart_mem time⟩
  have took : s.aggregator.accumulate watermark o item = (after, .ok true) := by
    rw [accumulate_eq timed keyed, folded, some_]
    rfl
  rw [took]
  refine ⟨⟨time, key, _, timed, keyed, rfl, fun start member => ?_⟩, late, still⟩
  obtain ⟨acc, stepped, stored⟩ := taken start member
  exact ⟨opened start member, acc, stepped, stored⟩

end Sliding

end FlightStream
