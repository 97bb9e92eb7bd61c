import FlightStream.Proofs.Windows.Content
import FlightStream.Proofs.Windows.Sealing

/-!
Windows that never fail. Where an item goes into a new accumulator or a good one, and the outcome is
good again, only good accumulators are ever held in open windows; and where good accumulators can be
finished, closing windows never fails. A new accumulator need not be good itself: nothing is held
that has not taken an item. An item may be late, so its time and its key have to have texts too, and
so does the watermark.
-/

namespace FlightStream

variable {α κ σ ρ : Type}

/-! ## What open windows hold -/

/-- All accumulators that are held in open windows satisfy `A`, with the starts of the windows. -/
def OpenWindows.Every (o : OpenWindows Int κ σ) (A : Int → σ → Prop) : Prop :=
  ∀ window ∈ o.windows, ∀ entry ∈ window.2, A window.1 entry.2

theorem Keyed.mem_set [BEq κ] {m : Keyed κ σ} {key : κ} {acc : σ} {entry : κ × σ}
    (member : entry ∈ m.set key acc) : entry.2 = acc ∨ entry ∈ m := by
  induction m with
  | nil => exact .inl (by simp_all [set])
  | cons first rest ih =>
    obtain ⟨k, held⟩ := first
    unfold set at member
    split at member
    · rcases List.mem_cons.mp member with rfl | old
      · exact .inl rfl
      · exact .inr (List.mem_cons_of_mem _ old)
    · rcases List.mem_cons.mp member with rfl | later
      · exact .inr List.mem_cons_self
      · exact (ih later).imp id (List.mem_cons_of_mem _)

namespace OpenWindows

variable {o : OpenWindows Int κ σ} {A : Int → σ → Prop}

theorem every_empty : (empty : OpenWindows Int κ σ).Every A := List.forall_mem_nil _

theorem Every.sublist {after : OpenWindows Int κ σ} (every : o.Every A)
    (part : after.windows.Sublist o.windows) : after.Every A :=
  fun window member => every window (part.subset member)

theorem Every.mono (every : o.Every A) {B : Int → σ → Prop}
    (weaker : ∀ start acc, A start acc → B start acc) : o.Every B :=
  fun window member entry present => weaker _ _ (every window member entry present)

theorem Every.accumulators (every : o.Every A) (start : Int) :
    ∀ entry ∈ (o.accumulators? start).getD [], A start entry.2 := by
  intro entry member
  unfold accumulators? at member
  cases found : o.windows.find? fun window => window.1 == start with
  | none =>
    rw [found] at member
    cases member
  | some window =>
    rw [found] at member
    have same : window.1 = start := by simpa using List.find?_some found
    exact same ▸ every window (List.mem_of_find?_eq_some found) entry member

theorem Every.accumulator [BEq κ] (every : o.Every A) {start : Int} {key : κ} {acc : σ}
    (found : o.accumulator? start key = some acc) : A start acc := by
  unfold accumulator? at found
  obtain ⟨keyed, opened, held⟩ := Option.bind_eq_some_iff.mp found
  obtain ⟨entry, present, rfl⟩ := Option.map_eq_some_iff.mp held
  refine every.accumulators start entry ?_
  rw [opened]
  exact List.mem_of_find?_eq_some present

theorem Every.place (every : o.Every A) {start : Int} {keyed : Keyed κ σ}
    (good : ∀ entry ∈ keyed, A start entry.2) :
    ∀ window ∈ place start keyed o.windows, ∀ entry ∈ window.2, A window.1 entry.2 := by
  intro window member
  rcases mem_place member with rfl | old
  · exact good
  · exact every window old

theorem Every.ensure (every : o.Every A) (start : Int) : (o.ensure start).Every A := by
  unfold OpenWindows.ensure
  split
  · exact every
  · exact every.place (List.forall_mem_nil _)

theorem Every.store [BEq κ] (every : o.Every A) {start : Int} (key : κ) {acc : σ}
    (good : A start acc) : (o.store start key acc).Every A := by
  refine every.place fun entry member => ?_
  rcases Keyed.mem_set member with same | old
  · rwa [same]
  · exact every.accumulators start entry old

end OpenWindows

/-! ## Closing -/

namespace WindowAggregator

variable (agg : WindowAggregator Int Int α κ σ ρ) {o : OpenWindows Int κ σ} {A : Int → σ → Prop}
  {R : TimestampedEntry Int κ ρ → Prop}
  (finish : ∀ start key acc, A start acc → ∃ value, agg.aggregation.finish acc = .ok value ∧
    R ⟨agg.windowing.endOf start, key, value⟩)

include finish

theorem finishWindow_of_good {start : Int} {keyed : Keyed κ σ}
    (good : ∀ entry ∈ keyed, A start entry.2) :
    ∃ entries, agg.finishWindow start keyed = .ok entries ∧ ∀ entry ∈ entries, R entry := by
  refine ⟨_, agg.finishWindow_eq fun entry member => ?_, fun result member => ?_⟩
  · exact (finish start entry.1 entry.2 (good entry member)).imp fun _ finished => finished.1
  · obtain ⟨entry, present, made⟩ := List.mem_filterMap.mp member
    obtain ⟨value, finished, right⟩ := finish start entry.1 entry.2 (good entry present)
    rw [result?, finished] at made
    cases made
    exact right

theorem closeEach_of_good (every : o.Every A) (starts : List Int) :
    ∃ entries, (agg.closeEach o starts).2 = .ok entries ∧ ∀ entry ∈ entries, R entry := by
  induction starts generalizing o with
  | nil => exact ⟨[], rfl, List.forall_mem_nil _⟩
  | cons start rest ih =>
    obtain ⟨entries, finished, right⟩ := agg.finishWindow_of_good finish (every.accumulators start)
    have left : (o.discard start).Every A := every.sublist List.filter_sublist
    obtain ⟨others, closed, also⟩ := ih left
    refine ⟨entries ++ others, ?_, fun entry member => ?_⟩
    · simp only [closeEach, finished, closed, Except.map]
    · exact (List.mem_append.mp member).elim (right entry) (also entry)

/-- Closing windows that hold good accumulators never fails. -/
theorem close_of_good (every : o.Every A) (starts : List Int) :
    (agg.close o starts).1.Every A ∧
      ∃ entries, (agg.close o starts).2 = .ok entries ∧ ∀ entry ∈ entries, R entry := by
  refine ⟨every.sublist (agg.close_sublist starts), ?_⟩
  obtain ⟨entries, closed, right⟩ := agg.closeEach_of_good finish every starts
  unfold close
  split
  · exact ⟨[], rfl, List.forall_mem_nil _⟩
  · split
    · rename_i failed
      rw [failed] at closed
      cases closed
    · rename_i answer
      rw [answer] at closed
      cases closed
      exact ⟨entries, rfl, right⟩

end WindowAggregator

/-! ## Folding -/

namespace Sliding

/-- Nothing fails on items that satisfy `P`: each has a time, not further from zero than `reach`, and
a key with a text, and goes into a new accumulator or one that satisfies `A` so that `A` holds after
it; and what satisfies `A` can be finished, with a result that satisfies `R`. -/
structure Unfailing (s : Sliding α κ σ ρ) (reach : Nat) (P : α → Prop) (A : σ → Prop)
    (R : ρ → Prop) : Prop where
  short : reach < Writing.bound
  time : ∀ item, P item → ∃ time, s.timeOf item = .ok time ∧ time.natAbs ≤ reach
  key : ∀ item, P item → ∃ key, s.keyOf item = .ok key ∧ ∃ text, s.keyText key = .ok text
  step : ∀ item, P item → ∀ acc, acc = s.aggregation.create ∨ A acc →
    ∃ next, (s.aggregation.accumulate acc item).result = .ok next ∧ A next
  finish : ∀ acc, A acc → ∃ value, s.aggregation.finish acc = .ok value ∧ R value

/-- An accumulator that satisfies `A`, in a window which covers a time not further from zero than
`reach`. -/
def Within (s : Sliding α κ σ ρ) (reach : Nat) (A : σ → Prop) (start : Int) (acc : σ) : Prop :=
  A acc ∧ ∃ time : Int, time.natAbs ≤ reach ∧ start ∈ s.window.startsFor time

/-- A result that satisfies `R`, stamped with the end of such a window. -/
def Stamped (s : Sliding α κ σ ρ) (reach : Nat) (R : ρ → Prop)
    (entry : TimestampedEntry Int κ ρ) : Prop :=
  R entry.value ∧ entry.timestamp.natAbs ≤ reach + s.window.size.toNat

variable [BEq κ] {s : Sliding α κ σ ρ} {reach : Nat} {P : α → Prop} {A : σ → Prop} {R : ρ → Prop}
  (unfailing : s.Unfailing reach P A R) {item : α} (ok : P item) {o : OpenWindows Int κ σ}

include unfailing

omit [BEq κ] in
/-- What can be finished comes out under a stamp near the times of the items. -/
theorem Unfailing.finishes (start : Int) (key : κ) (acc : σ) (held : s.Within reach A start acc) :
    ∃ value, s.aggregator.aggregation.finish acc = .ok value ∧
      s.Stamped reach R ⟨s.aggregator.windowing.endOf start, key, value⟩ := by
  obtain ⟨good, time, near, covers⟩ := held
  obtain ⟨value, finished, right⟩ := unfailing.finish acc good
  refine ⟨value, finished, right, ?_⟩
  obtain ⟨-, before, after⟩ := s.window.mem_startsFor.mp covers
  show (s.window.endOf start).natAbs ≤ _
  unfold SlidingWindow.endOf at after ⊢
  omega

include ok

theorem Unfailing.fold (every : o.Every (s.Within reach A)) (watermark : Number) {start : Int}
    (covers : ∃ time : Int, time.natAbs ≤ reach ∧ start ∈ s.window.startsFor time) (key : κ) :
    (s.aggregator.fold watermark o start key item).1.Every (s.Within reach A) ∧
      ∃ took, (s.aggregator.fold watermark o start key item).2 = .ok took := by
  unfold WindowAggregator.fold
  split
  · exact ⟨every, false, rfl⟩
  · have ensured := every.ensure start
    have good : ((o.ensure start).accumulator? start key).getD s.aggregation.create =
        s.aggregation.create ∨ A (((o.ensure start).accumulator? start key).getD
          s.aggregation.create) := by
      cases present : (o.ensure start).accumulator? start key with
      | none => exact .inl rfl
      | some acc => exact .inr (ensured.accumulator present).1
    obtain ⟨next, folded, keeps⟩ := unfailing.step item ok _ good
    have ran : (s.aggregator.aggregation.accumulate (((o.ensure start).accumulator? start key).getD
        s.aggregator.aggregation.create) item).result = .ok next := folded
    simp only [ran]
    exact ⟨ensured.store key ⟨keeps, covers⟩, true, rfl⟩

theorem Unfailing.foldAll (every : o.Every (s.Within reach A)) (watermark : Number) (key : κ)
    {starts : List Int}
    (covers : ∀ start ∈ starts, ∃ time : Int, time.natAbs ≤ reach ∧ start ∈ s.window.startsFor time) :
    (s.aggregator.foldAll watermark o key item starts).1.Every (s.Within reach A) ∧
      ∃ took, (s.aggregator.foldAll watermark o key item starts).2 = .ok took := by
  induction starts generalizing o with
  | nil => exact ⟨every, false, rfl⟩
  | cons start rest ih =>
    obtain ⟨here, later⟩ := List.forall_mem_cons.mp covers
    obtain ⟨good, took, folded⟩ := unfailing.fold ok every watermark here key
    obtain ⟨still, others, passed⟩ := ih good later
    have answer : s.aggregator.fold watermark o start key item =
        ((s.aggregator.fold watermark o start key item).1, .ok took) := Prod.ext rfl folded
    rw [WindowAggregator.foldAll, answer]
    exact ⟨still, took || others, by simp only [passed, Except.map]⟩

/-- Taking an item never fails, under any watermark that can be written. -/
theorem Unfailing.accumulate (every : o.Every (s.Within reach A)) {watermark : Number}
    (shown : Writing.Writable watermark) :
    (s.aggregator.accumulate watermark o item).1.Every (s.Within reach A) ∧
      ∃ took, (s.aggregator.accumulate watermark o item).2 = .ok took := by
  obtain ⟨time, timed, near⟩ := unfailing.time item ok
  obtain ⟨key, keyed, named⟩ := unfailing.key item ok
  have covers : ∀ start ∈ s.window.startsFor time,
      ∃ time : Int, time.natAbs ≤ reach ∧ start ∈ s.window.startsFor time :=
    fun start member => ⟨time, near, member⟩
  obtain ⟨good, took, folded⟩ := unfailing.foldAll ok every watermark key covers
  have answer : s.aggregator.foldAll watermark o key item (s.window.startsFor time) =
      ((s.aggregator.foldAll watermark o key item (s.window.startsFor time)).1, .ok took) :=
    Prod.ext rfl folded
  rw [accumulate_eq timed keyed, answer]
  cases took with
  | false =>
    have timeText : ∃ text, s.aggregator.timeText time = .ok text :=
      Writing.exists_whole_iff.mpr (Writing.fits_iff.mpr (near.trans_lt unfailing.short))
    obtain ⟨text, message⟩ := s.aggregator.exists_lateMessage_iff.mpr ⟨named, timeText, shown⟩
    simp only [message]
    exact ⟨good, false, rfl⟩
  | true => exact ⟨good, true, rfl⟩

end Sliding

end FlightStream
