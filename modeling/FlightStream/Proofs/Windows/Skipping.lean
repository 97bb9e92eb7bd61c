import FlightStream.Proofs.Windows.Content
import FlightStream.Proofs.Windows.Failing
import FlightStream.Value
import Mathlib.Data.List.Sort

/-!
What a skipped item leaves behind. An item is folded into its windows one after the other, and the
first fold that fails ends this. By then the windows before have taken the item, and the one that
failed is open, with what the failure left of its accumulator (`StopsAt`). Nothing is left behind
just if all of this changes no window (`skipped_item_trace`).
-/

namespace FlightStream

namespace OpenWindows

variable {κ σ : Type} {o other : OpenWindows Int κ σ}

/-- Windows in ascending order are known by their accumulators. -/
theorem windows_ext (ascending : o.windows.Pairwise fun a b => a.1 < b.1)
    (ascending' : other.windows.Pairwise fun a b => a.1 < b.1)
    (same : ∀ start, o.accumulators? start = other.accumulators? start) :
    o.windows = other.windows := by
  have irreflexive : Std.Irrefl fun a b : Int × Keyed κ σ => a.1 < b.1 := ⟨fun a => lt_irrefl a.1⟩
  have antisymmetric : Std.Antisymm fun a b : Int × Keyed κ σ => a.1 < b.1 :=
    ⟨fun _ _ below above => absurd below above.asymm⟩
  refine ascending.eq_of_mem_iff ascending' fun ⟨start, keyed⟩ => ?_
  rw [← accumulators?_eq_some_iff ascending, ← accumulators?_eq_some_iff ascending', same]

theorem ensure_of_held {start : Int} (held : o.accumulators? start ≠ none) :
    o.ensure start = o := by
  unfold ensure
  split
  · rfl
  · rename_i absent
    exact absurd absent held

end OpenWindows

namespace WindowAggregator

variable {α κ σ ρ : Type} [BEq κ] (agg : WindowAggregator Int Int α κ σ ρ)

/-! ## One window -/

/-- What the fold makes of an item under a key, in a window that holds these accumulators. -/
def folded (held : Option (Keyed κ σ)) (key : κ) (item : α) : Folded σ :=
  agg.aggregation.accumulate ((held.bind (·.find? key)).getD agg.aggregation.create) item

/-- What a window that held these accumulators holds once an item was folded into it, also if that
failed. -/
def taking (held : Option (Keyed κ σ)) (key : κ) (item : α) : Keyed κ σ :=
  match (agg.folded held key item).result with
  | .ok acc => (held.getD []).set key acc
  | .error _ =>
    if (held.bind (·.find? key)).isSome then
      (held.getD []).set key (agg.folded held key item).left
    else held.getD []

variable {watermark : Number} {o after : OpenWindows Int κ σ} {key : κ} {item : α} {start : Int}

theorem fold_opened (opened : agg.isClosed watermark start = false) :
    agg.fold watermark o start key item =
      match (agg.folded (o.accumulators? start) key item).result with
      | .ok acc => ((o.ensure start).store start key acc, .ok true)
      | .error fault =>
        (if ((o.accumulators? start).bind (·.find? key)).isSome then
          (o.ensure start).store start key (agg.folded (o.accumulators? start) key item).left
        else o.ensure start, .error fault) := by
  unfold fold
  simp only [opened, OpenWindows.accumulator?_ensure, ← OpenWindows.accumulator?_eq]
  rfl

theorem fold_closed (closed : agg.isClosed watermark start = true) :
    agg.fold watermark o start key item = (o, .ok false) := by
  rw [fold, if_pos closed]

/-- Folding fails in an open window, as the fold does there. -/
theorem failed_of_fold {fault : Fault}
    (ran : agg.fold watermark o start key item = (after, .error fault)) :
    agg.isClosed watermark start = false ∧
      (agg.folded (o.accumulators? start) key item).result = .error fault := by
  cases opened : agg.isClosed watermark start with
  | true =>
    rw [fold_closed agg opened] at ran
    cases ran
  | false =>
    rw [fold_opened agg opened] at ran
    cases result : (agg.folded (o.accumulators? start) key item).result with
    | ok acc =>
      rw [result] at ran
      cases ran
    | error failed =>
      rw [result] at ran
      cases ran
      exact ⟨rfl, rfl⟩

/-- Folding goes through in an open window if the fold does. -/
theorem passed_of_fold {took : Bool}
    (ran : agg.fold watermark o start key item = (after, .ok took))
    (opened : agg.isClosed watermark start = false) :
    ∃ acc, (agg.folded (o.accumulators? start) key item).result = .ok acc := by
  rw [fold_opened agg opened] at ran
  cases result : (agg.folded (o.accumulators? start) key item).result with
  | ok acc => exact ⟨acc, rfl⟩
  | error failed =>
    rw [result] at ran
    cases ran

/-- Folding changes an open window, whether it fails or not, and nothing else. -/
theorem accumulators?_fold (other : Int) :
    (agg.fold watermark o start key item).1.accumulators? other =
      if start = other ∧ agg.isClosed watermark start = false then
        some (agg.taking (o.accumulators? start) key item)
      else o.accumulators? other := by
  have stored : ∀ acc : σ, ((o.ensure start).store start key acc).accumulators? other =
      if start = other then some (((o.accumulators? start).getD []).set key acc)
      else o.accumulators? other := by
    intro acc
    rw [OpenWindows.accumulators?_store, OpenWindows.accumulators?_ensure,
      OpenWindows.accumulators?_ensure, if_pos rfl, Option.getD_some]
    split <;> rfl
  cases opened : agg.isClosed watermark start with
  | true => rw [fold_closed agg opened, if_neg (by simp)]
  | false =>
    simp only [fold_opened agg opened, taking, and_true]
    cases (agg.folded (o.accumulators? start) key item).result with
    | ok acc => exact stored acc
    | error fault =>
      by_cases present : ((o.accumulators? start).bind (·.find? key)).isSome = true
      · simp only [present, if_true]
        exact stored _
      · simp only [present]
        exact o.accumulators?_ensure start other

theorem late_fold : (agg.fold watermark o start key item).1.late = o.late := by
  unfold fold
  split
  · rfl
  · dsimp only
    split
    · exact o.late_ensure start
    · split <;> exact o.late_ensure start

/-- Folding into a window that is open already publishes nothing. -/
theorem published_fold
    (held : agg.isClosed watermark start = false → o.accumulators? start ≠ none) :
    (agg.fold watermark o start key item).1.published = o.published := by
  unfold fold
  split
  · rfl
  · rename_i opened
    rw [OpenWindows.ensure_of_held (held (Bool.eq_false_iff.mpr opened))]
    dsimp only
    split
    · rfl
    · split <;> rfl

/-! ## Up to the first failure -/

/-- Folding an item into the windows `done` went through, those that are closed left out, and then
it failed in the window `bad`. Each of these windows is open now and has taken the item, the last
one as far as the failure let it, and no other window has changed. -/
structure StopsAt (watermark : Number) (o : OpenWindows Int κ σ) (key : κ) (item : α)
    (done : List Int) (bad : Int) (fault : Fault) (after : OpenWindows Int κ σ) : Prop where
  opened : agg.isClosed watermark bad = false
  failed : (agg.folded (o.accumulators? bad) key item).result = .error fault
  passed : ∀ start ∈ done, agg.isClosed watermark start = false →
    ∃ acc, (agg.folded (o.accumulators? start) key item).result = .ok acc
  late : after.late = o.late
  published : (∀ start ∈ done ++ [bad], agg.isClosed watermark start = false →
    o.accumulators? start ≠ none) → after.published = o.published
  windows : ∀ start, after.accumulators? start =
    if start ∈ done ++ [bad] ∧ agg.isClosed watermark start = false then
      some (agg.taking (o.accumulators? start) key item)
    else o.accumulators? start

section Stopping

variable {agg} {done starts : List Int} {bad : Int} {fault : Fault}

theorem stopsAt_of_fold (ran : agg.fold watermark o bad key item = (after, .error fault)) :
    agg.StopsAt watermark o key item [] bad fault after := by
  obtain ⟨opened, failed⟩ := agg.failed_of_fold ran
  obtain rfl : (agg.fold watermark o bad key item).1 = after := congrArg Prod.fst ran
  refine ⟨opened, failed, (fun _ member => nomatch member), agg.late_fold, fun held =>
    agg.published_fold (held bad List.mem_cons_self), fun start => ?_⟩
  rw [accumulators?_fold]
  by_cases here : bad = start
  · subst here
    simp only [List.nil_append, List.mem_singleton]
  · simp only [here, Ne.symm here, List.nil_append, List.mem_singleton, false_and, if_false]

/-- A window more in front, into which folding goes through. -/
theorem StopsAt.cons {between : OpenWindows Int κ σ} {took : Bool}
    (stops : agg.StopsAt watermark between key item done bad fault after)
    (ran : agg.fold watermark o start key item = (between, .ok took))
    (fresh : start ∉ done ++ [bad]) :
    agg.StopsAt watermark o key item (start :: done) bad fault after := by
  have passed := agg.passed_of_fold ran
  obtain rfl : (agg.fold watermark o start key item).1 = between := congrArg Prod.fst ran
  have apart : ∀ other ∈ done ++ [bad],
      (agg.fold watermark o start key item).1.accumulators? other = o.accumulators? other := by
    intro other member
    rw [accumulators?_fold, if_neg]
    rintro ⟨rfl, -⟩
    exact fresh member
  refine ⟨stops.opened, ?_, ?_, stops.late.trans agg.late_fold, fun held => ?_, fun other => ?_⟩
  · rw [← apart bad (List.mem_append_right _ List.mem_cons_self)]
    exact stops.failed
  · refine List.forall_mem_cons.mpr ⟨passed, fun other member opened => ?_⟩
    rw [← apart other (List.mem_append_left _ member)]
    exact stops.passed other member opened
  · obtain ⟨here, there⟩ := List.forall_mem_cons.mp held
    refine (stops.published fun other member opened => ?_).trans (agg.published_fold here)
    rw [apart other member]
    exact there other member opened
  · rw [stops.windows]
    by_cases later : other ∈ done ++ [bad]
    · simp only [List.cons_append, List.mem_cons, later, or_true, apart other later]
    · rw [if_neg fun both => later both.1, accumulators?_fold]
      by_cases here : start = other
      · simp only [here, List.cons_append, List.mem_cons_self, true_and]
      · simp only [here, Ne.symm here, List.cons_append, List.mem_cons, later, or_self, false_and,
          if_false]

/-- Folding into several windows fails in the first of them, or goes through there and fails in one
of the others. -/
theorem foldAll_cons_eq_error
    (ran : agg.foldAll watermark o key item (start :: starts) = (after, .error fault)) :
    agg.fold watermark o start key item = (after, .error fault) ∨
      ∃ between took, agg.fold watermark o start key item = (between, .ok took) ∧
        agg.foldAll watermark between key item starts = (after, .error fault) := by
  rw [foldAll] at ran
  rcases first : agg.fold watermark o start key item with ⟨between, failed | took⟩
  · rw [first] at ran
    exact .inl ran
  · rw [first] at ran
    refine .inr ⟨between, took, rfl, ?_⟩
    rcases others : agg.foldAll watermark between key item starts with ⟨last, failed | folded⟩
    · simp only [others] at ran
      exact ran
    · simp only [others] at ran
      cases ran

/-- A failure among windows is one in the first of them that fails. -/
theorem foldAll_stops (nodup : starts.Nodup)
    (ran : agg.foldAll watermark o key item starts = (after, .error fault)) :
    ∃ done bad rest, starts = done ++ bad :: rest ∧
      agg.StopsAt watermark o key item done bad fault after := by
  induction starts generalizing o with
  | nil => cases ran
  | cons start starts ih =>
    obtain ⟨fresh, others⟩ := List.nodup_cons.mp nodup
    rcases foldAll_cons_eq_error ran with failed | ⟨between, took, first, later⟩
    · exact ⟨[], start, starts, rfl, stopsAt_of_fold failed⟩
    · obtain ⟨done, bad, rest, rfl, stops⟩ := ih others later
      refine ⟨start :: done, bad, rest, rfl, stops.cons first ?_⟩
      rw [List.append_cons] at fresh
      exact fun member => fresh (List.mem_append_left rest member)

end Stopping

/-- Folding that no window takes part in changes nothing, as all of them are closed. -/
theorem foldAll_closed {starts : List Int}
    (ran : agg.foldAll watermark o key item starts = (after, .ok false)) :
    after = o ∧ ∀ start ∈ starts, agg.isClosed watermark start = true := by
  induction starts generalizing o with
  | nil =>
    cases ran
    exact ⟨rfl, fun _ member => nomatch member⟩
  | cons start rest ih =>
    rw [foldAll] at ran
    cases closed : agg.isClosed watermark start with
    | true =>
      rw [fold_closed agg closed] at ran
      rcases others : agg.foldAll watermark o key item rest with ⟨last, failed | took⟩
      · simp only [others] at ran
        cases ran
      · simp only [others, Except.map, Bool.false_or] at ran
        cases ran
        obtain ⟨same, shut⟩ := ih others
        exact ⟨same, List.forall_mem_cons.mpr ⟨closed, shut⟩⟩
    | false =>
      rw [fold_opened agg closed] at ran
      cases result : (agg.folded (o.accumulators? start) key item).result with
      | error failed =>
        simp only [result] at ran
        cases ran
      | ok acc =>
        simp only [result] at ran
        rcases others : agg.foldAll watermark ((o.ensure start).store start key acc) key item rest
          with ⟨last, failed | took⟩
        · simp only [others] at ran
          cases ran
        · simp only [others, Except.map, Bool.true_or] at ran
          cases ran

/-- An item that fails has no time, no key or no windows, or fails in one of its windows, or is late
and cannot be told of. -/
theorem accumulate_failed {fault : Fault}
    (ran : agg.accumulate watermark o item = (after, .error fault)) :
    (after = o ∧ (agg.timeOf item = .error fault ∨ ∃ time, agg.timeOf item = .ok time ∧
      (agg.keyOf item = .error fault ∨ agg.windowing.startsFor time = .error fault))) ∨
    ∃ time key starts, agg.timeOf item = .ok time ∧ agg.keyOf item = .ok key ∧
      agg.windowing.startsFor time = .ok starts ∧
      (agg.foldAll watermark o key item starts = (after, .error fault) ∨
        after = { o with late := o.late + 1 } ∧
        (∀ start ∈ starts, agg.isClosed watermark start = true) ∧
        agg.lateMessage watermark time key = .error fault) := by
  cases timed : agg.timeOf item with
  | error failed =>
    have stopped : agg.accumulate watermark o item = (o, .error failed) := by
      simp only [accumulate, timed, bind, Except.bind]
    cases stopped.symm.trans ran
    exact .inl ⟨rfl, .inl rfl⟩
  | ok time =>
    cases keyed : agg.keyOf item with
    | error failed =>
      have stopped : agg.accumulate watermark o item = (o, .error failed) := by
        simp only [accumulate, timed, keyed, bind, Except.bind]
      cases stopped.symm.trans ran
      exact .inl ⟨rfl, .inr ⟨time, rfl, .inl rfl⟩⟩
    | ok key =>
      cases placed : agg.windowing.startsFor time with
      | error failed =>
        have stopped : agg.accumulate watermark o item = (o, .error failed) := by
          simp only [accumulate, timed, keyed, placed, bind, Except.bind]
        cases stopped.symm.trans ran
        exact .inl ⟨rfl, .inr ⟨time, rfl, .inr placed⟩⟩
      | ok starts =>
        rw [agg.accumulate_placed watermark o timed keyed placed] at ran
        refine .inr ⟨time, key, starts, rfl, rfl, placed, ?_⟩
        rcases again : agg.foldAll watermark o key item starts with ⟨last, failed | _ | _⟩
        · rw [again] at ran
          exact .inl ran
        · rw [again] at ran
          obtain ⟨rfl, closed⟩ := agg.foldAll_closed again
          cases message : agg.lateMessage watermark time key with
          | error failed =>
            simp only [message] at ran
            cases ran
            exact .inr ⟨rfl, closed, rfl⟩
          | ok text =>
            simp only [message] at ran
            cases ran
        · rw [again] at ran
          cases ran

/-- Taking an item under one key leaves the others as they were. -/
theorem pair?_taking [EquivBEq κ] (held : Option (Keyed κ σ)) {another : κ}
    (apart : (key == another) = false) :
    (agg.taking held key item).pair? another = held.bind (·.pair? another) := by
  have before : (held.getD []).pair? another = held.bind (·.pair? another) := by
    cases held <;> rfl
  have set : ∀ acc, ((held.getD []).set key acc).pair? another = held.bind (·.pair? another) := by
    intro acc
    rw [Keyed.pair?_set, apart, ← before]
    rfl
  unfold taking
  split
  · exact set _
  · split
    · exact set _
    · exact before

namespace StopsAt

variable {agg} {done : List Int} {bad : Int} {fault : Fault}

theorem pair?_other [EquivBEq κ] (stops : agg.StopsAt watermark o key item done bad fault after)
    (start : Int) {another : κ} (apart : (key == another) = false) :
    after.pair? start another = o.pair? start another := by
  unfold OpenWindows.pair?
  rw [stops.windows]
  split
  · exact agg.pair?_taking _ apart
  · rfl

/-- Nothing is left behind just if no window changes by taking the item. -/
theorem untouched_iff (stops : agg.StopsAt watermark o key item done bad fault after)
    (ascending : o.windows.Pairwise fun a b => a.1 < b.1)
    (ascending' : after.windows.Pairwise fun a b => a.1 < b.1) :
    after = o ↔ ∀ start ∈ done ++ [bad], agg.isClosed watermark start = false →
      o.accumulators? start = some (agg.taking (o.accumulators? start) key item) := by
  constructor
  · intro same start member opened
    conv_lhs => rw [← same]
    rw [stops.windows, if_pos ⟨member, opened⟩]
  · intro still
    have windows : after.windows = o.windows := by
      refine OpenWindows.windows_ext ascending' ascending fun start => ?_
      rw [stops.windows]
      split
      · rename_i reached
        exact (still start reached.1 reached.2).symm
      · rfl
    have published : after.published = o.published := by
      refine stops.published fun start member opened absent => ?_
      have held := still start member opened
      rw [absent] at held
      cases held
    have late := stops.late
    obtain ⟨_, _, _⟩ := after
    obtain ⟨_, _, _⟩ := o
    subst windows late published
    rfl

end StopsAt

end WindowAggregator

/-! ## Skipped items -/

namespace Lasting

open WindowAggregator

variable {α κ σ ρ : Type} [BEq κ] [EquivBEq κ]

/-- What a skipped item leaves behind, in the state that any turns led to. If it has no time or no
key, it leaves nothing. Otherwise its windows up to the first open one in which the fold fails have
been opened, and they have taken it, the last one as far as the failure let it. No other window has
changed, nothing under another key, not the count of late items and not the watermark. So nothing at
all is left just if each of those windows was there and held already what it holds with the item. Only
an item that no fold can fail on, as all of its windows are closed, is counted as late before it fails
for what is said about it. -/
theorem skipped_item_trace (w : Lasting) (turns : List (Turn α κ σ ρ))
    (functions : Functions α κ σ ρ) (item : α) (fault : Fault) :
    let agg := w.aggregator functions
    let s : State Int κ σ := w.after .fresh turns
    let left := (s.accumulate agg item).1
    (s.accumulate agg item).2 = .error fault →
    (left = s ∧ (functions.timeOf item = .error fault ∨
      ∃ time, functions.timeOf item = .ok time ∧ functions.keyOf item = .error fault)) ∨
    (∃ time key done bad rest,
      functions.timeOf item = .ok time ∧ functions.keyOf item = .ok key ∧
      w.window.startsFor time = done ++ bad :: rest ∧
      agg.StopsAt s.watermark s.opened key item done bad fault left.opened ∧
      left.watermark = s.watermark ∧
      (∀ start another, (key == another) = false →
        left.opened.pair? start another = s.opened.pair? start another) ∧
      (left = s ↔ ∀ start ∈ done ++ [bad], w.isClosed s.watermark start = false →
        s.opened.accumulators? start =
          some (agg.taking (s.opened.accumulators? start) key item))) ∨
    ∃ time key, functions.timeOf item = .ok time ∧ functions.keyOf item = .ok key ∧
      (∀ start ∈ w.window.startsFor time, w.isClosed s.watermark start = true) ∧
      agg.lateMessage s.watermark time key = .error fault ∧
      left = ⟨s.watermark, { s.opened with late := s.opened.late + 1 }⟩ := by
  intro agg s left failed
  have sealed := w.sealed_after turns
  have onward := sealed_turn sealed (.call (.accumulate functions item))
  have ran : agg.accumulate s.watermark s.opened item = (left.opened, .error fault) :=
    Prod.ext rfl failed
  rcases agg.accumulate_failed ran with
    ⟨same, unplaced⟩ | ⟨time, key, starts, timed, keyed, placed, ran | ⟨counted, closed, untold⟩⟩
  · refine .inl ⟨congrArg (State.mk s.watermark) same, unplaced.imp id ?_⟩
    rintro ⟨time, timed, unkeyed | unplaced⟩
    · exact ⟨time, timed, unkeyed⟩
    · cases unplaced
  · cases placed
    obtain ⟨done, bad, rest, split, stops⟩ := foldAll_stops (w.window.startsFor_nodup time) ran
    refine .inr (.inl ⟨time, key, done, bad, rest, timed, keyed, split, stops, rfl,
      fun start another apart => stops.pair?_other start apart, ?_⟩)
    exact Iff.trans
      ⟨fun same => congrArg State.opened same, fun same => congrArg (State.mk s.watermark) same⟩
      (stops.untouched_iff sealed.ascending onward.ascending)
  · cases placed
    exact .inr (.inr ⟨time, key, timed, keyed, closed, untold,
      congrArg (State.mk s.watermark) counted⟩)

/-- What one may ask of a skipped item: that the open windows, the accumulators, the count of late
items and all that later turns return are as if it had never come. -/
def SkipsWithoutTrace (w : Lasting) (functions : Functions α κ σ ρ) (s : State Int κ σ) (item : α) :
    Prop :=
  let left := (s.accumulate (w.aggregator functions) item).1
  (s.accumulate (w.aggregator functions) item).2.toOption = none →
    left.opened.starts = s.opened.starts ∧
    (∀ start key, left.opened.accumulator? start key = s.opened.accumulator? start key) ∧
    left.opened.late = s.opened.late ∧
    ∀ later : List (Turn α κ σ ρ), w.returned left later = w.returned s later

/-- Windows of ten that begin every five, without lateness. -/
def overlapping : Lasting := ⟨⟨10, 5, by decide, by decide⟩, 0⟩

/-- All samples of a time, a key and a value, and beside them the one with the greatest value. -/
def ranking : Functions (Int × String × Value) String
    (List (Int × String × Value) × Option (Int × String × Value))
    (List (Int × String × Value) × Option (Int × String × Value)) where
  timeOf sample := .ok sample.1
  keyOf sample := .ok sample.2.1
  aggregation := .allOf .toList (.maxBy fun a b => a.2.2.exceeds b.2.2) fun all greatest =>
    .ok (all, greatest)
  keyText key := .ok (Text.quoted key)

/-- A sample with a text for its value. -/
def worded : List (Turn (Int × String × Value) String
    (List (Int × String × Value) × Option (Int × String × Value))
    (List (Int × String × Value) × Option (Int × String × Value))) :=
  [.call (.accumulate ranking (11, "k", .text "a"))]

/-- A sample with a number for its value, which comes into the window of the other one and into one
before. -/
def numbered : Int × String × Value := (6, "k", .number (.int 3))

/-- The sample goes into its first window, which is new, and fails in its second one, where a number
does not compare with a text. -/
theorem skipped_item_trace_numbered :
    let agg := overlapping.aggregator ranking
    let s := overlapping.after .fresh worded
    let left := (s.accumulate agg numbered).1
    left ≠ s ∧ ∃ fault, agg.StopsAt s.watermark s.opened "k" numbered [0] 5 fault left.opened := by
  intro agg s left
  obtain ⟨fault, failed⟩ : ∃ fault, (s.accumulate agg numbered).2 = .error fault := by
    have nothing : (s.accumulate agg numbered).2.toOption = none := by decide +kernel
    rcases answer : (s.accumulate agg numbered).2 with fault | folded
    · exact ⟨fault, rfl⟩
    · rw [answer] at nothing
      cases nothing
  rcases overlapping.skipped_item_trace worded ranking numbered fault failed with
    ⟨-, untimed | ⟨time, -, unkeyed⟩⟩ |
    ⟨time, key, done, bad, rest, timed, keyed, split, stops, -, -, trace⟩ |
    ⟨time, key, timed, -, closed, -⟩
  · cases untimed
  · cases unkeyed
  · cases timed
    cases keyed
    have starts : overlapping.window.startsFor numbered.1 = [0, 5] := by decide +kernel
    rw [starts] at split
    rcases done with _ | ⟨first, _ | ⟨second, more⟩⟩
    · obtain ⟨rfl, -⟩ := List.cons.inj split
      have took : (agg.folded (s.opened.accumulators? 0) "k" numbered).result.toOption.isSome := by
        decide +kernel
      have failing : (agg.folded (s.opened.accumulators? 0) "k" numbered).result = .error fault :=
        stops.failed
      rw [failing] at took
      cases took
    · obtain ⟨here, split⟩ := List.cons.inj split
      obtain ⟨rfl, -⟩ := List.cons.inj split
      subst first
      refine ⟨fun same => ?_, fault, stops⟩
      have held := trace.mp same 0 (by simp) (by decide +kernel)
      have absent : (s.opened.accumulators? 0).isNone := by decide +kernel
      rw [held] at absent
      cases absent
    · simp at split
  · cases timed
    have opened : overlapping.isClosed s.watermark 0 = false := by decide +kernel
    rw [closed 0 (by decide +kernel)] at opened
    cases opened

/-- The sample is skipped, and yet the first window has been opened for it and returns it, and the
second one has it in its list. -/
theorem skipped_sample_returns :
    let s := overlapping.after .fresh worded
    let left := (s.accumulate (overlapping.aggregator ranking) numbered).1
    ¬SkipsWithoutTrace overlapping ranking s numbered ∧
      (overlapping.returned s [.flush ranking]).map (fun entry =>
        (entry.timestamp, entry.value.1.length)) = [(15, 1), (20, 1)] ∧
      (overlapping.returned left [.flush ranking]).map (fun entry =>
        (entry.timestamp, entry.value.1.length)) = [(10, 1), (15, 2), (20, 1)] := by
  refine ⟨fun traceless => ?_, by decide +kernel, by decide +kernel⟩
  obtain ⟨starts, -⟩ := traceless (by decide +kernel)
  revert starts
  decide +kernel

end Lasting

end FlightStream
