import FlightStream.Proofs.Windows.Sliding

/-!
Closed windows stay closed, whatever fails. An aggregator takes any sequence of calls, the
functions of each failing wherever they like, and a flush at the end. A failing fold leaves opened
windows behind and a failing close leaves closed windows behind, while the watermark has moved on;
`Sealed` is what holds in all those states. The windows that are left ascend and hold no key twice,
what was returned is due under the watermark, and every window that is left ends after it.

`Spares` says what folding does to open windows and `close_cases` what closing does, so that each
call keeps `Sealed` by one of the two.
-/

namespace FlightStream

namespace OpenWindows

variable {κ σ : Type}

/-- Among windows in ascending order, the one with a start is found by it. -/
theorem accumulators?_eq_some_iff {o : OpenWindows Int κ σ}
    (ascending : o.windows.Pairwise fun a b => a.1 < b.1) {start : Int} {keyed : Keyed κ σ} :
    o.accumulators? start = some keyed ↔ (start, keyed) ∈ o.windows := by
  unfold accumulators?
  generalize o.windows = windows at ascending
  induction windows with
  | nil => simp
  | cons first rest ih =>
    obtain ⟨after, others⟩ := List.pairwise_cons.mp ascending
    by_cases here : first.1 = start
    · have alone : (start, keyed) ∉ rest := fun later => by
        have := after _ later
        omega
      obtain ⟨present, kept⟩ := first
      simp only at here
      subst here
      simp [alone, eq_comm]
    · have apart : (start, keyed) ≠ first := by
        rintro rfl
        exact here rfl
      rw [List.find?_cons, beq_eq_false_iff_ne.mpr here, ih others, List.mem_cons, or_iff_right apart]

theorem mem_without {o : OpenWindows Int κ σ} {starts : List Int} {entry : Int × Keyed κ σ} :
    entry ∈ o.without starts ↔ entry ∈ o.windows ∧ entry.1 ∉ starts := by
  simp [without]

/-! ## Folding -/

/-- Windows that come from others by folding where `closed` tells which windows are closed: they
ascend, none holds a key twice, and a closed one is among the others as it is. -/
structure Spares [BEq κ] (closed : Int → Bool) (before after : List (Int × Keyed κ σ)) : Prop where
  ascending : after.Pairwise fun a b => a.1 < b.1
  distinct : ∀ entry ∈ after, entry.2.Distinct
  closed : ∀ entry ∈ after, closed entry.1 = true → entry ∈ before

variable [BEq κ] {closed : Int → Bool} {before : List (Int × Keyed κ σ)}

/-- Placing accumulators into a window that is not closed. -/
theorem Spares.place {after : List (Int × Keyed κ σ)} (spares : Spares closed before after)
    {start : Int} (opened : closed start = false) {keyed : Keyed κ σ} (distinct : keyed.Distinct) :
    Spares closed before (OpenWindows.place start keyed after) where
  ascending := ascending_place spares.ascending start keyed
  distinct := by
    intro entry member
    rcases mem_place member with rfl | old
    · exact distinct
    · exact spares.distinct entry old
  closed := by
    intro entry member shut
    rcases mem_place member with rfl | old
    · rw [opened] at shut
      cases shut
    · exact spares.closed entry old shut

theorem Spares.ensure {o : OpenWindows Int κ σ} (spares : Spares closed before o.windows)
    {start : Int} (opened : closed start = false) :
    Spares closed before (o.ensure start).windows := by
  unfold OpenWindows.ensure
  split
  · exact spares
  · exact spares.place opened List.Pairwise.nil

theorem Spares.store {o : OpenWindows Int κ σ} (spares : Spares closed before o.windows)
    {start : Int} (opened : closed start = false) (key : κ) (acc : σ) :
    Spares closed before (o.store start key acc).windows := by
  refine spares.place opened (Keyed.distinct_set ?_ key acc)
  cases present : o.accumulators? start with
  | none => exact List.Pairwise.nil
  | some keyed =>
    exact spares.distinct _ ((accumulators?_eq_some_iff spares.ascending).mp present)

end OpenWindows

namespace WindowAggregator

variable {α κ σ ρ : Type} (agg : WindowAggregator Int Int α κ σ ρ) {o : OpenWindows Int κ σ}

section Folding

open OpenWindows

variable [BEq κ] {watermark : Number} {before : List (Int × Keyed κ σ)}

/-- Whether it fails or not, folding into a window spares the closed ones. -/
theorem spares_fold (spares : Spares (agg.isClosed watermark) before o.windows) (start : Int)
    (key : κ) (item : α) :
    Spares (agg.isClosed watermark) before (agg.fold watermark o start key item).1.windows := by
  unfold fold
  split
  · exact spares
  · rename_i opened
    have opened := Bool.eq_false_iff.mpr opened
    have ensured := spares.ensure opened
    dsimp only
    split
    · exact ensured.store opened _ _
    · split
      · exact ensured.store opened _ _
      · exact ensured

theorem spares_foldAll (spares : Spares (agg.isClosed watermark) before o.windows) (key : κ)
    (item : α) (starts : List Int) :
    Spares (agg.isClosed watermark) before (agg.foldAll watermark o key item starts).1.windows := by
  induction starts generalizing o with
  | nil => exact spares
  | cons start rest ih =>
    have first := agg.spares_fold spares start key item
    unfold foldAll
    split
    · rename_i failed
      rw [failed] at first
      exact first
    · rename_i folded
      rw [folded] at first
      exact ih first

theorem spares_accumulate (spares : Spares (agg.isClosed watermark) before o.windows) (item : α) :
    Spares (agg.isClosed watermark) before (agg.accumulate watermark o item).1.windows := by
  unfold accumulate
  dsimp only
  split
  · exact spares
  · rename_i key starts _
    have folded := agg.spares_foldAll spares key item starts
    split
    · rename_i late
      rw [late] at folded
      exact folded
    · exact folded

end Folding

/-! ## Closing -/

theorem finishWindow_cases (start : Int) (keyed : Keyed κ σ) :
    (∃ fault, agg.finishWindow start keyed = .error fault) ∨
      ∀ entry ∈ keyed, agg.Finishes entry.2 := by
  unfold finishWindow
  induction keyed with
  | nil => exact .inr fun _ member => nomatch member
  | cons first rest ih =>
    rw [List.mapM_cons]
    cases finished : agg.aggregation.finish first.2 with
    | error fault =>
      refine .inl ⟨fault, ?_⟩
      simp only [finished]
      rfl
    | ok value =>
      rcases ih with ⟨fault, failed⟩ | others
      · refine .inl ⟨fault, ?_⟩
        simp only [finished, failed]
        rfl
      · refine .inr fun entry member => ?_
        rcases List.mem_cons.mp member with rfl | later
        · exact ⟨value, finished⟩
        · exact others entry later

theorem closeEach_sublist (starts : List Int) :
    (agg.closeEach o starts).1.windows.Sublist o.windows := by
  induction starts generalizing o with
  | nil => exact .refl _
  | cons start rest ih =>
    have less : (o.discard start).windows.Sublist o.windows := List.filter_sublist
    unfold closeEach
    split
    · exact less
    · exact (ih (o := o.discard start)).trans less

/-- Closing windows forgets windows and does nothing else to them, whether it fails or not. -/
theorem close_sublist (starts : List Int) : (agg.close o starts).1.windows.Sublist o.windows := by
  have less := agg.closeEach_sublist (o := o) starts
  unfold close
  split
  · exact .refl _
  · split
    · rename_i failed
      rwa [failed] at less
    · rename_i closed
      rwa [closed] at less

theorem closeEach_cases {starts : List Int} (nodup : starts.Nodup) :
    (∃ fault, (agg.closeEach o starts).2 = .error fault) ∨
      ∀ start ∈ starts, ∀ entry ∈ (o.accumulators? start).getD [], agg.Finishes entry.2 := by
  induction starts generalizing o with
  | nil => exact .inr fun _ member => nomatch member
  | cons start rest ih =>
    obtain ⟨fresh, others⟩ := List.nodup_cons.mp nodup
    unfold closeEach
    rcases agg.finishWindow_cases start ((o.accumulators? start).getD []) with
      ⟨fault, failed⟩ | finishes
    · rw [failed]
      exact .inl ⟨fault, rfl⟩
    · rw [agg.finishWindow_eq finishes]
      rcases ih (o := o.discard start) others with ⟨fault, failed⟩ | later
      · refine .inl ⟨fault, ?_⟩
        simp only [failed]
        rfl
      · refine .inr fun other member entry present => ?_
        rcases List.mem_cons.mp member with rfl | there
        · exact finishes entry present
        · have apart : other ≠ start := by
            rintro rfl
            exact fresh there
          refine later other there entry ?_
          rw [OpenWindows.accumulators?_discard, if_neg apart]
          exact present

/-- Closing windows either fails, and forgets some windows, or forgets exactly these windows and
returns their results. -/
theorem close_cases {starts : List Int} (nodup : starts.Nodup) :
    (∃ after fault, agg.close o starts = (after, .error fault) ∧
        after.windows.Sublist o.windows) ∨
      ∃ after, agg.close o starts = (after, .ok
          (starts.flatMap fun start => agg.results start ((o.accumulators? start).getD []))) ∧
        after.windows = o.without starts := by
  rcases agg.closeEach_cases (o := o) nodup with ⟨fault, failed⟩ | finishes
  · have some : starts.isEmpty = false := by
      cases starts with
      | nil => cases failed
      | cons => rfl
    refine .inl ⟨(agg.close o starts).1, fault, Prod.ext rfl ?_, agg.close_sublist starts⟩
    have answer : agg.closeEach o starts = ((agg.closeEach o starts).1, .error fault) :=
      Prod.ext rfl failed
    unfold close
    rw [some, answer]
    rfl
  · obtain ⟨after, closed, windows, -⟩ := agg.close_eq nodup finishes
    exact .inr ⟨after, closed, windows⟩

theorem timestamp_of_mem_results {start : Int} {keyed : Keyed κ σ}
    {entry : TimestampedEntry Int κ ρ} (member : entry ∈ agg.results start keyed) :
    entry.timestamp = agg.windowing.endOf start := by
  obtain ⟨source, -, made⟩ := List.mem_filterMap.mp member
  obtain ⟨value, -, rfl⟩ := Option.map_eq_some_iff.mp made
  rfl

end WindowAggregator

/-- One entry comes before another: it is of an earlier window, or of the same window and another
key. -/
def TimestampedEntry.Before {κ ρ : Type} [BEq κ] (a b : TimestampedEntry Int κ ρ) : Prop :=
  a.timestamp < b.timestamp ∨ a.timestamp = b.timestamp ∧ (a.key == b.key) = false

/-- The results of windows in ascending order, none of which holds a key twice, are in order. -/
theorem WindowAggregator.before_results {α κ σ ρ : Type} [BEq κ]
    (agg : WindowAggregator Int Int α κ σ ρ)
    (increasing : ∀ one other, one < other → agg.windowing.endOf one < agg.windowing.endOf other)
    {keyedOf : Int → Keyed κ σ} {starts : List Int} (ascending : starts.Pairwise (· < ·))
    (distinct : ∀ start ∈ starts, (keyedOf start).Distinct) :
    (starts.flatMap fun start => agg.results start (keyedOf start)).Pairwise
      TimestampedEntry.Before := by
  rw [List.pairwise_flatMap]
  constructor
  · intro start member
    unfold results
    rw [List.pairwise_filterMap]
    refine (distinct start member).imp fun {one other} apart a made b made' => .inr ?_
    obtain ⟨_, -, rfl⟩ := Option.map_eq_some_iff.mp made
    obtain ⟨_, -, rfl⟩ := Option.map_eq_some_iff.mp made'
    exact ⟨rfl, apart⟩
  · refine ascending.imp fun {one other} below a first b second => .inl ?_
    rw [agg.timestamp_of_mem_results first, agg.timestamp_of_mem_results second]
    exact increasing one other below

end FlightStream
