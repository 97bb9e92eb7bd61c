import FlightStream.Proofs.Windows.View

/-!
Closing windows whose accumulators can all be finished. Each closed window comes to its results
in order of key arrival and is forgotten; the others keep what they hold.
-/

namespace FlightStream

namespace OpenWindows

variable {κ σ : Type}

/-- The windows without those of some starts. -/
def without (o : OpenWindows Int κ σ) (starts : List Int) : List (Int × Keyed κ σ) :=
  o.windows.filter fun entry => !starts.contains entry.1

theorem find?_without (o : OpenWindows Int κ σ) (starts : List Int) (other : Int) :
    ((o.without starts).find? fun entry => entry.1 == other) =
      if other ∈ starts then none else o.windows.find? fun entry => entry.1 == other := by
  unfold without
  induction o.windows with
  | nil => simp
  | cons first rest ih =>
    by_cases gone : first.1 ∈ starts
    · rw [List.filter_cons_of_neg (by simpa using gone), ih]
      by_cases same : first.1 = other
      · rw [← same]
        simp [gone]
      · simp [same]
    · rw [List.filter_cons_of_pos (by simpa using gone)]
      by_cases same : first.1 = other
      · rw [← same]
        simp [gone]
      · simpa only [List.find?_cons, beq_eq_false_iff_ne.mpr same] using ih

theorem accumulators?_discard (o : OpenWindows Int κ σ) (start other : Int) :
    (o.discard start).accumulators? other =
      if other = start then none else o.accumulators? other := by
  have same := o.find?_without [start] other
  have shape : (o.discard start).windows = o.without [start] := by
    simp only [discard, without, List.contains_cons, List.contains_nil, Bool.or_false, bne]
  unfold accumulators?
  rw [shape, same]
  by_cases here : other = start <;> simp [here]

theorem accumulators?_of_without {o after : OpenWindows Int κ σ} {starts : List Int}
    (left : after.windows = o.without starts) (start : Int) :
    after.accumulators? start = if start ∈ starts then none else o.accumulators? start := by
  rw [accumulators?, left, find?_without]
  split <;> rfl

theorem Tidy.starts_ascending [BEq κ] {o : OpenWindows Int κ σ} (tidy : o.Tidy) :
    o.starts.Pairwise (· < ·) := List.pairwise_map.mpr tidy.ascending

theorem Tidy.starts_nodup [BEq κ] {o : OpenWindows Int κ σ} (tidy : o.Tidy) : o.starts.Nodup :=
  tidy.starts_ascending.imp Int.ne_of_lt

/-- Forgetting windows leaves the others as they are. -/
theorem Tidy.without [BEq κ] {o after : OpenWindows Int κ σ} (tidy : o.Tidy) {starts : List Int}
    (left : after.windows = o.without starts) : after.Tidy where
  ascending := by
    rw [left]
    exact tidy.ascending.filter _
  held start keyed found := by
    rw [accumulators?_of_without left] at found
    split at found
    · cases found
    · exact tidy.held start keyed found

theorem mem_starts_iff (o : OpenWindows Int κ σ) (start : Int) :
    start ∈ o.starts ↔ ∃ keyed, o.accumulators? start = some keyed := by
  unfold starts accumulators?
  induction o.windows with
  | nil => simp
  | cons first rest ih =>
    by_cases same : first.1 = start
    · simp [same]
    · rw [List.map_cons, List.mem_cons, List.find?_cons, beq_eq_false_iff_ne.mpr same, ih]
      simp [Ne.symm same]

end OpenWindows

namespace WindowAggregator

variable {α κ σ ρ : Type} (agg : WindowAggregator Int Int α κ σ ρ)

/-- The result of an accumulator under its key, if it can be finished. -/
def result? (start : Int) (entry : κ × σ) : Option (TimestampedEntry Int κ ρ) :=
  (agg.aggregation.finish entry.2).toOption.map fun value =>
    ⟨agg.windowing.endOf start, entry.1, value⟩

/-- The results of the accumulators of a window. -/
def results (start : Int) (keyed : Keyed κ σ) : List (TimestampedEntry Int κ ρ) :=
  keyed.filterMap (agg.result? start)

/-- Whether an accumulator can be finished. -/
def Finishes (acc : σ) : Prop := ∃ value, agg.aggregation.finish acc = .ok value

theorem finishWindow_eq {start : Int} {keyed : Keyed κ σ}
    (finishes : ∀ entry ∈ keyed, agg.Finishes entry.2) :
    agg.finishWindow start keyed = .ok (agg.results start keyed) := by
  unfold finishWindow results
  induction keyed with
  | nil => rfl
  | cons entry rest ih =>
    obtain ⟨value, finished⟩ := finishes entry List.mem_cons_self
    have others := ih fun other member => finishes other (List.mem_cons_of_mem _ member)
    rw [List.mapM_cons, others]
    simp [finished, result?, Except.toOption, Except.map, bind, Except.bind, pure, Except.pure]

/-- Closing windows, each once, whose accumulators can all be finished. -/
theorem closeEach_eq {o : OpenWindows Int κ σ} {starts : List Int} (nodup : starts.Nodup)
    (finishes : ∀ start ∈ starts, ∀ entry ∈ (o.accumulators? start).getD [],
      agg.Finishes entry.2) :
    agg.closeEach o starts = ({ o with windows := o.without starts }, .ok
      (starts.flatMap fun start => agg.results start ((o.accumulators? start).getD []))) := by
  induction starts generalizing o with
  | nil => simp [closeEach, OpenWindows.without]
  | cons start rest ih =>
    obtain ⟨fresh, others⟩ := List.nodup_cons.mp nodup
    have kept : ∀ other ∈ rest, (o.discard start).accumulators? other = o.accumulators? other := by
      intro other member
      have apart : other ≠ start := by
        rintro rfl
        exact fresh member
      rw [OpenWindows.accumulators?_discard, if_neg apart]
    have later := ih (o := o.discard start) others fun other member entry present => by
      rw [kept other member] at present
      exact finishes other (List.mem_cons_of_mem _ member) entry present
    have shape : (o.discard start).without rest = o.without (start :: rest) := by
      simp only [OpenWindows.without, OpenWindows.discard, List.filter_filter, List.contains_cons,
        bne, Bool.not_or, Bool.and_comm]
    have same : (rest.flatMap fun other =>
          agg.results other (((o.discard start).accumulators? other).getD [])) =
        rest.flatMap fun other => agg.results other ((o.accumulators? other).getD []) :=
      List.flatMap_congr fun other member => by rw [kept other member]
    rw [closeEach, agg.finishWindow_eq (finishes start List.mem_cons_self), later, shape, same]
    rfl

/-- Closing windows publishes how many are left, and counts nothing as late. -/
theorem close_eq {o : OpenWindows Int κ σ} {starts : List Int} (nodup : starts.Nodup)
    (finishes : ∀ start ∈ starts, ∀ entry ∈ (o.accumulators? start).getD [],
      agg.Finishes entry.2) :
    ∃ after : OpenWindows Int κ σ, agg.close o starts = (after, .ok
        (starts.flatMap fun start => agg.results start ((o.accumulators? start).getD []))) ∧
      after.windows = o.without starts ∧ after.late = o.late := by
  unfold close
  cases starts with
  | nil => exact ⟨o, rfl, by simp [OpenWindows.without], rfl⟩
  | cons start rest =>
    rw [agg.closeEach_eq nodup finishes]
    exact ⟨_, rfl, rfl, rfl⟩

/-! ## Results of one window and key -/

variable [BEq κ]

/-- The entries of a window and key. -/
def entriesAt (start : Int) (key : κ) (entries : List (TimestampedEntry Int κ ρ)) :
    List (TimestampedEntry Int κ ρ) :=
  entries.filter fun entry => entry.timestamp == agg.windowing.endOf start && entry.key == key

theorem entriesAt_append (start : Int) (key : κ) (before after : List (TimestampedEntry Int κ ρ)) :
    agg.entriesAt start key (before ++ after) =
      agg.entriesAt start key before ++ agg.entriesAt start key after :=
  List.filter_append ..

variable [EquivBEq κ]

/-- The results of a window under a key are that of the key's accumulator. -/
theorem entriesAt_results {start : Int} {keyed : Keyed κ σ} (distinct : keyed.Distinct)
    (key : κ) : agg.entriesAt start key (agg.results start keyed) =
      (keyed.pair? key).toList.filterMap (agg.result? start) := by
  rw [← Keyed.filter_eq_pair? distinct key, entriesAt, results, List.filter_filterMap,
    List.filterMap_filter]
  congr 1
  funext entry
  unfold result?
  cases agg.aggregation.finish entry.2 with
  | error fault => by_cases same : entry.1 == key <;> simp [Except.toOption, same]
  | ok value => by_cases same : entry.1 == key <;> simp [Except.toOption, same, Option.filter]

omit [EquivBEq κ] in
/-- A window's results are under its own end only. -/
theorem entriesAt_results_of_ne {start other : Int} (keyed : Keyed κ σ) (key : κ)
    (apart : agg.windowing.endOf other ≠ agg.windowing.endOf start) :
    agg.entriesAt start key (agg.results other keyed) = [] := by
  rw [entriesAt, List.filter_eq_nil_iff]
  intro entry member
  obtain ⟨source, -, made⟩ := List.mem_filterMap.mp member
  obtain ⟨value, -, rfl⟩ := Option.map_eq_some_iff.mp made
  simp [apart]

/-- Among the results of several windows, those of one window and key. -/
theorem entriesAt_flatMap {o : OpenWindows Int κ σ} (tidy : o.Tidy) {starts : List Int}
    (nodup : starts.Nodup) (apart : Function.Injective agg.windowing.endOf) (start : Int)
    (key : κ) :
    agg.entriesAt start key
        (starts.flatMap fun other => agg.results other ((o.accumulators? other).getD [])) =
      if start ∈ starts then (o.pair? start key).toList.filterMap (agg.result? start) else [] := by
  induction starts with
  | nil => simp [entriesAt]
  | cons first rest ih =>
    obtain ⟨fresh, others⟩ := List.nodup_cons.mp nodup
    rw [List.flatMap_cons, entriesAt_append, ih others]
    by_cases here : first = start
    · subst here
      have distinct : ((o.accumulators? first).getD []).Distinct := by
        cases present : o.accumulators? first with
        | none => exact List.Pairwise.nil
        | some keyed => exact (tidy.held first keyed present).2
      rw [if_neg fresh, if_pos List.mem_cons_self, List.append_nil, agg.entriesAt_results distinct]
      unfold OpenWindows.pair?
      cases o.accumulators? first <;> rfl
    · rw [agg.entriesAt_results_of_ne _ _ fun same => here (apart same), List.nil_append]
      simp [Ne.symm here]

end WindowAggregator

end FlightStream
