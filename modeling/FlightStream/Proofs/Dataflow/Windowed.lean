import FlightStream.Proofs.Dataflow.Operators
import FlightStream.Proofs.Windows.Batch
import FlightStream.Proofs.Windows.Folding

/-!
What a windowed operator makes of a stream. `Windowed` ties its open windows and all that it sent
to what it read; the entries that it sends before a watermark are never behind that watermark by
more than the lateness. A stream whose elements are never late for a window, `Timely`, goes into
all of its windows.
-/

namespace FlightStream.Dataflow

variable {α κ σ ρ : Type}

namespace Output

/-- What a windowed operator is given by a stream. -/
def offers (stream : List (Output α)) : List (Offer α) :=
  stream.filterMap fun
    | element value => some (.item value)
    | watermark time => some (.watermark time)
    | ended => none

/-- The elements of a stream, each with the last watermark before it. -/
def arrivals (stream : List (Output α)) : List (Number × α) := Offer.arrivals (offers stream)

theorem offers_concat (stream : List (Output α)) (last : Output α) :
    offers (stream ++ [last]) = offers stream ++ offers [last] :=
  List.filterMap_append

theorem arrivals_element (stream : List (Output α)) (value : α) :
    arrivals (stream ++ [.element value]) =
      arrivals stream ++ [(Offer.greatest (offers stream), value)] := by
  rw [arrivals, offers_concat]
  exact Offer.arrivals_concat ..

theorem arrivals_watermark (stream : List (Output α)) (time : Number) :
    arrivals (stream ++ [.watermark time]) = arrivals stream := by
  rw [arrivals, offers_concat]
  exact (Offer.arrivals_concat ..).trans (List.append_nil _)

theorem arrivals_ended (stream : List (Output α)) :
    arrivals (stream ++ [.ended]) = arrivals stream := by
  rw [arrivals, offers_concat]
  exact congrArg Offer.arrivals (List.append_nil _)

theorem map_arrivals (stream : List (Output α)) :
    (arrivals stream).map (·.2) = elements stream := by
  induction stream using List.reverseRecOn with
  | nil => rfl
  | append_singleton before last ih =>
    rw [elements, List.filterMap_append, ← elements, ← ih]
    cases last with
    | element value =>
      rw [arrivals_element, List.map_append]
      rfl
    | watermark time =>
      rw [arrivals_watermark]
      exact (List.append_nil _).symm
    | ended =>
      rw [arrivals_ended]
      exact (List.append_nil _).symm

/-- Each element of an orderly stream stands as told to the watermark that it came under. -/
theorem Orderly.of_arrival {ok : Number → α → Prop} {stream : List (Output α)}
    (orderly : Orderly ok stream) (bottom : ∀ value, ok .negInfinity value) :
    ∀ a ∈ arrivals stream, ok a.1 a.2 := by
  induction stream using List.reverseRecOn with
  | nil => exact fun _ member => nomatch member
  | append_singleton before last ih =>
    obtain ⟨earlier, precedes, -⟩ := orderly_concat.mp orderly
    intro a member
    cases last with
    | element value =>
      rw [arrivals_element] at member
      rcases List.mem_append.mp member with old | new
      · exact ih earlier a old
      · rw [List.mem_singleton.mp new]
        rcases Offer.greatest_mem (offers before) with none | some_
        · rw [none]
          exact bottom value
        · obtain ⟨output, present, same⟩ := List.mem_filterMap.mp some_
          cases output with
          | element other => cases same
          | watermark time =>
            cases same
            exact precedes _ present
          | ended => cases same
    | watermark time =>
      rw [arrivals_watermark] at member
      exact ih earlier a member
    | ended =>
      rw [arrivals_ended] at member
      exact ih earlier a member

/-- Elements after a stream in order stand as told to its watermarks. -/
theorem Orderly.append_elements {ok : Number → α → Prop} {stream : List (Output α)}
    (orderly : Orderly ok stream) (opened : .ended ∉ stream) {values : List α}
    (told : ∀ time, .watermark time ∈ stream → ∀ value ∈ values, ok time value) :
    Orderly ok (stream ++ values.map .element) := by
  refine ⟨fun time member => ?_, List.pairwise_append.mpr ⟨orderly.order, ?_, ?_⟩⟩
  · exact orderly.above time (by simpa using member)
  · exact List.pairwise_map.mpr (List.pairwise_of_forall fun _ _ => trivial)
  · intro before early after late
    obtain ⟨value, member, rfl⟩ := List.mem_map.mp late
    cases before with
    | element other => trivial
    | watermark time => exact told time early value member
    | ended => exact absurd early opened

end Output

/-! ## Windows over a stream -/

namespace Operators

variable [BEq κ] {s : Sliding α κ σ ρ} {P : α → Prop} {wrap : TimestampedEntry Int κ ρ → α}

/-- A windowed operator that has read a stream: its entries and open windows are those of the
arrivals; once the stream has ended no window is left and every window has handed out all that it
came to. What was sent is in order, each entry within the lateness of the watermarks before it. -/
structure Windowed (s : Sliding α κ σ ρ) (P : α → Prop) (wrap : TimestampedEntry Int κ ρ → α)
    (seen : List (Output α)) (time : Number) (o : OpenWindows Int κ σ) (sent : List (Output α))
    (entries : List (TimestampedEntry Int κ ρ)) : Prop where
  elements : Output.elements sent = entries.map wrap
  greatest : time = Offer.greatest (Output.offers seen)
  late : o.late = (Output.arrivals seen).countP fun a => !s.admits a.1 a.2
  live : .ended ∉ seen → s.Tallies P (Output.arrivals seen) time o entries
  done : .ended ∈ seen → ∀ start key, s.aggregator.entriesAt start key entries =
    s.batch start (s.contributions (Output.arrivals seen) start key)
  orderly : Output.Orderly
    (fun time value => ∃ entry, value = wrap entry ∧
      time.lt (.int (entry.timestamp + s.lateness)) = true) sent
  watermarks : ∀ time, .watermark time ∈ sent → .watermark time ∈ seen
  ended : .ended ∈ sent → .ended ∈ seen

variable {name : String} {seen sent : List (Output α)} {time : Number}
  {o : OpenWindows Int κ σ} {entries fresh : List (TimestampedEntry Int κ ρ)}

/-- A windowed operator goes on with the windows that taking the element left, also if that failed. -/
theorem state_window_element (name : String) (agg : WindowAggregator Int Int α κ σ ρ)
    (wrap : TimestampedEntry Int κ ρ → α) (time : Number) (o : OpenWindows Int κ σ) (value : α) :
    ((window name agg wrap).behaviour.element time o value).state =
      (agg.accumulate time o value).1 := by
  simp only [window]
  split <;> simp [*]

omit [BEq κ] in
theorem state_send (name : String) (wrap : TimestampedEntry Int κ ρ → α) (o : OpenWindows Int κ σ)
    (answer : OpenWindows Int κ σ × Except Fault (List (TimestampedEntry Int κ ρ))) :
    (window.send name wrap o answer).state = answer.1 := by
  unfold window.send
  split <;> rfl

/-- A windowed operator sends nothing at an element. -/
theorem outputs_window_element (name : String) (agg : WindowAggregator Int Int α κ σ ρ)
    (wrap : TimestampedEntry Int κ ρ → α) (time : Number) (o : OpenWindows Int κ σ) (value : α) :
    ((window name agg wrap).behaviour.element time o value).outputs = [] := by
  simp only [window]
  split <;> rfl

theorem keepsOpen_window (name : String) (agg : WindowAggregator Int Int α κ σ ρ)
    (wrap : TimestampedEntry Int κ ρ → α) : (window name agg wrap).KeepsOpen where
  element time o value := by simp [outputs_window_element]
  advanced time o := by
    simp only [window, window.send]
    split <;> simp
  finish time o := by
    simp only [window, window.send]
    split <;> simp

theorem windowed_start : Windowed s P wrap [] .negInfinity .empty [] [] where
  elements := rfl
  greatest := rfl
  late := rfl
  live _ := Sliding.tallies_empty
  done member := nomatch member
  orderly := .nil
  watermarks _ member := nomatch member
  ended member := nomatch member

/-- The entries that are sent next keep what was sent in order, if the windows that they are of were
open. -/
theorem Windowed.orderly_entries (windowed : Windowed s P wrap seen time o sent entries)
    (opened : .ended ∉ seen) (above : ∀ known, .watermark known ∈ seen → known.le time = true)
    (within : ∀ entry ∈ fresh, time.lt (.int (entry.timestamp + s.lateness)) = true) :
    Output.Orderly (fun time value => ∃ entry, value = wrap entry ∧
      time.lt (.int (entry.timestamp + s.lateness)) = true)
      (sent ++ fresh.map fun entry => .element (wrap entry)) := by
  have told : ∀ known, .watermark known ∈ sent → ∀ value ∈ fresh.map wrap, ∃ entry,
      value = wrap entry ∧ known.lt (.int (entry.timestamp + s.lateness)) = true := by
    intro known early value member
    obtain ⟨entry, present, rfl⟩ := List.mem_map.mp member
    exact ⟨entry, rfl, Number.lt_of_le_of_lt (above known (windowed.watermarks known early))
      (within entry present)⟩
  have order := windowed.orderly.append_elements (fun member => opened (windowed.ended member)) told
  rwa [List.map_map] at order

theorem Windowed.elements_entries (windowed : Windowed s P wrap seen time o sent entries)
    {last : Output α} (marker : last.element? = none) :
    Output.elements (sent ++ (fresh.map (fun entry => .element (wrap entry)) ++ [last])) =
      (entries ++ fresh).map wrap := by
  rw [Output.elements, List.filterMap_append, List.filterMap_append, ← Output.elements,
    windowed.elements, List.map_append, List.filterMap_cons_none marker, List.filterMap_nil,
    List.append_nil, List.filterMap_map]
  congr 1
  exact congrFun List.filterMap_eq_map fresh

variable [EquivBEq κ]

theorem Windowed.element (windowed : Windowed s P wrap seen time o sent entries)
    (sound : s.Sound P) (opened : .ended ∉ seen) {value : α} (ok : P value) :
    Windowed s P wrap (seen ++ [.element value]) time
      ((window name s.aggregator wrap).behaviour.element time o value).state
      (sent ++ ((window name s.aggregator wrap).behaviour.element time o value).outputs)
      entries := by
  obtain ⟨after, took, tallies⟩ := (windowed.live opened).accumulate sound ok
  have arrived : Output.arrivals (seen ++ [.element value]) =
      Output.arrivals seen ++ [(time, value)] := by
    rw [Output.arrivals_element, ← windowed.greatest]
  rw [state_window_element, outputs_window_element, took, List.append_nil]
  refine ⟨windowed.elements, ?_, ?_, fun _ => ?_, fun ended => ?_, windowed.orderly, ?_, ?_⟩
  · rw [Output.offers_concat]
    exact windowed.greatest.trans (Offer.greatest_concat _ (.item value)).symm
  · rw [arrived]
    exact tallies.late
  · rw [arrived]
    exact tallies
  · exact absurd (by simpa using ended) opened
  · exact fun known member => List.mem_append_left _ (windowed.watermarks known member)
  · exact fun member => List.mem_append_left _ (windowed.ended member)

theorem Windowed.advanced (windowed : Windowed s P wrap seen time o sent entries)
    (sound : s.Sound P) {next : Number} {ok : Number → α → Prop}
    (orderly : Output.Orderly ok (seen ++ [.watermark next]))
    (above : ∀ known, .watermark known ∈ seen → known.le time = true)
    (later : time.lt next = true) :
    ∃ fresh, Windowed s P wrap (seen ++ [.watermark next]) next
      ((window name s.aggregator wrap).behaviour.advanced next o).state
      (sent ++ (((window name s.aggregator wrap).behaviour.advanced next o).outputs ++
        [.watermark next])) (entries ++ fresh) := by
  have opened := orderly.not_ended
  obtain ⟨after, fresh, closed, tallies, within⟩ :=
    (windowed.live opened).closeDue sound (Number.le_of_lt later)
  have order := windowed.orderly_entries opened above within
  have arrived := Output.arrivals_watermark seen next
  refine ⟨fresh, ?_⟩
  simp only [window, window.send, closed]
  refine ⟨windowed.elements_entries rfl, ?_, ?_, fun _ => ?_, fun ended => ?_, ?_, ?_, ?_⟩
  · rw [Output.offers_concat]
    refine Eq.trans ?_ (Offer.greatest_concat _ (.watermark next)).symm
    rw [← windowed.greatest, Offer.raise, if_pos later]
  · rw [arrived]
    exact tallies.late
  · rw [arrived]
    exact tallies
  · exact absurd (by simpa using ended) opened
  · rw [← List.append_assoc]
    refine Output.orderly_concat.mpr ⟨order, fun before member => ?_, ?_⟩
    · cases before with
      | element value => trivial
      | watermark known =>
        have early : .watermark known ∈ sent := by simpa using member
        exact Number.lt_of_le_of_lt (above known (windowed.watermarks known early)) later
      | ended => exact absurd (windowed.ended (by simpa using member)) opened
    · rintro known same
      cases same
      exact (Output.orderly_concat.mp orderly).2.2 next rfl
  · intro known member
    rcases List.mem_append.mp member with old | new
    · exact List.mem_append_left _ (windowed.watermarks known old)
    · refine List.mem_append_right _ ?_
      simpa using new
  · intro member
    exact absurd (windowed.ended (by simpa using member)) opened

theorem Windowed.finish (windowed : Windowed s P wrap seen time o sent entries)
    (sound : s.Sound P) {ok : Number → α → Prop} (orderly : Output.Orderly ok (seen ++ [.ended]))
    (above : ∀ known, .watermark known ∈ seen → known.le time = true) :
    ∃ fresh, Windowed s P wrap (seen ++ [.ended]) time
      ((window name s.aggregator wrap).behaviour.finish time o).state
      (sent ++ (((window name s.aggregator wrap).behaviour.finish time o).outputs ++ [.ended]))
      (entries ++ fresh) := by
  have opened := orderly.not_ended
  obtain ⟨after, fresh, closed, -, late, handed, within⟩ := (windowed.live opened).flush sound
  have order := windowed.orderly_entries opened above within
  have arrived := Output.arrivals_ended seen
  refine ⟨fresh, ?_⟩
  simp only [window, window.send, closed]
  refine ⟨windowed.elements_entries rfl, ?_, ?_, fun still => ?_, fun _ => ?_, ?_, ?_, ?_⟩
  · rw [Output.offers_concat]
    exact windowed.greatest.trans (congrArg Offer.greatest (List.append_nil _).symm)
  · rw [arrived]
    exact late
  · exact absurd (List.mem_append_right _ (List.mem_singleton_self _)) still
  · rw [arrived]
    exact handed
  · rw [← List.append_assoc]
    refine Output.orderly_concat.mpr ⟨order, fun before member => ?_, fun _ same => nomatch same⟩
    cases before with
    | element value => trivial
    | watermark known => trivial
    | ended => exact absurd (windowed.ended (by simpa using member)) opened
  · intro known member
    exact List.mem_append_left _ (windowed.watermarks known (by simpa using member))
  · exact fun _ => List.mem_append_right _ (List.mem_singleton_self _)

/-- A windowed operator over an orderly stream of items on which nothing fails. -/
theorem reads_window (sound : s.Sound P)
    (reads : (window name s.aggregator wrap).Reads seen time o sent) {ok : Number → α → Prop}
    (orderly : Output.Orderly ok seen) (all : ∀ value, .element value ∈ seen → P value) :
    ∃ entries, Windowed s P wrap seen time o sent entries := by
  induction reads with
  | start => exact ⟨[], windowed_start⟩
  | element value _ ih =>
    obtain ⟨entries, windowed⟩ := ih (orderly.sublist (List.sublist_append_left _ _))
      fun value member => all value (List.mem_append_left _ member)
    exact ⟨entries, windowed.element sound orderly.not_ended
      (all value (List.mem_append_right _ (List.mem_singleton_self _)))⟩
  | watermark later before ih =>
    obtain ⟨entries, windowed⟩ := ih (orderly.sublist (List.sublist_append_left _ _))
      fun value member => all value (List.mem_append_left _ member)
    obtain ⟨fresh, next⟩ := windowed.advanced sound orderly before.time_spec.1 later
    exact ⟨_, next⟩
  | ended before ih =>
    obtain ⟨entries, windowed⟩ := ih (orderly.sublist (List.sublist_append_left _ _))
      fun value member => all value (List.mem_append_left _ member)
    obtain ⟨fresh, next⟩ := windowed.finish sound orderly before.time_spec.1
    exact ⟨_, next⟩

omit [BEq κ] [EquivBEq κ] in
theorem mem_of_mem_arrivals {a : Number × α} (member : a ∈ Output.arrivals seen) :
    .element a.2 ∈ seen := by
  have present : a.2 ∈ Output.elements seen := by
    rw [← Output.map_arrivals]
    exact List.mem_map.mpr ⟨a, member, rfl⟩
  obtain ⟨output, member, same⟩ := List.mem_filterMap.mp present
  cases output with
  | element value =>
    cases same
    exact member
  | watermark time => cases same
  | ended => cases same

/-- Every entry that was sent is the result over some of the elements that were read. -/
theorem Windowed.result_of_mem (windowed : Windowed s P wrap seen time o sent entries)
    (sound : s.Sound P) (all : ∀ value, .element value ∈ seen → P value)
    {entry : TimestampedEntry Int κ ρ} (member : entry ∈ entries) :
    ∃ items, items ≠ [] ∧ (∀ value ∈ items, .element value ∈ seen) ∧
      s.aggregation.run items = .ok entry.value := by
  have at_ := Sliding.mem_entriesAt (s := s) member
  have batch : entry ∈ s.batch (entry.timestamp - s.window.size)
      (s.contributions (Output.arrivals seen) (entry.timestamp - s.window.size) entry.key) := by
    by_cases ended : .ended ∈ seen
    · rwa [windowed.done ended] at at_
    · rw [(windowed.live ended).handed] at at_
      split at at_
      · cases at_
      · exact at_
  have came : ∀ value ∈ s.contributions (Output.arrivals seen)
      (entry.timestamp - s.window.size) entry.key, .element value ∈ seen := by
    intro value present
    obtain ⟨a, arrived, rfl, -, -⟩ := Sliding.mem_contributions present
    exact mem_of_mem_arrivals arrived
  generalize s.contributions (Output.arrivals seen) (entry.timestamp - s.window.size) entry.key =
    items at batch came
  cases items with
  | nil => cases batch
  | cons first rest =>
    obtain ⟨key, value, -, ran, made⟩ := sound.batch_eq (entry.timestamp - s.window.size)
      fun item present => all item (came item present)
    rw [made] at batch
    refine ⟨first :: rest, List.cons_ne_nil _ _, came, ?_⟩
    rw [List.mem_singleton.mp batch]
    exact ran

/-! ## Streams in time -/

omit [BEq κ] [EquivBEq κ] in
/-- Every element of a stream in time comes in time. -/
theorem timely_arrivals (orderly : Output.Orderly s.Timely seen) :
    ∀ a ∈ Output.arrivals seen, s.Timely a.1 a.2 :=
  orderly.of_arrival fun _ _ _ => Number.negInfinity_lt_int _

omit [EquivBEq κ] in
/-- Of a stream in time that has ended, the entries of a window and key are the result over all
elements that belong there. -/
theorem Windowed.delivers (windowed : Windowed s P wrap seen time o sent entries)
    (sound : s.Sound P) (orderly : Output.Orderly s.Timely seen)
    (all : ∀ value, .element value ∈ seen → P value) (ended : .ended ∈ seen) (start : Int)
    (key : κ) :
    s.Delivers start key ((Output.elements seen).filter fun value => s.covers value start key)
      (s.aggregator.entriesAt start key entries) := by
  have items := Sliding.contributions_of_timely (timely_arrivals orderly) start key
  rw [Output.map_arrivals] at items
  rw [windowed.done ended, items]
  refine sound.delivers_batch (fun value member => ?_) fun value member => ?_
  · obtain ⟨output, present, same⟩ := List.mem_filterMap.mp (List.mem_of_mem_filter member)
    cases output with
    | element other =>
      cases same
      exact all _ present
    | watermark time => cases same
    | ended => cases same
  · exact (List.mem_filter.mp member).2

omit [EquivBEq κ] in
/-- An element after a stream in time comes in time. -/
theorem timely_last (reads : (window name s.aggregator wrap).Reads seen time o sent) {value : α}
    (orderly : Output.Orderly s.Timely (seen ++ [.element value])) : s.Timely time value := by
  rcases reads.time_spec.2 with bottom | member
  · rw [bottom]
    exact fun _ _ => Number.negInfinity_lt_int _
  · exact (Output.orderly_concat.mp orderly).2.1 _ member

/-- A windowed operator over a stream in time counts nothing as late, and its accumulators stay such
that no element fails on them. -/
theorem late_of_timely {A : σ → Prop} (folds : s.Folds P A)
    (reads : (window name s.aggregator wrap).Reads seen time o sent)
    (orderly : Output.Orderly s.Timely seen) (all : ∀ value, .element value ∈ seen → P value) :
    o.late = 0 ∧ o.Each A := by
  induction reads with
  | start => exact ⟨rfl, fun _ _ _ found => nomatch found⟩
  | @element seen sent time o value before ih =>
    obtain ⟨none, each⟩ := ih (orderly.sublist (List.sublist_append_left _ _))
      fun value member => all value (List.mem_append_left _ member)
    have own := all value (List.mem_append_right _ (List.mem_singleton_self _))
    obtain ⟨-, late, still⟩ := folds.accumulate own (timely_last before orderly) each
    rw [state_window_element]
    exact ⟨late.trans none, still⟩
  | watermark later before ih =>
    obtain ⟨none, each⟩ := ih (orderly.sublist (List.sublist_append_left _ _))
      fun value member => all value (List.mem_append_left _ member)
    obtain ⟨late, still⟩ := s.aggregator.close_keeps each _
    simp only [window, state_send]
    exact ⟨late.trans none, still⟩
  | ended before ih =>
    obtain ⟨none, each⟩ := ih (orderly.sublist (List.sublist_append_left _ _))
      fun value member => all value (List.mem_append_left _ member)
    obtain ⟨late, still⟩ := s.aggregator.close_keeps each _
    simp only [window, state_send]
    exact ⟨late.trans none, still⟩

end Operators

end FlightStream.Dataflow
