import FlightStream.Proofs.Windows.Content

/-!
The whole history of windowed aggregation. `arrivals` lists the items that came, each with the
watermark it came under; the `contributions` to a window and key are those that it was open for.
`Tallies` says of the open windows and of all entries handed out so far that they are what these
come to, and that every item without an open window was counted.
-/

namespace FlightStream.Sliding

variable {α κ σ ρ : Type} [BEq κ] (s : Sliding α κ σ ρ) (P : α → Prop)

/-- The items of a window and key, in order of arrival: those that belong to it and came while
the window was open. -/
def contributions (arrivals : List (Number × α)) (start : Int) (key : κ) : List α :=
  (arrivals.filter fun a => s.isOpen a.1 start && s.covers a.2 start key).map (·.2)

/-- What is open, what was handed out and what was counted as late are those of the arrivals. -/
structure Tallies (arrivals : List (Number × α)) (watermark : Number)
    (o : OpenWindows Int κ σ) (entries : List (TimestampedEntry Int κ ρ)) : Prop where
  holds : s.Holds P watermark (s.contributions arrivals) o
  handed : ∀ start key, s.aggregator.entriesAt start key entries =
    if s.isOpen watermark start = true then []
    else s.batch start (s.contributions arrivals start key)
  late : o.late = arrivals.countP fun a => !s.admits a.1 a.2

variable {s P} {arrivals : List (Number × α)} {watermark : Number} {o : OpenWindows Int κ σ}
  {entries : List (TimestampedEntry Int κ ρ)}

theorem contributions_concat (arrivals : List (Number × α)) (watermark : Number) (item : α) :
    s.contributions (arrivals ++ [(watermark, item)]) =
      s.arrived watermark (s.contributions arrivals) item := by
  funext start key
  unfold contributions arrived
  rw [List.filter_append, List.map_append]
  cases taken : s.isOpen watermark start && s.covers item start key <;> simp [taken]

theorem mem_contributions {item : α} {start : Int} {key : κ}
    (member : item ∈ s.contributions arrivals start key) :
    ∃ a ∈ arrivals, a.2 = item ∧ s.isOpen a.1 start = true ∧ s.covers item start key = true := by
  obtain ⟨a, kept, rfl⟩ := List.mem_map.mp member
  obtain ⟨arrived, taken⟩ := List.mem_filter.mp kept
  obtain ⟨opened, covered⟩ := Bool.and_eq_true_iff.mp taken
  exact ⟨a, arrived, rfl, opened, covered⟩

/-! ## Items in time -/

/-- A watermark that an item is not too late for in any of its windows. -/
def Timely (s : Sliding α κ σ ρ) (watermark : Number) (item : α) : Prop :=
  ∀ time, s.timeOf item = .ok time → watermark.lt (.int (time + s.lateness + 1)) = true

omit [BEq κ] in
theorem Timely.isOpen {item : α} (timely : s.Timely watermark item) {time : Int}
    (timed : s.timeOf item = .ok time) {start : Int} (member : start ∈ s.window.startsFor time) :
    s.isOpen watermark start = true := by
  obtain ⟨-, -, inside⟩ := s.window.mem_startsFor.mp member
  refine Number.lt_of_lt_of_le (timely time timed) (Number.le_int_iff.mpr ?_)
  omega

/-- If all items come in time, every window has all of its items. -/
theorem contributions_of_timely (timely : ∀ a ∈ arrivals, s.Timely a.1 a.2) (start : Int)
    (key : κ) : s.contributions arrivals start key =
      (arrivals.map (·.2)).filter fun item => s.covers item start key := by
  unfold contributions
  rw [List.filter_map]
  congr 1
  refine List.filter_congr fun a member => ?_
  cases covered : s.covers a.2 start key with
  | false => simp [covered]
  | true =>
    obtain ⟨time, own, timed, -, inside, -⟩ := covers_iff.mp covered
    simp [covered, (timely a member).isOpen timed inside]

theorem tallies_empty : s.Tallies P [] .negInfinity .empty [] where
  holds := holds_empty
  handed := by
    intro start key
    split <;> rfl
  late := rfl

variable [EquivBEq κ]

/-- An item joins the pairs of its open windows; without one it is counted. -/
theorem Tallies.accumulate (tallies : s.Tallies P arrivals watermark o entries)
    (sound : s.Sound P) {item : α} (ok : P item) :
    ∃ after, s.aggregator.accumulate watermark o item = (after, s.answer watermark item) ∧
      s.Tallies P (arrivals ++ [(watermark, item)]) watermark after entries := by
  obtain ⟨after, took, late, held⟩ := tallies.holds.accumulate sound ok
  refine ⟨after, took, ?_, ?_, ?_⟩
  · rw [contributions_concat]
    exact held
  · intro start key
    rw [tallies.handed, contributions_concat]
    cases opened : s.isOpen watermark start <;> simp [arrived, opened]
  · rw [late, tallies.late, List.countP_append]
    cases counted : s.admits watermark item <;> simp [counted]

/-- A watermark that is not below the present one closes windows. What it hands out is of windows
that were open before it and are closed under it. -/
theorem Tallies.closeDue (tallies : s.Tallies P arrivals watermark o entries)
    (sound : s.Sound P) {next : Number} (below : watermark.le next = true) :
    ∃ after fresh, s.aggregator.closeDue next o = (after, .ok fresh) ∧
      s.Tallies P arrivals next after (entries ++ fresh) ∧
      ∀ entry ∈ fresh, watermark.lt (.int (entry.timestamp + s.lateness)) = true := by
  obtain ⟨after, fresh, closed, late, held, given⟩ := tallies.holds.closeDue sound below
  refine ⟨after, fresh, closed, ⟨held, ?_, late.trans tallies.late⟩, ?_⟩
  · intro start key
    rw [WindowAggregator.entriesAt_append, tallies.handed, given]
    cases still : s.isOpen next start with
    | true => simp [s.isOpen_of_le below still]
    | false => cases s.isOpen watermark start <;> simp
  · intro entry member
    have present := mem_entriesAt (s := s) member
    rw [given] at present
    split at present
    · rename_i turned
      have opened := (Bool.and_eq_true_iff.mp turned).1
      rwa [isOpen, SlidingWindow.endOf, Int.sub_add_cancel] at opened
    · cases present

/-- In the end every window hands out what its contributions come to. -/
theorem Tallies.flush (tallies : s.Tallies P arrivals watermark o entries) (sound : s.Sound P) :
    ∃ after fresh, s.aggregator.flush o = (after, .ok fresh) ∧
      after.windows = [] ∧ after.late = (arrivals.countP fun a => !s.admits a.1 a.2) ∧
      (∀ start key, s.aggregator.entriesAt start key (entries ++ fresh) =
        s.batch start (s.contributions arrivals start key)) ∧
      ∀ entry ∈ fresh, watermark.lt (.int (entry.timestamp + s.lateness)) = true := by
  obtain ⟨after, fresh, closed, windows, late, given⟩ := tallies.holds.flush sound
  refine ⟨after, fresh, closed, windows, late.trans tallies.late, ?_, ?_⟩
  · intro start key
    rw [WindowAggregator.entriesAt_append, tallies.handed, given]
    cases s.isOpen watermark start <;> simp
  · intro entry member
    have present := mem_entriesAt (s := s) member
    rw [given] at present
    split at present
    · rename_i opened
      rwa [isOpen, SlidingWindow.endOf, Int.sub_add_cancel] at opened
    · cases present

end FlightStream.Sliding
