import FlightStream.Proofs.Feed.Polling
import Mathlib.Data.Int.Order.Basic
import Mathlib.Data.List.Basic
import Mathlib.Tactic.Push

/-!
When an aircraft is passed on again. Each snapshot rebuilds the memory from its valid reports, so an
aircraft is known by those since the last snapshot that held none of it, `known_remembered`, and the
first one after such a snapshot is passed on whatever its time. Hence the times that are passed on
increase just if every such return is later than all that came before, `times_increase_iff`. A
record that is dropped for its flaws does not keep its aircraft in the memory, though the snapshot
lists it.
-/

namespace FlightStream.Feed.Poll

open Dataflow

/-! ## Maxima -/

theorem maximaAfter_sublist (seen reports : List PositionReport) :
    (maximaAfter seen reports).Sublist reports := by
  induction reports generalizing seen with
  | nil => exact .slnil
  | cons report rest ih =>
    unfold maximaAfter
    split
    · exact (ih _).cons_cons report
    · exact (ih _).cons report

/-- Maxima are later than all that was seen before them. -/
theorem lt_of_mem_maximaAfter {seen reports : List PositionReport} {report : PositionReport}
    (member : report ∈ maximaAfter seen reports) :
    ∀ earlier ∈ seen, earlier.posTime < report.posTime := by
  induction reports generalizing seen with
  | nil => cases member
  | cons first rest ih =>
    rcases List.mem_append.mp member with own | later
    · split at own
      · rename_i newer
        rw [List.mem_singleton.mp own]
        exact newer
      · cases own
    · exact fun earlier before => ih later earlier (List.mem_append_left _ before)

theorem increasing_maximaAfter (seen reports : List PositionReport) :
    (maximaAfter seen reports).Pairwise fun a b => a.posTime < b.posTime := by
  induction reports generalizing seen with
  | nil => exact .nil
  | cons first rest ih =>
    refine List.pairwise_append.mpr ⟨?_, ih _, fun a own b later => ?_⟩
    · split
      · exact List.pairwise_singleton _ _
      · exact .nil
    · split at own
      · rw [List.mem_singleton.mp own]
        exact lt_of_mem_maximaAfter later first (by simp)
      · cases own

/-- No report is later than all maxima and all that was seen before. -/
theorem exists_maximum_ge (seen : List PositionReport) {reports : List PositionReport}
    {report : PositionReport} (member : report ∈ reports) :
    ∃ greatest ∈ seen ++ maximaAfter seen reports, report.posTime ≤ greatest.posTime := by
  induction reports generalizing seen with
  | nil => cases member
  | cons first rest ih =>
    have own : ∃ greatest ∈ seen ++ maximaAfter seen (first :: rest),
        first.posTime ≤ greatest.posTime := by
      by_cases newer : ∀ earlier ∈ seen, earlier.posTime < first.posTime
      · refine ⟨first, List.mem_append_right _ ?_, le_rfl⟩
        rw [maximaAfter, if_pos newer]
        exact List.mem_cons_self
      · push Not at newer
        obtain ⟨earlier, before, above⟩ := newer
        exact ⟨earlier, List.mem_append_left _ before, above⟩
    rcases List.mem_cons.mp member with rfl | later
    · exact own
    · obtain ⟨greatest, present, above⟩ := ih (seen ++ [first]) later
      rw [List.append_assoc, List.mem_append, List.mem_append, List.mem_singleton] at present
      rcases present with old | rfl | new
      · exact ⟨greatest, List.mem_append_left _ old, above⟩
      · obtain ⟨greater, found, further⟩ := own
        exact ⟨greater, found, Int.le_trans above further⟩
      · exact ⟨greatest, List.mem_append_right _ (List.mem_append_right _ new), above⟩

/-! ## Successive snapshots -/

/-- The memory that successive snapshots leave. -/
def remembered (α : Type) (last : Memory) (snapshots : List (List Json)) : Memory :=
  snapshots.foldl (fun memory records => (freshReports memory records : Polled α).memory) last

/-- What successive snapshots pass on, each read with the memory that the one before it left. -/
def passedOn (α : Type) (last : Memory) : List (List Json) → List PositionReport
  | [] => []
  | records :: rest =>
    let polled : Polled α := freshReports last records
    polled.reports ++ passedOn α polled.memory rest

/-- What is passed on of an aircraft from the start on. -/
def passedOf (α : Type) (id : Int) (snapshots : List (List Json)) : List PositionReport :=
  (passedOn α [] snapshots).filter fun report => report.id = id

/-- The valid reports of an aircraft since the last snapshot that held none of it. -/
def stretch (id : Int) (snapshots : List (List Json)) : List PositionReport :=
  snapshots.foldl
    (fun seen records => if sightings id records = [] then [] else seen ++ sightings id records) []

variable {α : Type} {id : Int} {snapshots : List (List Json)} {records : List Json}

theorem passedOn_concat (last : Memory) (snapshots : List (List Json)) (records : List Json) :
    passedOn α last (snapshots ++ [records]) = passedOn α last snapshots ++
      (freshReports (remembered α last snapshots) records : Polled α).reports := by
  induction snapshots generalizing last with
  | nil => simp [passedOn, remembered]
  | cons first rest ih => simp [passedOn, remembered, ih]

theorem stretch_concat (id : Int) (snapshots : List (List Json)) (records : List Json) :
    stretch id (snapshots ++ [records]) =
      if sightings id records = [] then [] else stretch id snapshots ++ sightings id records := by
  simp only [stretch, List.foldl_concat]

/-- What is known of an aircraft is the greatest time since the last snapshot without it. -/
theorem known_remembered
    (sound : ∀ listed ∈ snapshots, ∀ raw ∈ listed, (Outcome.ofRecord raw).fault? = none) :
    known (remembered α [] snapshots) [] id = peak (-1) (stretch id snapshots) := by
  induction snapshots using List.reverseRecOn with
  | nil => rfl
  | append_singleton before records ih =>
    have clean := sound records (by simp)
    have knows := ih fun other member => sound other (List.mem_append_left _ member)
    rw [remembered, List.foldl_concat, ← remembered, (freshReports_sound _ clean).1, known,
      find?_memory_readRecords _ _ _ clean, stretch_concat]
    split
    · rfl
    · rw [knows, ← peak_append]
      exact Int.max_eq_left (le_peak _ _)

/-- One more snapshot passes on the reports later than all since the last snapshot without one. -/
theorem passedOf_concat
    (sound : ∀ listed ∈ snapshots ++ [records], ∀ raw ∈ listed,
      (Outcome.ofRecord raw).fault? = none)
    (started : ∀ report ∈ sightings id records, 0 ≤ report.posTime) :
    passedOf α id (snapshots ++ [records]) =
      passedOf α id snapshots ++ maximaAfter (stretch id snapshots) (sightings id records) := by
  have clean := sound records (by simp)
  have knows : known (remembered α [] snapshots) [] id = peak (-1) (stretch id snapshots) :=
    known_remembered fun other member => sound other (List.mem_append_left _ member)
  rw [passedOf, passedOn_concat, List.filter_append, (freshReports_sound _ clean).1,
    readRecords_maxima knows clean started]
  rfl

/-! ## What is passed on, and what comes -/

/-- The valid reports of an aircraft in successive snapshots. -/
def sightingsIn (id : Int) (snapshots : List (List Json)) : List PositionReport :=
  snapshots.flatMap (sightings id)

theorem sightingsIn_concat (id : Int) (snapshots : List (List Json)) (records : List Json) :
    sightingsIn id (snapshots ++ [records]) = sightingsIn id snapshots ++ sightings id records := by
  simp [sightingsIn]

theorem stretch_subset (id : Int) (snapshots : List (List Json)) :
    stretch id snapshots ⊆ sightingsIn id snapshots := by
  induction snapshots using List.reverseRecOn with
  | nil => exact List.Subset.refl _
  | append_singleton before records ih =>
    rw [stretch_concat, sightingsIn_concat]
    split
    · exact List.nil_subset _
    · exact List.append_subset.mpr
        ⟨List.subset_append_of_subset_left _ ih, List.subset_append_right _ _⟩

/-- Snapshots that no fault ends, in which the times of an aircraft are from zero on. -/
structure Regular (id : Int) (snapshots : List (List Json)) : Prop where
  sound : ∀ listed ∈ snapshots, ∀ raw ∈ listed, (Outcome.ofRecord raw).fault? = none
  started : ∀ listed ∈ snapshots, ∀ report ∈ sightings id listed, 0 ≤ report.posTime

theorem Regular.before (regular : Regular id (snapshots ++ [records])) : Regular id snapshots :=
  ⟨fun other member => regular.sound other (List.mem_append_left _ member),
    fun other member => regular.started other (List.mem_append_left _ member)⟩

theorem Regular.passedOf_concat (regular : Regular id (snapshots ++ [records])) :
    passedOf α id (snapshots ++ [records]) =
      passedOf α id snapshots ++ maximaAfter (stretch id snapshots) (sightings id records) :=
  Poll.passedOf_concat regular.sound (regular.started records (by simp))

theorem passedOf_subset (regular : Regular id snapshots) :
    passedOf α id snapshots ⊆ sightingsIn id snapshots := by
  induction snapshots using List.reverseRecOn with
  | nil => exact List.Subset.refl _
  | append_singleton before records ih =>
    rw [regular.passedOf_concat, sightingsIn_concat]
    exact List.append_subset.mpr ⟨List.subset_append_of_subset_left _ (ih regular.before),
      List.subset_append_of_subset_right _ (maximaAfter_sublist _ _).subset⟩

/-- No valid report is later than all that were passed on. -/
theorem exists_passed_ge (regular : Regular id snapshots) {report : PositionReport}
    (member : report ∈ sightingsIn id snapshots) :
    ∃ passed ∈ passedOf α id snapshots, report.posTime ≤ passed.posTime := by
  induction snapshots using List.reverseRecOn generalizing report with
  | nil => cases member
  | append_singleton before records ih =>
    rw [regular.passedOf_concat]
    rw [sightingsIn_concat] at member
    have old : ∀ earlier ∈ sightingsIn id before, ∃ passed ∈ passedOf α id before ++
        maximaAfter (stretch id before) (sightings id records),
        earlier.posTime ≤ passed.posTime := by
      intro earlier present
      obtain ⟨passed, found, above⟩ := ih regular.before present
      exact ⟨passed, List.mem_append_left _ found, above⟩
    rcases List.mem_append.mp member with early | now
    · exact old report early
    · obtain ⟨greatest, present, above⟩ := exists_maximum_ge (stretch id before) now
      rcases List.mem_append.mp present with seen | new
      · obtain ⟨passed, found, further⟩ := old greatest (stretch_subset id before seen)
        exact ⟨passed, found, Int.le_trans above further⟩
      · exact ⟨greatest, List.mem_append_right _ new, above⟩

/-! ## When the times increase -/

/-- One report is earlier than another. -/
def Earlier (a b : PositionReport) : Prop := a.posTime < b.posTime

/-- Of increasing reports none is later than all since the last snapshot without one. -/
theorem exists_recent_ge (regular : Regular id snapshots)
    (increasing : (passedOf α id snapshots).Pairwise Earlier) (some_ : stretch id snapshots ≠ [])
    {report : PositionReport} (member : report ∈ passedOf α id snapshots) :
    ∃ recent ∈ stretch id snapshots, report.posTime ≤ recent.posTime := by
  induction snapshots using List.reverseRecOn generalizing report with
  | nil => cases member
  | append_singleton before records ih =>
    rw [stretch_concat] at some_ ⊢
    rw [regular.passedOf_concat] at increasing member
    obtain ⟨early, -, across⟩ := List.pairwise_append.mp increasing
    by_cases none : sightings id records = []
    · simp [none] at some_
    rw [if_neg none]
    rcases List.mem_append.mp member with old | new
    · by_cases back : stretch id before = []
      · obtain ⟨first, rest, listed⟩ := List.exists_cons_of_ne_nil none
        rw [back, listed] at across
        have below := across report old first (by simp [maximaAfter])
        exact ⟨first, by simp [listed], Int.le_of_lt below⟩
      · obtain ⟨recent, present, above⟩ := ih regular.before early back old
        exact ⟨recent, List.mem_append_left _ present, above⟩
    · exact ⟨report, List.mem_append_right _ ((maximaAfter_sublist _ _).subset new), le_rfl⟩

/-- Whenever an aircraft returns after a snapshot that held no valid report of it, its first report
is later than all before. -/
def ReturnsLater (id : Int) (snapshots : List (List Json)) : Prop :=
  ∀ before gap next after, snapshots = before ++ gap :: next :: after → sightings id gap = [] →
    ∀ report ∈ (sightings id next).head?, ∀ earlier ∈ sightingsIn id before, Earlier earlier report

theorem returnsLater_concat_iff : ReturnsLater id (snapshots ++ [records]) ↔
    ReturnsLater id snapshots ∧
      ∀ before gap, snapshots = before ++ [gap] → sightings id gap = [] →
        ∀ report ∈ (sightings id records).head?, ∀ earlier ∈ sightingsIn id before,
          Earlier earlier report := by
  constructor
  · intro returns
    constructor
    · rintro before gap next after rfl
      exact returns before gap next (after ++ [records]) (by simp)
    · rintro before gap rfl
      exact returns before gap records [] (by simp)
  · rintro ⟨returns, last⟩ before gap next after split
    rcases List.eq_nil_or_concat' after with rfl | ⟨others, final, rfl⟩
    · have parts : snapshots ++ [records] = (before ++ [gap]) ++ [next] := by simpa using split
      obtain ⟨rfl, same⟩ := List.append_inj' parts rfl
      cases same
      exact last before gap rfl
    · have parts : snapshots ++ [records] = (before ++ gap :: next :: others) ++ [final] := by
        simpa using split
      obtain ⟨rfl, -⟩ := List.append_inj' parts rfl
      exact returns before gap next others rfl

/-- Where an aircraft returns, what is passed on of it is later than all that was passed on before
just if its first report is later than all before. -/
theorem earlier_maxima_iff (regular : Regular id snapshots)
    (increasing : (passedOf α id snapshots).Pairwise Earlier) :
    (∀ passed ∈ passedOf α id snapshots,
        ∀ report ∈ maximaAfter (stretch id snapshots) (sightings id records),
          Earlier passed report) ↔
      ∀ before gap, snapshots = before ++ [gap] → sightings id gap = [] →
        ∀ report ∈ (sightings id records).head?, ∀ earlier ∈ sightingsIn id before,
          Earlier earlier report := by
  by_cases back : stretch id snapshots = []
  · rcases List.eq_nil_or_concat' snapshots with rfl | ⟨init, last, rfl⟩
    · exact iff_of_true (fun _ member => nomatch member) fun before gap split => by simp at split
    · have none : sightings id last = [] := by
        rw [stretch_concat] at back
        by_contra some_
        simp [some_] at back
      have same : sightingsIn id (init ++ [last]) = sightingsIn id init := by
        rw [sightingsIn_concat, none, List.append_nil]
      rw [back]
      rcases sightings id records with _ | ⟨first, rest⟩
      · simp [maximaAfter]
      · have maxima : maximaAfter [] (first :: rest) = first :: maximaAfter [first] rest := by
          simp [maximaAfter]
        rw [maxima]
        constructor
        · intro across before gap split _ report returned earlier member
          obtain ⟨rfl, -⟩ := List.append_inj' split rfl
          cases returned
          obtain ⟨passed, found, above⟩ := exists_passed_ge (α := α) regular (same ▸ member)
          exact Int.lt_of_le_of_lt above (across passed found _ List.mem_cons_self)
        · intro returns passed found report member
          have below := returns init last rfl none first rfl passed
            (same ▸ passedOf_subset regular found)
          rcases List.mem_cons.mp member with rfl | later
          · exact below
          · exact Int.lt_trans below (lt_of_mem_maximaAfter later first List.mem_cons_self)
  · refine iff_of_true (fun passed found report member => ?_) fun before gap split none => ?_
    · obtain ⟨recent, present, above⟩ := exists_recent_ge regular increasing back found
      exact Int.lt_of_le_of_lt above (lt_of_mem_maximaAfter member recent present)
    · rw [split, stretch_concat, if_pos none] at back
      exact absurd rfl back

/-- The times that are passed on of an aircraft increase strictly from snapshot to snapshot just if,
whenever it returns after a snapshot that held no valid report of it, it returns with a report that
is later than all before. In particular they increase while every snapshot holds a valid report, and
a report that was passed on is passed on again if a snapshot without a valid one comes between. -/
theorem times_increase_iff (α : Type) (regular : Regular id snapshots) :
    ((passedOf α id snapshots).map (·.posTime)).Pairwise (· < ·) ↔ ReturnsLater id snapshots := by
  rw [List.pairwise_map]
  induction snapshots using List.reverseRecOn with
  | nil =>
    refine iff_of_true .nil fun before gap next after split => ?_
    simp at split
  | append_singleton before records ih =>
    rw [regular.passedOf_concat, List.pairwise_append, returnsLater_concat_iff, ← ih regular.before]
    refine and_congr_right fun increasing => ?_
    rw [and_iff_right (increasing_maximaAfter _ _)]
    exact earlier_maxima_iff regular.before increasing

/-- A record of an aircraft with a value for its time. -/
def timed (time : Json) : Json := .object [(.plain "Id", .number 7), (.plain "PosTime", time)]

/-- An aircraft that is gone for one snapshot, and comes back with a later time and an earlier
one. -/
def away : List (List Json) :=
  [[timed (.number 5)], [], [timed (.number 9), timed (.number 5)], [timed (.number 12)]]

theorem times_increase_iff_away :
    Regular 7 away ∧ ((passedOf PositionReport 7 away).map (·.posTime)) = [5, 9, 12] ∧
      ReturnsLater 7 away := by
  have regular : Regular 7 away := ⟨by decide +kernel, by decide +kernel⟩
  have times : (passedOf PositionReport 7 away).map (·.posTime) = [5, 9, 12] := by decide +kernel
  exact ⟨regular, times, (times_increase_iff PositionReport regular).mp (by rw [times]; decide)⟩

/-- Whether a record gives an identity, whatever else it holds. -/
def Names (id : Int) (raw : Json) : Prop :=
  raw.fields?.bind (·.find? "Id") = some (.number (.int id))

/-- Three snapshots that list an aircraft; in the second its time is a text. -/
def interrupted : List (List Json) :=
  [[timed (.number 5)], [timed (.text "x")], [timed (.number 5)]]

/-- Every snapshot lists the aircraft, and yet its one position is passed on twice, as the record
that is dropped does not keep it in the memory. -/
theorem flawed_record_forgets :
    (∀ listed ∈ interrupted, ∃ raw ∈ listed, Names 7 raw) ∧ Regular 7 interrupted ∧
      (passedOf PositionReport 7 interrupted).map (·.posTime) = [5, 5] ∧
      ¬((passedOf PositionReport 7 interrupted).map (·.posTime)).Pairwise (· < ·) := by
  have times : (passedOf PositionReport 7 interrupted).map (·.posTime) = [5, 5] := by
    decide +kernel
  refine ⟨?_, ⟨by decide +kernel, by decide +kernel⟩, times, by rw [times]; decide⟩
  intro listed member
  simp only [interrupted, List.mem_cons, List.not_mem_nil, or_false] at member
  rcases member with rfl | rfl | rfl <;> exact ⟨_, List.mem_cons_self, rfl⟩

end FlightStream.Feed.Poll
