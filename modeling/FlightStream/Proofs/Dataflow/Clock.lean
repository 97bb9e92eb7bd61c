import FlightStream.Proofs.Dataflow.FanIn
import FlightStream.Proofs.Dataflow.Operators

/-!
What the origin of event time keeps, and what it told those after it. Observing a time above all
before raises the tracker and the watermark together, `Clock.observe_above`; any other time
changes nothing, `Clock.observe_within`. `Follows` carries both over a run, for whole times of
any size.

The watermark is kept before it is published, and publishing converts it to a float. So a watermark
beyond the range of floats is kept and never told: until the next rise the operators after the
origin know an older one.
-/

namespace FlightStream

/-- Whether a number has a nearest float, and can be published. -/
def Number.hasFloat (a : Number) : Bool := a.toFloat.isOk

namespace Dataflow

variable {α : Type}

/-- The watermark that a stream told last, the bottom before the first. -/
def Output.told (stream : List (Output α)) : Number :=
  (watermarks stream).getLast?.getD .negInfinity

namespace Output

theorem told_append (first second : List (Output α)) :
    told (first ++ second) = (watermarks second).getLast?.getD (told first) := by
  unfold told watermarks
  rw [List.filterMap_append, List.getLast?_append]
  cases (second.filterMap watermark?).getLast? <;> rfl

end Output

namespace Operators

/-! ## One time -/

/-- A time above all before it: the tracker and the watermark rise to it, and the watermark is told
if it can be published. -/
theorem Clock.observe_above (name : String) (value : α) {c : Clock α} {time : Int}
    (later : c.tracker.latest.lt (.int time) = true)
    (above : c.watermark.lt (.int (time - c.tracker.lateness)) = true) :
    (c.observe name value (.int time)).state =
        ⟨{ c.tracker with latest := .int time }, some value, .int (time - c.tracker.lateness)⟩ ∧
      (c.observe name value (.int time)).outputs =
        .element value :: if (Number.int (time - c.tracker.lateness)).hasFloat then
          [.watermark (.int (time - c.tracker.lateness))] else [] := by
  have current : ({ c.tracker with latest := .int time } : WatermarkTracker).current =
      .ok (.int (time - c.tracker.lateness)) := rfl
  unfold Clock.observe WatermarkTracker.observe Number.hasFloat
  simp only [later, if_true, current, above]
  split <;> simp [*, Except.isOk, Except.toBool]

/-- A time that is not above those before it changes nothing. -/
theorem Clock.observe_within (name : String) (value : α) {c : Clock α} {time : Number}
    (known : c.tracker.latest.lt time = false) (agrees : c.tracker.current = .ok c.watermark) :
    (c.observe name value time).state = c ∧
      (c.observe name value time).outputs = [.element value] := by
  simp [Clock.observe, WatermarkTracker.observe, known, agrees, Number.lt_self]

/-! ## A run of times -/

/-- The clock and the outputs after some elements. The tracker holds the greatest time; the
watermark is that less the lateness, and was told last if it can be published. -/
structure Follows (behind : Int) (timeOf : α → Int) (values : List α) (clock : Clock α)
    (sent : List (Output α)) : Prop where
  lateness : clock.tracker.lateness = behind
  fresh : values = [] → clock.tracker.latest = .negInfinity ∧ clock.watermark = .negInfinity
  greatest : values ≠ [] → ∃ value ∈ values, (∀ other ∈ values, timeOf other ≤ timeOf value) ∧
    clock.tracker.latest = .int (timeOf value) ∧ clock.watermark = .int (timeOf value - behind)
  elements : Output.elements sent = values
  published : (Output.told sent).hasFloat = true
  told : clock.watermark.hasFloat = true → Output.told sent = clock.watermark

/-- What is sent for an element after others: the element, and a watermark behind it if it is later
than all of them, provided that this can be published. -/
def announced (behind : Int) (timeOf : α → Int) (before : List α) (value : α) : List (Output α) :=
  .element value ::
    if (∀ earlier ∈ before, timeOf earlier < timeOf value) ∧
        (Number.int (timeOf value - behind)).hasFloat then
      [.watermark (.int (timeOf value - behind))]
    else []

variable {behind : Int} {timeOf : α → Int} {values : List α} {clock : Clock α}
  {sent : List (Output α)}

namespace Follows

theorem start (tracker : WatermarkTracker) (fresh : tracker.latest = .negInfinity) :
    Follows tracker.lateness timeOf [] ⟨tracker, none, .negInfinity⟩ ([] : List (Output α)) where
  lateness := rfl
  fresh _ := ⟨fresh, rfl⟩
  greatest some_ := absurd rfl some_
  elements := rfl
  published := rfl
  told _ := rfl

/-- The tracker and the watermark agree from the first element on. -/
theorem agrees (follows : Follows behind timeOf values clock sent) (some_ : values ≠ []) :
    clock.tracker.current = .ok clock.watermark := by
  obtain ⟨value, -, -, latest, watermark⟩ := follows.greatest some_
  rw [WatermarkTracker.current, latest, follows.lateness, watermark]
  rfl

/-- The watermark that was told last is the one kept, unless that cannot be published. -/
theorem told_iff (follows : Follows behind timeOf values clock sent) :
    Output.told sent = clock.watermark ↔ clock.watermark.hasFloat = true :=
  ⟨fun same => same ▸ follows.published, follows.told⟩

/-- The tracker is below a time just if all elements are. -/
theorem latest_lt_iff (follows : Follows behind timeOf values clock sent) (time : Int) :
    clock.tracker.latest.lt (.int time) = true ↔ ∀ earlier ∈ values, timeOf earlier < time := by
  by_cases none_ : values = []
  · rw [(follows.fresh none_).1, none_]
    simp [Number.negInfinity_lt_int]
  · obtain ⟨value, member, top, latest, -⟩ := follows.greatest none_
    rw [latest, Number.lt_int_iff]
    exact ⟨fun below earlier known => (top earlier known).trans_lt below, fun all => all value member⟩

/-- So is the watermark, with the lateness taken off. -/
theorem watermark_lt (follows : Follows behind timeOf values clock sent) {time : Int}
    (later : ∀ earlier ∈ values, timeOf earlier < time) :
    clock.watermark.lt (.int (time - behind)) = true := by
  by_cases none_ : values = []
  · rw [(follows.fresh none_).2]
    exact Number.negInfinity_lt_int _
  · obtain ⟨value, member, -, -, watermark⟩ := follows.greatest none_
    rw [watermark, Number.lt_int_iff]
    exact Int.sub_lt_sub_right (later value member) behind

theorem elements_announced (follows : Follows behind timeOf values clock sent) (value : α) :
    Output.elements (sent ++ announced behind timeOf values value) = values ++ [value] := by
  rw [Output.elements, List.filterMap_append, ← Output.elements, follows.elements]
  congr 1
  unfold announced
  split <;> rfl

/-- An element later than all before it. -/
theorem rise (follows : Follows behind timeOf values clock sent) {value : α}
    (later : ∀ earlier ∈ values, timeOf earlier < timeOf value) {next : Clock α}
    (lateness : next.tracker.lateness = behind) (latest : next.tracker.latest = .int (timeOf value))
    (watermark : next.watermark = .int (timeOf value - behind)) :
    Follows behind timeOf (values ++ [value]) next
      (sent ++ announced behind timeOf values value) := by
  have top : ∀ other ∈ values ++ [value], timeOf other ≤ timeOf value := by
    intro other known
    rcases List.mem_append.mp known with old | new
    · exact (later other old).le
    · rw [List.mem_singleton.mp new]
  have told : Output.told (sent ++ announced behind timeOf values value) =
      if next.watermark.hasFloat then next.watermark else Output.told sent := by
    rw [Output.told_append, announced, watermark]
    simp only [eq_true later, true_and]
    split <;> rfl
  refine ⟨lateness, fun none_ => absurd none_ (by simp), fun _ => ⟨value, by simp, top, latest,
    watermark⟩, follows.elements_announced value, ?_, fun published => by rw [told, if_pos published]⟩
  rw [told]
  split
  · assumption
  · exact follows.published

/-- An element at or below one before it. -/
theorem stay (follows : Follows behind timeOf values clock sent) {value : α}
    (known : ¬∀ earlier ∈ values, timeOf earlier < timeOf value) :
    Follows behind timeOf (values ++ [value]) clock
      (sent ++ announced behind timeOf values value) := by
  have some_ : values ≠ [] := by
    rintro rfl
    exact known fun _ member => nomatch member
  obtain ⟨top, member, greatest, latest, watermark⟩ := follows.greatest some_
  have behindTop : timeOf value ≤ timeOf top := by
    by_contra above
    exact known fun earlier present => (greatest earlier present).trans_lt (not_le.mp above)
  have told : Output.told (sent ++ announced behind timeOf values value) = Output.told sent := by
    rw [Output.told_append, announced, if_neg fun both => known both.1]
    rfl
  refine ⟨follows.lateness, fun none_ => absurd none_ (by simp), fun _ => ⟨top, by simp [member], ?_,
    latest, watermark⟩, follows.elements_announced value, told ▸ follows.published,
    fun published => told.trans (follows.told published)⟩
  intro other present
  rcases List.mem_append.mp present with old | new
  · exact greatest other old
  · rw [List.mem_singleton.mp new]
    exact behindTop

/-- What observing one more time comes to. -/
theorem observe (follows : Follows behind timeOf values clock sent) (name : String) (value : α) :
    (clock.observe name value (.int (timeOf value))).outputs =
        announced behind timeOf values value ∧
      Follows behind timeOf (values ++ [value])
        (clock.observe name value (.int (timeOf value))).state
        (sent ++ announced behind timeOf values value) := by
  by_cases later : ∀ earlier ∈ values, timeOf earlier < timeOf value
  · have above := follows.watermark_lt later
    rw [← follows.lateness] at above
    obtain ⟨state, outputs⟩ :=
      Clock.observe_above name value ((follows.latest_lt_iff _).mpr later) above
    rw [follows.lateness] at state outputs
    rw [state, outputs]
    exact ⟨by simp only [announced, eq_true later, true_and],
      follows.rise later follows.lateness rfl rfl⟩
  · have settled := Bool.eq_false_iff.mpr ((follows.latest_lt_iff (timeOf value)).not.mpr later)
    have some_ : values ≠ [] := by
      rintro rfl
      exact later fun _ member => nomatch member
    obtain ⟨state, outputs⟩ := Clock.observe_within name value settled (follows.agrees some_)
    rw [state, outputs]
    exact ⟨by rw [announced, if_neg fun both => later both.1], follows.stay later⟩

end Follows

/-- The run of an origin of event time over elements. -/
def originRun (name : String) (timeIn : Option α → α → Except Fault Number)
    (tracker : WatermarkTracker) (inputs : Nat) (values : List α) : Move α (Clock α) :=
  (Worker.start (insertWatermarks name timeIn tracker) inputs).run
    (insertWatermarks name timeIn tracker) (values.map .element)

section Run

variable {timeIn : Option α → α → Except Fault Number} {tracker : WatermarkTracker}

/-- One element more. -/
theorem originRun_concat {name : String} {inputs : Nat}
    (unfinished : (originRun name timeIn tracker inputs values).worker.finished = false) (value : α)
    {time : Number} (timed : ∀ latest, timeIn latest value = .ok time) :
    let before := originRun name timeIn tracker inputs values
    let reaction := before.worker.state.observe name value time
    (originRun name timeIn tracker inputs (values ++ [value])).worker.finished = false ∧
      (originRun name timeIn tracker inputs (values ++ [value])).worker.state = reaction.state ∧
      (originRun name timeIn tracker inputs (values ++ [value])).outputs =
        before.outputs ++ reaction.outputs := by
  unfold originRun at unfinished ⊢
  simp only [List.map_append, List.map_cons, List.map_nil, Worker.run_concat, unfinished,
    Bool.false_eq_true, if_false, Worker.step, Worker.react]
  simp only [insertWatermarks, timed]
  exact ⟨trivial, trivial, trivial⟩

theorem follows_originRun (name : String) (inputs : Nat) (fresh : tracker.latest = .negInfinity)
    (timed : ∀ latest, ∀ value ∈ values, timeIn latest value = .ok (.int (timeOf value))) :
    (originRun name timeIn tracker inputs values).worker.finished = false ∧
      Follows tracker.lateness timeOf values
        (originRun name timeIn tracker inputs values).worker.state
        (originRun name timeIn tracker inputs values).outputs := by
  induction values using List.reverseRecOn with
  | nil => exact ⟨rfl, .start tracker fresh⟩
  | append_singleton before value ih =>
    obtain ⟨unfinished, follows⟩ := ih fun latest other member =>
      timed latest other (List.mem_append_left _ member)
    obtain ⟨going, state, outputs⟩ := originRun_concat unfinished value fun latest =>
      timed latest value (by simp)
    obtain ⟨announced, next⟩ := follows.observe name value
    rw [state, outputs, announced]
    exact ⟨going, next⟩

/-- The origin of event time over elements at whole times of any size, in any order. Every element
is sent on once, in order. A watermark is sent directly after an element just if its time exceeds
all earlier ones, and is that time less the lateness, provided that it can be published. From the
first element on the operator's watermark is the tracker's, and it is the watermark that those
after it were told last just if it can be published. -/
theorem origin_tells_watermarks (name : String) (inputs : Nat)
    (fresh : tracker.latest = .negInfinity)
    (timed : ∀ latest, ∀ value ∈ values, timeIn latest value = .ok (.int (timeOf value))) :
    let origin := insertWatermarks name timeIn tracker
    let after := originRun name timeIn tracker inputs
    Output.elements (after values).outputs = values ∧
      (∀ before value, before ++ [value] <+: values →
        (after (before ++ [value])).outputs =
          (after before).outputs ++ announced tracker.lateness timeOf before value) ∧
      (values ≠ [] → (after values).worker.state.tracker.current =
        .ok ((after values).worker.current origin)) ∧
      (Output.told (after values).outputs = (after values).worker.current origin ↔
        ((after values).worker.current origin).hasFloat = true) := by
  obtain ⟨-, follows⟩ := follows_originRun name inputs fresh timed
  refine ⟨follows.elements, fun before value part => ?_, follows.agrees, follows.told_iff⟩
  have own : ∀ latest, timeIn latest value = .ok (.int (timeOf value)) := fun latest =>
    timed latest value (part.subset (by simp))
  have earlier : ∀ latest, ∀ other ∈ before, timeIn latest other = .ok (.int (timeOf other)) :=
    fun latest other member => timed latest other (part.subset (List.mem_append_left _ member))
  obtain ⟨unfinished, follows⟩ := follows_originRun name inputs fresh earlier
  rw [(originRun_concat unfinished value own).2.2, (follows.observe name value).1]

end Run

/-- A tracker at its start, with some lateness. -/
def atRest (lateness : Nat) : WatermarkTracker := ⟨lateness, .negInfinity, Int.natCast_nonneg _⟩

/-- Elements that are their own times. -/
def ownTime (_ : Option Int) (value : Int) : Except Fault Number := .ok (.int value)

theorem origin_tells_watermarks_late_element :
    (originRun "marks" ownTime (atRest 2) 1 [5, 3, 9]).outputs =
      [.element 5, .watermark (.int 3), .element 3, .element 9, .watermark (.int 7)] := by
  have fresh : (atRest 2).latest = .negInfinity := rfl
  have timed : ∀ latest, ∀ value ∈ [5, 3, 9], ownTime latest value = .ok (.int (id value)) :=
    fun _ _ _ => rfl
  obtain ⟨-, steps, -, -⟩ := origin_tells_watermarks "marks" 1 fresh timed
  have first := steps [] 5 ⟨[3, 9], rfl⟩
  have second := steps [5] 3 ⟨[9], rfl⟩
  have third := steps [5, 3] 9 ⟨[], rfl⟩
  have low : (Number.int 3).hasFloat = true := by decide +kernel
  have high : (Number.int 7).hasFloat = true := by decide +kernel
  simp only [List.nil_append, List.cons_append] at first second third
  rw [third, second, first]
  simp [announced, atRest, low, high, originRun, Worker.run]

/-- The watermark of a time beyond the range of floats is kept, but those after the origin are never
told it. -/
theorem huge_time_is_not_told :
    let after := originRun "marks" ownTime (atRest 0) 1 [10 ^ 400]
    after.outputs = [.element (10 ^ 400)] ∧
      after.worker.current (insertWatermarks "marks" ownTime (atRest 0)) = .int (10 ^ 400) ∧
      after.worker.state.tracker.current = .ok (.int (10 ^ 400)) := by
  have beyond : (Number.int (10 ^ 400)).hasFloat = false := by decide +kernel
  generalize (10 : Int) ^ 400 = time at beyond ⊢
  have fresh : (atRest 0).latest = .negInfinity := rfl
  have timed : ∀ latest, ∀ value ∈ [], ownTime latest value = .ok (.int (id value)) :=
    fun _ _ member => nomatch member
  obtain ⟨unfinished, start⟩ := follows_originRun "marks" 1 fresh timed
  obtain ⟨-, state, outputs⟩ := originRun_concat unfinished time fun _ => rfl
  obtain ⟨silent, next⟩ := start.observe "marks" time
  have none_ : announced (atRest 0).lateness id [] time = [.element time] := by
    simp [announced, atRest, beyond]
  obtain ⟨value, member, -, -, watermark⟩ := next.greatest (List.cons_ne_nil _ _)
  cases List.mem_singleton.mp member
  have same : Number.int (id time - (atRest 0).lateness) = .int time :=
    congrArg Number.int (Int.sub_zero time)
  rw [same] at watermark
  refine ⟨outputs.trans (silent.trans none_), (congrArg Clock.watermark state).trans watermark, ?_⟩
  exact (congrArg (·.tracker.current) state).trans
    ((next.agrees (List.cons_ne_nil _ _)).trans (congrArg _ watermark))

end Operators

end Dataflow

end FlightStream
