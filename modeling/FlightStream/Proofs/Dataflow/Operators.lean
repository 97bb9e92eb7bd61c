import FlightStream.Dataflow.Operators
import FlightStream.Proofs.Dataflow.Ends
import FlightStream.Proofs.Dataflow.Stream

/-!
What the operators without windows make of a stream. Operators that answer each element for
itself keep the order of a stream, and the origin of watermarks sends watermarks that ascend and
are behind an earlier element by the lateness.
-/

namespace FlightStream.Dataflow

variable {α : Type}

/-! ## One element at a time -/

namespace Output

/-- What becomes of an output when each element is answered by elements, or dropped. -/
def through (answer : α → Except Fault (List α)) : Output α → List (Output α)
  | element value => ((answer value).toOption.getD []).map element
  | other => [other]

variable {answer : α → Except Fault (List α)} {ok kept : Number → α → Prop}

theorem elements_through (answer : α → Except Fault (List α)) (stream : List (Output α)) :
    elements (stream.flatMap (through answer)) =
      (elements stream).flatMap fun value => (answer value).toOption.getD [] := by
  unfold elements
  induction stream with
  | nil => rfl
  | cons first rest ih =>
    rw [List.flatMap_cons, List.filterMap_append, ih]
    cases first with
    | element value =>
      simp [through, element?, List.filterMap_map, Function.comp_def]
    | watermark time => rfl
    | ended => rfl

/-- Answers that stand to the watermarks before them as told leave a stream in order. -/
theorem Orderly.answered {stream : List (Output α)} (orderly : Orderly ok stream)
    (keeps : ∀ time value values, ok time value → answer value = .ok values →
      ∀ made ∈ values, kept time made) :
    Orderly kept (stream.flatMap (Output.through answer)) := by
  have origin : ∀ output made, made ∈ Output.through answer output →
      (made = output ∧ output.element? = none) ∨ ∃ value values last, output = element value ∧
        answer value = .ok values ∧ last ∈ values ∧ made = element last := by
    intro output made member
    cases output with
    | element value =>
      cases answered : answer value with
      | error fault => simp [Output.through, answered, Except.toOption] at member
      | ok values =>
        simp only [Output.through, answered, Except.toOption, Option.getD_some,
          List.mem_map] at member
        obtain ⟨last, present, rfl⟩ := member
        exact .inr ⟨value, values, last, rfl, answered, present, rfl⟩
    | watermark time => exact .inl ⟨List.mem_singleton.mp member, rfl⟩
    | ended => exact .inl ⟨List.mem_singleton.mp member, rfl⟩
  refine ⟨fun time member => ?_, List.pairwise_flatMap.mpr ⟨fun output member => ?_, ?_⟩⟩
  · obtain ⟨output, present, made⟩ := List.mem_flatMap.mp member
    rcases origin output _ made with ⟨rfl, -⟩ | ⟨_, _, _, -, -, -, same⟩
    · exact orderly.above time present
    · cases same
  · cases output with
    | element value =>
      refine List.pairwise_map.mpr (List.pairwise_of_forall fun _ _ => trivial)
    | watermark time => exact List.pairwise_singleton _ _
    | ended => exact List.pairwise_singleton _ _
  · refine orderly.order.imp fun {before after} precedes first early second late => ?_
    rcases origin before first early with ⟨rfl, marker⟩ | ⟨_, _, _, rfl, -, -, rfl⟩
    · rcases origin after second late with
        ⟨rfl, silent⟩ | ⟨value, values, last, rfl, answered, made, rfl⟩
      · cases second with
        | element value => cases silent
        | watermark time =>
          cases first with
          | element value => cases marker
          | watermark before => exact precedes
          | ended => exact precedes
        | ended =>
          cases first with
          | element value => cases marker
          | watermark before => trivial
          | ended => exact precedes
      · cases first with
        | element value => cases marker
        | watermark time => exact keeps time value values precedes answered last made
        | ended => exact precedes
    · rcases origin after second late with ⟨rfl, -⟩ | ⟨_, _, _, rfl, -, -, rfl⟩
      · cases second <;> trivial
      · trivial

end Output

namespace Operators

theorem keepsOpen_perElement (name : String) (answer : α → Except Fault (List α)) :
    (perElement name answer).KeepsOpen where
  element time state value := by
    simp only [perElement]
    cases answer value <;> simp
  advanced _ _ := List.not_mem_nil
  finish _ _ := List.not_mem_nil

/-- An operator that answers each element for itself sends what becomes of each output. -/
theorem reads_perElement {name : String} {answer : α → Except Fault (List α)}
    {seen sent : List (Output α)} {time : Number} {state : Unit}
    (reads : (perElement name answer).Reads seen time state sent) :
    sent = seen.flatMap (Output.through answer) := by
  induction reads with
  | start => rfl
  | element value _ ih =>
    rw [List.flatMap_append, ← ih]
    congr 1
    simp only [perElement, Output.through, List.flatMap_cons, List.flatMap_nil, List.append_nil]
    cases answer value <;> rfl
  | watermark later _ ih =>
    rw [List.flatMap_append, ← ih]
    rfl
  | ended _ ih =>
    rw [List.flatMap_append, ← ih]
    rfl

/-- What a filter answers with is the element itself. -/
theorem eq_of_mem_filtered {judged : Except Fault Bool} {value made : α} {values : List α}
    (answered : judged.map (fun holds => if holds then [value] else []) = .ok values)
    (member : made ∈ values) : made = value := by
  rcases judged with _ | holds
  · cases answered
  · cases answered
    cases holds with
    | false => cases member
    | true => exact List.mem_singleton.mp member

/-- What a map answers with is what its function makes. -/
theorem made_of_mem_mapped {found : Except Fault (Option α)} {made : α} {values : List α}
    (answered : found.map Option.toList = .ok values) (member : made ∈ values) :
    found = .ok (some made) := by
  rcases found with _ | result
  · cases answered
  · cases answered
    rw [Option.mem_toList.mp member]

/-! ## The origin of watermarks -/

/-- All that observing a time can do: the element is sent on, and after it the watermark of the
tracker, if that is above the one before. -/
theorem Clock.observe_cases (name : String) (value : α) (c : Clock α) (time : Number) :
    (c.observe name value time).state.tracker = c.tracker.observe time ∧
      ((c.observe name value time).outputs = [.element value] ∧
          ((c.observe name value time).state.watermark = c.watermark ∨
            c.watermark.lt (c.observe name value time).state.watermark = true) ∨
        ∃ next, (c.tracker.observe time).current = .ok next ∧ c.watermark.lt next = true ∧
          (c.observe name value time).state.watermark = next ∧
          (c.observe name value time).outputs = [.element value, .watermark next]) := by
  unfold Clock.observe
  generalize (if c.tracker.latest.lt time then some value else c.latest) = latest
  cases current : (c.tracker.observe time).current with
  | error fault => simp [current]
  | ok next =>
    by_cases above : c.watermark.lt next = true
    · cases published : next.toFloat <;> simp [current, above, published]
    · simp [current, above]

theorem keepsOpen_insertWatermarks (name : String)
    (timeOf : Option α → α → Except Fault Number) (tracker : WatermarkTracker) :
    (insertWatermarks name timeOf tracker).KeepsOpen where
  element _ c value := by
    simp only [insertWatermarks]
    cases timeOf c.latest value with
    | error fault => simp
    | ok time =>
      rcases (c.observe_cases name value time).2 with ⟨sent, -⟩ | ⟨next, -, -, -, sent⟩ <;>
        simp [sent]
  advanced _ _ := List.not_mem_nil
  finish _ _ := List.not_mem_nil

/-- What a clock has come to over elements at some times: each was sent on, and every watermark is
behind an element before it by the lateness. -/
structure Clocked (behind : Int) (timeOf : α → Int) (ok : Number → α → Prop) (values : List α)
    (clock : Clock α) (sent : List (Output α)) : Prop where
  lateness : clock.tracker.lateness = behind
  latest : (values = [] ∧ clock.tracker.latest = .negInfinity) ∨
    ∃ value ∈ values, clock.tracker.latest = .int (timeOf value)
  elements : Output.elements sent = values
  source : ∀ time, .watermark time ∈ sent → ∃ value ∈ values, time = .int (timeOf value - behind)
  below : ∀ time, .watermark time ∈ sent → time.le clock.watermark = true
  ranked : clock.watermark.Ranked
  orderly : Output.Orderly ok sent
  opened : .ended ∉ sent

variable {behind : Int} {timeOf : α → Int} {ok : Number → α → Prop} {values : List α}
  {clock : Clock α} {sent : List (Output α)}

/-- The tracker has seen an element once it has observed one, and tells its time less the
lateness. -/
theorem Clocked.tracker (clocked : Clocked behind timeOf ok values clock sent) (value : α) :
    ∃ seen ∈ values ++ [value],
      (clock.tracker.observe (.int (timeOf value))).latest = .int (timeOf seen) ∧
      (clock.tracker.observe (.int (timeOf value))).lateness = behind := by
  unfold WatermarkTracker.observe
  split
  · exact ⟨value, by simp, rfl, clocked.lateness⟩
  · rename_i known
    rcases clocked.latest with ⟨-, bottom⟩ | ⟨seen, member, latest⟩
    · rw [bottom] at known
      exact absurd (Number.negInfinity_lt_int _) known
    · exact ⟨seen, List.mem_append_left _ member, latest, clocked.lateness⟩

/-- The next element is sent on. The watermark may rise without being sent. -/
theorem Clocked.element (clocked : Clocked behind timeOf ok values clock sent) {value : α}
    (later : ∀ earlier ∈ values, ok (.int (timeOf earlier - behind)) value) {next : Clock α}
    (tracker : next.tracker = clock.tracker.observe (.int (timeOf value)))
    (least : clock.watermark.le next.watermark = true) :
    Clocked behind timeOf ok (values ++ [value]) next (sent ++ [.element value]) := by
  obtain ⟨seen, known, latest, lateness⟩ := clocked.tracker value
  refine ⟨by rw [tracker, lateness], .inr ⟨seen, known, by rw [tracker, latest]⟩, ?_, ?_, ?_,
    (Number.ranked_of_le least).2, ?_, ?_⟩
  · rw [Output.elements, List.filterMap_append]
    congr 1
    exact clocked.elements
  · intro time member
    obtain ⟨earlier, present, same⟩ := clocked.source time (by simpa using member)
    exact ⟨earlier, List.mem_append_left _ present, same⟩
  · intro time member
    exact Number.le_trans (clocked.below time (by simpa using member)) least
  · refine Output.orderly_concat.mpr ⟨clocked.orderly, fun before member => ?_, fun _ same => nomatch same⟩
    cases before with
    | element other => trivial
    | watermark time =>
      obtain ⟨earlier, present, rfl⟩ := clocked.source time member
      exact later earlier present
    | ended => exact absurd member clocked.opened
  · simpa using clocked.opened

/-- A higher watermark is sent, behind an element by the lateness. -/
theorem Clocked.watermark (clocked : Clocked behind timeOf ok values clock sent) {next : Clock α}
    (tracker : next.tracker = clock.tracker) (above : clock.watermark.lt next.watermark = true)
    {seen : α} (known : seen ∈ values) (own : next.watermark = .int (timeOf seen - behind)) :
    Clocked behind timeOf ok values next (sent ++ [.watermark next.watermark]) := by
  refine ⟨by rw [tracker]; exact clocked.lateness, by rw [tracker]; exact clocked.latest, ?_, ?_, ?_,
    (Number.ranked_of_lt above).2, ?_, ?_⟩
  · rw [Output.elements, List.filterMap_append, ← Output.elements, clocked.elements]
    exact List.append_nil _
  · intro time member
    rcases List.mem_append.mp member with old | new
    · exact clocked.source time old
    · cases List.mem_singleton.mp new
      exact ⟨seen, known, own⟩
  · intro time member
    rcases List.mem_append.mp member with old | new
    · exact Number.le_trans (clocked.below time old) (Number.le_of_lt above)
    · cases List.mem_singleton.mp new
      exact Number.le_refl (Number.ranked_of_lt above).2
  · refine Output.orderly_concat.mpr ⟨clocked.orderly, fun before member => ?_, ?_⟩
    · cases before with
      | element other => trivial
      | watermark time => exact Number.lt_of_le_of_lt (clocked.below time member) above
      | ended => exact absurd member clocked.opened
    · rintro time same
      cases same
      rw [own]
      exact Number.negInfinity_lt_int _
  · simpa using clocked.opened

theorem Clocked.observe (clocked : Clocked behind timeOf ok values clock sent) {value : α}
    (later : ∀ earlier ∈ values, ok (.int (timeOf earlier - behind)) value) (name : String) :
    Clocked behind timeOf ok (values ++ [value])
      (clock.observe name value (.int (timeOf value))).state
      (sent ++ (clock.observe name value (.int (timeOf value))).outputs) := by
  obtain ⟨tracker, cases_⟩ := clock.observe_cases name value (.int (timeOf value))
  generalize (clock.observe name value (.int (timeOf value))).state = next at tracker cases_ ⊢
  rcases cases_ with ⟨outputs, raised⟩ | ⟨time, current, above, raised, outputs⟩
  · have least : clock.watermark.le next.watermark = true := by
      rcases raised with same | above
      · rw [same]
        exact Number.le_refl clocked.ranked
      · exact Number.le_of_lt above
    rw [outputs]
    exact clocked.element later tracker least
  · -- The element goes first, under the watermark that was there before.
    have first : Clocked behind timeOf ok (values ++ [value])
        { next with watermark := clock.watermark } (sent ++ [.element value]) :=
      clocked.element later tracker (Number.le_refl clocked.ranked)
    obtain ⟨seen, known, latest, lateness⟩ := clocked.tracker value
    rw [WatermarkTracker.current, latest, lateness] at current
    have own : next.watermark = .int (timeOf seen - behind) :=
      raised.trans (Except.ok.inj current).symm
    rw [← raised] at above
    have kept : next.tracker = ({ next with watermark := clock.watermark } : Clock α).tracker := rfl
    have second := first.watermark kept above known own
    rw [raised, List.append_assoc] at second
    rw [outputs]
    exact second

/-- What the origin of watermarks makes of elements and their end. It sends every element on, in
order, and the watermarks between them ascend; where each element stands as told to the times
before it, less the lateness, it so stands to the watermarks before it. -/
theorem clocked_run (name : String) {timeIn : Option α → α → Except Fault Number}
    {tracker : WatermarkTracker} (fresh : tracker.latest = .negInfinity)
    (timed : ∀ latest, ∀ value ∈ values, timeIn latest value = .ok (.int (timeOf value)))
    (order : values.Pairwise fun earlier later =>
      ok (.int (timeOf earlier - tracker.lateness)) later) :
    let move := (Worker.start (insertWatermarks name timeIn tracker) 1).run
      (insertWatermarks name timeIn tracker) (values.map .element)
    move.worker.inputs = 1 ∧ move.worker.ended = [] ∧ move.worker.finished = false ∧
      Clocked tracker.lateness timeOf ok values move.worker.state move.outputs := by
  induction values using List.reverseRecOn with
  | nil =>
    refine ⟨rfl, rfl, rfl, rfl, .inl ⟨rfl, fresh⟩, rfl, fun _ member => (nomatch member),
      fun _ member => (nomatch member), Number.ranked_negInfinity, .nil, List.not_mem_nil⟩
  | append_singleton before value ih =>
    obtain ⟨inputs, ended, unfinished, clocked⟩ := ih
      (fun latest other member => timed latest other (List.mem_append_left _ member))
      (order.sublist (List.sublist_append_left _ _))
    have later := (List.pairwise_append.mp order).2.2
    have next := clocked.observe (fun earlier member => later earlier member value
      (List.mem_singleton_self _)) name
    have now := timed ((Worker.start (insertWatermarks name timeIn tracker) 1).run
      (insertWatermarks name timeIn tracker) (before.map .element)).worker.state.latest value
      (List.mem_append_right _ (List.mem_singleton_self _))
    simp only [List.map_append, List.map_cons, List.map_nil, Worker.run_concat, unfinished,
      Bool.false_eq_true, if_false]
    refine ⟨inputs, ended, unfinished, ?_⟩
    simp only [Worker.step, Worker.react, insertWatermarks] at now next ⊢
    rw [now]
    exact next

/-- The same, up to the end of the stream: what is sent is in order, and holds the elements. -/
theorem orderly_insertWatermarks (name : String) {timeIn : Option α → α → Except Fault Number}
    {tracker : WatermarkTracker} (fresh : tracker.latest = .negInfinity)
    (timed : ∀ latest, ∀ value ∈ values, timeIn latest value = .ok (.int (timeOf value)))
    (order : values.Pairwise fun earlier later =>
      ok (.int (timeOf earlier - tracker.lateness)) later) (origin : Origin) (last : Bool) :
    let move := (Worker.start (insertWatermarks name timeIn tracker) 1).run
      (insertWatermarks name timeIn tracker)
      ((values.map Output.element ++ if last then [Output.ended] else []).map (Output.from origin))
    Output.Orderly ok move.outputs ∧ Output.elements move.outputs = values := by
  obtain ⟨inputs, ended, unfinished, clocked⟩ :=
    clocked_run name fresh timed order
  have read : (values.map Output.element).map (Output.from origin) = values.map .element := by
    rw [List.map_map]
    rfl
  cases last with
  | false =>
    simp only [Bool.false_eq_true, if_false, List.append_nil, read]
    exact ⟨clocked.orderly, clocked.elements⟩
  | true =>
    simp only [if_true, List.map_append, read, List.map_cons, List.map_nil, Worker.run_concat,
      unfinished, Bool.false_eq_true, if_false, Output.from, Worker.step, Worker.endInput, ended,
      List.contains_nil, List.nil_append, inputs, List.length_singleton, le_refl, Worker.react]
    refine ⟨Output.orderly_concat.mpr ⟨clocked.orderly, fun before member => ?_,
      fun _ same => by cases same⟩, ?_⟩
    · cases before with
      | element value => trivial
      | watermark time => trivial
      | ended => exact absurd member clocked.opened
    · rw [Output.elements, List.filterMap_append, ← Output.elements, clocked.elements]
      exact List.append_nil _

end Operators

end FlightStream.Dataflow
