import FlightStream.Proofs.Dataflow.History
import Mathlib.Data.List.Induction
import Mathlib.Data.List.Nodup

/-!
How the end of the stream passes through a worker. The worker notes each input that has ended,
once, and finishes with the last of them: `Ended` holds of every run, and where the operator itself
never sends the end, it is sent exactly when the worker finishes, after everything else.
-/

namespace FlightStream.Dataflow

variable {α σ : Type}

/-- What an operator itself sends never holds the end of the stream. -/
structure Operator.KeepsOpen (operator : Operator α σ) : Prop where
  element : ∀ time state value,
    .ended ∉ (operator.behaviour.element time state value).outputs
  advanced : ∀ time state, .ended ∉ (operator.behaviour.advanced time state).outputs
  finish : ∀ time state, .ended ∉ (operator.behaviour.finish time state).outputs

/-- What a worker of some inputs has noted of their ends, after messages. -/
structure Worker.Ended (operator : Operator α σ) (inputs : Nat) (messages : List (Message α))
    (move : Move α σ) : Prop where
  inputs : move.worker.inputs = max 1 inputs
  nodup : move.worker.ended.Nodup
  noted : move.worker.finished = false → ∀ origin, .ended origin ∈ messages →
    origin ∈ move.worker.ended
  source : ∀ origin ∈ move.worker.ended, .ended origin ∈ messages
  finished : move.worker.finished = decide (move.worker.inputs ≤ move.worker.ended.length)
  sent : operator.KeepsOpen → ∃ before, .ended ∉ before ∧
    move.outputs = before ++ (if move.worker.finished then [.ended] else [])

namespace Worker

variable {operator : Operator α σ}

/-- Advancing the watermark touches neither the inputs nor their ends. -/
theorem advance_keeps (operator : Operator α σ) (w : Worker σ) :
    (w.advance operator).worker.inputs = w.inputs ∧
      (w.advance operator).worker.ended = w.ended ∧
      (w.advance operator).worker.finished = w.finished ∧
      (operator.KeepsOpen → .ended ∉ (w.advance operator).outputs) := by
  unfold advance
  split
  · split
    · exact ⟨rfl, rfl, rfl, fun _ => List.not_mem_nil⟩
    · refine ⟨rfl, rfl, rfl, fun opened member => ?_⟩
      rcases List.mem_append.mp member with old | new
      · exact opened.advanced _ _ old
      · cases List.mem_singleton.mp new
  · exact ⟨rfl, rfl, rfl, fun _ => List.not_mem_nil⟩

/-- With the last end the operator has its last say; before it, the watermark may advance. -/
theorem endInput_cases (operator : Operator α σ) (w : Worker σ) (origin : Origin) :
    ((w.endInput operator origin).worker.finished = true ∧ ∃ time,
      (w.endInput operator origin).worker.state =
        (operator.behaviour.finish time w.state).state) ∨
    ∃ heard ended, w.endInput operator origin =
      ({ w with heard := heard, ended := ended } : Worker σ).advance operator := by
  unfold endInput
  generalize (if w.ended.contains origin then w.ended else w.ended ++ [origin]) = ended
  by_cases last : w.inputs ≤ ended.length
  · simp only [if_pos last]
    exact .inl ⟨trivial, _, rfl⟩
  · simp only [if_neg last]
    exact .inr ⟨_, ended, rfl⟩

theorem Ended.start (inputs : Nat) :
    Ended operator inputs ([] : List (Message α)) ⟨Worker.start operator inputs, [], []⟩ where
  inputs := rfl
  nodup := List.nodup_nil
  noted _ _ member := nomatch member
  source _ member := nomatch member
  finished := by
    have : ¬max 1 inputs ≤ 0 := by omega
    simp [Worker.start, this]
  sent _ := ⟨[], List.not_mem_nil, rfl⟩

/-- As long as some input has not ended, the worker goes on. -/
theorem Ended.go_on {inputs : Nat} {messages : List (Message α)} {move last : Move α σ}
    {message : Message α} (ended : Ended operator inputs messages move)
    (unfinished : move.worker.finished = false) {all : List Origin} (nodup : all.Nodup)
    (noted : ∀ origin, .ended origin ∈ messages ++ [message] → origin ∈ all)
    (source : ∀ origin ∈ all, .ended origin ∈ messages ++ [message])
    (few : ¬move.worker.inputs ≤ all.length)
    (same : last.worker.inputs = move.worker.inputs ∧ last.worker.ended = all ∧
      last.worker.finished = false ∧ (operator.KeepsOpen → .ended ∉ last.outputs)) :
    Ended operator inputs (messages ++ [message])
      ⟨last.worker, move.outputs ++ last.outputs, move.effects ++ last.effects⟩ := by
  obtain ⟨sameInputs, sameEnded, sameFinished, silent⟩ := same
  refine ⟨sameInputs.trans ended.inputs, ?_, fun _ => ?_, ?_, ?_, fun opened => ?_⟩
  · rw [sameEnded]
    exact nodup
  · rw [sameEnded]
    exact noted
  · rw [sameEnded]
    exact source
  · rw [sameFinished, sameInputs, sameEnded]
    exact (decide_eq_false few).symm
  · obtain ⟨before, none, sent⟩ := ended.sent opened
    rw [unfinished, if_neg Bool.false_ne_true, List.append_nil] at sent
    refine ⟨before ++ last.outputs, ?_, by simp [sameFinished, sent]⟩
    rw [List.mem_append]
    rintro (old | new)
    · exact none old
    · exact silent opened new

/-- A message that is not the end of an input leaves the ends as they are. -/
theorem Ended.keep {inputs : Nat} {messages : List (Message α)} {move last : Move α σ}
    {message : Message α} (ended : Ended operator inputs messages move)
    (unfinished : move.worker.finished = false) (other : ∀ origin, message ≠ .ended origin)
    (same : last.worker.inputs = move.worker.inputs ∧ last.worker.ended = move.worker.ended ∧
      last.worker.finished = move.worker.finished ∧
      (operator.KeepsOpen → .ended ∉ last.outputs)) :
    Ended operator inputs (messages ++ [message])
      ⟨last.worker, move.outputs ++ last.outputs, move.effects ++ last.effects⟩ := by
  have few : ¬move.worker.inputs ≤ move.worker.ended.length := by
    have finished := ended.finished
    rw [unfinished] at finished
    exact of_decide_eq_false finished.symm
  rw [unfinished] at same
  refine ended.go_on unfinished ended.nodup (fun origin member => ?_)
    (fun origin member => List.mem_append_left _ (ended.source origin member)) few same
  rcases List.mem_append.mp member with old | new
  · exact ended.noted unfinished origin old
  · exact absurd (List.mem_singleton.mp new).symm (other origin)

/-- The inputs that have ended, with one more. -/
theorem Ended.note {inputs : Nat} {messages : List (Message α)} {move : Move α σ}
    (ended : Ended operator inputs messages move) (unfinished : move.worker.finished = false)
    (origin : Origin) {next : List Origin}
    (same : next = if move.worker.ended.contains origin then move.worker.ended
      else move.worker.ended ++ [origin]) :
    next.Nodup ∧ (∀ other, .ended other ∈ messages ++ [.ended origin] → other ∈ next) ∧
      ∀ other ∈ next, .ended other ∈ messages ++ [.ended origin] := by
  have later : ∀ other ∈ move.worker.ended, .ended other ∈ messages ++ [.ended origin] :=
    fun other member => List.mem_append_left _ (ended.source other member)
  have split : ∀ other, Message.ended other ∈ messages ++ [.ended origin] →
      other ∈ move.worker.ended ∨ other = origin := by
    intro other member
    rcases List.mem_append.mp member with old | new
    · exact .inl (ended.noted unfinished other old)
    · cases List.mem_singleton.mp new
      exact .inr rfl
  by_cases known : origin ∈ move.worker.ended
  · rw [if_pos (List.contains_iff_mem.mpr known)] at same
    subst same
    refine ⟨ended.nodup, fun other member => ?_, later⟩
    rcases split other member with old | rfl
    · exact old
    · exact known
  · rw [if_neg (mt List.contains_iff_mem.mp known)] at same
    subst same
    refine ⟨?_, fun other member => ?_, fun other member => ?_⟩
    · refine List.nodup_append.mpr ⟨ended.nodup, List.nodup_singleton _, ?_⟩
      rintro old member new fresh rfl
      rw [List.mem_singleton.mp fresh] at member
      exact known member
    · rcases split other member with old | rfl
      · exact List.mem_append_left _ old
      · exact List.mem_append_right _ (List.mem_singleton_self _)
    · rcases List.mem_append.mp member with old | new
      · exact later other old
      · rw [List.mem_singleton.mp new]
        exact List.mem_append_right _ (List.mem_singleton_self _)

/-- The end of an input is noted; with the last of them the worker finishes. -/
theorem Ended.endInput {inputs : Nat}
    {messages : List (Message α)} {move : Move α σ} (ended : Ended operator inputs messages move)
    (unfinished : move.worker.finished = false) (origin : Origin) :
    Ended operator inputs (messages ++ [.ended origin])
      ⟨(move.worker.endInput operator origin).worker,
        move.outputs ++ (move.worker.endInput operator origin).outputs,
        move.effects ++ (move.worker.endInput operator origin).effects⟩ := by
  unfold Worker.endInput
  generalize named : (if move.worker.ended.contains origin then move.worker.ended
    else move.worker.ended ++ [origin]) = next
  obtain ⟨nodup, noted, source⟩ := ended.note unfinished origin named.symm
  by_cases last : move.worker.inputs ≤ next.length
  · simp only [last, if_true]
    refine ⟨ended.inputs, nodup, fun _ => noted, source, (decide_eq_true last).symm, ?_⟩
    intro opened
    obtain ⟨before, none, sent⟩ := ended.sent opened
    have silent : Output.ended ∉ before ++ (operator.behaviour.finish
        (current operator { move.worker with ended := next }) move.worker.state).outputs := by
      rw [List.mem_append]
      rintro (old | new)
      · exact none old
      · exact opened.finish _ _ new
    rw [unfinished, if_neg Bool.false_ne_true, List.append_nil] at sent
    refine ⟨_, silent, ?_⟩
    simp only [sent, react, if_true, List.append_assoc]
  · simp only [last, if_false]
    obtain ⟨sameInputs, sameEnded, sameFinished, silent⟩ := advance_keeps operator
      { move.worker with ended := next, heard := move.worker.heard.set origin .infinity }
    exact ended.go_on unfinished nodup noted source last
      ⟨sameInputs, sameEnded, sameFinished.trans unfinished, silent⟩

/-- A run keeps account of the ends of its inputs. -/
theorem ended_run (operator : Operator α σ) (inputs : Nat) (messages : List (Message α)) :
    Ended operator inputs messages ((Worker.start operator inputs).run operator messages) := by
  induction messages using List.reverseRecOn with
  | nil => exact .start inputs
  | append_singleton before message ih =>
    rw [run_concat]
    cases finished : ((Worker.start operator inputs).run operator before).worker.finished with
    | true =>
      rw [if_pos rfl]
      refine ⟨ih.inputs, ih.nodup, ?_, ?_, ih.finished, ih.sent⟩
      · intro unfinished
        rw [finished] at unfinished
        cases unfinished
      · exact fun origin member => List.mem_append_left _ (ih.source origin member)
    | false =>
      rw [if_neg Bool.false_ne_true]
      cases message with
      | element value =>
        exact ih.keep finished (fun _ same => nomatch same)
          ⟨rfl, rfl, rfl, fun opened => opened.element _ _ _⟩
      | watermark time origin =>
        exact ih.keep finished (fun _ same => nomatch same) (advance_keeps operator _)
      | ended origin => exact ih.endInput finished origin

end Worker

end FlightStream.Dataflow
