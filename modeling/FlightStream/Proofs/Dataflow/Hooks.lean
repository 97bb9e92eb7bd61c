import FlightStream.Proofs.Dataflow.Ends
import FlightStream.Proofs.Dataflow.Mirror

/-!
What a worker asks of its operator. `logged` does what an operator does and keeps the list of what
it was asked for; it mirrors the operator, so its list is that of the operator as well. A worker
that stops at the message that makes it finish asks for each element in order, and if it has
finished, for the last say once and after all else, `asked_run`.
-/

namespace FlightStream.Dataflow

variable {α σ : Type}

/-- What an operator is asked for: to handle an element, to take note of a watermark that has
advanced, or to have its last say. -/
inductive Hook (α : Type)
  | element (value : α)
  | advanced (time : Number)
  | finish

/-- The element that an operator is asked to handle. -/
def Hook.element? : Hook α → Option α
  | element value => some value
  | _ => none

namespace Operator

variable (operator : Operator α σ)

/-- The operator, with a list of what it was asked for beside its state. -/
def logged : Operator α (σ × List (Hook α)) where
  name := operator.name
  behaviour :=
    { element := fun time state value =>
        (operator.behaviour.element time state.1 value).view (·, state.2 ++ [.element value])
      advanced := fun time state =>
        (operator.behaviour.advanced time state.1).view (·, state.2 ++ [.advanced time])
      finish := fun time state =>
        (operator.behaviour.finish time state.1).view (·, state.2 ++ [.finish]) }
  start := (operator.start, [])
  instruments := operator.instruments
  figures state := operator.figures state.1
  ownClock := operator.ownClock.map fun clock state => clock state.1

/-- Keeping the list changes nothing else. -/
theorem logged_mirrors : operator.logged.Mirrors operator Prod.fst where
  name := rfl
  start := rfl
  clock := rfl
  element _ _ _ := rfl
  advanced _ _ := rfl
  finish _ _ := rfl

/-- A worker of some inputs, with the list, after messages. -/
def logRun (inputs : Nat) (messages : List (Message α)) : Move α (σ × List (Hook α)) :=
  (Worker.start operator.logged inputs).run operator.logged messages

/-- What a worker of some inputs asks of its operator over messages. -/
def log (inputs : Nat) (messages : List (Message α)) : List (Hook α) :=
  (operator.logRun inputs messages).worker.state.2

/-- The list belongs to the run of the operator itself. -/
theorem logRun_view (inputs : Nat) (messages : List (Message α)) :
    (operator.logRun inputs messages).view Prod.fst =
      (Worker.start operator inputs).run operator messages := by
  rw [logRun, operator.logged_mirrors.run, operator.logged_mirrors.worker_start]

theorem finished_logRun (inputs : Nat) (messages : List (Message α)) :
    (operator.logRun inputs messages).worker.finished =
      ((Worker.start operator inputs).run operator messages).worker.finished := by
  rw [← operator.logRun_view inputs messages]
  rfl

end Operator

/-- What was asked of an operator over messages: to handle their elements in order, and, once and
after all else, to have its last say if the worker has finished. -/
structure Worker.Asked (messages : List (Message α)) (worker : Worker (σ × List (Hook α))) :
    Prop where
  elements : worker.state.2.filterMap Hook.element? = messages.filterMap Message.element?
  last : worker.finished = true → ∃ before, worker.state.2 = before ++ [.finish] ∧ .finish ∉ before
  going : worker.finished = false → .finish ∉ worker.state.2

namespace Worker

variable {operator : Operator α σ} {messages : List (Message α)}
  {worker next : Worker (σ × List (Hook α))}

/-- What is asked for as long as the worker goes on. -/
theorem Asked.go_on (asked : Asked messages worker) (unfinished : worker.finished = false)
    {message : Message α} {hooks : List (Hook α)} (silent : .finish ∉ hooks)
    (elements : hooks.filterMap Hook.element? = [message].filterMap Message.element?)
    (same : next.finished = worker.finished) (state : next.state.2 = worker.state.2 ++ hooks) :
    Asked (messages ++ [message]) next where
  elements := by
    rw [state, List.filterMap_append, List.filterMap_append, asked.elements, elements]
  last finished := by
    rw [same, unfinished] at finished
    cases finished
  going _ := by
    rw [state, List.mem_append]
    rintro (old | new)
    · exact asked.going unfinished old
    · exact silent new

/-- Advancing the watermark asks for nothing, or to take note of it. -/
theorem log_advance (operator : Operator α σ) (w : Worker (σ × List (Hook α))) :
    ∃ hooks : List (Hook α), .finish ∉ hooks ∧ hooks.filterMap Hook.element? = [] ∧
      (w.advance operator.logged).worker.state.2 = w.state.2 ++ hooks := by
  unfold advance
  split
  · split
    · exact ⟨[], by simp, rfl, (List.append_nil _).symm⟩
    · rename_i time _ _ _
      exact ⟨[.advanced time], by simp, rfl, rfl⟩
  · exact ⟨[], by simp, rfl, (List.append_nil _).symm⟩

theorem Asked.advance (asked : Asked messages worker) (unfinished : worker.finished = false)
    {message : Message α} (marker : message.element? = none) {w : Worker (σ × List (Hook α))}
    (finished : w.finished = worker.finished) (state : w.state = worker.state) :
    Asked (messages ++ [message]) (w.advance operator.logged).worker := by
  obtain ⟨hooks, silent, none, asks⟩ := log_advance operator w
  obtain ⟨-, -, same, -⟩ := advance_keeps operator.logged w
  refine asked.go_on unfinished silent ?_ (same.trans finished) (state ▸ asks)
  rw [none, List.filterMap_cons_none marker, List.filterMap_nil]

/-- One message more. -/
theorem Asked.step (operator : Operator α σ) (asked : Asked messages worker) (unfinished : worker.finished = false)
    (message : Message α) :
    Asked (messages ++ [message]) (worker.step operator.logged message).worker := by
  cases message with
  | element value =>
    have silent : Hook.finish ∉ [Hook.element value] := by simp
    exact asked.go_on unfinished silent rfl rfl rfl
  | watermark time origin => exact asked.advance unfinished rfl rfl rfl
  | ended origin =>
    rcases endInput_cases operator.logged worker origin with
      ⟨finished, time, state⟩ | ⟨heard, ended, same⟩
    · have asks : (worker.step operator.logged (.ended origin)).worker.state.2 =
          worker.state.2 ++ [.finish] := congrArg Prod.snd state
      refine ⟨?_, fun _ => ⟨_, asks, asked.going unfinished⟩, fun open_ => ?_⟩
      · rw [asks, List.filterMap_append, List.filterMap_append, asked.elements]
        rfl
      · rw [show (worker.step operator.logged (.ended origin)).worker.finished = true from
          finished] at open_
        cases open_
    · rw [show worker.step operator.logged (.ended origin) = _ from same]
      exact asked.advance unfinished rfl rfl rfl

/-- A worker that was unfinished before the last message has handled every element, and has
finished its operator with that message at the earliest. -/
theorem asked_run {inputs : Nat}
    (prompt : ∀ earlier, earlier <+: messages → earlier ≠ messages →
      ((Worker.start operator inputs).run operator earlier).worker.finished = false) :
    Asked messages (operator.logRun inputs messages).worker := by
  induction messages using List.reverseRecOn with
  | nil => exact ⟨rfl, fun finished => Bool.noConfusion finished, fun _ => List.not_mem_nil⟩
  | append_singleton before message ih =>
    have unfinished : (operator.logRun inputs before).worker.finished = false := by
      rw [operator.finished_logRun]
      exact prompt before (List.prefix_append _ _) (by simp)
    have asked := ih fun earlier initial _ =>
      prompt earlier (initial.trans (List.prefix_append _ _)) fun same => by
        have := initial.length_le
        rw [same, List.length_append, List.length_singleton] at this
        omega
    have next := asked.step operator unfinished message
    unfold Operator.logRun at unfinished next ⊢
    rw [run_concat, unfinished]
    exact next

end Worker

end FlightStream.Dataflow
