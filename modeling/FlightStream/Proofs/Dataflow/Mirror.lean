import FlightStream.Dataflow.Operator

/-!
Operators that do the same on states of which one shows less than the other. Whatever messages they
handle, they send and do the same, and their states keep the view, `Mirrors.run`.
-/

namespace FlightStream.Dataflow

variable {α σ ρ : Type}

/-- A reaction with less of its state. -/
def Reaction.view (f : σ → ρ) (r : Reaction α σ) : Reaction α ρ :=
  ⟨f r.state, r.outputs, r.effects, r.failure⟩

/-- A worker with less of its state. -/
def Worker.view (f : σ → ρ) (w : Worker σ) : Worker ρ :=
  ⟨w.inputs, w.heard, w.ended, w.watermark, f w.state, w.finished⟩

/-- A move with less of the state. -/
def Move.view (f : σ → ρ) (m : Move α σ) : Move α ρ := ⟨m.worker.view f, m.outputs, m.effects⟩

/-- One operator does what another does on less of its state. -/
structure Operator.Mirrors (operator : Operator α σ) (other : Operator α ρ) (f : σ → ρ) :
    Prop where
  name : operator.name = other.name
  start : f operator.start = other.start
  clock : operator.ownClock = other.ownClock.map fun clock => clock ∘ f
  element : ∀ time state value, (operator.behaviour.element time state value).view f =
    other.behaviour.element time (f state) value
  advanced : ∀ time state, (operator.behaviour.advanced time state).view f =
    other.behaviour.advanced time (f state)
  finish : ∀ time state, (operator.behaviour.finish time state).view f =
    other.behaviour.finish time (f state)

namespace Operator.Mirrors

variable {operator : Operator α σ} {other : Operator α ρ} {f : σ → ρ}
  (mirrors : operator.Mirrors other f)

include mirrors

theorem react (context : String) (w : Worker σ) (r : Reaction α σ) :
    (w.react operator context r).view f = (w.view f).react other context (r.view f) := by
  unfold Worker.react Worker.failureEffects
  rw [mirrors.name]
  rfl

theorem current (w : Worker σ) : w.current operator = (w.view f).current other := by
  unfold Worker.current
  rw [mirrors.clock]
  cases other.ownClock <;> rfl

theorem advance (w : Worker σ) : (w.advance operator).view f = (w.view f).advance other := by
  have combined : (w.view f).combined? = w.combined? := rfl
  unfold Worker.advance
  rw [mirrors.clock, combined]
  cases other.ownClock with
  | some clock => cases w.combined? <;> rfl
  | none =>
    cases w.combined? with
    | none => rfl
    | some time =>
      simp only [Option.map_none]
      by_cases known : time.le w.watermark = true
      · have also : time.le (w.view f).watermark = true := known
        rw [if_pos known, if_pos also]
        rfl
      · have also : ¬time.le (w.view f).watermark = true := known
        rw [if_neg known, if_neg also]
        have moved := mirrors.react s!"on_watermark failed in {operator.name}"
          { w with watermark := time } (operator.behaviour.advanced time w.state)
        rw [mirrors.advanced, mirrors.name] at moved
        rw [mirrors.name]
        exact congrArg (fun move : Move α ρ =>
          { move with outputs := move.outputs ++ [Output.watermark time] }) moved

theorem endInput (w : Worker σ) (origin : Origin) :
    (w.endInput operator origin).view f = (w.view f).endInput other origin := by
  have ended : (w.view f).ended = w.ended := rfl
  unfold Worker.endInput
  rw [ended]
  generalize (if w.ended.contains origin then w.ended else w.ended ++ [origin]) = all
  by_cases last : w.inputs ≤ all.length
  · have also : (w.view f).inputs ≤ all.length := last
    simp only [if_pos last, if_pos also]
    have moved := mirrors.react s!"on_end failed in {operator.name}" { w with ended := all }
      (operator.behaviour.finish (({ w with ended := all } : Worker σ).current operator) w.state)
    rw [mirrors.finish, mirrors.current, mirrors.name] at moved
    rw [mirrors.current, mirrors.name]
    exact congrArg (fun move : Move α ρ =>
      { move with
        worker := { move.worker with finished := true }
        outputs := move.outputs ++ [Output.ended] }) moved
  · have also : ¬(w.view f).inputs ≤ all.length := last
    simp only [if_neg last, if_neg also]
    exact mirrors.advance _

theorem step (w : Worker σ) (message : Message α) :
    (w.step operator message).view f = (w.view f).step other message := by
  cases message with
  | element value =>
    have moved := mirrors.react s!"Skipping element in {operator.name} after error" w
      (operator.behaviour.element (w.current operator) w.state value)
    rw [mirrors.element, mirrors.current, mirrors.name] at moved
    simp only [Worker.step]
    rw [mirrors.current, mirrors.name]
    exact moved
  | watermark time origin => exact mirrors.advance _
  | ended origin => exact mirrors.endInput w origin

/-- Runs of both operators over the same messages send and do the same. -/
theorem run (w : Worker σ) (messages : List (Message α)) :
    (w.run operator messages).view f = (w.view f).run other messages := by
  induction messages generalizing w with
  | nil => rfl
  | cons message rest ih =>
    have finished : (w.view f).finished = w.finished := rfl
    unfold Worker.run
    rw [finished]
    cases w.finished with
    | true => rfl
    | false =>
      have first := mirrors.step w message
      have others := ih (w.step operator message).worker
      have next : ((w.view f).step other message).worker =
          (w.step operator message).worker.view f := by
        rw [← first]
        rfl
      simp only [Bool.false_eq_true, if_false]
      rw [next, ← others, ← first]
      rfl

/-- Both operators start alike. -/
theorem worker_start (inputs : Nat) :
    (Worker.start operator inputs).view f = Worker.start other inputs := by
  unfold Worker.start Worker.view
  rw [mirrors.start]

end Operator.Mirrors

end FlightStream.Dataflow
