import FlightStream.Proofs.Dataflow.FanIn
import FlightStream.Proofs.Dataflow.Operators
import FlightStream.Proofs.Number.Counting

/-!
Chains of maps and filters. Whatever watermarks the one input of a worker sends, in any order, the
worker has the greatest of them (`Attends`), so it passes on a watermark exactly if that is above all
before it; and an operator that answers each element for itself sends the answers in the elements'
places. What becomes of a stream is said of the stream alone, each output after those before it
(`Output.carriedAll`); what two steps make of it is what one makes of it with both functions
(`carriedAll_carriedAll`), and by induction so it is for a chain.
-/

namespace FlightStream.Dataflow

variable {α σ : Type}

/-! ## What becomes of a stream -/

namespace Output

/-- What becomes of an output after others. An element goes over into its image, if it has one; a
watermark stays if it is above the bottom and above all watermarks before it; the end stays. -/
def carried (image : α → Option α) (before : List (Output α)) : Output α → List (Output α)
  | element value => (image value).toList.map element
  | watermark time =>
    if Number.negInfinity.lt time = true ∧ ∀ earlier ∈ watermarks before, earlier.lt time = true
    then [watermark time] else []
  | ended => [ended]

/-- What becomes of a stream after others, output by output. -/
def carriedAll (image : α → Option α) : List (Output α) → List (Output α) → List (Output α)
  | _, [] => []
  | before, output :: rest =>
    carried image before output ++ carriedAll image (before ++ [output]) rest

variable {image next : α → Option α}

theorem carriedAll_append (before first second : List (Output α)) :
    carriedAll image before (first ++ second) =
      carriedAll image before first ++ carriedAll image (before ++ first) second := by
  induction first generalizing before with
  | nil => rw [List.nil_append, carriedAll, List.nil_append, List.append_nil]
  | cons output rest ih =>
    rw [List.cons_append, carriedAll, carriedAll, ih, List.append_assoc, List.append_assoc]
    rfl

theorem carriedAll_concat (stream : List (Output α)) (output : Output α) :
    carriedAll image [] (stream ++ [output]) =
      carriedAll image [] stream ++ carried image stream output := by
  rw [carriedAll_append, carriedAll, carriedAll, List.append_nil, List.nil_append]

theorem elements_append (first second : List (Output α)) :
    elements (first ++ second) = elements first ++ elements second := List.filterMap_append

/-- The elements are the images of the elements. -/
theorem elements_carriedAll (stream : List (Output α)) :
    elements (carriedAll image [] stream) = (elements stream).filterMap image := by
  induction stream using List.reverseRecOn with
  | nil => rfl
  | append_singleton before output ih =>
    rw [carriedAll_concat, elements_append, elements_append, List.filterMap_append, ih]
    congr 1
    cases output with
    | element value => cases found : image value <;> simp [carried, elements, element?, found]
    | watermark time =>
      rw [carried]
      split <;> rfl
    | ended => rfl

/-- Watermarks are only left out. -/
theorem watermarks_carriedAll (stream : List (Output α)) :
    watermarks (carriedAll image [] stream) ⊆ watermarks stream := by
  induction stream using List.reverseRecOn with
  | nil => exact List.Subset.refl _
  | append_singleton before output ih =>
    rw [carriedAll_concat, watermarks_append, watermarks_append]
    refine List.append_subset.mpr ⟨fun time member => List.mem_append_left _ (ih member),
      fun time member => List.mem_append_right _ ?_⟩
    cases output with
    | element value =>
      cases found : image value <;> simp [carried, watermarks, watermark?, found] at member
    | watermark other =>
      rw [carried] at member
      split at member
      · exact member
      · cases member
    | ended => exact member

theorem ended_not_mem_carriedAll {stream : List (Output α)} (opened : .ended ∉ stream) :
    .ended ∉ carriedAll image [] stream := by
  induction stream using List.reverseRecOn with
  | nil => exact List.not_mem_nil
  | append_singleton before output ih =>
    rw [List.mem_append, List.mem_singleton, not_or] at opened
    rw [carriedAll_concat, List.mem_append, not_or]
    refine ⟨ih opened.1, ?_⟩
    cases output with
    | element value => simp [carried]
    | watermark time =>
      rw [carried]
      split <;> simp
    | ended => exact absurd rfl opened.2

/-- What is carried on twice is carried on once, by both images in turn. -/
theorem carriedAll_carriedAll (stream : List (Output α)) :
    carriedAll next [] (carriedAll image [] stream) =
      carriedAll (fun value => (image value).bind next) [] stream := by
  induction stream using List.reverseRecOn with
  | nil => rfl
  | append_singleton before output ih =>
    rw [carriedAll_concat, carriedAll_concat, carriedAll_append, ih, List.nil_append]
    congr 1
    cases output with
    | element value => cases found : image value <;> simp [carried, carriedAll, found]
    | watermark time =>
      simp only [carried]
      split
      · rename_i above
        rw [carriedAll, carriedAll, List.append_nil, carried, if_pos]
        exact ⟨above.1, fun earlier member => above.2 earlier (watermarks_carriedAll _ member)⟩
      · rfl
    | ended => rfl

theorem mem_watermarks {stream : List (Output α)} {time : Number} :
    time ∈ watermarks stream ↔ .watermark time ∈ stream := by
  constructor
  · intro member
    obtain ⟨output, present, same⟩ := List.mem_filterMap.mp member
    cases output with
    | watermark other =>
      cases same
      exact present
    | element _ | ended => cases same
  · exact fun member => List.mem_filterMap.mpr ⟨_, member, rfl⟩

/-- Whatever the watermarks of a stream, those that stay ascend. -/
theorem orderly_carriedAll {stream : List (Output α)} (opened : .ended ∉ stream) :
    Orderly (fun _ _ => True) (carriedAll image [] stream) := by
  induction stream using List.reverseRecOn with
  | nil => exact .nil
  | append_singleton before output ih =>
    rw [List.mem_append, List.mem_singleton, not_or] at opened
    have orderly := ih opened.1
    rw [carriedAll_concat]
    cases output with
    | element value =>
      cases found : image value with
      | none => simpa [carried, found] using orderly
      | some made =>
        simp only [carried, found, Option.toList_some, List.map_cons, List.map_nil]
        refine orderly_concat.mpr ⟨orderly, fun earlier member => ?_, fun _ same => nomatch same⟩
        cases earlier with
        | element _ | watermark _ => trivial
        | ended => exact absurd member (ended_not_mem_carriedAll opened.1)
    | watermark time =>
      rw [carried]
      split
      · rename_i above
        refine orderly_concat.mpr ⟨orderly, fun earlier member => ?_, fun _ same => ?_⟩
        · cases earlier with
          | element _ => trivial
          | watermark known =>
            exact above.2 known (watermarks_carriedAll before (mem_watermarks.mpr member))
          | ended => exact absurd member (ended_not_mem_carriedAll opened.1)
        · cases same
          exact above.1
      · rwa [List.append_nil]
    | ended => exact absurd rfl opened.2

/-- In a stream in order every watermark stays. -/
theorem carried_watermark {ok : Number → α → Prop} {stream : List (Output α)} {time : Number}
    (orderly : Orderly ok (stream ++ [.watermark time])) :
    carried image stream (.watermark time) = [.watermark time] := by
  obtain ⟨-, before, above⟩ := orderly_concat.mp orderly
  exact if_pos ⟨above time rfl, fun earlier member => before _ (mem_watermarks.mp member)⟩

theorem watermarks_carriedAll_of_orderly {ok : Number → α → Prop} {stream : List (Output α)}
    (orderly : Orderly ok stream) :
    watermarks (carriedAll image [] stream) = watermarks stream := by
  induction stream using List.reverseRecOn with
  | nil => rfl
  | append_singleton before output ih =>
    rw [carriedAll_concat, watermarks_append, watermarks_append,
      ih (orderly.sublist (List.sublist_append_left _ _))]
    congr 1
    cases output with
    | element value => cases found : image value <;> simp [carried, found] <;> rfl
    | watermark time => rw [carried_watermark orderly]
    | ended => rfl

/-- A stream in order stays as it is where every element is its own image. -/
theorem carriedAll_some {ok : Number → α → Prop} {stream : List (Output α)}
    (orderly : Orderly ok stream) : carriedAll some [] stream = stream := by
  induction stream using List.reverseRecOn with
  | nil => rfl
  | append_singleton before output ih =>
    rw [carriedAll_concat, ih (orderly.sublist (List.sublist_append_left _ _))]
    congr 1
    cases output with
    | element value => rfl
    | watermark time => exact carried_watermark orderly
    | ended => rfl

end Output

/-! ## A worker with one input -/

/-- A worker with one input that goes on. Its watermark is the greatest of those that the input has
sent, the bottom before the first one. -/
structure Worker.Attends (origin : Origin) (stream : List (Output α)) (w : Worker σ) : Prop where
  inputs : w.inputs = 1
  ended : w.ended = []
  going : w.finished = false
  heard : (w.heard = [] ∧ w.watermark = .negInfinity) ∨
    ∃ time, w.heard = [(origin, time)] ∧ time.rank? = w.watermark.rank?
  above : ∀ time ∈ Output.watermarks stream, time.le w.watermark = true
  known : w.watermark = .negInfinity ∨ w.watermark ∈ Output.watermarks stream
  ranked : w.watermark.Ranked

namespace Worker

variable {operator : Operator α σ} {origin : Origin} {stream : List (Output α)} {w : Worker σ}

theorem attends_start (operator : Operator α σ) (origin : Origin) :
    (Worker.start operator 1).Attends origin ([] : List (Output α)) where
  inputs := rfl
  ended := rfl
  going := rfl
  heard := .inl ⟨rfl, rfl⟩
  above _ member := nomatch member
  known := .inl rfl
  ranked := Number.ranked_negInfinity

/-- The watermark is below a time just if the bottom and all that was sent before are. -/
theorem Attends.watermark_lt_iff (attends : w.Attends origin stream) (time : Number) :
    w.watermark.lt time = true ↔ Number.negInfinity.lt time = true ∧
      ∀ earlier ∈ Output.watermarks stream, earlier.lt time = true := by
  constructor
  · intro below
    refine ⟨?_, fun earlier member => Number.lt_of_le_of_lt (attends.above earlier member) below⟩
    obtain ⟨x, hx, y, hy, xy⟩ := Number.lt_iff.mp below
    exact Number.lt_iff.mpr ⟨⊥, Number.rank?_negInfinity, y, hy, bot_le.trans_lt xy⟩
  · rintro ⟨bottom, all⟩
    rcases attends.known with same | member
    · rwa [same]
    · exact all _ member

/-- What noting a watermark of the one input comes to: it is passed on if it is above the one there
was, and else nothing happens but that it is noted. -/
theorem Attends.hear (clock : operator.ownClock = none) (attends : w.Attends origin stream)
    {time : Number} (ranked : time.Ranked) :
    if w.watermark.lt time = true then
      (w.hear time origin).advance operator =
        { (({ w with heard := [(origin, time)], watermark := time } : Worker σ).react operator
            s!"on_watermark failed in {operator.name}"
            (operator.behaviour.advanced time w.state)) with
          outputs := (operator.behaviour.advanced time w.state).outputs ++ [.watermark time] }
    else ∃ noted, noted.rank? = w.watermark.rank? ∧ (w.hear time origin).advance operator =
      ⟨{ w with heard := [(origin, noted)] }, [], []⟩ := by
  obtain ⟨known, same, noted⟩ : ∃ known : Number, known.rank? = w.watermark.rank? ∧
      w.hear time origin = { w with heard := [(origin, Number.later time known)] } := by
    rcases attends.heard with ⟨none, bottom⟩ | ⟨known, one, same⟩
    · exact ⟨.negInfinity, by rw [bottom], by simp [Worker.hear, none, Keyed.find?, Keyed.set]⟩
    · exact ⟨known, same, by simp [Worker.hear, one, Keyed.find?, Keyed.set]⟩
  have combined : ({ w with heard := [(origin, Number.later time known)] } : Worker σ).combined? =
      some (Number.later time known) := by
    simp [Worker.combined?, attends.inputs, leastHeard]
  obtain ⟨own, ownRank⟩ := Option.isSome_iff_exists.mp attends.ranked
  obtain ⟨new, newRank⟩ := Option.isSome_iff_exists.mp ranked
  have kept := Number.rank?_later newRank (same.trans ownRank)
  have below : w.watermark.lt time = true ↔ own < new := by simp [Number.lt_iff, ownRank, newRank]
  have within : (Number.later time known).le w.watermark = true ↔ max new own ≤ own := by
    simp [Number.le_iff, kept, ownRank]
  rw [noted, Worker.advance, clock, combined]
  simp only
  split
  · rename_i later
    have above := below.mp later
    have passed : Number.later time known = time := by
      rw [Number.later, if_neg]
      simp [Number.lt_iff, same, ownRank, newRank, above.le]
    rw [if_neg (mt within.mp (by simp [above])), passed]
    rfl
  · rename_i held
    have least : new ≤ own := not_lt.mp (mt below.mpr held)
    rw [if_pos (within.mpr (max_le least le_rfl))]
    exact ⟨_, by rw [kept, ownRank, max_eq_right least], rfl⟩

end Worker

/-! ## One step of a chain -/

/-- A step of a chain: a map, or a filter. -/
inductive Transform (α : Type)
  | map (name : String) (f : α → Except Fault (Option α))
  | filter (name : String) (p : α → Except Fault Bool)

namespace Transform

/-- The name of the operator of a step. -/
def name : Transform α → String
  | map name _ | filter name _ => name

/-- The operator of a step. -/
def operator : Transform α → Operator α Unit
  | map name f => Operators.map name f
  | filter name p => Operators.filter name p

/-- What the function of a step says of an element: what takes its place, if anything does. -/
def answer : Transform α → α → Except Fault (Option α)
  | map _ f, value => f value
  | filter _ p, value => (p value).map fun holds => if holds then some value else none

/-- What becomes of an element: it is dropped also where the function fails. -/
def image (step : Transform α) (value : α) : Option α := (step.answer value).toOption.join

/-- Whether the function of a step fails on an element. -/
def fails (step : Transform α) (value : α) : Bool := !(step.answer value).isOk

/-- What a step does outside the chain when it is given an element. -/
def troubles (step : Transform α) (value : α) : List (Effect α) :=
  match step.answer value with
  | .ok _ => []
  | .error fault => Worker.failureEffects step.operator
      s!"Skipping element in {step.operator.name} after error" (some fault)

/-- The work of a step on a stream that comes from a place. -/
def work (step : Transform α) (place : Nat) (stream : List (Output α)) : Move α Unit :=
  (Worker.start step.operator 1).run step.operator (stream.map (Output.from (some place)))

theorem operator_eq (step : Transform α) :
    step.operator =
      Operators.perElement step.name fun value => (step.answer value).map Option.toList := by
  cases step with
  | map name f => rfl
  | filter name p =>
    simp only [operator, Operators.filter, Transform.name, answer]
    congr 1
    funext value
    rcases p value with fault | holds
    · rfl
    · cases holds <;> rfl

/-- How the operator of a step reacts to an element. -/
theorem element_eq (step : Transform α) (time : Number) (state : Unit) (value : α) :
    let reaction := step.operator.behaviour.element time state value
    reaction.outputs = (step.image value).toList.map .element ∧
      reaction.effects ++ Worker.failureEffects step.operator
        s!"Skipping element in {step.operator.name} after error" reaction.failure =
          step.troubles value := by
  rw [troubles, image, operator_eq]
  simp only [Operators.perElement]
  cases step.answer value <;> exact ⟨rfl, rfl⟩

theorem advanced_eq (step : Transform α) (time : Number) (state : Unit) :
    step.operator.behaviour.advanced time state = .none state := by
  rw [operator_eq]
  rfl

theorem finish_eq (step : Transform α) (time : Number) (state : Unit) :
    step.operator.behaviour.finish time state = .none state := by
  rw [operator_eq]
  rfl

theorem ownClock_eq (step : Transform α) : step.operator.ownClock = none := by
  rw [operator_eq]
  rfl

variable {step : Transform α} {origin : Origin} {stream : List (Output α)} {w : Worker Unit}

/-- What a step does with an output other than the end. -/
theorem attends_step (step : Transform α) (attends : w.Attends origin stream) {output : Output α}
    (opened : output ≠ .ended) (ranked : ∀ time, output = .watermark time → time.Ranked) :
    let move := w.step step.operator (output.from origin)
    move.worker.Attends origin (stream ++ [output]) ∧
      move.outputs = Output.carried step.image stream output ∧
      move.effects = (Output.elements [output]).flatMap step.troubles := by
  cases output with
  | element value =>
    obtain ⟨outputs, effects⟩ := step.element_eq (w.current step.operator) w.state value
    have same : Output.watermarks (stream ++ [.element value]) = Output.watermarks stream := by
      rw [Output.watermarks_append]
      exact List.append_nil _
    refine ⟨⟨attends.inputs, attends.ended, attends.going, attends.heard, ?_, ?_, attends.ranked⟩,
      outputs, ?_⟩
    · rw [same]
      exact attends.above
    · rw [same]
      exact attends.known
    · exact effects.trans (List.append_nil _).symm
  | watermark time =>
    have rank := ranked time rfl
    have heard := attends.hear step.ownClock_eq rank
    have all : Output.watermarks (stream ++ [.watermark time]) =
        Output.watermarks stream ++ [time] := Output.watermarks_append ..
    simp only [Output.from, Worker.step, Output.carried, ← attends.watermark_lt_iff]
    split at heard
    · rename_i later
      rw [heard, if_pos later, advanced_eq]
      refine ⟨⟨attends.inputs, attends.ended, attends.going, .inr ⟨time, rfl, rfl⟩, ?_, ?_, rank⟩,
        rfl, rfl⟩
      · intro earlier member
        rcases List.mem_append.mp (all ▸ member) with old | new
        · exact Number.le_trans (attends.above earlier old) (Number.le_of_lt later)
        · rw [List.mem_singleton.mp new]
          exact Number.le_refl rank
      · rw [all]
        exact .inr (List.mem_append_right _ (List.mem_singleton_self _))
    · rename_i held
      obtain ⟨noted, same, moved⟩ := heard
      have within : time.le w.watermark = true := by
        rw [Number.lt_eq_not_le attends.ranked rank] at held
        simpa using held
      rw [moved, if_neg held]
      refine ⟨⟨attends.inputs, attends.ended, attends.going, .inr ⟨noted, rfl, same⟩, ?_, ?_,
        attends.ranked⟩, rfl, rfl⟩
      · intro earlier member
        rcases List.mem_append.mp (all ▸ member) with old | new
        · exact attends.above earlier old
        · rw [List.mem_singleton.mp new]
          exact within
      · rw [all]
        exact attends.known.imp id fun member => List.mem_append_left _ member
  | ended => exact absurd rfl opened

/-- What a step has done with a stream that goes on. -/
theorem attends_work (step : Transform α) (place : Nat) (opened : .ended ∉ stream)
    (ranked : ∀ time, .watermark time ∈ stream → time.Ranked) :
    (step.work place stream).worker.Attends (some place) stream ∧
      (step.work place stream).outputs = Output.carriedAll step.image [] stream ∧
      (step.work place stream).effects = (Output.elements stream).flatMap step.troubles := by
  induction stream using List.reverseRecOn with
  | nil => exact ⟨Worker.attends_start step.operator (some place), rfl, rfl⟩
  | append_singleton before output ih =>
    rw [List.mem_append, List.mem_singleton, not_or] at opened
    obtain ⟨attends, outputs, effects⟩ :=
      ih opened.1 fun time member => ranked time (List.mem_append_left _ member)
    obtain ⟨next, sent, did⟩ := attends_step step attends (Ne.symm opened.2)
      fun time same => ranked time (by simp [same])
    unfold work at attends outputs effects next sent did ⊢
    rw [List.map_append, List.map_cons, List.map_nil, Worker.run_concat, attends.going,
      if_neg Bool.false_ne_true]
    refine ⟨next, ?_, ?_⟩
    · rw [Output.carriedAll_concat, outputs, sent]
    · rw [Output.elements_append, List.flatMap_append, effects, did]

/-- What a step has done with a stream up to its end. -/
theorem work_ended (step : Transform α) (place : Nat) (opened : .ended ∉ stream)
    (ranked : ∀ time, .watermark time ∈ stream → time.Ranked) :
    (step.work place (stream ++ [.ended])).outputs =
        Output.carriedAll step.image [] stream ++ [.ended] ∧
      (step.work place (stream ++ [.ended])).effects =
        (Output.elements stream).flatMap step.troubles := by
  obtain ⟨attends, outputs, effects⟩ := step.attends_work place opened ranked
  unfold work at attends outputs effects ⊢
  rw [List.map_append, List.map_cons, List.map_nil, Worker.run_concat, attends.going,
    if_neg Bool.false_ne_true]
  have last : (1 : Nat) ≤ [some place].length := le_rfl
  simp only [Output.from, Worker.step, Worker.endInput, attends.ended, attends.inputs,
    List.contains_nil, Bool.false_eq_true, if_false, List.nil_append, last, if_true, finish_eq,
    outputs, effects]
  exact ⟨rfl, List.append_nil _⟩

/-! ## Chains -/

/-- What becomes of an element on its way through a chain. -/
def composed : List (Transform α) → α → Option α
  | [], value => some value
  | step :: rest, value => (step.image value).bind (composed rest)

/-- The work of a chain on a stream that comes from a place: each step, at the place after, works on
all that the one before it sent. What leaves the chain, and what was done outside it. -/
def chain : Nat → List (Transform α) → List (Output α) → List (Output α) × List (Effect α)
  | _, [], stream => (stream, [])
  | place, step :: rest, stream =>
    let first := step.work place stream
    let others := chain (place + 1) rest first.outputs
    (others.1, first.effects ++ others.2)

/-- What the steps of a chain report when these elements come to it. -/
def reported : List (Transform α) → List α → List (Effect α)
  | [], _ => []
  | step :: rest, values =>
    values.flatMap step.troubles ++ reported rest (values.filterMap step.image)

theorem ranked_carriedAll {image : α → Option α}
    (ranked : ∀ time, .watermark time ∈ stream → time.Ranked) :
    ∀ time, .watermark time ∈ Output.carriedAll image [] stream → time.Ranked := by
  intro time member
  have sent := Output.watermarks_carriedAll stream (Output.mem_watermarks.mpr member)
  exact ranked time (Output.mem_watermarks.mp sent)

/-- What leaves a chain of at least one step. -/
theorem outputs_chain (place : Nat) (first : Transform α) (rest : List (Transform α))
    (opened : .ended ∉ stream) (ranked : ∀ time, .watermark time ∈ stream → time.Ranked) :
    (chain place (first :: rest) (stream ++ [.ended])).1 =
      Output.carriedAll (composed (first :: rest)) [] stream ++ [.ended] := by
  induction rest generalizing place first stream with
  | nil =>
    have whole : composed [first] = first.image := by
      funext value
      simp [composed]
    rw [whole, chain, chain]
    exact (first.work_ended place opened ranked).1
  | cons second others ih =>
    rw [chain]
    simp only
    rw [(first.work_ended place opened ranked).1,
      ih _ _ (Output.ended_not_mem_carriedAll opened) (ranked_carriedAll ranked),
      Output.carriedAll_carriedAll]
    rfl

/-- What leaves a chain, so far, of a stream in order that goes on. -/
theorem outputs_chain_going {ok : Number → α → Prop} (place : Nat) (steps : List (Transform α))
    (opened : .ended ∉ stream) (orderly : Output.Orderly ok stream) :
    (chain place steps stream).1 = Output.carriedAll (composed steps) [] stream := by
  induction steps generalizing place stream ok with
  | nil => exact (Output.carriedAll_some orderly).symm
  | cons first rest ih =>
    have ranked : ∀ time, .watermark time ∈ stream → time.Ranked := fun time member =>
      (Number.ranked_of_lt (orderly.above time member)).2
    rw [chain]
    simp only
    rw [(first.attends_work place opened ranked).2.1,
      ih _ (Output.ended_not_mem_carriedAll opened) (Output.orderly_carriedAll opened),
      Output.carriedAll_carriedAll]
    rfl

/-- What a chain does outside is what each step does with the elements that the steps before it let
through. -/
theorem effects_chain (place : Nat) (steps : List (Transform α))
    (opened : .ended ∉ stream) (ranked : ∀ time, .watermark time ∈ stream → time.Ranked) :
    (chain place steps (stream ++ [.ended])).2 = reported steps (Output.elements stream) := by
  induction steps generalizing place stream with
  | nil => rfl
  | cons step rest ih =>
    obtain ⟨outputs, effects⟩ := step.work_ended place opened ranked
    rw [chain, reported]
    simp only
    rw [outputs, effects, ih _ (Output.ended_not_mem_carriedAll opened) (ranked_carriedAll ranked),
      Output.elements_carriedAll]

/-! ## Errors -/

theorem name_operator (step : Transform α) : step.operator.name = step.name := by
  cases step <;> rfl

theorem reports_of_mem_troubles {value : α} {effect : Effect α}
    (member : effect ∈ step.troubles value) : effect.Reports := by
  unfold troubles at member
  split at member
  · cases member
  · rcases List.mem_cons.mp member with rfl | last
    · exact .inr ⟨_, rfl⟩
    · rw [List.mem_singleton.mp last]
      exact .inl ⟨_, _, rfl⟩

theorem reports_of_mem_reported {steps : List (Transform α)} {values : List α} {effect : Effect α}
    (member : effect ∈ reported steps values) : effect.Reports := by
  induction steps generalizing values with
  | nil => cases member
  | cons step rest ih =>
    rcases List.mem_append.mp member with own | later
    · obtain ⟨value, -, trouble⟩ := List.mem_flatMap.mp own
      exact reports_of_mem_troubles trouble
    · exact ih later

/-- A step counts an error of its operator for every element that its function fails on. -/
theorem countP_troubles (step : Transform α) (name : String) (values : List α) :
    (values.flatMap step.troubles).countP (Effect.countsError name) =
      if step.name = name then values.countP step.fails else 0 := by
  have one : ∀ value, (step.troubles value).countP (Effect.countsError name) =
      if step.name = name ∧ step.fails value = true then 1 else 0 := by
    intro value
    unfold troubles fails
    cases step.answer value with
    | ok found => simp [Except.isOk, Except.toBool]
    | error fault =>
      simp [Worker.failureEffects, name_operator, Effect.countsError, List.countP_cons, Except.isOk,
        Except.toBool]
  induction values with
  | nil => simp
  | cons value rest ih =>
    rw [List.flatMap_cons, List.countP_append, ih, one, List.countP_cons]
    by_cases same : step.name = name <;> simp [same, Nat.add_comm]

/-- A step with a name of its own is alone with its errors, and meets those elements that the steps
before it let through. -/
theorem countP_reported {before after : List (Transform α)} (step : Transform α)
    (own : ∀ other ∈ before ++ after, other.name ≠ step.name) (values : List α) :
    (reported (before ++ step :: after) values).countP (Effect.countsError step.name) =
      (values.filterMap (composed before)).countP step.fails := by
  have silent : ∀ (steps : List (Transform α)) (values : List α),
      (∀ other ∈ steps, other.name ≠ step.name) →
      (reported steps values).countP (Effect.countsError step.name) = 0 := by
    intro steps
    induction steps with
    | nil => exact fun _ _ => rfl
    | cons other rest ih =>
      intro values apart
      rw [reported, List.countP_append, countP_troubles, if_neg (apart other List.mem_cons_self),
        ih _ fun later member => apart later (List.mem_cons_of_mem _ member)]
  induction before generalizing values with
  | nil =>
    have all : composed ([] : List (Transform α)) = some := rfl
    rw [List.nil_append, reported, List.countP_append, countP_troubles, if_pos rfl,
      silent after _ own, all, List.filterMap_some, Nat.add_zero]
  | cons other rest ih =>
    rw [List.cons_append, reported, List.countP_append, countP_troubles,
      if_neg (own other List.mem_cons_self), Nat.zero_add,
      ih (fun later member => own later (List.mem_cons_of_mem _ member)), List.filterMap_filterMap]
    rfl

/-- A chain of maps and filters over a stream of elements and watermarks, in any order, up to its
end. Each element goes over into its image under all functions, or is dropped where there is none;
the watermarks above the bottom and above all before them stay in their places, the others are left
out; the end comes last. In whatever order the errors are entered that the steps report, the count of
an operator whose name no other has is that of the elements on which its own function failed, and
as a float it is exact below `2 ^ 53`. -/
theorem chain_keeps_order (place : Nat) (first : Transform α) (rest : List (Transform α))
    (opened : .ended ∉ stream) (ranked : ∀ time, .watermark time ∈ stream → time.Ranked) :
    let done := chain place (first :: rest) (stream ++ [.ended])
    done.1 = Output.carriedAll (composed (first :: rest)) [] stream ++ [.ended] ∧
      ∀ before step after, first :: rest = before ++ step :: after →
        (∀ other ∈ before ++ after, other.name ≠ step.name) →
        let failed := ((Output.elements stream).filterMap (composed before)).countP step.fails
        (∀ effects : List (Nat × Effect α), (effects.map (·.2)).Perm done.2 →
          ∀ j : Journal α, j.registry.Stands .operatorErrors [step.name] 0 →
          (effects.foldl (fun j effect => j.record effect.1 effect.2) j).registry.Stands
            .operatorErrors [step.name] (Binary64.counted failed)) ∧
        (failed < 2 ^ 53 →
          ∃ p, Binary64.parts? (Binary64.counted failed) = some p ∧ p.value = failed) := by
  intro done
  refine ⟨outputs_chain place first rest opened ranked, ?_⟩
  intro before step after split own failed
  refine ⟨fun effects entered j stands => ?_, Binary64.value_counted⟩
  have did : done.2 = reported (before ++ step :: after) (Output.elements stream) := by
    rw [← split]
    exact effects_chain place _ opened ranked
  rw [did] at entered
  have all : failed = (effects.map (·.2)).countP (Effect.countsError step.name) := by
    rw [entered.countP_eq, countP_reported step own]
  rw [all]
  refine Journal.stands_record (fun effect member => ?_) step.name j stands
  exact reports_of_mem_reported (entered.subset (List.mem_map_of_mem member))

/-- Halves even numbers, drops odd ones, and fails on zero. -/
def halving : Transform Int :=
  .map "halve" fun value =>
    if value = 0 then .error .divisionByZero
    else if value % 2 = 0 then .ok (some (value / 2)) else .ok none

/-- Lets numbers below ten through, and fails on seven. -/
def bounding : Transform Int :=
  .filter "bound" fun value =>
    if value = 7 then .error (.handlerFailed "seven") else .ok (decide (value < 10))

/-- Elements and watermarks; one watermark falls back. -/
def mixed : List (Output Int) :=
  [.element 8, .watermark 5, .element 0, .watermark 3, .element 14, .watermark 7, .element 3,
    .element 40]

theorem chain_keeps_order_mixed :
    (.ended ∉ mixed ∧ ∀ time, .watermark time ∈ mixed → time.Ranked) ∧
      (chain 0 [halving, bounding] (mixed ++ [.ended])).1 =
        [.element 4, .watermark 5, .watermark 7, .ended] ∧
      ((chain 0 [halving, bounding] (mixed ++ [.ended])).2.foldl (Journal.record 0)
        ({} : Journal Int)).registry.Stands .operatorErrors ["bound"] (Binary64.counted 1) := by
  have opened : .ended ∉ mixed := by simp [mixed]
  have ranked : ∀ time, .watermark time ∈ mixed → time.Ranked := by
    intro time member
    simp only [mixed, List.mem_cons, List.not_mem_nil, Output.watermark.injEq, reduceCtorEq,
      false_or, or_false] at member
    rcases member with rfl | rfl | rfl <;> exact Number.ranked_int _
  obtain ⟨outputs, errors⟩ := chain_keeps_order 0 halving [bounding] opened ranked
  obtain ⟨counts, -⟩ := errors [halving] bounding [] rfl (by simp [halving, bounding, name])
  have failed : ((Output.elements mixed).filterMap (composed [halving])).countP bounding.fails = 1 :=
    rfl
  rw [failed] at counts
  have one := counts ((chain 0 [halving, bounding] (mixed ++ [.ended])).2.map (0, ·))
    (by simp [Function.comp_def]) {} ⟨_, _, rfl, rfl, rfl, rfl⟩
  rw [List.foldl_map] at one
  exact ⟨⟨opened, ranked⟩, outputs, one⟩

end Transform

end FlightStream.Dataflow
