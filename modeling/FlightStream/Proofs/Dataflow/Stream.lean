import FlightStream.Proofs.Dataflow.History
import FlightStream.Proofs.Number.Order
import Mathlib.Data.List.Induction

/-!
Operators with one input. What such an operator takes is a beginning of what its input sent,
`Consistent.exists_stream`. In an `Orderly` stream watermarks ascend and nothing follows the end;
a run over one is described by `Reads`, which the operators are reasoned about with.
-/

namespace FlightStream.Dataflow

variable {α σ : Type}

/-! ## The stream of a sole input -/

/-- One place, and no other, leads to another, by one connection. -/
structure Wiring.Sole {n : Nat} (w : Wiring n) (i j : Fin n) : Prop where
  once : (w.downstream i).count j = 1
  others : ∀ k, k ≠ i → j ∉ w.downstream k

namespace Consistent

variable {n : Nat} {net : Network n α} {h : History n α}

/-- What a sole input sent was taken, or still waits, in order. -/
theorem sole_channel (consistent : Consistent net h) {i j : Fin n} (sole : net.wiring.Sole i j) :
    (h.emitted i).map (Output.from (some i.val)) =
      h.handled j ++ ((h.network.cell j).inbox ++ h.pending i j) := by
  have own : ∀ received ∈ h.received j, received.1 = i := by
    intro received member
    by_contra other
    have absent := consistent.channel received.1 j
    have none : net.wiring.sent received.1 j (h.emitted received.1) = [] := by
      unfold Wiring.sent
      rw [List.count_eq_zero_of_not_mem (sole.others _ other)]
      exact List.flatMap_eq_nil_iff.mpr fun _ _ => rfl
    rw [none] at absent
    have from_ := (List.append_eq_nil_iff.mp absent).1
    rw [History.receivedFrom, List.map_eq_nil_iff, List.filter_eq_nil_iff] at from_
    exact from_ received member (by simp)
  have all : h.receivedFrom i j = (h.received j).map (·.2) := by
    unfold History.receivedFrom
    rw [List.filter_eq_self.mpr fun received member => by simpa using own received member]
  have sent : net.wiring.sent i j (h.emitted i) =
      (h.emitted i).map (Output.from (some i.val)) := by
    unfold Wiring.sent
    rw [sole.once]
    exact List.map_eq_flatMap.symm
  have channel := consistent.channel i j
  rw [all, consistent.inbox, sent, List.append_assoc] at channel
  exact channel.symm

/-- What an operator took is a beginning of what its sole input sent. -/
theorem exists_stream (consistent : Consistent net h) {i j : Fin n}
    (sole : net.wiring.Sole i j) :
    ∃ stream rest, h.emitted i = stream ++ rest ∧
      h.handled j = stream.map (Output.from (some i.val)) := by
  have channel := consistent.sole_channel sole
  obtain ⟨stream, rest, split, handled, -⟩ := List.map_eq_append_iff.mp channel
  exact ⟨stream, rest, split, handled.symm⟩

end Consistent

/-! ## Orderly streams -/

namespace Output

/-- What may come before what: nothing follows the end, watermarks ascend, and an element stands
to the watermarks before it as told. -/
def Precedes (ok : Number → α → Prop) : Output α → Output α → Prop
  | ended, _ => False
  | watermark before, watermark after => before.lt after = true
  | watermark time, element value => ok time value
  | _, _ => True

/-- A stream in order, its watermarks above the bottom. -/
structure Orderly (ok : Number → α → Prop) (stream : List (Output α)) : Prop where
  above : ∀ time, .watermark time ∈ stream → Number.negInfinity.lt time = true
  order : stream.Pairwise (Precedes ok)

variable {ok : Number → α → Prop}

theorem Orderly.nil : Orderly ok [] := ⟨fun _ member => (nomatch member), .nil⟩

theorem Orderly.sublist {part whole : List (Output α)} (orderly : Orderly ok whole)
    (sub : part.Sublist whole) : Orderly ok part :=
  ⟨fun time member => orderly.above time (sub.subset member), orderly.order.sublist sub⟩

theorem Orderly.mono {weaker : Number → α → Prop} {stream : List (Output α)}
    (orderly : Orderly ok stream) (weaken : ∀ time value, ok time value → weaker time value) :
    Orderly weaker stream := by
  refine ⟨orderly.above, orderly.order.imp fun {a b} before => ?_⟩
  cases a <;> cases b <;> simp_all [Precedes]

theorem orderly_concat {stream : List (Output α)} {last : Output α} :
    Orderly ok (stream ++ [last]) ↔ Orderly ok stream ∧
      (∀ before ∈ stream, Precedes ok before last) ∧
      ∀ time, last = .watermark time → Number.negInfinity.lt time = true := by
  constructor
  · intro orderly
    refine ⟨orderly.sublist (List.sublist_append_left _ _), ?_, ?_⟩
    · intro before member
      exact (List.pairwise_append.mp orderly.order).2.2 before member last
        (List.mem_singleton_self _)
    · rintro time rfl
      exact orderly.above time (List.mem_append_right _ (List.mem_singleton_self _))
  · rintro ⟨orderly, before, above⟩
    refine ⟨?_, List.pairwise_append.mpr ⟨orderly.order, List.pairwise_singleton _ _, ?_⟩⟩
    · intro time member
      rcases List.mem_append.mp member with old | new
      · exact orderly.above time old
      · exact above time (List.mem_singleton.mp new).symm
    · intro a early b late
      rw [List.mem_singleton.mp late]
      exact before a early

/-- A stream that goes on has not ended. -/
theorem Orderly.not_ended {stream : List (Output α)} {last : Output α}
    (orderly : Orderly ok (stream ++ [last])) : .ended ∉ stream := by
  intro member
  exact (orderly_concat.mp orderly).2.1 _ member

end Output

/-! ## Runs over a stream -/

/-- What an operator makes of a stream: the last watermark, its state, and what it sends. -/
inductive Operator.Reads (operator : Operator α σ) :
    List (Output α) → Number → σ → List (Output α) → Prop
  | start : Reads operator [] .negInfinity operator.start []
  | element {seen sent : List (Output α)} {time : Number} {state : σ} (value : α) :
      Reads operator seen time state sent →
      Reads operator (seen ++ [.element value]) time
        (operator.behaviour.element time state value).state
        (sent ++ (operator.behaviour.element time state value).outputs)
  | watermark {seen sent : List (Output α)} {time next : Number} {state : σ} :
      time.lt next = true → Reads operator seen time state sent →
      Reads operator (seen ++ [.watermark next]) next (operator.behaviour.advanced next state).state
        (sent ++ ((operator.behaviour.advanced next state).outputs ++ [.watermark next]))
  | ended {seen sent : List (Output α)} {time : Number} {state : σ} :
      Reads operator seen time state sent →
      Reads operator (seen ++ [.ended]) time (operator.behaviour.finish time state).state
        (sent ++ ((operator.behaviour.finish time state).outputs ++ [.ended]))

/-- A worker with one input that has read a stream. -/
structure Worker.Listens (origin : Origin) (stream : List (Output α)) (w : Worker σ) : Prop where
  inputs : w.inputs = 1
  heard : (w.watermark = .negInfinity ∧ w.heard = []) ∨
    (.watermark w.watermark ∈ stream ∧ w.heard = [(origin, w.watermark)])
  ended : w.finished = false → w.ended = []
  finished : w.finished = true ↔ .ended ∈ stream

namespace Worker

variable {operator : Operator α σ} {origin : Origin} {stream : List (Output α)} {w : Worker σ}

theorem Listens.watermark_lt {ok : Number → α → Prop} (listens : w.Listens origin stream)
    {next : Number} (orderly : Output.Orderly ok (stream ++ [.watermark next])) :
    w.watermark.lt next = true := by
  obtain ⟨-, before, above⟩ := Output.orderly_concat.mp orderly
  rcases listens.heard with ⟨bottom, -⟩ | ⟨member, -⟩
  · rw [bottom]
    exact above next rfl
  · exact before _ member

/-- A later watermark of the one input becomes that of the operator. -/
theorem Listens.advance (clock : operator.ownClock = none) (listens : w.Listens origin stream)
    {next : Number} (later : w.watermark.lt next = true) :
    (w.hear next origin).advance operator =
      { (({ w with heard := [(origin, next)], watermark := next } : Worker σ).react operator
          s!"on_watermark failed in {operator.name}"
          (operator.behaviour.advanced next w.state)) with
        outputs := (operator.behaviour.advanced next w.state).outputs ++ [.watermark next] } := by
  have not_before : next.lt w.watermark = false := Number.not_lt_of_lt later
  have above : next.le w.watermark = false := Number.not_le_of_lt later
  have heard : w.hear next origin = { w with heard := [(origin, next)] } := by
    rcases listens.heard with ⟨bottom, none⟩ | ⟨-, known⟩
    · rw [bottom] at not_before
      simp [hear, none, Keyed.find?, Keyed.set, Number.later, not_before]
    · simp [hear, known, Keyed.find?, Keyed.set, Number.later, not_before]
  unfold Worker.advance
  rw [heard, clock]
  have combined : ({ w with heard := [(origin, next)] } : Worker σ).combined? = some next := by
    simp [combined?, listens.inputs, leastHeard]
  rw [combined]
  simp only [above, Bool.false_eq_true, if_false]
  rfl

theorem listens_start (operator : Operator α σ) (origin : Origin) :
    (Worker.start operator 1).Listens origin ([] : List (Output α)) where
  inputs := rfl
  heard := .inl ⟨rfl, rfl⟩
  ended _ := rfl
  finished := by simp [Worker.start]

theorem Listens.step (clock : operator.ownClock = none) {ok : Number → α → Prop}
    (listens : w.Listens origin stream) {last : Output α}
    (orderly : Output.Orderly ok (stream ++ [last])) {sent : List (Output α)}
    (reads : operator.Reads stream w.watermark w.state sent) :
    (w.step operator (last.from origin)).worker.Listens origin (stream ++ [last]) ∧
      operator.Reads (stream ++ [last]) (w.step operator (last.from origin)).worker.watermark
        (w.step operator (last.from origin)).worker.state
        (sent ++ (w.step operator (last.from origin)).outputs) := by
  have unfinished : w.finished = false := by
    rw [← Bool.not_eq_true, listens.finished]
    exact orderly.not_ended
  have own : w.current operator = w.watermark := by
    unfold current
    rw [clock]
  cases last with
  | element value =>
    simp only [Output.from, Worker.step, own]
    refine ⟨⟨listens.inputs, ?_, listens.ended, ?_⟩, .element value reads⟩
    · exact listens.heard.imp id fun known => ⟨List.mem_append_left _ known.1, known.2⟩
    · simpa [react] using listens.finished
  | watermark next =>
    have later := listens.watermark_lt orderly
    simp only [Output.from, Worker.step, listens.advance clock later]
    refine ⟨⟨listens.inputs, .inr ⟨?_, rfl⟩, listens.ended, ?_⟩, .watermark later reads⟩
    · exact List.mem_append_right _ (List.mem_singleton_self _)
    · simpa [react] using listens.finished
  | ended =>
    have last : w.inputs ≤ [origin].length := listens.inputs.le
    simp only [Output.from, Worker.step, endInput, listens.ended unfinished, List.contains_nil,
      Bool.false_eq_true, if_false, List.nil_append, last, if_true]
    refine ⟨⟨listens.inputs, ?_, fun still => (nomatch still), ?_⟩, ?_⟩
    · exact listens.heard.imp id fun known => ⟨List.mem_append_left _ known.1, known.2⟩
    · simp
    · have time : ({ w with ended := [origin] } : Worker σ).current operator = w.watermark := by
        unfold current
        rw [clock]
      rw [time]
      exact .ended reads

/-- A worker that has one input and keeps the time of it reads an orderly stream to its end. -/
theorem listens_run (clock : operator.ownClock = none) (origin : Origin)
    {ok : Number → α → Prop} (orderly : Output.Orderly ok stream) :
    ((Worker.start operator 1).run operator (stream.map (Output.from origin))).worker.Listens
        origin stream ∧
      operator.Reads stream
        ((Worker.start operator 1).run operator (stream.map (Output.from origin))).worker.watermark
        ((Worker.start operator 1).run operator (stream.map (Output.from origin))).worker.state
        ((Worker.start operator 1).run operator (stream.map (Output.from origin))).outputs := by
  induction stream using List.reverseRecOn with
  | nil => exact ⟨listens_start operator origin, .start⟩
  | append_singleton before last ih =>
    obtain ⟨listens, reads⟩ := ih (orderly.sublist (List.sublist_append_left _ _))
    have unfinished : ((Worker.start operator 1).run operator
        (before.map (Output.from origin))).worker.finished = false := by
      rw [← Bool.not_eq_true, listens.finished]
      exact orderly.not_ended
    rw [List.map_append, List.map_cons, List.map_nil, run_concat, unfinished,
      if_neg Bool.false_ne_true]
    exact listens.step clock orderly reads

end Worker

namespace Operator.Reads

variable {operator : Operator α σ} {seen sent : List (Output α)} {time : Number} {state : σ}

/-- The operator's time is above all watermarks that it read, and one of them. -/
theorem time_spec (reads : operator.Reads seen time state sent) :
    (∀ known, .watermark known ∈ seen → known.le time = true) ∧
      (time = .negInfinity ∨ .watermark time ∈ seen) := by
  induction reads with
  | start => exact ⟨fun _ member => (nomatch member), .inl rfl⟩
  | element value _ ih =>
    refine ⟨fun known member => ih.1 known (by simpa using member), ih.2.imp id fun member => ?_⟩
    exact List.mem_append_left _ member
  | watermark later _ ih =>
    refine ⟨fun known member => ?_, .inr (List.mem_append_right _ (List.mem_singleton_self _))⟩
    rcases List.mem_append.mp member with old | new
    · exact Number.le_trans (ih.1 known old) (Number.le_of_lt later)
    · cases List.mem_singleton.mp new
      exact Number.le_refl (Number.ranked_of_lt later).2
  | ended _ ih =>
    refine ⟨fun known member => ih.1 known (by simpa using member), ih.2.imp id fun member => ?_⟩
    exact List.mem_append_left _ member

end Operator.Reads

end FlightStream.Dataflow
