import FlightStream.Dataflow.Draft
import FlightStream.Dataflow.Operators
import FlightStream.Proofs.Dataflow.Hooks
import Mathlib.Data.List.Dedup
import Mathlib.Data.List.Perm.Subperm

/-!
Connections and the ends that come along them. A worker waits for as many ends as connections lead
to it, and tells the ends apart by the places that sent them: it has finished once that many
different inputs have ended, `Worker.finished_iff`. So a worker whose connections all come from
different places finishes with the last of their ends, and one to which a place is connected twice
waits for ever, `Draft.finishes_unless_doubled`.
-/

namespace FlightStream.Dataflow

variable {n : Nat} {α σ : Type}

/-! ## Connections -/

/-- The names under which the ends come along the connections to a place, one for each
connection. -/
def Wiring.origins (w : Wiring n) (j : Fin n) : List Origin :=
  (List.finRange n).flatMap fun i => List.replicate ((w.downstream i).count j) (some i.val)

namespace Wiring

variable {w : Wiring n} {i j : Fin n}

theorem length_origins (w : Wiring n) (j : Fin n) : (w.origins j).length = w.inputs j := by
  simp [origins, inputs, List.length_flatMap, List.count_flatMap, Function.comp_def]

theorem mem_origins {origin : Origin} :
    origin ∈ w.origins j ↔ ∃ i, j ∈ w.downstream i ∧ origin = some i.val := by
  simp [origins, List.mem_replicate, List.count_eq_zero]

/-- The connections to a place are told apart if none is made twice. -/
theorem nodup_origins : (w.origins j).Nodup ↔ ∀ i, (w.downstream i).count j ≤ 1 := by
  unfold origins
  rw [List.nodup_flatMap]
  refine ⟨fun nodup i => List.nodup_replicate.mp (nodup.1 i (List.mem_finRange i)),
    fun once => ⟨fun i _ => List.nodup_replicate.mpr (once i), ?_⟩⟩
  refine (List.nodup_finRange n).imp fun {i k} apart => ?_
  intro origin first second
  have same := (List.eq_of_mem_replicate first).symm.trans (List.eq_of_mem_replicate second)
  exact apart (Fin.ext (Option.some.inj same))

end Wiring

namespace Draft

theorem count_places (d : Draft α) (numbers : List Nat) (j : Fin d.parts.length) :
    (d.places numbers).count j = numbers.count j.val := by
  unfold places
  induction numbers with
  | nil => rfl
  | cons number rest ih =>
    by_cases place : number < d.parts.length
    · rw [List.filterMap_cons_some (dif_pos place), List.count_cons, List.count_cons, ih]
      simp [Fin.ext_iff]
    · have apart : ¬number = j.val := fun same => place (same ▸ j.isLt)
      rw [List.filterMap_cons_none (dif_neg place), ih, List.count_cons_of_ne apart]

/-- Two places of a draft are connected as often as was asked for. -/
theorem count_downstream (d : Draft α) (i j : Fin d.parts.length) :
    (d.wiring.downstream i).count j = d.links.count (i.val, j.val) := by
  rw [wiring, count_places, List.count, List.countP_map, List.countP_filter, List.count]
  refine List.countP_congr fun link _ => ?_
  simp [Prod.ext_iff, and_comm]

end Draft

/-! ## Ends -/

/-- The input of which a message is the end. -/
def Message.ending? : Message α → Option Origin
  | ended origin => some origin
  | _ => none

/-- The inputs of which messages are the ends, in the order of the messages. -/
def endings (messages : List (Message α)) : List Origin := messages.filterMap Message.ending?

theorem mem_endings {messages : List (Message α)} {origin : Origin} :
    origin ∈ endings messages ↔ .ended origin ∈ messages := by
  unfold endings
  rw [List.mem_filterMap]
  constructor
  · rintro ⟨message, member, same⟩
    cases message <;> simp_all [Message.ending?]
  · exact fun member => ⟨_, member, rfl⟩

namespace Worker

variable {operator : Operator α σ} {inputs : Nat} {messages : List (Message α)}

/-- A worker has finished once as many different inputs have ended as it has connections. -/
theorem finished_iff (operator : Operator α σ) (inputs : Nat) (messages : List (Message α)) :
    ((start operator inputs).run operator messages).worker.finished = true ↔
      max 1 inputs ≤ (endings messages).dedup.length := by
  have ended := ended_run operator inputs messages
  rw [ended.finished, ended.inputs, decide_eq_true_iff]
  have known : ((start operator inputs).run operator messages).worker.ended ⊆
      (endings messages).dedup := fun origin member =>
    List.mem_dedup.mpr (mem_endings.mpr (ended.source origin member))
  refine ⟨fun enough => Nat.le_trans enough (ended.nodup.subperm known).length_le, fun all => ?_⟩
  by_contra few
  -- As long as the worker goes on, it has noted every end.
  have going : ((start operator inputs).run operator messages).worker.finished = false := by
    rw [ended.finished, ended.inputs]
    exact decide_eq_false few
  have noted : (endings messages).dedup ⊆
      ((start operator inputs).run operator messages).worker.ended := fun origin member =>
    ended.noted going origin (mem_endings.mp (List.mem_dedup.mp member))
  exact few (Nat.le_trans all ((List.nodup_dedup _).subperm noted).length_le)

/-- A worker takes a first part of its messages, all of them as long as it goes on, and asks its
operator for no more than these call for. -/
theorem exists_asked (operator : Operator α σ) (inputs : Nat) (messages : List (Message α)) :
    ∃ taken rest, messages = taken ++ rest ∧
      Asked taken (operator.logRun inputs messages).worker ∧
      ((operator.logRun inputs messages).worker.finished = false → rest = []) := by
  induction messages using List.reverseRecOn with
  | nil =>
    exact ⟨[], [], rfl, ⟨rfl, fun finished => Bool.noConfusion finished, fun _ =>
      List.not_mem_nil⟩, fun _ => rfl⟩
  | append_singleton before message ih =>
    obtain ⟨taken, rest, split, asked, all⟩ := ih
    cases finished : (operator.logRun inputs before).worker.finished with
    | true =>
      have same : operator.logRun inputs (before ++ [message]) = operator.logRun inputs before := by
        unfold Operator.logRun at finished ⊢
        rw [run_concat, if_pos finished]
      rw [same]
      refine ⟨taken, rest ++ [message], by simp [split], asked, fun going => ?_⟩
      exact absurd (finished.symm.trans going) (by decide)
    | false =>
      rw [all finished, List.append_nil] at split
      subst split
      have next := asked.step operator finished message
      refine ⟨before ++ [message], [], (List.append_nil _).symm, ?_, fun _ => rfl⟩
      unfold Operator.logRun at finished next ⊢
      rw [run_concat, finished]
      exact next

/-- With the message that makes it finish, a worker sends the end after all else. -/
theorem ended_of_step {w : Worker σ} {message : Message α} (going : w.finished = false)
    (finished : (w.step operator message).worker.finished = true) :
    ∃ said, (w.step operator message).outputs = said ++ [.ended] := by
  cases message with
  | element value => exact absurd (going.symm.trans finished) (by decide)
  | watermark time origin =>
    have kept := (advance_keeps operator (w.hear time origin)).2.2.1
    exact absurd ((kept.trans going).symm.trans finished) (by decide)
  | ended origin =>
    simp only [step, endInput] at finished ⊢
    generalize (if w.ended.contains origin then w.ended else w.ended ++ [origin]) = ended
      at finished ⊢
    by_cases all : w.inputs ≤ ended.length
    · rw [if_pos all]
      exact ⟨_, rfl⟩
    · rw [if_neg all] at finished
      have kept := (advance_keeps operator
        { w with ended := ended, heard := w.heard.set origin .infinity }).2.2.1
      exact absurd ((kept.trans going).symm.trans finished) (by decide)

/-- What a worker that has finished sent ends with the end. -/
theorem sent_of_finished
    (finished : ((start operator inputs).run operator messages).worker.finished = true) :
    ∃ before, ((start operator inputs).run operator messages).outputs = before ++ [.ended] := by
  induction messages using List.reverseRecOn with
  | nil => cases finished
  | append_singleton before message ih =>
    rw [run_concat] at finished ⊢
    cases earlier : ((start operator inputs).run operator before).worker.finished with
    | true => simpa only [earlier, if_true] using ih earlier
    | false =>
      simp only [earlier, Bool.false_eq_true, if_false] at finished ⊢
      obtain ⟨said, sent⟩ := ended_of_step earlier finished
      exact ⟨_, by rw [sent, List.append_assoc]⟩

end Worker

namespace Draft

/-- How an operator of a draft ends, however the places of the draft are connected. Over messages, in
any order, among which each connection to the operator brings its end once, its worker finishes
just if no place is connected to it twice. If it finishes, the operator was asked for its last say
once, after all else, and the end was sent on after all else; if it does not, neither was done. -/
theorem finishes_unless_doubled (d : Draft α) (j : Fin d.parts.length) (operator : Operator α σ)
    {messages : List (Message α)} (connected : 0 < d.wiring.inputs j)
    (ended : (endings messages).Perm (d.wiring.origins j)) :
    let run := (Worker.start operator (d.wiring.inputs j)).run operator messages
    let log := operator.log (d.wiring.inputs j) messages
    (run.worker.finished = true ↔
        ∀ i : Fin d.parts.length, d.links.count (i.val, j.val) ≤ 1) ∧
      (run.worker.finished = true → ∃ asked sent, log = asked ++ [.finish] ∧ .finish ∉ asked ∧
        run.outputs = sent ++ [.ended] ∧ (operator.KeepsOpen → .ended ∉ sent)) ∧
      (run.worker.finished = false →
        .finish ∉ log ∧ (operator.KeepsOpen → .ended ∉ run.outputs)) := by
  intro run log
  have sends := (Worker.ended_run operator (d.wiring.inputs j) messages).sent
  obtain ⟨taken, rest, -, asked, -⟩ :=
    Worker.exists_asked operator (d.wiring.inputs j) messages
  have same := operator.finished_logRun (d.wiring.inputs j) messages
  refine ⟨?_, fun finished => ?_, fun going => ⟨asked.going (same.trans going), fun opened => ?_⟩⟩
  · simp only [← count_downstream]
    rw [Worker.finished_iff, ended.dedup.length_eq, ← Wiring.nodup_origins,
      Nat.max_eq_right connected, ← Wiring.length_origins]
    refine ⟨fun enough => ?_, fun nodup => Nat.le_of_eq (congrArg _ nodup.dedup.symm)⟩
    rw [← (List.dedup_sublist _).eq_of_length_le enough]
    exact List.nodup_dedup _
  · obtain ⟨before, list, once⟩ := asked.last (same.trans finished)
    obtain ⟨sent, outputs⟩ := Worker.sent_of_finished finished
    refine ⟨before, sent, list, once, outputs, fun opened => ?_⟩
    obtain ⟨others, none_, whole⟩ := sends opened
    rw [if_pos finished] at whole
    rwa [(List.append_inj' (outputs.symm.trans whole) rfl).1]
  · obtain ⟨others, none_, whole⟩ := sends opened
    rw [if_neg (Bool.eq_false_iff.mp going), List.append_nil] at whole
    rwa [whole]

/-- Two sources, and a place that notes all it is sent, with connections to it. -/
def noting (links : List (Nat × Nat)) : Draft Nat :=
  ⟨[.source "first" ⟨[], none⟩, .source "second" ⟨[], none⟩,
    .operator (Operators.recorder "sink" .never) 1], links, [0, 1]⟩

/-- Both sources are connected to the last place, and the second one ends first. -/
theorem finishes_unless_doubled_merging :
    (noting []).writeTo 2 [0, 1] = .ok (noting [(0, 2), (1, 2)]) ∧
      let sink : Fin (noting [(0, 2), (1, 2)]).parts.length := ⟨2, by decide⟩
      let operator := Operators.recorder "sink" (.never : Operators.Failures Nat)
      let messages := [.ended (some 1), .element 7, .ended (some 0)]
      (endings messages).Perm ((noting [(0, 2), (1, 2)]).wiring.origins sink) ∧
        ((Worker.start operator 2).run operator messages).worker.finished = true ∧
        ∃ asked, operator.log 2 messages = asked ++ [.finish] ∧ .finish ∉ asked := by
  refine ⟨rfl, ?_⟩
  intro sink operator messages
  have ended : (endings messages).Perm ((noting [(0, 2), (1, 2)]).wiring.origins sink) := by decide
  obtain ⟨finishes, closing, -⟩ :=
    finishes_unless_doubled (noting [(0, 2), (1, 2)]) sink operator (by decide) ended
  have finished := finishes.mpr (by decide)
  obtain ⟨asked, -, list, once, -⟩ := closing finished
  exact ⟨ended, finished, asked, list, once⟩

/-- A source that is connected to a place twice brings its end along both connections, and the place
waits for another: its operator is not asked for its last say and the end is not sent on. -/
theorem doubled_connection_never_ends :
    (noting []).writeTo 2 [0, 0] = .ok (noting [(0, 2), (0, 2)]) ∧
      let sink : Fin (noting [(0, 2), (0, 2)]).parts.length := ⟨2, by decide⟩
      let operator := Operators.recorder "sink" (.never : Operators.Failures Nat)
      let messages := [.element 7, .ended (some 0), .ended (some 0)]
      (endings messages).Perm ((noting [(0, 2), (0, 2)]).wiring.origins sink) ∧
        let run := (Worker.start operator ((noting [(0, 2), (0, 2)]).wiring.inputs sink)).run
          operator messages
        run.worker.finished = false ∧ run.outputs = [] ∧
          operator.log ((noting [(0, 2), (0, 2)]).wiring.inputs sink) messages = [.element 7] :=
  ⟨rfl, by decide, rfl, rfl, rfl⟩

end Draft

end FlightStream.Dataflow
