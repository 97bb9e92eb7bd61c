import FlightStream.Dataflow.Draft
import FlightStream.Proofs.Dataflow.Drain
import FlightStream.Proofs.Dataflow.Hooks
import FlightStream.Proofs.Dataflow.Operators
import FlightStream.Proofs.Dataflow.Termination
import Mathlib.Data.Set.Card
import Mathlib.Tactic.FinCases

/-!
Pipelines drain without deadlock. `Draft.Pipeline` is what makes a draft a pipeline: its connections
run in no circle and do not repeat, its sources reach all of its places and nothing leads to them,
and at least one message may wait at every place. However the places then take their steps and
wherever the sources end, something can step as long as a place is not done, `Reached.active`; and
when all places are done, every worker has handled what its upstreams sent it, each upstream's
messages in their order, and then had the last say of its operator once, `Reached.drained`.

The height of a place, the number of places that lead to it directly or not, stands for the rank
that draining goes by.
-/

namespace FlightStream.Dataflow

variable {n : Nat} {α : Type}

/-! ## Height -/

/-- One place sends to another. -/
def Wiring.Leads (w : Wiring n) (i j : Fin n) : Prop := j ∈ w.downstream i

instance (w : Wiring n) (i j : Fin n) : Decidable (w.Leads i j) :=
  inferInstanceAs (Decidable (j ∈ w.downstream i))

/-- The number of places that lead to a place, directly or through others. -/
noncomputable def Wiring.height (w : Wiring n) (j : Fin n) : Nat :=
  {i | Relation.TransGen w.Leads i j}.ncard

/-- Without circles a place is higher than those that lead to it. -/
theorem Wiring.height_lt {w : Wiring n} (acyclic : ∀ i, ¬Relation.TransGen w.Leads i i)
    {i j : Fin n} (leads : w.Leads i j) : w.height i < w.height j := by
  refine Set.ncard_lt_ncard ⟨fun k before => before.tail leads, fun all => ?_⟩ (Set.toFinite _)
  exact acyclic i (all (Relation.TransGen.single leads))

/-- Connections that only lead to later places run in no circle. -/
theorem Wiring.acyclic_of_upward {w : Wiring n} (upward : ∀ i, ∀ j ∈ w.downstream i, i < j)
    (i : Fin n) : ¬Relation.TransGen w.Leads i i := by
  have climbs : ∀ {i j}, Relation.TransGen w.Leads i j → i < j := by
    intro i j run
    induction run with
    | single leads => exact upward _ _ leads
    | tail _ leads ih => exact ih.trans (upward _ _ leads)
  exact fun circle => lt_irrefl _ (climbs circle)

/-! ## Pipelines -/

/-- A draft that is a pipeline. Only sources are read from, they reach every place, and nothing
leads to a source; connections run in no circle and none is made twice; some message may wait at
every operator; and the end of the stream is left to the worker, no operator with others after it
sends it on its own account. -/
structure Draft.Pipeline (d : Draft α) : Prop where
  acyclic : ∀ i, ¬Relation.TransGen d.wiring.Leads i i
  simple : ∀ i, (d.wiring.downstream i).Nodup
  reached : ∀ j, ∃ i ∈ d.wiring.sources, Relation.ReflTransGen d.wiring.Leads i j
  entry : ∀ i ∈ d.wiring.sources, ∃ name script, d.parts.get i = .source name script
  first : ∀ i name script, d.parts.get i = .source name script → ∀ k, ¬d.wiring.Leads k i
  room : ∀ (i : Fin d.parts.length) {σ : Type} (operator : Operator α σ) capacity,
    d.parts.get i = .operator operator capacity → 1 ≤ capacity
  keepsOpen : ∀ (i : Fin d.parts.length) {σ : Type} (operator : Operator α σ) capacity,
    d.parts.get i = .operator operator capacity → ∀ j, d.wiring.Leads i j → operator.KeepsOpen

namespace Draft

variable {d : Draft α}

theorem cell_network (d : Draft α) (i : Fin d.parts.length) : d.network.cell i =
    ⟨(d.parts.get i).role (d.wiring.inputs i), [], (d.parts.get i).capacity, []⟩ := by
  simp [network, Network.cell]

theorem role_of_operator {j : Fin d.parts.length} {σ : Type} {operator : Operator α σ}
    {capacity : Nat} (part : d.parts.get j = .operator operator capacity) :
    (d.network.cell j).role = .worker operator (.start operator (d.wiring.inputs j)) := by
  rw [cell_network, part]
  rfl

/-- Pipelines drain, by the height of their places. -/
theorem Pipeline.drains (pipeline : d.Pipeline) : d.network.Drains d.wiring.height where
  fresh := by
    refine ⟨fun i => ?_, fun i => ?_, fun i => ?_⟩
    · rw [cell_network]
    · rw [cell_network]
    · rw [cell_network]
      cases d.parts.get i <;> rfl
  ascending _ _ leads := Wiring.height_lt pipeline.acyclic leads
  simple := pipeline.simple
  room i := by
    rw [cell_network]
    cases part : d.parts.get i with
    | source name script => exact Nat.zero_lt_succ 99
    | operator operator capacity => exact pipeline.room i operator capacity part
  placed i := by
    rw [cell_network]
    cases part : d.parts.get i with
    | source name script => exact .source (pipeline.first i name script part)
    | operator operator capacity =>
      refine .worker (pipeline.keepsOpen i operator capacity part) ?_
      obtain ⟨source, read, reached⟩ := pipeline.reached i
      cases reached with
      | refl =>
        obtain ⟨name, script, other⟩ := pipeline.entry i read
        rw [part] at other
        cases other
      | tail _ leads => exact ⟨_, leads⟩

end Draft

/-! ## Progress -/

/-- A place is done once it has finished and delivered all that it had to send. -/
def History.Done (h : History n α) (i : Fin n) : Prop :=
  (h.network.cell i).role.isFinished = true ∧ (h.network.cell i).outbox = []

/-- Changing the sources changes nothing for a place that stays as it is. -/
theorem Network.canStep_mapSources (f : Source α → Source α) (net : Network n α) {i : Fin n}
    (same : (net.cell i).role.mapSource f = (net.cell i).role) :
    (net.mapSources f).canStep i = net.canStep i := by
  unfold canStep
  rw [cell_mapSources, same]
  cases (net.cell i).outbox with
  | nil => rfl
  | cons first rest =>
    simp only [cell_mapSources]
    rfl

theorem Source.wake_of_awake {s : Source α} (awake : s.resting = false) : s.wake = s := by
  unfold wake
  rw [← awake]

/-- A finished worker does not act. -/
theorem Role.unfinished_of_act {σ : Type} {operator : Operator α σ} {w : Worker σ}
    {inbox : List (Message α)} {act : Act α} (acted : (worker operator w).act? inbox = some act) :
    w.finished = false := by
  cases finished : w.finished with
  | false => rfl
  | true => simp [act?, finished] at acted

namespace Reached

variable {net : Network n α} {rank : Fin n → Nat} {h : History n α}

/-- As long as a place is not done, some place can step, or a source that rests can step once it is
woken. -/
theorem active (drains : net.Drains rank) (reached : Reached net h) {i : Fin n}
    (left : ¬h.Done i) :
    (∃ j, h.network.canStep j = true) ∨ ∃ j source, (h.network.cell j).role = .source source ∧
      source.resting = true ∧ (h.network.mapSources Source.wake).canStep j = true := by
  by_contra idle
  obtain ⟨stuck, asleep⟩ := not_or.mp idle
  have woken := reached.wake
  have consistent := woken.consistent drains.fresh
  have still : History.Still { h with network := h.network.mapSources Source.wake } := by
    refine ⟨fun j => ?_, fun j source role => ?_⟩
    · rw [← Bool.not_eq_true]
      intro able
      cases role : (h.network.cell j).role with
      | source source =>
        cases resting : source.resting with
        | true => exact asleep ⟨j, source, role, resting, able⟩
        | false =>
          refine stuck ⟨j, ?_⟩
          rwa [← Network.canStep_mapSources Source.wake]
          rw [role, Role.mapSource, Source.wake_of_awake resting]
      | worker operator w =>
        refine stuck ⟨j, ?_⟩
        rwa [← Network.canStep_mapSources Source.wake]
        rw [role, Role.mapSource]
    · rw [Network.cell_mapSources] at role
      cases own : (h.network.cell j).role with
      | source s =>
        rw [own] at role
        cases role
        rfl
      | worker operator w =>
        rw [own] at role
        cases role
  refine left ⟨?_, ?_⟩
  · have finished := consistent.finished_of_still drains still i
    rw [Network.cell_mapSources] at finished
    cases role : (h.network.cell i).role <;> rw [role] at finished <;> exact finished
  · have empty := consistent.outbox_of_still drains still i
    rwa [Network.cell_mapSources] at empty

/-- A worker takes no message once it has finished. -/
theorem prompt (fresh : net.Fresh) (reached : Reached net h) {j : Fin n} {σ : Type}
    {operator : Operator α σ} {before : Worker σ}
    (role : (net.cell j).role = .worker operator before) :
    ∀ earlier, earlier <+: h.handled j → earlier ≠ h.handled j →
      (before.run operator earlier).worker.finished = false := by
  induction reached with
  | start => exact fun earlier initial apart => absurd (List.prefix_nil.mp initial) apart
  | stop _ ih => exact ih
  | wake _ ih => exact ih
  | @step h next i reached stepped ih =>
    rcases History.step?_cases stepped with
      ⟨k, message, rest, -, -, rfl⟩ | ⟨act, -, acted, rfl⟩
    · exact ih
    · by_cases same : i = j
      · subst same
        have ran := (reached.consistent fresh).ran i
        rw [role] at ran
        obtain ⟨w, now, run⟩ := ran.of_worker
        rw [now] at acted
        have handled : (h.act i act).handled i =
            h.handled i ++ (h.network.cell i).inbox.take 1 := by
          simp [History.act, now, Role.taken]
        rw [handled]
        cases inbox : (h.network.cell i).inbox with
        | nil => simpa using ih
        | cons message rest =>
          intro earlier initial apart
          rcases List.prefix_concat_iff.mp initial with whole | initial
          · exact absurd whole apart
          · by_cases all : earlier = h.handled i
            · rw [all, run]
              exact Role.unfinished_of_act acted
            · exact ih earlier initial all
      · have handled : (h.act i act).handled j = h.handled j := by
          simp [History.act, Function.update_of_ne (Ne.symm same)]
        rw [handled]
        exact ih

/-- When a place is done and what leads to it as well, it has handled what it received, and has
received from each upstream what that sent. -/
theorem drained (drains : net.Drains rank) (reached : Reached net h) (done : ∀ i, h.Done i)
    (j : Fin n) :
    (h.network.cell j).inbox = [] ∧ (h.received j).map (·.2) = h.handled j ∧
      ∀ i, net.wiring.Leads i j →
        h.receivedFrom i j = (h.emitted i).map (Output.from (some i.val)) := by
  have consistent := reached.consistent drains.fresh
  have empty := consistent.inbox_of_finished drains.flows (done j).1
  refine ⟨empty, by rw [consistent.inbox, empty, List.append_nil], fun i leads => ?_⟩
  rw [← Wiring.sent_of_simple drains.simple leads, ← consistent.channel i j, History.pending,
    (done i).2, List.filter_nil, List.map_nil, List.append_nil]

/-- A worker that is done was asked to handle every element that it took, and then for the last say
of its operator, once. -/
theorem finish_last (drains : net.Drains rank) (reached : Reached net h) {j : Fin n} {σ : Type}
    {operator : Operator α σ} {inputs : Nat}
    (role : (net.cell j).role = .worker operator (.start operator inputs)) (done : h.Done j) :
    ∃ before, operator.log inputs (h.handled j) = before ++ [.finish] ∧ .finish ∉ before ∧
      before.filterMap Hook.element? = (h.handled j).filterMap Message.element? := by
  have asked := Worker.asked_run (reached.prompt drains.fresh role)
  have finished : (operator.logRun inputs (h.handled j)).worker.finished = true := by
    have ran := (reached.consistent drains.fresh).ran j
    rw [role] at ran
    obtain ⟨w, now, run⟩ := ran.of_worker
    have finished := done.1
    rw [now] at finished
    rw [operator.finished_logRun, run]
    exact finished
  obtain ⟨before, list, once⟩ := asked.last finished
  refine ⟨before, list, once, ?_⟩
  rw [← asked.elements, list, List.filterMap_append]
  exact (List.append_nil _).symm

end Reached

namespace Draft

/-- A pipeline drains without deadlock. Whatever the room at its places, however many turns its
sources take, whether they finish, fail or are stopped, and in whatever order places take their
steps: as long as a place is not done, some place can step, or a source that rests can once it is
woken; and when all places are done, no message waits anywhere, and every operator has handled what
it received, which is from each upstream all that this sent, in its order, and has then had its
last say once, after the last element. -/
theorem drains_without_deadlock {d : Draft α} (pipeline : d.Pipeline)
    {h : History d.parts.length α} (reached : Reached d.network h) :
    ((∃ i, ¬h.Done i) → (∃ j, h.network.canStep j = true) ∨
      ∃ j source, (h.network.cell j).role = .source source ∧ source.resting = true ∧
        (h.network.mapSources Source.wake).canStep j = true) ∧
    ((∀ i, h.Done i) → ∀ j, (h.network.cell j).inbox = [] ∧
      ∀ {σ : Type} (operator : Operator α σ) (capacity : Nat),
        d.parts.get j = .operator operator capacity →
        (h.received j).map (·.2) = h.handled j ∧
        (∀ i, d.wiring.Leads i j →
          h.receivedFrom i j = (h.emitted i).map (Output.from (some i.val))) ∧
        ∃ before, operator.log (d.wiring.inputs j) (h.handled j) = before ++ [.finish] ∧
          .finish ∉ before ∧
          before.filterMap Hook.element? = (h.handled j).filterMap Message.element?) := by
  have drains := pipeline.drains
  refine ⟨fun ⟨i, left⟩ => reached.active drains left, fun done j => ?_⟩
  obtain ⟨empty, handled, received⟩ := reached.drained drains done j
  refine ⟨empty, fun operator capacity part => ⟨handled, received, ?_⟩⟩
  exact reached.finish_last drains (role_of_operator part) (done j)

/-- A source of two numbers whose feed then breaks, two operators after it, and one that collects
what both send; one message may wait at each. -/
def diamond : Draft Int :=
  ⟨[.source "feed" ⟨[⟨[1, 2], [], true⟩], some .divisionByZero⟩,
      .operator (Operators.map "double" fun value => .ok (some (2 * value))) 1,
      .operator (Operators.filter "odd" fun value => .ok (value % 2 == 1)) 1,
      .operator (Operators.collector "all" none) 1],
    [(0, 1), (0, 2), (1, 3), (2, 3)], [0]⟩

instance : NeZero diamond.parts.length := ⟨by decide⟩

theorem diamond_pipeline : diamond.Pipeline where
  acyclic := Wiring.acyclic_of_upward (by decide)
  simple := by decide
  reached j := by
    have one : diamond.wiring.Leads 0 1 := by decide
    have two : diamond.wiring.Leads 0 2 := by decide
    have three : diamond.wiring.Leads 1 3 := by decide
    refine ⟨0, by decide, ?_⟩
    fin_cases j
    · exact .refl
    · exact .single one
    · exact .single two
    · exact .tail (.single one) three
  entry i read := by
    have only : i = 0 := by
      revert i
      decide
    subst only
    exact ⟨_, _, rfl⟩
  first i name script part := by
    fin_cases i
    · decide
    all_goals cases part
  room i σ operator capacity part := by
    fin_cases i <;> cases part <;> exact Nat.le_refl 1
  keepsOpen i σ operator capacity part j leads := by
    have last : ∀ j, ¬diamond.wiring.Leads 3 j := by decide
    fin_cases i <;> cases part
    · exact Operators.keepsOpen_perElement _ _
    · exact Operators.keepsOpen_perElement _ _
    · exact absurd leads (last j)

/-- The diamond can step before its start, and some run of it is done in the end, at which the last
operator has handled all that both before it sent. -/
theorem drains_without_deadlock_diamond :
    ((∃ i, ¬(History.start diamond.network).Done i) →
      (∃ j, diamond.network.canStep j = true) ∨
      ∃ j source, (diamond.network.cell j).role = .source source ∧ source.resting = true ∧
        (diamond.network.mapSources Source.wake).canStep j = true) ∧
    ∃ h, Reached diamond.network h ∧ (∀ i, h.Done i) ∧ (h.network.cell 3).inbox = [] ∧
      h.receivedFrom 1 3 = (h.emitted 1).map (Output.from (some 1)) ∧
      h.receivedFrom 2 3 = (h.emitted 2).map (Output.from (some 2)) ∧
      ∃ before, (Operators.collector "all" none : Operator Int Nat).log
          (diamond.wiring.inputs 3) (h.handled 3) = before ++ [.finish] ∧ .finish ∉ before := by
  refine ⟨(drains_without_deadlock diamond_pipeline .start).1, ?_⟩
  obtain ⟨h, moves, still⟩ := Reached.start.exists_still diamond_pipeline.drains
  have reached := Reached.start.run moves
  have consistent := reached.consistent diamond_pipeline.drains.fresh
  have done : ∀ i, h.Done i := fun i =>
    ⟨consistent.finished_of_still diamond_pipeline.drains still i,
      consistent.outbox_of_still diamond_pipeline.drains still i⟩
  obtain ⟨empty, worker⟩ := (drains_without_deadlock diamond_pipeline reached).2 done 3
  obtain ⟨-, received, before, list, once, -⟩ := worker _ 1 rfl
  exact ⟨h, reached, done, empty, received 1 (by decide), received 2 (by decide), before, list,
    once⟩

end Draft

end FlightStream.Dataflow
