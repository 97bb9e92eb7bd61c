import FlightStream.Proofs.Dataflow.Flow

/-!
Draining a network. Where connections only lead upwards, no place is connected to another twice,
and every worker has an input, a network in which nothing can step is done: `Still` histories
have finished every place and left no message behind.
-/

namespace FlightStream.Dataflow

variable {n : Nat} {α : Type}

/-! ## Connections -/

theorem Wiring.sent_of_simple {w : Wiring n} (simple : ∀ i, (w.downstream i).Nodup) {i j : Fin n}
    (leads : j ∈ w.downstream i) (outputs : List (Output α)) :
    w.sent i j outputs = outputs.map (Output.from (some i.val)) :=
  sent_of_once (List.count_eq_one_of_mem (simple i) leads) outputs

/-- A place of a network that can drain: nothing leads to a source, and something to a worker. -/
inductive Role.Placed (w : Wiring n) (j : Fin n) : Role α → Prop
  | source {source : Source α} : (∀ i, j ∉ w.downstream i) → Placed w j (.source source)
  | worker {σ : Type} {operator : Operator α σ} : (∀ k ∈ w.downstream j, operator.KeepsOpen) →
      (∃ i, j ∈ w.downstream i) → Placed w j (.worker operator (.start operator (w.inputs j)))

theorem Role.Placed.opened {w : Wiring n} {j : Fin n} {role : Role α} (placed : role.Placed w j) :
    role.Opened w j := by
  cases placed with
  | source none => exact .source none
  | worker opened _ => exact .worker opened

/-- A network that drains: connections lead upwards and do not repeat, every inbox has room for a
message, and every place can finish. -/
structure Network.Drains (net : Network n α) (rank : Fin n → Nat) : Prop where
  fresh : net.Fresh
  ascending : ∀ i, ∀ j ∈ net.wiring.downstream i, rank i < rank j
  simple : ∀ i, (net.wiring.downstream i).Nodup
  room : ∀ i, 0 < (net.cell i).capacity
  placed : ∀ j, (net.cell j).role.Placed net.wiring j

theorem Network.Drains.flows {net : Network n α} {rank : Fin n → Nat} (drains : net.Drains rank) :
    net.Flows rank where
  fresh := drains.fresh
  ascending := drains.ascending
  opened j := (drains.placed j).opened

/-- Nothing can step, and no source rests. -/
structure History.Still (h : History n α) : Prop where
  stuck : ∀ i, h.network.canStep i = false
  awake : ∀ i source, (h.network.cell i).role = .source source → source.resting = false

/-! ## The end of the stream -/

namespace Consistent

variable {net : Network n α} {rank : Fin n → Nat} {h : History n α}

/-- Something leads to every worker. -/
theorem input_of_worker (consistent : Consistent net h) (drains : net.Drains rank) {j : Fin n}
    {σ : Type} {operator : Operator α σ} {w : Worker σ}
    (role : (h.network.cell j).role = .worker operator w) : ∃ i, j ∈ net.wiring.downstream i := by
  have ran := consistent.ran j
  have placed := drains.placed j
  rw [role] at ran
  generalize (net.cell j).role = start at ran placed
  generalize h.handled j = handled, h.emitted j = emitted, h.effects j = effects at ran
  cases ran with
  | worker ran =>
    cases placed with
    | worker _ input => exact input

theorem outbox_of_still (consistent : Consistent net h) (drains : net.Drains rank)
    (still : h.Still) (i : Fin n) : (h.network.cell i).outbox = [] :=
  consistent.outbox_of_stuck drains.flows still.stuck i

/-- With nothing waiting, a place has handled the end that a finished place sent it. -/
theorem ended_of_still (consistent : Consistent net h) (drains : net.Drains rank)
    (still : h.Still) {i j : Fin n} (leads : j ∈ net.wiring.downstream i)
    (finished : (h.network.cell i).role.isFinished = true)
    (empty : (h.network.cell j).inbox = []) : .ended (some i.val) ∈ h.handled j := by
  obtain ⟨before, -, sent⟩ := consistent.emitted_end drains.flows leads
  rw [finished, if_pos rfl] at sent
  have channel := consistent.channel i j
  rw [History.pending, consistent.outbox_of_still drains still i, List.filter_nil, List.map_nil,
    List.append_nil, Wiring.sent_of_simple drains.simple leads, sent] at channel
  have came : Output.ended.from (some i.val) ∈ h.receivedFrom i j := by
    rw [channel]
    exact List.mem_map.mpr ⟨.ended, List.mem_append_right _ (List.mem_singleton_self _), rfl⟩
  have handled : (h.received j).map (·.2) = h.handled j := by
    rw [consistent.inbox, empty, List.append_nil]
  obtain ⟨received, member, same⟩ := List.mem_map.mp came
  rw [← handled]
  exact List.mem_map.mpr ⟨received, List.mem_of_mem_filter member, same⟩

/-- Where nothing can step any more, every place has finished. -/
theorem finished_of_still (consistent : Consistent net h) (drains : net.Drains rank)
    (still : h.Still) (j : Fin n) : (h.network.cell j).role.isFinished = true := by
  induction j using (measure rank).wf.induction with
  | _ j ih =>
    have idle := still.stuck j
    simp only [Network.canStep, consistent.outbox_of_still drains still j] at idle
    cases role : (h.network.cell j).role with
    | source s =>
      rw [role] at idle
      simpa [Role.canAct, Source.canStep, Role.isFinished, still.awake j s role] using idle
    | worker operator w =>
      rw [role] at idle
      cases unfinished : w.finished with
      | true => exact unfinished
      | false =>
        have empty : (h.network.cell j).inbox = [] := by
          simpa [Role.canAct, unfinished] using idle
        have ends : ∀ i, j ∈ net.wiring.downstream i → .ended (some i.val) ∈ h.handled j :=
          fun i leads => consistent.ended_of_still drains still leads
            (ih i (drains.ascending i j leads)) empty
        have all : net.wiring.origins j ⊆ (endings (h.handled j)).dedup := by
          intro origin member
          obtain ⟨i, leads, rfl⟩ := Wiring.mem_origins.mp member
          exact List.mem_dedup.mpr (mem_endings.mpr (ends i leads))
        have distinct : (net.wiring.origins j).Nodup := Wiring.nodup_origins.mpr fun i =>
          List.nodup_iff_count_le_one.mp (drains.simple i) j
        -- So as many different inputs have ended as connections lead to the worker.
        obtain ⟨i, leads⟩ := consistent.input_of_worker drains role
        have finished := (consistent.isFinished_iff drains.flows leads).mpr
          (distinct.subperm all).length_le
        rwa [role] at finished

end Consistent

end FlightStream.Dataflow
