import FlightStream.Proofs.Dataflow.Connections
import FlightStream.Proofs.Dataflow.History
import Mathlib.Data.Fintype.Order
import Mathlib.Order.WellFounded

/-!
Networks in which connections only lead upwards, whether or not places are connected twice. A place
sends the end last, and a worker finishes only with the ends of all its connections; so nothing
waits for a finished worker, `Consistent.inbox_of_finished`, and where no place can step, nothing is
left to deliver, `Consistent.outbox_of_stuck`.
-/

namespace FlightStream.Dataflow

variable {n : Nat} {α : Type}

/-! ## Connections -/

theorem Wiring.sent_of_once {w : Wiring n} {i j : Fin n} (once : (w.downstream i).count j = 1)
    (outputs : List (Output α)) : w.sent i j outputs = outputs.map (Output.from (some i.val)) := by
  rw [sent, once]
  exact List.map_eq_flatMap.symm

/-- What comes along a connection carries the number of its sender. -/
theorem Wiring.of_mem_sent {w : Wiring n} {i j : Fin n} {outputs : List (Output α)}
    {message : Message α} (member : message ∈ w.sent i j outputs) :
    j ∈ w.downstream i ∧ ∃ output ∈ outputs, message = output.from (some i.val) := by
  obtain ⟨output, present, copy⟩ := List.mem_flatMap.mp member
  obtain ⟨some_, rfl⟩ := List.mem_replicate.mp copy
  exact ⟨List.count_pos_iff.mp (Nat.pos_of_ne_zero some_), output, present, rfl⟩

/-- A place where the end of the stream comes last: nothing leads to a source, and a worker with
others after it leaves the end to be sent when it finishes. -/
inductive Role.Opened (w : Wiring n) (j : Fin n) : Role α → Prop
  | source {source : Source α} : (∀ i, j ∉ w.downstream i) → Opened w j (.source source)
  | worker {σ : Type} {operator : Operator α σ} : (∀ k ∈ w.downstream j, operator.KeepsOpen) →
      Opened w j (.worker operator (.start operator (w.inputs j)))

/-- A network in which streams flow: connections lead upwards, and at every place the end comes
last. -/
structure Network.Flows (net : Network n α) (rank : Fin n → Nat) : Prop where
  fresh : net.Fresh
  ascending : ∀ i, ∀ j ∈ net.wiring.downstream i, rank i < rank j
  opened : ∀ j, (net.cell j).role.Opened net.wiring j

/-- A message may always wait where none does. -/
theorem Cell.hasRoom_of_empty {c : Cell n α} (empty : c.inbox = []) : c.hasRoom = true := by
  unfold hasRoom
  rw [empty, List.length_nil]
  cases c.capacity with
  | zero => rfl
  | succ more => simp

/-! ## The end of the stream -/

theorem eq_nil_of_append_eq {β : Type} {a : β} {before after whole : List β}
    (split : before ++ after = whole ++ [a]) (early : a ∈ before) (once : a ∉ whole) :
    after = [] := by
  rcases List.eq_nil_or_concat after with none | ⟨first, last, rfl⟩
  · exact none
  · rw [List.concat_eq_append, ← List.append_assoc] at split
    obtain ⟨same, -⟩ := List.append_inj' split rfl
    exact absurd (same ▸ List.mem_append_left _ early) once

namespace Consistent

variable {net : Network n α} {rank : Fin n → Nat} {h : History n α}

/-- A place sends the end once, when it finishes, and nothing after it. -/
theorem emitted_end (consistent : Consistent net h) (flows : net.Flows rank) {i j : Fin n}
    (leads : j ∈ net.wiring.downstream i) :
    ∃ before, .ended ∉ before ∧ h.emitted i =
      before ++ (if (h.network.cell i).role.isFinished then [.ended] else []) := by
  have ran := consistent.ran i
  have opened := flows.opened i
  generalize (net.cell i).role = start at ran opened
  generalize (h.network.cell i).role = now at ran ⊢
  generalize h.handled i = handled, h.emitted i = emitted, h.effects i = effects at ran ⊢
  cases ran with
  | source took =>
    obtain ⟨-, taken, -, sent⟩ := took
    exact ⟨_, by simp, sent⟩
  | @worker σ operator before now handled emitted effects ran =>
    cases opened with
    | worker opened =>
      have sent := (Worker.ended_run operator (net.wiring.inputs i) handled).sent (opened j leads)
      rw [ran] at sent
      exact sent

/-- Whatever a place received came along a connection. -/
theorem of_mem_received (consistent : Consistent net h) {i j : Fin n} {message : Message α}
    (member : (i, message) ∈ h.received j) :
    j ∈ net.wiring.downstream i ∧
      ∃ output ∈ h.emitted i, message = output.from (some i.val) := by
  have own : message ∈ h.receivedFrom i j :=
    List.mem_map.mpr ⟨_, List.mem_filter.mpr ⟨member, by simp⟩, rfl⟩
  have sent : message ∈ net.wiring.sent i j (h.emitted i) := by
    rw [← consistent.channel i j]
    exact List.mem_append_left _ own
  exact Wiring.of_mem_sent sent

/-- Once a place has handled the end of an input with one connection to it, nothing of that input is
left. -/
theorem nothing_after_end (consistent : Consistent net h) (flows : net.Flows rank) {i j : Fin n}
    (single : (net.wiring.downstream i).count j = 1) (ended : .ended (some i.val) ∈ h.handled j) :
    (∀ received ∈ (h.received j).drop (h.handled j).length, received.1 ≠ i) ∧
      h.pending i j = [] := by
  have taken : ((h.received j).take (h.handled j).length).map (·.2) = h.handled j := by
    rw [List.map_take, consistent.inbox j]
    exact List.take_left
  rw [← taken] at ended
  obtain ⟨⟨sender, message⟩, early, same⟩ := List.mem_map.mp ended
  cases same
  obtain ⟨leads, output, present, same⟩ := consistent.of_mem_received (List.mem_of_mem_take early)
  have own : sender = i ∧ output = .ended := by
    cases output with
    | element value => cases same
    | watermark time => cases same
    | ended =>
      simp only [Output.from, Message.ended.injEq, Option.some.injEq] at same
      exact ⟨Fin.ext same.symm, rfl⟩
  obtain ⟨rfl, rfl⟩ := own
  obtain ⟨before, once, sent⟩ := consistent.emitted_end flows leads
  have finished : (h.network.cell sender).role.isFinished = true := by
    cases finished : (h.network.cell sender).role.isFinished with
    | true => rfl
    | false =>
      rw [finished] at sent
      rw [sent] at present
      exact absurd (by simpa using present) once
  rw [finished, if_pos rfl] at sent
  have channel := consistent.channel sender j
  rw [Wiring.sent_of_once single, sent, List.map_append,
    History.receivedFrom, ← List.take_append_drop (h.handled j).length (h.received j),
    List.filter_append, List.map_append, List.append_assoc] at channel
  have first : Message.ended (some sender.val) ∈
      (((h.received j).take (h.handled j).length).filter fun r => r.1 = sender).map (·.2) :=
    List.mem_map.mpr ⟨_, List.mem_filter.mpr ⟨early, by simp⟩, rfl⟩
  have fresh : Message.ended (some sender.val) ∉ before.map (Output.from (some sender.val)) := by
    intro member
    obtain ⟨output, present, same⟩ := List.mem_map.mp member
    cases output with
    | element value => cases same
    | watermark time => cases same
    | ended => exact once present
  obtain ⟨waiting, pending⟩ := List.append_eq_nil_iff.mp (eq_nil_of_append_eq channel first fresh)
  refine ⟨fun received member same => ?_, pending⟩
  rw [List.map_eq_nil_iff, List.filter_eq_nil_iff] at waiting
  exact waiting received member (by simpa using same)

/-- The end of an input that a place handled is that of a place which leads to it. -/
theorem upstream_of_ended (consistent : Consistent net h) {j : Fin n} {origin : Origin}
    (handled : .ended origin ∈ h.handled j) :
    ∃ i, j ∈ net.wiring.downstream i ∧ origin = some i.val := by
  have received : Message.ended origin ∈ (h.received j).map (·.2) := by
    rw [consistent.inbox]
    exact List.mem_append_left _ handled
  obtain ⟨⟨i, message⟩, member, same⟩ := List.mem_map.mp received
  cases same
  obtain ⟨leads, output, -, same⟩ := consistent.of_mem_received member
  cases output with
  | element value => cases same
  | watermark time => cases same
  | ended =>
    cases same
    exact ⟨i, leads, rfl⟩

/-- A place to which another leads has finished once as many different inputs have ended as
connections lead to it. -/
theorem isFinished_iff (consistent : Consistent net h) (flows : net.Flows rank) {i j : Fin n}
    (leads : j ∈ net.wiring.downstream i) : (h.network.cell j).role.isFinished = true ↔
      (net.wiring.origins j).length ≤ (endings (h.handled j)).dedup.length := by
  have some_ : 1 ≤ net.wiring.inputs j := by
    rw [← Wiring.length_origins]
    exact List.length_pos_of_mem (Wiring.mem_origins.mpr ⟨i, leads, rfl⟩)
  have ran := consistent.ran j
  have opened := flows.opened j
  rw [Wiring.length_origins]
  generalize (net.cell j).role = start at ran opened
  generalize (h.network.cell j).role = now at ran ⊢
  generalize h.handled j = handled, h.emitted j = emitted, h.effects j = effects at ran ⊢
  cases opened with
  | source none => exact absurd leads (none i)
  | @worker _ operator _ =>
    cases ran with
    | worker ran =>
      have finished := Worker.finished_iff operator (net.wiring.inputs j) handled
      rwa [ran, Nat.max_eq_right some_] at finished

/-- To a finished worker no place is connected twice, and it has handled the ends of all of them. -/
theorem once_of_finished (consistent : Consistent net h) (flows : net.Flows rank) {i j : Fin n}
    (leads : j ∈ net.wiring.downstream i) (finished : (h.network.cell j).role.isFinished = true) :
    (net.wiring.downstream i).count j = 1 ∧ .ended (some i.val) ∈ h.handled j := by
  have known : (endings (h.handled j)).dedup ⊆ net.wiring.origins j := fun origin member =>
    Wiring.mem_origins.mpr (consistent.upstream_of_ended (mem_endings.mp (List.mem_dedup.mp member)))
  -- As many different ends as connections are the ends of all connections.
  have same := ((List.nodup_dedup _).subperm known).perm_of_length_le
    ((consistent.isFinished_iff flows leads).mp finished)
  have most := Wiring.nodup_origins.mp (same.nodup (List.nodup_dedup _)) i
  refine ⟨Nat.le_antisymm most (List.count_pos_iff.mpr leads), mem_endings.mp ?_⟩
  exact List.mem_dedup.mp (same.symm.subset (Wiring.mem_origins.mpr ⟨i, leads, rfl⟩))

/-- Nothing waits for a finished place. -/
theorem inbox_of_finished (consistent : Consistent net h) (flows : net.Flows rank) {j : Fin n}
    (finished : (h.network.cell j).role.isFinished = true) : (h.network.cell j).inbox = [] := by
  have waiting : ((h.received j).drop (h.handled j).length).map (·.2) =
      (h.network.cell j).inbox := by
    rw [List.map_drop, consistent.inbox j]
    exact List.drop_left
  rw [← waiting, List.map_eq_nil_iff, List.eq_nil_iff_forall_not_mem]
  rintro ⟨i, message⟩ member
  obtain ⟨leads, -⟩ := consistent.of_mem_received (List.mem_of_mem_drop member)
  obtain ⟨single, ended⟩ := consistent.once_of_finished flows leads finished
  exact (consistent.nothing_after_end flows single ended).1 _ member rfl

/-- Where no place can step, nothing is left to deliver: the highest place with something to deliver
would send it to a full inbox, which nobody empties only if the place there has finished. -/
theorem outbox_of_stuck (consistent : Consistent net h) (flows : net.Flows rank)
    (stuck : ∀ i, h.network.canStep i = false) (i : Fin n) : (h.network.cell i).outbox = [] := by
  have above : WellFounded fun j i : Fin n => rank i < rank j := by
    have : IsTrans (Fin n) fun j i => rank i < rank j := ⟨fun _ _ _ ba cb => cb.trans ba⟩
    have : Std.Irrefl fun j i : Fin n => rank i < rank j := ⟨fun _ => lt_irrefl _⟩
    exact Finite.wellFounded_of_trans_of_irrefl _
  induction i using above.induction with
  | _ i ih =>
    by_contra waiting
    obtain ⟨⟨j, message⟩, rest, outbox⟩ := List.exists_cons_of_ne_nil waiting
    have blocked := stuck i
    simp only [Network.canStep, outbox] at blocked
    have full : (h.network.cell j).inbox ≠ [] := by
      intro empty
      rw [Cell.hasRoom_of_empty empty] at blocked
      cases blocked
    have leads : j ∈ net.wiring.downstream i := by
      have sent : message ∈ net.wiring.sent i j (h.emitted i) := by
        rw [← consistent.channel i j]
        exact List.mem_append_right _ (by simp [History.pending, outbox])
      exact (Wiring.of_mem_sent sent).1
    have idle := stuck j
    simp only [Network.canStep, ih j (flows.ascending i j leads)] at idle
    have finished : (h.network.cell j).role.isFinished = true := by
      have opened := flows.opened j
      have ran := consistent.ran j
      generalize (net.cell j).role = start at ran opened
      generalize (h.network.cell j).role = now at ran idle ⊢
      generalize h.handled j = handled, h.emitted j = emitted, h.effects j = effects at ran
      cases opened with
      | source none => exact absurd leads (none i)
      | worker opened =>
        cases ran with
        | worker ran =>
          simpa [Role.canAct, Role.isFinished, full] using idle
    exact full (consistent.inbox_of_finished flows finished)

end Consistent

end FlightStream.Dataflow
