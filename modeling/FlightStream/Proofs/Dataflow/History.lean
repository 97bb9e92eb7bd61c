import FlightStream.Dataflow.Runner
import Mathlib.Data.List.Basic
import Mathlib.Logic.Function.Basic

/-!
What the places of a network have done. A history goes with a network and keeps, for each place,
what was put into its inbox, what it took from there, and what it sent and did. Its steps are
those of the network, in any order, `step?_network`. `Reached` histories are `Consistent`: what
was received is what was taken and what waits, channels lose, repeat and reorder nothing, and a
worker is where its run over the messages it took has led it.
-/

namespace FlightStream.Dataflow

/-! ## Places -/

namespace Network

variable {n : Nat} {α : Type}

@[simp] theorem wiring_put (net : Network n α) (i : Fin n) (c : Cell n α) :
    (net.put i c).wiring = net.wiring := rfl

theorem cell_put (net : Network n α) (i j : Fin n) (c : Cell n α) :
    (net.put i c).cell j = if i = j then c else net.cell j := by
  unfold put cell
  by_cases same : i = j
  · subst same
    simp
  · have apart : i.val ≠ j.val := fun equal => same (Fin.ext equal)
    simp [same, apart]

@[simp] theorem cell_put_self (net : Network n α) (i : Fin n) (c : Cell n α) :
    (net.put i c).cell i = c := by
  rw [cell_put, if_pos rfl]

theorem cell_mapSources (f : Source α → Source α) (net : Network n α) (i : Fin n) :
    (net.mapSources f).cell i = { net.cell i with role := (net.cell i).role.mapSource f } := by
  simp [mapSources, cell]

end Network

/-! ## Histories -/

theorem Role.isSome_act? {α : Type} (inbox : List (Message α)) (role : Role α) :
    (role.act? inbox).isSome = role.canAct inbox := by
  cases role with
  | source s => cases able : s.canStep <;> simp [act?, canAct, able]
  | worker operator w => cases finished : w.finished <;> cases inbox <;> simp [act?, canAct, finished]

/-- The element, if a message is one. -/
def Message.element? {α : Type} : Message α → Option α
  | element value => some value
  | _ => none

/-- The messages that a place takes from its inbox in its next step. -/
def Role.taken {α : Type} (inbox : List (Message α)) : Role α → List (Message α)
  | source _ => []
  | worker _ _ => inbox.take 1

/-- A network, and what its places have done: the messages put into each inbox with their
senders, the messages taken from it, and what the place sent and did outside the network. -/
structure History (n : Nat) (α : Type) : Type 1 where
  network : Network n α
  received : Fin n → List (Fin n × Message α)
  handled : Fin n → List (Message α)
  emitted : Fin n → List (Output α)
  effects : Fin n → List (Effect α)

namespace History

variable {n : Nat} {α : Type}

/-- A network in which nothing has happened. -/
def start (net : Network n α) : History n α :=
  ⟨net, fun _ => [], fun _ => [], fun _ => [], fun _ => []⟩

/-- A place delivers the first message that it has to send. -/
def deliver (h : History n α) (i j : Fin n) (message : Message α)
    (rest : List (Fin n × Message α)) : History n α :=
  { h with
    network := (h.network.put i { h.network.cell i with outbox := rest }).deliver j message
    received := Function.update h.received j (h.received j ++ [(i, message)]) }

/-- A place takes the next thing to do. -/
def act (h : History n α) (i : Fin n) (act : Act α) : History n α :=
  { h with
    network := h.network.put i { h.network.cell i with
      role := act.role, inbox := act.inbox, outbox := h.network.messages i act.outputs }
    handled := Function.update h.handled i
      (h.handled i ++ (h.network.cell i).role.taken (h.network.cell i).inbox)
    emitted := Function.update h.emitted i (h.emitted i ++ act.outputs)
    effects := Function.update h.effects i (h.effects i ++ act.effects) }

/-- The step of a place, if it can step. -/
def step? (h : History n α) (i : Fin n) : Option (History n α) :=
  match (h.network.cell i).outbox with
  | (j, message) :: rest =>
    if (h.network.cell j).hasRoom then some (h.deliver i j message rest) else none
  | [] => ((h.network.cell i).role.act? (h.network.cell i).inbox).map (h.act i)

/-- The network steps just as its history does. -/
theorem step?_network (h : History n α) (i : Fin n) :
    (h.step? i).map (·.network) = (h.network.step? i).map (·.network) := by
  cases waiting : (h.network.cell i).outbox with
  | cons first rest =>
    obtain ⟨j, message⟩ := first
    simp only [step?, Network.step?, waiting]
    split <;> rfl
  | nil =>
    simp only [step?, Network.step?, waiting]
    cases (h.network.cell i).role.act? (h.network.cell i).inbox <;> rfl

/-- A place has a step exactly when it can step. -/
theorem isSome_step? (h : History n α) (i : Fin n) :
    (h.step? i).isSome = h.network.canStep i := by
  cases waiting : (h.network.cell i).outbox with
  | cons first rest =>
    obtain ⟨j, message⟩ := first
    simp only [step?, Network.canStep, waiting]
    cases (h.network.cell j).hasRoom <;> rfl
  | nil =>
    simp only [step?, Network.canStep, waiting, Option.isSome_map]
    exact Role.isSome_act? _ _

/-- All that a step can do. -/
theorem step?_cases {h next : History n α} {i : Fin n} (stepped : h.step? i = some next) :
    (∃ j message rest, (h.network.cell i).outbox = (j, message) :: rest ∧
        (h.network.cell j).hasRoom = true ∧ next = h.deliver i j message rest) ∨
      ∃ act, (h.network.cell i).outbox = [] ∧
        (h.network.cell i).role.act? (h.network.cell i).inbox = some act ∧
        next = h.act i act := by
  unfold step? at stepped
  split at stepped
  · rename_i j message rest waiting
    split at stepped
    · rename_i room
      cases stepped
      exact .inl ⟨j, message, rest, waiting, room, rfl⟩
    · cases stepped
  · rename_i empty
    obtain ⟨act, acted, rfl⟩ := Option.map_eq_some_iff.mp stepped
    exact .inr ⟨act, empty, acted, rfl⟩

end History

/-- The histories of a network: its places step in any order, and at any time the sources may be
asked to stop or be woken. -/
inductive Reached {n : Nat} {α : Type} (net : Network n α) : History n α → Prop
  | start : Reached net (.start net)
  | step {h next : History n α} (i : Fin n) :
      Reached net h → h.step? i = some next → Reached net next
  | stop {h : History n α} :
      Reached net h → Reached net { h with network := h.network.stop }
  | wake {h : History n α} :
      Reached net h → Reached net { h with network := h.network.mapSources Source.wake }

/-! ## What a place has done -/

namespace Worker

variable {α σ : Type} (operator : Operator α σ) (w : Worker σ)

/-- One message more is handled, unless the worker has finished. -/
theorem run_concat (messages : List (Message α)) (message : Message α) :
    w.run operator (messages ++ [message]) =
      if (w.run operator messages).worker.finished then w.run operator messages
      else
        ⟨((w.run operator messages).worker.step operator message).worker,
          (w.run operator messages).outputs ++
            ((w.run operator messages).worker.step operator message).outputs,
          (w.run operator messages).effects ++
            ((w.run operator messages).worker.step operator message).effects⟩ := by
  induction messages generalizing w with
  | nil =>
    cases finished : w.finished <;> simp [run, finished]
  | cons first rest ih =>
    cases finished : w.finished with
    | true => simp [run, finished]
    | false =>
      cases done : ((w.step operator first).worker.run operator rest).worker.finished <;>
        simp [run, finished, ih, done]

end Worker

/-- A source has sent the elements of the turns that it took, and the end once it finished. -/
structure Source.Took {α : Type} (before now : Source α) (emitted : List (Output α)) : Prop where
  failure : now.script.failure = before.script.failure
  turns : ∃ taken : List (Turn α), before.script.turns = taken ++ now.script.turns ∧
    emitted = ((taken.flatMap (·.outputs)).map .element) ++ (if now.finished then [.ended] else [])

theorem Source.Took.step {α : Type} {before now : Source α} {emitted : List (Output α)}
    (took : before.Took now emitted) (able : now.canStep = true) :
    before.Took now.step.1 (emitted ++ now.step.2.1) := by
  have unfinished : now.finished = false := by
    simp only [canStep, Bool.and_eq_true, Bool.not_eq_true'] at able
    exact able.1
  obtain ⟨failure, taken, turns, sent⟩ := took
  rw [unfinished] at sent
  unfold Source.step
  split
  · exact ⟨failure, taken, turns, by simp [sent, unfinished]⟩
  · split
    · exact ⟨failure, taken, turns, by simp [sent, finish]⟩
    · cases left : now.script.turns with
      | nil => exact ⟨failure, taken, by simp [turns, left, finish], by simp [sent, finish]⟩
      | cons turn rest =>
        exact ⟨failure, taken ++ [turn], by simp [turns, left], by simp [sent, unfinished]⟩

/-- What led a role from its start to where it is. -/
inductive Role.Ran {α : Type} :
    Role α → List (Message α) → List (Output α) → List (Effect α) → Role α → Prop
  | source {before now : Source α} {emitted : List (Output α)} {effects : List (Effect α)} :
      before.Took now emitted → Ran (.source before) [] emitted effects (.source now)
  | worker {σ : Type} {operator : Operator α σ} {before now : Worker σ}
      {handled : List (Message α)} {emitted : List (Output α)} {effects : List (Effect α)} :
      before.run operator handled = ⟨now, emitted, effects⟩ →
      Ran (.worker operator before) handled emitted effects (.worker operator now)

namespace Role

variable {α : Type}

/-- A worker stays one, with its operator. -/
theorem Ran.of_worker {σ : Type} {operator : Operator α σ} {start : Worker σ}
    {handled : List (Message α)} {emitted : List (Output α)} {effects : List (Effect α)}
    {now : Role α} (ran : (Role.worker operator start).Ran handled emitted effects now) :
    ∃ w, now = .worker operator w ∧ start.run operator handled = ⟨w, emitted, effects⟩ := by
  cases ran with
  | worker ran => exact ⟨_, rfl, ran⟩

theorem Ran.act {before now : Role α} {handled : List (Message α)} {emitted : List (Output α)}
    {effects : List (Effect α)} (ran : before.Ran handled emitted effects now)
    {inbox : List (Message α)} {act : Act α} (acted : now.act? inbox = some act) :
    before.Ran (handled ++ now.taken inbox) (emitted ++ act.outputs) (effects ++ act.effects)
        act.role ∧ inbox = now.taken inbox ++ act.inbox := by
  cases ran with
  | @source before now emitted effects took =>
    by_cases able : now.canStep = true
    · simp only [act?, able, if_true, Option.some.injEq] at acted
      subst acted
      exact ⟨by simpa [taken] using .source (took.step able), rfl⟩
    · simp [act?, able] at acted
  | @worker σ operator before now handled emitted effects ran =>
    cases finished : now.finished with
    | true => simp [act?, finished] at acted
    | false =>
      cases inbox with
      | nil => simp [act?, finished] at acted
      | cons message rest =>
        simp only [act?, finished, Option.some.injEq] at acted
        subst acted
        refine ⟨.worker ?_, rfl⟩
        simp [taken, Worker.run_concat, ran, finished]

theorem Ran.mapSource {before now : Role α} {handled : List (Message α)}
    {emitted : List (Output α)} {effects : List (Effect α)}
    (ran : before.Ran handled emitted effects now) {f : Source α → Source α}
    (script : ∀ s, (f s).script = s.script) (finished : ∀ s, (f s).finished = s.finished) :
    before.Ran handled emitted effects (now.mapSource f) := by
  cases ran with
  | source took =>
    refine .source ⟨?_, ?_⟩
    · rw [script]
      exact took.failure
    · rw [script, finished]
      exact took.turns
  | worker ran => exact .worker ran

end Role

/-! ## What a step changes -/

namespace History

variable {n : Nat} {α : Type} (h : History n α) (i j k : Fin n) (message : Message α)
  (rest : List (Fin n × Message α)) (act : Act α)

/-- Delivering changes the sender's outbox and the receiver's inbox. -/
theorem cell_deliver : (h.deliver i j message rest).network.cell k =
    { h.network.cell k with
      inbox := (h.network.cell k).inbox ++ (if j = k then [message] else [])
      outbox := if i = k then rest else (h.network.cell k).outbox } := by
  simp only [deliver, Network.deliver, Network.cell_put]
  by_cases sender : i = k <;> by_cases receiver : j = k
  · subst sender receiver
    simp
  · subst sender
    simp [receiver]
  · subst receiver
    simp [sender]
  · simp [sender, receiver]

/-- Taking the next thing to do changes the place itself. -/
theorem cell_act : (h.act i act).network.cell k =
    if i = k then { h.network.cell i with
      role := act.role, inbox := act.inbox, outbox := h.network.messages i act.outputs }
    else h.network.cell k :=
  Network.cell_put ..

theorem received_deliver : (h.deliver i j message rest).received k =
    h.received k ++ (if j = k then [(i, message)] else []) := by
  by_cases same : j = k
  · subst same
    simp [deliver]
  · simp [deliver, same, Function.update_of_ne (Ne.symm same)]

/-- The messages that a place received from another. -/
def receivedFrom (i j : Fin n) : List (Message α) :=
  ((h.received j).filter fun received => received.1 = i).map (·.2)

/-- The messages for a place among those that another still has to deliver. -/
def pending (i j : Fin n) : List (Message α) :=
  ((h.network.cell i).outbox.filter fun waiting => waiting.1 = j).map (·.2)

end History

/-- The messages that outputs of a place come to at another: each as often as there are
connections between them. -/
def Wiring.sent {n : Nat} {α : Type} (w : Wiring n) (i j : Fin n) (outputs : List (Output α)) :
    List (Message α) :=
  outputs.flatMap fun output =>
    List.replicate ((w.downstream i).count j) (output.from (some i.val))

theorem Network.filter_messages {n : Nat} {α : Type} (net : Network n α) (i j : Fin n)
    (outputs : List (Output α)) :
    ((net.messages i outputs).filter fun waiting => waiting.1 = j).map (·.2) =
      net.wiring.sent i j outputs := by
  unfold messages Wiring.sent
  rw [List.filter_flatMap, List.map_flatMap]
  congr 1
  funext output
  induction net.wiring.downstream i with
  | nil => rfl
  | cons first others ih =>
    by_cases same : first = j
    · subst same
      simpa [List.replicate_succ] using ih
    · simpa [same] using ih

/-- A network in which nothing has happened: no message waits and nothing is finished. -/
structure Network.Fresh {n : Nat} {α : Type} (net : Network n α) : Prop where
  inbox : ∀ i, (net.cell i).inbox = []
  outbox : ∀ i, (net.cell i).outbox = []
  unfinished : ∀ i, (net.cell i).role.isFinished = false

/-- A history accounts for its network. -/
structure Consistent {n : Nat} {α : Type} (net : Network n α) (h : History n α) : Prop where
  wiring : h.network.wiring = net.wiring
  capacity : ∀ i, (h.network.cell i).capacity = (net.cell i).capacity
  inbox : ∀ j, (h.received j).map (·.2) = h.handled j ++ (h.network.cell j).inbox
  channel : ∀ i j, h.receivedFrom i j ++ h.pending i j = net.wiring.sent i j (h.emitted i)
  ran : ∀ i, (net.cell i).role.Ran (h.handled i) (h.emitted i) (h.effects i)
    (h.network.cell i).role

variable {n : Nat} {α : Type} {net : Network n α}

theorem Role.Ran.start {role : Role α} (unfinished : role.isFinished = false) :
    role.Ran [] [] [] role := by
  cases role with
  | source s =>
    have unfinished : s.finished = false := unfinished
    exact .source ⟨rfl, [], rfl, by simp [unfinished]⟩
  | worker operator w => exact .worker rfl

theorem Network.Fresh.consistent (fresh : net.Fresh) : Consistent net (.start net) where
  wiring := rfl
  capacity _ := rfl
  inbox j := (fresh.inbox j).symm
  channel i j := by simp [History.receivedFrom, History.pending, History.start, Wiring.sent, fresh.outbox]
  ran i := .start (fresh.unfinished i)

theorem Consistent.deliver {h : History n α} (consistent : Consistent net h) {i j : Fin n}
    {message : Message α} {rest : List (Fin n × Message α)}
    (waiting : (h.network.cell i).outbox = (j, message) :: rest) :
    Consistent net (h.deliver i j message rest) where
  wiring := consistent.wiring
  capacity k := by
    rw [History.cell_deliver]
    exact consistent.capacity k
  inbox k := by
    rw [History.cell_deliver, History.received_deliver, List.map_append, consistent.inbox,
      List.append_assoc]
    by_cases same : j = k <;> simp [same, History.deliver]
  channel k l := by
    have before := consistent.channel k l
    unfold History.receivedFrom History.pending at before ⊢
    rw [History.cell_deliver, History.received_deliver, List.filter_append, List.map_append,
      List.append_assoc]
    by_cases sender : i = k
    · subst sender
      rw [waiting] at before
      by_cases receiver : j = l <;> simpa [receiver, History.deliver] using before
    · by_cases receiver : j = l <;> simpa [sender, receiver, History.deliver] using before
  ran k := by
    rw [History.cell_deliver]
    exact consistent.ran k

theorem Consistent.act {h : History n α} (consistent : Consistent net h) {i : Fin n}
    {act : Act α} (empty : (h.network.cell i).outbox = [])
    (acted : (h.network.cell i).role.act? (h.network.cell i).inbox = some act) :
    Consistent net (h.act i act) := by
  obtain ⟨ran, taken⟩ := (consistent.ran i).act acted
  refine ⟨consistent.wiring, fun k => ?_, fun k => ?_, fun k l => ?_, fun k => ?_⟩
  · rw [History.cell_act]
    by_cases same : i = k
    · subst same
      simpa using consistent.capacity i
    · simpa [same] using consistent.capacity k
  · have before := consistent.inbox k
    rw [History.cell_act]
    by_cases same : i = k
    · subst same
      rw [taken] at before
      simpa [History.act] using before
    · simpa [same, History.act, Function.update_of_ne (Ne.symm same)] using before
  · have before := consistent.channel k l
    unfold History.receivedFrom History.pending at before ⊢
    rw [History.cell_act]
    by_cases same : i = k
    · subst same
      rw [empty, List.filter_nil, List.map_nil, List.append_nil] at before
      rw [if_pos rfl, Network.filter_messages, consistent.wiring]
      simp [History.act, before, Wiring.sent]
    · simpa [same, History.act, Function.update_of_ne (Ne.symm same)] using before
  · rw [History.cell_act]
    by_cases same : i = k
    · subst same
      simpa [History.act] using ran
    · simpa [same, History.act, Function.update_of_ne (Ne.symm same)] using consistent.ran k

theorem Consistent.mapSources {h : History n α} (consistent : Consistent net h)
    {f : Source α → Source α} (script : ∀ s, (f s).script = s.script)
    (finished : ∀ s, (f s).finished = s.finished) :
    Consistent net { h with network := h.network.mapSources f } := by
  refine ⟨consistent.wiring, fun k => ?_, fun k => ?_, fun k l => ?_, fun k => ?_⟩
  · rw [Network.cell_mapSources]
    exact consistent.capacity k
  · rw [Network.cell_mapSources]
    exact consistent.inbox k
  · have before := consistent.channel k l
    unfold History.receivedFrom History.pending at before ⊢
    rw [Network.cell_mapSources]
    exact before
  · rw [Network.cell_mapSources]
    exact (consistent.ran k).mapSource script finished

/-- Whatever the order of steps, a history accounts for its network. -/
theorem Reached.consistent (fresh : net.Fresh) {h : History n α} (reached : Reached net h) :
    Consistent net h := by
  induction reached with
  | start => exact fresh.consistent
  | step i before stepped ih =>
    rcases History.step?_cases stepped with
      ⟨j, message, rest, waiting, -, rfl⟩ | ⟨act, empty, acted, rfl⟩
    · exact ih.deliver waiting
    · exact ih.act empty acted
  | stop before ih => exact ih.mapSources (fun _ => rfl) fun _ => rfl
  | wake before ih => exact ih.mapSources (fun _ => rfl) fun _ => rfl

end FlightStream.Dataflow
