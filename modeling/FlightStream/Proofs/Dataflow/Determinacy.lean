import FlightStream.Proofs.Dataflow.Clock
import FlightStream.Proofs.Dataflow.Progress
import FlightStream.Proofs.Dataflow.Reading

/-!
What comes along the connections of a network does not depend on the order in which its places take
their steps, nor on how many messages may wait. A complete history is `Settled`: every place has
handled what it received, and received what the others sent. What a source sends is laid down, and
a worker to which one place leads handles what came from that; so two settled histories of one draft
agree place by place, the lower places first, `Settled.emitted_eq`. Where several connections meet,
each brings the same in both, and only the order among them may differ.
-/

namespace FlightStream.Dataflow

variable {n : Nat} {α : Type}

/-! ## Room -/

/-- The network with other room for waiting messages. -/
def Network.resized (net : Network n α) (room : Fin n → Nat) : Network n α :=
  { net with cells := Vector.ofFn fun i => { net.cell i with capacity := room i } }

@[simp] theorem Network.cell_resized (net : Network n α) (room : Fin n → Nat) (i : Fin n) :
    (net.resized room).cell i = { net.cell i with capacity := room i } := by
  simp [resized, cell]

theorem Network.Drains.resized {net : Network n α} {rank : Fin n → Nat} (drains : net.Drains rank)
    {room : Fin n → Nat} (wide : ∀ i, 0 < room i) : (net.resized room).Drains rank where
  fresh := by
    refine ⟨fun i => ?_, fun i => ?_, fun i => ?_⟩ <;> rw [cell_resized]
    · exact drains.fresh.inbox i
    · exact drains.fresh.outbox i
    · exact drains.fresh.unfinished i
  ascending := drains.ascending
  simple := drains.simple
  room i := by
    rw [cell_resized]
    exact wide i
  placed i := by
    rw [cell_resized]
    exact drains.placed i

/-! ## Complete histories -/

/-- No source has anything left to send, and no place can step. -/
structure History.Complete (h : History n α) : Prop where
  stuck : ∀ i, h.network.canStep i = false
  spent : ∀ i source, (h.network.cell i).role = .source source → source.finished = true

/-- A history in which all places are done is complete. -/
theorem History.complete_of_done {h : History n α} (done : ∀ i, h.Done i) : h.Complete where
  stuck i := by
    obtain ⟨finished, delivered⟩ := done i
    rw [Network.canStep, delivered]
    cases role : (h.network.cell i).role <;> rw [role] at finished
    · simp_all [Role.canAct, Role.isFinished, Source.canStep]
    · simp_all [Role.canAct, Role.isFinished]
  spent i source role := by
    have finished := (done i).1
    rwa [role] at finished

/-- A source stays one. -/
theorem Role.Ran.of_source {before : Source α} {handled : List (Message α)}
    {emitted : List (Output α)} {effects : List (Effect α)} {now : Role α}
    (ran : (Role.source before).Ran handled emitted effects now) :
    ∃ s, now = .source s ∧ before.Took s emitted := by
  cases ran with
  | source took => exact ⟨_, rfl, took⟩

/-- A source that nobody stopped has sent its script and the end once the history is complete. -/
theorem Consistent.script_sent {net : Network n α} {h : History n α} {i : Fin n}
    (consistent : Consistent net h) (complete : h.Complete) {name : String} {script : Script α}
    (role : (net.cell i).role = .source (.ofScript name script))
    (unstopped : (h.network.cell i).role.Unstopped) :
    h.emitted i = script.elements.map .element ++ [.ended] := by
  have ran := consistent.ran i
  rw [role] at ran
  obtain ⟨source, now, -, taken, turns, sent⟩ := ran.of_source
  rw [now] at unstopped
  have spent := complete.spent i source now
  rw [unstopped.2 spent, List.append_nil] at turns
  rw [sent, if_pos spent, ← turns]
  rfl

/-- A worker of a complete history has handled all that it received. -/
theorem Consistent.handled_of_complete {net : Network n α} {rank : Fin n → Nat} {h : History n α}
    (consistent : Consistent net h) (flows : net.Flows rank) (complete : h.Complete) (j : Fin n) :
    h.handled j = (h.received j).map (·.2) := by
  have idle := complete.stuck j
  simp only [Network.canStep, consistent.outbox_of_stuck flows complete.stuck j] at idle
  have empty : (h.network.cell j).inbox = [] := by
    by_contra full
    refine full (consistent.inbox_of_finished flows ?_)
    cases role : (h.network.cell j).role with
    | source source => exact complete.spent j source role
    | worker operator w =>
      rw [role] at idle
      simpa [Role.canAct, Role.isFinished, full] using idle
  rw [consistent.inbox, empty, List.append_nil]

namespace Draft

variable {d : Draft α}

/-- A draft that branches, and joins only at its ends. Connections run in no circle and nothing
leads to a source; to a place with others after it at most one place leads, and its operator leaves
the end of the stream to the worker. To a place with nothing after it any number may lead. No
connection needs to be the only one between its places. -/
structure Branching (d : Draft α) : Prop where
  acyclic : ∀ i, ¬Relation.TransGen d.wiring.Leads i i
  first : ∀ i name script, d.parts.get i = .source name script → ∀ k, ¬d.wiring.Leads k i
  merging : ∀ i j, d.wiring.Leads i j → ∀ k, d.wiring.Leads k i → ∀ l, d.wiring.Leads l i → k = l
  keepsOpen : ∀ (i : Fin d.parts.length) {σ : Type} (operator : Operator α σ) capacity,
    d.parts.get i = .operator operator capacity → ∀ j, d.wiring.Leads i j → operator.KeepsOpen

/-- A pipeline branches if its connections join only at its ends. -/
theorem Pipeline.branching (pipeline : d.Pipeline)
    (merging : ∀ i j, d.wiring.Leads i j → ∀ k, d.wiring.Leads k i → ∀ l, d.wiring.Leads l i →
      k = l) : d.Branching where
  acyclic := pipeline.acyclic
  first := pipeline.first
  merging := merging
  keepsOpen := pipeline.keepsOpen

theorem Branching.flows (branching : d.Branching) (room : Fin d.parts.length → Nat) :
    (d.network.resized room).Flows d.wiring.height where
  fresh := by
    refine ⟨fun i => ?_, fun i => ?_, fun i => ?_⟩ <;> rw [Network.cell_resized, cell_network]
    cases d.parts.get i <;> rfl
  ascending _ _ leads := Wiring.height_lt branching.acyclic leads
  opened i := by
    rw [Network.cell_resized, cell_network]
    cases part : d.parts.get i with
    | source name script => exact .source (branching.first i name script part)
    | operator operator capacity => exact .worker (branching.keepsOpen i operator capacity part)

/-- What a draft has come to: its sources have sent their scripts and the end, its workers have
handled all that they received, and each place received all that the others sent it. -/
structure Settled (d : Draft α) (h : History d.parts.length α) : Prop where
  source : ∀ i name script, d.parts.get i = .source name script →
    h.emitted i = script.elements.map .element ++ [.ended]
  worker : ∀ i {σ : Type} (operator : Operator α σ) capacity,
    d.parts.get i = .operator operator capacity → h.emitted i =
      ((Worker.start operator (d.wiring.inputs i)).run operator (h.handled i)).outputs
  handled : ∀ j, h.handled j = (h.received j).map (·.2)
  channel : ∀ i j, h.receivedFrom i j = d.wiring.sent i j (h.emitted i)

/-- A run that nobody stops leads to this, in whatever order the places take their steps. -/
theorem Branching.settled (branching : d.Branching) {room : Fin d.parts.length → Nat}
    {h : History d.parts.length α}
    (run : Relation.ReflTransGen History.Moves (.start (d.network.resized room)) h)
    (complete : h.Complete) : d.Settled h := by
  have flows := branching.flows room
  have consistent := (Reached.start.run run).consistent flows.fresh
  have role : ∀ i, ((d.network.resized room).cell i).role =
      (d.parts.get i).role (d.wiring.inputs i) := fun i => by
    rw [Network.cell_resized, cell_network]
  have fresh : ∀ i, ((d.network.resized room).cell i).role.Unstopped := fun i => by
    rw [role]
    cases d.parts.get i with
    | source name script => exact ⟨fun _ => rfl, fun finished => Bool.noConfusion finished⟩
    | operator operator capacity => trivial
  refine ⟨fun i name script part => ?_, fun i σ operator capacity part => ?_,
    consistent.handled_of_complete flows complete, fun i j => ?_⟩
  · have own := role i
    rw [part] at own
    exact consistent.script_sent complete own (History.unstopped_run run fresh i)
  · have own := role i
    rw [part] at own
    have ran := consistent.ran i
    rw [own] at ran
    obtain ⟨w, -, ran⟩ := ran.of_worker
    rw [ran]
  · have channel := consistent.channel i j
    rwa [History.pending, consistent.outbox_of_stuck flows complete.stuck i, List.filter_nil,
      List.map_nil, List.append_nil] at channel

end Draft

/-! ## Two histories of one draft -/

/-- Where at most one place leads to another, all that leads there is some one place. -/
theorem Wiring.exists_only {w : Wiring n} {j : Fin n}
    (alone : ∀ k, w.Leads k j → ∀ l, w.Leads l j → k = l) : ∃ i, ∀ k, w.Leads k j → k = i := by
  by_cases some_ : ∃ i, w.Leads i j
  · obtain ⟨i, leads⟩ := some_
    exact ⟨i, fun k other => alone k other i leads⟩
  · exact ⟨j, fun k leads => absurd ⟨k, leads⟩ some_⟩

namespace History

variable {h h' : History n α} {i j : Fin n}

/-- If a place received the same from each of the others, in the order of that one, it received the
same messages. -/
theorem received_perm (same : ∀ i, h.receivedFrom i j = h'.receivedFrom i j) :
    (h.received j).Perm (h'.received j) := by
  classical
  have counts : ∀ (h : History n α) (i : Fin n) (message : Message α),
      (h.received j).count (i, message) = (h.receivedFrom i j).count message := by
    intro h i message
    rw [receivedFrom, List.count, List.count, List.countP_map, List.countP_filter]
    refine List.countP_congr fun received _ => ?_
    simp [Prod.ext_iff, and_comm]
  rw [List.perm_iff_count]
  rintro ⟨i, message⟩
  rw [counts, counts, same]

end History

namespace Draft.Settled

variable {d : Draft α} {h h' : History d.parts.length α} {i j : Fin d.parts.length}

/-- Whatever a place received came from one that leads to it. -/
theorem leads_of_received (settled : d.Settled h) {message : Message α}
    (member : (i, message) ∈ h.received j) : d.wiring.Leads i j := by
  have own : message ∈ h.receivedFrom i j :=
    List.mem_map.mpr ⟨_, List.mem_filter.mpr ⟨member, by simp⟩, rfl⟩
  rw [settled.channel] at own
  exact (Wiring.of_mem_sent own).1

/-- A place to which only one other leads has handled what came from that. -/
theorem handled_only (settled : d.Settled h) (only : ∀ k, d.wiring.Leads k j → k = i) :
    h.handled j = h.receivedFrom i j := by
  have all : ∀ received ∈ h.received j, decide (received.1 = i) = true := fun received member =>
    decide_eq_true (only _ (settled.leads_of_received member))
  rw [settled.handled, History.receivedFrom, List.filter_eq_self.mpr all]

/-- Two histories bring the same from one place to another if the one sent the same in both. -/
theorem receivedFrom_eq (settled : d.Settled h) (other : d.Settled h')
    (same : d.wiring.Leads i j → h.emitted i = h'.emitted i) :
    h.receivedFrom i j = h'.receivedFrom i j := by
  rw [settled.channel, other.channel]
  by_cases leads : d.wiring.Leads i j
  · rw [same leads]
  · have none_ : ∀ outputs : List (Output α), d.wiring.sent i j outputs = [] := fun outputs =>
      List.eq_nil_iff_forall_not_mem.mpr fun _ member => leads (Wiring.of_mem_sent member).1
    rw [none_, none_]

/-- Every place with others after it sent the same in both: a source its script, and a worker what
comes of the messages from the one place below it, which are the same by induction. -/
theorem emitted_eq (branching : d.Branching) (settled : d.Settled h) (other : d.Settled h')
    (leads : d.wiring.Leads i j) : h.emitted i = h'.emitted i := by
  induction i using (measure d.wiring.height).wf.induction generalizing j with
  | _ i ih =>
    cases part : d.parts.get i with
    | source name script => rw [settled.source i name script part, other.source i name script part]
    | operator operator capacity =>
      obtain ⟨k, only⟩ := Wiring.exists_only (branching.merging i j leads)
      have same : h.receivedFrom k i = h'.receivedFrom k i := settled.receivedFrom_eq other
        fun below => ih k (Wiring.height_lt branching.acyclic below) below
      rw [settled.worker i operator capacity part, other.worker i operator capacity part,
        settled.handled_only only, other.handled_only only, same]

end Draft.Settled

namespace Draft

/-- Results do not depend on scheduling. Two runs of a draft that joins only at its ends, with any
room at its places, bounded or not, whose steps are taken in any order until nothing is left to do,
put the same elements, watermarks and ends in the same order on every connection. So each place
after which nothing comes, such as a sink, received from each branch the same in the same order,
and handled the same messages, in an order of its own. -/
theorem runs_agree {d : Draft α} (branching : d.Branching) {room room' : Fin d.parts.length → Nat}
    {h h' : History d.parts.length α}
    (run : Relation.ReflTransGen History.Moves (.start (d.network.resized room)) h)
    (run' : Relation.ReflTransGen History.Moves (.start (d.network.resized room')) h')
    (complete : h.Complete) (complete' : h'.Complete) :
    (∀ i j, d.wiring.Leads i j → h.emitted i = h'.emitted i) ∧
      (∀ i j, h.receivedFrom i j = h'.receivedFrom i j) ∧
      (∀ j, (h.received j).Perm (h'.received j)) ∧ ∀ j, (h.handled j).Perm (h'.handled j) := by
  have settled := branching.settled run complete
  have settled' := branching.settled run' complete'
  have emitted : ∀ i j, d.wiring.Leads i j → h.emitted i = h'.emitted i :=
    fun i j leads => settled.emitted_eq branching settled' leads
  have received : ∀ i j, h.receivedFrom i j = h'.receivedFrom i j :=
    fun i j => settled.receivedFrom_eq settled' (emitted i j)
  have perm := fun j => History.received_perm fun i => received i j
  refine ⟨emitted, received, perm, fun j => ?_⟩
  rw [settled.handled, settled'.handled]
  exact (perm j).map _

/-- A stream with watermarks that branches: one branch doubles its elements, refusing one of them,
and counts them in windows, the other keeps the odd ones, and a sink takes what both send. -/
def branches : Draft Int :=
  ⟨[.source "feed" ⟨[⟨[5, 3], [], true⟩, ⟨[9, 31], [], false⟩], none⟩,
      .operator (Operators.insertWatermarks "marks" Operators.ownTime (Operators.atRest 2)) 1,
      .operator (Operators.map "double" fun value =>
        if value = 3 then .error .divisionByZero else .ok (some (2 * value))) 1,
      .operator (Operators.filter "odd" fun value => .ok (value % 2 == 1)) 1,
      .operator (Operators.window "count" counts fun entry => entry.value.length) 1,
      .operator (Operators.recorder "sink" .never) 1],
    [(0, 1), (1, 2), (1, 3), (2, 4), (3, 5), (4, 5)], [0]⟩
where
  /-- Collects the elements in windows of sixteen. -/
  counts : WindowAggregator Int Int Int Unit (List Int) (List Int) :=
    ⟨SlidingWindow.windowing ⟨16, 16, by decide, by decide⟩ 0, .ok, fun _ => .ok (), .toList, Writing.whole,
      fun _ => .ok "all"⟩

instance : NeZero branches.parts.length := ⟨by decide⟩

theorem branches_pipeline : branches.Pipeline where
  acyclic := Wiring.acyclic_of_upward (by decide)
  simple := by decide
  reached j := by
    have one : branches.wiring.Leads 0 1 := by decide
    have two : branches.wiring.Leads 1 2 := by decide
    have three : branches.wiring.Leads 1 3 := by decide
    have four : branches.wiring.Leads 2 4 := by decide
    have five : branches.wiring.Leads 3 5 := by decide
    refine ⟨0, by decide, ?_⟩
    fin_cases j
    · exact .refl
    · exact .single one
    · exact .tail (.single one) two
    · exact .tail (.single one) three
    · exact .tail (.tail (.single one) two) four
    · exact .tail (.tail (.single one) three) five
  entry i read := by
    have only : i = 0 := by
      revert i
      decide
    subst only
    exact ⟨_, _, rfl⟩
  first i name script part := by
    fin_cases i
    · decide
    all_goals cases part
  room i σ operator capacity part := by
    fin_cases i <;> cases part <;> exact Nat.le_refl 1
  keepsOpen i σ operator capacity part j leads := by
    have last : ∀ j, ¬branches.wiring.Leads 5 j := by decide
    fin_cases i <;> cases part
    · exact Operators.keepsOpen_insertWatermarks _ _ _
    · exact Operators.keepsOpen_perElement _ _
    · exact Operators.keepsOpen_perElement _ _
    · exact Operators.keepsOpen_window _ _ _
    · exact absurd leads (last j)

/-- One run with room for one message at each place, and one with more, both to their ends. -/
theorem runs_agree_branches :
    ∃ h h' : History branches.parts.length Int,
      Relation.ReflTransGen History.Moves
        (.start (branches.network.resized fun _ => 1)) h ∧ h.Complete ∧
      Relation.ReflTransGen History.Moves
        (.start (branches.network.resized fun i => i.val + 2)) h' ∧ h'.Complete ∧
      h.emitted 1 = h'.emitted 1 ∧ h.receivedFrom 3 5 = h'.receivedFrom 3 5 ∧
      h.receivedFrom 4 5 = h'.receivedFrom 4 5 ∧ (h.handled 5).Perm (h'.handled 5) := by
  have branching := branches_pipeline.branching (by decide)
  have ends : ∀ room : Fin branches.parts.length → Nat, (∀ i, 0 < room i) →
      ∃ h, Relation.ReflTransGen History.Moves (.start (branches.network.resized room)) h ∧
        h.Complete := by
    intro room wide
    have drains := branches_pipeline.drains.resized wide
    obtain ⟨h, run, still⟩ := Reached.start.exists_still drains
    have consistent := (Reached.start.run run).consistent drains.fresh
    exact ⟨h, run, History.complete_of_done fun i =>
      ⟨consistent.finished_of_still drains still i, consistent.outbox_of_still drains still i⟩⟩
  obtain ⟨h, run, complete⟩ := ends (fun _ => 1) fun _ => Nat.one_pos
  obtain ⟨h', run', complete'⟩ := ends (fun i => i.val + 2) fun i => Nat.succ_pos _
  obtain ⟨emitted, received, -, handled⟩ := runs_agree branching run run' complete complete'
  exact ⟨h, h', run, complete, run', complete', emitted 1 2 (by decide), received 3 5,
    received 4 5, handled 5⟩

end Draft

end FlightStream.Dataflow
