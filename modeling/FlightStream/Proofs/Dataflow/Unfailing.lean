import FlightStream.Proofs.Dataflow.Reading
import FlightStream.Proofs.Metrics.Counters
import FlightStream.Proofs.Windows.Unfailing

/-!
Operators that never fail. Each is told by the elements that it never fails on and by those that it
then sends; an invariant of its state carries this over a run, `Operator.Unfailing.run`. In a
network in which each place sends only what the places after it never fail on, `Network.Suited`, this
holds of whatever is handled anywhere, `Consistent.takes_of_handled`, so that no operator error is
ever counted, `Reached.errorFree`.
-/

namespace FlightStream.Dataflow

variable {α σ : Type}

/-! ## One operator -/

/-- No operator error is counted. -/
def Effect.ErrorFree (effects : List (Effect α)) : Prop := changes .operatorErrors effects = []

/-- An output that is an element which satisfies `Q`, a watermark that can be written, or the end. -/
def Output.Good (Q : α → Prop) : Output α → Prop
  | element value => Q value
  | watermark time => Writing.Writable time
  | ended => True

/-- A message that is an element which satisfies `P`, a watermark that can be written, or the end of
an input. -/
def Message.Good (P : α → Prop) : Message α → Prop
  | element value => P value
  | watermark time _ => Writing.Writable time
  | ended _ => True

/-- A reaction without a failure that counts no error: its state satisfies `I`, and what it sends is
good. -/
structure Reaction.Unfailing (Q : α → Prop) (I : σ → Prop) (r : Reaction α σ) : Prop where
  failure : r.failure = Option.none
  effects : Effect.ErrorFree r.effects
  state : I r.state
  sends : ∀ output ∈ r.outputs, output.Good Q

/-- An operator that never fails on elements that satisfy `P`, and then sends elements that satisfy
`Q`; its states satisfy `I`. A watermark that is not its own can be written. -/
structure Operator.Unfailing (operator : Operator α σ) (P Q : α → Prop) (I : σ → Prop) : Prop where
  start : I operator.start
  element : ∀ time state value, (operator.ownClock = none → Writing.Writable time) → I state →
    P value → (operator.behaviour.element time state value).Unfailing Q I
  advanced : ∀ time state, I state → (operator.behaviour.advanced time state).Unfailing Q I
  finish : ∀ time state, I state → (operator.behaviour.finish time state).Unfailing Q I

/-- A worker whose watermark can be written, and so can those that it heard. -/
structure Worker.Hears (w : Worker σ) : Prop where
  watermark : Writing.Writable w.watermark
  heard : ∀ entry ∈ w.heard, Writing.Writable entry.2

/-- A move of a worker in which nothing failed. -/
structure Move.Unfailing (Q : α → Prop) (I : σ → Prop) (move : Move α σ) : Prop where
  effects : Effect.ErrorFree move.effects
  state : I move.worker.state
  hears : move.worker.Hears
  sends : ∀ output ∈ move.outputs, output.Good Q

variable {operator : Operator α σ} {P Q : α → Prop} {I : σ → Prop}

/-- A reaction that sends nothing. -/
theorem Reaction.unfailing_silent {state : σ} {effects : List (Effect α)}
    (quiet : Effect.ErrorFree effects) (keeps : I state) :
    ({ state := state, effects := effects } : Reaction α σ).Unfailing Q I :=
  ⟨rfl, quiet, keeps, List.forall_mem_nil _⟩

theorem Reaction.unfailing_none {state : σ} (keeps : I state) :
    (Reaction.none state : Reaction α σ).Unfailing Q I :=
  unfailing_silent rfl keeps

/-- A worker that does nothing. -/
theorem Move.unfailing_still {w : Worker σ} (keeps : I w.state) (hears : w.Hears) :
    (⟨w, [], []⟩ : Move α σ).Unfailing Q I :=
  ⟨rfl, keeps, hears, List.forall_mem_nil _⟩

theorem Reaction.Unfailing.react {r : Reaction α σ} (unfailing : r.Unfailing Q I)
    (operator : Operator α σ) (context : String) {w : Worker σ} (hears : w.Hears) :
    (w.react operator context r).Unfailing Q I where
  effects := by
    have silent : Worker.failureEffects operator context r.failure = [] := by
      rw [unfailing.failure]
      rfl
    unfold Worker.react
    rw [silent, List.append_nil]
    exact unfailing.effects
  state := unfailing.state
  hears := ⟨hears.watermark, hears.heard⟩
  sends := unfailing.sends

theorem Move.Unfailing.concat {move : Move α σ} (unfailing : move.Unfailing Q I)
    (marker : Output α) (good : marker.Good Q) :
    ({ move with outputs := move.outputs ++ [marker] } : Move α σ).Unfailing Q I where
  effects := unfailing.effects
  state := unfailing.state
  hears := unfailing.hears
  sends output member := by
    rcases List.mem_append.mp member with old | new
    · exact unfailing.sends output old
    · exact List.mem_singleton.mp new ▸ good

/-! ## What a worker hears -/

namespace Worker

/-- The least watermark heard is one that was heard. -/
theorem leastHeard_mem {heard : Keyed Origin Number} {time : Number}
    (least : leastHeard heard = some time) : ∃ entry ∈ heard, entry.2 = time := by
  cases heard with
  | nil => cases least
  | cons first rest =>
    obtain rfl : rest.foldl (fun least entry => least.earlier entry.2) first.2 = time :=
      Option.some.inj least
    induction rest using List.reverseRecOn with
    | nil => exact ⟨first, List.mem_cons_self, rfl⟩
    | append_singleton before last ih =>
      rw [List.foldl_append, List.foldl_cons, List.foldl_nil, Number.earlier]
      split
      · exact ⟨last, by simp, rfl⟩
      · obtain ⟨entry, member, same⟩ := ih rfl
        refine ⟨entry, ?_, same⟩
        rw [← List.cons_append]
        exact List.mem_append_left _ member

variable {w : Worker σ}

theorem hears_start (operator : Operator α σ) (inputs : Nat) : (start operator inputs).Hears :=
  ⟨Writing.writable_float _, List.forall_mem_nil _⟩

theorem Hears.set (hears : w.Hears) (origin : Origin) {time : Number}
    (shown : Writing.Writable time) :
    ({ w with heard := w.heard.set origin time } : Worker σ).Hears where
  watermark := hears.watermark
  heard entry member := by
    rcases Keyed.mem_set member with same | old
    · exact same ▸ shown
    · exact hears.heard entry old

theorem Hears.hear (hears : w.Hears) (origin : Origin) {time : Number}
    (shown : Writing.Writable time) : (w.hear time origin).Hears := by
  refine hears.set origin ?_
  unfold Number.later
  split
  · cases known : w.heard.find? origin with
    | none => exact Writing.writable_float _
    | some earlier => exact hears.heard _ (Keyed.mem_of_find? known)
  · exact shown

end Worker

/-! ## A run -/

namespace Operator.Unfailing

variable (unfailing : operator.Unfailing P Q I) {w : Worker σ} (keeps : I w.state) (hears : w.Hears)

include unfailing keeps hears

theorem advance : (w.advance operator).Unfailing Q I := by
  unfold Worker.advance
  split
  · rename_i time _ combined
    split
    · exact Move.unfailing_still keeps hears
    · have shown : Writing.Writable time := by
        unfold Worker.combined? at combined
        split at combined
        · cases combined
        · obtain ⟨entry, member, same⟩ := Worker.leastHeard_mem combined
          exact same ▸ hears.heard entry member
      have raised : ({ w with watermark := time } : Worker σ).Hears := ⟨shown, hears.heard⟩
      exact ((unfailing.advanced time w.state keeps).react operator _ raised).concat
        (.watermark time) shown
  · exact Move.unfailing_still keeps hears

theorem endInput (origin : Origin) : (w.endInput operator origin).Unfailing Q I := by
  unfold Worker.endInput
  generalize (if w.ended.contains origin then w.ended else w.ended ++ [origin]) = all
  have noted : ({ w with ended := all } : Worker σ).Hears := ⟨hears.watermark, hears.heard⟩
  dsimp only
  split
  · have last := (unfailing.finish (({ w with ended := all } : Worker σ).current operator) w.state
      keeps).react operator s!"on_end failed in {operator.name}" noted
    have finished := last.concat .ended trivial
    exact ⟨finished.effects, finished.state, ⟨finished.hears.watermark, finished.hears.heard⟩,
      finished.sends⟩
  · exact unfailing.advance keeps (noted.set origin (Writing.writable_float _))

/-- One message: nothing fails if it is good. -/
theorem step {message : Message α} (good : message.Good P) :
    (w.step operator message).Unfailing Q I := by
  cases message with
  | element value =>
    refine (unfailing.element (w.current operator) w.state value (fun none => ?_) keeps
      good).react operator _ hears
    unfold Worker.current
    rw [none]
    exact hears.watermark
  | watermark time origin => exact unfailing.advance keeps (hears.hear origin good)
  | ended origin => exact unfailing.endInput keeps hears origin

/-- A whole run over good messages counts no error, and sends what is good. -/
theorem run {messages : List (Message α)} (good : ∀ message ∈ messages, message.Good P) :
    (w.run operator messages).Unfailing Q I := by
  induction messages generalizing w with
  | nil => exact Move.unfailing_still keeps hears
  | cons message rest ih =>
    unfold Worker.run
    split
    · exact Move.unfailing_still keeps hears
    · obtain ⟨now, later⟩ := List.forall_mem_cons.mp good
      have first := unfailing.step keeps hears now
      have others := ih first.state first.hears later
      refine ⟨?_, others.state, others.hears, fun output member => ?_⟩
      · unfold Effect.ErrorFree
        rw [Effect.changes_append, first.effects, others.effects]
        rfl
      · exact (List.mem_append.mp member).elim (first.sends output) (others.sends output)

end Operator.Unfailing

/-! ## A network of them -/

variable {n : Nat} {net : Network n α} {h : History n α}

/-- What is at a place: a source of elements that satisfy `Q` that counts no error itself, or an
operator that never fails on elements that satisfy `P` and then sends elements that satisfy `Q`. -/
inductive Role.Unfailing (P Q : α → Prop) : Role α → Prop
  | source {name : String} {script : Script α} : (∀ value ∈ script.elements, Q value) →
      (∀ turn ∈ script.turns, Effect.ErrorFree turn.effects) →
      Unfailing P Q (.source (.ofScript name script))
  | worker {σ : Type} {operator : Operator α σ} {I : σ → Prop} {inputs : Nat} :
      operator.Unfailing P Q I → Unfailing P Q (.worker operator (.start operator inputs))

/-- Connections lead upwards, and each place that leads to others sends only what these never fail
on. -/
structure Network.Suited (net : Network n α) (takes sends : Fin n → α → Prop) : Prop where
  ascending : ∀ i, ∀ j ∈ net.wiring.downstream i, i < j
  place : ∀ i, net.wiring.downstream i ≠ [] → (net.cell i).role.Unfailing (takes i) (sends i)
  leads : ∀ i, ∀ j ∈ net.wiring.downstream i, ∀ value, sends i value → takes j value

namespace Consistent

/-- What was handled is what a place before sent. -/
theorem exists_emitted (consistent : Consistent net h) {j : Fin n} {message : Message α}
    (handled : message ∈ h.handled j) :
    ∃ i, j ∈ net.wiring.downstream i ∧
      ∃ output ∈ h.emitted i, message = output.from (some i.val) := by
  have received : message ∈ (h.received j).map (·.2) := by
    rw [consistent.inbox]
    exact List.mem_append_left _ handled
  obtain ⟨⟨i, own⟩, member, rfl⟩ := List.mem_map.mp received
  obtain ⟨leads, output, emitted, same⟩ := consistent.of_mem_received member
  exact ⟨i, leads, output, emitted, same⟩

/-- An operator that handled only what is good for it has not failed. -/
theorem moved (consistent : Consistent net h) {j : Fin n} {inputs : Nat}
    (role : (net.cell j).role = .worker operator (.start operator inputs))
    (unfailing : operator.Unfailing P Q I) (good : ∀ message ∈ h.handled j, message.Good P) :
    ∃ w, (h.network.cell j).role = .worker operator w ∧
      (⟨w, h.emitted j, h.effects j⟩ : Move α σ).Unfailing Q I := by
  have ran := consistent.ran j
  rw [role] at ran
  obtain ⟨w, now, run⟩ := ran.of_worker
  have moved := unfailing.run (w := .start operator inputs) unfailing.start
    (Worker.hears_start operator inputs) good
  rw [run] at moved
  exact ⟨w, now, moved⟩

/-- A place that handled only what is good for it sent only what is good. -/
theorem sends_of_unfailing (consistent : Consistent net h) {i : Fin n}
    (place : (net.cell i).role.Unfailing P Q) (good : ∀ message ∈ h.handled i, message.Good P) :
    ∀ output ∈ h.emitted i, output.Good Q := by
  generalize own : (net.cell i).role = role at place
  cases place with
  | source all quiet =>
    obtain ⟨part, ⟨last, sent⟩, -⟩ := consistent.exists_script own
    rw [sent]
    intro output member
    rcases List.mem_append.mp member with element | marker
    · obtain ⟨value, present, rfl⟩ := List.mem_map.mp element
      exact all value (part.subset present)
    · cases last with
      | false => cases marker
      | true => exact List.mem_singleton.mp marker ▸ trivial
  | worker unfailing =>
    obtain ⟨w, -, moved⟩ := consistent.moved own unfailing good
    exact moved.sends

/-- In a network in which places send only what those after them never fail on, every place handles
only what is good for it. -/
theorem takes_of_handled {takes sends : Fin n → α → Prop} (consistent : Consistent net h)
    (suited : net.Suited takes sends) (j : Fin n) :
    ∀ message ∈ h.handled j, message.Good (takes j) := by
  induction j using WellFoundedLT.induction with
  | ind j earlier =>
    intro message handled
    obtain ⟨i, leads, output, emitted, rfl⟩ := consistent.exists_emitted handled
    have good := consistent.sends_of_unfailing (suited.place i (List.ne_nil_of_mem leads))
      (earlier i (suited.ascending i j leads)) output emitted
    cases output with
    | element value => exact suited.leads i j leads value good
    | watermark time => exact good
    | ended => trivial

end Consistent

/-! ## Sources -/

/-- A source on its way through a script: some turns of it are left, and all that was done is that
elements were counted, or stands in the script. -/
structure Source.Follows (own : String) (script : Script α) (s : Source α)
    (effects : List (Effect α)) : Prop where
  name : s.name = own
  left : ∀ turn ∈ s.script.turns, turn ∈ script.turns
  done : ∀ effect ∈ effects, effect = .measured .recordsEmitted [own] (.increase 1) ∨
    ∃ turn ∈ script.turns, effect ∈ turn.effects

theorem Source.Follows.step {name : String} {script : Script α} {s : Source α}
    {effects : List (Effect α)} (follows : s.Follows name script effects) :
    s.step.1.Follows name script (effects ++ s.step.2.2) := by
  obtain ⟨named, left, done⟩ := follows
  unfold Source.step
  split
  · exact ⟨named, left, by simpa using done⟩
  · split
    · exact ⟨named, left, by simpa [finish] using done⟩
    · cases turns : s.script.turns with
      | nil => exact ⟨named, left, by simpa using done⟩
      | cons turn rest =>
        rw [turns] at left
        refine ⟨named, fun other member => left other (List.mem_cons_of_mem _ member), ?_⟩
        intro effect member
        rcases List.mem_append.mp member with old | new
        · exact done effect old
        · rcases List.mem_append.mp new with counted | own
          · obtain ⟨_, -, rfl⟩ := List.mem_map.mp counted
            exact .inl (by rw [named])
          · exact .inr ⟨turn, left turn List.mem_cons_self, own⟩

/-- A source does nothing but count the elements that it sends and do what its script says. -/
theorem Reached.follows {i : Fin n} {name : String} {script : Script α} (reached : Reached net h)
    (role : (net.cell i).role = .source (.ofScript name script)) :
    ∃ s, (h.network.cell i).role = .source s ∧ s.Follows name script (h.effects i) := by
  induction reached with
  | start =>
    exact ⟨_, role, rfl, fun _ member => member, fun _ member => absurd member List.not_mem_nil⟩
  | stop _ ih =>
    obtain ⟨s, now, named, left, done⟩ := ih
    refine ⟨s.stop, ?_, named, left, done⟩
    rw [Network.stop, Network.cell_mapSources, now]
    rfl
  | wake _ ih =>
    obtain ⟨s, now, named, left, done⟩ := ih
    refine ⟨s.wake, ?_, named, left, done⟩
    rw [Network.cell_mapSources, now]
    rfl
  | @step h next k _ stepped ih =>
    obtain ⟨s, now, follows⟩ := ih
    rcases History.step?_cases stepped with
      ⟨j, message, rest, -, -, rfl⟩ | ⟨act, -, acted, rfl⟩
    · refine ⟨s, ?_, follows⟩
      rw [History.cell_deliver]
      exact now
    · by_cases same : k = i
      · subst same
        by_cases able : s.canStep = true
        · simp only [now, Role.act?, able, if_true, Option.some.injEq] at acted
          subst acted
          refine ⟨s.step.1, ?_, ?_⟩
          · rw [History.cell_act, if_pos rfl]
          · simpa [History.act] using follows.step
        · simp [now, Role.act?, able] at acted
      · refine ⟨s, ?_, ?_⟩
        · rw [History.cell_act, if_neg same]
          exact now
        · simpa [History.act, Function.update_of_ne (Ne.symm same)] using follows

/-- In a network in which places send only what those after them never fail on, no place that never
fails on what it takes counts an error. -/
theorem Reached.errorFree {takes sends : Fin n → α → Prop} (fresh : net.Fresh)
    (reached : Reached net h) (suited : net.Suited takes sends) {j : Fin n}
    (place : (net.cell j).role.Unfailing (takes j) Q) : Effect.ErrorFree (h.effects j) := by
  have consistent := reached.consistent fresh
  generalize own : (net.cell j).role = role at place
  cases place with
  | source _ quiet =>
    obtain ⟨s, -, follows⟩ := reached.follows own
    refine List.filterMap_eq_nil_iff.mpr fun effect member => ?_
    rcases follows.done effect member with rfl | ⟨turn, present, said⟩
    · rfl
    · exact List.filterMap_eq_nil_iff.mp (quiet turn present) effect said
  | worker unfailing =>
    obtain ⟨w, -, moved⟩ := consistent.moved own unfailing (consistent.takes_of_handled suited j)
    exact moved.effects

end FlightStream.Dataflow
