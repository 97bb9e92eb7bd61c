import FlightStream.Proofs.Dataflow.Termination
import FlightStream.Proofs.Dataflow.Windowed

/-!
Places with one input, in a history. `Reading` ties what such a place sent to the beginning of its
input that it has read, which is all of it once nothing can step any more. From there follows what
a place that answers each element for itself has sent, and what a windowed place has taken.
-/

namespace FlightStream.Dataflow

variable {n : Nat} {α σ : Type}

/-- The elements that a place has sent. -/
def History.sent (h : History n α) (i : Fin n) : List α := Output.elements (h.emitted i)

/-- The elements that a place has taken. -/
def History.took (h : History n α) (i : Fin n) : List α := (h.handled i).filterMap Message.element?

/-- What the worker at a place has read of its one input, and where that has led it. -/
structure History.Reading (h : History n α) (i j : Fin n) (operator : Operator α σ)
    (stream : List (Output α)) (w : Worker σ) : Prop where
  part : stream <+: h.emitted i
  handled : h.handled j = stream.map (Output.from (some i.val))
  role : (h.network.cell j).role = .worker operator w
  reads : operator.Reads stream w.watermark w.state (h.emitted j)
  whole : h.Still → stream = h.emitted i

namespace Consistent

variable {net : Network n α} {rank : Fin n → Nat} {h : History n α} {i j : Fin n}

/-- Where nothing can step any more, a place has taken all that its sole input sent. -/
theorem handled_of_still (consistent : Consistent net h) (drains : net.Drains rank)
    (sole : net.wiring.Sole i j) (still : h.Still) :
    h.handled j = (h.emitted i).map (Output.from (some i.val)) := by
  have finished := consistent.finished_of_still drains still j
  have channel := consistent.sole_channel sole
  rw [consistent.inbox_of_finished drains.flows finished, History.pending,
    consistent.outbox_of_still drains still i] at channel
  simpa using channel.symm

/-- In the end a place has taken the elements that its sole input sent. -/
theorem took_of_still (consistent : Consistent net h) (drains : net.Drains rank)
    (sole : net.wiring.Sole i j) (still : h.Still) : h.took j = h.sent i := by
  rw [History.took, consistent.handled_of_still drains sole still, List.filterMap_map]
  refine List.filterMap_congr fun output _ => ?_
  cases output <;> rfl

/-- A place with a sole input has taken a beginning of what that sent, and in the end all of it. -/
theorem exists_taken (consistent : Consistent net h) (drains : net.Drains rank)
    (sole : net.wiring.Sole i j) :
    ∃ stream, stream <+: h.emitted i ∧ h.handled j = stream.map (Output.from (some i.val)) ∧
      (h.Still → stream = h.emitted i) := by
  obtain ⟨stream, rest, split, handled⟩ := consistent.exists_stream sole
  have part : stream <+: h.emitted i := ⟨rest, split.symm⟩
  refine ⟨stream, part, handled, fun still => ?_⟩
  have all := consistent.handled_of_still drains sole still
  rw [handled] at all
  exact part.eq_of_length (by simpa using congrArg List.length all)

/-- A worker with one input, which keeps the time of that input, reads it. -/
theorem exists_reading (consistent : Consistent net h) (drains : net.Drains rank)
    (sole : net.wiring.Sole i j) {operator : Operator α σ}
    (role : (net.cell j).role = .worker operator (.start operator 1))
    (clock : operator.ownClock = none) {ok : Number → α → Prop}
    (orderly : Output.Orderly ok (h.emitted i)) :
    ∃ stream w, h.Reading i j operator stream w := by
  obtain ⟨stream, part, handled, whole⟩ := consistent.exists_taken drains sole
  have ran := consistent.ran j
  rw [role] at ran
  obtain ⟨w, now, run⟩ := ran.of_worker
  have reads := (Worker.listens_run clock (some i.val) (orderly.sublist part.sublist)).2
  rw [← handled, run] at reads
  exact ⟨stream, w, part, handled, now, reads, whole⟩

/-- A place that answers each element for itself sends the answers to what it has read, in order;
once nothing can step any more these are the answers to all. -/
theorem answered (consistent : Consistent net h) (drains : net.Drains rank)
    (sole : net.wiring.Sole i j) {name : String} {answer : α → Except Fault (List α)}
    (role : (net.cell j).role = .worker (Operators.perElement name answer)
      (.start (Operators.perElement name answer) 1))
    {ok : Number → α → Prop} (orderly : Output.Orderly ok (h.emitted i))
    (kept : Number → α → Prop) (keeps : ∀ time value values, ok time value → answer value = .ok values →
      ∀ made ∈ values, kept time made) :
    Output.Orderly kept (h.emitted j) ∧
      h.sent j <+: (h.sent i).flatMap (fun value => (answer value).toOption.getD []) ∧
      (h.Still → h.sent j = (h.sent i).flatMap fun value => (answer value).toOption.getD []) := by
  obtain ⟨stream, w, reading⟩ := consistent.exists_reading drains sole role rfl orderly
  have sent := Operators.reads_perElement reading.reads
  have elements : h.sent j =
      (Output.elements stream).flatMap fun value => (answer value).toOption.getD [] := by
    rw [History.sent, sent, Output.elements_through]
  refine ⟨?_, ?_, fun still => ?_⟩
  · rw [sent]
    exact (orderly.sublist reading.part.sublist).answered keeps
  · obtain ⟨rest, whole⟩ := reading.part
    rw [elements, History.sent, ← whole]
    unfold Output.elements
    rw [List.filterMap_append, List.flatMap_append]
    exact List.prefix_append _ _
  · rw [elements, reading.whole still]
    rfl

end Consistent

/-! ## Sources -/

/-- The elements of a script. -/
def Script.elements (script : Script α) : List α := script.turns.flatMap (·.outputs)

theorem Output.elements_marked (values : List α) (done : Bool) :
    elements (values.map .element ++ if done then [.ended] else []) = values := by
  have marker : elements (if done then [.ended] else [] : List (Output α)) = [] := by
    split <;> rfl
  rw [elements, List.filterMap_append, ← elements, ← elements, marker, List.append_nil, elements,
    List.filterMap_map]
  exact List.filterMap_some

/-- A source sends the first elements of its script, and the end after them. Once it has finished
without being stopped, it has sent all. -/
theorem Consistent.exists_script {net : Network n α} {h : History n α} {i : Fin n}
    (consistent : Consistent net h) {name : String} {script : Script α}
    (role : (net.cell i).role = .source (.ofScript name script)) :
    h.sent i <+: script.elements ∧
      (∃ last : Bool, h.emitted i = (h.sent i).map .element ++ if last then [.ended] else []) ∧
      ((h.network.cell i).role.Unstopped → (h.network.cell i).role.isFinished = true →
        h.sent i = script.elements) := by
  have ran := consistent.ran i
  rw [role] at ran
  unfold History.sent
  generalize h.handled i = handled, h.emitted i = emitted, h.effects i = effects,
    (h.network.cell i).role = now at ran ⊢
  cases ran with
  | @source before now emitted effects took =>
    obtain ⟨-, taken, turns, sent⟩ := took
    have elements : Output.elements emitted = taken.flatMap (·.outputs) := by
      rw [sent]
      exact Output.elements_marked _ _
    have whole : script.elements =
        taken.flatMap (·.outputs) ++ now.script.turns.flatMap (·.outputs) := by
      rw [Script.elements, ← List.flatMap_append, ← turns]
      rfl
    rw [elements]
    refine ⟨⟨_, whole.symm⟩, ⟨now.finished, sent⟩, fun unstopped finished => ?_⟩
    rw [whole, unstopped.2 finished, List.flatMap_nil, List.append_nil]

/-- A beginning of some elements, and perhaps the end, is again that. -/
theorem Output.exists_of_prefix {stream : List (Output α)} {values : List α} {last : Bool}
    (part : stream <+: values.map .element ++ if last then [.ended] else []) :
    ∃ first : List α, ∃ done : Bool, first <+: values ∧
      stream = first.map .element ++ if done then [.ended] else [] := by
  have shorter : stream <+: values.map .element → ∃ first : List α, ∃ done : Bool,
      first <+: values ∧ stream = first.map .element ++ if done then [.ended] else [] := by
    intro below
    obtain ⟨first, shared, rfl⟩ := List.prefix_map_iff.mp below
    exact ⟨first, false, shared, (List.append_nil _).symm⟩
  cases last with
  | false => exact shorter (by simpa using part)
  | true =>
    rcases List.prefix_concat_iff.mp part with whole | below
    · exact ⟨values, true, List.prefix_rfl, whole⟩
    · exact shorter below

/-! ## Windowed places -/

namespace Operators

variable {κ ρ : Type} [BEq κ] [EquivBEq κ] {s : Sliding α κ σ ρ} {P : α → Prop}
  {wrap : TimestampedEntry Int κ ρ → α} {name : String}

/-- Every element that a windowed operator took went into all of its windows, which hold it once it
was handled. -/
def TakesAll (name : String) (agg : WindowAggregator Int Int α κ σ ρ)
    (wrap : TimestampedEntry Int κ ρ → α) (handled : List (Message α)) : Prop :=
  ∀ before value after, handled = before ++ .element value :: after →
    let now := ((Worker.start (window name agg wrap) 1).run (window name agg wrap) before).worker
    let next := ((Worker.start (window name agg wrap) 1).run (window name agg wrap)
      (before ++ [.element value])).worker
    agg.TakenByAll now.watermark now.state next.state value

/-- A windowed operator takes every element of a stream in time into all windows. -/
theorem takesAll_of_timely {A : σ → Prop} (folds : s.Folds P A) {stream : List (Output α)}
    (orderly : Output.Orderly s.Timely stream) (all : ∀ value, .element value ∈ stream → P value)
    (origin : Origin) :
    TakesAll name s.aggregator wrap (stream.map (Output.from origin)) := by
  intro before value after split
  obtain ⟨first, last, rfl, early, rest⟩ := List.map_eq_append_iff.mp split
  obtain ⟨output, others, rfl, same, -⟩ := List.map_eq_cons_iff.mp rest
  have element : output = .element value := by
    cases output with
    | element other =>
      cases same
      rfl
    | watermark time => cases same
    | ended => cases same
  subst element early
  have order : Output.Orderly s.Timely (first ++ [.element value]) :=
    orderly.sublist (List.Sublist.append_left (List.singleton_sublist.mpr List.mem_cons_self) _)
  have earlier := order.sublist (List.sublist_append_left _ _)
  have clock : (window name s.aggregator wrap).ownClock = none := rfl
  obtain ⟨listens, reads⟩ := Worker.listens_run clock origin earlier
  obtain ⟨-, each⟩ := late_of_timely folds reads earlier
    fun other member => all other (List.mem_append_left _ member)
  have own := all value (List.mem_append_right _ List.mem_cons_self)
  have unfinished : ((Worker.start (window name s.aggregator wrap) 1).run
      (window name s.aggregator wrap) (first.map (Output.from origin))).worker.finished = false := by
    rw [← Bool.not_eq_true, listens.finished]
    exact order.not_ended
  rw [Worker.run_concat, unfinished, if_neg Bool.false_ne_true]
  show s.aggregator.TakenByAll _ _ ((window name s.aggregator wrap).behaviour.element _ _ value).state
    value
  rw [state_window_element]
  exact (folds.accumulate own (timely_last reads order) each).1

end Operators

/-- What a windowed place has sent: entries, each within the lateness of the watermarks before it and
the result over some of the elements that came. -/
structure History.Gathers {κ ρ : Type} (h : History n α) (i j : Fin n) (s : Sliding α κ σ ρ)
    (wrap : TimestampedEntry Int κ ρ → α) (entries : List (TimestampedEntry Int κ ρ)) : Prop where
  sent : h.sent j = entries.map wrap
  orderly : Output.Orderly (fun time value => ∃ entry, value = wrap entry ∧
    time.lt (.int (entry.timestamp + s.lateness)) = true) (h.emitted j)
  results : ∀ entry ∈ entries, ∃ items, items ≠ [] ∧ (∀ value ∈ items, value ∈ h.sent i) ∧
    s.aggregation.run items = .ok entry.value

/-- Nothing was late at a windowed place: it took every element into all of its windows, and counted
none as late. -/
structure History.NothingLate {κ ρ : Type} [BEq κ] (h : History n α) (j : Fin n) (name : String)
    (agg : WindowAggregator Int Int α κ σ ρ) (wrap : TimestampedEntry Int κ ρ → α) : Prop where
  taken : Operators.TakesAll name agg wrap (h.handled j)
  unlate : ∃ w, (h.network.cell j).role = .worker (Operators.window name agg wrap) w ∧
    w.state.late = 0

/-- What a windowed place has come to on elements in time: nothing was late, and in the end every
window has the result over all that belongs there. -/
structure History.InTime {κ ρ : Type} [BEq κ] (h : History n α) (i j : Fin n) (name : String)
    (s : Sliding α κ σ ρ) (wrap : TimestampedEntry Int κ ρ → α)
    (entries : List (TimestampedEntry Int κ ρ)) : Prop where
  nothingLate : h.NothingLate j name s.aggregator wrap
  delivers : h.Still → ∀ start key, s.Delivers start key
    ((h.sent i).filter fun value => s.covers value start key)
    (s.aggregator.entriesAt start key entries)

/-- Nothing is late at a windowed place if the elements that its one input sends are in time. -/
theorem Consistent.nothingLate {κ ρ : Type} [BEq κ] [EquivBEq κ] {net : Network n α}
    {rank : Fin n → Nat} {h : History n α} {i j : Fin n} (consistent : Consistent net h)
    (drains : net.Drains rank) (sole : net.wiring.Sole i j) {name : String}
    {s : Sliding α κ σ ρ} {wrap : TimestampedEntry Int κ ρ → α} {P : α → Prop}
    (role : (net.cell j).role = .worker (Operators.window name s.aggregator wrap)
      (.start (Operators.window name s.aggregator wrap) 1))
    {A : σ → Prop} (folds : s.Folds P A) (orderly : Output.Orderly s.Timely (h.emitted i))
    (all : ∀ value ∈ h.sent i, P value) : h.NothingLate j name s.aggregator wrap := by
  obtain ⟨stream, w, reading⟩ := consistent.exists_reading drains sole role rfl orderly
  have timely := orderly.sublist reading.part.sublist
  have items : ∀ value, .element value ∈ stream → P value := fun value member =>
    all value (List.mem_filterMap.mpr ⟨_, reading.part.subset member, rfl⟩)
  refine ⟨?_, w, reading.role, (Operators.late_of_timely folds reading.reads timely items).1⟩
  rw [reading.handled]
  exact Operators.takesAll_of_timely folds timely items _

/-- A windowed place, and what it comes to if the elements that its one input sends are in time. -/
theorem Consistent.gathers {κ ρ : Type} [BEq κ] [EquivBEq κ] {net : Network n α}
    {rank : Fin n → Nat} {h : History n α} {i j : Fin n} (consistent : Consistent net h)
    (drains : net.Drains rank) (sole : net.wiring.Sole i j) {name : String}
    {s : Sliding α κ σ ρ} {wrap : TimestampedEntry Int κ ρ → α} {P : α → Prop}
    (role : (net.cell j).role = .worker (Operators.window name s.aggregator wrap)
      (.start (Operators.window name s.aggregator wrap) 1))
    (sound : s.Sound P) {A : σ → Prop} (folds : s.Folds P A) {ok : Number → α → Prop}
    (orderly : Output.Orderly ok (h.emitted i)) (all : ∀ value ∈ h.sent i, P value) :
    ∃ entries, h.Gathers i j s wrap entries ∧
      (Output.Orderly s.Timely (h.emitted i) → h.InTime i j name s wrap entries) := by
  obtain ⟨stream, w, reading⟩ := consistent.exists_reading drains sole role rfl orderly
  have order := orderly.sublist reading.part.sublist
  have came : ∀ value, .element value ∈ stream → value ∈ h.sent i := fun value member =>
    List.mem_filterMap.mpr ⟨_, reading.part.subset member, rfl⟩
  have items : ∀ value, .element value ∈ stream → P value := fun value member =>
    all value (came value member)
  obtain ⟨entries, windowed⟩ := Operators.reads_window sound reading.reads order items
  refine ⟨entries, ⟨windowed.elements, windowed.orderly, fun entry member => ?_⟩, fun timely => ?_⟩
  · obtain ⟨members, some_, from_, ran⟩ := windowed.result_of_mem sound items member
    exact ⟨members, some_, fun value present => came value (from_ value present), ran⟩
  · refine ⟨consistent.nothingLate drains sole role folds timely all, fun still start key => ?_⟩
    have whole := reading.whole still
    subst whole
    refine windowed.delivers sound timely items ?_ start key
    have leads : j ∈ net.wiring.downstream i :=
      List.count_pos_iff.mp (sole.once.symm ▸ Nat.one_pos)
    obtain ⟨before, -, sent⟩ := consistent.emitted_end drains.flows leads
    rw [consistent.finished_of_still drains still i, if_pos rfl] at sent
    rw [sent]
    exact List.mem_append_right _ (List.mem_singleton_self _)

/-- Entries sent within the lateness of the watermarks before them, each turned into one element with
the time of the entry, are in time for other windows with that lateness. -/
theorem Consistent.second_pass {κ κ' ρ ρ' σ' : Type} [BEq κ'] [EquivBEq κ'] {net : Network n α}
    {rank : Fin n → Nat} {h : History n α} {i j k l : Fin n} (consistent : Consistent net h)
    (drains : net.Drains rank) (enters : net.wiring.Sole j k) (leaves : net.wiring.Sole k l)
    {s : Sliding α κ σ ρ} {wrap : TimestampedEntry Int κ ρ → α}
    {entries : List (TimestampedEntry Int κ ρ)} (gathers : h.Gathers i j s wrap entries)
    {enrich name : String} {answer : α → Except Fault (List α)}
    (role : (net.cell k).role = .worker (Operators.perElement enrich answer)
      (.start (Operators.perElement enrich answer) 1))
    {make : TimestampedEntry Int κ ρ → α} (answers : ∀ entry, answer (wrap entry) = .ok [make entry])
    {s' : Sliding α κ' σ' ρ'} {wrap' : TimestampedEntry Int κ' ρ' → α}
    (windowed : (net.cell l).role = .worker (Operators.window name s'.aggregator wrap')
      (.start (Operators.window name s'.aggregator wrap') 1))
    (timed : ∀ entry, s'.timeOf (make entry) = .ok entry.timestamp)
    (lateness : s'.lateness = s.lateness)
    {P : α → Prop} (sound : s'.Sound P) {A : σ' → Prop} (folds : s'.Folds P A)
    (all : ∀ entry, P (make entry)) :
    h.sent k <+: entries.map make ∧ (h.Still → h.sent k = entries.map make) ∧
      ∃ entries', h.Gathers k l s' wrap' entries' ∧ h.InTime k l name s' wrap' entries' := by
  have made : (h.sent j).flatMap (fun value => (answer value).toOption.getD []) =
      entries.map make := by
    rw [gathers.sent, List.flatMap_map, List.map_eq_flatMap]
    refine List.flatMap_congr fun entry _ => ?_
    rw [answers]
    rfl
  obtain ⟨orderly, part, whole⟩ := consistent.answered drains enters role gathers.orderly
    s'.Timely fun time value values told answered made member => by
      obtain ⟨entry, rfl, within⟩ := told
      rw [answers] at answered
      cases answered
      rw [List.mem_singleton.mp member]
      intro own known
      rw [timed] at known
      cases known
      refine Number.lt_of_lt_of_le within (Number.le_int_iff.mpr ?_)
      omega
  rw [made] at part whole
  have items : ∀ value ∈ h.sent k, P value := by
    intro value member
    obtain ⟨entry, -, rfl⟩ := List.mem_map.mp (part.subset member)
    exact all entry
  obtain ⟨entries', given, inTime⟩ := consistent.gathers drains leaves windowed sound folds orderly
    items
  exact ⟨part, whole, entries', given, inTime orderly⟩

end FlightStream.Dataflow
