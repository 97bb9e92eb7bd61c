import FlightStream.Proofs.Dataflow.Hooks
import FlightStream.Proofs.Keyed
import FlightStream.Proofs.Number.Order
import Mathlib.Data.Finset.Lattice.Fold

/-!
The watermark of an operator with several inputs. Each input promises the greatest watermark that
it has sent: nothing before the first one, and everything once it has ended. While some input goes
on, the watermark of the operator is the least of these promises, whatever the operator does with
elements and watermarks and whether it fails at them.

`Heard` ties what a worker has noted of its inputs to their promises. `advance_cases` says all that
a worker does when a promise may have risen, `minds_run` follows the watermark through a run, and
`fan_in_law` puts together what is sent on and when the operator has its last say.
-/

namespace FlightStream.Dataflow

variable {α σ : Type}

/-! ## Promises of inputs -/

/-- What a message promises for an input: the rank of its watermark, the top with its end. -/
def Message.promise (origin : Origin) : Message α → WithBot (WithTop ℚ)
  | element _ => ⊥
  | watermark time sender => if sender = origin then time.rank?.getD ⊥ else ⊥
  | ended sender => if sender = origin then ⊤ else ⊥

/-- What an input has promised over messages: the rank of the greatest watermark that it sent, the
bottom before the first one, and the top once it has ended. -/
def promised (messages : List (Message α)) (origin : Origin) : WithBot (WithTop ℚ) :=
  messages.foldr (fun message later => max (message.promise origin) later) ⊥

/-- The least that some inputs have promised over messages. -/
def leastPromised (origins : List Origin) (messages : List (Message α)) : WithBot (WithTop ℚ) :=
  origins.toFinset.inf (promised messages)

/-- Messages from some inputs: there is at least one, each of them has a name of its own, every
marker is from one of them, and no watermark is NaN. -/
structure Fan (origins : List Origin) (messages : List (Message α)) : Prop where
  nonempty : origins ≠ []
  nodup : origins.Nodup
  watermark : ∀ time origin, .watermark time origin ∈ messages → time.Ranked ∧ origin ∈ origins
  ended : ∀ origin, .ended origin ∈ messages → origin ∈ origins

/-- What an operator itself sends are elements; the markers are sent by its worker. -/
structure Operator.SendsElements (operator : Operator α σ) : Prop where
  element : ∀ time state value, ∀ output ∈ (operator.behaviour.element time state value).outputs,
    ∃ made, output = .element made
  advanced : ∀ time state, ∀ output ∈ (operator.behaviour.advanced time state).outputs,
    ∃ made, output = .element made
  finish : ∀ time state, ∀ output ∈ (operator.behaviour.finish time state).outputs,
    ∃ made, output = .element made

theorem promised_concat (messages : List (Message α)) (message : Message α) (origin : Origin) :
    promised (messages ++ [message]) origin =
      max (promised messages origin) (message.promise origin) := by
  induction messages with
  | nil => simp [promised]
  | cons first rest ih =>
    simp only [promised, List.cons_append, List.foldr_cons] at ih ⊢
    rw [ih, max_assoc]

theorem promised_le_concat (messages : List (Message α)) (message : Message α)
    (origin : Origin) : promised messages origin ≤ promised (messages ++ [message]) origin := by
  rw [promised_concat]
  exact le_max_left _ _

theorem Fan.initial {origins : List Origin} {messages before : List (Message α)}
    (fan : Fan origins messages) (initial : before <+: messages) : Fan origins before where
  nonempty := fan.nonempty
  nodup := fan.nodup
  watermark time origin member := fan.watermark time origin (initial.subset member)
  ended origin member := fan.ended origin (initial.subset member)

/-! ## What a worker has heard -/

namespace Worker

/-- What was heard of inputs with these promises. An input that was not heard of promises
nothing. -/
structure Heard (origins : List Origin) (promises : Origin → WithBot (WithTop ℚ))
    (heard : Keyed Origin Number) : Prop where
  distinct : heard.Distinct
  known : ∀ entry ∈ heard, entry.1 ∈ origins
  rank : ∀ origin ∈ origins,
    ((heard.find? origin).getD .negInfinity).rank? = some (promises origin)

variable {origins : List Origin} {promises next : Origin → WithBot (WithTop ℚ)}
  {heard : Keyed Origin Number}

theorem Heard.congr (hears : Heard origins promises heard)
    (same : ∀ origin ∈ origins, next origin = promises origin) : Heard origins next heard where
  distinct := hears.distinct
  known := hears.known
  rank origin member := same origin member ▸ hears.rank origin member

theorem Heard.rank_of_mem (hears : Heard origins promises heard) {entry : Origin × Number}
    (member : entry ∈ heard) : entry.2.rank? = some (promises entry.1) := by
  have rank := hears.rank entry.1 (hears.known entry member)
  rwa [Keyed.find?_of_mem hears.distinct member] at rank

/-- Noting a time of one input. -/
theorem Heard.set (hears : Heard origins promises heard) {origin : Origin}
    (own : origin ∈ origins) {time : Number} (rank : time.rank? = some (next origin))
    (others : ∀ other ∈ origins, other ≠ origin → next other = promises other) :
    Heard origins next (heard.set origin time) where
  distinct := Keyed.distinct_set hears.distinct origin time
  known entry member := by
    rcases Keyed.key_of_mem_set member with same | ⟨old, present, same⟩
    · exact same ▸ own
    · exact same ▸ hears.known old present
  rank other member := by
    by_cases same : origin = other
    · subst same
      rw [Keyed.find?_set_self]
      exact rank
    · rw [Keyed.find?_set_ne heard time same, others other member (Ne.symm same)]
      exact hears.rank other member

/-- The least of ranked times has the least of their ranks. -/
theorem leastHeard_spec {rank : Origin × Number → WithBot (WithTop ℚ)} (nonempty : heard ≠ [])
    (ranked : ∀ entry ∈ heard, entry.2.rank? = some (rank entry)) :
    ∃ time least, leastHeard heard = some time ∧ time.rank? = some least ∧
      (∀ entry ∈ heard, least ≤ rank entry) ∧ ∃ entry ∈ heard, rank entry = least := by
  obtain ⟨first, rest, rfl⟩ := List.exists_cons_of_ne_nil nonempty
  show ∃ time least, some (rest.foldl (fun least entry => least.earlier entry.2) first.2) =
    some time ∧ _
  induction rest using List.reverseRecOn with
  | nil =>
    exact ⟨first.2, rank first, rfl, ranked first List.mem_cons_self, by simp, by simp⟩
  | append_singleton before last ih =>
    obtain ⟨time, least, folded, own, below, entry, member, same⟩ :=
      ih (List.cons_ne_nil _ _) fun entry member => ranked entry (by
        rw [← List.cons_append]
        exact List.mem_append_left _ member)
    have lastRank := ranked last (by simp)
    rw [List.foldl_concat, Option.some.inj folded]
    refine ⟨_, _, rfl, Number.rank?_earlier own lastRank, fun other there => ?_, ?_⟩
    · rw [← List.cons_append] at there
      rcases List.mem_append.mp there with old | new
      · exact (min_le_left _ _).trans (below other old)
      · exact List.mem_singleton.mp new ▸ min_le_right _ _
    · rcases le_total least (rank last) with order | order
      · refine ⟨entry, ?_, by rw [same, min_eq_left order]⟩
        rw [← List.cons_append]
        exact List.mem_append_left _ member
      · exact ⟨last, by simp, (min_eq_right order).symm⟩

/-- The time that the inputs allow has the rank of the least promise. As long as one of them was not
heard of, there is none, and the least promise is nothing. -/
theorem Heard.combined? (hears : Heard origins promises heard) (nodup : origins.Nodup)
    (nonempty : origins ≠ []) {w : Worker σ} (inputs : w.inputs = origins.length)
    (own : w.heard = heard) :
    (w.combined? = none ∧ origins.toFinset.inf promises = ⊥) ∨
      ∃ time, w.combined? = some time ∧ time.rank? = some (origins.toFinset.inf promises) := by
  have known : heard.keys ⊆ origins := by
    intro origin member
    obtain ⟨entry, present, rfl⟩ := List.mem_map.mp member
    exact hears.known entry present
  have count : heard.keys.length = heard.length := List.length_map ..
  unfold Worker.combined?
  rw [own, inputs]
  by_cases few : heard.length < origins.length
  · rw [if_pos few]
    refine .inl ⟨rfl, ?_⟩
    obtain ⟨origin, member, unheard⟩ : ∃ origin ∈ origins, origin ∉ heard.keys := by
      by_contra all
      push Not at all
      have := (List.subperm_of_subset nodup all).length_le
      omega
    have silent : heard.find? origin = none := by
      cases found : heard.find? origin with
      | none => rfl
      | some time => exact absurd (List.mem_map_of_mem (Keyed.mem_of_find? found)) unheard
    have rank := hears.rank origin member
    rw [silent, Option.getD_none, Number.rank?_negInfinity] at rank
    exact le_bot_iff.mp ((Finset.inf_le (List.mem_toFinset.mpr member)).trans
      (Option.some.inj rank).ge)
  · rw [if_neg few]
    have all : origins ⊆ heard.keys := by
      have sub := List.subperm_of_subset (Keyed.nodup_keys hears.distinct) known
      exact (sub.perm_of_length_le (by omega)).symm.subset
    have some_ : heard ≠ [] := by
      rintro rfl
      exact nonempty (List.subset_nil.mp all)
    obtain ⟨time, least, combined, rank, below, entry, member, same⟩ :=
      leastHeard_spec some_ fun entry member => hears.rank_of_mem member
    refine .inr ⟨time, combined, rank.trans (congrArg some (le_antisymm ?_ ?_))⟩
    · refine Finset.le_inf fun origin there => ?_
      obtain ⟨other, present, rfl⟩ := List.mem_map.mp (all (List.mem_toFinset.mp there))
      exact below other present
    · exact same ▸ Finset.inf_le (List.mem_toFinset.mpr (hears.known entry member))

/-! ## Advancing -/

/-- A worker whose watermark has the rank of the least promise of its inputs. -/
structure Minds (origins : List Origin) (promises : Origin → WithBot (WithTop ℚ)) (w : Worker σ) :
    Prop where
  inputs : w.inputs = origins.length
  heard : Heard origins promises w.heard
  watermark : w.watermark.rank? = some (origins.toFinset.inf promises)

/-- What a worker does once it has noted promises that are not below the ones before: nothing if
the least of them has not risen, or it raises its watermark to that, tells its operator, and sends
the watermark on after what the operator sends. -/
theorem advance_cases {operator : Operator α σ} (clock : operator.ownClock = none)
    (nodup : origins.Nodup) (nonempty : origins ≠ []) {w : Worker σ}
    (inputs : w.inputs = origins.length) (hears : Heard origins next w.heard)
    (watermark : w.watermark.rank? = some (origins.toFinset.inf promises))
    (grown : ∀ origin ∈ origins, promises origin ≤ next origin) :
    (w.advance operator = ⟨w, [], []⟩ ∧ w.Minds origins next) ∨
      ∃ time, w.watermark.lt time = true ∧
        ({ w with watermark := time } : Worker σ).Minds origins next ∧
        (w.advance operator).worker =
          { w with watermark := time, state := (operator.behaviour.advanced time w.state).state } ∧
        (w.advance operator).outputs =
          (operator.behaviour.advanced time w.state).outputs ++ [.watermark time] := by
  have risen : origins.toFinset.inf promises ≤ origins.toFinset.inf next :=
    Finset.inf_mono_fun fun origin member => grown origin (List.mem_toFinset.mp member)
  unfold advance
  rw [clock]
  rcases hears.combined? nodup nonempty inputs rfl with ⟨none, bottom⟩ | ⟨time, some_, rank⟩
  · rw [none]
    refine .inl ⟨rfl, inputs, hears, watermark.trans (congrArg some ?_)⟩
    rw [bottom, le_bot_iff] at risen
    rw [risen, bottom]
  · rw [some_]
    dsimp only
    by_cases held : time.le w.watermark = true
    · rw [if_pos held]
      refine .inl ⟨rfl, inputs, hears, watermark.trans (congrArg some (le_antisymm risen ?_))⟩
      simpa [Number.le_iff, rank, watermark] using held
    · rw [if_neg held]
      have later : w.watermark.lt time = true := by
        rw [Number.lt_eq_not_le (by simp [Number.Ranked, watermark])
          (by simp [Number.Ranked, rank]), Bool.eq_false_iff.mpr held]
        rfl
      exact .inr ⟨time, later, ⟨inputs, hears, rank⟩, rfl, rfl⟩

/-! ## One message -/

variable {operator : Operator α σ} {messages : List (Message α)} {message : Message α}
  {w : Worker σ}

/-- What a worker that goes on does with a message: it keeps its watermark and sends on elements
only, or raises the watermark, and sends it on after what the operator sends then. -/
def Passes (operator : Operator α σ) (w : Worker σ) (move : Move α σ) : Prop :=
  (move.worker.watermark = w.watermark ∧
      ∀ output ∈ move.outputs, ∃ value, output = .element value) ∨
    (w.watermark.lt move.worker.watermark = true ∧
      move.outputs = (operator.behaviour.advanced move.worker.watermark w.state).outputs ++
        [.watermark move.worker.watermark])

/-- Noting a marker of an input. -/
theorem Minds.advance (clock : operator.ownClock = none)
    (minds : w.Minds origins (promised messages)) (fan : Fan origins (messages ++ [message]))
    {noted : Worker σ} (inputs : noted.inputs = w.inputs)
    (watermark : noted.watermark = w.watermark) (state : noted.state = w.state)
    {origin : Origin} {time : Number}
    (heard : noted.heard = w.heard.set origin time) (own : origin ∈ origins)
    (rank : time.rank? = some (promised (messages ++ [message]) origin))
    (silent : ∀ other, other ≠ origin → message.promise other = ⊥) :
    (noted.advance operator).worker.Minds origins (promised (messages ++ [message])) ∧
      Passes operator w (noted.advance operator) := by
  have hears : Heard origins (promised (messages ++ [message])) noted.heard := by
    rw [heard]
    refine minds.heard.set own rank fun other _ apart => ?_
    rw [promised_concat, silent other apart, max_bot_right]
  rcases advance_cases clock fan.nodup fan.nonempty (inputs.trans minds.inputs) hears
      (watermark ▸ minds.watermark) fun other _ => promised_le_concat messages message other with
    ⟨still, kept⟩ | ⟨later, above, kept, worker, outputs⟩
  · rw [still]
    exact ⟨kept, .inl ⟨watermark, fun output member => nomatch member⟩⟩
  · have risen : (noted.advance operator).worker.watermark = later := congrArg (·.watermark) worker
    refine ⟨?_, .inr ⟨?_, ?_⟩⟩
    · rw [worker]
      exact ⟨kept.inputs, kept.heard, kept.watermark⟩
    · rw [risen, ← watermark]
      exact above
    · rw [risen, outputs, state]

/-- A message after which some input goes on. -/
theorem Minds.step (clock : operator.ownClock = none) (plain : operator.SendsElements)
    (minds : w.Minds origins (promised messages)) (fan : Fan origins (messages ++ [message]))
    (unfinished : (w.step operator message).worker.finished = false) :
    (w.step operator message).worker.Minds origins (promised (messages ++ [message])) ∧
      Passes operator w (w.step operator message) := by
  have last : message ∈ messages ++ [message] := by simp
  cases message with
  | element value =>
    have same : ∀ origin ∈ origins,
        promised (messages ++ [.element value]) origin = promised messages origin :=
      fun origin _ => by rw [promised_concat, Message.promise, max_bot_right]
    refine ⟨⟨minds.inputs, minds.heard.congr same, minds.watermark.trans ?_⟩, .inl ⟨rfl, ?_⟩⟩
    · exact congrArg some (Finset.inf_congr rfl fun origin member =>
        (same origin (List.mem_toFinset.mp member)).symm)
    · exact plain.element _ _ value
  | watermark time origin =>
    obtain ⟨ranked, own⟩ := fan.watermark time origin last
    obtain ⟨x, rank⟩ := Option.isSome_iff_exists.mp ranked
    refine minds.advance clock fan rfl rfl rfl rfl own ?_ fun other apart => if_neg (Ne.symm apart)
    rw [Number.rank?_later rank (minds.heard.rank origin own), promised_concat, max_comm]
    simp [Message.promise, rank]
  | ended origin =>
    have own := fan.ended origin last
    simp only [Worker.step, endInput] at unfinished ⊢
    generalize (if w.ended.contains origin then w.ended else w.ended ++ [origin]) = ended
      at unfinished ⊢
    by_cases all : w.inputs ≤ ended.length
    · rw [if_pos all] at unfinished
      cases unfinished
    · rw [if_neg all]
      refine minds.advance clock fan rfl rfl rfl rfl own ?_
        fun other apart => if_neg (Ne.symm apart)
      rw [Number.rank?_infinity, promised_concat]
      simp [Message.promise]

/-- The end of the last input: the operator has its last say, and the end is sent on after it. -/
theorem step_last (clock : operator.ownClock = none) (going : w.finished = false)
    (finished : (w.step operator message).worker.finished = true) :
    (∃ origin, message = .ended origin) ∧
      (w.step operator message).worker.watermark = w.watermark ∧
      (w.step operator message).outputs =
        (operator.behaviour.finish w.watermark w.state).outputs ++ [.ended] := by
  cases message with
  | element value => exact absurd (going.symm.trans finished) (by decide)
  | watermark time origin =>
    have kept := (advance_keeps operator (w.hear time origin)).2.2.1
    exact absurd ((kept.trans going).symm.trans finished) (by decide)
  | ended origin =>
    simp only [Worker.step, endInput] at finished ⊢
    generalize (if w.ended.contains origin then w.ended else w.ended ++ [origin]) = ended
      at finished ⊢
    by_cases all : w.inputs ≤ ended.length
    · rw [if_pos all]
      have time : ({ w with ended := ended } : Worker σ).current operator = w.watermark := by
        unfold current
        rw [clock]
      refine ⟨⟨origin, rfl⟩, rfl, ?_⟩
      rw [time]
      rfl
    · rw [if_neg all] at finished
      have kept := (advance_keeps operator
        { w with ended := ended, heard := w.heard.set origin .infinity }).2.2.1
      exact absurd ((kept.trans going).symm.trans finished) (by decide)

end Worker

/-! ## Whole runs -/

/-- The watermark that an output is. -/
def Output.watermark? : Output α → Option Number
  | watermark time => some time
  | _ => none

/-- The watermarks among outputs. -/
def Output.watermarks (outputs : List (Output α)) : List Number := outputs.filterMap watermark?

theorem Output.watermarks_of_elements {outputs : List (Output α)}
    (plain : ∀ output ∈ outputs, ∃ value, output = .element value) : watermarks outputs = [] := by
  refine List.filterMap_eq_nil_iff.mpr fun output member => ?_
  obtain ⟨value, rfl⟩ := plain output member
  rfl

theorem Output.watermarks_append (first second : List (Output α)) :
    watermarks (first ++ second) = watermarks first ++ watermarks second := List.filterMap_append

namespace Operator

variable (operator : Operator α σ) (origins : List Origin)

/-- The worker of an operator with these inputs after messages, with what it sent and did. -/
def fanIn (messages : List (Message α)) : Move α σ :=
  (Worker.start operator origins.length).run operator messages

/-- The watermark that such a worker has after messages. -/
def timeAfter (messages : List (Message α)) : Number :=
  (operator.fanIn origins messages).worker.watermark

/-- The values that the watermark took in turn over messages. -/
def timesTaken (messages : List (Message α)) : List Number :=
  (List.range messages.length).filterMap fun count =>
    if (operator.timeAfter origins (messages.take count)).lt
        (operator.timeAfter origins (messages.take (count + 1))) then
      some (operator.timeAfter origins (messages.take (count + 1)))
    else none

variable {operator origins} {messages : List (Message α)} {message : Message α}

theorem keepsOpen_of_sendsElements (plain : operator.SendsElements) : operator.KeepsOpen where
  element time state value member := nomatch (plain.element time state value _ member).choose_spec
  advanced time state member := nomatch (plain.advanced time state _ member).choose_spec
  finish time state member := nomatch (plain.finish time state _ member).choose_spec

theorem timesTaken_concat (messages : List (Message α)) (message : Message α) :
    operator.timesTaken origins (messages ++ [message]) = operator.timesTaken origins messages ++
      if (operator.timeAfter origins messages).lt
          (operator.timeAfter origins (messages ++ [message])) then
        [operator.timeAfter origins (messages ++ [message])]
      else [] := by
  unfold timesTaken
  rw [List.length_append, List.length_singleton, List.range_succ, List.filterMap_append]
  congr 1
  · refine List.filterMap_congr fun count member => ?_
    have below := List.mem_range.mp member
    rw [List.take_append_of_le_length below.le, List.take_append_of_le_length below]
  · have whole : (messages ++ [message]).take (messages.length + 1) = messages ++ [message] :=
      List.take_of_length_le (by simp)
    rw [List.filterMap_cons, List.filterMap_nil, List.take_left, whole]
    by_cases risen : (operator.timeAfter origins messages).lt
        (operator.timeAfter origins (messages ++ [message])) = true
    · rw [if_pos risen, if_pos risen]
    · rw [if_neg risen, if_neg risen]

/-- A worker has finished once all of its inputs have ended, and not before. -/
theorem finished_fanIn (fan : Fan origins messages) :
    (operator.fanIn origins messages).worker.finished = true ↔
      ∀ origin ∈ origins, .ended origin ∈ messages := by
  have ended := Worker.ended_run operator origins.length messages
  have some_ : 0 < origins.length := List.length_pos_of_ne_nil fan.nonempty
  have inputs : (operator.fanIn origins messages).worker.inputs = origins.length :=
    ended.inputs.trans (by omega)
  have known : (operator.fanIn origins messages).worker.ended ⊆ origins :=
    fun origin member => fan.ended origin (ended.source origin member)
  constructor
  · intro finished origin member
    have enough : origins.length ≤ (operator.fanIn origins messages).worker.ended.length := by
      have decided := ended.finished.symm.trans finished
      rw [decide_eq_true_iff] at decided
      exact inputs ▸ decided
    have all := ((List.subperm_of_subset ended.nodup known).perm_of_length_le enough).symm.subset
    exact ended.source origin (all member)
  · intro all
    by_contra going
    have unfinished := Bool.eq_false_iff.mpr going
    have noted : origins ⊆ (operator.fanIn origins messages).worker.ended :=
      fun origin member => ended.noted unfinished origin (all origin member)
    have enough := (List.subperm_of_subset fan.nodup noted).length_le
    refine going (ended.finished.trans (decide_eq_true ?_))
    exact inputs.trans_le enough

theorem fanIn_concat (going : (operator.fanIn origins messages).worker.finished = false)
    (message : Message α) : operator.fanIn origins (messages ++ [message]) =
      ⟨((operator.fanIn origins messages).worker.step operator message).worker,
        (operator.fanIn origins messages).outputs ++
          ((operator.fanIn origins messages).worker.step operator message).outputs,
        (operator.fanIn origins messages).effects ++
          ((operator.fanIn origins messages).worker.step operator message).effects⟩ := by
  unfold fanIn at going ⊢
  rw [Worker.run_concat, going, if_neg Bool.false_ne_true]

/-- A worker that has finished takes no more messages. -/
theorem fanIn_append (finished : (operator.fanIn origins messages).worker.finished = true)
    (rest : List (Message α)) :
    operator.fanIn origins (messages ++ rest) = operator.fanIn origins messages := by
  induction rest using List.reverseRecOn with
  | nil => rw [List.append_nil]
  | append_singleton before last ih =>
    have still : (operator.fanIn origins (messages ++ before)).worker.finished = true := by
      rw [ih, finished]
    unfold fanIn at still ih ⊢
    rw [← List.append_assoc, Worker.run_concat, still, if_pos rfl, ih]

theorem going_of_append {rest : List (Message α)}
    (going : (operator.fanIn origins (messages ++ rest)).worker.finished = false) :
    (operator.fanIn origins messages).worker.finished = false := by
  rw [← Bool.not_eq_true] at going ⊢
  intro finished
  rw [fanIn_append finished] at going
  exact going finished

/-- While some input goes on, the watermark is the least that the inputs promised. -/
theorem minds_run (clock : operator.ownClock = none) (plain : operator.SendsElements)
    (fan : Fan origins messages)
    (going : (operator.fanIn origins messages).worker.finished = false) :
    (operator.fanIn origins messages).worker.Minds origins (promised messages) := by
  induction messages using List.reverseRecOn with
  | nil =>
    have some_ : 0 < origins.length := List.length_pos_of_ne_nil fan.nonempty
    have least : origins.toFinset.inf (promised ([] : List (Message α))) = ⊥ := by
      obtain ⟨origin, member⟩ := List.exists_mem_of_ne_nil origins fan.nonempty
      exact le_bot_iff.mp (Finset.inf_le (f := promised ([] : List (Message α)))
        (List.mem_toFinset.mpr member))
    refine ⟨?_, ⟨.nil, fun _ member => (nomatch member), fun _ _ => ?_⟩, ?_⟩
    · show max 1 origins.length = origins.length
      omega
    · exact Number.rank?_negInfinity
    · rw [least]
      exact Number.rank?_negInfinity
  | append_singleton before message ih =>
    have earlier := going_of_append going
    have minds := ih (fan.initial (List.prefix_append _ _)) earlier
    rw [fanIn_concat earlier message] at going ⊢
    exact (minds.step clock plain fan going).1

/-- What one more message does to the watermark and to what is sent: the watermark stays, and no
watermark is sent, or it rises, and is sent on after what the operator sends then. -/
theorem fanIn_cases (clock : operator.ownClock = none) (plain : operator.SendsElements)
    (fan : Fan origins (messages ++ [message])) :
    let earlier := operator.timeAfter origins messages
    let later := operator.timeAfter origins (messages ++ [message])
    ∃ said, (operator.fanIn origins (messages ++ [message])).outputs =
        (operator.fanIn origins messages).outputs ++ said ∧
      ((later = earlier ∧ Output.watermarks said = []) ∨
        (earlier.lt later = true ∧
          said = (operator.behaviour.advanced later
            (operator.fanIn origins messages).worker.state).outputs ++ [.watermark later])) := by
  unfold timeAfter
  cases before : (operator.fanIn origins messages).worker.finished with
  | true =>
    rw [fanIn_append before]
    exact ⟨[], (List.append_nil _).symm, .inl ⟨rfl, rfl⟩⟩
  | false =>
    have minds := minds_run clock plain (fan.initial (List.prefix_append _ _)) before
    have step := fanIn_concat before message
    refine ⟨_, congrArg (·.outputs) step, ?_⟩
    rw [step]
    dsimp only
    cases after : ((operator.fanIn origins messages).worker.step operator
      message).worker.finished with
    | true =>
      obtain ⟨-, same, outputs⟩ := Worker.step_last clock before after
      refine .inl ⟨same, ?_⟩
      rw [outputs, Output.watermarks_append, Output.watermarks_of_elements (plain.finish _ _)]
      rfl
    | false =>
      rcases (minds.step clock plain fan after).2 with ⟨same, elements⟩ | risen
      · exact .inl ⟨same, Output.watermarks_of_elements elements⟩
      · exact .inr risen

/-- The watermarks that are sent on are the values that the watermark took in turn. -/
theorem watermarks_fanIn (clock : operator.ownClock = none) (plain : operator.SendsElements)
    (fan : Fan origins messages) :
    Output.watermarks (operator.fanIn origins messages).outputs =
      operator.timesTaken origins messages := by
  induction messages using List.reverseRecOn with
  | nil => rfl
  | append_singleton before message ih =>
    have sent := ih (fan.initial (List.prefix_append _ _))
    obtain ⟨said, outputs, ⟨same, silent⟩ | ⟨risen, told⟩⟩ := fanIn_cases clock plain fan
    · rw [timesTaken_concat, outputs, Output.watermarks_append, sent, silent, same,
        Number.lt_self, if_neg Bool.false_ne_true]
    · rw [timesTaken_concat, outputs, Output.watermarks_append, sent, told,
        Output.watermarks_append, Output.watermarks_of_elements (plain.advanced _ _), if_pos risen]
      rfl

/-- The values that the watermark takes ascend, up to the one that it has. -/
theorem timesTaken_ascend (clock : operator.ownClock = none) (plain : operator.SendsElements)
    (fan : Fan origins messages) :
    (operator.timesTaken origins messages).Pairwise (fun a b => a.lt b = true) ∧
      ∀ time ∈ operator.timesTaken origins messages,
        time.le (operator.timeAfter origins messages) = true := by
  induction messages using List.reverseRecOn with
  | nil => exact ⟨.nil, fun _ member => nomatch member⟩
  | append_singleton before message ih =>
    obtain ⟨ascending, below⟩ := ih (fan.initial (List.prefix_append _ _))
    rw [timesTaken_concat]
    obtain ⟨said, -, ⟨same, -⟩ | ⟨risen, -⟩⟩ := fanIn_cases clock plain fan
    · rw [same, Number.lt_self, if_neg Bool.false_ne_true, List.append_nil]
      exact ⟨ascending, below⟩
    · rw [if_pos risen]
      refine ⟨List.pairwise_append.mpr ⟨ascending, List.pairwise_singleton _ _, ?_⟩, ?_⟩
      · intro old member new last
        exact List.mem_singleton.mp last ▸ Number.lt_of_le_of_lt (below old member) risen
      · intro time member
        rcases List.mem_append.mp member with old | new
        · exact Number.le_trans (below time old) (Number.le_of_lt risen)
        · rw [List.mem_singleton.mp new]
          exact Number.le_refl (Number.ranked_of_lt risen).2

/-- As long as some input goes on, the last say was not asked for and the end was not sent. -/
theorem silent_of_going (plain : operator.SendsElements)
    (going : (operator.fanIn origins messages).worker.finished = false) :
    .finish ∉ operator.log origins.length messages ∧
      .ended ∉ (operator.fanIn origins messages).outputs := by
  have asked : Worker.Asked messages (operator.logRun origins.length messages).worker :=
    Worker.asked_run fun earlier initial _ => by
      obtain ⟨rest, rfl⟩ := initial
      exact going_of_append going
  have finished := operator.finished_logRun origins.length messages
  obtain ⟨before, none, sent⟩ := (Worker.ended_run operator origins.length messages).sent
    (keepsOpen_of_sendsElements plain)
  refine ⟨asked.going (finished.trans going), ?_⟩
  rw [show ((Worker.start operator origins.length).run operator messages).worker.finished = false
    from going, if_neg Bool.false_ne_true, List.append_nil] at sent
  unfold fanIn
  rwa [sent]

/-- What the message does with which the last input ends, and any messages after it do nothing. -/
theorem finish_fanIn (clock : operator.ownClock = none)
    (going : (operator.fanIn origins messages).worker.finished = false)
    (finished : (operator.fanIn origins (messages ++ [message])).worker.finished = true)
    (rest : List (Message α)) :
    (∃ origin, message = .ended origin) ∧
      operator.log origins.length (messages ++ message :: rest) =
        operator.log origins.length messages ++ [.finish] ∧
      (operator.fanIn origins (messages ++ message :: rest)).outputs =
        (operator.fanIn origins messages).outputs ++
          ((operator.behaviour.finish (operator.timeAfter origins messages)
            (operator.fanIn origins messages).worker.state).outputs ++ [.ended]) := by
  have split : messages ++ message :: rest = messages ++ [message] ++ rest := by simp
  have step := fanIn_concat going message
  rw [split, fanIn_append finished, step]
  obtain ⟨⟨origin, rfl⟩, -, outputs⟩ := Worker.step_last clock going (by rwa [step] at finished)
  refine ⟨⟨origin, rfl⟩, ?_, congrArg _ outputs⟩
  -- The list of what was asked is the state of the logged operator, which finishes with it.
  have mirrored : ∀ seen : List (Message α), (operator.logged.fanIn origins seen).worker.finished =
      (operator.fanIn origins seen).worker.finished := operator.finished_logRun origins.length
  have open_ := (mirrored messages).trans going
  have closed := (mirrored _).trans finished
  show (operator.logged.fanIn origins _).worker.state.2 = _
  rw [fanIn_append closed, fanIn_concat open_ (.ended origin)]
  rw [fanIn_concat open_ (.ended origin)] at closed
  rcases Worker.endInput_cases operator.logged (operator.logged.fanIn origins messages).worker
    origin with ⟨-, time, state⟩ | ⟨heard, ended, same⟩
  · exact congrArg Prod.snd state
  · simp only [Worker.step, same] at closed
    rw [(Worker.advance_keeps operator.logged _).2.2.1] at closed
    exact absurd (open_.symm.trans closed) (by decide)

/-- Among messages with which a worker finishes, there is one with which it does. -/
theorem exists_last (fan : Fan origins messages)
    (finished : (operator.fanIn origins messages).worker.finished = true) :
    ∃ seen last rest, messages = seen ++ last :: rest ∧
      (operator.fanIn origins seen).worker.finished = false ∧
      (operator.fanIn origins (seen ++ [last])).worker.finished = true := by
  induction messages using List.reverseRecOn with
  | nil =>
    obtain ⟨origin, member⟩ := List.exists_mem_of_ne_nil origins fan.nonempty
    exact nomatch (finished_fanIn fan).mp finished origin member
  | append_singleton before message ih =>
    cases earlier : (operator.fanIn origins before).worker.finished with
    | true =>
      obtain ⟨seen, last, rest, split, going, closed⟩ :=
        ih (fan.initial (List.prefix_append _ _)) earlier
      exact ⟨seen, last, rest ++ [message], by simp [split], going, closed⟩
    | false => exact ⟨before, message, [], rfl, earlier, finished⟩

end Operator

/-- The watermark law of an operator with several inputs. Their markers come in any order, and an
input may send any watermarks before its end; whatever is told to the operator, it may answer with
elements, or fail. As long as some input has not ended, the watermark of the operator is the least
that the inputs have promised, the operator is not asked for its last say and the end is not sent.
The watermarks sent on are the values that the watermark took in turn, each above the one before,
and each right after what the operator sent when it was told of it; no other message sends a
watermark or changes it. Once all inputs have ended, the operator was asked for its last say once,
with the end that came last, and what it sent then and the end were sent after all else. -/
theorem fan_in_law {operator : Operator α σ} {origins : List Origin} {messages : List (Message α)}
    (clock : operator.ownClock = none) (plain : operator.SendsElements)
    (fan : Fan origins messages) :
    let run := operator.fanIn origins
    let time := operator.timeAfter origins
    let log := operator.log origins.length
    ((∃ origin ∈ origins, .ended origin ∉ messages) →
      (time messages).rank? = some (leastPromised origins messages) ∧
      .finish ∉ log messages ∧ .ended ∉ (run messages).outputs) ∧
    Output.watermarks (run messages).outputs = operator.timesTaken origins messages ∧
    (operator.timesTaken origins messages).Pairwise (fun a b => a.lt b = true) ∧
    (∀ seen message, seen ++ [message] <+: messages →
      ∃ said, (run (seen ++ [message])).outputs = (run seen).outputs ++ said ∧
        ((time (seen ++ [message]) = time seen ∧ Output.watermarks said = []) ∨
          ((time seen).lt (time (seen ++ [message])) = true ∧
            said = (operator.behaviour.advanced (time (seen ++ [message]))
                (run seen).worker.state).outputs ++ [.watermark (time (seen ++ [message]))]))) ∧
    ((∀ origin ∈ origins, .ended origin ∈ messages) →
      ∃ seen origin rest, messages = seen ++ .ended origin :: rest ∧ .ended origin ∉ seen ∧
        log messages = log seen ++ [.finish] ∧ .finish ∉ log seen ∧
        (run messages).outputs = (run seen).outputs ++
          ((operator.behaviour.finish (time seen) (run seen).worker.state).outputs ++ [.ended]) ∧
        .ended ∉ (run seen).outputs) := by
  intro run time log
  refine ⟨fun some_ => ?_, Operator.watermarks_fanIn clock plain fan,
    (Operator.timesTaken_ascend clock plain fan).1, fun seen message initial => ?_, fun all => ?_⟩
  · have going : (run messages).worker.finished = false := by
      rw [← Bool.not_eq_true, Operator.finished_fanIn fan]
      obtain ⟨origin, member, open_⟩ := some_
      exact fun all => open_ (all origin member)
    exact ⟨(Operator.minds_run clock plain fan going).watermark,
      Operator.silent_of_going plain going⟩
  · exact Operator.fanIn_cases clock plain (fan.initial initial)
  · obtain ⟨seen, last, rest, rfl, going, finished⟩ :=
      Operator.exists_last fan ((Operator.finished_fanIn fan).mpr all)
    obtain ⟨⟨origin, rfl⟩, asked, sent⟩ := Operator.finish_fanIn clock going finished rest
    obtain ⟨unasked, unsent⟩ := Operator.silent_of_going plain going
    have early : Fan origins seen := fan.initial (List.prefix_append _ _)
    have whole : Fan origins (seen ++ [.ended origin]) := fan.initial ⟨rest, by simp⟩
    refine ⟨seen, origin, rest, rfl, fun known => ?_, asked, unasked, sent, unsent⟩
    refine absurd ((Operator.finished_fanIn early).mpr fun other member => ?_)
      (Bool.eq_false_iff.mp going)
    rcases List.mem_append.mp ((Operator.finished_fanIn whole).mp finished other member) with
      old | new
    · exact old
    · cases List.mem_singleton.mp new
      exact known

/-- Counts the elements since the last watermark and refuses zeros. It sends the count and fails
whenever it is told of a watermark, and at the end. -/
def counting : Operator Nat Nat where
  name := "Counting"
  start := 0
  behaviour :=
    { element := fun _ count value =>
        if value = 0 then { state := count, failure := some .divisionByZero }
        else { state := count + 1 }
      advanced := fun _ count => told count
      finish := fun _ count => told count }
where
  /-- Sends the count, starts over and fails. -/
  told (count : Nat) : Reaction Nat Nat :=
    { state := 0, outputs := [.element count], failure := some (.handlerFailed "told") }

/-- Two inputs. The second one falls back, the first one ends, and an element comes too late. -/
def crossing : List (Message Nat) :=
  [.watermark 5 (some 0), .element 3, .element 0, .watermark 3 (some 1), .watermark 2 (some 1),
    .element 4, .ended (some 0), .watermark 9 (some 1), .ended (some 1), .element 6]

/-- Neither the failures nor the watermark that falls back show in what is sent. -/
theorem fan_in_law_crossing :
    (∀ origin ∈ [some 0, some 1], .ended origin ∈ crossing) ∧
      .ended (some 1) ∉ crossing.take 8 ∧
      (counting.timeAfter [some 0, some 1] (crossing.take 8)).rank? =
        some (leastPromised [some 0, some 1] (crossing.take 8)) ∧
      (counting.fanIn [some 0, some 1] crossing).outputs =
        [.element 1, .watermark 3, .element 1, .watermark 9, .element 0, .ended] ∧
      Output.watermarks (counting.fanIn [some 0, some 1] crossing).outputs = [3, 9] ∧
      (counting.timesTaken [some 0, some 1] crossing).Pairwise (fun a b => a.lt b = true) ∧
      ∃ seen, counting.log 2 crossing = counting.log 2 seen ++ [.finish] ∧
        .finish ∉ counting.log 2 seen := by
  have plain : counting.SendsElements := by
    refine ⟨fun time state value output member => ?_, fun _ count output member => ?_,
      fun _ count output member => ?_⟩
    · unfold counting at member
      dsimp only at member
      split at member <;> cases member
    · exact ⟨count, List.mem_singleton.mp member⟩
    · exact ⟨count, List.mem_singleton.mp member⟩
  have fan : Fan [some 0, some 1] crossing := by
    refine ⟨by decide, by decide, fun time origin member => ?_, fun origin member => ?_⟩
    · simp only [crossing, List.mem_cons, List.not_mem_nil, Message.watermark.injEq, reduceCtorEq,
        false_or, or_false] at member
      rcases member with ⟨rfl, rfl⟩ | ⟨rfl, rfl⟩ | ⟨rfl, rfl⟩ | ⟨rfl, rfl⟩ <;>
        exact ⟨Number.ranked_int _, by decide⟩
    · simp only [crossing, List.mem_cons, List.not_mem_nil, Message.ended.injEq, reduceCtorEq,
        false_or, or_false] at member
      rcases member with rfl | rfl <;> decide
  have open_ : .ended (some 1) ∉ crossing.take 8 := by simp [crossing]
  have all : ∀ origin ∈ [some 0, some 1], Message.ended origin ∈ crossing := by simp [crossing]
  have clock : counting.ownClock = none := rfl
  obtain ⟨least, -⟩ := fan_in_law clock plain (fan.initial (crossing.take_prefix 8))
  obtain ⟨-, -, ascending, -, last⟩ := fan_in_law clock plain fan
  obtain ⟨seen, origin, rest, -, -, asked, unasked, -⟩ := last all
  exact ⟨all, open_, (least ⟨some 1, by simp, open_⟩).1, rfl, rfl, ascending, seen, asked, unasked⟩

end FlightStream.Dataflow
