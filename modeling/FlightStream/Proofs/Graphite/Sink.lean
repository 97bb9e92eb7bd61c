import FlightStream.Dataflow.Operators
import FlightStream.Proofs.Dataflow.Ends
import FlightStream.Proofs.Dataflow.Mirror
import FlightStream.Proofs.Graphite.Accounting
import FlightStream.Proofs.Metrics.Counters

/-!
The delivering sink as an operator. After every message before the end, the metrics that came with
the elements so far are settled or wait, and the counts, the meters and the log of the link are those
of the settled ones, `books_run`.
-/

namespace FlightStream.Graphite

open Dataflow

variable {α ω τ : Type}

/-! ## What comes and what is told -/

/-- The metric that comes with a message. -/
def metricIn? (metricOf : α → Except Fault (Option Metric)) : Message α → Option Metric
  | .element value =>
    match metricOf value with
    | .ok metric => metric
    | .error _ => none
  | _ => none

/-- The metrics that come with messages. -/
def accepted (metricOf : α → Except Fault (Option Metric)) (messages : List (Message α)) :
    List Metric :=
  messages.filterMap (metricIn? metricOf)

/-- Looking at the traffic leaves the log. -/
def observeLogged (observe : ω → ω × List Traffic) (r : Recorded ω) :
    Recorded ω × List Traffic :=
  ({ r with env := (observe r.env).1 }, (observe r.env).2)

theorem changes_carried (instrument : Instrument) (traffic : List Traffic) :
    Effect.changes instrument (traffic.map (Effect.carried (α := α))) = [] := by
  unfold Effect.changes
  rw [List.filterMap_map]
  exact List.filterMap_eq_nil_iff.mpr fun _ _ => rfl

theorem changes_failureEffects {σ : Type} (operator : Operator α σ) (context : String)
    (failure : Option Fault) {instrument : Instrument} (other : .operatorErrors ≠ instrument) :
    Effect.changes instrument (Worker.failureEffects operator context failure) = [] := by
  cases failure with
  | none => rfl
  | some fault => simp [Worker.failureEffects, Effect.changes, other]

theorem changes_warned (instrument : Instrument) (name : String) (warning : Option String) :
    Effect.changes instrument ((warning.map (Effect.warned (α := α) name)).toList) = [] := by
  cases warning <;> rfl

/-- The meter that counts the metrics with a fate. -/
def Fate.instrument : Fate → Instrument
  | sent => .metricsSent
  | dropped => .metricsDropped

theorem Fate.instrument_ne (fate : Fate) : .operatorErrors ≠ fate.instrument := by
  cases fate <;> decide

theorem changes_incidentEffects (name : String) (config : Config τ) (fate : Fate)
    (incident : Incident) :
    Effect.changes fate.instrument (Operators.incidentEffects (α := α) name config incident) =
      if fate.tells incident then [([], .increase 1)] else [] := by
  unfold Operators.incidentEffects
  rw [Effect.changes_append, changes_warned, List.append_nil]
  cases fate <;> cases incident <;> rfl

/-- A meter that grows by one with each incident of a kind counts the incidents of the kind. -/
theorem changes_incidents {name : String} {config : Config τ} {instrument : Instrument}
    {tells : Incident → Bool}
    (each : ∀ incident, Effect.changes instrument
        (Operators.incidentEffects (α := α) name config incident) =
      if tells incident then [([], .increase 1)] else []) (incidents : List Incident) :
    Effect.changes instrument
        (incidents.flatMap (Operators.incidentEffects (α := α) name config)) =
      List.replicate (incidents.countP tells) ([], .increase 1) := by
  induction incidents with
  | nil => rfl
  | cons incident rest ih =>
    rw [List.flatMap_cons, Effect.changes_append, ih, each]
    by_cases told : tells incident = true
    · rw [if_pos told, List.countP_cons_of_pos told, List.replicate_succ]
      rfl
    · rw [if_neg told, List.countP_cons_of_neg told]
      rfl

section Sink

variable [Add τ] [LT τ] [DecidableLT τ] [OfNat τ 0] (name : String) (config : Config τ)
  (link : Link ω τ) (network : ω) (observe : ω → ω × List Traffic)
  (metricOf : α → Except Fault (Option Metric))

/-- The sink over a link with a log. -/
def loggedSink : Operator α (Operators.Delivering (Recorded ω) τ) :=
  Operators.graphite name config link.recorded (.fresh network) (observeLogged observe) metricOf

/-- The state of a sink without the log of its link. -/
def unlogged (s : Operators.Delivering (Recorded ω) τ) : Operators.Delivering ω τ :=
  ⟨s.delivery, s.link.env⟩

omit [Add τ] [LT τ] [DecidableLT τ] [OfNat τ 0] in
theorem view_settle (s : Step (Recorded ω) τ) :
    (Operators.graphite.settle (α := α) name config (observeLogged observe) s).view unlogged =
      Operators.graphite.settle name config observe s.forget := rfl

/-- The log changes nothing of what the sink does. -/
theorem loggedSink_mirrors :
    (loggedSink name config link network observe metricOf).Mirrors
      (Operators.graphite name config link network observe metricOf) unlogged where
  name := rfl
  start := rfl
  clock := rfl
  element := by
    intro time state value
    simp only [loggedSink, Operators.graphite]
    rcases metricOf value with fault | _ | metric
    · rfl
    · rfl
    · simp only
      rw [view_settle, Delivery.forget_send]
      rfl
  advanced := fun _ _ => rfl
  finish := by
    intro time state
    simp only [loggedSink, Operators.graphite]
    rw [view_settle, Delivery.forget_finish]
    rfl

/-! ## The books -/

/-- The account of the accepted metrics is that of the delivery, the meters grew by one for each
settled metric, and no more metrics wait than may. -/
structure Books (accepted : List Metric) (settled : List (Metric × Fate))
    (w : Worker (Operators.Delivering (Recorded ω) τ)) (effects : List (Effect α)) : Prop where
  accounts : Accounts accepted settled w.state.delivery w.state.link.drained
  tells : ∀ fate : Fate, Effect.changes fate.instrument effects =
    List.replicate (withFate fate settled).length ([], .increase 1)
  room : w.state.delivery.backlog.length ≤ config.capacity

variable {name config link network observe metricOf}
  {w : Worker (Operators.Delivering (Recorded ω) τ)}

/-- A watermark leaves the delivery alone. -/
theorem advance_loggedSink :
    (w.advance (loggedSink name config link network observe metricOf)).worker.state = w.state ∧
      (w.advance (loggedSink name config link network observe metricOf)).effects = [] := by
  have clock : (loggedSink name config link network observe metricOf).ownClock = none := rfl
  unfold Worker.advance
  rw [clock]
  cases w.combined? with
  | none => exact ⟨rfl, rfl⟩
  | some time =>
    simp only
    split
    · exact ⟨rfl, rfl⟩
    · exact ⟨rfl, rfl⟩

theorem step_element (value : α) :
    w.step (loggedSink name config link network observe metricOf) (.element value) =
      w.react (loggedSink name config link network observe metricOf)
        s!"Skipping element in {name} after error"
        (match metricOf value with
          | .ok (some metric) => Operators.graphite.settle name config (observeLogged observe)
            (w.state.delivery.send config link.recorded w.state.link metric)
          | .ok none => .none w.state
          | .error fault => { state := w.state, failure := some fault }) := rfl

/-- Without a metric and before the end, the delivery stays as it is. -/
theorem step_of_no_metric {message : Message α} (nothing : metricIn? metricOf message = none)
    (unfinished : (w.step (loggedSink name config link network observe metricOf)
      message).worker.finished = false) (fate : Fate) :
    (w.step (loggedSink name config link network observe metricOf) message).worker.state =
        w.state ∧
      Effect.changes fate.instrument
        (w.step (loggedSink name config link network observe metricOf) message).effects = [] := by
  cases message with
  | element value =>
    simp only [metricIn?] at nothing
    rw [step_element]
    rcases given : metricOf value with fault | _ | metric
    · refine ⟨rfl, ?_⟩
      simp only [Worker.react, List.nil_append]
      exact changes_failureEffects _ _ _ fate.instrument_ne
    · exact ⟨rfl, rfl⟩
    · rw [given] at nothing
      cases nothing
  | watermark time origin =>
    obtain ⟨kept, silent⟩ := advance_loggedSink (w := w.hear time origin)
    exact ⟨kept, congrArg (Effect.changes _) silent⟩
  | ended origin =>
    rcases w.endInput_cases (loggedSink name config link network observe metricOf) origin with
      ⟨finished, -⟩ | ⟨heard, ended, same⟩
    · exact absurd (finished.symm.trans unfinished) (by decide)
    · obtain ⟨kept, silent⟩ := advance_loggedSink (w :=
        { w with heard := heard, ended := ended })
      rw [Worker.step, same]
      exact ⟨kept, congrArg (Effect.changes _) silent⟩

variable (name config link network observe w) in
/-- A metric is sent on by the delivery. -/
theorem step_of_metric {message : Message α} {m : Metric}
    (given : metricIn? metricOf message = some m) :
    (w.step (loggedSink name config link network observe metricOf) message).worker.state =
        ⟨(w.state.delivery.send config link.recorded w.state.link m).delivery,
          (observeLogged observe
            (w.state.delivery.send config link.recorded w.state.link m).link).1⟩ ∧
      ∀ fate : Fate, Effect.changes fate.instrument
          (w.step (loggedSink name config link network observe metricOf) message).effects =
        List.replicate ((w.state.delivery.send config link.recorded w.state.link
          m).incidents.countP fate.tells) ([], .increase 1) := by
  cases message with
  | element value =>
    simp only [metricIn?] at given
    rw [step_element]
    rcases known : metricOf value with fault | _ | metric
    · rw [known] at given
      cases given
    · rw [known] at given
      cases given
    · rw [known] at given
      cases given
      refine ⟨rfl, fun fate => ?_⟩
      simp only [Worker.react, Operators.graphite.settle, Effect.changes_append]
      rw [changes_carried, changes_incidents (changes_incidentEffects name config fate),
        changes_failureEffects _ _ _ fate.instrument_ne, List.nil_append, List.append_nil]
  | watermark | ended => cases given

/-- A message before the end keeps the books. Only a full backlog loses a metric, and without a
metric nothing changes. -/
theorem Books.step {taken : List Metric} {settled : List (Metric × Fate)}
    {effects : List (Effect α)} (books : Books config taken settled w effects)
    {message : Message α}
    (unfinished : (w.step (loggedSink name config link network observe metricOf)
      message).worker.finished = false) :
    ∃ more, Books config (taken ++ (metricIn? metricOf message).toList) (settled ++ more)
        (w.step (loggedSink name config link network observe metricOf) message).worker
        (effects ++
          (w.step (loggedSink name config link network observe metricOf) message).effects) ∧
      (withFate .dropped more ≠ [] → w.state.delivery.backlog.length = config.capacity) ∧
      (metricIn? metricOf message = none → more = [] ∧
        (w.step (loggedSink name config link network observe metricOf) message).worker.state =
          w.state) := by
  rcases given : metricIn? metricOf message with _ | m
  · have still := step_of_no_metric given unfinished
    have kept := (still .sent).1
    refine ⟨[], ⟨?_, fun fate => ?_, ?_⟩, fun lost => absurd rfl lost, fun _ => ⟨rfl, kept⟩⟩
    · rw [kept, Option.toList_none, List.append_nil, List.append_nil]
      exact books.accounts
    · rw [Effect.changes_append, (still fate).2, List.append_nil, List.append_nil]
      exact books.tells fate
    · rw [kept]
      exact books.room
  · obtain ⟨state, told⟩ := step_of_metric name config link network observe w given
    obtain ⟨more, accounts, counts, room, full⟩ := books.accounts.send link books.room m
    refine ⟨more, ⟨?_, fun fate => ?_, ?_⟩, full, fun none => nomatch none⟩
    · rw [state]
      exact accounts
    · rw [Effect.changes_append, books.tells, told, counts, withFate_append, List.length_append,
        List.replicate_add]
    · rw [state]
      exact room

/-! ## Runs -/

variable (name config link network observe metricOf)

/-- A run of the sink over a link with a log. -/
def loggedRun (inputs : Nat) (messages : List (Message α)) :
    Move α (Operators.Delivering (Recorded ω) τ) :=
  (Worker.start (loggedSink name config link network observe metricOf) inputs).run
    (loggedSink name config link network observe metricOf) messages

variable {name config link network observe metricOf} {inputs : Nat}
  {messages : List (Message α)}

/-- A message before the end is handled after all messages before it. -/
theorem loggedRun_concat {message : Message α} (unfinished : (loggedRun name config link network
      observe metricOf inputs (messages ++ [message])).worker.finished = false) :
    (loggedRun name config link network observe metricOf inputs messages).worker.finished = false ∧
    (loggedRun name config link network observe metricOf inputs (messages ++ [message])).worker =
      ((loggedRun name config link network observe metricOf inputs messages).worker.step
        (loggedSink name config link network observe metricOf) message).worker ∧
    (loggedRun name config link network observe metricOf inputs (messages ++ [message])).effects =
      (loggedRun name config link network observe metricOf inputs messages).effects ++
        ((loggedRun name config link network observe metricOf inputs messages).worker.step
          (loggedSink name config link network observe metricOf) message).effects := by
  unfold loggedRun at unfinished ⊢
  rw [Worker.run_concat] at unfinished ⊢
  split at unfinished
  · rename_i finished
    rw [finished] at unfinished
    cases unfinished
  · rename_i going
    rw [if_neg going]
    exact ⟨Bool.eq_false_iff.mpr going, rfl, rfl⟩

theorem accepted_concat (message : Message α) : accepted metricOf (messages ++ [message]) =
    accepted metricOf messages ++ (metricIn? metricOf message).toList := by
  unfold accepted
  rw [List.filterMap_append]
  cases given : metricIn? metricOf message with
  | none => rw [List.filterMap_cons_none given]; rfl
  | some m => rw [List.filterMap_cons_some given]; rfl

/-- The books are kept by a run up to its end. -/
theorem books_run (unfinished : (loggedRun name config link network observe metricOf inputs
      messages).worker.finished = false) :
    ∃ settled, Books config (accepted metricOf messages) settled
      (loggedRun name config link network observe metricOf inputs messages).worker
      (loggedRun name config link network observe metricOf inputs messages).effects := by
  induction messages using List.reverseRecOn with
  | nil => exact ⟨[], accounts_initial config, fun | .sent | .dropped => rfl, Nat.zero_le _⟩
  | append_singleton before message ih =>
    obtain ⟨going, worker, effects⟩ := loggedRun_concat unfinished
    obtain ⟨settled, books⟩ := ih going
    rw [worker] at unfinished
    obtain ⟨more, next, -⟩ := books.step unfinished
    rw [worker, effects, accepted_concat]
    exact ⟨_, next⟩

/-- Once the sink has finished, nothing waits and there is no connection. -/
theorem idle_of_finished (handled : link.Handled)
    (finished : ((Worker.start (Operators.graphite name config link network observe metricOf)
      inputs).run (Operators.graphite name config link network observe metricOf)
        messages).worker.finished = true) :
    ((Worker.start (Operators.graphite name config link network observe metricOf) inputs).run
        (Operators.graphite name config link network observe metricOf)
        messages).worker.state.delivery.backlog = [] ∧
      ((Worker.start (Operators.graphite name config link network observe metricOf) inputs).run
        (Operators.graphite name config link network observe metricOf)
        messages).worker.state.delivery.connected = false := by
  generalize sink : Operators.graphite name config link network observe metricOf = operator
    at finished ⊢
  induction messages using List.reverseRecOn with
  | nil => cases finished
  | append_singleton before message ih =>
    rw [Worker.run_concat] at finished ⊢
    by_cases already : ((Worker.start operator inputs).run operator before).worker.finished = true
    · rw [if_pos already]
      exact ih already
    · rw [if_neg already] at finished ⊢
      generalize ((Worker.start operator inputs).run operator before).worker = w
        at finished already ⊢
      cases message with
      | element value => exact absurd finished already
      | watermark time origin =>
        have kept := (Worker.advance_keeps operator (w.hear time origin)).2.2.1
        exact absurd (kept.symm.trans finished) already
      | ended origin =>
        rcases w.endInput_cases operator origin with ⟨-, time, state⟩ | ⟨heard, ended, same⟩
        · simp only [Worker.step]
          rw [state]
          subst sink
          exact (Delivery.finish_spec handled config w.state.delivery w.state.link).1
        · simp only [Worker.step, same] at finished
          have kept := (Worker.advance_keeps operator
            ({ w with heard := heard, ended := ended } : Worker _)).2.2.1
          exact absurd (kept.symm.trans finished) already

/-- The accounts of a delivering sink, whatever its link does. It behaves as the sink over the link
with a log. After any messages before the end, the metrics accepted so far are settled ones and then
the backlog; each settled one is sent or dropped, the log holds the frames of the sent ones, and the
counts and the counters are those of both fates. The next message only adds to what is settled; it
drops a metric only from a full backlog, and changes nothing if no metric comes with it. After the
end nothing waits and there is no connection, if the link breaks only in ways that are dealt with.
Before the end the link may break in any way; one that is not dealt with leaves the delivery as it
stood at that use of the link, so the accounts hold within a message too. -/
theorem sink_accounts (name : String) (config : Config τ) (link : Link ω τ) (network : ω)
    (observe : ω → ω × List Traffic) (metricOf : α → Except Fault (Option Metric)) (inputs : Nat)
    (messages : List (Message α)) :
    let sink := Operators.graphite name config link network observe metricOf
    let done := (Worker.start sink inputs).run sink messages
    let logged := loggedRun name config link network observe metricOf inputs
    (logged messages).view unlogged = done ∧
    (done.worker.finished = false → ∃ settled,
      Books config (accepted metricOf messages) settled (logged messages).worker
        (logged messages).effects ∧
      (∀ (fate : Fate) (place : Nat) (j : Journal α) (value : Float),
        j.registry.Counts fate.instrument value →
        (done.effects.foldl (Journal.record place) j).registry.Counts fate.instrument
          ((· + Registry.one)^[(withFate fate settled).length] value)) ∧
      ∀ message, (logged (messages ++ [message])).worker.finished = false → ∃ more,
        Books config (accepted metricOf (messages ++ [message])) (settled ++ more)
          (logged (messages ++ [message])).worker (logged (messages ++ [message])).effects ∧
        (withFate .dropped more ≠ [] → done.worker.state.delivery.backlog.length =
          config.capacity) ∧
        (metricIn? metricOf message = none → more = [] ∧
          (logged (messages ++ [message])).worker.state = (logged messages).worker.state)) ∧
    (link.Handled → done.worker.finished = true →
      done.worker.state.delivery.backlog = [] ∧ done.worker.state.delivery.connected = false) := by
  intro sink done logged
  have mirrors := loggedSink_mirrors name config link network observe metricOf
  have same : (logged messages).view unlogged = done := by
    have mirrored := mirrors.run (Worker.start (loggedSink name config link network observe
      metricOf) inputs) messages
    rw [mirrors.worker_start] at mirrored
    exact mirrored
  refine ⟨same, fun unfinished => ?_, idle_of_finished⟩
  rw [← same] at unfinished ⊢
  obtain ⟨settled, books⟩ := books_run unfinished
  refine ⟨settled, books, fun fate place j value counts => ?_, fun message onward => ?_⟩
  · exact Journal.counts_record (books.tells fate) place j counts
  · obtain ⟨-, worker, effects⟩ := loggedRun_concat onward
    rw [worker] at onward
    obtain ⟨more, next, full, still⟩ := books.step onward
    refine ⟨more, ?_, full, ?_⟩
    · rw [accepted_concat]
      simp only [logged, worker, effects]
      exact next
    · intro nothing
      simp only [logged, worker]
      exact still nothing

end Sink

section Outage

/-- A network with answers that are known in advance; its clock counts the answers it gave. -/
def answers : Link (List Bool) Nat where
  now rest := 9 - rest.length
  connect := answer
  write _ := answer
  drain := answer
  close := answer
where
  /-- The next answer; a refusal, if it is not a good one. -/
  answer : List Bool → List Bool × Except Breakage Unit
    | [] => ([], .ok ())
    | true :: rest => (rest, .ok ())
    | false :: rest => (rest, .error ⟨.refused, "refused"⟩)

theorem answers_handled : answers.Handled := by
  have dealt : ∀ rest b, (answers.answer rest).2 = .error b → b.isHandled = true := by
    rintro (_ | ⟨_ | _, rest⟩) b broken <;> cases broken
    rfl
  exact ⟨dealt, fun _ => dealt, dealt, dealt⟩

/-- One metric may wait, and five seconds pass between two attempts. -/
def narrow : Config Nat := ⟨"localhost", 2004, false, 5, 9, 1, toString⟩

/-- The metric of an aircraft that climbs. -/
def climber : Metric := ⟨"KSFO.up", 10, 1, false⟩

/-- The metric of an aircraft that lands. -/
def lander : Metric := ⟨"KLAX.down", 20, 1, false⟩

/-- Two metrics, and elements without one in between. -/
def outage : List (Message (Except Fault (Option Metric))) :=
  [.element (.ok (some climber)), .element (.ok none), .element (.error .integerTooLarge),
    .element (.ok (some lander))]

/-- With the receiver away, the second metric takes the place of the first one, and elements without
a metric or with a fault do nothing. The second metric is sent at the end. -/
theorem sink_accounts_outage :
    let sink := Operators.graphite "Sink" narrow answers [false] (fun rest => (rest, [])) id
    let logged := loggedRun "Sink" narrow answers [false] (fun rest => (rest, [])) id 1
    let ended := (Worker.start sink 1).run sink (outage ++ [.ended none])
    (∃ settled, Books narrow [climber, lander] settled (logged outage).worker
      (logged outage).effects ∧ (withFate .dropped settled).length = 1) ∧
    ended.worker.state.delivery.backlog = [] ∧ ended.worker.state.delivery.connected = false ∧
    ended.worker.state.delivery.sent = 1 := by
  have before := sink_accounts "Sink" narrow answers [false] (fun rest => (rest, [])) id 1 outage
  have after := sink_accounts "Sink" narrow answers [false] (fun rest => (rest, [])) id 1
    (outage ++ [.ended none])
  dsimp only at before after ⊢
  obtain ⟨settled, books, -⟩ := before.2.1 (by decide +kernel)
  obtain ⟨empty, closed⟩ := after.2.2 answers_handled (by decide +kernel)
  refine ⟨⟨settled, books, ?_⟩, empty, closed, ?_⟩
  · rw [← books.accounts.dropped]
    decide +kernel
  · decide +kernel

end Outage

end FlightStream.Graphite
