import FlightStream.Proofs.Graphite.WireOrder
import Mathlib.Algebra.Group.Nat.Defs
import Mathlib.Order.Lattice

/-!
When connections are tried again. A watch beside a link lists what happens to the connection: when
attempts begin, whether they succeed, and when a failed one or a lost connection was dealt with.
From the list alone follow the delay after each failure (`failures`) and the time before which no
attempt is due (`deadline`), and a delivery keeps to both: its own delay and its own deadline are
always these (`BacksOff`), and each call makes one attempt just if there is no connection and the
deadline has passed (`attends_send`).
-/

namespace FlightStream.Graphite

open Dataflow

variable {ω τ : Type}

/-! ## Attempts that never reach the network -/

/-- The same delivery with time to connect. -/
def Config.patient (config : Config τ) : Config τ := { config with noTimeToConnect := false }

/-- The link as a delivery reaches it: where there is no time to connect, connecting expires. -/
def Link.reached (config : Config τ) (link : Link ω τ) : Link ω τ :=
  { link with connect := Delivery.attempt config link }

section Reached

variable [Add τ] [LT τ] [DecidableLT τ] (config : Config τ) (link : Link ω τ) (d : Delivery τ)
  (env : ω)

theorem writeAll_reached (waiting : List Metric) :
    d.writeAll config.patient (link.reached config) env waiting =
      d.writeAll config link env waiting := by
  induction waiting generalizing d env with
  | nil => rfl
  | cons m rest ih =>
    simp only [Delivery.writeAll, ih]
    rfl

theorem flush_reached :
    d.flush config.patient (link.reached config) env = d.flush config link env := by
  have ensured : d.ensureConnected config.patient (link.reached config) env =
      d.ensureConnected config link env := rfl
  simp only [Delivery.flush, ensured, writeAll_reached]

/-- Having no time to connect is having a link on which connecting expires. -/
theorem send_reached (m : Metric) :
    d.send config.patient (link.reached config) env m = d.send config link env m :=
  congrArg (Step.after (d.accept config m).2) (flush_reached config link (d.accept config m).1 env)

theorem finish_reached [OfNat τ 0] :
    d.finish config.patient (link.reached config) env = d.finish config link env := by
  simp only [Delivery.finish, flush_reached]
  rfl

end Reached

/-! ## Watching a link -/

/-- What happens to the connection: an attempt to make it begins, and it is made or its failure is
dealt with; or it is given up after a breakage. -/
inductive Event (τ : Type)
  | attempted (time : τ)
  | connected
  | refused (time : τ)
  | lost (time : τ)

namespace Event

/-- The time at which an attempt begins. -/
def attempt? : Event τ → Option τ
  | attempted time => some time
  | _ => none

/-- The time at which a failure was dealt with. -/
def failure? : Event τ → Option τ
  | refused time | lost time => some time
  | _ => none

/-- Whether an attempt failed. -/
def isRefused : Event τ → Bool
  | refused _ => true
  | _ => false

/-- Whether an attempt succeeded. -/
def isConnected : Event τ → Bool
  | connected => true
  | _ => false

end Event

/-- An environment with what happened to the connection, the latest first, and whether it is broken
and yet to be given up. -/
structure Watched (ω τ : Type) where
  env : ω
  broken : Bool
  events : List (Event τ)

/-- Whether an answer is a breakage that is dealt with. -/
def breaks : Except Breakage Unit → Bool
  | .ok () => false
  | .error b => b.isHandled

/-- Whether nothing escapes from an answer. -/
def passes : Except Breakage Unit → Bool
  | .ok () => true
  | .error b => b.isHandled

/-- What comes of an attempt, if it ends at a time. -/
def Event.ofAnswer (time : τ) : Except Breakage Unit → List (Event τ)
  | .ok () => [.connected]
  | .error b => if b.isHandled then [.refused time] else []

/-- The link with a watch. -/
def Link.watched (link : Link ω τ) : Link (Watched ω τ) τ where
  now r := link.now r.env
  connect r :=
    let answer := link.connect r.env
    ({ r with
        env := answer.1
        events := Event.ofAnswer (link.now answer.1) answer.2 ++
          .attempted (link.now r.env) :: r.events }, answer.2)
  write frame r :=
    let answer := link.write frame r.env
    ({ r with env := answer.1, broken := breaks answer.2 }, answer.2)
  drain r :=
    let answer := link.drain r.env
    ({ r with env := answer.1, broken := breaks answer.2 }, answer.2)
  close r :=
    let answer := link.close r.env
    (⟨answer.1, false,
      if r.broken && passes answer.2 then .lost (link.now answer.1) :: r.events else r.events⟩,
      answer.2)

/-- The link with a watch answers as the link does. -/
theorem Link.watched_mirrors (link : Link ω τ) : link.watched.Mirrors link Watched.env where
  now _ := rfl
  connect _ := rfl
  write _ _ := rfl
  drain _ := rfl
  close _ := rfl

/-! ## Delays and deadlines -/

/-- The number of failures since the last connection was made. -/
def failedSince : List (Event τ) → ℕ
  | [] => 0
  | .connected :: _ => 0
  | .attempted _ :: earlier => failedSince earlier
  | .refused _ :: earlier | .lost _ :: earlier => failedSince earlier + 1

section Law

variable [LinearOrder τ] [AddMonoid τ] (config : Config τ)

/-- The delay after as many failures as there were since the last connection. -/
def delayAfter : ℕ → τ
  | 0 => config.initialDelay
  | failed + 1 => min (2 • delayAfter failed) config.maxDelay

/-- The failures, the latest first: when each was dealt with, and the delay after it. -/
def failures : List (Event τ) → List (τ × τ)
  | [] => []
  | event :: earlier =>
    (event.failure?.map fun time => (time, delayAfter config (failedSince earlier))).toList ++
      failures earlier

/-- The time before which no attempt is due: the delay after the latest failure. -/
def deadline (events : List (Event τ)) : τ :=
  ((failures config events).head?.map fun failure => failure.1 + failure.2).getD 0

/-- Every attempt begins when it is due. -/
def Punctual (events : List (Event τ)) : Prop :=
  ∀ time earlier, .attempted time :: earlier <:+ events →
    ∀ failure ∈ (failures config earlier).head?, failure.1 + failure.2 ≤ time

end Law

/-- Every attempt succeeded or failed. -/
def Answered (events : List (Event τ)) : Prop :=
  events.countP Event.isConnected + events.countP Event.isRefused =
    (events.filterMap Event.attempt?).length

theorem Answered.append {since events : List (Event τ)} (later : Answered since)
    (answered : Answered events) : Answered (since ++ events) := by
  unfold Answered at *
  rw [List.countP_append, List.countP_append, List.filterMap_append, List.length_append, ← later,
    ← answered]
  omega

/-- Whether an incident tells of an attempt that failed. -/
def Incident.isUnreachable : Incident → Bool
  | unreachable _ _ _ => true
  | _ => false

/-- A link on which connecting fails only in ways that delivery deals with. -/
def Link.Expected (link : Link ω τ) : Prop :=
  ∀ env b, (link.connect env).2 = .error b → b.isHandled = true

/-! ## What one call does -/

section Steps

variable [LinearOrder τ] [AddMonoid τ]

/-- The delay is the one that follows from the events, and no breakage is yet to be dealt with. -/
structure Minds (config : Config τ) (d : Delivery τ) (r : Watched ω τ) : Prop where
  calm : r.broken = false
  delay : d.delay = delayAfter config (failedSince r.events)

/-- A step that begins with attempts at these times, and with no others. Each is answered if nothing
escapes from it, and it is told of just if it failed. The deadline is kept as well. -/
structure Attends (config : Config τ) (link : Link ω τ) (attempts : List τ) (d : Delivery τ)
    (r : Watched ω τ) (s : Step (Watched ω τ) τ) : Prop where
  minds : Minds config s.delivery s.link
  grown : ∃ since, s.link.events = since ++ (attempts.map .attempted ++ r.events) ∧
    since.filterMap Event.attempt? = [] ∧
    (link.Expected →
      since.countP Event.isConnected + since.countP Event.isRefused = attempts.length)
  next : d.nextAttempt = deadline config r.events →
    s.delivery.nextAttempt = deadline config s.link.events
  told : s.incidents.countP Incident.isUnreachable + r.events.countP Event.isRefused =
    s.link.events.countP Event.isRefused

variable {config : Config τ} {link : Link ω τ} {attempts : List τ} {d : Delivery τ}
  {r : Watched ω τ} {s : Step (Watched ω τ) τ}

namespace Attends

/-- Nothing happened to the connection. -/
theorem still (minds : Minds config d r) (calm : s.link.broken = false)
    (events : s.link.events = r.events) (delay : s.delivery.delay = d.delay)
    (next : s.delivery.nextAttempt = d.nextAttempt)
    (silent : s.incidents.countP Incident.isUnreachable = 0) :
    Attends config link [] d r s where
  minds := ⟨calm, by rw [delay, events, minds.delay]⟩
  grown := ⟨[], by rw [events]; rfl, rfl, fun _ => rfl⟩
  next kept := by rw [next, events, kept]
  told := by rw [silent, events, Nat.zero_add]

/-- Only the deadline and the events matter of what a step begins with. -/
theorem reset (attends : Attends config link attempts d r s) {other : Delivery τ}
    {before : Watched ω τ} (next : other.nextAttempt = d.nextAttempt)
    (events : before.events = r.events) : Attends config link attempts other before s where
  minds := attends.minds
  grown := events ▸ attends.grown
  next kept := attends.next (by rw [← next, kept, events])
  told := events ▸ attends.told

/-- Incidents of another kind before a step do not matter. -/
theorem after (attends : Attends config link attempts d r s) (before : List Incident)
    (silent : before.countP Incident.isUnreachable = 0) :
    Attends config link attempts d r (s.after before) where
  minds := attends.minds
  grown := attends.grown
  next := attends.next
  told := by
    rw [Step.after, List.countP_append, silent, Nat.zero_add]
    exact attends.told

/-- A step, and one after it without attempts. -/
theorem andThen (attends : Attends config link attempts d r s)
    (next : Delivery τ → Watched ω τ → Step (Watched ω τ) τ)
    (onward : Attends config link [] s.delivery s.link (next s.delivery s.link)) :
    Attends config link attempts d r (s.andThen next) := by
  unfold Step.andThen
  cases s.failure with
  | some fault => exact attends
  | none =>
    obtain ⟨first, events, quiet, answered⟩ := attends.grown
    obtain ⟨second, events', quiet', answered'⟩ := onward.grown
    refine ⟨onward.minds, ⟨second ++ first, ?_, ?_, fun expected => ?_⟩,
      fun kept => onward.next (attends.next kept), ?_⟩
    · rw [List.append_assoc, ← events]
      exact events'
    · rw [List.filterMap_append, quiet, quiet', List.append_nil]
    · have made := answered expected
      have none := answered' expected
      rw [List.length_nil] at none
      rw [List.countP_append, List.countP_append]
      omega
    · rw [Step.after, List.countP_append, ← onward.told, ← attends.told]
      omega

/-- The events since the beginning, with just these attempts. -/
theorem since (attends : Attends config link attempts d r s) : ∃ since,
    s.link.events = since ++ r.events ∧ since.filterMap Event.attempt? = attempts ∧
      (link.Expected → Answered since) := by
  obtain ⟨later, events, quiet, answered⟩ := attends.grown
  have began : (attempts.map Event.attempted).filterMap Event.attempt? = attempts := by
    rw [List.filterMap_map]
    exact List.filterMap_some
  refine ⟨later ++ attempts.map .attempted, ?_, ?_, fun expected => ?_⟩
  · rw [events, List.append_assoc]
  · rw [List.filterMap_append, quiet, began, List.nil_append]
  · have none : (attempts.map Event.attempted).countP Event.isConnected = 0 ∧
        (attempts.map Event.attempted).countP Event.isRefused = 0 := by
      constructor <;> exact List.countP_eq_zero.mpr (List.forall_mem_map.mpr fun _ _ => nofun)
    rw [Answered, List.filterMap_append, quiet, began, List.countP_append, List.countP_append,
      none.1, none.2]
    exact answered expected

end Attends

/-- A retry is scheduled as the events with a failure more say. -/
theorem scheduleRetry_spec (event : Event τ) {events : List (Event τ)}
    (delay : d.delay = delayAfter config (failedSince events)) {time : τ}
    (failed : event.failure? = some time) :
    (d.scheduleRetry config time).delay = delayAfter config (failedSince (event :: events)) ∧
      (d.scheduleRetry config time).nextAttempt = deadline config (event :: events) := by
  have more : failedSince (event :: events) = failedSince events + 1 := by
    cases event <;> first | rfl | cases failed
  constructor
  · rw [more, delayAfter, ← delay, two_nsmul, min_comm, min_def_lt]
    rfl
  · simp only [deadline, failures, failed, Option.map_some, Option.toList_some,
      List.singleton_append, List.head?_cons, Option.getD_some, ← delay]
    rfl

/-- Giving up a connection that is not broken. -/
theorem attends_disconnect (minds : Minds config d r) :
    Attends config link [] d r (d.disconnect link.watched r) := by
  unfold Delivery.disconnect
  split
  · rcases closed : link.close r.env with ⟨after, b | _⟩
    · simp only [Link.watched, closed, minds.calm, Bool.false_and, Bool.false_eq_true, if_false]
      exact .still minds rfl rfl rfl rfl rfl
    · simp only [Link.watched, closed, minds.calm, Bool.false_and, Bool.false_eq_true, if_false]
      exact .still minds rfl rfl rfl rfl rfl
  · exact .still minds minds.calm rfl rfl rfl rfl

/-- Discarding what still waits. -/
theorem attends_discard (minds : Minds config d r) :
    Attends config link [] d r (d.discard r) := by
  unfold Delivery.discard
  split
  · exact .still minds minds.calm rfl rfl rfl rfl
  · exact .still minds minds.calm rfl rfl rfl rfl

variable (config link) in
/-- Giving up a connection that broke, and scheduling a retry. -/
theorem attends_handleLoss (up : d.connected = true) {b : Breakage} (dealt : b.isHandled = true)
    (broken : r.broken = true) (delay : d.delay = delayAfter config (failedSince r.events)) :
    Attends config link [] d r (d.handleLoss config.patient link.watched r b) := by
  unfold Delivery.handleLoss Delivery.disconnect
  rw [if_pos dealt, if_pos up]
  -- The loss is listed, and the retry scheduled, just if nothing escapes from closing.
  have lost : ∀ after : ω, Attends config link [] d r
      (((Step.stay { d with connected := false }
        (⟨after, false, .lost (link.now after) :: r.events⟩ : Watched ω τ)).andThen fun d r =>
          .stay (d.scheduleRetry config.patient (link.watched.now r)) r).after [.lost b.text]) := by
    intro after
    obtain ⟨doubled, next⟩ := scheduleRetry_spec (d := { d with connected := false })
      (.lost (link.now after)) delay rfl
    refine ⟨⟨rfl, doubled⟩, ⟨[.lost (link.now after)], rfl, rfl, fun _ => rfl⟩, fun _ => next, ?_⟩
    simp [Step.after, Step.andThen, Step.stay, Incident.isUnreachable, Event.isRefused]
  rcases closed : link.close r.env with ⟨after, c | _⟩
  · by_cases passes_ : c.isHandled = true
    · simp only [Link.watched, closed, broken, passes, passes_, Bool.and_self, if_true]
      exact lost after
    · simp only [Link.watched, closed, broken, passes, passes_, Bool.and_false]
      refine ⟨⟨rfl, delay⟩, ⟨[], rfl, rfl, fun _ => rfl⟩, fun kept => kept, ?_⟩
      simp [Step.after, Step.andThen, Incident.isUnreachable]
  · simp only [Link.watched, closed, broken, passes, Bool.and_self, if_true]
    exact lost after

variable (link) in
/-- Writing what waits. It makes no attempts, also after a loss. -/
theorem attends_writeAll (minds : Minds config d r) (up : d.connected = true)
    (waiting : List Metric) :
    Attends config link [] d r (d.writeAll config.patient link.watched r waiting) := by
  induction waiting generalizing d r with
  | nil => exact .still minds minds.calm rfl rfl rfl rfl
  | cons m rest ih =>
    -- Of a breakage on `m`, by its write or by its drain, one that escapes changes nothing.
    have broke : ∀ (b : Breakage) (after : ω),
        Attends config link [] d r (({ d with backlog := m :: rest } : Delivery τ).handleLoss
          config.patient link.watched ⟨after, b.isHandled, r.events⟩ b) := by
      intro b after
      by_cases dealt : b.isHandled = true
      · have handled := attends_handleLoss config link (d := { d with backlog := m :: rest })
          (r := ⟨after, b.isHandled, r.events⟩) up dealt dealt minds.delay
        exact handled.reset rfl rfl
      · unfold Delivery.handleLoss
        rw [if_neg dealt]
        exact .still minds (Bool.eq_false_iff.mpr dealt) rfl rfl rfl rfl
    unfold Delivery.writeAll
    rcases wrote : link.write (Frame.encode m) r.env with ⟨env, b | _⟩
    · simp only [Link.watched, wrote, breaks]
      exact broke b env
    · rcases drained : link.drain env with ⟨last, b | _⟩
      · simp only [Link.watched, wrote, drained, breaks]
        exact broke b last
      · have onward := ih (d := { d with backlog := rest, sent := d.sent + 1 })
          (r := ⟨last, false, r.events⟩) ⟨rfl, minds.delay⟩ up
        simp only [Link.watched, wrote, drained, breaks]
        exact (onward.after [.sent] rfl).reset rfl rfl

variable (link) in
/-- Making sure that there is a connection, by one attempt if it is due. -/
theorem attends_ensureConnected (minds : Minds config d r) :
    Attends config link
      (if d.connected = true ∨ link.now r.env < d.nextAttempt then [] else [link.now r.env]) d r
      (d.ensureConnected config.patient link.watched r) := by
  unfold Delivery.ensureConnected
  by_cases up : d.connected = true
  · rw [if_pos up, if_pos (.inl up)]
    exact .still minds minds.calm rfl rfl rfl rfl
  rw [if_neg up]
  have now : link.watched.now r = link.now r.env := rfl
  rw [now]
  by_cases early : link.now r.env < d.nextAttempt
  · rw [if_pos early, if_pos (.inr early)]
    exact .still minds minds.calm rfl rfl rfl rfl
  rw [if_neg early, if_neg (not_or.mpr ⟨up, early⟩)]
  have tried : Delivery.attempt config.patient link.watched r = link.watched.connect r := rfl
  rw [tried]
  rcases answered : link.connect r.env with ⟨after, b | _⟩
  · by_cases dealt : b.isHandled = true
    · simp only [Link.watched, answered, Event.ofAnswer, dealt, if_true]
      have delay : d.delay =
          delayAfter config (failedSince (.attempted (link.now r.env) :: r.events)) := minds.delay
      obtain ⟨doubled, next⟩ := scheduleRetry_spec (.refused (link.now after)) delay rfl
      refine ⟨⟨minds.calm, doubled⟩, ⟨[.refused (link.now after)], rfl, rfl, fun _ => rfl⟩,
        fun _ => next, ?_⟩
      have more : (Event.refused (link.now after) :: .attempted (link.now r.env) ::
          r.events).countP Event.isRefused = r.events.countP Event.isRefused + 1 := by
        rw [List.countP_cons, List.countP_cons]
        rfl
      exact (Nat.add_comm 1 _).trans more.symm
    · simp only [Link.watched, answered, Event.ofAnswer, dealt]
      refine ⟨⟨minds.calm, minds.delay⟩, ⟨[], rfl, rfl, fun expected => ?_⟩, fun kept => kept, ?_⟩
      · exact absurd (expected r.env b (by rw [answered])) dealt
      · simp [Event.isRefused]
  · simp only [Link.watched, answered, Event.ofAnswer]
    refine ⟨⟨minds.calm, rfl⟩, ⟨[.connected], rfl, rfl, fun _ => rfl⟩, fun kept => kept, ?_⟩
    simp [Step.stay, Event.isRefused]

variable (link) in
/-- Writing what waits if there is a connection or one can be made. -/
theorem attends_flush (minds : Minds config d r) :
    Attends config link
      (if d.connected = true ∨ link.now r.env < d.nextAttempt then [] else [link.now r.env]) d r
      (d.flush config.patient link.watched r) := by
  have ensured := attends_ensureConnected link minds
  refine ensured.andThen _ ?_
  split
  · rename_i up
    exact attends_writeAll link ensured.minds up _
  · exact .still ensured.minds ensured.minds.calm rfl rfl rfl rfl

variable (link) in
/-- A call makes one attempt just if there is no connection and the delay is over. -/
theorem attends_send (minds : Minds config d r)
    (m : Metric) :
    Attends config link
      (if d.connected = true ∨ link.now r.env < d.nextAttempt then [] else [link.now r.env]) d r
      (d.send config.patient link.watched r m) := by
  obtain ⟨connected, delay, next, silent⟩ :
      (d.accept config m).1.connected = d.connected ∧ (d.accept config m).1.delay = d.delay ∧
        (d.accept config m).1.nextAttempt = d.nextAttempt ∧
        (d.accept config m).2.countP Incident.isUnreachable = 0 := by
    unfold Delivery.accept
    split <;> exact ⟨rfl, rfl, rfl, rfl⟩
  have flushed := attends_flush link (d := (d.accept config m).1)
    ⟨minds.calm, delay.trans minds.delay⟩
  rw [connected, next] at flushed
  exact (flushed.after _ silent).reset next.symm rfl

variable (link) in
/-- The end makes one attempt just if something waits and there is no connection, unless the clock
is behind its start. Of what it begins with, the deadline is another one. -/
theorem attends_finish (minds : Minds config d r) :
    ∃ hurried, Attends config link
      (if d.connected = true ∨ d.backlog = [] ∨ link.now r.env < 0 then [] else [link.now r.env])
      hurried r (d.finish config.patient link.watched r) := by
  have tried : ∃ hurried, Attends config link
      (if d.connected = true ∨ d.backlog = [] ∨ link.now r.env < 0 then [] else [link.now r.env])
      hurried r (if d.backlog.isEmpty then .stay d r
        else { d with nextAttempt := 0 }.flush config.patient link.watched r) := by
    by_cases empty : d.backlog = []
    · rw [if_pos (.inr (.inl empty)), if_pos (List.isEmpty_iff.mpr empty)]
      exact ⟨d, .still minds minds.calm rfl rfl rfl rfl⟩
    · have flushed := attends_flush link (d := { d with nextAttempt := 0 })
        ⟨minds.calm, minds.delay⟩
      simp only [empty, false_or, List.isEmpty_iff, if_false]
      exact ⟨_, flushed⟩
  obtain ⟨hurried, tried⟩ := tried
  have discarded := tried.andThen Delivery.discard (attends_discard tried.minds)
  exact ⟨hurried, discarded.andThen (fun d r => d.disconnect link.watched r)
    (attends_disconnect discarded.minds)⟩

end Steps

/-! ## Whole sequences of calls -/

section Punctuality

variable [LinearOrder τ] [AddMonoid τ] {config : Config τ} {events : List (Event τ)}

theorem punctual_cons {event : Event τ} : Punctual config (event :: events) ↔
    (∀ time, event = .attempted time →
      ∀ failure ∈ (failures config events).head?, failure.1 + failure.2 ≤ time) ∧
    Punctual config events := by
  unfold Punctual
  constructor
  · refine fun punctual => ⟨fun time same => ?_, fun time earlier part => ?_⟩
    · exact punctual time events (same ▸ List.suffix_refl _)
    · exact punctual time earlier (part.trans (List.suffix_cons _ _))
  · rintro ⟨due, punctual⟩ time earlier part
    rcases List.suffix_cons_iff.mp part with whole | inner
    · obtain ⟨same, rfl⟩ := List.cons.inj whole
      exact due time same.symm
    · exact punctual time earlier inner

/-- Events without an attempt keep the earlier ones punctual. -/
theorem Punctual.quiet (punctual : Punctual config events) {since : List (Event τ)}
    (quiet : since.filterMap Event.attempt? = []) : Punctual config (since ++ events) := by
  induction since with
  | nil => exact punctual
  | cons event since ih =>
    obtain ⟨none, rest⟩ := List.forall_mem_cons.mp (List.filterMap_eq_nil_iff.mp quiet)
    refine punctual_cons.mpr ⟨fun time same => ?_, ih (List.filterMap_eq_nil_iff.mpr rest)⟩
    rw [same] at none
    cases none

/-- An attempt that is not early is punctual. -/
theorem Punctual.attempt (punctual : Punctual config events) {time : τ}
    (due : deadline config events ≤ time) : Punctual config (.attempted time :: events) := by
  refine punctual_cons.mpr ⟨fun other same failure latest => ?_, punctual⟩
  obtain rfl := Event.attempted.inj same
  rw [deadline, Option.mem_def.mp latest] at due
  exact due

end Punctuality

section Runs

variable [LinearOrder τ] [AddMonoid τ] (config : Config τ) (link : Link ω τ) (network : ω)

/-- What becomes of the environment between two calls, under a watch. -/
def Watched.wait (f : ω → ω) (r : Watched ω τ) : Watched ω τ := { r with env := f r.env }

/-- What calls leave, and all that they told. -/
def runAll (calls : List (Sending ω)) : Step ω τ :=
  calls.foldl (fun s call =>
    (s.delivery.send config link (call.wait s.link) call.metric).after s.incidents)
    (.stay (.initial config) network)

/-- The same under a watch. -/
def watchAll (calls : List (Sending ω)) : Step (Watched ω τ) τ :=
  calls.foldl (fun s call =>
    (s.delivery.send config.patient (link.reached config).watched (.wait call.wait s.link)
      call.metric).after s.incidents)
    (.stay (.initial config) ⟨network, false, []⟩)

/-- The end after calls under a watch. -/
def watchEnd (calls : List (Sending ω)) (wait : ω → ω) : Step (Watched ω τ) τ :=
  let s := watchAll config link network calls
  s.delivery.finish config.patient (link.reached config).watched (.wait wait s.link)

theorem watchAll_concat (calls : List (Sending ω)) (call : Sending ω) :
    watchAll config link network (calls ++ [call]) =
      ((watchAll config link network calls).delivery.send config.patient
        (link.reached config).watched (.wait call.wait (watchAll config link network calls).link)
        call.metric).after (watchAll config link network calls).incidents :=
  List.foldl_concat ..

theorem sendAll_eq_runAll (calls : List (Sending ω)) : sendAll config link network calls =
    ((runAll config link network calls).delivery, (runAll config link network calls).link) := by
  induction calls using List.reverseRecOn with
  | nil => rfl
  | append_singleton calls call ih =>
    unfold sendAll runAll at ih ⊢
    rw [List.foldl_concat, List.foldl_concat, ih]
    rfl

/-- The watch changes nothing of what calls do, or tell. -/
theorem watchAll_view (calls : List (Sending ω)) :
    (watchAll config link network calls).view Watched.env = runAll config link network calls := by
  induction calls using List.reverseRecOn with
  | nil => rfl
  | append_singleton calls call ih =>
    have same := (link.reached config).watched_mirrors.send config.patient
      (watchAll config link network calls).delivery
      (.wait call.wait (watchAll config link network calls).link) call.metric
    rw [send_reached] at same
    unfold runAll at ih ⊢
    rw [List.foldl_concat, ← ih, watchAll_concat]
    exact congrArg (Step.after (watchAll config link network calls).incidents) same

theorem watchEnd_view (calls : List (Sending ω)) (wait : ω → ω) :
    (watchEnd config link network calls wait).view Watched.env =
      endAfter config link network calls wait := by
  unfold watchEnd endAfter
  rw [sendAll_eq_runAll, ← watchAll_view]
  exact ((link.reached config).watched_mirrors.finish config.patient _ _).trans
    (finish_reached config link _ _)

/-- What holds between calls: the delay and the deadline are those that follow from the events, no
attempt was early, each one succeeded or failed, and just those that failed were told of. -/
structure BacksOff (s : Step (Watched ω τ) τ) : Prop where
  calm : s.link.broken = false
  delay : s.delivery.delay = delayAfter config (failedSince s.link.events)
  next : s.delivery.nextAttempt = deadline config s.link.events
  punctual : Punctual config s.link.events
  answered : link.Expected → Answered s.link.events
  told : s.incidents.countP Incident.isUnreachable = s.link.events.countP Event.isRefused

variable {config link}

/-- A call keeps what holds between calls. -/
theorem BacksOff.send {s : Step (Watched ω τ) τ} (backs : BacksOff config link s)
    (call : Sending ω) :
    BacksOff config link ((s.delivery.send config.patient link.watched (.wait call.wait s.link)
      call.metric).after s.incidents) := by
  have attends := attends_send link (d := s.delivery) (r := .wait call.wait s.link)
    ⟨backs.calm, backs.delay⟩ call.metric
  obtain ⟨later, events, quiet, -⟩ := attends.grown
  obtain ⟨since, whole, -, answered⟩ := attends.since
  refine ⟨attends.minds.calm, attends.minds.delay, attends.next backs.next, ?_, fun expected => ?_,
    ?_⟩
  · rw [Step.after, events]
    refine Punctual.quiet ?_ quiet
    split
    · exact backs.punctual
    · rename_i due
      rw [not_or, not_lt, backs.next] at due
      exact backs.punctual.attempt due.2
  · rw [Step.after, whole]
    exact (answered expected).append (backs.answered expected)
  · rw [Step.after, List.countP_append, backs.told, ← attends.told, Nat.add_comm]
    rfl

variable (config link) in
theorem backsOff_watchAll (calls : List (Sending ω)) :
    BacksOff config (link.reached config) (watchAll config link network calls) := by
  induction calls using List.reverseRecOn with
  | nil =>
    exact ⟨rfl, rfl, rfl, (fun _ _ part => nomatch List.suffix_nil.mp part), fun _ => rfl, rfl⟩
  | append_singleton calls call ih =>
    rw [watchAll_concat]
    exact ih.send call

omit [LinearOrder τ] [AddMonoid τ] in
theorem Link.Expected.reached (expected : link.Expected) : (link.reached config).Expected := by
  intro env b failed
  unfold Link.reached Delivery.attempt at failed
  dsimp only at failed
  split at failed
  · cases failed
    rfl
  · exact expected env b failed

omit [LinearOrder τ] [AddMonoid τ] in
theorem changes_unreachable {α : Type} (name : String) (incident : Incident) :
    Effect.changes .reconnectFailures (Operators.incidentEffects (α := α) name config incident) =
      if incident.isUnreachable then [([], .increase 1)] else [] := by
  unfold Operators.incidentEffects
  rw [Effect.changes_append, changes_warned, List.append_nil]
  cases incident <;> rfl

/-- The meter of failed connections grows by one for each attempt that failed. -/
def Metered (α : Type) (name : String) (config : Config τ) (incidents : List Incident)
    (events : List (Event τ)) : Prop :=
  ∀ (place : Nat) (j : Journal α) (value : Float), j.registry.Counts .reconnectFailures value →
    ((incidents.flatMap (Operators.incidentEffects name config)).foldl (Journal.record place)
      j).registry.Counts .reconnectFailures
        ((· + Registry.one)^[events.countP Event.isRefused] value)

omit [LinearOrder τ] [AddMonoid τ] in
theorem metered_of_told (α : Type) (name : String) {incidents : List Incident}
    {events : List (Event τ)}
    (told : incidents.countP Incident.isUnreachable = events.countP Event.isRefused) :
    Metered α name config incidents events := by
  intro place j value counts
  rw [← told]
  exact Journal.counts_record (changes_incidents (changes_unreachable name) incidents) place j
    counts

variable (config link)

/-- The backoff of a delivery, whatever its link answers and whatever becomes of the environment and
its clock between the calls. A watch, which changes nothing of what is done and told, lists what
happens to the connection. Each call makes one attempt to connect if there is no connection and the
deadline has come, and none otherwise. The deadline is the delay after the latest failure, be it a
failed attempt or a lost connection; so no attempt is made before. The first delay after a
connection, or after the start, is the initial one, and each further one twice the one before, up to
the greatest one. The meter of failed connections grows by one for each failure of an attempt that is
dealt with, which is each attempt that does not succeed, unless connecting fails in another way; such
a failure escapes, and no delay begins. The end makes one attempt just if there is no connection and
something waits, whatever the deadline. -/
theorem attempts_backOff (α : Type) (name : String) (calls : List (Sending ω)) (wait : ω → ω) :
    let s := watchAll config link network calls
    let ended := watchEnd config link network calls wait
    ((s.delivery, s.link.env) = sendAll config link network calls ∧
      s.view Watched.env = runAll config link network calls ∧
      ended.view Watched.env = endAfter config link network calls wait) ∧
    (∀ call : Sending ω, ∃ since,
      (watchAll config link network (calls ++ [call])).link.events = since ++ s.link.events ∧
      since.filterMap Event.attempt? =
        if s.delivery.connected = true ∨
          link.now (call.wait s.link.env) < deadline config s.link.events then []
        else [link.now (call.wait s.link.env)]) ∧
    Punctual config s.link.events ∧
    s.delivery.nextAttempt = deadline config s.link.events ∧
    s.delivery.delay = delayAfter config (failedSince s.link.events) ∧
    Metered α name config s.incidents s.link.events ∧
    Metered α name config (s.incidents ++ ended.incidents) ended.link.events ∧
    (link.Expected → Answered ended.link.events) ∧
    ∃ since, ended.link.events = since ++ s.link.events ∧
      since.filterMap Event.attempt? =
        if s.delivery.connected = true ∨ s.delivery.backlog = [] ∨
          link.now (wait s.link.env) < 0 then []
        else [link.now (wait s.link.env)] := by
  intro s ended
  have backs := backsOff_watchAll config link network calls
  obtain ⟨hurried, attends⟩ := attends_finish (link.reached config) (d := s.delivery)
    (r := .wait wait s.link) ⟨backs.calm, backs.delay⟩
  obtain ⟨since, events, attempts, answered⟩ := attends.since
  have whole := watchAll_view config link network calls
  refine ⟨⟨?_, whole, watchEnd_view config link network calls wait⟩, fun call => ?_,
    backs.punctual, backs.next, backs.delay, metered_of_told α name backs.told,
    metered_of_told α name ?_, fun expected => ?_, since, events, attempts⟩
  · rw [sendAll_eq_runAll, ← whole]
    rfl
  · have sends := attends_send (link.reached config) (d := s.delivery)
      (r := .wait call.wait s.link) ⟨backs.calm, backs.delay⟩ call.metric
    obtain ⟨since, events, attempts, -⟩ := sends.since
    rw [watchAll_concat]
    rw [backs.next] at attempts
    exact ⟨since, events, attempts⟩
  · rw [List.countP_append, backs.told, Nat.add_comm]
    exact attends.told
  · have reached : (link.reached config).Expected := expected.reached
    rw [show ended.link.events = _ from events]
    exact (answered reached).append (backs.answered reached)

end Runs

section Patience

/-- A network on which nothing succeeds. -/
def dead : List Bool := List.replicate 9 false

/-- Three metrics, the second at once and the third after five ticks. -/
def patience : List (Sending (List Bool)) := [⟨id, climber⟩, ⟨id, lander⟩, ⟨List.drop 5, climber⟩]

/-- The first attempt fails at the time 1, so the second metric makes none, and the third one makes
the second attempt as soon as it is due. The delay after it has not doubled, as it may not exceed 9,
and the end does not wait for it. -/
theorem attempts_backOff_patience :
    let s := watchAll narrow answers dead patience
    let ended := watchEnd narrow answers dead patience id
    failures narrow s.link.events = [(7, 9), (1, 5)] ∧ Punctual narrow s.link.events ∧
      ended.link.events.filterMap Event.attempt? = [7, 6, 0] ∧ Answered ended.link.events ∧
      ended.link.events.countP Event.isRefused = 3 := by
  intro s ended
  obtain ⟨-, -, punctual, -, -, -, -, answered, -⟩ :=
    attempts_backOff narrow answers dead Unit "Sink" patience id
  exact ⟨by decide +kernel, punctual, by decide +kernel, answered answers_handled.connect,
    by decide +kernel⟩

end Patience

end FlightStream.Graphite
