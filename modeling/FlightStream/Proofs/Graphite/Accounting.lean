import FlightStream.Proofs.Graphite.Recording
import Mathlib.Data.List.Basic

/-!
Where the metrics go that a delivery accepted. Each is sent, dropped, or still waits; the first ones
are settled and the rest wait, in order. What was drained are the frames of the sent ones, and the
counts are those of both fates.
-/

namespace FlightStream.Graphite

/-- What became of a metric. -/
inductive Fate
  | sent | dropped
  deriving DecidableEq, Repr

/-- The metrics with a fate. -/
def withFate (fate : Fate) (settled : List (Metric × Fate)) : List Metric :=
  (settled.filter fun s => s.2 = fate).map (·.1)

@[simp] theorem withFate_append (fate : Fate) (before after : List (Metric × Fate)) :
    withFate fate (before ++ after) = withFate fate before ++ withFate fate after := by
  simp [withFate]

@[simp] theorem withFate_map (fate own : Fate) (metrics : List Metric) :
    withFate fate (metrics.map fun m => (m, own)) = if own = fate then metrics else [] := by
  unfold withFate
  rw [List.filter_map, List.map_map]
  by_cases same : own = fate <;> simp [same, Function.comp_def]

/-- Whether an incident tells of a metric with a fate. -/
def Fate.tells : Fate → Incident → Bool
  | sent, .sent => true
  | dropped, .dropped _ => true
  | _, _ => false

variable {ω τ : Type}

/-! ## Steps that write -/

/-- A step that wrote the first of the waiting metrics, and lost none. -/
structure Writes (d : Delivery τ) (logged : List (List UInt8)) (written : List Metric)
    (s : Step (Recorded ω) τ) : Prop where
  waiting : d.backlog = written ++ s.delivery.backlog
  drained : s.link.drained = logged ++ written.map Frame.encode
  sent : s.delivery.sent = d.sent + written.length
  dropped : s.delivery.dropped = d.dropped
  tells : ∀ fate : Fate, s.incidents.countP fate.tells =
    (withFate fate (written.map fun m => (m, .sent))).length

namespace Writes

variable {d : Delivery τ} {logged : List (List UInt8)} {written : List Metric}
  {s : Step (Recorded ω) τ}

/-- A step in which nothing was sent or dropped. -/
theorem nothing (waiting : s.delivery.backlog = d.backlog) (drained : s.link.drained = logged)
    (sent : s.delivery.sent = d.sent) (dropped : s.delivery.dropped = d.dropped)
    (silent : ∀ fate : Fate, s.incidents.countP fate.tells = 0) : Writes d logged [] s where
  waiting := waiting.symm
  drained := by rw [drained, List.map_nil, List.append_nil]
  sent := sent
  dropped := dropped
  tells := silent

/-- Incidents of another kind before a step do not matter. -/
theorem after (writes : Writes d logged written s) {before : List Incident}
    (silent : ∀ fate : Fate, before.countP fate.tells = 0) :
    Writes d logged written (s.after before) where
  waiting := writes.waiting
  drained := writes.drained
  sent := writes.sent
  dropped := writes.dropped
  tells := by
    intro fate
    rw [Step.after, List.countP_append, silent, Nat.zero_add]
    exact writes.tells fate

/-- A step that writes, and another one after it. -/
theorem andThen (writes : Writes d logged written s)
    (next : Delivery τ → Recorded ω → Step (Recorded ω) τ)
    (onward : ∃ more, Writes s.delivery s.link.drained more (next s.delivery s.link)) :
    ∃ all, Writes d logged all (s.andThen next) := by
  unfold Step.andThen
  cases s.failure with
  | some fault => exact ⟨written, writes⟩
  | none =>
    obtain ⟨more, ahead⟩ := onward
    refine ⟨written ++ more, ?_, ?_, ?_, ?_, ?_⟩
    · rw [writes.waiting, ahead.waiting, List.append_assoc]
      rfl
    · rw [List.map_append, ← List.append_assoc, ← writes.drained]
      exact ahead.drained
    · rw [List.length_append, ← Nat.add_assoc, ← writes.sent]
      exact ahead.sent
    · exact ahead.dropped.trans writes.dropped
    · intro fate
      rw [Step.after, List.countP_append, writes.tells, ahead.tells, List.map_append,
        withFate_append, List.length_append]

end Writes

namespace Delivery

variable (config : Config τ) (link : Link ω τ) (d : Delivery τ) (r : Recorded ω)

theorem writes_disconnect : Writes d r.drained [] (d.disconnect link.recorded r) := by
  unfold disconnect
  cases d.connected with
  | false => exact .nothing rfl rfl rfl rfl fun | .sent | .dropped => rfl
  | true =>
    simp only [if_true, Link.recorded]
    rcases link.close r.env with ⟨env, _ | _⟩
    · exact .nothing rfl rfl rfl rfl fun | .sent | .dropped => rfl
    · exact .nothing rfl rfl rfl rfl fun | .sent | .dropped => rfl

variable [Add τ] [LT τ] [DecidableLT τ]

theorem writes_handleLoss (b : Breakage) :
    ∃ written, Writes d r.drained written (d.handleLoss config link.recorded r b) := by
  unfold handleLoss
  cases b.isHandled with
  | false => exact ⟨[], .nothing rfl rfl rfl rfl fun | .sent | .dropped => rfl⟩
  | true =>
    obtain ⟨all, writes⟩ := (d.writes_disconnect link r).andThen
      (fun d r => .stay (d.scheduleRetry config (link.recorded.now r)) r)
      ⟨[], .nothing rfl rfl rfl rfl fun | .sent | .dropped => rfl⟩
    exact ⟨all, writes.after fun | .sent | .dropped => rfl⟩

/-- Writing sends some of the waiting metrics, from the first on. -/
theorem writes_writeAll (waiting : List Metric) :
    ∃ written, Writes { d with backlog := waiting } r.drained written
      (d.writeAll config link.recorded r waiting) := by
  induction waiting generalizing d r with
  | nil => exact ⟨[], .nothing rfl rfl rfl rfl fun | .sent | .dropped => rfl⟩
  | cons m rest ih =>
    unfold writeAll
    rcases link.write_recorded (Frame.encode m) r with ⟨env, wrote⟩ | ⟨env, b, failed⟩
    · rcases link.drain_recorded ⟨env, some (Frame.encode m), r.drained⟩ with
        ⟨env, drained⟩ | ⟨env, b, failed⟩
      · obtain ⟨more, writes⟩ := ih { d with backlog := rest, sent := d.sent + 1 }
          ⟨env, none, r.drained ++ [Frame.encode m]⟩
        simp only [wrote, drained, Option.toList_some]
        refine ⟨m :: more, ?_, ?_, ?_, writes.dropped, ?_⟩
        · exact congrArg (m :: ·) writes.waiting
        · exact writes.drained.trans (List.append_assoc ..)
        · have sent := writes.sent
          simp only [List.length_cons] at sent ⊢
          rw [Step.after, sent]
          omega
        · intro fate
          have tells := writes.tells fate
          rw [withFate_map] at tells ⊢
          rw [Step.after, List.countP_append, tells]
          cases fate with
          | sent => exact Nat.add_comm ..
          | dropped => rfl
      · simp only [wrote, failed]
        exact writes_handleLoss config link { d with backlog := m :: rest }
          ⟨env, some (Frame.encode m), r.drained⟩ b
    · simp only [failed]
      exact writes_handleLoss config link { d with backlog := m :: rest }
        ⟨env, r.written, r.drained⟩ b

theorem writes_ensureConnected :
    Writes d r.drained [] (d.ensureConnected config link.recorded r) := by
  unfold ensureConnected
  rw [attempt_recorded]
  split
  · exact .nothing rfl rfl rfl rfl fun | .sent | .dropped => rfl
  · split
    · exact .nothing rfl rfl rfl rfl fun | .sent | .dropped => rfl
    · rcases attempt config link r.env with ⟨env, b | _⟩
      · cases handled : b.isHandled
        · simp only [handled]
          exact .nothing rfl rfl rfl rfl fun | .sent | .dropped => rfl
        · simp only [handled]
          exact .nothing rfl rfl rfl rfl fun | .sent | .dropped => rfl
      · exact .nothing rfl rfl rfl rfl fun | .sent | .dropped => rfl

theorem writes_flush :
    ∃ written, Writes d r.drained written (d.flush config link.recorded r) := by
  refine (d.writes_ensureConnected config link r).andThen _ ?_
  split
  · exact writes_writeAll config link _ _ _
  · exact ⟨[], .nothing rfl rfl rfl rfl fun | .sent | .dropped => rfl⟩

end Delivery

/-! ## Accepting and sending -/

/-- The accepted metrics are settled or wait, and the log and the counts are those of the settled
ones. -/
structure Accounts (accepted : List Metric) (settled : List (Metric × Fate)) (d : Delivery τ)
    (logged : List (List UInt8)) : Prop where
  metrics : accepted = settled.map (·.1) ++ d.backlog
  drained : logged = (withFate .sent settled).map Frame.encode
  sent : d.sent = (withFate .sent settled).length
  dropped : d.dropped = (withFate .dropped settled).length

theorem accounts_initial [OfNat τ 0] (config : Config τ) :
    Accounts [] [] (.initial config) [] := ⟨rfl, rfl, rfl, rfl⟩

/-- A metric is lost only from a full backlog, and then it is the oldest one. -/
theorem Delivery.accept_spec (d : Delivery τ) (config : Config τ) (m : Metric)
    (room : d.backlog.length ≤ config.capacity) :
    ∃ lost, d.backlog ++ [m] = lost ++ (d.accept config m).1.backlog ∧
      (d.accept config m).1.backlog.length ≤ config.capacity ∧
      (d.accept config m).1.sent = d.sent ∧
      (d.accept config m).1.dropped = d.dropped + lost.length ∧
      (∀ fate : Fate, (d.accept config m).2.countP fate.tells =
        (withFate fate (lost.map fun m => (m, .dropped))).length) ∧
      (lost ≠ [] → d.backlog.length = config.capacity) := by
  unfold accept
  by_cases full : d.backlog.length = config.capacity
  · have excess : (d.backlog ++ [m]).length - config.capacity = 1 := by
      rw [List.length_append, List.length_singleton]
      omega
    have one : ((d.backlog ++ [m]).take 1).length = 1 := by
      rw [List.length_take, List.length_append, List.length_singleton]
      omega
    rw [if_pos full, excess]
    refine ⟨(d.backlog ++ [m]).take 1, ?_, ?_, rfl, ?_, ?_, fun _ => full⟩
    · exact (List.take_append_drop 1 _).symm
    · rw [List.length_drop, List.length_append, List.length_singleton]
      omega
    · rw [one]
    · intro fate
      rw [withFate_map]
      cases fate with
      | sent => rfl
      | dropped => exact one.symm
  · have under : (d.backlog ++ [m]).length - config.capacity = 0 := by
      rw [List.length_append, List.length_singleton]
      omega
    rw [if_neg full, under]
    refine ⟨[], rfl, ?_, rfl, rfl, fun | .sent | .dropped => rfl, fun some_ => absurd rfl some_⟩
    rw [List.drop_zero, List.length_append, List.length_singleton]
    omega

section Sending

variable [Add τ] [LT τ] [DecidableLT τ] {config : Config τ} {link : Link ω τ} {d : Delivery τ}
  {r : Recorded ω} {accepted : List Metric} {settled : List (Metric × Fate)}

variable (link) in
/-- Sending a metric keeps the account. -/
theorem Accounts.send (accounts : Accounts accepted settled d r.drained)
    (room : d.backlog.length ≤ config.capacity) (m : Metric) :
    ∃ more, Accounts (accepted ++ [m]) (settled ++ more) (d.send config link.recorded r m).delivery
        (d.send config link.recorded r m).link.drained ∧
      (∀ fate : Fate, (d.send config link.recorded r m).incidents.countP fate.tells =
        (withFate fate more).length) ∧
      (d.send config link.recorded r m).delivery.backlog.length ≤ config.capacity ∧
      (withFate .dropped more ≠ [] → d.backlog.length = config.capacity) := by
  obtain ⟨lost, kept, fits, sent, dropped, told, full⟩ := d.accept_spec config m room
  obtain ⟨written, writes⟩ := (d.accept config m).1.writes_flush config link r
  have waiting := writes.waiting
  have sends : d.send config link.recorded r m =
      ((d.accept config m).1.flush config link.recorded r).after (d.accept config m).2 := rfl
  rw [sends]
  refine ⟨lost.map (fun m => (m, .dropped)) ++ written.map fun m => (m, .sent),
    ⟨?_, ?_, ?_, ?_⟩, ?_, ?_, ?_⟩
  · rw [accounts.metrics, List.append_assoc, kept, waiting, List.map_append, List.map_append,
      List.map_map, List.map_map]
    simp [Function.comp_def, Step.after]
  · have drained := writes.drained
    rw [accounts.drained] at drained
    simpa [Step.after] using drained
  · have counts := writes.sent
    rw [sent, accounts.sent] at counts
    simpa [Step.after] using counts
  · have counts := writes.dropped
    rw [dropped, accounts.dropped] at counts
    simpa [Step.after] using counts
  · intro fate
    rw [Step.after, List.countP_append, told, writes.tells, withFate_append, List.length_append]
  · have shorter := congrArg List.length waiting
    rw [List.length_append] at shorter
    exact Nat.le_trans (Nat.le.intro ((Nat.add_comm ..).trans shorter.symm)) fits
  · intro some_
    exact full (by simpa using some_)

end Sending

/-! ## The end -/

/-- A link that fails only in ways which delivery deals with. -/
structure Link.Handled (link : Link ω τ) : Prop where
  connect : ∀ env b, (link.connect env).2 = .error b → b.isHandled = true
  write : ∀ frame env b, (link.write frame env).2 = .error b → b.isHandled = true
  drain : ∀ env b, (link.drain env).2 = .error b → b.isHandled = true
  close : ∀ env b, (link.close env).2 = .error b → b.isHandled = true

namespace Delivery

variable {link : Link ω τ} (handled : link.Handled) (config : Config τ) (d : Delivery τ) (env : ω)

include handled

/-- Giving up the connection does not fail, and leaves the waiting metrics. -/
theorem disconnect_spec : (d.disconnect link env).failure = none ∧
    (d.disconnect link env).delivery.connected = false ∧
    (d.disconnect link env).delivery.backlog = d.backlog := by
  unfold disconnect
  by_cases connected : d.connected = true
  · rw [if_pos connected]
    rcases closed : link.close env with ⟨after, b | _⟩
    · have dealt := handled.close env b (by rw [closed])
      simp [dealt]
    · simp [Step.stay]
  · rw [if_neg connected]
    exact ⟨rfl, Bool.eq_false_iff.mpr connected, rfl⟩

variable [Add τ] [LT τ] [DecidableLT τ]

theorem handleLoss_failure {b : Breakage} (dealt : b.isHandled = true) :
    (d.handleLoss config link env b).failure = none := by
  have left := (disconnect_spec handled d env).1
  unfold handleLoss Step.andThen
  rw [if_pos dealt, left]
  rfl

theorem writeAll_failure (waiting : List Metric) :
    (d.writeAll config link env waiting).failure = none := by
  induction waiting generalizing d env with
  | nil => rfl
  | cons m rest ih =>
    unfold writeAll
    rcases wrote : link.write (Frame.encode m) env with ⟨after, b | _⟩
    · exact handleLoss_failure handled config _ _ (handled.write _ _ b (by rw [wrote]))
    · rcases drained : link.drain after with ⟨last, b | _⟩
      · simp only [drained]
        exact handleLoss_failure handled config _ _ (handled.drain _ b (by rw [drained]))
      · simp only [drained]
        exact ih _ _

theorem flush_failure : (d.flush config link env).failure = none := by
  have ensured : (d.ensureConnected config link env).failure = none := by
    unfold ensureConnected
    split
    · rfl
    · split
      · rfl
      · rcases tried : attempt config link env with ⟨after, b | _⟩
        · have dealt : b.isHandled = true := by
            unfold attempt at tried
            split at tried
            · cases tried
              rfl
            · exact handled.connect env b (by rw [tried])
          simp [dealt]
        · simp [Step.stay]
  unfold flush Step.andThen
  rw [ensured]
  simp only [Step.after]
  split
  · exact writeAll_failure handled config _ _ _
  · rfl

/-- The end does not fail, and after it nothing waits and there is no connection. -/
theorem finish_spec [OfNat τ 0] : ((d.finish config link env).delivery.backlog = [] ∧
    (d.finish config link env).delivery.connected = false) ∧
    (d.finish config link env).failure = none := by
  have emptied : ∀ (d : Delivery τ) (env : ω),
      (d.discard env).failure = none ∧ (d.discard env).delivery.backlog = [] := by
    intro d env
    unfold discard
    cases waiting : d.backlog <;> simp [Step.stay, waiting]
  have tried : (if d.backlog.isEmpty then Step.stay d env
      else { d with nextAttempt := 0 }.flush config link env).failure = none := by
    split
    · rfl
    · exact flush_failure handled config _ _
  unfold finish
  generalize (if d.backlog.isEmpty then Step.stay d env
    else { d with nextAttempt := 0 }.flush config link env) = first at tried ⊢
  obtain ⟨going, none⟩ := emptied first.delivery first.link
  have left := disconnect_spec handled (first.delivery.discard first.link).delivery
    (first.delivery.discard first.link).link
  simp only [Step.andThen, tried, Step.after, going]
  exact ⟨⟨left.2.2.trans none, left.2.1⟩, left.1⟩

end Delivery

end FlightStream.Graphite
