import FlightStream.Graphite.Sink

/-!
Links that answer alike, one of them over an environment that shows more. A delivery does the same
over both, `Mirrors.send` and `Mirrors.finish`, so what the wider environment records is recorded of
the delivery over the other link.
-/

namespace FlightStream.Graphite

variable {ω ω' τ : Type}

/-- A step with less of the environment. -/
def Step.view (f : ω' → ω) (s : Step ω' τ) : Step ω τ :=
  ⟨s.delivery, f s.link, s.incidents, s.failure⟩

/-- One link answers as another does on less of its environment. -/
structure Link.Mirrors (wide : Link ω' τ) (link : Link ω τ) (f : ω' → ω) : Prop where
  now : ∀ r, wide.now r = link.now (f r)
  connect : ∀ r, (wide.connect r).map f id = link.connect (f r)
  write : ∀ frame r, (wide.write frame r).map f id = link.write frame (f r)
  drain : ∀ r, (wide.drain r).map f id = link.drain (f r)
  close : ∀ r, (wide.close r).map f id = link.close (f r)

theorem view_andThen {f : ω' → ω} {s : Step ω' τ} {plain : Step ω τ}
    {next : Delivery τ → ω' → Step ω' τ} {other : Delivery τ → ω → Step ω τ}
    (same : s.view f = plain) (onward : ∀ d r, (next d r).view f = other d (f r)) :
    (s.andThen next).view f = plain.andThen other := by
  subst same
  unfold Step.andThen
  cases failure : s.failure with
  | some fault =>
    have failed : (s.view f).failure = some fault := failure
    rw [failed]
  | none =>
    have going : (s.view f).failure = none := failure
    rw [going]
    exact congrArg (Step.after s.incidents) (onward s.delivery s.link)

namespace Link.Mirrors

variable {wide : Link ω' τ} {link : Link ω τ} {f : ω' → ω} (mirrors : wide.Mirrors link f)
  (config : Config τ) (d : Delivery τ) (r : ω')

include mirrors

theorem disconnect : (d.disconnect wide r).view f = d.disconnect link (f r) := by
  unfold Delivery.disconnect
  rw [← mirrors.close]
  split
  · rcases wide.close r with ⟨after, b | _⟩ <;> rfl
  · rfl

theorem attempt :
    (Delivery.attempt config wide r).map f id = Delivery.attempt config link (f r) := by
  unfold Delivery.attempt
  rw [← mirrors.connect]
  split <;> rfl

variable [Add τ] [LT τ] [DecidableLT τ]

theorem handleLoss (b : Breakage) :
    (d.handleLoss config wide r b).view f = d.handleLoss config link (f r) b := by
  unfold Delivery.handleLoss
  split
  · refine congrArg (Step.after [.lost b.text])
      (view_andThen (mirrors.disconnect d r) fun d r => ?_)
    rw [mirrors.now]
    rfl
  · rfl

theorem writeAll (waiting : List Metric) :
    (d.writeAll config wide r waiting).view f = d.writeAll config link (f r) waiting := by
  induction waiting generalizing d r with
  | nil => rfl
  | cons m rest ih =>
    unfold Delivery.writeAll
    rw [← mirrors.write]
    rcases wide.write (Frame.encode m) r with ⟨after, b | _⟩
    · exact mirrors.handleLoss config _ _ b
    · simp only [Prod.map_apply, id_eq]
      rw [← mirrors.drain]
      rcases wide.drain after with ⟨last, b | _⟩
      · exact mirrors.handleLoss config _ _ b
      · exact congrArg (Step.after [.sent]) (ih _ _)

theorem ensureConnected :
    (d.ensureConnected config wide r).view f = d.ensureConnected config link (f r) := by
  unfold Delivery.ensureConnected
  rw [mirrors.now, ← mirrors.attempt]
  split
  · rfl
  split
  · rfl
  rcases Delivery.attempt config wide r with ⟨after, b | _⟩
  · simp only [Prod.map_apply, id_eq]
    split
    · rw [← mirrors.now]
      rfl
    · rfl
  · rfl

theorem flush : (d.flush config wide r).view f = d.flush config link (f r) := by
  refine view_andThen (mirrors.ensureConnected config d r) fun d r => ?_
  split
  · exact mirrors.writeAll config d r d.backlog
  · rfl

/-- Sending is the same over both links. -/
theorem send (m : Metric) : (d.send config wide r m).view f = d.send config link (f r) m :=
  congrArg (Step.after (d.accept config m).2) (mirrors.flush config (d.accept config m).1 r)

/-- Ending is the same over both links. -/
theorem finish [OfNat τ 0] : (d.finish config wide r).view f = d.finish config link (f r) := by
  refine view_andThen (view_andThen ?_ fun d r => ?_) fun d r => mirrors.disconnect d r
  · split
    · rfl
    · exact mirrors.flush config _ r
  · unfold Delivery.discard
    split <;> rfl

end Link.Mirrors

end FlightStream.Graphite
