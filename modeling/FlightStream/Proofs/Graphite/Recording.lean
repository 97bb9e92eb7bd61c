import FlightStream.Proofs.Graphite.Mirror

/-!
A log beside a link: the frames that were written and then drained. A delivery over a link with a
log does just what it does over the link alone, `forget_send` and `forget_finish`.
-/

namespace FlightStream.Graphite

variable {ω τ : Type}

/-- An environment with a log: the frame written last, and the frames drained after they were
written. -/
structure Recorded (ω : Type) where
  env : ω
  written : Option (List UInt8)
  drained : List (List UInt8)

/-- Nothing is in the log yet. -/
def Recorded.fresh (env : ω) : Recorded ω := ⟨env, none, []⟩

/-- The link with a log. -/
def Link.recorded (link : Link ω τ) : Link (Recorded ω) τ where
  now r := link.now r.env
  connect r :=
    let answer := link.connect r.env
    ({ r with env := answer.1 }, answer.2)
  write frame r :=
    match link.write frame r.env with
    | (env, .ok ()) => ({ r with env := env, written := some frame }, .ok ())
    | (env, .error b) => ({ r with env := env }, .error b)
  drain r :=
    match link.drain r.env with
    | (env, .ok ()) => (⟨env, none, r.drained ++ r.written.toList⟩, .ok ())
    | (env, .error b) => ({ r with env := env }, .error b)
  close r :=
    let answer := link.close r.env
    ({ r with env := answer.1 }, answer.2)

/-- A write either succeeds and is noted, or fails. -/
theorem Link.write_recorded (link : Link ω τ) (frame : List UInt8) (r : Recorded ω) :
    (∃ env, link.recorded.write frame r = (⟨env, some frame, r.drained⟩, .ok ())) ∨
      ∃ env b, link.recorded.write frame r = (⟨env, r.written, r.drained⟩, .error b) := by
  rcases wrote : link.write frame r.env with ⟨env, b | _⟩
  · exact .inr ⟨env, b, by simp only [recorded, wrote]⟩
  · exact .inl ⟨env, by simp only [recorded, wrote]⟩

/-- A drain either succeeds and logs the frame written last, or fails. -/
theorem Link.drain_recorded (link : Link ω τ) (r : Recorded ω) :
    (∃ env, link.recorded.drain r = (⟨env, none, r.drained ++ r.written.toList⟩, .ok ())) ∨
      ∃ env b, link.recorded.drain r = (⟨env, r.written, r.drained⟩, .error b) := by
  rcases drained : link.drain r.env with ⟨env, b | _⟩
  · exact .inr ⟨env, b, by simp only [recorded, drained]⟩
  · exact .inl ⟨env, by simp only [recorded, drained]⟩

/-- A step without its log. -/
def Step.forget (s : Step (Recorded ω) τ) : Step ω τ :=
  ⟨s.delivery, s.link.env, s.incidents, s.failure⟩

/-- The link with a log answers as the link does. -/
theorem Link.recorded_mirrors (link : Link ω τ) : link.recorded.Mirrors link Recorded.env where
  now _ := rfl
  connect _ := rfl
  write := by
    intro frame r
    rcases wrote : link.write frame r.env with ⟨env, b | _⟩ <;> simp [recorded, wrote]
  drain := by
    intro r
    rcases drained : link.drain r.env with ⟨env, b | _⟩ <;> simp [recorded, drained]
  close _ := rfl

namespace Delivery

variable (config : Config τ) (link : Link ω τ) (d : Delivery τ) (r : Recorded ω)

theorem attempt_recorded : attempt config link.recorded r =
    ({ r with env := (attempt config link r.env).1 }, (attempt config link r.env).2) := by
  unfold attempt
  cases config.noTimeToConnect <;> rfl

variable [Add τ] [LT τ] [DecidableLT τ]

/-- Sending over a link with a log is sending over the link. -/
theorem forget_send (m : Metric) :
    (d.send config link.recorded r m).forget = d.send config link r.env m :=
  link.recorded_mirrors.send config d r m

/-- Ending over a link with a log is ending over the link. -/
theorem forget_finish [OfNat τ 0] :
    (d.finish config link.recorded r).forget = d.finish config link r.env :=
  link.recorded_mirrors.finish config d r

end Delivery

end FlightStream.Graphite
