import FlightStream.Proofs.Dataflow.Drain
import Mathlib.Data.DFinsupp.WellFounded
import Mathlib.Data.Prod.Lex

/-!
Every run of a network that drains is finite. A step only makes more of the work of places above
its own, so the work of all places, the lower ones first, gets less with every move.
-/

namespace FlightStream.Dataflow

variable {n : Nat} {α : Type}

/-- What happens next in a network: a place steps, or the sources that rest are woken. -/
inductive History.Moves : History n α → History n α → Prop
  | step {h next : History n α} (i : Fin n) : h.step? i = some next → Moves h next
  | wake {h : History n α} {i : Fin n} {source : Source α} :
      (h.network.cell i).role = .source source → source.resting = true →
      Moves h { h with network := h.network.mapSources Source.wake }

/-- The moves left to a source, of whatever it takes for a turn. -/
def Source.work (s : Source α) : Nat :=
  2 * s.script.turns.length + (if s.started then 0 else 1) + (if s.finished then 0 else 1) +
    (if s.resting then 1 else 0)

theorem Source.work_step {s : Source α} (able : s.canStep = true) : s.step.1.work < s.work := by
  simp only [canStep, Bool.and_eq_true, Bool.not_eq_true'] at able
  obtain ⟨unfinished, awake⟩ := able
  unfold step work
  cases started : s.started with
  | false => simp [unfinished, awake]
  | true =>
    cases running : s.running with
    | false => simp [finish, started, unfinished, awake]
    | true =>
      cases turns : s.script.turns with
      | nil => simp [finish, started, unfinished, awake, turns]
      | cons turn rest =>
        simp only [Bool.not_true, Bool.false_eq_true, if_false, List.length_cons, unfinished,
          if_true, awake]
        split <;> omega

theorem Source.work_wake (s : Source α) : s.wake.work ≤ s.work ∧
    (s.resting = true → s.wake.work < s.work) := by
  unfold wake work
  cases s.resting <;> simp

/-- The work left at a place: what it has still to take, and then what it has still to deliver. -/
def Cell.work (c : Cell n α) : ℕ ×ₗ ℕ :=
  match c.role with
  | .source s => toLex (s.work, c.outbox.length)
  | .worker _ _ => toLex (c.inbox.length, c.outbox.length)

/-- Lower places before higher ones, and places of one height in their order. -/
def Wiring.below (rank : Fin n → Nat) (i j : Fin n) : Prop :=
  toLex (rank i, i) < toLex (rank j, j)

theorem Wiring.below_total (rank : Fin n → Nat) : IsStrictTotalOrder (Fin n) (below rank) := by
  have injective : Function.Injective fun i => toLex (rank i, i) := fun i j same =>
    congrArg (fun pair => (ofLex pair).2) same
  exact (RelEmbedding.preimage ⟨_, injective⟩ (· < ·)).isStrictTotalOrder

/-- Taking the next thing to do leaves less of it, whatever there is to deliver then. -/
theorem Cell.work_act {c : Cell n α} {act : Act α} (outbox : List (Fin n × Message α))
    (acted : c.role.act? c.inbox = some act) :
    ({ c with role := act.role, inbox := act.inbox, outbox := outbox } : Cell n α).work <
      c.work := by
  unfold Cell.work
  cases role : c.role with
  | source s =>
    rw [role] at acted
    by_cases able : s.canStep = true
    · simp only [Role.act?, able, if_true, Option.some.injEq] at acted
      subst acted
      exact Prod.Lex.toLex_lt_toLex.mpr (.inl (Source.work_step able))
    · simp [Role.act?, able] at acted
  | worker operator w =>
    rw [role] at acted
    cases finished : w.finished with
    | true => simp [Role.act?, finished] at acted
    | false =>
      cases inbox : c.inbox with
      | nil => simp [Role.act?, finished, inbox] at acted
      | cons message rest =>
        simp only [Role.act?, finished, inbox, Option.some.injEq] at acted
        subst acted
        exact Prod.Lex.toLex_lt_toLex.mpr (.inl (Nat.lt_succ_self _))

theorem Cell.work_deliver {c : Cell n α} {first : Fin n × Message α}
    {rest : List (Fin n × Message α)} (waiting : c.outbox = first :: rest) :
    ({ c with outbox := rest } : Cell n α).work < c.work := by
  unfold Cell.work
  cases c.role <;>
    exact Prod.Lex.toLex_lt_toLex.mpr (.inr ⟨rfl, by simp [waiting]⟩)

theorem Cell.work_wake (c : Cell n α) :
    ({ c with role := c.role.mapSource Source.wake } : Cell n α).work ≤ c.work ∧
      ∀ source, c.role = .source source → source.resting = true →
        ({ c with role := c.role.mapSource Source.wake } : Cell n α).work < c.work := by
  unfold Cell.work
  cases role : c.role with
  | source s =>
    obtain ⟨least, less⟩ := s.work_wake
    refine ⟨?_, ?_⟩
    · rcases Nat.lt_or_eq_of_le least with below | same
      · exact (Prod.Lex.toLex_lt_toLex.mpr (.inl below)).le
      · exact (congrArg (fun work => toLex (work, c.outbox.length)) same).le
    · rintro source same resting
      cases same
      exact Prod.Lex.toLex_lt_toLex.mpr (.inl (less resting))
  | worker operator w => exact ⟨le_rfl, fun source same => nomatch same⟩

/-- Every move leaves less work. -/
theorem History.Moves.work_lt {rank : Fin n → Nat} {h next : History n α} (moves : h.Moves next)
    (upward : ∀ i, ∀ sending ∈ (h.network.cell i).outbox, rank i < rank sending.1) :
    Pi.Lex (Wiring.below rank) (fun {_} => (· < ·)) (fun i => (next.network.cell i).work)
      fun i => (h.network.cell i).work := by
  cases moves with
  | step i stepped =>
    rcases step?_cases stepped with
      ⟨j, message, rest, waiting, -, rfl⟩ | ⟨act, empty, acted, rfl⟩
    · have above : rank i < rank j := upward i (j, message) (by simp [waiting])
      have apart : j ≠ i := fun same => absurd (same ▸ above) (lt_irrefl _)
      refine ⟨i, fun k lower => ?_, ?_⟩
      · have untouched : i ≠ k ∧ j ≠ k := by
          rw [Wiring.below, Prod.Lex.toLex_lt_toLex] at lower
          refine ⟨?_, ?_⟩
          · rintro rfl
            simp at lower
          · rintro rfl
            omega
        simp only [cell_deliver, untouched.1, untouched.2, if_false, List.append_nil]
      · simp only [cell_deliver, apart, if_true, if_false, List.append_nil]
        exact Cell.work_deliver waiting
    · refine ⟨i, fun k lower => ?_, ?_⟩
      · have untouched : i ≠ k := by
          rintro rfl
          exact lt_irrefl _ lower
        simp only [cell_act, untouched, if_false]
      · simp only [cell_act, if_true]
        exact Cell.work_act _ acted
  | @wake i source role resting =>
    have := Wiring.below_total rank
    refine Pi.lex_lt_of_lt (Finite.wellFounded_of_trans_of_irrefl _) (Pi.lt_def.mpr ⟨?_, i, ?_⟩)
    · intro k
      simp only [Network.cell_mapSources]
      exact (Cell.work_wake _).1
    · simp only [Network.cell_mapSources]
      exact (Cell.work_wake _).2 source role resting

namespace Reached

variable {net : Network n α} {rank : Fin n → Nat} {h : History n α}

theorem moves {next : History n α} (reached : Reached net h) (moves : h.Moves next) :
    Reached net next := by
  cases moves with
  | step i stepped => exact reached.step i stepped
  | wake role resting => exact reached.wake

theorem run {final : History n α} (reached : Reached net h)
    (moves : Relation.ReflTransGen History.Moves h final) : Reached net final := by
  induction moves with
  | refl => exact reached
  | tail _ move ih => exact ih.moves move

/-- No run goes on forever. -/
theorem moves_wellFounded (drains : net.Drains rank) :
    WellFounded fun next h : { h : History n α // Reached net h } => h.1.Moves next.1 := by
  have := Wiring.below_total rank
  have lex : WellFounded (Pi.Lex (Wiring.below rank) fun {_ : Fin n} => ((· < ·) : ℕ ×ₗ ℕ → _)) :=
    Pi.Lex.wellFounded _ fun _ => wellFounded_lt
  refine Subrelation.wf ?_ (InvImage.wf
    (fun h : { h : History n α // Reached net h } => fun i => (h.1.network.cell i).work) lex)
  intro next h moves
  refine moves.work_lt fun i sending member => ?_
  have consistent := h.2.consistent drains.fresh
  have sent : sending.2 ∈ net.wiring.sent i sending.1 (h.1.emitted i) := by
    rw [← consistent.channel i sending.1]
    refine List.mem_append_right _ (List.mem_map.mpr ⟨sending, ?_, rfl⟩)
    exact List.mem_filter.mpr ⟨member, by simp⟩
  exact drains.ascending i _ (Wiring.of_mem_sent sent).1

/-- Where something can still happen, a move leads on. -/
theorem exists_moves_of_not_still (active : ¬h.Still) : ∃ next, h.Moves next := by
  by_contra idle
  refine active ⟨fun i => ?_, fun i source role => ?_⟩
  · rw [← History.isSome_step?, Option.isSome_eq_false_iff, Option.isNone_iff_eq_none]
    by_contra able
    obtain ⟨next, stepped⟩ := Option.ne_none_iff_exists'.mp able
    exact idle ⟨next, .step i stepped⟩
  · by_contra resting
    exact idle ⟨_, .wake role (by simpa using resting)⟩

/-- From wherever a run has got to, it comes to an end. -/
theorem exists_still (drains : net.Drains rank) (reached : Reached net h) :
    ∃ final, Relation.ReflTransGen History.Moves h final ∧ final.Still := by
  have ends : ∀ h : { h : History n α // Reached net h },
      ∃ final, Relation.ReflTransGen History.Moves h.1 final ∧ final.Still := by
    intro h
    induction h using (moves_wellFounded drains).induction with
    | _ h ih =>
      by_cases still : h.1.Still
      · exact ⟨h.1, .refl, still⟩
      · obtain ⟨next, moves⟩ := exists_moves_of_not_still still
        obtain ⟨final, run, still⟩ := ih ⟨next, h.2.moves moves⟩ moves
        exact ⟨final, .head moves run, still⟩
  exact ends ⟨h, reached⟩

end Reached

/-! ## Runs that nobody stops -/

/-- A source that was not asked to stop: it runs once it has started, and it has taken all of its
turns once it has finished. -/
def Role.Unstopped {α : Type} : Role α → Prop
  | .source s => (s.finished = false → s.running = s.started) ∧
      (s.finished = true → s.script.turns = [])
  | .worker _ _ => True

theorem Role.Unstopped.act {α : Type} {role : Role α} (unstopped : role.Unstopped)
    {inbox : List (Message α)} {act : Act α} (acted : role.act? inbox = some act) :
    act.role.Unstopped := by
  cases role with
  | source s =>
    obtain ⟨running, -⟩ := unstopped
    by_cases able : s.canStep = true
    · have unfinished : s.finished = false := by
        simp only [Source.canStep, Bool.and_eq_true, Bool.not_eq_true'] at able
        exact able.1
      have runs := running unfinished
      simp only [act?, able, if_true, Option.some.injEq] at acted
      subst acted
      unfold Source.step
      cases started : s.started with
      | false => exact ⟨fun _ => rfl, fun finished => absurd finished (by simp [unfinished])⟩
      | true =>
        rw [started] at runs
        rw [runs]
        cases turns : s.script.turns with
        | nil => exact ⟨fun finished => Bool.noConfusion finished, fun _ => turns⟩
        | cons turn rest =>
          exact ⟨fun _ => rfl, fun finished => absurd finished (by simp [unfinished])⟩
    · simp [act?, able] at acted
  | worker operator w =>
    cases finished : w.finished with
    | true => simp [act?, finished] at acted
    | false =>
      cases inbox with
      | nil => simp [act?, finished] at acted
      | cons message rest =>
        simp only [act?, finished, Option.some.injEq] at acted
        subst acted
        trivial

theorem History.Moves.unstopped {h next : History n α} (moves : h.Moves next)
    (all : ∀ i, (h.network.cell i).role.Unstopped) : ∀ i, (next.network.cell i).role.Unstopped := by
  intro k
  cases moves with
  | step i stepped =>
    rcases step?_cases stepped with
      ⟨j, message, rest, -, -, rfl⟩ | ⟨act, -, acted, rfl⟩
    · rw [cell_deliver]
      exact all k
    · rw [cell_act]
      split
      · exact (all i).act acted
      · exact all k
  | wake role resting =>
    have before := all k
    rw [Network.cell_mapSources]
    cases own : (h.network.cell k).role with
    | source s =>
      rw [own] at before
      exact before
    | worker operator w => trivial

theorem History.unstopped_run {h final : History n α}
    (run : Relation.ReflTransGen History.Moves h final)
    (all : ∀ i, (h.network.cell i).role.Unstopped) : ∀ i, (final.network.cell i).role.Unstopped := by
  induction run with
  | refl => exact all
  | tail _ move ih => exact move.unstopped ih

end FlightStream.Dataflow
