import FlightStream.Proofs.Windows.Reopening

/-!
What a failing result takes with it. Windows are closed oldest first, each is forgotten before its
accumulators are finished, and what was finished is returned at the end. So a failure loses the
results of its own window and of all the windows closed before it in the call, `close_failing`, and
nothing that comes later returns them, `returned_of_gone`. The windows after it stay as they are,
and the number of open windows is not published.
-/

namespace FlightStream

namespace WindowAggregator

variable {α κ σ ρ : Type} (agg : WindowAggregator Int Int α κ σ ρ)

/-- Whether some accumulator of the window with this start cannot be finished. -/
def Fails (o : OpenWindows Int κ σ) (start : Int) : Prop :=
  ∃ entry ∈ (o.accumulators? start).getD [], ¬agg.Finishes entry.2

variable {o : OpenWindows Int κ σ}

theorem finishes_of_not_fails {start : Int} (good : ¬agg.Fails o start) :
    ∀ entry ∈ (o.accumulators? start).getD [], agg.Finishes entry.2 := by
  intro entry member
  by_contra unfinished
  exact good ⟨entry, member, unfinished⟩

theorem finishWindow_failing {start : Int} (fails : agg.Fails o start) :
    ∃ fault, agg.finishWindow start ((o.accumulators? start).getD []) = .error fault := by
  obtain ⟨entry, member, unfinished⟩ := fails
  rcases agg.finishWindow_cases start ((o.accumulators? start).getD []) with failed | finishes
  · exact failed
  · exact absurd (finishes entry member) unfinished

/-- Forgetting one window changes no other. -/
theorem fails_discard_iff {start other : Int} (apart : other ≠ start) :
    agg.Fails (o.discard start) other ↔ agg.Fails o other := by
  unfold Fails
  rw [OpenWindows.accumulators?_discard, if_neg apart]

/-- Up to the first window that fails, windows are forgotten. -/
theorem closeEach_failing {done kept : List Int} {bad : Int}
    (nodup : (done ++ bad :: kept).Nodup) (good : ∀ start ∈ done, ¬agg.Fails o start)
    (fails : agg.Fails o bad) :
    ∃ fault, agg.closeEach o (done ++ bad :: kept) =
      ({ o with windows := o.without (done ++ [bad]) }, .error fault) := by
  induction done generalizing o with
  | nil =>
    obtain ⟨fault, failed⟩ := agg.finishWindow_failing fails
    have shape : o.discard bad = { o with windows := o.without [bad] } := by
      simp only [OpenWindows.discard, OpenWindows.without, List.contains_cons, List.contains_nil,
        Bool.or_false, bne]
    refine ⟨fault, ?_⟩
    rw [List.nil_append, List.nil_append, closeEach, failed, shape]
  | cons start done ih =>
    obtain ⟨fresh, others⟩ := List.nodup_cons.mp nodup
    have apart : ∀ other ∈ done ++ bad :: kept, other ≠ start := by
      rintro other member rfl
      exact fresh member
    obtain ⟨fault, failed⟩ := ih (o := o.discard start) others
      (fun other member => by
        rw [agg.fails_discard_iff (apart other (List.mem_append_left _ member))]
        exact good other (List.mem_cons_of_mem _ member))
      ((agg.fails_discard_iff (apart bad (by simp))).mpr fails)
    have shape :
        (o.discard start).without (done ++ [bad]) = o.without (start :: done ++ [bad]) := by
      simp only [OpenWindows.without, OpenWindows.discard, List.filter_filter, List.cons_append,
        List.contains_cons, bne, Bool.not_or, Bool.and_comm]
    refine ⟨fault, ?_⟩
    rw [List.cons_append, closeEach,
      agg.finishWindow_eq (agg.finishes_of_not_fails (good start List.mem_cons_self)), failed,
      shape]
    rfl

/-- If some window fails, there is a first that does. -/
theorem exists_first_failing {starts : List Int} (some : ∃ bad ∈ starts, agg.Fails o bad) :
    ∃ done bad kept, starts = done ++ bad :: kept ∧ (∀ start ∈ done, ¬agg.Fails o start) ∧
      agg.Fails o bad := by
  induction starts with
  | nil => obtain ⟨bad, member, -⟩ := some; cases member
  | cons first rest ih =>
    by_cases fails : agg.Fails o first
    · exact ⟨[], first, rest, rfl, (fun _ member => nomatch member), fails⟩
    · obtain ⟨bad, member, failsLater⟩ := some
      have later : bad ∈ rest := by
        rcases List.mem_cons.mp member with rfl | later
        · exact absurd failsLater fails
        · exact later
      obtain ⟨done, bad, kept, rfl, good, failsFirst⟩ := ih ⟨bad, later, failsLater⟩
      refine ⟨first :: done, bad, kept, rfl, fun start member => ?_, failsFirst⟩
      rcases List.mem_cons.mp member with rfl | member
      · exact fails
      · exact good start member

/-- Closing windows none of which fails. -/
theorem close_finishing {starts : List Int} (nodup : starts.Nodup)
    (good : ∀ start ∈ starts, ¬agg.Fails o start) :
    (agg.close o starts).2 = .ok
        (starts.flatMap fun start => agg.results start ((o.accumulators? start).getD [])) ∧
      (agg.close o starts).1.windows = o.without starts ∧
      (starts ≠ [] →
        (agg.close o starts).1.published = (agg.close o starts).1.windows.length) := by
  have finishes := fun start member => agg.finishes_of_not_fails (good start member)
  cases starts with
  | nil => exact ⟨rfl, by simp [close, OpenWindows.without], fun some => absurd rfl some⟩
  | cons start rest =>
    have closed := agg.closeEach_eq nodup finishes
    simp only [close, List.isEmpty_cons, Bool.false_eq_true, if_false, closed]
    exact ⟨trivial, trivial, fun _ => trivial⟩

/-- Closing windows some of which fail. -/
theorem close_failing {starts : List Int} (nodup : starts.Nodup)
    (some : ∃ bad ∈ starts, agg.Fails o bad) :
    ∃ done bad kept fault, starts = done ++ bad :: kept ∧ (∀ start ∈ done, ¬agg.Fails o start) ∧
      agg.Fails o bad ∧
      agg.close o starts = ({ o with windows := o.without (done ++ [bad]) }, .error fault) := by
  obtain ⟨done, bad, kept, rfl, good, fails⟩ := agg.exists_first_failing some
  obtain ⟨fault, failed⟩ := agg.closeEach_failing nodup good fails
  refine ⟨done, bad, kept, fault, rfl, good, fails, ?_⟩
  unfold close
  rw [failed, if_neg (by simp)]

/-- Of windows closed in ascending order, those after one that fails are held as before, and no
others. -/
theorem mem_close_iff {starts : List Int} (ascending : starts.Pairwise (· < ·))
    {held : Int × Keyed κ σ} :
    held ∈ (agg.close o starts).1.windows ↔ held ∈ o.windows ∧
      (held.1 ∈ starts → ∃ bad ∈ starts, bad < held.1 ∧ agg.Fails o bad) := by
  have nodup : starts.Nodup := ascending.imp fun below => below.ne
  by_cases some : ∃ bad ∈ starts, agg.Fails o bad
  · obtain ⟨done, bad, kept, fault, rfl, good, fails, closed⟩ := agg.close_failing nodup some
    obtain ⟨-, later, before⟩ := List.pairwise_append.mp ascending
    have after := (List.pairwise_cons.mp later).1
    rw [closed, OpenWindows.mem_without]
    refine and_congr_right fun _ => ⟨fun spared closing => ?_, fun shielded gone => ?_⟩
    · refine ⟨bad, by simp, after _ ?_, fails⟩
      simp only [List.mem_append, List.mem_cons, List.not_mem_nil, or_false] at spared closing
      tauto
    · obtain ⟨first, member, below, failsFirst⟩ := shielded (by
        simp only [List.mem_append, List.mem_cons, List.not_mem_nil, or_false] at gone ⊢
        tauto)
      rcases List.mem_append.mp member with early | late
      · exact good first early failsFirst
      · have upTo : held.1 ≤ bad := by
          rcases List.mem_append.mp gone with early | last
          · exact (before _ early bad List.mem_cons_self).le
          · exact (List.mem_singleton.mp last).le
        rcases List.mem_cons.mp late with rfl | late
        · omega
        · have := after first late
          omega
  · have good : ∀ start ∈ starts, ¬agg.Fails o start := by
      intro start member fails
      exact some ⟨start, member, fails⟩
    rw [(agg.close_finishing nodup good).2.1, OpenWindows.mem_without]
    refine and_congr_right fun _ => ⟨fun spared closing => absurd closing spared, ?_⟩
    intro shielded closing
    obtain ⟨bad, member, -, fails⟩ := shielded closing
    exact good bad member fails

/-! ## Calls that close windows -/

/-- A call that closes windows: those due under a watermark, or all. -/
inductive Closing
  | tryClose (watermark : Number)
  | flush

/-- The state after the call and its answer. -/
def Closing.run (s : State Int κ σ) :
    Closing → State Int κ σ × Except Fault (List (TimestampedEntry Int κ ρ))
  | tryClose watermark => s.tryClose agg watermark
  | flush => s.flush agg

/-- The windows that the call closes. -/
def Closing.due (s : State Int κ σ) : Closing → List Int
  | tryClose watermark =>
    s.opened.starts.filter
      (agg.isClosed (if s.watermark.lt watermark then watermark else s.watermark))
  | flush => s.opened.starts

theorem Closing.due_sublist (closing : Closing) (s : State Int κ σ) :
    (closing.due agg s).Sublist s.opened.starts := by
  cases closing with
  | tryClose watermark => exact List.filter_sublist
  | flush => exact .refl _

theorem Closing.opened_run (closing : Closing) (s : State Int κ σ) :
    (closing.run agg s).1.opened = (agg.close s.opened (closing.due agg s)).1 := by
  cases closing <;> rfl

theorem Closing.answer_run (closing : Closing) (s : State Int κ σ) :
    (closing.run agg s).2 = (agg.close s.opened (closing.due agg s)).2 := by
  cases closing <;> rfl

end WindowAggregator

open WindowAggregator

variable {α κ σ ρ : Type}

/-- A call on an aggregator, or a flush. -/
inductive Lasting.Turn (α κ σ ρ : Type)
  | call (call : Call α κ σ ρ)
  | flush (functions : Functions α κ σ ρ)

/-- The call that closes windows as a turn. -/
def WindowAggregator.Closing.turn (functions : Functions α κ σ ρ) :
    Closing → Lasting.Turn α κ σ ρ
  | tryClose watermark => .call (.tryClose functions watermark)
  | flush => .flush functions

variable [BEq κ]

/-- A ledger is sealed without the entries returned so far. -/
theorem Sealed.forget {w : Lasting} {ledger : Ledger κ σ ρ} (sealed : Sealed w ledger) :
    Sealed w (⟨ledger.state, []⟩ : Ledger κ σ ρ) where
  ranked := sealed.ranked
  ascending := sealed.ascending
  distinct := sealed.distinct
  due _ member := nomatch member
  behind _ member := nomatch member
  ordered := .nil

namespace Lasting

variable (w : Lasting)

/-- What a turn leaves, and the entries that it returns. -/
def turn (s : State Int κ σ) : Turn α κ σ ρ → Ledger κ σ ρ
  | .call call => w.call ⟨s, []⟩ call
  | .flush functions => w.flush ⟨s, []⟩ (some functions)

/-- The state after turns. -/
def after (s : State Int κ σ) (turns : List (Turn α κ σ ρ)) : State Int κ σ :=
  turns.foldl (fun s turn => (w.turn s turn).state) s

/-- The entries that turns return, one after the other. -/
def returned (s : State Int κ σ) : List (Turn α κ σ ρ) → List (TimestampedEntry Int κ ρ)
  | [] => []
  | turn :: rest => (w.turn s turn).entries ++ returned (w.turn s turn).state rest

variable {w} {s : State Int κ σ}

theorem sealed_turn (sealed : Sealed w (⟨s, []⟩ : Ledger κ σ ρ)) (turn : Turn α κ σ ρ) :
    Sealed w (⟨(w.turn s turn).state, []⟩ : Ledger κ σ ρ) := by
  cases turn with
  | call call => exact (sealed.step call).forget
  | flush functions =>
    exact sealed.of_sublist (Number.le_refl sealed.ranked)
      ((w.aggregator functions).close_sublist _)

theorem sealed_after (w : Lasting) (turns : List (Turn α κ σ ρ)) :
    Sealed w (⟨w.after .fresh turns, []⟩ : Ledger κ σ ρ) := by
  induction turns using List.reverseRecOn with
  | nil => exact .fresh w
  | append_singleton turns turn ih =>
    unfold after
    rw [List.foldl_concat]
    exact sealed_turn ih turn

/-! ## What is gone -/

/-- A closed window that is not held any more. -/
structure Gone (w : Lasting) (s : State Int κ σ) (start : Int) : Prop where
  closed : w.isClosed s.watermark start = true
  absent : start ∉ s.opened.starts

/-- Closing windows that are held returns nothing of one that is gone. -/
theorem timestamp_ne_of_gone {start : Int} (gone : Gone w s start)
    (sealed : Sealed w (⟨s, []⟩ : Ledger κ σ ρ)) (functions : Functions α κ σ ρ)
    {starts : List Int} (some : starts.Sublist s.opened.starts) :
    ∀ entry ∈ ((w.aggregator functions).close s.opened starts).2.toOption.getD [],
      entry.timestamp ≠ w.window.endOf start := by
  intro entry member same
  have nodup : s.opened.starts.Nodup :=
    (List.pairwise_map.mpr sealed.ascending).imp fun below => below.ne
  rcases (w.aggregator functions).close_cases (o := s.opened) (nodup.sublist some) with
    ⟨after, fault, failed, -⟩ | ⟨after, closed, -⟩
  · rw [failed] at member
    cases member
  · rw [closed] at member
    obtain ⟨other, chosen, made⟩ := List.mem_flatMap.mp member
    have stamped := (w.aggregator functions).timestamp_of_mem_results made
    have here : other = start := by
      change _ = other + w.window.size at stamped
      unfold SlidingWindow.endOf at same
      omega
    exact gone.absent (some.subset (here ▸ chosen))

/-- What is gone stays gone, and no turn returns it. -/
theorem Gone.turn {start : Int} (gone : Gone w s start)
    (sealed : Sealed w (⟨s, []⟩ : Ledger κ σ ρ)) (turn : Turn α κ σ ρ) :
    Gone w (w.turn s turn).state start ∧
      ∀ entry ∈ (w.turn s turn).entries, entry.timestamp ≠ w.window.endOf start := by
  have absent_of_sublist : ∀ {windows : List (Int × Keyed κ σ)},
      windows.Sublist s.opened.windows → start ∉ windows.map (·.1) :=
    fun less held => gone.absent ((less.map _).subset held)
  cases turn with
  | call call =>
    show Gone w (w.call ⟨s, []⟩ call).state start ∧
      ∀ entry ∈ (w.call ⟨s, []⟩ call).entries, entry.timestamp ≠ w.window.endOf start
    rcases sealed.call_cases call with
      ⟨opened, spares, called⟩ | ⟨functions, watermark, above, called⟩
    · rw [called]
      refine ⟨⟨gone.closed, fun held => ?_⟩, fun _ member => nomatch member⟩
      obtain ⟨window, member, rfl⟩ := List.mem_map.mp held
      exact gone.absent (List.mem_map_of_mem (spares.closed window member gone.closed))
    · rw [called]
      exact ⟨⟨Number.le_trans gone.closed above,
          absent_of_sublist ((w.aggregator functions).close_sublist _)⟩,
        timestamp_ne_of_gone gone sealed functions List.filter_sublist⟩
  | flush functions =>
    exact ⟨⟨gone.closed, absent_of_sublist ((w.aggregator functions).close_sublist _)⟩,
      timestamp_ne_of_gone gone sealed functions (List.Sublist.refl _)⟩

theorem returned_of_gone {start : Int} (gone : Gone w s start)
    (sealed : Sealed w (⟨s, []⟩ : Ledger κ σ ρ)) (turns : List (Turn α κ σ ρ)) :
    ∀ entry ∈ w.returned s turns, entry.timestamp ≠ w.window.endOf start := by
  induction turns generalizing s with
  | nil => exact fun _ member => nomatch member
  | cons turn rest ih =>
    obtain ⟨still, apart⟩ := gone.turn sealed turn
    intro entry member
    rcases List.mem_append.mp member with now | later
    · exact apart entry now
    · exact ih still (sealed_turn sealed turn) entry later

/-! ## Results and failures of one call -/

/-- What a failing result takes with it. A call closes windows in the state that any turns led to.
If none of the windows that it closes fails, it returns all their results, and publishes how many
windows are left. If one fails, it returns nothing, and leaves the number that was published. Either
way it forgets of the windows that it closes those before which none fails; so a window that does
not fail is lost if the first that fails comes after it, and then, if it is closed under the
watermark, no later turn returns anything of it. -/
theorem closing_with_failures (w : Lasting) (turns : List (Turn α κ σ ρ))
    (functions : Functions α κ σ ρ) (closing : Closing) :
    let agg := w.aggregator functions
    let s : State Int κ σ := w.after .fresh turns
    let due := closing.due agg s
    let left := (closing.run agg s).1
    let answer := (closing.run agg s).2
    ((∀ start ∈ due, ¬agg.Fails s.opened start) →
        answer = .ok
          (due.flatMap fun start => agg.results start ((s.opened.accumulators? start).getD [])) ∧
        (due ≠ [] → left.opened.published = left.opened.windows.length)) ∧
      ((∃ bad ∈ due, agg.Fails s.opened bad) →
        (∃ fault, answer = .error fault) ∧ left.opened.published = s.opened.published) ∧
      (∀ held, held ∈ left.opened.windows ↔ held ∈ s.opened.windows ∧
        (held.1 ∈ due → ∃ bad ∈ due, bad < held.1 ∧ agg.Fails s.opened bad)) ∧
      ∀ start ∈ due, (∀ bad ∈ due, bad < start → ¬agg.Fails s.opened bad) →
        w.isClosed left.watermark start = true → ∀ later : List (Turn α κ σ ρ),
          ∀ entry ∈ w.returned left later, entry.timestamp ≠ w.window.endOf start := by
  intro agg s due left answer
  have sealed : Sealed w (⟨s, []⟩ : Ledger κ σ ρ) := w.sealed_after turns
  have ascending : due.Pairwise (· < ·) :=
    (List.pairwise_map.mpr sealed.ascending).sublist (closing.due_sublist agg s)
  have nodup : due.Nodup := ascending.imp fun below => below.ne
  have opened : left.opened = (agg.close s.opened due).1 := closing.opened_run agg s
  have answered : answer = (agg.close s.opened due).2 := closing.answer_run agg s
  have held : ∀ held, held ∈ left.opened.windows ↔ held ∈ s.opened.windows ∧
      (held.1 ∈ due → ∃ bad ∈ due, bad < held.1 ∧ agg.Fails s.opened bad) := by
    intro held
    rw [opened]
    exact agg.mem_close_iff ascending
  refine ⟨fun good => ?_, fun some => ?_, held, ?_⟩
  · obtain ⟨results, -, published⟩ := agg.close_finishing nodup good
    rw [answered, opened]
    exact ⟨results, published⟩
  · obtain ⟨done, bad, kept, fault, -, -, -, closed⟩ := agg.close_failing nodup some
    rw [answered, opened, closed]
    exact ⟨⟨fault, rfl⟩, rfl⟩
  · intro start closing' shielded closed later
    have turned : left = (w.turn s (closing.turn functions)).state := by cases closing <;> rfl
    have still : Sealed w (⟨left, []⟩ : Ledger κ σ ρ) := turned ▸ sealed_turn sealed _
    refine returned_of_gone ⟨closed, fun present => ?_⟩ still later
    obtain ⟨window, member, rfl⟩ := List.mem_map.mp present
    obtain ⟨bad, among, below, fails⟩ := ((held window).mp member).2 closing'
    exact shielded bad among below fails

/-- What one may ask of a call that closes windows: that every result which can be had is returned
by it or by a later turn, and that it publishes how many windows are left. -/
def LosesOnlyFailures (w : Lasting) (functions : Functions α κ σ ρ) (s : State Int κ σ)
    (closing : Closing) : Prop :=
  let agg := w.aggregator functions
  let left := (closing.run agg s).1
  (∀ start ∈ closing.due agg s, ∀ entry ∈ (s.opened.accumulators? start).getD [], ∀ value,
      agg.aggregation.finish entry.2 = .ok value →
        (⟨w.window.endOf start, entry.1, value⟩ : TimestampedEntry Int κ ρ) ∈
          (closing.run agg s).2.toOption.getD [] ∨
        ∃ later : List (Turn α κ σ ρ),
          ⟨w.window.endOf start, entry.1, value⟩ ∈ w.returned left later) ∧
    left.opened.published = left.opened.windows.length

/-- Slopes over samples of a time, a place and an altitude. -/
def climbing : Functions (Int × String × Int) String LinearTrend Float :=
  ⟨fun sample => .ok sample.1, fun sample => .ok sample.2.1,
    .linearTrend fun sample => .ok (.int sample.1, .int sample.2.2),
    fun place => .ok (Text.quoted place)⟩

/-- A climb in the first window, and in the second a fall that is too steep for a float. -/
def steep : List (Turn (Int × String × Int) String LinearTrend Float) :=
  [(0, "Paris", 1), (1, "Paris", 3), (12, "London", 10 ^ 309), (13, "London", 0)].map
    fun sample => .call (.accumulate climbing sample)

/-- The climb is lost with the fall, and two windows stay published where none is left. -/
theorem steep_takes_climb :
    let s := twelves.after .fresh steep
    let left := ((Closing.tryClose 24).run (twelves.aggregator climbing) s).1
    ¬LosesOnlyFailures twelves climbing s (.tryClose 24) ∧
      left.opened.published = 2 ∧ left.opened.windows.length = 0 := by
  refine ⟨fun ⟨spared, _⟩ => ?_, by decide +kernel, by decide +kernel⟩
  obtain ⟨entry, member, finished⟩ :
      ∃ entry ∈ ((twelves.after .fresh steep).opened.accumulators? 0).getD [],
        (climbing.aggregation.finish entry.2).toOption = some 2 := by decide +kernel
  obtain ⟨value, climb⟩ : ∃ value, climbing.aggregation.finish entry.2 = .ok value := by
    rcases result : climbing.aggregation.finish entry.2 with fault | value
    · rw [result] at finished
      cases finished
    · exact ⟨value, rfl⟩
  rcases spared 0 (by decide +kernel) entry member value climb with now | ⟨later, after⟩
  · have failed : ((Closing.tryClose 24).run (twelves.aggregator climbing)
        (twelves.after .fresh steep)).2.toOption = none := by decide +kernel
    rw [failed] at now
    cases now
  · have sealed := sealed_turn (twelves.sealed_after steep) (.call (.tryClose climbing 24))
    have gone : Gone twelves ((Closing.tryClose 24).run (twelves.aggregator climbing)
        (twelves.after .fresh steep)).1 0 := ⟨by decide +kernel, by decide +kernel⟩
    exact returned_of_gone gone sealed later _ after rfl

end Lasting

end FlightStream
