import FlightStream.Proofs.Windows.Batch
import FlightStream.Proofs.Windows.Failing

/-!
Closing windows in steps. A watermark closes an initial segment of the open windows, so a greater
one that follows closes the rest of a longer segment: what the two return, one after the other, is
what the greater one returns alone, and what they leave is the same, `closeWhere_closeWhere`. By
induction on the watermarks this holds of any number of them, in any order, and of a flush, which
closes every window.

A watermark that is not above the present one closes nothing, as no window that is closed under the
present one is held, `Settled`. Folding keeps that, and so does every closing that goes through; one
that fails may leave closed windows behind.
-/

namespace FlightStream

namespace OpenWindows

variable {κ σ : Type}

/-- What is left when some windows are closed. If there are any, the number that is left is
published. -/
def afterClosing (o : OpenWindows Int κ σ) (starts : List Int) : OpenWindows Int κ σ :=
  if starts.isEmpty then o
  else { o with windows := o.without starts, published := (o.without starts).length }

theorem windows_afterClosing (o : OpenWindows Int κ σ) (starts : List Int) :
    (o.afterClosing starts).windows = o.without starts := by
  unfold afterClosing
  cases starts with
  | nil => simp [without]
  | cons => rfl

/-- Closing some windows and then others leaves what closing all of them leaves. -/
theorem afterClosing_append (o : OpenWindows Int κ σ) (first second : List Int) :
    (o.afterClosing first).afterClosing second = o.afterClosing (first ++ second) := by
  have left : (o.afterClosing first).without second = o.without (first ++ second) := by
    rw [without, windows_afterClosing]
    simp only [without, List.filter_filter, List.contains_append, Bool.not_or, Bool.and_comm]
  cases second with
  | nil => simp [afterClosing]
  | cons start rest =>
    rw [afterClosing, left]
    cases first <;> simp [afterClosing]

/-- The windows that are left when those of some starts are closed. -/
theorem starts_afterClosing_filter (o : OpenWindows Int κ σ) (early : Int → Bool) :
    (o.afterClosing (o.starts.filter early)).starts =
      o.starts.filter fun start => !early start := by
  have same : ∀ held ∈ o.windows,
      (!(o.starts.filter early).contains held.1) = !early held.1 := by
    intro held member
    have present : held.1 ∈ o.starts := List.mem_map_of_mem member
    rw [Bool.eq_iff_iff]
    simp [present]
  unfold starts at same ⊢
  rw [windows_afterClosing, without, List.filter_congr same, List.filter_map]
  rfl

end OpenWindows

/-- The numbers of an initial segment come first among those of a wider choice. -/
theorem filter_eq_append_of_initial {early wide : Int → Bool}
    (initial : ∀ one other, one ≤ other → early other = true → early one = true)
    (wider : ∀ start, early start = true → wide start = true) {starts : List Int}
    (ascending : starts.Pairwise (· < ·)) :
    starts.filter wide =
      starts.filter early ++ (starts.filter fun start => !early start).filter wide := by
  induction starts with
  | nil => rfl
  | cons first rest ih =>
    obtain ⟨after, others⟩ := List.pairwise_cons.mp ascending
    cases chosen : early first with
    | true => simp [chosen, wider first chosen, ih others]
    | false =>
      have late : ∀ start ∈ rest, early start = false := by
        intro start member
        rw [← Bool.not_eq_true]
        intro also
        rw [initial first start (after start member).le also] at chosen
        cases chosen
      have none : rest.filter early = [] := by simpa using late
      have all : rest.filter (fun start => !early start) = rest := by simpa using late
      simp [chosen, none, all, List.filter_cons]

/-- The latest of a number and the watermarks offered is the later of it and the greatest. -/
theorem Offer.foldl_later {α : Type} {known : Number} (ranked : known.Ranked)
    (watermarks : List Number) :
    watermarks.foldl .later known =
      known.later (greatest (watermarks.map (.watermark : Number → Offer α))) := by
  induction watermarks using List.reverseRecOn with
  | nil => exact (if_neg (by simp [greatest, Number.lt_negInfinity])).symm
  | append_singleton before last ih =>
    rw [List.foldl_concat, ih, List.map_append, Number.later_later ranked (ranked_greatest _)]
    exact congrArg _ (greatest_concat _ (.watermark last)).symm

namespace WindowAggregator

variable {α κ σ ρ : Type} (agg : WindowAggregator Int Int α κ σ ρ)

/-- Whether every accumulator that is held can be finished. -/
def Finishing (o : OpenWindows Int κ σ) : Prop :=
  ∀ held ∈ o.windows, ∀ entry ∈ held.2, agg.Finishes entry.2

variable {agg} {o : OpenWindows Int κ σ}

theorem Finishing.not_fails (finishing : agg.Finishing o) (start : Int) : ¬agg.Fails o start := by
  rintro ⟨entry, member, unfinished⟩
  unfold OpenWindows.accumulators? at member
  cases found : o.windows.find? fun held => held.1 == start with
  | none =>
    rw [found] at member
    cases member
  | some held =>
    rw [found] at member
    exact unfinished (finishing held (List.mem_of_find?_eq_some found) entry member)

theorem Finishing.of_sublist (finishing : agg.Finishing o) {after : OpenWindows Int κ σ}
    (less : after.windows.Sublist o.windows) : agg.Finishing after :=
  fun held member => finishing held (less.subset member)

variable (agg)

/-- Closing windows whose accumulators can all be finished. -/
theorem close_of_finishing (finishing : agg.Finishing o) {starts : List Int}
    (nodup : starts.Nodup) :
    agg.close o starts = (o.afterClosing starts, .ok
      (starts.flatMap fun start => agg.results start ((o.accumulators? start).getD []))) := by
  have closed := agg.closeEach_eq nodup fun start _ =>
    agg.finishes_of_not_fails (finishing.not_fails start)
  unfold close OpenWindows.afterClosing
  cases starts with
  | nil => rfl
  | cons start rest => simp only [List.isEmpty_cons, Bool.false_eq_true, if_false, closed]

/-- Closes every open window that is chosen, oldest first. -/
def closeWhere (o : OpenWindows Int κ σ) (chosen : Int → Bool) :
    OpenWindows Int κ σ × Except Fault (List (TimestampedEntry Int κ ρ)) :=
  agg.close o (o.starts.filter chosen)

theorem flush_eq_closeWhere : agg.flush o = agg.closeWhere o fun _ => true := by
  unfold flush closeWhere
  rw [List.filter_true]

/-- Closing an initial segment of the open windows and then a wider choice is closing the wider
choice at once. -/
theorem closeWhere_closeWhere (ascending : o.starts.Pairwise (· < ·))
    (finishing : agg.Finishing o) {early wide : Int → Bool}
    (initial : ∀ one other, one ≤ other → early other = true → early one = true)
    (wider : ∀ start, early start = true → wide start = true) :
    ∃ after entries last others,
      agg.closeWhere o early = (after, .ok entries) ∧
      after.windows.Sublist o.windows ∧
      agg.closeWhere after wide = (last, .ok others) ∧
      agg.closeWhere o wide = (last, .ok (entries ++ others)) := by
  have nodup : ∀ chosen : Int → Bool, (o.starts.filter chosen).Nodup := fun chosen =>
    (ascending.filter chosen).imp fun below => below.ne
  set after := o.afterClosing (o.starts.filter early)
  have less : after.windows.Sublist o.windows := by
    rw [OpenWindows.windows_afterClosing]
    exact List.filter_sublist
  have left : after.starts = o.starts.filter fun start => !early start :=
    o.starts_afterClosing_filter early
  have late : (after.starts.filter wide).Nodup := by
    rw [left]
    exact (nodup _).filter _
  -- What is closed later is held as before.
  have kept : ∀ start ∈ after.starts.filter wide,
      after.accumulators? start = o.accumulators? start := by
    intro start member
    rw [left, List.mem_filter, List.mem_filter] at member
    rw [OpenWindows.accumulators?_of_without (o.windows_afterClosing _), if_neg]
    simp_all
  refine ⟨after, _, _, _, agg.close_of_finishing finishing (nodup early), less,
    agg.close_of_finishing (finishing.of_sublist less) late, ?_⟩
  rw [closeWhere, agg.close_of_finishing finishing (nodup wide), OpenWindows.afterClosing_append,
    left, ← filter_eq_append_of_initial initial wider ascending]
  congr 2
  conv_lhs => rw [filter_eq_append_of_initial initial wider ascending, List.flatMap_append]
  rw [← left]
  congr 1
  exact List.flatMap_congr fun start member => by rw [kept start member]

variable {agg} in
/-- Closing that returns leaves the other windows. -/
theorem mem_close_of_returned {starts : List Int} (nodup : starts.Nodup)
    {entries : List (TimestampedEntry Int κ ρ)} (returned : (agg.close o starts).2 = .ok entries)
    {held : Int × Keyed κ σ} (member : held ∈ (agg.close o starts).1.windows) :
    held ∈ o.windows ∧ held.1 ∉ starts := by
  rcases agg.close_cases (o := o) nodup with ⟨after, fault, failed, -⟩ | ⟨after, closed, left⟩
  · rw [failed] at returned
    cases returned
  · rw [closed, left] at member
    exact OpenWindows.mem_without.mp member

/-! ## Watermarks one after the other -/

/-- Announces watermarks one after the other, with no item in between. Answers with all that the
calls return, in order; the first call that fails is the last. -/
def State.tryCloseAll (s : State Int κ σ) :
    List Number → State Int κ σ × Except Fault (List (TimestampedEntry Int κ ρ))
  | [] => (s, .ok [])
  | watermark :: rest =>
    match s.tryClose agg watermark with
    | (s, .error fault) => (s, .error fault)
    | (s, .ok entries) =>
      let (s, others) := tryCloseAll s rest
      (s, others.map (entries ++ ·))

variable {agg} in
theorem State.tryCloseAll_cons {s after : State Int κ σ} {watermark : Number}
    {entries : List (TimestampedEntry Int κ ρ)}
    (closed : s.tryClose agg watermark = (after, .ok entries)) (rest : List Number) :
    s.tryCloseAll agg (watermark :: rest) =
      ((after.tryCloseAll agg rest).1, (after.tryCloseAll agg rest).2.map (entries ++ ·)) := by
  rw [tryCloseAll, closed]

/-- Closes what is due under a watermark, which is the present one from then on. -/
def State.closeUnder (s : State Int κ σ) (watermark : Number) :
    State Int κ σ × Except Fault (List (TimestampedEntry Int κ ρ)) :=
  (⟨watermark, (agg.closeDue watermark s.opened).1⟩, (agg.closeDue watermark s.opened).2)

theorem State.tryClose_eq_closeUnder (s : State Int κ σ) (watermark : Number) :
    s.tryClose agg watermark = s.closeUnder agg (.later s.watermark watermark) := rfl

variable {agg} in
theorem State.closeUnder_of_closeDue {s : State Int κ σ} {watermark : Number}
    {opened : OpenWindows Int κ σ} {answer : Except Fault (List (TimestampedEntry Int κ ρ))}
    (closed : agg.closeDue watermark s.opened = (opened, answer)) :
    s.closeUnder agg watermark = (⟨watermark, opened⟩, answer) := by
  rw [closeUnder, closed]

end WindowAggregator

open WindowAggregator

namespace Lasting

variable {α κ σ ρ : Type} {w : Lasting} {functions : Functions α κ σ ρ} {s : State Int κ σ}

/-- Whatever is closed under one watermark is closed under a greater one, and the windows that are
closed are those up to some start. -/
theorem isClosed_mono {one other : Number} (below : one.le other = true) {early late : Int}
    (order : early ≤ late) (closed : w.isClosed one late = true) :
    w.isClosed other early = true := by
  refine Number.le_trans (Number.le_trans (Number.le_int_iff.mpr ?_) closed) below
  unfold SlidingWindow.endOf
  omega

/-- A watermark and then a greater one close what the greater one closes at once. -/
theorem closeUnder_closeUnder (ascending : s.opened.starts.Pairwise (· < ·))
    (finishing : (w.aggregator functions).Finishing s.opened) {one other : Number}
    (below : one.le other = true) :
    ∃ after entries last others,
      s.closeUnder (w.aggregator functions) one = (after, .ok entries) ∧
      after.watermark = one ∧ after.opened.windows.Sublist s.opened.windows ∧
      after.closeUnder (w.aggregator functions) other = (last, .ok others) ∧
      s.closeUnder (w.aggregator functions) other = (last, .ok (entries ++ others)) := by
  obtain ⟨after, entries, last, others, first, less, second, both⟩ :=
    (w.aggregator functions).closeWhere_closeWhere ascending finishing
      (fun _ _ order => isClosed_mono (Number.le_refl (Number.ranked_of_le below).1) order)
      (fun _ => isClosed_mono (w := w) below le_rfl)
  exact ⟨⟨one, after⟩, entries, ⟨other, last⟩, others, State.closeUnder_of_closeDue first, rfl,
    less, State.closeUnder_of_closeDue second, State.closeUnder_of_closeDue both⟩

/-- Watermarks one after the other close what the greatest of them closes at once. -/
theorem tryCloseAll_eq (ranked : s.watermark.Ranked) (ascending : s.opened.starts.Pairwise (· < ·))
    (finishing : (w.aggregator functions).Finishing s.opened) (first : Number)
    (rest : List Number) :
    ∃ after entries,
      s.tryCloseAll (w.aggregator functions) (first :: rest) = (after, .ok entries) ∧
      s.closeUnder (w.aggregator functions) ((first :: rest).foldl .later s.watermark) =
        (after, .ok entries) := by
  induction rest generalizing s first with
  | nil =>
    obtain ⟨after, entries, -, -, closed, -⟩ :=
      closeUnder_closeUnder ascending finishing (Number.le_refl (Number.ranked_later ranked first))
    refine ⟨after, entries, ?_, closed⟩
    rw [State.tryCloseAll_cons closed]
    simp [State.tryCloseAll, Except.map]
  | cons second rest ih =>
    have next := Number.ranked_later ranked first
    obtain ⟨after, entries, last, others, closed, same, less, onward, both⟩ :=
      closeUnder_closeUnder ascending finishing (Number.le_foldl_later next (second :: rest))
    obtain ⟨_, _, all, once⟩ :=
      ih (same ▸ next) (ascending.sublist (less.map _)) (finishing.of_sublist less) second
    rw [same] at once
    cases once.symm.trans onward
    refine ⟨last, entries ++ others, ?_, both⟩
    rw [State.tryCloseAll_cons closed, all]
    rfl

/-- A watermark and then a flush close what the flush closes at once. -/
theorem closeUnder_flush (ascending : s.opened.starts.Pairwise (· < ·))
    (finishing : (w.aggregator functions).Finishing s.opened) {watermark : Number}
    (ranked : watermark.Ranked) :
    ∃ after entries others,
      s.closeUnder (w.aggregator functions) watermark = (after, .ok entries) ∧
      (after.flush (w.aggregator functions)).2 = .ok others ∧
      (s.flush (w.aggregator functions)).2 = .ok (entries ++ others) ∧
      (s.flush (w.aggregator functions)).1.opened =
        (after.flush (w.aggregator functions)).1.opened := by
  obtain ⟨after, entries, last, others, first, -, second, both⟩ :=
    (w.aggregator functions).closeWhere_closeWhere ascending finishing
      (fun _ _ order => isClosed_mono (w := w) (Number.le_refl ranked) order) (fun _ _ => rfl)
  rw [← flush_eq_closeWhere] at second both
  refine ⟨⟨watermark, after⟩, entries, others, State.closeUnder_of_closeDue first, ?_, ?_, ?_⟩
  · exact congrArg Prod.snd second
  · exact congrArg Prod.snd both
  · exact (congrArg Prod.fst both).trans (congrArg Prod.fst second).symm

/-! ## Windows that are held after they closed -/

/-- No window that is held is closed. -/
def Settled (w : Lasting) (s : State Int κ σ) : Prop :=
  ∀ held ∈ s.opened.windows, w.isClosed s.watermark held.1 = false

/-- A watermark that is not above the present one closes what is held although it is closed, and
that is nothing. -/
theorem Settled.tryClose (settled : Settled w s) (functions : Functions α κ σ ρ)
    {watermark : Number} (notAbove : s.watermark.lt watermark = false) :
    s.tryClose (w.aggregator functions) watermark = (s, .ok []) := by
  have due : s.opened.starts.filter ((w.aggregator functions).isClosed s.watermark) = [] := by
    rw [List.filter_eq_nil_iff]
    intro start member
    obtain ⟨held, present, rfl⟩ := List.mem_map.mp member
    exact Bool.not_eq_true _ |>.mpr (settled held present)
  have closed : (w.aggregator functions).closeDue s.watermark s.opened = (s.opened, .ok []) := by
    rw [closeDue, due]
    rfl
  rw [State.tryClose_eq_closeUnder, Number.later, notAbove, if_neg Bool.false_ne_true]
  exact State.closeUnder_of_closeDue closed

variable [BEq κ]

/-- Whether a turn that closes windows returns. One that takes an item may fail. -/
def Turn.Returns (w : Lasting) (s : State Int κ σ) : Turn α κ σ ρ → Prop
  | .call (.tryClose functions watermark) =>
    ∃ entries, (s.tryClose (w.aggregator functions) watermark).2 = .ok entries
  | .flush functions => ∃ entries, (s.flush (w.aggregator functions)).2 = .ok entries
  | .call _ => True

/-- Whether no turn failed to finish the windows that it closed. -/
def Unfailing (w : Lasting) (s : State Int κ σ) : List (Turn α κ σ ρ) → Prop
  | [] => True
  | turn :: rest => turn.Returns w s ∧ Unfailing w (w.turn s turn).state rest

omit [BEq κ] in
/-- Under the same watermark nothing is closed that was not closed before. -/
theorem Settled.of_later (settled : Settled w s) {after : Ledger κ σ ρ}
    (later : Later w (⟨s, []⟩ : Ledger κ σ ρ) after) (same : after.state.watermark = s.watermark) :
    Settled w after.state := by
  intro held member
  rw [← Bool.not_eq_true, same]
  intro closed
  have before := settled held (later.closed held member closed)
  rw [closed] at before
  cases before

/-- Every turn that does not fail to close windows leaves no closed window behind. -/
theorem Settled.turn (settled : Settled w s) (sealed : Sealed w (⟨s, []⟩ : Ledger κ σ ρ))
    {turn : Turn α κ σ ρ} (returns : turn.Returns w s) : Settled w (w.turn s turn).state := by
  have nodup : s.opened.starts.Nodup :=
    (List.pairwise_map.mpr sealed.ascending).imp fun below => below.ne
  cases turn with
  | call call =>
    have later := later_call sealed call
    cases call with
    | accumulate functions item => exact settled.of_later later rfl
    | fold functions start key item => exact settled.of_later later rfl
    | refuse functions start fault =>
      refine settled.of_later later ?_
      show (s.refuse (w.aggregator functions) start fault).1.watermark = s.watermark
      unfold State.refuse
      split <;> rfl
    | tryClose functions watermark =>
      obtain ⟨entries, returned⟩ := returns
      intro held member
      obtain ⟨present, spared⟩ := mem_close_of_returned (nodup.filter _) returned member
      rw [← Bool.not_eq_true]
      exact fun closed => spared (List.mem_filter.mpr ⟨List.mem_map_of_mem present, closed⟩)
  | flush functions =>
    obtain ⟨entries, returned⟩ := returns
    intro held member
    obtain ⟨present, spared⟩ := mem_close_of_returned nodup returned member
    exact absurd (List.mem_map_of_mem present) spared

theorem settled_after {turns : List (Turn α κ σ ρ)} (unfailing : w.Unfailing s turns)
    (sealed : Sealed w (⟨s, []⟩ : Ledger κ σ ρ)) (settled : Settled w s) :
    Settled w (w.after s turns) := by
  induction turns generalizing s with
  | nil => exact settled
  | cons turn rest ih =>
    obtain ⟨returns, others⟩ := unfailing
    exact ih others (sealed_turn sealed turn) (settled.turn sealed returns)

/-! ## Functions that never fail to finish -/

/-- Whether the functions finish every accumulator. -/
def FinishesAll (functions : Functions α κ σ ρ) : Prop :=
  ∀ acc, ∃ value, functions.aggregation.finish acc = .ok value

/-- Whether a turn that closes windows has functions which finish every accumulator. -/
def Turn.FinishesAll : Turn α κ σ ρ → Prop
  | .call (.tryClose functions _) => Lasting.FinishesAll functions
  | .flush functions => Lasting.FinishesAll functions
  | .call _ => True

omit [BEq κ] in
theorem FinishesAll.finishing (all : FinishesAll functions) (o : OpenWindows Int κ σ) :
    (w.aggregator functions).Finishing o :=
  fun _ _ entry _ => all entry.2

theorem Turn.FinishesAll.returns {turn : Turn α κ σ ρ} (all : turn.FinishesAll)
    (sealed : Sealed w (⟨s, []⟩ : Ledger κ σ ρ)) : turn.Returns w s := by
  have nodup : s.opened.starts.Nodup :=
    (List.pairwise_map.mpr sealed.ascending).imp fun below => below.ne
  have closes : ∀ {functions : Functions α κ σ ρ} {starts : List Int},
      Lasting.FinishesAll functions → starts.Nodup →
        ∃ entries, ((w.aggregator functions).close s.opened starts).2 = .ok entries :=
    fun all nodup => ⟨_, congrArg Prod.snd (close_of_finishing _ (all.finishing s.opened) nodup)⟩
  cases turn with
  | call call =>
    cases call with
    | tryClose functions watermark => exact closes all (nodup.filter _)
    | accumulate functions item => trivial
    | fold functions start key item => trivial
    | refuse functions start fault => trivial
  | flush functions => exact closes all nodup

/-- Turns whose functions finish every accumulator never fail to close windows. -/
theorem unfailing_of_finishesAll {turns : List (Turn α κ σ ρ)}
    (all : ∀ turn ∈ turns, turn.FinishesAll) (sealed : Sealed w (⟨s, []⟩ : Ledger κ σ ρ)) :
    w.Unfailing s turns := by
  induction turns generalizing s with
  | nil => trivial
  | cons turn rest ih =>
    obtain ⟨now, later⟩ := List.forall_mem_cons.mp all
    exact ⟨Turn.FinishesAll.returns now sealed, ih later (sealed_turn sealed turn)⟩

/-- Closing in steps is closing at once. Let any turns have led to a state, also turns that failed,
and let every accumulator that is held there be one that can be finished. Watermarks announced one
after the other, in any order and with no item in between, return one after the other what the
greatest of them returns alone, and they leave the same state; with a flush after them they return
what the flush returns alone. If closing windows never failed so far, then a watermark that is not
above the present one returns nothing and changes nothing. Where the functions finish every
accumulator, both conditions hold: `FinishesAll.finishing`, `unfailing_of_finishesAll`. -/
theorem closing_in_steps (w : Lasting) (turns : List (Turn α κ σ ρ))
    (functions : Functions α κ σ ρ)
    (finishing : (w.aggregator functions).Finishing (w.after .fresh turns).opened) :
    let agg := w.aggregator functions
    let s : State Int κ σ := w.after .fresh turns
    (∀ watermarks : List Number, watermarks ≠ [] →
      ∃ after entries others,
        s.tryCloseAll agg watermarks = (after, .ok entries) ∧
        s.tryClose agg (Offer.greatest (watermarks.map (.watermark : Number → Offer α))) =
          (after, .ok entries) ∧
        (after.flush agg).2 = .ok others ∧
        (s.flush agg).2 = .ok (entries ++ others) ∧
        (s.flush agg).1.opened = (after.flush agg).1.opened) ∧
    (w.Unfailing .fresh turns → ∀ watermark, s.watermark.lt watermark = false →
      s.tryClose agg watermark = (s, .ok [])) := by
  intro agg s
  have sealed : Sealed w (⟨s, []⟩ : Ledger κ σ ρ) := w.sealed_after turns
  have ascending : s.opened.starts.Pairwise (· < ·) := List.pairwise_map.mpr sealed.ascending
  constructor
  · intro watermarks some
    obtain ⟨first, rest, rfl⟩ := List.exists_cons_of_ne_nil some
    obtain ⟨after, entries, steps, once⟩ :=
      tryCloseAll_eq sealed.ranked ascending finishing first rest
    obtain ⟨_, _, others, closed, flushed, whole, left⟩ :=
      closeUnder_flush ascending finishing
        (Number.ranked_of_le (Number.le_foldl_later sealed.ranked (first :: rest))).2
    cases once.symm.trans closed
    refine ⟨after, entries, others, steps, ?_, flushed, whole, left⟩
    rw [State.tryClose_eq_closeUnder, ← Offer.foldl_later sealed.ranked]
    exact once
  · intro unfailing watermark notAbove
    refine Settled.tryClose (settled_after unfailing (.fresh w) ?_) functions notAbove
    exact fun _ member => nomatch member

/-- Three windows are open after one was closed; the first of them has two keys. -/
def visited : List (Turn (Int × Nat) Nat (List (Int × Nat)) (List (Int × Nat))) :=
  .call (.accumulate collecting (1, 7)) :: .call (.tryClose collecting 12) ::
    [(13, 8), (12, 7), (30, 7), (40, 9)].map fun pair => .call (.accumulate collecting pair)

/-- Watermarks that rise, fall and repeat close two of the windows, in order, as the greatest of
them does, and the flush that follows closes the third; the watermark of the first closing comes to
nothing. -/
theorem closing_in_steps_visited :
    let s := twelves.after .fresh visited
    let agg := twelves.aggregator collecting
    agg.Finishing s.opened ∧ twelves.Unfailing .fresh visited ∧
      (∃ after entries, s.tryCloseAll agg [30, 3, 30, 36, 35] = (after, .ok entries) ∧
        entries = [⟨24, 8, [(13, 8)]⟩, ⟨24, 7, [(12, 7)]⟩, ⟨36, 7, [(30, 7)]⟩] ∧
        (after.flush agg).2.toOption = some [⟨48, 9, [(40, 9)]⟩] ∧
        s.tryClose agg 36 = (after, .ok entries)) ∧
      s.tryClose agg 12 = (s, .ok []) := by
  intro s agg
  have all : FinishesAll collecting := fun acc => ⟨acc, rfl⟩
  have finishing : agg.Finishing s.opened := all.finishing s.opened
  have unfailing : twelves.Unfailing .fresh visited := by
    refine unfailing_of_finishesAll (fun turn member => ?_) (.fresh twelves)
    simp only [visited, List.map_cons, List.map_nil, List.mem_cons, List.not_mem_nil, or_false]
      at member
    rcases member with rfl | rfl | rfl | rfl | rfl | rfl
    case inr.inl => exact all
    all_goals trivial
  obtain ⟨steps, still⟩ := closing_in_steps twelves visited collecting finishing
  obtain ⟨after, entries, others, all, once, flushed, whole, -⟩ :=
    steps [30, 3, 30, 36, 35] (List.cons_ne_nil _ _)
  have greatest : Offer.greatest ([30, 3, 30, 36, 35].map
      (.watermark : Number → Offer (Int × Nat))) = 36 := by
    have first : Number.negInfinity.lt 30 = true := Number.negInfinity_lt_int 30
    have lower : (30 : Number).lt 3 = false := by decide +kernel
    have same : (30 : Number).lt 30 = false := by decide +kernel
    have higher : (30 : Number).lt 36 = true := by decide +kernel
    have last : (36 : Number).lt 35 = false := by decide +kernel
    simp [Offer.greatest, Offer.raise, first, lower, same, higher, last]
  have closed : (s.tryCloseAll agg [30, 3, 30, 36, 35]).2.toOption =
      some [⟨24, 8, [(13, 8)]⟩, ⟨24, 7, [(12, 7)]⟩, ⟨36, 7, [(30, 7)]⟩] := by decide +kernel
  have ended : (s.flush agg).2.toOption = some [⟨24, 8, [(13, 8)]⟩, ⟨24, 7, [(12, 7)]⟩,
      ⟨36, 7, [(30, 7)]⟩, ⟨48, 9, [(40, 9)]⟩] := by decide +kernel
  rw [all] at closed
  cases closed
  rw [whole] at ended
  cases ended
  exact ⟨finishing, unfailing, ⟨after, _, all, rfl, by rw [flushed]; rfl, greatest ▸ once⟩,
    still unfailing 12 (by decide +kernel)⟩

end Lasting

end FlightStream
