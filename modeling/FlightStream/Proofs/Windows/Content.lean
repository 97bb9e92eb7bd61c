import FlightStream.Proofs.Windows.Sliding

/-!
What the open windows stand for. A content names, for each window and key, the items folded
there. `Holds` ties the open windows to one: a pair of a window that is open under the watermark
has the accumulator of its items, and a window that is closed under it is forgotten. Taking an
item, closing what is due and closing everything keep this, each with a content of its own.
-/

namespace FlightStream

/-- An item goes into all of its windows between two states of them: each is open, and has taken
the item into its accumulator for the item's key in the state after. -/
def WindowAggregator.TakenByAll {α κ σ ρ : Type} [BEq κ] (agg : WindowAggregator Int Int α κ σ ρ)
    (watermark : Number) (o after : OpenWindows Int κ σ) (item : α) : Prop :=
  ∃ time key starts, agg.timeOf item = .ok time ∧ agg.keyOf item = .ok key ∧
    agg.windowing.startsFor time = .ok starts ∧ ∀ start ∈ starts,
      agg.isClosed watermark start = false ∧ ∃ acc,
        (agg.aggregation.accumulate ((o.accumulator? start key).getD agg.aggregation.create)
          item).result = .ok acc ∧
        after.accumulator? start key = some acc

/-- An item that has a time, a key and windows is folded into these, and counted if none of them is
open. -/
theorem WindowAggregator.accumulate_placed {α κ σ ρ : Type} [BEq κ]
    (agg : WindowAggregator Int Int α κ σ ρ) (watermark : Number) (o : OpenWindows Int κ σ)
    {item : α} {time : Int} {key : κ} {starts : List Int} (timed : agg.timeOf item = .ok time)
    (keyed : agg.keyOf item = .ok key) (placed : agg.windowing.startsFor time = .ok starts) :
    agg.accumulate watermark o item =
      match agg.foldAll watermark o key item starts with
      | (after, .ok false) =>
        ({ after with late := after.late + 1 },
          (agg.lateMessage watermark time key).map fun _ => false)
      | answer => answer := by
  have found : (do
      let time ← agg.timeOf item
      let key ← agg.keyOf item
      return (time, key, ← agg.windowing.startsFor time)) =
        (.ok (time, key, starts) : Except Fault (Int × κ × List Int)) := by
    rw [timed, keyed]
    simp only [bind, Except.bind, placed]
    rfl
  unfold WindowAggregator.accumulate
  rw [found]
  simp only
  rcases agg.foldAll watermark o key item starts with ⟨after, _ | _ | _⟩ <;> rfl

namespace Sliding

variable {α κ σ ρ : Type} [BEq κ] (s : Sliding α κ σ ρ) (P : α → Prop)

/-- The open windows hold the accumulators of a content under a watermark. -/
structure Holds (watermark : Number) (content : Int → κ → List α) (o : OpenWindows Int κ σ) :
    Prop where
  ranked : watermark.Ranked
  tidy : o.Tidy
  sound : ∀ start key, ∀ item ∈ content start key, P item
  live : ∀ start key, s.isOpen watermark start = true →
    o.pair? start key = s.pairOf? (content start key)
  shut : ∀ start, s.isOpen watermark start = false → o.accumulators? start = none

/-- The content with an item more in the pairs of its key and these windows. -/
def joined (content : Int → κ → List α) (starts : List Int) (key : κ) (item : α) :
    Int → κ → List α := fun start other =>
  if start ∈ starts ∧ (key == other) = true then content start other ++ [item]
  else content start other

variable {s P} {watermark : Number} {content : Int → κ → List α} {o : OpenWindows Int κ σ}

theorem joined_nil (key : κ) (item : α) : joined content [] key item = content := by
  funext start other
  simp [joined]

/-- Joining more windows is joining them after the first. -/
theorem joined_cons {start : Int} {rest : List Int} (fresh : start ∉ rest) (key : κ) (item : α) :
    joined (joined content [start] key item) rest key item =
      joined content (start :: rest) key item := by
  funext other another
  unfold joined
  by_cases here : other = start
  · subst here
    simp [fresh]
  · simp [here]

theorem holds_empty : s.Holds P .negInfinity (fun _ _ => []) .empty where
  ranked := Number.ranked_negInfinity
  tidy := OpenWindows.tidy_empty
  sound _ _ _ member := nomatch member
  live _ _ _ := rfl
  shut _ _ := rfl

theorem Holds.sound_concat (holds : s.Holds P watermark content o) {item : α} (ok : P item)
    (start : Int) (key : κ) : ∀ other ∈ content start key ++ [item], P other := by
  intro other member
  rcases List.mem_append.mp member with old | new
  · exact holds.sound start key other old
  · rw [List.mem_singleton.mp new]
    exact ok

variable [EquivBEq κ]

/-! ## Taking an item -/

/-- Storing the folded accumulator of an open window adds the item to its pair. -/
theorem Holds.store (holds : s.Holds P watermark content o) (sound : s.Sound P) {item : α}
    (ok : P item) {key : κ} (keyed : s.keyOf item = .ok key) {start : Int}
    (opened : s.isOpen watermark start = true) {acc : σ}
    (folded : (s.aggregation.accumulate
      (((o.pair? start key).map (·.2)).getD s.aggregation.create) item).result = .ok acc) :
    s.Holds P watermark (joined content [start] key item)
      ((o.ensure start).store start key acc) where
  ranked := holds.ranked
  tidy := holds.tidy.store_ensure start key acc
  sound := by
    intro other another member present
    unfold joined at present
    split at present
    · exact holds.sound_concat ok other another member present
    · exact holds.sound other another member present
  live := by
    intro other another still
    rw [OpenWindows.pair?_store_ensure]
    by_cases here : start = other ∧ (key == another) = true
    · obtain ⟨rfl, same⟩ := here
      have spelled : o.pair? start key = s.pairOf? (content start another) := by
        rw [← holds.live start another opened, OpenWindows.pair?, OpenWindows.pair?]
        exact Option.bind_congr fun present _ => present.pair?_congr same
      obtain ⟨next, step, after⟩ :=
        sound.pairOf?_concat (holds.sound_concat ok start another) keyed
      rw [← spelled, folded] at step
      cases step
      rw [if_pos ⟨rfl, same⟩, spelled, joined, if_pos ⟨List.mem_singleton_self _, same⟩, after]
    · have apart : ¬(other ∈ [start] ∧ (key == another) = true) := by
        rintro ⟨member, same⟩
        exact here ⟨(List.mem_singleton.mp member).symm, same⟩
      rw [if_neg here, joined, if_neg apart, holds.live other another still]
  shut := by
    intro other closed
    have apart : start ≠ other := by
      rintro rfl
      rw [opened] at closed
      cases closed
    rw [OpenWindows.accumulators?_store, if_neg apart, OpenWindows.accumulators?_ensure,
      if_neg apart]
    exact holds.shut other closed

/-- Folding into one window adds the item to its pair, if the window is open. -/
theorem Holds.fold (holds : s.Holds P watermark content o) (sound : s.Sound P) {item : α}
    (ok : P item) {key : κ} (keyed : s.keyOf item = .ok key) (start : Int) :
    ∃ after, s.aggregator.fold watermark o start key item =
        (after, .ok (s.isOpen watermark start)) ∧ after.late = o.late ∧
      s.Holds P watermark
        (joined content ([start].filter (s.isOpen watermark)) key item) after := by
  unfold WindowAggregator.fold
  rw [s.isClosed_eq holds.ranked]
  cases opened : s.isOpen watermark start with
  | false =>
    refine ⟨o, rfl, rfl, ?_⟩
    rw [List.filter_cons_of_neg (by simp [opened]), List.filter_nil, joined_nil]
    exact holds
  | true =>
    obtain ⟨acc, folded, -⟩ := sound.pairOf?_concat (holds.sound_concat ok start key) keyed
    rw [← holds.live start key opened] at folded
    have ran : (s.aggregator.aggregation.accumulate
        (((o.ensure start).accumulator? start key).getD s.aggregator.aggregation.create)
        item).result = .ok acc := by
      rw [OpenWindows.accumulator?_ensure]
      exact folded
    refine ⟨(o.ensure start).store start key acc, ?_, o.late_ensure start, ?_⟩
    · simp only [Bool.not_true, Bool.false_eq_true, if_false, ran]
    · rw [List.filter_cons_of_pos opened, List.filter_nil]
      exact holds.store sound ok keyed opened folded

/-- Folding into windows, each once, adds the item to the pairs of those that are open. -/
theorem Holds.foldAll (holds : s.Holds P watermark content o) (sound : s.Sound P) {item : α}
    (ok : P item) {key : κ} (keyed : s.keyOf item = .ok key) {starts : List Int}
    (nodup : starts.Nodup) :
    ∃ after, s.aggregator.foldAll watermark o key item starts =
        (after, .ok (starts.any (s.isOpen watermark))) ∧ after.late = o.late ∧
      s.Holds P watermark
        (joined content (starts.filter (s.isOpen watermark)) key item) after := by
  induction starts generalizing o content with
  | nil => exact ⟨o, rfl, rfl, by rw [List.filter_nil, joined_nil]; exact holds⟩
  | cons start rest ih =>
    obtain ⟨fresh, others⟩ := List.nodup_cons.mp nodup
    obtain ⟨between, first, late, held⟩ := holds.fold sound ok keyed start
    obtain ⟨after, second, later, holding⟩ := ih held others
    refine ⟨after, ?_, later.trans late, ?_⟩
    · rw [WindowAggregator.foldAll, first]
      simp only [second]
      rfl
    · cases opened : s.isOpen watermark start with
      | false =>
        rw [List.filter_cons_of_neg (by simp [opened]), List.filter_nil, joined_nil] at holding
        rwa [List.filter_cons_of_neg (by simp [opened])]
      | true =>
        have apart : start ∉ rest.filter (s.isOpen watermark) := fun member =>
          fresh (List.mem_of_mem_filter member)
        rw [List.filter_cons_of_pos opened, List.filter_nil, joined_cons apart] at holding
        rwa [List.filter_cons_of_pos opened]

/-- The content after an item has come under a watermark. -/
def arrived (s : Sliding α κ σ ρ) (watermark : Number) (content : Int → κ → List α) (item : α) :
    Int → κ → List α := fun start key =>
  if (s.isOpen watermark start && s.covers item start key) = true then
    content start key ++ [item]
  else content start key

omit [EquivBEq κ] in
/-- An item with a time and a key is folded into the windows around its time. -/
theorem accumulate_eq {item : α} {time : Int} {key : κ} (timed : s.timeOf item = .ok time)
    (keyed : s.keyOf item = .ok key) : s.aggregator.accumulate watermark o item =
      match s.aggregator.foldAll watermark o key item (s.window.startsFor time) with
      | (after, .ok false) =>
        ({ after with late := after.late + 1 },
          (s.aggregator.lateMessage watermark time key).map fun _ => false)
      | answer => answer :=
  s.aggregator.accumulate_placed watermark o timed keyed rfl

/-- Taking an item adds it to its pairs of open windows; without one it is counted as late. -/
theorem Holds.accumulate (holds : s.Holds P watermark content o) (sound : s.Sound P) {item : α}
    (ok : P item) :
    ∃ after, s.aggregator.accumulate watermark o item = (after, s.answer watermark item) ∧
      after.late = o.late + (if s.admits watermark item then 0 else 1) ∧
      s.Holds P watermark (s.arrived watermark content item) after := by
  obtain ⟨time, timed⟩ := sound.time item ok
  obtain ⟨key, keyed⟩ := sound.key item ok
  have admits : s.admits watermark item =
      (s.window.startsFor time).any (s.isOpen watermark) := by
    simp only [Sliding.admits, timed]
  have content_eq : s.arrived watermark content item =
      joined content ((s.window.startsFor time).filter (s.isOpen watermark)) key item := by
    funext start other
    have condition : (s.isOpen watermark start && s.covers item start other) = true ↔
        start ∈ (s.window.startsFor time).filter (s.isOpen watermark) ∧
          (key == other) = true := by
      simp only [covers, timed, keyed, Bool.and_eq_true, List.contains_iff_mem, List.mem_filter]
      tauto
    simp only [arrived, joined, condition]
  obtain ⟨after, folded, late, held⟩ :=
    holds.foldAll sound ok keyed (s.window.startsFor_nodup time)
  rw [← content_eq] at held
  rw [accumulate_eq timed keyed, answer_eq timed keyed]
  simp only [folded, admits]
  cases (s.window.startsFor time).any (s.isOpen watermark) with
  | true => exact ⟨after, rfl, late, held⟩
  | false =>
    exact ⟨_, rfl, congrArg (· + 1) late,
      ⟨held.ranked, ⟨held.tidy.ascending, held.tidy.held⟩, held.sound, held.live, held.shut⟩⟩

/-! ## Closing windows -/

/-- Every accumulator of an open window can be finished. -/
theorem Holds.finishes (holds : s.Holds P watermark content o) (sound : s.Sound P) {start : Int} :
    ∀ entry ∈ (o.accumulators? start).getD [], s.aggregator.Finishes entry.2 := by
  intro entry member
  cases present : o.accumulators? start with
  | none =>
    rw [present] at member
    cases member
  | some keyed =>
    rw [present, Option.getD_some] at member
    have opened : s.isOpen watermark start = true := by
      by_contra closed
      rw [holds.shut start (by simpa using closed)] at present
      cases present
    have pair : o.pair? start entry.1 = some entry := by
      have one := Keyed.filter_eq_pair? (holds.tidy.held start keyed present).2 entry.1
      have own : entry ∈ keyed.filter fun other => other.1 == entry.1 :=
        List.mem_filter.mpr ⟨member, BEq.refl entry.1⟩
      rw [one, Option.mem_toList] at own
      rw [OpenWindows.pair?, present]
      exact own
    rw [holds.live start entry.1 opened] at pair
    cases items : content start entry.1 with
    | nil =>
      rw [items] at pair
      cases pair
    | cons first rest =>
      have all := holds.sound start entry.1
      rw [items] at all pair
      obtain ⟨key, acc, value, -, -, finished, same⟩ := sound.pairOf?_cons all
      rw [pair] at same
      cases same
      exact ⟨value, finished⟩

/-- Closing some open windows hands out the batch of each of their pairs. -/
theorem Holds.close (holds : s.Holds P watermark content o) (sound : s.Sound P)
    (chosen : Int → Bool) :
    ∃ after entries, s.aggregator.close o (o.starts.filter chosen) = (after, .ok entries) ∧
      after.windows = o.without (o.starts.filter chosen) ∧ after.late = o.late ∧
      ∀ start key, s.aggregator.entriesAt start key entries =
        if (s.isOpen watermark start && chosen start) = true then
          s.batch start (content start key) else [] := by
  have nodup := holds.tidy.starts_nodup.filter chosen
  obtain ⟨after, closed, windows, late⟩ :=
    s.aggregator.close_eq nodup fun start _ => holds.finishes sound
  refine ⟨after, _, closed, windows, late, fun start key => ?_⟩
  rw [s.aggregator.entriesAt_flatMap holds.tidy nodup s.endOf_injective]
  cases opened : s.isOpen watermark start with
  | false =>
    have gone : o.pair? start key = none := by
      rw [OpenWindows.pair?, holds.shut start opened]
      rfl
    simp [gone]
  | true =>
    rw [Bool.true_and, batch, ← holds.live start key opened]
    simp only [List.mem_filter]
    cases pick : chosen start with
    | false => simp
    | true =>
      by_cases present : start ∈ o.starts
      · simp only [present, and_self, if_true]
      · have gone : o.pair? start key = none := by
          cases found : o.accumulators? start with
          | none => rw [OpenWindows.pair?, found]; rfl
          | some keyed => exact absurd ((o.mem_starts_iff start).mpr ⟨keyed, found⟩) present
        simp [gone]

/-- Closing what is due under a watermark hands out the batches of the windows that it closes. -/
theorem Holds.closeDue (holds : s.Holds P watermark content o) (sound : s.Sound P)
    {next : Number} (below : watermark.le next = true) :
    ∃ after entries, s.aggregator.closeDue next o = (after, .ok entries) ∧
      after.late = o.late ∧ s.Holds P next content after ∧
      ∀ start key, s.aggregator.entriesAt start key entries =
        if (s.isOpen watermark start && !s.isOpen next start) = true then
          s.batch start (content start key) else [] := by
  have ranked := Number.ranked_of_le below |>.2
  have due : s.aggregator.isClosed next = fun start => !s.isOpen next start :=
    funext fun start => s.isClosed_eq ranked start
  obtain ⟨after, entries, closed, windows, late, handed⟩ :=
    holds.close sound fun start => !s.isOpen next start
  have kept := OpenWindows.accumulators?_of_without windows
  have same : ∀ start, s.isOpen next start = true →
      after.accumulators? start = o.accumulators? start := by
    intro start opened
    rw [kept, if_neg (by simp [opened])]
  refine ⟨after, entries, by rw [WindowAggregator.closeDue, due]; exact closed, late,
    ⟨ranked, holds.tidy.without windows, holds.sound, ?_, ?_⟩, handed⟩
  · intro start key opened
    rw [OpenWindows.pair?, same start opened]
    exact holds.live start key (s.isOpen_of_le below opened)
  · intro start closed
    rw [kept]
    by_cases present : start ∈ o.starts
    · rw [if_pos (List.mem_filter.mpr ⟨present, by simp [closed]⟩)]
    · rw [if_neg fun member => present (List.mem_filter.mp member).1]
      by_contra found
      obtain ⟨keyed, found⟩ := Option.ne_none_iff_exists'.mp found
      exact present ((o.mem_starts_iff start).mpr ⟨keyed, found⟩)

/-- Closing everything hands out the batches of the windows that are open still. -/
theorem Holds.flush (holds : s.Holds P watermark content o) (sound : s.Sound P) :
    ∃ after entries, s.aggregator.flush o = (after, .ok entries) ∧
      after.windows = [] ∧ after.late = o.late ∧
      ∀ start key, s.aggregator.entriesAt start key entries =
        if s.isOpen watermark start = true then s.batch start (content start key) else [] := by
  obtain ⟨after, entries, closed, windows, late, handed⟩ := holds.close sound fun _ => true
  rw [List.filter_true] at closed windows
  refine ⟨after, entries, closed, ?_, late, by simpa using handed⟩
  rw [windows, OpenWindows.without, List.filter_eq_nil_iff]
  intro entry member
  simpa [OpenWindows.starts] using ⟨entry.2, member⟩

/-- An entry under which no key is at home does not occur: each entry is among those of the window
that its time is the end of. -/
theorem mem_entriesAt {entries : List (TimestampedEntry Int κ ρ)}
    {entry : TimestampedEntry Int κ ρ} (member : entry ∈ entries) :
    entry ∈ s.aggregator.entriesAt (entry.timestamp - s.window.size) entry.key entries := by
  have stamp : s.aggregator.windowing.endOf (entry.timestamp - s.window.size) =
      entry.timestamp := Int.sub_add_cancel _ _
  exact List.mem_filter.mpr ⟨member, by simp [stamp]⟩

end Sliding

end FlightStream
