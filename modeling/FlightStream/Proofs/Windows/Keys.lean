import FlightStream.Proofs.Windows.Batch
import FlightStream.Proofs.Windows.Failing
import Mathlib.Data.List.Sort

/-!
Keys do not interfere. An aggregator keeps the accumulators of all keys in one table of open
windows: an item opens windows that then are there for the others too, and a window is closed with
all that it holds. Still, what it holds and returns under one key is what an aggregator does that
only ever meets the items with this key.

The two differ in what windows are open, so they are compared window by window: `Share` says that
one table holds, in each window, what the other one holds there under the key, and nothing else.
Taking an item with the key keeps it if both tables do so, taking another one if only the whole
table does, and closing if both close the same windows, those that only one of them has included
(`Share.fold_own`, `Share.fold_other`, `Share.close`). `Shares.step` carries this over to sessions,
offer by offer.
-/

namespace FlightStream

namespace Offer

variable {α κ : Type} [BEq κ]

/-- Whether an offer is of concern to a key: an item with this key is, and every watermark. -/
def concerns (keyOf : α → Except Fault κ) (key : κ) : Offer α → Bool
  | item value =>
    match keyOf value with
    | .ok own => own == key
    | .error _ => false
  | watermark _ => true

end Offer

/-! ## The share of a key -/

namespace OpenWindows

variable {κ σ : Type} [BEq κ] {o share : OpenWindows Int κ σ} {key own : κ}

/-- What open windows hold under a key: in each window the pair of this key, and nothing else. -/
structure Share (key : κ) (o share : OpenWindows Int κ σ) : Prop where
  whole : o.Tidy
  tidy : share.Tidy
  held : ∀ start, share.accumulators? start = (o.pair? start key).map fun pair => [pair]

theorem share_empty (key : κ) : Share key (.empty : OpenWindows Int κ σ) .empty where
  whole := tidy_empty
  tidy := tidy_empty
  held _ := rfl

/-- What is counted and published is of no concern. -/
theorem Share.congr (shares : Share key o share) {other another : OpenWindows Int κ σ}
    (whole : other.windows = o.windows) (part : another.windows = share.windows) :
    Share key other another := by
  obtain ⟨windows, _, _⟩ := other
  obtain ⟨others, _, _⟩ := another
  subst whole part
  exact ⟨⟨shares.whole.ascending, shares.whole.held⟩, ⟨shares.tidy.ascending, shares.tidy.held⟩,
    shares.held⟩

/-- The windows of the share are those that hold the key. -/
theorem Share.starts_eq (shares : Share key o share) :
    share.starts = o.starts.filter fun start => (o.pair? start key).isSome := by
  apply shares.tidy.starts_ascending.eq_of_mem_iff (shares.whole.starts_ascending.filter _)
  intro start
  rw [mem_starts_iff, shares.held, List.mem_filter, mem_starts_iff]
  cases found : o.pair? start key with
  | none => simp
  | some pair =>
    obtain ⟨keyed, present, -⟩ := Option.bind_eq_some_iff.mp found
    simp [present]

variable [EquivBEq κ]

theorem pair?_congr (o : OpenWindows Int κ σ) (start : Int) (same : (own == key) = true) :
    o.pair? start own = o.pair? start key :=
  Option.bind_congr fun keyed _ => keyed.pair?_congr same

omit [EquivBEq κ] in
theorem key_of_pair? {start : Int} {pair : κ × σ} (found : o.pair? start key = some pair) :
    (pair.1 == key) = true := by
  obtain ⟨keyed, -, first⟩ := Option.bind_eq_some_iff.mp found
  rw [Keyed.pair?] at first
  simpa using List.find?_some first

theorem Share.pair?_eq (shares : Share key o share) (start : Int) (same : (own == key) = true) :
    share.pair? start own = o.pair? start own := by
  rw [o.pair?_congr start same, OpenWindows.pair?, shares.held]
  cases found : o.pair? start key with
  | none => rfl
  | some pair =>
    have spelled := BEq.trans (key_of_pair? found) (BEq.symm same)
    rw [Option.map_some, Option.bind_some, Keyed.pair?, List.find?_cons, spelled]

/-- Storing under another key changes nothing in the share. -/
theorem Share.store_other (shares : Share key o share) (apart : (own == key) = false)
    (start : Int) (acc : σ) : Share key ((o.ensure start).store start own acc) share where
  whole := shares.whole.store_ensure start own acc
  tidy := shares.tidy
  held other := by
    rw [pair?_store_ensure, if_neg (by simp [apart]), shares.held]

/-- Storing under the key in both keeps the share. -/
theorem Share.store_own (shares : Share key o share) (same : (own == key) = true)
    (start : Int) (acc : σ) :
    Share key ((o.ensure start).store start own acc) ((share.ensure start).store start own acc) where
  whole := shares.whole.store_ensure start own acc
  tidy := shares.tidy.store_ensure start own acc
  held other := by
    rw [accumulators?_store, accumulators?_ensure, accumulators?_ensure, pair?_store_ensure]
    by_cases here : start = other
    · subst here
      rw [if_pos rfl, if_pos rfl, if_pos ⟨rfl, same⟩, o.pair?_congr start same, shares.held]
      cases found : o.pair? start key with
      | none => rfl
      | some pair =>
        have spelled := BEq.trans (key_of_pair? found) (BEq.symm same)
        simp [Keyed.set, spelled]
    · rw [if_neg here, if_neg here, if_neg fun both => here both.1, shares.held]

end OpenWindows

/-! ## Taking items -/

namespace WindowAggregator

variable {α κ σ ρ : Type} [BEq κ] (agg : WindowAggregator Int Int α κ σ ρ) {watermark : Number}
  {o after share : OpenWindows Int κ σ} {key own : κ} {item : α} {folded : Bool}

/-- Folding goes through in a closed window, which is left alone, and in an open one whose
accumulator takes the item. -/
theorem fold_eq_ok_iff {start : Int} :
    agg.fold watermark o start own item = (after, .ok folded) ↔
      (agg.isClosed watermark start = true ∧ after = o ∧ folded = false) ∨
      agg.isClosed watermark start = false ∧ folded = true ∧ ∃ acc,
        (agg.aggregation.accumulate
          (((o.pair? start own).map (·.2)).getD agg.aggregation.create) item).result = .ok acc ∧
        after = (o.ensure start).store start own acc := by
  unfold fold
  simp only [OpenWindows.accumulator?_ensure]
  cases shut : agg.isClosed watermark start with
  | true => simp [eq_comm]
  | false =>
    cases took : (agg.aggregation.accumulate
      (((o.pair? start own).map (·.2)).getD agg.aggregation.create) item).result with
    | ok acc => simp [eq_comm, and_comm]
    | error fault => simp

/-- Folding into several windows goes through if it does so in each of them. -/
theorem foldAll_cons_eq_ok_iff {start : Int} {rest : List Int} :
    agg.foldAll watermark o own item (start :: rest) = (after, .ok folded) ↔
      ∃ between first others, agg.fold watermark o start own item = (between, .ok first) ∧
        agg.foldAll watermark between own item rest = (after, .ok others) ∧
        folded = (first || others) := by
  rw [foldAll]
  constructor
  · intro ran
    split at ran
    · cases ran
    · rename_i between first took
      rcases again : agg.foldAll watermark between own item rest with ⟨last, fault | others⟩
      · rw [again] at ran
        cases ran
      · rw [again] at ran
        cases ran
        exact ⟨between, first, others, took, again, rfl⟩
  · rintro ⟨between, first, others, took, again, rfl⟩
    rw [took]
    simp only [again]
    rfl

/-- Open windows take an item if it has a time, a key and windows, and folding into these goes
through. Whether some of them was open, and what is said if none was, is of no concern. -/
def Takes (watermark : Number) (o : OpenWindows Int κ σ) (item : α) : Prop :=
  ∃ time own starts after folded, agg.timeOf item = .ok time ∧ agg.keyOf item = .ok own ∧
    agg.windowing.startsFor time = .ok starts ∧
    agg.foldAll watermark o own item starts = (after, .ok folded)

/-- An item that is taken leaves the windows that folding leaves. -/
theorem windows_accumulate {time : Int} {starts : List Int} (timed : agg.timeOf item = .ok time)
    (keyed : agg.keyOf item = .ok own) (placed : agg.windowing.startsFor time = .ok starts)
    (folds : agg.foldAll watermark o own item starts = (after, .ok folded)) :
    (agg.accumulate watermark o item).1.windows = after.windows := by
  rw [agg.accumulate_placed watermark o timed keyed placed, folds]
  cases folded <;> rfl

end WindowAggregator

namespace OpenWindows.Share

open WindowAggregator

variable {α κ σ ρ : Type} [BEq κ] [EquivBEq κ] {agg : WindowAggregator Int Int α κ σ ρ}
  {watermark : Number} {o after share : OpenWindows Int κ σ} {key own : κ} {item : α} {folded : Bool}

/-- Folding an item with another key changes nothing in the share. -/
theorem fold_other (shares : Share key o share) (apart : (own == key) = false) {start : Int}
    (ran : agg.fold watermark o start own item = (after, .ok folded)) : Share key after share := by
  rcases agg.fold_eq_ok_iff.mp ran with ⟨-, rfl, -⟩ | ⟨-, -, acc, -, rfl⟩
  · exact shares
  · exact shares.store_other apart start acc

/-- An item with the key folds into the share as it does into the whole. -/
theorem fold_own (shares : Share key o share) (same : (own == key) = true) {start : Int}
    (ran : agg.fold watermark o start own item = (after, .ok folded)) :
    ∃ next, agg.fold watermark share start own item = (next, .ok folded) ∧ Share key after next := by
  rcases agg.fold_eq_ok_iff.mp ran with ⟨shut, rfl, rfl⟩ | ⟨opened, rfl, acc, took, rfl⟩
  · exact ⟨share, agg.fold_eq_ok_iff.mpr (.inl ⟨shut, rfl, rfl⟩), shares⟩
  · rw [← shares.pair?_eq start same] at took
    exact ⟨_, agg.fold_eq_ok_iff.mpr (.inr ⟨opened, rfl, acc, took, rfl⟩),
      shares.store_own same start acc⟩

theorem foldAll_other (shares : Share key o share) (apart : (own == key) = false)
    {starts : List Int} (ran : agg.foldAll watermark o own item starts = (after, .ok folded)) :
    Share key after share := by
  induction starts generalizing o folded with
  | nil =>
    cases ran
    exact shares
  | cons start rest ih =>
    obtain ⟨between, first, others, took, again, -⟩ := agg.foldAll_cons_eq_ok_iff.mp ran
    exact ih (shares.fold_other apart took) again

theorem foldAll_own (shares : Share key o share) (same : (own == key) = true)
    {starts : List Int} (ran : agg.foldAll watermark o own item starts = (after, .ok folded)) :
    ∃ next, agg.foldAll watermark share own item starts = (next, .ok folded) ∧
      Share key after next := by
  induction starts generalizing o share folded with
  | nil =>
    cases ran
    exact ⟨share, rfl, shares⟩
  | cons start rest ih =>
    obtain ⟨between, first, others, took, again, rfl⟩ := agg.foldAll_cons_eq_ok_iff.mp ran
    obtain ⟨middle, one, kept⟩ := shares.fold_own same took
    obtain ⟨next, more, keeps⟩ := ih kept again
    exact ⟨next, agg.foldAll_cons_eq_ok_iff.mpr ⟨middle, first, others, one, more, rfl⟩, keeps⟩

/-- Taking an item. If it has the key, the share takes it too. -/
theorem accumulate (shares : Share key o share) (takes : agg.Takes watermark o item) :
    if (Offer.item item).concerns agg.keyOf key = true then
      Share key (agg.accumulate watermark o item).1 (agg.accumulate watermark share item).1
    else Share key (agg.accumulate watermark o item).1 share := by
  obtain ⟨time, own, starts, opened, folded, timed, keyed, placed, folds⟩ := takes
  have whole := agg.windows_accumulate timed keyed placed folds
  simp only [Offer.concerns, keyed]
  split
  · rename_i same
    obtain ⟨next, took, kept⟩ := shares.foldAll_own same folds
    exact kept.congr whole (agg.windows_accumulate timed keyed placed took)
  · rename_i apart
    exact (shares.foldAll_other (Bool.eq_false_iff.mpr apart) folds).congr whole rfl

end OpenWindows.Share

/-! ## Closing windows -/

/-- Where something is nothing it may be left out. -/
theorem flatMap_filter_of_nil {α β : Type} {l : List α} {p : α → Bool} {f : α → List β}
    (nothing : ∀ a ∈ l, p a = false → f a = []) : (l.filter p).flatMap f = l.flatMap f := by
  induction l with
  | nil => rfl
  | cons first rest ih =>
    have others := ih fun a member => nothing a (List.mem_cons_of_mem _ member)
    rw [List.flatMap_cons, List.filter_cons]
    split
    · rw [List.flatMap_cons, others]
    · rename_i out
      rw [nothing first List.mem_cons_self (Bool.eq_false_iff.mpr out), others, List.nil_append]

namespace WindowAggregator

variable {α κ σ ρ : Type} (agg : WindowAggregator Int Int α κ σ ρ) {o after : OpenWindows Int κ σ}

/-- Windows whose closing goes through can be finished. -/
theorem finishes_of_close {starts : List Int} (nodup : starts.Nodup)
    {entries : List (TimestampedEntry Int κ ρ)} (ran : agg.close o starts = (after, .ok entries)) :
    ∀ start ∈ starts, ∀ entry ∈ (o.accumulators? start).getD [], agg.Finishes entry.2 := by
  intro start member
  apply agg.finishes_of_not_fails
  intro fails
  obtain ⟨_, _, _, fault, -, -, -, failed⟩ := agg.close_failing nodup ⟨start, member, fails⟩
  rw [failed] at ran
  cases ran

variable [BEq κ] [EquivBEq κ]

/-- The results of a window that are under a key are that of the key's accumulator. -/
theorem filter_results {start : Int} {keyed : Keyed κ σ} (distinct : keyed.Distinct) (key : κ) :
    (agg.results start keyed).filter (·.key == key) =
      (keyed.pair? key).toList.filterMap (agg.result? start) := by
  rw [← agg.entriesAt_results distinct, entriesAt]
  apply List.filter_congr
  intro entry member
  rw [agg.timestamp_of_mem_results member, beq_self_eq_true, Bool.true_and]

end WindowAggregator

namespace OpenWindows.Share

variable {α κ σ ρ : Type} [BEq κ] [EquivBEq κ] {agg : WindowAggregator Int Int α κ σ ρ}
  {o after share : OpenWindows Int κ σ} {key : κ}

omit [EquivBEq κ] in
theorem getD_held (shares : Share key o share) (start : Int) :
    (share.accumulators? start).getD [] = (o.pair? start key).toList := by
  rw [shares.held]
  cases o.pair? start key <;> rfl

theorem filter_results (shares : Share key o share) (start : Int) :
    (agg.results start ((o.accumulators? start).getD [])).filter (·.key == key) =
      agg.results start ((share.accumulators? start).getD []) := by
  rw [shares.getD_held, pair?]
  cases found : o.accumulators? start with
  | none => rfl
  | some keyed => exact agg.filter_results (shares.whole.held start keyed found).2 key

omit [EquivBEq κ] in
/-- Among chosen windows, those of the share are those that hold the key. -/
theorem chosen_eq (shares : Share key o share) (chosen : Int → Bool) :
    share.starts.filter chosen =
      (o.starts.filter chosen).filter fun start => (o.pair? start key).isSome := by
  rw [shares.starts_eq, List.filter_filter, List.filter_filter]
  simp only [Bool.and_comm]

omit [EquivBEq κ] in
/-- Forgetting the chosen windows in both. -/
theorem without (shares : Share key o share) {chosen : Int → Bool} {next : OpenWindows Int κ σ}
    (left : after.windows = o.without (o.starts.filter chosen))
    (left' : next.windows = share.without (share.starts.filter chosen)) :
    Share key after next where
  whole := shares.whole.without left
  tidy := shares.tidy.without left'
  held start := by
    have forgotten : after.pair? start key =
        if start ∈ o.starts.filter chosen then none else o.pair? start key := by
      rw [pair?, accumulators?_of_without left]
      split <;> rfl
    rw [accumulators?_of_without left', shares.held, shares.chosen_eq, forgotten]
    by_cases gone : start ∈ o.starts.filter chosen
    · rw [if_pos gone]
      cases found : o.pair? start key with
      | none => simp
      | some pair => rw [if_pos (List.mem_filter.mpr ⟨gone, by rw [found]; rfl⟩)]; rfl
    · rw [if_neg gone, if_neg fun member => gone (List.mem_of_mem_filter member)]

/-- Closing windows in both. The share returns what is returned under the key. -/
theorem close (shares : Share key o share) (chosen : Int → Bool)
    {entries : List (TimestampedEntry Int κ ρ)}
    (ran : agg.close o (o.starts.filter chosen) = (after, .ok entries)) :
    ∃ next, agg.close share (share.starts.filter chosen) =
        (next, .ok (entries.filter (·.key == key))) ∧ Share key after next := by
  have nodup := shares.whole.starts_nodup.filter chosen
  have finishes := agg.finishes_of_close nodup ran
  obtain ⟨_, all, left, -⟩ := agg.close_eq nodup finishes
  cases all.symm.trans ran
  have own : ∀ start ∈ share.starts.filter chosen,
      ∀ entry ∈ (share.accumulators? start).getD [], agg.Finishes entry.2 := by
    intro start member entry held
    rw [shares.getD_held, Option.mem_toList] at held
    obtain ⟨keyed, present, first⟩ := Option.bind_eq_some_iff.mp held
    rw [shares.chosen_eq] at member
    apply finishes start (List.mem_of_mem_filter member) entry
    rw [present]
    exact List.mem_of_find?_eq_some first
  obtain ⟨next, part, left', -⟩ := agg.close_eq (shares.tidy.starts_nodup.filter chosen) own
  refine ⟨next, ?_, shares.without left left'⟩
  rw [part, List.filter_flatMap, shares.chosen_eq, flatMap_filter_of_nil]
  · simp only [shares.filter_results]
  · intro start _ without
    rw [shares.getD_held, Option.not_isSome_iff_eq_none.mp (Bool.eq_false_iff.mp without)]
    rfl

end OpenWindows.Share

/-! ## Sessions -/

namespace Session

variable {α κ σ ρ : Type} [BEq κ] [EquivBEq κ] {agg : WindowAggregator Int Int α κ σ ρ} {key : κ}
  {session next alone : Session κ σ ρ}

/-- One session is the share of a key in another: under the same watermark its open windows are, and
it has handed out what the other has under the key. -/
structure Shares (key : κ) (session alone : Session κ σ ρ) : Prop where
  watermark : alone.state.watermark = session.state.watermark
  opened : session.state.opened.Share key alone.state.opened
  entries : alone.entries = session.entries.filter (·.key == key)

/-- Closing the same windows in both sessions, under a watermark that both then have. -/
theorem Shares.closing (shares : Shares key session alone) (watermark : Number)
    (chosen : Int → Bool) {after : OpenWindows Int κ σ} {entries : List (TimestampedEntry Int κ ρ)}
    (closed : agg.close session.state.opened (session.state.opened.starts.filter chosen) =
      (after, .ok entries)) :
    ∃ own fresh, agg.close alone.state.opened (alone.state.opened.starts.filter chosen) =
        (own, .ok fresh) ∧
      Shares key ⟨⟨watermark, after⟩, session.entries ++ entries, session.answers⟩
        ⟨⟨watermark, own⟩, alone.entries ++ fresh, alone.answers⟩ := by
  obtain ⟨own, closes, kept⟩ := shares.opened.close chosen closed
  refine ⟨own, _, closes, rfl, kept, ?_⟩
  rw [shares.entries, List.filter_append]

/-- An offer that is of concern to the key goes to both sessions, and any other to the whole one
only. -/
theorem Shares.step (shares : Shares key session alone) {offer : Offer α}
    (takes : ∀ item, offer = .item item →
      agg.Takes session.state.watermark session.state.opened item)
    (ran : session.step agg offer = .ok next) :
    if offer.concerns agg.keyOf key = true then
      ∃ after, alone.step agg offer = .ok after ∧ Shares key next after
    else Shares key next alone := by
  cases offer with
  | item item =>
    simp only [Session.step, WindowAggregator.State.accumulate, shares.watermark] at ran ⊢
    cases ran
    have kept := shares.opened.accumulate (takes item rfl)
    by_cases concern : (Offer.item item).concerns agg.keyOf key = true
    · rw [if_pos concern] at kept ⊢
      exact ⟨_, rfl, rfl, kept, shares.entries⟩
    · rw [if_neg concern] at kept ⊢
      exact ⟨shares.watermark, kept, shares.entries⟩
  | watermark time =>
    rw [if_pos (by rfl)]
    simp only [Session.step, WindowAggregator.State.tryClose, WindowAggregator.closeDue,
      shares.watermark] at ran ⊢
    generalize (if session.state.watermark.lt time then time else session.state.watermark) =
      watermark at ran ⊢
    rcases closed : agg.close session.state.opened
      (session.state.opened.starts.filter (agg.isClosed watermark)) with ⟨after, fault | entries⟩
    · rw [closed] at ran
      cases ran
    · rw [closed] at ran
      cases ran
      obtain ⟨own, fresh, closes, kept⟩ := shares.closing watermark _ closed
      rw [closes]
      exact ⟨_, rfl, kept⟩

/-- The flush goes to both. -/
theorem Shares.close (shares : Shares key session alone) (ran : session.close agg = .ok next) :
    ∃ after, alone.close agg = .ok after ∧ Shares key next after := by
  simp only [Session.close, WindowAggregator.State.flush, WindowAggregator.flush,
    shares.watermark] at ran ⊢
  rw [← List.filter_true session.state.opened.starts] at ran
  rw [← List.filter_true alone.state.opened.starts]
  rcases closed : agg.close session.state.opened
    (session.state.opened.starts.filter fun _ => true) with ⟨after, fault | entries⟩
  · rw [closed] at ran
    cases ran
  · rw [closed] at ran
    cases ran
    obtain ⟨own, fresh, closes, kept⟩ := shares.closing session.state.watermark _ closed
    rw [closes]
    exact ⟨_, rfl, kept⟩

omit [EquivBEq κ] in
theorem foldlM_concat_eq_ok_iff {offers : List (Offer α)} {offer : Offer α} :
    (offers ++ [offer]).foldlM (Session.step agg) .fresh = .ok session ↔
      ∃ between, offers.foldlM (Session.step agg) .fresh = .ok between ∧
        between.step agg offer = .ok session := by
  rw [List.foldlM_append]
  simp only [List.foldlM_cons, List.foldlM_nil, bind_pure]
  exact bind_eq_ok_iff

end Session

namespace Sliding

variable {α κ σ ρ : Type} [BEq κ] [EquivBEq κ] {s : Sliding α κ σ ρ} {P : α → Prop}

/-- Open windows that hold a content take every item on which nothing fails. -/
theorem Holds.takes {watermark : Number} {content : Int → κ → List α} {o : OpenWindows Int κ σ}
    (holds : s.Holds P watermark content o) (sound : s.Sound P) {item : α} (ok : P item) :
    s.aggregator.Takes watermark o item := by
  obtain ⟨time, timed⟩ := sound.time item ok
  obtain ⟨key, keyed⟩ := sound.key item ok
  obtain ⟨after, folds, -⟩ := holds.foldAll sound ok keyed (s.window.startsFor_nodup time)
  exact ⟨time, key, _, after, _, timed, keyed, rfl, folds⟩

/-- Offers on which nothing fails, and of these those of concern to the key. -/
theorem shares_foldlM (sound : s.Sound P) (key : κ) (offers : List (Offer α))
    (ok : ∀ item, .item item ∈ offers → P item) :
    ∃ session alone, offers.foldlM (Session.step s.aggregator) .fresh = .ok session ∧
      (offers.filter (Offer.concerns s.keyOf key)).foldlM (Session.step s.aggregator) .fresh =
        .ok alone ∧
      s.Follows P offers session ∧ Session.Shares key session alone := by
  induction offers using List.reverseRecOn with
  | nil => exact ⟨.fresh, .fresh, rfl, rfl, ⟨rfl, tallies_empty, rfl⟩, rfl,
      OpenWindows.share_empty key, rfl⟩
  | append_singleton before offer ih =>
    obtain ⟨session, alone, ran, own, follows, shares⟩ := ih fun item member =>
      ok item (List.mem_append_left _ member)
    have last : ∀ item, offer = .item item → P item := fun item same =>
      ok item (List.mem_append_right _ (List.mem_singleton.mpr same.symm))
    obtain ⟨next, stepped, followed⟩ := follows.step sound last
    have step := shares.step (fun item same => by
      rw [follows.watermark]
      exact follows.tallies.holds.takes sound (last item same)) stepped
    have went := Session.foldlM_concat_eq_ok_iff.mpr ⟨session, ran, stepped⟩
    rw [List.filter_append]
    split at step
    · rename_i concern
      obtain ⟨after, alongside, kept⟩ := step
      rw [show s.aggregator.keyOf = s.keyOf from rfl] at concern
      rw [List.filter_cons_of_pos concern, List.filter_nil]
      exact ⟨next, after, went, Session.foldlM_concat_eq_ok_iff.mpr ⟨alone, own, alongside⟩,
        followed, kept⟩
    · rename_i other
      rw [show s.aggregator.keyOf = s.keyOf from rfl] at other
      rw [List.filter_cons_of_neg other, List.filter_nil, List.append_nil]
      exact ⟨next, alone, went, own, followed, step⟩

/-- Where nothing fails, a session goes through, and so does that of the offers of concern to a key
alone, and hands out the entries under the key. -/
theorem run_concerns (sound : s.Sound P) (key : κ) (offers : List (Offer α))
    (ok : ∀ item, .item item ∈ offers → P item) :
    ∃ session alone, Session.run s.aggregator offers = .ok session ∧
      Session.run s.aggregator (offers.filter (Offer.concerns s.keyOf key)) = .ok alone ∧
      session.answers = (Offer.arrivals offers).map (fun a => s.answer a.1 a.2) ∧
      alone.entries = session.entries.filter (·.key == key) := by
  obtain ⟨session, alone, ran, own, follows, shares⟩ := shares_foldlM sound key offers ok
  obtain ⟨after, entries, closed, -⟩ := follows.tallies.flush sound
  have flushed : session.close s.aggregator =
      .ok ⟨⟨session.state.watermark, after⟩, session.entries ++ entries, session.answers⟩ := by
    simp only [Session.close, WindowAggregator.State.flush, closed]
    rfl
  obtain ⟨rest, closes, kept⟩ := shares.close flushed
  refine ⟨⟨⟨session.state.watermark, after⟩, session.entries ++ entries, session.answers⟩, rest,
    ?_, ?_, follows.answers, kept.entries⟩
  · rw [Session.run, ran]
    exact flushed
  · rw [Session.run, own]
    exact closes

/-- Keys do not interfere. However items and watermarks interleave, the entries under a key are, in
order, those of a new aggregator that is given the watermarks and only the items with this key. So
they are the same whatever items with other keys come, and wherever. -/
theorem keys_do_not_interfere (sound : s.Sound P) (key : κ) (offers : List (Offer α))
    (ok : ∀ item, .item item ∈ offers → P item) :
    ∃ session alone, Session.run s.aggregator offers = .ok session ∧
      session.answers = (Offer.arrivals offers).map (fun a => s.answer a.1 a.2) ∧
      Session.run s.aggregator (offers.filter (Offer.concerns s.keyOf key)) = .ok alone ∧
      session.entries.filter (·.key == key) = alone.entries ∧
      ∀ others, (∀ item, .item item ∈ others → P item) →
        others.filter (Offer.concerns s.keyOf key) = offers.filter (Offer.concerns s.keyOf key) →
        ∃ other, Session.run s.aggregator others = .ok other ∧
          other.entries.filter (·.key == key) = session.entries.filter (·.key == key) := by
  obtain ⟨session, alone, ran, own, answers, entries⟩ := run_concerns sound key offers ok
  refine ⟨session, alone, ran, answers, own, entries.symm, fun others fine same => ?_⟩
  obtain ⟨other, again, went, also, -, entries'⟩ := run_concerns sound key others fine
  rw [same] at also
  cases also.symm.trans own
  exact ⟨other, went, entries'.symm.trans entries⟩

/-- Items of the key seven among others. -/
def shared : List (Offer (Int × Nat)) :=
  [.item (1, 8), .item (2, 7), .watermark 12, .item (15, 7), .item (3, 8), .item (4, 7), .watermark 13]

/-- The same items of this key. Another one opens a window before one of them does, and another one
comes too late. -/
def crowded : List (Offer (Int × Nat)) :=
  [.item (2, 7), .item (16, 9), .watermark 12, .item (15, 7), .item (4, 7), .watermark 13,
    .item (5, 6)]

theorem keys_do_not_interfere_crowded :
    ∃ session, Session.run pairs.aggregator crowded = .ok session ∧
      session.entries.filter (·.key == 7) = [⟨10, 7, [(2, 7), (4, 7)]⟩, ⟨20, 7, [(15, 7)]⟩] := by
  obtain ⟨session, alone, -, -, own, entries, others⟩ :=
    keys_do_not_interfere (sound_pairs fun _ => True) 7 shared fun _ _ => trivial
  obtain ⟨other, ran, same⟩ := others crowded (fun _ _ => trivial) rfl
  have results : (Session.run pairs.aggregator
      (shared.filter (Offer.concerns pairs.keyOf 7))).toOption.map (·.entries) =
      some [⟨10, 7, [(2, 7), (4, 7)]⟩, ⟨20, 7, [(15, 7)]⟩] := by decide +kernel
  rw [own] at results
  exact ⟨other, ran, (same.trans entries).trans (Option.some.inj results)⟩

end Sliding

end FlightStream
