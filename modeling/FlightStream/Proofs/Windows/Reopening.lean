import FlightStream.Proofs.Windows.Sealing

/-!
No window is opened again. A ledger records a sequence of calls on an aggregator: its state, and
the entries that the calls which went through returned. Each call brings its own functions, so that
a function may fail in one call and not in the next, and what an accumulator holds is free, so that
it may also fail on one accumulator of a call and not on another. An item that goes into its first
window and fails in its second is two folds.

`Sealed` is kept by every call, `Sealed.step`, and the flush leaves the returned entries in order,
`Sealed.flush`. `never_reopened` reads off what follows for whole sequences.
-/

namespace FlightStream

variable {α κ σ ρ : Type}

/-! ## Calls -/

/-- The functions that run in a call: the time and the key of an item, the fold, and the text of a
key inside messages. -/
structure Functions (α κ σ ρ : Type) where
  timeOf : α → Except Fault Int
  keyOf : α → Except Fault κ
  aggregation : Aggregation α σ ρ
  keyText : κ → Except Fault String

/-- A call on an aggregator: to take an item, to fold one into a window and key, to fold one under
a key that cannot be kept, or to announce a watermark. -/
inductive Call (α κ σ ρ : Type)
  | accumulate (functions : Functions α κ σ ρ) (item : α)
  | fold (functions : Functions α κ σ ρ) (start : Int) (key : κ) (item : α)
  | refuse (functions : Functions α κ σ ρ) (start : Int) (fault : Fault)
  | tryClose (functions : Functions α κ σ ρ) (watermark : Number)

/-- Sliding windows with the lateness for which they stay open. -/
structure Lasting where
  window : SlidingWindow
  lateness : Int

/-- The state of an aggregator, and the entries that its calls returned so far. -/
structure Ledger (κ σ ρ : Type) where
  state : WindowAggregator.State Int κ σ
  entries : List (TimestampedEntry Int κ ρ)

namespace Lasting

variable (w : Lasting)

/-- The aggregator over these windows that runs these functions. -/
def aggregator (functions : Functions α κ σ ρ) : WindowAggregator Int Int α κ σ ρ :=
  ⟨w.window.windowing w.lateness, functions.timeOf, functions.keyOf, functions.aggregation,
    Writing.whole, functions.keyText⟩

/-- Whether the window with this start is closed under a watermark. -/
def isClosed (watermark : Number) (start : Int) : Bool :=
  (Number.int (w.window.endOf start + w.lateness)).le watermark

/-- The ledger after a call. A call that fails returns nothing. -/
def call [BEq κ] (ledger : Ledger κ σ ρ) : Call α κ σ ρ → Ledger κ σ ρ
  | .accumulate functions item =>
    { ledger with state := (ledger.state.accumulate (w.aggregator functions) item).1 }
  | .fold functions start key item =>
    { ledger with state := (ledger.state.fold (w.aggregator functions) start key item).1 }
  | .refuse functions start fault =>
    { ledger with state := (ledger.state.refuse (w.aggregator functions) start fault).1 }
  | .tryClose functions watermark =>
    let (state, answer) := ledger.state.tryClose (w.aggregator functions) watermark
    ⟨state, ledger.entries ++ answer.toOption.getD []⟩

/-- The ledger after a flush, if there is one. -/
def flush (ledger : Ledger κ σ ρ) : Option (Functions α κ σ ρ) → Ledger κ σ ρ
  | none => ledger
  | some functions =>
    let (state, answer) := ledger.state.flush (w.aggregator functions)
    ⟨state, ledger.entries ++ answer.toOption.getD []⟩

/-- The ledger after calls on a new aggregator. -/
def calls [BEq κ] (calls : List (Call α κ σ ρ)) : Ledger κ σ ρ :=
  calls.foldl w.call ⟨.fresh, []⟩

/-- The ledger after calls on a new aggregator and a flush at the end, if there is one. -/
def run [BEq κ] (calls : List (Call α κ σ ρ)) (last : Option (Functions α κ σ ρ)) :
    Ledger κ σ ρ :=
  w.flush (w.calls calls) last

end Lasting

/-! ## What every call keeps -/

variable [BEq κ]

/-- The windows left open ascend and hold no key twice. The entries returned are in order and due
under the watermark, and every window left open ends after them, also one that is closed by now and
was left behind by a failure. -/
structure Sealed (w : Lasting) (ledger : Ledger κ σ ρ) : Prop where
  ranked : ledger.state.watermark.Ranked
  ascending : ledger.state.opened.windows.Pairwise fun a b => a.1 < b.1
  distinct : ∀ held ∈ ledger.state.opened.windows, held.2.Distinct
  due : ∀ entry ∈ ledger.entries,
    (Number.int (entry.timestamp + w.lateness)).le ledger.state.watermark = true
  behind : ∀ entry ∈ ledger.entries, ∀ held ∈ ledger.state.opened.windows,
    entry.timestamp < w.window.endOf held.1
  ordered : ledger.entries.Pairwise TimestampedEntry.Before

namespace Sealed

open OpenWindows WindowAggregator

variable {w : Lasting} {ledger : Ledger κ σ ρ}

theorem fresh (w : Lasting) : Sealed w (⟨.fresh, []⟩ : Ledger κ σ ρ) where
  ranked := Number.ranked_negInfinity
  ascending := .nil
  distinct _ member := nomatch member
  due _ member := nomatch member
  behind _ member := nomatch member
  ordered := .nil

/-- A window that is not closed ends after all that is due. -/
theorem lt_endOf {watermark : Number} (ranked : watermark.Ranked) {time start : Int}
    (due : (Number.int (time + w.lateness)).le watermark = true)
    (opened : w.isClosed watermark start = false) : time < w.window.endOf start := by
  have above : watermark.lt (.int (w.window.endOf start + w.lateness)) = true := by
    rw [Number.lt_eq_not_le ranked (Number.ranked_int _), Bool.not_eq_true']
    exact opened
  have := (Number.lt_int_iff _ _).mp (Number.lt_of_le_of_lt due above)
  omega

/-- Folding keeps everything, as a window that it opened is not closed. -/
theorem of_spares (sealed : Sealed w ledger) {opened : OpenWindows Int κ σ}
    (spares : Spares (w.isClosed ledger.state.watermark) ledger.state.opened.windows
      opened.windows) :
    Sealed w { ledger with state := { ledger.state with opened := opened } } where
  ranked := sealed.ranked
  ascending := spares.ascending
  distinct := spares.distinct
  due := sealed.due
  behind := by
    intro entry returned held member
    cases closed : w.isClosed ledger.state.watermark held.1 with
    | true => exact sealed.behind entry returned held (spares.closed held member closed)
    | false => exact lt_endOf sealed.ranked (sealed.due entry returned) closed
  ordered := sealed.ordered

/-- The windows left open spare themselves. -/
theorem spares (sealed : Sealed w ledger) (closed : Int → Bool) :
    Spares closed ledger.state.opened.windows ledger.state.opened.windows :=
  ⟨sealed.ascending, sealed.distinct, fun _ member _ => member⟩

/-- A greater watermark keeps everything, and so does forgetting windows. -/
theorem of_sublist (sealed : Sealed w ledger) {watermark : Number}
    (above : ledger.state.watermark.le watermark = true) {opened : OpenWindows Int κ σ}
    (less : opened.windows.Sublist ledger.state.opened.windows) :
    Sealed w ⟨⟨watermark, opened⟩, ledger.entries⟩ where
  ranked := (Number.ranked_of_le above).2
  ascending := sealed.ascending.sublist less
  distinct held member := sealed.distinct held (less.subset member)
  due entry returned := Number.le_trans (sealed.due entry returned) above
  behind entry returned held member := sealed.behind entry returned held (less.subset member)
  ordered := sealed.ordered

variable (functions : Functions α κ σ ρ)

/-- The results of windows left open come after the entries returned, in order. -/
theorem ordered_results (sealed : Sealed w ledger) {starts : List Int}
    (some : starts.Sublist ledger.state.opened.starts) :
    (ledger.entries ++ starts.flatMap fun start => (w.aggregator functions).results start
      ((ledger.state.opened.accumulators? start).getD [])).Pairwise TimestampedEntry.Before := by
  have ascending : ledger.state.opened.starts.Pairwise (· < ·) :=
    List.pairwise_map.mpr sealed.ascending
  refine List.pairwise_append.mpr ⟨sealed.ordered, ?_, ?_⟩
  · refine (w.aggregator functions).before_results (fun one other below => ?_)
      (ascending.sublist some) fun start _ => ?_
    · exact Int.add_lt_add_right below w.window.size
    · cases present : ledger.state.opened.accumulators? start with
      | none => exact List.Pairwise.nil
      | some keyed =>
        exact sealed.distinct _ ((accumulators?_eq_some_iff sealed.ascending).mp present)
  · intro entry returned result finished
    obtain ⟨start, chosen, made⟩ := List.mem_flatMap.mp finished
    obtain ⟨held, member, rfl⟩ := List.mem_map.mp (some.subset chosen)
    refine .inl ?_
    rw [timestamp_of_mem_results _ made]
    exact sealed.behind entry returned held member

/-- Closing under a watermark that counts. What it returns is due, and what it leaves is not. -/
theorem closeDue (sealed : Sealed w ledger) {watermark : Number}
    (above : ledger.state.watermark.le watermark = true) :
    let closed := (w.aggregator functions).closeDue watermark ledger.state.opened
    Sealed w ⟨⟨watermark, closed.1⟩, ledger.entries ++ closed.2.toOption.getD []⟩ := by
  set agg := w.aggregator functions
  set o := ledger.state.opened
  have ready : (o.starts.filter (agg.isClosed watermark)).Sublist o.starts := List.filter_sublist
  have nodup : o.starts.Nodup := (List.pairwise_map.mpr sealed.ascending).imp fun below => below.ne
  show Sealed w ⟨⟨watermark, (agg.close o _).1⟩, _ ++ (agg.close o _).2.toOption.getD []⟩
  rcases agg.close_cases (o := o) (nodup.sublist ready) with
    ⟨after, fault, failed, less⟩ | ⟨after, closed, left⟩
  · rw [failed]
    simpa [Except.toOption] using sealed.of_sublist above less
  · rw [closed]
    have less : after.windows.Sublist o.windows := by
      rw [left]
      exact List.filter_sublist
    have kept := sealed.of_sublist above less
    -- An old entry is behind by `kept`; a new one is due, and no window that is left is closed.
    have due : ∀ entry ∈ ledger.entries ++ (o.starts.filter (agg.isClosed watermark)).flatMap
        (fun start => agg.results start ((o.accumulators? start).getD [])),
        (Number.int (entry.timestamp + w.lateness)).le watermark = true := by
      intro entry member
      rcases List.mem_append.mp member with old | new
      · exact kept.due entry old
      · obtain ⟨start, chosen, made⟩ := List.mem_flatMap.mp new
        rw [agg.timestamp_of_mem_results made]
        exact (List.mem_filter.mp chosen).2
    refine ⟨kept.ranked, kept.ascending, kept.distinct, due, ?_, ?_⟩
    · intro entry member held remains
      refine lt_endOf kept.ranked (due entry member) ?_
      rw [← Bool.not_eq_true]
      intro shut
      obtain ⟨present, apart⟩ := mem_without.mp (left ▸ remains)
      exact apart (List.mem_filter.mpr ⟨List.mem_map_of_mem present, shut⟩)
    · exact sealed.ordered_results functions ready

/-- What a call does: it leaves the watermark and folds into open windows, or raises the watermark
and closes what is due. -/
theorem call_cases (sealed : Sealed w ledger) (call : Call α κ σ ρ) :
    (∃ opened : OpenWindows Int κ σ,
      Spares (w.isClosed ledger.state.watermark) ledger.state.opened.windows opened.windows ∧
      w.call ledger call = { ledger with state := { ledger.state with opened := opened } }) ∨
    ∃ (functions : Functions α κ σ ρ) (watermark : Number),
      ledger.state.watermark.le watermark = true ∧
      w.call ledger call =
        let closed := (w.aggregator functions).closeDue watermark ledger.state.opened
        ⟨⟨watermark, closed.1⟩, ledger.entries ++ closed.2.toOption.getD []⟩ := by
  cases call with
  | accumulate functions item =>
    exact .inl ⟨_, (w.aggregator functions).spares_accumulate (sealed.spares _) item, rfl⟩
  | fold functions start key item =>
    exact .inl ⟨_, (w.aggregator functions).spares_fold (sealed.spares _) start key item, rfl⟩
  | refuse functions start fault =>
    left
    unfold Lasting.call State.refuse
    dsimp only
    split
    · exact ⟨_, sealed.spares _, rfl⟩
    · rename_i opened
      exact ⟨_, (sealed.spares _).ensure (Bool.eq_false_iff.mpr opened), rfl⟩
  | tryClose functions watermark =>
    refine .inr ⟨functions, _, ?_, rfl⟩
    split
    · rename_i below
      exact Number.le_of_lt below
    · exact Number.le_refl sealed.ranked

/-- Every call keeps the ledger sealed, whether it fails or not. -/
theorem step (sealed : Sealed w ledger) (call : Call α κ σ ρ) :
    Sealed w (w.call ledger call) := by
  rcases sealed.call_cases call with ⟨opened, spares, called⟩ | ⟨functions, watermark, above, called⟩
  · exact called ▸ sealed.of_spares spares
  · exact called ▸ sealed.closeDue functions above

/-- A flush leaves the entries returned in order. -/
theorem flush (sealed : Sealed w ledger) (last : Option (Functions α κ σ ρ)) :
    (w.flush ledger last).entries.Pairwise TimestampedEntry.Before := by
  cases last with
  | none => exact sealed.ordered
  | some functions =>
    set agg := w.aggregator functions
    set o := ledger.state.opened
    have nodup : o.starts.Nodup :=
      (List.pairwise_map.mpr sealed.ascending).imp fun below => below.ne
    show (_ ++ (agg.close o o.starts).2.toOption.getD []).Pairwise _
    rcases agg.close_cases nodup with ⟨after, fault, failed, -⟩ | ⟨after, closed, -⟩
    · rw [failed]
      simpa [Except.toOption] using sealed.ordered
    · rw [closed]
      exact sealed.ordered_results functions (List.Sublist.refl _)

end Sealed

/-! ## What is closed -/

namespace Lasting

open WindowAggregator

variable {w : Lasting} {ledger : Ledger κ σ ρ}

/-- One ledger is later than another: its watermark is not below, and whatever it holds for a
window that was closed before was held before. -/
structure Later (w : Lasting) (before after : Ledger κ σ ρ) : Prop where
  watermark : before.state.watermark.le after.state.watermark = true
  closed : ∀ held ∈ after.state.opened.windows,
    w.isClosed before.state.watermark held.1 = true → held ∈ before.state.opened.windows

omit [BEq κ] in
theorem Later.trans {before between after : Ledger κ σ ρ} (first : Later w before between)
    (second : Later w between after) : Later w before after where
  watermark := Number.le_trans first.watermark second.watermark
  closed := fun held member shut => first.closed held
    (second.closed held member (Number.le_trans shut first.watermark)) shut

omit [BEq κ] in
theorem Later.refl (ranked : ledger.state.watermark.Ranked) : Later w ledger ledger :=
  ⟨Number.le_refl ranked, fun _ member _ => member⟩

theorem later_call (sealed : Sealed w ledger) (call : Call α κ σ ρ) :
    Later w ledger (w.call ledger call) := by
  rcases sealed.call_cases call with ⟨opened, spares, called⟩ | ⟨functions, watermark, above, called⟩
  · exact called ▸ ⟨Number.le_refl sealed.ranked, spares.closed⟩
  · rw [called]
    exact ⟨above, fun held member _ =>
      ((w.aggregator functions).close_sublist _).subset member⟩

omit [BEq κ] in
theorem later_flush (ranked : ledger.state.watermark.Ranked)
    (last : Option (Functions α κ σ ρ)) : Later w ledger (w.flush ledger last) := by
  cases last with
  | none => exact .refl ranked
  | some functions =>
    exact ⟨Number.le_refl ranked, fun held member _ =>
      ((w.aggregator functions).close_sublist _).subset member⟩

/-! ## Whole sequences -/

theorem sealed_calls (w : Lasting) (calls : List (Call α κ σ ρ)) : Sealed w (w.calls calls) := by
  induction calls using List.reverseRecOn with
  | nil => exact .fresh w
  | append_singleton before call ih =>
    unfold Lasting.calls
    rw [List.foldl_concat]
    exact ih.step call

theorem later_calls (w : Lasting) (before after : List (Call α κ σ ρ)) :
    Later w (w.calls before) (w.calls (before ++ after)) := by
  induction after using List.reverseRecOn with
  | nil =>
    rw [List.append_nil]
    exact .refl (w.sealed_calls before).ranked
  | append_singleton rest call ih =>
    refine ih.trans ?_
    rw [← List.append_assoc]
    have next := later_call (w.sealed_calls (before ++ rest)) call
    unfold Lasting.calls at next ⊢
    rwa [List.foldl_concat]

theorem later_run (w : Lasting) (before after : List (Call α κ σ ρ))
    (last : Option (Functions α κ σ ρ)) :
    Later w (w.calls before) (w.run (before ++ after) last) :=
  (w.later_calls before after).trans (later_flush (w.sealed_calls _).ranked last)

/-- Entries in order hold at most one of a window and key. -/
theorem length_le_one_of_before [EquivBEq κ] {entries : List (TimestampedEntry Int κ ρ)}
    (ordered : entries.Pairwise TimestampedEntry.Before) (time : Int) (key : κ) :
    (entries.filter fun entry => entry.timestamp == time && entry.key == key).length ≤ 1 := by
  have same : ∀ entry ∈ entries.filter fun entry => entry.timestamp == time && entry.key == key,
      entry.timestamp = time ∧ (entry.key == key) = true := by
    intro entry member
    simpa using (List.mem_filter.mp member).2
  have kept := ordered.filter fun entry => entry.timestamp == time && entry.key == key
  generalize entries.filter _ = found at same kept
  match found with
  | [] => exact Nat.zero_le _
  | [_] => exact Nat.le_refl _
  | first :: second :: rest =>
    obtain ⟨early, own⟩ := same first List.mem_cons_self
    obtain ⟨late, other⟩ := same second (List.mem_cons_of_mem _ List.mem_cons_self)
    rcases (List.pairwise_cons.mp kept).1 second List.mem_cons_self with below | ⟨-, apart⟩
    · omega
    · rw [BEq.trans own (BEq.symm other)] at apart
      cases apart

/-- A closed window is never opened again. Whatever calls are made on an aggregator, whichever of
their functions fail, and whether a flush follows or not: no window and key is returned twice; the
watermark does not fall; what is held for a window after it closed was held when it closed; and the
entries returned are in order of their windows' ends, strictly so under one key. -/
theorem never_reopened [EquivBEq κ] (w : Lasting) (calls : List (Call α κ σ ρ))
    (last : Option (Functions α κ σ ρ)) :
    (∀ start key, ((w.run calls last).entries.filter fun entry =>
        entry.timestamp == w.window.endOf start && entry.key == key).length ≤ 1) ∧
      (∀ before after, calls = before ++ after →
        (w.calls before).state.watermark.le (w.run calls last).state.watermark = true ∧
        ∀ start, w.isClosed (w.calls before).state.watermark start = true →
          ∀ keyed, (start, keyed) ∈ (w.run calls last).state.opened.windows →
            (start, keyed) ∈ (w.calls before).state.opened.windows) ∧
      (w.run calls last).entries.Pairwise (fun a b => a.timestamp ≤ b.timestamp) ∧
      ∀ key, ((w.run calls last).entries.filter (·.key == key)).Pairwise
        fun a b => a.timestamp < b.timestamp := by
  have ordered := (w.sealed_calls calls).flush last
  refine ⟨fun start key => length_le_one_of_before ordered _ key, ?_, ?_, fun key => ?_⟩
  · rintro before after rfl
    have later := w.later_run before after last
    exact ⟨later.watermark, fun start shut keyed member => later.closed _ member shut⟩
  · refine ordered.imp fun {a b} before => ?_
    rcases before with below | ⟨same, -⟩
    · exact below.le
    · exact same.le
  · refine List.pairwise_filter.mpr (ordered.imp fun {a b} before own other => ?_)
    rcases before with below | ⟨-, apart⟩
    · exact below
    · rw [BEq.trans own (BEq.symm other)] at apart
      cases apart

/-- Windows of twelve that close at their end. -/
def twelves : Lasting := ⟨⟨12, 12, by decide, by decide⟩, 0⟩

/-- Pairs of a time and a key, collected in order. -/
def collecting : Functions (Int × Nat) Nat (List (Int × Nat)) (List (Int × Nat)) :=
  ⟨fun pair => .ok pair.1, fun pair => .ok pair.2, .toList, fun key => Writing.whole key⟩

/-- The same, but no result can be had. -/
def failing : Functions (Int × Nat) Nat (List (Int × Nat)) (List (Int × Nat)) :=
  { collecting with aggregation := { collecting.aggregation with finish := fun _ => .error .divisionByZero } }

/-- Two windows are due when the first of them fails; the other is closed and left behind, takes no
pair that comes later, and is returned under a lower watermark. -/
def outage : List (Call (Int × Nat) Nat (List (Int × Nat)) (List (Int × Nat))) :=
  [.accumulate collecting (1, 7), .accumulate collecting (12, 7), .tryClose failing 25,
    .accumulate collecting (13, 7), .fold collecting 12 7 (14, 7), .accumulate collecting (31, 7),
    .tryClose collecting 5]

/-- The window left behind by the failure is returned once, with the one pair that it held when it
was closed, and before the window that was open all along. -/
theorem never_reopened_outage :
    (twelves.run outage (some collecting)).entries = [⟨24, 7, [(12, 7)]⟩, ⟨36, 7, [(31, 7)]⟩] ∧
      ((twelves.run outage (some collecting)).entries.filter fun entry =>
        entry.timestamp == twelves.window.endOf 12 && entry.key == 7).length ≤ 1 ∧
      twelves.isClosed (twelves.calls (outage.take 3)).state.watermark 12 = true ∧
      (∀ keyed, (12, keyed) ∈ (twelves.run outage none).state.opened.windows →
        (12, keyed) ∈ (twelves.calls (outage.take 3)).state.opened.windows) ∧
      (twelves.run outage (some collecting)).entries.Pairwise
        (fun a b => a.timestamp ≤ b.timestamp) := by
  obtain ⟨once, -, ordered, -⟩ := never_reopened twelves outage (some collecting)
  obtain ⟨-, later, -⟩ := never_reopened twelves outage none
  have closed : twelves.isClosed (twelves.calls (outage.take 3)).state.watermark 12 = true := by
    decide +kernel
  exact ⟨by decide +kernel, once 12 7, closed,
    (later _ _ (List.take_append_drop 3 outage).symm).2 12 closed, ordered⟩

end Lasting

end FlightStream
