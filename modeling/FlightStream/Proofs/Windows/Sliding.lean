import FlightStream.Proofs.Aggregation
import FlightStream.Proofs.EventTime.SlidingWindow
import FlightStream.Proofs.Number.Order
import FlightStream.Proofs.Windows.Closing

/-!
Aggregation over sliding windows of whole times, seen as a batch. `pairOf?` is the key and the
accumulator of items folded together, and `batch` the result that they come to: none for no
items, and exactly one for some items on which nothing fails, `batch_eq`.
-/

namespace FlightStream

/-- The message about a late item can be put together if all three that it tells of have texts. -/
theorem WindowAggregator.exists_lateMessage_iff {θ τ α κ σ ρ : Type}
    (agg : WindowAggregator θ τ α κ σ ρ) {watermark : Number} {time : θ} {key : κ} :
    (∃ text, agg.lateMessage watermark time key = .ok text) ↔
      (∃ text, agg.keyText key = .ok text) ∧ (∃ text, agg.timeText time = .ok text) ∧
        Writing.Writable watermark := by
  unfold lateMessage Writing.Writable
  cases agg.keyText key with
  | error fault => simp [bind, Except.bind]
  | ok key =>
    cases agg.timeText time with
    | error fault => simp [bind, Except.bind]
    | ok time => cases Writing.number watermark <;> simp [bind, Except.bind, pure, Except.pure]

/-- What is aggregated over sliding windows of whole times: the windows and how long they stay
open, the time and the key of an item, the fold, and the text of a key inside messages. -/
structure Sliding (α κ σ ρ : Type) where
  window : SlidingWindow
  lateness : Int
  timeOf : α → Except Fault Int
  keyOf : α → Except Fault κ
  aggregation : Aggregation α σ ρ
  keyText : κ → Except Fault String

namespace Sliding

variable {α κ σ ρ : Type} (s : Sliding α κ σ ρ)

/-- The aggregator over these windows. -/
def aggregator : WindowAggregator Int Int α κ σ ρ :=
  ⟨s.window.windowing s.lateness, s.timeOf, s.keyOf, s.aggregation, Writing.whole, s.keyText⟩

/-- Whether the window with this start takes items under a watermark: its end and the lateness
are above the watermark. -/
def isOpen (watermark : Number) (start : Int) : Bool :=
  watermark.lt (.int (s.window.endOf start + s.lateness))

/-- Whether an item belongs to a window and key. -/
def covers [BEq κ] (item : α) (start : Int) (key : κ) : Bool :=
  match s.timeOf item, s.keyOf item with
  | .ok time, .ok own => (s.window.startsFor time).contains start && own == key
  | _, _ => false

/-- The entries of a window and key are the result over its items: no entry without items, and
otherwise one entry, with the end of the window, the key, and the result over the items in
order. -/
def Delivers [BEq κ] (start : Int) (key : κ) (items : List α)
    (entries : List (TimestampedEntry Int κ ρ)) : Prop :=
  match items with
  | [] => entries = []
  | first :: rest => ∃ own value, s.keyOf first = .ok own ∧ (own == key) = true ∧
      s.aggregation.run (first :: rest) = .ok value ∧
      entries = [⟨s.window.endOf start, own, value⟩]

/-- Whether some window of an item takes it. -/
def admits (watermark : Number) (item : α) : Bool :=
  match s.timeOf item with
  | .ok time => (s.window.startsFor time).any (s.isOpen watermark)
  | .error _ => false

/-- What an item with a time and a key is answered: whether some window takes it. Of an item that
none takes, the message about it is put together before the answer is given. -/
def answer (watermark : Number) (item : α) : Except Fault Bool := do
  let time ← s.timeOf item
  let key ← s.keyOf item
  if s.admits watermark item then return true
  let _ ← s.aggregator.lateMessage watermark time key
  return false

/-- Nothing fails on the items that satisfy `P`: each has a time and a key, and any number of
them, in any order, have a result. -/
structure Sound (P : α → Prop) : Prop where
  time : ∀ item, P item → ∃ time, s.timeOf item = .ok time
  key : ∀ item, P item → ∃ key, s.keyOf item = .ok key
  run : ∀ items, items ≠ [] → (∀ item ∈ items, P item) →
    ∃ value, s.aggregation.run items = .ok value

/-- Where no step of the aggregation fails at all, nothing fails on any items. -/
theorem sound_of_total (time : ∀ item, ∃ time, s.timeOf item = .ok time)
    (key : ∀ item, ∃ key, s.keyOf item = .ok key)
    (step : ∀ acc item, ∃ next, (s.aggregation.accumulate acc item).result = .ok next)
    (finish : ∀ acc, ∃ value, s.aggregation.finish acc = .ok value) (P : α → Prop) :
    s.Sound P where
  time item _ := time item
  key item _ := key item
  run := by
    intro items _ _
    have folds : ∃ acc, s.aggregation.fold items = .ok acc := by
      clear * - step
      induction items using List.reverseRecOn with
      | nil => exact ⟨s.aggregation.create, rfl⟩
      | append_singleton before item ih =>
        obtain ⟨acc, folded⟩ := ih
        obtain ⟨next, stepped⟩ := step acc item
        rw [Aggregation.fold_concat, folded]
        exact ⟨next, stepped⟩
    obtain ⟨acc, folded⟩ := folds
    obtain ⟨value, finished⟩ := finish acc
    rw [Aggregation.run, folded]
    exact ⟨value, finished⟩

/-! ## Messages about late items -/

variable {s} in
/-- An item with a time and a key is answered by whether some window takes it, or by the fault of
the message about it. -/
theorem answer_eq {watermark : Number} {item : α} {time : Int} {key : κ}
    (timed : s.timeOf item = .ok time) (keyed : s.keyOf item = .ok key) :
    s.answer watermark item =
      if s.admits watermark item then .ok true
      else (s.aggregator.lateMessage watermark time key).map fun _ => false := by
  simp only [answer, timed, keyed, bind, Except.bind, pure, Except.pure]
  cases s.admits watermark item with
  | true => rfl
  | false => cases s.aggregator.lateMessage watermark time key <;> rfl

theorem isClosed_eq {watermark : Number} (ranked : watermark.Ranked) (start : Int) :
    s.aggregator.isClosed watermark start = !s.isOpen watermark start := by
  rw [isOpen, Number.lt_eq_not_le ranked (Number.ranked_int _), Bool.not_not]
  rfl

/-- A window that takes items under a watermark took them under every watermark below. -/
theorem isOpen_of_le {before after : Number} (below : before.le after = true) {start : Int}
    (opened : s.isOpen after start = true) : s.isOpen before start = true :=
  Number.lt_of_le_of_lt below opened

theorem endOf_injective : Function.Injective s.aggregator.windowing.endOf := by
  intro one other same
  exact add_right_cancel same

variable {s} in
theorem covers_iff [BEq κ] {item : α} {start : Int} {key : κ} :
    s.covers item start key = true ↔ ∃ time own, s.timeOf item = .ok time ∧
      s.keyOf item = .ok own ∧ start ∈ s.window.startsFor time ∧ (own == key) = true := by
  unfold covers
  cases s.timeOf item <;> cases s.keyOf item <;> simp

variable {s} in
theorem key_of_covers [BEq κ] {item : α} {start : Int} {key own : κ}
    (covered : s.covers item start key = true) (keyed : s.keyOf item = .ok own) :
    (own == key) = true := by
  obtain ⟨_, other, -, same, -, matching⟩ := covers_iff.mp covered
  rw [keyed] at same
  cases same
  exact matching

/-! ## Batches -/

/-- The accumulator of items folded together, under the key of the first. -/
def pairOf? (items : List α) : Option (κ × σ) :=
  match items with
  | [] => none
  | first :: rest =>
    match s.keyOf first, s.aggregation.fold (first :: rest) with
    | .ok key, .ok acc => some (key, acc)
    | _, _ => none

/-- The entries that items of one window and key come to. -/
def batch (start : Int) (items : List α) : List (TimestampedEntry Int κ ρ) :=
  (s.pairOf? items).toList.filterMap (s.aggregator.result? start)

variable {s} {P : α → Prop} (sound : s.Sound P)

include sound

theorem Sound.pairOf?_cons {first : α} {rest : List α} (all : ∀ item ∈ first :: rest, P item) :
    ∃ key acc value, s.keyOf first = .ok key ∧ s.aggregation.fold (first :: rest) = .ok acc ∧
      s.aggregation.finish acc = .ok value ∧ s.pairOf? (first :: rest) = some (key, acc) := by
  obtain ⟨key, keyed⟩ := sound.key first (all first List.mem_cons_self)
  obtain ⟨value, ran⟩ := sound.run _ (List.cons_ne_nil first rest) all
  unfold Aggregation.run at ran
  cases folded : s.aggregation.fold (first :: rest) with
  | error fault =>
    rw [folded] at ran
    cases ran
  | ok acc =>
    rw [folded] at ran
    exact ⟨key, acc, value, keyed, rfl, ran, by simp only [pairOf?, keyed, folded]⟩

/-- An item after others goes into their accumulator, or into a new one under its own key. -/
theorem Sound.pairOf?_concat {items : List α} {item : α} {key : κ}
    (all : ∀ other ∈ items ++ [item], P other) (keyed : s.keyOf item = .ok key) :
    ∃ acc, (s.aggregation.accumulate
        (((s.pairOf? items).map (·.2)).getD s.aggregation.create) item).result = .ok acc ∧
      s.pairOf? (items ++ [item]) = some (((s.pairOf? items).map (·.1)).getD key, acc) := by
  cases items with
  | nil =>
    have alone : ∀ other ∈ [item], P other := all
    obtain ⟨own, acc, -, same, folded, -, pair⟩ := sound.pairOf?_cons alone
    rw [keyed] at same
    cases same
    have step := s.aggregation.fold_concat [] item
    rw [List.nil_append, folded] at step
    exact ⟨acc, step.symm, pair⟩
  | cons first rest =>
    have before : ∀ other ∈ first :: rest, P other := fun other member =>
      all other (List.mem_append_left _ member)
    obtain ⟨own, acc, -, first_key, folded, -, pair⟩ := sound.pairOf?_cons before
    have after : ∀ other ∈ first :: (rest ++ [item]), P other := all
    obtain ⟨_, next, -, same, step, -, after⟩ := sound.pairOf?_cons after
    rw [first_key] at same
    cases same
    rw [← List.cons_append, s.aggregation.fold_concat, folded] at step
    rw [pair]
    exact ⟨next, step, after⟩

omit sound in
theorem batch_nil (start : Int) : s.batch start [] = [] := rfl

/-- Items on which nothing fails come to one entry: the end of the window, the key of the first
item, and the result over all of them in order. -/
theorem Sound.batch_eq (start : Int) {first : α} {rest : List α}
    (all : ∀ item ∈ first :: rest, P item) :
    ∃ key value, s.keyOf first = .ok key ∧ s.aggregation.run (first :: rest) = .ok value ∧
      s.batch start (first :: rest) = [⟨s.window.endOf start, key, value⟩] := by
  obtain ⟨key, acc, value, keyed, folded, finished, pair⟩ := sound.pairOf?_cons all
  refine ⟨key, value, keyed, ?_, ?_⟩
  · rw [Aggregation.run, folded]
    exact finished
  · have result : s.aggregator.result? start (key, acc) =
        some ⟨s.window.endOf start, key, value⟩ := by
      unfold WindowAggregator.result?
      rw [show s.aggregator.aggregation.finish acc = .ok value from finished]
      rfl
    rw [batch, pair]
    simp [result]

theorem Sound.delivers_batch [BEq κ] {start : Int} {key : κ} {items : List α}
    (all : ∀ item ∈ items, P item) (covered : ∀ item ∈ items, s.covers item start key = true) :
    s.Delivers start key items (s.batch start items) := by
  cases items with
  | nil => exact batch_nil start
  | cons first rest =>
    obtain ⟨own, value, keyed, ran, entries⟩ := sound.batch_eq start all
    exact ⟨own, value, keyed, key_of_covers (covered first List.mem_cons_self) keyed, ran, entries⟩

end Sliding

end FlightStream
