import FlightStream.Fault
import Mathlib.Data.List.Basic

/-!
Computations that may fail: what one that goes through is made of, and reading items one by one. A
fold that reads each item as it comes goes through as the fold over all that is read does,
`foldlM_read_iff`.
-/

namespace FlightStream

variable {α β γ ε σ : Type}

/-! ## Steps -/

/-- What a computation in two steps that goes through is made of. -/
theorem bind_eq_ok_iff {first : Except ε β} {next : β → Except ε γ} {result : γ} :
    first >>= next = .ok result ↔ ∃ between, first = .ok between ∧ next between = .ok result := by
  cases first <;> simp [bind, Except.bind]

theorem map_eq_ok_iff {first : Except ε β} {f : β → γ} {result : γ} :
    first.map f = .ok result ↔ ∃ made, first = .ok made ∧ f made = result := by
  cases first <;> simp [Except.map]

/-! ## Reading items -/

/-- Whether a function gives a value on each of some items. -/
def Reads (read : α → Except Fault β) (items : List α) : Prop :=
  ∀ item ∈ items, ∃ value, read item = .ok value

theorem Reads.exists_eq [Inhabited β] {read : α → Except Fault β} {items : List α}
    (reads : Reads read items) : ∃ f : α → β, ∀ item ∈ items, read item = .ok (f item) := by
  refine ⟨fun item => (read item).toOption.getD default, fun item member => ?_⟩
  obtain ⟨value, own⟩ := reads item member
  simp only [own]
  rfl

theorem mapM_of_forall {read : α → Except Fault β} {f : α → β} {items : List α}
    (all : ∀ item ∈ items, read item = .ok (f item)) : items.mapM read = .ok (items.map f) := by
  induction items with
  | nil => rfl
  | cons item rest ih =>
    obtain ⟨own, others⟩ := List.forall_mem_cons.mp all
    rw [List.mapM_cons, own, ih others]
    rfl

/-- A fold that reads each item as it comes returns what the fold over all that is read returns. -/
theorem foldlM_read_iff {read : α → Except Fault β} {step : σ → β → Except Fault σ}
    {items : List α} {start last : σ} :
    items.foldlM (fun acc item => read item >>= step acc) start = .ok last ↔
      ∃ values, items.mapM read = .ok values ∧ values.foldlM step start = .ok last := by
  induction items generalizing start with
  | nil => simp [pure, Except.pure]
  | cons item rest ih =>
    simp only [List.foldlM_cons, List.mapM_cons, bind_eq_ok_iff, ih]
    constructor
    · rintro ⟨next, ⟨value, own, stepped⟩, values, others, folded⟩
      exact ⟨value :: values, ⟨value, own, values, others, rfl⟩, by
        rw [List.foldlM_cons, stepped]
        exact folded⟩
    · rintro ⟨_, ⟨value, own, values, others, ⟨⟩⟩, folded⟩
      obtain ⟨next, stepped, folded⟩ := bind_eq_ok_iff.mp folded
      exact ⟨next, ⟨value, own, stepped⟩, values, others, folded⟩

end FlightStream
