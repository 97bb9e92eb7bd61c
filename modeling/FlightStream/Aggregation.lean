import FlightStream.Trend

/-!
Folds over the items of one window and key. An aggregation starts from an empty accumulator,
takes the items one by one, and turns the accumulator into a result at the end. Lists and
trends are updated in place: what a failing update had already changed stays changed.
-/

namespace FlightStream

/-- A fold over items `α` by accumulators `σ` into results `ρ`. -/
structure Aggregation (α σ ρ : Type) where
  create : σ
  accumulate : σ → α → Folded σ
  finish : σ → Except Fault ρ

namespace Aggregation

/-- Folds items in order, up to the first failure. -/
def fold {α σ ρ : Type} (a : Aggregation α σ ρ) (items : List α) : Except Fault σ :=
  items.foldlM (fun acc item => (a.accumulate acc item).result) a.create

/-- The result over items in order. -/
def run {α σ ρ : Type} (a : Aggregation α σ ρ) (items : List α) : Except Fault ρ :=
  a.fold items >>= a.finish

/-- Keeps the items in order. -/
def toList {α : Type} : Aggregation α (List α) (List α) where
  create := []
  accumulate acc item := let acc := acc ++ [item]; ⟨acc, .ok acc⟩
  finish acc := .ok acc

/-- The slope of the line through the points of the items. -/
def linearTrend {α : Type} (point : α → Except Fault (Number × Number)) :
    Aggregation α LinearTrend Float where
  create := .empty
  accumulate acc item :=
    match point item with
    | .ok (x, y) => acc.accumulate x y
    | .error fault => ⟨acc, .error fault⟩
  finish acc := acc.slope

/-- The first item that no other item exceeds; `exceeds item kept` may fail. -/
def maxBy {α : Type} (exceeds : α → α → Except Fault Bool) :
    Aggregation α (Option α) (Option α) where
  create := none
  accumulate acc item :=
    ⟨acc,
      match acc with
      | none => .ok (some item)
      | some kept => (exceeds item kept).map fun above => some (if above then item else kept)⟩
  finish acc := .ok acc

/-- The sum of the items' float values, from left to right. -/
def summing {α : Type} (value : α → Except Fault Float) : Aggregation α Float Float where
  create := 0
  accumulate acc item := ⟨acc, (value item).map (acc + ·)⟩
  finish acc := .ok acc

/-- Two aggregations over the same items, their results combined at the end. An item goes to
the first side and then to the second. -/
def allOf {α σ τ ρ κ μ : Type} (first : Aggregation α σ ρ) (second : Aggregation α τ κ)
    (combine : ρ → κ → Except Fault μ) : Aggregation α (σ × τ) μ where
  create := (first.create, second.create)
  accumulate acc item :=
    let one := first.accumulate acc.1 item
    match one.result with
    | .error fault => ⟨(one.left, acc.2), .error fault⟩
    | .ok next =>
      let two := second.accumulate acc.2 item
      ⟨(one.left, two.left), two.result.map fun last => (next, last)⟩
  finish acc := do
    let one ← first.finish acc.1
    let two ← second.finish acc.2
    combine one two

end Aggregation

end FlightStream
