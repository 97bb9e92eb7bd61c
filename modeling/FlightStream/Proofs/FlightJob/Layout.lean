import FlightStream.FlightJob.Pipeline
import FlightStream.Proofs.Dataflow.Operators
import FlightStream.Proofs.Dataflow.Termination
import FlightStream.Proofs.Dataflow.Windowed
import Mathlib.Tactic.FinCases

/-!
The flight job as a network: which place is connected to which, what runs where, and that every
run of it drains.
-/

namespace FlightStream.FlightJob

open Dataflow

/-- The connections of the flight job. The places are, in order: the source, the watermarks, the
low altitude, the airport, the direction, the noise, the loudest flight, its level, the emission,
the total emission, and the sink. -/
def layout : Wiring 11 where
  downstream
    | 0 => [1]
    | 1 => [2]
    | 2 => [3]
    | 3 => [4]
    | 4 => [5, 8, 10]
    | 5 => [6]
    | 6 => [7]
    | 7 => [10]
    | 8 => [9]
    | 9 => [10]
    | _ => []
  sources := [0]

/-- The connections in the order in which they are asked for. -/
def links : List (Nat × Nat) :=
  [(0, 1), (1, 2), (2, 3), (3, 4), (4, 5), (5, 6), (6, 7), (4, 8), (8, 9), (4, 10), (9, 10), (7, 10)]

section Parts

variable {α : Type} (a b c d e f g h i j k : Dataflow.Part α)

theorem wiring_links :
    (Draft.wiring ⟨[a, b, c, d, e, f, g, h, i, j, k], links, [0]⟩ : Wiring 11) = layout := by
  have downstream : (Draft.wiring ⟨[a, b, c, d, e, f, g, h, i, j, k], links, [0]⟩ :
      Wiring 11).downstream = layout.downstream := by
    funext m
    fin_cases m <;> rfl
  have sources : (Draft.wiring ⟨[a, b, c, d, e, f, g, h, i, j, k], links, [0]⟩ :
      Wiring 11).sources = layout.sources := rfl
  exact congrArg₂ Wiring.mk downstream sources

theorem cell_links (m : Fin 11) :
    (Draft.network ⟨[a, b, c, d, e, f, g, h, i, j, k], links, [0]⟩ : Network 11 α).cell m =
      ⟨([a, b, c, d, e, f, g, h, i, j, k].get m).role (layout.inputs m), [],
        ([a, b, c, d, e, f, g, h, i, j, k].get m).capacity, []⟩ := by
  rw [← wiring_links a b c d e f g h i j k]
  exact Vector.getElem_ofFn _

end Parts

namespace Plan

variable (p : Plan) {σ : Type} (name : String) (script : Script Element)
  (sink : Operator Element σ) (capacity : Nat)

/-- The network of the flight job. -/
def network : Network 11 Element := (p.build name script sink capacity).network

/-- What runs at the places of the flight job. -/
def parts : List (Dataflow.Part Element) :=
  [.source name script, .operator p.watermarks defaultCapacity,
    .operator p.lowAltitude defaultCapacity, .operator p.airport defaultCapacity,
    .operator p.direction defaultCapacity, .operator p.noise defaultCapacity,
    .operator p.loudest defaultCapacity, .operator level defaultCapacity,
    .operator p.emission defaultCapacity, .operator p.total defaultCapacity,
    .operator sink capacity]

theorem wiring_network : (p.network name script sink capacity).wiring = layout :=
  wiring_links ..

theorem cell_network (m : Fin 11) : (p.network name script sink capacity).cell m =
    ⟨((p.parts name script sink capacity).get m).role (layout.inputs m), [],
      ((p.parts name script sink capacity).get m).capacity, []⟩ :=
  cell_links ..

theorem sole_network {i j : Fin 11} (once : (layout.downstream i).count j = 1)
    (others : ∀ k, k ≠ i → j ∉ layout.downstream k) :
    (p.network name script sink capacity).wiring.Sole i j := by
  rw [wiring_network]
  exact ⟨once, others⟩

theorem source_network : ((p.network name script sink capacity).cell 0).role =
    .source (.ofScript name script) := by
  rw [cell_network]
  rfl

/-- What runs at a place with one input, before its start. -/
theorem role_network {τ : Type} {operator : Operator Element τ} {room : Nat} {m : Fin 11}
    (part : (p.parts name script sink capacity).get m = .operator operator room)
    (one : layout.inputs m = 1) :
    ((p.network name script sink capacity).cell m).role =
      .worker operator (.start operator 1) := by
  rw [cell_network, part, one]
  rfl

theorem fresh_network : (p.network name script sink capacity).Fresh where
  inbox m := by rw [cell_network]
  outbox m := by rw [cell_network]
  unfinished m := by
    rw [cell_network]
    cases (p.parts name script sink capacity).get m <;> rfl

/-- Every run of the flight job drains. -/
theorem drains_network (room : 0 < capacity) :
    (p.network name script sink capacity).Drains Fin.val where
  fresh := p.fresh_network name script sink capacity
  ascending := by
    rw [wiring_network]
    decide
  simple := by
    rw [wiring_network]
    decide
  room m := by
    rw [cell_network]
    have all : ∀ part ∈ p.parts name script sink capacity, 0 < part.capacity := by
      simp [parts, Part.capacity, defaultCapacity, room]
    exact all _ (List.get_mem _ _)
  placed m := by
    rw [cell_network, wiring_network]
    fin_cases m
    · exact .source (by decide)
    · exact .worker (fun _ _ => Operators.keepsOpen_insertWatermarks _ _ _) ⟨0, by decide⟩
    · exact .worker (fun _ _ => Operators.keepsOpen_perElement _ _) ⟨1, by decide⟩
    · exact .worker (fun _ _ => Operators.keepsOpen_perElement _ _) ⟨2, by decide⟩
    · exact .worker (fun _ _ => Operators.keepsOpen_window _ _ _) ⟨3, by decide⟩
    · exact .worker (fun _ _ => Operators.keepsOpen_perElement _ _) ⟨4, by decide⟩
    · exact .worker (fun _ _ => Operators.keepsOpen_window _ _ _) ⟨5, by decide⟩
    · exact .worker (fun _ _ => Operators.keepsOpen_perElement _ _) ⟨6, by decide⟩
    · exact .worker (fun _ _ => Operators.keepsOpen_perElement _ _) ⟨4, by decide⟩
    · exact .worker (fun _ _ => Operators.keepsOpen_window _ _ _) ⟨8, by decide⟩
    · exact .worker (fun _ none => nomatch none) ⟨4, by decide⟩

end Plan

end FlightStream.FlightJob
