/-!
How operators are connected: each operator sends to a list of others, and some are the sources
that everything starts from. `preorder` lists the operators that the sources reach, depth
first, each once; it walks with a stack and a list of the operators not yet seen, so it ends
on any graph.
-/

namespace FlightStream.Dataflow

/-- Connections between `n` operators. -/
structure Wiring (n : Nat) where
  downstream : Fin n → List (Fin n)
  sources : List (Fin n)

namespace Wiring

variable {n : Nat} (w : Wiring n)

/-- How many connections lead to an operator. -/
def inputs (i : Fin n) : Nat :=
  ((List.finRange n).flatMap w.downstream).count i

/-- Goes on from the operators on a stack, where only unseen ones are listed and followed. -/
def walk (unseen : List (Fin n)) : List (Fin n) → List (Fin n)
  | [] => []
  | i :: stack =>
    if i ∈ unseen then i :: walk (unseen.erase i) (w.downstream i ++ stack)
    else walk unseen stack
termination_by stack => (unseen.length, stack.length)
decreasing_by
  · rename_i seen
    have := List.length_erase_of_mem seen
    have := List.length_pos_of_mem seen
    exact Prod.Lex.left _ _ (by omega)
  · exact Prod.Lex.right _ (by simp)

/-- Every operator that the sources reach, depth first and each once. -/
def preorder : List (Fin n) := w.walk (List.finRange n) w.sources

end Wiring

end FlightStream.Dataflow
