import FlightStream.Dataflow.Wiring
import Mathlib.Data.List.Basic
import Mathlib.Data.List.FinRange
import Mathlib.Logic.Function.Iterate

/-!
The order in which operators are listed. `Visits` is the recursive preorder: it visits operators
from left to right, lists each one that was not listed before and then, before it goes on, visits
what is downstream of it. The search keeps a stack instead, on which an operator may lie several
times, and looks whether it was listed only when it takes it off. What lies on the stack is what the
recursion still has to visit, so both list the same operators in the same order,
`visits_walk`; and as each turn of the search takes one entry off the stack, and each operator is
listed once, it takes as many turns as there are sources and connections to be followed,
`iterate_turn`.
-/

namespace FlightStream.Dataflow.Wiring

variable {n : Nat} {w : Wiring n}

/-! ## The recursive preorder -/

/-- `w.Visits listed starts after`: where the operators `listed` are listed already, visiting
`starts` one after the other, and everything downstream of each before the next, leaves the
operators `after` listed. -/
inductive Visits (w : Wiring n) : List (Fin n) → List (Fin n) → List (Fin n) → Prop
  | done {listed : List (Fin n)} : w.Visits listed [] listed
  | skip {listed rest after : List (Fin n)} {i : Fin n} :
    i ∈ listed → w.Visits listed rest after → w.Visits listed (i :: rest) after
  | enter {listed rest below after : List (Fin n)} {i : Fin n} :
    i ∉ listed → w.Visits (listed ++ [i]) (w.downstream i) below → w.Visits below rest after →
    w.Visits listed (i :: rest) after

/-- Whether the sources reach an operator. -/
inductive FromSources (w : Wiring n) : Fin n → Prop
  | source {i : Fin n} : i ∈ w.sources → w.FromSources i
  | downstream {i j : Fin n} : w.FromSources i → j ∈ w.downstream i → w.FromSources j

namespace Visits

variable {listed starts after : List (Fin n)}

/-- Visiting two lists of operators is visiting the one and then the other. -/
theorem append_iff {first second : List (Fin n)} :
    w.Visits listed (first ++ second) after ↔
      ∃ between, w.Visits listed first between ∧ w.Visits between second after := by
  constructor
  · intro visits
    induction first generalizing listed with
    | nil => exact ⟨listed, .done, visits⟩
    | cons i rest ih =>
      cases visits with
      | skip known later =>
        obtain ⟨between, left, right⟩ := ih later
        exact ⟨between, .skip known left, right⟩
      | enter new inner later =>
        obtain ⟨between, left, right⟩ := ih later
        exact ⟨between, .enter new inner left, right⟩
  · rintro ⟨between, left, right⟩
    induction left with
    | done => exact right
    | skip known _ ih => exact .skip known (ih right)
    | enter new inner _ _ ih => exact .enter new inner (ih right)

/-- What a visit lists is determined. -/
theorem unique {other : List (Fin n)} (visits : w.Visits listed starts after)
    (others : w.Visits listed starts other) : after = other := by
  induction visits generalizing other with
  | done =>
    cases others
    rfl
  | skip known _ ih =>
    cases others with
    | skip _ later => exact ih later
    | enter new _ _ => exact absurd known new
  | enter new _ _ inner later =>
    cases others with
    | skip known _ => exact absurd known new
    | enter _ below rest =>
      cases inner below
      exact later rest

theorem subset (visits : w.Visits listed starts after) : listed ⊆ after := by
  induction visits with
  | done => exact List.Subset.refl _
  | skip _ _ ih => exact ih
  | enter _ _ _ inner later =>
    exact fun _ member => later (inner (List.mem_append_left _ member))

theorem nodup (visits : w.Visits listed starts after) (nodup : listed.Nodup) : after.Nodup := by
  induction visits with
  | done => exact nodup
  | skip _ _ ih => exact ih nodup
  | enter new _ _ inner later =>
    exact later (inner (List.concat_eq_append ▸ nodup.concat new))

/-- A visit lists what it starts from, and with each operator that it lists all that is downstream
of it. -/
theorem closed (visits : w.Visits listed starts after) :
    starts ⊆ after ∧ ∀ i ∈ after, i ∈ listed ∨ w.downstream i ⊆ after := by
  induction visits with
  | done => exact ⟨List.nil_subset _, fun _ => .inl⟩
  | skip known later ih =>
    exact ⟨List.cons_subset.mpr ⟨later.subset known, ih.1⟩, ih.2⟩
  | @enter _ _ _ _ i _ below later inner outer =>
    have here := later.subset (below.subset (List.mem_append_right _ List.mem_cons_self))
    refine ⟨List.cons_subset.mpr ⟨here, outer.1⟩, fun j member => ?_⟩
    rcases outer.2 j member with earlier | follows
    · rcases inner.2 j earlier with before | follows
      · rcases List.mem_append.mp before with known | this
        · exact .inl known
        · cases List.mem_singleton.mp this
          exact .inr (List.Subset.trans inner.1 later.subset)
      · exact .inr (List.Subset.trans follows later.subset)
    · exact .inr follows

/-- A visit that starts from what the sources reach lists nothing else. -/
theorem fromSources (visits : w.Visits listed starts after)
    (before : ∀ i ∈ listed, w.FromSources i) (reached : ∀ i ∈ starts, w.FromSources i) :
    ∀ i ∈ after, w.FromSources i := by
  induction visits with
  | done => exact before
  | skip _ _ ih => exact ih before fun i member => reached i (List.mem_cons_of_mem _ member)
  | @enter _ _ _ _ start _ _ _ inner later =>
    have here := reached start List.mem_cons_self
    refine later (inner (fun i member => ?_) fun i follows => here.downstream follows)
      fun i member => reached i (List.mem_cons_of_mem _ member)
    rcases List.mem_append.mp member with known | this
    · exact before i known
    · exact List.mem_singleton.mp this ▸ here

end Visits

/-! ## The search -/

/-- The state of the search: the operators to look at, the next one first, and those listed. -/
structure Search (n : Nat) where
  stack : List (Fin n)
  listed : List (Fin n)

/-- A turn of the search: the next operator is taken off the stack and, unless it was listed before,
is listed, and the operators downstream of it are put on the stack. -/
def turn (w : Wiring n) : Search n → Search n
  | ⟨[], listed⟩ => ⟨[], listed⟩
  | ⟨i :: rest, listed⟩ =>
    if listed.contains i then ⟨rest, listed⟩ else ⟨w.downstream i ++ rest, listed ++ [i]⟩

/-- How many operators the search puts on its stack where it lists some. -/
def pushes (w : Wiring n) (listed : List (Fin n)) : Nat :=
  (listed.flatMap w.downstream).length

/-- The unseen operators are those not listed. -/
structure Complements (unseen listed : List (Fin n)) : Prop where
  nodup : unseen.Nodup
  mem_iff : ∀ i, i ∈ unseen ↔ i ∉ listed

theorem Complements.initial : Complements (List.finRange n) [] :=
  ⟨List.nodup_finRange n, fun i => by simp⟩

theorem Complements.enlist {unseen listed : List (Fin n)} (rest : Complements unseen listed)
    (i : Fin n) : Complements (unseen.erase i) (listed ++ [i]) := by
  refine ⟨rest.nodup.erase i, fun j => ?_⟩
  rw [rest.nodup.mem_erase_iff, rest.mem_iff, List.mem_append, List.mem_singleton, not_or, and_comm]

/-- The search visits what is on its stack. -/
theorem visits_walk {unseen stack listed : List (Fin n)} (rest : Complements unseen listed) :
    w.Visits listed stack (listed ++ w.walk unseen stack) := by
  induction unseen, stack using walk.induct w generalizing listed with
  | case1 => simpa [walk] using Visits.done
  | case2 unseen i stack new ih =>
    have visits := ih (rest.enlist i)
    obtain ⟨below, inner, later⟩ := Visits.append_iff.mp visits
    rw [walk, if_pos new]
    rw [List.append_assoc, List.singleton_append] at later
    exact .enter ((rest.mem_iff i).mp new) inner later
  | case3 unseen i stack seen ih =>
    rw [walk, if_neg seen]
    exact .skip (by simpa using (rest.mem_iff i).not.mp seen) (ih rest)

/-- Each turn takes one entry off the stack: the search is over after as many turns as there were
entries and as it puts there itself, and not before. -/
theorem iterate_turn {unseen stack listed : List (Fin n)} (rest : Complements unseen listed)
    (turns : Nat) :
    ((w.turn^[turns] ⟨stack, listed⟩).stack = [] ↔
        stack.length + w.pushes (w.walk unseen stack) ≤ turns) ∧
      ((w.turn^[turns] ⟨stack, listed⟩).stack = [] →
        (w.turn^[turns] ⟨stack, listed⟩).listed = listed ++ w.walk unseen stack) := by
  induction unseen, stack using walk.induct w generalizing listed turns with
  | case1 unseen =>
    have still : w.turn ⟨[], listed⟩ = ⟨[], listed⟩ := rfl
    rw [Function.iterate_fixed still]
    simp [walk, pushes]
  | case2 unseen i stack new ih =>
    cases turns with
    | zero => simp
    | succ later =>
      have known : i ∉ listed := (rest.mem_iff i).mp new
      have turned : w.turn ⟨i :: stack, listed⟩ = ⟨w.downstream i ++ stack, listed ++ [i]⟩ :=
        if_neg (mt List.contains_iff_mem.mp known)
      rw [Function.iterate_succ_apply, turned, walk, if_pos new]
      obtain ⟨ends, lists⟩ := ih (rest.enlist i) later
      refine ⟨ends.trans ?_, fun empty => (lists empty).trans (by simp)⟩
      simp only [pushes, List.flatMap_cons, List.length_append, List.length_cons]
      omega
  | case3 unseen i stack seen ih =>
    cases turns with
    | zero => simp
    | succ later =>
      have known : i ∈ listed := by simpa using (rest.mem_iff i).not.mp seen
      have turned : w.turn ⟨i :: stack, listed⟩ = ⟨stack, listed⟩ :=
        if_pos (List.contains_iff_mem.mpr known)
      rw [Function.iterate_succ_apply, turned, walk, if_neg seen]
      obtain ⟨ends, lists⟩ := ih rest later
      refine ⟨ends.trans ?_, lists⟩
      simp only [List.length_cons]
      omega

/-! ## The list of operators -/

theorem visits_preorder (w : Wiring n) : w.Visits [] w.sources w.preorder :=
  visits_walk .initial

theorem mem_preorder_iff {i : Fin n} : i ∈ w.preorder ↔ w.FromSources i := by
  constructor
  · exact w.visits_preorder.fromSources (by simp) (fun _ => .source) i
  · intro reached
    obtain ⟨starts, follows⟩ := w.visits_preorder.closed
    induction reached with
    | source member => exact starts member
    | downstream _ member ih => exact (follows _ ih).resolve_left (by simp) member

/-- Operators are listed in preorder. Whatever the connections, with operators that several others
send to, sources given several times and cycles: the recursive preorder of the sources lists exactly
`w.preorder`; in it are the operators that the sources reach, each once; and the search with a stack
is over after finitely many turns, one for each source and for each connection from an operator that
is listed, and has then listed `w.preorder`. -/
theorem preorder_depthFirst (w : Wiring n) :
    (∀ order, w.Visits [] w.sources order ↔ order = w.preorder) ∧
      w.preorder.Nodup ∧
      (∀ i, i ∈ w.preorder ↔ w.FromSources i) ∧
      ∀ turns, ((w.turn^[turns] ⟨w.sources, []⟩).stack = [] ↔
          w.sources.length + w.pushes w.preorder ≤ turns) ∧
        ((w.turn^[turns] ⟨w.sources, []⟩).stack = [] →
          (w.turn^[turns] ⟨w.sources, []⟩).listed = w.preorder) := by
  refine ⟨fun order => ⟨fun visits => visits.unique w.visits_preorder, ?_⟩,
    w.visits_preorder.nodup List.nodup_nil, fun i => mem_preorder_iff,
    fun turns => iterate_turn .initial turns⟩
  rintro rfl
  exact w.visits_preorder

/-- A source given twice, two operators after it with one sink, and a way back. -/
example : (⟨fun | 0 => [1, 2] | 1 => [3] | 2 => [3, 0] | 3 => [], [0, 0]⟩ : Wiring 4).preorder =
    [0, 1, 3, 2] := by
  cbv

end FlightStream.Dataflow.Wiring
