import FlightStream.Proofs.Keyed
import FlightStream.WindowAggregator

/-!
Open windows seen pair by pair. `pair?` is the accumulator of a window and key, with the key as
it first came. The operations on open windows are described by what they do to this view, and
`Tidy` says of the list behind it that its starts ascend and that no window is empty or holds a
key twice.
-/

namespace FlightStream.OpenWindows

variable {κ σ : Type}

/-- The accumulator of a window and key, with the key as it first came. -/
def pair? [BEq κ] (o : OpenWindows Int κ σ) (start : Int) (key : κ) : Option (κ × σ) :=
  (o.accumulators? start).bind fun keyed => keyed.pair? key

/-- The starts ascend, and every open window holds something and no key twice. -/
structure Tidy [BEq κ] (o : OpenWindows Int κ σ) : Prop where
  ascending : o.windows.Pairwise fun a b => a.1 < b.1
  held : ∀ start keyed, o.accumulators? start = some keyed → keyed ≠ [] ∧ keyed.Distinct

theorem tidy_empty [BEq κ] : (empty : OpenWindows Int κ σ).Tidy :=
  ⟨.nil, fun _ _ found => nomatch found⟩

/-! ## Placing accumulators -/

theorem find?_place (start other : Int) (keyed : Keyed κ σ) (windows : List (Int × Keyed κ σ)) :
    (place start keyed windows).find? (fun entry => entry.1 == other) =
      if start = other then some (start, keyed)
      else windows.find? fun entry => entry.1 == other := by
  induction windows with
  | nil => by_cases same : start = other <;> simp [place, same]
  | cons first rest ih =>
    obtain ⟨present, kept⟩ := first
    unfold place
    by_cases before : start < present
    · rw [if_pos before]
      by_cases same : start = other <;> simp [same]
    · rw [if_neg before]
      by_cases here : start = present
      · subst here
        by_cases same : start = other <;> simp [same]
      · simp only [beq_iff_eq, here, if_false, List.find?_cons]
        by_cases kept : present = other
        · subst kept
          simp [here]
        · rw [beq_eq_false_iff_ne.mpr kept]
          exact ih

theorem mem_place {start : Int} {keyed : Keyed κ σ} {windows : List (Int × Keyed κ σ)}
    {entry : Int × Keyed κ σ} (member : entry ∈ place start keyed windows) :
    entry = (start, keyed) ∨ entry ∈ windows := by
  induction windows with
  | nil => exact .inl (by simp_all [place])
  | cons first rest ih =>
    obtain ⟨present, kept⟩ := first
    unfold place at member
    split at member
    · rcases List.mem_cons.mp member with rfl | old
      · exact .inl rfl
      · exact .inr old
    · split at member
      · rename_i here
        rcases List.mem_cons.mp member with rfl | old
        · exact .inl (by rw [beq_iff_eq.mp here])
        · exact .inr (List.mem_cons_of_mem _ old)
      · rcases List.mem_cons.mp member with rfl | later
        · exact .inr List.mem_cons_self
        · exact (ih later).imp id (List.mem_cons_of_mem _)

theorem ascending_place {windows : List (Int × Keyed κ σ)}
    (ascending : windows.Pairwise fun a b => a.1 < b.1) (start : Int) (keyed : Keyed κ σ) :
    (place start keyed windows).Pairwise fun a b => a.1 < b.1 := by
  induction windows with
  | nil => simp [place]
  | cons first rest ih =>
    obtain ⟨present, kept⟩ := first
    obtain ⟨after, others⟩ := List.pairwise_cons.mp ascending
    unfold place
    split
    · rename_i before
      refine List.pairwise_cons.mpr ⟨fun entry member => ?_, ascending⟩
      rcases List.mem_cons.mp member with rfl | later
      · exact before
      · exact Int.lt_trans before (after entry later)
    · split
      · exact List.pairwise_cons.mpr ⟨after, others⟩
      · rename_i notBefore notHere
        refine List.pairwise_cons.mpr ⟨fun entry member => ?_, ih others⟩
        rcases mem_place member with new | old
        · have : start ≠ present := fun same => notHere (beq_iff_eq.mpr same)
          simp only [new]
          omega
        · exact after entry old

/-! ## The operations -/

theorem accumulators?_ensure (o : OpenWindows Int κ σ) (start other : Int) :
    (o.ensure start).accumulators? other =
      if start = other then some ((o.accumulators? start).getD []) else o.accumulators? other := by
  unfold ensure
  cases present : o.accumulators? start with
  | some keyed =>
    by_cases same : start = other
    · simp [← same, present]
    · simp [same]
  | none =>
    by_cases same : start = other <;> simp [accumulators?, find?_place, same]

theorem ascending_ensure {o : OpenWindows Int κ σ}
    (ascending : o.windows.Pairwise fun a b => a.1 < b.1) (start : Int) :
    (o.ensure start).windows.Pairwise fun a b => a.1 < b.1 := by
  unfold ensure
  split
  · exact ascending
  · exact ascending_place ascending start []

theorem late_ensure (o : OpenWindows Int κ σ) (start : Int) : (o.ensure start).late = o.late := by
  unfold ensure
  split <;> rfl

variable [BEq κ]

theorem accumulators?_store (o : OpenWindows Int κ σ) (start other : Int) (key : κ) (acc : σ) :
    (o.store start key acc).accumulators? other =
      if start = other then some (((o.accumulators? start).getD []).set key acc)
      else o.accumulators? other := by
  by_cases same : start = other <;> simp [store, accumulators?, find?_place, same]

theorem accumulator?_ensure (o : OpenWindows Int κ σ) (start : Int) (key : κ) :
    (o.ensure start).accumulator? start key = (o.pair? start key).map (·.2) := by
  unfold accumulator? pair?
  rw [accumulators?_ensure, if_pos rfl]
  cases o.accumulators? start <;> rfl

theorem accumulator?_eq (o : OpenWindows Int κ σ) (start : Int) (key : κ) :
    o.accumulator? start key = (o.pair? start key).map (·.2) := by
  unfold accumulator? pair?
  cases o.accumulators? start <;> rfl

/-- Opening a window and storing into it changes the one pair. -/
theorem pair?_store_ensure [EquivBEq κ] (o : OpenWindows Int κ σ) (start other : Int)
    (key another : κ) (acc : σ) :
    ((o.ensure start).store start key acc).pair? other another =
      if start = other ∧ (key == another) = true then
        some (((o.pair? start key).map (·.1)).getD key, acc)
      else o.pair? other another := by
  unfold pair?
  rw [accumulators?_store, accumulators?_ensure, accumulators?_ensure]
  by_cases same : start = other
  · subst same
    simp only [if_true, Option.getD_some, Option.bind_some, Keyed.pair?_set, true_and]
    cases o.accumulators? start <;> simp
  · simp [same]

theorem Tidy.store_ensure {o : OpenWindows Int κ σ} (tidy : o.Tidy) (start : Int) (key : κ)
    (acc : σ) : ((o.ensure start).store start key acc).Tidy where
  ascending := ascending_place (ascending_ensure tidy.ascending start) _ _
  held := by
    intro other keyed found
    rw [accumulators?_store, accumulators?_ensure, accumulators?_ensure] at found
    by_cases same : start = other
    · subst same
      simp only [if_true, Option.getD_some, Option.some.injEq] at found
      subst found
      refine ⟨Keyed.set_ne_nil _ _ _, Keyed.distinct_set ?_ _ _⟩
      cases present : o.accumulators? start with
      | none => exact List.Pairwise.nil
      | some keyed => exact (tidy.held start keyed present).2
    · rw [if_neg same] at found
      simp only [same, if_false] at found
      exact tidy.held other keyed found

end FlightStream.OpenWindows
