import FlightStream.Enrichment
import FlightStream.Proofs.Keyed
import Mathlib.Data.List.Nodup

/-!
Looking up noise levels. A table holds the entries of a mapping in ascending order of altitude, the
altitudes and the levels at the same places, `exists_entries`; halving finds the place that parts the
altitudes below a given one from the others, `parts_firstNotBelow`; and so the table answers with the
level of the lowest altitude of the mapping that is not below, `ceiling?_spec`. The level of an
aircraft is the answer of the table for its phase and category, `noise_of_mapping`.
-/

namespace FlightStream

namespace NoiseTable

/-! ## Halving -/

/-- `Parts altitudes a place`: the altitudes before a place are below `a`, those from it on are
not. -/
structure Parts (altitudes : List Int) (a : Int) (place : Nat) : Prop where
  within : place ≤ altitudes.length
  below : ∀ i (inside : i < altitudes.length), i < place → altitudes[i] < a
  above : ∀ i (inside : i < altitudes.length), place ≤ i → a ≤ altitudes[i]

/-- If what is before the one end is below and what is from the other on is not, then halving what
is between finds the place that parts them. -/
theorem parts_between {altitudes : List Int} (ascending : altitudes.Pairwise (· < ·)) (a : Int)
    {low high : Nat} (within : high ≤ altitudes.length) (ordered : low ≤ high)
    (below : ∀ i (inside : i < altitudes.length), i < low → altitudes[i] < a)
    (above : ∀ i (inside : i < altitudes.length), high ≤ i → a ≤ altitudes[i]) :
    Parts altitudes a (firstNotBelow altitudes a low high within) := by
  have climb : ∀ i j (first : i < altitudes.length) (second : j < altitudes.length), i ≤ j →
      altitudes[i] ≤ altitudes[j] := by
    intro i j first second upward
    rcases Nat.eq_or_lt_of_le upward with rfl | before
    · exact Int.le_refl _
    · exact Int.le_of_lt (List.pairwise_iff_getElem.mp ascending i j first second before)
  induction low, high, within using firstNotBelow.induct altitudes (a : Number) with
  | case1 low high within apart middle inside passes ih =>
    rw [firstNotBelow, dif_pos apart, if_pos passes]
    have passed := (Number.lt_int_iff _ _).mp passes
    refine ih (by omega) (fun i here earlier => ?_) above
    exact Int.lt_of_le_of_lt (climb i middle here inside (by omega)) passed
  | case2 low high within apart middle inside stays ih =>
    rw [firstNotBelow, dif_pos apart, if_neg stays]
    have stayed := mt (Number.lt_int_iff _ _).mpr stays
    refine ih (by omega) below fun i here later => ?_
    exact Int.le_trans (Int.not_lt.mp stayed) (climb middle i inside here later)
  | case3 low high within met =>
    rw [firstNotBelow, dif_neg met]
    exact ⟨by omega, below, fun i here later => above i here (by omega)⟩

theorem parts_firstNotBelow {altitudes : List Int} (ascending : altitudes.Pairwise (· < ·))
    (a : Int) :
    Parts altitudes a (firstNotBelow altitudes a 0 altitudes.length (Nat.le_refl _)) :=
  parts_between ascending a _ (Nat.zero_le _) (fun _ _ early => absurd early (Nat.not_lt_zero _))
    fun _ inside late => absurd inside (Nat.not_lt.mpr late)

theorem mem_levels_of_ceiling? {t : NoiseTable} {a : Number} {level : Int}
    (found : t.ceiling? a = some level) : level ∈ t.levels := by
  unfold ceiling? at found
  simp only at found
  split at found
  · cases found
  · exact List.mem_of_getElem? found

/-! ## The entries of a table -/

/-- A table holds the entries of its mapping in ascending order of altitude, the altitude and the
level of each at the same place. -/
theorem exists_entries (levels : List (Int × Int)) :
    ∃ entries : List (Int × Int), entries.Perm (Keyed.ofList levels) ∧
      (entries.map (·.1)).Pairwise (· < ·) ∧
      ofList levels = ⟨entries.map (·.1), entries.map (·.2)⟩ := by
  refine ⟨(Keyed.ofList levels).mergeSort fun a b => decide (a.1 ≤ b.1),
    List.mergeSort_perm _ _, ?_, rfl⟩
  have sorted : ((Keyed.ofList levels).mergeSort fun a b => decide (a.1 ≤ b.1)).Pairwise
      fun a b => decide (a.1 ≤ b.1) :=
    List.pairwise_mergeSort (fun a b c ab bc => by simp only [decide_eq_true_eq] at *; omega)
      (fun a b => by simp only [Bool.or_eq_true, decide_eq_true_eq]; omega) _
  have apart : (((Keyed.ofList levels).mergeSort fun a b => decide (a.1 ≤ b.1)).map (·.1)).Nodup :=
    ((List.mergeSort_perm _ _).map _).nodup_iff.mpr
      (Keyed.nodup_keys (Keyed.distinct_ofList levels))
  refine List.pairwise_map.mpr ((sorted.and (List.pairwise_map.mp apart)).imp fun pair => ?_)
  exact Int.lt_iff_le_and_ne.mpr ⟨of_decide_eq_true pair.1, pair.2⟩

/-! ## Ceilings -/

/-- `Ceiling levels a level`: in the mapping of some pairs, where of two for one altitude the later
counts, this is the level of the lowest altitude that is not below `a`. -/
def Ceiling (levels : List (Int × Int)) (a level : Int) : Prop :=
  ∃ altitude, Keyed.Latest levels altitude level ∧ a ≤ altitude ∧
    ∀ entry ∈ levels, a ≤ entry.1 → altitude ≤ entry.1

variable {levels : List (Int × Int)} {a level : Int}

theorem Ceiling.not_below (ceiling : Ceiling levels a level) : ¬∀ entry ∈ levels, entry.1 < a := by
  obtain ⟨altitude, latest, above, -⟩ := ceiling
  exact fun below => absurd (below _ latest.mem) (Int.not_lt.mpr above)

theorem Ceiling.unique {other : Int} (ceiling : Ceiling levels a level)
    (another : Ceiling levels a other) : level = other := by
  obtain ⟨altitude, latest, above, least⟩ := ceiling
  obtain ⟨lowest, last, not_below, fewest⟩ := another
  have same : altitude = lowest :=
    Int.le_antisymm (least _ last.mem not_below) (fewest _ latest.mem above)
  subst same
  have found := Keyed.find?_ofList_iff.mpr latest
  rw [Keyed.find?_ofList_iff.mpr last] at found
  exact (Option.some.inj found).symm

/-- A table answers with the level of the lowest altitude of its mapping that is not below the one
asked for, and with none if all are below. -/
theorem ceiling?_spec (levels : List (Int × Int)) (a : Int) :
    match (ofList levels).ceiling? a with
    | some level => Ceiling levels a level
    | none => ∀ entry ∈ levels, entry.1 < a := by
  obtain ⟨entries, perm, ascending, table⟩ := exists_entries levels
  have parts := parts_firstNotBelow ascending a
  -- every altitude that is given has an entry
  have listed : ∀ entry ∈ levels, ∃ i, ∃ inside : i < (entries.map (·.1)).length,
      (entries.map (·.1))[i] = entry.1 := by
    intro entry given
    cases found : (Keyed.ofList levels).find? entry.1 with
    | none => exact absurd rfl (Keyed.find?_ofList_eq_none_iff.mp found entry given)
    | some level =>
      have member := perm.mem_iff.mpr (Keyed.mem_of_find? found)
      exact List.mem_iff_getElem.mp (List.mem_map.mpr ⟨_, member, rfl⟩)
  unfold ceiling?
  rw [table]
  simp only
  generalize firstNotBelow (entries.map (·.1)) a 0 (entries.map (·.1)).length _ = place at parts ⊢
  by_cases beyond : place = (entries.map (·.1)).length
  · rw [if_pos beyond]
    intro entry given
    obtain ⟨i, inside, same⟩ := listed entry given
    exact same ▸ parts.below i inside (beyond ▸ inside)
  · rw [if_neg beyond]
    have inside : place < (entries.map (·.1)).length := Nat.lt_of_le_of_ne parts.within beyond
    have here : place < entries.length := by simpa using inside
    rw [List.getElem?_map, List.getElem?_eq_getElem here, Option.map_some]
    refine ⟨(entries.map (·.1))[place], ?_, parts.above place inside (Nat.le_refl _),
      fun entry given above => ?_⟩
    · rw [List.getElem_map]
      exact Keyed.mem_ofList_iff.mp (perm.mem_iff.mp (List.getElem_mem here))
    · obtain ⟨i, there, same⟩ := listed entry given
      rw [← same] at above ⊢
      have late : place ≤ i := Nat.not_lt.mp fun early =>
        absurd (parts.below i there early) (Int.not_lt.mpr above)
      rcases Nat.eq_or_lt_of_le late with rfl | later
      · exact Int.le_refl _
      · exact Int.le_of_lt (List.pairwise_iff_getElem.mp ascending place i inside there later)

theorem ceiling?_eq_some_iff :
    (ofList levels).ceiling? a = some level ↔ Ceiling levels a level := by
  have spec := ceiling?_spec levels a
  constructor
  · intro found
    rwa [found] at spec
  · intro ceiling
    cases found : (ofList levels).ceiling? a with
    | none =>
      rw [found] at spec
      exact absurd spec ceiling.not_below
    | some other =>
      rw [found] at spec
      rw [ceiling.unique spec]

theorem ceiling?_eq_none_iff :
    (ofList levels).ceiling? a = none ↔ ∀ entry ∈ levels, entry.1 < a := by
  have spec := ceiling?_spec levels a
  constructor
  · intro none
    rwa [none] at spec
  · intro below
    cases found : (ofList levels).ceiling? a with
    | none => rfl
    | some level =>
      rw [found] at spec
      exact absurd below spec.not_below

theorem ceiling?_empty (a : Number) : empty.ceiling? a = none := by
  unfold ceiling? empty firstNotBelow
  rfl

/-- `Answers levels a level`: the level is that of the lowest altitude not below `a`, or it is zero
and there is no such altitude. -/
def Answers (levels : List (Int × Int)) (a level : Int) : Prop :=
  Ceiling levels a level ∨ (∀ entry ∈ levels, entry.1 < a) ∧ level = 0

theorem answers_ceiling? (levels : List (Int × Int)) (a : Int) :
    Answers levels a (((ofList levels).ceiling? a).getD 0) := by
  have spec := ceiling?_spec levels a
  cases found : (ofList levels).ceiling? a with
  | none =>
    rw [found] at spec
    exact .inr ⟨spec, rfl⟩
  | some level =>
    rw [found] at spec
    exact .inl spec

end NoiseTable

/-- Noise levels are looked up from above. For every mapping of altitudes to levels, in any order,
and every altitude: the table of the mapping has a level there just if it is the level of the lowest
altitude of the mapping that is not below, and has none just if all are below. With tables made of
four mappings, the level of an aircraft that climbs or descends is that of the mapping for its
direction and for heavy aircraft or all others, and zero where that has none; in level flight and in
unknown phases it is zero. -/
theorem noise_of_mapping (heavyClimb mediumClimb heavyDescent mediumDescent : List (Int × Int))
    (airports : List Airport) (co2 : Keyed String Float) :
    (∀ (levels : List (Int × Int)) (a level : Int),
        (NoiseTable.ofList levels).ceiling? a = some level ↔ NoiseTable.Ceiling levels a level) ∧
      (∀ (levels : List (Int × Int)) (a : Int),
        (NoiseTable.ofList levels).ceiling? a = none ↔ ∀ entry ∈ levels, entry.1 < a) ∧
      ∀ aircraft : ClassifiedAircraft,
        let level := lookupNoise
          ⟨airports, .ofLevels heavyClimb mediumClimb heavyDescent mediumDescent, co2⟩ aircraft
        match aircraft.direction with
        | .ascending => NoiseTable.Answers
            (if aircraft.wake = .heavy then heavyClimb else mediumClimb) aircraft.alt level
        | .descending => NoiseTable.Answers
            (if aircraft.wake = .heavy then heavyDescent else mediumDescent) aircraft.alt level
        | .cruise | .unknown => level = 0 := by
  refine ⟨fun _ _ _ => NoiseTable.ceiling?_eq_some_iff, fun _ _ => NoiseTable.ceiling?_eq_none_iff,
    fun aircraft => ?_⟩
  have heavy : (aircraft.wake == .heavy) = decide (aircraft.wake = .heavy) := rfl
  unfold lookupNoise ReferenceData.noiseTable
  rw [heavy]
  cases aircraft.direction with
  | ascending | descending =>
    dsimp only
    by_cases weight : aircraft.wake = .heavy
    · rw [if_pos weight, decide_eq_true weight]
      exact NoiseTable.answers_ceiling? _ _
    · rw [if_neg weight, decide_eq_false weight]
      exact NoiseTable.answers_ceiling? _ _
  | cruise | unknown => exact congrArg (·.getD 0) (NoiseTable.ceiling?_empty _)

/-- A mapping out of order, and an altitude just above one of its own. -/
example : (NoiseTable.ofList [(3000, 61), (500, 83), (1000, 81)]).ceiling? (501 : Int) = some 81 := by
  cbv

end FlightStream
