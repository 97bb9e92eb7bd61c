import FlightStream.Dataflow.Runner
import Mathlib.Data.List.Basic
import Mathlib.Logic.Function.Iterate

/-!
What effects do to one meter. A counter that is only ever increased by one stands, after the
effects of a run, as many ones above its value before, `Journal.counts_record`; so does each sample
of the counter of errors, whatever the order in which the failures of several operators are entered,
`Journal.stands_record`.
-/

namespace FlightStream

/-- There is a counter of an instrument, and its sample without labels has a value. -/
def Registry.Counts (r : Registry) (instrument : Instrument) (value : Float) : Prop :=
  ∃ meter, r.find? instrument.name = some meter ∧ meter.kind = .counter ∧ meter.current [] = value

/-- The whole number one as a float. -/
def Registry.one : Float := Binary64.ofWord false 0x3ff0000000000000

theorem Registry.toFloat_one : (1 : Number).toFloat = .ok one := rfl

theorem Instrument.name_injective : Function.Injective Instrument.name := by
  intro a b same
  cases a <;> cases b <;> first | rfl | exact absurd same (by decide)

/-- There is a counter of an instrument, or one can be created, and its sample under some label
values then has a value. -/
def Registry.Stands (r : Registry) (instrument : Instrument) (values : List String)
    (value : Float) : Prop :=
  ∃ known meter, r.create instrument.name instrument.kind instrument.labels = .ok known ∧
    known.find? instrument.name = some meter ∧ meter.kind = .counter ∧ meter.current values = value

namespace Registry

variable {r : Registry} {instrument : Instrument} {value : Float}

/-- Meters of other names do not matter. -/
theorem find?_measure_ne {other : Instrument} (distinct : other ≠ instrument)
    (values : List String) (change : Change) :
    (r.measure other values change).find? instrument.name = r.find? instrument.name := by
  have names : other.name ≠ instrument.name := fun same =>
    distinct (Instrument.name_injective same)
  have created : ∀ known, r.create other.name other.kind other.labels = .ok known →
      known.find? instrument.name = r.find? instrument.name := by
    intro known made
    unfold create at made
    split at made
    · cases made
      rfl
    · split at made
      · cases made
      · cases made
        exact Keyed.find?_set_ne _ _ names
      · cases made
  unfold measure
  split
  · rename_i known made
    rw [← created known made]
    unfold Registry.change
    split
    · rfl
    · simp only
      split
      · exact Keyed.find?_set_ne _ _ names
      · exact Keyed.find?_set_ne _ _ names
  · rfl

theorem Counts.measure_ne (counts : r.Counts instrument value) {other : Instrument}
    (distinct : other ≠ instrument) (values : List String) (change : Change) :
    (r.measure other values change).Counts instrument value := by
  obtain ⟨meter, found, rest⟩ := counts
  exact ⟨meter, (find?_measure_ne distinct values change).trans found, rest⟩

theorem apply_one (old : Float) : (Change.increase 1).apply .counter old = .ok (old + one) := by
  unfold Change.apply
  simp only [toFloat_one, Except.map]
  rfl

theorem create_of_find? {name : String} {meter : Meter} (found : r.find? name = some meter)
    (kind : MeterKind) (labels : List String) : r.create name kind labels = .ok r := by
  unfold create
  rw [found]
  rfl

/-- Increasing a counter by one adds one to it. -/
theorem Counts.measure_one (counts : r.Counts instrument value) :
    (r.measure instrument [] (.increase 1)).Counts instrument (value + one) := by
  obtain ⟨meter, found, counter, reads⟩ := counts
  unfold measure
  rw [create_of_find? found]
  simp only [Registry.change, found]
  rw [counter, reads, apply_one]
  refine ⟨_, Keyed.find?_set_self _ _ _, rfl, ?_⟩
  simp only [Meter.current, Keyed.find?_set_self, Option.getD_some]

/-- Increasing a sample by one adds one to it, and leaves all others as they are. -/
theorem Stands.measure_one {values : List String} (stands : r.Stands instrument values value)
    (increased : List String) :
    (r.measure instrument increased (.increase 1)).Stands instrument values
      (if increased = values then value + one else value) := by
  obtain ⟨known, meter, made, found, counter, reads⟩ := stands
  unfold measure
  rw [made]
  simp only [Registry.change, found]
  rw [counter, apply_one]
  refine ⟨_, _, create_of_find? (Keyed.find?_set_self _ _ _) _ _, Keyed.find?_set_self _ _ _, rfl, ?_⟩
  split
  · rename_i same
    subst same
    rw [← reads]
    simp only [Meter.current, Keyed.find?_set_self, Option.getD_some]
  · rename_i other
    rw [← reads]
    simp only [Meter.current, Keyed.find?_set_ne _ _ other]

end Registry

namespace Dataflow

variable {α : Type}

/-- What effects do to a meter: the label values and the changes, in order. -/
def Effect.changes (instrument : Instrument) (effects : List (Effect α)) :
    List (List String × Registry.Change) :=
  effects.filterMap fun
    | .measured other values change => if other = instrument then some (values, change) else none
    | _ => none

@[simp] theorem Effect.changes_nil (instrument : Instrument) :
    Effect.changes instrument ([] : List (Effect α)) = [] := rfl

@[simp] theorem Effect.changes_append (instrument : Instrument) (before after : List (Effect α)) :
    Effect.changes instrument (before ++ after) =
      Effect.changes instrument before ++ Effect.changes instrument after :=
  List.filterMap_append

/-- A counter that effects increase by one, some number of times, counts them. -/
theorem Journal.counts_record {effects : List (Effect α)} {instrument : Instrument} {times : Nat}
    (changes : Effect.changes instrument effects = List.replicate times ([], .increase 1))
    (place : Nat) (j : Journal α) {value : Float} (counts : j.registry.Counts instrument value) :
    (effects.foldl (Journal.record place) j).registry.Counts instrument
      ((· + Registry.one)^[times] value) := by
  induction effects generalizing times j value with
  | nil =>
    cases times with
    | zero => exact counts
    | succ more => cases changes
  | cons effect rest ih =>
    rw [List.foldl_cons]
    cases effect with
    | measured other values change =>
      by_cases same : other = instrument
      · subst same
        have first : Effect.changes other (.measured other values change :: rest) =
            (values, change) :: Effect.changes other rest := by
          simp [Effect.changes]
        rw [first] at changes
        cases times with
        | zero => cases changes
        | succ more =>
          obtain ⟨now, later⟩ := List.cons.inj changes
          cases now
          exact ih later _ counts.measure_one
      · have skipped : Effect.changes instrument (.measured other values change :: rest) =
            Effect.changes instrument rest := by
          simp [Effect.changes, same]
        exact ih (skipped.symm.trans changes) _ (counts.measure_ne same values change)
    | warned | printed | noted | carried | stopRequested => exact ih changes _ counts

/-- Whether an effect counts an error of the operator with a name. -/
def Effect.countsError (name : String) : Effect α → Bool
  | .measured .operatorErrors values _ => values == [name]
  | _ => false

/-- An effect that reports a failure: a warning, or one more error of an operator. -/
def Effect.Reports (effect : Effect α) : Prop :=
  (∃ logger message, effect = .warned logger message) ∨
    ∃ name, effect = .measured .operatorErrors [name] (.increase 1)

/-- The count of errors of an operator after reports of failures, entered in any order. -/
theorem Journal.stands_record {effects : List (Nat × Effect α)}
    (reports : ∀ effect ∈ effects, effect.2.Reports) (name : String) (j : Journal α) {value : Float}
    (stands : j.registry.Stands .operatorErrors [name] value) :
    (effects.foldl (fun j effect => j.record effect.1 effect.2) j).registry.Stands .operatorErrors
      [name] ((· + Registry.one)^[(effects.map (·.2)).countP (Effect.countsError name)] value) := by
  induction effects generalizing j value with
  | nil => exact stands
  | cons effect rest ih =>
    have others := fun other member => reports other (List.mem_cons_of_mem _ member)
    obtain ⟨place, effect⟩ := effect
    rw [List.foldl_cons, List.map_cons]
    rcases reports _ List.mem_cons_self with ⟨logger, message, same⟩ | ⟨own, same⟩
    · dsimp only at same
      subst same
      rw [List.countP_cons_of_neg (by simp [Effect.countsError])]
      exact ih others _ stands
    · dsimp only at same
      subst same
      have first := stands.measure_one [own]
      by_cases counted : own = name
      · rw [if_pos (by rw [counted])] at first
        rw [List.countP_cons_of_pos (by simp [Effect.countsError, counted])]
        exact ih others _ first
      · rw [if_neg (by simpa using counted)] at first
        rw [List.countP_cons_of_neg (by simp [Effect.countsError, counted])]
        exact ih others _ first

end Dataflow

end FlightStream
