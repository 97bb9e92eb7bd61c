import FlightStream.Metrics.Registry
import FlightStream.Proofs.Keyed
import Mathlib.Data.List.Zip

/-!
What the meters stand at after a history. An `Act` creates a meter or changes one of its samples;
what was `asked` of a sample is read off the acts alone, and `settled` is what it comes to: for a
counter the sum of the amounts, `settled_increases`, and for a gauge the value set last,
`settled_assigned`. After acts that all went well, the registry holds just the meters that were
created, each under names of its own, and their samples stand at what was asked of them,
`kept_of_performed`.
-/

namespace FlightStream.Registry

/-! ## Histories -/

/-- What is done with meters. -/
inductive Act
  | create (name : String) (kind : MeterKind) (labels : List String)
  | use (name : String) (labels : Keyed String Json) (verb : Verb) (amount : Json)

/-- The registry after an act, if the act goes well. -/
def perform (r : Registry) : Act → Except Fault Registry
  | .create name kind labels => r.create name kind labels
  | .use name labels verb amount =>
    match r.use name labels verb amount with
    | (after, .ok _) => .ok after
    | (_, .error fault) => .error fault

/-- All of some acts go well, one after the other and from no meters on, and lead to a registry. -/
def Performed (acts : List Act) (r : Registry) : Prop := acts.foldlM perform [] = .ok r

/-- Labels with their values as the texts that are kept of them. -/
def asTexts (labels : Keyed String Json) : Keyed String String :=
  labels.map fun label => (label.1, label.2.bare)

/-- The kind and the label names of a meter that an act creates. -/
def Act.made? (name : String) : Act → Option (MeterKind × List String)
  | .create other kind labels => if other = name then some (kind, labels) else none
  | .use _ _ _ _ => none

/-- The kind and the label names of a meter: those of its first creation. -/
def made? (acts : List Act) (name : String) : Option (MeterKind × List String) :=
  acts.findSome? (Act.made? name)

/-- What an act asks of the sample of a meter under some labels. -/
def Act.asked? (name : String) (labels : Keyed String String) : Act → Option (Verb × Number)
  | .create _ _ _ => none
  | .use other given verb amount =>
    if other = name ∧ asTexts given = labels then amount.number?.map fun n => (verb, n) else none

/-- What acts ask of the sample of a meter under some labels, in order. -/
def asked (acts : List Act) (name : String) (labels : Keyed String String) :
    List (Verb × Number) :=
  acts.filterMap (Act.asked? name labels)

/-- Whether a meter has a sample under some labels: if it has no labels, from its creation on, and
otherwise once something was asked of it. -/
def InUse (acts : List Act) (name : String) (labels : Keyed String String) : Prop :=
  (labels = [] ∧ ∃ kind, made? acts name = some (kind, [])) ∨ asked acts name labels ≠ []

/-- Whether no act creates a meter with more than one label name. -/
def Narrow (acts : List Act) : Prop :=
  ∀ name kind labels, Act.create name kind labels ∈ acts → labels.length ≤ 1

/-- The nearest float of a number, and zero beyond the range of floats. -/
def nearest (n : Number) : Float :=
  match n.toFloat with
  | .ok x => x
  | .error _ => 0

/-- A value after what is asked of it. -/
def Verb.applied (old : Float) : Verb × Number → Float
  | (increase, n) => old + nearest n
  | (decrease, n) => old + nearest n.neg
  | (assign, n) => nearest n

/-- What comes of zero by all that is asked. -/
def settled (asks : List (Verb × Number)) : Float := asks.foldl Verb.applied 0

/-- Increases come to the sum of their amounts. -/
theorem settled_increases {asks : List (Verb × Number)}
    (increases : ∀ ask ∈ asks, ask.1 = .increase) :
    settled asks = (asks.map fun ask => nearest ask.2).foldl (· + ·) 0 := by
  unfold settled
  rw [List.foldl_map]
  refine List.foldl_ext _ _ _ fun old ask member => ?_
  obtain ⟨verb, n⟩ := ask
  cases increases _ member
  rfl

/-- A value that is set last stands. -/
theorem settled_assigned (before : List (Verb × Number)) (n : Number) :
    settled (before ++ [(.assign, n)]) = nearest n := by
  simp [settled, Verb.applied]

section History

variable {acts : List Act} {act : Act} {name : String} {labels : Keyed String String}

theorem made?_concat (acts : List Act) (act : Act) (name : String) :
    made? (acts ++ [act]) name = (made? acts name).or (act.made? name) := by
  simp [made?, List.findSome?_append]

theorem asked_concat (acts : List Act) (act : Act) (name : String)
    (labels : Keyed String String) :
    asked (acts ++ [act]) name labels =
      asked acts name labels ++ (act.asked? name labels).toList := by
  cases found : act.asked? name labels <;> simp [asked, List.filterMap_append, found]

/-- What is asked does not change where an act asks nothing. -/
theorem asked_concat_of_none (nothing : act.asked? name labels = none) :
    asked (acts ++ [act]) name labels = asked acts name labels := by
  rw [asked_concat, nothing]
  exact List.append_nil _

/-- What creates one meter creates no other. -/
theorem made?_create_ne {other : String} (apart : other ≠ name) (kind : MeterKind)
    (labelNames : List String) :
    made? (acts ++ [.create name kind labelNames]) other = made? acts other := by
  rw [made?_concat, show Act.made? other (.create name kind labelNames) = none from
    if_neg apart.symm, Option.or_none]

/-- What uses a meter creates none. -/
theorem made?_use (acts : List Act) (name : String) (given : Keyed String Json) (verb : Verb)
    (amount : Json) (other : String) :
    made? (acts ++ [.use name given verb amount]) other = made? acts other := by
  rw [made?_concat]
  exact Option.or_none

/-- What uses one meter asks nothing of another. -/
theorem asked?_use_ne {other : String} (apart : other ≠ name) (given : Keyed String Json)
    (verb : Verb) (amount : Json) (labels : Keyed String String) :
    (Act.use name given verb amount).asked? other labels = none :=
  if_neg fun same => apart same.1.symm

theorem performed_concat_iff {r : Registry} :
    Performed (acts ++ [act]) r ↔ ∃ before, Performed acts before ∧ before.perform act = .ok r := by
  unfold Performed
  rw [List.foldlM_append]
  simp only [List.foldlM_cons, List.foldlM_nil, bind_pure]
  cases acts.foldlM perform [] <;> simp [bind, Except.bind]

theorem Narrow.before (narrow : Narrow (acts ++ [act])) : Narrow acts :=
  fun name kind labels member => narrow name kind labels (List.mem_append_left _ member)

end History

/-! ## What an act can do -/

section Acts

variable {r after : Registry} {name : String} {kind : MeterKind}

theorem clashes_eq_nil_iff :
    r.clashes name kind = [] ↔
      ∀ taken ∈ occupied name kind, ∀ entry ∈ r, taken ∉ occupied entry.1 entry.2.kind := by
  simp [clashes, List.filter_eq_nil_iff]

/-- A creation that goes well finds the meter there, or adds one under names that no other meter
occupies. -/
theorem create_cases {labels : List String} (made : r.create name kind labels = .ok after) :
    (r.find? name).isSome ∧ after = r ∨
      r.find? name = none ∧ r.clashes name kind = [] ∧
        after = r.set name (newMeter kind labels) := by
  unfold create at made
  split at made
  · cases made
    exact .inl ⟨‹_›, rfl⟩
  · rename_i new
    split at made
    · cases made
    · rename_i free
      cases made
      exact .inr ⟨Option.not_isSome_iff_eq_none.mp new, free, rfl⟩
    · cases made

/-- Where a meter has at most one label name, labels that it takes are those under its label names
and the values in their order. -/
theorem labelValues_eq_ok {meter : Meter} {given : Keyed String Json} {values : List String}
    (narrow : meter.labels.length ≤ 1) (taken : labelValues name meter given = .ok values) :
    values.length = meter.labels.length ∧ asTexts given = meter.labels.zip values := by
  unfold labelValues at taken
  split at taken
  · cases taken
  split at taken
  · rename_i none
    split at taken
    · rename_i unlabelled
      cases taken
      rw [List.isEmpty_iff.mp none, List.isEmpty_iff.mp unlabelled]
      exact ⟨rfl, rfl⟩
    · cases taken
  split at taken
  · cases taken
  rename_i labelled
  split at taken
  · rename_i same
    obtain ⟨label, single⟩ : ∃ label, meter.labels = [label] := by
      refine List.length_eq_one_iff.mp (Nat.le_antisymm narrow ?_)
      exact List.length_pos_iff.mpr (by simpa using labelled)
    rw [single] at same taken
    obtain ⟨⟨other, value⟩, alone⟩ := List.length_eq_one_iff.mp same
    rw [alone] at taken
    by_cases named : other = label
    · subst named
      simp [Keyed.find?] at taken
      rw [single, alone, ← taken]
      exact ⟨rfl, rfl⟩
    · simp [Keyed.find?, named] at taken
  · cases taken

theorem toFloat_eq_nearest {n : Number} {x : Float} (rounded : n.toFloat = .ok x) :
    x = nearest n := by
  unfold nearest
  rw [rounded]

theorem map_toFloat_eq_ok {n : Number} {f : Float → Float} {x : Float}
    (rounded : n.toFloat.map f = .ok x) : x = f (nearest n) := by
  cases read : n.toFloat with
  | error fault =>
    rw [read] at rounded
    cases rounded
  | ok value =>
    rw [read] at rounded
    cases rounded
    rw [toFloat_eq_nearest read]

/-- A change that goes well is by an amount, and of a counter an increase. -/
theorem apply_eq_ok {verb : Verb} {amount : Json} {change : Change} {old new : Float}
    (chosen : verb.change kind amount = .ok change) (changed : change.apply kind old = .ok new) :
    ∃ n, amount.number? = some n ∧ new = Verb.applied old (verb, n) ∧
      (kind = .counter → verb = .increase) := by
  unfold Verb.change at chosen
  cases counted : amount.number? with
  | none =>
    rw [counted] at chosen
    cases verb <;> cases kind <;> cases chosen <;> cases changed
  | some n =>
    rw [counted] at chosen
    refine ⟨n, rfl, ?_⟩
    cases verb with
    | increase =>
      cases chosen
      refine ⟨?_, fun _ => rfl⟩
      cases kind with
      | counter =>
        simp only [Change.apply] at changed
        split at changed
        · cases changed
        · exact map_toFloat_eq_ok changed
      | gauge => exact map_toFloat_eq_ok changed
    | decrease =>
      cases chosen
      cases kind with
      | counter => cases changed
      | gauge => exact ⟨map_toFloat_eq_ok changed, fun counter => by cases counter⟩
    | assign =>
      cases chosen
      cases kind with
      | counter => cases changed
      | gauge => exact ⟨toFloat_eq_nearest changed, fun counter => by cases counter⟩

/-- A use that goes well asks for an amount, changes one sample of a meter that is there by it, and
nothing else; of a counter it asks for more. -/
theorem use_cases {given : Keyed String Json} {verb : Verb} {amount : Json}
    (went : r.perform (.use name given verb amount) = .ok after) :
    ∃ meter values n, r.find? name = some meter ∧ labelValues name meter given = .ok values ∧
      amount.number? = some n ∧ (meter.kind = .counter → verb = .increase) ∧
      after = r.set name { meter with
        samples := meter.samples.set values (Verb.applied (meter.current values) (verb, n)) } := by
  unfold perform use at went
  cases known : r.find? name with
  | none =>
    simp only [known] at went
    cases went
  | some meter =>
    simp only [known] at went
    cases named : labelValues name meter given with
    | error fault =>
      simp only [named] at went
      cases went
    | ok values =>
      cases chosen : verb.change meter.kind amount with
      | error fault =>
        simp only [named, chosen] at went
        cases went
      | ok change =>
        simp only [named, chosen, Registry.change, known] at went
        cases changed : change.apply meter.kind (meter.current values) with
        | error fault =>
          simp only [changed] at went
          cases went
        | ok new =>
          simp only [changed] at went
          cases went
          obtain ⟨n, counted, rfl, counter⟩ := apply_eq_ok chosen changed
          exact ⟨meter, values, n, rfl, named, counted, counter, rfl⟩

end Acts

/-! ## What a history leaves -/

theorem zip_injective {labels values others : List String} (first : values.length = labels.length)
    (second : others.length = labels.length) (same : labels.zip values = labels.zip others) :
    values = others := by
  have read := congrArg (List.map Prod.snd) same
  rwa [List.map_snd_zip (Nat.le_of_eq first), List.map_snd_zip (Nat.le_of_eq second)] at read

/-- `Keeps acts name meter`: a meter has at most one label name, a sample for each set of labels in
use, and each of its samples stands at what acts asked of it. -/
structure Keeps (acts : List Act) (name : String) (meter : Meter) : Prop where
  narrow : meter.labels.length ≤ 1
  distinct : meter.samples.Distinct
  shape : ∀ entry ∈ meter.samples, entry.1.length = meter.labels.length
  stands : ∀ values, values.length = meter.labels.length →
    meter.current values = settled (asked acts name (meter.labels.zip values))
  present : ∀ values, values.length = meter.labels.length →
    InUse acts name (meter.labels.zip values) → (meter.samples.find? values).isSome
  takes : ∀ labels, asked acts name labels ≠ [] →
    ∃ values, values.length = meter.labels.length ∧ labels = meter.labels.zip values
  increases : meter.kind = .counter → ∀ labels, ∀ ask ∈ asked acts name labels, ask.1 = .increase

/-- `Kept acts r`: a registry holds just the meters that acts created, of which no two occupy one
name, and of no other was anything asked. -/
structure Kept (acts : List Act) (r : Registry) : Prop where
  distinct : Keyed.Distinct r
  made : ∀ name, (r.find? name).map (fun meter => (meter.kind, meter.labels)) = made? acts name
  apart : ∀ {name other : String} {meter another : Meter}, r.find? name = some meter →
    r.find? other = some another → ∀ taken ∈ occupied name meter.kind,
      taken ∈ occupied other another.kind → name = other
  keeps : ∀ {name : String} {meter : Meter}, r.find? name = some meter → Keeps acts name meter
  idle : ∀ {name : String}, r.find? name = none → ∀ labels, asked acts name labels = []

theorem kept_nil : Kept [] [] where
  distinct := List.Pairwise.nil
  made _ := rfl
  apart found := by cases found
  keeps found := by cases found
  idle _ _ := rfl

section Steps

variable {acts : List Act} {r after : Registry} {name : String}

/-- An act that asks nothing of a meter, and does not create it anew, leaves what is kept of it. -/
theorem Keeps.unasked {act : Act} {meter : Meter} (keeps : Keeps acts name meter)
    (made : made? (acts ++ [act]) name = made? acts name)
    (nothing : ∀ labels, act.asked? name labels = none) : Keeps (acts ++ [act]) name meter := by
  have same : ∀ labels, asked (acts ++ [act]) name labels = asked acts name labels :=
    fun labels => asked_concat_of_none (nothing labels)
  refine ⟨keeps.narrow, keeps.distinct, keeps.shape, fun values shape => ?_,
    fun values shape used => ?_, fun labels => ?_, fun counter labels => ?_⟩
  · rw [same]
    exact keeps.stands values shape
  · unfold InUse at used
    rw [same, made] at used
    exact keeps.present values shape used
  · rw [same]
    exact keeps.takes labels
  · rw [same]
    exact keeps.increases counter labels

theorem keeps_newMeter {kind : MeterKind} {labelNames : List String}
    (narrow : labelNames.length ≤ 1) (made : made? acts name = some (kind, labelNames))
    (idle : ∀ labels, asked acts name labels = []) :
    Keeps acts name (newMeter kind labelNames) := by
  refine ⟨narrow, ?_, ?_, fun values shape => ?_, fun values shape used => ?_,
    fun labels used => absurd (idle labels) used, fun _ labels ask member => ?_⟩
  · cases labelNames
    · exact List.pairwise_singleton _ _
    · exact List.Pairwise.nil
  · cases labelNames
    · exact List.forall_mem_singleton.mpr rfl
    · exact List.forall_mem_nil _
  · rw [idle]
    cases labelNames with
    | nil =>
      cases List.length_eq_zero_iff.mp shape
      rfl
    | cons label rest => rfl
  · rcases used with ⟨-, other, unlabelled⟩ | ⟨used⟩
    · rw [made] at unlabelled
      cases unlabelled
      cases List.length_eq_zero_iff.mp shape
      rfl
    · exact absurd (idle _) used
  · rw [idle] at member
    cases member

/-- A meter that is added under names that no other meter occupies leaves no two that occupy one
name. -/
theorem Kept.apart_set {meter first second : Meter} {one other : String} (kept : Kept acts r)
    (free : r.clashes name meter.kind = []) (found : (r.set name meter).find? one = some first)
    (another : (r.set name meter).find? other = some second) {taken : String}
    (own : taken ∈ occupied one first.kind) (theirs : taken ∈ occupied other second.kind) :
    one = other := by
  have others : ∀ {known : String} {old : Meter}, r.find? known = some old →
      taken ∈ occupied name meter.kind → taken ∉ occupied known old.kind :=
    fun found here => clashes_eq_nil_iff.mp free taken here _ (Keyed.mem_of_find? found)
  rcases Keyed.find?_set_eq_some_iff.mp found with ⟨rfl, rfl⟩ | ⟨-, old⟩ <;>
    rcases Keyed.find?_set_eq_some_iff.mp another with ⟨rfl, rfl⟩ | ⟨-, known⟩
  · rfl
  · exact absurd theirs (others known own)
  · exact absurd own (others old theirs)
  · exact kept.apart old known taken own theirs

/-- A creation that goes well keeps what is there, and a new meter has nothing asked of it. -/
theorem Kept.create {kind : MeterKind} {labelNames : List String} (kept : Kept acts r)
    (narrow : labelNames.length ≤ 1) (went : r.create name kind labelNames = .ok after) :
    Kept (acts ++ [.create name kind labelNames]) after := by
  have asks : ∀ other labels, asked (acts ++ [.create name kind labelNames]) other labels =
      asked acts other labels := fun _ _ => asked_concat_of_none rfl
  rcases create_cases went with ⟨known, rfl⟩ | ⟨new, free, rfl⟩
  · have same : ∀ other,
        made? (acts ++ [.create name kind labelNames]) other = made? acts other := by
      intro other
      by_cases here : other = name
      · subst here
        obtain ⟨meter, found⟩ := Option.isSome_iff_exists.mp known
        rw [made?_concat, ← kept.made other, found]
        rfl
      · exact made?_create_ne here _ _
    exact ⟨kept.distinct, fun other => (kept.made other).trans (same other).symm, kept.apart,
      fun {other _} found => (kept.keeps found).unasked (same other) fun _ => rfl,
      fun {other} none labels => (asks other labels).trans (kept.idle none labels)⟩
  · have made : made? (acts ++ [.create name kind labelNames]) name = some (kind, labelNames) := by
      rw [made?_concat, ← kept.made name, new]
      exact if_pos rfl
    refine ⟨Keyed.distinct_set kept.distinct _ _, fun other => ?_,
      fun found another taken => kept.apart_set free found another, ?_, ?_⟩
    · by_cases here : other = name
      · subst here
        rw [Keyed.find?_set_self, made]
        rfl
      · rw [Keyed.find?_set_ne _ _ (Ne.symm here), made?_create_ne here]
        exact kept.made other
    · intro other meter found
      rcases Keyed.find?_set_eq_some_iff.mp found with ⟨rfl, rfl⟩ | ⟨apart, found⟩
      · exact keeps_newMeter narrow made fun labels =>
          (asks _ labels).trans (kept.idle new labels)
      · exact (kept.keeps found).unasked (made?_create_ne apart _ _) fun _ => rfl
    · intro other none labels
      rw [asks other labels]
      by_cases here : other = name
      · exact here ▸ kept.idle new labels
      · exact kept.idle ((Keyed.find?_set_ne _ _ (Ne.symm here)).symm.trans none) labels

/-- What a meter that is asked for something keeps. -/
theorem Keeps.asked {given : Keyed String Json} {verb : Verb} {amount : Json} {meter : Meter}
    {values : List String} {n : Number} (keeps : Keeps acts name meter)
    (named : labelValues name meter given = .ok values) (counted : amount.number? = some n)
    (counter : meter.kind = .counter → verb = .increase) :
    Keeps (acts ++ [.use name given verb amount]) name { meter with
      samples := meter.samples.set values (Verb.applied (meter.current values) (verb, n)) } := by
  obtain ⟨shape, texts⟩ := labelValues_eq_ok keeps.narrow named
  -- the act asks something of these label values and of no others
  have here : (Act.use name given verb amount).asked? name (meter.labels.zip values) =
      some (verb, n) := by
    simp [Act.asked?, texts, counted]
  have others : ∀ labels, labels ≠ meter.labels.zip values →
      (Act.use name given verb amount).asked? name labels = none := by
    intro labels apart
    exact if_neg fun same => apart (same.2.symm.trans texts)
  refine ⟨keeps.narrow, Keyed.distinct_set keeps.distinct _ _, fun entry member => ?_,
    fun another length => ?_, fun another length used => ?_, fun labels some => ?_,
    fun counts labels ask member => ?_⟩
  · rcases Keyed.key_of_mem_set member with new | ⟨old, present, same⟩
    · exact new ▸ shape
    · exact same ▸ keeps.shape old present
  · by_cases same : another = values
    · subst same
      rw [asked_concat, here, Option.toList_some, settled, List.foldl_append]
      simp only [Meter.current, Keyed.find?_set_self, Option.getD_some]
      rw [← settled, ← keeps.stands another length]
      rfl
    · have apart : meter.labels.zip another ≠ meter.labels.zip values :=
        fun equal => same (zip_injective length shape equal)
      rw [asked_concat_of_none (others _ apart), ← keeps.stands another length]
      simp only [Meter.current, Keyed.find?_set_ne _ _ (Ne.symm same)]
  · by_cases same : another = values
    · subst same
      rw [Keyed.find?_set_self]
      rfl
    · have apart : meter.labels.zip another ≠ meter.labels.zip values :=
        fun equal => same (zip_injective length shape equal)
      rw [Keyed.find?_set_ne _ _ (Ne.symm same)]
      unfold InUse at used
      rw [made?_use, asked_concat_of_none (others _ apart)] at used
      exact keeps.present another length used
  · by_cases same : labels = meter.labels.zip values
    · exact ⟨values, shape, same⟩
    · rw [asked_concat_of_none (others _ same)] at some
      exact keeps.takes labels some
  · rw [asked_concat, List.mem_append] at member
    rcases member with earlier | now
    · exact keeps.increases counts labels ask earlier
    · by_cases same : labels = meter.labels.zip values
      · subst same
        rw [here, Option.toList_some, List.mem_singleton] at now
        exact now ▸ counter counts
      · rw [others _ same] at now
        cases now

/-- A meter that changes and keeps its kind leaves no two that occupy one name. -/
theorem Kept.apart_replace {meter changed first second : Meter} {one other : String}
    (kept : Kept acts r) (known : r.find? name = some meter)
    (found : (r.set name changed).find? one = some first)
    (another : (r.set name changed).find? other = some second)
    (kind : meter.kind = changed.kind) {taken : String}
    (own : taken ∈ occupied one first.kind) (theirs : taken ∈ occupied other second.kind) :
    one = other := by
  have before : ∀ {key : String} {now : Meter}, (r.set name changed).find? key = some now →
      ∃ old, r.find? key = some old ∧ old.kind = now.kind := by
    intro key now found
    rcases Keyed.find?_set_eq_some_iff.mp found with ⟨rfl, rfl⟩ | ⟨-, found⟩
    · exact ⟨meter, known, kind⟩
    · exact ⟨now, found, rfl⟩
  obtain ⟨old, earlier, same⟩ := before found
  obtain ⟨rest, later, alike⟩ := before another
  exact kept.apart earlier later taken (same ▸ own) (alike ▸ theirs)

/-- A use that goes well keeps what is there, with what it asks added to what was asked. -/
theorem Kept.use {given : Keyed String Json} {verb : Verb} {amount : Json} (kept : Kept acts r)
    (went : r.perform (.use name given verb amount) = .ok after) :
    Kept (acts ++ [.use name given verb amount]) after := by
  obtain ⟨meter, values, n, known, named, counted, counter, rfl⟩ := use_cases went
  refine ⟨Keyed.distinct_set kept.distinct _ _, fun other => ?_,
    fun found another taken => kept.apart_replace known found another rfl, ?_, ?_⟩
  · rw [made?_use]
    by_cases here : other = name
    · subst here
      rw [Keyed.find?_set_self, ← kept.made other, known]
      rfl
    · rw [Keyed.find?_set_ne _ _ (Ne.symm here)]
      exact kept.made other
  · intro other changed found
    rcases Keyed.find?_set_eq_some_iff.mp found with ⟨rfl, rfl⟩ | ⟨apart, found⟩
    · exact (kept.keeps known).asked named counted counter
    · exact (kept.keeps found).unasked (made?_use _ _ _ _ _ _) (asked?_use_ne apart _ _ _)
  · intro other none labels
    by_cases here : other = name
    · subst here
      rw [Keyed.find?_set_self] at none
      cases none
    · rw [asked_concat_of_none (asked?_use_ne here _ _ _ labels)]
      exact kept.idle ((Keyed.find?_set_ne _ _ (Ne.symm here)).symm.trans none) labels

end Steps

/-- After acts that all went well, of which none created a meter with more than one label name, the
registry holds what the acts left. -/
theorem kept_of_performed {acts : List Act} {r : Registry} (performed : Performed acts r)
    (narrow : Narrow acts) : Kept acts r := by
  induction acts using List.reverseRecOn generalizing r with
  | nil =>
    cases performed
    exact kept_nil
  | append_singleton acts act ih =>
    obtain ⟨before, earlier, last⟩ := performed_concat_iff.mp performed
    have kept := ih earlier narrow.before
    cases act with
    | create name kind labels =>
      exact kept.create (narrow name kind labels (by simp)) last
    | use name given verb amount => exact kept.use last

end FlightStream.Registry
