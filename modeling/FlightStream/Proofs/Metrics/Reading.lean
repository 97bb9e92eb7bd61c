import FlightStream.Proofs.Metrics.History

/-!
Two ways to read a meter: its `value`, looked up under a name that is put together anew, and its
entry in the `overview`, which goes through all samples and leaves out names that end like times of
creation. Both find the sample of the meter, as no two meters occupy one name; they part where the
name of a counter ends with the ending of its samples, which is then not doubled, and where the name
of a gauge ends like a time of creation, `readings_agree`.
-/

namespace FlightStream.Registry

/-! ## Endings -/

/-- `Ends text ending`: a text has an ending. -/
def Ends (text ending : String) : Prop := ∃ stem, text = stem ++ ending

theorem isPrefixOf_reverse_iff {text ending : String} :
    ending.toList.reverse.isPrefixOf text.toList.reverse = true ↔ Ends text ending := by
  rw [List.isPrefixOf_iff_prefix, List.reverse_prefix]
  constructor
  · rintro ⟨stem, whole⟩
    exact ⟨String.ofList stem, String.toList_inj.mp (by simp [whole])⟩
  · rintro ⟨stem, rfl⟩
    exact ⟨stem.toList, String.toList_append.symm⟩

theorem dropEnding_append (stem ending : String) : dropEnding (stem ++ ending) ending = stem := by
  unfold dropEnding
  rw [if_pos (isPrefixOf_reverse_iff.mpr ⟨stem, rfl⟩)]
  refine String.toList_inj.mp ?_
  simp [← String.length_toList]

theorem dropEnding_of_not_ends {text ending : String} (other : ¬Ends text ending) :
    dropEnding text ending = text :=
  if_neg (mt isPrefixOf_reverse_iff.mp other)

/-- What is appended shows, unless it is empty. -/
theorem append_ne_self {stem ending : String} (some : ending ≠ "") : stem ++ ending ≠ stem := by
  intro same
  have lengths := congrArg String.length same
  rw [String.length_append] at lengths
  exact some (String.length_eq_zero_iff.mp (by omega))

theorem dropEnding_eq_self_iff {text ending : String} (some : ending ≠ "") :
    dropEnding text ending = text ↔ ¬Ends text ending := by
  refine ⟨fun same => ?_, dropEnding_of_not_ends⟩
  rintro ⟨stem, rfl⟩
  rw [dropEnding_append] at same
  exact append_ne_self some same.symm

theorem not_ends_created (stem : String) : ¬Ends (stem ++ totalEnding) createdEnding := by
  rintro ⟨other, same⟩
  have last := congrArg (fun text => text.toList.getLast?) same
  have total : totalEnding.toList.getLast? = some 'l' := by decide
  have created : createdEnding.toList.getLast? = some 'd' := by decide
  simp only [String.toList_append, List.getLast?_append, total, created, Option.some_or] at last
  exact absurd last (by decide)

/-! ## Names -/

variable {name : String} {kind : MeterKind}

/-- The samples of a counter are looked up under another name than their own. -/
def Misread (name : String) (kind : MeterKind) : Prop :=
  kind = .counter ∧ Ends (lead ++ name) totalEnding

/-- The samples of a gauge are taken for times of creation. -/
def Hidden (name : String) (kind : MeterKind) : Prop :=
  kind = .gauge ∧ Ends (lead ++ name) createdEnding

/-- The ending of the samples of a kind of meter. -/
def kindEnding : MeterKind → String
  | .counter => totalEnding
  | .gauge => ""

theorem sampleName_of_not_misread (read : ¬Misread name kind) :
    sampleName name kind = lead ++ name ++ kindEnding kind := by
  cases kind with
  | counter =>
    have whole := dropEnding_of_not_ends fun ends => read ⟨rfl, ends⟩
    exact congrArg (· ++ totalEnding) whole
  | gauge => exact String.append_empty.symm

theorem sampleName_of_misread (misread : Misread name kind) :
    sampleName name kind = lead ++ name := by
  obtain ⟨rfl, stem, whole⟩ := misread
  unfold sampleName familyName
  simp only
  rw [whole, dropEnding_append]

theorem sampleName_mem_occupied (name : String) (kind : MeterKind) :
    sampleName name kind ∈ occupied name kind := by
  cases kind <;> simp [sampleName, occupied]

/-- A sample is left out of the overview just if it is one of a gauge whose name ends like a time of
creation. -/
theorem shown_iff :
    dropEnding (sampleName name kind) createdEnding = sampleName name kind ↔ ¬Hidden name kind := by
  rw [dropEnding_eq_self_iff (by decide), not_iff_not]
  cases kind with
  | counter =>
    exact iff_of_false (not_ends_created _) fun hidden => by cases hidden.1
  | gauge => exact ⟨fun ends => ⟨rfl, ends⟩, fun hidden => hidden.2⟩

/-! ## Labels and keys -/

/-- Labels as they are asked for: by texts. -/
def asJson (labels : Keyed String String) : Keyed String Json :=
  labels.map fun label => (label.1, .text label.2)

theorem sameLabels_iff {present labels : Keyed String String} (narrow : present.length ≤ 1) :
    sameLabels present (asJson labels) = true ↔ present = labels := by
  match present, labels with
  | [], [] => simp [sameLabels, asJson]
  | [], _ :: _ => simp [sameLabels, asJson]
  | [_], [] => simp [sameLabels, asJson]
  | [(label, value)], [(other, text)] =>
    by_cases same : other = label
    · simp [sameLabels, asJson, Keyed.find?, same]
    · simp [sameLabels, asJson, Keyed.find?, same, Ne.symm same]
  | [_], _ :: _ :: _ => simp [sameLabels, asJson]
  | _ :: _ :: _, _ => simp at narrow

/-- A key is the name of the sample, after which there is nothing, or a brace. -/
theorem key_toList (s : Sample) :
    ∃ rest, s.key.toList = s.name.toList ++ rest ∧ (rest = [] ∨ rest.head? = some '\x7b') := by
  unfold Sample.key
  simp only
  split
  · exact ⟨[], (List.append_nil _).symm, .inl rfl⟩
  · rw [String.append_assoc, String.append_assoc, String.toList_append]
    exact ⟨_, rfl, .inr (by simp)⟩

/-- A key tells the name of the sample, where names have no braces. -/
theorem name_eq_of_key {s t : Sample} (first : '\x7b' ∉ s.name.toList)
    (second : '\x7b' ∉ t.name.toList) (same : s.key = t.key) : s.name = t.name := by
  have read : ∀ u : Sample, '\x7b' ∉ u.name.toList →
      u.key.toList.takeWhile (· != '\x7b') = u.name.toList := by
    intro u plain
    obtain ⟨rest, whole, brace⟩ := key_toList u
    have passes : ∀ c ∈ u.name.toList, (c != '\x7b') = true := by
      intro c member
      simpa using fun equal : c = '\x7b' => plain (equal ▸ member)
    rw [whole, List.takeWhile_append_of_pos passes]
    rcases brace with rfl | head
    · simp
    · cases rest with
      | nil => cases head
      | cons c later =>
        cases head
        simp
  refine String.toList_inj.mp ?_
  rw [← read s first, ← read t second, same]

/-- A brace in a name can pass for one that opens labels. -/
example (x y : Float) :
    (⟨"a\x7bk=v\x7d", [], x⟩ : Sample).key = (⟨"a", [("k", "v")], y⟩ : Sample).key := by
  cbv

theorem key_single (name label value : String) (x : Float) :
    (⟨name, [(label, value)], x⟩ : Sample).key =
      name ++ "\x7b" ++ (label ++ "=" ++ value) ++ "\x7d" := by
  unfold Sample.key Sample.sortedLabels
  simp only [List.mergeSort_singleton, List.map_cons, List.map_nil, String.intercalate_singleton]
  exact if_neg (by simp)

/-! ## Samples -/

section Samples

variable {acts : List Act} {r : Registry} {meter : Meter} {values : List String}

/-- The sample of a meter under label values. -/
def sampleOf (name : String) (meter : Meter) (values : List String) : Sample :=
  ⟨sampleName name meter.kind, meter.labels.zip values, meter.current values⟩

theorem mem_samples_iff {s : Sample} :
    s ∈ r.samples ↔ ∃ entry ∈ r, ∃ sample ∈ entry.2.samples,
      s = ⟨sampleName entry.1 entry.2.kind, entry.2.labels.zip sample.1, sample.2⟩ := by
  simp only [samples, List.mem_flatMap, List.mem_map, eq_comm]

theorem sampleOf_mem (found : r.find? name = some meter)
    (present : (meter.samples.find? values).isSome) : sampleOf name meter values ∈ r.samples := by
  obtain ⟨value, reads⟩ := Option.isSome_iff_exists.mp present
  refine mem_samples_iff.mpr ⟨_, Keyed.mem_of_find? found, _, Keyed.mem_of_find? reads, ?_⟩
  simp [sampleOf, Meter.current, reads]

/-- A name is occupied by one meter. -/
theorem Kept.occupant (kept : Kept acts r) (found : r.find? name = some meter)
    {entry : String × Meter} (member : entry ∈ r) {taken : String}
    (own : taken ∈ occupied name meter.kind) (theirs : taken ∈ occupied entry.1 entry.2.kind) :
    entry = (name, meter) := by
  have known : r.find? entry.1 = some entry.2 := Keyed.find?_of_mem kept.distinct member
  have same : name = entry.1 := kept.apart found known taken own theirs
  subst same
  rw [Option.some.inj (found.symm.trans known)]

/-- A sample is of the meter that occupies its name. -/
theorem Kept.eq_sampleOf (kept : Kept acts r) (found : r.find? name = some meter) {s : Sample}
    (listed : s ∈ r.samples) (named : s.name ∈ occupied name meter.kind) :
    ∃ values, values.length = meter.labels.length ∧ s = sampleOf name meter values := by
  obtain ⟨entry, member, ⟨values, value⟩, sample, rfl⟩ := mem_samples_iff.mp listed
  cases kept.occupant found member named (sampleName_mem_occupied _ _)
  have keeps := kept.keeps found
  have reads : meter.samples.find? values = some value := Keyed.find?_of_mem keeps.distinct sample
  exact ⟨values, keeps.shape _ sample, by simp [sampleOf, Meter.current, reads]⟩

/-- The samples of a meter have different keys. -/
theorem Keeps.key_injective (keeps : Keeps acts name meter) {others : List String}
    (first : values.length = meter.labels.length) (second : others.length = meter.labels.length)
    (same : (sampleOf name meter values).key = (sampleOf name meter others).key) :
    values = others := by
  have narrow := keeps.narrow
  unfold sampleOf at same
  match shape : meter.labels, values, others with
  | [], [], [] => rfl
  | [label], [one], [other] =>
    rw [shape] at same
    simp only [List.zip_cons_cons, List.zip_nil_right, key_single, String.append_left_inj,
      String.append_right_inj] at same
    rw [same]
  | [], _ :: _, _ => simp [shape] at first
  | [], _, _ :: _ => simp [shape] at second
  | [_], [], _ => simp [shape] at first
  | [_], _ :: _ :: _, _ => simp [shape] at first
  | [_], _, [] => simp [shape] at second
  | [_], _, _ :: _ :: _ => simp [shape] at second
  | _ :: _ :: _, _, _ => simp [shape] at narrow

/-- Under its name and labels, the sample of a meter is found. -/
theorem Kept.sample?_eq (kept : Kept acts r) (found : r.find? name = some meter)
    (length : values.length = meter.labels.length)
    (present : (meter.samples.find? values).isSome) :
    r.sample? (sampleName name meter.kind) (asJson (meter.labels.zip values)) =
      some (meter.current values) := by
  have short : ∀ others : List String, (meter.labels.zip others).length ≤ 1 := by
    intro others
    have narrow := (kept.keeps found).narrow
    rw [List.length_zip]
    omega
  have fits : ((sampleOf name meter values).name == sampleName name meter.kind &&
      sameLabels (sampleOf name meter values).labels
        (asJson (meter.labels.zip values))) = true := by
    simp [sampleOf, (sameLabels_iff (short values)).mpr]
  unfold sample? sampleValue?
  cases search : r.samples.find? _ with
  | none => exact absurd fits (List.find?_eq_none.mp search _ (sampleOf_mem found present))
  | some s =>
    have hit := List.find?_some search
    simp only [Bool.and_eq_true, beq_iff_eq] at hit
    obtain ⟨named, labelled⟩ := hit
    obtain ⟨others, shape, rfl⟩ := kept.eq_sampleOf found (List.mem_of_find?_eq_some search)
      (named ▸ sampleName_mem_occupied _ _)
    cases zip_injective shape length ((sameLabels_iff (short others)).mp labelled)
    rfl

/-! ## The value -/

theorem lookedUp_eq (found : r.find? name = some meter) :
    r.lookedUp name = lead ++ name ++ kindEnding meter.kind := by
  unfold lookedUp
  rw [found]
  cases kind : meter.kind <;> simp [kind, kindEnding]

/-- The value of a meter is that of its sample, where the sample is looked up under its name. -/
theorem Kept.value_eq (kept : Kept acts r) (found : r.find? name = some meter)
    (length : values.length = meter.labels.length)
    (present : (meter.samples.find? values).isSome) (read : ¬Misread name meter.kind) :
    r.value name (asJson (meter.labels.zip values)) = meter.current values := by
  unfold value
  rw [lookedUp_eq found, ← sampleName_of_not_misread read, kept.sample?_eq found length present]
  rfl

/-- A counter whose name ends with the ending of its samples is looked up under a name that only a
gauge can have. -/
theorem Kept.value_of_misread (kept : Kept acts r) (found : r.find? name = some meter)
    (misread : Misread name meter.kind) (free : r.find? (name ++ totalEnding) = none)
    (labels : Keyed String Json) : r.value name labels = 0 := by
  have own : lead ++ name ∈ occupied name meter.kind :=
    sampleName_of_misread misread ▸ sampleName_mem_occupied _ _
  have unused : ∀ s ∈ r.samples, s.name ≠ lead ++ name ++ totalEnding := by
    intro s listed named
    obtain ⟨⟨other, another⟩, member, _, -, rfl⟩ := mem_samples_iff.mp listed
    cases kind : another.kind with
    | counter =>
      -- its family would be named like the samples of the meter
      simp only [kind, sampleName, String.append_left_inj] at named
      have family : lead ++ name ∈ occupied other another.kind := by simp [kind, occupied, named]
      cases kept.occupant found member own family
      have samples := sampleName_of_misread misread
      simp only [kind, sampleName, named] at samples
      exact append_ne_self (by decide) samples
    | gauge =>
      simp only [kind, sampleName, familyName, String.append_assoc, String.append_right_inj] at named
      have known : r.find? other = some another := Keyed.find?_of_mem kept.distinct member
      rw [named, free] at known
      cases known
  have none : r.sample? (r.lookedUp name) labels = none := by
    rw [lookedUp_eq found, misread.1]
    unfold sample? sampleValue?
    rw [Option.map_eq_none_iff, List.find?_eq_none]
    intro s listed fits
    exact unused s listed (beq_iff_eq.mp (Bool.and_eq_true_iff.mp fits).1)
  unfold value
  rw [none]
  rfl

/-! ## The overview -/

/-- No sample of another name has the key of a sample. -/
def Unshared (r : Registry) (s : Sample) : Prop := ∀ t ∈ r.samples, t.key = s.key → t.name = s.name

theorem mem_entries_iff {samples : List Sample} {key : String} {value : Float} :
    (key, value) ∈ (samples.filter fun s => dropEnding s.name createdEnding == s.name).map
        (fun s => (s.key, s.value)) ↔
      ∃ s ∈ samples, dropEnding s.name createdEnding = s.name ∧ s.key = key ∧ s.value = value := by
  simp [and_assoc]

/-- The sample of a meter is the only one with its key, unless a sample of another name has it. -/
theorem Kept.eq_of_key (kept : Kept acts r) (found : r.find? name = some meter)
    (length : values.length = meter.labels.length)
    (unshared : r.Unshared (sampleOf name meter values)) {s : Sample} (listed : s ∈ r.samples)
    (same : s.key = (sampleOf name meter values).key) : s = sampleOf name meter values := by
  obtain ⟨others, shape, rfl⟩ := kept.eq_sampleOf found listed
    (unshared s listed same ▸ sampleName_mem_occupied _ _)
  rw [(kept.keeps found).key_injective shape length same]

/-- The overview has the value of a meter once, under the key of its sample. -/
theorem Kept.overview_shown (kept : Kept acts r) (found : r.find? name = some meter)
    (length : values.length = meter.labels.length)
    (present : (meter.samples.find? values).isSome)
    (unshared : r.Unshared (sampleOf name meter values)) (shown : ¬Hidden name meter.kind) :
    r.overview.filter (fun entry => entry.1 == (sampleOf name meter values).key) =
      [((sampleOf name meter values).key, meter.current values)] := by
  suffices entered : r.overview.find? (sampleOf name meter values).key =
      some (meter.current values) from Keyed.filter_eq_of_find? (Keyed.distinct_ofList _) entered
  cases read : r.overview.find? (sampleOf name meter values).key with
  | none =>
    have listed := mem_entries_iff.mpr
      ⟨_, sampleOf_mem found present, shown_iff.mpr shown, rfl, rfl⟩
    exact absurd rfl (Keyed.find?_ofList_eq_none_iff.mp read _ listed)
  | some value =>
    obtain ⟨s, listed, -, same, rfl⟩ := mem_entries_iff.mp (Keyed.find?_ofList_iff.mp read).mem
    rw [kept.eq_of_key found length unshared listed same]
    rfl

/-- The overview has no value of a meter whose name ends like a time of creation. -/
theorem Kept.overview_hidden (kept : Kept acts r) (found : r.find? name = some meter)
    (length : values.length = meter.labels.length)
    (unshared : r.Unshared (sampleOf name meter values)) (hidden : Hidden name meter.kind) :
    r.overview.filter (fun entry => entry.1 == (sampleOf name meter values).key) = [] := by
  rw [List.filter_eq_nil_iff]
  rintro ⟨key, value⟩ member same
  obtain ⟨s, listed, shown, rfl, rfl⟩ := mem_entries_iff.mp (Keyed.mem_ofList_iff.mp member).mem
  cases kept.eq_of_key found length unshared listed (beq_iff_eq.mp same)
  exact shown_iff.mp shown hidden

/-- Where the names of meters have no braces, no key is shared. -/
theorem Kept.unshared (kept : Kept acts r) (found : r.find? name = some meter)
    (plain : ∀ other, (made? acts other).isSome → '\x7b' ∉ other.toList) :
    r.Unshared (sampleOf name meter values) := by
  have braceless : ∀ {other : String} {another : Meter}, r.find? other = some another →
      '\x7b' ∉ (sampleName other another.kind).toList := by
    intro other another known
    have created : (made? acts other).isSome := by rw [← kept.made, known]; rfl
    have own := plain other created
    by_cases misread : Misread other another.kind
    · rw [sampleName_of_misread misread]
      simpa [lead] using own
    · rw [sampleName_of_not_misread misread]
      cases another.kind <;> simpa [lead, kindEnding, totalEnding] using own
  intro t listed same
  obtain ⟨⟨other, another⟩, member, _, -, rfl⟩ := mem_samples_iff.mp listed
  exact name_eq_of_key (braceless (Keyed.find?_of_mem kept.distinct member)) (braceless found) same

/-! ## Times of creation -/

variable {created : String → List String → Float}

/-- The sample that tells when a sample of a counter came into being. -/
def creation (created : String → List String → Float) (name : String) (meter : Meter)
    (values : List String) : List Sample :=
  match meter.kind with
  | .counter =>
    [⟨familyName name .counter ++ createdEnding, meter.labels.zip values, created name values⟩]
  | .gauge => []

/-- All samples, and beside each one of a counter the one that tells when it came into being. -/
def published (created : String → List String → Float) (r : Registry) : List Sample :=
  r.flatMap fun (name, meter) =>
    meter.samples.flatMap fun (values, value) =>
      ⟨sampleName name meter.kind, meter.labels.zip values, value⟩ ::
        creation created name meter values

theorem name_of_mem_creation {s : Sample} (listed : s ∈ creation created name meter values) :
    meter.kind = .counter ∧ s.name = familyName name .counter ++ createdEnding := by
  unfold creation at listed
  split at listed
  · rename_i kind
    cases List.mem_singleton.mp listed
    exact ⟨kind, rfl⟩
  · cases listed

/-- Times of creation are not seen by a test that none of them passes. -/
theorem published_filter {keep : Sample → Bool}
    (drops : ∀ entry ∈ r, ∀ values, ∀ s ∈ creation created entry.1 entry.2 values, ¬keep s) :
    (r.published created).filter keep = r.samples.filter keep := by
  unfold published samples
  rw [List.filter_flatMap, List.filter_flatMap]
  refine List.flatMap_congr fun ⟨name, meter⟩ member => ?_
  dsimp only
  rw [List.map_eq_flatMap, List.filter_flatMap, List.filter_flatMap]
  refine List.flatMap_congr fun ⟨values, value⟩ _ => ?_
  dsimp only
  rw [← List.singleton_append, List.filter_append,
    List.filter_eq_nil_iff.mpr (drops _ member values), List.append_nil]

/-- The overview leaves out the times of creation. -/
theorem valuesByKey_published : valuesByKey (r.published created) = r.overview := by
  unfold overview valuesByKey
  rw [published_filter]
  intro entry _ values s listed shown
  have named := (name_of_mem_creation listed).2
  have ending : Ends s.name createdEnding := ⟨_, named⟩
  exact (dropEnding_eq_self_iff (by decide)).mp (beq_iff_eq.mp shown) ending

/-- No time of creation is looked up in place of the value of a meter. -/
theorem Kept.sampleValue?_published (kept : Kept acts r) (found : r.find? name = some meter)
    (labels : Keyed String Json) :
    sampleValue? (r.published created) (r.lookedUp name) labels =
      r.sample? (r.lookedUp name) labels := by
  unfold sample? sampleValue?
  rw [← List.head?_filter, ← List.head?_filter, published_filter]
  intro entry member values s listed fits
  obtain ⟨counter, named⟩ := name_of_mem_creation listed
  have same : s.name = r.lookedUp name := beq_iff_eq.mp (Bool.and_eq_true_iff.mp fits).1
  rw [named, lookedUp_eq found] at same
  cases kind : meter.kind with
  | counter =>
    rw [kind] at same
    exact not_ends_created _ ⟨_, same.symm⟩
  | gauge =>
    rw [kind, kindEnding, String.append_empty] at same
    have own : lead ++ name ∈ occupied name meter.kind := by simp [kind, occupied, familyName]
    have theirs : lead ++ name ∈ occupied entry.1 entry.2.kind := by
      simp [counter, occupied, ← same]
    cases kept.occupant found member own theirs
    cases kind.symm.trans counter

/-! ## Both readers -/

/-- A label set in use is that of a sample, which stands at what was asked under it. -/
theorem Kept.exists_sample (kept : Kept acts r) {kind : MeterKind} {labelNames : List String}
    (made : made? acts name = some (kind, labelNames)) {labels : Keyed String String}
    (used : InUse acts name labels) :
    ∃ meter values, r.find? name = some meter ∧ meter.kind = kind ∧
      values.length = meter.labels.length ∧ labels = meter.labels.zip values ∧
      (meter.samples.find? values).isSome ∧ meter.current values = settled (asked acts name labels) := by
  obtain ⟨meter, found, same⟩ := Option.map_eq_some_iff.mp ((kept.made name).trans made)
  have keeps := kept.keeps found
  obtain ⟨values, length, rfl⟩ : ∃ values, values.length = meter.labels.length ∧
      labels = meter.labels.zip values := by
    rcases used with ⟨rfl, other, unlabelled⟩ | some
    · have none : meter.labels = [] :=
        congrArg Prod.snd (same.trans (Option.some.inj (made.symm.trans unlabelled)))
      exact ⟨[], by rw [none], by rw [none, List.zip_nil_left]⟩
    · exact keeps.takes labels some
  exact ⟨meter, values, found, congrArg Prod.fst same, length, rfl,
    keeps.present values length used, keeps.stands values length⟩

/-- Let acts go well from no meters on, of which none creates a meter with more than one label
name. Then both readers tell, for each meter that was created and each label set in use, what the
acts come to: for a counter the sum of its increases, and for a gauge the value that was set last.
The value does so except for counters whose names end with the ending of their samples; for these it
is zero, unless there is a meter under the name that is read instead. The overview does so, in one
entry, except for gauges whose names end like times of creation; these have no entry. An entry is
told by its key, which samples of two names share only if a name has a brace. Whenever the samples
that tell times of creation were made, neither reader takes one for the value of a meter. -/
theorem readings_agree (performed : Performed acts r) (narrow : Narrow acts) {kind : MeterKind}
    {labelNames : List String} (made : made? acts name = some (kind, labelNames))
    {labels : Keyed String String} (used : InUse acts name labels)
    (created : String → List String → Float) :
    let asks := asked acts name labels
    let sample : Sample := ⟨sampleName name kind, labels, settled asks⟩
    let entries := r.overview.filter fun entry => entry.1 == sample.key
    (kind = .counter → sample.value = (asks.map fun ask => nearest ask.2).foldl (· + ·) 0) ∧
    (∀ before n, asks = before ++ [(.assign, n)] → sample.value = nearest n) ∧
    (¬Misread name kind → r.value name (asJson labels) = sample.value) ∧
    (Misread name kind → made? acts (name ++ totalEnding) = none →
      r.value name (asJson labels) = 0) ∧
    (r.Unshared sample → ¬Hidden name kind → entries = [(sample.key, sample.value)]) ∧
    (r.Unshared sample → Hidden name kind → entries = []) ∧
    ((∀ other, (made? acts other).isSome → '\x7b' ∉ other.toList) → r.Unshared sample) ∧
    (sampleValue? (r.published created) (r.lookedUp name) (asJson labels)).getD 0 =
      r.value name (asJson labels) ∧
    valuesByKey (r.published created) = r.overview := by
  have kept := kept_of_performed performed narrow
  obtain ⟨meter, values, found, rfl, length, rfl, present, stands⟩ := kept.exists_sample made used
  intro asks sample entries
  have same : sample = sampleOf name meter values := by
    unfold sampleOf
    rw [stands]
  have entered : entries = r.overview.filter fun entry =>
      entry.1 == (sampleOf name meter values).key :=
    congrArg (fun s : Sample => r.overview.filter fun entry => entry.1 == s.key) same
  refine ⟨fun counter => ?_, ?_, ?_, fun misread free => ?_, fun unshared shown => ?_,
    fun unshared hidden => ?_, fun plain => ?_, ?_, valuesByKey_published⟩
  · exact settled_increases ((kept.keeps found).increases counter _)
  · exact fun before n last => (congrArg settled last).trans (settled_assigned before n)
  · exact fun read => (kept.value_eq found length present read).trans stands
  · refine kept.value_of_misread found misread ?_ _
    exact Option.map_eq_none_iff.mp ((kept.made _).trans free)
  · rw [same] at unshared
    rw [entered, same]
    exact kept.overview_shown found length present unshared shown
  · rw [same] at unshared
    exact entered.trans (kept.overview_hidden found length unshared hidden)
  · exact same ▸ kept.unshared found plain
  · rw [kept.sampleValue?_published found]
    rfl

/-- A counter with two samples, next to a gauge. -/
theorem readings_agree_labelled :
    let acts : List Act := [.create "late" .counter ["operator"],
      .use "late" [("operator", .text "A")] .increase (.number (.int 1)),
      .create "lag" .gauge [],
      .use "late" [("operator", .text "B")] .increase (.number (.int 2)),
      .use "late" [("operator", .text "A")] .increase (.number (.int 3))]
    ∃ r, Performed acts r ∧ r.value "late" [("operator", .text "A")] = 4 ∧
      r.overview.filter (fun entry => entry.1 == "flight_telemetry_late_total\x7boperator=A\x7d") =
        [("flight_telemetry_late_total\x7boperator=A\x7d", 4)] := by
  intro acts
  let r : Registry :=
    [("late", ⟨.counter, ["operator"], [(["A"], 4), (["B"], 2)]⟩), ("lag", ⟨.gauge, [], [([], 0)]⟩)]
  have performed : Performed acts r := rfl
  have narrow : Narrow acts := by
    intro name kind labels member
    simp only [acts, List.mem_cons, Act.create.injEq, reduceCtorEq, List.not_mem_nil, or_false,
      false_or] at member
    rcases member with ⟨-, -, rfl⟩ | ⟨-, -, rfl⟩ <;> decide
  have made : made? acts "late" = some (.counter, ["operator"]) := rfl
  have used : InUse acts "late" [("operator", "A")] := by
    refine .inr ?_
    simp [acts, asked, Act.asked?, asTexts, Json.number?, Json.bare]
  have plain : ∀ other, (made? acts other).isSome → '\x7b' ∉ other.toList := by
    intro other created
    have known : "late" = other ∨ "lag" = other := by
      simpa [acts, made?, Act.made?] using created
    rcases known with rfl | rfl <;> decide
  obtain ⟨-, -, value, -, entries, -, unshared, -, -⟩ :=
    readings_agree performed narrow made used fun _ _ => 0
  have read : ¬Misread "late" .counter := fun misread =>
    absurd (isPrefixOf_reverse_iff.mpr misread.2) (by decide)
  have figure : settled (asked acts "late" [("operator", "A")]) = 4 := rfl
  have key : (⟨sampleName "late" .counter, [("operator", "A")], 4⟩ : Sample).key =
      "flight_telemetry_late_total\x7boperator=A\x7d" := key_single _ _ _ _
  have entry := entries (unshared plain) fun hidden => by cases hidden.1
  rw [figure, key] at entry
  exact ⟨r, performed, (value read).trans figure, entry⟩

/-- Of a counter and a gauge whose names end like samples and times of creation, the one has an
entry and is read as zero, and the other is read and has no entry. -/
theorem endings_part_readers :
    let acts : List Act := [.create "x_total" .counter [],
      .use "x_total" [] .increase (.number (.int 1)),
      .create "y_created" .gauge [], .use "y_created" [] .assign (.number (.int 5))]
    ∃ r, Performed acts r ∧ settled (asked acts "x_total" []) = 1 ∧ r.value "x_total" [] ≠ 1 ∧
      settled (asked acts "y_created" []) = 5 ∧ r.value "y_created" [] = 5 ∧
      r.overview = [("flight_telemetry_x_total", 1)] := by
  let r : Registry :=
    [("x_total", ⟨.counter, [], [([], 1)]⟩), ("y_created", ⟨.gauge, [], [([], 5)]⟩)]
  refine ⟨r, rfl, rfl, ?_, rfl, rfl, ?_⟩
  · have zero : r.value "x_total" [] = 0 := rfl
    rw [zero]
    decide +kernel
  · have samples : r.samples =
        [⟨"flight_telemetry_x_total", [], 1⟩, ⟨"flight_telemetry_y_created", [], 5⟩] := rfl
    have shown : dropEnding "flight_telemetry_x_total" createdEnding =
        "flight_telemetry_x_total" := by decide +kernel
    have hidden : dropEnding "flight_telemetry_y_created" createdEnding =
        "flight_telemetry_y" := by decide +kernel
    simp [overview, samples, valuesByKey, shown, hidden, Sample.key, Sample.sortedLabels,
      Keyed.ofList, Keyed.set]

end Samples

end FlightStream.Registry
