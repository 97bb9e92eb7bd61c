import FlightStream.Keyed
import Mathlib.Data.List.Basic
import Mathlib.Data.List.Induction

/-!
Keyed values seen key by key. `pair?` finds the entry of a key, with the spelling under which
the key first came; setting a key changes the entries of its spellings and no others.
-/

namespace FlightStream.Keyed

variable {κ ν : Type} [BEq κ]

/-- The entry of a key: the key as it first came, and the value. -/
def pair? (m : Keyed κ ν) (key : κ) : Option (κ × ν) := List.find? (fun entry => entry.1 == key) m

/-- No two entries have the same key. -/
def Distinct (m : Keyed κ ν) : Prop := m.Pairwise fun a b => (a.1 == b.1) = false

@[simp] theorem pair?_nil (key : κ) : pair? ([] : Keyed κ ν) key = none := rfl

theorem set_ne_nil (m : Keyed κ ν) (key : κ) (value : ν) : m.set key value ≠ [] := by
  cases m with
  | nil => simp [set]
  | cons entry rest =>
    unfold set
    split <;> simp

/-- Setting a key adds no other key. -/
theorem key_of_mem_set {m : Keyed κ ν} {key : κ} {value : ν} {entry : κ × ν}
    (member : entry ∈ m.set key value) : entry.1 = key ∨ ∃ old ∈ m, old.1 = entry.1 := by
  induction m with
  | nil => exact .inl (by simp_all [set])
  | cons first rest ih =>
    obtain ⟨k, v⟩ := first
    unfold set at member
    split at member
    · rcases List.mem_cons.mp member with rfl | old
      · exact .inr ⟨_, List.mem_cons_self, rfl⟩
      · exact .inr ⟨_, List.mem_cons_of_mem _ old, rfl⟩
    · rcases List.mem_cons.mp member with rfl | later
      · exact .inr ⟨_, List.mem_cons_self, rfl⟩
      · rcases ih later with new | ⟨old, present, same⟩
        · exact .inl new
        · exact .inr ⟨old, List.mem_cons_of_mem _ present, same⟩

theorem distinct_set {m : Keyed κ ν} (distinct : m.Distinct) (key : κ) (value : ν) :
    (m.set key value).Distinct := by
  induction m with
  | nil => simp [set, Distinct]
  | cons entry rest ih =>
    obtain ⟨k, v⟩ := entry
    obtain ⟨apart, others⟩ := List.pairwise_cons.mp distinct
    by_cases here : k == key
    · simp only [set, here, if_true]
      exact List.pairwise_cons.mpr ⟨apart, others⟩
    · simp only [set, here, Bool.false_eq_true, if_false]
      refine List.pairwise_cons.mpr ⟨fun entry member => ?_, ih others⟩
      rcases key_of_mem_set member with new | ⟨old, present, same⟩
      · simpa [new] using here
      · simpa [same] using apart old present

variable [EquivBEq κ]

theorem pair?_congr (m : Keyed κ ν) {key other : κ} (same : (key == other) = true) :
    m.pair? key = m.pair? other := by
  unfold pair?
  congr 1
  funext entry
  exact BEq.congr_right same

/-- Setting a key gives its entry the new value and the first spelling, and leaves the entries
of other keys alone. -/
theorem pair?_set (m : Keyed κ ν) (key other : κ) (value : ν) :
    (m.set key value).pair? other =
      if key == other then some (((m.pair? key).map (·.1)).getD key, value)
      else m.pair? other := by
  induction m with
  | nil => by_cases same : key == other <;> simp [set, pair?, same]
  | cons entry rest ih =>
    obtain ⟨k, v⟩ := entry
    simp only [pair?] at ih
    by_cases here : k == key
    · have spelled : (k == other) = (key == other) := BEq.congr_left here
      by_cases same : key == other <;> simp [set, pair?, here, spelled, same]
    · simp only [set, pair?, here, Bool.false_eq_true, if_false, List.find?_cons]
      by_cases same : key == other
      · have apart : (k == other) = false := by
          rw [← BEq.congr_right same]
          simpa using here
        simp only [same, if_true, apart] at ih ⊢
        exact ih
      · simp only [same, Bool.false_eq_true, if_false] at ih ⊢
        rw [ih]

/-- Among distinct keys, the entries with a key are its one entry. -/
theorem filter_eq_pair? {m : Keyed κ ν} (distinct : m.Distinct) (key : κ) :
    m.filter (fun entry => entry.1 == key) = (m.pair? key).toList := by
  induction m with
  | nil => rfl
  | cons entry rest ih =>
    obtain ⟨apart, others⟩ := List.pairwise_cons.mp distinct
    by_cases here : entry.1 == key
    · have none : rest.filter (fun other => other.1 == key) = [] := by
        rw [List.filter_eq_nil_iff]
        intro other member same
        have := apart other member
        rw [BEq.trans here (BEq.symm same)] at this
        cases this
      simp [pair?, here, none]
    · simpa [pair?, here] using ih others

/-! ## Keys that equal only themselves -/

section Lawful

variable {κ ν : Type} [BEq κ] [LawfulBEq κ] {m : Keyed κ ν}

theorem mem_of_find? {key : κ} {value : ν} (found : m.find? key = some value) :
    (key, value) ∈ m := by
  obtain ⟨entry, present, rfl⟩ := Option.map_eq_some_iff.mp found
  have same : entry.1 = key := by simpa using List.find?_some present
  exact same ▸ List.mem_of_find?_eq_some present

theorem find?_of_mem (distinct : m.Distinct) {entry : κ × ν} (member : entry ∈ m) :
    m.find? entry.1 = some entry.2 := by
  have listed : entry ∈ m.filter fun other => other.1 == entry.1 := by simp [member]
  rw [filter_eq_pair? distinct, Option.mem_toList] at listed
  exact congrArg (Option.map Prod.snd) listed

/-- What is found after a value was set is that value, or was found before under another key. -/
theorem find?_set_eq_some_iff {key other : κ} {value found : ν} :
    (m.set key value).find? other = some found ↔
      other = key ∧ found = value ∨ other ≠ key ∧ m.find? other = some found := by
  by_cases same : other = key
  · subst same
    rw [find?_set_self]
    simp [eq_comm]
  · rw [find?_set_ne _ _ (Ne.symm same)]
    simp [same]

/-- Among distinct keys, the value that is found is in the one entry of its key. -/
theorem filter_eq_of_find? (distinct : m.Distinct) {key : κ} {value : ν}
    (found : m.find? key = some value) : m.filter (fun entry => entry.1 == key) = [(key, value)] := by
  obtain ⟨entry, present, rfl⟩ := Option.map_eq_some_iff.mp found
  have same : entry.1 = key := by simpa using List.find?_some present
  subst same
  rw [filter_eq_pair? distinct]
  exact congrArg Option.toList present

theorem nodup_keys (distinct : m.Distinct) : m.keys.Nodup :=
  List.pairwise_map.mpr (distinct.imp fun apart => beq_eq_false_iff_ne.mp apart)

end Lawful

/-! ## Values from pairs -/

section Pairs

variable {κ ν : Type} {pairs : List (κ × ν)} {pair : κ × ν} {key : κ} {value : ν}

/-- `Latest pairs key value`: of the pairs with a key, the last one has this value. -/
def Latest (pairs : List (κ × ν)) (key : κ) (value : ν) : Prop :=
  ∃ before after, pairs = before ++ (key, value) :: after ∧ ∀ later ∈ after, later.1 ≠ key

theorem Latest.mem (latest : Latest pairs key value) : (key, value) ∈ pairs := by
  obtain ⟨before, after, rfl, -⟩ := latest
  exact List.mem_append_right _ List.mem_cons_self

theorem latest_concat_iff :
    Latest (pairs ++ [pair]) key value ↔
      pair = (key, value) ∨ pair.1 ≠ key ∧ Latest pairs key value := by
  constructor
  · rintro ⟨before, after, split, apart⟩
    rcases List.eq_nil_or_concat after with rfl | ⟨rest, last, rfl⟩
    · exact .inl (List.head_eq_of_cons_eq (List.append_inj' split rfl).2)
    · rw [List.concat_eq_append, ← List.cons_append, ← List.append_assoc] at split
      obtain ⟨front, same⟩ := List.append_inj' split rfl
      cases same
      refine .inr ⟨apart _ (by simp), before, rest, front, fun later member => apart later ?_⟩
      simp [member]
  · rintro (rfl | ⟨other, before, after, rfl, apart⟩)
    · exact ⟨pairs, [], rfl, List.forall_mem_nil _⟩
    · refine ⟨before, after ++ [pair], by simp, fun later member => ?_⟩
      rcases List.mem_append.mp member with known | last
      · exact apart later known
      · exact List.mem_singleton.mp last ▸ other

variable [BEq κ]

theorem ofList_concat (pairs : List (κ × ν)) (pair : κ × ν) :
    ofList (pairs ++ [pair]) = (ofList pairs).set pair.1 pair.2 := by
  simp [ofList]

theorem distinct_ofList (pairs : List (κ × ν)) : (ofList pairs).Distinct := by
  induction pairs using List.reverseRecOn with
  | nil => exact List.Pairwise.nil
  | append_singleton pairs pair ih => exact ofList_concat pairs pair ▸ distinct_set ih _ _

variable [LawfulBEq κ]

/-- A key has the value of the last of its pairs. -/
theorem find?_ofList_iff :
    (ofList pairs).find? key = some value ↔ Latest pairs key value := by
  induction pairs using List.reverseRecOn with
  | nil => simp [ofList, find?, Latest]
  | append_singleton pairs pair ih =>
    rw [ofList_concat, latest_concat_iff]
    by_cases same : pair.1 = key
    · subst same
      simp [find?_set_self, Prod.ext_iff]
    · rw [find?_set_ne _ _ same, ih]
      simp [same, Prod.ext_iff]

theorem find?_ofList_eq_none_iff :
    (ofList pairs).find? key = none ↔ ∀ pair ∈ pairs, pair.1 ≠ key := by
  induction pairs using List.reverseRecOn with
  | nil => simp [ofList, find?]
  | append_singleton pairs pair ih =>
    rw [ofList_concat]
    by_cases same : pair.1 = key
    · subst same
      rw [find?_set_self]
      exact iff_of_false (by simp) fun others => others pair (by simp) rfl
    · rw [find?_set_ne _ _ same, ih]
      simp [same, or_imp, forall_and]

theorem mem_ofList_iff : (key, value) ∈ ofList pairs ↔ Latest pairs key value :=
  ⟨fun member => find?_ofList_iff.mp (find?_of_mem (distinct_ofList pairs) member),
    fun latest => mem_of_find? (find?_ofList_iff.mpr latest)⟩

end Pairs

end FlightStream.Keyed
