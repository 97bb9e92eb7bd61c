/-!
Values under keys, in the order in which the keys first came. Setting a key that is already
there keeps its place and its spelling and replaces the value.
-/

namespace FlightStream

/-- Values under keys, in order of first arrival. -/
abbrev Keyed (κ ν : Type) := List (κ × ν)

namespace Keyed

variable {κ ν : Type} [BEq κ]

/-- The value under a key. -/
def find? (m : Keyed κ ν) (key : κ) : Option ν :=
  (List.find? (fun entry => entry.1 == key) m).map (·.2)

/-- Puts a value under a key: in the key's place if it is there, at the end if not. -/
def set (m : Keyed κ ν) (key : κ) (value : ν) : Keyed κ ν :=
  match m with
  | [] => [(key, value)]
  | (k, v) :: rest => if k == key then (k, value) :: rest else (k, v) :: set rest key value

/-- Pairs in order, a later value of a key replacing an earlier one. -/
def ofList (pairs : List (κ × ν)) : Keyed κ ν :=
  pairs.foldl (fun m pair => set m pair.1 pair.2) []

/-- The keys in order of first arrival. -/
def keys {κ ν : Type} (m : Keyed κ ν) : List κ := m.map (·.1)

/-- The values in order of their keys. -/
def values {κ ν : Type} (m : Keyed κ ν) : List ν := m.map (·.2)

theorem find?_set_self [LawfulBEq κ] (m : Keyed κ ν) (key : κ) (value : ν) :
    (m.set key value).find? key = some value := by
  induction m with
  | nil => simp [set, find?]
  | cons entry rest ih =>
    by_cases h : entry.1 = key
    · simp [set, find?, h]
    · simp only [set, find?, beq_iff_eq, h, if_false] at ih ⊢
      simpa [List.find?_cons, h] using ih

theorem find?_set_ne [LawfulBEq κ] (m : Keyed κ ν) {key other : κ} (value : ν)
    (distinct : key ≠ other) : (m.set key value).find? other = m.find? other := by
  induction m with
  | nil => simp [set, find?, distinct]
  | cons entry rest ih =>
    by_cases h : entry.1 = key
    · subst h
      simp [set, find?, distinct]
    · simp only [set, find?, beq_iff_eq, h, if_false] at ih ⊢
      by_cases g : entry.1 = other
      · simp [g]
      · simpa [List.find?_cons, g] using ih

end Keyed

end FlightStream
