import FlightStream.Number
import Mathlib.Algebra.Order.Field.Basic
import Mathlib.Algebra.Order.Ring.Rat
import Mathlib.Order.WithBot
import Mathlib.Tactic.Ring

/-!
The order of numbers. A number that is not NaN has a rank: a rational, or one of two ends.
`lt` and `le` compare ranks, so they are transitive and any two numbers with a rank compare;
a number without one is on no side of any other.
-/

namespace FlightStream.Number

/-! ## Ranks -/

/-- The rational that a whole number times a power of two stands for. -/
def scaled (m e : Int) : ℚ := m * 2 ^ e

/-- The rank of an exact value among the rationals with both ends. -/
def Exact.rank : Exact → WithBot (WithTop ℚ)
  | negInfinity => ⊥
  | finite m e => (scaled m e : WithTop ℚ)
  | infinity => ⊤

/-- The rank of a number; NaN has none. -/
def rank? (a : Number) : Option (WithBot (WithTop ℚ)) := a.toExact?.map Exact.rank

theorem two_pow_toNat_sub {e g : Int} (below : g ≤ e) :
    ((Nat.pow 2 (e - g).toNat : ℕ) : ℚ) * 2 ^ g = 2 ^ e := by
  have split : e = ((e - g).toNat : Int) + g := by omega
  conv_rhs => rw [split, zpow_add₀ (by norm_num), zpow_natCast]
  simp

/-- Scaled whole numbers compare as the rationals that they stand for. -/
theorem compareScaled_eq (m e n f : Int) :
    compareScaled m e n f = compare (scaled m e) (scaled n f) := by
  have unit : (0 : ℚ) < 2 ^ min e f := zpow_pos (by norm_num) _
  have left : (m * 2 ^ e : ℚ) = (m * Nat.pow 2 (e - min e f).toNat : Int) * 2 ^ min e f := by
    rw [← two_pow_toNat_sub (min_le_left e f)]
    push_cast
    ring
  have right : (n * 2 ^ f : ℚ) = (n * Nat.pow 2 (f - min e f).toNat : Int) * 2 ^ min e f := by
    rw [← two_pow_toNat_sub (min_le_right e f)]
    push_cast
    ring
  unfold compareScaled scaled
  rw [left, right]
  rcases lt_trichotomy (m * Nat.pow 2 (e - min e f).toNat : Int)
    (n * Nat.pow 2 (f - min e f).toNat) with below | same | above
  · rw [compare_lt_iff_lt.mpr below, eq_comm, compare_lt_iff_lt]
    exact mul_lt_mul_of_pos_right (by exact_mod_cast below) unit
  · rw [same]
    simp
  · rw [compare_gt_iff_gt.mpr above, eq_comm, compare_gt_iff_gt]
    exact mul_lt_mul_of_pos_right (by exact_mod_cast above) unit

theorem Exact.compare_eq_lt_iff {x y : Exact} : x.compare y = .lt ↔ x.rank < y.rank := by
  cases x <;> cases y <;> simp [Exact.compare, Exact.rank, compareScaled_eq, compare_lt_iff_lt]
  exact WithBot.coe_lt_coe.mpr (WithTop.coe_lt_top _)

theorem Exact.compare_eq_eq_iff {x y : Exact} : x.compare y = .eq ↔ x.rank = y.rank := by
  cases x <;> cases y <;> simp [Exact.compare, Exact.rank, compareScaled_eq]

/-! ## Comparison by rank -/

theorem lt_iff {a b : Number} :
    a.lt b = true ↔ ∃ x ∈ a.rank?, ∃ y ∈ b.rank?, x < y := by
  unfold lt compare? rank?
  cases a.toExact? with
  | none => simp
  | some x =>
    cases b.toExact? with
    | none => simp
    | some y => simp [Exact.compare_eq_lt_iff]

theorem le_iff {a b : Number} :
    a.le b = true ↔ ∃ x ∈ a.rank?, ∃ y ∈ b.rank?, x ≤ y := by
  unfold le compare? rank?
  cases a.toExact? with
  | none => simp
  | some x =>
    cases b.toExact? with
    | none => simp
    | some y =>
      have lt := Exact.compare_eq_lt_iff (x := x) (y := y)
      have eq := Exact.compare_eq_eq_iff (x := x) (y := y)
      simp only [Option.map_some, Option.mem_some_iff, exists_eq_left', le_iff_lt_or_eq]
      cases order : x.compare y <;> simp_all

theorem rank?_int (i : Int) : (int i).rank? = some (((i : ℚ) : WithTop ℚ) : WithBot (WithTop ℚ)) := by
  simp [rank?, toExact?, Exact.rank, scaled]

theorem rank?_negInfinity : negInfinity.rank? = some ⊥ := by
  have exact : negInfinity.toExact? = some .negInfinity := by decide
  simp [rank?, exact, Exact.rank]

theorem rank?_infinity : infinity.rank? = some ⊤ := by
  have exact : infinity.toExact? = some .infinity := by decide
  simp [rank?, exact, Exact.rank]

/-- The later of two numbers has the greater rank. -/
theorem rank?_later {a b : Number} {x y : WithBot (WithTop ℚ)} (ha : a.rank? = some x)
    (hb : b.rank? = some y) : (later a b).rank? = some (max x y) := by
  have below : a.lt b = true ↔ x < y := by simp [lt_iff, ha, hb]
  unfold later
  by_cases order : x < y
  · rw [if_pos (below.mpr order), hb, max_eq_right order.le]
  · rw [if_neg (mt below.mp order), ha, max_eq_left (not_lt.mp order)]

/-- The earlier of two numbers has the smaller rank. -/
theorem rank?_earlier {a b : Number} {x y : WithBot (WithTop ℚ)} (ha : a.rank? = some x)
    (hb : b.rank? = some y) : (earlier a b).rank? = some (min x y) := by
  have below : b.lt a = true ↔ y < x := by simp [lt_iff, ha, hb]
  unfold earlier
  by_cases order : y < x
  · rw [if_pos (below.mpr order), hb, min_eq_right order.le]
  · rw [if_neg (mt below.mp order), ha, min_eq_left (not_lt.mp order)]

theorem le_int_iff {a b : Int} : (int a).le (int b) = true ↔ a ≤ b := by
  simp only [le_iff, rank?_int, Option.mem_some_iff, exists_eq_left', WithBot.coe_le_coe,
    WithTop.coe_le_coe, Int.cast_le]

theorem negInfinity_lt_int (i : Int) : negInfinity.lt (int i) = true := by
  rw [lt_iff, rank?_negInfinity, rank?_int]
  exact ⟨_, rfl, _, rfl, WithBot.bot_lt_coe _⟩

theorem le_of_lt {a b : Number} (below : a.lt b = true) : a.le b = true := by
  obtain ⟨x, hx, y, hy, xy⟩ := lt_iff.mp below
  exact le_iff.mpr ⟨x, hx, y, hy, xy.le⟩

theorem lt_of_le_of_lt {a b c : Number} (ab : a.le b = true) (bc : b.lt c = true) :
    a.lt c = true := by
  obtain ⟨x, hx, y, hy, xy⟩ := le_iff.mp ab
  obtain ⟨y', hy', z, hz, yz⟩ := lt_iff.mp bc
  cases Option.mem_unique hy hy'
  exact lt_iff.mpr ⟨x, hx, z, hz, xy.trans_lt yz⟩

theorem lt_of_lt_of_le {a b c : Number} (ab : a.lt b = true) (bc : b.le c = true) :
    a.lt c = true := by
  obtain ⟨x, hx, y, hy, xy⟩ := lt_iff.mp ab
  obtain ⟨y', hy', z, hz, yz⟩ := le_iff.mp bc
  cases Option.mem_unique hy hy'
  exact lt_iff.mpr ⟨x, hx, z, hz, xy.trans_le yz⟩

theorem lt_trans {a b c : Number} (ab : a.lt b = true) (bc : b.lt c = true) : a.lt c = true :=
  lt_of_lt_of_le ab (le_of_lt bc)

theorem le_trans {a b c : Number} (ab : a.le b = true) (bc : b.le c = true) : a.le c = true := by
  obtain ⟨x, hx, y, hy, xy⟩ := le_iff.mp ab
  obtain ⟨y', hy', z, hz, yz⟩ := le_iff.mp bc
  cases Option.mem_unique hy hy'
  exact le_iff.mpr ⟨x, hx, z, hz, xy.trans yz⟩

theorem not_le_of_lt {a b : Number} (below : a.lt b = true) : b.le a = false := by
  obtain ⟨x, hx, y, hy, xy⟩ := lt_iff.mp below
  rw [← Bool.not_eq_true, le_iff]
  rintro ⟨y', hy', x', hx', yx⟩
  cases Option.mem_unique hx hx'
  cases Option.mem_unique hy hy'
  exact absurd yx (not_le.mpr xy)

theorem not_lt_of_lt {a b : Number} (below : a.lt b = true) : b.lt a = false := by
  rw [← Bool.not_eq_true]
  intro above
  have := not_le_of_lt below
  rw [le_of_lt above] at this
  cases this

theorem lt_self (a : Number) : a.lt a = false := by
  rw [← Bool.not_eq_true]
  intro below
  rw [not_lt_of_lt below] at below
  cases below

/-! ## Numbers other than NaN -/

/-- Not NaN. -/
def Ranked (a : Number) : Prop := a.rank?.isSome

theorem ranked_int (i : Int) : (int i).Ranked := by simp [Ranked, rank?_int]

theorem ranked_negInfinity : negInfinity.Ranked := by simp [Ranked, rank?_negInfinity]

theorem ranked_of_lt {a b : Number} (below : a.lt b = true) : a.Ranked ∧ b.Ranked := by
  obtain ⟨x, hx, y, hy, -⟩ := lt_iff.mp below
  exact ⟨Option.isSome_of_mem hx, Option.isSome_of_mem hy⟩

theorem ranked_of_le {a b : Number} (below : a.le b = true) : a.Ranked ∧ b.Ranked := by
  obtain ⟨x, hx, y, hy, -⟩ := le_iff.mp below
  exact ⟨Option.isSome_of_mem hx, Option.isSome_of_mem hy⟩

theorem le_refl {a : Number} (ranked : a.Ranked) : a.le a = true := by
  obtain ⟨x, hx⟩ := Option.isSome_iff_exists.mp ranked
  exact le_iff.mpr ⟨x, hx, x, hx, le_rfl⟩

/-- Of two numbers other than NaN, the first is below the second unless the second is below it
or equal. -/
theorem lt_eq_not_le {a b : Number} (ha : a.Ranked) (hb : b.Ranked) : a.lt b = !b.le a := by
  obtain ⟨x, hx⟩ := Option.isSome_iff_exists.mp ha
  obtain ⟨y, hy⟩ := Option.isSome_iff_exists.mp hb
  rw [Bool.eq_iff_iff, Bool.not_eq_true', ← Bool.not_eq_true, lt_iff, le_iff]
  simp [hx, hy]

/-! ## The later of two numbers -/

theorem lt_negInfinity (a : Number) : a.lt negInfinity = false := by
  rw [← Bool.not_eq_true, lt_iff, rank?_negInfinity]
  rintro ⟨x, -, y, same, below⟩
  cases same
  exact not_lt_bot below

theorem le_later {a : Number} (ranked : a.Ranked) (next : Number) :
    a.le (a.later next) = true := by
  unfold later
  split
  · rename_i below
    exact le_of_lt below
  · exact le_refl ranked

theorem ranked_later {a : Number} (ranked : a.Ranked) (next : Number) : (a.later next).Ranked :=
  (ranked_of_le (le_later ranked next)).2

/-- Of three numbers the latest is the same whichever two are compared first. -/
theorem later_later {a b : Number} (ha : a.Ranked) (hb : b.Ranked) (c : Number) :
    later (later a b) c = later a (later b c) := by
  unfold later
  by_cases bc : b.lt c
  · rw [if_pos bc]
    by_cases ab : a.lt b
    · rw [if_pos ab, if_pos bc, if_pos (lt_trans ab bc)]
    · rw [if_neg ab]
  · rw [if_neg bc]
    by_cases ab : a.lt b
    · rw [if_pos ab, if_neg bc]
    · rw [if_neg ab, if_neg]
      intro ac
      rw [lt_eq_not_le ha hb, Bool.not_eq_true', Bool.not_eq_false] at ab
      exact bc (lt_of_le_of_lt ab ac)

theorem le_foldl_later {a : Number} (ranked : a.Ranked) (others : List Number) :
    a.le (others.foldl later a) = true := by
  induction others generalizing a with
  | nil => exact le_refl ranked
  | cons first rest ih => exact le_trans (le_later ranked first) (ih (ranked_later ranked first))

end FlightStream.Number
