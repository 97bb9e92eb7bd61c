import FlightStream.EventTime.SlidingWindow
import Mathlib.Data.Int.ModEq
import Mathlib.Algebra.Ring.Divisibility.Basic
import Mathlib.Data.Rat.Floor
import Mathlib.Tactic.Positivity
import Mathlib.Tactic.Ring
import Mathlib.Tactic.Linarith

/-!
Which windows cover a time. The walk back from the last start lists exactly the starts that
cover the time, `mem_startsFor`, in strictly ascending order, `startsFor_pairwise`, each a slide
after the one before, `startsFor_isChain`. How many they are depends on the time only if the slide
does not divide the size, and then on how far the time is from the last start,
`length_startsFor_eq`.
-/

namespace FlightStream.SlidingWindow

variable (w : SlidingWindow)

/-! ## The walk back -/

/-- The walk adds the starts that are whole slides before its own and still cover the time. -/
theorem mem_startsBackFrom {time start other : Int} {later : List Int} :
    other ∈ w.startsBackFrom time start later ↔
      other ∈ later ∨ ∃ steps : ℕ, other = start - steps * w.slide ∧ time < w.endOf other := by
  fun_induction w.startsBackFrom time start later with
  | case1 start later covers ih =>
    rw [ih, List.mem_cons]
    constructor
    · rintro ((rfl | old) | ⟨steps, rfl, inside⟩)
      · exact .inr ⟨0, by simp, covers⟩
      · exact .inl old
      · exact .inr ⟨steps + 1, by push_cast; ring, inside⟩
    · rintro (old | ⟨steps, rfl, inside⟩)
      · exact .inl (.inr old)
      · cases steps with
        | zero => exact .inl (.inl (by simp))
        | succ steps => exact .inr ⟨steps, by push_cast; ring, inside⟩
  | case2 start later short =>
    constructor
    · exact .inl
    · rintro (old | ⟨steps, rfl, inside⟩)
      · exact old
      · have back : 0 ≤ steps * w.slide := mul_nonneg (by positivity) w.slide_pos.le
        unfold endOf at short inside
        omega

/-- The walk keeps a list of later starts in ascending order. -/
theorem startsBackFrom_pairwise {time start : Int} {later : List Int}
    (ascending : later.Pairwise (· < ·)) (after : ∀ other ∈ later, start < other) :
    (w.startsBackFrom time start later).Pairwise (· < ·) := by
  have slide := w.slide_pos
  fun_induction w.startsBackFrom time start later with
  | case1 start later covers ih =>
    apply ih
    · exact List.pairwise_cons.mpr ⟨after, ascending⟩
    · intro other member
      rcases List.mem_cons.mp member with rfl | old
      · omega
      · have := after other old
        omega
  | case2 start later short => exact ascending

/-! ## The starts that cover a time -/

/-- The windows that cover a time are those whose start is a multiple of the slide, at or
before the time, and whose end is after it. -/
theorem mem_startsFor {time start : Int} :
    start ∈ w.startsFor time ↔ w.slide ∣ start ∧ start ≤ time ∧ time < w.endOf start := by
  have slide := w.slide_pos
  have rest := Int.emod_nonneg time slide.ne'
  have short := Int.emod_lt_of_pos time slide
  have aligned : w.slide ∣ w.lastStart time := Int.dvd_self_sub_emod
  rw [startsFor, mem_startsBackFrom]
  constructor
  · rintro (none | ⟨steps, rfl, inside⟩)
    · cases none
    · have back : 0 ≤ steps * w.slide := mul_nonneg (by positivity) slide.le
      exact ⟨dvd_sub aligned (dvd_mul_left _ _), by unfold lastStart; omega, inside⟩
  · rintro ⟨multiple, before, inside⟩
    obtain ⟨count, distance⟩ := dvd_sub aligned multiple
    have nonneg : 0 ≤ count := by
      by_contra negative
      have : w.slide * count ≤ w.slide * (-1) :=
        mul_le_mul_of_nonneg_left (by omega) slide.le
      unfold lastStart at distance
      omega
    obtain ⟨steps, rfl⟩ := Int.eq_ofNat_of_zero_le nonneg
    exact .inr ⟨steps, by linarith, inside⟩

/-- The starts of the windows that cover a time ascend, each once. -/
theorem startsFor_pairwise (time : Int) : (w.startsFor time).Pairwise (· < ·) :=
  w.startsBackFrom_pairwise .nil (by simp)

theorem startsFor_nodup (time : Int) : (w.startsFor time).Nodup :=
  (w.startsFor_pairwise time).imp fun below => below.ne

/-- The last start before a time is one of them, so every time is covered. -/
theorem lastStart_mem (time : Int) : w.lastStart time ∈ w.startsFor time := by
  have slide := w.slide_pos
  have fits := w.slide_le_size
  have rest := Int.emod_nonneg time slide.ne'
  have short := Int.emod_lt_of_pos time slide
  refine w.mem_startsFor.mpr ⟨Int.dvd_self_sub_emod, ?_, ?_⟩
  · unfold lastStart
    omega
  · unfold lastStart endOf
    omega

/-! ## How many starts cover a time -/

/-- The walk goes from start to start by one slide. -/
theorem startsBackFrom_isChain {time start : Int} {later : List Int}
    (even : (start :: later).IsChain fun a b => b = a + w.slide) :
    (w.startsBackFrom time start later).IsChain fun a b => b = a + w.slide := by
  fun_induction w.startsBackFrom time start later with
  | case1 start later covers ih =>
    apply ih
    rw [List.isChain_cons_cons]
    exact ⟨(sub_add_cancel start w.slide).symm, even⟩
  | case2 start later short => exact even.tail

/-- Each start is a slide after the one before. -/
theorem startsFor_isChain (time : Int) :
    (w.startsFor time).IsChain fun a b => b = a + w.slide :=
  w.startsBackFrom_isChain (.singleton _)

/-- The walk takes a step for each slide between the time and the end of the window it begins at. -/
theorem length_startsBackFrom (time start : Int) (later : List Int) :
    (w.startsBackFrom time start later).length =
      ((w.endOf start - 1 - time) / w.slide + 1).toNat + later.length := by
  have slide := w.slide_pos
  fun_induction w.startsBackFrom time start later with
  | case1 start later covers ih =>
    have step : (w.endOf (start - w.slide) - 1 - time) / w.slide =
        (w.endOf start - 1 - time) / w.slide - 1 := by
      have shifted : w.endOf (start - w.slide) - 1 - time =
          w.endOf start - 1 - time + -1 * w.slide := by
        unfold endOf
        ring
      rw [shifted, Int.add_mul_ediv_right _ _ slide.ne']
      rfl
    have covered : 0 ≤ (w.endOf start - 1 - time) / w.slide := Int.ediv_nonneg (by omega) slide.le
    rw [ih, step, List.length_cons]
    omega
  | case2 start later short =>
    have none : (w.endOf start - 1 - time) / w.slide < 0 :=
      Int.ediv_neg_of_neg_of_pos (by omega) slide
    omega

/-- A time is covered by one window for each slide from its last start to the end of that window. -/
theorem length_startsFor (time : Int) :
    ((w.startsFor time).length : Int) = (w.size - 1 - time % w.slide) / w.slide + 1 := by
  have short := Int.emod_lt_of_pos time w.slide_pos
  have covered : 0 ≤ (w.size - 1 - time % w.slide) / w.slide :=
    Int.ediv_nonneg (by have := w.slide_le_size; omega) w.slide_pos.le
  have distance : w.endOf (w.lastStart time) - 1 - time = w.size - 1 - time % w.slide := by
    unfold endOf lastStart
    ring
  rw [startsFor, length_startsBackFrom, distance, List.length_nil]
  omega

/-- As many windows cover a time as slides fit into the size, and one more if the time is less far
from the last start than what is then left of the size. -/
theorem length_startsFor_eq (time : Int) :
    ((w.startsFor time).length : Int) =
      w.size / w.slide + if time % w.slide < w.size % w.slide then 1 else 0 := by
  have slide := w.slide_pos
  have whole := Int.mul_ediv_add_emod w.size w.slide
  have rest := Int.emod_nonneg time slide.ne'
  have short := Int.emod_lt_of_pos time slide
  have left := Int.emod_lt_of_pos w.size slide
  have left' := Int.emod_nonneg w.size slide.ne'
  rw [length_startsFor]
  split
  · have split_ : w.size - 1 - time % w.slide =
        w.size % w.slide - 1 - time % w.slide + w.size / w.slide * w.slide := by
      linarith
    rw [split_, Int.add_mul_ediv_right _ _ slide.ne', Int.ediv_eq_zero_of_lt (by omega) (by omega)]
    ring
  · have split_ : w.size - 1 - time % w.slide =
        w.size % w.slide - 1 - time % w.slide + w.slide +
          (w.size / w.slide - 1) * w.slide := by
      linarith
    rw [split_, Int.add_mul_ediv_right _ _ slide.ne', Int.ediv_eq_zero_of_lt (by omega) (by omega)]
    ring

/-- The number of windows is the quotient of size and slide, rounded down for some times and up
for the others if it is not whole. -/
theorem length_startsFor_round (time : Int) :
    ((w.startsFor time).length : Int) = ⌊(w.size : ℚ) / w.slide⌋ ∨
      ((w.startsFor time).length : Int) = ⌈(w.size : ℚ) / w.slide⌉ := by
  obtain ⟨slide, same⟩ := Int.eq_ofNat_of_zero_le w.slide_pos.le
  have floor : ⌊(w.size : ℚ) / w.slide⌋ = w.size / w.slide := by
    rw [same, Int.cast_natCast, Rat.floor_intCast_div_natCast]
  have ceil : ⌈(w.size : ℚ) / w.slide⌉ = -(-w.size / w.slide) := by
    rw [same, Int.cast_natCast, Rat.ceil_intCast_div_natCast]
  rw [length_startsFor_eq, floor, ceil, Int.neg_ediv, Int.sign_eq_one_of_pos w.slide_pos]
  split
  · rename_i within
    right
    have uneven : ¬w.slide ∣ w.size := by
      intro even
      have := Int.emod_nonneg time w.slide_pos.ne'
      rw [Int.emod_eq_zero_of_dvd even] at within
      omega
    rw [if_neg uneven]
    ring
  · left
    ring

/-! ## Assignment -/

theorem define?_eq_ok_iff {size slide : Int} :
    define? size slide = .ok w ↔ w.size = size ∧ w.slide = slide := by
  obtain ⟨ownSize, ownSlide, positive, fits⟩ := w
  unfold define?
  constructor
  · intro defined
    split at defined
    · split at defined
      · cases defined
        exact ⟨rfl, rfl⟩
      · cases defined
    · cases defined
  · rintro ⟨rfl, rfl⟩
    rw [dif_pos ⟨positive.trans_le fits, positive⟩, dif_pos fits]

/-- The definition of windows is accepted if the slide is positive and no longer than the size.
Every time then is covered by exactly the windows that start at multiples of the slide, at or before
it, and end after it. They come in ascending order, a slide apart, there is always one, and their
number follows from the time's distance to the last start; so it is the quotient of size and slide,
rounded in either direction if it is not whole. -/
theorem startsFor_exact {size slide : Int} :
    ((∃ w, define? size slide = .ok w) ↔ 0 < slide ∧ slide ≤ size) ∧
      ∀ w, define? size slide = .ok w → ∀ time,
        (∀ start, start ∈ w.startsFor time ↔
          slide ∣ start ∧ start ≤ time ∧ time < start + size) ∧
        (w.startsFor time).Pairwise (· < ·) ∧
        ((w.startsFor time).IsChain fun a b => b = a + slide) ∧
        w.startsFor time ≠ [] ∧
        ((w.startsFor time).length : Int) = (size - 1 - time % slide) / slide + 1 ∧
        (slide ∣ size → ((w.startsFor time).length : Int) = size / slide) ∧
        (((w.startsFor time).length : Int) = ⌊(size : ℚ) / slide⌋ ∨
          ((w.startsFor time).length : Int) = ⌈(size : ℚ) / slide⌉) := by
  constructor
  · constructor
    · rintro ⟨w, defined⟩
      obtain ⟨rfl, rfl⟩ := w.define?_eq_ok_iff.mp defined
      exact ⟨w.slide_pos, w.slide_le_size⟩
    · rintro ⟨positive, fits⟩
      exact ⟨⟨size, slide, positive, fits⟩, (define?_eq_ok_iff _).mpr ⟨rfl, rfl⟩⟩
  · intro w defined time
    obtain ⟨rfl, rfl⟩ := w.define?_eq_ok_iff.mp defined
    refine ⟨fun _ => w.mem_startsFor, w.startsFor_pairwise time, w.startsFor_isChain time,
      List.ne_nil_of_mem (w.lastStart_mem time), w.length_startsFor time, fun even => ?_,
      w.length_startsFor_round time⟩
    have rest := Int.emod_nonneg time w.slide_pos.ne'
    rw [length_startsFor_eq, Int.emod_eq_zero_of_dvd even, if_neg rest.not_gt, add_zero]

/-- Windows two and a half slides long. -/
def uneven : SlidingWindow := ⟨50, 20, by decide, by decide⟩

/-- Before the zero a time may be covered by two of them, and after it by three. -/
theorem startsFor_uneven :
    define? 50 20 = .ok uneven ∧
      (∀ start, start ∈ uneven.startsFor (-1) ↔ 20 ∣ start ∧ start ≤ -1 ∧ -1 < start + 50) ∧
      (uneven.startsFor (-1)).length = 2 ∧ (uneven.startsFor 41).length = 3 := by
  have defined : define? 50 20 = .ok uneven := rfl
  obtain ⟨covering, -, -, -, two, -⟩ := startsFor_exact.2 uneven defined (-1)
  obtain ⟨-, -, -, -, three, -⟩ := startsFor_exact.2 uneven defined 41
  exact ⟨defined, covering, by omega, by omega⟩

end FlightStream.SlidingWindow
