import Mathlib

/-! # Periodic schedules

A list of durations cuts a period into slots, one behind the other, and the period is
repeated.  `boundary` is where a slot begins, `cycleMod` the time since the period
began.  If the durations are positive, a time lies in at most one slot (`InSlot.unique`),
and to find the slot of a time it is enough to know some period and slot that the time
lies in (`inSlot_of_mem`).  Time may be any ordered field with integer parts.
-/

namespace ShapingRouter.Library

variable {τ : Type}

section Boundary
variable [Field τ] {durations : List τ}

/-- The sum of the first `i` durations: where slot `i` begins. -/
def boundary (durations : List τ) (i : Nat) : τ := (durations.take i).sum

@[simp] theorem boundary_zero : boundary durations 0 = 0 := rfl

theorem boundary_succ {i : Nat} {d : τ} (hi : durations[i]? = some d) :
    boundary durations (i + 1) = boundary durations i + d := by
  rw [boundary, boundary, List.take_add_one, hi, Option.toList_some, List.sum_append,
    List.sum_singleton]

end Boundary

variable [Field τ] [LinearOrder τ] {durations : List τ}

/-- The time since the period of length `T` began. -/
def cycleMod [FloorRing τ] (t T : τ) : τ := t - ⌊t / T⌋ * T

/-- `t`, a time since the period began, lies in slot `i`. -/
structure InSlot (durations : List τ) (t : τ) (i : Nat) : Prop where
  index : i < durations.length
  begins : boundary durations i ≤ t
  ends : t < boundary durations (i + 1)

variable [IsStrictOrderedRing τ]

section Positive
variable (hpos : ∀ d ∈ durations, 0 < d)
include hpos

/-- A slot begins no earlier than the ones before it. -/
theorem boundary_mono {i j : Nat} (hij : i ≤ j) : boundary durations i ≤ boundary durations j := by
  induction j with
  | zero =>
    obtain rfl : i = 0 := Nat.le_zero.mp hij
    exact le_rfl
  | succ j ih =>
    rcases Nat.le_succ_iff.mp hij with hle | rfl
    · cases hj : durations[j]? with
      | none =>
        rw [boundary, boundary, List.take_add_one, hj] at *
        simpa using ih hle
      | some d =>
        have hd : 0 < d := hpos d (List.mem_of_getElem? hj)
        rw [boundary_succ hj]
        exact (ih hle).trans (le_add_of_nonneg_right hd.le)
    · exact le_rfl

theorem boundary_nonneg (i : Nat) : 0 ≤ boundary durations i := by
  have hzero : boundary durations 0 = 0 := boundary_zero
  rw [← hzero]
  exact boundary_mono hpos (Nat.zero_le i)

/-- **The slot of a time is unique.** -/
theorem InSlot.unique {t : τ} {i j : Nat} (hi : InSlot durations t i)
    (hj : InSlot durations t j) : i = j := by
  rcases Nat.lt_trichotomy i j with hlt | heq | hgt
  · have hle := boundary_mono hpos (Nat.succ_le_of_lt hlt)
    exact absurd (hi.ends.trans_le hle) (not_lt.mpr hj.begins)
  · exact heq
  · have hle := boundary_mono hpos (Nat.succ_le_of_lt hgt)
    exact absurd (hj.ends.trans_le hle) (not_lt.mpr hi.begins)

end Positive

variable [FloorRing τ]

/-- In period number `k`. -/
theorem cycleMod_eq {t T : τ} (k : Int) (hlow : k * T ≤ t) (hhigh : t < k * T + T) :
    cycleMod t T = t - k * T := by
  have hT : 0 < T := by linarith
  have hfloor : ⌊t / T⌋ = k := by
    rw [Int.floor_eq_iff, le_div_iff₀ hT, div_lt_iff₀ hT, add_mul, one_mul]
    exact ⟨hlow, hhigh⟩
  rw [cycleMod, hfloor]

/-- **Finding the slot**: a time in slot `i` of period number `k`. -/
theorem inSlot_of_mem (hpos : ∀ d ∈ durations, 0 < d) {t : τ} (k : Int) {i : Nat}
    (hi : i < durations.length)
    (hlow : k * boundary durations durations.length + boundary durations i ≤ t)
    (hhigh : t < k * boundary durations durations.length + boundary durations (i + 1)) :
    InSlot durations (cycleMod t (boundary durations durations.length)) i := by
  have hbegin := boundary_nonneg hpos i
  have hend := boundary_mono hpos (Nat.succ_le_of_lt hi)
  rw [cycleMod_eq k (by linarith) (by linarith)]
  exact ⟨hi, by linarith, by linarith⟩

end ShapingRouter.Library
