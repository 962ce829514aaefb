import Mathlib

/-! # Probing for a free place

`probe` walks from a place along `next` and returns the first place that is not
taken, giving up after `fuel` places.  When `fuel` steps of `next` reach every
place, giving up means that every place is taken, and the answer otherwise is
the first free place there is (`FirstFree`).

`Walk` is the same without a bound.  It ends where it finds a free place, and it
need not end.
-/

namespace ShapingRouter.Library

variable {α : Type}

/-- The first place at or after `a` that is not taken, among `fuel` places. -/
def probe (taken : α → Bool) (next : α → α) : Nat → α → Option α
  | 0, _ => none
  | fuel + 1, a => if taken a then probe taken next fuel (next a) else some a

/-- `b` is the first place from `a` on that is not taken. -/
def FirstFree (taken : α → Prop) (next : α → α) (a b : α) : Prop :=
  ¬ taken b ∧ ∃ i, next^[i] a = b ∧ ∀ j < i, taken (next^[j] a)

/-- `fuel` steps of `next` reach every place from everywhere. -/
def Covers (next : α → α) (fuel : Nat) : Prop := ∀ a b : α, ∃ i < fuel, next^[i] a = b

/-- The first free place is unique. -/
theorem FirstFree.unique {taken : α → Prop} {next : α → α} {a b c : α}
    (hb : FirstFree taken next a b) (hc : FirstFree taken next a c) : b = c := by
  obtain ⟨hbf, i, rfl, hi⟩ := hb
  obtain ⟨hcf, j, rfl, hj⟩ := hc
  rcases Nat.lt_trichotomy i j with hlt | rfl | hlt
  · exact absurd (hj i hlt) hbf
  · rfl
  · exact absurd (hi j hlt) hcf

/-- A place is the first free one from itself on iff it is free. -/
theorem FirstFree.self_iff {taken : α → Prop} {next : α → α} {a : α} :
    FirstFree taken next a a ↔ ¬ taken a := by
  constructor
  · intro h
    exact h.1
  · intro h
    exact ⟨h, 0, rfl, fun j hj => absurd hj (Nat.not_lt_zero j)⟩

variable {taken : α → Bool} {next : α → α}

theorem probe_eq_some {fuel : Nat} {a b : α} (h : probe taken next fuel a = some b) :
    FirstFree (taken · = true) next a b := by
  induction fuel generalizing a with
  | zero => cases h
  | succ fuel ih =>
    rw [probe] at h
    split at h
    · rename_i ha
      obtain ⟨hb, i, hi, hall⟩ := ih h
      refine ⟨hb, i + 1, hi, fun j hj => ?_⟩
      cases j with
      | zero => exact ha
      | succ j => exact hall j (by omega)
    · rename_i ha
      obtain rfl := Option.some.inj h
      exact ⟨ha, 0, rfl, fun j hj => absurd hj (Nat.not_lt_zero j)⟩

theorem probe_eq_none {fuel : Nat} {a : α} (h : probe taken next fuel a = none) :
    ∀ i < fuel, taken (next^[i] a) = true := by
  induction fuel generalizing a with
  | zero => intro i hi; omega
  | succ fuel ih =>
    intro i hi
    rw [probe] at h
    split at h
    · rename_i ha
      cases i with
      | zero => exact ha
      | succ i => exact ih h i (by omega)
    · cases h

/-- Probing gives up only when every place is taken. -/
theorem all_taken_of_probe_eq_none {fuel : Nat} (hcov : Covers next fuel) {a : α}
    (h : probe taken next fuel a = none) (b : α) : taken b = true := by
  obtain ⟨i, hi, rfl⟩ := hcov a b
  exact probe_eq_none h i hi

/-- **The walk finds the first free place**, whenever there is one. -/
theorem probe_iff {fuel : Nat} (hcov : Covers next fuel) {a b : α} :
    probe taken next fuel a = some b ↔ FirstFree (taken · = true) next a b := by
  refine ⟨probe_eq_some, fun hb => ?_⟩
  cases h : probe taken next fuel a with
  | none => exact absurd (all_taken_of_probe_eq_none hcov h b) hb.1
  | some c => rw [(probe_eq_some h).unique hb]

/-! ## Without a bound -/

variable (taken next) in
/-- The walk from one place ends at another: it goes on as long as the place it is at
is taken. -/
inductive Walk : α → α → Prop
  | exit {a : α} : taken a = false → Walk a a
  | again {a b : α} : taken a = true → Walk (next a) b → Walk a b

/-- Where a walk ends is the first free place. -/
theorem walk_iff {a b : α} :
    Walk taken next a b ↔ FirstFree (taken · = true) next a b := by
  constructor
  · intro h
    induction h with
    | exit ha => exact FirstFree.self_iff.mpr (by simp [ha])
    | again ha _ ih =>
      obtain ⟨hb, i, hi, hall⟩ := ih
      refine ⟨hb, i + 1, hi, fun j hj => ?_⟩
      cases j with
      | zero => exact ha
      | succ j => exact hall j (by omega)
  · rintro ⟨hb, i, hi, hall⟩
    induction i generalizing a with
    | zero =>
      obtain rfl := hi
      exact .exit (by simpa using hb)
    | succ i ih =>
      refine .again (hall 0 (by omega)) (ih hi fun j hj => ?_)
      exact hall (j + 1) (by omega)

/-- **A walk ends iff there is a free place.** -/
theorem walk_ends_iff {fuel : Nat} (hcov : Covers next fuel) {a : α} :
    (∃ b, Walk taken next a b) ↔ ∃ b, taken b = false := by
  constructor
  · rintro ⟨b, h⟩
    exact ⟨b, by simpa using (walk_iff.mp h).1⟩
  · rintro ⟨b, hb⟩
    cases h : probe taken next fuel a with
    | none =>
      rw [all_taken_of_probe_eq_none hcov h b] at hb
      cases hb
    | some c => exact ⟨c, walk_iff.mpr (probe_eq_some h)⟩

end ShapingRouter.Library
