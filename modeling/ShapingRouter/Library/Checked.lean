import Mathlib

/-! # Checked computations

A computation that trusts its inputs has a checked twin, which answers `none` as soon
as an access or a subtraction would leave its range.  `Checks m x P` says that `m` is
such a twin of `x`, and that it gets through just when `P` holds.  The rules follow the
computation: a check, a sequence, a choice.
-/

namespace ShapingRouter.Library

variable {α β : Type}

/-- `m` computes `x` if `P` holds, and stops if it does not. -/
structure Checks (m : Option α) (x : α) (P : Prop) : Prop where
  pass : P → m = some x
  fail : ¬P → m = none

/-- `a - b`, unless it wraps below zero. -/
def checkedSub (a b : Nat) : Option Nat := if b ≤ a then some (a - b) else none

/-- `n` elements from `i` on, unless there are not so many. -/
def checkedRange (l : List α) (i n : Nat) : Option (List α) :=
  if i + n ≤ l.length then some ((l.drop i).take n) else none

namespace Checks
variable {m : Option α} {x : α} {P Q : Prop}

theorem eq_some_iff (h : Checks m x P) : m = some x ↔ P := by
  constructor
  · intro hm
    by_contra hP
    rw [h.fail hP] at hm
    cases hm
  · exact h.pass

theorem eq_none_iff (h : Checks m x P) : m = none ↔ ¬P := by
  constructor
  · intro hm hP
    rw [h.pass hP] at hm
    cases hm
  · exact h.fail

theorem congr (h : Checks m x P) (hiff : P ↔ Q) : Checks m x Q :=
  ⟨fun hQ => h.pass (hiff.mpr hQ), fun hQ => h.fail fun hP => hQ (hiff.mp hP)⟩

/-- Nothing is checked. -/
theorem pure (x : α) : Checks (Pure.pure x) x True :=
  ⟨fun _ => rfl, fun h => absurd trivial h⟩

theorem sub (a b : Nat) : Checks (checkedSub a b) (a - b) (b ≤ a) := by
  constructor
  · exact fun h => if_pos h
  · exact fun h => if_neg h

theorem range (l : List α) (i n : Nat) :
    Checks (checkedRange l i n) ((l.drop i).take n) (i + n ≤ l.length) := by
  constructor
  · exact fun h => if_pos h
  · exact fun h => if_neg h

theorem getElem? (l : List α) (i : Nat) (d : α) : Checks l[i]? (l.getD i d) (i < l.length) := by
  constructor
  · intro h
    rw [List.getElem?_eq_getElem h, List.getD_eq_getElem l d h]
  · exact fun h => List.getElem?_eq_none (Nat.le_of_not_lt h)

/-- **A sequence** checks what its parts check, the second one where the first one gets
through. -/
theorem bind {f : α → Option β} {y : β} (h : Checks m x P) (hf : P → Checks (f x) y Q) :
    Checks (m >>= f) y (P ∧ Q) := by
  constructor
  · rintro ⟨hP, hQ⟩
    rw [h.pass hP]
    exact (hf hP).pass hQ
  · intro hPQ
    by_cases hP : P
    · rw [h.pass hP]
      exact (hf hP).fail fun hQ => hPQ ⟨hP, hQ⟩
    · rw [h.fail hP]
      rfl

theorem map {f : α → β} (h : Checks m x P) : Checks (m.map f) (f x) P := by
  constructor
  · intro hP
    rw [h.pass hP]
    rfl
  · intro hP
    rw [h.fail hP]
    rfl

/-- **A choice** checks what holds in the branch taken. -/
theorem ite {c : Prop} [Decidable c] {m' : Option α} {x' : α} (h : c → Checks m x P)
    (h' : ¬c → Checks m' x' P) : Checks (if c then m else m') (if c then x else x') P := by
  by_cases hc : c
  · rw [if_pos hc, if_pos hc]
    exact h hc
  · rw [if_neg hc, if_neg hc]
    exact h' hc

end Checks
end ShapingRouter.Library
