import Mathlib

/-! # Holdings

Things lie in places, each place holding a multiset of them; the places stand in a
list.  `holdings` is what they hold together.  Replacing, removing and adding a
place changes it by what that place held and holds, so that a conservation law of
the whole follows from one for each place.  When the whole holds a thing once,
exactly one place does (`exists_unique_place`).
-/

namespace ShapingRouter.Library

variable {π α : Type}

/-- A summand is replaced by another. -/
theorem sum_map_set {M : Type} [AddCommMonoid M] (f : π → M) {l : List π} {i : Nat} {x : π}
    (hx : l[i]? = some x) (y : π) : ((l.set i y).map f).sum + f x = (l.map f).sum + f y := by
  induction l generalizing i with
  | nil => cases hx
  | cons z l ih =>
    cases i with
    | zero =>
      obtain rfl := Option.some.inj hx
      rw [List.set_cons_zero, List.map_cons, List.map_cons, List.sum_cons, List.sum_cons]
      abel
    | succ i =>
      rw [List.set_cons_succ, List.map_cons, List.map_cons, List.sum_cons, List.sum_cons,
        add_assoc, add_assoc]
      rw [ih (by simpa using hx)]

/-- What the places `l` hold together, a place `x` holding `held x`. -/
def holdings (held : π → Multiset α) (l : List π) : Multiset α := (l.map held).sum

section Places
variable (held : π → Multiset α)

@[simp] theorem holdings_nil : holdings held [] = 0 := rfl

@[simp] theorem holdings_cons (x : π) (l : List π) :
    holdings held (x :: l) = held x + holdings held l := by
  simp [holdings]

@[simp] theorem holdings_append (l l' : List π) :
    holdings held (l ++ l') = holdings held l + holdings held l' := by
  simp [holdings]

variable {l : List π} {i : Nat} {x : π}

/-- A place is removed. -/
theorem holdings_eraseIdx (hx : l[i]? = some x) :
    holdings held (l.eraseIdx i) + held x = holdings held l := by
  induction l generalizing i with
  | nil => cases hx
  | cons y l ih =>
    cases i with
    | zero =>
      obtain rfl := Option.some.inj hx
      rw [List.eraseIdx_cons_zero, holdings_cons, add_comm]
    | succ i =>
      rw [List.eraseIdx_cons_succ, holdings_cons, holdings_cons, add_assoc]
      rw [ih (by simpa using hx)]

/-- A place is replaced by another. -/
theorem holdings_set (hx : l[i]? = some x) (y : π) :
    holdings held (l.set i y) + held x = holdings held l + held y :=
  sum_map_set held hx y

/-- What a place gains and loses, the whole gains and loses. -/
theorem holdings_set_balance (hx : l[i]? = some x) {y : π} {gone come : Multiset α}
    (h : held y + gone = held x + come) :
    holdings held (l.set i y) + gone = holdings held l + come := by
  have hset := holdings_set held hx y
  refine add_right_cancel (b := held x) ?_
  calc holdings held (l.set i y) + gone + held x
      = holdings held (l.set i y) + held x + gone := by abel
    _ = holdings held l + (held y + gone) := by rw [hset]; abel
    _ = holdings held l + (held x + come) := by rw [h]
    _ = holdings held l + come + held x := by abel

variable {held}

theorem mem_holdings {a : α} :
    a ∈ holdings held l ↔ ∃ (i : Nat) (x : π), l[i]? = some x ∧ a ∈ held x := by
  induction l with
  | nil => simp
  | cons y l ih =>
    rw [holdings_cons, Multiset.mem_add, ih]
    constructor
    · rintro (h | ⟨i, x, hx, h⟩)
      · exact ⟨0, y, rfl, h⟩
      · exact ⟨i + 1, x, by simpa using hx, h⟩
    · rintro ⟨i, x, hx, h⟩
      cases i with
      | zero =>
        obtain rfl := Option.some.inj hx
        exact Or.inl h
      | succ i => exact Or.inr ⟨i, x, by simpa using hx, h⟩

/-- What is held once at most is held in one place at most. -/
theorem place_unique [DecidableEq α] {a : α} (hcount : (holdings held l).count a ≤ 1) {j : Nat}
    {y : π} (hx : l[i]? = some x) (hax : a ∈ held x) (hy : l[j]? = some y) (hay : a ∈ held y) :
    j = i := by
  by_contra hji
  have hrest := congrArg (Multiset.count a) (holdings_eraseIdx held hx)
  rw [Multiset.count_add] at hrest
  have hmem : a ∈ holdings held (l.eraseIdx i) := by
    rw [mem_holdings]
    rcases Nat.lt_or_gt_of_ne hji with hlt | hgt
    · exact ⟨j, y, by rw [List.getElem?_eraseIdx_of_lt hlt, hy], hay⟩
    · refine ⟨j - 1, y, ?_, hay⟩
      rw [List.getElem?_eraseIdx_of_ge (by omega), Nat.sub_add_cancel (by omega), hy]
  have hother := Multiset.count_pos.mpr hmem
  have hhere := Multiset.count_pos.mpr hax
  omega

/-- **Held once, held in one place**: what no two places hold, and no place twice,
lies in exactly one place. -/
theorem exists_unique_place (hnodup : (holdings held l).Nodup) {a : α}
    (ha : a ∈ holdings held l) : ∃! i : Nat, ∃ x, l[i]? = some x ∧ a ∈ held x := by
  classical
  obtain ⟨i, x, hx, hax⟩ := mem_holdings.mp ha
  refine ⟨i, ⟨x, hx, hax⟩, ?_⟩
  rintro j ⟨y, hy, hay⟩
  exact place_unique (Multiset.nodup_iff_count_le_one.mp hnodup a) hx hax hy hay

end Places
end ShapingRouter.Library
