import Mathlib

/-! # Pipelines

The places of a pipeline stand in a row, and each holds a list, what came first at the
front.  Things go on from the front of one place to the end of the next one, so that the
whole pipeline, read from its far end, keeps its order (`line`).  A step that touches two
neighbouring places and neither adds nor reorders leaves a sublist of it
(`line_sublist`); what enters comes last (`line_enter`).

What comes into a place may come from several sources, of which one alone has something to
bring (`flatMap_of_alone`).
-/

namespace ShapingRouter.Library

variable {α β : Type}

/-- What the first `n` places hold, what is farthest along first. -/
def line (c : Nat → List α) : Nat → List α
  | 0 => []
  | n + 1 => c n ++ line c n

variable {c c' : Nat → List α} {n i : Nat}

theorem line_congr (h : ∀ j < n, c' j = c j) : line c' n = line c n := by
  induction n with
  | zero => rfl
  | succ n ih =>
    rw [line, line, h n (Nat.lt_succ_self n), ih fun j hj => h j (Nat.lt_succ_of_lt hj)]

/-- **A step inside the pipeline**: two neighbouring places change, and nothing else. -/
theorem line_sublist (hpair : (c' (i + 1) ++ c' i).Sublist (c (i + 1) ++ c i))
    (hother : ∀ j, j ≠ i → j ≠ i + 1 → c' j = c j) (hn : i + 1 < n) :
    (line c' n).Sublist (line c n) := by
  induction n with
  | zero => omega
  | succ n ih =>
    by_cases hlast : i + 1 = n
    · subst hlast
      have hbelow : line c' i = line c i := line_congr fun j hj => hother j (by omega) (by omega)
      rw [line, line, line, line, hbelow, ← List.append_assoc, ← List.append_assoc]
      exact hpair.append (List.Sublist.refl _)
    · rw [line, line, hother n (by omega) (by omega)]
      exact (List.Sublist.refl _).append (ih (by omega))

/-- What enters comes last. -/
theorem line_enter {x : List α} (hfirst : c' 0 = c 0 ++ x) (hother : ∀ j, j ≠ 0 → c' j = c j)
    (hn : 0 < n) : line c' n = line c n ++ x := by
  induction n with
  | zero => omega
  | succ n ih =>
    rw [line, line]
    by_cases hzero : n = 0
    · subst hzero
      simp [line, hfirst]
    · rw [hother n hzero, ih (Nat.pos_of_ne_zero hzero), List.append_assoc]

theorem mem_line {x : α} : x ∈ line c n ↔ ∃ i < n, x ∈ c i := by
  induction n with
  | zero => simp [line]
  | succ n ih =>
    rw [line, List.mem_append, ih]
    constructor
    · rintro (hx | ⟨i, hi, hx⟩)
      · exact ⟨n, Nat.lt_succ_self n, hx⟩
      · exact ⟨i, Nat.lt_succ_of_lt hi, hx⟩
    · rintro ⟨i, hi, hx⟩
      by_cases hin : i = n
      · subst hin
        exact Or.inl hx
      · exact Or.inr ⟨i, by omega, hx⟩

/-! ## Sources -/

section Sources
variable {g : β → List α} {l : List β} {b b' : β}

theorem flatMap_set_of_eq (hb : l[i]? = some b) (h : g b' = g b) :
    (l.set i b').flatMap g = l.flatMap g := by
  induction l generalizing i with
  | nil => rfl
  | cons x l ih =>
    cases i with
    | zero =>
      obtain rfl := Option.some.inj hb
      simp [h]
    | succ i => simp [ih (i := i) (by simpa using hb)]

/-- One source alone has something to bring. -/
theorem flatMap_of_alone (hb : l[i]? = some b)
    (halone : ∀ j x, j ≠ i → l[j]? = some x → g x = []) : l.flatMap g = g b := by
  induction l generalizing i with
  | nil => cases hb
  | cons x l ih =>
    cases i with
    | zero =>
      obtain rfl := Option.some.inj hb
      have hrest : l.flatMap g = [] := by
        refine List.flatMap_eq_nil_iff.mpr fun y hy => ?_
        obtain ⟨j, hj⟩ := List.mem_iff_getElem?.mp hy
        exact halone (j + 1) y (Nat.succ_ne_zero j) (by simpa using hj)
      rw [List.flatMap_cons, hrest, List.append_nil]
    | succ i =>
      have hx : g x = [] := halone 0 x (Nat.succ_ne_zero i).symm rfl
      rw [List.flatMap_cons, hx, List.nil_append]
      exact ih (by simpa using hb) fun j y hj hy =>
        halone (j + 1) y (by omega) (by simpa using hy)

theorem flatMap_set_of_alone (hb : l[i]? = some b)
    (halone : ∀ j x, j ≠ i → l[j]? = some x → g x = []) : (l.set i b').flatMap g = g b' := by
  have hlt := (List.getElem?_eq_some_iff.mp hb).1
  refine flatMap_of_alone (i := i) (by simp [hlt]) fun j x hj hx => halone j x hj ?_
  rwa [List.getElem?_set_ne (Ne.symm hj)] at hx

end Sources
end ShapingRouter.Library
