import Mathlib

/-! # Deadlines that a history of touches explains

A table keeps, for some keys, a value and a deadline.  Touching a key at time
`now` sets its deadline to `now + T`; when the clock reaches a deadline the key
drops out.  `Tracks` says that such a table is explained by a history of
touches: every deadline is some touch's time plus `T`, and every touch that is
less than `T` old still has its key in the table, with the touch's value.  So
what the table holds at a time is a question about the history alone
(`Tracks.holds_iff`).

Keys are compared by a relation `same`, which may ignore part of a key.
-/

namespace ShapingRouter.Library

variable {κ α : Type} {same : κ → κ → Prop}

/-- `D` holds, at time `now`, exactly what the touches `H s k v` (key `k`, value
`v`, at time `s`) leave behind when every touch lasts `T`. -/
structure Tracks (T now : Nat) (D : κ → Option (Nat × α)) (H : Nat → κ → α → Prop) : Prop where
  past : ∀ {s k v}, H s k v → s ≤ now
  sound : ∀ {k d v}, D k = some (d, v) → ∃ s, H s k v ∧ d = s + T
  complete : ∀ {s k v}, H s k v → now < s + T → ∃ d, D k = some (d, v) ∧ s + T ≤ d

namespace Tracks

variable {T now now' : Nat} {D D' : κ → Option (Nat × α)} {H H' : Nat → κ → α → Prop}

/-- The empty table is explained by no touches. -/
theorem empty : Tracks T now (fun _ : κ => none) (fun _ _ (_ : α) => False) :=
  ⟨False.elim, fun h => (Option.some_ne_none _ h.symm).elim, False.elim⟩

/-- **The clock moves on**: what is due by then drops out. -/
theorem expire (ht : Tracks T now D H) (hle : now ≤ now')
    (hD : ∀ k d v, D' k = some (d, v) ↔ D k = some (d, v) ∧ now' < d) :
    Tracks T now' D' H where
  past h := Nat.le_trans (ht.past h) hle
  sound h := ht.sound ((hD _ _ _).mp h).1
  complete h hlt := by
    obtain ⟨d, hd, hsd⟩ := ht.complete h (by omega)
    exact ⟨d, (hD _ _ _).mpr ⟨hd, by omega⟩, hsd⟩

/-- **A touch**: every key the same as `k` gets the deadline `now + T`.  A value
that is still held must be the one the touch carries. -/
theorem touch (ht : Tracks T now D H) {k : κ} {v : α}
    (hold : ∀ k' d v', same k k' → D k' = some (d, v') → v' = v)
    (hsame : ∀ k', same k k' → D' k' = some (now + T, v))
    (hother : ∀ k', ¬ same k k' → D' k' = D k')
    (hH : ∀ s k' v', H' s k' v' ↔ H s k' v' ∨ s = now ∧ same k k' ∧ v' = v) :
    Tracks T now D' H' where
  past h := by
    rcases (hH _ _ _).mp h with h | ⟨rfl, _⟩
    · exact ht.past h
    · exact Nat.le_refl _
  sound {k' d v'} h := by
    by_cases hk : same k k'
    · rw [hsame k' hk] at h
      obtain ⟨rfl, rfl⟩ := Prod.mk.inj (Option.some.inj h)
      exact ⟨now, (hH _ _ _).mpr (Or.inr ⟨rfl, hk, rfl⟩), rfl⟩
    · rw [hother k' hk] at h
      obtain ⟨s, hs, rfl⟩ := ht.sound h
      exact ⟨s, (hH _ _ _).mpr (Or.inl hs), rfl⟩
  complete {s k' v'} h hlt := by
    by_cases hk : same k k'
    · refine ⟨now + T, ?_⟩
      rcases (hH _ _ _).mp h with h | ⟨rfl, _, rfl⟩
      · obtain ⟨d, hd, _⟩ := ht.complete h hlt
        have hv := hold k' d v' hk hd
        subst hv
        exact ⟨hsame k' hk, by have := ht.past h; omega⟩
      · exact ⟨hsame k' hk, Nat.le_refl _⟩
    · rw [hother k' hk]
      rcases (hH _ _ _).mp h with h | ⟨_, hk', _⟩
      · exact ht.complete h hlt
      · exact absurd hk' hk

/-- A step that touches nothing. -/
theorem congr (ht : Tracks T now D H) (hD : ∀ k, D' k = D k)
    (hH : ∀ s k v, H' s k v ↔ H s k v) : Tracks T now D' H' where
  past h := ht.past ((hH _ _ _).mp h)
  sound h := by
    rw [hD] at h
    obtain ⟨s, hs, hd⟩ := ht.sound h
    exact ⟨s, (hH _ _ _).mpr hs, hd⟩
  complete h hlt := by
    rw [hD]
    exact ht.complete ((hH _ _ _).mp h) hlt

/-- **What the table holds, by its history.**  Once the due keys are gone, `k`
is held with value `v` iff some touch of `k` with `v` is less than `T` old. -/
theorem holds_iff (ht : Tracks T now D H) (hfresh : ∀ k d v, D k = some (d, v) → now < d)
    (k : κ) (v : α) : (∃ d, D k = some (d, v)) ↔ ∃ s, H s k v ∧ now < s + T := by
  constructor
  · rintro ⟨d, hd⟩
    obtain ⟨s, hs, rfl⟩ := ht.sound hd
    exact ⟨s, hs, hfresh _ _ _ hd⟩
  · rintro ⟨s, hs, hlt⟩
    obtain ⟨d, hd, _⟩ := ht.complete hs hlt
    exact ⟨d, hd⟩

end Tracks
end ShapingRouter.Library
