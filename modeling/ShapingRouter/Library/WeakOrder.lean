import Mathlib

/-! # Boolean strict weak orders

What an ordered container asks of its comparison: a strict order in which "neither is
less" is an equivalence.  The orders here are Boolean functions, as a program computes
them.  A field's own order is one, and comparing a first part and then a second
(`lexLess`) or through a key (`Function.onFun`) gives one again, with the equivalence
that belongs to it.  A `KeyOrder` is one that tells any two different values apart.
-/

namespace ShapingRouter.Library

variable {α β : Type}

/-- Neither value is less than the other. -/
def Incomparable (less : α → α → Bool) (a b : α) : Prop :=
  less a b = false ∧ less b a = false

/-- `less` is a strict weak order. -/
structure WeakOrder (less : α → α → Bool) : Prop where
  irrefl : ∀ a, less a a = false
  trans : ∀ a b c, less a b = true → less b c = true → less a c = true
  incomparable_trans : ∀ a b c,
    Incomparable less a b → Incomparable less b c → Incomparable less a c

/-- `less` is a weak order under which no two values are equivalent. -/
structure KeyOrder (less : α → α → Bool) : Prop extends WeakOrder less where
  incomparable_iff : ∀ a b, Incomparable less a b ↔ a = b

/-- The order of a totally ordered field. -/
def fieldLess [LT α] [DecidableLT α] (a b : α) : Bool := decide (a < b)

/-- Pairs by their first part, and by their second where the first ones are equivalent. -/
def lexLess (less : α → α → Bool) (less' : β → β → Bool) (p q : α × β) : Bool :=
  less p.1 q.1 || (!less q.1 p.1 && less' p.2 q.2)

/-- No two values are each less than the other. -/
theorem WeakOrder.asymm {less : α → α → Bool} (h : WeakOrder less) {a b : α}
    (hab : less a b = true) : less b a = false := by
  by_contra hba
  have hba : less b a = true := by simpa using hba
  have haa : less a a = true := h.trans a b a hab hba
  rw [h.irrefl a] at haa
  cases haa

/-- A weak order is negatively transitive: what is less than another value is told
apart from it by every third one. -/
theorem WeakOrder.split {less : α → α → Bool} (h : WeakOrder less) {a c : α} (b : α)
    (hac : less a c = true) : less a b = true ∨ less b c = true := by
  by_contra hno
  push Not at hno
  have hab : less a b = false := by simpa using hno.1
  have hbc : less b c = false := by simpa using hno.2
  have hba : less b a = false := by
    by_contra hba
    exact hno.2 (h.trans b a c (by simpa using hba) hac)
  have hcb : less c b = false := by
    by_contra hcb
    exact hno.1 (h.trans a c b hac (by simpa using hcb))
  have hinc : Incomparable less a c := h.incomparable_trans a b c ⟨hab, hba⟩ ⟨hbc, hcb⟩
  rw [hinc.1] at hac
  cases hac

section Field
variable [LT α] [DecidableLT α] [LE α] [Std.IsLinearOrder α] [Std.LawfulOrderLT α]

theorem incomparable_fieldLess (a b : α) : Incomparable fieldLess a b ↔ a = b := by
  simp only [Incomparable, fieldLess, decide_eq_false_iff_not, Std.not_lt]
  constructor
  · rintro ⟨hba, hab⟩
    exact Std.IsPartialOrder.le_antisymm a b hab hba
  · rintro rfl
    exact ⟨Std.le_refl a, Std.le_refl a⟩

theorem KeyOrder.field : KeyOrder (@fieldLess α _ _) where
  irrefl a := by simp [fieldLess, Std.lt_irrefl]
  trans a b c hab hbc := by
    simp only [fieldLess, decide_eq_true_eq] at hab hbc ⊢
    exact Std.lt_trans hab hbc
  incomparable_trans a b c hab hbc := by
    rw [incomparable_fieldLess] at hab hbc ⊢
    exact hab.trans hbc
  incomparable_iff := incomparable_fieldLess

end Field

section Lex
variable {less : α → α → Bool} {less' : β → β → Bool}

/-- Pairs are equivalent when both their parts are. -/
theorem incomparable_lexLess (p q : α × β) :
    Incomparable (lexLess less less') p q ↔
      Incomparable less p.1 q.1 ∧ Incomparable less' p.2 q.2 := by
  simp only [Incomparable, lexLess, Bool.or_eq_false_iff, Bool.and_eq_false_iff,
    Bool.not_eq_false']
  constructor
  · rintro ⟨⟨hpq, hpq'⟩, hqp, hqp'⟩
    refine ⟨⟨hpq, hqp⟩, ?_, ?_⟩
    · rcases hpq' with hlt | hlt
      · rw [hqp] at hlt
        cases hlt
      · exact hlt
    · rcases hqp' with hlt | hlt
      · rw [hpq] at hlt
        cases hlt
      · exact hlt
  · rintro ⟨⟨hpq, hqp⟩, hpq', hqp'⟩
    exact ⟨⟨hpq, .inr hpq'⟩, hqp, .inr hqp'⟩

theorem lexLess_iff (p q : α × β) : lexLess less less' p q = true ↔
    less p.1 q.1 = true ∨ less q.1 p.1 = false ∧ less' p.2 q.2 = true := by
  simp [lexLess]

/-- Where the first part is a field, the second decides where the first ones are equal. -/
theorem lexLess_fieldLess_iff [LT α] [DecidableLT α] [LE α] [Std.IsLinearOrder α]
    [Std.LawfulOrderLT α] (p q : α × β) :
    lexLess fieldLess less' p q = true ↔
      p.1 < q.1 ∨ p.1 = q.1 ∧ less' p.2 q.2 = true := by
  rw [lexLess_iff]
  simp only [fieldLess, decide_eq_true_eq, decide_eq_false_iff_not, Std.not_lt]
  constructor
  · rintro (hlt | ⟨hle, hless⟩)
    · exact .inl hlt
    · rcases Std.le_iff_lt_or_eq.mp hle with hlt | heq
      · exact .inl hlt
      · exact .inr ⟨heq, hless⟩
  · rintro (hlt | ⟨heq, hless⟩)
    · exact .inl hlt
    · exact .inr ⟨Std.le_iff_lt_or_eq.mpr (.inr heq), hless⟩

/-- **Comparing part by part**: a weak order on pairs from one on each part. -/
theorem WeakOrder.lex (h : WeakOrder less) (h' : WeakOrder less') :
    WeakOrder (lexLess less less') where
  irrefl p := by simp [lexLess, h.irrefl, h'.irrefl]
  trans p q r hpq hqr := by
    rw [lexLess_iff] at hpq hqr ⊢
    rcases hpq with hpq | ⟨hqp, hpq⟩
    · -- the first parts decide: `q` cannot lie above `r`
      rcases h.split r.1 hpq with hpr | hrq
      · exact .inl hpr
      · rcases hqr with hqr | ⟨hrq', _⟩
        · exact .inl (h.trans _ _ _ hpq hqr)
        · rw [hrq'] at hrq
          cases hrq
    · rcases hqr with hqr | ⟨hrq, hqr⟩
      · rcases h.split p.1 hqr with hqp' | hpr
        · rw [hqp'] at hqp
          cases hqp
        · exact .inl hpr
      · refine .inr ⟨?_, h'.trans _ _ _ hpq hqr⟩
        by_contra hrp
        rcases h.split q.1 (by simpa using hrp : less r.1 p.1 = true) with hrq' | hqp'
        · rw [hrq'] at hrq
          cases hrq
        · rw [hqp'] at hqp
          cases hqp
  incomparable_trans p q r hpq hqr := by
    rw [incomparable_lexLess] at hpq hqr ⊢
    exact ⟨h.incomparable_trans _ _ _ hpq.1 hqr.1, h'.incomparable_trans _ _ _ hpq.2 hqr.2⟩

theorem KeyOrder.lex (h : KeyOrder less) (h' : KeyOrder less') :
    KeyOrder (lexLess less less') where
  toWeakOrder := h.toWeakOrder.lex h'.toWeakOrder
  incomparable_iff p q := by
    rw [incomparable_lexLess, h.incomparable_iff, h'.incomparable_iff, Prod.ext_iff]

/-- Values compared through a key. -/
theorem WeakOrder.onFun (h : WeakOrder less) (key : β → α) :
    WeakOrder (Function.onFun less key) where
  irrefl a := h.irrefl (key a)
  trans a b c := h.trans (key a) (key b) (key c)
  incomparable_trans a b c := h.incomparable_trans (key a) (key b) (key c)

end Lex
end ShapingRouter.Library
