import Mathlib
import ShapingRouter.ConnectionTuple
import ShapingRouter.Library.WeakOrder

/-! # The comparison operators of the tuples

`ConnectionTuple` defines all six operators over its five fields.  `SymNatTuple` and
`AddrrTuple` define `==` and `<` over four; these take another parameter type, so they
hide the inherited ones without overriding them.  The other four are inherited, and
their bodies call the `==` and `<` of `ConnectionTuple`, five fields again.

`operator>` returns `*this<ct`, the comparison the wrong way round, and `<=` is its
negation.
-/

namespace ShapingRouter
open Library Std

/-- What the six operators compute on two values of one static type. -/
structure Comparisons (α : Type) where
  eq : α → α → Bool
  less : α → α → Bool
  ne : α → α → Bool
  greater : α → α → Bool
  lessEq : α → α → Bool
  greaterEq : α → α → Bool

namespace Comparisons
variable {α : Type}

/-- `<` is a strict weak order, and its equivalence is `==`. -/
structure Ordered (c : Comparisons α) : Prop where
  weak : WeakOrder c.less
  equivalent : ∀ a b, Incomparable c.less a b ↔ c.eq a b = true

/-- The other four operators say on `a` and `b` what `==` and `<` say. -/
structure Agree (c : Comparisons α) (a b : α) : Prop where
  ne : c.ne a b = true ↔ ¬c.eq a b = true
  greater : c.greater a b = true ↔ c.less b a = true
  lessEq : c.lessEq a b = true ↔ ¬c.less b a = true
  greaterEq : c.greaterEq a b = true ↔ ¬c.less a b = true

/-- Operators that compare and equate through a key. -/
theorem ordered_of_key {κ : Type} {c : Comparisons α} {less : κ → κ → Bool}
    (h : KeyOrder less) (key : α → κ) (hless : c.less = Function.onFun less key)
    (heq : ∀ a b, c.eq a b = true ↔ key a = key b) : c.Ordered where
  weak := by
    rw [hless]
    exact h.toWeakOrder.onFun key
  equivalent a b := by
    rw [heq, hless, ← h.incomparable_iff]
    rfl

end Comparisons

namespace ConnectionTuple

/-- `std::tie` of the five fields. -/
def tie (t : ConnectionTuple) : UInt32 × UInt32 × UInt16 × UInt16 × UInt8 :=
  (t.srcIp, t.dstIp, t.sport, t.dport, t.proto)

def eq (a b : ConnectionTuple) : Bool := a.tie == b.tie

def less (a b : ConnectionTuple) : Bool :=
  lexLess fieldLess (lexLess fieldLess (lexLess fieldLess (lexLess fieldLess fieldLess)))
    a.tie b.tie

def ne (a b : ConnectionTuple) : Bool := !eq a b

/-- `operator>`, as it is written. -/
def greater (a b : ConnectionTuple) : Bool := less a b

def lessEq (a b : ConnectionTuple) : Bool := !greater a b

def greaterEq (a b : ConnectionTuple) : Bool := !less a b

def comparisons : Comparisons ConnectionTuple :=
  ⟨eq, less, ne, greater, lessEq, greaterEq⟩

/-- The operators of a class derived from `ConnectionTuple` that defines its own `==`
and `<`: the others are the inherited ones, which compare the base parts. -/
def derived {α : Type} (base : α → ConnectionTuple) (eq less : α → α → Bool) :
    Comparisons α :=
  { comparisons with
    eq := eq
    less := less
    ne := Function.onFun ne base
    greater := Function.onFun greater base
    lessEq := Function.onFun lessEq base
    greaterEq := Function.onFun greaterEq base }

theorem eq_iff (a b : ConnectionTuple) : eq a b = true ↔ a = b := by
  obtain ⟨a₁, a₂, a₃, a₄, a₅⟩ := a
  obtain ⟨b₁, b₂, b₃, b₄, b₅⟩ := b
  simp [eq, tie]

/-- The order of the maps is that of `operator<`. -/
theorem less_iff (a b : ConnectionTuple) : less a b = true ↔ cmp a b = .lt := by
  simp only [less, tie, lexLess_fieldLess_iff, fieldLess, decide_eq_true_eq, cmp, compareLex,
    compareOn, Ordering.then_eq_lt, compare_eq_lt, Std.compare_eq_iff_eq]

theorem ordered : comparisons.Ordered :=
  Comparisons.ordered_of_key (KeyOrder.field.lex (KeyOrder.field.lex (KeyOrder.field.lex
    (KeyOrder.field.lex KeyOrder.field)))) tie rfl fun _ _ => beq_iff_eq

/-- **What a derived class's operators agree on**: if its own `<` is a weak order with
its own `==` as the equivalence, and `==` holds at least where that of the base does,
then the inherited operators fit the own ones on values with equal base parts only. -/
theorem agree_derived_iff {α : Type} {base : α → ConnectionTuple} {eq' less' : α → α → Bool}
    (h : (derived base eq' less').Ordered) (a b : α)
    (hcoarse : base a = base b → eq' a b = true) :
    (derived base eq' less').Agree a b ↔ base a = base b := by
  constructor
  · intro hagree
    have hge : less (base a) (base b) = true ↔ less' a b = true := by
      have hge := hagree.greaterEq
      simp only [derived, Function.onFun, greaterEq, Bool.not_eq_true'] at hge
      rw [← not_iff_not, Bool.not_eq_true]
      exact hge
    have hgt : less (base a) (base b) = true ↔ less' b a = true := hagree.greater
    have hab : less' a b = false := by
      by_contra hab
      have hab : less' a b = true := by simpa using hab
      have hba : less' b a = false := h.weak.asymm hab
      rw [hgt.mp (hge.mpr hab)] at hba
      cases hba
    have hba : less' b a = false := by
      by_contra hba
      have hba : less' b a = true := by simpa using hba
      rw [hge.mp (hgt.mpr hba)] at hab
      cases hab
    have heq : eq' a b = true := (h.equivalent a b).mp ⟨hab, hba⟩
    have hne : ne (base a) (base b) = false := by
      by_contra hne
      have hne : ne (base a) (base b) = true := by simpa using hne
      exact hagree.ne.mp hne heq
    rw [← eq_iff]
    simpa [ne] using hne
  · intro hbase
    have hown : Incomparable less' a b := (h.equivalent a b).mpr (hcoarse hbase)
    have hless : less (base a) (base b) = false := by
      rw [hbase]
      exact ordered.weak.irrefl (base b)
    constructor
    · simp [derived, Function.onFun, ne, (eq_iff _ _).mpr hbase, hcoarse hbase]
    · simp [derived, Function.onFun, greater, hless, hown.2]
    · simp [derived, Function.onFun, lessEq, greater, hless, hown.2]
    · simp [derived, Function.onFun, greaterEq, hless, hown.1]

end ConnectionTuple

/-- `SymNatTuple`. -/
structure SymNatTuple extends ConnectionTuple where
  deriving DecidableEq, Repr

namespace SymNatTuple

/-- `std::tie` of the four fields compared: not the destination address. -/
def tie (t : SymNatTuple) : UInt32 × UInt16 × UInt16 × UInt8 :=
  (t.srcIp, t.sport, t.dport, t.proto)

def eq (a b : SymNatTuple) : Bool := a.tie == b.tie

def less (a b : SymNatTuple) : Bool :=
  lexLess fieldLess (lexLess fieldLess (lexLess fieldLess fieldLess)) a.tie b.tie

def comparisons : Comparisons SymNatTuple :=
  ConnectionTuple.derived toConnectionTuple eq less

theorem ordered : comparisons.Ordered :=
  Comparisons.ordered_of_key (KeyOrder.field.lex (KeyOrder.field.lex
    (KeyOrder.field.lex KeyOrder.field))) tie rfl fun _ _ => beq_iff_eq

end SymNatTuple

namespace AddrrTuple

/-- `std::tie` of the four fields compared: not the source port. -/
def tie (t : AddrrTuple) : UInt32 × UInt32 × UInt16 × UInt8 :=
  (t.srcIp, t.dstIp, t.dport, t.proto)

def eq (a b : AddrrTuple) : Bool := a.tie == b.tie

def less (a b : AddrrTuple) : Bool :=
  lexLess fieldLess (lexLess fieldLess (lexLess fieldLess fieldLess)) a.tie b.tie

def comparisons : Comparisons AddrrTuple :=
  ConnectionTuple.derived toConnectionTuple eq less

/-- The order of the maps is that of `operator<`. -/
theorem less_iff (a b : AddrrTuple) : less a b = true ↔ cmp a b = .lt := by
  simp only [less, tie, lexLess_fieldLess_iff, fieldLess, decide_eq_true_eq, cmp, compareLex,
    compareOn, Ordering.then_eq_lt, compare_eq_lt, Std.compare_eq_iff_eq]

theorem ordered : comparisons.Ordered :=
  Comparisons.ordered_of_key (KeyOrder.field.lex (KeyOrder.field.lex
    (KeyOrder.field.lex KeyOrder.field))) tie rfl fun _ _ => beq_iff_eq

end AddrrTuple

/-- **The operators of the tuples.**  In each of the three classes `<` is a strict weak
order whose equivalence is `==`, and the other four operators say the same as these two
when the values compared are equal, and only then. -/
theorem tuple_operators (a b : ConnectionTuple) (p q : SymNatTuple) (r s : AddrrTuple) :
    (ConnectionTuple.comparisons.Ordered ∧
      (ConnectionTuple.comparisons.Agree a b ↔ a = b)) ∧
    (SymNatTuple.comparisons.Ordered ∧ (SymNatTuple.comparisons.Agree p q ↔ p = q)) ∧
    (AddrrTuple.comparisons.Ordered ∧ (AddrrTuple.comparisons.Agree r s ↔ r = s)) := by
  refine ⟨⟨ConnectionTuple.ordered, ?_⟩, ⟨SymNatTuple.ordered, ?_⟩, AddrrTuple.ordered, ?_⟩
  · -- the class is derived from itself
    have h : (ConnectionTuple.derived id ConnectionTuple.eq ConnectionTuple.less).Ordered :=
      ConnectionTuple.ordered
    exact ConnectionTuple.agree_derived_iff h a b (ConnectionTuple.eq_iff a b).mpr
  · have hbase : p = q ↔ p.toConnectionTuple = q.toConnectionTuple := by
      cases p
      cases q
      simp
    rw [hbase]
    apply ConnectionTuple.agree_derived_iff SymNatTuple.ordered
    intro h
    simp [SymNatTuple.eq, SymNatTuple.tie, h]
  · have hbase : r = s ↔ r.toConnectionTuple = s.toConnectionTuple := by
      cases r
      cases s
      simp
    rw [hbase]
    apply ConnectionTuple.agree_derived_iff AddrrTuple.ordered
    intro h
    simp [AddrrTuple.eq, AddrrTuple.tie, h]

/-- From 10.0.0.1 and from 10.0.0.2: the first tuple is less than the second, and also
greater, in each of the three classes. -/
theorem tuple_operators_disagree :
    let a : ConnectionTuple := ⟨167772161, 134744072, 5000, 53, 17⟩
    let b : ConnectionTuple := ⟨167772162, 134744072, 5000, 53, 17⟩
    ¬ConnectionTuple.comparisons.Agree a b ∧
    ¬SymNatTuple.comparisons.Agree ⟨a⟩ ⟨b⟩ ∧ ¬AddrrTuple.comparisons.Agree ⟨a⟩ ⟨b⟩ := by
  refine ⟨fun h => ?_, fun h => ?_, fun h => ?_⟩
  · exact absurd (h.greater.mp (by decide)) (by decide)
  · exact absurd (h.greater.mp (by decide)) (by decide)
  · exact absurd (h.greater.mp (by decide)) (by decide)

end ShapingRouter
