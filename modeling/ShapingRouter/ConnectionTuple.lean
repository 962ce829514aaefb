import Mathlib
import ShapingRouter.Packet

/-! # Connection tuples and the order the maps use

`operator<` compares the fields through `std::tie`, so it is the lexicographic
order of the listed fields.  `cmp` is its three-way form: `.lt` where
`operator<` holds, and `.eq` where it holds in neither direction, which is when
a `std::map` takes two keys for the same.  `AddrrTuple` hides the inherited
operators and leaves the source port out of the comparison.
-/

namespace ShapingRouter
open Std

/-- `ConnectionTuple`. -/
structure ConnectionTuple where
  srcIp : UInt32
  dstIp : UInt32
  sport : UInt16
  dport : UInt16
  proto : UInt8
  deriving DecidableEq, Repr

namespace ConnectionTuple

/-- `ConnectionTuple(PacketPtr)`. -/
def ofPacket (pkt : Packet) : ConnectionTuple :=
  ⟨pkt.srcIp, pkt.dstIp, pkt.sport, pkt.dport, pkt.transProt⟩

/-- The order of `ConnectionTuple::operator<`. -/
def cmp : ConnectionTuple → ConnectionTuple → Ordering :=
  compareLex (compareOn srcIp) (compareLex (compareOn dstIp)
    (compareLex (compareOn sport) (compareLex (compareOn dport) (compareOn proto))))

instance : TransCmp cmp := by unfold cmp; infer_instance

/-- The map takes two tuples for the same key only if they are equal. -/
theorem cmp_eq_iff (a b : ConnectionTuple) : cmp a b = .eq ↔ a = b := by
  obtain ⟨a₁, a₂, a₃, a₄, a₅⟩ := a
  obtain ⟨b₁, b₂, b₃, b₄, b₅⟩ := b
  simp [cmp, compareLex_eq_eq, compareOn]

instance : LawfulEqCmp cmp := ⟨(cmp_eq_iff _ _).mp⟩

end ConnectionTuple

/-- `AddrrTuple`. -/
structure AddrrTuple extends ConnectionTuple where
  deriving DecidableEq, Repr

namespace AddrrTuple

/-- The order of `AddrrTuple::operator<`: the source port is not compared. -/
def cmp : AddrrTuple → AddrrTuple → Ordering :=
  compareLex (compareOn (·.srcIp)) (compareLex (compareOn (·.dstIp))
    (compareLex (compareOn (·.dport)) (compareOn (·.proto))))

instance : TransCmp cmp := by unfold cmp; infer_instance

/-- The map takes two tuples for the same key iff all but their source ports
agree. -/
theorem cmp_eq_iff (a b : AddrrTuple) : cmp a b = .eq ↔
    a.srcIp = b.srcIp ∧ a.dstIp = b.dstIp ∧ a.dport = b.dport ∧ a.proto = b.proto := by
  simp [cmp, compareLex_eq_eq, compareOn]

end AddrrTuple
end ShapingRouter
