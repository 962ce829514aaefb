import Mathlib
import ShapingRouter.ConnectionEntry
import ShapingRouter.Library.Probe

/-! # The NAT mappers

`NatMapper` and `SymNatMapper` translate addresses and ports.  They are the same
code but for two things: the key of the internal map (the source port, or the
whole tuple), and how the external port of a new connection is chosen (the
source port itself, or the next one that the external map does not use).
`MapperKind` holds these two, with the facts about them that the code relies on;
`ConnMapper` is the common code, and `NatMapper` and `SymNatMapper` are its two
instances.

A mapper's maps hold weak references, so `ConnMapper.Valid` says that both are
linked to the entries alive, and that every entry translates between the one
internal address and the external address.
-/

namespace ShapingRouter
open Library Std

/-- `std::map<uint16_t, ConnectionTuple>`: port forwarding rules by external port. -/
abbrev DnatRules := TreeMap UInt16 ConnectionTuple compare

/-- `NatMapperBase`. -/
structure NatMapperBase where
  ipInt : UInt32
  ipExt : UInt32
  connectionTimeout : UInt32
  dnatRules : DnatRules

/-- `NatMapperBase::checkDnat`: the packet as rewritten, when it answers true. -/
def NatMapperBase.checkDnat (b : NatMapperBase) (pkt : Packet) : Option Packet :=
  if pkt.isIngoing then
    match b.dnatRules[pkt.dport]? with
    | some rule => some ((pkt.setDestinationIP rule.dstIp).setDestinationPort rule.dport)
    | none => none
  else if b.dnatRules.contains pkt.sport then
    some (pkt.setSourceIP b.ipExt)
  else
    none

/-- What distinguishes the mappers: the key of `intPortMap_`, and the external
port of a new connection, given which ports `extPortMap_` has as keys.  An
external port is `pinned` to the internal tuples it may be chosen for. -/
structure MapperKind (κ : Type) (cmp : κ → κ → Ordering) where
  intKey : ConnectionTuple → κ
  extPort : (UInt16 → Bool) → ConnectionTuple → Option UInt16
  pinned : ConnectionTuple → UInt16 → Prop
  /-- Tuples with one key have one source port. -/
  sport_of_key : ∀ {t t' : ConnectionTuple}, cmp (intKey t) (intKey t') = .eq → t.sport = t'.sport
  pinned_of_extPort : ∀ {taken t port}, extPort taken t = some port → pinned t port
  pinned_of_key : ∀ {t t' port}, cmp (intKey t) (intKey t') = .eq → pinned t port → pinned t' port
  /-- A chosen port is not taken, or only ever by a connection with the same key. -/
  apart : ∀ {taken t port}, extPort taken t = some port →
    taken port = false ∨ ∀ t', pinned t' port → cmp (intKey t') (intKey t) = .eq

/-- The members of `NatMapper` and of `SymNatMapper`, and the entries they own. -/
structure ConnMapper (κ : Type) (cmp : κ → κ → Ordering) extends NatMapperBase where
  intPortMap : TreeMap κ Nat cmp
  extPortMap : TreeMap UInt16 Nat compare
  entries : Heap ConnectionEntry

namespace ConnMapper
variable {κ : Type} {cmp : κ → κ → Ordering} (kind : MapperKind κ cmp)

/-- The constructor. -/
def new (ipInt ipExt : UInt32) (connectionTimeout : UInt32) (dnatRules : DnatRules) :
    ConnMapper κ cmp where
  ipInt := ipInt
  ipExt := ipExt
  connectionTimeout := connectionTimeout
  dnatRules := dnatRules
  intPortMap := ∅
  extPortMap := ∅
  entries := Heap.empty

/-- `makeNewConn`. -/
def makeNewConn (m : ConnMapper κ cmp) (now : Nat) (extTup intTup : ConnectionTuple) :
    ConnMapper κ cmp :=
  { m with
    intPortMap := m.intPortMap.insert (kind.intKey intTup) m.entries.next
    extPortMap := m.extPortMap.insert extTup.dport m.entries.next
    entries := m.entries.alloc (.start extTup intTup now m.connectionTimeout) }

/-- `removeFromMaps`. -/
def removeFromMaps (m : ConnMapper κ cmp) (intTup extTup : ConnectionTuple) : ConnMapper κ cmp :=
  { m with
    intPortMap := m.intPortMap.erase (kind.intKey intTup)
    extPortMap := m.extPortMap.erase extTup.dport }

/-- The tuple a new connection is given outside. -/
def extTuple (m : ConnMapper κ cmp) (pkt : Packet) (port : UInt16) : ConnectionTuple :=
  ⟨pkt.dstIp, m.ipExt, pkt.dport, port, pkt.transProt⟩

/-- `mapPacket`.  `none` when the search for an external port never ends;
otherwise the mapper afterwards and, where the code returns true, the packet as
rewritten. -/
def mapPacket (m : ConnMapper κ cmp) (now : Nat) (pkt : Packet) :
    Option (ConnMapper κ cmp × Option Packet) :=
  match m.checkDnat pkt with
  | some pkt' => some (m, some pkt')
  | none =>
    if pkt.isIngoing then
      match lock m.entries m.extPortMap pkt.dport with
      | some (_, ent) =>
        some (m, some (pkt.withDestination ent.intTuple.srcIp ent.intTuple.sport))
      | none => some (m, none)
    else
      let tuple := ConnectionTuple.ofPacket pkt
      match lock m.entries m.intPortMap (kind.intKey tuple) with
      | some (p, ent) =>
        some ({ m with entries := m.entries.modify p (·.rearm now m.connectionTimeout) },
          some (pkt.withSource ent.extTuple.dstIp ent.extTuple.dport))
      | none =>
        -- no connection is found, and a new one is made
        match kind.extPort m.extPortMap.contains tuple with
        | some port =>
          let extTup := m.extTuple pkt port
          some (m.makeNewConn kind now extTup tuple,
            some (pkt.withSource extTup.dstIp extTup.dport))
        | none => none

/-- The timer of the entry at `p` has expired: the last reference goes, and the
entry's deleter runs. -/
def timeout (m : ConnMapper κ cmp) (p : Nat) : ConnMapper κ cmp :=
  match m.entries.objects p with
  | some ent =>
    { m.removeFromMaps kind ent.intTuple ent.extTuple with entries := m.entries.free p }
  | none => m

/-- Every timer that is due by `now` fires. -/
def expire (m : ConnMapper κ cmp) (now : Nat) : ConnMapper κ cmp :=
  (m.entries.pointers (·.due now)).foldl (timeout kind) m

end ConnMapper

/-! ## The two mappers -/

/-- `NatMapper` keeps the source port. -/
def natKind : MapperKind UInt16 compare where
  intKey t := t.sport
  extPort _ t := some t.sport
  pinned t port := port = t.sport
  sport_of_key h := LawfulEqCmp.eq_of_compare h
  pinned_of_extPort h := (Option.some.inj h).symm
  pinned_of_key h hp := hp.trans (LawfulEqCmp.eq_of_compare h)
  apart h := Or.inr fun t' ht' => by
    obtain rfl := Option.some.inj h
    exact (LawfulEqCmp.compare_eq_iff_eq).mpr ht'.symm

/-- `SymNatMapper::mapPort`: from the source port on, wrapping around, the first
port that `extPortMap_` does not have.  The loop has no other exit; `none` says
that it never ends. -/
def mapPort (taken : UInt16 → Bool) (tup : ConnectionTuple) : Option UInt16 :=
  probe taken (· + 1) (2 ^ 16) tup.sport

theorem mapPort_free {taken : UInt16 → Bool} {tup : ConnectionTuple} {port : UInt16}
    (h : mapPort taken tup = some port) : taken port = false :=
  Bool.eq_false_iff.mpr (probe_eq_some h).1

/-- Counting up a port by one, 2 ^ 16 times, meets every port. -/
theorem covers_ports : Covers (α := UInt16) (· + 1) (2 ^ 16) := by
  intro a b
  have hiter : ∀ i : Nat, (· + (1 : UInt16))^[i] a = a + UInt16.ofNat i := by
    intro i
    induction i with
    | zero => simp
    | succ i ih =>
      rw [Function.iterate_succ_apply', ih, UInt16.ofNat_add, ← add_assoc]
      rfl
  refine ⟨(b - a).toNat, UInt16.toNat_lt _, ?_⟩
  rw [hiter]
  simp

/-- `SymNatMapper` keys connections by the whole tuple and chooses free ports. -/
def symKind : MapperKind ConnectionTuple ConnectionTuple.cmp where
  intKey t := t
  extPort := mapPort
  pinned _ _ := True
  sport_of_key h := by rw [(ConnectionTuple.cmp_eq_iff _ _).mp h]
  pinned_of_extPort _ := trivial
  pinned_of_key _ _ := trivial
  apart h := Or.inl (mapPort_free h)

/-- `NatMapper`. -/
abbrev NatMapper := ConnMapper UInt16 compare

/-- `SymNatMapper`. -/
abbrev SymNatMapper := ConnMapper ConnectionTuple ConnectionTuple.cmp

/-- `NatMapper::mapPacket`. -/
def NatMapper.mapPacket (m : NatMapper) (now : Nat) (pkt : Packet) :
    Option (NatMapper × Option Packet) := ConnMapper.mapPacket natKind m now pkt

/-- `SymNatMapper::mapPacket`. -/
def SymNatMapper.mapPacket (m : SymNatMapper) (now : Nat) (pkt : Packet) :
    Option (SymNatMapper × Option Packet) := ConnMapper.mapPacket symKind m now pkt

end ShapingRouter
