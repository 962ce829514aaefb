import Mathlib
import ShapingRouter.MapperInvariant
import ShapingRouter.NatFilters

/-! # The NAT filter of the chain

`NatConfig` holds what the setters of class `Nat` set, `NatConfig.init` builds
the mapper and the filter that the type asks for, and `NatBox.handlePacket` is
`Nat::handlePacket`: an ingoing packet is filtered and then mapped, an outgoing
one is mapped and then filtered.  Handling is sequential: before a packet is
handled, every timer that is due by then has fired (`NatBox.step`).

The lemmas below say what the four types have in common, so that later results
need not look inside the mapper and the filter.
-/

namespace ShapingRouter
open Library Std

/-- `enum nat_type`. -/
inductive NatType
  | portRNat | addrRNat | symNat | fullConeNat
  deriving DecidableEq, Repr

/-- The configuration of `Nat`; addresses as `inet_network` reads them. -/
structure NatConfig where
  ipExt : UInt32
  ipInt : UInt32
  connectionTimeout : UInt32 := 10 * 60
  type : NatType := .portRNat
  dnatRules : DnatRules := ∅

namespace NatConfig

def setIPs (c : NatConfig) (ipExt ipInt : UInt32) : NatConfig :=
  { c with ipExt := ipExt, ipInt := ipInt }

def setTimeout (c : NatConfig) (timeout : UInt32) : NatConfig :=
  { c with connectionTimeout := timeout }

def setDnatRule (c : NatConfig) (ip : UInt32) (extPort intPort : UInt16) : NatConfig :=
  { c with dnatRules := c.dnatRules.insert extPort ⟨0, ip, 0, intPort, 0⟩ }

def removeDnatRule (c : NatConfig) (extPort : UInt16) : NatConfig :=
  { c with dnatRules := c.dnatRules.erase extPort }

/-- An unknown type is reported and changes nothing. -/
def setNatType (c : NatConfig) (type : String) : NatConfig :=
  if type = "portr" then { c with type := .portRNat }
  else if type = "addrr" then { c with type := .addrRNat }
  else if type = "symnat" then { c with type := .symNat }
  else if type = "fullcone" then { c with type := .fullConeNat }
  else c

/-- How long a connection lives after the last packet that used it. -/
def lifetime (c : NatConfig) : Nat := ConnectionEntry.lifetime c.connectionTimeout

end NatConfig

/-- `std::shared_ptr<NatMapperBase>`. -/
inductive Mapper
  | nat (m : NatMapper)
  | sym (m : SymNatMapper)

/-- `std::shared_ptr<NatFilter>`. -/
inductive NatFilter
  | portrSym (f : PortrSymNatFilter)
  | addrr (f : AddrrNatFilter)
  | fullcone (f : FullconeNatFilter)

namespace Mapper

def base : Mapper → NatMapperBase
  | nat m => m.toNatMapperBase
  | sym m => m.toNatMapperBase

def mapPacket (now : Nat) (pkt : Packet) : Mapper → Option (Mapper × Option Packet)
  | nat m => (NatMapper.mapPacket m now pkt).map fun r => (nat r.1, r.2)
  | sym m => (SymNatMapper.mapPacket m now pkt).map fun r => (sym r.1, r.2)

def expire (now : Nat) : Mapper → Mapper
  | nat m => nat (m.expire natKind now)
  | sym m => sym (m.expire symKind now)

end Mapper

namespace NatFilter

def rules : NatFilter → DnatRules
  | portrSym f => f.dnatRules
  | addrr f => f.dnatRules
  | fullcone f => f.dnatRules

def timeout : NatFilter → UInt32
  | portrSym f => f.connectionTimeout
  | addrr f => f.connectionTimeout
  | fullcone f => f.connectionTimeout

def filterPacket (now : Nat) (pkt : Packet) : NatFilter → NatFilter × Bool
  | portrSym f => let r := PortrSymNatFilter.filterPacket f now pkt; (portrSym r.1, r.2)
  | addrr f => let r := AddrrNatFilter.filterPacket f now pkt; (addrr r.1, r.2)
  | fullcone f => let r := FullconeNatFilter.filterPacket f now pkt; (fullcone r.1, r.2)

def expire (now : Nat) : NatFilter → NatFilter
  | portrSym f => portrSym (f.expire portrSymKind now)
  | addrr f => addrr (f.expire addrrKind now)
  | fullcone f => fullcone f

end NatFilter

/-- `Nat`, once `init` has run. -/
structure NatBox where
  config : NatConfig
  mapper : Mapper
  filter : NatFilter

/-- `Nat::init`. -/
def NatConfig.init (c : NatConfig) : NatBox where
  config := c
  mapper := match c.type with
    | .symNat => .sym (.new c.ipInt c.ipExt c.connectionTimeout c.dnatRules)
    | _ => .nat (.new c.ipInt c.ipExt c.connectionTimeout c.dnatRules)
  filter := match c.type with
    | .addrRNat => .addrr (.new c.connectionTimeout c.dnatRules)
    | .fullConeNat => .fullcone ⟨c.connectionTimeout, c.dnatRules⟩
    | _ => .portrSym (.new c.connectionTimeout c.dnatRules)

namespace NatBox

/-- `Nat::handlePacket`.  `none` when the mapper never returns; otherwise the
state afterwards and the packet that goes to the next filter, if one does. -/
def handlePacket (s : NatBox) (now : Nat) (pkt : Packet) : Option (NatBox × Option Packet) :=
  if pkt.isIngoing then
    let (filter, ok) := s.filter.filterPacket now pkt
    if ok then
      (s.mapper.mapPacket now pkt).map fun r =>
        ({ s with mapper := r.1, filter := filter }, r.2)
    else
      some ({ s with filter := filter }, none)
  else
    match s.mapper.mapPacket now pkt with
    | none => none
    | some (mapper, none) => some ({ s with mapper := mapper }, none)
    | some (mapper, some pkt') =>
      let (filter, ok) := s.filter.filterPacket now pkt'
      some ({ s with mapper := mapper, filter := filter }, if ok then some pkt' else none)

/-- Every timer that is due by `now` fires. -/
def expire (s : NatBox) (now : Nat) : NatBox :=
  { s with mapper := s.mapper.expire now, filter := s.filter.expire now }

/-- One packet, handled at time `now`. -/
def step (s : NatBox) (now : Nat) (pkt : Packet) : Option (NatBox × Option Packet) :=
  (s.expire now).handlePacket now pkt

end NatBox

/-! ## What the mappers have in common -/

namespace Mapper

/-- Two tuples belong to one connection of the mapper. -/
def SameKey : Mapper → ConnectionTuple → ConnectionTuple → Prop
  | nat _, t, t' => t.sport = t'.sport
  | sym _, t, t' => t = t'

/-- The external port held for a tuple, and until when. -/
def heldPort : Mapper → ConnectionTuple → Option (Nat × UInt16)
  | nat m, t => m.heldPort t.sport
  | sym m, t => m.heldPort t

/-- The entry that holds an external port. -/
def entryAt : Mapper → UInt16 → Option ConnectionEntry
  | nat m, port => m.entryAt port
  | sym m, port => m.entryAt port

def Valid (int : UInt32) : Mapper → Prop
  | nat m => m.Valid natKind int
  | sym m => m.Valid symKind int

/-- Whether it is a `SymNatMapper`. -/
def isSym : Mapper → Bool
  | nat _ => false
  | sym _ => true

/-- The external port that a new connection would be given. -/
def newPort : Mapper → ConnectionTuple → Option UInt16
  | nat m, t => natKind.extPort m.extPortMap.contains t
  | sym m, t => symKind.extPort m.extPortMap.contains t

/-- `m'` is `m` after an outgoing packet with tuple `t` was sent from `port`. -/
structure Touches (int : UInt32) (m : Mapper) (now : Nat) (t : ConnectionTuple) (port : UInt16)
    (m' : Mapper) : Prop where
  base : m'.base = m.base
  valid : m'.Valid int
  isSym : m'.isSym = m.isSym
  same : ∀ t', m.SameKey t t' →
    m'.heldPort t' = some (now + ConnectionEntry.lifetime m.base.connectionTimeout, port)
  other : ∀ t', ¬ m.SameKey t t' → m'.heldPort t' = m.heldPort t'
  stable : ∀ t' d v, m.SameKey t t' → m.heldPort t' = some (d, v) → v = port
  chosen : m.heldPort t = none → m.newPort t = some port
  pinned : m.isSym = false → port = t.sport

variable {m m' : Mapper} {int : UInt32} {pkt : Packet} {now : Nat}

theorem SameKey.sport {t t' : ConnectionTuple} (h : m.SameKey t t') : t.sport = t'.sport := by
  cases m with
  | nat m => exact h
  | sym m => exact congrArg ConnectionTuple.sport h

theorem SameKey.refl (m : Mapper) (t : ConnectionTuple) : m.SameKey t t := by
  cases m <;> rfl

@[simp] theorem expire_base : (m.expire now).base = m.base := by
  cases m with
  | nat m => exact m.expire_base now
  | sym m => exact m.expire_base now

@[simp] theorem expire_isSym : (m.expire now).isSym = m.isSym := by cases m <;> rfl

/-- What counts as one connection depends on the class of the mapper alone. -/
theorem sameKey_iff (t t' : ConnectionTuple) :
    m.SameKey t t' ↔ if m.isSym then t = t' else t.sport = t'.sport := by
  cases m <;> rfl

theorem Valid.expire (hv : m.Valid int) : (m.expire now).Valid int := by
  cases m with
  | nat m => exact ConnMapper.Valid.expire hv now
  | sym m => exact ConnMapper.Valid.expire hv now

theorem Valid.heldPort_expire (hv : m.Valid int) (t : ConnectionTuple) (d : Nat) (v : UInt16) :
    (m.expire now).heldPort t = some (d, v) ↔ m.heldPort t = some (d, v) ∧ now < d := by
  cases m with
  | nat m => exact ConnMapper.Valid.heldPort_expire hv now _ d v
  | sym m => exact ConnMapper.Valid.heldPort_expire hv now _ d v

/-- A rule settles a packet, and leaves the mapper as it is. -/
theorem mapPacket_of_rule {pkt' : Packet} (hrule : m.base.checkDnat pkt = some pkt') :
    m.mapPacket now pkt = some (m, some pkt') := by
  cases m with
  | nat m => exact congrArg (Option.map _) (ConnMapper.mapPacket_of_rule hrule now)
  | sym m => exact congrArg (Option.map _) (ConnMapper.mapPacket_of_rule hrule now)

/-- Without a rule, an ingoing packet goes where the entry under its destination
port says, and the mapper stays as it is. -/
theorem mapPacket_ingoing (hin : pkt.isIngoing = true) (hrule : m.base.checkDnat pkt = none) :
    m.mapPacket now pkt = some (m, (m.entryAt pkt.dport).map fun e =>
      pkt.withDestination e.intTuple.srcIp e.intTuple.sport) := by
  cases m with
  | nat m => exact congrArg (Option.map _) (ConnMapper.mapPacket_ingoing hin hrule now)
  | sym m => exact congrArg (Option.map _) (ConnMapper.mapPacket_ingoing hin hrule now)

/-- Without a rule, an outgoing packet is sent from the external address and
touches its connection. -/
theorem Valid.mapPacket_outgoing (hv : m.Valid int) (hout : pkt.isIngoing = false)
    (hsrc : pkt.srcIp = int) (hrule : m.base.checkDnat pkt = none) {r : Option Packet}
    (h : m.mapPacket now pkt = some (m', r)) :
    ∃ port, r = some (pkt.withSource m.base.ipExt port) ∧
      m.Touches int now (ConnectionTuple.ofPacket pkt) port m' := by
  cases m with
  | nat m =>
    obtain ⟨⟨m₁, r₁⟩, h₁, heq⟩ := Option.map_eq_some_iff.mp h
    obtain ⟨rfl, rfl⟩ := Prod.mk.inj heq
    obtain ⟨port, hr, ht⟩ := ConnMapper.Valid.mapPacket_outgoing hv hout hsrc hrule h₁
    exact ⟨port, hr, ht.base, ht.valid, rfl,
      fun t' hk => ht.same _ (LawfulEqCmp.compare_eq_iff_eq.mpr hk),
      fun t' hk => ht.other _ fun h => hk (LawfulEqCmp.eq_of_compare h),
      fun t' d v hk => ht.stable _ d v (LawfulEqCmp.compare_eq_iff_eq.mpr hk), ht.chosen,
      fun _ => ht.pinned⟩
  | sym m =>
    obtain ⟨⟨m₁, r₁⟩, h₁, heq⟩ := Option.map_eq_some_iff.mp h
    obtain ⟨rfl, rfl⟩ := Prod.mk.inj heq
    obtain ⟨port, hr, ht⟩ := ConnMapper.Valid.mapPacket_outgoing hv hout hsrc hrule h₁
    exact ⟨port, hr, ht.base, ht.valid, rfl,
      fun t' hk => ht.same _ ((ConnectionTuple.cmp_eq_iff _ _).mpr hk),
      fun t' hk => ht.other _ fun h => hk ((ConnectionTuple.cmp_eq_iff _ _).mp h),
      fun t' d v hk => ht.stable _ d v ((ConnectionTuple.cmp_eq_iff _ _).mpr hk), ht.chosen,
      fun h => by cases h⟩

/-- A packet that the mapper never finishes with belongs to a new connection, and
there is no external port for it. -/
theorem mapPacket_eq_none (h : m.mapPacket now pkt = none) :
    m.heldPort (ConnectionTuple.ofPacket pkt) = none ∧
      m.newPort (ConnectionTuple.ofPacket pkt) = none := by
  cases m with
  | nat m => exact ConnMapper.mapPacket_eq_none (Option.map_eq_none_iff.mp h)
  | sym m => exact ConnMapper.mapPacket_eq_none (Option.map_eq_none_iff.mp h)

/-- A `NatMapper` gives every connection its own source port. -/
theorem newPort_of_not_isSym (h : m.isSym = false) (t : ConnectionTuple) :
    m.newPort t = some t.sport := by
  cases m with
  | nat m => rfl
  | sym m => cases h

/-- A `SymNatMapper` gives a new connection the first port, from its source port
on, that no entry holds. -/
theorem Valid.newPort_iff (hv : m.Valid int) (h : m.isSym = true) (t : ConnectionTuple)
    (port : UInt16) : m.newPort t = some port ↔
      FirstFree (fun p => ∃ e, m.entryAt p = some e) (· + 1) t.sport port := by
  cases m with
  | nat m => cases h
  | sym m =>
    have hin := ConnMapper.Valid.contains_extPortMap hv
    exact (probe_iff covers_ports).trans (by simp only [FirstFree, hin]; rfl)

/-- There is no new external port only when every port is in use. -/
theorem Valid.exists_entryAt (hv : m.Valid int) {t : ConnectionTuple} (h : m.newPort t = none)
    (port : UInt16) : ∃ e, m.entryAt port = some e := by
  cases m with
  | nat m => cases h
  | sym m =>
    exact (ConnMapper.Valid.contains_extPortMap hv port).mp
      (all_taken_of_probe_eq_none covers_ports h port)

/-- The entry under an external port holds that port for its own tuple. -/
theorem Valid.entryAt_spec (hv : m.Valid int) {port : UInt16} {e : ConnectionEntry}
    (h : m.entryAt port = some e) :
    e.intTuple.srcIp = int ∧ ∃ d, m.heldPort e.intTuple = some (d, port) := by
  cases m with
  | nat m =>
    obtain ⟨hsrc, hheld⟩ := ConnMapper.Valid.entryAt_spec hv h
    exact ⟨hsrc, _, hheld⟩
  | sym m =>
    obtain ⟨hsrc, hheld⟩ := ConnMapper.Valid.entryAt_spec hv h
    exact ⟨hsrc, _, hheld⟩

/-- What is held for a tuple is found under its external port. -/
theorem Valid.entryAt_of_held (hv : m.Valid int) {t : ConnectionTuple} {d : Nat} {port : UInt16}
    (h : m.heldPort t = some (d, port)) :
    ∃ e, m.entryAt port = some e ∧ m.SameKey e.intTuple t ∧ e.intTuple.srcIp = int := by
  cases m with
  | nat m =>
    obtain ⟨e, he, hk, hsrc⟩ := ConnMapper.Valid.entryAt_of_held hv h
    exact ⟨e, he, LawfulEqCmp.eq_of_compare hk, hsrc⟩
  | sym m =>
    obtain ⟨e, he, hk, hsrc⟩ := ConnMapper.Valid.entryAt_of_held hv h
    exact ⟨e, he, (ConnectionTuple.cmp_eq_iff _ _).mp hk, hsrc⟩

end Mapper

/-! ## What the filters have in common -/

namespace NatFilter

/-- Two tuples of ingoing packets are one key of the filter's table. -/
def SameTuple : NatFilter → ConnectionTuple → ConnectionTuple → Prop
  | portrSym _, t, t' => t = t'
  | addrr _, t, t' =>
    t.srcIp = t'.srcIp ∧ t.dstIp = t'.dstIp ∧ t.dport = t'.dport ∧ t.proto = t'.proto
  | fullcone _, _, _ => False

/-- Until when a tuple is remembered. -/
def heldTuple : NatFilter → ConnectionTuple → Option (Nat × Unit)
  | portrSym f, t => f.heldTuple t
  | addrr f, t => f.heldTuple ⟨t⟩
  | fullcone _, _ => none

def Valid : NatFilter → Prop
  | portrSym f => f.Valid portrSymKind
  | addrr f => f.Valid addrrKind
  | fullcone _ => True

/-- The class of the filter, as the type of NAT that asks for it. -/
def serves : NatFilter → NatType → Prop
  | portrSym _, type => type = .portRNat ∨ type = .symNat
  | addrr _, type => type = .addrRNat
  | fullcone _, type => type = .fullConeNat

/-- The tuple that the answers to an outgoing packet carry. -/
def answerTuple (pkt : Packet) : ConnectionTuple :=
  ⟨pkt.dstIp, pkt.srcIp, pkt.dport, pkt.sport, pkt.transProt⟩

/-- `f'` is `f` after an outgoing packet whose answers carry `t`. -/
structure Touches (f : NatFilter) (now : Nat) (t : ConnectionTuple) (f' : NatFilter) : Prop where
  timeout : f'.timeout = f.timeout
  rules : f'.rules = f.rules
  serves : f'.serves = f.serves
  valid : f'.Valid
  same : ∀ t', f.SameTuple t t' →
    f'.heldTuple t' = some (now + ConnectionEntry.lifetime f.timeout, ())
  other : ∀ t', ¬ f.SameTuple t t' → f'.heldTuple t' = f.heldTuple t'

variable {f : NatFilter} {pkt : Packet} {now : Nat}

@[simp] theorem expire_timeout : (f.expire now).timeout = f.timeout := by
  cases f with
  | portrSym f => exact (f.expire_params now).1
  | addrr f => exact (f.expire_params now).1
  | fullcone f => rfl

@[simp] theorem expire_rules : (f.expire now).rules = f.rules := by
  cases f with
  | portrSym f => exact (f.expire_params now).2
  | addrr f => exact (f.expire_params now).2
  | fullcone f => rfl

@[simp] theorem expire_serves : (f.expire now).serves = f.serves := by cases f <;> rfl

theorem Valid.expire (hv : f.Valid) : (f.expire now).Valid := by
  cases f with
  | portrSym f => exact ConnFilter.Valid.expire hv now
  | addrr f => exact ConnFilter.Valid.expire hv now
  | fullcone f => trivial

theorem Valid.heldTuple_expire (hv : f.Valid) (t : ConnectionTuple) (d : Nat) (v : Unit) :
    (f.expire now).heldTuple t = some (d, v) ↔ f.heldTuple t = some (d, v) ∧ now < d := by
  cases f with
  | portrSym f => exact ConnFilter.Valid.heldTuple_expire hv now _ d v
  | addrr f => exact ConnFilter.Valid.heldTuple_expire hv now _ d v
  | fullcone f => exact ⟨fun h => (Option.some_ne_none _ h.symm).elim, And.left⟩

/-- An ingoing packet changes nothing.  It passes by a rule for its destination
port, or by its own tuple being remembered; a full cone lets it pass anyway. -/
theorem Valid.filterPacket_ingoing (hv : f.Valid) (hin : pkt.isIngoing = true) (now : Nat) :
    (f.filterPacket now pkt).1 = f ∧ ((f.filterPacket now pkt).2 = true ↔
      f.serves .fullConeNat ∨ f.rules.contains pkt.dport = true ∨
        ∃ d, f.heldTuple (ConnectionTuple.ofPacket pkt) = some (d, ())) := by
  cases f with
  | portrSym f =>
    have h := ConnFilter.filterPacket_ingoing portrSymKind f hin now
    have hc := ConnFilter.Valid.contains_iff hv (ConnectionTuple.ofPacket pkt)
    simp only [filterPacket, PortrSymNatFilter.filterPacket, h, Bool.or_eq_true]
    exact ⟨trivial, by simp [serves, rules, heldTuple, portrSymKind, hc, or_comm]⟩
  | addrr f =>
    have h := ConnFilter.filterPacket_ingoing addrrKind f hin now
    have hc := ConnFilter.Valid.contains_iff hv ⟨ConnectionTuple.ofPacket pkt⟩
    simp only [filterPacket, AddrrNatFilter.filterPacket, h, Bool.or_eq_true]
    exact ⟨trivial, by simp [serves, rules, heldTuple, addrrKind, hc, or_comm]⟩
  | fullcone f => exact ⟨rfl, by simp [filterPacket, FullconeNatFilter.filterPacket, serves]⟩

/-- An outgoing packet always passes, and touches the tuple of its answers. -/
theorem Valid.filterPacket_outgoing (hv : f.Valid) (hout : pkt.isIngoing = false) (now : Nat) :
    (f.filterPacket now pkt).2 = true ∧
      f.Touches now (answerTuple pkt) (f.filterPacket now pkt).1 := by
  cases f with
  | portrSym f =>
    obtain ⟨hpass, ht⟩ := ConnFilter.Valid.filterPacket_outgoing hv hout now
    exact ⟨hpass, ht.timeout, ht.rules, rfl, ht.valid,
      fun t' h => ht.same _ ((ConnectionTuple.cmp_eq_iff _ _).mpr h),
      fun t' h => ht.other _ fun hk => h ((ConnectionTuple.cmp_eq_iff _ _).mp hk)⟩
  | addrr f =>
    obtain ⟨hpass, ht⟩ := ConnFilter.Valid.filterPacket_outgoing hv hout now
    exact ⟨hpass, ht.timeout, ht.rules, rfl, ht.valid,
      fun t' h => ht.same _ ((AddrrTuple.cmp_eq_iff _ _).mpr h),
      fun t' h => ht.other _ fun hk => h ((AddrrTuple.cmp_eq_iff _ _).mp hk)⟩
  | fullcone f => exact ⟨rfl, rfl, rfl, rfl, trivial, fun _ h => h.elim, fun _ _ => rfl⟩

end NatFilter
end ShapingRouter
