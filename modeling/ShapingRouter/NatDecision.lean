import Mathlib
import ShapingRouter.NatInvariant

/-! # Where the tables lead a packet

`NatBox.Leads` says by the tables alone what the NAT does with a packet: the rules, the
live connections and the free ports give an address and a port, which take the place of
the packet's source if it is outgoing and of its destination if it is ingoing.  A packet
is forwarded just where the tables lead (`NatBox.leads_iff`), for any tables whatever.
-/

namespace ShapingRouter
open Library Std

/-- The near half of a packet's header is rewritten: the source of an outgoing packet, the
destination of an ingoing one. -/
def Packet.translated (pkt : Packet) (ip : UInt32) (port : UInt16) : Packet :=
  if pkt.isIngoing then pkt.withDestination ip port else pkt.withSource ip port

theorem Packet.translated_inj {pkt : Packet} {ip ip' : UInt32} {port port' : UInt16}
    (h : pkt.translated ip port = pkt.translated ip' port') : ip = ip' ∧ port = port' := by
  unfold translated at h
  split at h
  · exact ⟨congrArg Packet.dstIp h, congrArg (·.dport) h⟩
  · exact ⟨congrArg Packet.srcIp h, congrArg (·.sport) h⟩

/-! ## The mappers -/

namespace ConnMapper
variable {κ : Type} {cmp : κ → κ → Ordering}

/-- The live connection under a key of the internal map. -/
def connection (m : ConnMapper κ cmp) (k : κ) : Option ConnectionEntry :=
  (lock m.entries m.intPortMap k).map (·.2)

/-- Without a rule, an outgoing packet is sent from where its connection says. -/
theorem mapPacket_of_connection {kind : MapperKind κ cmp} {m : ConnMapper κ cmp} {pkt : Packet}
    (hout : pkt.isIngoing = false) (hrule : m.checkDnat pkt = none) {e : ConnectionEntry}
    (hconn : m.connection (kind.intKey (ConnectionTuple.ofPacket pkt)) = some e) (now : Nat) :
    ∃ m', m.mapPacket kind now pkt =
      some (m', some (pkt.withSource e.extTuple.dstIp e.extTuple.dport)) := by
  obtain ⟨⟨p, e'⟩, hlock, rfl⟩ := Option.map_eq_some_iff.mp hconn
  simp only [mapPacket, hrule, hout, Bool.false_eq_true, if_false, hlock]
  exact ⟨_, rfl⟩

/-- Without a connection, it is sent from the external address if there is a port. -/
theorem mapPacket_of_new {kind : MapperKind κ cmp} {m : ConnMapper κ cmp} {pkt : Packet}
    (hout : pkt.isIngoing = false) (hrule : m.checkDnat pkt = none)
    (hconn : m.connection (kind.intKey (ConnectionTuple.ofPacket pkt)) = none) (now : Nat) :
    (m.mapPacket kind now pkt).map (·.2) =
      (kind.extPort m.extPortMap.contains (ConnectionTuple.ofPacket pkt)).map
        fun port => some (pkt.withSource m.ipExt port) := by
  have hlock := Option.map_eq_none_iff.mp hconn
  simp only [mapPacket, hrule, hout, Bool.false_eq_true, if_false, hlock]
  cases kind.extPort m.extPortMap.contains (ConnectionTuple.ofPacket pkt) <;> rfl

end ConnMapper

namespace Mapper

/-- The live connection of an internal tuple. -/
def connection : Mapper → ConnectionTuple → Option ConnectionEntry
  | nat m, t => m.connection (natKind.intKey t)
  | sym m, t => m.connection (symKind.intKey t)

/-- What stands in for the source of an outgoing packet: with a rule, or for a new
connection, the external address; for a live one, what its entry says. -/
inductive SendsFrom (m : Mapper) (pkt : Packet) : UInt32 → UInt16 → Prop
  | rule : m.base.dnatRules.contains pkt.sport = true → SendsFrom m pkt m.base.ipExt pkt.sport
  | live {e : ConnectionEntry} : m.base.dnatRules.contains pkt.sport = false →
      m.connection (ConnectionTuple.ofPacket pkt) = some e →
      SendsFrom m pkt e.extTuple.dstIp e.extTuple.dport
  | new {port : UInt16} : m.base.dnatRules.contains pkt.sport = false →
      m.connection (ConnectionTuple.ofPacket pkt) = none →
      m.newPort (ConnectionTuple.ofPacket pkt) = some port → SendsFrom m pkt m.base.ipExt port

/-- What stands in for the destination of an ingoing packet: what its rule says, or else
the live connection under its port. -/
inductive DeliversTo (m : Mapper) (pkt : Packet) : UInt32 → UInt16 → Prop
  | rule {rule : ConnectionTuple} : m.base.dnatRules[pkt.dport]? = some rule →
      DeliversTo m pkt rule.dstIp rule.dport
  | live {e : ConnectionEntry} : m.base.dnatRules[pkt.dport]? = none →
      m.entryAt pkt.dport = some e → DeliversTo m pkt e.intTuple.srcIp e.intTuple.sport

def Leads (m : Mapper) (pkt : Packet) (ip : UInt32) (port : UInt16) : Prop :=
  if pkt.isIngoing then m.DeliversTo pkt ip port else m.SendsFrom pkt ip port

variable {m : Mapper} {pkt : Packet} {ip ip' : UInt32} {port port' : UInt16}

/-- The tables see the tuple of a packet and its direction, and nothing else of it. -/
theorem Leads.congr {pkt₂ : Packet} (hdir : pkt₂.isIngoing = pkt.isIngoing)
    (htuple : ConnectionTuple.ofPacket pkt₂ = ConnectionTuple.ofPacket pkt)
    (h : m.Leads pkt ip port) : m.Leads pkt₂ ip port := by
  have hsport : pkt₂.sport = pkt.sport := congrArg ConnectionTuple.sport htuple
  have hdport : pkt₂.dport = pkt.dport := congrArg ConnectionTuple.dport htuple
  unfold Leads at h ⊢
  rw [hdir]
  split
  · rename_i hin
    rw [if_pos hin] at h
    cases h with
    | rule hrule => exact .rule (by rw [hdport, hrule])
    | live hrule hentry => exact .live (by rw [hdport, hrule]) (by rw [hdport, hentry])
  · rename_i hout
    rw [if_neg hout] at h
    cases h with
    | rule hrule =>
      rw [← hsport]
      exact .rule (by rw [hsport, hrule])
    | live hrule hconn => exact .live (by rw [hsport, hrule]) (by rw [htuple, hconn])
    | new hrule hconn hport =>
      exact .new (by rw [hsport, hrule]) (by rw [htuple, hconn]) (by rw [htuple, hport])

theorem SendsFrom.unique (h : m.SendsFrom pkt ip port) (h' : m.SendsFrom pkt ip' port') :
    ip = ip' ∧ port = port' := by
  cases h with
  | rule hrule => cases h' <;> simp_all
  | live hrule hconn => cases h' <;> simp_all
  | new hrule hconn hport => cases h' <;> simp_all

theorem DeliversTo.unique (h : m.DeliversTo pkt ip port) (h' : m.DeliversTo pkt ip' port') :
    ip = ip' ∧ port = port' := by
  cases h with
  | rule hrule => cases h' <;> simp_all
  | live hrule hentry => cases h' <;> simp_all

theorem mapPacket_of_connection (m : Mapper) (hout : pkt.isIngoing = false)
    (hrule : m.base.checkDnat pkt = none) {e : ConnectionEntry}
    (hconn : m.connection (ConnectionTuple.ofPacket pkt) = some e) (now : Nat) :
    ∃ m', m.mapPacket now pkt =
      some (m', some (pkt.withSource e.extTuple.dstIp e.extTuple.dport)) := by
  cases m with
  | nat m =>
    obtain ⟨m', h⟩ := ConnMapper.mapPacket_of_connection hout hrule hconn now
    exact ⟨nat m', congrArg (Option.map _) h⟩
  | sym m =>
    obtain ⟨m', h⟩ := ConnMapper.mapPacket_of_connection hout hrule hconn now
    exact ⟨sym m', congrArg (Option.map _) h⟩

theorem mapPacket_of_new (m : Mapper) (hout : pkt.isIngoing = false)
    (hrule : m.base.checkDnat pkt = none)
    (hconn : m.connection (ConnectionTuple.ofPacket pkt) = none) (now : Nat) :
    (m.mapPacket now pkt).map (·.2) = (m.newPort (ConnectionTuple.ofPacket pkt)).map
      fun port => some (pkt.withSource m.base.ipExt port) := by
  cases m with
  | nat m =>
    have h := ConnMapper.mapPacket_of_new hout hrule hconn now
    rw [mapPacket, Option.map_map]
    exact h
  | sym m =>
    have h := ConnMapper.mapPacket_of_new hout hrule hconn now
    rw [mapPacket, Option.map_map]
    exact h

/-- **An outgoing packet** is sent from where the tables lead, or the mapper never
finishes with it. -/
theorem mapPacket_outgoing_cases (m : Mapper) (hout : pkt.isIngoing = false) (now : Nat) :
    (∃ m' ip port, m.SendsFrom pkt ip port ∧
      m.mapPacket now pkt = some (m', some (pkt.withSource ip port))) ∨
    (∀ ip port, ¬m.SendsFrom pkt ip port) ∧ m.mapPacket now pkt = none := by
  cases hrule : m.base.dnatRules.contains pkt.sport with
  | true =>
    have hdnat : m.base.checkDnat pkt = some (pkt.withSource m.base.ipExt pkt.sport) := by
      simp only [NatMapperBase.checkDnat, hout, hrule, Bool.false_eq_true, if_false, if_true]
      rfl
    exact Or.inl ⟨m, _, _, .rule hrule, mapPacket_of_rule hdnat⟩
  | false =>
    have hdnat : m.base.checkDnat pkt = none := by
      simp only [NatMapperBase.checkDnat, hout, hrule, Bool.false_eq_true, if_false]
    cases hconn : m.connection (ConnectionTuple.ofPacket pkt) with
    | some e =>
      obtain ⟨m', h⟩ := m.mapPacket_of_connection hout hdnat hconn now
      exact Or.inl ⟨m', _, _, .live hrule hconn, h⟩
    | none =>
      have hnew := m.mapPacket_of_new hout hdnat hconn now
      cases hport : m.newPort (ConnectionTuple.ofPacket pkt) with
      | some port =>
        rw [hport] at hnew
        obtain ⟨⟨m', r⟩, h, rfl⟩ := Option.map_eq_some_iff.mp hnew
        exact Or.inl ⟨m', _, _, .new hrule hconn hport, h⟩
      | none =>
        rw [hport] at hnew
        refine Or.inr ⟨fun ip port h => ?_, Option.map_eq_none_iff.mp hnew⟩
        cases h <;> simp_all

/-- **An ingoing packet** changes nothing, and goes where the tables lead. -/
theorem mapPacket_ingoing_cases (m : Mapper) (hin : pkt.isIngoing = true) (now : Nat) :
    (∃ ip port, m.DeliversTo pkt ip port ∧
      m.mapPacket now pkt = some (m, some (pkt.withDestination ip port))) ∨
    (∀ ip port, ¬m.DeliversTo pkt ip port) ∧ m.mapPacket now pkt = some (m, none) := by
  cases hrule : m.base.dnatRules[pkt.dport]? with
  | some rule =>
    have hdnat := NatMapperBase.checkDnat_ingoing hin hrule
    exact Or.inl ⟨_, _, .rule hrule, mapPacket_of_rule hdnat⟩
  | none =>
    have hdnat : m.base.checkDnat pkt = none := by
      rw [NatMapperBase.checkDnat_eq_none]
      simpa [hin] using hrule
    have hmap := @mapPacket_ingoing m pkt now hin hdnat
    cases hentry : m.entryAt pkt.dport with
    | some e =>
      rw [hentry] at hmap
      exact Or.inl ⟨_, _, .live hrule hentry, hmap⟩
    | none =>
      rw [hentry] at hmap
      refine Or.inr ⟨fun ip port h => ?_, hmap⟩
      cases h <;> simp_all

/-- **What the mapper does is what its tables say.** -/
theorem mapPacket_cases (m : Mapper) (pkt : Packet) (now : Nat) :
    (∃ m' ip port, m.Leads pkt ip port ∧
      m.mapPacket now pkt = some (m', some (pkt.translated ip port)) ∧
      (pkt.isIngoing = true → m' = m)) ∨
    (∀ ip port, ¬m.Leads pkt ip port) ∧
      m.mapPacket now pkt = if pkt.isIngoing then some (m, none) else none := by
  unfold Leads Packet.translated
  cases hdir : pkt.isIngoing with
  | true =>
    rcases m.mapPacket_ingoing_cases hdir now with ⟨ip, port, hto, h⟩ | ⟨hto, h⟩
    · exact Or.inl ⟨m, ip, port, hto, h, fun _ => rfl⟩
    · exact Or.inr ⟨hto, h⟩
  | false =>
    rcases m.mapPacket_outgoing_cases hdir now with ⟨m', ip, port, hfrom, h⟩ | ⟨hfrom, h⟩
    · exact Or.inl ⟨m', ip, port, hfrom, h, fun h => absurd h Bool.false_ne_true⟩
    · exact Or.inr ⟨hfrom, h⟩

end Mapper

/-! ## The filters -/

theorem ConnFilter.filterPacket_passes {κ : Type} {cmp : κ → κ → Ordering}
    (kind : FilterKind κ cmp) (f : ConnFilter κ cmp) {pkt : Packet} (hout : pkt.isIngoing = false)
    (now : Nat) : (f.filterPacket kind now pkt).2 = true := by
  simp only [filterPacket, hout, Bool.false_eq_true, if_false]
  split <;> rfl

namespace NatFilter

/-- The filter lets an ingoing packet pass. -/
def Admits : NatFilter → Packet → Prop
  | portrSym f, pkt =>
    f.connMap.contains (ConnectionTuple.ofPacket pkt) = true ∨ f.dnatRules.contains pkt.dport = true
  | addrr f, pkt =>
    f.connMap.contains ⟨ConnectionTuple.ofPacket pkt⟩ = true ∨ f.dnatRules.contains pkt.dport = true
  | fullcone _, _ => True

variable {pkt : Packet}

theorem filterPacket_admits (f : NatFilter) (hin : pkt.isIngoing = true) (now : Nat) :
    (f.filterPacket now pkt).1 = f ∧ ((f.filterPacket now pkt).2 = true ↔ f.Admits pkt) := by
  cases f with
  | portrSym f =>
    have h := ConnFilter.filterPacket_ingoing portrSymKind f hin now
    simp only [filterPacket, PortrSymNatFilter.filterPacket, h, Bool.or_eq_true, Admits]
    exact ⟨trivial, Iff.rfl⟩
  | addrr f =>
    have h := ConnFilter.filterPacket_ingoing addrrKind f hin now
    simp only [filterPacket, AddrrNatFilter.filterPacket, h, Bool.or_eq_true, Admits]
    exact ⟨trivial, Iff.rfl⟩
  | fullcone f => exact ⟨rfl, by simp [filterPacket, FullconeNatFilter.filterPacket, Admits]⟩

theorem filterPacket_passes (f : NatFilter) (hout : pkt.isIngoing = false) (now : Nat) :
    (f.filterPacket now pkt).2 = true := by
  cases f with
  | portrSym f => exact ConnFilter.filterPacket_passes portrSymKind f hout now
  | addrr f => exact ConnFilter.filterPacket_passes addrrKind f hout now
  | fullcone f => rfl

end NatFilter

/-! ## The NAT -/

namespace NatBox
variable {s s' : NatBox} {pkt pkt' : Packet} {ip ip' : UInt32} {port port' : UInt16} {now : Nat}

/-- The tables lead a packet to an address and a port, and if it is ingoing the filter
admits it. -/
def Leads (s : NatBox) (pkt : Packet) (ip : UInt32) (port : UInt16) : Prop :=
  (pkt.isIngoing = true → s.filter.Admits pkt) ∧ s.mapper.Leads pkt ip port

/-- **What the NAT does is what its tables say.**  An ingoing packet changes none of them. -/
theorem handlePacket_cases (s : NatBox) (pkt : Packet) (now : Nat) :
    (∃ s' ip port, s.Leads pkt ip port ∧
      s.handlePacket now pkt = some (s', some (pkt.translated ip port))) ∨
    (∀ ip port, ¬s.Leads pkt ip port) ∧
      s.handlePacket now pkt = if pkt.isIngoing then some (s, none) else none := by
  have hmap := s.mapper.mapPacket_cases pkt now
  unfold handlePacket
  cases hdir : pkt.isIngoing with
  | true =>
    obtain ⟨hsame, hpass⟩ := s.filter.filterPacket_admits hdir now
    simp only [if_true, hsame]
    by_cases hp : (s.filter.filterPacket now pkt).2 = true
    · rcases hmap with ⟨m', ip, port, hto, h, hm⟩ | ⟨hto, h⟩
      · refine Or.inl ⟨s, ip, port, ⟨fun _ => hpass.mp hp, hto⟩, ?_⟩
        simp only [hp, if_true, h, hm hdir]
        rfl
      · refine Or.inr ⟨fun ip port hl => hto ip port hl.2, ?_⟩
        simp only [hp, if_true, h, hdir]
        rfl
    · refine Or.inr ⟨fun ip port hl => hp (hpass.mpr (hl.1 hdir)), ?_⟩
      simp only [hp, Bool.false_eq_true, if_false]
  | false =>
    simp only [Bool.false_eq_true, if_false]
    rcases hmap with ⟨m', ip, port, hfrom, h, -⟩ | ⟨hfrom, h⟩
    · have hout : (pkt.translated ip port).isIngoing = false := by
        unfold Packet.translated
        split <;> exact hdir
      have hpass := s.filter.filterPacket_passes hout now
      have hadmits : pkt.isIngoing = true → s.filter.Admits pkt :=
        fun h => absurd (hdir.symm.trans h) Bool.false_ne_true
      refine Or.inl ⟨{ s with
          mapper := m', filter := (s.filter.filterPacket now (pkt.translated ip port)).1 },
        ip, port, ⟨hadmits, hfrom⟩, ?_⟩
      simp only [h, hpass, if_true]
    · refine Or.inr ⟨fun ip port hl => hfrom ip port hl.2, ?_⟩
      rw [hdir, if_neg Bool.false_ne_true] at h
      simp only [h]

theorem Leads.congr (hdir : pkt'.isIngoing = pkt.isIngoing)
    (htuple : ConnectionTuple.ofPacket pkt' = ConnectionTuple.ofPacket pkt)
    (h : s.Leads pkt ip port) : s.Leads pkt' ip port := by
  obtain ⟨hadmits, hleads⟩ := h
  refine ⟨fun hin => ?_, hleads.congr hdir htuple⟩
  have hsame := hadmits (hdir.symm.trans hin)
  have hdport : pkt'.dport = pkt.dport := congrArg ConnectionTuple.dport htuple
  cases hfilter : s.filter with
  | portrSym f =>
    rw [hfilter, NatFilter.Admits] at hsame
    rw [NatFilter.Admits, htuple, hdport]
    exact hsame
  | addrr f =>
    rw [hfilter, NatFilter.Admits] at hsame
    rw [NatFilter.Admits, htuple, hdport]
    exact hsame
  | fullcone f => trivial

theorem Leads.unique (h : s.Leads pkt ip port) (h' : s.Leads pkt ip' port') :
    ip = ip' ∧ port = port' := by
  obtain ⟨-, h⟩ := h
  obtain ⟨-, h'⟩ := h'
  unfold Mapper.Leads at h h'
  split at h
  · rename_i hin
    rw [if_pos hin] at h'
    exact h.unique h'
  · rename_i hout
    rw [if_neg hout] at h'
    exact h.unique h'

/-- **A packet is forwarded just where the tables lead it.** -/
theorem leads_iff (s : NatBox) (pkt : Packet) (ip : UInt32) (port : UInt16) (now : Nat) :
    s.Leads pkt ip port ↔
      ∃ s', s.handlePacket now pkt = some (s', some (pkt.translated ip port)) := by
  rcases s.handlePacket_cases pkt now with ⟨s', ip', port', hleads, h⟩ | ⟨hleads, h⟩
  · constructor
    · intro hl
      obtain ⟨rfl, rfl⟩ := hl.unique hleads
      exact ⟨s', h⟩
    · rintro ⟨s'', h'⟩
      have heq : pkt.translated ip' port' = pkt.translated ip port :=
        Option.some.inj (Prod.mk.inj (Option.some.inj (h.symm.trans h'))).2
      obtain ⟨rfl, rfl⟩ := Packet.translated_inj heq
      exact hleads
  · refine iff_of_false (hleads ip port) ?_
    rintro ⟨s'', h'⟩
    rw [h] at h'
    split at h' <;> cases h'

/-- **Whatever leaves the NAT is the packet, translated.** -/
theorem handlePacket_translated (h : s.handlePacket now pkt = some (s', some pkt')) :
    ∃ ip port, s.Leads pkt ip port ∧ pkt' = pkt.translated ip port := by
  rcases s.handlePacket_cases pkt now with ⟨s'', ip, port, hleads, h'⟩ | ⟨-, h'⟩
  · rw [h] at h'
    cases h'
    exact ⟨ip, port, hleads, rfl⟩
  · rw [h] at h'
    split at h' <;> cases h'

end NatBox

/-- A NAT of type `portr` for 10.0.1.2 behind 10.0.2.1, with a rule from port 80 to `port`. -/
def ruledNat (port : UInt16) : NatConfig :=
  NatConfig.setDnatRule ⟨0x0A000201, 0x0A000102, 600, .portRNat, ∅⟩ 0x0A000102 80 port

end ShapingRouter
