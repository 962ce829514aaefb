import Mathlib
import ShapingRouter.NatDecision
import ShapingRouter.WireAgreement

/-! # What the NAT decides by

The constructor fills in the port fields of a packet for the protocols that
`decodeTransportProtocol` knows, and leaves them as the memory was for any other one;
the NAT reads them for every packet.  So what was in the memory matters for no packet of
a known protocol, and for every other packet that some ports would get through
(`nat_port_blind_iff`).
-/

namespace ShapingRouter
open Library Std

/-- The protocols that the decoder knows. -/
def Decodes (protocol : UInt8) : Prop :=
  (protocol = IPPROTO_UDP ∨ protocol = IPPROTO_TCP) ∨
    protocol = IPPROTO_ICMP ∨ protocol = IPPROTO_ICMPV6

/-- Two runs of `Nat::handlePacket` come to the same: the same tables, and the same
addresses and ports if a packet goes on. -/
def SameOutcome (r r' : Option (NatBox × Option Packet)) : Prop :=
  Option.Rel (fun a a' => a.1 = a'.1 ∧ Option.Rel SameHeader a.2 a'.2) r r'

/-- What the memory of the packet object held before does not matter. -/
def PortBlind (order : ByteOrder) (stamp : Nat) (packetId : UInt32) (payload : List UInt8)
    (ingoing : Bool) (s : NatBox) (now : Nat) : Prop :=
  ∀ prior prior' : ParentPacket, SameOutcome
    (s.handlePacket now ((Packet.construct order prior stamp packetId payload).setIngoing ingoing))
    (s.handlePacket now ((Packet.construct order prior' stamp packetId payload).setIngoing ingoing))

/-! ## Known protocols -/

/-- The field that only the decoder of ICMP fills in. -/
def Packet.withIcmpId (pkt : Packet) (icmpId : UInt16) : Packet := { pkt with icmpId := icmpId }

section IcmpId
variable {pkt : Packet} (icmpId : UInt16)

theorem NatMapperBase.checkDnat_withIcmpId (b : NatMapperBase) :
    b.checkDnat (pkt.withIcmpId icmpId) = (b.checkDnat pkt).map (·.withIcmpId icmpId) := by
  have hdir : (pkt.withIcmpId icmpId).isIngoing = pkt.isIngoing := rfl
  have hsport : (pkt.withIcmpId icmpId).sport = pkt.sport := rfl
  have hdport : (pkt.withIcmpId icmpId).dport = pkt.dport := rfl
  simp only [checkDnat, hdir, hsport, hdport]
  cases pkt.isIngoing with
  | true => cases b.dnatRules[pkt.dport]? <;> rfl
  | false => cases b.dnatRules.contains pkt.sport <;> rfl

theorem ConnMapper.mapPacket_withIcmpId {κ : Type} {cmp : κ → κ → Ordering}
    (kind : MapperKind κ cmp) (m : ConnMapper κ cmp) (now : Nat) :
    m.mapPacket kind now (pkt.withIcmpId icmpId) =
      (m.mapPacket kind now pkt).map fun r => (r.1, r.2.map (·.withIcmpId icmpId)) := by
  have htuple : ConnectionTuple.ofPacket (pkt.withIcmpId icmpId) = ConnectionTuple.ofPacket pkt :=
    rfl
  have hdir : (pkt.withIcmpId icmpId).isIngoing = pkt.isIngoing := rfl
  have hdport : (pkt.withIcmpId icmpId).dport = pkt.dport := rfl
  simp only [mapPacket, NatMapperBase.checkDnat_withIcmpId, htuple, hdir, hdport]
  cases m.checkDnat pkt with
  | some pkt' => rfl
  | none =>
    cases pkt.isIngoing with
    | true => cases lock m.entries m.extPortMap pkt.dport <;> rfl
    | false =>
      cases lock m.entries m.intPortMap (kind.intKey (ConnectionTuple.ofPacket pkt)) with
      | some found => rfl
      | none =>
        cases kind.extPort m.extPortMap.contains (ConnectionTuple.ofPacket pkt) <;> rfl

theorem Mapper.mapPacket_withIcmpId (m : Mapper) (now : Nat) :
    m.mapPacket now (pkt.withIcmpId icmpId) =
      (m.mapPacket now pkt).map fun r => (r.1, r.2.map (·.withIcmpId icmpId)) := by
  cases m with
  | nat m =>
    have h := @ConnMapper.mapPacket_withIcmpId pkt icmpId _ _ natKind m now
    simp only [mapPacket, NatMapper.mapPacket, h, Option.map_map]
    rfl
  | sym m =>
    have h := @ConnMapper.mapPacket_withIcmpId pkt icmpId _ _ symKind m now
    simp only [mapPacket, SymNatMapper.mapPacket, h, Option.map_map]
    rfl

theorem NatFilter.filterPacket_withIcmpId (f : NatFilter) (now : Nat) :
    f.filterPacket now (pkt.withIcmpId icmpId) = f.filterPacket now pkt := by
  cases f <;> rfl

/-- **The NAT never looks at that field.** -/
theorem NatBox.handlePacket_withIcmpId (s : NatBox) (now : Nat) :
    s.handlePacket now (pkt.withIcmpId icmpId) =
      (s.handlePacket now pkt).map fun r => (r.1, r.2.map (·.withIcmpId icmpId)) := by
  have hdir : (pkt.withIcmpId icmpId).isIngoing = pkt.isIngoing := rfl
  simp only [handlePacket, hdir, Mapper.mapPacket_withIcmpId, NatFilter.filterPacket_withIcmpId]
  cases pkt.isIngoing with
  | true =>
    cases (s.filter.filterPacket now pkt).2 with
    | true => cases s.mapper.mapPacket now pkt <;> rfl
    | false => rfl
  | false =>
    cases s.mapper.mapPacket now pkt with
    | none => rfl
    | some r =>
      obtain ⟨m', pkt'⟩ := r
      cases pkt' with
      | none => rfl
      | some pkt' =>
        simp only [Option.map_some, NatFilter.filterPacket_withIcmpId]
        cases (s.filter.filterPacket now pkt').2 <;> rfl

theorem SameOutcome.map_withIcmpId (r : Option (NatBox × Option Packet)) :
    SameOutcome r (r.map fun r => (r.1, r.2.map (·.withIcmpId icmpId))) := by
  cases r with
  | none => exact Option.Rel.none
  | some r =>
    obtain ⟨s, pkt'⟩ := r
    refine Option.Rel.some ⟨rfl, ?_⟩
    cases pkt' with
    | none => exact Option.Rel.none
    | some pkt' => exact Option.Rel.some ⟨rfl, rfl, rfl, rfl, rfl⟩

end IcmpId

section Received
variable {order : ByteOrder} {stamp : Nat} {packetId : UInt32} {payload : List UInt8}
  {ingoing : Bool}

/-- For a known protocol only the ICMP identifier can still be what the memory held. -/
theorem Packet.construct_withIcmpId (hknown : Decodes (Iphdr.protocol payload))
    (prior prior' : ParentPacket) :
    (Packet.construct order prior' stamp packetId payload).setIngoing ingoing =
      ((Packet.construct order prior stamp packetId payload).setIngoing ingoing).withIcmpId
        (Packet.construct order prior' stamp packetId payload).icmpId := by
  unfold Packet.construct ParentPacket.decodeTransportProtocol
  by_cases hport : Iphdr.protocol payload = IPPROTO_UDP ∨ Iphdr.protocol payload = IPPROTO_TCP
  · simp only [if_pos hport]
    rfl
  · have hicmp := hknown.resolve_left hport
    simp only [if_neg hport, if_pos hicmp]
    rfl

/-- **A known protocol leaves nothing to the memory.** -/
theorem portBlind_of_decodes (hknown : Decodes (Iphdr.protocol payload)) (s : NatBox) (now : Nat) :
    PortBlind order stamp packetId payload ingoing s now := by
  intro prior prior'
  rw [Packet.construct_withIcmpId hknown prior prior', NatBox.handlePacket_withIcmpId]
  exact SameOutcome.map_withIcmpId _ _

/-! ## Any other protocol -/

/-- The packet that the payload becomes when the memory held these ports. -/
def Packet.withMemory (order : ByteOrder) (stamp : Nat) (packetId : UInt32) (payload : List UInt8)
    (ingoing : Bool) (sport dport : UInt16) : Packet :=
  (Packet.construct order { isIngoing := ingoing, sport := sport, dport := dport }
    stamp packetId payload).setIngoing ingoing

/-- Another protocol leaves both ports to the memory. -/
theorem Packet.withMemory_ports (hunknown : ¬Decodes (Iphdr.protocol payload))
    (sport dport : UInt16) :
    (withMemory order stamp packetId payload ingoing sport dport).sport = sport ∧
      (withMemory order stamp packetId payload ingoing sport dport).dport = dport := by
  obtain ⟨hport, hicmp⟩ := not_or.mp hunknown
  simp only [withMemory, setIngoing, construct, ParentPacket.decodeTransportProtocol, if_neg hport,
    if_neg hicmp, and_self]

/-- What the NAT does with another protocol depends on the memory only through its ports. -/
theorem Packet.construct_eq_withMemory (hunknown : ¬Decodes (Iphdr.protocol payload))
    (prior : ParentPacket) :
    (Packet.construct order prior stamp packetId payload).setIngoing ingoing =
      (withMemory order stamp packetId payload ingoing prior.sport prior.dport).withIcmpId
        prior.icmpId := by
  obtain ⟨hport, hicmp⟩ := not_or.mp hunknown
  simp only [withMemory, setIngoing, construct, ParentPacket.decodeTransportProtocol, if_neg hport,
    if_neg hicmp]
  rfl

theorem SameOutcome.forwarded {r r' : Option (NatBox × Option Packet)} (h : SameOutcome r r') :
    r.map (·.2.isSome) = r'.map (·.2.isSome) := by
  cases h with
  | none => rfl
  | @some a a' hrel =>
    obtain ⟨s, pkt⟩ := a
    obtain ⟨s', pkt'⟩ := a'
    have hpkt : Option.Rel SameHeader pkt pkt' := hrel.2
    cases hpkt <;> rfl

theorem SameOutcome.of_forwarded {s : NatBox} {pkt : Packet} {r : Option (NatBox × Option Packet)}
    (h : SameOutcome (some (s, some pkt)) r) :
    ∃ pkt', r = some (s, some pkt') ∧ SameHeader pkt pkt' := by
  cases h with
  | @some _ b hrel =>
    obtain ⟨s', pkt'⟩ := b
    obtain ⟨hs, hpkt⟩ := hrel
    dsimp only at hs hpkt
    cases hpkt with
    | @some _ b hsame => exact ⟨b, by rw [hs], hsame⟩

/-- If some ports get through, another port of the far end comes out differently. -/
theorem not_portBlind_of_leads (hunknown : ¬Decodes (Iphdr.protocol payload)) {s : NatBox}
    {sport dport : UInt16} {ip : UInt32} {port : UInt16} (hleads : s.Leads
      (Packet.withMemory order stamp packetId payload ingoing sport dport) ip port) (now : Nat) :
    ¬PortBlind order stamp packetId payload ingoing s now := by
  intro hblind
  have hsame := hblind { isIngoing := ingoing, sport := sport, dport := dport }
    { isIngoing := ingoing, sport := sport + 1, dport := dport + 1 }
  obtain ⟨s', hfwd⟩ := (s.leads_iff _ ip port now).mp hleads
  rw [Packet.withMemory] at hfwd
  rw [hfwd] at hsame
  obtain ⟨pkt', hother, -, -, hsport, hdport, -⟩ := hsame.of_forwarded
  obtain ⟨ip', port', -, rfl⟩ := NatBox.handlePacket_translated hother
  obtain ⟨hs, hd⟩ := @Packet.withMemory_ports order stamp packetId payload ingoing hunknown
    sport dport
  obtain ⟨hs', hd'⟩ := @Packet.withMemory_ports order stamp packetId payload ingoing hunknown
    (sport + 1) (dport + 1)
  have hnext : ∀ port : UInt16, port ≠ port + 1 := by
    intro port
    grind
  cases ingoing with
  | true => exact hnext sport (hs.symm.trans (hsport.trans hs'))
  | false => exact hnext dport (hd.symm.trans (hdport.trans hd'))

/-- **When what the memory held does not matter**: the decoder knows the protocol, or the
tables lead the packet nowhere, whatever its ports. -/
theorem nat_port_blind_iff (order : ByteOrder) (stamp : Nat) (packetId : UInt32)
    (payload : List UInt8) (ingoing : Bool) (s : NatBox) (now : Nat) :
    PortBlind order stamp packetId payload ingoing s now ↔
      Decodes (Iphdr.protocol payload) ∨ ∀ sport dport ip port, ¬s.Leads
        (Packet.withMemory order stamp packetId payload ingoing sport dport) ip port := by
  constructor
  · intro hblind
    by_cases hknown : Decodes (Iphdr.protocol payload)
    · exact Or.inl hknown
    · refine Or.inr fun sport dport ip port hleads => ?_
      exact not_portBlind_of_leads hknown hleads now hblind
  · rintro (hknown | hnone)
    · exact portBlind_of_decodes hknown s now
    · by_cases hknown : Decodes (Iphdr.protocol payload)
      · exact portBlind_of_decodes hknown s now
      · intro prior prior'
        have hdropped : ∀ sport dport, s.handlePacket now (Packet.withMemory order stamp packetId
            payload ingoing sport dport) = if ingoing then some (s, none) else none := by
          intro sport dport
          rcases s.handlePacket_cases _ now with ⟨s', ip, port, hleads, -⟩ | ⟨-, h⟩
          · exact absurd hleads (hnone sport dport ip port)
          · exact h
        rw [Packet.construct_eq_withMemory hknown prior, Packet.construct_eq_withMemory hknown prior',
          NatBox.handlePacket_withIcmpId, NatBox.handlePacket_withIcmpId, hdropped, hdropped]
        cases ingoing with
        | true => exact Option.Rel.some ⟨rfl, Option.Rel.none⟩
        | false => exact Option.Rel.none

end Received

/-- A GRE packet (protocol 47) from 10.0.2.9 to 10.0.2.1, without a payload. -/
def greBytes : List UInt8 := [0x45, 0, 0, 20, 0, 0, 0, 0, 64, 47, 0, 0, 10, 0, 2, 9, 10, 0, 2, 1]

/-- The same GRE packet goes to 10.0.1.2 if the memory held destination port 80, and is
dropped if it held port 81. -/
theorem nat_reads_memory : ¬PortBlind .little 0 0 greBytes true (ruledNat 8080).init 0 := by
  intro hblind
  have hsame := hblind { isIngoing := true, dport := 80 } { isIngoing := true, dport := 81 }
  have hforwarded := hsame.forwarded
  revert hforwarded
  decide

end ShapingRouter
