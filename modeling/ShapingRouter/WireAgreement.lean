import Mathlib
import ShapingRouter.NatHistory
import ShapingRouter.WrittenPacket

/-! # The wire and the NAT tables

A packet that left the NAT is rebuilt from its own fields and from the bytes it
came with, and what is written is read back by the constructor.  Addresses, and
the ports of TCP and UDP, are taken from the fields, so they come back as the NAT
left them.  For ICMP everything after the IP header is taken from the bytes, the
identifier included; it comes back as the NAT left it only if the NAT kept it
(`wire_agrees_iff`).
-/

namespace ShapingRouter
open Library Std

/-- An unfragmented IPv4 packet that holds a whole TCP, UDP or ICMP echo header. -/
structure WellFormed (order : ByteOrder) (bytes : List UInt8) : Prop where
  version : byteAt bytes 0 >>> 4 = 4
  header : 20 ≤ (Iphdr.hdrLen bytes).toNat
  length : (Iphdr.tot_len order bytes).toNat = bytes.length
  unfragmented : Iphdr.frag_off order bytes &&& 0x3FFF = 0
  transport :
    Iphdr.protocol bytes = IPPROTO_UDP ∧ (Iphdr.hdrLen bytes).toNat + 8 ≤ bytes.length ∧
      (Iphdr.hdrLen bytes).toNat + (OutputLibnet.transport16 order bytes 4).toNat = bytes.length ∨
    Iphdr.protocol bytes = IPPROTO_TCP ∧ (Iphdr.hdrLen bytes).toNat + 20 ≤ bytes.length ∧
      5 ≤ (byteAt bytes ((Iphdr.hdrLen bytes).toNat + 12) >>> 4).toNat ∧
      (Iphdr.hdrLen bytes).toNat + 4 * (byteAt bytes ((Iphdr.hdrLen bytes).toNat + 12) >>> 4).toNat ≤
        bytes.length ∨
    Iphdr.protocol bytes = IPPROTO_ICMP ∧ (Iphdr.hdrLen bytes).toNat + 8 ≤ bytes.length ∧
      (byteAt bytes (Iphdr.hdrLen bytes).toNat = 8 ∨ byteAt bytes (Iphdr.hdrLen bytes).toNat = 0)

/-- Two packets agree on addresses, ports and protocol. -/
def SameHeader (p q : Packet) : Prop :=
  p.srcIp = q.srcIp ∧ p.dstIp = q.dstIp ∧ p.sport = q.sport ∧ p.dport = q.dport ∧
    p.transProt = q.transProt

/-- After the history `h`, the NAT does not translate the port (or ICMP identifier)
of `pkt` at `now`.  Outgoing: a rule concerns it, or the type keeps ports, or it is
the external port of its live connection, or the connection is new and the port
not in use.  Ingoing: its rule leads to the same port, or without a rule a live
packet from the same port used it. -/
def KeepsPort (c : NatConfig) (h : List NatEvent) (now : Nat) (pkt : Packet) : Prop :=
  if pkt.isIngoing then
    (∃ rule, c.dnatRules[pkt.dport]? = some rule ∧ rule.dport = pkt.dport) ∨
    c.dnatRules[pkt.dport]? = none ∧ ∃ ev ∈ h, ev.Live c now ∧
      ev.Uses c (ConnectionTuple.ofPacket ev.pkt) pkt.dport ∧ ev.pkt.sport = pkt.dport
  else
    (c.dnatRules[pkt.sport]? ≠ none ∨ c.type ≠ .symNat) ∨
    (∃ ev ∈ h, ev.Live c now ∧ ev.Uses c (ConnectionTuple.ofPacket pkt) pkt.sport) ∨
    (¬ ∃ p, ∃ ev ∈ h, ev.Live c now ∧ ev.Uses c (ConnectionTuple.ofPacket pkt) p) ∧
      ¬ InUse c h now pkt.sport

/-! ## What the NAT leaves alone -/

section Nat
variable {int : UInt32} {c : NatConfig} {h : List NatEvent} {s : NatSystem} {now : Nat}
  {pkt pkt' : Packet} {nat' : NatBox}

theorem sentFrom_own_port_iff : SentFrom c h now (ConnectionTuple.ofPacket pkt) pkt.sport ↔
    (c.dnatRules[pkt.sport]? ≠ none ∨ c.type ≠ .symNat) ∨
    (∃ ev ∈ h, ev.Live c now ∧ ev.Uses c (ConnectionTuple.ofPacket pkt) pkt.sport) ∨
    (¬ ∃ p, ∃ ev ∈ h, ev.Live c now ∧ ev.Uses c (ConnectionTuple.ofPacket pkt) p) ∧
      ¬ InUse c h now pkt.sport := by
  have hown : (ConnectionTuple.ofPacket pkt).sport = pkt.sport := rfl
  unfold SentFrom
  rw [hown, FirstFree.self_iff]
  split
  · rename_i hkeep
    exact iff_of_true rfl (Or.inl hkeep)
  · rename_i hkeep
    exact (or_iff_right hkeep).symm

/-- What leaves the NAT has the bytes and the protocol that came in, and one half of
its addresses. -/
theorem NatRun.step_frame (run : NatRun int c h s) (hle : s.clock ≤ now)
    (hsrc : pkt.isIngoing = false → pkt.srcIp = int)
    (hstep : s.nat.step now pkt = some (nat', some pkt')) :
    pkt'.packetData = pkt.packetData ∧ pkt'.transProt = pkt.transProt := by
  cases hdir : pkt.isIngoing with
  | false =>
    have hv := (run.inv.expire hle).valid
    obtain ⟨port, hr, -⟩ := hv.handlePacket_outgoing hdir (hsrc hdir) hstep
    obtain rfl := Option.some.inj hr
    exact ⟨rfl, rfl⟩
  | true =>
    obtain ⟨r, hr, hto⟩ := run.step_ingoing hle hdir
    rw [hr] at hstep
    obtain ⟨-, rfl⟩ := Prod.mk.inj (Option.some.inj hstep)
    rcases (hto pkt').mp rfl with ⟨rule, -, rfl⟩ | ⟨-, -, ev, -, -, -, rfl⟩
    · exact ⟨rfl, rfl⟩
    · exact ⟨rfl, rfl⟩

/-- **When the NAT keeps the port**, by the history. -/
theorem NatRun.keepsPort_iff (run : NatRun int c h s) (hle : s.clock ≤ now)
    (hsrc : pkt.isIngoing = false → pkt.srcIp = int)
    (hstep : s.nat.step now pkt = some (nat', some pkt')) :
    pkt'.sport = pkt.sport ∧ pkt'.dport = pkt.dport ↔ KeepsPort c h now pkt := by
  cases hdir : pkt.isIngoing with
  | false =>
    have hv := (run.inv.expire hle).valid
    obtain ⟨port, hr, hsends⟩ := hv.handlePacket_outgoing hdir (hsrc hdir) hstep
    obtain rfl := Option.some.inj hr
    have hfrom := run.sentFrom_of_sends hle hsends
    rw [KeepsPort, hdir, if_neg (by decide), ← sentFrom_own_port_iff]
    constructor
    · rintro ⟨hport, -⟩
      rw [show port = pkt.sport from hport] at hfrom
      exact hfrom
    · intro hown
      exact ⟨run.sentFrom_unique hle hfrom hown, rfl⟩
  | true =>
    obtain ⟨r, hr, hto⟩ := run.step_ingoing hle hdir
    rw [hr] at hstep
    obtain ⟨-, rfl⟩ := Prod.mk.inj (Option.some.inj hstep)
    have hone : ∀ p, Forwards int c h now pkt p → p = pkt' :=
      fun p hp => (Option.some.inj ((hto p).mpr hp)).symm
    rw [KeepsPort, hdir, if_pos rfl]
    rcases (hto pkt').mp rfl with ⟨rule, hrule, rfl⟩ | ⟨hnone, hpass, ev, hev, hlive, hu, rfl⟩
    · simp [hrule]
    · constructor
      · rintro ⟨-, hport⟩
        exact Or.inr ⟨hnone, ev, hev, hlive, hu, hport⟩
      · rintro (⟨rule, hrule, -⟩ | ⟨-, ev', hev', hlive', hu', hport⟩)
        · rw [hnone] at hrule
          cases hrule
        · -- both events lead to the one packet that leaves the NAT
          have heq := hone _ (Or.inr ⟨hnone, hpass, ev', hev', hlive', hu', rfl⟩)
          rw [← heq]
          exact ⟨rfl, hport⟩

end Nat

/-! ## Reading back what was written -/

section Wire
variable {order : ByteOrder} {lay : List LibnetCall → List UInt8}

/-- What is written for a packet: a header with its addresses, its ports for TCP and
UDP, the bytes it came with for ICMP. -/
theorem written_layout (hlay : LaysOut order lay) {r : LibnetResults} {l : Bool} {pkt : Packet}
    {calls : List LibnetCall}
    (hw : (OutputLibnet.popHandler order r l (.ok pkt)).written = some calls) :
    ∃ sum rest, lay calls = ipv4Header order (Iphdr.tot_len order pkt.packetData)
        (Iphdr.tos pkt.packetData) pkt.getFragmentID pkt.getFragmentFlags
        (Iphdr.ttl pkt.packetData) (Iphdr.protocol pkt.packetData) sum
        (order.htonl pkt.srcIp) (order.htonl pkt.dstIp) ++ rest ∧
      (Iphdr.protocol pkt.packetData = IPPROTO_UDP ∨ Iphdr.protocol pkt.packetData = IPPROTO_TCP →
        ∃ tail, rest = ByteOrder.big.store16 pkt.sport ++ ByteOrder.big.store16 pkt.dport ++ tail) ∧
      (Iphdr.protocol pkt.packetData = IPPROTO_ICMP →
        rest = (OutputLibnet.ipPayload order pkt.packetData).read pkt.packetData) := by
  obtain ⟨sum, segment, hseg, hbytes⟩ := OutputLibnet.written_segment hlay hw
  refine ⟨sum, segment, hbytes, fun hports => ?_, fun hicmp => ?_⟩
  · cases hseg with
    | udp usum _ => exact exists_udpHeader _ _ _ _ _
    | tcp tsum options _ _ => exact exists_tcpHeader _ _ _ _ _ _ _ _ _ _
    | raw hudp htcp => exact absurd hports (not_or.mpr ⟨hudp, htcp⟩)
  · cases hseg with
    | udp usum hudp =>
      rw [hicmp] at hudp
      exact absurd hudp (by decide)
    | tcp tsum options htcp _ =>
      rw [hicmp] at htcp
      exact absurd htcp (by decide)
    | raw _ _ => rfl

/-- **The wire agrees with the NAT iff the NAT did not translate an ICMP identifier.**
The packet with the bytes `payload` comes to the NAT after any run, leaves it as
`pkt'`, and is written by a run of `popHandler`; what is written is read back. -/
theorem wire_agrees_iff (hlay : LaysOut order lay) {int : UInt32} {c : NatConfig}
    {h : List NatEvent} {s : NatSystem} (run : NatRun int c h s) {now : Nat} (hle : s.clock ≤ now)
    {payload : List UInt8} (hwf : WellFormed order payload) (prior : ParentPacket) (stamp : Nat)
    (packetId : UInt32) {pkt : Packet} {ingoing : Bool}
    (hpkt : pkt = (Packet.construct order prior stamp packetId payload).setIngoing ingoing)
    (hsrc : pkt.isIngoing = false → pkt.srcIp = int) {nat' : NatBox} {pkt' : Packet}
    (hstep : s.nat.step now pkt = some (nat', some pkt')) {r : LibnetResults} {l : Bool}
    {calls : List LibnetCall}
    (hw : (OutputLibnet.popHandler order r l (.ok pkt')).written = some calls)
    (prior' : ParentPacket) (stamp' : Nat) (packetId' : UInt32) :
    SameHeader (Packet.construct order prior' stamp' packetId' (lay calls)) pkt' ↔
      Iphdr.protocol payload ≠ IPPROTO_ICMP ∨ KeepsPort c h now pkt := by
  obtain ⟨hdata, hproto'⟩ := run.step_frame hle hsrc hstep
  have hbytes : pkt'.packetData = payload := by
    rw [hdata, hpkt]
    exact Packet.construct_packetData order prior stamp packetId
  have hproto : pkt'.transProt = Iphdr.protocol payload := by rw [hproto', hpkt]; rfl
  obtain ⟨sum, rest, hlaid, hports, hicmp⟩ := written_layout hlay hw
  rw [hbytes] at hlaid hports hicmp
  obtain ⟨hp, hs, hd, hrest⟩ := read_ipv4Header order (Iphdr.tot_len order payload)
    (Iphdr.tos payload) pkt'.getFragmentID pkt'.getFragmentFlags (Iphdr.ttl payload)
    (Iphdr.protocol payload) sum pkt'.srcIp pkt'.dstIp rest
  rw [← hlaid] at hp hs hd hrest
  have haddr : SameHeader (Packet.construct order prior' stamp' packetId' (lay calls)) pkt' ↔
      (Packet.construct order prior' stamp' packetId' (lay calls)).sport = pkt'.sport ∧
      (Packet.construct order prior' stamp' packetId' (lay calls)).dport = pkt'.dport := by
    constructor
    · rintro ⟨-, -, hsport, hdport, -⟩
      exact ⟨hsport, hdport⟩
    · rintro ⟨hsport, hdport⟩
      exact ⟨hs, hd, hsport, hdport, hp.trans hproto.symm⟩
  rw [haddr]
  by_cases hkind : Iphdr.protocol payload = IPPROTO_ICMP
  · -- both packets have the identifier that lies in the payload
    have hsame : (payload.drop (Iphdr.hdrLen payload).toNat) = rest := by
      have hhdr : (Iphdr.hdrLen payload).toNat ≤ payload.length := by
        rcases hwf.transport with ⟨-, h, -⟩ | ⟨-, h, -⟩ | ⟨-, h, -⟩ <;> omega
      rw [hicmp hkind, OutputLibnet.read_ipPayload hwf.length hhdr]
    obtain ⟨hsport, hdport⟩ :=
      Packet.construct_icmp order prior stamp packetId hkind hsame
    obtain ⟨hsport', hdport'⟩ :=
      Packet.construct_icmp order prior' stamp' packetId' (hp.trans hkind) hrest
    have hs' : pkt.sport = order.load16 (Slice.read ⟨4, 2⟩ rest) := by rw [hpkt]; exact hsport
    have hd' : pkt.dport = order.load16 (Slice.read ⟨4, 2⟩ rest) := by rw [hpkt]; exact hdport
    rw [hsport', hdport', ← hs', show pkt.sport = pkt'.dport ↔ pkt.dport = pkt'.dport by rw [hs', hd'],
      or_iff_right (not_not.mpr hkind), ← run.keepsPort_iff hle hsrc hstep, eq_comm,
      eq_comm (a := pkt.dport)]
  · refine iff_of_true ?_ (Or.inl hkind)
    have hkind' : Iphdr.protocol payload = IPPROTO_UDP ∨ Iphdr.protocol payload = IPPROTO_TCP := by
      rcases hwf.transport with ⟨h, -⟩ | ⟨h, -⟩ | ⟨h, -⟩
      · exact Or.inl h
      · exact Or.inr h
      · exact absurd h hkind
    obtain ⟨tail, rfl⟩ := hports hkind'
    obtain ⟨hsp, hdp, hlen⟩ := read_ports pkt'.sport pkt'.dport tail
    obtain ⟨hsport, hdport⟩ :=
      Packet.construct_ports order prior' stamp' packetId' (by rw [hp]; exact hkind') hrest hlen
    exact ⟨hsport.trans hsp, hdport.trans hdp⟩

end Wire

/-- An empty UDP datagram from 0.0.0.1:5 to 0.0.0.7:80. -/
def datagramBytes : List UInt8 :=
  [0x45, 0, 0, 28, 0, 0, 0, 0, 64, 17, 0, 0, 0, 0, 0, 1, 0, 0, 0, 7, 0, 5, 0, 80, 0, 8, 0, 0]

/-- An echo request from 0.0.0.1 to 0.0.0.`dst`, with identifier 5 on the wire. -/
def echoBytes (dst : UInt8) : List UInt8 :=
  [0x45, 0, 0, 28, 0, 0, 0, 0, 64, 1, 0, 0, 0, 0, 0, 1, 0, 0, 0, dst, 8, 0, 0, 0, 0, 5, 0, 0]

/-- The datagram leaves the NAT, and is written and read back. -/
theorem wire_agrees_datagram :
    ∃ nat' pkt' calls,
      (NatConfig.init { ipExt := 9, ipInt := 1 }).step 0
          ((Packet.construct .little { isIngoing := false } 0 0 datagramBytes).setIngoing false) =
            some (nat', some pkt') ∧
        (OutputLibnet.popHandler .little {} true (.ok pkt')).written = some calls ∧
        SameHeader (.construct .little { isIngoing := true } 0 0 (libnetWrite .little calls))
          pkt' := by
  have run : NatRun 1 { ipExt := 9, ipInt := 1 } [] ⟨_, 0⟩ := .start rfl
  have hwf : WellFormed .little datagramBytes :=
    ⟨by decide, by decide, by decide, by decide, by decide⟩
  have hstep : (NatConfig.init { ipExt := 9, ipInt := 1 }).step 0
      ((Packet.construct .little { isIngoing := false } 0 0 datagramBytes).setIngoing false) =
        some (_, some _) := rfl
  have hw : (OutputLibnet.popHandler .little {} true (.ok (((Packet.construct .little
      { isIngoing := false } 0 0 datagramBytes).setIngoing false).withSource 9 5))).written =
        some _ := rfl
  exact ⟨_, _, _, hstep, hw, (wire_agrees_iff (libnetWrite_laysOut .little) run (Nat.le_refl 0) hwf
    { isIngoing := false } 0 0 rfl (fun _ => rfl) hstep hw _ 0 0).mpr (Or.inl (by decide))⟩

/-- **A translated identifier does not reach the wire**: two echo requests with one
identifier go out through a symmetric NAT, the second under another identifier;
but what is written has the old one. -/
theorem wire_disagrees_echo :
    ∃ h s, NatRun 1 { ipExt := 9, ipInt := 1, type := .symNat } h s ∧
      WellFormed .little (echoBytes 8) ∧ ∃ nat' pkt' calls,
        s.nat.step 1 (.construct .little { isIngoing := false } 0 0 (echoBytes 8)) =
            some (nat', some pkt') ∧
          (OutputLibnet.popHandler .little {} true (.ok pkt')).written = some calls ∧
          ¬ SameHeader (.construct .little { isIngoing := true } 0 0 (libnetWrite .little calls))
            pkt' := by
  have run : NatRun 1 { ipExt := 9, ipInt := 1, type := .symNat } _ _ :=
    .first 0 (.construct .little { isIngoing := false } 0 0 (echoBytes 7))
      (fun _ => rfl) rfl
  refine ⟨_, _, run, ⟨by decide, by decide, by decide, by decide, by decide⟩, _, _, _, rfl, rfl, ?_⟩
  rintro ⟨-, -, hsport, -⟩
  revert hsport
  decide

end ShapingRouter
