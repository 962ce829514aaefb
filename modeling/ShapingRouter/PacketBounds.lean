import Mathlib
import ShapingRouter.Library.Checked
import ShapingRouter.OutputLibnet

/-! # Reads inside the packet

The constructors read the ports wherever the IP header says that the transport header
is, and `OutputLibnet::popHandler` cuts a packet up by the lengths it finds in it; what
the kernel has checked is the IP header only.  The checked twins of these functions make
the same accesses in the same order and stop at the first one that leaves the bytes, and
at the first length that wraps below zero.  They get through, with the result of the code,
just where the transport header is long enough (`constructors_in_bounds_iff`), and where
its own length fields agree with the bytes there are (`reencoding_in_bounds_iff`).
-/

namespace ShapingRouter
open Library

/-- What the kernel has checked of an IPv4 packet. -/
structure IpFramed (order : ByteOrder) (bytes : List UInt8) : Prop where
  header : 20 ≤ (Iphdr.hdrLen bytes).toNat
  fits : (Iphdr.hdrLen bytes).toNat ≤ bytes.length
  length : (Iphdr.tot_len order bytes).toNat = bytes.length

/-! ## Checked reads -/

def Slice.read? (s : Slice) (bytes : List UInt8) : Option (List UInt8) :=
  checkedRange bytes s.off s.len

def byteAt? (bytes : List UInt8) (off : Nat) : Option UInt8 := bytes[off]?

section Fields
variable (order : ByteOrder) (bytes : List UInt8) (off : Nat)

/-- A 16-bit field, in host order. -/
def host16? : Option UInt16 := (Slice.read? ⟨off, 2⟩ bytes).map order.load16
def host32? : Option UInt32 := (Slice.read? ⟨off, 4⟩ bytes).map order.load32
/-- A 16-bit field, in network order. -/
def net16? : Option UInt16 := (host16? order bytes off).map order.ntohs
def net32? : Option UInt32 := (host32? order bytes off).map order.ntohl

theorem Slice.checks (s : Slice) :
    Checks (s.read? bytes) (s.read bytes) (s.off + s.len ≤ bytes.length) :=
  .range bytes s.off s.len

theorem byteAt_checks : Checks (byteAt? bytes off) (byteAt bytes off) (off < bytes.length) :=
  .getElem? bytes off 0

theorem host16_checks : Checks (host16? order bytes off)
    (order.load16 (Slice.read ⟨off, 2⟩ bytes)) (off + 2 ≤ bytes.length) :=
  (Slice.checks bytes ⟨off, 2⟩).map

theorem host32_checks : Checks (host32? order bytes off)
    (order.load32 (Slice.read ⟨off, 4⟩ bytes)) (off + 4 ≤ bytes.length) :=
  (Slice.checks bytes ⟨off, 4⟩).map

theorem net16_checks : Checks (net16? order bytes off)
    (order.ntohs (order.load16 (Slice.read ⟨off, 2⟩ bytes))) (off + 2 ≤ bytes.length) :=
  (host16_checks order bytes off).map

theorem net32_checks : Checks (net32? order bytes off)
    (order.ntohl (order.load32 (Slice.read ⟨off, 4⟩ bytes))) (off + 4 ≤ bytes.length) :=
  (host32_checks order bytes off).map

end Fields

/-- `ihl << 2`. -/
def Iphdr.hdrLen? (bytes : List UInt8) : Option UInt8 :=
  (byteAt? bytes 0).map fun b : UInt8 => (b &&& 0x0F) <<< 2

theorem Iphdr.hdrLen_checks (bytes : List UInt8) :
    Checks (Iphdr.hdrLen? bytes) (Iphdr.hdrLen bytes) (0 < bytes.length) :=
  (byteAt_checks bytes 0).map

/-! ## The constructors -/

/-- `decodeTransportProtocol`, checked. -/
def ParentPacket.decodeTransportProtocol? (order : ByteOrder) (p : ParentPacket)
    (transProt : UInt8) (transHdr : List UInt8) : Option ParentPacket :=
  if transProt = IPPROTO_UDP ∨ transProt = IPPROTO_TCP then do
    let sport ← net16? order transHdr 0
    let dport ← net16? order transHdr 2
    return { p with sport := sport, dport := dport }
  else if transProt = IPPROTO_ICMP ∨ transProt = IPPROTO_ICMPV6 then do
    let id ← host16? order transHdr 4
    return { p with icmpId := id, sport := id, dport := id }
  else return p

/-- The bytes that the decoder reads: the ports, or the identifier of an echo. -/
structure HoldsPorts (transProt : UInt8) (len : Nat) : Prop where
  ports : transProt = IPPROTO_UDP ∨ transProt = IPPROTO_TCP → 4 ≤ len
  identifier : transProt = IPPROTO_ICMP ∨ transProt = IPPROTO_ICMPV6 → 6 ≤ len

theorem ParentPacket.decodeTransportProtocol_checks (order : ByteOrder) (p : ParentPacket)
    (transProt : UInt8) (transHdr : List UInt8) :
    Checks (p.decodeTransportProtocol? order transProt transHdr)
      (p.decodeTransportProtocol order transProt transHdr)
      (HoldsPorts transProt transHdr.length) := by
  unfold decodeTransportProtocol? decodeTransportProtocol
  refine .ite (fun hports => ?_) fun hports => .ite (fun hid => ?_) fun hid => ?_
  · have hno : ¬(transProt = IPPROTO_ICMP ∨ transProt = IPPROTO_ICMPV6) := by
      rcases hports with rfl | rfl <;> decide
    refine Checks.congr (.bind (net16_checks order transHdr 0) fun _ =>
      .bind (net16_checks order transHdr 2) fun _ => .pure _) ?_
    refine ⟨fun h => ⟨fun _ => ?_, fun h' => absurd h' hno⟩, fun h => ?_⟩
    · omega
    · have hlen := h.ports hports
      exact ⟨by omega, by omega, trivial⟩
  · refine Checks.congr (.bind (host16_checks order transHdr 4) fun _ => .pure _) ?_
    refine ⟨fun h => ⟨fun h' => absurd h' hports, fun _ => ?_⟩, fun h => ?_⟩
    · omega
    · have hlen := h.identifier hid
      exact ⟨by omega, trivial⟩
  · exact (Checks.pure p).congr ⟨fun _ => ⟨fun h => absurd h hports, fun h => absurd h hid⟩,
      fun _ => trivial⟩

/-- `Packet(qh, nfa)`, checked. -/
def Packet.construct? (order : ByteOrder) (prior : ParentPacket) (stamp : Nat)
    (packetId : UInt32) (payload : List UInt8) : Option Packet := do
  let fragOff ← net16? order payload 6
  let protocol ← byteAt? payload 9
  let hdrLen ← Iphdr.hdrLen? payload
  let saddr ← net32? order payload 12
  let daddr ← net32? order payload 16
  let parent ← ParentPacket.decodeTransportProtocol? order
    { prior with
      stamp := stamp
      verdictSet := false
      nfqID := order.ntohl packetId
      packetData := payload }
    protocol (payload.drop hdrLen.toNat)
  return {
    toParentPacket := parent
    transProt := protocol
    srcIp := saddr
    dstIp := daddr
    ipFrag := fragOff
    ipHdrLen := hdrLen }

/-- An IPv6 address in a header. -/
def in6Addr? (bytes : List UInt8) (off : Nat) : Option In6Addr :=
  (Slice.read? ⟨off, 16⟩ bytes).map fun _ => Vector.ofFn fun i => byteAt bytes (off + i)

/-- `Packet6(qh, nfa)`, checked. -/
def Packet6.construct? (order : ByteOrder) (prior : ParentPacket) (stamp : Nat)
    (packetId : UInt32) (payload : List UInt8) : Option Packet6 := do
  let flow ← host32? order payload 0
  let plen ← net16? order payload 4
  let nxt ← byteAt? payload 6
  let hlim ← byteAt? payload 7
  let src ← in6Addr? payload 8
  let dst ← in6Addr? payload 24
  let parent ← ParentPacket.decodeTransportProtocol? order
    { prior with
      stamp := stamp
      verdictSet := false
      nfqID := order.ntohl packetId
      packetData := payload }
    nxt (payload.drop 40)
  return {
    toParentPacket := parent
    flow := flow
    plen := plen
    nxt := nxt
    hlim := hlim
    srcIp := src
    dstIp := dst }

theorem in6Addr_checks (bytes : List UInt8) (off : Nat) : Checks (in6Addr? bytes off)
    (Vector.ofFn fun i => byteAt bytes (off + i)) (off + 16 ≤ bytes.length) :=
  (Slice.checks bytes ⟨off, 16⟩).map

section Construct
variable (order : ByteOrder) (prior : ParentPacket) (stamp : Nat) (packetId : UInt32)
  {payload : List UInt8}

theorem Packet.construct_checks (hv : IpFramed order payload) :
    Checks (Packet.construct? order prior stamp packetId payload)
      (Packet.construct order prior stamp packetId payload)
      (HoldsPorts (Iphdr.protocol payload) (payload.length - (Iphdr.hdrLen payload).toNat)) := by
  have hheader := hv.header
  have hfits := hv.fits
  refine Checks.congr (.bind (net16_checks order payload 6) fun _ =>
    .bind (byteAt_checks payload 9) fun _ => .bind (Iphdr.hdrLen_checks payload) fun _ =>
    .bind (net32_checks order payload 12) fun _ => .bind (net32_checks order payload 16) fun _ =>
    .bind (ParentPacket.decodeTransportProtocol_checks order _ _ _) fun _ => .pure _) ?_
  rw [List.length_drop]
  constructor
  · rintro ⟨-, -, -, -, -, hports, -⟩
    exact hports
  · intro hports
    exact ⟨by omega, by omega, by omega, by omega, by omega, hports, trivial⟩

theorem Packet6.construct_checks (hlen : 40 ≤ payload.length) :
    Checks (Packet6.construct? order prior stamp packetId payload)
      (Packet6.construct order prior stamp packetId payload)
      (HoldsPorts (Ip6Hdr.ip6_nxt payload) (payload.length - 40)) := by
  refine Checks.congr (.bind (host32_checks order payload 0) fun _ =>
    .bind (net16_checks order payload 4) fun _ => .bind (byteAt_checks payload 6) fun _ =>
    .bind (byteAt_checks payload 7) fun _ => .bind (in6Addr_checks payload 8) fun _ =>
    .bind (in6Addr_checks payload 24) fun _ =>
    .bind (ParentPacket.decodeTransportProtocol_checks order _ _ _) fun _ => .pure _) ?_
  rw [List.length_drop]
  constructor
  · rintro ⟨-, -, -, -, -, -, hports, -⟩
    exact hports
  · intro hports
    exact ⟨by omega, by omega, by omega, by omega, by omega, by omega, hports, trivial⟩

end Construct

/-- **When the constructors stay inside the packet.**  The checked constructors get
through, with the packet that the code makes, iff what follows the IP header holds the
ports of UDP and TCP, or the identifier of ICMP and ICMPv6. -/
theorem constructors_in_bounds_iff (order : ByteOrder) (prior : ParentPacket) (stamp : Nat)
    (packetId : UInt32) (payload : List UInt8) :
    (IpFramed order payload →
      (Packet.construct? order prior stamp packetId payload =
          some (Packet.construct order prior stamp packetId payload) ↔
        HoldsPorts (Iphdr.protocol payload) (payload.length - (Iphdr.hdrLen payload).toNat)) ∧
      (Packet.construct? order prior stamp packetId payload = none ↔
        ¬HoldsPorts (Iphdr.protocol payload)
          (payload.length - (Iphdr.hdrLen payload).toNat))) ∧
    (40 ≤ payload.length →
      (Packet6.construct? order prior stamp packetId payload =
          some (Packet6.construct order prior stamp packetId payload) ↔
        HoldsPorts (Ip6Hdr.ip6_nxt payload) (payload.length - 40)) ∧
      (Packet6.construct? order prior stamp packetId payload = none ↔
        ¬HoldsPorts (Ip6Hdr.ip6_nxt payload) (payload.length - 40))) := by
  constructor
  · intro hv
    have hchecks := Packet.construct_checks order prior stamp packetId hv
    exact ⟨hchecks.eq_some_iff, hchecks.eq_none_iff⟩
  · intro hlen
    have hchecks := Packet6.construct_checks order prior stamp packetId hlen
    exact ⟨hchecks.eq_some_iff, hchecks.eq_none_iff⟩

/-- An IPv4 header for `len` bytes of UDP. -/
def udpIpHeader (len : UInt8) : List UInt8 :=
  [0x45, 0, 0, 20 + len, 0, 0, 0, 0, 64, 17, 0, 0, 0, 0, 0, 1, 0, 0, 0, 7]

/-- Nothing follows the IP header, and the ports are read all the same. -/
theorem constructor_out_of_bounds :
    IpFramed .little (udpIpHeader 0) ∧
      Packet.construct? .little { isIngoing := false } 0 0 (udpIpHeader 0) = none :=
  ⟨⟨by decide, by decide, by decide⟩, rfl⟩

/-- A UDP header is long enough. -/
theorem constructor_in_bounds_datagram :
    Packet.construct? .little { isIngoing := false } 0 0
        (udpIpHeader 8 ++ [0, 5, 0, 80, 0, 8, 0, 0]) =
      some (Packet.construct .little { isIngoing := false } 0 0
        (udpIpHeader 8 ++ [0, 5, 0, 80, 0, 8, 0, 0])) :=
  ((constructors_in_bounds_iff .little { isIngoing := false } 0 0
    (udpIpHeader 8 ++ [0, 5, 0, 80, 0, 8, 0, 0])).1 ⟨by decide, by decide, by decide⟩).1.mpr
    ⟨by decide, by decide⟩

/-! ## Re-encoding -/

namespace OutputLibnet
variable (order : ByteOrder) (pktData : List UInt8)

/-- The bytes after the IP header, checked. -/
def ipPayload? (hdrLen : Nat) : Option (List UInt8) := do
  let totLen ← net16? order pktData 2
  let size ← checkedSub totLen.toNat hdrLen
  Slice.read? ⟨hdrLen, size⟩ pktData

/-- The call of `libnet_build_udp`, checked. -/
def udpCall? (pkt : Packet) (hdrLen : Nat) : Option LibnetCall := do
  let ulen ← net16? order pktData (hdrLen + 4)
  let size ← checkedSub ulen.toNat 8
  let payload ← Slice.read? ⟨hdrLen + 8, size⟩ pktData
  return .buildUdp pkt.sport pkt.dport ulen 0 payload

/-- The sizes of the TCP options and of the TCP payload, checked. -/
def tcpSizes? (hdrLen : Nat) : Option (Nat × Nat) := do
  let offset ← byteAt? pktData (hdrLen + 12)
  let optionsSize ← checkedSub (4 * (offset >>> 4).toNat) 20
  let payloadSize ← checkedSub pktData.length (hdrLen + 20 + optionsSize)
  return (optionsSize, payloadSize)

/-- The call of `libnet_build_tcp`, checked. -/
def tcpCall? (pkt : Packet) (hdrLen optionsSize payloadSize : Nat) : Option LibnetCall := do
  let seq ← net32? order pktData (hdrLen + 4)
  let ack ← net32? order pktData (hdrLen + 8)
  let flags ← byteAt? pktData (hdrLen + 13)
  let win ← net16? order pktData (hdrLen + 14)
  let urp ← net16? order pktData (hdrLen + 18)
  let payload ← Slice.read? ⟨hdrLen + 20 + optionsSize, payloadSize⟩ pktData
  return .buildTcp pkt.sport pkt.dport seq ack flags win 0 urp
    (UInt16.ofNat (hdrLen + 20 + optionsSize + payloadSize)) payload

/-- The two calls for a TCP segment, checked. -/
def tcpCalls? (r : LibnetResults) (pkt : Packet) (hdrLen : Nat) :
    Option (Option (List LibnetCall × List UInt8)) := do
  let sizes ← tcpSizes? pktData hdrLen
  let options ← Slice.read? ⟨hdrLen + 20, sizes.1⟩ pktData
  if r.buildTcpOptions then
    let call ← tcpCall? order pktData pkt hdrLen sizes.1 sizes.2
    return if r.buildTcp then some ([.buildTcpOptions options, call], []) else none
  else return none

/-- The transport part, checked: `none` where an access or a length leaves its range,
`some none` where a libnet function fails. -/
def buildTransport? (r : LibnetResults) (pkt : Packet) :
    Option (Option (List LibnetCall × List UInt8)) := do
  let hdrLen := (← Iphdr.hdrLen? pktData).toNat
  let protocol ← byteAt? pktData 9
  if protocol = IPPROTO_ICMP then
    let payload ← ipPayload? order pktData hdrLen
    return some ([], payload)
  else if protocol = IPPROTO_UDP then
    let call ← udpCall? order pktData pkt hdrLen
    return if r.buildUdp then some ([call], []) else none
  else if protocol = IPPROTO_TCP then
    tcpCalls? order pktData r pkt hdrLen
  else
    let payload ← ipPayload? order pktData hdrLen
    return some ([], payload)

/-- The call of `libnet_build_ipv4`, checked. -/
def ipCall? (pkt : Packet) (pData : List UInt8) : Option LibnetCall := do
  let totLen ← net16? order pktData 2
  let tos ← byteAt? pktData 1
  let ttl ← byteAt? pktData 8
  let protocol ← byteAt? pktData 9
  return .buildIpv4 totLen tos pkt.getFragmentID pkt.getFragmentFlags ttl protocol 0
    (order.htonl pkt.srcIp) (order.htonl pkt.dstIp) pData

/-- `OutputLibnet::popHandler` with a libnet handle, checked. -/
def writePacket? (r : LibnetResults) (pkt : Packet) : Option PopRun := do
  match ← buildTransport? order pkt.packetData r pkt with
  | none => return ⟨true, none, false⟩
  | some (calls, pData) =>
    let call ← ipCall? order pkt.packetData pkt pData
    return if r.buildIp then
      if r.write then ⟨true, some (calls ++ [call]), true⟩ else ⟨true, none, false⟩
    else ⟨true, none, false⟩

/-- `OutputLibnet::popHandler`, checked. -/
def popHandler? (r : LibnetResults) (l : Bool) : Delivery Packet → Option PopRun
  | .stopped => some ⟨l, none, false⟩
  | .ok pkt => if l || r.init then writePacket? order r pkt else some ⟨false, none, false⟩

/-- The length field of a UDP datagram counts its header, and no more than there is. -/
def HoldsUdp : Prop :=
  8 ≤ (transport16 order pktData 4).toNat ∧
    ipHdrLen pktData + (transport16 order pktData 4).toNat ≤ pktData.length

/-- A TCP header is there, and its data offset counts it and no more than there is. -/
def HoldsTcp : Prop :=
  ipHdrLen pktData + 20 ≤ pktData.length ∧
    5 ≤ (byteAt pktData (ipHdrLen pktData + 12) >>> 4).toNat ∧
    ipHdrLen pktData + 4 * (byteAt pktData (ipHdrLen pktData + 12) >>> 4).toNat ≤ pktData.length

/-- The lengths in the transport header agree with the bytes there are. -/
structure HoldsTransport : Prop where
  udp : Iphdr.protocol pktData = IPPROTO_UDP → HoldsUdp order pktData
  tcp : Iphdr.protocol pktData = IPPROTO_TCP → HoldsTcp pktData

section Checks
variable {order pktData} (hv : IpFramed order pktData)

/-! ### The lengths, where none of them wraps -/

theorem ipPayload_eq
    (hle : ipHdrLen pktData ≤ (Iphdr.tot_len order pktData).toNat) : ipPayload order pktData =
      ⟨ipHdrLen pktData, (Iphdr.tot_len order pktData).toNat - ipHdrLen pktData⟩ := by
  have hle' : (Iphdr.hdrLen pktData).toUInt32 ≤ (Iphdr.tot_len order pktData).toUInt32 := by
    rw [UInt32.le_iff_toNat_le, UInt8.toNat_toUInt32, UInt16.toNat_toUInt32]
    exact hle
  rw [ipPayload, UInt32.toNat_sub_of_le _ _ hle', UInt16.toNat_toUInt32, UInt8.toNat_toUInt32]
  rfl

theorem udpPayload_eq (hle : 8 ≤ (transport16 order pktData 4).toNat) :
    udpPayload order pktData =
      ⟨ipHdrLen pktData + 8, (transport16 order pktData 4).toNat - 8⟩ := by
  have hle' : 8 ≤ (transport16 order pktData 4).toUInt32 := by
    rw [UInt32.le_iff_toNat_le, UInt16.toNat_toUInt32]
    exact hle
  rw [udpPayload, UInt32.toNat_sub_of_le _ _ hle', UInt16.toNat_toUInt32]
  rfl

theorem tcpOptionsSize_eq
    (hle : 20 ≤ 4 * (byteAt pktData (ipHdrLen pktData + 12) >>> 4).toNat) :
    (tcpOptionsSize pktData).toNat =
      4 * (byteAt pktData (ipHdrLen pktData + 12) >>> 4).toNat - 20 := by
  have hbyte := (byteAt pktData (ipHdrLen pktData + 12)).toNat_lt
  have hword : (byteAt pktData (ipHdrLen pktData + 12) >>> 4).toNat < 16 := by
    rw [UInt8.toNat_shiftRight]
    show (byteAt pktData (ipHdrLen pktData + 12)).toNat >>> 4 < 16
    omega
  have hshift : ((byteAt pktData (ipHdrLen pktData + 12) >>> 4) <<< 2).toNat =
      4 * (byteAt pktData (ipHdrLen pktData + 12) >>> 4).toNat := by
    rw [UInt8.toNat_shiftLeft]
    show (byteAt pktData (ipHdrLen pktData + 12) >>> 4).toNat <<< 2 % 256 = _
    omega
  rw [tcpOptionsSize, UInt8.toNat_sub_of_le, hshift]
  · rfl
  · rw [UInt8.le_iff_toNat_le, hshift]
    exact hle

theorem tcpPayloadSize_eq (hlt : pktData.length < 2 ^ 16)
    (hle : ipHdrLen pktData + 20 + (tcpOptionsSize pktData).toNat ≤ pktData.length) :
    (tcpPayloadSize pktData).toNat =
      pktData.length - (ipHdrLen pktData + 20 + (tcpOptionsSize pktData).toNat) := by
  have hhdr : (Iphdr.hdrLen pktData).toUInt32.toNat = ipHdrLen pktData := rfl
  have hopt : (tcpOptionsSize pktData).toUInt32.toNat = (tcpOptionsSize pktData).toNat := rfl
  have hlen : (UInt32.ofNat pktData.length).toNat = pktData.length := by
    rw [UInt32.toNat_ofNat']
    omega
  have hsub : (UInt32.ofNat pktData.length - (Iphdr.hdrLen pktData).toUInt32).toNat =
      pktData.length - ipHdrLen pktData := by
    rw [UInt32.toNat_sub_of_le, hlen, hhdr]
    rw [UInt32.le_iff_toNat_le, hlen, hhdr]
    omega
  have hsub' : (UInt32.ofNat pktData.length - (Iphdr.hdrLen pktData).toUInt32 - 20).toNat =
      pktData.length - ipHdrLen pktData - 20 := by
    rw [UInt32.toNat_sub_of_le, hsub]
    · rfl
    · rw [UInt32.le_iff_toNat_le, hsub]
      show 20 ≤ _
      omega
  rw [tcpPayloadSize, UInt32.toNat_sub_of_le, hsub', hopt]
  · omega
  · rw [UInt32.le_iff_toNat_le, hsub', hopt]
    omega

/-- The length that `libnet_build_tcp` is told counts the IP header as well. -/
theorem tcpLength_eq : ((Iphdr.hdrLen pktData).toUInt32 + 20 + (tcpOptionsSize pktData).toUInt32 +
    tcpPayloadSize pktData).toUInt16 = UInt16.ofNat (ipHdrLen pktData + 20 +
      (tcpOptionsSize pktData).toNat + (tcpPayloadSize pktData).toNat) := by
  have hhdr : (Iphdr.hdrLen pktData).toUInt32.toNat = ipHdrLen pktData := rfl
  have hopt : (tcpOptionsSize pktData).toUInt32.toNat = (tcpOptionsSize pktData).toNat := rfl
  have htwenty : (20 : UInt32).toNat = 20 := rfl
  rw [← UInt16.toNat_inj, UInt32.toNat_toUInt16, UInt16.toNat_ofNat', UInt32.toNat_add,
    UInt32.toNat_add, UInt32.toNat_add, hhdr, hopt, htwenty]
  omega

/-! ### The twins -/

include hv in
theorem ipPayload_checks : Checks (ipPayload? order pktData (ipHdrLen pktData))
    ((ipPayload order pktData).read pktData) True := by
  have hheader := hv.header
  have hfits := hv.fits
  have hlength := hv.length
  have hle : ipHdrLen pktData ≤ (Iphdr.tot_len order pktData).toNat := by
    rw [hlength]
    exact hfits
  rw [ipPayload_eq hle]
  refine Checks.congr (.bind (net16_checks order pktData 2) fun _ =>
    .bind (.sub _ _) fun _ => Slice.checks pktData ⟨_, _⟩) ⟨fun _ => trivial, fun _ => ?_⟩
  refine ⟨by omega, hle, ?_⟩
  show ipHdrLen pktData + ((Iphdr.tot_len order pktData).toNat - ipHdrLen pktData) ≤ _
  omega

theorem udpCall_checks (pkt : Packet) :
    Checks (udpCall? order pktData pkt (ipHdrLen pktData)) (udpCall order pktData pkt)
      (HoldsUdp order pktData) := by
  have hsequence : Checks (udpCall? order pktData pkt (ipHdrLen pktData))
      (udpCall order pktData pkt) (ipHdrLen pktData + 4 + 2 ≤ pktData.length ∧
        8 ≤ (transport16 order pktData 4).toNat ∧
        ipHdrLen pktData + 8 + ((transport16 order pktData 4).toNat - 8) ≤ pktData.length ∧
        True) := by
    refine .bind (net16_checks order pktData (ipHdrLen pktData + 4)) fun _ =>
      .bind (.sub _ _) fun hle => ?_
    rw [udpCall, udpPayload_eq hle]
    exact .bind (Slice.checks pktData ⟨_, _⟩) fun _ => .pure _
  refine hsequence.congr ⟨?_, ?_⟩
  · rintro ⟨-, hmin, hfits, -⟩
    exact ⟨hmin, by omega⟩
  · rintro ⟨hmin, hfits⟩
    exact ⟨by omega, hmin, by omega, trivial⟩

theorem tcpSizes_checks :
    Checks (tcpSizes? pktData (ipHdrLen pktData))
      (4 * (byteAt pktData (ipHdrLen pktData + 12) >>> 4).toNat - 20,
        pktData.length - (ipHdrLen pktData + 20 +
          (4 * (byteAt pktData (ipHdrLen pktData + 12) >>> 4).toNat - 20)))
      (HoldsTcp pktData) := by
  refine Checks.congr (.bind (byteAt_checks pktData (ipHdrLen pktData + 12)) fun _ =>
    .bind (.sub _ _) fun _ => .bind (.sub _ _) fun _ => .pure _) ⟨?_, ?_⟩
  · rintro ⟨-, hmin, hfits, -⟩
    exact ⟨by omega, by omega, by omega⟩
  · rintro ⟨hlen, hmin, hfits⟩
    exact ⟨by omega, by omega, by omega, trivial⟩

theorem tcpCall_checks (hlt : pktData.length < 2 ^ 16) (htcp : HoldsTcp pktData) (pkt : Packet) :
    Checks (tcpCall? order pktData pkt (ipHdrLen pktData)
      (4 * (byteAt pktData (ipHdrLen pktData + 12) >>> 4).toNat - 20)
      (pktData.length - (ipHdrLen pktData + 20 +
          (4 * (byteAt pktData (ipHdrLen pktData + 12) >>> 4).toNat - 20))))
      (tcpCall order pktData pkt) True := by
  obtain ⟨hlen, hmin, hfits⟩ := htcp
  have hopt : (tcpOptionsSize pktData).toNat =
      4 * (byteAt pktData (ipHdrLen pktData + 12) >>> 4).toNat - 20 :=
    tcpOptionsSize_eq (by omega)
  have hsize := tcpPayloadSize_eq hlt (by omega)
  rw [tcpCall, tcpPayload, tcpLength_eq, hsize, hopt]
  refine Checks.congr (.bind (net32_checks order pktData _) fun _ =>
    .bind (net32_checks order pktData _) fun _ => .bind (byteAt_checks pktData _) fun _ =>
    .bind (net16_checks order pktData _) fun _ => .bind (net16_checks order pktData _) fun _ =>
    .bind (Slice.checks pktData ⟨_, _⟩) fun _ => .pure _) ⟨fun _ => trivial, fun _ => ?_⟩
  refine ⟨by omega, by omega, by omega, by omega, by omega, ?_, trivial⟩
  dsimp only
  omega

theorem tcpCalls_checks (hlt : pktData.length < 2 ^ 16) (r : LibnetResults) (pkt : Packet) :
    Checks (tcpCalls? order pktData r pkt (ipHdrLen pktData))
      (if r.buildTcpOptions then
        if r.buildTcp then
          some ([.buildTcpOptions ((tcpOptions pktData).read pktData), tcpCall order pktData pkt], [])
        else none
      else none) (HoldsTcp pktData) := by
  apply Checks.congr ?_ (and_iff_left trivial : HoldsTcp pktData ∧ True ↔ HoldsTcp pktData)
  refine .bind tcpSizes_checks fun htcp => ?_
  have hcall : Checks _ (tcpCall order pktData pkt) True := tcpCall_checks hlt htcp pkt
  obtain ⟨-, hmin, hfits⟩ := htcp
  have hopt : tcpOptions pktData = ⟨ipHdrLen pktData + 20,
      4 * (byteAt pktData (ipHdrLen pktData + 12) >>> 4).toNat - 20⟩ := by
    rw [tcpOptions, tcpOptionsSize_eq (by omega)]
  rw [hopt]
  refine Checks.congr (.bind (Slice.checks pktData ⟨_, _⟩) fun _ => .ite (P := True) (fun _ => ?_)
    fun _ => .pure none) ⟨fun _ => trivial, fun _ => ⟨?_, trivial⟩⟩
  · exact Checks.congr (.bind hcall fun _ => .pure _) ⟨fun _ => trivial, fun _ => ⟨trivial, trivial⟩⟩
  · dsimp only
    omega

include hv in
theorem buildTransport_checks (r : LibnetResults) (pkt : Packet) :
    Checks (buildTransport? order pktData r pkt) (buildTransport order pktData r pkt)
      (HoldsTransport order pktData) := by
  have hheader := hv.header
  have hfits := hv.fits
  have hlt : pktData.length < 2 ^ 16 := by
    rw [← hv.length]
    exact UInt16.toNat_lt _
  -- the IP header is there, and only the branch of the protocol checks anything
  suffices hbranch : Checks _ (buildTransport order pktData r pkt) (HoldsTransport order pktData) by
    refine Checks.congr (.bind (Iphdr.hdrLen_checks pktData) fun _ =>
      .bind (byteAt_checks pktData 9) fun _ => hbranch) ⟨fun h => h.2.2, fun h => ?_⟩
    exact ⟨by omega, by omega, h⟩
  unfold buildTransport
  refine .ite (fun hicmp => ?_) fun hicmp => .ite (fun hudp => ?_) fun hudp =>
    .ite (fun htcp => ?_) fun htcp => ?_
  · refine Checks.congr (.bind (ipPayload_checks hv) fun _ => .pure _)
      ⟨fun _ => ⟨fun h => ?_, fun h => ?_⟩, fun _ => ⟨trivial, trivial⟩⟩
    · exact absurd (hicmp.symm.trans h) (by decide)
    · exact absurd (hicmp.symm.trans h) (by decide)
  · refine Checks.congr (.bind (udpCall_checks pkt) fun _ => .pure _)
      ⟨fun h => ⟨fun _ => h.1, fun htcp => ?_⟩, fun h => ⟨h.udp hudp, trivial⟩⟩
    exact absurd (hudp.symm.trans htcp) (by decide)
  · exact (tcpCalls_checks hlt r pkt).congr
      ⟨fun h => ⟨fun h' => absurd h' hudp, fun _ => h⟩, fun h => h.tcp htcp⟩
  · exact Checks.congr (.bind (ipPayload_checks hv) fun _ => .pure _)
      ⟨fun _ => ⟨fun h => absurd h hudp, fun h => absurd h htcp⟩, fun _ => ⟨trivial, trivial⟩⟩

include hv in
theorem ipCall_checks (pkt : Packet) (pData : List UInt8) :
    Checks (ipCall? order pktData pkt pData) (ipCall order pktData pkt pData) True := by
  have hheader := hv.header
  have hfits := hv.fits
  exact Checks.congr (.bind (net16_checks order pktData 2) fun _ =>
    .bind (byteAt_checks pktData 1) fun _ => .bind (byteAt_checks pktData 8) fun _ =>
    .bind (byteAt_checks pktData 9) fun _ => .pure _)
    ⟨fun _ => trivial, fun _ => ⟨by omega, by omega, by omega, by omega, trivial⟩⟩

end Checks

theorem writePacket_checks {order : ByteOrder} {pkt : Packet} (hv : IpFramed order pkt.packetData)
    (r : LibnetResults) :
    Checks (writePacket? order r pkt) (writePacket order r pkt)
      (HoldsTransport order pkt.packetData) := by
  apply Checks.congr ?_ (and_iff_left trivial :
    HoldsTransport order pkt.packetData ∧ True ↔ HoldsTransport order pkt.packetData)
  refine .bind (buildTransport_checks hv r pkt) fun _ => ?_
  rw [writePacket]
  cases buildTransport order pkt.packetData r pkt with
  | none => exact .pure _
  | some built =>
    obtain ⟨calls, pData⟩ := built
    exact Checks.congr (.bind (ipCall_checks hv pkt pData) fun _ => .pure _)
      ⟨fun _ => trivial, fun _ => ⟨trivial, trivial⟩⟩

/-- A run looks at the packet only if it has a libnet handle. -/
theorem popHandler_checks {order : ByteOrder} {pkt : Packet} (hv : IpFramed order pkt.packetData)
    (r : LibnetResults) (l : Bool) :
    Checks (popHandler? order r l (.ok pkt)) (popHandler order r l (.ok pkt))
      (l = true ∨ r.init = true → HoldsTransport order pkt.packetData) := by
  rw [← Bool.or_eq_true]
  refine .ite (fun hhandle => ?_) fun hhandle => ?_
  · exact (writePacket_checks hv r).congr ⟨fun h _ => h, fun h => h hhandle⟩
  · exact (Checks.pure _).congr ⟨fun _ h => absurd h hhandle, fun _ => trivial⟩

end OutputLibnet

/-- **When re-encoding stays inside the packet.**  For a packet whose IP header the kernel
has checked, the checked `popHandler` gets through, with the result of the code, iff there
is no libnet handle, or the lengths in the transport header agree with the bytes there
are. -/
theorem reencoding_in_bounds_iff (order : ByteOrder) (r : LibnetResults) (l : Bool)
    {pkt : Packet} (hv : IpFramed order pkt.packetData) :
    (OutputLibnet.popHandler? order r l (.ok pkt) =
        some (OutputLibnet.popHandler order r l (.ok pkt)) ↔
      (l = true ∨ r.init = true → OutputLibnet.HoldsTransport order pkt.packetData)) ∧
    (OutputLibnet.popHandler? order r l (.ok pkt) = none ↔
      ¬(l = true ∨ r.init = true → OutputLibnet.HoldsTransport order pkt.packetData)) := by
  have hchecks := OutputLibnet.popHandler_checks hv r l
  exact ⟨hchecks.eq_some_iff, hchecks.eq_none_iff⟩

/-- A datagram of 8 bytes that says it has 1000: libnet is handed 992 bytes that begin
where the packet ends. -/
theorem reencoding_out_of_bounds :
    ∃ pkt : Packet, pkt = Packet.construct .little { isIngoing := false } 0 0
        (udpIpHeader 8 ++ [0, 5, 0, 80, 3, 232, 0, 0]) ∧
      IpFramed .little pkt.packetData ∧ pkt.packetData.length = 28 ∧
      OutputLibnet.udpPayload .little pkt.packetData = ⟨28, 992⟩ ∧
      OutputLibnet.popHandler? .little {} true (.ok pkt) = none :=
  ⟨_, rfl, ⟨by decide, by decide, by decide⟩, rfl, by decide, rfl⟩

/-- A datagram that says how long it is. -/
theorem reencoding_in_bounds_datagram :
    ∃ pkt : Packet, pkt = Packet.construct .little { isIngoing := false } 0 0
        (udpIpHeader 8 ++ [0, 5, 0, 80, 0, 8, 0, 0]) ∧
      OutputLibnet.popHandler? .little {} true (.ok pkt) =
        some (OutputLibnet.popHandler .little {} true (.ok pkt)) :=
  ⟨_, rfl, (reencoding_in_bounds_iff .little {} true ⟨by decide, by decide, by decide⟩).1.mpr
    fun _ => ⟨fun _ => ⟨by decide, by decide⟩, fun h => absurd h (by decide)⟩⟩

end ShapingRouter
