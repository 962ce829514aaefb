import Mathlib
import ShapingRouter.Ipv4Fidelity
import ShapingRouter.NatDecision

/-! # Fragments of a datagram

Only the first fragment of a datagram has its transport header; the others begin
somewhere in its payload.  No part of the router looks at the fragment offset: the
constructor takes the first bytes of every fragment for ports, the NAT goes by these
ports, and `OutputLibnet` builds a transport header from what it takes for one.  So a
later fragment shares the fate of the first one only if its bytes happen to read as a
transport segment of its own, with ports that the tables lead to the same place
(`fragments_share_fate_iff`).
-/

namespace ShapingRouter
open Library

/-- What follows the IP header. -/
def ipBody (bytes : List UInt8) : List UInt8 := bytes.drop (OutputLibnet.ipHdrLen bytes)

/-! ## Cutting a datagram -/

/-- `bytes` is an IPv4 packet that carries what lies at `off` in the body of the datagram. -/
structure FragmentAt (order : ByteOrder) (datagram : List UInt8) (off : Nat) (bytes : List UInt8) :
    Prop extends ValidIpv4 order bytes where
  id : Iphdr.id order bytes = Iphdr.id order datagram
  protocol : Iphdr.protocol bytes = Iphdr.protocol datagram
  saddr : Iphdr.saddr order bytes = Iphdr.saddr order datagram
  daddr : Iphdr.daddr order bytes = Iphdr.daddr order datagram
  offset : 8 * (Iphdr.fragmentOffset order bytes).toNat = off
  nonempty : ipBody bytes ≠ []
  body : ipBody bytes = Slice.read ⟨off, (ipBody bytes).length⟩ (ipBody datagram)

/-- The fragments of a datagram from `off` on, in the order in which they lie in it.  All
but the last one say that more follow. -/
inductive CutFrom (order : ByteOrder) (datagram : List UInt8) : Nat → List (List UInt8) → Prop
  | done : CutFrom order datagram (ipBody datagram).length []
  | piece {off : Nat} {bytes : List UInt8} {rest : List (List UInt8)} :
      FragmentAt order datagram off bytes →
      (Iphdr.frag_off order bytes &&& 0x2000 = 0 ↔ rest = []) →
      CutFrom order datagram (off + (ipBody bytes).length) rest →
      CutFrom order datagram off (bytes :: rest)

/-- A UDP or TCP datagram is cut into fragments, the first one with the whole transport
header. -/
structure Cut (order : ByteOrder) (datagram first : List UInt8) (rest : List (List UInt8)) : Prop
    where
  valid : ValidIpv4 order datagram
  unfragmented : Iphdr.frag_off order datagram &&& 0x3FFF = 0
  transport : Iphdr.protocol datagram = IPPROTO_UDP ∨ Iphdr.protocol datagram = IPPROTO_TCP
  pieces : CutFrom order datagram 0 (first :: rest)
  udpHeader : Iphdr.protocol datagram = IPPROTO_UDP → 8 ≤ (ipBody first).length
  tcpHeader : Iphdr.protocol datagram = IPPROTO_TCP → 20 ≤ (ipBody first).length ∧
    4 * tcpDataOffset first (OutputLibnet.ipHdrLen first) ≤ (ipBody first).length

theorem CutFrom.fragmentAt {order : ByteOrder} {datagram : List UInt8} {off : Nat}
    {pieces : List (List UInt8)} (h : CutFrom order datagram off pieces) {bytes : List UInt8}
    (hmem : bytes ∈ pieces) : ∃ off', FragmentAt order datagram off' bytes := by
  induction h with
  | done => cases hmem
  | piece hpiece _ _ ih =>
    rcases List.mem_cons.mp hmem with rfl | hmem
    · exact ⟨_, hpiece⟩
    · exact ih hmem

/-! ## What libnet makes of a transport segment -/

/-- `lay` writes what libnet is asked for.  `sum` is the checksum that libnet computes from
the addresses, the protocol, the length it is told and the segment with a zero checksum. -/
structure LaysOutWith (order : ByteOrder)
    (sum : UInt32 → UInt32 → UInt8 → UInt16 → List UInt8 → UInt16)
    (lay : List LibnetCall → List UInt8) : Prop where
  udp : ∀ sp dp ulen data len tos id frag ttl prot src dst, ∃ ipsum,
    lay [.buildUdp sp dp ulen 0 data, .buildIpv4 len tos id frag ttl prot 0 src dst []] =
      ipv4Header order len tos id frag ttl prot ipsum src dst ++
        (udpHeader sp dp ulen (sum src dst prot ulen (udpHeader sp dp ulen 0 ++ data)) ++ data)
  tcp : ∀ options sp dp seq ack control win urg tlen data len tos id frag ttl prot src dst off,
    off = UInt8.ofNat (5 + (paddedOptions options).length / 4) → ∃ ipsum,
    lay [.buildTcpOptions options, .buildTcp sp dp seq ack control win 0 urg tlen data,
        .buildIpv4 len tos id frag ttl prot 0 src dst []] =
      ipv4Header order len tos id frag ttl prot ipsum src dst ++
        (tcpHeader sp dp seq ack off control win (sum src dst prot tlen
            (tcpHeader sp dp seq ack off control win 0 urg ++ (paddedOptions options ++ data))) urg ++
          (paddedOptions options ++ data))

/-- The checksum at `off` taken out of a segment. -/
def zeroed (segment : List UInt8) (off : Nat) : List UInt8 :=
  segment.take off ++ [0, 0] ++ segment.drop (off + 2)

/-- What a packet carries reads as one whole segment from `src` to `dst`: its lengths are
its own, and so is its checksum; and the reserved bits of TCP are not in use. -/
structure ReadsAsSegment (order : ByteOrder)
    (sum : UInt32 → UInt32 → UInt8 → UInt16 → List UInt8 → UInt16) (bytes : List UInt8)
    (src dst : UInt32) : Prop where
  udp : Iphdr.protocol bytes = IPPROTO_UDP →
    8 ≤ (ipBody bytes).length ∧
      (OutputLibnet.transport16 order bytes 4).toNat = (ipBody bytes).length ∧
      OutputLibnet.transport16 order bytes 6 = sum (order.htonl src) (order.htonl dst) IPPROTO_UDP
        (UInt16.ofNat (ipBody bytes).length) (zeroed (ipBody bytes) 6)
  tcp : Iphdr.protocol bytes = IPPROTO_TCP →
    OutputLibnet.HoldsTcp bytes ∧ byteAt (ipBody bytes) 12 &&& 0x0F = 0 ∧
      OutputLibnet.transport16 order bytes 16 = sum (order.htonl src) (order.htonl dst) IPPROTO_TCP
        (UInt16.ofNat bytes.length) (zeroed (ipBody bytes) 16)

/-- A run of `popHandler` that gets through reads nothing but the packet, and what it
writes after the IP header is what the packet carries. -/
def BuildsBody (order : ByteOrder) (lay : List LibnetCall → List UInt8) (pkt : Packet) : Prop :=
  ∀ (r : LibnetResults) (l : Bool), OutputLibnet.GetsThrough r l pkt →
    ∃ run calls, OutputLibnet.popHandler? order r l (.ok pkt) = some run ∧
      run.written = some calls ∧ (lay calls).drop 20 = ipBody pkt.packetData

/-! ## Segments by their pieces -/

theorem Slice.read_append_drop (bytes : List UInt8) (off len : Nat) :
    Slice.read ⟨off, len⟩ bytes ++ bytes.drop (off + len) = bytes.drop off := by
  rw [Slice.read, ← List.drop_drop]
  exact List.take_append_drop _ _

theorem read_two {bytes : List UInt8} {off : Nat} (hlen : off + 2 ≤ bytes.length) :
    Slice.read ⟨off, 2⟩ bytes = [byteAt bytes off, byteAt bytes (off + 1)] := by
  show (bytes.drop off).take 2 = _
  unfold byteAt
  rw [List.drop_eq_getElem_cons (by omega), List.drop_eq_getElem_cons (by omega),
    List.getD_eq_getElem _ _ (by omega), List.getD_eq_getElem _ _ (by omega)]
  rfl

theorem store16_inj {x y : UInt16} (h : ByteOrder.big.store16 x = ByteOrder.big.store16 y) :
    x = y := by
  rw [← ByteOrder.big.load16_store16 x, h, ByteOrder.big.load16_store16]

theorem read_udpHeader_sum (sp dp len sum : UInt16) (rest : List UInt8) :
    let bytes := udpHeader sp dp len sum ++ rest
    Slice.read ⟨6, 2⟩ bytes = ByteOrder.big.store16 sum ∧
      zeroed bytes 6 = udpHeader sp dp len 0 ++ rest := by
  obtain ⟨s₁, s₂, hsp⟩ := ByteOrder.exists_store16 .big sp
  obtain ⟨d₁, d₂, hdp⟩ := ByteOrder.exists_store16 .big dp
  obtain ⟨l₁, l₂, hlen⟩ := ByteOrder.exists_store16 .big len
  obtain ⟨c₁, c₂, hsum⟩ := ByteOrder.exists_store16 .big sum
  simp only [udpHeader, hsp, hdp, hlen, hsum, List.cons_append, List.nil_append]
  exact ⟨rfl, rfl⟩

theorem read_tcpHeader_sum (sp dp : UInt16) (seq ack : UInt32) (off control : UInt8)
    (win sum urg : UInt16) (rest : List UInt8) :
    let bytes := tcpHeader sp dp seq ack off control win sum urg ++ rest
    Slice.read ⟨16, 2⟩ bytes = ByteOrder.big.store16 sum ∧
      zeroed bytes 16 = tcpHeader sp dp seq ack off control win 0 urg ++ rest := by
  obtain ⟨s₁, s₂, hsp⟩ := ByteOrder.exists_store16 .big sp
  obtain ⟨d₁, d₂, hdp⟩ := ByteOrder.exists_store16 .big dp
  obtain ⟨q₁, q₂, q₃, q₄, hseq⟩ := ByteOrder.exists_store32 .big seq
  obtain ⟨a₁, a₂, a₃, a₄, hack⟩ := ByteOrder.exists_store32 .big ack
  obtain ⟨w₁, w₂, hwin⟩ := ByteOrder.exists_store16 .big win
  obtain ⟨c₁, c₂, hsum⟩ := ByteOrder.exists_store16 .big sum
  obtain ⟨u₁, u₂, hurg⟩ := ByteOrder.exists_store16 .big urg
  simp only [tcpHeader, hsp, hdp, hseq, hack, hwin, hsum, hurg, List.cons_append, List.nil_append]
  exact ⟨rfl, rfl⟩

theorem udpHeader_append_inj {sp dp len sum sp' dp' len' sum' : UInt16} {rest rest' : List UInt8}
    (h : udpHeader sp dp len sum ++ rest = udpHeader sp' dp' len' sum' ++ rest') :
    sp = sp' ∧ dp = dp' ∧ sum = sum' := by
  obtain ⟨hsport, hdport, -, -⟩ := read_udpHeader sp dp len sum rest
  obtain ⟨hsport', hdport', -, -⟩ := read_udpHeader sp' dp' len' sum' rest'
  have hsum := (read_udpHeader_sum sp dp len sum rest).1
  have hsum' := (read_udpHeader_sum sp' dp' len' sum' rest').1
  rw [h] at hsport hdport hsum
  exact ⟨store16_inj (hsport.symm.trans hsport'), store16_inj (hdport.symm.trans hdport'),
    store16_inj (hsum.symm.trans hsum')⟩

theorem tcpHeader_append_inj {sp dp win sum urg sp' dp' win' sum' urg' : UInt16}
    {seq ack seq' ack' : UInt32} {off control off' control' : UInt8} {rest rest' : List UInt8}
    (h : tcpHeader sp dp seq ack off control win sum urg ++ rest =
      tcpHeader sp' dp' seq' ack' off' control' win' sum' urg' ++ rest') :
    sp = sp' ∧ dp = dp' ∧ sum = sum' := by
  obtain ⟨⟨hsport, hdport⟩, -⟩ := read_tcpHeader sp dp seq ack off control win sum urg rest
  obtain ⟨⟨hsport', hdport'⟩, -⟩ :=
    read_tcpHeader sp' dp' seq' ack' off' control' win' sum' urg' rest'
  have hsum := (read_tcpHeader_sum sp dp seq ack off control win sum urg rest).1
  have hsum' := (read_tcpHeader_sum sp' dp' seq' ack' off' control' win' sum' urg' rest').1
  rw [h] at hsport hdport hsum
  exact ⟨store16_inj (hsport.symm.trans hsport'), store16_inj (hdport.symm.trans hdport'),
    store16_inj (hsum.symm.trans hsum')⟩

/-- The high half of a byte is the whole byte when the low half is zero. -/
theorem shiftRight_shiftLeft_eq_iff (b : UInt8) : (b >>> 4) <<< 4 = b ↔ b &&& 0x0F = 0 := by
  have hlt := b.toNat_lt
  rw [← UInt8.toNat_inj, ← UInt8.toNat_inj, UInt8.toNat_and, UInt8.toNat_shiftLeft,
    UInt8.toNat_shiftRight]
  show (b.toNat >>> 4) <<< 4 % 256 = _ ↔ b.toNat &&& (2 ^ 4 - 1) = 0
  rw [Nat.and_two_pow_sub_one_eq_mod]
  omega

namespace OutputLibnet
variable {order : ByteOrder} {bytes : List UInt8}

/-- What is long enough is a UDP header and what follows it. -/
theorem ipBody_eq_udp (hlen : ipHdrLen bytes + 8 ≤ bytes.length) :
    ipBody bytes = udpHeader (transport16 order bytes 0) (transport16 order bytes 2)
      (transport16 order bytes 4) (transport16 order bytes 6) ++
        bytes.drop (ipHdrLen bytes + 8) := by
  have hrest : bytes.drop (ipHdrLen bytes + 8) = (ipBody bytes).drop 8 := by
    rw [ipBody, List.drop_drop]
  have hsplit := Slice.read_append_drop (ipBody bytes)
  rw [udpHeader, store16_transport16 (by omega), store16_transport16 (by omega),
    store16_transport16 (by omega), store16_transport16 (by omega), hrest]
  simp only [List.append_assoc]
  exact ((hsplit 0 2).symm.trans (congrArg _ ((hsplit 2 2).symm.trans (congrArg _
    ((hsplit 4 2).symm.trans (congrArg _ (hsplit 6 2).symm))))))

/-- What is long enough is a TCP header, but for the bits by its data offset, and what
follows it. -/
theorem ipBody_eq_tcp (hlen : ipHdrLen bytes + 20 ≤ bytes.length)
    (hreserved : byteAt (ipBody bytes) 12 &&& 0x0F = 0) :
    ipBody bytes = tcpHeader (transport16 order bytes 0) (transport16 order bytes 2)
      (transport32 order bytes 4) (transport32 order bytes 8)
      (UInt8.ofNat (tcpDataOffset bytes (ipHdrLen bytes))) (byteAt bytes (ipHdrLen bytes + 13))
      (transport16 order bytes 14) (transport16 order bytes 16) (transport16 order bytes 18) ++
        bytes.drop (ipHdrLen bytes + 20) := by
  have hrest : bytes.drop (ipHdrLen bytes + 20) = (ipBody bytes).drop 20 := by
    rw [ipBody, List.drop_drop]
  have hsplit := Slice.read_append_drop (ipBody bytes)
  have hoffset : UInt8.ofNat (tcpDataOffset bytes (ipHdrLen bytes)) <<< 4 =
      byteAt (ipBody bytes) 12 := by
    rw [tcpDataOffset, UInt8.ofNat_toNat, ← byteAt_drop]
    exact (shiftRight_shiftLeft_eq_iff _).mpr hreserved
  have hmiddle : Slice.read ⟨12, 2⟩ (ipBody bytes) =
      [byteAt (ipBody bytes) 12, byteAt bytes (ipHdrLen bytes + 13)] := by
    rw [← byteAt_drop]
    exact read_two (by rw [ipBody, List.length_drop]; omega)
  rw [tcpHeader, store16_transport16 (by omega), store16_transport16 (by omega),
    store32_transport32 (by omega), store32_transport32 (by omega),
    store16_transport16 (by omega), store16_transport16 (by omega),
    store16_transport16 (by omega), hoffset, ← hmiddle, hrest]
  simp only [List.append_assoc]
  exact ((hsplit 0 2).symm.trans (congrArg _ ((hsplit 2 2).symm.trans (congrArg _
    ((hsplit 4 4).symm.trans (congrArg _ ((hsplit 8 4).symm.trans (congrArg _
      ((hsplit 12 2).symm.trans (congrArg _ ((hsplit 14 2).symm.trans (congrArg _
        ((hsplit 16 2).symm.trans (congrArg _ (hsplit 18 2).symm))))))))))))))

theorem zeroed_ipBody_udp (hlen : ipHdrLen bytes + 8 ≤ bytes.length) :
    zeroed (ipBody bytes) 6 = udpHeader (transport16 order bytes 0) (transport16 order bytes 2)
      (transport16 order bytes 4) 0 ++ bytes.drop (ipHdrLen bytes + 8) := by
  rw [@ipBody_eq_udp order bytes hlen]
  exact (read_udpHeader_sum _ _ _ _ _).2

theorem zeroed_ipBody_tcp (hlen : ipHdrLen bytes + 20 ≤ bytes.length)
    (hreserved : byteAt (ipBody bytes) 12 &&& 0x0F = 0) :
    zeroed (ipBody bytes) 16 = tcpHeader (transport16 order bytes 0) (transport16 order bytes 2)
      (transport32 order bytes 4) (transport32 order bytes 8)
      (UInt8.ofNat (tcpDataOffset bytes (ipHdrLen bytes))) (byteAt bytes (ipHdrLen bytes + 13))
      (transport16 order bytes 14) 0 (transport16 order bytes 18) ++
        bytes.drop (ipHdrLen bytes + 20) := by
  rw [@ipBody_eq_tcp order bytes hlen hreserved]
  exact (read_tcpHeader_sum _ _ _ _ _ _ _ _ _ _).2

/-! ## What is written for a fragment -/

section Written
variable {sum : UInt32 → UInt32 → UInt8 → UInt16 → List UInt8 → UInt16}
  {lay : List LibnetCall → List UInt8} {r : LibnetResults} {l : Bool} {pkt : Packet}
  {calls : List LibnetCall}

/-- The UDP segment that is written for a packet. -/
def udpSegment (order : ByteOrder)
    (sum : UInt32 → UInt32 → UInt8 → UInt16 → List UInt8 → UInt16) (pkt : Packet) : List UInt8 :=
  let ulen := transport16 order pkt.packetData 4
  let data := (udpPayload order pkt.packetData).read pkt.packetData
  udpHeader pkt.sport pkt.dport ulen (sum (order.htonl pkt.srcIp) (order.htonl pkt.dstIp)
    IPPROTO_UDP ulen (udpHeader pkt.sport pkt.dport ulen 0 ++ data)) ++ data

/-- The TCP segment that is written for a packet. -/
def tcpSegment (order : ByteOrder)
    (sum : UInt32 → UInt32 → UInt8 → UInt16 → List UInt8 → UInt16) (pkt : Packet) : List UInt8 :=
  let bytes := pkt.packetData
  let options := paddedOptions ((tcpOptions bytes).read bytes)
  let rest := options ++ (tcpPayload bytes).read bytes
  let header := fun tsum => tcpHeader pkt.sport pkt.dport (transport32 order bytes 4)
    (transport32 order bytes 8) (UInt8.ofNat (5 + options.length / 4))
    (byteAt bytes (ipHdrLen bytes + 13)) (transport16 order bytes 14) tsum
    (transport16 order bytes 18)
  header (sum (order.htonl pkt.srcIp) (order.htonl pkt.dstIp) IPPROTO_TCP
    ((Iphdr.hdrLen bytes).toUInt32 + 20 + (tcpOptionsSize bytes).toUInt32 +
      tcpPayloadSize bytes).toUInt16 (header 0 ++ rest)) ++ rest

theorem drop_ipv4Header (len : UInt16) (tos : UInt8) (id frag : UInt16) (ttl prot : UInt8)
    (ipsum : UInt16) (src dst : UInt32) (rest : List UInt8) :
    (ipv4Header order len tos id frag ttl prot ipsum src dst ++ rest).drop 20 = rest :=
  List.drop_left' (by simp [ipv4Header])

theorem written_udpSegment (hlay : LaysOutWith order sum lay)
    (hudp : Iphdr.protocol pkt.packetData = IPPROTO_UDP)
    (hw : (popHandler order r l (.ok pkt)).written = some calls) :
    (lay calls).drop 20 = udpSegment order sum pkt := by
  obtain ⟨cs, pData, hbuilt, rfl⟩ := written_eq hw
  have hicmp : Iphdr.protocol pkt.packetData ≠ IPPROTO_ICMP := by
    rw [hudp]
    decide
  rw [buildTransport, if_neg hicmp, if_pos hudp] at hbuilt
  obtain ⟨rfl, rfl⟩ := Prod.mk.inj (Option.some.inj hbuilt)
  obtain ⟨ipsum, hbytes⟩ := hlay.udp pkt.sport pkt.dport (transport16 order pkt.packetData 4)
    ((udpPayload order pkt.packetData).read pkt.packetData) (Iphdr.tot_len order pkt.packetData)
    (Iphdr.tos pkt.packetData) pkt.getFragmentID pkt.getFragmentFlags (Iphdr.ttl pkt.packetData)
    (Iphdr.protocol pkt.packetData) (order.htonl pkt.srcIp) (order.htonl pkt.dstIp)
  have hdrop := congrArg (List.drop 20) hbytes
  rw [drop_ipv4Header, hudp] at hdrop
  rw [udpSegment, ← hdrop, ← hudp]
  rfl

theorem written_tcpSegment (hlay : LaysOutWith order sum lay)
    (htcp : Iphdr.protocol pkt.packetData = IPPROTO_TCP)
    (hw : (popHandler order r l (.ok pkt)).written = some calls) :
    (lay calls).drop 20 = tcpSegment order sum pkt := by
  obtain ⟨cs, pData, hbuilt, rfl⟩ := written_eq hw
  have hicmp : Iphdr.protocol pkt.packetData ≠ IPPROTO_ICMP := by
    rw [htcp]
    decide
  have hudp : Iphdr.protocol pkt.packetData ≠ IPPROTO_UDP := by
    rw [htcp]
    decide
  rw [buildTransport, if_neg hicmp, if_neg hudp, if_pos htcp] at hbuilt
  obtain ⟨rfl, rfl⟩ := Prod.mk.inj (Option.some.inj hbuilt)
  obtain ⟨ipsum, hbytes⟩ := hlay.tcp ((tcpOptions pkt.packetData).read pkt.packetData) pkt.sport
    pkt.dport (transport32 order pkt.packetData 4) (transport32 order pkt.packetData 8)
    (byteAt pkt.packetData (ipHdrLen pkt.packetData + 13)) (transport16 order pkt.packetData 14)
    (transport16 order pkt.packetData 18)
    ((Iphdr.hdrLen pkt.packetData).toUInt32 + 20 + (tcpOptionsSize pkt.packetData).toUInt32 +
      tcpPayloadSize pkt.packetData).toUInt16
    ((tcpPayload pkt.packetData).read pkt.packetData) (Iphdr.tot_len order pkt.packetData)
    (Iphdr.tos pkt.packetData) pkt.getFragmentID pkt.getFragmentFlags (Iphdr.ttl pkt.packetData)
    (Iphdr.protocol pkt.packetData) (order.htonl pkt.srcIp) (order.htonl pkt.dstIp) _ rfl
  have hdrop := congrArg (List.drop 20) hbytes
  rw [drop_ipv4Header, htcp] at hdrop
  rw [tcpSegment, ← hdrop, ← htcp]
  rfl

/-- **When a UDP segment is written as it came in**: it has the ports in its bytes, and
reads as a whole. -/
theorem udpSegment_eq_iff (hbytes : pkt.packetData = bytes)
    (hfits : ipHdrLen bytes ≤ bytes.length) :
    HoldsUdp order bytes ∧ udpSegment order sum pkt = ipBody bytes ↔
      (pkt.sport = transport16 order bytes 0 ∧ pkt.dport = transport16 order bytes 2) ∧
      8 ≤ (ipBody bytes).length ∧
      (transport16 order bytes 4).toNat = (ipBody bytes).length ∧
      transport16 order bytes 6 = sum (order.htonl pkt.srcIp) (order.htonl pkt.dstIp) IPPROTO_UDP
        (UInt16.ofNat (ipBody bytes).length) (zeroed (ipBody bytes) 6) := by
  have hlength : (ipBody bytes).length = bytes.length - ipHdrLen bytes := List.length_drop
  rw [udpSegment, hbytes]
  constructor
  · rintro ⟨⟨hmin, hholds⟩, hkept⟩
    have hdata : ((udpPayload order bytes).read bytes).length =
        (transport16 order bytes 4).toNat - 8 := by
      rw [udpPayload_eq hmin]
      apply Slice.length_read
      dsimp only
      omega
    have hwritten := congrArg List.length hkept
    rw [List.length_append, hdata] at hwritten
    have hulen : (transport16 order bytes 4).toNat = (ipBody bytes).length := by
      simp only [udpHeader, List.length_append, ByteOrder.length_store16] at hwritten
      omega
    rw [read_udpPayload (by omega) hmin] at hkept
    have hbody := @ipBody_eq_udp order bytes (by omega)
    obtain ⟨hsport, hdport, hsum⟩ := udpHeader_append_inj (hkept.trans hbody)
    refine ⟨⟨hsport, hdport⟩, by omega, hulen, ?_⟩
    rw [zeroed_ipBody_udp (by omega), ← hulen, UInt16.ofNat_toNat, ← hsum, hsport, hdport]
  · rintro ⟨⟨hsport, hdport⟩, hmin, hulen, hsum⟩
    refine ⟨⟨by omega, by omega⟩, ?_⟩
    rw [@zeroed_ipBody_udp order bytes (by omega), ← hulen, UInt16.ofNat_toNat] at hsum
    rw [read_udpPayload (by omega) (by omega), hsport, hdport, ← hsum]
    exact (ipBody_eq_udp (by omega)).symm

/-- The segment that is written when its data offset is right: options and payload are all
that follows the fixed header. -/
theorem tcpSegment_eq (hbytes : pkt.packetData = bytes) (htcp : HoldsTcp bytes)
    (hlt : bytes.length < 2 ^ 16) :
    tcpSegment order sum pkt =
      tcpHeader pkt.sport pkt.dport (transport32 order bytes 4) (transport32 order bytes 8)
        (UInt8.ofNat (tcpDataOffset bytes (ipHdrLen bytes))) (byteAt bytes (ipHdrLen bytes + 13))
        (transport16 order bytes 14)
        (sum (order.htonl pkt.srcIp) (order.htonl pkt.dstIp) IPPROTO_TCP
          (UInt16.ofNat bytes.length)
          (tcpHeader pkt.sport pkt.dport (transport32 order bytes 4) (transport32 order bytes 8)
            (UInt8.ofNat (tcpDataOffset bytes (ipHdrLen bytes)))
            (byteAt bytes (ipHdrLen bytes + 13)) (transport16 order bytes 14) 0
            (transport16 order bytes 18) ++ bytes.drop (ipHdrLen bytes + 20)))
        (transport16 order bytes 18) ++ bytes.drop (ipHdrLen bytes + 20) := by
  obtain ⟨hpadded, hoptions⟩ := paddedOptions_read htcp
  have hrest := read_tcpOptions_append htcp hlt
  obtain ⟨hfixed, hmin, hfits⟩ := htcp
  have hsize := @tcpOptionsSize_eq bytes (by omega)
  have hwords : 5 + (4 * tcpDataOffset bytes (ipHdrLen bytes) - 20) / 4 =
      tcpDataOffset bytes (ipHdrLen bytes) := by
    have hmin' : 5 ≤ tcpDataOffset bytes (ipHdrLen bytes) := hmin
    omega
  have htotal : ipHdrLen bytes + 20 + (tcpOptionsSize bytes).toNat +
      (tcpPayloadSize bytes).toNat = bytes.length := by
    rw [tcpPayloadSize_eq hlt (by omega)]
    omega
  rw [tcpSegment, hbytes]
  dsimp only
  rw [tcpLength_eq, htotal, hpadded, hrest, hoptions, hwords]

/-- **When a TCP segment is written as it came in.** -/
theorem tcpSegment_eq_iff (hbytes : pkt.packetData = bytes) (hlt : bytes.length < 2 ^ 16) :
    HoldsTcp bytes ∧ tcpSegment order sum pkt = ipBody bytes ↔
      (pkt.sport = transport16 order bytes 0 ∧ pkt.dport = transport16 order bytes 2) ∧
      HoldsTcp bytes ∧ byteAt (ipBody bytes) 12 &&& 0x0F = 0 ∧
      transport16 order bytes 16 = sum (order.htonl pkt.srcIp) (order.htonl pkt.dstIp) IPPROTO_TCP
        (UInt16.ofNat bytes.length) (zeroed (ipBody bytes) 16) := by
  constructor
  · rintro ⟨htcp, hkept⟩
    rw [tcpSegment_eq hbytes htcp hlt] at hkept
    have hfixed := htcp.1
    have hreserved : byteAt (ipBody bytes) 12 &&& 0x0F = 0 := by
      obtain ⟨-, -, ⟨hoffset, -⟩, -⟩ := read_tcpHeader pkt.sport pkt.dport (transport32 order bytes 4)
        (transport32 order bytes 8) (UInt8.ofNat (tcpDataOffset bytes (ipHdrLen bytes)))
        (byteAt bytes (ipHdrLen bytes + 13)) (transport16 order bytes 14) _
        (transport16 order bytes 18) (bytes.drop (ipHdrLen bytes + 20))
      rw [hkept, tcpDataOffset, UInt8.ofNat_toNat, ← byteAt_drop] at hoffset
      exact (shiftRight_shiftLeft_eq_iff _).mp hoffset.symm
    have hbody := @ipBody_eq_tcp order bytes hfixed hreserved
    obtain ⟨hsport, hdport, hsum⟩ := tcpHeader_append_inj (hkept.trans hbody)
    refine ⟨⟨hsport, hdport⟩, htcp, hreserved, ?_⟩
    rw [zeroed_ipBody_tcp hfixed hreserved, ← hsum, hsport, hdport]
  · rintro ⟨⟨hsport, hdport⟩, htcp, hreserved, hsum⟩
    refine ⟨htcp, ?_⟩
    rw [@zeroed_ipBody_tcp order bytes htcp.1 hreserved] at hsum
    rw [tcpSegment_eq hbytes htcp hlt, hsport, hdport, ← hsum]
    exact (ipBody_eq_tcp htcp.1 hreserved).symm

/-- A run that gets through writes something. -/
theorem exists_written (hgets : GetsThrough r l pkt) :
    ∃ calls, (popHandler order r l (.ok pkt)).written = some calls := by
  obtain ⟨hhandle, hudp, htcp, hip, hwrite⟩ := hgets
  have hbuilt := (buildTransport_isSome order pkt.packetData r pkt).mpr ⟨hudp, htcp⟩
  obtain ⟨⟨cs, pData⟩, hbuilt⟩ := Option.isSome_iff_exists.mp hbuilt
  rw [← Bool.or_eq_true] at hhandle
  refine ⟨cs ++ [ipCall order pkt.packetData pkt pData], ?_⟩
  simp only [popHandler, hhandle, if_true, writePacket, hbuilt, hip, hwrite]

/-- What is built is what was received, iff the reads stay inside the packet and the one
segment that is ever written for it is the one received. -/
theorem buildsBody_iff_segment (hv : IpFramed order pkt.packetData) {segment : List UInt8}
    (hseg : ∀ r l calls, (popHandler order r l (.ok pkt)).written = some calls →
      (lay calls).drop 20 = segment) :
    BuildsBody order lay pkt ↔
      HoldsTransport order pkt.packetData ∧ segment = ipBody pkt.packetData := by
  constructor
  · intro hbuilds
    obtain ⟨run, calls, hrun, hw, hdrop⟩ := hbuilds {} true
      ⟨Or.inl rfl, fun _ => rfl, fun _ => ⟨rfl, rfl⟩, rfl, rfl⟩
    have hchecks := popHandler_checks hv {} true
    have hholds : HoldsTransport order pkt.packetData := by
      by_contra hno
      rw [hchecks.fail fun h => hno (h (Or.inl rfl))] at hrun
      cases hrun
    rw [hchecks.pass fun _ => hholds] at hrun
    obtain rfl := Option.some.inj hrun
    exact ⟨hholds, (hseg {} true calls hw).symm.trans hdrop⟩
  · rintro ⟨hholds, hkept⟩ r l hgets
    obtain ⟨calls, hw⟩ := @exists_written order r l pkt hgets
    exact ⟨_, calls, (popHandler_checks hv r l).pass fun _ => hholds, hw,
      (hseg r l calls hw).trans hkept⟩

/-- **When the payload of a packet is built as it came in.** -/
theorem buildsBody_iff (hlay : LaysOutWith order sum lay) (hv : IpFramed order pkt.packetData)
    (hproto : Iphdr.protocol pkt.packetData = IPPROTO_UDP ∨
      Iphdr.protocol pkt.packetData = IPPROTO_TCP) :
    BuildsBody order lay pkt ↔
      (pkt.sport = transport16 order pkt.packetData 0 ∧
        pkt.dport = transport16 order pkt.packetData 2) ∧
      ReadsAsSegment order sum pkt.packetData pkt.srcIp pkt.dstIp := by
  rcases hproto with hudp | htcp
  · have hno : Iphdr.protocol pkt.packetData ≠ IPPROTO_TCP := by
      rw [hudp]
      decide
    have hholds : HoldsTransport order pkt.packetData ↔ HoldsUdp order pkt.packetData :=
      ⟨fun h => h.udp hudp, fun h => ⟨fun _ => h, fun htcp => absurd htcp hno⟩⟩
    rw [buildsBody_iff_segment hv fun r l calls => written_udpSegment hlay hudp, hholds,
      udpSegment_eq_iff rfl hv.fits]
    exact and_congr_right fun _ =>
      ⟨fun h => ⟨fun _ => h, fun htcp => absurd htcp hno⟩, fun h => h.udp hudp⟩
  · have hno : Iphdr.protocol pkt.packetData ≠ IPPROTO_UDP := by
      rw [htcp]
      decide
    have hlt : pkt.packetData.length < 2 ^ 16 := by
      rw [← hv.length]
      exact UInt16.toNat_lt _
    have hholds : HoldsTransport order pkt.packetData ↔ HoldsTcp pkt.packetData :=
      ⟨fun h => h.tcp htcp, fun h => ⟨fun hudp => absurd hudp hno, fun _ => h⟩⟩
    rw [buildsBody_iff_segment hv fun r l calls => written_tcpSegment hlay htcp, hholds,
      tcpSegment_eq_iff rfl hlt]
    exact and_congr_right fun _ =>
      ⟨fun h => ⟨fun hudp => absurd hudp hno, fun _ => h⟩, fun h => h.tcp htcp⟩

end Written
end OutputLibnet

/-! ## The fate of a fragment -/

/-- What a fragment meets: the memory that its packet object is made in, when and under what
identifier, and the NAT as it is when it handles the packet, and when that is. -/
structure Arrival where
  prior : ParentPacket
  stamp : Nat
  packetId : UInt32
  nat : NatBox
  now : Nat

namespace Arrival
variable (a : Arrival) (order : ByteOrder) (ingoing : Bool) (bytes : List UInt8)

/-- The packet object of a fragment. -/
def packet : Packet :=
  (Packet.construct order a.prior a.stamp a.packetId bytes).setIngoing ingoing

/-- The NAT sends the fragment on as `pkt`. -/
def Forwards (pkt : Packet) : Prop :=
  ∃ s, a.nat.handlePacket a.now (a.packet order ingoing bytes) = some (s, some pkt)

end Arrival

/-- A later fragment shares the fate of the first one: its packet object is made without a
read outside of it, it is forwarded iff the first one was, with the same addresses, and
what is built for it carries what it carried. -/
structure SharesFate (order : ByteOrder) (lay : List LibnetCall → List UInt8) (ingoing : Bool)
    (a a' : Arrival) (first later : List UInt8) : Prop where
  made : Packet.construct? order a'.prior a'.stamp a'.packetId later =
    some (Packet.construct order a'.prior a'.stamp a'.packetId later)
  forwarded : (∃ pkt, a.Forwards order ingoing first pkt) ↔
    ∃ pkt', a'.Forwards order ingoing later pkt'
  translated : ∀ pkt pkt', a.Forwards order ingoing first pkt →
    a'.Forwards order ingoing later pkt' → pkt'.srcIp = pkt.srcIp ∧ pkt'.dstIp = pkt.dstIp
  built : ∀ pkt', a'.Forwards order ingoing later pkt' → BuildsBody order lay pkt'

/-- The packet of the first fragment, with what a later one has in the place of ports. -/
def Packet.withPortsOf (order : ByteOrder) (later : List UInt8) (pkt : Packet) : Packet :=
  (pkt.setSourcePort (OutputLibnet.transport16 order later 0)).setDestinationPort
    (OutputLibnet.transport16 order later 2)

/-- A later fragment reads like the first one: it has four bytes, the tables lead these
bytes, taken for ports, where they lead the ports of the first one, and if that is
anywhere, they lead to the same port again and the fragment is a segment of its own. -/
structure ReadsAlike (order : ByteOrder)
    (sum : UInt32 → UInt32 → UInt8 → UInt16 → List UInt8 → UInt16) (nat nat' : NatBox)
    (pkt : Packet) (later : List UInt8) : Prop where
  ports : 4 ≤ (ipBody later).length
  leads : ∀ ip, (∃ port, nat.Leads pkt ip port) ↔
    ∃ port, nat'.Leads (pkt.withPortsOf order later) ip port
  segment : ∀ ip port, nat'.Leads (pkt.withPortsOf order later) ip port →
    port = OutputLibnet.transport16 order later (if pkt.isIngoing then 2 else 0) ∧
      ReadsAsSegment order sum later (pkt.translated ip port).srcIp (pkt.translated ip port).dstIp

section Fate
variable {order : ByteOrder} {sum : UInt32 → UInt32 → UInt8 → UInt16 → List UInt8 → UInt16}
  {lay : List LibnetCall → List UInt8} {ingoing : Bool} {a a' : Arrival}
  {bytes first later : List UInt8} {pkt : Packet}

theorem Arrival.forwards_iff : a.Forwards order ingoing bytes pkt ↔ ∃ ip port,
    a.nat.Leads (a.packet order ingoing bytes) ip port ∧
      pkt = (a.packet order ingoing bytes).translated ip port := by
  constructor
  · rintro ⟨s, h⟩
    exact NatBox.handlePacket_translated h
  · rintro ⟨ip, port, hleads, rfl⟩
    exact (a.nat.leads_iff _ ip port a.now).mp hleads

/-- The words taken for ports. -/
theorem Arrival.packet_ports
    (hproto : Iphdr.protocol bytes = IPPROTO_UDP ∨ Iphdr.protocol bytes = IPPROTO_TCP) :
    (a.packet order ingoing bytes).sport = OutputLibnet.transport16 order bytes 0 ∧
      (a.packet order ingoing bytes).dport = OutputLibnet.transport16 order bytes 2 := by
  simp only [packet, Packet.setIngoing, Packet.construct, ParentPacket.decodeTransportProtocol,
    if_pos hproto, Slice.read_drop]
  exact ⟨rfl, rfl⟩

theorem Arrival.packet_packetData : (a.packet order ingoing bytes).packetData = bytes :=
  Packet.construct_packetData order a.prior a.stamp a.packetId

theorem Packet.translated_packetData (pkt : Packet) (ip : UInt32) (port : UInt16) :
    (pkt.translated ip port).packetData = pkt.packetData := by
  unfold Packet.translated
  split <;> rfl

/-- Two packets of one datagram differ in their ports alone, as far as the NAT can see. -/
structure OneDatagram (order : ByteOrder) (first later : List UInt8) : Prop where
  transport : Iphdr.protocol later = IPPROTO_UDP ∨ Iphdr.protocol later = IPPROTO_TCP
  protocol : Iphdr.protocol later = Iphdr.protocol first
  saddr : Iphdr.saddr order later = Iphdr.saddr order first
  daddr : Iphdr.daddr order later = Iphdr.daddr order first

theorem OneDatagram.leads_iff (h : OneDatagram order first later) (ip : UInt32) (port : UInt16) :
    a'.nat.Leads (a'.packet order ingoing later) ip port ↔
      a'.nat.Leads ((a.packet order ingoing first).withPortsOf order later) ip port := by
  obtain ⟨hsport, hdport⟩ := @Arrival.packet_ports order ingoing a' later h.transport
  have htuple : ConnectionTuple.ofPacket (a'.packet order ingoing later) =
      ConnectionTuple.ofPacket ((a.packet order ingoing first).withPortsOf order later) := by
    have hsrc : (a'.packet order ingoing later).srcIp = (a.packet order ingoing first).srcIp :=
      h.saddr
    have hdst : (a'.packet order ingoing later).dstIp = (a.packet order ingoing first).dstIp :=
      h.daddr
    have hprot : (a'.packet order ingoing later).transProt =
        (a.packet order ingoing first).transProt := h.protocol
    rw [ConnectionTuple.ofPacket, hsrc, hdst, hsport, hdport, hprot]
    rfl
  have hdir : (a'.packet order ingoing later).isIngoing =
      ((a.packet order ingoing first).withPortsOf order later).isIngoing := rfl
  exact ⟨fun hl => hl.congr hdir.symm htuple.symm, fun hl => hl.congr hdir htuple⟩

/-- The addresses of a translated packet. -/
theorem OneDatagram.translated_eq_iff (h : OneDatagram order first later) {ip ip' : UInt32}
    {port port' : UInt16} :
    (((a'.packet order ingoing later).translated ip' port').srcIp =
        ((a.packet order ingoing first).translated ip port).srcIp ∧
      ((a'.packet order ingoing later).translated ip' port').dstIp =
        ((a.packet order ingoing first).translated ip port).dstIp) ↔ ip' = ip := by
  cases ingoing with
  | true => exact and_iff_right h.saddr
  | false => exact and_iff_left h.daddr

/-- The constructor stays inside a fragment that has four bytes. -/
theorem construct_eq_some_iff (hv : IpFramed order later)
    (hproto : Iphdr.protocol later = IPPROTO_UDP ∨ Iphdr.protocol later = IPPROTO_TCP) :
    Packet.construct? order a'.prior a'.stamp a'.packetId later =
        some (Packet.construct order a'.prior a'.stamp a'.packetId later) ↔
      4 ≤ (ipBody later).length := by
  have hlength : (ipBody later).length = later.length - (Iphdr.hdrLen later).toNat :=
    List.length_drop
  have hno : ¬(Iphdr.protocol later = IPPROTO_ICMP ∨ Iphdr.protocol later = IPPROTO_ICMPV6) := by
    rcases hproto with h | h <;> rw [h] <;> decide
  rw [(Packet.construct_checks order a'.prior a'.stamp a'.packetId hv).eq_some_iff, hlength]
  exact ⟨fun h => h.ports hproto, fun h => ⟨fun _ => h, fun h' => absurd h' hno⟩⟩

/-- The payload of a forwarded fragment is built as it came in iff the tables lead its port
to itself and it reads as a segment. -/
theorem OneDatagram.built_iff (hlay : LaysOutWith order sum lay) (hv : IpFramed order later)
    (h : OneDatagram order first later) (ip : UInt32) (port : UInt16) :
    BuildsBody order lay ((a'.packet order ingoing later).translated ip port) ↔
      port = OutputLibnet.transport16 order later (if ingoing then 2 else 0) ∧
        ReadsAsSegment order sum later
          ((a.packet order ingoing first).translated ip port).srcIp
          ((a.packet order ingoing first).translated ip port).dstIp := by
  have hdata : ((a'.packet order ingoing later).translated ip port).packetData = later := by
    rw [Packet.translated_packetData, Arrival.packet_packetData]
  obtain ⟨hsport, hdport⟩ := @Arrival.packet_ports order ingoing a' later h.transport
  obtain ⟨hsrc, hdst⟩ :=
    (@OneDatagram.translated_eq_iff order ingoing a a' first later h ip ip port port).mpr rfl
  rw [OutputLibnet.buildsBody_iff hlay (by rw [hdata]; exact hv) (by rw [hdata]; exact h.transport),
    hdata, hsrc, hdst]
  cases ingoing with
  | true => exact and_congr_left fun _ => and_iff_right hsport
  | false => exact and_congr_left fun _ => and_iff_left hdport

/-- **When a later fragment shares the fate of the first one.** -/
theorem OneDatagram.sharesFate_iff (hlay : LaysOutWith order sum lay) (hv : IpFramed order later)
    (h : OneDatagram order first later) :
    SharesFate order lay ingoing a a' first later ↔
      ReadsAlike order sum a.nat a'.nat (a.packet order ingoing first) later := by
  have hfirst : ∀ {ip port}, a.nat.Leads (a.packet order ingoing first) ip port →
      a.Forwards order ingoing first ((a.packet order ingoing first).translated ip port) :=
    fun hl => Arrival.forwards_iff.mpr ⟨_, _, hl, rfl⟩
  have hlater : ∀ {ip port}, a'.nat.Leads ((a.packet order ingoing first).withPortsOf order later)
      ip port → a'.Forwards order ingoing later ((a'.packet order ingoing later).translated ip port) :=
    fun hl => Arrival.forwards_iff.mpr ⟨_, _, (h.leads_iff _ _).mpr hl, rfl⟩
  constructor
  · intro hshares
    refine ⟨(construct_eq_some_iff hv h.transport).mp hshares.made, fun ip => ⟨?_, ?_⟩, ?_⟩
    · rintro ⟨port, hl⟩
      obtain ⟨pkt', hf'⟩ := hshares.forwarded.mp ⟨_, hfirst hl⟩
      have hsame := hshares.translated _ _ (hfirst hl) hf'
      obtain ⟨ip', port', hl', rfl⟩ := Arrival.forwards_iff.mp hf'
      obtain rfl := h.translated_eq_iff.mp hsame
      exact ⟨port', (h.leads_iff _ _).mp hl'⟩
    · rintro ⟨port, hl⟩
      obtain ⟨pkt, hf⟩ := hshares.forwarded.mpr ⟨_, hlater hl⟩
      have hsame := hshares.translated _ _ hf (hlater hl)
      obtain ⟨ip', port', hl', rfl⟩ := Arrival.forwards_iff.mp hf
      obtain rfl := h.translated_eq_iff.mp hsame
      exact ⟨port', hl'⟩
    · intro ip port hl
      exact (h.built_iff hlay hv ip port).mp (hshares.built _ (hlater hl))
  · intro hreads
    refine ⟨(construct_eq_some_iff hv h.transport).mpr hreads.ports, ⟨?_, ?_⟩, ?_, ?_⟩
    · rintro ⟨pkt, hf⟩
      obtain ⟨ip, port, hl, -⟩ := Arrival.forwards_iff.mp hf
      obtain ⟨port', hl'⟩ := (hreads.leads ip).mp ⟨port, hl⟩
      exact ⟨_, hlater hl'⟩
    · rintro ⟨pkt', hf'⟩
      obtain ⟨ip, port, hl', -⟩ := Arrival.forwards_iff.mp hf'
      obtain ⟨port', hl⟩ := (hreads.leads ip).mpr ⟨port, (h.leads_iff _ _).mp hl'⟩
      exact ⟨_, hfirst hl⟩
    · intro pkt pkt' hf hf'
      obtain ⟨ip, port, hl, rfl⟩ := Arrival.forwards_iff.mp hf
      obtain ⟨ip', port', hl', rfl⟩ := Arrival.forwards_iff.mp hf'
      obtain ⟨port'', hl''⟩ := (hreads.leads ip).mp ⟨port, hl⟩
      exact h.translated_eq_iff.mpr (((h.leads_iff _ _).mp hl').unique hl'').1
    · intro pkt' hf'
      obtain ⟨ip, port, hl', rfl⟩ := Arrival.forwards_iff.mp hf'
      exact (h.built_iff hlay hv ip port).mpr (hreads.segment ip port ((h.leads_iff _ _).mp hl'))

/-- **When all fragments of a datagram share its fate.**  A UDP or TCP datagram is cut into
fragments, and the NAT handles each of them in whatever state it is in by then.  Every
later fragment shares the fate of the first one iff every one reads like it. -/
theorem fragments_share_fate_iff (hlay : LaysOutWith order sum lay) {datagram : List UInt8}
    {rest : List (List UInt8)} (hcut : Cut order datagram first rest) (ingoing : Bool)
    (arrival : List UInt8 → Arrival) :
    (∀ later ∈ rest,
        SharesFate order lay ingoing (arrival first) (arrival later) first later) ↔
      ∀ later ∈ rest, ReadsAlike order sum (arrival first).nat (arrival later).nat
        ((arrival first).packet order ingoing first) later := by
  obtain ⟨_, hfirst⟩ := hcut.pieces.fragmentAt List.mem_cons_self
  refine forall₂_congr fun later hmem => ?_
  obtain ⟨_, hlater⟩ := hcut.pieces.fragmentAt (List.mem_cons_of_mem _ hmem)
  have hone : OneDatagram order first later := by
    refine ⟨?_, hlater.protocol.trans hfirst.protocol.symm, hlater.saddr.trans hfirst.saddr.symm,
      hlater.daddr.trans hfirst.daddr.symm⟩
    rw [hlater.protocol]
    exact hcut.transport
  exact hone.sharesFate_iff hlay ⟨hlater.header, hlater.fits, hlater.length⟩

end Fate

/-- An IPv4 header from 10.0.2.9 to 10.0.2.1 for `len` bytes of UDP. -/
def pieceHeader (len flags offset : UInt8) : List UInt8 :=
  [0x45, 0, 0, 20 + len, 0, 7, flags, offset, 64, 17, 0, 0, 10, 0, 2, 9, 10, 0, 2, 1]

/-- The header of a datagram from port 5 to port 80. -/
def firstPiece : List UInt8 := [0, 5, 0, 80, 0, 16, 0, 0]

/-- Its data, which read as a datagram from port 5 to port 81. -/
def laterPiece : List UInt8 := [0, 5, 0, 81, 0, 8, 232, 125]

def cutDatagram : List UInt8 := pieceHeader 16 0 0 ++ (firstPiece ++ laterPiece)
def firstFragment : List UInt8 := pieceHeader 8 0x20 0 ++ firstPiece
def laterFragment : List UInt8 := pieceHeader 8 0 1 ++ laterPiece

theorem firstFragment_at : FragmentAt .little cutDatagram 0 firstFragment where
  version := rfl
  header := Nat.le_refl 20
  fits := Nat.le_add_right 20 8
  length := rfl
  id := rfl
  protocol := rfl
  saddr := rfl
  daddr := rfl
  offset := rfl
  nonempty := List.cons_ne_nil _ _
  body := rfl

theorem laterFragment_at : FragmentAt .little cutDatagram 8 laterFragment where
  version := rfl
  header := Nat.le_refl 20
  fits := Nat.le_add_right 20 8
  length := rfl
  id := rfl
  protocol := rfl
  saddr := rfl
  daddr := rfl
  offset := rfl
  nonempty := List.cons_ne_nil _ _
  body := rfl

theorem cut_datagram : Cut .little cutDatagram firstFragment [laterFragment] where
  valid := ⟨rfl, Nat.le_refl 20, Nat.le_add_right 20 16, rfl⟩
  unfragmented := rfl
  transport := Or.inl rfl
  pieces := by
    refine .piece firstFragment_at ?_ (.piece laterFragment_at ?_ .done)
    · decide
    · decide
  udpHeader _ := Nat.le_refl 8
  tcpHeader h := absurd h (by decide)

/-- What both fragments meet. -/
def arrivalAt (c : NatConfig) : Arrival := ⟨{ isIngoing := true }, 0, 0, c.init, 0⟩

/-- **A datagram loses its second half**: the NAT has a rule for port 80 and none for 81. -/
theorem later_fragment_dropped :
    Cut .little cutDatagram firstFragment [laterFragment] ∧
      (∃ pkt, (ruledNat 80).init.handlePacket 0
        ((arrivalAt (ruledNat 80)).packet .little true firstFragment) =
          some ((ruledNat 80).init, some pkt)) ∧
      ¬SharesFate .little (libnetWrite .little) true (arrivalAt (ruledNat 80))
        (arrivalAt (ruledNat 80)) firstFragment laterFragment := by
  have hfirst : (ruledNat 80).init.handlePacket 0
      ((arrivalAt (ruledNat 80)).packet .little true firstFragment) =
        some ((ruledNat 80).init, some _) := rfl
  refine ⟨cut_datagram, ⟨_, hfirst⟩, fun hshares => ?_⟩
  obtain ⟨pkt', s', hlater⟩ := hshares.forwarded.mp ⟨_, _, hfirst⟩
  have hdropped : ((arrivalAt (ruledNat 80)).nat.handlePacket 0 ((arrivalAt (ruledNat 80)).packet
      .little true laterFragment)).map (·.2.isSome) = some false := by decide
  exact absurd (hdropped.symm.trans (congrArg (Option.map (·.2.isSome)) hlater)) (by simp)

theorem libnetWrite_laysOutWith (order : ByteOrder) : LaysOutWith order
    (fun src dst prot _ segment => transportSum order src dst prot segment) (libnetWrite order) where
  udp _ _ _ _ _ _ _ _ _ _ _ _ := ⟨_, rfl⟩
  tcp _ _ _ _ _ _ _ _ _ _ _ _ _ _ _ _ _ _ _ hoff := by
    subst hoff
    exact ⟨_, rfl⟩

/-- With rules for both ports, the datagram stays whole. -/
theorem fragments_share_fate_ruled :
    let c := (ruledNat 80).setDnatRule 0x0A000102 81 81
    ∀ later ∈ [laterFragment], SharesFate .little (libnetWrite .little) true (arrivalAt c)
      (arrivalAt c) firstFragment later := by
  intro c
  refine (fragments_share_fate_iff (libnetWrite_laysOutWith .little) cut_datagram true
    fun _ => arrivalAt c).mpr fun later hmem => ?_
  obtain rfl := List.mem_singleton.mp hmem
  have hfirst : c.init.Leads ((arrivalAt c).packet .little true firstFragment) 0x0A000102 80 :=
    (NatBox.leads_iff _ _ _ _ 0).mpr ⟨_, rfl⟩
  have hlater : c.init.Leads (((arrivalAt c).packet .little true firstFragment).withPortsOf
      .little laterFragment) 0x0A000102 81 := (NatBox.leads_iff _ _ _ _ 0).mpr ⟨_, rfl⟩
  refine ⟨by decide, fun ip => ⟨?_, ?_⟩, ?_⟩
  · rintro ⟨port, hl⟩
    obtain ⟨rfl, -⟩ := hl.unique hfirst
    exact ⟨81, hlater⟩
  · rintro ⟨port, hl⟩
    obtain ⟨rfl, -⟩ := hl.unique hlater
    exact ⟨80, hfirst⟩
  · intro ip port hl
    obtain ⟨rfl, rfl⟩ := hl.unique hlater
    exact ⟨by decide, fun _ => ⟨by decide, by decide, by decide⟩, fun h => absurd h (by decide)⟩

end ShapingRouter
