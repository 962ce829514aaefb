import Mathlib
import ShapingRouter.PacketBounds
import ShapingRouter.WrittenPacket

/-! # What OutputLibnet keeps of a packet

A packet that is written to the network without having been rewritten should be the
packet that came in.  Its header is not.  `popHandler` hands libnet the fragment
offset where the identification belongs and leaves the offset out of the flags word,
and it has no options written (`ipv4_header_kept_iff`).  Its transport segment is:
with the ports of the packet object, and up to checksums and the reserved bits of
TCP, the slices that the three branches cut out of the bytes tile the segment that
was received (`segment_kept`).
-/

namespace ShapingRouter
open Library

namespace Iphdr
variable (order : ByteOrder) (bytes : List UInt8)

/-- The fields that `popHandler` does not pass on by name. -/
def ihl : UInt8 := byteAt bytes 0 &&& 0x0F
def options : List UInt8 := Slice.read ⟨20, (hdrLen bytes).toNat - 20⟩ bytes
def id : UInt16 := order.ntohs (order.load16 (Slice.read ⟨4, 2⟩ bytes))
def flags : UInt16 := frag_off order bytes &&& 0x6000
def fragmentOffset : UInt16 := frag_off order bytes &&& 0x1FFF

end Iphdr

/-- An IPv4 packet whose header and length field agree with the bytes there are. -/
structure ValidIpv4 (order : ByteOrder) (bytes : List UInt8) : Prop where
  version : byteAt bytes 0 >>> 4 = 4
  header : 20 ≤ (Iphdr.hdrLen bytes).toNat
  fits : (Iphdr.hdrLen bytes).toNat ≤ bytes.length
  length : (Iphdr.tot_len order bytes).toNat = bytes.length

/-! ## The header -/

/-- The header of `sent` says what the header of `received` says, but for the
checksum. -/
structure HeaderKept (order : ByteOrder) (received sent : List UInt8) : Prop where
  ihl : Iphdr.ihl sent = Iphdr.ihl received
  options : Iphdr.options sent = Iphdr.options received
  tos : Iphdr.tos sent = Iphdr.tos received
  tot_len : Iphdr.tot_len order sent = Iphdr.tot_len order received
  id : Iphdr.id order sent = Iphdr.id order received
  flags : Iphdr.flags order sent = Iphdr.flags order received
  fragmentOffset : Iphdr.fragmentOffset order sent = Iphdr.fragmentOffset order received
  ttl : Iphdr.ttl sent = Iphdr.ttl received
  protocol : Iphdr.protocol sent = Iphdr.protocol received
  saddr : Iphdr.saddr order sent = Iphdr.saddr order received
  daddr : Iphdr.daddr order sent = Iphdr.daddr order received

/-- The rest of an IPv4 header, read back. -/
theorem read_ipv4Header_rest (order : ByteOrder) (len : UInt16) (tos : UInt8) (id frag : UInt16)
    (ttl prot : UInt8) (sum : UInt16) (src dst : UInt32) (rest : List UInt8) :
    let bytes := ipv4Header order len tos id frag ttl prot sum src dst ++ rest
    (Iphdr.ihl bytes = 5 ∧ Iphdr.options bytes = []) ∧ Iphdr.tos bytes = tos ∧
      Iphdr.tot_len order bytes = len ∧ Iphdr.id order bytes = id ∧
      Iphdr.frag_off order bytes = frag ∧ Iphdr.ttl bytes = ttl := by
  obtain ⟨l₁, l₂, hlen⟩ := ByteOrder.exists_store16 .big len
  obtain ⟨i₁, i₂, hid⟩ := ByteOrder.exists_store16 .big id
  obtain ⟨f₁, f₂, hfrag⟩ := ByteOrder.exists_store16 .big frag
  have hword : ∀ {a b : UInt8} {x : UInt16}, ByteOrder.big.store16 x = [a, b] →
      order.ntohs (order.load16 [a, b]) = x := by
    intro a b x hx
    rw [order.ntohs_load16 rfl, ← hx, ByteOrder.load16_store16]
  simp only [ipv4Header, hlen, hid, hfrag, List.cons_append, List.nil_append]
  refine ⟨⟨?_, ?_⟩, rfl, hword hlen, hword hid, hword hfrag, rfl⟩
  · show (0x45 : UInt8) &&& 0x0F = 5
    decide
  · rw [Iphdr.options, hdrLen_cons]
    rfl

/-- **When the header is kept.**  The packet with the bytes `payload` passes the
filters, which change its time stamp and its verdict, and is written by a run of
`popHandler`.  The header written is the header received iff that has no options, the
identification 0 and the fragment offset 0. -/
theorem ipv4_header_kept_iff {order : ByteOrder} {lay : List LibnetCall → List UInt8}
    (hlay : LaysOut order lay) (prior : ParentPacket) (stamp sent : Nat) (packetId : UInt32)
    (ingoing verdictSet : Bool) {payload : List UInt8} {pkt : Packet}
    (hpkt : pkt = { (Packet.construct order prior stamp packetId payload).setIngoing ingoing with
      stamp := sent, verdictSet := verdictSet })
    {r : LibnetResults} {l : Bool} {calls : List LibnetCall}
    (hw : (OutputLibnet.popHandler order r l (.ok pkt)).written = some calls) :
    HeaderKept order payload (lay calls) ↔ Iphdr.ihl payload = 5 ∧
      Iphdr.id order payload = 0 ∧ Iphdr.fragmentOffset order payload = 0 := by
  have hdata : pkt.packetData = payload := by
    rw [hpkt]
    exact Packet.construct_packetData order prior stamp packetId
  have hfrag : pkt.ipFrag = Iphdr.frag_off order payload := by rw [hpkt]; rfl
  have hsrc : pkt.srcIp = Iphdr.saddr order payload := by rw [hpkt]; rfl
  have hdst : pkt.dstIp = Iphdr.daddr order payload := by rw [hpkt]; rfl
  obtain ⟨sum, segment, -, hbytes⟩ := OutputLibnet.written_segment hlay hw
  rw [hdata] at hbytes
  obtain ⟨hprot, hsaddr, hdaddr, -⟩ := read_ipv4Header order (Iphdr.tot_len order payload)
    (Iphdr.tos payload) pkt.getFragmentID pkt.getFragmentFlags (Iphdr.ttl payload)
    (Iphdr.protocol payload) sum pkt.srcIp pkt.dstIp segment
  obtain ⟨⟨hihl, hoptions⟩, htos, htot, hid, hoff, httl⟩ := read_ipv4Header_rest order
    (Iphdr.tot_len order payload) (Iphdr.tos payload) pkt.getFragmentID pkt.getFragmentFlags
    (Iphdr.ttl payload) (Iphdr.protocol payload) sum (order.htonl pkt.srcIp)
    (order.htonl pkt.dstIp) segment
  rw [← hbytes] at hprot hsaddr hdaddr hihl hoptions htos htot hid hoff httl
  -- the accessors split the flags word: the offset is what is called the fragment id
  have hsentId : Iphdr.id order (lay calls) = Iphdr.fragmentOffset order payload := by
    rw [hid, Packet.getFragmentID, hfrag, Iphdr.fragmentOffset]
  have hsentOffset : Iphdr.fragmentOffset order (lay calls) = 0 := by
    rw [Iphdr.fragmentOffset, hoff, Packet.getFragmentFlags, UInt16.and_assoc]
    exact UInt16.and_zero
  have hsentFlags : Iphdr.flags order (lay calls) = Iphdr.flags order payload := by
    rw [Iphdr.flags, hoff, Packet.getFragmentFlags, hfrag, UInt16.and_assoc, Iphdr.flags]
    rfl
  constructor
  · intro h
    have hoffset := h.fragmentOffset
    rw [hsentOffset] at hoffset
    refine ⟨h.ihl.symm.trans hihl, ?_, hoffset.symm⟩
    rw [← h.id, hsentId, ← hoffset]
  · rintro ⟨hfive, hzero, hoffset⟩
    have hnone : Iphdr.options payload = [] := by
      rw [Iphdr.options, Iphdr.hdrLen, show byteAt payload 0 &&& 0x0F = 5 from hfive]
      exact List.take_zero
    exact ⟨hihl.trans hfive.symm, hoptions.trans hnone.symm, htos, htot,
      by rw [hsentId, hoffset, hzero], hsentFlags, hsentOffset.trans hoffset.symm, httl, hprot,
      hsaddr.trans hsrc, hdaddr.trans hdst⟩

/-- An empty UDP datagram from 0.0.0.1:5 to 0.0.0.7:80, with the given identification. -/
def identifiedBytes (id : UInt8) : List UInt8 :=
  [0x45, 0, 0, 28, 0, id, 0, 0, 64, 17, 0, 0, 0, 0, 0, 1, 0, 0, 0, 7, 0, 5, 0, 80, 0, 8, 0, 0]

/-- A datagram with the identification 0 keeps its header. -/
theorem ipv4_header_kept_unidentified :
    ∃ calls, (OutputLibnet.popHandler .little {} true
        (.ok ((Packet.construct .little { isIngoing := false } 0 0 (identifiedBytes 0)).setIngoing
          false))).written = some calls ∧
      HeaderKept .little (identifiedBytes 0) (libnetWrite .little calls) := by
  have hw : (OutputLibnet.popHandler .little {} true
      (.ok ((Packet.construct .little { isIngoing := false } 0 0 (identifiedBytes 0)).setIngoing
        false))).written = some _ := rfl
  exact ⟨_, hw, (ipv4_header_kept_iff (libnetWrite_laysOut .little) { isIngoing := false } 0 0 0
    false false rfl hw).mpr (by decide)⟩

/-- **A datagram loses its identification**: 1 comes in, and 0 is written. -/
theorem ipv4_header_loses_id :
    ValidIpv4 .little (identifiedBytes 1) ∧
    ∃ calls, (OutputLibnet.popHandler .little {} true
        (.ok ((Packet.construct .little { isIngoing := false } 0 0 (identifiedBytes 1)).setIngoing
          false))).written = some calls ∧
      ¬ HeaderKept .little (identifiedBytes 1) (libnetWrite .little calls) := by
  refine ⟨⟨by decide, by decide, by decide, by decide⟩, _, rfl, fun h => ?_⟩
  have hid := h.id
  revert hid
  decide

/-! ## The transport segment -/

/-- The data offset of a TCP header that begins at `off`, in words. -/
def tcpDataOffset (bytes : List UInt8) (off : Nat) : Nat := (byteAt bytes (off + 12) >>> 4).toNat

/-- The lengths in the transport header of an option-free packet agree with the bytes
there are. -/
structure ConsistentTransport (order : ByteOrder) (bytes : List UInt8) : Prop where
  udp : Iphdr.protocol bytes = IPPROTO_UDP →
    8 ≤ (OutputLibnet.transport16 order bytes 4).toNat ∧
      (OutputLibnet.transport16 order bytes 4).toNat = bytes.length - 20
  tcp : Iphdr.protocol bytes = IPPROTO_TCP →
    5 ≤ tcpDataOffset bytes 20 ∧ 4 * tcpDataOffset bytes 20 ≤ bytes.length - 20

/-- `sent` has the ports of `pkt`, and as many bytes as `received`. -/
structure PortsWritten (pkt : Packet) (received sent : List UInt8) : Prop where
  length : sent.length = received.length
  sport : Slice.read ⟨0, 2⟩ sent = ByteOrder.big.store16 pkt.sport
  dport : Slice.read ⟨2, 2⟩ sent = ByteOrder.big.store16 pkt.dport

/-- A UDP datagram is kept: its length field and its payload. -/
structure UdpKept (pkt : Packet) (received sent : List UInt8) : Prop
    extends PortsWritten pkt received sent where
  uh_ulen : Slice.read ⟨4, 2⟩ sent = Slice.read ⟨4, 2⟩ received
  payload : sent.drop 8 = received.drop 8

/-- A TCP segment is kept: its numbers, its data offset, its control bits, its window,
its urgent pointer, and all that follows, options and payload. -/
structure TcpKept (pkt : Packet) (received sent : List UInt8) : Prop
    extends PortsWritten pkt received sent where
  th_seq : Slice.read ⟨4, 4⟩ sent = Slice.read ⟨4, 4⟩ received
  th_ack : Slice.read ⟨8, 4⟩ sent = Slice.read ⟨8, 4⟩ received
  th_off : tcpDataOffset sent 0 = tcpDataOffset received 0
  th_flags : byteAt sent 13 = byteAt received 13
  th_win : Slice.read ⟨14, 2⟩ sent = Slice.read ⟨14, 2⟩ received
  th_urp : Slice.read ⟨18, 2⟩ sent = Slice.read ⟨18, 2⟩ received
  payload : sent.drop 20 = received.drop 20

/-- The segment `sent` for `pkt` is the segment `received`, up to ports, checksums and
the reserved bits of TCP. -/
structure SegmentKept (protocol : UInt8) (pkt : Packet) (received sent : List UInt8) : Prop where
  udp : protocol = IPPROTO_UDP → UdpKept pkt received sent
  tcp : protocol = IPPROTO_TCP → TcpKept pkt received sent
  other : protocol ≠ IPPROTO_UDP → protocol ≠ IPPROTO_TCP → sent = received

/-- The data offset has four bits. -/
theorem tcpDataOffset_lt (bytes : List UInt8) (off : Nat) : tcpDataOffset bytes off < 16 := by
  have := (byteAt bytes (off + 12)).toNat_lt
  rw [tcpDataOffset, UInt8.toNat_shiftRight]
  show (byteAt bytes (off + 12)).toNat >>> 4 < 16
  omega

theorem Slice.read_drop (s : Slice) (k : Nat) (bytes : List UInt8) :
    s.read (bytes.drop k) = Slice.read ⟨k + s.off, s.len⟩ bytes := by
  simp [Slice.read, List.drop_drop]

theorem byteAt_drop (bytes : List UInt8) (k off : Nat) :
    byteAt (bytes.drop k) off = byteAt bytes (k + off) := by
  simp [byteAt, List.getD_eq_getElem?_getD]

/-- The UDP header, read back. -/
theorem read_udpHeader (sp dp len sum : UInt16) (rest : List UInt8) :
    let bytes := udpHeader sp dp len sum ++ rest
    Slice.read ⟨0, 2⟩ bytes = ByteOrder.big.store16 sp ∧
      Slice.read ⟨2, 2⟩ bytes = ByteOrder.big.store16 dp ∧
      Slice.read ⟨4, 2⟩ bytes = ByteOrder.big.store16 len ∧ bytes.drop 8 = rest := by
  obtain ⟨s₁, s₂, hsp⟩ := ByteOrder.exists_store16 .big sp
  obtain ⟨d₁, d₂, hdp⟩ := ByteOrder.exists_store16 .big dp
  obtain ⟨l₁, l₂, hlen⟩ := ByteOrder.exists_store16 .big len
  obtain ⟨c₁, c₂, hsum⟩ := ByteOrder.exists_store16 .big sum
  simp only [udpHeader, hsp, hdp, hlen, hsum, List.cons_append, List.nil_append]
  exact ⟨rfl, rfl, rfl, rfl⟩

/-- The TCP header, read back. -/
theorem read_tcpHeader (sp dp : UInt16) (seq ack : UInt32) (off control : UInt8)
    (win sum urg : UInt16) (rest : List UInt8) :
    let bytes := tcpHeader sp dp seq ack off control win sum urg ++ rest
    (Slice.read ⟨0, 2⟩ bytes = ByteOrder.big.store16 sp ∧
      Slice.read ⟨2, 2⟩ bytes = ByteOrder.big.store16 dp) ∧
    (Slice.read ⟨4, 4⟩ bytes = ByteOrder.big.store32 seq ∧
      Slice.read ⟨8, 4⟩ bytes = ByteOrder.big.store32 ack) ∧
    (byteAt bytes 12 = off <<< 4 ∧ byteAt bytes 13 = control) ∧
    (Slice.read ⟨14, 2⟩ bytes = ByteOrder.big.store16 win ∧
      Slice.read ⟨18, 2⟩ bytes = ByteOrder.big.store16 urg) ∧ bytes.drop 20 = rest := by
  obtain ⟨s₁, s₂, hsp⟩ := ByteOrder.exists_store16 .big sp
  obtain ⟨d₁, d₂, hdp⟩ := ByteOrder.exists_store16 .big dp
  obtain ⟨q₁, q₂, q₃, q₄, hseq⟩ := ByteOrder.exists_store32 .big seq
  obtain ⟨a₁, a₂, a₃, a₄, hack⟩ := ByteOrder.exists_store32 .big ack
  obtain ⟨w₁, w₂, hwin⟩ := ByteOrder.exists_store16 .big win
  obtain ⟨c₁, c₂, hsum⟩ := ByteOrder.exists_store16 .big sum
  obtain ⟨u₁, u₂, hurg⟩ := ByteOrder.exists_store16 .big urg
  simp only [tcpHeader, hsp, hdp, hseq, hack, hwin, hsum, hurg, List.cons_append, List.nil_append]
  exact ⟨⟨rfl, rfl⟩, ⟨rfl, rfl⟩, ⟨rfl, rfl⟩, ⟨rfl, rfl⟩, rfl⟩

namespace OutputLibnet
variable {order : ByteOrder} {bytes : List UInt8}

/-- A word of the transport header goes out as it came in. -/
theorem store16_transport16 {off : Nat} (hlen : ipHdrLen bytes + off + 2 ≤ bytes.length) :
    ByteOrder.big.store16 (transport16 order bytes off) =
      Slice.read ⟨off, 2⟩ (bytes.drop (ipHdrLen bytes)) := by
  have hread : (Slice.read ⟨ipHdrLen bytes + off, 2⟩ bytes).length = 2 := Slice.length_read hlen
  rw [transport16, order.ntohs_load16 hread, ByteOrder.big.store16_load16 hread, Slice.read_drop]

theorem store32_transport32 {off : Nat} (hlen : ipHdrLen bytes + off + 4 ≤ bytes.length) :
    ByteOrder.big.store32 (transport32 order bytes off) =
      Slice.read ⟨off, 4⟩ (bytes.drop (ipHdrLen bytes)) := by
  have hread : (Slice.read ⟨ipHdrLen bytes + off, 4⟩ bytes).length = 4 := Slice.length_read hlen
  rw [transport32, order.ntohl_load32 hread, ByteOrder.big.store32_load32 hread, Slice.read_drop]

/-- The payload of a datagram is all that follows its header. -/
theorem read_udpPayload
    (hlen : ipHdrLen bytes + (transport16 order bytes 4).toNat = bytes.length)
    (hmin : 8 ≤ (transport16 order bytes 4).toNat) :
    (udpPayload order bytes).read bytes = bytes.drop (ipHdrLen bytes + 8) := by
  rw [udpPayload_eq hmin]
  apply List.take_of_length_le
  rw [List.length_drop]
  dsimp only
  omega

/-- **The slices of a TCP segment tile it**: options and payload are all that follows
the fixed header. -/
theorem read_tcpOptions_append (htcp : HoldsTcp bytes) (hlt : bytes.length < 2 ^ 16) :
    (tcpOptions bytes).read bytes ++ (tcpPayload bytes).read bytes =
      bytes.drop (ipHdrLen bytes + 20) := by
  obtain ⟨hfixed, hmin, hfits⟩ := htcp
  have hsize := @tcpOptionsSize_eq bytes (by omega)
  have hpayload : (tcpPayload bytes).read bytes =
      (bytes.drop (ipHdrLen bytes + 20)).drop (tcpOptionsSize bytes).toNat := by
    rw [tcpPayload, tcpPayloadSize_eq hlt (by omega), List.drop_drop]
    exact List.take_of_length_le (by rw [List.length_drop])
  rw [hpayload, tcpOptions]
  exact List.take_append_drop _ _

/-- Options come in whole words, so libnet fills nothing up. -/
theorem paddedOptions_read (htcp : HoldsTcp bytes) :
    paddedOptions ((tcpOptions bytes).read bytes) = (tcpOptions bytes).read bytes ∧
      ((tcpOptions bytes).read bytes).length =
        4 * tcpDataOffset bytes (ipHdrLen bytes) - 20 := by
  obtain ⟨hfixed, hmin, hfits⟩ := htcp
  have hsize := @tcpOptionsSize_eq bytes (by omega)
  have hlength : ((tcpOptions bytes).read bytes).length =
      4 * tcpDataOffset bytes (ipHdrLen bytes) - 20 := by
    rw [Slice.length_read]
    · exact hsize
    · dsimp only [tcpOptions]
      omega
  refine ⟨?_, hlength⟩
  have hpad : (4 - (4 * tcpDataOffset bytes (ipHdrLen bytes) - 20) % 4) % 4 = 0 := by omega
  rw [paddedOptions, hlength, hpad, List.replicate_zero, List.append_nil]

/-- The data offset that libnet sets is the one that came in. -/
theorem dataOffset_written {off : Nat} (hmin : 5 ≤ off) (hmax : off < 16) :
    ((UInt8.ofNat (5 + (4 * off - 20) / 4) <<< 4) >>> 4).toNat = off := by
  have hwords : 5 + (4 * off - 20) / 4 = off := by omega
  rw [hwords, UInt8.toNat_shiftRight, UInt8.toNat_shiftLeft, UInt8.toNat_ofNat']
  show ((off % 256) <<< 4 % 256) >>> 4 = off
  omega

section Kept
variable {pkt : Packet} {sum : UInt16}

/-- A datagram is kept. -/
theorem udpKept (hlen : ipHdrLen bytes + (transport16 order bytes 4).toNat = bytes.length)
    (hmin : 8 ≤ (transport16 order bytes 4).toNat) :
    UdpKept pkt (bytes.drop (ipHdrLen bytes))
      (udpHeader pkt.sport pkt.dport (transport16 order bytes 4) sum ++
        (udpPayload order bytes).read bytes) := by
  obtain ⟨hsport, hdport, hulen, hrest⟩ := read_udpHeader pkt.sport pkt.dport
    (transport16 order bytes 4) sum ((udpPayload order bytes).read bytes)
  have hpayload := read_udpPayload hlen hmin
  refine ⟨⟨?_, hsport, hdport⟩, ?_, ?_⟩
  · rw [hpayload]
    simp [udpHeader]
    omega
  · rw [hulen, store16_transport16 (by omega)]
  · rw [hrest, hpayload, List.drop_drop]

/-- A TCP segment is kept. -/
theorem tcpKept (htcp : HoldsTcp bytes) (hlt : bytes.length < 2 ^ 16) :
    TcpKept pkt (bytes.drop (ipHdrLen bytes))
      (tcpHeader pkt.sport pkt.dport (transport32 order bytes 4) (transport32 order bytes 8)
        (UInt8.ofNat (5 + (paddedOptions ((tcpOptions bytes).read bytes)).length / 4))
        (byteAt bytes (ipHdrLen bytes + 13)) (transport16 order bytes 14) sum
        (transport16 order bytes 18) ++
          (paddedOptions ((tcpOptions bytes).read bytes) ++ (tcpPayload bytes).read bytes)) := by
  obtain ⟨hpadded, hlength⟩ := paddedOptions_read htcp
  rw [hpadded, hlength, read_tcpOptions_append htcp hlt]
  obtain ⟨hfixed, hmin, hfits⟩ := htcp
  obtain ⟨⟨hsport, hdport⟩, ⟨hseq, hack⟩, ⟨hoffset, hflags⟩, ⟨hwin, hurg⟩, hrest⟩ :=
    read_tcpHeader pkt.sport pkt.dport (transport32 order bytes 4) (transport32 order bytes 8)
      (UInt8.ofNat (5 + (4 * tcpDataOffset bytes (ipHdrLen bytes) - 20) / 4))
      (byteAt bytes (ipHdrLen bytes + 13)) (transport16 order bytes 14) sum
      (transport16 order bytes 18) (bytes.drop (ipHdrLen bytes + 20))
  refine ⟨⟨?_, hsport, hdport⟩, ?_, ?_, ?_, ?_, ?_, ?_, ?_⟩
  · simp [tcpHeader]
    omega
  · rw [hseq, store32_transport32 (by omega)]
  · rw [hack, store32_transport32 (by omega)]
  · have hreceived : tcpDataOffset (bytes.drop (ipHdrLen bytes)) 0 =
        tcpDataOffset bytes (ipHdrLen bytes) := by
      rw [tcpDataOffset, byteAt_drop, tcpDataOffset]
    rw [hreceived, tcpDataOffset, hoffset]
    exact dataOffset_written hmin (tcpDataOffset_lt bytes _)
  · rw [hflags, byteAt_drop]
  · rw [hwin, store16_transport16 (by omega)]
  · rw [hurg, store16_transport16 (by omega)]
  · rw [hrest, List.drop_drop]

end Kept
end OutputLibnet

/-- **The transport segment is kept.**  A valid packet without options, whose transport
header is consistent, is written by a run of `popHandler` with any addresses and ports.
What follows the IP header written has these ports, and is otherwise what followed the
IP header received. -/
theorem segment_kept {order : ByteOrder} {lay : List LibnetCall → List UInt8}
    (hlay : LaysOut order lay) {payload : List UInt8} (hvalid : ValidIpv4 order payload)
    (hihl : Iphdr.ihl payload = 5) (htransport : ConsistentTransport order payload)
    {pkt : Packet} (hdata : pkt.packetData = payload) {r : LibnetResults} {l : Bool}
    {calls : List LibnetCall}
    (hw : (OutputLibnet.popHandler order r l (.ok pkt)).written = some calls) :
    SegmentKept (Iphdr.protocol payload) pkt (payload.drop 20) ((lay calls).drop 20) := by
  have hhdr : OutputLibnet.ipHdrLen payload = 20 := by
    rw [OutputLibnet.ipHdrLen, Iphdr.hdrLen, show byteAt payload 0 &&& 0x0F = 5 from hihl]
    rfl
  have hlt : payload.length < 2 ^ 16 := by
    rw [← hvalid.length]
    exact UInt16.toNat_lt _
  obtain ⟨sum, segment, hseg, hbytes⟩ := OutputLibnet.written_segment hlay hw
  rw [hdata] at hseg hbytes
  have hsegment : (lay calls).drop 20 = segment := by
    rw [hbytes]
    exact List.drop_left' (by simp [ipv4Header])
  rw [hsegment]
  have hdrop : payload.drop 20 = payload.drop (OutputLibnet.ipHdrLen payload) := by rw [hhdr]
  rw [hdrop]
  cases hseg with
  | udp usum hproto =>
    obtain ⟨hmin, hlen⟩ := htransport.udp hproto
    have htotal : OutputLibnet.ipHdrLen payload +
        (OutputLibnet.transport16 order payload 4).toNat = payload.length := by omega
    refine ⟨fun _ => OutputLibnet.udpKept htotal hmin, fun htcp => ?_,
      fun hudp _ => absurd hproto hudp⟩
    rw [hproto] at htcp
    exact absurd htcp (by decide)
  | tcp tsum options hproto hoptions =>
    obtain ⟨hoff, hfits⟩ := htransport.tcp hproto
    have hholds : OutputLibnet.HoldsTcp payload := by
      rw [OutputLibnet.HoldsTcp, hhdr]
      exact ⟨by omega, hoff, show 20 + 4 * tcpDataOffset payload 20 ≤ _ by omega⟩
    subst hoptions
    refine ⟨fun hudp => ?_, fun _ => OutputLibnet.tcpKept hholds hlt,
      fun _ htcp => absurd hproto htcp⟩
    rw [hproto] at hudp
    exact absurd hudp (by decide)
  | raw hudp htcp =>
    refine ⟨fun h => absurd h hudp, fun h => absurd h htcp, fun _ _ => ?_⟩
    rw [OutputLibnet.read_ipPayload hvalid.length hvalid.fits]
    rfl

/-- A TCP segment from 0.0.0.1:5 to 0.0.0.7:80 with one word of options and one byte of
payload. -/
def segmentBytes : List UInt8 :=
  [0x45, 0, 0, 45, 0, 0, 0, 0, 64, 6, 0, 0, 0, 0, 0, 1, 0, 0, 0, 7,
    0, 5, 0, 80, 0, 0, 0, 1, 0, 0, 0, 2, 0x60, 0x18, 1, 0, 0, 0, 0, 0, 1, 1, 1, 0, 33]

/-- The segment is sent from 0.0.0.9:6. -/
theorem segment_kept_translated :
    ∃ calls, (OutputLibnet.popHandler .little {} true (.ok ((Packet.construct .little
        { isIngoing := false } 0 0 segmentBytes).withSource 9 6))).written = some calls ∧
      SegmentKept IPPROTO_TCP ((Packet.construct .little { isIngoing := false } 0 0
        segmentBytes).withSource 9 6) (segmentBytes.drop 20) ((libnetWrite .little calls).drop 20) := by
  have hw : (OutputLibnet.popHandler .little {} true (.ok ((Packet.construct .little
      { isIngoing := false } 0 0 segmentBytes).withSource 9 6))).written = some _ := rfl
  exact ⟨_, hw, segment_kept (libnetWrite_laysOut .little)
    ⟨by decide, by decide, by decide, by decide⟩ (by decide) ⟨by decide, by decide⟩ rfl hw⟩

end ShapingRouter
