import Mathlib
import ShapingRouter.LibnetLayout

/-! # What OutputLibnet writes

A run of `popHandler` that writes anything writes an IPv4 header and a transport
segment.  Of the header, the addresses, the flags and the identification come from
the packet object, all else from the bytes of the packet (`written_segment`).  The
segment is one of three kinds (`Segment`): for UDP and TCP a header with the ports of
the packet object and the payload of the bytes, for any other protocol the bytes as
they are.
-/

namespace ShapingRouter.OutputLibnet
open Library

variable {order : ByteOrder} {r : LibnetResults} {l : Bool} {pkt : Packet} {calls : List LibnetCall}

/-- What a run writes is what libnet was asked for when nothing failed. -/
theorem written_eq (h : (popHandler order r l (.ok pkt)).written = some calls) :
    ∃ cs pData, buildTransport order pkt.packetData {} pkt = some (cs, pData) ∧
      calls = cs ++ [ipCall order pkt.packetData pkt pData] := by
  simp only [popHandler] at h
  split at h
  · unfold writePacket at h
    split at h
    · cases h
    · rename_i cs pData hbuilt
      split at h
      · split at h
        · exact ⟨cs, pData, buildTransport_eq_some _ _ hbuilt, (Option.some.inj h).symm⟩
        · cases h
      · cases h
  · cases h

/-- The IP payload of a packet whose length field is right is all that follows the
header. -/
theorem read_ipPayload {bytes : List UInt8}
    (hlen : (Iphdr.tot_len order bytes).toNat = bytes.length)
    (hhdr : (Iphdr.hdrLen bytes).toNat ≤ bytes.length) :
    (ipPayload order bytes).read bytes = bytes.drop (Iphdr.hdrLen bytes).toNat := by
  have hsize : ((Iphdr.tot_len order bytes).toUInt32 - (Iphdr.hdrLen bytes).toUInt32).toNat =
      bytes.length - (Iphdr.hdrLen bytes).toNat := by
    have hle : (Iphdr.hdrLen bytes).toUInt32 ≤ (Iphdr.tot_len order bytes).toUInt32 := by
      rw [UInt32.le_iff_toNat_le, UInt8.toNat_toUInt32, UInt16.toNat_toUInt32, hlen]
      exact hhdr
    rw [UInt32.toNat_sub_of_le _ _ hle, UInt16.toNat_toUInt32, UInt8.toNat_toUInt32, hlen]
  unfold ipPayload Slice.read
  rw [hsize]
  exact List.take_of_length_le (by simp [ipHdrLen])

/-- The transport segments that may be written for a packet with the bytes `pktData`;
the checksums are libnet's. -/
inductive Segment (order : ByteOrder) (pktData : List UInt8) (pkt : Packet) : List UInt8 → Prop
  | udp (sum : UInt16) : Iphdr.protocol pktData = IPPROTO_UDP →
      Segment order pktData pkt (udpHeader pkt.sport pkt.dport (transport16 order pktData 4) sum ++
        (udpPayload order pktData).read pktData)
  | tcp (sum : UInt16) (options : List UInt8) : Iphdr.protocol pktData = IPPROTO_TCP →
      options = paddedOptions ((tcpOptions pktData).read pktData) →
      Segment order pktData pkt (tcpHeader pkt.sport pkt.dport (transport32 order pktData 4)
        (transport32 order pktData 8) (UInt8.ofNat (5 + options.length / 4))
        (byteAt pktData (ipHdrLen pktData + 13)) (transport16 order pktData 14) sum
        (transport16 order pktData 18) ++ (options ++ (tcpPayload pktData).read pktData))
  | raw : Iphdr.protocol pktData ≠ IPPROTO_UDP → Iphdr.protocol pktData ≠ IPPROTO_TCP →
      Segment order pktData pkt ((ipPayload order pktData).read pktData)

/-- **What is written for a packet**: one header and one segment. -/
theorem written_segment {lay : List LibnetCall → List UInt8} (hlay : LaysOut order lay)
    (hw : (popHandler order r l (.ok pkt)).written = some calls) :
    ∃ sum segment, Segment order pkt.packetData pkt segment ∧
      lay calls = ipv4Header order (Iphdr.tot_len order pkt.packetData)
        (Iphdr.tos pkt.packetData) pkt.getFragmentID pkt.getFragmentFlags
        (Iphdr.ttl pkt.packetData) (Iphdr.protocol pkt.packetData) sum
        (order.htonl pkt.srcIp) (order.htonl pkt.dstIp) ++ segment := by
  obtain ⟨cs, pData, hbuilt, rfl⟩ := written_eq hw
  unfold buildTransport at hbuilt
  split at hbuilt
  · rename_i hproto
    obtain ⟨rfl, rfl⟩ := Prod.mk.inj (Option.some.inj hbuilt)
    obtain ⟨sum, hbytes⟩ := hlay.raw _ _ _ _ _ _ _ _ _
    exact ⟨sum, _, .raw (by rw [hproto]; decide) (by rw [hproto]; decide), hbytes⟩
  · split at hbuilt
    · rename_i hudp
      obtain ⟨rfl, rfl⟩ := Prod.mk.inj (Option.some.inj hbuilt)
      obtain ⟨sum, usum, hbytes⟩ := hlay.udp _ _ _ _ _ _ _ _ _ _ _ _
      exact ⟨sum, _, .udp usum hudp, hbytes⟩
    · rename_i hudp
      split at hbuilt
      · rename_i htcp
        obtain ⟨rfl, rfl⟩ := Prod.mk.inj (Option.some.inj hbuilt)
        obtain ⟨sum, tsum, hbytes⟩ := hlay.tcp _ _ _ _ _ _ _ _ _ _ _ _ _ _ _ _ _ _
        exact ⟨sum, _, .tcp tsum _ htcp rfl, hbytes⟩
      · rename_i htcp
        obtain ⟨rfl, rfl⟩ := Prod.mk.inj (Option.some.inj hbuilt)
        obtain ⟨sum, hbytes⟩ := hlay.raw _ _ _ _ _ _ _ _ _
        exact ⟨sum, _, .raw hudp htcp, hbytes⟩

end ShapingRouter.OutputLibnet
