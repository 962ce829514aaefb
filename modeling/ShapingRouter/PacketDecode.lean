import Mathlib
import ShapingRouter.Library.ByteOrder
import ShapingRouter.Packet

/-! # Reading packets from bytes

The headers are read through structures laid over the bytes: a field is a range
of bytes, loaded in the byte order of the host.  `Packet.construct` and
`Packet6.construct` are the constructors that `Router` calls with what the kernel
queue delivers, and `decodeTransportProtocol` fills in the port fields.  For ICMP
these get the echo identifier as it lies in memory, without `ntohs`.
-/

namespace ShapingRouter
open Library

/-- A range of bytes. -/
structure Slice where
  off : Nat
  len : Nat
  deriving DecidableEq, Repr

def Slice.read (s : Slice) (bytes : List UInt8) : List UInt8 := (bytes.drop s.off).take s.len

/-- A byte, as a field of a header. -/
def byteAt (bytes : List UInt8) (off : Nat) : UInt8 := bytes.getD off 0

namespace Iphdr
variable (order : ByteOrder) (bytes : List UInt8)

/-- `ihl << 2`. -/
def hdrLen : UInt8 := (byteAt bytes 0 &&& 0x0F) <<< 2
def tos : UInt8 := byteAt bytes 1
def tot_len : UInt16 := order.ntohs (order.load16 (Slice.read ⟨2, 2⟩ bytes))
def frag_off : UInt16 := order.ntohs (order.load16 (Slice.read ⟨6, 2⟩ bytes))
def ttl : UInt8 := byteAt bytes 8
def protocol : UInt8 := byteAt bytes 9
def saddr : UInt32 := order.ntohl (order.load32 (Slice.read ⟨12, 4⟩ bytes))
def daddr : UInt32 := order.ntohl (order.load32 (Slice.read ⟨16, 4⟩ bytes))

end Iphdr

/-- `decodeTransportProtocol`.  The fields keep what they had where the protocol is
another one. -/
def ParentPacket.decodeTransportProtocol (order : ByteOrder) (p : ParentPacket) (transProt : UInt8)
    (transHdr : List UInt8) : ParentPacket :=
  if transProt = IPPROTO_UDP ∨ transProt = IPPROTO_TCP then
    { p with
      sport := order.ntohs (order.load16 (Slice.read ⟨0, 2⟩ transHdr))
      dport := order.ntohs (order.load16 (Slice.read ⟨2, 2⟩ transHdr)) }
  else if transProt = IPPROTO_ICMP ∨ transProt = IPPROTO_ICMPV6 then
    let id := order.load16 (Slice.read ⟨4, 2⟩ transHdr)
    { p with icmpId := id, sport := id, dport := id }
  else p

/-- `Packet(qh, nfa)`: a packet with the given identifier and payload, made at
`stamp` in memory that held `prior`. -/
def Packet.construct (order : ByteOrder) (prior : ParentPacket) (stamp : Nat) (packetId : UInt32)
    (payload : List UInt8) : Packet where
  toParentPacket :=
    { prior with
      stamp := stamp
      verdictSet := false
      nfqID := order.ntohl packetId
      packetData := payload }.decodeTransportProtocol order (Iphdr.protocol payload)
        (payload.drop (Iphdr.hdrLen payload).toNat)
  transProt := Iphdr.protocol payload
  srcIp := Iphdr.saddr order payload
  dstIp := Iphdr.daddr order payload
  ipFrag := Iphdr.frag_off order payload
  ipHdrLen := Iphdr.hdrLen payload

namespace Ip6Hdr
variable (order : ByteOrder) (bytes : List UInt8)

/-- The first word, as it lies in memory. -/
def ip6_flow : UInt32 := order.load32 (Slice.read ⟨0, 4⟩ bytes)
def ip6_plen : UInt16 := order.ntohs (order.load16 (Slice.read ⟨4, 2⟩ bytes))
def ip6_nxt : UInt8 := byteAt bytes 6
def ip6_hlim : UInt8 := byteAt bytes 7
def ip6_src : In6Addr := Vector.ofFn fun i => byteAt bytes (8 + i)
def ip6_dst : In6Addr := Vector.ofFn fun i => byteAt bytes (24 + i)

end Ip6Hdr

/-- `Packet6(qh, nfa)`. -/
def Packet6.construct (order : ByteOrder) (prior : ParentPacket) (stamp : Nat) (packetId : UInt32)
    (payload : List UInt8) : Packet6 where
  toParentPacket :=
    { prior with
      stamp := stamp
      verdictSet := false
      nfqID := order.ntohl packetId
      packetData := payload }.decodeTransportProtocol order (Ip6Hdr.ip6_nxt payload)
        (payload.drop 40)
  flow := Ip6Hdr.ip6_flow order payload
  plen := Ip6Hdr.ip6_plen order payload
  nxt := Ip6Hdr.ip6_nxt payload
  hlim := Ip6Hdr.ip6_hlim payload
  srcIp := Ip6Hdr.ip6_src payload
  dstIp := Ip6Hdr.ip6_dst payload

/-- `setIngoing`. -/
def Packet.setIngoing (p : Packet) (i : Bool) : Packet := { p with isIngoing := i }

/-! ## Reading what was put together -/

theorem Slice.length_read {s : Slice} {bytes : List UInt8} (h : s.off + s.len ≤ bytes.length) :
    (s.read bytes).length = s.len := by
  unfold Slice.read
  rw [List.length_take, List.length_drop]
  omega

section Construct
variable (order : ByteOrder) (prior : ParentPacket) (stamp : Nat) (packetId : UInt32)
  {payload : List UInt8}

theorem ParentPacket.decodeTransportProtocol_packetData (p : ParentPacket) (transProt : UInt8)
    (transHdr : List UInt8) :
    (p.decodeTransportProtocol order transProt transHdr).packetData = p.packetData := by
  unfold ParentPacket.decodeTransportProtocol
  split
  · rfl
  · split <;> rfl

theorem Packet.construct_packetData :
    (Packet.construct order prior stamp packetId payload).packetData = payload :=
  ParentPacket.decodeTransportProtocol_packetData order _ _ _

theorem Packet6.construct_packetData :
    (Packet6.construct order prior stamp packetId payload).packetData = payload :=
  ParentPacket.decodeTransportProtocol_packetData order _ _ _

/-- TCP and UDP ports are read in network order. -/
theorem Packet.construct_ports
    (hproto : Iphdr.protocol payload = IPPROTO_UDP ∨ Iphdr.protocol payload = IPPROTO_TCP)
    {hdr : List UInt8} (hhdr : payload.drop (Iphdr.hdrLen payload).toNat = hdr)
    (hlen : 4 ≤ hdr.length) :
    (Packet.construct order prior stamp packetId payload).sport =
        ByteOrder.big.load16 (Slice.read ⟨0, 2⟩ hdr) ∧
      (Packet.construct order prior stamp packetId payload).dport =
        ByteOrder.big.load16 (Slice.read ⟨2, 2⟩ hdr) := by
  simp only [Packet.construct, ParentPacket.decodeTransportProtocol, hhdr, if_pos hproto]
  exact ⟨order.ntohs_load16 (Slice.length_read (show 0 + 2 ≤ hdr.length by omega)),
    order.ntohs_load16 (Slice.length_read (show 2 + 2 ≤ hdr.length by omega))⟩

/-- For ICMP both ports are the identifier as it lies in memory. -/
theorem Packet.construct_icmp (hproto : Iphdr.protocol payload = IPPROTO_ICMP)
    {hdr : List UInt8} (hhdr : payload.drop (Iphdr.hdrLen payload).toNat = hdr) :
    (Packet.construct order prior stamp packetId payload).sport =
        order.load16 (Slice.read ⟨4, 2⟩ hdr) ∧
      (Packet.construct order prior stamp packetId payload).dport =
        order.load16 (Slice.read ⟨4, 2⟩ hdr) := by
  have hne : ¬ (IPPROTO_ICMP = IPPROTO_UDP ∨ IPPROTO_ICMP = IPPROTO_TCP) := by decide
  simp only [Packet.construct, ParentPacket.decodeTransportProtocol, hhdr, hproto, if_neg hne,
    true_or, if_true, and_self]

end Construct
end ShapingRouter
