import Mathlib
import ShapingRouter.AsyncQueue
import ShapingRouter.PacketDecode

/-! # OutputLibnet and Output6Libnet

`popHandler` takes one packet from the queue, rebuilds it with libnet, writes it
to the network and asks the queue for the next one.  Libnet itself is outside:
`LibnetResults` says which of its functions succeed in one run, and `LibnetCall`
records what it is asked to build.  A run of `popHandler` is described by
`PopRun`: whether there is a libnet handle afterwards, what was written, and
whether the run came to its last statement, `queue_.asyncPop`.
-/

namespace ShapingRouter
open Library

/-- What libnet is asked to put together, from the transport header down. -/
inductive LibnetCall
  | buildUdp (sp dp len sum : UInt16) (payload : List UInt8)
  | buildTcpOptions (options : List UInt8)
  | buildTcp (sp dp : UInt16) (seq ack : UInt32) (control : UInt8) (win sum urg len : UInt16)
      (payload : List UInt8)
  | buildIpv4 (len : UInt16) (tos : UInt8) (id frag : UInt16) (ttl prot : UInt8) (sum : UInt16)
      (src dst : UInt32) (payload : List UInt8)
  | buildIpv6 (tc : UInt8) (fl : UInt32) (len : UInt16) (nh hl : UInt8) (src dst : In6Addr)
      (payload : List UInt8)
  deriving DecidableEq, Repr

/-- Which libnet functions succeed, should a run of `popHandler` call them. -/
structure LibnetResults where
  init : Bool := true
  buildUdp : Bool := true
  buildTcpOptions : Bool := true
  buildTcp : Bool := true
  buildIp : Bool := true
  write : Bool := true
  deriving DecidableEq, Repr

/-- What a run of `popHandler` came to. -/
structure PopRun where
  /-- `l_ != NULL` -/
  handle : Bool
  /-- What was written, if `libnet_write` succeeded. -/
  written : Option (List LibnetCall)
  /-- Whether `queue_.asyncPop` was called. -/
  rearmed : Bool
  deriving DecidableEq, Repr

namespace OutputLibnet
variable (order : ByteOrder) (pktData : List UInt8)

def ipHdrLen : Nat := (Iphdr.hdrLen pktData).toNat

/-- A field of the transport header. -/
def transport16 (off : Nat) : UInt16 :=
  order.ntohs (order.load16 (Slice.read ⟨ipHdrLen pktData + off, 2⟩ pktData))
def transport32 (off : Nat) : UInt32 :=
  order.ntohl (order.load32 (Slice.read ⟨ipHdrLen pktData + off, 4⟩ pktData))

/-- The bytes after the IP header, `ntohs(ip->tot_len) - ipHdrLen` of them. -/
def ipPayload : Slice :=
  ⟨ipHdrLen pktData, ((Iphdr.tot_len order pktData).toUInt32 -
    (Iphdr.hdrLen pktData).toUInt32).toNat⟩

/-- The bytes after the UDP header, `ntohs(udp->uh_ulen) - 8` of them. -/
def udpPayload : Slice :=
  ⟨ipHdrLen pktData + 8, ((transport16 order pktData 4).toUInt32 - 8).toNat⟩

/-- `(tcp->th_off << 2) - 20`, in eight bits. -/
def tcpOptionsSize : UInt8 := (byteAt pktData (ipHdrLen pktData + 12) >>> 4) <<< 2 - 20

/-- `pktData.size() - ipHdrLen - 20 - tcpOptionsSize`, in 32 bits. -/
def tcpPayloadSize : UInt32 :=
  UInt32.ofNat pktData.length - (Iphdr.hdrLen pktData).toUInt32 - 20 -
    (tcpOptionsSize pktData).toUInt32

def tcpOptions : Slice := ⟨ipHdrLen pktData + 20, (tcpOptionsSize pktData).toNat⟩
def tcpPayload : Slice :=
  ⟨ipHdrLen pktData + 20 + (tcpOptionsSize pktData).toNat, (tcpPayloadSize pktData).toNat⟩

def udpCall (pkt : Packet) : LibnetCall :=
  .buildUdp pkt.sport pkt.dport (transport16 order pktData 4) 0
    ((udpPayload order pktData).read pktData)

def tcpCall (pkt : Packet) : LibnetCall :=
  .buildTcp pkt.sport pkt.dport (transport32 order pktData 4) (transport32 order pktData 8)
    (byteAt pktData (ipHdrLen pktData + 13)) (transport16 order pktData 14) 0
    (transport16 order pktData 18)
    ((Iphdr.hdrLen pktData).toUInt32 + 20 + (tcpOptionsSize pktData).toUInt32 +
      tcpPayloadSize pktData).toUInt16
    ((tcpPayload pktData).read pktData)

/-- The transport part: what is built for it and what is left for the IP payload,
or `none` where a libnet function fails. -/
def buildTransport (r : LibnetResults) (pkt : Packet) : Option (List LibnetCall × List UInt8) :=
  if Iphdr.protocol pktData = IPPROTO_ICMP then
    -- the bytes go out as they came in, the identifier among them
    some ([], (ipPayload order pktData).read pktData)
  else if Iphdr.protocol pktData = IPPROTO_UDP then
    if r.buildUdp then some ([udpCall order pktData pkt], []) else none
  else if Iphdr.protocol pktData = IPPROTO_TCP then
    if r.buildTcpOptions then
      if r.buildTcp then
        some ([.buildTcpOptions ((tcpOptions pktData).read pktData), tcpCall order pktData pkt], [])
      else none
    else none
  else some ([], (ipPayload order pktData).read pktData)

def ipCall (pkt : Packet) (pData : List UInt8) : LibnetCall :=
  .buildIpv4 (Iphdr.tot_len order pktData) (Iphdr.tos pktData) pkt.getFragmentID
    pkt.getFragmentFlags (Iphdr.ttl pktData) (Iphdr.protocol pktData) 0
    (order.htonl pkt.srcIp) (order.htonl pkt.dstIp) pData

/-- `OutputLibnet::popHandler`, when there is a libnet handle. -/
def writePacket (r : LibnetResults) (pkt : Packet) : PopRun :=
  match buildTransport order pkt.packetData r pkt with
  -- each failure returns before the call of asyncPop at the end
  | none => ⟨true, none, false⟩
  | some (calls, pData) =>
    if r.buildIp then
      if r.write then
        ⟨true, some (calls ++ [ipCall order pkt.packetData pkt pData]), true⟩
      else ⟨true, none, false⟩
    else ⟨true, none, false⟩

/-- `OutputLibnet::popHandler`; `l` says whether `l_` is not `NULL`. -/
def popHandler (r : LibnetResults) (l : Bool) : Delivery Packet → PopRun
  | .stopped => ⟨l, none, false⟩
  | .ok pkt => if l || r.init then writePacket order r pkt else ⟨false, none, false⟩

/-- All the libnet functions that a run for `pkt` calls succeed. -/
def GetsThrough (r : LibnetResults) (l : Bool) (pkt : Packet) : Prop :=
  (l = true ∨ r.init = true) ∧
  (Iphdr.protocol pkt.packetData = IPPROTO_UDP → r.buildUdp = true) ∧
  (Iphdr.protocol pkt.packetData = IPPROTO_TCP → r.buildTcpOptions = true ∧ r.buildTcp = true) ∧
  r.buildIp = true ∧ r.write = true

/-- What a run writes does not depend on the results, if it writes anything. -/
theorem buildTransport_eq_some {r : LibnetResults} {pkt : Packet} {built : List LibnetCall × List UInt8}
    (h : buildTransport order pktData r pkt = some built) :
    buildTransport order pktData {} pkt = some built := by
  unfold buildTransport at h ⊢
  split
  · rename_i hp
    rwa [if_pos hp] at h
  · rename_i hp
    rw [if_neg hp] at h
    split
    · rename_i hp
      rw [if_pos hp] at h
      split at h
      · exact h
      · cases h
    · rename_i hp
      rw [if_neg hp] at h
      split
      · rename_i hp
        rw [if_pos hp] at h
        split at h
        · split at h
          · exact h
          · cases h
        · cases h
      · rename_i hp
        rwa [if_neg hp] at h

theorem buildTransport_isSome (r : LibnetResults) (pkt : Packet) :
    (buildTransport order pktData r pkt).isSome = true ↔
      (Iphdr.protocol pktData = IPPROTO_UDP → r.buildUdp = true) ∧
      (Iphdr.protocol pktData = IPPROTO_TCP → r.buildTcpOptions = true ∧ r.buildTcp = true) := by
  unfold buildTransport
  split
  · rename_i hp
    rw [hp]
    simp [IPPROTO_ICMP, IPPROTO_UDP, IPPROTO_TCP]
  · split
    · rename_i hp
      rw [hp]
      cases r.buildUdp <;> simp [IPPROTO_UDP, IPPROTO_TCP]
    · split
      · rename_i hp
        rw [hp]
        cases r.buildTcpOptions <;> cases r.buildTcp <;> simp [IPPROTO_UDP, IPPROTO_TCP]
      · rename_i h₁ h₂
        simp [h₁, h₂]

/-- **Where a run ends**: it asks for the next packet iff all the libnet functions
it calls succeed. -/
theorem popHandler_rearmed (r : LibnetResults) (l : Bool) (pkt : Packet) :
    (popHandler order r l (.ok pkt)).rearmed = true ↔ GetsThrough r l pkt := by
  have hbuilt := buildTransport_isSome order pkt.packetData r pkt
  simp only [popHandler, GetsThrough, ← Bool.or_eq_true]
  rw [← and_assoc (a := _ → _), ← hbuilt]
  cases hl : l || r.init with
  | false => simp
  | true =>
    simp only [if_true, true_and, writePacket]
    cases buildTransport order pkt.packetData r pkt with
    | none => simp
    | some built => cases r.buildIp <;> cases r.write <;> simp

end OutputLibnet

namespace Output6Libnet

def ipPayload (pkt : Packet6) : Slice := ⟨40, pkt.plen.toNat⟩

def ipCall (pkt : Packet6) : LibnetCall :=
  .buildIpv6 pkt.getTclass.toUInt8 pkt.getFlowLabel pkt.plen pkt.nxt pkt.hlim pkt.srcIp pkt.dstIp
    ((ipPayload pkt).read pkt.packetData)

/-- `Output6Libnet::popHandler`; the transport headers are part of the payload. -/
def popHandler (r : LibnetResults) (l : Bool) : Delivery Packet6 → PopRun
  | .stopped => ⟨l, none, false⟩
  | .ok pkt =>
    if l || r.init then
      if r.buildIp then
        if r.write then ⟨true, some [ipCall pkt], true⟩ else ⟨true, none, false⟩
      else ⟨true, none, false⟩
    else ⟨false, none, false⟩

/-- All the libnet functions that a run calls succeed. -/
def GetsThrough (r : LibnetResults) (l : Bool) : Prop :=
  (l = true ∨ r.init = true) ∧ r.buildIp = true ∧ r.write = true

theorem popHandler_rearmed (r : LibnetResults) (l : Bool) (pkt : Packet6) :
    (popHandler r l (.ok pkt)).rearmed = true ↔ GetsThrough r l := by
  unfold popHandler GetsThrough
  cases l <;> cases r.init <;> cases r.buildIp <;> cases r.write <;> simp

end Output6Libnet
end ShapingRouter
