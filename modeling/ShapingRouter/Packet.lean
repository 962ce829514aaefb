import Mathlib

/-! # Packet objects

What the filters see of a packet: the record `ParentPacket` that both address
families share, and the IPv4 `Packet` on top of it.  The port fields belong to
the shared part; for ICMP they both hold the echo identifier.  Interfaces are
left out, because only `Router::newPacket` reads them, to set `isIngoing`.
-/

namespace ShapingRouter

def IPPROTO_ICMP : UInt8 := 1
def IPPROTO_TCP : UInt8 := 6
def IPPROTO_UDP : UInt8 := 17
def IPPROTO_ICMPV6 : UInt8 := 58

/-- `ParentPacket`.  `stamp` counts microseconds. -/
structure ParentPacket where
  stamp : Nat := 0
  isIngoing : Bool
  verdictSet : Bool := false
  nfqID : UInt32 := 0
  packetData : List UInt8 := []
  sport : UInt16 := 0
  dport : UInt16 := 0
  icmpId : UInt16 := 0
  deriving DecidableEq, Repr

/-- `getPacketLen`: `packetDataLen_` is the number of bytes copied. -/
def ParentPacket.getPacketLen (p : ParentPacket) : UInt32 := UInt32.ofNat p.packetData.length

/-- `Packet`, the IPv4 packet. -/
structure Packet extends ParentPacket where
  transProt : UInt8
  srcIp : UInt32
  dstIp : UInt32
  ipFrag : UInt16 := 0
  ipHdrLen : UInt8 := 20
  deriving DecidableEq, Repr

namespace Packet

/-- `Packet(srcIp, dstIp, sport, dport)`, a TCP packet, and `setIngoing`. -/
def ofAddresses (isIngoing : Bool) (srcIp dstIp : UInt32) (sport dport : UInt16) : Packet where
  isIngoing := isIngoing
  nfqID := 5
  sport := sport
  dport := dport
  transProt := IPPROTO_TCP
  srcIp := srcIp
  dstIp := dstIp
  ipFrag := 5

def setSourceIP (p : Packet) (ip : UInt32) : Packet := { p with srcIp := ip }
def setDestinationIP (p : Packet) (ip : UInt32) : Packet := { p with dstIp := ip }
def setSourcePort (p : Packet) (port : UInt16) : Packet := { p with sport := port }
def setDestinationPort (p : Packet) (port : UInt16) : Packet := { p with dport := port }

/-- `getFragmentFlags`: the three top bits of the flags-and-offset word. -/
def getFragmentFlags (p : Packet) : UInt16 := p.ipFrag &&& 0xE000

/-- `getFragmentID`: in spite of its name, the fragment offset. -/
def getFragmentID (p : Packet) : UInt16 := p.ipFrag &&& 0x1FFF

/-- The source half of a packet's header is rewritten. -/
def withSource (p : Packet) (ip : UInt32) (port : UInt16) : Packet :=
  (p.setSourceIP ip).setSourcePort port

/-- The destination half of a packet's header is rewritten. -/
def withDestination (p : Packet) (ip : UInt32) (port : UInt16) : Packet :=
  (p.setDestinationIP ip).setDestinationPort port

section Fields
variable (p : Packet) (ip : UInt32) (port : UInt16)

@[simp] theorem withSource_srcIp : (p.withSource ip port).srcIp = ip := rfl
@[simp] theorem withSource_sport : (p.withSource ip port).sport = port := rfl
@[simp] theorem withSource_dstIp : (p.withSource ip port).dstIp = p.dstIp := rfl
@[simp] theorem withSource_dport : (p.withSource ip port).dport = p.dport := rfl
@[simp] theorem withSource_transProt : (p.withSource ip port).transProt = p.transProt := rfl
@[simp] theorem withSource_isIngoing : (p.withSource ip port).isIngoing = p.isIngoing := rfl
@[simp] theorem withSource_icmpId : (p.withSource ip port).icmpId = p.icmpId := rfl
@[simp] theorem withDestination_dstIp : (p.withDestination ip port).dstIp = ip := rfl
@[simp] theorem withDestination_dport : (p.withDestination ip port).dport = port := rfl
@[simp] theorem withDestination_srcIp : (p.withDestination ip port).srcIp = p.srcIp := rfl
@[simp] theorem withDestination_sport : (p.withDestination ip port).sport = p.sport := rfl
@[simp] theorem withDestination_transProt :
    (p.withDestination ip port).transProt = p.transProt := rfl
@[simp] theorem withDestination_isIngoing :
    (p.withDestination ip port).isIngoing = p.isIngoing := rfl
@[simp] theorem withDestination_icmpId : (p.withDestination ip port).icmpId = p.icmpId := rfl

end Fields
end Packet

/-- `struct in6_addr`. -/
abbrev In6Addr := Vector UInt8 16

/-- `Packet6`, the IPv6 packet.  `flow` is the first word of the header, as it lies
in memory. -/
structure Packet6 extends ParentPacket where
  flow : UInt32
  plen : UInt16
  nxt : UInt8
  hlim : UInt8
  srcIp : In6Addr
  dstIp : In6Addr
  deriving DecidableEq, Repr

namespace Packet6

def getFlowLabel (p : Packet6) : UInt32 := p.flow &&& 0x000FFFFF
def getTclass (p : Packet6) : UInt32 := p.flow &&& 0x0FF00000

end Packet6
end ShapingRouter
