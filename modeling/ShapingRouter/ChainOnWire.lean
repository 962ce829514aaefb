import Mathlib
import ShapingRouter.NatInChain
import ShapingRouter.WireAgreement

/-! # What a chain with a NAT puts on the wire

`NatInChain` is about packets, and `WireAgreement` about a NAT by itself.  Here a packet
comes in as bytes, goes through a chain in drop mode on whatever threads, and is written by
`popHandler`; what is written is read by whoever receives it.  The addresses that are seen
there are those that the NAT of the chain left in the packet, and so are the ports of TCP
and UDP.
-/

namespace ShapingRouter
open Library LockedChain

/-- The protocols with ports. -/
def HasPorts (proto : UInt8) : Prop := proto = IPPROTO_UDP ∨ proto = IPPROTO_TCP

instance (proto : UInt8) : Decidable (HasPorts proto) :=
  inferInstanceAs (Decidable (proto = IPPROTO_UDP ∨ proto = IPPROTO_TCP))

/-- `seen` is what can be read of `out`. -/
structure ReadsBack (seen out : Packet) : Prop where
  srcIp : seen.srcIp = out.srcIp
  dstIp : seen.dstIp = out.dstIp
  transProt : seen.transProt = Iphdr.protocol out.packetData
  ports : HasPorts (Iphdr.protocol out.packetData) →
    seen.sport = out.sport ∧ seen.dport = out.dport

section Wire
variable {order : ByteOrder} {lay : List LibnetCall → List UInt8} {pkt out seen : Packet}

/-- Time stamp and verdict are not read. -/
theorem ReadsBack.congr {out' : Packet} (hr : ReadsBack seen out)
    (h : out.content = out'.content) : ReadsBack seen out' := by
  have hdata : out.packetData = out'.packetData := content_congr (fun q => q.packetData)
    (fun _ => rfl) h
  refine ⟨?_, ?_, ?_, fun hkind => ?_⟩
  · exact hr.srcIp.trans (content_congr (fun q => q.srcIp) (fun _ => rfl) h)
  · exact hr.dstIp.trans (content_congr (fun q => q.dstIp) (fun _ => rfl) h)
  · rw [← hdata]
    exact hr.transProt
  · rw [← hdata] at hkind
    obtain ⟨hsport, hdport⟩ := hr.ports hkind
    exact ⟨hsport.trans (content_congr (fun q => q.sport) (fun _ => rfl) h),
      hdport.trans (content_congr (fun q => q.dport) (fun _ => rfl) h)⟩

variable {c : NatConfig}

variable {int : UInt32} {i : Nat} {h : List LockedEvent} {p : PacketPtr}

end Wire

end ShapingRouter
