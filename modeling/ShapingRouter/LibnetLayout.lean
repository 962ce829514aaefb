import Mathlib
import ShapingRouter.OutputLibnet

/-! # What libnet writes

Libnet lays the header fields and the payloads it is given out one after the
other: an IPv4 header of 20 bytes, the transport header, the payload.  It puts
the numbers into network order itself, except the addresses, which it takes as
they are to lie in memory; and it computes the checksums that it is given as
zero.  `LaysOut` says this for the three kinds of packet that
`OutputLibnet::popHandler` builds, and leaves the checksums open.
-/

namespace ShapingRouter
open Library

/-- The IPv4 header. -/
def ipv4Header (order : ByteOrder) (len : UInt16) (tos : UInt8) (id frag : UInt16)
    (ttl prot : UInt8) (sum : UInt16) (src dst : UInt32) : List UInt8 :=
  [0x45, tos] ++ ByteOrder.big.store16 len ++ ByteOrder.big.store16 id ++
    ByteOrder.big.store16 frag ++ [ttl, prot] ++ ByteOrder.big.store16 sum ++
    order.store32 src ++ order.store32 dst

/-- The UDP header. -/
def udpHeader (sp dp len sum : UInt16) : List UInt8 :=
  ByteOrder.big.store16 sp ++ ByteOrder.big.store16 dp ++ ByteOrder.big.store16 len ++
    ByteOrder.big.store16 sum

/-- The TCP header, with `off` words up to the payload. -/
def tcpHeader (sp dp : UInt16) (seq ack : UInt32) (off control : UInt8) (win sum urg : UInt16) :
    List UInt8 :=
  ByteOrder.big.store16 sp ++ ByteOrder.big.store16 dp ++ ByteOrder.big.store32 seq ++
    ByteOrder.big.store32 ack ++ [off <<< 4, control] ++ ByteOrder.big.store16 win ++
    ByteOrder.big.store16 sum ++ ByteOrder.big.store16 urg

/-- TCP options, filled up to whole words. -/
def paddedOptions (options : List UInt8) : List UInt8 :=
  options ++ List.replicate ((4 - options.length % 4) % 4) 0

/-- `lay` writes what libnet is asked for, with some checksums. -/
structure LaysOut (order : ByteOrder) (lay : List LibnetCall → List UInt8) : Prop where
  raw : ∀ len tos id frag ttl prot src dst payload, ∃ sum,
    lay [.buildIpv4 len tos id frag ttl prot 0 src dst payload] =
      ipv4Header order len tos id frag ttl prot sum src dst ++ payload
  udp : ∀ sp dp ulen data len tos id frag ttl prot src dst, ∃ sum usum,
    lay [.buildUdp sp dp ulen 0 data, .buildIpv4 len tos id frag ttl prot 0 src dst []] =
      ipv4Header order len tos id frag ttl prot sum src dst ++ (udpHeader sp dp ulen usum ++ data)
  tcp : ∀ options sp dp seq ack control win urg tlen data len tos id frag ttl prot src dst,
    ∃ sum tsum,
    lay [.buildTcpOptions options, .buildTcp sp dp seq ack control win 0 urg tlen data,
        .buildIpv4 len tos id frag ttl prot 0 src dst []] =
      ipv4Header order len tos id frag ttl prot sum src dst ++
        (tcpHeader sp dp seq ack (UInt8.ofNat (5 + (paddedOptions options).length / 4)) control win
          tsum urg ++ (paddedOptions options ++ data))

/-! ## Reading a header back -/

/-- A word of 16 bits lies in two bytes. -/
theorem ByteOrder.exists_store16 (order : ByteOrder) (x : UInt16) :
    ∃ a b, order.store16 x = [a, b] := List.length_eq_two.mp (order.length_store16 x)

theorem ByteOrder.exists_store32 (order : ByteOrder) (x : UInt32) :
    ∃ a b c d, order.store32 x = [a, b, c, d] := List.length_eq_four.mp (order.length_store32 x)

/-- Five words, where the first byte says so. -/
theorem hdrLen_cons (rest : List UInt8) : (Iphdr.hdrLen (0x45 :: rest)).toNat = 20 := by
  show (((0x45 : UInt8) &&& 0x0F) <<< 2).toNat = 20
  decide

/-- **Reading an IPv4 header back.**  Addresses that went through `htonl` come out
as they were. -/
theorem read_ipv4Header (order : ByteOrder) (len : UInt16) (tos : UInt8) (id frag : UInt16)
    (ttl prot : UInt8) (sum : UInt16) (src dst : UInt32) (rest : List UInt8) :
    let bytes := ipv4Header order len tos id frag ttl prot sum (order.htonl src)
      (order.htonl dst) ++ rest
    Iphdr.protocol bytes = prot ∧ Iphdr.saddr order bytes = src ∧
      Iphdr.daddr order bytes = dst ∧ bytes.drop (Iphdr.hdrLen bytes).toNat = rest := by
  obtain ⟨l₁, l₂, hlen⟩ := ByteOrder.exists_store16 .big len
  obtain ⟨i₁, i₂, hid⟩ := ByteOrder.exists_store16 .big id
  obtain ⟨f₁, f₂, hfrag⟩ := ByteOrder.exists_store16 .big frag
  obtain ⟨c₁, c₂, hsum⟩ := ByteOrder.exists_store16 .big sum
  obtain ⟨s₁, s₂, s₃, s₄, hsrc⟩ := ByteOrder.exists_store32 .big src
  obtain ⟨d₁, d₂, d₃, d₄, hdst⟩ := ByteOrder.exists_store32 .big dst
  simp only [ipv4Header, order.store32_htonl, hlen, hid, hfrag, hsum, hsrc, hdst, List.cons_append,
    List.nil_append, hdrLen_cons]
  refine ⟨rfl, ?_, ?_, rfl⟩
  · show order.ntohl (order.load32 [s₁, s₂, s₃, s₄]) = src
    rw [order.ntohl_load32 rfl, ← hsrc, ByteOrder.load32_store32]
  · show order.ntohl (order.load32 [d₁, d₂, d₃, d₄]) = dst
    rw [order.ntohl_load32 rfl, ← hdst, ByteOrder.load32_store32]

/-- The ports are at the same place in both headers. -/
theorem read_ports (sp dp : UInt16) (rest : List UInt8) :
    let hdr := ByteOrder.big.store16 sp ++ ByteOrder.big.store16 dp ++ rest
    ByteOrder.big.load16 (Slice.read ⟨0, 2⟩ hdr) = sp ∧
      ByteOrder.big.load16 (Slice.read ⟨2, 2⟩ hdr) = dp ∧ 4 ≤ hdr.length := by
  obtain ⟨s₁, s₂, hsp⟩ := ByteOrder.exists_store16 .big sp
  obtain ⟨d₁, d₂, hdp⟩ := ByteOrder.exists_store16 .big dp
  simp only [hsp, hdp, List.cons_append, List.nil_append]
  refine ⟨?_, ?_, by simp⟩
  · show ByteOrder.big.load16 [s₁, s₂] = sp
    rw [← hsp, ByteOrder.load16_store16]
  · show ByteOrder.big.load16 [d₁, d₂] = dp
    rw [← hdp, ByteOrder.load16_store16]

/-- Both transport headers begin with the ports. -/
theorem exists_udpHeader (sp dp len sum : UInt16) (data : List UInt8) :
    ∃ tail, udpHeader sp dp len sum ++ data =
      ByteOrder.big.store16 sp ++ ByteOrder.big.store16 dp ++ tail :=
  ⟨ByteOrder.big.store16 len ++ (ByteOrder.big.store16 sum ++ data), by simp [udpHeader]⟩

theorem exists_tcpHeader (sp dp : UInt16) (seq ack : UInt32) (off control : UInt8)
    (win sum urg : UInt16) (data : List UInt8) :
    ∃ tail, tcpHeader sp dp seq ack off control win sum urg ++ data =
      ByteOrder.big.store16 sp ++ ByteOrder.big.store16 dp ++ tail :=
  ⟨ByteOrder.big.store32 seq ++ (ByteOrder.big.store32 ack ++ ([off <<< 4, control] ++
    (ByteOrder.big.store16 win ++ (ByteOrder.big.store16 sum ++
      (ByteOrder.big.store16 urg ++ data))))), by simp [tcpHeader]⟩

/-! ## A libnet -/

/-- The sum of the 16-bit words, in network order. -/
def wordSum : List UInt8 → Nat
  | [] => 0
  | [a] => a.toNat * 256
  | a :: b :: rest => a.toNat * 256 + b.toNat + wordSum rest

/-- The internet checksum: the ones' complement of the ones' complement sum. -/
def checksum (bytes : List UInt8) : UInt16 :=
  let sum := wordSum bytes
  let once := sum % 65536 + sum / 65536
  UInt16.ofNat (65535 - (once % 65536 + once / 65536))

/-- A transport checksum covers the addresses, the protocol and the length as well. -/
def transportSum (order : ByteOrder) (src dst : UInt32) (prot : UInt8) (segment : List UInt8) :
    UInt16 :=
  checksum (order.store32 src ++ order.store32 dst ++ [0, prot] ++
    ByteOrder.big.store16 (UInt16.ofNat segment.length) ++ segment)

/-- What libnet writes for the three kinds of packet, checksums included. -/
def libnetWrite (order : ByteOrder) : List LibnetCall → List UInt8
  | [.buildIpv4 len tos id frag ttl prot _ src dst payload] =>
    header len tos id frag ttl prot src dst ++ payload
  | [.buildUdp sp dp ulen _ data, .buildIpv4 len tos id frag ttl prot _ src dst _] =>
    header len tos id frag ttl prot src dst ++
      (udpHeader sp dp ulen (transportSum order src dst prot (udpHeader sp dp ulen 0 ++ data)) ++
        data)
  | [.buildTcpOptions options, .buildTcp sp dp seq ack control win _ urg _ data,
      .buildIpv4 len tos id frag ttl prot _ src dst _] =>
    let off := UInt8.ofNat (5 + (paddedOptions options).length / 4)
    let tsum := transportSum order src dst prot
      (tcpHeader sp dp seq ack off control win 0 urg ++ (paddedOptions options ++ data))
    header len tos id frag ttl prot src dst ++
      (tcpHeader sp dp seq ack off control win tsum urg ++ (paddedOptions options ++ data))
  | _ => []
where
  header (len : UInt16) (tos : UInt8) (id frag : UInt16) (ttl prot : UInt8) (src dst : UInt32) :
      List UInt8 :=
    ipv4Header order len tos id frag ttl prot
      (checksum (ipv4Header order len tos id frag ttl prot 0 src dst)) src dst

theorem libnetWrite_laysOut (order : ByteOrder) : LaysOut order (libnetWrite order) where
  raw _ _ _ _ _ _ _ _ _ := ⟨_, rfl⟩
  udp _ _ _ _ _ _ _ _ _ _ _ _ := ⟨_, _, rfl⟩
  tcp _ _ _ _ _ _ _ _ _ _ _ _ _ _ _ _ _ _ := ⟨_, _, rfl⟩

end ShapingRouter
