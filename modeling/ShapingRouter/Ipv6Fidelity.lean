import Mathlib
import ShapingRouter.LibnetLayout

/-! # What Output6Libnet keeps of a packet

`Packet6` keeps the first word of the IPv6 header as it lies in memory, and its
accessors mask that word without shifting it.  So the traffic class is lost when it
is handed to libnet in eight bits, and on a little-endian host the flow label is made
of the wrong bytes.  All else is kept (`packet6_kept_iff`).
-/

namespace ShapingRouter
open Library

namespace Ip6Hdr
variable (order : ByteOrder) (bytes : List UInt8)

/-- The first word, as the number that the network wrote, and its three fields. -/
def firstWord : UInt32 := order.ntohl (ip6_flow order bytes)
def version : Nat := (firstWord order bytes).toNat / 2 ^ 28
def tclass : Nat := (firstWord order bytes).toNat / 2 ^ 20 % 2 ^ 8
def flowLabel : Nat := (firstWord order bytes).toNat % 2 ^ 20

end Ip6Hdr

/-- The IPv6 header. -/
def ipv6Header (tc : UInt8) (fl : UInt32) (len : UInt16) (nh hl : UInt8) (src dst : In6Addr) :
    List UInt8 :=
  ByteOrder.big.store32 (UInt32.ofNat (6 * 2 ^ 28 + tc.toNat * 2 ^ 20 + fl.toNat % 2 ^ 20)) ++
    ByteOrder.big.store16 len ++ [nh, hl] ++ src.toList ++ dst.toList

/-- `lay` writes the IPv6 packets that libnet is asked for. -/
def LaysOut6 (lay : List LibnetCall → List UInt8) : Prop :=
  ∀ tc fl len nh hl src dst payload, lay [.buildIpv6 tc fl len nh hl src dst payload] =
    ipv6Header tc fl len nh hl src dst ++ payload

/-- An IPv6 packet whose payload length is the number of bytes after the header. -/
structure ValidIpv6 (order : ByteOrder) (bytes : List UInt8) : Prop where
  version : Ip6Hdr.version order bytes = 6
  header : 40 ≤ bytes.length
  length : (Ip6Hdr.ip6_plen order bytes).toNat = bytes.length - 40

/-- `sent` says what the IPv6 packet `received` says. -/
structure Packet6Kept (order : ByteOrder) (received sent : List UInt8) : Prop where
  tclass : Ip6Hdr.tclass order sent = Ip6Hdr.tclass order received
  flowLabel : Ip6Hdr.flowLabel order sent = Ip6Hdr.flowLabel order received
  plen : Ip6Hdr.ip6_plen order sent = Ip6Hdr.ip6_plen order received
  nxt : Ip6Hdr.ip6_nxt sent = Ip6Hdr.ip6_nxt received
  hlim : Ip6Hdr.ip6_hlim sent = Ip6Hdr.ip6_hlim received
  src : Ip6Hdr.ip6_src sent = Ip6Hdr.ip6_src received
  dst : Ip6Hdr.ip6_dst sent = Ip6Hdr.ip6_dst received
  payload : sent.drop 40 = received.drop 40

/-! ## Reading a header back -/

/-- A vector of bytes, read from where it was put. -/
theorem byteAt_append_toList {n : Nat} (before : List UInt8) (v : Vector UInt8 n)
    (rest : List UInt8) :
    (Vector.ofFn fun i : Fin n => byteAt (before ++ v.toList ++ rest) (before.length + i)) = v := by
  apply Vector.ext
  intro i hi
  have hlen : i < v.toList.length := by simpa using hi
  rw [Vector.getElem_ofFn]
  show byteAt (before ++ v.toList ++ rest) (before.length + i) = v[i]
  rw [byteAt, List.getD_eq_getElem?_getD, List.append_assoc,
    List.getElem?_append_right (by omega), List.getElem?_append_left (by omega)]
  simp [hi]

theorem read_ipv6Header (order : ByteOrder) (tc : UInt8) (fl : UInt32) (len : UInt16)
    (nh hl : UInt8) (src dst : In6Addr) (rest : List UInt8) :
    let bytes := ipv6Header tc fl len nh hl src dst ++ rest
    (Ip6Hdr.firstWord order bytes).toNat = 6 * 2 ^ 28 + tc.toNat * 2 ^ 20 + fl.toNat % 2 ^ 20 ∧
      (Ip6Hdr.ip6_plen order bytes = len ∧ Ip6Hdr.ip6_nxt bytes = nh ∧
        Ip6Hdr.ip6_hlim bytes = hl) ∧
      (Ip6Hdr.ip6_src bytes = src ∧ Ip6Hdr.ip6_dst bytes = dst) ∧ bytes.drop 40 = rest := by
  obtain ⟨f₁, f₂, f₃, f₄, hfirst⟩ := ByteOrder.exists_store32 .big
    (UInt32.ofNat (6 * 2 ^ 28 + tc.toNat * 2 ^ 20 + fl.toNat % 2 ^ 20))
  obtain ⟨l₁, l₂, hlen⟩ := ByteOrder.exists_store16 .big len
  have hsrc := byteAt_append_toList [f₁, f₂, f₃, f₄, l₁, l₂, nh, hl] src (dst.toList ++ rest)
  have hdst := byteAt_append_toList ([f₁, f₂, f₃, f₄, l₁, l₂, nh, hl] ++ src.toList) dst rest
  rw [List.length_append, Vector.length_toList] at hdst
  have hdrop : ([f₁, f₂, f₃, f₄, l₁, l₂, nh, hl] ++ src.toList ++ dst.toList ++ rest).drop 40 =
      rest := List.drop_left' (by simp)
  simp only [ipv6Header, hfirst, hlen, List.cons_append, List.nil_append, List.append_assoc]
    at hsrc hdst hdrop ⊢
  refine ⟨?_, ⟨?_, rfl, rfl⟩, ⟨hsrc, hdst⟩, hdrop⟩
  · show (order.ntohl (order.load32 [f₁, f₂, f₃, f₄])).toNat = _
    have htc := tc.toNat_lt
    rw [order.ntohl_load32 rfl, ← hfirst, ByteOrder.load32_store32, UInt32.toNat_ofNat']
    omega
  · show order.ntohs (order.load16 [l₁, l₂]) = _
    rw [order.ntohs_load16 rfl, ← hlen, ByteOrder.load16_store16]

/-! ## What the accessors make of the first word -/

/-- The mask leaves nothing in the lowest eight bits. -/
theorem Packet6.toUInt8_getTclass (pkt : Packet6) : pkt.getTclass.toUInt8 = 0 := by
  rw [Packet6.getTclass, UInt32.toUInt8_and]
  exact UInt8.and_zero

theorem Packet6.toNat_getFlowLabel (pkt : Packet6) :
    pkt.getFlowLabel.toNat = pkt.flow.toNat % 2 ^ 20 := by
  rw [Packet6.getFlowLabel, UInt32.toNat_and]
  exact Nat.and_two_pow_sub_one_eq_mod _ 20

section FirstWord
variable {bytes : List UInt8} (hlen : 4 ≤ bytes.length)

include hlen in
/-- The first word in network order and in little-endian order. -/
theorem exists_firstWord : ∃ a b c d : UInt8,
    (∀ order, (Ip6Hdr.firstWord order bytes).toNat =
      a.toNat * 2 ^ 24 + b.toNat * 2 ^ 16 + c.toNat * 2 ^ 8 + d.toNat) ∧
    (Ip6Hdr.ip6_flow .little bytes).toNat =
      d.toNat * 2 ^ 24 + c.toNat * 2 ^ 16 + b.toNat * 2 ^ 8 + a.toNat := by
  have hread : (Slice.read ⟨0, 4⟩ bytes).length = 4 := Slice.length_read (by simpa using hlen)
  obtain ⟨a, b, c, d, hword⟩ := List.length_eq_four.mp hread
  have ha := a.toNat_lt
  have hb := b.toNat_lt
  have hc := c.toNat_lt
  have hd := d.toNat_lt
  refine ⟨a, b, c, d, fun order => ?_, ?_⟩
  · rw [Ip6Hdr.firstWord, Ip6Hdr.ip6_flow, order.ntohl_load32 hread, hword, ByteOrder.load32,
      UInt32.toNat_ofNat']
    simp [ByteOrder.load, ofLittleBytes, Nat.ofDigits_cons]
    omega
  · rw [Ip6Hdr.ip6_flow, hword, ByteOrder.load32, UInt32.toNat_ofNat']
    simp [ByteOrder.load, ofLittleBytes, Nat.ofDigits_cons]
    omega

/-- On a big-endian host the word lies as the network wrote it. -/
theorem ip6_flow_big : Ip6Hdr.ip6_flow .big bytes = Ip6Hdr.firstWord .big bytes := by
  rw [Ip6Hdr.firstWord, ByteOrder.ntohl, ByteOrder.load32_store32]

end FirstWord

/-- The fields of a word, by its bytes. -/
theorem word_fields {a b c d : Nat} (hb : b < 2 ^ 8) (hc : c < 2 ^ 8) (hd : d < 2 ^ 8) :
    (a * 2 ^ 24 + b * 2 ^ 16 + c * 2 ^ 8 + d) / 2 ^ 28 = a / 16 ∧
      (a * 2 ^ 24 + b * 2 ^ 16 + c * 2 ^ 8 + d) / 2 ^ 20 = a * 16 + b / 16 ∧
      (a * 2 ^ 24 + b * 2 ^ 16 + c * 2 ^ 8 + d) % 2 ^ 20 = b % 16 * 2 ^ 16 + c * 2 ^ 8 + d := by
  omega

/-- The lower three bytes of a word are the upper three of another, read backwards. -/
theorem swapped_label_iff {b c d : Nat} (hb : b < 16) (hc : c < 2 ^ 8) (hd : d < 2 ^ 8) :
    c % 16 * 2 ^ 16 + b * 2 ^ 8 + 0x60 = b * 2 ^ 16 + c * 2 ^ 8 + d ↔
      ∃ n < 16, b * 2 ^ 16 + c * 2 ^ 8 + d = n * 0x10100 + 0x60 := by
  constructor
  · intro hsame
    -- the lowest bytes are the same, and then the bytes above them
    have hd' : d = 0x60 := by omega
    have hc' : c = b := by omega
    exact ⟨b, hb, by rw [hc', hd']; ring⟩
  · rintro ⟨n, hn, hsame⟩
    have hd' : d = 0x60 := by omega
    have hc' : c = n := by omega
    have hb' : b = n := by omega
    rw [hb', hc', hd', Nat.mod_eq_of_lt hn]

/-- Version 6 and class 0 fix the first byte, and the upper half of the second. -/
theorem top_fields {a b : Nat} (hversion : a / 16 = 6) (hb : b < 2 ^ 8)
    (hclass : (a * 16 + b / 16) % 2 ^ 8 = 0) : a = 0x60 ∧ b < 16 := by
  omega

/-- **When the flow label survives**, in a packet of traffic class 0: on a big-endian
host, or where the bytes read in the wrong order are the same. -/
theorem flowLabel_survives_iff {order : ByteOrder} {bytes : List UInt8}
    (hvalid : ValidIpv6 order bytes) (hclass : Ip6Hdr.tclass order bytes = 0) :
    (Ip6Hdr.ip6_flow order bytes).toNat % 2 ^ 20 = Ip6Hdr.flowLabel order bytes ↔
      order = .big ∨ ∃ n < 16, Ip6Hdr.flowLabel order bytes = n * 0x10100 + 0x60 := by
  have hheader := hvalid.header
  have hversion := hvalid.version
  obtain ⟨a, b, c, d, hfirst, hlittle⟩ := exists_firstWord (show 4 ≤ bytes.length by omega)
  have hb := b.toNat_lt
  have hc := c.toNat_lt
  have hd := d.toNat_lt
  obtain ⟨htop, hmiddle, hlow⟩ := word_fields (a := a.toNat) hb hc hd
  rw [Ip6Hdr.version, hfirst, htop] at hversion
  rw [Ip6Hdr.tclass, hfirst, hmiddle] at hclass
  obtain ⟨ha', hb'⟩ := top_fields hversion hb hclass
  have hlabel : Ip6Hdr.flowLabel order bytes = b.toNat * 2 ^ 16 + c.toNat * 2 ^ 8 + d.toNat := by
    rw [Ip6Hdr.flowLabel, hfirst, hlow, Nat.mod_eq_of_lt hb']
  cases order with
  | big =>
    rw [ip6_flow_big, Ip6Hdr.flowLabel]
    exact iff_of_true rfl (Or.inl rfl)
  | little =>
    obtain ⟨-, -, hswapped⟩ := word_fields (a := d.toNat) (b := c.toNat) (c := b.toNat)
      (d := a.toNat) hc hb a.toNat_lt
    rw [hlabel, hlittle, hswapped, ha', swapped_label_iff hb' hc hd]
    exact (or_iff_right (by decide)).symm

/-- What a run writes, if it writes anything. -/
theorem Output6Libnet.written_eq {r : LibnetResults} {l : Bool} {pkt : Packet6}
    {calls : List LibnetCall} (h : (popHandler r l (.ok pkt)).written = some calls) :
    calls = [ipCall pkt] := by
  simp only [popHandler] at h
  split at h
  · split at h
    · split at h
      · exact (Option.some.inj h).symm
      · cases h
    · cases h
  · cases h

/-- **When an IPv6 packet is kept.**  The packet with the bytes `payload` passes the
filters and is written by a run of `popHandler`.  The packet written is the packet
received iff its traffic class is 0, and the host is big-endian or the flow label
happens to survive being read in the wrong order. -/
theorem packet6_kept_iff {order : ByteOrder} {lay : List LibnetCall → List UInt8}
    (hlay : LaysOut6 lay) {payload : List UInt8} (hvalid : ValidIpv6 order payload)
    (prior : ParentPacket) (stamp sent : Nat) (packetId : UInt32) (ingoing verdictSet : Bool)
    {pkt : Packet6}
    (hpkt : pkt = { Packet6.construct order prior stamp packetId payload with
      isIngoing := ingoing, stamp := sent, verdictSet := verdictSet })
    {r : LibnetResults} {l : Bool} {calls : List LibnetCall}
    (hw : (Output6Libnet.popHandler r l (.ok pkt)).written = some calls) :
    Packet6Kept order payload (lay calls) ↔ Ip6Hdr.tclass order payload = 0 ∧
      (order = .big ∨ ∃ n < 16, Ip6Hdr.flowLabel order payload = n * 0x10100 + 0x60) := by
  have hdata : pkt.packetData = payload := by
    rw [hpkt]
    exact Packet6.construct_packetData order prior stamp packetId
  have hflow : pkt.flow = Ip6Hdr.ip6_flow order payload := by rw [hpkt]; rfl
  have hplen : pkt.plen = Ip6Hdr.ip6_plen order payload := by rw [hpkt]; rfl
  have hcalls := Output6Libnet.written_eq hw
  have hpayload : (Output6Libnet.ipPayload pkt).read payload = payload.drop 40 := by
    rw [Output6Libnet.ipPayload, hplen, hvalid.length]
    exact List.take_of_length_le (by simp)
  obtain ⟨hfirst, ⟨hlen, hnxt, hhlim⟩, ⟨hsrc, hdst⟩, hrest⟩ := read_ipv6Header order
    pkt.getTclass.toUInt8 pkt.getFlowLabel pkt.plen pkt.nxt pkt.hlim pkt.srcIp pkt.dstIp
    (payload.drop 40)
  have hlaid : lay calls = ipv6Header pkt.getTclass.toUInt8 pkt.getFlowLabel pkt.plen pkt.nxt
      pkt.hlim pkt.srcIp pkt.dstIp ++ payload.drop 40 := by
    rw [hcalls, Output6Libnet.ipCall, hlay, hdata, hpayload]
  rw [← hlaid] at hfirst hlen hnxt hhlim hsrc hdst hrest
  rw [pkt.toUInt8_getTclass, pkt.toNat_getFlowLabel, hflow, UInt8.toNat_zero] at hfirst
  have htclass : Ip6Hdr.tclass order (lay calls) = 0 := by
    rw [Ip6Hdr.tclass, hfirst]
    omega
  have hlabel : Ip6Hdr.flowLabel order (lay calls) =
      (Ip6Hdr.ip6_flow order payload).toNat % 2 ^ 20 := by
    rw [Ip6Hdr.flowLabel, hfirst]
    omega
  constructor
  · intro h
    have hzero : Ip6Hdr.tclass order payload = 0 := h.tclass.symm.trans htclass
    exact ⟨hzero, (flowLabel_survives_iff hvalid hzero).mp (hlabel.symm.trans h.flowLabel)⟩
  · rintro ⟨hzero, hsurvives⟩
    have hsame := (flowLabel_survives_iff hvalid hzero).mpr hsurvives
    exact ⟨htclass.trans hzero.symm, hlabel.trans hsame, hlen.trans hplen,
      by rw [hnxt, hpkt]; rfl, by rw [hhlim, hpkt]; rfl, by rw [hsrc, hpkt]; rfl,
      by rw [hdst, hpkt]; rfl, hrest⟩

/-- What libnet writes for an IPv6 packet. -/
def libnetWrite6 : List LibnetCall → List UInt8
  | [.buildIpv6 tc fl len nh hl src dst payload] => ipv6Header tc fl len nh hl src dst ++ payload
  | _ => []

/-- A header alone, with the given flow label, from address 0 to itself. -/
def labelledBytes (high middle low : UInt8) : List UInt8 :=
  [0x60, high, middle, low, 0, 0, 59, 64] ++ List.replicate 32 0

/-- The label 0x30360 survives on a little-endian host. -/
theorem packet6_kept_palindrome :
    ∃ calls, (Output6Libnet.popHandler {} true
        (.ok (Packet6.construct .little { isIngoing := false } 0 0 (labelledBytes 3 3 0x60)))).written =
          some calls ∧
      Packet6Kept .little (labelledBytes 3 3 0x60) (libnetWrite6 calls) := by
  have hw : (Output6Libnet.popHandler {} true (.ok (Packet6.construct .little
      { isIngoing := false } 0 0 (labelledBytes 3 3 0x60)))).written = some _ := rfl
  exact ⟨_, hw, (packet6_kept_iff (fun _ _ _ _ _ _ _ _ => rfl) ⟨by decide, by decide, by decide⟩
    { isIngoing := false } 0 0 0 false false rfl hw).mpr ⟨by decide, Or.inr ⟨3, by decide, by decide⟩⟩⟩

/-- **A packet without a flow label gets one**: on a little-endian host the version is
read as part of it. -/
theorem packet6_labelled :
    ValidIpv6 .little (labelledBytes 0 0 0) ∧
    ∃ calls, (Output6Libnet.popHandler {} true
        (.ok (Packet6.construct .little { isIngoing := false } 0 0 (labelledBytes 0 0 0)))).written =
          some calls ∧
      ¬ Packet6Kept .little (labelledBytes 0 0 0) (libnetWrite6 calls) := by
  refine ⟨⟨by decide, by decide, by decide⟩, _, rfl, fun h => ?_⟩
  have hlabel := h.flowLabel
  revert hlabel
  decide

end ShapingRouter
