import Mathlib
import ShapingRouter.NatBox

/-! # What one packet does to the NAT

`NatBox.Valid` says that the mapper and the filter are the ones the
configuration asks for, and that each keeps its own invariant.  Every packet
keeps it.  An outgoing packet is always forwarded from the external address, and
touches one connection of the mapper (unless a rule concerns its source port)
and one tuple of the filter; an ingoing packet only reads the two tables.
-/

namespace ShapingRouter
open Library Std

/-- The tables that `Nat::init` gives to both mappers. -/
def NatConfig.base (c : NatConfig) : NatMapperBase :=
  ⟨c.ipInt, c.ipExt, c.connectionTimeout, c.dnatRules⟩

/-- A rule concerns a packet through the port on the NAT's own side. -/
theorem NatMapperBase.checkDnat_eq_none {b : NatMapperBase} {pkt : Packet} :
    b.checkDnat pkt = none ↔
      b.dnatRules[if pkt.isIngoing then pkt.dport else pkt.sport]? = none := by
  unfold checkDnat
  split
  · cases b.dnatRules[pkt.dport]? <;> simp
  · rw [TreeMap.contains_eq_isSome_getElem?]
    cases b.dnatRules[pkt.sport]? <;> simp

theorem NatMapperBase.checkDnat_ingoing {b : NatMapperBase} {pkt : Packet} {rule : ConnectionTuple}
    (hin : pkt.isIngoing = true) (hrule : b.dnatRules[pkt.dport]? = some rule) :
    b.checkDnat pkt = some (pkt.withDestination rule.dstIp rule.dport) := by
  simp only [checkDnat, hin, if_true, hrule]
  rfl

theorem NatMapperBase.checkDnat_outgoing {b : NatMapperBase} {pkt : Packet}
    (hout : pkt.isIngoing = false) (hrule : b.dnatRules[pkt.sport]? ≠ none) :
    b.checkDnat pkt = some (pkt.withSource b.ipExt pkt.sport) := by
  have hmem : b.dnatRules.contains pkt.sport = true := by
    rw [TreeMap.contains_eq_isSome_getElem?]
    exact Option.isSome_iff_ne_none.mpr hrule
  simp only [checkDnat, hout, Bool.false_eq_true, if_false, hmem, if_true]
  rfl

/-- The full cone filter serves the full cone type, and no other filter does. -/
theorem NatFilter.serves_fullCone_iff {f : NatFilter} {type : NatType} (h : f.serves type) :
    f.serves .fullConeNat ↔ type = .fullConeNat := by
  cases f with
  | portrSym f => rcases h with rfl | rfl <;> simp [serves]
  | addrr f => obtain rfl := h; simp [serves]
  | fullcone f => exact ⟨fun _ => h, fun _ => rfl⟩

namespace NatBox

/-- The invariant of a NAT with configuration `c` whose outgoing packets all
come from `int`. -/
structure Valid (int : UInt32) (c : NatConfig) (s : NatBox) : Prop where
  config : s.config = c
  mapper : s.mapper.Valid int
  base : s.mapper.base = c.base
  isSym : s.mapper.isSym = decide (c.type = .symNat)
  filter : s.filter.Valid
  serves : s.filter.serves c.type
  rules : s.filter.rules = c.dnatRules
  timeout : s.filter.timeout = c.connectionTimeout

/-- `s'` is `s` after it sent the outgoing packet `pkt` from external port `port`
at time `now`. -/
structure Sends (int : UInt32) (c : NatConfig) (s : NatBox) (now : Nat) (pkt : Packet)
    (port : UInt16) (s' : NatBox) : Prop where
  valid : s'.Valid int c
  ruled : c.dnatRules[pkt.sport]? ≠ none → port = pkt.sport ∧ s'.mapper = s.mapper
  mapped : c.dnatRules[pkt.sport]? = none →
    s.mapper.Touches int now (ConnectionTuple.ofPacket pkt) port s'.mapper
  opened : s.filter.Touches now (NatFilter.answerTuple (pkt.withSource c.ipExt port)) s'.filter

/-- The ingoing packet `pkt` goes on as `pkt'`: it passes the filter, and the
mapper finds where to. -/
def Delivers (c : NatConfig) (s : NatBox) (pkt pkt' : Packet) : Prop :=
  (c.type = .fullConeNat ∨ c.dnatRules[pkt.dport]? ≠ none ∨
    ∃ d, s.filter.heldTuple (ConnectionTuple.ofPacket pkt) = some (d, ())) ∧
  ((∃ rule, c.dnatRules[pkt.dport]? = some rule ∧
      pkt' = pkt.withDestination rule.dstIp rule.dport) ∨
    c.dnatRules[pkt.dport]? = none ∧ ∃ e, s.mapper.entryAt pkt.dport = some e ∧
      pkt' = pkt.withDestination e.intTuple.srcIp e.intTuple.sport)

variable {int : UInt32} {c : NatConfig} {s s' : NatBox} {pkt : Packet} {now : Nat}

theorem valid_init (int : UInt32) (c : NatConfig) : (c.init).Valid int c := by
  obtain ⟨ipExt, ipInt, timeout, type, rules⟩ := c
  cases type with
  | symNat => exact ⟨rfl, ConnMapper.valid_new .., rfl, rfl, ConnFilter.valid_new _ _, Or.inr rfl,
      rfl, rfl⟩
  | portRNat => exact ⟨rfl, ConnMapper.valid_new .., rfl, rfl, ConnFilter.valid_new _ _, Or.inl rfl,
      rfl, rfl⟩
  | addrRNat => exact ⟨rfl, ConnMapper.valid_new .., rfl, rfl, ConnFilter.valid_new _ _, rfl, rfl,
      rfl⟩
  | fullConeNat => exact ⟨rfl, ConnMapper.valid_new .., rfl, rfl, trivial, rfl, rfl, rfl⟩

theorem Valid.expire (hv : s.Valid int c) (now : Nat) : (s.expire now).Valid int c where
  config := hv.config
  mapper := hv.mapper.expire
  base := by rw [← hv.base]; exact Mapper.expire_base
  isSym := by rw [← hv.isSym]; exact Mapper.expire_isSym
  filter := hv.filter.expire
  serves := by
    have hs : (s.expire now).filter.serves = s.filter.serves := NatFilter.expire_serves
    rw [hs]
    exact hv.serves
  rules := by rw [← hv.rules]; exact NatFilter.expire_rules
  timeout := by rw [← hv.timeout]; exact NatFilter.expire_timeout

/-- What the mapper makes of an outgoing packet, rule or no rule. -/
theorem Valid.mapPacket_outgoing (hv : s.Valid int c) (hout : pkt.isIngoing = false)
    (hsrc : pkt.srcIp = int) {m' : Mapper} {r : Option Packet}
    (h : s.mapper.mapPacket now pkt = some (m', r)) :
    ∃ port, r = some (pkt.withSource c.ipExt port) ∧
      (c.dnatRules[pkt.sport]? ≠ none → port = pkt.sport ∧ m' = s.mapper) ∧
      (c.dnatRules[pkt.sport]? = none →
        s.mapper.Touches int now (ConnectionTuple.ofPacket pkt) port m') := by
  have hrules : s.mapper.base.dnatRules = c.dnatRules := by rw [hv.base]; rfl
  have hext : s.mapper.base.ipExt = c.ipExt := by rw [hv.base]; rfl
  by_cases hrule : c.dnatRules[pkt.sport]? = none
  · have hnone : s.mapper.base.checkDnat pkt = none := by
      rw [NatMapperBase.checkDnat_eq_none, hrules]
      simpa [hout] using hrule
    obtain ⟨port, hr, ht⟩ := hv.mapper.mapPacket_outgoing hout hsrc hnone h
    rw [hext] at hr
    exact ⟨port, hr, fun hne => absurd hrule hne, fun _ => ht⟩
  · have hsome := NatMapperBase.checkDnat_outgoing (b := s.mapper.base) hout
      (by rw [hrules]; exact hrule)
    rw [Mapper.mapPacket_of_rule hsome] at h
    obtain ⟨rfl, rfl⟩ := Prod.mk.inj (Option.some.inj h)
    rw [hext]
    exact ⟨pkt.sport, rfl, fun _ => ⟨rfl, rfl⟩, fun hn => absurd hn hrule⟩

/-- The mapper always finishes with a packet that keeps its port. -/
theorem Valid.mapPacket_ne_none (hv : s.Valid int c) (hout : pkt.isIngoing = false)
    (hkeep : c.dnatRules[pkt.sport]? ≠ none ∨ c.type ≠ .symNat) :
    s.mapper.mapPacket now pkt ≠ none := by
  intro hnone
  by_cases hrule : c.dnatRules[pkt.sport]? = none
  · have hcone : s.mapper.isSym = false := by
      rw [hv.isSym]
      simpa [hrule] using hkeep
    have hnew := (Mapper.mapPacket_eq_none hnone).2
    rw [Mapper.newPort_of_not_isSym hcone] at hnew
    cases hnew
  · have hsome := NatMapperBase.checkDnat_outgoing (b := s.mapper.base) hout
      (by rw [hv.base]; exact hrule)
    rw [Mapper.mapPacket_of_rule hsome] at hnone
    cases hnone

/-- **An outgoing packet** is sent from the external address. -/
theorem Valid.handlePacket_outgoing (hv : s.Valid int c) (hout : pkt.isIngoing = false)
    (hsrc : pkt.srcIp = int) {r : Option Packet} (h : s.handlePacket now pkt = some (s', r)) :
    ∃ port, r = some (pkt.withSource c.ipExt port) ∧ s.Sends int c now pkt port s' := by
  simp only [handlePacket, hout, Bool.false_eq_true, if_false] at h
  cases hmap : s.mapper.mapPacket now pkt with
  | none => rw [hmap] at h; cases h
  | some mapped =>
    obtain ⟨m', r'⟩ := mapped
    obtain ⟨port, rfl, hruled, hmapped⟩ := hv.mapPacket_outgoing hout hsrc hmap
    have hout' : (pkt.withSource c.ipExt port).isIngoing = false := hout
    obtain ⟨hpass, ht⟩ := hv.filter.filterPacket_outgoing hout' now
    simp only [hmap, hpass, if_true] at h
    obtain ⟨rfl, rfl⟩ := Prod.mk.inj (Option.some.inj h)
    refine ⟨port, rfl, ?_, hruled, hmapped, ht⟩
    -- a rule leaves the mapper alone, otherwise the packet touches its connection
    have hm : m'.Valid int ∧ m'.base = s.mapper.base ∧ m'.isSym = s.mapper.isSym := by
      by_cases hrule : c.dnatRules[pkt.sport]? = none
      · exact ⟨(hmapped hrule).valid, (hmapped hrule).base, (hmapped hrule).isSym⟩
      · rw [(hruled hrule).2]
        exact ⟨hv.mapper, rfl, rfl⟩
    exact ⟨hv.config, hm.1, hm.2.1.trans hv.base, hm.2.2.trans hv.isSym, ht.valid,
      by rw [ht.serves]; exact hv.serves, ht.rules.trans hv.rules, ht.timeout.trans hv.timeout⟩

/-- Only the mapper can fail to finish with an outgoing packet. -/
theorem mapPacket_of_handlePacket_eq_none (hout : pkt.isIngoing = false)
    (h : s.handlePacket now pkt = none) : s.mapper.mapPacket now pkt = none := by
  simp only [handlePacket, hout, Bool.false_eq_true, if_false] at h
  split at h
  · assumption
  · cases h
  · cases h

/-- **An ingoing packet** is always answered for, and changes nothing. -/
theorem Valid.handlePacket_ingoing (hv : s.Valid int c) (hin : pkt.isIngoing = true) (now : Nat) :
    ∃ r, s.handlePacket now pkt = some (s, r) ∧ ∀ pkt', r = some pkt' ↔ s.Delivers c pkt pkt' := by
  have hrules : s.mapper.base.dnatRules = c.dnatRules := by rw [hv.base]; rfl
  obtain ⟨hsame, hpass⟩ := hv.filter.filterPacket_ingoing hin now
  have hcone := NatFilter.serves_fullCone_iff hv.serves
  have hcontains : s.filter.rules.contains pkt.dport = true ↔ c.dnatRules[pkt.dport]? ≠ none := by
    rw [hv.rules, TreeMap.contains_eq_isSome_getElem?, Option.isSome_iff_ne_none]
  rw [hcone, hcontains] at hpass
  -- a rule comes before the tables
  have hmap : ∃ r, s.mapper.mapPacket now pkt = some (s.mapper, r) ∧
      ∀ pkt', r = some pkt' ↔ ((∃ rule, c.dnatRules[pkt.dport]? = some rule ∧
        pkt' = pkt.withDestination rule.dstIp rule.dport) ∨
      c.dnatRules[pkt.dport]? = none ∧ ∃ e, s.mapper.entryAt pkt.dport = some e ∧
        pkt' = pkt.withDestination e.intTuple.srcIp e.intTuple.sport) := by
    cases hrule : c.dnatRules[pkt.dport]? with
    | some rule =>
      have hsome := NatMapperBase.checkDnat_ingoing (b := s.mapper.base) hin (by rw [hrules, hrule])
      exact ⟨_, Mapper.mapPacket_of_rule hsome, by simp [eq_comm]⟩
    | none =>
      have hnone : s.mapper.base.checkDnat pkt = none := by
        rw [NatMapperBase.checkDnat_eq_none, hrules]
        simpa [hin] using hrule
      exact ⟨_, Mapper.mapPacket_ingoing hin hnone, by simp [eq_comm]⟩
  obtain ⟨r, hr, hto⟩ := hmap
  unfold handlePacket
  rw [if_pos hin]
  -- the filter is asked first, and the mapper only if it lets the packet pass
  by_cases hp : (s.filter.filterPacket now pkt).2 = true
  · refine ⟨r, ?_, fun pkt' => ?_⟩
    · simp only [hp, if_true, hr, hsame]
      rfl
    · rw [hto, Delivers, and_iff_right (hpass.mp hp)]
  · refine ⟨none, ?_, fun pkt' => ?_⟩
    · simp only [hp, Bool.false_eq_true, if_false, hsame]
    · rw [Delivers, ← hpass]
      simp [hp]

end NatBox
end ShapingRouter
