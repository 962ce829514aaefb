import Mathlib
import ShapingRouter.NatBox

/-! # The cone types, from strict to permissive

Three NATs of the types `portr`, `addrr` and `fullcone` with one configuration, fed
the same packets.  Their mappers are the same code, and what a mapper does never
depends on the filter next to it, so the three mappers stay equal.  The tables of the
two restricted filters differ in their keys, and each key has its own timer; but every
tuple that `portr` remembers is one that `addrr` remembers for at least as long
(`TableOrder`), because a packet that touches the one touches the other.
-/

namespace ShapingRouter
open Library Std

/-- What a NAT makes of each packet of a sequence, with the times they are handled at;
`none` when it does not finish with one of them. -/
def NatBox.forwards (s : NatBox) : List (Nat × Packet) → Option (List (Option Packet))
  | [] => some []
  | (now, pkt) :: rest =>
    match s.step now pkt with
    | none => none
    | some (s', r) => (s'.forwards rest).map (r :: ·)

/-! ## The two tables -/

/-- Every tuple that `f` remembers, `g` remembers for at least as long.  No deadline
is further away than the timeout from the last packet, at `clock`. -/
structure TableOrder (clock : Nat) (f : PortrSymNatFilter) (g : AddrrNatFilter) : Prop where
  validPortr : f.Valid portrSymKind
  validAddrr : g.Valid addrrKind
  rules : g.dnatRules = f.dnatRules
  timeout : g.connectionTimeout = f.connectionTimeout
  bounded : ∀ t d, f.heldTuple t = some (d, ()) →
    d ≤ clock + ConnectionEntry.lifetime f.connectionTimeout
  covered : ∀ t d, f.heldTuple t = some (d, ()) → ∃ d', g.heldTuple ⟨t⟩ = some (d', ()) ∧ d ≤ d'

namespace TableOrder
variable {clock now : Nat} {f : PortrSymNatFilter} {g : AddrrNatFilter} {pkt : Packet}

/-- A new filter remembers nothing. -/
theorem heldTuple_new (timeout : UInt32) (rules : DnatRules) (t : ConnectionTuple) :
    (ConnFilter.new timeout rules : PortrSymNatFilter).heldTuple t = none := by
  simp [ConnFilter.heldTuple, held, Library.lock, ConnFilter.new]

theorem start (timeout : UInt32) (rules : DnatRules) :
    TableOrder 0 (.new timeout rules) (.new timeout rules) where
  validPortr := ConnFilter.valid_new _ _
  validAddrr := ConnFilter.valid_new _ _
  rules := rfl
  timeout := rfl
  bounded t d h := by
    rw [heldTuple_new] at h
    cases h
  covered t d h := by
    rw [heldTuple_new] at h
    cases h

/-- What is due goes from both, and from the strict one first. -/
theorem expire (ho : TableOrder clock f g) (hle : clock ≤ now) :
    TableOrder now (f.expire portrSymKind now) (g.expire addrrKind now) := by
  have hf : (f.expire portrSymKind now).connectionTimeout = f.connectionTimeout ∧
      (f.expire portrSymKind now).dnatRules = f.dnatRules := f.expire_params now
  have hg : (g.expire addrrKind now).connectionTimeout = g.connectionTimeout ∧
      (g.expire addrrKind now).dnatRules = g.dnatRules := g.expire_params now
  refine ⟨ho.validPortr.expire now, ho.validAddrr.expire now, by rw [hg.2, hf.2, ho.rules],
    by rw [hg.1, hf.1, ho.timeout], fun t d h => ?_, fun t d h => ?_⟩
  · rw [hf.1]
    obtain ⟨h, -⟩ := (ho.validPortr.heldTuple_expire now t d ()).mp h
    have hbound := ho.bounded t d h
    omega
  · obtain ⟨h, hlive⟩ := (ho.validPortr.heldTuple_expire now t d ()).mp h
    obtain ⟨d', h', hd⟩ := ho.covered t d h
    exact ⟨d', (ho.validAddrr.heldTuple_expire now ⟨t⟩ d' ()).mpr ⟨h', by omega⟩, hd⟩

/-- What a packet touches in the one it touches in the other. -/
theorem touch (ho : TableOrder now f g) {f' : PortrSymNatFilter} {g' : AddrrNatFilter}
    (htf : f.Touches portrSymKind now (ConnFilter.extTup portrSymKind pkt) f')
    (htg : g.Touches addrrKind now (ConnFilter.extTup addrrKind pkt) g') : TableOrder now f' g' := by
  have hbound : ∀ t d, f'.heldTuple t = some (d, ()) →
      d ≤ now + ConnectionEntry.lifetime f.connectionTimeout := by
    intro t d h
    by_cases hk : ConnectionTuple.cmp (ConnFilter.extTup portrSymKind pkt) t = .eq
    · rw [htf.same t hk] at h
      obtain ⟨rfl, -⟩ := Prod.mk.inj (Option.some.inj h)
      exact Nat.le_refl _
    · rw [htf.other t hk] at h
      exact ho.bounded t d h
  refine ⟨htf.valid, htg.valid, htg.rules.trans (ho.rules.trans htf.rules.symm),
    htg.timeout.trans (ho.timeout.trans htf.timeout.symm), ?_, fun t d h => ?_⟩
  · rw [htf.timeout]
    exact hbound
  · by_cases hkg : AddrrTuple.cmp (ConnFilter.extTup addrrKind pkt) ⟨t⟩ = .eq
    · -- touched in `g`, if only for another tuple of `f`
      have hle := hbound t d h
      exact ⟨_, htg.same _ hkg, by rw [ho.timeout]; exact hle⟩
    · have hkf : ConnectionTuple.cmp (ConnFilter.extTup portrSymKind pkt) t ≠ .eq := by
        intro hk
        obtain rfl := (ConnectionTuple.cmp_eq_iff _ _).mp hk
        exact hkg ReflCmp.compare_self
      rw [htf.other t hkf] at h
      obtain ⟨d', h', hd⟩ := ho.covered t d h
      exact ⟨d', (htg.other _ hkg).trans h', hd⟩

/-- An outgoing packet passes both filters. -/
theorem outgoing (ho : TableOrder now f g) (hout : pkt.isIngoing = false) :
    (f.filterPacket now pkt).2 = true ∧ (g.filterPacket now pkt).2 = true ∧
      TableOrder now (f.filterPacket now pkt).1 (g.filterPacket now pkt).1 := by
  obtain ⟨hpassf, htf⟩ := ho.validPortr.filterPacket_outgoing hout now
  obtain ⟨hpassg, htg⟩ := ho.validAddrr.filterPacket_outgoing hout now
  exact ⟨hpassf, hpassg, ho.touch htf htg⟩

/-- An ingoing packet that passes the strict filter passes the other; neither changes. -/
theorem ingoing (ho : TableOrder clock f g) (hin : pkt.isIngoing = true) (now : Nat) :
    (f.filterPacket now pkt).1 = f ∧ (g.filterPacket now pkt).1 = g ∧
      ((f.filterPacket now pkt).2 = true → (g.filterPacket now pkt).2 = true) := by
  have hf := f.filterPacket_ingoing portrSymKind hin now
  have hg := g.filterPacket_ingoing addrrKind hin now
  simp only [PortrSymNatFilter.filterPacket, AddrrNatFilter.filterPacket, hf, hg, true_and,
    Bool.or_eq_true]
  rintro (htable | hrule)
  · left
    obtain ⟨d, hd⟩ := (ho.validPortr.contains_iff _).mp htable
    obtain ⟨d', hd', -⟩ := ho.covered _ d hd
    exact (ho.validAddrr.contains_iff _).mpr ⟨d', hd'⟩
  · right
    rw [ho.rules]
    exact hrule

end TableOrder

/-! ## The mapper -/

/-- A `NatMapper` forwards every outgoing packet. -/
theorem NatMapper.mapPacket_outgoing (m : NatMapper) (now : Nat) {pkt : Packet}
    (hout : pkt.isIngoing = false) :
    ∃ m' pkt', m.mapPacket now pkt = some (m', some pkt') ∧ pkt'.isIngoing = false := by
  cases hrule : m.checkDnat pkt with
  | some pkt' =>
    refine ⟨m, pkt', ConnMapper.mapPacket_of_rule hrule now, ?_⟩
    unfold NatMapperBase.checkDnat at hrule
    simp only [hout, Bool.false_eq_true, if_false] at hrule
    obtain ⟨-, hrule⟩ := Option.ite_none_right_eq_some.mp hrule
    rw [← Option.some.inj hrule]
    exact hout
  | none =>
    simp only [NatMapper.mapPacket, ConnMapper.mapPacket, hrule, hout, Bool.false_eq_true, if_false]
    split
    · exact ⟨_, _, rfl, hout⟩
    · exact ⟨_, _, rfl, hout⟩

/-- An ingoing packet leaves the mapper as it is. -/
theorem NatMapper.mapPacket_ingoing (m : NatMapper) (now : Nat) {pkt : Packet}
    (hin : pkt.isIngoing = true) : ∃ r, m.mapPacket now pkt = some (m, r) := by
  cases hrule : m.checkDnat pkt with
  | some pkt' => exact ⟨_, ConnMapper.mapPacket_of_rule hrule now⟩
  | none => exact ⟨_, ConnMapper.mapPacket_ingoing hin hrule now⟩

/-- An ingoing packet that changes neither the mapper nor the filter changes nothing. -/
theorem NatBox.handlePacket_of_ingoing {s : NatBox} {now : Nat} {pkt : Packet} {r : Option Packet}
    (hin : pkt.isIngoing = true) (hmap : s.mapper.mapPacket now pkt = some (s.mapper, r))
    (hfilter : (s.filter.filterPacket now pkt).1 = s.filter) :
    s.handlePacket now pkt =
      some (s, if (s.filter.filterPacket now pkt).2 then r else none) := by
  unfold NatBox.handlePacket
  rw [if_pos hin]
  by_cases hpass : (s.filter.filterPacket now pkt).2 = true
  · simp only [hpass, if_true, hmap, hfilter]
    rfl
  · simp only [hpass, Bool.false_eq_true, if_false, hfilter]

/-! ## Three NATs in step -/

/-- What the three types make of one packet: the same of an outgoing one, which they
forward; and of an ingoing one, what the stricter forwards the more permissive
forwards, rewritten in the same way. -/
structure Permits (pkt : Packet) (portr addrr fullcone : Option Packet) : Prop where
  outgoing : pkt.isIngoing = false → portr ≠ none ∧ addrr = portr ∧ fullcone = portr
  portr_addrr : pkt.isIngoing = true → ∀ out, portr = some out → addrr = some out
  addrr_fullcone : pkt.isIngoing = true → ∀ out, addrr = some out → fullcone = some out

/-- The three NATs between two packets. -/
inductive InStep (clock : Nat) : NatBox → NatBox → NatBox → Prop
  | intro {m : NatMapper} {f : PortrSymNatFilter} {g : AddrrNatFilter} (k : FullconeNatFilter)
      (cp ca cf : NatConfig) : TableOrder clock f g →
      InStep clock ⟨cp, .nat m, .portrSym f⟩ ⟨ca, .nat m, .addrr g⟩ ⟨cf, .nat m, .fullcone k⟩

variable {clock now : Nat} {portr addrr fullcone : NatBox} {pkt : Packet}

theorem InStep.expire (hi : InStep clock portr addrr fullcone) (hle : clock ≤ now) :
    InStep now (portr.expire now) (addrr.expire now) (fullcone.expire now) := by
  cases hi with
  | intro k cp ca cf ho => exact .intro k cp ca cf (ho.expire hle)

/-- **One packet**, handled by all three. -/
theorem InStep.handlePacket (hi : InStep now portr addrr fullcone) (pkt : Packet) :
    ∃ portr' addrr' fullcone' rp ra rf,
      portr.handlePacket now pkt = some (portr', rp) ∧
      addrr.handlePacket now pkt = some (addrr', ra) ∧
      fullcone.handlePacket now pkt = some (fullcone', rf) ∧
      InStep now portr' addrr' fullcone' ∧ Permits pkt rp ra rf := by
  obtain @⟨m, f, g, k, cp, ca, cf, ho⟩ := hi
  cases hdir : pkt.isIngoing with
  | false =>
    obtain ⟨m', pkt', hmap, hout⟩ := m.mapPacket_outgoing now hdir
    obtain ⟨hpassf, hpassg, ho'⟩ := ho.outgoing hout
    simp only [NatBox.handlePacket, hdir, Bool.false_eq_true, if_false, Mapper.mapPacket, hmap,
      Option.map_some, NatFilter.filterPacket, hpassf, hpassg, FullconeNatFilter.filterPacket, if_true]
    refine ⟨_, _, _, _, _, _, rfl, rfl, rfl, .intro k cp ca cf ho', ?_⟩
    exact ⟨fun _ => ⟨Option.some_ne_none _, rfl, rfl⟩, fun _ _ h => h, fun _ _ h => h⟩
  | true =>
    obtain ⟨r, hmap⟩ := m.mapPacket_ingoing now hdir
    obtain ⟨hf, hg, hpass⟩ := ho.ingoing hdir now
    have hnat : (Mapper.nat m).mapPacket now pkt = some (.nat m, r) := by
      simp only [Mapper.mapPacket, hmap]
      rfl
    refine ⟨_, _, _, _, _, _, NatBox.handlePacket_of_ingoing hdir hnat (congrArg _ hf),
      NatBox.handlePacket_of_ingoing hdir hnat (congrArg _ hg),
      NatBox.handlePacket_of_ingoing hdir hnat rfl, .intro k cp ca cf ho, ?_⟩
    refine ⟨fun hout => ?_, fun _ out hpr => ?_, fun _ out hpr => ?_⟩
    · rw [hdir] at hout
      cases hout
    · obtain ⟨hp, hr⟩ := Option.ite_none_right_eq_some.mp hpr
      exact Option.ite_none_right_eq_some.mpr ⟨hpass hp, hr⟩
    · obtain ⟨-, hr⟩ := Option.ite_none_right_eq_some.mp hpr
      exact Option.ite_none_right_eq_some.mpr ⟨rfl, hr⟩

/-- **A sequence of packets**, handled by all three. -/
theorem InStep.forwards (hi : InStep clock portr addrr fullcone) {pkts : List (Nat × Packet)}
    (hsorted : (pkts.map (·.1)).Pairwise (· ≤ ·)) (hclock : ∀ time ∈ pkts.map (·.1), clock ≤ time) :
    ∃ ps as fs : List (Option Packet), portr.forwards pkts = some ps ∧ addrr.forwards pkts = some as ∧
      fullcone.forwards pkts = some fs ∧
      ∀ (i : Nat) now pkt, pkts[i]? = some (now, pkt) →
        ∃ rp ra rf, ps[i]? = some rp ∧ as[i]? = some ra ∧ fs[i]? = some rf ∧
          Permits pkt rp ra rf := by
  induction pkts generalizing clock portr addrr fullcone with
  | nil => exact ⟨[], [], [], rfl, rfl, rfl, fun i now pkt h => by cases h⟩
  | cons first rest ih =>
    obtain ⟨now, pkt⟩ := first
    obtain ⟨hnow, hsorted⟩ := List.pairwise_cons.mp hsorted
    have hle := hclock now List.mem_cons_self
    obtain ⟨p', a', f', rp, ra, rf, hp, ha, hf, hi', hpermits⟩ := (hi.expire hle).handlePacket pkt
    obtain ⟨ps, as, fs, hps, has, hfs, hall⟩ := ih hi' hsorted hnow
    refine ⟨rp :: ps, ra :: as, rf :: fs, ?_, ?_, ?_, fun i time q hq => ?_⟩
    · simp only [NatBox.forwards, NatBox.step, hp, hps]
      rfl
    · simp only [NatBox.forwards, NatBox.step, ha, has]
      rfl
    · simp only [NatBox.forwards, NatBox.step, hf, hfs]
      rfl
    · cases i with
      | zero =>
        obtain ⟨rfl, rfl⟩ := Prod.mk.inj (Option.some.inj hq)
        exact ⟨rp, ra, rf, rfl, rfl, rfl, hpermits⟩
      | succ i => exact hall i time q hq

/-- **The types are ordered by strictness.**  NATs of the three types with one
configuration handle every packet of a sequence; an outgoing one they forward, all
three as the same packet; and an ingoing one that one type forwards, the more
permissive types forward as the same packet. -/
theorem nat_types_ordered (c : NatConfig) (pkts : List (Nat × Packet))
    (hsorted : (pkts.map (·.1)).Pairwise (· ≤ ·)) :
    ∃ ps as fs : List (Option Packet), (c.setNatType "portr").init.forwards pkts = some ps ∧
      (c.setNatType "addrr").init.forwards pkts = some as ∧
      (c.setNatType "fullcone").init.forwards pkts = some fs ∧
      ∀ (i : Nat) now pkt, pkts[i]? = some (now, pkt) →
        ∃ rp ra rf, ps[i]? = some rp ∧ as[i]? = some ra ∧ fs[i]? = some rf ∧
          Permits pkt rp ra rf := by
  have hstart : InStep 0 (c.setNatType "portr").init (c.setNatType "addrr").init
      (c.setNatType "fullcone").init :=
    .intro _ _ _ _ (.start c.connectionTimeout c.dnatRules)
  exact hstart.forwards hsorted fun time _ => Nat.zero_le time

/-- Port 5 of the inside speaks to 7:80.  An answer from there passes all three types,
one from another port of 7 does not pass `portr`, and one from 8 only `fullcone`. -/
theorem nat_types_ordered_answers :
    ∃ ps as fs : List (Option Packet),
      ({ ipExt := 9, ipInt := 1 } : NatConfig).init.forwards
        [(0, .ofAddresses false 1 7 5 80), (1, .ofAddresses true 7 9 80 5),
          (2, .ofAddresses true 7 9 81 5), (3, .ofAddresses true 8 9 80 5)] = some ps ∧
      ps[1]? = some (some (.ofAddresses true 7 1 80 5)) ∧ ps[2]? = some none ∧
      as[2]? = some (some (.ofAddresses true 7 1 81 5)) ∧ as[3]? = some none ∧
      fs[3]? = some (some (.ofAddresses true 8 1 80 5)) := by
  obtain ⟨ps, as, fs, hps, has, hfs, -⟩ := nat_types_ordered { ipExt := 9, ipInt := 1 }
    [(0, .ofAddresses false 1 7 5 80), (1, .ofAddresses true 7 9 80 5),
      (2, .ofAddresses true 7 9 81 5), (3, .ofAddresses true 8 9 80 5)] (by decide)
  refine ⟨ps, as, fs, hps, ?_⟩
  obtain rfl := Option.some.inj hps
  obtain rfl := Option.some.inj has
  obtain rfl := Option.some.inj hfs
  decide

end ShapingRouter
