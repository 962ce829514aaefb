import Mathlib
import ShapingRouter.NatHistory

/-! # Port restricted, address restricted and full cone

The three types that keep the source port.  An ingoing packet without a rule is
forwarded iff its destination port is in use and the filter lets it through, and
then it goes to the same port inside (`NatRun.cone_forwards`).  What the filter
lets through, read off the history, is what tells the three types apart.

The full cone asks for nothing but the port, so a use of the port by one
protocol opens it for the others: `fullcone_promise_iff` says when this shows.
-/

namespace ShapingRouter
open Library Std

/-- Some live outgoing packet with source port `port` satisfies `P`. -/
def LiveUse (c : NatConfig) (h : List NatEvent) (now : Nat) (port : UInt16) (P : Packet → Prop) :
    Prop :=
  ∃ ev ∈ h, ev.Live c now ∧ ev.pkt.isIngoing = false ∧ ev.pkt.sport = port ∧ P ev.pkt

/-- An ingoing packet with the destination it is forwarded to: the target of the
rule for its destination port, or else that port of the internal address. -/
def coneTarget (int : UInt32) (c : NatConfig) (pkt : Packet) : Packet :=
  match c.dnatRules[pkt.dport]? with
  | some rule => pkt.withDestination rule.dstIp rule.dport
  | none => pkt.withDestination int pkt.dport

theorem LiveUse.mono {c : NatConfig} {h : List NatEvent} {now : Nat} {port : UInt16}
    {P Q : Packet → Prop} (hPQ : ∀ pkt, P pkt → Q pkt) (hu : LiveUse c h now port P) :
    LiveUse c h now port Q := by
  obtain ⟨ev, hev, hlive, hout, hsport, hP⟩ := hu
  exact ⟨ev, hev, hlive, hout, hsport, hPQ _ hP⟩

namespace NatRun
variable {int : UInt32} {c : NatConfig} {h : List NatEvent} {s : NatSystem} {now : Nat}
  {pkt pkt' : Packet}

/-- A type that keeps ports sends every packet from its own source port. -/
theorem cone_sent (run : NatRun int c h s) (htype : c.type ≠ .symNat) {ev : NatEvent}
    (hev : ev ∈ h) (hout : ev.pkt.isIngoing = false) :
    ev.out = some (ev.pkt.withSource c.ipExt ev.pkt.sport) := by
  obtain ⟨-, port, hsent, hkeep⟩ := run.inv.sent ev hev hout
  rw [hsent, hkeep (Or.inr htype)]

/-- The uses of an external port are the outgoing packets from that port. -/
theorem cone_uses (run : NatRun int c h s) (htype : c.type ≠ .symNat) {port : UInt16}
    (hrule : c.dnatRules[port]? = none) {ev : NatEvent} (hev : ev ∈ h) :
    ev.Uses c (ConnectionTuple.ofPacket ev.pkt) port ↔
      ev.pkt.isIngoing = false ∧ ev.pkt.sport = port := by
  constructor
  · rintro ⟨hout, -, -, out, hsome, rfl⟩
    rw [run.cone_sent htype hev hout] at hsome
    obtain rfl := Option.some.inj hsome
    exact ⟨hout, rfl⟩
  · rintro ⟨hout, rfl⟩
    exact ⟨hout, hrule, .refl c _, _, run.cone_sent htype hev hout, rfl⟩

/-- What the filters of the restricted types were opened for. -/
theorem cone_opens (run : NatRun int c h s) (htype : c.type ≠ .symNat) {t : ConnectionTuple} :
    (∃ ev ∈ h, ev.Live c now ∧ ev.Opens c t) ↔
      ∃ ev ∈ h, ev.Live c now ∧ ev.pkt.isIngoing = false ∧
        c.SameAnswer ⟨ev.pkt.dstIp, c.ipExt, ev.pkt.dport, ev.pkt.sport, ev.pkt.transProt⟩ t := by
  refine exists_congr fun ev => and_congr_right fun hev => and_congr_right fun _ =>
    and_congr_right fun hout => ?_
  rw [run.cone_sent htype hev hout]
  constructor
  · rintro ⟨out, hsome, hsame⟩
    obtain rfl := Option.some.inj hsome
    exact hsame
  · intro hsame
    exact ⟨_, rfl, hsame⟩

/-- **What the types that keep ports have in common**: a packet is forwarded by
its rule, or because its port is in use and the filter lets it through. -/
theorem cone_forwards (run : NatRun int c h s) (htype : c.type ≠ .symNat) :
    Forwards int c h now pkt pkt' ↔ pkt' = coneTarget int c pkt ∧
      (c.dnatRules[pkt.dport]? ≠ none ∨
        (c.type = .fullConeNat ∨
          ∃ ev ∈ h, ev.Live c now ∧ ev.Opens c (ConnectionTuple.ofPacket pkt)) ∧
        LiveUse c h now pkt.dport fun _ => True) := by
  unfold Forwards coneTarget
  cases hrule : c.dnatRules[pkt.dport]? with
  | some rule => simp [eq_comm]
  | none =>
    have huse : (∃ ev ∈ h, ev.Live c now ∧ ev.Uses c (ConnectionTuple.ofPacket ev.pkt) pkt.dport ∧
          pkt' = pkt.withDestination int ev.pkt.sport) ↔
        pkt' = pkt.withDestination int pkt.dport ∧ LiveUse c h now pkt.dport fun _ => True := by
      constructor
      · rintro ⟨ev, hev, hlive, hu, rfl⟩
        obtain ⟨hout, hsport⟩ := (run.cone_uses htype hrule hev).mp hu
        exact ⟨by rw [hsport], ev, hev, hlive, hout, hsport, trivial⟩
      · rintro ⟨rfl, ev, hev, hlive, hout, hsport, -⟩
        exact ⟨ev, hev, hlive, (run.cone_uses htype hrule hev).mpr ⟨hout, hsport⟩, by rw [hsport]⟩
    rw [huse]
    simp only [reduceCtorEq, false_and, exists_false, false_or, true_and, ne_eq, not_true_eq_false]
    exact and_left_comm

/-- For a cone, what is let through is in use; so `R`, which the two together
amount to, decides. -/
theorem cone_step (run : NatRun int c h s) (htype : c.type ≠ .symNat) (hle : s.clock ≤ now)
    (hin : pkt.isIngoing = true) {R : Prop}
    (hR : (c.type = .fullConeNat ∨
        ∃ ev ∈ h, ev.Live c now ∧ ev.Opens c (ConnectionTuple.ofPacket pkt)) ∧
      LiveUse c h now pkt.dport (fun _ => True) ↔ R) :
    ∃ r, s.nat.step now pkt = some (s.nat.expire now, r) ∧
      (r ≠ none ↔ c.dnatRules[pkt.dport]? ≠ none ∨ R) ∧
      ∀ pkt', r = some pkt' → pkt' = coneTarget int c pkt := by
  obtain ⟨r, hr, hto⟩ := run.step_ingoing hle hin
  refine ⟨r, hr, ?_, fun pkt' h => ((run.cone_forwards htype).mp ((hto pkt').mp h)).1⟩
  rw [Option.ne_none_iff_exists']
  constructor
  · rintro ⟨pkt', h⟩
    have hf := ((run.cone_forwards htype).mp ((hto pkt').mp h)).2
    exact hf.imp_right hR.mp
  · intro hf
    exact ⟨_, (hto _).mpr ((run.cone_forwards htype).mpr ⟨rfl, hf.imp_right hR.mpr⟩)⟩

end NatRun

/-! ## Port restricted -/

/-- **A port restricted NAT forwards exactly what it should.** -/
theorem portr_forwards_iff {int : UInt32} {c : NatConfig} (htype : c.type = .portRNat)
    {h : List NatEvent} {s : NatSystem} (run : NatRun int c h s) (now : Nat) (hle : s.clock ≤ now)
    (pkt : Packet) (hin : pkt.isIngoing = true) :
    ∃ r, s.nat.step now pkt = some (s.nat.expire now, r) ∧
      (r ≠ none ↔ c.dnatRules[pkt.dport]? ≠ none ∨
        pkt.dstIp = c.ipExt ∧ LiveUse c h now pkt.dport fun sent =>
          sent.dstIp = pkt.srcIp ∧ sent.dport = pkt.sport ∧ sent.transProt = pkt.transProt) ∧
      ∀ pkt', r = some pkt' → pkt' = coneTarget int c pkt := by
  have hns : c.type ≠ .symNat := by rw [htype]; decide
  refine run.cone_step hns hle hin ?_
  rw [run.cone_opens hns]
  simp only [htype, reduceCtorEq, false_or, NatConfig.SameAnswer, ConnectionTuple.ofPacket,
    ConnectionTuple.mk.injEq]
  constructor
  · rintro ⟨⟨ev, hev, hlive, hout, hdst, hext, hdport, hsport, hproto⟩, -⟩
    exact ⟨hext.symm, ev, hev, hlive, hout, hsport, hdst, hdport, hproto⟩
  · rintro ⟨hext, ev, hev, hlive, hout, hsport, hdst, hdport, hproto⟩
    exact ⟨⟨ev, hev, hlive, hout, hdst, hext.symm, hdport, hsport, hproto⟩,
      ev, hev, hlive, hout, hsport, trivial⟩

/-- The answer to a packet that was sent nine nanoseconds before. -/
theorem portr_forwards_answer :
    ∃ h s, NatRun 1 { ipExt := 9, ipInt := 1, connectionTimeout := 10 } h s ∧
      s.nat.step 9 (.ofAddresses true 7 9 80 5) =
        some (s.nat.expire 9, some (.ofAddresses true 7 1 80 5)) := by
  have run : NatRun 1 { ipExt := 9, ipInt := 1, connectionTimeout := 10 } _ _ :=
    .first 0 (.ofAddresses false 1 7 5 80) (fun _ => rfl) rfl
  obtain ⟨r, hr, hiff, hto⟩ := portr_forwards_iff rfl run 9 (by decide)
    (.ofAddresses true 7 9 80 5) rfl
  obtain ⟨pkt', rfl⟩ := Option.ne_none_iff_exists'.mp (hiff.mpr (Or.inr
    ⟨rfl, _, List.mem_cons_self, ⟨by decide, by decide⟩, rfl, rfl, rfl, rfl, rfl⟩))
  obtain rfl := hto pkt' rfl
  exact ⟨_, _, run, hr⟩

/-! ## Address restricted -/

/-- **An address restricted NAT forwards exactly what it should**: the port that
the earlier packet was sent to does not count. -/
theorem addrr_forwards_iff {int : UInt32} {c : NatConfig} (htype : c.type = .addrRNat)
    {h : List NatEvent} {s : NatSystem} (run : NatRun int c h s) (now : Nat) (hle : s.clock ≤ now)
    (pkt : Packet) (hin : pkt.isIngoing = true) :
    ∃ r, s.nat.step now pkt = some (s.nat.expire now, r) ∧
      (r ≠ none ↔ c.dnatRules[pkt.dport]? ≠ none ∨
        pkt.dstIp = c.ipExt ∧ LiveUse c h now pkt.dport fun sent =>
          sent.dstIp = pkt.srcIp ∧ sent.transProt = pkt.transProt) ∧
      ∀ pkt', r = some pkt' → pkt' = coneTarget int c pkt := by
  have hns : c.type ≠ .symNat := by rw [htype]; decide
  refine run.cone_step hns hle hin ?_
  rw [run.cone_opens hns]
  simp only [htype, reduceCtorEq, false_or, NatConfig.SameAnswer, ConnectionTuple.ofPacket]
  constructor
  · rintro ⟨⟨ev, hev, hlive, hout, hdst, hext, hsport, hproto⟩, -⟩
    exact ⟨hext.symm, ev, hev, hlive, hout, hsport, hdst, hproto⟩
  · rintro ⟨hext, ev, hev, hlive, hout, hsport, hdst, hproto⟩
    exact ⟨⟨ev, hev, hlive, hout, hdst, hext.symm, hsport, hproto⟩,
      ev, hev, hlive, hout, hsport, trivial⟩

/-- An answer from another port of the address that was sent to. -/
theorem addrr_forwards_other_port :
    ∃ h s, NatRun 1 { ipExt := 9, ipInt := 1, connectionTimeout := 10, type := .addrRNat } h s ∧
      s.nat.step 9 (.ofAddresses true 7 9 81 5) =
        some (s.nat.expire 9, some (.ofAddresses true 7 1 81 5)) := by
  have run : NatRun 1
      { ipExt := 9, ipInt := 1, connectionTimeout := 10, type := .addrRNat } _ _ :=
    .first 0 (.ofAddresses false 1 7 5 80) (fun _ => rfl) rfl
  obtain ⟨r, hr, hiff, hto⟩ := addrr_forwards_iff rfl run 9 (by decide)
    (.ofAddresses true 7 9 81 5) rfl
  obtain ⟨pkt', rfl⟩ := Option.ne_none_iff_exists'.mp (hiff.mpr (Or.inr
    ⟨rfl, _, List.mem_cons_self, ⟨by decide, by decide⟩, rfl, rfl, rfl, rfl⟩))
  obtain rfl := hto pkt' rfl
  exact ⟨_, _, run, hr⟩

/-! ## Full cone -/

/-- A full cone forwards what is sent to a port in use, by whichever protocol. -/
theorem NatRun.fullcone_step {int : UInt32} {c : NatConfig} (htype : c.type = .fullConeNat)
    {h : List NatEvent} {s : NatSystem} (run : NatRun int c h s) {now : Nat} (hle : s.clock ≤ now)
    {pkt : Packet} (hin : pkt.isIngoing = true) :
    ∃ r, s.nat.step now pkt = some (s.nat.expire now, r) ∧
      (r ≠ none ↔ c.dnatRules[pkt.dport]? ≠ none ∨ LiveUse c h now pkt.dport fun _ => True) ∧
      ∀ pkt', r = some pkt' → pkt' = coneTarget int c pkt := by
  refine run.cone_step (by rw [htype]; decide) hle hin ?_
  simp [htype]

/-- What is asked of a full cone when it answers `r` to the ingoing packet `pkt`:
it forwards the packet iff there is a rule for its port, or the same protocol
used the port; without a rule, to that port of the internal address. -/
def FullconePromise (int : UInt32) (c : NatConfig) (h : List NatEvent) (now : Nat) (pkt : Packet)
    (r : Option Packet) : Prop :=
  (r ≠ none ↔ c.dnatRules[pkt.dport]? ≠ none ∨
    LiveUse c h now pkt.dport fun sent => sent.transProt = pkt.transProt) ∧
  ∀ pkt', r = some pkt' → c.dnatRules[pkt.dport]? = none →
    pkt' = pkt.withDestination int pkt.dport

/-- **When a full cone keeps its promise**: there is a rule for the port, or the
port is not in use by other protocols alone. -/
theorem fullcone_promise_iff {int : UInt32} {c : NatConfig} (htype : c.type = .fullConeNat)
    {h : List NatEvent} {s : NatSystem} (run : NatRun int c h s) (now : Nat) (hle : s.clock ≤ now)
    (pkt : Packet) (hin : pkt.isIngoing = true) :
    ∃ r, s.nat.step now pkt = some (s.nat.expire now, r) ∧
      (FullconePromise int c h now pkt r ↔ c.dnatRules[pkt.dport]? ≠ none ∨
        ((LiveUse c h now pkt.dport fun sent => sent.transProt ≠ pkt.transProt) →
          LiveUse c h now pkt.dport fun sent => sent.transProt = pkt.transProt)) := by
  obtain ⟨r, hr, hiff, hto⟩ := run.fullcone_step htype hle hin
  refine ⟨r, hr, ?_⟩
  have hdest : ∀ pkt', r = some pkt' → c.dnatRules[pkt.dport]? = none →
      pkt' = pkt.withDestination int pkt.dport := by
    intro pkt' h hrule
    rw [hto pkt' h, coneTarget, hrule]
  have hany : LiveUse c h now pkt.dport (fun _ => True) ↔
      LiveUse c h now pkt.dport (fun sent => sent.transProt = pkt.transProt) ∨
      LiveUse c h now pkt.dport (fun sent => sent.transProt ≠ pkt.transProt) := by
    constructor
    · rintro ⟨ev, hev, hlive, hout, hsport, -⟩
      by_cases hproto : ev.pkt.transProt = pkt.transProt
      · exact Or.inl ⟨ev, hev, hlive, hout, hsport, hproto⟩
      · exact Or.inr ⟨ev, hev, hlive, hout, hsport, hproto⟩
    · intro hu
      rcases hu with hu | hu <;> exact hu.mono fun _ _ => trivial
  rw [FullconePromise, and_iff_left hdest, hiff, hany]
  by_cases hrule : c.dnatRules[pkt.dport]? = none
  · -- without a rule, only the protocols that used the port decide
    have hno : ¬ c.dnatRules[pkt.dport]? ≠ none := not_not.mpr hrule
    rw [or_iff_right hno, or_iff_right hno, or_iff_right hno]
    constructor
    · intro hopen hother
      exact hopen.mp (Or.inr hother)
    · intro hopen
      refine ⟨fun hused => ?_, Or.inl⟩
      rcases hused with hsame | hother
      · exact hsame
      · exact hopen hother
  · exact ⟨fun _ => Or.inl hrule, fun _ => ⟨fun _ => Or.inl hrule, fun _ => Or.inl hrule⟩⟩

/-- A TCP packet, and a TCP packet to the port it came from. -/
theorem fullcone_promise_same_protocol :
    ∃ h s r, NatRun 1 { ipExt := 9, ipInt := 1, type := .fullConeNat } h s ∧
      s.nat.step 1 (.ofAddresses true 8 9 80 5) = some (s.nat.expire 1, r) ∧
      FullconePromise 1 { ipExt := 9, ipInt := 1, type := .fullConeNat } h 1
        (.ofAddresses true 8 9 80 5) r := by
  have run : NatRun 1 { ipExt := 9, ipInt := 1, type := .fullConeNat } _ _ :=
    .first 0 (.ofAddresses false 1 7 5 80) (fun _ => rfl) rfl
  obtain ⟨r, hr, hiff⟩ := fullcone_promise_iff rfl run 1 (by decide)
    (.ofAddresses true 8 9 80 5) rfl
  refine ⟨_, _, r, run, hr, hiff.mpr (Or.inr fun _ => ?_)⟩
  exact ⟨_, List.mem_cons_self, ⟨by decide, by decide⟩, rfl, rfl, rfl⟩

/-- **The promise is broken**: a TCP packet opens its port to UDP as well. -/
theorem fullcone_promise_broken :
    ∃ h s r, NatRun 1 { ipExt := 9, ipInt := 1, type := .fullConeNat } h s ∧
      s.nat.step 1 { Packet.ofAddresses true 8 9 53 5 with transProt := IPPROTO_UDP } =
        some (s.nat.expire 1, r) ∧
      ¬ FullconePromise 1 { ipExt := 9, ipInt := 1, type := .fullConeNat } h 1
        { Packet.ofAddresses true 8 9 53 5 with transProt := IPPROTO_UDP } r := by
  have run : NatRun 1 { ipExt := 9, ipInt := 1, type := .fullConeNat } _ _ :=
    .first 0 (.ofAddresses false 1 7 5 80) (fun _ => rfl) rfl
  refine ⟨_, _, _, run, rfl, fun hp => ?_⟩
  have hopen := hp.1.mp (Option.some_ne_none _)
  rcases hopen with hrule | ⟨ev, hev, -, -, -, hproto⟩
  · exact hrule rfl
  · obtain rfl := List.mem_singleton.mp hev
    exact absurd hproto (by decide)

end ShapingRouter
