import Mathlib
import ShapingRouter.NatHistory

/-! # Replies and port forwarding

Two round trips through the NAT, for all four types.  A reply to an outgoing
packet comes to the external port that packet was sent from; it returns to the
originator unless a rule for that port says otherwise, because `checkDnat` runs
before the tables are looked at (`reply_returns_iff`).  An answer to an ingoing
packet that was forwarded by a rule is sent from the external port that the
rule's *internal* port leads to, because `checkDnat` looks the rule up by the
internal port; it carries the port that the peer sent to only when that happens
to be the same (`forwarding_round_trip_iff`).
-/

namespace ShapingRouter
open Library Std

theorem NatConfig.SameAnswer.refl {c : NatConfig} (h : c.type ≠ .fullConeNat)
    (t : ConnectionTuple) : c.SameAnswer t t := by
  unfold NatConfig.SameAnswer
  split
  · exact ⟨rfl, rfl, rfl, rfl⟩
  · rename_i htype
    exact absurd htype h
  · rfl

theorem Packet.withDestination_inj {pkt : Packet} {ip ip' : UInt32} {port port' : UInt16} :
    pkt.withDestination ip port = pkt.withDestination ip' port' ↔ ip = ip' ∧ port = port' := by
  constructor
  · intro h
    exact ⟨congrArg Packet.dstIp h, congrArg (fun p : Packet => p.dport) h⟩
  · rintro ⟨rfl, rfl⟩
    rfl

/-! ## Replies -/

section Replies
variable {int : UInt32} {c : NatConfig} {h : List NatEvent} {s : NatSystem} {now : Nat}
  {ev : NatEvent} {out reply : Packet}

/-- Without a rule for the port it comes to, a reply is let through and finds its
way back. -/
theorem NatRun.forwards_reply (run : NatRun int c h s) (hev : ev ∈ h)
    (hout : ev.pkt.isIngoing = false) (hsent : ev.out = some out) (hlive : ev.Live c now)
    (hreply : ConnectionTuple.ofPacket reply = NatFilter.answerTuple out)
    (hrule : c.dnatRules[reply.dport]? = none) :
    Forwards int c h now reply (reply.withDestination int ev.pkt.sport) := by
  obtain ⟨-, port, hsent', hkeep⟩ := run.inv.sent ev hev hout
  rw [hsent] at hsent'
  obtain rfl := Option.some.inj hsent'
  have hport : reply.dport = port := congrArg ConnectionTuple.dport hreply
  -- a rule for the port inside would have kept the port, and there is none for the port outside
  have hno : c.dnatRules[ev.pkt.sport]? = none := by
    by_contra hne
    have hsame := hkeep (Or.inl hne)
    rw [hport, hsame] at hrule
    exact hne hrule
  refine Or.inr ⟨hrule, ?_, ev, hev, hlive, ⟨hout, hno, .refl c _, _, hsent, hport.symm⟩, rfl⟩
  by_cases hcone : c.type = .fullConeNat
  · exact Or.inl hcone
  · refine Or.inr ⟨ev, hev, hlive, hout, _, hsent, ?_⟩
    rw [hreply]
    exact .refl hcone _

/-- **When a reply returns to the originator.**  The outgoing packet of `ev`, from
any run, was forwarded as `out`.  A reply to `out` before the timeout elapses, whatever
was handled in between, is forwarded to where that packet came from iff a rule for the
port it comes to leads there, or there is no such rule and the timeout is an `int`. -/
theorem reply_returns_iff (run : NatRun int c h s) (hev : ev ∈ h)
    (hout : ev.pkt.isIngoing = false) (hsent : ev.out = some out) (hle : s.clock ≤ now)
    (hnow : now < ev.time + 10 ^ 9 * c.connectionTimeout.toNat) (hin : reply.isIngoing = true)
    (hreply : ConnectionTuple.ofPacket reply = NatFilter.answerTuple out) :
    s.nat.step now reply =
        some (s.nat.expire now, some (reply.withDestination int ev.pkt.sport)) ↔
      (∀ rule, c.dnatRules[reply.dport]? = some rule →
        rule.dstIp = int ∧ rule.dport = ev.pkt.sport) ∧
      (c.dnatRules[reply.dport]? = none → c.connectionTimeout.toNat < 2 ^ 31) := by
  obtain ⟨r, hr, hto⟩ := run.step_ingoing hle hin
  rw [hr, Option.some.injEq, Prod.mk.injEq, and_iff_right rfl, hto]
  cases hrule : c.dnatRules[reply.dport]? with
  | none =>
    simp only [reduceCtorEq, false_implies, implies_true, true_and, true_implies]
    constructor
    · rintro (⟨rule, hsome, -⟩ | ⟨-, -, ev', hev', ⟨-, hlive⟩, -⟩)
      · rw [hrule] at hsome
        cases hsome
      · -- with any other timeout no connection lives
        by_contra hlt
        rw [NatConfig.lifetime, ConnectionEntry.lifetime_of_le (Nat.not_lt.mp hlt)] at hlive
        have hpast := run.past ev' hev'
        omega
    · intro hlt
      have hlive : ev.Live c now := by
        have hpast := run.past ev hev
        refine ⟨by omega, ?_⟩
        rwa [NatConfig.lifetime, ConnectionEntry.lifetime_of_lt hlt]
      exact run.forwards_reply hev hout hsent hlive hreply hrule
  | some rule =>
    simp only [Forwards, hrule, Option.some.injEq, reduceCtorEq, false_and, or_false,
      exists_eq_left', forall_eq', Packet.withDestination_inj, false_implies, and_true]
    exact ⟨fun h => ⟨h.1.symm, h.2.symm⟩, fun h => ⟨h.1.symm, h.2.symm⟩⟩

end Replies

/-- The reply to a packet whose source port has no rule. -/
theorem reply_returns_without_rule :
    ∃ h s, NatRun 1 (NatConfig.setDnatRule { ipExt := 9, ipInt := 1 } 1 80 8080) h s ∧
      s.nat.step 1 (.ofAddresses true 7 9 53 5) =
        some (s.nat.expire 1, some (.ofAddresses true 7 1 53 5)) := by
  have run : NatRun 1 (NatConfig.setDnatRule { ipExt := 9, ipInt := 1 } 1 80 8080) _ _ :=
    .first 0 (.ofAddresses false 1 7 5 53) (fun _ => rfl) rfl
  refine ⟨_, _, run, (reply_returns_iff run List.mem_cons_self rfl rfl (by decide)
    (by decide) rfl rfl).mpr ⟨fun rule hrule => ?_, fun _ => by decide⟩⟩
  exact absurd hrule (Option.some_ne_none rule).symm

/-- **A rule diverts a reply**: 1:80 sends to 7:53, and the answer goes to 1:8080. -/
theorem reply_diverted_by_rule :
    ∃ h s, NatRun 1 (NatConfig.setDnatRule { ipExt := 9, ipInt := 1 } 1 80 8080) h s ∧
      h = [⟨0, .ofAddresses false 1 7 80 53, some (.ofAddresses false 9 7 80 53)⟩] ∧
      s.nat.step 1 (.ofAddresses true 7 9 53 80) =
        some (s.nat.expire 1, some (.ofAddresses true 7 1 53 8080)) ∧
      s.nat.step 1 (.ofAddresses true 7 9 53 80) ≠
        some (s.nat.expire 1, some (.ofAddresses true 7 1 53 80)) := by
  have run : NatRun 1 (NatConfig.setDnatRule { ipExt := 9, ipInt := 1 } 1 80 8080) _ _ :=
    .first 0 (.ofAddresses false 1 7 80 53) (fun _ => rfl) rfl
  refine ⟨_, _, run, rfl, rfl, fun h => ?_⟩
  have hout := congrArg Prod.snd (Option.some.inj h)
  exact absurd hout (by decide)

/-! ## Port forwarding -/

section Forwarding
variable {int : UInt32} {c : NatConfig} {h : List NatEvent} {s : NatSystem} {pkt : Packet}
  {rule : ConnectionTuple}

/-- A packet to a port with a rule is forwarded, always. -/
theorem NatRun.step_rule (run : NatRun int c h s) {t : Nat} (hle : s.clock ≤ t)
    (hin : pkt.isIngoing = true) (hrule : c.dnatRules[pkt.dport]? = some rule) :
    s.nat.step t pkt =
      some (s.nat.expire t, some (pkt.withDestination rule.dstIp rule.dport)) := by
  obtain ⟨r, hr, hto⟩ := run.step_ingoing hle hin
  rw [hr, (hto _).mpr (Or.inl ⟨rule, hrule, rfl⟩)]

/-- Which port the answer to a forwarded packet is sent from. -/
theorem SentFrom.iff_of_rule {ep : UInt16} {now : Nat} {t : ConnectionTuple}
    (hrule : c.dnatRules[ep]? ≠ none) :
    SentFrom c h now t ep ↔ t.sport = ep ∨
      c.type = .symNat ∧ c.dnatRules[t.sport]? = none ∧
        ((∃ ev ∈ h, ev.Live c now ∧ ev.Uses c t ep) ∨
          (¬ ∃ p, ∃ ev ∈ h, ev.Live c now ∧ ev.Uses c t p) ∧
            FirstFree (InUse c h now) (· + 1) t.sport ep) := by
  unfold SentFrom
  split
  · rename_i hkeep
    constructor
    · intro heq
      exact Or.inl heq.symm
    · rintro (heq | ⟨htype, hno, -⟩)
      · exact heq.symm
      · exact (hkeep.elim (absurd hno) (absurd htype))
  · rename_i hkeep
    rw [not_or, not_not, not_not] at hkeep
    have hne : t.sport ≠ ep := by
      rintro rfl
      exact hrule hkeep.1
    simp [hne, hkeep]

/-- **When a forwarded port answers for itself.**  A packet to an external port
`ep` with a rule is forwarded to the rule's target `int:ip`, from any state a run
reaches.  The answer of `int:ip`, whatever was handled in between, is sent from
the address and port that the peer sent to iff `ip` is `ep`, or the NAT is
symmetric, has no rule for `ip`, and `ep` is the external port of the answer's
live connection or the first one free for a new connection. -/
theorem forwarding_round_trip_iff (run : NatRun int c h s) (hin : pkt.isIngoing = true)
    (hext : pkt.dstIp = c.ipExt) (hrule : c.dnatRules[pkt.dport]? = some rule)
    (hint : rule.dstIp = int) {t : Nat} (hle : s.clock ≤ t) :
    s.nat.step t pkt = some (s.nat.expire t, some (pkt.withDestination int rule.dport)) ∧
    ∀ h' s', Run (NatStep int) (· = ⟨s.nat.expire t, t⟩) h' s' →
      ∀ now, s'.clock ≤ now → ∀ answer, answer.isIngoing = false →
        ConnectionTuple.ofPacket answer =
            NatFilter.answerTuple (pkt.withDestination int rule.dport) →
        let before := h' ++ ⟨t, pkt, some (pkt.withDestination int rule.dport)⟩ :: h
        let conn := ConnectionTuple.ofPacket answer
        ((∃ nat', s'.nat.step now answer =
            some (nat', some (answer.withSource pkt.dstIp pkt.dport))) ↔
          rule.dport = pkt.dport ∨ c.type = .symNat ∧ c.dnatRules[rule.dport]? = none ∧
            ((∃ ev ∈ before, ev.Live c now ∧ ev.Uses c conn pkt.dport) ∨
              (¬ ∃ p, ∃ ev ∈ before, ev.Live c now ∧ ev.Uses c conn p) ∧
                FirstFree (InUse c before now) (· + 1) rule.dport pkt.dport)) := by
  have hfwd := run.step_rule hle hin hrule
  rw [hint] at hfwd
  refine ⟨hfwd, fun h' s' later now hnow answer hout htup => ?_⟩
  have hdir : pkt.isIngoing = false → pkt.srcIp = int := by
    intro hno
    rw [hin] at hno
    cases hno
  have run' : NatRun int c (h' ++ ⟨t, pkt, some (pkt.withDestination int rule.dport)⟩ :: h) s' :=
    (run.handle hle _ hdir hfwd).trans later
  have hsrc : answer.srcIp = int := congrArg ConnectionTuple.srcIp htup
  have hsport : (ConnectionTuple.ofPacket answer).sport = rule.dport :=
    congrArg ConnectionTuple.sport htup
  have hne : c.dnatRules[pkt.dport]? ≠ none := by rw [hrule]; exact Option.some_ne_none _
  have hiff := (run'.step_outgoing hnow hout hsrc pkt.dport).trans (SentFrom.iff_of_rule hne)
  rw [hsport] at hiff
  rw [hext]
  exact hiff

end Forwarding

/-- The rule 80 → 1:80, and the answer of 1:80. -/
theorem forwarding_round_trip_same_port :
    ∃ s : NatSystem, s.nat = (NatConfig.setDnatRule { ipExt := 9, ipInt := 1 } 1 80 80).init ∧
      s.nat.step 0 (.ofAddresses true 7 9 5000 80) =
        some (s.nat.expire 0, some (.ofAddresses true 7 1 5000 80)) ∧
      ∃ nat', (s.nat.expire 0).step 1 (.ofAddresses false 1 7 80 5000) =
        some (nat', some (.ofAddresses false 9 7 80 5000)) := by
  have run : NatRun 1 (NatConfig.setDnatRule { ipExt := 9, ipInt := 1 } 1 80 80) [] ⟨_, 0⟩ :=
    .start rfl
  have hin : (Packet.ofAddresses true 7 9 5000 80).isIngoing = true := rfl
  obtain ⟨hfwd, hanswer⟩ := forwarding_round_trip_iff run hin rfl rfl rfl (t := 0) (by decide)
  exact ⟨_, rfl, hfwd, (hanswer [] _ (.start rfl) 1 (by decide)
    (.ofAddresses false 1 7 80 5000) rfl rfl).mpr (Or.inl rfl)⟩

/-- **An answer from another port**: by the rule 80 → 1:8080 a packet to 9:80 is
forwarded to 1:8080, whose answer is sent from 9:8080. -/
theorem forwarding_answers_from_other_port :
    ∃ s : NatSystem, s.nat = (NatConfig.setDnatRule { ipExt := 9, ipInt := 1 } 1 80 8080).init ∧
      s.nat.step 0 (.ofAddresses true 7 9 5000 80) =
        some (s.nat.expire 0, some (.ofAddresses true 7 1 5000 8080)) ∧
      ¬ ∃ nat', (s.nat.expire 0).step 1 (.ofAddresses false 1 7 8080 5000) =
        some (nat', some (.ofAddresses false 9 7 80 5000)) := by
  refine ⟨⟨_, 0⟩, rfl, rfl, ?_⟩
  rintro ⟨nat', h⟩
  have hout : some (Packet.ofAddresses false 9 7 8080 5000) = some (.ofAddresses false 9 7 80 5000) :=
    congrArg Prod.snd (Option.some.inj h)
  exact absurd hout (by decide)

end ShapingRouter
