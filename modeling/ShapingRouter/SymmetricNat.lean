import Mathlib
import ShapingRouter.NatHistory

/-! # Symmetric NAT

Every connection, that is every outgoing five-tuple, has an external port of its
own.  `Owns` reads off the history which port a live connection was sent from;
the mapper holds exactly that port (`NatRun.heldPort_iff`), and its external map
leads back to the connection, so two live connections never share a port.  The
third table, the filter's, is keyed by the translated tuple and thus agrees with
the other two on every ingoing packet.
-/

namespace ShapingRouter
open Library Std

instance (c : NatConfig) (now : Nat) (ev : NatEvent) : Decidable (ev.Live c now) :=
  inferInstanceAs (Decidable (_ ∧ _))

/-- The connections in use within the timeout before `now`. -/
def liveConns (c : NatConfig) (h : List NatEvent) (now : Nat) : Finset ConnectionTuple :=
  ((h.filter fun ev => ev.Live c now ∧ ev.pkt.isIngoing = false).map
    fun ev => ConnectionTuple.ofPacket ev.pkt).toFinset

/-- The connection `t` is live at `now`, and is sent from external port `port`. -/
def Owns (c : NatConfig) (h : List NatEvent) (now : Nat) (t : ConnectionTuple) (port : UInt16) :
    Prop :=
  ∃ ev ∈ h, ev.Live c now ∧ ev.pkt.isIngoing = false ∧ ConnectionTuple.ofPacket ev.pkt = t ∧
    ∃ out, ev.out = some out ∧ out.sport = port

/-- The uses of the connection `t`, the newest first. -/
def usesOf (h : List NatEvent) (t : ConnectionTuple) : List NatEvent :=
  h.filter fun ev => ev.pkt.isIngoing = false ∧ ConnectionTuple.ofPacket ev.pkt = t

theorem mem_liveConns {c : NatConfig} {h : List NatEvent} {now : Nat} {t : ConnectionTuple} :
    t ∈ liveConns c h now ↔ ∃ ev ∈ h, ev.Live c now ∧ ev.pkt.isIngoing = false ∧
      ConnectionTuple.ofPacket ev.pkt = t := by
  simp [liveConns, and_assoc]

namespace NatRun
variable {int : UInt32} {c : NatConfig} {h : List NatEvent} {s : NatSystem} {now : Nat}

/-- **While a connection is live it keeps its external port**: two of its uses
less than the timeout apart are sent from one port. -/
theorem port_stable (run : NatRun int c h s) :
    h.Pairwise fun newer older => newer.pkt.isIngoing = false → ∀ port,
      older.Uses c (ConnectionTuple.ofPacket newer.pkt) port →
      newer.time < older.time + c.lifetime →
      ∃ out, newer.out = some out ∧ out.sport = port := by
  induction run with
  | start hs => exact List.Pairwise.nil
  | @step h s s' ev run hs ih =>
    refine List.pairwise_cons.mpr ⟨fun older holder hout port hu hlt => ?_, ih⟩
    obtain ⟨hle, -, hsrc, hstep⟩ := hs
    have hI := NatRun.inv run
    have hlive : older.Live c ev.time := by
      have hpast := hI.mapped.past ⟨older, holder, rfl, hu⟩
      exact ⟨by omega, hlt⟩
    obtain ⟨d, hheld⟩ := (NatRun.heldPort_iff run hle _ _).mpr ⟨older, holder, hlive, hu⟩
    obtain ⟨port', hr, hsends⟩ :=
      (hI.valid.expire ev.time).handlePacket_outgoing hout (hsrc hout) hstep
    refine ⟨_, hr, ?_⟩
    by_cases hrule : c.dnatRules[ev.pkt.sport]? = none
    · have hkey := Mapper.SameKey.refl (s.nat.expire ev.time).mapper (ConnectionTuple.ofPacket ev.pkt)
      exact ((hsends.mapped hrule).stable _ d port hkey hheld).symm
    · -- a rule concerns the port that both events have inside, but the older used the mapper
      obtain ⟨-, holder', hconn, -⟩ := hu
      have hsport : older.pkt.sport = ev.pkt.sport := hconn.sport
      rw [hsport] at holder'
      exact absurd holder' hrule

/-- Two live connections with one external port are one connection. -/
theorem sameConn_of_uses (run : NatRun int c h s) (hle : s.clock ≤ now) {port : UInt16}
    {t t' : ConnectionTuple} (hu : ∃ ev ∈ h, ev.Live c now ∧ ev.Uses c t port)
    (hu' : ∃ ev ∈ h, ev.Live c now ∧ ev.Uses c t' port) : ∃ e, c.SameConn e t ∧ c.SameConn e t' := by
  have hv := (run.inv.expire hle).valid
  obtain ⟨d, hheld⟩ := (run.heldPort_iff hle t port).mpr hu
  obtain ⟨d', hheld'⟩ := (run.heldPort_iff hle t' port).mpr hu'
  obtain ⟨e, he, hk, -⟩ := hv.mapper.entryAt_of_held hheld
  obtain ⟨e', he', hk', -⟩ := hv.mapper.entryAt_of_held hheld'
  rw [he] at he'
  obtain rfl := Option.some.inj he'
  exact ⟨e.intTuple, (hv.sameKey_iff _ _).mp hk, (hv.sameKey_iff _ _).mp hk'⟩

end NatRun

/-! ## The symmetric type without rules -/

section Symmetric
variable {int : UInt32} {c : NatConfig} (htype : c.type = .symNat) (hrules : c.dnatRules = ∅)
  {h : List NatEvent} {s : NatSystem} {now : Nat}

include hrules in
theorem no_rule (port : UInt16) : c.dnatRules[port]? = none := by
  rw [hrules]
  exact TreeMap.getElem?_emptyc

include htype in
theorem sameConn_iff (t t' : ConnectionTuple) : c.SameConn t t' ↔ t = t' := by
  rw [NatConfig.SameConn, if_pos htype]

include htype hrules in
theorem owns_iff {t : ConnectionTuple} {port : UInt16} :
    Owns c h now t port ↔ ∃ ev ∈ h, ev.Live c now ∧ ev.Uses c t port := by
  simp only [Owns, NatEvent.Uses, no_rule hrules, sameConn_iff htype, true_and]

namespace NatRun

include htype hrules in
/-- The port of a live connection is its alone. -/
theorem symnat_apart (run : NatRun int c h s) (hle : s.clock ≤ now) {port : UInt16}
    {t t' : ConnectionTuple} (ho : Owns c h now t port) (ho' : Owns c h now t' port) : t = t' := by
  obtain ⟨e, he, he'⟩ := run.sameConn_of_uses hle ((owns_iff htype hrules).mp ho)
    ((owns_iff htype hrules).mp ho')
  exact ((sameConn_iff htype _ _).mp he).symm.trans ((sameConn_iff htype _ _).mp he')

include hrules in
/-- All the uses of a connection between which it stays live are sent from one
port. -/
theorem conn_stable (run : NatRun int c h s) {t : ConnectionTuple} {uses : List NatEvent}
    (huses : uses <:+: usesOf h t)
    (hchain : uses.IsChain fun newer older => newer.time < older.time + c.lifetime) :
    ∃ port, ∀ ev ∈ uses, ∃ out, ev.out = some out ∧ out.sport = port := by
  have hpair := (run.port_stable.sublist List.filter_sublist).sublist huses.sublist
  have hof : ∀ ev ∈ uses, ev ∈ h ∧ ev.pkt.isIngoing = false ∧ ConnectionTuple.ofPacket ev.pkt = t :=
    fun ev hev => by simpa [usesOf] using huses.subset hev
  clear huses
  induction uses with
  | nil => exact ⟨0, fun ev hev => by cases hev⟩
  | cons newer uses ih =>
    obtain ⟨port, hport⟩ := ih hchain.tail hpair.tail fun ev hev => hof ev (List.mem_cons_of_mem _ hev)
    obtain ⟨hnewer, hnout, hntup⟩ := hof newer List.mem_cons_self
    cases uses with
    | nil =>
      obtain ⟨-, port, hsent, -⟩ := run.inv.sent newer hnewer hnout
      refine ⟨port, fun ev hev => ?_⟩
      obtain rfl := List.mem_singleton.mp hev
      exact ⟨_, hsent, rfl⟩
    | cons older uses =>
      obtain ⟨-, hoout, hotup⟩ := hof older (List.mem_cons_of_mem _ List.mem_cons_self)
      have hgap := (List.isChain_cons_cons.mp hchain).1
      -- the older of two neighbours is live when the newer is handled
      have hsame := (List.pairwise_cons.mp hpair).1 older List.mem_cons_self hnout port
        ⟨hoout, no_rule hrules _, by rw [hntup, hotup]; exact .refl c t,
          hport older List.mem_cons_self⟩ hgap
      refine ⟨port, fun ev hev => ?_⟩
      rcases List.mem_cons.mp hev with rfl | hev
      · exact hsame
      · exact hport ev hev

include htype hrules in
/-- Where an ingoing packet goes is for the owner of its destination port to say. -/
theorem symnat_forwards (run : NatRun int c h s) (hle : s.clock ≤ now) {pkt pkt' : Packet} :
    Forwards int c h now pkt pkt' ↔ pkt.dstIp = c.ipExt ∧
      ∃ p, Owns c h now ⟨int, pkt.srcIp, p, pkt.sport, pkt.transProt⟩ pkt.dport ∧
        pkt' = pkt.withDestination int p := by
  simp only [Forwards, no_rule hrules, reduceCtorEq, false_and, exists_false, false_or, true_and,
    htype]
  constructor
  · rintro ⟨⟨ev, hev, hlive, hout, out, hsome, hopen⟩, ev', hev', hlive', hu', rfl⟩
    obtain ⟨hsrc, port, hsent, -⟩ := run.inv.sent ev hev hout
    rw [hsent] at hsome
    obtain rfl := Option.some.inj hsome
    simp only [NatConfig.SameAnswer, htype, NatFilter.answerTuple, ConnectionTuple.ofPacket,
      ConnectionTuple.mk.injEq] at hopen
    obtain ⟨hdst, hext, hdport, hport, hproto⟩ := hopen
    have htup : ConnectionTuple.ofPacket ev.pkt =
        ⟨int, pkt.srcIp, ev.pkt.sport, pkt.sport, pkt.transProt⟩ := by
      rw [← hsrc, ← hdst, ← hdport, ← hproto]; rfl
    have ho : Owns c h now ⟨int, pkt.srcIp, ev.pkt.sport, pkt.sport, pkt.transProt⟩ pkt.dport :=
      ⟨ev, hev, hlive, hout, htup, _, hsent, hport⟩
    have heq := run.symnat_apart htype hrules hle ho
      ((owns_iff htype hrules).mpr ⟨ev', hev', hlive', hu'⟩)
    refine ⟨hext.symm, ev.pkt.sport, ho, ?_⟩
    rw [show ev.pkt.sport = ev'.pkt.sport from congrArg ConnectionTuple.sport heq]
  · rintro ⟨hext, p, ho, rfl⟩
    obtain ⟨ev, hev, hlive, hout, htup, out, hsome, hport⟩ := ho
    obtain ⟨-, port, hsent, -⟩ := run.inv.sent ev hev hout
    have hu : ev.Uses c (ConnectionTuple.ofPacket ev.pkt) pkt.dport :=
      ⟨hout, no_rule hrules _, .refl c _, out, hsome, hport⟩
    rw [hsent] at hsome
    obtain rfl := Option.some.inj hsome
    obtain ⟨hsrc, hdst, hsport, hdport, hproto⟩ := ConnectionTuple.mk.inj htup
    refine ⟨⟨ev, hev, hlive, hout, _, hsent, ?_⟩, ev, hev, hlive, hu, by rw [hsport]⟩
    simp only [NatConfig.SameAnswer, htype, NatFilter.answerTuple, ConnectionTuple.ofPacket,
      ConnectionTuple.mk.injEq]
    exact ⟨hdst, hext.symm, hdport, hport, hproto⟩

include htype in
/-- The NAT handles every packet as long as fewer connections are live than there
are ports. -/
theorem symnat_handles (run : NatRun int c h s) (hle : s.clock ≤ now)
    (hlive : (liveConns c h now).card < 2 ^ 16) (pkt : Packet) :
    ∃ r, s.nat.step now pkt = some r := by
  have hv := (run.inv.expire hle).valid
  refine Option.ne_none_iff_exists'.mp fun hnone => ?_
  have hmap : (s.nat.expire now).mapper.mapPacket now pkt = none := by
    rw [NatBox.step] at hnone
    cases hdir : pkt.isIngoing with
    | true =>
      obtain ⟨r, hr, -⟩ := hv.handlePacket_ingoing hdir now
      rw [hr] at hnone
      cases hnone
    | false => exact NatBox.mapPacket_of_handlePacket_eq_none hdir hnone
  have hall := hv.mapper.exists_entryAt (Mapper.mapPacket_eq_none hmap).2
  choose e he using hall
  have hheld : ∀ port, ∃ d, (s.nat.expire now).mapper.heldPort (e port).intTuple = some (d, port) :=
    fun port => (hv.mapper.entryAt_spec (he port)).2
  have hmem : ∀ port, (e port).intTuple ∈ liveConns c h now := by
    intro port
    obtain ⟨ev, hev, hlive, hout, -, hconn, -⟩ := (run.heldPort_iff hle _ _).mp (hheld port)
    exact mem_liveConns.mpr ⟨ev, hev, hlive, hout, (sameConn_iff htype _ _).mp hconn⟩
  have hinj : Function.Injective fun port => (e port).intTuple := by
    intro port port' heq
    obtain ⟨d, hd⟩ := hheld port
    obtain ⟨d', hd'⟩ := hheld port'
    rw [show (e port).intTuple = (e port').intTuple from heq, hd'] at hd
    exact (Prod.mk.inj (Option.some.inj hd)).2.symm
  -- one live connection for each of the 2 ^ 16 ports
  have hcard : (Finset.range (2 ^ 16)).card ≤ (liveConns c h now).card := by
    refine Finset.card_le_card_of_injOn (fun i => (e (UInt16.ofNat i)).intTuple)
      (fun i _ => hmem _) fun i hi j hj heq => ?_
    have hij := congrArg UInt16.toNat (hinj heq)
    simp only [UInt16.toNat_ofNat'] at hij
    rw [Finset.coe_range, Set.mem_Iio] at hi hj
    omega
  rw [Finset.card_range] at hcard
  omega

end NatRun
end Symmetric

/-- **A symmetric NAT keeps connections apart.**  A connection keeps its external
port for as long as it stays live; two live connections have different ones; and
an ingoing packet is forwarded to the owner of its destination port if it comes
from the owner's peer, else not at all.  The NAT handles every packet while there
are fewer live connections than ports. -/
theorem symnat_keeps_connections_apart {int : UInt32} {c : NatConfig} (htype : c.type = .symNat)
    (hrules : c.dnatRules = ∅) {h : List NatEvent} {s : NatSystem} (run : NatRun int c h s) :
    (∀ t uses, uses <:+: usesOf h t →
      (uses.IsChain fun newer older => newer.time < older.time + c.lifetime) →
      ∃ port, ∀ ev ∈ uses, ∃ out, ev.out = some out ∧ out.sport = port) ∧
    ∀ now, s.clock ≤ now →
      ((liveConns c h now).card < 2 ^ 16 → ∀ pkt, ∃ r, s.nat.step now pkt = some r) ∧
      (∀ t t' port, Owns c h now t port → Owns c h now t' port → t = t') ∧
      ∀ pkt, pkt.isIngoing = true →
        ∃ r, s.nat.step now pkt = some (s.nat.expire now, r) ∧
          ∀ pkt', r = some pkt' ↔ pkt.dstIp = c.ipExt ∧
            ∃ p, Owns c h now ⟨int, pkt.srcIp, p, pkt.sport, pkt.transProt⟩ pkt.dport ∧
              pkt' = pkt.withDestination int p := by
  refine ⟨fun t uses huses hchain => run.conn_stable hrules huses hchain, fun now hle => ?_⟩
  refine ⟨fun hcard pkt => run.symnat_handles htype hle hcard pkt,
    fun t t' port ho ho' => run.symnat_apart htype hrules hle ho ho', fun pkt hin => ?_⟩
  obtain ⟨r, hr, hto⟩ := run.step_ingoing hle hin
  exact ⟨r, hr, fun pkt' => (hto pkt').trans (run.symnat_forwards htype hrules hle)⟩

/-- Two connections from one source port, and the answer to the second. -/
theorem symnat_keeps_two_apart :
    ∃ h s, NatRun 1 { ipExt := 9, ipInt := 1, type := .symNat } h s ∧
      s.nat.step 2 (.ofAddresses true 8 9 80 6) =
        some (s.nat.expire 2, some (.ofAddresses true 8 1 80 5)) := by
  have run : NatRun 1 { ipExt := 9, ipInt := 1, type := .symNat } _ _ :=
    .first 0 (.ofAddresses false 1 7 5 80) (fun _ => rfl) rfl
  have run' := run.handle (by decide : _ ≤ 1) (.ofAddresses false 1 8 5 80) (fun _ => rfl) rfl
  obtain ⟨-, hnow⟩ := symnat_keeps_connections_apart rfl rfl run'
  obtain ⟨-, -, hin⟩ := hnow 2 (by decide)
  obtain ⟨r, hr, hto⟩ := hin (.ofAddresses true 8 9 80 6) rfl
  obtain rfl := (hto (.ofAddresses true 8 1 80 5)).mpr ⟨rfl, 5,
    ⟨_, List.mem_cons_self, ⟨by decide, by decide⟩, rfl, rfl, _, rfl, rfl⟩, rfl⟩
  exact ⟨_, _, run', hr⟩

/-! ## The symmetric type with rules -/

section Ruled
variable {int : UInt32} {c : NatConfig} {h : List NatEvent} {s : NatSystem} {now : Nat}

namespace NatRun

/-- What was sent from a port that no rule concerns took that port from the mapper. -/
theorem uses_of_sent (run : NatRun int c h s) {ev : NatEvent} (hev : ev ∈ h)
    (hout : ev.pkt.isIngoing = false) {out : Packet} (hsent : ev.out = some out)
    (hrule : c.dnatRules[out.sport]? = none) :
    ev.Uses c (ConnectionTuple.ofPacket ev.pkt) out.sport := by
  refine ⟨hout, ?_, .refl c _, out, hsent, rfl⟩
  by_contra hsport
  -- a packet from a port with a rule keeps that port
  obtain ⟨-, port, hport, hkeep⟩ := run.inv.sent ev hev hout
  obtain rfl := Option.some.inj (hsent.symm.trans hport)
  rw [show (ev.pkt.withSource c.ipExt port).sport = ev.pkt.sport from hkeep (Or.inl hsport)] at hrule
  exact hsport hrule

/-- A port that no rule concerns belongs to one live connection at most. -/
theorem owns_unique (run : NatRun int c h s) (htype : c.type = .symNat) (hle : s.clock ≤ now)
    {port : UInt16} (hrule : c.dnatRules[port]? = none) {t t' : ConnectionTuple}
    (ho : Owns c h now t port) (ho' : Owns c h now t' port) : t = t' := by
  obtain ⟨ev, hev, hlive, hout, rfl, out, hsent, rfl⟩ := ho
  obtain ⟨ev', hev', hlive', hout', rfl, out', hsent', hport⟩ := ho'
  have hu := run.uses_of_sent hev hout hsent hrule
  have hu' := run.uses_of_sent hev' hout' hsent' (by rw [hport]; exact hrule)
  rw [hport] at hu'
  obtain ⟨e, he, he'⟩ := run.sameConn_of_uses hle ⟨ev, hev, hlive, hu⟩ ⟨ev', hev', hlive', hu'⟩
  exact ((sameConn_iff htype _ _).mp he).symm.trans ((sameConn_iff htype _ _).mp he')

end NatRun

/-- **A symmetric NAT forwards exactly what it should, with any rules**: what a
rule is for goes by the rule; a port without a rule belongs to one live connection
at most, and that connection gets what its own peer sends there, and nothing else. -/
theorem symnat_forwards_iff {int : UInt32} {c : NatConfig} (htype : c.type = .symNat)
    {h : List NatEvent} {s : NatSystem} (run : NatRun int c h s) (now : Nat) (hle : s.clock ≤ now)
    (pkt : Packet) (hin : pkt.isIngoing = true) :
    ∃ r, s.nat.step now pkt = some (s.nat.expire now, r) ∧
      (∀ rule, c.dnatRules[pkt.dport]? = some rule →
        r = some (pkt.withDestination rule.dstIp rule.dport)) ∧
      (c.dnatRules[pkt.dport]? = none →
        (∀ t t', Owns c h now t pkt.dport → Owns c h now t' pkt.dport → t = t') ∧
        ∀ pkt', r = some pkt' ↔ pkt.dstIp = c.ipExt ∧
          ∃ p, Owns c h now ⟨int, pkt.srcIp, p, pkt.sport, pkt.transProt⟩ pkt.dport ∧
            pkt' = pkt.withDestination int p) := by
  obtain ⟨r, hr, hto⟩ := run.step_ingoing hle hin
  refine ⟨r, hr, fun rule hrule => (hto _).mpr (Or.inl ⟨rule, hrule, rfl⟩), fun hrule =>
    ⟨fun t t' ho ho' => run.owns_unique htype hle hrule ho ho', fun pkt' => ?_⟩⟩
  rw [hto, Forwards]
  simp only [hrule, reduceCtorEq, false_and, exists_false, false_or, true_and, htype]
  constructor
  · rintro ⟨⟨ev, hev, hlive, hout, out, hsent, hopen⟩, ev', hev', hlive', hu', rfl⟩
    obtain ⟨hsrc, port, hport, -⟩ := run.inv.sent ev hev hout
    obtain rfl := Option.some.inj (hsent.symm.trans hport)
    simp only [NatConfig.SameAnswer, htype, NatFilter.answerTuple, ConnectionTuple.ofPacket,
      ConnectionTuple.mk.injEq] at hopen
    obtain ⟨hdst, hext, hdport, hsport, hproto⟩ := hopen
    have htup : ConnectionTuple.ofPacket ev.pkt =
        ⟨int, pkt.srcIp, ev.pkt.sport, pkt.sport, pkt.transProt⟩ := by
      rw [← hsrc, ← hdst, ← hdport, ← hproto]
      rfl
    have ho : Owns c h now ⟨int, pkt.srcIp, ev.pkt.sport, pkt.sport, pkt.transProt⟩ pkt.dport :=
      ⟨ev, hev, hlive, hout, htup, _, hsent, hsport⟩
    -- the entry that leads inside is that of the connection that opened the filter
    obtain ⟨hout', -, -, out', hsent', hport'⟩ := hu'
    have heq := run.owns_unique htype hle hrule ho
      ⟨ev', hev', hlive', hout', rfl, out', hsent', hport'⟩
    refine ⟨hext.symm, ev.pkt.sport, ho, ?_⟩
    rw [show ev.pkt.sport = ev'.pkt.sport from congrArg ConnectionTuple.sport heq]
  · rintro ⟨hext, p, ho, rfl⟩
    obtain ⟨ev, hev, hlive, hout, htup, out, hsent, hsport⟩ := ho
    have hu := run.uses_of_sent hev hout hsent (by rw [hsport]; exact hrule)
    rw [hsport] at hu
    obtain ⟨-, port, hport, -⟩ := run.inv.sent ev hev hout
    obtain rfl := Option.some.inj (hsent.symm.trans hport)
    obtain ⟨hsrc, hdst, hsp, hdport, hproto⟩ := ConnectionTuple.mk.inj htup
    refine ⟨⟨ev, hev, hlive, hout, _, hsent, ?_⟩, ev, hev, hlive, hu, by rw [hsp]⟩
    simp only [NatConfig.SameAnswer, htype, NatFilter.answerTuple, ConnectionTuple.ofPacket,
      ConnectionTuple.mk.injEq]
    exact ⟨hdst, hext.symm, hdport, hsport, hproto⟩

end Ruled

/-- A rule for port 6 beside a connection that was sent from port 5: the peer's
answer comes through. -/
theorem symnat_forwards_beside_rule :
    ∃ c : NatConfig, c.type = .symNat ∧ c.dnatRules[(6 : UInt16)]? ≠ none ∧
      ∃ h s, NatRun 1 c h s ∧ s.nat.step 2 (.ofAddresses true 7 9 80 5) =
        some (s.nat.expire 2, some (.ofAddresses true 7 1 80 5)) := by
  have run : NatRun 1 (NatConfig.setDnatRule { ipExt := 9, ipInt := 1, type := .symNat } 1 6 60)
      _ _ := .first 0 (.ofAddresses false 1 7 5 80) (fun _ => rfl) rfl
  obtain ⟨r, hr, -, hfree⟩ := symnat_forwards_iff rfl run 2 (by decide)
    (.ofAddresses true 7 9 80 5) rfl
  obtain rfl := ((hfree rfl).2 (.ofAddresses true 7 1 80 5)).mpr ⟨rfl, 5,
    ⟨_, List.mem_cons_self, ⟨by decide, by decide⟩, rfl, rfl, _, rfl, rfl⟩, rfl⟩
  exact ⟨_, rfl, by decide, _, _, run, hr⟩

end ShapingRouter
