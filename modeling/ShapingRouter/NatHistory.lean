import Mathlib
import ShapingRouter.Library.Run
import ShapingRouter.NatInvariant

/-! # What the history says about the NAT

A run of the NAT handles one packet after another, each at its own time; its
history lists them, the newest first, with what was forwarded.  The timers of
the two tables are independent of each other, but each table is explained by
the history alone (`Tracks`): the mapper by the outgoing packets that no rule
concerns, the filter by all outgoing packets as they were sent.  So whether an
ingoing packet is forwarded, and where to, is a question about the history
(`NatRun.step_ingoing`), whatever happened to the timers in between.
-/

namespace ShapingRouter
open Library Std

/-- One packet handled: when, and what went on to the next filter. -/
structure NatEvent where
  time : Nat
  pkt : Packet
  out : Option Packet

/-- The NAT, and the time of the last packet. -/
structure NatSystem where
  nat : NatBox
  clock : Nat

/-- One packet is handled; outgoing packets come from `int`. -/
def NatStep (int : UInt32) (s : NatSystem) (ev : NatEvent) (s' : NatSystem) : Prop :=
  s.clock ≤ ev.time ∧ s'.clock = ev.time ∧ (ev.pkt.isIngoing = false → ev.pkt.srcIp = int) ∧
    s.nat.step ev.time ev.pkt = some (s'.nat, ev.out)

/-- A run of the NAT that `init` made of the configuration `c`. -/
abbrev NatRun (int : UInt32) (c : NatConfig) : List NatEvent → NatSystem → Prop :=
  Run (NatStep int) (fun s => s.nat = c.init)

/-! ## What an event says -/

/-- Two tuples of outgoing packets belong to one connection. -/
def NatConfig.SameConn (c : NatConfig) (t t' : ConnectionTuple) : Prop :=
  if c.type = .symNat then t = t' else t.sport = t'.sport

/-- Two tuples of ingoing packets are let through by the same outgoing ones. -/
def NatConfig.SameAnswer (c : NatConfig) (t t' : ConnectionTuple) : Prop :=
  match c.type with
  | .addrRNat => t.srcIp = t'.srcIp ∧ t.dstIp = t'.dstIp ∧ t.dport = t'.dport ∧ t.proto = t'.proto
  | .fullConeNat => False
  | _ => t = t'

namespace NatEvent

/-- The event used the connection of `t`, through external port `port`. -/
def Uses (c : NatConfig) (ev : NatEvent) (t : ConnectionTuple) (port : UInt16) : Prop :=
  ev.pkt.isIngoing = false ∧ c.dnatRules[ev.pkt.sport]? = none ∧
    c.SameConn (ConnectionTuple.ofPacket ev.pkt) t ∧ ∃ out, ev.out = some out ∧ out.sport = port

/-- The event opened the filter for ingoing packets with tuple `t`. -/
def Opens (c : NatConfig) (ev : NatEvent) (t : ConnectionTuple) : Prop :=
  ev.pkt.isIngoing = false ∧ ∃ out, ev.out = some out ∧ c.SameAnswer (NatFilter.answerTuple out) t

/-- How every outgoing packet fares: it is sent from the external address, and
keeps its source port where a rule concerns it or the type keeps ports. -/
def Sent (int : UInt32) (c : NatConfig) (ev : NatEvent) : Prop :=
  ev.pkt.srcIp = int ∧ ∃ port, ev.out = some (ev.pkt.withSource c.ipExt port) ∧
    (c.dnatRules[ev.pkt.sport]? ≠ none ∨ c.type ≠ .symNat → port = ev.pkt.sport)

/-- A connection that the event used lives on. -/
def Live (c : NatConfig) (now : Nat) (ev : NatEvent) : Prop :=
  ev.time ≤ now ∧ now < ev.time + c.lifetime

end NatEvent

/-- After the history `h`, the ingoing packet `pkt` goes on at `now` as `pkt'`:
by a rule for its destination port, or because it is let through and a live
event used an external port that is its destination port. -/
def Forwards (int : UInt32) (c : NatConfig) (h : List NatEvent) (now : Nat) (pkt pkt' : Packet) :
    Prop :=
  (∃ rule, c.dnatRules[pkt.dport]? = some rule ∧
    pkt' = pkt.withDestination rule.dstIp rule.dport) ∨
  c.dnatRules[pkt.dport]? = none ∧
    (c.type = .fullConeNat ∨
      ∃ ev ∈ h, ev.Live c now ∧ ev.Opens c (ConnectionTuple.ofPacket pkt)) ∧
    ∃ ev ∈ h, ev.Live c now ∧ ev.Uses c (ConnectionTuple.ofPacket ev.pkt) pkt.dport ∧
      pkt' = pkt.withDestination int ev.pkt.sport

/-- Some live event used the external port. -/
def InUse (c : NatConfig) (h : List NatEvent) (now : Nat) (port : UInt16) : Prop :=
  ∃ ev ∈ h, ev.Live c now ∧ ev.Uses c (ConnectionTuple.ofPacket ev.pkt) port

/-- After the history `h`, an outgoing packet with tuple `t` is sent at `now` from
external port `port`: from its source port where a rule concerns it or the type
keeps ports; otherwise from the port of its connection while that is live, and
from the first port not in use when it is new. -/
def SentFrom (c : NatConfig) (h : List NatEvent) (now : Nat) (t : ConnectionTuple)
    (port : UInt16) : Prop :=
  if c.dnatRules[t.sport]? ≠ none ∨ c.type ≠ .symNat then port = t.sport
  else (∃ ev ∈ h, ev.Live c now ∧ ev.Uses c t port) ∨
    (¬ ∃ p, ∃ ev ∈ h, ev.Live c now ∧ ev.Uses c t p) ∧
      FirstFree (InUse c h now) (· + 1) t.sport port

theorem NatConfig.SameConn.refl (c : NatConfig) (t : ConnectionTuple) : c.SameConn t t := by
  unfold NatConfig.SameConn
  split <;> rfl

theorem NatConfig.SameConn.sport {c : NatConfig} {t t' : ConnectionTuple} (h : c.SameConn t t') :
    t.sport = t'.sport := by
  unfold NatConfig.SameConn at h
  split at h
  · rw [h]
  · exact h

section Config
variable {int : UInt32} {c : NatConfig} {s : NatBox}

theorem NatBox.Valid.sameKey_iff (hv : s.Valid int c) (t t' : ConnectionTuple) :
    s.mapper.SameKey t t' ↔ c.SameConn t t' := by
  rw [Mapper.sameKey_iff, hv.isSym, NatConfig.SameConn]
  simp

theorem NatBox.Valid.sameTuple_iff (hv : s.Valid int c) (t t' : ConnectionTuple) :
    s.filter.SameTuple t t' ↔ c.SameAnswer t t' := by
  have hs := hv.serves
  unfold NatConfig.SameAnswer
  cases hf : s.filter with
  | portrSym f => rw [hf] at hs; rcases hs with h | h <;> rw [h] <;> rfl
  | addrr f => rw [hf] at hs; rw [show c.type = _ from hs]; rfl
  | fullcone f => rw [hf] at hs; rw [show c.type = _ from hs]; rfl

end Config

/-! ## The history explains both tables -/

/-- Some event of `h` at time `t` satisfies `P`. -/
def At {κ α : Type} (h : List NatEvent) (P : NatEvent → κ → α → Prop) (t : Nat) (k : κ) (v : α) :
    Prop := ∃ ev ∈ h, ev.time = t ∧ P ev k v

theorem at_cons {κ α : Type} {ev : NatEvent} {h : List NatEvent} {P : NatEvent → κ → α → Prop}
    {t : Nat} {k : κ} {v : α} :
    At (ev :: h) P t k v ↔ At h P t k v ∨ t = ev.time ∧ P ev k v := by
  simp only [At, List.exists_mem_cons_iff, eq_comm (a := t)]
  exact or_comm

/-- **The invariant of a run.** -/
structure NatInv (int : UInt32) (c : NatConfig) (h : List NatEvent) (s : NatSystem) : Prop where
  valid : s.nat.Valid int c
  mapped : Tracks c.lifetime s.clock s.nat.mapper.heldPort (At h (NatEvent.Uses c))
  opened : Tracks c.lifetime s.clock s.nat.filter.heldTuple
    (At h fun ev t (_ : Unit) => ev.Opens c t)
  sent : ∀ ev ∈ h, ev.pkt.isIngoing = false → ev.Sent int c

namespace NatInv
variable {int : UInt32} {c : NatConfig} {h : List NatEvent} {s s' : NatSystem} {ev : NatEvent}

theorem start {s : NatSystem} (hs : s.nat = c.init) : NatInv int c [] s := by
  obtain ⟨nat, clock⟩ := s
  obtain rfl : nat = c.init := hs
  have hmapped : ∀ t, c.init.mapper.heldPort t = none := by
    intro t
    obtain ⟨ipExt, ipInt, timeout, type, rules⟩ := c
    cases type <;> rfl
  have hopened : ∀ t, c.init.filter.heldTuple t = none := by
    intro t
    obtain ⟨ipExt, ipInt, timeout, type, rules⟩ := c
    cases type <;> rfl
  refine ⟨NatBox.valid_init int c, Tracks.empty.congr hmapped ?_, Tracks.empty.congr hopened ?_, ?_⟩
  · simp [At]
  · simp [At]
  · simp

/-- The clock moves on to `now`. -/
theorem expire (hI : NatInv int c h s) {now : Nat} (hle : s.clock ≤ now) :
    NatInv int c h ⟨s.nat.expire now, now⟩ where
  valid := hI.valid.expire now
  mapped := hI.mapped.expire hle fun k d v => hI.valid.mapper.heldPort_expire k d v
  opened := hI.opened.expire hle fun k d v => hI.valid.filter.heldTuple_expire k d v
  sent := hI.sent

/-- An ingoing packet is handled and leaves no trace but in the history. -/
theorem ingoing (hI : NatInv int c h s) (hin : ev.pkt.isIngoing = true) :
    NatInv int c (ev :: h) s where
  valid := hI.valid
  mapped := hI.mapped.congr (fun _ => rfl) fun t k v => by
    simp [at_cons, NatEvent.Uses, hin]
  opened := hI.opened.congr (fun _ => rfl) fun t k v => by
    simp [at_cons, NatEvent.Opens, hin]
  sent e he hout := by
    rcases List.mem_cons.mp he with rfl | he
    · rw [hin] at hout; cases hout
    · exact hI.sent e he hout

/-- An outgoing packet is sent from external port `port`. -/
theorem outgoing (hI : NatInv int c h s) (hout : ev.pkt.isIngoing = false)
    (hsrc : ev.pkt.srcIp = int) {port : UInt16} {nat' : NatBox}
    (hev : ev.out = some (ev.pkt.withSource c.ipExt port)) (hclock : s.clock = ev.time)
    (hs : s.nat.Sends int c ev.time ev.pkt port nat') : NatInv int c (ev :: h) ⟨nat', ev.time⟩ where
  valid := hs.valid
  mapped := by
    rw [← hclock]
    have htimeout : s.nat.mapper.base.connectionTimeout = c.connectionTimeout := by
      rw [hI.valid.base]; rfl
    by_cases hrule : c.dnatRules[ev.pkt.sport]? = none
    · have ht := hs.mapped hrule
      rw [← hclock] at ht
      refine hI.mapped.touch (fun k' d v' => ht.stable k' d v') (fun k' hk => ?_) ht.other ?_
      · rw [ht.same k' hk, htimeout, NatConfig.lifetime]
      · intro t k' v'
        rw [at_cons, hI.valid.sameKey_iff, hclock]
        simp [NatEvent.Uses, hout, hrule, hev, eq_comm]
    · refine hI.mapped.congr (fun k => by rw [(hs.ruled hrule).2]) fun t k v => ?_
      simp [at_cons, NatEvent.Uses, hrule]
  opened := by
    rw [← hclock]
    have ht := hs.opened
    rw [← hclock] at ht
    refine hI.opened.touch (v := ()) (fun _ _ _ _ _ => rfl) (fun k' hk => ?_) ht.other ?_
    · rw [ht.same k' hk, hI.valid.timeout, NatConfig.lifetime]
    · intro t k' v'
      rw [at_cons, hI.valid.sameTuple_iff, hclock]
      simp [NatEvent.Opens, hout, hev]
  sent e he hout' := by
    rcases List.mem_cons.mp he with rfl | he
    · refine ⟨hsrc, port, hev, fun hkeep => ?_⟩
      by_cases hrule : c.dnatRules[e.pkt.sport]? = none
      · refine (hs.mapped hrule).pinned ?_
        rw [hI.valid.isSym]
        rcases hkeep with hr | htype
        · exact absurd hrule hr
        · simpa using htype
      · exact (hs.ruled hrule).1
    · exact hI.sent e he hout'

/-- **Every step keeps the invariant.** -/
theorem step (hI : NatInv int c h s) (hs : NatStep int s ev s') : NatInv int c (ev :: h) s' := by
  obtain ⟨hle, hclock, hsrc, hstep⟩ := hs
  obtain ⟨nat', clock'⟩ := s'
  obtain rfl : clock' = ev.time := hclock
  have hI' := hI.expire hle
  cases hdir : ev.pkt.isIngoing with
  | true =>
    obtain ⟨r, hr, -⟩ := hI'.valid.handlePacket_ingoing hdir ev.time
    rw [NatBox.step, hr] at hstep
    obtain ⟨rfl, -⟩ := Prod.mk.inj (Option.some.inj hstep)
    exact hI'.ingoing hdir
  | false =>
    obtain ⟨port, hr, hsends⟩ := hI'.valid.handlePacket_outgoing hdir (hsrc hdir) hstep
    exact hI'.outgoing hdir (hsrc hdir) hr rfl hsends

end NatInv

namespace NatRun
variable {int : UInt32} {c : NatConfig} {h : List NatEvent} {s : NatSystem} {now : Nat}

/-- A run may begin with any packet that the new NAT handles. -/
theorem first (now : Nat) (pkt : Packet) (hsrc : pkt.isIngoing = false → pkt.srcIp = int)
    {r : NatBox × Option Packet} (hr : c.init.step now pkt = some r) :
    NatRun int c [⟨now, pkt, r.2⟩] ⟨r.1, now⟩ :=
  .step (.start (s := ⟨c.init, now⟩) rfl) ⟨Nat.le_refl _, rfl, hsrc, hr⟩

/-- A run goes on with any packet that the NAT handles. -/
theorem handle (run : NatRun int c h s) {now : Nat} (hle : s.clock ≤ now) (pkt : Packet)
    (hsrc : pkt.isIngoing = false → pkt.srcIp = int) {r : NatBox × Option Packet}
    (hr : s.nat.step now pkt = some r) : NatRun int c (⟨now, pkt, r.2⟩ :: h) ⟨r.1, now⟩ :=
  run.step ⟨hle, rfl, hsrc, hr⟩

/-- Nothing in the history is later than the clock. -/
theorem past (run : NatRun int c h s) : ∀ ev ∈ h, ev.time ≤ s.clock := by
  refine run.invariant (I := fun h s => ∀ ev ∈ h, ev.time ≤ s.clock) ?_ ?_
  · intro s _ ev hev
    cases hev
  · intro h s ev s' _ ih hs e he
    obtain ⟨hle, hclock, -, -⟩ := hs
    rcases List.mem_cons.mp he with rfl | he
    · omega
    · have := ih e he
      omega

/-- **Every run keeps the invariant.** -/
theorem inv (run : NatRun int c h s) : NatInv int c h s :=
  run.invariant (fun _ hs => NatInv.start hs) fun _ _ _ _ _ hI hs => hI.step hs

/-- What the mapper holds at `now`, by the history. -/
theorem heldPort_iff (run : NatRun int c h s) (hle : s.clock ≤ now) (t : ConnectionTuple)
    (port : UInt16) : (∃ d, (s.nat.expire now).mapper.heldPort t = some (d, port)) ↔
      ∃ ev ∈ h, ev.Live c now ∧ ev.Uses c t port := by
  have hI := run.inv.expire hle
  -- only deadlines that are still to come are left
  have hfresh : ∀ k d v, (s.nat.expire now).mapper.heldPort k = some (d, v) → now < d :=
    fun k d v hk => ((run.inv.valid.mapper.heldPort_expire k d v).mp hk).2
  rw [hI.mapped.holds_iff hfresh]
  constructor
  · rintro ⟨t', ⟨ev, hev, rfl, hu⟩, hlt⟩
    exact ⟨ev, hev, ⟨hI.mapped.past ⟨ev, hev, rfl, hu⟩, hlt⟩, hu⟩
  · rintro ⟨ev, hev, hlive, hu⟩
    exact ⟨ev.time, ⟨ev, hev, rfl, hu⟩, hlive.2⟩

/-- What the filter remembers at `now`, by the history. -/
theorem heldTuple_iff (run : NatRun int c h s) (hle : s.clock ≤ now) (t : ConnectionTuple) :
    (∃ d, (s.nat.expire now).filter.heldTuple t = some (d, ())) ↔
      ∃ ev ∈ h, ev.Live c now ∧ ev.Opens c t := by
  have hI := run.inv.expire hle
  have hfresh : ∀ k d v, (s.nat.expire now).filter.heldTuple k = some (d, v) → now < d :=
    fun k d v hk => ((run.inv.valid.filter.heldTuple_expire k d v).mp hk).2
  rw [hI.opened.holds_iff hfresh]
  constructor
  · rintro ⟨t', ⟨ev, hev, rfl, ho⟩, hlt⟩
    exact ⟨ev, hev, ⟨hI.opened.past (v := ()) ⟨ev, hev, rfl, ho⟩, hlt⟩, ho⟩
  · rintro ⟨ev, hev, hlive, ho⟩
    exact ⟨ev.time, ⟨ev, hev, rfl, ho⟩, hlive.2⟩

/-- The entry under an external port, by the history: some live event used that
port, and the entry leads to where that event came from. -/
theorem entryAt_iff (run : NatRun int c h s) (hle : s.clock ≤ now) (port : UInt16)
    (pkt pkt' : Packet) :
    (∃ e, (s.nat.expire now).mapper.entryAt port = some e ∧
        pkt' = pkt.withDestination e.intTuple.srcIp e.intTuple.sport) ↔
      ∃ ev ∈ h, ev.Live c now ∧ ev.Uses c (ConnectionTuple.ofPacket ev.pkt) port ∧
        pkt' = pkt.withDestination int ev.pkt.sport := by
  have hv := (run.inv.expire hle).valid
  constructor
  · rintro ⟨e, he, rfl⟩
    obtain ⟨hsrc, hheld⟩ := hv.mapper.entryAt_spec he
    obtain ⟨ev, hev, hlive, hout, hrule, hconn, hport⟩ := (run.heldPort_iff hle _ _).mp hheld
    refine ⟨ev, hev, hlive, ⟨hout, hrule, .refl c _, hport⟩, ?_⟩
    rw [hsrc, ← hconn.sport]
    rfl
  · rintro ⟨ev, hev, hlive, hu, rfl⟩
    obtain ⟨d, hheld⟩ := (run.heldPort_iff hle _ _).mpr ⟨ev, hev, hlive, hu⟩
    obtain ⟨e, he, hk, hsrc⟩ := hv.mapper.entryAt_of_held hheld
    refine ⟨e, he, ?_⟩
    rw [hsrc, hk.sport]
    rfl

/-- **What becomes of an ingoing packet is a question about the history.** -/
theorem step_ingoing (run : NatRun int c h s) (hle : s.clock ≤ now) {pkt : Packet}
    (hin : pkt.isIngoing = true) :
    ∃ r, s.nat.step now pkt = some (s.nat.expire now, r) ∧
      ∀ pkt', r = some pkt' ↔ Forwards int c h now pkt pkt' := by
  have hv := (run.inv.expire hle).valid
  obtain ⟨r, hr, hto⟩ := hv.handlePacket_ingoing hin now
  refine ⟨r, hr, fun pkt' => ?_⟩
  rw [hto, NatBox.Delivers, run.heldTuple_iff hle, run.entryAt_iff hle, Forwards]
  cases hrule : c.dnatRules[pkt.dport]? <;> simp

/-- The ports that entries hold are the ports in use. -/
theorem inUse_iff (run : NatRun int c h s) (hle : s.clock ≤ now) (port : UInt16) :
    (∃ e, (s.nat.expire now).mapper.entryAt port = some e) ↔ InUse c h now port := by
  have hiff := fun pkt' => run.entryAt_iff hle port (.ofAddresses true 0 0 0 0) pkt'
  constructor
  · rintro ⟨e, he⟩
    obtain ⟨ev, hev, hlive, hu, -⟩ := (hiff _).mp ⟨e, he, rfl⟩
    exact ⟨ev, hev, hlive, hu⟩
  · rintro ⟨ev, hev, hlive, hu⟩
    obtain ⟨e, he, -⟩ := (hiff _).mpr ⟨ev, hev, hlive, hu, rfl⟩
    exact ⟨e, he⟩

/-- The port that an outgoing packet is sent from, by the history. -/
theorem sentFrom_of_sends (run : NatRun int c h s) (hle : s.clock ≤ now) {pkt : Packet}
    {port : UInt16} {nat' : NatBox} (hs : (s.nat.expire now).Sends int c now pkt port nat') :
    SentFrom c h now (ConnectionTuple.ofPacket pkt) port := by
  have hv := (run.inv.expire hle).valid
  unfold SentFrom
  by_cases hrule : c.dnatRules[pkt.sport]? = none
  · have ht := hs.mapped hrule
    by_cases htype : c.type = .symNat
    · have hsym : (s.nat.expire now).mapper.isSym = true := by rw [hv.isSym, htype]; rfl
      rw [if_neg (by simp [ConnectionTuple.ofPacket, hrule, htype])]
      -- a live connection keeps its port, a new one gets the first that is free
      cases hheld : (s.nat.expire now).mapper.heldPort (ConnectionTuple.ofPacket pkt) with
      | some dv =>
        obtain ⟨d, v⟩ := dv
        have hv' := ht.stable _ d v (.refl _ _) hheld
        rw [hv'] at hheld
        exact Or.inl ((run.heldPort_iff hle _ _).mp ⟨d, hheld⟩)
      | none =>
        refine Or.inr ⟨?_, ?_⟩
        · rintro ⟨p, hu⟩
          obtain ⟨d, hd⟩ := (run.heldPort_iff hle _ _).mpr hu
          rw [hheld] at hd
          cases hd
        · have hfree := (hv.mapper.newPort_iff hsym _ _).mp (ht.chosen hheld)
          simpa only [FirstFree, run.inUse_iff hle] using hfree
    · rw [if_pos (Or.inr htype)]
      exact ht.pinned (by rw [hv.isSym]; simpa using htype)
  · have hkeep : c.dnatRules[(ConnectionTuple.ofPacket pkt).sport]? ≠ none := hrule
    rw [if_pos (Or.inl hkeep)]
    exact (hs.ruled hrule).1

theorem sentFrom_unique (run : NatRun int c h s) (hle : s.clock ≤ now) {t : ConnectionTuple}
    {port port' : UInt16} (hp : SentFrom c h now t port) (hp' : SentFrom c h now t port') :
    port = port' := by
  unfold SentFrom at hp hp'
  split at hp
  · rename_i hkeep
    rw [if_pos hkeep] at hp'
    rw [hp, hp']
  · rename_i hkeep
    rw [if_neg hkeep] at hp'
    rcases hp with hu | ⟨hnew, hfree⟩ <;> rcases hp' with hu' | ⟨hnew', hfree'⟩
    · obtain ⟨d, hd⟩ := (run.heldPort_iff hle _ _).mpr hu
      obtain ⟨d', hd'⟩ := (run.heldPort_iff hle _ _).mpr hu'
      rw [hd] at hd'
      exact (Prod.mk.inj (Option.some.inj hd')).2
    · exact absurd ⟨_, hu⟩ hnew'
    · exact absurd ⟨_, hu'⟩ hnew
    · exact hfree.unique hfree'

/-- **What becomes of an outgoing packet is a question about the history.** -/
theorem step_outgoing (run : NatRun int c h s) (hle : s.clock ≤ now) {pkt : Packet}
    (hout : pkt.isIngoing = false) (hsrc : pkt.srcIp = int) (port : UInt16) :
    (∃ nat', s.nat.step now pkt = some (nat', some (pkt.withSource c.ipExt port))) ↔
      SentFrom c h now (ConnectionTuple.ofPacket pkt) port := by
  have hv := (run.inv.expire hle).valid
  have hto : ∀ {nat' r}, s.nat.step now pkt = some (nat', r) → ∃ p,
      r = some (pkt.withSource c.ipExt p) ∧ SentFrom c h now (ConnectionTuple.ofPacket pkt) p := by
    intro nat' r h
    obtain ⟨p, hr, hsends⟩ := hv.handlePacket_outgoing hout hsrc h
    exact ⟨p, hr, run.sentFrom_of_sends hle hsends⟩
  constructor
  · rintro ⟨nat', h⟩
    obtain ⟨p, hr, hp⟩ := hto h
    rwa [show port = p from congrArg ParentPacket.sport
      (congrArg Packet.toParentPacket (Option.some.inj hr))]
  · intro hp
    cases hstep : s.nat.step now pkt with
    | some r =>
      obtain ⟨p, hr, hp'⟩ := hto hstep
      rw [run.sentFrom_unique hle hp hp', ← hr]
      exact ⟨r.1, rfl⟩
    | none =>
      have hmap := NatBox.mapPacket_of_handlePacket_eq_none hout hstep
      obtain ⟨hheld, hnew⟩ := Mapper.mapPacket_eq_none hmap
      -- the search for a port never ends only if all are taken, and then none is the first free
      have hfull := hv.mapper.exists_entryAt hnew
      unfold SentFrom at hp
      split at hp
      · rename_i hkeep
        exact absurd hmap (hv.mapPacket_ne_none hout hkeep)
      · rcases hp with hu | ⟨-, hfree⟩
        · obtain ⟨d, hd⟩ := (run.heldPort_iff hle _ _).mpr hu
          rw [hheld] at hd
          cases hd
        · exact absurd ((run.inUse_iff hle _).mp (hfull _)) hfree.1

end NatRun
end ShapingRouter
