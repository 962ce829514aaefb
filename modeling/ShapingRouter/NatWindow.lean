import Mathlib
import ShapingRouter.NatHistory

/-! # What the NAT still remembers

Nothing that is a timeout old can be told from what never happened.  Two runs
of NATs of one configuration, which may have come about in any way, have the
same window at `now` when the outgoing packets less than the timeout old are the
same; then whatever one of the NATs does from `now` on, packet by packet, the
other does too (`nat_forgets`).  Ingoing packets are no part of the window, so
they never change what becomes of a packet, and after a silence of the timeout
the NAT is as good as new.
-/

namespace ShapingRouter
open Library Std

/-- The outgoing packets of `h` and `h'` that are live at `now` are the same. -/
def SameWindow (c : NatConfig) (now : Nat) (h h' : List NatEvent) : Prop :=
  ∀ ev : NatEvent, ev.Live c now → ev.pkt.isIngoing = false → (ev ∈ h ↔ ev ∈ h')

namespace SameWindow
variable {int : UInt32} {c : NatConfig} {now : Nat} {h h' : List NatEvent}

theorem symm (hw : SameWindow c now h h') : SameWindow c now h' h :=
  fun ev hlive hout => (hw ev hlive hout).symm

/-- The window stays the same while time passes and the same packets are handled. -/
theorem later (hw : SameWindow c now h h') (hpast : ∀ ev ∈ h, ev.time ≤ now)
    (hpast' : ∀ ev ∈ h', ev.time ≤ now) {now' : Nat} (hle : now ≤ now') (l : List NatEvent) :
    SameWindow c now' (l ++ h) (l ++ h') := by
  intro ev hlive hout
  -- an old event that is live later on has been live all the time since
  have hback : ev.time ≤ now → ev.Live c now := by
    intro htime
    have := hlive.2
    exact ⟨htime, by omega⟩
  rw [List.mem_append, List.mem_append]
  refine or_congr_right ⟨fun hev => ?_, fun hev => ?_⟩
  · exact (hw ev (hback (hpast ev hev)) hout).mp hev
  · exact (hw ev (hback (hpast' ev hev)) hout).mpr hev

/-- A live event that is outgoing is found in both histories. -/
theorem exists_iff (hw : SameWindow c now h h') {P : NatEvent → Prop}
    (hP : ∀ ev, P ev → ev.pkt.isIngoing = false) :
    (∃ ev ∈ h, ev.Live c now ∧ P ev) ↔ ∃ ev ∈ h', ev.Live c now ∧ P ev := by
  constructor
  · rintro ⟨ev, hev, hlive, hp⟩
    exact ⟨ev, (hw ev hlive (hP ev hp)).mp hev, hlive, hp⟩
  · rintro ⟨ev, hev, hlive, hp⟩
    exact ⟨ev, (hw ev hlive (hP ev hp)).mpr hev, hlive, hp⟩

theorem forwards_iff (hw : SameWindow c now h h') (pkt pkt' : Packet) :
    Forwards int c h now pkt pkt' ↔ Forwards int c h' now pkt pkt' := by
  unfold Forwards
  rw [hw.exists_iff (P := fun ev => ev.Opens c (ConnectionTuple.ofPacket pkt)) fun _ ho => ho.1,
    hw.exists_iff (P := fun ev => ev.Uses c (ConnectionTuple.ofPacket ev.pkt) pkt.dport ∧
      pkt' = pkt.withDestination int ev.pkt.sport) fun _ hu => hu.1.1]

theorem inUse_iff (hw : SameWindow c now h h') (port : UInt16) :
    InUse c h now port ↔ InUse c h' now port :=
  hw.exists_iff (P := fun ev => ev.Uses c (ConnectionTuple.ofPacket ev.pkt) port) fun _ hu => hu.1

theorem sentFrom_iff (hw : SameWindow c now h h') (t : ConnectionTuple) (port : UInt16) :
    SentFrom c h now t port ↔ SentFrom c h' now t port := by
  have huses : ∀ p, (∃ ev ∈ h, ev.Live c now ∧ ev.Uses c t p) ↔
      ∃ ev ∈ h', ev.Live c now ∧ ev.Uses c t p :=
    fun p => hw.exists_iff (P := fun ev => ev.Uses c t p) fun _ hu => hu.1
  have hfree : InUse c h now = InUse c h' now := funext fun p => propext (hw.inUse_iff p)
  unfold SentFrom
  simp only [huses, hfree]

end SameWindow

namespace NatRun
variable {int : UInt32} {c : NatConfig} {h h' : List NatEvent} {s s' : NatSystem} {now : Nat}

/-- **One packet is handled alike** by two NATs with the same window. -/
theorem step_alike (run : NatRun int c h s) (run' : NatRun int c h' s') {ev : NatEvent}
    {s₁ : NatSystem} (hs : NatStep int s ev s₁) (hclock' : s'.clock ≤ ev.time)
    (hw : SameWindow c ev.time h h') : ∃ s₁', NatStep int s' ev s₁' := by
  obtain ⟨hclock, -, hsrc, hstep⟩ := hs
  obtain ⟨time, pkt, out⟩ := ev
  cases hdir : pkt.isIngoing with
  | true =>
    obtain ⟨r, hr, hto⟩ := run.step_ingoing hclock hdir
    obtain ⟨r', hr', hto'⟩ := run'.step_ingoing hclock' hdir
    obtain rfl : r = out := (Prod.mk.inj (Option.some.inj (hr.symm.trans hstep))).2
    -- both go on as the same packets, or not at all
    have heq : r' = r := by
      refine Option.ext fun pkt' => ?_
      rw [hto', hto]
      exact (hw.forwards_iff pkt pkt').symm
    rw [heq] at hr'
    exact ⟨⟨_, time⟩, hclock', rfl, hsrc, hr'⟩
  | false =>
    obtain ⟨port, hr, hsends⟩ :=
      ((run.inv.expire hclock).valid).handlePacket_outgoing hdir (hsrc hdir) hstep
    obtain rfl : out = some (pkt.withSource c.ipExt port) := hr
    have hfrom := (hw.sentFrom_iff _ port).mp (run.sentFrom_of_sends hclock hsends)
    obtain ⟨nat', hr'⟩ := (run'.step_outgoing hclock' hdir (hsrc hdir) port).mpr hfrom
    exact ⟨⟨nat', time⟩, hclock', rfl, hsrc, hr'⟩

/-- What happens after a run, packet by packet: nothing at first. -/
theorem rests (_ : NatRun int c h s) : Run (NatStep int) (· = s) [] s := .start rfl

theorem goesOn {l : List NatEvent} {s₁ : NatSystem} (next : Run (NatStep int) (· = s) l s₁)
    (hle : s₁.clock ≤ now) (pkt : Packet) (hsrc : pkt.isIngoing = false → pkt.srcIp = int)
    {r : NatBox × Option Packet} (hr : s₁.nat.step now pkt = some r) :
    Run (NatStep int) (· = s) (⟨now, pkt, r.2⟩ :: l) ⟨r.1, now⟩ :=
  next.step ⟨hle, rfl, hsrc, hr⟩

end NatRun

/-- **The NAT remembers its window and nothing else**: if the live outgoing
packets of two runs are the same at `now`, whatever the first NAT does from then
on the second does too. -/
theorem nat_forgets {int : UInt32} {c : NatConfig} {h h' l : List NatEvent} {s s' s₁ : NatSystem}
    (run : NatRun int c h s) (run' : NatRun int c h' s') {now : Nat} (hle : s.clock ≤ now)
    (hle' : s'.clock ≤ now) (hw : SameWindow c now h h')
    (next : Run (NatStep int) (· = s) l s₁) (hnow : ∀ ev ∈ l, now ≤ ev.time) :
    ∃ s₁', Run (NatStep int) (· = s') l s₁' := by
  have hpast : ∀ ev ∈ h, ev.time ≤ now := fun ev hev => Nat.le_trans (run.past ev hev) hle
  have hpast' : ∀ ev ∈ h', ev.time ≤ now := fun ev hev => Nat.le_trans (run'.past ev hev) hle'
  suffices key : ∃ s₁', Run (NatStep int) (· = s') l s₁' ∧
      ∀ t, now ≤ t → s₁.clock ≤ t → s₁'.clock ≤ t by
    obtain ⟨s₁', next', -⟩ := key
    exact ⟨s₁', next'⟩
  induction next with
  | start hs => exact ⟨s', .start rfl, fun t ht _ => Nat.le_trans hle' ht⟩
  | @step l s₁ s₂ ev next hs ih =>
    obtain ⟨s₁', next', hclock⟩ := ih fun e he => hnow e (List.mem_cons_of_mem _ he)
    have hev := hnow ev List.mem_cons_self
    obtain ⟨s₂', hs'⟩ := NatRun.step_alike (run.trans next) (run'.trans next') hs
      (hclock ev.time hev hs.1) (hw.later hpast hpast' hev l)
    refine ⟨s₂', next'.step hs', fun t _ ht => ?_⟩
    rw [hs'.2.1, ← hs.2.1]
    exact ht

/-- A port restricted NAT that has been silent for its timeout of ten seconds, and
a new one: the packet that both let in answers one sent after the silence. -/
theorem nat_forgets_silence :
    ∃ h s l s₁ s₁', NatRun 1 { ipExt := 9, ipInt := 1, connectionTimeout := 10 } h s ∧ h ≠ [] ∧
      Run (NatStep 1) (· = s) l s₁ ∧ l.length = 2 ∧
      Run (NatStep 1) (· = ⟨NatConfig.init { ipExt := 9, ipInt := 1, connectionTimeout := 10 }, 0⟩)
        l s₁' := by
  have run : NatRun 1 { ipExt := 9, ipInt := 1, connectionTimeout := 10 } _ _ :=
    .first 0 (.ofAddresses false 1 7 5 80) (fun _ => rfl) rfl
  have new : NatRun 1 { ipExt := 9, ipInt := 1, connectionTimeout := 10 } []
      ⟨NatConfig.init { ipExt := 9, ipInt := 1, connectionTimeout := 10 }, 0⟩ := .start rfl
  have sent := NatRun.goesOn run.rests (by decide : _ ≤ 10 * 10 ^ 9)
    (.ofAddresses false 1 8 6 80) (fun _ => rfl) rfl
  have answered := NatRun.goesOn sent (by decide : _ ≤ 12 * 10 ^ 9) (.ofAddresses true 8 9 80 6)
    (fun h => by cases h) rfl
  obtain ⟨s₁', next'⟩ := nat_forgets run new (by decide : _ ≤ 10 * 10 ^ 9) (by decide)
    (fun ev hlive _ => ⟨fun hev => by
      obtain rfl := List.mem_singleton.mp hev
      exact absurd hlive.2 (by decide), fun hev => by cases hev⟩)
    answered (by decide)
  exact ⟨_, _, _, _, s₁', run, List.cons_ne_nil _ _, answered, rfl, next'⟩

/-- **Ingoing packets leave no trace**: take any ingoing packets out of what was
handled, and every packet that is left, of either direction, fares as it did. -/
theorem ingoing_leave_no_trace {int : UInt32} {c : NatConfig} {h : List NatEvent} {s : NatSystem}
    (run : NatRun int c h s) (keep : NatEvent → Bool)
    (hkeep : ∀ ev, ev.pkt.isIngoing = false → keep ev = true) :
    ∃ s', NatRun int c (h.filter keep) s' := by
  suffices key : ∃ s', NatRun int c (h.filter keep) s' ∧ s'.clock ≤ s.clock by
    obtain ⟨s', run', -⟩ := key
    exact ⟨s', run'⟩
  induction run with
  | @start s hs => exact ⟨s, .start hs, Nat.le_refl _⟩
  | @step h s s₁ ev run hs ih =>
    obtain ⟨s', run', hclock⟩ := ih
    have hev : s'.clock ≤ ev.time := Nat.le_trans hclock hs.1
    cases hk : keep ev with
    | false =>
      rw [List.filter_cons_of_neg (by simp [hk])]
      exact ⟨s', run', by rw [hs.2.1]; exact hev⟩
    | true =>
      have hw : SameWindow c ev.time h (h.filter keep) := by
        intro e _ hout
        rw [List.mem_filter, and_iff_left (hkeep e hout)]
      obtain ⟨s₁', hs'⟩ := NatRun.step_alike run run' hs hev hw
      rw [List.filter_cons_of_pos hk]
      exact ⟨s₁', run'.step hs', by rw [hs'.2.1, hs.2.1]⟩

/-- A packet from outside that is let in, one that is not, and the run without them. -/
theorem ingoing_leave_no_trace_refused :
    ∃ h s s', NatRun 1 { ipExt := 9, ipInt := 1, connectionTimeout := 10 } h s ∧ h.length = 3 ∧
      NatRun 1 { ipExt := 9, ipInt := 1, connectionTimeout := 10 }
        (h.filter fun ev => ev.pkt.isIngoing = false) s' := by
  have sent : NatRun 1 { ipExt := 9, ipInt := 1, connectionTimeout := 10 } _ _ :=
    .first 0 (.ofAddresses false 1 7 5 80) (fun _ => rfl) rfl
  have refused := sent.handle (by decide : _ ≤ 1) (.ofAddresses true 8 9 80 5)
    (fun h => by cases h) rfl
  have run := refused.handle (by decide : _ ≤ 2) (.ofAddresses true 7 9 80 5)
    (fun h => by cases h) rfl
  obtain ⟨s', run'⟩ := ingoing_leave_no_trace run (fun ev => ev.pkt.isIngoing = false)
    fun ev hout => by simpa using hout
  exact ⟨_, _, s', run, rfl, run'⟩

end ShapingRouter
