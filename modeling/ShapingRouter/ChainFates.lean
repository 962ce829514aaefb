import Mathlib
import ShapingRouter.ChainPlaces

/-! # What becomes of a packet

No packet vanishes: every packet that came in is in the chain, or left it, or the filter
that was handed it last let go of it, and that can only be a filter that drops packets at
random, a NAT, or a token bucket (`Fate`).  In accept mode the verdict tells which: the
packets that left were accepted and those dropped at random were dropped, each once; the
packets in the chain have had no verdict, and those that a NAT or a bucket let go of will
never have one, so that the kernel keeps them.
-/

namespace ShapingRouter
open Library

/-- The packet has had no verdict. -/
def PacketPool.Unsettled (w : PacketPool) (p : PacketPtr) : Prop :=
  w.isSettled p = false ∧ w.verdictsOf p = []

namespace LockedChain
variable {s s' : LockedChain} {acceptMode : Bool} {L : List RouterFilter} {h : List LockedEvent}
  {e : LockedEvent} {p : PacketPtr}

/-- The filter at `i` was the last one that was handed the packet. -/
def LastHanded (h : List LockedEvent) (p : PacketPtr) (i : Nat) : Prop :=
  ∃ h₁ h₂ t r now, h = h₂ ++ .run t (.handle i p) r now :: h₁ ∧
    ∀ t' j r' now', .run t' (.handle j p) r' now' ∉ h₂

/-- What has become of a packet. -/
inductive Fate (acceptMode : Bool) (L : List RouterFilter) (h : List LockedEvent)
    (s : LockedChain) (p : PacketPtr) : Prop
  | toCome : s.pool.packets.next ≤ p → (acceptMode = true → s.pool.Unsettled p) →
      Fate acceptMode L h s p
  | inside : p ∈ s.inside → p ∉ exits acceptMode L h →
      (acceptMode = true → s.pool.Unsettled p) → Fate acceptMode L h s p
  | left : p ∉ s.inside → p ∈ exits acceptMode L h →
      (acceptMode = true → s.pool.SettledOnce p .NF_ACCEPT) → Fate acceptMode L h s p
  | dropped (i : Nat) (f : RouterFilter) : p ∉ s.inside → p ∉ exits acceptMode L h →
      L[i]? = some f → f.cls = .Loss ∨ f.cls = .DynamicLoss → LastHanded h p (i + 1) →
      (acceptMode = true → s.pool.SettledOnce p .NF_DROP) → Fate acceptMode L h s p
  | refused (i : Nat) (f : RouterFilter) : p ∉ s.inside → p ∉ exits acceptMode L h →
      L[i]? = some f → f.cls = .Nat ∨ f.cls = .TokenBucketFilter → LastHanded h p (i + 1) →
      (acceptMode = true → s.pool.Unsettled p) → Fate acceptMode L h s p

/-! ## One step -/

/-- Who hands on a packet has it. -/
theorem mem_inside_of_handle {t i : Nat} {r : ℚ} {now : Nat}
    (hs : s.step (.run t (.handle i p) r now) = some s') : p ∈ s.inside := by
  cases step_cases hs with
  | run r now ht hc =>
    have hat : s.At i p := Or.inl ⟨_, List.mem_of_getElem? ht, _, List.mem_cons_self, rfl,
      List.mem_singleton.mpr rfl⟩
    exact hat.mem_inside

theorem LastHanded.cons {i : Nat} (hlast : LastHanded h p i)
    (he : ∀ t j r now, e ≠ .run t (.handle j p) r now) : LastHanded (e :: h) p i := by
  obtain ⟨h₁, h₂, t, r, now, rfl, hnot⟩ := hlast
  refine ⟨h₁, e :: h₂, t, r, now, rfl, fun t' j r' now' hmem => ?_⟩
  rcases List.mem_cons.mp hmem with heq | hmem
  · exact he t' j r' now' heq.symm
  · exact hnot t' j r' now' hmem

/-- What a packet has had for a verdict stays. -/
theorem StepCases.settledOnce (run : Runs acceptMode L h s) (hc : StepCases s e s')
    {v : NfVerdict} (hv : s.pool.SettledOnce p v) : s'.pool.SettledOnce p v := by
  rcases hc.keeps with ⟨pkt, -, hpool⟩ | ⟨q, hkeeps⟩
  · obtain ⟨hset, pkt', hpkt', hverdicts⟩ := hv
    have hlt : p < s.pool.packets.next := (run.alive p).mp (by rw [hpkt']; rfl)
    have hobj : s'.pool.packets.objects p = s.pool.packets.objects p := by
      rw [hpool]
      simp [PacketPool.add, Heap.alloc, Nat.ne_of_lt hlt]
    refine ⟨?_, pkt', hobj.trans hpkt', ?_⟩
    · simpa only [PacketPool.isSettled, hobj] using hset
    · rw [hpool]
      exact hverdicts
  · exact hv.keeps hkeeps

/-- A step that neither takes the packet in nor lets go of it. -/
theorem Fate.stays (hF : Fate acceptMode L h s p) (run : Runs acceptMode L h s)
    (hs : s.step e = some s') (hnext : s.pool.packets.next ≤ p → s'.pool.packets.next ≤ p)
    (hinside : p ∈ s'.inside ↔ p ∈ s.inside) (hexit : p ∉ exit acceptMode L e)
    (hun : acceptMode = true → s.pool.Unsettled p → s'.pool.Unsettled p) :
    Fate acceptMode L (e :: h) s' p := by
  have hexits : p ∈ exits acceptMode L (e :: h) ↔ p ∈ exits acceptMode L h := by
    rw [exits_cons, List.mem_append, or_iff_left hexit]
  -- a packet that is not in the chain is not handed on
  have hother : p ∉ s.inside → ∀ t j r now, e ≠ .run t (.handle j p) r now := by
    rintro hnot t j r now rfl
    exact hnot (mem_inside_of_handle hs)
  cases hF with
  | toCome hle hv => exact .toCome (hnext hle) fun hmode => hun hmode (hv hmode)
  | inside hin hout hv =>
    exact .inside (hinside.mpr hin) (mt hexits.mp hout) fun hmode => hun hmode (hv hmode)
  | left hin hout hv =>
    exact .left (mt hinside.mp hin) (hexits.mpr hout) fun hmode =>
      (step_cases hs).settledOnce run (hv hmode)
  | dropped i f hin hout hf hcls hlast hv =>
    exact .dropped i f (mt hinside.mp hin) (mt hexits.mp hout) hf hcls
      (hlast.cons (hother hin)) fun hmode =>
        (step_cases hs).settledOnce run (hv hmode)
  | refused i f hin hout hf hcls hlast hv =>
    exact .refused i f (mt hinside.mp hin) (mt hexits.mp hout) hf hcls
      (hlast.cons (hother hin)) fun hmode => hun hmode (hv hmode)

/-- A filter has had the packet `q` in its hands: the other packets are as they were. -/
theorem unsettled_of_keeps {q : PacketPtr} (hkeeps : s.pool.Keeps q s'.pool) (hpq : p ≠ q)
    (hun : s.pool.Unsettled p) : s'.pool.Unsettled p := by
  obtain ⟨hset, hverdicts⟩ := hkeeps.others p hpq
  exact ⟨hset.trans hun.1, hverdicts.trans hun.2⟩

/-- A filter that lets go of a packet has had it in its hands. -/
theorem LetsGo.keeps {q : PacketPtr} {f : RouterFilter} {w : PacketPool} {i : Nat}
    (hgo : LetsGo s q w f) (hstaged : s.Staged) (hi : s.filters[i]? = some f) :
    s.pool.Keeps q w := by
  cases hgo with
  | accepted hcls hpool => exact hpool ▸ s.pool.keeps_setVerdict q true
  | dropped hcls hpool => exact hpool ▸ s.pool.keeps_setVerdict q false
  | refused hcls hpool => exact hpool ▸ .refl _ _
  | closed stage hstage hclosed =>
    subst hstage
    exact absurd (hstaged i stage hi).1 hclosed

/-- The packet that comes is in the chain, and has had no verdict. -/
theorem Runs.fate_arrive (run : Runs acceptMode L h s) {pkt : Packet}
    (hs : s.step (.arrive pkt) = some s') (hF : Fate acceptMode L h s s.pool.packets.next) :
    Fate acceptMode L (.arrive pkt :: h) s' s.pool.packets.next := by
  have hnone : acceptMode = true → s.pool.verdictsOf s.pool.packets.next = [] := by
    intro hmode
    cases hF with
    | toCome _ hv | refused _ _ _ _ _ _ _ hv => exact (hv hmode).2
    | inside hin => exact absurd (run.inside_lt hin) (Nat.lt_irrefl _)
    | left _ hout => exact absurd (run.exits_lt hout) (Nat.lt_irrefl _)
    | dropped _ _ _ _ _ _ _ hv =>
      obtain ⟨-, pkt', hpkt', -⟩ := hv hmode
      exact absurd ((run.alive _).mp (by rw [hpkt']; rfl)) (Nat.lt_irrefl _)
  cases step_cases hs with
  | arrive pkt hset hidle =>
    have hat : At { s with
        pool := s.pool.add pkt.toParentPacket
        headers := Function.update s.headers s.pool.packets.next pkt
        threads := s.threads.set 0 [.handle 0 s.pool.packets.next] } 0 s.pool.packets.next :=
      Or.inl ⟨_, List.mem_of_getElem? (List.getElem?_set_self
        (List.getElem?_eq_some_iff.mp hidle).1), _, List.mem_cons_self, rfl,
        List.mem_singleton.mpr rfl⟩
    refine .inside hat.mem_inside ?_ fun hmode => ⟨?_, hnone hmode⟩
    · have hexit : exit acceptMode L (.arrive pkt) = [] := rfl
      rw [exits_cons, hexit, List.append_nil]
      exact fun hout => Nat.lt_irrefl _ (run.exits_lt hout)
    · simp [PacketPool.isSettled, PacketPool.add, Heap.alloc, hset]

/-- Another packet than the one that the filter has let go of. -/
theorem Fate.of_ne (hF : Fate acceptMode L h s p) (run : Runs acceptMode L h s)
    (hs : s.step e = some s') {q : PacketPtr} (hpq : p ≠ q) (hkeeps : s.pool.Keeps q s'.pool)
    (hcount : s'.inside + {q} = s.inside) (hexit : p ∉ exit acceptMode L e) :
    Fate acceptMode L (e :: h) s' p := by
  refine hF.stays run hs (fun hle => hkeeps.next.trans_le hle) ?_ hexit
    fun _ => unsettled_of_keeps hkeeps hpq
  rw [← hcount, Multiset.mem_add, Multiset.mem_singleton, or_iff_left hpq]

/-- A packet that is in the chain is there once. -/
theorem Runs.not_mem_of_gone (run : Runs acceptMode L h s) (hp : p ∈ s.inside)
    (hcount : s'.inside + {p} = s.inside) :
    p ∉ s'.inside ∧ p ∉ exits acceptMode L h := by
  have hone := run.once p
  have hpos := Multiset.count_pos.mpr hp
  have hsum := congrArg (Multiset.count p) hcount
  rw [Multiset.count_add, Multiset.count_singleton_self] at hsum
  refine ⟨fun hin => ?_, fun hout => ?_⟩
  · have := Multiset.count_pos.mpr hin
    omega
  · have := List.count_pos_iff.mpr hout
    omega

/-- A packet that is in the chain has had no verdict in accept mode. -/
theorem Fate.unsettled (hF : Fate acceptMode L h s p) (run : Runs acceptMode L h s)
    (hin : p ∈ s.inside) (hmode : acceptMode = true) : s.pool.Unsettled p := by
  cases hF with
  | toCome hle _ => exact absurd (run.inside_lt hin) (Nat.not_lt.mpr hle)
  | inside _ _ hv => exact hv hmode
  | left hnot | dropped _ _ hnot | refused _ _ hnot => exact absurd hin hnot

/-- A filter gives the packet in its hands a verdict. -/
theorem Fate.settledOnce (hF : Fate acceptMode L h s p) (run : Runs acceptMode L h s)
    (hin : p ∈ s.inside) {accept : Bool} (hpool : s'.pool = s.pool.setVerdict p accept)
    (hmode : acceptMode = true) :
    s'.pool.SettledOnce p (if accept then .NF_ACCEPT else .NF_DROP) := by
  obtain ⟨hset, hverdicts⟩ := hF.unsettled run hin hmode
  have halive : (s.pool.packets.objects p).isSome := (run.alive p).mpr (run.inside_lt hin)
  rw [hpool]
  exact PacketPool.settledOnce_setVerdict halive hset hverdicts accept

/-- A step in which no packet is let go of. -/
theorem Fate.moves (hF : Fate acceptMode L h s p) (run : Runs acceptMode L h s)
    (hs : s.step e = some s')
    (hcount : s'.inside + exit acceptMode L e = s.inside + LockedEvent.come s e)
    (hmode : acceptMode = true → exit acceptMode L e = [] ∧
      ∀ q, (∀ pkt, e = .arrive pkt → q ≠ s.pool.packets.next) → SameVerdicts s s' q) :
    Fate acceptMode L (e :: h) s' p := by
  by_cases hnew : (∃ pkt, e = .arrive pkt) ∧ p = s.pool.packets.next
  · obtain ⟨⟨pkt, rfl⟩, rfl⟩ := hnew
    exact run.fate_arrive hs hF
  have hcome : (LockedEvent.come s e).count p = 0 := by
    cases e with
    | arrive pkt =>
      rw [LockedEvent.come, Multiset.count_singleton, if_neg fun heq => hnew ⟨⟨pkt, rfl⟩, heq⟩]
    | run | task => rfl
  have hsum := congrArg (Multiset.count p) hcount
  rw [Multiset.count_add, Multiset.count_add, hcome, Multiset.coe_count] at hsum
  by_cases hx : p ∈ exit acceptMode L e
  · -- it leaves the chain, which it was in once
    have hone := run.once p
    have hpos := List.count_pos_iff.mpr hx
    refine .left (fun hin => ?_) ?_ fun haccept => ?_
    · have := Multiset.count_pos.mpr hin
      omega
    · rw [exits_cons]
      exact List.mem_append_right _ hx
    · rw [(hmode haccept).1] at hx
      cases hx
  · have hzero := List.count_eq_zero_of_not_mem hx
    refine hF.stays run hs (fun hle => ?_) ?_ hx fun haccept hun => ?_
    · rcases (step_cases hs).keeps with ⟨pkt, he, hpool⟩ | ⟨q, hkeeps⟩
      · rw [hpool]
        exact Nat.lt_of_le_of_ne hle fun heq => hnew ⟨⟨pkt, he⟩, heq.symm⟩
      · exact hkeeps.next.trans_le hle
    · rw [← Multiset.count_pos, ← Multiset.count_pos]
      omega
    · obtain ⟨hset, hverdicts⟩ :=
        (hmode haccept).2 p fun pkt he hp => hnew ⟨⟨pkt, he⟩, hp⟩
      exact ⟨hset.trans hun.1, hverdicts.trans hun.2⟩

/-- A filter that lets go of a packet, and is not `Output`, is listed, and drops or refuses
it. -/
theorem LetsGo.listed (run : Runs acceptMode L h s) {q : PacketPtr} {w : PacketPool}
    {f : RouterFilter} {i : Nat} (hgo : LetsGo s q w f) (hi : s.filters[i]? = some f)
    (hcls : f.cls ≠ .Output) :
    ∃ j g, i = j + 1 ∧ L[j]? = some g ∧
      ((g.cls = .Loss ∨ g.cls = .DynamicLoss) ∧ w = s.pool.setVerdict q false ∨
        (g.cls = .Nat ∨ g.cls = .TokenBucketFilter) ∧ w = s.pool) := by
  have hgone : (f.cls = .Loss ∨ f.cls = .DynamicLoss) ∧ w = s.pool.setVerdict q false ∨
      (f.cls = .Nat ∨ f.cls = .TokenBucketFilter) ∧ w = s.pool := by
    cases hgo with
    | accepted haccepted => exact absurd haccepted hcls
    | dropped hcls hpool => exact Or.inl ⟨hcls, hpool⟩
    | refused hcls hpool => exact Or.inr ⟨hcls, hpool⟩
    | closed stage hstage hclosed =>
      subst hstage
      exact absurd (run.staged i stage hi).1 hclosed
  rcases run.shape.cases hi with ⟨-, hend⟩ | ⟨-, hend⟩ | ⟨j, g, hplace, hg, hfg⟩
  · rw [hend] at hgone
    cases acceptMode <;> simp at hgone
  · rw [hend] at hgone
    cases acceptMode <;> simp at hgone
  · rw [hfg] at hgone
    exact ⟨j, g, hplace, hg, hgone⟩

section Handed
variable {t i now : Nat} {r : ℚ}

/-- The packet that `Output` accepts has left the chain. -/
theorem Fate.leaves (hF : Fate acceptMode L h s p) (run : Runs acceptMode L h s)
    (hs : s.step (.run t (.handle i p) r now) = some s')
    (hexit : exit acceptMode L (.run t (.handle i p) r now) = [p])
    (hcount : s'.inside + {p} = s.inside) (hpool : s'.pool = s.pool.setVerdict p true) :
    Fate acceptMode L (.run t (.handle i p) r now :: h) s' p := by
  have hin := mem_inside_of_handle hs
  refine .left (run.not_mem_of_gone hin hcount).1 ?_ (hF.settledOnce run hin hpool)
  rw [exits_cons, hexit]
  exact List.mem_append_right _ List.mem_cons_self

/-- The packet that a filter has let go of. -/
theorem Fate.lost (hF : Fate acceptMode L h s p) (run : Runs acceptMode L h s)
    (hs : s.step (.run t (.handle i p) r now) = some s') {f : RouterFilter}
    (hi : s.filters[i]? = some f) (hcls : f.cls ≠ .Output)
    (hexit : exit acceptMode L (.run t (.handle i p) r now) = [])
    (hcount : s'.inside + {p} = s.inside) (hgo : LetsGo s p s'.pool f) :
    Fate acceptMode L (.run t (.handle i p) r now :: h) s' p := by
  have hin := mem_inside_of_handle hs
  obtain ⟨hnot, hout⟩ := run.not_mem_of_gone hin hcount
  have hout : p ∉ exits acceptMode L (.run t (.handle i p) r now :: h) := by
    rwa [exits_cons, hexit, List.append_nil]
  have hlast : LastHanded (.run t (.handle i p) r now :: h) p i :=
    ⟨h, [], t, r, now, rfl, by simp⟩
  obtain ⟨j, g, rfl, hg, ⟨hgone, hpool⟩ | ⟨hgone, hpool⟩⟩ := hgo.listed run hi hcls
  · exact .dropped j g hnot hout hg hgone hlast (hF.settledOnce run hin hpool)
  · refine .refused j g hnot hout hg hgone hlast fun hmode => ?_
    rw [hpool]
    exact hF.unsettled run hin hmode

end Handed

/-- **What becomes of a packet in a step.** -/
theorem Fate.step (hF : Fate acceptMode L h s p) (run : Runs acceptMode L h s)
    (hs : s.step e = some s') : Fate acceptMode L (e :: h) s' p := by
  cases (step_cases hs).balance run.shape run.listed with
  | moves hcount hmode => exact hF.moves run hs hcount hmode
  | leaves t q r now haccept he hcount hpool =>
    subst he
    have hexit : exit acceptMode L (.run t (.handle (L.length + 1) q) r now) = [q] :=
      if_pos ⟨haccept, rfl⟩
    by_cases hpq : p = q
    · subst hpq
      exact hF.leaves run hs hexit hcount hpool
    · refine hF.of_ne run hs hpq (hpool ▸ s.pool.keeps_setVerdict q true) hcount ?_
      rw [hexit]
      exact fun hmem => hpq (List.mem_singleton.mp hmem)
  | lost t i q r now f he hi hcls hexit hcount hgo =>
    subst he
    by_cases hpq : p = q
    · subst hpq
      exact hF.lost run hs hi hcls hexit hcount hgo
    · refine hF.of_ne run hs hpq (hgo.keeps run.staged hi) hcount ?_
      rw [hexit]
      exact List.not_mem_nil

theorem Runs.fate (run : Runs acceptMode L h s) (p : PacketPtr) : Fate acceptMode L h s p := by
  induction run with
  | @start s hs =>
    refine .toCome ?_ fun _ => ?_
    · rw [hs.pool]
      exact Nat.zero_le p
    · rw [hs.pool]
      exact ⟨rfl, rfl⟩
  | step run hs ih => exact ih.step run hs

end LockedChain

open LockedChain

/-- A chain in accept mode with a bucket that refuses all packets. -/
def refusing : List RouterFilter :=
  [.shaping (.tokenBucketFilter ⟨{ maxPackets := 0, timerStart := 0 },
    { maxPackets := 0, timerStart := 0 }⟩)]

/-- A packet is refused by `refusing`. -/
def refusingEvents : List LockedEvent :=
  [.arrive (.ofAddresses false 1 2 3 4), .run 0 (.handle 0 0) 0 0, .run 0 (.handle 1 0) 0 0,
    .run 0 (.trySend 1 false) 0 0]

theorem refusing_starts (headers : PacketPtr → Packet) :
    Starts true refusing
      ⟨wrap true refusing (OutputStage.uninit [] true).init, .empty, headers, [[]]⟩ where
  filters := ⟨(OutputStage.uninit [] true).init, rfl⟩
  listed := by simp [refusing, RouterFilter.Listed]
  started := by
    intro f hf
    simp only [wrap, refusing, if_true, List.cons_append, List.nil_append, List.mem_cons,
      List.not_mem_nil, or_false] at hf
    rcases hf with rfl | rfl | rfl
    · trivial
    · exact ⟨rfl, rfl⟩
    · trivial
  pool := rfl
  threads := rfl

/-- **No packet vanishes**: whatever the threads do, each packet that came in has one of the
fates.  Where nothing is listed that refuses packets, in accept mode the packets that have
had no verdict are those in the chain. -/
theorem no_packet_vanishes {acceptMode : Bool} {L : List RouterFilter} {h : List LockedEvent}
    {s : LockedChain} (run : Runs acceptMode L h s) {p : PacketPtr}
    (hp : p < s.pool.packets.next) :
    Fate acceptMode L h s p ∧
      (acceptMode = true → (∀ f ∈ L, f.cls ≠ .Nat ∧ f.cls ≠ .TokenBucketFilter) →
        (s.pool.verdictsOf p = [] ↔ p ∈ s.inside)) := by
  have hfate := run.fate p
  refine ⟨hfate, fun hmode hL => ?_⟩
  have hsettled : ∀ {v}, s.pool.SettledOnce p v → s.pool.verdictsOf p ≠ [] := by
    rintro v ⟨-, pkt, -, hverdicts⟩
    rw [hverdicts]
    exact List.cons_ne_nil _ _
  cases hfate with
  | toCome hle => exact absurd hp (Nat.not_lt.mpr hle)
  | inside hin _ hv => exact iff_of_true (hv hmode).2 hin
  | left hin _ hv => exact iff_of_false (hsettled (hv hmode)) hin
  | dropped i f hin _ _ _ _ hv => exact iff_of_false (hsettled (hv hmode)) hin
  | refused i f _ _ hf hcls =>
    have hne := hL f (List.mem_of_getElem? hf)
    rcases hcls with hcls | hcls
    · exact absurd hcls hne.1
    · exact absurd hcls hne.2

/-- The packet of `refusing`. -/
theorem no_packet_vanishes_refusing :
    ∃ s, Runs true refusing refusingEvents.reverse s ∧ s.pool.verdictsOf 0 = [] ∧
      Fate true refusing refusingEvents.reverse s 0 := by
  have run : Runs true refusing refusingEvents.reverse _ :=
    Run.of_replay LockedChain.step (fun _ _ _ h => h) refusingEvents
      (refusing_starts fun _ => .ofAddresses false 1 2 3 4) rfl
  exact ⟨_, run, rfl, (no_packet_vanishes run (by decide)).1⟩

end ShapingRouter
